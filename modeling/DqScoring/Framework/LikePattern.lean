import Mathlib.Data.List.Infix

/-!
# LIKE patterns

The patterns of SQL's `LIKE`: `%` stands for any text, `_` for one character, and a backslash takes
what follows it as it is. A text is escaped by a backslash before each character with a meaning
(`escape`); between two `%` it then matches the texts that contain it (`matches_contains`).
-/

namespace Framework.Like

/-- An item of a pattern. -/
inductive Token where
  | any
  | one
  | char (c : Char)
  deriving DecidableEq

/-- The characters with a meaning. -/
def isSpecial (c : Char) : Bool := c = '\\' || c = '%' || c = '_'

/-- The items of a pattern; absent where it ends with a backslash. -/
def tokens : List Char → Option (List Token)
  | [] => some []
  | ['\\'] => none
  | '\\' :: c :: rest => (tokens rest).map (.char c :: ·)
  | '%' :: rest => (tokens rest).map (.any :: ·)
  | '_' :: rest => (tokens rest).map (.one :: ·)
  | c :: rest => (tokens rest).map (.char c :: ·)

/-- The whole text matches. -/
def isMatch : List Token → List Char → Bool
  | [], text => text.isEmpty
  -- a per cent sign takes any part of the text
  | .any :: rest, text => text.tails.any (isMatch rest)
  -- an underscore takes one character
  | .one :: rest, text => match text with
    | [] => false
    | _ :: text => isMatch rest text
  -- everything else stands for itself
  | .char c :: rest, text => match text with
    | [] => false
    | c' :: text => c = c' && isMatch rest text

/-- A text as a pattern for itself. -/
def escape (text : List Char) : List Char :=
  text.flatMap fun c => if isSpecial c then ['\\', c] else [c]

variable {text rest : List Char} {items : List Token}

/-- An escaped text stands for itself. -/
theorem tokens_escape (text rest : List Char) :
    tokens (escape text ++ rest) = (tokens rest).map (text.map Token.char ++ ·) := by
  induction text with
  | nil => simp [escape]
  | cons c text ih =>
    have h_rest : ∀ items : Option (List Token), (items.map (text.map Token.char ++ ·)).map
        (Token.char c :: ·) = items.map ((c :: text).map Token.char ++ ·) := by
      intro items
      rw [Option.map_map]
      rfl
    rw [← h_rest, ← ih]
    by_cases h : isSpecial c = true
    · show tokens ((if isSpecial c then ['\\', c] else [c]) ++ escape text ++ rest) = _
      rw [if_pos h]
      rfl
    · show tokens ((if isSpecial c then ['\\', c] else [c]) ++ escape text ++ rest) = _
      rw [if_neg h]
      have h_plain : c ≠ '\\' ∧ c ≠ '%' ∧ c ≠ '_' := by
        simpa [isSpecial, and_assoc] using h
      show tokens (c :: (escape text ++ rest)) = _
      rw [tokens] <;> simp [h_plain]

/-- Literal characters match themselves. -/
theorem isMatch_chars :
    isMatch (rest.map Token.char ++ items) text = true ↔
      ∃ after, text = rest ++ after ∧ isMatch items after = true := by
  induction rest generalizing text with
  | nil => simp
  | cons c rest ih =>
    cases text with
    | nil => simp [isMatch]
    | cons c' text =>
      rw [List.map_cons, List.cons_append, isMatch, Bool.and_eq_true, decide_eq_true_iff, ih]
      constructor
      · rintro ⟨rfl, after, rfl, h⟩
        exact ⟨after, rfl, h⟩
      · rintro ⟨after, h_text, h⟩
        cases h_text
        exact ⟨rfl, after, rfl, h⟩

/-- A wildcard matches any stretch. -/
theorem isMatch_any :
    isMatch (.any :: items) text = true ↔
      ∃ before after, text = before ++ after ∧ isMatch items after = true := by
  rw [isMatch, List.any_eq_true]
  constructor
  · rintro ⟨after, h_suffix, h⟩
    obtain ⟨before, rfl⟩ := (List.mem_tails _ _).mp h_suffix
    exact ⟨before, after, rfl, h⟩
  · rintro ⟨before, after, rfl, h⟩
    exact ⟨after, (List.mem_tails _ _).mpr ⟨before, rfl⟩, h⟩

/-- The pattern for the texts that contain one. -/
theorem tokens_contains (part : List Char) :
    tokens ('%' :: (escape part ++ ['%'])) = some (.any :: (part.map Token.char ++ [.any])) := by
  have h_tokens : tokens ('%' :: (escape part ++ ['%'])) =
      (tokens (escape part ++ ['%'])).map (Token.any :: ·) := rfl
  rw [h_tokens, tokens_escape]
  rfl

/-- Wildcards on both sides look for a part. -/
theorem isMatch_contains {part : List Char} :
    isMatch (.any :: (part.map Token.char ++ [.any])) text = true ↔ part <:+: text := by
  rw [isMatch_any]
  constructor
  · rintro ⟨before, after, rfl, h⟩
    obtain ⟨last, rfl, _⟩ := isMatch_chars.mp h
    exact ⟨before, last, by rw [List.append_assoc]⟩
  · rintro ⟨before, last, rfl⟩
    refine ⟨before, part ++ last, by rw [List.append_assoc], isMatch_chars.mpr ⟨last, rfl, ?_⟩⟩
    exact isMatch_any.mpr ⟨last, [], (List.append_nil last).symm, rfl⟩

end Framework.Like
