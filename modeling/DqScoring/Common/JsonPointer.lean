import DqScoring.Common.PrivacyScanner
import DqScoring.Common.StructuredTexts
import DqScoring.Framework.StringReplace

/-!
# JSON pointers

`extract_json_field` against RFC 6901. `evaluate` is the evaluation of the RFC: a token names
a member of an object by its text and an element of an array by its index, where an index is 0
or a number without leading zeros (`rfcIndex`). The source reads the token of an array with
`int`, which takes other spellings too: signs, leading zeros, underscores, white space.

`extractJsonField_agrees_iff` says that the two agree exactly where no token of the pointer
tells the readings apart. The tokens themselves are decoded as the RFC says, in one pass as
well as in the two of the source.
-/

open Framework

namespace DqScoring

/-! ### Tokens -/

/-- A token with its escapes undone, in one pass. -/
def unescape : List Char → List Char
  | [] => []
  | '~' :: '1' :: cs => '/' :: unescape cs
  | '~' :: '0' :: cs => '~' :: unescape cs
  | c :: cs => c :: unescape cs

/-- A character other than the tilde stands for itself. -/
theorem unescape_cons {c : Char} (h : c ≠ '~') (cs : List Char) :
    unescape (c :: cs) = c :: unescape cs := by
  rw [unescape]
  · exact fun _ h_c => absurd h_c h
  · exact fun _ h_c => absurd h_c h

/-- A tilde that starts no escape stays. -/
theorem unescape_tilde {cs : List Char} (h_one : ∀ rest, cs ≠ '1' :: rest)
    (h_zero : ∀ rest, cs ≠ '0' :: rest) : unescape ('~' :: cs) = '~' :: unescape cs := by
  rw [unescape]
  · exact fun rest _ h_cs => h_one rest h_cs
  · exact fun rest _ h_cs => h_zero rest h_cs

/-- After the slashes the tildes: together they undo every escape. -/
theorem replaced_unescape {text out : List Char} (h : Replaced ['~', '1'] ['/'] text out) :
    Replaced ['~', '0'] ['~'] out (unescape text) := by
  induction h with
  | nil => exact .nil
  | @hit rest out _ ih =>
    show Replaced _ _ ('/' :: out) ('/' :: unescape rest)
    exact ih.of_head_ne (by decide)
  | @skip c rest out h_not h ih =>
    by_cases h_c : c = '~'
    · subst h_c
      by_cases h_zero : ∃ more, rest = '0' :: more
      · obtain ⟨more, rfl⟩ := h_zero
        -- the zero belongs to this escape, and the first pass has left it
        obtain ⟨out', rfl, -⟩ := h.exists_of_head_ne (by decide)
        rw [unescape_cons (by decide)] at ih
        obtain ⟨out'', h_eq, h_more⟩ := ih.exists_of_head_ne (by decide)
        obtain ⟨-, rfl⟩ := List.cons.inj h_eq
        exact .hit h_more
      · have h_one : ∀ more, rest ≠ '1' :: more := by
          rintro more rfl
          exact h_not ⟨more, rfl⟩
        have h_zero' : ∀ more, rest ≠ '0' :: more := fun more h_eq => h_zero ⟨more, h_eq⟩
        rw [unescape_tilde h_one h_zero']
        refine .skip ?_ ih
        rintro ⟨more, h_out⟩
        obtain ⟨-, rfl⟩ := List.cons.inj h_out
        -- a zero in front of the result stood in front of the text
        generalize h_result : '0' :: more = result at h
        cases h with
        | skip _ _ =>
          cases h_result
          exact h_zero' _ rfl
    · rw [unescape_cons h_c]
      exact ih.of_head_ne h_c

/-- The two passes of the source undo the escapes. -/
theorem toList_decodeToken (token : String) :
    (decodeToken token).toList = unescape token.toList := by
  have h_slash : Replaced ['~', '1'] ['/'] token.toList (token.replace "~1" "/").toList :=
    replaced_replace (show "~1" ≠ "" by decide) "/" token
  have h_tilde : Replaced ['~', '0'] ['~'] (token.replace "~1" "/").toList
      (decodeToken token).toList := replaced_replace (show "~0" ≠ "" by decide) "~" _
  exact h_tilde.unique (by decide) (replaced_unescape h_slash)

/-- The text of a key within a pointer. -/
def escaped (key : List Char) : List Char :=
  key.flatMap fun c => if c = '~' then ['~', '0'] else if c = '/' then ['~', '1'] else [c]

/-- Escaping replaces the tilde first and the slash second. -/
theorem toList_escapePointerKey (key : String) :
    (escapePointerKey key).toList = escaped key.toList := by
  have h_tilde : Replaced ['~'] ['~', '0'] key.toList (key.replace "~" "~0").toList :=
    replaced_replace (show "~" ≠ "" by decide) "~0" key
  have h_slash : Replaced ['/'] ['~', '1'] (key.replace "~" "~0").toList
      ((key.replace "~" "~0").replace "/" "~1").toList :=
    replaced_replace (show "/" ≠ "" by decide) "~1" _
  unfold escapePointerKey escaped
  rw [h_slash.eq_flatMap, h_tilde.eq_flatMap, List.flatMap_assoc]
  congr 1
  funext c
  by_cases h_c : c = '~'
  · simp [h_c]
  · simp [h_c]

/-- An escaped key is read back. -/
theorem unescape_escaped (key : List Char) : unescape (escaped key) = key := by
  induction key with
  | nil => rfl
  | cons c key ih =>
    unfold escaped at ih ⊢
    rw [List.flatMap_cons]
    split_ifs with h_tilde h_slash
    · rw [h_tilde]
      exact congrArg _ ih
    · rw [h_slash]
      exact congrArg _ ih
    · exact (unescape_cons h_tilde _).trans (congrArg _ ih)

/-- **Round trip of a key.** The token of a key is decoded to it. -/
theorem decodeToken_escapePointerKey (key : String) : decodeToken (escapePointerKey key) = key := by
  rw [← String.toList_inj, toList_decodeToken, toList_escapePointerKey, unescape_escaped]

/-! ### Evaluation -/

/-- The index of an element as RFC 6901 spells it: 0, or digits without a leading zero. -/
def rfcIndex (token : String) : Option ℕ :=
  match token.toList with
  | [] => none
  | c :: cs =>
    if (c :: cs).all Char.isDigit && (c != '0' || cs.isEmpty) then
      some (Nat.ofDigitChars 10 (c :: cs) 0)
    else none

/-- The index that `int` reads, when it is not negative. -/
def intIndex {δ : Type} (python : Python δ) (token : String) : Option ℕ :=
  (python.parseInt token).bind fun n => if n < 0 then none else some n.toNat

/-- What a pointer designates. -/
inductive Designation where
  | value (v : Json)
  /-- A member or an element does not exist. -/
  | nonexistent
  /-- A token is applied to a scalar. -/
  | scalar

/-- The evaluation of the tokens of a pointer, with a reading of the tokens of arrays. -/
def evaluate (index : String → Option ℕ) : List String → Json → Designation
  | [], target => .value target
  | token :: tokens, .obj entries =>
    -- a member that is not there ends the pointer
    match entries.lookup token with
    | some v => evaluate index tokens v
    | none => .nonexistent
  | token :: tokens, .arr items =>
    -- so does an index outside the array
    match (index token).bind (items[·]?) with
    | some v => evaluate index tokens v
    | none => .nonexistent
  -- a scalar has no members to go on to
  | _ :: _, _ => .scalar

/-- The tokens of a pointer. -/
def pointerTokens (path : String) : List String :=
  if path = "" then []
  else ((path.drop 1).toString.splitOn "/").map fun token => String.ofList (unescape token.toList)

/-- What a pointer designates by RFC 6901. -/
def designates (path : String) (root : Json) : Designation :=
  evaluate rfcIndex (pointerTokens path) root

/-- The field says what is designated: a null is missing, as is what does not exist. -/
def Designation.AnsweredBy (d : Designation) (field : JsonField) : Prop :=
  match d with
  | .value .null => field.state = .missing
  | .value v => field = fieldOf v
  | .nonexistent => field.state = .missing
  | .scalar => field.state = .miscast

/-- The tokens lead to a null, to a member that an object does not have, or to an element that an
array does not have. -/
def LeadsNowhere (index : String → Option ℕ) : List String → Json → Prop
  | [], target => target = .null
  | token :: tokens, .obj entries =>
    ∀ v, entries.lookup token = some v → LeadsNowhere index tokens v
  | token :: tokens, .arr items =>
    ∀ v, (index token).bind (items[·]?) = some v → LeadsNowhere index tokens v
  | _ :: _, _ => False

/-- Every token that is applied to an array is read as the same element by `int` and by the RFC.
Where only one of them finds an element, the remaining tokens lead nowhere from it. -/
def SpelledAlike (int : String → Option ℕ) : List String → Json → Prop
  | [], _ => True
  | token :: tokens, .obj entries =>
    ∀ v, entries.lookup token = some v → SpelledAlike int tokens v
  | token :: tokens, .arr items =>
    -- the two readings of a token must lead to the same value
    match (rfcIndex token).bind (items[·]?), (int token).bind (items[·]?) with
    | some v, some _ => SpelledAlike int tokens v
    | some v, none => LeadsNowhere rfcIndex tokens v
    | none, some v => LeadsNowhere int tokens v
    | none, none => True
  | _ :: _, _ => True

/-! ### Agreement -/

/-- A value that is no null is present. -/
theorem fieldOf_state {v : Json} : (fieldOf v).state = .missing ↔ v = .null := by
  cases v <;> simp [fieldOf]

/-- What is designated is missing. -/
def Designation.IsMissing : Designation → Prop
  | .value v => v = .null
  | .nonexistent => True
  | .scalar => False

/-- A field that is missing answers what is missing only. -/
theorem answeredBy_of_missing {field : JsonField} (h_field : field.state = .missing)
    (d : Designation) : d.AnsweredBy field ↔ d.IsMissing := by
  cases d with
  | value v =>
    show _ ↔ v = .null
    constructor
    · intro h
      rw [← fieldOf_state]
      cases v <;> first | rfl | exact h ▸ h_field
    · rintro rfl
      exact h_field
  | nonexistent => exact iff_of_true h_field trivial
  | scalar =>
    refine iff_of_false ?_ id
    intro h
    cases h_field.symm.trans h

/-- Nothing else that is missing answers a designation. -/
theorem Designation.AnsweredBy.missing_iff {d : Designation} {field : JsonField}
    (h : d.AnsweredBy field) : field.state = .missing ↔ d.IsMissing := by
  constructor
  · intro h_field
    exact (answeredBy_of_missing h_field d).mp h
  · intro h_missing
    cases d with
    | value v =>
      obtain rfl : v = .null := h_missing
      exact h
    | nonexistent => exact h
    | scalar => exact h_missing.elim

/-- A pointer misses exactly where its tokens lead nowhere. -/
theorem isMissing_evaluate_iff {index : String → Option ℕ} (tokens : List String) :
    ∀ v, (evaluate index tokens v).IsMissing ↔ LeadsNowhere index tokens v := by
  induction tokens with
  | nil => exact fun v => Iff.rfl
  | cons token tokens ih =>
    intro v
    cases v with
    | obj entries =>
      unfold evaluate LeadsNowhere
      cases entries.lookup token with
      | none => exact iff_of_true trivial (by simp)
      | some v => simpa using ih v
    | arr items =>
      unfold evaluate LeadsNowhere
      cases (index token).bind (items[·]?) with
      | none => exact iff_of_true trivial (by simp)
      | some v => simpa using ih v
    | null => exact Iff.rfl
    | bool b => exact Iff.rfl
    | int n => exact Iff.rfl
    | decimal d => exact Iff.rfl
    | str s => exact Iff.rfl

section Agreement

variable {δ : Type} {python : Python δ}

/-- The source follows a token of an array to the element that `int` reads. -/
theorem walk_arr (token : String) (tokens : List String) (items : List Json) :
    walk python (token :: tokens) (.arr items) =
      match (intIndex python token).bind (items[·]?) with
      | some v => walk python tokens v
      | none => { state := .missing } := by
  unfold intIndex
  rw [walk]
  cases python.parseInt token with
  | none => rfl
  | some n =>
    by_cases h : n < 0
    · simp [h]
    · cases h_item : items[n.toNat]? with
      | none => simp [h, h_item]
      | some v => simp [h, h_item]

/-- The source answers the evaluation with `int`. -/
theorem answeredBy_walk (tokens : List String) :
    ∀ v, (evaluate (intIndex python) tokens v).AnsweredBy (walk python tokens v) := by
  induction tokens with
  | nil =>
    intro v
    cases v <;> rfl
  | cons token tokens ih =>
    intro v
    cases v with
    | obj entries =>
      unfold evaluate walk
      cases entries.lookup token with
      | none => rfl
      | some v => exact ih v
    | arr items =>
      rw [walk_arr]
      unfold evaluate
      cases (intIndex python token).bind (items[·]?) with
      | none => rfl
      | some v => exact ih v
    | null => rfl
    | bool b => rfl
    | int n => rfl
    | decimal d => rfl
    | str s => rfl

/-- The source answers that the field is missing where the tokens, read by `int`, lead nowhere. -/
theorem walk_missing_iff (tokens : List String) (v : Json) :
    (walk python tokens v).state = .missing ↔ LeadsNowhere (intIndex python) tokens v :=
  (answeredBy_walk tokens v).missing_iff.trans (isMissing_evaluate_iff tokens v)

/-- The source answers the evaluation of the RFC exactly where the tokens are spelled alike. An
index of the RFC is a number for `int` as well, unless it has too many digits. -/
theorem answeredBy_walk_iff
    (h_int : ∀ token n, rfcIndex token = some n →
      python.parseInt token = some (n : ℤ) ∨ python.parseInt token = none)
    (tokens : List String) :
    ∀ v, (evaluate rfcIndex tokens v).AnsweredBy (walk python tokens v) ↔
      SpelledAlike (intIndex python) tokens v := by
  induction tokens with
  | nil =>
    intro v
    exact iff_of_true (answeredBy_walk [] v) trivial
  | cons token tokens ih =>
    intro v
    cases v with
    | obj entries =>
      -- in an object both look up the key
      unfold evaluate walk SpelledAlike
      cases entries.lookup token with
      | none => exact iff_of_true rfl (by simp)
      | some v => simpa using ih v
    | arr items =>
      -- in an array both need an index that is in range
      rw [walk_arr]
      unfold evaluate SpelledAlike
      cases h_rfc : (rfcIndex token).bind (items[·]?) with
      | none =>
        cases h_walk : (intIndex python token).bind (items[·]?) with
        | none => exact iff_of_true rfl trivial
        | some v =>
          -- the source goes on where the RFC has stopped
          exact walk_missing_iff tokens v
      | some v =>
        cases h_walk : (intIndex python token).bind (items[·]?) with
        | none =>
          -- the RFC goes on where the source has stopped: both miss exactly if the RFC does
          exact (answeredBy_of_missing rfl _).trans (isMissing_evaluate_iff tokens v)
        | some u =>
          -- both have read a number, which is the same
          obtain ⟨n, h_n, h_v⟩ := Option.bind_eq_some_iff.mp h_rfc
          obtain ⟨m, h_m, h_u⟩ := Option.bind_eq_some_iff.mp h_walk
          have h_eq : m = n := by
            unfold intIndex at h_m
            rcases h_int token n h_n with h_parse | h_parse
            · rw [h_parse] at h_m
              simpa using h_m.symm
            · rw [h_parse] at h_m
              cases h_m
          obtain rfl : v = u := by
            rw [h_eq, h_v] at h_u
            exact Option.some.inj h_u
          exact ih v
    -- a scalar has no members for either
    | null => exact iff_of_true rfl trivial
    | bool b => exact iff_of_true rfl trivial
    | int n => exact iff_of_true rfl trivial
    | decimal d => exact iff_of_true rfl trivial
    | str s => exact iff_of_true rfl trivial

/-- The tokens of the source are those of the RFC. -/
theorem extractJsonField_eq {parse : String → Except JsonFailure Json} {text path : String}
    {root : Json} (h_root : parse text = .ok root) (h_path : isJsonPointer path = true) :
    extractJsonField python parse (some text) path =
      .ok (walk python (pointerTokens path) root) := by
  have h_tokens : (fun token => String.ofList (unescape token.toList)) = decodeToken := by
    funext token
    rw [← toList_decodeToken, String.ofList_toList]
  unfold extractJsonField pointerTokens
  rw [h_tokens]
  simp only [h_root]
  by_cases h_empty : path = ""
  · rw [if_pos h_empty, if_pos h_empty]
    rfl
  · have h_slash : path.toList.head? = some '/' := by
      unfold isJsonPointer at h_path
      simp only [Bool.and_eq_true, Bool.or_eq_true, beq_iff_eq] at h_path
      exact h_path.1.resolve_left h_empty
    rw [if_neg h_empty, if_neg (not_not.mpr h_slash), if_neg h_empty]

end Agreement

/-! ### The integers of texts -/

/-- The digits of a text in which single underscores may stand between digits. -/
def digitGroups : List Char → Option (List Char)
  | [] => none
  | [c] => if c.isDigit then some [c] else none
  | c :: '_' :: cs => if c.isDigit then (digitGroups cs).map (c :: ·) else none
  | c :: cs => if c.isDigit then (digitGroups cs).map (c :: ·) else none

/-- The number of a text of digits, when `int` takes so many. -/
def natOfGroups (limits : ParserLimits) (cs : List Char) : Option ℤ :=
  (digitGroups cs).bind fun ds =>
    if limits.AllowDigits ds.length then some (Nat.ofDigitChars 10 ds 0 : ℤ) else none

/-- `int(text)` of a text of ASCII characters. -/
def asciiInt (limits : ParserLimits) (text : String) : Option ℤ :=
  let isSpace := fun c : Char => decide (9 ≤ c.toNat ∧ c.toNat ≤ 13) || c == ' '
  match ((text.toList.dropWhile isSpace).reverse.dropWhile isSpace).reverse with
  | '-' :: cs => (natOfGroups limits cs).map (-·)
  | '+' :: cs => natOfGroups limits cs
  | cs => natOfGroups limits cs

/-- Digits are read without change. -/
theorem digitGroups_of_digits (c : Char) (cs : List Char) :
    (∀ d ∈ c :: cs, d.isDigit = true) → digitGroups (c :: cs) = some (c :: cs) := by
  induction cs generalizing c with
  | nil =>
    intro h
    exact if_pos (h c List.mem_cons_self)
  | cons d cs ih =>
    intro h
    have h_d : d ≠ '_' := by
      rintro rfl
      exact absurd (h '_' (by simp)) (by decide)
    have h_tail := ih d fun e h_e => h e (List.mem_cons_of_mem c h_e)
    rw [digitGroups]
    · rw [if_pos (h c List.mem_cons_self), h_tail]
      rfl
    · exact List.cons_ne_nil d cs
    · intro rest h_eq
      exact h_d (List.cons.inj h_eq).1

/-- An index of the RFC consists of digits. -/
theorem digits_of_rfcIndex {token : String} {n : ℕ} (h : rfcIndex token = some n) :
    ∃ c cs, token.toList = c :: cs ∧ (∀ d ∈ c :: cs, d.isDigit = true) ∧
      Nat.ofDigitChars 10 (c :: cs) 0 = n := by
  unfold rfcIndex at h
  cases h_token : token.toList with
  | nil => simp [h_token] at h
  | cons c cs =>
    rw [h_token] at h
    refine ⟨c, cs, rfl, ?_⟩
    simp only [Option.ite_none_right_eq_some, Bool.and_eq_true, List.all_eq_true,
      Option.some.injEq] at h
    exact ⟨h.1.1, h.2⟩

/-- No stripping changes a text of digits. -/
theorem dropWhile_of_digits {p : Char → Bool} (h_p : ∀ d : Char, d.isDigit = true → p d = false)
    {cs : List Char} (h : ∀ d ∈ cs, d.isDigit = true) : cs.dropWhile p = cs := by
  cases cs with
  | nil => rfl
  | cons c cs =>
    refine List.dropWhile_cons_of_neg ?_
    rw [h_p c (h c List.mem_cons_self)]
    exact Bool.false_ne_true

/-- An index of the RFC is that number for `int`, unless it has too many digits. -/
theorem asciiInt_of_rfcIndex (limits : ParserLimits) {token : String} {n : ℕ}
    (h : rfcIndex token = some n) :
    asciiInt limits token = some (n : ℤ) ∨ asciiInt limits token = none := by
  obtain ⟨c, cs, h_token, h_digits, h_n⟩ := digits_of_rfcIndex h
  have h_space : ∀ d : Char, d.isDigit = true →
      (decide (9 ≤ d.toNat ∧ d.toNat ≤ 13) || d == ' ') = false := by
    intro d h_d
    have h_blank : d ≠ ' ' := by
      rintro rfl
      exact absurd h_d (by decide)
    have h_low : 48 ≤ d.toNat := (Char.isDigit_iff_toNat.mp h_d).1
    have h_range : ¬(9 ≤ d.toNat ∧ d.toNat ≤ 13) := by omega
    simp [h_range, h_blank]
  have h_c := h_digits c List.mem_cons_self
  have h_groups :
      natOfGroups limits (c :: cs) = some (n : ℤ) ∨ natOfGroups limits (c :: cs) = none := by
    unfold natOfGroups
    rw [digitGroups_of_digits c cs h_digits, Option.bind_some, h_n]
    split_ifs
    · exact .inl rfl
    · exact .inr rfl
  unfold asciiInt
  simp only [h_token, dropWhile_of_digits h_space h_digits]
  rw [dropWhile_of_digits h_space (fun d h_d => h_digits d (List.mem_reverse.mp h_d)),
    List.reverse_reverse]
  split
  · rename_i h_eq
    rw [(List.cons.inj h_eq).1] at h_c
    exact absurd h_c (by decide)
  · rename_i h_eq
    rw [(List.cons.inj h_eq).1] at h_c
    exact absurd h_c (by decide)
  · exact h_groups

/-! ### The law -/

/-- **Pointers.** The token of a key is decoded to the key. The field at an accepted pointer of an
accepted document is what RFC 6901 designates if and only if the tokens that are applied to arrays
are read alike, or lead nowhere where they are not. -/
theorem extractJsonField_agrees_iff {δ : Type} {python : Python δ} {limits : ParserLimits}
    (h_int : ∀ token n, rfcIndex token = some n →
      python.parseInt token = some (n : ℤ) ∨ python.parseInt token = none)
    {text path : String} {root : Json} (h_root : parseStructuredJson limits text = .ok root)
    (h_path : isJsonPointer path = true) :
    (∀ key, decodeToken (escapePointerKey key) = key) ∧
    ((∃ field, extractJsonField python (fun t => parseStructuredJson limits t) (some text) path =
        .ok field ∧ (designates path root).AnsweredBy field) ↔
      SpelledAlike (intIndex python) (pointerTokens path) root) := by
  refine ⟨decodeToken_escapePointerKey, ?_⟩
  rw [extractJsonField_eq h_root h_path]
  constructor
  · rintro ⟨field, h_field, h_answer⟩
    obtain rfl := Except.ok.inj h_field
    exact (answeredBy_walk_iff h_int _ root).mp h_answer
  · intro h_spelled
    exact ⟨_, rfl, (answeredBy_walk_iff h_int _ root).mpr h_spelled⟩

/-- A Python whose `int` reads texts of ASCII characters; nothing else of it is used here. -/
def asciiPython : Python ℚ where
  upper := String.toUpper
  lower := String.toLower
  repr := fun _ => ""
  errorText := fun _ => ""
  parseInt := asciiInt ⟨4300, 1000⟩
  parseFloat := fun _ => none
  ofRat := .ok
  decimal := fun _ => none

/-- The document `[1,2]`. -/
def pairDocument : Json := .arr [.int 1, .int 2]

/-- The literal of a digit other than zero. -/
def digitLiteral (d : Digit) (h : d.val ≠ '0') : NumberLiteral :=
  ⟨false, .nonzero ⟨d, []⟩ h, none, none⟩

/-- The sample document has two items. -/
theorem parse_pairDocument :
    parseStructuredJson ⟨4300, 1000⟩ "[1,2]" = .ok pairDocument := by
  have h_one := Spells.number (digitLiteral ⟨'1', rfl⟩ (by decide))
  have h_two := Spells.number (digitLiteral ⟨'2', rfl⟩ (by decide))
  have h_text : SpellsText "[1,2]" (.array [.number _, .number _]) :=
    ⟨[], _, [], rfl, List.forall_mem_nil _, List.forall_mem_nil _,
      .array (.more h_one.padded (.last h_two.padded))⟩
  rw [parse_of_spellsText _ _ h_text]
  rfl

theorem pointerTokens_one : pointerTokens "/1" = ["1"] := by
  have h_drop : ("/1".drop 1).toString = "1" := by decide +kernel
  have h_split : "1".splitOn "/" = ["1"] := by
    unfold String.splitOn
    rw [if_neg (by decide +kernel)]
    rw [String.splitOnAux, if_neg (by decide +kernel), if_neg (by decide +kernel)]
    rw [String.splitOnAux, if_pos (by decide +kernel)]
    decide +kernel
  unfold pointerTokens
  rw [if_neg (by decide), h_drop, h_split]
  decide +kernel

/-- The second element, as the RFC and `int` read its index. -/
theorem extractJsonField_agrees_pair :
    ∃ field, extractJsonField asciiPython (fun t => parseStructuredJson ⟨4300, 1000⟩ t)
      (some "[1,2]") "/1" = .ok field ∧ (designates "/1" pairDocument).AnsweredBy field := by
  refine (extractJsonField_agrees_iff (fun _ _ => asciiInt_of_rfcIndex _) parse_pairDocument
    (by decide)).2.mpr ?_
  have h_rfc : rfcIndex "1" = some 1 := by decide +kernel
  have h_int : intIndex asciiPython "1" = some 1 := by decide +kernel
  rw [pointerTokens_one, pairDocument, SpelledAlike, h_rfc, h_int]
  trivial

/-- The pointer `/01` has one token. -/
theorem pointerTokens_leadingZero : pointerTokens "/01" = ["01"] := by
  have h_drop : ("/01".drop 1).toString = "01" := by decide +kernel
  -- the search for a slash fails at both characters
  have h_split : "01".splitOn "/" = ["01"] := by
    unfold String.splitOn
    rw [if_neg (by decide +kernel)]
    rw [String.splitOnAux, if_neg (by decide +kernel), if_neg (by decide +kernel)]
    rw [String.splitOnAux, if_neg (by decide +kernel), if_neg (by decide +kernel)]
    rw [String.splitOnAux, if_pos (by decide +kernel)]
    decide +kernel
  unfold pointerTokens
  rw [if_neg (by decide), h_drop, h_split]
  decide +kernel

/-- A leading zero is no part of an index, but `int` reads it. -/
theorem extractJsonField_leadingZero :
    parseStructuredJson ⟨4300, 1000⟩ "[1,2]" = .ok pairDocument ∧ isJsonPointer "/01" = true ∧
    ¬∃ field, extractJsonField asciiPython (fun t => parseStructuredJson ⟨4300, 1000⟩ t)
        (some "[1,2]") "/01" = .ok field ∧ (designates "/01" pairDocument).AnsweredBy field := by
  refine ⟨parse_pairDocument, by decide, ?_⟩
  rintro ⟨field, h_field, h_answer⟩
  have h_walk : extractJsonField asciiPython (fun t => parseStructuredJson ⟨4300, 1000⟩ t)
      (some "[1,2]") "/01" = .ok (walk asciiPython (pointerTokens "/01") pairDocument) :=
    extractJsonField_eq parse_pairDocument (by decide)
  obtain rfl := Except.ok.inj (h_walk.symm.trans h_field)
  have h_rfc : rfcIndex "01" = none := by decide +kernel
  have h_int : asciiPython.parseInt "01" = some 1 := by decide +kernel
  unfold designates at h_answer
  rw [pointerTokens_leadingZero] at h_answer
  unfold pairDocument evaluate walk at h_answer
  rw [h_rfc, h_int] at h_answer
  cases h_answer

end DqScoring
