import DqScoring.Framework.JsonScanner
import DqScoring.Framework.Traverse
import Mathlib.Data.List.DropRight

/-!
# JSON decoders

A decoder reads a text from the front and hands what it finds to its hooks
(`JsonHooks`), each as soon as it is complete, so that an error of a hook comes before any
error of the text behind it. `JsonTree.decode` gives the same value from a tree, and the two
agree on every text: `scanValue_of_spells` says that the decoder gives the value of the tree
that the text spells, and `spells_of_scanValue` that it gives no other.

The decoder recurses at most `depth` containers deep. It runs on fuel, of which twice the
length of the text is enough (`scanValue_fuel`).
-/

namespace Framework

/-! ### Decoders -/

/-- What a decoder makes of the parts of a document. -/
structure JsonHooks (V ε : Type) where
  null : V
  bool : Bool → V
  constant : JsonConstant → Except ε V
  number : NumberLiteral → Except ε V
  string : List ℕ → V
  array : List V → V
  object : List (List ℕ × V) → Except ε V
  /-- The error of a text that is no JSON. -/
  malformed : ε
  /-- The error of a container that is nested too deep to be read. -/
  tooDeep : ε

section Decoder

variable {V ε : Type} (hooks : JsonHooks V ε)

mutual

/-- The value of a document. -/
def JsonTree.decode (depth : ℕ) : JsonTree → Except ε V
  | .null => .ok hooks.null
  | .bool b => .ok (hooks.bool b)
  | .constant c => hooks.constant c
  | .number n => hooks.number n
  | .string parts => .ok (hooks.string (codePoints parts))
  | .array items =>
    -- each array and object uses up one level of the depth
    match depth with
    | 0 => .error hooks.tooDeep
    | depth + 1 => do return hooks.array (← decodeItems depth items)
  | .object entries =>
    match depth with
    | 0 => .error hooks.tooDeep
    | depth + 1 => do hooks.object (← decodeEntries depth entries)

/-- The values of the items of an array. -/
def decodeItems (depth : ℕ) : List JsonTree → Except ε (List V)
  | [] => .ok []
  | t :: items => do
    let v ← t.decode depth
    return v :: (← decodeItems depth items)

/-- The keys and values of an object. -/
def decodeEntries (depth : ℕ) : List (List StringPart × JsonTree) → Except ε (List (List ℕ × V))
  | [] => .ok []
  | (key, t) :: entries => do
    let v ← t.decode depth
    return (codePoints key, v) :: (← decodeEntries depth entries)

end

/-- Scan with the blanks around. -/
def padded (scan : List Char → Except ε (V × List Char)) (cs : List Char) :
    Except ε (V × List Char) := do
  let (v, rest) ← scan (skipBlanks cs)
  return (v, skipBlanks rest)

/-- After a part of a container comes its end, or another part. -/
def partsAfter {α : Type} (close : Char) (part : α)
    (scan : List Char → Except ε (List α × List Char)) : List Char → Except ε (List α × List Char)
  | [] => .error hooks.malformed
  | c :: rest =>
    -- the closing bracket ends the list, a comma goes on
    if c = close then .ok ([part], rest)
    else if c = ',' then do
      let (parts, rest) ← scan rest
      return (part :: parts, rest)
    else .error hooks.malformed

/-- The key of an entry, up to its colon. -/
def scanKey (cs : List Char) : Option (List StringPart × List Char) :=
  match skipBlanks cs with
  | [] => none
  | c :: cs =>
    if c = '"' then
      (scanParts cs).bind fun (key, rest) =>
        match skipBlanks rest with
        | [] => none
        | c :: text => if c = ':' then some (key, text) else none
    else none

/-- The value of a word or a number. -/
def scanScalar (cs : List Char) : Except ε (V × List Char) :=
  match scanWord cs with
  | some (word, rest) => do return (← word.decode hooks 0, rest)
  | none =>
    match scanNumber cs with
    | some (n, rest) => do return (← hooks.number n, rest)
    | none => .error hooks.malformed

mutual

/-- The value at the front of a text, and what is left of the text. -/
def scanValue : ℕ → ℕ → List Char → Except ε (V × List Char)
  | 0, _, _ => .error hooks.malformed
  | _ + 1, _, [] => .error hooks.malformed
  | fuel + 1, depth, c :: cs =>
    if c = '"' then
      match scanParts cs with
      | some (parts, rest) => .ok (hooks.string (codePoints parts), rest)
      | none => .error hooks.malformed
    else if c = '[' then
      match depth with
      | 0 => .error hooks.tooDeep
      | depth + 1 =>
        if (skipBlanks cs).head? = some ']' then .ok (hooks.array [], (skipBlanks cs).tail)
        else do
          let (items, rest) ← scanItems fuel depth (skipBlanks cs)
          return (hooks.array items, rest)
    -- the braces are written as escapes
    else if c = '\x7b' then
      match depth with
      | 0 => .error hooks.tooDeep
      | depth + 1 =>
        if (skipBlanks cs).head? = some '\x7d' then do
          return (← hooks.object [], (skipBlanks cs).tail)
        else do
          let (entries, rest) ← scanEntries fuel depth (skipBlanks cs)
          return (← hooks.object entries, rest)
    else scanScalar hooks (c :: cs)

/-- The items up to the closing bracket. -/
def scanItems : ℕ → ℕ → List Char → Except ε (List V × List Char)
  | 0, _, _ => .error hooks.malformed
  | fuel + 1, depth, cs => do
    let (v, rest) ← padded (scanValue fuel depth) cs
    partsAfter hooks ']' v (scanItems fuel depth) rest

/-- The entries up to the closing brace. -/
def scanEntries : ℕ → ℕ → List Char → Except ε (List (List ℕ × V) × List Char)
  | 0, _, _ => .error hooks.malformed
  | fuel + 1, depth, cs =>
    match scanKey cs with
    | none => .error hooks.malformed
    | some (key, text) => do
      let (v, rest) ← padded (scanValue fuel depth) text
      partsAfter hooks '\x7d' (codePoints key, v) (scanEntries fuel depth) rest

end

/-- Items are decoded one by one, and the first failure ends the array. -/
theorem decodeItems_eq_mapM (depth : ℕ) (items : List JsonTree) :
    decodeItems hooks depth items = items.mapM (JsonTree.decode hooks depth) := by
  induction items with
  | nil => rfl
  | cons t items ih => rw [decodeItems, List.mapM_cons, ih]

/-- Entries are decoded one by one, and the first failure ends the object. -/
theorem decodeEntries_eq_mapM (depth : ℕ) (entries : List (List StringPart × JsonTree)) :
    decodeEntries hooks depth entries =
      entries.mapM fun e => (e.2.decode hooks depth).map fun v => (codePoints e.1, v) := by
  induction entries with
  | nil => rfl
  | cons e entries ih =>
    rw [decodeEntries, List.mapM_cons, ih]
    cases e.2.decode hooks depth <;> rfl

/-! ### Texts that spell a tree -/

theorem skipBlanks_skipBlanks (cs : List Char) : skipBlanks (skipBlanks cs) = skipBlanks cs := by
  exact List.dropWhile_idempotent _ _

/-- White space before the items is skipped anyway. -/
theorem scanItems_skipBlanks (fuel depth : ℕ) (cs : List Char) :
    scanItems hooks fuel depth (skipBlanks cs) = scanItems hooks fuel depth cs := by
  cases fuel with
  | zero => rfl
  | succ fuel =>
    unfold scanItems padded
    rw [skipBlanks_skipBlanks]

/-- White space before the entries is skipped anyway. -/
theorem scanEntries_skipBlanks (fuel depth : ℕ) (cs : List Char) :
    scanEntries hooks fuel depth (skipBlanks cs) = scanEntries hooks fuel depth cs := by
  cases fuel with
  | zero => rfl
  | succ fuel =>
    unfold scanEntries scanKey
    rw [skipBlanks_skipBlanks]

/-- White space ends a number. -/
theorem delimited_of_isBlank {c : Char} {rest : List Char} (h : isBlank c = true) :
    Delimited (c :: rest) := by
  simp only [isBlank, Bool.or_eq_true, beq_iff_eq] at h
  rcases h with ((rfl | rfl) | rfl) | rfl <;> exact delimited_cons (by decide)

/-- White space in front of a delimiter is a delimiter. -/
theorem Delimited.blank_append {after rest : List Char} (h_after : Blank after)
    (h : Delimited rest) : Delimited (after ++ rest) := by
  cases after with
  | nil => exact h
  | cons c after => exact delimited_of_isBlank (h_after c List.mem_cons_self)

/-- A character that a value can start with: neither a blank nor a bracket that closes. -/
def StartsValue (c : Char) : Prop := 32 < c.toNat ∧ c.toNat < 127 ∧ c ≠ ']'

/-- No value starts with white space. -/
theorem StartsValue.not_blank {c : Char} (h : StartsValue c) : isBlank c = false := by
  have h_not : ∀ d : Char, d.toNat ≤ 32 → (c == d) = false := by
    intro d h_d
    rw [beq_eq_false_iff_ne]
    rintro rfl
    have h_c := h.1
    omega
  simp [isBlank, h_not ' ' (by decide), h_not '\t' (by decide), h_not '\n' (by decide),
    h_not '\r' (by decide)]

theorem startsValue_of_isDigit {c : Char} (h : c.isDigit = true) : StartsValue c := by
  have h_range : 48 ≤ c.toNat ∧ c.toNat ≤ 57 := by
    simpa [Char.isDigit, UInt32.le_iff_toNat_le] using h
  refine ⟨by omega, by omega, ?_⟩
  rintro rfl
  simp at h

/-- The texts of values start with such a character. -/
theorem starts_of_spells {text : List Char} {t : JsonTree} (h : Spells text t) :
    ∃ c cs, text = c :: cs ∧ StartsValue c := by
  have h_start : ∀ {c : Char} (cs : List Char), (32 < c.toNat ∧ c.toNat < 127 ∧ c ≠ ']') →
      ∃ c' cs', c :: cs = c' :: cs' ∧ StartsValue c' := fun cs h_c => ⟨_, cs, rfl, h_c⟩
  cases h with
  | word h_word =>
    simp only [words, List.mem_cons, List.not_mem_nil, or_false] at h_word
    rcases h_word with rfl | rfl | rfl | rfl | rfl | rfl <;> exact h_start _ (by decide)
  | number n =>
    rcases numberText_cases n with ⟨c, cs, h_text, h_c⟩ | ⟨c, cs, h_text, h_c⟩
    · exact ⟨c, cs, h_text, startsValue_of_isDigit h_c⟩
    · rw [h_text]
      exact h_start _ (by decide)
  | string parts => exact h_start _ (by decide)
  | emptyArray h_blank => exact h_start _ (by decide)
  | array h_items => exact h_start _ (by decide)
  | emptyObject h_blank => exact h_start _ (by decide)
  | object h_entries => exact h_start _ (by decide)

/-- Items do not start with the closing bracket. -/
theorem starts_of_spellsItems {body : List Char} {items : List JsonTree}
    (h : SpellsItems body items) (rest : List Char) :
    ∃ c cs, skipBlanks (body ++ rest) = c :: cs ∧ c ≠ ']' := by
  have h_padded : ∀ {text t} (rest : List Char), SpellsPadded text t →
      ∃ c cs, skipBlanks (text ++ rest) = c :: cs ∧ c ≠ ']' := by
    rintro _ t rest ⟨h_before, h_text, -⟩
    obtain ⟨c, cs, rfl, h_c⟩ := starts_of_spells h_text
    rw [List.append_assoc, skipBlanks_blank h_before]
    exact ⟨c, _, skipBlanks_cons h_c.not_blank _, h_c.2.2⟩
  cases h with
  | last h_text => exact h_padded rest h_text
  | more h_text _ =>
    rw [List.append_assoc]
    exact h_padded _ h_text

/-- Entries do not start with the closing brace. -/
theorem starts_of_spellsEntries {body : List Char} {entries : List (List StringPart × JsonTree)}
    (h : SpellsEntries body entries) (rest : List Char) :
    ∃ cs, skipBlanks (body ++ rest) = '"' :: cs := by
  cases h with
  | last h_before _ _ =>
    rw [List.append_assoc, skipBlanks_blank h_before]
    exact ⟨_, skipBlanks_cons rfl _⟩
  | more h_before _ _ _ =>
    rw [List.append_assoc, skipBlanks_blank h_before]
    exact ⟨_, skipBlanks_cons rfl _⟩

/-- The scanner reads a word of JSON as what the word decodes to. -/
theorem scanScalar_word {word : JsonTree} (h : word ∈ words) (depth : ℕ) (rest : List Char) :
    scanScalar hooks (wordText word ++ rest) =
      (word.decode hooks depth).map fun v => (v, rest) := by
  have h_depth : word.decode hooks depth = word.decode hooks 0 := by
    simp only [words, List.mem_cons, List.not_mem_nil, or_false] at h
    rcases h with rfl | rfl | rfl | rfl | rfl | rfl <;> simp only [JsonTree.decode]
  unfold scanScalar
  rw [scanWord_text h, h_depth]
  rfl

/-- The scanner reads a number, where something that cannot continue it follows. -/
theorem scanScalar_number (n : NumberLiteral) (depth : ℕ) {rest : List Char} (h : Delimited rest) :
    scanScalar hooks (n.text ++ rest) =
      ((JsonTree.number n).decode hooks depth).map fun v => (v, rest) := by
  unfold scanScalar
  rw [scanWord_number, scanNumber_text n h, JsonTree.decode]
  rfl

/-- Words and numbers start with none of the characters that open something. -/
theorem scanValue_scalar {fuel depth : ℕ} {c : Char} {cs : List Char} (h_fuel : 0 < fuel)
    (h : c ∉ ['"', '[', '\x7b']) :
    scanValue hooks fuel depth (c :: cs) = scanScalar hooks (c :: cs) := by
  simp only [List.mem_cons, List.not_mem_nil, or_false, not_or] at h
  obtain ⟨h_quote, h_bracket, h_brace⟩ := h
  obtain ⟨fuel, rfl⟩ := Nat.exists_eq_succ_of_ne_zero h_fuel.ne'
  unfold scanValue
  simp only [if_neg h_quote, if_neg h_bracket, if_neg h_brace]

/-- The scanner reads a string and leaves what follows its closing quote. -/
theorem scanValue_string (fuel depth : ℕ) (parts : List StringPart) (rest : List Char) :
    scanValue hooks (fuel + 1) depth (stringText parts ++ rest) =
      .ok (hooks.string (codePoints parts), rest) := by
  have h_text : stringText parts ++ rest =
      '"' :: (parts.flatMap StringPart.text ++ '"' :: rest) := by
    simp [stringText]
  rw [h_text]
  unfold scanValue
  simp only [if_true, scanParts_text]

/-- Within brackets, after the blanks. -/
theorem scanValue_array (fuel depth : ℕ) {cs cs' : List Char} {c : Char}
    (h : skipBlanks cs = c :: cs') (h_c : c ≠ ']') :
    scanValue hooks (fuel + 1) (depth + 1) ('[' :: cs) =
      (scanItems hooks fuel depth cs).map fun r => (hooks.array r.1, r.2) := by
  have h_items := scanItems_skipBlanks hooks fuel depth cs
  unfold scanValue
  rw [h] at h_items
  simp only [Char.reduceEq, if_false, if_true, h, List.head?_cons, Option.some.injEq, h_c]
  rw [h_items]
  rfl

/-- Within braces, after the blanks. -/
theorem scanValue_object (fuel depth : ℕ) {cs cs' : List Char} (h : skipBlanks cs = '"' :: cs') :
    scanValue hooks (fuel + 1) (depth + 1) ('\x7b' :: cs) =
      (scanEntries hooks fuel depth cs).bind fun r =>
        (hooks.object r.1).map fun v => (v, r.2) := by
  have h_entries := scanEntries_skipBlanks hooks fuel depth cs
  unfold scanValue
  rw [h] at h_entries
  simp only [Char.reduceEq, if_false, if_true, h, List.head?_cons, Option.some.injEq]
  rw [h_entries]
  rfl

/-- At depth zero an opening bracket is the error of the depth limit, whatever it encloses.
-/
theorem scanValue_tooDeep (fuel : ℕ) {c : Char} (h : c = '[' ∨ c = '\x7b') (cs : List Char) :
    scanValue hooks (fuel + 1) 0 (c :: cs) = .error hooks.tooDeep := by
  unfold scanValue
  rcases h with rfl | rfl <;> simp

/-- The key of an entry is read over white space on both sides, up to its colon. -/
theorem scanKey_text {before afterKey : List Char} (h_before : Blank before)
    (h_after : Blank afterKey) (key : List StringPart) (text : List Char) :
    scanKey (before ++ (stringText key ++ (afterKey ++ ':' :: text))) = some (key, text) := by
  have h_text : stringText key ++ (afterKey ++ ':' :: text) =
      '"' :: (key.flatMap StringPart.text ++ '"' :: (afterKey ++ ':' :: text)) := by
    simp [stringText]
  have h_colon : skipBlanks (afterKey ++ ':' :: text) = ':' :: text := by
    rw [skipBlanks_blank h_after]
    exact skipBlanks_cons rfl text
  unfold scanKey
  rw [skipBlanks_blank h_before, h_text, skipBlanks_cons rfl]
  simp only [if_true, scanParts_text, Option.bind_some, h_colon]

/-- A closing bracket ends the parts. -/
theorem partsAfter_close {α : Type} (close : Char) (part : α)
    (scan : List Char → Except ε (List α × List Char)) (rest : List Char) :
    partsAfter hooks close part scan (close :: rest) = .ok ([part], rest) := by
  rw [partsAfter, if_pos rfl]

/-- A comma asks for more parts. -/
theorem partsAfter_comma {α : Type} {close : Char} (h : ',' ≠ close) (part : α)
    (scan : List Char → Except ε (List α × List Char)) (body : List Char) :
    partsAfter hooks close part scan (',' :: body) =
      (scan body).map fun r => (part :: r.1, r.2) := by
  rw [partsAfter, if_neg h, if_pos rfl]
  rfl

mutual

/-- **Completeness.** The decoder gives the value of the tree that a text spells. -/
theorem scanValue_of_spells {text : List Char} {t : JsonTree} :
    Spells text t → ∀ (fuel depth : ℕ) (rest : List Char), 2 * text.length ≤ fuel →
      Delimited rest → scanValue hooks fuel depth (text ++ rest) =
        (t.decode hooks depth).map fun v => (v, rest)
  | .word h, fuel, depth, rest, h_fuel, _ => by
    -- a word starts with none of the characters that open a string or a container
    obtain ⟨c, cs, h_text, -⟩ := starts_of_spells (.word h)
    have h_c : c ∉ ['"', '[', '\x7b'] := by
      simp only [words, List.mem_cons, List.not_mem_nil, or_false] at h
      rcases h with rfl | rfl | rfl | rfl | rfl | rfl <;> cases h_text <;> decide
    rw [← scanScalar_word hooks h depth rest, h_text]
    rw [h_text, List.length_cons] at h_fuel
    exact scanValue_scalar hooks (by omega) h_c
  | .number n, fuel, depth, rest, h_fuel, h_rest => by
    -- a number starts with a digit or a minus sign
    have h_scalar := scanScalar_number hooks n depth h_rest
    rw [← h_scalar]
    rcases numberText_cases n with ⟨c, cs, h_text, h_c⟩ | ⟨c, cs, h_text, h_c⟩
    · rw [h_text, List.length_cons] at h_fuel
      rw [h_text]
      refine scanValue_scalar hooks (by omega) ?_
      intro h_mem
      simp only [List.mem_cons, List.not_mem_nil, or_false] at h_mem
      rcases h_mem with rfl | rfl | rfl <;> simp at h_c
    · rw [h_text, List.length_cons] at h_fuel
      rw [h_text]
      exact scanValue_scalar hooks (by omega) (by decide)
  | .string parts, fuel, depth, rest, h_fuel, _ => by
    -- the fuel is at least the length of the text, so there is a unit to spend
    obtain ⟨fuel, rfl⟩ : ∃ n, fuel = n + 1 := by
      refine Nat.exists_eq_succ_of_ne_zero ?_
      simp only [stringText, List.length_cons] at h_fuel
      omega
    rw [scanValue_string, JsonTree.decode]
    rfl
  | @Spells.emptyArray blank h_blank, fuel, depth, rest, h_fuel, _ => by
    obtain ⟨fuel, rfl⟩ : ∃ n, fuel = n + 1 := by
      refine Nat.exists_eq_succ_of_ne_zero ?_
      simp only [List.length_cons] at h_fuel
      omega
    -- the depth limit stops the container before it is read
    cases depth with
    | zero => exact scanValue_tooDeep hooks fuel (.inl rfl) _
    | succ depth =>
      have h_skip : skipBlanks (blank ++ ([']'] ++ rest)) = ']' :: rest := by
        rw [skipBlanks_blank h_blank]
        exact skipBlanks_cons rfl _
      show scanValue hooks (fuel + 1) (depth + 1) ('[' :: ((blank ++ [']']) ++ rest)) = _
      unfold scanValue
      rw [List.append_assoc, h_skip]
      simp [JsonTree.decode, decodeItems, Except.map, pure, Except.pure, bind, Except.bind]
  | @Spells.array body items h_items, fuel, depth, rest, h_fuel, _ => by
    obtain ⟨fuel, rfl⟩ : ∃ n, fuel = n + 1 := by
      refine Nat.exists_eq_succ_of_ne_zero ?_
      simp only [List.length_cons] at h_fuel
      omega
    cases depth with
    | zero => exact scanValue_tooDeep hooks fuel (.inl rfl) _
    | succ depth =>
      -- the items start with no bracket, so the scanner does not take the array for an empty
      -- one
      obtain ⟨c, cs, h_start, h_c⟩ := starts_of_spellsItems h_items (']' :: rest)
      have h_scan := scanItems_of_spells h_items fuel depth rest (by
        simp only [List.length_cons, List.length_append, List.length_nil] at h_fuel
        omega)
      show scanValue hooks (fuel + 1) (depth + 1) ('[' :: ((body ++ [']']) ++ rest)) = _
      rw [List.append_assoc, List.singleton_append, scanValue_array hooks fuel depth h_start h_c,
        h_scan, JsonTree.decode]
      cases decodeItems hooks depth items <;> rfl
  | @Spells.emptyObject blank h_blank, fuel, depth, rest, h_fuel, _ => by
    obtain ⟨fuel, rfl⟩ : ∃ n, fuel = n + 1 := by
      refine Nat.exists_eq_succ_of_ne_zero ?_
      simp only [List.length_cons] at h_fuel
      omega
    cases depth with
    | zero => exact scanValue_tooDeep hooks fuel (.inr rfl) _
    | succ depth =>
      have h_skip : skipBlanks (blank ++ (['\x7d'] ++ rest)) = '\x7d' :: rest := by
        rw [skipBlanks_blank h_blank]
        exact skipBlanks_cons rfl _
      show scanValue hooks (fuel + 1) (depth + 1) ('\x7b' :: ((blank ++ ['\x7d']) ++ rest)) = _
      unfold scanValue
      rw [List.append_assoc, h_skip]
      simp [JsonTree.decode, decodeEntries, Except.map, pure, Except.pure, bind, Except.bind]
  | @Spells.object body entries h_entries, fuel, depth, rest, h_fuel, _ => by
    obtain ⟨fuel, rfl⟩ : ∃ n, fuel = n + 1 := by
      refine Nat.exists_eq_succ_of_ne_zero ?_
      simp only [List.length_cons] at h_fuel
      omega
    cases depth with
    | zero => exact scanValue_tooDeep hooks fuel (.inr rfl) _
    | succ depth =>
      -- the entries start with no brace, so the scanner does not take the object for an empty
      -- one
      obtain ⟨cs, h_start⟩ := starts_of_spellsEntries h_entries ('\x7d' :: rest)
      have h_scan := scanEntries_of_spells h_entries fuel depth rest (by
        simp only [List.length_cons, List.length_append, List.length_nil] at h_fuel
        omega)
      show scanValue hooks (fuel + 1) (depth + 1) ('\x7b' :: ((body ++ ['\x7d']) ++ rest)) = _
      rw [List.append_assoc, List.singleton_append, scanValue_object hooks fuel depth h_start,
        h_scan, JsonTree.decode]
      cases decodeEntries hooks depth entries <;> rfl

/-- Every spelling of a value is read as its tree decodes, in the recursion of the spelling;
the fuel bounds the characters left. -/
theorem scanPadded_of_spells {text : List Char} {t : JsonTree} :
    SpellsPadded text t → ∀ (fuel depth : ℕ) (rest : List Char), 2 * text.length ≤ fuel →
      Delimited rest → padded (scanValue hooks fuel depth) (text ++ rest) =
        (t.decode hooks depth).map fun v => (v, skipBlanks rest)
  | @SpellsPadded.mk before text after t h_before h_text h_after, fuel, depth, rest, h_fuel,
      h_rest => by
    obtain ⟨c, cs, rfl, h_c⟩ := starts_of_spells h_text
    have h_scan := scanValue_of_spells h_text fuel depth (after ++ rest) (by
      simp only [List.length_append] at h_fuel
      omega) (h_rest.blank_append h_after)
    unfold padded
    rw [List.append_assoc, skipBlanks_blank h_before, List.append_assoc, List.cons_append,
      skipBlanks_cons h_c.not_blank, ← List.cons_append, h_scan]
    cases t.decode hooks depth with
    | error e => rfl
    | ok v =>
      show Except.ok (v, skipBlanks (after ++ rest)) = _
      rw [skipBlanks_blank h_after]
      rfl

/-- The items of an array are read one after the other up to its bracket. -/
theorem scanItems_of_spells {body : List Char} {items : List JsonTree} :
    SpellsItems body items → ∀ (fuel depth : ℕ) (rest : List Char), 2 * body.length + 1 ≤ fuel →
      scanItems hooks fuel depth (body ++ ']' :: rest) =
        (decodeItems hooks depth items).map fun vs => (vs, rest)
  | @SpellsItems.last text t h_text, fuel, depth, rest, h_fuel => by
    obtain ⟨fuel, rfl⟩ := Nat.exists_eq_succ_of_ne_zero (n := fuel) (by omega)
    have h_scan := scanPadded_of_spells h_text fuel depth (']' :: rest) (by omega)
      (delimited_cons (by decide))
    unfold scanItems
    rw [h_scan, decodeItems, decodeItems, skipBlanks_cons rfl]
    cases t.decode hooks depth with
    | error e => rfl
    | ok v => exact partsAfter_close hooks ']' v (scanItems hooks fuel depth) rest
  | @SpellsItems.more text body t items h_text h_items, fuel, depth, rest, h_fuel => by
    simp only [List.length_append, List.length_cons] at h_fuel
    obtain ⟨fuel, rfl⟩ := Nat.exists_eq_succ_of_ne_zero (n := fuel) (by omega)
    have h_scan := scanPadded_of_spells h_text fuel depth (',' :: (body ++ ']' :: rest))
      (by omega) (delimited_cons (by decide))
    have h_more := scanItems_of_spells h_items fuel depth rest (by omega)
    unfold scanItems
    rw [List.append_assoc, List.cons_append, h_scan, decodeItems, skipBlanks_cons rfl]
    cases t.decode hooks depth with
    | error e => rfl
    | ok v =>
      show partsAfter hooks ']' v (scanItems hooks fuel depth) (',' :: (body ++ ']' :: rest)) = _
      rw [partsAfter_comma hooks (by decide), h_more]
      cases decodeItems hooks depth items <;> rfl

/-- The entries of an object are read one after the other up to its brace. -/
theorem scanEntries_of_spells {body : List Char} {entries : List (List StringPart × JsonTree)} :
    SpellsEntries body entries → ∀ (fuel depth : ℕ) (rest : List Char),
      2 * body.length + 1 ≤ fuel → scanEntries hooks fuel depth (body ++ '\x7d' :: rest) =
        (decodeEntries hooks depth entries).map fun vs => (vs, rest)
  | @SpellsEntries.last before key afterKey text t h_before h_after h_text, fuel, depth, rest,
      h_fuel => by
    simp only [List.length_append, List.length_cons] at h_fuel
    obtain ⟨fuel, rfl⟩ := Nat.exists_eq_succ_of_ne_zero (n := fuel) (by omega)
    have h_scan := scanPadded_of_spells h_text fuel depth ('\x7d' :: rest) (by omega)
      (delimited_cons (by decide))
    have h_key := scanKey_text h_before h_after key (text ++ '\x7d' :: rest)
    unfold scanEntries
    simp only [List.append_assoc, List.cons_append, h_key, h_scan]
    rw [decodeEntries, decodeEntries, skipBlanks_cons rfl]
    cases t.decode hooks depth with
    | error e => rfl
    | ok v =>
      exact partsAfter_close hooks '\x7d' (codePoints key, v) (scanEntries hooks fuel depth) rest
  | @SpellsEntries.more before key afterKey text body t entries h_before h_after h_text h_entries,
      fuel, depth, rest, h_fuel => by
    simp only [List.length_append, List.length_cons] at h_fuel
    obtain ⟨fuel, rfl⟩ := Nat.exists_eq_succ_of_ne_zero (n := fuel) (by omega)
    have h_scan := scanPadded_of_spells h_text fuel depth (',' :: (body ++ '\x7d' :: rest))
      (by omega) (delimited_cons (by decide))
    have h_more := scanEntries_of_spells h_entries fuel depth rest (by omega)
    have h_key := scanKey_text h_before h_after key (text ++ ',' :: (body ++ '\x7d' :: rest))
    unfold scanEntries
    simp only [List.append_assoc, List.cons_append, h_key, h_scan]
    rw [decodeEntries, skipBlanks_cons rfl]
    cases t.decode hooks depth with
    | error e => rfl
    | ok v =>
      show partsAfter hooks '\x7d' (codePoints key, v) (scanEntries hooks fuel depth)
        (',' :: (body ++ '\x7d' :: rest)) = _
      rw [partsAfter_comma hooks (by decide), h_more]
      cases decodeEntries hooks depth entries <;> rfl

end

/-! ### Texts that are read -/

/-- What is read as a scalar spells a scalar. -/
theorem spells_of_scanScalar {depth : ℕ} {cs rest : List Char} {v : V}
    (h : scanScalar hooks cs = .ok (v, rest)) :
    ∃ text t, cs = text ++ rest ∧ Spells text t ∧ t.decode hooks depth = .ok v := by
  unfold scanScalar at h
  split at h
  · rename_i word rest' h_word
    obtain ⟨h_mem, h_text⟩ := text_of_scanWord h_word
    obtain ⟨v', h_decode, h_ok⟩ := ok_of_bind h
    cases h_ok
    refine ⟨_, word, h_text, .word h_mem, ?_⟩
    -- a word is read without recursion
    rw [← h_decode]
    simp only [words, List.mem_cons, List.not_mem_nil, or_false] at h_mem
    rcases h_mem with rfl | rfl | rfl | rfl | rfl | rfl <;> simp only [JsonTree.decode]
  · split at h
    · rename_i n rest' h_number
      obtain ⟨v', h_decode, h_ok⟩ := ok_of_bind h
      cases h_ok
      refine ⟨_, .number n, text_of_scanNumber h_number, .number n, ?_⟩
      rw [JsonTree.decode, h_decode]
    · cases h

/-- After a part comes the closing bracket, or a comma and more parts. -/
theorem spells_of_partsAfter {α : Type} {close : Char} {part : α} {parts : List α}
    {scan : List Char → Except ε (List α × List Char)} {cs rest : List Char}
    (h : partsAfter hooks close part scan cs = .ok (parts, rest)) :
    (cs = close :: rest ∧ parts = [part]) ∨
      ∃ body more, cs = ',' :: body ∧ scan body = .ok (more, rest) ∧ parts = part :: more := by
  unfold partsAfter at h
  split at h
  · cases h
  · split at h
    · rename_i h_close
      cases h
      exact .inl ⟨by rw [h_close], rfl⟩
    · split at h
      · rename_i h_comma
        obtain ⟨⟨more, rest'⟩, h_scan, h_ok⟩ := ok_of_bind h
        cases h_ok
        exact .inr ⟨_, more, by rw [h_comma], h_scan, rfl⟩
      · cases h

/-- What is read as a key is white space, a string, white space and a colon. -/
theorem text_of_scanKey {cs text : List Char} {key : List StringPart}
    (h : scanKey cs = some (key, text)) : ∃ before afterKey, Blank before ∧ Blank afterKey ∧
      cs = before ++ (stringText key ++ (afterKey ++ ':' :: text)) := by
  unfold scanKey at h
  obtain ⟨before, h_before, h_cs⟩ := blank_of_skipBlanks cs
  split at h
  · cases h
  · rename_i h_skip
    rw [h_skip] at h_cs
    split at h
    · rename_i h_quote
      obtain ⟨⟨key', rest⟩, h_parts, h_colon⟩ := Option.bind_eq_some_iff.mp h
      obtain ⟨afterKey, h_after, h_rest⟩ := blank_of_skipBlanks rest
      simp only at h_colon
      split at h_colon
      · cases h_colon
      · rename_i h_skip'
        rw [h_skip'] at h_rest
        split at h_colon
        · rename_i h_is_colon
          cases h_colon
          refine ⟨before, afterKey, h_before, h_after, ?_⟩
          rw [h_cs, text_of_scanParts h_parts, h_rest, h_quote, h_is_colon]
          simp [stringText]
        · cases h_colon
    · cases h

/-- If a scanner reads spellings only, so does the scanner over its padding. -/
theorem spells_of_padded {depth : ℕ} {scan : List Char → Except ε (V × List Char)}
    (h_scan : ∀ {cs rest v}, scan cs = .ok (v, rest) →
      ∃ text t, cs = text ++ rest ∧ Spells text t ∧ t.decode hooks depth = .ok v)
    {cs rest : List Char} {v : V} (h : padded scan cs = .ok (v, rest)) :
    ∃ text t, cs = text ++ rest ∧ SpellsPadded text t ∧ t.decode hooks depth = .ok v := by
  obtain ⟨⟨v', rest'⟩, h_value, h_ok⟩ := ok_of_bind h
  cases h_ok
  obtain ⟨text, t, h_text, h_spells, h_decode⟩ := h_scan h_value
  obtain ⟨before, h_before, h_cs⟩ := blank_of_skipBlanks cs
  obtain ⟨after, h_after, h_rest⟩ := blank_of_skipBlanks rest'
  refine ⟨before ++ (text ++ after), t, ?_, .mk h_before h_spells h_after, h_decode⟩
  rw [List.append_assoc, List.append_assoc, ← h_rest, ← h_text]
  exact h_cs

/-- The values that the decoder reads are those of the trees that the texts spell. -/
def ValuesSpelled (fuel : ℕ) : Prop :=
  ∀ {depth cs rest v}, scanValue hooks fuel depth cs = .ok (v, rest) →
    ∃ text t, cs = text ++ rest ∧ Spells text t ∧ t.decode hooks depth = .ok v

/-- So are the items. -/
def ItemsSpelled (fuel : ℕ) : Prop :=
  ∀ {depth cs rest vs}, scanItems hooks fuel depth cs = .ok (vs, rest) →
    ∃ body items, cs = body ++ ']' :: rest ∧ SpellsItems body items ∧
      decodeItems hooks depth items = .ok vs

/-- And the entries. -/
def EntriesSpelled (fuel : ℕ) : Prop :=
  ∀ {depth cs rest vs}, scanEntries hooks fuel depth cs = .ok (vs, rest) →
    ∃ body entries, cs = body ++ '\x7d' :: rest ∧ SpellsEntries body entries ∧
      decodeEntries hooks depth entries = .ok vs

/-- What is read as an array spells one, given the same of its items at this fuel. -/
theorem spells_of_scanArray {fuel depth : ℕ} (ih : ItemsSpelled hooks fuel) {cs rest : List Char}
    {v : V} (h : scanValue hooks (fuel + 1) depth ('[' :: cs) = .ok (v, rest)) :
    ∃ text t, '[' :: cs = text ++ rest ∧ Spells text t ∧ t.decode hooks depth = .ok v := by
  cases depth with
  | zero =>
    rw [scanValue_tooDeep hooks fuel (.inl rfl)] at h
    cases h
  | succ depth =>
    obtain ⟨blank, h_blank, h_cs⟩ := blank_of_skipBlanks cs
    unfold scanValue at h
    simp only [Char.reduceEq, if_false, if_true] at h
    split at h
    · -- nothing but blanks within the brackets
      rename_i h_close
      obtain ⟨rest', h_skip⟩ := List.head?_eq_some_iff.mp h_close
      rw [h_skip] at h h_cs
      cases h
      refine ⟨_, _, ?_, .emptyArray h_blank, rfl⟩
      rw [h_cs]
      simp
    · obtain ⟨⟨vs, rest'⟩, h_items, h_ok⟩ := ok_of_bind h
      cases h_ok
      rw [scanItems_skipBlanks] at h_items
      obtain ⟨body, items, h_body, h_spells, h_decode⟩ := ih h_items
      refine ⟨_, _, ?_, .array h_spells, ?_⟩
      · rw [h_body]
        simp
      · rw [JsonTree.decode, h_decode]
        rfl

/-- What is read as an object spells one, given the same of its entries at this fuel. -/
theorem spells_of_scanObject {fuel depth : ℕ} (ih : EntriesSpelled hooks fuel)
    {cs rest : List Char} {v : V}
    (h : scanValue hooks (fuel + 1) depth ('\x7b' :: cs) = .ok (v, rest)) :
    ∃ text t, '\x7b' :: cs = text ++ rest ∧ Spells text t ∧ t.decode hooks depth = .ok v := by
  cases depth with
  | zero =>
    rw [scanValue_tooDeep hooks fuel (.inr rfl)] at h
    cases h
  | succ depth =>
    obtain ⟨blank, h_blank, h_cs⟩ := blank_of_skipBlanks cs
    unfold scanValue at h
    simp only [Char.reduceEq, if_false, if_true] at h
    split at h
    · -- nothing but blanks within the braces
      rename_i h_close
      obtain ⟨rest', h_skip⟩ := List.head?_eq_some_iff.mp h_close
      rw [h_skip] at h h_cs
      obtain ⟨v', h_object, h_ok⟩ := ok_of_bind h
      cases h_ok
      refine ⟨_, _, ?_, .emptyObject h_blank, h_object⟩
      rw [h_cs]
      simp
    · obtain ⟨⟨vs, rest'⟩, h_entries, h_more⟩ := ok_of_bind h
      obtain ⟨v', h_object, h_ok⟩ := ok_of_bind h_more
      cases h_ok
      rw [scanEntries_skipBlanks] at h_entries
      obtain ⟨body, entries, h_body, h_spells, h_decode⟩ := ih h_entries
      refine ⟨_, _, ?_, .object h_spells, ?_⟩
      · rw [h_body]
        simp
      · rw [JsonTree.decode, h_decode]
        exact h_object

/-- One more unit of fuel for values, by the first character. -/
theorem valuesSpelled_succ {fuel : ℕ} (h_items : ItemsSpelled hooks fuel)
    (h_entries : EntriesSpelled hooks fuel) : ValuesSpelled hooks (fuel + 1) := by
  intro depth cs rest v h
  cases cs with
  | nil => simp [scanValue] at h
  | cons c cs =>
    by_cases h_bracket : c = '['
    · subst h_bracket
      exact spells_of_scanArray hooks h_items h
    by_cases h_brace : c = '\x7b'
    · subst h_brace
      exact spells_of_scanObject hooks h_entries h
    by_cases h_quote : c = '"'
    · subst h_quote
      unfold scanValue at h
      simp only [if_true] at h
      split at h
      · rename_i parts rest' h_parts
        cases h
        refine ⟨stringText parts, .string parts, ?_, .string parts, by rw [JsonTree.decode]⟩
        rw [text_of_scanParts h_parts]
        simp [stringText]
      · cases h
    · have h_c : c ∉ ['"', '[', '\x7b'] := by simp [h_bracket, h_brace, h_quote]
      rw [scanValue_scalar hooks (Nat.succ_pos fuel) h_c] at h
      exact spells_of_scanScalar hooks h

/-- One more unit of fuel for items. -/
theorem itemsSpelled_succ {fuel : ℕ} (h_value : ValuesSpelled hooks fuel)
    (ih : ItemsSpelled hooks fuel) : ItemsSpelled hooks (fuel + 1) := by
  intro depth cs rest vs h
  unfold scanItems at h
  obtain ⟨⟨v, rest'⟩, h_item, h_after⟩ := ok_of_bind h
  obtain ⟨text, t, h_text, h_spells, h_decode⟩ := spells_of_padded hooks h_value h_item
  rcases spells_of_partsAfter hooks h_after with ⟨h_rest, h_vs⟩ | ⟨body, more, h_rest, h_scan, h_vs⟩
  · refine ⟨text, [t], ?_, .last h_spells, ?_⟩
    · rw [h_text]
      exact congrArg (text ++ ·) h_rest
    · rw [decodeItems, decodeItems, h_decode, h_vs]
      rfl
  · obtain ⟨body', items, h_body, h_items, h_more⟩ := ih h_scan
    refine ⟨text ++ ',' :: body', t :: items, ?_, .more h_spells h_items, ?_⟩
    · rw [h_text, h_rest, h_body]
      simp
    · rw [decodeItems, h_decode, h_more, h_vs]
      rfl

/-- One more unit of fuel for entries. -/
theorem entriesSpelled_succ {fuel : ℕ} (h_value : ValuesSpelled hooks fuel)
    (ih : EntriesSpelled hooks fuel) : EntriesSpelled hooks (fuel + 1) := by
  intro depth cs rest vs h
  unfold scanEntries at h
  split at h
  · cases h
  · rename_i key text' h_key
    obtain ⟨before, afterKey, h_before, h_afterKey, h_cs⟩ := text_of_scanKey h_key
    obtain ⟨⟨v, rest'⟩, h_item, h_after⟩ := ok_of_bind h
    obtain ⟨text, t, h_text, h_spells, h_decode⟩ := spells_of_padded hooks h_value h_item
    rcases spells_of_partsAfter hooks h_after with
      ⟨h_rest, h_vs⟩ | ⟨body, more, h_rest, h_scan, h_vs⟩
    · refine ⟨_, [(key, t)], ?_, .last h_before h_afterKey h_spells, ?_⟩
      · rw [h_cs, h_text, h_rest]
        simp
      · rw [decodeEntries, decodeEntries, h_decode, h_vs]
        rfl
    · obtain ⟨body', entries, h_body, h_entries, h_more⟩ := ih h_scan
      refine ⟨_, (key, t) :: entries, ?_, .more h_before h_afterKey h_spells h_entries, ?_⟩
      · rw [h_cs, h_text, h_rest, h_body]
        simp
      · rw [decodeEntries, h_decode, h_more, h_vs]
        rfl

/-- What is read at any fuel is spelled by the text that was consumed: the three scanners go
up together. -/
theorem spelled (fuel : ℕ) :
    ValuesSpelled hooks fuel ∧ ItemsSpelled hooks fuel ∧ EntriesSpelled hooks fuel := by
  induction fuel with
  | zero =>
    refine ⟨fun h => ?_, fun h => ?_, fun h => ?_⟩
    · simp [scanValue] at h
    · simp [scanItems] at h
    · simp [scanEntries] at h
  | succ fuel ih =>
    obtain ⟨h_value, h_items, h_entries⟩ := ih
    exact ⟨valuesSpelled_succ hooks h_items h_entries, itemsSpelled_succ hooks h_value h_items,
      entriesSpelled_succ hooks h_value h_entries⟩

/-- **Soundness.** What a decoder gives is the value of a tree that the text spells. -/
theorem spells_of_scanValue {fuel depth : ℕ} {cs rest : List Char} {v : V}
    (h : scanValue hooks fuel depth cs = .ok (v, rest)) :
    ∃ text t, cs = text ++ rest ∧ Spells text t ∧ t.decode hooks depth = .ok v :=
  (spelled hooks fuel).1 h

/-! ### Fuel -/

/-- A value consumes at least one character. -/
theorem length_of_scanValue {fuel depth : ℕ} {cs rest : List Char} {v : V}
    (h : scanValue hooks fuel depth cs = .ok (v, rest)) : rest.length < cs.length := by
  obtain ⟨text, t, rfl, h_spells, -⟩ := spells_of_scanValue hooks h
  obtain ⟨c, cs, rfl, -⟩ := starts_of_spells h_spells
  simp only [List.length_append, List.length_cons]
  omega

/-- A padded value consumes at least one character. -/
theorem length_of_padded {fuel depth : ℕ} {cs rest : List Char} {v : V}
    (h : padded (scanValue hooks fuel depth) cs = .ok (v, rest)) : rest.length < cs.length := by
  obtain ⟨⟨v', rest'⟩, h_value, h_ok⟩ := ok_of_bind h
  cases h_ok
  have h_value' := length_of_scanValue hooks h_value
  have h_before := length_skipBlanks_le cs
  have h_after := length_skipBlanks_le rest'
  omega

/-- A scan goes on with what is left only. -/
theorem partsAfter_congr {α : Type} {close : Char} {part : α}
    {scan scan' : List Char → Except ε (List α × List Char)} {rest : List Char}
    (h : ∀ body, body.length < rest.length → scan body = scan' body) :
    partsAfter hooks close part scan rest = partsAfter hooks close part scan' rest := by
  cases rest with
  | nil => rfl
  | cons c body =>
    have h_body : scan body = scan' body := h body (by simp)
    simp only [partsAfter, h_body]

/-- The padded scanner looks at the shorter text behind the white space only. -/
theorem padded_congr {scan scan' : List Char → Except ε (V × List Char)} {cs : List Char}
    (h : ∀ body, body.length ≤ cs.length → scan body = scan' body) :
    padded scan cs = padded scan' cs := by
  unfold padded
  rw [h _ (length_skipBlanks_le cs)]

/-- A key consumes at least one character. -/
theorem length_of_scanKey {cs text : List Char} {key : List StringPart}
    (h : scanKey cs = some (key, text)) : text.length < cs.length := by
  obtain ⟨before, afterKey, -, -, rfl⟩ := text_of_scanKey h
  simp only [List.length_append, List.length_cons]
  omega

/-- Fuel of twice the length suffices: one more unit changes nothing, for all three scanners
at once. -/
theorem scan_fuel_succ (fuel : ℕ) :
    (∀ depth cs, 2 * cs.length + 1 ≤ fuel →
      scanValue hooks fuel depth cs = scanValue hooks (fuel + 1) depth cs) ∧
    (∀ depth cs, 2 * cs.length + 2 ≤ fuel →
      scanItems hooks fuel depth cs = scanItems hooks (fuel + 1) depth cs) ∧
    (∀ depth cs, 2 * cs.length + 2 ≤ fuel →
      scanEntries hooks fuel depth cs = scanEntries hooks (fuel + 1) depth cs) := by
  induction fuel with
  | zero => exact ⟨fun _ _ h => by omega, fun _ _ h => by omega, fun _ _ h => by omega⟩
  | succ fuel ih =>
    obtain ⟨ih_value, ih_items, ih_entries⟩ := ih
    -- a padded value has one character less to come
    have h_padded : ∀ depth cs, 2 * cs.length + 1 ≤ fuel →
        padded (scanValue hooks fuel depth) cs = padded (scanValue hooks (fuel + 1) depth) cs :=
      fun depth cs h => padded_congr fun body h_body => ih_value depth body (by omega)
    refine ⟨fun depth cs h => ?_, fun depth cs h => ?_, fun depth cs h => ?_⟩
    · -- the value itself: behind an opening bracket one character less is left
      cases cs with
      | nil => simp only [scanValue]
      | cons c cs =>
        rw [List.length_cons] at h
        have h_skip := length_skipBlanks_le cs
        have h_items : ∀ depth, scanItems hooks fuel depth (skipBlanks cs) =
            scanItems hooks (fuel + 1) depth (skipBlanks cs) :=
          fun depth => ih_items depth _ (by omega)
        have h_entries : ∀ depth, scanEntries hooks fuel depth (skipBlanks cs) =
            scanEntries hooks (fuel + 1) depth (skipBlanks cs) :=
          fun depth => ih_entries depth _ (by omega)
        rw [scanValue.eq_def, scanValue.eq_def hooks (fuel + 1 + 1)]
        simp only [h_items, h_entries]
    · -- the items: each value consumes a character before the rest is scanned
      rw [scanItems.eq_def, scanItems.eq_def hooks (fuel + 1 + 1)]
      simp only
      rw [← h_padded depth cs (by omega)]
      cases h_item : padded (scanValue hooks fuel depth) cs with
      | error e => rfl
      | ok r =>
        have h_length := length_of_padded hooks h_item
        exact partsAfter_congr hooks fun body h_body => ih_items depth body (by omega)
    · -- the entries: the key and the value each consume some
      rw [scanEntries.eq_def, scanEntries.eq_def hooks (fuel + 1 + 1)]
      simp only
      split
      · rfl
      · rename_i key text h_key
        have h_text := length_of_scanKey h_key
        rw [← h_padded depth text (by omega)]
        cases h_item : padded (scanValue hooks fuel depth) text with
        | error e => rfl
        | ok r =>
          have h_length := length_of_padded hooks h_item
          exact partsAfter_congr hooks fun body h_body => ih_entries depth body (by omega)

/-- More fuel than twice the length of the text changes nothing. -/
theorem scanValue_fuel {fuel depth : ℕ} {cs : List Char} (h : 2 * cs.length + 1 ≤ fuel) :
    scanValue hooks fuel depth cs = scanValue hooks (2 * cs.length + 1) depth cs := by
  induction fuel, h using Nat.le_induction with
  | base => rfl
  | succ fuel h_fuel ih =>
    rw [← ih]
    exact ((scan_fuel_succ hooks fuel).1 depth cs h_fuel).symm

end Decoder

end Framework
