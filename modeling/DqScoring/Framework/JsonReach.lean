import DqScoring.Framework.JsonDecoder

/-!
# The numbers that a decoder comes to

A decoder hands each part of a text to its hooks as soon as it is complete. Whether the hook of
numbers is called for a number therefore depends on the text in front of it alone: the decoder
`Comes` to the number where that text is the beginning of a document whose complete parts are
decoded. `scanValue_error_iff` says that an error that no other hook raises is raised exactly
where the decoder comes to a number for which the hook raises it.
-/

namespace Framework

/-! ### The text in front of a part -/

/-- The text between the opening bracket and an item: blanks, or earlier items with their commas. -/
inductive ItemsBefore : List Char → List JsonTree → Prop
  | none {blank} : Blank blank → ItemsBefore blank []
  | more {text before t items} : SpellsPadded text t → ItemsBefore before items →
      ItemsBefore (text ++ ',' :: before) (t :: items)

/-- The text between the opening brace and the value of an entry: its key, perhaps after earlier
entries with their commas. -/
inductive EntriesBefore : List Char → List (List StringPart × JsonTree) → Prop
  | none {before key afterKey blank} : Blank before → Blank afterKey → Blank blank →
      EntriesBefore (before ++ (stringText key ++ (afterKey ++ ':' :: blank))) []
  | more {before key afterKey text rest t entries} : Blank before → Blank afterKey →
      SpellsPadded text t → EntriesBefore rest entries →
      EntriesBefore (before ++ (stringText key ++ (afterKey ++ ':' :: (text ++ ',' :: rest))))
        ((key, t) :: entries)

section Reach

variable {V ε : Type} (hooks : JsonHooks V ε)

/-- The decoder comes to a value further on: what is complete in front of it is decoded. -/
inductive Comes : ℕ → List Char → ℕ → List Char → Prop
  | here (depth cs) : Comes depth cs depth cs
  | item {depth before items vs cs depth' cs'} : ItemsBefore before items →
      decodeItems hooks depth items = .ok vs → Comes depth cs depth' cs' →
      Comes (depth + 1) ('[' :: (before ++ cs)) depth' cs'
  -- the brace is written as an escape
  | entry {depth before entries vs cs depth' cs'} : EntriesBefore before entries →
      decodeEntries hooks depth entries = .ok vs → Comes depth cs depth' cs' →
      Comes (depth + 1) ('\x7b' :: (before ++ cs)) depth' cs'

/-- What the scanner comes to is a suffix of the text. -/
theorem Comes.suffix {depth depth' : ℕ} {cs cs' : List Char} (h : Comes hooks depth cs depth' cs') :
    cs' <:+ cs := by
  induction h with
  | here => exact List.suffix_rfl
  | item _ _ _ ih => exact (ih.trans (List.suffix_append _ _)).trans (List.suffix_cons _ _)
  | entry _ _ _ ih => exact (ih.trans (List.suffix_append _ _)).trans (List.suffix_cons _ _)

/-- The number at the front of a text. -/
def NumberAt (cs : List Char) (n : NumberLiteral) : Prop :=
  scanWord cs = none ∧ ∃ rest, scanNumber cs = some (n, rest)

/-- The decoder comes to the number. -/
def JsonHooks.Reaches (depth : ℕ) (cs : List Char) (n : NumberLiteral) : Prop :=
  ∃ depth' cs', Comes hooks depth cs depth' cs' ∧ NumberAt cs' n

/-- A number that the decoder comes to stands in the text. -/
theorem JsonHooks.Reaches.text_isInfix {depth : ℕ} {cs : List Char} {n : NumberLiteral}
    (h : hooks.Reaches depth cs n) : n.text <:+: cs := by
  obtain ⟨depth', cs', h_comes, -, rest, h_number⟩ := h
  have h_text : n.text <+: cs' := ⟨rest, (text_of_scanNumber h_number).symm⟩
  exact h_text.isInfix.trans h_comes.suffix.isInfix

/-- An error that has nothing to do with numbers. -/
def JsonHooks.Raises (e : ε) : Prop :=
  e = hooks.malformed ∨ e = hooks.tooDeep ∨ (∃ c, hooks.constant c = .error e) ∨
    ∃ entries, hooks.object entries = .error e

variable {hooks} {e : ε}

/-! ### From the error to the number -/

/-- A sequence fails in its first part or in its second. -/
theorem error_of_bind {α β : Type} {x : Except ε α} {f : α → Except ε β}
    (h : (x >>= f) = .error e) : x = .error e ∨ ∃ a, x = .ok a ∧ f a = .error e := by
  cases x with
  | error e' =>
    cases h
    exact .inl rfl
  | ok a => exact .inr ⟨a, rfl, h⟩

/-- The error of a value comes from a number. -/
def ValuesReach (hooks : JsonHooks V ε) (e : ε) (fuel : ℕ) : Prop :=
  ∀ {depth cs}, scanValue hooks fuel depth cs = .error e →
    ∃ n, hooks.number n = .error e ∧ hooks.Reaches depth cs n

/-- So does the error of a list of items. -/
def ItemsReach (hooks : JsonHooks V ε) (e : ε) (fuel : ℕ) : Prop :=
  ∀ {depth cs}, scanItems hooks fuel depth cs = .error e →
    ∃ before items vs cs' n, cs = before ++ cs' ∧ ItemsBefore before items ∧
      decodeItems hooks depth items = .ok vs ∧ hooks.number n = .error e ∧
      hooks.Reaches depth cs' n

/-- And that of a list of entries. -/
def EntriesReach (hooks : JsonHooks V ε) (e : ε) (fuel : ℕ) : Prop :=
  ∀ {depth cs}, scanEntries hooks fuel depth cs = .error e →
    ∃ before entries vs cs' n, cs = before ++ cs' ∧ EntriesBefore before entries ∧
      decodeEntries hooks depth entries = .ok vs ∧ hooks.number n = .error e ∧
      hooks.Reaches depth cs' n

/-- A scalar that fails with the error of a hook is a number that the scanner has reached.
-/
theorem reaches_of_scanScalar (h_not : ¬hooks.Raises e) {depth : ℕ} {cs : List Char}
    (h : scanScalar hooks cs = .error e) :
    ∃ n, hooks.number n = .error e ∧ hooks.Reaches depth cs n := by
  unfold scanScalar at h
  split at h
  · rename_i word rest h_word
    exfalso
    obtain ⟨h_mem, -⟩ := text_of_scanWord h_word
    rcases error_of_bind h with h_decode | ⟨v, -, h_ok⟩
    · -- only a constant has an error of its own
      simp only [words, List.mem_cons, List.not_mem_nil, or_false] at h_mem
      rcases h_mem with rfl | rfl | rfl | rfl | rfl | rfl <;>
        simp only [JsonTree.decode, reduceCtorEq] at h_decode
      all_goals exact h_not (.inr (.inr (.inl ⟨_, h_decode⟩)))
    · cases h_ok
  · rename_i h_word
    split at h
    · rename_i n rest h_number
      rcases error_of_bind h with h_error | ⟨v, -, h_ok⟩
      · exact ⟨n, h_error, depth, cs, .here depth cs, h_word, rest, h_number⟩
      · cases h_ok
    · cases h
      exact absurd (.inl rfl) h_not

/-- Padding does not change an error. -/
theorem error_of_padded {scan : List Char → Except ε (V × List Char)} {cs : List Char}
    (h : padded scan cs = .error e) : scan (skipBlanks cs) = .error e := by
  rcases error_of_bind h with h_scan | ⟨v, -, h_ok⟩
  · exact h_scan
  · cases h_ok

/-- After a part only what follows a comma has an error. -/
theorem error_of_partsAfter (h_not : ¬hooks.Raises e) {α : Type} {close : Char} {part : α}
    {scan : List Char → Except ε (List α × List Char)} {cs : List Char}
    (h : partsAfter hooks close part scan cs = .error e) :
    ∃ body, cs = ',' :: body ∧ scan body = .error e := by
  unfold partsAfter at h
  split at h
  · cases h
    exact absurd (.inl rfl) h_not
  · rename_i c rest
    split at h
    · cases h
    · split at h
      · rename_i h_comma
        rcases error_of_bind h with h_scan | ⟨v, -, h_ok⟩
        · exact ⟨rest, by rw [h_comma], h_scan⟩
        · cases h_ok
      · cases h
        exact absurd (.inl rfl) h_not

/-- One more unit of fuel for values: an error comes from the number, the items or the
entries. -/
theorem valuesReach_succ (h_not : ¬hooks.Raises e) {fuel : ℕ} (h_items : ItemsReach hooks e fuel)
    (h_entries : EntriesReach hooks e fuel) : ValuesReach hooks e (fuel + 1) := by
  intro depth cs h
  cases cs with
  | nil =>
    -- the text has ended, which is an error of the hooks' own
    unfold scanValue at h
    cases h
    exact absurd (.inl rfl) h_not
  | cons c cs =>
    -- in an array the error comes from one of its items
    by_cases h_bracket : c = '['
    · subst h_bracket
      cases depth with
      | zero =>
        rw [scanValue_tooDeep hooks fuel (.inl rfl)] at h
        cases h
        exact absurd (.inr (.inl rfl)) h_not
      | succ depth =>
        unfold scanValue at h
        simp only [Char.reduceEq, if_false, if_true] at h
        split at h
        · cases h
        · rcases error_of_bind h with h_scan | ⟨v, -, h_ok⟩
          · rw [scanItems_skipBlanks] at h_scan
            obtain ⟨before, items, vs, cs', n, rfl, h_before, h_vs, h_n, depth', cs'', h_comes,
              h_at⟩ := h_items h_scan
            exact ⟨n, h_n, depth', cs'', .item h_before h_vs h_comes, h_at⟩
          · cases h_ok
    -- in an object it comes from one of its values
    by_cases h_brace : c = '\x7b'
    · subst h_brace
      cases depth with
      | zero =>
        rw [scanValue_tooDeep hooks fuel (.inr rfl)] at h
        cases h
        exact absurd (.inr (.inl rfl)) h_not
      | succ depth =>
        unfold scanValue at h
        simp only [Char.reduceEq, if_false, if_true] at h
        have h_object : ∀ entries, hooks.object entries ≠ .error e :=
          fun entries h_error => h_not (.inr (.inr (.inr ⟨entries, h_error⟩)))
        split at h
        · rcases error_of_bind h with h_error | ⟨v, -, h_ok⟩
          · exact absurd h_error (h_object _)
          · cases h_ok
        · -- the entries before it were read
          rcases error_of_bind h with h_scan | ⟨v, -, h_rest⟩
          · rw [scanEntries_skipBlanks] at h_scan
            obtain ⟨before, entries, vs, cs', n, rfl, h_before, h_vs, h_n, depth', cs'', h_comes,
              h_at⟩ := h_entries h_scan
            exact ⟨n, h_n, depth', cs'', .entry h_before h_vs h_comes, h_at⟩
          · rcases error_of_bind h_rest with h_error | ⟨v', -, h_ok⟩
            · exact absurd h_error (h_object _)
            · cases h_ok
    -- a string fails by itself only
    by_cases h_quote : c = '"'
    · subst h_quote
      unfold scanValue at h
      simp only [if_true] at h
      split at h
      · cases h
      · cases h
        exact absurd (.inl rfl) h_not
    · have h_c : c ∉ ['"', '[', '\x7b'] := by simp [h_bracket, h_brace, h_quote]
      rw [scanValue_scalar hooks (Nat.succ_pos fuel) h_c] at h
      exact reaches_of_scanScalar h_not h

/-- One more unit of fuel for items. -/
theorem itemsReach_succ (h_not : ¬hooks.Raises e) {fuel : ℕ} (h_value : ValuesReach hooks e fuel)
    (ih : ItemsReach hooks e fuel) : ItemsReach hooks e (fuel + 1) := by
  intro depth cs h
  unfold scanItems at h
  rcases error_of_bind h with h_item | ⟨⟨v, rest⟩, h_item, h_after⟩
  · -- the item itself, after the blanks
    obtain ⟨n, h_n, h_reaches⟩ := h_value (error_of_padded h_item)
    obtain ⟨blank, h_blank, h_cs⟩ := blank_of_skipBlanks cs
    exact ⟨blank, [], [], _, n, h_cs, .none h_blank, rfl, h_n, h_reaches⟩
  · obtain ⟨text, t, h_text, h_spells, h_decode⟩ :=
      spells_of_padded hooks (spelled hooks fuel).1 h_item
    obtain ⟨body, rfl, h_scan⟩ := error_of_partsAfter h_not h_after
    obtain ⟨before, items, vs, cs', n, rfl, h_before, h_vs, h_n, h_reaches⟩ := ih h_scan
    refine ⟨text ++ ',' :: before, t :: items, v :: vs, cs', n, ?_, .more h_spells h_before, ?_,
      h_n, h_reaches⟩
    · rw [h_text]
      simp
    · rw [decodeItems, h_decode, h_vs]
      rfl

/-- One more unit of fuel for entries. -/
theorem entriesReach_succ (h_not : ¬hooks.Raises e) {fuel : ℕ}
    (h_value : ValuesReach hooks e fuel) (ih : EntriesReach hooks e fuel) :
    EntriesReach hooks e (fuel + 1) := by
  intro depth cs h
  unfold scanEntries at h
  split at h
  · cases h
    exact absurd (.inl rfl) h_not
  · rename_i key text' h_key
    obtain ⟨before, afterKey, h_before, h_afterKey, h_cs⟩ := text_of_scanKey h_key
    rcases error_of_bind h with h_item | ⟨⟨v, rest⟩, h_item, h_after⟩
    · obtain ⟨n, h_n, h_reaches⟩ := h_value (error_of_padded h_item)
      obtain ⟨blank, h_blank, h_text'⟩ := blank_of_skipBlanks text'
      refine ⟨before ++ (stringText key ++ (afterKey ++ ':' :: blank)), [], [], _, n, ?_,
        .none h_before h_afterKey h_blank, rfl, h_n, h_reaches⟩
      rw [h_cs]
      conv_lhs => rw [h_text']
      simp
    · obtain ⟨text, t, h_text, h_spells, h_decode⟩ :=
        spells_of_padded hooks (spelled hooks fuel).1 h_item
      obtain ⟨body, rfl, h_scan⟩ := error_of_partsAfter h_not h_after
      obtain ⟨before', entries, vs, cs', n, rfl, h_before', h_vs, h_n, h_reaches⟩ := ih h_scan
      refine ⟨before ++ (stringText key ++ (afterKey ++ ':' :: (text ++ ',' :: before'))),
        (key, t) :: entries, (codePoints key, v) :: vs, cs', n, ?_,
        .more h_before h_afterKey h_spells h_before', ?_, h_n, h_reaches⟩
      · rw [h_cs, h_text]
        simp
      · rw [decodeEntries, h_decode, h_vs]
        rfl

/-- An error that has nothing to do with anything else comes from a number. -/
theorem reaches_of_scanValue (h_not : ¬hooks.Raises e) (fuel : ℕ) :
    ValuesReach hooks e fuel ∧ ItemsReach hooks e fuel ∧ EntriesReach hooks e fuel := by
  induction fuel with
  | zero =>
    refine ⟨fun h => ?_, fun h => ?_, fun h => ?_⟩
    · unfold scanValue at h
      cases h
      exact absurd (.inl rfl) h_not
    · unfold scanItems at h
      cases h
      exact absurd (.inl rfl) h_not
    · unfold scanEntries at h
      cases h
      exact absurd (.inl rfl) h_not
  | succ fuel ih =>
    obtain ⟨h_value, h_items, h_entries⟩ := ih
    exact ⟨valuesReach_succ h_not h_items h_entries, itemsReach_succ h_not h_value h_items,
      entriesReach_succ h_not h_value h_entries⟩

/-! ### From the number to the error -/

/-- A number starts with a character that no container starts with. -/
theorem starts_of_numberAt {cs : List Char} {n : NumberLiteral} (h : NumberAt cs n) :
    ∃ c rest, cs = c :: rest ∧ StartsValue c ∧ c ∉ ['"', '[', '\x7b'] := by
  obtain ⟨-, rest, h_number⟩ := h
  have h_cs := text_of_scanNumber h_number
  rcases numberText_cases n with ⟨c, text, h_text, h_c⟩ | ⟨c, text, h_text, -⟩
  · rw [h_text] at h_cs
    refine ⟨c, _, h_cs, startsValue_of_isDigit h_c, ?_⟩
    intro h_mem
    simp only [List.mem_cons, List.not_mem_nil, or_false] at h_mem
    rcases h_mem with rfl | rfl | rfl <;> simp at h_c
  · rw [h_text] at h_cs
    exact ⟨'-', _, h_cs, by unfold StartsValue; decide, by decide⟩

/-- So the text in front of it starts with a value. -/
theorem starts_of_comes {depth depth' : ℕ} {cs cs' : List Char} {n : NumberLiteral}
    (h : Comes hooks depth cs depth' cs') (h_at : NumberAt cs' n) :
    ∃ c rest, cs = c :: rest ∧ StartsValue c := by
  cases h with
  | here =>
    obtain ⟨c, rest, h_cs, h_c, -⟩ := starts_of_numberAt h_at
    exact ⟨c, rest, h_cs, h_c⟩
  | item _ _ _ => exact ⟨_, _, rfl, by unfold StartsValue; decide⟩
  | entry _ _ _ => exact ⟨_, _, rfl, by unfold StartsValue; decide⟩

/-- The value at the front has the error, whatever fuel there is. -/
def Fails (hooks : JsonHooks V ε) (e : ε) (depth : ℕ) (cs : List Char) : Prop :=
  ∀ fuel, 2 * cs.length + 1 ≤ fuel → scanValue hooks fuel depth cs = .error e

/-- White space in front of a failing text does not save it. -/
theorem padded_of_fails {depth : ℕ} {cs blank : List Char} {c : Char} {rest : List Char}
    (h : Fails hooks e depth cs) (h_cs : cs = c :: rest) (h_c : StartsValue c)
    (h_blank : Blank blank) {fuel : ℕ} (h_fuel : 2 * cs.length + 1 ≤ fuel) :
    padded (scanValue hooks fuel depth) (blank ++ cs) = .error e := by
  have h_skip : skipBlanks (blank ++ cs) = cs := by
    rw [skipBlanks_blank h_blank, h_cs]
    exact skipBlanks_cons h_c.not_blank rest
  unfold padded
  rw [h_skip, h fuel h_fuel]
  rfl

/-- Items before a failing text are read, and then the array fails. -/
theorem scanItems_of_fails {depth : ℕ} {cs : List Char} {c : Char} {rest : List Char}
    (h : Fails hooks e depth cs) (h_cs : cs = c :: rest) (h_c : StartsValue c)
    {before : List Char} {items : List JsonTree} (h_before : ItemsBefore before items) :
    ∀ {vs}, decodeItems hooks depth items = .ok vs → ∀ fuel, 2 * (before ++ cs).length + 2 ≤ fuel →
      scanItems hooks fuel depth (before ++ cs) = .error e := by
  induction h_before with
  | @none blank h_blank =>
    intro vs _ fuel h_fuel
    obtain ⟨fuel, rfl⟩ : ∃ m, fuel = m + 1 := ⟨fuel - 1, by omega⟩
    rw [List.length_append] at h_fuel
    unfold scanItems
    rw [padded_of_fails h h_cs h_c h_blank (by omega)]
    rfl
  | @more text before t items h_spells h_before ih =>
    intro vs h_vs fuel h_fuel
    obtain ⟨fuel, rfl⟩ : ∃ m, fuel = m + 1 := ⟨fuel - 1, by omega⟩
    simp only [List.length_append, List.length_cons] at h_fuel
    rw [decodeItems] at h_vs
    obtain ⟨v, h_v, h_more⟩ := ok_of_bind h_vs
    obtain ⟨vs', h_vs', -⟩ := ok_of_bind h_more
    have h_scan := scanPadded_of_spells hooks h_spells fuel depth (',' :: (before ++ cs)) (by omega)
      (delimited_cons (by decide))
    have h_tail := ih h_vs' fuel (by simp only [List.length_append]; omega)
    unfold scanItems
    rw [List.append_assoc, List.cons_append, h_scan, h_v, skipBlanks_cons rfl]
    show partsAfter hooks ']' v (scanItems hooks fuel depth) (',' :: (before ++ cs)) = _
    rw [partsAfter_comma hooks (by decide), h_tail]
    rfl

/-- Entries before a failing text are read, and then the object fails. -/
theorem scanEntries_of_fails {depth : ℕ} {cs : List Char} {c : Char} {rest : List Char}
    (h : Fails hooks e depth cs) (h_cs : cs = c :: rest) (h_c : StartsValue c)
    {before : List Char} {entries : List (List StringPart × JsonTree)}
    (h_before : EntriesBefore before entries) :
    ∀ {vs}, decodeEntries hooks depth entries = .ok vs →
      ∀ fuel, 2 * (before ++ cs).length + 2 ≤ fuel →
        scanEntries hooks fuel depth (before ++ cs) = .error e := by
  induction h_before with
  | @none before key afterKey blank h_before h_afterKey h_blank =>
    intro vs _ fuel h_fuel
    obtain ⟨fuel, rfl⟩ : ∃ m, fuel = m + 1 := ⟨fuel - 1, by omega⟩
    simp only [List.length_append, List.length_cons] at h_fuel
    have h_key := scanKey_text h_before h_afterKey key (blank ++ cs)
    unfold scanEntries
    simp only [List.append_assoc, List.cons_append, h_key]
    rw [padded_of_fails h h_cs h_c h_blank (by omega)]
    rfl
  | @more before key afterKey text tail t entries h_before h_afterKey h_spells h_tail ih =>
    intro vs h_vs fuel h_fuel
    obtain ⟨fuel, rfl⟩ : ∃ m, fuel = m + 1 := ⟨fuel - 1, by omega⟩
    simp only [List.length_append, List.length_cons] at h_fuel
    rw [decodeEntries] at h_vs
    obtain ⟨v, h_v, h_more⟩ := ok_of_bind h_vs
    obtain ⟨vs', h_vs', -⟩ := ok_of_bind h_more
    have h_key := scanKey_text h_before h_afterKey key (text ++ ',' :: (tail ++ cs))
    have h_scan := scanPadded_of_spells hooks h_spells fuel depth (',' :: (tail ++ cs)) (by omega)
      (delimited_cons (by decide))
    have h_rest := ih h_vs' fuel (by simp only [List.length_append]; omega)
    unfold scanEntries
    simp only [List.append_assoc, List.cons_append, h_key]
    rw [h_scan, h_v, skipBlanks_cons rfl]
    show partsAfter hooks '\x7d' (codePoints key, v) (scanEntries hooks fuel depth)
      (',' :: (tail ++ cs)) = _
    rw [partsAfter_comma hooks (by decide), h_rest]
    rfl

/-- The text in front of an item, after the blanks, does not start with the closing bracket. -/
theorem starts_of_itemsBefore {before cs : List Char} {items : List JsonTree} {c : Char}
    {rest : List Char} (h : ItemsBefore before items) (h_cs : cs = c :: rest)
    (h_c : StartsValue c) : ∃ c' rest', skipBlanks (before ++ cs) = c' :: rest' ∧ c' ≠ ']' := by
  cases h with
  | none h_blank =>
    rw [skipBlanks_blank h_blank, h_cs]
    exact ⟨c, rest, skipBlanks_cons h_c.not_blank rest, h_c.2.2⟩
  | more h_spells _ =>
    rw [List.append_assoc, List.cons_append]
    obtain ⟨h_blank, h_text, -⟩ := h_spells
    obtain ⟨c', text, rfl, h_c'⟩ := starts_of_spells h_text
    rw [List.append_assoc, skipBlanks_blank h_blank]
    exact ⟨c', _, skipBlanks_cons h_c'.not_blank _, h_c'.2.2⟩

/-- The text in front of a value of an object, after the blanks, starts with a key. -/
theorem starts_of_entriesBefore {before cs : List Char}
    {entries : List (List StringPart × JsonTree)} (h : EntriesBefore before entries) :
    ∃ rest, skipBlanks (before ++ cs) = '"' :: rest := by
  cases h with
  | none h_blank _ _ =>
    rw [List.append_assoc, skipBlanks_blank h_blank]
    exact ⟨_, skipBlanks_cons rfl _⟩
  | more h_blank _ _ _ =>
    rw [List.append_assoc, skipBlanks_blank h_blank]
    exact ⟨_, skipBlanks_cons rfl _⟩

/-- The error of a number that the decoder comes to is the error of the decoder. -/
theorem fails_of_comes {n : NumberLiteral} (h_n : hooks.number n = .error e) {depth depth' : ℕ}
    {cs cs' : List Char} (h : Comes hooks depth cs depth' cs') (h_at : NumberAt cs' n) :
    Fails hooks e depth cs := by
  induction h with
  | here depth cs =>
    intro fuel h_fuel
    obtain ⟨c, rest, h_cs, -, h_c⟩ := starts_of_numberAt h_at
    obtain ⟨h_word, rest', h_number⟩ := h_at
    rw [h_cs] at h_fuel ⊢
    rw [scanValue_scalar hooks (by omega) h_c, ← h_cs]
    unfold scanScalar
    simp only [h_word, h_number, h_n]
    rfl
  | @item depth before items vs cs depth' cs' h_before h_vs h_comes ih =>
    intro fuel h_fuel
    obtain ⟨fuel, rfl⟩ : ∃ m, fuel = m + 1 := ⟨fuel - 1, by omega⟩
    rw [List.length_cons] at h_fuel
    obtain ⟨c, rest, h_cs, h_c⟩ := starts_of_comes h_comes h_at
    obtain ⟨c', rest', h_start, h_c'⟩ := starts_of_itemsBefore h_before h_cs h_c
    rw [scanValue_array hooks fuel depth h_start h_c',
      scanItems_of_fails (ih h_at) h_cs h_c h_before h_vs fuel (by omega)]
    rfl
  | @entry depth before entries vs cs depth' cs' h_before h_vs h_comes ih =>
    intro fuel h_fuel
    obtain ⟨fuel, rfl⟩ : ∃ m, fuel = m + 1 := ⟨fuel - 1, by omega⟩
    rw [List.length_cons] at h_fuel
    obtain ⟨c, rest, h_cs, h_c⟩ := starts_of_comes h_comes h_at
    obtain ⟨rest', h_start⟩ := starts_of_entriesBefore h_before
    rw [scanValue_object hooks fuel depth h_start,
      scanEntries_of_fails (ih h_at) h_cs h_c h_before h_vs fuel (by omega)]
    rfl

/-- **The errors of numbers.** An error that no other hook raises is raised exactly where the
decoder comes to a number for which the hook of numbers raises it. -/
theorem scanValue_error_iff (h_not : ¬hooks.Raises e) {fuel depth : ℕ} {cs : List Char}
    (h_fuel : 2 * cs.length + 1 ≤ fuel) :
    scanValue hooks fuel depth cs = .error e ↔
      ∃ n, hooks.number n = .error e ∧ hooks.Reaches depth cs n := by
  constructor
  · exact (reaches_of_scanValue h_not fuel).1
  · rintro ⟨n, h_n, depth', cs', h_comes, h_at⟩
    exact fails_of_comes h_n h_comes h_at fuel h_fuel

end Reach

end Framework
