import DqScoring.Common.CanonicalLiterals
import DqScoring.Common.StructuredTexts
import Mathlib.Data.Prod.Lex

/-!
# The round trip of canonical text

Canonical text is parsed again in several places: an array that was found in a document is
canonicalised and then parsed for its items. The parser gives back an equal value
(`Json.Same`), with one exception. A decimal with exponent 0, such as the `Decimal` of `12e0`,
has canonical text without point and exponent, which the parser takes for an integer; and where
it has more digits than `int` takes, it is refused (`HasLongWhole`).

The text itself is faithful even there: equal texts are those of equal values
(`same_of_canonical`), and texts that differ in white space and in the order of keys only have
one canonical text (`canonical_of_reorders`).
-/

namespace DqScoring

open Framework

namespace Json

/-! ### Equal values -/

/-- The number that a value is. -/
def number? : Json → Option ℚ
  | int n => some n
  | decimal d => some d.toRat
  | _ => none

mutual

/-- The values are equal: numbers as numbers, texts and truth values exactly, arrays in order and
objects as maps. -/
def Same : Json → Json → Prop
  | null, w => w = null
  | bool b, w => w = bool b
  -- numbers agree by value, however they are written
  | int n, w => w.number? = some (n : ℚ)
  | decimal d, w => w.number? = some d.toRat
  | str s, w => w = str s
  | arr items, w => ∃ items', w = arr items' ∧ SameItems items items'
  -- the order of the keys does not count
  | obj entries, w => ∃ entries', w = obj entries' ∧
      (∀ k, k ∈ entries.map (·.1) ↔ k ∈ entries'.map (·.1)) ∧ SameEntries entries entries'

/-- The items are equal, one by one. -/
def SameItems : List Json → List Json → Prop
  | [], items' => items' = []
  | v :: items, items' => ∃ w rest, items' = w :: rest ∧ Same v w ∧ SameItems items rest

/-- Each entry has an equal one of the same key. -/
def SameEntries : List (String × Json) → List (String × Json) → Prop
  | [], _ => True
  | (k, v) :: entries, entries' =>
    (∃ w, entries'.lookup k = some w ∧ Same v w) ∧ SameEntries entries entries'

end

/-- Arrays are the same item by item. -/
theorem sameItems_iff {items items' : List Json} :
    SameItems items items' ↔ List.Forall₂ Same items items' := by
  induction items generalizing items' with
  | nil => rw [SameItems, List.forall₂_nil_left_iff]
  | cons v items ih =>
    rw [SameItems, List.forall₂_cons_left_iff]
    constructor
    · rintro ⟨w, rest, rfl, h_v, h_rest⟩
      exact ⟨w, rest, h_v, ih.mp h_rest, rfl⟩
    · rintro ⟨w, rest, h_v, h_rest, rfl⟩
      exact ⟨w, rest, rfl, h_v, ih.mpr h_rest⟩

/-- Objects are the same when each key leads to the same value. -/
theorem sameEntries_iff {entries entries' : List (String × Json)} :
    SameEntries entries entries' ↔
      ∀ e ∈ entries, ∃ w, entries'.lookup e.1 = some w ∧ Same e.2 w := by
  induction entries with
  | nil => simp [SameEntries]
  | cons e entries ih => rw [SameEntries, ih, List.forall_mem_cons]

/-- Equal numbers have one value, whatever their kind. -/
theorem number?_of_same {v u : Json} {x : ℚ} (h_u : u.number? = some x) (h : Same v u) :
    v.number? = some x := by
  cases v with
  | int n =>
    rw [Same, h_u] at h
    exact h.symm
  | decimal d =>
    rw [Same, h_u] at h
    exact h.symm
  | arr items =>
    obtain ⟨items', rfl, -⟩ := h
    cases h_u
  | obj entries =>
    obtain ⟨entries', rfl, -⟩ := h
    cases h_u
  | _ =>
    rw [Same] at h
    subst h
    cases h_u

/-- Two values that equal a third are equal. -/
theorem same_of_same (v : Json) : ∀ {u w : Json}, Same v u → Same w u → Same v w := by
  induction v using Json.inductionOn with
  | null =>
    rintro u w rfl h_w
    cases w <;> simp_all [Same, number?]
  | bool b =>
    rintro u w rfl h_w
    cases w <;> simp_all [Same, number?]
  | int n =>
    -- numbers are compared by their values, whatever their kinds
    intro u w h_v h_w
    exact number?_of_same h_v h_w
  | decimal d =>
    intro u w h_v h_w
    exact number?_of_same h_v h_w
  | str s =>
    rintro u w rfl h_w
    cases w <;> simp_all [Same, number?]
  | arr items ih =>
    rintro u w ⟨items', rfl, h_items⟩ h_w
    cases w with
    | arr items'' =>
      -- item by item, along the first comparison
      obtain ⟨_, ⟨⟩, h_items'⟩ := h_w
      refine ⟨items'', rfl, ?_⟩
      rw [sameItems_iff] at h_items h_items' ⊢
      induction h_items generalizing items'' with
      | nil =>
        cases h_items'
        exact .nil
      | cons h_v _ ih_items =>
        cases h_items' with
        | cons h_w h_rest =>
          obtain ⟨ih_v, ih_rest⟩ := List.forall_mem_cons.mp ih
          exact .cons (ih_v h_v h_w) (ih_items ih_rest _ h_rest)
    | _ => simp [Same, number?] at h_w
  | obj entries ih =>
    -- the first object is compared with the second along its own keys, with the third through
    -- them
    rintro u w ⟨entries', rfl, h_keys, h_entries⟩ h_w
    cases w with
    | obj entries'' =>
      obtain ⟨_, ⟨⟩, h_keys', h_entries'⟩ := h_w
      rw [sameEntries_iff] at h_entries h_entries'
      refine ⟨entries'', rfl, fun k => (h_keys k).trans (h_keys' k).symm, ?_⟩
      rw [sameEntries_iff]
      intro e h_e
      obtain ⟨x, h_x, h_same⟩ := h_entries e h_e
      -- the key is one of the third object, and so one of the second
      have h_key : e.1 ∈ entries''.map (·.1) :=
        (h_keys' e.1).mpr ((h_keys e.1).mp (List.mem_map_of_mem h_e))
      obtain ⟨y, h_y⟩ : ∃ y, entries''.lookup e.1 = some y := by
        rw [← Option.isSome_iff_exists, Option.isSome_iff_ne_none]
        intro h_none
        rw [List.lookup_eq_none_iff] at h_none
        obtain ⟨p, h_p, h_fst⟩ := List.mem_map.mp h_key
        have h_ne := h_none p h_p
        simp [h_fst] at h_ne
      obtain ⟨l₁, l₂, h_split, -⟩ := List.lookup_eq_some_iff.mp h_y
      have h_mem : (e.1, y) ∈ entries'' := by
        rw [h_split]
        exact List.mem_append_right _ List.mem_cons_self
      -- both comparisons meet at the value of that key
      obtain ⟨x', h_x', h_same'⟩ := h_entries' (e.1, y) h_mem
      rw [h_x] at h_x'
      cases h_x'
      exact ⟨y, h_y, ih e h_e h_same h_same'⟩
    | _ => simp [Same, number?] at h_w

/-- What nests within a bound nests within a larger one. -/
theorem NestsWithin.mono {n m : ℕ} {v : Json} (h : v.NestsWithin n) (h_le : n ≤ m) :
    v.NestsWithin m := by
  induction n generalizing m v with
  | zero => cases v <;> first | exact h.elim | (cases m <;> trivial)
  | succ n ih =>
    obtain ⟨m, rfl⟩ : ∃ k, m = k + 1 := ⟨m - 1, by omega⟩
    cases v with
    | arr items => exact fun v h_v => ih (h v h_v) (by omega)
    | obj entries => exact fun e h_e => ih (h e h_e) (by omega)
    | _ => trivial

/-! ### Numbers that are refused -/

/-- The value contains a decimal with exponent 0 and more digits than `int` takes. -/
def HasLongWhole (limits : ParserLimits) (v : Json) : Prop :=
  ∃ d, Part (.decimal d) v ∧ d.exponent = 0 ∧ ¬limits.AllowDigits d.digitCount

/-- A long whole decimal of an array is in one of its items. -/
theorem hasLongWhole_arr {limits : ParserLimits} {items : List Json} :
    (arr items).HasLongWhole limits ↔ ∃ v ∈ items, v.HasLongWhole limits := by
  constructor
  · rintro ⟨d, h_part, h_d⟩
    cases h_part with
    | item h_mem h_part => exact ⟨_, h_mem, d, h_part, h_d⟩
  · rintro ⟨v, h_mem, d, h_part, h_d⟩
    exact ⟨d, .item h_mem h_part, h_d⟩

/-- A long whole decimal of an object is in one of its values. -/
theorem hasLongWhole_obj {limits : ParserLimits} {entries : List (String × Json)} :
    (obj entries).HasLongWhole limits ↔ ∃ e ∈ entries, e.2.HasLongWhole limits := by
  constructor
  · rintro ⟨d, h_part, h_d⟩
    cases h_part with
    | value h_mem h_part => exact ⟨_, h_mem, d, h_part, h_d⟩
  · rintro ⟨e, h_mem, d, h_part, h_d⟩
    exact ⟨d, .value h_mem h_part, h_d⟩

/-! ### Canonical text -/

/-- Items are written one by one. -/
theorem canonicalItems_eq_map (items : List Json) : canonicalItems items = items.map canonical := by
  induction items with
  | nil => rfl
  | cons v items ih => rw [canonicalItems, ih, List.map_cons]

/-- Entries are written one by one. -/
theorem canonicalEntries_eq_map (entries : List (String × Json)) :
    canonicalEntries entries = entries.map fun e => (e.1, e.2.canonical) := by
  induction entries with
  | nil => rfl
  | cons e entries ih => rw [canonicalEntries, ih, List.map_cons]

/-- The entries of an object by their keys. -/
def sortedEntries {α : Type} (entries : List (String × α)) : List (String × α) :=
  entries.mergeSort fun a b => decide (a.1 ≤ b.1)

/-- Sorting by keys does not look at the values. -/
theorem sortedEntries_map {α β : Type} (f : α → β) (entries : List (String × α)) :
    sortedEntries (entries.map fun e => (e.1, f e.2)) =
      (sortedEntries entries).map fun e => (e.1, f e.2) := by
  have h_map : (sortedEntries entries).map (fun e => (e.1, f e.2)) =
      sortedEntries (entries.map fun e => (e.1, f e.2)) :=
    List.map_mergeSort fun _ _ _ _ => rfl
  exact h_map.symm

/-- The entries are written in the order of their keys. -/
theorem pairwise_sortedEntries {α : Type} (entries : List (String × α)) :
    (sortedEntries entries).Pairwise fun a b => decide (a.1 ≤ b.1) = true := by
  refine List.pairwise_mergeSort (fun a b c h_ab h_bc => ?_) (fun a b => ?_) entries
  · exact decide_eq_true (String.le_trans (of_decide_eq_true h_ab) (of_decide_eq_true h_bc))
  · simpa using String.le_total a.1 b.1

/-- Sorted entries stay as they are. -/
theorem sortedEntries_sortedEntries {α : Type} (entries : List (String × α)) :
    sortedEntries (sortedEntries entries) = sortedEntries entries :=
  List.mergeSort_of_pairwise (pairwise_sortedEntries entries)

theorem canonical_obj (entries : List (String × Json)) : (obj entries).canonical =
    "\x7b" ++ ",".intercalate ((sortedEntries entries).map fun e =>
      quote e.1 ++ ":" ++ e.2.canonical) ++ "\x7d" := by
  rw [canonical]
  show "\x7b" ++ ",".intercalate ((sortedEntries (canonicalEntries entries)).map _) ++ "\x7d" = _
  rw [canonicalEntries_eq_map, sortedEntries_map, List.map_map]
  rfl

/-- Permuted entries with distinct keys are sorted alike. -/
theorem sortedEntries_perm {α : Type} {entries entries' : List (String × α)}
    (h_keys : (entries.map (·.1)).Nodup) (h : entries.Perm entries') :
    sortedEntries entries = sortedEntries entries' := by
  refine List.Perm.eq_of_pairwise ?_ (pairwise_sortedEntries entries)
    (pairwise_sortedEntries entries')
    ((List.mergeSort_perm ..).trans (h.trans (List.mergeSort_perm ..).symm))
  intro a b h_a h_b h_ab h_ba
  have h_a' : a ∈ entries := (List.mergeSort_perm ..).mem_iff.mp h_a
  have h_b' : b ∈ entries := h.mem_iff.mpr ((List.mergeSort_perm ..).mem_iff.mp h_b)
  exact List.inj_on_of_nodup_map h_keys h_a' h_b'
    (String.le_antisymm (of_decide_eq_true h_ab) (of_decide_eq_true h_ba))

end Json

/-! ### Canonical text is read again -/

/-- With distinct keys an entry is what its key leads to. -/
theorem lookup_of_mem {α : Type} {entries : List (String × α)}
    (h_keys : (entries.map (·.1)).Nodup) {e : String × α} (h : e ∈ entries) :
    entries.lookup e.1 = some e.2 := by
  obtain ⟨before, after, rfl⟩ := List.append_of_mem h
  refine List.lookup_eq_some_iff.mpr ⟨before, after, rfl, fun p h_p => ?_⟩
  rw [List.map_append, List.map_cons, List.nodup_append] at h_keys
  have h_ne := h_keys.2.2 p.1 (List.mem_map_of_mem h_p) e.1 List.mem_cons_self
  simpa using Ne.symm h_ne

/-- The error of an integer with too many digits. -/
def tooManyDigits : JsonFailure :=
  .raised (.valueError "Exceeds the limit for integer string conversion")

/-- The decoded value checks as one that equals `v`, wherever `v` may stand. -/
structure ChecksAs (maxDepth : ℕ) (v : Json) (raw : RawValue) : Prop where
  nests : raw.isContainer = true → ∀ n, v.NestsWithin n → 0 < n
  checks : ∀ currentDepth, currentDepth ≤ maxDepth → v.NestsWithin (maxDepth + 1 - currentDepth) →
    ∃ w, checkDepth maxDepth currentDepth raw = .ok w ∧ v.Same w

/-- Within a container, one level deeper where the value is a container itself. -/
theorem ChecksAs.item {maxDepth currentDepth : ℕ} {v : Json} {raw : RawValue}
    (h : ChecksAs maxDepth v raw) (h_depth : currentDepth ≤ maxDepth)
    (h_nests : v.NestsWithin (maxDepth - currentDepth)) :
    ∃ w, checkDepth maxDepth (currentDepth + raw.isContainer.toNat) raw = .ok w ∧ v.Same w := by
  cases h_raw : raw.isContainer with
  | true =>
    have h_pos := h.nests h_raw _ h_nests
    have h_level : maxDepth + 1 - (currentDepth + 1) = maxDepth - currentDepth := by omega
    refine h.checks (currentDepth + 1) (by omega) ?_
    rw [h_level]
    exact h_nests
  | false => exact h.checks currentDepth h_depth (h_nests.mono (by omega))

/-- The document is read as a value that equals `v`, or refused for a number of `v`. -/
def ReadsAs (limits : ParserLimits) (maxDepth depth : ℕ) (v : Json) (t : JsonTree) : Prop :=
  (v.HasLongWhole limits ∧ t.decode (structuredHooks limits) depth = .error tooManyDigits) ∨
    (¬v.HasLongWhole limits ∧ ∃ raw, t.decode (structuredHooks limits) depth = .ok raw ∧
      ChecksAs maxDepth v raw)

/-- A scalar that is decoded and checked as itself. -/
theorem checksAs_of_scalar {maxDepth : ℕ} {v w : Json} {raw : RawValue}
    (h_scalar : raw.isContainer = false)
    (h_check : ∀ currentDepth, currentDepth ≤ maxDepth →
      checkDepth maxDepth currentDepth raw = .ok w) (h_same : v.Same w) :
    ChecksAs maxDepth v raw where
  nests := fun h => by
    rw [h_scalar] at h
    cases h
  checks := fun currentDepth h_depth _ => ⟨w, h_check currentDepth h_depth, h_same⟩

/-- A scalar that decodes to itself is read at any depth that is left. -/
theorem readsAs_of_scalar {limits : ParserLimits} {maxDepth depth : ℕ} {v w : Json} {t : JsonTree}
    {raw : RawValue} (h_decode : t.decode (structuredHooks limits) depth = .ok raw)
    (h_scalar : raw.isContainer = false) (h_parts : ∀ d, ¬Json.Part (.decimal d) v)
    (h_check : ∀ currentDepth, currentDepth ≤ maxDepth →
      checkDepth maxDepth currentDepth raw = .ok w)
    (h_same : v.Same w) : ReadsAs limits maxDepth depth v t :=
  .inr ⟨fun ⟨d, h_part, _⟩ => h_parts d h_part, raw, h_decode,
    checksAs_of_scalar h_scalar h_check h_same⟩

/-- The numeral of an integer is read as that integer, if it is not too long for `int`. -/
theorem intOfLiteral_eq {limits : ParserLimits} {lit : NumberLiteral} {n : ℤ}
    (h_digits : lit.integral.digits = digitsOf n.natAbs)
    (h_sign : n = (if lit.negative then -1 else 1) * (n.natAbs : ℤ)) :
    intOfLiteral limits lit =
      if limits.AllowDigits (Nat.toDigits 10 n.natAbs).length then .ok (.int n)
      else .error tooManyDigits := by
  unfold intOfLiteral
  rw [h_digits, length_digitsOf, digitsValue_digitsOf, ← h_sign]
  rfl

/-- An integer may stand at any depth within the limit. -/
theorem checkDepth_int {maxDepth currentDepth : ℕ} (h : currentDepth ≤ maxDepth) (n : ℤ) :
    checkDepth maxDepth currentDepth (.int n) = .ok (.int n) := by
  unfold checkDepth
  rw [if_neg (by omega)]

/-- Integers are read as they are. -/
theorem readsAs_int (limits : ParserLimits) (maxDepth depth : ℕ) {n : ℤ}
    (h : (Json.int n).Sound limits) : ∃ t, Spells (Json.int n).canonical.toList t ∧
      ReadsAs limits maxDepth depth (.int n) t := by
  obtain ⟨lit, h_text, h_integer, h_digits, h_negative⟩ := exists_intLiteral n
  refine ⟨.number lit, ?_, .inr ⟨?_, .int n, ?_, ?_⟩⟩
  · rw [Json.canonical, ← h_text]
    exact .number lit
  · rintro ⟨d, h_part, -⟩
    cases h_part
  · have h_sign : n = (if lit.negative then -1 else 1) * (n.natAbs : ℤ) := by
      rw [h_negative]
      by_cases h_n : n < 0
      · simp only [h_n, decide_true, if_true]
        omega
      · simp only [h_n, decide_false, Bool.false_eq_true, if_false]
        omega
    rw [JsonTree.decode]
    show (if lit.isInteger then intOfLiteral limits lit else decimalOfLiteral lit) = _
    have h_allowed : limits.AllowDigits (Nat.toDigits 10 n.natAbs).length := h
    rw [if_pos h_integer, intOfLiteral_eq h_digits h_sign, if_pos h_allowed]
  · refine checksAs_of_scalar (w := .int n) rfl
      (fun currentDepth h_depth => checkDepth_int h_depth n) ?_
    rw [Json.Same]
    rfl

/-- A decimal is read as itself, or as an integer where its exponent is 0. -/
theorem readsAs_decimal (limits : ParserLimits) (maxDepth depth : ℕ) {d : DecimalNumber}
    (h : (Json.decimal d).Sound limits) : ∃ t, Spells (Json.decimal d).canonical.toList t ∧
      ReadsAs limits maxDepth depth (.decimal d) t := by
  -- a decimal is its own only part, so it is long exactly when it is whole and too long for
  -- `int`
  have h_long : (Json.decimal d).HasLongWhole limits ↔
      d.exponent = 0 ∧ ¬limits.AllowDigits d.digitCount := by
    constructor
    · rintro ⟨d', h_part, h_d⟩
      cases h_part
      exact h_d
    · intro h_d
      exact ⟨d, .self _, h_d⟩
  by_cases h_exponent : d.exponent = 0
  · -- without exponent the text has no point, and the parser reads an integer
    obtain ⟨lit, h_text, h_integer, h_digits, h_negative⟩ :=
      DecimalNumber.exists_wholeLiteral h_exponent
    obtain ⟨n, h_n⟩ : ∃ n : ℤ, n = (if d.negative then -1 else 1) * (d.coefficient : ℤ) := ⟨_, rfl⟩
    have h_abs : n.natAbs = d.coefficient := by
      rw [h_n]
      split <;> omega
    have h_decode : (JsonTree.number lit).decode (structuredHooks limits) depth =
        if limits.AllowDigits d.digitCount then .ok (.int n) else .error tooManyDigits := by
      rw [JsonTree.decode]
      show (if lit.isInteger then intOfLiteral limits lit else decimalOfLiteral lit) = _
      rw [if_pos h_integer, intOfLiteral_eq (n := n) (by rw [h_digits, h_abs])
        (by rw [h_abs, h_negative, h_n]), h_abs]
      rfl
    refine ⟨.number lit, ?_, ?_⟩
    · rw [Json.canonical, ← h_text]
      exact .number lit
    · -- the integer is taken within the limit of digits, and equals the decimal
      by_cases h_allowed : limits.AllowDigits d.digitCount
      · rw [if_pos h_allowed] at h_decode
        refine .inr ⟨fun h_l => (h_long.mp h_l).2 h_allowed, .int n, h_decode, ?_⟩
        refine checksAs_of_scalar (w := .int n) rfl
          (fun currentDepth h_depth => checkDepth_int h_depth n) ?_
        rw [Json.Same]
        show some (n : ℚ) = some d.toRat
        rw [DecimalNumber.toRat, h_exponent, h_n]
        cases d.negative <;> simp
      · -- beyond the limit the parser refuses it
        rw [if_neg h_allowed] at h_decode
        exact .inl ⟨h_long.mpr ⟨h_exponent, h_allowed⟩, h_decode⟩
  · -- with an exponent the text is that of a decimal, read with all its digits
    obtain ⟨lit, h_text, h_integer, h_value⟩ := DecimalNumber.exists_decimalLiteral h_exponent
    refine ⟨.number lit, ?_, .inr ⟨fun h_l => h_exponent (h_long.mp h_l).1, .decimal d, ?_, ?_⟩⟩
    · rw [Json.canonical, ← h_text]
      exact .number lit
    · have h_fits : d.Fits := h
      rw [JsonTree.decode]
      show (if lit.isInteger then intOfLiteral limits lit else decimalOfLiteral lit) = _
      rw [h_integer, if_neg (by decide), decimalOfLiteral, h_value]
      exact if_pos h_fits
    · refine checksAs_of_scalar (w := .decimal d) rfl (fun currentDepth h_depth => ?_) ?_
      · unfold checkDepth
        rw [if_neg (by omega)]
      · rw [Json.Same]
        rfl

/-- Items with commas between them. -/
theorem spellsItems_intercalate {texts : List String} {ts : List JsonTree}
    (h : List.Forall₂ (fun text t => Spells text.toList t) texts ts) (h_ne : texts ≠ []) :
    SpellsItems (",".intercalate texts).toList ts := by
  induction h with
  | nil => exact absurd rfl h_ne
  | @cons text t texts ts h_text h_rest ih =>
    cases h_rest with
    | nil =>
      rw [String.intercalate_singleton]
      exact .last h_text.padded
    | @cons text' t' texts ts h_text' h_rest =>
      have h_more := ih (List.cons_ne_nil _ _)
      rw [String.intercalate_cons_cons, String.toList_append, String.toList_append,
        List.append_assoc]
      exact .more h_text.padded h_more

/-- Entries with commas between them. -/
theorem spellsEntries_intercalate {entries : List (String × String)}
    {ts : List (List StringPart × JsonTree)}
    (h : List.Forall₂ (fun (e : String × String) (t : List StringPart × JsonTree) =>
      stringText t.1 = (Json.quote e.1).toList ∧ Spells e.2.toList t.2) entries ts)
    (h_ne : entries ≠ []) : SpellsEntries
      (",".intercalate (entries.map fun e => Json.quote e.1 ++ ":" ++ e.2)).toList ts := by
  have h_entry : ∀ (e : String × String), (Json.quote e.1 ++ ":" ++ e.2).toList =
      [] ++ ((Json.quote e.1).toList ++ ([] ++ ':' :: e.2.toList)) := by
    intro e
    simp
  induction h with
  | nil => exact absurd rfl h_ne
  | @cons e t entries ts h_head h_rest ih =>
    obtain ⟨h_key, h_text⟩ := h_head
    cases h_rest with
    | nil =>
      rw [List.map_singleton, String.intercalate_singleton, h_entry, ← h_key]
      exact .last blank_nil blank_nil h_text.padded
    | @cons e' t' entries ts h_head' h_rest =>
      have h_more := ih (List.cons_ne_nil _ _)
      rw [List.map_cons] at h_more ⊢
      rw [List.map_cons, String.intercalate_cons_cons, String.toList_append, String.toList_append,
        h_entry, ← h_key]
      have h_spells : SpellsEntries ([] ++ (stringText t.1 ++ ([] ++ ':' :: (e.2.toList ++
          ',' :: (",".intercalate ((Json.quote e'.1 ++ ":" ++ e'.2) ::
            entries.map fun e => Json.quote e.1 ++ ":" ++ e.2)).toList)))) (t :: t' :: ts) :=
        .more blank_nil blank_nil h_text.padded h_more
      simpa using h_spells

/-- The items of an array are checked one level deeper. -/
theorem checksAs_arr {maxDepth : ℕ} {items : List Json} {raws : List RawValue}
    (h : List.Forall₂ (ChecksAs maxDepth) items raws) :
    ChecksAs maxDepth (.arr items) (.arr raws) where
  nests := by
    intro _ n h_n
    cases n with
    | zero => exact h_n.elim
    | succ n => omega
  checks := by
    intro currentDepth h_depth h_nests
    have h_level : maxDepth + 1 - currentDepth = (maxDepth - currentDepth) + 1 := by omega
    rw [h_level] at h_nests
    have h_items : List.Forall₂ (fun v raw => ∃ w, checkDepth maxDepth
        (currentDepth + raw.isContainer.toNat) raw = .ok w ∧ v.Same w) items raws := by
      have h_all : ∀ v ∈ items, v.NestsWithin (maxDepth - currentDepth) := h_nests
      clear h_nests
      induction h with
      | nil => exact .nil
      | cons h_head _ ih =>
        obtain ⟨h_v, h_rest⟩ := List.forall_mem_cons.mp h_all
        exact .cons (h_head.item h_depth h_v) (ih h_rest)
    obtain ⟨ws, h_ws, h_same⟩ := mapM_of_forall₂ h_items
    refine ⟨.arr ws, ?_, ws, rfl, Json.sameItems_iff.mpr h_same⟩
    unfold checkDepth
    rw [if_neg (by omega)]
    simp only [checkItems_eq_mapM, h_ws]
    rfl

/-- The canonical text of an array. -/
theorem readsAs_arr {limits : ParserLimits} {maxDepth depth : ℕ} {items : List Json}
    (h : ∀ v ∈ items, ∃ t, Spells v.canonical.toList t ∧ ReadsAs limits maxDepth depth v t) :
    ∃ t, Spells (Json.arr items).canonical.toList t ∧
      ReadsAs limits maxDepth (depth + 1) (.arr items) t := by
  obtain ⟨ts, h_ts⟩ := exists_forall₂ h
  refine ⟨.array ts, ?_, ?_⟩
  · have h_texts : List.Forall₂ (fun text t => Spells text.toList t)
      (items.map Json.canonical) ts :=
      List.forall₂_map_left_iff.mpr (h_ts.imp fun _ _ h_t => h_t.1)
    rw [Json.canonical, Json.canonicalItems_eq_map]
    simp only [String.toList_append]
    cases items with
    | nil =>
      cases h_texts
      exact .emptyArray blank_nil
    | cons v items =>
      have h_items := spellsItems_intercalate h_texts (by simp)
      exact .array h_items
  · rcases mapM_one_error (h_ts.imp fun _ _ h_t => h_t.2) with
      ⟨h_long, h_decode⟩ | ⟨h_short, raws, h_decode, h_raws⟩
    · refine .inl ⟨Json.hasLongWhole_arr.mpr h_long, ?_⟩
      rw [JsonTree.decode, decodeItems_eq_mapM, h_decode]
      rfl
    · refine .inr ⟨fun h_l => ?_, .arr raws, ?_, ?_⟩
      · obtain ⟨v, h_v, h_long⟩ := Json.hasLongWhole_arr.mp h_l
        exact h_short v h_v h_long
      · rw [JsonTree.decode, decodeItems_eq_mapM, h_decode]
        rfl
      · exact checksAs_arr h_raws

/-- The entries of an object are checked one level deeper. Their order does not matter. -/
theorem checksAs_obj {maxDepth : ℕ} {entries sorted : List (String × Json)}
    {pairs : List (List ℕ × RawValue)} (h_keys : (entries.map (·.1)).Nodup)
    (h_perm : sorted.Perm entries)
    (h : List.Forall₂ (fun (e : String × Json) (pair : List ℕ × RawValue) =>
      pair.1 = e.1.toList.map Char.toNat ∧ ChecksAs maxDepth e.2 pair.2) sorted pairs) :
    ChecksAs maxDepth (.obj entries) (.obj pairs) where
  nests := by
    -- a value that nests within a level has one
    intro _ n h_n
    cases n with
    | zero => exact h_n.elim
    | succ n => omega
  checks := by
    -- the values are checked one level deeper
    intro currentDepth h_depth h_nests
    have h_level : maxDepth + 1 - currentDepth = (maxDepth - currentDepth) + 1 := by omega
    rw [h_level] at h_nests
    have h_all : ∀ e ∈ sorted, e.2.NestsWithin (maxDepth - currentDepth) :=
      fun e h_e => h_nests e (h_perm.mem_iff.mp h_e)
    -- every entry passes, and keeps its key
    have h_each : List.Forall₂ (fun (e : String × Json) (pair : List ℕ × RawValue) =>
        ∃ w : String × Json, (do
          let k ← checkText pair.1
          return (k, ← checkDepth maxDepth (currentDepth + pair.2.isContainer.toNat) pair.2)) =
            Except.ok w ∧ (w.1 = e.1 ∧ e.2.Same w.2)) sorted pairs := by
      clear h_perm
      induction h with
      | nil => exact .nil
      | @cons e pair sorted pairs h_head _ ih =>
        obtain ⟨h_v, h_rest⟩ := List.forall_mem_cons.mp h_all
        obtain ⟨h_key, h_value⟩ := h_head
        obtain ⟨w, h_check, h_same⟩ := h_value.item h_depth h_v
        refine .cons ⟨(e.1, w), ?_, rfl, h_same⟩ (ih h_rest)
        rw [h_key, checkText_toNat, h_check]
        rfl
    obtain ⟨ws, h_ws, h_same⟩ := mapM_of_forall₂ h_each
    -- so the checked object has the keys of the canonical text, which are sorted
    have h_fst : ws.map (·.1) = sorted.map (·.1) := by
      clear h_ws h_each h_all h_perm h
      induction h_same with
      | nil => rfl
      | cons h_head _ ih => rw [List.map_cons, List.map_cons, ih, h_head.1]
    refine ⟨.obj ws, ?_, ws, rfl, fun k => ?_, ?_⟩
    · unfold checkDepth
      rw [if_neg (by omega)]
      simp only [checkEntries_eq_mapM, h_ws]
      rfl
    · rw [h_fst]
      exact ((h_perm.map _).mem_iff).symm
    · rw [Json.sameEntries_iff]
      intro e h_e
      -- each value is found again under its key
      obtain ⟨w, h_w, h_key, h_value⟩ := exists_right_of_mem h_same (h_perm.mem_iff.mpr h_e)
      have h_nodup : (ws.map (·.1)).Nodup := by
        rw [h_fst]
        exact (h_perm.map _).nodup_iff.mpr h_keys
      refine ⟨w.2, ?_, h_value⟩
      rw [← h_key]
      exact lookup_of_mem h_nodup h_w

/-- Keys are compared as the code points of their text. -/
theorem points_of_pairs {α β : Type} {entries : List (String × α)} {pairs : List (List ℕ × β)}
    (h : List.Forall₂ (fun e pair => pair.1 = e.1.toList.map Char.toNat) entries pairs) :
    pairs.map (·.1) = entries.map fun e => e.1.toList.map Char.toNat := by
  induction h with
  | nil => rfl
  | cons h_pair _ ih => rw [List.map_cons, List.map_cons, ih, h_pair]

/-- The canonical text of an object. -/
theorem readsAs_obj {limits : ParserLimits} {maxDepth depth : ℕ} {entries : List (String × Json)}
    (h_keys : (entries.map (·.1)).Nodup) (h : ∀ e ∈ entries, ∃ t, Spells e.2.canonical.toList t ∧
      ReadsAs limits maxDepth depth e.2 t) : ∃ t, Spells (Json.obj entries).canonical.toList t ∧
      ReadsAs limits maxDepth (depth + 1) (.obj entries) t := by
  -- the text lists the entries by key, the value in its own order
  have h_perm : (Json.sortedEntries entries).Perm entries := List.mergeSort_perm ..
  -- each entry is spelled by its key's and its value's texts
  have h_each : ∀ e ∈ Json.sortedEntries entries, ∃ t : List StringPart × JsonTree,
      (stringText t.1 = (Json.quote e.1).toList ∧ codePoints t.1 = e.1.toList.map Char.toNat) ∧
        Spells e.2.canonical.toList t.2 ∧ ReadsAs limits maxDepth depth e.2 t.2 := by
    intro e h_e
    obtain ⟨key, h_text, h_points⟩ := exists_parts e.1
    obtain ⟨t, h_t⟩ := h e (h_perm.mem_iff.mp h_e)
    exact ⟨(key, t), ⟨h_text, h_points⟩, h_t⟩
  obtain ⟨ts, h_ts⟩ := exists_forall₂ h_each
  refine ⟨.object ts, ?_, ?_⟩
  · -- the spellings of the entries make up the text of the object
    have h_texts : List.Forall₂ (fun (e : String × String) (t : List StringPart × JsonTree) =>
        stringText t.1 = (Json.quote e.1).toList ∧ Spells e.2.toList t.2)
        ((Json.sortedEntries entries).map fun e => (e.1, e.2.canonical)) ts :=
      List.forall₂_map_left_iff.mpr (h_ts.imp fun _ _ h_t => ⟨h_t.1.1, h_t.2.1⟩)
    rw [Json.canonical_obj]
    simp only [String.toList_append]
    cases h_sorted : Json.sortedEntries entries with
    | nil =>
      rw [h_sorted] at h_texts
      cases h_texts
      exact .emptyObject blank_nil
    | cons e es =>
      rw [h_sorted] at h_texts
      have h_entries := spellsEntries_intercalate h_texts (List.cons_ne_nil _ _)
      rw [List.map_map] at h_entries
      exact .object h_entries
  · -- the first entry that is refused ends the object, otherwise all are decoded
    have h_decoded : List.Forall₂ (fun (e : String × Json) (t : List StringPart × JsonTree) =>
        (e.2.HasLongWhole limits ∧ (t.2.decode (structuredHooks limits) depth).map
          (fun v => (codePoints t.1, v)) = .error tooManyDigits) ∨
        (¬e.2.HasLongWhole limits ∧ ∃ pair, (t.2.decode (structuredHooks limits) depth).map
          (fun v => (codePoints t.1, v)) = .ok pair ∧
            (pair.1 = e.1.toList.map Char.toNat ∧ ChecksAs maxDepth e.2 pair.2)))
        (Json.sortedEntries entries) ts := by
      refine h_ts.imp fun e t h_t => ?_
      rcases h_t.2.2 with ⟨h_long, h_error⟩ | ⟨h_short, raw, h_ok, h_raw⟩
      · exact .inl ⟨h_long, by rw [h_error]; rfl⟩
      · exact .inr ⟨h_short, (codePoints t.1, raw), by rw [h_ok]; rfl, h_t.1.2, h_raw⟩
    rcases mapM_one_error h_decoded with
      ⟨⟨e, h_e, h_long⟩, h_decode⟩ | ⟨h_short, pairs, h_decode, h_pairs⟩
    · refine .inl ⟨Json.hasLongWhole_obj.mpr ⟨e, h_perm.mem_iff.mp h_e, h_long⟩, ?_⟩
      rw [JsonTree.decode, decodeEntries_eq_mapM, h_decode]
      rfl
    · -- no entry is long, so the object is read
      refine .inr ⟨fun h_l => ?_, .obj pairs, ?_, ?_⟩
      · obtain ⟨e, h_e, h_long⟩ := Json.hasLongWhole_obj.mp h_l
        exact h_short e (h_perm.mem_iff.mpr h_e) h_long
      · rw [JsonTree.decode, decodeEntries_eq_mapM, h_decode]
        show objectPairsHook pairs = _
        -- its keys are the code points of distinct keys, so the hook accepts them
        have h_points : pairs.map (·.1) =
            ((Json.sortedEntries entries).map (·.1)).map fun k => k.toList.map Char.toNat := by
          rw [List.map_map]
          exact points_of_pairs (h_pairs.imp fun _ _ h_pair => h_pair.1)
        have h_sorted : ((Json.sortedEntries entries).map (·.1)).Nodup :=
          (h_perm.map _).nodup_iff.mpr h_keys
        have h_injective : Function.Injective fun k : String => k.toList.map Char.toNat := by
          intro k k' h_eq
          have h_chars : Function.Injective Char.toNat := fun c d => Char.toNat_inj.mp
          exact String.toList_inj.mp (List.map_injective_iff.mpr h_chars h_eq)
        rw [objectPairsHook_eq, if_pos]
        rw [h_points]
        exact h_sorted.map h_injective
      · exact checksAs_obj h_keys h_perm h_pairs

/-- **Round trip.** The canonical text of an accepted value spells a document that is read as an
equal value, or is refused for a number of the value. -/
theorem exists_readsAs {limits : ParserLimits} {maxDepth : ℕ} (v : Json) :
    ∀ {depth : ℕ}, (∀ u, Json.Part u v → u.Sound limits) → v.NestsWithin depth →
      ∃ t, Spells v.canonical.toList t ∧ ReadsAs limits maxDepth depth v t := by
  induction v using Json.inductionOn with
  | null =>
    -- the words of JSON and the strings decode to themselves
    intro depth _ _
    have h_text : Json.null.canonical.toList = wordText .null := rfl
    refine ⟨.null, ?_, ?_⟩
    · rw [h_text]
      exact .word (by simp [words])
    · refine readsAs_of_scalar (w := .null) (by rw [JsonTree.decode]) rfl (by rintro d ⟨⟩)
        (fun currentDepth h_depth => ?_) (by rw [Json.Same])
      simp only [structuredHooks]
      unfold checkDepth
      rw [if_neg (by omega)]
  | bool b =>
    intro depth _ _
    have h_text : (Json.bool b).canonical.toList = wordText (.bool b) := by cases b <;> rfl
    refine ⟨.bool b, ?_, ?_⟩
    · rw [h_text]
      exact .word (by cases b <;> simp [words])
    · refine readsAs_of_scalar (w := .bool b) (by rw [JsonTree.decode]) rfl (by rintro d ⟨⟩)
        (fun currentDepth h_depth => ?_) (by rw [Json.Same])
      simp only [structuredHooks]
      unfold checkDepth
      rw [if_neg (by omega)]
  | int n =>
    -- numbers are the exception the statement is about
    intro depth h_sound _
    exact readsAs_int limits maxDepth depth (h_sound _ (.self _))
  | decimal d =>
    intro depth h_sound _
    exact readsAs_decimal limits maxDepth depth (h_sound _ (.self _))
  | str s =>
    intro depth _ _
    obtain ⟨parts, h_text, h_points⟩ := exists_parts s
    refine ⟨.string parts, ?_, ?_⟩
    · rw [Json.canonical, ← h_text]
      exact .string parts
    · refine readsAs_of_scalar (w := .str s) (by rw [JsonTree.decode]) rfl (by rintro d ⟨⟩)
        (fun currentDepth h_depth => ?_) (by rw [Json.Same])
      simp only [structuredHooks, h_points]
      unfold checkDepth
      rw [if_neg (by omega)]
      simp only [checkText_toNat]
      rfl
  | arr items ih =>
    -- a container spends one level on its contents
    intro depth h_sound h_nests
    cases depth with
    | zero => exact h_nests.elim
    | succ depth =>
      exact readsAs_arr fun v h_v =>
        ih v h_v (fun u h_u => h_sound u (.item h_v h_u)) (h_nests v h_v)
  | obj entries ih =>
    -- an object does so too, and asks for distinct keys
    intro depth h_sound h_nests
    cases depth with
    | zero => exact h_nests.elim
    | succ depth =>
      exact readsAs_obj (h_sound _ (.self _)) fun e h_e =>
        ih e h_e (fun u h_u => h_sound u (.value h_e h_u)) (h_nests e h_e)

/-- What parsing the canonical text of an accepted value gives. -/
theorem parse_canonical {limits : ParserLimits} {maxDepth : ℕ} {v : Json}
    (h : v.Accepted limits maxDepth) :
    (v.HasLongWhole limits ∧
      parseStructuredJson limits v.canonical maxDepth = .error (.structured "INVALID_JSON")) ∨
    (¬v.HasLongWhole limits ∧
      ∃ w, parseStructuredJson limits v.canonical maxDepth = .ok w ∧ v.Same w) := by
  obtain ⟨t, h_spells, h_reads⟩ := exists_readsAs v h.sound h.recursion
  have h_text : SpellsText v.canonical t :=
    ⟨[], v.canonical.toList, [], by simp, List.forall_mem_nil _, List.forall_mem_nil _, h_spells⟩
  have h_parse := parse_of_spellsText limits maxDepth h_text
  unfold treeValue at h_parse
  rcases h_reads with ⟨h_long, h_decode⟩ | ⟨h_short, raw, h_decode, h_raw⟩
  · rw [h_decode] at h_parse
    exact .inl ⟨h_long, h_parse⟩
  · rw [h_decode] at h_parse
    obtain ⟨w, h_check, h_same⟩ := h_raw.checks 1 h.maxDepth_pos h.depth
    exact .inr ⟨h_short, w, h_parse.trans h_check, h_same⟩

/-- Without a limit on digits nothing is refused. -/
theorem accepted_unlimited {limits : ParserLimits} {maxDepth : ℕ} {v : Json}
    (h : v.Accepted limits maxDepth) : v.Accepted ⟨0, limits.recursion⟩ maxDepth where
  sound := by
    intro u h_u
    have h_sound := h.sound u h_u
    cases u with
    | int n => exact .inl rfl
    | _ => exact h_sound
  recursion := h.recursion
  depth := h.depth
  maxDepth_pos := h.maxDepth_pos

/-- Equal canonical texts are those of equal values. -/
theorem same_of_canonical {limits : ParserLimits} {maxDepth : ℕ} {v w : Json}
    (h_v : v.Accepted limits maxDepth) (h_w : w.Accepted limits maxDepth)
    (h : v.canonical = w.canonical) : v.Same w := by
  -- both are what a parser reads that takes any number of digits
  have h_short : ∀ u : Json, ¬u.HasLongWhole ⟨0, limits.recursion⟩ := by
    rintro u ⟨d, -, -, h_digits⟩
    exact h_digits (.inl rfl)
  rcases parse_canonical (accepted_unlimited h_v) with ⟨h_long, -⟩ | ⟨-, x, h_x, h_vx⟩
  · exact absurd h_long (h_short v)
  rcases parse_canonical (accepted_unlimited h_w) with ⟨h_long, -⟩ | ⟨-, y, h_y, h_wy⟩
  · exact absurd h_long (h_short w)
  rw [h, h_y] at h_x
  cases h_x
  exact Json.same_of_same v h_vx h_wy

/-! ### White space and the order of keys -/

/-- The second value is checked wherever the first is, to a value of the same canonical text. -/
structure ChecksAlike (maxDepth : ℕ) (raw raw' : RawValue) : Prop where
  container : raw'.isContainer = raw.isContainer
  checks : ∀ {currentDepth v}, checkDepth maxDepth currentDepth raw = .ok v →
    ∃ v', checkDepth maxDepth currentDepth raw' = .ok v' ∧ v'.canonical = v.canonical

/-- An array passes the depth check when it stands within the limit and its items pass one
level deeper. -/
theorem checkDepth_arr {maxDepth currentDepth : ℕ} {items : List RawValue} {v : Json} :
    checkDepth maxDepth currentDepth (.arr items) = .ok v ↔ currentDepth ≤ maxDepth ∧
      ∃ vs, checkItems maxDepth currentDepth items = .ok vs ∧ v = .arr vs := by
  unfold checkDepth
  constructor
  · intro h
    split at h
    · cases h
    · obtain ⟨vs, h_vs, h_ok⟩ := ok_of_bind h
      cases h_ok
      exact ⟨by omega, vs, h_vs, rfl⟩
  · rintro ⟨h_depth, vs, h_vs, rfl⟩
    rw [if_neg (by omega)]
    simp only [h_vs]
    rfl

/-- An object passes the depth check when it stands within the limit and its values pass one
level deeper. -/
theorem checkDepth_obj {maxDepth currentDepth : ℕ} {entries : List (List ℕ × RawValue)} {v : Json} :
    checkDepth maxDepth currentDepth (.obj entries) = .ok v ↔ currentDepth ≤ maxDepth ∧
      ∃ vs, checkEntries maxDepth currentDepth entries = .ok vs ∧ v = .obj vs := by
  unfold checkDepth
  constructor
  · intro h
    split at h
    · cases h
    · obtain ⟨vs, h_vs, h_ok⟩ := ok_of_bind h
      cases h_ok
      exact ⟨by omega, vs, h_vs, rfl⟩
  · rintro ⟨h_depth, vs, h_vs, rfl⟩
    rw [if_neg (by omega)]
    simp only [h_vs]
    rfl

theorem canonical_arr (items : List Json) :
    (Json.arr items).canonical = "[" ++ ",".intercalate (items.map Json.canonical) ++ "]" := by
  rw [Json.canonical, Json.canonicalItems_eq_map]

/-- An item of an array may be exchanged for one that is checked alike. -/
theorem checksAlike_item {maxDepth : ℕ} {before after : List RawValue} {raw raw' : RawValue}
    (h : ChecksAlike maxDepth raw raw') :
    ChecksAlike maxDepth (.arr (before ++ raw :: after)) (.arr (before ++ raw' :: after)) where
  container := rfl
  checks := by
    intro currentDepth v h_check
    obtain ⟨h_depth, vs, h_vs, rfl⟩ := checkDepth_arr.mp h_check
    rw [checkItems_eq_mapM, mapM_append_cons_eq_ok_iff] at h_vs
    obtain ⟨vs₁, v, vs₂, rfl, h_before, h_item, h_after⟩ := h_vs
    rw [← h.container] at h_item
    obtain ⟨v', h_item', h_canonical⟩ := h.checks h_item
    refine ⟨.arr (vs₁ ++ v' :: vs₂), checkDepth_arr.mpr ⟨h_depth, _, ?_, rfl⟩, ?_⟩
    · rw [checkItems_eq_mapM, mapM_append_cons_eq_ok_iff]
      exact ⟨vs₁, v', vs₂, rfl, h_before, h_item', h_after⟩
    · rw [canonical_arr, canonical_arr, List.map_append, List.map_append, List.map_cons,
        List.map_cons, h_canonical]

/-- The value of an entry may be exchanged for one that is checked alike. -/
theorem checksAlike_entry {maxDepth : ℕ} {before after : List (List ℕ × RawValue)} {key : List ℕ}
    {raw raw' : RawValue} (h : ChecksAlike maxDepth raw raw') :
    ChecksAlike maxDepth (.obj (before ++ (key, raw) :: after))
      (.obj (before ++ (key, raw') :: after)) where
  container := rfl
  checks := by
    intro currentDepth v h_check
    obtain ⟨h_depth, vs, h_vs, rfl⟩ := checkDepth_obj.mp h_check
    rw [checkEntries_eq_mapM, mapM_append_cons_eq_ok_iff] at h_vs
    obtain ⟨vs₁, e, vs₂, rfl, h_before, h_entry, h_after⟩ := h_vs
    obtain ⟨k, h_k, h_value⟩ := ok_of_bind h_entry
    obtain ⟨v, h_item, h_ok⟩ := ok_of_bind h_value
    cases h_ok
    rw [← h.container] at h_item
    obtain ⟨v', h_item', h_canonical⟩ := h.checks h_item
    refine ⟨.obj (vs₁ ++ (k, v') :: vs₂), checkDepth_obj.mpr ⟨h_depth, _, ?_, rfl⟩, ?_⟩
    · rw [checkEntries_eq_mapM, mapM_append_cons_eq_ok_iff]
      refine ⟨vs₁, (k, v'), vs₂, rfl, h_before, ?_, h_after⟩
      simp only [h_k, h_item']
      rfl
    · rw [Json.canonical, Json.canonical, Json.canonicalEntries_eq_map,
        Json.canonicalEntries_eq_map]
      simp only [List.map_append, List.map_cons, h_canonical]

/-- The entries of an object with distinct keys may be permuted. -/
theorem checksAlike_perm {maxDepth : ℕ} {entries entries' : List (List ℕ × RawValue)}
    (h_keys : (entries.map (·.1)).Nodup) (h : entries.Perm entries') :
    ChecksAlike maxDepth (.obj entries) (.obj entries') where
  container := rfl
  checks := by
    intro currentDepth v h_check
    obtain ⟨h_depth, vs, h_vs, rfl⟩ := checkDepth_obj.mp h_check
    have h_nodup := nodup_of_checkEntries h_keys h_vs
    rw [checkEntries_eq_mapM] at h_vs
    obtain ⟨vs', h_vs', h_perm⟩ := mapM_perm h h_vs
    refine ⟨.obj vs', checkDepth_obj.mpr ⟨h_depth, vs', ?_, rfl⟩, ?_⟩
    · rw [checkEntries_eq_mapM]
      exact h_vs'
    · rw [Json.canonical_obj, Json.canonical_obj, Json.sortedEntries_perm h_nodup h_perm]

/-- A reordered document is decoded where the document is, and checked alike. -/
theorem decode_of_reorders {limits : ParserLimits} {maxDepth : ℕ} {t t' : JsonTree}
    (h : Reorders t t') : ∀ {depth : ℕ} {raw : RawValue},
      t.decode (structuredHooks limits) depth = .ok raw →
      ∃ raw', t'.decode (structuredHooks limits) depth = .ok raw' ∧
        ChecksAlike maxDepth raw raw' := by
  induction h with
  | refl t =>
    -- the same tree decodes to the same value
    intro depth raw h_decode
    exact ⟨raw, h_decode, rfl, fun h_check => ⟨_, h_check, rfl⟩⟩
  | trans _ _ ih₁ ih₂ =>
    -- what follows from two orders follows from both
    intro depth raw h_decode
    obtain ⟨raw₁, h_decode₁, h₁⟩ := ih₁ h_decode
    obtain ⟨raw₂, h_decode₂, h₂⟩ := ih₂ h_decode₁
    refine ⟨raw₂, h_decode₂, h₂.container.trans h₁.container, fun h_check => ?_⟩
    obtain ⟨v₁, h_check₁, h_canonical₁⟩ := h₁.checks h_check
    obtain ⟨v₂, h_check₂, h_canonical₂⟩ := h₂.checks h_check₁
    exact ⟨v₂, h_check₂, h_canonical₂.trans h_canonical₁⟩
  | item before after _ ih =>
    -- the items beside the reordered one are decoded as before
    intro depth raw h_decode
    cases depth with
    | zero => simp [JsonTree.decode] at h_decode
    | succ depth =>
      rw [JsonTree.decode, decodeItems_eq_mapM] at h_decode
      obtain ⟨raws, h_raws, h_ok⟩ := ok_of_bind h_decode
      cases h_ok
      obtain ⟨raws₁, r, raws₂, rfl, h_before, h_item, h_after⟩ :=
        mapM_append_cons_eq_ok_iff.mp h_raws
      obtain ⟨r', h_item', h_alike⟩ := ih h_item
      refine ⟨.arr (raws₁ ++ r' :: raws₂), ?_, checksAlike_item h_alike⟩
      rw [JsonTree.decode, decodeItems_eq_mapM,
        mapM_append_cons_eq_ok_iff.mpr ⟨raws₁, r', raws₂, rfl, h_before, h_item', h_after⟩]
      rfl
  | @entry before after key t t' _ ih =>
    -- the entries beside the reordered one are decoded as before
    intro depth raw h_decode
    cases depth with
    | zero => simp [JsonTree.decode] at h_decode
    | succ depth =>
      rw [JsonTree.decode, decodeEntries_eq_mapM] at h_decode
      obtain ⟨pairs, h_pairs, h_hook⟩ := ok_of_bind h_decode
      have h_object : objectPairsHook pairs = .ok raw := h_hook
      rw [objectPairsHook_eq] at h_object
      split at h_object
      · rename_i h_keys
        cases h_object
        obtain ⟨pairs₁, pair, pairs₂, rfl, h_before, h_entry, h_after⟩ :=
          mapM_append_cons_eq_ok_iff.mp h_pairs
        obtain ⟨r, h_item, rfl⟩ := map_eq_ok_iff.mp h_entry
        obtain ⟨r', h_item', h_alike⟩ := ih h_item
        refine ⟨.obj (pairs₁ ++ (codePoints key, r') :: pairs₂), ?_, checksAlike_entry h_alike⟩
        have h_entry' :
            (t'.decode (structuredHooks limits) depth).map (fun v => (codePoints key, v)) =
            .ok (codePoints key, r') := map_eq_ok_iff.mpr ⟨r', h_item', rfl⟩
        rw [JsonTree.decode, decodeEntries_eq_mapM,
          mapM_append_cons_eq_ok_iff.mpr ⟨pairs₁, _, pairs₂, rfl, h_before, h_entry', h_after⟩]
        show objectPairsHook (pairs₁ ++ (codePoints key, r') :: pairs₂) = _
        rw [objectPairsHook_eq, if_pos]
        simpa using h_keys
      · cases h_object
  | entries h_perm =>
    -- permuted entries decode to permuted pairs, which have the same keys
    intro depth raw h_decode
    cases depth with
    | zero => simp [JsonTree.decode] at h_decode
    | succ depth =>
      rw [JsonTree.decode, decodeEntries_eq_mapM] at h_decode
      obtain ⟨pairs, h_pairs, h_hook⟩ := ok_of_bind h_decode
      have h_object : objectPairsHook pairs = .ok raw := h_hook
      rw [objectPairsHook_eq] at h_object
      split at h_object
      · rename_i h_keys
        cases h_object
        obtain ⟨pairs', h_pairs', h_perm'⟩ := mapM_perm h_perm h_pairs
        refine ⟨.obj pairs', ?_, checksAlike_perm h_keys h_perm'⟩
        rw [JsonTree.decode, decodeEntries_eq_mapM, h_pairs']
        show objectPairsHook pairs' = _
        rw [objectPairsHook_eq, if_pos ((h_perm'.map _).nodup_iff.mp h_keys)]
      · cases h_object

/-- Texts that differ in white space and in the order of keys only are accepted together, and have
one canonical text. -/
theorem canonical_of_reorders {limits : ParserLimits} {maxDepth : ℕ} {text text' : String}
    {t t' : JsonTree} {v : Json} (h : SpellsText text t) (h' : SpellsText text' t')
    (h_reorders : Reorders t t') (h_parse : parseStructuredJson limits text maxDepth = .ok v) :
    ∃ v', parseStructuredJson limits text' maxDepth = .ok v' ∧ v'.canonical = v.canonical := by
  rw [parse_of_spellsText limits maxDepth h] at h_parse
  rw [parse_of_spellsText limits maxDepth h']
  unfold treeValue at h_parse ⊢
  split at h_parse
  · cases h_parse
  · rename_i parsed h_decode
    obtain ⟨raw', h_decode', h_alike⟩ := decode_of_reorders h_reorders h_decode
    simp only [h_decode']
    exact h_alike.checks h_parse

/-! ### Two numbers -/

/-- The digit of a number below ten. -/
def decimalDigit (i : Fin 10) : Digit := ⟨Nat.digitChar i, by revert i; decide⟩

/-- Digits of other numbers than zero start an integral part. -/
theorem decimalDigit_succ_ne (i : Fin 9) : (decimalDigit i.succ).val ≠ '0' := by
  revert i
  decide

/-- The literal `2.50`. -/
def priceLiteral : NumberLiteral :=
  ⟨false, .nonzero ⟨decimalDigit (Fin.succ 1), []⟩ (decimalDigit_succ_ne 1),
    some ⟨decimalDigit 5, [decimalDigit 0]⟩, none⟩

/-- The parser takes the literal for a decimal with its trailing zero. -/
theorem parse_price :
    parseStructuredJson ⟨4300, 1000⟩ " 2.50" 32 = .ok (.decimal ⟨false, 250, -2⟩) := by
  have h_text : SpellsText " 2.50" (.number priceLiteral) :=
    ⟨[' '], priceLiteral.text, [], rfl, List.forall_mem_singleton.mpr rfl, List.forall_mem_nil _,
      .number _⟩
  rw [parse_of_spellsText _ _ h_text]
  rfl

/-- The literal `11…1e0` with `n + 1` ones. -/
def onesLiteral (n : ℕ) : NumberLiteral :=
  ⟨false, .nonzero ⟨decimalDigit (Fin.succ 0), List.replicate n (decimalDigit 1)⟩
      (decimalDigit_succ_ne 0), none, some ⟨false, none, ⟨decimalDigit 0, []⟩⟩⟩

/-- The decoder takes it for a decimal with exponent 0 and all those digits. -/
theorem decode_ones (limits : ParserLimits) {n : ℕ} (h : n < maxPrec) : ∃ d : DecimalNumber,
    (∀ depth, (JsonTree.number (onesLiteral n)).decode (structuredHooks limits) depth =
      .ok (.decimal d)) ∧ d.exponent = 0 ∧ n < d.digitCount := by
  have h_coefficient : (onesLiteral n).coefficient = digitsValue (onesLiteral n).integral.digits :=
    congrArg digitsValue (List.append_nil _)
  have h_scale : (onesLiteral n).scale = 0 := rfl
  have h_length : (onesLiteral n).integral.digits.length = n + 1 := by
    simp [onesLiteral, IntegralPart.digits, Digits.toList]
  refine ⟨⟨false, (onesLiteral n).coefficient, (onesLiteral n).scale⟩, ?_, h_scale, ?_⟩
  · have h_fits : DecimalNumber.Fits ⟨false, (onesLiteral n).coefficient,
      (onesLiteral n).scale⟩ := by
      have h_count := length_toDigits_le (onesLiteral n).integral
      rw [← h_coefficient, h_length] at h_count
      unfold DecimalNumber.Fits DecimalNumber.digitCount
      rw [h_scale]
      simp only [maxPrec, maxEmax, minEtiny] at h ⊢
      omega
    intro depth
    rw [JsonTree.decode]
    exact if_pos h_fits
  · -- the number is at least a power of ten with as many digits
    have h_value : 10 ^ n ≤ (onesLiteral n).coefficient := by
      rw [h_coefficient]
      show 10 ^ n ≤ digitsValue (decimalDigit 1 :: List.replicate n (decimalDigit 1))
      rw [digitsValue_cons, List.length_replicate]
      have h_one : (decimalDigit 1).val.toNat - '0'.toNat = 1 := rfl
      rw [h_one, mul_one]
      exact Nat.le_add_right _ _
    show n < (Nat.toDigits 10 (onesLiteral n).coefficient).length
    by_contra h_count
    cases n with
    | zero => exact h_count Nat.length_toDigits_pos
    | succ n =>
      have h_lt := (Nat.length_toDigits_le_iff (by decide) (Nat.succ_pos n)).mp (not_lt.mp h_count)
      exact absurd h_lt (not_lt.mpr h_value)

/-- The parser takes it for that decimal. -/
theorem parse_ones (limits : ParserLimits) {n : ℕ} (h : n < maxPrec) : ∃ d : DecimalNumber,
    parseStructuredJson limits (String.ofList (onesLiteral n).text) 32 = .ok (.decimal d) ∧
      d.exponent = 0 ∧ n < d.digitCount := by
  obtain ⟨d, h_decode, h_exponent, h_digits⟩ := decode_ones limits h
  have h_text : SpellsText (String.ofList (onesLiteral n).text) (.number (onesLiteral n)) :=
    ⟨[], (onesLiteral n).text, [], by simp, List.forall_mem_nil _, List.forall_mem_nil _, .number _⟩
  refine ⟨d, ?_, h_exponent, h_digits⟩
  rw [parse_of_spellsText _ _ h_text, treeValue, h_decode]
  rfl

/-! ### The law -/

/-- **Canonical text.** The canonical text of a value that the parser returns is parsed to an equal
value if and only if the value has no decimal with exponent 0 and more digits than `int` takes.
Other values have other canonical texts, and texts that differ in white space and in the order of
keys only have one. -/
theorem canonicalRoundTrip_iff {limits : ParserLimits} {maxDepth : ℕ} {text : String} {v : Json}
    (h : parseStructuredJson limits text maxDepth = .ok v) :
    ((∃ w, parseStructuredJson limits v.canonical maxDepth = .ok w ∧ v.Same w) ↔
      ¬v.HasLongWhole limits) ∧
    (∀ text' w, parseStructuredJson limits text' maxDepth = .ok w →
      v.canonical = w.canonical → v.Same w) ∧
    (∃ t, SpellsText text t) ∧
    ∀ t text' t', SpellsText text t → SpellsText text' t' → Reorders t t' →
      ∃ w, parseStructuredJson limits text' maxDepth = .ok w ∧ w.canonical = v.canonical := by
  have h_accepted := accepted_of_parse h
  refine ⟨?_, fun text' w h_w => same_of_canonical h_accepted (accepted_of_parse h_w),
    spellsText_of_parse h, fun t text' t' h_text h_text' h_reorders =>
      canonical_of_reorders h_text h_text' h_reorders h⟩
  rcases parse_canonical h_accepted with ⟨h_long, h_error⟩ | ⟨h_short, h_ok⟩
  · rw [h_error]
    constructor
    · rintro ⟨w, ⟨⟩, -⟩
    · exact fun h_short => absurd h_long h_short
  · exact ⟨fun _ => h_short, fun _ => h_ok⟩

/-- The number 2.50 is parsed again from its canonical text. -/
theorem canonicalRoundTrip_iff_price : ∃ w, parseStructuredJson ⟨4300, 1000⟩
    (Json.decimal ⟨false, 250, -2⟩).canonical 32 = .ok w ∧
      (Json.decimal ⟨false, 250, -2⟩).Same w := by
  refine (canonicalRoundTrip_iff parse_price).1.mpr ?_
  rintro ⟨d, h_part, h_exponent, -⟩
  cases h_part
  cases h_exponent

/-- With its limit of 4300 digits the parser refuses the canonical text of a number it takes. -/
theorem canonical_not_parsed : ∃ v,
    parseStructuredJson ⟨4300, 1000⟩ (String.ofList (onesLiteral 4300).text) 32 = .ok v ∧
      ¬∃ w, parseStructuredJson ⟨4300, 1000⟩ v.canonical 32 = .ok w ∧ v.Same w := by
  obtain ⟨d, h_parse, h_exponent, h_digits⟩ :=
    parse_ones ⟨4300, 1000⟩ (show 4300 < maxPrec by simp [maxPrec])
  refine ⟨_, h_parse, ?_⟩
  rintro ⟨w, h_w, -⟩
  have h_long : (Json.decimal d).HasLongWhole ⟨4300, 1000⟩ := by
    refine ⟨d, .self _, h_exponent, ?_⟩
    rintro (h_none | h_le)
    · cases h_none
    · exact absurd h_le (not_le.mpr h_digits)
  rcases parse_canonical (accepted_of_parse h_parse) with ⟨-, h_error⟩ | ⟨h_short, -⟩
  · rw [h_error] at h_w
    cases h_w
  · exact h_short h_long

end DqScoring
