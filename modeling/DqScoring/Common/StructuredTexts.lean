import DqScoring.Common.StructuredParser
import Mathlib.Data.List.Nodup

/-!
# What the parser of structured values accepts

`SpellsText` relates a text to the document that it spells, with white space around it. The
parser gives the value of that document (`parse_of_spellsText`), and every text that it accepts
spells one (`spellsText_of_parse`). What it returns is `Accepted`: the keys of an object are
distinct, every number is one that `int` or `Decimal` takes, and containers nest no deeper than
the decoder and `_check_depth` allow.
-/

namespace DqScoring

open Framework

/-! ### Texts of documents -/

/-- Nothing but white space. -/
def AllSpace (cs : List Char) : Prop := ∀ c ∈ cs, isPySpace c = true

/-- The text spells the document, with white space around it. -/
def SpellsText (text : String) (t : JsonTree) : Prop :=
  ∃ lead doc trail, text.toList = lead ++ (doc ++ trail) ∧ AllSpace lead ∧ AllSpace trail ∧
    Spells doc t

/-- What the parser returns for a document. -/
def treeValue (limits : ParserLimits) (maxDepth : ℕ) (t : JsonTree) : Except JsonFailure Json :=
  match t.decode (structuredHooks limits) limits.recursion with
  | .error failure => .error failure.caught
  | .ok parsed => checkDepth maxDepth 1 parsed

/-- Leading white space is dropped first. -/
theorem dropWhile_allSpace {lead : List Char} (h : AllSpace lead) (cs : List Char) :
    (lead ++ cs).dropWhile isPySpace = cs.dropWhile isPySpace := by
  induction lead with
  | nil => rfl
  | cons c lead ih =>
    have h_c : isPySpace c = true := h c List.mem_cons_self
    rw [List.cons_append, List.dropWhile_cons_of_pos h_c]
    exact ih fun d h_d => h d (List.mem_cons_of_mem c h_d)

/-- Stripping empties white space only. -/
theorem pyStrip_eq_empty_iff {cs : List Char} : pyStrip (String.ofList cs) = "" ↔ AllSpace cs := by
  unfold pyStrip AllSpace
  rw [String.toList_ofList, ← String.toList_inj, String.toList_ofList]
  constructor
  · intro h c h_c
    by_contra h_space
    -- what is left starts with a character that is no space, and keeps it at its end
    have h_left : cs.dropWhile isPySpace ≠ [] := by
      intro h_nil
      exact h_space (List.dropWhile_eq_nil_iff.mp h_nil c h_c)
    have h_right : (cs.dropWhile isPySpace).reverse.dropWhile isPySpace = [] :=
      List.reverse_eq_nil_iff.mp h
    have h_all := List.dropWhile_eq_nil_iff.mp h_right
    have h_head := List.head_dropWhile_not isPySpace h_left
    rw [h_all _ (List.mem_reverse.mpr (List.head_mem h_left))] at h_head
    cases h_head
  · intro h
    rw [List.dropWhile_eq_nil_iff.mpr h]
    rfl

/-- A stripped text is a part of the text. -/
theorem pyStrip_isInfix (s : String) : (pyStrip s).toList <:+: s.toList := by
  rw [pyStrip, String.toList_ofList]
  have h_front : ((s.toList.dropWhile isPySpace).reverse.dropWhile isPySpace).reverse <+:
      s.toList.dropWhile isPySpace := List.rdropWhile_prefix isPySpace _
  exact h_front.isInfix.trans (List.dropWhile_suffix isPySpace).isInfix

/-- No value starts with white space. -/
theorem isPySpace_of_startsValue {c : Char} (h : StartsValue c) : isPySpace c = false := by
  obtain ⟨h_low, h_high, -⟩ := h
  simp only [isPySpace, Bool.or_eq_false_iff, decide_eq_false_iff_not, beq_eq_false_iff_ne]
  omega

/-- White space does not go on with a number. -/
theorem delimited_of_allSpace {trail : List Char} (h : AllSpace trail) : Delimited trail := by
  cases trail with
  | nil => exact delimited_nil
  | cons c trail =>
    have h_c : isPySpace c = true := h c List.mem_cons_self
    refine delimited_cons ⟨?_, ?_, ?_, ?_⟩
    · by_contra h_digit
      rw [isPySpace_of_startsValue (startsValue_of_isDigit (Bool.not_eq_false _ ▸ h_digit))] at h_c
      cases h_c
    · rintro rfl
      revert h_c
      decide
    · rintro rfl
      revert h_c
      decide
    · rintro rfl
      revert h_c
      decide

/-- The parser gives the value of the document that a text spells. -/
theorem parse_of_spellsText (limits : ParserLimits) (maxDepth : ℕ) {text : String} {t : JsonTree}
    (h : SpellsText text t) :
    parseStructuredJson limits text maxDepth = treeValue limits maxDepth t := by
  obtain ⟨lead, doc, trail, h_text, h_lead, h_trail, h_spells⟩ := h
  obtain ⟨c, cs, rfl, h_c⟩ := starts_of_spells h_spells
  have h_stripped : text.toList.dropWhile isPySpace = (c :: cs) ++ trail := by
    rw [h_text, dropWhile_allSpace h_lead]
    exact List.dropWhile_cons_of_neg (by simp [isPySpace_of_startsValue h_c])
  have h_scan := scanValue_of_spells (structuredHooks limits) h_spells
    (2 * ((c :: cs) ++ trail).length + 1) limits.recursion trail (by simp; omega)
    (delimited_of_allSpace h_trail)
  have h_rest : pyStrip (String.ofList trail) = "" := pyStrip_eq_empty_iff.mpr h_trail
  unfold parseStructuredJson treeValue
  simp only [h_stripped, h_scan]
  cases t.decode (structuredHooks limits) limits.recursion with
  | error failure => rfl
  | ok parsed => simp [Except.map, h_rest]

/-- Every text that is accepted spells a document. -/
theorem spellsText_of_parse {limits : ParserLimits} {maxDepth : ℕ} {text : String} {v : Json}
    (h : parseStructuredJson limits text maxDepth = .ok v) : ∃ t, SpellsText text t := by
  unfold parseStructuredJson at h
  simp only at h
  split at h
  · cases h
  · rename_i parsed rest h_scan
    split at h
    · cases h
    · rename_i h_strip
      obtain ⟨doc, t, h_doc, h_spells, -⟩ := spells_of_scanValue _ h_scan
      refine ⟨t, text.toList.takeWhile isPySpace, doc, rest, ?_, ?_, ?_, h_spells⟩
      · rw [← h_doc]
        exact (List.takeWhile_append_dropWhile ..).symm
      · intro c h_c
        exact List.mem_takeWhile_imp h_c
      · exact pyStrip_eq_empty_iff.mp (not_not.mp h_strip)

/-! ### Accepted values -/

namespace Json

/-- A value within a value. -/
inductive Part : Json → Json → Prop
  | self (v) : Part v v
  | item {u v items} : v ∈ items → Part u v → Part u (.arr items)
  | value {u e} {entries : List (String × Json)} : e ∈ entries → Part u e.2 →
      Part u (.obj entries)

/-- Containers nest so deep at most. -/
def NestsWithin : ℕ → Json → Prop
  | 0, arr _ => False
  | 0, obj _ => False
  | n + 1, arr items => ∀ v ∈ items, v.NestsWithin n
  | n + 1, obj entries => ∀ e ∈ entries, e.2.NestsWithin n
  | _, _ => True

/-- Induction over a value: a container is known by what it contains. -/
theorem inductionOn {P : Json → Prop} (v : Json) (null : P .null) (bool : ∀ b, P (.bool b))
    (int : ∀ n, P (.int n)) (decimal : ∀ d, P (.decimal d)) (str : ∀ s, P (.str s))
    (arr : ∀ items, (∀ v ∈ items, P v) → P (.arr items))
    (obj : ∀ entries : List (String × Json), (∀ e ∈ entries, P e.2) → P (.obj entries)) : P v :=
  @Json.rec P (fun items => ∀ v ∈ items, P v) (fun entries => ∀ e ∈ entries, P e.2)
    (fun e => P e.2) null bool int decimal str arr obj
    (List.forall_mem_nil _) (fun _ _ h_v h_items => List.forall_mem_cons.mpr ⟨h_v, h_items⟩)
    (List.forall_mem_nil _) (fun _ _ h_e h_entries => List.forall_mem_cons.mpr ⟨h_e, h_entries⟩)
    (fun _ _ h_v => h_v) v

/-- The value by itself is one that the parser returns: its keys are distinct, its number one that
`int` or `Decimal` takes. -/
def Sound (limits : ParserLimits) : Json → Prop
  | int n => limits.AllowDigits (Nat.toDigits 10 n.natAbs).length
  | decimal d => d.Fits
  | obj entries => (entries.map (·.1)).Nodup
  | _ => True

/-- What the parser returns. -/
structure Accepted (limits : ParserLimits) (maxDepth : ℕ) (v : Json) : Prop where
  sound : ∀ u, Part u v → u.Sound limits
  recursion : v.NestsWithin limits.recursion
  depth : v.NestsWithin maxDepth
  maxDepth_pos : 0 < maxDepth

/-- The parts of an array are its items' and itself. -/
theorem sound_arr {limits : ParserLimits} {items : List Json}
    (h : ∀ v ∈ items, ∀ u, Part u v → u.Sound limits) :
    ∀ u, Part u (.arr items) → u.Sound limits := by
  intro u h_u
  cases h_u with
  | self => trivial
  | item h_mem h_part => exact h _ h_mem u h_part

/-- The parts of an object are its values' and itself. -/
theorem sound_obj {limits : ParserLimits} {entries : List (String × Json)}
    (h_keys : (entries.map (·.1)).Nodup) (h : ∀ e ∈ entries, ∀ u, Part u e.2 → u.Sound limits) :
    ∀ u, Part u (.obj entries) → u.Sound limits := by
  intro u h_u
  cases h_u with
  | self => exact h_keys
  | value h_mem h_part => exact h _ h_mem u h_part

end Json

/-- A text that has been checked has its code points. -/
theorem toNat_of_checkText {points : List ℕ} {s : String} (h : checkText points = .ok s) :
    s.toList.map Char.toNat = points := by
  unfold checkText at h
  split at h
  · rename_i h_valid
    cases h
    rw [String.toList_ofList, List.map_map]
    conv_rhs => rw [← List.map_id points]
    refine List.map_congr_left fun n h_n => ?_
    have h_n' := h_valid n h_n
    show (Char.ofNat n).toNat = n
    rw [Char.ofNat, dif_pos h_n']
    rfl
  · cases h

/-- Items are checked one by one. -/
theorem checkItems_eq_mapM (maxDepth currentDepth : ℕ) (items : List RawValue) :
    checkItems maxDepth currentDepth items = items.mapM fun value =>
      checkDepth maxDepth (currentDepth + value.isContainer.toNat) value := by
  induction items with
  | nil => rfl
  | cons value items ih => rw [checkItems, List.mapM_cons, ih]

/-- Keys and values are checked entry by entry. -/
theorem checkEntries_eq_mapM (maxDepth currentDepth : ℕ) (entries : List (List ℕ × RawValue)) :
    checkEntries maxDepth currentDepth entries = entries.mapM fun e => do
      let k ← checkText e.1
      return (k, ← checkDepth maxDepth (currentDepth + e.2.isContainer.toNat) e.2) := by
  induction entries with
  | nil => rfl
  | cons e entries ih =>
    rw [checkEntries, List.mapM_cons, ih]
    cases checkText e.1 with
    | error f => rfl
    | ok k => cases checkDepth maxDepth (currentDepth + e.2.isContainer.toNat) e.2 <;> rfl

/-- Checking leaves the keys as they are. -/
theorem keys_of_checkEntries {maxDepth currentDepth : ℕ} {entries : List (List ℕ × RawValue)}
    {vs : List (String × Json)} (h : checkEntries maxDepth currentDepth entries = .ok vs) :
    vs.map (fun e => e.1.toList.map Char.toNat) = entries.map (·.1) := by
  rw [checkEntries_eq_mapM, mapM_eq_ok_iff] at h
  induction h with
  | nil => rfl
  | cons h_entry _ ih =>
    obtain ⟨k, h_k, h_value⟩ := ok_of_bind h_entry
    obtain ⟨w, -, h_ok⟩ := ok_of_bind h_value
    cases h_ok
    rw [List.map_cons, List.map_cons, ih, toNat_of_checkText h_k]

/-- Distinct code points make distinct keys. -/
theorem nodup_of_checkEntries {maxDepth currentDepth : ℕ} {entries : List (List ℕ × RawValue)}
    {vs : List (String × Json)} (h_keys : (entries.map (·.1)).Nodup)
    (h : checkEntries maxDepth currentDepth entries = .ok vs) : (vs.map (·.1)).Nodup := by
  have h_comp : vs.map (fun e => e.1.toList.map Char.toNat) =
      (vs.map (·.1)).map fun k => k.toList.map Char.toNat := by
    rw [List.map_map]
    rfl
  rw [← keys_of_checkEntries h, h_comp] at h_keys
  exact h_keys.of_map

/-- The hook takes an object whose keys are distinct, and no other. -/
theorem objectPairsHook_eq (pairs : List (List ℕ × RawValue)) : objectPairsHook pairs =
    if (pairs.map (·.1)).Nodup then .ok (.obj pairs) else .error (.structured "DUPLICATE_KEY") := by
  -- the loop keeps the pairs so far, whose keys are distinct
  have h_fold : ∀ (pairs obj : List (List ℕ × RawValue)), (obj.map (·.1)).Nodup →
      pairs.foldlM (fun (obj : List (List ℕ × RawValue)) (pair : List ℕ × RawValue) =>
        if pair.1 ∈ obj.map (·.1) then Except.error (JsonFailure.structured "DUPLICATE_KEY")
        else .ok (obj ++ [pair])) obj =
      if ((obj ++ pairs).map (·.1)).Nodup then .ok (obj ++ pairs)
      else .error (.structured "DUPLICATE_KEY") := by
    intro pairs
    induction pairs with
    | nil =>
      intro obj h_obj
      rw [List.append_nil, if_pos h_obj]
      rfl
    | cons pair pairs ih =>
      intro obj h_obj
      rw [List.foldlM_cons]
      by_cases h_mem : pair.1 ∈ obj.map (·.1)
      · -- the pair repeats a key, which the loop and the test both notice
        have h_dup : ¬((obj ++ pair :: pairs).map (·.1)).Nodup := by
          rw [List.map_append, List.nodup_append]
          intro h
          exact h.2.2 pair.1 h_mem pair.1 List.mem_cons_self rfl
        rw [if_pos h_mem, if_neg h_dup]
        rfl
      · -- the key is new, and the loop goes on with one more pair
        have h_next : ((obj ++ [pair]).map (·.1)).Nodup := by
          rw [List.map_append, List.map_singleton]
          exact List.nodup_append.mpr ⟨h_obj, List.nodup_singleton _, by
            intro a h_a b h_b
            rw [List.mem_singleton.mp h_b]
            rintro rfl
            exact h_mem h_a⟩
        rw [if_neg h_mem]
        show List.foldlM _ (obj ++ [pair]) pairs = _
        rw [ih _ h_next, List.append_assoc]
        rfl
  unfold objectPairsHook
  rw [h_fold pairs [] List.nodup_nil, List.nil_append]
  split <;> rfl

/-- A scalar nests within any bound. -/
theorem nestsWithin_of_scalar {maxDepth currentDepth : ℕ} {raw : RawValue} {v : Json}
    (h_scalar : raw.isContainer = false) (h : checkDepth maxDepth currentDepth raw = .ok v)
    (n : ℕ) : v.NestsWithin n := by
  unfold checkDepth at h
  split at h
  · cases h
  · cases raw with
    | arr items => cases h_scalar
    | obj entries => cases h_scalar
    | str points =>
      obtain ⟨s, -, h_ok⟩ := ok_of_bind h
      cases h_ok
      cases n <;> trivial
    | _ =>
      cases h
      cases n <;> trivial

/-- What passes the depth check stands within the limit. -/
theorem le_of_checkDepth {maxDepth currentDepth : ℕ} {raw : RawValue} {v : Json}
    (h : checkDepth maxDepth currentDepth raw = .ok v) : currentDepth ≤ maxDepth := by
  unfold checkDepth at h
  split at h
  · cases h
  · omega

/-- What is within a container nests one less deep. -/
theorem nestsWithin_item {maxDepth currentDepth : ℕ} {raw : RawValue} {v : Json}
    (h : checkDepth maxDepth (currentDepth + raw.isContainer.toNat) raw = .ok v)
    (h_nests : v.NestsWithin (maxDepth + 1 - (currentDepth + raw.isContainer.toNat))) :
    v.NestsWithin (maxDepth - currentDepth) := by
  cases h_raw : raw.isContainer with
  | false => exact nestsWithin_of_scalar h_raw h _
  | true =>
    rw [h_raw] at h_nests
    have h_depth : maxDepth + 1 - (currentDepth + Bool.toNat true) = maxDepth - currentDepth := by
      simp only [Bool.toNat_true]
      omega
    rwa [h_depth] at h_nests

/-- A scalar is sound when its number is. -/
theorem sound_of_scalar {limits : ParserLimits} {maxDepth currentDepth : ℕ} {raw : RawValue}
    {v : Json} (h_scalar : raw.isContainer = false)
    (h_int : ∀ m, raw = .int m → (Json.int m).Sound limits)
    (h_decimal : ∀ d, raw = .decimal d → (Json.decimal d).Sound limits)
    (h_check : checkDepth maxDepth currentDepth raw = .ok v) :
    ∀ u, Json.Part u v → u.Sound limits := by
  intro u h_u
  unfold checkDepth at h_check
  split at h_check
  · cases h_check
  · cases raw with
    | arr items => cases h_scalar
    | obj entries => cases h_scalar
    | str points =>
      obtain ⟨s, -, h_ok⟩ := ok_of_bind h_check
      cases h_ok
      cases h_u
      trivial
    | int m =>
      cases h_check
      cases h_u
      exact h_int m rfl
    | decimal d =>
      cases h_check
      cases h_u
      exact h_decimal d rfl
    | _ =>
      cases h_check
      cases h_u
      trivial

/-- The hook for numbers gives what `int` or `Decimal` takes. -/
theorem sound_of_number {limits : ParserLimits} {n : NumberLiteral} {raw : RawValue}
    (h : (structuredHooks limits).number n = .ok raw) : raw.isContainer = false ∧
      (∀ m, raw = .int m → (Json.int m).Sound limits) ∧
      ∀ d, raw = .decimal d → (Json.decimal d).Sound limits := by
  simp only [structuredHooks] at h
  split at h
  · unfold intOfLiteral at h
    split at h
    · rename_i h_allowed
      cases h
      refine ⟨rfl, fun m h_m => ?_, fun d h_d => by cases h_d⟩
      cases h_m
      have h_abs : ((if n.negative = true then -1 else 1) *
          (digitsValue n.integral.digits : ℤ)).natAbs = digitsValue n.integral.digits := by
        split <;> omega
      have h_length := length_toDigits_le n.integral
      show limits.AllowDigits (Nat.toDigits 10 (_ : ℤ).natAbs).length
      rw [h_abs]
      exact h_allowed.imp_right h_length.trans
    · cases h
  · unfold decimalOfLiteral at h
    simp only at h
    split at h
    · rename_i h_fits
      cases h
      refine ⟨rfl, fun m h_m => (by cases h_m), fun d h_d => ?_⟩
      cases h_d
      exact h_fits
    · cases h

/-- What is decoded and checked is sound and does not nest too deep. -/
theorem accepted_of_decode {limits : ParserLimits} {maxDepth : ℕ} (t : JsonTree) :
    ∀ {depth currentDepth : ℕ} {raw : RawValue} {v : Json},
      t.decode (structuredHooks limits) depth = .ok raw →
      checkDepth maxDepth currentDepth raw = .ok v →
      (∀ u, Json.Part u v → u.Sound limits) ∧ v.NestsWithin depth ∧
        v.NestsWithin (maxDepth + 1 - currentDepth) := by
  -- a scalar has no parts and nests within anything
  have h_other : ∀ {currentDepth : ℕ} {raw : RawValue} {v : Json}, raw.isContainer = false →
      (∀ m, raw ≠ .int m) → (∀ d, raw ≠ .decimal d) →
      checkDepth maxDepth currentDepth raw = .ok v →
      ∀ depth, (∀ u, Json.Part u v → u.Sound limits) ∧ v.NestsWithin depth ∧
        v.NestsWithin (maxDepth + 1 - currentDepth) := fun h_raw h_int h_decimal h_check _ =>
    ⟨sound_of_scalar h_raw (fun m h => absurd h (h_int m)) (fun d h => absurd h (h_decimal d))
      h_check, nestsWithin_of_scalar h_raw h_check _, nestsWithin_of_scalar h_raw h_check _⟩
  induction t using JsonTree.inductionOn with
  | null =>
    intro depth currentDepth raw v h_decode h_check
    rw [JsonTree.decode] at h_decode
    cases h_decode
    exact h_other rfl (by rintro _ ⟨⟩) (by rintro _ ⟨⟩) h_check depth
  | bool b =>
    intro depth currentDepth raw v h_decode h_check
    rw [JsonTree.decode] at h_decode
    cases h_decode
    exact h_other rfl (by rintro _ ⟨⟩) (by rintro _ ⟨⟩) h_check depth
  | constant c =>
    -- the decoder refuses `NaN` and the infinities
    intro depth currentDepth raw v h_decode h_check
    rw [JsonTree.decode] at h_decode
    cases h_decode
  | number n =>
    -- the decoder has checked the digits of the number
    intro depth currentDepth raw v h_decode h_check
    rw [JsonTree.decode] at h_decode
    obtain ⟨h_raw, h_int, h_decimal⟩ := sound_of_number h_decode
    exact ⟨sound_of_scalar h_raw h_int h_decimal h_check,
      nestsWithin_of_scalar h_raw h_check _, nestsWithin_of_scalar h_raw h_check _⟩
  | string parts =>
    intro depth currentDepth raw v h_decode h_check
    rw [JsonTree.decode] at h_decode
    cases h_decode
    exact h_other rfl (by rintro _ ⟨⟩) (by rintro _ ⟨⟩) h_check depth
  | array items ih =>
    intro depth currentDepth raw v h_decode h_check
    cases depth with
    | zero => simp [JsonTree.decode] at h_decode
    | succ depth =>
      rw [JsonTree.decode] at h_decode
      obtain ⟨raws, h_raws, h_ok⟩ := ok_of_bind h_decode
      cases h_ok
      -- the container stands within the limit, and the decoder has a level left for it
      have h_le := le_of_checkDepth h_check
      unfold checkDepth at h_check
      rw [if_neg (by omega)] at h_check
      obtain ⟨vs, h_vs, h_ok⟩ := ok_of_bind h_check
      cases h_ok
      rw [decodeItems_eq_mapM] at h_raws
      rw [checkItems_eq_mapM] at h_vs
      -- the induction hypothesis for each item, one level deeper
      have h_each : ∀ v ∈ vs, (∀ u, Json.Part u v → u.Sound limits) ∧ v.NestsWithin depth ∧
          v.NestsWithin (maxDepth - currentDepth) := by
        intro v h_v
        obtain ⟨raw, h_raw, h_item⟩ := mem_of_mapM_ok h_vs h_v
        obtain ⟨t, h_t, h_value⟩ := mem_of_mapM_ok h_raws h_raw
        obtain ⟨h_sound, h_rec, h_nests⟩ := ih t h_t h_value h_item
        exact ⟨h_sound, h_rec, nestsWithin_item h_item h_nests⟩
      refine ⟨Json.sound_arr fun v h_v => (h_each v h_v).1, fun v h_v => (h_each v h_v).2.1, ?_⟩
      rw [show maxDepth + 1 - currentDepth = (maxDepth - currentDepth) + 1 by omega]
      exact fun v h_v => (h_each v h_v).2.2
  | object entries ih =>
    intro depth currentDepth raw v h_decode h_check
    cases depth with
    | zero => simp [JsonTree.decode] at h_decode
    | succ depth =>
      rw [JsonTree.decode] at h_decode
      obtain ⟨raws, h_raws, h_hook⟩ := ok_of_bind h_decode
      have h_object : objectPairsHook raws = .ok raw := h_hook
      rw [objectPairsHook_eq] at h_object
      -- the hook has refused repeated keys
      split at h_object
      · rename_i h_keys
        cases h_object
        have h_le := le_of_checkDepth h_check
        unfold checkDepth at h_check
        rw [if_neg (by omega)] at h_check
        obtain ⟨vs, h_vs, h_ok⟩ := ok_of_bind h_check
        cases h_ok
        -- the checked keys are the decoded ones, so they are distinct too
        have h_nodup := nodup_of_checkEntries h_keys h_vs
        rw [decodeEntries_eq_mapM] at h_raws
        rw [checkEntries_eq_mapM] at h_vs
        -- the induction hypothesis for each value, one level deeper
        have h_each : ∀ e ∈ vs, (∀ u, Json.Part u e.2 → u.Sound limits) ∧
            e.2.NestsWithin depth ∧ e.2.NestsWithin (maxDepth - currentDepth) := by
          intro e h_e
          obtain ⟨raw, h_raw, h_entry⟩ := mem_of_mapM_ok h_vs h_e
          obtain ⟨k, -, h_value⟩ := ok_of_bind h_entry
          obtain ⟨w, h_check, h_ok⟩ := ok_of_bind h_value
          cases h_ok
          obtain ⟨t, h_t, h_decoded⟩ := mem_of_mapM_ok h_raws h_raw
          cases h_tree : t.2.decode (structuredHooks limits) depth with
          | error f =>
            rw [h_tree] at h_decoded
            cases h_decoded
          | ok r =>
            rw [h_tree] at h_decoded
            cases h_decoded
            obtain ⟨h_sound, h_rec, h_nests⟩ := ih t h_t h_tree h_check
            exact ⟨h_sound, h_rec, nestsWithin_item h_check h_nests⟩
        refine ⟨Json.sound_obj h_nodup fun e h_e => (h_each e h_e).1,
          fun e h_e => (h_each e h_e).2.1, ?_⟩
        rw [show maxDepth + 1 - currentDepth = (maxDepth - currentDepth) + 1 by omega]
        exact fun e h_e => (h_each e h_e).2.2
      · cases h_object

/-- What the parser returns. -/
theorem accepted_of_treeValue {limits : ParserLimits} {maxDepth : ℕ} {t : JsonTree} {v : Json}
    (h : treeValue limits maxDepth t = .ok v) : v.Accepted limits maxDepth := by
  unfold treeValue at h
  split at h
  · cases h
  · rename_i parsed h_decode
    have h_le := le_of_checkDepth h
    obtain ⟨h_sound, h_rec, h_nests⟩ := accepted_of_decode t h_decode h
    exact ⟨h_sound, h_rec, h_nests, h_le⟩

/-- Everything the parser returns satisfies its own conditions. -/
theorem accepted_of_parse {limits : ParserLimits} {maxDepth : ℕ} {text : String} {v : Json}
    (h : parseStructuredJson limits text maxDepth = .ok v) : v.Accepted limits maxDepth := by
  obtain ⟨t, h_text⟩ := spellsText_of_parse h
  rw [parse_of_spellsText limits maxDepth h_text] at h
  exact accepted_of_treeValue h

end DqScoring
