import DqScoring.Common.ScanOrder
import DqScoring.Framework.Traverse

/-!
# What a row makes the scanner raise

`feed_row` raises an error of its own at a leaf that it cannot scan: `str` of the value fails,
or the value looks like a card number by `str.isdigit`, which holds of digits that `int` does
not take. It meets the leaves of a row in their order, as long as the paths fit the limit.
-/

open Framework

namespace DqScoring

/-! ### Card numbers -/

/-- Removing characters twice is removing them once. -/
theorem withoutChars_withoutChars (p : Char → Bool) (text : String) :
    withoutChars p (withoutChars p text) = withoutChars p text := by
  unfold withoutChars
  rw [String.toList_ofList, List.filter_filter]
  simp

/-- What `re.sub(r"[\s-]", "", text)` leaves. -/
def cardText (text : String) : List Char :=
  (withoutChars (fun c => c == '-' || isPySpace c) text).toList

namespace ScannerTables

variable (t : ScannerTables)

/-- The text has as many digits as a card number, one of which `int` does not take. -/
def OddCard (text : String) : Prop :=
  13 ≤ (cardText text).length ∧ (cardText text).length ≤ 19 ∧
    (∀ c ∈ cardText text, t.isDigitText c = true) ∧ ∃ c ∈ cardText text, t.decimalValue c = none

/-- The card check raises exactly on as many digits as a card has, one of which `int` does
not take. -/
theorem isCard_error_iff (text : String) : (∃ e, t.isCard text = .error e) ↔ t.OddCard text := by
  -- spaces and dashes are removed twice in the source, the second time for nothing
  have h_twice : (withoutChars (fun c => c == '-' || isPySpace c)
      (withoutChars (fun c => c == '-' || isPySpace c) text)).toList = cardText text :=
    congrArg String.toList (withoutChars_withoutChars _ text)
  unfold isCard
  dsimp only
  split
  · next h_length =>
    -- the text has the length of a card number
    have h_count : 13 ≤ (cardText text).length ∧ (cardText text).length ≤ 19 := h_length
    unfold isValidLuhn
    dsimp only
    rw [h_twice]
    split
    · next h_other =>
      -- other characters than digits end the check before `int` is called
      refine iff_of_false (fun ⟨_, h⟩ => by cases h) fun ⟨_, _, h_digits, _⟩ => ?_
      have h_all := List.all_eq_true.mpr h_digits
      have h_empty : (cardText text).isEmpty = false := by
        cases h : cardText text with
        | nil => rw [h] at h_count; exact absurd h_count.1 (by decide)
        | cons _ _ => rfl
      simp [h_all, h_empty] at h_other
      omega
    · next h_digits =>
      -- all characters are digits, so `int` reads them one by one
      have h_all : ∀ c ∈ cardText text, t.isDigitText c = true := by
        simp at h_digits
        exact h_digits.1.1.2
      refine bind_pure_error_iff.trans (mapM_error_iff.trans ⟨?_, ?_⟩)
      · -- it raises at a digit without a decimal value
        rintro ⟨c, h_c, e, h⟩
        refine ⟨h_count.1, h_count.2, h_all, c, h_c, ?_⟩
        cases h_value : t.decimalValue c with
        | none => rfl
        | some n =>
          rw [h_value] at h
          cases h
      · rintro ⟨_, _, _, c, h_c, h_value⟩
        refine ⟨c, h_c, .valueError "invalid literal for int()", ?_⟩
        rw [h_value]
  · next h_length =>
    -- texts of other lengths are no cards
    exact iff_of_false (fun ⟨_, h⟩ => by cases h) fun h => h_length ⟨h.1, h.2.1⟩

/-- Of the built-in checks only the card check raises. -/
theorem scanBuiltinLeaf_error_iff (topCol sval : String) (codes : List BuiltinCode) :
    (∃ e, t.scanBuiltinLeaf topCol sval codes = .error e) ↔
      .card ∈ codes ∧ t.OddCard sval := by
  unfold scanBuiltinLeaf
  split
  · next h_empty =>
    refine iff_of_false (fun ⟨_, h⟩ => by cases h) fun ⟨_, h_length, _⟩ => ?_
    subst h_empty
    exact absurd h_length (by decide)
  · split
    · next h_card =>
      rw [← t.isCard_error_iff]
      have h_mem : .card ∈ codes := List.contains_iff_mem.mp h_card
      cases t.isCard sval with
      | error e => exact iff_of_true ⟨e, rfl⟩ ⟨h_mem, e, rfl⟩
      | ok card => exact iff_of_false (fun ⟨_, h⟩ => by cases h) fun ⟨_, _, h⟩ => by cases h
    · next h_card =>
      refine iff_of_false (fun ⟨_, h⟩ => by cases h) fun h => h_card ?_
      exact List.contains_iff_mem.mpr h.1

end ScannerTables

namespace Detectors

variable (t : ScannerTables) (d : Detectors)

/-- A leaf of a column that has builtin value detectors: its text cannot be had, or the detector of
card numbers applies and fails on it. -/
def Unscannable (leaf : String × String × ScanValue) : Prop :=
  d.builtinCodes leaf.1 ≠ [] ∧ ((∃ e, leaf.2.2.text = .error e) ∨
    (.card ∈ d.builtinCodes leaf.1 ∧ ∃ s, leaf.2.2.text = .ok s ∧ t.OddCard (pyStrip s)))

/-- The paths of some leaves. -/
def leafPaths (leaves : List (String × String × ScanValue)) : Finset (String × String) :=
  (leaves.map fun leaf => (leaf.1, leaf.2.1)).toFinset

/-- The paths of the leaves fit the limit, beside those that have been seen. -/
def Fits (st : ScannerState) (leaves : List (String × String × ScanValue)) : Prop :=
  (st.seenPaths ∪ leafPaths leaves).card ≤ max maxDistinctPaths st.seenPaths.card

/-- A leaf raises exactly when the card check looks at it and raises. -/
theorem leafHits_error_iff (col path : String) (value : ScanValue) :
    (∃ e, d.leafHits t col value = .error e) ↔ d.Unscannable t (col, path, value) := by
  unfold leafHits builtinHits Unscannable
  dsimp only
  split
  · next h_plan =>
    refine iff_of_false (fun ⟨_, h⟩ => by cases h) fun h => h.1 ?_
    exact List.isEmpty_iff.mp h_plan
  · next h_plan =>
    have h_codes : d.builtinCodes col ≠ [] := fun h => h_plan (List.isEmpty_iff.mpr h)
    cases value.text with
    | error e => exact iff_of_true ⟨e, rfl⟩ ⟨h_codes, Or.inl ⟨e, rfl⟩⟩
    | ok sval =>
      have h_scan := t.scanBuiltinLeaf_error_iff col (pyStrip sval) (d.builtinCodes col)
      cases h : t.scanBuiltinLeaf col (pyStrip sval) (d.builtinCodes col) with
      | error e =>
        obtain ⟨h_card, h_odd⟩ := h_scan.mp ⟨e, h⟩
        refine iff_of_true ⟨e, ?_⟩ ⟨h_codes, Or.inr ⟨h_card, sval, rfl, h_odd⟩⟩
        simp only [h, bind, Except.bind, Except.map]
      | ok codes =>
        refine iff_of_false (fun ⟨e, h_e⟩ => ?_) fun h_un => ?_
        · simp only [h, bind, Except.bind] at h_e
          cases h_e
        · rcases h_un.2 with ⟨_, h_text⟩ | ⟨h_card, _, h_text, h_odd⟩
          · cases h_text
          · obtain rfl := Except.ok.inj h_text
            obtain ⟨e, h_e⟩ := h_scan.mpr ⟨h_card, h_odd⟩
            rw [h] at h_e
            cases h_e

/-! ### The leaves of a row -/

/-- The paths of two lists of leaves. -/
theorem leafPaths_append (leaves leaves' : List (String × String × ScanValue)) :
    leafPaths (leaves ++ leaves') = leafPaths leaves ∪ leafPaths leaves' := by
  unfold leafPaths
  rw [List.map_append, List.toFinset_append]

/-- What fits with more leaves fits without them. -/
theorem Fits.of_append {st : ScannerState} {leaves leaves' : List (String × String × ScanValue)}
    (h : Fits st (leaves ++ leaves')) : Fits st leaves := by
  refine (Finset.card_le_card ?_).trans h
  rw [leafPaths_append, ← Finset.union_assoc]
  exact Finset.subset_union_left

/-- A leaf fits exactly if its path is known or there is room for another one. -/
theorem fits_singleton (st : ScannerState) (leaf : String × String × ScanValue) :
    Fits st [leaf] ↔
      ¬ ((leaf.1, leaf.2.1) ∉ st.seenPaths ∧ maxDistinctPaths ≤ st.seenPaths.card) := by
  have h_paths : st.seenPaths ∪ leafPaths [leaf] = insert (leaf.1, leaf.2.1) st.seenPaths := by
    rw [Finset.union_comm]
    rfl
  unfold Fits
  rw [h_paths]
  by_cases h_mem : (leaf.1, leaf.2.1) ∈ st.seenPaths
  · rw [Finset.insert_eq_of_mem h_mem]
    exact iff_of_true (le_max_right _ _) fun h => h.1 h_mem
  · rw [Finset.card_insert_of_notMem h_mem]
    constructor
    · rintro h ⟨-, h_full⟩
      rw [max_eq_right h_full] at h
      omega
    · intro h
      have h_room : st.seenPaths.card < maxDistinctPaths := Nat.lt_of_not_le fun h' => h ⟨h_mem, h'⟩
      exact (Nat.succ_le_of_lt h_room).trans (le_max_left _ _)

/-- What a state has seen after leaves that fit leaves the limit as it was. -/
theorem fits_append {st st' : ScannerState} {before leaves : List (String × String × ScanValue)}
    (h_seen : st'.seenPaths = st.seenPaths ∪ leafPaths before) (h_before : Fits st before) :
    Fits st' leaves ↔ Fits st (before ++ leaves) := by
  have h_grows : st.seenPaths.card ≤ st'.seenPaths.card := by
    rw [h_seen]
    exact Finset.card_le_card Finset.subset_union_left
  have h_limit : max maxDistinctPaths st'.seenPaths.card =
    max maxDistinctPaths st.seenPaths.card := by
    have h_le : st'.seenPaths.card ≤ max maxDistinctPaths st.seenPaths.card := by
      rw [h_seen]
      exact h_before
    exact le_antisymm (max_le (le_max_left _ _) h_le) (max_le_max_left _ h_grows)
  unfold Fits
  rw [h_limit, h_seen, leafPaths_append, Finset.union_assoc]

/-- What feeding one leaf does: it adds the path, stops at the bound, or raises. -/
theorem feedLeaf_spec (st : ScannerState) (leaf : String × String × ScanValue) :
    (∀ st', d.feedLeaf t st leaf = .ok st' →
      Fits st [leaf] ∧ st'.seenPaths = st.seenPaths ∪ leafPaths [leaf]) ∧
    (d.feedLeaf t st leaf = .error .limitExceeded ↔ ¬ Fits st [leaf]) ∧
    ((∃ e, d.feedLeaf t st leaf = .error (.other e)) ↔ Fits st [leaf] ∧ d.Unscannable t leaf) := by
  obtain ⟨col, path, value⟩ := leaf
  have h_hits := d.leafHits_error_iff t col path value
  rw [fits_singleton, ← h_hits]
  unfold feedLeaf
  dsimp only
  split
  · next h_full =>
    exact ⟨fun _ h => by (cases h), iff_of_true rfl fun h => h h_full,
      iff_of_false (fun ⟨_, h⟩ => by cases h) fun h => h.1 h_full⟩
  · next h_room =>
    cases h : d.leafHits t col value with
    | error e =>
      exact ⟨fun _ h => by (cases h), iff_of_false (fun h => by cases h) fun h => h h_room,
        iff_of_true ⟨e, rfl⟩ ⟨h_room, e, rfl⟩⟩
    | ok hits =>
      refine ⟨fun st' h' => ⟨h_room, ?_⟩, iff_of_false (fun h => by cases h) fun h => h h_room,
        iff_of_false (fun ⟨_, h⟩ => by cases h) fun ⟨_, _, h⟩ => by cases h⟩
      obtain rfl := Except.ok.inj h'
      rw [Finset.union_comm]
      rfl

/-- Feeding leaves adds their paths, all within the bound. -/
theorem feedLeaves_ok {leaves : List (String × String × ScanValue)} {st st' : ScannerState}
    (h : leaves.foldlM (d.feedLeaf t) st = .ok st') :
    Fits st leaves ∧ st'.seenPaths = st.seenPaths ∪ leafPaths leaves := by
  induction leaves generalizing st with
  | nil =>
    obtain rfl := Except.ok.inj h
    have h_nil : st.seenPaths ∪ leafPaths [] = st.seenPaths := Finset.union_empty _
    refine ⟨?_, h_nil.symm⟩
    unfold Fits
    rw [h_nil]
    exact le_max_right _ _
  | cons leaf leaves ih =>
    rw [List.foldlM_cons] at h
    obtain ⟨st₁, h_first, h_rest⟩ := ok_of_bind h
    obtain ⟨h_fits, h_seen⟩ := (d.feedLeaf_spec t st leaf).1 st₁ h_first
    obtain ⟨h_fits', h_seen'⟩ := ih h_rest
    refine ⟨(fits_append h_seen h_fits).mp h_fits', ?_⟩
    rw [h_seen', h_seen, Finset.union_assoc, ← leafPaths_append]
    rfl

/-- The limit is raised only by leaves that do not fit it. -/
theorem feedLeaves_limit {leaves : List (String × String × ScanValue)} {st : ScannerState}
    (h : leaves.foldlM (d.feedLeaf t) st = .error .limitExceeded) : ¬ Fits st leaves := by
  obtain ⟨before, leaf, after, st', rfl, h_before, h_leaf⟩ := foldlM_eq_error_iff.mp h
  obtain ⟨h_fits, h_seen⟩ := d.feedLeaves_ok t h_before
  intro h_all
  refine ((d.feedLeaf_spec t st' leaf).2.1.mp h_leaf) ((fits_append h_seen h_fits).mpr ?_)
  rw [← List.singleton_append, ← List.append_assoc] at h_all
  exact h_all.of_append

/-- Feeding leaves raises another error exactly when it gets to a leaf that cannot be
scanned before the bound on paths ends it. -/
theorem feedLeaves_other_iff (leaves : List (String × String × ScanValue)) (st : ScannerState) :
    (∃ e, leaves.foldlM (d.feedLeaf t) st = .error (.other e)) ↔
      ∃ before leaf after, leaves = before ++ leaf :: after ∧ Fits st (before ++ [leaf]) ∧
        d.Unscannable t leaf := by
  constructor
  · rintro ⟨e, h⟩
    obtain ⟨before, leaf, after, st', h_split, h_before, h_leaf⟩ := foldlM_eq_error_iff.mp h
    obtain ⟨h_fits, h_seen⟩ := d.feedLeaves_ok t h_before
    obtain ⟨h_room, h_un⟩ := (d.feedLeaf_spec t st' leaf).2.2.mp ⟨e, h_leaf⟩
    exact ⟨before, leaf, after, h_split, (fits_append h_seen h_fits).mp h_room, h_un⟩
  · rintro ⟨before, leaf, after, rfl, h_fits, h_un⟩
    -- the leaves before it are scanned, or raise an error of their own
    cases h_before : before.foldlM (d.feedLeaf t) st with
    | ok st' =>
      obtain ⟨h_fits', h_seen⟩ := d.feedLeaves_ok t h_before
      have h_room := (fits_append h_seen h_fits').mpr h_fits
      obtain ⟨e, h_leaf⟩ := (d.feedLeaf_spec t st' leaf).2.2.mpr ⟨h_room, h_un⟩
      exact ⟨e, foldlM_eq_error_iff.mpr ⟨before, leaf, after, st', rfl, h_before, h_leaf⟩⟩
    | error e =>
      cases e with
      | limitExceeded => exact absurd h_fits.of_append (d.feedLeaves_limit t h_before)
      | other e =>
        refine ⟨e, ?_⟩
        rw [List.foldlM_append, h_before]
        rfl

/-- **Scanner errors.** Feeding a row raises nothing but the limit exactly if none of the leaves
that it reaches within the limit is unscannable. -/
theorem feedRow_raises_only_limit_iff (t : ScannerTables) (d : Detectors) (st : ScannerState)
    (row : ScanRow) :
    (∀ e, d.feedRow t st row = .error e → e = .limitExceeded) ↔
      ∀ before leaf after, ScanValue.rowLeaves row = before ++ leaf :: after →
        Fits st (before ++ [leaf]) → ¬ d.Unscannable t leaf := by
  have h_iff := d.feedLeaves_other_iff t (ScanValue.rowLeaves row)
    { st with
      totalRows := st.totalRows + 1
      topLevelCols := st.topLevelCols ∪ (row.map Prod.fst).toFinset }
  constructor
  · intro h before leaf after h_split h_fits h_un
    obtain ⟨e, h_error⟩ := h_iff.mpr ⟨before, leaf, after, h_split, h_fits, h_un⟩
    cases h _ h_error
  · intro h e h_error
    cases e with
    | limitExceeded => rfl
    | other e =>
      obtain ⟨before, leaf, after, h_split, h_fits, h_un⟩ := h_iff.mp ⟨e, h_error⟩
      exact absurd h_un (h before leaf after h_split h_fits)

end Detectors

/-- The tables with the superscript two, a digit for `str.isdigit` but not for `int`. -/
def superscriptScanner : ScannerTables :=
  { asciiScanner with isDigitText := fun c => c.isDigit || c == '²' }

/-- A cell with thirteen of them. -/
def superscriptRow : ScanRow := [("memo", .str "²²²²²²²²²²²²²")]

theorem feedRow_superscript : ¬ ∀ (t : ScannerTables) (d : Detectors) (st : ScannerState)
    (row : ScanRow) (e : ScanError), d.feedRow t st row = .error e → e = .limitExceeded := by
  intro h
  have h_row : Detectors.ofBuiltins.feedRow superscriptScanner {} superscriptRow =
      .error (.other (.valueError "invalid literal for int()")) := rfl
  cases h _ _ _ _ _ h_row

end DqScoring
