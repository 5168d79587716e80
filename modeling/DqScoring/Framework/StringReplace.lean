import Mathlib.Data.List.Basic

/-!
# Replacing a text

`String.replace` looks for the pattern from left to right and goes on behind every place
where it has found it. `Replaced` says so as a relation on lists of characters, and
`replaced_replace` that the function computes it; what a particular replacement does is then
shown by induction on the relation, without the positions of the search.
-/

namespace Framework

/-! ### The relation -/

/-- The second text is the first with `rep` in the place of every occurrence of `pat`. -/
inductive Replaced (pat rep : List Char) : List Char → List Char → Prop where
  | nil : Replaced pat rep [] []
  | hit {rest out : List Char} : Replaced pat rep rest out →
      Replaced pat rep (pat ++ rest) (rep ++ out)
  | skip {c : Char} {rest out : List Char} : ¬pat <+: c :: rest → Replaced pat rep rest out →
      Replaced pat rep (c :: rest) (c :: out)

namespace Replaced

variable {pat rep : List Char}

/-- Where the pattern is not empty there is only one result. -/
theorem unique (h_pat : pat ≠ []) {text out : List Char} (h : Replaced pat rep text out) :
    ∀ {out' : List Char}, Replaced pat rep text out' → out = out' := by
  induction h with
  | nil =>
    intro out' h'
    generalize h_text : ([] : List Char) = text at h'
    cases h' with
    | nil => rfl
    | hit h' => exact absurd (List.append_eq_nil_iff.mp h_text.symm).1 h_pat
    | skip _ _ => cases h_text
  | @hit rest out h ih =>
    intro out' h'
    generalize h_text : pat ++ rest = text at h'
    cases h' with
    | nil => exact absurd (List.append_eq_nil_iff.mp h_text).1 h_pat
    | hit h' =>
      have h_rest := List.append_cancel_left h_text
      subst h_rest
      rw [ih h']
    | skip h_not _ => exact absurd ⟨_, h_text⟩ h_not
  | @skip c rest out h_not h ih =>
    intro out' h'
    generalize h_text : c :: rest = text at h'
    cases h' with
    | nil => cases h_text
    | hit h' => exact absurd ⟨_, h_text.symm⟩ h_not
    | skip _ h' =>
      cases h_text
      rw [ih h']

/-- A text whose first character is not that of the pattern keeps it. -/
theorem of_head_ne {p c : Char} {pat rest out : List Char} (h_ne : c ≠ p)
    (h : Replaced (p :: pat) rep rest out) :
    Replaced (p :: pat) rep (c :: rest) (c :: out) := by
  refine skip ?_ h
  intro h_start
  exact h_ne (List.cons_prefix_cons.mp h_start).1.symm

/-- It keeps the character in the result, and the rest of the text has the rest of it. -/
theorem exists_of_head_ne {p c : Char} {pat rest out : List Char} (h_ne : c ≠ p)
    (h : Replaced (p :: pat) rep (c :: rest) out) :
    ∃ out', out = c :: out' ∧ Replaced (p :: pat) rep rest out' := by
  generalize h_text : c :: rest = text at h
  cases h with
  | nil => cases h_text
  | hit _ => exact absurd (List.cons.inj h_text).1 h_ne
  | skip _ h' =>
    cases h_text
    exact ⟨_, rfl, h'⟩

/-- A stretch without an occurrence stays. -/
theorem append_left {front rest out : List Char} (h : Replaced pat rep rest out) :
    (∀ before after, front = before ++ after → after ≠ [] → ¬pat <+: after ++ rest) →
      Replaced pat rep (front ++ rest) (front ++ out) := by
  induction front with
  | nil =>
    intro _
    exact h
  | cons c front ih =>
    intro h_not
    refine skip (h_not [] (c :: front) rfl (by simp)) (ih ?_)
    intro before after h_eq
    exact h_not (c :: before) after (by rw [h_eq]; rfl)

/-- A single character is replaced at each of its occurrences. -/
theorem eq_flatMap {p : Char} {text out : List Char} (h : Replaced [p] rep text out) :
    out = text.flatMap fun c => if c = p then rep else [c] := by
  induction h with
  | nil => rfl
  | hit h ih => simp [ih]
  | @skip c rest out h_not h ih =>
    have h_c : c ≠ p := by
      rintro rfl
      exact h_not ⟨rest, rfl⟩
    simp [h_c, ih]

end Replaced

/-! ### The function -/

section Search

open String.Slice.Pattern String.Slice.Pattern.Model

/-- What one step of the search adds to the result. -/
private def stepText {s : String.Slice} (rep : String) : SearchStep s → String
  | .matched _ _ => rep
  | .rejected start stop => (s.slice! start stop).copy

/-- A valid search from a position adds the replaced rest of the text. -/
theorem replaced_of_search {pat : String} {s : String.Slice} (rep : String) {pos : s.Pos}
    {steps : List (SearchStep s)} (h : IsValidSearchFrom pat pos steps) :
    ∀ {before after : String}, pos.Splits before after →
      Replaced pat.toList rep.toList after.toList (steps.flatMap fun st => (stepText rep st).toList)
    := by
  induction h with
  | endPos =>
    -- nothing is left to search
    intro before after h_splits
    obtain ⟨-, rfl⟩ := String.Slice.splits_endPos_iff.mp h_splits
    exact .nil
  | @matched steps pos stop h_match _ ih =>
    -- a match is replaced, and the search goes on behind it
    intro before after h_splits
    obtain ⟨t₁, t₂, h_pos, h_stop⟩ := ForwardStringSearcher.isLongestMatchAt_iff_splits.mp h_match
    obtain ⟨-, rfl⟩ := h_splits.eq h_pos
    rw [String.toList_append]
    exact .hit (ih h_stop)
  | @mismatched steps pos stop h_lt h_not _ ih =>
    -- the stretch before the next candidate is kept
    intro before after h_splits
    have h_stop := stop.splits
    obtain ⟨t, -, h_before, rfl⟩ := (h_splits.lt_iff_exists_eq_append h_stop).mp h_lt
    have h_slice : (s.slice! pos stop).copy = t := by
      obtain ⟨_, h_slice⟩ := String.Slice.copy_slice_eq_iff_splits.mpr
        ⟨_, _, h_splits, h_before ▸ h_stop⟩
      rw [← String.Slice.slice_eq_slice!]
      exact h_slice
    rw [List.flatMap_cons, String.toList_append]
    show Replaced _ _ _ ((s.slice! pos stop).copy.toList ++ _)
    rw [h_slice]
    refine (ih h_stop).append_left ?_
    -- an occurrence within the stretch would be one at a position of the search
    intro front back h_t h_back ⟨more, h_more⟩
    have h_t' : t = String.ofList front ++ String.ofList back := by
      rw [← String.toList_inj, String.toList_append, h_t, String.toList_ofList,
        String.toList_ofList]
    have h_eq : s.copy = (before ++ String.ofList front) ++
        (String.ofList back ++ (s.sliceFrom stop).copy) := by
      rw [h_splits.eq_append, h_t']
      simp only [String.append_assoc]
    have h_q := String.Slice.Pos.splits_ofEqAppend h_eq
    refine h_not (String.Slice.Pos.ofEqAppend h_eq) ?_ ?_
      (ForwardStringSearcher.matchesAt_iff_splits.mpr
        ⟨before ++ String.ofList front, String.ofList more, ?_⟩)
    · refine (h_splits.le_iff_exists_eq_append h_q).mpr ⟨String.ofList front, rfl, ?_⟩
      rw [h_t']
      simp only [String.append_assoc]
    · refine (h_q.lt_iff_exists_eq_append h_stop).mpr ⟨String.ofList back, ?_, ?_, rfl⟩
      · simpa using h_back
      · rw [h_before, h_t']
        simp only [String.append_assoc]
    · have h_text : pat ++ String.ofList more = String.ofList back ++ (s.sliceFrom stop).copy := by
        rw [← String.toList_inj, String.toList_append, String.toList_append, String.toList_ofList,
          String.toList_ofList]
        exact h_more
      rw [h_text]
      exact h_q

/-- The search adds its steps to the result one after the other. -/
private theorem toList_foldl_steps {s : String.Slice} (rep : String) (steps : List (SearchStep s)) :
    ∀ acc : String, (steps.foldl (fun sofar st => sofar ++ stepText rep st) acc).toList =
      acc.toList ++ steps.flatMap fun st => (stepText rep st).toList := by
  induction steps with
  | nil => simp
  | cons st steps ih =>
    intro acc
    rw [List.foldl_cons, ih, String.toList_append, List.flatMap_cons, List.append_assoc]

/-- `String.replace` replaces every occurrence. -/
theorem replaced_replace {pat : String} (h_pat : pat ≠ "") (rep s : String) :
    Replaced pat.toList rep.toList s.toList (s.replace pat rep).toList := by
  have h_lawful := ForwardStringSearcher.lawfulToForwardSearcherModel h_pat
  have h_search := h_lawful.isValidSearchFrom_toList s.toSlice
  have h := replaced_of_search rep h_search (String.Slice.splits_startPos s.toSlice)
  rw [String.copy_toSlice] at h
  unfold String.replace String.Slice.replace
  rw [← Std.Iter.foldl_toList]
  have h_fold := toList_foldl_steps (s := s.toSlice) rep
    (ToForwardSearcher.toSearcher pat s.toSlice).toList ""
  rw [String.toList_empty, List.nil_append] at h_fold
  rw [← h_fold] at h
  refine (congrArg (fun text : String => Replaced pat.toList rep.toList s.toList text.toList)
    ?_).mpr h
  refine List.foldl_ext _ _ _ ?_
  intro sofar st _
  cases st with
  | matched start stop =>
    have h_copy : (String.ToSlice.toSlice rep).copy = rep := String.copy_toSlice
    simp [stepText, h_copy]
  | rejected start stop => simp [stepText]

end Search

end Framework
