import Mathlib.Data.List.Basic
import Mathlib.Data.List.Nodup

/-!
# Merging rows by key

A row that comes in is combined with the row of its key, or it is added at the end. Several
rows come in one after the other. If the keys of both lists are distinct, `mergeRows_eq` gives
the result at once: the rows that were there, each combined with the one that has its key, and
then the rows that are new. Merging the same rows again changes nothing (`mergeRows_again`), if
combining with a row twice is the same as combining with it once.
-/

namespace Framework

variable {α κ : Type*} [DecidableEq κ] (key : α → κ) (combine : α → α → α)

/-- Merge one row: the first row of its key is combined with it. -/
def mergeRow (rows : List α) (new : α) : List α :=
  match rows.findIdx? fun row => decide (key row = key new) with
  | some i => rows.modify i (combine · new)
  | none => rows ++ [new]

/-- Merge rows, one after the other. -/
def mergeRows (rows news : List α) : List α := news.foldl (mergeRow key combine) rows

/-- What becomes of a row that was there. -/
def combined (news : List α) (row : α) : α :=
  match news.find? fun new => decide (key new = key row) with
  | some new => combine row new
  | none => row

variable {key combine} {rows news : List α} {row new : α}

theorem mergeRows_nil : mergeRows key combine rows [] = rows := rfl

/-- A row of the same key takes the new one in. -/
theorem mergeRow_cons_of_eq (h : key row = key new) :
    mergeRow key combine (row :: rows) new = combine row new :: rows := by
  rw [mergeRow, List.findIdx?_cons, if_pos (decide_eq_true h)]
  rfl

/-- A row of another key is passed over. -/
theorem mergeRow_cons_of_ne (h : key row ≠ key new) :
    mergeRow key combine (row :: rows) new = row :: mergeRow key combine rows new := by
  rw [mergeRow, mergeRow, List.findIdx?_cons, if_neg (by simpa using h)]
  cases rows.findIdx? fun row => decide (key row = key new) <;> rfl

/-- A new key is appended. -/
theorem mergeRow_eq_append (h : key new ∉ rows.map key) :
    mergeRow key combine rows new = rows ++ [new] := by
  induction rows with
  | nil => rfl
  | cons row rows ih =>
    rw [List.map_cons, List.mem_cons, not_or] at h
    rw [mergeRow_cons_of_ne (Ne.symm h.1), ih h.2, List.cons_append]

/-- A known key changes its own row only. -/
theorem mergeRow_eq_map (h_nodup : (rows.map key).Nodup) (h : key new ∈ rows.map key) :
    mergeRow key combine rows new =
      rows.map fun row => if key row = key new then combine row new else row := by
  induction rows with
  | nil => cases h
  | cons row rows ih =>
    rw [List.map_cons, List.nodup_cons] at h_nodup
    rw [List.map_cons]
    by_cases h_eq : key row = key new
    · -- no other row has this key
      have h_others : rows.map (fun row => if key row = key new then combine row new else row) =
          rows.map id := by
        apply List.map_congr_left
        intro other h_other
        apply if_neg
        intro h_same
        apply h_nodup.1
        rw [h_eq, ← h_same]
        exact List.mem_map_of_mem h_other
      rw [mergeRow_cons_of_eq h_eq, if_pos h_eq, h_others, List.map_id]
    · rw [mergeRow_cons_of_ne h_eq, if_neg h_eq, ih h_nodup.2]
      rw [List.map_cons, List.mem_cons] at h
      exact h.resolve_left (Ne.symm h_eq)

/-- A row is combined with the new row of its key. -/
theorem combined_of_mem (h_nodup : (news.map key).Nodup) (h_new : new ∈ news)
    (h_key : key new = key row) : combined key combine news row = combine row new := by
  rw [combined]
  cases h_find : news.find? fun new => decide (key new = key row) with
  | none =>
    have h_absent := List.find?_eq_none.mp h_find new h_new
    exact absurd (decide_eq_true h_key) h_absent
  | some other =>
    have h_other : key other = key row := by simpa using List.find?_some h_find
    have h_mem := List.mem_of_find?_eq_some h_find
    rw [List.inj_on_of_nodup_map h_nodup h_mem h_new (h_other.trans h_key.symm)]

/-- A row without a new one stays as it is. -/
theorem combined_of_forall_ne (h : ∀ new ∈ news, key new ≠ key row) :
    combined key combine news row = row := by
  have h_find : news.find? (fun new => decide (key new = key row)) = none := by
    apply List.find?_eq_none.mpr
    intro new h_new
    simpa using h new h_new
  rw [combined, h_find]

/-- Combining keeps the key. -/
theorem key_combined (h_combine : ∀ row new, key (combine row new) = key new) :
    key (combined key combine news row) = key row := by
  rw [combined]
  cases h_find : news.find? fun new => decide (key new = key row) with
  | none => rfl
  | some new => exact (h_combine row new).trans (by simpa using List.find?_some h_find)

/-- Combining keeps the keys in their order. -/
theorem map_key_combined (h_combine : ∀ row new, key (combine row new) = key new) :
    (rows.map (combined key combine news)).map key = rows.map key := by
  rw [List.map_map]
  exact List.map_congr_left fun row _ => key_combined h_combine

/-- The rows that were there, and then the rows that are new. -/
theorem mergeRows_eq (h_combine : ∀ row new, key (combine row new) = key new)
    (h_rows : (rows.map key).Nodup) (h_news : (news.map key).Nodup) :
    mergeRows key combine rows news =
      rows.map (combined key combine news) ++ news.filter fun new => key new ∉ rows.map key := by
  induction news generalizing rows with
  | nil =>
    show rows = rows.map id ++ []
    rw [List.map_id, List.append_nil]
  | cons new news ih =>
    -- a later row has another key, as the keys are distinct
    rw [List.map_cons, List.nodup_cons] at h_news
    have h_first : ∀ other ∈ news, key other ≠ key new := by
      intro other h_other h_same
      apply h_news.1
      rw [← h_same]
      exact List.mem_map_of_mem h_other
    show mergeRows key combine (mergeRow key combine rows new) news = _
    -- the new row is taken in by the row of its key
    by_cases h_mem : key new ∈ rows.map key
    · rw [mergeRow_eq_map h_rows h_mem]
      have h_keys : (rows.map fun row =>
          if key row = key new then combine row new else row).map key = rows.map key := by
        rw [List.map_map]
        apply List.map_congr_left
        intro row _
        show key (if key row = key new then combine row new else row) = key row
        split
        · rename_i h_same
          exact (h_combine row new).trans h_same.symm
        · rfl
      rw [ih (h_keys ▸ h_rows) h_news.2, h_keys, List.map_map,
        List.filter_cons_of_neg (by simpa using h_mem)]
      congr 1
      apply List.map_congr_left
      intro row _
      show combined key combine news (if key row = key new then combine row new else row) = _
      -- that row is done, and the others wait for the rest
      by_cases h_same : key row = key new
      · -- the row of this key meets no later one
        have h_now : combined key combine (new :: news) row = combine row new :=
          combined_of_mem (List.nodup_cons.mpr h_news) List.mem_cons_self h_same.symm
        rw [if_pos h_same, h_now, combined_of_forall_ne]
        rw [h_combine]
        exact h_first
      · rw [if_neg h_same, combined, combined, List.find?_cons_of_neg]
        simpa using Ne.symm h_same
    · -- the new row comes last, and meets no later one
      rw [mergeRow_eq_append h_mem]
      have h_nodup : ((rows ++ [new]).map key).Nodup := by
        rw [List.map_append, List.map_singleton, List.nodup_append_comm]
        exact List.nodup_cons.mpr ⟨h_mem, h_rows⟩
      rw [ih h_nodup h_news.2, List.map_append, List.map_singleton,
        combined_of_forall_ne h_first, List.append_assoc,
        List.filter_cons_of_pos (by simpa using h_mem)]
      congr 1
      · apply List.map_congr_left
        intro row h_row
        rw [combined, combined, List.find?_cons_of_neg]
        simp only [decide_eq_true_eq]
        intro h_same
        exact h_mem (h_same ▸ List.mem_map_of_mem h_row)
      · rw [List.singleton_append]
        congr 1
        apply List.filter_congr
        intro other h_other
        simp [h_first other h_other]

/-- A merge keeps the keys distinct. -/
theorem nodup_map_key_mergeRows (h_combine : ∀ row new, key (combine row new) = key new)
    (h_rows : (rows.map key).Nodup) (h_news : (news.map key).Nodup) :
    ((mergeRows key combine rows news).map key).Nodup := by
  rw [mergeRows_eq h_combine h_rows h_news, List.map_append, map_key_combined h_combine]
  apply List.Nodup.append h_rows
  · exact h_news.sublist (List.Sublist.map key List.filter_sublist)
  · intro k h_old h_new
    obtain ⟨new, h_mem, rfl⟩ := List.mem_map.mp h_new
    have h_absent := (List.mem_filter.mp h_mem).2
    exact absurd h_old (by simpa using h_absent)

/-- A row of the result came in, or it was there before. -/
theorem mem_mergeRows (h_combine : ∀ row new, key (combine row new) = key new)
    (h_rows : (rows.map key).Nodup) (h_news : (news.map key).Nodup)
    (h : row ∈ mergeRows key combine rows news) :
    (∃ old ∈ rows, combined key combine news old = row) ∨ row ∈ news := by
  rw [mergeRows_eq h_combine h_rows h_news, List.mem_append, List.mem_map] at h
  exact h.imp_right fun h_new => (List.mem_filter.mp h_new).1

/-- Merging again changes nothing, if what comes in the second time adds nothing to what came
in the first time. -/
theorem mergeRows_again {again : List α} (h_combine : ∀ row new, key (combine row new) = key new)
    (h_rows : (rows.map key).Nodup) (h_news : (news.map key).Nodup)
    (h_again : (again.map key).Nodup)
    (h_twice : ∀ new' ∈ again, ∃ new ∈ news, key new' = key new ∧ combine new new' = new ∧
      ∀ row, combine (combine row new) new' = combine row new) :
    mergeRows key combine (mergeRows key combine rows news) again =
      mergeRows key combine rows news := by
  have h_merged := nodup_map_key_mergeRows h_combine h_rows h_news
  -- a row that is met again holds its second combination already
  have h_kept : ∀ row ∈ mergeRows key combine rows news,
      combined key combine again row = row := by
    intro row h_row
    by_cases h_met : ∃ new' ∈ again, key new' = key row
    · obtain ⟨new', h_new', h_key'⟩ := h_met
      obtain ⟨new, h_new, h_key, h_new_twice, h_row_twice⟩ := h_twice new' h_new'
      rw [combined_of_mem h_again h_new' h_key']
      have h_same : key new = key row := h_key.symm.trans h_key'
      rcases mem_mergeRows h_combine h_rows h_news h_row with ⟨old, _, rfl⟩ | h_came
      · rw [key_combined h_combine] at h_same
        rw [combined_of_mem h_news h_new h_same]
        exact h_row_twice old
      · rw [← List.inj_on_of_nodup_map h_news h_new h_came h_same]
        exact h_new_twice
    · exact combined_of_forall_ne fun new' h_new' h_key => h_met ⟨new', h_new', h_key⟩
  have h_none : again.filter (fun new' =>
    -- every key of the second list is there by now
      decide (key new' ∉ (mergeRows key combine rows news).map key)) = [] := by
    apply List.filter_eq_nil_iff.mpr
    intro new' h_new'
    obtain ⟨new, h_new, h_key, -⟩ := h_twice new' h_new'
    have h_mem : key new' ∈ (mergeRows key combine rows news).map key := by
      rw [mergeRows_eq h_combine h_rows h_news, List.map_append, map_key_combined h_combine,
        h_key]
      by_cases h_old : key new ∈ rows.map key
      · exact List.mem_append_left _ h_old
      · apply List.mem_append_right
        exact List.mem_map_of_mem (List.mem_filter.mpr ⟨h_new, decide_eq_true h_old⟩)
    exact fun h_absent => of_decide_eq_true h_absent h_mem
  rw [mergeRows_eq h_combine h_merged h_again, h_none, List.append_nil]
  exact (List.map_congr_left h_kept).trans (List.map_id _)

end Framework
