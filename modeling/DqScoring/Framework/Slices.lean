import Mathlib.Algebra.BigOperators.Group.List.Basic
import Mathlib.Algebra.Order.BigOperators.Group.List
import Mathlib.Algebra.Ring.Nat

/-!
# A list in slices

The slices of one width of a list, numbered from 1; the last one may be shorter. The first `k` of
them are a prefix of the list (`flatMap_slice`), and enough of them are the list
(`flatMap_slice_of_le`). The length of the list gives the lengths of the slices.

A reader who takes one slice after another, of a list into which items are inserted meanwhile, may
see an item twice but overlooks none (`exists_mem_slice`): an insertion moves items to later slices
only.
-/

namespace Framework

variable {β : Type*}

/-- The `n`-th slice. -/
def slice (width : ℕ) (l : List β) (n : ℕ) : List β := (l.take (n * width)).drop ((n - 1) * width)

/-- The length of the `n`-th slice of a list of the size. -/
def sliceLength (width size n : ℕ) : ℕ := min width (size - (n - 1) * width)

/-- The length of a slice. -/
theorem length_slice (width : ℕ) {n : ℕ} (l : List β) (h : 1 ≤ n) :
    (slice width l n).length = sliceLength width l.length n := by
  obtain ⟨k, rfl⟩ := Nat.exists_eq_add_of_le' h
  rw [slice, sliceLength, List.length_drop, List.length_take, Nat.add_sub_cancel,
    Nat.succ_mul]
  omega

/-- A slice drops the earlier ones. -/
theorem slice_eq_take_drop {width n : ℕ} (l : List β) (h : 1 ≤ n) :
    slice width l n = (l.drop ((n - 1) * width)).take width := by
  obtain ⟨k, rfl⟩ := Nat.exists_eq_add_of_le' h
  rw [slice, List.drop_take, Nat.add_sub_cancel, Nat.succ_mul, Nat.add_sub_cancel_left]

/-- Slicing and mapping commute. -/
theorem map_slice {γ : Type*} (f : β → γ) (width : ℕ) (l : List β) (n : ℕ) :
    (slice width l n).map f = slice width (l.map f) n := by
  rw [slice, slice, List.map_drop, List.map_take]

/-- The first slices make up a prefix. -/
theorem flatMap_slice (width : ℕ) (l : List β) (k : ℕ) :
    (List.range' 1 k).flatMap (slice width l) = l.take (k * width) := by
  induction k with
  | zero => rw [Nat.zero_mul, List.take_zero]; rfl
  | succ k ih =>
    have h_begins : l.take (k * width) = (l.take ((k + 1) * width)).take (k * width) := by
      rw [List.take_take, Nat.min_eq_left (Nat.mul_le_mul_right _ (Nat.le_succ k))]
    rw [List.range'_concat, List.flatMap_append, ih, List.flatMap_singleton, slice, h_begins,
      Nat.one_mul, Nat.add_comm 1 k, Nat.add_sub_cancel, List.take_append_drop]

/-- Enough slices make up the list. -/
theorem flatMap_slice_of_le {width k : ℕ} {l : List β} (h : l.length ≤ k * width) :
    (List.range' 1 k).flatMap (slice width l) = l := by
  rw [flatMap_slice, List.take_of_length_le h]

/-- The lengths of the slices add up. -/
theorem sum_sliceLength (width size k : ℕ) :
    ((List.range' 1 k).map (sliceLength width size)).sum = min (k * width) size := by
  induction k with
  | zero => rw [Nat.zero_mul, Nat.zero_min]; rfl
  | succ k ih =>
    rw [List.range'_concat, List.map_append, List.sum_append, ih, List.map_singleton,
      List.sum_singleton, sliceLength, Nat.one_mul, Nat.add_comm 1 k, Nat.add_sub_cancel,
      Nat.succ_mul]
    omega

/-- A number of slices that is enough, rounded up. -/
theorem le_ceil_mul {width : ℕ} (h : 0 < width) (size : ℕ) :
    size ≤ max 1 ((size + width - 1) / width) * width := by
  have h_ceil : size ≤ (size + width - 1) / width * width := by
    have h_div := Nat.div_add_mod (size + width - 1) width
    have h_mod := Nat.mod_lt (size + width - 1) h
    rw [Nat.mul_comm] at h_div
    omega
  exact h_ceil.trans (Nat.mul_le_mul_right _ (Nat.le_max_right _ _))

/-- Some of the numbers up to `k` and the others. -/
theorem sum_map_filter_mem (f : ℕ → ℕ) {some : List ℕ} {k : ℕ} (h_nodup : some.Nodup)
    (h_range : ∀ n ∈ some, n ∈ List.range' 1 k) :
    (some.map f).sum + (((List.range' 1 k).filter fun n => n ∉ some).map f).sum =
      ((List.range' 1 k).map f).sum := by
  have h_some : ((List.range' 1 k).filter fun n => n ∈ some).Perm some := by
    rw [List.perm_ext_iff_of_nodup ((List.nodup_range' 1 Nat.one_pos).filter _) h_nodup]
    intro n
    rw [List.mem_filter, decide_eq_true_iff]
    exact ⟨fun h => h.2, fun h => ⟨h_range n h, h⟩⟩
  have h_split := List.filter_append_perm (fun n => decide (n ∈ some)) (List.range' 1 k)
  rw [← (h_split.map f).sum_eq, List.map_append, List.sum_append, (h_some.map f).sum_eq]
  simp only [decide_not]

/-! ### A list that grows -/

section Grows

variable [DecidableEq β] {width : ℕ} {x : β}

/-- An item is in the slice that its index says. -/
theorem mem_slice {l : List β} {n : ℕ} (h_x : x ∈ l) (h_low : (n - 1) * width ≤ l.idxOf x)
    (h_high : l.idxOf x < n * width) : x ∈ slice width l n := by
  have h_split : l.take (n * width) =
      (l.take (n * width)).take ((n - 1) * width) ++ slice width l n :=
    (List.take_append_drop _ _).symm
  have h_take : x ∈ l.take (n * width) := by
    rw [List.mem_take_iff_idxOf_lt h_x]
    exact h_high
  rw [h_split] at h_take
  rcases List.mem_append.mp h_take with h_before | h_slice
  · rw [List.take_take] at h_before
    have h_index := (List.mem_take_iff_idxOf_lt h_x).mp h_before
    omega
  · exact h_slice

/-- Inserted items move an item back. -/
theorem idxOf_le_of_sublist {l l' : List β} (h : l.Sublist l') (h_nodup : l'.Nodup) (h_x : x ∈ l) :
    l.idxOf x ≤ l'.idxOf x := by
  induction h with
  | slnil => exact Nat.le_refl _
  | @cons l l' a h ih =>
    have h_ne : a ≠ x := by
      rintro rfl
      exact (List.nodup_cons.mp h_nodup).1 (h.subset h_x)
    rw [List.idxOf_cons_ne _ h_ne]
    exact (ih (List.nodup_cons.mp h_nodup).2 h_x).trans (Nat.le_succ _)
  | @cons_cons l l' a h ih =>
    by_cases h_eq : a = x
    · rw [List.idxOf_cons_eq _ h_eq, List.idxOf_cons_eq _ h_eq]
    · rw [List.idxOf_cons_ne _ h_eq, List.idxOf_cons_ne _ h_eq]
      have h_rest : x ∈ l := by
        rcases List.mem_cons.mp h_x with h_head | h_rest
        · exact absurd h_head.symm h_eq
        · exact h_rest
      exact Nat.succ_le_succ (ih (List.nodup_cons.mp h_nodup).2 h_rest)

/-- **Walk.** The slices `1, …, k`, the `n`-th one of the list at its time, show every item of the
first list if the list has only been inserted into and the last slice reaches its end. -/
theorem exists_mem_slice {lists : ℕ → List β} {k : ℕ}
    (h_grows : ∀ n, 1 ≤ n → n < k → (lists n).Sublist (lists (n + 1)))
    (h_nodup : ∀ n, 1 ≤ n → n ≤ k → (lists n).Nodup) (h_k : 1 ≤ k)
    (h_end : (lists k).length ≤ k * width) (h_x : x ∈ lists 1) :
    ∃ n, 1 ≤ n ∧ n ≤ k ∧ x ∈ slice width (lists n) n := by
  by_contra h_none
  push Not at h_none
  -- an item that has not been seen is behind the slices that have
  have h_behind : ∀ n, 1 ≤ n → n ≤ k → x ∈ lists n ∧ n * width ≤ (lists n).idxOf x := by
    intro n h_pos
    induction n, h_pos using Nat.le_induction with
    | base =>
      intro h_le
      refine ⟨h_x, not_lt.mp fun h_lt => h_none 1 (Nat.le_refl 1) h_le (mem_slice h_x ?_ h_lt)⟩
      rw [Nat.sub_self, Nat.zero_mul]
      exact Nat.zero_le _
    | succ n h_pos ih =>
      intro h_le
      obtain ⟨h_mem, h_index⟩ := ih (Nat.le_of_succ_le h_le)
      have h_sublist := h_grows n h_pos h_le
      have h_next := h_sublist.subset h_mem
      have h_moved := idxOf_le_of_sublist h_sublist (h_nodup (n + 1) (Nat.le_succ_of_le h_pos) h_le)
        h_mem
      refine ⟨h_next, not_lt.mp fun h_lt =>
        h_none (n + 1) (Nat.le_succ_of_le h_pos) h_le (mem_slice h_next ?_ h_lt)⟩
      rw [Nat.add_sub_cancel]
      exact h_index.trans h_moved
  obtain ⟨h_mem, h_index⟩ := h_behind k h_k (Nat.le_refl k)
  exact absurd (List.idxOf_lt_length_of_mem h_mem) (not_lt.mpr (h_end.trans h_index))

end Grows

end Framework
