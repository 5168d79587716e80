import Mathlib.Data.List.MinMax
import Mathlib.Data.List.Sort
import Mathlib.Data.Finset.Image
import Mathlib.Data.List.Perm.Basic

/-!
# Sorting sets and keyed lists

Two sorting operations of a language with built-in sorting, computed by
structural recursion so that they evaluate: the ascending list of a finite set
(`sortedSet`) and the stable ascending sort of a list by a key (`sortByKey`).
Both forget the order in which their argument was produced: `sortedSet` always,
`sortByKey` as soon as the keys are distinct (`sortByKey_perm`).
-/

namespace Framework

variable {β γ : Type*} [LinearOrder β]

/-- The elements of a finite set in ascending order. -/
def sortedSet (s : Finset β) : List β :=
  Quot.liftOn s.val (List.insertionSort (· ≤ ·)) fun l l' h =>
    (((List.perm_insertionSort _ l).trans h).trans
      (List.perm_insertionSort _ l').symm).eq_of_pairwise'
      (List.pairwise_insertionSort _ l) (List.pairwise_insertionSort _ l')

theorem sortedSet_perm (s : Finset β) : (sortedSet s : Multiset β) = s.val := by
  obtain ⟨m, hm⟩ := s
  induction m using Quot.ind with
  | mk l => exact Multiset.coe_eq_coe.mpr (List.perm_insertionSort _ l)

/-- A sorted set has the elements of the set. -/
@[simp] theorem mem_sortedSet {s : Finset β} {x : β} : x ∈ sortedSet s ↔ x ∈ s := by
  rw [← Multiset.mem_coe, sortedSet_perm, Finset.mem_val]

/-- A sorted set lists each element once. -/
theorem nodup_sortedSet (s : Finset β) : (sortedSet s).Nodup := by
  rw [← Multiset.coe_nodup, sortedSet_perm]
  exact s.nodup

/-- A sorted set is in order. -/
theorem pairwise_sortedSet (s : Finset β) : (sortedSet s).Pairwise (· ≤ ·) := by
  obtain ⟨m, hm⟩ := s
  induction m using Quot.ind with
  | mk l => exact List.pairwise_insertionSort _ l

/-- Two sets that agree below a predicate have the same sorted list below it. -/
theorem filter_sortedSet_congr {s t : Finset β} {p : β → Bool}
    (h : ∀ x, p x = true → (x ∈ s ↔ x ∈ t)) :
    (sortedSet s).filter p = (sortedSet t).filter p := by
  have h_sorted : ∀ u : Finset β, ((sortedSet u).filter p).Pairwise (· ≤ ·) :=
    fun u => (pairwise_sortedSet u).filter p
  -- two sorted lists with the same members, each once
  refine List.Perm.eq_of_pairwise' (h_sorted s) (h_sorted t) ?_
  rw [List.perm_ext_iff_of_nodup ((nodup_sortedSet s).filter p) ((nodup_sortedSet t).filter p)]
  intro x
  rw [List.mem_filter, List.mem_filter, mem_sortedSet, mem_sortedSet]
  exact and_congr_left fun hx => h x hx

/-- The stable ascending sort of a list by a key. -/
def sortByKey (key : γ → β) (l : List γ) : List γ :=
  l.insertionSort fun a b => key a ≤ key b

/-- Sorting permutes. -/
theorem perm_sortByKey (key : γ → β) (l : List γ) : (sortByKey key l).Perm l :=
  List.perm_insertionSort _ l

/-- Sorting by distinct keys gives one list for all orders of the input. -/
theorem sortByKey_perm {key : γ → β} {l l' : List γ} (h : l.Perm l')
    (h_nodup : (l.map key).Nodup) : sortByKey key l = sortByKey key l' := by
  have h_perm : (sortByKey key l).Perm (sortByKey key l') :=
    ((perm_sortByKey key l).trans h).trans (perm_sortByKey key l').symm
  -- equal keys are keys of one item, so the order is antisymmetric on the items of the list
  refine h_perm.eq_of_pairwise ?_ (List.pairwise_insertionSort (fun a b => key a ≤ key b) l)
    (List.pairwise_insertionSort (fun a b => key a ≤ key b) l')
  intro a b ha hb hab hba
  have ha' : a ∈ l := (perm_sortByKey key l).mem_iff.mp ha
  have hb' : b ∈ l := h.mem_iff.mpr ((perm_sortByKey key l').mem_iff.mp hb)
  exact List.inj_on_of_nodup_map h_nodup ha' hb' (le_antisymm hab hba)

/-- Two items with other keys are inserted in either order. -/
theorem orderedInsert_comm {key : γ → β} {a b : γ} (h : key a < key b) (l : List γ) :
    (l.orderedInsert (fun x y => key x ≤ key y) b).orderedInsert (fun x y => key x ≤ key y) a =
      (l.orderedInsert (fun x y => key x ≤ key y) a).orderedInsert
        (fun x y => key x ≤ key y) b := by
  have h_not : ¬ key b ≤ key a := not_le.mpr h
  induction l with
  | nil => simp [h.le, h_not]
  | cons c l ih =>
    by_cases h_b : key b ≤ key c
    · -- both stop before `c`
      have h_a : key a ≤ key c := h.le.trans h_b
      simp [h_b, h_a, h.le, h_not]
    · by_cases h_a : key a ≤ key c
      · simp [h_b, h_a, h_not]
      · simp [h_b, h_a, ih]

/-- The same holds when other items follow, whatever their keys are: the sort is stable. -/
theorem sortByKey_append_perm {key : γ → β} {l l' : List γ} (h : l.Perm l')
    (h_nodup : (l.map key).Nodup) (rest : List γ) :
    sortByKey key (l ++ rest) = sortByKey key (l' ++ rest) := by
  have h_foldr : ∀ l : List γ, sortByKey key (l ++ rest) =
      l.foldr (List.orderedInsert fun x y => key x ≤ key y) (sortByKey key rest) :=
    fun l => List.foldr_append
  rw [h_foldr, h_foldr]
  refine h.foldr_eq' ?_ _
  intro a h_a b h_b sorted
  rcases lt_trichotomy (key a) (key b) with h_lt | h_eq | h_lt
  · exact (orderedInsert_comm h_lt sorted).symm
  · rw [List.inj_on_of_nodup_map h_nodup h_a h_b h_eq]
  · exact orderedInsert_comm h_lt sorted

/-- Sorting commutes with a map that keeps the keys. -/
theorem sortByKey_map {key : γ → β} {f : γ → γ} (h : ∀ x, key (f x) = key x) (l : List γ) :
    sortByKey key (l.map f) = (sortByKey key l).map f := by
  unfold sortByKey
  rw [List.map_insertionSort (fun a b => key a ≤ key b) (fun a b => key a ≤ key b) f l]
  intro a _ b _
  rw [h a, h b]

/-- The greatest element of an ascending list is its last one. -/
theorem argmax_eq_getLast? {α δ : Type*} [Preorder δ] [DecidableLT δ] {f : α → δ} {l : List α}
    (h : l.Pairwise fun a b => f a < f b) : l.argmax f = l.getLast? := by
  induction l using List.reverseRecOn with
  | nil => rfl
  | append_singleton l a ih =>
    rw [List.argmax_concat, List.getLast?_concat]
    rw [List.pairwise_append] at h
    cases h_max : l.argmax f with
    | none => rfl
    | some c => exact if_pos (h.2.2 c (List.argmax_mem h_max) a List.mem_cons_self)

end Framework
