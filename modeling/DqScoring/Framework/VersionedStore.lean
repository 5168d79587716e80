import Mathlib.Data.List.Infix
import Mathlib.Data.List.Nodup
import Mathlib.Order.Basic

/-!
# Versioned stores

A store that keeps all versions of the object of a key: a write adds a version with a new id, a
deletion adds a marker, and nothing that was stored changes. `History` is what such a store goes
through while many write to it, and `Grows` what it keeps from any time to any later one.

Two facts carry over time. A version has the same content for ever (`Grows.content`), and a version
that is the current one at two times was so all the time between (`Grows.between`): it cannot have
been replaced and come back.
-/

namespace Framework

variable {κ ν β : Type*}

/-- The versions of each key, the newest first; a version without content is a deletion. -/
structure VersionedStore (κ ν β : Type*) where
  versions : κ → List (ν × Option β)
  nodup : ∀ k, ((versions k).map Prod.fst).Nodup

namespace VersionedStore

/-- The version that a reader without an id finds. -/
def current (s : VersionedStore κ ν β) (k : κ) : Option (ν × Option β) := (s.versions k).head?

/-- The content of a version. -/
def content [DecidableEq ν] (s : VersionedStore κ ν β) (k : κ) (v : ν) : Option β :=
  ((s.versions k).lookup v).join

/-- The store has been written to, and no version was removed. -/
def Grows (s s' : VersionedStore κ ν β) : Prop := ∀ k, s.versions k <:+ s'.versions k

/-- A write, or with no content a deletion. -/
def put [DecidableEq κ] (s : VersionedStore κ ν β) (k : κ) (v : ν) (b : Option β)
    (h : v ∉ (s.versions k).map Prod.fst) : VersionedStore κ ν β where
  -- a version that is there is never replaced
  versions k' := if k' = k then (v, b) :: s.versions k else s.versions k'
  nodup k' := by
    by_cases h_key : k' = k
    · rw [if_pos h_key]
      exact List.nodup_cons.mpr ⟨h, s.nodup k⟩
    · rw [if_neg h_key]
      exact s.nodup k'

/-- A new version leaves the old ones. -/
theorem grows_put [DecidableEq κ] (s : VersionedStore κ ν β) (k : κ) (v : ν) (b : Option β)
    (h : v ∉ (s.versions k).map Prod.fst) : s.Grows (s.put k v b h) := by
  intro k'
  show _ <:+ if k' = k then _ else _
  by_cases h_key : k' = k
  · rw [if_pos h_key, h_key]
    exact List.suffix_cons ..
  · rw [if_neg h_key]

namespace Grows

variable {s s' s'' : VersionedStore κ ν β} {k : κ}

theorem refl (s : VersionedStore κ ν β) : s.Grows s := fun _ => List.suffix_refl _

theorem trans (h : s.Grows s') (h' : s'.Grows s'') : s.Grows s'' :=
  fun k => (h k).trans (h' k)

/-- A version keeps its content. -/
theorem content [DecidableEq ν] (h : s.Grows s') {v : ν} {b : β} (h_b : s.content k v = some b) :
    s'.content k v = some b := by
  obtain ⟨newer, h_newer⟩ := h k
  have h_lookup : (s.versions k).lookup v = some (some b) := Option.join_eq_some_iff.mp h_b
  have h_mem : v ∈ (s.versions k).map Prod.fst := by
    obtain ⟨l₁, l₂, h_split, -⟩ := List.lookup_eq_some_iff.mp h_lookup
    rw [h_split]
    simp
  -- the newer versions have other ids
  have h_nodup := s'.nodup k
  rw [← h_newer, List.map_append, List.nodup_append] at h_nodup
  have h_other : newer.lookup v = none := by
    rw [List.lookup_eq_none_iff]
    intro entry h_entry
    have h_ne := h_nodup.2.2 _ (List.mem_map_of_mem h_entry) _ h_mem
    simpa using h_ne.symm
  unfold VersionedStore.content
  rw [← h_newer, List.lookup_append, h_other, Option.none_or, h_lookup]
  rfl

/-- The current version is not one of those that were there before, unless nothing was written. -/
theorem versions_eq (h : s.Grows s') {v : ν} {entry entry' : Option β}
    (h_before : s.current k = some (v, entry)) (h_after : s'.current k = some (v, entry')) :
    s'.versions k = s.versions k := by
  obtain ⟨newer, h_newer⟩ := h k
  cases newer with
  | nil => exact h_newer.symm
  | cons x newer =>
    -- the newest version has the id of an old one
    have h_x : x = (v, entry') := by
      unfold VersionedStore.current at h_after
      rw [← h_newer] at h_after
      exact Option.some.inj h_after
    have h_old : v ∈ (s.versions k).map Prod.fst :=
      List.mem_map.mpr ⟨_, List.mem_of_head? h_before, rfl⟩
    have h_nodup := s'.nodup k
    rw [← h_newer, List.cons_append, List.map_cons, List.nodup_cons, h_x] at h_nodup
    refine absurd ?_ h_nodup.1
    rw [List.map_append]
    exact List.mem_append_right _ h_old

/-- What was the current version before and after was so all the time between. -/
theorem between (h : s.Grows s') (h' : s'.Grows s'') {v : ν} {entry entry' : Option β}
    (h_before : s.current k = some (v, entry)) (h_after : s''.current k = some (v, entry')) :
    s'.current k = some (v, entry) := by
  have h_same := (h.trans h').versions_eq h_before h_after
  have h_middle : s'.versions k = s.versions k := by
    refine (List.IsSuffix.eq_of_length_le (h k) ?_).symm
    rw [← h_same]
    exact (h' k).length_le
  unfold VersionedStore.current
  rw [h_middle]
  exact h_before

end Grows

/-- The current version, if it is not a deletion, has the content that its id leads to. -/
theorem content_of_current [DecidableEq ν] {s : VersionedStore κ ν β} {k : κ} {v : ν} {b : β}
    (h : s.current k = some (v, some b)) : s.content k v = some b := by
  unfold VersionedStore.current at h
  unfold VersionedStore.content
  cases h_versions : s.versions k with
  | nil =>
    rw [h_versions] at h
    cases h
  | cons x rest =>
    rw [h_versions] at h
    obtain rfl := Option.some.inj h
    rw [List.lookup_cons_self]
    rfl

end VersionedStore

/-! ### Histories -/

/-- A store over time, written to by anyone. -/
structure History (κ ν β : Type*) where
  store : ℕ → VersionedStore κ ν β
  grows : ∀ n, (store n).Grows (store (n + 1))

namespace History

variable {h : History κ ν β}

/-- A history only grows. -/
theorem grows_of_le (h : History κ ν β) {m n : ℕ} (h_le : m ≤ n) :
    (h.store m).Grows (h.store n) := by
  induction n, h_le using Nat.le_induction with
  | base => exact .refl _
  | succ n _ ih => exact ih.trans (h.grows n)

end History

end Framework
