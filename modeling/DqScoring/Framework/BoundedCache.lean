import Mathlib.Data.List.Basic

/-!
# Bounded caches

A cache of a function as a list of entries in the order in which they are evicted. Whatever the
eviction order, a cache is transparent as long as its entries are entries of the function
(`Caches`), and it does not grow beyond its capacity when a full one gives up an entry first.
-/

namespace Framework

variable {κ β : Type*} [DecidableEq κ]

/-- The cache with the entry of a key that is there moved to the end. -/
def moveToEnd (key : κ) (cache : List (κ × β)) : List (κ × β) :=
  match cache.lookup key with
  | some v => cache.filter (fun entry => entry.1 ≠ key) ++ [(key, v)]
  | none => cache

/-- The cache with an entry for a new key; a full cache gives up its first entry. -/
def insertEvicting (capacity : ℕ) (key : κ) (v : β) (cache : List (κ × β)) : List (κ × β) :=
  (if capacity ≤ cache.length then cache.tail else cache) ++ [(key, v)]

/-- The cache with another value for the entries of a key. -/
def replaceValue (key : κ) (v : β) (cache : List (κ × β)) : List (κ × β) :=
  cache.map fun entry => if entry.1 = key then (key, v) else entry

/-- The entries satisfy a relation of keys and values. -/
def Caches (R : κ → β → Prop) (cache : List (κ × β)) : Prop :=
  ∀ entry ∈ cache, R entry.1 entry.2

variable {R : κ → β → Prop} {cache : List (κ × β)} {key : κ} {v : β} {capacity : ℕ}

theorem mem_of_lookup (h : cache.lookup key = some v) : (key, v) ∈ cache := by
  obtain ⟨before, after, h_cache, _⟩ := List.lookup_eq_some_iff.mp h
  rw [h_cache]
  exact List.mem_append_right before List.mem_cons_self

/-- What a sound cache answers is right. -/
theorem Caches.lookup (h : Caches R cache) (h_lookup : cache.lookup key = some v) : R key v :=
  h (key, v) (mem_of_lookup h_lookup)

omit [DecidableEq κ] in
theorem caches_nil : Caches R ([] : List (κ × β)) := nofun

omit [DecidableEq κ] in
/-- A right entry keeps the cache sound. -/
theorem Caches.append_singleton {entries : List (κ × β)} (h : Caches R entries) (h_new : R key v) :
    Caches R (entries ++ [(key, v)]) := by
  intro entry h_entry
  rcases List.mem_append.mp h_entry with h_old | h_last
  · exact h entry h_old
  · rw [List.mem_singleton.mp h_last]
    exact h_new

/-- Moving an entry to the end keeps the cache sound. -/
theorem Caches.moveToEnd (h : Caches R cache) (key : κ) : Caches R (moveToEnd key cache) := by
  unfold Framework.moveToEnd
  cases h_lookup : cache.lookup key with
  | none => exact h
  | some v =>
    have h_others : Caches R (cache.filter fun entry => entry.1 ≠ key) :=
      fun entry h_entry => h entry (List.mem_of_mem_filter h_entry)
    exact h_others.append_singleton (h.lookup h_lookup)

omit [DecidableEq κ] in
/-- A right insert keeps the cache sound, whatever it evicts. -/
theorem Caches.insertEvicting (h : Caches R cache) (h_new : R key v) (capacity : ℕ) :
    Caches R (insertEvicting capacity key v cache) := by
  refine Caches.append_singleton ?_ h_new
  split
  · exact fun entry h_entry => h entry (List.mem_of_mem_tail h_entry)
  · exact h

/-- A right replacement keeps the cache sound. -/
theorem Caches.replaceValue (h : Caches R cache) (h_new : R key v) :
    Caches R (replaceValue key v cache) := by
  intro entry h_entry
  obtain ⟨old, h_old, rfl⟩ := List.mem_map.mp h_entry
  split
  · exact h_new
  · exact h old h_old

omit [DecidableEq κ] in
/-- A cache that is sound for a relation is so for a weaker one. -/
theorem Caches.mono {R' : κ → β → Prop} (h : Caches R cache) (h_imp : ∀ key v, R key v → R' key v) :
    Caches R' cache :=
  fun entry h_entry => h_imp _ _ (h entry h_entry)

/-- The entry that is moved was there before. -/
theorem length_moveToEnd_le (key : κ) (cache : List (κ × β)) :
    (moveToEnd key cache).length ≤ cache.length := by
  unfold moveToEnd
  cases h_lookup : cache.lookup key with
  | none => exact Nat.le_refl _
  | some v =>
    have h_less : (cache.filter fun entry => entry.1 ≠ key).length < cache.length :=
      List.length_filter_lt_length_iff_exists.mpr
        ⟨(key, v), mem_of_lookup h_lookup, by simp⟩
    rw [List.length_append]
    exact h_less

omit [DecidableEq κ] in
/-- An insert never exceeds the capacity. -/
theorem length_insertEvicting_le (h_capacity : 0 < capacity) (h : cache.length ≤ capacity)
    (key : κ) (v : β) : (insertEvicting capacity key v cache).length ≤ capacity := by
  unfold insertEvicting
  rw [List.length_append, List.length_singleton]
  split
  case isTrue =>
    rw [List.length_tail]
    omega
  case isFalse h_room => omega

theorem length_replaceValue (key : κ) (v : β) (cache : List (κ × β)) :
    (replaceValue key v cache).length = cache.length := List.length_map _

end Framework
