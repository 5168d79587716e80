import Mathlib.Data.List.Basic
import Mathlib.Data.List.Nodup

/-!
# Tables with a primary key

A table is a list of rows whose keys are distinct: the primary key is part of the
type, so that no operation can produce a duplicate. The operations are those of a
relational store: look a row up by key, insert a row (refused on a duplicate key),
update the rows a condition selects, and count them.

A condition that fixes the key selects at most one row, and `rowCount_of_key` says
which. `find?_updateWhere` and `find?_of_insert` are how a caller reads a table after
an operation; no proof about a program needs the list of rows for that.
-/

namespace Framework

variable {ρ κ : Type*} [DecidableEq κ]

/-- A table with primary key `key`. -/
structure Table (key : ρ → κ) where
  rows : List ρ
  nodup_keys : (rows.map key).Nodup

namespace Table

variable {key : ρ → κ}

/-- The table without rows. -/
def empty : Table key := ⟨[], List.nodup_nil⟩

/-- The row of a key. -/
def find? (t : Table key) (k : κ) : Option ρ := t.rows.find? fun r => key r = k

/-- Insert a row, unless its key is taken. -/
def insert (t : Table key) (r : ρ) : Option (Table key) :=
  if h : key r ∈ t.rows.map key then none
  else some ⟨t.rows ++ [r], by
    rw [List.map_append, List.map_singleton, List.nodup_append_comm]
    exact List.nodup_cons.mpr ⟨h, t.nodup_keys⟩⟩

/-- Update the rows selected by a condition, keeping their keys. -/
def updateWhere (t : Table key) (p : ρ → Bool) (f : ρ → ρ) (hf : ∀ r, key (f r) = key r) :
    Table key :=
  ⟨t.rows.map fun r => if p r then f r else r, by
    have h_keys : (t.rows.map fun r => if p r then f r else r).map key = t.rows.map key := by
      rw [List.map_map]
      refine List.map_congr_left fun r _ => ?_
      cases h : p r with
      | false => simp [h]
      | true => simp [h, hf]
    rw [h_keys]
    exact t.nodup_keys⟩

/-- Update the row of a key. -/
def update (t : Table key) (k : κ) (f : ρ → ρ) (hf : ∀ r, key (f r) = key r) : Table key :=
  t.updateWhere (fun r => decide (key r = k)) f hf

/-- `INSERT … ON CONFLICT DO NOTHING`. -/
def insertIfAbsent (t : Table key) (r : ρ) : Table key := (t.insert r).getD t

/-- `INSERT … ON CONFLICT DO UPDATE`. -/
def insertOrUpdate (t : Table key) (r : ρ) (f : ρ → ρ) (hf : ∀ r, key (f r) = key r) : Table key :=
  (t.insert r).getD (t.update (key r) f hf)

/-- Delete the rows selected by a condition. -/
def deleteWhere (t : Table key) (p : ρ → Bool) : Table key :=
  ⟨t.rows.filter fun r => !p r,
    (List.Sublist.map key List.filter_sublist).nodup t.nodup_keys⟩

/-- The number of rows a condition selects. -/
def rowCount (t : Table key) (p : ρ → Bool) : ℕ := t.rows.countP p

/-! ### Lookup -/

/-- A key finds the row that carries it. -/
theorem find?_eq_some_iff {t : Table key} {k : κ} {r : ρ} :
    t.find? k = some r ↔ r ∈ t.rows ∧ key r = k := by
  constructor
  · intro h
    exact ⟨List.mem_of_find?_eq_some h, by simpa using List.find?_some h⟩
  · rintro ⟨hr, rfl⟩
    cases h : t.find? (key r) with
    | none =>
      have h_absent := List.find?_eq_none.mp h r hr
      simp at h_absent
    | some r' =>
      -- keys are distinct, so the row found is the row
      have hr' : r' ∈ t.rows := List.mem_of_find?_eq_some h
      have h_key : key r' = key r := by simpa using List.find?_some h
      rw [List.inj_on_of_nodup_map t.nodup_keys hr' hr h_key]

/-- A key finds nothing when no row carries it. -/
theorem find?_eq_none_iff {t : Table key} {k : κ} :
    t.find? k = none ↔ ∀ r ∈ t.rows, key r ≠ k := by
  rw [find?, List.find?_eq_none]
  simp

/-- A condition that fixes the key finds the row of the key, if the row meets it. -/
theorem find?_rows_eq_some {t : Table key} {k : κ} {r : ρ} {p : ρ → Bool}
    (h : t.find? k = some r) (h_meets : p r = true) (h_key : ∀ x, p x = true → key x = k) :
    t.rows.find? p = some r := by
  obtain ⟨h_mem, h_eq⟩ := find?_eq_some_iff.mp h
  cases h_found : t.rows.find? p with
  | none => exact absurd h_meets (List.find?_eq_none.mp h_found r h_mem)
  | some r' =>
    -- keys are distinct, so the row found is the row
    have h_mem' : r' ∈ t.rows := List.mem_of_find?_eq_some h_found
    have h_eq' : key r' = k := h_key r' (List.find?_some h_found)
    rw [List.inj_on_of_nodup_map t.nodup_keys h_mem' h_mem (h_eq'.trans h_eq.symm)]

@[simp] theorem find?_empty (k : κ) : (empty : Table key).find? k = none := rfl

/-- An update of the rows that match, key by key. -/
theorem find?_updateWhere (t : Table key) (p : ρ → Bool) (f : ρ → ρ)
    (hf : ∀ r, key (f r) = key r) (k : κ) :
    (t.updateWhere p f hf).find? k = (t.find? k).map fun r => if p r then f r else r := by
  have h_key : ∀ r, key (if p r then f r else r) = key r := by
    intro r
    split
    · exact hf r
    · rfl
  cases h : t.find? k with
  | none =>
    rw [Option.map_none, find?_eq_none_iff]
    intro r hr
    obtain ⟨r', hr', rfl⟩ := List.mem_map.mp hr
    rw [h_key]
    exact find?_eq_none_iff.mp h r' hr'
  | some r =>
    obtain ⟨hr, rfl⟩ := find?_eq_some_iff.mp h
    rw [Option.map_some, find?_eq_some_iff]
    exact ⟨List.mem_map_of_mem hr, h_key r⟩

/-- An update changes the row of its key only. -/
@[simp] theorem find?_update (t : Table key) (k : κ) (f : ρ → ρ) (hf : ∀ r, key (f r) = key r)
    (k' : κ) :
    (t.update k f hf).find? k' = if k' = k then (t.find? k).map f else t.find? k' := by
  rw [update, find?_updateWhere]
  cases h : t.find? k' with
  | none =>
    by_cases hk : k' = k
    · subst hk
      rw [if_pos rfl, h]
      rfl
    · rw [if_neg hk]
      rfl
  | some r =>
    have h_key : key r = k' := (find?_eq_some_iff.mp h).2
    by_cases hk : k' = k
    · subst hk
      rw [if_pos rfl, h, Option.map_some, Option.map_some, if_pos (decide_eq_true h_key)]
    · have h_other : ¬ decide (key r = k) = true := fun h_sel =>
        hk (h_key.symm.trans (of_decide_eq_true h_sel))
      rw [if_neg hk, Option.map_some, if_neg h_other]

/-- What an insertion does to the lookups, and that the key was free. -/
theorem find?_of_insert {t t' : Table key} {r : ρ} (h : t.insert r = some t') (k : κ) :
    t'.find? k = if k = key r then some r else t.find? k := by
  unfold insert at h
  split at h
  case isTrue => cases h
  case isFalse h_free =>
    obtain rfl := Option.some.inj h
    by_cases hk : k = key r
    · subst hk
      rw [if_pos rfl, find?_eq_some_iff]
      exact ⟨List.mem_append_right _ List.mem_cons_self, rfl⟩
    · -- the new row is the last and has another key
      have h_last : [r].find? (fun r => decide (key r = k)) = none := by
        rw [List.find?_eq_none]
        simp [Ne.symm hk]
      rw [if_neg hk, find?, find?, List.find?_append, h_last, Option.or_none]

/-- An insert needs a new key. -/
theorem find?_none_of_insert {t t' : Table key} {r : ρ} (h : t.insert r = some t') :
    t.find? (key r) = none := by
  unfold insert at h
  split at h
  case isTrue => cases h
  case isFalse h_free =>
    rw [find?_eq_none_iff]
    intro r' hr' h_key
    exact h_free (List.mem_map.mpr ⟨r', hr', h_key⟩)

/-- An insert appends its row. -/
theorem rows_of_insert {t t' : Table key} {r : ρ} (h : t.insert r = some t') :
    t'.rows = t.rows ++ [r] := by
  unfold insert at h
  split at h
  case isTrue => cases h
  case isFalse h_free =>
    obtain rfl := Option.some.inj h
    rfl

/-- An insert that gives way to a row of its key. -/
theorem find?_insertIfAbsent (t : Table key) (r : ρ) (k : κ) :
    (t.insertIfAbsent r).find? k = if k = key r then some ((t.find? k).getD r) else t.find? k := by
  rw [insertIfAbsent]
  cases h : t.insert r with
  | some t' =>
    rw [Option.getD_some, find?_of_insert h]
    by_cases hk : k = key r
    · rw [if_pos hk, if_pos hk, hk, find?_none_of_insert h, Option.getD_none]
    · rw [if_neg hk, if_neg hk]
  | none =>
    rw [Option.getD_none]
    by_cases hk : k = key r
    · -- the key is taken
      rw [if_pos hk, hk]
      cases h_find : t.find? (key r) with
      | some r' => rfl
      | none =>
        have h_free : key r ∉ t.rows.map key := by
          intro h_mem
          obtain ⟨r', hr', h_key⟩ := List.mem_map.mp h_mem
          exact find?_eq_none_iff.mp h_find r' hr' h_key
        rw [insert, dif_neg h_free] at h
        cases h
    · rw [if_neg hk]

/-! ### Row counts -/

/-- A condition on one key selects the row of that key, or nothing. -/
theorem rowCount_of_key (t : Table key) {p : ρ → Bool} {k : κ}
    (hp : ∀ r, p r = true → key r = k) :
    t.rowCount p = if (t.find? k).any p then 1 else 0 := by
  -- the rows selected are the row found, if it is selected
  have h_filter : t.rows.filter p = ((t.find? k).filter p).toList := by
    cases h : t.find? k with
    | none =>
      refine List.filter_eq_nil_iff.mpr fun r hr h_sel => ?_
      exact find?_eq_none_iff.mp h r hr (hp r h_sel)
    | some r =>
      obtain ⟨hr, rfl⟩ := find?_eq_some_iff.mp h
      have h_only : ∀ r' ∈ t.rows, p r' = true → r' = r := fun r' hr' h_sel =>
        List.inj_on_of_nodup_map t.nodup_keys hr' hr (hp r' h_sel)
      have h_nodup : t.rows.Nodup := List.Nodup.of_map key t.nodup_keys
      cases h_sel : p r with
      | false =>
        rw [Option.filter_some, h_sel]
        refine List.filter_eq_nil_iff.mpr fun r' hr' h_sel' => ?_
        rw [h_only r' hr' h_sel', h_sel] at h_sel'
        cases h_sel'
      | true =>
        rw [Option.filter_some, h_sel]
        refine List.perm_singleton.mp ?_
        rw [List.perm_ext_iff_of_nodup (h_nodup.filter p) (List.nodup_singleton r)]
        intro r'
        rw [List.mem_filter, List.mem_singleton]
        exact ⟨fun h' => h_only r' h'.1 h'.2, fun h' => h' ▸ ⟨hr, h_sel⟩⟩
  rw [rowCount, List.countP_eq_length_filter, h_filter]
  cases t.find? k with
  | none => rfl
  | some r => cases h : p r <;> simp [h]

/-- A condition on one key that selects something selects the row of that key. -/
theorem exists_of_rowCount_ne_zero {t : Table key} {p : ρ → Bool} {k : κ}
    (hp : ∀ r, p r = true → key r = k) (h : t.rowCount p ≠ 0) :
    ∃ r, t.find? k = some r ∧ p r = true := by
  rw [rowCount_of_key t hp] at h
  cases h_find : t.find? k with
  | none =>
    rw [h_find] at h
    exact absurd rfl h
  | some r =>
    refine ⟨r, rfl, ?_⟩
    by_contra h_sel
    rw [h_find, Option.any_some, if_neg h_sel] at h
    exact absurd rfl h

/-- After an update of one key every other key has its row still. -/
theorem find?_updateWhere_of_key {t : Table key} {p : ρ → Bool} {f : ρ → ρ}
    (hf : ∀ r, key (f r) = key r) {k : κ} {r : ρ} (hp : ∀ r, p r = true → key r = k)
    (h : t.find? k = some r) (h_sel : p r = true) (k' : κ) :
    (t.updateWhere p f hf).find? k' = if k' = k then some (f r) else t.find? k' := by
  rw [find?_updateWhere]
  by_cases hk : k' = k
  · subst hk
    rw [if_pos rfl, h, Option.map_some, if_pos h_sel]
  · rw [if_neg hk]
    cases h' : t.find? k' with
    | none => rfl
    | some r' =>
      -- a row that is selected has the key `k`, and this one has another
      have h_key : key r' = k' := (find?_eq_some_iff.mp h').2
      have h_unsel : ¬ p r' = true := fun h_sel' => hk (h_key.symm.trans (hp r' h_sel'))
      rw [Option.map_some, if_neg h_unsel]

omit [DecidableEq κ] in
/-- Updating no row changes nothing. -/
theorem updateWhere_of_rowCount_eq_zero {t : Table key} {p : ρ → Bool} {f : ρ → ρ}
    (hf : ∀ r, key (f r) = key r) (h : t.rowCount p = 0) : t.updateWhere p f hf = t := by
  have h_none : ∀ r ∈ t.rows, ¬ p r = true := List.countP_eq_zero.mp h
  have h_rows : (t.rows.map fun r => if p r then f r else r) = t.rows := by
    rw [List.map_congr_left fun r hr => if_neg (h_none r hr), List.map_id']
  unfold updateWhere
  simp only [h_rows]

/-- An update of a key that has no row changes nothing. -/
theorem update_of_find?_eq_none {t : Table key} {k : κ} {f : ρ → ρ} (hf : ∀ r, key (f r) = key r)
    (h : t.find? k = none) : t.update k f hf = t := by
  refine updateWhere_of_rowCount_eq_zero hf (List.countP_eq_zero.mpr fun r h_r => ?_)
  rw [decide_eq_true_eq]
  exact find?_eq_none_iff.mp h r h_r

/-- To insert a row and update it is to insert the updated row. -/
theorem insert_update {t t' : Table key} {r : ρ} {f : ρ → ρ} (hf : ∀ r, key (f r) = key r)
    (h : t.insert r = some t') : t.insert (f r) = some (t'.update (key r) f hf) := by
  have h_free : key (f r) ∉ t.rows.map key := by
    rw [hf]
    intro h_mem
    obtain ⟨r', h_r', h_key⟩ := List.mem_map.mp h_mem
    exact find?_eq_none_iff.mp (find?_none_of_insert h) r' h_r' h_key
  have h_rows : (t'.update (key r) f hf).rows = t.rows ++ [f r] := by
    show t'.rows.map (fun r' => if decide (key r' = key r) then f r' else r') = _
    rw [rows_of_insert h, List.map_append, List.map_singleton, if_pos (decide_eq_true rfl)]
    -- no earlier row has the key
    have h_old : ∀ r' ∈ t.rows, (if decide (key r' = key r) then f r' else r') = r' := by
      intro r' h_r'
      have h_ne := find?_eq_none_iff.mp (find?_none_of_insert h) r' h_r'
      rw [if_neg (by simpa using h_ne)]
    rw [List.map_congr_left h_old, List.map_id']
  rw [insert, dif_neg h_free]
  generalize h_t : t'.update (key r) f hf = t'' at h_rows
  obtain ⟨rows, h_nodup⟩ := t''
  simp only [Option.some.injEq, Table.mk.injEq]
  exact h_rows.symm

/-! ### Partial unique indexes -/

section UniqueIndex

variable {ι : Type*} [DecidableEq ι]

/-- No two rows have one key in an index; a row without an index key is not in the index. -/
def HasUniqueIndex (t : Table key) (indexKey : ρ → Option ι) : Prop :=
  (t.rows.filterMap indexKey).Nodup

instance (t : Table key) (indexKey : ρ → Option ι) : Decidable (t.HasUniqueIndex indexKey) :=
  inferInstanceAs (Decidable (List.Nodup _))

omit [DecidableEq κ] [DecidableEq ι] in
/-- Rows that share an index key are one row. -/
theorem HasUniqueIndex.eq_of_mem {t : Table key} {indexKey : ρ → Option ι}
    (h : t.HasUniqueIndex indexKey) {r r' : ρ} {k : ι} (hr : r ∈ t.rows) (hr' : r' ∈ t.rows)
    (hk : indexKey r = some k) (hk' : indexKey r' = some k) : r = r' := by
  unfold HasUniqueIndex at h
  generalize t.rows = rows at h hr hr'
  induction rows with
  | nil => cases hr
  | cons x rows ih =>
    -- if the first row has the key, no later row has it
    have h_first : ∀ y ∈ rows, indexKey x = some k → indexKey y ≠ some k := by
      intro y hy hx hy'
      rw [List.filterMap_cons_some hx] at h
      exact (List.nodup_cons.mp h).1 (List.mem_filterMap.mpr ⟨y, hy, hy'⟩)
    have h_rest : (rows.filterMap indexKey).Nodup := by
      cases hx : indexKey x with
      | none => rwa [List.filterMap_cons_none hx] at h
      | some b =>
        rw [List.filterMap_cons_some hx] at h
        exact (List.nodup_cons.mp h).2
    rcases List.mem_cons.mp hr with rfl | h_mem
    · rcases List.mem_cons.mp hr' with rfl | h_mem'
      · rfl
      · exact absurd hk' (h_first r' h_mem' hk)
    · rcases List.mem_cons.mp hr' with rfl | h_mem'
      · exact absurd hk (h_first r h_mem hk')
      · exact ih h_rest h_mem h_mem'

omit [DecidableEq ι] in
/-- An update that leaves the index keys of its row, or takes it out of the index. -/
theorem HasUniqueIndex.update {t : Table key} {indexKey : ρ → Option ι}
    (h : t.HasUniqueIndex indexKey) {k : κ} {f : ρ → ρ} (hf : ∀ r, key (f r) = key r)
    (h_index : ∀ r, t.find? k = some r → indexKey (f r) = indexKey r ∨ indexKey (f r) = none) :
    (t.update k f hf).HasUniqueIndex indexKey := by
  have h_row : ∀ r ∈ t.rows, key r = k → indexKey (f r) = indexKey r ∨ indexKey (f r) = none :=
    fun r h_r h_key => h_index r (find?_eq_some_iff.mpr ⟨h_r, h_key⟩)
  have h_sublist : ∀ rows : List ρ,
      (∀ r ∈ rows, key r = k → indexKey (f r) = indexKey r ∨ indexKey (f r) = none) →
      List.Sublist ((rows.map fun r => if decide (key r = k) then f r else r).filterMap indexKey)
        (rows.filterMap indexKey) := by
    intro rows h_rows
    induction rows with
    | nil => exact List.Sublist.refl _
    | cons r rows ih =>
      have h_rest := ih fun r' h_r' => h_rows r' (List.mem_cons_of_mem r h_r')
      have h_same : indexKey (if decide (key r = k) then f r else r) = indexKey r ∨
          indexKey (if decide (key r = k) then f r else r) = none := by
        by_cases h_key : key r = k
        · rw [if_pos (decide_eq_true h_key)]
          exact h_rows r List.mem_cons_self h_key
        · rw [if_neg (by simpa using h_key)]
          exact .inl rfl
      rw [List.map_cons, List.filterMap_cons, List.filterMap_cons]
      rcases h_same with h_eq | h_none
      · rw [h_eq]
        cases indexKey r with
        | none => exact h_rest
        | some x => exact h_rest.cons_cons x
      · rw [h_none]
        cases indexKey r with
        | none => exact h_rest
        | some x => exact h_rest.cons x
  exact h.sublist (h_sublist t.rows h_row)

end UniqueIndex

end Table

end Framework
