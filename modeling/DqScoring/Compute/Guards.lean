import DqScoring.Compute.SparkCompute

/-!
# Guards of a compiled rule

The five conditions that `execute_rules` sums for a rule are the cascade of four guards:
not applicable, missing, miscast, failed (`CompiledRule.buckets_eq`). What the query does
with the rule is therefore decided by its guards alone: whether it raises
(`raises_cascade`), and whether every row is counted (`countP_cascade`).

`Behaves` says this of a rule in terms of its cells: the query cannot start, raises on a
cell, or loses a row. There is one lemma about it for every shape of guards that a
compiler builds.
-/

namespace DqScoring

open Framework.Kleene

/-! ### Columns in a cascade -/

namespace Column

variable {β γ δ : Type}

/-- The conditions of some guards in order of priority. -/
def cascade : List (Column Bool) → List (Column Bool)
  | [] => [.lit true]
  | g :: gs => g :: (cascade gs).map g.not.and

/-- How evaluating a cascade on a row fails: a guard is reached unless an earlier one is
true. -/
def cascadeFault : List (Column Bool) → Row → Option SparkFault
  | [], _ => none
  | g :: gs, row => (g.fault row).or (if g.value row = some true then none else cascadeFault gs row)

/-- Guards may be grouped in any way. -/
theorem and_assoc (a b c : Column Bool) : (a.and b).and c = a.and (b.and c) := by
  have h_value : ∀ x y : Option Bool,
      (and3 x y = some false) ↔ x = some false ∨ y = some false := by decide
  simp only [Column.and, Column.mk.injEq]
  -- expressions are equal when they start, fail and evaluate alike
  refine ⟨Option.or_assoc, funext fun row => ?_, funext fun row => and3_assoc _ _ _⟩
  by_cases h_a : a.value row = some false
  · -- the left side decides, so neither of the others is evaluated
    simp [h_a]
  · simp [h_value, h_a, Option.or_assoc]

@[simp] theorem and_lit_true (a : Column Bool) : a.and (.lit true) = a := by
  have h_value : ∀ x : Option Bool, and3 x (some true) = x := by decide
  simp [Column.and, lit, h_value]

/-- The values of a cascade are those of its three-valued conditions. -/
theorem values_cascade (gs : List (Column Bool)) (row : Row) :
    (cascade gs).map (·.value row) = Framework.Kleene.cascade (gs.map (·.value row)) := by
  induction gs with
  | nil => rfl
  | cons g gs ih =>
    rw [cascade, List.map_cons, List.map_map, List.map_cons, Framework.Kleene.cascade, ← ih,
      List.map_map]
    rfl

/-- A cascade starts when all its guards do. -/
theorem start_cascade (gs : List (Column Bool)) :
    (∀ b ∈ cascade gs, b.start = none) ↔ ∀ g ∈ gs, g.start = none := by
  induction gs with
  | nil => simp [cascade, lit]
  | cons g gs ih =>
    rw [cascade, List.forall_mem_cons, List.forall_mem_cons, ← ih]
    refine and_congr_right fun h_g => ?_
    simp [Column.and, Column.not, h_g]

/-- A cascade raises on a row where its guards do, in their order. -/
theorem fault_cascade (gs : List (Column Bool)) (row : Row) :
    (∀ b ∈ cascade gs, b.fault row = none) ↔ cascadeFault gs row = none := by
  induction gs with
  | nil => simp [cascade, cascadeFault, lit]
  | cons g gs ih =>
    rw [cascade, List.forall_mem_cons, cascadeFault, Option.or_eq_none_iff]
    refine and_congr_right fun h_g => ?_
    have h_not : not3 (g.value row) = some false ↔ g.value row = some true := by
      cases g.value row with
      | none => simp [not3]
      | some b => cases b <;> simp
    by_cases h_true : g.value row = some true
    · -- every later condition starts with the negation of this guard, which decides it
      simp [Column.and, Column.not, h_g, h_true]
    · -- otherwise every later condition is evaluated
      rw [if_neg h_true, ← ih]
      simp [Column.and, Column.not, h_g, h_not, h_true]

/-- A column raises nothing when it starts and raises on no row. -/
theorem raises_eq_none {c : Column β} {rows : List Row} :
    c.raises rows = none ↔ c.start = none ∧ ∀ row ∈ rows, c.fault row = none := by
  rw [raises, Option.or_eq_none_iff, List.findSome?_eq_none_iff]

/-- **When a cascade raises**: exactly when a guard cannot start, or a row fails before a
guard is true. -/
theorem raises_cascade (gs : List (Column Bool)) (rows : List Row) :
    (cascade gs).findSome? (·.raises rows) = none ↔
      (∀ g ∈ gs, g.start = none) ∧ ∀ row ∈ rows, cascadeFault gs row = none := by
  rw [List.findSome?_eq_none_iff, ← start_cascade]
  simp only [raises_eq_none, ← fault_cascade]
  -- what remains is the order of the quantifiers over the conditions and the rows
  constructor
  · intro h
    exact ⟨fun b hb => (h b hb).1, fun row h_row b hb => (h b hb).2 row h_row⟩
  · rintro ⟨h_start, h_fault⟩ b hb
    exact ⟨h_start b hb, fun row h_row => h_fault row h_row b hb⟩

/-- Guards that raise nothing make a cascade that raises nothing. -/
theorem cascadeFault_of_quiet {gs : List (Column Bool)} {row : Row}
    (h : ∀ g ∈ gs, g.fault row = none) : cascadeFault gs row = none := by
  induction gs with
  | nil => rfl
  | cons g gs ih =>
    rw [cascadeFault, h g List.mem_cons_self,
      ih fun g' h_g' => h g' (List.mem_cons_of_mem g h_g'), ite_self, Option.or_none]

end Column

/-! ### The guards -/

namespace CompiledRule

/-- The guards of a rule, in order of priority. -/
def guards (cr : CompiledRule) : List (Column Bool) :=
  [cr.isNa, cr.missingExpr, cr.miscastExpr, cr.isFailed]

/-- The summed conditions are the cascade of the guards. -/
theorem buckets_eq (cr : CompiledRule) : cr.buckets = Column.cascade cr.guards := by
  simp only [buckets, guards, Column.cascade, naBucket, missingBucket, miscastBucket, failedBucket,
    passedBucket, List.map_cons, List.map_nil, Column.and_lit_true, Column.and_assoc]

end CompiledRule

/-- What a query does with some guards: `start` says that it cannot start, `cellFault`
that it raises on a row with this cell, and `lost` that no condition counts the row. -/
structure Behaves (gs : List (Column Bool)) (target : String) (start : Prop)
    (cellFault lost : Option String → Prop) : Prop where
  start_iff : (∀ g ∈ gs, g.start = none) ↔ ¬ start
  fault_iff : ∀ row, Column.cascadeFault gs row = none ↔ ¬ cellFault (row.cell target)
  decided_iff : ∀ row, ¬ cellFault (row.cell target) →
    (decided (gs.map (·.value row)) = true ↔ ¬ lost (row.cell target))

/-- Guards that never fail on a row and are never NULL. -/
theorem Behaves.of_total {gs : List (Column Bool)} {target : String} {start : Prop}
    (h_start : (∀ g ∈ gs, g.start = none) ↔ ¬ start)
    (h_quiet : ∀ g ∈ gs, ∀ row, g.fault row = none)
    (h_total : ∀ g ∈ gs, ∀ row, (g.value row).isSome = true) :
    Behaves gs target start (fun _ => False) (fun _ => False) where
  start_iff := h_start
  fault_iff := fun row => by
    simp [Column.cascadeFault_of_quiet fun g h_g => h_quiet g h_g row]
  decided_iff := fun row _ => by
    have h_some : ∀ x ∈ gs.map (·.value row), x.isSome = true := by
      intro x h_x
      obtain ⟨g, h_g, rfl⟩ := List.mem_map.mp h_x
      exact h_total g h_g row
    simp [decided_of_forall_isSome h_some]

/-- Guards over a Python function of the cell: they fail where it raises, and are never
NULL where it returns. -/
theorem Behaves.of_function {gs : List (Column Bool)} {target : String} {start : Prop}
    {β : Type} {f : Option String → Except PyError β}
    (h_start : (∀ g ∈ gs, g.start = none) ↔ ¬ start)
    (h_error : ∀ row e, f (row.cell target) = .error e → Column.cascadeFault gs row ≠ none)
    (h_ok : ∀ row b, f (row.cell target) = .ok b →
      ∀ g ∈ gs, g.fault row = none ∧ (g.value row).isSome = true) :
    Behaves gs target start (fun cell => ∃ e, f cell = .error e) (fun _ => False) where
  start_iff := h_start
  fault_iff := fun row => by
    cases h : f (row.cell target) with
    | error e => simp [h_error row e h]
    | ok b => simp [Column.cascadeFault_of_quiet fun g h_g => (h_ok row b h g h_g).1]
  decided_iff := fun row h_cell => by
    cases h : f (row.cell target) with
    | error e => exact absurd ⟨e, h⟩ h_cell
    | ok b =>
      have h_some : ∀ x ∈ gs.map (·.value row), x.isSome = true := by
        intro x h_x
        obtain ⟨g, h_g, rfl⟩ := List.mem_map.mp h_x
        exact (h_ok row b h g h_g).2
      simp [decided_of_forall_isSome h_some]

end DqScoring
