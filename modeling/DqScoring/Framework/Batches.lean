import DqScoring.Framework.Traverse
import Mathlib.Algebra.BigOperators.Group.List.Basic
import Mathlib.Algebra.Ring.Nat

/-!
# Writing in batches

A stream of rows is collected in a buffer, which is written as a batch and emptied whenever it
has so many rows or so many bytes, and once more at the end if a row is left. A state denotes the
rows that it has taken, those of the written batches and those of the buffer in this order
(`Batches.rows`). A step adds its row to them wherever the flushes fall (`rows_take`), so a run
that is not refused writes the rows of the stream (`flatten_writeAll`).
-/

namespace Framework

/-- Batches that are written, and a buffer. -/
structure Batches (R : Type) where
  written : List (List R) := []
  buffer : List R := []
  size : ℕ := 0

namespace Batches

variable {R ε : Type} (cost : R → ℕ) (maxRows maxSize : ℕ) (check : ℕ → Except ε Unit)

/-- The rows of a state, in the order in which they came. -/
def rows (b : Batches R) : List R := b.written.flatten ++ b.buffer

/-- The state with one more row in the buffer. -/
def push (row : R) (b : Batches R) : Batches R :=
  { b with buffer := b.buffer ++ [row], size := b.size + cost row }

/-- The buffer is written, which may be refused; `check` knows how many batches there are. -/
def flush (b : Batches R) : Except ε (Batches R) := do
  check b.written.length
  return { written := b.written ++ [b.buffer] }

/-- A row is taken: the buffer is written if it is full with it. -/
def take (b : Batches R) (row : R) : Except ε (Batches R) :=
  let pushed := b.push cost row
  if maxRows ≤ pushed.buffer.length ∨ maxSize ≤ pushed.size then pushed.flush check
  else .ok pushed

/-- The end of the stream: what is left is written. -/
def finish (b : Batches R) : Except ε (Batches R) :=
  if b.buffer = [] then .ok b else b.flush check

variable {cost maxRows maxSize check} {b b' : Batches R} {row : R}

@[simp] theorem rows_push : (b.push cost row).rows = b.rows ++ [row] := by
  simp only [rows, push, List.append_assoc]

/-- A flush writes the current batch. -/
theorem flush_ok (h : b.flush check = .ok b') : b' = { written := b.written ++ [b.buffer] } := by
  obtain ⟨_, -, h_ok⟩ := ok_of_bind h
  cases h_ok
  rfl

/-- A flush moves rows from the buffer to the batches. -/
theorem rows_flush (h : b.flush check = .ok b') : b'.rows = b.rows := by
  rw [flush_ok h]
  simp only [rows, List.flatten_append, List.flatten_singleton, List.append_nil]

/-- What a step takes is its row. -/
theorem rows_take (h : b.take cost maxRows maxSize check row = .ok b') :
    b'.rows = b.rows ++ [row] := by
  unfold take at h
  simp only at h
  split at h
  · rw [rows_flush h, rows_push]
  · cases h
    exact rows_push

/-- After the end nothing is left in the buffer. -/
theorem flatten_finish (h : b.finish check = .ok b') : b'.written.flatten = b.rows := by
  unfold finish at h
  split at h
  case isTrue h_empty =>
    cases h
    rw [rows, h_empty, List.append_nil]
  case isFalse =>
    rw [flush_ok h, rows, List.flatten_append, List.flatten_singleton]

/-! ### The limits -/

/-- The buffer has room for a row, its size is that of its rows, and every batch has rows. -/
structure Bounded (cost : R → ℕ) (maxRows maxSize : ℕ) (b : Batches R) : Prop where
  length_lt : b.buffer.length < maxRows
  size_lt : b.size < maxSize
  size_eq : b.size = (b.buffer.map cost).sum
  written : ∀ batch ∈ b.written, batch ≠ [] ∧ batch.length ≤ maxRows

/-- The empty batches are within bounds. -/
theorem bounded_empty (h_rows : 0 < maxRows) (h_size : 0 < maxSize) :
    Bounded cost maxRows maxSize ({} : Batches R) where
  length_lt := h_rows
  size_lt := h_size
  size_eq := rfl
  written := List.forall_mem_nil _

/-- Taking a row keeps every batch within bounds. -/
theorem Bounded.take (h_bounded : b.Bounded cost maxRows maxSize)
    (h : b.take cost maxRows maxSize check row = .ok b') : b'.Bounded cost maxRows maxSize := by
  obtain ⟨h_length, h_size, h_eq, h_written⟩ := h_bounded
  unfold Batches.take at h
  simp only at h
  split at h
  case isTrue =>
    rw [flush_ok h]
    refine ⟨Nat.zero_lt_of_lt h_length, Nat.zero_lt_of_lt h_size, rfl, ?_⟩
    intro batch h_batch
    rcases List.mem_append.mp h_batch with h_old | h_new
    · exact h_written batch h_old
    · rw [List.mem_singleton.mp h_new]
      exact ⟨List.append_ne_nil_of_right_ne_nil _ (List.cons_ne_nil _ _), by
        rw [push, List.length_append]
        exact h_length⟩
  case isFalse h_room =>
    cases h
    rw [not_or, Nat.not_le, Nat.not_le] at h_room
    refine ⟨h_room.1, h_room.2, ?_, h_written⟩
    rw [push, List.map_append, List.sum_append, h_eq]
    rfl

/-- The last batch is one of them. -/
theorem Bounded.finish (h_bounded : b.Bounded cost maxRows maxSize)
    (h : b.finish check = .ok b') : ∀ batch ∈ b'.written, batch ≠ [] ∧ batch.length ≤ maxRows := by
  unfold Batches.finish at h
  split at h
  case isTrue =>
    cases h
    exact h_bounded.written
  case isFalse h_some =>
    rw [flush_ok h]
    intro batch h_batch
    rcases List.mem_append.mp h_batch with h_old | h_new
    · exact h_bounded.written batch h_old
    · rw [List.mem_singleton.mp h_new]
      exact ⟨h_some, h_bounded.length_lt.le⟩

end Batches

end Framework
