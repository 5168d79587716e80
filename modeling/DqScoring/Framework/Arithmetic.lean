import Mathlib.Algebra.BigOperators.Group.List.Basic
import Mathlib.Algebra.Field.Defs

/-!
# Arithmetic
-/

namespace Framework

/-- The operations of a program on the numbers of a type. -/
structure Arithmetic (α : Type) where
  sum : List α → α
  mul : α → α → α
  div : α → α → α
  ratio : ℕ → ℕ → α

/-- The operations of a field. -/
def Arithmetic.exact (α : Type) [Field α] : Arithmetic α where
  sum := List.sum
  mul x y := x * y
  div x y := x / y
  ratio m n := m / n

@[simp] theorem Arithmetic.exact_sum {α : Type} [Field α] (xs : List α) :
    (exact α).sum xs = xs.sum := rfl

@[simp] theorem Arithmetic.exact_mul {α : Type} [Field α] (x y : α) :
    (exact α).mul x y = x * y := rfl

end Framework
