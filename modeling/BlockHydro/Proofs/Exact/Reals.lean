import Mathlib.Analysis.Real.Sqrt
import BlockHydro.Scalar

/-!
# Exact arithmetic

The real numbers carry the operations of a `Scalar` and all the laws of a field
with an order and a square root.  What is proved here over them is what the gas
dynamics computes when nothing is rounded.
-/

namespace BlockHydro

/-- Real arithmetic: nothing is rounded, and the larger and the smaller of equal numbers are either
of them. -/
noncomputable instance Scalar.instReal : Scalar ℝ where
  beq x y := decide (x = y)
  sqrt := Real.sqrt
  abs x := |x|
  max := Max.max
  min := Min.min
  decideLT := Real.decidableLT
  decideLE := Real.decidableLE

namespace Exact

@[simp] theorem sqrt_eq (x : ℝ) : Scalar.sqrt x = √x := rfl

@[simp] theorem abs_eq (x : ℝ) : Scalar.abs x = |x| := rfl

@[simp] theorem max_eq (x y : ℝ) : Scalar.max x y = max x y := rfl

@[simp] theorem min_eq (x y : ℝ) : Scalar.min x y = min x y := rfl

end Exact

end BlockHydro
