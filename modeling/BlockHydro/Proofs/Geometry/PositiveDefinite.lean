import Mathlib.Analysis.Real.Sqrt
import Mathlib.Tactic.Linarith
import Mathlib.Tactic.LinearCombination
import BlockHydro.Geometry.Metric
import BlockHydro.Proofs.Exact.Reals

/-!
# Positive definite metrics in exact arithmetic

A symmetric matrix is positive definite if it measures every vector but zero as
positive.  Applied to the vector of cofactors of its last row this gives a
positive determinant (`Symmetric.PosDef.determinant_pos`), and with it the volume
element is positive and lowering and raising an index undo each other.
-/

namespace BlockHydro

namespace Symmetric

/-- Every vector but zero has a positive square. -/
def PosDef (g : Symmetric ℝ) : Prop :=
  ∀ v : PerAxis ℝ, v ≠ .replicate 0 → 0 < v.dot (g.mulVec v)

/-- The components of the product with a vector. -/
theorem mulVec_eq (g : Symmetric ℝ) (v : PerAxis ℝ) :
    g.mulVec v = ⟨g.ii * v.i + g.ij * v.j + g.ik * v.k, g.ij * v.i + g.jj * v.j + g.jk * v.k,
      g.ik * v.i + g.jk * v.j + g.kk * v.k⟩ := by
  simp [mulVec, row, component, PerAxis.ofFn]

variable {g : Symmetric ℝ}

namespace PosDef

theorem ii_pos (definite : g.PosDef) : 0 < g.ii := by
  have square := definite ⟨1, 0, 0⟩ (by simp [PerAxis.replicate])
  simpa [mulVec_eq, PerAxis.dot] using square

/-- The minor of the first two axes is positive. -/
theorem minor_pos (definite : g.PosDef) : 0 < g.ii * g.jj - g.ij * g.ij := by
  have corner := definite.ii_pos
  have square := definite ⟨-g.ij, g.ii, 0⟩ fun zero =>
    corner.ne' (congrArg PerAxis.j zero)
  have factored : (⟨-g.ij, g.ii, 0⟩ : PerAxis ℝ).dot (g.mulVec ⟨-g.ij, g.ii, 0⟩) =
      g.ii * (g.ii * g.jj - g.ij * g.ij) := by
    rw [mulVec_eq]
    simp only [PerAxis.dot]
    ring
  rw [factored] at square
  exact (mul_pos_iff_of_pos_left corner).mp square

/-- The determinant is positive: the cofactors of the last row make a vector whose square is the
minor times the determinant. -/
theorem determinant_pos (definite : g.PosDef) : 0 < g.determinant := by
  have minor := definite.minor_pos
  let cofactors : PerAxis ℝ :=
    ⟨g.ij * g.jk - g.ik * g.jj, g.ij * g.ik - g.ii * g.jk, g.ii * g.jj - g.ij * g.ij⟩
  have square := definite cofactors fun zero => minor.ne' (congrArg PerAxis.k zero)
  have factored : cofactors.dot (g.mulVec cofactors) =
      (g.ii * g.jj - g.ij * g.ij) * g.determinant := by
    rw [mulVec_eq]
    simp only [cofactors, PerAxis.dot, determinant]
    ring
  rw [factored] at square
  exact (mul_pos_iff_of_pos_left minor).mp square

/-- No vector has a negative square. -/
theorem dot_nonneg (definite : g.PosDef) (v : PerAxis ℝ) : 0 ≤ v.dot (g.mulVec v) := by
  by_cases zero : v = .replicate 0
  · simp [zero, PerAxis.dot, PerAxis.replicate]
  · exact (definite v zero).le

end PosDef

theorem mulVec_map_mul (g : Symmetric ℝ) (v : PerAxis ℝ) (factor : ℝ) :
    g.mulVec (v.map (factor * ·)) = (g.mulVec v).map (factor * ·) := by
  simp only [mulVec_eq, PerAxis.map]
  congr 1 <;> ring

/-- The inverse undoes the product. -/
theorem mulVec_inverse (invertible : g.determinant ≠ 0) (v : PerAxis ℝ) :
    g.inverse.mulVec (g.mulVec v) = v ∧ g.mulVec (g.inverse.mulVec v) = v := by
  have unit := one_div_mul_cancel invertible
  obtain ⟨i, j, k⟩ := v
  simp only [mulVec_eq, inverse, PerAxis.mk.injEq]
  generalize 1 / g.determinant = scale at unit ⊢
  unfold determinant at unit
  refine ⟨⟨?_, ?_, ?_⟩, ⟨?_, ?_, ?_⟩⟩
  case refine_1 | refine_4 => linear_combination i * unit
  case refine_2 | refine_5 => linear_combination j * unit
  case refine_3 | refine_6 => linear_combination k * unit

end Symmetric

namespace Metric

variable {metric : Metric ℝ}

theorem sqrtDeterminant_pos (definite : metric.spatial.PosDef) : 0 < metric.sqrtDeterminant :=
  Real.sqrt_pos.mpr definite.determinant_pos

theorem raise_lower (definite : metric.spatial.PosDef) (v : PerAxis ℝ) :
    metric.raise (metric.lower v) = v :=
  (Symmetric.mulVec_inverse definite.determinant_pos.ne' v).1

theorem lower_raise (definite : metric.spatial.PosDef) (v : PerAxis ℝ) :
    metric.lower (metric.raise v) = v :=
  (Symmetric.mulVec_inverse definite.determinant_pos.ne' v).2

end Metric

end BlockHydro
