import Mathlib.Algebra.Order.Star.Real
import Mathlib.LinearAlgebra.Matrix.PosDef
import BlockHydro.Proofs.Geometry.Turning
import BlockHydro.Proofs.Space.Tabulation

/-!
# Face metrics in exact arithmetic

Read as a matrix, the spatial part of a metric is positive definite exactly if it
measures every vector but zero as positive (`Symmetric.posDef_iff`).  Sums, inverses
and renamed axes of such matrices are positive definite again, so the mean of two
proper metrics is proper (`Metric.Proper.average`) and stays so in every frame
(`Metric.Proper.rotate`).  The faces between the cells of a field are therefore as
proper as its cells.
-/

namespace BlockHydro

instance : Fintype Axis where
  elems := {.i, .j, .k}
  complete axis := by cases axis <;> decide

theorem Axis.sum_eq (f : Axis → ℝ) : ∑ axis, f axis = f .i + f .j + f .k := by
  change ∑ axis ∈ {.i, .j, .k}, f axis = _
  simp [add_assoc]

/-- The axis behind an axis of the frame whose first axis is `first`. -/
def Axis.turned (first : Axis) : Axis → Axis
  | .i => first
  | .j => first.next
  | .k => first.next.next

theorem Axis.turned_injective (first : Axis) : Function.Injective first.turned := by
  intro axis other same
  cases first <;> cases axis <;> cases other <;> first | rfl | cases same

theorem PerAxis.dotProduct_get (v w : PerAxis ℝ) : v.get ⬝ᵥ w.get = v.dot w :=
  Axis.sum_eq _

namespace Symmetric

/-- The components as a matrix. -/
def matrix (g : Symmetric ℝ) : Matrix Axis Axis ℝ := .of g.component

theorem mulVec_matrix (g : Symmetric ℝ) (v : PerAxis ℝ) :
    g.matrix.mulVec v.get = (g.mulVec v).get := by
  funext axis
  rw [Matrix.mulVec, dotProduct, Axis.sum_eq, mulVec_eq]
  cases axis <;> rfl

/-- Positive definite metrics are the positive definite matrices among the symmetric ones. -/
theorem posDef_iff (g : Symmetric ℝ) : g.PosDef ↔ g.matrix.PosDef := by
  rw [Matrix.posDef_iff_dotProduct_mulVec]
  constructor
  · intro definite
    refine ⟨Matrix.IsHermitian.ext fun row column => ?_, fun x nonzero => ?_⟩
    · exact g.component_comm column row
    · have square := definite (.ofFn x) fun zero => nonzero <| funext fun axis => by
        have component := congrArg (·.get axis) zero
        cases axis <;> exact component
      rw [← PerAxis.dotProduct_get, ← mulVec_matrix] at square
      have components : (PerAxis.ofFn x).get = x := funext (PerAxis.get_ofFn x)
      rwa [components] at square
  · rintro ⟨-, positive⟩ v nonzero
    have square := @positive v.get fun zero => nonzero <| PerAxis.ext_get fun axis => by
      rw [zero]
      cases axis <;> rfl
    rwa [star_trivial, mulVec_matrix, PerAxis.dotProduct_get] at square

theorem matrix_rotate (g : Symmetric ℝ) (axis : Axis) :
    (g.rotate axis).matrix = g.matrix.submatrix axis.turned axis.turned := by
  ext row column
  cases row <;> cases column <;> first | rfl | exact g.component_comm _ _

theorem matrix_mean (left right : Symmetric ℝ) :
    (left.zipWith (fun a b => 0.5 * (a + b)) right).matrix =
      (0.5 : ℝ) • (left.matrix + right.matrix) := by
  ext row column
  cases row <;> cases column <;> rfl

/-- The inverse by cofactors is the inverse of the matrix. -/
theorem matrix_mul_inverse {g : Symmetric ℝ} (invertible : g.determinant ≠ 0) :
    g.matrix * g.inverse.matrix = 1 := by
  apply Matrix.ext_of_mulVec_single
  intro axis
  have unit : (Pi.single axis 1 : Axis → ℝ) = (PerAxis.ofFn (Pi.single axis 1)).get :=
    (funext (PerAxis.get_ofFn _)).symm
  rw [unit, ← Matrix.mulVec_mulVec, mulVec_matrix, mulVec_matrix, (mulVec_inverse invertible _).2,
    Matrix.one_mulVec]

namespace PosDef

variable {g left right : Symmetric ℝ}

theorem inverse (definite : g.PosDef) : g.inverse.PosDef := by
  have inverted := Matrix.inv_eq_right_inv (matrix_mul_inverse definite.determinant_pos.ne')
  rw [posDef_iff, ← inverted]
  exact ((posDef_iff g).mp definite).inv

theorem rotate (definite : g.PosDef) (axis : Axis) : (g.rotate axis).PosDef := by
  rw [posDef_iff, matrix_rotate]
  exact ((posDef_iff g).mp definite).submatrix axis.turned_injective

theorem mean (leftDefinite : left.PosDef) (rightDefinite : right.PosDef) :
    (left.zipWith (fun a b => 0.5 * (a + b)) right).PosDef := by
  rw [posDef_iff] at leftDefinite rightDefinite ⊢
  rw [matrix_mean]
  exact (leftDefinite.add rightDefinite).smul (by norm_num)

end PosDef

end Symmetric

namespace Metric

variable {metric left right : Metric ℝ}

/-- A metric that measures lengths, under a lapse that lets time pass. -/
structure Proper (metric : Metric ℝ) : Prop where
  definite : metric.spatial.PosDef
  lapse_pos : 0 < metric.lapse

/-- A spatial metric with an inverse, and indexes that go up and down by it. -/
structure Inverts (metric : Metric ℝ) : Prop where
  determinant_pos : 0 < metric.determinant
  spatial_mul_inverse : metric.spatial.matrix * metric.inverse.matrix = 1
  inverse_mul_spatial : metric.inverse.matrix * metric.spatial.matrix = 1
  inverse_definite : metric.inverse.PosDef
  raise_lower : ∀ v, metric.raise (metric.lower v) = v
  lower_raise : ∀ w, metric.lower (metric.raise w) = w

theorem inverts_of_posDef (definite : metric.spatial.PosDef) : metric.Inverts where
  determinant_pos := definite.determinant_pos
  spatial_mul_inverse := Symmetric.matrix_mul_inverse definite.determinant_pos.ne'
  inverse_mul_spatial :=
    mul_eq_one_comm.mp (Symmetric.matrix_mul_inverse definite.determinant_pos.ne')
  inverse_definite := definite.inverse
  raise_lower := Metric.raise_lower definite
  lower_raise := Metric.lower_raise definite

theorem proper_minkowski : (minkowski : Metric ℝ).Proper where
  definite := by
    have unit : (Symmetric.identity : Symmetric ℝ).matrix = 1 := by
      ext row column
      cases row <;> cases column <;> rfl
    rw [Symmetric.posDef_iff, minkowski, unit]
    exact Matrix.PosDef.one
  lapse_pos := one_pos

theorem Proper.rotate (proper : metric.Proper) (axis : Axis) : (metric.rotate axis).Proper :=
  ⟨proper.definite.rotate axis, proper.lapse_pos⟩

theorem Proper.average (leftProper : left.Proper) (rightProper : right.Proper) :
    (left.average right).Proper where
  definite := leftProper.definite.mean rightProper.definite
  lapse_pos := by
    have sum_pos := add_pos leftProper.lapse_pos rightProper.lapse_pos
    exact mul_pos (by norm_num) sum_pos

end Metric

namespace MetricField

/-- A field whose cells have proper metrics. -/
def Proper (field : MetricField ℝ) : Prop :=
  ∀ zone metric, field.atCell zone = .ok metric → metric.Proper

/-- A face between two cells of a field has a proper metric, which is proper in every frame and
has the same determinant there. -/
structure ProperFace (field : MetricField ℝ) (axis : Axis) (zone : Zone) (face : Metric ℝ) :
    Prop where
  found : field.atFace axis zone = .ok face
  proper : face.Proper
  turned_proper : ∀ direction, (face.rotate direction).Proper
  determinant_turned : ∀ direction, (face.rotate direction).determinant = face.determinant

theorem atCell_of_mem {field : MetricField ℝ} {zone : Zone} (inside : zone ∈ field.cells.grid) :
    ∃ metric, field.atCell zone = .ok metric := by
  obtain ⟨metrics, tabulated⟩ := field.cells.exists_eq_ofFn .minkowski
  refine ⟨metrics zone, ?_⟩
  rw [atCell, tabulated]
  exact ZoneArray.get_ofFn metrics inside

/-- A field filled with proper metrics is proper. -/
theorem proper_ofFn {grid : Grid} {metrics : Zone → Metric ℝ}
    (proper : ∀ zone ∈ grid, (metrics zone).Proper) :
    (⟨.ofFn grid metrics⟩ : MetricField ℝ).Proper := by
  intro zone metric found
  by_cases inside : zone ∈ grid
  · rw [atCell, ZoneArray.get_ofFn metrics inside, Except.ok.injEq] at found
    exact found ▸ proper zone inside
  · have missing : (ZoneArray.ofFn grid metrics).get? zone = none := dif_neg inside
    rw [atCell, ZoneArray.get, missing] at found
    cases found

theorem Proper.faces {field : MetricField ℝ} (proper : field.Proper) {axis : Axis} {zone : Zone}
    (beforeInside : zone.shift (-1) axis ∈ field.cells.grid) (inside : zone ∈ field.cells.grid) :
    ∃ face, field.ProperFace axis zone face := by
  obtain ⟨before, before_found⟩ := atCell_of_mem beforeInside
  obtain ⟨after, after_found⟩ := atCell_of_mem inside
  have mean := (proper _ _ before_found).average (proper _ _ after_found)
  refine ⟨before.average after, ?_, mean, mean.rotate, Metric.determinant_rotate _⟩
  rw [atFace, before_found, after_found]
  rfl

/-- The faces of a proper field are proper, and a metric that measures lengths has an inverse. -/
theorem faces_proper :
    (∀ field : MetricField ℝ, field.Proper → ∀ axis zone,
      zone.shift (-1) axis ∈ field.cells.grid → zone ∈ field.cells.grid →
        ∃ face, field.ProperFace axis zone face) ∧
    ∀ metric : Metric ℝ, metric.spatial.PosDef → metric.Inverts :=
  ⟨fun _ proper _ _ => proper.faces, fun _ => Metric.inverts_of_posDef⟩

/-- A metric that couples all axes, under a shift along two of them. -/
noncomputable def braced : Metric ℝ := ⟨⟨1, -0.5, 0.5, 1.5, 0.25, 1⟩, ⟨0.25, 0, -0.5⟩, 0.5⟩

theorem proper_braced : braced.Proper where
  definite := by
    rintro ⟨i, j, k⟩ nonzero
    have square : (⟨i, j, k⟩ : PerAxis ℝ).dot (braced.spatial.mulVec ⟨i, j, k⟩) =
        ((i - j) ^ 2 + (i + k) ^ 2 + (j + k / 2) ^ 2 + j ^ 2 + 3 / 4 * k ^ 2) / 2 := by
      simp only [Symmetric.mulVec_eq, PerAxis.dot, braced]
      ring
    rw [square]
    contrapose! nonzero
    have second : j = 0 := by
      nlinarith [sq_nonneg (i - j), sq_nonneg (i + k), sq_nonneg (j + k / 2), sq_nonneg k]
    have third : k = 0 := by
      nlinarith [sq_nonneg (i - j), sq_nonneg (i + k), sq_nonneg (j + k / 2), sq_nonneg j]
    subst second third
    have first : i = 0 := by nlinarith
    rw [first, PerAxis.replicate]
  lapse_pos := by norm_num [braced]

/-- Two cells on either side of the origin, the second with the metric of the first in another
frame. -/
noncomputable def hinged : MetricField ℝ where
  cells := .ofFn ⟨1, ⟨-1, 0, 0⟩, ⟨1, 1, 1⟩, by decide⟩ fun zone =>
    if zone.index.i < 0 then braced else braced.rotate .j

theorem faces_proper_hinged :
    (∃ face, hinged.ProperFace .i ⟨0, 0, 0, 0⟩ face) ∧ braced.Inverts := by
  have proper : hinged.Proper := proper_ofFn fun zone _ => by
    split
    · exact proper_braced
    · exact proper_braced.rotate .j
  exact ⟨faces_proper.1 hinged proper .i ⟨0, 0, 0, 0⟩ (by decide) (by decide),
    faces_proper.2 braced proper_braced.definite⟩

end MetricField

end BlockHydro
