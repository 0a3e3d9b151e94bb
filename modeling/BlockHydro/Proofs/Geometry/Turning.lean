import Mathlib.Analysis.Real.Sqrt
import Mathlib.Tactic.Ring
import BlockHydro.Flux.Riemann
import BlockHydro.Proofs.Geometry.PositiveDefinite

/-!
# Turned frames

Faces are solved in a frame whose first axis is the normal of the face.  Turning a
state or a flux only moves components, so arithmetic on them commutes with it
whatever a number is.

What is added up over all axes, such as a square or a determinant, keeps its value
in exact arithmetic.  So every quantity of a relativistic flow is turned when the
state and the metric are (`Primitive.flow_rotate`), and so are the conserved state
and the flux that belong to it.
-/

namespace BlockHydro

section Components

variable {α β γ : Type}

theorem PerAxis.rotate_map (f : α → β) (values : PerAxis α) (axis : Axis) :
    (values.map f).rotate axis = (values.rotate axis).map f := by
  cases axis <;> rfl

theorem PerAxis.rotate_zipWith (f : α → β → γ) (left : PerAxis α) (right : PerAxis β)
    (axis : Axis) :
    (left.zipWith f right).rotate axis = (left.rotate axis).zipWith f (right.rotate axis) := by
  cases axis <;> rfl

theorem Symmetric.rotate_zipWith {R : Type} (f : R → R → R) (left right : Symmetric R)
    (axis : Axis) :
    (left.zipWith f right).rotate axis = (left.rotate axis).zipWith f (right.rotate axis) := by
  cases axis <;> rfl

end Components

namespace Conserved

variable {R : Type}

/-- View the state in the frame whose first axis is `axis`. -/
def rotate (state : Conserved R) (axis : Axis) : Conserved R :=
  { state with momentum := state.momentum.rotate axis }

@[simp] theorem density_rotate (state : Conserved R) (axis : Axis) :
    (state.rotate axis).density = state.density := rfl

@[simp] theorem momentum_rotate (state : Conserved R) (axis : Axis) :
    (state.rotate axis).momentum = state.momentum.rotate axis := rfl

@[simp] theorem energy_rotate (state : Conserved R) (axis : Axis) :
    (state.rotate axis).energy = state.energy := rfl

@[simp] theorem unrotate_rotate (state : Conserved R) (axis : Axis) :
    (state.rotate axis).unrotate axis = state := by
  simp [rotate, unrotate]

theorem unrotate_add [Add R] (first second : Conserved R) (axis : Axis) :
    (first + second).unrotate axis = first.unrotate axis + second.unrotate axis := by
  cases axis <;> rfl

theorem unrotate_sub [Sub R] (first second : Conserved R) (axis : Axis) :
    (first - second).unrotate axis = first.unrotate axis - second.unrotate axis := by
  cases axis <;> rfl

theorem unrotate_mul [Mul R] (state : Conserved R) (factor : R) (axis : Axis) :
    (state * factor).unrotate axis = state.unrotate axis * factor := by
  cases axis <;> rfl

end Conserved

/-- The same flow in the frame whose first axis is `axis`. -/
def RelativisticFlow.rotate {R : Type} (flow : RelativisticFlow R) (axis : Axis) :
    RelativisticFlow R :=
  { flow with
    velocityUp := flow.velocityUp.rotate axis
    velocityDown := flow.velocityDown.rotate axis }

section Sums

theorem PerAxis.dot_rotate (left right : PerAxis ℝ) (axis : Axis) :
    (left.rotate axis).dot (right.rotate axis) = left.dot right := by
  cases axis <;> simp only [rotate, dot, get, Axis.next] <;> ring

namespace Symmetric

theorem determinant_rotate (g : Symmetric ℝ) (axis : Axis) :
    (g.rotate axis).determinant = g.determinant := by
  cases axis <;> simp only [rotate, determinant, component, Axis.next] <;> ring

theorem inverse_rotate (g : Symmetric ℝ) (axis : Axis) :
    (g.rotate axis).inverse = g.inverse.rotate axis := by
  unfold inverse
  dsimp only
  rw [determinant_rotate]
  generalize 1 / g.determinant = scale
  cases axis <;> simp only [rotate, component, Axis.next] <;> congr 1 <;> ring

theorem mulVec_rotate (g : Symmetric ℝ) (v : PerAxis ℝ) (axis : Axis) :
    (g.rotate axis).mulVec (v.rotate axis) = (g.mulVec v).rotate axis := by
  simp only [mulVec_eq]
  cases axis <;> simp only [rotate, PerAxis.rotate, component, PerAxis.get, Axis.next] <;>
    congr 1 <;> ring

end Symmetric

namespace Metric

variable (metric : Metric ℝ) (axis : Axis)

theorem determinant_rotate : (metric.rotate axis).determinant = metric.determinant :=
  metric.spatial.determinant_rotate axis

theorem sqrtDeterminant_rotate : (metric.rotate axis).sqrtDeterminant = metric.sqrtDeterminant :=
  congrArg Scalar.sqrt (metric.determinant_rotate axis)

theorem lower_rotate (v : PerAxis ℝ) :
    (metric.rotate axis).lower (v.rotate axis) = (metric.lower v).rotate axis :=
  metric.spatial.mulVec_rotate v axis

theorem inverse_rotate : (metric.rotate axis).inverse = metric.inverse.rotate axis :=
  metric.spatial.inverse_rotate axis

theorem raise_rotate (w : PerAxis ℝ) :
    (metric.rotate axis).raise (w.rotate axis) = (metric.raise w).rotate axis := by
  unfold raise
  rw [inverse_rotate, Symmetric.mulVec_rotate]

end Metric

/-- A turned state in a turned metric flows as before. -/
theorem Primitive.flow_rotate (state : Primitive ℝ) (metric : Metric ℝ)
    (gammaLawIndex baryonMass : ℝ) (axis : Axis) :
    (state.rotate axis).flow (metric.rotate axis) gammaLawIndex baryonMass =
      (state.flow metric gammaLawIndex baryonMass).rotate axis := by
  unfold flow rotate RelativisticFlow.rotate
  dsimp only
  rw [Metric.lower_rotate, PerAxis.dot_rotate, PerAxis.rotate_map, PerAxis.rotate_map]

namespace RelativisticFlow

variable (flow : RelativisticFlow ℝ) (metric : Metric ℝ) (axis : Axis)

theorem velocitySquared_rotate : (flow.rotate axis).velocitySquared = flow.velocitySquared :=
  PerAxis.dot_rotate _ _ axis

theorem toConserved_rotate :
    (flow.rotate axis).toConserved (metric.rotate axis) = (flow.toConserved metric).rotate axis := by
  unfold toConserved Conserved.rotate rotate
  dsimp only
  rw [Metric.sqrtDeterminant_rotate, PerAxis.rotate_map]

/-- The flux along the first axis of the turned frame is the turned flux along `axis`. -/
theorem fluxVector_rotate :
    (flow.rotate axis).fluxVector (metric.rotate axis) .i =
      (flow.fluxVector metric axis).rotate axis := by
  unfold fluxVector
  dsimp only
  rw [toConserved_rotate, Metric.sqrtDeterminant_rotate]
  cases axis <;> rfl

theorem waveRadicand_rotate :
    (flow.rotate axis).waveRadicand (metric.rotate axis) .i = flow.waveRadicand metric axis := by
  unfold waveRadicand
  dsimp only
  rw [velocitySquared_rotate, Metric.inverse_rotate]
  rfl

theorem characteristicSpeeds_rotate :
    (flow.rotate axis).characteristicSpeeds (metric.rotate axis) .i =
      flow.characteristicSpeeds metric axis := by
  unfold characteristicSpeeds
  dsimp only
  rw [waveRadicand_rotate, velocitySquared_rotate]
  rfl

end RelativisticFlow

namespace Primitive

variable (state : Primitive ℝ) (thermodynamics : Thermodynamics ℝ) (axis : Axis)

theorem velocitySquared_rotate : (state.rotate axis).velocitySquared = state.velocitySquared :=
  PerAxis.dot_rotate _ _ axis

theorem toConserved_rotate :
    (state.rotate axis).toConserved thermodynamics =
      (state.toConserved thermodynamics).rotate axis := by
  unfold toConserved energyDensity Conserved.rotate
  rw [velocitySquared_rotate]
  dsimp only [rotate]
  rw [PerAxis.rotate_map]

/-- The flux along the first axis of the turned frame is the turned flux along `axis`. -/
theorem fluxVector_rotate :
    (state.rotate axis).fluxVector .i thermodynamics =
      (state.fluxVector axis thermodynamics).rotate axis := by
  unfold fluxVector
  dsimp only
  rw [toConserved_rotate]
  cases thermodynamics <;> cases axis <;> rfl

end Primitive

end Sums

end BlockHydro
