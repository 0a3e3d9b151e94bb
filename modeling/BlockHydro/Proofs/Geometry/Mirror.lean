import Mathlib.Analysis.Real.Sqrt
import Mathlib.Tactic.Ring
import BlockHydro.Flux.Riemann
import BlockHydro.Proofs.Geometry.PositiveDefinite

/-!
# Mirrored frames

A mirror turns one axis around.  A velocity or a momentum changes its component along
that axis, and so does the shift; the spatial metric changes the two components that
couple the axis to the others.

In exact arithmetic nothing that is added up over the axes notices the mirror.  So a
gas behind it has the same energy, the same sound and the same Lorentz factor, its
flux through a face normal to the axis runs the other way (`Conserved.reverse`), and
its slowest wave is the fastest one turned around.
-/

namespace BlockHydro

/-- Turn the component along an axis around. -/
def PerAxis.mirror (v : PerAxis ℝ) (axis : Axis) : PerAxis ℝ := v.modify axis (- ·)

/-- Turn the components around that couple an axis to the others. -/
def Symmetric.mirror (g : Symmetric ℝ) : Axis → Symmetric ℝ
  | .i => { g with ij := -g.ij, ik := -g.ik }
  | .j => { g with ij := -g.ij, jk := -g.jk }
  | .k => { g with ik := -g.ik, jk := -g.jk }

/-- The metric behind the mirror. -/
def Metric.mirror (metric : Metric ℝ) (axis : Axis) : Metric ℝ :=
  { metric with spatial := metric.spatial.mirror axis, shift := metric.shift.mirror axis }

/-- The state behind the mirror. -/
def Primitive.mirror (state : Primitive ℝ) (axis : Axis) : Primitive ℝ :=
  { state with velocity := state.velocity.mirror axis }

/-- The state behind the mirror. -/
def Conserved.mirror (state : Conserved ℝ) (axis : Axis) : Conserved ℝ :=
  { state with momentum := state.momentum.mirror axis }

/-- The flux behind the mirror: everything runs the other way, except that momentum along the axis
is turned around itself as well. -/
def Conserved.reverse (flux : Conserved ℝ) (axis : Axis) : Conserved ℝ where
  density := -flux.density
  momentum := PerAxis.ofFn fun other =>
    if other = axis then flux.momentum.get other else -flux.momentum.get other
  energy := -flux.energy

/-- The flow behind the mirror. -/
def RelativisticFlow.mirror (flow : RelativisticFlow ℝ) (axis : Axis) : RelativisticFlow ℝ :=
  { flow with
    velocityUp := flow.velocityUp.mirror axis
    velocityDown := flow.velocityDown.mirror axis }

namespace PerAxis

@[simp] theorem get_mirror_self (v : PerAxis ℝ) (axis : Axis) :
    (v.mirror axis).get axis = -v.get axis :=
  get_modify_self v axis _

theorem get_mirror_of_ne (v : PerAxis ℝ) {axis other : Axis} (different : other ≠ axis) :
    (v.mirror axis).get other = v.get other :=
  get_modify_of_ne v _ different

theorem dot_mirror (left right : PerAxis ℝ) (axis : Axis) :
    (left.mirror axis).dot (right.mirror axis) = left.dot right := by
  cases axis <;> simp [mirror, modify, dot]

/-- A function that keeps signs does not notice the mirror. -/
theorem map_mirror {f : ℝ → ℝ} (odd : ∀ x, f (-x) = -f x) (v : PerAxis ℝ) (axis : Axis) :
    (v.mirror axis).map f = (v.map f).mirror axis := by
  cases axis <;> simp [mirror, modify, map, odd]

theorem mirror_rotate (v : PerAxis ℝ) (axis : Axis) :
    (v.mirror axis).rotate axis = (v.rotate axis).mirror .i := by
  cases axis <;> rfl

end PerAxis

namespace Symmetric

variable (g : Symmetric ℝ) (axis : Axis)

theorem determinant_mirror : (g.mirror axis).determinant = g.determinant := by
  cases axis <;> simp only [mirror, determinant] <;> ring

theorem inverse_mirror : (g.mirror axis).inverse = g.inverse.mirror axis := by
  unfold inverse
  dsimp only
  rw [determinant_mirror]
  generalize 1 / g.determinant = scale
  cases axis <;> simp only [mirror] <;> congr 1 <;> ring

theorem mulVec_mirror (v : PerAxis ℝ) :
    (g.mirror axis).mulVec (v.mirror axis) = (g.mulVec v).mirror axis := by
  simp only [mulVec_eq]
  cases axis <;> simp only [mirror, PerAxis.mirror, PerAxis.modify] <;> congr 1 <;> ring

theorem component_mirror : (g.mirror axis).component axis axis = g.component axis axis := by
  cases axis <;> rfl

theorem mirror_rotate : (g.mirror axis).rotate axis = (g.rotate axis).mirror .i := by
  cases axis <;> rfl

end Symmetric

namespace Metric

variable (metric : Metric ℝ) (axis : Axis)

theorem sqrtDeterminant_mirror : (metric.mirror axis).sqrtDeterminant = metric.sqrtDeterminant :=
  congrArg Scalar.sqrt (metric.spatial.determinant_mirror axis)

theorem lower_mirror (v : PerAxis ℝ) :
    (metric.mirror axis).lower (v.mirror axis) = (metric.lower v).mirror axis :=
  metric.spatial.mulVec_mirror axis v

/-- The light cone along the axis is the same behind the mirror. -/
theorem inverse_component_mirror :
    (metric.mirror axis).inverse.component axis axis = metric.inverse.component axis axis :=
  (congrArg (·.component axis axis) (metric.spatial.inverse_mirror axis)).trans
    (metric.inverse.component_mirror axis)

theorem mirror_rotate : (metric.mirror axis).rotate axis = (metric.rotate axis).mirror .i := by
  unfold rotate mirror
  dsimp only
  rw [Symmetric.mirror_rotate, PerAxis.mirror_rotate]

end Metric

namespace Conserved

theorem ext_get {R : Type} {left right : Conserved R} (density : left.density = right.density)
    (momentum : ∀ axis, left.momentum.get axis = right.momentum.get axis)
    (energy : left.energy = right.energy) : left = right := by
  obtain ⟨mass, p, heat⟩ := left
  obtain ⟨mass', p', heat'⟩ := right
  obtain rfl : mass = mass' := density
  obtain rfl : p = p' := PerAxis.ext_get momentum
  obtain rfl : heat = heat' := energy
  rfl

theorem reverse_unrotate (flux : Conserved ℝ) (axis : Axis) :
    (flux.reverse .i).unrotate axis = (flux.unrotate axis).reverse axis := by
  cases axis <;> rfl

/-- The sign that a field of a flux gets behind the mirror. -/
def turnOf (axis : Axis) (field : Fin 5) : ℝ := if field.val = axis.toNat + 1 then 1 else -1

theorem toFields_reverse (flux : Conserved ℝ) (axis : Axis) (field : Fin 5) :
    (flux.reverse axis).toFields.get field = turnOf axis field * flux.toFields.get field := by
  cases axis <;> match field with
    | 0 | 1 | 2 | 3 | 4 =>
      simp [reverse, toFields, turnOf, Axis.toNat, PerAxis.ofFn, PerAxis.get, Vector.get]

theorem toFields_mirror (state : Conserved ℝ) (axis : Axis) (field : Fin 5) :
    (state.mirror axis).toFields.get field = -(turnOf axis field * state.toFields.get field) := by
  cases axis <;> match field with
    | 0 | 1 | 2 | 3 | 4 =>
      simp [mirror, toFields, turnOf, Axis.toNat, PerAxis.mirror, PerAxis.modify, Vector.get]

/-- The flux of what is carried through a face and pushed by a pressure that does some work. -/
def transported (carried : Conserved ℝ) (axis : Axis) (speed pressure work : ℝ) : Conserved ℝ where
  density := carried.density * speed
  momentum := PerAxis.ofFn fun other =>
    carried.momentum.get other * speed + pressure * axis.along other
  energy := carried.energy * speed + work

/-- Behind the mirror the transport and its work run the other way, and the pressure pushes as
before. -/
theorem transported_mirror (carried : Conserved ℝ) (axis : Axis) (speed pressure work : ℝ) :
    (carried.mirror axis).transported axis (-speed) pressure (-work) =
      (carried.transported axis speed pressure work).reverse axis := by
  refine ext_get (mul_neg carried.density speed) (fun other => ?momentum) ?energy
  case momentum =>
    by_cases same : other = axis
    · subst same
      simp [transported, reverse, mirror]
    · have beside : axis.along other = (0 : ℝ) := if_neg (Ne.symm same)
      simp [transported, reverse, mirror, PerAxis.get_mirror_of_ne _ same, same, beside]
  case energy =>
    change carried.energy * -speed + -work = -(carried.energy * speed + work)
    rw [mul_neg, neg_add]

end Conserved

namespace Primitive

variable (state : Primitive ℝ) (thermodynamics : Thermodynamics ℝ) (axis : Axis)

theorem mirror_rotate : (state.mirror axis).rotate axis = (state.rotate axis).mirror .i :=
  congrArg (fun velocity => { state with velocity }) (state.velocity.mirror_rotate axis)

theorem toConserved_mirror :
    (state.mirror axis).toConserved thermodynamics =
      (state.toConserved thermodynamics).mirror axis := by
  have square : (state.mirror axis).velocitySquared = state.velocitySquared :=
    PerAxis.dot_mirror _ _ axis
  unfold toConserved energyDensity Conserved.mirror
  rw [square]
  dsimp only [mirror]
  rw [PerAxis.map_mirror (mul_neg state.density)]

/-- Through a face normal to the axis the flux runs the other way. -/
theorem fluxVector_mirror :
    (state.mirror axis).fluxVector axis thermodynamics =
      (state.fluxVector axis thermodynamics).reverse axis := by
  have carried := state.toConserved_mirror thermodynamics axis
  have work : (state.mirror axis).pressureWork axis thermodynamics =
      -state.pressureWork axis thermodynamics := by
    cases thermodynamics <;> simp [pressureWork, pressureTerm, mirror]
  have transport : (state.mirror axis).fluxVector axis thermodynamics =
      ((state.mirror axis).toConserved thermodynamics).transported axis
        ((state.velocity.mirror axis).get axis) (state.pressureTerm thermodynamics)
        ((state.mirror axis).pressureWork axis thermodynamics) := by
    cases thermodynamics <;> rfl
  rw [transport, carried, work, PerAxis.get_mirror_self, Conserved.transported_mirror]
  rfl

/-- A mirrored state in a mirrored metric flows as the mirror shows. -/
theorem flow_mirror (metric : Metric ℝ) (gammaLawIndex baryonMass : ℝ) :
    (state.mirror axis).flow (metric.mirror axis) gammaLawIndex baryonMass =
      (state.flow metric gammaLawIndex baryonMass).mirror axis := by
  have odd (divisor : ℝ) : ∀ x : ℝ, -x / divisor = -(x / divisor) := fun x => neg_div divisor x
  unfold flow mirror RelativisticFlow.mirror
  dsimp only
  rw [Metric.lower_mirror, PerAxis.dot_mirror, PerAxis.map_mirror (odd _),
    PerAxis.map_mirror (odd _)]

end Primitive

namespace RelativisticFlow

variable (flow : RelativisticFlow ℝ) (metric : Metric ℝ) (axis : Axis)

theorem velocitySquared_mirror : (flow.mirror axis).velocitySquared = flow.velocitySquared :=
  PerAxis.dot_mirror _ _ axis

theorem toConserved_mirror :
    (flow.mirror axis).toConserved (metric.mirror axis) = (flow.toConserved metric).mirror axis := by
  unfold toConserved Conserved.mirror mirror
  dsimp only
  rw [Metric.sqrtDeterminant_mirror, PerAxis.map_mirror (mul_neg _)]

/-- Through a face normal to the axis the flux runs the other way. -/
theorem fluxVector_mirror :
    (flow.mirror axis).fluxVector (metric.mirror axis) axis =
      (flow.fluxVector metric axis).reverse axis := by
  have pressure : (metric.mirror axis).lapse * (metric.mirror axis).sqrtDeterminant * flow.pressure =
      metric.lapse * metric.sqrtDeterminant * flow.pressure := by
    rw [Metric.sqrtDeterminant_mirror]
    rfl
  have speed : metric.lapse * (flow.velocityUp.mirror axis).get axis -
      (metric.shift.mirror axis).get axis =
        -(metric.lapse * flow.velocityUp.get axis - metric.shift.get axis) := by
    rw [PerAxis.get_mirror_self, PerAxis.get_mirror_self]
    ring
  have transport : (flow.mirror axis).fluxVector (metric.mirror axis) axis =
      ((flow.mirror axis).toConserved (metric.mirror axis)).transported axis
        (metric.lapse * (flow.velocityUp.mirror axis).get axis -
          (metric.shift.mirror axis).get axis)
        ((metric.mirror axis).lapse * (metric.mirror axis).sqrtDeterminant * flow.pressure)
        ((metric.mirror axis).lapse * (metric.mirror axis).sqrtDeterminant * flow.pressure *
          (flow.velocityUp.mirror axis).get axis) := rfl
  rw [transport, toConserved_mirror, pressure, speed, PerAxis.get_mirror_self, mul_neg,
    Conserved.transported_mirror]
  rfl

theorem waveRadicand_mirror :
    (flow.mirror axis).waveRadicand (metric.mirror axis) axis = flow.waveRadicand metric axis := by
  unfold waveRadicand
  dsimp only
  rw [velocitySquared_mirror, Metric.inverse_component_mirror]
  simp only [mirror, PerAxis.get_mirror_self, neg_mul_neg]

/-- Behind the mirror the slowest wave is the fastest one turned around. -/
theorem characteristicSpeeds_mirror :
    (flow.mirror axis).characteristicSpeeds (metric.mirror axis) axis =
      let speeds := flow.characteristicSpeeds metric axis
      ⟨-speeds.fastest, -speeds.slowest, speeds.clipped⟩ := by
  unfold characteristicSpeeds
  dsimp only
  rw [waveRadicand_mirror, velocitySquared_mirror]
  simp only [mirror, Metric.mirror, PerAxis.get_mirror_self]
  congr 1 <;> ring

end RelativisticFlow

end BlockHydro
