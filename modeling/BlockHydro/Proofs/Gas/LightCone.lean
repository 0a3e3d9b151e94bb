import Mathlib.Analysis.Real.Sqrt
import Mathlib.Tactic.FieldSimp
import Mathlib.Tactic.Linarith
import BlockHydro.Flux.Riemann
import BlockHydro.Proofs.Gas.RelativisticRecovery
import BlockHydro.Proofs.Geometry.Turning

/-!
# Sound waves inside the light cone, in exact arithmetic

A positive definite metric bounds a component of a vector by its length
(`Symmetric.PosDef.sq_get_le`), and a gamma law with an index of at most two keeps
sound slower than light (`Primitive.Accepted.sound_lt_of_le_two`).  Along any axis the waves of such a gas then spread to
either side of the flow (`RelativisticFlow.Causal.drag_le_spread`) but not past
light (`RelativisticFlow.Causal.spread_le`), and the radicand of their speeds is
not negative, so nothing is ever clipped.
-/

namespace BlockHydro

theorem PerAxis.dot_along (v : PerAxis ℝ) (axis : Axis) :
    v.dot (.ofFn axis.along) = v.get axis := by
  cases axis <;> simp [dot, ofFn, Axis.along, get]

namespace Symmetric

/-- The square of a difference, multiplied out. -/
theorem dot_mulVec_sub (g : Symmetric ℝ) (v w : PerAxis ℝ) (a b : ℝ) :
    (v.zipWith (fun first second => a * first - b * second) w).dot
        (g.mulVec (v.zipWith (fun first second => a * first - b * second) w)) =
      a ^ 2 * v.dot (g.mulVec v) - 2 * a * b * v.dot (g.mulVec w) + b ^ 2 * w.dot (g.mulVec w) := by
  simp only [mulVec_eq, PerAxis.dot, PerAxis.zipWith]
  ring

namespace PosDef

variable {g : Symmetric ℝ}

/-- A row of the inverse is the vector that the matrix turns into a unit vector. -/
theorem mulVec_row_inverse (definite : g.PosDef) (axis : Axis) :
    g.mulVec (g.inverse.row axis) = PerAxis.ofFn axis.along := by
  have row : g.inverse.row axis = g.inverse.mulVec (PerAxis.ofFn axis.along) := by
    rw [mulVec_eq]
    cases axis <;> simp [Symmetric.row, component, PerAxis.ofFn, Axis.along]
  rw [row]
  exact (mulVec_inverse definite.determinant_pos.ne' _).2

/-- The inverse has positive entries on its diagonal: they are the squares of its rows. -/
theorem inverse_component_pos (definite : g.PosDef) (axis : Axis) :
    0 < g.inverse.component axis axis := by
  have square := definite (g.inverse.row axis) fun zero => by
    have unit := definite.mulVec_row_inverse axis
    rw [zero, mulVec_eq] at unit
    have component := congrArg (·.get axis) unit
    cases axis <;> simp [PerAxis.replicate, PerAxis.ofFn, PerAxis.get, Axis.along] at component
  rw [definite.mulVec_row_inverse, PerAxis.dot_along] at square
  cases axis <;> exact square

/-- A component of a vector is no longer than the vector, in the scale that the row of the inverse
puts on it. -/
theorem sq_get_le (definite : g.PosDef) (v : PerAxis ℝ) (axis : Axis) :
    v.get axis ^ 2 ≤ g.inverse.component axis axis * v.dot (g.mulVec v) := by
  have diagonal_pos := definite.inverse_component_pos axis
  have own : (g.inverse.row axis).get axis = g.inverse.component axis axis :=
    PerAxis.get_ofFn ..
  -- What is left of the vector once its share along the row is taken away has a square as well.
  have rest := definite.dot_nonneg (v.zipWith
    (fun first second => g.inverse.component axis axis * first - v.get axis * second)
    (g.inverse.row axis))
  rw [dot_mulVec_sub, definite.mulVec_row_inverse, PerAxis.dot_along, PerAxis.dot_along, own] at rest
  have factored : 0 ≤ g.inverse.component axis axis *
      (g.inverse.component axis axis * v.dot (g.mulVec v) - v.get axis ^ 2) := by
    linarith
  exact sub_nonneg.mp (nonneg_of_mul_nonneg_right factored diagonal_pos)

end PosDef

end Symmetric

namespace RelativisticFlow

variable {flow : RelativisticFlow ℝ} {metric : Metric ℝ}

/-- A flow that stays behind light, and so does its sound. -/
structure Causal (flow : RelativisticFlow ℝ) (metric : Metric ℝ) : Prop where
  definite : metric.spatial.PosDef
  lowered : metric.lower flow.velocityUp = flow.velocityDown
  velocitySquared_lt : flow.velocitySquared < 1
  sound_nonneg : 0 ≤ flow.soundSpeedSquared
  sound_lt : flow.soundSpeedSquared < 1

/-- How far the sound waves along an axis lie from their middle, before the scale of the waves. -/
noncomputable def spread (flow : RelativisticFlow ℝ) (metric : Metric ℝ) (axis : Axis) : ℝ :=
  √flow.soundSpeedSquared * √(flow.waveRadicand metric axis)

theorem spread_nonneg (flow : RelativisticFlow ℝ) (metric : Metric ℝ) (axis : Axis) :
    0 ≤ flow.spread metric axis :=
  mul_nonneg (Real.sqrt_nonneg _) (Real.sqrt_nonneg _)

/-- The scale that the motion of the gas puts on its waves. -/
noncomputable def contraction (flow : RelativisticFlow ℝ) : ℝ :=
  1 - flow.velocitySquared * flow.soundSpeedSquared

namespace Causal

/-- Along an axis the flow is slower than light by the factor that it is slower overall. -/
theorem sq_velocity_le (causal : flow.Causal metric) (axis : Axis) :
    flow.velocityUp.get axis ^ 2 ≤
      metric.inverse.component axis axis * flow.velocitySquared := by
  unfold velocitySquared
  rw [← causal.lowered]
  exact causal.definite.sq_get_le flow.velocityUp axis

theorem sq_velocity_le_light (causal : flow.Causal metric) (axis : Axis) :
    flow.velocityUp.get axis ^ 2 ≤ metric.inverse.component axis axis :=
  (causal.sq_velocity_le axis).trans
    (mul_le_of_le_one_right (causal.definite.inverse_component_pos axis).le
      causal.velocitySquared_lt.le)

theorem abs_velocity_le_light (causal : flow.Causal metric) (axis : Axis) :
    |flow.velocityUp.get axis| ≤ √(metric.inverse.component axis axis) :=
  Real.abs_le_sqrt (causal.sq_velocity_le_light axis)

/-- The motion does not contract the waves by more than their sound. -/
theorem sound_le_contraction (causal : flow.Causal metric) :
    1 - flow.soundSpeedSquared ≤ flow.contraction := by
  unfold contraction
  linarith [mul_le_of_le_one_left causal.sound_nonneg causal.velocitySquared_lt.le]

theorem contraction_pos (causal : flow.Causal metric) : 0 < flow.contraction :=
  (sub_pos.mpr causal.sound_lt).trans_le causal.sound_le_contraction

theorem waveRadicand_nonneg (causal : flow.Causal metric) (axis : Axis) :
    0 ≤ flow.waveRadicand metric axis := by
  have slower := mul_le_mul_of_nonneg_right (causal.sq_velocity_le axis)
    (sub_pos.mpr causal.sound_lt).le
  have left : 0 ≤ metric.inverse.component axis axis * (1 - flow.velocitySquared) :=
    mul_nonneg (causal.definite.inverse_component_pos axis).le
      (sub_pos.mpr causal.velocitySquared_lt).le
  unfold waveRadicand
  apply mul_nonneg (sub_pos.mpr causal.velocitySquared_lt).le
  linarith

theorem sq_spread (causal : flow.Causal metric) (axis : Axis) :
    flow.spread metric axis ^ 2 = flow.soundSpeedSquared * flow.waveRadicand metric axis := by
  unfold spread
  rw [mul_pow, Real.sq_sqrt causal.sound_nonneg, Real.sq_sqrt (causal.waveRadicand_nonneg axis)]

/-- The waves spread to either side of the flow. -/
theorem drag_le_spread (causal : flow.Causal metric) (axis : Axis) :
    |flow.velocityUp.get axis * (flow.soundSpeedSquared * (1 - flow.velocitySquared))| ≤
      flow.spread metric axis := by
  have behind := sub_pos.mpr causal.velocitySquared_lt
  have light := sub_nonneg.mpr (causal.sq_velocity_le_light axis)
  -- The squares differ by the distance of the flow from light, along the axis and overall.
  have difference : flow.spread metric axis ^ 2 -
      (flow.velocityUp.get axis * (flow.soundSpeedSquared * (1 - flow.velocitySquared))) ^ 2 =
      flow.soundSpeedSquared * (1 - flow.velocitySquared) * flow.contraction *
        (metric.inverse.component axis axis - flow.velocityUp.get axis ^ 2) := by
    rw [causal.sq_spread]
    unfold waveRadicand contraction
    ring
  apply abs_le_of_sq_le_sq _ (spread_nonneg flow metric axis)
  rw [← sub_nonneg, difference]
  exact mul_nonneg (mul_nonneg (mul_nonneg causal.sound_nonneg behind.le) causal.contraction_pos.le)
    light

/-- The waves do not spread past light on either side. -/
theorem spread_le (causal : flow.Causal metric) (axis : Axis) :
    |flow.velocityUp.get axis| * (1 - flow.soundSpeedSquared) + flow.spread metric axis ≤
      √(metric.inverse.component axis axis) * flow.contraction := by
  have behind := causal.abs_velocity_le_light axis
  have slack := sub_pos.mpr causal.sound_lt
  have room : 0 ≤ √(metric.inverse.component axis axis) * flow.contraction -
      |flow.velocityUp.get axis| * (1 - flow.soundSpeedSquared) :=
    sub_nonneg.mpr (mul_le_mul behind causal.sound_le_contraction slack.le (Real.sqrt_nonneg _))
  -- The squares differ by the square of the distance of the flow from light along the axis.
  have difference : (√(metric.inverse.component axis axis) * flow.contraction -
      |flow.velocityUp.get axis| * (1 - flow.soundSpeedSquared)) ^ 2 - flow.spread metric axis ^ 2 =
      flow.contraction * (1 - flow.soundSpeedSquared) *
        (√(metric.inverse.component axis axis) - |flow.velocityUp.get axis|) ^ 2 := by
    have light := Real.sq_sqrt (causal.definite.inverse_component_pos axis).le
    have velocity := sq_abs (flow.velocityUp.get axis)
    change √(metric.inverse.component axis axis) ^ 2 = metric.inverse.component axis axis at light
    rw [causal.sq_spread]
    unfold waveRadicand contraction
    dsimp only
    rw [← sq, ← velocity]
    generalize √(metric.inverse.component axis axis) = cone at light ⊢
    rw [← light]
    ring
  have squares : flow.spread metric axis ^ 2 ≤
      (√(metric.inverse.component axis axis) * flow.contraction -
        |flow.velocityUp.get axis| * (1 - flow.soundSpeedSquared)) ^ 2 := by
    rw [← sub_nonneg, difference]
    exact mul_nonneg (mul_nonneg causal.contraction_pos.le slack.le) (sq_nonneg _)
  linarith [abs_le_of_sq_le_sq' squares room]

end Causal

/-- The sound waves of a flow along an axis, the flow between them, and light around them. -/
structure WithinLight (flow : RelativisticFlow ℝ) (metric : Metric ℝ) (axis : Axis) : Prop where
  unclipped : (flow.characteristicSpeeds metric axis).clipped = false
  light_le_slowest :
    -metric.lapse * √(metric.inverse.component axis axis) - metric.shift.get axis ≤
      (flow.characteristicSpeeds metric axis).slowest
  slowest_le_transport :
    (flow.characteristicSpeeds metric axis).slowest ≤
      metric.lapse * flow.velocityUp.get axis - metric.shift.get axis
  transport_le_fastest :
    metric.lapse * flow.velocityUp.get axis - metric.shift.get axis ≤
      (flow.characteristicSpeeds metric axis).fastest
  fastest_le_light :
    (flow.characteristicSpeeds metric axis).fastest ≤
      metric.lapse * √(metric.inverse.component axis axis) - metric.shift.get axis

namespace Causal

/-- Without clipping the speeds are the middle of the waves and their spread, in the scale of the
motion and the lapse. -/
theorem characteristicSpeeds_eq (causal : flow.Causal metric) (axis : Axis) :
    flow.characteristicSpeeds metric axis =
      { slowest := metric.lapse / flow.contraction *
          (flow.velocityUp.get axis * (1 - flow.soundSpeedSquared) - flow.spread metric axis) -
            metric.shift.get axis
        fastest := metric.lapse / flow.contraction *
          (flow.velocityUp.get axis * (1 - flow.soundSpeedSquared) + flow.spread metric axis) -
            metric.shift.get axis
        clipped := false } := by
  have unclipped : decide (flow.waveRadicand metric axis < 0) = false :=
    decide_eq_false (causal.waveRadicand_nonneg axis).not_gt
  unfold characteristicSpeeds
  dsimp only
  rw [unclipped]
  rfl

/-- The waves of a causal flow stay within light. -/
theorem withinLight (causal : flow.Causal metric) (lapse_nonneg : 0 ≤ metric.lapse) (axis : Axis) :
    flow.WithinLight metric axis := by
  have scale_pos := causal.contraction_pos
  have slack := sub_pos.mpr causal.sound_lt
  obtain ⟨drag_ge, drag_le⟩ := abs_le.mp (causal.drag_le_spread axis)
  have outer := causal.spread_le axis
  have forward := mul_le_mul_of_nonneg_right (le_abs_self (flow.velocityUp.get axis)) slack.le
  have backward := mul_le_mul_of_nonneg_right (neg_le_abs (flow.velocityUp.get axis)) slack.le
  have middle : flow.velocityUp.get axis * flow.contraction =
      flow.velocityUp.get axis * (1 - flow.soundSpeedSquared) +
        flow.velocityUp.get axis * (flow.soundSpeedSquared * (1 - flow.velocitySquared)) := by
    unfold contraction
    ring
  -- A bound in the scale of the motion is a bound on the speed.
  have scaled_le : ∀ {speed bound : ℝ}, speed ≤ bound * flow.contraction →
      metric.lapse / flow.contraction * speed ≤ metric.lapse * bound := by
    intro speed bound le
    rw [div_mul_eq_mul_div, div_le_iff₀ scale_pos, mul_assoc]
    exact mul_le_mul_of_nonneg_left le lapse_nonneg
  have le_scaled : ∀ {speed bound : ℝ}, bound * flow.contraction ≤ speed →
      metric.lapse * bound ≤ metric.lapse / flow.contraction * speed := by
    intro speed bound le
    rw [div_mul_eq_mul_div, le_div_iff₀ scale_pos, mul_assoc]
    exact mul_le_mul_of_nonneg_left le lapse_nonneg
  have speeds := causal.characteristicSpeeds_eq axis
  constructor <;> rw [speeds] <;> dsimp only
  case light_le_slowest =>
    rw [neg_mul, ← mul_neg]
    exact sub_le_sub_right (le_scaled (by linarith)) _
  case slowest_le_transport => exact sub_le_sub_right (scaled_le (by linarith)) _
  case transport_le_fastest => exact sub_le_sub_right (le_scaled (by linarith)) _
  case fastest_le_light => exact sub_le_sub_right (scaled_le (by linarith)) _

end Causal

end RelativisticFlow

/-- A state with mass, whose pressure may vanish, of a relativistic gas with parameters in range. -/
structure Primitive.Accepted (state : Primitive ℝ) (index baryonMass : ℝ) : Prop where
  index_gt : 1 < index
  baryonMass_pos : 0 < baryonMass
  density_pos : 0 < state.density
  pressure_nonneg : 0 ≤ state.pressure

namespace Primitive.Accepted

variable {state : Primitive ℝ} {metric : Metric ℝ} {index baryonMass : ℝ}

theorem restMass_pos (accepted : state.Accepted index baryonMass) :
    0 < baryonMass * state.density :=
  mul_pos accepted.baryonMass_pos accepted.density_pos

theorem heat_nonneg (accepted : state.Accepted index baryonMass) :
    0 ≤ index / (index - 1) * state.pressure := by
  have index_pos := one_pos.trans accepted.index_gt
  have excess_pos := sub_pos.mpr accepted.index_gt
  exact mul_nonneg (div_pos index_pos excess_pos).le accepted.pressure_nonneg

section Sound

variable (accepted : state.Accepted index baryonMass) (metric : Metric ℝ)

include accepted

theorem enthalpy_eq :
    (state.flow metric index baryonMass).restMassDensity *
        (state.flow metric index baryonMass).specificEnthalpy =
      baryonMass * state.density + index / (index - 1) * state.pressure := by
  have mass_pos := accepted.restMass_pos
  have excess_pos := sub_pos.mpr accepted.index_gt
  change baryonMass * state.density *
    (1 + index / (index - 1) * state.pressure / (baryonMass * state.density)) = _
  generalize baryonMass * state.density = mass at mass_pos
  field_simp

/-- The metric does not show in the sound. -/
theorem soundSpeedSquared_eq :
    (state.flow metric index baryonMass).soundSpeedSquared =
      index * state.pressure /
        (baryonMass * state.density + index / (index - 1) * state.pressure) := by
  rw [← accepted.enthalpy_eq metric]
  rfl

theorem sound_nonneg : 0 ≤ (state.flow metric index baryonMass).soundSpeedSquared := by
  have index_pos := one_pos.trans accepted.index_gt
  rw [accepted.soundSpeedSquared_eq]
  exact div_nonneg (mul_nonneg index_pos.le accepted.pressure_nonneg)
    (add_pos_of_pos_of_nonneg accepted.restMass_pos accepted.heat_nonneg).le

/-- Sound is slower than light while the pressure is low beside the rest mass. -/
theorem sound_lt_iff :
    (state.flow metric index baryonMass).soundSpeedSquared < 1 ↔
      index * (index - 2) * state.pressure < (index - 1) * (baryonMass * state.density) := by
  have excess_pos := sub_pos.mpr accepted.index_gt
  have scaled : (index - 1) * (index / (index - 1) * state.pressure) = index * state.pressure := by
    field_simp
  rw [accepted.soundSpeedSquared_eq,
    div_lt_one (add_pos_of_pos_of_nonneg accepted.restMass_pos accepted.heat_nonneg),
    ← mul_lt_mul_iff_right₀ excess_pos, mul_add, scaled]
  constructor <;> intro slow <;> linarith

/-- Up to an index of two sound is slower than light. -/
theorem sound_lt_of_le_two (index_le : index ≤ 2) :
    (state.flow metric index baryonMass).soundSpeedSquared < 1 := by
  have index_pos := one_pos.trans accepted.index_gt
  have cold : index * (index - 2) * state.pressure ≤ 0 :=
    mul_nonpos_of_nonpos_of_nonneg
      (mul_nonpos_of_nonneg_of_nonpos index_pos.le (sub_nonpos.mpr index_le))
      accepted.pressure_nonneg
  rw [accepted.sound_lt_iff]
  exact cold.trans_lt (mul_pos (sub_pos.mpr accepted.index_gt) accepted.restMass_pos)

end Sound

/-- Only sound can be faster than light. -/
theorem causal_flow (accepted : state.Accepted index baryonMass) (definite : metric.spatial.PosDef)
    (sound_lt : (state.flow metric index baryonMass).soundSpeedSquared < 1) :
    (state.flow metric index baryonMass).Causal metric where
  definite := definite
  lowered := lower_velocityUp_flow ..
  velocitySquared_lt := by
    have lorentz_pos := one_pos.trans_le (one_le_lorentzFactor_flow definite state index baryonMass)
    rw [velocitySquared_flow definite]
    exact sub_lt_self _ (by positivity)
  sound_nonneg := accepted.sound_nonneg metric
  sound_lt := sound_lt

end Primitive.Accepted

/-- A relativistic state with mass, whose pressure may vanish, in a metric that measures lengths. -/
structure Primitive.HasMass (state : Primitive ℝ) (metric : Metric ℝ) (index baryonMass : ℝ) :
    Prop where
  index_gt : 1 < index
  index_le : index ≤ 2
  baryonMass_pos : 0 < baryonMass
  definite : metric.spatial.PosDef
  density_pos : 0 < state.density
  pressure_nonneg : 0 ≤ state.pressure

namespace Primitive.HasMass

variable {state : Primitive ℝ} {metric : Metric ℝ} {index baryonMass : ℝ}

theorem accepted (massive : state.HasMass metric index baryonMass) :
    state.Accepted index baryonMass :=
  ⟨massive.index_gt, massive.baryonMass_pos, massive.density_pos, massive.pressure_nonneg⟩

theorem causal_flow (massive : state.HasMass metric index baryonMass) :
    (state.flow metric index baryonMass).Causal metric :=
  massive.accepted.causal_flow massive.definite
    (massive.accepted.sound_lt_of_le_two metric massive.index_le)

end Primitive.HasMass

namespace EquationOfState

/-- A relativistic flux is clipped where the waves of either state are. -/
theorem clipped_twoWaveFlux {eos : EquationOfState ℝ} {index baryonMass : ℝ}
    (fluid : eos.fluid = .relativistic index baryonMass) (axis : Axis) (metric : Metric ℝ)
    (left right : Primitive ℝ) :
    (eos.twoWaveFlux axis metric left right).clipped =
      (((left.flow metric index baryonMass).characteristicSpeeds metric axis).clipped ||
        ((right.flow metric index baryonMass).characteristicSpeeds metric axis).clipped) := by
  unfold twoWaveFlux
  rw [fluid]
  dsimp only
  rw [Primitive.flow_rotate, Primitive.flow_rotate,
    ← RelativisticFlow.characteristicSpeeds_rotate (left.flow metric index baryonMass),
    ← RelativisticFlow.characteristicSpeeds_rotate (right.flow metric index baryonMass)]
  rfl

/-- Sound waves of a gamma-law gas stay inside the light cone of any metric with a positive lapse,
around the flow and without clipping, so no two-wave flux of the gas is clipped. -/
theorem soundWaves_withinLight {metric : Metric ℝ} {index baryonMass : ℝ}
    (lapse_pos : 0 < metric.lapse) :
    (∀ state : Primitive ℝ, state.HasMass metric index baryonMass → ∀ axis,
      (state.flow metric index baryonMass).WithinLight metric axis) ∧
    ∀ eos : EquationOfState ℝ, eos.fluid = .relativistic index baryonMass →
      ∀ left right : Primitive ℝ, left.HasMass metric index baryonMass →
        right.HasMass metric index baryonMass → ∀ axis,
          (eos.twoWaveFlux axis metric left right).clipped = false := by
  have within : ∀ state : Primitive ℝ, state.HasMass metric index baryonMass → ∀ axis,
      (state.flow metric index baryonMass).WithinLight metric axis :=
    fun state massive axis => massive.causal_flow.withinLight lapse_pos.le axis
  refine ⟨within, ?_⟩
  intro eos fluid left right leftMassive rightMassive axis
  rw [clipped_twoWaveFlux fluid, (within left leftMassive axis).unclipped,
    (within right rightMassive axis).unclipped, Bool.or_false]

/-- A metric that couples two axes, under a lapse and a shift. -/
noncomputable def drifting : Metric ℝ := ⟨tilted.spatial, ⟨0.25, 0, -0.5⟩, 0.5⟩

/-- A cold state that moves against the slanting one. -/
noncomputable def coldStream : Primitive ℝ := ⟨1, ⟨-1, 0, 1⟩, 0⟩

theorem soundWaves_withinLight_drifting :
    (slanting.flow drifting 1.5 1).WithinLight drifting .j ∧
      (hotGas.twoWaveFlux .k drifting slanting coldStream).clipped = false := by
  have lapse_pos : 0 < drifting.lapse := by norm_num [drifting]
  have slantingMass : slanting.HasMass drifting 1.5 1 :=
    ⟨by norm_num, by norm_num, one_pos, isHot_slanting.definite, one_pos, zero_le_one⟩
  have streamMass : coldStream.HasMass drifting 1.5 1 :=
    ⟨by norm_num, by norm_num, one_pos, isHot_slanting.definite, one_pos, le_rfl⟩
  obtain ⟨within, unclipped⟩ := soundWaves_withinLight lapse_pos
  exact ⟨within slanting slantingMass .j,
    unclipped hotGas rfl slanting coldStream slantingMass streamMass .k⟩

end EquationOfState

end BlockHydro
