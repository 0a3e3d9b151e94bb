import Mathlib.Analysis.Real.Sqrt
import Mathlib.Tactic.FieldSimp
import Mathlib.Tactic.Linarith
import Mathlib.Tactic.LinearCombination
import BlockHydro.Gas.EquationOfState
import BlockHydro.Proofs.Gas.PressureResidual
import BlockHydro.Proofs.Geometry.PositiveDefinite

/-!
# Relativistic recovery undoes encoding, in exact arithmetic

Freed of the volume element, the conserved state of a flow no longer shows the
metric (`RelativisticFlow.bare`).  If the flow is physical, that state is timelike
and the pressure of the flow is the root that recovery looks for
(`RelativisticFlow.Physical.isRoot_bare`), so recovery never takes it for a state
without mass or pressure.

Whatever pressure recovery settles on, it hands out the density and the velocity
that the conserved state has at that pressure (`Undensitized.flow_atPressure`), and
at the pressure of the flow these are the ones of the flow.
`EquationOfState.recover_encode` puts this together, and
`EquationOfState.exists_recover_encode` says that only the limit on the search can
keep recovery from an answer.
-/

namespace BlockHydro

namespace RelativisticFlow

/-- The enthalpy per volume in the frame of the coordinates. -/
def inertia (flow : RelativisticFlow ℝ) : ℝ :=
  flow.restMassDensity * flow.specificEnthalpy * flow.lorentzFactor * flow.lorentzFactor

/-- The conserved state of a flow without the volume element. -/
def bare (flow : RelativisticFlow ℝ) : Undensitized ℝ where
  density := flow.restMassDensity * flow.lorentzFactor
  energy := flow.inertia - flow.pressure - flow.restMassDensity * flow.lorentzFactor
  momentumDown := flow.velocityDown.map (flow.inertia * ·)
  momentumUp := flow.velocityUp.map (flow.inertia * ·)

variable {flow : RelativisticFlow ℝ} {metric : Metric ℝ} {index : ℝ}

/-- Dividing by the volume element and raising the momentum leaves nothing of the metric. -/
theorem undensitize_toConserved (definite : metric.spatial.PosDef)
    (lowered : metric.lower flow.velocityUp = flow.velocityDown) :
    (flow.toConserved metric).undensitize metric = flow.bare := by
  have volume_pos := Metric.sqrtDeterminant_pos definite
  have momentumDown : (flow.toConserved metric).momentum.map (· / metric.sqrtDeterminant) =
      flow.velocityDown.map (flow.inertia * ·) := by
    unfold toConserved inertia PerAxis.map
    congr 1 <;> field_simp
  have momentumUp : metric.raise (flow.velocityDown.map (flow.inertia * ·)) =
      flow.velocityUp.map (flow.inertia * ·) := by
    rw [← lowered, Metric.raise, Symmetric.mulVec_map_mul]
    exact congrArg (PerAxis.map (flow.inertia * ·)) (Metric.raise_lower definite _)
  unfold Conserved.undensitize bare
  dsimp only
  rw [momentumDown, momentumUp]
  unfold toConserved inertia
  congr 1 <;> field_simp

theorem inertia_bare (flow : RelativisticFlow ℝ) :
    flow.bare.inertia flow.pressure = flow.inertia := by
  unfold Undensitized.inertia bare
  ring

theorem total_bare (flow : RelativisticFlow ℝ) :
    flow.bare.energy + flow.bare.density = flow.inertia - flow.pressure := by
  unfold bare
  ring

theorem momentumSquared_bare (flow : RelativisticFlow ℝ) :
    flow.bare.momentumSquared = flow.inertia ^ 2 * flow.velocitySquared := by
  unfold Undensitized.momentumSquared bare velocitySquared PerAxis.dot PerAxis.map
  ring

/-- A gas with mass and pressure that stays behind light. -/
structure Physical (flow : RelativisticFlow ℝ) (index : ℝ) : Prop where
  index_gt : 1 < index
  index_le : index ≤ 2
  mass_pos : 0 < flow.restMassDensity
  pressure_pos : 0 < flow.pressure
  one_le_lorentzFactor : 1 ≤ flow.lorentzFactor
  velocitySquared_eq : flow.velocitySquared = 1 - 1 / flow.lorentzFactor ^ 2
  enthalpy_eq :
    (index - 1) * (flow.restMassDensity * flow.specificEnthalpy - flow.restMassDensity) =
      index * flow.pressure

namespace Physical

theorem lorentzFactor_pos (physical : flow.Physical index) : 0 < flow.lorentzFactor :=
  one_pos.trans_le physical.one_le_lorentzFactor

/-- Up to an index of two the pressure stays below half of the enthalpy. -/
theorem enthalpy_gt (physical : flow.Physical index) :
    2 * flow.pressure < flow.restMassDensity * flow.specificEnthalpy := by
  obtain ⟨index_gt, index_le, mass_pos, pressure_pos, -, -, enthalpy_eq⟩ := physical
  nlinarith

theorem enthalpy_le_inertia (physical : flow.Physical index) :
    flow.restMassDensity * flow.specificEnthalpy ≤ flow.inertia := by
  have enthalpy_gt := physical.enthalpy_gt
  have pressure_pos := physical.pressure_pos
  have one_le := one_le_mul_of_one_le_of_one_le physical.one_le_lorentzFactor
    physical.one_le_lorentzFactor
  unfold inertia
  rw [mul_assoc]
  exact le_mul_of_one_le_right (by linarith) one_le

theorem inertia_pos (physical : flow.Physical index) : 0 < flow.inertia := by
  linarith [physical.enthalpy_gt, physical.enthalpy_le_inertia, physical.pressure_pos]

theorem momentumSquared_eq (physical : flow.Physical index) :
    flow.bare.momentumSquared =
      flow.inertia ^ 2 - flow.inertia * (flow.restMassDensity * flow.specificEnthalpy) := by
  have lorentz_pos := physical.lorentzFactor_pos
  rw [momentumSquared_bare, physical.velocitySquared_eq]
  unfold inertia
  field_simp

/-- The conserved state of a physical flow has mass and lies inside the light cone. -/
theorem timelike_bare (physical : flow.Physical index) : flow.bare.Timelike := by
  have lorentz_pos := physical.lorentzFactor_pos
  have pressure_pos := physical.pressure_pos
  have enthalpy_gt := physical.enthalpy_gt
  have enthalpy_le := physical.enthalpy_le_inertia
  constructor
  · exact mul_pos physical.mass_pos lorentz_pos
  · rw [physical.momentumSquared_eq]
    nlinarith
  · rw [total_bare]
    linarith
  · -- What remains is the inertia times the enthalpy beyond twice the pressure, and a square.
    rw [total_bare, physical.momentumSquared_eq]
    nlinarith

/-- The pressure of a physical flow is the root of the residual of its conserved state. -/
theorem isRoot_bare (physical : flow.Physical index) : flow.bare.IsRoot index flow.pressure := by
  refine ⟨physical.timelike_bare, physical.index_gt, physical.index_le, physical.pressure_pos.le,
    ?_⟩
  have lorentz_pos := physical.lorentzFactor_pos
  have inertia_pos := physical.inertia_pos
  have massFactor :
      √(1 - flow.bare.momentumSquared / flow.inertia ^ 2) = 1 / flow.lorentzFactor := by
    have quotient :
        1 - flow.bare.momentumSquared / flow.inertia ^ 2 = (1 / flow.lorentzFactor) ^ 2 := by
      rw [momentumSquared_bare, mul_div_cancel_left₀ _ (pow_pos inertia_pos 2).ne',
        physical.velocitySquared_eq]
      ring
    rw [quotient, Real.sqrt_sq (by positivity)]
  have momentumTerm : flow.bare.momentumSquared / flow.inertia =
      flow.inertia - flow.restMassDensity * flow.specificEnthalpy := by
    rw [physical.momentumSquared_eq]
    field_simp
  have massTerm : flow.bare.density * (1 / flow.lorentzFactor) = flow.restMassDensity := by
    unfold bare
    field_simp
  unfold Undensitized.excess
  rw [inertia_bare, massFactor, momentumTerm, massTerm]
  unfold bare
  linear_combination physical.enthalpy_eq

end Physical

end RelativisticFlow

namespace Undensitized

variable {state : Undensitized ℝ} {metric : Metric ℝ} {baryonMass pressure : ℝ}

/-- The Lorentz factor of a conserved state at a pressure. -/
noncomputable def lorentzFactor (state : Undensitized ℝ) (pressure : ℝ) : ℝ :=
  state.inertia pressure /
    √(state.inertia pressure * state.inertia pressure - state.momentumSquared)

theorem velocity_atPressure (state : Undensitized ℝ) (baryonMass pressure : ℝ) :
    (state.atPressure baryonMass pressure).velocity =
      state.momentumUp.map (state.lorentzFactor pressure / state.inertia pressure * ·) := by
  unfold atPressure PerAxis.map lorentzFactor
  dsimp only
  rw [Exact.sqrt_eq]
  congr 1 <;> ring

namespace Timelike

theorem lorentzFactor_pos (timelike : state.Timelike) (pressure_nonneg : 0 ≤ pressure) :
    0 < state.lorentzFactor pressure :=
  div_pos (timelike.inertia_pos pressure_nonneg)
    (Real.sqrt_pos.mpr (timelike.slack_pos pressure_nonneg))

/-- The Lorentz factor belongs to the velocity that the momentum has at the pressure. -/
theorem lorentzFactor_sq (timelike : state.Timelike) (pressure_nonneg : 0 ≤ pressure) :
    1 + (state.lorentzFactor pressure / state.inertia pressure) ^ 2 * state.momentumSquared =
      state.lorentzFactor pressure ^ 2 := by
  have inertia_pos := timelike.inertia_pos pressure_nonneg
  have slack_pos := timelike.slack_pos pressure_nonneg
  have ratio : state.lorentzFactor pressure / state.inertia pressure =
      1 / √(state.inertia pressure * state.inertia pressure - state.momentumSquared) := by
    unfold lorentzFactor
    field_simp
  rw [ratio, lorentzFactor, div_pow, div_pow, Real.sq_sqrt slack_pos.le]
  generalize slack_eq : state.inertia pressure * state.inertia pressure - state.momentumSquared =
    slack at slack_pos
  have split : state.inertia pressure ^ 2 = slack + state.momentumSquared := by linarith
  rw [split]
  field_simp

/-- The state handed out for a pressure has the Lorentz factor of the conserved state there. -/
theorem lorentzFactor_atPressure (timelike : state.Timelike) (pressure_nonneg : 0 ≤ pressure)
    (lowered : metric.lower state.momentumUp = state.momentumDown) (index baryonMass : ℝ) :
    ((state.atPressure baryonMass pressure).flow metric index baryonMass).lorentzFactor =
      state.lorentzFactor pressure := by
  have lorentz_pos := timelike.lorentzFactor_pos pressure_nonneg
  have square : (state.atPressure baryonMass pressure).velocity.dot
      (metric.lower (state.atPressure baryonMass pressure).velocity) =
      (state.lorentzFactor pressure / state.inertia pressure) ^ 2 * state.momentumSquared := by
    rw [velocity_atPressure, Metric.lower, Symmetric.mulVec_map_mul]
    rw [show metric.spatial.mulVec state.momentumUp = state.momentumDown from lowered]
    unfold momentumSquared PerAxis.dot PerAxis.map
    ring
  change √(1 + _) = _
  rw [square, timelike.lorentzFactor_sq pressure_nonneg, Real.sqrt_sq lorentz_pos.le]

/-- The state handed out for a pressure has the rest mass of the conserved state, and the velocity of
its momentum at that pressure. -/
theorem flow_atPressure (timelike : state.Timelike) (pressure_nonneg : 0 ≤ pressure)
    (lowered : metric.lower state.momentumUp = state.momentumDown) (index : ℝ)
    (baryonMass_pos : 0 < baryonMass) :
    let flow := (state.atPressure baryonMass pressure).flow metric index baryonMass
    flow.restMassDensity * flow.lorentzFactor = state.density ∧
      flow.velocityUp = state.momentumUp.map (· / state.inertia pressure) := by
  have lorentz_pos := timelike.lorentzFactor_pos pressure_nonneg
  have inertia_pos := timelike.inertia_pos pressure_nonneg
  have lorentz := timelike.lorentzFactor_atPressure pressure_nonneg lowered index
    baryonMass
  intro flow
  constructor
  · rw [lorentz]
    change baryonMass * (state.density / state.lorentzFactor pressure / baryonMass) * _ = _
    field_simp
  · have divided : flow.velocityUp = (state.atPressure baryonMass pressure).velocity.map
        (· / flow.lorentzFactor) := rfl
    rw [divided, lorentz, velocity_atPressure]
    unfold PerAxis.map
    congr 1 <;> field_simp

end Timelike

end Undensitized

namespace RelativisticFlow

variable {flow : RelativisticFlow ℝ} {index : ℝ}

/-- At the pressure of a physical flow its conserved state has the Lorentz factor of the flow. -/
theorem Physical.lorentzFactor_bare (physical : flow.Physical index) :
    flow.bare.lorentzFactor flow.pressure = flow.lorentzFactor := by
  have lorentz_pos := physical.lorentzFactor_pos
  have enthalpy_pos : 0 < flow.restMassDensity * flow.specificEnthalpy := by
    linarith [physical.enthalpy_gt, physical.pressure_pos]
  have slack : flow.inertia * flow.inertia - flow.bare.momentumSquared =
      (flow.restMassDensity * flow.specificEnthalpy * flow.lorentzFactor) ^ 2 := by
    rw [physical.momentumSquared_eq]
    unfold inertia
    ring
  unfold Undensitized.lorentzFactor
  rw [inertia_bare, slack, Real.sqrt_sq (by positivity), div_eq_iff (by positivity)]
  unfold inertia
  ring

/-- At the pressure of a physical flow its conserved state hands out the density and velocity of the
flow. -/
theorem Physical.atPressure_bare (physical : flow.Physical index) (baryonMass : ℝ) :
    flow.bare.atPressure baryonMass flow.pressure =
      ⟨flow.restMassDensity / baryonMass, flow.velocityUp.map (flow.lorentzFactor * ·),
        flow.pressure⟩ := by
  have lorentz_pos := physical.lorentzFactor_pos
  have inertia_pos := physical.inertia_pos
  have density : flow.bare.density / flow.lorentzFactor = flow.restMassDensity := by
    unfold bare
    field_simp
  have velocity : flow.bare.momentumUp.map (flow.lorentzFactor / flow.inertia * ·) =
      flow.velocityUp.map (flow.lorentzFactor * ·) := by
    unfold bare PerAxis.map
    congr 1 <;> field_simp
  have handed : flow.bare.atPressure baryonMass flow.pressure =
      ⟨flow.bare.density / flow.bare.lorentzFactor flow.pressure / baryonMass,
        (flow.bare.atPressure baryonMass flow.pressure).velocity, flow.pressure⟩ := rfl
  rw [handed, Undensitized.velocity_atPressure, physical.lorentzFactor_bare, inertia_bare, density,
    velocity]

end RelativisticFlow

/-- A relativistic state with mass and pressure, in a metric that measures lengths. -/
structure Primitive.IsHot (state : Primitive ℝ) (metric : Metric ℝ) (index baryonMass : ℝ) :
    Prop where
  index_gt : 1 < index
  index_le : index ≤ 2
  baryonMass_pos : 0 < baryonMass
  definite : metric.spatial.PosDef
  density_pos : 0 < state.density
  pressure_pos : 0 < state.pressure

namespace Primitive

variable {state : Primitive ℝ} {metric : Metric ℝ} {index baryonMass : ℝ}

theorem lower_velocityUp_flow (state : Primitive ℝ) (metric : Metric ℝ) (index baryonMass : ℝ) :
    metric.lower (state.flow metric index baryonMass).velocityUp =
      (state.flow metric index baryonMass).velocityDown := by
  unfold flow Metric.lower
  simp only [Symmetric.mulVec_eq, PerAxis.map, PerAxis.mk.injEq]
  refine ⟨?_, ?_, ?_⟩ <;> ring

section Motion

variable (definite : metric.spatial.PosDef) (state : Primitive ℝ) (index baryonMass : ℝ)

include definite

theorem lorentzFactor_sq_flow :
    (state.flow metric index baryonMass).lorentzFactor ^ 2 =
      1 + state.velocity.dot (metric.lower state.velocity) := by
  have square_nonneg : 0 ≤ state.velocity.dot (metric.lower state.velocity) :=
    definite.dot_nonneg _
  exact Real.sq_sqrt (by linarith)

theorem one_le_lorentzFactor_flow : 1 ≤ (state.flow metric index baryonMass).lorentzFactor := by
  have square_nonneg : 0 ≤ state.velocity.dot (metric.lower state.velocity) :=
    definite.dot_nonneg _
  exact Real.one_le_sqrt.mpr (by linarith)

/-- No flow is as fast as light. -/
theorem velocitySquared_flow :
    (state.flow metric index baryonMass).velocitySquared =
      1 - 1 / (state.flow metric index baryonMass).lorentzFactor ^ 2 := by
  have lorentz_pos := one_pos.trans_le (one_le_lorentzFactor_flow definite state index baryonMass)
  have divided : (state.flow metric index baryonMass).velocitySquared =
      state.velocity.dot (metric.lower state.velocity) /
        (state.flow metric index baryonMass).lorentzFactor ^ 2 := by
    unfold RelativisticFlow.velocitySquared flow PerAxis.dot PerAxis.map
    ring
  rw [divided, eq_sub_of_add_eq' (lorentzFactor_sq_flow definite state index baryonMass).symm]
  field_simp

end Motion

namespace IsHot

theorem lorentzFactor_sq (hot : state.IsHot metric index baryonMass) :
    (state.flow metric index baryonMass).lorentzFactor ^ 2 =
      1 + state.velocity.dot (metric.lower state.velocity) :=
  lorentzFactor_sq_flow hot.definite ..

theorem one_le_lorentzFactor (hot : state.IsHot metric index baryonMass) :
    1 ≤ (state.flow metric index baryonMass).lorentzFactor :=
  one_le_lorentzFactor_flow hot.definite ..

/-- The flow of such a state is physical. -/
theorem physical_flow (hot : state.IsHot metric index baryonMass) :
    (state.flow metric index baryonMass).Physical index where
  index_gt := hot.index_gt
  index_le := hot.index_le
  mass_pos := mul_pos hot.baryonMass_pos hot.density_pos
  pressure_pos := hot.pressure_pos
  one_le_lorentzFactor := hot.one_le_lorentzFactor
  velocitySquared_eq := velocitySquared_flow hot.definite ..
  enthalpy_eq := by
    have mass_pos := mul_pos hot.baryonMass_pos hot.density_pos
    have excess_pos := sub_pos.mpr hot.index_gt
    change (index - 1) * (baryonMass * state.density *
      (1 + index / (index - 1) * state.pressure / (baryonMass * state.density)) -
        baryonMass * state.density) = index * state.pressure
    generalize baryonMass * state.density = mass at mass_pos
    field_simp
    ring

/-- Recovery at the pressure of the state gives back the state. -/
theorem atPressure_bare (hot : state.IsHot metric index baryonMass) :
    (state.flow metric index baryonMass).bare.atPressure baryonMass state.pressure = state := by
  have lorentz_pos := one_pos.trans_le hot.one_le_lorentzFactor
  refine (hot.physical_flow.atPressure_bare baryonMass).trans ?_
  have density : (state.flow metric index baryonMass).restMassDensity / baryonMass = state.density :=
    mul_div_cancel_left₀ _ hot.baryonMass_pos.ne'
  have velocity : (state.flow metric index baryonMass).velocityUp.map
      ((state.flow metric index baryonMass).lorentzFactor * ·) = state.velocity := by
    have divided : (state.flow metric index baryonMass).velocityUp =
        state.velocity.map (· / (state.flow metric index baryonMass).lorentzFactor) := rfl
    rw [divided]
    unfold PerAxis.map
    congr 1 <;> field_simp
  rw [density, velocity]
  rfl

/-- The conserved state of such a state has the pressure as its root. -/
theorem isRoot_undensitize (hot : state.IsHot metric index baryonMass) :
    (((state.flow metric index baryonMass).toConserved metric).undensitize metric).IsRoot index
      state.pressure := by
  rw [RelativisticFlow.undensitize_toConserved hot.definite (lower_velocityUp_flow ..)]
  exact hot.physical_flow.isRoot_bare

end IsHot

end Primitive

/-- What a state recovered from a conserved one shares with it and with the state that was encoded. -/
structure Conserved.Recovered (conserved : Conserved ℝ) (metric : Metric ℝ)
    (index baryonMass tolerance : ℝ) (encoded found : Primitive ℝ) : Prop where
  /-- The pressure is as close as asked. -/
  pressure_close : |found.pressure - encoded.pressure| ≤ tolerance * found.pressure
  /-- The rest mass is that of the conserved state. -/
  restMass_eq : (found.flow metric index baryonMass).restMassDensity *
    (found.flow metric index baryonMass).lorentzFactor = conserved.density / metric.sqrtDeterminant
  /-- The velocity is the momentum over energy, rest mass and pressure. -/
  velocityUp_eq : (found.flow metric index baryonMass).velocityUp =
    (metric.raise (conserved.momentum.map (· / metric.sqrtDeterminant))).map
      (· / (conserved.energy / metric.sqrtDeterminant + conserved.density / metric.sqrtDeterminant +
        found.pressure))
  /-- Nothing but the pressure can be wrong. -/
  eq_of_pressure_eq : found.pressure = encoded.pressure → found = encoded

/-- The state handed out for a pressure that is close to that of the encoded state. -/
theorem Primitive.IsHot.recovered_atPressure {state : Primitive ℝ} {metric : Metric ℝ}
    {index baryonMass tolerance pressure : ℝ} (hot : state.IsHot metric index baryonMass)
    (pressure_nonneg : 0 ≤ pressure) (close : |pressure - state.pressure| ≤ tolerance * pressure) :
    ((state.flow metric index baryonMass).toConserved metric).Recovered metric index baryonMass
      tolerance state
      ((((state.flow metric index baryonMass).toConserved metric).undensitize metric).atPressure
        baryonMass pressure) := by
  have handed := hot.isRoot_undensitize.timelike.flow_atPressure pressure_nonneg
    (Metric.lower_raise hot.definite _) index hot.baryonMass_pos
  refine ⟨close, handed.1, handed.2, fun same => ?_⟩
  rw [RelativisticFlow.undensitize_toConserved hot.definite (lower_velocityUp_flow ..)]
  exact (congrArg _ same).trans hot.atPressure_bare

namespace EquationOfState

variable {eos : EquationOfState ℝ} {metric : Metric ℝ} {index baryonMass : ℝ} {state : Primitive ℝ}

/-- Diagnostic recovery of a relativistic gas is the search for its pressure. -/
theorem recover_relativistic {R : Type} [Scalar R] {eos : EquationOfState R} {index baryonMass : R}
    (fluid : eos.fluid = .relativistic index baryonMass) (metric : Metric R)
    (conserved : Conserved R) :
    eos.recover .diagnostic metric conserved =
      conserved.toRelativisticPrimitive metric index baryonMass eos.floors.pressure eos.search := by
  rw [recover_diagnostic]
  unfold decode
  rw [fluid]

theorem encode_relativistic (fluid : eos.fluid = .relativistic index baryonMass)
    (metric : Metric ℝ) (state : Primitive ℝ) :
    eos.encode metric state = (state.flow metric index baryonMass).toConserved metric := by
  unfold encode
  rw [fluid]

/-- From some limit on recovery of an encoded state with mass and pressure finds one. -/
theorem exists_recover_encode (fluid : eos.fluid = .relativistic index baryonMass)
    (hot : state.IsHot metric index baryonMass) {tolerance : ℝ} (tolerance_pos : 0 < tolerance) :
    ∃ limit, ∀ maxIterations, limit ≤ maxIterations → ∃ found,
      (eos.withSearch ⟨tolerance, maxIterations⟩).recover .diagnostic metric
        (eos.encode metric state) = .ok found := by
  obtain ⟨limit, succeeds⟩ := Conserved.exists_toRelativisticPrimitive hot.isRoot_undensitize
    hot.pressure_pos baryonMass eos.floors.pressure tolerance_pos
  refine ⟨limit, fun maxIterations enough => ?_⟩
  obtain ⟨found, recovered⟩ := succeeds maxIterations enough
  have sameFluid :
      (eos.withSearch ⟨tolerance, maxIterations⟩).fluid = .relativistic index baryonMass := fluid
  rw [encode_relativistic fluid, recover_relativistic sameFluid]
  exact ⟨found, recovered⟩

/-- Recovery of an encoded state with mass and pressure never misses either.  It runs out of
iterations, or it finds a pressure as close as asked and the density and velocity that the conserved
state has there. -/
theorem recover_encode (fluid : eos.fluid = .relativistic index baryonMass)
    (tolerance_pos : 0 < eos.search.tolerance) (hot : state.IsHot metric index baryonMass) :
    eos.recover .diagnostic metric (eos.encode metric state) =
        .error (.rootFinderFailed (eos.search.maxIterations + 1)) ∨
      ∃ found, eos.recover .diagnostic metric (eos.encode metric state) = .ok found ∧
        (eos.encode metric state).Recovered metric index baryonMass eos.search.tolerance state
          found := by
  rw [recover_relativistic fluid, encode_relativistic fluid]
  refine (Conserved.toRelativisticPrimitive_of_isRoot hot.isRoot_undensitize baryonMass
    eos.floors.pressure eos.search).imp_right ?_
  rintro ⟨bracket, encloses, narrow, found⟩
  exact ⟨_, found, hot.recovered_atPressure encloses.middle_nonneg
    (encloses.abs_middle_sub_le tolerance_pos.le narrow)⟩

/-- A metric that couples two axes. -/
noncomputable def tilted : Metric ℝ := ⟨⟨1, 0.5, 0, 1, 0, 1⟩, .replicate 0, 1⟩

/-- A relativistic gas of index three halves with the floors and the search in use by default. -/
noncomputable def hotGas : EquationOfState ℝ := ⟨.relativistic 1.5 1, .standard, .standard⟩

/-- A state that moves across the coupled axes, as hot as heavy. -/
noncomputable def slanting : Primitive ℝ := ⟨1, ⟨1, 0, 1⟩, 1⟩

theorem isHot_slanting : slanting.IsHot tilted 1.5 1 where
  index_gt := by norm_num
  index_le := by norm_num
  baryonMass_pos := one_pos
  density_pos := one_pos
  pressure_pos := one_pos
  definite := by
    intro ⟨i, j, k⟩ nonzero
    have square : (⟨i, j, k⟩ : PerAxis ℝ).dot (tilted.spatial.mulVec ⟨i, j, k⟩) =
        ((i + j) ^ 2 + i ^ 2 + j ^ 2) / 2 + k ^ 2 := by
      simp only [Symmetric.mulVec_eq, PerAxis.dot, tilted]
      ring
    rw [square]
    contrapose! nonzero
    have first : i = 0 := by nlinarith [sq_nonneg (i + j), sq_nonneg j, sq_nonneg k]
    have second : j = 0 := by nlinarith [sq_nonneg (i + j), sq_nonneg i, sq_nonneg k]
    have third : k = 0 := by nlinarith [sq_nonneg (i + j), sq_nonneg i, sq_nonneg j]
    rw [first, second, third, PerAxis.replicate]

/-- The search for the pressure of the slanting state starts below six. -/
theorem excess_slanting_le :
    (((slanting.flow tilted 1.5 1).toConserved tilted).undensitize tilted).excess 1.5 0 ≤ 6 := by
  have square : slanting.velocity.dot (tilted.lower slanting.velocity) = 2 := by
    unfold Metric.lower
    rw [Symmetric.mulVec_eq]
    norm_num [slanting, tilted, PerAxis.dot]
  have lorentz := isHot_slanting.lorentzFactor_sq
  rw [square] at lorentz
  have inertia : (slanting.flow tilted 1.5 1).inertia = 12 := by
    have enthalpy : (slanting.flow tilted 1.5 1).restMassDensity *
        (slanting.flow tilted 1.5 1).specificEnthalpy = 4 := by
      norm_num [Primitive.flow, slanting]
    rw [RelativisticFlow.inertia, enthalpy, mul_assoc, ← sq, lorentz]
    norm_num
  refine (Undensitized.excess_zero_le isHot_slanting.isRoot_undensitize.timelike
    isHot_slanting.index_gt).trans ?_
  rw [RelativisticFlow.undensitize_toConserved isHot_slanting.definite
    (Primitive.lower_velocityUp_flow ..), RelativisticFlow.total_bare, inertia]
  norm_num [Primitive.flow, slanting]

/-- The default search recovers the slanting state from its conserved state. -/
theorem recover_encode_slanting : ∃ found,
    hotGas.recover .diagnostic tilted (hotGas.encode tilted slanting) = .ok found ∧
      (hotGas.encode tilted slanting).Recovered tilted 1.5 1 1e-12 slanting found := by
  have tolerance_pos : (0 : ℝ) < 1e-12 := by norm_num
  obtain ⟨high, high_eq⟩ : ∃ high, max ((((slanting.flow tilted 1.5 1).toConserved
      tilted).undensitize tilted).excess 1.5 0) 1e-12 = high := ⟨_, rfl⟩
  have floor_le : 1e-12 ≤ high := high_eq ▸ le_max_right _ _
  have high_le : high ≤ 6 := high_eq ▸ max_le excess_slanting_le (by norm_num)
  have reaches : slanting.pressure < high * 2 ^ 40 := by
    change 1 < high * 2 ^ 40
    linarith
  have enough : max high (2 * slanting.pressure) ≤ 1e-12 * slanting.pressure * 2 ^ 43 := by
    change max high (2 * 1) ≤ 1e-12 * 1 * 2 ^ 43
    exact max_le (by linarith) (by norm_num)
  obtain ⟨found, finds⟩ : ∃ found,
      hotGas.recover .diagnostic tilted (hotGas.encode tilted slanting) = .ok found := by
    rw [recover_relativistic rfl, encode_relativistic rfl]
    exact Conserved.toRelativisticPrimitive_succeeds isHot_slanting.isRoot_undensitize 1 1e-12
      .standard tolerance_pos.le high_eq reaches enough (show 40 + 43 ≤ 100 by decide)
  obtain failed | recovered := recover_encode (rfl : hotGas.fluid = _) tolerance_pos isHot_slanting
  · cases finds.symm.trans failed
  · exact recovered

end EquationOfState

end BlockHydro
