import Mathlib.Analysis.Real.Sqrt
import Mathlib.Tactic.FieldSimp
import Mathlib.Tactic.Linarith
import BlockHydro.Proofs.Flux.SignalBound
import BlockHydro.Proofs.Gas.LightCone
import BlockHydro.Proofs.Gas.RecoveryClassification
import BlockHydro.Proofs.Geometry.FaceMetrics
import BlockHydro.Proofs.Setup.Acceptance

/-!
# Causal states of accepted gases, in exact arithmetic

A relativistic gas is accepted whatever its index beyond one.  The pressure of a
state then decides whether sound is slower than light
(`Primitive.Accepted.sound_lt_iff`), and together with the Lorentz factor whether
the energy of the encoded state covers its rest mass and momentum
(`Primitive.Accepted.inCone_bare_iff`).  Where sound is slower than light the waves
are not faster either and recovery finds a pressure to start from
(`EquationOfState.causalAt_of_sound_lt`).  That is so in every state of a gas with
an index of at most two, and fails in some state of any other.
-/

namespace BlockHydro

namespace Primitive.Accepted

variable {state : Primitive ℝ} {metric : Metric ℝ} {index baryonMass : ℝ}

section Encoded

variable (accepted : state.Accepted index baryonMass) (definite : metric.spatial.PosDef)

include accepted

theorem inertia_eq (metric : Metric ℝ) :
    (state.flow metric index baryonMass).inertia =
      (baryonMass * state.density + index / (index - 1) * state.pressure) *
        (state.flow metric index baryonMass).lorentzFactor ^ 2 := by
  rw [RelativisticFlow.inertia, accepted.enthalpy_eq]
  ring

include definite

theorem density_bare_pos : 0 < (state.flow metric index baryonMass).bare.density :=
  mul_pos accepted.restMass_pos (one_pos.trans_le (one_le_lorentzFactor_flow definite ..))

theorem total_bare_pos :
    0 < (state.flow metric index baryonMass).bare.energy +
      (state.flow metric index baryonMass).bare.density := by
  have index_gt := accepted.index_gt
  have mass_pos := accepted.restMass_pos
  have pressure_le : state.pressure ≤ index / (index - 1) * state.pressure :=
    le_mul_of_one_le_left accepted.pressure_nonneg
      ((one_le_div (sub_pos.mpr index_gt)).mpr (by linarith))
  have moving := le_mul_of_one_le_right (add_nonneg mass_pos.le accepted.heat_nonneg)
    (one_le_pow₀ (one_le_lorentzFactor_flow definite state index baryonMass) : _ ≤ _ ^ 2)
  rw [RelativisticFlow.total_bare, accepted.inertia_eq, sub_pos]
  change state.pressure < _
  linarith

/-- What the energy of an encoded state leaves beside its rest mass and momentum. -/
theorem cone_bare :
    let flow := state.flow metric index baryonMass
    (index - 1) ^ 2 * ((flow.bare.energy + flow.bare.density) ^ 2 -
        (flow.bare.density ^ 2 + flow.bare.momentumSquared)) =
      state.pressure * ((index - 1) ^ 2 * state.pressure - flow.lorentzFactor ^ 2 *
        (index * (index - 2) * state.pressure -
          2 * ((index - 1) * (baryonMass * state.density)))) := by
  intro flow
  have excess_pos := sub_pos.mpr accepted.index_gt
  have lorentz_pos : 0 < flow.lorentzFactor :=
    one_pos.trans_le (one_le_lorentzFactor_flow definite ..)
  have inertia : flow.inertia = _ := accepted.inertia_eq metric
  have momentum : flow.bare.momentumSquared = flow.inertia ^ 2 -
      flow.inertia ^ 2 / flow.lorentzFactor ^ 2 := by
    have behind : flow.velocitySquared = _ := velocitySquared_flow definite ..
    rw [RelativisticFlow.momentumSquared_bare, behind]
    ring
  have rest : flow.bare.density = baryonMass * state.density * flow.lorentzFactor := rfl
  have pressure : flow.pressure = state.pressure := rfl
  rw [RelativisticFlow.total_bare, momentum, rest, inertia, pressure]
  generalize baryonMass * state.density = mass
  field_simp
  ring

/-- An encoded state fits into its energy unless the gas is hot and swift. -/
theorem inCone_bare_iff :
    (state.flow metric index baryonMass).bare.InCone ↔
      (state.flow metric index baryonMass).lorentzFactor ^ 2 *
          (index * (index - 2) * state.pressure -
            2 * ((index - 1) * (baryonMass * state.density))) ≤
        (index - 1) ^ 2 * state.pressure := by
  have scale_pos := pow_pos (sub_pos.mpr accepted.index_gt) 2
  have fits : (state.flow metric index baryonMass).bare.InCone ↔
      0 ≤ (index - 1) ^ 2 * (((state.flow metric index baryonMass).bare.energy +
        (state.flow metric index baryonMass).bare.density) ^ 2 -
          ((state.flow metric index baryonMass).bare.density ^ 2 +
            (state.flow metric index baryonMass).bare.momentumSquared)) := by
    rw [mul_nonneg_iff_of_pos_left scale_pos, sub_nonneg]
    exact ⟨fun inCone => inCone.cone, fun cone => ⟨accepted.total_bare_pos definite, cone⟩⟩
  rw [fits, accepted.cone_bare definite]
  rcases accepted.pressure_nonneg.eq_or_lt with cold | hot
  · -- Without pressure the energy is that of the mass in motion, and nothing is left of it.
    have rest := mul_pos (sub_pos.mpr accepted.index_gt) accepted.restMass_pos
    rw [← cold]
    simp only [zero_mul, mul_zero, zero_sub, le_refl, true_iff]
    exact mul_nonpos_of_nonneg_of_nonpos (sq_nonneg _) (by linarith)
  · rw [mul_nonneg_iff_of_pos_left hot, sub_nonneg]

theorem inCone_bare (sound_lt : (state.flow metric index baryonMass).soundSpeedSquared < 1) :
    (state.flow metric index baryonMass).bare.InCone := by
  have rest := mul_pos (sub_pos.mpr accepted.index_gt) accepted.restMass_pos
  have cold := (accepted.sound_lt_iff metric).mp sound_lt
  rw [accepted.inCone_bare_iff definite]
  exact (mul_nonpos_of_nonneg_of_nonpos (sq_nonneg _) (by linarith)).trans
    (mul_nonneg (sq_nonneg _) accepted.pressure_nonneg)

end Encoded

end Primitive.Accepted

/-- The slowest wave lies behind the middle of the waves. -/
theorem RelativisticFlow.slowest_le_middle (flow : RelativisticFlow ℝ) {metric : Metric ℝ}
    (lapse_nonneg : 0 ≤ metric.lapse) (contraction_pos : 0 < flow.contraction) (axis : Axis) :
    (flow.characteristicSpeeds metric axis).slowest ≤
      metric.lapse / flow.contraction *
          (flow.velocityUp.get axis * (1 - flow.soundSpeedSquared)) - metric.shift.get axis := by
  unfold characteristicSpeeds
  apply sub_le_sub_right
  apply mul_le_mul_of_nonneg_left _ (div_nonneg lapse_nonneg contraction_pos.le)
  apply sub_le_self
  apply mul_nonneg (Real.sqrt_nonneg _)
  split
  · exact le_rfl
  · exact Real.sqrt_nonneg _

namespace EquationOfState

variable {eos : EquationOfState ℝ} {state : Primitive ℝ} {metric : Metric ℝ} {index baryonMass : ℝ}

/-- Recovery of an encoded state never misses the mass, and misses the pressure only if the energy
does not cover the rest mass and the momentum. -/
theorem refused_encode (fluid : eos.fluid = .relativistic index baryonMass)
    (accepted : state.Accepted index baryonMass) (definite : metric.spatial.PosDef) :
    (∀ density, eos.recover .diagnostic metric (eos.encode metric state) ≠
        .error (.negativeMassDensity density)) ∧
      ((∃ pressure, eos.recover .diagnostic metric (eos.encode metric state) =
          .error (.negativeGasPressure pressure)) ↔
        ¬ (state.flow metric index baryonMass).bare.InCone) := by
  have bare : (eos.encode metric state).undensitize metric =
      (state.flow metric index baryonMass).bare := by
    rw [encode_relativistic fluid]
    exact RelativisticFlow.undensitize_toConserved definite (Primitive.lower_velocityUp_flow ..)
  have massive : 0 < ((eos.encode metric state).undensitize metric).density := by
    rw [bare]
    exact accepted.density_bare_pos definite
  have starts := Undensitized.exists_excessAtZero_iff massive
    ((eos.encode metric state).momentumSquared_undensitize_nonneg definite) accepted.index_gt
  have outcome := (eos.encode metric state).outcome metric index baryonMass eos.floors.pressure
    eos.search
  rw [← bare, recover_relativistic fluid, ← starts]
  generalize (eos.encode metric state).toRelativisticPrimitive metric index baryonMass
    eos.floors.pressure eos.search = result at outcome
  cases outcome with
  | massless massless => exact absurd massive massless
  | pressureless _ refused => simp [refused]
  | gaveUp _ started => simp [started]
  | found _ started => simp [started]

theorem maxSignalSpeed_le (fluid : eos.fluid = .relativistic index baryonMass) {bound : ℝ}
    (within : ∀ axis,
      |((state.flow metric index baryonMass).characteristicSpeeds metric axis).slowest| ≤ bound ∧
        |((state.flow metric index baryonMass).characteristicSpeeds metric axis).fastest| ≤ bound) :
    eos.maxSignalSpeed metric state ≤ bound := by
  simp [maxSignalSpeed, fluid, Axis.all, within]

/-- In flat space the waves of a causal flow are no faster than light. -/
theorem maxSignalSpeed_le_one (fluid : eos.fluid = .relativistic index baryonMass)
    (causal : (state.flow .minkowski index baryonMass).Causal .minkowski) :
    eos.maxSignalSpeed .minkowski state ≤ 1 := by
  refine maxSignalSpeed_le fluid fun axis => ?_
  obtain ⟨-, light_le, slowest_le, le_fastest, fastest_le⟩ :=
    causal.withinLight Metric.proper_minkowski.lapse_pos.le axis
  have light : √((Metric.minkowski : Metric ℝ).inverse.component axis axis) = 1 := by
    cases axis <;> simp [Metric.inverse, Metric.minkowski, Symmetric.inverse, Symmetric.identity,
      Symmetric.determinant, Symmetric.component]
  have still : (Metric.minkowski : Metric ℝ).shift.get axis = 0 := by
    cases axis <;> rfl
  have lapse : (Metric.minkowski : Metric ℝ).lapse = 1 := rfl
  rw [light, still, lapse] at light_le fastest_le
  constructor
  · exact abs_le.mpr ⟨by linarith, by linarith⟩
  · exact abs_le.mpr ⟨by linarith, by linarith⟩

/-- The sound of a state is slower than light, its waves in flat space are no faster, and recovery
of its conserved states never misses their mass or their pressure. -/
structure CausalAt (eos : EquationOfState ℝ) (index baryonMass : ℝ) (state : Primitive ℝ) :
    Prop where
  sound_nonneg : 0 ≤ (state.flow .minkowski index baryonMass).soundSpeedSquared
  sound_lt : (state.flow .minkowski index baryonMass).soundSpeedSquared < 1
  signal_le : eos.maxSignalSpeed .minkowski state ≤ 1
  massive : ∀ metric : Metric ℝ, metric.spatial.PosDef → ∀ density,
    eos.recover .diagnostic metric (eos.encode metric state) ≠ .error (.negativeMassDensity density)
  pressured : ∀ metric : Metric ℝ, metric.spatial.PosDef → ∀ pressure,
    eos.recover .diagnostic metric (eos.encode metric state) ≠ .error (.negativeGasPressure pressure)

/-- What holds of every state of an accepted gas, and what decides the rest. -/
structure CausalBound (eos : EquationOfState ℝ) (index baryonMass : ℝ) (state : Primitive ℝ) :
    Prop where
  sound_nonneg : 0 ≤ (state.flow .minkowski index baryonMass).soundSpeedSquared
  massive : ∀ metric : Metric ℝ, metric.spatial.PosDef → ∀ density,
    eos.recover .diagnostic metric (eos.encode metric state) ≠ .error (.negativeMassDensity density)
  /-- The state is causal exactly if its sound is slower than light, -/
  causal_iff_sound : eos.CausalAt index baryonMass state ↔
    (state.flow .minkowski index baryonMass).soundSpeedSquared < 1
  /-- which is to say that its pressure is low beside its rest mass. -/
  causal_iff : eos.CausalAt index baryonMass state ↔
    index * (index - 2) * state.pressure < (index - 1) * (baryonMass * state.density)
  /-- Recovery misses the pressure of gas that is hotter still and swift besides. -/
  pressureless_iff : ∀ metric : Metric ℝ, metric.spatial.PosDef →
    ((∃ pressure, eos.recover .diagnostic metric (eos.encode metric state) =
        .error (.negativeGasPressure pressure)) ↔
      (index - 1) ^ 2 * state.pressure < (state.flow metric index baryonMass).lorentzFactor ^ 2 *
        (index * (index - 2) * state.pressure - 2 * ((index - 1) * (baryonMass * state.density))))

section Accepted

variable (fluid : eos.fluid = .relativistic index baryonMass)
  (accepted : state.Accepted index baryonMass)

include fluid accepted

theorem causalAt_of_sound_lt
    (sound_lt : (state.flow .minkowski index baryonMass).soundSpeedSquared < 1) :
    eos.CausalAt index baryonMass state where
  sound_nonneg := accepted.sound_nonneg _
  sound_lt := sound_lt
  signal_le :=
    maxSignalSpeed_le_one fluid (accepted.causal_flow Metric.proper_minkowski.definite sound_lt)
  massive := fun _ definite => (refused_encode fluid accepted definite).1
  pressured := by
    intro metric definite pressure refused
    -- The sound of the state does not depend on the metric.
    exact (refused_encode fluid accepted definite).2.mp ⟨pressure, refused⟩
      (accepted.inCone_bare definite sound_lt)

theorem causalBound : eos.CausalBound index baryonMass state := by
  have causal_iff_sound : eos.CausalAt index baryonMass state ↔
      (state.flow .minkowski index baryonMass).soundSpeedSquared < 1 :=
    ⟨fun causal => causal.sound_lt, causalAt_of_sound_lt fluid accepted⟩
  constructor
  case sound_nonneg => exact accepted.sound_nonneg _
  case massive => exact fun _ definite => (refused_encode fluid accepted definite).1
  case causal_iff_sound => exact causal_iff_sound
  case causal_iff => rw [causal_iff_sound, accepted.sound_lt_iff]
  case pressureless_iff =>
    intro metric definite
    rw [(refused_encode fluid accepted definite).2, accepted.inCone_bare_iff definite, not_le]

end Accepted

/-- The sound of a gas with an index beyond two reaches light at some pressure. -/
theorem exists_sound_eq_one (index_gt : 2 < index) (baryonMass_pos : 0 < baryonMass) :
    ∃ state : Primitive ℝ, state.Accepted index baryonMass ∧
      (state.flow .minkowski index baryonMass).soundSpeedSquared = 1 := by
  have index_pos : 0 < index := by linarith
  have excess_pos : 0 < index - 1 := by linarith
  have beyond_pos : 0 < index - 2 := by linarith
  have accepted : (⟨1, .replicate 0, (index - 1) * baryonMass / (index * (index - 2))⟩ :
      Primitive ℝ).Accepted index baryonMass :=
    ⟨by linarith, baryonMass_pos, one_pos, by positivity⟩
  refine ⟨_, accepted, ?_⟩
  rw [accepted.soundSpeedSquared_eq]
  field_simp
  ring

/-- A relativistic gas with an index beyond one is accepted. -/
theorem ofFluid_relativistic (index_gt : 1 < index) (baryonMass_pos : 0 < baryonMass) :
    ofFluid (.adiabatic index) (.relativistic baryonMass) =
      .ok ⟨.relativistic index baryonMass, .standard, .standard⟩ :=
  ofFluid_eq_ok rfl (validate_standard (Fluid.defect?_relativistic.mpr ⟨index_gt, baryonMass_pos⟩))

/-- A relativistic gas is accepted whatever its index beyond one.  The sound of its states is real, no
recovery misses their mass, and the cool ones are causal; up to an index of two all of them are. -/
theorem causal_of_accepted {thermodynamics : Thermodynamics ℝ}
    (built : ofFluid thermodynamics (.relativistic baryonMass) = .ok eos) :
    (∀ index mass : ℝ, 1 < index → 0 < mass →
      ofFluid (.adiabatic index) (.relativistic mass) =
        .ok ⟨.relativistic index mass, .standard, .standard⟩) ∧
    ∃ index, thermodynamics = .adiabatic index ∧ 1 < index ∧
      (∀ state : Primitive ℝ, 0 < state.density → 0 ≤ state.pressure →
        eos.CausalBound index baryonMass state) ∧
      ((∀ state : Primitive ℝ, 0 < state.density → 0 ≤ state.pressure →
        eos.CausalAt index baryonMass state) ↔ index ≤ 2) := by
  refine ⟨fun _ _ index_gt mass_pos => ofFluid_relativistic index_gt mass_pos, ?_⟩
  obtain ⟨fluid, combined, rfl, valid⟩ := ofFluid_inversion built
  obtain ⟨inRange, -⟩ := inRange_of_validate valid
  cases thermodynamics with
  | isothermal _ => cases combined
  | adiabatic index =>
    cases combined
    obtain ⟨index_gt, baryonMass_pos⟩ := Fluid.defect?_relativistic.mp inRange
    have accepted : ∀ state : Primitive ℝ, 0 < state.density → 0 ≤ state.pressure →
        state.Accepted index baryonMass := fun _ density_pos pressure_nonneg =>
      ⟨index_gt, baryonMass_pos, density_pos, pressure_nonneg⟩
    refine ⟨index, rfl, index_gt, ?bound, ?beyond, ?upTo⟩
    case bound =>
      intro state density_pos pressure_nonneg
      exact causalBound rfl (accepted state density_pos pressure_nonneg)
    case beyond =>
      intro causal
      by_contra! index_gt_two
      obtain ⟨state, reaches, sound⟩ := exists_sound_eq_one index_gt_two baryonMass_pos
      have behind := (causal state reaches.density_pos reaches.pressure_nonneg).sound_lt
      exact behind.ne sound
    case upTo =>
      intro index_le state density_pos pressure_nonneg
      have cool := accepted state density_pos pressure_nonneg
      exact causalAt_of_sound_lt rfl cool (cool.sound_lt_of_le_two _ index_le)

/-- A relativistic gas of baryons with unit mass. -/
noncomputable def stiffGas (index : ℝ) : EquationOfState ℝ :=
  ⟨.relativistic index 1, .standard, .standard⟩

/-- Gas that moves along the first axis at three fifths of light. -/
noncomputable def jet (pressure : ℝ) : Primitive ℝ := ⟨1, ⟨0.75, 0, 0⟩, pressure⟩

theorem ofFluid_stiffGas {index : ℝ} (index_gt : 1 < index) :
    ofFluid (.adiabatic index) (.relativistic 1) = .ok (stiffGas index) :=
  ofFluid_relativistic index_gt one_pos

theorem causal_of_accepted_jet :
    ofFluid (.adiabatic 3) (.relativistic 1) = .ok (stiffGas 3) ∧
      (stiffGas 3).CausalAt 3 1 (jet 0.5) := by
  have built := ofFluid_stiffGas (by norm_num : (1 : ℝ) < 3)
  obtain ⟨-, index, same, -, bound, -⟩ := causal_of_accepted built
  cases same
  refine ⟨built, (bound (jet 0.5) one_pos ?_).causal_iff.mpr ?_⟩
  · norm_num [jet]
  · norm_num [jet]

theorem accepted_jet {pressure : ℝ} (pressure_nonneg : 0 ≤ pressure) :
    (jet pressure).Accepted 3 1 :=
  ⟨by norm_num, one_pos, one_pos, pressure_nonneg⟩

theorem lorentzFactor_jet (pressure : ℝ) :
    ((jet pressure).flow .minkowski 3 1).lorentzFactor = 5 / 4 := by
  have square : (jet pressure).velocity.dot
      ((Metric.minkowski : Metric ℝ).lower (jet pressure).velocity) = 9 / 16 := by
    rw [Metric.lower, Symmetric.mulVec_eq]
    norm_num [jet, Metric.minkowski, Symmetric.identity, PerAxis.dot]
  change √(1 + _) = _
  rw [square, Real.sqrt_eq_iff_mul_self_eq] <;> norm_num

theorem soundSpeedSquared_jet : ((jet 20).flow .minkowski 3 1).soundSpeedSquared = 60 / 31 := by
  rw [(accepted_jet (by norm_num : (0 : ℝ) ≤ 20)).soundSpeedSquared_eq]
  norm_num [jet]

/-- Against the hot jet a wave runs faster than light. -/
theorem one_lt_maxSignalSpeed_jet : 1 < (stiffGas 3).maxSignalSpeed .minkowski (jet 20) := by
  have velocity : ((jet 20).flow .minkowski 3 1).velocityUp.get .i = 3 / 5 := by
    change 0.75 / ((jet 20).flow .minkowski 3 1).lorentzFactor = 3 / 5
    norm_num [lorentzFactor_jet]
  have contraction : ((jet 20).flow .minkowski 3 1).contraction = 47 / 155 := by
    rw [RelativisticFlow.contraction, soundSpeedSquared_jet,
      Primitive.velocitySquared_flow Metric.proper_minkowski.definite, lorentzFactor_jet]
    norm_num
  have slowest := ((jet 20).flow .minkowski 3 1).slowest_le_middle
    Metric.proper_minkowski.lapse_pos.le (by norm_num [contraction]) .i
  have still : (Metric.minkowski : Metric ℝ).shift.get .i = 0 := rfl
  have lapse : (Metric.minkowski : Metric ℝ).lapse = 1 := rfl
  rw [velocity, soundSpeedSquared_jet, contraction, still, lapse] at slowest
  have fluid : (stiffGas 3).fluid = .relativistic 3 1 := rfl
  have signal := (abs_characteristicSpeeds_le fluid .minkowski (jet 20) .i).1
  linarith [neg_le_abs (((jet 20).flow .minkowski 3 1).characteristicSpeeds .minkowski .i).slowest]

/-- A hot jet of an accepted gas is not causal in any respect: its sound and its waves are faster
than light, and recovery refuses what encodes it. -/
theorem jet_not_causal :
    ofFluid (.adiabatic 3) (.relativistic 1) = .ok (stiffGas 3) ∧
      0 < (jet 20).density ∧ 0 < (jet 20).pressure ∧
      ¬ ((jet 20).flow .minkowski 3 1).soundSpeedSquared < 1 ∧
      ¬ (stiffGas 3).maxSignalSpeed .minkowski (jet 20) ≤ 1 ∧
      ∃ pressure, (stiffGas 3).recover .diagnostic .minkowski
        ((stiffGas 3).encode .minkowski (jet 20)) = .error (.negativeGasPressure pressure) := by
  have accepted : (jet 20).Accepted 3 1 := accepted_jet (by norm_num)
  have flat : (Metric.minkowski : Metric ℝ).spatial.PosDef := Metric.proper_minkowski.definite
  refine ⟨ofFluid_stiffGas (by norm_num), one_pos, by norm_num [jet],
    by norm_num [soundSpeedSquared_jet], one_lt_maxSignalSpeed_jet.not_ge, ?_⟩
  rw [(refused_encode rfl accepted flat).2, accepted.inCone_bare_iff flat, lorentzFactor_jet]
  norm_num [jet]

end EquationOfState

end BlockHydro
