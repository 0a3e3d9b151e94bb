import Mathlib.Analysis.Real.Sqrt
import Mathlib.Tactic.FieldSimp
import Mathlib.Tactic.Linarith
import Mathlib.Tactic.NormNum
import BlockHydro.Proofs.Gas.Observables
import BlockHydro.Proofs.Setup.Acceptance

/-!
# Recovery of a Newtonian gas, in exact arithmetic

The conserved states of a Newtonian gas are a cone: the mass is positive and, for a
gamma law, the energy is at least that of the motion (`Conserved.Physical`).  Decoding
accepts this cone and nothing else, and on it encoding and decoding undo each other
(`Thermodynamics.encoding_inverts`), apart from the one value that an isothermal gas
does not store.

Flooring reaches the cone from any conserved state.  It keeps the momentum and only
adds mass and energy, and what it leaves is a state that recovery gives back
unchanged (`EquationOfState.recover_lifts`).
-/

namespace BlockHydro

variable {thermo : Thermodynamics ℝ}

/-- What encoding keeps of a primitive state; an isothermal gas stores no pressure. -/
def Primitive.stored (state : Primitive ℝ) : Thermodynamics ℝ → Primitive ℝ
  | .adiabatic _ => state
  | .isothermal _ => { state with pressure := 0 }

namespace Conserved

/-- What decoding keeps of a conserved state; an isothermal gas stores no energy. -/
def stored (state : Conserved ℝ) : Thermodynamics ℝ → Conserved ℝ
  | .adiabatic _ => state
  | .isothermal _ => { state with energy := 0 }

/-- A mass above zero and, in a gas that stores an energy, no less energy than the motion has. -/
def Physical (state : Conserved ℝ) : Thermodynamics ℝ → Prop
  | .adiabatic _ =>
    0 < state.density ∧ state.momentumSquared ≤ 2.0 * state.density * state.energy
  | .isothermal _ => 0 < state.density

theorem Physical.density_pos {state : Conserved ℝ} (physical : state.Physical thermo) :
    0 < state.density := by
  cases thermo with
  | adiabatic _ => exact physical.1
  | isothermal _ => exact physical

/-- The primitive state that decoding reads off a conserved one, if it accepts it. -/
noncomputable def decoded (state : Conserved ℝ) (thermo : Thermodynamics ℝ) : Primitive ℝ where
  density := state.density
  velocity := state.momentum.map (· / state.density)
  pressure :=
    match thermo with
    | .adiabatic index =>
      (state.energy - 0.5 * state.momentumSquared / state.density) * (index - 1)
    | .isothermal _ => 0

/-- The energy covers the motion exactly when the pressure is not negative. -/
theorem pressure_nonneg_iff {state : Conserved ℝ} {index : ℝ} (proper : 1 < index)
    (positive : 0 < state.density) :
    0 ≤ (state.decoded (.adiabatic index)).pressure ↔
      state.momentumSquared ≤ 2.0 * state.density * state.energy := by
  have excess : 0 < index - 1 := sub_pos.mpr proper
  dsimp only [decoded]
  rw [mul_nonneg_iff_of_pos_right excess, sub_nonneg, div_le_iff₀ positive]
  constructor <;> intro covered <;> linarith

/-- Decoding accepts the physical states and reads them off. -/
theorem toPrimitive_eq_ok_iff (proper : thermo.Proper) {state : Conserved ℝ}
    {primitive : Primitive ℝ} :
    state.toPrimitive thermo = .ok primitive ↔
      state.Physical thermo ∧ state.decoded thermo = primitive := by
  unfold toPrimitive
  by_cases refused : state.density ≤ 0
  · rw [if_pos refused]
    refine iff_of_false nofun ?_
    rintro ⟨physical, _⟩
    exact physical.density_pos.not_ge refused
  rw [if_neg refused]
  have positive : 0 < state.density := not_le.mp refused
  cases thermo with
  | isothermal speed => exact ⟨fun read => ⟨positive, Except.ok.inj read⟩, fun read => read.2 ▸ rfl⟩
  | adiabatic index =>
    have covered := pressure_nonneg_iff proper positive
    dsimp only
    split
    next cold =>
      refine iff_of_false nofun ?_
      rintro ⟨physical, _⟩
      exact cold.not_ge (covered.mpr physical.2)
    next warm =>
      exact ⟨fun read => ⟨⟨positive, covered.mp (not_lt.mp warm)⟩, Except.ok.inj read⟩,
        fun read => read.2 ▸ rfl⟩

/-- Encoding what was read off a state of positive mass gives the state back. -/
theorem toConserved_decoded (proper : thermo.Proper) {state : Conserved ℝ}
    (positive : 0 < state.density) :
    (state.decoded thermo).toConserved thermo = state.stored thermo := by
  have massive := positive.ne'
  have momentum : (state.momentum.map (· / state.density)).map (state.density * ·) =
      state.momentum := by
    simp only [PerAxis.map, mul_div_cancel₀ _ massive]
  cases thermo with
  | isothermal speed => exact congrArg (Conserved.mk state.density · 0) momentum
  | adiabatic index =>
    have excess : index - 1 ≠ 0 := (sub_pos.mpr proper).ne'
    have energy : (state.decoded (.adiabatic index)).energyDensity (.adiabatic index) =
        state.energy := by
      simp only [Primitive.energyDensity, Primitive.velocitySquared, decoded, momentumSquared,
        PerAxis.dot, PerAxis.map]
      field_simp
      ring
    exact congrArg₂ (Conserved.mk state.density) momentum energy

end Conserved

namespace Primitive

variable {state : Primitive ℝ}

/-- Encoded, a physical state is physical. -/
theorem Physical.toConserved (proper : thermo.Proper) (physical : state.Physical thermo) :
    (state.toConserved thermo).Physical thermo := by
  cases thermo with
  | isothermal speed => exact physical
  | adiabatic index =>
    obtain ⟨density_pos, pressure_nonneg⟩ := physical
    refine ⟨density_pos, ?_⟩
    have excess : 0 < index - 1 := sub_pos.mpr proper
    have heat : 0 ≤ state.density * (state.pressure / (index - 1)) := by positivity
    simp only [Conserved.momentumSquared, Primitive.toConserved, energyDensity, velocitySquared,
      PerAxis.dot, PerAxis.map]
    linarith

/-- Decoding what a state of positive density was encoded as gives the state back. -/
theorem decoded_toConserved (proper : thermo.Proper) (positive : 0 < state.density) :
    (state.toConserved thermo).decoded thermo = state.stored thermo := by
  have massive := positive.ne'
  have velocity : (state.velocity.map (state.density * ·)).map (· / state.density) =
      state.velocity := by
    simp only [PerAxis.map, mul_div_cancel_left₀ _ massive]
  cases thermo with
  | isothermal speed => exact congrArg (Primitive.mk state.density · 0) velocity
  | adiabatic index =>
    have excess : index - 1 ≠ 0 := (sub_pos.mpr proper).ne'
    have pressure : ((state.toConserved (.adiabatic index)).decoded (.adiabatic index)).pressure =
        state.pressure := by
      simp only [Conserved.decoded, toConserved, energyDensity, velocitySquared,
        Conserved.momentumSquared, PerAxis.dot, PerAxis.map]
      field_simp
      ring
    exact congrArg₂ (Primitive.mk state.density) velocity pressure

/-- Decoding gives back what encoding kept of a physical state. -/
theorem toPrimitive_toConserved (proper : thermo.Proper) (physical : state.Physical thermo) :
    (state.toConserved thermo).toPrimitive thermo = .ok (state.stored thermo) :=
  (Conserved.toPrimitive_eq_ok_iff proper).mpr
    ⟨physical.toConserved proper, decoded_toConserved proper physical.density_pos⟩

end Primitive

namespace Thermodynamics

/-- Decoding accepts exactly the states whose mass is positive and whose energy covers the motion,
and there it and encoding undo each other. -/
theorem encoding_inverts (proper : thermo.Proper) :
    (∀ state : Conserved ℝ,
      (∃ primitive, state.toPrimitive thermo = .ok primitive) ↔ state.Physical thermo) ∧
    (∀ state : Primitive ℝ, state.Physical thermo →
      (state.toConserved thermo).toPrimitive thermo = .ok (state.stored thermo)) ∧
    ∀ (state : Conserved ℝ) (primitive : Primitive ℝ), state.toPrimitive thermo = .ok primitive →
      primitive.toConserved thermo = state.stored thermo := by
  refine ⟨fun state => ?accepted, fun state physical => ?decodes, ?encodes⟩
  case accepted => simp [Conserved.toPrimitive_eq_ok_iff proper]
  case decodes => exact Primitive.toPrimitive_toConserved proper physical
  case encodes =>
    intro state primitive recovered
    obtain ⟨physical, rfl⟩ := (Conserved.toPrimitive_eq_ok_iff proper).mp recovered
    exact Conserved.toConserved_decoded proper physical.density_pos

/-- A cold gust: all its energy is that of its motion. -/
noncomputable def gust : Primitive ℝ := ⟨0.5, ⟨2.5, -1, 1⟩, 0⟩

theorem encoding_inverts_gust :
    (gust.toConserved (.adiabatic 1.4)).toPrimitive (.adiabatic 1.4) = .ok gust ∧
      gust.toConserved (.adiabatic 1.4) = ⟨0.5, ⟨1.25, -0.5, 0.5⟩, 2.0625⟩ ∧
      ¬ ∃ primitive, (⟨0.5, ⟨1.25, -0.5, 0.5⟩, 2⟩ : Conserved ℝ).toPrimitive (.adiabatic 1.4) =
        .ok primitive := by
  have proper : (adiabatic (1.4 : ℝ)).Proper := show (1 : ℝ) < 1.4 by norm_num
  obtain ⟨accepted, decodes, encodes⟩ := encoding_inverts proper
  have recovered := decodes gust ⟨by norm_num [gust], le_rfl⟩
  refine ⟨recovered, (encodes _ gust recovered).trans ?_, ?_⟩
  · norm_num [Conserved.stored, Primitive.toConserved, gust, PerAxis.map, Primitive.energyDensity,
      Primitive.velocitySquared, PerAxis.dot]
  · rw [accepted]
    norm_num [Conserved.Physical, Conserved.momentumSquared, PerAxis.dot]

end Thermodynamics

namespace EquationOfState

variable {eos : EquationOfState ℝ}

/-- An accepted Newtonian gas is heated by compression. -/
theorem proper_of_validate (accepted : eos.validate = .ok ())
    (fluid : eos.fluid = .newtonian thermo) : thermo.Proper := by
  cases thermo with
  | isothermal _ => exact trivial
  | adiabatic index =>
    by_contra cold
    have refused : eos.fluid.defect? = some (.gammaLawIndex index) := by
      rw [fluid]
      exact if_neg cold
    cases refused.symm.trans (inRange_of_validate accepted).1

section Newtonian

variable (fluid : eos.fluid = .newtonian thermo) (metric : Metric ℝ)
include fluid

theorem encode_newtonian (state : Primitive ℝ) :
    eos.encode metric state = state.toConserved thermo := by
  unfold encode
  rw [fluid]

theorem isAdiabatic_newtonian : eos.isAdiabatic = true ↔ ∃ index, thermo = .adiabatic index := by
  unfold isAdiabatic
  rw [fluid]
  cases thermo <;> simp [Fluid.thermodynamics]

/-- A Newtonian gas is recovered in diagnostic mode where its state is physical. -/
theorem recover_newtonian (state : Conserved ℝ) :
    eos.recover .diagnostic metric state = state.toPrimitive thermo := by
  rw [recover_diagnostic]
  unfold decode
  rw [fluid]

/-- Flooring raises the density, keeps the momentum and then floors the pressure. -/
theorem floored_newtonian (state : Conserved ℝ) :
    eos.floored metric state =
      let density := max state.density eos.floors.density
      let velocity := state.momentum.map (· / density)
      ⟨density, velocity, eos.flooredPressure thermo state.energy density velocity⟩ := by
  unfold floored
  rw [fluid]
  rfl

theorem stored_floored (state : Conserved ℝ) :
    (eos.floored metric state).stored thermo = eos.floored metric state := by
  rw [floored_newtonian fluid]
  cases thermo <;> rfl

section Floors

variable (floors : 0 < eos.floors.density ∧ 0 < eos.floors.pressure)
include floors

/-- Positive floors leave a physical state. -/
theorem physical_floored (state : Conserved ℝ) : (eos.floored metric state).Physical thermo := by
  have density_pos : 0 < max state.density eos.floors.density := lt_max_of_lt_right floors.1
  rw [floored_newtonian fluid]
  cases thermo with
  | isothermal speed => exact density_pos
  | adiabatic index => exact ⟨density_pos, floors.2.le.trans (le_max_right _ _)⟩

theorem momentum_floored (state : Conserved ℝ) :
    ((eos.floored metric state).toConserved thermo).momentum = state.momentum := by
  have massive : max state.density eos.floors.density ≠ 0 := (lt_max_of_lt_right floors.1).ne'
  rw [floored_newtonian fluid]
  simp only [Primitive.toConserved, PerAxis.map, mul_div_cancel₀ _ massive]

end Floors

end Newtonian

/-- The floored pressure holds all the energy that the raised mass leaves over from its motion. -/
theorem energy_le_floored {index : ℝ} (fluid : eos.fluid = .newtonian (.adiabatic index))
    (proper : 1 < index) (metric : Metric ℝ) (state : Conserved ℝ) :
    state.energy ≤ ((eos.floored metric state).toConserved (.adiabatic index)).energy := by
  have excess : 0 < index - 1 := sub_pos.mpr proper
  rw [floored_newtonian fluid]
  dsimp only [Primitive.toConserved, Primitive.energyDensity, Primitive.velocitySquared,
    flooredPressure]
  generalize max state.density eos.floors.density = density
  generalize state.momentum.map (· / density) = velocity
  have heat : state.energy - 0.5 * density * velocity.dot velocity ≤
      Scalar.max ((state.energy - 0.5 * density * velocity.dot velocity) * (index - 1))
        eos.floors.pressure / (index - 1) :=
    (le_div_iff₀ excess).mpr (le_max_left _ _)
  linarith

/-- A primitive state that stands for a conserved one after flooring: with its momentum, at least its
mass and its energy, and recovered from its own encoding in either mode. -/
structure Lifts (eos : EquationOfState ℝ) (metric : Metric ℝ) (state : Conserved ℝ)
    (lifted : Primitive ℝ) : Prop where
  momentum_eq : (eos.encode metric lifted).momentum = state.momentum
  density_eq : (eos.encode metric lifted).density = max state.density eos.floors.density
  floor_le_pressure : eos.isAdiabatic = true → eos.floors.pressure ≤ lifted.pressure
  energy_le : eos.isAdiabatic = true → state.energy ≤ (eos.encode metric lifted).energy
  recovers : ∀ mode, eos.recover mode metric (eos.encode metric lifted) = .ok lifted

/-- A state that passes in diagnostic mode is recovered alike in either mode. -/
theorem recover_of_diagnostic {metric : Metric ℝ} {state : Conserved ℝ} {primitive : Primitive ℝ}
    (passes : eos.recover .diagnostic metric state = .ok primitive) (mode : RecoveryMode) :
    eos.recover mode metric state = .ok primitive := by
  rw [recover_diagnostic] at passes
  unfold recover
  rw [passes]

/-- A state that is refused in diagnostic mode is floored. -/
theorem recover_of_refused {metric : Metric ℝ} {state : Conserved ℝ} {failure : RecoveryFailure ℝ}
    (refused : eos.recover .diagnostic metric state = .error failure) :
    eos.recover .floored metric state = .ok (eos.floored metric state) := by
  rw [recover_diagnostic] at refused
  unfold recover
  rw [refused]

theorem lifts_floored (fluid : eos.fluid = .newtonian thermo) (proper : thermo.Proper)
    (floors : 0 < eos.floors.density ∧ 0 < eos.floors.pressure) (metric : Metric ℝ)
    (state : Conserved ℝ) : eos.Lifts metric state (eos.floored metric state) := by
  have physical := physical_floored fluid metric floors state
  have passes : eos.recover .diagnostic metric
      ((eos.floored metric state).toConserved thermo) = .ok (eos.floored metric state) := by
    rw [recover_newtonian fluid, Primitive.toPrimitive_toConserved proper physical,
      stored_floored fluid]
  constructor
  case momentum_eq => rw [encode_newtonian fluid, momentum_floored fluid metric floors]
  case density_eq =>
    rw [encode_newtonian fluid, floored_newtonian fluid]
    rfl
  case floor_le_pressure =>
    intro adiabatic
    obtain ⟨index, rfl⟩ := (isAdiabatic_newtonian fluid).mp adiabatic
    rw [floored_newtonian fluid]
    exact le_max_right _ _
  case energy_le =>
    intro adiabatic
    obtain ⟨index, rfl⟩ := (isAdiabatic_newtonian fluid).mp adiabatic
    rw [encode_newtonian fluid]
    exact energy_le_floored fluid proper metric state
  case recovers =>
    rw [encode_newtonian fluid]
    exact recover_of_diagnostic passes

/-- Floored recovery of a Newtonian gas always answers: with the state itself where it has a
primitive counterpart, else with one that has its momentum and no less mass and energy, and that
recovery gives back. -/
theorem recover_lifts (accepted : eos.validate = .ok ()) (newtonian : eos.isRelativistic = false)
    (metric : Metric ℝ) (state : Conserved ℝ) :
    ∃ primitive, eos.recover .floored metric state = .ok primitive ∧
      (∀ recovered, eos.recover .diagnostic metric state = .ok recovered →
        primitive = recovered) ∧
      ∀ failure, eos.recover .diagnostic metric state = .error failure →
        eos.Lifts metric state primitive := by
  cases found : eos.recover .diagnostic metric state with
  | ok recovered =>
    refine ⟨recovered, recover_of_diagnostic found .floored, ?_, nofun⟩
    rintro _ ⟨⟩
    rfl
  | error failure =>
    have floors := (inRange_of_validate accepted).2
    obtain ⟨thermo, fluid⟩ : ∃ thermo, eos.fluid = .newtonian thermo := by
      unfold isRelativistic at newtonian
      cases fluid : eos.fluid with
      | newtonian thermo => exact ⟨thermo, rfl⟩
      | relativistic index mass => simp [fluid] at newtonian
    exact ⟨eos.floored metric state, recover_of_refused found, nofun, fun _ _ =>
      lifts_floored fluid (proper_of_validate accepted fluid) floors metric state⟩

/-- A gas with a gamma law of two. -/
noncomputable def stiff : EquationOfState ℝ := ⟨.newtonian (.adiabatic 2.0), ⟨1, 2.5⟩, .standard⟩

/-- A state without mass that moves and owes energy. -/
noncomputable def sunken : Conserved ℝ := ⟨-1, ⟨1.5, 0, -1⟩, -0.5⟩

theorem recover_lifts_sunken :
    stiff.recover .diagnostic .minkowski sunken = .error (.negativeMassDensity (-1)) ∧
      ∃ primitive, stiff.recover .floored .minkowski sunken = .ok primitive ∧
        stiff.Lifts .minkowski sunken primitive := by
  have accepted : stiff.validate = .ok () :=
    validate_eq_ok (if_pos (by norm_num : (1 : ℝ) < 2.0)) ⟨one_pos, by norm_num [stiff]⟩
  have refused : stiff.recover .diagnostic .minkowski sunken = .error (.negativeMassDensity (-1)) := by
    rw [recover_newtonian rfl, Conserved.toPrimitive]
    exact if_pos (by norm_num [sunken])
  obtain ⟨primitive, answers, _, lifts⟩ := recover_lifts accepted rfl .minkowski sunken
  exact ⟨refused, primitive, answers, lifts _ refused⟩

end EquationOfState

end BlockHydro
