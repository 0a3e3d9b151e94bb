import Mathlib.Analysis.Real.Sqrt
import Mathlib.Tactic.NormNum
import BlockHydro.Setup.Config
import BlockHydro.Proofs.Exact.Reals

/-!
# What validation accepts

An equation of state that is accepted has its parameters in range and positive
floors, and a configuration that is accepted has a positive tolerance and some
iterations as well.  These are the way back from `Config.validate_eq_ok`.  In exact
arithmetic the standard floors are positive, so a gas with standard settings is
accepted as soon as its parameters are.
-/

namespace BlockHydro

theorem eq_ok_of_mapError {ε δ α : Type} {outcome : Except ε α} {rename : ε → δ} {result : α}
    (given : outcome.mapError rename = .ok result) : outcome = .ok result := by
  cases outcome with
  | ok value => cases given; rfl
  | error cause => cases given

variable {R : Type} [Scalar R]

/-- The range of a relativistic gas. -/
theorem Fluid.defect?_relativistic {index baryonMass : R} :
    (relativistic index baryonMass).defect? = none ↔ 1 < index ∧ 0 < baryonMass := by
  constructor
  · intro inRange
    dsimp only [defect?] at inRange
    split at inRange
    next index_gt =>
      split at inRange
      next baryonMass_pos => exact ⟨index_gt, baryonMass_pos⟩
      next => cases inRange
    next => cases inRange
  · rintro ⟨index_gt, baryonMass_pos⟩
    exact (if_pos index_gt).trans (if_pos baryonMass_pos)

namespace EquationOfState

variable {eos : EquationOfState R}

/-- An accepted gas has parameters in range and positive floors. -/
theorem inRange_of_validate (accepted : eos.validate = .ok ()) :
    eos.fluid.defect? = none ∧ 0 < eos.floors.density ∧ 0 < eos.floors.pressure := by
  unfold validate defect? at accepted
  cases found : eos.fluid.defect? with
  | some defect =>
    rw [found] at accepted
    cases accepted
  | none =>
    rw [found] at accepted
    by_cases floors : 0 < eos.floors.density ∧ 0 < eos.floors.pressure
    · exact ⟨rfl, floors⟩
    · simp only [if_neg floors] at accepted
      cases accepted

/-- A closure and a dynamics in range build a gas with standard settings. -/
theorem ofFluid_eq_ok {thermodynamics : Thermodynamics R} {dynamics : Dynamics R} {fluid : Fluid R}
    (combined : Fluid.combine thermodynamics dynamics = .ok fluid)
    (accepted : (⟨fluid, .standard, .standard⟩ : EquationOfState R).validate = .ok ()) :
    ofFluid thermodynamics dynamics = .ok ⟨fluid, .standard, .standard⟩ := by
  unfold ofFluid
  rw [combined]
  dsimp only [bind, Except.bind]
  rw [accepted]
  rfl

/-- A gas built from a closure and a dynamics has standard settings, and is accepted. -/
theorem ofFluid_inversion {thermodynamics : Thermodynamics R} {dynamics : Dynamics R}
    (built : ofFluid thermodynamics dynamics = .ok eos) :
    ∃ fluid, Fluid.combine thermodynamics dynamics = .ok fluid ∧
      eos = ⟨fluid, .standard, .standard⟩ ∧ eos.validate = .ok () := by
  unfold ofFluid at built
  obtain ⟨fluid, combined, built⟩ := exists_of_bind_eq_ok built
  obtain ⟨⟨⟩, accepted, built⟩ := exists_of_bind_eq_ok built
  cases built
  exact ⟨fluid, combined, rfl, accepted⟩

end EquationOfState

/-- A valid configuration searches, and its gas is accepted. -/
theorem Config.validate_inversion {config : Config R} {eos : EquationOfState R}
    (valid : config.validate = .ok eos) :
    0 < eos.search.tolerance ∧ eos.search.maxIterations ≠ 0 ∧ eos.validate = .ok () := by
  unfold validate at valid
  split at valid
  next tolerance =>
    split at valid
    next => cases valid
    next iterations =>
      have built := eq_ok_of_mapError valid
      unfold equationOfState at built
      obtain ⟨gas, _, built⟩ := exists_of_bind_eq_ok built
      obtain ⟨⟨⟩, accepted, built⟩ := exists_of_bind_eq_ok built
      cases built
      exact ⟨tolerance, iterations, accepted⟩
  next => cases valid

/-- In exact arithmetic the standard floors are positive. -/
theorem Floors.standard_pos :
    (0 : ℝ) < Floors.standard.density ∧ (0 : ℝ) < Floors.standard.pressure := by
  unfold standard
  constructor <;> norm_num

/-- A gas with standard floors is accepted as soon as its parameters are. -/
theorem EquationOfState.validate_standard {fluid : Fluid ℝ} (sound : fluid.defect? = none) :
    (⟨fluid, .standard, .standard⟩ : EquationOfState ℝ).validate = .ok () :=
  validate_eq_ok sound Floors.standard_pos

end BlockHydro
