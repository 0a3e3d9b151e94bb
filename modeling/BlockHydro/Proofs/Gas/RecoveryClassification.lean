import Mathlib.Analysis.Real.Sqrt
import Mathlib.Tactic.FieldSimp
import Mathlib.Tactic.Linarith
import BlockHydro.Proofs.Gas.RelativisticRecovery
import BlockHydro.Proofs.Gas.SearchHistory
import BlockHydro.Proofs.Setup.Acceptance

/-!
# What relativistic recovery tells states apart by, in exact arithmetic

A conserved state with mass has a pressure only if its rest mass and momentum fit
into its energy (`Undensitized.InCone`).  The search tests this with the residual
at zero pressure: the residual exists and is not negative exactly inside that cone
(`Undensitized.exists_excessAtZero_iff`).  From there on every history of the search
keeps a bracket over a change of sign of the residual (`Undensitized.Searched.holds`),
whatever the index of the gas, so what recovery hands out comes with such a bracket.
-/

namespace BlockHydro

namespace Undensitized

variable {state : Undensitized ℝ} {index : ℝ}

/-- Rest mass and momentum fit into the energy. -/
structure InCone (state : Undensitized ℝ) : Prop where
  total_pos : 0 < state.energy + state.density
  cone : state.density ^ 2 + state.momentumSquared ≤ (state.energy + state.density) ^ 2

theorem InCone.timelike (inCone : state.InCone) (density_pos : 0 < state.density)
    (momentumSquared_nonneg : 0 ≤ state.momentumSquared) : state.Timelike where
  density_pos := density_pos
  momentumSquared_nonneg := momentumSquared_nonneg
  rest_pos := inCone.total_pos
  momentumSquared_lt := by
    have square_pos := pow_pos density_pos 2
    linarith [inCone.cone]

theorem inertia_zero (state : Undensitized ℝ) : state.inertia 0 = state.energy + state.density :=
  add_zero _

/-- A residual at zero pressure means that the state stays behind light. -/
theorem timelike_of_residual (density_pos : 0 < state.density)
    (momentumSquared_nonneg : 0 ≤ state.momentumSquared) {excess : ℝ}
    (exists_residual : state.residual index 0 = some excess) : state.Timelike := by
  unfold residual at exists_residual
  dsimp only at exists_residual
  split at exists_residual
  next physical =>
    obtain ⟨slack_pos, inertia_pos⟩ := physical
    rw [inertia_zero] at slack_pos inertia_pos
    exact ⟨density_pos, momentumSquared_nonneg, inertia_pos, by rw [sq]; linarith⟩
  next => cases exists_residual

/-- The sign of the residual at zero pressure tells whether the state is in the cone. -/
theorem excess_zero_nonneg_iff (timelike : state.Timelike) (index_gt : 1 < index) :
    0 ≤ state.excess index 0 ↔ state.InCone := by
  have total_pos := timelike.rest_pos
  have slack_pos := sub_pos.mpr timelike.momentumSquared_lt
  have factored : state.excess index 0 = (index - 1) *
      (√((state.energy + state.density) ^ 2 - state.momentumSquared) /
          (state.energy + state.density) *
        (√((state.energy + state.density) ^ 2 - state.momentumSquared) - state.density)) := by
    have quotient : 1 - state.momentumSquared / (state.energy + state.density) ^ 2 =
        ((state.energy + state.density) ^ 2 - state.momentumSquared) /
          (state.energy + state.density) ^ 2 := by
      field_simp
    have square := Real.sq_sqrt slack_pos.le
    unfold excess
    rw [inertia_zero, quotient, Real.sqrt_div slack_pos.le, Real.sqrt_sq total_pos.le]
    generalize √((state.energy + state.density) ^ 2 - state.momentumSquared) = root at square ⊢
    field_simp
    linear_combination -(index - 1) * square
  rw [factored, mul_nonneg_iff_of_pos_left (sub_pos.mpr index_gt),
    mul_nonneg_iff_of_pos_left (div_pos (Real.sqrt_pos.mpr slack_pos) total_pos), sub_nonneg,
    Real.le_sqrt' timelike.density_pos]
  constructor
  · intro fits
    exact ⟨total_pos, by linarith⟩
  · rintro ⟨-, cone⟩
    linarith

theorem excessAtZero_inversion {excess : ℝ} (started : state.excessAtZero index = .ok excess) :
    state.residual index 0 = some excess ∧ 0 ≤ excess := by
  unfold excessAtZero at started
  split at started
  next found =>
    split at started
    next nonneg =>
      cases started
      exact ⟨found, nonneg⟩
    next => cases started
  next => cases started

/-- A search that starts does so from the residual at zero pressure, which is not negative. -/
theorem excess_of_started (density_pos : 0 < state.density)
    (momentumSquared_nonneg : 0 ≤ state.momentumSquared) {excess : ℝ}
    (started : state.excessAtZero index = .ok excess) :
    state.Timelike ∧ excess = state.excess index 0 ∧ 0 ≤ state.excess index 0 := by
  obtain ⟨found, excess_nonneg⟩ := excessAtZero_inversion started
  have timelike := timelike_of_residual density_pos momentumSquared_nonneg found
  rw [residual_eq_some timelike le_rfl] at found
  cases found
  exact ⟨timelike, rfl, excess_nonneg⟩

/-- The search starts exactly inside the cone. -/
theorem exists_excessAtZero_iff (density_pos : 0 < state.density)
    (momentumSquared_nonneg : 0 ≤ state.momentumSquared) (index_gt : 1 < index) :
    (∃ excess, state.excessAtZero index = .ok excess) ↔ state.InCone := by
  constructor
  · rintro ⟨excess, started⟩
    obtain ⟨timelike, -, excess_nonneg⟩ :=
      excess_of_started density_pos momentumSquared_nonneg started
    exact (excess_zero_nonneg_iff timelike index_gt).mp excess_nonneg
  · intro inCone
    have timelike := inCone.timelike density_pos momentumSquared_nonneg
    refine ⟨state.excess index 0, ?_⟩
    unfold excessAtZero
    rw [residual_eq_some timelike le_rfl]
    exact if_pos ((excess_zero_nonneg_iff timelike index_gt).mpr inCone)

/-- What a search holds: a low end where the residual is not negative, and once it halves a high end
where it is. -/
structure Holds (state : Undensitized ℝ) (index : ℝ) (phase : SearchPhase) (low high : ℝ) : Prop where
  low_nonneg : 0 ≤ low
  low_le : low ≤ high
  high_pos : 0 < high
  excess_low : 0 ≤ state.excess index low
  excess_high : phase = .halving → state.excess index high < 0

/-- Every history of a search that may start holds such ends. -/
theorem Searched.holds {tolerance start low high : ℝ} {iterations : Nat} {phase : SearchPhase}
    (timelike : state.Timelike) (excess_nonneg : 0 ≤ state.excess index 0) (start_pos : 0 < start)
    (searched : state.Searched index tolerance start iterations phase low high) :
    state.Holds index phase low high := by
  induction searched with
  | start => exact ⟨le_rfl, start_pos.le, start_pos, excess_nonneg, by rintro ⟨⟩⟩
  | double _ below ih =>
    obtain ⟨-, -, high_pos, -, -⟩ := ih
    rw [rootAboveOrSuperluminal_eq timelike high_pos.le] at below
    exact ⟨high_pos.le, by linarith, by linarith, of_decide_eq_true below, by rintro ⟨⟩⟩
  | enclose _ above ih =>
    obtain ⟨low_nonneg, low_le, high_pos, excess_low, -⟩ := ih
    rw [rootAboveOrSuperluminal_eq timelike high_pos.le] at above
    exact ⟨low_nonneg, low_le, high_pos, excess_low, fun _ => not_le.mp (of_decide_eq_false above)⟩
  | raise _ _ below ih =>
    obtain ⟨low_nonneg, low_le, high_pos, -, excess_high⟩ := ih
    rw [rootAbove_eq timelike (by linarith)] at below
    exact ⟨by linarith, by linarith, high_pos, of_decide_eq_true below, excess_high⟩
  | lower _ _ above ih =>
    obtain ⟨low_nonneg, low_le, high_pos, excess_low, -⟩ := ih
    rw [rootAbove_eq timelike (by linarith)] at above
    exact ⟨low_nonneg, by linarith, by linarith, excess_low,
      fun _ => not_le.mp (of_decide_eq_false above)⟩

end Undensitized

namespace Conserved

variable {conserved : Conserved ℝ} {metric : Metric ℝ}

/-- The momentum of a conserved state has no negative square. -/
theorem momentumSquared_undensitize_nonneg (conserved : Conserved ℝ)
    (definite : metric.spatial.PosDef) : 0 ≤ (conserved.undensitize metric).momentumSquared := by
  have lowered : metric.lower (conserved.undensitize metric).momentumUp =
      (conserved.undensitize metric).momentumDown := Metric.lower_raise definite _
  have square := definite.dot_nonneg (conserved.undensitize metric).momentumUp
  rw [show metric.spatial.mulVec _ = _ from lowered] at square
  unfold Undensitized.momentumSquared
  simp only [PerAxis.dot] at square ⊢
  linarith

/-- What recovery of a conserved state hands out: a state with mass and pressure that carries the mass
of the conserved one, and a narrow bracket around its pressure over which the residual changes sign. -/
structure HandedOut (conserved : Conserved ℝ) (metric : Metric ℝ) (eos : EquationOfState ℝ)
    (index baryonMass : ℝ) (found : Primitive ℝ) : Prop where
  density_pos : 0 < found.density
  pressure_pos : 0 < found.pressure
  density_eq : (eos.encode metric found).density = conserved.density
  one_le_lorentzFactor : 1 ≤ (found.flow metric index baryonMass).lorentzFactor
  bracketed : ∃ low high excess deficit,
    0 ≤ low ∧ low ≤ found.pressure ∧ found.pressure ≤ high ∧
      high - low ≤ eos.search.tolerance * high ∧
      (conserved.undensitize metric).residual index low = some excess ∧ 0 ≤ excess ∧
      (conserved.undensitize metric).residual index high = some deficit ∧ deficit < 0

/-- What diagnostic recovery says about a conserved state. -/
structure Classified (conserved : Conserved ℝ) (metric : Metric ℝ) (eos : EquationOfState ℝ)
    (index baryonMass : ℝ) : Prop where
  massless_iff :
    (∃ density, eos.recover .diagnostic metric conserved = .error (.negativeMassDensity density)) ↔
      (conserved.undensitize metric).density ≤ 0
  pressureless_iff :
    (∃ pressure, eos.recover .diagnostic metric conserved = .error (.negativeGasPressure pressure)) ↔
      0 < (conserved.undensitize metric).density ∧ ¬ (conserved.undensitize metric).InCone
  otherwise : 0 < (conserved.undensitize metric).density → (conserved.undensitize metric).InCone →
    (∃ found, eos.recover .diagnostic metric conserved = .ok found) ∨
      ∃ iterations, eos.recover .diagnostic metric conserved = .error (.rootFinderFailed iterations)
  handedOut : ∀ found, eos.recover .diagnostic metric conserved = .ok found →
    conserved.HandedOut metric eos index baryonMass found

end Conserved

namespace EquationOfState

variable {eos : EquationOfState ℝ} {metric : Metric ℝ} {index baryonMass : ℝ}
  {conserved : Conserved ℝ}

/-- The mass in the conserved state of a recovered one is the mass that was given. -/
theorem density_encode_atPressure (fluid : eos.fluid = .relativistic index baryonMass)
    (baryonMass_pos : 0 < baryonMass) (definite : metric.spatial.PosDef)
    (timelike : (conserved.undensitize metric).Timelike) {pressure : ℝ}
    (pressure_nonneg : 0 ≤ pressure) :
    (eos.encode metric ((conserved.undensitize metric).atPressure baryonMass pressure)).density =
      conserved.density := by
  have volume_pos := Metric.sqrtDeterminant_pos definite
  have restMass := (timelike.flow_atPressure pressure_nonneg
    (Metric.lower_raise definite _) index baryonMass_pos).1
  rw [encode_relativistic fluid]
  change metric.sqrtDeterminant * _ * _ = conserved.density
  rw [mul_assoc, restMass]
  change metric.sqrtDeterminant * (conserved.density / metric.sqrtDeterminant) = _
  rw [mul_div_cancel₀ _ volume_pos.ne']

/-- The middle of a tight bracket over a change of sign is handed out with what it takes. -/
theorem handedOut_atPressure (fluid : eos.fluid = .relativistic index baryonMass)
    (baryonMass_pos : 0 < baryonMass) (definite : metric.spatial.PosDef)
    (timelike : (conserved.undensitize metric).Timelike) {low high : ℝ}
    (holds : (conserved.undensitize metric).Holds index .halving low high)
    (tight : high - low ≤ eos.search.tolerance * high) :
    conserved.HandedOut metric eos index baryonMass
      ((conserved.undensitize metric).atPressure baryonMass (0.5 * (low + high))) := by
  obtain ⟨low_nonneg, low_le, high_pos, excess_low, excess_high⟩ := holds
  have middle_pos : 0 < 0.5 * (low + high) := by linarith
  constructor
  case density_pos =>
    exact div_pos (div_pos timelike.density_pos (timelike.lorentzFactor_pos middle_pos.le))
      baryonMass_pos
  case pressure_pos => exact middle_pos
  case density_eq =>
    exact density_encode_atPressure fluid baryonMass_pos definite timelike middle_pos.le
  case one_le_lorentzFactor => exact Primitive.one_le_lorentzFactor_flow definite ..
  case bracketed =>
    have below : low ≤ 0.5 * (low + high) := by linarith
    have above : 0.5 * (low + high) ≤ high := by linarith
    exact ⟨low, high, _, _, low_nonneg, below, above, tight,
      Undensitized.residual_eq_some timelike low_nonneg, excess_low,
      Undensitized.residual_eq_some timelike high_pos.le, excess_high rfl⟩

/-- Recovery of a valid relativistic gas tells conserved states apart by their mass and by the cone,
and what it hands out carries their mass and is bracketed, in any metric that measures lengths. -/
theorem recover_classified {config : Config ℝ} (valid : config.validate = .ok eos)
    (fluid : eos.fluid = .relativistic index baryonMass) (definite : metric.spatial.PosDef)
    (conserved : Conserved ℝ) : conserved.Classified metric eos index baryonMass := by
  obtain ⟨tolerance_pos, -, accepted⟩ := Config.validate_inversion valid
  obtain ⟨inRange, -, floor_pos⟩ := inRange_of_validate accepted
  rw [fluid] at inRange
  obtain ⟨index_gt, baryonMass_pos⟩ := Fluid.defect?_relativistic.mp inRange
  have square_nonneg := conserved.momentumSquared_undensitize_nonneg definite
  have starts := fun density_pos => Undensitized.exists_excessAtZero_iff density_pos square_nonneg
    index_gt
  have outcome := conserved.outcome metric index baryonMass eos.floors.pressure eos.search
  rw [← recover_relativistic fluid] at outcome
  constructor
  case massless_iff =>
    constructor
    · rintro ⟨density, refused⟩
      rw [refused] at outcome
      cases outcome with
      | massless massless => exact not_lt.mp massless
    · intro massless
      generalize eos.recover .diagnostic metric conserved = result at outcome ⊢
      cases outcome with
      | massless => exact ⟨_, rfl⟩
      | pressureless massive | gaveUp massive | found massive => exact absurd massive massless.not_gt
  case pressureless_iff =>
    constructor
    · rintro ⟨pressure, refused⟩
      rw [refused] at outcome
      cases outcome with
      | pressureless massive refused =>
        refine ⟨massive, fun inCone => ?_⟩
        obtain ⟨excess, started⟩ := (starts massive).mpr inCone
        cases started.symm.trans refused
    · rintro ⟨massive, outside⟩
      generalize eos.recover .diagnostic metric conserved = result at outcome ⊢
      cases outcome with
      | massless massless => exact absurd massive massless
      | pressureless => exact ⟨_, rfl⟩
      | gaveUp _ started | found _ started => exact absurd ((starts massive).mp ⟨_, started⟩) outside
  case otherwise =>
    intro massive inCone
    generalize eos.recover .diagnostic metric conserved = result at outcome ⊢
    cases outcome with
    | massless massless => exact absurd massive massless
    | pressureless _ refused =>
      obtain ⟨excess, started⟩ := (starts massive).mpr inCone
      cases started.symm.trans refused
    | gaveUp => exact .inr ⟨_, rfl⟩
    | found => exact .inl ⟨_, rfl⟩
  case handedOut =>
    intro found recovered
    rw [recovered] at outcome
    cases outcome with
    | found massive started searched within tight =>
      obtain ⟨timelike, rfl, excess_nonneg⟩ :=
        Undensitized.excess_of_started massive square_nonneg started
      have holds := searched.holds timelike excess_nonneg (lt_max_of_lt_right floor_pos)
      exact handedOut_atPressure fluid baryonMass_pos definite timelike holds (not_lt.mp tight)

/-- Settings for a relativistic gas of index three halves. -/
noncomputable def hotConfig : Config ℝ :=
  ⟨.adiabatic 1.5, .relativistic 1, .standard, .standard, true, .rk2⟩

/-- A conserved state whose momentum crosses the coupled axes. -/
noncomputable def swift : Conserved ℝ := ⟨1, ⟨1, 1, 0⟩, 0.5⟩

theorem validate_hotConfig : hotConfig.validate = .ok hotGas :=
  Config.validate_eq_ok (by norm_num [hotConfig, RootSearch.standard])
    (by simp [hotConfig, RootSearch.standard]) rfl
    (Fluid.defect?_relativistic.mpr ⟨by norm_num, one_pos⟩) Floors.standard_pos Floors.standard_pos

theorem recover_classified_swift : swift.Classified tilted hotGas 1.5 1 :=
  recover_classified validate_hotConfig rfl isHot_slanting.definite swift

end EquationOfState

end BlockHydro
