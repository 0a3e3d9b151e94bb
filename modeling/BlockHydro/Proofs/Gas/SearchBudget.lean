import Mathlib.Analysis.Real.Sqrt
import Mathlib.Tactic.FieldSimp
import Mathlib.Tactic.Linarith
import BlockHydro.Proofs.Gas.RecoveryClassification

/-!
# The iterations that relativistic recovery needs

Between two pressures of a state inside its cone the residual falls by no more than
the pressure grows (`Undensitized.excess_sub_le`), and by more than what an index
below two leaves of it (`Undensitized.lt_excess_sub`).  The residual at zero pressure,
from which the search starts, is therefore at most the root and at least a fixed
share of it, for any velocity, enthalpy and metric.  Up to an index of five thirds
two doublings pass the root, and the halvings that remain are those of the
tolerance.

A search that gives up says so with one more than its limit, in any arithmetic.
-/

namespace BlockHydro

namespace Undensitized

variable {state : Undensitized ℝ} {index : ℝ}

namespace InCone

/-- The share of the rest mass in the inertia is at most the root that weights it. -/
theorem restShare_le (inCone : state.InCone) (density_pos : 0 < state.density) {pressure : ℝ}
    (pressure_nonneg : 0 ≤ pressure) :
    state.density / state.inertia pressure ≤
      √(1 - state.momentumSquared / state.inertia pressure ^ 2) := by
  have total_pos := inCone.total_pos
  have grown : state.energy + state.density ≤ state.inertia pressure :=
    le_add_of_nonneg_right pressure_nonneg
  have inertia_pos : 0 < state.inertia pressure := total_pos.trans_le grown
  have fits : state.density ^ 2 + state.momentumSquared ≤ state.inertia pressure ^ 2 :=
    inCone.cone.trans (pow_le_pow_left₀ total_pos.le grown 2)
  rw [Real.le_sqrt' (div_pos density_pos inertia_pos), div_pow, le_sub_iff_add_le, ← add_div]
  exact div_le_one_of_le₀ fits (sq_nonneg _)

end InCone

/-- Inside the cone the residual falls by no more than the pressure grows. -/
theorem excess_sub_le (timelike : state.Timelike) (inCone : state.InCone) (index_gt : 1 < index)
    {first second : ℝ} (first_nonneg : 0 ≤ first) (le : first ≤ second) :
    state.excess index first - state.excess index second ≤ second - first := by
  have second_nonneg := first_nonneg.trans le
  have firstPos := timelike.inertia_pos first_nonneg
  have secondPos := timelike.inertia_pos second_nonneg
  have firstShare := inCone.restShare_le timelike.density_pos first_nonneg
  have secondShare := inCone.restShare_le timelike.density_pos second_nonneg
  have firstShare_pos := div_pos timelike.density_pos firstPos
  have secondShare_pos := div_pos timelike.density_pos secondPos
  have momentumTerm : 0 ≤ state.momentumSquared / state.inertia first -
      state.momentumSquared / state.inertia second := by
    have momentum_nonneg := timelike.momentumSquared_nonneg
    rw [timelike.momentumTerm_sub first_nonneg second_nonneg]
    exact mul_nonneg (by positivity) (sub_nonneg.mpr le)
  have firstSquare := Real.sq_sqrt (Real.sqrt_pos.mp (firstShare_pos.trans_le firstShare)).le
  have secondSquare := Real.sq_sqrt (Real.sqrt_pos.mp (secondShare_pos.trans_le secondShare)).le
  -- The difference of the roots is that of their squares over their sum, which the shares bound.
  have massTerm : state.density * (√(1 - state.momentumSquared / state.inertia second ^ 2) -
      √(1 - state.momentumSquared / state.inertia first ^ 2)) ≤
      state.momentumSquared / state.inertia first -
        state.momentumSquared / state.inertia second := by
    have roots : (√(1 - state.momentumSquared / state.inertia second ^ 2) -
        √(1 - state.momentumSquared / state.inertia first ^ 2)) *
        (√(1 - state.momentumSquared / state.inertia second ^ 2) +
          √(1 - state.momentumSquared / state.inertia first ^ 2)) * state.density =
        (state.momentumSquared / state.inertia first -
          state.momentumSquared / state.inertia second) *
          (state.density / state.inertia second + state.density / state.inertia first) := by
      calc _ = (√(1 - state.momentumSquared / state.inertia second ^ 2) ^ 2 -
            √(1 - state.momentumSquared / state.inertia first ^ 2) ^ 2) * state.density := by ring
        _ = _ := by
          rw [firstSquare, secondSquare]
          field_simp
          ring
    generalize √(1 - state.momentumSquared / state.inertia second ^ 2) = secondRoot at *
    generalize √(1 - state.momentumSquared / state.inertia first ^ 2) = firstRoot at *
    have sum_pos : 0 < secondRoot + firstRoot := by linarith
    refine le_of_mul_le_mul_right ?_ sum_pos
    calc _ = (secondRoot - firstRoot) * (secondRoot + firstRoot) * state.density := by ring
      _ = _ := roots
      _ ≤ _ := mul_le_mul_of_nonneg_left (add_le_add secondShare firstShare) momentumTerm
  have scaled := mul_le_mul_of_nonneg_left massTerm (sub_pos.mpr index_gt).le
  unfold excess
  linarith

namespace IsRoot

variable {root : ℝ}

/-- A state with a root lies in its cone. -/
theorem inCone (isRoot : state.IsRoot index root) : state.InCone :=
  (excess_zero_nonneg_iff isRoot.timelike isRoot.index_gt).mp isRoot.excessAtZero_eq_ok.2

/-- The residual at zero pressure is at most the root. -/
theorem excess_zero_le_root (isRoot : state.IsRoot index root) : state.excess index 0 ≤ root := by
  have falls := excess_sub_le isRoot.timelike isRoot.inCone isRoot.index_gt le_rfl isRoot.root_nonneg
  rwa [isRoot.excess_eq, sub_zero, sub_zero] at falls

/-- The residual at zero pressure is a share of the root that the index fixes. -/
theorem root_lt_excess_zero (isRoot : state.IsRoot index root) (root_pos : 0 < root) :
    (2 - index) * root < state.excess index 0 := by
  have falls := lt_excess_sub isRoot.timelike isRoot.index_gt le_rfl root_pos
  rwa [isRoot.excess_eq, sub_zero, sub_zero] at falls

/-- A search that starts at or below its root needs at least one iteration. -/
theorem bracketRoot_eq_none (isRoot : state.IsRoot index root) (tolerance : ℝ) {high : ℝ}
    (high_nonneg : 0 ≤ high) (high_le : high ≤ root) :
    state.bracketRoot index ⟨tolerance, 0⟩ high = none := by
  have below : state.rootAboveOrSuperluminal index high = true := by
    rw [rootAboveOrSuperluminal_eq isRoot.timelike high_nonneg]
    exact decide_eq_true ((isRoot.excess_nonneg_iff high_nonneg).mpr high_le)
  have expanded : Bracket.expand (state.rootAboveOrSuperluminal index) 0 0 high = none := by
    unfold Bracket.expand
    exact if_pos below
  exact Option.bind_eq_none_iff.mpr fun wide found => by
    cases expanded.symm.trans found

end IsRoot

end Undensitized

/-- Up to an index of five thirds the standard search finds a root at or above the pressure floor: two
doublings pass it, and 41 halvings narrow the bracket. -/
theorem Conserved.exists_standard_search {conserved : Conserved ℝ} {metric : Metric ℝ}
    {index root pressureFloor : ℝ} (isRoot : (conserved.undensitize metric).IsRoot index root)
    (index_le : index ≤ 5 / 3) (root_pos : 0 < root) (floor_le : pressureFloor ≤ root)
    (baryonMass : ℝ) :
    ∃ found, conserved.toRelativisticPrimitive metric index baryonMass pressureFloor .standard =
      .ok found := by
  have start_le := max_le isRoot.excess_zero_le_root floor_le
  have le_start := le_max_left ((conserved.undensitize metric).excess index 0) pressureFloor
  have share := isRoot.root_lt_excess_zero root_pos
  have third : 1 / 3 * root ≤ (2 - index) * root :=
    mul_le_mul_of_nonneg_right (by linarith) root_pos.le
  generalize start_eq : max ((conserved.undensitize metric).excess index 0) pressureFloor = start
    at start_le le_start
  have reaches : root < start * 2 ^ 2 := by linarith
  have enough : max start (2 * root) ≤ 1e-12 * root * 2 ^ 41 := max_le (by linarith) (by linarith)
  have affordable : 2 + 41 ≤ 100 := by decide
  exact toRelativisticPrimitive_succeeds isRoot baryonMass pressureFloor .standard
    (by norm_num [RootSearch.standard]) start_eq reaches enough affordable

namespace EquationOfState

section History

variable {R : Type} [Scalar R]

/-- Relativistic recovery of a conserved state has begun so many iterations and holds two ends. -/
def Began (eos : EquationOfState R) (metric : Metric R) (conserved : Conserved R) (iterations : Nat)
    (phase : SearchPhase) (low high : R) : Prop :=
  ∃ index baryonMass excess, eos.fluid = .relativistic index baryonMass ∧
    (conserved.undensitize metric).excessAtZero index = .ok excess ∧
      (conserved.undensitize metric).Searched index eos.search.tolerance
        (Scalar.max excess eos.floors.pressure) iterations phase low high

variable {eos : EquationOfState R} {metric : Metric R} {conserved : Conserved R}

/-- Relativistic recovery that succeeds has stayed within its limit. -/
theorem began_of_recover {index baryonMass : R} (fluid : eos.fluid = .relativistic index baryonMass)
    {found : Primitive R} (recovered : eos.recover .diagnostic metric conserved = .ok found) :
    ∃ iterations ≤ eos.search.maxIterations, ∃ low high,
      eos.Began metric conserved iterations .halving low high ∧
        found.pressure = 0.5 * (low + high) := by
  have outcome := conserved.outcome metric index baryonMass eos.floors.pressure eos.search
  rw [← recover_relativistic fluid, recovered] at outcome
  cases outcome with
  | found massive started searched within tight =>
    exact ⟨_, within, _, _, ⟨index, baryonMass, _, fluid, started, searched⟩, rfl⟩

/-- Recovery that gives up has begun one iteration more than its limit, and says so. -/
theorem began_of_gaveUp {mode : RecoveryMode} {iterations : Nat}
    (gaveUp : eos.recover mode metric conserved = .error (.rootFinderFailed iterations)) :
    iterations = eos.search.maxIterations + 1 ∧
      ∃ phase low high, eos.Began metric conserved iterations phase low high := by
  have refused : eos.decode metric conserved = .error (.rootFinderFailed iterations) := by
    unfold recover at gaveUp
    split at gaveUp
    next => cases gaveUp
    next decoded =>
      cases gaveUp
      exact decoded
    next => cases gaveUp
  unfold decode at refused
  split at refused
  next thermodynamics fluid =>
    unfold Conserved.toPrimitive at refused
    split at refused
    next => cases refused
    next =>
      cases thermodynamics with
      | adiabatic index =>
        dsimp only at refused
        split at refused <;> cases refused
      | isothermal speed => cases refused
  next index baryonMass fluid =>
    have outcome := conserved.outcome metric index baryonMass eos.floors.pressure eos.search
    rw [refused] at outcome
    cases outcome with
    | gaveUp massive started searched =>
      exact ⟨rfl, _, _, _, index, baryonMass, _, fluid, started, searched⟩

end History

/-- Without iterations recovery of a state above the floor gives up, since its search starts at or below
the root. -/
theorem recover_without_iterations {eos : EquationOfState ℝ} {metric : Metric ℝ}
    {index baryonMass : ℝ} {state : Primitive ℝ}
    (fluid : eos.fluid = .relativistic index baryonMass) (hot : state.IsHot metric index baryonMass)
    (floor_le : eos.floors.pressure ≤ state.pressure) (tolerance : ℝ) :
    (eos.withSearch ⟨tolerance, 0⟩).recover .diagnostic metric (eos.encode metric state) =
      .error (.rootFinderFailed 1) := by
  have isRoot := hot.isRoot_undensitize
  have sameFluid : (eos.withSearch ⟨tolerance, 0⟩).fluid = .relativistic index baryonMass := fluid
  have exhausted := isRoot.bracketRoot_eq_none tolerance
    (le_max_of_le_left isRoot.excessAtZero_eq_ok.2) (max_le isRoot.excess_zero_le_root floor_le)
  rw [encode_relativistic fluid, recover_relativistic sameFluid,
    Conserved.toRelativisticPrimitive_eq isRoot]
  simp only [withSearch, exhausted]

/-- A relativistic gas with standard settings and an index of at most five thirds recovers every state
with mass and a pressure at or above the floor from its conserved state within its limit on the
iterations.  In any arithmetic and with any settings, recovery that gives up has begun one iteration
more than its limit and reports that number. -/
theorem recover_within_budget :
    (∀ {index baryonMass : ℝ} {eos : EquationOfState ℝ},
      ofFluid (.adiabatic index) (.relativistic baryonMass) = .ok eos → index ≤ 5 / 3 →
      ∀ {metric : Metric ℝ}, metric.spatial.PosDef →
      ∀ state : Primitive ℝ, 0 < state.density → eos.floors.pressure ≤ state.pressure →
        ∃ found, eos.recover .diagnostic metric (eos.encode metric state) = .ok found ∧
          ∃ iterations ≤ 100, ∃ low high,
            eos.Began metric (eos.encode metric state) iterations .halving low high ∧
              found.pressure = 0.5 * (low + high)) ∧
    ∀ (R : Type) [Scalar R] (eos : EquationOfState R) (mode : RecoveryMode) (metric : Metric R)
      (conserved : Conserved R) (iterations : Nat),
      eos.recover mode metric conserved = .error (.rootFinderFailed iterations) →
        iterations = eos.search.maxIterations + 1 ∧
          ∃ phase low high, eos.Began metric conserved iterations phase low high := by
  constructor
  · intro index baryonMass eos built index_le metric definite state density_pos floor_le
    obtain ⟨fluid, combined, rfl, accepted⟩ := ofFluid_inversion built
    cases combined
    obtain ⟨inRange, -, floor_pos⟩ := inRange_of_validate accepted
    obtain ⟨index_gt, baryonMass_pos⟩ := Fluid.defect?_relativistic.mp inRange
    have hot : state.IsHot metric index baryonMass :=
      ⟨index_gt, by linarith, baryonMass_pos, definite, density_pos, floor_pos.trans_le floor_le⟩
    have fluid : (⟨.relativistic index baryonMass, .standard, .standard⟩ : EquationOfState ℝ).fluid =
        .relativistic index baryonMass := rfl
    obtain ⟨found, recovered⟩ : ∃ found,
        (⟨.relativistic index baryonMass, .standard, .standard⟩ : EquationOfState ℝ).recover
          .diagnostic metric (encode ⟨.relativistic index baryonMass, .standard, .standard⟩ metric
            state) = .ok found := by
      rw [recover_relativistic fluid, encode_relativistic fluid]
      exact Conserved.exists_standard_search hot.isRoot_undensitize index_le hot.pressure_pos floor_le
        baryonMass
    exact ⟨found, recovered, began_of_recover fluid recovered⟩
  · intro R _ eos mode metric conserved iterations gaveUp
    exact began_of_gaveUp gaveUp

theorem recover_within_budget_slanting :
    (∃ found, hotGas.recover .diagnostic tilted (hotGas.encode tilted slanting) = .ok found ∧
      ∃ iterations ≤ 100, ∃ low high,
        hotGas.Began tilted (hotGas.encode tilted slanting) iterations .halving low high ∧
          found.pressure = 0.5 * (low + high)) ∧
    ∃ phase low high, (hotGas.withSearch ⟨1e-12, 0⟩).Began tilted (hotGas.encode tilted slanting) 1
      phase low high := by
  have built : ofFluid (.adiabatic 1.5) (.relativistic 1) = .ok hotGas :=
    ofFluid_eq_ok rfl
      (validate_standard (Fluid.defect?_relativistic.mpr ⟨by norm_num, one_pos⟩))
  have floor_le : hotGas.floors.pressure ≤ slanting.pressure := by
    norm_num [hotGas, slanting, Floors.standard]
  obtain ⟨recovers, givesUp⟩ := recover_within_budget
  refine ⟨recovers built (by norm_num) isHot_slanting.definite slanting one_pos floor_le, ?_⟩
  exact (givesUp ℝ _ .diagnostic _ _ 1 (recover_without_iterations rfl isHot_slanting floor_le _)).2

end EquationOfState

end BlockHydro
