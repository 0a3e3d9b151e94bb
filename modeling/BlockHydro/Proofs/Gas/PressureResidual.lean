import Mathlib.Analysis.Real.Sqrt
import Mathlib.Order.Monotone.Defs
import Mathlib.Tactic.FieldSimp
import Mathlib.Tactic.Linarith
import BlockHydro.Gas.PressureRoot
import BlockHydro.Proofs.Exact.Reals
import BlockHydro.Proofs.Gas.PressureSearch

/-!
# The residual of the pressure search in exact arithmetic

For a state whose momentum stays below its energy at rest, the residual exists at
every pressure that is not negative (`Undensitized.residual_eq_some`), and it falls
strictly as the pressure grows, as long as the gamma-law index is at most two
(`Undensitized.strictAntiOn_excess`).  A pressure with residual zero is therefore
the only one, and the tests of the search sort every trial to its side.

Recovery of such a state is the search for that pressure
(`Conserved.toRelativisticPrimitive_of_isRoot`).
-/

namespace BlockHydro

namespace Undensitized

/-- The residual as a function of the trial pressure. -/
noncomputable def excess (state : Undensitized ℝ) (index pressure : ℝ) : ℝ :=
  (index - 1) * (state.energy + state.density - state.momentumSquared / state.inertia pressure -
    state.density * √(1 - state.momentumSquared / state.inertia pressure ^ 2)) - pressure

/-- The momentum is smaller than the energy with rest mass, and there is some mass. -/
structure Timelike (state : Undensitized ℝ) : Prop where
  density_pos : 0 < state.density
  momentumSquared_nonneg : 0 ≤ state.momentumSquared
  rest_pos : 0 < state.energy + state.density
  momentumSquared_lt : state.momentumSquared < (state.energy + state.density) ^ 2

variable {state : Undensitized ℝ} {index pressure : ℝ}

namespace Timelike

theorem inertia_pos (timelike : state.Timelike) (pressure_nonneg : 0 ≤ pressure) :
    0 < state.inertia pressure :=
  add_pos_of_pos_of_nonneg timelike.rest_pos pressure_nonneg

/-- Pressure adds to the energy, so the state stays inside the light cone. -/
theorem momentumSquared_lt_inertia (timelike : state.Timelike) (pressure_nonneg : 0 ≤ pressure) :
    state.momentumSquared < state.inertia pressure ^ 2 := by
  refine timelike.momentumSquared_lt.trans_le ?_
  have grown : state.energy + state.density ≤ state.inertia pressure :=
    le_add_of_nonneg_right pressure_nonneg
  have rest_pos := timelike.rest_pos
  gcongr

theorem slack_pos (timelike : state.Timelike) (pressure_nonneg : 0 ≤ pressure) :
    0 < state.inertia pressure * state.inertia pressure - state.momentumSquared := by
  have below := timelike.momentumSquared_lt_inertia pressure_nonneg
  rw [sq] at below
  exact sub_pos.mpr below

end Timelike

/-- The residual exists at every pressure that is not negative. -/
theorem residual_eq_some (timelike : state.Timelike) (pressure_nonneg : 0 ≤ pressure) :
    state.residual index pressure = some (state.excess index pressure) := by
  have inertia_pos := timelike.inertia_pos pressure_nonneg
  have slack_pos := timelike.slack_pos pressure_nonneg
  have root : √(1 - state.momentumSquared / state.inertia pressure ^ 2) =
      √(state.inertia pressure * state.inertia pressure - state.momentumSquared) /
        state.inertia pressure := by
    have quotient : 1 - state.momentumSquared / state.inertia pressure ^ 2 =
        (state.inertia pressure * state.inertia pressure - state.momentumSquared) /
          state.inertia pressure ^ 2 := by
      field_simp
    rw [quotient, Real.sqrt_div slack_pos.le, Real.sqrt_sq inertia_pos.le]
  have total : state.energy + state.density = state.inertia pressure - pressure := by
    unfold inertia
    ring
  unfold residual excess
  dsimp only
  rw [if_pos ⟨slack_pos, inertia_pos⟩, root, total]
  rw [Exact.sqrt_eq, Option.some_inj]
  generalize √(state.inertia pressure * state.inertia pressure - state.momentumSquared) = slackRoot
  field_simp
  ring

/-- The test of the halving steps is the sign of the residual. -/
theorem rootAbove_eq (timelike : state.Timelike) (pressure_nonneg : 0 ≤ pressure) :
    state.rootAbove index pressure = decide (0 ≤ state.excess index pressure) := by
  unfold rootAbove
  rw [residual_eq_some timelike pressure_nonneg]

/-- The test of the doubling steps agrees with it, since no trial outruns light. -/
theorem rootAboveOrSuperluminal_eq (timelike : state.Timelike) (pressure_nonneg : 0 ≤ pressure) :
    state.rootAboveOrSuperluminal index pressure = decide (0 ≤ state.excess index pressure) := by
  unfold rootAboveOrSuperluminal
  rw [residual_eq_some timelike pressure_nonneg]

/-- At zero pressure no more is left than the energy with rest mass would give. -/
theorem excess_zero_le (timelike : state.Timelike) (index_gt : 1 < index) :
    state.excess index 0 ≤ (index - 1) * (state.energy + state.density) := by
  have inertia_pos := timelike.inertia_pos le_rfl
  have momentumTerm : 0 ≤ state.momentumSquared / state.inertia 0 :=
    div_nonneg timelike.momentumSquared_nonneg inertia_pos.le
  have massTerm : 0 ≤ state.density * √(1 - state.momentumSquared / state.inertia 0 ^ 2) :=
    mul_nonneg timelike.density_pos.le (Real.sqrt_nonneg _)
  unfold excess
  rw [sub_zero]
  exact mul_le_mul_of_nonneg_left (by linarith) (sub_pos.mpr index_gt).le

namespace Timelike

variable {first second : ℝ}

/-- What the momentum takes from the energy falls as the pressure grows. -/
theorem momentumTerm_sub (timelike : state.Timelike) (first_nonneg : 0 ≤ first)
    (second_nonneg : 0 ≤ second) :
    state.momentumSquared / state.inertia first - state.momentumSquared / state.inertia second =
      state.momentumSquared / (state.inertia first * state.inertia second) * (second - first) := by
  have firstPos := timelike.inertia_pos first_nonneg
  have secondPos := timelike.inertia_pos second_nonneg
  have grown : second - first = state.inertia second - state.inertia first := by
    unfold inertia
    ring
  rw [grown]
  field_simp

theorem inertia_mono (state : Undensitized ℝ) (le : first ≤ second) :
    state.inertia first ≤ state.inertia second :=
  add_le_add_right le _

/-- It falls by less than the pressure grows. -/
theorem momentumShare_lt (timelike : state.Timelike) (first_nonneg : 0 ≤ first)
    (le : first ≤ second) :
    state.momentumSquared / (state.inertia first * state.inertia second) < 1 := by
  have firstPos := timelike.inertia_pos first_nonneg
  have secondPos := timelike.inertia_pos (first_nonneg.trans le)
  have below := timelike.momentumSquared_lt_inertia first_nonneg
  rw [div_lt_one (by positivity)]
  calc state.momentumSquared < state.inertia first * state.inertia first := by rwa [← sq]
    _ ≤ state.inertia first * state.inertia second :=
      mul_le_mul_of_nonneg_left (inertia_mono state le) firstPos.le

/-- What the rest mass takes grows with the pressure. -/
theorem massFactor_mono (timelike : state.Timelike) (first_nonneg : 0 ≤ first)
    (le : first ≤ second) :
    √(1 - state.momentumSquared / state.inertia first ^ 2) ≤
      √(1 - state.momentumSquared / state.inertia second ^ 2) := by
  have firstPos := timelike.inertia_pos first_nonneg
  have momentum_nonneg := timelike.momentumSquared_nonneg
  have grown := inertia_mono state le
  gcongr

end Timelike

/-- The residual falls faster than by what the index leaves of the pressure. -/
theorem lt_excess_sub (timelike : state.Timelike) (index_gt : 1 < index) {first second : ℝ}
    (first_nonneg : 0 ≤ first) (less : first < second) :
    (2 - index) * (second - first) < state.excess index first - state.excess index second := by
  have momentumTerm := timelike.momentumTerm_sub first_nonneg (first_nonneg.trans less.le)
  have share := mul_lt_mul_of_pos_right (timelike.momentumShare_lt first_nonneg less.le)
    (sub_pos.mpr less)
  rw [← momentumTerm, one_mul] at share
  have massTerm := mul_le_mul_of_nonneg_left (timelike.massFactor_mono first_nonneg less.le)
    timelike.density_pos.le
  have scaled := mul_lt_mul_of_pos_left
    (by linarith : -(second - first) <
      state.momentumSquared / state.inertia second - state.momentumSquared / state.inertia first +
        (state.density * √(1 - state.momentumSquared / state.inertia second ^ 2) -
          state.density * √(1 - state.momentumSquared / state.inertia first ^ 2)))
    (sub_pos.mpr index_gt)
  unfold excess
  linarith

/-- More pressure leaves less residual. -/
theorem strictAntiOn_excess (timelike : state.Timelike) (index_gt : 1 < index)
    (index_le : index ≤ 2) : StrictAntiOn (state.excess index) (Set.Ici 0) := by
  intro first first_nonneg second _ less
  have falls := lt_excess_sub timelike index_gt first_nonneg less
  have left := mul_nonneg (sub_nonneg.mpr index_le) (sub_pos.mpr less).le
  linarith

/-- A pressure without residual, as recovery looks for. -/
structure IsRoot (state : Undensitized ℝ) (index root : ℝ) : Prop where
  timelike : state.Timelike
  index_gt : 1 < index
  index_le : index ≤ 2
  root_nonneg : 0 ≤ root
  excess_eq : state.excess index root = 0

namespace IsRoot

variable {root : ℝ}

/-- The residual is not negative exactly up to the root. -/
theorem excess_nonneg_iff (isRoot : state.IsRoot index root) (pressure_nonneg : 0 ≤ pressure) :
    0 ≤ state.excess index pressure ↔ pressure ≤ root := by
  have falls := strictAntiOn_excess isRoot.timelike isRoot.index_gt isRoot.index_le
  rw [← isRoot.excess_eq]
  exact falls.le_iff_ge isRoot.root_nonneg pressure_nonneg

/-- The sign of the residual sorts trial pressures. -/
theorem sorts_of_decides (isRoot : state.IsRoot index root) {below : ℝ → Bool}
    (decides : ∀ trial, 0 ≤ trial → below trial = decide (0 ≤ state.excess index trial)) :
    Bracket.Sorts below root := by
  constructor
  · intro trial trial_nonneg under
    rw [decides trial trial_nonneg] at under
    exact (isRoot.excess_nonneg_iff trial_nonneg).mp (of_decide_eq_true under)
  · intro trial trial_nonneg above
    rw [decides trial trial_nonneg] at above
    have beyond := mt (isRoot.excess_nonneg_iff trial_nonneg).mpr (of_decide_eq_false above)
    exact (not_le.mp beyond).le

theorem sorts_rootAbove (isRoot : state.IsRoot index root) :
    Bracket.Sorts (state.rootAbove index) root :=
  isRoot.sorts_of_decides fun _ trial_nonneg => rootAbove_eq isRoot.timelike trial_nonneg

theorem sorts_rootAboveOrSuperluminal (isRoot : state.IsRoot index root) :
    Bracket.Sorts (state.rootAboveOrSuperluminal index) root :=
  isRoot.sorts_of_decides fun _ trial_nonneg =>
    rootAboveOrSuperluminal_eq isRoot.timelike trial_nonneg

/-- A search that ends has enclosed the root in a narrow bracket. -/
theorem encloses_bracketRoot (isRoot : state.IsRoot index root) {search : RootSearch ℝ} {high : ℝ}
    (high_nonneg : 0 ≤ high) {bracket : Bracket ℝ}
    (found : state.bracketRoot index search high = some bracket) :
    bracket.Encloses root ∧ bracket.high - bracket.low ≤ search.tolerance * bracket.high := by
  unfold bracketRoot at found
  obtain ⟨wide, expanded, narrowed⟩ := Option.bind_eq_some_iff.mp found
  have encloses := isRoot.sorts_rootAboveOrSuperluminal.encloses_expand le_rfl isRoot.root_nonneg
    high_nonneg expanded
  exact isRoot.sorts_rootAbove.encloses_narrow encloses narrowed

/-- A search ends if its limit pays for doubling past the root and for halving what that leaves. -/
theorem exists_bracketRoot (isRoot : state.IsRoot index root) {search : RootSearch ℝ}
    (tolerance_nonneg : 0 ≤ search.tolerance) {high : ℝ} (high_nonneg : 0 ≤ high)
    {doublings halvings : Nat} (reaches : root < high * 2 ^ doublings)
    (enough : max high (2 * root) ≤ search.tolerance * root * 2 ^ halvings)
    (affordable : doublings + halvings ≤ search.maxIterations) :
    ∃ bracket, state.bracketRoot index search high = some bracket := by
  obtain ⟨spare, limit⟩ := Nat.exists_eq_add_of_le
    ((Nat.le_add_right doublings halvings).trans affordable)
  obtain ⟨wide, expanded, kept, low_nonneg, high_le⟩ :=
    isRoot.sorts_rootAboveOrSuperluminal.exists_expand le_rfl high_nonneg reaches spare
  have encloses := isRoot.sorts_rootAboveOrSuperluminal.encloses_expand le_rfl isRoot.root_nonneg
    high_nonneg expanded
  obtain ⟨bracket, narrowed⟩ := isRoot.sorts_rootAbove.exists_narrow tolerance_nonneg encloses
    (by linarith : wide.high - wide.low ≤ search.tolerance * root * 2 ^ halvings) (by omega)
  rw [← limit] at expanded
  exact ⟨bracket, Option.bind_eq_some_iff.mpr ⟨wide, expanded, narrowed⟩⟩

/-- The search starts: the residual at zero pressure exists and is not negative. -/
theorem excessAtZero_eq_ok (isRoot : state.IsRoot index root) :
    state.excessAtZero index = .ok (state.excess index 0) ∧ 0 ≤ state.excess index 0 := by
  have excess_nonneg := (isRoot.excess_nonneg_iff le_rfl).mpr isRoot.root_nonneg
  refine ⟨?_, excess_nonneg⟩
  unfold excessAtZero
  rw [residual_eq_some isRoot.timelike le_rfl]
  exact if_pos excess_nonneg

end IsRoot

end Undensitized

namespace Conserved

variable {conserved : Conserved ℝ} {metric : Metric ℝ} {index root : ℝ}

/-- Recovery of a state with a root is the search for it. -/
theorem toRelativisticPrimitive_eq (isRoot : (conserved.undensitize metric).IsRoot index root)
    (baryonMass pressureFloor : ℝ) (search : RootSearch ℝ) :
    conserved.toRelativisticPrimitive metric index baryonMass pressureFloor search =
      match (conserved.undensitize metric).bracketRoot index search
        (max ((conserved.undensitize metric).excess index 0) pressureFloor) with
      | some bracket => .ok ((conserved.undensitize metric).atPressure baryonMass bracket.middle)
      | none => .error (.rootFinderFailed (search.maxIterations + 1)) := by
  unfold toRelativisticPrimitive
  dsimp only
  rw [if_pos isRoot.timelike.density_pos, isRoot.excessAtZero_eq_ok.1]
  dsimp only [bind, Except.bind]
  rw [Exact.max_eq]
  generalize (conserved.undensitize metric).bracketRoot index search _ = found
  cases found <;> rfl

/-- Recovery of a state with a root finds a pressure in a narrow bracket around it, or runs out of
iterations. -/
theorem toRelativisticPrimitive_of_isRoot
    (isRoot : (conserved.undensitize metric).IsRoot index root) (baryonMass pressureFloor : ℝ)
    (search : RootSearch ℝ) :
    conserved.toRelativisticPrimitive metric index baryonMass pressureFloor search =
        .error (.rootFinderFailed (search.maxIterations + 1)) ∨
      ∃ bracket : Bracket ℝ, bracket.Encloses root ∧
        bracket.high - bracket.low ≤ search.tolerance * bracket.high ∧
        conserved.toRelativisticPrimitive metric index baryonMass pressureFloor search =
          .ok ((conserved.undensitize metric).atPressure baryonMass bracket.middle) := by
  have high_nonneg : 0 ≤ max ((conserved.undensitize metric).excess index 0) pressureFloor :=
    le_max_of_le_left isRoot.excessAtZero_eq_ok.2
  rw [toRelativisticPrimitive_eq isRoot]
  cases found : (conserved.undensitize metric).bracketRoot index search
      (max ((conserved.undensitize metric).excess index 0) pressureFloor) with
  | none => exact .inl rfl
  | some bracket =>
    obtain ⟨encloses, narrow⟩ := isRoot.encloses_bracketRoot high_nonneg found
    exact .inr ⟨bracket, encloses, narrow, rfl⟩

/-- Recovery of a state with a root succeeds if the limit pays for the search. -/
theorem toRelativisticPrimitive_succeeds (isRoot : (conserved.undensitize metric).IsRoot index root)
    (baryonMass pressureFloor : ℝ) (search : RootSearch ℝ) (tolerance_nonneg : 0 ≤ search.tolerance)
    {doublings halvings : Nat} {high : ℝ}
    (high_eq : max ((conserved.undensitize metric).excess index 0) pressureFloor = high)
    (reaches : root < high * 2 ^ doublings)
    (enough : max high (2 * root) ≤ search.tolerance * root * 2 ^ halvings)
    (affordable : doublings + halvings ≤ search.maxIterations) :
    ∃ found, conserved.toRelativisticPrimitive metric index baryonMass pressureFloor search =
      .ok found := by
  have high_nonneg : 0 ≤ high := high_eq ▸ le_max_of_le_left isRoot.excessAtZero_eq_ok.2
  obtain ⟨bracket, found⟩ :=
    isRoot.exists_bracketRoot tolerance_nonneg high_nonneg reaches enough affordable
  rw [toRelativisticPrimitive_eq isRoot, high_eq, found]
  exact ⟨_, rfl⟩

/-- Recovery of a state whose root is positive succeeds from some limit on. -/
theorem exists_toRelativisticPrimitive (isRoot : (conserved.undensitize metric).IsRoot index root)
    (root_pos : 0 < root) (baryonMass pressureFloor : ℝ) {tolerance : ℝ}
    (tolerance_pos : 0 < tolerance) :
    ∃ limit, ∀ maxIterations, limit ≤ maxIterations → ∃ found,
      conserved.toRelativisticPrimitive metric index baryonMass pressureFloor
        ⟨tolerance, maxIterations⟩ = .ok found := by
  have high_pos : 0 < max ((conserved.undensitize metric).excess index 0) pressureFloor := by
    have falls := Undensitized.strictAntiOn_excess isRoot.timelike isRoot.index_gt isRoot.index_le
      (Set.mem_Ici.mpr le_rfl) isRoot.root_nonneg root_pos
    rw [isRoot.excess_eq] at falls
    exact lt_max_of_lt_left falls
  generalize high_eq : max ((conserved.undensitize metric).excess index 0) pressureFloor = high
    at high_pos
  obtain ⟨doublings, reaches⟩ := pow_unbounded_of_one_lt (root / high) (one_lt_two : (1 : ℝ) < 2)
  obtain ⟨halvings, enough⟩ := pow_unbounded_of_one_lt (max high (2 * root) / (tolerance * root))
    (one_lt_two : (1 : ℝ) < 2)
  rw [div_lt_iff₀' high_pos] at reaches
  rw [div_lt_iff₀' (mul_pos tolerance_pos root_pos)] at enough
  exact ⟨doublings + halvings, fun _ affordable =>
    toRelativisticPrimitive_succeeds isRoot baryonMass pressureFloor ⟨_, _⟩ tolerance_pos.le high_eq
      reaches enough.le affordable⟩

end Conserved

end BlockHydro
