import Mathlib.Analysis.Convex.Segment
import Mathlib.Tactic.FieldSimp
import BlockHydro.Proofs.Flux.FaceBudget
import BlockHydro.Proofs.Geometry.Turning

/-!
# The two-wave formula

The two-wave flux is computed in a turned frame, through shortcuts for waves that
leave the face on one side and a blend of fluxes seen from moving frames.  In exact
arithmetic all of this is one closed formula in the flux and the conserved state
of either side, taken along the axis itself (`EquationOfState.twoWaveFlux_joins`).

The way goes from the inside out: `WaveBounds.blend_eq` removes the shortcuts,
`TwoWaveFlux.ofSides_joins` has the formula for given sides, and
`EquationOfState.twoWaveFlux_eq_ofSides` undoes the turning.
-/

namespace BlockHydro

/-- The flux of a state through a face normal to `axis`; a Newtonian gas ignores the metric. -/
def EquationOfState.fluxVector {R : Type} [Scalar R] (eos : EquationOfState R) (axis : Axis)
    (metric : Metric R) (state : Primitive R) : Conserved R :=
  match eos.fluid with
  | .newtonian thermodynamics => state.fluxVector axis thermodynamics
  | .relativistic gammaLawIndex baryonMass =>
    (state.flow metric gammaLawIndex baryonMass).fluxVector metric axis

namespace Conserved

theorem ext_toFields {R : Type} {left right : Conserved R}
    (same : ∀ field : Fin 5, left.toFields.get field = right.toFields.get field) : left = right := by
  obtain ⟨density, ⟨i, j, k⟩, energy⟩ := left
  obtain ⟨density', ⟨i', j', k'⟩, energy'⟩ := right
  obtain rfl : density = density' := same 0
  obtain rfl : i = i' := same 1
  obtain rfl : j = j' := same 2
  obtain rfl : k = k' := same 3
  obtain rfl : energy = energy' := same 4
  rfl

section Fields

variable (left right : Conserved ℝ) (factor : ℝ) (field : Fin 5)

theorem toFields_add :
    (left + right).toFields.get field = left.toFields.get field + right.toFields.get field := by
  match field with
  | 0 | 1 | 2 | 3 | 4 => rfl

theorem toFields_sub :
    (left - right).toFields.get field = left.toFields.get field - right.toFields.get field := by
  match field with
  | 0 | 1 | 2 | 3 | 4 => rfl

theorem toFields_mul : (left * factor).toFields.get field = left.toFields.get field * factor := by
  match field with
  | 0 | 1 | 2 | 3 | 4 => rfl

end Fields

end Conserved

namespace WaveBounds

theorem blend_unrotate {R : Type} [Scalar R] (bounds : WaveBounds R) (left right : Conserved R)
    (axis : Axis) :
    (bounds.blend left right).unrotate axis =
      bounds.blend (left.unrotate axis) (right.unrotate axis) := by
  unfold blend
  split
  next => rw [Conserved.unrotate_mul, Conserved.unrotate_add]
  next =>
    split
    next => rfl
    next =>
      split
      next => rfl
      next =>
        simp only [Conserved.unrotate_add, Conserved.unrotate_sub, Conserved.unrotate_mul]

variable {bounds : WaveBounds ℝ}

/-- Bounds that differ weight either side by the speed of the wave of the other. -/
theorem blend_eq (apart : bounds.slowest ≠ bounds.fastest) (left right : Conserved ℝ) :
    bounds.blend left right =
      left * (bounds.fastest / (bounds.fastest - bounds.slowest)) -
        right * (bounds.slowest / (bounds.fastest - bounds.slowest)) := by
  have width : bounds.fastest - bounds.slowest ≠ 0 := sub_ne_zero.mpr apart.symm
  refine Conserved.ext_toFields fun field => ?_
  unfold blend
  rw [if_neg (by simpa using apart.symm)]
  split
  next leftmost =>
    have zero : bounds.slowest = 0 := by simpa using leftmost
    rw [zero, sub_zero] at width
    simp only [zero, sub_zero, zero_div, div_self width, Conserved.toFields_sub,
      Conserved.toFields_mul, mul_one, mul_zero]
  next =>
    split
    next rightmost =>
      have zero : bounds.fastest = 0 := by simpa using rightmost
      rw [zero, zero_sub] at width
      simp only [zero, zero_sub, zero_div, div_neg, div_self (neg_ne_zero.mp width),
        Conserved.toFields_sub, Conserved.toFields_mul]
      ring
    next =>
      simp only [Conserved.toFields_add, Conserved.toFields_sub, Conserved.toFields_mul]
      field_simp
      ring

end WaveBounds

/-- A flux joins a left and a right side by the two-wave formula. -/
structure TwoWaveFlux.Joins (solution : TwoWaveFlux ℝ)
    (leftState rightState leftFlux rightFlux : Conserved ℝ) : Prop where
  slowest_nonpos : solution.bounds.slowest ≤ 0
  fastest_nonneg : 0 ≤ solution.bounds.fastest
  leftFlux_eq : solution.leftFlux = leftFlux - leftState * solution.bounds.slowest
  rightFlux_eq : solution.rightFlux = rightFlux - rightState * solution.bounds.fastest
  flux_of_apart : solution.bounds.slowest ≠ solution.bounds.fastest →
    solution.flux * (solution.bounds.fastest - solution.bounds.slowest) =
      leftFlux * solution.bounds.fastest - rightFlux * solution.bounds.slowest +
        (rightState - leftState) * (solution.bounds.slowest * solution.bounds.fastest)
  /-- Every value of the flux lies between those seen from the two waves. -/
  flux_between : solution.bounds.slowest ≠ solution.bounds.fastest → ∀ field : Fin 5,
    solution.flux.toFields.get field ∈
      Set.uIcc (solution.leftFlux.toFields.get field) (solution.rightFlux.toFields.get field)
  flux_of_still : solution.bounds.slowest = solution.bounds.fastest →
    solution.flux = (leftFlux + rightFlux) * (0.5 : ℝ)

namespace TwoWaveFlux

variable {leftState rightState leftFlux rightFlux : Conserved ℝ}

/-- Sides that are turned, joined and turned back are joined. -/
theorem ofSides_turned {R : Type} [Scalar R] (bounds : WaveBounds R) (clipped : Bool)
    (leftState rightState leftFlux rightFlux : Conserved R) (axis : Axis) :
    (ofSides bounds clipped (leftState.rotate axis) (rightState.rotate axis)
        (leftFlux.rotate axis) (rightFlux.rotate axis)).unrotate axis =
      ofSides bounds clipped leftState rightState leftFlux rightFlux := by
  simp only [ofSides, unrotate, WaveBounds.blend_unrotate, Conserved.unrotate_sub,
    Conserved.unrotate_mul, Conserved.unrotate_rotate]

/-- Fluxes of known sides are joined by the formula. -/
theorem ofSides_joins {bounds : WaveBounds ℝ} (slowest_nonpos : bounds.slowest ≤ 0)
    (fastest_nonneg : 0 ≤ bounds.fastest) (clipped : Bool) :
    (ofSides bounds clipped leftState rightState leftFlux rightFlux).Joins
      leftState rightState leftFlux rightFlux where
  slowest_nonpos := slowest_nonpos
  fastest_nonneg := fastest_nonneg
  leftFlux_eq := rfl
  rightFlux_eq := rfl
  flux_of_apart (apart : bounds.slowest ≠ bounds.fastest) := by
    have width : bounds.fastest - bounds.slowest ≠ 0 := sub_ne_zero.mpr apart.symm
    refine Conserved.ext_toFields fun field => ?_
    simp only [ofSides, WaveBounds.blend_eq apart, Conserved.toFields_add, Conserved.toFields_sub,
      Conserved.toFields_mul]
    field_simp
    ring
  flux_between (apart : bounds.slowest ≠ bounds.fastest) field := by
    have width : 0 < bounds.fastest - bounds.slowest :=
      sub_pos.mpr (lt_of_le_of_ne (slowest_nonpos.trans fastest_nonneg) apart)
    -- The two weights are not negative and add up to one.
    rw [← segment_eq_uIcc]
    refine ⟨bounds.fastest / (bounds.fastest - bounds.slowest),
      -bounds.slowest / (bounds.fastest - bounds.slowest),
      div_nonneg fastest_nonneg width.le, div_nonneg (neg_nonneg.mpr slowest_nonpos) width.le,
      ?_, ?_⟩
    · rw [← add_div, ← sub_eq_add_neg, div_self width.ne']
    · simp only [ofSides, WaveBounds.blend_eq apart, Conserved.toFields_sub, Conserved.toFields_mul,
        smul_eq_mul]
      ring
  flux_of_still (still : bounds.slowest = bounds.fastest) := by
    have fastest_zero : bounds.fastest = 0 :=
      le_antisymm (still.symm.trans_le slowest_nonpos) fastest_nonneg
    have slowest_zero : bounds.slowest = 0 := still.trans fastest_zero
    have blended : ∀ left right : Conserved ℝ, bounds.blend left right = (left + right) * (0.5 : ℝ) :=
      fun left right => if_pos (decide_eq_true (fastest_zero.trans slowest_zero.symm))
    refine Conserved.ext_toFields fun field => ?_
    simp only [ofSides, blended, slowest_zero, fastest_zero, Conserved.toFields_add,
      Conserved.toFields_sub, Conserved.toFields_mul, mul_zero, sub_zero]

/-- Between equal sides the formula gives the flux of either. -/
theorem Joins.flux_eq {solution : TwoWaveFlux ℝ} {state flux : Conserved ℝ}
    (joins : solution.Joins state state flux flux) : solution.flux = flux := by
  refine Conserved.ext_toFields fun field => ?_
  by_cases still : solution.bounds.slowest = solution.bounds.fastest
  · rw [joins.flux_of_still still, Conserved.toFields_mul, Conserved.toFields_add]
    ring
  · have width : solution.bounds.fastest - solution.bounds.slowest ≠ 0 :=
      sub_ne_zero.mpr (Ne.symm still)
    have formula := congrArg (fun fluxes : Conserved ℝ => fluxes.toFields.get field)
      (joins.flux_of_apart still)
    simp only [Conserved.toFields_add, Conserved.toFields_sub, Conserved.toFields_mul] at formula
    refine mul_right_cancel₀ width ?_
    rw [formula]
    ring

end TwoWaveFlux

/-- Sides that are turned, joined by one wave and turned back are joined by it. -/
theorem oneWaveFlux_turned {R : Type} [Scalar R] (speed : R)
    (leftState rightState leftFlux rightFlux : Conserved R) (axis : Axis) :
    (oneWaveFlux speed (leftState.rotate axis) (rightState.rotate axis)
        (leftFlux.rotate axis) (rightFlux.rotate axis)).unrotate axis =
      oneWaveFlux speed leftState rightState leftFlux rightFlux := by
  simp only [oneWaveFlux, Conserved.unrotate_add, Conserved.unrotate_sub, Conserved.unrotate_mul,
    Conserved.unrotate_rotate]

/-- Between equal sides one wave carries the flux of either. -/
theorem oneWaveFlux_self (speed : ℝ) (state flux : Conserved ℝ) :
    oneWaveFlux speed state state flux flux = flux := by
  refine Conserved.ext_toFields fun field => ?_
  simp only [oneWaveFlux, Conserved.toFields_add, Conserved.toFields_sub, Conserved.toFields_mul]
  ring

namespace EquationOfState

variable (eos : EquationOfState ℝ) (axis : Axis) (metric : Metric ℝ) (left right : Primitive ℝ)

/-- The solution in the turned frame, turned back, has the sides of the given frame. -/
theorem twoWaveFlux_eq_ofSides :
    ∃ (slowest fastest : ℝ) (clipped : Bool), eos.twoWaveFlux axis metric left right =
      .ofSides (.clamp slowest fastest) clipped (eos.encode metric left) (eos.encode metric right)
        (eos.fluxVector axis metric left) (eos.fluxVector axis metric right) := by
  unfold twoWaveFlux encode fluxVector
  cases eos.fluid with
  | newtonian thermodynamics =>
    dsimp only [Thermodynamics.twoWaveFlux]
    rw [Primitive.toConserved_rotate, Primitive.toConserved_rotate, Primitive.fluxVector_rotate,
      Primitive.fluxVector_rotate, TwoWaveFlux.ofSides_turned]
    exact ⟨_, _, _, rfl⟩
  | relativistic gammaLawIndex baryonMass =>
    dsimp only [RelativisticFlow.twoWaveFlux]
    rw [Primitive.flow_rotate, Primitive.flow_rotate, RelativisticFlow.toConserved_rotate,
      RelativisticFlow.toConserved_rotate, RelativisticFlow.fluxVector_rotate,
      RelativisticFlow.fluxVector_rotate, TwoWaveFlux.ofSides_turned]
    exact ⟨_, _, _, rfl⟩

theorem lowOrderFlux_eq_oneWaveFlux :
    ∃ speed : ℝ, eos.lowOrderFlux axis metric left right =
      oneWaveFlux speed (eos.encode metric left) (eos.encode metric right)
        (eos.fluxVector axis metric left) (eos.fluxVector axis metric right) := by
  unfold lowOrderFlux encode fluxVector
  cases eos.fluid with
  | newtonian thermodynamics =>
    dsimp only [Thermodynamics.lowOrderFlux]
    rw [Primitive.toConserved_rotate, Primitive.toConserved_rotate, Primitive.fluxVector_rotate,
      Primitive.fluxVector_rotate, oneWaveFlux_turned]
    exact ⟨_, rfl⟩
  | relativistic gammaLawIndex baryonMass =>
    dsimp only [RelativisticFlow.lowOrderFlux]
    rw [Primitive.flow_rotate, Primitive.flow_rotate, RelativisticFlow.toConserved_rotate,
      RelativisticFlow.toConserved_rotate, RelativisticFlow.fluxVector_rotate,
      RelativisticFlow.fluxVector_rotate, oneWaveFlux_turned]
    exact ⟨_, rfl⟩

theorem joins_sides :
    (eos.twoWaveFlux axis metric left right).Joins (eos.encode metric left)
      (eos.encode metric right) (eos.fluxVector axis metric left)
      (eos.fluxVector axis metric right) := by
  obtain ⟨slowest, fastest, clipped, sides⟩ := eos.twoWaveFlux_eq_ofSides axis metric left right
  rw [sides]
  exact TwoWaveFlux.ofSides_joins
    (WaveBounds.clamp_slowest_le.trans (min_le_right slowest 0))
    ((le_max_right fastest 0).trans WaveBounds.le_clamp_fastest) clipped

/-- The two-wave flux joins its two states by the two-wave formula, whatever the gas, the axis and
the metric; between equal states both fluxes are the flux of the state. -/
theorem twoWaveFlux_joins (eos : EquationOfState ℝ) (axis : Axis) (metric : Metric ℝ) :
    (∀ left right : Primitive ℝ,
      (eos.twoWaveFlux axis metric left right).Joins (eos.encode metric left)
        (eos.encode metric right) (eos.fluxVector axis metric left)
        (eos.fluxVector axis metric right)) ∧
    ∀ state : Primitive ℝ,
      (eos.twoWaveFlux axis metric state state).flux = eos.fluxVector axis metric state ∧
        eos.lowOrderFlux axis metric state state = eos.fluxVector axis metric state := by
  refine ⟨eos.joins_sides axis metric, fun state => ⟨?twoWave, ?oneWave⟩⟩
  case twoWave => exact (eos.joins_sides axis metric state state).flux_eq
  case oneWave =>
    obtain ⟨speed, carried⟩ := eos.lowOrderFlux_eq_oneWaveFlux axis metric state state
    rw [carried, oneWaveFlux_self]

end EquationOfState

end BlockHydro
