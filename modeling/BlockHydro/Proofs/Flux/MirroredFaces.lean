import Mathlib.Analysis.Real.Sqrt
import Mathlib.Tactic.Ring
import BlockHydro.Proofs.Flux.MeanFlow
import BlockHydro.Proofs.Flux.TwoWaveFormula
import BlockHydro.Proofs.Geometry.Mirror

/-!
# Faces seen in a mirror

A mirror that turns the normal of a face around exchanges its two sides.  In exact
arithmetic both fluxes through the face follow (`EquationOfState.fluxes_mirror`): the
bounds on the waves change places and signs, the one-sided fluxes change places, and
all fluxes run the other way.

Neither side has a role of its own in what the flux is made of: the mean of the two
states (`MeanFlow.between_mirror`), the shortcuts of the blend
(`WaveBounds.blend_mirror`) and the single speed of the one-wave flux.
-/

namespace BlockHydro

/-- The bounds behind the mirror. -/
def WaveBounds.mirror (bounds : WaveBounds ℝ) : WaveBounds ℝ :=
  ⟨-bounds.fastest, -bounds.slowest⟩

/-- The solution behind the mirror, where left and right have changed places. -/
def TwoWaveFlux.mirror (solution : TwoWaveFlux ℝ) (axis : Axis) : TwoWaveFlux ℝ where
  flux := solution.flux.reverse axis
  leftFlux := solution.rightFlux.reverse axis
  rightFlux := solution.leftFlux.reverse axis
  bounds := solution.bounds.mirror
  clipped := solution.clipped

/-- The mean flow behind the mirror. -/
def MeanFlow.mirror (mean : MeanFlow ℝ) (axis : Axis) : MeanFlow ℝ :=
  { mean with velocity := mean.velocity.mirror axis }

namespace WaveBounds

theorem clamp_mirror (slowest fastest : ℝ) :
    clamp (-fastest) (-slowest) = (clamp slowest fastest).mirror := by
  simp only [clamp, mirror, neg_lt_zero, neg_pos]
  congr 1 <;> split <;> simp only [neg_zero]

/-- Bounds that do not differ take the mean of both sides. -/
theorem blend_of_still {bounds : WaveBounds ℝ} (still : bounds.slowest = bounds.fastest)
    (left right : Conserved ℝ) : bounds.blend left right = (left + right) * (0.5 : ℝ) :=
  if_pos (decide_eq_true still.symm)

/-- The blend has no preferred side. -/
theorem blend_mirror (bounds : WaveBounds ℝ) (left right : Conserved ℝ) (axis : Axis) :
    bounds.mirror.blend (right.reverse axis) (left.reverse axis) =
      (bounds.blend left right).reverse axis := by
  refine Conserved.ext_toFields fun field => ?_
  by_cases still : bounds.slowest = bounds.fastest
  · have mirrored : bounds.mirror.slowest = bounds.mirror.fastest := congrArg Neg.neg still.symm
    rw [blend_of_still mirrored, blend_of_still still]
    simp only [Conserved.toFields_reverse, Conserved.toFields_add, Conserved.toFields_mul]
    ring
  · have mirrored : bounds.mirror.slowest ≠ bounds.mirror.fastest :=
      fun same => still (neg_injective same).symm
    have width : bounds.mirror.fastest - bounds.mirror.slowest = bounds.fastest - bounds.slowest :=
      neg_sub_neg _ _
    rw [blend_eq mirrored, blend_eq still, width]
    simp only [mirror, Conserved.toFields_reverse, Conserved.toFields_sub, Conserved.toFields_mul]
    ring

end WaveBounds

namespace TwoWaveFlux

theorem unrotate_mirror (solution : TwoWaveFlux ℝ) (axis : Axis) :
    (solution.mirror .i).unrotate axis = (solution.unrotate axis).mirror axis := by
  simp only [mirror, unrotate, Conserved.reverse_unrotate]

/-- A one-sided flux behind the mirror. -/
theorem reverse_side (state flux : Conserved ℝ) (speed : ℝ) (axis : Axis) :
    flux.reverse axis - state.mirror axis * -speed = (flux - state * speed).reverse axis := by
  refine Conserved.ext_toFields fun field => ?_
  simp only [Conserved.toFields_reverse, Conserved.toFields_mirror, Conserved.toFields_sub,
    Conserved.toFields_mul]
  ring

/-- Sides that are mirrored and exchanged have the mirrored solution. -/
theorem ofSides_mirror (bounds : WaveBounds ℝ) (clipped : Bool)
    (leftState rightState leftFlux rightFlux : Conserved ℝ) (axis : Axis) :
    ofSides bounds.mirror clipped (rightState.mirror axis) (leftState.mirror axis)
        (rightFlux.reverse axis) (leftFlux.reverse axis) =
      (ofSides bounds clipped leftState rightState leftFlux rightFlux).mirror axis := by
  simp only [ofSides, mirror, WaveBounds.mirror, reverse_side]
  exact congrArg (mk · _ _ _ _) (bounds.blend_mirror _ _ axis)

end TwoWaveFlux

/-- Sides that are mirrored and exchanged are joined by one wave as the mirror shows. -/
theorem oneWaveFlux_mirror (speed : ℝ) (leftState rightState leftFlux rightFlux : Conserved ℝ)
    (axis : Axis) :
    oneWaveFlux speed (rightState.mirror axis) (leftState.mirror axis) (rightFlux.reverse axis)
        (leftFlux.reverse axis) =
      (oneWaveFlux speed leftState rightState leftFlux rightFlux).reverse axis := by
  refine Conserved.ext_toFields fun field => ?_
  simp only [oneWaveFlux, Conserved.toFields_reverse, Conserved.toFields_mirror,
    Conserved.toFields_add, Conserved.toFields_sub, Conserved.toFields_mul]
  ring

section Mean

variable (left right : Primitive ℝ) (axis : Axis)

theorem MeanFlow.velocity_mirror (thermo : Thermodynamics ℝ) :
    (between thermo (right.mirror axis) (left.mirror axis)).velocity =
      (between thermo left right).velocity.mirror axis := by
  have total : √right.density + √left.density = √left.density + √right.density := add_comm _ _
  rw [velocity_between, velocity_between]
  refine PerAxis.ext_get fun other => ?_
  dsimp only [Primitive.mirror]
  rw [total]
  by_cases same : other = axis
  · subst same
    simp only [PerAxis.get_zipWith, PerAxis.get_mirror_self]
    ring
  · simp only [PerAxis.get_zipWith, PerAxis.get_mirror_of_ne _ same]
    ring

theorem MeanFlow.radicand_mirror (index : ℝ) :
    radicand index (right.mirror axis) (left.mirror axis) = radicand index left right := by
  unfold radicand
  dsimp only
  rw [velocity_mirror, PerAxis.dot_mirror, Primitive.toConserved_mirror,
    Primitive.toConserved_mirror]
  dsimp only [Primitive.mirror, Conserved.mirror]
  rw [add_comm (√right.density), add_comm (_ / √right.density)]

/-- The mean of two states has no preferred side. -/
theorem MeanFlow.between_mirror (thermo : Thermodynamics ℝ) :
    between thermo (right.mirror axis) (left.mirror axis) =
      (between thermo left right).mirror axis := by
  have velocity := velocity_mirror left right axis thermo
  cases thermo with
  | isothermal speed => exact congrArg (mk · speed false) velocity
  | adiabatic index =>
    rw [between_adiabatic, radicand_mirror, velocity]
    rfl

end Mean

namespace Thermodynamics

variable (thermo : Thermodynamics ℝ) (left right : Primitive ℝ)

/-- The two-wave flux of a Newtonian gas has no preferred side. -/
theorem twoWaveFlux_mirror :
    thermo.twoWaveFlux (right.mirror .i) (left.mirror .i) =
      (thermo.twoWaveFlux left right).mirror .i := by
  have slowest (u a v c : ℝ) : Scalar.min (-u - a) (-v - c) = -Scalar.max (u + a) (v + c) := by
    rw [Exact.min_eq, Exact.max_eq, ← min_neg_neg, neg_add', neg_add']
  have fastest (u a v c : ℝ) : Scalar.max (-u + a) (-v + c) = -Scalar.min (u - a) (v - c) := by
    rw [Exact.min_eq, Exact.max_eq, ← max_neg_neg, neg_sub', neg_sub', sub_neg_eq_add,
      sub_neg_eq_add]
  unfold twoWaveFlux
  dsimp only
  rw [← TwoWaveFlux.ofSides_mirror, ← WaveBounds.clamp_mirror, ← slowest, ← fastest,
    MeanFlow.between_mirror, Primitive.toConserved_mirror, Primitive.toConserved_mirror,
    Primitive.fluxVector_mirror, Primitive.fluxVector_mirror]
  rfl

/-- The one-wave flux of a Newtonian gas has no preferred side. -/
theorem lowOrderFlux_mirror :
    thermo.lowOrderFlux (right.mirror .i) (left.mirror .i) =
      (thermo.lowOrderFlux left right).reverse .i := by
  have speed : Scalar.max
      (Scalar.abs (right.mirror .i).velocity.i + (right.mirror .i).soundSpeed thermo)
      (Scalar.abs (left.mirror .i).velocity.i + (left.mirror .i).soundSpeed thermo) =
        Scalar.max (Scalar.abs left.velocity.i + left.soundSpeed thermo)
          (Scalar.abs right.velocity.i + right.soundSpeed thermo) := by
    change max (|-right.velocity.i| + right.soundSpeed thermo)
      (|-left.velocity.i| + left.soundSpeed thermo) =
        max (|left.velocity.i| + left.soundSpeed thermo)
          (|right.velocity.i| + right.soundSpeed thermo)
    rw [abs_neg, abs_neg, max_comm]
  unfold lowOrderFlux
  dsimp only
  rw [speed, Primitive.toConserved_mirror, Primitive.toConserved_mirror,
    Primitive.fluxVector_mirror, Primitive.fluxVector_mirror, oneWaveFlux_mirror]

end Thermodynamics

namespace RelativisticFlow

variable (metric : Metric ℝ) (left right : RelativisticFlow ℝ)

/-- The two-wave flux of a relativistic gas has no preferred side. -/
theorem twoWaveFlux_mirror :
    twoWaveFlux (metric.mirror .i) (right.mirror .i) (left.mirror .i) =
      (twoWaveFlux metric left right).mirror .i := by
  unfold twoWaveFlux
  dsimp only
  rw [← TwoWaveFlux.ofSides_mirror, ← WaveBounds.clamp_mirror, characteristicSpeeds_mirror,
    characteristicSpeeds_mirror, toConserved_mirror, toConserved_mirror, fluxVector_mirror,
    fluxVector_mirror, Bool.or_comm]
  dsimp only [Exact.min_eq, Exact.max_eq]
  rw [min_neg_neg, max_neg_neg, max_comm, min_comm]

/-- The one-wave flux of a relativistic gas has no preferred side. -/
theorem lowOrderFlux_mirror :
    lowOrderFlux (metric.mirror .i) (right.mirror .i) (left.mirror .i) =
      (lowOrderFlux metric left right).reverse .i := by
  have speed (a b c d : ℝ) : max (max (max |-a| |-b|) |-c|) |-d| = max (max (max |d| |c|) |b|) |a| := by
    simp only [abs_neg, max_comm, max_left_comm]
  unfold lowOrderFlux
  dsimp only
  rw [characteristicSpeeds_mirror, characteristicSpeeds_mirror, toConserved_mirror,
    toConserved_mirror, fluxVector_mirror, fluxVector_mirror]
  dsimp only [Exact.max_eq, Exact.abs_eq]
  rw [speed, oneWaveFlux_mirror]

end RelativisticFlow

/-- Both fluxes through a face follow a mirror that turns its normal around and exchanges its sides,
whatever the gas, the axis and the metric. -/
theorem EquationOfState.fluxes_mirror (eos : EquationOfState ℝ) (axis : Axis) (metric : Metric ℝ)
    (left right : Primitive ℝ) :
    eos.twoWaveFlux axis (metric.mirror axis) (right.mirror axis) (left.mirror axis) =
        (eos.twoWaveFlux axis metric left right).mirror axis ∧
      eos.lowOrderFlux axis (metric.mirror axis) (right.mirror axis) (left.mirror axis) =
        (eos.lowOrderFlux axis metric left right).reverse axis := by
  unfold twoWaveFlux lowOrderFlux
  dsimp only
  rw [Primitive.mirror_rotate, Primitive.mirror_rotate]
  cases eos.fluid with
  | newtonian thermo =>
    dsimp only
    rw [thermo.twoWaveFlux_mirror, thermo.lowOrderFlux_mirror, TwoWaveFlux.unrotate_mirror,
      Conserved.reverse_unrotate]
    exact ⟨rfl, rfl⟩
  | relativistic index mass =>
    dsimp only
    rw [Metric.mirror_rotate, Primitive.flow_mirror, Primitive.flow_mirror,
      RelativisticFlow.twoWaveFlux_mirror, RelativisticFlow.lowOrderFlux_mirror,
      TwoWaveFlux.unrotate_mirror, Conserved.reverse_unrotate]
    exact ⟨rfl, rfl⟩

end BlockHydro
