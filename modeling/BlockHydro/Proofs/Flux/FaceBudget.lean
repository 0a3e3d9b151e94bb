import Mathlib.Analysis.Real.Sqrt
import Mathlib.Tactic.Linarith
import BlockHydro.Proofs.Gas.Observables

/-!
# What a face flux takes from the cells beside it

A cell can lose through a face at most a rate times what it holds, apart from a
share of the flux inside the cell itself; the same share is counted at the
opposite face with the other sign and drops out.  `FaceBudget` names the rates of
the two cells of a face.

The one-wave flux takes half its speed from either cell (`lowOrderFlux_budget`),
and the two-wave flux takes the speed of the wave that enters the cell
(`twoWaveFlux_budget`).
-/

namespace BlockHydro

variable {thermo : Thermodynamics ℝ} {left right : Primitive ℝ} {observable : Observable}

/-- The flux of an observable inside a cell, through a face normal to `axis`. -/
noncomputable def Observable.ownFlux (observable : Observable) (thermo : Thermodynamics ℝ)
    (axis : Axis) (state : Primitive ℝ) : ℝ :=
  (observable.rotate axis).value ((state.rotate axis).fluxVector .i thermo)

/-- The rates at which the cells on the left and on the right of a face pay for its flux. -/
structure FaceBudget (thermo : Thermodynamics ℝ) (share : ℝ) (axis : Axis)
    (left right : Primitive ℝ) (flux : Conserved ℝ) (leftRate rightRate : ℝ) : Prop where
  left_pays : ∀ observable, thermo.Observes observable →
    observable.value flux ≤
      leftRate * observable.value (left.toConserved thermo) +
        share * observable.ownFlux thermo axis left
  right_pays : ∀ observable, thermo.Observes observable →
    share * observable.ownFlux thermo axis right ≤
      rightRate * observable.value (right.toConserved thermo) + observable.value flux

/-- A cell pays at its two faces along an axis; the flux inside it drops out. -/
theorem FaceBudget.cell_pays {share : ℝ} {axis : Axis} {below here above : Primitive ℝ}
    {lower upper : Conserved ℝ} {lowerLeft lowerRight upperLeft upperRight : ℝ}
    (lowerFace : FaceBudget thermo share axis below here lower lowerLeft lowerRight)
    (upperFace : FaceBudget thermo share axis here above upper upperLeft upperRight)
    (observed : thermo.Observes observable) :
    observable.value upper - observable.value lower ≤
      (lowerRight + upperLeft) * observable.value (here.toConserved thermo) := by
  have enters := lowerFace.right_pays observable observed
  have leaves := upperFace.left_pays observable observed
  linarith

namespace Primitive

variable {state : Primitive ℝ}

/-- Nothing moves up faster than the fastest wave. -/
theorem flux_le (proper : thermo.Proper) (physical : state.Physical thermo)
    (observed : thermo.Observes observable) {speed : ℝ}
    (faster : state.velocity.i + state.soundSpeed thermo ≤ speed) :
    observable.value (state.fluxVector .i thermo) ≤
      speed * observable.value (state.toConserved thermo) := by
  have carried := (abs_le.mp (abs_flux_sub_carried_le proper physical observed)).2
  have content := physical.value_nonneg proper observed
  nlinarith

/-- Nothing moves down faster than the slowest wave. -/
theorem le_flux (proper : thermo.Proper) (physical : state.Physical thermo)
    (observed : thermo.Observes observable) {speed : ℝ}
    (slower : speed ≤ state.velocity.i - state.soundSpeed thermo) :
    speed * observable.value (state.toConserved thermo) ≤
      observable.value (state.fluxVector .i thermo) := by
  have carried := (abs_le.mp (abs_flux_sub_carried_le proper physical observed)).1
  have content := physical.value_nonneg proper observed
  nlinarith

/-- A turned observer sees the same in the turned state. -/
theorem value_rotate (observable : Observable) (state : Primitive ℝ) (axis : Axis)
    (thermo : Thermodynamics ℝ) :
    (observable.rotate axis).value ((state.rotate axis).toConserved thermo) =
      observable.value (state.toConserved thermo) := by
  cases observable with
  | mass => rfl
  | energyFrom velocity =>
    cases thermo <;> cases axis <;>
      simp only [Observable.value, Observable.rotate, rotate, toConserved, energyDensity,
        velocitySquared, PerAxis.rotate, PerAxis.map, PerAxis.dot, PerAxis.get, Axis.next] <;>
      ring

end Primitive

namespace Thermodynamics

/-- The largest speed of a wave from either side of a face. -/
noncomputable def faceSpeed (thermo : Thermodynamics ℝ) (axis : Axis)
    (left right : Primitive ℝ) : ℝ :=
  max (|left.velocity.get axis| + left.soundSpeed thermo)
    (|right.velocity.get axis| + right.soundSpeed thermo)

/-- The bounds on the wave speeds at a face. -/
noncomputable def faceBounds (thermo : Thermodynamics ℝ) (axis : Axis) (left right : Primitive ℝ) :
    WaveBounds ℝ :=
  (thermo.twoWaveFlux (left.rotate axis) (right.rotate axis)).bounds

end Thermodynamics

/-- The one-wave flux takes half its speed from either cell. -/
theorem Thermodynamics.lowOrderFlux_pays (proper : thermo.Proper)
    (leftPhysical : left.Physical thermo) (rightPhysical : right.Physical thermo)
    (observed : thermo.Observes observable) :
    observable.value (thermo.lowOrderFlux left right) ≤
        thermo.faceSpeed .i left right / 2 * observable.value (left.toConserved thermo) +
          1 / 2 * observable.value (left.fluxVector .i thermo) ∧
      1 / 2 * observable.value (right.fluxVector .i thermo) ≤
        thermo.faceSpeed .i left right / 2 * observable.value (right.toConserved thermo) +
          observable.value (thermo.lowOrderFlux left right) := by
  have mean : observable.value (thermo.lowOrderFlux left right) =
      (observable.value (left.fluxVector .i thermo) +
          observable.value (right.fluxVector .i thermo)) * 0.5 -
        (observable.value (right.toConserved thermo) - observable.value (left.toConserved thermo)) *
          (0.5 * thermo.faceSpeed .i left right) := by
    unfold lowOrderFlux oneWaveFlux
    simp only [Observable.value_sub, Observable.value_mul, Observable.value_add]
    rfl
  have leftSlower : -thermo.faceSpeed .i left right ≤ left.velocity.i - left.soundSpeed thermo := by
    have bounded : |left.velocity.i| + left.soundSpeed thermo ≤ thermo.faceSpeed .i left right :=
      le_max_left _ _
    linarith [neg_abs_le left.velocity.i]
  have rightFaster :
      right.velocity.i + right.soundSpeed thermo ≤ thermo.faceSpeed .i left right := by
    have bounded : |right.velocity.i| + right.soundSpeed thermo ≤ thermo.faceSpeed .i left right :=
      le_max_right _ _
    linarith [le_abs_self right.velocity.i]
  have up := Primitive.flux_le proper rightPhysical observed rightFaster
  have down := Primitive.le_flux proper leftPhysical observed leftSlower
  rw [mean]
  constructor <;> linarith

section TwoWave

variable {slowest fastest : ℝ}

theorem WaveBounds.clamp_slowest_le : (clamp slowest fastest).slowest ≤ min slowest 0 := by
  unfold clamp
  dsimp only
  split <;> simp <;> linarith

theorem WaveBounds.le_clamp_fastest : max fastest 0 ≤ (clamp slowest fastest).fastest := by
  unfold clamp
  dsimp only
  split <;> simp <;> linarith

/-- The slowest bound takes in the waves of the mean and of the left state. -/
theorem Thermodynamics.twoWaveFlux_slowest_le (thermo : Thermodynamics ℝ) (left right : Primitive ℝ) :
    let mean := MeanFlow.between thermo left right
    (thermo.twoWaveFlux left right).bounds.slowest ≤
      min (min (mean.velocity.i - mean.soundSpeed) (left.velocity.i - left.soundSpeed thermo)) 0 :=
  WaveBounds.clamp_slowest_le

/-- The fastest bound takes in the waves of the mean and of the right state. -/
theorem Thermodynamics.le_twoWaveFlux_fastest (thermo : Thermodynamics ℝ) (left right : Primitive ℝ) :
    let mean := MeanFlow.between thermo left right
    max (max (mean.velocity.i + mean.soundSpeed) (right.velocity.i + right.soundSpeed thermo)) 0 ≤
      (thermo.twoWaveFlux left right).bounds.fastest :=
  WaveBounds.le_clamp_fastest

/-- The blend lies between the two one-sided fluxes. -/
theorem WaveBounds.blend_between {bounds : WaveBounds ℝ} (slowest_le : bounds.slowest ≤ 0)
    (fastest_ge : 0 ≤ bounds.fastest) (first second : Conserved ℝ) :
    ∃ part : ℝ, 0 ≤ part ∧ part ≤ 1 ∧ ∀ observable : Observable,
      observable.value (bounds.blend first second) =
        observable.value second + part * (observable.value first - observable.value second) := by
  unfold blend
  split
  next =>
    refine ⟨1 / 2, by norm_num, by norm_num, fun observable => ?_⟩
    rw [Observable.value_mul, Observable.value_add]
    ring
  next apart =>
    split
    next => exact ⟨1, zero_le_one, le_rfl, fun observable => by ring⟩
    next =>
      split
      next => exact ⟨0, le_rfl, zero_le_one, fun observable => by ring⟩
      next =>
        have different : bounds.fastest ≠ bounds.slowest := by simpa using apart
        have width : 0 < bounds.fastest - bounds.slowest :=
          sub_pos.mpr (lt_of_le_of_ne (slowest_le.trans fastest_ge) different.symm)
        refine ⟨bounds.fastest / (bounds.fastest - bounds.slowest), by positivity,
          (div_le_one width).mpr (by linarith), fun observable => ?_⟩
        simp only [Observable.value_mul, Observable.value_add, Observable.value_sub]
        have nonzero := width.ne'
        field_simp
        ring

/-- Whatever is measured not to fall from the second to the first flux, the blend is in between. -/
theorem WaveBounds.blend_mem {bounds : WaveBounds ℝ} (slowest_le : bounds.slowest ≤ 0)
    (fastest_ge : 0 ≤ bounds.fastest) {first second : Conserved ℝ}
    (ordered : observable.value second ≤ observable.value first) :
    observable.value second ≤ observable.value (bounds.blend first second) ∧
      observable.value (bounds.blend first second) ≤ observable.value first := by
  obtain ⟨part, part_nonneg, part_le, blended⟩ := blend_between slowest_le fastest_ge first second
  rw [blended]
  constructor <;> nlinarith

/-- The two-wave flux takes the speed of the slowest wave from the left cell, and of the fastest
from the right one. -/
theorem Thermodynamics.twoWaveFlux_pays (proper : thermo.Proper)
    (leftPhysical : left.Physical thermo) (rightPhysical : right.Physical thermo)
    (observed : thermo.Observes observable) :
    observable.value (thermo.twoWaveFlux left right).flux ≤
        -(thermo.twoWaveFlux left right).bounds.slowest * observable.value (left.toConserved thermo) +
          observable.value (left.fluxVector .i thermo) ∧
      observable.value (right.fluxVector .i thermo) ≤
        (thermo.twoWaveFlux left right).bounds.fastest * observable.value (right.toConserved thermo) +
          observable.value (thermo.twoWaveFlux left right).flux := by
  have slowest_le := thermo.twoWaveFlux_slowest_le left right
  have fastest_ge := thermo.le_twoWaveFlux_fastest left right
  obtain ⟨bounds, bounds_eq⟩ : ∃ bounds, bounds = (thermo.twoWaveFlux left right).bounds := ⟨_, rfl⟩
  rw [← bounds_eq] at slowest_le fastest_ge
  simp only [le_min_iff, max_le_iff] at slowest_le fastest_ge
  obtain ⟨⟨_, leftSlower⟩, slowest_nonpos⟩ := slowest_le
  obtain ⟨⟨_, rightFaster⟩, fastest_nonneg⟩ := fastest_ge
  have up := Primitive.flux_le proper rightPhysical observed rightFaster
  have down := Primitive.le_flux proper leftPhysical observed leftSlower
  -- Seen from the waves, the flux on the left is not negative and that on the right not positive.
  have ordered : observable.value
        (right.fluxVector .i thermo - right.toConserved thermo * bounds.fastest) ≤
      observable.value (left.fluxVector .i thermo - left.toConserved thermo * bounds.slowest) := by
    simp only [Observable.value_sub, Observable.value_mul]
    linarith
  obtain ⟨above, below⟩ := WaveBounds.blend_mem slowest_nonpos fastest_nonneg ordered
  have blended : (thermo.twoWaveFlux left right).flux =
      bounds.blend (left.fluxVector .i thermo - left.toConserved thermo * bounds.slowest)
        (right.fluxVector .i thermo - right.toConserved thermo * bounds.fastest) := by
    rw [bounds_eq]
    rfl
  rw [blended, ← bounds_eq]
  simp only [Observable.value_sub, Observable.value_mul] at above below
  constructor <;> linarith

end TwoWave

section Faces

variable {eos : EquationOfState ℝ} {axis : Axis} {metric : Metric ℝ}

theorem lowOrderFlux_budget (fluid : eos.fluid = .newtonian thermo) (proper : thermo.Proper)
    (leftPhysical : left.Physical thermo) (rightPhysical : right.Physical thermo) :
    FaceBudget thermo (1 / 2) axis left right (eos.lowOrderFlux axis metric left right)
      (thermo.faceSpeed axis left right / 2) (thermo.faceSpeed axis left right / 2) := by
  have turned : eos.lowOrderFlux axis metric left right =
      (thermo.lowOrderFlux (left.rotate axis) (right.rotate axis)).unrotate axis := by
    unfold EquationOfState.lowOrderFlux
    rw [fluid]
  have pays := fun observable (observed : thermo.Observes observable) =>
    Thermodynamics.lowOrderFlux_pays proper (leftPhysical.rotate axis) (rightPhysical.rotate axis)
      (observed.rotate axis)
  constructor
  · intro observable observed
    rw [turned, Observable.value_unrotate, ← Primitive.value_rotate observable left axis]
    exact (pays observable observed).1
  · intro observable observed
    rw [turned, Observable.value_unrotate, ← Primitive.value_rotate observable right axis]
    exact (pays observable observed).2

theorem twoWaveFlux_budget (fluid : eos.fluid = .newtonian thermo) (proper : thermo.Proper)
    (leftPhysical : left.Physical thermo) (rightPhysical : right.Physical thermo) :
    FaceBudget thermo 1 axis left right (eos.twoWaveFlux axis metric left right).flux
      (-(thermo.faceBounds axis left right).slowest) (thermo.faceBounds axis left right).fastest := by
  have turned : (eos.twoWaveFlux axis metric left right).flux =
      (thermo.twoWaveFlux (left.rotate axis) (right.rotate axis)).flux.unrotate axis := by
    unfold EquationOfState.twoWaveFlux
    rw [fluid]
    rfl
  have pays := fun observable (observed : thermo.Observes observable) =>
    Thermodynamics.twoWaveFlux_pays proper (leftPhysical.rotate axis) (rightPhysical.rotate axis)
      (observed.rotate axis)
  constructor
  · intro observable observed
    rw [one_mul, turned, Observable.value_unrotate, ← Primitive.value_rotate observable left axis]
    exact (pays observable observed).1
  · intro observable observed
    rw [one_mul, turned, Observable.value_unrotate, ← Primitive.value_rotate observable right axis]
    exact (pays observable observed).2

end Faces

end BlockHydro
