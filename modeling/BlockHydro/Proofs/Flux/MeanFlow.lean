import Mathlib.Analysis.Real.Sqrt
import Mathlib.Tactic.FieldSimp
import BlockHydro.Proofs.Flux.FaceBudget
import BlockHydro.Proofs.Geometry.Turning

/-!
# The mean of two Newtonian states

The waves of a Newtonian gas at a face are bounded with the help of a mean of the two
states, weighted by the roots of their densities.  In exact arithmetic the velocity of
the mean is the mean of the velocities (`MeanFlow.velocity_eq`), and its enthalpy holds
the energy of the relative motion as heat (`MeanFlow.radicand_eq`).

So the radicand of its sound speed is a mean of squares and never negative: the sound
speed is not clipped (`MeanFlow.clipped_eq_false`), and it is positive as soon as one
of the states has a pressure (`MeanFlow.soundSpeed_pos`).
-/

namespace BlockHydro

/-- The share of the left state in the weighted mean. -/
noncomputable def densityShare (left right : Primitive ℝ) : ℝ :=
  √left.density / (√left.density + √right.density)

/-- The square of the speed at which two states move relative to each other. -/
noncomputable def Primitive.jumpSquared (left right : Primitive ℝ) : ℝ :=
  let jump := left.velocity.zipWith (· - ·) right.velocity
  jump.dot jump

variable {left right : Primitive ℝ} {index : ℝ}

theorem densityShare_mem (left right : Primitive ℝ) :
    0 ≤ densityShare left right ∧ densityShare left right ≤ 1 := by
  unfold densityShare
  exact ⟨by positivity, div_le_one_of_le₀ (le_add_of_nonneg_right (Real.sqrt_nonneg _))
    (by positivity)⟩

theorem densityShare_pos (left_pos : 0 < left.density) (right : Primitive ℝ) :
    0 < densityShare left right := by
  have weight := Real.sqrt_pos.mpr left_pos
  unfold densityShare
  positivity

theorem densityShare_lt (left : Primitive ℝ) (right_pos : 0 < right.density) :
    densityShare left right < 1 := by
  have weight := Real.sqrt_pos.mpr right_pos
  have total : 0 < √left.density + √right.density := by positivity
  exact (div_lt_one total).mpr (lt_add_of_pos_right _ weight)

theorem Primitive.jumpSquared_rotate (left right : Primitive ℝ) (axis : Axis) :
    (left.rotate axis).jumpSquared (right.rotate axis) = left.jumpSquared right := by
  unfold jumpSquared rotate
  dsimp only
  rw [← PerAxis.rotate_zipWith, PerAxis.dot_rotate]

theorem Primitive.sq_sub_le_jumpSquared (left right : Primitive ℝ) :
    (left.velocity.i - right.velocity.i) ^ 2 ≤ left.jumpSquared right := by
  simp only [jumpSquared, PerAxis.dot, PerAxis.zipWith]
  nlinarith [sq_nonneg (left.velocity.j - right.velocity.j),
    sq_nonneg (left.velocity.k - right.velocity.k)]

/-- The mean velocity is the same for every closure. -/
theorem MeanFlow.velocity_between (thermo : Thermodynamics ℝ) (left right : Primitive ℝ) :
    (between thermo left right).velocity =
      left.velocity.zipWith (fun first second => (√left.density * first + √right.density * second) *
        (1 / (√left.density + √right.density))) right.velocity := by
  cases thermo <;> rfl

/-- The velocity of the mean is the mean of the velocities. -/
theorem MeanFlow.velocity_eq (thermo : Thermodynamics ℝ) (left_pos : 0 < left.density) :
    (MeanFlow.between thermo left right).velocity.i =
      densityShare left right * left.velocity.i +
        (1 - densityShare left right) * right.velocity.i := by
  have weight := Real.sqrt_pos.mpr left_pos
  have total : √left.density + √right.density ≠ 0 := by positivity
  rw [velocity_between, densityShare]
  dsimp only [PerAxis.zipWith]
  field_simp
  ring

/-- The square of the sound speed of the mean: the mean of the squares of both sides, and the energy
of their relative motion as heat. -/
noncomputable def MeanFlow.soundSquared (index : ℝ) (left right : Primitive ℝ) : ℝ :=
  densityShare left right * left.soundSpeed (.adiabatic index) ^ 2 +
    (1 - densityShare left right) * right.soundSpeed (.adiabatic index) ^ 2 +
    0.5 * (index - 1) * (densityShare left right * (1 - densityShare left right)) *
      left.jumpSquared right

/-- What the mean enthalpy holds beyond the energy of the mean motion. -/
noncomputable def MeanFlow.radicand (index : ℝ) (left right : Primitive ℝ) : ℝ :=
  let mean := (MeanFlow.between (.adiabatic index) left right).velocity
  (((left.toConserved (.adiabatic index)).energy + left.pressure) / √left.density +
      ((right.toConserved (.adiabatic index)).energy + right.pressure) / √right.density) *
    (1 / (√left.density + √right.density)) - 0.5 * mean.dot mean

theorem MeanFlow.radicand_eq (proper : 1 < index)
    (leftPhysical : left.Physical (.adiabatic index))
    (rightPhysical : right.Physical (.adiabatic index)) :
    radicand index left right = soundSquared index left right / (index - 1) := by
  have excess : 0 < index - 1 := sub_pos.mpr proper
  have index_pos : 0 < index := zero_lt_one.trans proper
  unfold radicand soundSquared
  rw [Primitive.sq_soundSpeed index_pos leftPhysical,
    Primitive.sq_soundSpeed index_pos rightPhysical]
  obtain ⟨leftDensity, leftVelocity, leftPressure⟩ := left
  obtain ⟨rightDensity, rightVelocity, rightPressure⟩ := right
  have leftWeight := Real.sqrt_pos.mpr leftPhysical.density_pos
  have rightWeight := Real.sqrt_pos.mpr rightPhysical.density_pos
  have leftSquare := Real.sq_sqrt leftPhysical.density_pos.le
  have rightSquare := Real.sq_sqrt rightPhysical.density_pos.le
  simp only [MeanFlow.between, Primitive.toConserved, Primitive.energyDensity,
    Primitive.velocitySquared, Primitive.jumpSquared, densityShare, PerAxis.dot, PerAxis.zipWith,
    Exact.sqrt_eq] at leftWeight rightWeight leftSquare rightSquare ⊢
  -- The densities are the squares of their weights, so everything is a fraction of these.
  generalize √leftDensity = a at *
  generalize √rightDensity = b at *
  subst leftSquare rightSquare
  have total : a + b ≠ 0 := by positivity
  field_simp
  ring

theorem MeanFlow.soundSquared_nonneg (proper : 1 < index) (left right : Primitive ℝ) :
    0 ≤ soundSquared index left right := by
  have excess : 0 < index - 1 := sub_pos.mpr proper
  obtain ⟨share_nonneg, share_le⟩ := densityShare_mem left right
  have otherShare_nonneg := sub_nonneg.mpr share_le
  have jump_nonneg := (sq_nonneg _).trans (left.sq_sub_le_jumpSquared right)
  unfold soundSquared
  positivity

/-- A pressure on either side makes sound in the mean. -/
theorem MeanFlow.soundSquared_pos (proper : 1 < index)
    (leftPhysical : left.Physical (.adiabatic index))
    (rightPhysical : right.Physical (.adiabatic index))
    (warm : 0 < left.pressure ∨ 0 < right.pressure) : 0 < soundSquared index left right := by
  have excess : 0 < index - 1 := sub_pos.mpr proper
  have index_pos : 0 < index := zero_lt_one.trans proper
  obtain ⟨left_pos, leftPressure⟩ := leftPhysical
  obtain ⟨right_pos, rightPressure⟩ := rightPhysical
  have share_pos := densityShare_pos left_pos right
  have otherShare_pos : 0 < 1 - densityShare left right :=
    sub_pos.mpr (densityShare_lt left right_pos)
  have jump_nonneg := (sq_nonneg _).trans (left.sq_sub_le_jumpSquared right)
  unfold soundSquared
  rw [Primitive.sq_soundSpeed index_pos ⟨left_pos, leftPressure⟩,
    Primitive.sq_soundSpeed index_pos ⟨right_pos, rightPressure⟩]
  rcases warm with leftWarm | rightWarm <;> positivity

/-- The mean of a gamma-law gas in terms of its radicand. -/
theorem MeanFlow.between_adiabatic (index : ℝ) (left right : Primitive ℝ) :
    between (.adiabatic index) left right =
      { velocity := (between (.adiabatic index) left right).velocity
        soundSpeed :=
          if decide (radicand index left right < 0) then 0
          else √((index - 1) * radicand index left right)
        clipped := decide (radicand index left right < 0) } :=
  rfl

theorem MeanFlow.radicand_nonneg (proper : 1 < index)
    (leftPhysical : left.Physical (.adiabatic index))
    (rightPhysical : right.Physical (.adiabatic index)) : 0 ≤ radicand index left right := by
  rw [radicand_eq proper leftPhysical rightPhysical]
  exact div_nonneg (soundSquared_nonneg proper left right) (sub_pos.mpr proper).le

/-- The radicand of the mean of two physical states is not clipped. -/
theorem MeanFlow.clipped_eq_false (proper : 1 < index)
    (leftPhysical : left.Physical (.adiabatic index))
    (rightPhysical : right.Physical (.adiabatic index)) :
    (between (.adiabatic index) left right).clipped = false :=
  decide_eq_false (radicand_nonneg proper leftPhysical rightPhysical).not_gt

theorem MeanFlow.soundSpeed_eq (proper : 1 < index)
    (leftPhysical : left.Physical (.adiabatic index))
    (rightPhysical : right.Physical (.adiabatic index)) :
    (between (.adiabatic index) left right).soundSpeed = √(soundSquared index left right) := by
  have excess : 0 < index - 1 := sub_pos.mpr proper
  have heat_nonneg := radicand_nonneg proper leftPhysical rightPhysical
  rw [between_adiabatic]
  dsimp only
  rw [if_neg (by simpa using heat_nonneg), radicand_eq proper leftPhysical rightPhysical,
    mul_div_cancel₀ _ excess.ne']

theorem MeanFlow.soundSpeed_pos (proper : 1 < index)
    (leftPhysical : left.Physical (.adiabatic index))
    (rightPhysical : right.Physical (.adiabatic index))
    (warm : 0 < left.pressure ∨ 0 < right.pressure) :
    0 < (between (.adiabatic index) left right).soundSpeed := by
  rw [soundSpeed_eq proper leftPhysical rightPhysical]
  exact Real.sqrt_pos.mpr (soundSquared_pos proper leftPhysical rightPhysical warm)

end BlockHydro
