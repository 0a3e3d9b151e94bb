import Mathlib.Analysis.Real.Sqrt
import Mathlib.Tactic.NormNum
import BlockHydro.Proofs.Flux.MeanFlow
import BlockHydro.Proofs.Gas.NewtonianRecovery

/-!
# Wave speeds and the signal speed

A time step is found from the signal speed of every cell, and the flux through a
face from bounds on the waves between two cells.  In flat space the bounds of an
isothermal or a relativistic gas stay within the signal speeds of the two cells.

The bounds of a Newtonian gamma-law gas need not.  They include the sound speed of
the weighted mean of the two states, whose enthalpy holds the energy of their
relative motion as heat (`MeanFlow.soundSpeed_eq`).  Two cells that slide past each
other exceed their own signal speeds (`fastest_gt_signal_sliding`), but by no more
than a multiple of the jump of the velocity (`EquationOfState.waveBounds_le_signal`).
-/

namespace BlockHydro

section Newtonian

/-- How far the waves between two states may exceed the signal speeds of both: a Newtonian gamma-law
gas turns the energy of their relative motion into sound. -/
noncomputable def Thermodynamics.signalExcess (thermo : Thermodynamics ℝ)
    (left right : Primitive ℝ) : ℝ :=
  match thermo with
  | .adiabatic index => √((index + 1) / 8 * left.jumpSquared right)
  | .isothermal _ => 0

theorem Thermodynamics.signalExcess_nonneg (thermo : Thermodynamics ℝ) (left right : Primitive ℝ) :
    0 ≤ thermo.signalExcess left right := by
  cases thermo with
  | adiabatic index => exact Real.sqrt_nonneg _
  | isothermal _ => exact le_rfl

/-- If two speeds leave room for the sound of either side, their mean leaves room for the sound of
the mean, up to the energy of the relative motion. -/
theorem mean_add_sqrt_le {share u v c d signal jumpSquared index : ℝ} (share_nonneg : 0 ≤ share)
    (share_le : share ≤ 1) (proper : 1 < index) (c_nonneg : 0 ≤ c) (d_nonneg : 0 ≤ d)
    (leftSignal : u + c ≤ signal) (rightSignal : v + d ≤ signal)
    (apart : (u - v) ^ 2 ≤ jumpSquared) :
    share * u + (1 - share) * v +
        √(share * c ^ 2 + (1 - share) * d ^ 2 +
          0.5 * (index - 1) * (share * (1 - share)) * jumpSquared) ≤
      signal + √((index + 1) / 8 * jumpSquared) := by
  have jump_nonneg : 0 ≤ jumpSquared := (sq_nonneg _).trans apart
  have otherShare_nonneg : 0 ≤ 1 - share := sub_nonneg.mpr share_le
  obtain ⟨slack, slack_eq⟩ : ∃ slack, slack = signal - (share * u + (1 - share) * v) := ⟨_, rfl⟩
  have slack_nonneg : 0 ≤ slack := by nlinarith
  have leftRoom : c ^ 2 ≤ (signal - u) ^ 2 := pow_le_pow_left₀ c_nonneg (by linarith) 2
  have rightRoom : d ^ 2 ≤ (signal - v) ^ 2 := pow_le_pow_left₀ d_nonneg (by linarith) 2
  have evenShare : share * (1 - share) ≤ 1 / 4 := by nlinarith [sq_nonneg (share - 1 / 2)]
  have squared : share * c ^ 2 + (1 - share) * d ^ 2 +
      0.5 * (index - 1) * (share * (1 - share)) * jumpSquared ≤
        slack ^ 2 + (index + 1) / 8 * jumpSquared :=
    calc share * c ^ 2 + (1 - share) * d ^ 2 +
          0.5 * (index - 1) * (share * (1 - share)) * jumpSquared
        ≤ share * (signal - u) ^ 2 + (1 - share) * (signal - v) ^ 2 +
          0.5 * (index - 1) * (share * (1 - share)) * jumpSquared := by gcongr
      _ = slack ^ 2 + share * (1 - share) * (u - v) ^ 2 +
          0.5 * (index - 1) * (share * (1 - share)) * jumpSquared := by rw [slack_eq]; ring
      _ ≤ slack ^ 2 + share * (1 - share) * jumpSquared +
          0.5 * (index - 1) * (share * (1 - share)) * jumpSquared := by gcongr
      _ = slack ^ 2 + share * (1 - share) * ((index + 1) / 2 * jumpSquared) := by ring
      _ ≤ slack ^ 2 + 1 / 4 * ((index + 1) / 2 * jumpSquared) := by gcongr
      _ = slack ^ 2 + (index + 1) / 8 * jumpSquared := by ring
  have root_nonneg := Real.sqrt_nonneg ((index + 1) / 8 * jumpSquared)
  have rooted := Real.sq_sqrt (show 0 ≤ (index + 1) / 8 * jumpSquared by positivity)
  have bounded := Real.sqrt_le_iff.mpr ⟨add_nonneg slack_nonneg root_nonneg,
    squared.trans (by nlinarith : _ ≤ (slack + √((index + 1) / 8 * jumpSquared)) ^ 2)⟩
  linarith

variable {thermo : Thermodynamics ℝ} {left right : Primitive ℝ} {signal : ℝ}

/-- The waves of the mean stay within the signal speed of both sides, up to the excess. -/
theorem MeanFlow.speed_le (proper : thermo.Proper) (leftPhysical : left.Physical thermo)
    (rightPhysical : right.Physical thermo)
    (leftSignal : |left.velocity.i| + left.soundSpeed thermo ≤ signal)
    (rightSignal : |right.velocity.i| + right.soundSpeed thermo ≤ signal) :
    |(MeanFlow.between thermo left right).velocity.i| +
        (MeanFlow.between thermo left right).soundSpeed ≤
      signal + thermo.signalExcess left right := by
  obtain ⟨share_nonneg, share_le⟩ := densityShare_mem left right
  rw [velocity_eq thermo leftPhysical.density_pos]
  cases thermo with
  | adiabatic index =>
    have leftSound := left.soundSpeed_nonneg (.adiabatic index)
    have rightSound := right.soundSpeed_nonneg (.adiabatic index)
    have apart := left.sq_sub_le_jumpSquared right
    rw [soundSpeed_eq proper leftPhysical rightPhysical]
    -- Either direction of the mean velocity is a direction of both velocities.
    rcases abs_choice (densityShare left right * left.velocity.i +
      (1 - densityShare left right) * right.velocity.i) with upward | downward
    · rw [upward]
      exact mean_add_sqrt_le share_nonneg share_le proper leftSound rightSound
        (by linarith [le_abs_self left.velocity.i]) (by linarith [le_abs_self right.velocity.i])
        apart
    · rw [downward]
      have leftDown : -left.velocity.i + left.soundSpeed (.adiabatic index) ≤ signal := by
        linarith [neg_le_abs left.velocity.i]
      have rightDown : -right.velocity.i + right.soundSpeed (.adiabatic index) ≤ signal := by
        linarith [neg_le_abs right.velocity.i]
      have mirroredApart : (-left.velocity.i - -right.velocity.i) ^ 2 ≤ left.jumpSquared right := by
        rw [neg_sub_neg, ← neg_sq, neg_sub]
        exact apart
      have mirrored := mean_add_sqrt_le share_nonneg share_le proper leftSound rightSound leftDown
        rightDown mirroredApart
      refine le_trans (le_of_eq ?_) mirrored
      unfold soundSquared
      ring
  | isothermal speed =>
    have sound : ∀ state : Primitive ℝ, state.soundSpeed (.isothermal speed) = |speed| :=
      fun _ => Real.sqrt_mul_self_eq_abs speed
    rw [sound] at leftSignal rightSignal
    have meanVelocity : |densityShare left right * left.velocity.i +
        (1 - densityShare left right) * right.velocity.i| ≤ signal - |speed| :=
      calc _ ≤ densityShare left right * |left.velocity.i| +
            (1 - densityShare left right) * |right.velocity.i| := by
            refine (abs_add_le _ _).trans_eq ?_
            rw [abs_mul, abs_mul, abs_of_nonneg share_nonneg, abs_of_nonneg (sub_nonneg.mpr share_le)]
        _ ≤ densityShare left right * (signal - |speed|) +
            (1 - densityShare left right) * (signal - |speed|) := by
            have otherShare_nonneg := sub_nonneg.mpr share_le
            gcongr <;> linarith
        _ = signal - |speed| := by ring
    have meanSound : (MeanFlow.between (.isothermal speed) left right).soundSpeed = speed := rfl
    rw [meanSound]
    simp only [Thermodynamics.signalExcess, add_zero]
    linarith [le_abs_self speed]

/-- Both bounds on the waves at a face are at most a speed. -/
structure WaveBounds.Within (bounds : WaveBounds ℝ) (speed : ℝ) : Prop where
  slowest : -bounds.slowest ≤ speed
  fastest : bounds.fastest ≤ speed

theorem WaveBounds.clamp_within {slowest fastest speed : ℝ} (speed_nonneg : 0 ≤ speed)
    (slower : -slowest ≤ speed) (faster : fastest ≤ speed) :
    (clamp slowest fastest).Within speed := by
  unfold clamp
  refine ⟨?_, ?_⟩
  · dsimp only
    split
    · exact slower
    · simpa using speed_nonneg
  · dsimp only
    split
    · exact faster
    · exact speed_nonneg

theorem Thermodynamics.twoWaveFlux_within (proper : thermo.Proper)
    (leftPhysical : left.Physical thermo) (rightPhysical : right.Physical thermo)
    (leftSignal : |left.velocity.i| + left.soundSpeed thermo ≤ signal)
    (rightSignal : |right.velocity.i| + right.soundSpeed thermo ≤ signal) :
    (thermo.twoWaveFlux left right).bounds.Within (signal + thermo.signalExcess left right) := by
  have excess_nonneg := thermo.signalExcess_nonneg left right
  have meanSpeed := MeanFlow.speed_le proper leftPhysical rightPhysical leftSignal rightSignal
  have signal_nonneg : 0 ≤ signal :=
    (add_nonneg (abs_nonneg _) (left.soundSpeed_nonneg thermo)).trans leftSignal
  refine WaveBounds.clamp_within (by positivity) ?slower ?faster
  case slower =>
    rw [Exact.min_eq, neg_le, le_min_iff]
    constructor <;> linarith [neg_abs_le (MeanFlow.between thermo left right).velocity.i,
      neg_abs_le left.velocity.i]
  case faster =>
    rw [Exact.max_eq, max_le_iff]
    constructor <;> linarith [le_abs_self (MeanFlow.between thermo left right).velocity.i,
      le_abs_self right.velocity.i]

end Newtonian

section Relativistic

/-- The signal speed of a relativistic gas bounds its waves along every axis. -/
theorem EquationOfState.abs_characteristicSpeeds_le {eos : EquationOfState ℝ} {index mass : ℝ}
    (fluid : eos.fluid = .relativistic index mass) (metric : Metric ℝ) (state : Primitive ℝ)
    (axis : Axis) :
    |((state.flow metric index mass).characteristicSpeeds metric axis).slowest| ≤
        eos.maxSignalSpeed metric state ∧
      |((state.flow metric index mass).characteristicSpeeds metric axis).fastest| ≤
        eos.maxSignalSpeed metric state := by
  unfold maxSignalSpeed
  rw [fluid]
  simp only [Axis.all, List.foldl_cons, List.foldl_nil, Exact.max_eq, Exact.abs_eq]
  cases axis <;> simp

end Relativistic

namespace EquationOfState

variable {eos : EquationOfState ℝ}

/-- How far the waves between two states may exceed the signal speeds of both; a relativistic or
isothermal gas leaves no excess. -/
noncomputable def signalExcess (eos : EquationOfState ℝ) (left right : Primitive ℝ) : ℝ :=
  match eos.fluid with
  | .newtonian thermodynamics => thermodynamics.signalExcess left right
  | .relativistic _ _ => 0

theorem maxSignalSpeed_newtonian {thermo : Thermodynamics ℝ} (fluid : eos.fluid = .newtonian thermo)
    (metric : Metric ℝ) (state : Primitive ℝ) (axis : Axis) :
    |(state.rotate axis).velocity.i| + (state.rotate axis).soundSpeed thermo ≤
      eos.maxSignalSpeed metric state := by
  have component : |(state.rotate axis).velocity.i| ≤ √(state.rotate axis).velocitySquared := by
    refine Real.abs_le_sqrt ?_
    simp only [Primitive.velocitySquared, PerAxis.dot]
    nlinarith [sq_nonneg (state.rotate axis).velocity.j, sq_nonneg (state.rotate axis).velocity.k]
  rw [Primitive.velocitySquared_rotate] at component
  unfold maxSignalSpeed
  rw [fluid]
  exact add_le_add component le_rfl

section Bounds

variable (axis : Axis) (metric : Metric ℝ) (left right : Primitive ℝ)

/-- The bounds of a Newtonian gas are those of the turned states. -/
theorem bounds_newtonian {thermo : Thermodynamics ℝ} (fluid : eos.fluid = .newtonian thermo) :
    (eos.twoWaveFlux axis metric left right).bounds =
      (thermo.twoWaveFlux (left.rotate axis) (right.rotate axis)).bounds := by
  unfold twoWaveFlux
  rw [fluid]
  rfl

/-- The bounds of a relativistic gas are the extreme speeds of both states along the axis. -/
theorem bounds_relativistic {index mass : ℝ} (fluid : eos.fluid = .relativistic index mass) :
    let leftSpeeds := (left.flow metric index mass).characteristicSpeeds metric axis
    let rightSpeeds := (right.flow metric index mass).characteristicSpeeds metric axis
    (eos.twoWaveFlux axis metric left right).bounds =
      .clamp (min leftSpeeds.slowest rightSpeeds.slowest)
        (max leftSpeeds.fastest rightSpeeds.fastest) := by
  have turned : (eos.twoWaveFlux axis metric left right).bounds =
      (RelativisticFlow.twoWaveFlux (metric.rotate axis)
        ((left.rotate axis).flow (metric.rotate axis) index mass)
        ((right.rotate axis).flow (metric.rotate axis) index mass)).bounds := by
    unfold twoWaveFlux
    rw [fluid]
    rfl
  rw [turned, Primitive.flow_rotate, Primitive.flow_rotate]
  unfold RelativisticFlow.twoWaveFlux
  rw [RelativisticFlow.characteristicSpeeds_rotate, RelativisticFlow.characteristicSpeeds_rotate]
  rfl

variable {left right}

theorem newtonian_within {thermo : Thermodynamics ℝ} (fluid : eos.fluid = .newtonian thermo)
    (proper : thermo.Proper) (leftPhysical : left.Physical thermo)
    (rightPhysical : right.Physical thermo) :
    (eos.twoWaveFlux axis metric left right).bounds.Within
      (max (eos.maxSignalSpeed metric left) (eos.maxSignalSpeed metric right) +
        eos.signalExcess left right) := by
  have excess : eos.signalExcess left right =
      thermo.signalExcess (left.rotate axis) (right.rotate axis) := by
    unfold signalExcess Thermodynamics.signalExcess
    rw [fluid]
    cases thermo <;> simp only [Primitive.jumpSquared_rotate]
  rw [bounds_newtonian axis metric left right fluid, excess]
  exact Thermodynamics.twoWaveFlux_within proper (leftPhysical.rotate axis)
    (rightPhysical.rotate axis)
    ((maxSignalSpeed_newtonian fluid metric left axis).trans (le_max_left _ _))
    ((maxSignalSpeed_newtonian fluid metric right axis).trans (le_max_right _ _))

theorem relativistic_within {index mass : ℝ} (fluid : eos.fluid = .relativistic index mass) :
    (eos.twoWaveFlux axis metric left right).bounds.Within
      (max (eos.maxSignalSpeed metric left) (eos.maxSignalSpeed metric right)) := by
  obtain ⟨leftSlowest, leftFastest⟩ := abs_characteristicSpeeds_le fluid metric left axis
  obtain ⟨rightSlowest, rightFastest⟩ := abs_characteristicSpeeds_le fluid metric right axis
  rw [bounds_relativistic axis metric left right fluid]
  refine WaveBounds.clamp_within ?signal_nonneg ?slower ?faster
  case signal_nonneg => exact le_max_of_le_left ((abs_nonneg _).trans leftSlowest)
  case slower =>
    rw [neg_le, le_min_iff]
    exact ⟨neg_le.mp (le_max_of_le_left ((neg_le_abs _).trans leftSlowest)),
      neg_le.mp (le_max_of_le_right ((neg_le_abs _).trans rightSlowest))⟩
  case faster =>
    exact max_le_max ((le_abs_self _).trans leftFastest) ((le_abs_self _).trans rightFastest)

end Bounds

/-- The bounds on the waves between two cells in flat space are at most the larger signal speed of
the two, up to the excess. -/
theorem waveBounds_le_signal (accepted : eos.validate = .ok ()) (axis : Axis)
    {left right : Primitive ℝ} (left_pos : 0 < left.density) (right_pos : 0 < right.density)
    (leftPressure : 0 ≤ left.pressure) (rightPressure : 0 ≤ right.pressure) :
    (eos.twoWaveFlux axis .minkowski left right).bounds.Within
      (max (eos.maxSignalSpeed .minkowski left) (eos.maxSignalSpeed .minkowski right) +
        eos.signalExcess left right) := by
  cases fluid : eos.fluid with
  | newtonian thermo =>
    have physical : ∀ state : Primitive ℝ, 0 < state.density → 0 ≤ state.pressure →
        state.Physical thermo := by
      intro state density_pos pressure_nonneg
      cases thermo with
      | adiabatic _ => exact ⟨density_pos, pressure_nonneg⟩
      | isothermal _ => exact density_pos
    exact newtonian_within axis .minkowski fluid (proper_of_validate accepted fluid)
      (physical left left_pos leftPressure) (physical right right_pos rightPressure)
  | relativistic index mass =>
    have excess : eos.signalExcess left right = 0 := by
      unfold signalExcess
      rw [fluid]
    rw [excess, add_zero]
    exact relativistic_within axis .minkowski fluid

/-- A gas with a gamma law of five thirds. -/
noncomputable def monatomic : EquationOfState ℝ :=
  ⟨.newtonian (.adiabatic (5 / 3)), .standard, .standard⟩

theorem validate_monatomic : monatomic.validate = .ok () :=
  validate_standard (if_pos (by norm_num : (1 : ℝ) < 5 / 3))

/-- Cold gas that moves along the first axis and slides along the second. -/
noncomputable def sliding (speed : ℝ) : Primitive ℝ := ⟨1, ⟨3, speed, 0⟩, 0⟩

theorem soundSpeed_sliding (speed index : ℝ) : (sliding speed).soundSpeed (.adiabatic index) = 0 := by
  simp [Primitive.soundSpeed, Primitive.soundSpeedSquared, sliding]

theorem maxSignalSpeed_sliding {speed : ℝ} (square : speed * speed = 16) :
    monatomic.maxSignalSpeed .minkowski (sliding speed) = 5 := by
  have signal : monatomic.maxSignalSpeed .minkowski (sliding speed) =
      √(3 * 3 + speed * speed + 0 * 0) + (sliding speed).soundSpeed (.adiabatic (5 / 3)) := rfl
  rw [signal, soundSpeed_sliding, square, add_zero, Real.sqrt_eq_iff_mul_self_eq] <;> norm_num

/-- Gas that slides past itself exceeds its signal speed: the waves of a gamma-law gas are not
bounded by the larger signal speed of the two cells. -/
theorem fastest_gt_signal_sliding :
    monatomic.validate = .ok () ∧ 0 < (sliding 4).density ∧ 0 < (sliding (-4)).density ∧
      0 ≤ (sliding 4).pressure ∧ 0 ≤ (sliding (-4)).pressure ∧
      ¬ (monatomic.twoWaveFlux .i .minkowski (sliding 4) (sliding (-4))).bounds.fastest ≤
        max (monatomic.maxSignalSpeed .minkowski (sliding 4))
          (monatomic.maxSignalSpeed .minkowski (sliding (-4))) := by
  refine ⟨validate_monatomic, zero_lt_one, zero_lt_one, le_rfl, le_rfl, ?_⟩
  rw [maxSignalSpeed_sliding (by norm_num), maxSignalSpeed_sliding (by norm_num), max_self, not_le]
  have share : densityShare (sliding 4) (sliding (-4)) = 1 / 2 := by
    simp only [densityShare, sliding, Real.sqrt_one]
    norm_num
  have jump : (sliding 4).jumpSquared (sliding (-4)) = 64 := by
    simp only [Primitive.jumpSquared, sliding, PerAxis.dot, PerAxis.zipWith]
    norm_num
  have velocity : (MeanFlow.between (.adiabatic (5 / 3)) (sliding 4) (sliding (-4))).velocity.i = 3 := by
    rw [MeanFlow.velocity_eq _ zero_lt_one, share]
    simp only [sliding]
    norm_num
  have sound : 2 < (MeanFlow.between (.adiabatic (5 / 3)) (sliding 4) (sliding (-4))).soundSpeed := by
    rw [MeanFlow.soundSpeed_eq (by norm_num) ⟨zero_lt_one, le_rfl⟩ ⟨zero_lt_one, le_rfl⟩,
      Real.lt_sqrt (by norm_num)]
    simp only [MeanFlow.soundSquared, share, jump, soundSpeed_sliding]
    norm_num
  have bounded : max (max ((MeanFlow.between (.adiabatic (5 / 3)) (sliding 4)
        (sliding (-4))).velocity.i +
      (MeanFlow.between (.adiabatic (5 / 3)) (sliding 4) (sliding (-4))).soundSpeed) _) 0 ≤
      (monatomic.twoWaveFlux .i .minkowski (sliding 4) (sliding (-4))).bounds.fastest :=
    WaveBounds.le_clamp_fastest
  have meanWave := ((le_max_left _ _).trans (le_max_left _ _)).trans bounded
  rw [velocity] at meanWave
  linarith

theorem waveBounds_le_signal_sliding :
    (monatomic.twoWaveFlux .i .minkowski (sliding 4) (sliding (-4))).bounds.Within
      (max (monatomic.maxSignalSpeed .minkowski (sliding 4))
          (monatomic.maxSignalSpeed .minkowski (sliding (-4))) +
        monatomic.signalExcess (sliding 4) (sliding (-4))) :=
  waveBounds_le_signal validate_monatomic .i zero_lt_one zero_lt_one le_rfl le_rfl

end EquationOfState

end BlockHydro
