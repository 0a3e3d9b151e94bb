import BlockHydro.Proofs.Exact.Unrounded
import BlockHydro.Proofs.ShockTube.Start
import BlockHydro.ShockTube.Options

/-!
# The clock of a run

A step ends at the final time or before it, because the time that remains bounds it.
Whether it moves the clock on depends on the other bound, the time in which the
fastest signal crosses a fraction of a cell: it does if the fraction is positive and
the signal is not infinitely fast.  Nothing checks either, so a fraction of zero is
accepted, and a speed that overflows (`first_step_zero`).

The time is followed without rounding.  `ClockShows` lists what the clock can show;
an iteration keeps it (`ClockShows.ticks`), hence so does every run that the time loop
comes to (`Timed.holds_of_reaches`).
-/

namespace BlockHydro

section Loop

variable {R : Type} [Scalar R] {tube : ShockTube R}

/-- The runs in progress that the time loop comes to. -/
inductive ShockTube.Reaches (tube : ShockTube R) : Simulation R → Prop where
  | start {first : Simulation R} (started : Simulation.start tube = .ok first) : tube.Reaches first
  | iterate {before after : Simulation R} (reached : tube.Reaches before)
      (unfinished : before.isUnfinished = true) (stepped : before.step = .ok after) :
      tube.Reaches after

omit [Scalar R] in
/-- Filling the guard zones once more does not move the clock. -/
theorem Simulation.time_of_finish {simulation last : Simulation R}
    (finished : simulation.finish = .ok last) : last.time = simulation.time := by
  obtain ⟨primitive, _, same⟩ := exists_of_bind_eq_ok finished
  cases same
  rfl

/-- A loop that ends has come to a run that is finished, and shows its time. -/
theorem ShockTube.Reaches.of_runWithin {limit : Nat} {simulation last : Simulation R}
    (reached : tube.Reaches simulation) (ran : Simulation.runWithin limit simulation = .ok last) :
    ∃ final, tube.Reaches final ∧ final.isUnfinished = false ∧ last.time = final.time := by
  induction limit generalizing simulation with
  | zero =>
    unfold Simulation.runWithin at ran
    split at ran
    next => cases ran
    next finished =>
      exact ⟨simulation, reached, Bool.eq_false_iff.mpr finished, Simulation.time_of_finish ran⟩
  | succ limit ih =>
    unfold Simulation.runWithin at ran
    split at ran
    next unfinished =>
      obtain ⟨next, stepped, ran⟩ := exists_of_bind_eq_ok ran
      exact ih (reached.iterate unfinished stepped) ran
    next finished =>
      exact ⟨simulation, reached, Bool.eq_false_iff.mpr finished, Simulation.time_of_finish ran⟩

end Loop

open Unrounded

namespace EquationOfState

variable {numFields : Nat} {eos : EquationOfState Unrounded}
  {states : List (Vector Unrounded numFields)}

/-- The largest signal speed is from zero up, and not undefined. -/
theorem zero_le_fastest : 0 ≤ eos.fastest states :=
  List.foldlRecOn states _ (le_refl (0 : ℝ)) fun _ nonneg _ _ => zero_le_max nonneg

/-- Among finite signal speeds the largest is finite. -/
theorem fastest_ne_infinity
    (finite : ∀ state ∈ states, eos.maxSignalSpeed .minkowski (.read state) ≠ infinity false) :
    eos.fastest states ≠ infinity false := by
  refine List.foldlRecOn (motive := (· ≠ infinity false)) states _ nofun
    fun fastest slow state member => ?_
  obtain kept | replaced := max_cases fastest (eos.maxSignalSpeed .minkowski (.read state))
  · exact fun infinite => slow (kept.symm.trans infinite)
  · exact fun infinite => finite state member (replaced.symm.trans infinite)

end EquationOfState

/-- The times that a run towards a final time can show, with a fraction of a cell per step. -/
inductive ClockShows (cfl finalTime : ℝ) : Unrounded → Prop where
  | start : ClockShows cfl finalTime 0
  | running {time : ℝ} (ahead : 0 < finalTime) (within : time ≤ finalTime)
      (backwards : cfl < 0 → time ≤ 0) : ClockShows cfl finalTime (.number time)
  /-- Gas in which no signal moves allows a step of any length, backwards too. -/
  | lost (ahead : 0 < finalTime) (backwards : cfl < 0) : ClockShows cfl finalTime (.infinity true)

/-- What a step does to the clock, found from the largest signal speed. -/
structure Ticks (cfl finalTime : ℝ) (fastest time dt : Unrounded) : Prop where
  shows : ClockShows cfl finalTime (time + dt)
  dt_le : dt ≤ number finalTime - time
  after_le : time + dt ≤ number finalTime
  moves : 0 < cfl → fastest ≠ infinity false → 0 < dt ∧ time < time + dt
  stays : 0 < cfl → fastest = infinity false → dt = 0 ∧ time + dt = time

section Step

variable {cfl finalTime size : ℝ} {fastest time dt : Unrounded}

section Bounds

variable {crossing speed rest : ℝ}

/-- An infinitely fast signal allows no step. -/
theorem min_infinite (remains : 0 < rest) :
    Scalar.min (number crossing / infinity false) (number rest) = number 0 := by
  rw [number_div_infinity]
  exact min_of_lt (number_lt_number.mpr remains)

theorem min_moving (moving : 0 < speed) :
    Scalar.min (number crossing / number speed) (number rest) =
      number (min (crossing / speed) rest) := by
  rw [number_div_number moving.ne', min_number_number]

/-- Where no signal moves, the time that remains is the only bound: the other one is infinite or,
without anything to cross, not a number. -/
theorem min_still (nonneg : 0 ≤ crossing) :
    Scalar.min (number crossing / number 0) (number rest) = number rest := by
  refine min_of_not_lt nofun ?_
  rw [number_div_zero]
  obtain rfl | positive := nonneg.eq_or_lt
  · rw [infinityTimes_zero]
    exact not_notANumber_lt
  · rw [infinityTimes_of_pos positive]
    exact Bool.false_ne_true

/-- Where no signal moves, a step backwards is infinitely long. -/
theorem min_still_of_neg (below : crossing < 0) :
    Scalar.min (number crossing / number 0) (number rest) = infinity true := by
  rw [number_div_zero, infinityTimes_of_neg below]
  exact min_of_lt (infinity_lt_number.mpr rfl)

end Bounds

/-- A step between numbers has moved the clock as it should. -/
theorem Ticks.of_number {time value : ℝ} (ahead : 0 < finalTime) (early : cfl < 0 → time ≤ 0)
    (within : value ≤ finalTime - time) (backwards : cfl < 0 → value ≤ 0)
    (forwards : 0 < cfl → fastest ≠ infinity false → 0 < value)
    (stopped : fastest = infinity false → value = 0) :
    Ticks cfl finalTime fastest (number time) (number value) := by
  have after : time + value ≤ finalTime := by linarith
  constructor
  case shows =>
    exact .running ahead after fun negative => add_nonpos (early negative) (backwards negative)
  case dt_le => exact within
  case after_le => exact after
  case moves =>
    intro positive finite
    have moved := forwards positive finite
    exact ⟨moved, lt_add_of_pos_right time moved⟩
  case stays =>
    intro _ infinite
    rw [stopped infinite, number_add_number, add_zero]
    exact ⟨rfl, rfl⟩

/-- A clock that is set infinitely far back has ticked. -/
theorem Ticks.of_lost (ahead : 0 < finalTime) (backwards : cfl < 0)
    (lost : time + dt = infinity true) (within : dt ≤ number finalTime - time) :
    Ticks cfl finalTime fastest time dt where
  shows := by
    rw [lost]
    exact .lost ahead backwards
  dt_le := within
  after_le := by
    rw [lost]
    exact infinity_le_number.mpr rfl
  moves positive := absurd positive backwards.not_gt
  stays positive := absurd positive backwards.not_gt

/-- The clock ticks from a time that is a number. -/
theorem ticks_of_number {time : ℝ} (someSize : 0 < size) (nonneg : 0 ≤ fastest)
    (ahead : 0 < finalTime) (unfinished : time < finalTime) (early : cfl < 0 → time ≤ 0) :
    Ticks cfl finalTime fastest (number time)
      (Scalar.min (number (cfl * size) / fastest) (number finalTime - number time)) := by
  have remains : 0 < finalTime - time := sub_pos.mpr unfinished
  rw [number_sub_number]
  -- The largest signal speed is infinite, positive or zero, and each gives the bound another kind.
  obtain ⟨speed, fromZero, rfl⟩ | rfl := zero_le_iff.mp nonneg
  case inr =>
    rw [min_infinite remains]
    exact .of_number ahead early remains.le (fun _ => le_rfl) (fun _ finite => absurd rfl finite)
      fun _ => rfl
  case inl =>
    obtain rfl | moving := fromZero.eq_or_lt
    case inr =>
      rw [min_moving moving]
      refine .of_number ahead early (min_le_right _ _) (fun backwards => ?_) (fun forwards _ => ?_)
        nofun
      · have crossing := mul_nonpos_of_nonpos_of_nonneg backwards.le someSize.le
        exact (min_le_left _ _).trans (div_nonpos_of_nonpos_of_nonneg crossing fromZero)
      · exact lt_min (div_pos (mul_pos forwards someSize) moving) remains
    case inl =>
      obtain backwards | forwards := lt_or_ge cfl 0
      · rw [min_still_of_neg (mul_neg_of_neg_of_pos backwards someSize)]
        exact .of_lost ahead backwards number_add_infinity (infinity_le_number.mpr rfl)
      · rw [min_still (mul_nonneg forwards someSize.le)]
        exact .of_number ahead early le_rfl (fun backwards => absurd backwards forwards.not_gt)
          (fun _ _ => remains) nofun

/-- A negative fraction of a cell is crossed backwards, or never. -/
theorem backwards_cases (someSize : 0 < size) (nonneg : 0 ≤ fastest) (backwards : cfl < 0) :
    (∃ value, number (cfl * size) / fastest = number value) ∨
      number (cfl * size) / fastest = infinity true := by
  obtain ⟨speed, _, rfl⟩ | rfl := zero_le_iff.mp nonneg
  · obtain rfl | moving := eq_or_ne speed 0
    · rw [number_div_zero, infinityTimes_of_neg (mul_neg_of_neg_of_pos backwards someSize)]
      exact .inr rfl
    · exact .inl ⟨_, number_div_number moving⟩
  · exact .inl ⟨0, number_div_infinity⟩

/-- The clock ticks after it has been set infinitely far back. -/
theorem ticks_of_lost (someSize : 0 < size) (nonneg : 0 ≤ fastest) (ahead : 0 < finalTime)
    (backwards : cfl < 0) :
    Ticks cfl finalTime fastest (infinity true)
      (Scalar.min (number (cfl * size) / fastest) (number finalTime - infinity true)) := by
  rw [number_sub_infinity, Bool.not_true]
  obtain ⟨value, crossed⟩ | crossed := backwards_cases someSize nonneg backwards
  · have allowed : Scalar.min (number value) (infinity false) = number value :=
      min_of_lt (number_lt_infinity.mpr rfl)
    rw [crossed, allowed]
    exact .of_lost ahead backwards infinity_add_number (number_le_infinity.mpr rfl)
  · have allowed : Scalar.min (infinity true) (infinity false) = infinity true :=
      min_of_lt (infinity_lt_infinity.mpr ⟨rfl, rfl⟩)
    rw [crossed, allowed]
    exact .of_lost ahead backwards infinity_add_self (infinity_le_infinity.mpr (.inl rfl))

/-- The clock of a run that is unfinished ticks. -/
theorem ClockShows.ticks {time : Unrounded} (shows : ClockShows cfl finalTime time)
    (unfinished : time < number finalTime) (someSize : 0 < size) (nonneg : 0 ≤ fastest) :
    Ticks cfl finalTime fastest time
      (Scalar.min (number (cfl * size) / fastest) (number finalTime - time)) := by
  cases shows with
  | start => exact ticks_of_number someSize nonneg unfinished unfinished fun _ => le_rfl
  | running ahead within early => exact ticks_of_number someSize nonneg ahead unfinished early
  | lost ahead backwards => exact ticks_of_lost someSize nonneg ahead backwards

/-- A clock that is not before the final time shows it, or the start. -/
theorem ClockShows.eq_of_not_lt (shows : ClockShows cfl finalTime time)
    (finished : ¬ time < number finalTime) : time = number (max 0 finalTime) := by
  cases shows with
  | start => rw [max_eq_left (not_lt.mp finished), zero_eq]
  | running ahead within early =>
    rw [within.antisymm (not_lt.mp finished), max_eq_right ahead.le]
  | lost ahead backwards => exact absurd (infinity_lt_number.mpr rfl) finished

/-- A clock that runs backwards, or stands, is before a final time that is ahead. -/
theorem ClockShows.lt_of_backwards (shows : ClockShows cfl finalTime time) (backwards : cfl < 0)
    (ahead : 0 < finalTime) : time < number finalTime := by
  cases shows with
  | start => exact ahead
  | running _ _ early => exact (early backwards).trans_lt ahead
  | lost => exact infinity_lt_number.mpr rfl

end Step

namespace ShockTube

variable {tube : ShockTube Unrounded} {mesh : Mesh Unrounded} {eos : EquationOfState Unrounded}
  {simulation : Simulation Unrounded} {cfl finalTime : ℝ} {length : ℕ}

/-- One iteration of the time loop: the largest signal speed, the step it allows, and the run after
the step. -/
structure Iterates (cfl finalTime : ℝ) (before : Simulation Unrounded) (fastest dt : Unrounded)
    (after : Simulation Unrounded) : Prop where
  fastest_eq : before.setting.maxSignalSpeed before.primitive = .ok fastest
  dt_eq : before.timeStep = .ok dt
  stepped : before.step = .ok after
  time_eq : after.time = before.time + dt
  ticks : Ticks cfl finalTime fastest before.time dt

/-- The size of a cell is a positive number. -/
theorem cellSize_eq (someZone : 1 ≤ tube.numZones) :
    tube.cellSize = number (1 / tube.numZones) ∧ (0 : ℝ) < 1 / tube.numZones := by
  have positive : (0 : ℝ) < tube.numZones := by exact_mod_cast someZone
  exact ⟨number_div_number positive.ne', one_div_pos.mpr positive⟩

/-- A valid problem of zones that divide into its blocks, whose final time and fraction of a cell are
numbers. -/
structure Timed (tube : ShockTube Unrounded) (eos : EquationOfState Unrounded)
    (cfl finalTime : ℝ) : Prop where
  valid : tube.config.validate = .ok eos
  someZone : 1 ≤ tube.numZones
  someBlock : 0 < tube.numBlocks
  divides : (tube.numBlocks : ℤ) ∣ tube.numZones
  cfl_eq : tube.cfl = number cfl
  finalTime_eq : tube.finalTime = number finalTime

namespace Timed

/-- A run that started holds the initial states, and its clock shows zero. -/
theorem holds_of_start (timed : tube.Timed eos cfl finalTime)
    (started : Simulation.start tube = .ok simulation) :
    ∃ mesh, mesh.IsRow tube.numBlocks tube.blockLength ∧
      simulation.Holds tube mesh eos (tube.initialFields mesh) (tube.initialConserved mesh eos) ∧
      simulation.time = 0 := by
  obtain ⟨_, mesh, row, holds, _, time, _⟩ :=
    ShockTube.holds_of_start timed.valid timed.someZone timed.someBlock timed.divides started
  exact ⟨mesh, row, holds, time⟩

/-- An unfinished run takes its next step, and the clock ticks. -/
theorem iterates (timed : tube.Timed eos cfl finalTime) {w u : Zone → Vector Unrounded 5}
    (holds : simulation.Holds tube mesh eos w u) (row : mesh.IsRow tube.numBlocks length)
    (shows : ClockShows cfl finalTime simulation.time) (unfinished : simulation.isUnfinished = true) :
    ∃ fastest dt after w u, Iterates cfl finalTime simulation fastest dt after ∧
      after.Holds tube mesh eos w u := by
  obtain ⟨size, someSize⟩ := cellSize_eq timed.someZone
  have early : simulation.time < number finalTime := by
    have early := of_decide_eq_true unfinished
    rwa [holds.problem_eq, timed.finalTime_eq] at early
  have found := holds.timeStep_eq_ok
  obtain ⟨after, w', u', stepped, afterHolds, time⟩ := holds.step_completes row found
  refine ⟨_, _, after, w', u', ⟨holds.maxSignalSpeed_eq_ok, found, stepped, time, ?_⟩, afterHolds⟩
  rw [timed.cfl_eq, timed.finalTime_eq, size, number_mul_number]
  exact shows.ticks early someSize EquationOfState.zero_le_fastest

/-- A run that the time loop comes to holds states of all zones and shows a possible time. -/
theorem holds_of_reaches (timed : tube.Timed eos cfl finalTime) (reached : tube.Reaches simulation) :
    ∃ mesh w u, mesh.IsRow tube.numBlocks tube.blockLength ∧
      simulation.Holds tube mesh eos w u ∧ ClockShows cfl finalTime simulation.time := by
  induction reached with
  | start started =>
    obtain ⟨mesh, row, holds, time⟩ := timed.holds_of_start started
    exact ⟨mesh, _, _, row, holds, time ▸ .start⟩
  | iterate _ unfinished stepped ih =>
    obtain ⟨mesh, w, u, row, holds, shows⟩ := ih
    obtain ⟨_, _, next, w, u, iterates, nextHolds⟩ := timed.iterates holds row shows unfinished
    -- The step that the loop took is the one that is known to succeed.
    cases stepped.symm.trans iterates.stepped
    exact ⟨mesh, w, u, row, nextHolds, iterates.time_eq ▸ iterates.ticks.shows⟩

/-- A run that ends shows a possible time, and not one before the final time. -/
theorem shows_of_run (timed : tube.Timed eos cfl finalTime) {limit : ℕ} {last : Simulation Unrounded}
    (ran : tube.run limit = .ok last) :
    ClockShows cfl finalTime last.time ∧ ¬ last.time < number finalTime := by
  obtain ⟨first, started, ran⟩ := exists_of_bind_eq_ok ran
  obtain ⟨ended, reached, finished, time⟩ := (Reaches.start started).of_runWithin ran
  obtain ⟨_, _, _, _, holds, shows⟩ := timed.holds_of_reaches reached
  have finished := of_decide_eq_false finished
  rw [holds.problem_eq, timed.finalTime_eq] at finished
  rw [time]
  exact ⟨shows, finished⟩

/-- With a negative fraction of a cell no run reaches a final time that is ahead. -/
theorem run_ne_ok (timed : tube.Timed eos cfl finalTime) (backwards : cfl < 0)
    (ahead : 0 < finalTime) (limit : ℕ) (last : Simulation Unrounded) :
    tube.run limit ≠ .ok last := by
  intro ran
  obtain ⟨shows, finished⟩ := timed.shows_of_run ran
  exact finished (shows.lt_of_backwards backwards ahead)

end Timed

/-- Every iteration of the time loop takes a step to the final time or short of it; the step is
positive if the fraction of a cell is and no signal is infinitely fast, and zero if one is.  The run
ends at the final time, or at the start if that is later. -/
theorem clock_of_run (timed : tube.Timed eos cfl finalTime) :
    (requireAddressable ((tube.numZones.toNat + 2 * tube.numBlocks) * 5) = .ok () →
      ∃ first, Simulation.start tube = .ok first) ∧
    (∀ simulation, tube.Reaches simulation → simulation.isUnfinished = true →
      ∃ fastest dt after, Iterates cfl finalTime simulation fastest dt after) ∧
    ∀ limit last, tube.run limit = .ok last → last.time = number (max 0 finalTime) := by
  refine ⟨exists_start timed.valid timed.someZone timed.someBlock timed.divides,
    fun simulation reached unfinished => ?_, fun limit last ran => ?_⟩
  · obtain ⟨_, _, _, row, holds, shows⟩ := timed.holds_of_reaches reached
    obtain ⟨fastest, dt, after, _, _, iterates, _⟩ := timed.iterates holds row shows unfinished
    exact ⟨fastest, dt, after, iterates⟩
  · obtain ⟨shows, finished⟩ := timed.shows_of_run ran
    exact shows.eq_of_not_lt finished

/-- A tube of isothermal gas in two blocks. -/
noncomputable def isothermalTube : ShockTube Unrounded where
  numZones := 8
  numBlocks := 2
  finalTime := 0.2
  cfl := 0.4
  config := { (Config.standard : Config Unrounded) with thermodynamics := .isothermal 1 }

theorem timed_isothermalTube :
    isothermalTube.Timed ⟨.newtonian (.isothermal 1), .standard, .standard⟩ 0.4 0.2 where
  valid := by
    have density : (0 : Unrounded) < 1e-10 := by
      rw [zero_eq, ofScientific_eq, number_lt_number]
      norm_num
    have pressure : (0 : Unrounded) < 1e-12 := by
      rw [zero_eq, ofScientific_eq, number_lt_number]
      norm_num
    have soundSpeed : (0 : Unrounded) ≤ 1 := number_le_number.mpr zero_le_one
    exact Config.validate_eq_ok pressure (by decide) rfl (if_pos soundSpeed) ⟨density, pressure⟩
      ⟨density, pressure⟩
  someZone := by decide
  someBlock := by decide
  divides := by decide
  cfl_eq := rfl
  finalTime_eq := rfl

/-- The initial states have the sound speed for their signal speed. -/
theorem maxSignalSpeed_isothermalTube (mesh : Mesh Unrounded) (zone : Zone) :
    EquationOfState.maxSignalSpeed ⟨.newtonian (.isothermal 1), .standard, .standard⟩ .minkowski
      (.read (isothermalTube.initialFields mesh zone)) = number 1 := by
  have speed : Scalar.sqrt (0 * 0 + 0 * 0 + 0 * 0) + Scalar.sqrt (1 * 1) = number 1 := by
    simp only [zero_eq, one_eq, number_mul_number, number_add_number, mul_zero, add_zero, mul_one]
    rw [sqrt_number le_rfl, sqrt_number zero_le_one, number_add_number]
    norm_num
  unfold initialFields
  split
  · exact speed
  · exact speed

/-- The clock of the isothermal tube ticks, and the first step moves it on. -/
theorem clock_of_isothermalTube : ∃ first fastest dt after,
    Simulation.start isothermalTube = .ok first ∧ first.isUnfinished = true ∧
      Iterates 0.4 0.2 first fastest dt after ∧ 0 < dt := by
  obtain ⟨starts, iterates, _⟩ := clock_of_run timed_isothermalTube
  obtain ⟨first, started⟩ := starts rfl
  obtain ⟨mesh, _, holds, time⟩ := timed_isothermalTube.holds_of_start started
  have unfinished : first.isUnfinished = true := by
    refine decide_eq_true ?_
    rw [time, holds.problem_eq, timed_isothermalTube.finalTime_eq, zero_eq, number_lt_number]
    norm_num
  obtain ⟨fastest, dt, after, iterates⟩ := iterates first (.start started) unfinished
  have finite : fastest ≠ infinity false := by
    cases iterates.fastest_eq.symm.trans holds.maxSignalSpeed_eq_ok
    refine EquationOfState.fastest_ne_infinity fun fields member => ?_
    obtain ⟨zone, _, rfl⟩ := List.mem_map.mp member
    rw [maxSignalSpeed_isothermalTube]
    exact nofun
  exact ⟨first, fastest, dt, after, started, unfinished, iterates,
    (iterates.ticks.moves (by norm_num) finite).1⟩

section FirstIteration

variable {arguments : List String} {replacement : Option (Config Float)}

/-- The first iteration that a command line leads to, in binary64: the largest signal speed and the
step that it allows. -/
structure FirstIteration (arguments : List String) (replacement : Option (Config Float))
    (options : Options) (fastest dt : Float) : Prop where
  parsed : Options.parse arguments = .ok options
  taken : ∃ first, Simulation.start (options.problem replacement) = .ok first ∧
    first.isUnfinished = true ∧ first.setting.maxSignalSpeed first.primitive = .ok fastest ∧
    first.timeStep = .ok dt

/-- Look for the first iteration of a command line. -/
def firstIteration? (arguments : List String) (replacement : Option (Config Float)) :
    Option (Options × Float × Float) :=
  match Options.parse arguments with
  | .error _ => none
  | .ok options =>
    match Simulation.start (options.problem replacement) with
    | .error _ => none
    | .ok first =>
      match first.isUnfinished, first.setting.maxSignalSpeed first.primitive, first.timeStep with
      | true, .ok fastest, .ok dt => some (options, fastest, dt)
      | _, _, _ => none

theorem firstIteration_of_eq_some {options : Options} {fastest dt : Float}
    (found : firstIteration? arguments replacement = some (options, fastest, dt)) :
    FirstIteration arguments replacement options fastest dt := by
  unfold firstIteration? at found
  split at found
  next => cases found
  next parsed =>
    split at found
    next => cases found
    next first started =>
      split at found
      next unfinished speed step =>
        cases found
        exact ⟨parsed, first, started, unfinished, speed, step⟩
      next => cases found

/-- Isothermal gas so hot that the square of its sound speed overflows. -/
def deafening : Config Float :=
  { (Config.standard : Config Float) with thermodynamics := .isothermal 1e200, integrator := .rk1 }

/-- Without a fraction of a cell the first step is zero, and so it is with one if the signal speed
overflows; no operation on a time or a step rounds here. -/
theorem first_step_zero :
    (∃ options fastest dt,
      FirstIteration ["-n", "1", "-b", "1", "--cfl", "0"] none options fastest dt ∧
        options.cfl.isFinite = true ∧ options.finalTime.isFinite = true ∧
        fastest.isFinite = true ∧ ¬ 0 < dt) ∧
    ∃ options fastest dt,
      FirstIteration ["-n", "1", "-b", "1", "--cfl", "1e308"] (some deafening) options fastest dt ∧
        options.cfl.isFinite = true ∧ options.finalTime.isFinite = true ∧ 0 < options.cfl ∧
        fastest.isInf = true ∧ ¬ 0 < dt := by
  have still : (firstIteration? ["-n", "1", "-b", "1", "--cfl", "0"] none).any
      (fun (options, fastest, dt) => options.cfl.isFinite && options.finalTime.isFinite &&
        fastest.isFinite && !decide (0 < dt)) = true := by
    decide +kernel
  have infinite : (firstIteration? ["-n", "1", "-b", "1", "--cfl", "1e308"] (some deafening)).any
      (fun (options, fastest, dt) => options.cfl.isFinite && options.finalTime.isFinite &&
        decide (0 < options.cfl) && fastest.isInf && !decide (0 < dt)) = true := by
    decide +kernel
  constructor
  · obtain ⟨⟨options, fastest, dt⟩, found, checked⟩ := (Option.any_eq_true _ _).mp still
    simp only [Bool.and_eq_true, Bool.not_eq_true', decide_eq_false_iff_not] at checked
    obtain ⟨⟨⟨cfl, final⟩, speed⟩, stopped⟩ := checked
    exact ⟨options, fastest, dt, firstIteration_of_eq_some found, cfl, final, speed, stopped⟩
  · obtain ⟨⟨options, fastest, dt⟩, found, checked⟩ := (Option.any_eq_true _ _).mp infinite
    simp only [Bool.and_eq_true, Bool.not_eq_true', decide_eq_false_iff_not,
      decide_eq_true_eq] at checked
    obtain ⟨⟨⟨⟨cfl, final⟩, positive⟩, speed⟩, stopped⟩ := checked
    exact ⟨options, fastest, dt, firstIteration_of_eq_some found, cfl, final, positive, speed,
      stopped⟩

end FirstIteration

end ShockTube

end BlockHydro
