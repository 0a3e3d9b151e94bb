import Mathlib.Analysis.Real.Sqrt
import Mathlib.Tactic.Linarith
import BlockHydro.Flux.Riemann
import BlockHydro.Proofs.Exact.Reals

/-!
# What a Newtonian gas never makes negative

An `Observable` is a linear reading of a conserved state: its mass, or its energy
as an observer sees it who moves with some velocity.  A gas of positive density
has a primitive state exactly when no observable of its closure is negative
(`Conserved.toPrimitive_accepts`), so a state is shown to be physical by one
linear estimate for each observable.

The flux of an observable differs from what the gas carries along by at most the
sound speed times the observable (`abs_flux_sub_carried_le`).
-/

namespace BlockHydro

/-- A linear reading of a conserved state. -/
inductive Observable where
  | mass
  /-- The energy as seen by an observer who moves with a velocity. -/
  | energyFrom (velocity : PerAxis ℝ)

namespace Observable

/-- The reading of a state. -/
noncomputable def value (observable : Observable) (state : Conserved ℝ) : ℝ :=
  match observable with
  | .mass => state.density
  | .energyFrom velocity =>
    state.energy - velocity.dot state.momentum + state.density * velocity.dot velocity / 2

/-- The same observer, in the frame whose first axis is `axis`. -/
def rotate (observable : Observable) (axis : Axis) : Observable :=
  match observable with
  | .mass => .mass
  | .energyFrom velocity => .energyFrom (velocity.rotate axis)

@[simp] theorem value_add (observable : Observable) (first second : Conserved ℝ) :
    observable.value (first + second) = observable.value first + observable.value second := by
  cases observable with
  | mass => rfl
  | energyFrom velocity =>
    change (first.energy + second.energy) -
      velocity.dot (first.momentum.zipWith (· + ·) second.momentum) +
      (first.density + second.density) * velocity.dot velocity / 2 = _
    simp only [value, PerAxis.dot, PerAxis.zipWith]
    ring

@[simp] theorem value_sub (observable : Observable) (first second : Conserved ℝ) :
    observable.value (first - second) = observable.value first - observable.value second := by
  cases observable with
  | mass => rfl
  | energyFrom velocity =>
    change (first.energy - second.energy) -
      velocity.dot (first.momentum.zipWith (· - ·) second.momentum) +
      (first.density - second.density) * velocity.dot velocity / 2 = _
    simp only [value, PerAxis.dot, PerAxis.zipWith]
    ring

@[simp] theorem value_mul (observable : Observable) (state : Conserved ℝ) (factor : ℝ) :
    observable.value (state * factor) = observable.value state * factor := by
  cases observable with
  | mass => rfl
  | energyFrom velocity =>
    change state.energy * factor - velocity.dot (state.momentum.map (· * factor))
      + state.density * factor * velocity.dot velocity / 2 = _
    simp only [value, PerAxis.dot, PerAxis.map]
    ring

theorem value_unrotate (observable : Observable) (state : Conserved ℝ) (axis : Axis) :
    observable.value (state.unrotate axis) = (observable.rotate axis).value state := by
  cases observable with
  | mass => rfl
  | energyFrom velocity =>
    cases axis <;>
      simp only [value, rotate, Conserved.unrotate, PerAxis.unrotate, PerAxis.rotate, PerAxis.dot,
        PerAxis.get, Axis.next] <;>
      ring

end Observable

namespace Thermodynamics

/-- The observables that the states of a gas have: one without an energy has its mass only. -/
def Observes : Thermodynamics ℝ → Observable → Prop
  | _, .mass => True
  | .adiabatic _, .energyFrom _ => True
  | .isothermal _, .energyFrom _ => False

/-- Compression heats the gas. -/
def Proper : Thermodynamics ℝ → Prop
  | .adiabatic gammaLawIndex => 1 < gammaLawIndex
  | .isothermal _ => True

theorem Observes.mass (thermo : Thermodynamics ℝ) : thermo.Observes .mass := by
  cases thermo <;> exact trivial

theorem Observes.rotate {thermo : Thermodynamics ℝ} {observable : Observable}
    (observed : thermo.Observes observable) (axis : Axis) :
    thermo.Observes (observable.rotate axis) := by
  cases thermo <;> cases observable <;> exact observed

end Thermodynamics

/-- A density above zero and, in a gas that stores an energy, a pressure that is not negative. -/
def Primitive.Physical (state : Primitive ℝ) : Thermodynamics ℝ → Prop
  | .adiabatic _ => 0 < state.density ∧ 0 ≤ state.pressure
  | .isothermal _ => 0 < state.density

namespace Primitive.Physical

variable {state : Primitive ℝ} {thermo : Thermodynamics ℝ}

theorem density_pos (physical : state.Physical thermo) : 0 < state.density := by
  cases thermo with
  | adiabatic _ => exact physical.1
  | isothermal _ => exact physical

theorem rotate (physical : state.Physical thermo) (axis : Axis) :
    (state.rotate axis).Physical thermo := by
  cases thermo <;> exact physical

end Primitive.Physical

/-- The energy seen by an observer is the internal energy and that of the motion relative to the
observer. -/
theorem Conserved.value_energyFrom (state : Conserved ℝ) (positive : 0 < state.density)
    (velocity : PerAxis ℝ) :
    (Observable.energyFrom velocity).value state =
      state.energy - 0.5 * state.momentumSquared / state.density +
        state.density / 2 * ((velocity.i - state.momentum.i / state.density) ^ 2 +
          (velocity.j - state.momentum.j / state.density) ^ 2 +
          (velocity.k - state.momentum.k / state.density) ^ 2) := by
  simp only [Observable.value, momentumSquared, PerAxis.dot]
  field_simp
  ring

/-- A conserved state has a primitive counterpart when its density is positive and no observable is
negative. -/
theorem Conserved.toPrimitive_accepts {thermo : Thermodynamics ℝ} (proper : thermo.Proper)
    {state : Conserved ℝ} :
    (∃ primitive, state.toPrimitive thermo = .ok primitive) ↔
      0 < state.density ∧ ∀ observable, thermo.Observes observable → 0 ≤ observable.value state := by
  unfold toPrimitive
  by_cases refused : state.density ≤ 0
  · rw [if_pos refused]
    simp [not_lt.mpr refused]
  rw [if_neg refused]
  have positive : 0 < state.density := not_le.mp refused
  cases thermo with
  | isothermal speed =>
    refine iff_of_true ⟨_, rfl⟩ ⟨positive, fun observable observed => ?_⟩
    cases observable with
    | mass => exact positive.le
    | energyFrom velocity => exact observed.elim
  | adiabatic index =>
    have excess : 0 < index - 1 := sub_pos.mpr proper
    have heat := state.value_energyFrom positive
    dsimp only
    split
    next cold =>
      -- The observer who moves with the gas sees the internal energy.
      refine iff_of_false (by simp) fun observed => ?_
      have seen := observed.2 (.energyFrom (state.momentum.map (· / state.density))) trivial
      have comoving := heat (state.momentum.map (· / state.density))
      simp only [PerAxis.map, sub_self] at comoving seen
      nlinarith
    next warm =>
      refine iff_of_true ⟨_, rfl⟩ ⟨positive, fun observable observed => ?_⟩
      cases observable with
      | mass => exact positive.le
      | energyFrom velocity =>
        have internal := nonneg_of_mul_nonneg_left (not_lt.mp warm) excess
        rw [heat velocity]
        positivity

/-- The work of the pressure is at most what the gas holds, times the sound speed. -/
theorem abs_pressure_mul_le {density pressure index speed d : ℝ} (density_pos : 0 < density)
    (pressure_nonneg : 0 ≤ pressure) (index_gt : 1 < index) (speed_nonneg : 0 ≤ speed)
    (supersonic : index * pressure / density ≤ speed ^ 2) :
    |pressure * d| ≤ speed * (density * d ^ 2 / 2 + pressure / (index - 1)) := by
  have excess : 0 < index - 1 := by linarith
  obtain ⟨heat, heat_eq⟩ : ∃ heat, heat = pressure / (index - 1) := ⟨_, rfl⟩
  have pressure_eq : pressure = heat * (index - 1) := by
    rw [heat_eq]
    field_simp
  have heat_nonneg : 0 ≤ heat := heat_eq ▸ div_nonneg pressure_nonneg excess.le
  have bound : index * pressure ≤ speed ^ 2 * density := (div_le_iff₀ density_pos).mp supersonic
  rw [← heat_eq]
  refine abs_le_of_sq_le_sq ?_ (by positivity)
  have weight : 0 ≤ heat * d ^ 2 := by positivity
  calc (pressure * d) ^ 2 = (index - 1) * pressure * (heat * d ^ 2) := by
        rw [pressure_eq]; ring
    _ ≤ 2 * (index * pressure) * (heat * d ^ 2) := by
        refine mul_le_mul_of_nonneg_right ?_ weight
        nlinarith
    _ ≤ 2 * (speed ^ 2 * density) * (heat * d ^ 2) := by gcongr
    _ ≤ (speed * (density * d ^ 2 / 2 + heat)) ^ 2 := by
        nlinarith [sq_nonneg (speed * (density * d ^ 2 / 2 - heat))]

namespace Primitive

/-- The square of the sound speed is what it is called. -/
theorem sq_soundSpeed {state : Primitive ℝ} {index : ℝ} (index_pos : 0 < index)
    (physical : state.Physical (.adiabatic index)) :
    state.soundSpeed (.adiabatic index) ^ 2 = index * state.pressure / state.density :=
  Real.sq_sqrt (div_nonneg (mul_nonneg index_pos.le physical.2) physical.1.le)

theorem soundSpeed_nonneg (state : Primitive ℝ) (thermo : Thermodynamics ℝ) :
    0 ≤ state.soundSpeed thermo :=
  Real.sqrt_nonneg _

theorem value_energyFrom_toConserved (state : Primitive ℝ) (index : ℝ) (velocity : PerAxis ℝ) :
    (Observable.energyFrom velocity).value (state.toConserved (.adiabatic index)) =
      state.density * ((state.velocity.i - velocity.i) ^ 2 + (state.velocity.j - velocity.j) ^ 2 +
        (state.velocity.k - velocity.k) ^ 2) / 2 + state.pressure / (index - 1) := by
  simp only [Observable.value, toConserved, energyDensity, velocitySquared, PerAxis.dot, PerAxis.map]
  ring

/-- The energy flux is the energy carried along and the work done on the observer's side. -/
theorem value_energyFrom_fluxVector (state : Primitive ℝ) (index : ℝ) (velocity : PerAxis ℝ) :
    (Observable.energyFrom velocity).value (state.fluxVector .i (.adiabatic index)) =
      state.velocity.i * (Observable.energyFrom velocity).value (state.toConserved (.adiabatic index)) +
        state.pressure * (state.velocity.i - velocity.i) := by
  simp only [Observable.value, fluxVector, pressureWork, pressureTerm, toConserved, PerAxis.dot,
    PerAxis.ofFn, PerAxis.map, PerAxis.get, Axis.along]
  simp
  ring

/-- The observables of a physical state are not negative. -/
theorem Physical.value_nonneg {thermo : Thermodynamics ℝ} (proper : thermo.Proper)
    {state : Primitive ℝ}
    (physical : state.Physical thermo) {observable : Observable}
    (observed : thermo.Observes observable) : 0 ≤ observable.value (state.toConserved thermo) := by
  cases observable with
  | mass => exact physical.density_pos.le
  | energyFrom velocity =>
    cases thermo with
    | isothermal speed => exact observed.elim
    | adiabatic index =>
      have excess : 0 < index - 1 := sub_pos.mpr proper
      obtain ⟨density_pos, pressure_nonneg⟩ := physical
      rw [value_energyFrom_toConserved]
      positivity

/-- The flux of an observable is what the gas carries along, up to the sound speed times the
observable. -/
theorem abs_flux_sub_carried_le {thermo : Thermodynamics ℝ} (proper : thermo.Proper)
    {state : Primitive ℝ} (physical : state.Physical thermo) {observable : Observable}
    (observed : thermo.Observes observable) :
    |observable.value (state.fluxVector .i thermo) -
        state.velocity.i * observable.value (state.toConserved thermo)| ≤
      state.soundSpeed thermo * observable.value (state.toConserved thermo) := by
  have speed_nonneg := state.soundSpeed_nonneg thermo
  cases observable with
  | mass =>
    have carried : (state.fluxVector .i thermo).density = state.density * state.velocity.i := rfl
    change |(state.fluxVector .i thermo).density - state.velocity.i * state.density| ≤
      state.soundSpeed thermo * state.density
    rw [carried, mul_comm, sub_self, abs_zero]
    exact mul_nonneg speed_nonneg physical.density_pos.le
  | energyFrom velocity =>
    cases thermo with
    | isothermal speed => exact observed.elim
    | adiabatic index =>
      have supersonic := (sq_soundSpeed (zero_lt_one.trans proper) physical).ge
      rw [value_energyFrom_fluxVector, add_sub_cancel_left, value_energyFrom_toConserved]
      refine (abs_pressure_mul_le physical.1 physical.2 proper speed_nonneg supersonic).trans ?_
      have density_pos := physical.1
      gcongr
      nlinarith [sq_nonneg (state.velocity.j - velocity.j),
        sq_nonneg (state.velocity.k - velocity.k)]

end Primitive

end BlockHydro
