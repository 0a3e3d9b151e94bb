import Mathlib.Algebra.BigOperators.Group.List.Basic
import Mathlib.Analysis.Real.Sqrt
import Mathlib.Tactic.Linarith
import BlockHydro.Proofs.Exact.StageTables
import BlockHydro.Proofs.Gas.Observables

/-!
# What a stage leaves of the observables of a cell

Each axis may take from a cell a rate times what it holds.  `Mesh.courant` adds up
the rates of the active axes over a time step, and as long as the sum is below one
the stage leaves that part of every observable of the cell which was not taken
(`CellBudget.le_value_blend`), so the cell keeps a primitive state
(`CellBudget.accepts`).

An observable is read off the fields of a zone.  A zone that stores no energy
still has its mass.
-/

namespace BlockHydro

variable {observable : Observable} {numFields startFields fluxFields : Nat}

namespace Observable

/-- The fields that an observable depends on are stored. -/
def ReadableIn (observable : Observable) (numFields : Nat) : Prop :=
  5 ≤ numFields ∨ 0 < numFields ∧ observable = .mass

/-- An observable that the gas has can be read where the states of the gas are stored. -/
theorem readable_of_stored {eos : EquationOfState ℝ} {thermo : Thermodynamics ℝ}
    (fluid : eos.fluid = .newtonian thermo) (stored : eos.StoredIn numFields)
    (observed : thermo.Observes observable) : observable.ReadableIn numFields := by
  obtain rfl | ⟨rfl, withoutEnergy⟩ := stored
  · exact .inl le_rfl
  · refine .inr ⟨by decide, ?_⟩
    cases observable with
    | mass => rfl
    | energyFrom velocity =>
      cases thermo with
      | adiabatic index =>
        simp [EquationOfState.isAdiabatic, Fluid.thermodynamics, fluid] at withoutEnergy
      | isothermal speed => exact observed.elim

theorem ReadableIn.pos (readable : observable.ReadableIn numFields) : 0 < numFields := by
  obtain enough | ⟨someField, _⟩ := readable
  · omega
  · exact someField

theorem ReadableIn.five_le {velocity : PerAxis ℝ}
    (readable : (energyFrom velocity).ReadableIn numFields) : 5 ≤ numFields := by
  obtain enough | ⟨_, absurd⟩ := readable
  · exact enough
  · cases absurd

/-- A state is read as it was written. -/
theorem value_read_writeTo (readable : observable.ReadableIn numFields) (state : Conserved ℝ)
    (before : Vector ℝ numFields) :
    observable.value (.read (state.writeTo before)) = observable.value state := by
  have field : ∀ place < numFields, ∀ small : place < 5,
      (state.writeTo before)[place]?.getD 0 = state.toFields[place] := by
    intro place stored small
    rw [Vector.getElem?_eq_getElem stored, Option.getD_some]
    exact getElem_overwrite _ _ stored small
  cases observable with
  | mass => exact field 0 readable.pos (by decide)
  | energyFrom velocity =>
    have enough := readable.five_le
    simp only [value, Conserved.read, PerAxis.dot]
    rw [field 0 (by omega) (by decide), field 1 (by omega) (by decide),
      field 2 (by omega) (by decide), field 3 (by omega) (by decide),
      field 4 (by omega) (by decide)]
    rfl

/-- An observable of a blend is the blend of the observables. -/
theorem value_read_blend (readable : observable.ReadableIn numFields) {width currentFields : Nat}
    {blended : Vector ℝ width} {current : Vector ℝ currentFields} {start : Vector ℝ startFields}
    {difference : Vector ℝ 5} {a b : ℝ}
    (field : ∀ place < numFields, place < 5 → blended[place]?.getD 0 =
      a * current[place]?.getD 0 + b * start[place]?.getD 0 - difference[place]?.getD 0) :
    observable.value (.read blended) = a * observable.value (.read current) +
      b * observable.value (.read start) - observable.value (.read difference) := by
  cases observable with
  | mass => exact field 0 readable.pos (by decide)
  | energyFrom velocity =>
    have enough := readable.five_le
    simp only [value, Conserved.read, PerAxis.dot]
    rw [field 0 (by omega) (by decide), field 1 (by omega) (by decide),
      field 2 (by omega) (by decide), field 3 (by omega) (by decide),
      field 4 (by omega) (by decide)]
    ring

/-- Counting two opposite faces adds the difference of their observables. -/
theorem value_read_addDivergence (observable : Observable) (total : Vector ℝ 5) (ratio : ℝ)
    (lower upper : Vector ℝ fluxFields) :
    observable.value (.read (Mesh.addDivergence total ratio lower upper)) =
      observable.value (.read total) +
        ratio * (observable.value (.read upper) - observable.value (.read lower)) := by
  have field : ∀ place < 5, (Mesh.addDivergence total ratio lower upper)[place]?.getD 0 =
      total[place]?.getD 0 + ratio * (upper[place]?.getD 0 - lower[place]?.getD 0) := by
    intro place small
    rw [Vector.getElem?_eq_getElem small, Vector.getElem?_eq_getElem small]
    exact Mesh.getElem_addDivergence total ratio lower upper small
  cases observable with
  | mass => exact field 0 (by decide)
  | energyFrom velocity =>
    simp only [value, Conserved.read, PerAxis.dot]
    rw [field 0 (by decide), field 1 (by decide), field 2 (by decide), field 3 (by decide),
      field 4 (by decide)]
    ring

end Observable

namespace Mesh

variable {mesh : Mesh ℝ} {cell : Zone}

/-- The sum over the active axes of a rate per axis, over a time step in a cell. -/
noncomputable def courant (mesh : Mesh ℝ) (dt : ℝ) (cell : Zone) (rate : Axis → ℝ) : ℝ :=
  (mesh.activeAxes.map fun axis => dt / mesh.spacingAt cell.block axis * rate axis).sum

/-- What the faces of a cell take of an observable, if each axis takes at most a rate. -/
theorem value_divergence_le {f : Axis → Zone → Vector ℝ fluxFields} {scaledStep content : ℝ}
    {rate : Axis → ℝ}
    (weights : ∀ axis ∈ mesh.activeAxes, 0 ≤ scaledStep / mesh.spacingAt cell.block axis)
    (takes : ∀ axis ∈ mesh.activeAxes, observable.value (.read (f axis (cell.shift 1 axis))) -
      observable.value (.read (f axis cell)) ≤ rate axis * content) :
    observable.value (.read (mesh.divergence f scaledStep cell)) ≤
      mesh.courant scaledStep cell rate * content := by
  have folded : ∀ axes : List Axis, (∀ axis ∈ axes, axis ∈ mesh.activeAxes) →
      ∀ total : Vector ℝ 5, observable.value (.read (axes.foldl (fun total axis =>
          addDivergence total (scaledStep / mesh.spacingAt cell.block axis)
            (f axis cell) (f axis (cell.shift 1 axis))) total)) ≤
        observable.value (.read total) +
          (axes.map fun axis => scaledStep / mesh.spacingAt cell.block axis * rate axis).sum *
            content := by
    intro axes
    induction axes with
    | nil => simp
    | cons axis later ih =>
      intro active total
      have member := active axis List.mem_cons_self
      have counted := mul_le_mul_of_nonneg_left (takes axis member) (weights axis member)
      have rest := ih (fun other member => active other (List.mem_cons_of_mem _ member))
        (addDivergence total (scaledStep / mesh.spacingAt cell.block axis)
            (f axis cell) (f axis (cell.shift 1 axis)))
      rw [Observable.value_read_addDivergence] at rest
      rw [List.foldl_cons, List.map_cons, List.sum_cons]
      linarith
  have empty : observable.value (.read (.replicate 5 0 : Vector ℝ 5)) = 0 := by
    cases observable <;> simp [Observable.value, Conserved.read, PerAxis.dot]
  have total := folded mesh.activeAxes (fun _ member => member) (.replicate 5 0)
  rwa [empty, zero_add] at total

theorem courant_mul (mesh : Mesh ℝ) (factor dt : ℝ) (cell : Zone) (rate : Axis → ℝ) :
    mesh.courant (factor * dt) cell rate = factor * mesh.courant dt cell rate := by
  unfold courant
  rw [← List.sum_map_mul_left]
  refine congrArg List.sum (List.map_congr_left fun axis _ => ?_)
  ring

end Mesh

/-- The fields of a cell, the starting fields and the fluxes of a stage, such that the cell can pay
for what its faces take: `rate` bounds it on each axis. -/
structure CellBudget (mesh : Mesh ℝ) (thermo : Thermodynamics ℝ) (stage : StageWeights ℝ) (dt : ℝ)
    (cell : Zone) (now : Vector ℝ numFields) (first : Vector ℝ startFields)
    (f : Axis → Zone → Vector ℝ fluxFields) (rate : Axis → ℝ) : Prop where
  step_nonneg : 0 ≤ dt
  rate_pos : 0 < stage.rate
  spacing_pos : ∀ axis ∈ mesh.activeAxes, 0 < mesh.spacingAt cell.block axis
  density_pos : 0 < (Conserved.read now).density
  content : ∀ observable, thermo.Observes observable → 0 ≤ observable.value (.read now)
  covers : ∀ observable, thermo.Observes observable →
    stage.rate * observable.value (.read now) ≤
      stage.current * observable.value (.read now) + stage.start * observable.value (.read first)
  takes : ∀ axis ∈ mesh.activeAxes, ∀ observable, thermo.Observes observable →
    observable.value (.read (f axis (cell.shift 1 axis))) - observable.value (.read (f axis cell)) ≤
      rate axis * observable.value (.read now)
  courant_lt : mesh.courant dt cell rate < 1

namespace CellBudget

variable {mesh : Mesh ℝ} {thermo : Thermodynamics ℝ} {stage : StageWeights ℝ} {dt : ℝ} {cell : Zone}
  {now : Vector ℝ numFields} {first : Vector ℝ startFields}
  {f : Axis → Zone → Vector ℝ fluxFields} {rate : Axis → ℝ}

/-- What is left of an observable after the stage. -/
theorem le_value_blend (budget : CellBudget mesh thermo stage dt cell now first f rate)
    (observed : thermo.Observes observable) (readable : observable.ReadableIn numFields)
    {width : Nat} {blended : Vector ℝ width}
    (field : ∀ place < numFields, place < 5 → blended[place]?.getD 0 =
      stage.current * now[place]?.getD 0 + stage.start * first[place]?.getD 0 -
        (mesh.divergence f (stage.rate * dt) cell)[place]?.getD 0) :
    stage.rate * (1 - mesh.courant dt cell rate) * observable.value (.read now) ≤
      observable.value (.read blended) := by
  have weights : ∀ axis ∈ mesh.activeAxes, 0 ≤ stage.rate * dt / mesh.spacingAt cell.block axis :=
    fun axis member => div_nonneg (mul_nonneg budget.rate_pos.le budget.step_nonneg)
      (budget.spacing_pos axis member).le
  have taken := Mesh.value_divergence_le weights
    (fun axis member => budget.takes axis member observable observed)
  rw [mesh.courant_mul] at taken
  have covered := budget.covers observable observed
  rw [Observable.value_read_blend readable field]
  linarith

/-- The stage leaves a state that has a primitive counterpart. -/
theorem accepts (budget : CellBudget mesh thermo stage dt cell now first f rate)
    (proper : thermo.Proper)
    (readable : ∀ observable, thermo.Observes observable → observable.ReadableIn numFields)
    {width : Nat} {blended : Vector ℝ width}
    (field : ∀ place < numFields, place < 5 → blended[place]?.getD 0 =
      stage.current * now[place]?.getD 0 + stage.start * first[place]?.getD 0 -
        (mesh.divergence f (stage.rate * dt) cell)[place]?.getD 0) :
    ∃ primitive, (Conserved.read blended).toPrimitive thermo = .ok primitive := by
  have room : 0 < stage.rate * (1 - mesh.courant dt cell rate) :=
    mul_pos budget.rate_pos (sub_pos.mpr budget.courant_lt)
  have left := fun observable (observed : thermo.Observes observable) =>
    budget.le_value_blend observed (readable observable observed) field
  rw [Conserved.toPrimitive_accepts proper]
  constructor
  · exact (mul_pos room budget.density_pos).trans_le (left .mass (.mass thermo))
  · intro observable observed
    exact (mul_nonneg room.le (budget.content observable observed)).trans (left observable observed)

end CellBudget

end BlockHydro
