import Mathlib.Analysis.Real.Sqrt
import Mathlib.Tactic.Linarith
import BlockHydro.Proofs.Flux.FaceBudget
import BlockHydro.Proofs.Gas.NewtonianRecovery
import BlockHydro.Proofs.Stage.CellBudget
import BlockHydro.Proofs.Stage.FluxPass
import BlockHydro.Proofs.Stage.CorrectionPass

/-!
# Stages of a Newtonian gas that starts from physical states

`GasStage` describes a stage in exact arithmetic that starts from physical
states: the stage blends the current state with a physical starting state, and
the current state encodes primitive ones of positive density and pressure.

Over tables a cell of such a stage has a `CellBudget`, with the speeds of the
one-wave fluxes where the faces of the cell were replaced (`repaired_takes`), and
with the bounds of the waves where they carry two-wave fluxes (`solved_takes`).
-/

namespace BlockHydro

variable {setting : Setting ℝ} {thermo : Thermodynamics ℝ} {stage : StageWeights ℝ} {dt : ℝ}

/-- The primitive state that is stored in a zone, and an empty one where there is no zone. -/
noncomputable def Patch.primitiveOf (patch : Patch ℝ) (zone : Zone) : Primitive ℝ :=
  match patch.fields zone with
  | .ok fields => .read fields
  | .error _ => ⟨0, .replicate 0, 0⟩

/-- The conserved state that is stored in a zone, and an empty one where there is no zone. -/
noncomputable def Patch.conservedOf (patch : Patch ℝ) (zone : Zone) : Conserved ℝ :=
  match patch.fields zone with
  | .ok fields => .read fields
  | .error _ => ⟨0, .replicate 0, 0⟩

/-- The state stored in a zone passes recovery in diagnostic mode. -/
def Setting.PhysicalAt (setting : Setting ℝ) (conserved : Patch ℝ) (zone : Zone) : Prop :=
  ∃ metric state primitive, setting.conservedAt conserved zone = .ok (metric, state) ∧
    setting.eos.recover .diagnostic metric state = .ok primitive

/-- The speed of the one-wave flux at a face. -/
noncomputable def Thermodynamics.speedAt (thermo : Thermodynamics ℝ) (primitive : Patch ℝ)
    (axis : Axis) (face : Zone) : ℝ :=
  thermo.faceSpeed axis (primitive.primitiveOf (face.shift (-1) axis)) (primitive.primitiveOf face)

/-- The bounds on the wave speeds at a face. -/
noncomputable def Thermodynamics.boundsAt (thermo : Thermodynamics ℝ) (primitive : Patch ℝ)
    (axis : Axis) (face : Zone) : WaveBounds ℝ :=
  thermo.faceBounds axis (primitive.primitiveOf (face.shift (-1) axis)) (primitive.primitiveOf face)

/-- A stage whose update is a mean of the starting state and an advanced state: the first one of a
step, where both states are the same, or a later one. -/
inductive MeanStage (setting : Setting ℝ) : StageWeights ℝ → Patch ℝ → Patch ℝ → Prop where
  | first (state : Patch ℝ) : MeanStage setting ⟨0, 1, 1⟩ state state
  | later {weight startWeight : ℝ} {current start : Patch ℝ} (weight_pos : 0 < weight)
      (startWeight_nonneg : 0 ≤ startWeight)
      (physical : ∀ cell ∈ setting.mesh.interiorGrid, setting.PhysicalAt start cell) :
      MeanStage setting ⟨weight, startWeight, weight⟩ current start

/-- A stage of a Newtonian gas that starts from physical states. -/
structure GasStage (setting : Setting ℝ) (thermo : Thermodynamics ℝ) (stage : StageWeights ℝ)
    (dt : ℝ) (current start primitive : Patch ℝ) : Prop where
  fluid : setting.eos.fluid = .newtonian thermo
  proper : thermo.Proper
  spacing_pos : ∀ block < setting.mesh.numBlocks, ∀ axis ∈ setting.mesh.activeAxes,
    0 < setting.mesh.spacingAt block axis
  physical : ∀ zone ∈ setting.mesh.extendedGrid, (primitive.primitiveOf zone).Physical thermo
  stored : setting.eos.StoredIn current.numFields
  encoded : ∃ before : Patch ℝ, before.Spans setting.mesh.extendedGrid current.numFields ∧
    setting.encode primitive before = .ok current
  mean : MeanStage setting stage current start
  step_nonneg : 0 ≤ dt

section Readings

variable {grid : Grid} {numFields : Nat}

theorem Patch.primitiveOf_ofFn (w : Zone → Vector ℝ numFields) {zone : Zone}
    (inside : zone ∈ grid) : (Patch.ofFn grid numFields w).primitiveOf zone = .read (w zone) := by
  unfold primitiveOf
  rw [fields_ofFn w inside]
  rfl

theorem Patch.conservedOf_ofFn (u : Zone → Vector ℝ numFields) {zone : Zone}
    (inside : zone ∈ grid) : (Patch.ofFn grid numFields u).conservedOf zone = .read (u zone) := by
  unfold conservedOf
  rw [fields_ofFn u inside]
  rfl

/-- What is read for recovery is the state stored in the zone. -/
theorem Setting.eq_conservedOf {conserved : Patch ℝ} {zone : Zone} {metric : Metric ℝ}
    {state : Conserved ℝ} (found : setting.conservedAt conserved zone = .ok (metric, state)) :
    state = conserved.conservedOf zone := by
  unfold conservedAt at found
  unfold Patch.conservedOf
  cases metricFound : MetricField.cellMetric setting.metric zone with
  | error cause => rw [metricFound] at found; cases found
  | ok geometry =>
    rw [metricFound] at found
    dsimp only [bind, Except.bind] at found
    cases fieldsFound : conserved.fields zone with
    | error cause => rw [fieldsFound] at found; cases found
    | ok fields =>
      rw [fieldsFound] at found
      dsimp only at found ⊢
      by_cases enough : 4 ≤ conserved.numFields
      · rw [Conserved.ofFields_eq_ok enough] at found
        cases found
        rfl
      · rw [Conserved.ofFields, dif_neg enough] at found
        cases found

/-- A Newtonian state that has a primitive counterpart passes recovery where it is stored. -/
theorem Setting.physicalAt_ofFn (covered : setting.Covered)
    (fluid : setting.eos.fluid = .newtonian thermo) (enough : 4 ≤ numFields)
    {u : Zone → Vector ℝ numFields} {zone : Zone} (inside : zone ∈ setting.mesh.extendedGrid)
    (accepted : ∃ primitive, (Conserved.read (u zone)).toPrimitive thermo = .ok primitive) :
    setting.PhysicalAt (.ofFn setting.mesh.extendedGrid numFields u) zone := by
  obtain ⟨primitive, accepted⟩ := accepted
  refine ⟨_, _, primitive, conservedAt_eq_ok (.ofFn setting.mesh.extendedGrid numFields u) covered
    enough inside (Patch.fields_ofFn u inside), ?_⟩
  exact (EquationOfState.recover_newtonian fluid _ _).trans accepted

end Readings

namespace GasStage

variable {current start primitive : Patch ℝ} {observable : Observable}

theorem readable (gas : GasStage setting thermo stage dt current start primitive)
    (observable : Observable) (observed : thermo.Observes observable) :
    observable.ReadableIn current.numFields :=
  Observable.readable_of_stored gas.fluid gas.stored observed

theorem rate_pos (gas : GasStage setting thermo stage dt current start primitive) :
    0 < stage.rate := by
  cases gas.mean with
  | first _ => exact zero_lt_one
  | later weight_pos _ _ => exact weight_pos

/-- The blend of a stage keeps what its weight asks of the current state. -/
theorem covers (gas : GasStage setting thermo stage dt current start primitive)
    (observed : thermo.Observes observable) {cell : Zone}
    (inside : cell ∈ setting.mesh.interiorGrid) :
    stage.rate * observable.value (current.conservedOf cell) ≤
      stage.current * observable.value (current.conservedOf cell) +
        stage.start * observable.value (start.conservedOf cell) := by
  cases gas.mean with
  | first _ => simp
  | later _ startWeight_nonneg physical =>
    obtain ⟨metric, state, recovered, found, accepted⟩ := physical cell inside
    rw [EquationOfState.recover_newtonian gas.fluid] at accepted
    have observables := ((Conserved.toPrimitive_accepts gas.proper).mp ⟨recovered, accepted⟩).2
    have nonneg := observables observable observed
    rw [Setting.eq_conservedOf found] at nonneg
    have kept := mul_nonneg startWeight_nonneg nonneg
    linarith

/-- The current state holds what the primitive states do. -/
theorem content (gas : GasStage setting thermo stage dt current start primitive)
    (covered : setting.Covered) (primitive_grid : primitive.grid = setting.mesh.extendedGrid)
    (enough : 4 ≤ primitive.numFields) (observed : thermo.Observes observable) {zone : Zone}
    (inside : zone ∈ setting.mesh.extendedGrid) :
    observable.value (current.conservedOf zone) =
      observable.value ((primitive.primitiveOf zone).toConserved thermo) := by
  have readable := gas.readable observable observed
  obtain ⟨before, shape, encoded⟩ := gas.encoded
  generalize current.numFields = numFields at readable shape
  obtain ⟨b, rfl⟩ := shape.exists_eq_ofFn
  obtain ⟨stateFields, w, rfl⟩ := Patch.exists_eq_ofFn primitive_grid
  have enough : 4 ≤ stateFields := enough
  rw [Setting.encode_ofFn covered enough readable.pos.ne' w b] at encoded
  cases encoded
  rw [Patch.conservedOf_ofFn _ inside, Patch.primitiveOf_ofFn _ inside,
    Observable.value_read_writeTo readable, EquationOfState.encode, gas.fluid]

section Tables

variable {numFields startFields stateFields fluxFields : Nat} {now : Zone → Vector ℝ numFields}
  {first : Zone → Vector ℝ startFields} {w : Zone → Vector ℝ stateFields}
  {f : Axis → Zone → Vector ℝ fluxFields} {cell : Zone}

/-- A cell can pay for its faces, if each axis takes at most a rate and the step is short. -/
theorem cellBudget (gas : GasStage setting thermo stage dt
      (.ofFn setting.mesh.extendedGrid numFields now)
      (.ofFn setting.mesh.extendedGrid startFields first)
      (.ofFn setting.mesh.extendedGrid stateFields w))
    (covered : setting.Covered) (enough : 4 ≤ stateFields)
    (inside : cell ∈ setting.mesh.interiorGrid) {rate : Axis → ℝ}
    (takes : ∀ axis ∈ setting.mesh.activeAxes, ∀ observable, thermo.Observes observable →
      observable.value (.read (f axis (cell.shift 1 axis))) -
          observable.value (.read (f axis cell)) ≤
        rate axis * observable.value ((Primitive.read (w cell)).toConserved thermo))
    (short : setting.mesh.courant dt cell rate < 1) :
    CellBudget setting.mesh thermo stage dt cell (now cell) (first cell) f rate := by
  have extended := Mesh.extendedGrid_of_interiorGrid inside
  have physical := gas.physical cell extended
  rw [Patch.primitiveOf_ofFn w extended] at physical
  have content : ∀ observable, thermo.Observes observable →
      observable.value (.read (now cell)) =
        observable.value ((Primitive.read (w cell)).toConserved thermo) := by
    intro observable observed
    have same := gas.content covered rfl enough observed extended
    rwa [Patch.conservedOf_ofFn _ extended, Patch.primitiveOf_ofFn _ extended] at same
  constructor
  case step_nonneg => exact gas.step_nonneg
  case rate_pos => exact gas.rate_pos
  case spacing_pos => exact gas.spacing_pos cell.block inside.1
  case density_pos =>
    have mass := content .mass (.mass thermo)
    exact physical.density_pos.trans_eq mass.symm
  case content =>
    intro observable observed
    rw [content observable observed]
    exact physical.value_nonneg gas.proper observed
  case covers =>
    intro observable observed
    have covers := gas.covers observed inside
    rwa [Patch.conservedOf_ofFn _ extended, Patch.conservedOf_ofFn _ extended] at covers
  case takes =>
    intro axis member observable observed
    rw [content observable observed]
    exact takes axis member observable observed
  case courant_lt => exact short

end Tables

end GasStage

section Faces

variable {stateFields fluxFields : Nat} {w : Zone → Vector ℝ stateFields} {cell : Zone}
  {axis : Axis}

/-- What the faces of a cell along an axis take, if each of them carries a flux with a budget. -/
theorem value_faces_le {share : ℝ} {flux : Zone → Conserved ℝ} {leftRate rightRate : Zone → ℝ}
    {f : Zone → Vector ℝ fluxFields} {observable : Observable}
    (budget : ∀ face ∈ setting.mesh.faceGrid axis,
      FaceBudget thermo share axis (.read (w (face.shift (-1) axis))) (.read (w face)) (flux face)
        (leftRate face) (rightRate face))
    (inside : cell ∈ setting.mesh.interiorGrid) (observed : thermo.Observes observable)
    (lower : observable.value (.read (f cell)) = observable.value (flux cell))
    (upper : observable.value (.read (f (cell.shift 1 axis))) =
      observable.value (flux (cell.shift 1 axis))) :
    observable.value (.read (f (cell.shift 1 axis))) - observable.value (.read (f cell)) ≤
      (rightRate cell + leftRate (cell.shift 1 axis)) *
        observable.value ((Primitive.read (w cell)).toConserved thermo) := by
  have lowerFace := budget cell (Mesh.lowerFace_mem axis inside)
  have upperFace := budget (cell.shift 1 axis) (Mesh.upperFace_mem axis inside)
  rw [Zone.shift_back] at upperFace
  rw [lower, upper]
  exact lowerFace.cell_pays upperFace observed

end Faces

section Budgets

variable {numFields startFields stateFields fluxFields : Nat} {now : Zone → Vector ℝ numFields}
  {first : Zone → Vector ℝ startFields} {w : Zone → Vector ℝ stateFields} {axis : Axis}
  {face : Zone}

/-- The states on both sides of a face are those of its cells. -/
theorem Patch.primitiveOf_face (w : Zone → Vector ℝ stateFields)
    (active : setting.mesh.isActive axis = true) (inside : face ∈ setting.mesh.faceGrid axis) :
    (Patch.ofFn setting.mesh.extendedGrid stateFields w).primitiveOf (face.shift (-1) axis) =
        .read (w (face.shift (-1) axis)) ∧
      (Patch.ofFn setting.mesh.extendedGrid stateFields w).primitiveOf face = .read (w face) :=
  ⟨primitiveOf_ofFn w (Mesh.lowerCell_mem active inside),
    primitiveOf_ofFn w (Mesh.upperCell_mem active inside)⟩

namespace GasStage

/-- The one-wave flux of a face has a budget. -/
theorem lowFlux_budget (gas : GasStage setting thermo stage dt
      (.ofFn setting.mesh.extendedGrid numFields now)
      (.ofFn setting.mesh.extendedGrid startFields first)
      (.ofFn setting.mesh.extendedGrid stateFields w))
    (active : setting.mesh.isActive axis = true) (inside : face ∈ setting.mesh.faceGrid axis) :
    let speed := thermo.speedAt (.ofFn setting.mesh.extendedGrid stateFields w) axis face
    FaceBudget thermo (1 / 2) axis (.read (w (face.shift (-1) axis))) (.read (w face))
      (setting.lowFlux w axis face) (speed / 2) (speed / 2) := by
  have leftPhysical := gas.physical _ (Mesh.lowerCell_mem active inside)
  have rightPhysical := gas.physical _ (Mesh.upperCell_mem active inside)
  obtain ⟨left, right⟩ := Patch.primitiveOf_face w active inside
  unfold Thermodynamics.speedAt
  rw [left] at leftPhysical ⊢
  rw [right] at rightPhysical ⊢
  exact lowOrderFlux_budget gas.fluid gas.proper leftPhysical rightPhysical

/-- The two-wave flux of a face has a budget. -/
theorem faceFlux_budget (gas : GasStage setting thermo stage dt
      (.ofFn setting.mesh.extendedGrid numFields now)
      (.ofFn setting.mesh.extendedGrid startFields first)
      (.ofFn setting.mesh.extendedGrid stateFields w))
    (active : setting.mesh.isActive axis = true) (inside : face ∈ setting.mesh.faceGrid axis) :
    let bounds := thermo.boundsAt (.ofFn setting.mesh.extendedGrid stateFields w) axis face
    FaceBudget thermo 1 axis (.read (w (face.shift (-1) axis))) (.read (w face))
      (setting.faceFlux w axis face).flux (-bounds.slowest) bounds.fastest := by
  have leftPhysical := gas.physical _ (Mesh.lowerCell_mem active inside)
  have rightPhysical := gas.physical _ (Mesh.upperCell_mem active inside)
  obtain ⟨left, right⟩ := Patch.primitiveOf_face w active inside
  unfold Thermodynamics.boundsAt
  rw [left] at leftPhysical ⊢
  rw [right] at rightPhysical ⊢
  exact twoWaveFlux_budget gas.fluid gas.proper leftPhysical rightPhysical

variable {cell : Zone} {observable : Observable}

/-- The faces of a flagged cell are replaced by the one-wave flux and take at most its speeds. -/
theorem repaired_takes (gas : GasStage setting thermo stage dt
      (.ofFn setting.mesh.extendedGrid numFields now)
      (.ofFn setting.mesh.extendedGrid startFields first)
      (.ofFn setting.mesh.extendedGrid stateFields w))
    (fluxes_stored : setting.eos.StoredIn fluxFields) (f : Zone → Vector ℝ fluxFields)
    {flags : Zone → Bool} (flagged : flags cell = true) (inside : cell ∈ setting.mesh.interiorGrid)
    (active : setting.mesh.isActive axis = true) (observed : thermo.Observes observable) :
    let speed := thermo.speedAt (.ofFn setting.mesh.extendedGrid stateFields w) axis
    observable.value (.read (setting.repairedFlux w flags axis f (cell.shift 1 axis))) -
        observable.value (.read (setting.repairedFlux w flags axis f cell)) ≤
      (speed cell + speed (cell.shift 1 axis)) / 2 *
        observable.value ((Primitive.read (w cell)).toConserved thermo) := by
  intro speed
  have readable := Observable.readable_of_stored gas.fluid fluxes_stored observed
  have replaced : ∀ face, touches flags axis face = true →
      observable.value (.read (setting.repairedFlux w flags axis f face)) =
        observable.value (setting.lowFlux w axis face) := by
    intro face touched
    rw [Setting.repairedFlux, if_pos touched, Observable.value_read_writeTo readable]
  have lower : touches flags axis cell = true := by rw [touches, flagged, Bool.or_true]
  have upper : touches flags axis (cell.shift 1 axis) = true := by
    rw [touches, Zone.shift_back, flagged, Bool.true_or]
  have taken := value_faces_le (fun face => gas.lowFlux_budget active) inside observed
    (replaced _ lower) (replaced _ upper)
  rwa [← add_div] at taken

/-- The faces of a cell with two-wave fluxes take at most the speeds of the waves that enter it. -/
theorem solved_takes (gas : GasStage setting thermo stage dt
      (.ofFn setting.mesh.extendedGrid numFields now)
      (.ofFn setting.mesh.extendedGrid startFields first)
      (.ofFn setting.mesh.extendedGrid stateFields w))
    (fluxes_stored : setting.eos.StoredIn fluxFields) (f : Zone → Vector ℝ fluxFields)
    (inside : cell ∈ setting.mesh.interiorGrid) (active : setting.mesh.isActive axis = true)
    (observed : thermo.Observes observable) :
    let bounds := thermo.boundsAt (.ofFn setting.mesh.extendedGrid stateFields w) axis
    observable.value (.read (Fluxes.solvedFluxes setting w axis f (cell.shift 1 axis))) -
        observable.value (.read (Fluxes.solvedFluxes setting w axis f cell)) ≤
      ((bounds cell).fastest - (bounds (cell.shift 1 axis)).slowest) *
        observable.value ((Primitive.read (w cell)).toConserved thermo) := by
  intro bounds
  have readable := Observable.readable_of_stored gas.fluid fluxes_stored observed
  have stored : ∀ face, observable.value (.read (Fluxes.solvedFluxes setting w axis f face)) =
      observable.value (setting.faceFlux w axis face).flux :=
    fun face => Observable.value_read_writeTo readable _ _
  have taken := value_faces_le (fun face => gas.faceFlux_budget active) inside observed
    (stored cell) (stored (cell.shift 1 axis))
  rwa [← sub_eq_add_neg] at taken

end GasStage

end Budgets

end BlockHydro
