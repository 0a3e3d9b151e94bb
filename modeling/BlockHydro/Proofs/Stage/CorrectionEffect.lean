import BlockHydro.Proofs.Stage.CorrectionPass

/-!
# The effect of a correction pass

`CorrectionEffect` says what a correction pass leaves behind in terms of the
patches and fluxes it was given: which cells and guard zones are flagged, which
stored fluxes are replaced and by what, and what is counted.  Nothing in it
depends on the flags and predictions of the pass before.

`StageInput` names the shapes of the data.  They are all that a pass asks for;
no relation between the values is assumed.
-/

namespace BlockHydro

variable {R : Type} [Scalar R] {setting : Setting R} {mesh : Mesh R} {numFields : Nat}

namespace FluxCorrection

/-- A correction for the cells of a mesh, whatever it holds. -/
structure Fits (correction : FluxCorrection R) (mesh : Mesh R) : Prop where
  trial : correction.trial.Spans mesh.interiorGrid 5
  interior : correction.flags.interior = mesh.interior
  grid : correction.flags.zones.grid = mesh.extendedGrid

omit [Scalar R] in
theorem fits_ofFn (trial : Zone → Vector R 5) (flag : Zone → Bool) :
    (ofFn mesh trial flag).Fits mesh :=
  ⟨Patch.spans_ofFn trial, rfl, rfl⟩

theorem fits_initial (mesh : Mesh R) : (initial mesh).Fits mesh :=
  ⟨⟨rfl, rfl⟩, rfl, rfl⟩

theorem Fits.exists_eq_ofFn {correction : FluxCorrection R} (fits : correction.Fits mesh) :
    ∃ trial flag, correction = ofFn mesh trial flag := by
  obtain ⟨predictions, flags⟩ := correction
  obtain ⟨shape, sameInterior, sameGrid⟩ := fits
  obtain ⟨trial, tabulated⟩ := shape.exists_eq_ofFn
  obtain ⟨flag, flagged⟩ := flags.zones.exists_eq_ofFn false
  dsimp only at tabulated sameInterior sameGrid
  rw [sameGrid] at flagged
  have sameFlags : flags = .ofFn mesh flag := CorrectionFlags.ext sameInterior flagged
  refine ⟨trial, flag, ?_⟩
  rw [tabulated, sameFlags]
  rfl

end FluxCorrection

/-- A stored flux value. -/
def Fluxes.value? (fluxes : Fluxes R) (axis : Axis) (face : Zone) (field : Nat) : Option R := do
  let patch ← fluxes.along axis
  (patch.get face field).toOption

omit [Scalar R] in
theorem Fluxes.value?_ofFn (f : Axis → Zone → Vector R numFields) {axis : Axis}
    (active : mesh.isActive axis = true) {face : Zone} (inside : face ∈ mesh.faceGrid axis)
    {field : Nat} (stored : field < numFields) :
    (ofFn mesh numFields f).value? axis face field = some ((f axis face)[field]) := by
  unfold value?
  rw [along_ofFn active]
  exact congrArg Except.toOption (Patch.get_ofFn (f axis) inside stored)

/-- The state that the stage would leave in a cell with the stored fluxes. -/
def Mesh.stageUpdate (mesh : Mesh R) (stage : StageWeights R) (dt : R) (current start : Patch R)
    (fluxes : Fluxes R) (cell : Zone) : Except Fault (Conserved R) := do
  let difference ← mesh.fluxDifference fluxes (stage.rate * dt) cell
  let now ← current.fields cell
  let first ← start.fields cell
  Conserved.ofFields (← stage.blend now first difference)

/-- The low-order flux between the stored states of the two cells of a face. -/
def Setting.lowOrderFluxAt (setting : Setting R) (primitive : Patch R) (axis : Axis) (face : Zone) :
    Except Fault (Conserved R) := do
  let left ← Primitive.ofFields (← primitive.fields (face.shift (-1) axis))
  let right ← Primitive.ofFields (← primitive.fields face)
  let metric ← MetricField.faceMetric setting.metric axis face
  return setting.eos.lowOrderFlux axis metric left right

/-- Data of a stage: states with as many fields as the gas is stored in, and fluxes of that width. -/
structure StageInput (setting : Setting R) (numFields : Nat) (current start primitive : Patch R)
    (fluxes : Fluxes R) (correction : FluxCorrection R) : Prop where
  covered : setting.Covered
  stored : setting.eos.StoredIn numFields
  current_spans : current.Spans setting.mesh.extendedGrid numFields
  start_spans : start.Spans setting.mesh.extendedGrid numFields
  primitive_spans : primitive.Spans setting.mesh.extendedGrid numFields
  fluxes_span : fluxes.Spans setting.mesh numFields
  correction_fits : correction.Fits setting.mesh

/-- What a correction pass leaves behind. -/
structure CorrectionEffect (setting : Setting R) (numFields : Nat) (stage : StageWeights R) (dt : R)
    (current start primitive : Patch R) (fluxes : Fluxes R) (source : GuardSource)
    (after : FluxCorrection R) (repaired : Fluxes R) (report : CorrectionReport) : Prop where
  fits : after.Fits setting.mesh
  spans : repaired.Spans setting.mesh numFields
  /-- An interior cell is flagged if its update, with the fluxes before repair, has no primitive
  state. -/
  tested : ∀ cell ∈ setting.mesh.interiorGrid, ∃ state metric,
    setting.mesh.stageUpdate stage dt current start fluxes cell = .ok state ∧
      MetricField.cellMetric setting.metric cell = .ok metric ∧
      (after.flags.get cell = true ↔
        ∃ cause, setting.eos.recover .diagnostic metric state = .error cause)
  /-- A guard zone is flagged if it stands for a flagged interior cell. -/
  mirrored : ∀ zone ∈ setting.mesh.extendedGrid, zone.index ∉ setting.mesh.interior →
    (after.flags.get zone = true ↔
      ∃ origin ∈ setting.mesh.interiorGrid, source zone = some origin ∧ after.flags.get origin = true)
  /-- The faces next to flagged zones have the low-order flux. -/
  replaced : ∀ axis, setting.mesh.isActive axis = true → ∀ face ∈ setting.mesh.faceGrid axis,
    touches after.flags.get axis face = true →
      ∃ flux, setting.lowOrderFluxAt primitive axis face = .ok flux ∧
        ∀ field : Fin 5, field < numFields →
          repaired.value? axis face field = some flux.toFields[field]
  /-- The other faces keep the flux they had. -/
  kept : ∀ axis, setting.mesh.isActive axis = true → ∀ face ∈ setting.mesh.faceGrid axis,
    touches after.flags.get axis face = false →
      ∀ field < numFields, ∃ value,
        fluxes.value? axis face field = some value ∧ repaired.value? axis face field = some value
  flaggedCells : report.flaggedCells = setting.mesh.interiorGrid.zones.countP after.flags.get
  correctedFaces : report.correctedFaces = (setting.mesh.activeAxes.map fun axis =>
    (setting.mesh.faceGrid axis).zones.countP (touches after.flags.get axis)).sum

section Tables

variable {w : Zone → Vector R numFields}

theorem Mesh.stageUpdate_eq_ok {stage : StageWeights R} {dt : R} (current start : Patch R)
    {fluxes : Fluxes R} {cell : Zone} {now : Vector R current.numFields}
    {first : Vector R start.numFields} {difference : Vector R 5}
    {blended : Vector R current.numFields} (enough : 4 ≤ current.numFields)
    (divergence : mesh.fluxDifference fluxes (stage.rate * dt) cell = .ok difference)
    (nowFound : current.fields cell = .ok now) (firstFound : start.fields cell = .ok first)
    (blends : stage.blend now first difference = .ok blended) :
    mesh.stageUpdate stage dt current start fluxes cell = .ok (.read blended) := by
  unfold stageUpdate
  rw [divergence, nowFound, firstFound]
  dsimp only [bind, Except.bind]
  rw [blends]
  exact Conserved.ofFields_eq_ok enough blended

theorem Mesh.stageUpdate_ofFn (enough : 4 ≤ numFields) (small : numFields ≤ 5)
    (stage : StageWeights R) (dt : R) (current start : Zone → Vector R numFields)
    (f : Axis → Zone → Vector R numFields) {cell : Zone} (inside : cell ∈ mesh.interiorGrid) :
    mesh.stageUpdate stage dt (.ofFn mesh.extendedGrid numFields current)
        (.ofFn mesh.extendedGrid numFields start) (.ofFn mesh numFields f) cell =
      .ok (.read (stage.combine small (current cell) (start cell)
        (mesh.divergence f (stage.rate * dt) cell))) := by
  have extended := extendedGrid_of_interiorGrid inside
  exact stageUpdate_eq_ok (.ofFn mesh.extendedGrid numFields current)
    (.ofFn mesh.extendedGrid numFields start) enough (fluxDifference_ofFn small f _ inside)
    (Patch.fields_ofFn current extended) (Patch.fields_ofFn start extended)
    (stage.blend_eq_ok small _ _ _)

theorem Setting.lowOrderFluxAt_eq_ok (primitive : Patch R) {axis : Axis} {face : Zone}
    {metric : Metric R} {left right : Vector R primitive.numFields}
    (enough : 4 ≤ primitive.numFields)
    (leftFound : primitive.fields (face.shift (-1) axis) = .ok left)
    (rightFound : primitive.fields face = .ok right)
    (metricFound : MetricField.faceMetric setting.metric axis face = .ok metric) :
    setting.lowOrderFluxAt primitive axis face =
      .ok (setting.eos.lowOrderFlux axis metric (.read left) (.read right)) := by
  unfold lowOrderFluxAt
  rw [leftFound, rightFound, metricFound]
  dsimp only [bind, Except.bind]
  rw [Primitive.ofFields_eq_ok enough, Primitive.ofFields_eq_ok enough]
  rfl

theorem Setting.lowOrderFluxAt_ofFn (covered : setting.Covered) (enough : 4 ≤ numFields)
    (w : Zone → Vector R numFields) {axis : Axis} (active : setting.mesh.isActive axis = true)
    {face : Zone} (inside : face ∈ setting.mesh.faceGrid axis) :
    setting.lowOrderFluxAt (.ofFn setting.mesh.extendedGrid numFields w) axis face =
      .ok (setting.lowFlux w axis face) := by
  have lower := Mesh.lowerCell_mem active inside
  have upper := Mesh.upperCell_mem active inside
  exact lowOrderFluxAt_eq_ok (.ofFn setting.mesh.extendedGrid numFields w) enough
    (Patch.fields_ofFn w lower) (Patch.fields_ofFn w upper) (faceMetric_eq_ok covered lower upper)

/-- A cell is bad exactly when the blend of its stored fields has no primitive state. -/
theorem FluxCorrection.bad_predicted (stored : setting.eos.StoredIn numFields)
    (small : numFields ≤ 5) (room : min 5 numFields ≤ numFields) (stage : StageWeights R) (dt : R)
    (current start : Zone → Vector R numFields) (f : Axis → Zone → Vector R numFields)
    (trial : Zone → Vector R 5) (cell : Zone) :
    bad setting (setting.mesh.predicted stage dt room current start f trial) cell =
      setting.eos.rejects (setting.cellGeometry cell) (.read (stage.combine small (current cell)
        (start cell) (setting.mesh.divergence f (stage.rate * dt) cell))) := by
  rw [bad, Mesh.predicted, stage.forecast_eq_overwrite small room]
  exact EquationOfState.rejects_overwrite stored _ _

end Tables

/-- A correction pass over data of the right shapes completes, with the effect that is named. -/
theorem FluxCorrection.apply_effect {current start primitive : Patch R} {fluxes : Fluxes R}
    {correction : FluxCorrection R}
    (input : StageInput setting numFields current start primitive fluxes correction)
    (stage : StageWeights R) (dt : R) (source : GuardSource) :
    ∃ after repaired report,
      correction.apply setting stage dt current start primitive fluxes source =
        .ok (after, repaired, report) ∧
      CorrectionEffect setting numFields stage dt current start primitive fluxes source after
        repaired report := by
  have enough := input.stored.four_le
  have small := input.stored.le_five
  have room : min 5 numFields ≤ numFields := Nat.min_le_right 5 numFields
  obtain ⟨now, rfl⟩ := input.current_spans.exists_eq_ofFn
  obtain ⟨first, rfl⟩ := input.start_spans.exists_eq_ofFn
  obtain ⟨w, rfl⟩ := input.primitive_spans.exists_eq_ofFn
  obtain ⟨f, rfl⟩ := input.fluxes_span.exists_eq_ofFn
  obtain ⟨trial, flag, rfl⟩ := input.correction_fits.exists_eq_ofFn
  refine ⟨_, _, _, apply_ofFn input.covered enough (by omega) small room stage dt now first w f
    source trial flag, ?_⟩
  generalize predictedFields : setting.mesh.predicted stage dt room now first f trial = predicted
  have get : ∀ zone ∈ setting.mesh.extendedGrid, (ofFn setting.mesh predicted
        (CorrectionFlags.mirrored setting.mesh source (bad setting predicted))).flags.get zone =
      CorrectionFlags.mirrored setting.mesh source (bad setting predicted) zone :=
    fun _ => CorrectionFlags.get_ofFn _
  have getCell : ∀ cell ∈ setting.mesh.interiorGrid, (ofFn setting.mesh predicted
        (CorrectionFlags.mirrored setting.mesh source (bad setting predicted))).flags.get cell =
      bad setting predicted cell := by
    intro cell inside
    rw [get cell (Mesh.extendedGrid_of_interiorGrid inside), CorrectionFlags.mirrored_of_mem inside.2]
  constructor
  case fits => exact fits_ofFn _ _
  case spans => exact Fluxes.spans_ofFn _
  case tested =>
    intro cell inside
    refine ⟨_, _, Mesh.stageUpdate_ofFn enough small stage dt now first f inside,
      Setting.cellMetric_eq_ok input.covered (Mesh.extendedGrid_of_interiorGrid inside), ?_⟩
    rw [getCell cell inside, ← predictedFields, bad_predicted input.stored small]
    exact EquationOfState.rejects_iff
  case mirrored =>
    intro zone inside guard
    rw [get zone inside, CorrectionFlags.mirrored_guard_iff guard]
    refine exists_congr fun origin => and_congr_right fun known => ?_
    rw [get origin (Mesh.extendedGrid_of_interiorGrid known)]
  case replaced =>
    intro axis active face inside touched
    refine ⟨_, Setting.lowOrderFluxAt_ofFn input.covered enough w active inside, ?_⟩
    intro field stored
    rw [touches_congr get active inside] at touched
    rw [Fluxes.value?_ofFn _ active inside stored, Setting.repairedFlux, if_pos touched]
    exact congrArg some (getElem_overwrite _ _ stored field.isLt)
  case kept =>
    intro axis active face inside untouched field stored
    rw [touches_congr get active inside] at untouched
    refine ⟨_, Fluxes.value?_ofFn f active inside stored, ?_⟩
    rw [Fluxes.value?_ofFn _ active inside stored,
      Setting.repairedFlux_of_untouched w (f axis) untouched]
  case flaggedCells =>
    apply List.countP_congr
    intro cell inside
    rw [getCell cell (Grid.mem_zones.mp inside)]
  case correctedFaces => exact (Mesh.touchedFaces_congr get).symm

/-- A row of two blocks of two cells. -/
def blockPair : Mesh Float where
  interior := ⟨⟨0, 0, 0⟩, ⟨2, 1, 1⟩, by decide⟩
  guardDepth := 1
  spacing := #[⟨1, 1, 1⟩, ⟨1, 1, 1⟩]
  lower_eq_zero := rfl
  guardDepth_pos := by decide
  spacing_nonempty := by decide

/-- An isothermal gas in the row, in flat space. -/
def isothermalPair : Setting Float :=
  ⟨blockPair, ⟨.newtonian (.isothermal 1), .standard, .standard⟩, none⟩

/-- The place of a zone in the row. -/
def rowPosition (zone : Zone) : Int := 2 * zone.block + zone.index.i

/-- Gas at rest in four fields, with a negative density in one place of the row. -/
def puncturedRow (position : Int) : Vector Float 4 :=
  if position = 1 then #v[-1, 0, 0, 0] else #v[1, 0, 0, 0]

/-- The states of the row: the negative density is in the last cell of the first block. -/
def puncturedPair : Patch Float :=
  .ofFn blockPair.extendedGrid 4 (puncturedRow ∘ rowPosition)

theorem punctured_input : StageInput isothermalPair 4 puncturedPair puncturedPair puncturedPair
    (.zeros blockPair 4) (.initial blockPair) where
  covered _ given := by cases given
  stored := .inr ⟨rfl, rfl⟩
  current_spans := ⟨rfl, rfl⟩
  start_spans := ⟨rfl, rfl⟩
  primitive_spans := ⟨rfl, rfl⟩
  fluxes_span := Fluxes.spans_zeros blockPair 4
  correction_fits := FluxCorrection.fits_initial blockPair

/-- The negative density is found, and three stored faces are next to it. -/
theorem punctured_counted :
    (FluxCorrection.apply (.initial blockPair) isothermalPair ⟨0, 1, 1⟩ 0 puncturedPair puncturedPair
      puncturedPair (.zeros blockPair 4) (blockPair.chained .i)).map (·.2.2) = .ok ⟨1, 3⟩ := by
  decide +kernel

/-- The face that the negative density shares with the second block is replaced in both blocks. -/
theorem FluxCorrection.apply_punctured : ∃ after repaired,
    apply (.initial blockPair) isothermalPair ⟨0, 1, 1⟩ 0 puncturedPair puncturedPair puncturedPair
        (.zeros blockPair 4) (blockPair.chained .i) = .ok (after, repaired, ⟨1, 3⟩) ∧
      CorrectionEffect isothermalPair 4 ⟨0, 1, 1⟩ 0 puncturedPair puncturedPair puncturedPair
        (.zeros blockPair 4) (blockPair.chained .i) after repaired ⟨1, 3⟩ := by
  obtain ⟨after, repaired, report, applied, effect⟩ :=
    apply_effect punctured_input ⟨0, 1, 1⟩ 0 (blockPair.chained .i)
  have counted := punctured_counted
  rw [applied] at counted
  cases counted
  exact ⟨after, repaired, applied, effect⟩

end BlockHydro
