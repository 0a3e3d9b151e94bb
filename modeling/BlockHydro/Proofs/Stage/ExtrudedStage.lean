import BlockHydro.Proofs.Space.Extrusion
import BlockHydro.Proofs.Stage.StageData

/-!
# A stage over blocks that repeat a line of zones

Blocks that repeat a line of zones along the second axis may hold data that do so
too.  One lemma per pass says that what the pass leaves then repeats what it
leaves on the line, and `StageData.runActive_repeats` puts them together.

The line has no faces normal to the second axis, and in the blocks the fluxes
through them need not be zero.  They are the same on both sides of a cell, though,
before the repair and after it: a guard zone beside the interior is never flagged,
so both faces are replaced if the cell is flagged, and otherwise neither.  In
exact arithmetic nothing is left of their difference.
-/

namespace BlockHydro

section Data

variable {R : Type}

/-- A patch that repeats the fields of a line of zones. -/
structure Patch.Extrudes (patch line : Patch R) : Prop where
  numFields : line.numFields = patch.numFields
  get : ∀ zone ∈ patch.grid, ∀ field < patch.numFields,
    patch.get zone field = line.get zone.onLine field

/-- A metric field that repeats the metrics of a line of zones. -/
def MetricField.Extrudes (field line : MetricField R) : Prop :=
  ∀ zone ∈ field.cells.grid, field.cells.get? zone = line.cells.get? zone.onLine

/-- A setting that repeats that of a line of zones, for the same gas. -/
structure Setting.Extrudes [Scalar R] (setting line : Setting R) : Prop where
  mesh : setting.mesh.Extrudes line.mesh
  eos : setting.eos = line.eos
  metric : Option.Rel MetricField.Extrudes setting.metric line.metric

/-- Values in the zones of a grid that repeat those of a line of zones. -/
def Repeats {α : Type} (grid : Grid) (w v : Zone → α) : Prop :=
  ∀ zone ∈ grid, w zone = v zone.onLine

theorem Patch.extrudes_ofFn {grid lineGrid : Grid} {numFields : Nat}
    {w v : Zone → Vector R numFields} (lies : ∀ zone ∈ grid, zone.onLine ∈ lineGrid) :
    (Patch.ofFn grid numFields w).Extrudes (.ofFn lineGrid numFields v) ↔ Repeats grid w v := by
  have read : ∀ zone ∈ grid, ∀ field (stored : field < numFields),
      (Patch.ofFn grid numFields w).get zone field =
          (Patch.ofFn lineGrid numFields v).get zone.onLine field ↔
        (w zone)[field] = (v zone.onLine)[field] := by
    intro zone inside field stored
    rw [get_ofFn w inside stored, get_ofFn v (lies zone inside) stored, Except.ok.injEq]
  constructor
  · intro extrudes zone inside
    ext field stored
    exact (read zone inside field stored).mp (extrudes.get zone inside field stored)
  · intro repeats
    refine ⟨rfl, fun zone inside field stored => (read zone inside field stored).mpr ?_⟩
    rw [repeats zone inside]

end Data

section Fluxes

variable {R : Type} [Scalar R] {setting line : Setting R} {stateFields numFields : Nat}
  {w v : Zone → Vector R stateFields} {zone cell face : Zone}

/-- Fluxes that along the first axis repeat those of the line, and along the second are the same on
both sides of a cell. -/
structure FacesRepeat (mesh : Mesh R) (f g : Axis → Zone → Vector R numFields) : Prop where
  along : Repeats (mesh.faceGrid .i) (f .i) (g .i)
  across : ∀ cell ∈ mesh.interiorGrid, f .j (cell.shift 1 .j) = f .j cell

namespace Setting.Extrudes

variable (extrudes : setting.Extrudes line) (covered : setting.Covered)

include extrudes covered

/-- A zone has the metric of the zone of the line. -/
theorem cellGeometry (inside : zone ∈ setting.mesh.extendedGrid) :
    setting.cellGeometry zone = line.cellGeometry zone.onLine := by
  have same := extrudes.metric
  unfold Setting.cellGeometry
  generalize given : setting.metric = metric at same
  generalize line.metric = lineMetric at same
  cases same with
  | none => rfl
  | some same =>
    dsimp only
    rw [same zone (covered _ given zone inside)]

variable (states : Repeats setting.mesh.extendedGrid w v)

include states

/-- A face of the first axis lies between what the face of the line lies between. -/
theorem sides_along (inside : face ∈ setting.mesh.faceGrid .i) :
    SameSides setting line w v .i face face.onLine := by
  have active : setting.mesh.isActive .i = true := rfl
  have below := Mesh.lowerCell_mem active inside
  have above := Mesh.upperCell_mem active inside
  refine ⟨extrudes.eos, ?_, states _ below, states _ above⟩
  have lower := extrudes.cellGeometry covered below
  have upper := extrudes.cellGeometry covered above
  have same := extrudes.metric
  unfold Setting.faceGeometry
  rw [lower, upper]
  generalize setting.metric = metric at same
  generalize line.metric = lineMetric at same
  cases same <;> rfl

/-- Both faces of a cell normal to the second axis lie between zones of the same kind. -/
theorem sides_across (inside : cell ∈ setting.mesh.interiorGrid) :
    SameSides setting setting w w .j (cell.shift 1 .j) cell := by
  have active := extrudes.mesh.isActive_j
  have first := Mesh.lowerFace_mem .j inside
  have second := Mesh.upperFace_mem .j inside
  -- All four zones lie over the zone of the line that the cell lies over.
  have below : (cell.shift 1 .j).shift (-1) .j ∈ setting.mesh.extendedGrid ∧
      cell.shift (-1) .j ∈ setting.mesh.extendedGrid :=
    ⟨Mesh.lowerCell_mem active second, Mesh.lowerCell_mem active first⟩
  have above : cell.shift 1 .j ∈ setting.mesh.extendedGrid ∧ cell ∈ setting.mesh.extendedGrid :=
    ⟨Mesh.upperCell_mem active second, Mesh.upperCell_mem active first⟩
  have metric := fun zone (known : zone ∈ setting.mesh.extendedGrid) =>
    extrudes.cellGeometry covered known
  constructor
  case eos => rfl
  case geometry =>
    unfold Setting.faceGeometry
    rw [metric _ below.1, metric _ below.2, metric _ above.1, metric _ above.2]
    rfl
  case below => exact (states _ below.1).trans (states _ below.2).symm
  case above => exact (states _ above.1).trans (states _ above.2).symm

/-- The flux pass stores fluxes that repeat those of the line, whatever was stored before. -/
theorem solvedFluxes (small : numFields ≤ 5) (f g : Axis → Zone → Vector R numFields) :
    FacesRepeat setting.mesh (fun axis => Fluxes.solvedFluxes setting w axis (f axis))
      fun axis => Fluxes.solvedFluxes line v axis (g axis) where
  along _ inside := (extrudes.sides_along covered states inside).solvedFluxes small _ _
  across _ inside := (extrudes.sides_across covered states inside).solvedFluxes small _ _

end Setting.Extrudes

end Fluxes

section Flags

variable {R : Type} [Scalar R] {mesh line : Mesh R} {bad lineBad : Zone → Bool}
  {zone cell face : Zone}

omit [Scalar R] in
/-- A guard zone beside the interior is not flagged. -/
theorem Mesh.mirrored_of_beside (beside : ¬ mesh.Abreast zone) :
    CorrectionFlags.mirrored mesh (mesh.chained .i) bad zone = false := by
  have guard : zone.index ∉ mesh.interior := fun inside => beside (abreast_of_mem inside)
  rw [CorrectionFlags.mirrored, if_neg guard, chained_of_beside beside]

namespace Mesh.Extrudes

variable (extrudes : mesh.Extrudes line) (same : Repeats mesh.interiorGrid bad lineBad)

include extrudes same

/-- Abreast of the interior the flags repeat those of the line, in guard zones too. -/
theorem mirrored (abreast : mesh.Abreast zone) (inside : zone ∈ mesh.extendedGrid) :
    CorrectionFlags.mirrored mesh (mesh.chained .i) bad zone =
      CorrectionFlags.mirrored line (line.chained .i) lineBad zone.onLine := by
  unfold CorrectionFlags.mirrored
  by_cases interior : zone.index ∈ mesh.interior
  · rw [if_pos interior, if_pos ((extrudes.onLine_mem_interior abreast).mpr interior),
      same zone ⟨inside.1, interior⟩]
  · rw [if_neg interior, if_neg ((extrudes.onLine_mem_interior abreast).not.mpr interior),
      extrudes.chained_onLine abreast]
    cases given : mesh.chained .i zone with
    | none => rfl
    | some origin =>
      have known := mem_of_chained given
      simp only [Option.map_some, known, extrudes.cell_mem known, same origin known]

/-- Faces of the first axis are next to flagged zones where the faces of the line are. -/
theorem touches_along (inside : face ∈ mesh.faceGrid .i) :
    touches (CorrectionFlags.mirrored mesh (mesh.chained .i) bad) .i face =
      touches (CorrectionFlags.mirrored line (line.chained .i) lineBad) .i face.onLine := by
  have active : mesh.isActive .i = true := rfl
  obtain ⟨below, above⟩ := face_abreast inside
  rw [touches, extrudes.mirrored same below (lowerCell_mem active inside),
    extrudes.mirrored same above (upperCell_mem active inside), touches]
  rfl

/-- A zone beside a cell along the second axis is flagged only if the cell is. -/
theorem mirrored_beside_cell (inside : cell ∈ mesh.interiorGrid) (known : zone ∈ mesh.extendedGrid)
    (beside : zone.onLine = cell.onLine)
    (flagged : CorrectionFlags.mirrored mesh (mesh.chained .i) bad zone = true) :
    CorrectionFlags.mirrored mesh (mesh.chained .i) bad cell = true := by
  by_cases abreast : mesh.Abreast zone
  · rwa [extrudes.mirrored same abreast known, beside,
      ← extrudes.mirrored same (abreast_of_mem inside.2) (extendedGrid_of_interiorGrid inside)]
      at flagged
  · rw [mirrored_of_beside abreast] at flagged
    cases flagged

/-- Both faces of a cell normal to the second axis are next to flagged zones if the cell is flagged,
and only then. -/
theorem touches_across (inside : cell ∈ mesh.interiorGrid) :
    touches (CorrectionFlags.mirrored mesh (mesh.chained .i) bad) .j (cell.shift 1 .j) =
      touches (CorrectionFlags.mirrored mesh (mesh.chained .i) bad) .j cell := by
  have active := extrudes.isActive_j
  have first := lowerCell_mem active (lowerFace_mem .j inside)
  have last := upperCell_mem active (upperFace_mem .j inside)
  have before := extrudes.mirrored_beside_cell same inside first rfl
  have after := extrudes.mirrored_beside_cell same inside last rfl
  unfold touches
  rw [cell.shift_back, Bool.eq_iff_iff, Bool.or_eq_true, Bool.or_eq_true]
  tauto

end Mesh.Extrudes

end Flags

section Repair

variable {R : Type} [Scalar R] {setting line : Setting R} {stateFields numFields : Nat}
  {w v : Zone → Vector R stateFields} {bad lineBad : Zone → Bool}
  {f g : Axis → Zone → Vector R numFields}

/-- The repaired fluxes repeat those of the line, if the fluxes before and the bad cells do. -/
theorem Setting.Extrudes.repairedFlux (extrudes : setting.Extrudes line)
    (covered : setting.Covered) (states : Repeats setting.mesh.extendedGrid w v)
    (same : Repeats setting.mesh.interiorGrid bad lineBad) (before : FacesRepeat setting.mesh f g) :
    FacesRepeat setting.mesh
      (fun axis => setting.repairedFlux w
        (CorrectionFlags.mirrored setting.mesh (setting.mesh.chained .i) bad) axis (f axis))
      fun axis => line.repairedFlux v
        (CorrectionFlags.mirrored line.mesh (line.mesh.chained .i) lineBad) axis (g axis) where
  along face inside := (extrudes.sides_along covered states inside).repairedFlux
    (extrudes.mesh.touches_along same inside) (before.along face inside)
  across cell inside := (extrudes.sides_across covered states inside).repairedFlux
    (extrudes.mesh.touches_across same inside) (before.across cell inside)

end Repair

section Update

variable {numFields startFields fluxFields : Nat} {cell : Zone}

/-- Two opposite faces with the same flux add nothing to the divergence. -/
theorem Mesh.addDivergence_self (total : Vector ℝ 5) (ratio : ℝ) (flux : Vector ℝ fluxFields) :
    addDivergence total ratio flux flux = total := by
  ext field small
  rw [getElem_addDivergence _ _ _ _ small, sub_self, mul_zero, add_zero]

namespace Mesh.Extrudes

variable {mesh line : Mesh ℝ} {f g : Axis → Zone → Vector ℝ fluxFields}
  (extrudes : mesh.Extrudes line) (faces : FacesRepeat mesh f g)

include extrudes faces

/-- The divergence over a cell is that over the cell of the line: along the second axis as much flows
in as out. -/
theorem divergence (scaledStep : ℝ) (inside : cell ∈ mesh.interiorGrid) :
    mesh.divergence f scaledStep cell = line.divergence g scaledStep cell.onLine := by
  have lower := faces.along cell (lowerFace_mem .i inside)
  have upper := faces.along (cell.shift 1 .i) (upperFace_mem .i inside)
  unfold Mesh.divergence
  rw [extrudes.activeAxes, extrudes.line_activeAxes]
  simp only [List.foldl_cons, List.foldl_nil]
  rw [faces.across cell inside, addDivergence_self, extrudes.spacing, lower, upper]
  rfl

variable {now lineNow : Zone → Vector ℝ numFields} {first lineFirst : Zone → Vector ℝ startFields}
  (current : Repeats mesh.extendedGrid now lineNow)
  (start : Repeats mesh.extendedGrid first lineFirst)

include current start

/-- A predicted field is that of the line, if it is written or was the same before. -/
theorem getElem_predicted (stage : StageWeights ℝ) (dt : ℝ) (room : min 5 numFields ≤ startFields)
    (trial lineTrial : Zone → Vector ℝ 5) (inside : cell ∈ mesh.interiorGrid) {field : Nat}
    (small : field < 5)
    (same : field < numFields ∨ (trial cell)[field] = (lineTrial cell.onLine)[field]) :
    (mesh.predicted stage dt room now first f trial cell)[field] =
      (line.predicted stage dt room lineNow lineFirst g lineTrial cell.onLine)[field] := by
  have extended := extendedGrid_of_interiorGrid inside
  unfold Mesh.predicted
  rw [extrudes.divergence faces _ inside, current cell extended, start cell extended]
  by_cases stored : field < numFields
  · simp [StageWeights.forecast, stored]
  · simpa [StageWeights.forecast, stored] using same

/-- The state that a stage leaves repeats that of the line. -/
theorem stepped (stage : StageWeights ℝ) (dt : ℝ) :
    Repeats mesh.interiorGrid (mesh.stepped stage dt now first f)
      (line.stepped stage dt lineNow lineFirst g) := by
  intro cell inside
  have extended := extendedGrid_of_interiorGrid inside
  have here : cell.index ∈ mesh.interior := inside.2
  have there : cell.onLine.index ∈ line.interior := (extrudes.cell_mem inside).2
  unfold Mesh.stepped
  rw [if_pos here, if_pos there, extrudes.divergence faces _ inside, current cell extended,
    start cell extended]

end Mesh.Extrudes

/-- A predicted cell is refused exactly when the cell of the line is, if the gas looks at no field
that differed before. -/
theorem Setting.Extrudes.bad_predicted {setting line : Setting ℝ} (extrudes : setting.Extrudes line)
    (covered : setting.Covered) {f g : Axis → Zone → Vector ℝ fluxFields}
    (faces : FacesRepeat setting.mesh f g) {now lineNow : Zone → Vector ℝ numFields}
    {first lineFirst : Zone → Vector ℝ startFields}
    (current : Repeats setting.mesh.extendedGrid now lineNow)
    (start : Repeats setting.mesh.extendedGrid first lineFirst) (stage : StageWeights ℝ) (dt : ℝ)
    (someState : numFields ≠ 0) (room : min 5 numFields ≤ startFields)
    {trial lineTrial : Zone → Vector ℝ 5}
    (unwritten : setting.eos.isAdiabatic = true → ∀ cell ∈ setting.mesh.interiorGrid,
      ∀ field (small : field < 5), numFields ≤ field →
        (trial cell)[field] = (lineTrial cell.onLine)[field]) :
    Repeats setting.mesh.interiorGrid
      (FluxCorrection.bad setting (setting.mesh.predicted stage dt room now first f trial))
      (FluxCorrection.bad line (line.mesh.predicted stage dt room lineNow lineFirst g lineTrial)) := by
  intro cell inside
  have predicted := fun field (small : field < 5) =>
    extrudes.mesh.getElem_predicted faces current start stage dt room trial lineTrial inside small
  unfold FluxCorrection.bad
  rw [extrudes.cellGeometry covered (Mesh.extendedGrid_of_interiorGrid inside), ← extrudes.eos]
  by_cases adiabatic : setting.eos.isAdiabatic = true
  · have same : setting.mesh.predicted stage dt room now first f trial cell =
        line.mesh.predicted stage dt room lineNow lineFirst g lineTrial cell.onLine := by
      ext field small
      refine predicted field small ?_
      by_cases stored : field < numFields
      · exact .inl stored
      · exact .inr (unwritten adiabatic cell inside field small (Nat.le_of_not_lt stored))
    rw [same]
  · -- An isothermal gas is refused for its density, which every prediction writes.
    have density := predicted 0 (by decide) (.inl (Nat.pos_of_ne_zero someState))
    apply EquationOfState.rejects_of_isothermal (Bool.eq_false_iff.mpr adiabatic)
    simpa [Conserved.read] using density

end Update

/-- Results of two stages, the one over blocks that repeat the line of zones of the other. -/
structure StageResult.Extrudes {R : Type} (result line : StageResult R) (mesh : Mesh R) : Prop where
  flags : ∀ cell ∈ mesh.interiorGrid,
    result.correction.flags.get cell = line.correction.flags.get cell.onLine
  numFields : result.advanced.numFields = line.advanced.numFields
  advanced : ∀ cell ∈ mesh.interiorGrid, ∀ field < result.advanced.numFields, ∃ value,
    result.advanced.get cell field = .ok value ∧ line.advanced.get cell.onLine field = .ok value
  flaggedCells : result.report.flaggedCells = mesh.interior.extent .j * line.report.flaggedCells

namespace StageData

/-- Data of a stage for which no pass lacks a field. -/
structure Complete {R : Type} [Scalar R] (data : StageData R) (fluxFields : Nat) : Prop where
  input : SolvableInput data.setting fluxFields data.current data.start data.primitive data.fluxes
    data.correction
  current_fields : data.current.numFields ≠ 0 ∧ data.current.numFields ≤ 5
  start_fields : data.current.numFields ≤ data.start.numFields

/-- Data of two stages with blocks chained along the first axis, the one over blocks that repeat the
line of zones of the other.  The room for the results may hold anything, except where the prediction
of a gas with energy leaves it alone. -/
structure Extrudes {R : Type} [Scalar R] (data line : StageData R) : Prop where
  setting : data.setting.Extrudes line.setting
  current : data.current.Extrudes line.current
  start : data.start.Extrudes line.start
  primitive : data.primitive.Extrudes line.primitive
  unwritten : data.setting.eos.isAdiabatic = true → ∀ cell ∈ data.setting.mesh.interiorGrid,
    ∀ field < 5, data.current.numFields ≤ field →
      data.correction.trial.get cell field = line.correction.trial.get cell.onLine field
  source : data.source = data.setting.mesh.chained .i
  line_source : line.source = line.setting.mesh.chained .i

/-- Tabulated data over blocks that repeat a line of zones hold tables that do. -/
theorem Extrudes.repeats {R : Type} [Scalar R] {setting lineSetting : Setting R}
    {currentFields startFields stateFields fluxFields : Nat}
    {now lineNow : Zone → Vector R currentFields} {first lineFirst : Zone → Vector R startFields}
    {w v : Zone → Vector R stateFields} {f g : Axis → Zone → Vector R fluxFields}
    {trial lineTrial : Zone → Vector R 5} {flag lineFlag : Zone → Bool}
    {source lineSource : GuardSource}
    (extrudes : (ofFn setting now first w f trial flag source).Extrudes
      (ofFn lineSetting lineNow lineFirst v g lineTrial lineFlag lineSource)) :
    Repeats setting.mesh.extendedGrid now lineNow ∧
      Repeats setting.mesh.extendedGrid first lineFirst ∧ Repeats setting.mesh.extendedGrid w v ∧
      (setting.eos.isAdiabatic = true → ∀ cell ∈ setting.mesh.interiorGrid,
        ∀ field (small : field < 5), currentFields ≤ field →
          (trial cell)[field] = (lineTrial cell.onLine)[field]) := by
  have mesh : setting.mesh.Extrudes lineSetting.mesh := extrudes.setting.mesh
  have lies : ∀ zone ∈ setting.mesh.extendedGrid, zone.onLine ∈ lineSetting.mesh.extendedGrid :=
    fun _ inside => mesh.zone_mem inside
  refine ⟨(Patch.extrudes_ofFn lies).mp extrudes.current, (Patch.extrudes_ofFn lies).mp extrudes.start,
    (Patch.extrudes_ofFn lies).mp extrudes.primitive, ?_⟩
  intro adiabatic cell inside field small beyond
  have kept := extrudes.unwritten adiabatic cell inside field small beyond
  have here := Patch.get_ofFn trial inside small
  have there := Patch.get_ofFn lineTrial (mesh.cell_mem inside) small
  exact Except.ok.inj (here.symm.trans (kept.trans there))

/-- A problem in one dimension stays so on a mesh of two dimensions.  In exact arithmetic a stage over
blocks that repeat a line of zones leaves the same states and flags in every cell as in the cell of
the line, and flags as many times more cells as the blocks are zones wide. -/
theorem runActive_repeats {data line : StageData ℝ} {fluxFields : Nat}
    (complete : data.Complete fluxFields) (lineComplete : line.Complete fluxFields)
    (extrudes : data.Extrudes line) (stage : StageWeights ℝ) (dt : ℝ) :
    ∃ result lineResult, data.runActive stage dt = .ok result ∧
      line.runActive stage dt = .ok lineResult ∧ result.Extrudes lineResult data.setting.mesh := by
  obtain ⟨setting, lineSetting, currentFields, startFields, stateFields, now, lineNow, first,
    lineFirst, w, v, f, g, trial, lineTrial, flag, lineFlag, source, lineSource, rfl, rfl⟩ :=
    exists_eq_ofFn_both (stored_of_input complete.input) (stored_of_input lineComplete.input)
      extrudes.current.numFields extrudes.start.numFields extrudes.primitive.numFields
  have repeating : setting.Extrudes lineSetting := extrudes.setting
  have covered : setting.Covered := complete.input.covered
  obtain ⟨current, start, states, unwritten⟩ := extrudes.repeats
  obtain rfl : source = setting.mesh.chained .i := extrudes.source
  obtain rfl : lineSource = lineSetting.mesh.chained .i := extrudes.line_source
  have enough : 4 ≤ stateFields := complete.input.primitive_fields
  have small := complete.input.small
  have someState : currentFields ≠ 0 := complete.current_fields.1
  have room : currentFields ≤ startFields ∧ currentFields ≤ 5 :=
    ⟨complete.start_fields, complete.current_fields.2⟩
  have predictable : min 5 currentFields ≤ startFields := complete.input.start_fields
  refine ⟨_, _, runActive_ofFn covered enough complete.input.someField small someState room
    predictable stage dt now first w f trial flag _, runActive_ofFn lineComplete.input.covered enough
    complete.input.someField small someState room predictable stage dt lineNow lineFirst v g lineTrial
    lineFlag _, ?_⟩
  -- What each pass leaves, one after another.
  have solved := repeating.solvedFluxes covered states small f g
  have bad := repeating.bad_predicted covered solved current start stage dt someState predictable
    unwritten
  have repaired := repeating.repairedFlux covered states bad solved
  have stepped := repeating.mesh.stepped repaired current start stage dt
  constructor
  case flags =>
    intro cell inside
    have extended := Mesh.extendedGrid_of_interiorGrid inside
    have there := repeating.mesh.zone_mem extended
    have flagged := repeating.mesh.mirrored bad (Mesh.abreast_of_mem inside.2) extended
    exact (CorrectionFlags.get_ofFn _ extended).trans
      (flagged.trans (CorrectionFlags.get_ofFn _ there).symm)
  case numFields => rfl
  case advanced =>
    intro cell inside field known
    have extended := Mesh.extendedGrid_of_interiorGrid inside
    refine ⟨_, Patch.get_ofFn _ extended known, ?_⟩
    rw [stepped cell inside]
    exact Patch.get_ofFn _ (repeating.mesh.zone_mem extended) known
  case flaggedCells => exact repeating.mesh.countP_interiorGrid bad

section Shear

variable (R : Type) [Scalar R]

/-- Two blocks of five zones, whose zones are shorter in the second block. -/
def thread : Mesh R where
  interior := ⟨⟨0, 0, 0⟩, ⟨5, 1, 1⟩, by decide⟩
  guardDepth := 1
  spacing := #[⟨1, 1, 1⟩, ⟨0.5, 1, 1⟩]
  lower_eq_zero := rfl
  guardDepth_pos := Nat.one_pos
  spacing_nonempty := Nat.two_pos

/-- Blocks two zones wide that are otherwise those of the thread. -/
def ribbon : Mesh R where
  interior := ⟨⟨0, 0, 0⟩, ⟨5, 2, 1⟩, by decide⟩
  guardDepth := 1
  spacing := #[⟨1, 0.25, 1⟩, ⟨0.5, 0.5, 1⟩]
  lower_eq_zero := rfl
  guardDepth_pos := Nat.one_pos
  spacing_nonempty := Nat.two_pos

theorem ribbon_extrudes : (ribbon R).Extrudes (thread R) := by
  have built : Mesh.ofSpacings? ⟨5, 2, 1⟩ 1 (ribbon R).spacing = .ok (ribbon R) := rfl
  have lineBuilt : Mesh.ofSpacings? ⟨5, 1, 1⟩ 1 (thread R).spacing = .ok (thread R) := rfl
  have sameLengths : (ribbon R).spacing.map (·.i) = (thread R).spacing.map (·.i) := by
    simp [ribbon, thread]
  exact (Mesh.extrudes_of_built built lineBuilt (by decide) sameLengths).1

/-- Five fields of a gas that moves along the second axis, and along the first the faster the
farther. -/
def sheared (zone : Zone) : Vector R 5 :=
  (Primitive.mk 1 ⟨IntCast.intCast zone.index.i, 1, 0⟩ 1).toFields

/-- Flat space, in coordinates that are dragged along the first axis. -/
def draggedAlong (zone : Zone) : Metric R :=
  ⟨.identity, ⟨IntCast.intCast zone.index.i, 0, 0⟩, 1⟩

variable {R}

/-- A relativistic gas whose state and geometry depend on the place along the first axis only. -/
def shear (mesh : Mesh R) : StageData R where
  setting := ⟨mesh, ⟨.relativistic 1.4 1, .standard, .standard⟩,
    some ⟨.ofFn mesh.extendedGrid (draggedAlong R)⟩⟩
  current := .ofFn mesh.extendedGrid 5 (sheared R)
  start := .ofFn mesh.extendedGrid 5 (sheared R)
  primitive := .ofFn mesh.extendedGrid 5 (sheared R)
  fluxes := .zeros mesh 5
  correction := .initial mesh
  source := mesh.chained .i

theorem shear_complete (mesh : Mesh R) : (shear mesh).Complete 5 where
  input := by
    refine ⟨?_, rfl, rfl, rfl, Fluxes.spans_zeros _ 5, FluxCorrection.fits_initial _, ?_, ?_, ?_, ?_⟩
    · intro field given zone inside
      cases given
      exact inside
    · exact (by decide : 4 ≤ 5)
    · exact (by decide : min 5 5 ≤ 5)
    all_goals decide
  current_fields := (by decide : 5 ≠ 0 ∧ 5 ≤ 5)
  start_fields := Nat.le_refl 5

theorem shear_extrudes {mesh line : Mesh R} (extrudes : mesh.Extrudes line) :
    (shear mesh).Extrudes (shear line) := by
  have lies : ∀ zone ∈ mesh.extendedGrid, zone.onLine ∈ line.extendedGrid :=
    fun _ inside => extrudes.zone_mem inside
  have patch : (Patch.ofFn mesh.extendedGrid 5 (sheared R)).Extrudes
      (.ofFn line.extendedGrid 5 (sheared R)) :=
    (Patch.extrudes_ofFn lies).mpr fun _ _ => rfl
  refine ⟨⟨extrudes, rfl, .some fun zone inside => ?_⟩, patch, patch, patch, ?_, rfl, rfl⟩
  · have there : (ZoneArray.ofFn line.extendedGrid (draggedAlong R)).get? zone.onLine =
        some (draggedAlong R zone.onLine) := ZoneArray.get?_ofFn _ (lies zone inside)
    exact (ZoneArray.get?_ofFn (draggedAlong R) inside).trans there.symm
  · intro _ cell _ field small beyond
    exact absurd small (Nat.not_lt.mpr beyond)

/-- The sheared gas fills both rows of the ribbon as it fills the thread. -/
theorem runActive_repeats_shear : ∃ result lineResult,
    (shear (ribbon ℝ)).runActive ⟨0, 1, 1⟩ 1 = .ok result ∧
      (shear (thread ℝ)).runActive ⟨0, 1, 1⟩ 1 = .ok lineResult ∧
      result.Extrudes lineResult (ribbon ℝ) :=
  runActive_repeats (shear_complete (ribbon ℝ)) (shear_complete (thread ℝ))
    (shear_extrudes (ribbon_extrudes ℝ)) ⟨0, 1, 1⟩ 1

end Shear

end StageData

end BlockHydro
