import BlockHydro.Proofs.Space.MeshShape
import BlockHydro.Proofs.Space.Tabulation
import BlockHydro.Stage.Correction

/-!
# Stages over tabulated data

The passes of a stage read patches, fluxes and metrics that may refuse to answer.
Over data of the right shape they never do.  This file names the answers: the
state behind the fields of a zone, the metric of a cell and of a face, the
divergence of tabulated fluxes, and the blend of a stage.  Each comes with the
equation that the reading succeeds with it.

`Fluxes.foldlM_ofFn` describes a pass over several axes: it changes the fluxes
of the visited axes and of no other, however often an axis is visited.
-/

namespace BlockHydro

/-- A loop whose steps succeed is the loop of their results. -/
theorem foldlM_eq_ok {α β ε : Type} {step : β → α → Except ε β} {next : β → α → β}
    {items : List α} (succeeds : ∀ state, ∀ item ∈ items, step state item = .ok (next state item))
    (start : β) : items.foldlM step start = .ok (items.foldl next start) := by
  induction items generalizing start with
  | nil => rfl
  | cons item later ih =>
    rw [List.foldlM_cons, succeeds start item List.mem_cons_self]
    exact ih (fun state other member => succeeds state other (List.mem_cons_of_mem _ member)) _

/-- A loop completes and keeps what each of its steps keeps. -/
theorem foldlM_preserves {α β ε : Type} {step : β → α → Except ε β} {items : List α}
    (Kept : β → Prop) (keeps : ∀ state, Kept state → ∀ item ∈ items,
      ∃ next, step state item = .ok next ∧ Kept next) {start : β} (kept : Kept start) :
    ∃ after, items.foldlM step start = .ok after ∧ Kept after := by
  induction items generalizing start with
  | nil => exact ⟨start, rfl, kept⟩
  | cons item later ih =>
    obtain ⟨next, stepped, nextKept⟩ := keeps start kept item List.mem_cons_self
    rw [List.foldlM_cons, stepped]
    exact ih (fun state holds other member => keeps state holds other (List.mem_cons_of_mem _ member))
      nextKept

section Overwriting

variable {R : Type} {count numFields : Nat}

/-- A zone with no more fields than there are values takes all its fields from the values. -/
theorem overwrite_of_le (small : numFields ≤ count) (given : Vector R count)
    (before : Vector R numFields) :
    overwrite given before =
      Vector.ofFn fun field : Fin numFields => given.get (field.castLE small) := by
  unfold overwrite
  congr 1
  funext field
  exact dif_pos (Nat.lt_of_lt_of_le field.isLt small)

theorem getElem_overwrite (given : Vector R count) (before : Vector R numFields) {field : Nat}
    (stored : field < numFields) (written : field < count) :
    (overwrite given before)[field] = given[field] := by
  simp [overwrite, written]

/-- Writing the same values twice writes them once. -/
theorem overwrite_overwrite (given : Vector R count) (before : Vector R numFields) :
    overwrite given (overwrite given before) = overwrite given before := by
  ext field stored
  by_cases written : field < count <;> simp [overwrite, written]

end Overwriting

section States

variable {R : Type} [Zero R] {numFields : Nat}

/-- The primitive state in the fields of a zone. -/
def Primitive.read (fields : Vector R numFields) : Primitive R where
  density := fields[0]?.getD 0
  velocity := ⟨fields[1]?.getD 0, fields[2]?.getD 0, fields[3]?.getD 0⟩
  pressure := fields[4]?.getD 0

/-- The conserved state in the fields of a zone. -/
def Conserved.read (fields : Vector R numFields) : Conserved R where
  density := fields[0]?.getD 0
  momentum := ⟨fields[1]?.getD 0, fields[2]?.getD 0, fields[3]?.getD 0⟩
  energy := fields[4]?.getD 0

theorem Primitive.ofFields_eq_ok (enough : 4 ≤ numFields) (fields : Vector R numFields) :
    Primitive.ofFields fields = .ok (.read fields) := by
  have fourth : 3 < numFields := enough
  have third : 2 < numFields := Nat.lt_of_succ_lt fourth
  have second : 1 < numFields := Nat.lt_of_succ_lt third
  have first : 0 < numFields := Nat.lt_of_succ_lt second
  by_cases withPressure : 4 < numFields <;>
    simp [ofFields, read, enough, withPressure, first, second, third, fourth]

theorem Conserved.ofFields_eq_ok (enough : 4 ≤ numFields) (fields : Vector R numFields) :
    Conserved.ofFields fields = .ok (.read fields) := by
  have fourth : 3 < numFields := enough
  have third : 2 < numFields := Nat.lt_of_succ_lt fourth
  have second : 1 < numFields := Nat.lt_of_succ_lt third
  have first : 0 < numFields := Nat.lt_of_succ_lt second
  by_cases withEnergy : 4 < numFields <;>
    simp [ofFields, read, enough, withEnergy, first, second, third, fourth]

end States

variable {R : Type} [Scalar R]

namespace EquationOfState

variable {eos : EquationOfState R} {metric : Metric R} {numFields : Nat}

/-- Whether a conserved state has no primitive counterpart. -/
def rejects (eos : EquationOfState R) (metric : Metric R) (state : Conserved R) : Bool :=
  match eos.recover .diagnostic metric state with
  | .ok _ => false
  | .error _ => true

/-- The states of a gas fit into five fields, and into four where no energy is stored. -/
def StoredIn (eos : EquationOfState R) (numFields : Nat) : Prop :=
  numFields = 5 ∨ numFields = 4 ∧ eos.isAdiabatic = false

omit [Scalar R] in
theorem StoredIn.four_le (stored : eos.StoredIn numFields) : 4 ≤ numFields := by
  obtain rfl | ⟨rfl, _⟩ := stored <;> decide

omit [Scalar R] in
theorem StoredIn.le_five (stored : eos.StoredIn numFields) : numFields ≤ 5 := by
  obtain rfl | ⟨rfl, _⟩ := stored <;> decide

theorem rejects_iff {state : Conserved R} :
    eos.rejects metric state = true ↔ ∃ cause, eos.recover .diagnostic metric state = .error cause := by
  unfold rejects
  cases eos.recover .diagnostic metric state with
  | ok primitive => simp
  | error cause => simp

/-- An isothermal gas does not look at the energy. -/
theorem rejects_of_isothermal (isothermal : eos.isAdiabatic = false) {first second : Conserved R}
    (density : first.density = second.density) :
    eos.rejects metric first = eos.rejects metric second := by
  obtain ⟨fluid, floors, search⟩ := eos
  match fluid with
  | .newtonian (.adiabatic _) => cases isothermal
  | .relativistic _ _ => cases isothermal
  | .newtonian (.isothermal _) =>
    unfold rejects recover decode Conserved.toPrimitive
    dsimp only
    rw [density]
    by_cases refused : second.density ≤ 0
    · rw [if_pos refused, if_pos refused]
    · rw [if_neg refused, if_neg refused]

/-- The states of a zone and of five fields that took over its values are refused alike. -/
theorem rejects_overwrite (stored : eos.StoredIn numFields) (fields : Vector R numFields)
    (before : Vector R 5) :
    eos.rejects metric (.read (overwrite fields before)) = eos.rejects metric (.read fields) := by
  obtain rfl | ⟨rfl, isothermal⟩ := stored
  · have replaced : overwrite fields before = fields := by
      ext field inside
      exact getElem_overwrite fields before inside inside
    rw [replaced]
  · refine rejects_of_isothermal isothermal ?_
    simp [Conserved.read, overwrite]

end EquationOfState

namespace Setting

variable {setting : Setting R}

/-- The metric, where one is given, is given for all cells of the mesh. -/
def Covered (setting : Setting R) : Prop :=
  ∀ field, setting.metric = some field → ∀ zone ∈ setting.mesh.extendedGrid, zone ∈ field.cells.grid

/-- The metric of a cell. -/
def cellGeometry (setting : Setting R) (zone : Zone) : Metric R :=
  match setting.metric with
  | some field => (field.cells.get? zone).getD .minkowski
  | none => .minkowski

/-- The metric of a face, the mean of those of its cells where a metric is given. -/
def faceGeometry (setting : Setting R) (axis : Axis) (face : Zone) : Metric R :=
  match setting.metric with
  | some _ => (setting.cellGeometry (face.shift (-1) axis)).average (setting.cellGeometry face)
  | none => .minkowski

/-- The metric of a cell of the mesh is found. -/
theorem cellMetric_eq_ok (covered : setting.Covered) {zone : Zone}
    (inside : zone ∈ setting.mesh.extendedGrid) :
    MetricField.cellMetric setting.metric zone = .ok (setting.cellGeometry zone) := by
  unfold MetricField.cellMetric cellGeometry
  cases given : setting.metric with
  | none => rfl
  | some field =>
    have found := field.cells.get?_of_mem (covered field given zone inside)
    dsimp only [MetricField.cellMetric, MetricField.atCell, ZoneArray.get]
    rw [found]
    rfl

/-- The metric of a face between two cells of the mesh is found. -/
theorem faceMetric_eq_ok (covered : setting.Covered) {axis : Axis} {face : Zone}
    (lower : face.shift (-1) axis ∈ setting.mesh.extendedGrid)
    (upper : face ∈ setting.mesh.extendedGrid) :
    MetricField.faceMetric setting.metric axis face = .ok (setting.faceGeometry axis face) := by
  have before := cellMetric_eq_ok covered lower
  have after := cellMetric_eq_ok covered upper
  unfold MetricField.faceMetric faceGeometry
  cases given : setting.metric with
  | none => rfl
  | some field =>
    rw [given] at before after
    dsimp only [MetricField.cellMetric] at before after
    simp only [MetricField.atFace, before, after]
    rfl

end Setting

namespace Fluxes

variable {mesh : Mesh R} {numFields : Nat}

/-- The fluxes that a function gives to the faces of the active axes. -/
def ofFn (mesh : Mesh R) (numFields : Nat) (f : Axis → Zone → Vector R numFields) : Fluxes R where
  faces := PerAxis.ofFn fun axis =>
    if mesh.isActive axis then some (.ofFn (mesh.faceGrid axis) numFields (f axis)) else none

/-- Fluxes over all faces of the active axes and no others. -/
structure Spans (fluxes : Fluxes R) (mesh : Mesh R) (numFields : Nat) : Prop where
  active : ∀ axis, mesh.isActive axis = true →
    ∃ patch, fluxes.along axis = some patch ∧ patch.Spans (mesh.faceGrid axis) numFields
  inactive : ∀ axis, mesh.isActive axis = false → fluxes.along axis = none

omit [Scalar R] in
theorem along_ofFn {axis : Axis} (active : mesh.isActive axis = true)
    (f : Axis → Zone → Vector R numFields) :
    (ofFn mesh numFields f).along axis = some (.ofFn (mesh.faceGrid axis) numFields (f axis)) := by
  simp [along, ofFn, active]

omit [Scalar R] in
theorem along_ofFn_of_inactive {axis : Axis} (inactive : mesh.isActive axis = false)
    (f : Axis → Zone → Vector R numFields) : (ofFn mesh numFields f).along axis = none := by
  simp [along, ofFn, inactive]

omit [Scalar R] in
theorem spans_ofFn (f : Axis → Zone → Vector R numFields) :
    (ofFn mesh numFields f).Spans mesh numFields where
  active _ isActive := ⟨_, along_ofFn isActive f, Patch.spans_ofFn _⟩
  inactive _ isInactive := along_ofFn_of_inactive isInactive f

omit [Scalar R] in
theorem ofFn_congr {f g : Axis → Zone → Vector R numFields}
    (same : ∀ axis, mesh.isActive axis = true → ∀ face ∈ mesh.faceGrid axis,
      f axis face = g axis face) :
    ofFn mesh numFields f = ofFn mesh numFields g := by
  unfold ofFn
  congr 2
  funext axis
  by_cases active : mesh.isActive axis = true
  · rw [if_pos active, if_pos active, Patch.ofFn_congr (same axis active)]
  · rw [if_neg active, if_neg active]

/-- All fluxes over the faces of the active axes are a table. -/
theorem Spans.exists_eq_ofFn {fluxes : Fluxes R} (spans : fluxes.Spans mesh numFields) :
    ∃ f, fluxes = ofFn mesh numFields f := by
  have tables : ∀ axis, ∃ f : Zone → Vector R numFields, fluxes.along axis =
      if mesh.isActive axis then some (.ofFn (mesh.faceGrid axis) numFields f) else none := by
    intro axis
    by_cases active : mesh.isActive axis = true
    · obtain ⟨patch, found, shape⟩ := spans.active axis active
      obtain ⟨f, table⟩ := shape.exists_eq_ofFn
      exact ⟨f, by rw [found, table, if_pos active]⟩
    · have inactive := spans.inactive axis (Bool.eq_false_iff.mpr active)
      exact ⟨fun _ => .replicate numFields 0, by rw [inactive, if_neg active]⟩
  choose f table using tables
  refine ⟨f, ?_⟩
  obtain ⟨faces⟩ := fluxes
  unfold ofFn
  congr 1
  ext axis : 1
  rw [PerAxis.get_ofFn]
  exact table axis

theorem zeros_eq_ofFn (mesh : Mesh R) (numFields : Nat) :
    zeros mesh numFields = ofFn mesh numFields fun _ _ => .replicate numFields 0 := by
  unfold zeros ofFn
  simp only [Patch.zeros_eq_ofFn]

theorem spans_zeros (mesh : Mesh R) (numFields : Nat) :
    (zeros mesh numFields).Spans mesh numFields := by
  rw [zeros_eq_ofFn]
  exact spans_ofFn _

omit [Scalar R] in
/-- Replacing the fluxes of an active axis replaces them in the table. -/
theorem replace_ofFn {axis : Axis} (active : mesh.isActive axis = true)
    (f : Axis → Zone → Vector R numFields) (g : Zone → Vector R numFields) :
    (ofFn mesh numFields f).replace axis (.ofFn (mesh.faceGrid axis) numFields g) =
      ofFn mesh numFields fun other => if other = axis then g else f other := by
  unfold replace ofFn
  congr 1
  ext other : 1
  by_cases same : other = axis
  · subst same
    simp [active]
  · simp [PerAxis.get_set_of_ne _ _ same, same]

omit [Scalar R] in
/-- A pass over the axes of a list changes the fluxes of those axes, if changing them again makes
no difference. -/
theorem foldlM_ofFn {σ : Type} {step : Fluxes R × σ → Axis → Except Fault (Fluxes R × σ)}
    (g : Axis → (Zone → Vector R numFields) → Zone → Vector R numFields) (count : σ → Axis → σ)
    {axes : List Axis}
    (succeeds : ∀ axis ∈ axes, ∀ f total, step (ofFn mesh numFields f, total) axis =
      .ok (ofFn mesh numFields fun other => if other = axis then g axis (f axis) else f other,
        count total axis))
    (idempotent : ∀ axis f, g axis (g axis f) = g axis f)
    (f : Axis → Zone → Vector R numFields) (start : σ) :
    axes.foldlM step (ofFn mesh numFields f, start) =
      .ok (ofFn mesh numFields fun axis => if axis ∈ axes then g axis (f axis) else f axis,
        axes.foldl count start) := by
  induction axes generalizing f start with
  | nil => simp [pure, Except.pure]
  | cons axis later ih =>
    rw [List.foldlM_cons, succeeds axis List.mem_cons_self f start]
    refine (ih (fun other member => succeeds other (List.mem_cons_of_mem _ member)) _ _).trans ?_
    have merged : (fun other => if other ∈ later then
          g other (if other = axis then g axis (f axis) else f other)
        else if other = axis then g axis (f axis) else f other) =
        fun other => if other ∈ axis :: later then g other (f other) else f other := by
      funext other
      by_cases same : other = axis
      · subst same
        simp [idempotent]
      · simp [same]
    rw [merged, List.foldl_cons]

end Fluxes

namespace Mesh

variable {mesh : Mesh R} {numFields : Nat}

/-- The cell size of a block of the mesh along an axis. -/
def spacingAt (mesh : Mesh R) (block : Nat) (axis : Axis) : R :=
  (mesh.spacing[block]?.map (·.get axis)).getD 0

theorem cellSpacing_eq_ok {block : Nat} (known : block < mesh.numBlocks) (axis : Axis) :
    mesh.cellSpacing block axis = .ok (mesh.spacingAt block axis) := by
  have known : block < mesh.spacing.size := known
  have found : mesh.spacing[block]? = some mesh.spacing[block] := Array.getElem?_eq_getElem known
  simp [cellSpacing, spacingAt, found]

/-- The sum after the fluxes through two opposite faces of a cell are counted. -/
def addDivergence (total : Vector R 5) (ratio : R) (lower upper : Vector R numFields) : Vector R 5 :=
  Vector.ofFn fun field : Fin 5 =>
    if inside : field.val < numFields then
      total.get field + ratio * (upper[field.val] - lower[field.val])
    else
      total.get field

/-- The divergence over a cell of the fluxes that a function gives to the faces. -/
def divergence (mesh : Mesh R) (f : Axis → Zone → Vector R numFields) (scaledStep : R)
    (cell : Zone) : Vector R 5 :=
  mesh.activeAxes.foldl (fun total axis =>
    addDivergence total (scaledStep / mesh.spacingAt cell.block axis)
      (f axis cell) (f axis (cell.shift 1 axis))) (.replicate 5 0)

/-- The divergence of tabulated fluxes is found in every cell. -/
theorem fluxDifference_ofFn (small : numFields ≤ 5) (f : Axis → Zone → Vector R numFields)
    (scaledStep : R) {cell : Zone} (inside : cell ∈ mesh.interiorGrid) :
    mesh.fluxDifference (.ofFn mesh numFields f) scaledStep cell =
      .ok (mesh.divergence f scaledStep cell) := by
  refine foldlM_eq_ok (fun total axis member => ?_) _
  have active := mem_activeAxes.mp member
  simp only [Fluxes.along_ofFn active, cellSpacing_eq_ok inside.1,
    Patch.fields_ofFn _ (lowerFace_mem axis inside), Patch.fields_ofFn _ (upperFace_mem axis inside)]
  exact if_pos small

/-- The divergence over a cell depends on the fluxes through its faces only. -/
theorem divergence_congr {f g : Axis → Zone → Vector R numFields} {cell : Zone} (scaledStep : R)
    (same : ∀ axis ∈ mesh.activeAxes,
      f axis cell = g axis cell ∧ f axis (cell.shift 1 axis) = g axis (cell.shift 1 axis)) :
    mesh.divergence f scaledStep cell = mesh.divergence g scaledStep cell := by
  apply List.foldl_ext _ _ _
  intro total axis member
  rw [(same axis member).1, (same axis member).2]

end Mesh

namespace StageWeights

variable {numFields : Nat}

/-- The blend of a stage in a zone with at most five fields. -/
def combine (stage : StageWeights R) (small : numFields ≤ 5) (current start : Vector R numFields)
    (difference : Vector R 5) : Vector R numFields :=
  Vector.ofFn fun field : Fin numFields =>
    stage.current * current.get field + stage.start * start.get field
      - difference.get (field.castLE small)

theorem blend_eq_ok (stage : StageWeights R) (small : numFields ≤ 5)
    (current start : Vector R numFields) (difference : Vector R 5) :
    stage.blend current start difference = .ok (stage.combine small current start difference) :=
  dif_pos ⟨Nat.le_refl numFields, small⟩

/-- The five fields that a prediction leaves over what they held: a field that the cell does not
store keeps its value. -/
def forecast {currentFields startFields : Nat} (stage : StageWeights R)
    (room : min 5 currentFields ≤ startFields) (current : Vector R currentFields)
    (start : Vector R startFields) (difference before : Vector R 5) : Vector R 5 :=
  Vector.ofFn fun field : Fin 5 =>
    if stored : field.val < currentFields then
      stage.current * current[field.val]
          + stage.start * start.get
              ⟨field.val, Nat.lt_of_lt_of_le (Nat.lt_min.mpr ⟨field.isLt, stored⟩) room⟩
        - difference[field]
    else
      before[field]

/-- Blending the stored fields and writing them into five is the prediction. -/
theorem blend_take_eq_ok {currentFields startFields : Nat} (stage : StageWeights R)
    (room : min 5 currentFields ≤ startFields) (current : Vector R currentFields)
    (start : Vector R startFields) (difference : Vector R 5) :
    ∃ blended, stage.blend (current.take 5) start difference = .ok blended ∧
      ∀ before : Vector R 5,
        overwrite blended before = stage.forecast room current start difference before := by
  have fits : min 5 currentFields ≤ startFields ∧ min 5 currentFields ≤ 5 :=
    ⟨room, Nat.min_le_left _ _⟩
  refine ⟨_, dif_pos fits, fun before => ?_⟩
  ext field inside
  by_cases stored : field < currentFields <;>
    simp [-Vector.take_eq_extract, overwrite, forecast, stored, Vector.get]

/-- Where the states have the same number of fields, the prediction is the blend of the stage. -/
theorem forecast_eq_overwrite (stage : StageWeights R) (small : numFields ≤ 5)
    (room : min 5 numFields ≤ numFields) (current start : Vector R numFields)
    (difference before : Vector R 5) :
    stage.forecast room current start difference before =
      overwrite (stage.combine small current start difference) before := by
  ext field inside
  by_cases stored : field < numFields <;>
    simp [forecast, overwrite, combine, stored, Vector.get]

end StageWeights

end BlockHydro
