import BlockHydro.Proofs.Exact.StageTables
import BlockHydro.Proofs.Gas.RelabelledGas
import BlockHydro.Proofs.Space.Relabelling
import BlockHydro.Proofs.Stage.CorrectionEffect
import BlockHydro.Proofs.Stage.FluxPass

/-!
# The passes of a stage under new names of the axes

Each pass of a stage is described by the function that it leaves, and each such
function is the same under both names of the axes when what the pass reads is.
One lemma per pass says so.  The fluxes, the low-order fluxes and what is counted
of them follow bit for bit.  What a pass adds up over the axes or finds out about
a state in the frame of the mesh follows in exact arithmetic only.

The relations `Relabels` say of patches, fluxes and flags that they are one under
two names.
-/

namespace BlockHydro

section Data

variable {R : Type}

/-- Two patches that differ in the names of the axes. -/
structure Patch.Relabels (patch named : Patch R) : Prop where
  grid : named.grid = patch.grid.relabel
  numFields : named.numFields = patch.numFields
  get : ∀ zone ∈ patch.grid, ∀ field < patch.numFields,
    named.get zone.relabel field = patch.get zone (relabelledField field)

/-- Fluxes through the faces of all axes that differ in the names of the axes. -/
def Fluxes.Relabels (fluxes named : Fluxes R) : Prop :=
  ∀ axis : Axis, ∃ patch namedPatch, fluxes.along axis.next = some patch ∧
    named.along axis = some namedPatch ∧ patch.Relabels namedPatch

/-- Two sets of flags that differ in the names of the axes. -/
structure CorrectionFlags.Relabels (flags named : CorrectionFlags) : Prop where
  interior : named.interior = flags.interior.relabel
  grid : named.zones.grid = flags.zones.grid.relabel
  get : ∀ zone ∈ flags.zones.grid, named.get zone.relabel = flags.get zone

/-- Two metric fields that differ in the names of the axes. -/
structure MetricField.Relabels (field named : MetricField R) : Prop where
  grid : named.cells.grid = field.cells.grid.relabel
  metric : ∀ zone ∈ field.cells.grid,
    named.cells.get? zone.relabel = (field.cells.get? zone).map (·.rotate .j)

/-- Two settings of the same gas that differ in the names of the axes. -/
structure Setting.Relabels (setting named : Setting R) : Prop where
  mesh : setting.mesh.Relabels named.mesh
  eos : named.eos = setting.eos
  metric : Option.Rel MetricField.Relabels setting.metric named.metric

/-- Two ways of filling guard zones that differ in the names of the axes. -/
def GuardSource.Relabels (mesh : Mesh R) (source named : GuardSource) : Prop :=
  ∀ zone ∈ mesh.extendedGrid, zone.index ∉ mesh.interior →
    named zone.relabel = (source zone).map Zone.relabel

end Data

section Tables

variable {R : Type} {numFields : Nat}

/-- Fields of the zones of a grid that differ in the names of the axes. -/
def Renames (grid : Grid) (w named : Zone → Vector R numFields) : Prop :=
  ∀ zone ∈ grid, named zone.relabel = relabelFields (w zone)

/-- Fields of the faces of a mesh that differ in the names of the axes. -/
def FacesRename (mesh : Mesh R) (f named : Axis → Zone → Vector R numFields) : Prop :=
  ∀ axis : Axis, Renames (mesh.faceGrid axis.next) (f axis.next) (named axis)

theorem Patch.relabels_ofFn {grid namedGrid : Grid} (names : namedGrid = grid.relabel)
    (enough : 4 ≤ numFields) {w named : Zone → Vector R numFields} :
    (Patch.ofFn grid numFields w).Relabels (.ofFn namedGrid numFields named) ↔
      Renames grid w named := by
  subst names
  have read : ∀ zone ∈ grid, ∀ field < numFields,
      (Patch.ofFn grid.relabel numFields named).get zone.relabel field =
          (Patch.ofFn grid numFields w).get zone (relabelledField field) ↔
        (named zone.relabel)[field]? = (w zone)[relabelledField field]? := by
    intro zone inside field stored
    have place := relabelledField_lt enough stored
    rw [get_ofFn named (Grid.relabel_mem.mpr inside) stored, get_ofFn w inside place,
      Vector.getElem?_eq_getElem stored, Vector.getElem?_eq_getElem place]
    simp only [Except.ok.injEq, Option.some.injEq]
  constructor
  · intro relabels zone inside
    exact eq_relabelFields enough fun field stored =>
      (read zone inside field stored).mp (relabels.get zone inside field stored)
  · intro renames
    refine ⟨rfl, rfl, fun zone inside field stored => (read zone inside field stored).mpr ?_⟩
    rw [renames zone inside, getElem?_relabelFields enough]

theorem Fluxes.relabels_ofFn [Scalar R] {mesh named : Mesh R} (relabels : mesh.Relabels named)
    (solid : mesh.IsSolid) (enough : 4 ≤ numFields) {f g : Axis → Zone → Vector R numFields}
    (renames : FacesRename mesh f g) :
    (Fluxes.ofFn mesh numFields f).Relabels (.ofFn named numFields g) := by
  intro axis
  exact ⟨_, _, along_ofFn (solid.isActive axis.next) f,
    along_ofFn ((relabels.isSolid solid).isActive axis) g,
    (Patch.relabels_ofFn (relabels.faceGrid axis) enough).mpr (renames axis)⟩

theorem CorrectionFlags.relabels_ofFn {mesh named : Mesh R} (relabels : mesh.Relabels named)
    (solid : mesh.IsSolid) {flag namedFlag : Zone → Bool}
    (same : ∀ zone ∈ mesh.extendedGrid, namedFlag zone.relabel = flag zone) :
    (ofFn mesh flag).Relabels (ofFn named namedFlag) where
  interior := relabels.interior
  grid := relabels.extendedGrid solid
  get zone inside := by
    have there : zone.relabel ∈ named.extendedGrid := by
      rw [relabels.extendedGrid solid]
      exact Grid.relabel_mem.mpr inside
    rw [get_ofFn _ there, same zone inside, get_ofFn flag inside]

end Tables

section Geometry

variable {R : Type} [Scalar R] {setting named : Setting R} {axis : Axis} {zone face : Zone}

namespace Setting.Relabels

omit [Scalar R] in
theorem zone_mem (relabels : setting.Relabels named) (solid : setting.mesh.IsSolid) :
    zone.relabel ∈ named.mesh.extendedGrid ↔ zone ∈ setting.mesh.extendedGrid := by
  rw [relabels.mesh.extendedGrid solid, Grid.relabel_mem]

omit [Scalar R] in
theorem covered (relabels : setting.Relabels named) (solid : setting.mesh.IsSolid)
    (covered : setting.Covered) : named.Covered := by
  intro namedField given zone inside
  obtain ⟨origin, rfl⟩ := zone.exists_relabel
  have same := relabels.metric
  rw [given] at same
  generalize fieldGiven : setting.metric = metric at same
  cases same with
  | some same =>
    rw [same.grid, Grid.relabel_mem]
    exact covered _ fieldGiven origin ((relabels.zone_mem solid).mp inside)

theorem cellGeometry (relabels : setting.Relabels named) (covered : setting.Covered)
    (inside : zone ∈ setting.mesh.extendedGrid) :
    named.cellGeometry zone.relabel = (setting.cellGeometry zone).rotate .j := by
  have same := relabels.metric
  unfold Setting.cellGeometry
  generalize given : setting.metric = metric at same
  generalize named.metric = namedMetric at same
  cases same with
  | none => exact Metric.minkowski_relabel.symm
  | some same =>
    have known := covered _ given zone inside
    dsimp only
    rw [same.metric zone known, ZoneArray.get?_of_mem _ known]
    rfl

theorem faceGeometry (relabels : setting.Relabels named) (solid : setting.mesh.IsSolid)
    (covered : setting.Covered) (inside : face ∈ setting.mesh.faceGrid axis.next) :
    named.faceGeometry axis face.relabel = (setting.faceGeometry axis.next face).rotate .j := by
  have lower := relabels.cellGeometry covered
    (Mesh.lowerCell_mem (solid.isActive axis.next) inside)
  have upper := relabels.cellGeometry covered
    (Mesh.upperCell_mem (solid.isActive axis.next) inside)
  rw [face.relabel_shift] at lower
  have same := relabels.metric
  unfold Setting.faceGeometry
  rw [lower, upper]
  generalize setting.metric = metric at same
  generalize named.metric = namedMetric at same
  cases same with
  | none => exact Metric.minkowski_relabel.symm
  | some same => exact Metric.average_relabel _ _

end Setting.Relabels

end Geometry

section FluxPass

variable {R : Type} [Scalar R] {setting named : Setting R} {stateFields numFields : Nat}
  {w namedW : Zone → Vector R stateFields} {axis : Axis} {face : Zone}

namespace Setting.Relabels

variable (relabels : setting.Relabels named) (solid : setting.mesh.IsSolid)
  (covered : setting.Covered) (enough : 4 ≤ stateFields)
  (renames : Renames setting.mesh.extendedGrid w namedW)

include solid enough renames

omit [Scalar R] in
/-- The states on both sides of a face are those under the old names. -/
theorem sides [Zero R] (inside : face ∈ setting.mesh.faceGrid axis.next) :
    Primitive.read (namedW (face.relabel.shift (-1) axis)) =
        (Primitive.read (w (face.shift (-1) axis.next))).rotate .j ∧
      Primitive.read (namedW face.relabel) = (Primitive.read (w face)).rotate .j := by
  have active := solid.isActive axis.next
  rw [← face.relabel_shift, renames _ (Mesh.lowerCell_mem active inside),
    renames _ (Mesh.upperCell_mem active inside)]
  exact ⟨Primitive.read_relabelFields enough _, Primitive.read_relabelFields enough _⟩

include relabels covered

/-- The flux through a face is the one under the old names, bit for bit. -/
theorem flux_faceFlux (inside : face ∈ setting.mesh.faceGrid axis.next) :
    (named.faceFlux namedW axis face.relabel).flux =
      (setting.faceFlux w axis.next face).flux.rotate .j := by
  obtain ⟨lower, upper⟩ := sides solid enough renames inside
  unfold Setting.faceFlux
  rw [relabels.faceGeometry solid covered inside, lower, upper, relabels.eos]
  exact setting.eos.flux_twoWaveFlux_relabel axis _ _ _

theorem clipped_faceFlux (inside : face ∈ setting.mesh.faceGrid axis.next) :
    (named.faceFlux namedW axis face.relabel).clipped =
      (setting.faceFlux w axis.next face).clipped := by
  obtain ⟨lower, upper⟩ := sides solid enough renames inside
  unfold Setting.faceFlux
  rw [relabels.faceGeometry solid covered inside, lower, upper, relabels.eos]
  exact setting.eos.clipped_twoWaveFlux_relabel axis _ _ _

theorem lowFlux (inside : face ∈ setting.mesh.faceGrid axis.next) :
    named.lowFlux namedW axis face.relabel = (setting.lowFlux w axis.next face).rotate .j := by
  obtain ⟨lower, upper⟩ := sides solid enough renames inside
  unfold Setting.lowFlux
  rw [relabels.faceGeometry solid covered inside, lower, upper, relabels.eos]
  exact setting.eos.lowOrderFlux_relabel axis _ _ _

/-- The flux pass stores the fluxes under their new names, whatever was stored before. -/
theorem solvedFluxes (enoughFluxes : 4 ≤ numFields) (small : numFields ≤ 5)
    (f g : Axis → Zone → Vector R numFields) :
    FacesRename setting.mesh (fun axis => Fluxes.solvedFluxes setting w axis (f axis))
      fun axis => Fluxes.solvedFluxes named namedW axis (g axis) := by
  intro axis face inside
  unfold Fluxes.solvedFluxes
  dsimp only
  rw [flux_faceFlux relabels solid covered enough renames inside]
  exact Conserved.writeTo_relabel enoughFluxes small _ _ _

theorem axisTally (axis : Axis) :
    Fluxes.axisTally named namedW axis = Fluxes.axisTally setting w axis.next := by
  unfold Fluxes.axisTally
  rw [relabels.mesh.faceGrid axis, Grid.size_relabel, Grid.countP_relabel fun face inside =>
    clipped_faceFlux relabels solid covered enough renames inside]

/-- The flux pass over all axes counts the same faces and the same clipped sound speeds. -/
theorem tally :
    Axis.all.foldl (fun tally axis => tally + Fluxes.axisTally named namedW axis) .zero =
      Axis.all.foldl (fun tally axis => tally + Fluxes.axisTally setting w axis) .zero := by
  simp only [Axis.all, List.foldl_cons, List.foldl_nil,
    axisTally relabels solid covered enough renames, Axis.next]
  generalize Fluxes.axisTally setting w .i = first
  generalize Fluxes.axisTally setting w .j = second
  generalize Fluxes.axisTally setting w .k = third
  change FluxTally.mk (0 + second.faces + third.faces + first.faces)
      (0 + second.clipped + third.clipped + first.clipped) =
    ⟨0 + first.faces + second.faces + third.faces,
      0 + first.clipped + second.clipped + third.clipped⟩
  rw [FluxTally.mk.injEq]
  omega

end Setting.Relabels

end FluxPass

section Flags

variable {R : Type} {mesh named : Mesh R} {axis : Axis}

namespace Mesh.Relabels

variable (relabels : mesh.Relabels named)

include relabels

/-- Mirrored flags are those under the old names, if the flags of the cells are. -/
theorem mirrored {source namedSource : GuardSource} {bad namedBad : Zone → Bool}
    (sources : GuardSource.Relabels mesh source namedSource)
    (same : ∀ cell ∈ mesh.interiorGrid, namedBad cell.relabel = bad cell) {zone : Zone}
    (inside : zone ∈ mesh.extendedGrid) :
    CorrectionFlags.mirrored named namedSource namedBad zone.relabel =
      CorrectionFlags.mirrored mesh source bad zone := by
  unfold CorrectionFlags.mirrored
  by_cases interior : zone.index ∈ mesh.interior
  · rw [if_pos interior, if_pos (relabels.interior_mem.mpr interior),
      same zone ⟨inside.1, interior⟩]
  · rw [if_neg interior, if_neg (relabels.interior_mem.not.mpr interior),
      sources zone inside interior]
    cases source zone with
    | none => rfl
    | some origin =>
      simp only [Option.map_some, relabels.interiorGrid, Grid.relabel_mem]
      by_cases known : origin ∈ mesh.interiorGrid
      · rw [same origin known]
      · rw [decide_eq_false known, Bool.false_and, Bool.false_and]

variable (solid : mesh.IsSolid) {flag namedFlag : Zone → Bool}
  (same : ∀ zone ∈ mesh.extendedGrid, namedFlag zone.relabel = flag zone)

include solid same

omit relabels in
theorem touches {face : Zone} (inside : face ∈ mesh.faceGrid axis.next) :
    touches namedFlag axis face.relabel = BlockHydro.touches flag axis.next face := by
  have active := solid.isActive axis.next
  unfold BlockHydro.touches
  rw [← face.relabel_shift, same _ (lowerCell_mem active inside),
    same _ (upperCell_mem active inside)]

/-- As many faces are next to flagged zones as under the old names. -/
theorem touchedFaces : named.touchedFaces namedFlag = mesh.touchedFaces flag := by
  have counted : ∀ axis : Axis,
      (named.faceGrid axis).zones.countP (BlockHydro.touches namedFlag axis) =
        (mesh.faceGrid axis.next).zones.countP (BlockHydro.touches flag axis.next) := by
    intro axis
    rw [relabels.faceGrid axis]
    exact Grid.countP_relabel fun face inside => touches solid same inside
  unfold Mesh.touchedFaces
  rw [solid.activeAxes, (relabels.isSolid solid).activeAxes]
  simp only [Axis.all, List.map_cons, List.map_nil, List.sum_cons, List.sum_nil, counted, Axis.next]
  omega

end Mesh.Relabels

end Flags

section Repair

variable {R : Type} [Scalar R] {setting named : Setting R} {stateFields numFields : Nat}
  {w namedW : Zone → Vector R stateFields} {flag namedFlag : Zone → Bool}

/-- The repaired fluxes are those under the old names, if the flags and the fluxes before are. -/
theorem Setting.Relabels.repairedFlux (relabels : setting.Relabels named)
    (solid : setting.mesh.IsSolid) (covered : setting.Covered) (enough : 4 ≤ stateFields)
    (renames : Renames setting.mesh.extendedGrid w namedW)
    (same : ∀ zone ∈ setting.mesh.extendedGrid, namedFlag zone.relabel = flag zone)
    (enoughFluxes : 4 ≤ numFields) (small : numFields ≤ 5)
    {f g : Axis → Zone → Vector R numFields} (before : FacesRename setting.mesh f g) :
    FacesRename setting.mesh (fun axis => setting.repairedFlux w flag axis (f axis))
      fun axis => named.repairedFlux namedW namedFlag axis (g axis) := by
  intro axis face inside
  unfold Setting.repairedFlux
  dsimp only
  rw [Mesh.Relabels.touches solid same inside]
  split
  next =>
    rw [lowFlux relabels solid covered enough renames inside]
    exact Conserved.writeTo_relabel enoughFluxes small _ _ _
  next => exact before axis face inside

end Repair

section Update

variable {mesh named : Mesh ℝ} {numFields startFields fluxFields : Nat} {cell : Zone}

/-- What the faces of a cell along an axis add to a field of the divergence. -/
noncomputable def Mesh.contribution (mesh : Mesh ℝ) (f : Axis → Zone → Vector ℝ fluxFields)
    (scaledStep : ℝ) (cell : Zone) (field : Nat) (axis : Axis) : ℝ :=
  scaledStep / mesh.spacingAt cell.block axis *
    ((f axis (cell.shift 1 axis))[field]?.getD 0 - (f axis cell)[field]?.getD 0)

/-- Over a solid mesh the divergence adds up the contributions of the three axes. -/
theorem Mesh.IsSolid.getElem?_divergence (solid : mesh.IsSolid)
    (f : Axis → Zone → Vector ℝ fluxFields) (scaledStep : ℝ) (cell : Zone) {field : Nat}
    (small : field < 5) :
    (mesh.divergence f scaledStep cell)[field]? =
      some (mesh.contribution f scaledStep cell field .i +
        mesh.contribution f scaledStep cell field .j +
        mesh.contribution f scaledStep cell field .k) := by
  unfold Mesh.divergence
  rw [solid.activeAxes, Vector.getElem?_eq_getElem small]
  simp only [Axis.all, List.foldl_cons, List.foldl_nil, getElem_addDivergence _ _ _ _ small,
    Vector.getElem_replicate, zero_add]
  rfl

namespace Mesh.Relabels

variable (relabels : mesh.Relabels named)

include relabels

theorem contribution (enough : 4 ≤ fluxFields) {f g : Axis → Zone → Vector ℝ fluxFields}
    (renames : FacesRename mesh f g) (scaledStep : ℝ) (inside : cell ∈ mesh.interiorGrid)
    (field : Nat) (axis : Axis) :
    named.contribution g scaledStep cell.relabel field axis =
      mesh.contribution f scaledStep cell (relabelledField field) axis.next := by
  unfold Mesh.contribution
  rw [relabels.spacingAt, ← cell.relabel_shift, renames axis cell (lowerFace_mem axis.next inside),
    renames axis _ (upperFace_mem axis.next inside), getElem?_relabelFields enough,
    getElem?_relabelFields enough, cell.block_relabel]

variable (solid : mesh.IsSolid)

include solid

/-- The divergence over a cell is the one under the old names: the axes add up in another order. -/
theorem divergence (enough : 4 ≤ fluxFields) {f g : Axis → Zone → Vector ℝ fluxFields}
    (renames : FacesRename mesh f g) (scaledStep : ℝ) (inside : cell ∈ mesh.interiorGrid) :
    named.divergence g scaledStep cell.relabel = relabelFields (mesh.divergence f scaledStep cell) := by
  refine eq_relabelFields (by decide) fun field small => ?_
  rw [(relabels.isSolid solid).getElem?_divergence g scaledStep _ small,
    solid.getElem?_divergence f scaledStep _ (relabelledField_lt (by decide) small)]
  simp only [relabels.contribution enough renames scaledStep inside, Axis.next]
  -- Here the sum starts at another axis than before.
  congr 1
  ring

/-- The predictions are those under the old names, if what they do not write was. -/
theorem predicted (stage : StageWeights ℝ) (dt : ℝ) (enough : 4 ≤ numFields)
    (room : min 5 numFields ≤ startFields)
    {now namedNow : Zone → Vector ℝ numFields} {first namedFirst : Zone → Vector ℝ startFields}
    {f g : Axis → Zone → Vector ℝ fluxFields} {trial namedTrial : Zone → Vector ℝ 5}
    (current : Renames mesh.extendedGrid now namedNow)
    (start : Renames mesh.extendedGrid first namedFirst) (enoughFluxes : 4 ≤ fluxFields)
    (fluxes : FacesRename mesh f g)
    (unwritten : numFields = 4 → ∀ cell ∈ mesh.interiorGrid,
      (namedTrial cell.relabel)[4] = (trial cell)[4]) :
    Renames mesh.interiorGrid (mesh.predicted stage dt room now first f trial)
      (named.predicted stage dt room namedNow namedFirst g namedTrial) := by
  intro cell inside
  have extended := extendedGrid_of_interiorGrid inside
  have enoughStart : 4 ≤ startFields := by omega
  unfold Mesh.predicted
  rw [relabels.divergence solid enoughFluxes fluxes _ inside, current cell extended,
    start cell extended]
  refine eq_relabelFields_of_getD (by decide) fun field small => ?_
  by_cases stored : field < numFields
  · rw [stage.getD_forecast room _ _ _ _ stored small,
      stage.getD_forecast room _ _ _ _ (relabelledField_lt enough stored)
        (relabelledField_lt (by decide) small), getElem?_relabelFields enough,
      getElem?_relabelFields enoughStart, getElem?_relabelFields (by decide)]
  · -- Cells of four fields predict no energy, so what the pass found there is left.
    obtain rfl : field = 4 := by omega
    have same := unwritten (by omega) cell inside
    simp only [StageWeights.forecast, relabelledField]
    simpa [stored] using same

/-- The state that a stage leaves is the one under the old names. -/
theorem stepped (stage : StageWeights ℝ) (dt : ℝ) (enough : 4 ≤ numFields)
    (room : numFields ≤ startFields ∧ numFields ≤ 5)
    {now namedNow : Zone → Vector ℝ numFields} {first namedFirst : Zone → Vector ℝ startFields}
    {f g : Axis → Zone → Vector ℝ fluxFields}
    (current : Renames mesh.extendedGrid now namedNow)
    (start : Renames mesh.extendedGrid first namedFirst) (enoughFluxes : 4 ≤ fluxFields)
    (fluxes : FacesRename mesh f g) :
    Renames mesh.extendedGrid (mesh.stepped stage dt now first f)
      (named.stepped stage dt namedNow namedFirst g) := by
  intro zone extended
  unfold Mesh.stepped
  by_cases interior : zone.index ∈ mesh.interior
  · rw [if_pos interior, if_pos (relabels.interior_mem.mpr interior),
      relabels.divergence solid enoughFluxes fluxes _ ⟨extended.1, interior⟩,
      current zone extended, start zone extended]
    refine eq_relabelFields_of_getD enough fun field stored => ?_
    rw [stage.getD_blended _ _ _ stored, stage.getD_blended _ _ _ (relabelledField_lt enough stored),
      getElem?_relabelFields enough, getElem?_relabelFields (by omega),
      getElem?_relabelFields (by decide)]
  · rw [if_neg interior, if_neg (relabels.interior_mem.not.mpr interior), current zone extended]

end Mesh.Relabels

/-- A predicted cell is refused exactly when it is under the old names. -/
theorem Setting.Relabels.bad {setting named : Setting ℝ} (relabels : setting.Relabels named)
    (covered : setting.Covered) {trial namedTrial : Zone → Vector ℝ 5}
    (renames : Renames setting.mesh.interiorGrid trial namedTrial)
    (inside : cell ∈ setting.mesh.interiorGrid) :
    FluxCorrection.bad named namedTrial cell.relabel = FluxCorrection.bad setting trial cell := by
  unfold FluxCorrection.bad
  rw [renames cell inside, Conserved.read_relabelFields (by decide),
    relabels.cellGeometry covered (Mesh.extendedGrid_of_interiorGrid inside), relabels.eos]
  exact setting.eos.rejects_rotate _ _ .j

end Update

end BlockHydro
