import BlockHydro.Proofs.Space.RowOfBlocks
import BlockHydro.Proofs.Stage.SharedFaces
import BlockHydro.Proofs.Stage.UpdatePass

/-!
# A stage on a row of blocks and on the undivided row

`RowData` is what a stage reads: primitive states with filled guard zones,
conserved states, and those at the start of the step, all with five fields and
in flat space.  Its functions are what the passes of the stage leave.  Neither
the fluxes nor the predictions of an earlier stage occur in them.

When the data of a row of blocks agree with those of the undivided row, so does
everything the stage leaves.  `RowData.Agree` names the agreement, and each pass
has a lemma that carries it on.
-/

namespace BlockHydro

/-- A row of blocks and the undivided row of the same cells. -/
structure SplitRow {R : Type} [Scalar R] (many one : Mesh R) (numBlocks length : Nat) : Prop where
  rows : many.IsRow numBlocks length
  row : one.IsRow 1 (numBlocks * length)
  spacing : ∀ block < numBlocks, many.spacingAt block .i = one.spacingAt 0 .i

/-- What a stage reads. -/
structure RowData (R : Type) where
  primitive : Zone → Vector R 5
  conserved : Zone → Vector R 5
  start : Zone → Vector R 5

variable {R : Type} [Scalar R]

/-- A gas over a mesh in flat space. -/
def Setting.flat (mesh : Mesh R) (eos : EquationOfState R) : Setting R := ⟨mesh, eos, none⟩

omit [Scalar R] in
@[simp] theorem Setting.mesh_flat (mesh : Mesh R) (eos : EquationOfState R) :
    (Setting.flat mesh eos).mesh = mesh :=
  rfl

namespace RowData

section Passes

variable (data : RowData R) (mesh : Mesh R) (eos : EquationOfState R) (stage : StageWeights R) (dt : R)

/-- The two-wave flux through a face of the row. -/
def solved (face : Zone) : Vector R 5 :=
  ((Setting.flat mesh eos).faceFlux data.primitive .i face).flux.toFields

/-- The update of a cell with given fluxes. -/
def update (flux : Zone → Vector R 5) (cell : Zone) : Vector R 5 :=
  stage.combine (Nat.le_refl 5) (data.conserved cell) (data.start cell)
    (mesh.divergence (fun _ => flux) (stage.rate * dt) cell)

/-- Whether the update of a cell with the two-wave fluxes is refused. -/
def bad (cell : Zone) : Bool :=
  eos.rejects .minkowski (.read (data.update mesh stage dt (data.solved mesh eos) cell))

/-- The correction flags of the stage. -/
def flagged (zone : Zone) : Bool :=
  CorrectionFlags.mirrored mesh (mesh.chained .i) (data.bad mesh eos stage dt) zone

/-- The corrected flux through a face of the row. -/
def corrected (face : Zone) : Vector R 5 :=
  if touches (data.flagged mesh eos stage dt) .i face then
    ((Setting.flat mesh eos).lowFlux data.primitive .i face).toFields
  else
    data.solved mesh eos face

/-- The flux with which the stage updates the cells. -/
def flux (corrects : Bool) (face : Zone) : Vector R 5 :=
  if corrects then data.corrected mesh eos stage dt face else data.solved mesh eos face

/-- The conserved states after the stage. -/
def nextConserved (corrects : Bool) : Zone → Vector R 5 :=
  mesh.advanced stage dt (Nat.le_refl 5) data.conserved data.start
    fun _ => data.flux mesh eos stage dt corrects

/-- The primitive states after the stage. -/
def nextPrimitive (corrects : Bool) : Zone → Vector R 5 :=
  (Setting.flat mesh eos).recovered (data.nextConserved mesh eos stage dt corrects) data.primitive

end Passes

/-- Data of a row of blocks that agree with data of the undivided row. -/
structure Agree (many : Mesh R) (length : Nat) (data other : RowData R) : Prop where
  primitive : ∀ zone ∈ many.extendedGrid, data.primitive zone = other.primitive (rowZone length zone)
  conserved : ∀ cell ∈ many.interiorGrid, data.conserved cell = other.conserved (rowZone length cell)
  start : ∀ cell ∈ many.interiorGrid, data.start cell = other.start (rowZone length cell)

section Agreement

variable {many one : Mesh R} {numBlocks length : Nat} {data other : RowData R}
  {eos : EquationOfState R} {stage : StageWeights R} {dt : R} {face cell zone : Zone}

/-- Both sides of a face agree. -/
theorem Agree.sides (agree : Agree many length data other) (one : Mesh R) (eos : EquationOfState R)
    (inside : face ∈ many.faceGrid .i) :
    Setting.SameSides (Setting.flat many eos) (Setting.flat one eos) data.primitive other.primitive .i
      face (rowZone length face) where
  eos := rfl
  geometry := rfl
  below := by rw [agree.primitive _ (Mesh.lowerCell_mem rfl inside), rowZone_shift]
  above := agree.primitive _ (Mesh.upperCell_mem rfl inside)

theorem Agree.solved (agree : Agree many length data other) (inside : face ∈ many.faceGrid .i) :
    data.solved many eos face = other.solved one eos (rowZone length face) := by
  unfold RowData.solved
  rw [(agree.sides one eos inside).faceFlux]

theorem Agree.lowFlux (agree : Agree many length data other) (inside : face ∈ many.faceGrid .i) :
    (Setting.flat many eos).lowFlux data.primitive .i face =
      (Setting.flat one eos).lowFlux other.primitive .i (rowZone length face) :=
  (agree.sides one eos inside).lowFlux

/-- Fluxes that agree on the faces have divergences that agree in the cells. -/
theorem divergence_agree (split : SplitRow many one numBlocks length)
    {flux otherFlux : Zone → Vector R 5}
    (same : ∀ face ∈ many.faceGrid .i, flux face = otherFlux (rowZone length face)) (scaledStep : R)
    (inside : cell ∈ many.interiorGrid) :
    many.divergence (fun _ => flux) scaledStep cell =
      one.divergence (fun _ => otherFlux) scaledStep (rowZone length cell) := by
  have known : cell.block < numBlocks := (split.rows.mem_interiorGrid_iff.mp inside).1
  have lower := same cell (Mesh.lowerFace_mem .i inside)
  have upper := same (cell.shift 1 .i) (Mesh.upperFace_mem .i inside)
  rw [rowZone_shift] at upper
  unfold Mesh.divergence
  rw [split.rows.activeAxes_eq, split.row.activeAxes_eq]
  simp only [List.foldl_cons, List.foldl_nil]
  rw [split.spacing cell.block known, lower, upper]
  rfl

theorem Agree.update (agree : Agree many length data other)
    (split : SplitRow many one numBlocks length) {flux otherFlux : Zone → Vector R 5}
    (same : ∀ face ∈ many.faceGrid .i, flux face = otherFlux (rowZone length face))
    (inside : cell ∈ many.interiorGrid) :
    data.update many stage dt flux cell = other.update one stage dt otherFlux (rowZone length cell) := by
  unfold RowData.update
  rw [agree.conserved cell inside, agree.start cell inside,
    divergence_agree split same (stage.rate * dt) inside]

theorem Agree.bad (agree : Agree many length data other)
    (split : SplitRow many one numBlocks length) (inside : cell ∈ many.interiorGrid) :
    data.bad many eos stage dt cell = other.bad one eos stage dt (rowZone length cell) := by
  have same : ∀ face ∈ many.faceGrid .i,
      data.solved many eos face = other.solved one eos (rowZone length face) :=
    fun face known => agree.solved known
  unfold RowData.bad
  rw [agree.update split same inside]

/-- The flags agree in all zones, guard zones included. -/
theorem Agree.flagged (agree : Agree many length data other)
    (split : SplitRow many one numBlocks length) (inside : zone ∈ many.extendedGrid) :
    data.flagged many eos stage dt zone = other.flagged one eos stage dt (rowZone length zone) := by
  have cells : ∀ cell ∈ many.interiorGrid, data.bad many eos stage dt cell =
      other.flagged one eos stage dt (rowZone length cell) := fun cell known => by
    rw [RowData.flagged, CorrectionFlags.mirrored_of_mem
      (rowZone_mem_interiorGrid split.rows split.row known).2, agree.bad split known]
  by_cases interior : zone.index ∈ many.interior
  · rw [RowData.flagged, CorrectionFlags.mirrored_of_mem interior, cells zone ⟨inside.1, interior⟩]
  · obtain ⟨origin, known, given, samePlace⟩ | atEnd :=
      guard_in_row split.rows split.row inside interior
    · rw [← samePlace, ← cells origin known, RowData.flagged, CorrectionFlags.mirrored,
        if_neg interior, given]
      simp only [known, decide_true, Bool.true_and]
    · rw [RowData.flagged, CorrectionFlags.mirrored, if_neg interior, atEnd.standsForNone,
        RowData.flagged, CorrectionFlags.mirrored, if_neg atEnd.guard, atEnd.alsoForNone]

theorem Agree.corrected (agree : Agree many length data other)
    (split : SplitRow many one numBlocks length) (inside : face ∈ many.faceGrid .i) :
    data.corrected many eos stage dt face =
      other.corrected one eos stage dt (rowZone length face) := by
  have active : many.isActive .i = true := rfl
  have touched : touches (data.flagged many eos stage dt) .i face =
      touches (other.flagged one eos stage dt) .i (rowZone length face) := by
    rw [touches, agree.flagged split (Mesh.lowerCell_mem active inside),
      agree.flagged split (Mesh.upperCell_mem active inside), rowZone_shift, touches]
  unfold RowData.corrected
  rw [touched, agree.lowFlux inside, agree.solved inside]

theorem Agree.flux (agree : Agree many length data other)
    (split : SplitRow many one numBlocks length) (corrects : Bool)
    (inside : face ∈ many.faceGrid .i) :
    data.flux many eos stage dt corrects face =
      other.flux one eos stage dt corrects (rowZone length face) := by
  unfold RowData.flux
  rw [agree.corrected split inside, agree.solved inside]

/-- The conserved states after the stage agree in the cells. -/
theorem Agree.nextConserved (agree : Agree many length data other)
    (split : SplitRow many one numBlocks length) (corrects : Bool)
    (inside : cell ∈ many.interiorGrid) :
    data.nextConserved many eos stage dt corrects cell =
      other.nextConserved one eos stage dt corrects (rowZone length cell) := by
  have here : cell.index ∈ many.interior := inside.2
  have there : (rowZone length cell).index ∈ one.interior :=
    (rowZone_mem_interiorGrid split.rows split.row inside).2
  have same : ∀ face ∈ many.faceGrid .i, data.flux many eos stage dt corrects face =
      other.flux one eos stage dt corrects (rowZone length face) :=
    fun face known => agree.flux split corrects known
  unfold RowData.nextConserved Mesh.advanced
  rw [if_pos here, if_pos there]
  exact agree.update split same inside

/-- The primitive states after the stage agree in the cells. -/
theorem Agree.nextPrimitive (agree : Agree many length data other)
    (split : SplitRow many one numBlocks length) (corrects : Bool)
    (inside : cell ∈ many.interiorGrid) :
    data.nextPrimitive many eos stage dt corrects cell =
      other.nextPrimitive one eos stage dt corrects (rowZone length cell) := by
  have there : (rowZone length cell).index ∈ (Setting.flat one eos).mesh.interior :=
    (rowZone_mem_interiorGrid split.rows split.row inside).2
  have here : cell.index ∈ (Setting.flat many eos).mesh.interior := inside.2
  unfold RowData.nextPrimitive Setting.recovered
  rw [if_pos here, if_pos there, agree.nextConserved split corrects inside,
    agree.primitive cell (Mesh.extendedGrid_of_interiorGrid inside)]
  rfl

end Agreement

end RowData

section Counting

variable {many one : Mesh R} {numBlocks length : Nat} {α : Type}

/-- Values that agree in the cells are listed alike. -/
theorem map_zones_agree (split : SplitRow many one numBlocks length) {value other : Zone → α}
    (same : ∀ cell ∈ many.interiorGrid, value cell = other (rowZone length cell)) :
    many.interiorGrid.zones.map value = one.interiorGrid.zones.map other := by
  rw [← map_rowZone_zones split.rows split.row, List.map_map]
  exact List.map_congr_left fun cell inside => same cell (Grid.mem_zones.mp inside)

/-- Marks that agree in the cells are counted alike. -/
theorem countP_zones_agree (split : SplitRow many one numBlocks length) {mark other : Zone → Bool}
    (same : ∀ cell ∈ many.interiorGrid, mark cell = other (rowZone length cell)) :
    many.interiorGrid.zones.countP mark = one.interiorGrid.zones.countP other := by
  rw [← map_rowZone_zones split.rows split.row, List.countP_map]
  exact List.countP_congr fun cell inside => by rw [same cell (Grid.mem_zones.mp inside)]; rfl

/-- Filling the guard zones of states that agree in the cells makes them agree in all zones. -/
theorem filled_agree (split : SplitRow many one numBlocks length) {w other : Zone → Vector R 5}
    (same : ∀ cell ∈ many.interiorGrid, w cell = other (rowZone length cell)) {zone : Zone}
    (inside : zone ∈ many.extendedGrid) :
    many.filled w zone = one.filled other (rowZone length zone) := by
  unfold Mesh.filled
  by_cases interior : zone.index ∈ many.interior
  · have cell : zone ∈ many.interiorGrid := ⟨inside.1, interior⟩
    have there : (rowZone length zone).index ∈ one.interior :=
      (rowZone_mem_interiorGrid split.rows split.row cell).2
    rw [if_pos interior, if_pos there, same zone cell]
  · rw [if_neg interior, same _ (split.rows.rowSource_mem inside)]
    obtain ⟨origin, known, given, samePlace⟩ | atEnd :=
      guard_in_row split.rows split.row inside interior
    · have there : (rowZone length origin).index ∈ one.interior :=
        (rowZone_mem_interiorGrid split.rows split.row known).2
      rw [Mesh.rowSource_of_chained given, ← samePlace, if_pos there]
    · rw [if_neg atEnd.guard, atEnd.sameSource]

end Counting

end BlockHydro
