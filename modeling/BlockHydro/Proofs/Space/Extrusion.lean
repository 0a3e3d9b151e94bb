import Mathlib.Algebra.BigOperators.Ring.List
import Mathlib.Algebra.Group.Action.Defs
import Mathlib.Algebra.Ring.Nat
import BlockHydro.Proofs.Stage.Tables

/-!
# Blocks that repeat a line of zones

`Mesh.Extrudes` says that the blocks of a mesh are those of a line of blocks, laid
side by side along the second axis.  `Zone.onLine` finds the zone of the line that
a zone repeats.

Cells and guard zones of the mesh lie over cells and guard zones of the line, and
where the blocks are chained along the first axis they stand for zones that lie
over one another too (`Mesh.Extrudes.chained_onLine`).  Guard zones beside the
interior stand for nothing (`Mesh.chained_of_beside`).  What marks the cells of the
line marks as many times more cells of the mesh as this is zones wide
(`Mesh.Extrudes.countP_interiorGrid`).
-/

namespace BlockHydro

/-- The zone in the first line of zones, at the same place along the other axes. -/
def Zone.onLine (zone : Zone) : Zone := ⟨zone.block, zone.index.set .j 0⟩

variable {R : Type}

/-- A zone abreast of the interior: along the second axis it lies where the cells lie. -/
def Mesh.Abreast (mesh : Mesh R) (zone : Zone) : Prop :=
  0 ≤ zone.index.j ∧ zone.index.j < mesh.interior.extent .j

section Chained

variable {mesh : Mesh R} {zone : Zone}

theorem Mesh.abreast_of_mem (inside : zone.index ∈ mesh.interior) : mesh.Abreast zone :=
  mem_interior.mp inside .j

/-- Guard zones of the second axis stand for nothing when the blocks are chained along the first. -/
theorem Mesh.chained_of_beside (beside : ¬ mesh.Abreast zone) : mesh.chained .i zone = none := by
  by_contra found
  obtain ⟨origin, given⟩ := Option.ne_none_iff_exists'.mp found
  have same : origin.index.j = zone.index.j := get_of_chained (by decide : Axis.j ≠ .i) given
  have abreast := abreast_of_mem (mem_of_chained given).2
  rw [Abreast, same] at abreast
  exact beside abreast

end Chained

variable [Scalar R]

/-- Blocks that repeat the blocks of a line of zones along the second axis. -/
structure Mesh.Extrudes (mesh line : Mesh R) : Prop where
  length : mesh.interior.extent .i = line.interior.extent .i
  wide : 1 < mesh.interior.extent .j
  thin : mesh.interior.extent .k = 1
  line_narrow : line.interior.extent .j = 1
  line_thin : line.interior.extent .k = 1
  guardDepth : mesh.guardDepth = line.guardDepth
  numBlocks : mesh.numBlocks = line.numBlocks
  spacing : ∀ block, mesh.spacingAt block .i = line.spacingAt block .i

/-- Blocks that are built like those of a line of zones, but wider along the second axis. -/
theorem Mesh.extrudes_of_built {mesh line : Mesh R} {length width numGuard : Int}
    {spacing lineSpacing : Array (PerAxis R)}
    (built : ofSpacings? ⟨length, width, 1⟩ numGuard spacing = .ok mesh)
    (lineBuilt : ofSpacings? ⟨length, 1, 1⟩ numGuard lineSpacing = .ok line)
    (wide : 1 < width) (same : spacing.map (·.i) = lineSpacing.map (·.i)) :
    mesh.Extrudes line ∧ (mesh.interior.extent .j : Int) = width := by
  obtain ⟨size, depth, spaced⟩ := ofSpacings?_inversion built
  obtain ⟨lineSize, lineDepth, lineSpaced⟩ := ofSpacings?_inversion lineBuilt
  have sizes := Axis.forall_iff.mp size
  have lineSizes := Axis.forall_iff.mp lineSize
  simp only [PerAxis.get] at sizes lineSizes
  have blocks : mesh.numBlocks = line.numBlocks := by
    have counted := congrArg Array.size same
    rwa [Array.size_map, Array.size_map, ← spaced, ← lineSpaced] at counted
  refine ⟨⟨by omega, by omega, by omega, by omega, by omega, ?_, blocks, fun block => ?_⟩, sizes.2.1⟩
  · rw [depth, lineDepth]
  · have read := congrArg (fun values : Array R => values[block]?) same
    simp only [Array.getElem?_map] at read
    unfold spacingAt
    rw [spaced, lineSpaced]
    exact congrArg (·.getD 0) read

namespace Mesh.Extrudes

variable {mesh line : Mesh R} {zone cell face : Zone}

section Axes

theorem isActive_j (extrudes : mesh.Extrudes line) : mesh.isActive .j = true := by
  simp [isActive, dimensionality, extrudes.wide, extrudes.thin]

theorem activeAxes (extrudes : mesh.Extrudes line) : mesh.activeAxes = [.i, .j] := by
  have first : mesh.isActive .i = true := rfl
  have second := extrudes.isActive_j
  have third : mesh.isActive .k = false := by
    simp [isActive, dimensionality, extrudes.wide, extrudes.thin]
  simp [Mesh.activeAxes, Axis.all, first, second, third]

theorem line_activeAxes (extrudes : mesh.Extrudes line) : line.activeAxes = [.i] := by
  have first : line.isActive .i = true := rfl
  have others : line.isActive .j = false ∧ line.isActive .k = false := by
    simp [isActive, dimensionality, extrudes.line_narrow, extrudes.line_thin]
  simp [Mesh.activeAxes, Axis.all, first, others]

theorem reach_i (extrudes : mesh.Extrudes line) : mesh.reach .i = line.reach .i :=
  extrudes.guardDepth

theorem reach_k (extrudes : mesh.Extrudes line) : mesh.reach .k = 0 ∧ line.reach .k = 0 := by
  simp [reach, isActive, dimensionality, extrudes.thin, extrudes.wide, extrudes.line_thin,
    extrudes.line_narrow]

end Axes

section Membership

/-- Abreast of the interior a zone is a cell exactly when the zone of the line is. -/
theorem onLine_mem_interior (extrudes : mesh.Extrudes line) (abreast : mesh.Abreast zone) :
    zone.onLine.index ∈ line.interior ↔ zone.index ∈ mesh.interior := by
  obtain ⟨lower, upper⟩ := abreast
  rw [mem_interior, mem_interior, Axis.forall_iff, Axis.forall_iff, extrudes.length, extrudes.thin,
    extrudes.line_narrow, extrudes.line_thin]
  simp only [Zone.onLine, PerAxis.set, PerAxis.modify, PerAxis.get]
  omega

theorem onLine_mem_interiorGrid (extrudes : mesh.Extrudes line) (abreast : mesh.Abreast zone) :
    zone.onLine ∈ line.interiorGrid ↔ zone ∈ mesh.interiorGrid := by
  have sameBlocks := extrudes.numBlocks
  constructor
  · rintro ⟨known, inside⟩
    exact ⟨known.trans_eq sameBlocks.symm, (extrudes.onLine_mem_interior abreast).mp inside⟩
  · rintro ⟨known, inside⟩
    exact ⟨known.trans_eq sameBlocks, (extrudes.onLine_mem_interior abreast).mpr inside⟩

theorem cell_mem (extrudes : mesh.Extrudes line) (inside : cell ∈ mesh.interiorGrid) :
    cell.onLine ∈ line.interiorGrid :=
  (extrudes.onLine_mem_interiorGrid (abreast_of_mem inside.2)).mpr inside

/-- Every zone lies over a zone of the line. -/
theorem zone_mem (extrudes : mesh.Extrudes line) (inside : zone ∈ mesh.extendedGrid) :
    zone.onLine ∈ line.extendedGrid := by
  refine ⟨inside.1.trans_eq extrudes.numBlocks, ?_⟩
  have range := Axis.forall_iff.mp (mem_extended.mp inside.2)
  obtain ⟨flat, lineFlat⟩ := extrudes.reach_k
  rw [extrudes.length, extrudes.thin, extrudes.reach_i, flat] at range
  have index : zone.onLine.index ∈ line.extended := by
    rw [mem_extended, Axis.forall_iff, extrudes.line_narrow, extrudes.line_thin, lineFlat]
    simp only [Zone.onLine, PerAxis.set, PerAxis.modify, PerAxis.get] at range ⊢
    omega
  exact index

omit [Scalar R] in
/-- Both cells of a face of the first axis lie abreast of the interior. -/
theorem face_abreast (inside : face ∈ mesh.faceGrid .i) :
    mesh.Abreast (face.shift (-1) .i) ∧ mesh.Abreast face := by
  have range := mem_faces.mp inside.2 .j
  rw [if_neg (by decide), Int.add_zero] at range
  exact ⟨range, range⟩

end Membership

/-- Zones that lie over one another stand for zones that do. -/
theorem chained_onLine (extrudes : mesh.Extrudes line) (abreast : mesh.Abreast zone) :
    line.chained .i zone.onLine = (mesh.chained .i zone).map Zone.onLine := by
  have found : ∀ target : Zone, target.index.j = zone.index.j →
      (if target.onLine ∈ line.interiorGrid then some target.onLine else none) =
        (if target ∈ mesh.interiorGrid then some target else none).map Zone.onLine := by
    intro target same
    have targetAbreast : mesh.Abreast target := by
      rw [Abreast, same]
      exact abreast
    by_cases known : target ∈ mesh.interiorGrid
    · rw [if_pos known, if_pos ((extrudes.onLine_mem_interiorGrid targetAbreast).mpr known)]
      rfl
    · rw [if_neg known, if_neg ((extrudes.onLine_mem_interiorGrid targetAbreast).not.mpr known)]
      rfl
  have place : zone.onLine.index.get .i = zone.index.get .i := rfl
  by_cases below : zone.index.get .i < 0
  · by_cases first : zone.block = 0
    · rw [chained_of_first below first, chained_of_first (place.trans_lt below) first]
      rfl
    · rw [chained_of_below below first, chained_of_below (place.trans_lt below) first,
        ← extrudes.length]
      exact found ⟨zone.block - 1, zone.index.shift (mesh.interior.extent .i) .i⟩ rfl
  · by_cases above : (mesh.interior.extent .i : Int) ≤ zone.index.get .i
    · rw [chained_of_above above, chained_of_above (by rwa [place, ← extrudes.length]),
        ← extrudes.length]
      exact found ⟨zone.block + 1, zone.index.shift (-mesh.interior.extent .i) .i⟩ rfl
    · unfold chained
      simp only [place, below, above, ← extrudes.length, if_false, bind, Option.bind]
      exact found zone rfl

section Counting

omit [Scalar R] in
/-- Marked zones are counted block by block. -/
theorem countP_zones (grid : Grid) (mark : Zone → Bool) :
    grid.zones.countP mark = ((List.range grid.numBlocks).map fun block =>
      grid.space.indexes.countP fun index => mark ⟨block, index⟩).sum := by
  unfold Grid.zones
  rw [List.countP_flatMap]
  simp only [Function.comp_def, List.countP_map]

/-- The cells of a block are those of the line, once for every place along the second axis. -/
theorem indexes_eq (extrudes : mesh.Extrudes line) :
    mesh.interior.indexes = (consecutive 0 (mesh.interior.extent .j)).flatMap fun j =>
      line.interior.indexes.map fun index => index.set .j j := by
  have lower : ∀ space : Mesh R,
      space.interior.lower.i = 0 ∧ space.interior.lower.j = 0 ∧ space.interior.lower.k = 0 :=
    fun space =>
      ⟨space.get_lower_interior .i, space.get_lower_interior .j, space.get_lower_interior .k⟩
  have single : consecutive 0 1 = [0] := rfl
  unfold IndexSpace.indexes
  simp only [lower, extrudes.length, extrudes.thin, extrudes.line_narrow, extrudes.line_thin, single,
    List.flatMap_cons, List.flatMap_nil, List.append_nil, List.map_map]
  rfl

/-- What marks the cells of the line marks as many more cells as the blocks are zones wide. -/
theorem countP_interiorGrid (extrudes : mesh.Extrudes line) {mark lineMark : Zone → Bool}
    (same : ∀ cell ∈ mesh.interiorGrid, mark cell = lineMark cell.onLine) :
    mesh.interiorGrid.zones.countP mark =
      mesh.interior.extent .j * line.interiorGrid.zones.countP lineMark := by
  have blocks : mesh.interiorGrid.numBlocks = line.interiorGrid.numBlocks := extrudes.numBlocks
  have side : ∀ block < mesh.numBlocks, ∀ j ∈ consecutive 0 (mesh.interior.extent .j),
      (line.interior.indexes.map fun index => index.set .j j).countP
          (fun index => mark ⟨block, index⟩) =
        line.interior.indexes.countP fun index => lineMark ⟨block, index⟩ := by
    intro block known j member
    rw [List.countP_map]
    apply List.countP_congr
    intro index inside
    have range := Axis.forall_iff.mp (mem_interior.mp (IndexSpace.mem_indexes.mp inside))
    rw [← extrudes.length, extrudes.line_narrow, extrudes.line_thin] at range
    have place := mem_consecutive.mp member
    simp only [PerAxis.get] at range
    have cell : (⟨block, index.set .j j⟩ : Zone) ∈ mesh.interiorGrid := by
      refine ⟨known, mem_interior.mpr (Axis.forall_iff.mpr ?_)⟩
      rw [extrudes.thin]
      simp only [PerAxis.set, PerAxis.modify, PerAxis.get]
      omega
    have zero : index.j = 0 := by omega
    have onLine : (⟨block, index.set .j j⟩ : Zone).onLine = ⟨block, index⟩ := by
      obtain ⟨i, _, k⟩ := index
      cases zero
      rfl
    rw [Function.comp_apply, same _ cell, onLine]
  have block : ∀ block ∈ List.range line.interiorGrid.numBlocks,
      (mesh.interiorGrid.space.indexes.countP fun index => mark ⟨block, index⟩) =
        mesh.interior.extent .j *
          line.interiorGrid.space.indexes.countP fun index => lineMark ⟨block, index⟩ := by
    intro block member
    have known : block < mesh.numBlocks := (List.mem_range.mp member).trans_eq blocks.symm
    change mesh.interior.indexes.countP _ = _
    rw [extrudes.indexes_eq, List.countP_flatMap, Function.comp_def,
      List.map_congr_left (side block known),
      List.map_const', List.sum_replicate, consecutive, List.length_map, List.length_range,
      smul_eq_mul]
    rfl
  rw [countP_zones, countP_zones, blocks, List.map_congr_left block, List.sum_map_mul_left]

end Counting

end Mesh.Extrudes

end BlockHydro
