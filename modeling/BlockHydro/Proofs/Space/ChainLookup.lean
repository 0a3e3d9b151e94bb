import BlockHydro.Proofs.Space.BoundaryFaces
import BlockHydro.Proofs.Space.RowOfBlocks

/-!
# Places in a row of blocks

Blocks that are laid end to end along an axis make one row.  In it a zone has a
place: its index along the axis, counted on from the blocks before its own.  A zone
of the row stands for the cell in the same place and the same line of zones
(`Mesh.StandsFor`), and a zone off the row stands for none; neither notion asks how
the cell is found.

`Mesh.chained` carries at most one block in either direction.  It finds the cell that
a zone stands for if the zone is no more than one block away from its own block, and
otherwise it finds none, even where the zone lies in the row
(`Mesh.chained_eq_some_iff`).  Guard zones as deep as that meet a row of three blocks
before they leave it, so what `Mesh.chained` finds is right for all zones of a mesh
exactly if its guard layer is no deeper than a block is long, or its row has no third
block (`Mesh.chained_locates_iff`).
-/

namespace BlockHydro

namespace Mesh

variable {R : Type} {mesh : Mesh R} {axis : Axis} {zone origin : Zone}

/-- The place of a zone in the row of blocks along an axis. -/
def rowPlace (mesh : Mesh R) (axis : Axis) (zone : Zone) : Int :=
  zone.block * mesh.interior.extent axis + zone.index.get axis

/-- The number of places in the row of blocks along an axis. -/
def rowLength (mesh : Mesh R) (axis : Axis) : Int :=
  mesh.numBlocks * mesh.interior.extent axis

/-- A zone outside the interior on an axis across the row. -/
def Beside (mesh : Mesh R) (axis : Axis) (zone : Zone) : Prop :=
  ∃ other ≠ axis, zone.index.get other < 0 ∨ mesh.interior.extent other ≤ zone.index.get other

/-- A zone past either end of the row of blocks, or beside it. -/
def OffRow (mesh : Mesh R) (axis : Axis) (zone : Zone) : Prop :=
  mesh.rowPlace axis zone < 0 ∨ mesh.rowLength axis ≤ mesh.rowPlace axis zone ∨
    mesh.Beside axis zone

/-- A zone stands for the cell in its place of the row and its line of zones. -/
structure StandsFor (mesh : Mesh R) (axis : Axis) (zone origin : Zone) : Prop where
  cell : origin ∈ mesh.interiorGrid
  samePlace : mesh.rowPlace axis origin = mesh.rowPlace axis zone
  sameLine : ∀ other ≠ axis, origin.index.get other = zone.index.get other

/-- The right answer to where the data of a zone are: none off the row, else the cell that the zone
stands for. -/
structure Locates (mesh : Mesh R) (axis : Axis) (zone : Zone) (found : Option Zone) : Prop where
  none_iff : found = none ↔ mesh.OffRow axis zone
  otherwise : ¬ mesh.OffRow axis zone → ∃ origin, found = some origin ∧ mesh.StandsFor axis zone origin

/-- A zone in the place of its own block or of a block next to it. -/
def Nearby (mesh : Mesh R) (axis : Axis) (zone : Zone) : Prop :=
  -(mesh.interior.extent axis : Int) ≤ zone.index.get axis ∧
    zone.index.get axis < 2 * mesh.interior.extent axis

/-- The zone in a place of the row, in the line of zones through an index. -/
def rowCell (mesh : Mesh R) (axis : Axis) (place : Int) (index : Index) : Zone :=
  ⟨(place / mesh.interior.extent axis).toNat, index.set axis (place % mesh.interior.extent axis)⟩

section Places

/-- A zone whose index lies in its block is the one in its place. -/
theorem rowCell_rowPlace (inBlock : 0 ≤ zone.index.get axis ∧
    zone.index.get axis < mesh.interior.extent axis) :
    mesh.rowCell axis (mesh.rowPlace axis zone) zone.index = zone := by
  obtain ⟨positive, small⟩ := inBlock
  have someLength : (mesh.interior.extent axis : Int) ≠ 0 := by omega
  have block : mesh.rowPlace axis zone / mesh.interior.extent axis = zone.block := by
    rw [rowPlace, Int.mul_comm, Int.mul_add_ediv_left _ _ someLength,
      Int.ediv_eq_zero_of_lt positive small, Int.add_zero]
  have index : mesh.rowPlace axis zone % mesh.interior.extent axis = zone.index.get axis := by
    rw [rowPlace, Int.mul_comm, Int.mul_add_emod_self_left, Int.emod_eq_of_lt positive small]
  rw [rowCell, block, index, Int.toNat_natCast, PerAxis.set_get]

/-- The line of zones through an index is that of every index which differs along the axis only. -/
theorem rowCell_congr {index other : Index} (place : Int)
    (sameLine : ∀ across ≠ axis, index.get across = other.get across) :
    mesh.rowCell axis place index = mesh.rowCell axis place other := by
  unfold rowCell
  congr 1
  ext across
  rw [PerAxis.get_set, PerAxis.get_set]
  split
  next => rfl
  next different => exact sameLine across different

/-- The place of the zone in a place is that place. -/
theorem rowPlace_rowCell {place : Int} (positive : 0 ≤ place) (index : Index) :
    mesh.rowPlace axis (mesh.rowCell axis place index) = place := by
  have blockPositive : 0 ≤ place / mesh.interior.extent axis :=
    Int.ediv_nonneg positive (Int.natCast_nonneg _)
  rw [rowPlace, rowCell, PerAxis.get_set_self, Int.toNat_of_nonneg blockPositive, Int.mul_comm,
    Int.mul_ediv_add_emod]

/-- Every place of the row is in the interior of one of its blocks. -/
theorem rowCell_mem_interiorGrid {place : Int} (positive : 0 ≤ place)
    (small : place < mesh.rowLength axis) (abreast : ¬ mesh.Beside axis zone) :
    mesh.rowCell axis place zone.index ∈ mesh.interiorGrid := by
  have someLength := mesh.interior.extent_pos axis
  constructor
  · have known : place / mesh.interior.extent axis < mesh.numBlocks :=
      Int.ediv_lt_of_lt_mul (by omega) small
    change (place / mesh.interior.extent axis).toNat < mesh.numBlocks
    have blockPositive : 0 ≤ place / mesh.interior.extent axis :=
      Int.ediv_nonneg positive (Int.natCast_nonneg _)
    omega
  · refine mem_interior.mpr fun other => ?_
    rw [rowCell, PerAxis.get_set]
    split
    next same =>
      subst same
      exact ⟨Int.emod_nonneg _ (by omega), Int.emod_lt_of_pos _ (by omega)⟩
    next different =>
      by_contra outside
      exact abreast ⟨other, different, by omega⟩

/-- The cell that a zone of the row stands for is the one in its place, and off the row there is
none. -/
theorem standsFor_iff : mesh.StandsFor axis zone origin ↔
    ¬ mesh.OffRow axis zone ∧ origin = mesh.rowCell axis (mesh.rowPlace axis zone) zone.index := by
  constructor
  · intro stands
    have inBlock := mem_interior.mp stands.cell.2
    have between := block_in_row stands.cell.1 (mesh.interior.extent axis)
    have place := stands.samePlace
    constructor
    · rintro (below | above | ⟨other, different, outside⟩)
      · have range := inBlock axis
        rw [rowPlace] at place
        omega
      · have range := inBlock axis
        rw [rowPlace] at place
        rw [rowLength] at above
        push_cast [interiorGrid] at between
        omega
      · have range := inBlock other
        rw [stands.sameLine other different] at range
        omega
    · rw [← place, ← rowCell_congr _ stands.sameLine, rowCell_rowPlace (inBlock axis)]
  · rintro ⟨onRow, rfl⟩
    simp only [OffRow, not_or, Int.not_lt, Int.not_le] at onRow
    obtain ⟨positive, small, abreast⟩ := onRow
    exact ⟨rowCell_mem_interiorGrid positive small abreast, rowPlace_rowCell positive _,
      fun other different => PerAxis.get_set_of_ne _ _ different⟩

end Places

section Lookup

/-- Keeping a candidate in the same place and line only if it is a cell finds the cell that a zone
stands for, provided that the zone is nearby. -/
theorem cell_eq_some_iff {target : Zone} (samePlace : mesh.rowPlace axis target = mesh.rowPlace axis zone)
    (sameLine : ∀ other ≠ axis, target.index.get other = zone.index.get other)
    (inBlock : mesh.Nearby axis zone ↔
      0 ≤ target.index.get axis ∧ target.index.get axis < mesh.interior.extent axis) :
    (if target ∈ mesh.interiorGrid then some target else none) = some origin ↔
      mesh.StandsFor axis zone origin ∧ mesh.Nearby axis zone := by
  constructor
  · intro found
    split at found
    next cell =>
      cases found
      exact ⟨⟨cell, samePlace, sameLine⟩, inBlock.mpr (mem_interior.mp cell.2 axis)⟩
    next => cases found
  · rintro ⟨stands, nearby⟩
    have same : origin = target := by
      rw [(standsFor_iff.mp stands).2, ← samePlace, ← rowCell_congr _ sameLine,
        rowCell_rowPlace (inBlock.mp nearby)]
    rw [← same, if_pos stands.cell]

/-- The lookup finds the cell that a zone stands for, if the zone is no more than one block away. -/
theorem chained_eq_some_iff : mesh.chained axis zone = some origin ↔
    mesh.StandsFor axis zone origin ∧ mesh.Nearby axis zone := by
  have someLength := mesh.interior.extent_pos axis
  have across : ∀ delta : Int, ∀ other ≠ axis,
      (zone.index.shift delta axis).get other = zone.index.get other :=
    fun delta other different => IndexSpace.get_shift_of_ne _ _ different
  by_cases below : zone.index.get axis < 0
  · by_cases first : zone.block = 0
    · rw [chained_of_first below first]
      have beforeRow : mesh.OffRow axis zone := .inl (by simpa [rowPlace, first] using below)
      simp [standsFor_iff, beforeRow]
    · rw [chained_of_below below first]
      refine cell_eq_some_iff ?_ (across _) ?_
      · obtain ⟨before, sameBlock⟩ := Nat.exists_eq_succ_of_ne_zero first
        simp only [rowPlace, IndexSpace.get_shift_self, sameBlock, Nat.succ_sub_one]
        push_cast [Int.add_mul]
        omega
      · simp only [Nearby, IndexSpace.get_shift_self]
        omega
  · by_cases above : (mesh.interior.extent axis : Int) ≤ zone.index.get axis
    · rw [chained_of_above above]
      refine cell_eq_some_iff ?_ (across _) ?_
      · simp only [rowPlace, IndexSpace.get_shift_self]
        push_cast [Int.add_mul]
        omega
      · simp only [Nearby, IndexSpace.get_shift_self]
        omega
    · have own : mesh.chained axis zone =
          if zone ∈ mesh.interiorGrid then some zone else none := by
        unfold chained
        simp only [below, above, if_false, bind, Option.bind]
      rw [own]
      refine cell_eq_some_iff rfl (fun _ _ => rfl) ?_
      simp only [Nearby]
      omega

/-- The lookup finds nothing off the row and nothing more than one block away. -/
theorem chained_eq_none_iff :
    mesh.chained axis zone = none ↔ mesh.OffRow axis zone ∨ ¬ mesh.Nearby axis zone := by
  rw [Option.eq_none_iff_forall_ne_some]
  simp only [ne_eq, chained_eq_some_iff, standsFor_iff]
  constructor
  · intro misses
    by_contra onRow
    rw [not_or, not_not] at onRow
    exact misses _ ⟨⟨onRow.1, rfl⟩, onRow.2⟩
  · rintro (offRow | far) origin ⟨⟨onRow, _⟩, nearby⟩
    · exact onRow offRow
    · exact far nearby

/-- The lookup answers rightly except for a zone of the row that is more than one block away. -/
theorem locates_chained_iff : mesh.Locates axis zone (mesh.chained axis zone) ↔
    (mesh.Nearby axis zone ∨ mesh.OffRow axis zone) := by
  constructor
  · intro locates
    by_contra far
    rw [not_or] at far
    exact far.2 (locates.none_iff.mp (chained_eq_none_iff.mpr (.inr far.1)))
  · intro answered
    constructor
    case none_iff =>
      rw [chained_eq_none_iff]
      exact ⟨fun misses => misses.elim id answered.resolve_left, .inl⟩
    case otherwise =>
      intro onRow
      obtain nearby | offRow := answered
      · have stands := standsFor_iff.mpr ⟨onRow, rfl⟩
        exact ⟨_, chained_eq_some_iff.mpr ⟨stands, nearby⟩, stands⟩
      · exact absurd offRow onRow

end Lookup

section Depth

/-- Guard zones no deeper than a block lie no more than one block away. -/
theorem nearby_of_shallow (shallow : mesh.reach axis ≤ mesh.interior.extent axis)
    (inside : zone ∈ mesh.extendedGrid) : mesh.Nearby axis zone := by
  have range := mem_extended.mp inside.2 axis
  unfold Nearby
  omega

/-- In a row of at most two blocks, a zone more than one block away is past an end of the row. -/
theorem offRow_of_far (short : mesh.numBlocks ≤ 2) (inside : zone ∈ mesh.extendedGrid)
    (far : ¬ mesh.Nearby axis zone) : mesh.OffRow axis zone := by
  have known : zone.block < mesh.numBlocks := inside.1
  have within : (mesh.numBlocks : Int) * mesh.interior.extent axis ≤ 2 * mesh.interior.extent axis :=
    Int.mul_le_mul_of_nonneg_right (by omega) (Int.natCast_nonneg _)
  have between := block_in_row known (mesh.interior.extent axis)
  push_cast at between
  unfold Nearby at far
  unfold OffRow rowPlace rowLength
  omega

/-- The guard zone of the third block that stands one zone deeper than a block is long. -/
def deepGuard (mesh : Mesh R) (axis : Axis) : Zone :=
  ⟨2, (PerAxis.replicate 0).set axis (-mesh.interior.extent axis - 1)⟩

/-- In a row of three blocks such a guard zone stands for the last cell of the first block. -/
theorem deepGuard_onRow (long : 2 < mesh.numBlocks) : ¬ mesh.OffRow axis (mesh.deepGuard axis) := by
  have someLength := mesh.interior.extent_pos
  have within : 3 * (mesh.interior.extent axis : Int) ≤ mesh.numBlocks * mesh.interior.extent axis :=
    Int.mul_le_mul_of_nonneg_right (by omega) (Int.natCast_nonneg _)
  have positive := someLength axis
  unfold OffRow rowPlace rowLength deepGuard
  simp only [PerAxis.get_set_self]
  rintro (below | above | ⟨other, different, outside⟩)
  · omega
  · omega
  · have zero : (PerAxis.replicate 0 : Index).get other = 0 := by cases other <;> rfl
    have positive := someLength other
    rw [PerAxis.get_set_of_ne _ _ different, zero] at outside
    omega

theorem deepGuard_mem (long : 2 < mesh.numBlocks) (deep : mesh.interior.extent axis < mesh.reach axis) :
    mesh.deepGuard axis ∈ mesh.extendedGrid := by
  refine ⟨long, mem_extended.mpr fun other => ?_⟩
  have someLength := mesh.interior.extent_pos other
  have zero : (PerAxis.replicate 0 : Index).get other = 0 := by cases other <;> rfl
  rw [deepGuard, PerAxis.get_set]
  split
  next same =>
    subst same
    omega
  next =>
    rw [zero]
    omega

theorem deepGuard_far : ¬ mesh.Nearby axis (mesh.deepGuard axis) := by
  simp only [Nearby, deepGuard, PerAxis.get_set_self]
  omega

end Depth

/-- The lookup finds exactly the cells that zones no more than one block away stand for.  So it answers
rightly for all zones of a mesh exactly if guard zones are no deeper than a block is long, or the row
has no third block. -/
theorem chained_locates_iff (mesh : Mesh R) (axis : Axis) :
    (∀ zone origin, mesh.chained axis zone = some origin ↔
      mesh.StandsFor axis zone origin ∧ mesh.Nearby axis zone) ∧
    ((∀ zone ∈ mesh.extendedGrid, mesh.Locates axis zone (mesh.chained axis zone)) ↔
      mesh.reach axis ≤ mesh.interior.extent axis ∨ mesh.numBlocks ≤ 2) := by
  refine ⟨fun _ _ => chained_eq_some_iff, ?_⟩
  simp only [locates_chained_iff]
  constructor
  · intro answered
    by_contra deep
    rw [not_or, Nat.not_le, Nat.not_le] at deep
    obtain nearby | offRow := answered _ (deepGuard_mem deep.2 deep.1)
    · exact deepGuard_far nearby
    · exact deepGuard_onRow deep.2 offRow
  · rintro (shallow | short) zone inside
    · exact .inl (nearby_of_shallow shallow inside)
    · exact or_iff_not_imp_left.mpr (offRow_of_far short inside)

/-- A row of three blocks of one cell, with guard zones two deep. -/
def deepRow : Mesh Float where
  interior := ⟨⟨0, 0, 0⟩, ⟨1, 1, 1⟩, by decide⟩
  guardDepth := 2
  spacing := .replicate 3 ⟨1, 1, 1⟩
  lower_eq_zero := rfl
  guardDepth_pos := Nat.two_pos
  spacing_nonempty := by decide

/-- The deepest guard zone of the third block stands for the first cell of the row, and the lookup finds
nothing for it. -/
theorem chained_misses_first_cell :
    uniform? 3 ⟨1, 1, 1⟩ 2 ⟨1, 1, 1⟩ = .ok deepRow ∧
      ⟨2, ⟨-2, 0, 0⟩⟩ ∈ deepRow.extendedGrid ∧
      deepRow.StandsFor .i ⟨2, ⟨-2, 0, 0⟩⟩ ⟨0, ⟨0, 0, 0⟩⟩ ∧
      deepRow.chained .i ⟨2, ⟨-2, 0, 0⟩⟩ = none ∧
      ¬ deepRow.Locates .i ⟨2, ⟨-2, 0, 0⟩⟩ (deepRow.chained .i ⟨2, ⟨-2, 0, 0⟩⟩) := by
  have stands : deepRow.StandsFor .i ⟨2, ⟨-2, 0, 0⟩⟩ ⟨0, ⟨0, 0, 0⟩⟩ :=
    ⟨by decide, by decide, by decide⟩
  have none : deepRow.chained .i ⟨2, ⟨-2, 0, 0⟩⟩ = none := by decide
  refine ⟨rfl, by decide, stands, none, fun locates => ?_⟩
  exact (standsFor_iff.mp stands).1 (locates.none_iff.mp none)

end Mesh

end BlockHydro
