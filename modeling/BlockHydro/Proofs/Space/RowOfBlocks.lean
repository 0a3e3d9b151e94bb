import BlockHydro.Proofs.Space.MeshShape
import BlockHydro.Stage.Setting

/-!
# A row of blocks and the undivided row

`Mesh.IsRow` describes blocks that are one zone wide and lie end to end along the
first axis, with one guard zone at each end.  `rowZone` finds a zone of such a row
in the row that is not divided into blocks.

The cells of the row are those of the undivided row, met in the same order.  A
guard zone between two blocks is found at the cell it stands for, and a guard
zone at an end of the row at the guard zone of that end.
-/

namespace BlockHydro

variable {R : Type} {mesh : Mesh R} {numBlocks length : Nat}

/-- A row of blocks along the first axis, each one zone wide and `length` zones long. -/
structure Mesh.IsRow (mesh : Mesh R) (numBlocks length : Nat) : Prop where
  blocks : mesh.numBlocks = numBlocks
  along : mesh.interior.extent .i = length
  across : mesh.interior.extent .j = 1
  upright : mesh.interior.extent .k = 1
  guard : mesh.guardDepth = 1

/-- The zone of the undivided row in the place of a zone of a row of blocks. -/
def rowZone (length : Nat) (zone : Zone) : Zone :=
  ⟨0, ⟨zone.block * length + zone.index.i, zone.index.j, zone.index.k⟩⟩

theorem rowZone_shift (length : Nat) (zone : Zone) (delta : Int) :
    rowZone length (zone.shift delta .i) = (rowZone length zone).shift delta .i := by
  simp [rowZone, Zone.shift, PerAxis.shift, PerAxis.modify, Int.add_assoc]

namespace Mesh.IsRow

variable {index : Index} {zone : Zone}

theorem isActive_j (row : mesh.IsRow numBlocks length) : mesh.isActive .j = false := by
  simp [isActive, dimensionality, row.across, row.upright]

theorem isActive_k (row : mesh.IsRow numBlocks length) : mesh.isActive .k = false := by
  simp [isActive, dimensionality, row.across, row.upright]

/-- Only the axis of the row is active. -/
theorem activeAxes_eq (row : mesh.IsRow numBlocks length) : mesh.activeAxes = [.i] := by
  have active : mesh.isActive .i = true := rfl
  simp [activeAxes, Axis.all, active, row.isActive_j, row.isActive_k]

theorem length_pos (row : mesh.IsRow numBlocks length) : 0 < length := by
  rw [← row.along]
  exact mesh.interior.extent_pos .i

theorem mem_interior_iff (row : mesh.IsRow numBlocks length) :
    index ∈ mesh.interior ↔ (0 ≤ index.i ∧ index.i < length) ∧ index.j = 0 ∧ index.k = 0 := by
  rw [mem_interior, Axis.forall_iff, row.along, row.across, row.upright]
  simp only [PerAxis.get]
  omega

theorem mem_extended_iff (row : mesh.IsRow numBlocks length) :
    index ∈ mesh.extended ↔ (-1 ≤ index.i ∧ index.i < length + 1) ∧ index.j = 0 ∧ index.k = 0 := by
  have active : mesh.isActive .i = true := rfl
  rw [mem_extended, Axis.forall_iff, row.along, row.across, row.upright, reach, reach, reach, row.guard,
    row.isActive_j, row.isActive_k, active]
  simp only [PerAxis.get, if_true, Bool.false_eq_true, if_false]
  omega

theorem mem_interiorGrid_iff (row : mesh.IsRow numBlocks length) :
    zone ∈ mesh.interiorGrid ↔ zone.block < numBlocks ∧
      (0 ≤ zone.index.i ∧ zone.index.i < length) ∧ zone.index.j = 0 ∧ zone.index.k = 0 := by
  rw [← row.mem_interior_iff, ← row.blocks]
  exact Iff.rfl

theorem mem_extendedGrid_iff (row : mesh.IsRow numBlocks length) :
    zone ∈ mesh.extendedGrid ↔ zone.block < numBlocks ∧
      (-1 ≤ zone.index.i ∧ zone.index.i < length + 1) ∧ zone.index.j = 0 ∧ zone.index.k = 0 := by
  rw [← row.mem_extended_iff, ← row.blocks]
  exact Iff.rfl

/-- A block has two guard zones. -/
theorem extendedGrid_size (row : mesh.IsRow numBlocks length) :
    mesh.extendedGrid.size = numBlocks * (length + 2) := by
  have active : mesh.isActive .i = true := rfl
  unfold Grid.size extendedGrid IndexSpace.volume
  simp [extent_extended, row.blocks, row.along, row.across, row.upright, reach, row.guard, active,
    row.isActive_j, row.isActive_k]

/-- The cells of a block, from the first to the last. -/
theorem indexes_eq (row : mesh.IsRow numBlocks length) :
    mesh.interior.indexes = (List.range length).map fun step : Nat => ⟨step, 0, 0⟩ := by
  have lowerI : mesh.interior.lower.i = 0 := get_lower_interior mesh .i
  have lowerJ : mesh.interior.lower.j = 0 := get_lower_interior mesh .j
  have lowerK : mesh.interior.lower.k = 0 := get_lower_interior mesh .k
  unfold IndexSpace.indexes consecutive
  simp [row.along, row.across, row.upright, lowerI, lowerJ, lowerK]

end Mesh.IsRow

/-- Equal blocks that are one zone wide make a row. -/
theorem Mesh.exists_row {spacing : Array (PerAxis R)} (someBlock : 0 < spacing.size)
    (someZone : 0 < length) :
    ∃ mesh : Mesh R, ofSpacings? ⟨length, 1, 1⟩ 1 spacing = .ok mesh ∧
      mesh.IsRow spacing.size length ∧ mesh.spacing = spacing := by
  have nonempty : ∀ axis,
      (PerAxis.replicate 0 : Index).get axis < (⟨length, 1, 1⟩ : Index).get axis := by
    intro axis
    cases axis <;> simp [PerAxis.replicate, PerAxis.get, someZone]
  unfold ofSpacings?
  rw [dif_pos someBlock, dif_pos (Int.le_refl 1)]
  split
  next interior built =>
    have space : interior = ⟨PerAxis.replicate 0, ⟨length, 1, 1⟩, nonempty⟩ := by
      unfold blockSpace? IndexSpace.ofBounds? at built
      rw [dif_pos nonempty] at built
      exact (Except.ok.inj built).symm
    subst space
    exact ⟨_, rfl, ⟨rfl, by simp [IndexSpace.extent, PerAxis.get, PerAxis.replicate], rfl, rfl, rfl⟩, rfl⟩
  next cause built =>
    unfold blockSpace? IndexSpace.ofBounds? at built
    rw [dif_pos nonempty] at built
    cases built

section Rows

variable {many one : Mesh R} {zone : Zone}

/-- A block lies between the ends of the row. -/
theorem block_in_row {block : Nat} (known : block < numBlocks) (length : Nat) :
    0 ≤ (block : Int) * length ∧ (block : Int) * length + length ≤ (numBlocks * length : Nat) := by
  have whole : (block + 1) * length ≤ numBlocks * length := Nat.mul_le_mul_right length known
  rw [Nat.add_mul, Nat.one_mul] at whole
  exact ⟨Int.mul_nonneg (Int.natCast_nonneg block) (Int.natCast_nonneg length), by exact_mod_cast whole⟩

theorem rowZone_mem_interiorGrid (rows : many.IsRow numBlocks length)
    (row : one.IsRow 1 (numBlocks * length)) (inside : zone ∈ many.interiorGrid) :
    rowZone length zone ∈ one.interiorGrid := by
  rw [rows.mem_interiorGrid_iff] at inside
  have between := block_in_row inside.1 length
  rw [row.mem_interiorGrid_iff]
  dsimp only [rowZone]
  omega

/-- The cells of the blocks, in their order, are those of the undivided row. -/
theorem map_rowZone_zones (rows : many.IsRow numBlocks length)
    (row : one.IsRow 1 (numBlocks * length)) :
    many.interiorGrid.zones.map (rowZone length) = one.interiorGrid.zones := by
  have manyZones : many.interiorGrid.zones = (List.range numBlocks).flatMap fun block =>
      (List.range length).map fun step : Nat => ⟨block, ⟨step, 0, 0⟩⟩ := by
    unfold Grid.zones
    simp only [Mesh.interiorGrid, rows.blocks, rows.indexes_eq, List.map_map]
    rfl
  have oneZones : one.interiorGrid.zones =
      (List.range (length * numBlocks)).map fun step : Nat => ⟨0, ⟨step, 0, 0⟩⟩ := by
    unfold Grid.zones
    simp only [Mesh.interiorGrid, row.blocks, row.indexes_eq, List.map_map, Nat.mul_comm]
    simp
  rw [manyZones, oneZones, range_mul, List.map_flatMap, List.map_flatMap]
  apply List.flatMap_congr
  intro block _
  rw [List.map_map, List.map_map]
  apply List.map_congr_left
  intro step _
  simp [rowZone, Int.mul_comm]

/-- A guard zone is before the row, past the row or between two blocks. -/
theorem Mesh.IsRow.guard_cases (rows : many.IsRow numBlocks length) (inside : zone ∈ many.extendedGrid)
    (guard : zone.index ∉ many.interior) :
    (zone.index.i = -1 ∧ zone.block = 0) ∨ (zone.index.i = length ∧ zone.block + 1 = numBlocks) ∨
      (zone.index.i = -1 ∧ zone.block ≠ 0 ∨ zone.index.i = length ∧ zone.block + 1 ≠ numBlocks) := by
  rw [rows.mem_extendedGrid_iff] at inside
  rw [rows.mem_interior_iff] at guard
  omega

/-- A guard zone below the first block takes the data of the first cell. -/
theorem Mesh.IsRow.rowSource_first (rows : many.IsRow numBlocks length)
    (below : zone.index.i = -1) (first : zone.block = 0) :
    many.chained .i zone = none ∧
      many.rowSource zone = { zone with index := { zone.index with i := 0 } } := by
  have standsForNone : many.chained .i zone = none :=
    chained_of_first (by simp only [PerAxis.get, below]; decide) first
  have someLength := rows.length_pos
  refine ⟨standsForNone, ?_⟩
  unfold rowSource
  rw [standsForNone, rows.along, below]
  have clamped : min (max (-1) 0) ((length : Int) - 1) = 0 := by omega
  simp only [clamped]

/-- A guard zone above the last block takes the data of the last cell. -/
theorem Mesh.IsRow.rowSource_last (rows : many.IsRow numBlocks length)
    (above : zone.index.i = length) (last : zone.block + 1 = numBlocks) :
    many.chained .i zone = none ∧
      many.rowSource zone = { zone with index := { zone.index with i := (length : Int) - 1 } } := by
  have beyond : (many.interior.extent .i : Int) ≤ zone.index.get .i := by
    simp only [PerAxis.get, rows.along, above, Int.le_refl]
  have standsForNone : many.chained .i zone = none := by
    rw [chained_of_above beyond]
    refine if_neg fun target => ?_
    have known := target.1
    rw [show many.interiorGrid.numBlocks = numBlocks from rows.blocks] at known
    dsimp only at known
    omega
  refine ⟨standsForNone, ?_⟩
  unfold rowSource
  rw [standsForNone, rows.along, above]
  have clamped : min (max (length : Int) 0) ((length : Int) - 1) = (length : Int) - 1 := by omega
  simp only [clamped]

/-- A guard zone between two blocks stands for a cell in the same place of the row. -/
theorem Mesh.IsRow.chained_between (rows : many.IsRow numBlocks length)
    (inside : zone ∈ many.extendedGrid)
    (between : zone.index.i = -1 ∧ zone.block ≠ 0 ∨
      zone.index.i = length ∧ zone.block + 1 ≠ numBlocks) :
    ∃ origin ∈ many.interiorGrid, many.chained .i zone = some origin ∧
      rowZone length origin = rowZone length zone := by
  have someLength := rows.length_pos
  rw [rows.mem_extendedGrid_iff] at inside
  obtain ⟨below, later⟩ | ⟨above, earlier⟩ := between
  · have target : (⟨zone.block - 1, zone.index.shift (many.interior.extent .i) .i⟩ : Zone) ∈
        many.interiorGrid := by
      rw [rows.mem_interiorGrid_iff, rows.along]
      simp only [PerAxis.shift, PerAxis.modify]
      omega
    refine ⟨_, target, ?_, ?_⟩
    · rw [chained_of_below (by simp only [PerAxis.get, below]; decide) later]
      exact if_pos target
    · obtain ⟨before, sameBlock⟩ := Nat.exists_eq_succ_of_ne_zero later
      simp [rowZone, PerAxis.shift, PerAxis.modify, rows.along, sameBlock, Int.add_mul]
      omega
  · have target : (⟨zone.block + 1, zone.index.shift (-many.interior.extent .i) .i⟩ : Zone) ∈
        many.interiorGrid := by
      rw [rows.mem_interiorGrid_iff, rows.along]
      simp only [PerAxis.shift, PerAxis.modify]
      omega
    refine ⟨_, target, ?_, ?_⟩
    · rw [chained_of_above (by simp only [PerAxis.get, rows.along, above, Int.le_refl])]
      exact if_pos target
    · simp [rowZone, PerAxis.shift, PerAxis.modify, rows.along, Int.add_mul]
      omega

/-- What stands for a zone of the row is stored where the zone's fields come from. -/
theorem Mesh.rowSource_of_chained {origin : Zone} (given : mesh.chained .i zone = some origin) :
    mesh.rowSource zone = origin := by
  unfold rowSource
  rw [given]

/-- Every zone takes its fields from a cell. -/
theorem Mesh.IsRow.rowSource_mem (rows : many.IsRow numBlocks length)
    (inside : zone ∈ many.extendedGrid) : many.rowSource zone ∈ many.interiorGrid := by
  by_cases interior : zone.index ∈ many.interior
  · have cell : zone ∈ many.interiorGrid := ⟨inside.1, interior⟩
    rwa [rowSource_of_chained (chained_of_mem .i cell)]
  · have someLength := rows.length_pos
    obtain ⟨below, first⟩ | ⟨above, last⟩ | between := rows.guard_cases inside interior
    · rw [(rows.rowSource_first below first).2, rows.mem_interiorGrid_iff]
      rw [rows.mem_extendedGrid_iff] at inside
      dsimp only
      omega
    · rw [(rows.rowSource_last above last).2, rows.mem_interiorGrid_iff]
      rw [rows.mem_extendedGrid_iff] at inside
      dsimp only
      omega
    · obtain ⟨origin, cell, given, _⟩ := rows.chained_between inside between
      rwa [rowSource_of_chained given]

/-- A guard zone at an end of a row of blocks, and of the undivided row. -/
structure AtRowEnd (many one : Mesh R) (length : Nat) (zone : Zone) : Prop where
  standsForNone : many.chained .i zone = none
  alsoForNone : one.chained .i (rowZone length zone) = none
  guard : (rowZone length zone).index ∉ one.interior
  sameSource : rowZone length (many.rowSource zone) = one.rowSource (rowZone length zone)

/-- A guard zone stands for a cell in the same place of the row, or is at an end of the row. -/
theorem guard_in_row (rows : many.IsRow numBlocks length) (row : one.IsRow 1 (numBlocks * length))
    (inside : zone ∈ many.extendedGrid) (guard : zone.index ∉ many.interior) :
    (∃ origin ∈ many.interiorGrid, many.chained .i zone = some origin ∧
      rowZone length origin = rowZone length zone) ∨ AtRowEnd many one length zone := by
  obtain ⟨below, first⟩ | ⟨above, last⟩ | between := rows.guard_cases inside guard
  · right
    have sameIndex : (rowZone length zone).index.i = -1 := by simp [rowZone, below, first]
    obtain ⟨none, source⟩ := rows.rowSource_first below first
    obtain ⟨alsoNone, alsoSource⟩ := row.rowSource_first sameIndex rfl
    refine ⟨none, alsoNone, ?_, ?_⟩
    · rw [row.mem_interior_iff]
      omega
    · rw [source, alsoSource]
      simp [rowZone, first]
  · right
    have sameIndex : (rowZone length zone).index.i = (numBlocks * length : Nat) := by
      simp [rowZone, above, ← last, Int.add_mul]
    obtain ⟨none, source⟩ := rows.rowSource_last above last
    obtain ⟨alsoNone, alsoSource⟩ := row.rowSource_last sameIndex rfl
    refine ⟨none, alsoNone, ?_, ?_⟩
    · rw [row.mem_interior_iff]
      omega
    · rw [source, alsoSource]
      simp [rowZone, ← last, Int.add_mul]
      omega
  · exact .inl (rows.chained_between inside between)

end Rows

end BlockHydro
