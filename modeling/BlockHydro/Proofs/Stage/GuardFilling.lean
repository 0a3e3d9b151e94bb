import BlockHydro.Proofs.Space.ChainLookup
import BlockHydro.Proofs.Stage.UpdatePass

/-!
# Guard zones as samples of the row

Every zone has one source, the zone whose fields it holds once the guard zones of a
row of blocks are filled; a cell is its own source.  A source is always in its block
along the row, so it is a source of itself, and filling twice is filling once
(`Mesh.rowSource_rowSource`, `Mesh.filled_filled`).

Where guard zones are no deeper than a block is long, the source of a zone of the row
is the cell nearest to its place in the whole row (`Mesh.rowSource_eq_nearestCell`):
the lookup of neighbours and the copy of the edge zone at the ends are one clamp.
Beside the row the source is the nearest zone of the zone's own block and line, which
may be a guard zone itself (`Mesh.rowSource_of_beside`).
-/

namespace BlockHydro

/-- The integer from `lower` to `upper` that is nearest to another one. -/
def clamp (lower upper value : Int) : Int := max lower (min value upper)

theorem clamp_of_mem {lower upper value : Int} (inside : lower ≤ value ∧ value ≤ upper) :
    clamp lower upper value = value := by
  unfold clamp
  omega

theorem clamp_mem {lower upper : Int} (someRoom : lower ≤ upper) (value : Int) :
    lower ≤ clamp lower upper value ∧ clamp lower upper value ≤ upper := by
  unfold clamp
  omega

namespace Mesh

variable {R : Type} {mesh : Mesh R} {zone : Zone}

/-- The cell of the row that is nearest to the place of a zone, in its line of zones. -/
def nearestCell (mesh : Mesh R) (zone : Zone) : Zone :=
  mesh.rowCell .i (clamp 0 (mesh.rowLength .i - 1) (mesh.rowPlace .i zone)) zone.index

/-- The nearest zone of the same block and line that is in the block along the row. -/
def nearestInBlock (mesh : Mesh R) (zone : Zone) : Zone :=
  ⟨zone.block, zone.index.set .i (clamp 0 (mesh.interior.extent .i - 1) zone.index.i)⟩

section Sources

theorem nearestInBlock_range (mesh : Mesh R) (zone : Zone) :
    0 ≤ (mesh.nearestInBlock zone).index.get .i ∧
      (mesh.nearestInBlock zone).index.get .i < mesh.interior.extent .i := by
  have someLength := mesh.interior.extent_pos .i
  have someRoom : (0 : Int) ≤ mesh.interior.extent .i - 1 := by omega
  have range := clamp_mem someRoom zone.index.i
  rw [nearestInBlock, PerAxis.get_set_self]
  omega

/-- A zone that stands for none has the nearest zone of its block as its source. -/
theorem rowSource_of_chained_none (none : mesh.chained .i zone = none) :
    mesh.rowSource zone = mesh.nearestInBlock zone := by
  have someLength := mesh.interior.extent_pos .i
  have sameClamp : min (max zone.index.i 0) ((mesh.interior.extent .i : Int) - 1) =
      clamp 0 (mesh.interior.extent .i - 1) zone.index.i := by
    unfold clamp
    omega
  unfold rowSource
  rw [none]
  dsimp only
  rw [sameClamp]
  rfl

/-- A zone whose index along the row is in its block is its own source. -/
theorem rowSource_of_inBlock (inBlock : 0 ≤ zone.index.get .i ∧
    zone.index.get .i < mesh.interior.extent .i) : mesh.rowSource zone = zone := by
  cases found : mesh.chained .i zone with
  | some origin =>
    rw [rowSource_of_chained found, (standsFor_iff.mp (chained_eq_some_iff.mp found).1).2,
      rowCell_rowPlace inBlock]
  | none =>
    have inRange : 0 ≤ zone.index.i ∧ zone.index.i ≤ mesh.interior.extent .i - 1 := by
      simp only [PerAxis.get] at inBlock
      omega
    rw [rowSource_of_chained_none found, nearestInBlock, clamp_of_mem inRange]
    rfl

/-- A source is in its block along the row. -/
theorem rowSource_inBlock (mesh : Mesh R) (zone : Zone) :
    0 ≤ (mesh.rowSource zone).index.get .i ∧
      (mesh.rowSource zone).index.get .i < mesh.interior.extent .i := by
  cases found : mesh.chained .i zone with
  | some origin =>
    rw [rowSource_of_chained found]
    exact mem_interior.mp (mem_of_chained found).2 .i
  | none =>
    rw [rowSource_of_chained_none found]
    exact nearestInBlock_range mesh zone

/-- A source is its own source. -/
theorem rowSource_rowSource (mesh : Mesh R) (zone : Zone) :
    mesh.rowSource (mesh.rowSource zone) = mesh.rowSource zone :=
  rowSource_of_inBlock (rowSource_inBlock mesh zone)

theorem nearestInBlock_mem (inside : zone ∈ mesh.extendedGrid) :
    mesh.nearestInBlock zone ∈ mesh.extendedGrid := by
  refine ⟨inside.1, mem_extended.mpr fun other => ?_⟩
  by_cases along : other = .i
  · subst along
    have range := nearestInBlock_range mesh zone
    omega
  · rw [nearestInBlock, PerAxis.get_set_of_ne _ _ along]
    exact mem_extended.mp inside.2 other

/-- Every zone of the extended boxes has its source there. -/
theorem rowSource_mem (inside : zone ∈ mesh.extendedGrid) :
    mesh.rowSource zone ∈ mesh.extendedGrid := by
  cases found : mesh.chained .i zone with
  | some origin =>
    rw [rowSource_of_chained found]
    exact extendedGrid_of_interiorGrid (mem_of_chained found)
  | none =>
    rw [rowSource_of_chained_none found]
    exact nearestInBlock_mem inside

/-- Beside the row the source is the nearest zone of the block. -/
theorem rowSource_of_beside (beside : mesh.Beside .i zone) :
    mesh.rowSource zone = mesh.nearestInBlock zone :=
  rowSource_of_chained_none (chained_eq_none_iff.mpr (.inl (.inr (.inr beside))))

/-- A block is the first of its row or has a whole block before it, and is the last or has a whole block
behind it. -/
theorem block_at_ends {numBlocks block : Nat} (known : block < numBlocks) (length : Nat) :
    ((block : Int) * length = 0 ∨ (length : Int) ≤ block * length) ∧
      ((block : Int) * length + length = numBlocks * length ∨
        (block : Int) * length + 2 * length ≤ numBlocks * length) := by
  constructor
  · obtain rfl | later := Nat.eq_zero_or_pos block
    · simp
    · exact .inr (by exact_mod_cast Nat.le_mul_of_pos_left length later)
  · obtain rfl | earlier := Nat.eq_or_lt_of_le (Nat.succ_le_of_lt known)
    · left
      push_cast [Int.add_mul]
      omega
    · have next := block_in_row earlier length
      push_cast [Int.add_mul] at next
      omega

/-- Past an end of the row, the cell nearest to the place of a zone is in its own block. -/
theorem nearestCell_eq_nearestInBlock (known : zone.block < mesh.numBlocks)
    (nearby : mesh.Nearby .i zone)
    (past : mesh.rowPlace .i zone < 0 ∨ mesh.rowLength .i ≤ mesh.rowPlace .i zone) :
    mesh.nearestCell zone = mesh.nearestInBlock zone := by
  have someLength := mesh.interior.extent_pos .i
  have between := block_in_row known (mesh.interior.extent .i)
  push_cast at between
  -- A zone this close to its block is past an end of the row only if its block is at that end.
  have atEnd : (zone.block : Int) * mesh.interior.extent .i = 0 ∧ zone.index.i < 0 ∨
      (zone.block : Int) * mesh.interior.extent .i + mesh.interior.extent .i = mesh.rowLength .i ∧
        mesh.interior.extent .i ≤ zone.index.i := by
    have ends := block_at_ends known (mesh.interior.extent .i)
    unfold rowPlace rowLength at past
    unfold Nearby at nearby
    unfold rowLength
    simp only [PerAxis.get] at past nearby
    omega
  have place : clamp 0 (mesh.rowLength .i - 1) (mesh.rowPlace .i zone) =
      mesh.rowPlace .i (mesh.nearestInBlock zone) := by
    unfold rowPlace nearestInBlock
    rw [PerAxis.get_set_self]
    unfold clamp
    unfold rowLength at atEnd ⊢
    simp only [PerAxis.get]
    omega
  have sameLine : ∀ across ≠ .i,
      zone.index.get across = (mesh.nearestInBlock zone).index.get across :=
    fun across different => (PerAxis.get_set_of_ne _ _ different).symm
  rw [nearestCell, place, rowCell_congr _ sameLine, rowCell_rowPlace (nearestInBlock_range mesh zone)]

/-- The source of a zone of the row is the cell nearest to its place, if guard zones are no deeper
than a block is long. -/
theorem rowSource_eq_nearestCell (shallow : mesh.guardDepth ≤ mesh.interior.extent .i)
    (inside : zone ∈ mesh.extendedGrid) (abreast : ¬ mesh.Beside .i zone) :
    mesh.rowSource zone = mesh.nearestCell zone := by
  have nearby : mesh.Nearby .i zone := nearby_of_shallow shallow inside
  by_cases past : mesh.rowPlace .i zone < 0 ∨ mesh.rowLength .i ≤ mesh.rowPlace .i zone
  · have offRow : mesh.OffRow .i zone := past.imp_right .inl
    rw [nearestCell_eq_nearestInBlock inside.1 nearby past,
      rowSource_of_chained_none (chained_eq_none_iff.mpr (.inl offRow))]
  · have onRow : ¬ mesh.OffRow .i zone := by
      rintro (below | above | beside)
      · exact past (.inl below)
      · exact past (.inr above)
      · exact abreast beside
    have found := chained_eq_some_iff.mpr ⟨standsFor_iff.mpr ⟨onRow, rfl⟩, nearby⟩
    rw [rowSource_of_chained found, nearestCell, clamp_of_mem (by omega)]

/-- The cell nearest to a zone of the row is a cell. -/
theorem nearestCell_mem (abreast : ¬ mesh.Beside .i zone) :
    mesh.nearestCell zone ∈ mesh.interiorGrid := by
  have someLength : (1 : Int) * mesh.interior.extent .i ≤ mesh.numBlocks * mesh.interior.extent .i :=
    Int.mul_le_mul_of_nonneg_right (by exact_mod_cast mesh.spacing_nonempty) (Int.natCast_nonneg _)
  have someZone := mesh.interior.extent_pos .i
  have someRoom : 0 ≤ mesh.rowLength .i - 1 := by
    unfold rowLength
    omega
  have range := clamp_mem someRoom (mesh.rowPlace .i zone)
  exact rowCell_mem_interiorGrid range.1 (by omega) abreast

end Sources

section Filling

variable {numFields : Nat}

/-- After filling, every zone holds the fields of its source. -/
theorem filled_eq (w : Zone → Vector R numFields) (zone : Zone) :
    mesh.filled w zone = w (mesh.rowSource zone) := by
  unfold filled
  split
  next interior => rw [rowSource_of_inBlock (mem_interior.mp interior .i)]
  next => rfl

/-- Filling twice is filling once. -/
theorem filled_filled (w : Zone → Vector R numFields) :
    mesh.filled (mesh.filled w) = mesh.filled w := by
  funext zone
  rw [filled_eq, filled_eq, filled_eq, rowSource_rowSource]

/-- Guard filling of a patch over the extended boxes succeeds. -/
theorem fillGuards_eq_ok (someField : numFields ≠ 0) (w : Zone → Vector R numFields) :
    mesh.fillGuards (.ofFn mesh.extendedGrid numFields w) =
      .ok (.ofFn mesh.extendedGrid numFields (mesh.filled w)) :=
  fillGuards_ofFn someField w fun _ => rowSource_mem

/-- A patch without fields has no zones to fill. -/
theorem fillGuards_without_fields {patch : Patch R} (bare : patch.numFields = 0) :
    mesh.fillGuards patch = .error .noFields := by
  have refused : Patch.requireFields patch.numFields = .error .noFields := if_pos bare
  unfold fillGuards Patch.mapZonesM Patch.update
  rw [refused]
  rfl

end Filling

/-- What guard filling leaves in the zones of a row of blocks. -/
structure EdgeClamped (mesh : Mesh R) (before after : Patch R) : Prop where
  spans : after.Spans mesh.extendedGrid before.numFields
  /-- Cells keep their fields. -/
  cells : ∀ zone ∈ mesh.interiorGrid, ∀ field, after.get zone field = before.get zone field
  /-- Zones of the row have those of the nearest cell of the whole row. -/
  row : ∀ zone ∈ mesh.extendedGrid, ¬ mesh.Beside .i zone →
    mesh.nearestCell zone ∈ mesh.interiorGrid ∧
      ∀ field, after.get zone field = before.get (mesh.nearestCell zone) field
  /-- Zones beside the row have those of the nearest zone of their own block and line. -/
  beside : ∀ zone ∈ mesh.extendedGrid, mesh.Beside .i zone → ∀ field,
    after.get zone field = before.get (mesh.nearestInBlock zone) field

/-- Guard filling is edge-clamped sampling of the whole row, and doing it again changes nothing, where
guard zones are no deeper than a block is long; it answers for every patch that has fields. -/
theorem fillGuards_clamps [Zero R] (shallow : mesh.guardDepth ≤ mesh.interior.extent .i)
    {patch : Patch R} (covers : patch.grid = mesh.extendedGrid) :
    ((∃ after, mesh.fillGuards patch = .ok after) ↔ patch.numFields ≠ 0) ∧
      ∀ after, mesh.fillGuards patch = .ok after →
        mesh.EdgeClamped patch after ∧ mesh.fillGuards after = .ok after := by
  obtain ⟨numFields, w, rfl⟩ := Patch.exists_eq_ofFn covers
  by_cases bare : numFields = 0
  · have refused : mesh.fillGuards (.ofFn mesh.extendedGrid numFields w) = .error .noFields :=
      fillGuards_without_fields bare
    simp [refused, bare]
  have completes : mesh.fillGuards (.ofFn mesh.extendedGrid numFields w) =
      .ok (.ofFn mesh.extendedGrid numFields (mesh.filled w)) := fillGuards_eq_ok bare w
  refine ⟨⟨fun _ => bare, fun _ => ⟨_, completes⟩⟩, fun after filled => ?_⟩
  cases completes.symm.trans filled
  have sampled : ∀ zone ∈ mesh.extendedGrid, ∀ source, mesh.rowSource zone = source → ∀ field,
      (Patch.ofFn mesh.extendedGrid numFields (mesh.filled w)).get zone field =
        (Patch.ofFn mesh.extendedGrid numFields w).get source field := by
    rintro zone inside _ rfl field
    exact Patch.get_ofFn_congr inside (rowSource_mem inside) (filled_eq w zone) field
  constructor
  · constructor
    case spans => exact Patch.spans_ofFn _
    case cells =>
      intro zone inside
      exact sampled zone (extendedGrid_of_interiorGrid inside) zone
        (rowSource_of_inBlock (mem_interior.mp inside.2 .i))
    case row =>
      intro zone inside abreast
      exact ⟨nearestCell_mem abreast,
        sampled zone inside _ (rowSource_eq_nearestCell shallow inside abreast)⟩
    case beside =>
      intro zone inside beside
      exact sampled zone inside _ (rowSource_of_beside beside)
  · exact (fillGuards_eq_ok bare _).trans (by rw [filled_filled])

/-- Two blocks of two by three cells, with a guard layer as deep as the blocks are long. -/
def deepTiles : Mesh Int where
  interior := ⟨⟨0, 0, 0⟩, ⟨2, 3, 1⟩, by decide⟩
  guardDepth := 2
  spacing := #[⟨1, 1, 1⟩, ⟨1, 1, 1⟩]
  lower_eq_zero := rfl
  guardDepth_pos := Nat.two_pos
  spacing_nonempty := Nat.two_pos

/-- A patch whose values name their zones. -/
def namedTiles : Patch Int :=
  .ofFn deepTiles.extendedGrid 1 fun zone => #v[100 * zone.block + 10 * zone.index.i + zone.index.j]

/-- The deepest guard zone between the blocks takes the value of the second cell of the other block, and
a zone in a corner that of a guard zone. -/
theorem fillGuards_clamps_deepTiles : ∃ after, deepTiles.fillGuards namedTiles = .ok after ∧
    deepTiles.EdgeClamped namedTiles after ∧ deepTiles.fillGuards after = .ok after ∧
      after.get ⟨0, ⟨3, 1, 0⟩⟩ 0 = .ok 111 ∧ after.get ⟨1, ⟨3, -2, 0⟩⟩ 0 = .ok 108 := by
  have shallow : deepTiles.guardDepth ≤ deepTiles.interior.extent .i := by decide
  have covers : namedTiles.grid = deepTiles.extendedGrid := rfl
  obtain ⟨answers, filled⟩ := fillGuards_clamps shallow covers
  obtain ⟨after, completes⟩ := answers.mpr Nat.one_ne_zero
  obtain ⟨clamped, again⟩ := filled after completes
  have read : (deepTiles.fillGuards namedTiles >>= fun after => after.get ⟨0, ⟨3, 1, 0⟩⟩ 0) = .ok 111 ∧
      (deepTiles.fillGuards namedTiles >>= fun after => after.get ⟨1, ⟨3, -2, 0⟩⟩ 0) = .ok 108 := by
    decide +kernel
  rw [completes] at read
  exact ⟨after, completes, clamped, again, read⟩

end Mesh

end BlockHydro
