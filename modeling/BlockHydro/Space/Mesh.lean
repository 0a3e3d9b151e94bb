import BlockHydro.Space.Grid

/-!
# Meshes of equal blocks

A `Mesh` is a number of equally shaped blocks, each with its own cell spacing.
An axis is active when the blocks have more than one zone along it or along a
later axis; guard zones surround the interior on active axes only.

Blocks may be laid end to end along an axis.  `chained` finds, in that row, the
interior zone behind a guard zone; past the ends of the row there is none.
-/

namespace BlockHydro

/-- The number of active axes of a mesh. -/
inductive Dimensionality where
  | one
  | two
  | three
  deriving DecidableEq, Repr

/-- Equally shaped blocks with a guard layer and one cell spacing per block. -/
structure Mesh (R : Type) where
  /-- The cells of a block without guard zones, counted from zero. -/
  interior : IndexSpace
  /-- The number of guard zones at each end of an active axis. -/
  guardDepth : Nat
  /-- The cell spacing of each block. -/
  spacing : Array (PerAxis R)
  lower_eq_zero : interior.lower = PerAxis.replicate 0
  guardDepth_pos : 0 < guardDepth
  spacing_nonempty : 0 < spacing.size

namespace Mesh

variable {R : Type}

/-- The box of a block with the given number of zones per axis. -/
def blockSpace? (blockSize : Index) : Except Fault IndexSpace :=
  IndexSpace.ofBounds? (PerAxis.replicate 0) blockSize

theorem lower_eq_of_blockSpace? {blockSize : Index} {space : IndexSpace}
    (built : blockSpace? blockSize = .ok space) : space.lower = PerAxis.replicate 0 := by
  unfold blockSpace? IndexSpace.ofBounds? at built
  split at built
  · cases built
    rfl
  · cases built

/-- The mesh with a given block size, number of guard zones, and spacing of every block. -/
def ofSpacings? (blockSize : Index) (numGuard : Int) (spacing : Array (PerAxis R)) :
    Except Fault (Mesh R) :=
  if someBlock : 0 < spacing.size then
    if someGuard : 1 ≤ numGuard then
      match built : blockSpace? blockSize with
      | .ok interior =>
        .ok {
          interior
          guardDepth := numGuard.toNat
          spacing
          lower_eq_zero := lower_eq_of_blockSpace? built
          guardDepth_pos := by omega
          spacing_nonempty := someBlock }
      | .error fault => .error fault
    else
      .error .noGuardZones
  else
    .error .noBlocks

/-- The mesh whose blocks all have the same spacing; their spacings, three numbers each, have to be
addressable. -/
def uniform? (numBlocks : Nat) (blockSize : Index) (numGuard : Int) (spacing : PerAxis R) :
    Except Fault (Mesh R) := do
  requireAddressable (3 * numBlocks)
  ofSpacings? blockSize numGuard (Array.replicate numBlocks spacing)

/-- The number of blocks. -/
def numBlocks (mesh : Mesh R) : Nat := mesh.spacing.size

/-- The number of active axes, read off the block size. -/
def dimensionality (mesh : Mesh R) : Dimensionality :=
  if 1 < mesh.interior.extent .k then .three
  else if 1 < mesh.interior.extent .j then .two
  else .one

/-- Whether the blocks extend along an axis. -/
def isActive (mesh : Mesh R) : Axis → Bool
  | .i => true
  | .j => mesh.dimensionality != .one
  | .k => mesh.dimensionality == .three

/-- The active axes, in order. -/
def activeAxes (mesh : Mesh R) : List Axis :=
  Axis.all.filter mesh.isActive

/-- The interior with its guard zones, which lie on active axes only. -/
def extended (mesh : Mesh R) : IndexSpace :=
  mesh.activeAxes.foldl (fun space axis => space.grow mesh.guardDepth axis) mesh.interior

theorem interior_subset_extended {mesh : Mesh R} {index : Index} (inside : index ∈ mesh.interior) :
    index ∈ mesh.extended := by
  refine List.foldlRecOn (motive := (index ∈ ·)) mesh.activeAxes _ inside ?_
  exact fun _ within axis _ => IndexSpace.mem_grow within mesh.guardDepth axis

/-- The faces of a block normal to an axis. -/
def faces (mesh : Mesh R) (axis : Axis) : IndexSpace :=
  mesh.interior.faces axis

/-- The cells of all blocks without guard zones. -/
def interiorGrid (mesh : Mesh R) : Grid := ⟨mesh.numBlocks, mesh.interior⟩

/-- The cells of all blocks with guard zones. -/
def extendedGrid (mesh : Mesh R) : Grid := ⟨mesh.numBlocks, mesh.extended⟩

/-- The faces of all blocks normal to an axis. -/
def faceGrid (mesh : Mesh R) (axis : Axis) : Grid := ⟨mesh.numBlocks, mesh.faces axis⟩

/-- The number of interior zones of all blocks. -/
def totalZones (mesh : Mesh R) : Nat := mesh.interior.volume * mesh.numBlocks

/-- The cell size of a block along an axis. -/
def cellSpacing (mesh : Mesh R) (block : Nat) (axis : Axis) : Except Fault R :=
  match mesh.spacing[block]? with
  | some spacing => .ok (spacing.get axis)
  | none => .error (.blockOutOfRange block mesh.numBlocks)

/-- The interior zone holding the data of a zone, when the blocks lie end to end along `axis`. -/
def chained (mesh : Mesh R) (axis : Axis) (zone : Zone) : Option Zone := do
  let length : Int := mesh.interior.extent axis
  let x := zone.index.get axis
  let target ←
    if x < 0 then
      if zone.block = 0 then none
      else some { zone.shift length axis with block := zone.block - 1 }
    else if length ≤ x then
      some { zone.shift (-length) axis with block := zone.block + 1 }
    else
      some zone
  if target ∈ mesh.interiorGrid then some target else none

end Mesh

end BlockHydro
