import BlockHydro.Space.IndexSpace

/-!
# Blocked index spaces

A `Grid` is a box of indexes repeated over numbered blocks.  Memory order runs
through the blocks in turn, and through each block in the order of its box.

`zones` lists the grid block by block and `position` numbers its zones.  Both
describe the same order; `zoneAt` reads a number back.
-/

namespace BlockHydro

/-- A box of indexes, once for each of `numBlocks` blocks. -/
structure Grid where
  numBlocks : Nat
  space : IndexSpace
  deriving DecidableEq

namespace Grid

/-- The number of zones of all blocks. -/
def size (grid : Grid) : Nat :=
  grid.numBlocks * grid.space.volume

instance : Membership Zone Grid where
  mem grid zone := zone.block < grid.numBlocks ∧ zone.index ∈ grid.space

theorem mem_iff {grid : Grid} {zone : Zone} :
    zone ∈ grid ↔ zone.block < grid.numBlocks ∧ zone.index ∈ grid.space :=
  Iff.rfl

instance (zone : Zone) (grid : Grid) : Decidable (zone ∈ grid) :=
  inferInstanceAs (Decidable (zone.block < grid.numBlocks ∧ zone.index ∈ grid.space))

/-- Every zone in memory order. -/
def zones (grid : Grid) : List Zone :=
  (List.range grid.numBlocks).flatMap fun block => grid.space.indexes.map (Zone.mk block)

/-- The place of a zone in memory order. -/
def position (grid : Grid) (zone : Zone) : Nat :=
  zone.block * grid.space.volume + grid.space.position zone.index

/-- The zone at a place in memory order. -/
def zoneAt (grid : Grid) (position : Nat) : Zone where
  block := position / grid.space.volume
  index := grid.space.indexAt (position % grid.space.volume)

/-- Every place, in memory order. -/
def memoryOrder (grid : Grid) : List (Fin grid.size) :=
  List.finRange grid.size

/-- The fault of addressing a zone that the grid does not hold. -/
def outside (grid : Grid) (zone : Zone) : Fault :=
  .zoneOutOfRange zone grid.numBlocks grid.space.lower grid.space.upper

theorem position_lt_size {grid : Grid} {zone : Zone} (inside : zone ∈ grid) :
    grid.position zone < grid.size :=
  calc grid.position zone
      < zone.block * grid.space.volume + grid.space.volume :=
        Nat.add_lt_add_left (IndexSpace.position_lt_volume inside.2) _
    _ = (zone.block + 1) * grid.space.volume := by rw [Nat.add_mul, Nat.one_mul]
    _ ≤ grid.size := Nat.mul_le_mul_right _ inside.1

end Grid

end BlockHydro
