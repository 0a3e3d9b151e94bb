import BlockHydro.Space.Grid

/-!
# One value per zone

A `ZoneArray` holds one value for every zone of a grid, in memory order.
Reading a zone outside the grid is a fault.

A pass over an array is a *sweep*: the zones are visited one after another, and
a kernel replaces the value of the visited zone and may mark it.  A kernel sees
its own value and whatever it was built from, never the slots of other zones,
so the order of the visits does not matter to a sweep that completes.  A sweep
that meets an error stops there and leaves what it had already replaced.
-/

namespace BlockHydro

/-- One value for every zone of a grid. -/
structure ZoneArray (α : Type) where
  grid : Grid
  cells : Vector α grid.size

namespace ZoneArray

variable {α ε : Type}

/-- The same value in every zone. -/
def replicate (grid : Grid) (value : α) : ZoneArray α :=
  ⟨grid, Vector.replicate grid.size value⟩

/-- The values that a function gives to the zones. -/
def ofFn (grid : Grid) (f : Zone → α) : ZoneArray α :=
  ⟨grid, Vector.ofFn fun position => f (grid.zoneAt position)⟩

/-- The values that a function gives to the zones, unless it fails on one. -/
def ofFnM (grid : Grid) (f : Zone → Except ε α) : Except ε (ZoneArray α) :=
  ZoneArray.mk grid <$> Vector.ofFnM fun position => f (grid.zoneAt position)

/-- The value of a zone of the grid. -/
def value (array : ZoneArray α) (zone : Zone) (inside : zone ∈ array.grid) : α :=
  array.cells.get ⟨array.grid.position zone, Grid.position_lt_size inside⟩

/-- The value of a zone, if the grid holds the zone. -/
def get? (array : ZoneArray α) (zone : Zone) : Option α :=
  if inside : zone ∈ array.grid then some (array.value zone inside) else none

/-- The value of a zone, unless the grid does not hold the zone. -/
def get (array : ZoneArray α) (zone : Zone) : Except Fault α :=
  match array.get? zone with
  | some value => .ok value
  | none => .error (array.grid.outside zone)

/-- Every zone with its value, in memory order. -/
def entries (array : ZoneArray α) : List (Zone × α) :=
  array.grid.memoryOrder.map fun position : Fin array.grid.size =>
    (array.grid.zoneAt position, array.cells[position])

/-- Visit the listed places in turn, counting the zones that the kernel marks. -/
def sweepCells (grid : Grid) (kernel : Zone → α → Except ε (α × Bool)) :
    List (Fin grid.size) → Vector α grid.size → Nat → Vector α grid.size × Except ε Nat
  | [], cells, marked => (cells, .ok marked)
  | position :: later, cells, marked =>
    match kernel (grid.zoneAt position) cells[position] with
    | .error cause => (cells, .error cause)
    | .ok (value, mark) =>
      sweepCells grid kernel later (cells.set position value) (marked + mark.toNat)

/-- Sweep a kernel over the listed places: the array as left, and the number of marked zones. -/
def sweepOver (array : ZoneArray α) (order : List (Fin array.grid.size))
    (kernel : Zone → α → Except ε (α × Bool)) : ZoneArray α × Except ε Nat :=
  let (cells, outcome) := sweepCells array.grid kernel order array.cells 0
  ({ array with cells }, outcome)

/-- Sweep a kernel over every zone in memory order. -/
def sweep (array : ZoneArray α) (kernel : Zone → α → Except ε (α × Bool)) :
    ZoneArray α × Except ε Nat :=
  array.sweepOver array.grid.memoryOrder kernel

@[simp] theorem grid_sweepOver (array : ZoneArray α) (order : List (Fin array.grid.size))
    (kernel : Zone → α → Except ε (α × Bool)) :
    (array.sweepOver order kernel).1.grid = array.grid :=
  rfl

end ZoneArray

end BlockHydro
