import BlockHydro.Space.Rows
import BlockHydro.Space.ZoneArray

/-!
# Patches

A `Patch` holds the same number of field values in every zone of a grid: one row
of fields a zone.  Its values form one sequence in which the zones follow in
memory order and each zone's fields stay together; `address` is the place of a
field in it.  A patch without values takes no room, however large its grid.

A patch whose shape comes from elsewhere is made by `zeros?` or `generate`, which
refuse a shape that cannot be addressed; `zeros` and `tabulate` make those whose
shape derives from one that was accepted.

Single zones are read and written by address.  A traversal hands out the `zones`
one by one, and needs at least one field to tell them apart.
-/

namespace BlockHydro

/-- Field values over the zones of a grid. -/
structure Patch (R : Type) where
  /-- The zones that the patch covers. -/
  grid : Grid
  numFields : Nat
  /-- The fields of each zone, in memory order. -/
  rows : Rows R grid.size numFields

namespace Patch

variable {R ε : Type}

/-- The fields of every zone. -/
def zones (patch : Patch R) : ZoneArray (Vector R patch.numFields) :=
  ⟨patch.grid, patch.rows.toVector⟩

/-- The patch with the given fields in every zone. -/
def ofZones {numFields : Nat} (zones : ZoneArray (Vector R numFields)) : Patch R :=
  ⟨zones.grid, numFields, .ofVector zones.cells⟩

@[simp] theorem zones_ofZones {numFields : Nat} (given : ZoneArray (Vector R numFields)) :
    (ofZones given).zones = given := by
  simp [zones, ofZones]

@[simp] theorem ofZones_zones (patch : Patch R) : ofZones patch.zones = patch := by
  simp [zones, ofZones]

/-- A patch of zeros. -/
def zeros [Zero R] (grid : Grid) (numFields : Nat) : Patch R :=
  ⟨grid, numFields, .fill grid.size numFields 0⟩

/-- Refuse to traverse zones without fields. -/
def requireFields (numFields : Nat) : Except Fault Unit :=
  if numFields = 0 then .error .noFields else .ok ()

/-- The patch whose zones a function fills. -/
def tabulate (grid : Grid) (numFields : Nat) (f : Zone → Except Fault (Vector R numFields)) :
    Except Fault (Patch R) := do
  requireFields numFields
  return ofZones (← ZoneArray.ofFnM grid f)

/-- Refuse a patch whose values cannot all be addressed. -/
def requireRoom (grid : Grid) (numFields : Nat) : Except Fault Unit :=
  requireAddressable (grid.size * numFields)

/-- A patch of zeros of any shape that fits. -/
def zeros? [Zero R] (grid : Grid) (numFields : Nat) : Except Fault (Patch R) := do
  requireRoom grid numFields
  return zeros grid numFields

/-- The patch of any shape that fits, whose zones a function fills. -/
def generate (grid : Grid) (numFields : Nat) (f : Zone → Except Fault (Vector R numFields)) :
    Except Fault (Patch R) := do
  requireRoom grid numFields
  tabulate grid numFields f

/-- The place of a field of a zone among all values. -/
def address (patch : Patch R) (zone : Zone) (field : Nat) : Nat :=
  patch.grid.position zone * patch.numFields + field

/-- All values: zones in memory order, fields together. -/
def values (patch : Patch R) : List R :=
  patch.rows.values

/-- The number of values. -/
def numValues (patch : Patch R) : Nat :=
  patch.grid.size * patch.numFields

/-- The fields of one zone. -/
def fields (patch : Patch R) (zone : Zone) : Except Fault (Vector R patch.numFields) :=
  if inside : zone ∈ patch.grid then
    .ok (patch.rows.get ⟨patch.grid.position zone, Grid.position_lt_size inside⟩)
  else
    .error (patch.grid.outside zone)

/-- The value of one field of one zone. -/
def get (patch : Patch R) (zone : Zone) (field : Nat) : Except Fault R := do
  let fields ← patch.fields zone
  if inside : field < patch.numFields then
    return fields[field]
  else
    .error (.fieldOutOfRange field patch.numFields)

theorem fields_eq_get (patch : Patch R) (zone : Zone) :
    patch.fields zone = patch.zones.get zone := by
  by_cases inside : zone ∈ patch.grid
  · simp [fields, ZoneArray.get, ZoneArray.get?, zones, inside, Rows.get_eq_getElem]
    rfl
  · simp [fields, ZoneArray.get, ZoneArray.get?, zones, inside]

/-- Replace the fields of one zone by what a function makes of them. -/
def modify (patch : Patch R) (zone : Zone)
    (f : Vector R patch.numFields → Except Fault (Vector R patch.numFields)) :
    Except Fault (Patch R) :=
  if inside : zone ∈ patch.grid then
    let place : Fin patch.grid.size :=
      ⟨patch.grid.position zone, Grid.position_lt_size inside⟩
    return { patch with rows := patch.rows.set place (← f (patch.rows.get place)) }
  else
    .error (patch.grid.outside zone)

/-- Replace the value of one field of one zone. -/
def set (patch : Patch R) (zone : Zone) (field : Nat) (value : R) : Except Fault (Patch R) :=
  patch.modify zone fun fields =>
    if inside : field < patch.numFields then
      .ok (fields.set field value)
    else
      .error (.fieldOutOfRange field patch.numFields)

/-- Replace all fields of one zone; the number of values has to fit. -/
def setFields (patch : Patch R) (zone : Zone) (given : Array R) : Except Fault (Patch R) :=
  patch.modify zone fun _ =>
    if fits : given.size = patch.numFields then
      .ok ⟨given, fits⟩
    else
      .error (.fieldCountMismatch patch.numFields given.size)

/-- Every zone with its fields, in memory order. -/
def entries (patch : Patch R) : Except Fault (List (Zone × Vector R patch.numFields)) := do
  requireFields patch.numFields
  return patch.zones.entries

/-- Sweep a kernel over the listed places: the patch as left, and the number of marked zones. -/
def sweepOver (patch : Patch R) (order : List (Fin patch.grid.size))
    (kernel : Zone → Vector R patch.numFields → Except ε (Vector R patch.numFields × Bool)) :
    Patch R × Except ε Nat :=
  let (zones, outcome) := patch.zones.sweepOver order kernel
  (ofZones zones, outcome)

/-- A sweep that has to complete: the new patch, and the number of marked zones. -/
def updateOver (patch : Patch R) (order : List (Fin patch.grid.size))
    (kernel : Zone → Vector R patch.numFields → Except Fault (Vector R patch.numFields × Bool)) :
    Except Fault (Patch R × Nat) := do
  requireFields patch.numFields
  let (after, outcome) := patch.sweepOver order kernel
  return (after, ← outcome)

/-- A sweep over every zone in memory order that has to complete.  Places are listed only where
there are fields to visit. -/
def update (patch : Patch R)
    (kernel : Zone → Vector R patch.numFields → Except Fault (Vector R patch.numFields × Bool)) :
    Except Fault (Patch R × Nat) := do
  requireFields patch.numFields
  patch.updateOver patch.grid.memoryOrder kernel

theorem update_eq_updateOver (patch : Patch R)
    (kernel : Zone → Vector R patch.numFields → Except Fault (Vector R patch.numFields × Bool)) :
    patch.update kernel = patch.updateOver patch.grid.memoryOrder kernel := by
  unfold update updateOver
  cases requireFields patch.numFields <;> rfl

/-- A kernel that marks no zone. -/
def unmarked {α : Type} (kernel : Zone → α → Except Fault α) (zone : Zone) (before : α) :
    Except Fault (α × Bool) := do
  return (← kernel zone before, false)

/-- Replace the fields of every zone, in memory order. -/
def mapZonesM (patch : Patch R)
    (kernel : Zone → Vector R patch.numFields → Except Fault (Vector R patch.numFields)) :
    Except Fault (Patch R) := do
  return (← patch.update (unmarked kernel)).1

end Patch

end BlockHydro
