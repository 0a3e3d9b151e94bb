import BlockHydro.Proofs.Space.Numbering
import BlockHydro.Space.Patch

/-!
# Tabulated arrays and patches

Every array of a grid is the table of a function of the zone, and so is every
patch.  Passes are described in that form: `ZoneArray.sweepOver_ofFn` and
`Patch.update_ofFn` turn a kernel that succeeds in every zone into the table of
the values it gives, whatever the order of the visits.

The number of fields of a table is the one it was made with, so that nothing
has to be transported along an equation of field counts.
-/

namespace BlockHydro

namespace Grid

/-- Every place of memory is visited once. -/
theorem nodup_memoryOrder (grid : Grid) : grid.memoryOrder.Nodup :=
  List.nodup_finRange _

/-- No place of memory is left out. -/
theorem mem_memoryOrder {grid : Grid} (position : Fin grid.size) : position ∈ grid.memoryOrder :=
  List.mem_finRange position

/-- The traversal meets no zone twice. -/
theorem nodup_zones (grid : Grid) : grid.zones.Nodup := by
  rw [zones_eq_map_memoryOrder]
  refine grid.nodup_memoryOrder.map fun first second same => Fin.ext ?_
  rw [← grid.position_zoneAt first, ← grid.position_zoneAt second, same]

/-- Counting the places of a complete order counts the zones. -/
theorem countP_order {grid : Grid} {order : List (Fin grid.size)} (distinct : order.Nodup)
    (complete : ∀ position, position ∈ order) (mark : Zone → Bool) :
    order.countP (fun position : Fin grid.size => mark (grid.zoneAt position)) =
      grid.zones.countP mark := by
  have rearranged : order.Perm grid.memoryOrder :=
    (List.perm_ext_iff_of_nodup distinct grid.nodup_memoryOrder).mpr fun position =>
      ⟨fun _ => mem_memoryOrder position, fun _ => complete position⟩
  rw [rearranged.countP_eq, zones_eq_map_memoryOrder, List.countP_map]
  rfl

/-- No zone is counted exactly when none is marked. -/
theorem countP_zones_eq_zero {grid : Grid} {mark : Zone → Bool} :
    grid.zones.countP mark = 0 ↔ ∀ zone ∈ grid, mark zone = false := by
  simp only [List.countP_eq_zero, mem_zones, Bool.not_eq_true]

end Grid

namespace ZoneArray

variable {α ε : Type} {grid : Grid}

@[simp] theorem grid_ofFn (f : Zone → α) : (ofFn grid f).grid = grid := rfl

/-- Reading a zone of an array reads its place. -/
theorem get?_of_mem (array : ZoneArray α) {zone : Zone} (inside : zone ∈ array.grid) :
    array.get? zone = some (array.value zone inside) :=
  dif_pos inside

/-- A table holds the value of the function in each of its zones. -/
theorem value_ofFn (f : Zone → α) {zone : Zone} (inside : zone ∈ grid) :
    (ofFn grid f).value zone inside = f zone := by
  have read : (ofFn grid f).value zone inside = f (grid.zoneAt (grid.position zone)) :=
    Vector.getElem_ofFn (Grid.position_lt_size inside)
  rwa [Grid.zoneAt_position inside] at read

theorem get?_ofFn (f : Zone → α) {zone : Zone} (inside : zone ∈ grid) :
    (ofFn grid f).get? zone = some (f zone) :=
  (get?_of_mem (ofFn grid f) inside).trans (congrArg some (value_ofFn f inside))

/-- Reading a zone of a table succeeds. -/
theorem get_ofFn (f : Zone → α) {zone : Zone} (inside : zone ∈ grid) :
    (ofFn grid f).get zone = .ok (f zone) := by
  rw [get, get?_ofFn f inside]

/-- A table depends on the function in the zones of its grid only. -/
theorem ofFn_congr {f g : Zone → α} (same : ∀ zone ∈ grid, f zone = g zone) :
    ofFn grid f = ofFn grid g := by
  unfold ofFn
  congr 2
  funext position
  exact same _ (Grid.zoneAt_mem position.isLt)

theorem replicate_eq_ofFn (grid : Grid) (value : α) :
    replicate grid value = ofFn grid fun _ => value := by
  unfold replicate ofFn
  congr 1
  ext position small
  simp

/-- Every array is a table. -/
theorem exists_eq_ofFn (array : ZoneArray α) (outside : α) : ∃ f, array = ofFn array.grid f := by
  refine ⟨fun zone => (array.get? zone).getD outside, ?_⟩
  obtain ⟨grid, cells⟩ := array
  unfold ofFn
  congr 1
  ext position small
  have inside : grid.zoneAt position ∈ grid := Grid.zoneAt_mem small
  simp [get?_of_mem ⟨grid, cells⟩ inside, value, Vector.get, Grid.position_zoneAt]

/-- A function that fails nowhere on the grid tabulates. -/
theorem ofFnM_eq_ok {f : Zone → Except ε α} {g : Zone → α}
    (succeeds : ∀ zone ∈ grid, f zone = .ok (g zone)) : ofFnM grid f = .ok (ofFn grid g) := by
  have pointwise : (fun position : Fin grid.size => f (grid.zoneAt position)) =
      fun position : Fin grid.size => pure (g (grid.zoneAt position)) :=
    funext fun position => succeeds _ (Grid.zoneAt_mem position.isLt)
  unfold ofFnM
  rw [pointwise, Vector.ofFnM_pure]
  rfl

/-- A sweep over distinct places leaves the kernel's values there and all other values alone. -/
theorem sweepCells_ok (kernel : Zone → α → Except ε (α × Bool)) (value : Fin grid.size → α)
    (mark : Fin grid.size → Bool) {order : List (Fin grid.size)} (distinct : order.Nodup)
    (cells : Vector α grid.size) (marked : Nat)
    (succeeds : ∀ position ∈ order,
      kernel (grid.zoneAt position) (cells.get position) = .ok (value position, mark position)) :
    ∃ after, sweepCells grid kernel order cells marked = (after, .ok (marked + order.countP mark)) ∧
      ∀ position, after.get position =
        if position ∈ order then value position else cells.get position := by
  induction order generalizing cells marked with
  | nil => exact ⟨cells, rfl, fun position => by simp⟩
  | cons first later ih =>
    obtain ⟨new, distinctLater⟩ := List.nodup_cons.mp distinct
    -- The later places still hold what they held, because none of them is the first.
    have unchanged : ∀ position : Fin grid.size, position ≠ first →
        (cells.set first (value first)).get position = cells.get position := fun position different =>
      Vector.getElem_set_ne _ _ fun equal => different (Fin.ext equal.symm)
    obtain ⟨after, swept, holds⟩ := ih distinctLater (cells.set first (value first))
      (marked + (mark first).toNat) fun position member => by
        rw [unchanged position fun equal => new (equal ▸ member)]
        exact succeeds position (List.mem_cons_of_mem _ member)
    refine ⟨after, ?_, fun position => ?_⟩
    · have visited : kernel (grid.zoneAt first) cells[first] = .ok (value first, mark first) :=
        succeeds first List.mem_cons_self
      rw [sweepCells, visited]
      simp only [swept, List.countP_cons]
      cases mark first <;> simp only [Bool.toNat, cond, if_true, if_false, Nat.add_assoc,
        Nat.add_comm 1, Nat.add_zero, Bool.false_eq_true]
    · rw [holds position]
      by_cases equal : position = first
      · subst equal
        rw [if_neg new, if_pos List.mem_cons_self]
        exact Vector.getElem_set_self position.isLt
      · simp [equal, unchanged position equal]

/-- A sweep replaces the values and keeps the grid. -/
theorem sweepOver_eq (array : ZoneArray α) {order : List (Fin array.grid.size)}
    {kernel : Zone → α → Except ε (α × Bool)} {cells : Vector α array.grid.size}
    {outcome : Except ε Nat}
    (swept : sweepCells array.grid kernel order array.cells 0 = (cells, outcome)) :
    array.sweepOver order kernel = (⟨array.grid, cells⟩, outcome) := by
  unfold sweepOver
  rw [swept]

theorem get_table (f : Zone → α) (position : Fin grid.size) :
    (Vector.ofFn fun place : Fin grid.size => f (grid.zoneAt place)).get position =
      f (grid.zoneAt position) :=
  Vector.getElem_ofFn position.isLt

/-- A sweep that leaves the value of a function in every place leaves its table. -/
theorem sweepOver_eq_ofFn {kernel : Zone → α → Except ε (α × Bool)} {f g : Zone → α}
    {order : List (Fin grid.size)} {after : Vector α grid.size} {outcome : Except ε Nat}
    (swept : sweepCells grid kernel order (.ofFn fun place : Fin grid.size => f (grid.zoneAt place)) 0 =
      (after, outcome))
    (holds : ∀ position : Fin grid.size, after.get position = g (grid.zoneAt position)) :
    (ofFn grid f).sweepOver order kernel = (ofFn grid g, outcome) := by
  have table : after = .ofFn fun place : Fin grid.size => g (grid.zoneAt place) := by
    ext position small
    exact (holds ⟨position, small⟩).trans (get_table g ⟨position, small⟩).symm
  rw [table] at swept
  exact sweepOver_eq (ofFn grid f) swept

/-- A complete sweep whose kernel succeeds everywhere tabulates the kernel's values, in any order. -/
theorem sweepOver_ofFn {kernel : Zone → α → Except ε (α × Bool)} {f g : Zone → α}
    {mark : Zone → Bool} {order : List (Fin grid.size)} (distinct : order.Nodup)
    (complete : ∀ position, position ∈ order)
    (succeeds : ∀ zone ∈ grid, kernel zone (f zone) = .ok (g zone, mark zone)) :
    (ofFn grid f).sweepOver order kernel = (ofFn grid g, .ok (grid.zones.countP mark)) := by
  obtain ⟨after, swept, holds⟩ := sweepCells_ok kernel (fun position => g (grid.zoneAt position))
    (fun position => mark (grid.zoneAt position)) distinct
    (.ofFn fun place : Fin grid.size => f (grid.zoneAt place)) 0 fun position _ => by
      rw [get_table]
      exact succeeds _ (Grid.zoneAt_mem position.isLt)
  rw [Nat.zero_add, Grid.countP_order distinct complete mark] at swept
  refine sweepOver_eq_ofFn swept fun position => ?_
  rw [holds, if_pos (complete position)]

/-- A sweep in memory order whose kernel succeeds everywhere tabulates the kernel's values. -/
theorem sweep_ofFn {kernel : Zone → α → Except ε (α × Bool)} {f g : Zone → α}
    {mark : Zone → Bool}
    (succeeds : ∀ zone ∈ grid, kernel zone (f zone) = .ok (g zone, mark zone)) :
    (ofFn grid f).sweep kernel = (ofFn grid g, .ok (grid.zones.countP mark)) :=
  sweepOver_ofFn grid.nodup_memoryOrder Grid.mem_memoryOrder succeeds

/-- The entries of a table, in the order of its zones. -/
theorem entries_ofFn (f : Zone → α) :
    (ofFn grid f).entries = grid.zones.map fun zone => (zone, f zone) := by
  have read : ∀ position : Fin grid.size,
      (ofFn grid f).cells[position] = f (grid.zoneAt position) := fun position =>
        Vector.getElem_ofFn position.isLt
  rw [entries, Grid.zones_eq_map_memoryOrder, List.map_map]
  exact List.map_congr_left fun position _ => congrArg (Prod.mk _) (read position)

end ZoneArray

namespace Patch

variable {R ε : Type} {grid : Grid} {numFields : Nat}

/-- The patch whose zones hold the values of a function. -/
def ofFn (grid : Grid) (numFields : Nat) (f : Zone → Vector R numFields) : Patch R :=
  ofZones (.ofFn grid f)

@[simp] theorem grid_ofFn (f : Zone → Vector R numFields) : (ofFn grid numFields f).grid = grid :=
  rfl

@[simp] theorem numFields_ofFn (f : Zone → Vector R numFields) :
    (ofFn grid numFields f).numFields = numFields :=
  rfl

@[simp] theorem zones_ofFn (f : Zone → Vector R numFields) :
    (ofFn grid numFields f).zones = .ofFn grid f :=
  zones_ofZones _

/-- Reading a zone of a tabulated patch succeeds. -/
theorem fields_ofFn (f : Zone → Vector R numFields) {zone : Zone} (inside : zone ∈ grid) :
    (ofFn grid numFields f).fields zone = .ok (f zone) := by
  rw [fields_eq_get]
  exact (congrArg (fun zones => ZoneArray.get zones zone) (zones_ofFn f)).trans
    (ZoneArray.get_ofFn f inside)

/-- Reading a field of a tabulated patch succeeds. -/
theorem get_ofFn (f : Zone → Vector R numFields) {zone : Zone} (inside : zone ∈ grid)
    {field : Nat} (small : field < numFields) :
    (ofFn grid numFields f).get zone field = .ok ((f zone)[field]) := by
  unfold get
  rw [fields_ofFn f inside]
  exact dif_pos small

/-- Zones with the same fields are read alike, field by field. -/
theorem get_ofFn_congr {f g : Zone → Vector R numFields} {zone other : Zone} (inside : zone ∈ grid)
    (otherInside : other ∈ grid) (same : f zone = g other) (field : Nat) :
    (ofFn grid numFields f).get zone field = (ofFn grid numFields g).get other field := by
  unfold get
  rw [fields_ofFn f inside, fields_ofFn g otherInside, same]
  rfl

theorem ofFn_congr {f g : Zone → Vector R numFields} (same : ∀ zone ∈ grid, f zone = g zone) :
    ofFn grid numFields f = ofFn grid numFields g :=
  congrArg ofZones (ZoneArray.ofFn_congr same)

/-- A patch over given zones with a given number of fields. -/
structure Spans (patch : Patch R) (grid : Grid) (numFields : Nat) : Prop where
  grid_eq : patch.grid = grid
  numFields_eq : patch.numFields = numFields

theorem spans_ofFn (f : Zone → Vector R numFields) :
    (ofFn grid numFields f).Spans grid numFields :=
  ⟨rfl, rfl⟩

/-- Reading a zone that a patch spans succeeds. -/
theorem Spans.fields_eq_ok {patch : Patch R} (spans : patch.Spans grid numFields) {zone : Zone}
    (inside : zone ∈ grid) : ∃ fields, patch.fields zone = .ok fields := by
  rw [← spans.grid_eq] at inside
  exact ⟨_, dif_pos inside⟩

/-- A patch of known shape is a table of that shape. -/
theorem Spans.exists_eq_ofFn [Zero R] {patch : Patch R} (spans : patch.Spans grid numFields) :
    ∃ f, patch = ofFn grid numFields f := by
  obtain ⟨rfl, rfl⟩ := spans
  obtain ⟨f, same⟩ := patch.zones.exists_eq_ofFn (.replicate patch.numFields 0)
  refine ⟨f, ?_⟩
  calc patch = ofZones patch.zones := (ofZones_zones patch).symm
    _ = ofZones (.ofFn patch.grid f) := congrArg ofZones same

/-- Every patch is a table. -/
theorem exists_eq_ofFn [Zero R] {patch : Patch R} (sameGrid : patch.grid = grid) :
    ∃ numFields f, patch = ofFn grid numFields f :=
  ⟨patch.numFields, (Spans.mk sameGrid rfl).exists_eq_ofFn⟩

/-- Two patches with the same number of fields are tables with that number. -/
theorem exists_eq_ofFn_both [Zero R] {patch other : Patch R} {otherGrid : Grid}
    (sameFields : other.numFields = patch.numFields) (sameGrid : patch.grid = grid)
    (sameOther : other.grid = otherGrid) :
    ∃ numFields f g, patch = ofFn grid numFields f ∧ other = ofFn otherGrid numFields g := by
  obtain ⟨f, table⟩ := (Spans.mk sameGrid rfl).exists_eq_ofFn
  obtain ⟨g, otherTable⟩ := (Spans.mk sameOther sameFields).exists_eq_ofFn
  exact ⟨patch.numFields, f, g, table, otherTable⟩

theorem zeros_eq_ofFn [Zero R] (grid : Grid) (numFields : Nat) :
    zeros grid numFields = ofFn (R := R) grid numFields fun _ => .replicate numFields 0 := by
  have table : (zeros (R := R) grid numFields).zones = .ofFn grid fun _ => .replicate numFields 0 :=
    calc (zeros (R := R) grid numFields).zones
        = .replicate grid (.replicate numFields 0) :=
          congrArg (ZoneArray.mk grid) (Rows.toVector_fill 0)
      _ = .ofFn grid fun _ => .replicate numFields 0 := ZoneArray.replicate_eq_ofFn grid _
  exact (ofZones_zones _).symm.trans (congrArg ofZones table)

theorem requireFields_ok (someField : numFields ≠ 0) : requireFields numFields = .ok () :=
  if_neg someField

/-- A function that fails nowhere on the grid fills a patch. -/
theorem tabulate_eq_ok (grid : Grid) (someField : numFields ≠ 0)
    {f : Zone → Except Fault (Vector R numFields)}
    {g : Zone → Vector R numFields} (succeeds : ∀ zone ∈ grid, f zone = .ok (g zone)) :
    tabulate grid numFields f = .ok (ofFn grid numFields g) := by
  unfold tabulate
  rw [requireFields_ok someField, ZoneArray.ofFnM_eq_ok succeeds]
  rfl

/-- A sweep over a tabulated patch is one over the table of its zones. -/
theorem sweepOver_eq_ofFn
    {kernel : Zone → Vector R numFields → Except ε (Vector R numFields × Bool)}
    {f g : Zone → Vector R numFields} {order : List (Fin grid.size)} {outcome : Except ε Nat}
    (swept : (ZoneArray.ofFn grid f).sweepOver order kernel = (.ofFn grid g, outcome)) :
    (ofFn grid numFields f).sweepOver order kernel = (ofFn grid numFields g, outcome) := by
  have zones : (ZoneArray.mk grid (Rows.ofVector (ZoneArray.ofFn grid f).cells).toVector).sweepOver
      order kernel = (.ofFn grid g, outcome) := by
    rw [Rows.toVector_ofVector]
    exact swept
  exact congrArg (fun swept => (ofZones swept.1, swept.2)) zones

/-- A sweep whose kernel succeeds everywhere tabulates the kernel's values, in any order. -/
theorem sweepOver_ofFn {kernel : Zone → Vector R numFields → Except ε (Vector R numFields × Bool)}
    {f g : Zone → Vector R numFields} {mark : Zone → Bool} {order : List (Fin grid.size)}
    (distinct : order.Nodup) (complete : ∀ position, position ∈ order)
    (succeeds : ∀ zone ∈ grid, kernel zone (f zone) = .ok (g zone, mark zone)) :
    (ofFn grid numFields f).sweepOver order kernel =
      (ofFn grid numFields g, .ok (grid.zones.countP mark)) :=
  sweepOver_eq_ofFn (ZoneArray.sweepOver_ofFn distinct complete succeeds)

/-- A sweep that completes is the pass. -/
theorem updateOver_eq_ok (patch : Patch R) (someField : patch.numFields ≠ 0)
    {order : List (Fin patch.grid.size)}
    {kernel : Zone → Vector R patch.numFields → Except Fault (Vector R patch.numFields × Bool)}
    {after : Patch R} {marked : Nat} (completes : patch.sweepOver order kernel = (after, .ok marked)) :
    patch.updateOver order kernel = .ok (after, marked) := by
  unfold updateOver
  rw [requireFields_ok someField, completes]
  rfl

/-- A pass whose kernel succeeds everywhere tabulates the kernel's values, in any order. -/
theorem updateOver_ofFn (someField : numFields ≠ 0)
    {kernel : Zone → Vector R numFields → Except Fault (Vector R numFields × Bool)}
    {f g : Zone → Vector R numFields} {mark : Zone → Bool} {order : List (Fin grid.size)}
    (distinct : order.Nodup) (complete : ∀ position, position ∈ order)
    (succeeds : ∀ zone ∈ grid, kernel zone (f zone) = .ok (g zone, mark zone)) :
    (ofFn grid numFields f).updateOver order kernel =
      .ok (ofFn grid numFields g, grid.zones.countP mark) :=
  updateOver_eq_ok (ofFn grid numFields f) someField (sweepOver_ofFn distinct complete succeeds)

/-- A pass in memory order whose kernel succeeds everywhere tabulates the kernel's values. -/
theorem update_ofFn (someField : numFields ≠ 0)
    {kernel : Zone → Vector R numFields → Except Fault (Vector R numFields × Bool)}
    {f g : Zone → Vector R numFields} {mark : Zone → Bool}
    (succeeds : ∀ zone ∈ grid, kernel zone (f zone) = .ok (g zone, mark zone)) :
    (ofFn grid numFields f).update kernel =
      .ok (ofFn grid numFields g, grid.zones.countP mark) :=
  (update_eq_updateOver (ofFn grid numFields f) kernel).trans
    (updateOver_ofFn someField grid.nodup_memoryOrder Grid.mem_memoryOrder succeeds)

/-- A pass that marks nothing tabulates the kernel's values. -/
theorem mapZonesM_ofFn (someField : numFields ≠ 0)
    {kernel : Zone → Vector R numFields → Except Fault (Vector R numFields)}
    {f g : Zone → Vector R numFields}
    (succeeds : ∀ zone ∈ grid, kernel zone (f zone) = .ok (g zone)) :
    (ofFn grid numFields f).mapZonesM kernel = .ok (ofFn grid numFields g) := by
  have updated : (ofFn grid numFields f).update (unmarked kernel) =
      .ok (ofFn grid numFields g, grid.zones.countP fun _ => false) :=
    update_ofFn someField fun zone inside => by
      change (do return (← kernel zone (f zone), false)) = _
      rw [succeeds zone inside]
      rfl
  unfold mapZonesM
  exact congrArg (fun result => do return (← result).1) updated

/-- The zones of a patch with fields can be listed. -/
theorem entries_eq_ok (patch : Patch R) (someField : patch.numFields ≠ 0) :
    patch.entries = .ok patch.zones.entries := by
  unfold entries
  rw [requireFields_ok someField]
  rfl

/-- The entries of a tabulated patch, in the order of its zones. -/
theorem entries_ofFn (someField : numFields ≠ 0) (f : Zone → Vector R numFields) :
    (ofFn grid numFields f).entries = .ok (grid.zones.map fun zone => (zone, f zone)) := by
  have listed : (ofFn grid numFields f).zones.entries = grid.zones.map fun zone => (zone, f zone) :=
    (congrArg ZoneArray.entries (zones_ofFn f)).trans (ZoneArray.entries_ofFn f)
  exact (entries_eq_ok (ofFn grid numFields f) someField).trans (congrArg Except.ok listed)

end Patch

end BlockHydro
