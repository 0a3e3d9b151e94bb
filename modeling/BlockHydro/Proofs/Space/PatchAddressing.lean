import Mathlib.Data.Set.Function
import BlockHydro.Proofs.Space.Tabulation

/-!
# Slots of a patch

A `Slot` is one field of one zone.  The slots of a patch are numbered by their
places among its values, one slot for each place (`Patch.place_bijOn`), and a value
that is set changes what is read from its own slot only.  After any number of writes
a slot therefore holds what the last write to it left there
(`Patch.exists_setAll`).

A traversal hands out the zones in the order of those places.  What a kernel is
given, and in which order, shows in how the traversal ends: it is the run of the
kernel over the entries of the patch (`Patch.visits_entries`).
-/

namespace BlockHydro

variable {R ε : Type}

section Places

/-- The values of all rows are the rows one after another. -/
theorem Rows.values_eq_flatten {count width : Nat} (rows : Rows R count width) :
    rows.values = rows.toVector.flatten.toList := by
  rw [values_eq_flatMap, Vector.flatten]
  simp [List.flatMap, Function.comp_def]
  rfl

/-- Behind the rows before it the values of a row follow in turn. -/
theorem getElem_flatten_place {count width : Nat} (rows : Vector (Vector R width) count)
    {place field : Nat} (listed : place < count) (small : field < width)
    (fits : place * width + field < count * width) :
    rows.flatten[place * width + field] = rows[place][field] := by
  have row : (place * width + field) / width = place := by
    rw [Nat.mul_comm, Nat.mul_add_div (by omega), Nat.div_eq_of_lt small, Nat.add_zero]
  have column : (place * width + field) % width = field := by
    rw [Nat.mul_add_mod', Nat.mod_eq_of_lt small]
  simp only [Vector.getElem_flatten, row, column]

theorem Grid.zoneAt_eq_iff {grid : Grid} {zone : Zone} (inside : zone ∈ grid) {position : Nat} :
    grid.zoneAt position = zone ↔ grid.position zone = position := by
  constructor
  · rintro rfl
    exact grid.position_zoneAt position
  · rintro rfl
    exact zoneAt_position inside

end Places

/-- One field of one zone. -/
@[ext] structure Slot where
  zone : Zone
  field : Nat
  deriving DecidableEq

/-- A slot of a patch over a grid with so many fields. -/
structure Slot.Within (slot : Slot) (grid : Grid) (numFields : Nat) : Prop where
  zone_mem : slot.zone ∈ grid
  field_lt : slot.field < numFields

/-- A value for a slot. -/
structure Write (R : Type) where
  slot : Slot
  value : R

/-- The value that the last write to a slot leaves there. -/
def lastWrite? (writes : List (Write R)) (slot : Slot) : Option R :=
  (writes.reverse.find? (·.slot = slot)).map (·.value)

@[simp] theorem lastWrite?_nil (slot : Slot) : lastWrite? ([] : List (Write R)) slot = none := rfl

/-- Later writes hide earlier ones. -/
theorem lastWrite?_cons (write : Write R) (later : List (Write R)) (slot : Slot) :
    lastWrite? (write :: later) slot =
      (lastWrite? later slot).or (if write.slot = slot then some write.value else none) := by
  unfold lastWrite?
  rw [List.reverse_cons, List.find?_append]
  cases found : later.reverse.find? (·.slot = slot) with
  | some last => simp
  | none => by_cases same : write.slot = slot <;> simp [same]

namespace ZoneArray

variable {α : Type} {grid : Grid}

/-- Count what a kernel marks on one visit. -/
def tally {β : Type} (kernel : Zone → α → Except ε (β × Bool)) (marked : Nat) (visit : Zone × α) :
    Except ε Nat := do
  return marked + (← kernel visit.1 visit.2).2.toNat

/-- A sweep over distinct places ends as the run of the kernel over their values does, in that
order: no visit changes what a later one is given. -/
theorem sweepCells_outcome (kernel : Zone → α → Except ε (α × Bool)) {order : List (Fin grid.size)}
    (distinct : order.Nodup) (cells : Vector α grid.size) (marked : Nat) :
    (sweepCells grid kernel order cells marked).2 =
      (order.map fun position : Fin grid.size =>
        (grid.zoneAt position, cells.get position)).foldlM (tally kernel) marked := by
  induction order generalizing cells marked with
  | nil => rfl
  | cons first later ih =>
    obtain ⟨new, distinctLater⟩ := List.nodup_cons.mp distinct
    have own : cells.get first = cells[first] := rfl
    rw [sweepCells, List.map_cons, List.foldlM_cons, own, tally]
    cases kernel (grid.zoneAt first) cells[first] with
    | error cause => rfl
    | ok visited =>
      have unchanged : ∀ position ∈ later,
          (grid.zoneAt position, (cells.set first visited.1).get position) =
            (grid.zoneAt position, cells.get position) := fun position member =>
        congrArg (Prod.mk _) (Vector.getElem_set_ne first.isLt position.isLt fun equal =>
          new (Fin.ext equal ▸ member))
      dsimp only
      rw [ih distinctLater, List.map_congr_left unchanged]
      rfl

end ZoneArray

namespace Patch

variable {grid : Grid} {numFields : Nat} {patch : Patch R}

/-- The place of a slot among all values. -/
def place (patch : Patch R) (slot : Slot) : Nat :=
  patch.address slot.zone slot.field

/-- Write values one after another. -/
def setAll (patch : Patch R) (writes : List (Write R)) : Except Fault (Patch R) :=
  writes.foldlM
    (fun current write => current.set write.slot.zone write.slot.field write.value) patch

section Numbering

theorem place_lt {slot : Slot} (inside : slot.Within patch.grid patch.numFields) :
    patch.place slot < patch.numValues := by
  obtain ⟨zoneInside, small⟩ := inside
  calc patch.grid.position slot.zone * patch.numFields + slot.field
      < patch.grid.position slot.zone * patch.numFields + patch.numFields := by omega
    _ = (patch.grid.position slot.zone + 1) * patch.numFields := by rw [Nat.add_mul, Nat.one_mul]
    _ ≤ patch.numValues := Nat.mul_le_mul_right _ (Grid.position_lt_size zoneInside)

/-- The place of a slot tells its zone and its field. -/
theorem place_digits {slot : Slot} (inside : slot.Within patch.grid patch.numFields) :
    patch.place slot / patch.numFields = patch.grid.position slot.zone ∧
      patch.place slot % patch.numFields = slot.field := by
  obtain ⟨-, small⟩ := inside
  unfold place address
  constructor
  · rw [Nat.mul_comm, Nat.mul_add_div (by omega), Nat.div_eq_of_lt small, Nat.add_zero]
  · rw [Nat.mul_add_mod', Nat.mod_eq_of_lt small]

/-- Every place holds one slot. -/
theorem place_bijOn (patch : Patch R) :
    Set.BijOn patch.place {slot | slot.Within patch.grid patch.numFields}
      {place | place < patch.numValues} := by
  refine ⟨fun slot inside => place_lt inside, ?_, ?_⟩
  · intro slot inside other otherInside same
    obtain ⟨zone, field⟩ := place_digits inside
    obtain ⟨otherZone, otherField⟩ := place_digits otherInside
    rw [same, otherZone] at zone
    rw [same, otherField] at field
    have zones := congrArg patch.grid.zoneAt zone
    rw [Grid.zoneAt_position inside.zone_mem, Grid.zoneAt_position otherInside.zone_mem] at zones
    exact Slot.ext zones.symm field.symm
  · intro place small
    have someField : 0 < patch.numFields := Nat.pos_of_mul_pos_left (Nat.zero_lt_of_lt small)
    have zoneSmall : place / patch.numFields < patch.grid.size :=
      Nat.div_lt_of_lt_mul (by rwa [Nat.mul_comm])
    refine ⟨⟨patch.grid.zoneAt (place / patch.numFields), place % patch.numFields⟩,
      ⟨Grid.zoneAt_mem zoneSmall, Nat.mod_lt _ someField⟩, ?_⟩
    change patch.grid.position (patch.grid.zoneAt (place / patch.numFields)) * _ + _ = place
    rw [Grid.position_zoneAt, Nat.mul_comm, Nat.div_add_mod]

theorem length_values (patch : Patch R) : patch.values.length = patch.numValues := by
  rw [values, Rows.values_eq_flatten, Vector.length_toList, numValues]

/-- The value of a slot stands at its place. -/
theorem exists_value {slot : Slot} (inside : slot.Within patch.grid patch.numFields) :
    ∃ value, patch.get slot.zone slot.field = .ok value ∧
      patch.values[patch.place slot]? = some value := by
  have listed := Grid.position_lt_size inside.zone_mem
  have fits := place_lt inside
  obtain ⟨zoneInside, small⟩ := inside
  refine ⟨patch.rows.toVector[patch.grid.position slot.zone][slot.field], ?_, ?_⟩
  · unfold get fields
    rw [dif_pos zoneInside, Rows.get_eq_getElem]
    exact dif_pos small
  · rw [values, Rows.values_eq_flatten, List.getElem?_eq_getElem (by simpa [numValues] using fits),
      Vector.getElem_toList]
    exact congrArg some (getElem_flatten_place _ listed small fits)

/-- The zone at a place of memory holds the row at that place. -/
theorem fields_zoneAt (patch : Patch R) (position : Fin patch.grid.size) :
    patch.fields (patch.grid.zoneAt position) = .ok patch.rows.toVector[position] := by
  have listed : (⟨patch.grid.position (patch.grid.zoneAt position),
      Grid.position_lt_size (Grid.zoneAt_mem position.isLt)⟩ : Fin patch.grid.size) = position :=
    Fin.ext (patch.grid.position_zoneAt position)
  unfold fields
  rw [dif_pos (Grid.zoneAt_mem position.isLt), listed, Rows.get_eq_getElem]

/-- The fields of a zone can be read exactly if the patch has the zone. -/
theorem fields_eq_ok_iff {zone : Zone} :
    (∃ fields, patch.fields zone = .ok fields) ↔ zone ∈ patch.grid := by
  constructor
  · rintro ⟨fields, read⟩
    by_contra outside
    cases (dif_neg outside).symm.trans read
  · intro inside
    exact ⟨_, dif_pos inside⟩

end Numbering

section Writing

variable (w : Zone → Vector R numFields) {zone : Zone} (inside : zone ∈ grid)

include inside

theorem rows_get_ofFn :
    (Rows.ofVector (ZoneArray.ofFn grid w).cells).get
      ⟨grid.position zone, Grid.position_lt_size inside⟩ = w zone := by
  have read : (ofFn grid numFields w).fields zone =
      .ok ((Rows.ofVector (ZoneArray.ofFn grid w).cells).get
        ⟨grid.position zone, Grid.position_lt_size inside⟩) := dif_pos inside
  exact Except.ok.inj (read.symm.trans (fields_ofFn w inside))

theorem rows_set_ofFn (row : Vector R numFields) :
    (Rows.ofVector (ZoneArray.ofFn grid w).cells).set
        ⟨grid.position zone, Grid.position_lt_size inside⟩ row =
      Rows.ofVector (ZoneArray.ofFn grid (Function.update w zone row)).cells := by
  rw [← Rows.ofVector_toVector (Rows.set _ _ _), Rows.toVector_set, Rows.toVector_ofVector]
  congr 1
  ext position small : 1
  rw [Vector.getElem_set]
  simp only [ZoneArray.ofFn, Vector.getElem_ofFn, Function.update_apply,
    Grid.zoneAt_eq_iff inside]

/-- Changing a zone of a table changes its function there. -/
theorem modify_ofFn {f : Vector R numFields → Except Fault (Vector R numFields)}
    {row : Vector R numFields} (given : f (w zone) = .ok row) :
    (ofFn grid numFields w).modify zone f =
      .ok (ofFn grid numFields (Function.update w zone row)) := by
  have visited : (ofFn grid numFields w).modify zone f = (do
      let row ← f ((Rows.ofVector (ZoneArray.ofFn grid w).cells).get
        ⟨grid.position zone, Grid.position_lt_size inside⟩)
      return ⟨grid, numFields, (Rows.ofVector (ZoneArray.ofFn grid w).cells).set
        ⟨grid.position zone, Grid.position_lt_size inside⟩ row⟩) := dif_pos inside
  rw [visited, rows_get_ofFn w inside, given]
  exact congrArg (fun rows => Except.ok (Patch.mk grid numFields rows)) (rows_set_ofFn w inside row)

theorem set_ofFn {field : Nat} (small : field < numFields) (value : R) :
    (ofFn grid numFields w).set zone field value =
      .ok (ofFn grid numFields (Function.update w zone ((w zone).set field value))) :=
  modify_ofFn w inside (dif_pos small)

end Writing

/-- A value that is set is read from its slot, and from no other. -/
theorem Spans.exists_set [Zero R] (spans : patch.Spans grid numFields) {slot : Slot}
    (inside : slot.Within grid numFields) (value : R) :
    ∃ after, patch.set slot.zone slot.field value = .ok after ∧ after.Spans grid numFields ∧
      ∀ other : Slot, other.Within grid numFields → after.get other.zone other.field =
        if slot = other then .ok value else patch.get other.zone other.field := by
  obtain ⟨w, rfl⟩ := spans.exists_eq_ofFn
  obtain ⟨zoneInside, small⟩ := inside
  refine ⟨_, set_ofFn w zoneInside small value, spans_ofFn _, ?_⟩
  rintro other ⟨otherInside, otherSmall⟩
  rw [get_ofFn _ otherInside otherSmall, get_ofFn _ otherInside otherSmall]
  obtain ⟨zone, field⟩ := slot
  obtain ⟨other, otherField⟩ := other
  by_cases sameZone : zone = other
  · subst sameZone
    by_cases sameField : field = otherField
    · simp [sameField]
    · simp [sameField]
  · simp [sameZone, Function.update_of_ne (Ne.symm sameZone)]

/-- After any writes every slot holds what the last write to it left, and its old value if there was
none. -/
theorem Spans.exists_setAll [Zero R] (spans : patch.Spans grid numFields) {writes : List (Write R)}
    (within : ∀ write ∈ writes, write.slot.Within grid numFields) :
    ∃ after, patch.setAll writes = .ok after ∧ after.Spans grid numFields ∧
      ∀ slot : Slot, slot.Within grid numFields → after.get slot.zone slot.field =
        match lastWrite? writes slot with
        | some value => .ok value
        | none => patch.get slot.zone slot.field := by
  induction writes generalizing patch with
  | nil => exact ⟨patch, rfl, spans, fun _ _ => rfl⟩
  | cons write later ih =>
    obtain ⟨inside, laterWithin⟩ := List.forall_mem_cons.mp within
    obtain ⟨next, stepped, nextSpans, nextGet⟩ := spans.exists_set inside write.value
    obtain ⟨after, completed, afterSpans, afterGet⟩ := ih nextSpans laterWithin
    refine ⟨after, ?_, afterSpans, fun slot slotInside => ?_⟩
    · rw [setAll, List.foldlM_cons, stepped]
      exact completed
    · rw [afterGet slot slotInside, nextGet slot slotInside, lastWrite?_cons]
      cases lastWrite? later slot with
      | some value => rfl
      | none => by_cases same : write.slot = slot <;> simp [same]

/-- What a traversal of a patch hands out: every zone once, in memory order, with its fields. -/
structure Visits (patch : Patch R) (visits : List (Zone × Vector R patch.numFields)) : Prop where
  nodup : (visits.map Prod.fst).Nodup
  mem_iff : ∀ zone, zone ∈ visits.map Prod.fst ↔ zone ∈ patch.grid
  /-- The fields are those that the zone shows when it is read. -/
  fields_eq : ∀ visit ∈ visits, patch.fields visit.1 = .ok visit.2
  /-- The visits follow in memory without a gap. -/
  place_eq : ∀ count visit, visits[count]? = some visit → ∀ field,
    patch.place ⟨visit.1, field⟩ = count * patch.numFields + field
  /-- A sweep gives its kernel these visits one by one, and ends as the kernel does on them. -/
  outcome_eq : ∀ (ε : Type) (kernel : Zone → Vector R patch.numFields →
    Except ε (Vector R patch.numFields × Bool)),
    (patch.sweepOver patch.grid.memoryOrder kernel).2 = visits.foldlM (ZoneArray.tally kernel) 0

theorem visits_entries (patch : Patch R) : patch.Visits patch.zones.entries := by
  have zones : patch.zones.entries.map Prod.fst = patch.grid.zones := by
    rw [ZoneArray.entries, List.map_map, Grid.zones_eq_map_memoryOrder]
    rfl
  constructor
  case nodup =>
    rw [zones]
    exact patch.grid.nodup_zones
  case mem_iff =>
    intro zone
    rw [zones]
    exact Grid.mem_zones
  case fields_eq =>
    intro visit member
    obtain ⟨position, -, rfl⟩ := List.mem_map.mp member
    exact patch.fields_zoneAt position
  case place_eq =>
    intro count visit listed field
    have named : patch.grid.zones[count]? = some visit.1 := by
      rw [← zones, List.getElem?_map, listed, Option.map_some]
    rw [Grid.zones_eq_map_zoneAt, List.getElem?_map] at named
    obtain ⟨position, counted, same⟩ := Option.map_eq_some_iff.mp named
    obtain ⟨small, rfl⟩ := List.getElem?_eq_some_iff.mp counted
    rw [place, address, ← same, Grid.position_zoneAt, List.getElem_range]
  case outcome_eq =>
    exact fun ε kernel => ZoneArray.sweepCells_outcome kernel patch.grid.nodup_memoryOrder
      patch.zones.cells 0

/-- A pass that replaces every zone stores in each slot what it made of the fields of that zone. -/
theorem Spans.exists_mapZonesM [Zero R] (spans : patch.Spans grid numFields)
    (someField : 1 ≤ numFields) (f : Zone → Vector R patch.numFields → Vector R patch.numFields) :
    ∃ after, patch.mapZonesM (fun zone fields => .ok (f zone fields)) = .ok after ∧
      after.Spans grid numFields ∧ ∀ zone fields, patch.fields zone = .ok fields →
        ∀ field (_ : field < patch.numFields),
          after.get zone field = .ok (f zone fields)[field] := by
  obtain ⟨w, rfl⟩ := spans.exists_eq_ofFn
  have mapped : (ofFn grid numFields w).mapZonesM (fun zone fields => .ok (f zone fields)) =
      .ok (ofFn grid numFields fun zone => f zone (w zone)) :=
    mapZonesM_ofFn (by omega) fun _ _ => rfl
  refine ⟨_, mapped, spans_ofFn _, fun zone fields read field small => ?_⟩
  have inside : zone ∈ grid := fields_eq_ok_iff.mp ⟨fields, read⟩
  rw [fields_ofFn w inside] at read
  cases read
  exact get_ofFn _ inside small

/-- A patch that a function fills stores its values, unless they are too many to be addressed. -/
theorem exists_generate (grid : Grid) (someField : 1 ≤ numFields) (f : Zone → Vector R numFields) :
    ∃ made : Patch R, made.Spans grid numFields ∧
      (∀ zone ∈ grid, ∀ field (_ : field < numFields), made.get zone field = .ok (f zone)[field]) ∧
      generate grid numFields (fun zone => .ok (f zone)) =
        if numberBytes * (grid.size * numFields) ≤ addressableBytes then .ok made
        else .error (.tooLarge (numberBytes * (grid.size * numFields))) := by
  refine ⟨ofFn grid numFields f, spans_ofFn f, fun _ inside _ => get_ofFn f inside, ?_⟩
  unfold generate requireRoom requireAddressable
  rw [tabulate_eq_ok grid (by omega) fun _ _ => rfl]
  split <;> rfl

/-- A patch whose slots, values, writes and traversals fit together. -/
structure Addressed (patch : Patch R) : Prop where
  /-- Slots and places of values correspond one to one. -/
  place_bijOn : Set.BijOn patch.place {slot | slot.Within patch.grid patch.numFields}
    {place | place < patch.values.length}
  /-- What is read from a slot is the value at its place. -/
  value_eq : ∀ slot : Slot, slot.Within patch.grid patch.numFields →
    ∃ value, patch.get slot.zone slot.field = .ok value ∧
      patch.values[patch.place slot]? = some value
  /-- After any writes each slot holds what was last written to it. -/
  written : ∀ writes : List (Write R),
    (∀ write ∈ writes, write.slot.Within patch.grid patch.numFields) →
      ∃ after, patch.setAll writes = .ok after ∧ after.Spans patch.grid patch.numFields ∧
        ∀ slot : Slot, slot.Within patch.grid patch.numFields →
          after.get slot.zone slot.field =
            match lastWrite? writes slot with
            | some value => .ok value
            | none => patch.get slot.zone slot.field
  /-- A traversal hands out every zone once, in memory order. -/
  visited : ∃ visits, patch.entries = .ok visits ∧ patch.Visits visits
  /-- A pass stores what it makes of the fields of a zone in that zone. -/
  replaced : ∀ f : Zone → Vector R patch.numFields → Vector R patch.numFields,
    ∃ after, patch.mapZonesM (fun zone fields => .ok (f zone fields)) = .ok after ∧
      after.Spans patch.grid patch.numFields ∧ ∀ zone fields, patch.fields zone = .ok fields →
        ∀ field (_ : field < patch.numFields), after.get zone field = .ok (f zone fields)[field]
  /-- Only zones outside the patch cannot be read. -/
  refused_iff : ∀ zone, (∃ fault, patch.fields zone = .error fault) ↔
    ¬ (zone.block < patch.grid.numBlocks ∧ zone.index ∈ patch.grid.space)

/-- Two blocks of three by two zones that start below zero. -/
def shoal : Grid := ⟨2, ⟨⟨-1, 4, 0⟩, ⟨2, 6, 1⟩, by decide⟩⟩

/-- Every zone of the two blocks stores where it lies. -/
def soundings : Patch Int :=
  ofFn shoal 3 fun zone => #v[zone.index.i, zone.index.j, zone.index.k]

end Patch

end BlockHydro
