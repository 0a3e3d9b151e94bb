import BlockHydro.Space.Word

/-!
# Rectangular index spaces

An `IndexSpace` is a nonempty box of indexes.  `∈` says which indexes it
holds and is the authority for everything below.

* `indexes` lists the box in memory order: the first axis runs fastest.
* `offset` numbers an index in that order, and `indexAt` reads the number back.
* `grow` and `growUpper` enlarge a box; `extend?` and `extendUpper?` take a
  signed amount and refuse to leave nothing.

These count without bound.  `volume?`, `offset?` and `indexAt?` are the same counts
in machine words, which large boxes overflow.
-/

namespace BlockHydro

/-- A property of every axis is decided axis by axis. -/
theorem Axis.forall_iff {p : Axis → Prop} : (∀ axis, p axis) ↔ p .i ∧ p .j ∧ p .k :=
  ⟨fun all => ⟨all .i, all .j, all .k⟩,
   fun ⟨first, second, third⟩ axis => by cases axis <;> assumption⟩

instance {p : Axis → Prop} [DecidablePred p] : Decidable (∀ axis, p axis) :=
  decidable_of_iff' _ Axis.forall_iff

/-- The consecutive integers from `lower` on. -/
def consecutive (lower : Int) (count : Nat) : List Int :=
  (List.range count).map fun step : Nat => lower + step

/-- A box of indexes from `lower` (included) to `upper` (excluded), nowhere empty. -/
structure IndexSpace where
  lower : Index
  upper : Index
  nonempty : ∀ axis, lower.get axis < upper.get axis
  deriving DecidableEq

namespace IndexSpace

/-- The box between two corners, unless an axis would hold no index. -/
def ofBounds? (lower upper : Index) : Except Fault IndexSpace :=
  if nonempty : ∀ axis, lower.get axis < upper.get axis then
    .ok ⟨lower, upper, nonempty⟩
  else
    .error .emptySpace

/-- The number of indexes along one axis. -/
def extent (space : IndexSpace) (axis : Axis) : Nat :=
  (space.upper.get axis - space.lower.get axis).toNat

/-- The number of indexes in the box. -/
def volume (space : IndexSpace) : Nat :=
  space.extent .i * space.extent .j * space.extent .k

instance : Membership Index IndexSpace where
  mem space index := ∀ axis, space.lower.get axis ≤ index.get axis ∧ index.get axis < space.upper.get axis

theorem mem_iff {space : IndexSpace} {index : Index} :
    index ∈ space ↔
      ∀ axis, space.lower.get axis ≤ index.get axis ∧ index.get axis < space.upper.get axis :=
  Iff.rfl

instance (index : Index) (space : IndexSpace) : Decidable (index ∈ space) :=
  inferInstanceAs (Decidable (∀ axis, space.lower.get axis ≤ index.get axis ∧ index.get axis < space.upper.get axis))

/-- Every index of the box in memory order. -/
def indexes (space : IndexSpace) : List Index :=
  (consecutive space.lower.k (space.extent .k)).flatMap fun k =>
    (consecutive space.lower.j (space.extent .j)).flatMap fun j =>
      (consecutive space.lower.i (space.extent .i)).map fun i => ⟨i, j, k⟩

/-- The signed memory distance of an index from the lower corner, also for indexes outside. -/
def offset (space : IndexSpace) (index : Index) : Int :=
  ((index.k - space.lower.k) * space.extent .j + (index.j - space.lower.j)) * space.extent .i
    + (index.i - space.lower.i)

/-- The place of an index of the box in memory order. -/
def position (space : IndexSpace) (index : Index) : Nat :=
  (space.offset index).toNat

/-- The index at a place in memory order; past the end the last axis runs on. -/
def indexAt (space : IndexSpace) (position : Nat) : Index where
  i := space.lower.i + (position % space.extent .i : Nat)
  j := space.lower.j + (position / space.extent .i % space.extent .j : Nat)
  k := space.lower.k + (position / (space.extent .i * space.extent .j) : Nat)

/-- The number of indexes along one axis, counted in words. -/
def extent? (space : IndexSpace) (overflow : Overflow) (axis : Axis) : Except Fault Nat :=
  overflow.distance (space.lower.get axis) (space.upper.get axis)

/-- The number of indexes in the box, counted in words. -/
def volume? (space : IndexSpace) (overflow : Overflow) : Except Fault Nat := do
  let sizeI ← space.extent? overflow .i
  let sizeJ ← space.extent? overflow .j
  let sizeK ← space.extent? overflow .k
  let slab ← overflow.unsigned (sizeI * sizeJ)
  overflow.unsigned (slab * sizeK)

/-- The memory distance of an index from the lower corner, counted in words. -/
def offset? (space : IndexSpace) (overflow : Overflow) (index : Index) : Except Fault Nat := do
  let sizeI ← space.extent? overflow .i
  let sizeJ ← space.extent? overflow .j
  let _ ← space.extent? overflow .k
  let i ← overflow.distance space.lower.i index.i
  let j ← overflow.distance space.lower.j index.j
  let k ← overflow.distance space.lower.k index.k
  let slabs ← overflow.unsigned (k * sizeJ)
  let rows ← overflow.unsigned (slabs + j)
  let start ← overflow.unsigned (rows * sizeI)
  overflow.unsigned (start + i)

/-- The index at a place in memory order, counted in words.  The extents are not zero, but
their product may lose all its bits. -/
def indexAt? (space : IndexSpace) (overflow : Overflow) (place : Nat) : Except Fault Index := do
  let sizeI ← space.extent? overflow .i
  let sizeJ ← space.extent? overflow .j
  let _ ← space.extent? overflow .k
  let slab ← overflow.unsigned (sizeI * sizeJ)
  if slab = 0 then throw .divisionByZero
  return {
    i := ← overflow.advance space.lower.i (place % sizeI)
    j := ← overflow.advance space.lower.j (place / sizeI % sizeJ)
    k := ← overflow.advance space.lower.k (place / slab) }

/-- Enlarge the box at both ends of one axis by a signed amount. -/
def extend? (space : IndexSpace) (delta : Int) (axis : Axis) : Except Fault IndexSpace :=
  ofBounds? (space.lower.shift (-delta) axis) (space.upper.shift delta axis)

/-- Enlarge the box at the upper end of one axis by a signed amount. -/
def extendUpper? (space : IndexSpace) (delta : Int) (axis : Axis) : Except Fault IndexSpace :=
  ofBounds? space.lower (space.upper.shift delta axis)

theorem get_shift_self (index : Index) (delta : Int) (axis : Axis) :
    (index.shift delta axis).get axis = index.get axis + delta := by
  simp [PerAxis.shift]

theorem get_shift_of_ne (index : Index) (delta : Int) {axis other : Axis}
    (different : other ≠ axis) : (index.shift delta axis).get other = index.get other := by
  simp [PerAxis.shift, PerAxis.get_modify_of_ne, different]

/-- The box with `depth` more layers at both ends of one axis. -/
def grow (space : IndexSpace) (depth : Nat) (axis : Axis) : IndexSpace where
  lower := space.lower.shift (-depth) axis
  upper := space.upper.shift depth axis
  nonempty other := by
    have inside := space.nonempty other
    by_cases same : other = axis
    · subst same
      simp only [get_shift_self]
      omega
    · simpa only [get_shift_of_ne _ _ same] using inside

/-- A box that has grown still has its indexes. -/
theorem mem_grow {space : IndexSpace} {index : Index} (inside : index ∈ space) (depth : Nat)
    (axis : Axis) : index ∈ space.grow depth axis := by
  intro other
  have within := inside other
  by_cases same : other = axis
  · subst same
    simp only [grow, get_shift_self]
    omega
  · simpa only [grow, get_shift_of_ne _ _ same] using within

/-- The box with `count` more layers at the upper end of one axis. -/
def growUpper (space : IndexSpace) (count : Nat) (axis : Axis) : IndexSpace where
  lower := space.lower
  upper := space.upper.shift count axis
  nonempty other := by
    have inside := space.nonempty other
    by_cases same : other = axis
    · subst same
      simp only [get_shift_self]
      omega
    · simpa only [get_shift_of_ne _ _ same] using inside

/-- The faces normal to `axis` around the cells of the box: face `f` lies between cells `f - 1` and `f`. -/
def faces (space : IndexSpace) (axis : Axis) : IndexSpace :=
  space.growUpper 1 axis

theorem ofBounds?_self (space : IndexSpace) : ofBounds? space.lower space.upper = .ok space :=
  dif_pos space.nonempty

theorem extend?_ofNat (space : IndexSpace) (depth : Nat) (axis : Axis) :
    space.extend? depth axis = .ok (space.grow depth axis) :=
  ofBounds?_self (space.grow depth axis)

theorem extendUpper?_ofNat (space : IndexSpace) (count : Nat) (axis : Axis) :
    space.extendUpper? count axis = .ok (space.growUpper count axis) :=
  ofBounds?_self (space.growUpper count axis)

theorem extent_pos (space : IndexSpace) (axis : Axis) : 0 < space.extent axis := by
  have inside := space.nonempty axis
  simp only [extent]
  omega

theorem volume_pos (space : IndexSpace) : 0 < space.volume :=
  Nat.mul_pos (Nat.mul_pos (space.extent_pos .i) (space.extent_pos .j)) (space.extent_pos .k)

/-- Digits below their bases number a place below the product of the bases. -/
theorem place_lt {first second third firstSize secondSize thirdSize : Nat}
    (firstSmall : first < firstSize) (secondSmall : second < secondSize)
    (thirdSmall : third < thirdSize) :
    (third * secondSize + second) * firstSize + first < firstSize * secondSize * thirdSize := by
  have row : third * secondSize + second + 1 ≤ thirdSize * secondSize :=
    calc third * secondSize + second + 1 ≤ third * secondSize + secondSize := by omega
      _ = (third + 1) * secondSize := by rw [Nat.add_mul, Nat.one_mul]
      _ ≤ thirdSize * secondSize := Nat.mul_le_mul_right _ thirdSmall
  calc (third * secondSize + second) * firstSize + first
      < (third * secondSize + second) * firstSize + firstSize := by omega
    _ = (third * secondSize + second + 1) * firstSize := by rw [Nat.add_mul _ 1, Nat.one_mul]
    _ ≤ thirdSize * secondSize * firstSize := Nat.mul_le_mul_right _ row
    _ = firstSize * secondSize * thirdSize := by
      rw [Nat.mul_comm thirdSize, Nat.mul_right_comm, Nat.mul_comm secondSize]

/-- Inside the box the offset is built from the distances along the axes. -/
theorem offset_of_mem {space : IndexSpace} {index : Index} (inside : index ∈ space) :
    space.offset index =
      (((index.k - space.lower.k).toNat * space.extent .j + (index.j - space.lower.j).toNat)
        * space.extent .i + (index.i - space.lower.i).toNat : Nat) := by
  have onI : space.lower.i ≤ index.i ∧ _ := inside .i
  have onJ : space.lower.j ≤ index.j ∧ _ := inside .j
  have onK : space.lower.k ≤ index.k ∧ _ := inside .k
  simp only [offset, Int.natCast_add, Int.natCast_mul]
  rw [Int.toNat_of_nonneg (by omega), Int.toNat_of_nonneg (by omega),
    Int.toNat_of_nonneg (by omega)]

theorem position_lt_volume {space : IndexSpace} {index : Index} (inside : index ∈ space) :
    space.position index < space.volume := by
  have onI : space.lower.i ≤ index.i ∧ index.i < space.upper.i := inside .i
  have onJ : space.lower.j ≤ index.j ∧ index.j < space.upper.j := inside .j
  have onK : space.lower.k ≤ index.k ∧ index.k < space.upper.k := inside .k
  rw [position, offset_of_mem inside, Int.toNat_natCast]
  refine place_lt ?_ ?_ ?_ <;> simp only [extent, PerAxis.get] <;> omega

end IndexSpace

end BlockHydro
