import BlockHydro.Space.Patch
import BlockHydro.Proofs.Space.TraversalOrder

/-!
# Boxes counted in words

The length of a box, the offset of an index and the index at an offset are counted in
machine words.  Words can count a box (`IndexSpace.FitsWords`) if they hold its number
of indexes and, in a build that stops on overflow, the distance of its corners as well.
These are the boxes whose length is the number of their indexes
(`IndexSpace.volume?_eq_iff`), and there the counts in words are those without bound.
The box of a patch with values is one of them (`IndexSpace.FitsWords.of_room`).

A larger box is accepted too.  Its traversal is what it should be, and a build that stops
on overflow still gives no wrong answer (`IndexSpace.Checked`), but an index need not be
found at its own offset (`IndexSpace.vastBox_not_numbered`).
-/

namespace BlockHydro

namespace IndexSpace

variable {space : IndexSpace} {overflow : Overflow}

/-- Words can count the indexes of the box. -/
structure FitsWords (overflow : Overflow) (space : IndexSpace) : Prop where
  /-- A build that stops on overflow subtracts the corners as signed words, -/
  extent_lt : overflow = .stop → ∀ axis, space.extent axis < signedSize
  /-- and every build multiplies the extents as unsigned ones. -/
  volume_lt : space.volume < wordSize

/-- The corners of the box are signed words. -/
def InWords (space : IndexSpace) : Prop :=
  ∀ axis, -signedSize ≤ space.lower.get axis ∧ space.upper.get axis < signedSize

theorem extent_mul_le_volume (space : IndexSpace) :
    space.extent .i * space.extent .j ≤ space.volume :=
  Nat.le_mul_of_pos_right _ (space.extent_pos .k)

/-- No axis holds more indexes than the box. -/
theorem extent_le_volume (space : IndexSpace) (axis : Axis) : space.extent axis ≤ space.volume := by
  cases axis with
  | i => exact (Nat.le_mul_of_pos_right _ (space.extent_pos .j)).trans space.extent_mul_le_volume
  | j => exact (Nat.le_mul_of_pos_left _ (space.extent_pos .i)).trans space.extent_mul_le_volume
  | k =>
    exact Nat.le_mul_of_pos_left _ (Nat.mul_pos (space.extent_pos .i) (space.extent_pos .j))

/-- The distance of the corners is the extent. -/
theorem upper_sub_lower (space : IndexSpace) (axis : Axis) :
    space.upper.get axis - space.lower.get axis = space.extent axis :=
  (Int.toNat_of_nonneg (Int.sub_nonneg_of_le (space.nonempty axis).le)).symm

namespace FitsWords

/-- Up to the extent of an axis there are only words at which no build stops. -/
theorem upto_extent (fits : space.FitsWords overflow) {axis : Axis} {steps : Nat}
    (small : steps ≤ space.extent axis) :
    steps < wordSize ∧ (overflow = .stop → steps < signedSize) :=
  ⟨(small.trans (space.extent_le_volume axis)).trans_lt fits.volume_lt,
    fun stops => small.trans_lt (fits.extent_lt stops axis)⟩

theorem extent?_eq (fits : space.FitsWords overflow) (axis : Axis) :
    space.extent? overflow axis = .ok (space.extent axis) :=
  have ⟨word, looks⟩ := fits.upto_extent le_rfl
  Overflow.distance_eq (space.upper_sub_lower axis) word looks

theorem slab_lt (fits : space.FitsWords overflow) :
    space.extent .i * space.extent .j < wordSize :=
  space.extent_mul_le_volume.trans_lt fits.volume_lt

theorem volume?_eq (fits : space.FitsWords overflow) :
    space.volume? overflow = .ok space.volume := by
  simp only [volume?, fits.extent?_eq, Overflow.unsigned_eq fits.slab_lt, bind, Except.bind]
  exact Overflow.unsigned_eq fits.volume_lt

/-- The distance of an index of the box from the lower corner, along one axis. -/
theorem distance_eq (fits : space.FitsWords overflow) {index : Index} (inside : index ∈ space)
    (axis : Axis) :
    overflow.distance (space.lower.get axis) (index.get axis) =
      .ok (index.get axis - space.lower.get axis).toNat := by
  have between := inside axis
  have small : (index.get axis - space.lower.get axis).toNat ≤ space.extent axis :=
    Int.toNat_le_toNat (by omega)
  have ⟨word, looks⟩ := fits.upto_extent small
  exact Overflow.distance_eq (Int.toNat_of_nonneg (by omega)).symm word looks

/-- The offset of an index of the box is its place in memory. -/
theorem offset?_eq (fits : space.FitsWords overflow) {index : Index} (inside : index ∈ space) :
    space.offset? overflow index = .ok (space.position index) := by
  have onI : overflow.distance space.lower.i index.i = _ := fits.distance_eq inside .i
  have onJ : overflow.distance space.lower.j index.j = _ := fits.distance_eq inside .j
  have onK : overflow.distance space.lower.k index.k = _ := fits.distance_eq inside .k
  have word := (position_lt_volume inside).trans fits.volume_lt
  rw [position, offset_of_mem inside, Int.toNat_natCast] at word ⊢
  simp only [offset?, fits.extent?_eq, onI, onJ, onK, bind, Except.bind, PerAxis.get]
  generalize (index.i - space.lower.i).toNat = i, (index.j - space.lower.j).toNat = j,
    (index.k - space.lower.k).toNat = k at word ⊢
  -- No result on the way to the offset is larger than the offset.
  have start : (k * space.extent .j + j) * space.extent .i < wordSize := by omega
  have rows : k * space.extent .j + j < wordSize :=
    (Nat.le_mul_of_pos_right _ (space.extent_pos .i)).trans_lt start
  have slabs : k * space.extent .j < wordSize := by omega
  simp only [Overflow.unsigned_eq slabs, Overflow.unsigned_eq rows, Overflow.unsigned_eq start,
    Overflow.unsigned_eq word]

/-- From the lower corner a build gets to every index of the box, along one axis. -/
theorem advance_eq (fits : space.FitsWords overflow) (words : space.InWords) {axis : Axis}
    {steps : Nat} (small : steps < space.extent axis) :
    overflow.advance (space.lower.get axis) steps = .ok (space.lower.get axis + steps) := by
  have corner := space.lower_add_extent axis
  have ⟨low, high⟩ := words axis
  exact Overflow.advance_eq (by omega) (by omega) (fits.upto_extent small.le).2

/-- At the places of the box are the indexes that unbounded counting finds there. -/
theorem indexAt?_eq (fits : space.FitsWords overflow) (words : space.InWords) {place : Nat}
    (small : place < space.volume) :
    space.indexAt? overflow place = .ok (space.indexAt place) := by
  have slab_pos : 0 < space.extent .i * space.extent .j :=
    Nat.mul_pos (space.extent_pos .i) (space.extent_pos .j)
  have onI : overflow.advance space.lower.i (place % space.extent .i) = _ :=
    fits.advance_eq words (Nat.mod_lt _ (space.extent_pos .i))
  have onJ : overflow.advance space.lower.j (place / space.extent .i % space.extent .j) = _ :=
    fits.advance_eq words (Nat.mod_lt _ (space.extent_pos .j))
  have onK : overflow.advance space.lower.k (place / (space.extent .i * space.extent .j)) = _ :=
    fits.advance_eq words (Nat.div_lt_of_lt_mul small)
  simp only [indexAt?, fits.extent?_eq, Overflow.unsigned_eq fits.slab_lt, bind, Except.bind,
    if_neg slab_pos.ne', onI, onJ, onK]
  rfl

end FitsWords

section Stopping

/-- A build that stops on overflow finds the extent of an axis or none. -/
theorem eq_of_extent?_stop {axis : Axis} {size : Nat}
    (counted : space.extent? .stop axis = .ok size) :
    size = space.extent axis ∧ size < signedSize :=
  Overflow.eq_of_distance_stop counted (space.nonempty axis).le

theorem eq_of_volume?_stop {count : Nat} (counted : space.volume? .stop = .ok count) :
    count = space.volume := by
  obtain ⟨sizeI, onI, counted⟩ := exists_of_bind_eq_ok counted
  obtain ⟨sizeJ, onJ, counted⟩ := exists_of_bind_eq_ok counted
  obtain ⟨sizeK, onK, counted⟩ := exists_of_bind_eq_ok counted
  obtain ⟨slab, product, counted⟩ := exists_of_bind_eq_ok counted
  rw [Overflow.eq_of_unsigned_stop counted, Overflow.eq_of_unsigned_stop product,
    (eq_of_extent?_stop onI).1, (eq_of_extent?_stop onJ).1, (eq_of_extent?_stop onK).1, volume]

theorem eq_of_offset?_stop {index : Index} (inside : index ∈ space) {place : Nat}
    (found : space.offset? .stop index = .ok place) : place = space.position index := by
  obtain ⟨sizeI, onI, found⟩ := exists_of_bind_eq_ok found
  obtain ⟨sizeJ, onJ, found⟩ := exists_of_bind_eq_ok found
  obtain ⟨_, _, found⟩ := exists_of_bind_eq_ok found
  obtain ⟨i, alongI, found⟩ := exists_of_bind_eq_ok found
  obtain ⟨j, alongJ, found⟩ := exists_of_bind_eq_ok found
  obtain ⟨k, alongK, found⟩ := exists_of_bind_eq_ok found
  obtain ⟨slabs, product, found⟩ := exists_of_bind_eq_ok found
  obtain ⟨rows, sum, found⟩ := exists_of_bind_eq_ok found
  obtain ⟨start, total, found⟩ := exists_of_bind_eq_ok found
  obtain ⟨⟨fromI, -⟩, ⟨fromJ, -⟩, fromK, -⟩ := mem_iff_components.mp inside
  rw [Overflow.eq_of_unsigned_stop found, Overflow.eq_of_unsigned_stop total,
    Overflow.eq_of_unsigned_stop sum, Overflow.eq_of_unsigned_stop product,
    (eq_of_extent?_stop onI).1, (eq_of_extent?_stop onJ).1,
    (Overflow.eq_of_distance_stop alongI fromI).1, (Overflow.eq_of_distance_stop alongJ fromJ).1,
    (Overflow.eq_of_distance_stop alongK fromK).1, position, offset_of_mem inside,
    Int.toNat_natCast]

theorem eq_of_indexAt?_stop {place : Nat} (small : place < space.volume) {index : Index}
    (found : space.indexAt? .stop place = .ok index) : index = space.indexAt place := by
  obtain ⟨sizeI, onI, found⟩ := exists_of_bind_eq_ok found
  obtain ⟨sizeJ, onJ, found⟩ := exists_of_bind_eq_ok found
  obtain ⟨sizeK, onK, found⟩ := exists_of_bind_eq_ok found
  obtain ⟨slab, product, found⟩ := exists_of_bind_eq_ok found
  obtain ⟨rfl, smallI⟩ := eq_of_extent?_stop onI
  obtain ⟨rfl, smallJ⟩ := eq_of_extent?_stop onJ
  obtain ⟨rfl, smallK⟩ := eq_of_extent?_stop onK
  obtain rfl := Overflow.eq_of_unsigned_stop product
  split at found
  next => cases found
  next =>
    obtain ⟨i, alongI, found⟩ := exists_of_bind_eq_ok found
    obtain ⟨j, alongJ, found⟩ := exists_of_bind_eq_ok found
    obtain ⟨k, alongK, found⟩ := exists_of_bind_eq_ok found
    rw [← Except.ok.inj found,
      Overflow.eq_of_advance_stop alongI ((Nat.mod_lt _ (space.extent_pos .i)).trans smallI),
      Overflow.eq_of_advance_stop alongJ ((Nat.mod_lt _ (space.extent_pos .j)).trans smallJ),
      Overflow.eq_of_advance_stop alongK ((Nat.div_lt_of_lt_mul small).trans smallK)]
    rfl

end Stopping

/-- The length in words is the number of indexes exactly if words can count them. -/
theorem volume?_eq_iff : space.volume? overflow = .ok space.volume ↔ space.FitsWords overflow := by
  refine ⟨fun counted => ?_, FitsWords.volume?_eq⟩
  obtain ⟨sizeI, onI, counted⟩ := exists_of_bind_eq_ok counted
  obtain ⟨sizeJ, onJ, counted⟩ := exists_of_bind_eq_ok counted
  obtain ⟨sizeK, onK, counted⟩ := exists_of_bind_eq_ok counted
  obtain ⟨slab, _, counted⟩ := exists_of_bind_eq_ok counted
  constructor
  case volume_lt => exact Overflow.lt_of_unsigned counted
  case extent_lt =>
    rintro rfl
    obtain ⟨rfl, smallI⟩ := eq_of_extent?_stop onI
    obtain ⟨rfl, smallJ⟩ := eq_of_extent?_stop onJ
    obtain ⟨rfl, smallK⟩ := eq_of_extent?_stop onK
    exact Axis.forall_iff.mpr ⟨smallI, smallJ, smallK⟩

/-- A patch with values covers a box that words can count. -/
theorem FitsWords.of_room {grid : Grid} {numFields : Nat} (someBlock : 0 < grid.numBlocks)
    (someField : 0 < numFields) (room : Patch.requireRoom grid numFields = .ok ()) :
    grid.space.FitsWords overflow := by
  have bytes := requireAddressable_iff.mp room
  have values : grid.space.volume ≤ grid.size * numFields :=
    (Nat.le_mul_of_pos_left _ someBlock).trans (Nat.le_mul_of_pos_right _ someField)
  have small : grid.space.volume < signedSize := by
    have signed : addressableBytes < signedSize := by decide
    rw [numberBytes] at bytes
    omega
  exact ⟨fun _ axis => (grid.space.extent_le_volume axis).trans_lt small,
    small.trans (by decide)⟩

/-- The traversal of a box, whatever its size. -/
structure Traversed (space : IndexSpace) : Prop where
  /-- The traversal yields exactly the indexes of the box, -/
  mem_iff : ∀ index, index ∈ space.indexes ↔ index ∈ space
  /-- each of them once, -/
  nodup : space.indexes.Nodup
  /-- in the order of indexes, the last axis first. -/
  pairwise_before : space.indexes.Pairwise Index.Before
  /-- Between the other indexes those of a smaller box come in their own order. -/
  filter_eq : ∀ inner : IndexSpace, (∀ index ∈ inner, index ∈ space) →
    space.indexes.filter (· ∈ inner) = inner.indexes

/-- A box whose traversal, offsets and places, counted in words, say the same. -/
structure Numbered (overflow : Overflow) (space : IndexSpace) : Prop where
  /-- The length is the number of items. -/
  length_eq : space.volume? overflow = .ok space.indexes.length
  /-- Every item is the index at its place, and its offset is that place. -/
  item_eq : ∀ place < space.indexes.length, ∃ index, space.indexes[place]? = some index ∧
    space.indexAt? overflow place = .ok index ∧ space.offset? overflow index = .ok place
  /-- The offset of an index of the box is a place, and that place holds the index. -/
  indexAt_offset : ∀ index ∈ space, ∃ place < space.indexes.length,
    space.offset? overflow index = .ok place ∧ space.indexAt? overflow place = .ok index
  /-- Offsets increase strictly in the order of indexes. -/
  offset_lt_iff : ∀ first ∈ space, ∀ second ∈ space, ∃ here there,
    space.offset? overflow first = .ok here ∧ space.offset? overflow second = .ok there ∧
      (here < there ↔ Index.Before first second)

/-- A build that stops on overflow, whatever the size of the box, gives no wrong answer. -/
structure Checked (space : IndexSpace) : Prop where
  length_eq : ∀ count, space.volume? .stop = .ok count → count = space.indexes.length
  offset_eq : ∀ index ∈ space, ∀ place, space.offset? .stop index = .ok place →
    space.indexes[place]? = some index
  indexAt_eq : ∀ place < space.indexes.length, ∀ index, space.indexAt? .stop place = .ok index →
    space.indexes[place]? = some index

theorem traversed (space : IndexSpace) : space.Traversed where
  mem_iff _ := mem_indexes
  nodup := nodup_indexes space
  pairwise_before := pairwise_indexes space
  filter_eq _ contained := filter_indexes contained

theorem checked (space : IndexSpace) : space.Checked where
  length_eq count counted := by rw [length_indexes, eq_of_volume?_stop counted]
  offset_eq index inside place found := by
    rw [eq_of_offset?_stop inside found, getElem?_indexes (position_lt_volume inside),
      indexAt_position inside]
  indexAt_eq place small index found := by
    rw [length_indexes] at small
    rw [getElem?_indexes small, eq_of_indexAt?_stop small found]

/-- A box that words can count is numbered. -/
theorem FitsWords.numbered (fits : space.FitsWords overflow) (words : space.InWords) :
    space.Numbered overflow := by
  constructor
  case length_eq =>
    rw [length_indexes]
    exact fits.volume?_eq
  case item_eq =>
    intro place small
    rw [length_indexes] at small
    refine ⟨space.indexAt place, getElem?_indexes small, fits.indexAt?_eq words small, ?_⟩
    rw [fits.offset?_eq (indexAt_mem small), position_indexAt small]
  case indexAt_offset =>
    intro index inside
    have small := position_lt_volume inside
    rw [length_indexes]
    refine ⟨space.position index, small, fits.offset?_eq inside, ?_⟩
    rw [fits.indexAt?_eq words small, indexAt_position inside]
  case offset_lt_iff =>
    intro first firstInside second secondInside
    exact ⟨space.position first, space.position second, fits.offset?_eq firstInside,
      fits.offset?_eq secondInside, position_lt_iff firstInside secondInside⟩

/-- Whatever words are the corners of a box, its traversal meets its indexes in their order, and a
build that stops on overflow gives no wrong answer.  The length is the number of indexes exactly if
words can count them, and then every index has its own offset and is found there. -/
theorem numbered_of_bounds (overflow : Overflow) {lower upper : PerAxis Int64}
    (built : ofBounds? (lower.map Int64.toInt) (upper.map Int64.toInt) = .ok space) :
    space.lower = lower.map Int64.toInt ∧ space.upper = upper.map Int64.toInt ∧
      space.Traversed ∧ space.Checked ∧
      (space.volume? overflow = .ok space.indexes.length ↔ space.FitsWords overflow) ∧
      (space.FitsWords overflow → space.Numbered overflow) := by
  obtain ⟨atLower, atUpper⟩ := ofBounds?_eq_ok.mp built
  have words : space.InWords := by
    intro axis
    rw [atLower, atUpper, PerAxis.get_map, PerAxis.get_map]
    exact ⟨(lower.get axis).le_toInt, (upper.get axis).toInt_lt⟩
  refine ⟨atLower, atUpper, space.traversed, space.checked, ?_, fun fits => fits.numbered words⟩
  rw [length_indexes]
  exact volume?_eq_iff

/-- A box of eight by four by two indexes that starts below zero. -/
def sunkenBox : IndexSpace := ⟨⟨-2, 3, -1⟩, ⟨6, 7, 1⟩, by decide⟩

/-- The corners of `sunkenBox` make it, words can count it, and so it is numbered. -/
theorem numbered_of_bounds_sunkenBox :
    ofBounds? (PerAxis.map Int64.toInt ⟨-2, 3, -1⟩) (PerAxis.map Int64.toInt ⟨6, 7, 1⟩) =
      .ok sunkenBox ∧ sunkenBox.FitsWords .stop ∧ sunkenBox.Numbered .stop :=
  have built : ofBounds? (PerAxis.map Int64.toInt ⟨-2, 3, -1⟩)
      (PerAxis.map Int64.toInt ⟨6, 7, 1⟩) = .ok sunkenBox := by decide
  have fits : sunkenBox.FitsWords .stop := ⟨fun _ => by decide, by decide⟩
  ⟨built, fits, (numbered_of_bounds .stop built).2.2.2.2.2 fits⟩

/-- A box with twice as many indexes as a word has values. -/
def vastBox : IndexSpace := ⟨⟨0, 0, 0⟩, ⟨4294967296, 4294967296, 2⟩, by decide⟩

/-- The corners of `vastBox` are accepted, and in no build is it numbered.  Its lower corner has
the offset zero and is not found there, the index above that one has no offset of its own, and
its length is not the number of its indexes. -/
theorem vastBox_not_numbered :
    ofBounds? (PerAxis.map Int64.toInt ⟨0, 0, 0⟩)
        (PerAxis.map Int64.toInt ⟨4294967296, 4294967296, 2⟩) = .ok vastBox ∧
      (∀ overflow, ¬ vastBox.Numbered overflow) ∧
      vastBox.offset? .stop ⟨0, 0, 0⟩ = .ok 0 ∧ vastBox.offset? .wrap ⟨0, 0, 0⟩ = .ok 0 ∧
      vastBox.indexAt? .stop 0 = .error .overflow ∧
      vastBox.indexAt? .wrap 0 = .error .divisionByZero ∧
      vastBox.offset? .stop ⟨0, 0, 1⟩ = .error .overflow ∧
      vastBox.offset? .wrap ⟨0, 0, 1⟩ = .ok 0 ∧
      vastBox.volume? .stop = .error .overflow ∧ vastBox.volume? .wrap = .ok 0 := by
  refine ⟨by decide, ?_, rfl, rfl, rfl, rfl, rfl, rfl, rfl, rfl⟩
  intro overflow numbered
  have atZero : vastBox.offset? overflow ⟨0, 0, 0⟩ = .ok 0 := by cases overflow <;> rfl
  obtain ⟨place, _, atPlace, found⟩ := numbered.indexAt_offset ⟨0, 0, 0⟩ (by decide)
  obtain rfl : 0 = place := Except.ok.inj (atZero.symm.trans atPlace)
  cases overflow with
  | stop =>
    have lost : vastBox.indexAt? .stop 0 = .error .overflow := rfl
    cases lost.symm.trans found
  | wrap =>
    have lost : vastBox.indexAt? .wrap 0 = .error .divisionByZero := rfl
    cases lost.symm.trans found

end IndexSpace

end BlockHydro
