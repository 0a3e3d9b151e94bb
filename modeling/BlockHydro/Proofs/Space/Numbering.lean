import Mathlib.Data.List.Sort
import BlockHydro.Space.Grid

/-!
# Numbering of indexes and zones

`position` and `indexAt` are inverse on a box, and `zoneAt` and `position` on a
grid, so that a place in memory and a zone are the same thing.  `indexes` and
`zones` list a box and a grid in the order of those numbers.

`Index.Before` is the order of traversal.  It does not mention a box, so the
traversal of a box meets the indexes of a smaller one in their own order:
`filter_indexes` and `filter_zones` say that leaving out the others gives the
traversal of the smaller box.
-/

namespace BlockHydro

/-- The consecutive integers from `lower` on are those below `lower + count`. -/
theorem mem_consecutive {lower value : Int} {count : Nat} :
    value ∈ consecutive lower count ↔ lower ≤ value ∧ value < lower + count := by
  simp only [consecutive, List.mem_map, List.mem_range]
  constructor
  · rintro ⟨step, small, rfl⟩
    omega
  · intro inside
    exact ⟨(value - lower).toNat, by omega, by omega⟩

/-- Consecutive integers increase. -/
theorem pairwise_consecutive (lower : Int) (count : Nat) :
    (consecutive lower count).Pairwise (· < ·) := by
  rw [consecutive, List.pairwise_map]
  exact List.pairwise_lt_range.imp fun less => by omega

/-- Counting to a product goes through the multiples of one factor in turn. -/
theorem range_mul (size count : Nat) :
    List.range (size * count) =
      (List.range count).flatMap fun row => (List.range size).map fun step => size * row + step := by
  induction count with
  | zero => rfl
  | succ count ih =>
    rw [Nat.mul_succ, List.range_add, ih, List.range_succ, List.flatMap_append]
    simp

/-- The order of traversal: the last axis decides first. -/
def Index.Before (first second : Index) : Prop :=
  first.k < second.k ∨ first.k = second.k ∧
    (first.j < second.j ∨ first.j = second.j ∧ first.i < second.i)

theorem Index.Before.irrefl (index : Index) : ¬ Index.Before index index := by
  unfold Before
  omega

instance : Std.Irrefl Index.Before := ⟨Index.Before.irrefl⟩

instance : Std.Antisymm Index.Before where
  antisymm first second forth back := by
    unfold Index.Before at forth back
    omega

namespace IndexSpace

variable {space : IndexSpace}

/-- Membership, written out axis by axis. -/
theorem mem_iff_components {index : Index} :
    index ∈ space ↔ (space.lower.i ≤ index.i ∧ index.i < space.upper.i) ∧
      (space.lower.j ≤ index.j ∧ index.j < space.upper.j) ∧
      (space.lower.k ≤ index.k ∧ index.k < space.upper.k) :=
  mem_iff.trans Axis.forall_iff

/-- The upper corner lies as far from the lower one as the extent says. -/
theorem lower_add_extent (axis : Axis) :
    space.lower.get axis + space.extent axis = space.upper.get axis := by
  have inside := space.nonempty axis
  simp only [extent]
  omega

/-- The traversal visits exactly the indexes of the box. -/
theorem mem_indexes {index : Index} : index ∈ space.indexes ↔ index ∈ space := by
  have onI : space.lower.i + space.extent .i = space.upper.i := lower_add_extent .i
  have onJ : space.lower.j + space.extent .j = space.upper.j := lower_add_extent .j
  have onK : space.lower.k + space.extent .k = space.upper.k := lower_add_extent .k
  simp only [indexes, List.mem_flatMap, List.mem_map, mem_consecutive, mem_iff_components]
  constructor
  · rintro ⟨k, insideK, j, insideJ, i, insideI, rfl⟩
    dsimp only
    omega
  · intro inside
    exact ⟨index.k, by omega, index.j, by omega, index.i, by omega, rfl⟩

/-- The traversal goes forward in the order of indexes. -/
theorem pairwise_indexes (space : IndexSpace) : space.indexes.Pairwise Index.Before := by
  unfold indexes
  rw [List.pairwise_flatMap]
  constructor
  · intro k _
    rw [List.pairwise_flatMap]
    constructor
    · intro j _
      rw [List.pairwise_map]
      exact (pairwise_consecutive _ _).imp fun less => .inr ⟨rfl, .inr ⟨rfl, less⟩⟩
    · refine (pairwise_consecutive _ _).imp fun less => ?_
      simp only [List.mem_map]
      rintro _ ⟨_, _, rfl⟩ _ ⟨_, _, rfl⟩
      exact .inr ⟨rfl, .inl less⟩
  · refine (pairwise_consecutive _ _).imp fun less => ?_
    simp only [List.mem_flatMap, List.mem_map]
    rintro _ ⟨_, _, _, _, rfl⟩ _ ⟨_, _, _, _, rfl⟩
    exact .inl less

/-- The traversal meets no index twice. -/
theorem nodup_indexes (space : IndexSpace) : space.indexes.Nodup :=
  (pairwise_indexes space).nodup

/-- Leaving out the indexes outside a smaller box gives the traversal of that box. -/
theorem filter_indexes {inner outer : IndexSpace}
    (contained : ∀ index, index ∈ inner → index ∈ outer) :
    outer.indexes.filter (· ∈ inner) = inner.indexes := by
  apply ((pairwise_indexes outer).filter _).eq_of_mem_iff (pairwise_indexes inner)
  intro index
  simp only [List.mem_filter, mem_indexes, decide_eq_true_eq]
  exact ⟨And.right, fun inside => ⟨contained index inside, inside⟩⟩

/-- The index at a place that is given by its distances along the axes. -/
theorem indexAt_place {i j : Nat} (insideI : i < space.extent .i) (insideJ : j < space.extent .j)
    (k : Nat) : space.indexAt ((k * space.extent .j + j) * space.extent .i + i) =
      ⟨space.lower.i + i, space.lower.j + j, space.lower.k + k⟩ := by
  have row : ((k * space.extent .j + j) * space.extent .i + i) / space.extent .i =
      k * space.extent .j + j := by
    rw [Nat.mul_comm, Nat.mul_add_div (space.extent_pos .i), Nat.div_eq_of_lt insideI, Nat.add_zero]
  have first : ((k * space.extent .j + j) * space.extent .i + i) % space.extent .i = i := by
    rw [Nat.mul_add_mod', Nat.mod_eq_of_lt insideI]
  have second : (k * space.extent .j + j) % space.extent .j = j := by
    rw [Nat.mul_add_mod', Nat.mod_eq_of_lt insideJ]
  have third : (k * space.extent .j + j) / space.extent .j = k := by
    rw [Nat.mul_comm, Nat.mul_add_div (space.extent_pos .j), Nat.div_eq_of_lt insideJ, Nat.add_zero]
  rw [indexAt, ← Nat.div_div_eq_div_mul, row, first, second, third]

/-- The traversal numbers the places of the box in order. -/
theorem indexes_eq_map_indexAt (space : IndexSpace) :
    space.indexes = (List.range space.volume).map space.indexAt := by
  rw [volume, range_mul, List.map_flatMap]
  unfold indexes consecutive
  simp only [List.flatMap_map, List.map_map, range_mul (space.extent .i) (space.extent .j),
    List.map_flatMap]
  refine List.flatMap_congr fun k _ => List.flatMap_congr fun j insideJ =>
    List.map_congr_left fun i insideI => ?_
  rw [List.mem_range] at insideI insideJ
  have place : space.extent .i * space.extent .j * k + (space.extent .i * j + i) =
      (k * space.extent .j + j) * space.extent .i + i := by
    rw [← Nat.add_assoc, Nat.mul_assoc, ← Nat.mul_add, Nat.mul_comm (space.extent .i),
      Nat.mul_comm k]
  simp only [Function.comp_apply, place, indexAt_place insideI insideJ]

/-- A place in memory holds an index of the box. -/
theorem indexAt_mem {position : Nat} (small : position < space.volume) :
    space.indexAt position ∈ space := by
  rw [← mem_indexes, indexes_eq_map_indexAt]
  exact List.mem_map_of_mem (List.mem_range.mpr small)

/-- The index at the place of an index is that index. -/
theorem indexAt_position {index : Index} (inside : index ∈ space) :
    space.indexAt (space.position index) = index := by
  have lengthI : space.lower.i + space.extent .i = space.upper.i := lower_add_extent .i
  have lengthJ : space.lower.j + space.extent .j = space.upper.j := lower_add_extent .j
  have components := mem_iff_components.mp inside
  rw [position, offset_of_mem inside, Int.toNat_natCast,
    indexAt_place (by omega) (by omega)]
  ext axis
  cases axis <;> simp only [PerAxis.get] <;> omega

/-- Different places hold different indexes. -/
theorem indexAt_injOn {first second : Nat} (firstSmall : first < space.volume)
    (secondSmall : second < space.volume)
    (same : space.indexAt first = space.indexAt second) : first = second := by
  have distinct : ((List.range space.volume).map space.indexAt).Nodup := by
    rw [← indexes_eq_map_indexAt]
    exact nodup_indexes space
  exact List.inj_on_of_nodup_map distinct (List.mem_range.mpr firstSmall)
    (List.mem_range.mpr secondSmall) same

/-- The place of the index at a place is that place. -/
theorem position_indexAt {position : Nat} (small : position < space.volume) :
    space.position (space.indexAt position) = position :=
  indexAt_injOn (position_lt_volume (indexAt_mem small)) small (indexAt_position (indexAt_mem small))

end IndexSpace

namespace Grid

variable {grid : Grid}

/-- The traversal visits exactly the zones of the grid. -/
theorem mem_zones {zone : Zone} : zone ∈ grid.zones ↔ zone ∈ grid := by
  simp only [zones, List.mem_flatMap, List.mem_range, List.mem_map, IndexSpace.mem_indexes, mem_iff]
  constructor
  · rintro ⟨block, exists_, index, inside, rfl⟩
    exact ⟨exists_, inside⟩
  · rintro ⟨exists_, inside⟩
    exact ⟨zone.block, exists_, zone.index, inside, rfl⟩

/-- The traversal numbers the places of the grid in order. -/
theorem zones_eq_map_zoneAt (grid : Grid) :
    grid.zones = (List.range grid.size).map grid.zoneAt := by
  have someVolume := grid.space.volume_pos
  rw [size, Nat.mul_comm, range_mul, List.map_flatMap]
  unfold zones
  apply List.flatMap_congr
  intro block _
  rw [IndexSpace.indexes_eq_map_indexAt, List.map_map, List.map_map]
  apply List.map_congr_left
  intro step small
  rw [List.mem_range] at small
  simp only [Function.comp_apply, zoneAt]
  rw [Nat.mul_add_div someVolume, Nat.mul_add_mod, Nat.div_eq_of_lt small,
    Nat.mod_eq_of_lt small, Nat.add_zero]

/-- The traversal follows the order of memory. -/
theorem zones_eq_map_memoryOrder (grid : Grid) :
    grid.zones = grid.memoryOrder.map fun position : Fin grid.size => grid.zoneAt position := by
  rw [zones_eq_map_zoneAt, memoryOrder, ← List.map_coe_finRange_eq_range, List.map_map]
  rfl

/-- A place in memory holds a zone of the grid. -/
theorem zoneAt_mem {position : Nat} (small : position < grid.size) :
    grid.zoneAt position ∈ grid := by
  rw [← mem_zones, zones_eq_map_zoneAt]
  exact List.mem_map_of_mem (List.mem_range.mpr small)

/-- The zone at the place of a zone is that zone. -/
theorem zoneAt_position {zone : Zone} (inside : zone ∈ grid) :
    grid.zoneAt (grid.position zone) = zone := by
  have small := IndexSpace.position_lt_volume inside.2
  have someVolume := grid.space.volume_pos
  rw [zoneAt, position, Nat.mul_comm, Nat.mul_add_div someVolume, Nat.mul_add_mod,
    Nat.div_eq_of_lt small, Nat.mod_eq_of_lt small, Nat.add_zero,
    IndexSpace.indexAt_position inside.2]

/-- The place of the zone at a place is that place. -/
theorem position_zoneAt (grid : Grid) (position : Nat) :
    grid.position (grid.zoneAt position) = position := by
  have small : position % grid.space.volume < grid.space.volume :=
    Nat.mod_lt _ grid.space.volume_pos
  rw [Grid.position, zoneAt, IndexSpace.position_indexAt small, Nat.mul_comm, Nat.div_add_mod]

/-- Leaving out the zones outside a smaller box gives the traversal of that box. -/
theorem filter_zones {numBlocks : Nat} {inner outer : IndexSpace}
    (contained : ∀ index, index ∈ inner → index ∈ outer) :
    (Grid.mk numBlocks outer).zones.filter (·.index ∈ inner) = (Grid.mk numBlocks inner).zones := by
  unfold zones
  rw [List.filter_flatMap]
  apply List.flatMap_congr
  intro block _
  rw [List.filter_map, ← IndexSpace.filter_indexes contained]
  rfl

end Grid

end BlockHydro
