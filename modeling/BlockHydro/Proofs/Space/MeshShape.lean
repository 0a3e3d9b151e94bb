import BlockHydro.Proofs.Space.Numbering
import BlockHydro.Space.Mesh

/-!
# Cells, guard zones and faces of a block

Membership in the interior, in the extended box and in the faces of a block is
a range for each axis.  From the ranges follows what the passes rely on: the two
cells of a face lie in the extended box, and the two faces of a cell lie among
the faces.

The last face of a block and the first face of its successor lie between the
same two cells of the row: `chained_lastFace` and `chained_beforeFirstFace`.
-/

namespace BlockHydro

namespace PerAxis

variable {α : Type}

@[simp] theorem get_set_self (values : PerAxis α) (axis : Axis) (value : α) :
    (values.set axis value).get axis = value :=
  get_modify_self values axis _

theorem get_set_of_ne (values : PerAxis α) {axis other : Axis} (value : α)
    (different : other ≠ axis) : (values.set axis value).get other = values.get other :=
  get_modify_of_ne values _ different

end PerAxis

namespace IndexSpace

theorem get_lower_grow (space : IndexSpace) (depth : Nat) (axis other : Axis) :
    (space.grow depth axis).lower.get other =
      space.lower.get other - if other = axis then depth else 0 := by
  by_cases same : other = axis
  · subst same
    simp only [grow, get_shift_self, if_pos]
    omega
  · simp only [grow, get_shift_of_ne _ _ same, if_neg same]
    omega

theorem get_upper_grow (space : IndexSpace) (depth : Nat) (axis other : Axis) :
    (space.grow depth axis).upper.get other =
      space.upper.get other + if other = axis then depth else 0 := by
  by_cases same : other = axis
  · subst same
    simp only [grow, get_shift_self, if_pos]
  · simp only [grow, get_shift_of_ne _ _ same, if_neg same]
    omega

/-- Growing along distinct axes moves both corners by the depth on each of them. -/
theorem get_corners_foldl_grow (depth : Nat) {axes : List Axis} (distinct : axes.Nodup)
    (space : IndexSpace) (other : Axis) :
    (axes.foldl (fun grown axis => grown.grow depth axis) space).lower.get other =
        space.lower.get other - (if other ∈ axes then depth else 0) ∧
      (axes.foldl (fun grown axis => grown.grow depth axis) space).upper.get other =
        space.upper.get other + (if other ∈ axes then depth else 0) := by
  induction axes generalizing space with
  | nil => simp
  | cons axis later ih =>
    obtain ⟨new, distinctLater⟩ := List.nodup_cons.mp distinct
    obtain ⟨lower, upper⟩ := ih distinctLater (space.grow depth axis)
    rw [List.foldl_cons, lower, upper, get_lower_grow, get_upper_grow]
    by_cases same : other = axis
    · subst same
      simp [new]
    · simp [same]

end IndexSpace

namespace Mesh

variable {R : Type} {mesh : Mesh R} {axis : Axis} {index : Index}

theorem mem_activeAxes : axis ∈ mesh.activeAxes ↔ mesh.isActive axis = true := by
  unfold activeAxes
  rw [List.mem_filter]
  exact ⟨And.right, fun active => ⟨by cases axis <;> decide, active⟩⟩

theorem nodup_activeAxes (mesh : Mesh R) : mesh.activeAxes.Nodup :=
  List.Nodup.filter _ (by decide)

/-- The number of guard zones at each end of an axis. -/
def reach (mesh : Mesh R) (axis : Axis) : Nat :=
  if mesh.isActive axis then mesh.guardDepth else 0

theorem reach_pos (active : mesh.isActive axis = true) : 0 < mesh.reach axis := by
  rw [reach, if_pos active]
  exact mesh.guardDepth_pos

theorem get_lower_interior (mesh : Mesh R) (axis : Axis) : mesh.interior.lower.get axis = 0 := by
  rw [mesh.lower_eq_zero]
  cases axis <;> rfl

theorem get_upper_interior (mesh : Mesh R) (axis : Axis) :
    mesh.interior.upper.get axis = mesh.interior.extent axis := by
  have length := mesh.interior.lower_add_extent axis
  rw [get_lower_interior] at length
  omega

/-- A mesh that was built has blocks of the given size, with the given guard zones and spacings. -/
theorem ofSpacings?_inversion {blockSize : Index} {numGuard : Int} {spacing : Array (PerAxis R)}
    (built : ofSpacings? blockSize numGuard spacing = .ok mesh) :
    (∀ axis, (mesh.interior.extent axis : Int) = blockSize.get axis) ∧
      mesh.guardDepth = numGuard.toNat ∧ mesh.spacing = spacing := by
  unfold ofSpacings? at built
  split at built
  next =>
    split at built
    next =>
      split at built
      next interior shaped =>
        cases built
        refine ⟨fun axis => ?_, rfl, rfl⟩
        unfold blockSpace? IndexSpace.ofBounds? at shaped
        split at shaped
        next nonempty =>
          cases shaped
          have positive := nonempty axis
          have zero : (PerAxis.replicate 0 : Index).get axis = 0 := by cases axis <;> rfl
          rw [zero] at positive
          simp only [IndexSpace.extent, zero]
          omega
        next => cases shaped
      next => cases built
    next => cases built
  next => cases built

/-- The interior counts from zero along every axis. -/
theorem mem_interior : index ∈ mesh.interior ↔
    ∀ axis, 0 ≤ index.get axis ∧ index.get axis < mesh.interior.extent axis := by
  simp only [IndexSpace.mem_iff, get_lower_interior, get_upper_interior]

/-- The extended box reaches beyond the interior by the guard zones of each axis. -/
theorem get_corners_extended (mesh : Mesh R) (axis : Axis) :
    mesh.extended.lower.get axis = -(mesh.reach axis : Int) ∧
      mesh.extended.upper.get axis = mesh.interior.extent axis + mesh.reach axis := by
  have corners := IndexSpace.get_corners_foldl_grow mesh.guardDepth mesh.nodup_activeAxes
    mesh.interior axis
  simp only [get_lower_interior, get_upper_interior, mem_activeAxes] at corners
  obtain ⟨lower, upper⟩ := corners
  rw [extended, lower, upper, reach]
  split <;> simp

/-- The extended box adds the guard zones at both ends of the active axes. -/
theorem mem_extended : index ∈ mesh.extended ↔
    ∀ axis, -(mesh.reach axis : Int) ≤ index.get axis ∧
      index.get axis < mesh.interior.extent axis + mesh.reach axis := by
  rw [IndexSpace.mem_iff]
  apply forall_congr'
  intro axis
  obtain ⟨lower, upper⟩ := get_corners_extended mesh axis
  rw [lower, upper]

theorem extent_extended (mesh : Mesh R) (axis : Axis) :
    mesh.extended.extent axis = mesh.interior.extent axis + 2 * mesh.reach axis := by
  obtain ⟨lower, upper⟩ := get_corners_extended mesh axis
  rw [IndexSpace.extent, lower, upper]
  omega

/-- The faces normal to an axis are one more than the cells along it. -/
theorem mem_faces : index ∈ mesh.faces axis ↔
    ∀ other, 0 ≤ index.get other ∧
      index.get other < mesh.interior.extent other + if other = axis then 1 else 0 := by
  rw [IndexSpace.mem_iff]
  apply forall_congr'
  intro other
  have lower : (mesh.faces axis).lower.get other = 0 := get_lower_interior mesh other
  have upper : (mesh.faces axis).upper.get other =
      mesh.interior.extent other + if other = axis then 1 else 0 := by
    simp only [faces, IndexSpace.faces, IndexSpace.growUpper]
    by_cases same : other = axis
    · subst same
      rw [IndexSpace.get_shift_self, get_upper_interior, if_pos rfl]
      rfl
    · rw [IndexSpace.get_shift_of_ne _ _ same, get_upper_interior, if_neg same, Int.add_zero]
  rw [lower, upper]

/-- The cell above a face lies in the extended box. -/
theorem upperCell_mem_extended (active : mesh.isActive axis = true)
    (inside : index ∈ mesh.faces axis) : index ∈ mesh.extended := by
  rw [mem_extended]
  intro other
  have range := mem_faces.mp inside other
  by_cases same : other = axis
  · subst same
    have someGuard := reach_pos active
    rw [if_pos rfl] at range
    omega
  · rw [if_neg same] at range
    omega

/-- The cell below a face lies in the extended box. -/
theorem lowerCell_mem_extended (active : mesh.isActive axis = true)
    (inside : index ∈ mesh.faces axis) : index.shift (-1) axis ∈ mesh.extended := by
  rw [mem_extended]
  intro other
  have range := mem_faces.mp inside other
  by_cases same : other = axis
  · subst same
    have someGuard := reach_pos active
    rw [if_pos rfl] at range
    rw [IndexSpace.get_shift_self]
    omega
  · rw [if_neg same] at range
    rw [IndexSpace.get_shift_of_ne _ _ same]
    omega

/-- The lower face of a cell has the index of the cell. -/
theorem lowerFace_mem_faces (axis : Axis) (inside : index ∈ mesh.interior) :
    index ∈ mesh.faces axis := by
  rw [mem_faces]
  intro other
  have range := mem_interior.mp inside other
  split <;> omega

/-- The upper face of a cell has the next index. -/
theorem upperFace_mem_faces (axis : Axis) (inside : index ∈ mesh.interior) :
    index.shift 1 axis ∈ mesh.faces axis := by
  rw [mem_faces]
  intro other
  have range := mem_interior.mp inside other
  by_cases same : other = axis
  · subst same
    rw [IndexSpace.get_shift_self, if_pos rfl]
    omega
  · rw [IndexSpace.get_shift_of_ne _ _ same, if_neg same]
    omega

/-- The cell above a face is interior unless the face is the last. -/
theorem upperCell_mem_interior (inside : index ∈ mesh.faces axis)
    (notLast : index.get axis < mesh.interior.extent axis) : index ∈ mesh.interior := by
  rw [mem_interior]
  intro other
  have range := mem_faces.mp inside other
  by_cases same : other = axis
  · subst same
    exact ⟨range.1, notLast⟩
  · rwa [if_neg same, Int.add_zero] at range

/-- The cell below a face is interior unless the face is the first. -/
theorem lowerCell_mem_interior (inside : index ∈ mesh.faces axis) (notFirst : 0 < index.get axis) :
    index.shift (-1) axis ∈ mesh.interior := by
  rw [mem_interior]
  intro other
  have range := mem_faces.mp inside other
  by_cases same : other = axis
  · subst same
    rw [if_pos rfl] at range
    rw [IndexSpace.get_shift_self]
    omega
  · rw [IndexSpace.get_shift_of_ne _ _ same]
    rwa [if_neg same, Int.add_zero] at range

/-- One of the two cells of a face is in the interior. -/
theorem cell_mem_interior (inside : index ∈ mesh.faces axis) :
    index.shift (-1) axis ∈ mesh.interior ∨ index ∈ mesh.interior := by
  by_cases notFirst : 0 < index.get axis
  · exact .inl (lowerCell_mem_interior inside notFirst)
  · have someLength := mesh.interior.extent_pos axis
    exact .inr (upperCell_mem_interior inside (by omega))

section Zones

variable {zone : Zone}

theorem extendedGrid_of_interiorGrid (inside : zone ∈ mesh.interiorGrid) :
    zone ∈ mesh.extendedGrid :=
  ⟨inside.1, interior_subset_extended inside.2⟩

/-- The interior zones are those zones of the extended boxes whose index is interior. -/
theorem filter_extendedGrid (mesh : Mesh R) :
    mesh.extendedGrid.zones.filter (·.index ∈ mesh.interior) = mesh.interiorGrid.zones :=
  Grid.filter_zones fun _ => interior_subset_extended

theorem upperCell_mem (active : mesh.isActive axis = true) (inside : zone ∈ mesh.faceGrid axis) :
    zone ∈ mesh.extendedGrid :=
  ⟨inside.1, upperCell_mem_extended active inside.2⟩

theorem lowerCell_mem (active : mesh.isActive axis = true) (inside : zone ∈ mesh.faceGrid axis) :
    zone.shift (-1) axis ∈ mesh.extendedGrid :=
  ⟨inside.1, lowerCell_mem_extended active inside.2⟩

theorem cell_mem_interiorGrid (inside : zone ∈ mesh.faceGrid axis) :
    zone.shift (-1) axis ∈ mesh.interiorGrid ∨ zone ∈ mesh.interiorGrid :=
  (cell_mem_interior inside.2).imp (⟨inside.1, ·⟩) (⟨inside.1, ·⟩)

theorem lowerFace_mem (axis : Axis) (inside : zone ∈ mesh.interiorGrid) :
    zone ∈ mesh.faceGrid axis :=
  ⟨inside.1, lowerFace_mem_faces axis inside.2⟩

theorem upperFace_mem (axis : Axis) (inside : zone ∈ mesh.interiorGrid) :
    zone.shift 1 axis ∈ mesh.faceGrid axis :=
  ⟨inside.1, upperFace_mem_faces axis inside.2⟩

end Zones

/-- A zone inside the interior stands for itself. -/
theorem chained_of_mem {zone : Zone} (axis : Axis) (inside : zone ∈ mesh.interiorGrid) :
    mesh.chained axis zone = some zone := by
  have range := mem_interior.mp inside.2 axis
  unfold chained
  simp only [Int.not_lt.mpr range.1, Int.not_le.mpr range.2, if_false, bind, Option.bind,
    if_pos inside]

/-- A zone past the upper end of its block stands for one of the next block, if that is a zone. -/
theorem chained_of_above {zone : Zone}
    (above : (mesh.interior.extent axis : Int) ≤ zone.index.get axis) :
    mesh.chained axis zone =
      let target : Zone := ⟨zone.block + 1, zone.index.shift (-mesh.interior.extent axis) axis⟩
      if target ∈ mesh.interiorGrid then some target else none := by
  have notBelow : ¬ zone.index.get axis < 0 := by omega
  unfold chained
  simp only [notBelow, above, if_false, if_true, bind, Option.bind, Zone.shift]
  rfl

/-- A zone past the lower end of the first block stands for none. -/
theorem chained_of_first {zone : Zone} (below : zone.index.get axis < 0) (first : zone.block = 0) :
    mesh.chained axis zone = none := by
  unfold chained
  simp only [below, first, if_true, bind, Option.bind]

/-- A zone past the lower end of a later block stands for one of the block before, if that is a
zone. -/
theorem chained_of_below {zone : Zone} (below : zone.index.get axis < 0) (later : zone.block ≠ 0) :
    mesh.chained axis zone =
      let target : Zone := ⟨zone.block - 1, zone.index.shift (mesh.interior.extent axis) axis⟩
      if target ∈ mesh.interiorGrid then some target else none := by
  unfold chained
  simp only [below, later, if_true, if_false, bind, Option.bind, Zone.shift]
  rfl

theorem shift_shift (index : Index) (first second : Int) (axis : Axis) :
    (index.shift first axis).shift second axis = index.shift (first + second) axis := by
  cases axis <;> simp [PerAxis.shift, PerAxis.modify, Int.add_assoc]

@[simp] theorem shift_zero (index : Index) (axis : Axis) : index.shift 0 axis = index := by
  cases axis <;> simp [PerAxis.shift, PerAxis.modify]

/-- A zone that stands for another stands for a cell, moved along the chain only. -/
theorem chained_inversion {zone origin : Zone} (given : mesh.chained axis zone = some origin) :
    origin ∈ mesh.interiorGrid ∧ ∃ delta : Int, origin.index = zone.index.shift delta axis := by
  have keeps : ∀ (target : Zone) (delta : Int), target.index = zone.index.shift delta axis →
      (if target ∈ mesh.interiorGrid then some target else none) = some origin →
        origin ∈ mesh.interiorGrid ∧ ∃ delta : Int, origin.index = zone.index.shift delta axis := by
    intro target delta moved kept
    split at kept
    next inside =>
      cases kept
      exact ⟨inside, delta, moved⟩
    next => cases kept
  by_cases below : zone.index.get axis < 0
  · by_cases first : zone.block = 0
    · rw [chained_of_first below first] at given
      cases given
    · rw [chained_of_below below first] at given
      exact keeps _ _ rfl given
  · by_cases above : (mesh.interior.extent axis : Int) ≤ zone.index.get axis
    · rw [chained_of_above above] at given
      exact keeps _ _ rfl given
    · unfold chained at given
      simp only [below, above, if_false, bind, Option.bind] at given
      exact keeps _ 0 (shift_zero zone.index axis).symm given

/-- What a zone stands for is an interior zone. -/
theorem mem_of_chained {zone origin : Zone} (given : mesh.chained axis zone = some origin) :
    origin ∈ mesh.interiorGrid :=
  (chained_inversion given).1

/-- A zone and the one it stands for differ along the chain only. -/
theorem get_of_chained {zone origin : Zone} {other : Axis} (different : other ≠ axis)
    (given : mesh.chained axis zone = some origin) :
    origin.index.get other = zone.index.get other := by
  obtain ⟨_, delta, moved⟩ := chained_inversion given
  rw [moved, IndexSpace.get_shift_of_ne _ _ different]

/-- Putting an index in range on one axis leaves the others in range. -/
theorem set_mem_interior (axis : Axis) (inside : index ∈ mesh.interior) {x : Int} (positive : 0 ≤ x)
    (small : x < mesh.interior.extent axis) : index.set axis x ∈ mesh.interior := by
  rw [mem_interior]
  intro other
  by_cases same : other = axis
  · subst same
    rw [PerAxis.get_set_self]
    exact ⟨positive, small⟩
  · rw [PerAxis.get_set_of_ne _ _ same]
    exact mem_interior.mp inside other

theorem shift_set (index : Index) (axis : Axis) (x delta : Int) :
    (index.set axis x).shift delta axis = index.set axis (x + delta) := by
  cases axis <;> rfl

/-- The last face of a block along an axis, in the line of zones through an index. -/
def lastFace (mesh : Mesh R) (axis : Axis) (block : Nat) (index : Index) : Zone :=
  ⟨block, index.set axis (mesh.interior.extent axis)⟩

/-- The first face of a block along an axis, in the line of zones through an index. -/
def firstFace (axis : Axis) (block : Nat) (index : Index) : Zone :=
  ⟨block, index.set axis 0⟩

theorem lastFace_mem_faces (inside : index ∈ mesh.interior) (block : Nat) :
    (mesh.lastFace axis block index).index ∈ mesh.faces axis := by
  have someLength := mesh.interior.extent_pos axis
  have last := upperFace_mem_faces axis (set_mem_interior axis inside
    (x := mesh.interior.extent axis - 1) (by omega) (by omega))
  rwa [shift_set, Int.sub_add_cancel] at last

theorem firstFace_mem_faces (inside : index ∈ mesh.interior) (block : Nat) :
    (firstFace axis block index).index ∈ mesh.faces axis := by
  have someLength := mesh.interior.extent_pos axis
  exact lowerFace_mem_faces axis (set_mem_interior axis inside (Int.le_refl 0) (by omega))

/-- The cell above the last face of a block is the first cell of the next block. -/
theorem chained_lastFace {block : Nat} (successor : block + 1 < mesh.numBlocks)
    (inside : index ∈ mesh.interior) :
    mesh.chained axis (mesh.lastFace axis block index) = some (firstFace axis (block + 1) index) := by
  have someLength := mesh.interior.extent_pos axis
  have target : firstFace axis (block + 1) index ∈ mesh.interiorGrid :=
    ⟨successor, set_mem_interior axis inside (Int.le_refl 0) (by omega)⟩
  rw [chained_of_above (by simp [lastFace])]
  simp only [lastFace, shift_set, Int.add_right_neg]
  exact if_pos target

/-- The cell below the first face of a block is the last cell of the block before. -/
theorem chained_beforeFirstFace {block : Nat} (successor : block + 1 < mesh.numBlocks)
    (inside : index ∈ mesh.interior) :
    mesh.chained axis ((firstFace axis (block + 1) index).shift (-1) axis) =
      some ((mesh.lastFace axis block index).shift (-1) axis) := by
  have someLength := mesh.interior.extent_pos axis
  have target : (mesh.lastFace axis block index).shift (-1) axis ∈ mesh.interiorGrid := by
    refine ⟨Nat.lt_of_succ_lt successor, ?_⟩
    simp only [lastFace, Zone.shift, shift_set]
    exact set_mem_interior axis inside (by omega) (by omega)
  rw [chained_of_below (by simp [firstFace, Zone.shift, shift_set]) (Nat.succ_ne_zero block)]
  simp only [firstFace, Zone.shift, shift_set, lastFace] at target ⊢
  rw [Int.add_comm _ (-1 : Int)] at target
  exact if_pos target

end Mesh

theorem Zone.shift_back (zone : Zone) (axis : Axis) :
    (zone.shift 1 axis).shift (-1) axis = zone := by
  unfold shift
  rw [Mesh.shift_shift, Int.add_right_neg, Mesh.shift_zero]

end BlockHydro
