import Mathlib.Algebra.BigOperators.Group.List.Basic
import BlockHydro.Proofs.Space.MeshShape

/-!
# The faces at the two ends of a block

A face normal to an axis is the lower face of a cell or lies at the upper end of
the block, and it is the upper face of a cell or lies at the lower end.  Summing
over all faces in both ways gives `sum_face_differences`: the differences between
the two faces of each cell add up to the upper end less the lower end.

`Mesh.crossSection` lists the lines of cells along an axis, so that the faces at
an end of a block are counted as `lastFace` and `firstFace` of each line.
-/

namespace BlockHydro

theorem PerAxis.get_set {α : Type} (values : PerAxis α) (axis other : Axis) (value : α) :
    (values.set axis value).get other = if other = axis then value else values.get other := by
  split
  next same => rw [same, get_set_self]
  next different => exact get_set_of_ne values value different

theorem PerAxis.set_set {α : Type} (values : PerAxis α) (axis : Axis) (first second : α) :
    (values.set axis first).set axis second = values.set axis second := by
  cases axis <;> rfl

theorem PerAxis.set_get {α : Type} (values : PerAxis α) (axis : Axis) :
    values.set axis (values.get axis) = values := by
  cases axis <;> rfl

namespace Index.Before

variable {first second : Index}

/-- Moving both indexes alike keeps their order. -/
theorem shift (before : Index.Before first second) (delta : Int) (axis : Axis) :
    Index.Before (first.shift delta axis) (second.shift delta axis) := by
  unfold Index.Before at before ⊢
  cases axis <;> simp only [PerAxis.shift, PerAxis.modify] <;> omega

/-- Putting indexes of one cross-section into another keeps their order. -/
theorem set {axis : Axis} (before : Index.Before first second)
    (aligned : first.get axis = second.get axis) (x : Int) :
    Index.Before (first.set axis x) (second.set axis x) := by
  unfold Index.Before at before ⊢
  cases axis <;> simp only [PerAxis.set, PerAxis.modify, PerAxis.get, true_and] at aligned ⊢ <;>
    omega

end Index.Before

namespace Mesh

variable {R M : Type} (mesh : Mesh R) (axis : Axis)

/-- The first cell of every line of cells along an axis. -/
def crossSection : List Index :=
  mesh.interior.indexes.filter (·.get axis = 0)

variable {mesh axis} {index : Index}

theorem mem_crossSection :
    index ∈ mesh.crossSection axis ↔ index ∈ mesh.interior ∧ index.get axis = 0 := by
  simp [crossSection, IndexSpace.mem_indexes]

/-- The faces at one position along an axis are those of the cross-section there. -/
theorem filter_faces_eq_crossSection {position : Int} (positive : 0 ≤ position)
    (small : position ≤ mesh.interior.extent axis) :
    (mesh.faces axis).indexes.filter (·.get axis = position) =
      (mesh.crossSection axis).map fun index => index.set axis position := by
  have someLength := mesh.interior.extent_pos axis
  refine ((IndexSpace.pairwise_indexes _).filter _).eq_of_mem_iff ?_ fun face => ?_
  · rw [List.pairwise_map]
    refine ((IndexSpace.pairwise_indexes mesh.interior).filter _).imp_of_mem
      fun first second before => ?_
    have firstAligned := (mem_crossSection.mp first).2
    have secondAligned := (mem_crossSection.mp second).2
    exact before.set (firstAligned.trans secondAligned.symm) position
  · simp only [List.mem_filter, IndexSpace.mem_indexes, List.mem_map, decide_eq_true_eq,
      mem_crossSection]
    constructor
    · rintro ⟨inside, rfl⟩
      refine ⟨face.set axis 0, ⟨?_, PerAxis.get_set_self face axis 0⟩, ?_⟩
      · rw [mem_interior]
        intro other
        have range := mem_faces.mp inside other
        rw [PerAxis.get_set]
        split <;> simp_all
      · rw [PerAxis.set_set, PerAxis.set_get]
    · rintro ⟨cell, ⟨inside, _⟩, rfl⟩
      refine ⟨?_, PerAxis.get_set_self cell axis position⟩
      rw [mem_faces]
      intro other
      have range := mem_interior.mp inside other
      rw [PerAxis.get_set]
      split
      · subst_vars
        omega
      · omega

/-- The faces that are the lower face of a cell. -/
theorem filter_faces_lower :
    (mesh.faces axis).indexes.filter
        (fun face => ¬ face.get axis = (mesh.interior.extent axis : Int)) =
      mesh.interior.indexes := by
  rw [← IndexSpace.filter_indexes fun _ => lowerFace_mem_faces axis]
  apply List.filter_congr
  intro face inside
  rw [IndexSpace.mem_indexes, mem_faces] at inside
  rw [decide_eq_decide, mem_interior]
  constructor
  · intro below other
    have range := inside other
    split at range
    · subst_vars
      omega
    · simpa using range
  · intro cell
    have range := cell axis
    omega

/-- The faces that are the upper face of a cell. -/
theorem filter_faces_upper :
    (mesh.faces axis).indexes.filter (fun face => ¬ face.get axis = 0) =
      mesh.interior.indexes.map fun index => index.shift 1 axis := by
  refine ((IndexSpace.pairwise_indexes _).filter _).eq_of_mem_iff ?_ fun face => ?_
  · rw [List.pairwise_map]
    exact (IndexSpace.pairwise_indexes _).imp fun before => before.shift 1 axis
  · simp only [List.mem_filter, IndexSpace.mem_indexes, List.mem_map, decide_eq_true_eq]
    constructor
    · rintro ⟨inside, above⟩
      refine ⟨face.shift (-1) axis, ?_, ?_⟩
      · rw [mem_interior]
        intro other
        have range := mem_faces.mp inside other
        split at range
        next same =>
          subst same
          rw [IndexSpace.get_shift_self]
          omega
        next different =>
          rw [IndexSpace.get_shift_of_ne _ _ different]
          omega
      · ext other
        cases axis <;> cases other <;> simp [PerAxis.shift, PerAxis.modify, PerAxis.get]
    · rintro ⟨cell, inside, rfl⟩
      have range := mem_interior.mp inside axis
      refine ⟨upperFace_mem_faces axis inside, ?_⟩
      rw [IndexSpace.get_shift_self]
      omega

/-- All faces are the lower faces of the cells and the faces at the upper end. -/
theorem sum_lower_faces [AddCommMonoid M] (mesh : Mesh R) (axis : Axis) (f : Index → M) :
    ((mesh.crossSection axis).map fun index => f (index.set axis (mesh.interior.extent axis))).sum +
        (mesh.interior.indexes.map f).sum = ((mesh.faces axis).indexes.map f).sum := by
  have split := List.sum_map_filter_add_sum_map_filter_not
    (fun face : Index => face.get axis = mesh.interior.extent axis) f (mesh.faces axis).indexes
  rwa [filter_faces_lower, filter_faces_eq_crossSection (by omega) (Int.le_refl _), List.map_map]
    at split

/-- All faces are the upper faces of the cells and the faces at the lower end. -/
theorem sum_upper_faces [AddCommMonoid M] (mesh : Mesh R) (axis : Axis) (f : Index → M) :
    ((mesh.crossSection axis).map fun index => f (index.set axis 0)).sum +
        (mesh.interior.indexes.map fun index => f (index.shift 1 axis)).sum =
      ((mesh.faces axis).indexes.map f).sum := by
  have split := List.sum_map_filter_add_sum_map_filter_not (fun face : Index => face.get axis = 0) f
    (mesh.faces axis).indexes
  rwa [filter_faces_upper, filter_faces_eq_crossSection (Int.le_refl 0) (by omega), List.map_map,
    List.map_map] at split

/-- The differences between the two faces of the cells add up to the difference between the ends. -/
theorem sum_face_differences [AddCommGroup M] (f : Index → M) :
    (mesh.interior.indexes.map fun index => f (index.shift 1 axis) - f index).sum =
      ((mesh.crossSection axis).map fun index => f (index.set axis (mesh.interior.extent axis))).sum -
        ((mesh.crossSection axis).map fun index => f (index.set axis 0)).sum := by
  have twoWays := (mesh.sum_lower_faces axis f).trans (mesh.sum_upper_faces axis f).symm
  have uppers : (mesh.interior.indexes.map fun index => f (index.shift 1 axis)).sum =
      (mesh.interior.indexes.map fun index => f (index.shift 1 axis) - f index).sum +
        (mesh.interior.indexes.map f).sum := by
    rw [← List.sum_map_add]
    simp only [sub_add_cancel]
  rw [uppers, ← add_assoc] at twoWays
  exact eq_sub_of_add_eq' (add_right_cancel twoWays).symm

end Mesh

end BlockHydro
