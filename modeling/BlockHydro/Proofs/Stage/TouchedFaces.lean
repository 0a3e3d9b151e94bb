import Mathlib.Data.List.Perm.Subperm
import BlockHydro.Proofs.Stage.CorrectionPass

/-!
# How many faces a correction touches

Blocks that are chained along an axis store the face between two of them twice.
`Mesh.storedFaces` lists the stored faces next to a cell: its own two, and their
copies in the neighbouring blocks.  Every touched face is one of the four of some
bad cell, and every bad cell has a touched face of its own, so the touched faces
along an axis are at least as many as the bad cells and at most four times as many
(`Mesh.countP_bad_le_touches`, `Mesh.countP_touches_le`).

A cell that is alone in its block shares both its faces, and then all four are
distinct.
-/

namespace BlockHydro

variable {R : Type} {mesh : Mesh R} {axis : Axis} {bad : Zone → Bool}

/-- Marked zones that all occur in a list are no more than its length. -/
theorem Grid.countP_le_length {grid : Grid} {mark : Zone → Bool} {listed : List Zone}
    (contained : ∀ zone ∈ grid, mark zone = true → zone ∈ listed) :
    grid.zones.countP mark ≤ listed.length := by
  rw [List.countP_eq_length_filter]
  refine (List.subperm_of_subset (grid.nodup_zones.filter mark) fun zone member => ?_).length_le
  rw [List.mem_filter, Grid.mem_zones] at member
  exact contained zone member.1 member.2

/-- The stored faces next to a cell, when the blocks are chained along the axis: its two faces, the
last face of the block before, and the first face of the block after. -/
def Mesh.storedFaces (mesh : Mesh R) (axis : Axis) (cell : Zone) : List Zone :=
  [cell, cell.shift 1 axis,
    ⟨cell.block - 1, cell.index.shift (mesh.interior.extent axis) axis⟩,
    ⟨cell.block + 1, (cell.index.shift (-mesh.interior.extent axis) axis).shift 1 axis⟩]

/-- The flags of the zones, when guard zones stand for the cells behind them. -/
abbrev chainedFlags (mesh : Mesh R) (axis : Axis) (bad : Zone → Bool) : Zone → Bool :=
  CorrectionFlags.mirrored mesh (mesh.chained axis) bad

/-- A face whose upper cell is flagged is next to a bad cell. -/
theorem Mesh.exists_bad_above {face : Zone} (inside : face ∈ mesh.faceGrid axis)
    (flagged : chainedFlags mesh axis bad face = true) :
    ∃ cell ∈ mesh.interiorGrid, bad cell = true ∧ face ∈ mesh.storedFaces axis cell := by
  by_cases interior : face.index ∈ mesh.interior
  · rw [chainedFlags, CorrectionFlags.mirrored_of_mem interior] at flagged
    exact ⟨face, ⟨inside.1, interior⟩, flagged, by simp [storedFaces]⟩
  · obtain ⟨cell, known, given, isBad⟩ := (CorrectionFlags.mirrored_guard_iff interior).mp flagged
    rw [CorrectionFlags.mirrored_of_mem known.2] at isBad
    have above : (mesh.interior.extent axis : Int) ≤ face.index.get axis :=
      Int.not_lt.mp fun notLast => interior (upperCell_mem_interior inside.2 notLast)
    rw [chained_of_above above] at given
    dsimp only at given
    split at given
    next =>
      cases given
      have back : (face.index.shift (-mesh.interior.extent axis) axis).shift
          (mesh.interior.extent axis) axis = face.index := by
        rw [shift_shift, Int.add_left_neg, shift_zero]
      exact ⟨_, known, isBad, by simp [storedFaces, back]⟩
    next => cases given

/-- A face whose lower cell is flagged is next to a bad cell. -/
theorem Mesh.exists_bad_below {face : Zone} (inside : face ∈ mesh.faceGrid axis)
    (flagged : chainedFlags mesh axis bad (face.shift (-1) axis) = true) :
    ∃ cell ∈ mesh.interiorGrid, bad cell = true ∧ face ∈ mesh.storedFaces axis cell := by
  by_cases interior : (face.shift (-1) axis).index ∈ mesh.interior
  · rw [chainedFlags, CorrectionFlags.mirrored_of_mem interior] at flagged
    exact ⟨face.shift (-1) axis, ⟨inside.1, interior⟩, flagged,
      by simp [storedFaces, Zone.shift, shift_shift]⟩
  · obtain ⟨cell, known, given, isBad⟩ := (CorrectionFlags.mirrored_guard_iff interior).mp flagged
    rw [CorrectionFlags.mirrored_of_mem known.2] at isBad
    have first : face.index.get axis ≤ 0 :=
      Int.not_lt.mp fun notFirst => interior (lowerCell_mem_interior inside.2 notFirst)
    have below : (face.shift (-1) axis).index.get axis < 0 := by
      rw [Zone.shift, IndexSpace.get_shift_self]
      omega
    by_cases firstBlock : face.block = 0
    · rw [chained_of_first below firstBlock] at given
      cases given
    · rw [chained_of_below below firstBlock] at given
      dsimp only at given
      split at given
      next =>
        cases given
        have block : face.block - 1 + 1 = face.block := Nat.succ_pred firstBlock
        have back : (((face.index.shift (-1) axis).shift (mesh.interior.extent axis) axis).shift
            (-mesh.interior.extent axis) axis).shift 1 axis = face.index := by
          rw [shift_shift (face.index.shift (-1) axis), Int.add_right_neg, shift_zero, shift_shift,
            Int.add_left_neg, shift_zero]
        exact ⟨_, known, isBad, by simp [storedFaces, Zone.shift, block, back]⟩
      next => cases given

/-- At most four stored faces along an axis are touched for every bad cell. -/
theorem Mesh.countP_touches_le (mesh : Mesh R) (axis : Axis) (bad : Zone → Bool) :
    (mesh.faceGrid axis).zones.countP (touches (chainedFlags mesh axis bad) axis) ≤
      4 * mesh.interiorGrid.zones.countP bad := by
  have near : ∀ face ∈ mesh.faceGrid axis, touches (chainedFlags mesh axis bad) axis face = true →
      face ∈ (mesh.interiorGrid.zones.filter bad).flatMap (mesh.storedFaces axis) := by
    intro face inside touched
    rw [touches, Bool.or_eq_true] at touched
    obtain ⟨cell, known, isBad, stored⟩ :=
      touched.elim (exists_bad_below inside) (exists_bad_above inside)
    exact List.mem_flatMap.mpr
      ⟨cell, List.mem_filter.mpr ⟨Grid.mem_zones.mpr known, isBad⟩, stored⟩
  refine (Grid.countP_le_length near).trans ?_
  have four : ∀ cell, (mesh.storedFaces axis cell).length = 4 := fun _ => rfl
  rw [List.length_flatMap, List.countP_eq_length_filter]
  simp [four, Nat.mul_comm]

/-- Every bad cell has a touched face along the axis. -/
theorem Mesh.countP_bad_le_touches (mesh : Mesh R) (axis : Axis) (bad : Zone → Bool) :
    mesh.interiorGrid.zones.countP bad ≤
      (mesh.faceGrid axis).zones.countP (touches (chainedFlags mesh axis bad) axis) := by
  rw [List.countP_eq_length_filter (p := touches _ _)]
  apply Grid.countP_le_length
  intro cell inside isBad
  rw [List.mem_filter, Grid.mem_zones]
  refine ⟨lowerFace_mem axis inside, ?_⟩
  rw [touches, chainedFlags, CorrectionFlags.mirrored_of_mem inside.2, isBad, Bool.or_true]

end BlockHydro
