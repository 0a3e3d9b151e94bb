import Mathlib.Analysis.Real.Sqrt
import BlockHydro.Proofs.Exact.Reals
import BlockHydro.Proofs.Stage.UpdatePass

/-!
# A stage in exact arithmetic, over tables of any widths

The fluxes, the advanced state and the starting state of a stage may have
different numbers of fields.  `Mesh.stepped` is the state that the stage leaves,
and the lemmas here say what single fields of a blend and of a divergence are; a
field that is not stored counts as zero.
-/

namespace BlockHydro

variable {mesh : Mesh ℝ} {numFields startFields fluxFields : Nat}

/-- The blend of a stage where the starting state may have further fields. -/
noncomputable def StageWeights.blended (stage : StageWeights ℝ) (current : Vector ℝ numFields)
    (start : Vector ℝ startFields) (difference : Vector ℝ 5) : Vector ℝ numFields :=
  Vector.ofFn fun field : Fin numFields =>
    stage.current * current.get field + stage.start * start[field.val]?.getD 0
      - difference[field.val]?.getD 0

theorem StageWeights.getD_blended (stage : StageWeights ℝ) (current : Vector ℝ numFields)
    (start : Vector ℝ startFields) (difference : Vector ℝ 5) {field : Nat}
    (stored : field < numFields) :
    (stage.blended current start difference)[field]?.getD 0 =
      stage.current * current[field]?.getD 0 + stage.start * start[field]?.getD 0 -
        difference[field]?.getD 0 := by
  simp [blended, stored, Vector.get]

theorem StageWeights.blend_eq_blended (stage : StageWeights ℝ)
    (room : numFields ≤ startFields ∧ numFields ≤ 5) (current : Vector ℝ numFields)
    (start : Vector ℝ startFields) (difference : Vector ℝ 5) :
    stage.blend current start difference = .ok (stage.blended current start difference) := by
  unfold blend
  rw [dif_pos room]
  congr 1
  ext field stored
  have inStart : field < startFields := Nat.lt_of_lt_of_le stored room.1
  have inDifference : field < 5 := Nat.lt_of_lt_of_le stored room.2
  simp [blended, inStart, inDifference, Vector.get]

/-- A prediction blends the fields that the cell stores. -/
theorem StageWeights.getD_forecast (stage : StageWeights ℝ) (room : min 5 numFields ≤ startFields)
    (current : Vector ℝ numFields) (start : Vector ℝ startFields) (difference before : Vector ℝ 5)
    {field : Nat} (stored : field < numFields) (small : field < 5) :
    (stage.forecast room current start difference before)[field]?.getD 0 =
      stage.current * current[field]?.getD 0 + stage.start * start[field]?.getD 0 -
        difference[field]?.getD 0 := by
  have inStart : field < startFields := by omega
  simp [forecast, stored, small, inStart, Vector.get]

/-- The fields of a zone after a stage whose fluxes and starting state may have other widths. -/
noncomputable def Mesh.stepped (mesh : Mesh ℝ) (stage : StageWeights ℝ) (dt : ℝ)
    (current : Zone → Vector ℝ numFields) (start : Zone → Vector ℝ startFields)
    (f : Axis → Zone → Vector ℝ fluxFields) (zone : Zone) : Vector ℝ numFields :=
  if zone.index ∈ mesh.interior then
    stage.blended (current zone) (start zone) (mesh.divergence f (stage.rate * dt) zone)
  else
    current zone

/-- A stage blends the interior cells, whatever the widths, and leaves the guard zones alone. -/
theorem Mesh.advance_stepped (mesh : Mesh ℝ) (someField : numFields ≠ 0)
    (room : numFields ≤ startFields ∧ numFields ≤ 5) (small : fluxFields ≤ 5)
    (stage : StageWeights ℝ) (dt : ℝ) (current : Zone → Vector ℝ numFields)
    (start : Zone → Vector ℝ startFields) (f : Axis → Zone → Vector ℝ fluxFields) :
    mesh.advance stage dt (.ofFn mesh fluxFields f) (.ofFn mesh.extendedGrid numFields current)
        (.ofFn mesh.extendedGrid startFields start) =
      .ok (.ofFn mesh.extendedGrid numFields (mesh.stepped stage dt current start f)) := by
  have written : (Patch.ofFn mesh.extendedGrid numFields current).mapZonesM
      (mesh.advanceKernel stage dt (.ofFn mesh fluxFields f)
        (.ofFn mesh.extendedGrid startFields start)) =
      .ok (.ofFn mesh.extendedGrid numFields (mesh.stepped stage dt current start f)) :=
    Patch.mapZonesM_ofFn someField fun zone inside =>
      advanceKernel_eq_ok fun interior =>
        ⟨fluxDifference_ofFn small f _ ⟨inside.1, interior⟩, Patch.fields_ofFn start inside,
          stage.blend_eq_blended room _ _ _⟩
  exact written

/-- Counting two opposite faces adds their difference to a field. -/
theorem Mesh.getElem_addDivergence (total : Vector ℝ 5) (ratio : ℝ)
    (lower upper : Vector ℝ fluxFields) {field : Nat} (small : field < 5) :
    (addDivergence total ratio lower upper)[field] =
      total[field] + ratio * (upper[field]?.getD 0 - lower[field]?.getD 0) := by
  by_cases stored : field < fluxFields <;> simp [addDivergence, stored, Vector.get]

end BlockHydro
