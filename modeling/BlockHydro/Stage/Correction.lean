import BlockHydro.Stage.Recovery
import BlockHydro.Stage.Update

/-!
# First-order flux correction

A correction pass predicts the stage update of every interior cell, flags the
cells whose prediction has no primitive state, and replaces the fluxes on all
faces of the flagged cells by the low-order flux.

A face between two blocks is stored by both.  Guard zones therefore carry flags
too, copied from the interior zones they stand for, so that both copies of the
face see the same pair of flags and are replaced alike.

Every phase is a sweep of its own: the repair of a face reads the flags of both
its cells, so it starts when all cells have been tested.
-/

namespace BlockHydro

/-- One flag per zone, over the interior and its guard layer. -/
@[ext] structure CorrectionFlags where
  interior : IndexSpace
  zones : ZoneArray Bool
  /-- The zones of the interior are among those that have a flag. -/
  interior_subset : ∀ index ∈ interior, index ∈ zones.grid.space

/-- Where the data of a guard zone come from, if from anywhere. -/
abbrev GuardSource := Zone → Option Zone

namespace CorrectionFlags

/-- No zone flagged. -/
def unset (interior : IndexSpace) (grid : Grid)
    (interior_subset : ∀ index ∈ interior, index ∈ grid.space) : CorrectionFlags :=
  ⟨interior, .replicate grid false, interior_subset⟩

/-- The interior zones of all blocks. -/
def interiorGrid (flags : CorrectionFlags) : Grid :=
  ⟨flags.zones.grid.numBlocks, flags.interior⟩

/-- Every interior zone of a block has a flag. -/
theorem mem_zones_of_interior {flags : CorrectionFlags} {zone : Zone}
    (known : zone ∈ flags.interiorGrid) : zone ∈ flags.zones.grid :=
  ⟨known.1, flags.interior_subset _ known.2⟩

/-- Visit the listed places in turn: the flags as left, and the number of marked zones. -/
def sweepOver {ε : Type} (flags : CorrectionFlags) (order : List (Fin flags.zones.grid.size))
    (kernel : Zone → Bool → Except ε (Bool × Bool)) : CorrectionFlags × Except ε Nat :=
  let swept := flags.zones.sweepOver order kernel
  ({ flags with zones := swept.1 }, swept.2)

/-- Visit every zone in memory order. -/
def sweep {ε : Type} (flags : CorrectionFlags) (kernel : Zone → Bool → Except ε (Bool × Bool)) :
    CorrectionFlags × Except ε Nat :=
  flags.sweepOver flags.zones.grid.memoryOrder kernel

/-- Whether a zone is flagged; zones beyond the guard layer never are. -/
def get (flags : CorrectionFlags) (zone : Zone) : Bool :=
  (flags.zones.get? zone).getD false

/-- The zones whose flag is set, in memory order. -/
def set (flags : CorrectionFlags) : List Zone :=
  (flags.zones.entries.filter (·.2)).map (·.1)

/-- The flagged interior cells, in memory order. -/
def flagged (flags : CorrectionFlags) : List Zone :=
  flags.set.filter fun zone => zone.index ∈ flags.interior

/-- The flagged guard zones, in memory order. -/
def flaggedGuards (flags : CorrectionFlags) : List Zone :=
  flags.set.filter fun zone => zone.index ∉ flags.interior

/-- The number of flagged interior cells. -/
def count (flags : CorrectionFlags) : Nat := flags.flagged.length

/-- Unset every flag. -/
def clear (flags : CorrectionFlags) : CorrectionFlags :=
  { flags with zones := .replicate flags.zones.grid false }

/-- The flag that a guard zone takes from its source. -/
def guardFlag (flags : CorrectionFlags) (source : Option Zone) : Bool :=
  match source with
  | some zone =>
    if known : zone ∈ flags.interiorGrid then
      flags.zones.value zone (mem_zones_of_interior known)
    else
      false
  | none => false

/-- The new flag of one zone when guard flags are filled from `before`. -/
def fillKernel (before : CorrectionFlags) (source : GuardSource) (zone : Zone) (flag : Bool) :
    Except Empty (Bool × Bool) :=
  .ok (if zone.index ∈ before.interior then flag else before.guardFlag (source zone), false)

/-- Give every guard zone the flag of the interior zone it stands for. -/
def fillGuards (flags : CorrectionFlags) (source : GuardSource) : CorrectionFlags :=
  (flags.sweep (flags.fillKernel source)).1

end CorrectionFlags

/-- What a correction pass did. -/
structure CorrectionReport where
  flaggedCells : Nat
  correctedFaces : Nat
  deriving DecidableEq, Repr

namespace CorrectionReport

/-- Nothing flagged, nothing corrected. -/
def zero : CorrectionReport := ⟨0, 0⟩

instance : Add CorrectionReport where
  add left right :=
    ⟨left.flaggedCells + right.flaggedCells, left.correctedFaces + right.correctedFaces⟩

end CorrectionReport

/-- The predicted states and the flags of the latest correction pass. -/
structure FluxCorrection (R : Type) where
  trial : Patch R
  flags : CorrectionFlags

variable {R : Type} [Scalar R]

/-- Replace the flux of one face if a cell next to it is flagged, and mark it. -/
def Setting.repairKernel {numFields : Nat} (setting : Setting R) (flags : CorrectionFlags)
    (primitive : Patch R) (axis : Axis) (face : Zone) (before : Vector R numFields) :
    Except Fault (Vector R numFields × Bool) := do
  let lower := face.shift (-1) axis
  if flags.get lower || flags.get face then
    let left ← Primitive.ofFields (← primitive.fields lower)
    let right ← Primitive.ofFields (← primitive.fields face)
    let metric ← MetricField.faceMetric setting.metric axis face
    return ((setting.eos.lowOrderFlux axis metric left right).writeTo before, true)
  else
    return (before, false)

/-- Replace the fluxes on the faces of flagged cells, and count the replaced ones. -/
def Setting.repair (setting : Setting R) (flags : CorrectionFlags) (primitive : Patch R)
    (fluxes : Fluxes R) : Except Fault (Fluxes R × Nat) :=
  setting.mesh.activeAxes.foldlM (fun (fluxes, corrected) axis => do
    match fluxes.along axis with
    | none => return (fluxes, corrected)
    | some patch =>
      let (repaired, count) ← patch.update (setting.repairKernel flags primitive axis)
      return (fluxes.replace axis repaired, corrected + count)) (fluxes, 0)

namespace FluxCorrection

/-- A correction that has seen no stage yet. -/
def initial (mesh : Mesh R) : FluxCorrection R where
  trial := .zeros mesh.interiorGrid 5
  flags := .unset mesh.interior mesh.extendedGrid fun _ => Mesh.interior_subset_extended

/-- The predicted fields of one cell; a cell of four fields predicts no fifth. -/
def predictKernel {numFields : Nat} (mesh : Mesh R) (stage : StageWeights R) (dt : R)
    (current start : Patch R) (fluxes : Fluxes R) (cell : Zone) (before : Vector R numFields) :
    Except Fault (Vector R numFields) := do
  let difference ← mesh.fluxDifference fluxes (stage.rate * dt) cell
  let now ← current.fields cell
  let blended ← stage.blend (now.take numFields) (← start.fields cell) difference
  return overwrite blended before

/-- Predict the stage update of every interior cell. -/
def predict (correction : FluxCorrection R) (mesh : Mesh R) (stage : StageWeights R) (dt : R)
    (current start : Patch R) (fluxes : Fluxes R) : Except Fault (FluxCorrection R) := do
  let trial ← correction.trial.mapZonesM (predictKernel mesh stage dt current start fluxes)
  return { correction with trial }

/-- Whether a predicted state has no primitive counterpart. -/
def isBad (setting : Setting R) (trial : Patch R) (cell : Zone) : Except Fault Bool := do
  let (metric, state) ← setting.conservedAt trial cell
  match setting.eos.recover .diagnostic metric state with
  | .ok _ => return false
  | .error _ => return true

/-- The new flag of one zone in the test: set for a bad interior cell, unset in the guard layer. -/
def testKernel (setting : Setting R) (correction : FluxCorrection R) (zone : Zone)
    (_before : Bool) : Except Fault (Bool × Bool) := do
  if zone.index ∈ correction.flags.interior then
    let bad ← isBad setting correction.trial zone
    return (bad, bad)
  else
    return (false, false)

/-- Flag the interior cells whose prediction is bad, and count them; guard flags are unset. -/
def test (correction : FluxCorrection R) (setting : Setting R) :
    Except Fault (FluxCorrection R × Nat) := do
  let (flags, outcome) := correction.flags.sweep (testKernel setting correction)
  return ({ correction with flags }, ← outcome)

/-- Run a correction pass: predict, test, fill the guard flags, repair. -/
def apply (correction : FluxCorrection R) (setting : Setting R) (stage : StageWeights R) (dt : R)
    (current start primitive : Patch R) (fluxes : Fluxes R) (source : GuardSource) :
    Except Fault (FluxCorrection R × Fluxes R × CorrectionReport) := do
  let cleared := { correction with flags := correction.flags.clear }
  let predicted ← cleared.predict setting.mesh stage dt current start fluxes
  let (tested, flaggedCells) ← predicted.test setting
  if 0 < flaggedCells then
    let flags := tested.flags.fillGuards source
    let (repaired, correctedFaces) ← setting.repair flags primitive fluxes
    return ({ tested with flags }, repaired, ⟨flaggedCells, correctedFaces⟩)
  else
    return (tested, fluxes, ⟨flaggedCells, 0⟩)

end FluxCorrection

end BlockHydro
