import BlockHydro.Proofs.Space.VisitOrder
import BlockHydro.Stage.Correction

/-!
# Passes in any order

Every pass of a stage is a loop over the zones of one array, which it updates in
place.  This file runs each loop in the order of a `Traversal`; the counters go up
by what the visited zones contribute.

`PassesAgree` says that the order makes no difference: each loop ends with the same
array, the same flags and the same counts as in memory order, on any data.  On data
that a pass refuses, every order of it is refused.

The tasks of a loop read the slot that they replace, other arrays, and in two of the
passes the array as it was before the loop: guard flags and guard zones are copied
from the flags and fields that the pass started with, which are the argument of their
kernels.
-/

namespace BlockHydro

variable {R : Type} [Scalar R]

namespace Traversal

variable (traversal : Traversal)

/-- Solve the faces of one axis in the order of the traversal, counting each visited face. -/
def solveAxis (setting : Setting R) (fluxes : Fluxes R) (states : FaceStates R) :
    Except Fault (Fluxes R × FluxTally) := do
  match fluxes.along states.axis with
  | none => return (fluxes, .zero)
  | some patch =>
    let (solved, clipped) ← patch.updateIn traversal (states.solveKernel setting)
    return (fluxes.replace states.axis solved, ⟨(traversal.order patch.grid).length, clipped⟩)

/-- Predict the stage update in the order of the traversal. -/
def predict (correction : FluxCorrection R) (mesh : Mesh R) (stage : StageWeights R) (dt : R)
    (current start : Patch R) (fluxes : Fluxes R) : Except Fault (FluxCorrection R) := do
  let trial ← correction.trial.mapZonesIn traversal
    (FluxCorrection.predictKernel mesh stage dt current start fluxes)
  return { correction with trial }

/-- Test the predictions in the order of the traversal. -/
def test (correction : FluxCorrection R) (setting : Setting R) :
    Except Fault (FluxCorrection R × Nat) := do
  let (flags, count) ← ZoneArray.completed (correction.flags.sweepOver
    (traversal.order correction.flags.zones.grid) (FluxCorrection.testKernel setting correction))
  return ({ correction with flags }, count)

/-- Fill the guard flags in the order of the traversal. -/
def fillGuardFlags (flags : CorrectionFlags) (source : GuardSource) : CorrectionFlags :=
  (flags.sweepOver (traversal.order flags.zones.grid) (flags.fillKernel source)).1

/-- Repair the faces of each active axis in the order of the traversal for that axis. -/
def repair (ofAxis : Axis → Traversal) (setting : Setting R) (flags : CorrectionFlags)
    (primitive : Patch R) (fluxes : Fluxes R) : Except Fault (Fluxes R × Nat) :=
  setting.mesh.activeAxes.foldlM (fun (fluxes, corrected) axis => do
    match fluxes.along axis with
    | none => return (fluxes, corrected)
    | some patch =>
      let (repaired, count) ← patch.updateIn (ofAxis axis) (setting.repairKernel flags primitive axis)
      return (fluxes.replace axis repaired, corrected + count)) (fluxes, 0)

/-- Advance by one stage in the order of the traversal. -/
def advance (mesh : Mesh R) (stage : StageWeights R) (dt : R) (fluxes : Fluxes R)
    (current start : Patch R) : Except Fault (Patch R) :=
  current.mapZonesIn traversal (mesh.advanceKernel stage dt fluxes start)

/-- Write the conserved states in the order of the traversal. -/
def encode (setting : Setting R) (primitive conserved : Patch R) : Except Fault (Patch R) :=
  conserved.mapZonesIn traversal (setting.encodeKernel primitive)

omit [Scalar R] in
/-- Fill the guard zones of a row of blocks in the order of the traversal. -/
def fillGuards (mesh : Mesh R) (patch : Patch R) : Except Fault (Patch R) :=
  patch.mapZonesIn traversal (mesh.fillGuardKernel patch)

end Traversal

/-- A sweep of flags completes alike in every order of the zones. -/
theorem CorrectionFlags.sweepOver_perm {ε : Type} (flags : CorrectionFlags) (traversal : Traversal)
    (kernel : Zone → Bool → Except ε (Bool × Bool)) :
    SameOutcome (ZoneArray.completed (flags.sweepOver (traversal.order flags.zones.grid) kernel))
      (ZoneArray.completed (flags.sweep kernel)) :=
  ZoneArray.sweepCells_traversal
    (fun cells => mk flags.interior ⟨flags.zones.grid, cells⟩ flags.interior_subset) traversal kernel
    flags.zones.cells

/-- The passes in the order of a traversal, and the repair in one of a traversal for each axis, end
as they do in memory order. -/
structure PassesAgree (R : Type) [Scalar R] (traversal : Traversal) (ofAxis : Axis → Traversal) :
    Prop where
  solveAxis : ∀ (setting : Setting R) (fluxes : Fluxes R) (states : FaceStates R),
    SameOutcome (traversal.solveAxis setting fluxes states) (fluxes.solveAxis setting states)
  predict : ∀ (correction : FluxCorrection R) (mesh : Mesh R) (stage : StageWeights R) (dt : R)
      (current start : Patch R) (fluxes : Fluxes R),
    SameOutcome (traversal.predict correction mesh stage dt current start fluxes)
      (correction.predict mesh stage dt current start fluxes)
  test : ∀ (correction : FluxCorrection R) (setting : Setting R),
    SameOutcome (traversal.test correction setting) (correction.test setting)
  fillGuardFlags : ∀ (flags : CorrectionFlags) (source : GuardSource),
    traversal.fillGuardFlags flags source = flags.fillGuards source
  repair : ∀ (setting : Setting R) (flags : CorrectionFlags) (primitive : Patch R)
      (fluxes : Fluxes R),
    SameOutcome (Traversal.repair ofAxis setting flags primitive fluxes)
      (setting.repair flags primitive fluxes)
  advance : ∀ (mesh : Mesh R) (stage : StageWeights R) (dt : R) (fluxes : Fluxes R)
      (current start : Patch R),
    SameOutcome (traversal.advance mesh stage dt fluxes current start)
      (mesh.advance stage dt fluxes current start)
  encode : ∀ (setting : Setting R) (primitive conserved : Patch R),
    SameOutcome (traversal.encode setting primitive conserved) (setting.encode primitive conserved)
  fillGuards : ∀ (mesh : Mesh R) (patch : Patch R),
    SameOutcome (traversal.fillGuards mesh patch) (mesh.fillGuards patch)

/-- Every zone has one writer: no pass depends on the order in which it visits the zones. -/
theorem passes_agree_in_any_order (traversal : Traversal) (ofAxis : Axis → Traversal) :
    PassesAgree R traversal ofAxis := by
  constructor
  case solveAxis =>
    intro setting fluxes states
    unfold Traversal.solveAxis Fluxes.solveAxis
    cases fluxes.along states.axis with
    | none => rfl
    | some patch =>
      simp only [traversal.length_order]
      exact (patch.updateIn_same traversal _).bind fun _ => .refl _
  case predict =>
    intro correction mesh stage dt current start fluxes
    exact (correction.trial.mapZonesIn_same traversal _).bind fun _ => .refl _
  case test =>
    intro correction setting
    have same := correction.flags.sweepOver_perm traversal
      (FluxCorrection.testKernel setting correction)
    refine (same.bind fun _ => .refl _).trans ?_
    unfold FluxCorrection.test
    rcases correction.flags.sweep (FluxCorrection.testKernel setting correction)
      with ⟨flags, _ | _⟩ <;> rfl
  case fillGuardFlags =>
    intro flags source
    exact ZoneArray.fst_eq_of_completed (flags.sweepOver_perm traversal (flags.fillKernel source))
  case repair =>
    intro setting flags primitive fluxes
    refine SameOutcome.foldlM ?_ _ _
    rintro ⟨fluxes, corrected⟩ axis
    cases found : fluxes.along axis with
    | none => simp [found]
    | some patch =>
      simp only [found]
      exact (patch.updateIn_same (ofAxis axis) _).bind fun _ => .refl _
  case advance =>
    intro mesh stage dt fluxes current start
    exact current.mapZonesIn_same traversal _
  case encode =>
    intro setting primitive conserved
    exact conserved.mapZonesIn_same traversal _
  case fillGuards =>
    intro mesh patch
    exact patch.mapZonesIn_same traversal _

end BlockHydro
