import BlockHydro.Gas.Message
import BlockHydro.Stage.Setting

/-!
# Recovery of a patch

Primitive states are recovered zone by zone in memory order, on the interior
only.  In diagnostic mode the sweep stops at the first zone without a primitive
state and names it; the zones before it are recovered and all others are left as
they were.  In floored mode the floors are applied where needed, and the sweep
counts the zones where they were.
-/

namespace BlockHydro

/-- Why the recovery of a patch stopped. -/
inductive RecoveryStop (R : Type) where
  | fault (cause : Fault)
  | unphysical (failure : ZoneFailure R)

variable {R : Type} [Scalar R]

namespace Setting

/-- The metric and the conserved state of a cell. -/
def conservedAt (setting : Setting R) (conserved : Patch R) (zone : Zone) :
    Except Fault (Metric R × Conserved R) := do
  let metric ← MetricField.cellMetric setting.metric zone
  let state ← Conserved.ofFields (← conserved.fields zone)
  return (metric, state)

/-- Recover one zone, marking it if floors were applied; guard zones are left alone. -/
def recoverKernel {numFields : Nat} (setting : Setting R) (mode : RecoveryMode)
    (conserved : Patch R) (zone : Zone) (before : Vector R numFields) :
    Except (RecoveryStop R) (Vector R numFields × Bool) := do
  if zone.index ∈ setting.mesh.interior then
    let (metric, state) ← (setting.conservedAt conserved zone).mapError .fault
    match setting.eos.recover .diagnostic metric state, mode with
    | .ok primitive, _ => return (primitive.writeTo before, false)
    | .error cause, .diagnostic => throw (.unphysical ⟨cause, zone⟩)
    | .error _, .floored => return ((setting.eos.floored metric state).writeTo before, true)
  else
    return (before, false)

/-- Recover the interior of a patch: the patch as left, and the number of floored zones. -/
def recover (setting : Setting R) (mode : RecoveryMode) (conserved primitive : Patch R) :
    Patch R × Except (RecoveryStop R) Nat :=
  match Patch.requireFields primitive.numFields with
  | .error cause => (primitive, .error (.fault cause))
  | .ok () =>
    primitive.sweepOver primitive.grid.memoryOrder (setting.recoverKernel mode conserved)

end Setting

end BlockHydro
