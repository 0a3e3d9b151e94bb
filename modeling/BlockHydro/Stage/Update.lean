import BlockHydro.Setup.Integrator
import BlockHydro.Stage.Fluxes

/-!
# The stage update

One stage replaces the conserved state of every interior cell by a blend of the
state, the state at the start of the step, and the difference of the fluxes
through the faces of the cell.  A face flux enters the two cells that share it
with opposite signs.  Guard zones are left alone.
-/

namespace BlockHydro

variable {R : Type} [Scalar R]

/-- Add the scaled difference of two face fluxes, field by field. -/
def addFluxDifference {numFields : Nat} (total : Vector R 5) (ratio : R)
    (lower upper : Vector R numFields) : Except Fault (Vector R 5) :=
  if numFields ≤ 5 then
    .ok (Vector.ofFn fun field : Fin 5 =>
      if inside : field.val < numFields then
        total[field] + ratio * (upper[field.val] - lower[field.val])
      else
        total[field])
  else
    .error (.fieldOutOfRange 5 5)

/-- The divergence of the fluxes over a cell times `scaledStep`, summed over the active axes. -/
def Mesh.fluxDifference (mesh : Mesh R) (fluxes : Fluxes R) (scaledStep : R) (cell : Zone) :
    Except Fault (Vector R 5) :=
  mesh.activeAxes.foldlM (fun total axis => do
    match fluxes.along axis with
    | none => return total
    | some flux =>
      let ratio := scaledStep / (← mesh.cellSpacing cell.block axis)
      let lower ← flux.fields cell
      let upper ← flux.fields (cell.shift 1 axis)
      addFluxDifference total ratio lower upper) (Vector.replicate 5 0)

/-- The blend of a stage, field by field. -/
def StageWeights.blend {numFields startFields : Nat} (stage : StageWeights R)
    (current : Vector R numFields) (start : Vector R startFields) (difference : Vector R 5) :
    Except Fault (Vector R numFields) :=
  if room : numFields ≤ startFields ∧ numFields ≤ 5 then
    .ok (Vector.ofFn fun field : Fin numFields =>
      stage.current * current[field] + stage.start * start.get (field.castLE room.1)
        - difference.get (field.castLE room.2))
  else
    .error (.fieldOutOfRange (min startFields 5) (min startFields 5))

/-- The new fields of one zone in a stage: blended in the interior, unchanged in the guard layer. -/
def Mesh.advanceKernel {numFields : Nat} (mesh : Mesh R) (stage : StageWeights R) (dt : R)
    (fluxes : Fluxes R) (start : Patch R) (zone : Zone) (current : Vector R numFields) :
    Except Fault (Vector R numFields) := do
  if zone.index ∈ mesh.interior then
    let difference ← mesh.fluxDifference fluxes (stage.rate * dt) zone
    stage.blend current (← start.fields zone) difference
  else
    return current

/-- Advance the interior zones of a conserved patch by one stage. -/
def Mesh.advance (mesh : Mesh R) (stage : StageWeights R) (dt : R) (fluxes : Fluxes R)
    (current start : Patch R) : Except Fault (Patch R) :=
  current.mapZonesM (mesh.advanceKernel stage dt fluxes start)

/-- The conserved fields of one zone. -/
def Setting.encodeKernel {numFields : Nat} (setting : Setting R) (primitive : Patch R)
    (zone : Zone) (before : Vector R numFields) : Except Fault (Vector R numFields) := do
  let metric ← MetricField.cellMetric setting.metric zone
  let state ← Primitive.ofFields (← primitive.fields zone)
  return (setting.eos.encode metric state).writeTo before

/-- Write the conserved state of every zone, guard zones included. -/
def Setting.encode (setting : Setting R) (primitive conserved : Patch R) :
    Except Fault (Patch R) :=
  conserved.mapZonesM (setting.encodeKernel primitive)

end BlockHydro
