import BlockHydro.Gas.EquationOfState
import BlockHydro.Space.Mesh
import BlockHydro.Space.Patch

/-!
# The setting of a simulation

The passes of a stage work on patches over one mesh, for one gas, in one
geometry.  This file names those three together, and fills the guard zones of a
patch for blocks that form a row along the first axis.

A guard zone takes the fields of the interior zone that lies behind it in the
row.  Past an end of the row, or beside the row, it takes those of the nearest
zone of its own line of zones (outflow).
-/

namespace BlockHydro

/-- The mesh, the gas and the geometry of a simulation; space is flat unless a metric is given. -/
structure Setting (R : Type) where
  mesh : Mesh R
  eos : EquationOfState R
  metric : Option (MetricField R)

variable {R : Type}

namespace Mesh

/-- The zone whose fields a guard zone of a row of blocks takes. -/
def rowSource (mesh : Mesh R) (zone : Zone) : Zone :=
  match mesh.chained .i zone with
  | some source => source
  | none =>
    let last : Int := (mesh.interior.extent .i : Int) - 1
    { zone with index := { zone.index with i := min (max zone.index.i 0) last } }

/-- The new fields of one zone when guard zones are filled from `before`. -/
def fillGuardKernel (mesh : Mesh R) (before : Patch R) (zone : Zone)
    (fields : Vector R before.numFields) : Except Fault (Vector R before.numFields) :=
  if zone.index ∈ mesh.interior then .ok fields else before.fields (mesh.rowSource zone)

/-- Fill the guard zones of a row of blocks. -/
def fillGuards (mesh : Mesh R) (patch : Patch R) : Except Fault (Patch R) :=
  patch.mapZonesM (mesh.fillGuardKernel patch)

end Mesh

/-- The largest signal speed over all interior zones, in flat space. -/
def Setting.maxSignalSpeed [Scalar R] (setting : Setting R) (primitive : Patch R) :
    Except Fault R := do
  let interior := (← primitive.entries).filter fun entry => entry.1.index ∈ setting.mesh.interior
  interior.foldlM (fun fastest entry => do
    let state ← Primitive.ofFields entry.2
    return Scalar.max fastest (setting.eos.maxSignalSpeed .minkowski state)) 0

end BlockHydro
