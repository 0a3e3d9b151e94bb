import BlockHydro.Setup.Config
import BlockHydro.Stage.Correction

/-!
# The shock tube

The unit interval starts with dense gas at high pressure in its left half and
thin gas at low pressure in its right half, all at rest.  It is cut into equal
blocks that form a row.

A `ShockTube` is the problem; `Simulation.start` checks it and sets it up.  The
configuration is checked first, then whether the zones split evenly.
-/

namespace BlockHydro

/-- A shock tube problem. -/
structure ShockTube (R : Type) where
  numZones : Int
  numBlocks : Nat
  finalTime : R
  /-- The fraction of a cell that the fastest wave may cross in one step. -/
  cfl : R
  config : Config R

/-- Why a run has no result. -/
inductive RunError (R : Type) where
  | config (defect : ConfigDefect R)
  | unevenBlocks (numZones : Int) (numBlocks : Nat)
  | fault (cause : Fault)
  | unphysical (failure : ZoneFailure R)
  /-- The iteration limit was reached before the final time. -/
  | unfinished (iterations : Nat)

/-- A recovery that stopped ends the run. -/
def RunError.ofStop {R : Type} : RecoveryStop R → RunError R
  | .fault cause => .fault cause
  | .unphysical failure => .unphysical failure

/-- The wording of a failed run, where one is given. -/
def RunError.message? : RunError Float → Option String
  | .config defect => some defect.message
  | .unevenBlocks numZones numBlocks =>
    some s!"{numZones} zones do not split evenly into {numBlocks} blocks"
  | .fault cause => cause.message?
  | .unphysical failure => some failure.message
  | .unfinished iterations => some s!"final time not reached after {iterations} iterations"

/-- A run in progress. -/
structure Simulation (R : Type) where
  problem : ShockTube R
  setting : Setting R
  iteration : Nat
  time : R
  primitive : Patch R
  conserved : Patch R
  fluxes : Fluxes R
  correction : FluxCorrection R
  /-- The faces solved so far. -/
  fluxTally : FluxTally
  /-- The corrections made so far. -/
  report : CorrectionReport

variable {R : Type} [Scalar R]

namespace ShockTube

/-- The cell size. -/
def cellSize (tube : ShockTube R) : R := 1 / (tube.numZones : R)

/-- The middle of a cell, counted along the row of blocks. -/
def cellCenter (tube : ShockTube R) (mesh : Mesh R) (zone : Zone) : R :=
  let position : Int := zone.block * mesh.interior.extent .i + zone.index.i
  tube.cellSize * ((position : R) + 0.5)

/-- The gas in the left half. -/
def leftState : Primitive R := ⟨1, .replicate 0, 1⟩

/-- The gas in the right half. -/
def rightState : Primitive R := ⟨0.125, .replicate 0, 0.1⟩

/-- What the zones are divided by: the number of blocks as a signed word of 64 bits. -/
def divisor (tube : ShockTube R) : Int := Int.bmod tube.numBlocks (Nat.pow 2 64)

omit [Scalar R] in
/-- A number of blocks below half the range of words is the divisor. -/
theorem divisor_eq (tube : ShockTube R) (small : tube.numBlocks < Nat.pow 2 63) :
    tube.divisor = tube.numBlocks := by
  have halved : Nat.pow 2 64 = 2 * Nat.pow 2 63 := rfl
  unfold divisor
  rw [halved]
  exact Int.bmod_eq_of_le (by omega) (by omega)

/-- Whether the zones split evenly into the blocks. -/
def splitsEvenly (tube : ShockTube R) : Bool :=
  tube.numBlocks != 0 && tube.numZones % tube.divisor == 0

/-- The row of blocks. -/
def mesh? (tube : ShockTube R) : Except Fault (Mesh R) :=
  Mesh.uniform? tube.numBlocks ⟨tube.numZones / tube.divisor, 1, 1⟩ 1 ⟨tube.cellSize, 1, 1⟩

/-- The gas at the start. -/
def initialPrimitive (tube : ShockTube R) (mesh : Mesh R) : Except Fault (Patch R) :=
  Patch.generate mesh.extendedGrid 5 fun zone =>
    return (if tube.cellCenter mesh zone < 0.5 then leftState else rightState).toFields

end ShockTube

/-- Set up a run over a mesh. -/
def Simulation.ofSetting (tube : ShockTube R) (setting : Setting R) :
    Except Fault (Simulation R) := do
  let mesh := setting.mesh
  let primitive ← tube.initialPrimitive mesh
  let conserved ← setting.encode primitive (Patch.zeros mesh.extendedGrid 5)
  return {
    problem := tube
    setting
    iteration := 0
    time := 0
    primitive
    conserved
    fluxes := .zeros mesh 5
    correction := .initial mesh
    fluxTally := .zero
    report := .zero }

/-- Check a problem and set up its run. -/
def Simulation.start (tube : ShockTube R) : Except (RunError R) (Simulation R) := do
  let eos ← tube.config.validate.mapError .config
  if !tube.splitsEvenly then
    throw (.unevenBlocks tube.numZones tube.numBlocks)
  let mesh ← tube.mesh?.mapError .fault
  (Simulation.ofSetting tube ⟨mesh, eos, none⟩).mapError .fault

end BlockHydro
