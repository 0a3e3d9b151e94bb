import BlockHydro.ShockTube.Problem

/-!
# Running the shock tube

A step takes the largest time that the signal speeds allow, but never past the
final time, and runs the stages of the integrator.  `runWithin` repeats steps
until the final time is reached; it counts down a limit on their number, so that
it ends for every problem.
-/

namespace BlockHydro

variable {R : Type} [Scalar R]

namespace Simulation

/-- The length of the next step. -/
def timeStep (simulation : Simulation R) : Except Fault R := do
  let tube := simulation.problem
  let fastest ← simulation.setting.maxSignalSpeed simulation.primitive
  return Scalar.min (tube.cfl * tube.cellSize / fastest) (tube.finalTime - simulation.time)

/-- Solve the fluxes between the zones of the row, guard zones filled. -/
def solveFluxes (simulation : Simulation R) : Except Fault (Simulation R) := do
  let mesh := simulation.setting.mesh
  let primitive ← mesh.fillGuards simulation.primitive
  let states ← FaceStates.piecewiseConstant mesh primitive .i
  let (fluxes, solved) ← simulation.fluxes.solve simulation.setting [states]
  return { simulation with primitive, fluxes, fluxTally := simulation.fluxTally + solved }

/-- Correct the fluxes of a stage, if the configuration asks for it. -/
def correctFluxes (simulation : Simulation R) (stage : StageWeights R) (dt : R)
    (start : Patch R) : Except Fault (Simulation R) := do
  if simulation.problem.config.fluxCorrection then
    let (correction, fluxes, made) ← simulation.correction.apply simulation.setting stage dt
      simulation.conserved start simulation.primitive simulation.fluxes
      (simulation.setting.mesh.chained .i)
    return { simulation with correction, fluxes, report := simulation.report + made }
  else
    return simulation

/-- Run one stage of a step that began with the conserved state `start`. -/
def runStage (simulation : Simulation R) (dt : R) (start : Patch R) (stage : StageWeights R) :
    Except (RunError R) (Simulation R) := do
  let solved ← simulation.solveFluxes.mapError .fault
  let corrected ← (solved.correctFluxes stage dt start).mapError .fault
  let conserved ← (corrected.setting.mesh.advance stage dt corrected.fluxes corrected.conserved
    start).mapError .fault
  let (primitive, outcome) := corrected.setting.recover .floored conserved corrected.primitive
  let _ ← outcome.mapError .ofStop
  return { corrected with conserved, primitive }

/-- Take one step. -/
def step (simulation : Simulation R) : Except (RunError R) (Simulation R) := do
  let dt ← simulation.timeStep.mapError .fault
  let stages : List (StageWeights R) := simulation.problem.config.integrator.stages
  let advanced ← stages.foldlM (fun current stage =>
    current.runStage dt simulation.conserved stage) simulation
  return { advanced with
    iteration := simulation.iteration + 1
    time := simulation.time + dt }

/-- Take a number of steps, whatever the time. -/
def steps (simulation : Simulation R) : Nat → Except (RunError R) (Simulation R)
  | 0 => return simulation
  | count + 1 => do (← simulation.step).steps count

/-- Whether the final time is still ahead. -/
def isUnfinished (simulation : Simulation R) : Bool :=
  decide (simulation.time < simulation.problem.finalTime)

/-- Fill the guard zones once more, so that the result is complete. -/
def finish (simulation : Simulation R) : Except (RunError R) (Simulation R) := do
  let primitive ← (simulation.setting.mesh.fillGuards simulation.primitive).mapError .fault
  return { simulation with primitive }

/-- Step until the final time, within a number of steps. -/
def runWithin : Nat → Simulation R → Except (RunError R) (Simulation R)
  | 0, simulation =>
    if simulation.isUnfinished then throw (.unfinished simulation.iteration)
    else simulation.finish
  | limit + 1, simulation =>
    if simulation.isUnfinished then do runWithin limit (← simulation.step)
    else simulation.finish

end Simulation

/-- Run a shock tube to its final time, within a number of steps. -/
def ShockTube.run (tube : ShockTube R) (limit : Nat) : Except (RunError R) (Simulation R) := do
  Simulation.runWithin limit (← Simulation.start tube)

end BlockHydro
