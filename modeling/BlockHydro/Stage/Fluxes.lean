import BlockHydro.Flux.Riemann
import BlockHydro.Stage.Setting

/-!
# Face states and fluxes

`FaceStates` are the primitive states on either side of every face normal to an
axis.  The piecewise-constant ones are the two cells that share the face.

`Fluxes` hold one patch over the faces of each active axis.  `Fluxes.solve`
writes the two-wave flux of every face for which states are given, and counts
the faces and those whose sound speed was clipped.
-/

namespace BlockHydro

/-- The primitive states on the lower (`left`) and upper (`right`) side of the faces of an axis. -/
structure FaceStates (R : Type) where
  axis : Axis
  left : Patch R
  right : Patch R

/-- Face fluxes, for active axes only. -/
structure Fluxes (R : Type) where
  faces : PerAxis (Option (Patch R))

/-- How many faces were solved, and on how many a sound speed was clipped. -/
structure FluxTally where
  faces : Nat
  clipped : Nat
  deriving DecidableEq, Repr

namespace FluxTally

/-- No face yet. -/
def zero : FluxTally := ⟨0, 0⟩

instance : Add FluxTally where
  add left right := ⟨left.faces + right.faces, left.clipped + right.clipped⟩

end FluxTally

variable {R : Type} [Scalar R]

/-- The states of the two cells that share each face; guard zones have to be filled. -/
def FaceStates.piecewiseConstant (mesh : Mesh R) (primitive : Patch R) (axis : Axis) :
    Except Fault (FaceStates R) := do
  let grid : Grid := ⟨primitive.grid.numBlocks, mesh.faces axis⟩
  let left ← Patch.tabulate grid primitive.numFields fun face =>
    primitive.fields (face.shift (-1) axis)
  let right ← Patch.tabulate grid primitive.numFields primitive.fields
  return { axis, left, right }

/-- The two-wave solution at one face. -/
def FaceStates.solveFace (setting : Setting R) (states : FaceStates R) (face : Zone) :
    Except Fault (TwoWaveFlux R) := do
  let left ← Primitive.ofFields (← states.left.fields face)
  let right ← Primitive.ofFields (← states.right.fields face)
  let metric ← MetricField.faceMetric setting.metric states.axis face
  return setting.eos.twoWaveFlux states.axis metric left right

/-- Write the flux of one face, marking it if a sound speed was clipped. -/
def FaceStates.solveKernel {numFields : Nat} (setting : Setting R) (states : FaceStates R)
    (face : Zone) (before : Vector R numFields) : Except Fault (Vector R numFields × Bool) := do
  let solution ← states.solveFace setting face
  return (solution.flux.writeTo before, solution.clipped)

namespace Fluxes

/-- Zero flux through every face of the active axes. -/
def zeros (mesh : Mesh R) (numFields : Nat) : Fluxes R where
  faces := PerAxis.ofFn fun axis =>
    if mesh.isActive axis then some (Patch.zeros (mesh.faceGrid axis) numFields) else none

/-- The fluxes normal to an axis, if it is active. -/
def along (fluxes : Fluxes R) (axis : Axis) : Option (Patch R) :=
  fluxes.faces.get axis

/-- Replace the fluxes normal to an axis. -/
def replace (fluxes : Fluxes R) (axis : Axis) (patch : Patch R) : Fluxes R where
  faces := fluxes.faces.set axis (some patch)

/-- Solve every face of one axis; an inactive axis is left alone. -/
def solveAxis (setting : Setting R) (fluxes : Fluxes R) (states : FaceStates R) :
    Except Fault (Fluxes R × FluxTally) := do
  match fluxes.along states.axis with
  | none => return (fluxes, .zero)
  | some patch =>
    let (solved, clipped) ← patch.update (states.solveKernel setting)
    return (fluxes.replace states.axis solved, ⟨patch.grid.size, clipped⟩)

/-- Solve every face for which states are given, axis by axis. -/
def solve (setting : Setting R) (states : List (FaceStates R)) (fluxes : Fluxes R) :
    Except Fault (Fluxes R × FluxTally) :=
  states.foldlM (fun (fluxes, tally) states => do
    let (fluxes, counted) ← fluxes.solveAxis setting states
    return (fluxes, tally + counted)) (fluxes, .zero)

end Fluxes

end BlockHydro
