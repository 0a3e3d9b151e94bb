import BlockHydro.Proofs.Exact.StageTables
import BlockHydro.Proofs.Stage.SharedFaces

/-!
# The passes of a stage as one run

`StageData` is all that a stage reads, and `StageResult` all that its passes leave.
`StageData.run` solves the faces of all axes, corrects the fluxes and updates the
cells; `StageData.runActive` does so on meshes with inactive axes too.

Over tables a stage in exact arithmetic completes, and leaves what the passes are
known to leave: `StageData.runActive_ofFn`.
-/

namespace BlockHydro

/-- What a stage reads. -/
structure StageData (R : Type) where
  setting : Setting R
  current : Patch R
  start : Patch R
  primitive : Patch R
  /-- Room for the fluxes. -/
  fluxes : Fluxes R
  /-- Room for the predictions and the flags. -/
  correction : FluxCorrection R
  source : GuardSource

/-- What a stage leaves, pass by pass. -/
structure StageResult (R : Type) where
  solved : Fluxes R
  tally : FluxTally
  correction : FluxCorrection R
  repaired : Fluxes R
  report : CorrectionReport
  advanced : Patch R

namespace StageData

section Runs

variable {R : Type} [Scalar R]

/-- Solve the faces of all axes between the piecewise-constant states. -/
def solve (data : StageData R) : Except Fault (Fluxes R × FluxTally) := do
  let states ← Axis.all.mapM (FaceStates.piecewiseConstant data.setting.mesh data.primitive)
  data.fluxes.solve data.setting states

/-- Solve the faces, correct the fluxes, and update the cells with them. -/
def run (data : StageData R) (stage : StageWeights R) (dt : R) :
    Except Fault (StageResult R) := do
  let (solved, tally) ← data.solve
  let (correction, repaired, report) ← data.correction.apply data.setting stage dt data.current
    data.start data.primitive solved data.source
  let advanced ← data.setting.mesh.advance stage dt repaired data.current data.start
  return { solved, tally, correction, repaired, report, advanced }

/-- Solve the faces of the active axes between the piecewise-constant states. -/
def solveActive (data : StageData R) : Except Fault (Fluxes R × FluxTally) := do
  let mesh := data.setting.mesh
  let states ← mesh.activeAxes.mapM (FaceStates.piecewiseConstant mesh data.primitive)
  data.fluxes.solve data.setting states

/-- Solve the faces of the active axes, correct the fluxes, and update the cells with them. -/
def runActive (data : StageData R) (stage : StageWeights R) (dt : R) :
    Except Fault (StageResult R) := do
  let (solved, tally) ← data.solveActive
  let (correction, repaired, report) ← data.correction.apply data.setting stage dt data.current
    data.start data.primitive solved data.source
  let advanced ← data.setting.mesh.advance stage dt repaired data.current data.start
  return { solved, tally, correction, repaired, report, advanced }

/-- Data over the zones and the faces of their mesh. -/
structure Stored (data : StageData R) (fluxFields : Nat) : Prop where
  current : data.current.grid = data.setting.mesh.extendedGrid
  start : data.start.grid = data.setting.mesh.extendedGrid
  primitive : data.primitive.grid = data.setting.mesh.extendedGrid
  fluxes : data.fluxes.Spans data.setting.mesh fluxFields
  correction : data.correction.Fits data.setting.mesh

omit [Scalar R] in
theorem stored_of_input {data : StageData R} {fluxFields : Nat}
    (input : SolvableInput data.setting fluxFields data.current data.start data.primitive data.fluxes
      data.correction) : data.Stored fluxFields :=
  ⟨input.current_grid, input.start_grid, input.primitive_grid, input.fluxes_span,
    input.correction_fits⟩

end Runs

section Tables

variable {currentFields startFields stateFields fluxFields : Nat}

/-- The data that hold the values of functions. -/
def ofFn {R : Type} (setting : Setting R) (now : Zone → Vector R currentFields)
    (first : Zone → Vector R startFields) (w : Zone → Vector R stateFields)
    (f : Axis → Zone → Vector R fluxFields) (trial : Zone → Vector R 5) (flag : Zone → Bool)
    (source : GuardSource) : StageData R where
  setting
  current := .ofFn setting.mesh.extendedGrid currentFields now
  start := .ofFn setting.mesh.extendedGrid startFields first
  primitive := .ofFn setting.mesh.extendedGrid stateFields w
  fluxes := .ofFn setting.mesh fluxFields f
  correction := .ofFn setting.mesh trial flag
  source

/-- Two sets of data with the same numbers of fields are tables with those numbers. -/
theorem exists_eq_ofFn_both {R : Type} [Scalar R] {data other : StageData R}
    (stored : data.Stored fluxFields) (otherStored : other.Stored fluxFields)
    (sameCurrent : other.current.numFields = data.current.numFields)
    (sameStart : other.start.numFields = data.start.numFields)
    (samePrimitive : other.primitive.numFields = data.primitive.numFields) :
    ∃ (setting otherSetting : Setting R) (currentFields startFields stateFields : Nat)
      (now otherNow : Zone → Vector R currentFields) (first otherFirst : Zone → Vector R startFields)
      (w otherW : Zone → Vector R stateFields) (f g : Axis → Zone → Vector R fluxFields)
      (trial otherTrial : Zone → Vector R 5) (flag otherFlag : Zone → Bool)
      (source otherSource : GuardSource),
      data = ofFn setting now first w f trial flag source ∧
      other = ofFn otherSetting otherNow otherFirst otherW g otherTrial otherFlag otherSource := by
  obtain ⟨currentFields, now, otherNow, current, otherCurrent⟩ :=
    Patch.exists_eq_ofFn_both sameCurrent stored.current otherStored.current
  obtain ⟨startFields, first, otherFirst, start, otherStart⟩ :=
    Patch.exists_eq_ofFn_both sameStart stored.start otherStored.start
  obtain ⟨stateFields, w, otherW, primitive, otherPrimitive⟩ :=
    Patch.exists_eq_ofFn_both samePrimitive stored.primitive otherStored.primitive
  obtain ⟨f, fluxes⟩ := stored.fluxes.exists_eq_ofFn
  obtain ⟨g, otherFluxes⟩ := otherStored.fluxes.exists_eq_ofFn
  obtain ⟨trial, flag, correction⟩ := stored.correction.exists_eq_ofFn
  obtain ⟨otherTrial, otherFlag, otherCorrection⟩ := otherStored.correction.exists_eq_ofFn
  refine ⟨data.setting, other.setting, currentFields, startFields, stateFields, now, otherNow, first,
    otherFirst, w, otherW, f, g, trial, otherTrial, flag, otherFlag, data.source, other.source, ?_, ?_⟩
  · rw [ofFn, ← current, ← start, ← primitive, ← fluxes, ← correction]
  · rw [ofFn, ← otherCurrent, ← otherStart, ← otherPrimitive, ← otherFluxes, ← otherCorrection]

/-- Over tables the flux pass stores the flux of every face. -/
theorem solveActive_ofFn {R : Type} [Scalar R] {setting : Setting R} (covered : setting.Covered)
    (enough : 4 ≤ stateFields) (someField : fluxFields ≠ 0)
    (now : Zone → Vector R currentFields) (first : Zone → Vector R startFields)
    (w : Zone → Vector R stateFields) (f : Axis → Zone → Vector R fluxFields)
    (trial : Zone → Vector R 5) (flag : Zone → Bool) (source : GuardSource) :
    (ofFn setting now first w f trial flag source).solveActive =
      .ok (.ofFn setting.mesh fluxFields fun axis => Fluxes.solvedFluxes setting w axis (f axis),
        setting.mesh.activeAxes.foldl
          (fun tally axis => tally + Fluxes.axisTally setting w axis) .zero) := by
  have states : setting.mesh.activeAxes.mapM (FaceStates.piecewiseConstant setting.mesh
      (.ofFn setting.mesh.extendedGrid stateFields w)) =
      .ok (setting.mesh.activeAxes.map (.ofCells setting.mesh w)) :=
    mapM_eq_ok fun axis member =>
      FaceStates.piecewiseConstant_ofFn (by omega) w (Mesh.mem_activeAxes.mp member)
  have solved := Fluxes.solve_ofFn covered enough someField w
    (fun axis member => Mesh.mem_activeAxes.mp member) f
  have everyAxis : Fluxes.ofFn setting.mesh fluxFields (fun axis =>
        if axis ∈ setting.mesh.activeAxes then Fluxes.solvedFluxes setting w axis (f axis)
        else f axis) =
      .ofFn setting.mesh fluxFields fun axis => Fluxes.solvedFluxes setting w axis (f axis) :=
    Fluxes.ofFn_congr fun axis active face _ => by rw [if_pos (Mesh.mem_activeAxes.mpr active)]
  rw [everyAxis] at solved
  unfold solveActive ofFn
  dsimp only
  rw [states]
  exact solved

/-- Over tables a stage completes, and leaves what the passes are known to leave. -/
theorem runActive_ofFn {setting : Setting ℝ} (covered : setting.Covered)
    (enough : 4 ≤ stateFields) (someField : fluxFields ≠ 0) (small : fluxFields ≤ 5)
    (someState : currentFields ≠ 0) (room : currentFields ≤ startFields ∧ currentFields ≤ 5)
    (predictable : min 5 currentFields ≤ startFields) (stage : StageWeights ℝ) (dt : ℝ)
    (now : Zone → Vector ℝ currentFields) (first : Zone → Vector ℝ startFields)
    (w : Zone → Vector ℝ stateFields) (f : Axis → Zone → Vector ℝ fluxFields)
    (trial : Zone → Vector ℝ 5) (flag : Zone → Bool) (source : GuardSource) :
    let solved := fun axis => Fluxes.solvedFluxes setting w axis (f axis)
    let predicted := setting.mesh.predicted stage dt predictable now first solved trial
    let flagged := CorrectionFlags.mirrored setting.mesh source
      (FluxCorrection.bad setting predicted)
    let repaired := fun axis => setting.repairedFlux w flagged axis (solved axis)
    (ofFn setting now first w f trial flag source).runActive stage dt = .ok {
      solved := .ofFn setting.mesh fluxFields solved
      tally := setting.mesh.activeAxes.foldl
        (fun tally axis => tally + Fluxes.axisTally setting w axis) .zero
      correction := .ofFn setting.mesh predicted flagged
      repaired := .ofFn setting.mesh fluxFields repaired
      report := ⟨setting.mesh.interiorGrid.zones.countP (FluxCorrection.bad setting predicted),
        setting.mesh.touchedFaces flagged⟩
      advanced := .ofFn setting.mesh.extendedGrid currentFields
        (setting.mesh.stepped stage dt now first repaired) } := by
  intro solved predicted flagged repaired
  have solves := solveActive_ofFn covered enough someField now first w f trial flag source
  have applied := FluxCorrection.apply_ofFn covered enough someField small predictable stage dt now
    first w solved source trial flag
  have advanced := setting.mesh.advance_stepped someState room small stage dt now first repaired
  unfold runActive
  rw [solves]
  dsimp only [bind, Except.bind, ofFn]
  rw [applied]
  dsimp only
  rw [advanced]
  rfl

end Tables

end StageData

end BlockHydro
