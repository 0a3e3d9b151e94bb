import BlockHydro.Proofs.Stage.CorrectionEffect
import BlockHydro.Proofs.Stage.FluxPass
import BlockHydro.Proofs.Stage.UpdatePass

/-!
# Sequences of passes

The passes of a stage read one another's results.  A `StageStore` holds what they
share, and a `StagePass` is one pass over it; reconstructed face states are kept,
and a flux pass may be given any of them.

No sequence of passes meets a fault.  The reason is in the shapes alone:
`StageStore.Shaped` asks nothing of the values, every pass completes on a store of
the right shapes and leaves one (`StagePass.run_shaped`), and so does every
sequence (`StagePass.runAll_shaped`).  A recovery that stops at an unphysical zone
has not met a fault; the sequence goes on with the states that it leaves.
-/

namespace BlockHydro

variable {R : Type}

/-- What the passes of a stage share. -/
structure StageStore (R : Type) where
  primitive : Patch R
  current : Patch R
  start : Patch R
  /-- All face states reconstructed so far, the latest first. -/
  states : List (FaceStates R)
  fluxes : Fluxes R
  correction : FluxCorrection R

/-- One pass of a stage. -/
inductive StagePass (R : Type) where
  | reconstruct (axis : Axis)
  /-- Solve the face states at the listed places, in that order. -/
  | solve (chosen : List Nat)
  | correct (stage : StageWeights R) (dt : R) (source : GuardSource)
  | advance (stage : StageWeights R) (dt : R)
  | recover (mode : RecoveryMode)
  | encode

section Runs

variable [Scalar R]

/-- The store before any pass. -/
def StageStore.initial (mesh : Mesh R) (numFields : Nat) (primitive current start : Patch R) :
    StageStore R :=
  ⟨primitive, current, start, [], .zeros mesh numFields, .initial mesh⟩

namespace StagePass

/-- Run one pass. -/
def run (setting : Setting R) (store : StageStore R) : StagePass R → Except Fault (StageStore R)
  | .reconstruct axis => do
    let states ← FaceStates.piecewiseConstant setting.mesh store.primitive axis
    return { store with states := states :: store.states }
  | .solve chosen => do
    let (fluxes, _) ← store.fluxes.solve setting (chosen.filterMap (store.states[·]?))
    return { store with fluxes }
  | .correct stage dt source => do
    let (correction, fluxes, _) ← store.correction.apply setting stage dt store.current store.start
      store.primitive store.fluxes source
    return { store with correction, fluxes }
  | .advance stage dt => do
    let current ← setting.mesh.advance stage dt store.fluxes store.current store.start
    return { store with current }
  | .recover mode =>
    match setting.recover mode store.current store.primitive with
    | (_, .error (.fault cause)) => .error cause
    | (primitive, _) => .ok { store with primitive }
  | .encode => do
    let current ← setting.encode store.primitive store.current
    return { store with current }

/-- Run passes one after another. -/
def runAll (setting : Setting R) (passes : List (StagePass R)) (store : StageStore R) :
    Except Fault (StageStore R) :=
  passes.foldlM (run setting) store

omit [Scalar R] in
/-- Face states are reconstructed along active axes only. -/
def AlongActive (mesh : Mesh R) : StagePass R → Prop
  | .reconstruct axis => mesh.isActive axis = true
  | _ => True

end StagePass

end Runs

section Shapes

/-- States on both sides of all faces of an active axis. -/
structure FaceStates.Spans (states : FaceStates R) (mesh : Mesh R) (numFields : Nat) : Prop where
  active : mesh.isActive states.axis = true
  left : states.left.Spans (mesh.faceGrid states.axis) numFields
  right : states.right.Spans (mesh.faceGrid states.axis) numFields

/-- A store for the cells and faces of a mesh, with the same number of fields throughout. -/
structure StageStore.Shaped (store : StageStore R) (mesh : Mesh R) (numFields : Nat) : Prop where
  primitive : store.primitive.Spans mesh.extendedGrid numFields
  current : store.current.Spans mesh.extendedGrid numFields
  start : store.start.Spans mesh.extendedGrid numFields
  states : ∀ states ∈ store.states, states.Spans mesh numFields
  fluxes : store.fluxes.Spans mesh numFields
  correction : store.correction.Fits mesh

end Shapes

/-- A sweep stops at an error of its kernel only. -/
theorem ZoneArray.kernel_error_of_sweepCells {α ε : Type} {grid : Grid}
    {kernel : Zone → α → Except ε (α × Bool)} {order : List (Fin grid.size)}
    {cells after : Vector α grid.size} {marked : Nat} {cause : ε}
    (stopped : sweepCells grid kernel order cells marked = (after, .error cause)) :
    ∃ zone ∈ grid, ∃ value, kernel zone value = .error cause := by
  induction order generalizing cells marked with
  | nil => cases stopped
  | cons first later ih =>
    rw [sweepCells] at stopped
    split at stopped
    next found =>
      cases stopped
      exact ⟨_, Grid.zoneAt_mem first.isLt, _, found⟩
    next => exact ih stopped

variable [Scalar R] {setting : Setting R} {numFields : Nat}

/-- Face states of the right shape are solved in every face. -/
theorem FaceStates.Spans.solveFace_completes {states : FaceStates R}
    (spans : states.Spans setting.mesh numFields) (covered : setting.Covered)
    (enough : 4 ≤ numFields) {face : Zone} (inside : face ∈ setting.mesh.faceGrid states.axis) :
    ∃ solution, states.solveFace setting face = .ok solution := by
  obtain ⟨left, leftFound⟩ := spans.left.fields_eq_ok inside
  obtain ⟨right, rightFound⟩ := spans.right.fields_eq_ok inside
  exact ⟨_, solveFace_eq_ok states (enough.trans_eq spans.left.numFields_eq.symm)
    (enough.trans_eq spans.right.numFields_eq.symm) leftFound rightFound
    (Setting.faceMetric_eq_ok covered (Mesh.lowerCell_mem spans.active inside)
      (Mesh.upperCell_mem spans.active inside))⟩

namespace Fluxes

/-- Solving one axis completes and keeps the shape of the fluxes. -/
theorem Spans.solveAxis_completes {fluxes : Fluxes R} (spans : fluxes.Spans setting.mesh numFields)
    (covered : setting.Covered) (enough : 4 ≤ numFields) {states : FaceStates R}
    (stated : states.Spans setting.mesh numFields) :
    ∃ after tally, fluxes.solveAxis setting states = .ok (after, tally) ∧
      after.Spans setting.mesh numFields := by
  let clipped (face : Zone) : Bool :=
    match states.solveFace setting face with
    | .ok solution => solution.clipped
    | .error _ => false
  obtain ⟨after, solved, kept⟩ := spans.solveAxis_of_faces (by omega) stated.active clipped
    fun face inside => by
      obtain ⟨solution, solved⟩ := stated.solveFace_completes covered enough inside
      exact ⟨solution, solved, by simp only [clipped, solved]⟩
  exact ⟨after, _, solved, kept⟩

/-- Solving any face states of the right shapes completes and keeps the shape of the fluxes. -/
theorem Spans.solve_completes {fluxes : Fluxes R} (spans : fluxes.Spans setting.mesh numFields)
    (covered : setting.Covered) (enough : 4 ≤ numFields) {given : List (FaceStates R)}
    (stated : ∀ states ∈ given, states.Spans setting.mesh numFields) :
    ∃ after tally, fluxes.solve setting given = .ok (after, tally) ∧
      after.Spans setting.mesh numFields := by
  refine solve_preserves (fun after _ => after.Spans setting.mesh numFields) ?_ spans
  intro before tally beforeSpans states member
  exact beforeSpans.solveAxis_completes covered enough (stated states member)

end Fluxes

namespace Setting

/-- Recovery replaces values and keeps the shape, wherever it stops. -/
theorem recover_spans {mode : RecoveryMode} (conserved : Patch R) {primitive : Patch R} {grid : Grid}
    (spans : primitive.Spans grid numFields) :
    (setting.recover mode conserved primitive).1.Spans grid numFields := by
  unfold recover
  split
  next => exact spans
  next => exact ⟨spans.grid_eq, spans.numFields_eq⟩

/-- Where the conserved states are stored, the recovery of a zone meets no fault. -/
theorem recoverKernel_ne_fault {mode : RecoveryMode} (covered : setting.Covered)
    (enough : 4 ≤ numFields) (u : Zone → Vector R numFields) {zone : Zone}
    (inside : zone ∈ setting.mesh.extendedGrid) {width : Nat} (before : Vector R width)
    (cause : Fault) :
    setting.recoverKernel mode (.ofFn setting.mesh.extendedGrid numFields u) zone before ≠
      .error (.fault cause) := by
  have found := conservedAt_eq_ok (.ofFn setting.mesh.extendedGrid numFields u) covered enough inside
    (Patch.fields_ofFn u inside)
  unfold recoverKernel
  split
  next =>
    rw [found]
    dsimp only [Except.mapError, bind, Except.bind]
    split
    all_goals intro equal; cases equal
  next => intro equal; cases equal

/-- Recovery of a patch meets no fault: it completes or names an unphysical zone. -/
theorem recover_ne_fault {mode : RecoveryMode} (covered : setting.Covered) (enough : 4 ≤ numFields)
    {conserved primitive : Patch R} (stored : conserved.Spans setting.mesh.extendedGrid numFields)
    (spans : primitive.Spans setting.mesh.extendedGrid numFields) (cause : Fault) :
    (setting.recover mode conserved primitive).2 ≠ .error (.fault cause) := by
  obtain ⟨u, rfl⟩ := stored.exists_eq_ofFn
  obtain ⟨sameGrid, sameFields⟩ := spans
  intro stopped
  rw [recover_eq_sweepOver _ _ (by omega)] at stopped
  obtain ⟨zone, inside, value, refused⟩ :=
    ZoneArray.kernel_error_of_sweepCells (Prod.ext rfl stopped)
  have inside : zone ∈ primitive.grid := inside
  rw [sameGrid] at inside
  exact recoverKernel_ne_fault covered enough u inside value cause refused

end Setting

section Completion

variable {primitive current start : Patch R} {fluxes : Fluxes R}

/-- Reconstruction along an active axis completes. -/
theorem FaceStates.piecewiseConstant_completes {mesh : Mesh R} (someField : numFields ≠ 0)
    (spans : primitive.Spans mesh.extendedGrid numFields) {axis : Axis}
    (active : mesh.isActive axis = true) :
    ∃ states, piecewiseConstant mesh primitive axis = .ok states ∧ states.Spans mesh numFields := by
  obtain ⟨w, rfl⟩ := spans.exists_eq_ofFn
  exact ⟨_, piecewiseConstant_ofFn someField w active, active, Patch.spans_ofFn _, Patch.spans_ofFn _⟩

/-- A correction pass completes, whatever stands for the guard zones. -/
theorem FluxCorrection.Fits.apply_completes {correction : FluxCorrection R}
    (fits : correction.Fits setting.mesh) (covered : setting.Covered) (enough : 4 ≤ numFields)
    (small : numFields ≤ 5) (currentSpans : current.Spans setting.mesh.extendedGrid numFields)
    (startSpans : start.Spans setting.mesh.extendedGrid numFields)
    (primitiveSpans : primitive.Spans setting.mesh.extendedGrid numFields)
    (fluxesSpan : fluxes.Spans setting.mesh numFields) (stage : StageWeights R) (dt : R)
    (source : GuardSource) :
    ∃ after repaired report,
      correction.apply setting stage dt current start primitive fluxes source =
        .ok (after, repaired, report) ∧
      after.Fits setting.mesh ∧ repaired.Spans setting.mesh numFields := by
  obtain ⟨trial, flag, rfl⟩ := fits.exists_eq_ofFn
  obtain ⟨now, rfl⟩ := currentSpans.exists_eq_ofFn
  obtain ⟨first, rfl⟩ := startSpans.exists_eq_ofFn
  obtain ⟨w, rfl⟩ := primitiveSpans.exists_eq_ofFn
  obtain ⟨f, rfl⟩ := fluxesSpan.exists_eq_ofFn
  exact ⟨_, _, _, apply_ofFn covered enough (by omega) small (Nat.min_le_right 5 numFields) stage dt
    now first w f source trial flag, fits_ofFn _ _, Fluxes.spans_ofFn _⟩

/-- A stage update completes. -/
theorem Mesh.advance_completes {mesh : Mesh R} (someField : numFields ≠ 0) (small : numFields ≤ 5)
    (currentSpans : current.Spans mesh.extendedGrid numFields)
    (startSpans : start.Spans mesh.extendedGrid numFields) (fluxesSpan : fluxes.Spans mesh numFields)
    (stage : StageWeights R) (dt : R) :
    ∃ after, mesh.advance stage dt fluxes current start = .ok after ∧
      after.Spans mesh.extendedGrid numFields := by
  obtain ⟨now, rfl⟩ := currentSpans.exists_eq_ofFn
  obtain ⟨first, rfl⟩ := startSpans.exists_eq_ofFn
  obtain ⟨f, rfl⟩ := fluxesSpan.exists_eq_ofFn
  exact ⟨_, mesh.advance_ofFn someField small stage dt now first f, Patch.spans_ofFn _⟩

/-- Writing the conserved states completes. -/
theorem Setting.encode_completes (covered : setting.Covered) (enough : 4 ≤ numFields)
    (primitiveSpans : primitive.Spans setting.mesh.extendedGrid numFields)
    (currentSpans : current.Spans setting.mesh.extendedGrid numFields) :
    ∃ after, setting.encode primitive current = .ok after ∧
      after.Spans setting.mesh.extendedGrid numFields := by
  obtain ⟨w, rfl⟩ := primitiveSpans.exists_eq_ofFn
  obtain ⟨u, rfl⟩ := currentSpans.exists_eq_ofFn
  exact ⟨_, encode_ofFn covered enough (by omega) w u, Patch.spans_ofFn _⟩

end Completion

namespace StageStore

theorem shaped_initial {mesh : Mesh R} {primitive current start : Patch R}
    (primitiveSpans : primitive.Spans mesh.extendedGrid numFields)
    (currentSpans : current.Spans mesh.extendedGrid numFields)
    (startSpans : start.Spans mesh.extendedGrid numFields) :
    (initial mesh numFields primitive current start).Shaped mesh numFields where
  primitive := primitiveSpans
  current := currentSpans
  start := startSpans
  states _ member := nomatch member
  fluxes := Fluxes.spans_zeros mesh numFields
  correction := FluxCorrection.fits_initial mesh

end StageStore

namespace StagePass

variable {store : StageStore R}

/-- A pass over a store of the right shapes completes and leaves one. -/
theorem run_shaped (covered : setting.Covered) (enough : 4 ≤ numFields) (small : numFields ≤ 5)
    (shaped : store.Shaped setting.mesh numFields) {pass : StagePass R}
    (along : pass.AlongActive setting.mesh) :
    ∃ after, run setting store pass = .ok after ∧ after.Shaped setting.mesh numFields := by
  have someField : numFields ≠ 0 := by omega
  cases pass with
  | reconstruct axis =>
    obtain ⟨states, completes, spans⟩ :=
      FaceStates.piecewiseConstant_completes someField shaped.primitive along
    refine ⟨{ store with states := states :: store.states }, ?_, { shaped with states := ?_ }⟩
    · rw [run, completes]
      rfl
    · intro other member
      obtain rfl | earlier := List.mem_cons.mp member
      · exact spans
      · exact shaped.states other earlier
  | solve chosen =>
    have stated : ∀ given ∈ chosen.filterMap (store.states[·]?),
        given.Spans setting.mesh numFields := by
      intro given member
      obtain ⟨place, _, found⟩ := List.mem_filterMap.mp member
      exact shaped.states given (List.mem_of_getElem? found)
    obtain ⟨fluxes, tally, completes, spans⟩ :=
      shaped.fluxes.solve_completes covered enough stated
    refine ⟨{ store with fluxes }, ?_, { shaped with fluxes := spans }⟩
    rw [run, completes]
    rfl
  | correct stage dt source =>
    obtain ⟨correction, fluxes, report, completes, fits, spans⟩ :=
      shaped.correction.apply_completes covered enough small shaped.current shaped.start
        shaped.primitive shaped.fluxes stage dt source
    refine ⟨{ store with correction, fluxes }, ?_,
      { shaped with correction := fits, fluxes := spans }⟩
    rw [run, completes]
    rfl
  | advance stage dt =>
    obtain ⟨current, completes, spans⟩ := Mesh.advance_completes someField small shaped.current
      shaped.start shaped.fluxes stage dt
    refine ⟨{ store with current }, ?_, { shaped with current := spans }⟩
    rw [run, completes]
    rfl
  | recover mode =>
    have spans : (setting.recover mode store.current store.primitive).1.Spans
        setting.mesh.extendedGrid numFields := Setting.recover_spans store.current shaped.primitive
    have noFault : ∀ cause,
        (setting.recover mode store.current store.primitive).2 ≠ .error (.fault cause) :=
      Setting.recover_ne_fault covered enough shaped.current shaped.primitive
    rw [run]
    generalize setting.recover mode store.current store.primitive = recovered at spans noFault
    obtain ⟨primitive, outcome⟩ := recovered
    refine ⟨{ store with primitive }, ?_, { shaped with primitive := spans }⟩
    split
    next stopped =>
      cases stopped
      exact absurd rfl (noFault _)
    next same =>
      cases same
      rfl
  | encode =>
    obtain ⟨current, completes, spans⟩ :=
      Setting.encode_completes covered enough shaped.primitive shaped.current
    refine ⟨{ store with current }, ?_, { shaped with current := spans }⟩
    rw [run, completes]
    rfl

/-- Any sequence of passes over a store of the right shapes completes and leaves one. -/
theorem runAll_shaped (covered : setting.Covered) (enough : 4 ≤ numFields) (small : numFields ≤ 5)
    {passes : List (StagePass R)} (along : ∀ pass ∈ passes, pass.AlongActive setting.mesh)
    (shaped : store.Shaped setting.mesh numFields) :
    ∃ after, runAll setting passes store = .ok after ∧ after.Shaped setting.mesh numFields := by
  exact foldlM_preserves (fun store : StageStore R => store.Shaped setting.mesh numFields)
    (fun _ shaped pass member => run_shaped covered enough small shaped (along pass member)) shaped

/-- Two blocks of two by one by three cells: the second axis is active, with one cell. -/
def slab : Mesh Float where
  interior := ⟨⟨0, 0, 0⟩, ⟨2, 1, 3⟩, by decide⟩
  guardDepth := 1
  spacing := #[⟨1, 1, 1⟩, ⟨1, 1, 1⟩]
  lower_eq_zero := rfl
  guardDepth_pos := Nat.one_pos
  spacing_nonempty := Nat.two_pos

/-- An adiabatic gas in the slab, in flat space that is given as a metric. -/
def adiabaticSlab : Setting Float :=
  ⟨slab, ⟨.newtonian (.adiabatic 1.4), .standard, .standard⟩, some (.minkowski slab.extendedGrid)⟩

/-- Every kind of pass, across the axis of one cell, in an order that no stage has. -/
def shuffledPasses : List (StagePass Float) :=
  [.recover .diagnostic, .solve [0], .reconstruct .j, .correct ⟨0, 1, 1⟩ 0.5 some, .reconstruct .i,
    .solve [1, 0, 1, 7], .advance ⟨0.5, 0.5, 1⟩ 0.5, .recover .floored, .reconstruct .j, .encode]

end StagePass

end BlockHydro
