import BlockHydro.Proofs.Stage.Tables

/-!
# The flux pass over tabulated states

`Setting.faceFlux` is the two-wave solution between the two cells of a face.
`Fluxes.solve_ofFn` says that the flux pass succeeds on primitive states over
the extended boxes, and that it stores the flux of that solution at every face
of the axes it is given, however often an axis is given.
-/

namespace BlockHydro

/-- A list of readings that all succeed is read. -/
theorem mapM_eq_ok {α β ε : Type} {read : α → Except ε β} {value : α → β} {items : List α}
    (succeeds : ∀ item ∈ items, read item = .ok (value item)) :
    items.mapM read = .ok (items.map value) := by
  induction items with
  | nil => rfl
  | cons item later ih =>
    rw [List.mapM_cons, succeeds item List.mem_cons_self,
      ih fun other member => succeeds other (List.mem_cons_of_mem _ member)]
    rfl

variable {R : Type} [Scalar R] {setting : Setting R} {stateFields numFields : Nat}

namespace FaceStates

/-- The states of the two cells of every face. -/
def ofCells (mesh : Mesh R) (w : Zone → Vector R stateFields) (axis : Axis) : FaceStates R where
  axis
  left := .ofFn (mesh.faceGrid axis) stateFields fun face => w (face.shift (-1) axis)
  right := .ofFn (mesh.faceGrid axis) stateFields w

omit [Scalar R] in
theorem piecewiseConstant_eq_ok {mesh : Mesh R} {primitive left right : Patch R} {axis : Axis}
    (lower : Patch.tabulate ⟨primitive.grid.numBlocks, mesh.faces axis⟩ primitive.numFields
      (fun face => primitive.fields (face.shift (-1) axis)) = .ok left)
    (upper : Patch.tabulate ⟨primitive.grid.numBlocks, mesh.faces axis⟩ primitive.numFields
      primitive.fields = .ok right) :
    piecewiseConstant mesh primitive axis = .ok ⟨axis, left, right⟩ := by
  unfold piecewiseConstant
  dsimp only
  rw [lower, upper]
  rfl

omit [Scalar R] in
/-- The face states of an active axis are those of the cells. -/
theorem piecewiseConstant_ofFn {mesh : Mesh R} (someField : stateFields ≠ 0)
    (w : Zone → Vector R stateFields) {axis : Axis} (active : mesh.isActive axis = true) :
    piecewiseConstant mesh (.ofFn mesh.extendedGrid stateFields w) axis =
      .ok (ofCells mesh w axis) := by
  refine piecewiseConstant_eq_ok
    (Patch.tabulate_eq_ok (mesh.faceGrid axis) someField fun face inside => ?_)
    (Patch.tabulate_eq_ok (mesh.faceGrid axis) someField fun face inside => ?_)
  · exact Patch.fields_ofFn w (Mesh.lowerCell_mem active inside)
  · exact Patch.fields_ofFn w (Mesh.upperCell_mem active inside)

theorem solveFace_eq_ok (states : FaceStates R) {face : Zone} {metric : Metric R}
    {left : Vector R states.left.numFields} {right : Vector R states.right.numFields}
    (leftEnough : 4 ≤ states.left.numFields) (rightEnough : 4 ≤ states.right.numFields)
    (leftFound : states.left.fields face = .ok left)
    (rightFound : states.right.fields face = .ok right)
    (metricFound : MetricField.faceMetric setting.metric states.axis face = .ok metric) :
    states.solveFace setting face =
      .ok (setting.eos.twoWaveFlux states.axis metric (.read left) (.read right)) := by
  unfold solveFace
  rw [leftFound, rightFound, metricFound]
  dsimp only [bind, Except.bind]
  rw [Primitive.ofFields_eq_ok leftEnough, Primitive.ofFields_eq_ok rightEnough]
  rfl

/-- A face that is solved has its flux written, and is marked if a sound speed was clipped. -/
theorem solveKernel_eq_ok (states : FaceStates R) {face : Zone} {solution : TwoWaveFlux R}
    (solved : states.solveFace setting face = .ok solution) (before : Vector R numFields) :
    states.solveKernel setting face before =
      .ok (solution.flux.writeTo before, solution.clipped) := by
  unfold solveKernel
  rw [solved]
  rfl

end FaceStates

/-- The two-wave solution between the two cells of a face. -/
def Setting.faceFlux (setting : Setting R) (w : Zone → Vector R stateFields) (axis : Axis)
    (face : Zone) : TwoWaveFlux R :=
  setting.eos.twoWaveFlux axis (setting.faceGeometry axis face) (.read (w (face.shift (-1) axis)))
    (.read (w face))

/-- The solution at a face of an active axis is found. -/
theorem FaceStates.solveFace_ofCells (covered : setting.Covered) (enough : 4 ≤ stateFields)
    (w : Zone → Vector R stateFields) {axis : Axis} (active : setting.mesh.isActive axis = true)
    {face : Zone} (inside : face ∈ setting.mesh.faceGrid axis) :
    (ofCells setting.mesh w axis).solveFace setting face = .ok (setting.faceFlux w axis face) := by
  exact solveFace_eq_ok (ofCells setting.mesh w axis) enough enough
    (Patch.fields_ofFn _ inside) (Patch.fields_ofFn _ inside)
    (Setting.faceMetric_eq_ok covered (Mesh.lowerCell_mem active inside)
      (Mesh.upperCell_mem active inside))

theorem FaceStates.solveKernel_ofCells (covered : setting.Covered) (enough : 4 ≤ stateFields)
    (w : Zone → Vector R stateFields) {axis : Axis} (active : setting.mesh.isActive axis = true)
    {face : Zone} (inside : face ∈ setting.mesh.faceGrid axis) (before : Vector R numFields) :
    (ofCells setting.mesh w axis).solveKernel setting face before =
      .ok ((setting.faceFlux w axis face).flux.writeTo before,
        (setting.faceFlux w axis face).clipped) :=
  solveKernel_eq_ok _ (solveFace_ofCells covered enough w active inside) before

namespace FluxTally

theorem faces_add (left right : FluxTally) : (left + right).faces = left.faces + right.faces := rfl

theorem clipped_add (left right : FluxTally) :
    (left + right).clipped = left.clipped + right.clipped :=
  rfl

theorem zero_add (tally : FluxTally) : .zero + tally = tally := by
  cases tally
  change mk (0 + _) (0 + _) = _
  rw [Nat.zero_add, Nat.zero_add]

end FluxTally

namespace Fluxes

theorem solveAxis_eq_ok {fluxes : Fluxes R} (states : FaceStates R) {patch solved : Patch R}
    {clipped : Nat} (found : fluxes.along states.axis = some patch)
    (updated : patch.update (states.solveKernel setting) = .ok (solved, clipped)) :
    fluxes.solveAxis setting states =
      .ok (fluxes.replace states.axis solved, ⟨patch.grid.size, clipped⟩) := by
  unfold solveAxis
  rw [found]
  dsimp only
  rw [updated]
  rfl

theorem solveAxis_of_inactive {fluxes : Fluxes R} {states : FaceStates R}
    (missing : fluxes.along states.axis = none) :
    fluxes.solveAxis setting states = .ok (fluxes, .zero) := by
  unfold solveAxis
  rw [missing]
  rfl

/-- An axis whose faces can all be solved is solved; all its faces are counted, and those with a mark
as clipped. -/
theorem Spans.solveAxis_of_faces {fluxes : Fluxes R} (spans : fluxes.Spans setting.mesh numFields)
    (someField : numFields ≠ 0) {states : FaceStates R}
    (active : setting.mesh.isActive states.axis = true) (mark : Zone → Bool)
    (solves : ∀ face ∈ setting.mesh.faceGrid states.axis,
      ∃ solution, states.solveFace setting face = .ok solution ∧ solution.clipped = mark face) :
    ∃ after, fluxes.solveAxis setting states =
        .ok (after, ⟨(setting.mesh.faceGrid states.axis).size,
          (setting.mesh.faceGrid states.axis).zones.countP mark⟩) ∧
      after.Spans setting.mesh numFields := by
  obtain ⟨f, rfl⟩ := spans.exists_eq_ofFn
  have kernel : ∀ face, ∃ after, face ∈ setting.mesh.faceGrid states.axis →
      states.solveKernel setting face (f states.axis face) = .ok (after, mark face) := by
    intro face
    by_cases inside : face ∈ setting.mesh.faceGrid states.axis
    · obtain ⟨solution, solved, marked⟩ := solves face inside
      exact ⟨_, fun _ => marked ▸ states.solveKernel_eq_ok solved (f states.axis face)⟩
    · exact ⟨f states.axis face, fun member => absurd member inside⟩
  choose written writes using kernel
  refine ⟨_, solveAxis_eq_ok states (along_ofFn active f) (Patch.update_ofFn someField writes), ?_⟩
  rw [replace_ofFn active]
  exact spans_ofFn _

/-- What holds before the flux pass and is kept by solving any of its axes holds after it. -/
theorem solve_preserves {fluxes : Fluxes R} {given : List (FaceStates R)}
    (Kept : Fluxes R → FluxTally → Prop)
    (keeps : ∀ before tally, Kept before tally → ∀ states ∈ given, ∃ next counted,
      before.solveAxis setting states = .ok (next, counted) ∧ Kept next (tally + counted))
    (kept : Kept fluxes .zero) :
    ∃ after tally, fluxes.solve setting given = .ok (after, tally) ∧ Kept after tally := by
  have solves : ∃ result, fluxes.solve setting given = .ok result ∧ Kept result.1 result.2 := by
    refine foldlM_preserves (fun state : Fluxes R × FluxTally => Kept state.1 state.2) ?_ kept
    rintro ⟨before, tally⟩ beforeKept states member
    obtain ⟨next, counted, solved, nextKept⟩ := keeps before tally beforeKept states member
    refine ⟨(next, tally + counted), ?_, nextKept⟩
    dsimp only
    rw [solved]
    rfl
  obtain ⟨⟨after, tally⟩, solved, afterKept⟩ := solves
  exact ⟨after, tally, solved, afterKept⟩

/-- What the flux pass counts on an axis: all its faces, and those with a clipped sound speed. -/
def axisTally (setting : Setting R) (w : Zone → Vector R stateFields) (axis : Axis) : FluxTally where
  faces := (setting.mesh.faceGrid axis).size
  clipped := (setting.mesh.faceGrid axis).zones.countP fun face =>
    (setting.faceFlux w axis face).clipped

/-- The new fluxes of an axis that is solved. -/
def solvedFluxes (setting : Setting R) (w : Zone → Vector R stateFields) (axis : Axis)
    (before : Zone → Vector R numFields) (face : Zone) : Vector R numFields :=
  (setting.faceFlux w axis face).flux.writeTo (before face)

/-- Solving the faces of an active axis stores their fluxes. -/
theorem solveAxis_ofFn (covered : setting.Covered) (enough : 4 ≤ stateFields)
    (someField : numFields ≠ 0) (w : Zone → Vector R stateFields) {axis : Axis}
    (active : setting.mesh.isActive axis = true) (f : Axis → Zone → Vector R numFields) :
    (ofFn setting.mesh numFields f).solveAxis setting (.ofCells setting.mesh w axis) =
      .ok (ofFn setting.mesh numFields fun other =>
        if other = axis then solvedFluxes setting w axis (f axis) else f other,
        axisTally setting w axis) := by
  have solved : (Patch.ofFn (setting.mesh.faceGrid axis) numFields (f axis)).update
      ((FaceStates.ofCells setting.mesh w axis).solveKernel setting) =
      .ok (.ofFn (setting.mesh.faceGrid axis) numFields (solvedFluxes setting w axis (f axis)),
        (axisTally setting w axis).clipped) :=
    Patch.update_ofFn someField fun face inside =>
      FaceStates.solveKernel_ofCells covered enough w active inside (f axis face)
  rw [← replace_ofFn active]
  exact solveAxis_eq_ok (.ofCells setting.mesh w axis) (along_ofFn active f) solved

/-- The flux pass stores the fluxes of the axes that it is given. -/
theorem solve_ofFn (covered : setting.Covered) (enough : 4 ≤ stateFields)
    (someField : numFields ≠ 0) (w : Zone → Vector R stateFields) {axes : List Axis}
    (active : ∀ axis ∈ axes, setting.mesh.isActive axis = true)
    (f : Axis → Zone → Vector R numFields) :
    (ofFn setting.mesh numFields f).solve setting (axes.map (.ofCells setting.mesh w)) =
      .ok (ofFn setting.mesh numFields fun axis =>
        if axis ∈ axes then solvedFluxes setting w axis (f axis) else f axis,
        axes.foldl (fun tally axis => tally + axisTally setting w axis) .zero) := by
  unfold solve
  rw [List.foldlM_map]
  refine foldlM_ofFn (solvedFluxes setting w) _ (fun axis member f tally => ?_)
    (fun axis f => funext fun face => overwrite_overwrite _ _) f FluxTally.zero
  dsimp only
  rw [solveAxis_ofFn covered enough someField w (active axis member)]
  rfl

end Fluxes

end BlockHydro
