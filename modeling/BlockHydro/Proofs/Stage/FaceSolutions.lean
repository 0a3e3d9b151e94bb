import BlockHydro.Proofs.Stage.CorrectionEffect
import BlockHydro.Proofs.Stage.FluxPass

/-!
# The fluxes and counts of a flux pass

`Setting.solutionAt` reads two cells of a patch and solves the problem between
them in the mean of their metrics.  A flux pass stores at every face of the axes
it is given the solution between the two cells of the face, and leaves the other
axes alone; each mention of an axis counts its faces and its clipped solutions
again (`Fluxes.solve_stores_solutions`).
-/

namespace BlockHydro

variable {R : Type} [Scalar R] {setting : Setting R} {numFields : Nat}

/-- The mean of the metrics of the two cells of a face; space is flat where no metric is given. -/
def Setting.meanMetric (setting : Setting R) (axis : Axis) (face : Zone) :
    Except Fault (Metric R) :=
  match setting.metric with
  | none => .ok .minkowski
  | some field => do
    let left ← field.cells.get (face.shift (-1) axis)
    let right ← field.cells.get face
    return left.average right

/-- The solution between the two cells of a face in the mean of their metrics. -/
def Setting.solutionAt (setting : Setting R) (primitive : Patch R) (axis : Axis) (face : Zone) :
    Except Fault (TwoWaveFlux R) := do
  let left ← Primitive.ofFields (← primitive.fields (face.shift (-1) axis))
  let right ← Primitive.ofFields (← primitive.fields face)
  let metric ← setting.meanMetric axis face
  return setting.eos.twoWaveFlux axis metric left right

/-- Whether a sound speed is clipped at a face. -/
def Setting.clipsAt (setting : Setting R) (primitive : Patch R) (axis : Axis) (face : Zone) : Bool :=
  (setting.solutionAt primitive axis face).toOption.any (·.clipped)

/-- What a flux pass over the listed axes leaves behind and counts. -/
structure FluxesSolved (setting : Setting R) (numFields : Nat) (primitive : Patch R)
    (axes : List Axis) (before after : Fluxes R) (tally : FluxTally) : Prop where
  spans : after.Spans setting.mesh numFields
  /-- A face of a listed axis has the flux between its two cells. -/
  stored : ∀ axis ∈ axes, ∀ face ∈ setting.mesh.faceGrid axis, ∃ solution,
    setting.solutionAt primitive axis face = .ok solution ∧
      ∀ field : Fin 5, field < numFields →
        after.value? axis face field = some (solution.flux.toFields.get field)
  /-- The other axes have the fluxes they had. -/
  kept : ∀ axis, axis ∉ axes → after.along axis = before.along axis
  faces : tally.faces =
    (axes.map fun axis => setting.mesh.numBlocks * (setting.mesh.faces axis).volume).sum
  clipped : tally.clipped = (axes.map fun axis =>
    (setting.mesh.faceGrid axis).zones.countP (setting.clipsAt primitive axis)).sum

theorem Setting.meanMetric_eq_ok (covered : setting.Covered) {axis : Axis} {face : Zone}
    (lower : face.shift (-1) axis ∈ setting.mesh.extendedGrid)
    (upper : face ∈ setting.mesh.extendedGrid) :
    setting.meanMetric axis face = .ok (setting.faceGeometry axis face) := by
  have found := faceMetric_eq_ok covered lower upper
  unfold MetricField.faceMetric at found
  unfold meanMetric
  cases given : setting.metric with
  | none => rwa [given] at found
  | some field => rwa [given] at found

theorem Setting.solutionAt_eq_ok (primitive : Patch R) {axis : Axis} {face : Zone}
    {metric : Metric R} {left right : Vector R primitive.numFields}
    (enough : 4 ≤ primitive.numFields)
    (leftFound : primitive.fields (face.shift (-1) axis) = .ok left)
    (rightFound : primitive.fields face = .ok right)
    (metricFound : setting.meanMetric axis face = .ok metric) :
    setting.solutionAt primitive axis face =
      .ok (setting.eos.twoWaveFlux axis metric (.read left) (.read right)) := by
  unfold solutionAt
  rw [leftFound, rightFound, metricFound]
  dsimp only [bind, Except.bind]
  rw [Primitive.ofFields_eq_ok enough, Primitive.ofFields_eq_ok enough]
  rfl

/-- The solution at a face of an active axis is found. -/
theorem Setting.solutionAt_ofFn (covered : setting.Covered) (enough : 4 ≤ numFields)
    (w : Zone → Vector R numFields) {axis : Axis} (active : setting.mesh.isActive axis = true)
    {face : Zone} (inside : face ∈ setting.mesh.faceGrid axis) :
    setting.solutionAt (.ofFn setting.mesh.extendedGrid numFields w) axis face =
      .ok (setting.faceFlux w axis face) := by
  have lower := Mesh.lowerCell_mem active inside
  have upper := Mesh.upperCell_mem active inside
  exact solutionAt_eq_ok (.ofFn setting.mesh.extendedGrid numFields w) enough
    (Patch.fields_ofFn w lower) (Patch.fields_ofFn w upper) (meanMetric_eq_ok covered lower upper)

/-- A face is counted as clipped if its solution is. -/
theorem Setting.clipsAt_ofFn (covered : setting.Covered) (enough : 4 ≤ numFields)
    (w : Zone → Vector R numFields) {axis : Axis} (active : setting.mesh.isActive axis = true)
    {face : Zone} (inside : face ∈ setting.mesh.faceGrid axis) :
    setting.clipsAt (.ofFn setting.mesh.extendedGrid numFields w) axis face =
      (setting.faceFlux w axis face).clipped := by
  unfold clipsAt
  rw [solutionAt_ofFn covered enough w active inside]
  rfl

/-- A tally adds up what is counted on each axis, face by face and clipped face by clipped face. -/
theorem FluxTally.foldl_add (counted : Axis → FluxTally) (axes : List Axis) (start : FluxTally) :
    axes.foldl (fun tally axis => tally + counted axis) start =
      ⟨start.faces + (axes.map fun axis => (counted axis).faces).sum,
        start.clipped + (axes.map fun axis => (counted axis).clipped).sum⟩ := by
  induction axes generalizing start with
  | nil => rfl
  | cons axis later ih =>
    simp only [List.foldl_cons, ih, List.map_cons, List.sum_cons, FluxTally.faces_add,
      FluxTally.clipped_add, Nat.add_assoc]

namespace Fluxes

/-- The flux that is stored at a face of a listed axis is that of the solution there. -/
theorem value?_solved (w : Zone → Vector R numFields) (f : Axis → Zone → Vector R numFields)
    {axes : List Axis} {axis : Axis} (listed : axis ∈ axes)
    (active : setting.mesh.isActive axis = true) {face : Zone}
    (inside : face ∈ setting.mesh.faceGrid axis) (field : Fin 5) (stored : field < numFields) :
    (ofFn setting.mesh numFields fun axis =>
        if axis ∈ axes then solvedFluxes setting w axis (f axis) else f axis).value? axis face field =
      some ((setting.faceFlux w axis face).flux.toFields.get field) := by
  rw [value?_ofFn _ active inside stored, if_pos listed]
  exact congrArg some (getElem_overwrite _ _ stored field.isLt)

/-- The flux pass over the states of the cells solves every face of the listed axes between its two
cells, and counts it each time its axis is listed. -/
theorem solve_stores_solutions (covered : setting.Covered) (enough : 4 ≤ numFields)
    {primitive : Patch R} (cells : primitive.Spans setting.mesh.extendedGrid numFields)
    {fluxes : Fluxes R} (faces : fluxes.Spans setting.mesh numFields) {axes : List Axis}
    (active : ∀ axis ∈ axes, setting.mesh.isActive axis = true) :
    ∃ states solved tally,
      axes.mapM (FaceStates.piecewiseConstant setting.mesh primitive) = .ok states ∧
        fluxes.solve setting states = .ok (solved, tally) ∧
        FluxesSolved setting numFields primitive axes fluxes solved tally := by
  obtain ⟨w, rfl⟩ := cells.exists_eq_ofFn
  obtain ⟨f, rfl⟩ := faces.exists_eq_ofFn
  have someField : numFields ≠ 0 := by omega
  refine ⟨_, _, _,
    mapM_eq_ok fun axis listed => FaceStates.piecewiseConstant_ofFn someField w (active axis listed),
    solve_ofFn covered enough someField w active f, ?_⟩
  rw [FluxTally.foldl_add]
  constructor
  case spans => exact spans_ofFn _
  case stored =>
    intro axis listed face inside
    exact ⟨_, Setting.solutionAt_ofFn covered enough w (active axis listed) inside, fun field stored =>
      value?_solved w f listed (active axis listed) inside field stored⟩
  case kept =>
    intro axis unlisted
    by_cases isActive : setting.mesh.isActive axis = true
    · rw [along_ofFn isActive, along_ofFn isActive, if_neg unlisted]
    · have inactive := Bool.eq_false_iff.mpr isActive
      rw [along_ofFn_of_inactive inactive, along_ofFn_of_inactive inactive]
  case faces => exact Nat.zero_add _
  case clipped =>
    refine (Nat.zero_add _).trans (congrArg List.sum (List.map_congr_left fun axis listed => ?_))
    refine List.countP_congr fun face member => ?_
    rw [Setting.clipsAt_ofFn covered enough w (active axis listed) (Grid.mem_zones.mp member)]

/-- Two blocks of one by two cells. -/
def columnPair : Mesh Float where
  interior := ⟨⟨0, 0, 0⟩, ⟨1, 2, 1⟩, by decide⟩
  guardDepth := 1
  spacing := #[⟨1, 1, 1⟩, ⟨1, 1, 1⟩]
  lower_eq_zero := rfl
  guardDepth_pos := Nat.one_pos
  spacing_nonempty := Nat.two_pos

/-- An adiabatic gas in the columns, in flat space that is given as a metric. -/
def adiabaticColumns : Setting Float where
  mesh := columnPair
  eos := ⟨.newtonian (.adiabatic 1.4), .standard, .standard⟩
  metric := some (.minkowski columnPair.extendedGrid)

/-- Gas at rest, with a negative pressure in the lower cell of the second column. -/
def brokenColumns : Patch Float :=
  .ofFn columnPair.extendedGrid 5 fun zone =>
    if zone = ⟨1, ⟨0, 0, 0⟩⟩ then #v[1, 0, 0, 0, -5] else #v[1, 0, 0, 0, 1]

/-- Each column has three faces along its axis, and the negative pressure is next to two of them. -/
theorem counted_brokenColumns :
    ([.j, .j].mapM (FaceStates.piecewiseConstant columnPair brokenColumns) >>= fun states =>
      (zeros columnPair 5).solve adiabaticColumns states).map (·.2) = .ok ⟨12, 4⟩ := by
  decide +kernel

/-- An axis that is listed twice counts twice, and the fluxes of the other active axis stay zero. -/
theorem solve_stores_solutions_brokenColumns : ∃ states solved,
    [.j, .j].mapM (FaceStates.piecewiseConstant columnPair brokenColumns) = .ok states ∧
      (zeros columnPair 5).solve adiabaticColumns states = .ok (solved, ⟨12, 4⟩) ∧
      FluxesSolved adiabaticColumns 5 brokenColumns [.j, .j] (zeros columnPair 5) solved ⟨12, 4⟩ := by
  have covered : adiabaticColumns.Covered := by
    intro field given zone inside
    cases given
    exact inside
  have cells : brokenColumns.Spans columnPair.extendedGrid 5 := ⟨rfl, rfl⟩
  have active : ∀ axis ∈ [Axis.j, .j], columnPair.isActive axis = true := by decide
  obtain ⟨states, solved, tally, gathered, solves, effect⟩ :=
    solve_stores_solutions covered (by decide) cells (spans_zeros columnPair 5) active
  have counted := counted_brokenColumns
  have gathered : [.j, .j].mapM (FaceStates.piecewiseConstant columnPair brokenColumns) = .ok states :=
    gathered
  rw [gathered] at counted
  change ((zeros columnPair 5).solve adiabaticColumns states).map (·.2) = _ at counted
  rw [solves] at counted
  cases counted
  exact ⟨states, solved, gathered, solves, effect⟩

end Fluxes

end BlockHydro
