import BlockHydro.Proofs.Stage.CorrectionEffect
import BlockHydro.Proofs.Stage.RowAgreement
import BlockHydro.ShockTube.Run

/-!
# Stages and steps of a run

`Simulation.Holds` says which states a run in progress holds, and that its other
data have the right shapes.  From such a run every stage completes, and leaves
the states that `RowData` describes.  The fluxes, predictions and flags of the
stage before are overwritten without having been read.
-/

namespace BlockHydro

variable {R : Type} [Scalar R]

omit [Scalar R] in
/-- A state fills a zone of five fields. -/
theorem Conserved.writeTo_five (state : Conserved R) (before : Vector R 5) :
    state.writeTo before = state.toFields := by
  ext field inside
  exact getElem_overwrite state.toFields before inside inside

section Passes

variable {mesh : Mesh R} {eos : EquationOfState R} {numBlocks length : Nat}

omit [Scalar R] in
theorem Setting.flat_covered (mesh : Mesh R) (eos : EquationOfState R) :
    (Setting.flat mesh eos).Covered := by
  intro field given
  cases given

/-- A run in progress that holds given states over a mesh in flat space. -/
structure Simulation.Holds (simulation : Simulation R) (tube : ShockTube R) (mesh : Mesh R)
    (eos : EquationOfState R) (w u : Zone → Vector R 5) : Prop where
  problem_eq : simulation.problem = tube
  setting_eq : simulation.setting = .flat mesh eos
  primitive_eq : simulation.primitive = .ofFn mesh.extendedGrid 5 w
  conserved_eq : simulation.conserved = .ofFn mesh.extendedGrid 5 u
  fluxes_span : simulation.fluxes.Spans mesh 5
  correction_fits : simulation.correction.Fits mesh

namespace RowData

variable (data : RowData R) (eos) (stage : StageWeights R) (dt : R)

omit [Scalar R] in
/-- On a row only the fluxes along it are stored. -/
theorem fluxes_of_row (row : mesh.IsRow numBlocks length) {f : Axis → Zone → Vector R 5}
    {flux : Zone → Vector R 5} (same : ∀ face ∈ mesh.faceGrid .i, f .i face = flux face) :
    Fluxes.ofFn mesh 5 f = .ofFn mesh 5 fun _ => flux := by
  apply Fluxes.ofFn_congr
  intro axis active face inside
  have along : axis = .i := by
    have member := Mesh.mem_activeAxes.mpr active
    rwa [row.activeAxes_eq, List.mem_singleton] at member
  subst along
  exact same face inside

/-- The flux pass leaves the two-wave fluxes of the row and counts its faces. -/
theorem solve_eq_ok (row : mesh.IsRow numBlocks length) (f : Axis → Zone → Vector R 5) :
    (Fluxes.ofFn mesh 5 f).solve (.flat mesh eos) [.ofCells mesh data.primitive .i] =
      .ok (.ofFn mesh 5 fun _ => data.solved mesh eos,
        Fluxes.axisTally (.flat mesh eos) data.primitive .i) := by
  have alongRow : ∀ axis ∈ [Axis.i], (Setting.flat mesh eos).mesh.isActive axis = true := by
    intro axis member
    rw [List.mem_singleton.mp member]
    rfl
  have solved := Fluxes.solve_ofFn (Setting.flat_covered mesh eos) (by decide) (by decide)
    data.primitive alongRow f
  simp only [Setting.mesh_flat, List.map_cons, List.map_nil] at solved
  have stored : (Fluxes.ofFn mesh 5 fun axis =>
      if axis ∈ [Axis.i] then Fluxes.solvedFluxes (.flat mesh eos) data.primitive axis (f axis)
      else f axis) = .ofFn mesh 5 fun _ => data.solved mesh eos :=
    fluxes_of_row row fun face _ => by
      rw [if_pos (List.mem_singleton_self Axis.i)]
      exact Conserved.writeTo_five _ _
  rw [stored] at solved
  rw [solved, List.foldl_cons, List.foldl_nil, FluxTally.zero_add]

/-- The correction pass leaves the corrected fluxes of the row, and counts its bad cells and the
faces that it corrects. -/
theorem apply_eq_ok (row : mesh.IsRow numBlocks length) {correction : FluxCorrection R}
    (fits : correction.Fits mesh) :
    ∃ after made, correction.apply (.flat mesh eos) stage dt
        (.ofFn mesh.extendedGrid 5 data.conserved) (.ofFn mesh.extendedGrid 5 data.start)
        (.ofFn mesh.extendedGrid 5 data.primitive)
        (.ofFn mesh 5 fun _ => data.solved mesh eos) (mesh.chained .i) =
          .ok (after, .ofFn mesh 5 fun _ => data.corrected mesh eos stage dt, made) ∧
      after.Fits mesh ∧
      made.flaggedCells = mesh.interiorGrid.zones.countP (data.bad mesh eos stage dt) ∧
      made.correctedFaces = mesh.touchedFaces (data.flagged mesh eos stage dt) := by
  obtain ⟨trial, flag, rfl⟩ := fits.exists_eq_ofFn
  have applied := FluxCorrection.apply_ofFn (Setting.flat_covered mesh eos) (by decide) (by decide)
    (Nat.le_refl 5) (Nat.le_refl 5) stage dt data.conserved data.start data.primitive
    (fun _ => data.solved mesh eos) (mesh.chained .i) trial flag
  simp only [Setting.mesh_flat] at applied
  have sameBad : FluxCorrection.bad (.flat mesh eos) (mesh.predicted stage dt (Nat.le_refl 5)
      data.conserved data.start (fun _ => data.solved mesh eos) trial) = data.bad mesh eos stage dt :=
    funext fun cell => FluxCorrection.bad_predicted (.inl rfl) (Nat.le_refl 5) (Nat.le_refl 5) stage
      dt data.conserved data.start _ trial cell
  have stored : (Fluxes.ofFn mesh 5 fun axis => (Setting.flat mesh eos).repairedFlux data.primitive
      (data.flagged mesh eos stage dt) axis (data.solved mesh eos)) =
      .ofFn mesh 5 fun _ => data.corrected mesh eos stage dt :=
    fluxes_of_row row fun face _ => by
      unfold Setting.repairedFlux corrected
      rw [Conserved.writeTo_five]
  rw [sameBad] at applied
  change _ = Except.ok (_, Fluxes.ofFn mesh 5 fun axis => (Setting.flat mesh eos).repairedFlux
    data.primitive (data.flagged mesh eos stage dt) axis (data.solved mesh eos), _) at applied
  rw [stored] at applied
  exact ⟨_, _, applied, FluxCorrection.fits_ofFn _ _, rfl, rfl⟩

end RowData

/-- The largest signal speed among states, in flat space. -/
def EquationOfState.fastest {numFields : Nat} (eos : EquationOfState R)
    (states : List (Vector R numFields)) : R :=
  states.foldl (fun fastest fields =>
    Scalar.max fastest (eos.maxSignalSpeed .minkowski (.read fields))) 0

theorem Setting.maxSignalSpeed_eq_ok {setting : Setting R} (primitive : Patch R)
    {entries : List (Zone × Vector R primitive.numFields)} (enough : 4 ≤ primitive.numFields)
    (listed : primitive.entries = .ok entries) :
    setting.maxSignalSpeed primitive = .ok (setting.eos.fastest
      ((entries.filter fun entry => entry.1.index ∈ setting.mesh.interior).map (·.2))) := by
  have reads : ∀ fastest : R, ∀ entry ∈ entries.filter fun entry =>
      entry.1.index ∈ setting.mesh.interior,
      (do
        let state ← Primitive.ofFields entry.2
        return Scalar.max fastest (setting.eos.maxSignalSpeed .minkowski state)) =
      (.ok (Scalar.max fastest (setting.eos.maxSignalSpeed .minkowski (.read entry.2))) :
        Except Fault R) := fun fastest entry _ => by
    rw [Primitive.ofFields_eq_ok enough]
    rfl
  unfold maxSignalSpeed EquationOfState.fastest
  rw [listed, List.foldl_map]
  exact foldlM_eq_ok reads 0

/-- The largest signal speed of a patch is that of its cells. -/
theorem Setting.maxSignalSpeed_ofFn {setting : Setting R} {numFields : Nat} (enough : 4 ≤ numFields)
    (w : Zone → Vector R numFields) :
    setting.maxSignalSpeed (.ofFn setting.mesh.extendedGrid numFields w) =
      .ok (setting.eos.fastest (setting.mesh.interiorGrid.zones.map w)) := by
  have listed : (Patch.ofFn setting.mesh.extendedGrid numFields w).entries =
      .ok (setting.mesh.extendedGrid.zones.map fun zone => (zone, w zone)) :=
    Patch.entries_ofFn (by omega) w
  refine (maxSignalSpeed_eq_ok (.ofFn setting.mesh.extendedGrid numFields w) enough listed).trans ?_
  have cells : ((setting.mesh.extendedGrid.zones.map fun zone => (zone, w zone)).filter
      fun entry => entry.1.index ∈ setting.mesh.interior).map (·.2) =
      setting.mesh.interiorGrid.zones.map w := by
    rw [List.filter_map, List.map_map, ← setting.mesh.filter_extendedGrid]
    rfl
  rw [← cells]
  rfl

namespace Simulation.Holds

variable {simulation : Simulation R} {tube : ShockTube R} {w u : Zone → Vector R 5}

/-- Solving the fluxes fills the guard zones and stores the two-wave fluxes. -/
theorem solveFluxes_eq_ok (holds : simulation.Holds tube mesh eos w u)
    (row : mesh.IsRow numBlocks length) (start : Zone → Vector R 5) :
    simulation.solveFluxes = .ok { simulation with
      primitive := .ofFn mesh.extendedGrid 5 (mesh.filled w)
      fluxes := .ofFn mesh 5 fun _ => RowData.solved ⟨mesh.filled w, u, start⟩ mesh eos
      fluxTally := simulation.fluxTally + Fluxes.axisTally (.flat mesh eos) (mesh.filled w) .i } := by
  obtain ⟨f, tabulated⟩ := holds.fluxes_span.exists_eq_ofFn
  have filled := Mesh.fillGuards_ofFn (by decide) w fun zone inside =>
    Mesh.extendedGrid_of_interiorGrid (row.rowSource_mem inside)
  have active : mesh.isActive .i = true := rfl
  have states := FaceStates.piecewiseConstant_ofFn (by decide) (mesh.filled w) active
  have solved := RowData.solve_eq_ok eos ⟨mesh.filled w, u, start⟩ row f
  unfold Simulation.solveFluxes
  rw [holds.setting_eq, holds.primitive_eq, tabulated, Setting.mesh_flat]
  dsimp only
  rw [filled]
  dsimp only [bind, Except.bind]
  rw [states]
  dsimp only
  rw [solved]
  rfl

/-- Correcting the fluxes stores those with which the stage updates the cells. -/
theorem correctFluxes_eq_ok {data : RowData R}
    (holds : simulation.Holds tube mesh eos data.primitive data.conserved)
    (row : mesh.IsRow numBlocks length) (stage : StageWeights R) (dt : R)
    (solved : simulation.fluxes = .ofFn mesh 5 fun _ => data.solved mesh eos) :
    ∃ after made, simulation.correctFluxes stage dt (.ofFn mesh.extendedGrid 5 data.start) =
        .ok { simulation with
          correction := after
          fluxes := .ofFn mesh 5 fun _ =>
            data.flux mesh eos stage dt tube.config.fluxCorrection
          report := simulation.report + made } ∧
      after.Fits mesh ∧
      (made.flaggedCells = if tube.config.fluxCorrection then
        mesh.interiorGrid.zones.countP (data.bad mesh eos stage dt) else 0) ∧
      made.correctedFaces = if tube.config.fluxCorrection then
        mesh.touchedFaces (data.flagged mesh eos stage dt) else 0 := by
  have asked : simulation.problem.config.fluxCorrection = tube.config.fluxCorrection := by
    rw [holds.problem_eq]
  unfold Simulation.correctFluxes
  rw [asked]
  cases tube.config.fluxCorrection with
  | false =>
    refine ⟨simulation.correction, .zero, ?_, holds.correction_fits, rfl, rfl⟩
    have unchanged : (fun _ : Axis => data.flux mesh eos stage dt false) =
        fun _ => data.solved mesh eos := rfl
    rw [unchanged, ← solved]
    rfl
  | true =>
    obtain ⟨after, made, applied, fits, counted⟩ :=
      data.apply_eq_ok eos stage dt row holds.correction_fits
    refine ⟨after, made, ?_, fits, counted⟩
    rw [holds.setting_eq, holds.conserved_eq, holds.primitive_eq, solved, Setting.mesh_flat, applied]
    rfl

/-- Running a stage completes, and leaves the states of the row after the stage. -/
theorem runStage_eq_ok (holds : simulation.Holds tube mesh eos w u)
    (row : mesh.IsRow numBlocks length) (start : Zone → Vector R 5) (stage : StageWeights R) (dt : R) :
    let data : RowData R := ⟨mesh.filled w, u, start⟩
    ∃ after, simulation.runStage dt (.ofFn mesh.extendedGrid 5 start) stage = .ok after ∧
      after.Holds tube mesh eos (data.nextPrimitive mesh eos stage dt tube.config.fluxCorrection)
        (data.nextConserved mesh eos stage dt tube.config.fluxCorrection) ∧
      after.iteration = simulation.iteration ∧ after.time = simulation.time ∧
      (after.report.flaggedCells = simulation.report.flaggedCells +
        if tube.config.fluxCorrection then
          mesh.interiorGrid.zones.countP (data.bad mesh eos stage dt) else 0) ∧
      (after.report.correctedFaces = simulation.report.correctedFaces +
        if tube.config.fluxCorrection then
          mesh.touchedFaces (data.flagged mesh eos stage dt) else 0) ∧
      after.fluxTally =
        simulation.fluxTally + Fluxes.axisTally (.flat mesh eos) data.primitive .i := by
  intro data
  have solves := holds.solveFluxes_eq_ok row start
  have solvedHolds : Simulation.Holds { simulation with
      primitive := .ofFn mesh.extendedGrid 5 data.primitive
      fluxes := .ofFn mesh 5 fun _ => data.solved mesh eos
      fluxTally := simulation.fluxTally + Fluxes.axisTally (.flat mesh eos) data.primitive .i }
      tube mesh eos data.primitive data.conserved :=
    ⟨holds.problem_eq, holds.setting_eq, rfl, holds.conserved_eq, Fluxes.spans_ofFn _,
      holds.correction_fits⟩
  obtain ⟨after, made, corrects, fits, flagged, repaired⟩ :=
    solvedHolds.correctFluxes_eq_ok row stage dt rfl
  dsimp only at corrects
  have advances := mesh.advance_ofFn (by decide) (Nat.le_refl 5) stage dt data.conserved data.start
    fun _ => data.flux mesh eos stage dt tube.config.fluxCorrection
  have recovers := Setting.recover_ofFn (Setting.flat_covered mesh eos) (by decide) (by decide)
    (data.nextConserved mesh eos stage dt tube.config.fluxCorrection) data.primitive
    (fun (diagnostic : RecoveryMode.floored = .diagnostic) => by cases diagnostic)
  have solves : simulation.solveFluxes = .ok { simulation with
      primitive := .ofFn mesh.extendedGrid 5 data.primitive
      fluxes := .ofFn mesh 5 fun _ => data.solved mesh eos
      fluxTally := simulation.fluxTally + Fluxes.axisTally (.flat mesh eos) data.primitive .i } :=
    solves
  unfold Simulation.runStage
  rw [solves]
  dsimp only [Except.mapError, bind, Except.bind]
  rw [corrects]
  dsimp only
  rw [holds.setting_eq, holds.conserved_eq, Setting.mesh_flat, advances]
  dsimp only
  have recovers : (Setting.flat mesh eos).recover .floored
      (.ofFn mesh.extendedGrid 5 (mesh.advanced stage dt (Nat.le_refl 5) data.conserved data.start
        fun _ => data.flux mesh eos stage dt tube.config.fluxCorrection))
      (.ofFn mesh.extendedGrid 5 data.primitive) =
      (.ofFn mesh.extendedGrid 5 (data.nextPrimitive mesh eos stage dt tube.config.fluxCorrection),
        .ok _) := recovers
  rw [recovers]
  exact ⟨_, rfl, ⟨holds.problem_eq, rfl, rfl, rfl, Fluxes.spans_ofFn _, fits⟩, rfl, rfl,
    congrArg (simulation.report.flaggedCells + ·) flagged,
    congrArg (simulation.report.correctedFaces + ·) repaired, rfl⟩

/-- The largest signal speed is found. -/
theorem maxSignalSpeed_eq_ok (holds : simulation.Holds tube mesh eos w u) :
    simulation.setting.maxSignalSpeed simulation.primitive =
      .ok (eos.fastest (mesh.interiorGrid.zones.map w)) := by
  rw [holds.setting_eq, holds.primitive_eq]
  exact Setting.maxSignalSpeed_ofFn (by decide) w

/-- The next step is found. -/
theorem timeStep_eq_ok (holds : simulation.Holds tube mesh eos w u) :
    simulation.timeStep = .ok (Scalar.min
      (tube.cfl * tube.cellSize / eos.fastest (mesh.interiorGrid.zones.map w))
      (tube.finalTime - simulation.time)) := by
  unfold Simulation.timeStep
  rw [holds.maxSignalSpeed_eq_ok, holds.problem_eq]
  rfl

/-- A step runs its stages and moves the clock on. -/
theorem step_eq_ok (holds : simulation.Holds tube mesh eos w u) {dt : R} {after : Simulation R}
    (found : simulation.timeStep = .ok dt)
    (ran : tube.config.integrator.stages.foldlM (fun current stage =>
      current.runStage dt (.ofFn mesh.extendedGrid 5 u) stage) simulation = .ok after) :
    simulation.step = .ok { after with
      iteration := simulation.iteration + 1
      time := simulation.time + dt } := by
  unfold Simulation.step
  rw [found, holds.problem_eq, holds.conserved_eq]
  dsimp only [Except.mapError, bind, Except.bind] at ran ⊢
  rw [ran]
  rfl

omit [Scalar R] in
theorem setClock (holds : simulation.Holds tube mesh eos w u) (iteration : Nat) (time : R) :
    Simulation.Holds { simulation with iteration, time } tube mesh eos w u :=
  ⟨holds.problem_eq, holds.setting_eq, holds.primitive_eq, holds.conserved_eq, holds.fluxes_span,
    holds.correction_fits⟩

/-- The stages of a step complete. -/
theorem runStages_completes (holds : simulation.Holds tube mesh eos w u)
    (row : mesh.IsRow tube.numBlocks length) (start : Zone → Vector R 5) (dt : R)
    (stages : List (StageWeights R)) :
    ∃ after w u, stages.foldlM (fun current stage =>
        current.runStage dt (.ofFn mesh.extendedGrid 5 start) stage) simulation = .ok after ∧
      after.Holds tube mesh eos w u := by
  obtain ⟨after, ran, w, u, afterHolds⟩ := foldlM_preserves
    (fun current : Simulation R => ∃ w u, current.Holds tube mesh eos w u)
    (fun current ⟨_, _, currentHolds⟩ stage _ =>
      have ⟨next, stepped, nextHolds, _⟩ := currentHolds.runStage_eq_ok row start stage dt
      ⟨next, stepped, _, _, nextHolds⟩)
    ⟨w, u, holds⟩
  exact ⟨after, w, u, ran, afterHolds⟩

/-- A step completes and moves the clock on by the step that was found. -/
theorem step_completes (holds : simulation.Holds tube mesh eos w u)
    (row : mesh.IsRow tube.numBlocks length) {dt : R} (found : simulation.timeStep = .ok dt) :
    ∃ after w u, simulation.step = .ok after ∧ after.Holds tube mesh eos w u ∧
      after.time = simulation.time + dt := by
  obtain ⟨after, w, u', ran, afterHolds⟩ :=
    holds.runStages_completes row u dt tube.config.integrator.stages
  exact ⟨_, w, u', holds.step_eq_ok found ran, afterHolds.setClock _ _, rfl⟩

end Simulation.Holds

end Passes

end BlockHydro
