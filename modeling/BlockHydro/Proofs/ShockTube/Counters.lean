import Mathlib.Tactic.Ring
import BlockHydro.Proofs.ShockTube.Start
import BlockHydro.Proofs.Stage.TouchedFaces

/-!
# The counters of a run

A stage solves every stored face once, so a run has solved, for each stage, one face
more than there are cells in every block.  A correction touches at least one and at
most four stored faces for every flagged cell.

`Simulation.Counted` is what the counters say after a number of stages.  Every stage
keeps it (`runStage_counted`), hence every step and every run; on the way it is shown
that a step always completes.
-/

namespace BlockHydro

variable {R : Type} [Scalar R] {tube : ShockTube R} {mesh : Mesh R} {eos : EquationOfState R}
  {length numBlocks stagesRun : Nat}

namespace Mesh.IsRow

omit [Scalar R] in
/-- Every block has one face more than cells. -/
theorem faceGrid_size (row : mesh.IsRow numBlocks length) :
    (mesh.faceGrid .i).size = numBlocks * (length + 1) := by
  have along : (mesh.faces .i).extent .i = length + 1 := by
    have cells : mesh.interior.upper.i - mesh.interior.lower.i = length := by
      have extent := mesh.interior.lower_add_extent .i
      rw [row.along] at extent
      simp only [PerAxis.get] at extent
      omega
    simp [faces, IndexSpace.faces, IndexSpace.growUpper, IndexSpace.extent, PerAxis.get,
      PerAxis.shift, PerAxis.modify]
    omega
  have across : (mesh.faces .i).extent .j = 1 := row.across
  have upright : (mesh.faces .i).extent .k = 1 := row.upright
  unfold Grid.size faceGrid IndexSpace.volume
  simp [along, across, upright, row.blocks]

omit [Scalar R] in
/-- Only the faces along a row are stored, so only they are touched. -/
theorem touchedFaces_eq (row : mesh.IsRow numBlocks length) (flag : Zone → Bool) :
    mesh.touchedFaces flag = (mesh.faceGrid .i).zones.countP (touches flag .i) := by
  simp [touchedFaces, row.activeAxes_eq]

end Mesh.IsRow

namespace Fluxes

/-- A flux pass counts no more faces as clipped than it counts. -/
theorem clipped_axisTally_le {stateFields : Nat} (setting : Setting R)
    (w : Zone → Vector R stateFields) (axis : Axis) :
    (axisTally setting w axis).clipped ≤ (axisTally setting w axis).faces := by
  unfold axisTally
  refine List.countP_le_length.trans (le_of_eq ?_)
  rw [Grid.zones_eq_map_memoryOrder, List.length_map]
  exact List.length_finRange

end Fluxes

namespace Simulation

/-- What the counters of a run say after a number of stages. -/
structure Counted (simulation : Simulation R) (tube : ShockTube R) (length stagesRun : Nat) :
    Prop where
  faces : simulation.fluxTally.faces = stagesRun * (tube.numBlocks * (length + 1))
  clipped : simulation.fluxTally.clipped ≤ simulation.fluxTally.faces
  uncorrected : tube.config.fluxCorrection = false →
    simulation.report.flaggedCells = 0 ∧ simulation.report.correctedFaces = 0
  flagged_le : simulation.report.flaggedCells ≤ simulation.report.correctedFaces
  corrected_le : simulation.report.correctedFaces ≤ 4 * simulation.report.flaggedCells

namespace Holds

variable {simulation : Simulation R} {w u : Zone → Vector R 5}

/-- A stage completes and keeps the counters right. -/
theorem runStage_counted (holds : simulation.Holds tube mesh eos w u)
    (row : mesh.IsRow tube.numBlocks length) (counted : simulation.Counted tube length stagesRun)
    (start : Zone → Vector R 5) (stage : StageWeights R) (dt : R) :
    ∃ after w u, simulation.runStage dt (.ofFn mesh.extendedGrid 5 start) stage = .ok after ∧
      after.Holds tube mesh eos w u ∧ after.Counted tube length (stagesRun + 1) := by
  obtain ⟨after, ran, afterHolds, _, _, flagged, corrected, tally⟩ :=
    holds.runStage_eq_ok row start stage dt
  refine ⟨after, _, _, ran, afterHolds, ?_⟩
  have clipped := Fluxes.clipped_axisTally_le (.flat mesh eos) (mesh.filled w) .i
  have solved : (Fluxes.axisTally (.flat mesh eos) (mesh.filled w) .i).faces =
      tube.numBlocks * (length + 1) := row.faceGrid_size
  have least := mesh.countP_bad_le_touches .i (RowData.bad ⟨mesh.filled w, u, start⟩ mesh eos stage dt)
  have most := mesh.countP_touches_le .i (RowData.bad ⟨mesh.filled w, u, start⟩ mesh eos stage dt)
  rw [row.touchedFaces_eq] at corrected
  constructor
  case faces => rw [tally, FluxTally.faces_add, solved, counted.faces, Nat.add_mul, Nat.one_mul]
  case clipped =>
    rw [tally, FluxTally.faces_add, FluxTally.clipped_add]
    exact Nat.add_le_add counted.clipped clipped
  case uncorrected =>
    intro off
    simp [flagged, corrected, off, counted.uncorrected off]
  case flagged_le =>
    rw [flagged, corrected]
    refine Nat.add_le_add counted.flagged_le ?_
    split
    · exact least
    · exact Nat.le_refl 0
  case corrected_le =>
    rw [flagged, corrected, Nat.mul_add]
    refine Nat.add_le_add counted.corrected_le ?_
    split
    · exact most
    · exact Nat.le_refl 0

/-- The stages of a step complete and keep the counters right. -/
theorem runStages_counted (row : mesh.IsRow tube.numBlocks length) (start : Zone → Vector R 5) (dt : R)
    (stages : List (StageWeights R)) (holds : simulation.Holds tube mesh eos w u)
    (counted : simulation.Counted tube length stagesRun) :
    ∃ after w u, stages.foldlM (fun current stage =>
        current.runStage dt (.ofFn mesh.extendedGrid 5 start) stage) simulation = .ok after ∧
      after.Holds tube mesh eos w u ∧ after.Counted tube length (stagesRun + stages.length) := by
  induction stages generalizing simulation w u stagesRun with
  | nil => exact ⟨simulation, w, u, rfl, holds, counted⟩
  | cons stage later ih =>
    obtain ⟨middle, w, u, ran, middleHolds, middleCounted⟩ :=
      holds.runStage_counted row counted start stage dt
    obtain ⟨after, w, u, ranLater, afterHolds, afterCounted⟩ := ih middleHolds middleCounted
    refine ⟨after, w, u, ?_, afterHolds, ?_⟩
    · rw [List.foldlM_cons, ran]
      exact ranLater
    · rwa [Nat.add_assoc, Nat.add_comm 1] at afterCounted

/-- A step completes, moves the clock on by the step that was found, and keeps the counters right. -/
theorem step_counted (holds : simulation.Holds tube mesh eos w u)
    (row : mesh.IsRow tube.numBlocks length) (counted : simulation.Counted tube length stagesRun) :
    ∃ dt after w u, simulation.timeStep = .ok dt ∧ simulation.step = .ok after ∧
      after.Holds tube mesh eos w u ∧ after.iteration = simulation.iteration + 1 ∧
      after.time = simulation.time + dt ∧
      after.Counted tube length
        (stagesRun + (tube.config.integrator.stages : List (StageWeights R)).length) := by
  have found := holds.timeStep_eq_ok
  obtain ⟨after, w, u, ran, afterHolds, afterCounted⟩ :=
    runStages_counted row u _ tube.config.integrator.stages holds counted
  exact ⟨_, _, w, u, found, holds.step_eq_ok found ran, afterHolds.setClock _ _, rfl, rfl,
    ⟨afterCounted.faces, afterCounted.clipped, afterCounted.uncorrected, afterCounted.flagged_le,
      afterCounted.corrected_le⟩⟩

/-- Any number of steps completes and keeps the counters right. -/
theorem steps_counted (row : mesh.IsRow tube.numBlocks length) (count : Nat)
    (holds : simulation.Holds tube mesh eos w u)
    (counted : simulation.Counted tube length stagesRun) :
    ∃ after, simulation.steps count = .ok after ∧
      after.iteration = simulation.iteration + count ∧
      after.Counted tube length
        (stagesRun + count * (tube.config.integrator.stages : List (StageWeights R)).length) := by
  induction count generalizing simulation w u stagesRun with
  | zero => exact ⟨simulation, rfl, rfl, by simpa using counted⟩
  | succ count ih =>
    obtain ⟨dt, middle, w, u, _, stepped, middleHolds, iteration, _, middleCounted⟩ :=
      holds.step_counted row counted
    obtain ⟨after, ran, laterIteration, afterCounted⟩ := ih middleHolds middleCounted
    refine ⟨after, ?_, ?_, ?_⟩
    · rw [steps, stepped]
      exact ran
    · rw [laterIteration, iteration]
      omega
    · rwa [Nat.add_assoc, Nat.add_comm _ (count * _), ← Nat.succ_mul] at afterCounted

end Holds

omit [Scalar R] in
/-- A run that has not taken a step has counted nothing. -/
theorem counted_of_start {first : Simulation R} (tally : first.fluxTally = .zero)
    (report : first.report = .zero) (tube : ShockTube R) (length : Nat) :
    first.Counted tube length 0 where
  faces := by rw [tally, Nat.zero_mul]; rfl
  clipped := by rw [tally]; decide
  uncorrected _ := by rw [report]; exact ⟨rfl, rfl⟩
  flagged_le := by rw [report]; decide
  corrected_le := by rw [report]; decide

end Simulation

/-- The counters of a run after a number of iterations. -/
structure ShockTube.Counters (tube : ShockTube R) (count : Nat) (after : Simulation R) : Prop where
  iteration : after.iteration = count
  faces : (after.fluxTally.faces : Int) =
    count * (tube.config.integrator.stages : List (StageWeights R)).length *
      (tube.numZones + tube.numBlocks)
  clipped : after.fluxTally.clipped ≤ after.fluxTally.faces
  uncorrected : tube.config.fluxCorrection = false →
    after.report.flaggedCells = 0 ∧ after.report.correctedFaces = 0
  corrected : tube.config.fluxCorrection = true →
    after.report.flaggedCells ≤ after.report.correctedFaces ∧
      after.report.correctedFaces ≤ 4 * after.report.flaggedCells

/-- A valid problem of zones that divide into its blocks starts, if they can be stored; and a run of
it that starts takes any number of iterations, each without error, and counts its faces. -/
theorem ShockTube.counters_of_iterations {eos : EquationOfState R}
    (valid : tube.config.validate = .ok eos) (someZone : 1 ≤ tube.numZones)
    (someBlock : 0 < tube.numBlocks) (divides : (tube.numBlocks : Int) ∣ tube.numZones) :
    (requireAddressable ((tube.numZones.toNat + 2 * tube.numBlocks) * 5) = .ok () →
      ∃ first, Simulation.start tube = .ok first) ∧
    ∀ first, Simulation.start tube = .ok first →
      ∀ count, ∃ after, first.steps count = .ok after ∧ tube.Counters count after := by
  constructor
  · exact exists_start valid someZone someBlock divides
  · intro first started count
    obtain ⟨splits, mesh, row, holds, iteration, _, report⟩ :=
      holds_of_start valid someZone someBlock divides started
    obtain ⟨after, ran, sameIteration, counted⟩ := holds.steps_counted row count
      (Simulation.counted_of_start (Simulation.fluxTally_of_start started) report tube _)
    refine ⟨after, ran, ?_⟩
    constructor
    case iteration => rw [sameIteration, iteration, Nat.zero_add]
    case faces =>
      rw [counted.faces, splits.zones]
      push_cast
      ring
    case clipped => exact counted.clipped
    case uncorrected => exact counted.uncorrected
    case corrected => exact fun _ => ⟨counted.flagged_le, counted.corrected_le⟩

/-- Four blocks of one cell each. -/
def lonelyCells : ShockTube Float where
  numZones := 4
  numBlocks := 4
  finalTime := 0.25
  cfl := 0.5
  config := .standard

/-- Cells that are alone in their blocks: each of the two stages of an iteration solves eight stored
faces, those between blocks in both of them. -/
theorem ShockTube.counters_of_lonelyCells : ∃ first, Simulation.start lonelyCells = .ok first ∧
    ∀ count, ∃ after, first.steps count = .ok after ∧ lonelyCells.Counters count after := by
  have valid : lonelyCells.config.validate =
      .ok ⟨.newtonian (.adiabatic (5.0 / 3.0)), .standard, .standard⟩ := rfl
  obtain ⟨starts, counts⟩ :=
    counters_of_iterations valid (by decide) (by decide) (by decide)
  obtain ⟨first, started⟩ := starts rfl
  exact ⟨first, started, counts first started⟩

end BlockHydro
