import BlockHydro.Proofs.ShockTube.Start

/-!
# Independence of the decomposition into blocks

A run in blocks and the run of the same problem in one block stay in step: after
every number of steps they have come equally far, and every cell of a block holds
the state of the cell in its place of the undivided row.

`InStep` is the relation between the two runs.  It speaks about cells only,
because guard zones are filled anew at the start of every stage.  The start
establishes it, each stage preserves it, and so does each step.
-/

namespace BlockHydro

variable {R : Type} [Scalar R]

/-- The same problem in one block. -/
def ShockTube.undivided (tube : ShockTube R) : ShockTube R := { tube with numBlocks := 1 }

/-- A run in blocks and an undivided run that have come equally far, with agreeing states. -/
structure InStep (tube : ShockTube R) (eos : EquationOfState R) (many one : Mesh R) (length : Nat)
    (first second : Simulation R) (w u v x : Zone → Vector R 5) : Prop where
  first_holds : first.Holds tube many eos w u
  second_holds : second.Holds tube.undivided one eos v x
  primitive : ∀ cell ∈ many.interiorGrid, w cell = v (rowZone length cell)
  conserved : ∀ cell ∈ many.interiorGrid, u cell = x (rowZone length cell)
  iteration : first.iteration = second.iteration
  time : first.time = second.time
  flaggedCells : first.report.flaggedCells = second.report.flaggedCells

/-- What the runs of a problem in blocks and in one block have in common after as many steps. -/
structure SameSolution (tube : ShockTube R) (length : Nat) (first second : Simulation R) : Prop where
  iteration : first.iteration = second.iteration
  time : first.time = second.time
  timeStep : ∃ dt, first.timeStep = .ok dt ∧ second.timeStep = .ok dt
  unfinished : first.isUnfinished = second.isUnfinished
  flaggedCells : first.report.flaggedCells = second.report.flaggedCells
  primitive : ∀ block < tube.numBlocks, ∀ i < length, ∀ field < 5, ∃ value,
    first.primitive.get ⟨block, ⟨i, 0, 0⟩⟩ field = .ok value ∧
      second.primitive.get ⟨0, ⟨(block * length + i : Nat), 0, 0⟩⟩ field = .ok value
  conserved : ∀ block < tube.numBlocks, ∀ i < length, ∀ field < 5, ∃ value,
    first.conserved.get ⟨block, ⟨i, 0, 0⟩⟩ field = .ok value ∧
      second.conserved.get ⟨0, ⟨(block * length + i : Nat), 0, 0⟩⟩ field = .ok value

namespace InStep

variable {tube : ShockTube R} {eos : EquationOfState R} {many one : Mesh R} {length : Nat}
  {first second : Simulation R} {w u v x start other : Zone → Vector R 5}

/-- A stage of both runs that begins with agreeing states leaves them in step. -/
theorem runStage (inStep : InStep tube eos many one length first second w u v x)
    (split : SplitRow many one tube.numBlocks length)
    (starts : ∀ cell ∈ many.interiorGrid, start cell = other (rowZone length cell))
    (stage : StageWeights R) (dt : R) :
    ∃ nextFirst nextSecond w u v x,
      first.runStage dt (.ofFn many.extendedGrid 5 start) stage = .ok nextFirst ∧
      second.runStage dt (.ofFn one.extendedGrid 5 other) stage = .ok nextSecond ∧
      InStep tube eos many one length nextFirst nextSecond w u v x := by
  obtain ⟨nextFirst, ran, holds, iteration, time, flagged, _⟩ :=
    inStep.first_holds.runStage_eq_ok split.rows start stage dt
  obtain ⟨nextSecond, alsoRan, alsoHolds, sameIteration, sameTime, alsoFlagged, _⟩ :=
    inStep.second_holds.runStage_eq_ok split.row other stage dt
  have agree : RowData.Agree many length ⟨many.filled w, u, start⟩ ⟨one.filled v, x, other⟩ :=
    ⟨fun zone inside => filled_agree split inStep.primitive inside, inStep.conserved, starts⟩
  refine ⟨nextFirst, nextSecond, _, _, _, _, ran, alsoRan, holds, alsoHolds, ?_, ?_, ?_, ?_, ?_⟩
  · exact fun cell inside => agree.nextPrimitive split _ inside
  · exact fun cell inside => agree.nextConserved split _ inside
  · rw [iteration, sameIteration, inStep.iteration]
  · rw [time, sameTime, inStep.time]
  · rw [flagged, alsoFlagged, inStep.flaggedCells,
      countP_zones_agree split fun cell inside => agree.bad split inside]
    rfl

/-- The stages of a step leave the runs in step. -/
theorem runStages (split : SplitRow many one tube.numBlocks length)
    (starts : ∀ cell ∈ many.interiorGrid, start cell = other (rowZone length cell)) (dt : R)
    (stages : List (StageWeights R)) (inStep : InStep tube eos many one length first second w u v x) :
    ∃ nextFirst nextSecond w u v x,
      stages.foldlM (fun current stage =>
        current.runStage dt (.ofFn many.extendedGrid 5 start) stage) first = .ok nextFirst ∧
      stages.foldlM (fun current stage =>
        current.runStage dt (.ofFn one.extendedGrid 5 other) stage) second = .ok nextSecond ∧
      InStep tube eos many one length nextFirst nextSecond w u v x := by
  induction stages generalizing first second w u v x with
  | nil => exact ⟨first, second, w, u, v, x, rfl, rfl, inStep⟩
  | cons stage later ih =>
    obtain ⟨middle, alsoMiddle, w, u, v, x, ran, alsoRan, stays⟩ :=
      inStep.runStage split starts stage dt
    obtain ⟨nextFirst, nextSecond, w, u, v, x, runs, alsoRuns, still⟩ := ih stays
    refine ⟨nextFirst, nextSecond, w, u, v, x, ?_, ?_, still⟩
    · rw [List.foldlM_cons, ran]
      exact runs
    · rw [List.foldlM_cons, alsoRan]
      exact alsoRuns

/-- Both runs take the same next step. -/
theorem timeStep (inStep : InStep tube eos many one length first second w u v x)
    (split : SplitRow many one tube.numBlocks length) :
    ∃ dt, first.timeStep = .ok dt ∧ second.timeStep = .ok dt := by
  refine ⟨_, inStep.first_holds.timeStep_eq_ok, ?_⟩
  rw [inStep.second_holds.timeStep_eq_ok, inStep.time, map_zones_agree split inStep.primitive]
  rfl

/-- A step of both runs leaves them in step. -/
theorem step (inStep : InStep tube eos many one length first second w u v x)
    (split : SplitRow many one tube.numBlocks length) :
    ∃ nextFirst nextSecond w u v x,
      first.step = .ok nextFirst ∧ second.step = .ok nextSecond ∧
      InStep tube eos many one length nextFirst nextSecond w u v x := by
  obtain ⟨dt, found, alsoFound⟩ := inStep.timeStep split
  obtain ⟨nextFirst, nextSecond, w, u, v, x, ran, alsoRan, stays⟩ :=
    runStages split inStep.conserved dt tube.config.integrator.stages inStep
  refine ⟨_, _, w, u, v, x, inStep.first_holds.step_eq_ok found ran,
    inStep.second_holds.step_eq_ok alsoFound alsoRan, ?_⟩
  exact {
    first_holds := stays.first_holds.setClock _ _
    second_holds := stays.second_holds.setClock _ _
    primitive := stays.primitive
    conserved := stays.conserved
    iteration := congrArg (· + 1) inStep.iteration
    time := congrArg (· + dt) inStep.time
    flaggedCells := stays.flaggedCells }

/-- Any number of steps of both runs leaves them in step. -/
theorem steps (split : SplitRow many one tube.numBlocks length) (count : Nat)
    (inStep : InStep tube eos many one length first second w u v x) :
    ∃ nextFirst nextSecond w u v x,
      first.steps count = .ok nextFirst ∧ second.steps count = .ok nextSecond ∧
      InStep tube eos many one length nextFirst nextSecond w u v x := by
  induction count generalizing first second w u v x with
  | zero => exact ⟨first, second, w, u, v, x, rfl, rfl, inStep⟩
  | succ count ih =>
    obtain ⟨middle, alsoMiddle, w, u, v, x, stepped, alsoStepped, stays⟩ := inStep.step split
    obtain ⟨nextFirst, nextSecond, w, u, v, x, ran, alsoRan, still⟩ := ih stays
    refine ⟨nextFirst, nextSecond, w, u, v, x, ?_, ?_, still⟩
    · rw [Simulation.steps, stepped]
      exact ran
    · rw [Simulation.steps, alsoStepped]
      exact alsoRan

/-- Runs that are in step have the same solution. -/
theorem sameSolution (inStep : InStep tube eos many one length first second w u v x)
    (split : SplitRow many one tube.numBlocks length) :
    SameSolution tube length first second := by
  have cell : ∀ block < tube.numBlocks, ∀ i < length,
      (⟨block, ⟨i, 0, 0⟩⟩ : Zone) ∈ many.interiorGrid := by
    intro block known i inside
    rw [split.rows.mem_interiorGrid_iff]
    dsimp only
    omega
  have place : ∀ block i : Nat, rowZone length ⟨block, ⟨i, 0, 0⟩⟩ =
      ⟨0, ⟨(block * length + i : Nat), 0, 0⟩⟩ := by
    intro block i
    simp [rowZone]
  have agreeing : ∀ {f g : Zone → Vector R 5},
      (∀ cell ∈ many.interiorGrid, f cell = g (rowZone length cell)) →
      ∀ block < tube.numBlocks, ∀ i < length, ∀ field < 5, ∃ value,
        (Patch.ofFn many.extendedGrid 5 f).get ⟨block, ⟨i, 0, 0⟩⟩ field = .ok value ∧
          (Patch.ofFn one.extendedGrid 5 g).get ⟨0, ⟨(block * length + i : Nat), 0, 0⟩⟩ field =
            .ok value := by
    intro f g agree block known i inside field small
    have here := cell block known i inside
    have there := rowZone_mem_interiorGrid split.rows split.row here
    refine ⟨_, Patch.get_ofFn f (Mesh.extendedGrid_of_interiorGrid here) small, ?_⟩
    rw [← place, Patch.get_ofFn g (Mesh.extendedGrid_of_interiorGrid there) small, agree _ here]
  refine ⟨inStep.iteration, inStep.time, inStep.timeStep split, ?_, inStep.flaggedCells, ?_, ?_⟩
  · unfold Simulation.isUnfinished
    rw [inStep.first_holds.problem_eq, inStep.second_holds.problem_eq, inStep.time]
    rfl
  · rw [inStep.first_holds.primitive_eq, inStep.second_holds.primitive_eq]
    exact agreeing inStep.primitive
  · rw [inStep.first_holds.conserved_eq, inStep.second_holds.conserved_eq]
    exact agreeing inStep.conserved

end InStep

section Start

variable {tube : ShockTube R} {many one : Mesh R} {length : Nat}

/-- The meshes of a problem in blocks and in one block are a row and the undivided row. -/
theorem ShockTube.splitRow (rows : many.IsRow tube.numBlocks length)
    (row : one.IsRow 1 (tube.numBlocks * length))
    (spacings : many.spacing = Array.replicate tube.numBlocks ⟨tube.cellSize, 1, 1⟩)
    (spacing : one.spacing = Array.replicate 1 ⟨tube.cellSize, 1, 1⟩) :
    SplitRow many one tube.numBlocks length := by
  refine ⟨rows, row, fun block known => ?_⟩
  unfold Mesh.spacingAt
  rw [spacings, spacing]
  simp [known]

/-- A cell starts with the same state in its block and in the undivided row. -/
theorem ShockTube.initialFields_agree (rows : many.IsRow tube.numBlocks length) (zone : Zone) :
    tube.initialFields many zone = tube.undivided.initialFields one (rowZone length zone) := by
  have position : (zone.block : Int) * many.interior.extent .i + zone.index.i =
      ((rowZone length zone).block : Int) * one.interior.extent .i +
        (rowZone length zone).index.i := by
    rw [rows.along]
    simp [rowZone]
  have center : tube.cellCenter many zone = tube.undivided.cellCenter one (rowZone length zone) := by
    unfold cellCenter
    rw [position]
    rfl
  unfold initialFields
  rw [center]

end Start

/-- The decomposition into blocks does not change the solution: a valid problem and the same problem
in one block both start, both take any number of steps, and have the same solution after it. -/
theorem ShockTube.decomposition {tube : ShockTube R} {eos : EquationOfState R}
    (valid : tube.config.validate = .ok eos) (someZone : 1 ≤ tube.numZones)
    (someBlock : 0 < tube.numBlocks) (divides : (tube.numBlocks : Int) ∣ tube.numZones)
    (room : requireAddressable ((tube.numZones.toNat + 2 * tube.numBlocks) * 5) = .ok ()) :
    ∃ many one, Simulation.start tube = .ok many ∧ Simulation.start tube.undivided = .ok one ∧
      ∀ count, ∃ manyAfter oneAfter,
        many.steps count = .ok manyAfter ∧ one.steps count = .ok oneAfter ∧
        SameSolution tube tube.blockLength manyAfter oneAfter := by
  have splits := ShockTube.splits_of_dvd someZone someBlock divides room
  have alsoValid : tube.undivided.config.validate = .ok eos := valid
  have alone : tube.undivided.Splits (tube.numBlocks * tube.blockLength) := splits.undivided
  obtain ⟨many, manyMesh, started, rows, spacings, holds, iteration, time, report⟩ :=
    Simulation.start_eq_ok valid splits
  obtain ⟨one, oneMesh, alsoStarted, row, spacing, alsoHolds, sameIteration, sameTime, sameReport⟩ :=
    Simulation.start_eq_ok alsoValid alone
  refine ⟨many, one, started, alsoStarted, fun count => ?_⟩
  have split := ShockTube.splitRow rows row spacings spacing
  have inStep : InStep tube eos manyMesh oneMesh tube.blockLength many one _ _ _ _ := {
    first_holds := holds
    second_holds := alsoHolds
    primitive := fun cell _ => ShockTube.initialFields_agree rows cell
    conserved := fun cell _ => by
      unfold ShockTube.initialConserved
      rw [ShockTube.initialFields_agree rows cell]
    iteration := iteration.trans sameIteration.symm
    time := time.trans sameTime.symm
    flaggedCells := by rw [report, sameReport] }
  obtain ⟨manyAfter, oneAfter, _, _, _, _, ran, alsoRan, stays⟩ := InStep.steps split count inStep
  exact ⟨manyAfter, oneAfter, ran, alsoRan, stays.sameSolution split⟩

/-- A relativistic shock tube of twelve zones in three blocks. -/
def dividedTube : ShockTube Float where
  numZones := 12
  numBlocks := 3
  finalTime := 0.25
  cfl := 0.5
  config := { Config.standard with dynamics := .relativistic 1, integrator := .rk3 }

/-- Three blocks of four zones have the solution of twelve zones. -/
theorem ShockTube.decomposition_dividedTube :
    ∃ many one, Simulation.start dividedTube = .ok many ∧
      Simulation.start dividedTube.undivided = .ok one ∧
      ∀ count, ∃ manyAfter oneAfter,
        many.steps count = .ok manyAfter ∧ one.steps count = .ok oneAfter ∧
        SameSolution dividedTube 4 manyAfter oneAfter := by
  have valid : dividedTube.config.validate =
      .ok ⟨.relativistic (5.0 / 3.0) 1, .standard, .standard⟩ := rfl
  exact decomposition valid (by decide) (by decide) (by decide) rfl

end BlockHydro
