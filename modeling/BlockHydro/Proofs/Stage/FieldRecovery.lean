import BlockHydro.Proofs.Space.StoppedSweep
import BlockHydro.Proofs.Stage.CorrectionEffect
import BlockHydro.Proofs.Stage.UpdatePass

/-!
# Which cells a recovery rewrites

A recovery visits the zones of the primitive patch in memory order.  It has three
ways to leave a zone: a guard zone as it was, a cell with the state that decoding
finds, and a refused cell with floors or not at all.

`Setting.recover_effect` states what this comes to for the whole patch.  In floored
mode every cell is rewritten, and the answer is the number of cells whose diagnostic
recovery fails.  In diagnostic mode the answer is zero if there is no such cell;
otherwise the first one is named, and just the cells before it are rewritten.
Guard zones are kept in every case.
-/

namespace BlockHydro

variable {R : Type} [Scalar R] {setting : Setting R} {conservedFields numFields : Nat}

/-- The fields of a zone are those of a state, as many as are stored. -/
def Patch.Stores (patch : Patch R) (zone : Zone) (state : Primitive R) : Prop :=
  ∀ field : Fin 5, field < patch.numFields → patch.get zone field = .ok (state.toFields.get field)

omit [Scalar R] in
/-- A zone that a state was written to stores it. -/
theorem Patch.stores_ofFn {grid : Grid} {f : Zone → Vector R numFields} {zone : Zone}
    {state : Primitive R} {before : Vector R numFields} (inside : zone ∈ grid)
    (written : f zone = state.writeTo before) : (ofFn grid numFields f).Stores zone state := by
  intro field stored
  have stored : field < numFields := stored
  rw [get_ofFn f inside stored]
  refine congrArg Except.ok ?_
  rw [written]
  exact getElem_overwrite _ _ stored field.isLt

namespace Setting

/-- What recovery makes of the conserved state of a cell. -/
def recoverAt (setting : Setting R) (mode : RecoveryMode) (conserved : Patch R) (cell : Zone) :
    Except Fault (Except (RecoveryFailure R) (Primitive R)) := do
  let (metric, state) ← setting.conservedAt conserved cell
  return setting.eos.recover mode metric state

/-- Whether diagnostic recovery fails in a cell. -/
def failsAt (setting : Setting R) (conserved : Patch R) (cell : Zone) : Bool :=
  match setting.recoverAt .diagnostic conserved cell with
  | .ok (.error _) => true
  | _ => false

/-- The first cell in memory order whose diagnostic recovery fails, and why it does. -/
structure FirstFailure (setting : Setting R) (conserved : Patch R) (stop : Zone)
    (failure : RecoveryFailure R) : Prop where
  cell : stop ∈ setting.mesh.interiorGrid
  fails : setting.recoverAt .diagnostic conserved stop = .ok (.error failure)
  first : ∀ cell ∈ setting.mesh.interiorGrid,
    setting.mesh.extendedGrid.position cell < setting.mesh.extendedGrid.position stop →
      setting.failsAt conserved cell = false

theorem FirstFailure.failsAt {conserved : Patch R} {stop : Zone} {failure : RecoveryFailure R}
    (firstFailure : FirstFailure setting conserved stop failure) :
    setting.failsAt conserved stop = true := by
  unfold Setting.failsAt
  rw [firstFailure.fails]

/-- What recovery of the cells that are `reached` leaves behind. -/
structure CellsRecovered (setting : Setting R) (mode : RecoveryMode) (conserved : Patch R)
    (numFields : Nat) (before after : Patch R) (reached : Zone → Prop) : Prop where
  spans : after.Spans setting.mesh.extendedGrid numFields
  rewritten : ∀ cell ∈ setting.mesh.interiorGrid, reached cell → ∃ state,
    setting.recoverAt mode conserved cell = .ok (.ok state) ∧ after.Stores cell state
  unreached : ∀ cell ∈ setting.mesh.interiorGrid, ¬ reached cell → ∀ field,
    after.get cell field = before.get cell field
  guards : ∀ zone ∈ setting.mesh.extendedGrid, zone.index ∉ setting.mesh.interior → ∀ field,
    after.get zone field = before.get zone field

section Cells

variable {mode : RecoveryMode} {metric : Metric R} {state : Conserved R}

/-- Recovery in either mode succeeds unless diagnostic mode refuses the state, and writes what it finds. -/
theorem exists_recovered (accepted : mode = .diagnostic → setting.eos.rejects metric state = false)
    (before : Vector R numFields) :
    ∃ primitive, setting.eos.recover mode metric state = .ok primitive ∧
      setting.recoveredFields metric state before = primitive.writeTo before := by
  unfold recoveredFields
  unfold EquationOfState.rejects at accepted
  rw [EquationOfState.recover_diagnostic] at accepted ⊢
  unfold EquationOfState.recover
  cases decoded : setting.eos.decode metric state with
  | ok primitive => exact ⟨primitive, rfl, rfl⟩
  | error cause =>
    cases mode with
    | floored => exact ⟨_, rfl, rfl⟩
    | diagnostic => simp [decoded] at accepted

/-- In diagnostic mode a refused cell stops the recovery. -/
theorem recoverKernel_refused {conserved : Patch R} {cell : Zone} {failure : RecoveryFailure R}
    (interior : cell.index ∈ setting.mesh.interior)
    (fails : setting.recoverAt .diagnostic conserved cell = .ok (.error failure))
    (before : Vector R numFields) :
    setting.recoverKernel .diagnostic conserved cell before =
      .error (.unphysical ⟨failure, cell⟩) := by
  unfold recoverAt at fails
  unfold recoverKernel
  rw [if_pos interior]
  cases found : setting.conservedAt conserved cell with
  | error cause =>
    rw [found] at fails
    cases fails
  | ok read =>
    rw [found] at fails
    have refused : setting.eos.recover .diagnostic read.1 read.2 = .error failure :=
      Except.ok.inj fails
    dsimp only [Except.mapError, bind, Except.bind]
    rw [refused]
    rfl

end Cells

/-- A cell that fails is refused for a cause. -/
theorem exists_failure {conserved : Patch R} {cell : Zone}
    (fails : setting.failsAt conserved cell = true) :
    ∃ failure, setting.recoverAt .diagnostic conserved cell = .ok (.error failure) := by
  unfold failsAt at fails
  split at fails
  next failure found => exact ⟨failure, found⟩
  next => cases fails

/-- Where diagnostic recovery does not fail, every mode finds what it finds. -/
theorem recoverAt_of_accepted {conserved : Patch R} {cell : Zone} (mode : RecoveryMode)
    (accepted : setting.failsAt conserved cell = false) :
    setting.recoverAt mode conserved cell = setting.recoverAt .diagnostic conserved cell := by
  unfold failsAt at accepted
  unfold recoverAt at accepted ⊢
  cases found : setting.conservedAt conserved cell with
  | error cause => rfl
  | ok read =>
    rw [found] at accepted
    dsimp only [bind, Except.bind, pure, Except.pure, EquationOfState.recover] at accepted ⊢
    cases decoded : setting.eos.decode read.1 read.2 with
    | ok primitive => rfl
    | error failure => simp [decoded] at accepted

section Tables

variable {grid : Grid} {mode : RecoveryMode} {u : Zone → Vector R conservedFields} {cell : Zone}
  (covered : setting.Covered) (enough : 4 ≤ conservedFields)
  (stored : ∀ cell ∈ setting.mesh.interiorGrid, cell ∈ grid)

include covered enough stored

theorem recoverAt_ofFn (mode : RecoveryMode) (u : Zone → Vector R conservedFields)
    (inside : cell ∈ setting.mesh.interiorGrid) :
    setting.recoverAt mode (.ofFn grid conservedFields u) cell =
      .ok (setting.eos.recover mode (setting.cellGeometry cell) (.read (u cell))) := by
  unfold recoverAt
  rw [conservedAt_eq_ok (.ofFn grid conservedFields u) covered enough
    (Mesh.extendedGrid_of_interiorGrid inside) (Patch.fields_ofFn u (stored cell inside))]
  rfl

/-- Diagnostic recovery fails in the cells whose conserved state is refused. -/
theorem rejects_eq_failsAt (u : Zone → Vector R conservedFields)
    (inside : cell ∈ setting.mesh.interiorGrid) :
    setting.eos.rejects (setting.cellGeometry cell) (.read (u cell)) =
      setting.failsAt (.ofFn grid conservedFields u) cell := by
  unfold failsAt EquationOfState.rejects
  rw [recoverAt_ofFn covered enough stored .diagnostic u inside]
  cases setting.eos.recover .diagnostic (setting.cellGeometry cell) (.read (u cell)) <;> rfl

/-- The cells where floors are applied are those whose diagnostic recovery fails. -/
theorem countP_floors (u : Zone → Vector R conservedFields) :
    setting.mesh.extendedGrid.zones.countP (setting.floors u) =
      setting.mesh.interiorGrid.zones.countP (setting.failsAt (.ofFn grid conservedFields u)) := by
  refine (setting.mesh.countP_interior _).trans (List.countP_congr fun cell member => ?_)
  rw [rejects_eq_failsAt covered enough stored u (Grid.mem_zones.mp member)]

/-- A table in which the cells that are reached hold what recovery leaves in them, and all other zones what
they held. -/
theorem cellsRecovered_ofFn (w : Zone → Vector R numFields) (reached : Zone → Prop)
    [DecidablePred reached]
    (accepted : mode = .diagnostic → ∀ cell ∈ setting.mesh.interiorGrid, reached cell →
      setting.failsAt (.ofFn grid conservedFields u) cell = false) :
    CellsRecovered setting mode (.ofFn grid conservedFields u) numFields
      (.ofFn setting.mesh.extendedGrid numFields w)
      (.ofFn setting.mesh.extendedGrid numFields fun zone =>
        if reached zone then setting.recovered u w zone else w zone) reached := by
  constructor
  case spans => exact Patch.spans_ofFn _
  case rewritten =>
    intro cell inside isReached
    have notRejected : mode = .diagnostic →
        setting.eos.rejects (setting.cellGeometry cell) (.read (u cell)) = false := by
      intro diagnostic
      rw [rejects_eq_failsAt covered enough stored u inside]
      exact accepted diagnostic cell inside isReached
    obtain ⟨state, recovers, writes⟩ := exists_recovered notRejected (w cell)
    have written : (if reached cell then setting.recovered u w cell else w cell) =
        state.writeTo (w cell) := by
      rw [if_pos isReached, recovered]
      exact (if_pos inside.2).trans writes
    refine ⟨state, ?_, Patch.stores_ofFn (Mesh.extendedGrid_of_interiorGrid inside) written⟩
    rw [recoverAt_ofFn covered enough stored mode u inside, recovers]
  case unreached =>
    intro cell inside missed field
    have extended := Mesh.extendedGrid_of_interiorGrid inside
    exact Patch.get_ofFn_congr extended extended (if_neg missed) field
  case guards =>
    intro zone inside guard field
    refine Patch.get_ofFn_congr inside inside ?_ field
    rw [recovered, if_neg guard, ite_self]

/-- A recovery that refuses no cell rewrites them all. -/
theorem recover_completes (mode : RecoveryMode) (someField : numFields ≠ 0)
    (w : Zone → Vector R numFields)
    (accepted : mode = .diagnostic → ∀ cell ∈ setting.mesh.interiorGrid,
      setting.failsAt (.ofFn grid conservedFields u) cell = false) :
    ∃ after, setting.recover mode (.ofFn grid conservedFields u)
        (.ofFn setting.mesh.extendedGrid numFields w) =
          (after, .ok (setting.mesh.interiorGrid.zones.countP
            (setting.failsAt (.ofFn grid conservedFields u)))) ∧
      CellsRecovered setting mode (.ofFn grid conservedFields u) numFields
        (.ofFn setting.mesh.extendedGrid numFields w) after fun _ => True := by
  have notRejected : mode = .diagnostic → ∀ cell ∈ setting.mesh.interiorGrid,
      setting.eos.rejects (setting.cellGeometry cell) (.read (u cell)) = false := by
    intro diagnostic cell inside
    rw [rejects_eq_failsAt covered enough stored u inside]
    exact accepted diagnostic cell inside
  have completes := recover_of_stored covered enough someField stored u w notRejected
  rw [countP_floors covered enough stored] at completes
  have effect := cellsRecovered_ofFn covered enough stored w (fun _ => True)
    fun diagnostic cell inside _ => accepted diagnostic cell inside
  simp only [if_true] at effect
  exact ⟨_, completes, effect⟩

/-- A diagnostic recovery stops at the first cell that fails, with the cells before it rewritten. -/
theorem recover_stops (someField : numFields ≠ 0) (w : Zone → Vector R numFields) {stop : Zone}
    {failure : RecoveryFailure R}
    (firstFailure : FirstFailure setting (.ofFn grid conservedFields u) stop failure) :
    ∃ after, setting.recover .diagnostic (.ofFn grid conservedFields u)
        (.ofFn setting.mesh.extendedGrid numFields w) =
          (after, .error (.unphysical ⟨failure, stop⟩)) ∧
      CellsRecovered setting .diagnostic (.ofFn grid conservedFields u) numFields
        (.ofFn setting.mesh.extendedGrid numFields w) after fun cell =>
          setting.mesh.extendedGrid.position cell < setting.mesh.extendedGrid.position stop := by
  have earlier : ∀ zone ∈ setting.mesh.extendedGrid,
      setting.mesh.extendedGrid.position zone < setting.mesh.extendedGrid.position stop →
        setting.recoverKernel .diagnostic (.ofFn grid conservedFields u) zone (w zone) =
          .ok (setting.recovered u w zone, setting.floors u zone) := by
    intro zone inside before
    refine recoverKernel_of_stored .diagnostic covered enough u inside
      (fun interior => stored zone ⟨inside.1, interior⟩) (fun interior _ => ?_) (w zone)
    rw [rejects_eq_failsAt covered enough stored u ⟨inside.1, interior⟩]
    exact firstFailure.first zone ⟨inside.1, interior⟩ before
  have refused := recoverKernel_refused firstFailure.cell.2 firstFailure.fails (w stop)
  have swept := Patch.sweepOver_stops (Mesh.extendedGrid_of_interiorGrid firstFailure.cell) earlier
    refused
  refine ⟨_, (recover_eq_sweepOver _ (.ofFn setting.mesh.extendedGrid numFields w) someField).trans
    swept, ?_⟩
  exact cellsRecovered_ofFn covered enough stored w _ fun _ cell inside before =>
    firstFailure.first cell inside before

end Tables

/-- If some cell fails, there is a first one. -/
theorem exists_firstFailure {conserved : Patch R}
    (fails : ∃ cell ∈ setting.mesh.interiorGrid, setting.failsAt conserved cell = true) :
    ∃ stop failure, FirstFailure setting conserved stop failure := by
  obtain ⟨cell, inside, cellFails⟩ := fails
  -- Going back to an earlier cell that fails lowers the place in memory.
  induction place : setting.mesh.extendedGrid.position cell using Nat.strongRecOn generalizing cell with
  | ind place before =>
    subst place
    by_cases none : ∀ other ∈ setting.mesh.interiorGrid, setting.mesh.extendedGrid.position other <
        setting.mesh.extendedGrid.position cell → setting.failsAt conserved other = false
    · obtain ⟨failure, found⟩ := exists_failure cellFails
      exact ⟨cell, failure, inside, found, none⟩
    · push Not at none
      obtain ⟨other, otherInside, earlier, otherFails⟩ := none
      exact before _ earlier other otherInside (Bool.eq_true_of_not_eq_false otherFails) rfl

/-- Recovery of a patch in floored mode rewrites every cell and counts those that fail in diagnostic mode.
In diagnostic mode it rewrites every cell if none fails, and otherwise stops at the first one that does. -/
theorem recover_effect (covered : setting.Covered) {conserved primitive : Patch R}
    (enough : 4 ≤ conserved.numFields) (stored : ∀ cell ∈ setting.mesh.interiorGrid, cell ∈ conserved.grid)
    (width : numFields = 4 ∨ numFields = 5)
    (spans : primitive.Spans setting.mesh.extendedGrid numFields) :
    (∃ after, setting.recover .floored conserved primitive =
        (after, .ok (setting.mesh.interiorGrid.zones.countP (setting.failsAt conserved))) ∧
      CellsRecovered setting .floored conserved numFields primitive after fun _ => True) ∧
    ((∀ cell ∈ setting.mesh.interiorGrid, setting.failsAt conserved cell = false) →
      ∃ after, setting.recover .diagnostic conserved primitive = (after, .ok 0) ∧
        CellsRecovered setting .diagnostic conserved numFields primitive after fun _ => True) ∧
    ((∃ cell ∈ setting.mesh.interiorGrid, setting.failsAt conserved cell = true) →
      ∃ stop failure after, FirstFailure setting conserved stop failure ∧
        setting.recover .diagnostic conserved primitive =
          (after, .error (.unphysical ⟨failure, stop⟩)) ∧
        CellsRecovered setting .diagnostic conserved numFields primitive after fun cell =>
          setting.mesh.extendedGrid.position cell < setting.mesh.extendedGrid.position stop) := by
  have someField : numFields ≠ 0 := by omega
  obtain ⟨grid, sameGrid⟩ : ∃ grid, conserved.grid = grid := ⟨_, rfl⟩
  rw [sameGrid] at stored
  obtain ⟨conservedFields, u, rfl⟩ := Patch.exists_eq_ofFn sameGrid
  obtain ⟨w, rfl⟩ := spans.exists_eq_ofFn
  have enough : 4 ≤ conservedFields := enough
  refine ⟨?_, fun noneFails => ?_, fun someFails => ?_⟩
  · exact recover_completes covered enough stored .floored someField w nofun
  · obtain ⟨after, completes, effect⟩ :=
      recover_completes covered enough stored .diagnostic someField w fun _ => noneFails
    rw [Grid.countP_zones_eq_zero.mpr noneFails] at completes
    exact ⟨after, completes, effect⟩
  · obtain ⟨stop, failure, firstFailure⟩ := exists_firstFailure someFails
    obtain ⟨after, stops, effect⟩ := recover_stops covered enough stored someField w firstFailure
    exact ⟨stop, failure, after, firstFailure, stops, effect⟩

/-- Of the cells of the row, the one with the negative density fails. -/
theorem failing_puncturedPair :
    isothermalPair.mesh.interiorGrid.zones.filter (isothermalPair.failsAt puncturedPair) =
      [⟨0, ⟨1, 0, 0⟩⟩] := by
  decide +kernel

/-- Floored recovery counts the negative density once, although a guard zone of the second block holds it
too, and diagnostic recovery stops at it with one cell rewritten. -/
theorem recover_effect_puncturedPair :
    (∃ after, isothermalPair.recover .floored puncturedPair (.zeros blockPair.extendedGrid 4) =
        (after, .ok 1) ∧
      CellsRecovered isothermalPair .floored puncturedPair 4 (.zeros blockPair.extendedGrid 4) after
        fun _ => True) ∧
    ∃ failure after, isothermalPair.recover .diagnostic puncturedPair
        (.zeros blockPair.extendedGrid 4) =
          (after, .error (.unphysical ⟨failure, ⟨0, ⟨1, 0, 0⟩⟩⟩)) ∧
      CellsRecovered isothermalPair .diagnostic puncturedPair 4 (.zeros blockPair.extendedGrid 4) after
        fun cell => blockPair.extendedGrid.position cell <
          blockPair.extendedGrid.position ⟨0, ⟨1, 0, 0⟩⟩ := by
  have covered : isothermalPair.Covered := nofun
  have stored : ∀ cell ∈ isothermalPair.mesh.interiorGrid, cell ∈ puncturedPair.grid :=
    fun _ => Mesh.extendedGrid_of_interiorGrid
  have spans : (Patch.zeros blockPair.extendedGrid 4).Spans (R := Float)
      isothermalPair.mesh.extendedGrid 4 := ⟨rfl, rfl⟩
  have fails : ∀ cell, cell = ⟨0, ⟨1, 0, 0⟩⟩ ↔
      cell ∈ isothermalPair.mesh.interiorGrid ∧ isothermalPair.failsAt puncturedPair cell = true := by
    intro cell
    rw [← Grid.mem_zones, ← List.mem_filter, failing_puncturedPair, List.mem_singleton]
  obtain ⟨floored, -, stops⟩ := recover_effect covered (by decide) stored (.inl rfl) spans
  rw [List.countP_eq_length_filter, failing_puncturedPair] at floored
  obtain ⟨stop, failure, after, firstFailure, diagnosed, effect⟩ := stops ⟨_, (fails _).mp rfl⟩
  obtain rfl := (fails stop).mpr ⟨firstFailure.cell, firstFailure.failsAt⟩
  exact ⟨floored, failure, after, diagnosed, effect⟩

end Setting

end BlockHydro
