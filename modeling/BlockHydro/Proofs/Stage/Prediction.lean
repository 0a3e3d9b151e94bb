import BlockHydro.Proofs.Stage.CorrectionEffect
import BlockHydro.Proofs.Stage.FieldRecovery
import BlockHydro.Proofs.Stage.UpdatePass

/-!
# The prediction and the update

A correction pass predicts the update of a stage on a scratch patch of five
fields, before fluxes are replaced.  The update itself runs in place, with the
fluxes after replacement.  `FluxCorrection.prediction` says that both agree in
every cell that has no replaced face.

Floors are therefore applied only next to flags: a cell that recovery refuses
was flagged, or the flux through one of its faces was replaced.
-/

namespace BlockHydro

/-- Whether a correction pass replaced the flux through a face of a cell. -/
def Mesh.isCorrected {R : Type} (mesh : Mesh R) (flag : Zone → Bool) (cell : Zone) : Bool :=
  mesh.activeAxes.any fun axis => touches flag axis cell || touches flag axis (cell.shift 1 axis)

/-- A flagged cell is corrected. -/
theorem Mesh.isCorrected_of_flagged {R : Type} (mesh : Mesh R) {flag : Zone → Bool} {cell : Zone}
    (flagged : flag cell = true) : mesh.isCorrected flag cell = true := by
  refine List.any_eq_true.mpr ⟨.i, mem_activeAxes.mpr rfl, ?_⟩
  simp only [touches, flagged, Bool.or_true, Bool.true_or]

theorem Mesh.isCorrected_congr {R : Type} {mesh : Mesh R} {first second : Zone → Bool}
    (same : ∀ zone ∈ mesh.extendedGrid, first zone = second zone) {cell : Zone}
    (inside : cell ∈ mesh.interiorGrid) :
    mesh.isCorrected first cell = mesh.isCorrected second cell := by
  unfold isCorrected
  rw [Bool.eq_iff_iff, List.any_eq_true, List.any_eq_true]
  refine exists_congr fun axis => and_congr_right fun member => ?_
  have active := mem_activeAxes.mp member
  rw [touches_congr same active (lowerFace_mem axis inside),
    touches_congr same active (upperFace_mem axis inside)]

/-- The faces of a cell that is not corrected are not touched. -/
theorem Mesh.isCorrected_eq_false {R : Type} {mesh : Mesh R} {flag : Zone → Bool} {cell : Zone}
    (uncorrected : mesh.isCorrected flag cell = false) {axis : Axis}
    (active : axis ∈ mesh.activeAxes) :
    touches flag axis cell = false ∧ touches flag axis (cell.shift 1 axis) = false := by
  have none := List.any_eq_false.mp uncorrected axis active
  simpa using none

/-- Where no zone is flagged, no cell is corrected. -/
theorem Mesh.isCorrected_of_none_flagged {R : Type} {mesh : Mesh R} {flag : Zone → Bool}
    (noneFlagged : ∀ zone ∈ mesh.extendedGrid, flag zone = false) {cell : Zone}
    (inside : cell ∈ mesh.interiorGrid) : mesh.isCorrected flag cell = false := by
  apply List.any_eq_false.mpr
  intro axis member
  have active := mem_activeAxes.mp member
  rw [touches_eq_false noneFlagged active (lowerFace_mem axis inside),
    touches_eq_false noneFlagged active (upperFace_mem axis inside)]
  exact Bool.false_ne_true

variable {R : Type} [Scalar R] {setting : Setting R} {numFields : Nat}

/-- What floored recovery leaves when floors are applied in marked cells only. -/
structure FlooredWithin (setting : Setting R) (mark : Zone → Bool)
    (advanced target recovered : Patch R) (floored : Nat) : Prop where
  /-- Every cell is rewritten and every guard zone kept. -/
  effect : setting.CellsRecovered .floored advanced target.numFields target recovered fun _ => True
  /-- Floors are applied in the cells that diagnostic recovery refuses, -/
  floored_eq : floored = setting.mesh.interiorGrid.zones.countP (setting.failsAt advanced)
  /-- these are marked, -/
  marked : ∀ cell ∈ setting.mesh.interiorGrid, setting.failsAt advanced cell = true →
    mark cell = true
  /-- and cells without a mark hold what diagnostic recovery finds in them. -/
  unmarked : ∀ cell ∈ setting.mesh.interiorGrid, mark cell = false → ∃ state,
    setting.recoverAt .diagnostic advanced cell = .ok (.ok state) ∧ recovered.Stores cell state

/-- It does not matter how zones without a cell are marked. -/
theorem FlooredWithin.congr {first second : Zone → Bool} {advanced target recovered : Patch R}
    {floored : Nat} (within : FlooredWithin setting first advanced target recovered floored)
    (same : ∀ cell ∈ setting.mesh.interiorGrid, second cell = first cell) :
    FlooredWithin setting second advanced target recovered floored where
  effect := within.effect
  floored_eq := within.floored_eq
  marked cell inside fails := (same cell inside).trans (within.marked cell inside fails)
  unmarked cell inside unmarked :=
    within.unmarked cell inside ((same cell inside).symm.trans unmarked)

/-- What a prediction says about the update with the corrected fluxes and the recovery after it. -/
structure Prediction (setting : Setting R) (numFields : Nat) (after : FluxCorrection R)
    (report : CorrectionReport) (advanced target : Patch R) : Prop where
  /-- The update of a cell without replaced faces is the predicted one, field by field. -/
  agrees : ∀ cell ∈ setting.mesh.interiorGrid,
    setting.mesh.isCorrected after.flags.get cell = false →
      ∀ field < numFields, ∃ value,
        after.trial.get cell field = .ok value ∧ advanced.get cell field = .ok value
  /-- Floored recovery completes, and applies floors in cells with replaced faces only. -/
  completes : ∃ recovered floored, setting.recover .floored advanced target = (recovered, .ok floored) ∧
    floored ≤ setting.mesh.interiorGrid.zones.countP (setting.mesh.isCorrected after.flags.get) ∧
    FlooredWithin setting (setting.mesh.isCorrected after.flags.get) advanced target recovered floored
  /-- No visit of another zone applies floors. -/
  localized : ∀ zone ∈ setting.mesh.extendedGrid, ∀ before fields : Vector R target.numFields,
    setting.recoverKernel .floored advanced zone before = .ok (fields, true) →
      zone ∈ setting.mesh.interiorGrid ∧
        (after.flags.get zone = true ∨ setting.mesh.isCorrected after.flags.get zone = true)
  /-- Where nothing is flagged, nothing is refused. -/
  diagnostic : report.flaggedCells = 0 →
    ∃ recovered, setting.recover .diagnostic advanced target = (recovered, .ok 0) ∧
      setting.CellsRecovered .diagnostic advanced target.numFields target recovered fun _ => True

section Tables

variable {flag : Zone → Bool} {cell : Zone} (w : Zone → Vector R numFields)
  (f : Axis → Zone → Vector R numFields)

/-- The divergence over a cell without replaced faces is the one before the repair. -/
theorem Setting.divergence_repaired (scaledStep : R)
    (uncorrected : setting.mesh.isCorrected flag cell = false) :
    setting.mesh.divergence (fun axis => setting.repairedFlux w flag axis (f axis)) scaledStep cell =
      setting.mesh.divergence f scaledStep cell := by
  apply Mesh.divergence_congr scaledStep
  intro axis active
  obtain ⟨lower, upper⟩ := Mesh.isCorrected_eq_false uncorrected active
  exact ⟨repairedFlux_of_untouched w (f axis) lower, repairedFlux_of_untouched w (f axis) upper⟩

variable {stage : StageWeights R} {dt : R}
  {current start : Zone → Vector R numFields} {trial : Zone → Vector R 5}

/-- The update of a cell without replaced faces is the blend with the fluxes before the repair. -/
theorem Setting.advanced_repaired (small : numFields ≤ 5) (inside : cell.index ∈ setting.mesh.interior)
    (uncorrected : setting.mesh.isCorrected flag cell = false) :
    setting.mesh.advanced stage dt small current start
        (fun axis => setting.repairedFlux w flag axis (f axis)) cell =
      stage.combine small (current cell) (start cell)
        (setting.mesh.divergence f (stage.rate * dt) cell) := by
  rw [Mesh.advanced, if_pos inside, divergence_repaired w f _ uncorrected]

/-- The update of a cell without replaced faces is refused exactly when the prediction is. -/
theorem Setting.rejects_advanced (room : min 5 numFields ≤ numFields)
    (stored : setting.eos.StoredIn numFields) (small : numFields ≤ 5)
    (inside : cell.index ∈ setting.mesh.interior)
    (uncorrected : setting.mesh.isCorrected flag cell = false) :
    setting.eos.rejects (setting.cellGeometry cell) (.read (setting.mesh.advanced stage dt small
        current start (fun axis => setting.repairedFlux w flag axis (f axis)) cell)) =
      FluxCorrection.bad setting (setting.mesh.predicted stage dt room current start f trial) cell := by
  rw [advanced_repaired w f small inside uncorrected, FluxCorrection.bad_predicted stored small]

/-- Floors are applied in corrected cells only, if the bad cells are flagged. -/
theorem Setting.isCorrected_of_floors (room : min 5 numFields ≤ numFields)
    (stored : setting.eos.StoredIn numFields) (small : numFields ≤ 5)
    (flagged : cell.index ∈ setting.mesh.interior → flag cell =
      FluxCorrection.bad setting (setting.mesh.predicted stage dt room current start f trial) cell)
    (floored : setting.floors (setting.mesh.advanced stage dt small current start
      (fun axis => setting.repairedFlux w flag axis (f axis))) cell = true) :
    cell.index ∈ setting.mesh.interior ∧ setting.mesh.isCorrected flag cell = true := by
  rw [floors, Bool.and_eq_true, decide_eq_true_eq] at floored
  obtain ⟨inside, refused⟩ := floored
  refine ⟨inside, ?_⟩
  by_contra uncorrected
  rw [Bool.not_eq_true] at uncorrected
  rw [rejects_advanced w f room stored small inside uncorrected, ← flagged inside] at refused
  rw [setting.mesh.isCorrected_of_flagged refused] at uncorrected
  cases uncorrected

/-- Diagnostic recovery fails in corrected cells only, if the bad cells are flagged. -/
theorem Setting.isCorrected_of_fails (covered : setting.Covered) (room : min 5 numFields ≤ numFields)
    (stored : setting.eos.StoredIn numFields) (small : numFields ≤ 5)
    (flagged : ∀ cell : Zone, cell.index ∈ setting.mesh.interior → flag cell =
      FluxCorrection.bad setting (setting.mesh.predicted stage dt room current start f trial) cell)
    (inside : cell ∈ setting.mesh.interiorGrid)
    (fails : setting.failsAt (.ofFn setting.mesh.extendedGrid numFields (setting.mesh.advanced stage
      dt small current start fun axis => setting.repairedFlux w flag axis (f axis))) cell = true) :
    setting.mesh.isCorrected flag cell = true := by
  rw [← rejects_eq_failsAt covered stored.four_le (fun _ => Mesh.extendedGrid_of_interiorGrid) _
    inside] at fails
  have interior : cell.index ∈ setting.mesh.interior := inside.2
  have floored : setting.floors (setting.mesh.advanced stage dt small current start
      fun axis => setting.repairedFlux w flag axis (f axis)) cell = true := by
    rw [floors, decide_eq_true interior, fails, Bool.true_and]
  exact (isCorrected_of_floors w f room stored small (flagged cell) floored).2

/-- Floored recovery of the update applies floors in corrected cells only. -/
theorem Setting.recover_floored {targetFields : Nat} (covered : setting.Covered)
    (room : min 5 numFields ≤ numFields) (stored : setting.eos.StoredIn numFields)
    (small : numFields ≤ 5) (someField : targetFields ≠ 0) (written : Zone → Vector R targetFields)
    (flagged : ∀ cell : Zone, cell.index ∈ setting.mesh.interior → flag cell =
      FluxCorrection.bad setting (setting.mesh.predicted stage dt room current start f trial) cell) :
    let advanced : Patch R := .ofFn setting.mesh.extendedGrid numFields
      (setting.mesh.advanced stage dt small current start
        fun axis => setting.repairedFlux w flag axis (f axis))
    let target : Patch R := .ofFn setting.mesh.extendedGrid targetFields written
    ∃ recovered floored, setting.recover .floored advanced target = (recovered, .ok floored) ∧
      floored ≤ setting.mesh.interiorGrid.zones.countP (setting.mesh.isCorrected flag) ∧
      FlooredWithin setting (setting.mesh.isCorrected flag) advanced target recovered floored := by
  intro advanced target
  obtain ⟨recovered, completes, effect⟩ := recover_completes covered stored.four_le
    (fun _ => Mesh.extendedGrid_of_interiorGrid) .floored someField written nofun
  have marked : ∀ cell ∈ setting.mesh.interiorGrid, setting.failsAt advanced cell = true →
      setting.mesh.isCorrected flag cell = true :=
    fun _ inside => isCorrected_of_fails w f covered room stored small flagged inside
  refine ⟨recovered, _, completes, ?count_le, ?within⟩
  case count_le =>
    exact List.countP_mono_left fun cell member => marked cell (Grid.mem_zones.mp member)
  case within =>
    refine ⟨effect, rfl, marked, fun cell inside unmarked => ?_⟩
    have accepted : setting.failsAt advanced cell = false := by
      by_contra fails
      rw [marked cell inside (Bool.eq_true_of_not_eq_false fails)] at unmarked
      cases unmarked
    obtain ⟨state, recovers, stores⟩ := effect.rewritten cell inside trivial
    rw [recoverAt_of_accepted .floored accepted] at recovers
    exact ⟨state, recovers, stores⟩

/-- Diagnostic recovery of the update refuses nothing, if no zone is flagged. -/
theorem Setting.recover_unflagged {targetFields : Nat} (covered : setting.Covered)
    (room : min 5 numFields ≤ numFields) (stored : setting.eos.StoredIn numFields)
    (small : numFields ≤ 5) (someField : targetFields ≠ 0) (written : Zone → Vector R targetFields)
    (flagged : ∀ cell : Zone, cell.index ∈ setting.mesh.interior → flag cell =
      FluxCorrection.bad setting (setting.mesh.predicted stage dt room current start f trial) cell)
    (noneFlagged : ∀ zone ∈ setting.mesh.extendedGrid, flag zone = false) :
    let advanced : Patch R := .ofFn setting.mesh.extendedGrid numFields
      (setting.mesh.advanced stage dt small current start
        fun axis => setting.repairedFlux w flag axis (f axis))
    let target : Patch R := .ofFn setting.mesh.extendedGrid targetFields written
    ∃ recovered, setting.recover .diagnostic advanced target = (recovered, .ok 0) ∧
      setting.CellsRecovered .diagnostic advanced targetFields target recovered fun _ => True := by
  intro advanced target
  have noneFails : ∀ cell ∈ setting.mesh.interiorGrid, setting.failsAt advanced cell = false := by
    intro cell inside
    by_contra fails
    have corrected := isCorrected_of_fails w f covered room stored small flagged inside
      (Bool.eq_true_of_not_eq_false fails)
    rw [Mesh.isCorrected_of_none_flagged noneFlagged inside] at corrected
    cases corrected
  obtain ⟨recovered, completes, effect⟩ := recover_completes covered stored.four_le
    (fun _ => Mesh.extendedGrid_of_interiorGrid) .diagnostic someField written fun _ => noneFails
  rw [Grid.countP_zones_eq_zero.mpr noneFails] at completes
  exact ⟨recovered, completes, effect⟩

end Tables

/-- The prediction of a correction pass agrees with the update that follows it, and floors stay next
to flags. -/
theorem FluxCorrection.prediction {current start primitive target : Patch R} {fluxes : Fluxes R}
    {correction : FluxCorrection R}
    (input : StageInput setting numFields current start primitive fluxes correction)
    (target_grid : target.grid = setting.mesh.extendedGrid) (someField : target.numFields ≠ 0)
    (stage : StageWeights R) (dt : R) (source : GuardSource) :
    ∃ after repaired report advanced,
      correction.apply setting stage dt current start primitive fluxes source =
        .ok (after, repaired, report) ∧
      setting.mesh.advance stage dt repaired current start = .ok advanced ∧
      Prediction setting numFields after report advanced target := by
  have enough := input.stored.four_le
  have small := input.stored.le_five
  have room : min 5 numFields ≤ numFields := Nat.min_le_right 5 numFields
  obtain ⟨now, rfl⟩ := input.current_spans.exists_eq_ofFn
  obtain ⟨first, rfl⟩ := input.start_spans.exists_eq_ofFn
  obtain ⟨w, rfl⟩ := input.primitive_spans.exists_eq_ofFn
  obtain ⟨f, rfl⟩ := input.fluxes_span.exists_eq_ofFn
  obtain ⟨trial, flag, rfl⟩ := input.correction_fits.exists_eq_ofFn
  obtain ⟨targetFields, written, rfl⟩ := Patch.exists_eq_ofFn target_grid
  refine ⟨_, _, _, _, apply_ofFn input.covered enough (by omega) small room stage dt now first w f
    source trial flag, setting.mesh.advance_ofFn (by omega) small stage dt now first _, ?_⟩
  generalize predictedFields : setting.mesh.predicted stage dt room now first f trial = predicted
  generalize mirroredFlags : CorrectionFlags.mirrored setting.mesh source (bad setting predicted) =
    flagged
  have get : ∀ zone ∈ setting.mesh.extendedGrid,
      (ofFn setting.mesh predicted flagged).flags.get zone = flagged zone :=
    fun _ => CorrectionFlags.get_ofFn flagged
  have flaggedCell : ∀ cell : Zone, cell.index ∈ setting.mesh.interior → flagged cell =
      bad setting (setting.mesh.predicted stage dt room now first f trial) cell := by
    intro cell interior
    rw [← mirroredFlags, CorrectionFlags.mirrored_of_mem interior, predictedFields]
  constructor
  case agrees =>
    intro cell inside uncorrected field stored
    rw [Mesh.isCorrected_congr get inside] at uncorrected
    refine ⟨_, Patch.get_ofFn predicted inside (Nat.lt_of_lt_of_le stored small), ?_⟩
    rw [Patch.get_ofFn _ (Mesh.extendedGrid_of_interiorGrid inside) stored,
      Setting.advanced_repaired w f small inside.2 uncorrected, ← predictedFields]
    simp only [Mesh.predicted, stage.forecast_eq_overwrite small]
    rw [getElem_overwrite _ _ _ stored]
  case completes =>
    obtain ⟨recovered, floored, completes, count_le, within⟩ :=
      Setting.recover_floored w f input.covered room input.stored small someField written flaggedCell
    have same : ∀ cell ∈ setting.mesh.interiorGrid,
        setting.mesh.isCorrected (ofFn setting.mesh predicted flagged).flags.get cell =
          setting.mesh.isCorrected flagged cell := fun _ => Mesh.isCorrected_congr get
    refine ⟨recovered, floored, completes, count_le.trans_eq ?_, within.congr same⟩
    exact List.countP_congr fun cell member => by rw [same cell (Grid.mem_zones.mp member)]
  case localized =>
    intro zone inside before fields kernel
    rw [Setting.recoverKernel_ofFn .floored input.covered enough _ inside
      (fun _ diagnostic => by cases diagnostic) before] at kernel
    obtain ⟨interior, touched⟩ := Setting.isCorrected_of_floors w f room input.stored small
      (flaggedCell zone) (Prod.ext_iff.mp (Except.ok.inj kernel)).2
    have cell : zone ∈ setting.mesh.interiorGrid := ⟨inside.1, interior⟩
    exact ⟨cell, .inr (by rw [Mesh.isCorrected_congr get cell, touched])⟩
  case diagnostic =>
    intro noneFlagged
    have allGood : ∀ cell ∈ setting.mesh.interiorGrid, bad setting predicted cell = false :=
      Grid.countP_zones_eq_zero.mp noneFlagged
    have noFlag : ∀ zone ∈ setting.mesh.extendedGrid, flagged zone = false := fun zone inside => by
      rw [← mirroredFlags]
      exact CorrectionFlags.mirrored_of_none_bad source allGood inside
    exact Setting.recover_unflagged w f input.covered room input.stored small someField written
      flaggedCell noFlag

/-- One cell of the punctured row is flagged, and the prediction holds for the others. -/
theorem FluxCorrection.prediction_punctured : ∃ after repaired advanced,
    apply (.initial blockPair) isothermalPair ⟨0, 1, 1⟩ 0 puncturedPair puncturedPair puncturedPair
        (.zeros blockPair 4) (blockPair.chained .i) = .ok (after, repaired, ⟨1, 3⟩) ∧
      blockPair.advance ⟨0, 1, 1⟩ 0 repaired puncturedPair puncturedPair = .ok advanced ∧
      Prediction isothermalPair 4 after ⟨1, 3⟩ advanced puncturedPair := by
  have sameGrid : puncturedPair.grid = isothermalPair.mesh.extendedGrid := rfl
  obtain ⟨after, repaired, report, advanced, applied, advances, predicted⟩ :=
    prediction punctured_input sameGrid (by decide) ⟨0, 1, 1⟩ 0 (blockPair.chained .i)
  have counted := punctured_counted
  rw [applied] at counted
  cases counted
  exact ⟨after, repaired, advanced, applied, advances, predicted⟩

end BlockHydro
