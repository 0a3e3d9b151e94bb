import Mathlib.Analysis.Real.Sqrt
import Mathlib.Tactic.IntervalCases
import Mathlib.Tactic.Linarith
import BlockHydro.Proofs.Stage.GasStage
import BlockHydro.Proofs.Stage.SharedFaces

/-!
# Passes that keep a Newtonian gas physical

The time step is short enough for a cell if the speeds at its faces leave its
`Mesh.courant` number below one.  Then, in exact arithmetic:

* the update of a cell that a correction pass flagged has a primitive state,
  since all its faces carry the one-wave flux (`FluxCorrection.repair_physical`);
* where all faces carry two-wave fluxes and the step is short enough in every
  cell, a correction pass flags none (`FluxCorrection.apply_twoWave`).
-/

namespace BlockHydro

variable {setting : Setting ℝ} {thermo : Thermodynamics ℝ} {stage : StageWeights ℝ} {dt : ℝ}

namespace FluxCorrection

variable {numFields currentFields startFields stateFields : Nat}

/-- A cell is not bad if its predicted state has a primitive counterpart. -/
theorem bad_eq_false (fluid : setting.eos.fluid = .newtonian thermo) {trial : Zone → Vector ℝ 5}
    {cell : Zone}
    (accepted : ∃ primitive, (Conserved.read (trial cell)).toPrimitive thermo = .ok primitive) :
    bad setting trial cell = false := by
  obtain ⟨primitive, accepted⟩ := accepted
  rw [bad, EquationOfState.rejects, EquationOfState.recover_newtonian fluid, accepted]

/-- A cell is bad if its predicted state has no mass. -/
theorem bad_eq_true (fluid : setting.eos.fluid = .newtonian thermo) {trial : Zone → Vector ℝ 5}
    {cell : Zone} (empty : (Conserved.read (trial cell)).density ≤ 0) :
    bad setting trial cell = true := by
  rw [bad, EquationOfState.rejects, EquationOfState.recover_newtonian fluid, Conserved.toPrimitive,
    if_pos empty]

/-- A correction pass flags an interior cell if it is bad. -/
theorem flags_of_apply (covered : setting.Covered) (enough : 4 ≤ stateFields)
    (someField : numFields ≠ 0) (small : numFields ≤ 5) (room : min 5 currentFields ≤ startFields)
    {current : Zone → Vector ℝ currentFields} {start : Zone → Vector ℝ startFields}
    {w : Zone → Vector ℝ stateFields} {f : Axis → Zone → Vector ℝ numFields} {source : GuardSource}
    {trial : Zone → Vector ℝ 5} {flag : Zone → Bool} {after : FluxCorrection ℝ}
    {repaired : Fluxes ℝ} {report : CorrectionReport}
    (applied : (ofFn setting.mesh trial flag).apply setting stage dt
        (.ofFn setting.mesh.extendedGrid currentFields current)
        (.ofFn setting.mesh.extendedGrid startFields start)
        (.ofFn setting.mesh.extendedGrid stateFields w) (.ofFn setting.mesh numFields f) source =
      .ok (after, repaired, report)) {cell : Zone} (inside : cell ∈ setting.mesh.interiorGrid) :
    after.flags.get cell =
      bad setting (setting.mesh.predicted stage dt room current start f trial) cell := by
  cases applied.symm.trans (apply_ofFn covered enough someField small room stage dt current start w
    f source trial flag)
  exact (CorrectionFlags.get_ofFn _ (Mesh.extendedGrid_of_interiorGrid inside)).trans
    (CorrectionFlags.mirrored_of_mem inside.2)

/-- A correction pass without bad cells flags nothing and keeps all fluxes. -/
theorem apply_of_none_bad (covered : setting.Covered) (enough : 4 ≤ stateFields)
    (someField : numFields ≠ 0) (small : numFields ≤ 5) (room : min 5 currentFields ≤ startFields)
    (stage : StageWeights ℝ) (dt : ℝ) (current : Zone → Vector ℝ currentFields)
    (start : Zone → Vector ℝ startFields) (w : Zone → Vector ℝ stateFields)
    (f : Axis → Zone → Vector ℝ numFields) (source : GuardSource)
    (trial : Zone → Vector ℝ 5) (flag : Zone → Bool)
    (noneBad : ∀ cell ∈ setting.mesh.interiorGrid,
      bad setting (setting.mesh.predicted stage dt room current start f trial) cell = false) :
    (ofFn setting.mesh trial flag).apply setting stage dt
        (.ofFn setting.mesh.extendedGrid currentFields current)
        (.ofFn setting.mesh.extendedGrid startFields start)
        (.ofFn setting.mesh.extendedGrid stateFields w) (.ofFn setting.mesh numFields f) source =
      .ok (ofFn setting.mesh (setting.mesh.predicted stage dt room current start f trial)
          fun _ => false,
        .ofFn setting.mesh numFields f, ⟨0, 0⟩) := by
  have noneFlagged : ∀ zone ∈ setting.mesh.extendedGrid, CorrectionFlags.mirrored setting.mesh source
      (bad setting (setting.mesh.predicted stage dt room current start f trial)) zone = false :=
    fun zone inside => CorrectionFlags.mirrored_of_none_bad source noneBad inside
  have sameCorrection :
      ofFn setting.mesh (setting.mesh.predicted stage dt room current start f trial)
          (CorrectionFlags.mirrored setting.mesh source
            (bad setting (setting.mesh.predicted stage dt room current start f trial))) =
        ofFn setting.mesh (setting.mesh.predicted stage dt room current start f trial)
          fun _ => false :=
    congrArg (mk _) (CorrectionFlags.ofFn_congr noneFlagged)
  have sameFluxes := Fluxes.ofFn_congr fun axis active face inside =>
    (Setting.repairedFlux_of_untouched w (f axis) (touches_eq_false noneFlagged active inside) :
      setting.repairedFlux w _ axis (f axis) face = f axis face)
  refine (apply_ofFn covered enough someField small room stage dt current start w f source trial
    flag).trans ?_
  rw [sameCorrection, sameFluxes, Mesh.touchedFaces_eq_zero noneFlagged,
    Grid.countP_zones_eq_zero.mpr noneBad]

end FluxCorrection

section Row

/-- A row of three cells. -/
noncomputable def gasRow : Mesh ℝ where
  interior := ⟨⟨0, 0, 0⟩, ⟨3, 1, 1⟩, by decide⟩
  guardDepth := 1
  spacing := #[⟨1, 1, 1⟩]
  lower_eq_zero := rfl
  guardDepth_pos := Nat.one_pos
  spacing_nonempty := by decide

/-- A gamma-law gas in the row, in flat space. -/
noncomputable def warmRow : Setting ℝ :=
  ⟨gasRow, ⟨.newtonian (.adiabatic 2.0), .standard, .standard⟩, none⟩

/-- Gas at rest with sound speed one. -/
noncomputable def restState : Primitive ℝ := ⟨1, ⟨0, 0, 0⟩, 0.5⟩

/-- The fields of the gas at rest, which are those of its primitive and of its conserved state. -/
noncomputable def restFields : Vector ℝ 5 := #v[1, 0, 0, 0, 0.5]

/-- The row filled with the gas at rest. -/
noncomputable def atRest : Patch ℝ := .ofFn gasRow.extendedGrid 5 fun _ => restFields

/-- A flux between the first two cells that would empty the first one. -/
noncomputable def drainFlux (_axis : Axis) (face : Zone) : Vector ℝ 5 :=
  if face.index.i = 1 then #v[10, 0, 0, 0, 0] else .replicate 5 0

/-- The first cell of the row. -/
def drainedCell : Zone := ⟨0, ⟨0, 0, 0⟩⟩

theorem spacingAt_gasRow (axis : Axis) : gasRow.spacingAt 0 axis = 1 := by
  cases axis <;> simp [Mesh.spacingAt, gasRow, PerAxis.get]

theorem warmRow_covered : warmRow.Covered := fun _ given => by cases given

theorem primitiveOf_atRest {zone : Zone} (inside : zone ∈ gasRow.extendedGrid) :
    atRest.primitiveOf zone = restState :=
  Patch.primitiveOf_ofFn _ inside

theorem encode_atRest : warmRow.encode atRest (.zeros gasRow.extendedGrid 5) = .ok atRest := by
  have same : (restState.toConserved (.adiabatic 2.0)).writeTo (.replicate 5 0) = restFields := by
    ext field small
    interval_cases field <;>
      simp [Conserved.writeTo, overwrite, Conserved.toFields, Primitive.toConserved, restState,
        restFields, Primitive.energyDensity, Primitive.velocitySquared, PerAxis.dot, PerAxis.map]
    norm_num
  rw [Patch.zeros_eq_ofFn]
  have encoded : warmRow.encode atRest (.ofFn gasRow.extendedGrid 5 fun _ => .replicate 5 0) = _ :=
    Setting.encode_ofFn warmRow_covered (by decide) (by decide) _ _
  refine encoded.trans ?_
  exact congrArg Except.ok (Patch.ofFn_congr fun zone _ => same)

theorem proper_warmRow : (Thermodynamics.adiabatic (2.0 : ℝ)).Proper :=
  show (1 : ℝ) < 2.0 by norm_num

theorem accepts_restFields :
    ∃ primitive, (Conserved.read restFields).toPrimitive (.adiabatic 2.0) = .ok primitive := by
  refine (Conserved.toPrimitive_accepts proper_warmRow).mpr ⟨one_pos, fun observable _ => ?_⟩
  cases observable with
  | mass => exact zero_le_one
  | energyFrom velocity =>
    have along := mul_self_nonneg velocity.i
    have beside := mul_self_nonneg velocity.j
    have above := mul_self_nonneg velocity.k
    simp [Observable.value, Conserved.read, restFields, PerAxis.dot]
    linarith

theorem soundSpeed_restState : restState.soundSpeed (.adiabatic 2.0) = 1 := by
  simp [Primitive.soundSpeed, Primitive.soundSpeedSquared, restState]
  norm_num

theorem speedAt_atRest {face : Zone} (inside : face ∈ gasRow.faceGrid .i) :
    (Thermodynamics.adiabatic 2.0).speedAt atRest .i face = 1 := by
  have active : gasRow.isActive .i = true := rfl
  unfold Thermodynamics.speedAt
  rw [primitiveOf_atRest (Mesh.lowerCell_mem active inside),
    primitiveOf_atRest (Mesh.upperCell_mem active inside)]
  change max (|0| + restState.soundSpeed _) (|0| + restState.soundSpeed _) = 1
  rw [soundSpeed_restState, abs_zero, zero_add, max_self]

/-- Dense gas that leaves gas at rest behind it, with the same speed of sound. -/
noncomputable def windState : Primitive ℝ := ⟨4.0, ⟨2.25, 0, 0⟩, 2.0⟩

/-- Gas at rest in the first cell and behind it, wind in the other cells and beyond. -/
noncomputable def partedState (zone : Zone) : Primitive ℝ :=
  if zone.index.i < 1 then restState else windState

/-- The row with wind beside gas at rest. -/
noncomputable def parted : Patch ℝ :=
  .ofFn gasRow.extendedGrid 5 fun zone => (partedState zone).toFields

/-- The conserved states of the row with wind. -/
noncomputable def partedConserved : Patch ℝ :=
  .ofFn gasRow.extendedGrid 5 fun zone =>
    ((partedState zone).toConserved (.adiabatic 2.0)).writeTo (.replicate 5 0)

theorem primitiveOf_parted {zone : Zone} (inside : zone ∈ gasRow.extendedGrid) :
    parted.primitiveOf zone = partedState zone :=
  Patch.primitiveOf_ofFn _ inside

theorem encode_parted :
    warmRow.encode parted (.zeros gasRow.extendedGrid 5) = .ok partedConserved := by
  rw [Patch.zeros_eq_ofFn]
  exact Setting.encode_ofFn warmRow_covered (by decide) (by decide) _ _

theorem physical_restState : restState.Physical (.adiabatic 2.0) :=
  ⟨one_pos, by norm_num [restState]⟩

theorem physical_partedState (zone : Zone) : (partedState zone).Physical (.adiabatic 2.0) := by
  unfold partedState
  split
  · exact physical_restState
  · exact ⟨by norm_num [windState], by norm_num [windState]⟩

theorem soundSpeed_windState : windState.soundSpeed (.adiabatic 2.0) = 1 := by
  simp [Primitive.soundSpeed, Primitive.soundSpeedSquared, windState]
  norm_num

/-- The bounds at a face of the row, along it. -/
theorem faceBounds_eq (left right : Primitive ℝ) :
    (Thermodynamics.adiabatic 2.0).faceBounds .i left right =
      let mean := MeanFlow.between (.adiabatic 2.0) left right
      .clamp
        (min (mean.velocity.i - mean.soundSpeed)
          (left.velocity.i - left.soundSpeed (.adiabatic 2.0)))
        (max (mean.velocity.i + mean.soundSpeed)
          (right.velocity.i + right.soundSpeed (.adiabatic 2.0))) :=
  rfl

/-- The waves of the gas at rest move with the speed of sound. -/
theorem faceBounds_restState :
    (Thermodynamics.adiabatic 2.0).faceBounds .i restState restState = ⟨-1, 1⟩ := by
  have mean : MeanFlow.between (.adiabatic 2.0) restState restState = ⟨⟨0, 0, 0⟩, 1, false⟩ := by
    simp [restState, MeanFlow.between, PerAxis.zipWith, PerAxis.dot, Primitive.toConserved,
      Primitive.energyDensity, Primitive.velocitySquared]
    norm_num
  rw [faceBounds_eq, mean, soundSpeed_restState]
  norm_num [WaveBounds.clamp, restState]

theorem sqrt_four : √(4.0 : ℝ) = 2 := by
  rw [Real.sqrt_eq_iff_mul_self_eq] <;> norm_num

/-- Between the gas at rest and the wind sound is faster than in either. -/
theorem faceBounds_parted :
    (Thermodynamics.adiabatic 2.0).faceBounds .i restState windState = ⟨-1, 13 / 4⟩ := by
  have quotient : √(25 / 16 : ℝ) = 5 / 4 := by
    rw [Real.sqrt_eq_iff_mul_self_eq] <;> norm_num
  have mean : MeanFlow.between (.adiabatic 2.0) restState windState =
      ⟨⟨3 / 2, 0, 0⟩, 5 / 4, false⟩ := by
    simp [restState, windState, MeanFlow.between, PerAxis.zipWith, PerAxis.dot,
      Primitive.toConserved, Primitive.energyDensity, Primitive.velocitySquared, sqrt_four,
      PerAxis.map]
    norm_num [quotient]
  rw [faceBounds_eq, mean, soundSpeed_restState, soundSpeed_windState]
  norm_num [WaveBounds.clamp, restState, windState]

/-- The wind carries all its waves along. -/
theorem faceBounds_windState :
    (Thermodynamics.adiabatic 2.0).faceBounds .i windState windState = ⟨0, 13 / 4⟩ := by
  have mean : MeanFlow.between (.adiabatic 2.0) windState windState =
      ⟨⟨9 / 4, 0, 0⟩, 1, false⟩ := by
    simp [windState, MeanFlow.between, PerAxis.zipWith, PerAxis.dot, Primitive.toConserved,
      Primitive.energyDensity, Primitive.velocitySquared, sqrt_four, PerAxis.map]
    norm_num
  rw [faceBounds_eq, mean, soundSpeed_windState]
  norm_num [WaveBounds.clamp, windState]

/-- The bounds at the faces of the row: of the gas at rest before the first cell, of both states
behind it, and of the wind after that. -/
theorem boundsAt_parted {face : Zone} (inside : face ∈ gasRow.faceGrid .i) :
    (Thermodynamics.adiabatic 2.0).boundsAt parted .i face =
      if face.index.i < 1 then ⟨-1, 1⟩
      else if face.index.i < 2 then ⟨-1, 13 / 4⟩ else ⟨0, 13 / 4⟩ := by
  have active : gasRow.isActive .i = true := rfl
  have behind : (face.shift (-1) .i).index.i = face.index.i - 1 := rfl
  unfold Thermodynamics.boundsAt
  rw [primitiveOf_parted (Mesh.lowerCell_mem active inside),
    primitiveOf_parted (Mesh.upperCell_mem active inside), partedState, partedState, behind]
  rcases lt_trichotomy face.index.i 1 with rest | joint | wind
  · rw [if_pos rest, if_pos rest, if_pos (by omega)]
    exact faceBounds_restState
  · rw [joint]
    exact faceBounds_parted
  · rw [if_neg (by omega), if_neg (by omega), if_neg (by omega), if_neg (by omega)]
    exact faceBounds_windState

section Stages

variable {current start primitive : Patch ℝ}

/-- A stage of the gas in the row. -/
theorem warmRow_gas {stage : StageWeights ℝ} {dt : ℝ}
    (physical : ∀ zone ∈ gasRow.extendedGrid,
      (primitive.primitiveOf zone).Physical (.adiabatic 2.0))
    (fields : current.numFields = 5)
    (encoded : warmRow.encode primitive (.zeros gasRow.extendedGrid 5) = .ok current)
    (mean : MeanStage warmRow stage current start) (step_nonneg : 0 ≤ dt) :
    GasStage warmRow (.adiabatic 2.0) stage dt current start primitive where
  fluid := rfl
  proper := proper_warmRow
  spacing_pos block known axis _ := by
    have single : block = 0 := Nat.lt_one_iff.mp known
    rw [single]
    exact (spacingAt_gasRow axis).symm ▸ one_pos
  physical := physical
  stored := .inl fields
  encoded := ⟨_, ⟨rfl, fields.symm⟩, encoded⟩
  mean := mean
  step_nonneg := step_nonneg

theorem warmRow_input (now : current.Spans gasRow.extendedGrid 5)
    (first : start.Spans gasRow.extendedGrid 5) (states : primitive.Spans gasRow.extendedGrid 5) :
    SolvableInput warmRow 5 current start primitive (.ofFn gasRow 5 drainFlux)
      (.initial gasRow) where
  covered := warmRow_covered
  current_grid := now.grid_eq
  start_grid := first.grid_eq
  primitive_grid := states.grid_eq
  fluxes_span := Fluxes.spans_ofFn drainFlux
  correction_fits := FluxCorrection.fits_initial gasRow
  primitive_fields := by
    rw [states.numFields_eq]
    decide
  start_fields := by
    rw [now.numFields_eq, first.numFields_eq]
    decide
  someField := by decide
  small := by decide

end Stages

/-- The drained cell is flagged: its prediction has less than no mass. -/
theorem drainedCell_flagged {after : FluxCorrection ℝ} {repaired : Fluxes ℝ}
    {report : CorrectionReport}
    (applied : FluxCorrection.apply (.initial gasRow) warmRow ⟨1 / 2, 1 / 2, 1 / 2⟩ (1 / 2) atRest
      atRest atRest (.ofFn gasRow 5 drainFlux) (gasRow.chained .i) = .ok (after, repaired, report)) :
    after.flags.get drainedCell = true := by
  obtain ⟨trial, flag, table⟩ := (FluxCorrection.fits_initial gasRow).exists_eq_ofFn
  have inside : drainedCell ∈ gasRow.interiorGrid := by decide
  have room : min 5 5 ≤ 5 := by decide
  have drained :
      (gasRow.divergence drainFlux (1 / 2 * (1 / 2)) drainedCell)[0]?.getD 0 = 5 / 2 := by
    refine (Observable.mass.value_read_addDivergence (.replicate 5 0)
      (1 / 2 * (1 / 2) / gasRow.spacingAt 0 .i) (.replicate 5 0) #v[(10 : ℝ), 0, 0, 0, 0]).trans ?_
    rw [spacingAt_gasRow]
    simp [Observable.value, Conserved.read]
    norm_num
  have predicted := (⟨1 / 2, 1 / 2, 1 / 2⟩ : StageWeights ℝ).getD_forecast room restFields
    restFields (gasRow.divergence drainFlux (1 / 2 * (1 / 2)) drainedCell) (trial drainedCell)
    (show 0 < 5 by decide) (by decide)
  rw [table] at applied
  have flags := FluxCorrection.flags_of_apply warmRow_covered (by decide) (by decide) (by decide)
    room applied inside
  rw [flags]
  apply FluxCorrection.bad_eq_true rfl
  refine predicted.trans_le ?_
  rw [drained]
  simp [restFields]
  norm_num

end Row

section Passes

variable {numFields : Nat} {current start primitive : Patch ℝ} {fluxes : Fluxes ℝ}
  {correction : FluxCorrection ℝ}

/-- The update of a flagged cell has a primitive state, if the step is short enough for the speeds of
the one-wave fluxes at its faces. -/
theorem FluxCorrection.repair_physical
    (input : SolvableInput setting numFields current start primitive fluxes correction)
    (fluxes_stored : setting.eos.StoredIn numFields)
    (gas : GasStage setting thermo stage dt current start primitive) (source : GuardSource) :
    ∃ after repaired report advanced,
      correction.apply setting stage dt current start primitive fluxes source =
          .ok (after, repaired, report) ∧
        setting.mesh.advance stage dt repaired current start = .ok advanced ∧
        ∀ cell ∈ setting.mesh.interiorGrid, after.flags.get cell = true →
          setting.mesh.courant dt cell (fun axis => (thermo.speedAt primitive axis cell +
            thermo.speedAt primitive axis (cell.shift 1 axis)) / 2) < 1 →
          setting.PhysicalAt advanced cell := by
  obtain ⟨currentFields, now, rfl⟩ := Patch.exists_eq_ofFn input.current_grid
  obtain ⟨startFields, first, rfl⟩ := Patch.exists_eq_ofFn input.start_grid
  obtain ⟨stateFields, w, rfl⟩ := Patch.exists_eq_ofFn input.primitive_grid
  obtain ⟨f, rfl⟩ := input.fluxes_span.exists_eq_ofFn
  obtain ⟨trial, flag, rfl⟩ := input.correction_fits.exists_eq_ofFn
  have enough : 4 ≤ stateFields := input.primitive_fields
  have stored : setting.eos.StoredIn currentFields := gas.stored
  have someField : currentFields ≠ 0 := by have := stored.four_le; omega
  have room : min 5 currentFields ≤ startFields := input.start_fields
  have fits : currentFields ≤ startFields ∧ currentFields ≤ 5 := by
    have := stored.le_five
    omega
  refine ⟨_, _, _, _, apply_ofFn input.covered enough input.someField input.small room stage dt now
    first w f source trial flag, setting.mesh.advance_stepped someField fits input.small stage dt now
    first _, ?_⟩
  intro cell inside flagged short
  have extended := Mesh.extendedGrid_of_interiorGrid inside
  have flagged := (CorrectionFlags.get_ofFn _ extended).symm.trans flagged
  generalize CorrectionFlags.mirrored setting.mesh source
    (bad setting (setting.mesh.predicted stage dt room now first f trial)) = flags at flagged ⊢
  have budget : CellBudget setting.mesh thermo stage dt cell (now cell) (first cell)
      (fun axis => setting.repairedFlux w flags axis (f axis)) _ :=
    gas.cellBudget input.covered enough inside (fun axis member observable observed =>
      gas.repaired_takes fluxes_stored (f axis) flagged inside (Mesh.mem_activeAxes.mp member)
        observed) short
  refine Setting.physicalAt_ofFn input.covered gas.fluid stored.four_le extended ?_
  have interior : cell.index ∈ setting.mesh.interior := inside.2
  rw [Mesh.stepped, if_pos interior]
  exact budget.accepts gas.proper gas.readable
    fun place small _ => stage.getD_blended _ _ _ small

end Passes

/-- The cell that a bad flux would empty is flagged, and its update is physical after the repair. -/
theorem FluxCorrection.repair_physical_drained : ∃ after repaired report advanced,
    FluxCorrection.apply (.initial gasRow) warmRow ⟨1 / 2, 1 / 2, 1 / 2⟩ (1 / 2) atRest atRest atRest
        (.ofFn gasRow 5 drainFlux) (gasRow.chained .i) = .ok (after, repaired, report) ∧
      gasRow.advance ⟨1 / 2, 1 / 2, 1 / 2⟩ (1 / 2) repaired atRest atRest = .ok advanced ∧
      after.flags.get drainedCell = true ∧ warmRow.PhysicalAt advanced drainedCell := by
  have later : MeanStage warmRow ⟨1 / 2, 1 / 2, 1 / 2⟩ atRest atRest :=
    .later (by norm_num) (by norm_num) fun cell inside =>
      Setting.physicalAt_ofFn warmRow_covered rfl (by decide)
        (Mesh.extendedGrid_of_interiorGrid inside) accepts_restFields
  obtain ⟨after, repaired, report, advanced, applied, advances, repairs⟩ :=
    FluxCorrection.repair_physical (warmRow_input ⟨rfl, rfl⟩ ⟨rfl, rfl⟩ ⟨rfl, rfl⟩) (.inl rfl)
      (warmRow_gas (fun zone inside => primitiveOf_atRest inside ▸ physical_restState) rfl
        encode_atRest later (show (0 : ℝ) ≤ 1 / 2 by norm_num)) (gasRow.chained .i)
  have inside : drainedCell ∈ gasRow.interiorGrid := by decide
  have flagged := drainedCell_flagged applied
  refine ⟨after, repaired, report, advanced, applied, advances, flagged, repairs _ inside flagged ?_⟩
  change 1 / 2 / gasRow.spacingAt 0 .i * _ + 0 < _
  dsimp only
  rw [spacingAt_gasRow, speedAt_atRest (by decide), speedAt_atRest (by decide)]
  norm_num

section Passes

variable {numFields : Nat} {current start primitive : Patch ℝ} {fluxes : Fluxes ℝ}
  {correction : FluxCorrection ℝ}

/-- With two-wave fluxes between the cells no cell is flagged and all fluxes are kept, if the step is
short enough for the waves that enter each cell. -/
theorem FluxCorrection.apply_twoWave
    (input : SolvableInput setting numFields current start primitive fluxes correction)
    (fluxes_stored : setting.eos.StoredIn numFields)
    (gas : GasStage setting thermo stage dt current start primitive) (source : GuardSource)
    {axes : List Axis} (allActive : ∀ axis, axis ∈ axes ↔ setting.mesh.isActive axis = true)
    (short : ∀ cell ∈ setting.mesh.interiorGrid,
      setting.mesh.courant dt cell (fun axis => (thermo.boundsAt primitive axis cell).fastest -
        (thermo.boundsAt primitive axis (cell.shift 1 axis)).slowest) < 1) :
    ∃ states solved tally after,
      axes.mapM (FaceStates.piecewiseConstant setting.mesh primitive) = .ok states ∧
        fluxes.solve setting states = .ok (solved, tally) ∧
        correction.apply setting stage dt current start primitive solved source =
          .ok (after, solved, ⟨0, 0⟩) ∧
        ∀ zone ∈ setting.mesh.extendedGrid, after.flags.get zone = false := by
  obtain ⟨currentFields, now, rfl⟩ := Patch.exists_eq_ofFn input.current_grid
  obtain ⟨startFields, first, rfl⟩ := Patch.exists_eq_ofFn input.start_grid
  obtain ⟨stateFields, w, rfl⟩ := Patch.exists_eq_ofFn input.primitive_grid
  obtain ⟨f, rfl⟩ := input.fluxes_span.exists_eq_ofFn
  obtain ⟨trial, flag, rfl⟩ := input.correction_fits.exists_eq_ofFn
  have enough : 4 ≤ stateFields := input.primitive_fields
  have stored : setting.eos.StoredIn currentFields := gas.stored
  have room : min 5 currentFields ≤ startFields := input.start_fields
  let g : Axis → Zone → Vector ℝ numFields := fun axis =>
    if axis ∈ axes then Fluxes.solvedFluxes setting w axis (f axis) else f axis
  have states : axes.mapM (FaceStates.piecewiseConstant setting.mesh
      (.ofFn setting.mesh.extendedGrid stateFields w)) =
      .ok (axes.map (FaceStates.ofCells setting.mesh w)) :=
    mapM_eq_ok fun axis member =>
      FaceStates.piecewiseConstant_ofFn (by omega) w ((allActive axis).mp member)
  have solved := Fluxes.solve_ofFn input.covered enough input.someField w
    (fun axis member => (allActive axis).mp member) f
  have noneBad : ∀ cell ∈ setting.mesh.interiorGrid,
      bad setting (setting.mesh.predicted stage dt room now first g trial) cell = false := by
    intro cell inside
    have budget : CellBudget setting.mesh thermo stage dt cell (now cell) (first cell) g _ :=
      gas.cellBudget input.covered enough inside (fun axis member observable observed => by
        have active := Mesh.mem_activeAxes.mp member
        have solvedAxis : g axis = Fluxes.solvedFluxes setting w axis (f axis) :=
          if_pos ((allActive axis).mpr active)
        rw [solvedAxis]
        exact gas.solved_takes fluxes_stored (f axis) inside active observed) (short cell inside)
    exact bad_eq_false gas.fluid (budget.accepts gas.proper gas.readable
      fun place stored small => stage.getD_forecast room _ _ _ _ stored small)
  exact ⟨_, _, _, _, states, solved, apply_of_none_bad input.covered enough input.someField
    input.small room stage dt now first w g source trial flag noneBad,
    fun zone inside => CorrectionFlags.get_ofFn _ inside⟩

end Passes

/-- With wind in the row the waves differ from face to face, and at a step that keeps them inside
the cells the two-wave fluxes leave nothing to correct. -/
theorem FluxCorrection.apply_twoWave_parted : ∃ states solved tally after,
    [Axis.i].mapM (FaceStates.piecewiseConstant gasRow parted) = .ok states ∧
      (Fluxes.ofFn gasRow 5 drainFlux).solve warmRow states = .ok (solved, tally) ∧
      FluxCorrection.apply (.initial gasRow) warmRow ⟨0, 1, 1⟩ (1 / 4) partedConserved
        partedConserved parted solved (gasRow.chained .i) = .ok (after, solved, ⟨0, 0⟩) ∧
      ∀ zone ∈ gasRow.extendedGrid, after.flags.get zone = false := by
  have alongRow : ∀ axis, axis ∈ [Axis.i] ↔ gasRow.isActive axis = true := by decide
  refine FluxCorrection.apply_twoWave (warmRow_input ⟨rfl, rfl⟩ ⟨rfl, rfl⟩ ⟨rfl, rfl⟩) (.inl rfl)
    (warmRow_gas (fun zone inside => primitiveOf_parted inside ▸ physical_partedState zone) rfl
      encode_parted (.first partedConserved) (show (0 : ℝ) ≤ 1 / 4 by norm_num))
    (gasRow.chained .i) alongRow ?_
  intro cell inside
  have single : cell.block = 0 := Nat.lt_one_iff.mp inside.1
  have above : (cell.shift 1 .i).index.i = cell.index.i + 1 := rfl
  change 1 / 4 / gasRow.spacingAt cell.block .i * _ + 0 < _
  dsimp only
  rw [single, spacingAt_gasRow, boundsAt_parted (Mesh.lowerFace_mem .i inside),
    boundsAt_parted (Mesh.upperFace_mem .i inside), above]
  split_ifs <;> norm_num <;> omega

end BlockHydro
