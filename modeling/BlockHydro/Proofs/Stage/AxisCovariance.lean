import BlockHydro.Proofs.Stage.RelabelledStage
import BlockHydro.Proofs.Stage.SharedFaces
import BlockHydro.Proofs.Stage.StageData

/-!
# Covariance of a stage under renaming of the axes

On a mesh that extends along all three axes no axis is special.  The same data
under new names of the axes, in the same cyclic order, lead to the same results
under new names: `StageData.covariant`.  The flux pass gets them bit for bit.  The
update adds up the axes in their order, and a state is recovered from sums over
its components, so the rest of the stage needs exact arithmetic.
-/

namespace BlockHydro

/-- Results of two stages that differ in the names of the axes; what is counted is the same. -/
structure StageResult.Relabels {R : Type} (result named : StageResult R) : Prop where
  solved : result.solved.Relabels named.solved
  tally : named.tally = result.tally
  trial : result.correction.trial.Relabels named.correction.trial
  flags : result.correction.flags.Relabels named.correction.flags
  repaired : result.repaired.Relabels named.repaired
  report : named.report = result.report
  advanced : result.advanced.Relabels named.advanced

namespace StageData

section Runs

variable {R : Type} [Scalar R]

/-- Data of a stage over a mesh that extends along all axes, for which no pass lacks a field. -/
structure Shaped (data : StageData R) (fluxFields : Nat) : Prop where
  input : SolvableInput data.setting fluxFields data.current data.start data.primitive data.fluxes
    data.correction
  solid : data.setting.mesh.IsSolid
  flux_fields : 4 ≤ fluxFields
  current_fields : 4 ≤ data.current.numFields ∧ data.current.numFields ≤ 5
  start_fields : data.current.numFields ≤ data.start.numFields

/-- Data of two stages that differ in the names of the axes.  The room for the results may hold
anything, except where the prediction leaves it alone. -/
structure Relabels (data named : StageData R) (fluxFields : Nat) : Prop where
  setting : data.setting.Relabels named.setting
  current : data.current.Relabels named.current
  start : data.start.Relabels named.start
  primitive : data.primitive.Relabels named.primitive
  fluxes : named.fluxes.Spans named.setting.mesh fluxFields
  correction : named.correction.Fits named.setting.mesh
  unwritten : data.current.numFields = 4 → ∀ cell ∈ data.setting.mesh.interiorGrid,
    named.correction.trial.get cell.relabel 4 = data.correction.trial.get cell 4
  source : GuardSource.Relabels data.setting.mesh data.source named.source

end Runs

section Tables

variable {currentFields startFields stateFields fluxFields : Nat}

/-- On a solid mesh the pass over all axes stores the flux of every face. -/
theorem solve_ofFn {R : Type} [Scalar R] {setting : Setting R} (covered : setting.Covered)
    (solid : setting.mesh.IsSolid) (enough : 4 ≤ stateFields) (someField : fluxFields ≠ 0)
    (now : Zone → Vector R currentFields) (first : Zone → Vector R startFields)
    (w : Zone → Vector R stateFields) (f : Axis → Zone → Vector R fluxFields)
    (trial : Zone → Vector R 5) (flag : Zone → Bool) (source : GuardSource) :
    (ofFn setting now first w f trial flag source).solve =
      .ok (.ofFn setting.mesh fluxFields fun axis => Fluxes.solvedFluxes setting w axis (f axis),
        Axis.all.foldl (fun tally axis => tally + Fluxes.axisTally setting w axis) .zero) := by
  have solved := solveActive_ofFn covered enough someField now first w f trial flag source
  unfold solve
  rw [← solid.activeAxes]
  exact solved

/-- On a solid mesh the stage over all axes completes, and leaves what the passes are known to
leave. -/
theorem run_ofFn {setting : Setting ℝ} (covered : setting.Covered)
    (solid : setting.mesh.IsSolid) (enough : 4 ≤ stateFields) (someField : fluxFields ≠ 0)
    (small : fluxFields ≤ 5) (someState : currentFields ≠ 0)
    (room : currentFields ≤ startFields ∧ currentFields ≤ 5)
    (predictable : min 5 currentFields ≤ startFields) (stage : StageWeights ℝ) (dt : ℝ)
    (now : Zone → Vector ℝ currentFields) (first : Zone → Vector ℝ startFields)
    (w : Zone → Vector ℝ stateFields) (f : Axis → Zone → Vector ℝ fluxFields)
    (trial : Zone → Vector ℝ 5) (flag : Zone → Bool) (source : GuardSource) :
    let solved := fun axis => Fluxes.solvedFluxes setting w axis (f axis)
    let predicted := setting.mesh.predicted stage dt predictable now first solved trial
    let flagged := CorrectionFlags.mirrored setting.mesh source
      (FluxCorrection.bad setting predicted)
    let repaired := fun axis => setting.repairedFlux w flagged axis (solved axis)
    (ofFn setting now first w f trial flag source).run stage dt = .ok {
      solved := .ofFn setting.mesh fluxFields solved
      tally := Axis.all.foldl (fun tally axis => tally + Fluxes.axisTally setting w axis) .zero
      correction := .ofFn setting.mesh predicted flagged
      repaired := .ofFn setting.mesh fluxFields repaired
      report := ⟨setting.mesh.interiorGrid.zones.countP (FluxCorrection.bad setting predicted),
        setting.mesh.touchedFaces flagged⟩
      advanced := .ofFn setting.mesh.extendedGrid currentFields
        (setting.mesh.stepped stage dt now first repaired) } := by
  intro solved predicted flagged repaired
  have completes := runActive_ofFn covered enough someField small someState room predictable stage dt
    now first w f trial flag source
  unfold run solve
  rw [← solid.activeAxes]
  exact completes

end Tables

section Names

/-- Data that differ in the names of the axes are tables with the same numbers of fields. -/
theorem Relabels.exists_eq_ofFn {R : Type} [Scalar R] {fluxFields : Nat} {data named : StageData R}
    (relabels : data.Relabels named fluxFields) (shaped : data.Shaped fluxFields) :
    ∃ (setting namedSetting : Setting R) (currentFields startFields stateFields : Nat)
      (now namedNow : Zone → Vector R currentFields) (first namedFirst : Zone → Vector R startFields)
      (w namedW : Zone → Vector R stateFields) (f g : Axis → Zone → Vector R fluxFields)
      (trial namedTrial : Zone → Vector R 5) (flag namedFlag : Zone → Bool)
      (source namedSource : GuardSource),
      data = ofFn setting now first w f trial flag source ∧
      named = ofFn namedSetting namedNow namedFirst namedW g namedTrial namedFlag namedSource := by
  have grids := relabels.setting.mesh.extendedGrid shaped.solid
  have stored := stored_of_input shaped.input
  have namedStored : named.Stored fluxFields := by
    refine ⟨?_, ?_, ?_, relabels.fluxes, relabels.correction⟩
    · rw [relabels.current.grid, stored.current, grids]
    · rw [relabels.start.grid, stored.start, grids]
    · rw [relabels.primitive.grid, stored.primitive, grids]
  exact exists_eq_ofFn_both stored namedStored relabels.current.numFields relabels.start.numFields
    relabels.primitive.numFields

section Passes

variable {R : Type} {currentFields startFields stateFields fluxFields : Nat}
  {setting namedSetting : Setting R} {now namedNow : Zone → Vector R currentFields}
  {first namedFirst : Zone → Vector R startFields} {w namedW : Zone → Vector R stateFields}
  {f g : Axis → Zone → Vector R fluxFields} {trial namedTrial : Zone → Vector R 5}
  {flag namedFlag : Zone → Bool} {source namedSource : GuardSource}

/-- What the passes of a stage need to know of tables that differ in the names of the axes. -/
structure Renamed (setting namedSetting : Setting R) (fluxFields : Nat)
    (now namedNow : Zone → Vector R currentFields) (first namedFirst : Zone → Vector R startFields)
    (w namedW : Zone → Vector R stateFields) (trial namedTrial : Zone → Vector R 5)
    (source namedSource : GuardSource) : Prop where
  names : setting.Relabels namedSetting
  solid : setting.mesh.IsSolid
  covered : setting.Covered
  current_fields : 4 ≤ currentFields
  room : currentFields ≤ startFields ∧ currentFields ≤ 5
  state_fields : 4 ≤ stateFields
  flux_fields : 4 ≤ fluxFields
  small : fluxFields ≤ 5
  current : Renames setting.mesh.extendedGrid now namedNow
  start : Renames setting.mesh.extendedGrid first namedFirst
  states : Renames setting.mesh.extendedGrid w namedW
  unwritten : currentFields = 4 → ∀ cell ∈ setting.mesh.interiorGrid,
    (namedTrial cell.relabel)[4] = (trial cell)[4]
  source : GuardSource.Relabels setting.mesh source namedSource

/-- Tabulated data that differ in the names of the axes hold tables that do. -/
theorem Relabels.renamed
    (relabels : (ofFn setting now first w f trial flag source).Relabels
      (ofFn namedSetting namedNow namedFirst namedW g namedTrial namedFlag namedSource) fluxFields)
    (shaped : (ofFn setting now first w f trial flag source).Shaped fluxFields) :
    Renamed setting namedSetting fluxFields now namedNow first namedFirst w namedW trial namedTrial
      source namedSource := by
  have names : setting.Relabels namedSetting := relabels.setting
  have grids := names.mesh.extendedGrid shaped.solid
  have current_fields : 4 ≤ currentFields := shaped.current_fields.1
  have room : currentFields ≤ startFields ∧ currentFields ≤ 5 :=
    ⟨shaped.start_fields, shaped.current_fields.2⟩
  have state_fields : 4 ≤ stateFields := shaped.input.primitive_fields
  constructor
  case names => exact names
  case solid => exact shaped.solid
  case covered => exact shaped.input.covered
  case current_fields => exact current_fields
  case room => exact room
  case state_fields => exact state_fields
  case flux_fields => exact shaped.flux_fields
  case small => exact shaped.input.small
  case current => exact (Patch.relabels_ofFn grids current_fields).mp relabels.current
  case start =>
    exact (Patch.relabels_ofFn grids (Nat.le_trans current_fields room.1)).mp relabels.start
  case states => exact (Patch.relabels_ofFn grids state_fields).mp relabels.primitive
  case source => exact relabels.source
  case unwritten =>
    intro narrow cell inside
    have there : cell.relabel ∈ namedSetting.mesh.interiorGrid := by
      rw [names.mesh.interiorGrid]
      exact Grid.relabel_mem.mpr inside
    have kept := relabels.unwritten narrow cell inside
    have namedRead := Patch.get_ofFn namedTrial there (show 4 < 5 by decide)
    have read := Patch.get_ofFn trial inside (show 4 < 5 by decide)
    exact Except.ok.inj (namedRead.symm.trans (kept.trans read))

end Passes

/-- The flux pass finds the same fluxes and the same counts under new names. -/
theorem Relabels.solve {R : Type} [Scalar R] {fluxFields : Nat} {data named : StageData R}
    (relabels : data.Relabels named fluxFields) (shaped : data.Shaped fluxFields) :
    ∃ solved namedSolved tally, data.solve = .ok (solved, tally) ∧
      named.solve = .ok (namedSolved, tally) ∧ solved.Relabels namedSolved := by
  obtain ⟨setting, namedSetting, currentFields, startFields, stateFields, now, namedNow, first,
    namedFirst, w, namedW, f, g, trial, namedTrial, flag, namedFlag, source, namedSource, rfl,
    rfl⟩ := relabels.exists_eq_ofFn shaped
  obtain ⟨names, solid, covered, -, -, state_fields, flux_fields, small, -, -, states, -, -⟩ :=
    relabels.renamed shaped
  have solved := solve_ofFn covered solid state_fields (by omega) now first w f trial flag source
  have namedSolved := solve_ofFn (names.covered solid covered) (names.mesh.isSolid solid)
    state_fields (by omega) namedNow namedFirst namedW g namedTrial namedFlag namedSource
  rw [names.tally solid covered state_fields states] at namedSolved
  exact ⟨_, _, _, solved, namedSolved, Fluxes.relabels_ofFn names.mesh solid flux_fields
    (names.solvedFluxes solid covered state_fields states flux_fields small f g)⟩

/-- In exact arithmetic every pass of a stage leaves the same under new names. -/
theorem Relabels.run {fluxFields : Nat} {data named : StageData ℝ}
    (relabels : data.Relabels named fluxFields) (shaped : data.Shaped fluxFields)
    (stage : StageWeights ℝ) (dt : ℝ) :
    ∃ result namedResult, data.run stage dt = .ok result ∧ named.run stage dt = .ok namedResult ∧
      result.Relabels namedResult := by
  obtain ⟨setting, namedSetting, currentFields, startFields, stateFields, now, namedNow, first,
    namedFirst, w, namedW, f, g, trial, namedTrial, flag, namedFlag, source, namedSource, rfl,
    rfl⟩ := relabels.exists_eq_ofFn shaped
  obtain ⟨names, solid, covered, current_fields, room, state_fields, flux_fields, small, current,
    start, states, unwritten, sources⟩ := relabels.renamed shaped
  have predictable : min 5 currentFields ≤ startFields := by omega
  refine ⟨_, _, run_ofFn covered solid state_fields (by omega) small (by omega) room predictable
    stage dt now first w f trial flag source, run_ofFn (names.covered solid covered)
    (names.mesh.isSolid solid) state_fields (by omega) small (by omega) room predictable stage dt
    namedNow namedFirst namedW g namedTrial namedFlag namedSource, ?_⟩
  -- What each pass leaves, one after another.
  have solved := names.solvedFluxes solid covered state_fields states flux_fields small f g
  have predicted := names.mesh.predicted solid stage dt current_fields predictable current start
    flux_fields solved unwritten
  have bad := fun cell (inside : cell ∈ setting.mesh.interiorGrid) =>
    names.bad covered predicted inside
  have flagged := fun zone (inside : zone ∈ setting.mesh.extendedGrid) =>
    names.mesh.mirrored sources bad inside
  have repaired := names.repairedFlux solid covered state_fields states flagged flux_fields small
    solved
  have advanced := names.mesh.stepped solid stage dt current_fields room current start flux_fields
    repaired
  constructor
  case solved => exact Fluxes.relabels_ofFn names.mesh solid flux_fields solved
  case tally => exact names.tally solid covered state_fields states
  case trial => exact (Patch.relabels_ofFn names.mesh.interiorGrid (by decide)).mpr predicted
  case flags => exact CorrectionFlags.relabels_ofFn names.mesh solid flagged
  case repaired => exact Fluxes.relabels_ofFn names.mesh solid flux_fields repaired
  case report =>
    rw [CorrectionReport.mk.injEq, names.mesh.interiorGrid]
    exact ⟨Grid.countP_relabel bad, names.mesh.touchedFaces solid flagged⟩
  case advanced =>
    exact (Patch.relabels_ofFn (names.mesh.extendedGrid solid) current_fields).mpr advanced

end Names

/-- A stage does not depend on the names of the axes.  Data that differ in the names lead to fluxes
that differ in the names bit for bit, and in exact arithmetic so do the predictions, the flags, the
repaired fluxes and the new states, while the counts are the same. -/
theorem covariant :
    (∀ (R : Type) [Scalar R] (fluxFields : Nat) (data named : StageData R),
      data.Shaped fluxFields → data.Relabels named fluxFields →
      ∃ solved namedSolved tally, data.solve = .ok (solved, tally) ∧
        named.solve = .ok (namedSolved, tally) ∧ solved.Relabels namedSolved) ∧
    ∀ (fluxFields : Nat) (data named : StageData ℝ),
      data.Shaped fluxFields → data.Relabels named fluxFields →
      ∀ (stage : StageWeights ℝ) (dt : ℝ), ∃ result namedResult,
        data.run stage dt = .ok result ∧ named.run stage dt = .ok namedResult ∧
        result.Relabels namedResult :=
  ⟨fun _ _ _ _ _ shaped relabels => relabels.solve shaped,
    fun _ _ _ shaped relabels stage dt => relabels.run shaped stage dt⟩

section Outflow

variable (R : Type) [Scalar R]

/-- A block of two by three by four cells. -/
def brick : Mesh R where
  interior := ⟨⟨0, 0, 0⟩, ⟨2, 3, 4⟩, by decide⟩
  guardDepth := 1
  spacing := #[⟨1, 0.5, 0.25⟩]
  lower_eq_zero := rfl
  guardDepth_pos := Nat.one_pos
  spacing_nonempty := Nat.one_pos

/-- The block under new names of the axes. -/
def namedBrick : Mesh R where
  interior := ⟨⟨0, 0, 0⟩, ⟨3, 4, 2⟩, by decide⟩
  guardDepth := 1
  spacing := #[⟨0.5, 0.25, 1⟩]
  lower_eq_zero := rfl
  guardDepth_pos := Nat.one_pos
  spacing_nonempty := Nat.one_pos

theorem brick_relabels : (brick R).Relabels (namedBrick R) where
  interior := rfl
  guardDepth := rfl
  spacing := by simp [brick, namedBrick, PerAxis.relabel, PerAxis.rotate, PerAxis.get, Axis.next]

theorem brick_solid : (brick R).IsSolid := by
  intro axis
  cases axis <;> exact of_decide_eq_true rfl

/-- The vector from the origin to a zone. -/
def radius (zone : Zone) : PerAxis R := zone.index.map IntCast.intCast

/-- Five fields whose vector points away from the origin, the longer the farther. -/
def outward (zone : Zone) : Vector R 5 := (Primitive.mk 1 (radius R zone) 1).toFields

/-- Flat space, in coordinates that are dragged away from the origin. -/
def draggedSpace (zone : Zone) : Metric R := ⟨.identity, radius R zone, 1⟩

variable {R}

/-- Guard zones stand for the cells at the opposite end of the block. -/
def periodic (mesh : Mesh R) (zone : Zone) : Option Zone :=
  some ⟨zone.block, PerAxis.ofFn fun axis => zone.index.get axis % mesh.interior.extent axis⟩

/-- A relativistic gas that streams away from the origin. -/
def outflow (mesh : Mesh R) : StageData R where
  setting := ⟨mesh, ⟨.relativistic 1.4 1, .standard, .standard⟩,
    some ⟨.ofFn mesh.extendedGrid (draggedSpace R)⟩⟩
  current := .ofFn mesh.extendedGrid 5 (outward R)
  start := .ofFn mesh.extendedGrid 5 (outward R)
  primitive := .ofFn mesh.extendedGrid 5 (outward R)
  fluxes := .zeros mesh 5
  correction := .initial mesh
  source := periodic mesh

theorem outward_renames (grid : Grid) : Renames grid (outward R) (outward R) := by
  intro zone _
  refine eq_relabelFields (by decide) fun field stored => ?_
  interval_cases field <;> rfl

theorem outflow_shaped : (outflow (brick R)).Shaped 5 where
  input := by
    refine ⟨?_, rfl, rfl, rfl, Fluxes.spans_zeros _ 5, FluxCorrection.fits_initial _, ?_, ?_, ?_, ?_⟩
    · intro field given zone inside
      cases given
      exact inside
    · exact (by decide : 4 ≤ 5)
    · exact (by decide : min 5 5 ≤ 5)
    all_goals decide
  solid := brick_solid R
  flux_fields := by decide
  current_fields := (by decide : 4 ≤ 5 ∧ 5 ≤ 5)
  start_fields := Nat.le_refl 5

theorem outflow_relabels : (outflow (brick R)).Relabels (outflow (namedBrick R)) 5 := by
  have mesh := brick_relabels R
  have grids := mesh.extendedGrid (brick_solid R)
  have patch : (Patch.ofFn (brick R).extendedGrid 5 (outward R)).Relabels
      (.ofFn (namedBrick R).extendedGrid 5 (outward R)) :=
    (Patch.relabels_ofFn grids (by decide)).mpr (outward_renames _)
  refine ⟨⟨mesh, rfl, .some ⟨grids, ?_⟩⟩, patch, patch, patch, Fluxes.spans_zeros _ 5,
    FluxCorrection.fits_initial _, ?_, ?_⟩
  · intro zone inside
    have there : zone.relabel ∈ (namedBrick R).extendedGrid := by
      rw [grids]
      exact Grid.relabel_mem.mpr inside
    have named := ZoneArray.get?_ofFn (draggedSpace R) there
    have given : (ZoneArray.ofFn (brick R).extendedGrid (draggedSpace R)).get? zone =
        some (draggedSpace R zone) := ZoneArray.get?_ofFn _ inside
    have turned := congrArg (Option.map fun metric : Metric R => metric.rotate .j) given
    exact named.trans turned.symm
  · intro narrow
    cases narrow
  · intro zone _ _
    refine congrArg some (congrArg (Zone.mk zone.block) (PerAxis.ext_get fun axis => ?_))
    have length : (namedBrick R).interior.extent axis = (brick R).interior.extent axis.next :=
      (brick R).interior.extent_relabel axis
    simp only [PerAxis.get_ofFn, PerAxis.get_relabel, Zone.index_relabel]
    exact congrArg (fun size : Nat => zone.index.get axis.next % (size : Int)) length

/-- The gas that streams away from the origin does so under both names of the axes: in binary64 when
the faces are solved, and in exact arithmetic through a whole stage. -/
theorem covariant_outflow :
    (∃ solved namedSolved tally,
      (outflow (brick Float)).solve = .ok (solved, tally) ∧
        (outflow (namedBrick Float)).solve = .ok (namedSolved, tally) ∧
        solved.Relabels namedSolved) ∧
    ∃ result namedResult,
      (outflow (brick ℝ)).run ⟨0, 1, 1⟩ 0.5 = .ok result ∧
        (outflow (namedBrick ℝ)).run ⟨0, 1, 1⟩ 0.5 = .ok namedResult ∧
        result.Relabels namedResult :=
  ⟨covariant.1 Float 5 _ _ outflow_shaped outflow_relabels,
    covariant.2 5 _ _ outflow_shaped outflow_relabels ⟨0, 1, 1⟩ 0.5⟩

end Outflow

end StageData

end BlockHydro
