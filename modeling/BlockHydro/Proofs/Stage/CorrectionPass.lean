import Mathlib.Algebra.GroupWithZero.Nat
import BlockHydro.Proofs.Stage.Tables

/-!
# The correction pass over tabulated states

One section follows each phase of the pass: the prediction, the test, the guard
flags and the repair.  Each phase is described by the function that it leaves,
and `FluxCorrection.apply_ofFn` puts them together.  The pass stops early when no
cell is flagged; the description covers that case too, because then no guard
zone is flagged and no face is replaced.
-/

namespace BlockHydro

variable {R : Type}

/-- The marked zones of the extended boxes that are interior are the marked interior cells. -/
theorem Mesh.countP_interior (mesh : Mesh R) (mark : Zone → Bool) :
    (mesh.extendedGrid.zones.countP fun zone => decide (zone.index ∈ mesh.interior) && mark zone) =
      mesh.interiorGrid.zones.countP mark := by
  rw [← mesh.filter_extendedGrid, List.countP_filter]
  simp only [Bool.and_comm]

/-- Whether a cell next to a face is flagged. -/
def touches (flag : Zone → Bool) (axis : Axis) (face : Zone) : Bool :=
  flag (face.shift (-1) axis) || flag face

/-- The number of stored faces next to flagged zones. -/
def Mesh.touchedFaces (mesh : Mesh R) (flag : Zone → Bool) : Nat :=
  (mesh.activeAxes.map fun axis => (mesh.faceGrid axis).zones.countP (touches flag axis)).sum

theorem touches_congr {mesh : Mesh R} {first second : Zone → Bool} {axis : Axis} {face : Zone}
    (same : ∀ zone ∈ mesh.extendedGrid, first zone = second zone)
    (active : mesh.isActive axis = true) (inside : face ∈ mesh.faceGrid axis) :
    touches first axis face = touches second axis face := by
  rw [touches, same _ (Mesh.lowerCell_mem active inside), same _ (Mesh.upperCell_mem active inside),
    touches]

/-- Where no zone is flagged, no face is touched. -/
theorem touches_eq_false {mesh : Mesh R} {flag : Zone → Bool} {axis : Axis} {face : Zone}
    (noneFlagged : ∀ zone ∈ mesh.extendedGrid, flag zone = false)
    (active : mesh.isActive axis = true) (inside : face ∈ mesh.faceGrid axis) :
    touches flag axis face = false := by
  rw [touches, noneFlagged _ (Mesh.lowerCell_mem active inside),
    noneFlagged _ (Mesh.upperCell_mem active inside), Bool.or_self]

theorem Mesh.touchedFaces_congr {mesh : Mesh R} {first second : Zone → Bool}
    (same : ∀ zone ∈ mesh.extendedGrid, first zone = second zone) :
    mesh.touchedFaces first = mesh.touchedFaces second := by
  unfold touchedFaces
  congr 1
  apply List.map_congr_left
  intro axis active
  apply List.countP_congr
  intro face inside
  rw [touches_congr same (mem_activeAxes.mp active) (Grid.mem_zones.mp inside)]

/-- Counting up item by item gives the sum. -/
theorem foldl_add_eq_sum {α : Type} (count : α → Nat) (items : List α) (start : Nat) :
    items.foldl (fun total item => total + count item) start = start + (items.map count).sum := by
  induction items generalizing start with
  | nil => rfl
  | cons item later ih => rw [List.foldl_cons, ih, List.map_cons, List.sum_cons, Nat.add_assoc]

theorem Mesh.touchedFaces_eq_zero {mesh : Mesh R} {flag : Zone → Bool}
    (noneFlagged : ∀ zone ∈ mesh.extendedGrid, flag zone = false) : mesh.touchedFaces flag = 0 := by
  apply List.sum_eq_zero_iff_forall_eq_nat.mpr
  intro count member
  obtain ⟨axis, active, rfl⟩ := List.mem_map.mp member
  apply Grid.countP_zones_eq_zero.mpr
  intro face inside
  exact touches_eq_false noneFlagged (mem_activeAxes.mp active) inside

namespace CorrectionFlags

/-- The flag of a zone when the interior cells have been tested. -/
def tested (mesh : Mesh R) (bad : Zone → Bool) (zone : Zone) : Bool :=
  decide (zone.index ∈ mesh.interior) && bad zone

/-- The flag of a zone of the extended boxes, when guard zones mirror the cells they stand for. -/
def mirrored (mesh : Mesh R) (source : GuardSource) (bad : Zone → Bool) (zone : Zone) : Bool :=
  if zone.index ∈ mesh.interior then bad zone
  else
    match source zone with
    | some origin => decide (origin ∈ mesh.interiorGrid) && bad origin
    | none => false

theorem mirrored_of_mem {mesh : Mesh R} {source : GuardSource} {marked : Zone → Bool} {zone : Zone}
    (interior : zone.index ∈ mesh.interior) :
    mirrored mesh source marked zone = marked zone :=
  if_pos interior

/-- A guard zone is flagged exactly when it stands for a flagged interior cell. -/
theorem mirrored_guard_iff {mesh : Mesh R} {source : GuardSource} {marked : Zone → Bool}
    {zone : Zone} (guard : zone.index ∉ mesh.interior) :
    mirrored mesh source marked zone = true ↔
      ∃ origin ∈ mesh.interiorGrid, source zone = some origin ∧
        mirrored mesh source marked origin = true := by
  rw [mirrored, if_neg guard]
  constructor
  · intro flagged
    cases given : source zone with
    | none => simp [given] at flagged
    | some origin =>
      simp only [given, Bool.and_eq_true, decide_eq_true_eq] at flagged
      exact ⟨origin, flagged.1, rfl, by rw [mirrored_of_mem flagged.1.2]; exact flagged.2⟩
  · rintro ⟨origin, known, given, flagged⟩
    rw [mirrored_of_mem known.2] at flagged
    simp only [given, known, flagged, decide_true, Bool.and_true]

/-- Where no interior cell is bad, no zone is flagged. -/
theorem mirrored_of_none_bad {mesh : Mesh R} (source : GuardSource) {bad : Zone → Bool}
    (noneBad : ∀ cell ∈ mesh.interiorGrid, bad cell = false) {zone : Zone}
    (inside : zone ∈ mesh.extendedGrid) : mirrored mesh source bad zone = false := by
  unfold mirrored
  split
  next interior => exact noneBad zone ⟨inside.1, interior⟩
  next =>
    split
    next origin _ =>
      by_cases known : origin ∈ mesh.interiorGrid
      · rw [noneBad origin known, Bool.and_false]
      · rw [decide_eq_false known, Bool.false_and]
    next => rfl

/-- Where no interior cell is bad, no zone is flagged by the test. -/
theorem tested_of_none_bad {mesh : Mesh R} {bad : Zone → Bool}
    (noneBad : ∀ cell ∈ mesh.interiorGrid, bad cell = false) {zone : Zone}
    (inside : zone ∈ mesh.extendedGrid) : tested mesh bad zone = false := by
  rw [tested]
  by_cases interior : zone.index ∈ mesh.interior
  · rw [noneBad zone ⟨inside.1, interior⟩, Bool.and_false]
  · rw [decide_eq_false interior, Bool.false_and]

/-- The flags that hold the values of a function. -/
def ofFn (mesh : Mesh R) (flag : Zone → Bool) : CorrectionFlags :=
  ⟨mesh.interior, .ofFn mesh.extendedGrid flag, fun _ => Mesh.interior_subset_extended⟩

theorem get_ofFn {mesh : Mesh R} (flag : Zone → Bool) {zone : Zone}
    (inside : zone ∈ mesh.extendedGrid) : (ofFn mesh flag).get zone = flag zone := by
  rw [get, ofFn, ZoneArray.get?_ofFn flag inside, Option.getD_some]

theorem ofFn_congr {mesh : Mesh R} {first second : Zone → Bool}
    (same : ∀ zone ∈ mesh.extendedGrid, first zone = second zone) :
    ofFn mesh first = ofFn mesh second :=
  CorrectionFlags.ext rfl (ZoneArray.ofFn_congr same)

theorem clear_ofFn (mesh : Mesh R) (flag : Zone → Bool) :
    (ofFn mesh flag).clear = ofFn mesh fun _ => false :=
  CorrectionFlags.ext rfl (ZoneArray.replicate_eq_ofFn mesh.extendedGrid false)

/-- A sweep whose kernel succeeds everywhere leaves the kernel's flags. -/
theorem sweep_ofFn {mesh : Mesh R} {ε : Type} {kernel : Zone → Bool → Except ε (Bool × Bool)}
    {flag after mark : Zone → Bool}
    (succeeds : ∀ zone ∈ mesh.extendedGrid, kernel zone (flag zone) = .ok (after zone, mark zone)) :
    (ofFn mesh flag).sweep kernel =
      (ofFn mesh after, .ok (mesh.extendedGrid.zones.countP mark)) := by
  have swept := ZoneArray.sweep_ofFn succeeds
  have zones := congrArg Prod.fst swept
  have marked := congrArg Prod.snd swept
  exact Prod.ext (CorrectionFlags.ext rfl zones) marked

/-- A guard zone takes the flag of the interior cell it stands for, if it stands for one. -/
theorem guardFlag_ofFn (mesh : Mesh R) (flag : Zone → Bool) (source : Option Zone) :
    (ofFn mesh flag).guardFlag source =
      match source with
      | some origin => decide (origin ∈ mesh.interiorGrid) && flag origin
      | none => false := by
  cases source with
  | none => rfl
  | some origin =>
    by_cases interior : origin ∈ mesh.interiorGrid
    · simp only [interior, decide_true, Bool.true_and]
      exact (dif_pos interior).trans
        (ZoneArray.value_ofFn flag (Mesh.extendedGrid_of_interiorGrid interior))
    · simp only [interior, decide_false, Bool.false_and]
      exact dif_neg interior

/-- Filling the guard flag of a zone leaves its mirrored flag. -/
theorem fillKernel_ofFn (mesh : Mesh R) (source : GuardSource) (bad : Zone → Bool) (zone : Zone) :
    (ofFn mesh (tested mesh bad)).fillKernel source zone (tested mesh bad zone) =
      .ok (mirrored mesh source bad zone, false) := by
  rw [fillKernel, guardFlag_ofFn, mirrored]
  change Except.ok (if zone.index ∈ mesh.interior then _ else _, false) = _
  by_cases interior : zone.index ∈ mesh.interior
  · simp only [tested, interior, if_true, decide_true, Bool.true_and]
  · simp only [interior, if_false]
    cases source zone with
    | none => rfl
    | some origin =>
      by_cases known : origin ∈ mesh.interiorGrid
      · have interiorOrigin : origin.index ∈ mesh.interior := known.2
        simp only [tested, interiorOrigin, decide_true, Bool.true_and]
      · simp only [known, decide_false, Bool.false_and]

/-- Filling the guard flags of tested cells mirrors their flags. -/
theorem fillGuards_ofFn (mesh : Mesh R) (source : GuardSource) (bad : Zone → Bool) :
    (ofFn mesh (tested mesh bad)).fillGuards source = ofFn mesh (mirrored mesh source bad) := by
  have swept : ∀ zone ∈ mesh.extendedGrid,
      (ofFn mesh (tested mesh bad)).fillKernel source zone (tested mesh bad zone) =
        .ok (mirrored mesh source bad zone, false) :=
    fun zone _ => fillKernel_ofFn mesh source bad zone
  exact congrArg Prod.fst (sweep_ofFn swept)

end CorrectionFlags

variable [Scalar R] {setting : Setting R} {mesh : Mesh R}
  {numFields currentFields startFields stateFields : Nat}

/-- The fields that the prediction leaves in a cell, with the divergence of the fluxes through its
faces. -/
def Mesh.predicted (mesh : Mesh R) (stage : StageWeights R) (dt : R)
    (room : min 5 currentFields ≤ startFields) (current : Zone → Vector R currentFields)
    (start : Zone → Vector R startFields) (f : Axis → Zone → Vector R numFields)
    (trial : Zone → Vector R 5) (cell : Zone) : Vector R 5 :=
  stage.forecast room (current cell) (start cell) (mesh.divergence f (stage.rate * dt) cell)
    (trial cell)

/-- Reading the metric and the conserved state of a zone succeeds. -/
theorem Setting.conservedAt_eq_ok (conserved : Patch R) {zone : Zone}
    {fields : Vector R conserved.numFields} (covered : setting.Covered)
    (enough : 4 ≤ conserved.numFields) (inside : zone ∈ setting.mesh.extendedGrid)
    (found : conserved.fields zone = .ok fields) :
    setting.conservedAt conserved zone = .ok (setting.cellGeometry zone, .read fields) := by
  unfold conservedAt
  rw [cellMetric_eq_ok covered inside, found]
  dsimp only [bind, Except.bind]
  rw [Conserved.ofFields_eq_ok enough]
  rfl

namespace FluxCorrection

/-- The correction whose predictions and flags hold the values of functions. -/
def ofFn (mesh : Mesh R) (trial : Zone → Vector R 5) (flag : Zone → Bool) : FluxCorrection R :=
  ⟨.ofFn mesh.interiorGrid 5 trial, .ofFn mesh flag⟩

section Prediction

variable {stage : StageWeights R} {dt : R}

theorem predictKernel_eq_ok {width : Nat} {current start : Patch R} {fluxes : Fluxes R} {cell : Zone}
    {now : Vector R current.numFields} {first : Vector R start.numFields} {difference : Vector R 5}
    {blended : Vector R (min width current.numFields)} {before : Vector R width}
    (divergence : mesh.fluxDifference fluxes (stage.rate * dt) cell = .ok difference)
    (nowFound : current.fields cell = .ok now) (firstFound : start.fields cell = .ok first)
    (blends : stage.blend (now.take width) first difference = .ok blended) :
    predictKernel mesh stage dt current start fluxes cell before = .ok (overwrite blended before) := by
  unfold predictKernel
  rw [divergence, nowFound, firstFound]
  dsimp only [bind, Except.bind]
  rw [blends]
  rfl

/-- The prediction writes the blend of the stage over the values of the pass before. -/
theorem predict_ofFn (small : numFields ≤ 5) (room : min 5 currentFields ≤ startFields)
    (current : Zone → Vector R currentFields) (start : Zone → Vector R startFields)
    (f : Axis → Zone → Vector R numFields) (trial : Zone → Vector R 5) (flag : Zone → Bool) :
    (ofFn mesh trial flag).predict mesh stage dt (.ofFn mesh.extendedGrid currentFields current)
        (.ofFn mesh.extendedGrid startFields start) (.ofFn mesh numFields f) =
      .ok (ofFn mesh (mesh.predicted stage dt room current start f trial) flag) := by
  have written : (Patch.ofFn mesh.interiorGrid 5 trial).mapZonesM
      (predictKernel mesh stage dt (.ofFn mesh.extendedGrid currentFields current)
        (.ofFn mesh.extendedGrid startFields start) (.ofFn mesh numFields f)) =
      .ok (.ofFn mesh.interiorGrid 5 (mesh.predicted stage dt room current start f trial)) :=
    Patch.mapZonesM_ofFn (by decide) fun cell inside => by
      have extended := Mesh.extendedGrid_of_interiorGrid inside
      obtain ⟨blended, blends, same⟩ := stage.blend_take_eq_ok room (current cell) (start cell)
        (mesh.divergence f (stage.rate * dt) cell)
      rw [Mesh.predicted, ← same]
      exact predictKernel_eq_ok (Mesh.fluxDifference_ofFn small f _ inside)
        (Patch.fields_ofFn current extended) (Patch.fields_ofFn start extended) blends
  exact congrArg (fun swept => do
    let trial ← swept
    return (⟨trial, .ofFn mesh flag⟩ : FluxCorrection R)) written

end Prediction

section Testing

/-- Whether a predicted cell is flagged. -/
def bad (setting : Setting R) (trial : Zone → Vector R 5) (cell : Zone) : Bool :=
  setting.eos.rejects (setting.cellGeometry cell) (.read (trial cell))

theorem isBad_ofFn (covered : setting.Covered) (trial : Zone → Vector R 5) {cell : Zone}
    (inside : cell ∈ setting.mesh.interiorGrid) :
    isBad setting (.ofFn setting.mesh.interiorGrid 5 trial) cell = .ok (bad setting trial cell) := by
  have extended := Mesh.extendedGrid_of_interiorGrid inside
  have state := Setting.conservedAt_eq_ok (.ofFn setting.mesh.interiorGrid 5 trial) covered
    (show 4 ≤ 5 by decide) extended (Patch.fields_ofFn trial inside)
  unfold isBad bad EquationOfState.rejects
  rw [state]
  dsimp only [bind, Except.bind]
  split <;> simp_all [pure, Except.pure]

theorem testKernel_ofFn (covered : setting.Covered) (trial : Zone → Vector R 5) (flag : Zone → Bool)
    {zone : Zone} (inside : zone ∈ setting.mesh.extendedGrid) (before : Bool) :
    testKernel setting (ofFn setting.mesh trial flag) zone before =
      .ok (CorrectionFlags.tested setting.mesh (bad setting trial) zone,
        CorrectionFlags.tested setting.mesh (bad setting trial) zone) := by
  unfold testKernel CorrectionFlags.tested ofFn CorrectionFlags.ofFn
  by_cases interior : zone.index ∈ setting.mesh.interior
  · have tested := isBad_ofFn covered trial ⟨inside.1, interior⟩
    simp only [interior, if_true, tested, decide_true, Bool.true_and]
    rfl
  · simp only [interior, if_false, decide_false, Bool.false_and]
    rfl

/-- The test flags the bad interior cells and no guard zone. -/
theorem test_ofFn (covered : setting.Covered) (trial : Zone → Vector R 5) (flag : Zone → Bool) :
    (ofFn setting.mesh trial flag).test setting =
      .ok (ofFn setting.mesh trial (CorrectionFlags.tested setting.mesh (bad setting trial)),
        setting.mesh.interiorGrid.zones.countP (bad setting trial)) := by
  have swept := CorrectionFlags.sweep_ofFn fun zone (inside : zone ∈ setting.mesh.extendedGrid) =>
    testKernel_ofFn covered trial flag inside (flag zone)
  have flags : (ofFn setting.mesh trial flag).flags = .ofFn setting.mesh flag := rfl
  rw [test, flags, swept, ← Mesh.countP_interior]
  rfl

end Testing

end FluxCorrection

section Repair

/-- The low-order flux between the two cells of a face. -/
def Setting.lowFlux (setting : Setting R) (w : Zone → Vector R stateFields) (axis : Axis)
    (face : Zone) : Conserved R :=
  setting.eos.lowOrderFlux axis (setting.faceGeometry axis face)
    (.read (w (face.shift (-1) axis))) (.read (w face))

/-- The flux of a face after the repair. -/
def Setting.repairedFlux (setting : Setting R) (w : Zone → Vector R stateFields) (flag : Zone → Bool)
    (axis : Axis) (before : Zone → Vector R numFields) (face : Zone) : Vector R numFields :=
  if touches flag axis face then (setting.lowFlux w axis face).writeTo (before face) else before face

/-- A face next to no flagged zone keeps its flux. -/
theorem Setting.repairedFlux_of_untouched (w : Zone → Vector R stateFields) {flag : Zone → Bool}
    {axis : Axis} (before : Zone → Vector R numFields) {face : Zone}
    (untouched : touches flag axis face = false) :
    setting.repairedFlux w flag axis before face = before face := by
  rw [repairedFlux, untouched]
  exact if_neg Bool.false_ne_true

theorem Setting.repairKernel_eq_ok {width : Nat} (flags : CorrectionFlags) (primitive : Patch R)
    {axis : Axis} {face : Zone} {metric : Metric R} {left right : Vector R primitive.numFields}
    (enough : 4 ≤ primitive.numFields)
    (leftFound : primitive.fields (face.shift (-1) axis) = .ok left)
    (rightFound : primitive.fields face = .ok right)
    (metricFound : MetricField.faceMetric setting.metric axis face = .ok metric)
    (before : Vector R width) :
    setting.repairKernel flags primitive axis face before =
      .ok (if touches flags.get axis face then
          ((setting.eos.lowOrderFlux axis metric (.read left) (.read right)).writeTo before, true)
        else (before, false)) := by
  unfold repairKernel touches
  dsimp only
  split
  next => rw [leftFound, rightFound, metricFound]
          dsimp only [bind, Except.bind]
          rw [Primitive.ofFields_eq_ok enough, Primitive.ofFields_eq_ok enough]
          rfl
  next => rfl

/-- Repairing the faces of an active axis replaces those next to flagged cells. -/
theorem Setting.repairAxis_ofFn (covered : setting.Covered) (enough : 4 ≤ stateFields)
    (someField : numFields ≠ 0) (flag : Zone → Bool) (w : Zone → Vector R stateFields) {axis : Axis}
    (active : setting.mesh.isActive axis = true) (before : Zone → Vector R numFields) :
    (Patch.ofFn (setting.mesh.faceGrid axis) numFields before).update
        (setting.repairKernel (.ofFn setting.mesh flag)
          (.ofFn setting.mesh.extendedGrid stateFields w) axis) =
      .ok (.ofFn (setting.mesh.faceGrid axis) numFields (setting.repairedFlux w flag axis before),
        (setting.mesh.faceGrid axis).zones.countP (touches flag axis)) := by
  apply Patch.update_ofFn someField
  intro face inside
  have lower := Mesh.lowerCell_mem active inside
  have upper := Mesh.upperCell_mem active inside
  have same : touches (CorrectionFlags.ofFn setting.mesh flag).get axis face =
      touches flag axis face :=
    touches_congr (fun _ => CorrectionFlags.get_ofFn flag) active inside
  refine (repairKernel_eq_ok _ (.ofFn setting.mesh.extendedGrid stateFields w) enough
    (Patch.fields_ofFn w lower) (Patch.fields_ofFn w upper) (faceMetric_eq_ok covered lower upper)
    (before face)).trans ?_
  rw [same, repairedFlux]
  split
  next touched => rw [touched]; rfl
  next untouched => rw [Bool.eq_false_iff.mpr untouched]

/-- The repair replaces the fluxes of the faces next to flagged cells and counts those faces. -/
theorem Setting.repair_ofFn (covered : setting.Covered) (enough : 4 ≤ stateFields)
    (someField : numFields ≠ 0) (flag : Zone → Bool) (w : Zone → Vector R stateFields)
    (f : Axis → Zone → Vector R numFields) :
    setting.repair (.ofFn setting.mesh flag) (.ofFn setting.mesh.extendedGrid stateFields w)
        (.ofFn setting.mesh numFields f) =
      .ok (.ofFn setting.mesh numFields fun axis => setting.repairedFlux w flag axis (f axis),
        setting.mesh.touchedFaces flag) := by
  unfold repair
  refine (Fluxes.foldlM_ofFn (setting.repairedFlux w flag)
    (fun total axis => total + (setting.mesh.faceGrid axis).zones.countP (touches flag axis))
    (fun axis member f total => ?_) (fun axis before => funext fun face => ?_) f 0).trans ?_
  · have active := Mesh.mem_activeAxes.mp member
    dsimp only
    rw [Fluxes.along_ofFn active]
    dsimp only
    rw [repairAxis_ofFn covered enough someField flag w active, ← Fluxes.replace_ofFn active]
    rfl
  · unfold repairedFlux
    split
    next => exact overwrite_overwrite _ _
    next => rfl
  · rw [foldl_add_eq_sum, Nat.zero_add, Fluxes.ofFn_congr fun axis active face _ => by
      rw [if_pos (Mesh.mem_activeAxes.mpr active)]]
    rfl

end Repair

namespace FluxCorrection

variable {stage : StageWeights R} {dt : R}

/-- A correction pass leaves the predictions, the mirrored flags of the bad cells, and the repaired
fluxes, and counts the bad cells and the faces next to flagged zones. -/
theorem apply_ofFn (covered : setting.Covered) (enough : 4 ≤ stateFields)
    (someField : numFields ≠ 0) (small : numFields ≤ 5) (room : min 5 currentFields ≤ startFields)
    (stage : StageWeights R) (dt : R) (current : Zone → Vector R currentFields)
    (start : Zone → Vector R startFields) (w : Zone → Vector R stateFields)
    (f : Axis → Zone → Vector R numFields) (source : GuardSource)
    (trial : Zone → Vector R 5) (flag : Zone → Bool) :
    let predicted := setting.mesh.predicted stage dt room current start f trial
    let flagged := CorrectionFlags.mirrored setting.mesh source (bad setting predicted)
    (ofFn setting.mesh trial flag).apply setting stage dt
        (.ofFn setting.mesh.extendedGrid currentFields current)
        (.ofFn setting.mesh.extendedGrid startFields start)
        (.ofFn setting.mesh.extendedGrid stateFields w) (.ofFn setting.mesh numFields f) source =
      .ok (ofFn setting.mesh predicted flagged,
        .ofFn setting.mesh numFields fun axis => setting.repairedFlux w flagged axis (f axis),
        ⟨setting.mesh.interiorGrid.zones.countP (bad setting predicted),
          setting.mesh.touchedFaces flagged⟩) := by
  intro predicted flagged
  have cleared : { ofFn setting.mesh trial flag with
      flags := (ofFn setting.mesh trial flag).flags.clear } =
      ofFn setting.mesh trial fun _ => false :=
    congrArg (mk _) (CorrectionFlags.clear_ofFn setting.mesh flag)
  unfold apply
  dsimp only
  rw [cleared, predict_ofFn small room]
  dsimp only [bind, Except.bind]
  rw [test_ofFn covered]
  dsimp only
  split
  next someBad =>
    have filled := CorrectionFlags.fillGuards_ofFn setting.mesh source (bad setting predicted)
    have repaired := Setting.repair_ofFn covered enough someField flagged w f
    unfold ofFn
    dsimp only
    rw [filled, repaired]
    rfl
  next noneBad =>
    have allGood : ∀ cell ∈ setting.mesh.interiorGrid, bad setting predicted cell = false :=
      Grid.countP_zones_eq_zero.mp (Nat.eq_zero_of_not_pos noneBad)
    have noneFlagged : ∀ zone ∈ setting.mesh.extendedGrid, flagged zone = false :=
      fun zone inside => CorrectionFlags.mirrored_of_none_bad source allGood inside
    have sameFlags : CorrectionFlags.ofFn setting.mesh
        (CorrectionFlags.tested setting.mesh (bad setting predicted)) = .ofFn setting.mesh flagged :=
      CorrectionFlags.ofFn_congr fun zone inside => by
        rw [noneFlagged zone inside, CorrectionFlags.tested_of_none_bad allGood inside]
    have sameFluxes : Fluxes.ofFn setting.mesh numFields f =
        .ofFn setting.mesh numFields fun axis => setting.repairedFlux w flagged axis (f axis) :=
      Fluxes.ofFn_congr fun axis active face inside =>
        (Setting.repairedFlux_of_untouched w (f axis)
          (touches_eq_false noneFlagged active inside)).symm
    rw [← sameFluxes, ofFn, sameFlags, Mesh.touchedFaces_eq_zero noneFlagged]
    rfl

end FluxCorrection

end BlockHydro
