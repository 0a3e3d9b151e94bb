import BlockHydro.Proofs.Stage.CorrectionPass

/-!
# Update, recovery and guard filling over tabulated states

The remaining passes of a stage, each described by the function it leaves.  The
update and the recovery change interior zones only, and guard filling changes
guard zones only.

A recovery in floored mode always completes.  One in diagnostic mode completes
exactly as the floored one does when no interior cell is refused.
-/

namespace BlockHydro

section GuardFilling

variable {R : Type} {mesh : Mesh R} {numFields : Nat}

/-- The fields of a zone after the guard zones of the row are filled. -/
def Mesh.filled (mesh : Mesh R) (w : Zone → Vector R numFields) (zone : Zone) :
    Vector R numFields :=
  if zone.index ∈ mesh.interior then w zone else w (mesh.rowSource zone)

theorem Mesh.fillGuardKernel_eq_ok {patch : Patch R} {zone : Zone}
    {fields source : Vector R patch.numFields}
    (found : zone.index ∉ mesh.interior → patch.fields (mesh.rowSource zone) = .ok source) :
    mesh.fillGuardKernel patch zone fields =
      .ok (if zone.index ∈ mesh.interior then fields else source) := by
  unfold fillGuardKernel
  split
  next => rfl
  next guard => exact found guard

/-- Guard filling succeeds where every guard zone has a source among the zones. -/
theorem Mesh.fillGuards_ofFn (someField : numFields ≠ 0) (w : Zone → Vector R numFields)
    (sources : ∀ zone ∈ mesh.extendedGrid, mesh.rowSource zone ∈ mesh.extendedGrid) :
    mesh.fillGuards (.ofFn mesh.extendedGrid numFields w) =
      .ok (.ofFn mesh.extendedGrid numFields (mesh.filled w)) := by
  have written : (Patch.ofFn mesh.extendedGrid numFields w).mapZonesM
      (mesh.fillGuardKernel (.ofFn mesh.extendedGrid numFields w)) =
      .ok (.ofFn mesh.extendedGrid numFields (mesh.filled w)) :=
    Patch.mapZonesM_ofFn someField fun zone inside =>
      fillGuardKernel_eq_ok fun _ => Patch.fields_ofFn w (sources zone inside)
  exact written

end GuardFilling

variable {R : Type} [Scalar R] {setting : Setting R} {mesh : Mesh R} {numFields : Nat}

section Update

/-- The fields of a zone after a stage. -/
def Mesh.advanced (mesh : Mesh R) (stage : StageWeights R) (dt : R) (small : numFields ≤ 5)
    (current start : Zone → Vector R numFields) (f : Axis → Zone → Vector R numFields)
    (zone : Zone) : Vector R numFields :=
  if zone.index ∈ mesh.interior then
    stage.combine small (current zone) (start zone) (mesh.divergence f (stage.rate * dt) zone)
  else
    current zone

theorem Mesh.advanceKernel_eq_ok {stage : StageWeights R} {dt : R} {fluxes : Fluxes R}
    {start : Patch R} {zone : Zone} {current blended : Vector R numFields}
    {first : Vector R start.numFields} {difference : Vector R 5}
    (found : zone.index ∈ mesh.interior →
      mesh.fluxDifference fluxes (stage.rate * dt) zone = .ok difference ∧
        start.fields zone = .ok first ∧ stage.blend current first difference = .ok blended) :
    mesh.advanceKernel stage dt fluxes start zone current =
      .ok (if zone.index ∈ mesh.interior then blended else current) := by
  unfold advanceKernel
  split
  next interior =>
    obtain ⟨divergence, firstFound, blends⟩ := found interior
    rw [divergence, firstFound]
    exact blends
  next => rfl

/-- A stage blends the interior cells and leaves the guard zones alone. -/
theorem Mesh.advance_ofFn (mesh : Mesh R) (someField : numFields ≠ 0) (small : numFields ≤ 5)
    (stage : StageWeights R) (dt : R) (current start : Zone → Vector R numFields)
    (f : Axis → Zone → Vector R numFields) :
    mesh.advance stage dt (.ofFn mesh numFields f) (.ofFn mesh.extendedGrid numFields current)
        (.ofFn mesh.extendedGrid numFields start) =
      .ok (.ofFn mesh.extendedGrid numFields (mesh.advanced stage dt small current start f)) := by
  have written : (Patch.ofFn mesh.extendedGrid numFields current).mapZonesM
      (mesh.advanceKernel stage dt (.ofFn mesh numFields f)
        (.ofFn mesh.extendedGrid numFields start)) =
      .ok (.ofFn mesh.extendedGrid numFields (mesh.advanced stage dt small current start f)) :=
    Patch.mapZonesM_ofFn someField fun zone inside =>
      advanceKernel_eq_ok fun interior =>
        ⟨fluxDifference_ofFn small f _ ⟨inside.1, interior⟩, Patch.fields_ofFn start inside,
          stage.blend_eq_ok small _ _ _⟩
  exact written

end Update

section Recovery

variable {targetFields : Nat}

/-- The fields of a cell after recovery, floored where the state is refused. -/
def Setting.recoveredFields (setting : Setting R) (metric : Metric R) (state : Conserved R)
    (before : Vector R targetFields) : Vector R targetFields :=
  match setting.eos.recover .diagnostic metric state with
  | .ok primitive => primitive.writeTo before
  | .error _ => (setting.eos.floored metric state).writeTo before

/-- The fields of a zone after recovery of the interior. -/
def Setting.recovered (setting : Setting R) (u : Zone → Vector R numFields)
    (w : Zone → Vector R targetFields) (zone : Zone) : Vector R targetFields :=
  if zone.index ∈ setting.mesh.interior then
    setting.recoveredFields (setting.cellGeometry zone) (.read (u zone)) (w zone)
  else
    w zone

/-- Whether floored recovery applies floors in a zone. -/
def Setting.floors (setting : Setting R) (u : Zone → Vector R numFields) (zone : Zone) : Bool :=
  decide (zone.index ∈ setting.mesh.interior) &&
    setting.eos.rejects (setting.cellGeometry zone) (.read (u zone))

theorem Setting.recoverKernel_eq_ok {mode : RecoveryMode} {conserved : Patch R} {zone : Zone}
    {metric : Metric R} {state : Conserved R} (before : Vector R targetFields)
    (found : zone.index ∈ setting.mesh.interior →
      setting.conservedAt conserved zone = .ok (metric, state))
    (accepted : zone.index ∈ setting.mesh.interior → mode = .diagnostic →
      setting.eos.rejects metric state = false) :
    setting.recoverKernel mode conserved zone before =
      .ok (if zone.index ∈ setting.mesh.interior then
          setting.recoveredFields metric state before
        else before,
        decide (zone.index ∈ setting.mesh.interior) && setting.eos.rejects metric state) := by
  unfold recoverKernel
  by_cases interior : zone.index ∈ setting.mesh.interior
  · have accepted := accepted interior
    simp only [interior, if_true, found interior, decide_true, Bool.true_and]
    dsimp only [Except.mapError, bind, Except.bind]
    unfold recoveredFields EquationOfState.rejects at *
    cases outcome : setting.eos.recover .diagnostic metric state with
    | ok primitive => rfl
    | error cause =>
      cases mode with
      | floored => rfl
      | diagnostic => simp [outcome] at accepted
  · simp only [interior, if_false, decide_false, Bool.false_and]
    rfl

/-- Recovery rewrites a zone if it is interior, and marks it where it applies floors; conserved states
are read in interior zones only. -/
theorem Setting.recoverKernel_of_stored (mode : RecoveryMode) (covered : setting.Covered)
    (enough : 4 ≤ numFields) {grid : Grid} (u : Zone → Vector R numFields) {zone : Zone}
    (inside : zone ∈ setting.mesh.extendedGrid)
    (stored : zone.index ∈ setting.mesh.interior → zone ∈ grid)
    (accepted : zone.index ∈ setting.mesh.interior → mode = .diagnostic →
      setting.eos.rejects (setting.cellGeometry zone) (.read (u zone)) = false)
    (before : Vector R targetFields) :
    setting.recoverKernel mode (.ofFn grid numFields u) zone before =
      .ok (if zone.index ∈ setting.mesh.interior then
          setting.recoveredFields (setting.cellGeometry zone) (.read (u zone)) before
        else before,
        setting.floors u zone) := by
  have found : zone.index ∈ setting.mesh.interior →
      setting.conservedAt (.ofFn grid numFields u) zone =
        .ok (setting.cellGeometry zone, .read (u zone)) := fun interior =>
    conservedAt_eq_ok (.ofFn grid numFields u) covered enough inside
      (Patch.fields_ofFn u (stored interior))
  exact recoverKernel_eq_ok before found accepted

theorem Setting.recoverKernel_ofFn (mode : RecoveryMode) (covered : setting.Covered)
    (enough : 4 ≤ numFields) (u : Zone → Vector R numFields) {zone : Zone}
    (inside : zone ∈ setting.mesh.extendedGrid)
    (accepted : zone.index ∈ setting.mesh.interior → mode = .diagnostic →
      setting.eos.rejects (setting.cellGeometry zone) (.read (u zone)) = false)
    (before : Vector R targetFields) :
    setting.recoverKernel mode (.ofFn setting.mesh.extendedGrid numFields u) zone before =
      .ok (if zone.index ∈ setting.mesh.interior then
          setting.recoveredFields (setting.cellGeometry zone) (.read (u zone)) before
        else before,
        setting.floors u zone) :=
  recoverKernel_of_stored mode covered enough u inside (fun _ => inside) accepted before

theorem Setting.recover_eq_sweepOver {mode : RecoveryMode} (conserved primitive : Patch R)
    (someField : primitive.numFields ≠ 0) :
    setting.recover mode conserved primitive =
      primitive.sweepOver primitive.grid.memoryOrder (setting.recoverKernel mode conserved) := by
  unfold recover
  rw [Patch.requireFields_ok someField]

/-- Recovery rewrites the interior cells and counts those where it applies floors; conserved states are
read in those cells only. -/
theorem Setting.recover_of_stored {mode : RecoveryMode} (covered : setting.Covered)
    (enough : 4 ≤ numFields) (someField : targetFields ≠ 0) {grid : Grid}
    (stored : ∀ cell ∈ setting.mesh.interiorGrid, cell ∈ grid) (u : Zone → Vector R numFields)
    (w : Zone → Vector R targetFields)
    (accepted : mode = .diagnostic → ∀ cell ∈ setting.mesh.interiorGrid,
      setting.eos.rejects (setting.cellGeometry cell) (.read (u cell)) = false) :
    setting.recover mode (.ofFn grid numFields u) (.ofFn setting.mesh.extendedGrid targetFields w) =
      (.ofFn setting.mesh.extendedGrid targetFields (setting.recovered u w),
        .ok (setting.mesh.extendedGrid.zones.countP (setting.floors u))) := by
  have swept : (Patch.ofFn setting.mesh.extendedGrid targetFields w).sweepOver
      setting.mesh.extendedGrid.memoryOrder (setting.recoverKernel mode (.ofFn grid numFields u)) =
      (.ofFn setting.mesh.extendedGrid targetFields (setting.recovered u w),
        .ok (setting.mesh.extendedGrid.zones.countP (setting.floors u))) :=
    Patch.sweepOver_ofFn setting.mesh.extendedGrid.nodup_memoryOrder Grid.mem_memoryOrder
      fun zone inside => recoverKernel_of_stored mode covered enough u inside
        (fun interior => stored zone ⟨inside.1, interior⟩)
        (fun interior diagnostic => accepted diagnostic zone ⟨inside.1, interior⟩) (w zone)
  exact (recover_eq_sweepOver _ (.ofFn setting.mesh.extendedGrid targetFields w) someField).trans swept

theorem Setting.recover_ofFn {mode : RecoveryMode} (covered : setting.Covered)
    (enough : 4 ≤ numFields) (someField : targetFields ≠ 0) (u : Zone → Vector R numFields)
    (w : Zone → Vector R targetFields)
    (accepted : mode = .diagnostic → ∀ zone ∈ setting.mesh.interiorGrid,
      setting.eos.rejects (setting.cellGeometry zone) (.read (u zone)) = false) :
    setting.recover mode (.ofFn setting.mesh.extendedGrid numFields u)
        (.ofFn setting.mesh.extendedGrid targetFields w) =
      (.ofFn setting.mesh.extendedGrid targetFields (setting.recovered u w),
        .ok (setting.mesh.extendedGrid.zones.countP (setting.floors u))) :=
  recover_of_stored covered enough someField (fun _ => Mesh.extendedGrid_of_interiorGrid) u w accepted

theorem Setting.encodeKernel_eq_ok {width : Nat} (primitive : Patch R) {zone : Zone}
    {metric : Metric R} {fields : Vector R primitive.numFields} (enough : 4 ≤ primitive.numFields)
    (metricFound : MetricField.cellMetric setting.metric zone = .ok metric)
    (found : primitive.fields zone = .ok fields) (before : Vector R width) :
    setting.encodeKernel primitive zone before =
      .ok ((setting.eos.encode metric (.read fields)).writeTo before) := by
  unfold encodeKernel
  rw [metricFound, found]
  dsimp only [bind, Except.bind]
  rw [Primitive.ofFields_eq_ok enough]
  rfl

/-- Writing the conserved states encodes the primitive ones. -/
theorem Setting.encode_ofFn {width : Nat} (covered : setting.Covered) (enough : 4 ≤ numFields)
    (someField : width ≠ 0) (w : Zone → Vector R numFields) (u : Zone → Vector R width) :
    setting.encode (.ofFn setting.mesh.extendedGrid numFields w)
        (.ofFn setting.mesh.extendedGrid width u) =
      .ok (.ofFn setting.mesh.extendedGrid width fun zone =>
        (setting.eos.encode (setting.cellGeometry zone) (.read (w zone))).writeTo (u zone)) := by
  have written : (Patch.ofFn setting.mesh.extendedGrid width u).mapZonesM
      (setting.encodeKernel (.ofFn setting.mesh.extendedGrid numFields w)) =
      .ok (.ofFn setting.mesh.extendedGrid width fun zone =>
        (setting.eos.encode (setting.cellGeometry zone) (.read (w zone))).writeTo (u zone)) :=
    Patch.mapZonesM_ofFn someField fun zone inside =>
      encodeKernel_eq_ok (.ofFn setting.mesh.extendedGrid numFields w) enough
        (cellMetric_eq_ok covered inside) (Patch.fields_ofFn w inside) (u zone)
  exact written

end Recovery

end BlockHydro
