import BlockHydro.Proofs.Stage.CorrectionEffect
import BlockHydro.Proofs.Stage.FluxPass

/-!
# Faces between blocks

Blocks that are chained along an axis store the faces between them twice: as the
last face of one block and as the first face of the next.  Each block computes
its copy from its own cells and guard zones.

If the guard zones at the ends of the blocks hold what the zones they stand for
hold, both copies are the same, before and after a correction pass, in every
field and whatever cells are flagged.  The reason is `SameAcross`: a value per
zone that is the same in a guard zone and in the zone it stands for is the same
on both sides of both copies, and states, metrics and flags are such values.

`Setting.SameSides` says of two faces, perhaps of two settings, that they lie
between the same states and metrics.  Such faces are solved and repaired alike.
-/

namespace BlockHydro

variable {R : Type} {mesh : Mesh R} {axis : Axis}

/-- A zone next to an end of its block along an axis, beyond the interior. -/
def Mesh.PastEnd (mesh : Mesh R) (axis : Axis) (zone : Zone) : Prop :=
  zone.index.get axis = -1 ∨ zone.index.get axis = mesh.interior.extent axis

theorem Mesh.PastEnd.not_mem {zone : Zone} (pastEnd : mesh.PastEnd axis zone) :
    zone.index ∉ mesh.interior := fun inside => by
  have range := mem_interior.mp inside axis
  obtain below | above := pastEnd <;> omega

/-- A value per zone that both copies of every face between blocks find on their two sides. -/
structure SameAcross {α : Type} (mesh : Mesh R) (axis : Axis) (value : Zone → α) (block : Nat)
    (index : Index) : Prop where
  below : value ((mesh.lastFace axis block index).shift (-1) axis) =
    value ((Mesh.firstFace axis (block + 1) index).shift (-1) axis)
  above : value (mesh.lastFace axis block index) = value (Mesh.firstFace axis (block + 1) index)

namespace SameAcross

variable {block : Nat} {index : Index}

/-- A value that guard zones share with the zones they stand for is the same for both copies. -/
theorem of_chained {α : Type} {value : Zone → α} (active : mesh.isActive axis = true)
    (successor : block + 1 < mesh.numBlocks) (inside : index ∈ mesh.interior)
    (shared : ∀ zone ∈ mesh.extendedGrid, mesh.PastEnd axis zone →
      ∀ origin, mesh.chained axis zone = some origin → value zone = value origin) :
    SameAcross mesh axis value block index where
  below := by
    have first : Mesh.firstFace axis (block + 1) index ∈ mesh.faceGrid axis :=
      ⟨successor, Mesh.firstFace_mem_faces inside (block + 1)⟩
    refine (shared _ (Mesh.lowerCell_mem active first) (.inl ?_) _
      (Mesh.chained_beforeFirstFace successor inside)).symm
    simp [Mesh.firstFace, Zone.shift, Mesh.shift_set]
  above := by
    have last : mesh.lastFace axis block index ∈ mesh.faceGrid axis :=
      ⟨Nat.lt_of_succ_lt successor, Mesh.lastFace_mem_faces inside block⟩
    refine shared _ (Mesh.upperCell_mem active last) (.inr ?_) _
      (Mesh.chained_lastFace successor inside)
    simp [Mesh.lastFace]

/-- Mirrored flags are the same for both copies. -/
theorem mirrored (active : mesh.isActive axis = true) (successor : block + 1 < mesh.numBlocks)
    (inside : index ∈ mesh.interior) (marked : Zone → Bool) :
    SameAcross mesh axis (CorrectionFlags.mirrored mesh (mesh.chained axis) marked) block index := by
  apply of_chained active successor inside
  intro zone _ pastEnd origin given
  have known := Mesh.mem_of_chained given
  rw [CorrectionFlags.mirrored_of_mem known.2, CorrectionFlags.mirrored, if_neg pastEnd.not_mem]
  simp only [given, known, decide_true, Bool.true_and]

end SameAcross

variable [Scalar R] {setting : Setting R} {stateFields numFields : Nat}
  {w : Zone → Vector R stateFields} {block : Nat} {index : Index}

/-- Faces of two settings of one gas, between cells with the same states and metrics. -/
structure Setting.SameSides (setting other : Setting R) (w v : Zone → Vector R stateFields)
    (axis : Axis) (face otherFace : Zone) : Prop where
  eos : setting.eos = other.eos
  geometry : setting.faceGeometry axis face = other.faceGeometry axis otherFace
  below : w (face.shift (-1) axis) = v (otherFace.shift (-1) axis)
  above : w face = v otherFace

namespace Setting.SameSides

variable {other : Setting R} {v : Zone → Vector R stateFields} {face otherFace : Zone}

theorem faceFlux (same : SameSides setting other w v axis face otherFace) :
    setting.faceFlux w axis face = other.faceFlux v axis otherFace := by
  unfold Setting.faceFlux
  rw [same.eos, same.geometry, same.below, same.above]

theorem lowFlux (same : SameSides setting other w v axis face otherFace) :
    setting.lowFlux w axis face = other.lowFlux v axis otherFace := by
  unfold Setting.lowFlux
  rw [same.eos, same.geometry, same.below, same.above]

/-- The faces are solved to the same flux, whatever they held. -/
theorem solvedFluxes (same : SameSides setting other w v axis face otherFace)
    (small : numFields ≤ 5) (before otherBefore : Zone → Vector R numFields) :
    Fluxes.solvedFluxes setting w axis before face =
      Fluxes.solvedFluxes other v axis otherBefore otherFace := by
  unfold Fluxes.solvedFluxes Conserved.writeTo
  rw [overwrite_of_le small, overwrite_of_le small, same.faceFlux]

/-- The faces have the same flux after the repair, if they have before and are both replaced or both
kept. -/
theorem repairedFlux (same : SameSides setting other w v axis face otherFace)
    {flag otherFlag : Zone → Bool} {before otherBefore : Zone → Vector R numFields}
    (touched : touches flag axis face = touches otherFlag axis otherFace)
    (solved : before face = otherBefore otherFace) :
    setting.repairedFlux w flag axis before face =
      other.repairedFlux v otherFlag axis otherBefore otherFace := by
  unfold Setting.repairedFlux
  rw [touched, same.lowFlux, solved]

end Setting.SameSides

/-- Both copies of a face have the same sides. -/
theorem Setting.sameSides_across
    (geometry : SameAcross setting.mesh axis setting.cellGeometry block index)
    (states : SameAcross setting.mesh axis w block index) :
    SameSides setting setting w w axis (setting.mesh.lastFace axis block index)
      (Mesh.firstFace axis (block + 1) index) where
  eos := rfl
  geometry := by
    unfold faceGeometry
    rw [geometry.below, geometry.above]
  below := states.below
  above := states.above

/-- Both copies of a face have the same flux after the repair, if they have before. -/
theorem Setting.repairedFlux_across {flag : Zone → Bool} {before : Zone → Vector R numFields}
    (geometry : SameAcross setting.mesh axis setting.cellGeometry block index)
    (states : SameAcross setting.mesh axis w block index)
    (flags : SameAcross setting.mesh axis flag block index)
    (solved : before (setting.mesh.lastFace axis block index) =
      before (Mesh.firstFace axis (block + 1) index)) :
    setting.repairedFlux w flag axis before (setting.mesh.lastFace axis block index) =
      setting.repairedFlux w flag axis before (Mesh.firstFace axis (block + 1) index) := by
  have touched : touches flag axis (setting.mesh.lastFace axis block index) =
      touches flag axis (Mesh.firstFace axis (block + 1) index) := by
    rw [touches, flags.below, flags.above, touches]
  exact (sameSides_across geometry states).repairedFlux touched solved

/-- Both copies of a face are solved to the same flux, whatever they held. -/
theorem Fluxes.solvedFluxes_across (small : numFields ≤ 5) (before : Zone → Vector R numFields)
    (geometry : SameAcross setting.mesh axis setting.cellGeometry block index)
    (states : SameAcross setting.mesh axis w block index) :
    solvedFluxes setting w axis before (setting.mesh.lastFace axis block index) =
      solvedFluxes setting w axis before (Mesh.firstFace axis (block + 1) index) :=
  (Setting.sameSides_across geometry states).solvedFluxes small before before

/-- Guard zones at the ends of the blocks hold the state and the metric of the zones they stand for. -/
structure ChainFilled (setting : Setting R) (axis : Axis) (primitive : Patch R) : Prop where
  fields : ∀ zone ∈ setting.mesh.extendedGrid, setting.mesh.PastEnd axis zone →
    ∀ origin, setting.mesh.chained axis zone = some origin →
      primitive.fields zone = primitive.fields origin
  metric : ∀ zone ∈ setting.mesh.extendedGrid, setting.mesh.PastEnd axis zone →
    ∀ origin, setting.mesh.chained axis zone = some origin →
      MetricField.cellMetric setting.metric zone = MetricField.cellMetric setting.metric origin

/-- Data with which fluxes can be solved and corrected: each patch may have a width of its own. -/
structure SolvableInput (setting : Setting R) (numFields : Nat) (current start primitive : Patch R)
    (fluxes : Fluxes R) (correction : FluxCorrection R) : Prop where
  covered : setting.Covered
  current_grid : current.grid = setting.mesh.extendedGrid
  start_grid : start.grid = setting.mesh.extendedGrid
  primitive_grid : primitive.grid = setting.mesh.extendedGrid
  fluxes_span : fluxes.Spans setting.mesh numFields
  correction_fits : correction.Fits setting.mesh
  primitive_fields : 4 ≤ primitive.numFields
  start_fields : min 5 current.numFields ≤ start.numFields
  someField : numFields ≠ 0
  small : numFields ≤ 5

namespace ChainFilled

/-- The cells of both copies of a face have the same metric. -/
theorem geometry_across {primitive : Patch R} (filled : ChainFilled setting axis primitive)
    (covered : setting.Covered) (active : setting.mesh.isActive axis = true)
    (successor : block + 1 < setting.mesh.numBlocks) (inside : index ∈ setting.mesh.interior) :
    SameAcross setting.mesh axis setting.cellGeometry block index := by
  apply SameAcross.of_chained active successor inside
  intro zone member pastEnd origin given
  have same := filled.metric zone member pastEnd origin given
  have extended := Mesh.extendedGrid_of_interiorGrid (Mesh.mem_of_chained given)
  rw [Setting.cellMetric_eq_ok covered member, Setting.cellMetric_eq_ok covered extended] at same
  exact Except.ok.inj same

/-- The cells of both copies of a face have the same states. -/
theorem states_across (filled : ChainFilled setting axis
      (.ofFn setting.mesh.extendedGrid stateFields w))
    (active : setting.mesh.isActive axis = true) (successor : block + 1 < setting.mesh.numBlocks)
    (inside : index ∈ setting.mesh.interior) : SameAcross setting.mesh axis w block index := by
  apply SameAcross.of_chained active successor inside
  intro zone member pastEnd origin given
  have same := filled.fields zone member pastEnd origin given
  have extended := Mesh.extendedGrid_of_interiorGrid (Mesh.mem_of_chained given)
  have there := Patch.fields_ofFn w member
  have here := Patch.fields_ofFn w extended
  exact Except.ok.inj (there.symm.trans (same.trans here))

end ChainFilled

/-- Solved and corrected fluxes are single-valued: both copies of every face between chained blocks
hold the same value in every field. -/
theorem Fluxes.single_valued {current start primitive : Patch R} {fluxes : Fluxes R}
    {correction : FluxCorrection R}
    (input : SolvableInput setting numFields current start primitive fluxes correction)
    (active : setting.mesh.isActive axis = true) (filled : ChainFilled setting axis primitive)
    {axes : List Axis} (allActive : ∀ other, other ∈ axes ↔ setting.mesh.isActive other = true)
    (stage : StageWeights R) (dt : R) :
    ∃ states solved tally after repaired report,
      axes.mapM (FaceStates.piecewiseConstant setting.mesh primitive) = .ok states ∧
      fluxes.solve setting states = .ok (solved, tally) ∧
      correction.apply setting stage dt current start primitive solved
        (setting.mesh.chained axis) = .ok (after, repaired, report) ∧
      ∀ block, block + 1 < setting.mesh.numBlocks → ∀ index ∈ setting.mesh.interior,
        ∀ field < numFields, ∃ value,
          repaired.value? axis (setting.mesh.lastFace axis block index) field = some value ∧
          repaired.value? axis (Mesh.firstFace axis (block + 1) index) field = some value := by
  obtain ⟨currentFields, now, rfl⟩ := Patch.exists_eq_ofFn input.current_grid
  obtain ⟨startFields, first, rfl⟩ := Patch.exists_eq_ofFn input.start_grid
  obtain ⟨stateFields, w, rfl⟩ := Patch.exists_eq_ofFn input.primitive_grid
  obtain ⟨f, rfl⟩ := input.fluxes_span.exists_eq_ofFn
  obtain ⟨trial, flag, rfl⟩ := input.correction_fits.exists_eq_ofFn
  have enough : 4 ≤ stateFields := input.primitive_fields
  have room : min 5 currentFields ≤ startFields := input.start_fields
  have states : axes.mapM (FaceStates.piecewiseConstant setting.mesh
      (.ofFn setting.mesh.extendedGrid stateFields w)) =
      .ok (axes.map (.ofCells setting.mesh w)) :=
    mapM_eq_ok fun other member =>
      FaceStates.piecewiseConstant_ofFn (by omega) w ((allActive other).mp member)
  have solved := Fluxes.solve_ofFn input.covered enough input.someField w
    (fun other member => (allActive other).mp member) f
  have applied := FluxCorrection.apply_ofFn input.covered enough input.someField input.small
    room stage dt now first w
    (fun other => if other ∈ axes then solvedFluxes setting w other (f other) else f other)
    (setting.mesh.chained axis) trial flag
  refine ⟨_, _, _, _, _, _, states, solved, applied, ?_⟩
  intro block successor index inside field stored
  have geometry := filled.geometry_across input.covered active successor inside
  have cells := filled.states_across active successor inside
  have last : setting.mesh.lastFace axis block index ∈ setting.mesh.faceGrid axis :=
    ⟨Nat.lt_of_succ_lt successor, Mesh.lastFace_mem_faces inside block⟩
  have first : Mesh.firstFace axis (block + 1) index ∈ setting.mesh.faceGrid axis :=
    ⟨successor, Mesh.firstFace_mem_faces inside (block + 1)⟩
  refine ⟨_, value?_ofFn _ active last stored, ?_⟩
  rw [value?_ofFn _ active first stored, if_pos ((allActive axis).mpr active),
    Setting.repairedFlux_across geometry cells (.mirrored active successor inside _)
      (solvedFluxes_across input.small (f axis) geometry cells)]

theorem punctured_filled : ChainFilled isothermalPair .i puncturedPair where
  fields zone inside _ origin given := by
    have aligned : ∀ zone ∈ blockPair.extendedGrid.zones, ∀ origin ∈ blockPair.chained .i zone,
        rowPosition zone = rowPosition origin := by decide +kernel
    have extended := Mesh.extendedGrid_of_interiorGrid (Mesh.mem_of_chained given)
    have there := Patch.fields_ofFn (puncturedRow ∘ rowPosition) inside
    have here := Patch.fields_ofFn (puncturedRow ∘ rowPosition) extended
    refine there.trans (Eq.trans ?_ here.symm)
    rw [Function.comp_apply, aligned zone (Grid.mem_zones.mpr inside) origin given]
    rfl
  metric _ _ _ _ _ := rfl

/-- The face between the blocks is replaced in both of them, next to a negative density. -/
theorem Fluxes.single_valued_punctured : ∃ states solved tally after repaired,
    [Axis.i].mapM (FaceStates.piecewiseConstant blockPair puncturedPair) = .ok states ∧
      (zeros blockPair 4).solve isothermalPair states = .ok (solved, tally) ∧
      FluxCorrection.apply (.initial blockPair) isothermalPair ⟨0, 1, 1⟩ 0 puncturedPair
        puncturedPair puncturedPair solved (blockPair.chained .i) =
          .ok (after, repaired, ⟨1, 3⟩) ∧
      ∃ value, repaired.value? .i ⟨0, ⟨2, 0, 0⟩⟩ 0 = some value ∧
        repaired.value? .i ⟨1, ⟨0, 0, 0⟩⟩ 0 = some value := by
  have input : SolvableInput isothermalPair 4 puncturedPair puncturedPair puncturedPair
      (.zeros blockPair 4) (.initial blockPair) :=
    ⟨punctured_input.covered, rfl, rfl, rfl, punctured_input.fluxes_span,
      punctured_input.correction_fits, by decide, by decide, by decide, by decide⟩
  have alongRow : ∀ other, other ∈ [Axis.i] ↔ blockPair.isActive other = true := by decide
  obtain ⟨states, solved, tally, after, repaired, report, stated, solves, applied, shared⟩ :=
    single_valued input rfl punctured_filled alongRow ⟨0, 1, 1⟩ 0
  have counted : (do
      let states ← [Axis.i].mapM (FaceStates.piecewiseConstant blockPair puncturedPair)
      let (solved, _) ← (zeros blockPair 4).solve isothermalPair states
      let (_, _, report) ← FluxCorrection.apply (.initial blockPair) isothermalPair ⟨0, 1, 1⟩ 0
        puncturedPair puncturedPair puncturedPair solved (blockPair.chained .i)
      return report) = .ok ⟨1, 3⟩ := by
    decide +kernel
  have known : report = ⟨1, 3⟩ := by
    have stated : [Axis.i].mapM (FaceStates.piecewiseConstant blockPair puncturedPair) = .ok states :=
      stated
    rw [stated] at counted
    dsimp only [bind, Except.bind] at counted
    rw [solves] at counted
    dsimp only at counted
    have applied : FluxCorrection.apply (.initial blockPair) isothermalPair ⟨0, 1, 1⟩ 0
      puncturedPair puncturedPair puncturedPair solved (blockPair.chained .i) =
        .ok (after, repaired, report) := applied
    rw [applied] at counted
    exact Except.ok.inj counted
  subst known
  exact ⟨states, solved, tally, after, repaired, stated, solves, applied,
    shared 0 (by decide) ⟨0, 0, 0⟩ (by decide) 0 (by decide)⟩

end BlockHydro
