import Mathlib.Algebra.BigOperators.Group.Finset.Basic
import Mathlib.Algebra.BigOperators.Ring.List
import Mathlib.Analysis.Real.Sqrt
import BlockHydro.Proofs.Exact.StageTables
import BlockHydro.Proofs.Space.BoundaryFaces
import BlockHydro.Proofs.Stage.CorrectionEffect

/-!
# Conservation of a stage in exact arithmetic

A stage takes the flux through a face out of one cell and puts it into the other,
so that inside a block only the faces at its ends count.  `StageBalance` says this
for the total of a field over the interior of a block, and `RowBalance` for the
total over a row of blocks whose touching ends carry the same fluxes: along the
row only the first and the last end are left.

`Mesh.advance_balance` is the main result.  The fluxes may have fewer fields than
the state; a field without fluxes has none to count.
-/

namespace BlockHydro

/-- A stored value, and zero where nothing is stored. -/
noncomputable def Patch.valueAt (patch : Patch ℝ) (zone : Zone) (field : Nat) : ℝ :=
  (patch.get zone field).toOption.getD 0

/-- A stored flux value, and zero where nothing is stored. -/
noncomputable def Fluxes.valueAt (fluxes : Fluxes ℝ) (axis : Axis) (face : Zone) (field : Nat) : ℝ :=
  (fluxes.value? axis face field).getD 0

namespace Mesh

variable (mesh : Mesh ℝ) (fluxes : Fluxes ℝ) (axis : Axis) (block field : Nat)

/-- The sum of a field over the interior cells of a block. -/
noncomputable def blockTotal (patch : Patch ℝ) (block field : Nat) : ℝ :=
  (mesh.interior.indexes.map fun index => patch.valueAt ⟨block, index⟩ field).sum

/-- The sum of the fluxes through the faces at the upper end of a block. -/
noncomputable def upperEndFlux : ℝ :=
  ((mesh.crossSection axis).map fun index =>
    fluxes.valueAt axis (mesh.lastFace axis block index) field).sum

/-- The sum of the fluxes through the faces at the lower end of a block. -/
noncomputable def lowerEndFlux : ℝ :=
  ((mesh.crossSection axis).map fun index =>
    fluxes.valueAt axis (firstFace axis block index) field).sum

/-- What leaves a block through its two ends along an axis, over the cell size. -/
noncomputable def outflow : ℝ :=
  1 / mesh.spacingAt block axis *
    (mesh.upperEndFlux fluxes axis block field - mesh.lowerEndFlux fluxes axis block field)

end Mesh

/-- The totals of a block after a stage, against those before. -/
structure StageBalance (mesh : Mesh ℝ) (stage : StageWeights ℝ) (dt : ℝ) (fluxes : Fluxes ℝ)
    (current start advanced : Patch ℝ) : Prop where
  spans : advanced.Spans mesh.extendedGrid current.numFields
  blocks : ∀ block < mesh.numBlocks, ∀ field < current.numFields,
    mesh.blockTotal advanced block field =
      stage.current * mesh.blockTotal current block field +
        stage.start * mesh.blockTotal start block field -
        stage.rate * dt *
          (mesh.activeAxes.map fun axis => mesh.outflow fluxes axis block field).sum
  guards : ∀ zone ∈ mesh.extendedGrid, zone.index ∉ mesh.interior → ∀ field,
    advanced.get zone field = current.get zone field

/-- Blocks in a row carry the same flux on both copies of the faces between them. -/
def Fluxes.AgreeAlong (fluxes : Fluxes ℝ) (mesh : Mesh ℝ) (axis : Axis) (field : Nat) : Prop :=
  ∀ block, block + 1 < mesh.numBlocks → ∀ index ∈ mesh.interior,
    fluxes.valueAt axis (mesh.lastFace axis block index) field =
      fluxes.valueAt axis (Mesh.firstFace axis (block + 1) index) field

/-- The total of a field over a row of blocks along `axis` after a stage, against that before. -/
def RowBalance (mesh : Mesh ℝ) (stage : StageWeights ℝ) (dt : ℝ) (fluxes : Fluxes ℝ)
    (current start advanced : Patch ℝ) (spacing : PerAxis ℝ) (axis : Axis) (field : Nat) : Prop :=
  ∑ block ∈ Finset.range mesh.numBlocks, mesh.blockTotal advanced block field =
    stage.current * ∑ block ∈ Finset.range mesh.numBlocks, mesh.blockTotal current block field +
      stage.start * ∑ block ∈ Finset.range mesh.numBlocks, mesh.blockTotal start block field -
      stage.rate * dt *
        (1 / spacing.get axis * (mesh.upperEndFlux fluxes axis (mesh.numBlocks - 1) field -
            mesh.lowerEndFlux fluxes axis 0 field) +
          ∑ block ∈ Finset.range mesh.numBlocks,
            ((mesh.activeAxes.erase axis).map fun other =>
              mesh.outflow fluxes other block field).sum)

section Sums

variable {α β : Type}

/-- Two lists of summands may be added up in either order. -/
theorem sum_map_sum_map (items : List α) (others : List β) (f : α → β → ℝ) :
    (items.map fun item => (others.map fun other => f item other).sum).sum =
      (others.map fun other => (items.map fun item => f item other).sum).sum := by
  have swapped := Multiset.sum_map_sum_map (items : Multiset α) (others : Multiset β) (f := f)
  simpa using swapped

/-- The sum of the blends is the blend of the sums. -/
theorem sum_map_blend (items : List α) (a b : ℝ) (f g h : α → ℝ) :
    (items.map fun item => a * f item + b * g item - h item).sum =
      a * (items.map f).sum + b * (items.map g).sum - (items.map h).sum := by
  induction items with
  | nil => simp
  | cons item later ih =>
    simp only [List.map_cons, List.sum_cons, ih]
    ring

/-- Differences between the ends of touching intervals leave the first and the last end. -/
theorem sum_range_ends (count : Nat) (upper lower : Nat → ℝ)
    (touching : ∀ place < count, upper place = lower (place + 1)) :
    ∑ place ∈ Finset.range (count + 1), (upper place - lower place) = upper count - lower 0 := by
  induction count with
  | zero => simp
  | succ count ih =>
    have before := ih fun place small => touching place (Nat.lt_succ_of_lt small)
    rw [Finset.sum_range_succ, before, touching count (Nat.lt_succ_self count)]
    ring

end Sums

section Tables

variable {mesh : Mesh ℝ} {numFields startFields fluxFields : Nat}

theorem Patch.valueAt_ofFn {grid : Grid} (w : Zone → Vector ℝ numFields) {zone : Zone}
    (inside : zone ∈ grid) (field : Nat) :
    (Patch.ofFn grid numFields w).valueAt zone field = (w zone)[field]?.getD 0 := by
  unfold valueAt
  by_cases stored : field < numFields
  · rw [get_ofFn w inside stored]
    simp [Except.toOption, stored]
  · unfold get
    rw [fields_ofFn w inside]
    simp [bind, Except.bind, Except.toOption, stored]

theorem Fluxes.valueAt_ofFn (f : Axis → Zone → Vector ℝ fluxFields) {axis : Axis}
    (active : mesh.isActive axis = true) {face : Zone} (inside : face ∈ mesh.faceGrid axis)
    (field : Nat) :
    (Fluxes.ofFn mesh fluxFields f).valueAt axis face field = (f axis face)[field]?.getD 0 := by
  unfold valueAt value?
  rw [along_ofFn active]
  exact Patch.valueAt_ofFn (f axis) inside field

theorem Mesh.blockTotal_ofFn (w : Zone → Vector ℝ numFields) {block : Nat}
    (known : block < mesh.numBlocks) (field : Nat) :
    mesh.blockTotal (.ofFn mesh.extendedGrid numFields w) block field =
      (mesh.interior.indexes.map fun index => (w ⟨block, index⟩)[field]?.getD 0).sum := by
  refine congrArg List.sum (List.map_congr_left fun index member => ?_)
  have inside := IndexSpace.mem_indexes.mp member
  exact Patch.valueAt_ofFn w ⟨known, interior_subset_extended inside⟩ field

/-- A field of the divergence over a cell is the sum over the axes of its flux differences. -/
theorem Mesh.getElem_divergence (f : Axis → Zone → Vector ℝ fluxFields) (scaledStep : ℝ)
    {cell : Zone} (inside : cell ∈ mesh.interiorGrid) {field : Nat} (small : field < 5) :
    (mesh.divergence f scaledStep cell)[field] =
      (mesh.activeAxes.map fun axis => scaledStep / mesh.spacingAt cell.block axis *
        ((Fluxes.ofFn mesh fluxFields f).valueAt axis (cell.shift 1 axis) field -
          (Fluxes.ofFn mesh fluxFields f).valueAt axis cell field)).sum := by
  have folded : ∀ axes : List Axis, (∀ axis ∈ axes, mesh.isActive axis = true) →
      ∀ total : Vector ℝ 5, (axes.foldl (fun total axis =>
          addDivergence total (scaledStep / mesh.spacingAt cell.block axis)
            (f axis cell) (f axis (cell.shift 1 axis))) total)[field] =
        total[field] + (axes.map fun axis => scaledStep / mesh.spacingAt cell.block axis *
          ((Fluxes.ofFn mesh fluxFields f).valueAt axis (cell.shift 1 axis) field -
            (Fluxes.ofFn mesh fluxFields f).valueAt axis cell field)).sum := by
    intro axes
    induction axes with
    | nil => simp
    | cons axis later ih =>
      intro active total
      have activeAxis := active axis List.mem_cons_self
      rw [List.foldl_cons, ih fun other member => active other (List.mem_cons_of_mem _ member),
        getElem_addDivergence _ _ _ _ small, List.map_cons, List.sum_cons,
        Fluxes.valueAt_ofFn f activeAxis (upperFace_mem axis inside),
        Fluxes.valueAt_ofFn f activeAxis (lowerFace_mem axis inside), add_assoc]
  have total := folded mesh.activeAxes (fun _ => mem_activeAxes.mp) (.replicate 5 0)
  simpa [divergence] using total

/-- The divergences over the cells of a block add up to what leaves through its ends. -/
theorem Mesh.sum_divergence (f : Axis → Zone → Vector ℝ fluxFields) (scaledStep : ℝ) {block : Nat}
    (known : block < mesh.numBlocks) {field : Nat} (small : field < 5) :
    (mesh.interior.indexes.map fun index =>
        (mesh.divergence f scaledStep ⟨block, index⟩)[field]?.getD 0).sum =
      scaledStep * (mesh.activeAxes.map fun axis =>
        mesh.outflow (.ofFn mesh fluxFields f) axis block field).sum := by
  have perCell : ∀ index ∈ mesh.interior.indexes,
      (mesh.divergence f scaledStep ⟨block, index⟩)[field]?.getD 0 =
        (mesh.activeAxes.map fun axis => scaledStep / mesh.spacingAt block axis *
          ((Fluxes.ofFn mesh fluxFields f).valueAt axis ⟨block, index.shift 1 axis⟩ field -
            (Fluxes.ofFn mesh fluxFields f).valueAt axis ⟨block, index⟩ field)).sum := by
    intro index member
    have inside : Zone.mk block index ∈ mesh.interiorGrid :=
      ⟨known, IndexSpace.mem_indexes.mp member⟩
    have value := mesh.getElem_divergence f scaledStep inside small
    simpa [small, Zone.shift] using value
  have perAxis : ∀ axis, (mesh.interior.indexes.map fun index =>
        scaledStep / mesh.spacingAt block axis *
          ((Fluxes.ofFn mesh fluxFields f).valueAt axis ⟨block, index.shift 1 axis⟩ field -
            (Fluxes.ofFn mesh fluxFields f).valueAt axis ⟨block, index⟩ field)).sum =
      scaledStep * mesh.outflow (.ofFn mesh fluxFields f) axis block field := by
    intro axis
    rw [List.sum_map_mul_left, sum_face_differences fun index =>
      (Fluxes.ofFn mesh fluxFields f).valueAt axis ⟨block, index⟩ field]
    unfold outflow upperEndFlux lowerEndFlux lastFace firstFace
    ring
  calc _ = _ := congrArg List.sum (List.map_congr_left perCell)
    _ = _ := sum_map_sum_map _ _ _
    _ = (mesh.activeAxes.map fun axis =>
          scaledStep * mesh.outflow (.ofFn mesh fluxFields f) axis block field).sum :=
        congrArg List.sum (List.map_congr_left fun axis _ => perAxis axis)
    _ = _ := List.sum_map_mul_left _ _ _

/-- The totals of a block after a stage over tables. -/
theorem Mesh.blockTotal_stepped (small : numFields ≤ 5) (stage : StageWeights ℝ) (dt : ℝ)
    (current : Zone → Vector ℝ numFields) (start : Zone → Vector ℝ startFields)
    (f : Axis → Zone → Vector ℝ fluxFields) {block : Nat} (known : block < mesh.numBlocks)
    {field : Nat} (stored : field < numFields) :
    mesh.blockTotal (.ofFn mesh.extendedGrid numFields (mesh.stepped stage dt current start f))
        block field =
      stage.current * mesh.blockTotal (.ofFn mesh.extendedGrid numFields current) block field +
        stage.start * mesh.blockTotal (.ofFn mesh.extendedGrid startFields start) block field -
        stage.rate * dt *
          (mesh.activeAxes.map fun axis =>
            mesh.outflow (.ofFn mesh fluxFields f) axis block field).sum := by
  have perCell : ∀ index ∈ mesh.interior.indexes,
      (mesh.stepped stage dt current start f ⟨block, index⟩)[field]?.getD 0 =
        stage.current * (current ⟨block, index⟩)[field]?.getD 0 +
          stage.start * (start ⟨block, index⟩)[field]?.getD 0 -
          (mesh.divergence f (stage.rate * dt) ⟨block, index⟩)[field]?.getD 0 := by
    intro index member
    rw [stepped, if_pos (IndexSpace.mem_indexes.mp member)]
    exact stage.getD_blended _ _ _ stored
  rw [blockTotal_ofFn _ known, blockTotal_ofFn _ known, blockTotal_ofFn _ known,
    List.map_congr_left perCell, sum_map_blend, sum_divergence f _ known (by omega)]

/-- A stage over tables keeps the balance of every block. -/
theorem Mesh.stageBalance_stepped (mesh : Mesh ℝ) (small : numFields ≤ 5)
    (stage : StageWeights ℝ) (dt : ℝ) (current : Zone → Vector ℝ numFields)
    (start : Zone → Vector ℝ startFields) (f : Axis → Zone → Vector ℝ fluxFields) :
    StageBalance mesh stage dt (.ofFn mesh fluxFields f) (.ofFn mesh.extendedGrid numFields current)
      (.ofFn mesh.extendedGrid startFields start)
      (.ofFn mesh.extendedGrid numFields (mesh.stepped stage dt current start f)) := by
  constructor
  case spans => exact Patch.spans_ofFn _
  case blocks =>
    intro block known field stored
    exact blockTotal_stepped small stage dt current start f known stored
  case guards =>
    intro zone inside guard field
    unfold Patch.get
    rw [Patch.fields_ofFn _ inside, Patch.fields_ofFn _ inside, stepped, if_neg guard]
    rfl

end Tables

/-- A uniform mesh has the given number of blocks, and the same cell size in all of them. -/
theorem Mesh.spacing_of_uniform {mesh : Mesh ℝ} {numBlocks : Nat} {blockSize : Index}
    {numGuard : Int} {spacing : PerAxis ℝ}
    (built : Mesh.uniform? numBlocks blockSize numGuard spacing = .ok mesh) :
    mesh.spacing = Array.replicate numBlocks spacing := by
  unfold uniform? requireAddressable at built
  simp only [bind, Except.bind] at built
  split at built
  next => cases built
  next => exact (ofSpacings?_inversion built).2.2

theorem Mesh.spacingAt_of_uniform {mesh : Mesh ℝ} {numBlocks : Nat} {blockSize : Index}
    {numGuard : Int} {spacing : PerAxis ℝ}
    (built : Mesh.uniform? numBlocks blockSize numGuard spacing = .ok mesh) {block : Nat}
    (known : block < mesh.numBlocks) (axis : Axis) :
    mesh.spacingAt block axis = spacing.get axis := by
  have replicated := spacing_of_uniform built
  have inside : block < numBlocks := by
    rwa [Mesh.numBlocks, replicated, Array.size_replicate] at known
  simp [spacingAt, replicated, inside]

section Balance

variable {mesh : Mesh ℝ} {stage : StageWeights ℝ} {dt : ℝ} {fluxes : Fluxes ℝ}
  {current start advanced : Patch ℝ} {spacing : PerAxis ℝ} {axis : Axis} {field : Nat}

/-- Between blocks with equal fluxes on their common faces nothing is lost along the row. -/
theorem Mesh.sum_outflow (agree : fluxes.AgreeAlong mesh axis field)
    (uniform : ∀ block < mesh.numBlocks, mesh.spacingAt block axis = spacing.get axis) :
    ∑ block ∈ Finset.range mesh.numBlocks, mesh.outflow fluxes axis block field =
      1 / spacing.get axis * (mesh.upperEndFlux fluxes axis (mesh.numBlocks - 1) field -
        mesh.lowerEndFlux fluxes axis 0 field) := by
  obtain ⟨count, blocks⟩ := Nat.exists_eq_add_one_of_ne_zero mesh.spacing_nonempty.ne'
  have blocks : mesh.numBlocks = count + 1 := blocks
  have touching : ∀ block < count, mesh.upperEndFlux fluxes axis block field =
      mesh.lowerEndFlux fluxes axis (block + 1) field := by
    intro block small
    refine congrArg List.sum (List.map_congr_left fun index member => ?_)
    exact agree block (by omega) index (mem_crossSection.mp member).1
  have sameSpacing : ∀ block ∈ Finset.range mesh.numBlocks,
      mesh.outflow fluxes axis block field = 1 / spacing.get axis *
        (mesh.upperEndFlux fluxes axis block field - mesh.lowerEndFlux fluxes axis block field) := by
    intro block member
    rw [outflow, uniform block (Finset.mem_range.mp member)]
  rw [Finset.sum_congr rfl sameSpacing, ← Finset.mul_sum, blocks,
    sum_range_ends count _ _ touching, Nat.add_sub_cancel]

/-- The balances of the blocks of a row add up to the balance of the row. -/
theorem StageBalance.row (balance : StageBalance mesh stage dt fluxes current start advanced)
    (active : mesh.isActive axis = true) (stored : field < current.numFields)
    (agree : fluxes.AgreeAlong mesh axis field)
    (uniform : ∀ block < mesh.numBlocks, mesh.spacingAt block axis = spacing.get axis) :
    RowBalance mesh stage dt fluxes current start advanced spacing axis field := by
  have perBlock : ∀ block ∈ Finset.range mesh.numBlocks, mesh.blockTotal advanced block field =
      stage.current * mesh.blockTotal current block field +
        stage.start * mesh.blockTotal start block field -
        stage.rate * dt * (mesh.outflow fluxes axis block field +
          ((mesh.activeAxes.erase axis).map fun other =>
            mesh.outflow fluxes other block field).sum) := by
    intro block member
    rw [balance.blocks block (Finset.mem_range.mp member) field stored,
      ← List.sum_map_erase (fun other => mesh.outflow fluxes other block field)
        (Mesh.mem_activeAxes.mpr active)]
  unfold RowBalance
  rw [Finset.sum_congr rfl perBlock, Finset.sum_sub_distrib, Finset.sum_add_distrib,
    ← Finset.mul_sum, ← Finset.mul_sum, ← Finset.mul_sum, Finset.sum_add_distrib,
    Mesh.sum_outflow agree uniform]

end Balance

/-- A stage completes and conserves: in each block what the ends let through changes the total of a
field, and in a row of blocks that agree on the faces between them only the ends of the row do. -/
theorem Mesh.advance_balance (mesh : Mesh ℝ) {fluxFields : Nat} (stage : StageWeights ℝ) (dt : ℝ)
    {fluxes : Fluxes ℝ} {current start : Patch ℝ} (fluxes_span : fluxes.Spans mesh fluxFields)
    (fluxes_fit : fluxFields ≤ 5) (current_grid : current.grid = mesh.extendedGrid)
    (start_grid : start.grid = mesh.extendedGrid) (someField : current.numFields ≠ 0)
    (current_fits : current.numFields ≤ 5) (enough : current.numFields ≤ start.numFields) :
    ∃ advanced, mesh.advance stage dt fluxes current start = .ok advanced ∧
      StageBalance mesh stage dt fluxes current start advanced ∧
      ∀ numBlocks blockSize numGuard spacing,
        Mesh.uniform? numBlocks blockSize numGuard spacing = .ok mesh →
        ∀ axis, mesh.isActive axis = true → ∀ field < current.numFields,
          fluxes.AgreeAlong mesh axis field →
            RowBalance mesh stage dt fluxes current start advanced spacing axis field := by
  obtain ⟨numFields, now, rfl⟩ := Patch.exists_eq_ofFn current_grid
  obtain ⟨startFields, first, rfl⟩ := Patch.exists_eq_ofFn start_grid
  obtain ⟨f, rfl⟩ := fluxes_span.exists_eq_ofFn
  simp only [Patch.numFields_ofFn] at someField current_fits enough
  have room : numFields ≤ startFields ∧ numFields ≤ 5 := ⟨enough, current_fits⟩
  have balance := mesh.stageBalance_stepped current_fits stage dt now first f
  refine ⟨_, mesh.advance_stepped someField room fluxes_fit stage dt now first f, balance, ?_⟩
  intro numBlocks blockSize numGuard spacing built axis active field stored agree
  exact balance.row active stored agree fun block known => spacingAt_of_uniform built known axis

/-- A row of two blocks of two by two cells. -/
noncomputable def tilePair : Mesh ℝ where
  interior := ⟨⟨0, 0, 0⟩, ⟨2, 2, 1⟩, by decide⟩
  guardDepth := 1
  spacing := Array.replicate 2 ⟨1, 0.5, 1⟩
  lower_eq_zero := rfl
  guardDepth_pos := Nat.one_pos
  spacing_nonempty := by simp

theorem tilePair_built : Mesh.uniform? 2 ⟨2, 2, 1⟩ 1 ⟨1, 0.5, 1⟩ = .ok tilePair := rfl

/-- Fluxes that vary along the row with the place in it, and in each block across it. -/
noncomputable def rampFluxes : Fluxes ℝ :=
  .ofFn tilePair 1 fun axis face =>
    match axis with
    | .i => #v[((rowPosition face) ^ 2 : ℤ)]
    | _ => #v[(face.index.i + 3 * face.index.j : ℤ)]

theorem rampFluxes_agree : rampFluxes.AgreeAlong tilePair .i 0 := by
  intro block successor index inside
  have active : tilePair.isActive .i = true := rfl
  have last : (tilePair.lastFace .i block index).index ∈ tilePair.faces .i :=
    Mesh.lastFace_mem_faces inside block
  have first : (Mesh.firstFace .i (block + 1) index).index ∈ tilePair.faces .i :=
    Mesh.firstFace_mem_faces inside (block + 1)
  unfold rampFluxes
  rw [Fluxes.valueAt_ofFn _ active ⟨Nat.lt_of_succ_lt successor, last⟩,
    Fluxes.valueAt_ofFn _ active ⟨successor, first⟩]
  have samePlace : rowPosition (tilePair.lastFace .i block index) =
      rowPosition (Mesh.firstFace .i (block + 1) index) := by
    change 2 * (block : Int) + 2 = 2 * ((block + 1 : Nat) : Int) + 0
    omega
  simp only [samePlace]

/-- A state of one field that varies along the row. -/
noncomputable def rampState : Patch ℝ :=
  .ofFn tilePair.extendedGrid 1 fun zone => #v[(rowPosition zone : ℝ)]

/-- A starting state of two fields. -/
noncomputable def slopedState : Patch ℝ :=
  .ofFn tilePair.extendedGrid 2 fun zone => #v[(zone.index.j : ℝ), 1]

/-- A late stage over the two blocks, with a second field in the starting state only. -/
theorem Mesh.advance_balance_tilePair : Mesh.uniform? 2 ⟨2, 2, 1⟩ 1 ⟨1, 0.5, 1⟩ = .ok tilePair ∧
    ∃ advanced,
      tilePair.advance ⟨1 / 4, 3 / 4, 1 / 4⟩ (1 / 8) rampFluxes rampState slopedState =
          .ok advanced ∧
        StageBalance tilePair ⟨1 / 4, 3 / 4, 1 / 4⟩ (1 / 8) rampFluxes rampState slopedState
          advanced ∧
        RowBalance tilePair ⟨1 / 4, 3 / 4, 1 / 4⟩ (1 / 8) rampFluxes rampState slopedState advanced
          ⟨1, 0.5, 1⟩ .i 0 := by
  obtain ⟨advanced, advances, balance, row⟩ := tilePair.advance_balance ⟨1 / 4, 3 / 4, 1 / 4⟩ (1 / 8)
    (Fluxes.spans_ofFn _ : rampFluxes.Spans tilePair 1) (by decide)
    (rfl : rampState.grid = tilePair.extendedGrid) (rfl : slopedState.grid = tilePair.extendedGrid)
    one_ne_zero (by decide) (by decide)
  exact ⟨tilePair_built, advanced, advances, balance,
    row _ _ _ _ tilePair_built .i rfl 0 Nat.one_pos rampFluxes_agree⟩

end BlockHydro
