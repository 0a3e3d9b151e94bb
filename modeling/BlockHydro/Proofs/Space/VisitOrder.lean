import BlockHydro.Proofs.Space.Tabulation

/-!
# Sweeps in any order

A sweep changes its array in place, one slot a visit.  The kernel of a visit reads
the slot that it replaces, as the earlier visits left it, and no other slot; so two
visits of different places may be exchanged, and a sweep that visits every place
once ends alike in every order (`ZoneArray.sweepCells_perm`).

A kernel may refuse a zone.  The order then decides which zone is refused first and
what was replaced before, but not whether the sweep completes.  `SameOutcome` is
agreement in this sense: the same result, or no result on either side.
-/

namespace BlockHydro

section Outcomes

variable {ε α β σ : Type}

/-- Two computations agree if they give the same result or both give none. -/
def SameOutcome (left right : Except ε α) : Prop :=
  left.toOption = right.toOption

namespace SameOutcome

@[refl, simp] theorem refl (outcome : Except ε α) : SameOutcome outcome outcome := rfl

theorem trans {first second third : Except ε α} (left : SameOutcome first second)
    (right : SameOutcome second third) : SameOutcome first third :=
  Eq.trans left right

theorem errors (first second : ε) : SameOutcome (α := α) (.error first) (.error second) := rfl

/-- A computation that gives a result agrees with one that gives the same. -/
theorem eq_ok {outcome : Except ε α} {result : α} (same : SameOutcome outcome (.ok result)) :
    outcome = .ok result := by
  cases outcome with
  | ok value => exact congrArg Except.ok (Option.some.inj same)
  | error cause => cases same

/-- Computations that agree go on alike. -/
theorem bind {left right : Except ε α} (same : SameOutcome left right)
    {next other : α → Except ε β} (nextSame : ∀ value, SameOutcome (next value) (other value)) :
    SameOutcome (left >>= next) (right >>= other) := by
  cases left with
  | ok value =>
    cases right with
    | ok result => cases same; exact nextSame value
    | error cause => cases same
  | error cause =>
    cases right with
    | ok result => cases same
    | error other => rfl

/-- Loops whose steps agree end alike. -/
theorem foldlM {step other : σ → α → Except ε σ}
    (same : ∀ state item, SameOutcome (step state item) (other state item)) (items : List α)
    (state : σ) : SameOutcome (items.foldlM step state) (items.foldlM other state) := by
  induction items generalizing state with
  | nil => rfl
  | cons item later ih =>
    simp only [List.foldlM_cons]
    exact (same state item).bind ih

end SameOutcome

end Outcomes

/-- An order of visits for every grid, in which each place comes once. -/
structure Traversal where
  order : (grid : Grid) → List (Fin grid.size)
  complete : ∀ grid, (order grid).Perm grid.memoryOrder

namespace Traversal

/-- Every order of the places of a grid is that of some traversal. -/
theorem exists_order {grid : Grid} {order : List (Fin grid.size)}
    (complete : order.Perm grid.memoryOrder) :
    ∃ traversal : Traversal, traversal.order grid = order := by
  classical
  refine ⟨⟨fun other => if same : other = grid then same ▸ order else other.memoryOrder, ?_⟩, ?_⟩
  · intro other
    by_cases same : other = grid
    · subst same
      simpa using complete
    · simp [same]
  · simp

theorem length_order (traversal : Traversal) (grid : Grid) :
    (traversal.order grid).length = grid.size := by
  rw [(traversal.complete grid).length_eq]
  exact List.length_finRange

theorem nodup_order (traversal : Traversal) (grid : Grid) : (traversal.order grid).Nodup :=
  (traversal.complete grid).nodup_iff.mpr grid.nodup_memoryOrder

end Traversal

namespace ZoneArray

variable {α ε : Type} {grid : Grid}

/-- What a sweep leaves, if it completes. -/
def completed {array : Type} (swept : array × Except ε Nat) : Except ε (array × Nat) := do
  return (swept.1, ← swept.2)

/-- A sweep goes on after its first visit, if that succeeds. -/
theorem completed_sweepCells_cons (kernel : Zone → α → Except ε (α × Bool)) (first : Fin grid.size)
    (later : List (Fin grid.size)) (cells : Vector α grid.size) (marked : Nat) :
    completed (sweepCells grid kernel (first :: later) cells marked) =
      kernel (grid.zoneAt first) (cells.get first) >>= fun visited =>
        completed (sweepCells grid kernel later (cells.set first visited.1 first.isLt)
          (marked + visited.2.toNat)) := by
  change _ = kernel (grid.zoneAt first) cells[first] >>= _
  rw [sweepCells]
  cases kernel (grid.zoneAt first) cells[first] <;> rfl

/-- Two visits of different places may be exchanged. -/
theorem sweepCells_swap (kernel : Zone → α → Except ε (α × Bool)) {first second : Fin grid.size}
    (different : first ≠ second) (later : List (Fin grid.size)) (cells : Vector α grid.size)
    (marked : Nat) :
    SameOutcome (completed (sweepCells grid kernel (first :: second :: later) cells marked))
      (completed (sweepCells grid kernel (second :: first :: later) cells marked)) := by
  have apart : first.val ≠ second.val := fun equal => different (Fin.ext equal)
  -- Each of the two visits still finds in its slot what it would find without the other.
  have keepsSecond : ∀ value, (cells.set first value first.isLt).get second = cells.get second :=
    fun value => Vector.getElem_set_ne first.isLt second.isLt apart
  have keepsFirst : ∀ value, (cells.set second value second.isLt).get first = cells.get first :=
    fun value => Vector.getElem_set_ne second.isLt first.isLt apart.symm
  simp only [completed_sweepCells_cons, keepsSecond, keepsFirst]
  cases kernel (grid.zoneAt first) (cells.get first) with
  | error cause =>
    cases kernel (grid.zoneAt second) (cells.get second) with
    | error other => exact .errors cause other
    | ok visited => exact .errors cause cause
  | ok visited =>
    cases kernel (grid.zoneAt second) (cells.get second) with
    | error other => exact .errors other other
    | ok later =>
      simp only [bind, Except.bind]
      rw [Vector.set_comm visited.1 later.1 apart, Nat.add_right_comm]

/-- A sweep over distinct places completes alike in every order of them. -/
theorem sweepCells_perm (kernel : Zone → α → Except ε (α × Bool))
    {first second : List (Fin grid.size)} (rearranged : first.Perm second) (distinct : first.Nodup)
    (cells : Vector α grid.size) (marked : Nat) :
    SameOutcome (completed (sweepCells grid kernel first cells marked))
      (completed (sweepCells grid kernel second cells marked)) := by
  induction rearranged generalizing cells marked with
  | nil => rfl
  | cons position rest ih =>
    simp only [completed_sweepCells_cons]
    exact SameOutcome.bind (.refl _) fun visited => ih distinct.of_cons _ _
  | swap first second later =>
    have different : second ≠ first := fun equal =>
      (List.nodup_cons.mp distinct).1 (equal ▸ List.mem_cons_self)
    exact sweepCells_swap kernel different later cells marked
  | trans left right leftIh rightIh =>
    exact (leftIh distinct cells marked).trans (rightIh (left.nodup distinct) cells marked)

/-- Whatever is made of the slots, a sweep completes alike in every order of the zones. -/
theorem sweepCells_traversal {β : Type} (build : Vector α grid.size → β) (traversal : Traversal)
    (kernel : Zone → α → Except ε (α × Bool)) (cells : Vector α grid.size) :
    SameOutcome (completed ((sweepCells grid kernel (traversal.order grid) cells 0).map build id))
      (completed ((sweepCells grid kernel grid.memoryOrder cells 0).map build id)) := by
  have same := sweepCells_perm kernel (traversal.complete grid) (traversal.nodup_order grid) cells 0
  have mapped : ∀ swept : Vector α grid.size × Except ε Nat,
      completed (swept.map build id) = do
        let result ← completed swept
        return (build result.1, result.2) := by
    rintro ⟨cells, _ | _⟩ <;> rfl
  rw [mapped, mapped]
  exact same.bind fun _ => .refl _

/-- A sweep of an array completes alike in every order of its zones. -/
theorem sweepOver_perm (array : ZoneArray α) (traversal : Traversal)
    (kernel : Zone → α → Except ε (α × Bool)) :
    SameOutcome (completed (array.sweepOver (traversal.order array.grid) kernel))
      (completed (array.sweep kernel)) :=
  sweepCells_traversal (mk array.grid) traversal kernel array.cells

/-- Of sweeps that cannot fail and complete alike the results are the same. -/
theorem fst_eq_of_completed {array : Type} {left right : array × Except Empty Nat}
    (same : SameOutcome (completed left) (completed right)) : left.1 = right.1 := by
  revert same
  rcases left with ⟨left, ⟨⟨⟩⟩ | count⟩
  rcases right with ⟨right, ⟨⟨⟩⟩ | total⟩
  intro same
  have equal : (Except.ok (left, count) : Except Empty (array × Nat)) = .ok (right, total) :=
    same.eq_ok
  cases equal
  rfl

end ZoneArray

namespace Patch

variable {R : Type}

/-- A pass that visits the zones in a given order. -/
def updateIn (patch : Patch R) (traversal : Traversal)
    (kernel : Zone → Vector R patch.numFields → Except Fault (Vector R patch.numFields × Bool)) :
    Except Fault (Patch R × Nat) :=
  patch.updateOver (traversal.order patch.grid) kernel

/-- A pass that visits the zones in a given order and marks none. -/
def mapZonesIn (patch : Patch R) (traversal : Traversal)
    (kernel : Zone → Vector R patch.numFields → Except Fault (Vector R patch.numFields)) :
    Except Fault (Patch R) := do
  return (← patch.updateIn traversal (unmarked kernel)).1

/-- A pass completes alike in every order of the zones, with the same patch and the same count. -/
theorem updateIn_same (patch : Patch R) (traversal : Traversal)
    (kernel : Zone → Vector R patch.numFields → Except Fault (Vector R patch.numFields × Bool)) :
    SameOutcome (patch.updateIn traversal kernel) (patch.update kernel) := by
  have same := patch.zones.sweepOver_perm traversal kernel
  have mapped : ∀ order, patch.updateOver order kernel = do
      requireFields patch.numFields
      let swept ← ZoneArray.completed (patch.zones.sweepOver order kernel)
      return (ofZones swept.1, swept.2) := by
    intro order
    unfold updateOver sweepOver
    cases requireFields patch.numFields with
    | error cause => rfl
    | ok present =>
      dsimp only
      rcases patch.zones.sweepOver order kernel with ⟨zones, _ | _⟩ <;> rfl
  rw [update_eq_updateOver, updateIn, mapped, mapped]
  exact (SameOutcome.refl _).bind fun _ => same.bind fun _ => .refl _

theorem mapZonesIn_same (patch : Patch R) (traversal : Traversal)
    (kernel : Zone → Vector R patch.numFields → Except Fault (Vector R patch.numFields)) :
    SameOutcome (patch.mapZonesIn traversal kernel) (patch.mapZonesM kernel) :=
  (patch.updateIn_same traversal (unmarked kernel)).bind fun _ => .refl _

end Patch

end BlockHydro
