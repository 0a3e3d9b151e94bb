import BlockHydro.Proofs.Space.Tabulation

/-!
# Sweeps that stop

A sweep that meets an error leaves what it had already replaced.  In memory order
these are the zones before the one that was refused: `Patch.sweepOver_stops` says
which table the sweep leaves, and that it reports the error of that zone.

The place of the refused zone splits memory order in two (`Grid.memoryOrder_split`).
The sweep over the first part completes, and the second part is never reached.
-/

namespace BlockHydro

/-- The places before a given place come before it in memory order. -/
theorem Grid.memoryOrder_split {grid : Grid} (place : Fin grid.size) :
    ∃ earlier later, grid.memoryOrder = earlier ++ place :: later ∧ earlier.Nodup ∧
      ∀ position, position ∈ earlier ↔ position < place := by
  obtain ⟨earlier, later, split⟩ := List.append_of_mem (mem_memoryOrder place)
  have ascending : (earlier ++ place :: later).Pairwise (· < ·) := split ▸ List.pairwise_lt_finRange _
  have distinct := split ▸ grid.nodup_memoryOrder
  rw [List.pairwise_append, List.pairwise_cons] at ascending
  obtain ⟨-, ⟨behind, -⟩, before⟩ := ascending
  refine ⟨earlier, later, split, distinct.of_append_left, fun position => ?_⟩
  constructor
  · intro member
    exact before position member place List.mem_cons_self
  · intro smaller
    have listed := split ▸ mem_memoryOrder position
    rw [List.mem_append, List.mem_cons] at listed
    obtain member | rfl | member := listed
    · exact member
    · exact absurd smaller (Nat.lt_irrefl _)
    · exact absurd (behind position member) (Nat.lt_asymm smaller)

namespace ZoneArray

variable {α ε : Type} {grid : Grid}

/-- A sweep that completes its first places goes on with the others. -/
theorem sweepCells_append {kernel : Zone → α → Except ε (α × Bool)}
    {first second : List (Fin grid.size)} {cells after : Vector α grid.size} {marked counted : Nat}
    (completes : sweepCells grid kernel first cells marked = (after, .ok counted)) :
    sweepCells grid kernel (first ++ second) cells marked =
      sweepCells grid kernel second after counted := by
  induction first generalizing cells marked with
  | nil =>
    cases completes
    rfl
  | cons position later ih =>
    rw [List.cons_append, sweepCells]
    rw [sweepCells] at completes
    split at completes
    next => cases completes
    next => exact ih completes

/-- A sweep in memory order stops at a place that is refused, with the earlier places replaced, if none of
those is refused. -/
theorem sweepCells_stops {kernel : Zone → α → Except ε (α × Bool)} {value : Fin grid.size → α}
    {mark : Fin grid.size → Bool} {cells : Vector α grid.size} {place : Fin grid.size} {cause : ε}
    (succeeds : ∀ position < place,
      kernel (grid.zoneAt position) (cells.get position) = .ok (value position, mark position))
    (refused : kernel (grid.zoneAt place) (cells.get place) = .error cause) (marked : Nat) :
    ∃ after, sweepCells grid kernel grid.memoryOrder cells marked = (after, .error cause) ∧
      ∀ position, after.get position =
        if position < place then value position else cells.get position := by
  obtain ⟨earlier, later, split, distinct, isEarlier⟩ := Grid.memoryOrder_split place
  obtain ⟨after, completes, holds⟩ := sweepCells_ok kernel value mark distinct cells marked
    fun position member => succeeds position ((isEarlier position).mp member)
  simp only [isEarlier] at holds
  refine ⟨after, ?_, holds⟩
  -- The refused place still holds what it held, because it is not among the earlier ones.
  have stopped : kernel (grid.zoneAt place) after[place] = .error cause := by
    have unchanged := holds place
    rw [if_neg (lt_irrefl place)] at unchanged
    exact (congrArg (kernel (grid.zoneAt place)) unchanged).trans refused
  rw [split, sweepCells_append completes, sweepCells, stopped]

/-- A sweep over a table in memory order stops at the first zone that is refused. -/
theorem sweepOver_stops {kernel : Zone → α → Except ε (α × Bool)} {f g : Zone → α}
    {mark : Zone → Bool} {stop : Zone} {cause : ε} (known : stop ∈ grid)
    (succeeds : ∀ zone ∈ grid, grid.position zone < grid.position stop →
      kernel zone (f zone) = .ok (g zone, mark zone))
    (refused : kernel stop (f stop) = .error cause) :
    (ofFn grid f).sweepOver grid.memoryOrder kernel =
      (ofFn grid fun zone => if grid.position zone < grid.position stop then g zone else f zone,
        .error cause) := by
  let place : Fin grid.size := ⟨grid.position stop, Grid.position_lt_size known⟩
  let table : Vector α grid.size := .ofFn fun position : Fin grid.size => f (grid.zoneAt position)
  have smaller : ∀ position : Fin grid.size, position < place ↔
      grid.position (grid.zoneAt position) < grid.position stop := by
    intro position
    rw [Grid.position_zoneAt]
    rfl
  have earlier : ∀ position < place, kernel (grid.zoneAt position) (table.get position) =
      .ok (g (grid.zoneAt position), mark (grid.zoneAt position)) := by
    intro position before
    rw [get_table]
    exact succeeds _ (Grid.zoneAt_mem position.isLt) ((smaller position).mp before)
  have stops : kernel (grid.zoneAt place) (table.get place) = .error cause := by
    rw [get_table, Grid.zoneAt_position known]
    exact refused
  obtain ⟨after, swept, holds⟩ := sweepCells_stops earlier stops 0
  refine sweepOver_eq_ofFn swept fun position => ?_
  simp only [holds, smaller, table, get_table]

end ZoneArray

namespace Patch

variable {R ε : Type} {grid : Grid} {numFields : Nat}

/-- A sweep over a tabulated patch in memory order stops at the first zone that is refused. -/
theorem sweepOver_stops {kernel : Zone → Vector R numFields → Except ε (Vector R numFields × Bool)}
    {f g : Zone → Vector R numFields} {mark : Zone → Bool} {stop : Zone} {cause : ε}
    (known : stop ∈ grid)
    (succeeds : ∀ zone ∈ grid, grid.position zone < grid.position stop →
      kernel zone (f zone) = .ok (g zone, mark zone))
    (refused : kernel stop (f stop) = .error cause) :
    (ofFn grid numFields f).sweepOver grid.memoryOrder kernel =
      (ofFn grid numFields fun zone =>
        if grid.position zone < grid.position stop then g zone else f zone, .error cause) :=
  sweepOver_eq_ofFn (ZoneArray.sweepOver_stops known succeeds refused)

end Patch

end BlockHydro
