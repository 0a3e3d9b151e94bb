import BlockHydro.Space.Axis

/-!
# Indexes, zones and faults

An `Index` has one integer per axis and a `Zone` adds the number of a block.
A `Fault` is the cause for which an operation on indexed data has no answer.
Faults are about shapes, sizes and addresses only; a state of the gas that makes no
physical sense is not a fault.
-/

namespace BlockHydro

/-- A position in a discrete three-dimensional index space. -/
abbrev Index := PerAxis Int

/-- Move an index by a signed number of zones along one axis. -/
def PerAxis.shift (index : PerAxis Int) (delta : Int) (axis : Axis) : PerAxis Int :=
  index.modify axis (· + delta)

/-- The written form `(i, j, k)` of an index. -/
def PerAxis.text (index : PerAxis Int) : String :=
  s!"({index.i}, {index.j}, {index.k})"

/-- One zone of a blocked index space. -/
structure Zone where
  block : Nat
  index : Index
  deriving DecidableEq, Repr

/-- The zone a signed number of steps away along one axis, in the same block. -/
def Zone.shift (zone : Zone) (delta : Int) (axis : Axis) : Zone :=
  { zone with index := zone.index.shift delta axis }

/-- Why an operation on indexed data has no answer. -/
inductive Fault where
  /-- Some axis of an index space would hold no index. -/
  | emptySpace
  /-- A mesh would have no block. -/
  | noBlocks
  /-- A mesh would have no guard zone. -/
  | noGuardZones
  /-- A zone is not among those of `numBlocks` copies of the box from `lower` to `upper`. -/
  | zoneOutOfRange (zone : Zone) (numBlocks : Nat) (lower upper : Index)
  /-- A block is not among those of the mesh. -/
  | blockOutOfRange (block numBlocks : Nat)
  /-- A field is not among those of a zone. -/
  | fieldOutOfRange (field numFields : Nat)
  /-- A zone was given another number of values than it has fields. -/
  | fieldCountMismatch (numFields given : Nat)
  /-- A zone has fewer fields than a quantity is made of. -/
  | tooFewFields (needed numFields : Nat)
  /-- The zones of a patch without fields cannot be told apart. -/
  | noFields
  /-- A sequence of values would take more bytes than can be addressed. -/
  | tooLarge (bytes : Nat)
  /-- A number does not fit its machine word. -/
  | overflow
  /-- A number was to be divided by zero. -/
  | divisionByZero
  deriving DecidableEq, Repr

/-- The wording of a fault, where one is given: shapes and zone addresses are named, fields are not. -/
def Fault.message? : Fault → Option String
  | .emptySpace => some "index space has non-positive volume"
  | .noBlocks => some "mesh must have at least one block"
  | .noGuardZones => some "at least one guard zone is needed for face fluxes"
  | .zoneOutOfRange zone numBlocks lower upper =>
    some s!"zone {zone.block} {zone.index.text} out of range on patch with {numBlocks} blocks over {lower.text}..{upper.text}"
  | .blockOutOfRange .. | .fieldOutOfRange .. | .fieldCountMismatch .. | .tooFewFields .. |
    .noFields | .tooLarge .. | .overflow | .divisionByZero => none

/-- A computation that gives a result has given those on the way to it. -/
theorem exists_of_bind_eq_ok {ε α β : Type} {outcome : Except ε α} {next : α → Except ε β}
    {result : β} (given : outcome >>= next = .ok result) :
    ∃ value, outcome = .ok value ∧ next value = .ok result := by
  cases outcome with
  | ok value => exact ⟨value, rfl, given⟩
  | error cause => cases given

/-- The bytes of one number. -/
def numberBytes : Nat := 8

/-- The most bytes that one sequence may take: what a signed word of 64 bits can count. -/
def addressableBytes : Nat := Nat.pow 2 63 - 1

/-- Refuse a sequence of numbers that cannot be addressed. -/
def requireAddressable (numbers : Nat) : Except Fault Unit :=
  if numberBytes * numbers ≤ addressableBytes then .ok ()
  else .error (.tooLarge (numberBytes * numbers))

theorem requireAddressable_iff {numbers : Nat} :
    requireAddressable numbers = .ok () ↔ numberBytes * numbers ≤ addressableBytes := by
  unfold requireAddressable
  by_cases fits : numberBytes * numbers ≤ addressableBytes
  · rw [if_pos fits]
    exact ⟨fun _ => fits, fun _ => rfl⟩
  · rw [if_neg fits]
    exact ⟨fun refused => (by cases refused), fun given => absurd given fits⟩

theorem requireAddressable_mono {small large : Nat} (fits : requireAddressable large = .ok ())
    (less : small ≤ large) : requireAddressable small = .ok () := by
  rw [requireAddressable_iff] at fits ⊢
  exact Nat.le_trans (Nat.mul_le_mul_left numberBytes less) fits

end BlockHydro
