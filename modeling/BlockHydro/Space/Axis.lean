/-!
# Axes and values per axis

The three Cartesian axes have a cyclic order, and that order is all a rotated
frame needs: `PerAxis.rotate` puts the value of a chosen axis first and keeps
the other two in cyclic order, and `PerAxis.unrotate` undoes it.

An index, a vector, a cell spacing and the fluxes of a mesh are all one value
for each axis, so `PerAxis` is the record behind each of them.
-/

namespace BlockHydro

/-- A Cartesian axis, or the unit vector along it. -/
inductive Axis where
  | i
  | j
  | k
  deriving DecidableEq, Repr

namespace Axis

/-- Every axis, in order. -/
def all : List Axis := [.i, .j, .k]

/-- The axis that follows in the cyclic order. -/
def next : Axis → Axis
  | .i => .j
  | .j => .k
  | .k => .i

/-- The number of an axis, counted from zero. -/
def toNat : Axis → Nat
  | .i => 0
  | .j => 1
  | .k => 2

/-- The three axes with this one first, in cyclic order. -/
def cycle (axis : Axis) : List Axis := [axis, axis.next, axis.next.next]

/-- The component of one unit vector along another. -/
def along {R : Type} [Zero R] [One R] (axis other : Axis) : R :=
  if axis = other then 1 else 0

@[simp] theorem next_next_next (axis : Axis) : axis.next.next.next = axis := by
  cases axis <;> rfl

end Axis

/-- One value for each axis. -/
structure PerAxis (α : Type) where
  i : α
  j : α
  k : α
  deriving DecidableEq, Repr

namespace PerAxis

variable {α β γ : Type}

/-- The value of one axis. -/
def get (values : PerAxis α) : Axis → α
  | .i => values.i
  | .j => values.j
  | .k => values.k

/-- Tabulate a function of the axis. -/
def ofFn (f : Axis → α) : PerAxis α := ⟨f .i, f .j, f .k⟩

/-- The same value on every axis. -/
def replicate (value : α) : PerAxis α := ⟨value, value, value⟩

/-- Change the value of one axis. -/
def modify (values : PerAxis α) (axis : Axis) (f : α → α) : PerAxis α :=
  match axis with
  | .i => { values with i := f values.i }
  | .j => { values with j := f values.j }
  | .k => { values with k := f values.k }

/-- Replace the value of one axis. -/
def set (values : PerAxis α) (axis : Axis) (value : α) : PerAxis α :=
  values.modify axis fun _ => value

/-- Apply a function on every axis. -/
def map (f : α → β) (values : PerAxis α) : PerAxis β :=
  ⟨f values.i, f values.j, f values.k⟩

/-- Combine two records axis by axis. -/
def zipWith (f : α → β → γ) (left : PerAxis α) (right : PerAxis β) : PerAxis γ :=
  ⟨f left.i right.i, f left.j right.j, f left.k right.k⟩

/-- The three values in the order of the axes. -/
def toList (values : PerAxis α) : List α := [values.i, values.j, values.k]

/-- View the values in the frame whose first axis is `axis`. -/
def rotate (values : PerAxis α) (axis : Axis) : PerAxis α :=
  ⟨values.get axis, values.get axis.next, values.get axis.next.next⟩

/-- Return from the frame whose first axis is `axis`. -/
def unrotate (values : PerAxis α) : Axis → PerAxis α
  | .i => values
  | .j => ⟨values.k, values.i, values.j⟩
  | .k => ⟨values.j, values.k, values.i⟩

/-- The sum of the products of matching components, from the first axis on. -/
def dot {R : Type} [Add R] [Mul R] (left right : PerAxis R) : R :=
  left.i * right.i + left.j * right.j + left.k * right.k

@[simp] theorem get_ofFn (f : Axis → α) (axis : Axis) : (ofFn f).get axis = f axis := by
  cases axis <;> rfl

@[ext] theorem ext_get {left right : PerAxis α} (same : ∀ axis, left.get axis = right.get axis) :
    left = right := by
  cases left
  cases right
  simp only [mk.injEq]
  exact ⟨same .i, same .j, same .k⟩

@[simp] theorem get_modify_self (values : PerAxis α) (axis : Axis) (f : α → α) :
    (values.modify axis f).get axis = f (values.get axis) := by
  cases axis <;> rfl

theorem get_modify_of_ne (values : PerAxis α) {axis other : Axis} (f : α → α)
    (different : other ≠ axis) : (values.modify axis f).get other = values.get other := by
  cases axis <;> cases other <;> first | rfl | exact absurd rfl different

@[simp] theorem get_map (f : α → β) (values : PerAxis α) (axis : Axis) :
    (values.map f).get axis = f (values.get axis) := by
  cases axis <;> rfl

@[simp] theorem get_zipWith (f : α → β → γ) (left : PerAxis α) (right : PerAxis β)
    (axis : Axis) : (left.zipWith f right).get axis = f (left.get axis) (right.get axis) := by
  cases axis <;> rfl

@[simp] theorem unrotate_rotate (values : PerAxis α) (axis : Axis) :
    (values.rotate axis).unrotate axis = values := by
  cases axis <;> rfl

@[simp] theorem rotate_unrotate (values : PerAxis α) (axis : Axis) :
    (values.unrotate axis).rotate axis = values := by
  cases axis <;> rfl

end PerAxis

end BlockHydro
