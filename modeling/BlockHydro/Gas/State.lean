import BlockHydro.Scalar
import BlockHydro.Space.Fault

/-!
# States of the gas

A `Conserved` state has mass density, momentum density and energy density; the
flux through a face has the same shape.  A `Primitive` state has density,
velocity and pressure.

A zone stores a state in its first five fields.  A zone of four fields, as an
isothermal gas uses, stores no energy and no pressure, and reads them as zero.
-/

namespace BlockHydro

/-- The values of a zone with the leading ones replaced, as many as there is room for. -/
def overwrite {R : Type} {count numFields : Nat} (given : Vector R count)
    (before : Vector R numFields) : Vector R numFields :=
  Vector.ofFn fun field : Fin numFields =>
    if inside : field.val < count then given[field.val] else before[field]

/-- Mass, momentum and energy per volume, or their flux through a face. -/
structure Conserved (R : Type) where
  density : R
  momentum : PerAxis R
  energy : R

/-- Density, velocity and pressure. -/
structure Primitive (R : Type) where
  density : R
  velocity : PerAxis R
  pressure : R

namespace Conserved

variable {R : Type}

/-- The five values in field order. -/
def toFields (state : Conserved R) : Vector R 5 :=
  #v[state.density, state.momentum.i, state.momentum.j, state.momentum.k, state.energy]

/-- Read a zone of at least four fields. -/
def ofFields [Zero R] {numFields : Nat} (fields : Vector R numFields) :
    Except Fault (Conserved R) :=
  if enough : 4 ≤ numFields then
    .ok {
      density := fields[0]
      momentum := ⟨fields[1], fields[2], fields[3]⟩
      energy := if withEnergy : 4 < numFields then fields[4] else 0 }
  else
    .error (.tooFewFields 4 numFields)

/-- Write the state into the leading fields of a zone. -/
def writeTo {numFields : Nat} (state : Conserved R) (before : Vector R numFields) :
    Vector R numFields :=
  overwrite state.toFields before

/-- Apply an operation to each of the five values. -/
def map (f : R → R) (state : Conserved R) : Conserved R where
  density := f state.density
  momentum := state.momentum.map f
  energy := f state.energy

/-- Combine two states value by value. -/
def zipWith (f : R → R → R) (left right : Conserved R) : Conserved R where
  density := f left.density right.density
  momentum := left.momentum.zipWith f right.momentum
  energy := f left.energy right.energy

instance [Add R] : Add (Conserved R) := ⟨zipWith (· + ·)⟩

instance [Sub R] : Sub (Conserved R) := ⟨zipWith (· - ·)⟩

instance [Mul R] : HMul (Conserved R) R (Conserved R) := ⟨fun state factor => state.map (· * factor)⟩

instance [Div R] : HDiv (Conserved R) R (Conserved R) := ⟨fun state divisor => state.map (· / divisor)⟩

instance [BEq R] : BEq (Conserved R) where
  beq left right :=
    left.density == right.density && left.momentum.i == right.momentum.i
      && left.momentum.j == right.momentum.j && left.momentum.k == right.momentum.k
      && left.energy == right.energy

/-- The square of the momentum. -/
def momentumSquared [Add R] [Mul R] (state : Conserved R) : R :=
  state.momentum.dot state.momentum

/-- Return from the frame whose first axis is `axis`. -/
def unrotate (state : Conserved R) (axis : Axis) : Conserved R :=
  { state with momentum := state.momentum.unrotate axis }

end Conserved

namespace Primitive

variable {R : Type}

/-- The five values in field order. -/
def toFields (state : Primitive R) : Vector R 5 :=
  #v[state.density, state.velocity.i, state.velocity.j, state.velocity.k, state.pressure]

/-- Read a zone of at least four fields. -/
def ofFields [Zero R] {numFields : Nat} (fields : Vector R numFields) :
    Except Fault (Primitive R) :=
  if enough : 4 ≤ numFields then
    .ok {
      density := fields[0]
      velocity := ⟨fields[1], fields[2], fields[3]⟩
      pressure := if withPressure : 4 < numFields then fields[4] else 0 }
  else
    .error (.tooFewFields 4 numFields)

/-- Write the state into the leading fields of a zone. -/
def writeTo {numFields : Nat} (state : Primitive R) (before : Vector R numFields) :
    Vector R numFields :=
  overwrite state.toFields before

/-- The square of the velocity. -/
def velocitySquared [Add R] [Mul R] (state : Primitive R) : R :=
  state.velocity.dot state.velocity

/-- View the state in the frame whose first axis is `axis`. -/
def rotate (state : Primitive R) (axis : Axis) : Primitive R :=
  { state with velocity := state.velocity.rotate axis }

end Primitive

end BlockHydro
