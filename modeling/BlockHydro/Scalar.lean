/-!
# Scalars

The gas dynamics of this library is written over any type that carries the
operations of a number.  `Scalar` asks for those operations and for no law:
a statement proved for every `Scalar` holds bit for bit in floating point,
and a statement that needs exact arithmetic is made about an instance that
has the laws.

Programs run on the binary64 instance at the end of this file.
-/

namespace BlockHydro

/-- The arithmetic, comparisons and literals that the gas dynamics uses. -/
class Scalar (R : Type) extends
    Zero R, One R, Add R, Sub R, Mul R, Div R, LT R, LE R, BEq R, OfScientific R, IntCast R where
  /-- The square root. -/
  sqrt : R → R
  /-- The magnitude without the sign. -/
  abs : R → R
  /-- The larger operand, the second of equal ones; an operand that is not a number gives way to the
  other. -/
  max : R → R → R
  /-- The smaller operand, the second of equal ones; an operand that is not a number gives way to the
  other. -/
  min : R → R → R
  /-- Comparison is decided, so that programs can branch on it. -/
  decideLT : DecidableLT R
  /-- Comparison is decided, so that programs can branch on it. -/
  decideLE : DecidableLE R

instance Scalar.instDecidableLT {R : Type} [Scalar R] : DecidableLT R := Scalar.decideLT

instance Scalar.instDecidableLE {R : Type} [Scalar R] : DecidableLE R := Scalar.decideLE

/-- The larger of two doubles, ignoring an operand that is not a number; of two equal ones, which may
be zeros of different sign, the second. -/
def binary64Max (left right : Float) : Float :=
  if right == right then if right < left then left else right else left

/-- The smaller of two doubles, ignoring an operand that is not a number; of two equal ones, which
may be zeros of different sign, the second. -/
def binary64Min (left right : Float) : Float :=
  if right == right then if left < right then left else right else left

/-- Binary64 arithmetic, each operation rounded once. -/
instance Scalar.instFloat : Scalar Float where
  zero := 0.0
  one := 1.0
  intCast := Float.ofInt
  sqrt := Float.sqrt
  abs := Float.abs
  max := binary64Max
  min := binary64Min
  decideLT := inferInstance
  decideLE := inferInstance

end BlockHydro
