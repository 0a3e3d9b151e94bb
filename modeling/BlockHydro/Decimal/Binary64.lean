/-!
# Doubles as exact numbers

A finite double is a whole number times a power of two.  `Magnitude` keeps that
pair, and `Magnitude.inUnits` compares it with a power of ten as a ratio of
natural numbers, so that the decimal texts of this folder are decided exactly.
-/

namespace BlockHydro

/-- The absolute value of a finite double: `significand * 2 ^ exponent`. -/
structure Magnitude where
  significand : Nat
  exponent : Int
  deriving DecidableEq, Repr

/-- What the bits of a double stand for. -/
inductive Binary64 where
  | finite (negative : Bool) (magnitude : Magnitude)
  | infinite (negative : Bool)
  | notANumber
  deriving DecidableEq, Repr

namespace Binary64

/-- The number of significand bits below the leading one. -/
def fractionBits : Nat := 52

/-- The exponent of the smallest spacing of doubles. -/
def leastExponent : Int := -1074

/-- Split the bits into sign, exponent and fraction. -/
def ofBits (bits : Nat) : Binary64 :=
  let fraction := bits % Nat.pow 2 fractionBits
  let biased := bits / Nat.pow 2 fractionBits % Nat.pow 2 11
  let negative := decide (bits / Nat.pow 2 63 % 2 = 1)
  if biased = Nat.pow 2 11 - 1 then
    if fraction = 0 then .infinite negative else .notANumber
  else if biased = 0 then
    .finite negative ⟨fraction, leastExponent⟩
  else
    .finite negative ⟨Nat.pow 2 fractionBits + fraction, leastExponent + (biased - 1 : Nat)⟩

/-- The number or special value that a double stands for. -/
def ofFloat (x : Float) : Binary64 := ofBits x.toBits.toNat

end Binary64

/-- A ratio of natural numbers. -/
structure Ratio where
  numerator : Nat
  denominator : Nat

/-- The number of decimal digits of a natural number. -/
def decimalLength (n : Nat) : Nat := (Nat.toDigits 10 n).length

namespace Magnitude

/-- `count * 2 ^ exponent / 10 ^ place` as a ratio. -/
def ratio (count : Nat) (exponent place : Int) : Ratio where
  numerator := count * Nat.pow 2 exponent.toNat * Nat.pow 10 (-place).toNat
  denominator := Nat.pow 2 (-exponent).toNat * Nat.pow 10 place.toNat

/-- The magnitude in units of a power of ten. -/
def inUnits (magnitude : Magnitude) (place : Int) : Ratio :=
  ratio magnitude.significand magnitude.exponent place

/-- The power of ten of the leading digit of a magnitude above zero. -/
def leadingPlace (magnitude : Magnitude) : Int :=
  let whole := magnitude.inUnits 0
  if whole.denominator ≤ whole.numerator then
    (decimalLength (whole.numerator / whole.denominator) : Int) - 1
  else
    -(decimalLength ((whole.denominator - 1) / whole.numerator) : Int)

end Magnitude

end BlockHydro
