import BlockHydro.Decimal.Binary64

/-!
# Reading numerals

Whole numbers are an optional sign and digits, within the range of their type.
Decimal numbers add a fraction, an exponent of ten, and the words `inf`,
`infinity` and `nan` in any case; the nearest double is read.  Nothing else may
stand in the text, not even blanks.
-/

namespace BlockHydro

/-- Split a leading sign off, `true` for minus. -/
def splitSign : List Char → Bool × List Char
  | '-' :: rest => (true, rest)
  | '+' :: rest => (false, rest)
  | rest => (false, rest)

/-- The value of decimal digits. -/
def digitsValue (digits : List Char) : Nat :=
  digits.foldl (fun value digit => 10 * value + (digit.toNat - '0'.toNat)) 0

/-- The value of a text of one or more digits. -/
def readDigits? (text : List Char) : Option Nat :=
  if text ≠ [] ∧ text.all Char.isDigit then some (digitsValue text) else none

/-- A whole number with an optional sign. -/
def readInteger? (text : String) : Option Int := do
  let (negative, digits) := splitSign text.toList
  let value ← readDigits? digits
  return if negative then -value else value

/-- A whole number of 64 bits in two's complement. -/
def readInt64? (text : String) : Option Int := do
  let value ← readInteger? text
  let bound := Nat.pow 2 63
  if -bound ≤ value ∧ value < bound then some value else none

/-- A whole number of 64 bits without a minus sign. -/
def readUInt64? (text : String) : Option Nat := do
  let (negative, digits) := splitSign text.toList
  let value ← readDigits? digits
  if !negative ∧ value < Nat.pow 2 64 then some value else none

/-- The double nearest to `significand * 10 ^ exponent`. -/
def nearestFloat (significand : Nat) (exponent : Int) : Float :=
  let leading := (decimalLength significand : Int) + exponent
  if significand = 0 ∨ leading < -330 then 0.0
  else if 310 < leading then 1.0 / 0.0
  else Float.ofScientific significand (decide (exponent < 0)) exponent.natAbs

/-- The exponent of a decimal number; none is zero. -/
def readExponent? : List Char → Option Int
  | [] => some 0
  | mark :: rest =>
    if mark = 'e' ∨ mark = 'E' then do
      let (negative, digits) := splitSign rest
      let value ← readDigits? digits
      return if negative then -value else value
    else
      none

/-- A decimal number without a sign. -/
def readMagnitude? (text : List Char) : Option Float := do
  let whole := text.takeWhile Char.isDigit
  let afterWhole := text.dropWhile Char.isDigit
  let (fraction, afterFraction) :=
    match afterWhole with
    | '.' :: rest => (rest.takeWhile Char.isDigit, rest.dropWhile Char.isDigit)
    | rest => ([], rest)
  let exponent ← readExponent? afterFraction
  let digits := whole ++ fraction
  if digits = [] then none
  else return nearestFloat (digitsValue digits) (exponent - fraction.length)

/-- A decimal number, or the word for a special value. -/
def readFloat? (text : String) : Option Float := do
  let (negative, unsigned) := splitSign text.toList
  let word := unsigned.map Char.toLower
  let value ←
    if word = "inf".toList ∨ word = "infinity".toList then some (1.0 / 0.0)
    else if word = "nan".toList then some (0.0 / 0.0)
    else readMagnitude? unsigned
  return if negative then -value else value

end BlockHydro
