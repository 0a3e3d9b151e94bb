import BlockHydro.Decimal.Binary64

/-!
# Shortest decimal text

A double stands for every real number that rounds to it.  Its shortest text
uses the coarsest power of ten of which some multiple rounds to the double;
of two such multiples it takes the nearer one, and the upper one at equal
distance.  The text is positional: no exponent, and no point after a whole
number.
-/

namespace BlockHydro

/-- The reals that round to a double, as multiples of a quarter of its spacing. -/
structure RoundingInterval where
  /-- The lower end. -/
  low : Nat
  /-- The double itself. -/
  center : Nat
  /-- The upper end. -/
  high : Nat
  /-- Both ends belong to the interval. -/
  closed : Bool
  /-- The power of two of the unit. -/
  exponent : Int

/-- A whole number of units of a power of ten. -/
structure DecimalPoint where
  count : Nat
  place : Int
  deriving DecidableEq, Repr

namespace RoundingInterval

/-- The interval of a magnitude above zero; below a power of two the spacing is half as wide. -/
def ofMagnitude (magnitude : Magnitude) : RoundingInterval :=
  let significand := magnitude.significand
  let narrow := significand = Nat.pow 2 Binary64.fractionBits ∧ magnitude.exponent ≠ Binary64.leastExponent
  { low := 4 * significand - (if narrow then 1 else 2)
    center := 4 * significand
    high := 4 * significand + 2
    closed := decide (significand % 2 = 0)
    exponent := magnitude.exponent - 2 }

/-- Whether a decimal point lies in the interval. -/
def holds (interval : RoundingInterval) (point : DecimalPoint) : Bool :=
  let low := Magnitude.ratio interval.low interval.exponent point.place
  let high := Magnitude.ratio interval.high interval.exponent point.place
  let scaled := point.count * low.denominator
  if interval.closed then
    decide (low.numerator ≤ scaled ∧ scaled ≤ high.numerator)
  else
    decide (low.numerator < scaled ∧ scaled < high.numerator)

/-- The multiple of a power of ten that stands for the double, if there is one. -/
def pointAt? (interval : RoundingInterval) (place : Int) : Option DecimalPoint :=
  let center := Magnitude.ratio interval.center interval.exponent place
  let below := center.numerator / center.denominator
  let lower : DecimalPoint := ⟨below, place⟩
  let upper : DecimalPoint := ⟨below + 1, place⟩
  let lowerIsNearer := 2 * (center.numerator % center.denominator) < center.denominator
  match interval.holds lower, interval.holds upper with
  | true, true => some (if lowerIsNearer then lower else upper)
  | true, false => some lower
  | false, true => some upper
  | false, false => none

/-- Try powers of ten from coarse to fine, at most `steps` of them before the last. -/
def firstPoint (interval : RoundingInterval) : Nat → Int → DecimalPoint
  | 0, place => (interval.pointAt? place).getD ⟨0, place⟩
  | steps + 1, place =>
    match interval.pointAt? place with
    | some point => point
    | none => firstPoint interval steps (place - 1)

end RoundingInterval

/-- The decimal with the fewest digits that rounds to a magnitude above zero. -/
def Magnitude.shortest (magnitude : Magnitude) : DecimalPoint :=
  let start := magnitude.leadingPlace + 1
  let exact := min magnitude.exponent 0
  (RoundingInterval.ofMagnitude magnitude).firstPoint (start - exact).toNat start

/-- Digits with a decimal point where it belongs, and none after a whole number. -/
def DecimalPoint.positional (point : DecimalPoint) : String :=
  let digits := Nat.toDigits 10 point.count
  if 0 ≤ point.place then
    String.ofList (digits ++ List.replicate point.place.toNat '0')
  else
    let fraction := (-point.place).toNat
    let padded := List.replicate (fraction + 1 - digits.length) '0' ++ digits
    let whole := padded.length - fraction
    String.ofList (padded.take whole ++ '.' :: padded.drop whole)

/-- The shortest text that reads back as the double. -/
def shortestText (x : Float) : String :=
  let signed (negative : Bool) (text : String) := if negative then "-" ++ text else text
  match Binary64.ofFloat x with
  | .notANumber => "NaN"
  | .infinite negative => signed negative "inf"
  | .finite negative magnitude =>
    signed negative
      (if magnitude.significand = 0 then "0" else magnitude.shortest.positional)

end BlockHydro
