import BlockHydro.Decimal.Binary64

/-!
# Scientific text with fixed places

One digit, a point, a fixed number of further digits, and the exponent of the
first digit without padding.  The digits are those of the exact value of the
double, rounded to the nearest last digit, a half to the even one.
-/

namespace BlockHydro

/-- The nearest whole number to a ratio, a half going to the even neighbour. -/
def Ratio.roundEven (ratio : Ratio) : Nat :=
  let below := ratio.numerator / ratio.denominator
  let rest := 2 * (ratio.numerator % ratio.denominator)
  if rest < ratio.denominator then below
  else if ratio.denominator < rest then below + 1
  else if below % 2 = 0 then below
  else below + 1

/-- The digits of a scientific text read as one number, and the exponent of the first. -/
structure ScientificDigits where
  digits : Nat
  exponent : Int
  deriving DecidableEq, Repr

/-- Round a magnitude above zero to one digit and `places` more. -/
def Magnitude.scientific (magnitude : Magnitude) (places : Nat) : ScientificDigits :=
  let exponent := magnitude.leadingPlace
  let rounded := (magnitude.inUnits (exponent - places)).roundEven
  if rounded < Nat.pow 10 (places + 1) then ⟨rounded, exponent⟩
  else ⟨rounded / 10, exponent + 1⟩

/-- Write the digits with a point after the first. -/
def ScientificDigits.text (number : ScientificDigits) (places : Nat) : String :=
  let digits := Nat.toDigits 10 number.digits
  let padded := List.replicate (places + 1 - digits.length) '0' ++ digits
  let mantissa := padded.take 1 ++ (if places = 0 then [] else '.' :: padded.drop 1)
  s!"{String.ofList mantissa}e{number.exponent}"

/-- The scientific text of a double with a fixed number of places after the point. -/
def scientificText (places : Nat) (x : Float) : String :=
  let signed (negative : Bool) (text : String) := if negative then "-" ++ text else text
  match Binary64.ofFloat x with
  | .notANumber => "NaN"
  | .infinite negative => signed negative "inf"
  | .finite negative magnitude =>
    let number := if magnitude.significand = 0 then ⟨0, 0⟩ else magnitude.scientific places
    signed negative (number.text places)

end BlockHydro
