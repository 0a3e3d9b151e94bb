import Mathlib
import BlockHydro.Scalar

/-!
# Doubles that are not numbers, and signs of doubles

Every operation on a double unpacks its operands, works on sign, mantissa and
exponent, and packs what it gets.  Two facts cross the packing: what is not a number
stays none (`isNaN_pack`), and what has no minus sign stays so (`Unsigned.pack`).

So an operand that is not a number takes the result with it, and no comparison with
it holds; and sums and products of doubles from zero up are from zero up, where no
infinity meets a zero.
-/

namespace BlockHydro.Rounded

open Float.Model (UnpackedFloat Format)
open Float.Model.UnpackedFloat

variable {x y : Float}

section NotANumber

theorem isNaN_iff : x.isNaN = true ↔ x.toModel.unpack = .notANumber := by
  unfold Float.isNaN Float.Model.isNaN UnpackedFloat.isNaN
  split <;> simp_all

theorem isNaN_pack : (Float.ofModel (Float.Model.pack .notANumber)).isNaN = true := by
  decide

theorem lt_iff : x < y ↔ UnpackedFloat.compare x.toModel.unpack y.toModel.unpack = some .lt := by
  change decide (x.toModel < y.toModel) = true ↔ _
  rw [decide_eq_true_iff]
  change (_ == some Ordering.lt) = true ↔ _
  rw [beq_iff_eq]

theorem le_iff :
    x ≤ y ↔ (UnpackedFloat.compare x.toModel.unpack y.toModel.unpack).any Ordering.isLE = true := by
  change decide (x.toModel ≤ y.toModel) = true ↔ _
  rw [decide_eq_true_iff]
  rfl

theorem compare_of_isNaN (invalid : x.isNaN = true ∨ y.isNaN = true) :
    UnpackedFloat.compare x.toModel.unpack y.toModel.unpack = none := by
  rw [isNaN_iff, isNaN_iff] at invalid
  rcases invalid with left | right
  · rw [left]
    rfl
  · rw [right]
    cases x.toModel.unpack <;> rfl

theorem not_lt_of_isNaN (invalid : x.isNaN = true ∨ y.isNaN = true) : ¬ x < y := by
  rw [lt_iff, compare_of_isNaN invalid]
  exact nofun

theorem not_le_of_isNaN (invalid : x.isNaN = true ∨ y.isNaN = true) : ¬ x ≤ y := by
  rw [le_iff, compare_of_isNaN invalid]
  exact nofun

/-- An operation that hands on what is not a number does so for doubles. -/
theorem isNaN_operation (operation : UnpackedFloat → UnpackedFloat → UnpackedFloat)
    (first : ∀ other, operation .notANumber other = .notANumber)
    (second : ∀ other, operation other .notANumber = .notANumber)
    (invalid : x.isNaN = true ∨ y.isNaN = true) :
    (Float.ofModel (Float.Model.pack (operation x.toModel.unpack y.toModel.unpack))).isNaN =
      true := by
  rw [isNaN_iff, isNaN_iff] at invalid
  rcases invalid with left | right
  · rw [left, first]
    exact isNaN_pack
  · rw [right, second]
    exact isNaN_pack

theorem isNaN_add (invalid : x.isNaN = true ∨ y.isNaN = true) : (x + y).isNaN = true :=
  isNaN_operation (UnpackedFloat.add .binary64) (fun _ => rfl)
    (fun other => by cases other <;> rfl) invalid

theorem isNaN_sub (invalid : x.isNaN = true ∨ y.isNaN = true) : (x - y).isNaN = true :=
  isNaN_operation (UnpackedFloat.sub .binary64) (fun _ => rfl)
    (fun other => by cases other <;> rfl) invalid

theorem isNaN_mul (invalid : x.isNaN = true ∨ y.isNaN = true) : (x * y).isNaN = true :=
  isNaN_operation (UnpackedFloat.mul .binary64) (fun _ => rfl)
    (fun other => by cases other <;> rfl) invalid

theorem isNaN_div (invalid : x.isNaN = true ∨ y.isNaN = true) : (x / y).isNaN = true :=
  isNaN_operation (UnpackedFloat.div .binary64) (fun _ => rfl)
    (fun other => by cases other <;> rfl) invalid

end NotANumber

section Signs

/-- A number that carries no minus sign, or a zero of either sign. -/
def Unsigned : UnpackedFloat → Prop
  | .infinity sign => sign = .positive
  | .notANumber => False
  | .zero _ => True
  | .finite sign _ _ _ => sign = .positive

theorem unpack_zero : (0.0 : Float).toModel.unpack = .zero .positive := by
  rfl

/-- The doubles from zero up are those without a minus sign. -/
theorem zero_le_iff : 0.0 ≤ x ↔ Unsigned x.toModel.unpack := by
  rw [le_iff, unpack_zero]
  match x.toModel.unpack with
  | .infinity .positive | .infinity .negative | .notANumber | .zero _ | .finite .positive _ _ _
  | .finite .negative _ _ _ => simp [Unsigned, UnpackedFloat.compare, Ordering.isLE]

theorem zero_le_zero : (0.0 : Float) ≤ 0.0 := by
  rw [zero_le_iff, unpack_zero]
  trivial

/-- What is not below zero is from zero up, or not a number. -/
theorem not_lt_zero_iff : ¬ x < 0.0 ↔ 0.0 ≤ x ∨ x.isNaN = true := by
  rw [zero_le_iff, isNaN_iff, lt_iff, unpack_zero]
  match x.toModel.unpack with
  | .infinity .positive | .infinity .negative | .notANumber | .zero _ | .finite .positive _ _ _
  | .finite .negative _ _ _ => simp [Unsigned, UnpackedFloat.compare]

/-- What is not zero or below is above zero, or not a number. -/
theorem not_le_zero_iff : ¬ x ≤ 0.0 ↔ 0.0 < x ∨ x.isNaN = true := by
  rw [le_iff, isNaN_iff, lt_iff, unpack_zero]
  match x.toModel.unpack with
  | .infinity .positive | .infinity .negative | .notANumber | .zero _ | .finite .positive _ _ _
  | .finite .negative _ _ _ => simp [UnpackedFloat.compare, Ordering.isLE]

theorem unpackSign_packComponents (sign : Sign) (exponent : BitVec Format.binary64.exponentBits)
    (mantissa : BitVec Format.binary64.mantissaBitsWithoutImplicit) :
    unpackSign (packComponents .binary64 sign exponent mantissa) = sign.toBitVec := by
  unfold unpackSign packComponents
  ext i inside
  simp
  grind

/-- Components without a minus sign are those of a number without one, unless the exponent is
reserved. -/
theorem Unsigned.packComponents {exponent : BitVec Format.binary64.exponentBits}
    (notReserved : exponent ≠ -1#_) (mantissa : BitVec Format.binary64.mantissaBitsWithoutImplicit) :
    Unsigned (unpack .binary64
      (UnpackedFloat.packComponents .binary64 .positive exponent mantissa)) := by
  unfold unpack
  simp only [unpackExponent_packComponents, unpackSign_packComponents, if_neg notReserved]
  split
  · split <;> trivial
  · rfl

/-- Packing keeps a number without a minus sign, though it may become infinite. -/
theorem Unsigned.pack {value : UnpackedFloat} (unsigned : Unsigned value) :
    Unsigned (Float.Model.pack value).unpack := by
  change Unsigned (unpack .binary64 (UnpackedFloat.pack .binary64 value))
  cases value with
  | notANumber => exact unsigned.elim
  | infinity sign =>
    obtain rfl : sign = .positive := unsigned
    exact rfl
  | zero sign => cases sign <;> trivial
  | finite sign mantissa exponent positive =>
    obtain rfl : sign = .positive := unsigned
    unfold UnpackedFloat.pack
    dsimp only
    split
    next => exact rfl
    next fits =>
      split
      next =>
        refine Unsigned.packComponents (fun reserved => fits ?_) _
        have largest := congrArg BitVec.toNat reserved
        simp only [BitVec.toNat_ofNat, BitVec.toNat_neg] at largest
        omega
      next => exact Unsigned.packComponents (by decide) _

theorem Unsigned.roundWithAccuracy (mantissa : Nat) (exponent : Int) (accuracy : Accuracy) :
    Unsigned (UnpackedFloat.roundWithAccuracy .binary64 .positive mantissa exponent accuracy) := by
  unfold UnpackedFloat.roundWithAccuracy
  dsimp only
  split <;> trivial

theorem Unsigned.normalize {mantissa : Int} (nonneg : 0 ≤ mantissa) (exponent : Int) (sign : Sign) :
    Unsigned (UnpackedFloat.normalize .binary64 mantissa exponent sign) := by
  unfold UnpackedFloat.normalize
  split
  next below => exact absurd (Int.compare_eq_lt.mp below) (Int.not_lt.mpr nonneg)
  next => trivial
  next => exact Unsigned.roundWithAccuracy _ _ _

theorem zero_le_add (first : 0.0 ≤ x) (second : 0.0 ≤ y) : 0.0 ≤ x + y := by
  rw [zero_le_iff] at first second ⊢
  refine Unsigned.pack ?_
  match x.toModel.unpack, y.toModel.unpack, first, second with
  | .infinity _, .infinity _, rfl, rfl => exact rfl
  | .infinity _, .zero _, rfl, _ | .infinity _, .finite .., rfl, _ => exact rfl
  | .zero _, .infinity _, _, rfl | .finite .., .infinity _, _, rfl => exact rfl
  | .zero _, .zero _, _, _ =>
    unfold UnpackedFloat.add
    dsimp only
    split <;> trivial
  | .zero _, .finite .., _, rfl | .finite .., .zero _, rfl, _ => exact rfl
  | .finite .., .finite .., rfl, rfl =>
    exact Unsigned.normalize (Int.add_nonneg (Int.natCast_nonneg _) (Int.natCast_nonneg _)) _ _

/-- A positive number that is not infinite. -/
def Scale (x : Float) : Prop :=
  ∃ mantissa exponent positive, x.toModel.unpack = .finite .positive mantissa exponent positive

theorem scale_half : Scale 0.5 := ⟨_, _, _, rfl⟩

theorem scale_two : Scale 2.0 := ⟨_, _, _, rfl⟩

theorem Scale.zero_le_mul (scale : Scale x) (nonneg : 0.0 ≤ y) : 0.0 ≤ x * y ∧ 0.0 ≤ y * x := by
  obtain ⟨mantissa, exponent, positive, unpacked⟩ := scale
  rw [zero_le_iff] at nonneg
  have products :
      Unsigned (UnpackedFloat.mul .binary64 x.toModel.unpack y.toModel.unpack) ∧
        Unsigned (UnpackedFloat.mul .binary64 y.toModel.unpack x.toModel.unpack) := by
    rw [unpacked]
    match y.toModel.unpack, nonneg with
    | .infinity _, rfl => exact ⟨rfl, rfl⟩
    | .zero _, _ => exact ⟨trivial, trivial⟩
    | .finite .., rfl => exact ⟨Unsigned.roundWithAccuracy _ _ _, Unsigned.roundWithAccuracy _ _ _⟩
  rw [zero_le_iff, zero_le_iff]
  exact ⟨products.1.pack, products.2.pack⟩

theorem zero_le_max (first : 0.0 ≤ x) (second : 0.0 ≤ y) : 0.0 ≤ binary64Max x y := by
  unfold binary64Max
  split
  · split
    · exact first
    · exact second
  · exact first

theorem zero_le_of_lt (positive : 0.0 < x) : 0.0 ≤ x := by
  rw [lt_iff] at positive
  rw [le_iff, positive]
  rfl

end Signs

end BlockHydro.Rounded
