import BlockHydro.Proofs.Exact.Reals

/-!
# Floating point without rounding

`Unrounded` has the values of a floating point format whose numbers are all the real
numbers: the numbers, two infinities, and what is not a number.  Its operations are
those of IEEE 754 in that format, except that a zero has no sign.  No sum, product
or quotient of numbers is rounded, overflows or underflows; an infinity comes from
the input, or from division by zero.

The real numbers themselves are no such format: there a quotient by zero is zero, and
nothing compares as unordered.
-/

namespace BlockHydro

/-- A real number, an infinity, or what is not a number. -/
inductive Unrounded where
  | number (value : ℝ)
  | infinity (negative : Bool)
  | notANumber

namespace Unrounded

/-- An infinity with the sign turned as a number asks; none if the number is zero. -/
noncomputable def infinityTimes (negative : Bool) (factor : ℝ) : Unrounded :=
  if factor = 0 then .notANumber else .infinity (negative ^^ decide (factor < 0))

instance : Zero Unrounded := ⟨.number 0⟩

instance : One Unrounded := ⟨.number 1⟩

instance : IntCast Unrounded := ⟨fun value => .number value⟩

noncomputable instance : OfScientific Unrounded :=
  ⟨fun mantissa negative exponent => .number (OfScientific.ofScientific mantissa negative exponent)⟩

noncomputable instance : Add Unrounded where
  add
    | .number x, .number y => .number (x + y)
    | .number _, .infinity negative | .infinity negative, .number _ => .infinity negative
    | .infinity first, .infinity second => if first = second then .infinity first else .notANumber
    | .notANumber, _ | _, .notANumber => .notANumber

noncomputable instance : Sub Unrounded where
  sub
    | .number x, .number y => .number (x - y)
    | .number _, .infinity negative => .infinity !negative
    | .infinity negative, .number _ => .infinity negative
    | .infinity first, .infinity second => if first = second then .notANumber else .infinity first
    | .notANumber, _ | _, .notANumber => .notANumber

noncomputable instance : Mul Unrounded where
  mul
    | .number x, .number y => .number (x * y)
    | .number factor, .infinity negative | .infinity negative, .number factor =>
      infinityTimes negative factor
    | .infinity first, .infinity second => .infinity (first ^^ second)
    | .notANumber, _ | _, .notANumber => .notANumber

noncomputable instance : Div Unrounded where
  div
    | .number x, .number y => if y = 0 then infinityTimes false x else .number (x / y)
    | .number _, .infinity _ => .number 0
    | .infinity negative, .number y => .infinity (negative ^^ decide (y < 0))
    | .infinity _, .infinity _ | .notANumber, _ | _, .notANumber => .notANumber

instance : LT Unrounded where
  lt
    | .number x, .number y => x < y
    | .number _, .infinity negative => negative = false
    | .infinity negative, .number _ => negative = true
    | .infinity first, .infinity second => first = true ∧ second = false
    | .notANumber, _ | _, .notANumber => False

instance : LE Unrounded where
  le
    | .number x, .number y => x ≤ y
    | .number _, .infinity negative => negative = false
    | .infinity negative, .number _ => negative = true
    | .infinity first, .infinity second => first = true ∨ second = false
    | .notANumber, _ | _, .notANumber => False

noncomputable instance : BEq Unrounded where
  beq
    | .number x, .number y => decide (x = y)
    | .infinity first, .infinity second => first == second
    | _, _ => false

open Classical in
/-- Floating point arithmetic that rounds nothing. -/
noncomputable instance instScalar : Scalar Unrounded where
  sqrt
    | .number x => if x < 0 then .notANumber else .number √x
    | .infinity false => .infinity false
    | .infinity true | .notANumber => .notANumber
  abs
    | .number x => .number |x|
    | .infinity _ => .infinity false
    | .notANumber => .notANumber
  max left right := if right == right then if right < left then left else right else left
  min left right := if right == right then if left < right then left else right else left
  decideLT := fun _ _ => propDecidable _
  decideLE := fun _ _ => propDecidable _

section Laws

variable {x y : ℝ} {negative first second : Bool} {left right : Unrounded}

@[simp] theorem zero_eq : (0 : Unrounded) = .number 0 := rfl

@[simp] theorem one_eq : (1 : Unrounded) = .number 1 := rfl

@[simp] theorem ofScientific_eq (mantissa : ℕ) (below : Bool) (exponent : ℕ) :
    (OfScientific.ofScientific mantissa below exponent : Unrounded) =
      .number (OfScientific.ofScientific mantissa below exponent) := rfl

@[simp] theorem number_add_number : number x + number y = number (x + y) := rfl

@[simp] theorem number_add_infinity : number x + infinity negative = infinity negative := rfl

@[simp] theorem infinity_add_number : infinity negative + number x = infinity negative := rfl

@[simp] theorem infinity_add_self : infinity negative + infinity negative = infinity negative :=
  if_pos rfl

@[simp] theorem number_sub_number : number x - number y = number (x - y) := rfl

@[simp] theorem number_sub_infinity : number x - infinity negative = infinity !negative := rfl

@[simp] theorem number_mul_number : number x * number y = number (x * y) := rfl

theorem infinityTimes_zero : infinityTimes negative 0 = notANumber := if_pos rfl

theorem infinityTimes_of_pos (positive : 0 < x) : infinityTimes negative x = infinity negative := by
  rw [infinityTimes, if_neg positive.ne', decide_eq_false positive.le.not_gt, Bool.xor_false]

theorem infinityTimes_of_neg (below : x < 0) : infinityTimes negative x = infinity !negative := by
  rw [infinityTimes, if_neg below.ne, decide_eq_true below, Bool.xor_true]

theorem number_div_number (divides : y ≠ 0) : number x / number y = number (x / y) := if_neg divides

theorem number_div_zero : number x / number 0 = infinityTimes false x := if_pos rfl

@[simp] theorem number_div_infinity : number x / infinity negative = number 0 := rfl

@[simp] theorem number_lt_number : number x < number y ↔ x < y := Iff.rfl

@[simp] theorem number_lt_infinity : number x < infinity negative ↔ negative = false := Iff.rfl

@[simp] theorem infinity_lt_number : infinity negative < number x ↔ negative = true := Iff.rfl

@[simp] theorem infinity_lt_infinity :
    infinity first < infinity second ↔ first = true ∧ second = false := Iff.rfl

@[simp] theorem number_le_number : number x ≤ number y ↔ x ≤ y := Iff.rfl

@[simp] theorem number_le_infinity : number x ≤ infinity negative ↔ negative = false := Iff.rfl

@[simp] theorem infinity_le_number : infinity negative ≤ number x ↔ negative = true := Iff.rfl

@[simp] theorem infinity_le_infinity :
    infinity first ≤ infinity second ↔ first = true ∨ second = false := Iff.rfl

@[simp] theorem not_notANumber_lt : ¬ notANumber < right := fun below => below

@[simp] theorem not_le_notANumber : ¬ left ≤ notANumber := by
  cases left <;> exact id

/-- What is from zero up is a number or the upper infinity. -/
theorem zero_le_iff :
    0 ≤ left ↔ (∃ value : ℝ, 0 ≤ value ∧ left = number value) ∨ left = infinity false := by
  cases left <;> simp

/-- Only what is not a number differs from itself. -/
theorem beq_self (ordered : left ≠ notANumber) : (left == left) = true := by
  cases left with
  | number x => exact decide_eq_true rfl
  | infinity negative => exact beq_self_eq_true negative
  | notANumber => exact absurd rfl ordered

theorem min_of_lt (below : left < right) : Scalar.min left right = left := by
  have ordered : right ≠ notANumber := by
    rintro rfl
    cases left <;> exact below
  exact (if_pos (beq_self ordered)).trans (if_pos below)

theorem min_of_not_lt (ordered : right ≠ notANumber) (above : ¬ left < right) :
    Scalar.min left right = right :=
  (if_pos (beq_self ordered)).trans (if_neg above)

theorem min_number_number : Scalar.min (number x) (number y) = number (min x y) := by
  by_cases below : x < y
  · rw [min_of_lt below, min_eq_left below.le]
  · rw [min_of_not_lt (nofun : number y ≠ notANumber) below, min_eq_right (not_lt.mp below)]

theorem sqrt_number (nonneg : 0 ≤ x) : Scalar.sqrt (number x) = number √x := if_neg nonneg.not_gt

theorem max_def : Scalar.max left right =
    if right == right then if right < left then left else right else left := rfl

/-- The larger of two operands is one of them. -/
theorem max_cases (left right : Unrounded) :
    Scalar.max left right = left ∨ Scalar.max left right = right := by
  rw [max_def]
  split
  next =>
    split
    next => exact .inl rfl
    next => exact .inr rfl
  next => exact .inl rfl

/-- The larger of two operands is from zero up if the first is. -/
theorem zero_le_max (nonneg : 0 ≤ left) : 0 ≤ Scalar.max left right := by
  rw [max_def]
  split
  next comparable =>
    split
    next => exact nonneg
    next notBelow =>
      obtain ⟨value, positive, rfl⟩ | rfl := zero_le_iff.mp nonneg
      · cases right with
        | number other => exact positive.trans (not_lt.mp notBelow)
        | infinity negative => exact Bool.eq_false_iff.mpr notBelow
        | notANumber => exact absurd comparable Bool.false_ne_true
      · cases right with
        | number other => exact absurd rfl notBelow
        | infinity negative => simpa using notBelow
        | notANumber => exact absurd comparable Bool.false_ne_true
  next => exact nonneg

end Laws

end Unrounded

end BlockHydro
