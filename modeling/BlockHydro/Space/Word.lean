import BlockHydro.Space.Fault

/-!
# Machine words

Lengths and places are counted in unsigned words of 64 bits, indexes in signed
ones.  A result that its word does not hold overflows, and what happens then is
a choice of the build: the program stops, or the bits above the word are lost.
`Overflow` is that choice.  A result that the word holds comes out of either.

A conversion between the two kinds of words keeps the bits and never stops.
-/

namespace BlockHydro

/-- The number of values of a word. -/
def wordSize : Nat := Nat.pow 2 64

/-- The number of words that are not negative when read as signed. -/
def signedSize : Nat := Nat.pow 2 63

theorem wordSize_eq : wordSize = 2 * signedSize := rfl

/-- The unsigned word with the bits of an integer. -/
def toUnsigned (number : Int) : Nat := (number % wordSize).toNat

/-- The signed word with the bits of an unsigned one. -/
def toSigned (word : Nat) : Int :=
  if word < signedSize then word else (word : Int) - wordSize

theorem toUnsigned_natCast {word : Nat} (fits : word < wordSize) : toUnsigned word = word := by
  rw [toUnsigned, Int.emod_eq_of_lt (by omega) (by omega), Int.toNat_natCast]

theorem toUnsigned_sub_wordSize (number : Int) :
    toUnsigned (number - wordSize) = toUnsigned number := by
  rw [toUnsigned, Int.sub_emod_right, toUnsigned]

theorem toUnsigned_toSigned {word : Nat} (fits : word < wordSize) :
    toUnsigned (toSigned word) = word := by
  unfold toSigned
  split
  · exact toUnsigned_natCast fits
  · rw [toUnsigned_sub_wordSize, toUnsigned_natCast fits]

theorem toSigned_toUnsigned {number : Int} (low : -signedSize ≤ number)
    (high : number < signedSize) : toSigned (toUnsigned number) = number := by
  have twice := wordSize_eq
  by_cases negative : number < 0
  · have word : toUnsigned number = (number + wordSize).toNat := by
      rw [toUnsigned, ← Int.add_emod_right, Int.emod_eq_of_lt (by omega) (by omega)]
    rw [word, toSigned, if_neg (by omega)]
    omega
  · obtain ⟨word, rfl⟩ := Int.eq_ofNat_of_zero_le (Int.not_lt.mp negative)
    rw [toUnsigned_natCast (by omega), toSigned, if_pos (by omega)]

/-- What a build does with a result that its word does not hold. -/
inductive Overflow where
  /-- The program stops. -/
  | stop
  /-- The bits above the word are lost. -/
  | wrap
  deriving DecidableEq, Repr

namespace Overflow

/-- Keep a result in an unsigned word. -/
def unsigned (overflow : Overflow) (result : Nat) : Except Fault Nat :=
  match overflow with
  | .stop => if result < wordSize then .ok result else .error .overflow
  | .wrap => .ok (result % wordSize)

/-- Keep a result in a signed word. -/
def signed (overflow : Overflow) (result : Int) : Except Fault Int :=
  match overflow with
  | .stop =>
    if -signedSize ≤ result ∧ result < signedSize then .ok result else .error .overflow
  | .wrap => .ok (toSigned (toUnsigned result))

/-- The unsigned word with the bits of a signed difference. -/
def distance (overflow : Overflow) (start stop : Int) : Except Fault Nat :=
  return toUnsigned (← overflow.signed (stop - start))

/-- A signed number moved on by the signed word with the bits of an unsigned one. -/
def advance (overflow : Overflow) (start : Int) (steps : Nat) : Except Fault Int :=
  overflow.signed (start + toSigned steps)

variable {overflow : Overflow}

/-- A result that the word holds comes out of every build. -/
theorem unsigned_eq {result : Nat} (fits : result < wordSize) :
    overflow.unsigned result = .ok result := by
  cases overflow with
  | stop => exact if_pos fits
  | wrap => exact congrArg _ (Nat.mod_eq_of_lt fits)

/-- What a build keeps is a word. -/
theorem lt_of_unsigned {result word : Nat} (kept : overflow.unsigned result = .ok word) :
    word < wordSize := by
  cases overflow with
  | stop =>
    dsimp only [unsigned] at kept
    split at kept
    next fits =>
      cases kept
      exact fits
    next => cases kept
  | wrap =>
    cases kept
    exact Nat.mod_lt _ (by decide)

/-- A distance that the word holds, if no build stops at it, comes out of every build. -/
theorem distance_eq {start stop : Int} {steps : Nat} (away : stop - start = steps)
    (fits : steps < wordSize) (looks : overflow = .stop → steps < signedSize) :
    overflow.distance start stop = .ok steps := by
  rw [distance, away]
  cases overflow with
  | stop =>
    have small := looks rfl
    rw [signed, if_pos ⟨by omega, by omega⟩]
    exact congrArg Except.ok (toUnsigned_natCast fits)
  | wrap =>
    refine congrArg Except.ok ?_
    rw [toUnsigned_natCast fits, toUnsigned_toSigned fits]

/-- Steps to a number that the word holds, if no build stops at them, lead there in every build. -/
theorem advance_eq {start : Int} {steps : Nat} (low : -signedSize ≤ start + steps)
    (high : start + steps < signedSize) (looks : overflow = .stop → steps < signedSize) :
    overflow.advance start steps = .ok (start + steps) := by
  unfold advance
  cases overflow with
  | stop => rw [toSigned, if_pos (looks rfl), signed, if_pos ⟨low, high⟩]
  | wrap =>
    have arrived : toUnsigned (start + toSigned steps) = toUnsigned (start + steps) := by
      unfold toSigned
      split
      · rfl
      · rw [← Int.add_sub_assoc, toUnsigned_sub_wordSize]
    rw [signed, arrived, toSigned_toUnsigned low high]

/-- What comes out of a build that stops on overflow is the result. -/
theorem eq_of_unsigned_stop {result word : Nat} (kept : Overflow.stop.unsigned result = .ok word) :
    word = result := by
  dsimp only [unsigned] at kept
  split at kept
  next => exact (Except.ok.inj kept).symm
  next => cases kept

theorem eq_of_signed_stop {result word : Int} (kept : Overflow.stop.signed result = .ok word) :
    word = result ∧ result < signedSize := by
  dsimp only [signed] at kept
  split at kept
  next fits => exact ⟨(Except.ok.inj kept).symm, fits.2⟩
  next => cases kept

theorem eq_of_distance_stop {start stop : Int} {steps : Nat}
    (kept : Overflow.stop.distance start stop = .ok steps) (forward : start ≤ stop) :
    steps = (stop - start).toNat ∧ steps < signedSize := by
  obtain ⟨difference, kept, same⟩ := exists_of_bind_eq_ok kept
  obtain ⟨rfl, small⟩ := eq_of_signed_stop kept
  obtain ⟨word, away⟩ := Int.eq_ofNat_of_zero_le (Int.sub_nonneg_of_le forward)
  have twice := wordSize_eq
  obtain rfl : toUnsigned (stop - start) = steps := Except.ok.inj same
  rw [away, toUnsigned_natCast (by omega)]
  omega

theorem eq_of_advance_stop {start arrived : Int} {steps : Nat}
    (kept : Overflow.stop.advance start steps = .ok arrived) (small : steps < signedSize) :
    arrived = start + steps := by
  rw [advance, toSigned, if_pos small] at kept
  exact (eq_of_signed_stop kept).1

end Overflow

end BlockHydro
