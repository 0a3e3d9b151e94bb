import Mathlib.Analysis.Real.Sqrt
import Mathlib.Tactic.Linarith
import BlockHydro.Gas.PressureRoot
import BlockHydro.Proofs.Exact.Reals

/-!
# The bracket of a pressure search in exact arithmetic

A test that sorts trial pressures to the two sides of a root keeps the root inside
the bracket: doubling moves the lower end only to trials at or below the root, and
halving moves either end to its own side.  A search that ends has therefore
enclosed the root in a bracket that is as narrow as asked, whatever the budget was.
It ends if the budget pays for the doublings that carry the upper end past the root
(`Bracket.Sorts.exists_expand`) and for the halvings that narrow what they leave
(`Bracket.Sorts.exists_narrow`).

`Bracket.Encloses.abs_middle_sub_le` bounds how far the middle of a narrow bracket
lies from the root.
-/

namespace BlockHydro

namespace Bracket

variable {root tolerance low high : ℝ} {budget : Nat} {bracket : Bracket ℝ}

/-- The root lies between the ends of a bracket, which are not negative. -/
structure Encloses (bracket : Bracket ℝ) (root : ℝ) : Prop where
  low_nonneg : 0 ≤ bracket.low
  low_le : bracket.low ≤ root
  le_high : root ≤ bracket.high

/-- A test finds the side of the root on which a trial lies. -/
structure Sorts (below : ℝ → Bool) (root : ℝ) : Prop where
  le_root : ∀ trial, 0 ≤ trial → below trial = true → trial ≤ root
  root_le : ∀ trial, 0 ≤ trial → below trial = false → root ≤ trial

/-- Doubling ends with a bracket around the root, if it ends. -/
theorem Sorts.encloses_expand {below : ℝ → Bool} (sorts : Sorts below root) (low_nonneg : 0 ≤ low)
    (low_le : low ≤ root) (high_nonneg : 0 ≤ high)
    (found : expand below budget low high = some bracket) : bracket.Encloses root := by
  induction budget generalizing low high with
  | zero =>
    unfold expand at found
    split at found
    next => cases found
    next above =>
      cases found
      exact ⟨low_nonneg, low_le, sorts.root_le high high_nonneg (Bool.eq_false_iff.mpr above)⟩
  | succ budget ih =>
    unfold expand at found
    split at found
    next under =>
      exact ih high_nonneg (sorts.le_root high high_nonneg under) (by linarith) found
    next above =>
      cases found
      exact ⟨low_nonneg, low_le, sorts.root_le high high_nonneg (Bool.eq_false_iff.mpr above)⟩

/-- Halving keeps the root in the bracket and ends with a narrow one, if it ends. -/
theorem Sorts.encloses_narrow {below : ℝ → Bool} (sorts : Sorts below root)
    (encloses : (Bracket.mk low high budget).Encloses root)
    (found : narrow below tolerance budget low high = some bracket) :
    bracket.Encloses root ∧ bracket.high - bracket.low ≤ tolerance * bracket.high := by
  induction budget generalizing low high with
  | zero =>
    unfold narrow at found
    split at found
    next => cases found
    next tight =>
      cases found
      exact ⟨encloses, not_lt.mp tight⟩
  | succ budget ih =>
    obtain ⟨low_nonneg, low_le, le_high⟩ := encloses
    unfold narrow at found
    split at found
    next =>
      have middle_nonneg : 0 ≤ 0.5 * (low + high) := by linarith
      dsimp only at found
      split at found
      next under => exact ih ⟨middle_nonneg, sorts.le_root _ middle_nonneg under, le_high⟩ found
      next above =>
        have above := sorts.root_le _ middle_nonneg (Bool.eq_false_iff.mpr above)
        exact ih ⟨low_nonneg, low_le, above⟩ found
    next tight =>
      cases found
      exact ⟨⟨low_nonneg, low_le, le_high⟩, not_lt.mp tight⟩

/-- Doubling ends within the steps that carry the upper end past the root, and leaves the rest of
the budget. -/
theorem Sorts.exists_expand {below : ℝ → Bool} (sorts : Sorts below root) (low_nonneg : 0 ≤ low)
    (high_nonneg : 0 ≤ high) {steps : Nat} (reaches : root < high * 2 ^ steps) (spare : Nat) :
    ∃ bracket, expand below (steps + spare) low high = some bracket ∧ spare ≤ bracket.budget ∧
      0 ≤ bracket.low ∧ bracket.high ≤ max high (2 * root) := by
  induction steps generalizing low high with
  | zero =>
    have above : ¬ below high = true := fun under => by
      have := sorts.le_root high high_nonneg under
      linarith
    unfold expand
    rw [if_neg above]
    exact ⟨_, rfl, (Nat.zero_add spare).ge, low_nonneg, le_max_left ..⟩
  | succ steps ih =>
    rw [Nat.succ_add]
    unfold expand
    split
    next under =>
      have high_le := sorts.le_root high high_nonneg under
      have doubled : root < high * 2.0 * 2 ^ steps := by
        rw [pow_succ] at reaches
        linarith
      obtain ⟨bracket, found, kept, bracket_nonneg, bracket_le⟩ :=
        ih high_nonneg (by linarith) doubled
      refine ⟨bracket, found, kept, bracket_nonneg, bracket_le.trans (max_le ?_ (le_max_right ..))⟩
      exact le_max_of_le_right (by linarith)
    next =>
      exact ⟨_, rfl, Nat.le_succ_of_le (Nat.le_add_left ..), low_nonneg, le_max_left ..⟩

/-- Halving ends within the steps that make the interval as narrow as asked at the root. -/
theorem Sorts.exists_narrow {below : ℝ → Bool} (sorts : Sorts below root)
    (tolerance_nonneg : 0 ≤ tolerance) (encloses : (Bracket.mk low high budget).Encloses root)
    {steps : Nat} (enough : high - low ≤ tolerance * root * 2 ^ steps) (affordable : steps ≤ budget) :
    ∃ bracket, narrow below tolerance budget low high = some bracket := by
  induction steps generalizing low high budget with
  | zero =>
    have tight : high - low ≤ tolerance * high := by
      have := mul_le_mul_of_nonneg_left encloses.le_high tolerance_nonneg
      linarith
    unfold narrow
    rw [if_neg tight.not_gt]
    exact ⟨_, rfl⟩
  | succ steps ih =>
    obtain ⟨low_nonneg, low_le, le_high⟩ := encloses
    dsimp only at low_nonneg low_le le_high
    obtain ⟨budget, rfl⟩ := Nat.exists_eq_succ_of_ne_zero (by omega : budget ≠ 0)
    have middle_nonneg : 0 ≤ 0.5 * (low + high) := by linarith
    rw [pow_succ] at enough
    unfold narrow
    split
    next =>
      dsimp only
      split
      next under =>
        have low_le := sorts.le_root _ middle_nonneg under
        exact ih ⟨middle_nonneg, low_le, le_high⟩ (by linarith) (by omega)
      next above =>
        have le_high := sorts.root_le _ middle_nonneg (Bool.eq_false_iff.mpr above)
        exact ih ⟨low_nonneg, low_le, le_high⟩ (by linarith) (by omega)
    next => exact ⟨_, rfl⟩

theorem Encloses.middle_nonneg (encloses : bracket.Encloses root) : 0 ≤ bracket.middle := by
  obtain ⟨low_nonneg, low_le, le_high⟩ := encloses
  unfold middle
  linarith

/-- The middle of a narrow bracket is as close to the root as asked, relative to itself. -/
theorem Encloses.abs_middle_sub_le (encloses : bracket.Encloses root)
    (tolerance_nonneg : 0 ≤ tolerance)
    (narrow : bracket.high - bracket.low ≤ tolerance * bracket.high) :
    |bracket.middle - root| ≤ tolerance * bracket.middle := by
  obtain ⟨low_nonneg, low_le, le_high⟩ := encloses
  have lower_part := mul_nonneg tolerance_nonneg low_nonneg
  unfold middle
  rw [abs_le]
  constructor <;> linarith

end Bracket

end BlockHydro
