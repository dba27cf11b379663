/-
This file is about rounding to whole numbers, half away from zero, as decimal fractions are printed.

The round of a number is the one whole number from which it is less than a half away, or exactly a
half on the side of zero. So a number is rounded to the sum of what some parts are rounded to
exactly if the remainders of the parts, and what the number is more than the parts, add up to
something that rounding would drop again.

Cutting a quotient off at zero is the other way of making it whole. Where a bound is compared with a
quotient that is cut off, the fraction of the quotient is not seen, nor is the sign of a quotient
near zero.
-/

import Mathlib.Algebra.BigOperators.Group.List.Basic
import Mathlib.Algebra.Order.Round
import Mathlib.Tactic.Linarith
import Mathlib.Tactic.Ring

namespace FieldService.Rounding

variable {Number : Type} [Field Number] [LinearOrder Number] [IsStrictOrderedRing Number]
  [FloorRing Number]

/-- The nearest whole number; a half is rounded away from zero. -/
def roundAway (number : Number) : ℤ :=
  if number < 0 then -round (-number) else round number

/-- What can be left of a number of that sign when it is rounded. -/
def IsDropped (number remainder : Number) : Prop :=
  if number < 0 then -(1 / 2) < remainder ∧ remainder ≤ 1 / 2
  else -(1 / 2) ≤ remainder ∧ remainder < 1 / 2

instance (number remainder : Number) : Decidable (IsDropped number remainder) :=
  inferInstanceAs (Decidable (if number < 0 then -(1 / 2) < remainder ∧ remainder ≤ 1 / 2
    else -(1 / 2) ≤ remainder ∧ remainder < 1 / 2))

def remainder (number : Number) : Number :=
  number - roundAway number

theorem roundAway_eq_iff (number : Number) (whole : ℤ) :
    roundAway number = whole ↔ IsDropped number (number - whole) := by
  unfold roundAway IsDropped
  split
  · rw [neg_eq_iff_eq_neg, round_eq_iff, Set.mem_Ico, Int.cast_neg]
    constructor
    · rintro ⟨lower, upper⟩
      exact ⟨by linarith, by linarith⟩
    · rintro ⟨lower, upper⟩
      exact ⟨by linarith, by linarith⟩
  · rw [round_eq_iff, Set.mem_Ico]
    constructor
    · rintro ⟨lower, upper⟩
      exact ⟨by linarith, by linarith⟩
    · rintro ⟨lower, upper⟩
      exact ⟨by linarith, by linarith⟩

/-- A whole number stays as it is. -/
theorem roundAway_intCast (whole : ℤ) : roundAway (whole : Number) = whole := by
  rw [roundAway_eq_iff, IsDropped, sub_self]
  norm_num

theorem roundAway_neg (number : Number) : roundAway (-number) = -roundAway number := by
  unfold roundAway
  obtain negative | rfl | positive := lt_trichotomy number 0
  · rw [if_neg (by linarith), if_pos negative, neg_neg]
  · simp
  · rw [if_pos (by linarith), if_neg (by linarith), neg_neg]

theorem roundAway_nonneg {number : Number} (nonneg : 0 ≤ number) : 0 ≤ roundAway number := by
  rw [roundAway, if_neg (not_lt.mpr nonneg), round_eq]
  exact Int.floor_nonneg.mpr (by linarith)

omit [IsStrictOrderedRing Number] in
/-- The remainders of the parts are what the sum is more than its rounded parts. -/
theorem sum_remainder (numbers : List Number) :
    (numbers.map remainder).sum =
      numbers.sum - ((numbers.map roundAway).sum : ℤ) := by
  induction numbers with
  | nil => simp
  | cons number rest inductionHypothesis =>
    rw [List.map_cons, List.map_cons, List.sum_cons, List.sum_cons, List.sum_cons,
      inductionHypothesis, remainder, Int.cast_add]
    ring

/-- A number is rounded to the sum of rounded parts exactly if the remainders of these, and what the
number is more than the parts, add up to something that is dropped. -/
theorem roundAway_eq_sum_iff (number : Number) (parts : List Number) :
    roundAway number = (parts.map roundAway).sum ↔
      IsDropped number ((parts.map remainder).sum + (number - parts.sum)) := by
  have left : (parts.map remainder).sum + (number - parts.sum) =
      number - ((parts.map roundAway).sum : ℤ) := by
    rw [sum_remainder]
    ring
  rw [roundAway_eq_iff, left]

/-! ### Quotients that are cut off -/

theorem tdiv_le_iff {whole unit bound : ℤ} (positive : 0 < unit) (nonneg : 0 ≤ bound) :
    whole.tdiv unit ≤ bound ↔ whole < (bound + 1) * unit := by
  obtain negative | natural := lt_or_ge whole 0
  · refine iff_of_true ?_ (negative.trans_le (by positivity))
    have below := Int.tdiv_nonneg (neg_nonneg.mpr negative.le) positive.le
    rw [Int.neg_tdiv] at below
    omega
  · rw [Int.tdiv_eq_ediv_of_nonneg natural, ← Int.lt_add_one_iff, Int.ediv_lt_iff_lt_mul positive]

theorem le_tdiv_iff {whole unit bound : ℤ} (positive : 0 < unit) (nonneg : 0 ≤ bound) :
    bound ≤ whole.tdiv unit ↔ if bound = 0 then -unit < whole else bound * unit ≤ whole := by
  obtain negative | natural := lt_or_ge whole 0
  · have opposite : whole.tdiv unit = -((-whole) / unit) := by
      rw [← Int.tdiv_eq_ediv_of_nonneg (by omega), Int.neg_tdiv, neg_neg]
    have size : 0 ≤ (-whole) / unit := Int.ediv_nonneg (by omega) positive.le
    rw [opposite]
    split
    · have small : (-whole) / unit < 1 ↔ -whole < 1 * unit := Int.ediv_lt_iff_lt_mul positive
      omega
    · have product : 0 ≤ bound * unit := by positivity
      omega
  · rw [Int.tdiv_eq_ediv_of_nonneg natural, Int.le_ediv_iff_mul_le positive]
    split
    · rename_i none
      subst none
      omega
    · rfl

/-- A quotient that is cut off keeps a bound exactly if the quotient is below the next whole
number. -/
theorem cast_tdiv_le_iff {whole unit : ℤ} {bound : Number} (positive : 0 < unit)
    (nonneg : 0 ≤ bound) :
    ((whole.tdiv unit : ℤ) : Number) ≤ bound ↔ (whole : Number) / unit < ⌊bound⌋ + 1 := by
  have unitPositive : (0 : Number) < unit := Int.cast_pos.mpr positive
  have cast : whole < (⌊bound⌋ + 1) * unit ↔ (whole : Number) < ((⌊bound⌋ + 1) * unit : ℤ) :=
    Int.cast_lt.symm
  rw [← Int.le_floor, tdiv_le_iff positive (Int.floor_nonneg.mpr nonneg), div_lt_iff₀ unitPositive,
    cast, Int.cast_mul, Int.cast_add, Int.cast_one]

/-- A quotient that is cut off reaches a bound exactly if the quotient reaches the next whole
number, or the bound is zero and the quotient is less than one below it. -/
theorem le_cast_tdiv_iff {whole unit : ℤ} {bound : Number} (positive : 0 < unit)
    (nonneg : 0 ≤ bound) :
    bound ≤ ((whole.tdiv unit : ℤ) : Number) ↔
      if bound = 0 then -1 < (whole : Number) / unit else (⌈bound⌉ : Number) ≤ whole / unit := by
  have unitPositive : (0 : Number) < unit := Int.cast_pos.mpr positive
  rw [← Int.ceil_le, le_tdiv_iff positive (Int.ceil_nonneg nonneg)]
  have none : ⌈bound⌉ = 0 ↔ bound = 0 := by
    constructor
    · intro none
      exact le_antisymm ((Int.ceil_le.mp none.le).trans_eq Int.cast_zero) nonneg
    · rintro rfl
      exact Int.ceil_zero
  by_cases zero : bound = 0
  · rw [if_pos (none.mpr zero), if_pos zero, lt_div_iff₀ unitPositive, neg_one_mul,
      ← Int.cast_neg, Int.cast_lt]
  · rw [if_neg (none.not.mpr zero), if_neg zero, le_div_iff₀ unitPositive, ← Int.cast_mul,
      Int.cast_le]

end FieldService.Rounding
