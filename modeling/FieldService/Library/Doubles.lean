/-
This file is about numbers as they are calculated with in doubles, of 53 binary digits.

A double is a rational number, and the result of an operation is the double nearest to the exact
result. Numbers in order are rounded to doubles in order. What a sum in doubles differs by from the
exact sum is what has been rounded in the additions.
-/

import Mathlib.Algebra.BigOperators.Group.List.Basic
import Mathlib.Data.Int.Log
import Mathlib.Data.Rat.Floor
import Mathlib.Tactic.Ring

namespace FieldService.Doubles

/-! ### The nearest double -/

/-- The distance between doubles of the size of the value. -/
def doubleSpacing (value : Rat) : Rat :=
  2 ^ (max (Int.log 2 |value|) (-1022) - 52)

/-- The nearest integer, the even one of two. -/
def roundHalfEven (value : Rat) : Int :=
  let below := value.floor
  if value - below < 1 / 2 ∨ (value - below = 1 / 2 ∧ below % 2 = 0) then below else below + 1

/-- The nearest double, with no bound on its size. -/
def nearestDouble (value : Rat) : Rat :=
  roundHalfEven (value / doubleSpacing value) * doubleSpacing value

/-! ### Rounding keeps the order -/

theorem roundHalfEven_intCast (whole : Int) : roundHalfEven whole = whole := by
  have exactly : Rat.floor whole = whole := Rat.floor_intCast whole
  simp [roundHalfEven, exactly]

theorem floor_le_roundHalfEven (value : Rat) : value.floor ≤ roundHalfEven value := by
  unfold roundHalfEven
  simp only
  split
  · exact le_rfl
  · exact (lt_add_one _).le

theorem roundHalfEven_le_floor_add_one (value : Rat) :
    roundHalfEven value ≤ value.floor + 1 := by
  unfold roundHalfEven
  simp only
  split
  · exact (lt_add_one _).le
  · exact le_rfl

/-- Rounding keeps the order. -/
theorem roundHalfEven_mono {first second : Rat} (less : first ≤ second) :
    roundHalfEven first ≤ roundHalfEven second := by
  obtain below | same := (Rat.floor_monotone less).lt_or_eq
  · exact (roundHalfEven_le_floor_add_one first).trans
      ((Int.add_one_le_of_lt below).trans (floor_le_roundHalfEven second))
  · unfold roundHalfEven
    simp only
    rw [same]
    split
    · split
      · exact le_rfl
      · exact (lt_add_one _).le
    · rename_i up
      rw [if_neg]
      rintro (small | ⟨half, even⟩)
      · exact up (Or.inl (lt_of_le_of_lt (sub_le_sub_right less _) small))
      · obtain small | alike := (sub_le_sub_right less (second.floor : Rat)).lt_or_eq
        · exact up (Or.inl (small.trans_eq half))
        · exact up (Or.inr ⟨alike.trans half, even⟩)

theorem doubleSpacing_pos (value : Rat) : 0 < doubleSpacing value :=
  zpow_pos two_pos _

/-- The spacing of doubles from one power of two to the next. -/
theorem doubleSpacing_natCast (number : ℕ) :
    doubleSpacing number = 2 ^ ((Nat.log 2 number : Int) - 52) := by
  have exponent : Int.log 2 |(number : Rat)| = Nat.log 2 number := by
    rw [abs_of_nonneg (Nat.cast_nonneg number)]
    exact Int.log_natCast 2 number
  rw [doubleSpacing, exponent, max_eq_left]
  omega

/-- Both powers of two are whole numbers of spacings. -/
theorem pow_eq_mul_doubleSpacing (number next : ℕ) :
    (2 : Rat) ^ (Nat.log 2 number + next) = (2 ^ (52 + next) : Int) * doubleSpacing number := by
  rw [doubleSpacing_natCast, Int.cast_pow, Int.cast_ofNat, ← zpow_natCast, ← zpow_natCast,
    ← zpow_add₀ two_ne_zero]
  congr 1
  push_cast
  ring

/-- A number below a power of two is not rounded beyond it. -/
theorem nearestDouble_le (number : ℕ) : nearestDouble number ≤ 2 ^ (Nat.log 2 number + 1) := by
  have spacing := doubleSpacing_pos number
  have within : (number : Rat) / doubleSpacing number ≤ (2 ^ (52 + 1) : Int) := by
    rw [div_le_iff₀ spacing, ← pow_eq_mul_doubleSpacing]
    exact_mod_cast (Nat.lt_pow_succ_log_self one_lt_two number).le
  have rounded := (roundHalfEven_mono within).trans_eq (roundHalfEven_intCast _)
  rw [nearestDouble, pow_eq_mul_doubleSpacing]
  exact mul_le_mul_of_nonneg_right (Int.cast_le.mpr rounded) spacing.le

/-- Nor is one from a power of two on rounded below it. -/
theorem le_nearestDouble {number : ℕ} (positive : 0 < number) :
    2 ^ Nat.log 2 number ≤ nearestDouble number := by
  have spacing := doubleSpacing_pos number
  have power := pow_eq_mul_doubleSpacing number 0
  have beyond : ((2 ^ (52 + 0) : Int) : Rat) ≤ number / doubleSpacing number := by
    rw [le_div_iff₀ spacing, ← power]
    exact_mod_cast Nat.pow_log_le_self 2 positive.ne'
  have rounded := (roundHalfEven_intCast _).symm.trans_le (roundHalfEven_mono beyond)
  rw [nearestDouble, ← Nat.add_zero (Nat.log 2 number), power]
  exact mul_le_mul_of_nonneg_right (Int.cast_le.mpr rounded) spacing.le

theorem nearestDouble_zero : nearestDouble 0 = 0 := by
  have rounded := roundHalfEven_intCast 0
  rw [Int.cast_zero] at rounded
  rw [nearestDouble, zero_div, rounded, Int.cast_zero, zero_mul]

/-- The nearest doubles of natural numbers are in their order. -/
theorem nearestDouble_natCast_mono : Monotone fun number : ℕ => nearestDouble number := by
  intro first second less
  simp only
  obtain rfl | positive := Nat.eq_zero_or_pos first
  · rw [Nat.cast_zero, nearestDouble_zero]
    obtain rfl | positive := Nat.eq_zero_or_pos second
    · rw [Nat.cast_zero, nearestDouble_zero]
    · exact (pow_nonneg zero_le_two _).trans (le_nearestDouble positive)
  obtain lower | same := (Nat.log_mono_right less : Nat.log 2 first ≤ _).lt_or_eq
  · calc nearestDouble first ≤ 2 ^ (Nat.log 2 first + 1) := nearestDouble_le first
      _ ≤ 2 ^ Nat.log 2 second := pow_le_pow_right₀ one_le_two lower
      _ ≤ nearestDouble second := le_nearestDouble (positive.trans_le less)
  · have spacing : doubleSpacing first = doubleSpacing second := by
      rw [doubleSpacing_natCast, doubleSpacing_natCast, same]
    rw [nearestDouble, nearestDouble, ← spacing]
    refine mul_le_mul_of_nonneg_right ?_ (doubleSpacing_pos _).le
    have quotients : (first : Rat) / doubleSpacing first ≤ second / doubleSpacing first :=
      div_le_div_of_nonneg_right (Nat.cast_le.mpr less) (doubleSpacing_pos _).le
    exact_mod_cast roundHalfEven_mono quotients

/-! ### Sums -/

/-- The sum of numbers, added up one after another in doubles. -/
def sum (numbers : List Rat) : Rat :=
  numbers.foldl (fun total number => nearestDouble (total + number)) 0

/-- What is rounded in the additions, beginning with a total. -/
def roundings : Rat → List Rat → List Rat
  | _, [] => []
  | total, number :: rest =>
    let next := nearestDouble (total + number)
    (next - (total + number)) :: roundings next rest

/-- A sum in doubles is the exact one and what is rounded on the way. -/
theorem foldl_nearestDouble (total : Rat) (numbers : List Rat) :
    numbers.foldl (fun total number => nearestDouble (total + number)) total =
      total + numbers.sum + (roundings total numbers).sum := by
  induction numbers generalizing total with
  | nil => simp [roundings]
  | cons number rest inductionHypothesis =>
    rw [List.foldl_cons, inductionHypothesis, roundings, List.sum_cons, List.sum_cons]
    ring

theorem sum_eq (numbers : List Rat) :
    sum numbers = numbers.sum + (roundings 0 numbers).sum := by
  rw [sum, foldl_nearestDouble, zero_add]

end FieldService.Doubles
