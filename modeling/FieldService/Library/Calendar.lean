/-
This file is about the units time is divided into, such as days, weeks and months.

The units of a division are numbered and follow each other without a gap, so that every instant is
in one of them, and is truncated to the beginning of that one. The units of a division can be
divided once more: instants into days, and days into months.
-/

import FieldService.Library.Dates
import Mathlib.Algebra.Order.Ring.Int
import Mathlib.Order.Monotone.Basic

namespace FieldService.Dates

/-- When each unit begins, and the unit an instant is in. -/
structure Division where
  begins : ℤ → ℤ
  unitOf : ℤ → ℤ
  follows : ∀ unit, begins unit < begins (unit + 1)
  inside : ∀ instant, begins (unitOf instant) ≤ instant ∧ instant < begins (unitOf instant + 1)

namespace Division

variable (division : Division)

theorem begins_lt_iff {first second : ℤ} :
    division.begins first < division.begins second ↔ first < second :=
  (strictMono_int_of_lt_succ division.follows).lt_iff_lt

theorem begins_le_iff {first second : ℤ} :
    division.begins first ≤ division.begins second ↔ first ≤ second :=
  (strictMono_int_of_lt_succ division.follows).le_iff_le

theorem begins_injective : Function.Injective division.begins :=
  (strictMono_int_of_lt_succ division.follows).injective

/-- The beginning of the unit an instant is in. -/
def truncate (instant : ℤ) : ℤ :=
  division.begins (division.unitOf instant)

theorem unitOf_eq_iff (instant unit : ℤ) :
    division.unitOf instant = unit ↔
      division.begins unit ≤ instant ∧ instant < division.begins (unit + 1) := by
  obtain ⟨began, ends⟩ := division.inside instant
  constructor
  · rintro rfl
    exact ⟨began, ends⟩
  · rintro ⟨unitBegan, unitEnds⟩
    have upper := division.begins_lt_iff.mp (began.trans_lt unitEnds)
    have lower := division.begins_lt_iff.mp (unitBegan.trans_lt ends)
    omega

/-- An instant is truncated to the beginning of a unit exactly if it is in that unit. -/
theorem truncate_eq_begins_iff (instant unit : ℤ) :
    division.truncate instant = division.begins unit ↔
      division.begins unit ≤ instant ∧ instant < division.begins (unit + 1) := by
  rw [← unitOf_eq_iff, truncate, division.begins_injective.eq_iff]

/-- Units of equal length, the one numbered 0 beginning at an offset before 0. -/
def regular (length offset : ℤ) (positive : 0 < length) : Division where
  begins unit := unit * length - offset
  unitOf instant := (instant + offset) / length
  follows unit := by
    rw [add_mul, one_mul]
    omega
  inside instant := by
    have lower := Int.ediv_mul_le (instant + offset) positive.ne'
    have upper := Int.lt_ediv_add_one_mul_self (instant + offset) positive
    omega

/-- Units made of the units of another division. -/
def grouped (groups : Division) : Division where
  begins unit := division.begins (groups.begins unit)
  unitOf instant := groups.unitOf (division.unitOf instant)
  follows unit := division.begins_lt_iff.mpr (groups.follows unit)
  inside instant := by
    obtain ⟨began, ends⟩ := division.inside instant
    obtain ⟨groupBegan, groupEnds⟩ := groups.inside (division.unitOf instant)
    exact ⟨(division.begins_le_iff.mpr groupBegan).trans began,
      ends.trans_le (division.begins_le_iff.mpr groupEnds)⟩

end Division

/-! ### Days, weeks and months -/

/-- The weeks of the days begin on Mondays. -/
def weeks : Division :=
  .regular 7 3 (by decide)

/-- The first day of a month, the months being counted from the year 0. -/
def firstOfMonth (month : ℤ) : ℤ :=
  dayOf ⟨month / 12, (month % 12).toNat + 1, 1⟩

theorem firstOfMonth_lt (month : ℤ) : firstOfMonth month < firstOfMonth (month + 1) := by
  simp only [firstOfMonth, dayOf, daysBefore]
  split <;> split <;> omega

def monthOf (day : ℤ) : ℤ :=
  12 * (dateOf day).year + (dateOf day).month - 1

/-- The last year of four has a leap day, but in a hundred that no four-hundred ends with. -/
theorem daysBefore_succ_parts {era century leap year : ℤ} (centuries : 0 ≤ century ∧ century ≤ 3)
    (leaps : 0 ≤ leap ∧ leap ≤ 24) (years : 0 ≤ year ∧ year ≤ 3) :
    daysBefore (400 * era + 100 * century + 4 * leap + year + 1) =
      daysBefore (400 * era + 100 * century + 4 * leap + year) + 365 +
        if year = 3 ∧ (leap = 24 → century = 3) then 1 else 0 := by
  simp only [daysBefore]
  split <;> omega

/-- A day comes before the next year. -/
theorem marchYear_lt (day : ℤ) : day < daysBefore ((marchYear day).1 + 1) := by
  have found := daysBefore_marchYear day
  simp only [marchYear] at found ⊢
  rw [daysBefore_succ_parts (by omega) (by omega) (by omega)]
  split <;> omega

/-- The first days of the months of a year that begins in March. -/
theorem firstOfMonth_march (year : ℤ) {month : ℤ} (inYear : 0 ≤ month ∧ month ≤ 11) :
    firstOfMonth (12 * year + 2 + month) = daysBefore year + (153 * month + 2) / 5 := by
  rw [firstOfMonth, dayOf]
  by_cases early : month < 10
  · rw [show (12 * year + 2 + month) / 12 = year by omega,
      if_neg (show ¬((12 * year + 2 + month) % 12).toNat + 1 < 3 by omega)]
    dsimp only
    omega
  · rw [show (12 * year + 2 + month) / 12 = year + 1 by omega,
      if_pos (show ((12 * year + 2 + month) % 12).toNat + 1 < 3 by omega), add_sub_cancel_right]
    dsimp only
    omega

theorem monthOf_eq (day : ℤ) :
    monthOf day = 12 * (marchYear day).1 + 2 + (5 * (marchYear day).2 + 2) / 153 := by
  have bounds := marchYear_bounds day
  simp only [monthOf, dateOf]
  split
  · dsimp only
    omega
  · dsimp only
    omega

theorem monthOf_inside (day : ℤ) :
    firstOfMonth (monthOf day) ≤ day ∧ day < firstOfMonth (monthOf day + 1) := by
  have bounds := marchYear_bounds day
  have found := daysBefore_marchYear day
  have ends := marchYear_lt day
  rw [monthOf_eq, firstOfMonth_march _ (by omega)]
  refine ⟨by omega, ?_⟩
  by_cases last : (5 * (marchYear day).2 + 2) / 153 = 11
  · have next : 12 * (marchYear day).1 + 2 + (5 * (marchYear day).2 + 2) / 153 + 1 =
        12 * ((marchYear day).1 + 1) + 2 + 0 := by omega
    rw [next, firstOfMonth_march _ (by decide)]
    omega
  · rw [add_assoc, firstOfMonth_march _ (by omega)]
    omega

/-- The months of the days. -/
def months : Division where
  begins := firstOfMonth
  unitOf := monthOf
  follows := firstOfMonth_lt
  inside := monthOf_inside

example : months.truncate (dayOf ⟨2020, 2, 29⟩) = dayOf ⟨2020, 2, 1⟩ := by decide

end FieldService.Dates
