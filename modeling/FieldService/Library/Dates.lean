/-
This file is about the dates of the calendar: which one a day has, and how it is written.

Days are counted from the first of January 1970. A year that begins in March ends with its leap day,
so that the days before it are the same in all years, and so are the days before each of its
months. Four hundred of these years have as many days as any other four hundred.

Different days have different dates (`dateOf_injective`), and these are written differently
(`text_dateOf_injective`).
-/

import Mathlib.Algebra.Order.Group.Int
import Mathlib.Tactic.Basic

namespace FieldService.Dates

/-! ### The date of a day -/

@[ext]
structure Date where
  year : ℤ
  month : ℕ
  dayOfMonth : ℕ
  deriving DecidableEq, Repr

/-- Where a day is among the years that begin in March: the year, and the days gone by in it. -/
def marchYear (day : ℤ) : ℤ × ℤ :=
  -- The year 0 begins 719468 days before 1970.
  let era := (day + 719468) / 146097
  let dayOfEra := (day + 719468) % 146097
  -- The leap day at the end of the fourth hundred does not begin a fifth.
  let century := min (dayOfEra / 36524) 3
  let dayOfCentury := dayOfEra - 36524 * century
  let leap := dayOfCentury / 1461
  let dayOfLeap := dayOfCentury % 1461
  let year := min (dayOfLeap / 365) 3
  (400 * era + 100 * century + 4 * leap + year, dayOfLeap - 365 * year)

/-- The date of a day. -/
def dateOf (day : ℤ) : Date :=
  let year := (marchYear day).1
  let dayOfYear := (marchYear day).2
  -- From March and from August on, five months have 153 days.
  let month := (5 * dayOfYear + 2) / 153
  let dayOfMonth := (dayOfYear - (153 * month + 2) / 5 + 1).toNat
  if month < 10 then ⟨year, (month + 3).toNat, dayOfMonth⟩
  else ⟨year + 1, (month - 9).toNat, dayOfMonth⟩

/-- The days before a year that begins in March, counted from 1970. -/
def daysBefore (year : ℤ) : ℤ :=
  365 * year + year / 4 - year / 100 + year / 400 - 719468

/-- The day of a date. -/
def dayOf (date : Date) : ℤ :=
  if date.month < 3 then
    daysBefore (date.year - 1) + (153 * (date.month + 9) + 2) / 5 + date.dayOfMonth - 1
  else daysBefore date.year + (153 * (date.month - 3) + 2) / 5 + date.dayOfMonth - 1

theorem marchYear_bounds (day : ℤ) : 0 ≤ (marchYear day).2 ∧ (marchYear day).2 ≤ 365 := by
  simp only [marchYear]
  omega

/-- The years are counted in four-hundreds, hundreds and fours. -/
theorem daysBefore_parts {era century leap year : ℤ} (centuries : 0 ≤ century ∧ century ≤ 3)
    (leaps : 0 ≤ leap ∧ leap ≤ 24) (years : 0 ≤ year ∧ year ≤ 3) :
    daysBefore (400 * era + 100 * century + 4 * leap + year) =
      146097 * era + 36524 * century + 1461 * leap + 365 * year - 719468 := by
  simp only [daysBefore]
  omega

theorem daysBefore_marchYear (day : ℤ) :
    daysBefore (marchYear day).1 + (marchYear day).2 = day := by
  simp only [marchYear]
  rw [daysBefore_parts (by omega) (by omega) (by omega)]
  omega

/-- A day is found again by its date. -/
theorem dayOf_dateOf (day : ℤ) : dayOf (dateOf day) = day := by
  have bounds := marchYear_bounds day
  have found := daysBefore_marchYear day
  simp only [dateOf]
  generalize (marchYear day).1 = year at found ⊢
  generalize (marchYear day).2 = dayOfYear at found bounds ⊢
  split
  · rw [dayOf, if_neg (show ¬((5 * dayOfYear + 2) / 153 + 3).toNat < 3 by omega)]
    simp only
    omega
  · rw [dayOf, if_pos (show ((5 * dayOfYear + 2) / 153 - 9).toNat < 3 by omega),
      add_sub_cancel_right]
    simp only
    omega

/-- Different days have different dates. -/
theorem dateOf_injective : Function.Injective dateOf :=
  Function.LeftInverse.injective dayOf_dateOf

theorem dateOf_lt (day : ℤ) : (dateOf day).month < 13 ∧ (dateOf day).dayOfMonth < 32 := by
  have bounds := marchYear_bounds day
  simp only [dateOf]
  split
  · simp only
    omega
  · simp only
    omega

/-! ### The text of a date -/

/-- The digits of a number, with zeros before them up to the width. -/
def zeroFill (width number : ℕ) : List Char :=
  List.replicate (width - (Nat.toDigits 10 number).length) '0' ++ Nat.toDigits 10 number

/-- The year, with a sign before it when it is negative. -/
def yearText (year : ℤ) : List Char :=
  (if year < 0 then ['-'] else []) ++ zeroFill 4 year.natAbs

/-- `YYYY-MM-DD`. -/
def Date.text (date : Date) : List Char :=
  yearText date.year ++ '-' :: zeroFill 2 date.month ++ '-' :: zeroFill 2 date.dayOfMonth

theorem zeroFill_injective (width : ℕ) : Function.Injective (zeroFill width) := by
  have read (number : ℕ) : Nat.ofDigitChars 10 (zeroFill width number) 0 = number := by
    rw [zeroFill, Nat.ofDigitChars_append, Nat.ofDigitChars_replicate_zero, Nat.mul_zero,
      Nat.ofDigitChars_ten_toDigits]
  exact Function.LeftInverse.injective read

theorem length_zeroFill {width number : ℕ} (fits : (Nat.toDigits 10 number).length ≤ width) :
    (zeroFill width number).length = width := by
  rw [zeroFill, List.length_append, List.length_replicate]
  omega

theorem isDigit_of_mem_zeroFill {width number : ℕ} {character : Char}
    (member : character ∈ zeroFill width number) : character.isDigit = true := by
  obtain zero | digit := List.mem_append.mp member
  · rw [List.eq_of_mem_replicate zero]
    rfl
  · exact Nat.isDigit_of_mem_toDigits (by decide) (by decide) digit

theorem yearText_injective : Function.Injective yearText := by
  have apart (negative positive : ℕ) :
      ['-'] ++ zeroFill 4 negative ≠ [] ++ zeroFill 4 positive := by
    intro same
    have minus : '-' ∈ zeroFill 4 positive := by
      rw [← List.nil_append (zeroFill 4 positive), ← same]
      exact List.mem_cons_self
    exact absurd (isDigit_of_mem_zeroFill minus) (by decide)
  intro first second same
  simp only [yearText] at same
  split at same
  · split at same
    · have size := zeroFill_injective 4 (List.append_cancel_left same)
      omega
    · exact absurd same (apart _ _)
  · split at same
    · exact absurd same.symm (apart _ _)
    · have size := zeroFill_injective 4 same
      omega

/-- A date is written in digits and minus signs. -/
theorem digit_or_minus_of_mem_text {date : Date} {character : Char}
    (member : character ∈ date.text) : character.isDigit = true ∨ character = '-' := by
  simp only [Date.text, yearText, List.mem_append, List.mem_cons] at member
  obtain ((sign | year) | minus | month) | minus | dayOfMonth := member
  · split at sign
    · exact Or.inr (List.mem_singleton.mp sign)
    · cases sign
  · exact Or.inl (isDigit_of_mem_zeroFill year)
  · exact Or.inr minus
  · exact Or.inl (isDigit_of_mem_zeroFill month)
  · exact Or.inr minus
  · exact Or.inl (isDigit_of_mem_zeroFill dayOfMonth)

/-- Different days are written differently. -/
theorem text_dateOf_injective : Function.Injective fun day => (dateOf day).text := by
  have short {number : ℕ} (small : number < 100) : (zeroFill 2 number).length = 2 :=
    length_zeroFill ((Nat.length_toDigits_le_iff (by decide) (by decide)).mpr small)
  have months (day : ℤ) : (zeroFill 2 (dateOf day).month).length = 2 :=
    short ((dateOf_lt day).1.trans (by decide))
  have days (day : ℤ) : (zeroFill 2 (dateOf day).dayOfMonth).length = 2 :=
    short ((dateOf_lt day).2.trans (by decide))
  intro first second same
  simp only [Date.text] at same
  obtain ⟨early, late⟩ := List.append_inj' same (by
    rw [List.length_cons, List.length_cons, days, days])
  obtain ⟨years, middle⟩ := List.append_inj' early (by
    rw [List.length_cons, List.length_cons, months, months])
  refine dateOf_injective (Date.ext (yearText_injective years) ?_ ?_)
  · exact zeroFill_injective 2 (List.cons.inj middle).2
  · exact zeroFill_injective 2 (List.cons.inj late).2

/-- The epoch and the day before it, a leap day, and the day after a February without one. -/
example : [0, -1, 11016, 47541].map dateOf =
    [⟨1970, 1, 1⟩, ⟨1969, 12, 31⟩, ⟨2000, 2, 29⟩, ⟨2100, 3, 1⟩] := by decide

end FieldService.Dates
