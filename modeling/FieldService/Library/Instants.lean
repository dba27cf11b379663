/-
This file is about the texts of instants: a date and a time of day in Universal Time, to the
millisecond.

Years of more than four digits, and those before the year zero, have six digits and a sign. Reading
takes the numbers from their places and asks whether there is such a date and such a time of day.
An instant is read again from its text (`readIso_isoText`), which has no character outside the
first 128 (`toNat_lt_of_mem_isoText`).
-/

import FieldService.Library.Dates

namespace FieldService.Dates

/-! ### Writing -/

/-- The year, with a sign and six digits where four do not do. -/
def isoYear (year : ℤ) : List Char :=
  if 0 ≤ year ∧ year ≤ 9999 then zeroFill 4 year.natAbs
  else (if year < 0 then '-' else '+') :: zeroFill 6 year.natAbs

/-- A number of so many digits, after a character. -/
def field (character : Char) (width number : ℕ) : List Char :=
  character :: zeroFill width number

/-- `YYYY-MM-DDTHH:mm:ss.sssZ`, of milliseconds since 1970. -/
def isoText (instant : ℤ) : List Char :=
  let date := dateOf (instant / 86400000)
  let time := (instant % 86400000).toNat
  isoYear date.year ++ (field '-' 2 date.month ++ (field '-' 2 date.dayOfMonth ++
    (field 'T' 2 (time / 3600000) ++ (field ':' 2 (time / 60000 % 60) ++
      (field ':' 2 (time / 1000 % 60) ++ (field '.' 3 (time % 1000) ++ ['Z']))))))

/-! ### Reading -/

/-- A number of so many digits, and what follows it. -/
def readNumber (width : ℕ) (text : List Char) : Option (ℕ × List Char) :=
  if width ≤ text.length ∧ (text.take width).all (·.isDigit) then
    some (Nat.ofDigitChars 10 (text.take width) 0, text.drop width)
  else none

/-- A number after a character, and what follows it. -/
def readField (character : Char) (width : ℕ) : List Char → Option (ℕ × List Char)
  | first :: rest => if first = character then readNumber width rest else none
  | [] => none

def readYear : List Char → Option (ℤ × List Char)
  | '-' :: rest => (readNumber 6 rest).map fun (year, rest) => (-(year : ℤ), rest)
  | '+' :: rest => (readNumber 6 rest).map fun (year, rest) => ((year : ℤ), rest)
  | text => (readNumber 4 text).map fun (year, rest) => ((year : ℤ), rest)

/-- The instant of a text, if it is the text of one. Midnight is the first hour of a day, or the
twenty-fourth of the day before. -/
def readIso (text : List Char) : Option ℤ := do
  let (year, text) ← readYear text
  let (month, text) ← readField '-' 2 text
  let (dayOfMonth, text) ← readField '-' 2 text
  let (hours, text) ← readField 'T' 2 text
  let (minutes, text) ← readField ':' 2 text
  let (seconds, text) ← readField ':' 2 text
  let (milliseconds, text) ← readField '.' 3 text
  let time := hours * 3600000 + minutes * 60000 + seconds * 1000 + milliseconds
  let day := dayOf ⟨year, month, dayOfMonth⟩
  if dateOf day = ⟨year, month, dayOfMonth⟩ ∧ minutes < 60 ∧ seconds < 60 ∧ time ≤ 86400000 ∧
      text = ['Z'] then
    some (day * 86400000 + time)
  else none

/-! ### The round trip -/

theorem ofDigitChars_zeroFill (width number : ℕ) :
    Nat.ofDigitChars 10 (zeroFill width number) 0 = number := by
  rw [zeroFill, Nat.ofDigitChars_append, Nat.ofDigitChars_replicate_zero, Nat.mul_zero,
    Nat.ofDigitChars_ten_toDigits]

theorem readNumber_zeroFill {width number : ℕ} (fits : (Nat.toDigits 10 number).length ≤ width)
    (rest : List Char) : readNumber width (zeroFill width number ++ rest) = some (number, rest) := by
  have length := length_zeroFill fits
  have taken : (zeroFill width number ++ rest).take width = zeroFill width number :=
    List.take_left' length
  rw [readNumber, taken, List.drop_left' length, if_pos, ofDigitChars_zeroFill]
  refine ⟨by simp [length], List.all_eq_true.mpr fun character member => ?_⟩
  exact isDigit_of_mem_zeroFill member

theorem readField_field {character : Char} {width number : ℕ}
    (fits : (Nat.toDigits 10 number).length ≤ width) (rest : List Char) :
    readField character width (field character width number ++ rest) = some (number, rest) := by
  rw [field, List.cons_append, readField, if_pos rfl, readNumber_zeroFill fits]

/-- A text that begins with a digit has a year of four digits. -/
theorem readYear_of_isDigit {first : Char} {rest : List Char} (digit : first.isDigit = true) :
    readYear (first :: rest) =
      (readNumber 4 (first :: rest)).map fun (year, rest) => ((year : ℤ), rest) := by
  rw [readYear.eq_def]
  split
  · rename_i same
    cases same
    cases digit
  · rename_i same
    cases same
    cases digit
  · rfl

theorem readYear_isoYear {year : ℤ} (few : year.natAbs < 1000000) (rest : List Char) :
    readYear (isoYear year ++ rest) = some (year, rest) := by
  rw [isoYear]
  split
  · rename_i short
    have small : year.natAbs < 10 ^ 4 := by omega
    have fits := (Nat.length_toDigits_le_iff (by decide) (by decide)).mpr small
    have read := readNumber_zeroFill fits rest
    obtain ⟨first, others, found⟩ : ∃ first others, zeroFill 4 year.natAbs = first :: others := by
      refine List.exists_cons_of_ne_nil fun empty => ?_
      have length := length_zeroFill fits
      rw [empty] at length
      cases length
    have digit : first.isDigit = true :=
      isDigit_of_mem_zeroFill (show first ∈ zeroFill 4 year.natAbs by simp [found])
    rw [found, List.cons_append] at read ⊢
    rw [readYear_of_isDigit digit, read, Option.map_some]
    simp only [Option.some.injEq, Prod.mk.injEq, and_true]
    omega
  · have small : year.natAbs < 10 ^ 6 := by omega
    have fits := (Nat.length_toDigits_le_iff (by decide) (by decide)).mpr small
    have read := readNumber_zeroFill fits rest
    split
    · rw [List.cons_append, readYear, read, Option.map_some]
      simp only [Option.some.injEq, Prod.mk.injEq, and_true]
      omega
    · rw [List.cons_append, readYear, read, Option.map_some]
      simp only [Option.some.injEq, Prod.mk.injEq, and_true]
      omega

/-- An instant is read from its text, as long as six digits do for its year. -/
theorem readIso_isoText {instant : ℤ}
    (few : (dateOf (instant / 86400000)).year.natAbs < 1000000) :
    readIso (isoText instant) = some instant := by
  have bounds := dateOf_lt (instant / 86400000)
  have found := dayOf_dateOf (instant / 86400000)
  have two {character : Char} {number : ℕ} (small : number < 100) (rest : List Char) :
      readField character 2 (field character 2 number ++ rest) = some (number, rest) :=
    readField_field ((Nat.length_toDigits_le_iff (by decide) (by decide)).mpr small) rest
  have three {character : Char} {number : ℕ} (small : number < 1000) (rest : List Char) :
      readField character 3 (field character 3 number ++ rest) = some (number, rest) :=
    readField_field ((Nat.length_toDigits_le_iff (by decide) (by decide)).mpr small) rest
  rw [readIso, isoText]
  have early : (instant % 86400000).toNat < 86400000 := by omega
  have parts : instant / 86400000 * 86400000 + ((instant % 86400000).toNat : ℤ) = instant := by
    omega
  generalize (instant % 86400000).toNat = time at early parts ⊢
  have again : dateOf (dayOf (dateOf (instant / 86400000))) = dateOf (instant / 86400000) :=
    congrArg dateOf found
  generalize dateOf (instant / 86400000) = date at few bounds found again ⊢
  have whole : time / 3600000 * 3600000 + time / 60000 % 60 * 60000 + time / 1000 % 60 * 1000 +
      time % 1000 = time := by omega
  simp only [readYear_isoYear few, Option.bind_eq_bind, Option.bind_some,
    two (show date.month < 100 by omega),
    two (show date.dayOfMonth < 100 by omega), two (show time / 3600000 < 100 by omega),
    two (show time / 60000 % 60 < 100 by omega), two (show time / 1000 % 60 < 100 by omega),
    three (show time % 1000 < 1000 by omega)]
  rw [whole, if_pos ⟨again, Nat.mod_lt _ (by decide), Nat.mod_lt _ (by decide), early.le, trivial⟩]
  exact congrArg some ((congrArg (· * 86400000 + (time : ℤ)) found).trans parts)

/-! ### Instants in range -/

/-- An instant within a hundred million days of 1970. -/
structure Instant where
  milliseconds : ℤ
  inRange : milliseconds.natAbs ≤ 8640000000000000
  deriving DecidableEq, Repr

/-- There are at least 365 days in a year. -/
theorem year_dateOf_le {day : ℤ} (near : day.natAbs ≤ 100000000) :
    (dateOf day).year.natAbs < 1000000 := by
  have bounds := dateOf_lt day
  have found := dayOf_dateOf day
  generalize dateOf day = date at bounds found ⊢
  simp only [dayOf, daysBefore] at found
  split at found <;> omega

theorem readIso_isoText_instant (instant : Instant) :
    readIso (isoText instant.milliseconds) = some instant.milliseconds := by
  have inRange := instant.inRange
  exact readIso_isoText (year_dateOf_le (by omega))

/-! ### The characters -/

theorem toNat_lt_of_mem_zeroFill {width number : ℕ} {character : Char}
    (member : character ∈ zeroFill width number) : character.toNat < 128 := by
  have digit := isDigit_of_mem_zeroFill member
  simp only [Char.isDigit, Bool.and_eq_true, decide_eq_true_eq] at digit
  have le : character.toNat ≤ '9'.toNat := digit.2
  exact Nat.lt_of_le_of_lt le (by decide)

theorem toNat_lt_of_mem_isoYear {year : ℤ} {character : Char}
    (member : character ∈ isoYear year) : character.toNat < 128 := by
  rw [isoYear] at member
  split at member
  · exact toNat_lt_of_mem_zeroFill member
  · obtain rfl | digits := List.mem_cons.mp member
    · split <;> decide
    · exact toNat_lt_of_mem_zeroFill digits

theorem toNat_lt_of_mem_isoText (instant : ℤ) :
    ∀ character ∈ isoText instant, character.toNat < 128 := by
  have fields (character : Char) (small : character.toNat < 128) (width number : ℕ) :
      ∀ other ∈ field character width number, other.toNat < 128 :=
    List.forall_mem_cons.mpr ⟨small, fun _ => toNat_lt_of_mem_zeroFill⟩
  simp only [isoText, List.forall_mem_append, List.forall_mem_singleton]
  exact ⟨fun _ => toNat_lt_of_mem_isoYear, fields _ (by decide) _ _, fields _ (by decide) _ _,
    fields _ (by decide) _ _, fields _ (by decide) _ _, fields _ (by decide) _ _,
    fields _ (by decide) _ _, by decide⟩

end FieldService.Dates
