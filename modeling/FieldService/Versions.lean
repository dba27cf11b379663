/-
This file settles which versions of an app the version gate takes for outdated.

Both versions are split into their categories, and these are compared as numbers, for as many as the
minimum has. A category that the actual version does not have is not a number, which is neither less
than anything nor equal to it: so the comparison stops there, and a version that is too short
passes. And numbers are doubles, so that large ones can look the same.
-/

import Mathlib.Data.List.TakeWhile
import FieldService.Auth.Texts
import FieldService.Library.Delimited
import FieldService.Library.Lexicographic

namespace FieldService

open Auth Delimited Doubles Lexicographic

/-! ### The comparison -/

/-- The double a number is rounded to. From `2 ** 1024` on it is infinite. -/
def toDouble (value : Rat) : WithBot (WithTop Rat) :=
  if 2 ^ 1024 ≤ nearestDouble value then ⊤
  else if nearestDouble value ≤ -2 ^ 1024 then ⊥
  else ((nearestDouble value : WithTop Rat) : WithBot (WithTop Rat))

/-- `Number(text)`, if it is a number. -/
def number (text : String) : Option (WithBot (WithTop Rat)) :=
  match numberOf text with
  | some value => some (toDouble value)
  | none =>
    if Orders.trim text = "Infinity" ∨ Orders.trim text = "+Infinity" then some ⊤
    else if Orders.trim text = "-Infinity" then some ⊥
    else none

/-- The loop over the categories. One that is undefined is not a number. -/
def isOutdatedFrom : List (List Char) → List (List Char) → Bool
  | [], _ => false
  | minimumCategory :: minimumRest, actualRest =>
    let minimumVersionCategoryNum := number (String.ofList minimumCategory)
    let actualVersionCategoryNum := actualRest.head?.bind fun category =>
      number (String.ofList category)
    match minimumVersionCategoryNum, actualVersionCategoryNum with
    | some minimum, some actual =>
      if actual < minimum then true
      else if minimum = actual then isOutdatedFrom minimumRest actualRest.tail
      else false
    | _, _ => false

def isOutdated (isProdMode : Bool) (minimumVersion : String) (actualVersion : Option String) :
    Bool :=
  match actualVersion with
  | none => isProdMode
  | some actualVersion =>
    if actualVersion = "" then isProdMode
    else isOutdatedFrom (split ['.'] minimumVersion.toList) (split ['.'] actualVersion.toList)

/-! ### Versions -/

/-- The categories of a version, each a numeral. -/
structure Version where
  categories : List (List Char)
  nonempty : categories ≠ []
  numeric : ∀ category ∈ categories, category ≠ [] ∧ category.all Char.isDigit = true

namespace Version

def text (version : Version) : String := String.ofList (join ['.'] version.categories)

def numbers (version : Version) : List ℕ := version.categories.map (Nat.ofDigitChars 10 · 0)

/-- The one comes before the other, category by category, where one that is missing counts as
zero. -/
def Precedes (version other : Version) : Prop :=
  Lexicographic.Precedes 0 version.numbers other.numbers

end Version

/-! ### Numerals -/

theorem not_isDigit_of_isWhitespace {character : Char}
    (whitespace : Orders.isWhitespace character = true) : ¬character.isDigit = true := by
  rw [Orders.isWhitespace, List.contains_iff_mem] at whitespace
  have none := List.all_eq_true.mp
    (?_ : List.all _ (fun other : Char => !other.isDigit) = true) character whitespace
  · simpa using none
  · decide

/-- There is nothing to be cut off a numeral. -/
theorem trim_ofList {digits : List Char} (numeric : ∀ digit ∈ digits, digit.isDigit = true) :
    Orders.trim (String.ofList digits) = String.ofList digits := by
  have kept (characters : List Char) (among : ∀ character ∈ characters, character ∈ digits) :
      characters.dropWhile Orders.isWhitespace = characters := by
    rw [List.dropWhile_eq_self_iff]
    intro some whitespace
    exact not_isDigit_of_isWhitespace whitespace (numeric _ (among _ (List.getElem_mem some)))
  rw [Orders.trim, String.toList_ofList, kept digits fun _ member => member,
    kept digits.reverse fun _ => List.mem_reverse.mp, List.reverse_reverse]

/-- A numeral is the number its digits are. -/
theorem numberOf_ofList {digits : List Char} (nonempty : digits ≠ [])
    (numeric : digits.all Char.isDigit = true) :
    numberOf (String.ofList digits) = some (Nat.ofDigitChars 10 digits 0 : Rat) := by
  rw [List.all_eq_true] at numeric
  have plain : signed unsignedDecimal digits =
      some (Nat.ofDigitChars 10 digits 0 : Rat) := by
    rw [signed_of_isDigit _ numeric, unsignedDecimal, List.takeWhile_eq_self_iff.mpr numeric,
      List.dropWhile_eq_nil_iff.mpr numeric]
    simp [nonempty, exponentPart]
  unfold numberOf
  rw [trim_ofList numeric, String.toList_ofList]
  split
  case h_1 => exact absurd rfl nonempty
  case h_8 => exact plain
  -- What introduces another base has a letter in the second place.
  all_goals
    have letter := numeric _ (List.mem_cons_of_mem _ List.mem_cons_self)
    exact absurd letter (by decide)

theorem number_ofList {digits : List Char} (nonempty : digits ≠ [])
    (numeric : digits.all Char.isDigit = true) :
    number (String.ofList digits) = some (toDouble (Nat.ofDigitChars 10 digits 0 : ℕ)) := by
  rw [number, numberOf_ofList nonempty numeric]

theorem toDouble_natCast_mono : Monotone fun number : ℕ => toDouble number := by
  intro first second less
  have rounded : nearestDouble first ≤ nearestDouble second := nearestDouble_natCast_mono less
  simp only [toDouble]
  split
  · rename_i infinite
    rw [if_pos (infinite.trans rounded)]
  · split
    · exact bot_le
    · rename_i finite
      split
      · exact le_top
      · rw [if_neg fun below => finite (rounded.trans below)]
        exact WithBot.coe_le_coe.mpr (WithTop.coe_le_coe.mpr rounded)

/-- The doubles of the categories, as far as the loop reads them. -/
theorem isOutdatedFrom_iff {minimum actual : List (List Char)}
    (minimumNumeric : ∀ category ∈ minimum, category ≠ [] ∧ category.all Char.isDigit = true)
    (actualNumeric : ∀ category ∈ actual, category ≠ [] ∧ category.all Char.isDigit = true) :
    isOutdatedFrom minimum actual = true ↔
      Behind ((actual.map (Nat.ofDigitChars 10 · 0)).map fun number : ℕ => toDouble number)
        ((minimum.map (Nat.ofDigitChars 10 · 0)).map fun number : ℕ => toDouble number) := by
  induction minimum generalizing actual with
  | nil => exact iff_of_false Bool.false_ne_true not_behind_nil_right
  | cons minimumCategory minimumRest inductionHypothesis =>
    obtain ⟨minimumDigits, minimumLater⟩ := List.forall_mem_cons.mp minimumNumeric
    cases actual with
    | nil =>
      refine iff_of_false (fun outdated => ?_) not_behind_nil_left
      rw [isOutdatedFrom] at outdated
      simp at outdated
    | cons actualCategory actualRest =>
      obtain ⟨actualDigits, actualLater⟩ := List.forall_mem_cons.mp actualNumeric
      rw [isOutdatedFrom, number_ofList minimumDigits.1 minimumDigits.2, List.head?_cons,
        Option.bind_some, number_ofList actualDigits.1 actualDigits.2, List.tail_cons]
      simp only [List.map_cons, behind_cons_cons]
      rw [← inductionHypothesis minimumLater actualLater]
      split
      · rename_i less
        exact iff_of_true rfl (Or.inl less)
      rename_i notLess
      split
      · rename_i same
        rw [or_iff_right notLess, and_iff_right same.symm]
      · rename_i different
        refine iff_of_false Bool.false_ne_true (not_or.mpr ⟨notLess, fun both => ?_⟩)
        exact different both.1.symm

/-! ### The gate -/

namespace Version

/-- The categories of a version are found in its text. -/
theorem split_text (version : Version) :
    split ['.'] version.text.toList = version.categories := by
  rw [text, String.toList_ofList, split_join_iff]
  refine ⟨version.nonempty, fun category member point => ?_⟩
  have digits := List.all_eq_true.mp (version.numeric category member).2
  exact absurd (digits '.' point) (by decide)

theorem text_ne_empty (version : Version) : version.text ≠ "" := by
  intro empty
  have single : version.categories = [[]] := by
    rw [← version.split_text, empty]
    rfl
  exact (version.numeric [] (single ▸ List.mem_singleton_self _)).1 rfl

theorem isOutdated_text_iff (isProdMode : Bool) (minimum actual : Version) :
    isOutdated isProdMode minimum.text (some actual.text) = true ↔
      Behind (actual.numbers.map fun number : ℕ => toDouble number)
        (minimum.numbers.map fun number : ℕ => toDouble number) := by
  simp only [isOutdated]
  rw [if_neg actual.text_ne_empty, minimum.split_text, actual.split_text]
  exact isOutdatedFrom_iff minimum.numeric actual.numeric

end Version

/-- A version is outdated for the gate exactly if it precedes the minimum, on condition that their
order can be told from the doubles of their categories. -/
theorem isOutdated_precedes_iff (isProdMode : Bool) (minimum actual : Version) :
    (isOutdated isProdMode minimum.text (some actual.text) = true ↔ actual.Precedes minimum) ↔
      IsTold (fun number : ℕ => toDouble number) 0 actual.numbers minimum.numbers := by
  rw [Version.isOutdated_text_iff]
  exact behind_iff_precedes_iff toDouble_natCast_mono Nat.zero_le actual.numbers minimum.numbers

/-- A minimum with three categories. -/
def exampleMinimum : Version where
  categories := [['1'], ['0'], ['1']]
  nonempty := List.cons_ne_nil _ _
  numeric := by decide

/-- A version with two. -/
def exampleVersion : Version where
  categories := [['1'], ['0']]
  nonempty := List.cons_ne_nil _ _
  numeric := by decide

/-- The version `1.0` passes for `1.0.1`. -/
theorem not_isOutdated_short :
    ¬(isOutdated true exampleMinimum.text (some exampleVersion.text) = true ↔
      exampleVersion.Precedes exampleMinimum) := by
  have passes : isOutdated true exampleMinimum.text (some exampleVersion.text) = false := by
    decide +kernel
  have precedes : exampleVersion.Precedes exampleMinimum := by
    refine precedes_cons_cons.mpr (Or.inr ⟨rfl, precedes_cons_cons.mpr (Or.inr ⟨rfl, ?_⟩)⟩)
    exact precedes_nil_cons.mpr (Or.inl (by decide))
  rw [passes, iff_true_right precedes]
  exact Bool.false_ne_true

end FieldService
