/-
This file reads printed amounts back.

An amount is printed with two decimal places, so what is read is the amount in hundredths, rounded
half away from zero. A negative amount that rounds to nothing is printed with its sign, and read as
zero.
-/

import Mathlib.Data.Rat.Floor
import FieldService.Library.Delimited
import FieldService.Library.Rounding
import FieldService.Payout.Texts

namespace FieldService

open Delimited Rounding

/-! ### Reading -/

def isDigitUnit (unit : UInt16) : Bool := 48 ≤ unit ∧ unit ≤ 57

def readDigits (text : Utf16) : Nat :=
  text.foldl (fun value digit => 10 * value + (digit.toNat - 48)) 0

/-- The number a text of digits with a point stands for. -/
def readUnsigned (text : Utf16) : Option Rat :=
  match split [unit '.'] text with
  | [whole, decimals] =>
    if whole ≠ [] ∧ decimals ≠ [] ∧ whole.all isDigitUnit ∧ decimals.all isDigitUnit then
      some ((readDigits whole : Rat) + readDigits decimals / 10 ^ decimals.length)
    else none
  | _ => none

/-- The amount a text with two digits behind a point, and maybe a sign before it, stands for. -/
def readAmount (text : Utf16) : Option Money :=
  if text.head? = some (unit '-') then (readUnsigned text.tail).map (- ·) else readUnsigned text

/-- An amount as it is printed, in hundredths. -/
def printedCents (amount : Money) : Int := roundAway (amount * 100)

/-! ### ASCII texts -/

theorem utf16_append (first second : String) :
    utf16 (first ++ second) = utf16 first ++ utf16 second := by
  rw [utf16, String.toList_append, List.flatMap_append]
  rfl

/-- A text of ASCII characters has a code unit for each. -/
theorem utf16_of_ascii {text : String} (ascii : ∀ character ∈ text.toList, character.toNat < 0x80) :
    utf16 text = text.toList.map unit := by
  rw [utf16, ← List.flatMap_singleton' (text.toList.map unit), List.flatMap_map]
  refine List.flatMap_congr fun character member => ?_
  have small := ascii character member
  rw [unitsOf, if_pos (by omega)]
  rfl

theorem toNat_unit {character : Char} (ascii : character.toNat < 0x80) :
    (unit character).toNat = character.toNat :=
  toNat_toUInt16 (by omega)

theorem ascii_of_isDigit {character : Char} (digit : character.isDigit = true) :
    48 ≤ character.toNat ∧ character.toNat ≤ 57 := by
  rw [Char.isDigit, Bool.and_eq_true, decide_eq_true_eq, decide_eq_true_eq] at digit
  exact digit

theorem isDigitUnit_unit {character : Char} (digit : character.isDigit = true) :
    isDigitUnit (unit character) = true := by
  obtain ⟨lower, upper⟩ := ascii_of_isDigit digit
  rw [isDigitUnit, decide_eq_true_eq, UInt16.le_iff_toNat_le, UInt16.le_iff_toNat_le,
    toNat_unit (by omega)]
  exact ⟨lower, upper⟩

/-! ### Digits -/

/-- A text of digits, at least one. -/
structure IsNumeral (text : String) : Prop where
  digits : ∀ character ∈ text.toList, character.isDigit = true
  nonempty : text.toList ≠ []

namespace IsNumeral

variable {text : String}

theorem utf16_eq (numeral : IsNumeral text) : utf16 text = text.toList.map unit := by
  refine utf16_of_ascii fun character member => ?_
  have bounds := ascii_of_isDigit (numeral.digits character member)
  omega

theorem all_isDigitUnit (numeral : IsNumeral text) : (utf16 text).all isDigitUnit = true := by
  rw [numeral.utf16_eq, List.all_map, List.all_eq_true]
  exact fun character member => isDigitUnit_unit (numeral.digits character member)

theorem utf16_ne_nil (numeral : IsNumeral text) : utf16 text ≠ [] := by
  rw [numeral.utf16_eq, ne_eq, List.map_eq_nil_iff]
  exact numeral.nonempty

theorem readDigits_eq (numeral : IsNumeral text) :
    readDigits (utf16 text) = Nat.ofDigitChars 10 text.toList 0 := by
  rw [numeral.utf16_eq, readDigits, List.foldl_map, Nat.ofDigitChars_eq_foldl]
  refine List.foldl_ext _ _ _ fun value character member => ?_
  have bounds := ascii_of_isDigit (numeral.digits character member)
  rw [toNat_unit (by omega)]
  rfl

theorem not_mem_utf16 (numeral : IsNumeral text) {other : UInt16}
    (isOther : isDigitUnit other = false) : other ∉ utf16 text := by
  intro member
  have digit := List.all_eq_true.mp numeral.all_isDigitUnit other member
  rw [isOther] at digit
  cases digit

end IsNumeral

theorem isNumeral_repr (number : Nat) : IsNumeral number.repr := by
  refine ⟨fun character member => isDigit_of_mem_repr member, ?_⟩
  rw [Nat.toList_repr]
  exact Nat.toDigits_ne_nil

theorem readDigits_repr (number : Nat) : readDigits (utf16 number.repr) = number := by
  rw [(isNumeral_repr number).readDigits_eq, Nat.toList_repr, Nat.ofDigitChars_ten_toDigits]

theorem isNumeral_twoDigits (number : Nat) : IsNumeral (twoDigits number) := by
  refine ⟨fun character member => isDigit_of_mem_twoDigits member, ?_⟩
  rw [twoDigits, String.toList_append]
  exact List.append_ne_nil_of_right_ne_nil _ (isNumeral_repr number).nonempty

/-- Two digits are read as the number they are, in hundredths. -/
theorem readDigits_twoDigits {number : Nat} (small : number < 100) :
    readDigits (utf16 (twoDigits number)) = number ∧ (utf16 (twoDigits number)).length = 2 := by
  have every : ∀ number : Fin 100, Nat.ofDigitChars 10 (twoDigits number).toList 0 = number ∧
      (twoDigits number).toList.length = 2 := by decide +kernel
  rw [(isNumeral_twoDigits number).readDigits_eq, (isNumeral_twoDigits number).utf16_eq,
    List.length_map]
  exact every ⟨number, small⟩

/-- Digits on both sides of a point are read as a whole number and its fraction. -/
theorem readUnsigned_eq {whole decimals : String} (first : IsNumeral whole)
    (second : IsNumeral decimals) :
    readUnsigned (utf16 (whole ++ "." ++ decimals)) =
      some ((readDigits (utf16 whole) : Rat) +
        readDigits (utf16 decimals) / 10 ^ (utf16 decimals).length) := by
  have parts : split [unit '.'] (utf16 (whole ++ "." ++ decimals)) =
      [utf16 whole, utf16 decimals] := by
    have joined : utf16 (whole ++ "." ++ decimals) =
        join [unit '.'] [utf16 whole, utf16 decimals] := by
      have point : utf16 "." = [unit '.'] := rfl
      rw [utf16_append, utf16_append, point, join_cons_cons, join, List.intercalate_singleton]
    rw [joined, split_join_iff]
    refine ⟨List.cons_ne_nil _ _, fun part member => ?_⟩
    obtain rfl | rfl := by simpa using member
    · exact first.not_mem_utf16 (by decide)
    · exact second.not_mem_utf16 (by decide)
  have digits : utf16 whole ≠ [] ∧ utf16 decimals ≠ [] ∧ (utf16 whole).all isDigitUnit = true ∧
      (utf16 decimals).all isDigitUnit = true :=
    ⟨first.utf16_ne_nil, second.utf16_ne_nil, first.all_isDigitUnit, second.all_isDigitUnit⟩
  simp only [readUnsigned, parts, if_pos digits]

/-! ### Printed amounts -/

/-- The amount without its sign, as it is printed. -/
theorem readUnsigned_hundredths (amount : Money) :
    readUnsigned (utf16 ((hundredths amount / 100).repr ++ "." ++
      twoDigits (hundredths amount % 100))) = some ((hundredths amount : Rat) / 100) := by
  obtain ⟨decimals, length⟩ :=
    readDigits_twoDigits (Nat.mod_lt (hundredths amount) (show 0 < 100 by decide))
  rw [readUnsigned_eq (isNumeral_repr _) (isNumeral_twoDigits _), readDigits_repr, decimals, length]
  have parts : (hundredths amount : Rat) =
      ((100 * (hundredths amount / 100) + hundredths amount % 100 : Nat) : Rat) := by
    rw [Nat.div_add_mod]
  rw [parts]
  push_cast
  congr 1
  ring

/-- The hundredths of an amount are those it is printed with, without the sign. -/
theorem printedCents_eq (amount : Money) :
    printedCents amount = if amount < 0 then -(hundredths amount : Int) else hundredths amount := by
  have rounded (nonneg : Rat) (positive : 0 ≤ nonneg) :
      ((nonneg * 100 + 1 / 2).floor.toNat : Int) = roundAway (nonneg * 100) := by
    have whole : (nonneg * 100 + 1 / 2).floor = roundAway (nonneg * 100) := by
      rw [roundAway, if_neg (by linarith), round_eq]
      rfl
    rw [whole, Int.toNat_of_nonneg (roundAway_nonneg (by linarith))]
  rw [printedCents, hundredths]
  split
  · rename_i negative
    rw [rounded (-amount) (by linarith), neg_mul, roundAway_neg, neg_neg]
  · rename_i nonneg
    rw [rounded amount (not_lt.mp nonneg)]

/-- What is printed is read as the amount in hundredths, rounded half away from zero. -/
theorem readAmount_toFixed (amount : Money) :
    readAmount (utf16 (toFixed amount)) = some ((printedCents amount : Rat) / 100) := by
  have unsigned := readUnsigned_hundredths amount
  rw [printedCents_eq, toFixed]
  by_cases negative : amount < 0
  · have sign : utf16 "-" = [unit '-'] := rfl
    rw [if_pos negative, if_pos negative, String.append_assoc, String.append_assoc, utf16_append,
      ← String.append_assoc]
    rw [sign, readAmount, List.singleton_append, List.head?_cons, if_pos rfl, List.tail_cons,
      unsigned]
    push_cast
    rw [Option.map_some, neg_div]
  · have bare : ("" : String) ++ (hundredths amount / 100).repr = (hundredths amount / 100).repr :=
      String.empty_append
    rw [if_neg negative, if_neg negative, bare, readAmount, if_neg, unsigned]
    · push_cast
      rfl
    · intro signed
      have whole := (isNumeral_repr (hundredths amount / 100)).utf16_ne_nil
      obtain ⟨first, rest, digits⟩ := List.exists_cons_of_ne_nil whole
      rw [utf16_append, utf16_append, digits] at signed
      have isFirst : first = unit '-' := by simpa using signed
      refine (isNumeral_repr (hundredths amount / 100)).not_mem_utf16
        (show isDigitUnit (unit '-') = false by decide) ?_
      rw [digits, isFirst]
      exact List.mem_cons_self

end FieldService
