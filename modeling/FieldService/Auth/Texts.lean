/-
This file models the texts authentication takes: phone numbers, and the header that is to be a
number.

The header is tested twice, as a number of the language and as an integer of the database. The
first reads decimal literals with fraction and exponent and literals of other bases, all rounded to
a double, of which the integers pass; the second is the database's own, so that only its reading of
plain digits is known here.
-/

import Mathlib.Data.Rat.Floor
import Mathlib.Tactic.Ring
import FieldService.Library.Doubles
import FieldService.Orders.Packages

namespace FieldService.Auth

open Doubles

/-! ### Phone numbers -/

@[irreducible]
def stripPhoneNumber (phoneNumber : String) : String :=
  match (Orders.trim phoneNumber).toList.dropWhile (· = '+') with
  | '0' :: rest => String.ofList ('6' :: '0' :: rest)
  | characters => String.ofList characters

/-! ### Numbers of the language -/

/-- A literal with an optional sign before it. -/
def signed {Value : Type} [Neg Value] (unsigned : List Char → Option Value) :
    List Char → Option Value
  | '+' :: rest => unsigned rest
  | '-' :: rest => (unsigned rest).map (- ·)
  | characters => unsigned characters

def decimalDigits (characters : List Char) : Option Int :=
  if characters ≠ [] ∧ characters.all Char.isDigit then some (Nat.ofDigitChars 10 characters 0)
  else none

/-- What is left after the digits: nothing, or an exponent. -/
def exponentPart : List Char → Option Int
  | [] => some 0
  | 'e' :: rest => signed decimalDigits rest
  | 'E' :: rest => signed decimalDigits rest
  | _ => none

/-- Digits with a fraction and an exponent, of which a side of the point can be missing. -/
def unsignedDecimal (characters : List Char) : Option Rat :=
  let whole := characters.takeWhile Char.isDigit
  let afterWhole := characters.dropWhile Char.isDigit
  let hasPoint := afterWhole.head? = some '.'
  let fraction := if hasPoint then afterWhole.tail.takeWhile Char.isDigit else []
  let rest := if hasPoint then afterWhole.tail.dropWhile Char.isDigit else afterWhole
  if whole = [] ∧ fraction = [] then none
  else (exponentPart rest).map fun exponent : Int =>
    (Nat.ofDigitChars 10 (whole ++ fraction) 0 : Rat) * 10 ^ (exponent - (fraction.length : Int))

def digitValue (digit : Char) : Nat :=
  if digit.isDigit then digit.toNat - '0'.toNat
  else if 'a' ≤ digit ∧ digit ≤ 'f' then digit.toNat - 'a'.toNat + 10
  else if 'A' ≤ digit ∧ digit ≤ 'F' then digit.toNat - 'A'.toNat + 10
  else 16

/-- A literal of another base, after what introduces it. -/
def nonDecimal (base : Nat) (digits : List Char) : Option Rat :=
  if digits ≠ [] ∧ digits.all (digitValue · < base) then
    some (digits.foldl (fun value digit => value * base + digitValue digit) 0 : Nat)
  else none

/-- `+text` before it is rounded, when it is a finite number. -/
def numberOf (text : String) : Option Rat :=
  match (Orders.trim text).toList with
  | [] => some 0
  | '0' :: 'x' :: digits => nonDecimal 16 digits
  | '0' :: 'X' :: digits => nonDecimal 16 digits
  | '0' :: 'o' :: digits => nonDecimal 8 digits
  | '0' :: 'O' :: digits => nonDecimal 8 digits
  | '0' :: 'b' :: digits => nonDecimal 2 digits
  | '0' :: 'B' :: digits => nonDecimal 2 digits
  | characters => signed unsignedDecimal characters

/-- `Number.isInteger(+text)`. From `2 ** 1024` on a double is infinite. -/
def isIntegerText (text : String) : Bool :=
  (numberOf text).any fun value => |nearestDouble value| < 2 ^ 1024 ∧ (nearestDouble value).isInt

/-! ### Integers of the database -/

/-- How the database reads a text that it compares with an integer column. A text it does not read
makes the query fail. -/
structure IntegerInput where
  reads : String → Option Int
  reads_repr : ∀ number : Nat, number < 2 ^ 31 → reads number.repr = some (number : Int)

theorem isDigit_of_mem_toDigits {number : Nat} :
    ∀ digit ∈ Nat.toDigits 10 number, digit.isDigit = true :=
  fun _ member => Nat.isDigit_of_mem_toDigits (by decide) (by decide) member

theorem decimalDigits_toDigits (number : Nat) :
    decimalDigits (Nat.toDigits 10 number) = some (number : Int) := by
  rw [decimalDigits, if_pos, Nat.ofDigitChars_ten_toDigits]
  refine ⟨Nat.toDigits_ne_nil, ?_⟩
  rw [List.all_eq_true]
  exact isDigit_of_mem_toDigits

/-- Digits have no sign before them. -/
theorem signed_of_isDigit {Value : Type} [Neg Value] (unsigned : List Char → Option Value)
    {characters : List Char} (digits : ∀ digit ∈ characters, digit.isDigit = true) :
    signed unsigned characters = unsigned characters := by
  unfold signed
  split
  · exact absurd (digits '+' List.mem_cons_self) (by decide)
  · exact absurd (digits '-' List.mem_cons_self) (by decide)
  · rfl

/-- Integers of 32 bits written with digits and a sign, and nothing else. -/
def IntegerInput.plain : IntegerInput where
  reads text := (signed decimalDigits text.toList).filter fun number =>
    -2 ^ 31 ≤ number ∧ number < 2 ^ 31
  reads_repr := by
    intro number storable
    rw [Nat.toList_repr, signed_of_isDigit decimalDigits isDigit_of_mem_toDigits,
      decimalDigits_toDigits, Option.filter_some, if_pos]
    rw [decide_eq_true_iff]
    omega

end FieldService.Auth
