/-
This file is about Base64: bytes that are written as characters of six bits each.

Three bytes become four characters. One or two bytes that are left at the end are filled up with
zeros, and signs of equality make up for the characters that are missing. A reader stops at the
first of them and passes over what is no character of the alphabet, of which it takes either of two
variants. What has been written is read again (`decode_encode`), and an underscore is never written
(`underscore_notMem_encode`).
-/

import Mathlib.Tactic.Basic
import Mathlib.Data.Nat.Notation

namespace FieldService.Base64

/-! ### The alphabet -/

/-- The character of six bits. -/
def alphabet (digit : ℕ) : Char :=
  if digit < 26 then Char.ofNat ('A'.toNat + digit)
  else if digit < 52 then Char.ofNat ('a'.toNat + (digit - 26))
  else if digit < 62 then Char.ofNat ('0'.toNat + (digit - 52))
  else if digit = 62 then '+'
  else '/'

/-- The six bits of a character of either variant. -/
def digitOf (character : Char) : Option ℕ :=
  if character.isUpper then some (character.toNat - 'A'.toNat)
  else if character.isLower then some (character.toNat - 'a'.toNat + 26)
  else if character.isDigit then some (character.toNat - '0'.toNat + 52)
  else if character = '+' ∨ character = '-' then some 62
  else if character = '/' ∨ character = '_' then some 63
  else none

theorem digitOf_alphabet : ∀ digit < 64, digitOf (alphabet digit) = some digit := by
  decide

theorem alphabet_ne : ∀ digit < 64, alphabet digit ≠ '=' ∧ alphabet digit ≠ '_' := by
  decide

/-! ### Writing and reading -/

def encode : List ℕ → List Char
  | [] => []
  | [first] => [alphabet (first / 4), alphabet (first % 4 * 16), '=', '=']
  | [first, second] =>
    [alphabet (first / 4), alphabet (first % 4 * 16 + second / 16),
      alphabet (second % 16 * 4), '=']
  | first :: second :: third :: rest =>
    alphabet (first / 4) :: alphabet (first % 4 * 16 + second / 16) ::
      alphabet (second % 16 * 4 + third / 64) :: alphabet (third % 64) :: encode rest

/-- The bits of the characters up to the first sign of equality. -/
def digits (text : List Char) : List ℕ :=
  (text.takeWhile (· ≠ '=')).filterMap digitOf

/-- Six bits each put together to bytes. Bits that make no byte are dropped. -/
def join : List ℕ → List ℕ
  | first :: second :: third :: fourth :: rest =>
    (first * 4 + second / 16) :: (second % 16 * 16 + third / 4) :: (third % 4 * 64 + fourth) ::
      join rest
  | [first, second, third] => [first * 4 + second / 16, second % 16 * 16 + third / 4]
  | [first, second] => [first * 4 + second / 16]
  | _ => []

def decode (text : List Char) : List ℕ :=
  join (digits text)

/-! ### The round trip -/

theorem digits_alphabet {digit : ℕ} (small : digit < 64) (rest : List Char) :
    digits (alphabet digit :: rest) = digit :: digits rest := by
  rw [digits, List.takeWhile_cons_of_pos (by simpa using (alphabet_ne digit small).1),
    List.filterMap_cons_some (digitOf_alphabet digit small)]
  rfl

theorem digits_equality (rest : List Char) : digits ('=' :: rest) = [] := by
  rw [digits, List.takeWhile_cons_of_neg (by simp)]
  rfl

theorem digits_nil : digits [] = [] := rfl

/-- Reading gives the bytes that have been written. -/
theorem decode_encode (bytes : List ℕ) (small : ∀ byte ∈ bytes, byte < 256) :
    decode (encode bytes) = bytes := by
  induction bytes using encode.induct with
  | case1 => rfl
  | case2 first =>
    have one := small first (by simp)
    rw [decode, encode, digits_alphabet (by omega), digits_alphabet (by omega), digits_equality,
      join, List.cons.injEq]
    exact ⟨by omega, rfl⟩
  | case3 first second =>
    have one := small first (by simp)
    have two := small second (by simp)
    rw [decode, encode, digits_alphabet (by omega), digits_alphabet (by omega),
      digits_alphabet (by omega), digits_equality, join, List.cons.injEq, List.cons.injEq]
    exact ⟨by omega, by omega, rfl⟩
  | case4 first second third rest inductionHypothesis =>
    have one := small first (by simp)
    have two := small second (by simp)
    have three := small third (by simp)
    have others := inductionHypothesis fun byte member => small byte (by simp [member])
    rw [decode] at others
    rw [decode, encode, digits_alphabet (by omega), digits_alphabet (by omega),
      digits_alphabet (by omega), digits_alphabet (by omega), join, others, List.cons.injEq,
      List.cons.injEq, List.cons.injEq]
    exact ⟨by omega, by omega, by omega, rfl⟩

theorem underscore_notMem_encode (bytes : List ℕ) (small : ∀ byte ∈ bytes, byte < 256) :
    '_' ∉ encode bytes := by
  have apart {digit : ℕ} (few : digit < 64) : '_' ≠ alphabet digit := (alphabet_ne digit few).2.symm
  induction bytes using encode.induct with
  | case1 => simp [encode]
  | case2 first =>
    have one := small first (by simp)
    simp [encode, apart (show first / 4 < 64 by omega),
      apart (show first % 4 * 16 < 64 by omega)]
  | case3 first second =>
    have one := small first (by simp)
    have two := small second (by simp)
    simp [encode, apart (show first / 4 < 64 by omega),
      apart (show first % 4 * 16 + second / 16 < 64 by omega),
      apart (show second % 16 * 4 < 64 by omega)]
  | case4 first second third rest inductionHypothesis =>
    have one := small first (by simp)
    have two := small second (by simp)
    have three := small third (by simp)
    have others := inductionHypothesis fun byte member => small byte (by simp [member])
    simp [encode, others, apart (show first / 4 < 64 by omega),
      apart (show first % 4 * 16 + second / 16 < 64 by omega),
      apart (show second % 16 * 4 + third / 64 < 64 by omega),
      apart (show third % 64 < 64 by omega)]

/-- All three ways a text can end. -/
example : [[77], [77, 97], [77, 97, 110]].map encode =
    ["TQ==".toList, "TWE=".toList, "TWFu".toList] := by decide

end FieldService.Base64
