/-
This file models the texts that files are made of: strings as the code units they consist of,
amounts with two decimal places, and records as the columns they are written in.
-/

import Mathlib.Data.Rat.Defs
import FieldService.Shared

namespace FieldService

/-! ### Code units -/

/-- A text as the code units it consists of. Its parts need not be texts of whole characters. -/
abbrev Utf16 := List UInt16

/-- The code units of one character: outside the basic plane it is a pair of them. -/
def unitsOf (character : Char) : Utf16 :=
  if character.toNat < 0x10000 then [character.toNat.toUInt16]
  else
    [(0xD800 + (character.toNat - 0x10000) / 0x400).toUInt16,
      (0xDC00 + (character.toNat - 0x10000) % 0x400).toUInt16]

def utf16 (text : String) : Utf16 := text.toList.flatMap unitsOf

/-- The code unit of an ASCII character. -/
def unit (character : Char) : UInt16 := character.toNat.toUInt16

def comma : UInt16 := unit ','

def semicolon : UInt16 := unit ';'

def carriageReturn : UInt16 := unit '\r'

def lineFeed : UInt16 := unit '\n'

/-- `text.slice(start, finish)`, of a start before the end. -/
def slice (start finish : Nat) (text : Utf16) : Utf16 :=
  (text.take finish).drop start

theorem unit_inj {first second : Char} (one : first.toNat < 0x10000) (two : second.toNat < 0x10000)
    (same : unit first = unit second) : first = second := by
  have numbers := congrArg UInt16.toNat same
  rw [unit, unit, UInt16.toNat_ofNat', UInt16.toNat_ofNat',
    Nat.mod_eq_of_lt one, Nat.mod_eq_of_lt two] at numbers
  exact Char.toNat_inj.mp numbers

/-- An ASCII character is in a text exactly if its code unit is. -/
theorem unit_mem_utf16_iff {character : Char} (ascii : character.toNat < 0x80) (text : String) :
    unit character ∈ utf16 text ↔ character ∈ text.toList := by
  rw [utf16, List.mem_flatMap]
  constructor
  · rintro ⟨other, member, within⟩
    unfold unitsOf at within
    split at within
    · rename_i basic
      rwa [unit_inj (by omega) basic (List.mem_singleton.mp within)]
    · -- A code unit of a pair is beyond the ASCII ones.
      exfalso
      have bound : other.toNat < 0x110000 := by
        obtain below | ⟨-, below⟩ := other.valid
        · exact Nat.lt_trans below (by decide)
        · exact below
      simp only [List.mem_cons, List.not_mem_nil, or_false] at within
      obtain same | same := within <;>
      · have numbers := congrArg UInt16.toNat same
        rw [unit, UInt16.toNat_ofNat', UInt16.toNat_ofNat'] at numbers
        omega
  · intro member
    refine ⟨character, member, ?_⟩
    rw [unitsOf, if_pos (by omega)]
    exact List.mem_singleton_self _

theorem unitsOf_ne_nil (character : Char) : unitsOf character ≠ [] := by
  unfold unitsOf
  split <;> exact List.cons_ne_nil _ _

theorem toNat_toUInt16 {number : Nat} (small : number < 0x10000) :
    number.toUInt16.toNat = number :=
  (UInt16.toNat_ofNat').trans (Nat.mod_eq_of_lt small)

/-- A text starts with one character only, as no character is in the range of the pairs. -/
theorem unitsOf_append_inj {first second : Char} {rest others : Utf16}
    (same : unitsOf first ++ rest = unitsOf second ++ others) :
    first = second ∧ rest = others := by
  have bounds (character : Char) : character.toNat < 0xD800 ∨
      0xDFFF < character.toNat ∧ character.toNat < 0x110000 := character.valid
  have firstBounds := bounds first
  have secondBounds := bounds second
  have units {one other : Nat} (one_lt : one < 0x10000) (other_lt : other < 0x10000)
      (equal : one.toUInt16 = other.toUInt16) : one = other := by
    rw [← toNat_toUInt16 one_lt, equal, toNat_toUInt16 other_lt]
  unfold unitsOf at same
  split at same <;> split at same
  · obtain ⟨equal, later⟩ := List.cons.inj same
    exact ⟨Char.toNat_inj.mp (units (by omega) (by omega) equal), later⟩
  · have equal := units (by omega) (by omega) (List.cons.inj same).1
    omega
  · have equal := units (by omega) (by omega) (List.cons.inj same).1
    omega
  · obtain ⟨high, others⟩ := List.cons.inj same
    obtain ⟨low, later⟩ := List.cons.inj others
    have highs := units (by omega) (by omega) high
    have lows := units (by omega) (by omega) low
    exact ⟨Char.toNat_inj.mp (by omega), later⟩

/-- Different texts have different code units. -/
theorem utf16_injective : Function.Injective utf16 := by
  have encoded : ∀ first second : List Char, first.flatMap unitsOf = second.flatMap unitsOf →
      first = second := by
    intro first
    induction first with
    | nil =>
      intro second same
      cases second with
      | nil => rfl
      | cons character rest =>
        exact absurd (List.append_eq_nil_iff.mp same.symm).1 (unitsOf_ne_nil character)
    | cons character rest inductionHypothesis =>
      intro second same
      cases second with
      | nil =>
        exact absurd (List.append_eq_nil_iff.mp same).1 (unitsOf_ne_nil character)
      | cons other others =>
        rw [List.flatMap_cons, List.flatMap_cons] at same
        obtain ⟨rfl, later⟩ := unitsOf_append_inj same
        rw [inductionHypothesis others later]
  intro first second same
  exact String.toList_inj.mp (encoded _ _ same)

/-! ### Amounts -/

/-- The number of hundredths an amount is rounded to, without its sign. A half is rounded up. -/
def hundredths (amount : Money) : Nat :=
  ((if amount < 0 then -amount else amount) * 100 + 1 / 2).floor.toNat

def twoDigits (number : Nat) : String :=
  (if number < 10 then "0" else "") ++ number.repr

/-- `amount.toFixed(2)`. A negative amount keeps its sign, even when it is rounded to zero. -/
def toFixed (amount : Money) : String :=
  (if amount < 0 then "-" else "") ++ (hundredths amount / 100).repr ++ "." ++
    twoDigits (hundredths amount % 100)

theorem isDigit_of_mem_repr {number : Nat} {character : Char}
    (member : character ∈ number.repr.toList) : character.isDigit = true := by
  rw [Nat.toList_repr] at member
  exact Nat.isDigit_of_mem_toDigits (by decide) (by decide) member

theorem isDigit_of_mem_twoDigits {number : Nat} {character : Char}
    (member : character ∈ (twoDigits number).toList) : character.isDigit = true := by
  rw [twoDigits, String.toList_append, List.mem_append] at member
  obtain zero | digit := member
  · split at zero
    · obtain rfl : character = '0' := by simpa using zero
      rfl
    · simp at zero
  · exact isDigit_of_mem_repr digit

/-- An amount is written with digits, a point and a sign. -/
theorem mem_toFixed {amount : Money} {character : Char}
    (member : character ∈ (toFixed amount).toList) :
    character.isDigit = true ∨ character = '.' ∨ character = '-' := by
  simp only [toFixed, String.toList_append, List.mem_append] at member
  obtain ((sign | whole) | point) | decimals := member
  · split at sign
    · exact Or.inr (Or.inr (by simpa using sign))
    · simp at sign
  · exact Or.inl (isDigit_of_mem_repr whole)
  · exact Or.inr (Or.inl (by simpa using point))
  · exact Or.inl (isDigit_of_mem_twoDigits decimals)

/-! ### Records -/

/-- A record of a file by its columns. A column that is undefined or null is none. -/
abbrev FileRecord := List (Option Utf16)

/-- The columns as they are joined: what is undefined or null is empty. -/
def columnsOf (record : FileRecord) : List Utf16 :=
  record.map (·.getD [])

end FieldService
