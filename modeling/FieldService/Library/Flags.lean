/-
This file develops masks of flags: bit vectors of which several are put together into one.

A flag may have more than one bit. Putting flags together by a bitwise or gives the mask whose bits
are those of some flag (`getLsbD_union`), so testing a mask against the union is testing it against
each flag (`and_union_eq_zero_iff`). Adding flags up does the same only as long as no two of them
share a bit (`sum_toNat_eq`); a carry spoils it otherwise.
-/

import Mathlib.Algebra.GroupWithZero.Nat
import Mathlib.Data.List.Basic

namespace FieldService.Flags

variable {width : Nat}

/-- All the flags in one mask. -/
def union (flags : List (BitVec width)) : BitVec width :=
  flags.foldr (· ||| ·) 0

/-- No two of the flags share a bit. -/
def Apart (flags : List (BitVec width)) : Prop :=
  flags.Pairwise fun first second => first &&& second = 0

@[simp]
theorem union_nil : union ([] : List (BitVec width)) = 0 := rfl

@[simp]
theorem union_cons (flag : BitVec width) (rest : List (BitVec width)) :
    union (flag :: rest) = flag ||| union rest := rfl

theorem union_append (first second : List (BitVec width)) :
    union (first ++ second) = union first ||| union second := by
  induction first with
  | nil => simp
  | cons flag rest inductionHypothesis =>
    rw [List.cons_append, union_cons, union_cons, inductionHypothesis, BitVec.or_assoc]

theorem union_flatten (flags : List (List (BitVec width))) :
    union flags.flatten = union (flags.map union) := by
  induction flags with
  | nil => rfl
  | cons first rest inductionHypothesis =>
    rw [List.flatten_cons, union_append, inductionHypothesis, List.map_cons, union_cons]

/-- A bit of the mask is a bit of some flag. -/
theorem getLsbD_union (flags : List (BitVec width)) (bit : Nat) :
    (union flags).getLsbD bit = true ↔ ∃ flag ∈ flags, flag.getLsbD bit = true := by
  induction flags with
  | nil => simp
  | cons flag rest inductionHypothesis =>
    simp only [union_cons, BitVec.getLsbD_or, Bool.or_eq_true, inductionHypothesis,
      List.mem_cons, exists_eq_or_imp]

/-- Two masks share no bit exactly if they have none in common. -/
theorem and_eq_zero_iff (first second : BitVec width) :
    first &&& second = 0 ↔
      ∀ bit, first.getLsbD bit = true → second.getLsbD bit = false := by
  constructor
  · intro disjoint bit set
    have cleared : (first &&& second).getLsbD bit = false := by
      rw [disjoint]
      exact BitVec.getLsbD_zero
    rw [BitVec.getLsbD_and, set, Bool.true_and] at cleared
    exact cleared
  · intro disjoint
    ext bit inRange
    have cleared := disjoint bit
    simp only [← BitVec.getLsbD_eq_getElem inRange, BitVec.getLsbD_and]
    cases set : first.getLsbD bit with
    | false => simp
    | true => simp [cleared set]

/-- A mask misses the union exactly if it misses every flag. -/
theorem and_union_eq_zero_iff (mask : BitVec width) (flags : List (BitVec width)) :
    mask &&& union flags = 0 ↔ ∀ flag ∈ flags, mask &&& flag = 0 := by
  simp only [and_eq_zero_iff, Bool.eq_false_iff, ne_eq, getLsbD_union, not_exists, not_and]
  exact ⟨fun misses flag member bit set => misses bit set flag member,
    fun misses bit set flag member => misses flag member bit set⟩

/-- Two unions miss each other exactly if every flag of the one misses every flag of the other. -/
theorem union_and_union_eq_zero_iff (first second : List (BitVec width)) :
    union first &&& union second = 0 ↔
      ∀ flag ∈ first, ∀ other ∈ second, flag &&& other = 0 := by
  simp only [and_union_eq_zero_iff]
  constructor
  · intro misses flag member other also
    have missed := misses other also
    rw [BitVec.and_comm, and_union_eq_zero_iff] at missed
    rw [BitVec.and_comm]
    exact missed flag member
  · intro misses other also
    rw [BitVec.and_comm, and_union_eq_zero_iff]
    intro flag member
    rw [BitVec.and_comm]
    exact misses flag member other also

/-- Flags that share no bit can be added up: the sum is their union, without a carry. -/
theorem sum_toNat_eq {flags : List (BitVec width)} (apart : Apart flags) :
    (flags.map BitVec.toNat).sum = (union flags).toNat := by
  induction flags with
  | nil => simp
  | cons flag rest inductionHypothesis =>
    obtain ⟨first, others⟩ := List.pairwise_cons.mp apart
    have disjoint : flag &&& union rest = BitVec.ofNat width 0 :=
      (and_union_eq_zero_iff flag rest).mpr first
    rw [List.map_cons, List.sum_cons, inductionHypothesis others, union_cons,
      ← BitVec.toNat_add_of_and_eq_zero disjoint, BitVec.add_eq_or_of_and_eq_zero _ _ disjoint]

end FieldService.Flags
