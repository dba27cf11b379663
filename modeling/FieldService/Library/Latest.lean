/-
This file builds the entry of a list with the largest key, found by a stable
sort: the idiom `sorted[sorted.length - 1]` after an ascending sort.

Where several entries share the largest key the sort is stable, so the one that
stands last in the list is found. The two facts a program that appends entries
in time order relies on are `latest_append`, that the entry just appended is
the latest one, and `latest_mem`, that the latest entry is one of the list.
-/

import Mathlib.Data.List.Sort
import Mathlib.Algebra.Order.Ring.Int

namespace FieldService.Latest

section

variable {Entry : Type*}

/-- The last entry of the list once it is sorted by key; `none` for an empty list. -/
def latest (key : Entry → Int) (entries : List Entry) : Option Entry :=
  (entries.insertionSort fun first second => key first ≤ key second).getLast?

/-- Inserting an entry whose key is no larger than the last one's leaves the last entry
where it is. -/
theorem getLast?_orderedInsert (key : Entry → Int) (entry last : Entry) (sorted : List Entry)
    (ends : sorted.getLast? = some last) (bound : key entry ≤ key last) :
    (sorted.orderedInsert (fun first second => key first ≤ key second) entry).getLast? =
      some last := by
  induction sorted with
  | nil => simp at ends
  | cons head tail inductionHypothesis =>
    rw [List.orderedInsert]
    split
    · rw [List.getLast?_cons_cons]
      exact ends
    · rename_i larger
      cases tail with
      | nil =>
        have same : head = last := by simpa using ends
        exact absurd (same ▸ bound) larger
      | cons next rest =>
        rw [List.getLast?_cons_cons] at ends
        have inserted := inductionHypothesis ends
        rw [List.getLast?_cons, inserted]
        rfl

/-- The entry appended last is the latest one when no key before it is larger. -/
theorem latest_append (key : Entry → Int) (entries : List Entry) (entry : Entry)
    (bound : ∀ earlier ∈ entries, key earlier ≤ key entry) :
    latest key (entries ++ [entry]) = some entry := by
  rw [latest, List.insertionSort]
  induction entries with
  | nil => rfl
  | cons head tail inductionHypothesis =>
    rw [List.cons_append, List.foldr_cons]
    exact getLast?_orderedInsert key head entry _
      (inductionHypothesis fun earlier member => bound earlier (List.mem_cons_of_mem head member))
      (bound head List.mem_cons_self)

/-- The latest entry is an entry. -/
theorem latest_mem (key : Entry → Int) (entries : List Entry) (entry : Entry)
    (found : latest key entries = some entry) : entry ∈ entries :=
  (List.mem_insertionSort _).mp (List.mem_of_getLast? found)

/-- Only an empty list has no latest entry. -/
theorem latest_eq_none_iff (key : Entry → Int) (entries : List Entry) :
    latest key entries = none ↔ entries = [] := by
  rw [latest, List.getLast?_eq_none_iff]
  constructor
  · intro empty
    have same := List.length_insertionSort (fun first second => key first ≤ key second) entries
    rw [empty, List.length_nil] at same
    exact List.length_eq_zero_iff.mp same.symm
  · rintro rfl
    rfl

end

end FieldService.Latest
