/-
This file develops lists of items with thresholds, of which one is selected by what it takes to
reach it: the highest item that is reached, or else the lowest of all.

The selection is written as a search from the end of the list once it is sorted. It finds an item
with the highest key of those that are reached (`highest_of_find`), and when the keys are distinct
there is only one, whatever order the items were in (`eq_of_perm_of_sorted`).
-/

import Mathlib.Data.List.Sort

namespace FieldService.Thresholds

variable {Item Key : Type} [LinearOrder Key] (key : Item → Key)

/-! ### The highest and the lowest -/

/-- The item is reached, and no item that is reached is higher. -/
structure Highest (reached : Item → Prop) (items : List Item) (item : Item) : Prop where
  member : item ∈ items
  isReached : reached item
  bound : ∀ other ∈ items, reached other → key other ≤ key item

/-- No item is lower. -/
structure Lowest (items : List Item) (item : Item) : Prop where
  member : item ∈ items
  bound : ∀ other ∈ items, key item ≤ key other

/-- No two items have the same key. -/
def Distinct (items : List Item) : Prop :=
  ∀ first ∈ items, ∀ second ∈ items, key first = key second → first = second

variable {key} {items : List Item}

theorem Highest.eq_of_distinct {reached : Item → Prop} {first second : Item}
    (highest : Highest key reached items first) (other : Highest key reached items second)
    (distinct : Distinct key items) : first = second :=
  distinct first highest.member second other.member
    (le_antisymm (other.bound first highest.member highest.isReached)
      (highest.bound second other.member other.isReached))

theorem Lowest.eq_of_distinct {first second : Item} (lowest : Lowest key items first)
    (other : Lowest key items second) (distinct : Distinct key items) : first = second :=
  distinct first lowest.member second other.member
    (le_antisymm (lowest.bound second other.member) (other.bound first lowest.member))

theorem highest_filter_iff {inScope : Item → Bool} {reached : Item → Prop} {item : Item} :
    Highest key reached (items.filter inScope) item ↔
      Highest key (fun other => inScope other = true ∧ reached other) items item := by
  constructor
  · rintro ⟨member, isReached, bound⟩
    obtain ⟨member, within⟩ := List.mem_filter.mp member
    refine ⟨member, ⟨within, isReached⟩, fun other otherMember both => ?_⟩
    exact bound other (List.mem_filter.mpr ⟨otherMember, both.1⟩) both.2
  · rintro ⟨member, ⟨within, isReached⟩, bound⟩
    refine ⟨List.mem_filter.mpr ⟨member, within⟩, isReached, fun other otherMember => ?_⟩
    obtain ⟨otherMember, otherWithin⟩ := List.mem_filter.mp otherMember
    exact fun otherReached => bound other otherMember ⟨otherWithin, otherReached⟩

/-! ### Selecting from a sorted list -/

theorem Highest.cons_of_head {reached : Item → Prop} {first : Item}
    (sorted : (first :: items).Pairwise fun one other => key one ≤ key other) {item : Item}
    (highest : Highest key reached items item) : Highest key reached (first :: items) item where
  member := List.mem_cons_of_mem first highest.member
  isReached := highest.isReached
  bound other member isReached := by
    obtain rfl | later := List.mem_cons.mp member
    · exact List.rel_of_pairwise_cons sorted highest.member
    · exact highest.bound other later isReached

variable (key) in
/-- What is found from the end of a sorted list is the highest that is reached. -/
theorem highest_of_find {reached : Item → Bool} {item : Item}
    (sorted : items.Pairwise fun one other => key one ≤ key other)
    (found : items.reverse.find? reached = some item) :
    Highest key (fun other => reached other = true) items item := by
  induction items with
  | nil => cases found
  | cons first rest later =>
    rw [List.reverse_cons, List.find?_append] at found
    cases search : rest.reverse.find? reached with
    | some other =>
      rw [search, Option.some_or, Option.some.injEq] at found
      subst found
      exact (later sorted.of_cons search).cons_of_head sorted
    | none =>
      rw [search, Option.none_or, List.find?_singleton] at found
      split at found
      · rename_i isReached
        cases found
        refine ⟨List.mem_cons_self, isReached, fun other member otherReached => ?_⟩
        obtain rfl | among := List.mem_cons.mp member
        · exact le_rfl
        · have missed := List.find?_eq_none.mp search other (List.mem_reverse.mpr among)
          exact absurd otherReached missed
      · cases found

variable (key) in
theorem lowest_of_head {item : Item}
    (sorted : items.Pairwise fun one other => key one ≤ key other)
    (first : items.head? = some item) : Lowest key items item := by
  obtain ⟨rest, rfl⟩ := List.head?_eq_some_iff.mp first
  refine ⟨List.mem_cons_self, fun other member => ?_⟩
  obtain rfl | later := List.mem_cons.mp member
  · exact le_rfl
  · exact List.rel_of_pairwise_cons sorted later

/-- Two lists that differ in their order are sorted into the same list, when no two keys are the
same. -/
theorem eq_of_perm_of_sorted {first second : List Item} (permuted : first.Perm second)
    (distinct : Distinct key first)
    (firstSorted : first.Pairwise fun one other => key one ≤ key other)
    (secondSorted : second.Pairwise fun one other => key one ≤ key other) : first = second := by
  refine List.Perm.eq_of_pairwise (fun one other member otherMember below above => ?_) firstSorted
    secondSorted permuted
  exact distinct one member other (permuted.mem_iff.mpr otherMember) (le_antisymm below above)

end FieldService.Thresholds
