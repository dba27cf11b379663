/-
This file develops the two ways a list of rows is turned into an object by a key: an index,
which keeps the last row of every key, and a collection, which keeps every row in the group
of its key and the groups in the order in which their keys first occur.

A collection has a closed form, `collect_eq`: its keys are those of the rows without
repetition, and the group of a key is what a filter by the key leaves. Everything else
follows from it, and in particular that no row is dropped or kept twice
(`flatMap_collect_perm`).

A counter for every key numbers the rows in passing, without gathering them first. The numbers of
the rows of one key are consecutive, whatever lies between these rows (`ordinals_of_key`).

Two keys can give groups of the same sizes and still put rows elsewhere, but not when one of them
never puts a row behind where the other does (`count_map_eq_iff`).

The sum of the amounts of the rows that count is the last thing such lists are used for. It
does not depend on the order of the rows, and it splits along any test.
-/

import Mathlib.Algebra.BigOperators.Group.List.Basic
import Mathlib.Algebra.Order.BigOperators.Group.List
import Mathlib.Data.List.Induction
import Mathlib.Data.List.Nodup
import Mathlib.Logic.Function.Basic
import Mathlib.Tactic.Basic

namespace FieldService.Grouping

variable {Key Row : Type} [DecidableEq Key]

/-! ### Indices -/

/-- What an object holds at a key after each row has been assigned to its own: the last row
with that key. -/
def index (key : Row → Key) (rows : List Row) (wanted : Key) : Option Row :=
  rows.foldl (fun found row => if key row = wanted then some row else found) none

theorem index_append_singleton (key : Row → Key) (rows : List Row) (row : Row) (wanted : Key) :
    index key (rows ++ [row]) wanted =
      if key row = wanted then some row else index key rows wanted := by
  rw [index, List.foldl_append]
  rfl

/-- What is found at a key is a row with it. -/
theorem index_key {key : Row → Key} {rows : List Row} {wanted : Key} {row : Row}
    (found : index key rows wanted = some row) : row ∈ rows ∧ key row = wanted := by
  induction rows using List.reverseRecOn with
  | nil => cases found
  | append_singleton rows last earlier =>
    rw [index_append_singleton] at found
    split at found
    · rename_i hit
      cases found
      exact ⟨by simp, hit⟩
    · obtain ⟨member, same⟩ := earlier found
      exact ⟨List.mem_append_left _ member, same⟩

/-- Every key a row has is found. -/
theorem index_isSome {key : Row → Key} {rows : List Row} {row : Row} (member : row ∈ rows) :
    (index key rows (key row)).isSome = true := by
  induction rows using List.reverseRecOn with
  | nil => cases member
  | append_singleton rows last earlier =>
    rw [index_append_singleton]
    split
    · rfl
    · rename_i miss
      rcases List.mem_append.mp member with before | final
      · exact earlier before
      · rw [List.mem_singleton.mp final] at miss
        exact absurd rfl miss

/-- Rows that keep their keys are found where they were. -/
theorem index_map {key : Row → Key} {change : Row → Row} (keeps : ∀ row, key (change row) = key row)
    (rows : List Row) (wanted : Key) :
    index key (rows.map change) wanted = (index key rows wanted).map change := by
  induction rows using List.reverseRecOn with
  | nil => rfl
  | append_singleton rows last earlier =>
    rw [List.map_append, List.map_singleton, index_append_singleton, index_append_singleton, keeps,
      earlier]
    split <;> rfl

theorem index_isSome_iff (key : Row → Key) (rows : List Row) (wanted : Key) :
    (index key rows wanted).isSome = true ↔ ∃ row ∈ rows, key row = wanted := by
  constructor
  · intro isFound
    obtain ⟨row, found⟩ := Option.isSome_iff_exists.mp isFound
    exact ⟨row, index_key found⟩
  · rintro ⟨row, member, rfl⟩
    exact index_isSome member

/-! ### Collections -/

/-- Adds a row to the group of its key, or opens a group for it. -/
def add (key : Row → Key) (row : Row) : List (Key × List Row) → List (Key × List Row)
  | [] => [(key row, [row])]
  | group :: rest =>
    if group.1 = key row then (group.1, group.2 ++ [row]) :: rest else group :: add key row rest

/-- The rows in groups by their key. -/
def collect (key : Row → Key) (rows : List Row) : List (Key × List Row) :=
  rows.foldl (fun groups row => add key row groups) []

theorem collect_append_singleton (key : Row → Key) (rows : List Row) (row : Row) :
    collect key (rows ++ [row]) = add key row (collect key rows) := by
  rw [collect, List.foldl_append]
  rfl

/-- Adding a row to groups given by their keys lengthens the group of its key, or appends one. -/
theorem add_map (key : Row → Key) (row : Row) (keys : List Key) (distinct : keys.Nodup)
    (group : Key → List Row) :
    add key row (keys.map fun wanted => (wanted, group wanted)) =
      if key row ∈ keys then
        keys.map fun wanted =>
          (wanted, if wanted = key row then group wanted ++ [row] else group wanted)
      else keys.map (fun wanted => (wanted, group wanted)) ++ [(key row, [row])] := by
  induction keys with
  | nil => simp [add]
  | cons head rest later =>
    obtain ⟨absent, restDistinct⟩ := List.nodup_cons.mp distinct
    rw [List.map_cons, add]
    by_cases hit : head = key row
    · rw [if_pos hit, if_pos (by simp [hit]), List.map_cons, if_pos hit]
      refine congrArg _ (List.map_congr_left fun wanted member => ?_)
      rw [if_neg]
      rintro rfl
      exact absent (hit ▸ member)
    · rw [if_neg hit, later restDistinct]
      by_cases member : key row ∈ rest
      · rw [if_pos member, if_pos (List.mem_cons_of_mem _ member), List.map_cons, if_neg hit]
      · rw [if_neg member, if_neg (by simpa [Ne.symm hit] using member), List.cons_append]

theorem eraseDups_append_singleton (keys : List Key) (key : Key) :
    (keys ++ [key]).eraseDups =
      if key ∈ keys then keys.eraseDups else keys.eraseDups ++ [key] := by
  rw [List.eraseDups_append]
  by_cases member : key ∈ keys <;> simp [List.removeAll, member, List.eraseDups_cons]

theorem nodup_eraseDups (keys : List Key) : keys.eraseDups.Nodup := by
  induction keys using List.reverseRecOn with
  | nil => simp
  | append_singleton keys key earlier =>
    rw [eraseDups_append_singleton]
    split
    · exact earlier
    · rename_i absent
      refine List.Nodup.append earlier (List.nodup_singleton _)
        (List.disjoint_singleton.mpr fun member => absent (List.mem_eraseDups.mp member))

theorem eraseDups_of_nodup {keys : List Key} (different : keys.Nodup) :
    keys.eraseDups = keys := by
  induction keys using List.reverseRecOn with
  | nil => rfl
  | append_singleton keys key earlier =>
    obtain ⟨before, -, apart⟩ := List.nodup_append.mp different
    rw [eraseDups_append_singleton, if_neg fun member =>
      apart key member key (List.mem_singleton.mpr rfl) rfl, earlier before]

/-- The keys of a collection are those of the rows, each once, and the group of a key holds
the rows with it, in their order. -/
theorem collect_eq (key : Row → Key) (rows : List Row) :
    collect key rows =
      (rows.map key).eraseDups.map fun wanted =>
        (wanted, rows.filter fun row => key row = wanted) := by
  induction rows using List.reverseRecOn with
  | nil => rfl
  | append_singleton rows row earlier =>
    rw [collect_append_singleton, earlier, add_map key row _ (nodup_eraseDups _), List.map_append,
      List.map_singleton, eraseDups_append_singleton]
    by_cases member : key row ∈ rows.map key
    · rw [if_pos member, if_pos (List.mem_eraseDups.mpr member)]
      refine List.map_congr_left fun wanted _ => ?_
      by_cases hit : wanted = key row
      · simp [hit]
      · simp [hit, Ne.symm hit]
    · rw [if_neg member, if_neg fun inside => member (List.mem_eraseDups.mp inside),
        List.map_append, List.map_singleton]
      have new : rows.filter (fun other => key other = key row) = [] := by
        rw [List.filter_eq_nil_iff]
        intro other inside
        simpa using fun same => member (List.mem_map.mpr ⟨other, inside, same⟩)
      refine congrArg₂ _ (List.map_congr_left fun wanted inside => ?_) ?_
      · have hit : key row ≠ wanted := by
          rintro rfl
          exact member (List.mem_eraseDups.mp inside)
        simp [hit]
      · simp [new]

/-- The keys of the groups are distinct. -/
theorem collect_keys_nodup (key : Row → Key) (rows : List Row) :
    ((collect key rows).map Prod.fst).Nodup := by
  rw [collect_eq, List.map_map]
  simpa [Function.comp_def] using nodup_eraseDups (rows.map key)

/-- A group holds exactly the rows with its key, and at least one. -/
theorem mem_collect (key : Row → Key) (rows : List Row) (group : Key × List Row) :
    group ∈ collect key rows ↔
      group.2 = rows.filter (fun row => key row = group.1) ∧ group.2 ≠ [] := by
  rw [collect_eq, List.mem_map]
  constructor
  · rintro ⟨wanted, member, rfl⟩
    obtain ⟨row, inside, hit⟩ := List.mem_map.mp (List.mem_eraseDups.mp member)
    exact ⟨rfl, List.ne_nil_of_mem (List.mem_filter.mpr ⟨inside, by simpa using hit⟩)⟩
  · rintro ⟨holds, nonempty⟩
    obtain ⟨row, member⟩ := List.exists_mem_of_ne_nil _ nonempty
    rw [holds] at member
    obtain ⟨inside, hit⟩ := List.mem_filter.mp member
    have same : key row = group.1 := by simpa using hit
    exact ⟨group.1, List.mem_eraseDups.mpr (List.mem_map.mpr ⟨row, inside, same⟩),
      Prod.ext rfl holds.symm⟩

/-- The group found under a key, if a row has it. -/
theorem find_collect (key : Row → Key) (rows : List Row) (wanted : Key) :
    (collect key rows).find? (fun group => group.1 = wanted) =
      if wanted ∈ rows.map key then some (wanted, rows.filter fun row => key row = wanted)
      else none := by
  cases found : (collect key rows).find? fun group => group.1 = wanted with
  | none =>
    rw [if_neg]
    intro used
    obtain ⟨row, member, hit⟩ := List.mem_map.mp used
    have grouped := (mem_collect key rows (wanted, rows.filter fun row => key row = wanted)).mpr
      ⟨rfl, List.ne_nil_of_mem (List.mem_filter.mpr ⟨member, decide_eq_true hit⟩)⟩
    exact List.find?_eq_none.mp found _ grouped (decide_eq_true rfl)
  | some group =>
    obtain ⟨holds, nonempty⟩ := (mem_collect key rows group).mp (List.mem_of_find?_eq_some found)
    obtain rfl : group.1 = wanted := by simpa using List.find?_some found
    obtain ⟨row, member⟩ := List.exists_mem_of_ne_nil _ nonempty
    rw [holds] at member
    obtain ⟨inside, hit⟩ := List.mem_filter.mp member
    rw [if_pos (List.mem_map.mpr ⟨row, inside, of_decide_eq_true hit⟩), ← holds]

/-- The first row of each group: `DISTINCT ON` a key. -/
def distinctOn (key : Row → Key) (rows : List Row) : List Row :=
  (collect key rows).filterMap fun group => group.2.head?

theorem mem_of_mem_distinctOn {key : Row → Key} {rows : List Row} {row : Row}
    (member : row ∈ distinctOn key rows) : row ∈ rows := by
  obtain ⟨group, grouped, first⟩ := List.mem_filterMap.mp member
  have inside : row ∈ group.2 := List.mem_of_mem_head? first
  rw [((mem_collect key rows group).mp grouped).1] at inside
  exact (List.mem_filter.mp inside).1

/-- A row stands for every key there is. -/
theorem exists_mem_distinctOn_iff (key : Row → Key) (rows : List Row) (wanted : Key) :
    (∃ row ∈ distinctOn key rows, key row = wanted) ↔ ∃ row ∈ rows, key row = wanted := by
  constructor
  · rintro ⟨row, member, same⟩
    exact ⟨row, mem_of_mem_distinctOn member, same⟩
  · rintro ⟨row, member, same⟩
    have inside : row ∈ rows.filter fun other => key other = wanted :=
      List.mem_filter.mpr ⟨member, decide_eq_true same⟩
    obtain ⟨first, rest, group⟩ := List.exists_cons_of_ne_nil (List.ne_nil_of_mem inside)
    have isFirst : first ∈ rows.filter fun other => key other = wanted :=
      group ▸ List.mem_cons_self
    refine ⟨first, List.mem_filterMap.mpr ⟨(wanted, rows.filter fun other => key other = wanted),
      (mem_collect _ _ _).mpr ⟨rfl, List.ne_nil_of_mem inside⟩, ?_⟩,
      of_decide_eq_true (List.mem_filter.mp isFirst).2⟩
    rw [group]
    rfl

/-- Where no two rows have the same key, each is the first of its group. -/
theorem distinctOn_eq_self {key : Row → Key} {rows : List Row}
    (different : (rows.map key).Nodup) : distinctOn key rows = rows := by
  have first : ∀ row ∈ rows, (rows.filter fun other => key other = key row).head? = some row := by
    intro row member
    have inside : row ∈ rows.filter fun other => key other = key row :=
      List.mem_filter.mpr ⟨member, decide_eq_true rfl⟩
    obtain ⟨other, rest, group⟩ := List.exists_cons_of_ne_nil (List.ne_nil_of_mem inside)
    have isFirst : other ∈ rows.filter fun other => key other = key row :=
      group ▸ List.mem_cons_self
    obtain ⟨stored, same⟩ := List.mem_filter.mp isFirst
    rw [group, List.head?_cons,
      List.inj_on_of_nodup_map different stored member (of_decide_eq_true same)]
  rw [distinctOn, collect_eq, eraseDups_of_nodup different, List.map_map, List.filterMap_map]
  calc
    _ = rows.filterMap some := List.filterMap_congr first
    _ = rows := List.filterMap_some

theorem flatMap_add_perm (key : Row → Key) (row : Row) (groups : List (Key × List Row)) :
    ((add key row groups).flatMap Prod.snd).Perm (groups.flatMap Prod.snd ++ [row]) := by
  induction groups with
  | nil => simp [add]
  | cons group rest later =>
    rw [add]
    split
    · rw [List.flatMap_cons, List.flatMap_cons, List.append_assoc, List.append_assoc]
      exact List.Perm.append_left _ List.perm_append_comm
    · rw [List.flatMap_cons, List.flatMap_cons, List.append_assoc]
      exact List.Perm.append_left _ later

/-- Grouping drops no row and keeps none twice. -/
theorem flatMap_collect_perm (key : Row → Key) (rows : List Row) :
    ((collect key rows).flatMap Prod.snd).Perm rows := by
  induction rows using List.reverseRecOn with
  | nil => exact List.Perm.refl _
  | append_singleton rows row earlier =>
    rw [collect_append_singleton]
    exact (flatMap_add_perm key row _).trans (earlier.append_right [row])

/-! ### Numbers within groups -/

/-- The number of every row among those with its key, counted on from what a counter holds. -/
def ordinals (key : Row → Key) (counter : Key → Nat) : List Row → List Nat
  | [] => []
  | row :: rest =>
    (counter (key row) + 1) ::
      ordinals key (Function.update counter (key row) (counter (key row) + 1)) rest

theorem length_ordinals (key : Row → Key) (counter : Key → Nat) (rows : List Row) :
    (ordinals key counter rows).length = rows.length := by
  induction rows generalizing counter with
  | nil => rfl
  | cons row rest later => rw [ordinals, List.length_cons, List.length_cons, later]

/-- The rows with one key are numbered without a gap, from the first number that is free. -/
theorem ordinals_of_key (key : Row → Key) (counter : Key → Nat) (rows : List Row)
    (wanted : Key) :
    ((rows.zip (ordinals key counter rows)).filter fun row => key row.1 = wanted).map Prod.snd =
      List.range' (counter wanted + 1) (rows.countP fun row => key row = wanted) := by
  induction rows generalizing counter with
  | nil => rfl
  | cons row rest later =>
    rw [ordinals, List.zip_cons_cons, List.filter_cons, List.countP_cons]
    by_cases hit : key row = wanted
    · subst hit
      have counted := later (Function.update counter (key row) (counter (key row) + 1))
      rw [Function.update_self] at counted
      simp only [decide_true, if_true, List.map_cons, counted, List.range'_succ]
    · have counted := later (Function.update counter (key row) (counter (key row) + 1))
      rw [Function.update_of_ne (Ne.symm hit)] at counted
      simp only [hit, decide_false, Bool.false_eq_true, if_false, counted, Nat.add_zero]

/-! ### Two keys in order -/

/-- Of two keys one of which is never behind the other, every value is taken equally often only if
they are the same everywhere. -/
theorem count_map_eq_iff {Place : Type} [AddCommGroup Place] [LinearOrder Place]
    [IsOrderedAddMonoid Place] {first second : Row → Place} {rows : List Row}
    (ordered : ∀ row ∈ rows, first row ≤ second row) :
    (∀ place, (rows.map first).count place = (rows.map second).count place) ↔
      ∀ row ∈ rows, first row = second row := by
  constructor
  · intro counts row member
    by_contra different
    have sums := (List.perm_iff_count.mpr counts).sum_eq
    have less := List.sum_lt_sum first second ordered
      ⟨row, member, lt_of_le_of_ne (ordered row member) different⟩
    exact less.ne sums
  · intro same place
    rw [List.map_congr_left same]

/-! ### Sums -/

section Sums

variable {Amount : Type} [AddCommMonoid Amount]

/-- An accumulator that amounts are added onto ends at their sum. -/
theorem foldl_add_eq_sum (amount : Row → Amount) (rows : List Row) :
    rows.foldl (fun total row => total + amount row) 0 = (rows.map amount).sum := by
  rw [List.sum_eq_foldl, List.foldl_map]

/-- The sums of the groups add up to the sum of all rows. -/
theorem sum_collect (key : Row → Key) (amount : Row → Amount) (rows : List Row) :
    ((collect key rows).map fun group => (group.2.map amount).sum).sum = (rows.map amount).sum := by
  have regrouped := ((flatMap_collect_perm key rows).map amount).sum_eq
  rw [List.map_flatMap, List.flatMap_def, List.sum_flatten, List.map_map] at regrouped
  exact regrouped

/-- The sum of the amounts of the rows that count. -/
def sumWhere (counts : Row → Bool) (amount : Row → Amount) (rows : List Row) : Amount :=
  ((rows.filter counts).map amount).sum

@[simp]
theorem sumWhere_nil (counts : Row → Bool) (amount : Row → Amount) :
    sumWhere counts amount [] = 0 := rfl

theorem sumWhere_cons (counts : Row → Bool) (amount : Row → Amount) (row : Row)
    (rest : List Row) :
    sumWhere counts amount (row :: rest) =
      (if counts row then amount row else 0) + sumWhere counts amount rest := by
  rw [sumWhere, sumWhere, List.filter_cons]
  split <;> simp

theorem sumWhere_append (counts : Row → Bool) (amount : Row → Amount) (first second : List Row) :
    sumWhere counts amount (first ++ second) =
      sumWhere counts amount first + sumWhere counts amount second := by
  rw [sumWhere, List.filter_append, List.map_append, List.sum_append]
  rfl

theorem sumWhere_perm (counts : Row → Bool) (amount : Row → Amount) {first second : List Row}
    (reordered : first.Perm second) :
    sumWhere counts amount first = sumWhere counts amount second :=
  ((reordered.filter counts).map amount).sum_eq

theorem sumWhere_congr {counts others : Row → Bool} (amount : Row → Amount) {rows : List Row}
    (same : ∀ row ∈ rows, counts row = others row) :
    sumWhere counts amount rows = sumWhere others amount rows := by
  rw [sumWhere, sumWhere, List.filter_congr same]

/-- The rows made of an item count for as much as the item does when it counts. -/
theorem sumWhere_flatMap {Item : Type} {counts : Row → Bool} {amount : Row → Amount}
    {itemCounts : Item → Bool} {itemAmount : Item → Amount} {rows : Item → List Row}
    {items : List Item}
    (same : ∀ item ∈ items,
      sumWhere counts amount (rows item) = if itemCounts item then itemAmount item else 0) :
    sumWhere counts amount (items.flatMap rows) = sumWhere itemCounts itemAmount items := by
  induction items with
  | nil => rfl
  | cons item rest later =>
    rw [List.flatMap_cons, sumWhere_append, sumWhere_cons, same item List.mem_cons_self,
      later fun other member => same other (List.mem_cons_of_mem _ member)]

/-- Rows that all count, or none of which does. -/
theorem sumWhere_uniform {counts : Row → Bool} (amount : Row → Amount) {rows : List Row}
    {all : Bool} (same : ∀ row ∈ rows, counts row = all) :
    sumWhere counts amount rows = if all then (rows.map amount).sum else 0 := by
  rw [sumWhere_congr amount same, sumWhere]
  cases all <;> simp

theorem sumWhere_split (counts test : Row → Bool) (amount : Row → Amount) (rows : List Row) :
    sumWhere counts amount rows =
      sumWhere (fun row => counts row && test row) amount rows +
        sumWhere (fun row => counts row && !test row) amount rows := by
  induction rows with
  | nil => simp
  | cons row rest later =>
    rw [sumWhere_cons, sumWhere_cons, sumWhere_cons, later]
    cases counts row <;> cases test row <;> simp [add_assoc, add_left_comm]

end Sums

end FieldService.Grouping
