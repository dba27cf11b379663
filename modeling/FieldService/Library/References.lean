/-
This file develops references between tables: every row of one table that counts names a row
of another by its key.

A total over the referring rows is then a total over the rows they refer to, in which each
counts for what refers to it. A table can also be read by someone to whom only part of its rows
matters; what is saved in it, is saved in what they read.
-/

import FieldService.Library.Grouping
import FieldService.Library.Table

namespace FieldService

open Grouping

variable {Row Key Amount : Type} [AddCommMonoid Amount] [DecidableEq Key]

/-- A sum is split by the keys its rows refer to. -/
theorem Grouping.sumWhere_reference {counts : Row → Bool} {amount : Row → Amount}
    {reference : Row → Option Key} {keys : List Key} (distinct : keys.Nodup) {rows : List Row}
    (refers : ∀ row ∈ rows, counts row = true → ∃ key ∈ keys, reference row = some key) :
    sumWhere counts amount rows =
      (keys.map fun key =>
        sumWhere (fun row => counts row && decide (reference row = some key)) amount rows).sum := by
  induction rows with
  | nil => simp
  | cons row rest later =>
    have ofRest := later fun other member => refers other (List.mem_cons_of_mem _ member)
    simp only [sumWhere_cons, List.sum_map_add, ← ofRest]
    congr 1
    by_cases counted : counts row = true
    · obtain ⟨wanted, member, referred⟩ := refers row List.mem_cons_self counted
      have single : (fun key => if (counts row && decide (reference row = some key)) = true
          then amount row else 0) = fun key => if key = wanted then amount row else 0 := by
        funext key
        simp [counted, referred, eq_comm]
      rw [if_pos counted, single, List.sum_map_ite, List.filter_eq, distinct.count, if_pos member]
      simp
    · simp [counted]

/-- Rows that refer to a table have together what its rows have, when each of these counts for
what refers to it. -/
theorem Table.total_reference {Referred ReferringKey : Type} {key : Referred → Key}
    {ownKey : Row → ReferringKey} (referring : Table ReferringKey Row ownKey)
    (referred : Table Key Referred key) (reference : Row → Option Key) {counts : Row → Bool}
    {amount : Row → Amount} {referredCounts : Referred → Bool}
    {referredAmount : Referred → Amount}
    (refers : ∀ row ∈ referring.rows, counts row = true →
      ∃ other ∈ referred.rows, reference row = some (key other))
    (same : ∀ other ∈ referred.rows,
      referring.total (fun row => counts row && decide (reference row = some (key other))) amount =
        if referredCounts other then referredAmount other else 0) :
    referring.total counts amount = referred.total referredCounts referredAmount := by
  have split : referring.total counts amount =
      ((referred.rows.map key).map fun wanted =>
        referring.total (fun row => counts row && decide (reference row = some wanted))
          amount).sum :=
    sumWhere_reference referred.distinct fun row member counted => by
      obtain ⟨other, present, names⟩ := refers row member counted
      exact ⟨key other, List.mem_map_of_mem present, names⟩
  rw [split, List.map_map]
  refine Eq.trans (congrArg List.sum (List.map_congr_left same)) ?_
  clear split same refers
  show _ = sumWhere referredCounts referredAmount referred.rows
  induction referred.rows with
  | nil => rfl
  | cons other rest later => rw [List.map_cons, List.sum_cons, later, sumWhere_cons]

/-- What rows add to a total together. -/
theorem Table.sum_share (counts : Row → Bool) (amount : Row → Amount) (rows : List Row) :
    (rows.map fun row => Table.share counts amount (some row)).sum =
      sumWhere counts amount rows := by
  induction rows with
  | nil => rfl
  | cons row rest later => rw [List.map_cons, List.sum_cons, later, sumWhere_cons, share]

omit [DecidableEq Key] in
/-- A total over rows of which at most one counts is what that one has. -/
theorem Table.total_unique {ownKey : Row → Key} (table : Table Key Row ownKey)
    {counts : Row → Bool} (amount : Row → Amount)
    (unique : ∀ first ∈ table.rows, ∀ second ∈ table.rows, counts first = true →
      counts second = true → first = second) :
    table.total counts amount = ((table.rows.find? counts).map amount).getD 0 := by
  have distinct : table.rows.Nodup := List.Nodup.of_map ownKey table.distinct
  show ((table.rows.filter counts).map amount).sum = _
  generalize table.rows = rows at distinct unique
  induction rows with
  | nil => rfl
  | cons row rest later =>
    obtain ⟨absent, restDistinct⟩ := List.nodup_cons.mp distinct
    by_cases counted : counts row = true
    · have missing : rest.filter counts = [] := by
        refine List.filter_eq_nil_iff.mpr fun other member otherCounts => absent ?_
        rw [unique row List.mem_cons_self other (List.mem_cons_of_mem _ member) counted otherCounts]
        exact member
      rw [List.filter_cons_of_pos counted, List.find?_cons_of_pos counted, missing]
      simp
    · rw [List.filter_cons_of_neg counted, List.find?_cons_of_neg counted]
      exact later restDistinct fun first firstMember second secondMember =>
        unique first (List.mem_cons_of_mem _ firstMember) second
          (List.mem_cons_of_mem _ secondMember)

/-! ### Parts of rows -/

namespace Table

variable {Part : Type} {key : Row → Key} {partKey : Part → Key}

/-- The table as it is read when only a part of its rows matters. -/
def image (part : Row → Part) (keeps : ∀ row, partKey (part row) = key row)
    (table : Table Key Row key) : Table Key Part partKey where
  rows := table.rows.map part
  distinct := by
    rw [List.map_map, show partKey ∘ part = key from funext keeps]
    exact table.distinct

theorem map_upsert {part : Row → Part} (keeps : ∀ row, partKey (part row) = key row) (row : Row)
    (rows : List Row) :
    (upsert key row rows).map part = upsert partKey (part row) (rows.map part) := by
  induction rows with
  | nil => rfl
  | cons old rest later =>
    rw [List.map_cons, upsert, upsert, keeps, keeps]
    split
    · rfl
    · rw [List.map_cons, later]

theorem image_save {part : Row → Part} (keeps : ∀ row, partKey (part row) = key row)
    (table : Table Key Row key) (row : Row) :
    (table.save row).image part keeps = (table.image part keeps).save (part row) := by
  rw [save, image, save, mk.injEq]
  exact map_upsert keeps row table.rows

theorem image_saveAll {part : Row → Part} (keeps : ∀ row, partKey (part row) = key row)
    (table : Table Key Row key) (rows : List Row) :
    (table.saveAll rows).image part keeps = (table.image part keeps).saveAll (rows.map part) := by
  induction rows generalizing table with
  | nil => rfl
  | cons row rest later =>
    refine (later (table.save row)).trans ?_
    rw [image_save]
    rfl

theorem find_image (part : Row → Part) (keeps : ∀ row, partKey (part row) = key row)
    (table : Table Key Row key) (wanted : Key) :
    (table.image part keeps).find wanted = (table.find wanted).map part := by
  rw [find, image, List.find?_map, find]
  congr 2
  funext row
  rw [Function.comp_apply, keeps]

omit [DecidableEq Key] in
theorem total_image (part : Row → Part) (keeps : ∀ row, partKey (part row) = key row)
    (table : Table Key Row key) (counts : Part → Bool) (amount : Part → Amount) :
    (table.image part keeps).total counts amount =
      table.total (fun row => counts (part row)) fun row => amount (part row) := by
  rw [total, total, image, List.filter_map, List.map_map]
  rfl

/-- Saving rows whose parts are there already changes no part. -/
theorem image_saveAll_of_find (part : Row → Part) (keeps : ∀ row, partKey (part row) = key row)
    (table : Table Key Row key) {rows : List Row}
    (found : ∀ row ∈ rows, (table.image part keeps).find (key row) = some (part row)) :
    (table.saveAll rows).image part keeps = table.image part keeps := by
  rw [image_saveAll]
  induction rows with
  | nil => rfl
  | cons row rest later =>
    have there : (table.image part keeps).find (partKey (part row)) = some (part row) := by
      rw [keeps]
      exact found row List.mem_cons_self
    refine Eq.trans ?_ (later fun other member => found other (List.mem_cons_of_mem _ member))
    exact congrArg (·.saveAll (rest.map part)) (save_of_find_eq_some _ there)

theorem image_save_of_find (part : Row → Part) (keeps : ∀ row, partKey (part row) = key row)
    (table : Table Key Row key) {row : Row}
    (found : (table.image part keeps).find (key row) = some (part row)) :
    (table.save row).image part keeps = table.image part keeps := by
  show (table.saveAll [row]).image part keeps = _
  exact image_saveAll_of_find part keeps table (List.forall_mem_singleton.mpr found)

end Table

end FieldService
