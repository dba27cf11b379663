/-
This file develops tables: lists of rows no two of which have the same key, as a database
table with a unique column is.

Saving a row writes it over the row with its key, or appends it when there is none. What a
saving does to a lookup and to a total over the rows is all a proof about tables needs, so
the two are stated once here: a lookup changes at the saved key only, and a total changes by
the share of the saved row less the share of the row it replaces.
-/

import Mathlib.Algebra.BigOperators.Group.List.Basic
import Mathlib.Data.List.Nodup
import Mathlib.Tactic.Abel

namespace FieldService

/-- Rows whose keys are distinct. -/
structure Table (Key Row : Type) (key : Row → Key) where
  rows : List Row
  distinct : (rows.map key).Nodup

namespace Table

variable {Key Row : Type} {key : Row → Key}

/-! ### Saving and finding -/

def empty : Table Key Row key := ⟨[], List.nodup_nil⟩

variable [DecidableEq Key]

/-- The row with a key. -/
def find (table : Table Key Row key) (wanted : Key) : Option Row :=
  table.rows.find? fun row => key row = wanted

/-- Writes a row over the one with its key, or appends it. -/
def upsert (key : Row → Key) (row : Row) : List Row → List Row
  | [] => [row]
  | old :: rest => if key old = key row then row :: rest else old :: upsert key row rest

theorem map_key_upsert (row : Row) (rows : List Row) :
    (upsert key row rows).map key =
      if key row ∈ rows.map key then rows.map key else rows.map key ++ [key row] := by
  induction rows with
  | nil => simp [upsert]
  | cons old rest later =>
    by_cases same : key old = key row
    · rw [upsert, if_pos same, if_pos (by simp [same]), List.map_cons, List.map_cons, same]
    · rw [upsert, if_neg same, List.map_cons, later, List.map_cons]
      by_cases member : key row ∈ rest.map key
      · rw [if_pos member, if_pos (List.mem_cons_of_mem _ member)]
      · rw [if_neg member, if_neg (by simpa [Ne.symm same] using member), List.cons_append]

/-- Saves a row. -/
def save (table : Table Key Row key) (row : Row) : Table Key Row key where
  rows := upsert key row table.rows
  distinct := by
    rw [map_key_upsert]
    split
    · exact table.distinct
    · rename_i absent
      exact List.Nodup.append table.distinct (List.nodup_singleton _)
        (List.disjoint_singleton.mpr absent)

/-- Rewrites every row, leaving its key alone. -/
def rewrite (table : Table Key Row key) (change : Row → Row)
    (keeps : ∀ row, key (change row) = key row) : Table Key Row key where
  rows := table.rows.map change
  distinct := by
    rw [List.map_map, show key ∘ change = key from funext keeps]
    exact table.distinct

theorem find_rewrite (table : Table Key Row key) {change : Row → Row}
    (keeps : ∀ row, key (change row) = key row) (wanted : Key) :
    (table.rewrite change keeps).find wanted = (table.find wanted).map change := by
  rw [find, rewrite, List.find?_map, find]
  congr 2
  funext row
  rw [Function.comp_apply, keeps]

theorem find_key (table : Table Key Row key) {wanted : Key} {row : Row}
    (found : table.find wanted = some row) : row ∈ table.rows ∧ key row = wanted :=
  ⟨List.mem_of_find?_eq_some found, by simpa using List.find?_some found⟩

/-- A row of the table is found by its key. -/
theorem find_of_mem (table : Table Key Row key) {row : Row} (member : row ∈ table.rows) :
    table.find (key row) = some row := by
  cases found : table.find (key row) with
  | none =>
    have absent := List.find?_eq_none.mp found row member
    simp at absent
  | some other =>
    obtain ⟨otherMember, sameKey⟩ := table.find_key found
    exact congrArg some (List.inj_on_of_nodup_map table.distinct otherMember member sameKey)

/-- Saving changes what is found at the saved key, and nowhere else. -/
theorem find_save (table : Table Key Row key) (row : Row) (wanted : Key) :
    (table.save row).find wanted = if key row = wanted then some row else table.find wanted := by
  show (upsert key row table.rows).find? (fun other => key other = wanted) =
    if key row = wanted then some row else table.rows.find? fun other => key other = wanted
  induction table.rows with
  | nil =>
    rw [upsert, List.find?_singleton, List.find?_nil]
    simp
  | cons old rest later =>
    by_cases same : key old = key row
    · rw [upsert, if_pos same, List.find?_cons, List.find?_cons, same]
      by_cases hit : key row = wanted <;> simp [hit]
    · rw [upsert, if_neg same, List.find?_cons, List.find?_cons, later]
      by_cases hit : key old = wanted
      · have other : key row ≠ wanted := fun rowHit => same (hit.trans rowHit.symm)
        simp [hit, other]
      · simp [hit]

/-- A saved row is there, and every other row was there before. -/
theorem mem_save (table : Table Key Row key) {row other : Row}
    (member : other ∈ (table.save row).rows) : other = row ∨ other ∈ table.rows := by
  have found := (table.save row).find_of_mem member
  rw [find_save] at found
  split at found
  · exact Or.inl (Option.some.inj found).symm
  · exact Or.inr (table.find_key found).1

theorem mem_iff_find (table : Table Key Row key) (row : Row) :
    row ∈ table.rows ↔ table.find (key row) = some row :=
  ⟨table.find_of_mem, fun found => (table.find_key found).1⟩

theorem mem_save_iff (table : Table Key Row key) (row other : Row) :
    other ∈ (table.save row).rows ↔ other = row ∨ (other ∈ table.rows ∧ key other ≠ key row) := by
  rw [mem_iff_find, find_save, mem_iff_find]
  by_cases same : key row = key other
  · rw [if_pos same, Option.some.injEq, eq_comm]
    simp [same]
  · rw [if_neg same]
    refine ⟨fun found => Or.inr ⟨found, Ne.symm same⟩, ?_⟩
    rintro (rfl | ⟨found, -⟩)
    · exact absurd rfl same
    · exact found

/-- Saving a row that is there changes nothing. -/
theorem save_of_find_eq_some (table : Table Key Row key) {row : Row}
    (found : table.find (key row) = some row) : table.save row = table := by
  obtain ⟨rows, distinct⟩ := table
  have same : upsert key row rows = rows := by
    replace found : rows.find? (fun other => key other = key row) = some row := found
    clear distinct
    induction rows with
    | nil => cases found
    | cons old rest later =>
      by_cases hit : key old = key row
      · rw [List.find?_cons_of_pos (by simpa using hit), Option.some.injEq] at found
        rw [upsert, if_pos hit, found]
      · rw [List.find?_cons_of_neg (by simpa using hit)] at found
        rw [upsert, if_neg hit, later found]
  show Table.mk (upsert key row rows) _ = Table.mk rows distinct
  congr

/-- A saved row is looked at in the place of the one it replaces. -/
theorem any_save (table : Table Key Row key) (row : Row) (test : Row → Bool) :
    (table.save row).rows.any test =
      (test row || table.rows.any fun other => decide (key other ≠ key row) && test other) := by
  rw [Bool.eq_iff_iff]
  simp only [List.any_eq_true, mem_save_iff, Bool.or_eq_true, Bool.and_eq_true, decide_eq_true_eq]
  constructor
  · rintro ⟨other, rfl | ⟨member, different⟩, passes⟩
    · exact Or.inl passes
    · exact Or.inr ⟨other, member, different, passes⟩
  · rintro (passes | ⟨other, member, different, passes⟩)
    · exact ⟨row, Or.inl rfl, passes⟩
    · exact ⟨other, Or.inr ⟨member, different⟩, passes⟩

/-- A row with a new key is appended. -/
theorem rows_save_of_find_eq_none (table : Table Key Row key) {row : Row}
    (absent : table.find (key row) = none) : (table.save row).rows = table.rows ++ [row] := by
  show upsert key row table.rows = table.rows ++ [row]
  have other : ∀ old ∈ table.rows, key old ≠ key row := by
    simpa using List.find?_eq_none.mp absent
  generalize table.rows = rows at other ⊢
  induction rows with
  | nil => rfl
  | cons old rest later =>
    rw [upsert, if_neg (other old List.mem_cons_self),
      later fun row member => other row (List.mem_cons_of_mem _ member), List.cons_append]

/-- A row whose key is there takes the place of the one with it. -/
theorem rows_save_of_find_eq_some (table : Table Key Row key) {row old : Row}
    (found : table.find (key row) = some old) :
    (table.save row).rows =
      table.rows.map fun other => if key other = key row then row else other := by
  obtain ⟨rows, distinct⟩ := table
  show upsert key row rows = rows.map fun other => if key other = key row then row else other
  replace found : rows.find? (fun other => key other = key row) = some old := found
  induction rows with
  | nil => cases found
  | cons first rest later =>
    obtain ⟨absent, restDistinct⟩ := List.nodup_cons.mp distinct
    by_cases hit : key first = key row
    · have kept : ∀ other ∈ rest, (if key other = key row then row else other) = other := by
        intro other member
        refine if_neg fun same => absent ?_
        rw [hit, ← same]
        exact List.mem_map_of_mem member
      rw [upsert, if_pos hit, List.map_cons, if_pos hit, List.map_congr_left kept, List.map_id']
    · rw [List.find?_cons_of_neg (by simpa using hit)] at found
      rw [upsert, if_neg hit, List.map_cons, if_neg hit, later restDistinct found]

/-- Saving a row that looks like the one in its place changes no view of the table. -/
theorem map_save_of_mem {View : Type} (table : Table Key Row key) {view : Row → View}
    (keyed : ∀ first second, view first = view second → key first = key second) {row : Row}
    (seen : view row ∈ table.rows.map view) :
    (table.save row).rows.map view = table.rows.map view := by
  obtain ⟨old, member, same⟩ := List.mem_map.mp seen
  have found : table.find (key row) = some old := by
    rw [← keyed old row same]
    exact table.find_of_mem member
  rw [table.rows_save_of_find_eq_some found, List.map_map]
  refine List.map_congr_left fun other otherMember => ?_
  rw [Function.comp_apply]
  split
  · rename_i sameKey
    rw [List.inj_on_of_nodup_map table.distinct otherMember member
      (sameKey.trans (keyed old row same).symm), same]
  · rfl

/-- The rows with a key that pass a test are the one that is found, if it does. -/
theorem filter_key (table : Table Key Row key) (wanted : Key) (test : Row → Bool) :
    table.rows.filter (fun row => decide (key row = wanted) && test row) =
      ((table.find wanted).filter test).toList := by
  obtain ⟨rows, distinct⟩ := table
  show rows.filter _ = ((rows.find? fun row => key row = wanted).filter test).toList
  induction rows with
  | nil => rfl
  | cons first rest later =>
    obtain ⟨absent, restDistinct⟩ := List.nodup_cons.mp distinct
    by_cases hit : key first = wanted
    · have missing : rest.filter (fun row => decide (key row = wanted) && test row) = [] := by
        refine List.filter_eq_nil_iff.mpr fun row member both => absent ?_
        rw [Bool.and_eq_true, decide_eq_true_iff] at both
        rw [hit, ← both.1]
        exact List.mem_map_of_mem member
      rw [List.find?_cons_of_pos (by simpa using hit), List.filter_cons, missing]
      rw [decide_eq_true hit, Bool.true_and, Option.filter_some]
      cases test first <;> rfl
    · rw [List.find?_cons_of_neg (by simpa using hit), List.filter_cons, if_neg (by simp [hit]),
        later restDistinct]

/-! ### Saving many rows -/

/-- Saves rows one after another. -/
def saveAll (table : Table Key Row key) (rows : List Row) : Table Key Row key :=
  rows.foldl save table

/-- What is saved last at a key is found there; rows whose keys are distinct are all found. -/
theorem find_saveAll (table : Table Key Row key) {rows : List Row}
    (distinct : (rows.map key).Nodup) (wanted : Key) :
    (table.saveAll rows).find wanted =
      (rows.find? fun row => key row = wanted).or (table.find wanted) := by
  induction rows generalizing table with
  | nil => rfl
  | cons first rest later =>
    obtain ⟨absent, restDistinct⟩ := List.nodup_cons.mp distinct
    rw [show table.saveAll (first :: rest) = (table.save first).saveAll rest from rfl,
      later (table.save first) restDistinct, find_save]
    by_cases hit : key first = wanted
    · have missing : rest.find? (fun row => key row = wanted) = none := by
        refine List.find?_eq_none.mpr fun row member same => absent ?_
        rw [hit, ← of_decide_eq_true same]
        exact List.mem_map_of_mem member
      rw [if_pos hit, missing, List.find?_cons_of_pos (by simpa using hit)]
      rfl
    · rw [if_neg hit, List.find?_cons_of_neg (by simpa using hit)]

theorem mem_saveAll_of_mem (table : Table Key Row key) {rows : List Row}
    (distinct : (rows.map key).Nodup) {row : Row} (member : row ∈ rows) :
    row ∈ (table.saveAll rows).rows := by
  have found : rows.find? (fun other => key other = key row) = some row :=
    (⟨rows, distinct⟩ : Table Key Row key).find_of_mem member
  rw [mem_iff_find, find_saveAll table distinct, found]
  rfl

/-- What is there after saving rows is one of them, or has been there and is none of them. -/
theorem mem_saveAll_iff (table : Table Key Row key) {rows : List Row}
    (distinct : (rows.map key).Nodup) (row : Row) :
    row ∈ (table.saveAll rows).rows ↔
      row ∈ rows ∨ (row ∈ table.rows ∧ ∀ saved ∈ rows, key saved ≠ key row) := by
  have asTable : ∀ saved ∈ rows, rows.find? (fun other => key other = key saved) = some saved :=
    fun saved => (⟨rows, distinct⟩ : Table Key Row key).find_of_mem
  constructor
  · intro member
    have found := (table.saveAll rows).find_of_mem member
    rw [find_saveAll table distinct] at found
    obtain missing | ⟨saved, isSaved⟩ :=
      Option.eq_none_or_eq_some (rows.find? fun other => key other = key row)
    · rw [missing, Option.none_or] at found
      exact Or.inr ⟨(table.find_key found).1, by simpa using List.find?_eq_none.mp missing⟩
    · rw [isSaved] at found
      cases found
      exact Or.inl (List.mem_of_find?_eq_some isSaved)
  · rintro (saved | ⟨member, other⟩)
    · exact table.mem_saveAll_of_mem distinct saved
    · have missing : rows.find? (fun saved => key saved = key row) = none :=
        List.find?_eq_none.mpr (by simpa using other)
      rw [mem_iff_find, find_saveAll table distinct, missing, Option.none_or]
      exact table.find_of_mem member

theorem map_saveAll_of_mem {View : Type} (table : Table Key Row key) {view : Row → View}
    (keyed : ∀ first second, view first = view second → key first = key second)
    {rows : List Row} (seen : ∀ row ∈ rows, view row ∈ table.rows.map view) :
    (table.saveAll rows).rows.map view = table.rows.map view := by
  induction rows generalizing table with
  | nil => rfl
  | cons row rest later =>
    have saved := table.map_save_of_mem keyed (seen row List.mem_cons_self)
    refine (later (table.save row) fun other member => ?_).trans saved
    rw [saved]
    exact seen other (List.mem_cons_of_mem _ member)

/-- Among rows of the table a key is found at most once. -/
theorem countP_key [DecidableEq Row] (table : Table Key Row key) {part : List Row}
    (inside : part.Sublist table.rows) {row : Row} (member : row ∈ table.rows)
    (test : Row → Bool) :
    part.countP (fun other => test other && decide (key other = key row)) =
      if row ∈ part ∧ test row = true then 1 else 0 := by
  have same : ∀ other ∈ part,
      (test other && decide (key other = key row)) = true ↔ (test row && other == row) = true := by
    intro other member'
    have sameRow : key other = key row ↔ other = row :=
      ⟨List.inj_on_of_nodup_map table.distinct (inside.subset member') member, congrArg key⟩
    simp only [Bool.and_eq_true, decide_eq_true_eq, beq_iff_eq, sameRow]
    refine ⟨?_, ?_⟩ <;> rintro ⟨tested, rfl⟩ <;> exact ⟨tested, rfl⟩
  rw [List.countP_congr same]
  rcases test row with _ | _
  · simp
  · have distinct : part.Nodup := (List.Nodup.of_map key table.distinct).sublist inside
    simpa [List.count] using distinct.count

/-! ### Totals -/

section Totals

variable {Amount : Type} [AddCommMonoid Amount]

/-- The sum of the amounts of the rows that count. -/
def total (table : Table Key Row key) (counts : Row → Bool) (amount : Row → Amount) : Amount :=
  ((table.rows.filter counts).map amount).sum

/-- What a row, if there is one, adds to a total. -/
def share (counts : Row → Bool) (amount : Row → Amount) : Option Row → Amount
  | none => 0
  | some row => if counts row then amount row else 0

variable (counts : Row → Bool) (amount : Row → Amount)

/-- A row inside a part of the table adds to the part what it adds to the whole. -/
theorem share_inside {part : Row → Bool} {row : Option Row}
    (inside : ∀ present ∈ row, part present = true) :
    share (fun other => part other && counts other) amount row = share counts amount row := by
  rcases row with _ | present
  · rfl
  · show (if part present && counts present then amount present else 0) = _
    rw [inside present rfl, Bool.true_and]
    rfl

/-- A row outside a part of the table adds nothing to it. -/
theorem share_outside {part : Row → Bool} {row : Option Row}
    (outside : ∀ present ∈ row, part present = false) :
    share (fun other => part other && counts other) amount row = 0 := by
  rcases row with _ | present
  · rfl
  · show (if part present && counts present then amount present else 0) = 0
    rw [outside present rfl, Bool.false_and, if_neg Bool.false_ne_true]

omit [DecidableEq Key] in
theorem sum_cons (row : Row) (rest : List Row) :
    (((row :: rest).filter counts).map amount).sum =
      share counts amount (some row) + ((rest.filter counts).map amount).sum := by
  rw [List.filter_cons, share]
  split
  · rw [List.map_cons, List.sum_cons]
  · rw [zero_add]

/-- Saving a row adds its share and takes away the share of the row it replaces. -/
theorem total_save (table : Table Key Row key) (row : Row) :
    (table.save row).total counts amount + share counts amount (table.find (key row)) =
      table.total counts amount + share counts amount (some row) := by
  show (((upsert key row table.rows).filter counts).map amount).sum +
      share counts amount (table.rows.find? fun other => key other = key row) =
    ((table.rows.filter counts).map amount).sum + share counts amount (some row)
  induction table.rows with
  | nil =>
    rw [upsert, sum_cons, List.find?_nil]
    simp [share]
  | cons old rest later =>
    by_cases same : key old = key row
    · rw [upsert, if_pos same, sum_cons, sum_cons, List.find?_cons_of_pos (by simpa using same)]
      abel
    · rw [upsert, if_neg same, sum_cons, sum_cons, List.find?_cons_of_neg (by simpa using same),
        add_assoc, add_assoc, later]

/-- Saving many rows adds their shares and takes away those of the rows they replace. -/
theorem total_saveAll (table : Table Key Row key) {rows : List Row}
    (distinct : (rows.map key).Nodup) :
    (table.saveAll rows).total counts amount +
        (rows.map fun row => share counts amount (table.find (key row))).sum =
      table.total counts amount + (rows.map fun row => share counts amount (some row)).sum := by
  induction rows generalizing table with
  | nil => rfl
  | cons first rest later =>
    obtain ⟨absent, restDistinct⟩ := List.nodup_cons.mp distinct
    have untouched : rest.map (fun row => share counts amount ((table.save first).find (key row))) =
        rest.map fun row => share counts amount (table.find (key row)) := by
      refine List.map_congr_left fun row member => ?_
      rw [find_save, if_neg]
      intro same
      rw [same] at absent
      exact absent (List.mem_map_of_mem member)
    have ofRest := later (table.save first) restDistinct
    have ofFirst := table.total_save counts amount first
    rw [untouched] at ofRest
    rw [show table.saveAll (first :: rest) = (table.save first).saveAll rest from rfl,
      List.map_cons, List.map_cons, List.sum_cons, List.sum_cons]
    calc ((table.save first).saveAll rest).total counts amount +
          (share counts amount (table.find (key first)) +
            (rest.map fun row => share counts amount (table.find (key row))).sum)
        = ((table.save first).total counts amount +
            (rest.map fun row => share counts amount (some row)).sum) +
          share counts amount (table.find (key first)) := by
          rw [← ofRest]
          abel
      _ = table.total counts amount + (share counts amount (some first) +
            (rest.map fun row => share counts amount (some row)).sum) := by
          rw [add_right_comm, ofFirst]
          abel

omit [DecidableEq Key] in
/-- Rewriting rows keeps a total when it keeps what each row adds. -/
theorem total_rewrite (table : Table Key Row key) {change : Row → Row}
    (keeps : ∀ row, key (change row) = key row)
    (sameCounts : ∀ row ∈ table.rows, counts (change row) = counts row)
    (sameAmount : ∀ row ∈ table.rows, amount (change row) = amount row) :
    (table.rewrite change keeps).total counts amount = table.total counts amount := by
  unfold total rewrite
  rw [List.filter_map, List.map_map]
  have filtered : table.rows.filter (counts ∘ change) = table.rows.filter counts :=
    List.filter_congr sameCounts
  rw [filtered]
  refine congrArg List.sum (List.map_congr_left fun row member => ?_)
  exact sameAmount row (List.mem_of_mem_filter member)

end Totals

/-! ### Numbered rows -/

/-- A number no row has. -/
def next {key : Row → Nat} (table : Table Nat Row key) : Nat :=
  (table.rows.map key).foldr (fun number bound => max (number + 1) bound) 0

theorem find_next {key : Row → Nat} (table : Table Nat Row key) :
    table.find table.next = none := by
  have below : ∀ rows : List Row, ∀ row ∈ rows,
      key row < (rows.map key).foldr (fun number bound => max (number + 1) bound) 0 := by
    intro rows
    induction rows with
    | nil => simp
    | cons first rest later =>
      intro row member
      rw [List.map_cons, List.foldr_cons]
      obtain rfl | laterMember := List.mem_cons.mp member
      · omega
      · have bounded := later row laterMember
        omega
  refine List.find?_eq_none.mpr fun row member => ?_
  have different : key row ≠ table.next := Nat.ne_of_lt (below table.rows row member)
  simpa using different

end Table

end FieldService
