/-
This file develops delimited text: lines of columns that are joined with separators, and text that
is split at them again.

Splitting loses nothing: a text is always what its parts are joined to (`join_split`). So a text
that is read as certain rows is the one they are written to (`eq_write_of_read`), and no other text
is read as these rows. Rows that are written are read back exactly if there is a row, every row
has a column, and no column contains one of the separators (`read_write_iff`).
-/

import Mathlib.Data.List.Basic

namespace FieldService.Delimited

variable {Symbol : Type} [DecidableEq Symbol]

/-! ### Splitting and joining -/

/-- Splits a text of which some symbols belong to a separator that has been found. -/
def splitFrom (separator : List Symbol) : Nat → List Symbol → List (List Symbol)
  | _, [] => [[]]
  | skipped + 1, _ :: rest => splitFrom separator skipped rest
  | 0, symbol :: rest =>
    if separator <+: symbol :: rest then [] :: splitFrom separator (separator.length - 1) rest
    else (splitFrom separator 0 rest).modifyHead (symbol :: ·)

/-- The parts between the occurrences of a separator, from left to right. -/
def split (separator text : List Symbol) : List (List Symbol) :=
  splitFrom separator 0 text

/-- Parts with a separator between any two. -/
def join (separator : List Symbol) (parts : List (List Symbol)) : List Symbol :=
  separator.intercalate parts

omit [DecidableEq Symbol] in
theorem join_cons_cons (separator first second : List Symbol) (others : List (List Symbol)) :
    join separator (first :: second :: others) =
      first ++ separator ++ join separator (second :: others) :=
  List.intercalate_cons_cons

theorem splitFrom_ne_nil (separator : List Symbol) (skipped : Nat) (text : List Symbol) :
    splitFrom separator skipped text ≠ [] := by
  induction text generalizing skipped with
  | nil => simp [splitFrom]
  | cons symbol rest inductionHypothesis =>
    cases skipped with
    | succ skipped => exact inductionHypothesis skipped
    | zero =>
      rw [splitFrom]
      split
      · simp
      · rw [ne_eq, List.modifyHead_eq_nil_iff]
        exact inductionHypothesis 0

theorem split_ne_nil (separator text : List Symbol) : split separator text ≠ [] :=
  splitFrom_ne_nil separator 0 text

omit [DecidableEq Symbol] in
theorem join_modifyHead (separator : List Symbol) (symbol : Symbol) {parts : List (List Symbol)}
    (some : parts ≠ []) :
    join separator (parts.modifyHead (symbol :: ·)) = symbol :: join separator parts := by
  cases parts with
  | nil => exact absurd rfl some
  | cons first rest => exact List.intercalate_cons_cons_left

theorem join_splitFrom {separator : List Symbol} (nonempty : separator ≠ []) (skipped : Nat)
    (text : List Symbol) :
    join separator (splitFrom separator skipped text) = text.drop skipped := by
  induction text generalizing skipped with
  | nil => simp [splitFrom, join]
  | cons symbol rest inductionHypothesis =>
    cases skipped with
    | succ skipped => rw [splitFrom, inductionHypothesis, List.drop_succ_cons]
    | zero =>
      rw [splitFrom, List.drop_zero]
      split
      · rename_i found
        obtain ⟨after, whole⟩ := found
        cases separator with
        | nil => exact absurd rfl nonempty
        | cons first others =>
          rw [join, List.intercalate_cons_of_ne_nil (splitFrom_ne_nil _ _ _), ← join,
            inductionHypothesis]
          rw [List.cons_append] at whole
          cases whole
          simp
      · rw [join_modifyHead _ _ (splitFrom_ne_nil _ _ _), inductionHypothesis, List.drop_zero]

/-- A text is what its parts are joined to. -/
theorem join_split {separator : List Symbol} (nonempty : separator ≠ []) (text : List Symbol) :
    join separator (split separator text) = text :=
  join_splitFrom nonempty 0 text

/-- Splitting at a single symbol. -/
theorem split_singleton (separator : Symbol) (text : List Symbol) :
    split [separator] text = text.splitOn separator := by
  rw [split]
  induction text with
  | nil => rfl
  | cons symbol rest inductionHypothesis =>
    rw [splitFrom, List.splitOn_cons_eq_if_modifyHead, List.length_singleton, Nat.sub_self,
      inductionHypothesis]
    simp only [List.prefix_cons_iff, List.cons.injEq, beq_iff_eq]
    refine if_congr ?_ rfl rfl
    simp [eq_comm]

/-- No part contains the symbol the text is split at. -/
theorem not_mem_of_mem_split {separator : Symbol} {text part : List Symbol}
    (member : part ∈ split [separator] text) : separator ∉ part := by
  rw [split] at member
  induction text generalizing part with
  | nil =>
    rw [splitFrom, List.mem_singleton] at member
    simp [member]
  | cons symbol rest inductionHypothesis =>
    rw [splitFrom, List.length_singleton, Nat.sub_self] at member
    split at member
    · obtain rfl | later := List.mem_cons.mp member
      · exact List.not_mem_nil
      · exact inductionHypothesis later
    · rename_i different
      cases parts : splitFrom [separator] 0 rest with
      | nil => exact absurd parts (splitFrom_ne_nil _ _ _)
      | cons first others =>
        rw [parts, List.modifyHead_cons] at member
        rw [parts] at inductionHypothesis
        obtain rfl | later := List.mem_cons.mp member
        · intro contained
          obtain rfl | within := List.mem_cons.mp contained
          · exact different ⟨rest, rfl⟩
          · exact inductionHypothesis List.mem_cons_self within
        · exact inductionHypothesis (List.mem_cons_of_mem _ later)

/-- Parts are told apart again exactly if there is one, and none contains the separator. -/
theorem split_join_iff (separator : Symbol) (parts : List (List Symbol)) :
    split [separator] (join [separator] parts) = parts ↔
      parts ≠ [] ∧ ∀ part ∈ parts, separator ∉ part := by
  constructor
  · intro same
    have some : parts ≠ [] := same ▸ split_ne_nil _ _
    exact ⟨some, fun part member => not_mem_of_mem_split (same.symm ▸ member)⟩
  · rintro ⟨some, clean⟩
    rw [split_singleton, join]
    exact List.splitOn_intercalate separator clean some

/-! ### Rows of columns -/

/-- The rows of a text, each split into its columns. -/
def read (lineSeparator columnSeparator text : List Symbol) : List (List (List Symbol)) :=
  (split lineSeparator text).map (split columnSeparator)

/-- Rows as a text. -/
def write (lineSeparator columnSeparator : List Symbol) (rows : List (List (List Symbol))) :
    List Symbol :=
  join lineSeparator (rows.map (join columnSeparator))

omit [DecidableEq Symbol] in
/-- Lines that each end with the separator are the rows, and one separator more. -/
theorem flatMap_join_append (lineSeparator columnSeparator : List Symbol)
    {rows : List (List (List Symbol))} (some : rows ≠ []) :
    (rows.flatMap fun row => join columnSeparator row ++ lineSeparator) =
      write lineSeparator columnSeparator rows ++ lineSeparator := by
  induction rows with
  | nil => exact absurd rfl some
  | cons first rest inductionHypothesis =>
    cases rest with
    | nil => simp [write, join]
    | cons second others =>
      rw [List.flatMap_cons, inductionHypothesis (List.cons_ne_nil _ _)]
      simp only [write, List.map_cons, join_cons_cons, List.append_assoc]

/-- The lines of a text are those of the rows it is read as. -/
theorem split_of_read {lineSeparator columnSeparator text : List Symbol}
    (column : columnSeparator ≠ []) {rows : List (List (List Symbol))}
    (reads : read lineSeparator columnSeparator text = rows) :
    split lineSeparator text = rows.map (join columnSeparator) := by
  rw [← reads, read, List.map_map]
  exact (List.map_id'' (join_split column) _).symm

/-- Only the text that rows are written to is read as these rows. -/
theorem eq_write_of_read {lineSeparator columnSeparator : List Symbol}
    (line : lineSeparator ≠ []) (column : columnSeparator ≠ []) {text : List Symbol}
    {rows : List (List (List Symbol))}
    (reads : read lineSeparator columnSeparator text = rows) :
    text = write lineSeparator columnSeparator rows := by
  rw [write, ← split_of_read column reads, join_split line]

omit [DecidableEq Symbol] in
/-- A symbol is in a line exactly if it is in a column, or separates two. -/
theorem mem_join_iff (separator symbol : Symbol) (parts : List (List Symbol)) :
    symbol ∈ join [separator] parts ↔
      (∃ part ∈ parts, symbol ∈ part) ∨ symbol = separator ∧ 1 < parts.length := by
  induction parts with
  | nil => simp [join]
  | cons first rest inductionHypothesis =>
    cases rest with
    | nil => simp [join]
    | cons second others =>
      rw [join_cons_cons, List.mem_append, List.mem_append, inductionHypothesis,
        List.mem_singleton]
      simp only [List.mem_cons, exists_eq_or_imp, List.length_cons]
      have several : 1 < others.length + 1 + 1 := by omega
      simp only [several, and_true]
      by_cases same : symbol = separator
      · simp [same]
      · simp [same]

/-- Rows are read back exactly if there is one, every row has a column, and no column contains a
separator. -/
theorem read_write_iff {lineSeparator columnSeparator : Symbol}
    (different : lineSeparator ≠ columnSeparator) (rows : List (List (List Symbol))) :
    read [lineSeparator] [columnSeparator] (write [lineSeparator] [columnSeparator] rows) = rows ↔
      rows ≠ [] ∧ ∀ row ∈ rows, row ≠ [] ∧
        ∀ column ∈ row, lineSeparator ∉ column ∧ columnSeparator ∉ column := by
  have lines : (∀ line ∈ rows.map (join [columnSeparator]), lineSeparator ∉ line) ↔
      ∀ row ∈ rows, ∀ column ∈ row, lineSeparator ∉ column := by
    simp only [List.forall_mem_map, mem_join_iff, different, false_and, or_false, not_exists,
      not_and]
  have rowByRow : rows.map (split [columnSeparator] ∘ join [columnSeparator]) = rows.map id ↔
      ∀ row ∈ rows, row ≠ [] ∧ ∀ column ∈ row, columnSeparator ∉ column := by
    rw [List.map_inj_left]
    exact forall₂_congr fun row _ => split_join_iff columnSeparator row
  rw [List.map_id] at rowByRow
  constructor
  · intro reads
    have split := split_of_read (List.cons_ne_nil columnSeparator []) reads
    obtain ⟨some, clean⟩ := (split_join_iff lineSeparator _).mp split
    rw [read, split, List.map_map] at reads
    refine ⟨fun none => some (by rw [none, List.map_nil]), fun row member => ?_⟩
    obtain ⟨wide, own⟩ := rowByRow.mp reads row member
    exact ⟨wide, fun column within => ⟨lines.mp clean row member column within, own column within⟩⟩
  · rintro ⟨some, clean⟩
    have split := (split_join_iff lineSeparator (rows.map (join [columnSeparator]))).mpr
      ⟨by simpa using some, lines.mpr fun row member column within =>
        ((clean row member).2 column within).1⟩
    rw [read, write, split, List.map_map, rowByRow]
    exact fun row member => ⟨(clean row member).1, fun column within =>
      ((clean row member).2 column within).2⟩

end FieldService.Delimited
