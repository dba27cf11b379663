/-
This file settles when replacing notes in a technical report is all or nothing.

New notes are written one after another, each over the first note with its id, and the check whether
there is such a note is made in the same loop. What a loop has done is described by what was given
last for each id (`replaceNotes_append`). So new notes that are all there are written as they should
be, unless the report has an id twice; but once one of them is not there, those before it have
already been written over the notes of the report.
-/

import Mathlib.Data.List.TakeWhile
import FieldService.Library.Grouping
import FieldService.Orders.Quantities

namespace FieldService.Orders.TechnicalReport

open Grouping

/-! ### All or nothing -/

/-- The report has a note with the id. -/
def knows (report : TechnicalReport) (newNote : TechnicalNoteDto) : Bool :=
  report.notes.any (·.id = newNote.id)

/-- The last of some notes with an id. -/
def lastGiven (newNotes : List TechnicalNoteDto) : String → Option TechnicalNoteDto :=
  index (·.id) newNotes

/-- If all new notes are there, the result is the report with the last new note for each id, and the
ids in their order; if one is not, an error is thrown and the report is as before. -/
structure ReplacesExactly (report : TechnicalReport) (newNotes : List TechnicalNoteDto) : Prop where
  known : (∀ newNote ∈ newNotes, report.knows newNote = true) →
    report.replaceNotes newNotes =
        (create (report.notes.map fun note => (lastGiven newNotes note.id).getD note), none) ∧
      (report.replaceNotes newNotes).1.notes.map (·.id) = report.notes.map (·.id)
  unknown : (∃ newNote ∈ newNotes, report.knows newNote = false) →
    ∃ error, report.replaceNotes newNotes = (report, some error)

/-- A note before the place has the id. -/
abbrev IsRepeated (notes : List TechnicalNoteDto) (place : Nat) (note : TechnicalNoteDto) : Prop :=
  note.id ∈ (notes.map (·.id)).take place

/-- The notes whose ids occur before are what is given for these ids, if anything is. -/
def RepeatsAgree (given : String → Option TechnicalNoteDto) (notes : List TechnicalNoteDto) :
    Prop :=
  ∀ place note, notes[place]? = some note → IsRepeated notes place note →
    ∀ other, given note.id = some other → other = note

/-- The first notes with their ids are what is given for these ids, if anything is. -/
def FirstsAgree (given : String → Option TechnicalNoteDto) (notes : List TechnicalNoteDto) :
    Prop :=
  ∀ place note, notes[place]? = some note → ¬IsRepeated notes place note →
    ∀ other, given note.id = some other → other = note

/-! ### Overwriting the first notes -/

/-- The notes, of which the first with an id is replaced by what is given for the id. -/
def overwrite (given : String → Option TechnicalNoteDto) (notes : List TechnicalNoteDto) :
    List TechnicalNoteDto :=
  notes.mapIdx fun place note =>
    if IsRepeated notes place note then note else (given note.id).getD note

variable {given first second : String → Option TechnicalNoteDto}
  {notes newNotes : List TechnicalNoteDto}

theorem getElem?_overwrite (given : String → Option TechnicalNoteDto)
    (notes : List TechnicalNoteDto) (place : Nat) :
    (overwrite given notes)[place]? = notes[place]?.map fun note =>
      if IsRepeated notes place note then note else (given note.id).getD note :=
  List.getElem?_mapIdx

theorem overwrite_none (notes : List TechnicalNoteDto) :
    overwrite (fun _ => none) notes = notes := by
  refine List.ext_getElem? fun place => ?_
  rw [getElem?_overwrite]
  cases notes[place]? <;> simp

/-- What is given for an id has the id. -/
def Keyed (given : String → Option TechnicalNoteDto) : Prop :=
  ∀ id note, given id = some note → note.id = id

theorem keyed_lastGiven (newNotes : List TechnicalNoteDto) : Keyed (lastGiven newNotes) :=
  fun _ _ found => (index_key found).2

theorem Keyed.id_getD (keyed : Keyed given) (note : TechnicalNoteDto) :
    ((given note.id).getD note).id = note.id := by
  cases found : given note.id with
  | none => rfl
  | some other => exact keyed note.id other found

theorem map_id_overwrite (keyed : Keyed given) (notes : List TechnicalNoteDto) :
    (overwrite given notes).map (·.id) = notes.map (·.id) := by
  refine List.ext_getElem? fun place => ?_
  rw [List.getElem?_map, List.getElem?_map, getElem?_overwrite]
  cases notes[place]? with
  | none => rfl
  | some note =>
    simp only [Option.map_some]
    split
    · rfl
    · rw [keyed.id_getD]

/-- What is given later takes precedence. -/
theorem overwrite_overwrite (keyed : Keyed first) (notes : List TechnicalNoteDto) :
    overwrite second (overwrite first notes) =
      overwrite (fun id => (second id).or (first id)) notes := by
  refine List.ext_getElem? fun place => ?_
  rw [getElem?_overwrite, getElem?_overwrite, getElem?_overwrite]
  cases notes[place]? with
  | none => rfl
  | some note =>
    simp only [Option.map_some, IsRepeated, map_id_overwrite keyed]
    by_cases repeated : note.id ∈ (notes.map (·.id)).take place
    · simp only [if_pos repeated]
    · simp only [if_neg repeated, keyed.id_getD]
      cases second note.id <;> rfl

/-- Writing a note at the place where its id is found. -/
theorem set_eq_overwrite {newNote : TechnicalNoteDto} {index : Nat}
    (found : notes.findIdx? (·.id = newNote.id) = some index) :
    notes.set index newNote =
      overwrite (fun id => if newNote.id = id then some newNote else none) notes := by
  obtain ⟨within, same, earlier⟩ := List.findIdx?_eq_some_iff_getElem.mp found
  have repeats : ∀ place note, notes[place]? = some note → newNote.id = note.id →
      (IsRepeated notes place note ↔ place ≠ index) := by
    intro place note stored own
    obtain ⟨inside, holds⟩ := List.getElem?_eq_some_iff.mp stored
    rw [IsRepeated, List.mem_take_iff_getElem]
    constructor
    · rintro ⟨before, bound, hit⟩ rfl
      rw [List.getElem_map] at hit
      have missed := earlier before (by omega)
      rw [hit, ← own] at missed
      simp at missed
    · intro different
      have later : index < place := by
        by_contra notLater
        have missed := earlier place (by omega)
        rw [holds, ← own] at missed
        simp at missed
      refine ⟨index, by simp; omega, ?_⟩
      rw [List.getElem_map, of_decide_eq_true same, own]
  refine List.ext_getElem? fun place => ?_
  rw [getElem?_overwrite, List.getElem?_set]
  by_cases here : index = place
  · subst here
    have stored : notes[index]? = some notes[index] := List.getElem?_eq_getElem within
    have own : newNote.id = notes[index].id := (of_decide_eq_true same).symm
    rw [if_pos rfl, if_pos within, stored, Option.map_some,
      if_neg fun repeated => (repeats index _ stored own).mp repeated rfl, if_pos own,
      Option.getD_some]
  · rw [if_neg here]
    cases stored : notes[place]? with
    | none => rfl
    | some note =>
      rw [Option.map_some]
      by_cases own : newNote.id = note.id
      · rw [if_pos ((repeats place note stored own).mpr (Ne.symm here))]
      · rw [if_neg own, Option.getD_none, ite_self]

/-! ### What the loop does -/

theorem getD_eq_iff (given : Option TechnicalNoteDto) (note : TechnicalNoteDto) :
    given.getD note = note ↔ ∀ other, given = some other → other = note := by
  cases given <;> simp

/-- The notes are overwritten as they should be exactly if nothing else is given for an id that
occurs again. -/
theorem overwrite_eq_map_iff (given : String → Option TechnicalNoteDto)
    (notes : List TechnicalNoteDto) :
    overwrite given notes = (notes.map fun note => (given note.id).getD note) ↔
      RepeatsAgree given notes := by
  rw [List.ext_getElem?_iff, RepeatsAgree]
  refine forall_congr' fun place => ?_
  rw [getElem?_overwrite, List.getElem?_map]
  cases notes[place]? with
  | none => simp
  | some note =>
    simp only [Option.map_some, Option.some.injEq, ← getD_eq_iff, forall_eq']
    by_cases repeated : IsRepeated notes place note
    · simp only [repeated, if_true, true_implies]
      exact eq_comm
    · simp only [repeated, if_false, false_implies]

/-- The notes are as they were exactly if nothing else is given for their ids. -/
theorem overwrite_eq_self_iff (given : String → Option TechnicalNoteDto)
    (notes : List TechnicalNoteDto) : overwrite given notes = notes ↔ FirstsAgree given notes := by
  rw [List.ext_getElem?_iff, FirstsAgree]
  refine forall_congr' fun place => ?_
  rw [getElem?_overwrite]
  cases notes[place]? with
  | none => simp
  | some note =>
    simp only [Option.map_some, Option.some.injEq, ← getD_eq_iff, forall_eq']
    by_cases repeated : IsRepeated notes place note
    · simp only [repeated, if_true, not_true_eq_false, false_implies]
    · simp only [repeated, if_false, not_false_eq_true, true_implies]

/-- Whether an id is known depends on the ids alone. -/
theorem knows_overwrite (keyed : Keyed given) (report : TechnicalReport)
    (newNote : TechnicalNoteDto) :
    ({ report with notes := overwrite given report.notes } : TechnicalReport).knows newNote =
      report.knows newNote := by
  have ids := congrArg (·.any (· = newNote.id)) (map_id_overwrite keyed report.notes)
  simpa [knows, List.any_map, Function.comp_def] using ids

/-- Once some notes have been written, the rest is written over what they have left. -/
theorem replaceNotes_append (report : TechnicalReport) (before rest : List TechnicalNoteDto)
    (known : ∀ newNote ∈ before, report.knows newNote = true) :
    report.replaceNotes (before ++ rest) =
      ({ report with notes := overwrite (lastGiven before) report.notes } :
        TechnicalReport).replaceNotes rest := by
  induction before using List.reverseRecOn generalizing rest with
  | nil =>
    rw [List.nil_append]
    exact congrArg (fun notes => replaceNotes { report with notes := notes } rest)
      (overwrite_none report.notes).symm
  | append_singleton before newNote earlier =>
    have isKnown := known newNote (by simp)
    rw [← knows_overwrite (keyed_lastGiven before), knows, ← List.findIdx?_isSome] at isKnown
    obtain ⟨index, search⟩ := Option.isSome_iff_exists.mp isKnown
    have later : (fun id => (if newNote.id = id then some newNote else none).or
        (lastGiven before id)) = lastGiven (before ++ [newNote]) := by
      funext id
      rw [lastGiven, lastGiven, index_append_singleton]
      split <;> rfl
    rw [List.append_assoc, earlier _ fun other member => known other (by simp [member]),
      List.singleton_append, replaceNotes]
    simp only [search]
    rw [set_eq_overwrite search, overwrite_overwrite (keyed_lastGiven before), later]

theorem replaceNotes_of_known {report : TechnicalReport}
    (known : ∀ newNote ∈ newNotes, report.knows newNote = true) :
    report.replaceNotes newNotes =
      (create (overwrite (lastGiven newNotes) report.notes), none) := by
  have written := report.replaceNotes_append newNotes [] known
  rw [List.append_nil] at written
  exact written

/-- With an unknown id the notes before the first of them have been written. -/
theorem replaceNotes_of_unknown {report : TechnicalReport}
    (unknown : ∃ newNote ∈ newNotes, report.knows newNote = false) :
    ∃ error, report.replaceNotes newNotes =
      ({ report with
          notes := overwrite (lastGiven (newNotes.takeWhile report.knows)) report.notes },
        some error) := by
  have remaining : newNotes.dropWhile report.knows ≠ [] := by
    obtain ⟨newNote, member, isUnknown⟩ := unknown
    intro none
    rw [List.dropWhile_eq_nil_iff.mp none newNote member] at isUnknown
    cases isUnknown
  have missing := List.head_dropWhile_not report.knows remaining
  obtain ⟨newNote, after, remains⟩ := List.exists_cons_of_ne_nil remaining
  simp only [remains, List.head_cons] at missing
  refine ⟨⟨"TechnicalNoteDto", newNote.id⟩, ?_⟩
  rw [← knows_overwrite (keyed_lastGiven (newNotes.takeWhile report.knows)), knows,
    ← List.findIdx?_isSome, Option.isSome_eq_false_iff, Option.isNone_iff_eq_none] at missing
  conv_lhs => rw [← List.takeWhile_append_dropWhile (p := report.knows) (l := newNotes), remains]
  rw [replaceNotes_append _ _ _ fun other member => List.mem_takeWhile_imp member, replaceNotes]
  simp only [missing]

/-- Replacing notes is all or nothing exactly if new notes that are all there do not differ from a
note whose id occurs before in the report, and new notes that are not all there do not, up to the
first that is not, differ from the first notes with their ids. -/
theorem replacesExactly_iff (report : TechnicalReport) (newNotes : List TechnicalNoteDto) :
    report.ReplacesExactly newNotes ↔
      ((∀ newNote ∈ newNotes, report.knows newNote = true) →
        RepeatsAgree (lastGiven newNotes) report.notes) ∧
      ((∃ newNote ∈ newNotes, report.knows newNote = false) →
        FirstsAgree (lastGiven (newNotes.takeWhile report.knows)) report.notes) := by
  constructor
  · rintro ⟨exactly, unchanged⟩
    constructor
    · intro known
      have written := (exactly known).1
      rw [replaceNotes_of_known known] at written
      exact (overwrite_eq_map_iff _ _).mp (congrArg (fun result => result.1.notes) written)
    · intro unknown
      obtain ⟨error, throws⟩ := unchanged unknown
      obtain ⟨thrown, written⟩ := replaceNotes_of_unknown unknown
      exact (overwrite_eq_self_iff _ _).mp
        (congrArg (fun result => result.1.notes) (written.symm.trans throws))
  · rintro ⟨repeats, firsts⟩
    constructor
    · intro known
      rw [map_id_replaceNotes, replaceNotes_of_known known,
        (overwrite_eq_map_iff _ _).mpr (repeats known)]
      exact ⟨rfl, rfl⟩
    · intro unknown
      obtain ⟨thrown, written⟩ := replaceNotes_of_unknown unknown
      refine ⟨thrown, ?_⟩
      rw [written, (overwrite_eq_self_iff _ _).mpr (firsts unknown)]

/-- The first note is written over before the second is found to be missing. -/
theorem not_replacesExactly_missing :
    ¬(generate 2).ReplacesExactly
      [⟨"1", [], "FTKF", "Aircond 1", "E001", "Cleaned"⟩, .create "3"] := by
  intro exactly
  obtain ⟨error, throws⟩ := exactly.unknown ⟨.create "3", by simp, by decide +kernel⟩
  have written : ((generate 2).replaceNotes
      [⟨"1", [], "FTKF", "Aircond 1", "E001", "Cleaned"⟩, .create "3"]).1 ≠ generate 2 := by
    decide +kernel
  exact written (congrArg Prod.fst throws)

end FieldService.Orders.TechnicalReport
