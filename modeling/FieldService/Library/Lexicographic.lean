/-
This file compares lists entry by entry.

In the order of lists that are continued for ever by one value, the first difference decides. A
comparison that reads the entries first, and stops where a list ends, follows this order exactly if
it comes to the first difference and sees it (`behind_iff_precedes_iff`): a reading can make
different entries the same, and then whatever follows decides in their place.
-/

import Mathlib.Order.PiLex

namespace FieldService.Lexicographic

variable {Entry Reading : Type} [LinearOrder Entry] [LinearOrder Reading]

/-! ### Two comparisons -/

/-- The entry at a position, and something else beyond the last. -/
def padded (missing : Entry) (entries : List Entry) (position : ℕ) : Entry :=
  entries.getD position missing

/-- The first comes before the second in the lexicographic order, when both go on for ever. -/
def Precedes (missing : Entry) (first second : List Entry) : Prop :=
  toLex (padded missing first) < toLex (padded missing second)

/-- The two agree up to a position at which both have an entry and the first has the smaller. -/
def Behind (first second : List Reading) : Prop :=
  ∃ common one other firstRest secondRest, first = common ++ one :: firstRest ∧
    second = common ++ other :: secondRest ∧ one < other

/-- The order can be told from the readings: whatever the second has beyond the first might as well
be missing, and where the two differ first, so do the readings, or what follows differs alike. -/
structure IsTold (reading : Entry → Reading) (missing : Entry) (first second : List Entry) :
    Prop where
  complete : ∀ beyond, second = first ++ beyond → ∀ entry ∈ beyond, entry = missing
  apart : ∀ common one other firstRest secondRest, first = common ++ one :: firstRest →
    second = common ++ other :: secondRest → one ≠ other → reading one = reading other →
      (Behind (firstRest.map reading) (secondRest.map reading) ↔ one < other)

/-! ### From one entry to the next -/

variable {missing : Entry} {reading : Entry → Reading}

theorem precedes_iff {first second : List Entry} :
    Precedes missing first second ↔
      ∃ position, (∀ earlier < position,
          padded missing first earlier = padded missing second earlier) ∧
        padded missing first position < padded missing second position :=
  Iff.rfl

theorem precedes_cons_cons {one other : Entry} {firstRest secondRest : List Entry} :
    Precedes missing (one :: firstRest) (other :: secondRest) ↔
      one < other ∨ one = other ∧ Precedes missing firstRest secondRest := by
  rw [precedes_iff, precedes_iff]
  constructor
  · rintro ⟨position, same, less⟩
    cases position with
    | zero => exact Or.inl less
    | succ position =>
      exact Or.inr ⟨same 0 position.succ_pos, position,
        fun earlier before => same (earlier + 1) (Nat.succ_lt_succ before), less⟩
  · rintro (less | ⟨rfl, position, same, less⟩)
    · exact ⟨0, fun _ before => absurd before (Nat.not_lt_zero _), less⟩
    · refine ⟨position + 1, fun earlier before => ?_, less⟩
      cases earlier with
      | zero => rfl
      | succ earlier => exact same earlier (Nat.lt_of_succ_lt_succ before)

/-- A list that has ended goes on like any other. -/
theorem precedes_nil_cons {other : Entry} {rest : List Entry} :
    Precedes missing [] (other :: rest) ↔
      missing < other ∨ missing = other ∧ Precedes missing [] rest := by
  have same : padded missing [] = padded missing [missing] := by
    funext position
    cases position with
    | zero => rfl
    | succ position => rfl
  rw [Precedes, same, ← Precedes, precedes_cons_cons]

/-- An empty list comes before one in which something is not missing. -/
theorem precedes_nil_iff (least : ∀ entry, missing ≤ entry) {entries : List Entry} :
    Precedes missing [] entries ↔ ∃ entry ∈ entries, entry ≠ missing := by
  induction entries with
  | nil => exact iff_of_false (lt_irrefl _) (by simp)
  | cons first rest inductionHypothesis =>
    rw [precedes_nil_cons, inductionHypothesis]
    simp only [List.mem_cons, exists_eq_or_imp]
    obtain rfl | present := eq_or_ne first missing
    · simp
    · have more := lt_of_le_of_ne (least first) present.symm
      exact iff_of_true (Or.inl more) (Or.inl present)

theorem not_precedes_nil (least : ∀ entry, missing ≤ entry) {entries : List Entry} :
    ¬Precedes missing entries [] := by
  rintro ⟨position, -, less⟩
  exact absurd less (not_lt.mpr (least _))

theorem behind_cons_cons {one other : Reading} {firstRest secondRest : List Reading} :
    Behind (one :: firstRest) (other :: secondRest) ↔
      one < other ∨ one = other ∧ Behind firstRest secondRest := by
  constructor
  · rintro ⟨common, less, more, afterLess, afterMore, first, second, smaller⟩
    cases common with
    | nil =>
      cases first
      cases second
      exact Or.inl smaller
    | cons shared common =>
      cases first
      cases second
      exact Or.inr ⟨rfl, common, less, more, afterLess, afterMore, rfl, rfl, smaller⟩
  · rintro (smaller | ⟨rfl, common, less, more, afterLess, afterMore, rfl, rfl, smaller⟩)
    · exact ⟨[], one, other, firstRest, secondRest, rfl, rfl, smaller⟩
    · exact ⟨one :: common, less, more, afterLess, afterMore, rfl, rfl, smaller⟩

theorem not_behind_nil_left {second : List Reading} : ¬Behind [] second := by
  rintro ⟨common, less, more, afterLess, afterMore, first, -⟩
  simp at first

theorem not_behind_nil_right {first : List Reading} : ¬Behind first [] := by
  rintro ⟨common, less, more, afterLess, afterMore, -, second, -⟩
  simp at second

theorem isTold_cons_of_ne {one other : Entry} {firstRest secondRest : List Entry}
    (different : one ≠ other) :
    IsTold reading missing (one :: firstRest) (other :: secondRest) ↔
      (reading one = reading other →
        (Behind (firstRest.map reading) (secondRest.map reading) ↔ one < other)) := by
  constructor
  · intro told
    exact told.apart [] one other firstRest secondRest rfl rfl different
  · intro alike
    refine ⟨fun beyond same => ?_, ?_⟩
    · cases same
      exact absurd rfl different
    · intro common less more afterLess afterMore first second
      cases common with
      | nil =>
        cases first
        cases second
        exact fun _ => alike
      | cons shared common =>
        cases first
        cases second
        exact absurd rfl different

theorem isTold_cons {one : Entry} {firstRest secondRest : List Entry} :
    IsTold reading missing (one :: firstRest) (one :: secondRest) ↔
      IsTold reading missing firstRest secondRest := by
  constructor
  · intro told
    refine ⟨fun beyond same => told.complete beyond (congrArg (one :: ·) same), ?_⟩
    intro common less more afterLess afterMore first second
    exact told.apart (one :: common) less more afterLess afterMore (congrArg (one :: ·) first)
      (congrArg (one :: ·) second)
  · intro told
    refine ⟨fun beyond same => told.complete beyond (List.cons.inj same).2, ?_⟩
    intro common less more afterLess afterMore first second
    cases common with
    | nil =>
      cases first
      cases second
      exact fun different => absurd rfl different
    | cons shared common =>
      exact told.apart common less more afterLess afterMore (List.cons.inj first).2
        (List.cons.inj second).2

/-! ### When they agree -/

/-- A comparison of readings follows the lexicographic order exactly if the order can be told from
the readings. -/
theorem behind_iff_precedes_iff (monotone : Monotone reading) (least : ∀ entry, missing ≤ entry)
    (first second : List Entry) :
    (Behind (first.map reading) (second.map reading) ↔ Precedes missing first second) ↔
      IsTold reading missing first second := by
  induction first generalizing second with
  | nil =>
    have ended : ¬Behind ([].map reading) (second.map reading) := not_behind_nil_left
    rw [iff_false_left ended, precedes_nil_iff least]
    constructor
    · intro nothing
      refine ⟨fun beyond same entry member => ?_, ?_⟩
      · by_contra present
        exact nothing ⟨entry, same ▸ member, present⟩
      · intro common less more afterLess afterMore first
        simp at first
    · rintro told ⟨entry, member, present⟩
      exact present (told.complete second rfl entry member)
  | cons one firstRest inductionHypothesis =>
    cases second with
    | nil =>
      refine iff_of_true (iff_of_false not_behind_nil_right (not_precedes_nil least)) ⟨?_, ?_⟩
      · intro beyond same
        cases same
      · intro common less more afterLess afterMore _ second
        simp at second
    | cons other secondRest =>
      rw [List.map_cons, List.map_cons, behind_cons_cons, precedes_cons_cons]
      by_cases same : one = other
      · subst same
        simp only [lt_irrefl, true_and, false_or]
        rw [isTold_cons]
        exact inductionHypothesis secondRest
      · rw [isTold_cons_of_ne same]
        simp only [same, false_and, or_false]
        by_cases alike : reading one = reading other
        · rw [alike]
          simp only [lt_irrefl, true_and, false_or, true_implies]
        · have seen : reading one < reading other ↔ one < other := by
            refine ⟨monotone.reflect_lt, fun less => ?_⟩
            exact lt_of_le_of_ne (monotone less.le) alike
          simp only [alike, false_and, or_false, seen, false_implies]

end FieldService.Lexicographic
