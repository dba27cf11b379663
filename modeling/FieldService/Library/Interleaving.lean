/-
This file develops the interleavings of two processes that share a state, each of which reads
it a few times and then writes it once.

Until one of the two writes, the shared state is the one they both started from. The one that
writes first, the leader, has therefore done all its reads of that state, and so has the
other of its earlier reads; its later ones are of what the leader has written. An interleaving
has no other effect than how many reads of the follower the leader overtakes
(`outcome_eq_overtaken`), and it is one of the two sequential orders when it overtakes none.

Of any number of processes, each of which keeps track of how far it has come, a turn moves one. So
the number of those that have come to a certain point is increased by the turns that get there
(`Crew.number_turn`).
-/

import Mathlib.Data.Finset.Card
import Mathlib.Data.Fintype.Defs
import Mathlib.Data.List.Count
import Mathlib.Logic.Function.Basic
import FieldService.Library.Execution

namespace FieldService.Interleaving

open Execution

variable {Shared Memory : Type}

/-! ### Processes -/

/-- A process that reads a shared state into its memory, step by step, and then writes it. -/
structure Process (Shared Memory : Type) where
  start : Memory
  reads : List (Shared → Memory → Memory)
  write : Shared → Memory → Shared

/-- The memory after reading one state several times. -/
def look (reads : List (Shared → Memory → Memory)) (shared : Shared) (memory : Memory) : Memory :=
  reads.foldl (fun memory read => read shared memory) memory

/-- The process from its beginning to its end, with nobody else around. -/
def Process.alone (process : Process Shared Memory) (shared : Shared) : Shared :=
  process.write shared (look process.reads shared process.start)

/-- The first reads of the follower come before everything the leader does, the others and its
write after it. -/
def Process.overtaken (leader follower : Process Shared Memory) (before : Nat)
    (shared : Shared) : Shared :=
  follower.write (leader.alone shared)
    (look (follower.reads.drop before) (leader.alone shared)
      (look (follower.reads.take before) shared follower.start))

/-! ### Races -/

/-- Which of the two processes moves. -/
inductive Contender where
  | first
  | second
  deriving DecidableEq, Repr

def Contender.other : Contender → Contender
  | .first => .second
  | .second => .first

theorem Contender.other_ne (turn : Contender) : turn.other ≠ turn := by
  cases turn <;> decide

theorem Contender.eq_or_eq_other (turn moved : Contender) :
    moved = turn ∨ moved = turn.other := by
  cases turn <;> cases moved <;> decide

/-- Where a process stands: what it remembers and what it still has to read, or that it has
written. -/
inductive Progress (Shared Memory : Type) where
  | running (memory : Memory) (reads : List (Shared → Memory → Memory))
  | done

/-- Two processes on one state. -/
structure Race (Shared Memory : Type) where
  shared : Shared
  progress : Contender → Progress Shared Memory

variable (processes : Contender → Process Shared Memory)

/-- A process moves on: to its next read, or to its write. -/
def step (race : Race Shared Memory) (turn : Contender) : Race Shared Memory :=
  match race.progress turn with
  | .running memory (read :: reads) =>
    { race with
      progress :=
        Function.update race.progress turn (.running (read race.shared memory) reads) }
  | .running memory [] =>
    { shared := (processes turn).write race.shared memory
      progress := Function.update race.progress turn .done }
  | .done => race

def begin (shared : Shared) : Race Shared Memory :=
  ⟨shared, fun turn => .running (processes turn).start (processes turn).reads⟩

/-- The shared state after the turns. -/
def outcome (shared : Shared) (turns : List Contender) : Shared :=
  (run (step processes) (begin processes shared) turns).shared

/-- Each process takes exactly its turns, one for every read and one to write. -/
structure TurnOrder where
  turns : List Contender
  complete : ∀ turn, turns.count turn = (processes turn).reads.length + 1

/-- The process that writes first and how many reads the other has done by then, when some
reads have been done already. -/
def lead (taken : Contender → Nat) : List Contender → Contender × Nat
  | [] => (.first, 0)
  | turn :: rest =>
    if taken turn = (processes turn).reads.length then (turn, taken turn.other)
    else lead (Function.update taken turn (taken turn + 1)) rest

/-! ### The effect of an interleaving -/

variable {processes}

theorem step_read {race : Race Shared Memory} {turn : Contender} {memory : Memory}
    {read : Shared → Memory → Memory} {reads : List (Shared → Memory → Memory)}
    (stands : race.progress turn = .running memory (read :: reads)) :
    step processes race turn =
      { race with
        progress :=
          Function.update race.progress turn (.running (read race.shared memory) reads) } := by
  rw [step, stands]

theorem step_write {race : Race Shared Memory} {turn : Contender} {memory : Memory}
    (stands : race.progress turn = .running memory []) :
    step processes race turn =
      { shared := (processes turn).write race.shared memory
        progress := Function.update race.progress turn .done } := by
  rw [step, stands]

theorem step_done {race : Race Shared Memory} {turn : Contender}
    (stands : race.progress turn = .done) :
    step processes race turn = race := by
  rw [step, stands]

theorem run_done {race : Race Shared Memory} (done : ∀ turn, race.progress turn = .done)
    (turns : List Contender) : run (step processes) race turns = race := by
  induction turns with
  | nil => rfl
  | cons turn rest later => rw [run_cons, step_done (done turn), later]

/-- When one process is done, the turns of the other bring it to its end. -/
theorem run_follower {leader : Contender} {race : Race Shared Memory} {memory : Memory}
    {reads : List (Shared → Memory → Memory)} {turns : List Contender}
    (led : race.progress leader = .done)
    (follows : race.progress leader.other = .running memory reads)
    (enough : turns.count leader.other = reads.length + 1) :
    (run (step processes) race turns).shared =
      (processes leader.other).write race.shared (look reads race.shared memory) := by
  induction turns generalizing race memory reads with
  | nil => cases enough
  | cons turn rest later =>
    rw [run_cons]
    rcases leader.eq_or_eq_other turn with rfl | rfl
    · rw [step_done led]
      refine later led follows ?_
      rwa [List.count_cons_of_ne (Contender.other_ne _).symm] at enough
    · rw [List.count_cons_self] at enough
      have ledStill : ∀ standing, Function.update race.progress leader.other standing leader =
          .done := fun standing =>
        (Function.update_of_ne leader.other_ne.symm standing race.progress).trans led
      rcases reads with _ | ⟨read, reads⟩
      · rw [step_write follows, run_done]
        · rfl
        intro turn
        rcases leader.eq_or_eq_other turn with rfl | rfl
        · exact ledStill .done
        · exact Function.update_self ..
      · rw [step_read follows]
        show _ = (processes leader.other).write race.shared
          (look reads race.shared (read race.shared memory))
        exact later (ledStill _) (Function.update_self ..) (by simpa using enough)

/-- As long as nobody has written, each process has read the first state as often as it had
turns. -/
def Undecided (processes : Contender → Process Shared Memory) (shared : Shared)
    (taken : Contender → Nat) (race : Race Shared Memory) : Prop :=
  race.shared = shared ∧ ∀ turn, race.progress turn =
    .running (look ((processes turn).reads.take (taken turn)) shared (processes turn).start)
      ((processes turn).reads.drop (taken turn))

theorem undecided_begin (shared : Shared) :
    Undecided processes shared (fun _ => 0) (begin processes shared) :=
  ⟨rfl, fun _ => rfl⟩

/-- A read keeps a race undecided. -/
theorem Undecided.read {shared : Shared} {taken : Contender → Nat} {race : Race Shared Memory}
    (undecided : Undecided processes shared taken race) {turn : Contender}
    (reads : taken turn < (processes turn).reads.length) :
    Undecided processes shared (Function.update taken turn (taken turn + 1))
      (step processes race turn) := by
  obtain ⟨same, stands⟩ := undecided
  have standing := stands turn
  rw [List.drop_eq_getElem_cons reads] at standing
  rw [step_read standing]
  refine ⟨same, fun other => ?_⟩
  by_cases moved : other = turn
  · subst moved
    refine (Function.update_self ..).trans ?_
    rw [Function.update_self, List.take_succ_eq_append_getElem reads, look, look,
      List.foldl_append, same]
    rfl
  · rw [Function.update_of_ne moved]
    exact (Function.update_of_ne moved ..).trans (stands other)

/-- The leader writes what it would have written alone. -/
theorem Undecided.write {shared : Shared} {taken : Contender → Nat} {race : Race Shared Memory}
    (undecided : Undecided processes shared taken race) {turn : Contender}
    (last : taken turn = (processes turn).reads.length) :
    step processes race turn =
      { shared := (processes turn).alone shared
        progress := Function.update race.progress turn .done } := by
  obtain ⟨same, stands⟩ := undecided
  have standing := stands turn
  rw [last, List.drop_length, List.take_length] at standing
  rw [step_write standing, same]
  rfl

/-- An undecided race ends as the leader's overtaking of the other. -/
theorem Undecided.run_shared {shared : Shared} {taken : Contender → Nat} {race : Race Shared Memory}
    {turns : List Contender} (undecided : Undecided processes shared taken race)
    (within : ∀ turn, taken turn ≤ (processes turn).reads.length)
    (enough : ∀ turn, turns.count turn + taken turn = (processes turn).reads.length + 1) :
    (run (step processes) race turns).shared =
        (processes (lead processes taken turns).1).overtaken
          (processes (lead processes taken turns).1.other) (lead processes taken turns).2 shared ∧
      (lead processes taken turns).2 ≤
        (processes (lead processes taken turns).1.other).reads.length := by
  induction turns generalizing race taken with
  | nil =>
    have few := within .first
    have many := enough .first
    rw [List.count_nil] at many
    omega
  | cons turn rest later =>
    have otherTurns := enough turn.other
    have ownTurns := enough turn
    rw [List.count_cons_self] at ownTurns
    rw [List.count_cons_of_ne (Contender.other_ne _).symm] at otherTurns
    rw [run_cons, lead]
    by_cases last : taken turn = (processes turn).reads.length
    · rw [if_pos last, undecided.write last]
      refine ⟨?_, within turn.other⟩
      refine run_follower (Function.update_self ..)
        ((Function.update_of_ne turn.other_ne ..).trans (undecided.2 turn.other)) ?_
      have few := within turn.other
      show rest.count turn.other =
        ((processes turn.other).reads.drop (taken turn.other)).length + 1
      rw [List.length_drop]
      omega
    · have reads := Nat.lt_of_le_of_ne (within turn) last
      rw [if_neg last]
      refine later (undecided.read reads) (fun other => ?_) fun other => ?_
      · by_cases moved : other = turn
        · subst moved
          rw [Function.update_self]
          exact reads
        · rw [Function.update_of_ne moved]
          exact within other
      · rcases turn.eq_or_eq_other other with rfl | rfl
        · rw [Function.update_self]
          omega
        · rw [Function.update_of_ne turn.other_ne]
          exact otherTurns

/-- An order of turns has the effect of the leader's overtaking of the other. -/
theorem outcome_eq_overtaken (shared : Shared) (order : TurnOrder processes) :
    outcome processes shared order.turns =
        (processes (lead processes (fun _ => 0) order.turns).1).overtaken
          (processes (lead processes (fun _ => 0) order.turns).1.other)
          (lead processes (fun _ => 0) order.turns).2 shared ∧
      (lead processes (fun _ => 0) order.turns).2 ≤
        (processes (lead processes (fun _ => 0) order.turns).1.other).reads.length :=
  (undecided_begin shared).run_shared (fun _ => Nat.zero_le _) order.complete

/-! ### Any number of processes -/

/-- What some processes share, and how far each of them has come. -/
structure Crew (Index Shared Progress : Type) where
  shared : Shared
  progress : Index → Progress

namespace Crew

variable {Index Shared Progress : Type} [DecidableEq Index]

/-- One process changes what is shared, and moves on. -/
def turn (crew : Crew Index Shared Progress) (index : Index) (next : Shared × Progress) :
    Crew Index Shared Progress where
  shared := next.1
  progress := Function.update crew.progress index next.2

@[simp]
theorem turn_shared (crew : Crew Index Shared Progress) (index : Index)
    (next : Shared × Progress) : (crew.turn index next).shared = next.1 := rfl

theorem turn_progress_self (crew : Crew Index Shared Progress) (index : Index)
    (next : Shared × Progress) : (crew.turn index next).progress index = next.2 := by
  simp [turn]

theorem turn_progress_other (crew : Crew Index Shared Progress) {index other : Index}
    (next : Shared × Progress) (different : other ≠ index) :
    (crew.turn index next).progress other = crew.progress other := by
  simp [turn, different]

variable [Fintype Index]

/-- How many processes have come to where they count. -/
def number (counts : Index → Progress → Bool) (crew : Crew Index Shared Progress) : Nat :=
  (Finset.univ.filter fun index => counts index (crew.progress index) = true).card

/-- A turn that changes nothing about whether its process counts. -/
theorem number_turn_same {counts : Index → Progress → Bool} (crew : Crew Index Shared Progress)
    {index : Index} (next : Shared × Progress)
    (same : counts index next.2 = counts index (crew.progress index)) :
    (crew.turn index next).number counts = crew.number counts := by
  refine congrArg Finset.card (Finset.filter_congr fun other _ => ?_)
  by_cases own : other = index
  · rw [own, turn_progress_self, same]
  · rw [turn_progress_other crew next own]

/-- A turn that makes its process count. -/
theorem number_turn {counts : Index → Progress → Bool} (crew : Crew Index Shared Progress)
    {index : Index} (next : Shared × Progress)
    (before : counts index (crew.progress index) = false) (now : counts index next.2 = true) :
    (crew.turn index next).number counts = crew.number counts + 1 := by
  have joined : (Finset.univ.filter fun other =>
        counts other ((crew.turn index next).progress other) = true) =
      insert index (Finset.univ.filter fun other => counts other (crew.progress other) = true) := by
    ext other
    rw [Finset.mem_insert, Finset.mem_filter, Finset.mem_filter]
    by_cases own : other = index
    · simp [own, turn_progress_self, now]
    · simp [own, turn_progress_other]
  have apart :
      index ∉ Finset.univ.filter fun other => counts other (crew.progress other) = true := by
    rw [Finset.mem_filter, before]
    simp
  rw [number, joined, Finset.card_insert_of_notMem apart, number]

end Crew

end FieldService.Interleaving
