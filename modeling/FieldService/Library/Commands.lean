/-
This file develops operations that are sequences of commands with no transaction around them.

A command changes the state or throws. An operation carries its commands out one after another until
one throws, or until the connection to where they are carried out breaks; what has been done by then
stays done. So an operation leaves one of the states between its commands, and which of them is
known from how many commands come through and from which of them are allowed.
-/

import Mathlib.Tactic.Basic
import Mathlib.Logic.Basic

namespace FieldService.Commands

/-- A command on a state. -/
abbrev Command (State Error : Type) := State → Except Error State

variable {State Error : Type}

/-- The state after the commands, when as many as come through are carried out. -/
def carryOut : List (Command State Error) → Nat → State → State
  | [], _, state => state
  | _ :: _, 0, state => state
  | command :: rest, reach + 1, state =>
    match command state with
    | .error _ => state
    | .ok next => carryOut rest reach next

/-- A command that changes nothing. -/
def check (passes : State → Bool) (error : Error) : Command State Error :=
  fun state => if passes state then .ok state else .error error

@[simp]
theorem carryOut_nil (reach : Nat) (state : State) :
    carryOut ([] : List (Command State Error)) reach state = state := by
  cases reach <;> rfl

@[simp]
theorem carryOut_zero (commands : List (Command State Error)) (state : State) :
    carryOut commands 0 state = state := by
  cases commands <;> rfl

/-- Once a command throws, the rest is not carried out. -/
theorem carryOut_of_error {command : Command State Error} {state : State}
    (throws : ∃ error, command state = .error error) (rest : List (Command State Error))
    (reach : Nat) : carryOut (command :: rest) reach state = state := by
  obtain ⟨error, throws⟩ := throws
  cases reach with
  | zero => rfl
  | succ reach => rw [carryOut, throws]

theorem carryOut_of_ok {command : Command State Error} {state next : State}
    (succeeds : command state = .ok next) (rest : List (Command State Error)) (reach : Nat) :
    carryOut (command :: rest) reach state =
      if 0 < reach then carryOut rest (reach - 1) next else state := by
  cases reach with
  | zero => rfl
  | succ reach =>
    rw [carryOut, succeeds, if_pos reach.succ_pos]
    rfl

/-- What each command does to the state, and any number of them after one another, the operation
does. -/
theorem carryOut_related {relation : State → State → Prop} (same : ∀ state, relation state state)
    (further : ∀ first second third, relation first second → relation second third →
      relation first third) (commands : List (Command State Error))
    (each : ∀ command ∈ commands, ∀ state next, command state = .ok next → relation state next)
    (reach : Nat) (state : State) : relation state (carryOut commands reach state) := by
  induction commands generalizing reach state with
  | nil => exact (carryOut_nil reach state).symm ▸ same state
  | cons command rest inductionHypothesis =>
    cases result : command state with
    | error error =>
      rw [carryOut_of_error ⟨error, result⟩]
      exact same state
    | ok next =>
      rw [carryOut_of_ok result]
      split
      · have own := each command List.mem_cons_self state next result
        exact further _ _ _ own (inductionHypothesis
          (fun other member => each other (List.mem_cons_of_mem command member)) _ next)
      · exact same state

/-- A command that is allowed under a condition. -/
theorem carryOut_of_ite {command : Command State Error} {state next : State} {error : Error}
    {allowed : Prop} [Decidable allowed]
    (does : command state = if allowed then .ok next else .error error)
    (rest : List (Command State Error)) (reach : Nat) :
    carryOut (command :: rest) reach state =
      if 0 < reach ∧ allowed then carryOut rest (reach - 1) next else state := by
  by_cases holds : allowed
  · rw [if_pos holds] at does
    simp only [carryOut_of_ok does, holds, and_true]
  · rw [if_neg holds] at does
    rw [carryOut_of_error ⟨error, does⟩, if_neg fun both => holds both.2]

theorem carryOut_check (passes : State → Bool) (error : Error)
    (rest : List (Command State Error)) (reach : Nat) (state : State) :
    carryOut (check passes error :: rest) reach state =
      if 0 < reach ∧ passes state = true then carryOut rest (reach - 1) state else state := by
  have does : check passes error state =
      if passes state = true then .ok state else .error error := rfl
  exact carryOut_of_ite does rest reach

/-- A check before a command that is always allowed. -/
theorem carryOut_check_of_ok {command : Command State Error} {state next : State}
    (succeeds : command state = .ok next) (passes : State → Bool) (error : Error)
    (rest : List (Command State Error)) (reach : Nat) :
    carryOut (check passes error :: command :: rest) reach state =
      if 1 < reach ∧ passes state = true then carryOut rest (reach - 2) next else state := by
  rw [carryOut_check, carryOut_of_ok succeeds, ← ite_and, Nat.sub_sub]
  refine if_congr ?_ rfl rfl
  rw [Nat.sub_pos_iff_lt]
  exact ⟨fun both => ⟨both.2, both.1.2⟩, fun both => ⟨⟨Nat.zero_lt_of_lt both.1, both.2⟩, both.1⟩⟩

end FieldService.Commands
