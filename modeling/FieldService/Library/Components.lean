/-
This file develops systems that are made of components, of which every message addresses one.

A message changes the view of the component it addresses, by what that component does on its
own, and the view of no other. So a component is seen after a run as its own messages leave it,
and two runs that come to the same for every component are the same for an observer of the
views, in whatever order the messages of different components arrive.
-/

import FieldService.Library.Execution

namespace FieldService.Components

open Execution

variable {State Message Key View : Type} [DecidableEq Key]

/-- The messages that address a component. -/
def addressedTo (address : Message → Key) (key : Key) (messages : List Message) : List Message :=
  messages.filter fun message => address message = key

/-- A step of the system is a step of the component the message addresses. -/
structure Composed (step : State → Message → State) (invariant : State → Prop)
    (address : Message → Key) (view : State → Key → View) (react : View → Message → View) :
    Prop where
  keeps : ∀ state message, invariant state → invariant (step state message)
  addressed : ∀ state message, invariant state →
    view (step state message) (address message) = react (view state (address message)) message
  others : ∀ state message key, invariant state → address message ≠ key →
    view (step state message) key = view state key

namespace Composed

variable {step : State → Message → State} {invariant : State → Prop} {address : Message → Key}
  {view : State → Key → View} {react : View → Message → View}

/-- A component is after a run as its own messages leave it. -/
theorem view_run (composed : Composed step invariant address view react) {state : State}
    (start : invariant state) (messages : List Message) (key : Key) :
    view (run step state messages) key =
      run react (view state key) (addressedTo address key messages) := by
  induction messages generalizing state with
  | nil => rfl
  | cons message rest later =>
    rw [run_cons, later (composed.keeps state message start), addressedTo, addressedTo]
    by_cases hit : address message = key
    · rw [List.filter_cons_of_pos (by simpa using hit), run_cons, ← hit,
        composed.addressed state message start]
    · rw [List.filter_cons_of_neg (by simpa using hit),
        composed.others state message key start hit]

/-- Runs that come to the same for every component leave the same views. -/
theorem view_run_congr (composed : Composed step invariant address view react) {state : State}
    (start : invariant state) {first second : List Message}
    (same : ∀ key seen, run react seen (addressedTo address key first) =
      run react seen (addressedTo address key second)) (key : Key) :
    view (run step state first) key = view (run step state second) key := by
  rw [composed.view_run start, composed.view_run start, same]

end Composed

end FieldService.Components
