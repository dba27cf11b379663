/-
This file builds the theory of runs that the rest of the development uses: a
deterministic step function folded over a list of actions.

A system whose guards do not hold everywhere is studied under a *condition*, a
relation between the state before a step and the action the step takes. `Along`
says that a run meets its condition at every step, and `Throughout` says that a
property holds in every state the run passes through, its first and its last
included; `Settling` relates any state of a run to any later one. The invariant
rules take a one-step fact to a fact about whole runs: `invariant_run` gives it for
the last state and `throughout_of_invariant` for every state on the way. Where a
step keeps a property *exactly* under the condition, `throughout_and_along_iff`
and `settling_iff_along` make the condition exact for whole runs as well.

A step can be watched by an observer that keeps a record of its own beside the
state. `observed` is the product, and `run_observed_fst` says that watching
does not disturb the run.
-/

import Mathlib.Order.Basic
import Mathlib.Tactic.Basic

namespace FieldService.Execution

section

variable {State Action Record : Type*}

/-! ### Runs -/

/-- The state a run of the actions ends in. -/
def run (step : State → Action → State) (state : State) (actions : List Action) : State :=
  actions.foldl step state

@[simp]
theorem run_nil (step : State → Action → State) (state : State) :
    run step state [] = state := rfl

@[simp]
theorem run_cons (step : State → Action → State) (state : State) (action : Action)
    (rest : List Action) :
    run step state (action :: rest) = run step (step state action) rest := rfl

theorem run_append (step : State → Action → State) (state : State)
    (first second : List Action) :
    run step state (first ++ second) = run step (run step state first) second :=
  List.foldl_append

/-- The condition holds at every step of the run, of the state the step starts from and the
action it takes. -/
def Along (step : State → Action → State) (condition : State → Action → Prop) :
    State → List Action → Prop
  | _, [] => True
  | state, action :: rest => condition state action ∧ Along step condition (step state action) rest

instance decidableAlong (step : State → Action → State) (condition : State → Action → Prop)
    [∀ state action, Decidable (condition state action)] :
    ∀ state actions, Decidable (Along step condition state actions)
  | _, [] => inferInstanceAs (Decidable True)
  | state, action :: rest =>
    haveI := decidableAlong step condition (step state action) rest
    inferInstanceAs
      (Decidable (condition state action ∧ Along step condition (step state action) rest))

/-- The property holds in every state of the run, the first and the last included. -/
def Throughout (step : State → Action → State) (property : State → Prop) (state : State)
    (actions : List Action) : Prop :=
  ∀ earlier, earlier <+: actions → property (run step state earlier)

theorem along_append (step : State → Action → State) (condition : State → Action → Prop)
    (state : State) (first second : List Action) :
    Along step condition state (first ++ second) ↔
      Along step condition state first ∧ Along step condition (run step state first) second := by
  induction first generalizing state with
  | nil => simp [Along]
  | cons action rest inductionHypothesis =>
    simp only [List.cons_append, Along, run_cons, inductionHypothesis, and_assoc]

theorem along_earlier (step : State → Action → State) (condition : State → Action → Prop)
    (state : State) {earlier actions : List Action} (initial : earlier <+: actions)
    (along : Along step condition state actions) : Along step condition state earlier := by
  obtain ⟨later, rfl⟩ := initial
  exact ((along_append step condition state earlier later).mp along).1

/-- The relation holds between any state of the run and any later one. -/
def Settling (step : State → Action → State) (relation : State → State → Prop) (state : State)
    (actions : List Action) : Prop :=
  ∀ earlier later, earlier ++ later <+: actions →
    relation (run step state earlier) (run step state (earlier ++ later))

theorem throughout_cons (step : State → Action → State) (property : State → Prop)
    (state : State) (action : Action) (rest : List Action) :
    Throughout step property state (action :: rest) ↔
      property state ∧ Throughout step property (step state action) rest := by
  constructor
  · intro throughout
    refine ⟨throughout [] List.nil_prefix, fun earlier initial => ?_⟩
    exact throughout (action :: earlier) (List.cons_prefix_cons.mpr ⟨rfl, initial⟩)
  · rintro ⟨start, later⟩ earlier initial
    cases earlier with
    | nil => exact start
    | cons first earlier =>
      obtain ⟨rfl, tail⟩ := List.cons_prefix_cons.mp initial
      exact later earlier tail

instance decidableThroughout (step : State → Action → State) (property : State → Prop)
    [DecidablePred property] : ∀ state actions, Decidable (Throughout step property state actions)
  | state, [] => decidable_of_iff (property state) (by simp [Throughout])
  | state, action :: rest =>
    haveI := decidableThroughout step property (step state action) rest
    decidable_of_iff _ (throughout_cons step property state action rest).symm

/-! ### Invariants -/

/-- What holds at the start and is kept by every step the condition allows holds at the end
of a run that meets the condition. -/
theorem invariant_run (step : State → Action → State) (condition : State → Action → Prop)
    (invariant : State → Prop)
    (kept : ∀ state action, invariant state → condition state action →
      invariant (step state action))
    (state : State) (actions : List Action) (start : invariant state)
    (along : Along step condition state actions) : invariant (run step state actions) := by
  induction actions generalizing state with
  | nil => exact start
  | cons action rest inductionHypothesis =>
    exact inductionHypothesis (step state action) (kept state action start along.1) along.2

/-- The same, of every state the run passes through. -/
theorem throughout_of_invariant (step : State → Action → State)
    (condition : State → Action → Prop) (invariant property : State → Prop)
    (kept : ∀ state action, invariant state → condition state action →
      invariant (step state action))
    (gives : ∀ state, invariant state → property state)
    (state : State) (actions : List Action) (start : invariant state)
    (along : Along step condition state actions) :
    Throughout step property state actions := by
  intro earlier initial
  exact gives _ (invariant_run step condition invariant kept state earlier start
    (along_earlier step condition state initial along))

/-! ### Exact conditions -/

/-- A condition that the actions meet in any state is met along the run. -/
theorem along_of_actions (step : State → Action → State) {condition : State → Action → Prop}
    {actions : List Action} (always : ∀ action ∈ actions, ∀ state, condition state action)
    (state : State) : Along step condition state actions := by
  induction actions generalizing state with
  | nil => trivial
  | cons action rest inductionHypothesis =>
    exact ⟨always action List.mem_cons_self state,
      inductionHypothesis (fun other member => always other (List.mem_cons_of_mem _ member)) _⟩

theorem along_trivial (step : State → Action → State) (state : State) (actions : List Action) :
    Along step (fun _ _ => True) state actions := by
  induction actions generalizing state with
  | nil => trivial
  | cons action rest inductionHypothesis => exact ⟨trivial, inductionHypothesis (step state action)⟩

/-- What every step keeps holds at the end of every run. -/
theorem preserved_run (step : State → Action → State) (invariant : State → Prop)
    (kept : ∀ state action, invariant state → invariant (step state action))
    (state : State) (actions : List Action) (start : invariant state) :
    invariant (run step state actions) :=
  invariant_run step (fun _ _ => True) invariant
    (fun state action holds _ => kept state action holds) state actions start
    (along_trivial step state actions)

/-- The same, of every state the run passes through. -/
theorem throughout_of_preserved (step : State → Action → State)
    (invariant property : State → Prop)
    (kept : ∀ state action, invariant state → invariant (step state action))
    (gives : ∀ state, invariant state → property state)
    (state : State) (actions : List Action) (start : invariant state) :
    Throughout step property state actions :=
  throughout_of_invariant step (fun _ _ => True) invariant property
    (fun state action holds _ => kept state action holds) gives state actions start
    (along_trivial step state actions)

theorem along_and (step : State → Action → State) (first second : State → Action → Prop)
    (state : State) (actions : List Action) :
    Along step (fun before action => first before action ∧ second before action) state actions ↔
      Along step first state actions ∧ Along step second state actions := by
  induction actions generalizing state with
  | nil => simp [Along]
  | cons action rest inductionHypothesis =>
    simp only [Along, inductionHypothesis]
    exact and_and_and_comm

/-- A condition that is asked for every value is asked along the run for every value. -/
theorem along_forall {Value : Type*} (step : State → Action → State)
    (condition : Value → State → Action → Prop) (state : State) (actions : List Action) :
    (∀ value, Along step (condition value) state actions) ↔
      Along step (fun before action => ∀ value, condition value before action) state actions := by
  induction actions generalizing state with
  | nil => simp [Along]
  | cons action rest inductionHypothesis =>
    simp only [Along, ← inductionHypothesis, forall_and]

/-- Along a run whose steps meet a condition that keeps an invariant, every step has what the
two give it. -/
theorem along_of_invariant (step : State → Action → State) (invariant : State → Prop)
    {condition property : State → Action → Prop}
    (kept : ∀ state action, invariant state → condition state action →
      invariant (step state action))
    (gives : ∀ state action, invariant state → condition state action → property state action)
    (state : State) (actions : List Action) (start : invariant state)
    (along : Along step condition state actions) : Along step property state actions := by
  induction actions generalizing state with
  | nil => trivial
  | cons action rest inductionHypothesis =>
    obtain ⟨now, later⟩ := along
    exact ⟨gives state action start now,
      inductionHypothesis (step state action) (kept state action start now) later⟩

/-- Along a run that meets an assumption, two conditions that agree under it, on the states of
an invariant, come to the same. -/
theorem along_congr (step : State → Action → State) (invariant : State → Prop)
    (assumption : State → Action → Prop)
    (kept : ∀ state action, invariant state → assumption state action →
      invariant (step state action))
    {first second : State → Action → Prop}
    (agree : ∀ state action, invariant state → assumption state action →
      (first state action ↔ second state action))
    (state : State) (actions : List Action) (start : invariant state)
    (assumed : Along step assumption state actions) :
    Along step first state actions ↔ Along step second state actions := by
  induction actions generalizing state with
  | nil => exact Iff.rfl
  | cons action rest inductionHypothesis =>
    obtain ⟨now, later⟩ := assumed
    exact and_congr (agree state action start now)
      (inductionHypothesis (step state action) (kept state action start now) later)

/-- When a step out of a state with the property behaves and keeps it exactly under the
condition, a run has the property throughout and behaves at every step exactly if it meets the
condition at every step. -/
theorem throughout_and_along_iff (step : State → Action → State)
    (behaves condition : State → Action → Prop) (invariant property : State → Prop)
    (kept : ∀ state action, invariant state → invariant (step state action))
    (exactly : ∀ state action, invariant state → property state →
      (behaves state action ∧ property (step state action) ↔ condition state action))
    (state : State) (actions : List Action) (start : invariant state) (holds : property state) :
    Throughout step property state actions ∧ Along step behaves state actions ↔
      Along step condition state actions := by
  induction actions generalizing state with
  | nil =>
    refine ⟨fun _ => trivial, fun _ => ⟨fun earlier initial => ?_, trivial⟩⟩
    rw [List.prefix_nil.mp initial]
    exact holds
  | cons action rest inductionHypothesis =>
    have exact' := exactly state action start holds
    have later := inductionHypothesis (step state action) (kept state action start)
    rw [throughout_cons]
    constructor
    · rintro ⟨⟨-, throughout⟩, behaved, along⟩
      have next := throughout [] List.nil_prefix
      exact ⟨exact'.mp ⟨behaved, next⟩, (later next).mp ⟨throughout, along⟩⟩
    · rintro ⟨meets, along⟩
      obtain ⟨behaved, next⟩ := exact'.mpr meets
      obtain ⟨throughout, behaves⟩ := (later next).mpr along
      exact ⟨⟨holds, throughout⟩, behaved, behaves⟩

/-- When a step out of a state with the property keeps it exactly under the condition, a run
has the property throughout exactly if it meets the condition at every step. -/
theorem throughout_iff_along (step : State → Action → State)
    (condition : State → Action → Prop) (invariant property : State → Prop)
    (kept : ∀ state action, invariant state → invariant (step state action))
    (exactly : ∀ state action, invariant state → property state →
      (property (step state action) ↔ condition state action))
    (state : State) (actions : List Action) (start : invariant state) (holds : property state) :
    Throughout step property state actions ↔ Along step condition state actions := by
  rw [← throughout_and_along_iff step (fun _ _ => True) condition invariant property kept
    (fun state action start holds =>
      (and_iff_right trivial).trans (exactly state action start holds))
    state actions start holds]
  exact (and_iff_left (along_trivial step state actions)).symm

/-- A property that no step brings back holds throughout a run exactly if it holds at its end. -/
theorem throughout_iff_run (step : State → Action → State) (property : State → Prop)
    (unregained : ∀ state action, property (step state action) → property state)
    (state : State) (actions : List Action) :
    Throughout step property state actions ↔ property (run step state actions) := by
  have before (later : List Action) (state : State) (holds : property (run step state later)) :
      property state := by
    induction later generalizing state with
    | nil => exact holds
    | cons action rest inductionHypothesis =>
      exact unregained state action (inductionHypothesis (step state action) holds)
  constructor
  · intro throughout
    exact throughout actions List.prefix_rfl
  · rintro holds earlier ⟨later, rfl⟩
    rw [run_append] at holds
    exact before later _ holds

/-- A reflexive and transitive relation holds between any two states of a run exactly if it
holds across every step. -/
theorem settling_iff_along (step : State → Action → State) (relation : State → State → Prop)
    (reflexive : ∀ state, relation state state)
    (transitive : ∀ first second third, relation first second → relation second third →
      relation first third)
    (state : State) (actions : List Action) :
    Settling step relation state actions ↔
      Along step (fun before action => relation before (step before action)) state actions := by
  induction actions generalizing state with
  | nil =>
    refine ⟨fun _ => trivial, fun _ earlier later initial => ?_⟩
    obtain ⟨rfl, rfl⟩ := List.append_eq_nil_iff.mp (List.prefix_nil.mp initial)
    exact reflexive state
  | cons action rest inductionHypothesis =>
    constructor
    · intro settling
      refine ⟨settling [] [action] (List.cons_prefix_cons.mpr ⟨rfl, List.nil_prefix⟩), ?_⟩
      refine (inductionHypothesis (step state action)).mp fun earlier later initial => ?_
      exact settling (action :: earlier) later (List.cons_prefix_cons.mpr ⟨rfl, initial⟩)
    · rintro ⟨across, along⟩ earlier later initial
      have settling := (inductionHypothesis (step state action)).mpr along
      cases earlier with
      | cons first earlier =>
        obtain ⟨rfl, tail⟩ := List.cons_prefix_cons.mp initial
        exact settling earlier later tail
      | nil =>
        cases later with
        | nil => exact reflexive state
        | cons first later =>
          obtain ⟨rfl, tail⟩ := List.cons_prefix_cons.mp initial
          exact transitive _ _ _ across (settling [] later tail)

/-! ### Replaying -/

/-- When an action is idle once it has been taken, and stays idle whatever is done, taking the
same actions again changes nothing. -/
theorem run_run_of_idle (step : State → Action → State) (idle : Action → State → Prop)
    (rests : ∀ action state, idle action state → step state action = state)
    (settles : ∀ action state, idle action (step state action))
    (stays : ∀ action other state, idle action state → idle action (step state other))
    (state : State) (actions : List Action) :
    run step (run step state actions) actions = run step state actions := by
  have staysOver (action : Action) (actions : List Action) (state : State)
      (now : idle action state) : idle action (run step state actions) := by
    induction actions generalizing state with
    | nil => exact now
    | cons other rest inductionHypothesis =>
      exact inductionHypothesis (step state other) (stays action other state now)
  have allIdle : ∀ action ∈ actions, idle action (run step state actions) := by
    induction actions generalizing state with
    | nil => simp
    | cons first rest inductionHypothesis =>
      refine List.forall_mem_cons.mpr ⟨?_, inductionHypothesis (step state first)⟩
      exact staysOver first rest (step state first) (settles first state)
  generalize run step state actions = last at allIdle
  induction actions with
  | nil => rfl
  | cons first rest inductionHypothesis =>
    obtain ⟨now, later⟩ := List.forall_mem_cons.mp allIdle
    rw [run_cons, rests first last now]
    exact inductionHypothesis later

/-! ### Holding until released -/

/-- What holds in some state of the run holds in every later one that no action between them
releases it before. -/
def Persisting (step : State → Action → State) (property : State → Prop)
    (released : State → Action → Prop) (state : State) (actions : List Action) : Prop :=
  ∀ earlier later, earlier ++ later <+: actions → property (run step state earlier) →
    Along step (fun before action => ¬released before action) (run step state earlier) later →
      property (run step state (earlier ++ later))

/-- A property persists through a run exactly if every step that does not release it keeps it. -/
theorem persisting_iff_along (step : State → Action → State) (property : State → Prop)
    (released : State → Action → Prop) (state : State) (actions : List Action) :
    Persisting step property released state actions ↔
      Along step (fun before action => property before → ¬released before action →
        property (step before action)) state actions := by
  constructor
  · intro persists
    induction actions generalizing state with
    | nil => trivial
    | cons action rest inductionHypothesis =>
      refine ⟨fun holds unreleased => ?_, inductionHypothesis (step state action) ?_⟩
      · exact persists [] [action] (List.cons_prefix_cons.mpr ⟨rfl, List.nil_prefix⟩) holds
          ⟨unreleased, trivial⟩
      · intro earlier later initial
        exact persists (action :: earlier) later (List.cons_prefix_cons.mpr ⟨rfl, initial⟩)
  · intro along earlier later initial holds unreleased
    have kept := ((along_append step _ state earlier later).mp
      (along_earlier step _ state initial along)).2
    rw [run_append]
    exact invariant_run step (fun before action => (property before → ¬released before action →
        property (step before action)) ∧ ¬released before action) property
      (fun before action holds both => both.1 holds both.2) _ later holds
      ((along_and step _ _ _ later).mpr ⟨kept, unreleased⟩)

/-! ### Watching a run -/

/-- The system together with an observer, which sees the state before each step and the
action and keeps a record. -/
def observed (step : State → Action → State) (observe : State → Record → Action → Record)
    (pair : State × Record) (action : Action) : State × Record :=
  (step pair.1 action, observe pair.1 pair.2 action)

/-- Watching a run does not change where it goes. -/
theorem run_observed_fst (step : State → Action → State)
    (observe : State → Record → Action → Record) (pair : State × Record)
    (actions : List Action) :
    (run (observed step observe) pair actions).1 = run step pair.1 actions := by
  induction actions generalizing pair with
  | nil => rfl
  | cons action rest inductionHypothesis =>
    rw [run_cons, run_cons, inductionHypothesis]
    rfl

/-- A condition on the watched state alone is the condition of the run. -/
theorem along_observed (step : State → Action → State)
    (observe : State → Record → Action → Record) (condition : State → Action → Prop)
    (pair : State × Record) (actions : List Action) :
    Along (observed step observe) (fun watched action => condition watched.1 action) pair actions ↔
      Along step condition pair.1 actions := by
  induction actions generalizing pair with
  | nil => exact Iff.rfl
  | cons action rest inductionHypothesis =>
    exact and_congr_right fun _ => inductionHypothesis (observed step observe pair action)

end

end FieldService.Execution
