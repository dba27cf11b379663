/-
This file relates the two models of a payment. In the life of one request the handling of a
response is one operation; in the gateway it takes three steps, and what happens to other
requests, or to the same one, can come in between.

A run of the gateway in which no handling is interrupted is made of turns. For every stored
request such a run is a run of that request's life: `uninterrupted_lives`. So what is proved
of every life holds of every request of the gateway, as long as its handlers take turns.
-/

import FieldService.Gateway.Steps

namespace FieldService

open Execution

/-! ### One handling -/

theorem World.wait_zero (world : World) : world.wait 0 = world := by
  rw [World.wait, Int.natCast_zero, Int.add_zero]

/-- The handling of a response in the life of a request saves what the handler of the gateway
does. -/
theorem World.step_gatewayResponded (environment : Environment) (world : World)
    (event : PaymentGatewayRespondedEvent) :
    world.step environment ⟨0, .gatewayResponded event.paymentPurposeCode⟩ =
      match event.paymentPurposeCode with
      | none => world
      | some purpose =>
        match event.outcome environment world.load
            (world.repository.lookup world.request.id purpose) world.clock with
        | none => world
        | some outcome => world.save environment outcome := by
  rcases about : event.paymentPurposeCode with _ | _ | _
  · simp only [World.step, World.execute, World.wait_zero, World.gatewayResponded]
  · simp only [World.step, World.execute, World.wait_zero, World.gatewayResponded,
      World.handleServiceRequestFeePaymentGatewayResponded, PaymentGatewayRespondedEvent.outcome,
      about]
    by_cases paid : world.load.hasCustomerPaid .fee = true
    · simp only [if_pos paid]
    · simp only [if_neg paid]
  · simp only [World.step, World.execute, World.wait_zero, World.gatewayResponded,
      World.handleEcRescheduleSurchargePayementGatewayResponded,
      PaymentGatewayRespondedEvent.outcome, about]
    by_cases paid : world.load.hasCustomerPaid .ecRescheduleSurcharge = true
    · simp only [if_pos paid]
    · simp only [if_neg paid]
      rcases world.load.executeCustomerRescheduleOrder environment
        (.given (world.repository.lookup world.request.id .ecRescheduleSurcharge)) world.clock with
        ⟨executed, _ | error⟩
      · rfl
      · rfl

/-- What a handler saves is a state of the request it has read. -/
theorem PaymentGatewayRespondedEvent.outcome_id {environment : Environment}
    {event : PaymentGatewayRespondedEvent} {serviceRequest outcome : ServiceRequest}
    {history : PaymentGatewayResponseHistory} {now : Time}
    (saves : event.outcome environment serviceRequest history now = some outcome) :
    outcome.id = serviceRequest.id := by
  unfold PaymentGatewayRespondedEvent.outcome at saves
  split at saves
  · cases saves
  · split at saves
    · cases saves
    · obtain rfl := Option.some.inj saves
      rfl
  · split at saves
    · cases saves
    split at saves
    · cases saves
    · rename_i executed returns
      obtain rfl := Option.some.inj saves
      obtain ⟨-, -, -, order, appointment, -, rfl⟩ :=
        ServiceRequest.executeCustomerRescheduleOrder_returns returns
      rfl

namespace Gateway

variable {environment : Environment} {gateway : Gateway} {world : World}

theorem advance_task {index : Nat} {event : PaymentGatewayRespondedEvent} {before : Phase}
    (task : gateway.tasks[index]? = some ⟨event, before⟩) (phase : Phase) :
    (gateway.advance index event phase).tasks[index]? = some ⟨event, phase⟩ := by
  obtain ⟨bound, -⟩ := List.getElem?_eq_some_iff.mp task
  exact List.getElem?_set_self bound

theorem advance_advance (index : Nat) (event : PaymentGatewayRespondedEvent)
    (first second : Phase) :
    (gateway.advance index event first).advance index event second =
      gateway.advance index event second := by
  unfold advance
  rw [List.set_set]

theorem load_published {index : Nat} {anyone : String} {event : PaymentGatewayRespondedEvent}
    {stored : ServiceRequest} (task : gateway.tasks[index]? = some ⟨event, .published⟩)
    (found : gateway.requests.find (event.referenceId.getD anyone) = some stored) :
    gateway.load index anyone =
      gateway.advance index event
        (.loaded { stored with service := stored.service.load gateway.repository }) := by
  unfold load
  rw [task]
  simp only [found]

theorem lookUp_loaded {index : Nat} {event : PaymentGatewayRespondedEvent} {copy : ServiceRequest}
    (task : gateway.tasks[index]? = some ⟨event, .loaded copy⟩) :
    gateway.lookUp index =
      match event.paymentPurposeCode with
      | none => gateway.advance index event .handled
      | some purpose =>
        gateway.advance index event
          (.lookedUp copy (gateway.repository.lookup copy.id purpose)) := by
  unfold lookUp
  rcases about : event.paymentPurposeCode with _ | purpose
  · simp only [task, about]
  · simp only [task, about]

theorem finish_lookedUp {index : Nat} {event : PaymentGatewayRespondedEvent}
    {copy : ServiceRequest} {history : PaymentGatewayResponseHistory}
    (task : gateway.tasks[index]? = some ⟨event, .lookedUp copy history⟩) :
    gateway.finish environment index =
      match event.outcome environment copy history gateway.clock with
      | none => gateway.advance index event .handled
      | some outcome => (gateway.advance index event .handled).save environment outcome := by
  unfold finish
  rcases saves : event.outcome environment copy history gateway.clock with _ | outcome
  · simp only [task, saves]
  · simp only [task, saves]

theorem finish_handled {index : Nat} {event : PaymentGatewayRespondedEvent}
    (task : gateway.tasks[index]? = some ⟨event, .handled⟩) :
    gateway.finish environment index = gateway := by
  unfold finish
  rw [task]

/-- A handling that nothing interrupts saves what the event makes of the stored request. -/
theorem run_handling {index : Nat} {anyone : String} {event : PaymentGatewayRespondedEvent}
    {stored : ServiceRequest} (task : gateway.tasks[index]? = some ⟨event, .published⟩)
    (found : gateway.requests.find (event.referenceId.getD anyone) = some stored) :
    run (step environment) gateway (handling index anyone) =
      match event.paymentPurposeCode with
      | none => gateway.advance index event .handled
      | some purpose =>
        match event.outcome environment
            { stored with service := stored.service.load gateway.repository }
            (gateway.repository.lookup stored.id purpose) gateway.clock with
        | none => gateway.advance index event .handled
        | some outcome => (gateway.advance index event .handled).save environment outcome := by
  show ((gateway.load index anyone).lookUp index).finish environment index = _
  rw [load_published task found, lookUp_loaded (advance_task task _)]
  rcases about : event.paymentPurposeCode with _ | purpose
  · simp only [advance_advance]
    exact finish_handled (advance_task task _)
  · simp only [advance_advance]
    rw [finish_lookedUp (advance_task task _)]
    simp only [advance_advance]
    rfl

/-! ### Turns -/

/-- No handler is in the middle of its work. -/
def Quiet (gateway : Gateway) : Prop :=
  ∀ task ∈ gateway.tasks, task.phase = .published ∨ task.phase = .handled

theorem Quiet.advance (quiet : gateway.Quiet) (index : Nat)
    (event : PaymentGatewayRespondedEvent) : (gateway.advance index event .handled).Quiet := by
  intro task member
  obtain old | rfl := mem_advance member
  · exact quiet task old
  · exact Or.inr rfl

/-- Of a quiet gateway, a handling that nothing interrupts does nothing, drops an event whose
request is not there, or handles a published event of a stored request. -/
theorem Quiet.handling_cases (quiet : gateway.Quiet) (environment : Environment) (index : Nat)
    (anyone : String) :
    run (step environment) gateway (handling index anyone) = gateway ∨
      ∃ event, gateway.tasks[index]? = some ⟨event, .published⟩ ∧
        (run (step environment) gateway (handling index anyone) =
            gateway.advance index event .handled ∨
          ∃ stored, gateway.requests.find (event.referenceId.getD anyone) = some stored) := by
  show ((gateway.load index anyone).lookUp index).finish environment index = gateway ∨ _
  rcases task : gateway.tasks[index]? with _ | ⟨event, phase⟩
  · left
    simp only [load, lookUp, finish, task]
  obtain rfl | rfl : phase = .published ∨ phase = .handled := quiet _ (List.mem_of_getElem? task)
  · refine Or.inr ⟨event, rfl, ?_⟩
    rcases found : gateway.requests.find (event.referenceId.getD anyone) with _ | stored
    · left
      show ((gateway.load index anyone).lookUp index).finish environment index = _
      have dropped : gateway.load index anyone = gateway.advance index event .handled := by
        unfold load
        rw [task]
        simp only [found]
      rw [dropped]
      simp only [lookUp, finish, advance_task task]
    · exact Or.inr ⟨stored, rfl⟩
  · left
    simp only [load, lookUp, finish, task]

end Gateway

/-- What happens to the gateway when no handling is interrupted. -/
inductive Turn where
  | wait (milliseconds : Nat)
  | post (payload : Payload) (override : Bool) (anyone : String)
  | handle (index : Nat) (anyone : String)

def Turn.actions : Turn → List GatewayAction
  | .wait milliseconds => [.wait milliseconds]
  | .post payload override anyone => [.post payload override anyone]
  | .handle index anyone => Gateway.handling index anyone

namespace Gateway

variable {environment : Environment} {gateway : Gateway} {world : World}

theorem Quiet.turn (quiet : gateway.Quiet) (turn : Turn) :
    (run (step environment) gateway turn.actions).Quiet := by
  rcases turn with milliseconds | ⟨payload, override, anyone⟩ | ⟨index, anyone⟩
  · exact quiet
  · show (gateway.post payload override anyone).Quiet
    unfold post
    split
    · exact quiet
    · split
      · exact quiet
      · intro task member
        obtain old | new := List.mem_append.mp member
        · exact quiet task old
        · rw [List.mem_singleton.mp new]
          exact Or.inl rfl
  · show (run (step environment) gateway (handling index anyone)).Quiet
    obtain same | ⟨event, task, dropped | ⟨stored, found⟩⟩ :=
      quiet.handling_cases environment index anyone
    · rw [same]
      exact quiet
    · rw [dropped]
      exact quiet.advance index event
    · rw [run_handling task found]
      split
      · exact quiet.advance index event
      · split
        · exact quiet.advance index event
        · intro task member
          rw [save_tasks] at member
          exact quiet.advance index event task member

/-- The gateway has stored of a request what the world of its life has. -/
structure Shows (gateway : Gateway) (world : World) : Prop where
  request : gateway.requests.find world.request.id = some world.request
  repository : gateway.repository = world.repository
  clock : gateway.clock = world.clock

/-- An operation that is about the payment. -/
def AboutPayment (action : Timed) : Prop :=
  match action.operation with
  | .respond _ _ _ => True
  | .gatewayResponded _ => True
  | _ => False

theorem save_clock (serviceRequest : ServiceRequest) :
    (gateway.save environment serviceRequest).clock = gateway.clock := by
  unfold save
  split <;> rfl

variable (environment) in
theorem Shows.wait (same : gateway.Shows world) (milliseconds : Nat) :
    (gateway.step environment (.wait milliseconds)).Shows (world.wait milliseconds) where
  request := same.request
  repository := same.repository
  clock := congrArg (· + (milliseconds : Time)) same.clock

variable (environment) in
/-- A payload that is posted for any request is a response in the life of every one. -/
theorem Shows.post (same : gateway.Shows world) {payload : Payload} {anyone : String}
    {serviceRequest : ServiceRequest} (override : Bool)
    (found : gateway.getServiceRequest payload.splitRefNo.RefNo anyone = some serviceRequest) :
    (gateway.post payload override anyone).Shows
      (world.step environment ⟨0, .respond serviceRequest.principalGroup payload override⟩) := by
  have after : world.step environment ⟨0, .respond serviceRequest.principalGroup payload override⟩ =
      { world with
        repository := (iPay88Response world.repository world.clock serviceRequest.principalGroup
          payload.splitRefNo override).1 } := by
    show { world.wait 0 with
      repository := (iPay88Response (world.wait 0).repository (world.wait 0).clock
        serviceRequest.principalGroup payload.splitRefNo override).1 } = _
    rw [World.wait_zero]
  rw [after, ← same.repository, ← same.clock]
  unfold Gateway.post
  simp only [found]
  rcases responds : iPay88Response gateway.repository gateway.clock serviceRequest.principalGroup
    payload.splitRefNo override with ⟨repository, _ | event⟩
  · exact ⟨same.request, rfl, rfl⟩
  · exact ⟨same.request, rfl, rfl⟩

/-- Saving what became of the request is saving it in its life. -/
theorem Shows.save (same : gateway.Shows world) {outcome : ServiceRequest}
    (own : outcome.id = world.request.id) :
    (gateway.save environment outcome).Shows (world.save environment outcome) := by
  refine ⟨?_, (save_repository outcome).trans same.repository,
    (save_clock outcome).trans same.clock⟩
  have stored : gateway.requests.find outcome.id = some world.request := by
    rw [own]
    exact same.request
  show (gateway.save environment outcome).requests.find outcome.id = _
  rw [save_find, if_pos rfl, stored]
  rfl

/-- Saving another request leaves the life of this one alone. -/
theorem Shows.save_other (same : gateway.Shows world) {outcome : ServiceRequest}
    (other : outcome.id ≠ world.request.id) :
    (gateway.save environment outcome).Shows world := by
  refine ⟨?_, (save_repository outcome).trans same.repository,
    (save_clock outcome).trans same.clock⟩
  rw [save_find, if_neg other, same.request]

/-- An uninterrupted handling of an event for the request is one operation of its life. -/
theorem Shows.handle (same : gateway.Shows world) {index : Nat} {anyone : String}
    {event : PaymentGatewayRespondedEvent}
    (task : gateway.tasks[index]? = some ⟨event, .published⟩)
    (found : gateway.requests.find (event.referenceId.getD anyone) = some world.request) :
    (run (step environment) gateway (handling index anyone)).Shows
      (world.step environment ⟨0, .gatewayResponded event.paymentPurposeCode⟩) := by
  have advanced : (gateway.advance index event .handled).Shows world :=
    ⟨same.request, same.repository, same.clock⟩
  rw [run_handling task found, World.step_gatewayResponded, same.repository, same.clock]
  rcases event.paymentPurposeCode with _ | purpose
  · exact advanced
  · rw [← World.load]
    rcases saves : event.outcome environment world.load
      (world.repository.lookup world.request.id purpose) world.clock with _ | outcome
    · simp only [saves]
      exact advanced
    · have own : outcome.id = world.load.id := PaymentGatewayRespondedEvent.outcome_id saves
      simp only [saves]
      exact advanced.save own

/-- The handling of an event for another request is no operation of this one's life. -/
theorem Shows.handle_other (same : gateway.Shows world) {index : Nat} {anyone : String}
    {event : PaymentGatewayRespondedEvent} {stored : ServiceRequest}
    (task : gateway.tasks[index]? = some ⟨event, .published⟩)
    (found : gateway.requests.find (event.referenceId.getD anyone) = some stored)
    (other : stored.id ≠ world.request.id) :
    (run (step environment) gateway (handling index anyone)).Shows world := by
  have advanced : (gateway.advance index event .handled).Shows world :=
    ⟨same.request, same.repository, same.clock⟩
  rw [run_handling task found]
  split
  · exact advanced
  · split
    · exact advanced
    · rename_i outcome saves
      refine advanced.save_other fun own => other ?_
      rw [← own]
      exact (PaymentGatewayRespondedEvent.outcome_id saves).symm

variable (environment) in
/-- A turn of the gateway is an operation in the life of a request, or none. -/
theorem Shows.turn (same : gateway.Shows world) (quiet : gateway.Quiet) (turn : Turn) :
    ∃ life : List Timed, (∀ action ∈ life, AboutPayment action) ∧
      (run (step environment) gateway turn.actions).Shows
        (run (World.step environment) world life) := by
  have nothing : ∀ action ∈ ([] : List Timed), AboutPayment action := fun _ member =>
    absurd member List.not_mem_nil
  have one {action : Timed} (about : AboutPayment action) :
      ∀ other ∈ [action], AboutPayment other := by
    intro other member
    rw [List.mem_singleton.mp member]
    exact about
  rcases turn with milliseconds | ⟨payload, override, anyone⟩ | ⟨index, anyone⟩
  · exact ⟨[⟨milliseconds, .gatewayResponded none⟩], one trivial,
      same.wait environment milliseconds⟩
  · rcases found : gateway.getServiceRequest payload.splitRefNo.RefNo anyone with _ | serviceRequest
    · refine ⟨[], nothing, ?_⟩
      show (gateway.post payload override anyone).Shows world
      rw [Gateway.post, found]
      exact same
    · exact ⟨[⟨0, .respond serviceRequest.principalGroup payload override⟩], one trivial,
        same.post environment override found⟩
  · show ∃ life : List Timed, _ ∧
      (run (step environment) gateway (handling index anyone)).Shows _
    obtain unchanged | ⟨event, task, dropped | ⟨stored, found⟩⟩ :=
      quiet.handling_cases environment index anyone
    · rw [unchanged]
      exact ⟨[], nothing, same⟩
    · rw [dropped]
      exact ⟨[], nothing, same.request, same.repository, same.clock⟩
    by_cases own : stored.id = world.request.id
    · have stored_eq : stored = world.request := by
        have twice := gateway.requests.find_of_mem (gateway.requests.find_key found).1
        rw [own, same.request] at twice
        exact (Option.some.inj twice).symm
      rw [stored_eq] at found
      exact ⟨[⟨0, .gatewayResponded event.paymentPurposeCode⟩], one trivial, same.handle task found⟩
    · exact ⟨[], nothing, same.handle_other task found own⟩

/-- A run of the gateway whose handlers take turns is, for every stored request, a run of that
request's life in which only payments happen. -/
theorem uninterrupted_lives (same : gateway.Shows world) (quiet : gateway.Quiet)
    (turns : List Turn) :
    ∃ life : List Timed, (∀ action ∈ life, AboutPayment action) ∧
      (run (step environment) gateway (turns.flatMap Turn.actions)).Shows
        (run (World.step environment) world life) := by
  induction turns generalizing gateway world with
  | nil => exact ⟨[], fun _ member => absurd member List.not_mem_nil, same⟩
  | cons turn rest inductionHypothesis =>
    obtain ⟨first, firstAbout, sameAfter⟩ := same.turn environment quiet turn
    obtain ⟨later, laterAbout, sameLast⟩ := inductionHypothesis sameAfter (quiet.turn turn)
    refine ⟨first ++ later, fun action member => ?_, ?_⟩
    · obtain inFirst | inLater := List.mem_append.mp member
      · exact firstAbout action inFirst
      · exact laterAbout action inLater
    · rw [List.flatMap_cons, run_append, run_append]
      exact sameLast

theorem shows_opened {requests : Table String ServiceRequest (·.id)} {request : ServiceRequest}
    (member : request ∈ requests.rows) :
    (opened requests request.createdAt).Shows (.opened request .empty) :=
  ⟨requests.find_of_mem member, rfl, rfl⟩

theorem quiet_opened (requests : Table String ServiceRequest (·.id)) (clock : Time) :
    (opened requests clock).Quiet :=
  fun _ member => absurd member List.not_mem_nil

/-- The same, from new requests. -/
theorem uninterrupted_opened (environment : Environment)
    {requests : Table String ServiceRequest (·.id)} {request : ServiceRequest}
    (member : request ∈ requests.rows) (turns : List Turn) :
    ∃ life : List Timed, (∀ action ∈ life, AboutPayment action) ∧
      (run (step environment) (opened requests request.createdAt)
        (turns.flatMap Turn.actions)).Shows
          (run (World.step environment) (.opened request .empty) life) :=
  uninterrupted_lives (shows_opened member) (quiet_opened requests request.createdAt) turns

end Gateway

end FieldService
