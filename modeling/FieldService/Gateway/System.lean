/-
This file models the payment of many service requests as it really runs: payloads are posted
at any time, every stored one publishes an event, and the events are handled side by side.

A handler reads the request, then reads the history of its payments, and then saves the
request it has read. Each of the three is one step here, and the steps of different handlers
interleave in any order, so what a handler saves can be older than what it overwrites. The
posting of a payload is one step: what it stores is decided by the rows already there, and
no row changes its identifiers or goes away.

A query with an undefined identifier finds an arbitrary row. Which one is part of the action.
-/

import FieldService.Library.Table
import FieldService.Lifecycle.Operations

namespace FieldService

/-! ### Where a payload is stored -/

/-- What becomes of a posted payload: it is dropped, it is inserted with a purpose, or it is
written over a stored row. -/
inductive Destination where
  | dropped
  | fresh (paymentPurposeCode : Option PaymentPurposeCode)
  | over (existing : PaymentGatewayResponse)
  deriving DecidableEq, Repr

/-- The service request whose fee is paid according to a payload stored there. -/
def Destination.settled (destination : Destination) (payload : Payload) : Option String :=
  if payload.responseStatus = .succeeded then
    match destination with
    | .fresh (some .fee) => payload.RefNo.toOption
    | .over existing =>
      if existing.paymentPurposeCode = some .fee then existing.referenceId else none
    | _ => none
  else none

namespace PaymentGatewayResponseRepository

def destination (repository : PaymentGatewayResponseRepository) (principalGroup : Tenant)
    (payload : Payload) (override : Bool) : Destination :=
  match payload.purposeColumn with
  | none => .dropped
  | some purpose =>
    if repository.transactionTaken payload then
      if override then
        match repository.rows.find? (·.matchesPayload principalGroup payload) with
        | none => .dropped
        | some existing => .over existing
      else .dropped
    else .fresh purpose

/-- `insertIfNotExist` does what the destination says. -/
theorem insertIfNotExist_eq (repository : PaymentGatewayResponseRepository) (now : Time)
    (principalGroup : Tenant) (payload : Payload) (override : Bool) :
    repository.insertIfNotExist now principalGroup payload override =
      match repository.destination principalGroup payload override with
      | .dropped => (repository, none)
      | .fresh purpose => (repository.insert now principalGroup purpose payload, some purpose)
      | .over existing =>
        (repository.overrideRow existing.id payload, some payload.purposeCode) := by
  unfold insertIfNotExist destination
  rcases payload.purposeColumn with _ | purpose
  · rfl
  rcases Bool.eq_false_or_eq_true (repository.transactionTaken payload) with taken | free
  · rcases Bool.eq_false_or_eq_true override with overrides | keeps
    · simp only [taken, overrides, if_true]
      rcases found : repository.rows.find? (·.matchesPayload principalGroup payload) with
        _ | existing <;> simp only [found]
    · simp only [taken, keeps, if_true, if_false, Bool.false_eq_true]
  · simp only [free, if_false, Bool.false_eq_true]

/-- A stored response says that the fee of the service request has been paid. -/
def feeSettled (repository : PaymentGatewayResponseRepository) (id : String) : Prop :=
  ∃ response ∈ repository.rows, response.referenceId = some id ∧
    response.paymentPurposeCode = some .fee ∧ response.responseStatus = .succeeded

/-- The row a payload is written over is a stored one. -/
theorem destination_over {repository : PaymentGatewayResponseRepository}
    {principalGroup : Tenant} {payload : Payload} {override : Bool}
    {existing : PaymentGatewayResponse}
    (writes : repository.destination principalGroup payload override = .over existing) :
    existing ∈ repository.rows ∧
      (payload.RefNo = .undefined ∨ existing.referenceId = payload.RefNo.toOption) := by
  unfold destination at writes
  split at writes
  · cases writes
  split at writes
  · split at writes
    · split at writes
      · cases writes
      · rename_i found
        cases writes
        have matching := List.find?_some found
        simp only [PaymentGatewayResponse.matchesPayload, decide_eq_true_eq] at matching
        exact ⟨List.mem_of_find?_eq_some found, matching.2.1⟩
    · cases writes
  · cases writes

end PaymentGatewayResponseRepository

/-! ### Handlers -/

/-- How far the handling of an event has come, and what it has read. -/
inductive Phase where
  | published
  | loaded (serviceRequest : ServiceRequest)
  | lookedUp (serviceRequest : ServiceRequest) (history : PaymentGatewayResponseHistory)
  | handled
  deriving DecidableEq, Repr

/-- The handling of one published event. -/
structure Task where
  event : PaymentGatewayRespondedEvent
  phase : Phase
  deriving DecidableEq, Repr

/-- The service request a handler has read and not saved yet. -/
def Task.copy (task : Task) : Option ServiceRequest :=
  match task.phase with
  | .loaded serviceRequest => some serviceRequest
  | .lookedUp serviceRequest _ => some serviceRequest
  | _ => none

/-- What `PaymentGatewayRespondedHandler` saves of the request and the history it has read;
`none` when it returns early or throws. -/
def PaymentGatewayRespondedEvent.outcome (environment : Environment)
    (event : PaymentGatewayRespondedEvent) (serviceRequest : ServiceRequest)
    (history : PaymentGatewayResponseHistory) (now : Time) : Option ServiceRequest :=
  match event.paymentPurposeCode with
  | none => none
  | some .fee =>
    if serviceRequest.hasCustomerPaid .fee then none
    else some (serviceRequest.deriveCustomerPaymentProgress history now)
  | some .ecRescheduleSurcharge =>
    if serviceRequest.hasCustomerPaid .ecRescheduleSurcharge then none
    else
      match serviceRequest.executeCustomerRescheduleOrder environment (.given history) now with
      | (_, some _) => none
      | (executed, none) => some executed

/-! ### The gateway -/

/-- The stored service requests and payment responses, and the events that were published. -/
structure Gateway where
  requests : Table String ServiceRequest (·.id)
  repository : PaymentGatewayResponseRepository
  tasks : List Task
  clock : Time

inductive GatewayAction where
  | wait (milliseconds : Nat)
  /-- A payload is posted to the response endpoint or, with `override`, to the webhook. -/
  | post (payload : Payload) (override : Bool) (anyone : String)
  /-- The handler of an event reads the service request. -/
  | load (index : Nat) (anyone : String)
  /-- It reads the history of the payments. -/
  | lookUp (index : Nat)
  /-- It saves the service request. -/
  | finish (index : Nat)

namespace Gateway

/-- The three steps of one handler. -/
def handling (index : Nat) (anyone : String) : List GatewayAction :=
  [.load index anyone, .lookUp index, .finish index]

variable (environment : Environment) (gateway : Gateway)

/-- `GetServiceRequestQuery` of a field. -/
def getServiceRequest (field : Field) (anyone : String) : Option ServiceRequest :=
  match field with
  | .undefined => gateway.requests.find anyone
  | .null => none
  | .text id => gateway.requests.find id

/-- `serviceRequestRepository.save`. -/
def save (serviceRequest : ServiceRequest) : Gateway :=
  match gateway.requests.find serviceRequest.id with
  | none => gateway
  | some stored =>
    { gateway with
      requests := gateway.requests.save
        { serviceRequest with
          service := stored.service.persist environment serviceRequest.service } }

/-- The handler of an event moves on. -/
def advance (index : Nat) (event : PaymentGatewayRespondedEvent) (phase : Phase) : Gateway :=
  { gateway with tasks := gateway.tasks.set index ⟨event, phase⟩ }

def post (payload : Payload) (override : Bool) (anyone : String) : Gateway :=
  match gateway.getServiceRequest payload.splitRefNo.RefNo anyone with
  | none => gateway
  | some serviceRequest =>
    match iPay88Response gateway.repository gateway.clock serviceRequest.principalGroup
        payload.splitRefNo override with
    | (repository, none) => { gateway with repository := repository }
    | (repository, some event) =>
      { gateway with
        repository := repository
        tasks := gateway.tasks ++ [⟨event, .published⟩] }

def load (index : Nat) (anyone : String) : Gateway :=
  match gateway.tasks[index]? with
  | some ⟨event, .published⟩ =>
    match gateway.requests.find (event.referenceId.getD anyone) with
    | none => gateway.advance index event .handled
    | some stored =>
      gateway.advance index event
        (.loaded { stored with service := stored.service.load gateway.repository })
  | _ => gateway

/-- A handler of an event without a purpose has nothing to do with what it finds. -/
def lookUp (index : Nat) : Gateway :=
  match gateway.tasks[index]? with
  | some ⟨event, .loaded serviceRequest⟩ =>
    match event.paymentPurposeCode with
    | none => gateway.advance index event .handled
    | some purpose =>
      gateway.advance index event
        (.lookedUp serviceRequest (gateway.repository.lookup serviceRequest.id purpose))
  | _ => gateway

def finish (index : Nat) : Gateway :=
  match gateway.tasks[index]? with
  | some ⟨event, .lookedUp serviceRequest history⟩ =>
    match event.outcome environment serviceRequest history gateway.clock with
    | none => gateway.advance index event .handled
    | some outcome => (gateway.advance index event .handled).save environment outcome
  | _ => gateway

def step : GatewayAction → Gateway
  | .wait milliseconds => { gateway with clock := gateway.clock + milliseconds }
  | .post payload override anyone => gateway.post payload override anyone
  | .load index anyone => gateway.load index anyone
  | .lookUp index => gateway.lookUp index
  | .finish index => gateway.finish environment index

/-- The fee of the service request has been paid, as far as the stored request knows. -/
def feePaid (id : String) : Prop :=
  ∃ request ∈ gateway.requests.find id, request.hasCustomerPaid .fee = true

/-- New service requests, before anything has been posted. -/
def opened (requests : Table String ServiceRequest (·.id)) (clock : Time) : Gateway :=
  ⟨requests, .empty, [], clock⟩

end Gateway

end FieldService
