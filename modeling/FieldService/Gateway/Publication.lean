/-
This file counts the events that the handling of payments publishes for one service request.

A handler reads the request, reads the history of its payments, saves the request it has read,
reads the request once more and publishes what it then finds. The four are separate steps, and
the steps of different handlers interleave with each other, with payloads that are posted and
with every other operation on the request.

An event is owed from the moment a handler has saved a payment until it publishes it. The
published events and the owed ones are counted together, and the count is bounded by what the
stored request says: one for a fee that is paid and one for every order that is.
-/

import FieldService.Gateway.Uninterrupted
import FieldService.Lifecycle.FeePayment

namespace FieldService

open Execution

/-! ### Events and commands -/

/-- The events the handler publishes. -/
inductive ServiceRequestEvent where
  | confirmed (serviceRequest : ServiceRequest) (initiateDispatchSequence : Bool)
  | rescheduled (serviceRequest : ServiceRequest) (impactedServiceProviderId : Option Uuid)
  | failed (serviceRequest : ServiceRequest)
  deriving DecidableEq, Repr

structure InitiateAutoAssignmentCommand where
  serviceRequestId : String
  deriving DecidableEq, Repr

/-- The saga that answers a `ServiceRequestConfirmedEvent`. -/
def serviceRequestConfirmed : ServiceRequestEvent → List InitiateAutoAssignmentCommand
  | .confirmed serviceRequest initiateDispatchSequence =>
    if initiateDispatchSequence then [⟨serviceRequest.id⟩] else []
  | _ => []

/-- The events a handler publishes after its save, by what it has saved and what it reads
afterwards. A history without a response has no status to go by. -/
def PaymentGatewayRespondedEvent.announced (event : PaymentGatewayRespondedEvent)
    (saved : ServiceRequest) (history : PaymentGatewayResponseHistory)
    (serviceRequest : ServiceRequest) : List ServiceRequestEvent :=
  match event.paymentPurposeCode with
  | none => []
  | some .fee =>
    (if serviceRequest.hasCustomerPaid .fee then [.confirmed serviceRequest true] else []) ++
      (if serviceRequest.service.hasBeenCancelled &&
          history.mostRecentResponse.any (·.responseStatus = .failed) then
        [.failed serviceRequest]
      else [])
  | some .ecRescheduleSurcharge =>
    if saved.hasBeenRescheduledOnce then
      [.rescheduled serviceRequest
        serviceRequest.getCustomerRescheduleOrder.impactedServiceProviderId]
    else []

/-! ### Handlers -/

/-- A request as a handler has read it. The orders of the customer are numbered as they are
filed, and a reading notes the number of the order it has found. -/
structure Reading where
  serviceRequest : ServiceRequest
  filing : Nat
  deriving DecidableEq, Repr

/-- How far a handler has come. -/
inductive Stage where
  | published
  | loaded (reading : Reading)
  | lookedUp (reading : Reading) (history : PaymentGatewayResponseHistory)
  | saved (reading : Reading) (history : PaymentGatewayResponseHistory)
  | handled
  deriving DecidableEq, Repr

/-- The handling of one `PaymentGatewayRespondedEvent`. -/
structure Handler where
  event : PaymentGatewayRespondedEvent
  stage : Stage
  deriving DecidableEq, Repr

/-- A published event and what its handler has saved before. -/
structure Publication where
  event : ServiceRequestEvent
  saved : Reading
  deriving DecidableEq, Repr

/-! ### The request and its handlers -/

/-- A service request whose payments are being handled. -/
structure Publishing where
  world : World
  /-- How many reschedule orders the customer has filed. -/
  filed : Nat
  /-- The number of the order that is stored. -/
  filing : Nat
  handlers : List Handler
  publications : List Publication

/-- The operations on payments. These are posted and handled step by step here. -/
def Operation.isPayment : Operation → Bool
  | .respond _ _ _ => true
  | .gatewayResponded _ => true
  | _ => false

inductive PublishingAction where
  | wait (milliseconds : Nat)
  /-- A payload is posted for a request of the tenant. -/
  | post (principalGroup : Tenant) (payload : Payload) (override : Bool)
  /-- A handler reads the service request. -/
  | load (index : Nat)
  /-- It reads the history of the payments. -/
  | lookUp (index : Nat)
  /-- It saves the service request. -/
  | save (index : Nat)
  /-- It reads the service request once more and publishes. -/
  | reread (index : Nat)
  /-- Another operation on the service request. -/
  | operate (action : Timed) (other : action.operation.isPayment = false)

namespace Publishing

/-- A stored service request, before anything has been published about it. -/
def begin (world : World) : Publishing := ⟨world, 0, 0, [], []⟩

variable (environment : Environment) (publishing : Publishing)

/-- A handler moves on. -/
def advance (index : Nat) (event : PaymentGatewayRespondedEvent) (stage : Stage) : Publishing :=
  { publishing with handlers := publishing.handlers.set index ⟨event, stage⟩ }

/-- The event of a payload is handled for this request when it refers to it, or to none: a
query without an identifier finds an arbitrary request. -/
def post (principalGroup : Tenant) (payload : Payload) (override : Bool) : Publishing :=
  let stored := iPay88Response publishing.world.repository publishing.world.clock principalGroup
    payload.splitRefNo override
  let events := stored.2.toList.filter fun event =>
    event.referenceId.all fun id => id = publishing.world.request.id
  { publishing with
    world := { publishing.world with repository := stored.1 }
    handlers := publishing.handlers ++ events.map (⟨·, .published⟩) }

def load (index : Nat) : Publishing :=
  match publishing.handlers[index]? with
  | some ⟨event, .published⟩ =>
    publishing.advance index event (.loaded ⟨publishing.world.load, publishing.filing⟩)
  | _ => publishing

def lookUp (index : Nat) : Publishing :=
  match publishing.handlers[index]? with
  | some ⟨event, .loaded reading⟩ =>
    match event.paymentPurposeCode with
    | none => publishing.advance index event .handled
    | some purpose =>
      publishing.advance index event
        (.lookedUp reading (publishing.world.repository.lookup reading.serviceRequest.id purpose))
  | _ => publishing

def save (index : Nat) : Publishing :=
  match publishing.handlers[index]? with
  | some ⟨event, .lookedUp reading history⟩ =>
    match event.outcome environment reading.serviceRequest history publishing.world.clock with
    | none => publishing.advance index event .handled
    | some saved =>
      { publishing.advance index event (.saved ⟨saved, reading.filing⟩ history) with
        world := publishing.world.save environment saved
        filing := reading.filing }
  | _ => publishing

def reread (index : Nat) : Publishing :=
  match publishing.handlers[index]? with
  | some ⟨event, .saved reading history⟩ =>
    { publishing.advance index event .handled with
      publications := publishing.publications ++
        (event.announced reading.serviceRequest history publishing.world.load).map
          (⟨·, reading⟩) }
  | _ => publishing

/-- The operation files an order. -/
def files (action : Timed) : Bool :=
  match action.operation with
  | .reschedule start finish =>
    ((publishing.world.wait action.elapsed).reschedule environment start finish).isOk
  | _ => false

def operate (action : Timed) : Publishing :=
  if publishing.files environment action then
    { publishing with
      world := publishing.world.step environment action
      filed := publishing.filed + 1
      filing := publishing.filed + 1 }
  else { publishing with world := publishing.world.step environment action }

def step : PublishingAction → Publishing
  | .wait milliseconds => { publishing with world := publishing.world.wait milliseconds }
  | .post principalGroup payload override => publishing.post principalGroup payload override
  | .load index => publishing.load index
  | .lookUp index => publishing.lookUp index
  | .save index => publishing.save environment index
  | .reread index => publishing.reread index
  | .operate action _ => publishing.operate environment action

theorem reread_world (index : Nat) : (publishing.reread index).world = publishing.world := by
  rw [reread]
  split <;> rfl

/-- A handler that nobody interrupts does what the operation does. -/
theorem run_handling {index : Nat} {event : PaymentGatewayRespondedEvent}
    (found : publishing.handlers[index]? = some ⟨event, .published⟩) :
    (run (step environment) publishing
        [.load index, .lookUp index, .save index, .reread index]).world =
      publishing.world.step environment ⟨0, .gatewayResponded event.paymentPurposeCode⟩ := by
  have inside : index < publishing.handlers.length :=
    (List.getElem?_eq_some_iff.mp found).1
  rw [World.step_gatewayResponded]
  simp only [run, List.foldl_cons, List.foldl_nil, step, load, found, advance, lookUp,
    List.getElem?_set_self inside]
  rcases about : event.paymentPurposeCode with _ | purpose
  · simp only [List.getElem?_set_self, List.length_set, inside, save, reread]
  · simp only [List.getElem?_set_self, List.length_set, inside, save, reread_world]
    have same : publishing.world.load.id = publishing.world.request.id := rfl
    rw [same]
    rcases event.outcome environment publishing.world.load
      (publishing.world.repository.lookup publishing.world.request.id purpose)
      publishing.world.clock with _ | saved
    · rfl
    · rfl

end Publishing

/-- What a handler saves was unpaid when it was read. The payment of the fee leaves the order
alone, and that of an order makes the fee as paid as the last response says. -/
theorem PaymentGatewayRespondedEvent.outcome_payments {environment : Environment}
    {event : PaymentGatewayRespondedEvent} {serviceRequest saved : ServiceRequest}
    {history : PaymentGatewayResponseHistory} {now : Time}
    (saves : event.outcome environment serviceRequest history now = some saved) :
    (event.paymentPurposeCode = some .fee ∧ serviceRequest.hasCustomerPaid .fee = false ∧
        saved.customerRescheduleOrder = serviceRequest.customerRescheduleOrder) ∨
      (event.paymentPurposeCode = some .ecRescheduleSurcharge ∧
        serviceRequest.hasCustomerPaid .ecRescheduleSurcharge = false ∧
        saved.service = serviceRequest.service.reschedule) := by
  unfold PaymentGatewayRespondedEvent.outcome at saves
  split at saves
  · cases saves
  · rename_i about
    split at saves
    · cases saves
    rename_i unpaid
    cases saves
    exact Or.inl ⟨about, Bool.eq_false_iff.mpr unpaid, rfl⟩
  · rename_i about
    split at saves
    · cases saves
    rename_i unpaid
    split at saves
    · cases saves
    rename_i executed returns
    obtain rfl := Option.some.inj saves
    obtain ⟨-, -, -, order, appointment, -, rfl⟩ :=
      ServiceRequest.executeCustomerRescheduleOrder_returns returns
    exact Or.inr ⟨about, Bool.eq_false_iff.mpr unpaid, rfl⟩

/-! ### One effect for each payment -/

/-- What a payment brings about: the fee confirms the request, and the surcharge of an order
reschedules it. -/
inductive PaymentEffect where
  | confirmation
  | rescheduling (filing : Nat)
  deriving DecidableEq, Repr

/-- The event brings the effect about. A rescheduling counts when its order has been paid. -/
def Publication.isOf (effect : PaymentEffect) (publication : Publication) : Bool :=
  match effect, publication.event with
  | .confirmation, .confirmed _ _ => true
  | .rescheduling filing, .rescheduled _ _ =>
    publication.saved.filing = filing &&
      publication.saved.serviceRequest.hasCustomerPaid .ecRescheduleSurcharge
  | _, _ => false

/-- No payment has brought its effect about twice. -/
structure Publishing.TakesEffectOnce (publishing : Publishing) : Prop where
  confirmed : publishing.publications.countP (·.isOf .confirmation) ≤ 1
  dispatched :
    (publishing.publications.flatMap fun publication =>
      serviceRequestConfirmed publication.event).length ≤ 1
  rescheduled : ∀ filing, publishing.publications.countP (·.isOf (.rescheduling filing)) ≤ 1

/-! ### Nothing has happened since the reading -/

/-- What is stored is, as far as payments go, what was read: the order is the same, the
payment is not recorded yet, and the other one is not lost. -/
def Reading.StillStands (reading : Reading) (publishing : Publishing) : PaymentPurposeCode → Prop
  | .fee =>
    reading.filing = publishing.filing ∧
      publishing.world.request.hasCustomerPaid .fee = false ∧
      (publishing.world.request.hasCustomerPaid .ecRescheduleSurcharge = true →
        reading.serviceRequest.hasCustomerPaid .ecRescheduleSurcharge = true)
  | .ecRescheduleSurcharge =>
    reading.filing = publishing.filing ∧
      publishing.world.request.hasCustomerPaid .ecRescheduleSurcharge = false ∧
      (publishing.world.request.hasCustomerPaid .fee = true →
        calculatePaymentStatus reading.serviceRequest.service.lastCustomerPaymentGatewayResponse =
          .succeeded)

/-- A handler that is going to save has read what is stored. -/
def Handler.SavesCurrent (handler : Handler) (publishing : Publishing) : Prop :=
  match handler.stage, handler.event.paymentPurposeCode with
  | .lookedUp reading _, some purpose =>
    reading.serviceRequest.hasCustomerPaid purpose = false →
      reading.StillStands publishing purpose
  | _, _ => True

/-- A handler that is going to find the fee paid has saved the payment itself. -/
def Handler.RereadsOwn (handler : Handler) (publishing : Publishing) : Prop :=
  match handler.stage, handler.event.paymentPurposeCode with
  | .saved reading _, some .fee =>
    publishing.world.request.hasCustomerPaid .fee = true →
      reading.serviceRequest.hasCustomerPaid .fee = true
  | _, _ => True

/-- The step disturbs no other handler: what is saved is current, what is read again is one's
own, and another operation does not take the fee back. -/
def Publishing.Undisturbed (environment : Environment) (publishing : Publishing) :
    PublishingAction → Prop
  | .save index => ∀ handler ∈ publishing.handlers[index]?, handler.SavesCurrent publishing
  | .reread index => ∀ handler ∈ publishing.handlers[index]?, handler.RereadsOwn publishing
  | .operate action _ =>
    publishing.world.request.hasCustomerPaid .fee = true →
      ExpiresUnpaid publishing.world action ∧ FeeRecorded environment publishing.world action
  | _ => True

section

variable (environment : Environment) (publishing : Publishing)

instance (reading : Reading) (purpose : PaymentPurposeCode) :
    Decidable (reading.StillStands publishing purpose) :=
  match purpose with
  | .fee => inferInstanceAs (Decidable (_ ∧ _ ∧ (_ → _)))
  | .ecRescheduleSurcharge => inferInstanceAs (Decidable (_ ∧ _ ∧ (_ → _)))

instance (handler : Handler) : Decidable (handler.SavesCurrent publishing) := by
  unfold Handler.SavesCurrent
  split <;> infer_instance

instance (handler : Handler) : Decidable (handler.RereadsOwn publishing) := by
  unfold Handler.RereadsOwn
  split <;> infer_instance

instance (action : PublishingAction) : Decidable (publishing.Undisturbed environment action) :=
  match action with
  | .save index =>
    inferInstanceAs (Decidable (∀ handler ∈ publishing.handlers[index]?, _))
  | .reread index =>
    inferInstanceAs (Decidable (∀ handler ∈ publishing.handlers[index]?, _))
  | .operate _ _ => inferInstanceAs (Decidable (_ → _))
  | .wait _ => inferInstanceAs (Decidable True)
  | .post _ _ _ => inferInstanceAs (Decidable True)
  | .load _ => inferInstanceAs (Decidable True)
  | .lookUp _ => inferInstanceAs (Decidable True)

end

/-! ### What is owed -/

theorem countP_set_add {Element : Type} (test : Element → Bool) {list : List Element}
    {index : Nat} {old : Element} (found : list[index]? = some old) (new : Element) :
    (list.set index new).countP test + (test old).toNat = list.countP test + (test new).toNat := by
  induction list generalizing index with
  | nil => cases found
  | cons first rest inductionHypothesis =>
    cases index with
    | zero =>
      cases found
      rw [List.set_cons_zero, List.countP_cons, List.countP_cons]
      cases test old <;> cases test new <;> simp
    | succ index =>
      have later := inductionHypothesis found
      rw [List.set_cons_succ, List.countP_cons, List.countP_cons]
      omega

/-- The handler has saved the payment and has not published its effect. -/
def Handler.owes (effect : PaymentEffect) (handler : Handler) : Bool :=
  match effect, handler.event.paymentPurposeCode, handler.stage with
  | .confirmation, some .fee, .saved reading _ => reading.serviceRequest.hasCustomerPaid .fee
  | .rescheduling filing, some .ecRescheduleSurcharge, .saved reading _ =>
    reading.filing = filing && reading.serviceRequest.hasCustomerPaid .ecRescheduleSurcharge
  | _, _, _ => false

/-- Only a handler that has saved owes anything. -/
theorem Handler.owes_eq_false {handler : Handler}
    (unsaved : ∀ reading history, handler.stage ≠ .saved reading history)
    (effect : PaymentEffect) : handler.owes effect = false := by
  unfold Handler.owes
  split
  · rename_i saved
    exact absurd saved (unsaved _ _)
  · rename_i saved
    exact absurd saved (unsaved _ _)
  · rfl

namespace Publishing

/-- How often an effect has been published or is owed. -/
def owed (publishing : Publishing) (effect : PaymentEffect) : Nat :=
  publishing.publications.countP (·.isOf effect) + publishing.handlers.countP (·.owes effect)

/-- How often an effect may be published, by what is stored. -/
def due (publishing : Publishing) : PaymentEffect → Nat
  | .confirmation => (publishing.world.request.hasCustomerPaid .fee).toNat
  | .rescheduling filing =>
    if filing < publishing.filed then 1
    else if filing = publishing.filed then
      (publishing.world.request.hasCustomerPaid .ecRescheduleSurcharge).toNat
    else 0

/-- The last order may be published once it is paid. -/
theorem due_last (publishing : Publishing) :
    publishing.due (.rescheduling publishing.filed) =
      (publishing.world.request.hasCustomerPaid .ecRescheduleSurcharge).toNat := by
  rw [due, if_neg (lt_irrefl _), if_pos rfl]

/-- The stored order is the last one, and no more is owed than is due. -/
structure Settled (publishing : Publishing) : Prop where
  current : publishing.filing = publishing.filed
  covered : ∀ effect, publishing.owed effect ≤ publishing.due effect

theorem due_le_one (publishing : Publishing) (effect : PaymentEffect) :
    publishing.due effect ≤ 1 := by
  cases effect with
  | confirmation => exact Bool.toNat_le _
  | rescheduling filing =>
    rw [due]
    split
    · exact le_rfl
    split
    · exact Bool.toNat_le _
    · exact Nat.zero_le 1

variable {environment : Environment} {publishing after : Publishing}

theorem Settled.takesEffectOnce (settled : publishing.Settled) : publishing.TakesEffectOnce := by
  have once : ∀ effect, publishing.publications.countP (·.isOf effect) ≤ 1 := by
    intro effect
    have covered := settled.covered effect
    have atMost := publishing.due_le_one effect
    rw [owed] at covered
    omega
  refine ⟨once .confirmation, ?_, fun filing => once (.rescheduling filing)⟩
  refine le_trans ?_ (once .confirmation)
  induction publishing.publications with
  | nil => exact le_rfl
  | cons publication rest inductionHypothesis =>
    rw [List.flatMap_cons, List.length_append, List.countP_cons, Nat.add_comm]
    refine Nat.add_le_add inductionHypothesis ?_
    rcases publication with ⟨⟨serviceRequest, initiates⟩ | _ | _, saved⟩
    · cases initiates
      · exact Nat.zero_le _
      · exact le_rfl
    · exact Nat.zero_le _
    · exact Nat.zero_le _

/-- Nothing more becomes owed and nothing becomes undue. -/
theorem Settled.mono (settled : publishing.Settled) (filing : after.filing = after.filed)
    (owed : ∀ effect, after.owed effect ≤ publishing.owed effect)
    (due : ∀ effect, publishing.due effect ≤ after.due effect) : after.Settled :=
  ⟨filing, fun effect => (owed effect).trans ((settled.covered effect).trans (due effect))⟩

/-- What is due depends on the payments that are recorded. -/
theorem due_mono (filed : after.filed = publishing.filed)
    (fee : publishing.world.request.hasCustomerPaid .fee = true →
      after.world.request.hasCustomerPaid .fee = true)
    (surcharge : publishing.world.request.hasCustomerPaid .ecRescheduleSurcharge = true →
      after.world.request.hasCustomerPaid .ecRescheduleSurcharge = true)
    (effect : PaymentEffect) : publishing.due effect ≤ after.due effect := by
  cases effect with
  | confirmation => exact Bool.toNat_le_toNat fee
  | rescheduling filing =>
    rw [due, due, filed]
    split
    · exact le_rfl
    split
    · exact Bool.toNat_le_toNat surcharge
    · exact le_rfl

/-- A handler that moves on takes what it owed with it. -/
theorem owed_advance {index : Nat} {handler : Handler} (effect : PaymentEffect)
    (found : publishing.handlers[index]? = some handler) (event : PaymentGatewayRespondedEvent)
    (stage : Stage) :
    (publishing.advance index event stage).owed effect + (handler.owes effect).toNat =
      publishing.owed effect + (Handler.owes effect ⟨event, stage⟩).toNat := by
  have counts := countP_set_add (·.owes effect) found ⟨event, stage⟩
  simp only [owed, advance]
  omega

/-- A handler that owes nothing moves on and owes nothing. -/
theorem Settled.advance (settled : publishing.Settled) {index : Nat} {handler : Handler}
    (found : publishing.handlers[index]? = some handler) {event : PaymentGatewayRespondedEvent}
    {stage : Stage} (nothing : ∀ effect, Handler.owes effect ⟨event, stage⟩ = false) :
    (publishing.advance index event stage).Settled := by
  refine settled.mono settled.current (fun effect => ?_) (fun _ => le_rfl)
  have counts := owed_advance effect found event stage
  rw [nothing effect] at counts
  exact (Nat.le_add_right _ _).trans counts.le

/-! ### The steps of a run -/

theorem settled_post (settled : publishing.Settled) (principalGroup : Tenant) (payload : Payload)
    (override : Bool) : (publishing.post principalGroup payload override).Settled := by
  refine settled.mono settled.current (fun effect => ?_) (fun _ => le_rfl)
  rw [owed, owed, post]
  refine Nat.add_le_add_left (Eq.le ?_) _
  rw [List.countP_append, List.countP_map, Nat.add_eq_left]
  refine List.countP_eq_zero.mpr fun event _ => ?_
  exact Bool.eq_false_iff.mp (Handler.owes_eq_false (by simp) effect)

theorem settled_load (settled : publishing.Settled) (index : Nat) :
    (publishing.load index).Settled := by
  rw [load]
  split
  · rename_i event found
    exact settled.advance found (Handler.owes_eq_false (by simp))
  · exact settled

theorem settled_lookUp (settled : publishing.Settled) (index : Nat) :
    (publishing.lookUp index).Settled := by
  rw [lookUp]
  split
  · rename_i event reading found
    split
    · exact settled.advance found (Handler.owes_eq_false (by simp))
    · exact settled.advance found (Handler.owes_eq_false (by simp))
  · exact settled

/-- An operation that files no order and handles no payment keeps the stored order. -/
theorem operate_order {action : Timed} (other : action.operation.isPayment = false)
    (files : publishing.files environment action = false) :
    (publishing.world.step environment action).request.customerRescheduleOrder =
      publishing.world.request.customerRescheduleOrder := by
  obtain ⟨elapsed, operation⟩ := action
  cases operation with
  | reschedule start finish =>
    simp only [Publishing.files] at files
    rcases result : (publishing.world.wait elapsed).reschedule environment start finish with
      error | done
    · have kept : publishing.world.step environment ⟨elapsed, .reschedule start finish⟩ =
          publishing.world.wait elapsed := by
        rw [World.step, World.execute, result]
      rw [kept]
      rfl
    · rw [result] at files
      cases files
  | gatewayResponded purpose => cases other
  | _ => exact publishing.world.step_order environment rfl

theorem settled_operate (settled : publishing.Settled) {action : Timed}
    (other : action.operation.isPayment = false)
    (undisturbed : publishing.Undisturbed environment (.operate action other)) :
    (publishing.operate environment action).Settled := by
  have fee : publishing.world.request.hasCustomerPaid .fee = true →
      (publishing.world.step environment action).request.hasCustomerPaid .fee = true := by
    intro paid
    obtain ⟨expires, recorded⟩ := undisturbed paid
    have notFee : action.operation ≠ .gatewayResponded (some .fee) := by
      intro same
      rw [same] at other
      cases other
    have framed := (feeFramed_step_iff environment publishing.world action expires).mpr recorded
    exact ((feeFramed_iff_of_ne notFee).mp framed).trans paid
  rw [operate]
  split
  · refine settled.mono rfl (fun _ => le_rfl) fun effect => ?_
    cases effect with
    | confirmation => exact Bool.toNat_le_toNat fee
    | rescheduling filing =>
      by_cases filed : filing < publishing.filed + 1
      · refine (publishing.due_le_one _).trans (Eq.ge ?_)
        exact if_pos filed
      · rw [due, if_neg (by omega), if_neg (by omega)]
        exact Nat.zero_le _
  · rename_i files
    refine settled.mono settled.current (fun _ => le_rfl) (due_mono rfl fee fun paid => ?_)
    rw [ServiceRequest.hasCustomerPaid, ServiceRequest.getCustomerRescheduleOrder,
      operate_order other (Bool.eq_false_iff.mpr files)]
    exact paid

/-- What a handler has saved may be owed when it was not due before and is due afterwards. -/
theorem Settled.saved (settled : publishing.Settled) {index : Nat}
    {event : PaymentGatewayRespondedEvent} {reading : Reading}
    {history : PaymentGatewayResponseHistory} {saved : ServiceRequest} {world : World}
    (found : publishing.handlers[index]? = some ⟨event, .lookedUp reading history⟩)
    (result : after =
      { publishing.advance index event (.saved ⟨saved, reading.filing⟩ history) with
        world := world
        filing := reading.filing })
    (current : reading.filing = publishing.filing)
    (due : ∀ effect, publishing.due effect ≤ after.due effect)
    (owing : ∀ effect, Handler.owes effect ⟨event, .saved ⟨saved, reading.filing⟩ history⟩ = true →
      publishing.due effect = 0 ∧ after.due effect = 1) : after.Settled := by
  have counts : ∀ effect, after.owed effect = publishing.owed effect +
      (Handler.owes effect ⟨event, .saved ⟨saved, reading.filing⟩ history⟩).toNat := by
    intro effect
    rw [← owed_advance effect found event (.saved ⟨saved, reading.filing⟩ history), result,
      Handler.owes_eq_false (by simp)]
    rfl
  refine ⟨?_, fun effect => ?_⟩
  · rw [result]
    exact current.trans settled.current
  · rw [counts]
    have covered := settled.covered effect
    rcases owes : Handler.owes effect ⟨event, .saved ⟨saved, reading.filing⟩ history⟩
    · exact covered.trans (due effect)
    · obtain ⟨before, afterwards⟩ := owing effect owes
      rw [before] at covered
      rw [afterwards]
      exact Nat.add_le_add_right covered 1

/-- A save of what is current pays nothing twice and loses no payment. -/
theorem settled_save (settled : publishing.Settled) {index : Nat}
    (undisturbed : publishing.Undisturbed environment (.save index)) :
    (publishing.save environment index).Settled := by
  rw [save]
  split
  swap
  · exact settled
  rename_i event reading history found
  split
  · exact settled.advance found (Handler.owes_eq_false (by simp))
  rename_i saved saves
  have stands := undisturbed _ found
  obtain ⟨about, unpaid, kept⟩ | ⟨about, unpaid, kept⟩ := event.outcome_payments saves
  · rw [Handler.SavesCurrent, about] at stands
    obtain ⟨current, unrecorded, other⟩ := stands unpaid
    refine settled.saved found rfl current (due_mono rfl ?_ ?_) fun effect owes => ?_
    · intro paid
      cases unrecorded.symm.trans paid
    · intro paid
      have same : saved.hasCustomerPaid .ecRescheduleSurcharge =
          reading.serviceRequest.hasCustomerPaid .ecRescheduleSurcharge := by
        rw [ServiceRequest.hasCustomerPaid, ServiceRequest.getCustomerRescheduleOrder, kept]
        rfl
      exact same.trans (other paid)
    · cases effect with
      | confirmation =>
        have paid : saved.hasCustomerPaid .fee = true := by
          simpa [Handler.owes, about] using owes
        exact ⟨congrArg Bool.toNat unrecorded, congrArg Bool.toNat paid⟩
      | rescheduling filing => simp [Handler.owes, about] at owes
  · rw [Handler.SavesCurrent, about] at stands
    obtain ⟨current, unrecorded, other⟩ := stands unpaid
    refine settled.saved found rfl current (due_mono rfl ?_ ?_) fun effect owes => ?_
    · intro paid
      show saved.service.hasCustomerPaid = true
      rw [kept]
      exact decide_eq_true (other paid)
    · intro paid
      cases unrecorded.symm.trans paid
    · cases effect with
      | confirmation => simp [Handler.owes, about] at owes
      | rescheduling filing =>
        obtain ⟨rfl, paid⟩ : reading.filing = filing ∧
            saved.hasCustomerPaid .ecRescheduleSurcharge = true := by
          simpa [Handler.owes, about] using owes
        have last : reading.filing = publishing.filed := current.trans settled.current
        rw [last]
        exact ⟨(due_last _).trans (congrArg Bool.toNat unrecorded),
          (due_last _).trans (congrArg Bool.toNat paid)⟩

/-- A handler publishes no more than it owes. -/
theorem announced_le (event : PaymentGatewayRespondedEvent) (reading : Reading)
    (history : PaymentGatewayResponseHistory) (effect : PaymentEffect)
    (own : Handler.RereadsOwn ⟨event, .saved reading history⟩ publishing) :
    ((event.announced reading.serviceRequest history publishing.world.load).map
        (⟨·, reading⟩ : ServiceRequestEvent → Publication)).countP (·.isOf effect) ≤
      (Handler.owes effect ⟨event, .saved reading history⟩).toNat := by
  have counted : ∀ owes : Bool, (if owes = true then 1 else 0) ≤ owes.toNat := by decide
  rcases about : event.paymentPurposeCode with _ | _ | _
  · rw [PaymentGatewayRespondedEvent.announced, about]
    exact Nat.zero_le _
  · rw [PaymentGatewayRespondedEvent.announced, about]
    rw [Handler.RereadsOwn, about] at own
    simp only [List.map_append, List.countP_append]
    cases effect with
    | confirmation =>
      have failures : ∀ failed : Bool,
          ((if failed then [.failed publishing.world.load] else []).map
            (⟨·, reading⟩ : ServiceRequestEvent → Publication)).countP
              (·.isOf .confirmation) = 0 := by
        intro failed
        cases failed <;> rfl
      rw [failures]
      by_cases paid : publishing.world.load.hasCustomerPaid .fee = true
      · have owes : Handler.owes .confirmation ⟨event, .saved reading history⟩ = true := by
          simpa [Handler.owes, about] using own paid
        rw [owes, if_pos paid]
        exact le_rfl
      · rw [if_neg paid]
        exact Nat.zero_le _
    | rescheduling filing =>
      split <;> split <;> exact Nat.zero_le _
  · rw [PaymentGatewayRespondedEvent.announced, about]
    cases effect with
    | confirmation =>
      simp only []
      split <;> exact Nat.zero_le _
    | rescheduling filing =>
      simp only []
      split
      · have same : Handler.owes (.rescheduling filing) ⟨event, .saved reading history⟩ =
            (decide (reading.filing = filing) &&
              reading.serviceRequest.hasCustomerPaid .ecRescheduleSurcharge) := by
          simp only [Handler.owes, about]
        rw [same, List.map_singleton, List.countP_singleton]
        exact counted _
      · exact Nat.zero_le _

theorem settled_reread (settled : publishing.Settled) {index : Nat}
    (undisturbed : publishing.Undisturbed environment (.reread index)) :
    (publishing.reread index).Settled := by
  rw [reread]
  split
  swap
  · exact settled
  rename_i event reading history found
  refine settled.mono settled.current (fun effect => ?_) (fun _ => le_rfl)
  have counts := owed_advance effect found event .handled
  have announced := announced_le event reading history effect (undisturbed _ found)
  have nothing : Handler.owes effect ⟨event, .handled⟩ = false :=
    Handler.owes_eq_false (by simp) effect
  rw [nothing] at counts
  simp only [owed, Publishing.advance, Bool.toNat_false, List.countP_append] at counts ⊢
  omega

theorem settled_step (environment : Environment) (publishing : Publishing)
    (action : PublishingAction) (settled : publishing.Settled)
    (undisturbed : publishing.Undisturbed environment action) :
    (publishing.step environment action).Settled := by
  cases action with
  | wait milliseconds =>
    exact settled.mono settled.current (fun _ => le_rfl) (due_mono rfl id id)
  | post principalGroup payload override =>
    exact settled_post settled principalGroup payload override
  | load index => exact settled_load settled index
  | lookUp index => exact settled_lookUp settled index
  | save index => exact settled_save settled undisturbed
  | reread index => exact settled_reread settled undisturbed
  | operate action other => exact settled_operate settled other undisturbed

end Publishing

/-- In a run whose steps disturb no other handler, no payment takes effect twice: the fee
confirms the request once, dispatching is initiated once, and every paid order reschedules it
once. -/
theorem takesEffectOnce_throughout {environment : Environment} (world : World)
    (actions : List PublishingAction)
    (undisturbed : Along (Publishing.step environment) (Publishing.Undisturbed environment)
      (.begin world) actions) :
    Throughout (Publishing.step environment) Publishing.TakesEffectOnce (.begin world) actions := by
  refine throughout_of_invariant _ (Publishing.Undisturbed environment) Publishing.Settled _
    (Publishing.settled_step environment) (fun _ settled => settled.takesEffectOnce) _ _ ?_
    undisturbed
  exact ⟨rfl, fun _ => Nat.zero_le _⟩

/-- The browser reports a payment and so does the webhook. -/
def examplePosts : List PublishingAction :=
  [.post .daikin (examplePayload "1") false, .post .daikin (examplePayload "1") true]

/-- The handlers of the two reports take turns. -/
theorem takesEffectOnce_throughout_turns :
    Throughout (Publishing.step exampleEnvironment) Publishing.TakesEffectOnce
      (.begin (.opened exampleRequest .empty))
      (examplePosts ++
        [.load 0, .lookUp 0, .save 0, .reread 0, .load 1, .lookUp 1, .save 1, .reread 1]) :=
  takesEffectOnce_throughout _ _ (by decide +kernel)

/-- Both handlers read the request before either has saved it, and it is confirmed twice. -/
theorem not_takesEffectOnce_together :
    ¬ Throughout (Publishing.step exampleEnvironment) Publishing.TakesEffectOnce
      (.begin (.opened exampleRequest .empty))
      (examplePosts ++
        [.load 0, .load 1, .lookUp 0, .lookUp 1, .save 0, .reread 0, .save 1, .reread 1]) := by
  intro throughout
  have once := (throughout _ (List.prefix_refl _)).confirmed
  exact absurd once (by decide +kernel)

end FieldService
