/-
This file runs the expiry job beside the payments, and asks when it loses none.

The job reads the requests that have timed out, and then, one after the other, reads each
again and saves it as expired. It looks at no payment on the way, and neither does a handler
that saves a failure look again before it saves. Both are writers of a failure between their
reading and their saving. `no_payment_lost` says that a paid request is never turned into a
failed one if a writer of a failure starts only for a request whose fee has not succeeded,
and no success for it arrives while the writer is on its way.
-/

import FieldService.Gateway.Outcome

namespace FieldService

open Execution Gateway

/-! ### The job -/

/-- How far the expiry job has come: what is left of its batch, and the request it has read. -/
inductive ExpiryJob where
  | idle
  | running (remaining : List String)
  | expiring (serviceRequest : ServiceRequest) (remaining : List String)
  deriving DecidableEq, Repr

/-- The service request the job has read and not saved yet. -/
def ExpiryJob.copy : ExpiryJob → Option ServiceRequest
  | .expiring serviceRequest _ => some serviceRequest
  | _ => none

/-- The request the job reads next. -/
def ExpiryJob.next : ExpiryJob → Option String
  | .running (id :: _) => some id
  | _ => none

/-- The gateway with the expiry job beside it. -/
structure Backend where
  gateway : Gateway
  job : ExpiryJob

inductive BackendAction where
  | payment (action : GatewayAction)
  /-- `findTimedOutServiceRequests`. -/
  | findTimedOut
  /-- `expire` reads the next request of the batch. -/
  | get
  /-- It saves the request. -/
  | expire

namespace Backend

variable (environment : Environment) (processingTimeoutInMinutes : Int) (backend : Backend)

/-- The requests that have been waiting for their payment too long. -/
def timedOut : List String :=
  (backend.gateway.requests.rows.filter fun request =>
    request.createdAt < addMinutes backend.gateway.clock (-processingTimeoutInMinutes) ∧
      request.service.allocationStatus = .unassigned ∧
      request.service.status = .awaitingPayment).map (·.id)

/-- The job reads its batch. -/
def findTimedOut : Backend :=
  match backend.job with
  | .idle => { backend with job := .running (backend.timedOut processingTimeoutInMinutes) }
  | _ => backend

/-- A request that is gone ends the script. -/
def get : Backend :=
  match backend.job with
  | .running [] => { backend with job := .idle }
  | .running (id :: remaining) =>
    match backend.gateway.requests.find id with
    | none => { backend with job := .idle }
    | some stored =>
      { backend with
        job := .expiring
          { stored with service := stored.service.load backend.gateway.repository } remaining }
  | _ => backend

def expire : Backend :=
  match backend.job with
  | .expiring serviceRequest remaining =>
    { gateway := backend.gateway.save environment
        (serviceRequest.expiredBySystem backend.gateway.clock)
      job := .running remaining }
  | _ => backend

def step : BackendAction → Backend
  | .payment action => { backend with gateway := backend.gateway.step environment action }
  | .findTimedOut => backend.findTimedOut processingTimeoutInMinutes
  | .get => backend.get
  | .expire => backend.expire environment

end Backend

/-! ### Success and failure -/

namespace Gateway

/-- The fee of the request has succeeded: the request is paid, or a stored response says so. -/
def FeeSucceeded (gateway : Gateway) (id : String) : Prop :=
  gateway.feePaid id ∨ gateway.repository.feeSettled id

instance (gateway : Gateway) (id : String) : Decidable (gateway.FeeSucceeded id) :=
  inferInstanceAs (Decidable (_ ∨ _))

/-- The request is stored as one whose payment has failed. -/
def FeeFailed (gateway : Gateway) (id : String) : Prop :=
  ∃ request ∈ gateway.requests.find id,
    request.service.status = .failedPayment ∧ request.service.paymentStatus = .failed

instance (gateway : Gateway) (id : String) : Decidable (gateway.FeeFailed id) :=
  inferInstanceAs (Decidable (∃ _ ∈ gateway.requests.find id, _ ∧ _))

/-- No request whose fee has succeeded is turned into a failed one. -/
def KeepsPayments (before after : Gateway) : Prop :=
  ∀ request ∈ before.requests.rows, before.FeeSucceeded request.id →
    after.FeeFailed request.id → before.FeeFailed request.id

instance (before after : Gateway) : Decidable (before.KeepsPayments after) :=
  inferInstanceAs (Decidable (∀ _ ∈ before.requests.rows, _ → _ → _))

end Gateway

/-- The handler has read the request as unpaid and its history as not ending in a success. -/
def Task.WritesFailure (task : Task) (id : String) : Prop :=
  match task.phase with
  | .lookedUp copy history =>
    task.event.paymentPurposeCode = some .fee ∧ copy.id = id ∧
      copy.hasCustomerPaid .fee = false ∧ ¬ history.EndsInSuccess
  | _ => False

instance (task : Task) (id : String) : Decidable (task.WritesFailure id) :=
  match task with
  | ⟨_, .lookedUp _ _⟩ => inferInstanceAs (Decidable (_ ∧ _ ∧ _ ∧ _))
  | ⟨_, .published⟩ => inferInstanceAs (Decidable False)
  | ⟨_, .loaded _⟩ => inferInstanceAs (Decidable False)
  | ⟨_, .handled⟩ => inferInstanceAs (Decidable False)

namespace Backend

/-- A failure for the request is on its way: the job or a handler has read it and not saved. -/
def FailureOnItsWay (backend : Backend) (id : String) : Prop :=
  (∃ copy ∈ backend.job.copy, copy.id = id) ∨
    ∃ task ∈ backend.gateway.tasks, task.WritesFailure id

instance (backend : Backend) (id : String) : Decidable (backend.FailureOnItsWay id) :=
  inferInstanceAs (Decidable ((∃ _ ∈ backend.job.copy, _) ∨ ∃ _ ∈ backend.gateway.tasks, _))

/-- A handler that looks up a history not ending in a success does so for a fee that has not
succeeded. -/
def LookUpUndisturbed (gateway : Gateway) (task : Task) : Prop :=
  match task.phase with
  | .loaded copy =>
    task.event.paymentPurposeCode = some .fee → copy.hasCustomerPaid .fee = false →
      ¬ (gateway.repository.lookup copy.id .fee).EndsInSuccess → ¬ gateway.FeeSucceeded copy.id
  | _ => True

instance (gateway : Gateway) (task : Task) : Decidable (LookUpUndisturbed gateway task) :=
  match task with
  | ⟨_, .loaded _⟩ => inferInstanceAs (Decidable (_ → _ → _ → _))
  | ⟨_, .published⟩ => inferInstanceAs (Decidable True)
  | ⟨_, .lookedUp _ _⟩ => inferInstanceAs (Decidable True)
  | ⟨_, .handled⟩ => inferInstanceAs (Decidable True)

/-- A handler that saves a success meets no failure on its way to the same request. -/
def FinishUndisturbed (backend : Backend) (task : Task) : Prop :=
  match task.phase with
  | .lookedUp copy history =>
    task.event.paymentPurposeCode = some .fee → history.EndsInSuccess →
      ¬ backend.FailureOnItsWay copy.id
  | _ => True

instance (backend : Backend) (task : Task) : Decidable (backend.FinishUndisturbed task) :=
  match task with
  | ⟨_, .lookedUp _ _⟩ => inferInstanceAs (Decidable (_ → _ → _))
  | ⟨_, .published⟩ => inferInstanceAs (Decidable True)
  | ⟨_, .loaded _⟩ => inferInstanceAs (Decidable True)
  | ⟨_, .handled⟩ => inferInstanceAs (Decidable True)

/-- A failure sets out only for a fee that has not succeeded, and no success comes between its
reading and its saving. -/
def Undisturbed (backend : Backend) : BackendAction → Prop
  | .payment (.post payload override anyone) =>
    ∀ serviceRequest ∈ backend.gateway.getServiceRequest payload.splitRefNo.RefNo anyone,
      ∀ id ∈ (backend.gateway.repository.destination serviceRequest.principalGroup
        payload.splitRefNo override).settled payload.splitRefNo, ¬ backend.FailureOnItsWay id
  | .payment (.lookUp index) =>
    ∀ task ∈ backend.gateway.tasks[index]?, LookUpUndisturbed backend.gateway task
  | .payment (.finish index) =>
    ∀ task ∈ backend.gateway.tasks[index]?, backend.FinishUndisturbed task
  | .get => ∀ id ∈ backend.job.next, ¬ backend.gateway.FeeSucceeded id
  | _ => True

instance (backend : Backend) (action : BackendAction) : Decidable (backend.Undisturbed action) :=
  match action with
  | .payment (.wait _) => inferInstanceAs (Decidable True)
  | .payment (.post _ _ _) =>
    inferInstanceAs (Decidable (∀ _ ∈ backend.gateway.getServiceRequest _ _,
      ∀ _ ∈ Destination.settled _ _, _))
  | .payment (.load _ _) => inferInstanceAs (Decidable True)
  | .payment (.lookUp index) => inferInstanceAs (Decidable (∀ _ ∈ backend.gateway.tasks[index]?, _))
  | .payment (.finish index) => inferInstanceAs (Decidable (∀ _ ∈ backend.gateway.tasks[index]?, _))
  | .findTimedOut => inferInstanceAs (Decidable True)
  | .get => inferInstanceAs (Decidable (∀ _ ∈ backend.job.next, _))
  | .expire => inferInstanceAs (Decidable True)

/-- A failure is on its way only to requests whose fee has not succeeded. -/
structure Calm (backend : Backend) : Prop where
  orderless : backend.gateway.Orderless
  copyOrderless : ∀ copy ∈ backend.job.copy, copy.getCustomerRescheduleOrder.isEmpty = true
  harmless : ∀ id, backend.FailureOnItsWay id → ¬ backend.gateway.FeeSucceeded id

/-! ### One step -/

section Payments

variable {environment : Environment} {gateway : Gateway}

open Gateway

/-- A fee that has succeeded after a step had succeeded before, or the step has stored or
saved a success. -/
theorem feeSucceeded_of_step (orderless : gateway.Orderless) {action : GatewayAction}
    {id : String} (succeeded : (gateway.step environment action).FeeSucceeded id) :
    gateway.FeeSucceeded id ∨
      (∃ payload override anyone serviceRequest, action = .post payload override anyone ∧
        gateway.getServiceRequest payload.splitRefNo.RefNo anyone = some serviceRequest ∧
        (gateway.repository.destination serviceRequest.principalGroup payload.splitRefNo
          override).settled payload.splitRefNo = some id) ∨
      ∃ index event copy history, action = .finish index ∧
        gateway.tasks[index]? = some ⟨event, .lookedUp copy history⟩ ∧
        event.paymentPurposeCode = some .fee ∧ copy.id = id ∧ history.EndsInSuccess := by
  obtain paid | settled := succeeded
  · obtain before | saved := feePaid_of_step orderless paid
    · exact Or.inl (Or.inl before)
    · exact Or.inr (Or.inr saved)
  · obtain before | stored := feeSettled_of_step orderless settled
    · exact Or.inl (Or.inr before)
    · exact Or.inr (Or.inl stored)

/-- A handler that writes a failure after a step did so before, or has just looked it up. -/
theorem writesFailure_of_step (orderless : gateway.Orderless) {action : GatewayAction}
    {id : String} {task : Task} (member : task ∈ (gateway.step environment action).tasks)
    (writes : task.WritesFailure id) :
    task ∈ gateway.tasks ∨ ∃ index event copy, action = .lookUp index ∧
      gateway.tasks[index]? = some ⟨event, .loaded copy⟩ ∧
      event.paymentPurposeCode = some .fee ∧ copy.id = id ∧
      copy.hasCustomerPaid .fee = false ∧
      ¬ (gateway.repository.lookup copy.id .fee).EndsInSuccess := by
  refine (mem_tasks_step orderless member).imp_right fun new => ?_
  obtain ⟨event, phase⟩ := task
  obtain rfl | rfl | ⟨stored, anyone, -, rfl⟩ | ⟨index, copy, purpose, rfl, here, about, rfl⟩ := new
  · cases writes
  · cases writes
  · cases writes
  · obtain ⟨fee, sameId, unpaid, fails⟩ := writes
    have purposed : purpose = .fee := Option.some.inj (about.symm.trans fee)
    rw [purposed] at fails
    exact ⟨index, event, copy, rfl, here, fee, sameId, unpaid, fails⟩

/-- A request that a step leaves failed was failed, or a handler was about to make it so. -/
theorem feeFailed_of_step (orderless : gateway.Orderless) {action : GatewayAction} {id : String}
    (failed : (gateway.step environment action).FeeFailed id) :
    gateway.FeeFailed id ∨ ∃ task ∈ gateway.tasks, task.WritesFailure id := by
  have effect : Effect environment gateway action (gateway.step environment action) :=
    step_effect orderless action
  generalize gateway.step environment action = after at effect failed
  rcases effect with _ | _ | _ | _ | _ | _ | _ | _ | _ | ⟨task, about, unpaid⟩
  case saved index event copy history =>
    obtain ⟨request, found, status, payment⟩ := failed
    rw [save_find] at found
    split at found
    · rename_i hit
      obtain ⟨stored, -, rfl⟩ := Option.map_eq_some_iff.mp found
      refine Or.inr ⟨_, List.mem_of_getElem? task, about, hit, unpaid, fun succeeded => ?_⟩
      have paid := (progress_hasCustomerPaid copy history gateway.clock).mpr succeeded
      have notPaid :
          (copy.deriveCustomerPaymentProgress history gateway.clock).service.paymentStatus =
            .failed := payment
      rw [ServiceRequest.hasCustomerPaid, Service.hasCustomerPaid, notPaid] at paid
      cases paid
    · exact Or.inl ⟨request, found, status, payment⟩
  all_goals exact Or.inl failed

end Payments

variable {environment : Environment} {processingTimeoutInMinutes : Int} {backend : Backend}

/-- A failure on its way to a request that a step of the payments leaves succeeded would have
been disturbed. -/
theorem Calm.payment (calm : backend.Calm) {action : GatewayAction}
    (undisturbed : backend.Undisturbed (.payment action)) :
    (backend.step environment processingTimeoutInMinutes (.payment action)).Calm := by
  refine ⟨calm.orderless.step action, calm.copyOrderless, fun id onItsWay succeeded => ?_⟩
  have source := feeSucceeded_of_step calm.orderless succeeded
  have before (setOut : backend.FailureOnItsWay id) : False := by
    obtain already | ⟨payload, override, anyone, serviceRequest, rfl, found, settles⟩ |
      ⟨index, event, copy, history, rfl, here, about, rfl, ends⟩ := source
    · exact calm.harmless id setOut already
    · exact undisturbed serviceRequest found id settles setOut
    · exact undisturbed _ here about ends setOut
  obtain read | ⟨task, member, writes⟩ := onItsWay
  · exact before (Or.inl read)
  obtain old | ⟨index, event, copy, rfl, here, about, rfl, unpaid, fails⟩ :=
    writesFailure_of_step calm.orderless member writes
  · exact before (Or.inr ⟨task, old, writes⟩)
  · -- The handler has just looked up its history, so this step has stored and saved nothing.
    obtain already | ⟨_, _, _, _, other, -⟩ | ⟨_, _, _, _, other, -⟩ := source
    · exact undisturbed _ here about unpaid fails already
    · cases other
    · cases other

/-- Expiring a request pays none and settles none. -/
theorem feeSucceeded_of_expire {serviceRequest : ServiceRequest} {now : Time} {id : String}
    (succeeded : (backend.gateway.save environment
      (serviceRequest.expiredBySystem now)).FeeSucceeded id) :
    backend.gateway.FeeSucceeded id := by
  refine succeeded.imp (fun paid => ?_) fun settled => ?_
  · rw [Gateway.feePaid_save] at paid
    split at paid
    · cases paid.2
    · exact paid
  · rw [Gateway.save_repository] at settled
    exact settled

/-- A job that has read no request brings no failure. -/
theorem Calm.withJob (calm : backend.Calm) {job : ExpiryJob} (unread : job.copy = none) :
    Calm { backend with job := job } := by
  refine ⟨calm.orderless, fun copy read => ?_, fun id onItsWay => ?_⟩
  · rw [show job.copy = none from unread] at read
    cases read
  · obtain ⟨copy, read, -⟩ | writes := onItsWay
    · rw [show job.copy = none from unread] at read
      cases read
    · exact calm.harmless id (Or.inr writes)

theorem Calm.findTimedOut (calm : backend.Calm) :
    (backend.findTimedOut processingTimeoutInMinutes).Calm := by
  unfold Backend.findTimedOut
  split
  · exact calm.withJob rfl
  · exact calm

theorem Calm.get (calm : backend.Calm) (undisturbed : backend.Undisturbed .get) :
    backend.get.Calm := by
  unfold Backend.get
  split
  · exact calm.withJob rfl
  · rename_i id remaining job
    split
    · exact calm.withJob rfl
    · rename_i stored found
      obtain ⟨member, sameId⟩ := backend.gateway.requests.find_key found
      refine ⟨calm.orderless, fun copy read => ?_, fun other onItsWay => ?_⟩
      · cases read
        have empty := calm.orderless.requests stored member
        exact empty
      · obtain ⟨copy, read, hit⟩ | writes := onItsWay
        · cases read
          obtain rfl : id = other := sameId.symm.trans hit
          exact undisturbed id (by rw [job]; rfl)
        · exact calm.harmless other (Or.inr writes)
  · exact calm

theorem Calm.expire (calm : backend.Calm) : (backend.expire environment).Calm := by
  unfold Backend.expire
  split
  · rename_i copy remaining job
    have empty := calm.copyOrderless copy (by rw [job]; rfl)
    have unread (other : ServiceRequest) : ¬ other ∈ (ExpiryJob.running remaining).copy :=
      Option.not_mem_none other
    refine ⟨calm.orderless.save empty, fun other read => absurd read (unread other),
      fun id onItsWay succeeded => ?_⟩
    refine calm.harmless id ?_ (feeSucceeded_of_expire succeeded)
    obtain ⟨other, read, -⟩ | ⟨task, member, writes⟩ := onItsWay
    · exact absurd read (unread other)
    · rw [Gateway.save_tasks] at member
      exact Or.inr ⟨task, member, writes⟩
  · exact calm

/-- An undisturbed step keeps the backend calm. -/
theorem Calm.step (calm : backend.Calm) {action : BackendAction}
    (undisturbed : backend.Undisturbed action) :
    (backend.step environment processingTimeoutInMinutes action).Calm := by
  rcases action with action | _ | _ | _
  · exact calm.payment undisturbed
  · exact calm.findTimedOut
  · exact calm.get undisturbed
  · exact calm.expire

/-- A calm backend keeps the payments at every step. -/
theorem Calm.keepsPayments (calm : backend.Calm) (action : BackendAction) :
    backend.gateway.KeepsPayments
      (backend.step environment processingTimeoutInMinutes action).gateway := by
  intro request member succeeded failed
  rcases action with action | _ | _ | _
  · obtain before | writes := feeFailed_of_step calm.orderless failed
    · exact before
    · exact absurd succeeded (calm.harmless request.id (Or.inr writes))
  · change (backend.findTimedOut processingTimeoutInMinutes).gateway.FeeFailed request.id at failed
    unfold Backend.findTimedOut at failed
    split at failed <;> exact failed
  · change backend.get.gateway.FeeFailed request.id at failed
    unfold Backend.get at failed
    split at failed
    · exact failed
    · split at failed <;> exact failed
    · exact failed
  · change (backend.expire environment).gateway.FeeFailed request.id at failed
    unfold Backend.expire at failed
    split at failed
    · rename_i copy remaining job
      obtain ⟨expired, found, status, payment⟩ := failed
      rw [Gateway.save_find] at found
      split at found
      · rename_i hit
        have read : copy ∈ backend.job.copy := by rw [job]; rfl
        exact absurd succeeded (calm.harmless request.id (Or.inl ⟨copy, read, hit⟩))
      · exact ⟨expired, found, status, payment⟩
    · exact failed

/-- The backend of new service requests, before the job has run. -/
def opened (requests : Table String ServiceRequest (·.id)) (clock : Time) : Backend :=
  ⟨.opened requests clock, .idle⟩

theorem calm_opened {requests : Table String ServiceRequest (·.id)}
    (created : ∀ request ∈ requests.rows, ∃ environment input now,
      ServiceRequest.create environment input now = .ok request) (clock : Time) :
    (opened requests clock).Calm where
  orderless := Gateway.orderless_opened created clock
  copyOrderless copy read := by cases read
  harmless id onItsWay := by
    obtain ⟨copy, read, -⟩ | ⟨task, member, -⟩ := onItsWay
    · cases read
    · cases member

/-- In a run from new service requests whose steps are all undisturbed, no step turns a
request whose fee has succeeded into a failed one, however the job, the payloads and the
handlers take turns. -/
theorem no_payment_lost (environment : Environment) (processingTimeoutInMinutes : Int)
    {requests : Table String ServiceRequest (·.id)}
    (created : ∀ request ∈ requests.rows, ∃ environment input now,
      ServiceRequest.create environment input now = .ok request)
    (clock : Time) (actions : List BackendAction)
    (undisturbed : Along (step environment processingTimeoutInMinutes) Undisturbed
      (opened requests clock) actions) :
    Along (step environment processingTimeoutInMinutes)
      (fun before action => before.gateway.KeepsPayments
        (before.step environment processingTimeoutInMinutes action).gateway)
      (opened requests clock) actions :=
  along_of_invariant _ Calm (fun _ _ calm undisturbed => calm.step undisturbed)
    (fun _ action calm _ => calm.keepsPayments action) _ actions (calm_opened created clock)
    undisturbed

/-! ### A payment that comes too late, and one that is lost -/

/-- The fee is paid by a transaction, and its event is handled. -/
def exampleFeePaid : List BackendAction :=
  (.post (exampleTransaction "T1" "1") false "" :: handling 0 "").map .payment

/-- The job expires a request, and its payment arrives afterwards. -/
theorem no_payment_lost_late :
    Along (step exampleEnvironment 30)
      (fun before action => before.gateway.KeepsPayments
        (before.step exampleEnvironment 30 action).gateway)
      (opened exampleRequests 0)
      ([.payment (.wait 3600000), .findTimedOut, .get, .expire] ++ exampleFeePaid) :=
  no_payment_lost exampleEnvironment 30 exampleRequests_created 0 _ (by decide +kernel)

/-- A request that is paid after the job has read its batch is expired all the same. -/
theorem paid_request_expired :
    ¬ Along (step exampleEnvironment 30)
      (fun before action => before.gateway.KeepsPayments
        (before.step exampleEnvironment 30 action).gateway)
      (opened exampleRequests 0)
      ([.payment (.wait 3600000), .findTimedOut] ++ exampleFeePaid ++ [.get, .expire]) := by
  decide +kernel

end Backend

end FieldService
