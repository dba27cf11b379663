/-
This file follows the fee payment of a request through its life.

The stored payment status is what the last transition made of the last response, and the
last response itself is a row that a webhook may write over at any time. As long as stored
responses keep their status, the payment status never falls behind, and `paid_before_dispatched`
says that nobody is assigned to a request that needs a payment and has none.

When webhooks do write over stored rows, the next transition notices, whatever it is about.
`feeFramed_iff` says that the operations that are not about the payment leave it alone
exactly if the row still says what the request has recorded whenever one of them rebuilds
the service.
-/

import FieldService.Lifecycle.Steps

namespace FieldService

open Execution

/-! ### Paid before dispatched -/

/-- The rows of a table keep their status in a later one. -/
def StatusesKept (before after : PaymentGatewayResponseRepository) : Prop :=
  ∀ response ∈ before.rows, ∀ later ∈ after.rows, later.id = response.id →
    later.responseStatus = response.responseStatus

instance (before after : PaymentGatewayResponseRepository) :
    Decidable (StatusesKept before after) :=
  inferInstanceAs (Decidable (∀ response ∈ before.rows, ∀ later ∈ after.rows,
    later.id = response.id → later.responseStatus = response.responseStatus))

/-- The step leaves the status of every stored response as it was. -/
def KeepsStatuses (environment : Environment) (world : World) (action : Timed) : Prop :=
  StatusesKept world.repository (world.step environment action).repository

instance (environment : Environment) (world : World) (action : Timed) :
    Decidable (KeepsStatuses environment world action) :=
  inferInstanceAs (Decidable (StatusesKept _ _))

/-- A service that is paid for has a success as its last response, and one with a dispatcher
is paid for. -/
structure Service.FeeBacked (service : Service) : Prop where
  backed : service.hasCustomerPaid = true →
    calculatePaymentStatus service.lastCustomerPaymentGatewayResponse = .succeeded
  dispatched : service.dispatcherId.isSome = true → service.hasCustomerPaid = true

theorem World.step_repository_length (environment : Environment) (world : World)
    (action : Timed) :
    world.repository.rows.length ≤ (world.step environment action).repository.rows.length := by
  unfold World.step
  split
  · rename_i after executed
    rw [(World.execute_effect executed).repository]
    cases action.operation with
    | respond principalGroup payload override =>
      exact PaymentGatewayResponseRepository.insertIfNotExist_length _ _ _ _ _
    | _ => exact le_rfl
  · exact le_rfl

/-- A last response that was a success still is one when statuses are kept. -/
theorem Service.load_succeeded {before after : PaymentGatewayResponseRepository}
    {service : Service} (kept : StatusesKept before after)
    (grows : before.rows.length ≤ after.rows.length)
    (succeeded : calculatePaymentStatus
      (service.load before).lastCustomerPaymentGatewayResponse = .succeeded) :
    calculatePaymentStatus (service.load after).lastCustomerPaymentGatewayResponse =
      .succeeded := by
  simp only [Service.load] at succeeded ⊢
  cases last : service.lastCustomerPaymentGatewayResponse with
  | none =>
    rw [last] at succeeded
    cases succeeded
  | some response =>
    rw [last, Option.bind_some] at succeeded
    rw [Option.bind_some]
    cases found : before.findOne response.id with
    | none =>
      rw [found] at succeeded
      cases succeeded
    | some row =>
      rw [found] at succeeded
      have present : (after.findOne response.id).isSome = true := by
        have below := (before.findOne_isSome_iff response.id).mp (by rw [found]; rfl)
        exact (after.findOne_isSome_iff response.id).mpr (below.trans_le grows)
      obtain ⟨later, laterFound⟩ := Option.isSome_iff_exists.mp present
      obtain ⟨member, id⟩ := before.findOne_mem found
      obtain ⟨laterMember, laterId⟩ := after.findOne_mem laterFound
      rw [laterFound]
      exact (kept row member later laterMember (laterId.trans id.symm)).trans succeeded

/-- A rebuilt service is as paid as the response it was built from. -/
theorem Rebuilt.hasCustomerPaid {environment : Environment} {service after : Service}
    {transition : Transition} (rebuilt : Rebuilt environment service transition after)
    (notExpire : transition ≠ .expire) :
    after.hasCustomerPaid = true ↔
      calculatePaymentStatus (transition.response service) = .succeeded := by
  have paymentStatus : after.paymentStatus =
      calculatePaymentStatus (transition.response service) := by
    rw [rebuilt.paymentStatus]
    cases transition with
    | expire => exact absurd rfl notExpire
    | _ => rfl
  rw [Service.hasCustomerPaid, paymentStatus, decide_eq_true_iff]

/-- Every transition of a request with the gateway enabled keeps its service backed. -/
theorem Rebuilt.feeBacked {environment : Environment} {world : World} {after : Service}
    {transition : Transition} (granted : transition.Granted world)
    (rebuilt : Rebuilt environment world.loaded transition after)
    (enabled : world.request.config.paymentGatewayEnabled = true)
    (backed : world.loaded.FeeBacked) : after.FeeBacked := by
  by_cases expiry : transition = .expire
  · subst expiry
    refine ⟨fun paid => ?_, fun dispatched => ?_⟩
    · rw [Service.hasCustomerPaid, rebuilt.paymentStatus] at paid
      cases paid
    · rw [(rebuilt.emptyProvider rfl).1] at dispatched
      cases dispatched
  have paid := rebuilt.hasCustomerPaid expiry
  refine ⟨fun recorded => ?_, fun dispatched => ?_⟩
  · rw [rebuilt.lastResponse]
    exact paid.mp recorded
  · rw [paid]
    cases transition with
    | assign dispatcher serviceSchedule => exact backed.backed (granted.2 enabled)
    | allocate worker serviceSchedule => exact backed.backed (backed.dispatched granted.1)
    | progress history =>
      rw [(rebuilt.sameProvider rfl).1] at dispatched
      exact backed.backed (backed.dispatched dispatched)
    | terminate cancellationStatus =>
      rw [(rebuilt.emptyProvider rfl).1] at dispatched
      cases dispatched
    | markFailed =>
      rw [(rebuilt.sameProvider rfl).1] at dispatched
      exact backed.backed (backed.dispatched dispatched)
    | pay history =>
      -- A response is only applied to an unpaid request, and that one has no dispatcher.
      rw [(rebuilt.sameProvider rfl).1] at dispatched
      have unpaid := granted.1
      rw [backed.dispatched dispatched] at unpaid
      cases unpaid
    | expire => exact absurd rfl expiry
    | restart =>
      have kept : world.loaded.dispatcherId.isSome = true := by
        rw [Service.dispatcherId, rebuilt.provider] at dispatched
        revert dispatched
        rw [Service.dispatcherId]
        cases environment.nullEmbedded with
        | written => exact fun dispatched => by cases dispatched
        | skipped => exact id
      exact backed.backed (backed.dispatched kept)

/-- What a run keeps of a request with the gateway enabled. -/
structure World.Prepaying (world : World) : Prop where
  enabled : world.request.config.paymentGatewayEnabled = true
  consistent : world.request.service.Consistent
  backed : world.loaded.FeeBacked

theorem World.prepaying_step (environment : Environment) (world : World) (action : Timed)
    (prepaying : world.Prepaying) (kept : KeepsStatuses environment world action) :
    (world.step environment action).Prepaying := by
  refine ⟨?_, world.consistent_step environment action prepaying.consistent, ?_⟩
  · rw [(world.step_frame environment action).2.1]
    exact prepaying.enabled
  · cases world.step_cases environment action with
    | kept performed service handlingEvents =>
      rw [service]
      refine ⟨fun paid => ?_, prepaying.backed.dispatched⟩
      exact Service.load_succeeded kept (world.step_repository_length environment action)
        (prepaying.backed.backed paid)
    | made transition performed own permitted repository handlingEvents service =>
      have granted : transition.Granted (world.wait action.elapsed) :=
        World.granted own permitted
      exact Rebuilt.feeBacked granted service prepaying.enabled prepaying.backed

/-- Nothing is recorded of the fee of a new request, and nobody is dispatched to it. -/
theorem ServiceRequest.create_feeBacked {environment : Environment} {input : ServiceRequestInput}
    {now : Time} {request : ServiceRequest}
    (created : ServiceRequest.create environment input now = .ok request)
    (repository : PaymentGatewayResponseRepository) :
    (request.service.load repository).FeeBacked := by
  rw [(ServiceRequest.create_service created).2.2]
  refine ⟨fun paid => ?_, fun dispatched => ?_⟩
  · cases paid
  · cases dispatched

/-- As long as stored responses keep their status, a request that needs a payment is assigned
or allocated only when it is paid. -/
theorem paid_before_dispatched {environment : Environment} {input : ServiceRequestInput}
    {now : Time} {request : ServiceRequest}
    (created : ServiceRequest.create environment input now = .ok request)
    (enabled : input.serviceRequestOptions.paymentGatewayEnabled = true)
    (repository : PaymentGatewayResponseRepository) (actions : List Timed)
    (statuses : Along (World.step environment) (KeepsStatuses environment)
      (.opened request repository) actions) :
    Throughout (World.step environment)
      (fun world => world.request.service.allocationStatus = .assigned ∨
          world.request.service.allocationStatus = .allocated →
        world.request.service.paymentStatus = .succeeded)
      (.opened request repository) actions := by
  refine throughout_of_invariant _ (KeepsStatuses environment) World.Prepaying _
    (fun world action => world.prepaying_step environment action) ?_ _ _ ?_ statuses
  · intro world prepaying taken
    have assigned := ServiceAllocationStatusEnum.ne_unassigned taken
    have paid := prepaying.backed.dispatched (prepaying.consistent.dispatched assigned)
    exact of_decide_eq_true paid
  · obtain ⟨config, -, -⟩ := ServiceRequest.create_service created
    refine ⟨?_, ServiceRequest.create_consistent created, ?_⟩
    · show request.config.paymentGatewayEnabled = true
      rw [config]
      exact enabled
    · exact ServiceRequest.create_feeBacked created repository

/-- The theorem on a request that is paid for and accepted. -/
theorem paid_before_dispatched_accepted :
    Throughout (World.step exampleEnvironment)
      (fun world => world.request.service.allocationStatus = .assigned ∨
          world.request.service.allocationStatus = .allocated →
        world.request.service.paymentStatus = .succeeded)
      (.opened exampleRequest .empty) exampleAccepted :=
  paid_before_dispatched exampleRequest_created rfl .empty _ (by decide +kernel)

/-! ### Operations that are not about the payment -/

/-- The operation is the handling of a fee payment response, or it leaves the fee as paid as
it was. -/
def FeeFramed (environment : Environment) (world : World) (action : Timed) : Prop :=
  match action.operation with
  | .gatewayResponded (some .fee) => True
  | _ => (world.step environment action).request.hasCustomerPaid .fee =
      world.request.hasCustomerPaid .fee

instance (environment : Environment) (world : World) (action : Timed) :
    Decidable (FeeFramed environment world action) := by
  unfold FeeFramed
  split <;> infer_instance

/-- An expiry is applied only to a request that is not paid. -/
def ExpiresUnpaid (world : World) (action : Timed) : Prop :=
  match action.operation with
  | .expire => world.request.hasCustomerPaid .fee = false
  | _ => True

instance (world : World) (action : Timed) : Decidable (ExpiresUnpaid world action) := by
  unfold ExpiresUnpaid
  split <;> infer_instance

/-- When a transition other than a fee payment or an expiry is performed, the row of the last
response says what the request has recorded. -/
def FeeRecorded (environment : Environment) (world : World) (action : Timed) : Prop :=
  match (world.wait action.elapsed).performed environment action.operation with
  | none => True
  | some (.pay _) => True
  | some .expire => True
  | some _ => world.request.hasCustomerPaid .fee =
      (calculatePaymentStatus world.loaded.lastCustomerPaymentGatewayResponse = .succeeded : Bool)

instance (environment : Environment) (world : World) (action : Timed) :
    Decidable (FeeRecorded environment world action) := by
  unfold FeeRecorded
  split <;> infer_instance

/-- The handling of a fee payment response, and nothing else, applies one. -/
theorem World.pay_iff {world : World} {operation : Operation} {transition : Transition}
    (own : world.transition operation = some transition) :
    (∃ history, transition = .pay history) ↔ operation = .gatewayResponded (some .fee) := by
  have origin := World.comesFrom own
  constructor
  · rintro ⟨history, rfl⟩
    cases operation with
    | gatewayResponded purpose =>
      cases purpose with
      | none => exact origin.elim
      | some purpose =>
        cases purpose with
        | fee => rfl
        | ecRescheduleSurcharge => exact origin.elim
    | _ => exact origin.elim
  · rintro rfl
    cases transition with
    | pay history => exact ⟨history, rfl⟩
    | _ => exact origin.elim

/-- Only the expiry expires a request. -/
theorem World.expire_own {world : World} {operation : Operation}
    (own : world.transition operation = some .expire) : operation = .expire := by
  have origin := World.comesFrom own
  cases operation with
  | expire => rfl
  | _ => exact origin.elim

theorem feeFramed_iff_of_ne {environment : Environment} {world : World} {action : Timed}
    (other : action.operation ≠ .gatewayResponded (some .fee)) :
    FeeFramed environment world action ↔
      (world.step environment action).request.hasCustomerPaid .fee =
        world.request.hasCustomerPaid .fee := by
  unfold FeeFramed
  split
  · rename_i same
    exact absurd same other
  · exact Iff.rfl

theorem feeFramed_step_iff (environment : Environment) (world : World) (action : Timed)
    (unpaid : ExpiresUnpaid world action) :
    FeeFramed environment world action ↔ FeeRecorded environment world action := by
  rw [FeeRecorded]
  cases world.step_cases environment action with
  | kept performed service handlingEvents =>
    rw [performed]
    refine iff_of_true ?_ trivial
    obtain ⟨last, columns⟩ := World.kept_columns service
    unfold FeeFramed
    split
    · trivial
    · show (world.step environment action).request.service.hasCustomerPaid = _
      rw [columns]
      rfl
  | made transition performed own permitted repository handlingEvents service =>
    rw [performed]
    by_cases fee : action.operation = .gatewayResponded (some .fee)
    · obtain ⟨history, rfl⟩ := (World.pay_iff own).mpr fee
      refine iff_of_true ?_ trivial
      rw [FeeFramed, fee]
      trivial
    rw [feeFramed_iff_of_ne fee]
    by_cases expiry : transition = .expire
    · subst expiry
      refine iff_of_true ?_ trivial
      have before : world.request.hasCustomerPaid .fee = false := by
        rw [ExpiresUnpaid, World.expire_own own] at unpaid
        exact unpaid
      rw [before]
      show (world.step environment action).loaded.hasCustomerPaid = false
      rw [Service.hasCustomerPaid, service.paymentStatus]
      rfl
    have paid := service.hasCustomerPaid expiry
    have after : (world.step environment action).request.hasCustomerPaid .fee =
        (calculatePaymentStatus (transition.response world.loaded) = .succeeded : Bool) := by
      rw [Bool.eq_iff_iff, decide_eq_true_iff]
      exact paid
    rw [after]
    cases transition with
    | pay history => exact absurd ((World.pay_iff own).mp ⟨history, rfl⟩) fee
    | expire => exact absurd rfl expiry
    | _ => exact eq_comm

/-- In a run whose expiries are all of unpaid requests, the operations that are not about the
payment leave it alone exactly if the row of the last response says what the request has
recorded whenever one of them rebuilds the service. -/
theorem feeFramed_iff (environment : Environment) (world : World) (actions : List Timed)
    (expiries : Along (World.step environment) ExpiresUnpaid world actions) :
    Along (World.step environment) (FeeFramed environment) world actions ↔
      Along (World.step environment) (FeeRecorded environment) world actions :=
  along_congr _ (fun _ => True) ExpiresUnpaid (fun _ _ _ _ => trivial)
    (fun world action _ unpaid => feeFramed_step_iff environment world action unpaid) _ _ trivial
    expiries

/-- A request that is paid for, accepted and revoked stays paid. -/
theorem feeFramed_iff_revoked :
    Along (World.step exampleEnvironment) (FeeFramed exampleEnvironment)
      (.opened exampleRequest .empty) (exampleAccepted ++ [⟨1000, .revoke false⟩]) :=
  (feeFramed_iff exampleEnvironment _ _ (by decide +kernel)).mpr (by decide +kernel)

/-- A webhook turns the response of a paid request into a failure, and revoking the job, which
has nothing to do with the payment, makes the request unpaid. -/
theorem revocation_loses_payment :
    ¬ Along (World.step exampleEnvironment) (FeeFramed exampleEnvironment)
      (.opened exampleRequest .empty)
      (exampleAccepted ++
        [⟨1000, .respond .daikin (examplePayload "0") true⟩, ⟨1000, .revoke false⟩]) := by
  decide +kernel

end FieldService
