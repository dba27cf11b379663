/-
This file models `Service`, the part of a service request that records who performs it and
how far it has come.

A `Service` is never changed in place. Every transition throws the old one away and builds a
new one from the last handling event, the provider and the last payment response, and the
constructor computes the payment status, the allocation status, the status and the next
action anew. Two transitions reach behind the constructor: a cancellation hands it the
status, and the expiry writes the payment status and the status afterwards.
-/

import FieldService.Payment.Response

namespace FieldService

open Latest

/-! ### Enumerations -/

inductive ServiceStatusEnum where
  | awaitingPayment
  | failedPayment
  | unassigned
  | assigned
  | allocated
  | started
  | inProgress
  | fulfilled
  | failed
  | cancelledByServiceProvider
  | cancelledByOperator
  | cancelledByCustomer
  deriving DecidableEq, Repr

/-- The statuses the constructor of a service accepts as a cancellation. -/
inductive CancellationStatus where
  | cancelledByOperator
  | cancelledByServiceProvider
  | cancelledByCustomer
  | failed
  deriving DecidableEq, Repr

def CancellationStatus.status : CancellationStatus → ServiceStatusEnum
  | .cancelledByOperator => .cancelledByOperator
  | .cancelledByServiceProvider => .cancelledByServiceProvider
  | .cancelledByCustomer => .cancelledByCustomer
  | .failed => .failed

inductive ServiceAllocationStatusEnum where
  | unassigned
  | assigned
  | allocated
  deriving DecidableEq, Repr

inductive ServiceActionTypeEnum where
  | requestJob
  | allocateWorker
  | start
  | inProgress
  | fullfil
  | idle
  deriving DecidableEq, Repr

inductive HandlingEventTypeEnum where
  | start
  | inProgress
  | fullfil
  deriving DecidableEq, Repr

/-! ### Handling events -/

structure HandlingEvent where
  createdAt : Time
  latitude : Rat
  longitude : Rat
  providerWorkerId : Uuid
  type : HandlingEventTypeEnum
  deriving DecidableEq, Repr

/-- `HandlingHistory`, the handling events of one service request. -/
abbrev HandlingHistory := List HandlingEvent

/-- The event created last; `null` when there is none. -/
def HandlingHistory.mostRecentlyCompletedEvent (history : HandlingHistory) :
    Option HandlingEvent :=
  latest HandlingEvent.createdAt history

/-! ### Providers -/

structure Agent where
  id : Option Uuid
  name : Option String
  phone : Option String
  profilePicture : Option String
  deriving DecidableEq, Repr

def Agent.ofServiceProvider (provider : ServiceProvider) : Agent :=
  ⟨some provider.id, provider.name, provider.phone, provider.profilePicture⟩

def Agent.empty : Agent := ⟨none, none, none, none⟩

structure OptPeriod where
  start : Option Time
  finish : Option Time
  deriving DecidableEq, Repr

structure Schedule where
  blockAfterInMinutes : Option Int
  blockBeforeInMinutes : Option Int
  period : OptPeriod
  deriving DecidableEq, Repr

def Schedule.empty : Schedule := ⟨none, none, ⟨none, none⟩⟩

structure Provider where
  dispatcher : Option Agent
  worker : Option Agent
  schedule : Option Schedule
  deriving DecidableEq, Repr

/-- The dispatcher's identifier, `null` or undefined when there is none. -/
def Provider.dispatcherId (provider : Provider) : Option Uuid :=
  provider.dispatcher.bind (·.id)

/-- The worker's identifier, `null` or undefined when there is none. -/
def Provider.workerId (provider : Provider) : Option Uuid :=
  provider.worker.bind (·.id)

/-- `ProviderFactory.createEmptyProvider`. -/
def Provider.createEmptyProvider : Provider :=
  ⟨some .empty, some .empty, some .empty⟩

/-- `ProviderFactory.create` of arguments none of which is undefined. -/
def Provider.create (dispatcher worker : Option Agent) (schedule : Option Schedule) :
    Except AppError Provider :=
  if worker.isNone && schedule.isNone then
    .ok ⟨dispatcher, none, none⟩
  else if (dispatcher.bind (·.id)).isNone then
    .error (.error "Please first assign a dispatcher before worker allocation")
  else if worker.isNone then
    .error (.error "Please allocate a worker and a schedule")
  else
    .ok ⟨dispatcher, worker, schedule⟩

/-! ### The service -/

structure Service where
  lastEvent : Option HandlingEvent
  provider : Option Provider
  isPrepaid : Bool
  lastCustomerPaymentGatewayResponse : Option PaymentGatewayResponse
  paymentStatus : PaymentGatewayResponseStatus
  allocationStatus : ServiceAllocationStatusEnum
  status : ServiceStatusEnum
  nextActionType : ServiceActionTypeEnum
  remarks : Option String
  eligibleForRefund : Option Bool
  deriving DecidableEq, Repr

/-- The identifier of the provider's dispatcher. -/
def Service.dispatcherId (service : Service) : Option Uuid :=
  service.provider.bind (·.dispatcherId)

/-- The identifier of the provider's worker. -/
def Service.workerId (service : Service) : Option Uuid :=
  service.provider.bind (·.workerId)

def calculatePaymentStatus (lastResponse : Option PaymentGatewayResponse) :
    PaymentGatewayResponseStatus :=
  match lastResponse with
  | none => .awaitingPayment
  | some response => response.responseStatus

def calculateAllocationStatus (provider : Option Provider) : ServiceAllocationStatusEnum :=
  match provider with
  | none => .unassigned
  | some provider =>
    if provider.dispatcher.isNone && provider.worker.isNone then .unassigned
    else if provider.dispatcherId.isSome && provider.workerId.isNone then .assigned
    else if provider.dispatcherId.isSome && provider.workerId.isSome then .allocated
    else .unassigned

def ServiceStatusEnum.hasBeenCancelled (status : ServiceStatusEnum) : Bool :=
  [.cancelledByOperator, .failed, .cancelledByServiceProvider, .cancelledByCustomer].contains
    status

def ServiceStatusEnum.hasBeenClosed (status : ServiceStatusEnum) : Bool :=
  [.failedPayment, .failed, .cancelledByCustomer].contains status

/-- The status a started service takes from its last handling event. -/
def HandlingEventTypeEnum.status : HandlingEventTypeEnum → ServiceStatusEnum
  | .start => .started
  | .inProgress => .inProgress
  | .fullfil => .fulfilled

/-- The status a service that has not been started takes from its allocation. -/
def ServiceAllocationStatusEnum.status : ServiceAllocationStatusEnum → ServiceStatusEnum
  | .unassigned => .unassigned
  | .assigned => .assigned
  | .allocated => .allocated

/-- `calculateStatus`. Its first test, whether the service has been cancelled, reads a status
that the constructor has not set yet and never fires. -/
def calculateStatus (lastEvent : Option HandlingEvent) (isPrepaid : Bool)
    (paymentStatus : PaymentGatewayResponseStatus)
    (allocationStatus : ServiceAllocationStatusEnum) : ServiceStatusEnum :=
  match lastEvent with
  | some event => event.type.status
  | none =>
    if isPrepaid && (paymentStatus = .awaitingPayment || paymentStatus = .failed) then
      .awaitingPayment
    else allocationStatus.status

def calculateNextActionType (status : ServiceStatusEnum)
    (allocationStatus : ServiceAllocationStatusEnum) : ServiceActionTypeEnum :=
  if status.hasBeenCancelled then .idle
  else
    match allocationStatus with
    | .unassigned => .requestJob
    | .assigned => .allocateWorker
    | .allocated =>
      match status with
      | .allocated => .start
      | .started => .inProgress
      | .inProgress => .fullfil
      | _ => .fullfil

/-- The constructor. -/
def Service.new (lastEvent : Option HandlingEvent) (provider : Option Provider)
    (lastResponse : Option PaymentGatewayResponse) (isPrepaid : Bool)
    (cancellationStatus : Option CancellationStatus) : Service :=
  let paymentStatus := calculatePaymentStatus lastResponse
  let allocationStatus := calculateAllocationStatus provider
  let status :=
    match cancellationStatus with
    | some cancellationStatus => cancellationStatus.status
    | none => calculateStatus lastEvent isPrepaid paymentStatus allocationStatus
  { lastEvent := lastEvent
    provider := provider
    isPrepaid := isPrepaid
    lastCustomerPaymentGatewayResponse := lastResponse
    paymentStatus := paymentStatus
    allocationStatus := allocationStatus
    status := status
    nextActionType := calculateNextActionType status allocationStatus
    remarks := none
    eligibleForRefund := none }

/-! ### What the calculations give -/

/-- A service that has been started takes its status from its last event alone, and one that
has not is never in a status of the handling track. -/
theorem calculateStatus_eq_event {lastEvent : Option HandlingEvent} {isPrepaid : Bool}
    {paymentStatus : PaymentGatewayResponseStatus}
    {allocationStatus : ServiceAllocationStatusEnum} {type : HandlingEventTypeEnum}
    (same : calculateStatus lastEvent isPrepaid paymentStatus allocationStatus = type.status) :
    lastEvent.map (·.type) = some type := by
  cases lastEvent with
  | some event =>
    have types : event.type.status = type.status := same
    refine congrArg some ?_
    show event.type = type
    cases first : event.type <;> cases type <;> simp_all [HandlingEventTypeEnum.status]
  | none =>
    simp only [calculateStatus] at same
    split at same
    · cases type <;> cases same
    · cases type <;> cases allocationStatus <;> cases same

theorem calculateStatus_of_event {lastEvent : Option HandlingEvent} {isPrepaid : Bool}
    {paymentStatus : PaymentGatewayResponseStatus}
    {allocationStatus : ServiceAllocationStatusEnum} {type : HandlingEventTypeEnum}
    (last : lastEvent.map (·.type) = some type) :
    calculateStatus lastEvent isPrepaid paymentStatus allocationStatus = type.status := by
  obtain ⟨event, rfl, rfl⟩ := Option.map_eq_some_iff.mp last
  rfl

/-- No calculated status is that of a cancellation. -/
theorem calculateStatus_hasBeenCancelled (lastEvent : Option HandlingEvent) (isPrepaid : Bool)
    (paymentStatus : PaymentGatewayResponseStatus)
    (allocationStatus : ServiceAllocationStatusEnum) :
    (calculateStatus lastEvent isPrepaid paymentStatus allocationStatus).hasBeenCancelled =
      false := by
  cases lastEvent with
  | some event =>
    show event.type.status.hasBeenCancelled = false
    cases event.type <;> rfl
  | none =>
    simp only [calculateStatus]
    split
    · rfl
    · cases allocationStatus <;> rfl

/-- The allocation status of a provider is read off the two identifiers. -/
theorem calculateAllocationStatus_eq (provider : Option Provider) :
    calculateAllocationStatus provider =
      match provider.bind (·.dispatcherId), provider.bind (·.workerId) with
      | none, _ => .unassigned
      | some _, none => .assigned
      | some _, some _ => .allocated := by
  cases provider with
  | none => rfl
  | some provider =>
    simp only [calculateAllocationStatus, Option.bind_some]
    cases dispatched : provider.dispatcherId with
    | none => simp
    | some dispatcherId =>
      have present : provider.dispatcher.isNone = false := by
        rw [Provider.dispatcherId] at dispatched
        obtain ⟨agent, found, -⟩ := Option.bind_eq_some_iff.mp dispatched
        rw [found]
        rfl
      rw [present]
      cases provider.workerId <;> rfl

namespace Service

/-! ### Predicates -/

def hasBeenAssignedOrAllocated (service : Service) : Bool :=
  service.allocationStatus ≠ .unassigned

def hasBeenAssignedButNotAllocated (service : Service) : Bool :=
  service.allocationStatus = .assigned

def isAssignedOrAllocatedTo (service : Service) (providerId : Uuid) : Bool :=
  service.dispatcherId = some providerId || service.workerId = some providerId

def isAllocatedTo (service : Service) (workerId : Uuid) : Bool :=
  service.workerId = some workerId

def hasBeenFulfilled (service : Service) : Bool :=
  service.status = .fulfilled

def isWorkInProgress (service : Service) : Bool :=
  service.status = .started || service.status = .inProgress

def hasBeenCancelled (service : Service) : Bool :=
  service.status.hasBeenCancelled

def hasBeenClosed (service : Service) : Bool :=
  service.status.hasBeenClosed

def hasCustomerPaid (service : Service) : Bool :=
  service.paymentStatus = .succeeded

/-! ### Transitions -/

def derivedFrom (handlingHistory : HandlingHistory) (provider : Provider)
    (paymentGatewayResponseHistory : PaymentGatewayResponseHistory) (isPrepaid : Bool) : Service :=
  .new handlingHistory.mostRecentlyCompletedEvent (some provider)
    paymentGatewayResponseHistory.mostRecentResponse isPrepaid none

def derivedFromHandlingHistory (service : Service) (handlingHistory : HandlingHistory) :
    Service :=
  .new handlingHistory.mostRecentlyCompletedEvent service.provider
    service.lastCustomerPaymentGatewayResponse service.isPrepaid none

def derivedFromPaymentGatewayResponseHistory (service : Service)
    (paymentGatewayResponseHistory : PaymentGatewayResponseHistory) : Service :=
  .new service.lastEvent service.provider paymentGatewayResponseHistory.mostRecentResponse
    service.isPrepaid none

/-- Rebuild service without `status` and `lastEvent`. However, `paymentHistory` preserved. -/
def restart (service : Service) : Service :=
  .new none none service.lastCustomerPaymentGatewayResponse service.isPrepaid none

/-- The provider of a service that has a dispatcher and no worker yet. -/
def dispatchedTo (dispatcher : ServiceProvider) : Provider :=
  ⟨some (.ofServiceProvider dispatcher), none, none⟩

def assignToDispatcher (service : Service) (dispatcher : ServiceProvider) : Service :=
  .new service.lastEvent (some (dispatchedTo dispatcher))
    service.lastCustomerPaymentGatewayResponse service.isPrepaid none

/-- The schedule made from the period a worker is allocated for. -/
def scheduleOf (period : Period) : Schedule :=
  ⟨none, none, ⟨some period.start, some period.finish⟩⟩

/-- The provider `allocateToWorker` builds. Without a provider the dispatcher is undefined,
and the constructor of `Provider` then leaves everything undefined. -/
def allocatedProvider (service : Service) (worker : ServiceProvider) (period : Period) :
    Except AppError Provider :=
  match service.provider with
  | none => .ok ⟨none, none, none⟩
  | some provider =>
    Provider.create provider.dispatcher (some (.ofServiceProvider worker))
      (some (scheduleOf period))

def allocateToWorker (service : Service) (worker : ServiceProvider) (period : Period) :
    Except AppError Service := do
  let provider ← service.allocatedProvider worker period
  return .new service.lastEvent (some provider) service.lastCustomerPaymentGatewayResponse
    service.isPrepaid none

def terminateProvider (service : Service) (cancellationStatus : Option CancellationStatus) :
    Service :=
  .new service.lastEvent (some .createEmptyProvider) service.lastCustomerPaymentGatewayResponse
    service.isPrepaid cancellationStatus

def markFailed (service : Service) : Service :=
  .new service.lastEvent service.provider service.lastCustomerPaymentGatewayResponse
    service.isPrepaid (some .failed)

/-- `cancel`, of the provider whose record was looked up. -/
def cancel (service : Service) (provider : ServiceProvider) : Except AppError Service :=
  if !service.isAssignedOrAllocatedTo provider.id then
    .error (.error "Job is not assigned/allocated to you")
  else if provider.isWorker then
    .error (.error "Job should not be cancelled by worker")
  else if service.hasBeenCancelled then
    .error (.error "Job has already been cancelled")
  else if service.hasBeenFulfilled then
    .error (.error "Job has been completed, unable to cancel")
  else
    .ok (service.terminateProvider (some .cancelledByServiceProvider))

def cancelByCustomer (service : Service) : Service :=
  service.terminateProvider (some .cancelledByCustomer)

def revoke (service : Service) (markAsFailed : Bool) : Service :=
  if markAsFailed then service.markFailed
  else service.terminateProvider (some .cancelledByOperator)

def reschedule (service : Service) : Service :=
  service.terminateProvider none

def expiredBySystem (service : Service) : Service :=
  { Service.new none (some .createEmptyProvider) service.lastCustomerPaymentGatewayResponse
      service.isPrepaid none with
    paymentStatus := .failed
    status := .failedPayment
    remarks := some "Marked as expired by system" }

def nextHandlingEventType (service : Service) : Except AppError HandlingEventTypeEnum :=
  if service.hasBeenFulfilled then
    .error (.error "Job has already been fulfilled.")
  else if service.status = .cancelledByServiceProvider then
    .error (.error "Job has already been cancelled")
  else if service.hasBeenAssignedButNotAllocated then
    .error (.error "Job must be allocated to worker first")
  else
    match service.status with
    | .allocated => .ok .start
    | .started => .ok .inProgress
    | .inProgress => .ok .fullfil
    | _ => .ok .fullfil

end Service

end FieldService
