/-
This file proves that the lists a provider is shown agree with what the service says of itself.

The active jobs, the past jobs and the job summary are three queries, each with its own lists of
statuses; whether a service is ongoing or historical is computed from what it is not. The two
come to the same because an assigned or allocated service is in one of six statuses
(`World.Listed`): it is never one whose payment is missing, and a cancellation other than a
failure lets the provider go.
-/

import FieldService.Lifecycle.FeePayment

namespace FieldService

open Execution

/-! ### The queries -/

namespace Service

def isOngoing (service : Service) : Bool :=
  service.hasBeenAssignedOrAllocated &&
    service.status ≠ .fulfilled &&
    service.status ≠ .failed &&
    service.status ≠ .cancelledByServiceProvider &&
    service.status ≠ .cancelledByCustomer &&
    service.status ≠ .cancelledByOperator

def isHistorical (service : Service) : Bool :=
  service.hasBeenAssignedOrAllocated && !service.isOngoing

/-- Both columns are among those a query asks for. -/
def isAmong (service : Service) (statuses : List ServiceStatusEnum)
    (allocationStatuses : List ServiceAllocationStatusEnum) : Bool :=
  statuses.contains service.status && allocationStatuses.contains service.allocationStatus

end Service

namespace ServiceRequest

def expectedArrivalStart (request : ServiceRequest) : Time :=
  request.appointment.expectedArrivalPeriod.start

/-- `providerOrWorker`: a worker has the requests allocated to it, anyone else those that were
dispatched to it. -/
def isOf (serviceProvider : ServiceProvider) (request : ServiceRequest) : Bool :=
  if serviceProvider.isWorker then request.service.workerId = some serviceProvider.id
  else request.service.dispatcherId = some serviceProvider.id

end ServiceRequest

/-- `findOngoingServiceRequestsOfProvider`. -/
def findOngoingServiceRequestsOfProvider (stored : List ServiceRequest)
    (serviceProvider : ServiceProvider) : List ServiceRequest :=
  (stored.filter fun request =>
    request.service.isAmong [.allocated, .assigned, .started, .inProgress]
        [.assigned, .allocated] &&
      request.isOf serviceProvider).mergeSort fun first second =>
    first.expectedArrivalStart ≤ second.expectedArrivalStart

/-- `GetHistoricalServiceRequestsOfProviderHandler.execute`. -/
def getHistoricalServiceRequestsOfProvider (stored : List ServiceRequest) (providerId : Uuid) :
    List ServiceRequest :=
  (stored.filter fun request =>
    request.service.isAmong
        [.fulfilled, .failed, .cancelledByServiceProvider, .cancelledByCustomer]
        [.assigned, .allocated] &&
      (request.service.dispatcherId = some providerId ||
        request.service.workerId = some providerId)).mergeSort fun first second =>
    second.createdAt ≤ first.createdAt

structure JobSummaryDto where
  completedJobsCount : Nat
  scheduledJobsCount : Nat
  deriving DecidableEq, Repr

/-- `findJobSummaryOfProvider`. -/
def findJobSummaryOfProvider (stored : List ServiceRequest) (serviceProvider : ServiceProvider)
    (start finish : Time) : JobSummaryDto :=
  let serviceRequests := stored.filter fun request =>
    request.isOf serviceProvider && start ≤ request.expectedArrivalStart &&
      request.expectedArrivalStart ≤ finish
  { completedJobsCount := (serviceRequests.filter (·.service.hasBeenFulfilled)).length
    scheduledJobsCount := (serviceRequests.filter (·.service.isOngoing)).length }

/-! ### What the lists agree on -/

/-- A request that is stored among others is shown to a provider as its service has it. -/
structure ServiceRequest.ShownTo (request : ServiceRequest) (serviceProvider : ServiceProvider)
    (before after : List ServiceRequest) : Prop where
  /-- It is in the active feed exactly if it is ongoing. -/
  active : request ∈ findOngoingServiceRequestsOfProvider (before ++ request :: after)
      serviceProvider ↔ request.service.isOngoing = true
  /-- It is in the history feed exactly if it is historical. -/
  historical : request ∈ getHistoricalServiceRequestsOfProvider (before ++ request :: after)
      serviceProvider.id ↔ request.service.isHistorical = true
  /-- It is in exactly one of the two. -/
  once : request ∈ findOngoingServiceRequestsOfProvider (before ++ request :: after)
      serviceProvider ↔
    request ∉ getHistoricalServiceRequestsOfProvider (before ++ request :: after)
      serviceProvider.id
  /-- It counts as scheduled for a period exactly if it is in the active feed and its arrival
  starts in the period. -/
  counted : ∀ start finish,
    (findJobSummaryOfProvider (before ++ request :: after) serviceProvider start
        finish).scheduledJobsCount =
      (findJobSummaryOfProvider (before ++ after) serviceProvider start
          finish).scheduledJobsCount +
        if request ∈ findOngoingServiceRequestsOfProvider (before ++ request :: after)
              serviceProvider ∧
            start ≤ request.expectedArrivalStart ∧ request.expectedArrivalStart ≤ finish
        then 1 else 0

/-! ### Statuses of a dispatched service -/

/-- A status the lists know what to do with. -/
def ServiceStatusEnum.isListed (status : ServiceStatusEnum) : Bool :=
  [.assigned, .allocated, .started, .inProgress, .fulfilled, .failed].contains status

namespace Service

/-- Under a listed status the active list is the ongoing services. -/
theorem isAmong_active {service : Service} (assigned : service.allocationStatus ≠ .unassigned)
    (listed : service.status.isListed = true) :
    service.isAmong [.allocated, .assigned, .started, .inProgress] [.assigned, .allocated] =
      service.isOngoing := by
  revert assigned listed
  rw [isAmong, isOngoing, hasBeenAssignedOrAllocated]
  cases service.allocationStatus <;> cases service.status <;> decide

/-- Under a listed status the list of past jobs is the historical services. -/
theorem isAmong_historical {service : Service}
    (assigned : service.allocationStatus ≠ .unassigned)
    (listed : service.status.isListed = true) :
    service.isAmong [.fulfilled, .failed, .cancelledByServiceProvider, .cancelledByCustomer]
        [.assigned, .allocated] = service.isHistorical := by
  revert assigned listed
  rw [isAmong, isHistorical, isOngoing, hasBeenAssignedOrAllocated]
  cases service.allocationStatus <;> cases service.status <;> decide

end Service

/-- A request of a dispatcher is shown to it as its service has it. -/
theorem ServiceRequest.shownTo {request : ServiceRequest} {serviceProvider : ServiceProvider}
    (assigned : request.service.allocationStatus ≠ .unassigned)
    (listed : request.service.status.isListed = true)
    (notWorker : serviceProvider.isWorker = false)
    (dispatched : request.service.dispatcherId = some serviceProvider.id)
    (before after : List ServiceRequest) : request.ShownTo serviceProvider before after := by
  have isOf : request.isOf serviceProvider = true := by
    simp [ServiceRequest.isOf, notWorker, dispatched]
  have active : request ∈ findOngoingServiceRequestsOfProvider (before ++ request :: after)
      serviceProvider ↔ request.service.isOngoing = true := by
    rw [findOngoingServiceRequestsOfProvider, List.mem_mergeSort, List.mem_filter,
      Service.isAmong_active assigned listed, isOf, Bool.and_true]
    exact and_iff_right (by simp)
  have historical : request ∈ getHistoricalServiceRequestsOfProvider (before ++ request :: after)
      serviceProvider.id ↔ request.service.isHistorical = true := by
    rw [getHistoricalServiceRequestsOfProvider, List.mem_mergeSort, List.mem_filter,
      Service.isAmong_historical assigned listed, dispatched, decide_eq_true rfl, Bool.true_or,
      Bool.and_true]
    exact and_iff_right (by simp)
  refine ⟨active, historical, ?_, fun start finish => ?_⟩
  · rw [active, historical, Service.isHistorical, Service.hasBeenAssignedOrAllocated,
      decide_eq_true assigned, Bool.true_and]
    cases request.service.isOngoing <;> simp
  · simp only [active, findJobSummaryOfProvider, List.filter_append, List.filter_cons, isOf,
      List.length_append, Bool.true_and, Bool.and_eq_true, decide_eq_true_eq]
    by_cases inside : start ≤ request.expectedArrivalStart ∧ request.expectedArrivalStart ≤ finish
    · rcases ongoing : request.service.isOngoing with _ | _
      · simp [inside, ongoing]
      · simp [inside, ongoing]
        omega
    · simp [inside]

/-! ### Runs -/

/-- What a run keeps of a request whose payment is required exactly if the gateway is enabled:
an assigned service has a listed status. -/
structure World.Listed (world : World) : Prop where
  prepaid : world.loaded.isPrepaid = world.request.config.paymentGatewayEnabled
  consistent : world.request.service.Consistent
  backed : world.request.config.paymentGatewayEnabled = true → world.loaded.FeeBacked
  listed : world.loaded.allocationStatus ≠ .unassigned → world.loaded.status.isListed = true

/-- A calculated status is listed, unless the payment or a provider is missing. -/
theorem calculateStatus_isListed {lastEvent : Option HandlingEvent} {isPrepaid : Bool}
    {paymentStatus : PaymentGatewayResponseStatus}
    {allocationStatus : ServiceAllocationStatusEnum} (assigned : allocationStatus ≠ .unassigned)
    (paid : isPrepaid = true → paymentStatus = .succeeded) :
    (calculateStatus lastEvent isPrepaid paymentStatus allocationStatus).isListed = true := by
  cases lastEvent with
  | some event =>
    show event.type.status.isListed = true
    cases event.type <;> rfl
  | none =>
    have settled : ¬ (isPrepaid &&
        (paymentStatus = .awaitingPayment || paymentStatus = .failed)) = true := by
      intro awaited
      simp only [Bool.and_eq_true, Bool.or_eq_true, decide_eq_true_eq] at awaited
      rcases awaited.2 with same | same <;> cases (paid awaited.1).symm.trans same
    rw [calculateStatus, if_neg settled]
    cases allocationStatus with
    | unassigned => exact absurd rfl assigned
    | assigned => rfl
    | allocated => rfl

/-- A rebuilt service that has a provider has a listed status. -/
theorem Rebuilt.isListed {environment : Environment} {world : World} {after : Service}
    {transition : Transition} (rebuilt : Rebuilt environment world.loaded transition after)
    (consistent : after.Consistent) (backed : after.isPrepaid = true → after.FeeBacked)
    (assigned : after.allocationStatus ≠ .unassigned) : after.status.isListed = true := by
  have provided := assigned
  rw [rebuilt.allocationStatus] at provided
  by_cases expiry : transition = .expire
  · subst expiry
    exact absurd rfl provided
  rw [rebuilt.status, Transition.apply_status _ _ expiry]
  split
  · -- Only a failure leaves the provider in place.
    rename_i cancellationStatus cancelled
    cases transition with
    | terminate status => exact absurd rfl provided
    | markFailed =>
      cases cancelled
      rfl
    | _ => cases cancelled
  · refine calculateStatus_isListed provided fun prepaid => ?_
    rw [← rebuilt.lastResponse]
    have feeBacked := backed (rebuilt.isPrepaid.trans prepaid)
    exact feeBacked.backed (feeBacked.dispatched (consistent.dispatched assigned))

theorem World.listed_step (environment : Environment) (world : World) (action : Timed)
    (listed : world.Listed) (kept : KeepsStatuses environment world action) :
    (world.step environment action).Listed := by
  have config := (world.step_frame environment action).2.1
  have consistent := world.consistent_step environment action listed.consistent
  have backed : (world.step environment action).request.config.paymentGatewayEnabled = true →
      (world.step environment action).loaded.FeeBacked := by
    intro enabled
    rw [config] at enabled
    exact (world.prepaying_step environment action
      ⟨enabled, listed.consistent, listed.backed enabled⟩ kept).backed
  cases world.step_cases environment action with
  | kept performed service handlingEvents =>
    refine ⟨?_, consistent, backed, ?_⟩
    · rw [service, config]
      exact listed.prepaid
    · rw [service]
      exact listed.listed
  | made transition performed own permitted repository handlingEvents service =>
    have prepaid := service.isPrepaid.trans (listed.prepaid.trans (congrArg _ config).symm)
    refine ⟨prepaid, consistent, backed, fun assigned => ?_⟩
    refine service.isListed (service.consistent (World.granted own permitted)) ?_ assigned
    exact fun required => backed (prepaid.symm.trans required)

/-- In a run with a fixed configuration, in which stored responses keep their status, an
assigned or allocated request is shown to its dispatcher as its service has it: in the active
feed, in the history feed and in the job summary. -/
theorem shownTo_dispatcher {environment : Environment} {input : ServiceRequestInput} {now : Time}
    {request : ServiceRequest}
    (created : ServiceRequest.create environment input now = .ok request)
    (repository : PaymentGatewayResponseRepository) (actions : List Timed)
    (statuses : Along (World.step environment) (KeepsStatuses environment)
      (.opened request repository) actions) :
    Throughout (World.step environment)
      (fun world => world.request.service.allocationStatus = .assigned ∨
          world.request.service.allocationStatus = .allocated →
        ∀ serviceProvider : ServiceProvider, serviceProvider.isWorker = false →
          world.request.service.dispatcherId = some serviceProvider.id →
            ∀ before after, world.load.ShownTo serviceProvider before after)
      (.opened request repository) actions := by
  refine throughout_of_invariant _ (KeepsStatuses environment) World.Listed _
    (fun world action => world.listed_step environment action) ?_ _ _ ?_ statuses
  · intro world listed taken serviceProvider notWorker dispatched before after
    have assigned := ServiceAllocationStatusEnum.ne_unassigned taken
    exact @ServiceRequest.shownTo world.load serviceProvider assigned (listed.listed assigned)
      notWorker dispatched before after
  · obtain ⟨config, -, service⟩ := ServiceRequest.create_service created
    refine ⟨?_, ServiceRequest.create_consistent created,
      fun _ => ServiceRequest.create_feeBacked created repository, fun assigned => ?_⟩
    · show (request.service.load repository).isPrepaid = request.config.paymentGatewayEnabled
      rw [service, config]
      rfl
    · refine absurd ?_ assigned
      show (request.service.load repository).allocationStatus = .unassigned
      rw [service]
      rfl

/-- The theorem on a request that is paid for and accepted. -/
theorem shownTo_dispatcher_accepted :
    Throughout (World.step exampleEnvironment)
      (fun world => world.request.service.allocationStatus = .assigned ∨
          world.request.service.allocationStatus = .allocated →
        ∀ serviceProvider : ServiceProvider, serviceProvider.isWorker = false →
          world.request.service.dispatcherId = some serviceProvider.id →
            ∀ before after, world.load.ShownTo serviceProvider before after)
      (.opened exampleRequest .empty) exampleAccepted :=
  shownTo_dispatcher exampleRequest_created .empty _ (by decide +kernel)

end FieldService
