/-
This file says once what an operation can do to the stored service.

A `Transition` names one way of rebuilding the service. It fixes the four arguments of the
constructor: the last event, the provider, the last response and the cancellation status.
`World.transition` reads off the operation and the world which transition the operation
makes when it succeeds, if it makes one at all, and `World.Permits` is the guard the
operation passes. `execute_effect` is the inversion lemma: an operation that succeeds has
passed its guard, and what it stores is its transition applied to the loaded service.
Everything later is derived from it, and no later proof unfolds an operation again.
-/

import FieldService.Lifecycle.Operations

namespace FieldService

/-! ### Transitions -/

/-- A way of rebuilding the service. -/
inductive Transition where
  | assign (dispatcher : ServiceProvider) (serviceSchedule : Period)
  | allocate (worker : ServiceProvider) (serviceSchedule : Period)
  | progress (history : HandlingHistory)
  | terminate (cancellationStatus : Option CancellationStatus)
  | markFailed
  | pay (history : PaymentGatewayResponseHistory)
  | expire
  | restart

namespace Transition

/-- The last event the rebuilt service has. -/
def lastEvent (service : Service) : Transition → Option HandlingEvent
  | .progress history => history.mostRecentlyCompletedEvent
  | .expire => none
  | .restart => none
  | _ => service.lastEvent

/-- The provider the rebuilt service has. -/
def provider (service : Service) : Transition → Option Provider
  | .assign dispatcher serviceSchedule =>
    if dispatcher.isIndependent then
      some ⟨some (.ofServiceProvider dispatcher), some (.ofServiceProvider dispatcher),
        some (Service.scheduleOf serviceSchedule)⟩
    else some (Service.dispatchedTo dispatcher)
  | .allocate worker serviceSchedule =>
    some ⟨service.provider.bind (·.dispatcher), some (.ofServiceProvider worker),
      some (Service.scheduleOf serviceSchedule)⟩
  | .terminate _ => some .createEmptyProvider
  | .expire => some .createEmptyProvider
  | .restart => none
  | _ => service.provider

/-- The last response the rebuilt service has. -/
def response (service : Service) : Transition → Option PaymentGatewayResponse
  | .pay history => history.mostRecentResponse
  | _ => service.lastCustomerPaymentGatewayResponse

/-- The status handed to the constructor. -/
def cancellationStatus : Transition → Option CancellationStatus
  | .terminate cancellationStatus => cancellationStatus
  | .markFailed => some .failed
  | _ => none

/-- The handling events that are stored with the rebuilt service. -/
def handlingEvents (events : HandlingHistory) : Transition → HandlingHistory
  | .progress history => history
  | _ => events

/-- The service the constructor builds. -/
def rebuild (service : Service) (transition : Transition) : Service :=
  .new (transition.lastEvent service) (transition.provider service)
    (transition.response service) service.isPrepaid transition.cancellationStatus

/-- The service after the transition. Only the expiry writes to it after it has been built. -/
def apply (service : Service) (transition : Transition) : Service :=
  match transition with
  | .expire =>
    { rebuild service .expire with
      paymentStatus := .failed
      status := .failedPayment
      remarks := some "Marked as expired by system" }
  | transition => transition.rebuild service

theorem restart_eq (service : Service) : service.restart = apply service .restart := rfl

theorem expire_eq (service : Service) : service.expiredBySystem = apply service .expire := rfl

theorem terminate_eq (service : Service) (cancellationStatus : Option CancellationStatus) :
    service.terminateProvider cancellationStatus =
      apply service (.terminate cancellationStatus) := rfl

theorem markFailed_eq (service : Service) : service.markFailed = apply service .markFailed := rfl

theorem progress_eq (service : Service) (history : HandlingHistory) :
    service.derivedFromHandlingHistory history = apply service (.progress history) := rfl

theorem pay_eq (service : Service) (history : PaymentGatewayResponseHistory) :
    service.derivedFromPaymentGatewayResponseHistory history = apply service (.pay history) := rfl

/-- A worker is allocated only to a service with a dispatcher. -/
theorem allocate_eq (service : Service) (worker : ServiceProvider) (serviceSchedule : Period)
    (allocated : Service) (provided : service.provider ≠ none)
    (succeeds : service.allocateToWorker worker serviceSchedule = .ok allocated) :
    allocated = apply service (.allocate worker serviceSchedule) ∧
      service.dispatcherId.isSome = true := by
  unfold Service.allocateToWorker Service.allocatedProvider at succeeds
  cases present : service.provider with
  | none => exact absurd present provided
  | some provider =>
    rw [present] at succeeds
    simp only [Provider.create, Option.isNone_some, Bool.false_and, Bool.false_eq_true,
      if_false] at succeeds
    cases dispatched : provider.dispatcher.bind (·.id) with
    | none =>
      rw [dispatched] at succeeds
      cases succeeds
    | some id =>
      rw [dispatched] at succeeds
      cases succeeds
      refine ⟨?_, ?_⟩
      · simp only [apply, rebuild, lastEvent, Transition.provider, response, cancellationStatus,
          present]
        rfl
      · rw [Service.dispatcherId, present]
        show (provider.dispatcher.bind (·.id)).isSome = true
        rw [dispatched]
        rfl

/-- The dispatcher is assigned and, when independent, allocated to the job as well. -/
theorem assign_eq (request assigned : ServiceRequest) (dispatcher : ServiceProvider)
    (succeeds : request.assignToDispatcher dispatcher = .ok assigned) :
    assigned = { request with
        service := apply request.service (.assign dispatcher request.serviceSchedule) } ∧
      ¬ (request.service.hasBeenAssignedOrAllocated = true ∧
        request.service.hasBeenCancelled = false) ∧
      (request.config.paymentGatewayEnabled = true → request.service.hasCustomerPaid = true) ∧
      dispatcher.isWorker = false := by
  unfold ServiceRequest.assignToDispatcher at succeeds
  split at succeeds
  · cases succeeds
  rename_i free
  split at succeeds
  · cases succeeds
  rename_i paid
  split at succeeds
  · cases succeeds
  rename_i notWorker
  have guards : ¬ (request.service.hasBeenAssignedOrAllocated = true ∧
        request.service.hasBeenCancelled = false) ∧
      (request.config.paymentGatewayEnabled = true → request.service.hasCustomerPaid = true) ∧
      dispatcher.isWorker = false := by
    refine ⟨by simpa using free, ?_, by simpa using notWorker⟩
    intro enabled
    simpa [enabled, ServiceRequest.hasCustomerPaid] using paid
  refine ⟨?_, guards⟩
  split at succeeds
  · rename_i independent
    cases allocated : (request.service.assignToDispatcher dispatcher).allocateToWorker dispatcher
        request.serviceSchedule with
    | error error =>
      rw [allocated] at succeeds
      cases succeeds
    | ok service =>
      rw [allocated] at succeeds
      cases succeeds
      obtain ⟨rfl, -⟩ := allocate_eq _ _ _ _ (by simp [Service.assignToDispatcher, Service.new])
        allocated
      simp only [apply, rebuild, lastEvent, provider, response, cancellationStatus, independent,
        if_true]
      rfl
  · rename_i dependent
    cases succeeds
    simp only [apply, rebuild, lastEvent, provider, response, cancellationStatus, dependent]
    rfl

/-- A worker is allocated to the job of a dispatcher. -/
theorem allocateToWorker_eq (request allocated : ServiceRequest) (worker dealer : ServiceProvider)
    (succeeds : request.allocateToWorker worker dealer = .ok allocated) :
    allocated = { request with
        service := apply request.service (.allocate worker request.serviceSchedule) } ∧
      request.service.dispatcherId.isSome = true := by
  unfold ServiceRequest.allocateToWorker at succeeds
  split at succeeds
  · cases succeeds
  rename_i assignedTo
  obtain ⟨service, rebuilds, rest⟩ := bind_eq_ok succeeds
  cases rest
  have provided : request.service.provider ≠ none := by
    intro absent
    refine assignedTo ?_
    simp [Service.isAssignedOrAllocatedTo, Service.dispatcherId, Service.workerId, absent]
  obtain ⟨rfl, dispatched⟩ := allocate_eq _ _ _ _ provided rebuilds
  exact ⟨rfl, dispatched⟩

end Transition

/-! ### Loading what was stored -/

/-- The stored service as it is loaded. -/
def World.loaded (world : World) : Service :=
  world.request.service.load world.repository

theorem Service.load_load (repository : PaymentGatewayResponseRepository) (service : Service) :
    (service.load repository).load repository = service.load repository := by
  unfold Service.load
  cases last : service.lastCustomerPaymentGatewayResponse with
  | none => rfl
  | some response =>
    cases found : repository.findOne response.id with
    | none => simp [found]
    | some row =>
      have again := repository.findOne_id (repository.findOne_mem found).1
      simp [found, again]

theorem Service.load_of_last (repository : PaymentGatewayResponseRepository) (service : Service)
    (last : ∀ response ∈ service.lastCustomerPaymentGatewayResponse,
      repository.findOne response.id = some response) :
    service.load repository = service := by
  have unchanged : (service.lastCustomerPaymentGatewayResponse.bind fun response =>
      repository.findOne response.id) = service.lastCustomerPaymentGatewayResponse := by
    cases present : service.lastCustomerPaymentGatewayResponse with
    | none => rfl
    | some response => exact last response present
  rw [Service.load, unchanged]

/-- The last response of a loaded service is the row that has its number. -/
theorem World.loaded_last (world : World) (response : PaymentGatewayResponse)
    (last : response ∈ world.loaded.lastCustomerPaymentGatewayResponse) :
    world.repository.findOne response.id = some response := by
  obtain ⟨stored, -, found⟩ := Option.bind_eq_some_iff.mp last
  exact world.repository.findOne_id (world.repository.findOne_mem found).1

theorem Provider.persist_self (nullEmbedded : NullEmbedded) (provider : Option Provider) :
    Provider.persist nullEmbedded provider provider = provider := by
  have same : ∀ {Value : Type} (value : Option Value), (value <|> value) = value := by
    intro Value value
    cases value <;> rfl
  cases nullEmbedded with
  | written => rfl
  | skipped =>
    cases provider with
    | none => rfl
    | some provider =>
      show some (Provider.mk _ _ _) = some provider
      rw [same, same, same]

/-- Saving a service as it was loaded only refreshes its last response. -/
theorem Service.persist_load (environment : Environment)
    (repository : PaymentGatewayResponseRepository) (service : Service) :
    service.persist environment (service.load repository) = service.load repository := by
  have same : ∀ {Value : Type} (value : Option Value), (value <|> value) = value := by
    intro Value value
    cases value <;> rfl
  show { service.load repository with
    provider := Provider.persist environment.nullEmbedded service.provider service.provider
    remarks := service.remarks <|> service.remarks
    eligibleForRefund := service.eligibleForRefund <|> service.eligibleForRefund } = _
  rw [Provider.persist_self, same, same]
  rfl

theorem ProviderAnswer.get_eq_ok {answer : ProviderAnswer} {provider : ServiceProvider}
    (found : answer.get = .ok provider) : answer.provider = some provider := by
  unfold ProviderAnswer.get at found
  split at found
  · cases found
  · rename_i present
    cases found
    exact present

/-! ### What an operation does -/

/-- Only the customer's rescheduling and the payment of its surcharge touch the order. -/
def Operation.touchesOrder : Operation → Bool
  | .reschedule _ _ => true
  | .gatewayResponded (some .ecRescheduleSurcharge) => true
  | _ => false

namespace World

variable (environment : Environment) (world : World)

/-- The handling events after an operation that succeeds. -/
def eventsAfter : Operation → HandlingHistory
  | .handle input =>
    match world.loaded.nextHandlingEventType with
    | .ok type => world.handlingEvents ++ [world.handlingEvent input type]
    | .error _ => world.handlingEvents
  | _ => world.handlingEvents

/-- The responses after an operation. -/
def repositoryAfter : Operation → PaymentGatewayResponseRepository
  | .respond principalGroup payload override =>
    (iPay88Response world.repository world.clock principalGroup payload.splitRefNo override).1
  | _ => world.repository

/-- The transition an operation makes when it succeeds. -/
def transition : Operation → Option Transition
  | .accept answer _ => answer.provider.map (.assign · world.request.serviceSchedule)
  | .manuallyAssign answer _ => answer.provider.map (.assign · world.request.serviceSchedule)
  | .allocate _ worker =>
    worker.provider.bind fun worker =>
      if world.loaded.isAllocatedTo worker.id then none
      else some (.allocate worker world.request.serviceSchedule)
  | .handle input => some (.progress (world.eventsAfter (.handle input)))
  | .cancelJob _ => some (.terminate (some .cancelledByServiceProvider))
  | .cancel => some (.terminate (some .cancelledByCustomer))
  | .revoke markAsFailed =>
    some (if markAsFailed then .markFailed else .terminate (some .cancelledByOperator))
  | .reschedule _ _ => if world.request.surchargeIsDue world.clock then none
    else some (.terminate none)
  | .adminChangeSpecification expectedArrivalPeriod =>
    if world.request.hasAppointmentStartTimeChanged expectedArrivalPeriod.start then
      some (.terminate none)
    else none
  | .respond _ _ _ => none
  | .gatewayResponded (some .fee) =>
    if world.loaded.hasCustomerPaid then none
    else some (.pay (world.repository.lookup world.request.id .fee))
  | .gatewayResponded (some .ecRescheduleSurcharge) =>
    if world.request.hasCustomerPaid .ecRescheduleSurcharge then none
    else some (.terminate none)
  | .gatewayResponded none => none
  | .expire => some .expire
  | .initiateAutoAssignment => some .restart
  | .reviseCustomerOrder _ => none

/-- The guard of an operation, as far as it reads the service. -/
def Permits : Operation → Prop
  | .accept _ _ | .manuallyAssign _ _ =>
    ¬ (world.loaded.hasBeenAssignedOrAllocated = true ∧ world.loaded.hasBeenCancelled = false) ∧
      (world.request.config.paymentGatewayEnabled = true → world.loaded.hasCustomerPaid = true)
  | .allocate _ worker =>
    ∀ found ∈ worker.provider, world.loaded.isAllocatedTo found.id = true ∨
      world.loaded.dispatcherId.isSome = true
  | .handle _ => ∃ type, world.loaded.nextHandlingEventType = .ok type
  | .cancelJob _ =>
    world.loaded.hasBeenCancelled = false ∧ world.loaded.hasBeenFulfilled = false
  | .cancel =>
    world.loaded.hasCustomerPaid = true ∧ world.loaded.hasBeenFulfilled = false ∧
      world.loaded.hasBeenClosed = false
  | .reschedule _ _ => world.request.allowReschedule world.clock = true
  | _ => True

/-- What is stored about the service after an operation with the given transition. -/
def Stores (after : World) : Option Transition → Prop
  | none => after.loaded = world.request.service.load after.repository
  | some transition => ∃ refund, after.loaded = world.loaded.persist environment
      { transition.apply world.loaded with eligibleForRefund := refund }

/-- The effect of an operation that succeeds. -/
structure Effect (operation : Operation) (after : World) : Prop where
  id : after.request.id = world.request.id
  config : after.request.config = world.request.config
  verificationCode : after.request.verificationCode = world.request.verificationCode
  order : operation.touchesOrder = false →
    after.request.customerRescheduleOrder = world.request.customerRescheduleOrder
  clock : after.clock = world.clock
  repository : after.repository = world.repositoryAfter operation
  handlingEvents : after.handlingEvents = world.eventsAfter operation
  permitted : world.Permits operation
  stores : Stores environment world after (world.transition operation)

variable {environment world}

/-- An operation that saves the loaded request with its service rebuilt. -/
theorem stores_save {transition : Transition} {request : ServiceRequest}
    (events : HandlingHistory) (refund : Option Bool)
    (rebuilt : request.service =
      { transition.apply world.loaded with eligibleForRefund := refund })
    (recent : ∀ history, transition = .pay history →
      history = world.repository.lookup world.request.id .fee) :
    Stores environment world
      (World.save environment { world with handlingEvents := events } request)
      (some transition) := by
  refine ⟨refund, ?_⟩
  have unchanged : request.service.load world.repository = request.service := by
    refine Service.load_of_last _ _ fun response last => ?_
    rw [rebuilt] at last
    cases transition with
    | pay history =>
      rw [recent history rfl] at last
      have member := world.repository.lookup_mostRecentResponse _ _ last
      exact world.repository.findOne_id member.1
    | _ => exact world.loaded_last response last
  show world.request.service.persist environment (request.service.load world.repository) = _
  rw [unchanged, rebuilt]
  rfl

/-- An operation that saves the loaded request with its service unchanged. -/
theorem stores_kept {request : ServiceRequest} (kept : request.service = world.loaded) :
    Stores environment world (world.save environment request) none := by
  show world.request.service.persist environment (request.service.load world.repository) =
    world.request.service.load world.repository
  rw [kept, loaded, Service.load_load, Service.persist_load]

/-! ### One lemma for each operation -/

/-- Accepting a job and being assigned to it, if they succeed, have found a provider who is not
occupied, and save the request as it is assigned. -/
theorem assigns_of_eq_ok {answer : ProviderAnswer} {occupancy : Occupancy} {operation : Operation}
    {after : World}
    (assigning : operation = .accept answer occupancy ∨
      operation = .manuallyAssign answer occupancy)
    (succeeds : world.execute environment operation = .ok after) :
    ∃ errors dispatcher assigned, answer.get = .ok dispatcher ∧
      occupancy.check errors dispatcher world.load.serviceSchedule = .ok () ∧
      world.load.assignToDispatcher dispatcher = .ok assigned ∧
      after = world.save environment assigned := by
  obtain rfl | rfl := assigning
  · obtain ⟨dispatcher, found, rest⟩ := bind_eq_ok succeeds
    simp only at rest
    split at rest
    · cases rest
    obtain ⟨⟨⟩, passes, rest⟩ := bind_eq_ok rest
    obtain ⟨assigned, assigns, rest⟩ := bind_eq_ok rest
    cases rest
    exact ⟨_, dispatcher, assigned, found, passes, assigns, rfl⟩
  · obtain ⟨dispatcher, found, rest⟩ := bind_eq_ok succeeds
    obtain ⟨⟨⟩, passes, rest⟩ := bind_eq_ok rest
    obtain ⟨assigned, assigns, rest⟩ := bind_eq_ok rest
    cases rest
    exact ⟨_, dispatcher, assigned, found, passes, assigns, rfl⟩

/-- What accepting a job and being assigned to it have in common. -/
theorem assigned_effect {answer : ProviderAnswer} {occupancy : Occupancy} {operation : Operation}
    {after : World}
    (assigning : operation = .accept answer occupancy ∨
      operation = .manuallyAssign answer occupancy)
    (succeeds : world.execute environment operation = .ok after) :
    Effect environment world operation after := by
  obtain ⟨-, dispatcher, assigned, found, -, assigns, rfl⟩ := assigns_of_eq_ok assigning succeeds
  obtain ⟨rfl, free, paid, -⟩ := Transition.assign_eq _ _ _ assigns
  have stores : Stores environment world (world.save environment
      { world.load with
        service := Transition.apply world.load.service
          (.assign dispatcher world.load.serviceSchedule) })
      (some (.assign dispatcher world.request.serviceSchedule)) :=
    stores_save world.handlingEvents none rfl (by simp)
  have made : answer.provider.map (Transition.assign · world.request.serviceSchedule) =
      some (.assign dispatcher world.request.serviceSchedule) := by
    rw [ProviderAnswer.get_eq_ok found, Option.map_some]
  obtain rfl | rfl := assigning
  · refine ⟨rfl, rfl, rfl, fun _ => rfl, rfl, rfl, rfl, ⟨free, paid⟩, ?_⟩
    rw [transition, made]
    exact stores
  · refine ⟨rfl, rfl, rfl, fun _ => rfl, rfl, rfl, rfl, ⟨free, paid⟩, ?_⟩
    rw [transition, made]
    exact stores

theorem allocate_effect {dealer worker : ProviderAnswer} {after : World}
    (succeeds : world.allocate environment dealer worker = .ok after) :
    Effect environment world (.allocate dealer worker) after := by
  unfold allocate at succeeds
  obtain ⟨dealerFound, -, rest⟩ := bind_eq_ok succeeds
  obtain ⟨workerFound, found, rest⟩ := bind_eq_ok rest
  have present := ProviderAnswer.get_eq_ok found
  split at rest
  · rename_i already
    cases rest
    refine ⟨rfl, rfl, rfl, fun _ => rfl, rfl, rfl, rfl, ?_, ?_⟩
    · intro other member
      rw [present] at member
      cases member
      exact Or.inl already
    · rw [transition, present, Option.bind_some, if_pos (show
        world.loaded.isAllocatedTo workerFound.id = true from already)]
      rfl
  · rename_i notYet
    obtain ⟨allocated, allocates, rest⟩ := bind_eq_ok rest
    cases rest
    obtain ⟨rfl, dispatched⟩ := Transition.allocateToWorker_eq _ _ _ _ allocates
    refine ⟨rfl, rfl, rfl, fun _ => rfl, rfl, rfl, rfl, fun _ _ => Or.inr dispatched, ?_⟩
    rw [transition, present, Option.bind_some, if_neg (show
      ¬ world.loaded.isAllocatedTo workerFound.id = true from notYet)]
    exact stores_save world.handlingEvents none rfl (by simp)

theorem handle_effect {input : HandlingEventInput} {after : World}
    (succeeds : world.handle environment input = .ok after) :
    Effect environment world (.handle input) after := by
  unfold handle at succeeds
  simp only [] at succeeds
  split at succeeds
  · cases succeeds
  obtain ⟨type, next, rest⟩ := bind_eq_ok succeeds
  have events : world.eventsAfter (.handle input) =
      world.handlingEvents ++ [world.handlingEvent input type] := by
    show (match world.load.service.nextHandlingEventType with
      | .ok type => world.handlingEvents ++ [world.handlingEvent input type]
      | .error _ => world.handlingEvents) = _
    rw [next]
  have recorded : after =
      World.save environment
        { world with handlingEvents := world.eventsAfter (.handle input) }
        (world.load.deriveServiceProgress (world.eventsAfter (.handle input)) world.clock) := by
    rw [events]
    split at rest
    · obtain ⟨-, -, rest⟩ := bind_eq_ok rest
      cases rest
      rfl
    · cases rest
      rfl
  subst recorded
  exact ⟨rfl, rfl, rfl, fun _ => rfl, rfl, rfl, rfl, ⟨type, next⟩,
    stores_save _ none (Transition.progress_eq world.loaded _) (by simp)⟩

theorem cancelJob_effect {answer : ProviderAnswer} {after : World}
    (succeeds : world.cancelJob environment answer = .ok after) :
    Effect environment world (.cancelJob answer) after := by
  unfold cancelJob at succeeds
  obtain ⟨provider, -, rest⟩ := bind_eq_ok succeeds
  obtain ⟨cancelled, cancels, rest⟩ := bind_eq_ok rest
  cases rest
  unfold ServiceRequest.cancel at cancels
  split at cancels
  · cases cancels
  rename_i unfulfilled
  obtain ⟨service, terminates, rest⟩ := bind_eq_ok cancels
  cases rest
  unfold Service.cancel at terminates
  split at terminates
  · cases terminates
  split at terminates
  · cases terminates
  split at terminates
  · cases terminates
  rename_i uncancelled
  cases terminates
  refine ⟨rfl, rfl, rfl, fun _ => rfl, rfl, rfl, rfl, ⟨?_, ?_⟩,
    stores_save world.handlingEvents none
      (Transition.terminate_eq world.loaded (some .cancelledByServiceProvider)) (by simp)⟩
  · exact Bool.eq_false_iff.mpr uncancelled
  · exact Bool.eq_false_iff.mpr unfulfilled

theorem cancel_effect {after : World} (succeeds : world.cancel environment = .ok after) :
    Effect environment world .cancel after := by
  unfold cancel at succeeds
  obtain ⟨cancelled, cancels, rest⟩ := bind_eq_ok succeeds
  cases rest
  unfold ServiceRequest.cancelByCustomer at cancels
  obtain ⟨_, validates, rest⟩ := bind_eq_ok cancels
  cases rest
  unfold ServiceRequest.validateAllowEcCancel at validates
  split at validates
  · cases validates
  rename_i paid
  split at validates
  · cases validates
  split at validates
  · cases validates
  rename_i unfulfilled
  split at validates
  · cases validates
  rename_i unclosed
  refine ⟨rfl, rfl, rfl, fun _ => rfl, rfl, rfl, rfl, ⟨?_, ?_, ?_⟩,
    stores_save world.handlingEvents _ rfl (by simp)⟩
  · show world.load.hasCustomerPaid .fee = true
    simpa using paid
  · exact Bool.eq_false_iff.mpr unfulfilled
  · exact Bool.eq_false_iff.mpr unclosed

theorem revoke_effect (markAsFailed : Bool) :
    Effect environment world (.revoke markAsFailed)
      (world.save environment (world.load.revoke markAsFailed world.clock)) := by
  refine ⟨rfl, rfl, rfl, fun _ => rfl, rfl, rfl, rfl, trivial, ?_⟩
  cases markAsFailed with
  | false =>
    exact stores_save world.handlingEvents none
      (Transition.terminate_eq world.loaded (some .cancelledByOperator)) (by simp)
  | true =>
    exact stores_save world.handlingEvents (some true)
      (congrArg (fun service : Service => { service with eligibleForRefund := some true })
        (Transition.markFailed_eq world.loaded)) (by simp)

theorem reschedule_effect {start finish : Time} {after : World}
    (succeeds : world.reschedule environment start finish = .ok after) :
    Effect environment world (.reschedule start finish) after := by
  unfold reschedule at succeeds
  obtain ⟨error, notUnpaid, creates⟩ | ⟨allowed, order, ⟨due, creates⟩ | ⟨notDue, free, creates⟩⟩ :=
    world.load.createCustomerRescheduleOrder_cases environment ⟨start, finish, 8⟩ world.clock
  · rw [creates] at succeeds
    simp only [] at succeeds
    cases succeeds
  · rw [creates] at succeeds
    cases succeeds
    refine ⟨rfl, rfl, rfl, nofun, rfl, rfl, rfl, allowed, ?_⟩
    rw [transition, if_pos (show world.request.surchargeIsDue world.clock = true from due)]
    exact stores_kept rfl
  · rw [creates] at succeeds
    simp only [] at succeeds
    split at succeeds
    · rename_i throws
      have unpaid := ServiceRequest.executeCustomerRescheduleOrder_unpaid throws
      simp [ServiceRequest.executionIsUnpaid] at unpaid
    · cases succeeds
    · rename_i executed returns
      cases succeeds
      obtain ⟨-, -, -, executedOrder, appointment, -, rfl⟩ :=
        ServiceRequest.executeCustomerRescheduleOrder_returns returns
      refine ⟨rfl, rfl, rfl, nofun, rfl, rfl, rfl, allowed, ?_⟩
      rw [transition, if_neg (show ¬ world.request.surchargeIsDue world.clock = true from
        Bool.eq_false_iff.mp notDue)]
      exact stores_save world.handlingEvents none rfl (by simp)

theorem adminChangeSpecification_effect {period : Period} {after : World}
    (succeeds : world.adminChangeSpecification environment period = .ok after) :
    Effect environment world (.adminChangeSpecification period) after := by
  unfold adminChangeSpecification at succeeds
  obtain ⟨changed, changes, rest⟩ := bind_eq_ok succeeds
  cases rest
  unfold ServiceRequest.adminChangeSpecification at changes
  split at changes
  · rename_i moved
    obtain ⟨appointment, -, rfl⟩ := ServiceRequest.reschedule_eq_ok changes
    refine ⟨rfl, rfl, rfl, fun _ => rfl, rfl, rfl, rfl, trivial, ?_⟩
    rw [transition, if_pos (show
      world.request.hasAppointmentStartTimeChanged period.start = true from moved)]
    exact stores_save world.handlingEvents none rfl (by simp)
  · rename_i same
    cases changes
    refine ⟨rfl, rfl, rfl, fun _ => rfl, rfl, rfl, rfl, trivial, ?_⟩
    rw [transition, if_neg (show
      ¬ world.request.hasAppointmentStartTimeChanged period.start = true from same)]
    exact stores_kept rfl

theorem gatewayResponded_effect {purpose : Option PaymentPurposeCode} {after : World}
    (succeeds : world.gatewayResponded environment purpose = .ok after) :
    Effect environment world (.gatewayResponded purpose) after := by
  cases purpose with
  | none =>
    cases succeeds
    exact ⟨rfl, rfl, rfl, fun _ => rfl, rfl, rfl, rfl, trivial, rfl⟩
  | some purpose =>
    cases purpose with
    | fee =>
      simp only [gatewayResponded, handleServiceRequestFeePaymentGatewayResponded] at succeeds
      split at succeeds
      · rename_i paid
        cases succeeds
        refine ⟨rfl, rfl, rfl, fun _ => rfl, rfl, rfl, rfl, trivial, ?_⟩
        rw [transition, if_pos (show world.loaded.hasCustomerPaid = true from paid)]
        rfl
      · rename_i unpaid
        cases succeeds
        refine ⟨rfl, rfl, rfl, fun _ => rfl, rfl, rfl, rfl, trivial, ?_⟩
        rw [transition, if_neg (show ¬ world.loaded.hasCustomerPaid = true from unpaid)]
        refine stores_save world.handlingEvents none (Transition.pay_eq world.loaded _)
          fun history same => ?_
        exact (Transition.pay.inj same).symm
    | ecRescheduleSurcharge =>
      simp only [gatewayResponded, handleEcRescheduleSurchargePayementGatewayResponded]
        at succeeds
      split at succeeds
      · rename_i paid
        cases succeeds
        refine ⟨rfl, rfl, rfl, nofun, rfl, rfl, rfl, trivial, ?_⟩
        rw [transition, if_pos (show
          world.request.hasCustomerPaid .ecRescheduleSurcharge = true from paid)]
        rfl
      · rename_i unpaid
        split at succeeds
        · cases succeeds
        · rename_i executed returns
          cases succeeds
          obtain ⟨-, -, -, order, appointment, -, rfl⟩ :=
            ServiceRequest.executeCustomerRescheduleOrder_returns returns
          refine ⟨rfl, rfl, rfl, nofun, rfl, rfl, rfl, trivial, ?_⟩
          rw [transition, if_neg (show
            ¬ world.request.hasCustomerPaid .ecRescheduleSurcharge = true from unpaid)]
          exact stores_save world.handlingEvents none rfl (by simp)

/-- An operation that succeeds has passed its guard and stores its transition, applied to the
service that was loaded. -/
theorem execute_effect {operation : Operation} {after : World}
    (succeeds : world.execute environment operation = .ok after) :
    Effect environment world operation after := by
  cases operation with
  | accept answer occupancy => exact assigned_effect (Or.inl rfl) succeeds
  | manuallyAssign answer occupancy => exact assigned_effect (Or.inr rfl) succeeds
  | allocate dealer worker => exact allocate_effect succeeds
  | handle input => exact handle_effect succeeds
  | cancelJob answer => exact cancelJob_effect succeeds
  | cancel => exact cancel_effect succeeds
  | revoke markAsFailed =>
    cases succeeds
    exact revoke_effect markAsFailed
  | reschedule start finish => exact reschedule_effect succeeds
  | adminChangeSpecification period => exact adminChangeSpecification_effect succeeds
  | respond principalGroup payload override =>
    cases succeeds
    exact ⟨rfl, rfl, rfl, fun _ => rfl, rfl, rfl, rfl, trivial, rfl⟩
  | gatewayResponded purpose => exact gatewayResponded_effect succeeds
  | expire =>
    cases succeeds
    exact ⟨rfl, rfl, rfl, fun _ => rfl, rfl, rfl, rfl, trivial,
      stores_save world.handlingEvents none (Transition.expire_eq world.loaded) (by simp)⟩
  | initiateAutoAssignment =>
    cases succeeds
    exact ⟨rfl, rfl, rfl, fun _ => rfl, rfl, rfl, rfl, trivial,
      stores_save world.handlingEvents none (Transition.restart_eq world.loaded) (by simp)⟩
  | reviseCustomerOrder order =>
    cases succeeds
    exact ⟨rfl, rfl, rfl, fun _ => rfl, rfl, rfl, rfl, trivial, stores_kept rfl⟩

/-- The transition an operation performs: its own, unless it throws. -/
def performed (environment : Environment) (world : World) (operation : Operation) :
    Option Transition :=
  match world.execute environment operation with
  | .ok _ => world.transition operation
  | .error _ => none

end World

end FieldService
