/-
This file turns the effect of an operation into facts about one step of the system.

A step either leaves the service as it was, up to a fresh look at its last response, or
makes exactly one transition (`step_cases`). From it follow the invariants that hold in
every run, whatever the operations: the status agrees with the last event, the next action
is the one calculated from the status, and an allocation status other than unassigned is
backed by the identifiers it stands for (`Service.Consistent`).
-/

import FieldService.Lifecycle.Transitions

namespace FieldService

open Execution

/-! ### The fields of a rebuilt service -/

/-- What is stored, field by field, when a transition of a loaded service is saved. -/
structure Rebuilt (environment : Environment) (service : Service) (transition : Transition)
    (after : Service) : Prop where
  lastEvent : after.lastEvent = transition.lastEvent service
  provider : after.provider =
    Provider.persist environment.nullEmbedded service.provider (transition.provider service)
  isPrepaid : after.isPrepaid = service.isPrepaid
  lastResponse : after.lastCustomerPaymentGatewayResponse = transition.response service
  paymentStatus : after.paymentStatus = (transition.apply service).paymentStatus
  allocationStatus : after.allocationStatus =
    calculateAllocationStatus (transition.provider service)
  status : after.status = (transition.apply service).status
  nextActionType : after.nextActionType = (transition.apply service).nextActionType

theorem rebuilt_persist (environment : Environment) (service : Service) (transition : Transition)
    (refund : Option Bool) :
    Rebuilt environment service transition
      (service.persist environment
        { transition.apply service with eligibleForRefund := refund }) := by
  cases transition <;> exact ⟨rfl, rfl, rfl, rfl, rfl, rfl, rfl, rfl⟩

/-! ### Steps -/

/-- What a step does to the service and its handling events. -/
inductive World.StepEffect (environment : Environment) (world : World) (action : Timed)
    (after : World) : Prop
  | kept
      (performed : (world.wait action.elapsed).performed environment action.operation = none)
      (service : after.loaded = world.request.service.load after.repository)
      (handlingEvents : after.handlingEvents = world.handlingEvents)
  | made (transition : Transition)
      (performed :
        (world.wait action.elapsed).performed environment action.operation = some transition)
      (own : (world.wait action.elapsed).transition action.operation = some transition)
      (permitted : (world.wait action.elapsed).Permits action.operation)
      (repository : after.repository = world.repository)
      (handlingEvents : after.handlingEvents = transition.handlingEvents world.handlingEvents)
      (service : Rebuilt environment world.loaded transition after.loaded)

/-- The operations that make a transition. -/
def Transition.ComesFrom : Transition → Operation → Prop
  | .assign _ _, .accept _ _ => True
  | .assign _ _, .manuallyAssign _ _ => True
  | .allocate _ _, .allocate _ _ => True
  | .progress _, .handle _ => True
  | .terminate _, .cancelJob _ => True
  | .terminate _, .cancel => True
  | .terminate _, .revoke _ => True
  | .terminate _, .reschedule _ _ => True
  | .terminate _, .adminChangeSpecification _ => True
  | .terminate _, .gatewayResponded (some .ecRescheduleSurcharge) => True
  | .markFailed, .revoke _ => True
  | .pay _, .gatewayResponded (some .fee) => True
  | .expire, .expire => True
  | .restart, .initiateAutoAssignment => True
  | _, _ => False

theorem World.comesFrom {world : World} {operation : Operation} {transition : Transition}
    (own : world.transition operation = some transition) : transition.ComesFrom operation := by
  cases operation with
  | accept answer occupancy =>
    obtain ⟨dispatcher, -, rfl⟩ := Option.map_eq_some_iff.mp own
    trivial
  | manuallyAssign answer occupancy =>
    obtain ⟨dispatcher, -, rfl⟩ := Option.map_eq_some_iff.mp own
    trivial
  | allocate dealer worker =>
    obtain ⟨found, -, own⟩ := Option.bind_eq_some_iff.mp own
    split at own <;> cases own
    trivial
  | revoke markAsFailed => cases markAsFailed <;> cases own <;> trivial
  | reschedule start finish =>
    simp only [World.transition] at own
    split at own <;> cases own
    trivial
  | adminChangeSpecification period =>
    simp only [World.transition] at own
    split at own <;> cases own
    trivial
  | gatewayResponded purpose =>
    cases purpose with
    | none => cases own
    | some purpose =>
      cases purpose <;> simp only [World.transition] at own <;> split at own <;> cases own <;>
        trivial
  | _ => cases own <;> trivial

/-- Only progress records an event. -/
theorem World.eventsAfter_eq {world : World} {operation : Operation} {transition : Transition}
    (own : world.transition operation = some transition) :
    world.eventsAfter operation = transition.handlingEvents world.handlingEvents := by
  have origin := World.comesFrom own
  cases operation with
  | handle input =>
    cases own
    rfl
  | _ =>
    cases transition with
    | progress history => exact origin.elim
    | _ => rfl

/-- Looking up the last response again changes no other column. -/
theorem World.kept_columns {world after : World}
    (service : after.loaded = world.request.service.load after.repository) :
    ∃ last, after.request.service =
      { world.request.service with lastCustomerPaymentGatewayResponse := last } := by
  refine ⟨after.request.service.lastCustomerPaymentGatewayResponse, ?_⟩
  exact congrArg (fun loaded : Service => { loaded with
    lastCustomerPaymentGatewayResponse :=
      after.request.service.lastCustomerPaymentGatewayResponse }) service

theorem World.step_cases (environment : Environment) (world : World) (action : Timed) :
    World.StepEffect environment world action (world.step environment action) := by
  obtain ⟨elapsed, operation⟩ := action
  cases executed : (world.wait elapsed).execute environment operation with
  | error error =>
    have step : world.step environment ⟨elapsed, operation⟩ = world.wait elapsed := by
      rw [World.step, executed]
    rw [step]
    refine .kept ?_ rfl rfl
    rw [World.performed, executed]
  | ok after =>
    have step : world.step environment ⟨elapsed, operation⟩ = after := by
      rw [World.step, executed]
    have performed : (world.wait elapsed).performed environment operation =
        (world.wait elapsed).transition operation := by
      rw [World.performed, executed]
    have effect := World.execute_effect executed
    have stores := effect.stores
    rw [step]
    cases own : (world.wait elapsed).transition operation with
    | none =>
      rw [own] at stores
      refine .kept (performed.trans own) stores ?_
      rw [effect.handlingEvents]
      cases operation with
      | handle input => cases own
      | _ => rfl
    | some transition =>
      rw [own] at stores
      obtain ⟨refund, stored⟩ := stores
      refine .made transition (performed.trans own) own effect.permitted ?_ ?_ ?_
      rotate_left
      · rw [effect.handlingEvents]
        exact World.eventsAfter_eq own
      rotate_right
      · rw [effect.repository]
        cases operation with
        | respond principalGroup payload override => cases own
        | _ => rfl
      · rw [stored]
        exact rebuilt_persist environment world.loaded transition refund

/-- The number and the configuration of a request never change, and time goes forward. -/
theorem World.step_frame (environment : Environment) (world : World) (action : Timed) :
    (world.step environment action).request.id = world.request.id ∧
      (world.step environment action).request.config = world.request.config ∧
      (world.step environment action).clock = world.clock + action.elapsed := by
  unfold World.step
  split
  · rename_i after executed
    have effect := World.execute_effect executed
    exact ⟨effect.id, effect.config, effect.clock⟩
  · exact ⟨rfl, rfl, rfl⟩

/-- A step that is not about the order keeps it. -/
theorem World.step_order (environment : Environment) (world : World) {action : Timed}
    (other : action.operation.touchesOrder = false) :
    (world.step environment action).request.customerRescheduleOrder =
      world.request.customerRescheduleOrder := by
  unfold World.step
  split
  · rename_i after executed
    have effect := World.execute_effect executed
    exact effect.order other
  · rfl

/-! ### The guards of the transitions -/

/-- What is known of the world when a transition is made. -/
def Transition.Granted (world : World) : Transition → Prop
  | .assign _ _ =>
    ¬ (world.loaded.hasBeenAssignedOrAllocated = true ∧ world.loaded.hasBeenCancelled = false) ∧
      (world.request.config.paymentGatewayEnabled = true → world.loaded.hasCustomerPaid = true)
  | .allocate worker _ =>
    world.loaded.dispatcherId.isSome = true ∧ world.loaded.workerId ≠ some worker.id
  | .progress history => ∃ input type, world.loaded.nextHandlingEventType = .ok type ∧
      history = world.handlingEvents ++ [world.handlingEvent input type]
  | .terminate (some .cancelledByServiceProvider) =>
    world.loaded.hasBeenCancelled = false ∧ world.loaded.hasBeenFulfilled = false
  | .terminate (some .cancelledByCustomer) =>
    world.loaded.hasCustomerPaid = true ∧ world.loaded.hasBeenFulfilled = false ∧
      world.loaded.hasBeenClosed = false
  | .terminate (some .failed) => False
  | .pay history => world.loaded.hasCustomerPaid = false ∧
      history = world.repository.lookup world.request.id .fee
  | _ => True

/-- An operation that passes its guard grants the transition it makes. -/
theorem World.granted {world : World} {operation : Operation} {transition : Transition}
    (own : world.transition operation = some transition) (permitted : world.Permits operation) :
    transition.Granted world := by
  cases operation with
  | accept answer occupancy =>
    obtain ⟨dispatcher, -, rfl⟩ := Option.map_eq_some_iff.mp own
    exact permitted
  | manuallyAssign answer occupancy =>
    obtain ⟨dispatcher, -, rfl⟩ := Option.map_eq_some_iff.mp own
    exact permitted
  | allocate dealer worker =>
    obtain ⟨found, present, own⟩ := Option.bind_eq_some_iff.mp own
    split at own
    · cases own
    · rename_i notYet
      cases own
      have different : world.loaded.workerId ≠ some found.id := by
        simpa [Service.isAllocatedTo] using notYet
      obtain already | dispatched := permitted found present
      · exact absurd already notYet
      · exact ⟨dispatched, different⟩
  | handle input =>
    cases own
    obtain ⟨type, next⟩ := permitted
    refine ⟨input, type, next, ?_⟩
    simp only [World.eventsAfter, next]
  | cancelJob answer =>
    cases own
    exact permitted
  | cancel =>
    cases own
    exact permitted
  | revoke markAsFailed =>
    cases own
    cases markAsFailed <;> exact trivial
  | reschedule start finish =>
    simp only [World.transition] at own
    split at own <;> cases own
    exact trivial
  | adminChangeSpecification period =>
    simp only [World.transition] at own
    split at own <;> cases own
    exact trivial
  | respond principalGroup payload override => cases own
  | gatewayResponded purpose =>
    cases purpose with
    | none => cases own
    | some purpose =>
      cases purpose with
      | fee =>
        simp only [World.transition] at own
        split at own <;> cases own
        rename_i unpaid
        exact ⟨Bool.eq_false_iff.mpr unpaid, rfl⟩
      | ecRescheduleSurcharge =>
        simp only [World.transition] at own
        split at own <;> cases own
        exact trivial
  | expire =>
    cases own
    exact trivial
  | initiateAutoAssignment =>
    cases own
    exact trivial
  | reviseCustomerOrder order => cases own

/-! ### The identifiers after a transition -/

section

variable {environment : Environment} {service after : Service} {transition : Transition}

/-- A dispatcher the entity holds is the dispatcher that is stored. -/
theorem Provider.persist_dispatcherId (nullEmbedded : NullEmbedded) (old : Option Provider)
    (new : Provider) (present : new.dispatcher ≠ none) :
    (Provider.persist nullEmbedded old (some new)).bind (·.dispatcherId) = new.dispatcherId := by
  obtain ⟨dispatcher, worker, schedule⟩ := new
  cases dispatcher with
  | none => exact absurd rfl present
  | some agent => cases nullEmbedded <;> cases old <;> rfl

/-- A worker the entity holds is the worker that is stored. -/
theorem Provider.persist_workerId (nullEmbedded : NullEmbedded) (old : Option Provider)
    (new : Provider) (present : new.worker ≠ none) :
    (Provider.persist nullEmbedded old (some new)).bind (·.workerId) = new.workerId := by
  obtain ⟨dispatcher, worker, schedule⟩ := new
  cases worker with
  | none => exact absurd rfl present
  | some agent => cases nullEmbedded <;> cases old <;> rfl

theorem dispatcher_ne_none {provider : Option Provider}
    (dispatched : (provider.bind (·.dispatcherId)).isSome = true) :
    provider.bind (·.dispatcher) ≠ none := by
  intro absent
  cases provider with
  | none => cases dispatched
  | some provider =>
    have missing : provider.dispatcher = none := absent
    simp [Provider.dispatcherId, missing] at dispatched

/-- A provider that is allocated as the entity holds it is stored with both identifiers. -/
theorem persist_of_allocationStatus (nullEmbedded : NullEmbedded) (old new : Option Provider) :
    (calculateAllocationStatus new ≠ .unassigned →
      ((Provider.persist nullEmbedded old new).bind (·.dispatcherId)).isSome = true) ∧
    (calculateAllocationStatus new = .allocated →
      ((Provider.persist nullEmbedded old new).bind (·.workerId)).isSome = true) := by
  rw [calculateAllocationStatus_eq]
  cases new with
  | none => simp
  | some new =>
    rw [Option.bind_some, Option.bind_some]
    cases dispatched : new.dispatcherId with
    | none => simp
    | some dispatcherId =>
      have dispatcherPresent : new.dispatcher ≠ none := by
        intro absent
        simp [Provider.dispatcherId, absent] at dispatched
      refine ⟨fun _ => ?_, fun allocated => ?_⟩
      · rw [Provider.persist_dispatcherId nullEmbedded old new dispatcherPresent, dispatched]
        rfl
      · cases staffed : new.workerId with
        | none => simp [staffed] at allocated
        | some workerId =>
          have workerPresent : new.worker ≠ none := by
            intro absent
            simp [Provider.workerId, absent] at staffed
          rw [Provider.persist_workerId nullEmbedded old new workerPresent, staffed]
          rfl

/-- Except after a restart, the dispatcher that is stored is the one the entity holds. -/
theorem Rebuilt.dispatcherId (rebuilt : Rebuilt environment service transition after)
    (notRestart : transition ≠ .restart)
    (dispatched : ∀ worker serviceSchedule, transition = .allocate worker serviceSchedule →
      service.dispatcherId.isSome = true) :
    after.dispatcherId = (transition.provider service).bind (·.dispatcherId) := by
  rw [Service.dispatcherId, rebuilt.provider]
  cases transition with
  | assign dispatcher serviceSchedule =>
    simp only [Transition.provider]
    split <;> exact Provider.persist_dispatcherId _ _ _ (by simp [Service.dispatchedTo])
  | allocate worker serviceSchedule =>
    exact Provider.persist_dispatcherId _ _ _
      (dispatcher_ne_none (dispatched worker serviceSchedule rfl))
  | terminate cancellationStatus =>
    exact Provider.persist_dispatcherId _ _ _ (by simp [Provider.createEmptyProvider])
  | expire => exact Provider.persist_dispatcherId _ _ _ (by simp [Provider.createEmptyProvider])
  | restart => exact absurd rfl notRestart
  | _ => exact congrArg (Option.bind · Provider.dispatcherId) (Provider.persist_self _ _)

end

/-- A provider that is passed on is stored as it was. -/
theorem Rebuilt.sameProvider (rebuilt : Rebuilt environment service transition after)
    (same : transition.provider service = service.provider) :
    after.dispatcherId = service.dispatcherId ∧ after.workerId = service.workerId := by
  rw [Service.dispatcherId, Service.workerId, rebuilt.provider, same, Provider.persist_self]
  exact ⟨rfl, rfl⟩

/-- An empty provider is stored without identifiers. -/
theorem Rebuilt.emptyProvider (rebuilt : Rebuilt environment service transition after)
    (empty : transition.provider service = some .createEmptyProvider) :
    after.dispatcherId = none ∧ after.workerId = none := by
  rw [Service.dispatcherId, Service.workerId, rebuilt.provider, empty,
    Provider.persist_dispatcherId _ _ _ (by simp [Provider.createEmptyProvider]),
    Provider.persist_workerId _ _ _ (by simp [Provider.createEmptyProvider])]
  exact ⟨rfl, rfl⟩

/-! ### Invariants of every run -/

/-- The status is one from before the handling. -/
def ServiceStatusEnum.IsUntracked (status : ServiceStatusEnum) : Prop :=
  status = .awaitingPayment ∨
    ∃ allocation : ServiceAllocationStatusEnum, status = allocation.status

/-- The columns of a service agree with each other as far as every transition keeps them. -/
structure Service.Consistent (service : Service) : Prop where
  /-- A status of the handling track is that of the last event. -/
  tracked : ∀ type : HandlingEventTypeEnum, service.status = type.status →
    service.lastEvent.map (·.type) = some type
  /-- A status from before the handling belongs to a service that has not been started. -/
  untracked : service.status.IsUntracked → service.lastEvent = none
  /-- The next action is calculated from the status, except after an expiry. -/
  advertised : service.status ≠ .failedPayment →
    service.nextActionType = calculateNextActionType service.status service.allocationStatus
  /-- An assigned service has a dispatcher. -/
  dispatched : service.allocationStatus ≠ .unassigned → service.dispatcherId.isSome = true
  /-- An allocated service has a worker. -/
  staffed : service.allocationStatus = .allocated → service.workerId.isSome = true
  /-- A started service with a dispatcher knows it. -/
  known : service.lastEvent.isSome = true → service.dispatcherId.isSome = true →
    service.allocationStatus ≠ .unassigned

theorem ServiceAllocationStatusEnum.ne_unassigned {status : ServiceAllocationStatusEnum}
    (taken : status = .assigned ∨ status = .allocated) : status ≠ .unassigned := by
  obtain rfl | rfl := taken <;> decide

theorem Transition.apply_status (service : Service) (transition : Transition)
    (notExpire : transition ≠ .expire) :
    (transition.apply service).status =
      match transition.cancellationStatus with
      | some cancellationStatus => cancellationStatus.status
      | none => calculateStatus (transition.lastEvent service) service.isPrepaid
          (calculatePaymentStatus (transition.response service))
          (calculateAllocationStatus (transition.provider service)) := by
  cases transition with
  | expire => exact absurd rfl notExpire
  | _ => rfl

theorem HandlingEventTypeEnum.status_tracked (type : HandlingEventTypeEnum) :
    ¬ type.status.IsUntracked := by
  rintro (same | ⟨allocation, same⟩)
  · cases type <;> cases same
  · cases type <;> cases allocation <;> cases same

theorem CancellationStatus.status_tracked (cancellationStatus : CancellationStatus) :
    ¬ cancellationStatus.status.IsUntracked := by
  rintro (same | ⟨allocation, same⟩)
  · cases cancellationStatus <;> cases same
  · cases cancellationStatus <;> cases allocation <;> cases same

section

variable {environment : Environment} {service after : Service} {transition : Transition}

theorem Rebuilt.tracked (rebuilt : Rebuilt environment service transition after)
    (notExpire : transition ≠ .expire) (type : HandlingEventTypeEnum)
    (same : after.status = type.status) : after.lastEvent.map (·.type) = some type := by
  rw [rebuilt.lastEvent]
  rw [rebuilt.status, Transition.apply_status _ _ notExpire] at same
  split at same
  · rename_i cancellationStatus _
    cases cancellationStatus <;> cases type <;> cases same
  · exact calculateStatus_eq_event same

theorem Rebuilt.untracked (rebuilt : Rebuilt environment service transition after)
    (notExpire : transition ≠ .expire) (before : after.status.IsUntracked) :
    after.lastEvent = none := by
  rw [rebuilt.lastEvent]
  rw [rebuilt.status, Transition.apply_status _ _ notExpire] at before
  cases last : transition.lastEvent service with
  | none => rfl
  | some event =>
    rw [last] at before
    split at before
    · rename_i cancellationStatus _
      exact absurd before cancellationStatus.status_tracked
    · exact absurd before event.type.status_tracked

/-- An expired service has a status of its own and no event. -/
theorem Rebuilt.consistent_expire (rebuilt : Rebuilt environment service .expire after) :
    after.Consistent := by
  have status : after.status = .failedPayment := rebuilt.status
  have stored := persist_of_allocationStatus environment.nullEmbedded service.provider
    (Transition.provider service .expire)
  rw [← rebuilt.provider, ← rebuilt.allocationStatus] at stored
  refine ⟨?_, ?_, fun open' => absurd status open', stored.1, stored.2, ?_⟩
  · intro type same
    rw [status] at same
    cases type <;> cases same
  · rw [status]
    rintro (same | ⟨allocation, same⟩)
    · cases same
    · cases allocation <;> cases same
  · rw [rebuilt.lastEvent]
    exact fun started => absurd started (by simp [Transition.lastEvent])

end

/-- Every transition that is granted leaves the columns in agreement. -/
theorem Rebuilt.consistent {environment : Environment} {world : World} {after : Service}
    {transition : Transition} (granted : transition.Granted world)
    (rebuilt : Rebuilt environment world.loaded transition after) : after.Consistent := by
  by_cases expiry : transition = .expire
  · subst expiry
    exact rebuilt.consistent_expire
  have stored := persist_of_allocationStatus environment.nullEmbedded world.loaded.provider
    (transition.provider world.loaded)
  rw [← rebuilt.provider, ← rebuilt.allocationStatus] at stored
  refine ⟨rebuilt.tracked expiry, rebuilt.untracked expiry, fun _ => ?_, stored.1, stored.2,
    fun started known => ?_⟩
  · rw [rebuilt.nextActionType, rebuilt.status, rebuilt.allocationStatus]
    cases transition with
    | expire => exact absurd rfl expiry
    | _ => rfl
  · rw [rebuilt.allocationStatus, calculateAllocationStatus_eq]
    have notRestart : transition ≠ .restart := by
      rintro rfl
      rw [rebuilt.lastEvent] at started
      cases started
    have dispatcher : after.dispatcherId =
        (transition.provider world.loaded).bind (·.dispatcherId) := by
      refine rebuilt.dispatcherId notRestart fun worker serviceSchedule same => ?_
      subst same
      exact granted.1
    rw [dispatcher] at known
    obtain ⟨dispatcherId, dispatched⟩ := Option.isSome_iff_exists.mp known
    rw [dispatched]
    cases (transition.provider world.loaded).bind (·.workerId) <;> simp

/-- Looking up the last response again changes no other column. -/
theorem Service.Consistent.load {service : Service} (consistent : service.Consistent)
    (repository : PaymentGatewayResponseRepository) : (service.load repository).Consistent :=
  ⟨consistent.tracked, consistent.untracked, consistent.advertised, consistent.dispatched,
    consistent.staffed, consistent.known⟩

theorem World.consistent_step (environment : Environment) (world : World) (action : Timed)
    (consistent : world.request.service.Consistent) :
    (world.step environment action).request.service.Consistent := by
  have loaded : (world.step environment action).loaded.Consistent := by
    cases world.step_cases environment action with
    | kept performed service handlingEvents =>
      rw [service]
      exact consistent.load _
    | made transition performed own permitted repository handlingEvents service =>
      exact service.consistent (World.granted own permitted)
  exact ⟨loaded.tracked, loaded.untracked, loaded.advertised, loaded.dispatched, loaded.staffed,
    loaded.known⟩

/-! ### The start of a run -/

/-- What is known of the service of a request that has just been created. -/
theorem ServiceRequest.create_service {environment : Environment} {input : ServiceRequestInput}
    {now : Time} {request : ServiceRequest}
    (created : ServiceRequest.create environment input now = .ok request) :
    request.config = input.serviceRequestOptions ∧ request.createdAt = now ∧
      request.service =
        { Service.derivedFrom [] .createEmptyProvider []
            input.serviceRequestOptions.paymentGatewayEnabled with
          eligibleForRefund := some false } := by
  obtain ⟨appointment, -, rest⟩ := bind_eq_ok created
  cases rest
  exact ⟨rfl, rfl, rfl⟩

theorem ServiceRequest.create_consistent {environment : Environment}
    {input : ServiceRequestInput} {now : Time} {request : ServiceRequest}
    (created : ServiceRequest.create environment input now = .ok request) :
    request.service.Consistent := by
  rw [(ServiceRequest.create_service created).2.2]
  constructor
  case tracked =>
    intro type same
    have last : (none : Option HandlingEvent).map (·.type) = some type :=
      calculateStatus_eq_event same
    cases last
  case untracked => exact fun _ => rfl
  case advertised => exact fun _ => rfl
  case dispatched => exact fun assigned => absurd rfl assigned
  case staffed => exact fun allocated => by cases allocated
  case known => exact fun started => by cases started

end FieldService
