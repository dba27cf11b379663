/-
This file models the calendar: the requests with their lives, and the rows of `appointments`.

A row is inserted when a job goes to a worker. From then on the commands publish events, and every
handler of the dispatching module is one update of all the rows that match a criterion, which
names the request and sometimes an agent, and never the status. The occupancy of a provider, which
an operation on a single request takes as given, is asked of the calendar here.

What a step inserts is read off the transition it performs (`inserted_eq`), and so is who holds
the job afterwards.
-/

import FieldService.Dispatching.Overlap
import FieldService.Lifecycle.Agreement

namespace FieldService.Dispatching

/-! ### The events and their handlers -/

/-- The events of a service request that change its appointments. -/
inductive DispatchingEvent where
  /-- `ServiceRequestAllocatedEvent`. -/
  | allocated (serviceRequest : ServiceRequest)
  /-- `ServiceRequestCancelledEvent`. -/
  | cancelled (serviceRequest : ServiceRequest)
  /-- `ServiceRequestRevokedEvent`. -/
  | revoked (serviceRequest : ServiceRequest)
  /-- `ServiceRequestRescheduledEvent`. -/
  | rescheduled (serviceRequest : ServiceRequest) (impactedServiceProviderId : Option Uuid)
  /-- `ServiceRequestFulfilledEvent`. -/
  | fulfilled (serviceRequest : ServiceRequest)

/-- An `update` of the rows of a table. -/
structure AppointmentUpdate where
  criteria : AppointmentRow → Bool
  status : AppointmentStatusEnum

/-- What an update makes of a row. -/
def AppointmentUpdate.change (update : AppointmentUpdate) (row : AppointmentRow) :
    AppointmentRow :=
  if update.criteria row then { row with status := update.status } else row

/-- `ServiceRequestAllocatedHandler.handle`. A worker that is null is not unequal to any. -/
def serviceRequestAllocatedHandler (serviceRequest : ServiceRequest) : AppointmentUpdate where
  criteria row := row.serviceRequestId = serviceRequest.id &&
    row.provider.workerId.any fun workerId => serviceRequest.service.workerId.any (workerId ≠ ·)
  status := .replaced

/-- `ServiceRequestCancelledHandler.handle`. -/
def serviceRequestCancelledHandler (serviceRequest : ServiceRequest) : AppointmentUpdate where
  criteria row := row.serviceRequestId = serviceRequest.id
  status := .cancelled

/-- `ServiceRequestRevokedHandler.handle`. -/
def serviceRequestRevokedHandler (serviceRequest : ServiceRequest) : AppointmentUpdate where
  criteria row := row.serviceRequestId = serviceRequest.id
  status := .revoked

/-- `ServiceRequestRescheduledHandler.handle`. -/
def serviceRequestRescheduledHandler (serviceRequest : ServiceRequest)
    (impactedServiceProviderId : Option Uuid) : AppointmentUpdate where
  criteria row := row.serviceRequestId = serviceRequest.id &&
    impactedServiceProviderId.all fun id => row.provider.dispatcherId = some id
  status := .rescheduled

/-- `DispatchingServiceRequestFulfilledHandler.handle`. A worker that is null is that of no row. -/
def dispatchingServiceRequestFulfilledHandler (serviceRequest : ServiceRequest) :
    AppointmentUpdate where
  criteria row := row.serviceRequestId = serviceRequest.id &&
    row.provider.workerId.any fun workerId => serviceRequest.service.workerId = some workerId
  status := .fulfilled

/-- `AppointmentFactory.create`. -/
def AppointmentRow.create (serviceRequest : ServiceRequest) : AppointmentRow where
  serviceRequestId := serviceRequest.id
  provider := serviceRequest.service.provider.getD ⟨none, none, none⟩
  status := .allocated

namespace DispatchingEvent

/-- What the handler of an event does. -/
def update : DispatchingEvent → AppointmentUpdate
  | .allocated serviceRequest => serviceRequestAllocatedHandler serviceRequest
  | .cancelled serviceRequest => serviceRequestCancelledHandler serviceRequest
  | .revoked serviceRequest => serviceRequestRevokedHandler serviceRequest
  | .rescheduled serviceRequest impactedServiceProviderId =>
    serviceRequestRescheduledHandler serviceRequest impactedServiceProviderId
  | .fulfilled serviceRequest => dispatchingServiceRequestFulfilledHandler serviceRequest

/-- The row that is saved right before an event is published: each of the three commands that
publish an allocation does it. -/
def inserted : DispatchingEvent → Option AppointmentRow
  | .allocated serviceRequest => some (.create serviceRequest)
  | _ => none

/-- The row is inserted and the handler runs. -/
def apply (event : DispatchingEvent) (rows : List AppointmentRow) : List AppointmentRow :=
  (rows ++ event.inserted.toList).map event.update.change

end DispatchingEvent

/-! ### What the commands publish -/

/-- The event of a job that has been accepted or assigned: there is one if the provider is
allocated at once. -/
def assignedEvent (world : World) (answer : ProviderAnswer) : Option DispatchingEvent :=
  match answer.get with
  | .error _ => none
  | .ok serviceProvider =>
    match world.load.assignToDispatcher serviceProvider with
    | .error _ => none
    | .ok assigned =>
      if assigned.service.isAllocatedTo answer.providerId then some (.allocated assigned) else none

/-- The event of a job that has been allocated, if it was not allocated to the worker before. -/
def allocatedEvent (world : World) (dealer worker : ProviderAnswer) : Option DispatchingEvent :=
  match dealer.get, worker.get with
  | .ok dealer, .ok worker =>
    if world.load.service.isAllocatedTo worker.id then none
    else
      match world.load.allocateToWorker worker dealer with
      | .error _ => none
      | .ok allocated => some (.allocated allocated)
  | _, _ => none

/-- The event an operation publishes once it is done. Its handler may read the request as it was
saved or as it is found again; both have the same number and the same order. -/
def publishedEvent (environment : Environment) (world : World) (operation : Operation) :
    Option DispatchingEvent :=
  match world.execute environment operation with
  | .error _ => none
  | .ok after =>
    match operation with
    | .accept answer _ => assignedEvent world answer
    | .manuallyAssign answer _ => assignedEvent world answer
    | .allocate dealer worker => allocatedEvent world dealer worker
    | .handle _ =>
      if after.load.service.hasBeenFulfilled then some (.fulfilled after.load) else none
    | .cancelJob _ =>
      if after.request.service.hasBeenCancelled then some (.cancelled after.request) else none
    | .cancel =>
      if after.request.service.hasBeenCancelled then some (.cancelled after.request) else none
    | .revoke _ =>
      if after.request.service.hasBeenCancelled then some (.revoked after.request) else none
    | .reschedule _ _ =>
      if after.request.hasBeenRescheduledOnce then
        some (.rescheduled after.load
          after.request.getCustomerRescheduleOrder.impactedServiceProviderId)
      else none
    | .adminChangeSpecification expectedArrivalPeriod =>
      if world.load.hasAppointmentStartTimeChanged expectedArrivalPeriod.start then
        some (.rescheduled after.load world.load.service.dispatcherId)
      else none
    | .gatewayResponded (some .ecRescheduleSurcharge) =>
      if world.load.hasCustomerPaid .ecRescheduleSurcharge then none
      else if after.request.hasBeenRescheduledOnce then
        some (.rescheduled after.load
          after.load.getCustomerRescheduleOrder.impactedServiceProviderId)
      else none
    | _ => none

/-! ### The calendar -/

/-- What occupies a provider, as the calendar has it. -/
def occupancyOf (directory : Directory) (rows : List AppointmentRow) (schedule : Period)
    (answer : ProviderAnswer) : Occupancy where
  availableWorkers := (getWorkersOfDealer directory rows answer.providerId schedule).length
  overlappedAppointment :=
    (findOverlappingAllocatedAppointmentsOfWorkers rows [answer.providerId] schedule).head?.map
      (·.serviceRequestId)

/-- The operation with its question about the occupancy answered. -/
def consulted (directory : Directory) (rows : List AppointmentRow) (schedule : Period) :
    Operation → Operation
  | .accept answer _ => .accept answer (occupancyOf directory rows schedule answer)
  | .manuallyAssign answer _ => .manuallyAssign answer (occupancyOf directory rows schedule answer)
  | operation => operation

structure Calendar where
  lives : Table String World (·.request.id)
  appointments : List AppointmentRow

inductive CalendarAction where
  /-- A service request is created. -/
  | create (input : ServiceRequestInput) (now : Time)
  /-- An operation on a request, with the directory of that moment. -/
  | operate (serviceRequestId : String) (directory : Directory) (action : Timed)

namespace Calendar

def empty : Calendar := ⟨.empty, []⟩

variable (environment : Environment) (calendar : Calendar)

/-- An action on a request, with the occupancy the calendar tells. -/
def asked (world : World) (directory : Directory) (action : Timed) : Timed where
  elapsed := action.elapsed
  operation :=
    consulted directory calendar.appointments world.load.serviceSchedule action.operation

/-- The rows after an action, once its event has been handled. -/
def appointmentsAfter (world : World) (action : Timed) : List AppointmentRow :=
  match publishedEvent environment (world.wait action.elapsed) action.operation with
  | none => calendar.appointments
  | some event => event.apply calendar.appointments

def step : CalendarAction → Calendar
  | .create input now =>
    match ServiceRequest.create environment input now with
    | .error _ => calendar
    | .ok request =>
      if (calendar.lives.find request.id).isSome then calendar
      else { calendar with lives := calendar.lives.save (.opened request .empty) }
  | .operate serviceRequestId directory action =>
    match calendar.lives.find serviceRequestId with
    | none => calendar
    | some world =>
      { lives :=
          calendar.lives.save (world.step environment (calendar.asked world directory action))
        appointments :=
          calendar.appointmentsAfter environment world (calendar.asked world directory action) }

end Calendar

/-! ### What a step inserts -/

/-- The row of a job that is given to a worker by a transition. -/
def booking (world : World) : Transition → Option AppointmentRow
  | .assign dispatcher serviceSchedule =>
    if dispatcher.isIndependent then
      some
        { serviceRequestId := world.request.id
          provider :=
            ⟨some (.ofServiceProvider dispatcher), some (.ofServiceProvider dispatcher),
              some (Service.scheduleOf serviceSchedule)⟩
          status := .allocated }
    else none
  | .allocate worker serviceSchedule =>
    some
      { serviceRequestId := world.request.id
        provider :=
          ⟨world.loaded.provider.bind (·.dispatcher), some (.ofServiceProvider worker),
            some (Service.scheduleOf serviceSchedule)⟩
        status := .allocated }
  | _ => none

section

variable {environment : Environment} {world : World}

theorem assignedEvent_inserted {answer : ProviderAnswer} {dispatcher : ServiceProvider}
    {assigned : ServiceRequest} (found : answer.get = .ok dispatcher)
    (assigns : world.load.assignToDispatcher dispatcher = .ok assigned) :
    (assignedEvent world answer).bind (·.inserted) =
      booking world (.assign dispatcher world.request.serviceSchedule) := by
  have same : dispatcher.id = answer.providerId :=
    answer.matching dispatcher (ProviderAnswer.get_eq_ok found)
  obtain ⟨rfl, -⟩ := Transition.assign_eq _ _ _ assigns
  simp only [assignedEvent, found, assigns, booking]
  cases independent : dispatcher.isIndependent with
  | false =>
    rw [if_neg]
    · rfl
    · simp [Transition.apply, Transition.rebuild, Transition.provider, independent,
        Service.isAllocatedTo, Service.workerId, Service.new, Service.dispatchedTo,
        Provider.workerId]
  | true =>
    rw [if_pos]
    · simp only [Option.bind_some, DispatchingEvent.inserted, AppointmentRow.create,
        Transition.apply, Transition.rebuild, Transition.provider, independent, Service.new]
      rfl
    · simp [Transition.apply, Transition.rebuild, Transition.provider, independent,
        Service.isAllocatedTo, Service.workerId, Service.new, Provider.workerId,
        Agent.ofServiceProvider, same]

theorem allocatedEvent_inserted {dealer worker : ProviderAnswer}
    {dealerFound workerFound : ServiceProvider} {allocated : ServiceRequest}
    (dealt : dealer.get = .ok dealerFound) (found : worker.get = .ok workerFound)
    (notYet : ¬world.load.service.isAllocatedTo workerFound.id = true)
    (allocates : world.load.allocateToWorker workerFound dealerFound = .ok allocated) :
    (allocatedEvent world dealer worker).bind (·.inserted) =
      booking world (.allocate workerFound world.request.serviceSchedule) := by
  simp only [allocatedEvent, dealt, found, if_neg notYet, allocates]
  obtain ⟨rfl, -⟩ := Transition.allocateToWorker_eq _ _ _ _ allocates
  rfl

/-- The row an operation inserts is that of the transition it performs. -/
theorem inserted_eq (environment : Environment) (world : World) (operation : Operation) :
    (publishedEvent environment world operation).bind (·.inserted) =
      (world.performed environment operation).bind (booking world) := by
  rw [publishedEvent, World.performed]
  cases executed : world.execute environment operation with
  | error error => rfl
  | ok after =>
    cases operation with
    | accept answer occupancy =>
      obtain ⟨-, dispatcher, assigned, found, -, assigns, -⟩ :=
        World.assigns_of_eq_ok (Or.inl rfl) executed
      simp only [World.transition, ProviderAnswer.get_eq_ok found]
      exact assignedEvent_inserted found assigns
    | manuallyAssign answer occupancy =>
      obtain ⟨-, dispatcher, assigned, found, -, assigns, -⟩ :=
        World.assigns_of_eq_ok (Or.inr rfl) executed
      simp only [World.transition, ProviderAnswer.get_eq_ok found]
      exact assignedEvent_inserted found assigns
    | allocate dealer worker =>
      obtain ⟨dealerFound, dealt, rest⟩ := bind_eq_ok executed
      obtain ⟨workerFound, found, rest⟩ := bind_eq_ok rest
      simp only [World.transition, ProviderAnswer.get_eq_ok found, Option.bind_some]
      split at rest
      · rename_i already
        rw [if_pos (show world.loaded.isAllocatedTo workerFound.id = true from already)]
        simp only [allocatedEvent, dealt, found, if_pos already]
        rfl
      · rename_i notYet
        obtain ⟨allocated, allocates, -⟩ := bind_eq_ok rest
        rw [if_neg (show ¬world.loaded.isAllocatedTo workerFound.id = true from notYet)]
        exact allocatedEvent_inserted dealt found notYet allocates
    | handle input =>
      dsimp only
      split <;> rfl
    | cancelJob answer =>
      dsimp only
      split <;> rfl
    | cancel =>
      dsimp only
      split <;> rfl
    | revoke markAsFailed =>
      cases markAsFailed <;> dsimp only <;> split <;> rfl
    | reschedule start finish =>
      simp only [World.transition]
      split <;> split <;> rfl
    | adminChangeSpecification period =>
      simp only [World.transition]
      split <;> split <;> rfl
    | gatewayResponded purpose =>
      cases purpose with
      | none => rfl
      | some purpose =>
        cases purpose with
        | fee =>
          simp only [World.transition]
          split <;> rfl
        | ecRescheduleSurcharge =>
          simp only [World.transition]
          split <;> split <;> (try split) <;> rfl
    | _ => rfl

/-! ### What a step changes -/

/-- The service request an event carries. -/
def DispatchingEvent.serviceRequest : DispatchingEvent → ServiceRequest
  | .allocated serviceRequest => serviceRequest
  | .cancelled serviceRequest => serviceRequest
  | .revoked serviceRequest => serviceRequest
  | .rescheduled serviceRequest _ => serviceRequest
  | .fulfilled serviceRequest => serviceRequest

theorem assignedEvent_id {answer : ProviderAnswer} {event : DispatchingEvent}
    (published : assignedEvent world answer = some event) :
    event.serviceRequest.id = world.request.id := by
  unfold assignedEvent at published
  split at published
  · cases published
  split at published
  · cases published
  rename_i assigns
  split at published
  · cases published
    obtain ⟨rfl, -⟩ := Transition.assign_eq _ _ _ assigns
    rfl
  · cases published

theorem allocatedEvent_id {dealer worker : ProviderAnswer} {event : DispatchingEvent}
    (published : allocatedEvent world dealer worker = some event) :
    event.serviceRequest.id = world.request.id := by
  unfold allocatedEvent at published
  split at published
  · split at published
    · cases published
    split at published
    · cases published
    rename_i allocates
    cases published
    obtain ⟨rfl, -⟩ := Transition.allocateToWorker_eq _ _ _ _ allocates
    rfl
  · cases published

/-- An event is about the request of the operation. -/
theorem publishedEvent_id {operation : Operation} {event : DispatchingEvent}
    (published : publishedEvent environment world operation = some event) :
    event.serviceRequest.id = world.request.id := by
  rw [publishedEvent] at published
  cases executed : world.execute environment operation with
  | error error =>
    rw [executed] at published
    cases published
  | ok after =>
    have same : after.request.id = world.request.id := (World.execute_effect executed).id
    rw [executed] at published
    cases operation with
    | accept answer occupancy => exact assignedEvent_id published
    | manuallyAssign answer occupancy => exact assignedEvent_id published
    | allocate dealer worker => exact allocatedEvent_id published
    | gatewayResponded purpose =>
      cases purpose with
      | none => cases published
      | some purpose =>
        cases purpose with
        | fee => cases published
        | ecRescheduleSurcharge =>
          dsimp only at published
          split at published
          · cases published
          · split at published <;> cases published
            exact same
    | respond principalGroup payload override => cases published
    | expire => cases published
    | initiateAutoAssignment => cases published
    | reviseCustomerOrder customerOrder => cases published
    | _ =>
      dsimp only at published
      split at published <;> cases published
      exact same

/-- The update of the event that an operation publishes matches the row. -/
def selects (environment : Environment) (world : World) (operation : Operation)
    (row : AppointmentRow) : Bool :=
  (publishedEvent environment world operation).any fun event => event.update.criteria row

/-- What becomes of a row in the update of the event that an operation publishes. -/
def changed (environment : Environment) (world : World) (operation : Operation)
    (row : AppointmentRow) : AppointmentRow :=
  (publishedEvent environment world operation).elim row fun event => event.update.change row

/-- No handler gives the status of a booking. -/
theorem update_status_ne (event : DispatchingEvent) : event.update.status ≠ .allocated := by
  cases event <;> exact AppointmentStatusEnum.noConfusion

variable {operation : Operation} {row : AppointmentRow}

theorem changed_of_not_selects (passed : selects environment world operation row = false) :
    changed environment world operation row = row := by
  unfold changed
  unfold selects at passed
  cases published : publishedEvent environment world operation with
  | none => rfl
  | some event =>
    rw [published] at passed
    have unmatched : ¬event.update.criteria row = true := Bool.eq_false_iff.mp passed
    exact if_neg unmatched

theorem changed_of_selects (selected : selects environment world operation row = true) :
    ∃ event, publishedEvent environment world operation = some event ∧
      changed environment world operation row = { row with status := event.update.status } := by
  obtain ⟨event, published, matches'⟩ := (Option.any_eq_true _ _).mp selected
  refine ⟨event, published, ?_⟩
  rw [changed, published]
  exact if_pos matches'

/-- An update leaves a row with its request and its provider. -/
theorem changed_frame (environment : Environment) (world : World) (operation : Operation)
    (row : AppointmentRow) :
    (changed environment world operation row).serviceRequestId = row.serviceRequestId ∧
      (changed environment world operation row).provider = row.provider := by
  cases selected : selects environment world operation row with
  | false =>
    rw [changed_of_not_selects selected]
    exact ⟨rfl, rfl⟩
  | true =>
    obtain ⟨event, -, change⟩ := changed_of_selects selected
    rw [change]
    exact ⟨rfl, rfl⟩

/-- A row is allocated after an update if it was before and is passed over. -/
theorem changed_allocated_iff :
    (changed environment world operation row).status = .allocated ↔
      row.status = .allocated ∧ selects environment world operation row = false := by
  cases selected : selects environment world operation row with
  | false =>
    rw [changed_of_not_selects selected]
    exact (and_iff_left rfl).symm
  | true =>
    obtain ⟨event, -, change⟩ := changed_of_selects selected
    rw [change]
    refine iff_of_false (update_status_ne event) fun both => ?_
    cases both.2

/-- The rows after an action are those from before and the one it inserts, each as the update
leaves it. -/
theorem Calendar.appointmentsAfter_eq (environment : Environment) (calendar : Calendar)
    (world : World) (action : Timed) :
    calendar.appointmentsAfter environment world action =
      (calendar.appointments ++
        (((world.wait action.elapsed).performed environment action.operation).bind
          (booking (world.wait action.elapsed))).toList).map
        (changed environment (world.wait action.elapsed) action.operation) := by
  have inserted := inserted_eq environment (world.wait action.elapsed) action.operation
  rw [← inserted]
  unfold appointmentsAfter
  cases published : publishedEvent environment (world.wait action.elapsed) action.operation with
  | none =>
    have unchanged : changed environment (world.wait action.elapsed) action.operation = id := by
      funext row
      rw [changed, published]
      rfl
    rw [unchanged]
    simp
  | some event =>
    have change : changed environment (world.wait action.elapsed) action.operation =
        event.update.change := by
      funext row
      rw [changed, published]
      rfl
    rw [change]
    rfl

/-! ### Bookings -/

/-- A booking is an allocated row of the request. -/
theorem booking_frame {transition : Transition} (books : booking world transition = some row) :
    row.serviceRequestId = world.request.id ∧ row.status = .allocated := by
  cases transition with
  | assign dispatcher serviceSchedule =>
    simp only [booking] at books
    split at books <;> cases books
    exact ⟨rfl, rfl⟩
  | allocate worker serviceSchedule =>
    cases books
    exact ⟨rfl, rfl⟩
  | _ => cases books

/-- A booking is for the worker of its transition, at the time of the service. -/
theorem booking_worker {transition : Transition} (books : booking world transition = some row) :
    ∃ worker serviceSchedule,
      ((transition = .assign worker serviceSchedule ∧ worker.isIndependent = true) ∨
        transition = .allocate worker serviceSchedule) ∧
      row.provider.workerId = some worker.id ∧
      row.serviceSchedule = ⟨some serviceSchedule.start, some serviceSchedule.finish⟩ := by
  cases transition with
  | assign dispatcher serviceSchedule =>
    rw [booking] at books
    split at books
    · rename_i independent
      cases books
      exact ⟨dispatcher, serviceSchedule, Or.inl ⟨rfl, independent⟩, rfl, rfl⟩
    · cases books
  | allocate worker serviceSchedule =>
    cases books
    exact ⟨worker, serviceSchedule, Or.inr rfl, rfl, rfl⟩
  | _ => cases books

/-- With a booking, the rows of the request with another worker are updated. -/
theorem selects_of_booking {workerId : Uuid} {other : AppointmentRow}
    (books : (world.performed environment operation).bind (booking world) = some row)
    (staffed : row.provider.workerId = some workerId) :
    selects environment world operation other = true ↔
      other.serviceRequestId = world.request.id ∧
        ∃ otherId, other.provider.workerId = some otherId ∧ otherId ≠ workerId := by
  have inserts := (inserted_eq environment world operation).trans books
  obtain ⟨event, published, inserted⟩ := Option.bind_eq_some_iff.mp inserts
  have same := publishedEvent_id published
  cases event with
  | allocated serviceRequest =>
    have create : AppointmentRow.create serviceRequest = row := Option.some.inj inserted
    have worker : serviceRequest.service.workerId = some workerId := by
      rw [← staffed, ← create, AppointmentRow.create, Service.workerId]
      cases serviceRequest.service.provider <;> rfl
    have matching : selects environment world operation other =
        (serviceRequestAllocatedHandler serviceRequest).criteria other := by
      rw [selects, published]
      rfl
    have number : serviceRequest.id = world.request.id := same
    rw [matching, serviceRequestAllocatedHandler, worker, number]
    simp only [Bool.and_eq_true, decide_eq_true_eq, Option.any_some, Option.any_eq_true]
  | _ => cases inserted

/-- A row with the worker of a booking is passed over. -/
theorem changed_of_sameWorker {workerId : Uuid} {other : AppointmentRow}
    (books : (world.performed environment operation).bind (booking world) = some row)
    (staffed : row.provider.workerId = some workerId)
    (same : other.provider.workerId = some workerId) :
    changed environment world operation other = other := by
  refine changed_of_not_selects (Bool.eq_false_iff.mpr fun selected => ?_)
  obtain ⟨-, otherId, known, different⟩ := (selects_of_booking books staffed).mp selected
  exact different (Option.some.inj (known.symm.trans same))

end

/-! ### Requests to follow -/

/-- A request for a service of some minutes that need not be paid for in advance. -/
def exampleOrder (id : String) (start : Time) (minutes : Int) : ServiceRequestInput :=
  { exampleInput with
    id := id
    expectedArrivalPeriod := ⟨start, start + 7200000, 8⟩
    totalServiceMinutes := minutes
    serviceRequestOptions := { exampleOptions with paymentGatewayEnabled := false } }

/-- A row of the contractor. -/
def exampleBooked (id : String) (start finish : Time) (status : AppointmentStatusEnum) :
    AppointmentRow where
  serviceRequestId := id
  provider :=
    ⟨some (.ofServiceProvider exampleContractor), some (.ofServiceProvider exampleContractor),
      some (Service.scheduleOf ⟨start, finish, 8⟩)⟩
  status := status

end FieldService.Dispatching
