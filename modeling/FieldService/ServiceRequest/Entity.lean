/-
This file models the `ServiceRequest` entity: its appointment, the order a customer files to
reschedule it, and the methods that change it.

A method that throws can have changed the entity before it did, and one of its callers saves
the entity after such an error. The two methods that deal with the reschedule order
therefore return the entity and the error side by side.
-/

import FieldService.ServiceRequest.Service

namespace FieldService

/-! ### The appointment -/

structure Appointment where
  blockAfterInMinutes : Int
  blockBeforeInMinutes : Int
  expectedArrivalPeriod : Period
  serviceSchedule : Period
  totalServiceMinutes : Int
  deriving DecidableEq, Repr

/-- `calculateServiceSchedule`. -/
def calculateServiceSchedule (start : Time) (totalServiceMinutes timezoneOffset : Int) : Period :=
  ⟨start, addMinutes start totalServiceMinutes, timezoneOffset⟩

/-- `AppointmentFactory.create`. -/
def Appointment.create (environment : Environment) (expectedArrivalPeriod : Period)
    (totalServiceMinutes : Int) (now : Time) : Except AppError Appointment :=
  if expectedArrivalPeriod.start <
      addHours now environment.serviceRequestExpectedArrivalWindowHour then
    .error (.lessThanExpectedArrivalWindowHour environment.serviceRequestExpectedArrivalWindowHour)
  else
    .ok
      { blockAfterInMinutes := environment.blockAfterInMinutes
        blockBeforeInMinutes := environment.blockBeforeInMinutes
        expectedArrivalPeriod :=
          { expectedArrivalPeriod with timezoneOffset := environment.timezoneOffset }
        serviceSchedule :=
          calculateServiceSchedule expectedArrivalPeriod.start totalServiceMinutes
            environment.timezoneOffset
        totalServiceMinutes := totalServiceMinutes }

namespace Appointment

def isExpectedArrivalTimeEqualTo (appointment : Appointment) (dateTime : Time) : Bool :=
  dateTime = appointment.expectedArrivalPeriod.start

def isExpectedArrivalTimeLessThanDurationFromNow (appointment : Appointment) (hours : Rat)
    (now : Time) : Bool :=
  (diffHours appointment.expectedArrivalPeriod.start now : Rat) ≤ hours

def isExpectedArrivalTimeMoreThanDurationFromNow (appointment : Appointment) (hours : Rat)
    (now : Time) : Bool :=
  hours ≤ (diffHours appointment.expectedArrivalPeriod.start now : Rat)

end Appointment

/-! ### The reschedule order -/

/-- Its periods are only ever made by `Period.toOptPeriod`, so a period that is there has
both its ends. -/
structure CustomerRescheduleOrder where
  oldExpectedArrivalPeriod : Option Period
  newExpectedArrivalPeriod : Option Period
  consumerSurchargeAmount : Money
  impactedServiceProviderCompensationAmount : Money
  impactedServiceProviderId : Option Uuid
  customerRescheduleOrderPaymentGatewayResponse : Option PaymentGatewayResponse
  paymentStatus : Option PaymentGatewayResponseStatus
  surchargeRequired : Bool
  executedAt : Option Time
  createdAt : Option Time
  deriving DecidableEq, Repr

namespace CustomerRescheduleOrder

/-- The constructor. Its first parameter is called the old period and is stored as the new
one, and the other way round. -/
def new (oldExpectedArrivalPeriod newExpectedArrivalPeriod : Option Period)
    (consumerSurchargeAmount impactedServiceProviderCompensationAmount : Money)
    (impactedServiceProviderId : Option Uuid) (createdAt : Option Time) :
    CustomerRescheduleOrder where
  newExpectedArrivalPeriod := oldExpectedArrivalPeriod
  oldExpectedArrivalPeriod := newExpectedArrivalPeriod
  consumerSurchargeAmount := consumerSurchargeAmount
  surchargeRequired := 0 < consumerSurchargeAmount
  customerRescheduleOrderPaymentGatewayResponse := none
  paymentStatus := if 0 < consumerSurchargeAmount then some .awaitingPayment else none
  impactedServiceProviderCompensationAmount := impactedServiceProviderCompensationAmount
  impactedServiceProviderId := impactedServiceProviderId
  executedAt := none
  createdAt := createdAt

/-- `EMPTY`. -/
def empty : CustomerRescheduleOrder := new none none 0 0 none none

def createWithSurcharge (oldExpectedArrivalPeriod newExpectedArrivalPeriod : Period)
    (surchargeAmount compensationAmount : Money) (impactedServiceProviderId : Option Uuid)
    (createdAt : Time) : CustomerRescheduleOrder :=
  new (some oldExpectedArrivalPeriod) (some newExpectedArrivalPeriod) surchargeAmount
    compensationAmount impactedServiceProviderId (some createdAt)

def createWithFreeOfCharge (oldExpectedArrivalPeriod newExpectedArrivalPeriod : Period)
    (impactedServiceProviderId : Option Uuid) (createdAt : Time) : CustomerRescheduleOrder :=
  new (some oldExpectedArrivalPeriod) (some newExpectedArrivalPeriod) 0 0
    impactedServiceProviderId (some createdAt)

/-- What the order asks for was too close when it was filed, so no appointment can be made of
it. -/
def isTooClose (environment : Environment) (order : CustomerRescheduleOrder) : Bool :=
  match order.newExpectedArrivalPeriod, order.createdAt with
  | some period, some createdAt =>
    period.start < addHours createdAt environment.serviceRequestExpectedArrivalWindowHour
  | _, _ => false

def hasCustomerPaid (order : CustomerRescheduleOrder) : Bool :=
  order.surchargeRequired && order.paymentStatus = some .succeeded

def isEmpty (order : CustomerRescheduleOrder) : Bool :=
  order.oldExpectedArrivalPeriod.isNone || order.newExpectedArrivalPeriod.isNone ||
    order.createdAt.isNone

end CustomerRescheduleOrder

/-- The payment history handed to the execution of an order. A missing argument and `null`
pass different tests. -/
inductive HistoryArgument where
  | undefined
  | null
  | given (history : PaymentGatewayResponseHistory)
  deriving DecidableEq, Repr

/-- The most recent response of a history that was given. -/
def HistoryArgument.mostRecentResponse : HistoryArgument → Option PaymentGatewayResponse
  | .given history => history.mostRecentResponse
  | _ => none

/-- `CustomerRescheduleOrder.execute`. -/
def CustomerRescheduleOrder.execute (order : CustomerRescheduleOrder) (history : HistoryArgument)
    (now : Time) : Except AppError CustomerRescheduleOrder :=
  if !order.surchargeRequired then
    .ok { order with executedAt := some now }
  else
    match history.mostRecentResponse with
    | none => .error (.error "Fail to execute, please ensure payment is made")
    | some response =>
      .ok
        { order with
          customerRescheduleOrderPaymentGatewayResponse := some response
          paymentStatus := some response.responseStatus
          executedAt := if response.responseStatus = .succeeded then some now
            else order.executedAt }

/-! ### The service request -/

/-- The part of the customer's order the modelled methods read. -/
structure CustomerOrder where
  consumerTotal : Money
  serviceProviderTotal : Money
  haveCompletedAllTechnicalReports : Bool
  deriving DecidableEq, Repr

structure ServiceRequest where
  id : String
  principalGroup : Tenant
  createdAt : Time
  appointment : Appointment
  customerOrder : CustomerOrder
  customerRescheduleOrder : Option CustomerRescheduleOrder
  verificationCode : Option String
  service : Service
  paymentReceivedAt : Option Time
  transitionedAt : Option Time
  config : ServiceRequestOptions
  deriving DecidableEq, Repr

/-- What a new service request is made from. -/
structure ServiceRequestInput where
  id : String
  requestCategory : Tenant
  expectedArrivalPeriod : Period
  customerOrder : CustomerOrder
  totalServiceMinutes : Int
  verificationCode : String
  serviceRequestOptions : ServiceRequestOptions
  deriving DecidableEq, Repr

namespace ServiceRequest

/-- `ServiceRequestFactory.create`. -/
def create (environment : Environment) (input : ServiceRequestInput) (now : Time) :
    Except AppError ServiceRequest := do
  let appointment ← Appointment.create environment input.expectedArrivalPeriod
    input.totalServiceMinutes now
  return {
    id := input.id
    principalGroup := input.requestCategory
    createdAt := now
    appointment := appointment
    customerOrder := input.customerOrder
    customerRescheduleOrder := some .empty
    verificationCode := some input.verificationCode
    service :=
      { Service.derivedFrom [] .createEmptyProvider []
          input.serviceRequestOptions.paymentGatewayEnabled with
        eligibleForRefund := some false }
    paymentReceivedAt := none
    transitionedAt := none
    config := input.serviceRequestOptions }

def getServiceProviderDispatcherId (request : ServiceRequest) : Option Uuid :=
  request.service.dispatcherId

/-- `getCustomerRescheduleOrder`, with its automatic initialisation. -/
def getCustomerRescheduleOrder (request : ServiceRequest) : CustomerRescheduleOrder :=
  request.customerRescheduleOrder.getD .empty

def hasCustomerPaid (request : ServiceRequest) : PaymentPurposeCode → Bool
  | .fee => request.service.hasCustomerPaid
  | .ecRescheduleSurcharge => request.getCustomerRescheduleOrder.hasCustomerPaid

def hasBeenRescheduledOnce (request : ServiceRequest) : Bool :=
  match request.customerRescheduleOrder with
  | none => false
  | some order => order.executedAt.isSome

def hasSurpassedHourLimitBeforeJobIsAllowedToStart (request : ServiceRequest) (now : Time) :
    Bool :=
  request.appointment.isExpectedArrivalTimeLessThanDurationFromNow
    request.config.hourLimitBeforeJobIsAllowedToStart now

def hasSurpassedHourLimitBeforeActivatingEmergencyCandidateScanningZone
    (request : ServiceRequest) (now : Time) : Bool :=
  request.appointment.isExpectedArrivalTimeLessThanDurationFromNow
    request.config.hourLimitBeforeUrgent now

def hasAppointmentStartTimeChanged (request : ServiceRequest) (dateTime : Time) : Bool :=
  !request.appointment.isExpectedArrivalTimeEqualTo dateTime

def serviceSchedule (request : ServiceRequest) : Period :=
  request.appointment.serviceSchedule

def allowRescheduleWithoutSurcharge (request : ServiceRequest) (fromNow : Time) : Bool :=
  request.appointment.isExpectedArrivalTimeMoreThanDurationFromNow
    (orDefault request.config.hourLimitBeforeEcRescheduleSurchageIsRequired 12) fromNow

def allowReschedule (request : ServiceRequest) (fromNow : Time) : Bool :=
  if !request.hasCustomerPaid .fee || request.service.isWorkInProgress ||
      request.service.hasBeenClosed || request.service.hasBeenFulfilled then
    false
  else
    (request.config.ecRescheduleMultipleOccurrencesAllowed || !request.hasBeenRescheduledOnce) &&
      request.appointment.isExpectedArrivalTimeMoreThanDurationFromNow
        (orDefault request.config.hourLimitBeforeEcRescheduleOptionIsDisabled 3) fromNow

/-- `validateAllowEcCancelAndThrowError(true)`. -/
def validateAllowEcCancel (request : ServiceRequest) (fromNow : Time) : Except AppError Unit :=
  if !request.hasCustomerPaid .fee then .error .unableToCancelNotPaidServiceRequest
  else if request.hasBeenRescheduledOnce then .error .unableToCancelRescheduledServiceRequest
  else if request.service.hasBeenFulfilled then .error .unableToCancelCompletedJob
  else if request.service.hasBeenClosed then .error .unableToCancelTerminatedJob
  else if !request.appointment.isExpectedArrivalTimeMoreThanDurationFromNow
      (orDefault request.config.hourLimitBeforeEcCancellationOptionIsDisabled 24) fromNow then
    .error .unableToCancelServiceRequestDueToWindowPeriodIsPast
  else .ok ()

/-! ### Assignment and allocation -/

def allocateToWorker (request : ServiceRequest) (worker dealer : ServiceProvider) :
    Except AppError ServiceRequest :=
  if !request.service.isAssignedOrAllocatedTo dealer.id then
    .error (.error "Job is not assigned/allocated to you")
  else do
    let service ← request.service.allocateToWorker worker request.serviceSchedule
    return { request with service := service }

def assignToDispatcher (request : ServiceRequest) (dispatcher : ServiceProvider) :
    Except AppError ServiceRequest :=
  if request.service.hasBeenAssignedOrAllocated && !request.service.hasBeenCancelled then
    .error (.error "Job is taken")
  else if request.config.paymentGatewayEnabled && !request.hasCustomerPaid .fee then
    .error .unableToOpenUnpaidServiceRequest
  else if dispatcher.isWorker then
    .error (.error
      "Dispatcher with type \"Worker\" found. It has to be of type: \"Dealer\" or \"Independent\"")
  else if dispatcher.isIndependent then do
    let service ←
      (request.service.assignToDispatcher dispatcher).allocateToWorker dispatcher
        request.serviceSchedule
    return { request with service := service }
  else
    .ok { request with service := request.service.assignToDispatcher dispatcher }

/-! ### Rescheduling -/

/-- The private `reschedule`: a new appointment, and the provider is let go. -/
def reschedule (environment : Environment) (request : ServiceRequest)
    (newExpectedArrivalPeriod : Period) (now : Time) : Except AppError ServiceRequest := do
  let appointment ← Appointment.create environment newExpectedArrivalPeriod
    request.appointment.totalServiceMinutes now
  return { request with appointment := appointment, service := request.service.reschedule }

/-- A surcharge is due for an order filed now. -/
def surchargeIsDue (request : ServiceRequest) (now : Time) : Bool :=
  request.config.paymentGatewayEnabled && !request.allowRescheduleWithoutSurcharge now &&
    0 < request.config.ecRescheduleSurchargeAmount

/-- `createCustomerRescheduleOrder`: the entity afterwards, and what was thrown. -/
def createCustomerRescheduleOrder (environment : Environment) (request : ServiceRequest)
    (expectedArrivalPeriod : Period) (now : Time) : ServiceRequest × Option AppError :=
  if !request.allowReschedule now then
    (request, some .unableToRescheduleServiceRequest)
  else if !request.hasAppointmentStartTimeChanged expectedArrivalPeriod.start then
    (request, some (.error
      "Unnecessary rescheduling: New appointment start time is the same as current one"))
  else
    match Appointment.create environment expectedArrivalPeriod
        request.appointment.totalServiceMinutes now with
    | .error error => (request, some error)
    | .ok appointment =>
      -- The trial appointment wrote its time zone into the period it was made from.
      let newPeriod := appointment.expectedArrivalPeriod
      let oldPeriod := request.appointment.expectedArrivalPeriod
      if request.surchargeIsDue now then
        ({ request with
            customerRescheduleOrder := some
              (.createWithSurcharge newPeriod oldPeriod request.config.ecRescheduleSurchargeAmount
                request.config.ecRescheduleCompensationAmount
                request.getServiceProviderDispatcherId now) },
          some .unableToRescheduleServiceRequestDueToUnpaidSurcharge)
      else
        ({ request with
            customerRescheduleOrder := some
              (.createWithFreeOfCharge newPeriod oldPeriod
                request.getServiceProviderDispatcherId now) },
          none)

/-- The guard of `executeCustomerRescheduleOrder`. -/
def executionIsUnpaid (request : ServiceRequest) (history : HistoryArgument) : Bool :=
  request.getCustomerRescheduleOrder.surchargeRequired &&
    !request.getCustomerRescheduleOrder.hasCustomerPaid && history = .null

/-- The end of `executeCustomerRescheduleOrder`: the request is rescheduled to what its order
asks for. -/
def rescheduleAsOrdered (environment : Environment) (request : ServiceRequest)
    (order : CustomerRescheduleOrder) : ServiceRequest × Option AppError :=
  match order.newExpectedArrivalPeriod, order.createdAt with
  | some newExpectedArrivalPeriod, some createdAt =>
    match request.reschedule environment newExpectedArrivalPeriod createdAt with
    | .error error => (request, some error)
    | .ok rescheduled => (rescheduled, none)
  -- An order that is not empty has both.
  | _, _ => (request, none)

/-- `executeCustomerRescheduleOrder`: the entity afterwards, and what was thrown. The empty
order that takes the place of a missing one is not recorded: no caller saves it. -/
def executeCustomerRescheduleOrder (environment : Environment) (request : ServiceRequest)
    (history : HistoryArgument) (now : Time) : ServiceRequest × Option AppError :=
  if request.getCustomerRescheduleOrder.isEmpty then
    (request, some (.error "Please create a new customer reschedule order before execution"))
  else if request.executionIsUnpaid history then
    (request, some .unableToRescheduleServiceRequestDueToUnpaidSurcharge)
  else
    match request.getCustomerRescheduleOrder.execute history now with
    | .error error => (request, some error)
    | .ok order =>
      rescheduleAsOrdered environment { request with customerRescheduleOrder := some order } order

theorem reschedule_eq_ok {environment : Environment} {request rescheduled : ServiceRequest}
    {period : Period} {now : Time}
    (succeeds : request.reschedule environment period now = .ok rescheduled) :
    ∃ appointment,
      Appointment.create environment period request.appointment.totalServiceMinutes now =
        .ok appointment ∧
      rescheduled =
        { request with appointment := appointment, service := request.service.reschedule } := by
  obtain ⟨appointment, created, rest⟩ := bind_eq_ok succeeds
  cases rest
  exact ⟨appointment, created, rfl⟩

/-- Executing an order leaves it asking for the same. -/
theorem execute_keeps {order executed : CustomerRescheduleOrder} {history : HistoryArgument}
    {now : Time} (succeeds : order.execute history now = .ok executed) :
    executed.isEmpty = order.isEmpty ∧
      executed.newExpectedArrivalPeriod = order.newExpectedArrivalPeriod ∧
      executed.createdAt = order.createdAt ∧
      executed.surchargeRequired = order.surchargeRequired := by
  unfold CustomerRescheduleOrder.execute at succeeds
  split at succeeds
  · cases succeeds
    exact ⟨rfl, rfl, rfl, rfl⟩
  · split at succeeds
    · cases succeeds
    · cases succeeds
      exact ⟨rfl, rfl, rfl, rfl⟩

theorem isEmpty_eq_false {order : CustomerRescheduleOrder} (complete : order.isEmpty = false) :
    ∃ period createdAt,
      order.newExpectedArrivalPeriod = some period ∧ order.createdAt = some createdAt := by
  simp only [CustomerRescheduleOrder.isEmpty, Bool.or_eq_false_iff,
    Option.isNone_eq_false_iff, Option.isSome_iff_exists] at complete
  obtain ⟨⟨-, period, asked⟩, createdAt, created⟩ := complete
  exact ⟨period, createdAt, asked, created⟩

/-- What an order asks for in time can be made an appointment of, whenever that is done. -/
theorem create_of_inTime {environment : Environment} {order : CustomerRescheduleOrder}
    {period : Period} {createdAt : Time} (asked : order.newExpectedArrivalPeriod = some period)
    (created : order.createdAt = some createdAt) (inTime : order.isTooClose environment = false)
    (totalServiceMinutes : Int) :
    ∃ appointment,
      Appointment.create environment period totalServiceMinutes createdAt = .ok appointment := by
  have far : ¬period.start <
      addHours createdAt environment.serviceRequestExpectedArrivalWindowHour := by
    simpa [CustomerRescheduleOrder.isTooClose, asked, created] using inTime
  rw [Appointment.create, if_neg far]
  exact ⟨_, rfl⟩

/-- An order that is complete reschedules the request to what it asks for. -/
theorem rescheduleAsOrdered_returns {environment : Environment} {request after : ServiceRequest}
    {order : CustomerRescheduleOrder} (complete : order.isEmpty = false)
    (returns : request.rescheduleAsOrdered environment order = (after, none)) :
    ∃ period createdAt appointment, order.newExpectedArrivalPeriod = some period ∧
      order.createdAt = some createdAt ∧
      Appointment.create environment period request.appointment.totalServiceMinutes createdAt =
        .ok appointment ∧
      after =
        { request with appointment := appointment, service := request.service.reschedule } := by
  obtain ⟨period, createdAt, asked, created⟩ := isEmpty_eq_false complete
  simp only [rescheduleAsOrdered, asked, created] at returns
  split at returns
  · cases returns
  rename_i rescheduled reschedules
  cases returns
  obtain ⟨appointment, made, same⟩ := reschedule_eq_ok reschedules
  exact ⟨period, createdAt, appointment, asked, created, made, same⟩

/-- An execution that returns normally has executed the order and rescheduled the request. -/
theorem executeCustomerRescheduleOrder_returns {environment : Environment}
    {request after : ServiceRequest} {history : HistoryArgument} {now : Time}
    (returns : request.executeCustomerRescheduleOrder environment history now = (after, none)) :
    request.getCustomerRescheduleOrder.isEmpty = false ∧
      request.executionIsUnpaid history = false ∧
      request.getCustomerRescheduleOrder.isTooClose environment = false ∧
      ∃ order appointment, request.getCustomerRescheduleOrder.execute history now = .ok order ∧
        after =
          { request with
            customerRescheduleOrder := some order
            appointment := appointment
            service := request.service.reschedule } := by
  unfold executeCustomerRescheduleOrder at returns
  split at returns
  · cases returns
  rename_i complete
  split at returns
  · cases returns
  rename_i unpaid
  refine ⟨by simpa using complete, by simpa using unpaid, ?_⟩
  split at returns
  · cases returns
  rename_i order executes
  obtain ⟨sameEmpty, sameNew, sameCreated, -⟩ := execute_keeps executes
  obtain ⟨period, createdAt, appointment, asked, created, made, rfl⟩ :=
    rescheduleAsOrdered_returns (by simpa [sameEmpty] using complete) returns
  rw [sameNew] at asked
  rw [sameCreated] at created
  refine ⟨?_, order, appointment, executes, rfl⟩
  rw [Appointment.create] at made
  split at made
  · cases made
  · rename_i farEnough
    simpa [CustomerRescheduleOrder.isTooClose, asked, created] using farEnough

/-- Only the guard reports an unpaid surcharge. -/
theorem executeCustomerRescheduleOrder_unpaid {environment : Environment}
    {request after : ServiceRequest} {history : HistoryArgument} {now : Time}
    (throws : request.executeCustomerRescheduleOrder environment history now =
      (after, some .unableToRescheduleServiceRequestDueToUnpaidSurcharge)) :
    request.executionIsUnpaid history = true := by
  unfold executeCustomerRescheduleOrder at throws
  split at throws
  · cases throws
  split at throws
  · assumption
  split at throws
  · rename_i error executes
    unfold CustomerRescheduleOrder.execute at executes
    split at executes
    · cases executes
    · split at executes
      · cases executes
        cases throws
      · cases executes
  · unfold rescheduleAsOrdered at throws
    split at throws
    · split at throws
      · rename_i reschedules
        unfold reschedule Appointment.create at reschedules
        split at reschedules
        · cases reschedules
          cases throws
        · cases reschedules
      · cases throws
    · cases throws

/-- What filing an order can do. -/
theorem createCustomerRescheduleOrder_cases (environment : Environment) (request : ServiceRequest)
    (period : Period) (now : Time) :
    (∃ error, error ≠ .unableToRescheduleServiceRequestDueToUnpaidSurcharge ∧
      request.createCustomerRescheduleOrder environment period now = (request, some error)) ∨
    (request.allowReschedule now = true ∧ ∃ order : CustomerRescheduleOrder,
      (request.surchargeIsDue now = true ∧
        request.createCustomerRescheduleOrder environment period now =
          ({ request with customerRescheduleOrder := some order },
            some .unableToRescheduleServiceRequestDueToUnpaidSurcharge)) ∨
      (request.surchargeIsDue now = false ∧ order.surchargeRequired = false ∧
        request.createCustomerRescheduleOrder environment period now =
          ({ request with customerRescheduleOrder := some order }, none))) := by
  unfold createCustomerRescheduleOrder
  split
  · exact Or.inl ⟨_, by simp, rfl⟩
  rename_i allowed
  split
  · exact Or.inl ⟨_, by simp, rfl⟩
  split
  · rename_i error trial
    refine Or.inl ⟨error, ?_, rfl⟩
    unfold Appointment.create at trial
    split at trial
    · cases trial
      simp
    · cases trial
  refine Or.inr ⟨by simpa using allowed, ?_⟩
  by_cases due : request.surchargeIsDue now = true
  · rw [if_pos due]
    exact ⟨_, Or.inl ⟨due, rfl⟩⟩
  · rw [if_neg due]
    exact ⟨_, Or.inr ⟨by simpa using due, by
      simp [CustomerRescheduleOrder.createWithFreeOfCharge, CustomerRescheduleOrder.new], rfl⟩⟩

/-- `adminChangeSpecification`, for a request whose period was given. -/
def adminChangeSpecification (environment : Environment) (request : ServiceRequest)
    (expectedArrivalPeriod : Period) (now : Time) : Except AppError ServiceRequest :=
  if request.hasAppointmentStartTimeChanged expectedArrivalPeriod.start then
    request.reschedule environment expectedArrivalPeriod now
  else .ok request

/-! ### Progress -/

def deriveServiceProgress (request : ServiceRequest) (handlingHistory : HandlingHistory)
    (now : Time) : ServiceRequest :=
  let service := request.service.derivedFromHandlingHistory handlingHistory
  { request with
    service := service
    transitionedAt := if request.service.status ≠ service.status then some now
      else request.transitionedAt }

def deriveCustomerPaymentProgress (request : ServiceRequest)
    (history : PaymentGatewayResponseHistory) (now : Time) : ServiceRequest :=
  let service := request.service.derivedFromPaymentGatewayResponseHistory history
  { request with
    service := service
    paymentReceivedAt :=
      match service.lastCustomerPaymentGatewayResponse with
      | some response =>
        if response.responseStatus = .succeeded then some now else request.paymentReceivedAt
      | none => request.paymentReceivedAt
    transitionedAt := some now }

/-- Restart the service request ticket with payment history preserved. -/
def restart (request : ServiceRequest) : ServiceRequest :=
  { request with service := request.service.restart }

/-! ### Cancellation and expiry -/

def cancel (request : ServiceRequest) (serviceProvider : ServiceProvider) (now : Time) :
    Except AppError ServiceRequest :=
  if request.service.hasBeenFulfilled then .error .unableToCancelCompletedJob
  else do
    let service ← request.service.cancel serviceProvider
    return { request with service := service, transitionedAt := some now }

def cancelByCustomer (request : ServiceRequest) (now : Time) : Except AppError ServiceRequest := do
  request.validateAllowEcCancel now
  return { request with service := request.service.cancelByCustomer, transitionedAt := some now }

def revoke (request : ServiceRequest) (markAsFailed : Bool) (now : Time) : ServiceRequest :=
  let service := request.service.revoke markAsFailed
  { request with
    service := if markAsFailed then { service with eligibleForRefund := some true } else service
    transitionedAt := some now }

def expiredBySystem (request : ServiceRequest) (now : Time) : ServiceRequest :=
  { request with service := request.service.expiredBySystem, transitionedAt := some now }

end ServiceRequest

end FieldService
