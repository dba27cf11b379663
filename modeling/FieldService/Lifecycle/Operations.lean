/-
This file models the life of one service request: what is stored about it and the operations
that read it, change it and store it again.

The state is a `World`: the stored request, the table of payment gateway responses, the
handling events of the request, and the clock. An operation either throws, and then leaves
the world alone, or ends in a new world. Answers an operation gets from elsewhere (the
provider a query finds, the workers or appointments that occupy one) are part of the
operation, so a statement about every operation covers every answer.

Storing goes through the object mapper. An undefined column is left as it was, and what
becomes of a `null` embedded object is a parameter of the environment. Loading reads the
last payment response from the table, where it may have been written over since.
-/

import FieldService.Library.Execution
import FieldService.ServiceRequest.Entity

namespace FieldService

/-- What is stored about one service request, and the time. -/
structure World where
  request : ServiceRequest
  repository : PaymentGatewayResponseRepository
  handlingEvents : List HandlingEvent
  clock : Time
  deriving DecidableEq, Repr

/-! ### Loading and storing -/

/-- The service as it is loaded: its last response is read from the table. -/
def Service.load (repository : PaymentGatewayResponseRepository) (stored : Service) : Service :=
  { stored with
    lastCustomerPaymentGatewayResponse :=
      stored.lastCustomerPaymentGatewayResponse.bind fun last => repository.findOne last.id }

/-- The stored request, as a query loads it. -/
def World.load (world : World) : ServiceRequest :=
  { world.request with service := world.request.service.load world.repository }

/-- The provider columns after saving a provider over them. -/
def Provider.persist (nullEmbedded : NullEmbedded) (old new : Option Provider) :
    Option Provider :=
  match nullEmbedded, old, new with
  | .written, _, new => new
  | .skipped, old, none => old
  | .skipped, none, some new => some new
  | .skipped, some old, some new =>
    some ⟨new.dispatcher <|> old.dispatcher, new.worker <|> old.worker,
      new.schedule <|> old.schedule⟩

/-- The service columns after saving a service over them. -/
def Service.persist (environment : Environment) (old new : Service) : Service :=
  { new with
    provider := Provider.persist environment.nullEmbedded old.provider new.provider
    remarks := new.remarks <|> old.remarks
    eligibleForRefund := new.eligibleForRefund <|> old.eligibleForRefund }

/-- `repository.save`. -/
def World.save (environment : Environment) (world : World) (request : ServiceRequest) : World :=
  { world with
    request :=
      { request with service := world.request.service.persist environment request.service } }

/-! ### Operations -/

/-- The answer to a query for the service provider with an identifier. -/
structure ProviderAnswer where
  providerId : Uuid
  provider : Option ServiceProvider
  matching : ∀ found ∈ provider, found.id = providerId

/-- The provider that was found; `EntityNotFoundError` otherwise. -/
def ProviderAnswer.get (answer : ProviderAnswer) : Except AppError ServiceProvider :=
  match answer.provider with
  | none => .error (.entityNotFound "ServiceProvider" answer.providerId.value)
  | some provider => .ok provider

/-- What occupies a provider over the time of the job: the number of a dealer's workers that
are free, and the request of another provider's first overlapping appointment. -/
structure Occupancy where
  availableWorkers : Nat
  overlappedAppointment : Option String
  deriving DecidableEq, Repr

/-- The two errors a command throws for an occupied provider. -/
structure OccupancyErrors where
  fullyOccupied : Time → Time → AppError
  overlapping : String → AppError

def Occupancy.check (occupancy : Occupancy) (errors : OccupancyErrors)
    (serviceProvider : ServiceProvider) (serviceSchedule : Period) : Except AppError Unit :=
  if serviceProvider.isDealer then
    if occupancy.availableWorkers < 1 then
      .error (errors.fullyOccupied serviceSchedule.start serviceSchedule.finish)
    else .ok ()
  else
    match occupancy.overlappedAppointment with
    | some serviceRequestId => .error (errors.overlapping serviceRequestId)
    | none => .ok ()

/-- `HandlingEventInput`, without the fields the handler sets itself. -/
structure HandlingEventInput where
  latitude : Rat
  longitude : Rat
  providerWorkerId : Uuid
  verificationCode : String
  deriving DecidableEq, Repr

inductive Operation where
  /-- `AcceptNewDispatchedJobCommand`. -/
  | accept (answer : ProviderAnswer) (occupancy : Occupancy)
  /-- `ManuallyAssignJobToProviderCommand`. -/
  | manuallyAssign (answer : ProviderAnswer) (occupancy : Occupancy)
  /-- `AllocateJobToWorkerCommand`. -/
  | allocate (dealer worker : ProviderAnswer)
  /-- `HandleServicingJobCommand`. -/
  | handle (input : HandlingEventInput)
  /-- `CancelJobCommand`, by a provider. -/
  | cancelJob (answer : ProviderAnswer)
  /-- `ServiceRequestService.cancel`, by the customer. -/
  | cancel
  /-- `RevokeJobCommand`. -/
  | revoke (markAsFailed : Bool)
  /-- `ServiceRequestService.reschedule`: a customer's order is created and executed. -/
  | reschedule (start finish : Time)
  /-- `ServiceRequestService.adminChangeSpecification`. -/
  | adminChangeSpecification (expectedArrivalPeriod : Period)
  /-- A payload posted to the response endpoint or, with `override`, to the webhook, for a
  request of the tenant. -/
  | respond (principalGroup : Tenant) (payload : Payload) (override : Bool)
  /-- The handling of a `PaymentGatewayRespondedEvent` for this request. -/
  | gatewayResponded (paymentPurposeCode : Option PaymentPurposeCode)
  /-- `ServiceRequestService.expire`. -/
  | expire
  /-- `InitiateAutoAssignmentCommand`. -/
  | initiateAutoAssignment
  /-- The customer's order is revised, by technical notes or a patch of its prices. -/
  | reviseCustomerOrder (customerOrder : CustomerOrder)

namespace World

variable (environment : Environment) (world : World)

def accept (answer : ProviderAnswer) (occupancy : Occupancy) : Except AppError World := do
  let serviceRequest := world.load
  let serviceProvider ← answer.get
  if serviceProvider.generalStatus ≠ .active then throw .unauthorized
  occupancy.check
    { fullyOccupied := .failToAcceptJobDueToFullyOccupiedWorkers
      overlapping := .failToAcceptJobDueToOverlappingAppointment }
    serviceProvider serviceRequest.serviceSchedule
  let assigned ← serviceRequest.assignToDispatcher serviceProvider
  return world.save environment assigned

def manuallyAssign (answer : ProviderAnswer) (occupancy : Occupancy) :
    Except AppError World := do
  let serviceRequest := world.load
  let serviceProvider ← answer.get
  occupancy.check
    { fullyOccupied := .failToManuallyAssignDealerDueToFullyOccupiedWorkers
      overlapping := .failToManuallyAssignIndependentContractorDueToOverlappingAppointment }
    serviceProvider serviceRequest.serviceSchedule
  let assigned ← serviceRequest.assignToDispatcher serviceProvider
  return world.save environment assigned

def allocate (dealer worker : ProviderAnswer) : Except AppError World := do
  let serviceRequest := world.load
  let dealer ← dealer.get
  let worker ← worker.get
  if serviceRequest.service.isAllocatedTo worker.id then
    return world
  else
    let allocated ← serviceRequest.allocateToWorker worker dealer
    return world.save environment allocated

/-- The two checks before a job is completed. -/
def checkCompletion (serviceRequest : ServiceRequest) (input : HandlingEventInput) :
    Except AppError Unit :=
  if serviceRequest.verificationCode ≠ some input.verificationCode ∧
      (!environment.isDevMode ∨ input.verificationCode ≠ "99999") then
    .error .incorrectVerificationCode
  else if !serviceRequest.customerOrder.haveCompletedAllTechnicalReports then
    .error .technicalReportNotCompleted
  else .ok ()

/-- `HandlingEventFactory.create`. Its check of the worker is switched off. -/
def handlingEvent (input : HandlingEventInput) (type : HandlingEventTypeEnum) : HandlingEvent where
  createdAt := world.clock
  latitude := input.latitude
  longitude := input.longitude
  providerWorkerId := input.providerWorkerId
  type := type

def handle (input : HandlingEventInput) : Except AppError World := do
  let serviceRequest := world.load
  if !serviceRequest.hasSurpassedHourLimitBeforeJobIsAllowedToStart world.clock then
    throw (.jobStartTooEarly serviceRequest.config.hourLimitBeforeJobIsAllowedToStart)
  let type ← serviceRequest.service.nextHandlingEventType
  if type = .fullfil then
    checkCompletion environment serviceRequest input
  let recorded :=
    { world with handlingEvents := world.handlingEvents ++ [world.handlingEvent input type] }
  return recorded.save environment
    (serviceRequest.deriveServiceProgress recorded.handlingEvents world.clock)

def cancelJob (answer : ProviderAnswer) : Except AppError World := do
  let serviceRequest := world.load
  let serviceProvider ← answer.get
  let cancelled ← serviceRequest.cancel serviceProvider world.clock
  return world.save environment cancelled

/-- The refund is decided after the cancellation: the method that tells whether the customer
has paid is named and not called there, so only the time counts. -/
def cancel : Except AppError World := do
  let cancelled ← world.load.cancelByCustomer world.clock
  let eligibleForRefund :=
    cancelled.appointment.isExpectedArrivalTimeMoreThanDurationFromNow
      (orDefault cancelled.config.hourLimitBeforeEcRescheduleOptionIsDisabled 24) world.clock
  return world.save environment
    { cancelled with
      service := { cancelled.service with eligibleForRefund := some eligibleForRefund } }

def revoke (markAsFailed : Bool) : Except AppError World :=
  .ok (world.save environment (world.load.revoke markAsFailed world.clock))

/-- The order is created and executed at once. When a surcharge is due the execution is left
to the payment, and the request is saved with its order all the same. -/
def reschedule (start finish : Time) : Except AppError World :=
  match world.load.createCustomerRescheduleOrder environment ⟨start, finish, 8⟩ world.clock with
  | (ordered, some .unableToRescheduleServiceRequestDueToUnpaidSurcharge) =>
    .ok (world.save environment ordered)
  | (_, some error) => .error error
  | (ordered, none) =>
    match ordered.executeCustomerRescheduleOrder environment .undefined world.clock with
    | (executed, some .unableToRescheduleServiceRequestDueToUnpaidSurcharge) =>
      .ok (world.save environment executed)
    | (_, some error) => .error error
    | (executed, none) => .ok (world.save environment executed)

def adminChangeSpecification (expectedArrivalPeriod : Period) : Except AppError World := do
  let changed ← world.load.adminChangeSpecification environment expectedArrivalPeriod world.clock
  return world.save environment changed

def respond (principalGroup : Tenant) (payload : Payload) (override : Bool) :
    Except AppError World :=
  .ok { world with
    repository :=
      (iPay88Response world.repository world.clock principalGroup payload.splitRefNo override).1 }

/-- `handleServiceRequestFeePaymentGatewayResponded`. -/
def handleServiceRequestFeePaymentGatewayResponded (history : PaymentGatewayResponseHistory) :
    Except AppError World :=
  if world.load.hasCustomerPaid .fee then .ok world
  else .ok (world.save environment (world.load.deriveCustomerPaymentProgress history world.clock))

/-- `handleEcRescheduleSurchargePayementGatewayResponded`. -/
def handleEcRescheduleSurchargePayementGatewayResponded
    (history : PaymentGatewayResponseHistory) : Except AppError World :=
  if world.load.hasCustomerPaid .ecRescheduleSurcharge then .ok world
  else
    match world.load.executeCustomerRescheduleOrder environment (.given history) world.clock with
    | (_, some error) => .error error
    | (executed, none) => .ok (world.save environment executed)

def gatewayResponded (paymentPurposeCode : Option PaymentPurposeCode) : Except AppError World :=
  match paymentPurposeCode with
  | some .fee =>
    world.handleServiceRequestFeePaymentGatewayResponded environment
      (world.repository.lookup world.request.id .fee)
  | some .ecRescheduleSurcharge =>
    world.handleEcRescheduleSurchargePayementGatewayResponded environment
      (world.repository.lookup world.request.id .ecRescheduleSurcharge)
  | none => .ok world

def expire : Except AppError World :=
  .ok (world.save environment (world.load.expiredBySystem world.clock))

def initiateAutoAssignment : Except AppError World :=
  .ok (world.save environment world.load.restart)

def reviseCustomerOrder (customerOrder : CustomerOrder) : Except AppError World :=
  .ok (world.save environment { world.load with customerOrder := customerOrder })

/-- What an operation does when it is executed at the world's clock. -/
def execute : Operation → Except AppError World
  | .accept answer occupancy => world.accept environment answer occupancy
  | .manuallyAssign answer occupancy => world.manuallyAssign environment answer occupancy
  | .allocate dealer worker => world.allocate environment dealer worker
  | .handle input => world.handle environment input
  | .cancelJob answer => world.cancelJob environment answer
  | .cancel => world.cancel environment
  | .revoke markAsFailed => world.revoke environment markAsFailed
  | .reschedule start finish => world.reschedule environment start finish
  | .adminChangeSpecification expectedArrivalPeriod =>
    world.adminChangeSpecification environment expectedArrivalPeriod
  | .respond principalGroup payload override => world.respond principalGroup payload override
  | .gatewayResponded paymentPurposeCode => world.gatewayResponded environment paymentPurposeCode
  | .expire => world.expire environment
  | .initiateAutoAssignment => world.initiateAutoAssignment environment
  | .reviseCustomerOrder customerOrder => world.reviseCustomerOrder environment customerOrder

end World

/-! ### Steps -/

/-- An operation and the time that passes before it. -/
structure Timed where
  elapsed : Nat
  operation : Operation

/-- The world when the operation is executed. -/
def World.wait (world : World) (elapsed : Nat) : World :=
  { world with clock := world.clock + elapsed }

/-- One step: time passes and an operation is executed. One that throws changes nothing. -/
def World.step (environment : Environment) (world : World) (action : Timed) : World :=
  match (world.wait action.elapsed).execute environment action.operation with
  | .ok after => after
  | .error _ => world.wait action.elapsed

/-- The world after a service request has been created: nothing has been handled yet. -/
def World.opened (request : ServiceRequest) (repository : PaymentGatewayResponseRepository) :
    World where
  request := request
  repository := repository
  handlingEvents := []
  clock := request.createdAt

/-! ### A request to follow

One deployment and one request, a hundred hours ahead, on which the results about runs are
tried out. -/

def exampleEnvironment : Environment where
  serviceRequestExpectedArrivalWindowHour := 2
  blockBeforeInMinutes := 30
  blockAfterInMinutes := 30
  timezoneOffset := 8
  isDevMode := false
  nullEmbedded := .skipped

def exampleOptions : ServiceRequestOptions where
  hourLimitBeforeUrgent := 6
  hourLimitBeforeEcRescheduleOptionIsDisabled := 3
  hourLimitBeforeEcRescheduleSurchageIsRequired := 12
  hourLimitBeforeEcCancellationOptionIsDisabled := 24
  hourLimitBeforeJobIsAllowedToStart := 120
  emergencyCandidateScanningZoneRadiusInKm := 5
  paymentGatewayEnabled := true
  reminderEnabled := true
  ecRescheduleSurchargeAmount := 50
  ecRescheduleCompensationAmount := 30
  ecRescheduleMultipleOccurrencesAllowed := false

def exampleInput : ServiceRequestInput where
  id := "240101-a1b2c3d"
  requestCategory := .daikin
  expectedArrivalPeriod := ⟨360000000, 367200000, 8⟩
  customerOrder := ⟨150, 100, true⟩
  totalServiceMinutes := 60
  verificationCode := "12345"
  serviceRequestOptions := exampleOptions

def exampleRequest : ServiceRequest where
  id := "240101-a1b2c3d"
  principalGroup := .daikin
  createdAt := 0
  appointment :=
    { blockAfterInMinutes := 30
      blockBeforeInMinutes := 30
      expectedArrivalPeriod := ⟨360000000, 367200000, 8⟩
      serviceSchedule := ⟨360000000, 363600000, 8⟩
      totalServiceMinutes := 60 }
  customerOrder := ⟨150, 100, true⟩
  customerRescheduleOrder := some .empty
  verificationCode := some "12345"
  service :=
    { Service.derivedFrom [] .createEmptyProvider [] true with eligibleForRefund := some false }
  paymentReceivedAt := none
  transitionedAt := none
  config := exampleOptions

theorem exampleRequest_created :
    ServiceRequest.create exampleEnvironment exampleInput 0 = .ok exampleRequest := by
  decide +kernel

/-- A payload about the fee of the request, with the given status. -/
def examplePayload (status : String) : Payload where
  MerchantCode := .text "M01"
  PaymentId := .text "2"
  RefNo := .text "240101-a1b2c3d"
  Amount := .text "150.00"
  Currency := .text "MYR"
  ErrDesc := .undefined
  Status := .text status
  TransId := .text "T1"
  Xfield1 := .text "FEE"
  Signature := .undefined

def exampleContractor : ServiceProvider where
  id := ⟨"5b2f", by decide⟩
  name := some "Contractor"
  phone := none
  profilePicture := none
  type := .independent
  generalStatus := .active

def exampleAnswer : ProviderAnswer where
  providerId := exampleContractor.id
  provider := some exampleContractor
  matching := by simp

def exampleHandling : HandlingEventInput where
  latitude := 3
  longitude := 101
  providerWorkerId := exampleContractor.id
  verificationCode := "12345"

/-- The fee is paid. -/
def examplePaid : List Timed :=
  [⟨1000, .respond .daikin (examplePayload "1") false⟩, ⟨1000, .gatewayResponded (some .fee)⟩]

/-- The fee is paid and an independent contractor accepts the job. -/
def exampleAccepted : List Timed :=
  examplePaid ++ [⟨1000, .accept exampleAnswer ⟨0, none⟩⟩]

end FieldService
