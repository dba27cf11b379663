/-
This file settles when the checkout charges the surcharge that a reschedule order asks for.

A service request keeps a copy of the options it has been created under, and the surcharge of an
order is taken from the copy, and stored. The checkout prints the amount that is configured at the
time, and never reads the order. So the two agree exactly as long as what is configured is printed
as the amount at the creation of the request is stored, and for a gateway that is being tested only
if that is 1.
-/

import FieldService.Columns
import FieldService.Lifecycle.Surcharge
import FieldService.Lifecycle.Steps
import FieldService.Payout.Amounts

namespace FieldService

open Execution

/-! ### The checkout -/

/-- The configuration of the application. -/
structure AppConfig where
  environment : Environment
  serviceRequestOptions : ServiceRequestOptions
  useRm1ToTestPaymentGateway : Bool

def PaymentPurposeCode.text : PaymentPurposeCode → String
  | .fee => "FEE"
  | .ecRescheduleSurcharge => "EC_SURCHARGE"

/-- What is sent to the gateway, without the customer's contact. -/
structure CreatePaymentRequestParam where
  referenceId : String
  amount : String
  description : String
  paymentPurposeCode : PaymentPurposeCode
  deriving DecidableEq, Repr

namespace GetIPay88PaymentCheckoutInfoHandler

def payment (appConfig : AppConfig) (serviceRequest : ServiceRequest) :
    PaymentPurposeCode → Money × String
  | .fee => (serviceRequest.customerOrder.consumerTotal, "Air-conditional service")
  | .ecRescheduleSurcharge =>
    (appConfig.serviceRequestOptions.ecRescheduleSurchargeAmount,
      "End Consumer Reschedule Surcharge")

/-- `GetIPay88PaymentCheckoutInfoHandler.execute`, for a service request that is there. -/
def execute (appConfig : AppConfig) (serviceRequest : ServiceRequest)
    (paymentPurposeCode : PaymentPurposeCode) : CreatePaymentRequestParam where
  referenceId := serviceRequest.id ++
    if paymentPurposeCode ≠ .fee then
      String.singleton paymentRefNoDelimiter ++ paymentPurposeCode.text
    else ""
  amount :=
    if appConfig.useRm1ToTestPaymentGateway then "1.00"
    else toFixed (payment appConfig serviceRequest paymentPurposeCode).1
  description := (payment appConfig serviceRequest paymentPurposeCode).2
  paymentPurposeCode := paymentPurposeCode

end GetIPay88PaymentCheckoutInfoHandler

/-! ### Configurations that change -/

/-- The application as it is configured, with one service request. -/
structure ConfiguredWorld where
  appConfig : AppConfig
  world : World

inductive ConfiguredAction where
  | operate (action : Timed)
  | configure (appConfig : AppConfig)

namespace ConfiguredWorld

/-- An operation runs under the configuration of the time, which can be changed in between. -/
def step (state : ConfiguredWorld) : ConfiguredAction → ConfiguredWorld
  | .operate action =>
    { state with world := state.world.step state.appConfig.environment action }
  | .configure appConfig => { state with appConfig := appConfig }

/-- A service request is created under a configuration. -/
def opened (appConfig : AppConfig) (request : ServiceRequest)
    (repository : PaymentGatewayResponseRepository) : ConfiguredWorld where
  appConfig := appConfig
  world := .opened request repository

/-- The order that waits for its surcharge. -/
def pendingOrder (state : ConfiguredWorld) : Option CustomerRescheduleOrder :=
  state.world.load.customerRescheduleOrder.filter fun order =>
    order.surchargeRequired && !order.hasCustomerPaid

/-- The checkout for the surcharge charges what is stored of the surcharge of a pending order. -/
def ChargesSurchargeOwed (state : ConfiguredWorld) : Prop :=
  ∀ order, state.pendingOrder = some order →
    readAmount (utf16 (GetIPay88PaymentCheckoutInfoHandler.execute state.appConfig state.world.load
      .ecRescheduleSurcharge).amount) = some (toColumn order.consumerSurchargeAmount)

instance (state : ConfiguredWorld) : Decidable state.ChargesSurchargeOwed :=
  match pending : state.pendingOrder with
  | none => isTrue fun _ found => by simp [pending] at found
  | some order => decidable_of_iff (readAmount (utf16 (GetIPay88PaymentCheckoutInfoHandler.execute
      state.appConfig state.world.load .ecRescheduleSurcharge).amount) =
        some (toColumn order.consumerSurchargeAmount)) (by simp [ChargesSurchargeOwed, pending])

/-- While an order is pending, what the checkout is configured to charge is what is stored of the
surcharge at the creation of the request. -/
def ConfiguredFor (surchargeAmount : Money) (state : ConfiguredWorld) : Prop :=
  state.pendingOrder.isSome = true →
    if state.appConfig.useRm1ToTestPaymentGateway then toColumn surchargeAmount = 1
    else (printedCents state.appConfig.serviceRequestOptions.ecRescheduleSurchargeAmount : Rat) /
      100 = toColumn surchargeAmount

instance (surchargeAmount : Money) : DecidablePred (ConfiguredFor surchargeAmount) :=
  fun state => inferInstanceAs (Decidable (state.pendingOrder.isSome = true →
    if state.appConfig.useRm1ToTestPaymentGateway then toColumn surchargeAmount = 1
    else (printedCents state.appConfig.serviceRequestOptions.ecRescheduleSurchargeAmount : Rat) /
      100 = toColumn surchargeAmount))

end ConfiguredWorld

/-! ### The surcharge of a request -/

/-- The request asks for an amount, and so does its order if there is a surcharge. -/
structure ServiceRequest.AsksFor (surchargeAmount : Money) (request : ServiceRequest) : Prop where
  config : request.config.ecRescheduleSurchargeAmount = surchargeAmount
  order : ∀ order, request.customerRescheduleOrder = some order → order.surchargeRequired = true →
    order.consumerSurchargeAmount = surchargeAmount

section

variable {environment : Environment} {request after : ServiceRequest} {surchargeAmount : Money}

theorem CustomerRescheduleOrder.execute_amount {order executed : CustomerRescheduleOrder}
    {history : HistoryArgument} {now : Time} (succeeds : order.execute history now = .ok executed) :
    executed.consumerSurchargeAmount = order.consumerSurchargeAmount ∧
      executed.surchargeRequired = order.surchargeRequired := by
  unfold CustomerRescheduleOrder.execute at succeeds
  split at succeeds
  · cases succeeds
    exact ⟨rfl, rfl⟩
  · split at succeeds
    · cases succeeds
    · cases succeeds
      exact ⟨rfl, rfl⟩

/-- An order is filed with the surcharge of the request. -/
theorem ServiceRequest.AsksFor.createCustomerRescheduleOrder
    (asks : request.AsksFor surchargeAmount) (period : Period) (now : Time) :
    (request.createCustomerRescheduleOrder environment period now).1.AsksFor surchargeAmount := by
  unfold ServiceRequest.createCustomerRescheduleOrder
  split
  · exact asks
  split
  · exact asks
  split
  · exact asks
  · dsimp only
    split
    · refine ⟨asks.config, fun order filed _ => ?_⟩
      cases filed
      exact asks.config
    · refine ⟨asks.config, fun order filed required => ?_⟩
      cases filed
      simp [CustomerRescheduleOrder.createWithFreeOfCharge, CustomerRescheduleOrder.new] at required

/-- Executing an order does not change what it asks for. -/
theorem ServiceRequest.AsksFor.executeCustomerRescheduleOrder
    (asks : request.AsksFor surchargeAmount) {history : HistoryArgument} {now : Time}
    (returns : request.executeCustomerRescheduleOrder environment history now = (after, none)) :
    after.AsksFor surchargeAmount := by
  obtain ⟨-, -, -, order, appointment, executes, rfl⟩ :=
    ServiceRequest.executeCustomerRescheduleOrder_returns returns
  refine ⟨asks.config, fun executed filed required => ?_⟩
  cases filed
  obtain ⟨amount, surcharged⟩ := CustomerRescheduleOrder.execute_amount executes
  rw [surcharged] at required
  rw [amount]
  rw [ServiceRequest.getCustomerRescheduleOrder] at required ⊢
  cases filed : request.customerRescheduleOrder with
  | none =>
    rw [filed] at required
    cases required
  | some order =>
    rw [filed, Option.getD_some] at required
    exact asks.order order filed required

end

namespace World

variable {environment : Environment} {world after : World} {surchargeAmount : Money}

theorem load_asksFor (asks : world.request.AsksFor surchargeAmount) :
    world.load.AsksFor surchargeAmount := ⟨asks.config, asks.order⟩

theorem save_asksFor {request : ServiceRequest} (asks : request.AsksFor surchargeAmount)
    (environment : Environment) (world : World) :
    (world.save environment request).request.AsksFor surchargeAmount := ⟨asks.config, asks.order⟩

/-- A reschedule leaves the request asking for the same, whether it waits for the surcharge or is
executed at once. -/
theorem reschedule_asksFor (asks : world.request.AsksFor surchargeAmount) {start finish : Time}
    (executed : world.reschedule environment start finish = .ok after) :
    after.request.AsksFor surchargeAmount := by
  have files := @ServiceRequest.AsksFor.createCustomerRescheduleOrder environment _ _
    (load_asksFor asks) ⟨start, finish, 8⟩ world.clock
  unfold World.reschedule at executed
  split at executed
  · rename_i ordered ordering
    rw [ordering] at files
    cases executed
    exact save_asksFor files environment world
  · cases executed
  · rename_i ordered ordering
    rw [ordering] at files
    split at executed
    · rename_i done doing
      have unpaid := ServiceRequest.executeCustomerRescheduleOrder_unpaid doing
      simp [ServiceRequest.executionIsUnpaid] at unpaid
    · cases executed
    · rename_i done doing
      cases executed
      exact save_asksFor (files.executeCustomerRescheduleOrder doing) environment world

theorem surchargeResponded_asksFor (asks : world.request.AsksFor surchargeAmount)
    {history : PaymentGatewayResponseHistory}
    (executed : world.handleEcRescheduleSurchargePayementGatewayResponded environment history =
      .ok after) : after.request.AsksFor surchargeAmount := by
  unfold World.handleEcRescheduleSurchargePayementGatewayResponded at executed
  split at executed
  · cases executed
    exact asks
  split at executed
  · cases executed
  · rename_i done doing
    cases executed
    exact save_asksFor ((load_asksFor asks).executeCustomerRescheduleOrder doing) environment world

/-- No step changes what the request asks for. -/
theorem step_asksFor (asks : world.request.AsksFor surchargeAmount) (environment : Environment)
    (action : Timed) : (world.step environment action).request.AsksFor surchargeAmount := by
  have config := (world.step_frame environment action).2.1
  cases touches : action.operation.touchesOrder with
  | false =>
    have order := world.step_order environment touches
    exact ⟨config ▸ asks.config, order ▸ asks.order⟩
  | true =>
    obtain ⟨elapsed, operation⟩ := action
    have waiting : (world.wait elapsed).request.AsksFor surchargeAmount := asks
    unfold World.step
    split
    · rename_i after executed
      cases operation with
      | reschedule start finish => exact reschedule_asksFor waiting executed
      | gatewayResponded purpose =>
        rcases purpose with _ | _ | _
        · cases touches
        · cases touches
        · exact surchargeResponded_asksFor waiting executed
      | _ => cases touches
    · exact asks

end World

/-! ### Charging -/

theorem readAmount_testAmount : readAmount (utf16 "1.00") = some 1 := by
  decide +kernel

namespace ConfiguredWorld

variable {state : ConfiguredWorld} {surchargeAmount : Money}

/-- Where the request asks for an amount, the checkout charges what is owed exactly if it is
configured for the amount. -/
theorem chargesSurchargeOwed_iff_configuredFor
    (asks : state.world.request.AsksFor surchargeAmount) :
    state.ChargesSurchargeOwed ↔ state.ConfiguredFor surchargeAmount := by
  have charged (order : CustomerRescheduleOrder) (pending : state.pendingOrder = some order) :
      readAmount (utf16 (GetIPay88PaymentCheckoutInfoHandler.execute state.appConfig
          state.world.load .ecRescheduleSurcharge).amount) =
            some (toColumn order.consumerSurchargeAmount) ↔
        if state.appConfig.useRm1ToTestPaymentGateway then toColumn surchargeAmount = 1
        else (printedCents
          state.appConfig.serviceRequestOptions.ecRescheduleSurchargeAmount : Rat) / 100 =
            toColumn surchargeAmount := by
    obtain ⟨filed, waits⟩ := Option.filter_eq_some_iff.mp pending
    rw [Bool.and_eq_true] at waits
    rw [asks.order order filed waits.1]
    simp only [GetIPay88PaymentCheckoutInfoHandler.execute,
      GetIPay88PaymentCheckoutInfoHandler.payment]
    split
    · rw [readAmount_testAmount, Option.some.injEq]
      exact eq_comm
    · rw [readAmount_toFixed, Option.some.injEq]
  constructor
  · intro charges isPending
    obtain ⟨order, pending⟩ := Option.isSome_iff_exists.mp isPending
    exact (charged order pending).mp (charges order pending)
  · intro configured order pending
    exact (charged order pending).mpr (configured (by rw [pending]; rfl))

theorem step_asksFor (asks : state.world.request.AsksFor surchargeAmount)
    (action : ConfiguredAction) : (state.step action).world.request.AsksFor surchargeAmount := by
  cases action with
  | operate action => exact World.step_asksFor asks state.appConfig.environment action
  | configure appConfig => exact asks

theorem opened_asksFor {environment : Environment} {input : ServiceRequestInput} {now : Time}
    {request : ServiceRequest}
    (created : ServiceRequest.create environment input now = .ok request) :
    request.AsksFor input.serviceRequestOptions.ecRescheduleSurchargeAmount := by
  obtain ⟨appointment, -, made⟩ := bind_eq_ok created
  cases made
  refine ⟨rfl, fun order filed required => ?_⟩
  cases filed
  cases required

end ConfiguredWorld

/-- The fee of the example's request is paid, and its customer moves the appointment. -/
def examplePending : List ConfiguredAction :=
  List.map .operate (examplePaid ++ [⟨324000000, .reschedule 720000000 727200000⟩])

/-- However the configuration changes after a service request has been created, the checkout charges
the surcharge of a pending order all along exactly if, whenever an order is pending, what it is
configured to charge is what is stored of the surcharge at the creation of the request. -/
theorem chargesSurchargeOwed_throughout_iff (appConfig : AppConfig) (input : ServiceRequestInput)
    (now : Time) (repository : PaymentGatewayResponseRepository) (request : ServiceRequest)
    (created : ServiceRequest.create appConfig.environment
      { input with serviceRequestOptions := appConfig.serviceRequestOptions } now = .ok request)
    (actions : List ConfiguredAction) :
    Throughout ConfiguredWorld.step ConfiguredWorld.ChargesSurchargeOwed
        (.opened appConfig request repository) actions ↔
      Throughout ConfiguredWorld.step
        (ConfiguredWorld.ConfiguredFor appConfig.serviceRequestOptions.ecRescheduleSurchargeAmount)
        (.opened appConfig request repository) actions := by
  refine forall₂_congr fun earlier _ => ConfiguredWorld.chargesSurchargeOwed_iff_configuredFor ?_
  exact preserved_run ConfiguredWorld.step
    (fun state => state.world.request.AsksFor
      appConfig.serviceRequestOptions.ecRescheduleSurchargeAmount)
    (fun _ action asks => ConfiguredWorld.step_asksFor asks action) _ earlier
    (ConfiguredWorld.opened_asksFor created)

/-- The order is pending ten hours ahead of the appointment, and the surcharge is still what it has
been configured to be. -/
theorem chargesSurchargeOwed_throughout_unchanged :
    Throughout ConfiguredWorld.step ConfiguredWorld.ChargesSurchargeOwed
      (.opened ⟨exampleEnvironment, exampleOptions, false⟩ exampleRequest .empty)
      examplePending :=
  (chargesSurchargeOwed_throughout_iff ⟨exampleEnvironment, exampleOptions, false⟩ exampleInput 0
    .empty exampleRequest exampleRequest_created examplePending).mpr (by decide +kernel)

/-- An order that waits for 50 is charged 80 once 80 has been configured. -/
theorem not_chargesSurchargeOwed_reconfigured :
    ¬Throughout ConfiguredWorld.step ConfiguredWorld.ChargesSurchargeOwed
      (.opened ⟨exampleEnvironment, exampleOptions, false⟩ exampleRequest .empty)
      (examplePending ++
        [.configure ⟨exampleEnvironment,
          { exampleOptions with ecRescheduleSurchargeAmount := 80 }, false⟩]) := by
  decide +kernel

end FieldService
