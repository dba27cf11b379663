/-
This file asks when a reschedule order that carries a surcharge is executed.

`executeCustomerRescheduleOrder` looks at the payment twice. Its guard refuses an unpaid
order only when no history was handed over at all (`null`), and the execution then writes
the status of the most recent response into the order, whatever that status is, and returns.
The request is rescheduled in either case. `executesSettled_iff` gives the exact condition
under which a request is rescheduled only for an order that is free or paid for.
-/

import FieldService.Lifecycle.Operations

namespace FieldService

namespace ServiceRequest

/-- The execution reschedules the request only for an order that is free or paid for: when it
returns normally the order is one of the two, and when it throws the appointment and the
service are what they were. -/
def ExecutesSettled (environment : Environment) (request : ServiceRequest)
    (history : HistoryArgument) (now : Time) : Prop :=
  ((request.executeCustomerRescheduleOrder environment history now).2 = none →
    request.getCustomerRescheduleOrder.surchargeRequired = false ∨
      (request.executeCustomerRescheduleOrder environment history now).1.hasCustomerPaid
        .ecRescheduleSurcharge = true) ∧
  ((request.executeCustomerRescheduleOrder environment history now).2 ≠ none →
    (request.executeCustomerRescheduleOrder environment history now).1.appointment =
        request.appointment ∧
      (request.executeCustomerRescheduleOrder environment history now).1.service =
        request.service)

instance (environment : Environment) (request : ServiceRequest) (history : HistoryArgument)
    (now : Time) : Decidable (request.ExecutesSettled environment history now) :=
  inferInstanceAs (Decidable ((_ → _) ∧ (_ → _)))

/-- The order is missing or free, or it is too close, or the history has no response to go by,
or the most recent one is a success. -/
def ExecutionCovered (environment : Environment) (request : ServiceRequest)
    (history : HistoryArgument) : Prop :=
  request.getCustomerRescheduleOrder.isEmpty = true ∨
    request.getCustomerRescheduleOrder.surchargeRequired = false ∨
    request.getCustomerRescheduleOrder.isTooClose environment = true ∨
    ∀ response ∈ history.mostRecentResponse, response.responseStatus = .succeeded

instance (environment : Environment) (request : ServiceRequest) (history : HistoryArgument) :
    Decidable (request.ExecutionCovered environment history) :=
  inferInstanceAs (Decidable (_ ∨ _ ∨ _ ∨ _))

/-- Executing a surcharged order writes the status of the most recent response into it. -/
theorem execute_settles {order executed : CustomerRescheduleOrder} {history : HistoryArgument}
    {now : Time} (succeeds : order.execute history now = .ok executed)
    (surcharged : order.surchargeRequired = true) :
    ∃ response, history.mostRecentResponse = some response ∧
      executed.surchargeRequired = true ∧
      executed.paymentStatus = some response.responseStatus := by
  rw [CustomerRescheduleOrder.execute, surcharged, Bool.not_true, if_neg Bool.false_ne_true]
    at succeeds
  split at succeeds
  · cases succeeds
  · rename_i response recent
    cases succeeds
    exact ⟨response, recent, rfl, rfl⟩

/-- An execution that throws leaves the appointment and the service alone. -/
theorem executeCustomerRescheduleOrder_throws {environment : Environment}
    {request : ServiceRequest} {history : HistoryArgument} {now : Time}
    (throws : (request.executeCustomerRescheduleOrder environment history now).2 ≠ none) :
    (request.executeCustomerRescheduleOrder environment history now).1.appointment =
        request.appointment ∧
      (request.executeCustomerRescheduleOrder environment history now).1.service =
        request.service := by
  unfold executeCustomerRescheduleOrder at throws ⊢
  split
  · exact ⟨rfl, rfl⟩
  rename_i complete
  rw [if_neg complete] at throws
  split
  · exact ⟨rfl, rfl⟩
  rename_i paid
  rw [if_neg paid] at throws
  split
  · exact ⟨rfl, rfl⟩
  rename_i order executes
  rw [executes] at throws
  simp only [rescheduleAsOrdered] at throws ⊢
  split
  · rename_i period createdAt asked created
    rw [asked, created] at throws
    simp only at throws
    split
    · exact ⟨rfl, rfl⟩
    · rename_i rescheduled reschedules
      rw [reschedules] at throws
      exact absurd rfl throws
  · exact ⟨rfl, rfl⟩

/-- A surcharged order that is complete and not too close is executed as soon as its history
has a response, whatever the status of the response. -/
theorem executeCustomerRescheduleOrder_of_response {environment : Environment}
    {request : ServiceRequest} {history : HistoryArgument} {now : Time}
    (complete : request.getCustomerRescheduleOrder.isEmpty = false)
    (surcharged : request.getCustomerRescheduleOrder.surchargeRequired = true)
    (farEnough : request.getCustomerRescheduleOrder.isTooClose environment = false)
    {response : PaymentGatewayResponse} (recent : history.mostRecentResponse = some response) :
    (request.executeCustomerRescheduleOrder environment history now).2 = none ∧
      (request.executeCustomerRescheduleOrder environment history now).1.hasCustomerPaid
        .ecRescheduleSurcharge = (response.responseStatus = .succeeded : Bool) := by
  obtain ⟨period, createdAt, asked, created⟩ := isEmpty_eq_false complete
  have given : history ≠ .null := by
    rintro rfl
    cases recent
  have paid : request.executionIsUnpaid history = false := by
    simp [executionIsUnpaid, given]
  obtain ⟨appointment, made⟩ :=
    create_of_inTime asked created farEnough request.appointment.totalServiceMinutes
  simp only [executeCustomerRescheduleOrder, complete, paid, CustomerRescheduleOrder.execute,
    surcharged, recent, rescheduleAsOrdered, asked, created, reschedule, Bool.false_eq_true,
    Bool.not_true, if_false, made]
  refine ⟨rfl, ?_⟩
  show (true && decide (some response.responseStatus = some .succeeded)) = _
  simp

/-- A request is rescheduled only for an order that is free or paid for exactly if the order
is missing, free or too close, or its history is empty or ends in a success. -/
theorem executesSettled_iff (environment : Environment) (request : ServiceRequest)
    (history : HistoryArgument) (now : Time) :
    request.ExecutesSettled environment history now ↔
      request.ExecutionCovered environment history := by
  constructor
  · rintro ⟨settled, -⟩
    by_contra uncovered
    obtain ⟨complete, surcharged, farEnough, failed⟩ := by
      simpa [ExecutionCovered, not_or] using uncovered
    obtain ⟨response, recent, unsuccessful⟩ := failed
    obtain ⟨returns, paid⟩ := executeCustomerRescheduleOrder_of_response complete
      surcharged farEnough recent
    obtain free | settledPayment := settled returns
    · rw [surcharged] at free
      cases free
    · rw [paid] at settledPayment
      exact unsuccessful (of_decide_eq_true settledPayment)
  · intro covered
    refine ⟨fun returns => ?_, executeCustomerRescheduleOrder_throws⟩
    obtain ⟨complete, -, farEnough, order, appointment, executes, after⟩ :=
      executeCustomerRescheduleOrder_returns (Prod.ext rfl returns)
    obtain empty | free | tooClose | succeeded := covered
    · rw [complete] at empty
      cases empty
    · exact Or.inl free
    · rw [farEnough] at tooClose
      cases tooClose
    · refine Or.imp_right (fun surcharged => ?_)
        (Bool.eq_false_or_eq_true request.getCustomerRescheduleOrder.surchargeRequired).symm
      obtain ⟨response, recent, kept, status⟩ := execute_settles executes surcharged
      have settled : order.hasCustomerPaid = true := by
        rw [CustomerRescheduleOrder.hasCustomerPaid, kept, status, succeeded response recent]
        rfl
      exact (congrArg (·.hasCustomerPaid .ecRescheduleSurcharge) after).trans settled

end ServiceRequest

/-! ### A failed surcharge -/

/-- The example request with an order for four hours later that costs a surcharge. -/
def exampleSurcharged : ServiceRequest :=
  { exampleRequest with
    customerRescheduleOrder := some
      (.createWithSurcharge ⟨374400000, 381600000, 8⟩
        exampleRequest.appointment.expectedArrivalPeriod 50 30 (some exampleContractor.id) 1000) }

/-- The gateway's answer that the surcharge was not paid. -/
def exampleSurchargeFailed : PaymentGatewayResponse :=
  .ofPayload 0 2000 .daikin (some .ecRescheduleSurcharge) (examplePayload "0")

/-- A failed surcharge reschedules the request. -/
theorem failed_surcharge_reschedules :
    ¬ exampleSurcharged.ExecutesSettled exampleEnvironment (.given [exampleSurchargeFailed])
      3000 := by
  decide +kernel

end FieldService
