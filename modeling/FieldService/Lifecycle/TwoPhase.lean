/-
This file shows that filing a reschedule order and executing it later is safe.

The order is checked against the clock when it is filed, and it may be executed days later by the
event of a payment. The execution makes the appointment as of the time the order was filed, so the
check it repeats is the one the order has passed: an order that has been filed is in time
(`createCustomerRescheduleOrder_inTime`) and stays so whatever is done with the request
(`World.inTime_step`). The order is written before the appointment is made, and what saves it from
being half executed is that an order in time has no error left after that point.
-/

import FieldService.Lifecycle.Steps

namespace FieldService

open Execution

/-! ### Orders in time -/

namespace ServiceRequest

variable {environment : Environment} {request ordered after : ServiceRequest}

/-- The order that has been filed asks for a start that is far enough from its creation. -/
theorem createCustomerRescheduleOrder_inTime {period : Period} {now : Time}
    {thrown : Option AppError}
    (files : request.createCustomerRescheduleOrder environment period now = (ordered, thrown))
    (filed : thrown = none ∨ thrown = some .unableToRescheduleServiceRequestDueToUnpaidSurcharge) :
    ordered.getCustomerRescheduleOrder.isTooClose environment = false := by
  unfold createCustomerRescheduleOrder at files
  split at files
  · cases files
    rcases filed with same | same <;> cases same
  split at files
  · cases files
    rcases filed with same | same <;> cases same
  unfold Appointment.create at files
  by_cases close : period.start < addHours now environment.serviceRequestExpectedArrivalWindowHour
  · rw [if_pos close] at files
    cases files
    rcases filed with same | same <;> cases same
  · rw [if_neg close] at files
    simp only at files
    split at files <;> cases files <;> exact decide_eq_false close

/-- Executing an order does not bring it closer. -/
theorem isTooClose_execute {order executed : CustomerRescheduleOrder} {history : HistoryArgument}
    {now : Time} (succeeds : order.execute history now = .ok executed) :
    executed.isTooClose environment = order.isTooClose environment := by
  obtain ⟨-, sameNew, sameCreated, -⟩ := execute_keeps succeeds
  unfold CustomerRescheduleOrder.isTooClose
  rw [sameNew, sameCreated]

/-- An order in time is executed, or an error that is not that of the arrival window is thrown
before anything has been written. -/
theorem executeCustomerRescheduleOrder_cases
    (inTime : request.getCustomerRescheduleOrder.isTooClose environment = false)
    (history : HistoryArgument) (now : Time) :
    (request.executeCustomerRescheduleOrder environment history now).2 = none ∨
      ∃ error, (∀ hours, error ≠ .lessThanExpectedArrivalWindowHour hours) ∧
        request.executeCustomerRescheduleOrder environment history now = (request, some error) := by
  unfold executeCustomerRescheduleOrder
  split
  · exact .inr ⟨_, by simp, rfl⟩
  rename_i complete
  split
  · exact .inr ⟨_, by simp, rfl⟩
  split
  · rename_i error fails
    refine .inr ⟨error, ?_, rfl⟩
    unfold CustomerRescheduleOrder.execute at fails
    split at fails
    · cases fails
    · split at fails <;> cases fails
      simp
  · rename_i order executes
    obtain ⟨-, sameNew, sameCreated, -⟩ := execute_keeps executes
    obtain ⟨period, createdAt, asked, created⟩ := isEmpty_eq_false (by simpa using complete)
    obtain ⟨appointment, made⟩ :=
      create_of_inTime asked created inTime request.appointment.totalServiceMinutes
    simp only [rescheduleAsOrdered, sameNew, sameCreated, asked, created, reschedule, made]
    exact .inl rfl

/-- However the execution ends, it leaves an order in time. -/
theorem executeCustomerRescheduleOrder_inTime {history : HistoryArgument} {now : Time}
    {thrown : Option AppError}
    (inTime : request.getCustomerRescheduleOrder.isTooClose environment = false)
    (executes : request.executeCustomerRescheduleOrder environment history now = (after, thrown)) :
    after.getCustomerRescheduleOrder.isTooClose environment = false := by
  obtain returns | ⟨error, -, throws⟩ :=
    executeCustomerRescheduleOrder_cases inTime history now
  · rw [executes] at returns
    subst returns
    obtain ⟨-, -, -, order, appointment, execution, rfl⟩ :=
      executeCustomerRescheduleOrder_returns executes
    exact (isTooClose_execute execution).trans inTime
  · cases executes.symm.trans throws
    exact inTime

/-! ### Safety -/

/-- Filing an order changes neither the appointment nor the service, and nothing at all when it
fails for another reason than an unpaid surcharge. -/
structure FilesSafely (environment : Environment) (request : ServiceRequest) (period : Period)
    (now : Time) : Prop where
  appointment :
    (request.createCustomerRescheduleOrder environment period now).1.appointment =
      request.appointment
  service :
    (request.createCustomerRescheduleOrder environment period now).1.service = request.service
  unchanged : ∀ error, error ≠ .unableToRescheduleServiceRequestDueToUnpaidSurcharge →
    (request.createCustomerRescheduleOrder environment period now).2 = some error →
      (request.createCustomerRescheduleOrder environment period now).1 = request

/-- Executing the order does not fail the check of the arrival window, and when it throws the
appointment, the service, and the order's execution and payment are what they were. -/
structure ExecutesSafely (environment : Environment) (request : ServiceRequest)
    (history : HistoryArgument) (now : Time) : Prop where
  inWindow : ∀ hours,
    (request.executeCustomerRescheduleOrder environment history now).2 ≠
      some (.lessThanExpectedArrivalWindowHour hours)
  unchanged : (request.executeCustomerRescheduleOrder environment history now).2 ≠ none →
    let after := (request.executeCustomerRescheduleOrder environment history now).1
    after.appointment = request.appointment ∧ after.service = request.service ∧
      after.getCustomerRescheduleOrder.executedAt =
        request.getCustomerRescheduleOrder.executedAt ∧
      after.getCustomerRescheduleOrder.paymentStatus =
        request.getCustomerRescheduleOrder.paymentStatus

theorem filesSafely (environment : Environment) (request : ServiceRequest) (period : Period)
    (now : Time) : request.FilesSafely environment period now := by
  obtain ⟨error, -, refuses⟩ | ⟨-, order, ⟨-, files⟩ | ⟨-, -, files⟩⟩ :=
    createCustomerRescheduleOrder_cases environment request period now
  · exact ⟨by rw [refuses], by rw [refuses], fun _ _ _ => by rw [refuses]⟩
  · refine ⟨by rw [files], by rw [files], fun error other throws => ?_⟩
    rw [files] at throws
    exact absurd (Option.some.inj throws).symm other
  · refine ⟨by rw [files], by rw [files], fun error other throws => ?_⟩
    rw [files] at throws
    cases throws

theorem executesSafely (inTime : request.getCustomerRescheduleOrder.isTooClose environment = false)
    (history : HistoryArgument) (now : Time) :
    request.ExecutesSafely environment history now := by
  obtain returns | ⟨error, other, throws⟩ :=
    executeCustomerRescheduleOrder_cases inTime history now
  · refine ⟨fun hours fails => ?_, fun throws => absurd returns throws⟩
    rw [returns] at fails
    cases fails
  · refine ⟨fun hours fails => ?_, fun _ => ?_⟩
    · rw [throws] at fails
      exact other hours (Option.some.inj fails)
    · rw [throws]
      exact ⟨rfl, rfl, rfl, rfl⟩

end ServiceRequest

/-! ### Every run -/

/-- The order that is stored is in time. -/
def World.InTime (environment : Environment) (world : World) : Prop :=
  world.request.getCustomerRescheduleOrder.isTooClose environment = false

theorem World.inTime_save {environment : Environment} {world : World} {request : ServiceRequest}
    (inTime : request.getCustomerRescheduleOrder.isTooClose environment = false) :
    (world.save environment request).InTime environment := inTime

/-- Whatever is done with a request, its order stays in time. -/
theorem World.inTime_execute {environment : Environment} {world after : World}
    {operation : Operation} (inTime : world.InTime environment)
    (executes : world.execute environment operation = .ok after) : after.InTime environment := by
  cases touches : operation.touchesOrder with
  | false =>
    have kept := (World.execute_effect executes).order touches
    show (after.request.customerRescheduleOrder.getD .empty).isTooClose environment = false
    rw [kept]
    exact inTime
  | true =>
    cases operation with
    | reschedule start finish =>
      simp only [World.execute, World.reschedule] at executes
      split at executes
      · rename_i ordered files
        cases executes
        exact World.inTime_save
          (ServiceRequest.createCustomerRescheduleOrder_inTime files (.inr rfl))
      · cases executes
      · rename_i ordered files
        have filed := ServiceRequest.createCustomerRescheduleOrder_inTime files (.inl rfl)
        split at executes
        · rename_i executed execution
          cases executes
          exact World.inTime_save
            (ServiceRequest.executeCustomerRescheduleOrder_inTime filed execution)
        · cases executes
        · rename_i executed execution
          cases executes
          exact World.inTime_save
            (ServiceRequest.executeCustomerRescheduleOrder_inTime filed execution)
    | gatewayResponded purpose =>
      rcases purpose with _ | _ | _
      · cases touches
      · cases touches
      · simp only [World.execute, World.gatewayResponded,
          World.handleEcRescheduleSurchargePayementGatewayResponded] at executes
        split at executes
        · cases executes
          exact inTime
        · split at executes
          · cases executes
          · rename_i executed execution
            cases executes
            have loaded : world.load.getCustomerRescheduleOrder.isTooClose environment = false :=
              inTime
            exact World.inTime_save
              (ServiceRequest.executeCustomerRescheduleOrder_inTime loaded execution)
    | _ => cases touches

theorem World.inTime_step {environment : Environment} {world : World}
    (inTime : world.InTime environment) (action : Timed) :
    (world.step environment action).InTime environment := by
  unfold World.step
  cases executes : (world.wait action.elapsed).execute environment action.operation with
  | error error => exact inTime
  | ok after =>
    have waited : (world.wait action.elapsed).InTime environment := inTime
    exact World.inTime_execute waited executes

/-- Any request that carries the stored order executes it safely at any time. -/
def World.ExecutesSafely (environment : Environment) (world : World) : Prop :=
  ∀ request : ServiceRequest,
    request.customerRescheduleOrder = world.request.customerRescheduleOrder →
      ∀ history now, request.ExecutesSafely environment history now

theorem World.InTime.executesSafely {environment : Environment} {world : World}
    (inTime : world.InTime environment) : world.ExecutesSafely environment := by
  intro request carries history now
  refine ServiceRequest.executesSafely ?_ history now
  rw [ServiceRequest.getCustomerRescheduleOrder, carries]
  exact inTime

/-- Filing an order is safe, and once one has been filed its execution is, in every state of every
run that starts with the order and at any time. -/
theorem twoPhaseReschedule_safe (environment : Environment) (request : ServiceRequest)
    (period : Period) (now : Time) :
    request.FilesSafely environment period now ∧
      ∀ ordered thrown,
        request.createCustomerRescheduleOrder environment period now = (ordered, thrown) →
        thrown = none ∨
          thrown = some .unableToRescheduleServiceRequestDueToUnpaidSurcharge →
        ∀ world : World,
          world.request.customerRescheduleOrder = ordered.customerRescheduleOrder →
          ∀ actions, Throughout (World.step environment) (World.ExecutesSafely environment) world
            actions := by
  refine ⟨ServiceRequest.filesSafely environment request period now, ?_⟩
  intro ordered thrown files filed world carries actions
  have start : world.InTime environment := by
    rw [World.InTime, ServiceRequest.getCustomerRescheduleOrder, carries]
    exact ServiceRequest.createCustomerRescheduleOrder_inTime files filed
  exact throughout_of_preserved _ (World.InTime environment) _
    (fun world action inTime => World.inTime_step inTime action)
    (fun world inTime => inTime.executesSafely) world actions start

/-- The example's request when its fee has been paid. -/
def examplePaidWorld : World :=
  run (World.step exampleEnvironment) (.opened exampleRequest .empty) examplePaid

/-- Ten hours ahead of the appointment an order waits for its surcharge, and a day later the
gateway responds. -/
theorem twoPhaseReschedule_safe_surcharged :
    ∃ ordered,
      examplePaidWorld.load.createCustomerRescheduleOrder exampleEnvironment
          ⟨720000000, 727200000, 8⟩ 324000000 =
        (ordered, some .unableToRescheduleServiceRequestDueToUnpaidSurcharge) ∧
      Throughout (World.step exampleEnvironment) (World.ExecutesSafely exampleEnvironment)
        (examplePaidWorld.save exampleEnvironment ordered)
        [⟨86400000, .gatewayResponded (some .ecRescheduleSurcharge)⟩] := by
  have thrown : (examplePaidWorld.load.createCustomerRescheduleOrder exampleEnvironment
      ⟨720000000, 727200000, 8⟩ 324000000).2 =
        some .unableToRescheduleServiceRequestDueToUnpaidSurcharge := by
    decide +kernel
  obtain ⟨ordered, files⟩ : ∃ ordered,
      examplePaidWorld.load.createCustomerRescheduleOrder exampleEnvironment
          ⟨720000000, 727200000, 8⟩ 324000000 =
        (ordered, some .unableToRescheduleServiceRequestDueToUnpaidSurcharge) :=
    ⟨_, Prod.ext (Eq.refl _) thrown⟩
  exact ⟨ordered, files, (twoPhaseReschedule_safe exampleEnvironment examplePaidWorld.load
    ⟨720000000, 727200000, 8⟩ 324000000).2 ordered _ files (.inr rfl) _ rfl _⟩

end FieldService
