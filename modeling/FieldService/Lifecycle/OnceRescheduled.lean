/-
This file settles when a request that has been rescheduled by its customer stays one.

That it has been rescheduled is nothing but the execution date of its reschedule order, and so is
whether a provider is still to be compensated. Where several reschedules are allowed, the next one
puts a new order in the place of the old. An order with a surcharge has no execution date before
the surcharge is paid, and an order without one compensates nobody.
-/

import FieldService.Lifecycle.Steps
import FieldService.Wallet.Credits

namespace FieldService

open Execution

/-! ### What is remembered -/

/-- Executing the compensation command for the request credits the owner with the amount. -/
def Accounts.Compensates (accounts : Accounts) (serviceRequest : ServiceRequest) (ownerId : Uuid)
    (amount : Money) : Prop :=
  ∃ transaction : WalletTransaction,
    (accounts.step (.createRescheduleSurchargeCompensationTransaction serviceRequest.id
        (some serviceRequest))).transactions.rows = accounts.transactions.rows ++ [transaction] ∧
      transaction.type = .rescheduleSurchargeCompensation ∧ transaction.ownerId = ownerId ∧
      transaction.amount = amount

/-- What a rescheduled request remembers at a later moment. -/
structure World.StaysRescheduled (environment : Environment) (before after : World) : Prop where
  rescheduled : before.request.hasBeenRescheduledOnce = true →
    after.request.hasBeenRescheduledOnce = true
  /-- The customer cannot cancel. -/
  uncancellable : before.request.hasBeenRescheduledOnce = true →
    ∃ error, after.execute environment .cancel = .error error
  /-- A provider who would be compensated is still compensated. -/
  compensated : ∀ (accounts : Accounts) ownerId amount,
    accounts.Compensates before.load ownerId amount →
      accounts.Compensates after.load ownerId amount

/-- The compensation a request owes: it has been rescheduled and its surcharge has been paid. -/
def ServiceRequest.compensation (request : ServiceRequest) : Option (Uuid × Money) :=
  if request.hasBeenRescheduledOnce && request.getCustomerRescheduleOrder.surchargeRequired &&
      request.hasCustomerPaid .ecRescheduleSurcharge then
    request.getCustomerRescheduleOrder.impactedServiceProviderId.map fun ownerId =>
      (ownerId, request.getCustomerRescheduleOrder.impactedServiceProviderCompensationAmount)
  else none

/-- A reschedule to the start is admitted: an order will be filed. -/
def ServiceRequest.admitsReschedule (environment : Environment) (request : ServiceRequest)
    (start : Time) (now : Time) : Bool :=
  request.allowReschedule now && request.hasAppointmentStartTimeChanged start &&
    addHours now environment.serviceRequestExpectedArrivalWindowHour ≤ start

/-- The condition on a step: a reschedule of a request that has been rescheduled replaces its order
only by one without a surcharge, and only if no compensation is owed. -/
def World.KeepsOrder (environment : Environment) (world : World) (action : Timed) : Prop :=
  ∀ start finish, action.operation = .reschedule start finish →
    world.request.hasBeenRescheduledOnce = true →
    world.load.admitsReschedule environment start (world.clock + action.elapsed) = true →
      world.load.surchargeIsDue (world.clock + action.elapsed) = false ∧
        world.request.compensation = none

/-! ### Compensations -/

/-- A request owes a compensation if it has been rescheduled and its surcharge has been paid. -/
theorem ServiceRequest.compensation_eq_some {serviceRequest : ServiceRequest} {ownerId : Uuid}
    {amount : Money} : serviceRequest.compensation = some (ownerId, amount) ↔
      (!serviceRequest.hasBeenRescheduledOnce ||
          !serviceRequest.getCustomerRescheduleOrder.surchargeRequired ||
          !serviceRequest.hasCustomerPaid .ecRescheduleSurcharge) = false ∧
        serviceRequest.getCustomerRescheduleOrder.impactedServiceProviderId = some ownerId ∧
        serviceRequest.getCustomerRescheduleOrder.impactedServiceProviderCompensationAmount =
          amount := by
  rw [ServiceRequest.compensation]
  split
  · rename_i owing
    have due : (!serviceRequest.hasBeenRescheduledOnce ||
        !serviceRequest.getCustomerRescheduleOrder.surchargeRequired ||
        !serviceRequest.hasCustomerPaid .ecRescheduleSurcharge) = false := by
      simpa [Bool.and_eq_true, and_assoc] using owing
    simp [due, Option.map_eq_some_iff]
  · rename_i nothing
    refine iff_of_false (by simp) fun owing => nothing ?_
    simpa [and_assoc] using owing.1

/-- The compensation command credits what is owed, unless it has been credited before. -/
theorem Accounts.compensates_iff (accounts : Accounts) (serviceRequest : ServiceRequest)
    (ownerId : Uuid) (amount : Money) :
    accounts.Compensates serviceRequest ownerId amount ↔
      serviceRequest.compensation = some (ownerId, amount) ∧
        accounts.compensatedSurcharge serviceRequest = false := by
  have executes : accounts.step
      (.createRescheduleSurchargeCompensationTransaction serviceRequest.id
        (some serviceRequest)) =
      accounts.settle (if !serviceRequest.hasBeenRescheduledOnce ||
          !serviceRequest.getCustomerRescheduleOrder.surchargeRequired ||
          !serviceRequest.hasCustomerPaid .ecRescheduleSurcharge then .ok accounts
        else if accounts.compensatedSurcharge serviceRequest then .ok accounts
        else accounts.creditCompensation serviceRequest) := rfl
  have unchanged : ¬∃ transaction : WalletTransaction,
      accounts.transactions.rows = accounts.transactions.rows ++ [transaction] ∧
        transaction.type = .rescheduleSurchargeCompensation ∧ transaction.ownerId = ownerId ∧
        transaction.amount = amount := by
    rintro ⟨transaction, same, -⟩
    simp at same
  rw [Compensates, executes, ServiceRequest.compensation_eq_some]
  split
  · rename_i nothing
    exact iff_of_false unchanged fun owing => by simp [owing.1.1] at nothing
  rename_i owing
  split
  · rename_i before
    exact iff_of_false unchanged fun owing => by simp [owing.2] at before
  rename_i uncompensated
  rw [creditCompensation]
  cases impacted : serviceRequest.getCustomerRescheduleOrder.impactedServiceProviderId with
  | none => exact iff_of_false unchanged fun owing => by cases owing.1.2.1
  | some impactedId =>
    have appends : (accounts.record (WalletTransaction.forRescheduleSurchargeCompensation
          accounts.transactions.next (accounts.walletOf impactedId)
          serviceRequest)).transactions.rows =
        accounts.transactions.rows ++ [(WalletTransaction.forRescheduleSurchargeCompensation
          accounts.transactions.next (accounts.walletOf impactedId) serviceRequest).2] :=
      accounts.transactions.rows_save_of_find_eq_none accounts.transactions.find_next
    have owner := accounts.walletOf_ownerId impactedId
    constructor
    · rintro ⟨transaction, rows, -, rfl, rfl⟩
      obtain rfl : _ = transaction := List.singleton_inj.mp
        (List.append_cancel_left (appends.symm.trans rows))
      refine ⟨⟨by simpa using owing, congrArg some owner.symm, rfl⟩, by simpa using uncompensated⟩
    · rintro ⟨⟨-, same, rfl⟩, -⟩
      cases same
      exact ⟨_, appends, rfl, owner, rfl⟩

/-! ### Reschedules -/

section

variable {environment : Environment} {request : ServiceRequest} {start finish now : Time}

/-- A reschedule that is not admitted is refused before an order is filed. -/
theorem ServiceRequest.createCustomerRescheduleOrder_refuses
    (refused : request.admitsReschedule environment start now = false) :
    ∃ error, error ≠ .unableToRescheduleServiceRequestDueToUnpaidSurcharge ∧
      request.createCustomerRescheduleOrder environment ⟨start, finish, 8⟩ now =
        (request, some error) := by
  rw [admitsReschedule, Bool.and_eq_false_iff, Bool.and_eq_false_iff, decide_eq_false_iff_not,
    not_le] at refused
  unfold createCustomerRescheduleOrder Appointment.create
  split
  · exact ⟨_, by simp, rfl⟩
  rename_i allowed
  split
  · exact ⟨_, by simp, rfl⟩
  rename_i changed
  obtain (disallowed | unchanged) | early := refused
  · simp [disallowed] at allowed
  · simp [unchanged] at changed
  · rw [if_pos (show (⟨start, finish, 8⟩ : Period).start < _ from early)]
    exact ⟨_, by simp, rfl⟩

/-- A reschedule that is admitted files an order that has not been executed. -/
theorem ServiceRequest.createCustomerRescheduleOrder_files
    (admits : request.admitsReschedule environment start now = true) :
    ∃ (order : CustomerRescheduleOrder) (period : Period), order.executedAt = none ∧
      order.isEmpty = false ∧ order.newExpectedArrivalPeriod = some period ∧
      period.start = start ∧ order.createdAt = some now ∧
      (request.surchargeIsDue now = false → order.surchargeRequired = false) ∧
      request.createCustomerRescheduleOrder environment ⟨start, finish, 8⟩ now =
        ({ request with customerRescheduleOrder := some order },
          if request.surchargeIsDue now then
            some .unableToRescheduleServiceRequestDueToUnpaidSurcharge
          else none) := by
  rw [admitsReschedule, Bool.and_eq_true, Bool.and_eq_true, decide_eq_true_iff] at admits
  obtain ⟨⟨allowed, changed⟩, inTime⟩ := admits
  unfold createCustomerRescheduleOrder Appointment.create
  rw [allowed, changed]
  simp only [Bool.not_true, Bool.false_eq_true, if_false]
  rw [if_neg (not_lt.mpr inTime)]
  simp only
  by_cases due : request.surchargeIsDue now = true
  · rw [if_pos due, if_pos due]
    exact ⟨_, _, rfl, rfl, rfl, rfl, rfl, fun free => absurd due (by simp [free]), rfl⟩
  · rw [if_neg due, if_neg due]
    refine ⟨_, _, rfl, rfl, rfl, rfl, rfl, fun _ => ?_, rfl⟩
    simp [CustomerRescheduleOrder.createWithFreeOfCharge, CustomerRescheduleOrder.new]

/-- An order without a surcharge is executed, if the start it asks for was admitted. -/
theorem ServiceRequest.executeCustomerRescheduleOrder_free {order : CustomerRescheduleOrder}
    {period : Period} {history : HistoryArgument} {moment : Time}
    (filed : request.customerRescheduleOrder = some order) (complete : order.isEmpty = false)
    (asked : order.newExpectedArrivalPeriod = some period) (created : order.createdAt = some now)
    (free : order.surchargeRequired = false)
    (inTime : addHours now environment.serviceRequestExpectedArrivalWindowHour ≤ period.start) :
    ∃ after, request.executeCustomerRescheduleOrder environment history moment = (after, none) ∧
      after.customerRescheduleOrder = some { order with executedAt := some moment } := by
  have order' : request.getCustomerRescheduleOrder = order := by
    rw [getCustomerRescheduleOrder, filed, Option.getD_some]
  unfold executeCustomerRescheduleOrder executionIsUnpaid CustomerRescheduleOrder.execute
    rescheduleAsOrdered reschedule Appointment.create
  rw [order', complete, free]
  simp only [Bool.false_eq_true, if_false, Bool.false_and, Bool.not_false, if_true, asked, created]
  rw [if_neg (not_lt.mpr inTime)]
  exact ⟨_, rfl, rfl⟩

end

section

variable {environment : Environment} {world before after : World} {start finish : Time}

/-- A customer's reschedule is refused, or leaves an order that waits for its surcharge, or leaves
one that has been executed without any. -/
theorem World.reschedule_cases (environment : Environment) (world : World) (start finish : Time) :
    (world.load.admitsReschedule environment start world.clock = false ∧
      ∃ error, world.reschedule environment start finish = .error error) ∨
    (world.load.admitsReschedule environment start world.clock = true ∧
      ∃ after order, world.reschedule environment start finish = .ok after ∧
        after.request.customerRescheduleOrder = some order ∧
        ((world.load.surchargeIsDue world.clock = true ∧ order.executedAt = none) ∨
          (world.load.surchargeIsDue world.clock = false ∧ order.executedAt.isSome = true ∧
            order.surchargeRequired = false))) := by
  cases admits : world.load.admitsReschedule environment start world.clock with
  | false =>
    obtain ⟨error, notUnpaid, refuses⟩ :=
      @ServiceRequest.createCustomerRescheduleOrder_refuses _ _ _ finish _ admits
    refine Or.inl ⟨rfl, error, ?_⟩
    rw [World.reschedule, refuses]
    split
    · rename_i same
      cases same
      exact absurd rfl notUnpaid
    · rename_i same
      cases same
      rfl
    · rename_i same
      cases same
  | true =>
    obtain ⟨order, period, unexecuted, complete, asked, same, created, free, files⟩ :=
      @ServiceRequest.createCustomerRescheduleOrder_files _ _ _ finish _ admits
    refine Or.inr ⟨rfl, ?_⟩
    rw [World.reschedule, files]
    cases due : world.load.surchargeIsDue world.clock with
    | true => exact ⟨_, order, rfl, rfl, Or.inl ⟨rfl, unexecuted⟩⟩
    | false =>
      rw [ServiceRequest.admitsReschedule, Bool.and_eq_true, decide_eq_true_iff] at admits
      obtain ⟨executed, executes, stores⟩ := @ServiceRequest.executeCustomerRescheduleOrder_free
        environment { world.load with customerRescheduleOrder := some order } _ order period
        .undefined world.clock rfl complete asked created (free due) (same ▸ admits.2)
      simp only [Bool.false_eq_true, if_false, executes]
      exact ⟨_, _, rfl, stores, Or.inr ⟨trivial, rfl, free due⟩⟩

/-- A request that has been rescheduled cannot be cancelled by its customer. -/
theorem World.cancel_refused (rescheduled : world.request.hasBeenRescheduledOnce = true) :
    ∃ error, world.execute environment .cancel = .error error := by
  have loaded : world.load.hasBeenRescheduledOnce = true := rescheduled
  show ∃ error, world.cancel environment = .error error
  unfold World.cancel ServiceRequest.cancelByCustomer ServiceRequest.validateAllowEcCancel
  rw [loaded, if_pos rfl]
  split <;> exact ⟨_, rfl⟩

/-- What a rescheduled request remembers is read off its order. -/
theorem World.staysRescheduled_iff (sameId : after.request.id = before.request.id) :
    before.StaysRescheduled environment after ↔
      (before.request.hasBeenRescheduledOnce = true →
        after.request.hasBeenRescheduledOnce = true) ∧
      ∀ owed, before.request.compensation = some owed →
        after.request.compensation = some owed := by
  constructor
  · intro stays
    refine ⟨stays.rescheduled, fun ⟨ownerId, amount⟩ owes => ?_⟩
    have compensates := (Accounts.compensates_iff .empty before.load ownerId amount).mpr ⟨owes, rfl⟩
    exact ((Accounts.compensates_iff .empty after.load ownerId amount).mp
      (stays.compensated .empty ownerId amount compensates)).1
  · rintro ⟨rescheduled, owed⟩
    refine ⟨rescheduled, fun once => World.cancel_refused (rescheduled once), ?_⟩
    intro accounts ownerId amount compensates
    obtain ⟨owes, uncompensated⟩ :=
      (accounts.compensates_iff before.load ownerId amount).mp compensates
    have owes' := owed _ owes
    refine (accounts.compensates_iff after.load ownerId amount).mpr ⟨owes', ?_⟩
    have impacted := (ServiceRequest.compensation_eq_some.mp owes).2.1
    have impacted' : after.load.getCustomerRescheduleOrder.impactedServiceProviderId =
        some ownerId := (ServiceRequest.compensation_eq_some.mp owes').2.1
    rw [Accounts.compensatedSurcharge, impacted] at uncompensated
    rw [Accounts.compensatedSurcharge, impacted', show after.load.id = before.load.id from sameId]
    exact uncompensated

/-- An order that has been executed stays executed when it is executed again. -/
theorem CustomerRescheduleOrder.execute_executedAt {order executed : CustomerRescheduleOrder}
    {history : HistoryArgument} {now : Time} (succeeds : order.execute history now = .ok executed)
    (once : order.executedAt.isSome = true) : executed.executedAt.isSome = true := by
  unfold CustomerRescheduleOrder.execute at succeeds
  split at succeeds
  · cases succeeds
    rfl
  · split at succeeds
    · cases succeeds
    · cases succeeds
      show (if _ then some now else order.executedAt).isSome = true
      split
      · rfl
      · exact once

/-- The payment of a surcharge takes nothing back. -/
theorem World.surchargeResponded_keeps
    (executes : before.execute environment (.gatewayResponded (some .ecRescheduleSurcharge)) =
      .ok after) :
    (before.request.hasBeenRescheduledOnce = true →
      after.request.hasBeenRescheduledOnce = true) ∧
      ∀ owed, before.request.compensation = some owed →
        after.request.compensation = some owed := by
  simp only [World.execute, World.gatewayResponded,
    World.handleEcRescheduleSurchargePayementGatewayResponded] at executes
  split at executes
  · cases executes
    exact ⟨id, fun _ => id⟩
  rename_i unpaid
  split at executes
  · cases executes
  rename_i executed returns
  cases executes
  obtain ⟨-, -, -, order, appointment, execution, rfl⟩ :=
    ServiceRequest.executeCustomerRescheduleOrder_returns returns
  constructor
  · intro once
    have orderOnce : before.load.getCustomerRescheduleOrder.executedAt.isSome = true := by
      show (before.request.customerRescheduleOrder.getD .empty).executedAt.isSome = true
      rw [ServiceRequest.hasBeenRescheduledOnce] at once
      cases filed : before.request.customerRescheduleOrder with
      | none =>
        rw [filed] at once
        cases once
      | some order =>
        rw [filed] at once
        exact once
    exact CustomerRescheduleOrder.execute_executedAt execution orderOnce
  · rintro ⟨ownerId, amount⟩ owes
    have owing := (ServiceRequest.compensation_eq_some.mp owes).1
    have paid : before.load.hasCustomerPaid .ecRescheduleSurcharge = true := by
      simp only [Bool.or_eq_false_iff, Bool.not_eq_false'] at owing
      exact owing.2
    exact absurd paid unpaid

/-! ### Every run -/

theorem ServiceRequest.rescheduled_of_compensation {request : ServiceRequest}
    {owed : Uuid × Money} (owes : request.compensation = some owed) :
    request.hasBeenRescheduledOnce = true := by
  have owing := (compensation_eq_some.mp owes).1
  simp only [Bool.or_eq_false_iff, Bool.not_eq_false'] at owing
  exact owing.1.1

/-- An order without a surcharge owes nothing. -/
theorem ServiceRequest.compensation_of_free {request : ServiceRequest}
    {order : CustomerRescheduleOrder} (stored : request.customerRescheduleOrder = some order)
    (free : order.surchargeRequired = false) : request.compensation = none := by
  rw [compensation, getCustomerRescheduleOrder, stored, Option.getD_some, free]
  simp

theorem ServiceRequest.hasBeenRescheduledOnce_of {request : ServiceRequest}
    {order : CustomerRescheduleOrder} (stored : request.customerRescheduleOrder = some order) :
    request.hasBeenRescheduledOnce = order.executedAt.isSome := by
  rw [hasBeenRescheduledOnce, stored]

theorem ServiceRequest.hasBeenRescheduledOnce_congr {first second : ServiceRequest}
    (same : first.customerRescheduleOrder = second.customerRescheduleOrder) :
    first.hasBeenRescheduledOnce = second.hasBeenRescheduledOnce := by
  rw [hasBeenRescheduledOnce, hasBeenRescheduledOnce, same]

theorem ServiceRequest.compensation_congr {first second : ServiceRequest}
    (same : first.customerRescheduleOrder = second.customerRescheduleOrder) :
    first.compensation = second.compensation := by
  rw [compensation, compensation, hasBeenRescheduledOnce_congr same, hasCustomerPaid,
    hasCustomerPaid, getCustomerRescheduleOrder, getCustomerRescheduleOrder, same]

/-- Being rescheduled again takes nothing back when it is refused, or when no surcharge is due for
it and none is owed. -/
theorem World.reschedule_keeps_iff (environment : Environment) (world : World) (elapsed : Nat)
    (start finish : Time) :
    ((world.request.hasBeenRescheduledOnce = true →
        (world.step environment
          ⟨elapsed, .reschedule start finish⟩).request.hasBeenRescheduledOnce = true) ∧
      ∀ owed, world.request.compensation = some owed →
        (world.step environment ⟨elapsed, .reschedule start finish⟩).request.compensation =
          some owed) ↔
      world.KeepsOrder environment ⟨elapsed, .reschedule start finish⟩ := by
  have keeps : world.KeepsOrder environment ⟨elapsed, .reschedule start finish⟩ ↔
      (world.request.hasBeenRescheduledOnce = true →
        world.load.admitsReschedule environment start (world.clock + elapsed) = true →
          world.load.surchargeIsDue (world.clock + elapsed) = false ∧
            world.request.compensation = none) := by
    refine ⟨fun keeps => keeps start finish rfl, fun keeps _ _ same => ?_⟩
    cases same
    exact keeps
  rw [keeps]
  obtain ⟨refused, error, refuses⟩ | ⟨admitted, after, order, executes, stored, outcome⟩ :=
    World.reschedule_cases environment (world.wait elapsed) start finish
  · have step : world.step environment ⟨elapsed, .reschedule start finish⟩ =
        world.wait elapsed := by
      rw [World.step, World.execute, refuses]
    rw [step]
    refine iff_of_true ⟨id, fun _ => id⟩ fun _ admitted => ?_
    cases refused.symm.trans admitted
  · have step : world.step environment ⟨elapsed, .reschedule start finish⟩ = after := by
      rw [World.step, World.execute, executes]
    rw [step]
    have once := ServiceRequest.hasBeenRescheduledOnce_of stored
    obtain ⟨due, unexecuted⟩ | ⟨notDue, executed, free⟩ := outcome
    · rw [unexecuted] at once
      constructor
      · rintro ⟨stays, -⟩ before
        cases once.symm.trans (stays before)
      · intro keeps
        have never : world.request.hasBeenRescheduledOnce ≠ true := fun before => by
          cases due.symm.trans (keeps before admitted).1
        exact ⟨fun before => absurd before never,
          fun _ owes => absurd (ServiceRequest.rescheduled_of_compensation owes) never⟩
    · rw [executed] at once
      have nothing := ServiceRequest.compensation_of_free stored free
      constructor
      · rintro ⟨-, kept⟩ before -
        refine ⟨notDue, Option.eq_none_iff_forall_ne_some.mpr fun owed owes => ?_⟩
        cases nothing.symm.trans (kept owed owes)
      · intro keeps
        refine ⟨fun _ => once, fun owed owes => ?_⟩
        have none := (keeps (ServiceRequest.rescheduled_of_compensation owes) admitted).2
        cases none.symm.trans owes

/-- A request that has been rescheduled stays one over a step exactly if the condition holds. -/
theorem World.staysRescheduled_step_iff (environment : Environment) (world : World)
    (action : Timed) :
    world.StaysRescheduled environment (world.step environment action) ↔
      world.KeepsOrder environment action := by
  have sameId := (world.step_frame environment action).1
  rw [World.staysRescheduled_iff sameId]
  obtain ⟨elapsed, operation⟩ := action
  have vacuous (other : ∀ start finish, operation ≠ .reschedule start finish) :
      world.KeepsOrder environment ⟨elapsed, operation⟩ :=
    fun start finish same => absurd same (other start finish)
  cases touches : operation.touchesOrder with
  | false =>
    have sameOrder := @World.step_order environment world ⟨elapsed, operation⟩ touches
    refine iff_of_true ?_ (vacuous fun start finish same => by rw [same] at touches; cases touches)
    rw [ServiceRequest.hasBeenRescheduledOnce_congr sameOrder,
      ServiceRequest.compensation_congr sameOrder]
    exact ⟨id, fun _ => id⟩
  | true =>
    cases operation with
    | gatewayResponded purpose =>
      rcases purpose with _ | _ | _
      · cases touches
      · cases touches
      refine iff_of_true ?_ (vacuous fun start finish => by simp)
      unfold World.step
      split
      · rename_i after executes
        exact @World.surchargeResponded_keeps environment (world.wait elapsed) after executes
      · exact ⟨id, fun _ => id⟩
    | reschedule start finish => exact world.reschedule_keeps_iff environment elapsed start finish
    | _ => cases touches

end

/-- Over every run, whatever is allowed to be rescheduled how often: a request that has been
rescheduled stays one, refuses its customer's cancellation and goes on to owe the compensation it
owes, exactly if every step keeps its order as the condition says. -/
theorem staysRescheduled_iff_along (environment : Environment) (world : World)
    (actions : List Timed) :
    Settling (World.step environment) (World.StaysRescheduled environment) world actions ↔
      Along (World.step environment) (World.KeepsOrder environment) world actions := by
  rw [settling_iff_along]
  · simp only [World.staysRescheduled_step_iff]
  · intro world
    exact (World.staysRescheduled_iff rfl).mpr ⟨id, fun _ => id⟩
  · intro first second third early late
    refine ⟨fun once => late.rescheduled (early.rescheduled once),
      fun once => late.uncancellable (early.rescheduled once), ?_⟩
    intro accounts ownerId amount compensates
    exact late.compensated accounts ownerId amount
      (early.compensated accounts ownerId amount compensates)

/-- The example's request, where several reschedules are allowed. -/
def exampleRepeatable : ServiceRequest :=
  { exampleRequest with
    config := { exampleOptions with ecRescheduleMultipleOccurrencesAllowed := true } }

/-- The fee is paid, a first reschedule is free, and a second one, ten hours ahead of the
appointment, waits for a surcharge. -/
def exampleRescheduledTwice : List Timed :=
  examplePaid ++
    [⟨1000, .reschedule 720000000 727200000⟩, ⟨684000000, .reschedule 1080000000 1087200000⟩]

/-- The request counts as never rescheduled after its second reschedule. -/
theorem not_staysRescheduled_twice :
    ¬Settling (World.step exampleEnvironment) (World.StaysRescheduled exampleEnvironment)
      (.opened exampleRepeatable .empty) exampleRescheduledTwice := by
  intro settling
  have stays := (settling (examplePaid ++ [⟨1000, .reschedule 720000000 727200000⟩])
    [⟨684000000, .reschedule 1080000000 1087200000⟩] List.prefix_rfl).rescheduled
    (by decide +kernel)
  have forgotten : (run (World.step exampleEnvironment) (.opened exampleRepeatable .empty)
      exampleRescheduledTwice).request.hasBeenRescheduledOnce = false := by
    decide +kernel
  cases forgotten.symm.trans stays

end FieldService
