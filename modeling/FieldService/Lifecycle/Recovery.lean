/-
This file proves that a service request is never stuck.

Whatever has been done to a request, its operators can still bring it to its end: they restart
it, a payment of the fee comes in, a contractor is assigned, and the job is handled event by
event. What an earlier life of the request has left behind in the columns, the events and the
responses does not stand in the way, because nothing of it lies in the future: the newest
response and the newest event are those of the recovery.
-/

import Mathlib.Algebra.Order.Archimedean.Basic
import Mathlib.Data.Fintype.EquivFin
import Mathlib.Data.List.TakeWhile
import FieldService.Lifecycle.FeePayment
import FieldService.Lifecycle.Handling

namespace FieldService

open Execution Latest

variable {environment : Environment}

/-! ### Nothing lies in the future -/

theorem PaymentGatewayResponseRepository.createdAt_insertIfNotExist
    {repository : PaymentGatewayResponseRepository} {now : Time}
    (past : ∀ row ∈ repository.rows, row.createdAt ≤ now) (principalGroup : Tenant)
    (payload : Payload) (override : Bool) :
    ∀ row ∈ (repository.insertIfNotExist now principalGroup payload override).1.rows,
      row.createdAt ≤ now := by
  unfold insertIfNotExist
  split
  · exact past
  split
  · split
    · split
      · exact past
      · intro row member
        obtain ⟨stored, isStored, rfl⟩ := List.mem_map.mp member
        have before := past stored isStored
        split <;> exact before
    · exact past
  · intro row member
    obtain stored | rfl := (List.mem_append.mp member).imp_right List.mem_singleton.mp
    · exact past row stored
    · exact le_rfl

/-- What every run keeps of a request that can be brought to its end. -/
structure World.Recoverable (world : World) : Prop where
  verificationCode : world.request.verificationCode.isSome = true
  id : paymentRefNoDelimiter ∉ world.request.id.toList
  handlingEvents : ∀ event ∈ world.handlingEvents, event.createdAt ≤ world.clock
  responses : ∀ row ∈ world.repository.rows, row.createdAt ≤ world.clock

theorem World.clock_step_le (environment : Environment) (world : World) (action : Timed) :
    world.clock ≤ (world.step environment action).clock := by
  rw [(world.step_frame environment action).2.2]
  exact Int.le_add_of_nonneg_right (Int.natCast_nonneg _)

theorem World.step_verificationCode (world : World) (action : Timed) :
    (world.step environment action).request.verificationCode = world.request.verificationCode := by
  unfold World.step
  split
  · rename_i executed
    have effect := World.execute_effect executed
    exact effect.verificationCode
  · rfl

theorem World.Recoverable.step {world : World} (recoverable : world.Recoverable)
    (action : Timed) : (world.step environment action).Recoverable where
  verificationCode := by
    rw [world.step_verificationCode action]
    exact recoverable.verificationCode
  id := by
    rw [(world.step_frame environment action).1]
    exact recoverable.id
  handlingEvents event member := by
    have later := world.clock_step_le environment action
    obtain ⟨events, -, -⟩ | ⟨recorded, -, createdAt, -, events, -⟩ :=
      world.step_events environment action
    · exact (recoverable.handlingEvents event (events ▸ member)).trans later
    · rw [events] at member
      obtain earlier | rfl := (List.mem_append.mp member).imp_right List.mem_singleton.mp
      · exact (recoverable.handlingEvents event earlier).trans later
      · exact createdAt.le
  responses row member := by
    have past : ∀ row ∈ world.repository.rows,
        row.createdAt ≤ (world.wait action.elapsed).clock := fun row stored =>
      (recoverable.responses row stored).trans
        (Int.le_add_of_nonneg_right (Int.natCast_nonneg _))
    have clock : (world.step environment action).clock = (world.wait action.elapsed).clock :=
      (world.step_frame environment action).2.2
    rw [clock]
    unfold World.step at member
    split at member
    · rename_i after executed
      rw [(World.execute_effect executed).repository] at member
      cases operation : action.operation with
      | respond principalGroup payload override =>
        rw [operation] at member
        exact PaymentGatewayResponseRepository.createdAt_insertIfNotExist past _ _ _ row member
      | _ =>
        rw [operation] at member
        exact past row member
    · exact past row member

/-! ### One operation of a recovery after the other -/

/-- An operation that succeeds at once. -/
theorem World.step_of_execute {world after : World} {operation : Operation} {elapsed : Nat}
    (executed : (world.wait elapsed).execute environment operation = .ok after) :
    world.step environment ⟨elapsed, operation⟩ = after := by
  rw [World.step, executed]

theorem World.rebuilt_of_execute {world after : World} {operation : Operation} {elapsed : Nat}
    {transition : Transition}
    (executed : (world.wait elapsed).execute environment operation = .ok after)
    (own : (world.wait elapsed).transition operation = some transition) :
    Rebuilt environment world.loaded transition
      (world.step environment ⟨elapsed, operation⟩).loaded := by
  obtain ⟨refund, stored⟩ := own ▸ (World.execute_effect executed).stores
  rw [World.step_of_execute executed, stored]
  exact rebuilt_persist environment world.loaded transition refund

theorem World.rebuilt_restart (environment : Environment) (world : World) :
    Rebuilt environment world.loaded .restart
      (world.step environment ⟨0, .initiateAutoAssignment⟩).loaded :=
  World.rebuilt_of_execute rfl rfl

/-- The last response the request knows of reports a success. -/
def World.LastSucceeded (world : World) : Prop :=
  calculatePaymentStatus world.loaded.lastCustomerPaymentGatewayResponse = .succeeded

/-- A payload that reports the fee of a request as paid. -/
def Payload.paidFee (id transactionId : String) : Payload where
  MerchantCode := .undefined
  PaymentId := .undefined
  RefNo := .text id
  Amount := .undefined
  Currency := .undefined
  ErrDesc := .undefined
  Status := .text "1"
  TransId := .text transactionId
  Xfield1 := .text "FEE"
  Signature := .undefined

/-- The row such a payload is stored as. -/
def World.paidRow (world : World) (transactionId : String) : PaymentGatewayResponse :=
  .ofPayload world.repository.rows.length world.clock world.request.principalGroup (some .fee)
    (.paidFee world.request.id transactionId)

/-- The payment of the fee under a transaction that is new. -/
def World.payFee (world : World) (transactionId : String) : Timed :=
  ⟨0, .respond world.request.principalGroup (.paidFee world.request.id transactionId) false⟩

theorem Payload.splitRefNo_paidFee {id transactionId : String}
    (plain : paymentRefNoDelimiter ∉ id.toList) :
    (Payload.paidFee id transactionId).splitRefNo = .paidFee id transactionId := by
  have whole : id.toList.takeWhile (· ≠ paymentRefNoDelimiter) = id.toList := by
    refine List.takeWhile_eq_self_iff.mpr fun character member => ?_
    exact decide_eq_true fun same => plain (same ▸ member)
  simp only [Payload.splitRefNo, Payload.paidFee, whole, String.ofList_toList]

/-- A transaction no response has. -/
theorem PaymentGatewayResponseRepository.exists_newTransaction
    (repository : PaymentGatewayResponseRepository) :
    ∃ transactionId, ∀ row ∈ repository.rows, row.transactionId ≠ some transactionId := by
  obtain ⟨transactionId, fresh⟩ := Infinite.exists_notMem_finset
    (repository.rows.filterMap (·.transactionId)).toFinset
  refine ⟨transactionId, fun row member same => fresh ?_⟩
  exact List.mem_toFinset.mpr (List.mem_filterMap.mpr ⟨row, member, same⟩)

section Payment

variable {world : World} {transactionId : String}

/-- A payment under a new transaction is stored in a row of its own. -/
theorem World.Recoverable.payFee_repository (recoverable : world.Recoverable)
    (fresh : ∀ row ∈ world.repository.rows, row.transactionId ≠ some transactionId) :
    (world.step environment (world.payFee transactionId)).repository.rows =
      world.repository.rows ++ [(world.wait 0).paidRow transactionId] := by
  have untaken : world.repository.transactionTaken (.paidFee world.request.id transactionId) =
      false := by
    simpa [PaymentGatewayResponseRepository.transactionTaken, Payload.paidFee, Field.toOption]
      using fresh
  show ((iPay88Response world.repository _ world.request.principalGroup
    (Payload.splitRefNo _) false).1).rows = _
  rw [Payload.splitRefNo_paidFee recoverable.id, iPay88Response,
    PaymentGatewayResponseRepository.insertIfNotExist, untaken]
  rfl

theorem World.Recoverable.payFee_lookup (recoverable : world.Recoverable)
    (fresh : ∀ row ∈ world.repository.rows, row.transactionId ≠ some transactionId) :
    ((world.step environment (world.payFee transactionId)).repository.lookup
        world.request.id .fee).mostRecentResponse =
      some ((world.wait 0).paidRow transactionId) := by
  have own : [(world.wait 0).paidRow transactionId].filter (fun response =>
      decide (response.referenceId = some world.request.id ∧
        response.paymentPurposeCode = some .fee)) = [(world.wait 0).paidRow transactionId] :=
    List.filter_cons_of_pos (by simp [World.paidRow, PaymentGatewayResponse.ofPayload,
      Payload.paidFee, Field.toOption, World.wait])
  rw [PaymentGatewayResponseRepository.lookup, recoverable.payFee_repository fresh,
    List.filter_append, own]
  refine latest_append _ _ _ fun row member => ?_
  refine (recoverable.responses row (List.mem_of_mem_filter member)).trans ?_
  exact Int.le_add_of_nonneg_right (Int.natCast_nonneg _)

theorem World.Recoverable.payFee_statusesKept (recoverable : world.Recoverable)
    (fresh : ∀ row ∈ world.repository.rows, row.transactionId ≠ some transactionId) :
    KeepsStatuses environment world (world.payFee transactionId) := by
  intro row member later laterMember sameId
  have kept : row ∈ (world.step environment (world.payFee transactionId)).repository.rows := by
    rw [recoverable.payFee_repository fresh]
    exact List.mem_append_left _ member
  have found := PaymentGatewayResponseRepository.findOne_id _ kept
  rw [← sameId, PaymentGatewayResponseRepository.findOne_id _ laterMember] at found
  rw [Option.some.inj found]

/-- After a restart and a payment the request knows that it is paid. -/
theorem World.Recoverable.lastSucceeded_pay (recoverable : world.Recoverable)
    (told : world.loaded.hasCustomerPaid = true → world.LastSucceeded)
    (fresh : ∀ row ∈ world.repository.rows, row.transactionId ≠ some transactionId) :
    (run (World.step environment) world
      [world.payFee transactionId, ⟨0, .gatewayResponded (some .fee)⟩]).LastSucceeded := by
  have lookup : ((world.step environment (world.payFee transactionId)).repository.lookup
      world.request.id .fee).mostRecentResponse = _ := recoverable.payFee_lookup fresh
  have kept : StatusesKept world.repository
      (world.step environment (world.payFee transactionId)).repository :=
    recoverable.payFee_statusesKept fresh
  have sameRequest : (world.step environment (world.payFee transactionId)).request =
      world.request := rfl
  generalize paidFor : world.step environment (world.payFee transactionId) = paid at *
  have grows : world.repository.rows.length ≤ paid.repository.rows.length := by
    rw [← paidFor]
    exact world.step_repository_length environment _
  rw [run_cons, paidFor, run_cons, run_nil]
  by_cases hasPaid : paid.loaded.hasCustomerPaid = true
  · have executed : (paid.wait 0).execute environment (.gatewayResponded (some .fee)) =
        .ok (paid.wait 0) := by
      rw [World.execute, World.gatewayResponded,
        World.handleServiceRequestFeePaymentGatewayResponded]
      exact if_pos hasPaid
    rw [World.step_of_execute executed]
    have before : world.LastSucceeded := told (by
      rw [World.loaded, sameRequest] at hasPaid
      exact hasPaid)
    have succeeded := Service.load_succeeded kept grows before
    rw [← sameRequest] at succeeded
    exact succeeded
  · have executed : (paid.wait 0).execute environment (.gatewayResponded (some .fee)) =
        .ok ((paid.wait 0).save environment ((paid.wait 0).load.deriveCustomerPaymentProgress
          (paid.repository.lookup paid.request.id .fee) (paid.wait 0).clock)) := by
      rw [World.execute, World.gatewayResponded,
        World.handleServiceRequestFeePaymentGatewayResponded]
      exact if_neg hasPaid
    have own : (paid.wait 0).transition (.gatewayResponded (some .fee)) =
        some (.pay (paid.repository.lookup paid.request.id .fee)) := if_neg hasPaid
    have rebuilt := World.rebuilt_of_execute executed own
    rw [World.LastSucceeded, rebuilt.lastResponse, Transition.response, sameRequest, lookup]
    rfl

end Payment

/-- The request is paid for and open. -/
structure World.Open (world : World) : Prop where
  recoverable : world.Recoverable
  paid : world.loaded.hasCustomerPaid = true
  lastSucceeded : world.LastSucceeded
  lastEvent : world.loaded.lastEvent = none
  allocationStatus : world.loaded.allocationStatus = .unassigned

theorem World.Recoverable.run (environment : Environment) {world : World}
    (recoverable : world.Recoverable) (actions : List Timed) :
    (run (World.step environment) world actions).Recoverable :=
  preserved_run _ World.Recoverable (fun _ action before => before.step action) world actions
    recoverable

/-- A request that is restarted, paid for and restarted again is open. -/
theorem World.Recoverable.exists_open (environment : Environment) {world : World}
    (recoverable : world.Recoverable) :
    ∃ actions : List Timed, actions.length = 4 ∧
      (Execution.run (World.step environment) world actions).Open := by
  let restart : Timed := ⟨0, .initiateAutoAssignment⟩
  let restarted := world.step environment restart
  have told : restarted.loaded.hasCustomerPaid = true → restarted.LastSucceeded := fun paid => by
    have rebuilt := world.rebuilt_restart environment
    rw [World.LastSucceeded, rebuilt.lastResponse]
    exact (rebuilt.hasCustomerPaid (by simp)).mp paid
  obtain ⟨transactionId, fresh⟩ := restarted.repository.exists_newTransaction
  let payment : List Timed :=
    [restarted.payFee transactionId, ⟨0, .gatewayResponded (some .fee)⟩]
  let paid := Execution.run (World.step environment) restarted payment
  have succeeded : paid.LastSucceeded := (recoverable.step restart).lastSucceeded_pay told fresh
  have rebuilt := paid.rebuilt_restart environment
  refine ⟨restart :: payment ++ [restart], rfl, recoverable.run environment _, ?_, ?_,
    rebuilt.lastEvent, rebuilt.allocationStatus⟩
  · exact (rebuilt.hasCustomerPaid (by simp)).mpr succeeded
  · exact (congrArg calculatePaymentStatus rebuilt.lastResponse).trans succeeded

/-! ### Handling a job to its end -/

/-- The answer that finds a contractor. -/
def ProviderAnswer.of (contractor : ServiceProvider) : ProviderAnswer :=
  ⟨contractor.id, some contractor, fun _ found => by cases found; rfl⟩

/-- A contractor is on the job, and nothing but the handling is left to do. -/
structure World.Underway (world : World) (contractor : ServiceProvider)
    (status : ServiceStatusEnum) : Prop where
  recoverable : world.Recoverable
  status : world.loaded.status = status
  allocationStatus : world.loaded.allocationStatus = .allocated
  dispatcherId : world.loaded.dispatcherId = some contractor.id
  workerId : world.loaded.workerId = some contractor.id
  reports : world.request.customerOrder.haveCompletedAllTechnicalReports = true

theorem ServiceProvider.isIndependent_only {contractor : ServiceProvider}
    (independent : contractor.isIndependent = true) :
    contractor.isWorker = false ∧ contractor.isDealer = false := by
  rw [ServiceProvider.isIndependent, decide_eq_true_iff] at independent
  rw [ServiceProvider.isWorker, ServiceProvider.isDealer, independent]
  exact ⟨rfl, rfl⟩

theorem World.Open.assigns {world : World} (isOpen : world.Open) {contractor : ServiceProvider}
    (independent : contractor.isIndependent = true) :
    world.load.assignToDispatcher contractor =
      .ok { world.load with
        service := Transition.apply world.loaded
          (.assign contractor world.request.serviceSchedule) } := by
  have taken : world.load.service.hasBeenAssignedOrAllocated = false :=
    decide_eq_false (not_not.mpr isOpen.allocationStatus)
  have paid : world.load.hasCustomerPaid .fee = true := isOpen.paid
  have notWorker := (ServiceProvider.isIndependent_only independent).1
  rw [ServiceRequest.assignToDispatcher, taken, paid, notWorker, independent]
  simp only [Transition.apply, Transition.rebuild, Transition.provider, independent,
    Bool.false_and, Bool.not_true, Bool.and_false, Bool.false_eq_true, if_false, if_true]
  rfl

theorem World.Open.manuallyAssign {world : World} (isOpen : world.Open)
    {contractor : ServiceProvider} (independent : contractor.isIndependent = true) :
    (world.wait 0).execute environment (.manuallyAssign (.of contractor) ⟨0, none⟩) =
      .ok ((world.wait 0).save environment { world.load with
        service := Transition.apply world.loaded
          (.assign contractor world.request.serviceSchedule) }) := by
  have assigns : (world.wait 0).load.assignToDispatcher contractor = _ :=
    isOpen.assigns independent
  have notDealer := (ServiceProvider.isIndependent_only independent).2
  rw [World.execute, World.manuallyAssign, ProviderAnswer.get, ProviderAnswer.of]
  simp only [Occupancy.check, notDealer, assigns, bind, Except.bind, Bool.false_eq_true, if_false]
  rfl

/-- An open job is assigned to a contractor, and its reports are completed. -/
theorem World.Open.exists_underway (environment : Environment) {world : World}
    (isOpen : world.Open) {contractor : ServiceProvider}
    (independent : contractor.isIndependent = true) :
    ∃ actions : List Timed, actions.length = 2 ∧
      (run (World.step environment) world actions).Underway contractor .allocated := by
  let assign : Timed := ⟨0, .manuallyAssign (.of contractor) ⟨0, none⟩⟩
  let assigned := world.step environment assign
  let revise : Timed :=
    ⟨0, .reviseCustomerOrder
      { assigned.request.customerOrder with haveCompletedAllTechnicalReports := true }⟩
  have rebuilt : Rebuilt environment world.loaded
      (.assign contractor world.request.serviceSchedule) assigned.loaded :=
    World.rebuilt_of_execute (isOpen.manuallyAssign independent) rfl
  have kept : (assigned.step environment revise).loaded = assigned.loaded := by
    have effect : World.Effect environment (assigned.wait 0) revise.operation
        (assigned.step environment revise) := World.execute_effect rfl
    exact effect.stores
  have provider : Transition.provider world.loaded
      (.assign contractor world.request.serviceSchedule) =
        some ⟨some (.ofServiceProvider contractor), some (.ofServiceProvider contractor),
          some (Service.scheduleOf world.request.serviceSchedule)⟩ := if_pos independent
  have dispatcherId : assigned.loaded.dispatcherId = some contractor.id := by
    rw [Service.dispatcherId, rebuilt.provider, provider,
      Provider.persist_dispatcherId _ _ _ (by simp)]
    rfl
  have workerId : assigned.loaded.workerId = some contractor.id := by
    rw [Service.workerId, rebuilt.provider, provider, Provider.persist_workerId _ _ _ (by simp)]
    rfl
  have allocated : assigned.loaded.allocationStatus = .allocated := by
    rw [rebuilt.allocationStatus, provider]
    rfl
  have status : assigned.loaded.status = .allocated := by
    have paid : calculatePaymentStatus (Transition.response world.loaded
        (.assign contractor world.request.serviceSchedule)) = .succeeded := isOpen.lastSucceeded
    rw [rebuilt.status]
    show calculateStatus world.loaded.lastEvent world.loaded.isPrepaid _ _ = _
    rw [isOpen.lastEvent, paid, provider]
    cases world.loaded.isPrepaid <;> rfl
  refine ⟨[assign, revise], rfl, isOpen.recoverable.run environment _, ?_, ?_, ?_, ?_, rfl⟩
  · exact (congrArg Service.status kept).trans status
  · exact (congrArg Service.allocationStatus kept).trans allocated
  · exact (congrArg Service.dispatcherId kept).trans dispatcherId
  · exact (congrArg Service.workerId kept).trans workerId

/-- The status from which an event is the next one. -/
def HandlingEventTypeEnum.before : HandlingEventTypeEnum → ServiceStatusEnum
  | .start => .allocated
  | .inProgress => .started
  | .fullfil => .inProgress

theorem World.Underway.next {world : World} {contractor : ServiceProvider}
    {type : HandlingEventTypeEnum} (underway : world.Underway contractor type.before) :
    world.loaded.nextHandlingEventType = .ok type := by
  rw [Service.nextHandlingEventType, Service.hasBeenFulfilled,
    Service.hasBeenAssignedButNotAllocated, underway.status, underway.allocationStatus]
  cases type <;> rfl

theorem World.handle_eq_ok {world : World} {input : HandlingEventInput}
    {type : HandlingEventTypeEnum}
    (inTime : world.load.hasSurpassedHourLimitBeforeJobIsAllowedToStart world.clock = true)
    (next : world.loaded.nextHandlingEventType = .ok type)
    (complete : World.checkCompletion environment world.load input = .ok ()) :
    world.execute environment (.handle input) =
      .ok (World.save environment
        { world with handlingEvents := world.handlingEvents ++ [world.handlingEvent input type] }
        (world.load.deriveServiceProgress
          (world.handlingEvents ++ [world.handlingEvent input type]) world.clock)) := by
  have nextToo : world.load.service.nextHandlingEventType = .ok type := next
  rw [World.execute, World.handle]
  simp only [inTime, nextToo, complete, bind, Except.bind, Bool.not_true, Bool.false_eq_true,
    if_false]
  split <;> rfl

/-- What a contractor hands in with an event. -/
def World.handlingInput (world : World) (contractor : ServiceProvider) : HandlingEventInput :=
  ⟨0, 0, contractor.id, world.request.verificationCode.getD ""⟩

theorem World.Underway.complete {world : World} {contractor : ServiceProvider}
    {status : ServiceStatusEnum} (underway : world.Underway contractor status) :
    World.checkCompletion environment world.load (world.handlingInput contractor) = .ok () := by
  have recoverable := underway.recoverable
  obtain ⟨code, isCode⟩ := Option.isSome_iff_exists.mp recoverable.verificationCode
  have given : world.load.verificationCode =
      some (world.handlingInput contractor).verificationCode := by
    rw [World.handlingInput, isCode]
    exact isCode
  have reports : world.load.customerOrder.haveCompletedAllTechnicalReports = true :=
    underway.reports
  rw [World.checkCompletion, if_neg fun wrong => wrong.1 given, reports]
  rfl

/-- A contractor on the job hands in the next event. -/
theorem World.Underway.handle (environment : Environment) {world : World}
    {contractor : ServiceProvider} {type : HandlingEventTypeEnum}
    (underway : world.Underway contractor type.before) {elapsed : Nat}
    (inTime : world.load.hasSurpassedHourLimitBeforeJobIsAllowedToStart
      (world.clock + elapsed) = true) :
    let after := world.step environment ⟨elapsed, .handle (world.handlingInput contractor)⟩
    after.Underway contractor type.status ∧
      after.load.hasSurpassedHourLimitBeforeJobIsAllowedToStart after.clock = true := by
  have executed : (world.wait elapsed).execute environment
      (.handle (world.handlingInput contractor)) = .ok _ :=
    World.handle_eq_ok inTime underway.next underway.complete
  have own : (world.wait elapsed).transition (.handle (world.handlingInput contractor)) =
      some (.progress (world.handlingEvents ++
        [(world.wait elapsed).handlingEvent (world.handlingInput contractor) type])) := by
    show some (Transition.progress (World.eventsAfter _ _)) = _
    have next : (world.wait elapsed).loaded.nextHandlingEventType = .ok type := underway.next
    rw [World.eventsAfter, next]
    rfl
  have rebuilt := World.rebuilt_of_execute executed own
  have last : HandlingHistory.mostRecentlyCompletedEvent (world.handlingEvents ++
      [(world.wait elapsed).handlingEvent (world.handlingInput contractor) type]) =
        some ((world.wait elapsed).handlingEvent (world.handlingInput contractor) type) :=
    latest_append _ _ _ fun event member =>
      (underway.recoverable.handlingEvents event member).trans
        (Int.le_add_of_nonneg_right (Int.natCast_nonneg _))
  obtain ⟨sameDispatcher, sameWorker⟩ := rebuilt.sameProvider rfl
  have allocated : calculateAllocationStatus world.loaded.provider = .allocated := by
    rw [calculateAllocationStatus_eq, show world.loaded.provider.bind (·.dispatcherId) = _ from
      underway.dispatcherId, show world.loaded.provider.bind (·.workerId) = _ from
      underway.workerId]
  refine ⟨⟨underway.recoverable.step _, ?_, rebuilt.allocationStatus.trans allocated,
    sameDispatcher.trans underway.dispatcherId, sameWorker.trans underway.workerId, ?_⟩, ?_⟩
  · refine rebuilt.status.trans (calculateStatus_of_event ?_)
    rw [Transition.lastEvent, last]
    rfl
  · rw [World.step_of_execute executed]
    exact underway.reports
  · rw [World.step_of_execute executed]
    exact inTime

/-- Whenever a job is to start, there is a time from which on it may. -/
theorem ServiceRequest.exists_inTime (request : ServiceRequest) (now : Time) :
    ∃ elapsed : Nat,
      request.hasSurpassedHourLimitBeforeJobIsAllowedToStart (now + elapsed) = true := by
  obtain ⟨hours, enough⟩ :=
    exists_nat_ge (-(request.config.hourLimitBeforeJobIsAllowedToStart : Rat))
  obtain ⟨elapsed, isElapsed⟩ : ∃ elapsed : Nat, elapsed =
      (request.appointment.expectedArrivalPeriod.start - now).toNat + hours * 3600000 := ⟨_, rfl⟩
  refine ⟨elapsed, decide_eq_true ?_⟩
  generalize request.appointment.expectedArrivalPeriod.start = start at *
  have late : diffHours start (now + elapsed) ≤ -(hours : Int) := by
    have far : (hours : Int) * 3600000 ≤ (now + elapsed) - start := by omega
    have nonneg : (0 : Int) ≤ (now + elapsed) - start := by omega
    rw [diffHours, ← Int.neg_sub, Int.neg_tdiv, Int.tdiv_eq_ediv_of_nonneg nonneg]
    omega
  have asRat : ((diffHours start (now + elapsed) : Int) : Rat) ≤ ((-(hours : Int) : Int) : Rat) :=
    Int.cast_le.mpr late
  refine asRat.trans ?_
  rw [Int.cast_neg, Int.cast_natCast]
  exact neg_le.mp enough

/-- A contractor on the job brings it to its end. -/
theorem World.Underway.exists_ending (environment : Environment) {world : World}
    {contractor : ServiceProvider} (underway : world.Underway contractor .allocated) :
    ∃ actions : List Timed, actions.length = 3 ∧
      (run (World.step environment) world actions).Underway contractor .fulfilled := by
  have hands : ∀ {state : World} (type : HandlingEventTypeEnum) {elapsed : Nat},
      state.Underway contractor type.before →
        state.load.hasSurpassedHourLimitBeforeJobIsAllowedToStart (state.clock + elapsed) = true →
        ∃ action : Timed, (state.step environment action).Underway contractor type.status ∧
          (state.step environment action).load.hasSurpassedHourLimitBeforeJobIsAllowedToStart
            ((state.step environment action).clock + (0 : Nat)) = true := by
    intro state type elapsed underway inTime
    obtain ⟨next, still⟩ := underway.handle environment inTime
    refine ⟨_, next, ?_⟩
    rwa [Int.natCast_zero, Int.add_zero]
  obtain ⟨elapsed, inTime⟩ := world.load.exists_inTime world.clock
  obtain ⟨start, started, inTime⟩ := hands .start underway inTime
  obtain ⟨proceed, inProgress, inTime⟩ := hands .inProgress started inTime
  obtain ⟨fulfil, fulfilled, -⟩ := hands .fullfil inProgress inTime
  exact ⟨[start, proceed, fulfil], rfl, fulfilled⟩

/-- No request is ever stuck: whatever has happened to it, nine operations bring it to its end,
with any contractor there is. -/
theorem exists_recovery {environment : Environment} {input : ServiceRequestInput} {now : Time}
    {request : ServiceRequest}
    (created : ServiceRequest.create environment input now = .ok request)
    (plain : paymentRefNoDelimiter ∉ input.id.toList) (actions : List Timed)
    {contractor : ServiceProvider} (independent : contractor.isIndependent = true) :
    ∃ recovery : List Timed, recovery.length = 9 ∧
      let world := run (World.step environment) (.opened request .empty) (actions ++ recovery)
      world.request.service.status = .fulfilled ∧
        world.request.service.dispatcherId = some contractor.id := by
  have opened : (World.opened request .empty).Recoverable := by
    obtain ⟨appointment, -, rest⟩ := bind_eq_ok created
    cases rest
    exact
      { verificationCode := rfl
        id := plain
        handlingEvents := fun event member => nomatch member
        responses := fun row member => nomatch member }
  obtain ⟨restart, fourLong, isOpen⟩ :=
    (opened.run environment actions).exists_open environment
  obtain ⟨assign, twoLong, underway⟩ := isOpen.exists_underway environment independent
  obtain ⟨handle, threeLong, fulfilled⟩ := underway.exists_ending environment
  refine ⟨restart ++ assign ++ handle, ?_, ?_⟩
  · rw [List.length_append, List.length_append, fourLong, twoLong, threeLong]
  · dsimp only
    rw [run_append, run_append, run_append]
    exact ⟨fulfilled.status, fulfilled.dispatcherId⟩

/-- A request that expired and was marked as failed afterwards. -/
theorem exists_recovery_failed :
    ∃ recovery : List Timed, recovery.length = 9 ∧
      let world := run (World.step exampleEnvironment) (.opened exampleRequest .empty)
        ([⟨1000, .expire⟩, ⟨1000, .revoke true⟩] ++ recovery)
      world.request.service.status = .fulfilled ∧
        world.request.service.dispatcherId = some exampleContractor.id :=
  exists_recovery exampleRequest_created (by decide) _ rfl

end FieldService
