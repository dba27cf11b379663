/-
This file settles which copy of a request is told about after it has been rescheduled.

Three methods reschedule a request in memory, save it, read it once more and publish the copy
they have read. Two of them wait for the save before they read. The third, with which an
administrator changes the specification, starts the save and goes on, so the save and the
reading complete in any order. A rescheduling is modelled from the moment its entity has been
changed: what is being saved, whether a reading is to come, and which copies have been handed
out so far.
-/

import FieldService.Lifecycle.Steps

namespace FieldService

open Execution

/-! ### Rescheduling, up to the save -/

/-- A method under way that has rescheduled an entity in memory. -/
structure Rescheduling where
  world : World
  /-- The entity whose save has not completed. -/
  saving : Option ServiceRequest
  /-- The method reads the request once more and publishes it. -/
  rereads : Bool
  /-- The method waits for the save first. -/
  awaitsSave : Bool
  /-- The method queues its reminders after the event. -/
  remindsLater : Bool
  /-- The requests the `ServiceRequestRescheduledEvent`s carry. -/
  published : List ServiceRequest
  /-- The requests the reminder jobs carry. -/
  reminded : List ServiceRequest

/-- `addToReminders` queues two jobs. -/
def addToReminders (serviceRequest : ServiceRequest) : List ServiceRequest :=
  [serviceRequest, serviceRequest]

/-- What makes a method reschedule a request. -/
inductive RescheduleTrigger where
  /-- `ServiceRequestService.reschedule`. -/
  | reschedule (start finish : Time)
  /-- `handleEcRescheduleSurchargePayementGatewayResponded`. -/
  | surchargeResponded
  /-- `ServiceRequestService.adminChangeSpecification`. -/
  | adminChangeSpecification (expectedArrivalPeriod : Period)

/-- The operation whose method it is. -/
def RescheduleTrigger.operation : RescheduleTrigger → Operation
  | .reschedule start finish => .reschedule start finish
  | .surchargeResponded => .gatewayResponded (some .ecRescheduleSurcharge)
  | .adminChangeSpecification expectedArrivalPeriod =>
    .adminChangeSpecification expectedArrivalPeriod

namespace World

variable (environment : Environment) (world : World)

/-- The start of `ServiceRequestService.reschedule`. Its reminders come before the save. -/
def beginReschedule (start finish : Time) : Except AppError Rescheduling :=
  let saved (serviceRequest : ServiceRequest) (reminded : List ServiceRequest) : Rescheduling :=
    { world := world
      saving := some serviceRequest
      rereads := serviceRequest.hasBeenRescheduledOnce
      awaitsSave := true
      remindsLater := false
      published := []
      reminded := reminded }
  match world.load.createCustomerRescheduleOrder environment ⟨start, finish, 8⟩ world.clock with
  | (ordered, some .unableToRescheduleServiceRequestDueToUnpaidSurcharge) => .ok (saved ordered [])
  | (_, some error) => .error error
  | (ordered, none) =>
    match ordered.executeCustomerRescheduleOrder environment .undefined world.clock with
    | (executed, some .unableToRescheduleServiceRequestDueToUnpaidSurcharge) =>
      .ok (saved executed [])
    | (_, some error) => .error error
    | (executed, none) =>
      .ok (saved executed
        (if world.load.hasAppointmentStartTimeChanged start then addToReminders executed else []))

/-- The start of `handleEcRescheduleSurchargePayementGatewayResponded`; nothing is left to do
when the surcharge has been paid. -/
def beginSurchargeResponded : Except AppError (Option Rescheduling) :=
  if world.load.hasCustomerPaid .ecRescheduleSurcharge then .ok none
  else
    match world.load.executeCustomerRescheduleOrder environment
        (.given (world.repository.lookup world.request.id .ecRescheduleSurcharge))
        world.clock with
    | (_, some error) => .error error
    | (executed, none) =>
      .ok (some
        { world := world
          saving := some executed
          rereads := executed.hasBeenRescheduledOnce
          awaitsSave := true
          remindsLater := false
          published := []
          reminded := [] })

/-- The start of `ServiceRequestService.adminChangeSpecification`. The promise of the save is
kept for the result and not awaited. -/
def beginAdminChangeSpecification (expectedArrivalPeriod : Period) :
    Except AppError Rescheduling := do
  let changed ← world.load.adminChangeSpecification environment expectedArrivalPeriod world.clock
  return {
    world := world
    saving := some changed
    rereads := world.load.hasAppointmentStartTimeChanged expectedArrivalPeriod.start
    awaitsSave := false
    remindsLater := true
    published := []
    reminded := [] }

def beginRescheduling : RescheduleTrigger → Except AppError (Option Rescheduling)
  | .reschedule start finish => do return some (← world.beginReschedule environment start finish)
  | .surchargeResponded => world.beginSurchargeResponded environment
  | .adminChangeSpecification expectedArrivalPeriod => do
    return some (← world.beginAdminChangeSpecification environment expectedArrivalPeriod)

end World

/-! ### The save and the reading -/

/-- A call to the database that completes. -/
inductive Completion where
  | save
  | reread
  deriving DecidableEq, Repr

namespace Rescheduling

/-- The reading can take place. -/
def mayReread (rescheduling : Rescheduling) : Bool :=
  rescheduling.rereads && (rescheduling.saving.isNone || !rescheduling.awaitsSave)

def step (environment : Environment) (rescheduling : Rescheduling) : Completion → Rescheduling
  | .save =>
    match rescheduling.saving with
    | none => rescheduling
    | some entity =>
      { rescheduling with world := rescheduling.world.save environment entity, saving := none }
  | .reread =>
    if rescheduling.mayReread then
      { rescheduling with
        rereads := false
        published := rescheduling.published ++ [rescheduling.world.load]
        reminded :=
          if rescheduling.remindsLater then
            rescheduling.reminded ++ addToReminders rescheduling.world.load
          else rescheduling.reminded }
    else rescheduling

/-- The reading does not take place while the save is under way. -/
def ReadsSaved (rescheduling : Rescheduling) : Completion → Prop
  | .reread => rescheduling.mayReread = true → rescheduling.saving = none
  | .save => True

instance (rescheduling : Rescheduling) (completion : Completion) :
    Decidable (rescheduling.ReadsSaved completion) :=
  match completion with
  | .reread => inferInstanceAs (Decidable (_ → _))
  | .save => inferInstanceAs (Decidable True)

end Rescheduling

/-! ### The new appointment -/

/-- When the customer is to be visited after all. -/
def RescheduleTrigger.newArrivalStart (world : World) : RescheduleTrigger → Option Time
  | .reschedule start _ => some start
  | .surchargeResponded =>
    world.request.getCustomerRescheduleOrder.newExpectedArrivalPeriod.map (·.start)
  | .adminChangeSpecification expectedArrivalPeriod => some expectedArrivalPeriod.start

/-- The request has the new arrival start and nobody to perform it. -/
structure ServiceRequest.IsRescheduledTo (request : ServiceRequest) (start : Option Time) :
    Prop where
  arrival : some request.appointment.expectedArrivalPeriod.start = start
  dispatcher : request.service.dispatcherId = none
  worker : request.service.workerId = none

/-- Every request that an event or a reminder carries has the new appointment. -/
def Rescheduling.CarriesNew (start : Option Time) (rescheduling : Rescheduling) : Prop :=
  ∀ request ∈ rescheduling.published ++ rescheduling.reminded, request.IsRescheduledTo start

/-! ### What a rescheduling has in memory -/

theorem Appointment.create_start {environment : Environment} {period : Period}
    {totalServiceMinutes : Int} {now : Time} {appointment : Appointment}
    (created : Appointment.create environment period totalServiceMinutes now = .ok appointment) :
    appointment.expectedArrivalPeriod.start = period.start := by
  unfold Appointment.create at created
  split at created <;> cases created
  rfl

namespace ServiceRequest

/-- An order that has been filed asks for the new arrival start and has not been executed. -/
theorem createCustomerRescheduleOrder_asks {environment : Environment}
    {request ordered : ServiceRequest} {period : Period} {now : Time} {thrown : Option AppError}
    (files : request.createCustomerRescheduleOrder environment period now = (ordered, thrown))
    (filed : thrown = none ∨ thrown = some .unableToRescheduleServiceRequestDueToUnpaidSurcharge) :
    ordered.hasBeenRescheduledOnce = false ∧
      ordered.getCustomerRescheduleOrder.newExpectedArrivalPeriod.map (·.start) =
        some period.start := by
  unfold createCustomerRescheduleOrder at files
  split at files
  · cases files
    rcases filed with same | same <;> cases same
  split at files
  · cases files
    rcases filed with same | same <;> cases same
  split at files
  · rename_i error trial
    cases files
    unfold Appointment.create at trial
    split at trial
    · cases trial
      rcases filed with same | same <;> cases same
    · cases trial
  · rename_i appointment trial
    have start := congrArg some (Appointment.create_start trial)
    split at files <;> cases files <;> exact ⟨rfl, start⟩

/-- The order that is executed is the one that was filed, and it sets the arrival start. -/
theorem executeCustomerRescheduleOrder_start {environment : Environment}
    {request after : ServiceRequest} {history : HistoryArgument} {now : Time}
    (returns : request.executeCustomerRescheduleOrder environment history now = (after, none)) :
    some after.appointment.expectedArrivalPeriod.start =
        request.getCustomerRescheduleOrder.newExpectedArrivalPeriod.map (·.start) ∧
      after.service.provider = some .createEmptyProvider := by
  obtain ⟨complete, unpaid, -⟩ := executeCustomerRescheduleOrder_returns returns
  unfold executeCustomerRescheduleOrder at returns
  rw [complete, unpaid] at returns
  simp only [Bool.false_eq_true, if_false] at returns
  split at returns
  · cases returns
  rename_i order executes
  obtain ⟨sameEmpty, sameNew, -⟩ := execute_keeps executes
  obtain ⟨period, createdAt, appointment, asked, -, made, rfl⟩ :=
    rescheduleAsOrdered_returns (sameEmpty.trans complete) returns
  rw [← sameNew, asked]
  exact ⟨congrArg some (Appointment.create_start made), rfl⟩

/-- An entity is made for an arrival start: it has it, and its provider is let go. -/
structure IsMadeFor (request : ServiceRequest) (start : Option Time) : Prop where
  arrival : some request.appointment.expectedArrivalPeriod.start = start
  terminated : request.service.provider = some .createEmptyProvider

theorem IsMadeFor.isRescheduledTo {request : ServiceRequest} {start : Option Time}
    (made : request.IsMadeFor start) : request.IsRescheduledTo start := by
  refine ⟨made.arrival, ?_, ?_⟩
  · rw [Service.dispatcherId, made.terminated]
    rfl
  · rw [Service.workerId, made.terminated]
    rfl

/-- What has been saved is read. -/
theorem IsMadeFor.save {request : ServiceRequest} {start : Option Time}
    (made : request.IsMadeFor start) (environment : Environment) (world : World) :
    (world.save environment request).load.IsRescheduledTo start := by
  have provider : (world.save environment request).load.service.provider =
      Provider.persist environment.nullEmbedded world.request.service.provider
        (some .createEmptyProvider) := by
    rw [← made.terminated]
    rfl
  refine ⟨made.arrival, ?_, ?_⟩
  · rw [Service.dispatcherId, provider,
      Provider.persist_dispatcherId _ _ _ (by simp [Provider.createEmptyProvider])]
    rfl
  · rw [Service.workerId, provider,
      Provider.persist_workerId _ _ _ (by simp [Provider.createEmptyProvider])]
    rfl

end ServiceRequest

namespace Rescheduling

/-- What holds while a rescheduling is under way, as long as its reading is to come: the entity
that is being saved is made for the new start, and after the save so is the stored request;
before it, a method that does not wait would read an old one. -/
structure Underway (start : Option Time) (rescheduling : Rescheduling) : Prop where
  pending : rescheduling.rereads = true → ∀ entity ∈ rescheduling.saving, entity.IsMadeFor start
  saved : rescheduling.rereads = true → rescheduling.saving = none →
    rescheduling.world.load.IsRescheduledTo start
  stale : rescheduling.rereads = true → rescheduling.awaitsSave = false →
    rescheduling.saving ≠ none →
      some rescheduling.world.request.appointment.expectedArrivalPeriod.start ≠ start

theorem underway_step {start : Option Time} {rescheduling : Rescheduling}
    (environment : Environment) (underway : rescheduling.Underway start)
    (completion : Completion) : (rescheduling.step environment completion).Underway start := by
  cases completion with
  | save =>
    rw [step]
    rcases waiting : rescheduling.saving with _ | entity
    · exact underway
    · refine ⟨fun _ other member => ?_, fun rereads _ => ?_, fun _ _ saving => absurd rfl saving⟩
      · cases member
      · exact (underway.pending rereads entity waiting).save environment rescheduling.world
  | reread =>
    rw [step]
    split
    · constructor <;> intro rereads <;> cases rereads
    · exact underway

/-- A completion keeps to the new appointment exactly if it is not a reading before the save. -/
theorem carriesNew_step_iff {start : Option Time} {rescheduling : Rescheduling}
    (environment : Environment) (underway : rescheduling.Underway start)
    (carries : rescheduling.CarriesNew start) (completion : Completion) :
    (rescheduling.step environment completion).CarriesNew start ↔
      rescheduling.ReadsSaved completion := by
  cases completion with
  | save =>
    refine iff_of_true ?_ trivial
    rw [step]
    split <;> exact carries
  | reread =>
    rw [step, ReadsSaved]
    by_cases may : rescheduling.mayReread = true
    swap
    · rw [if_neg may]
      exact iff_of_true carries fun reads => absurd reads may
    rw [if_pos may]
    obtain ⟨rereads, idle⟩ := (Bool.and_eq_true _ _).mp may
    constructor
    · intro kept _
      by_contra saving
      have goesOn : rescheduling.awaitsSave = false := by
        rcases (Bool.or_eq_true _ _).mp idle with none | notWaiting
        · exact absurd (Option.isNone_iff_eq_none.mp none) saving
        · simpa using notWaiting
      have read : rescheduling.world.load ∈
          rescheduling.published ++ [rescheduling.world.load] :=
        List.mem_append_right _ List.mem_cons_self
      exact underway.stale rereads goesOn saving
        (kept rescheduling.world.load (List.mem_append_left _ read)).arrival
    · intro reads request member
      have fresh := underway.saved rereads (reads may)
      have handed : request ∈ rescheduling.published ++ rescheduling.reminded ∨
          request = rescheduling.world.load := by
        simp only [List.mem_append, List.mem_singleton] at member ⊢
        rcases member with (before | same) | reminded
        · exact Or.inl (Or.inl before)
        · exact Or.inr same
        · split at reminded
          · rcases List.mem_append.mp reminded with before | same
            · exact Or.inl (Or.inr before)
            · exact Or.inr (by simpa [addToReminders] using same)
          · exact Or.inl (Or.inr reminded)
      rcases handed with before | rfl
      · exact carries request before
      · exact fresh

end Rescheduling

/-! ### The three methods -/

section

variable {environment : Environment} {world : World} {rescheduling : Rescheduling}

theorem Rescheduling.underway_of_pending {start : Option Time}
    (saving : rescheduling.saving ≠ none)
    (pending : rescheduling.rereads = true →
      ∀ entity ∈ rescheduling.saving, entity.IsMadeFor start)
    (awaits : rescheduling.awaitsSave = true) : rescheduling.Underway start :=
  ⟨pending, fun _ saved => absurd saved saving, fun _ goesOn => by
    rw [awaits] at goesOn
    cases goesOn⟩

theorem World.beginReschedule_underway {start finish : Time}
    (begun : world.beginReschedule environment start finish = .ok rescheduling) :
    rescheduling.Underway (some start) ∧ rescheduling.CarriesNew (some start) ∧
      rescheduling.awaitsSave = true := by
  unfold World.beginReschedule at begun
  simp only at begun
  split at begun
  · rename_i ordered files
    cases begun
    have unexecuted := (ServiceRequest.createCustomerRescheduleOrder_asks files (Or.inr rfl)).1
    refine ⟨Rescheduling.underway_of_pending (Option.some_ne_none _) (fun rereads => ?_) rfl,
      ?_, rfl⟩
    · cases unexecuted.symm.trans rereads
    · intro request member
      cases member
  · cases begun
  rename_i ordered files
  have asks := (ServiceRequest.createCustomerRescheduleOrder_asks files (Or.inl rfl)).2
  split at begun
  · rename_i executed throws
    have unpaid := ServiceRequest.executeCustomerRescheduleOrder_unpaid throws
    simp [ServiceRequest.executionIsUnpaid] at unpaid
  · cases begun
  rename_i executed returns
  cases begun
  obtain ⟨arrival, terminated⟩ := ServiceRequest.executeCustomerRescheduleOrder_start returns
  have made : executed.IsMadeFor (some start) := ⟨arrival.trans asks, terminated⟩
  refine ⟨Rescheduling.underway_of_pending (Option.some_ne_none _) (fun _ entity saving => ?_) rfl,
    ?_, rfl⟩
  · cases saving
    exact made
  · intro request member
    have same : request = executed := by
      simp only [List.nil_append] at member
      split at member
      · simpa [addToReminders] using member
      · cases member
    rw [same]
    exact made.isRescheduledTo

theorem World.beginSurchargeResponded_underway
    (begun : world.beginSurchargeResponded environment = .ok (some rescheduling)) :
    rescheduling.Underway (RescheduleTrigger.surchargeResponded.newArrivalStart world) ∧
      rescheduling.CarriesNew (RescheduleTrigger.surchargeResponded.newArrivalStart world) ∧
      rescheduling.awaitsSave = true := by
  unfold World.beginSurchargeResponded at begun
  split at begun
  · cases begun
  split at begun
  · cases begun
  rename_i executed returns
  cases begun
  obtain ⟨arrival, terminated⟩ := ServiceRequest.executeCustomerRescheduleOrder_start returns
  refine ⟨Rescheduling.underway_of_pending (Option.some_ne_none _) (fun _ entity saving => ?_) rfl,
    ?_, rfl⟩
  · cases saving
    exact ⟨arrival, terminated⟩
  · intro request member
    cases member

theorem World.beginAdminChangeSpecification_underway {period : Period}
    (begun : world.beginAdminChangeSpecification environment period = .ok rescheduling) :
    rescheduling.Underway (some period.start) ∧ rescheduling.CarriesNew (some period.start) := by
  obtain ⟨changed, changes, rest⟩ := bind_eq_ok begun
  cases rest
  refine ⟨⟨fun moved entity saving => ?_, fun _ saved => absurd saved (Option.some_ne_none _),
    fun moved _ _ same => ?_⟩, fun request member => ?_⟩
  · cases saving
    rw [ServiceRequest.adminChangeSpecification, if_pos moved] at changes
    obtain ⟨appointment, made, rfl⟩ := ServiceRequest.reschedule_eq_ok changes
    exact ⟨congrArg some (Appointment.create_start made), rfl⟩
  · have unmoved : world.load.hasAppointmentStartTimeChanged period.start = false := by
      rw [ServiceRequest.hasAppointmentStartTimeChanged, Appointment.isExpectedArrivalTimeEqualTo]
      have equal : period.start = world.load.appointment.expectedArrivalPeriod.start :=
        (Option.some.inj same).symm
      simpa using equal
    cases unmoved.symm.trans moved
  · cases member

/-- Whatever has made it reschedule, a method that has begun is under way. -/
theorem World.beginRescheduling_underway {trigger : RescheduleTrigger}
    (begun : world.beginRescheduling environment trigger = .ok (some rescheduling)) :
    rescheduling.Underway (trigger.newArrivalStart world) ∧
      rescheduling.CarriesNew (trigger.newArrivalStart world) := by
  cases trigger with
  | reschedule start finish =>
    obtain ⟨made, begins, rest⟩ := bind_eq_ok begun
    cases rest
    obtain ⟨underway, carries, -⟩ := World.beginReschedule_underway begins
    exact ⟨underway, carries⟩
  | surchargeResponded =>
    obtain ⟨underway, carries, -⟩ := World.beginSurchargeResponded_underway begun
    exact ⟨underway, carries⟩
  | adminChangeSpecification period =>
    obtain ⟨made, begins, rest⟩ := bind_eq_ok begun
    cases rest
    exact World.beginAdminChangeSpecification_underway begins

theorem World.save_eq_reschedule {start finish : Time}
    (begun : world.beginReschedule environment start finish = .ok rescheduling) :
    world.reschedule environment start finish =
      .ok (rescheduling.step environment .save).world := by
  unfold World.beginReschedule at begun
  simp only at begun
  split at begun
  · rename_i ordered files
    cases begun
    rw [World.reschedule, files]
    rfl
  · cases begun
  rename_i ordered files
  split at begun
  · rename_i executed throws
    cases begun
    rw [World.reschedule, files]
    simp only
    rw [throws]
    rfl
  · cases begun
  rename_i executed returns
  cases begun
  rw [World.reschedule, files]
  simp only
  rw [returns]
  rfl

theorem World.save_eq_surchargeResponded
    (begun : world.beginSurchargeResponded environment = .ok (some rescheduling)) :
    world.handleEcRescheduleSurchargePayementGatewayResponded environment
        (world.repository.lookup world.request.id .ecRescheduleSurcharge) =
      .ok (rescheduling.step environment .save).world := by
  unfold World.beginSurchargeResponded at begun
  split at begun
  · cases begun
  rename_i unpaid
  split at begun
  · cases begun
  rename_i executed returns
  cases begun
  rw [World.handleEcRescheduleSurchargePayementGatewayResponded, if_neg unpaid, returns]
  rfl

theorem World.save_eq_adminChangeSpecification {period : Period}
    (begun : world.beginAdminChangeSpecification environment period = .ok rescheduling) :
    world.adminChangeSpecification environment period =
      .ok (rescheduling.step environment .save).world := by
  obtain ⟨changed, changes, rest⟩ := bind_eq_ok begun
  cases rest
  rw [World.adminChangeSpecification, changes]
  rfl

/-- When the save has completed, the store is as the operation leaves it. -/
theorem World.save_eq_execute {trigger : RescheduleTrigger}
    (begun : world.beginRescheduling environment trigger = .ok (some rescheduling)) :
    world.execute environment trigger.operation =
      .ok (rescheduling.step environment .save).world := by
  cases trigger with
  | reschedule start finish =>
    obtain ⟨made, begins, rest⟩ := bind_eq_ok begun
    cases rest
    exact World.save_eq_reschedule begins
  | surchargeResponded => exact World.save_eq_surchargeResponded begun
  | adminChangeSpecification period =>
    obtain ⟨made, begins, rest⟩ := bind_eq_ok begun
    cases rest
    exact World.save_eq_adminChangeSpecification begins

end

/-! ### Orders of completion -/

namespace Rescheduling

/-- What is handed out has the new appointment exactly if no reading overtakes the save. -/
theorem carries_iff_along {start : Option Time} {rescheduling : Rescheduling}
    (environment : Environment) (underway : rescheduling.Underway start)
    (carries : rescheduling.CarriesNew start) (completions : List Completion) :
    Throughout (step environment) (CarriesNew start) rescheduling completions ↔
      Along (step environment) ReadsSaved rescheduling completions := by
  exact throughout_iff_along _ _ (Underway start) _
    (fun _ completion underway => underway_step environment underway completion)
    (fun _ completion underway carries =>
      carriesNew_step_iff environment underway carries completion)
    _ _ underway carries

/-- A method that waits for its save goes on to wait, and reads only afterwards. -/
theorem awaitsSave_step {rescheduling : Rescheduling} (environment : Environment)
    (completion : Completion) (awaits : rescheduling.awaitsSave = true) :
    (rescheduling.step environment completion).awaitsSave = true := by
  cases completion with
  | save =>
    rw [step]
    split <;> exact awaits
  | reread =>
    rw [step]
    split <;> exact awaits

theorem readsSaved_of_awaits {rescheduling : Rescheduling} (completion : Completion)
    (awaits : rescheduling.awaitsSave = true) : rescheduling.ReadsSaved completion := by
  cases completion with
  | save => trivial
  | reread =>
    intro may
    rw [mayReread, awaits] at may
    simpa using ((Bool.and_eq_true _ _).mp may).2

end Rescheduling

/-- The two methods that wait for their save hand out the new appointment in every order. -/
theorem carriesNew_of_awaits {environment : Environment} {world : World}
    {trigger : RescheduleTrigger} {rescheduling : Rescheduling}
    (begun : world.beginRescheduling environment trigger = .ok (some rescheduling))
    (awaits : rescheduling.awaitsSave = true) (completions : List Completion) :
    Throughout (Rescheduling.step environment)
      (Rescheduling.CarriesNew (trigger.newArrivalStart world)) rescheduling completions := by
  obtain ⟨underway, carries⟩ := World.beginRescheduling_underway begun
  refine (Rescheduling.carries_iff_along environment underway carries completions).mpr ?_
  exact along_of_invariant _ (fun rescheduling => rescheduling.awaitsSave = true)
    (fun _ completion awaits _ => Rescheduling.awaitsSave_step environment completion awaits)
    (fun _ completion awaits _ => Rescheduling.readsSaved_of_awaits completion awaits)
    _ _ awaits (along_trivial _ _ _)

/-- For every order in which the save and the reading complete, the requests that are handed out
have the new arrival start and no provider exactly if the reading does not overtake the save. -/
theorem carriesNew_throughout_iff {environment : Environment} {world : World}
    {trigger : RescheduleTrigger} {rescheduling : Rescheduling}
    (begun : world.beginRescheduling environment trigger = .ok (some rescheduling))
    (completions : List Completion) :
    Throughout (Rescheduling.step environment)
        (Rescheduling.CarriesNew (trigger.newArrivalStart world)) rescheduling completions ↔
      Along (Rescheduling.step environment) Rescheduling.ReadsSaved rescheduling completions := by
  obtain ⟨underway, carries⟩ := World.beginRescheduling_underway begun
  exact Rescheduling.carries_iff_along environment underway carries completions

/-- The request of the example, which a contractor has accepted. -/
def exampleAcceptedWorld : World :=
  run (World.step exampleEnvironment) (.opened exampleRequest .empty) exampleAccepted

/-- An administrator moves its arrival. -/
def exampleChange : RescheduleTrigger :=
  .adminChangeSpecification ⟨400000000, 407200000, 8⟩

/-- The change of the administrator, begun. -/
def exampleRescheduling : Rescheduling where
  world := exampleAcceptedWorld
  saving :=
    (exampleAcceptedWorld.load.adminChangeSpecification exampleEnvironment
      ⟨400000000, 407200000, 8⟩ exampleAcceptedWorld.clock).toOption
  rereads := true
  awaitsSave := false
  remindsLater := true
  published := []
  reminded := []

theorem exampleRescheduling_begun :
    exampleAcceptedWorld.beginRescheduling exampleEnvironment exampleChange =
      .ok (some exampleRescheduling) := by
  have moves : exampleAcceptedWorld.load.hasAppointmentStartTimeChanged 400000000 = true := by
    decide +kernel
  have succeeds : exampleRescheduling.saving.isSome = true := by decide +kernel
  unfold exampleRescheduling at succeeds ⊢
  show (do return some (← exampleAcceptedWorld.beginAdminChangeSpecification exampleEnvironment
    ⟨400000000, 407200000, 8⟩)) = _
  unfold World.beginAdminChangeSpecification
  rcases changes : exampleAcceptedWorld.load.adminChangeSpecification exampleEnvironment
    ⟨400000000, 407200000, 8⟩ exampleAcceptedWorld.clock with error | changed
  · rw [changes] at succeeds
    cases succeeds
  · rw [← moves]
    rfl

theorem carriesNew_throughout_saved :
    Throughout (Rescheduling.step exampleEnvironment)
      (Rescheduling.CarriesNew (exampleChange.newArrivalStart exampleAcceptedWorld))
      exampleRescheduling [.save, .reread] := by
  refine (carriesNew_throughout_iff exampleRescheduling_begun _).mpr ?_
  decide +kernel

/-- When the reading completes first, the event and the reminders carry the old arrival. -/
theorem not_carriesNew_overtaken :
    ¬ Throughout (Rescheduling.step exampleEnvironment)
      (Rescheduling.CarriesNew (exampleChange.newArrivalStart exampleAcceptedWorld))
      exampleRescheduling [.reread, .save] := by
  intro throughout
  have carries := throughout [.reread] (by decide)
  have published : exampleAcceptedWorld.load ∈
      (exampleRescheduling.step exampleEnvironment .reread).published := by
    have mayReread : exampleRescheduling.mayReread = true := by decide +kernel
    rw [Rescheduling.step, if_pos mayReread]
    exact List.mem_singleton_self _
  have arrival := (carries _ (List.mem_append_left _ published)).arrival
  exact absurd arrival (by decide +kernel)

end FieldService
