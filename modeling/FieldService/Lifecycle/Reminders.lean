/-
This file settles when reminders of an appointment that has moved keep silent.

A request is queued as it stands, twice, when it is made and whenever its start moves, and no job is
taken back. So a job that runs compares the start it was queued for with the present one. It
compares them in one direction: a job whose start lies after the present one fails, and one whose
start lies before it announces the new appointment, in the name of the old.

What is left out is the delay of a job, which tells when it runs at the earliest. A job here runs at
any time, and again, as one does that is tried once more.
-/

import FieldService.Library.Rounding
import FieldService.Lifecycle.Rescheduled

namespace FieldService

open Execution

/-! ### The processor -/

structure PushNotifyScheduledJobReminderCommand where
  providerId : Option Uuid
  srDto : ServiceRequest
  countDownTillServiceStartInSeconds : Int

/-- The commands that `ReminderProcessor.process` executes. A provider that is loaded has an object
for its dispatcher and one for its worker, with or without an identifier. -/
def ReminderProcessor.process (cachedServiceRequestDto serviceRequest : ServiceRequest)
    (now : Time) : Except AppError (List PushNotifyScheduledJobReminderCommand) :=
  if 0 < cachedServiceRequestDto.serviceSchedule.start - serviceRequest.serviceSchedule.start then
    .error (.error "Appointment start time has been changed")
  else
    let countDownTillServiceStartInSeconds :=
      (serviceRequest.serviceSchedule.start - now).tdiv 1000
    let command (providerId : Option Uuid) : PushNotifyScheduledJobReminderCommand :=
      ⟨providerId, cachedServiceRequestDto, countDownTillServiceStartInSeconds⟩
    if countDownTillServiceStartInSeconds < 1 then .ok []
    else if !serviceRequest.service.hasBeenAssignedOrAllocated then .ok []
    else
      match serviceRequest.service.provider with
      | none => .error (.error "Cannot read property 'dispatcher' of null")
      | some provider =>
        if provider.workerId.isNone || provider.workerId = provider.dispatcherId then
          .ok [command provider.dispatcherId]
        else .ok [command provider.dispatcherId, command provider.workerId]

/-! ### The queue -/

/-- The rescheduling an operation is, if it is one. -/
def Operation.rescheduleTrigger : Operation → Option RescheduleTrigger
  | .reschedule start finish => some (.reschedule start finish)
  | .gatewayResponded (some .ecRescheduleSurcharge) => some .surchargeResponded
  | .adminChangeSpecification expectedArrivalPeriod =>
    some (.adminChangeSpecification expectedArrivalPeriod)
  | _ => none

/-- The requests that an operation queues, when its calls complete in the given order. -/
def World.queues (environment : Environment) (world : World) (operation : Operation)
    (completions : List Completion) : List ServiceRequest :=
  match operation.rescheduleTrigger.map (world.beginRescheduling environment) with
  | some (.ok (some rescheduling)) =>
    (run (Rescheduling.step environment) rescheduling completions).reminded
  | _ => []

/-- A command that a job has executed, and the request the job had found. -/
structure Reminder where
  found : ServiceRequest
  command : PushNotifyScheduledJobReminderCommand

/-- A request in its world, the jobs that have been queued for it and what they have sent. -/
structure Reminding where
  world : World
  queue : List ServiceRequest
  sent : List Reminder

namespace Reminding

inductive Action where
  /-- An operation on the request, with the order in which its calls complete. -/
  | operate (action : Timed) (completions : List Completion)
  /-- The job at a position of the queue runs after some time. -/
  | remind (elapsed position : Nat)

/-- The request has been made: `ServiceRequestService.create`. -/
def opened (request : ServiceRequest) (repository : PaymentGatewayResponseRepository) :
    Reminding where
  world := .opened request repository
  queue := if request.config.reminderEnabled then addToReminders request else []
  sent := []

variable (environment : Environment) (reminding : Reminding)

/-- `ReminderProcessor.handleReminder`, for the request a job carries. -/
def handleReminder (cachedServiceRequestDto : ServiceRequest) : Reminding :=
  let serviceRequest := reminding.world.load
  match ReminderProcessor.process cachedServiceRequestDto serviceRequest reminding.world.clock with
  | .error _ => reminding
  | .ok commands => { reminding with sent := reminding.sent ++ commands.map (⟨serviceRequest, ·⟩) }

/-- Time passes. -/
def wait (elapsed : Nat) : Reminding :=
  { reminding with world := reminding.world.wait elapsed }

def step : Action → Reminding
  | .operate action completions =>
    { reminding with
      world := reminding.world.step environment action
      queue := reminding.queue ++
        (reminding.world.wait action.elapsed).queues environment action.operation completions }
  | .remind elapsed position =>
    match reminding.queue[position]? with
    | none => reminding.wait elapsed
    | some cachedServiceRequestDto =>
      (reminding.wait elapsed).handleReminder cachedServiceRequestDto

/-! ### Silence -/

/-- Whatever has been sent was sent by a queued job, which found the start it was queued for. -/
structure Silent : Prop where
  queued : ∀ reminder ∈ reminding.sent, reminder.command.srDto ∈ reminding.queue
  current : ∀ reminder ∈ reminding.sent,
    reminder.command.srDto.serviceSchedule.start = reminder.found.serviceSchedule.start

/-- A job that runs at least a second before the start of an assigned job has not been queued for
an earlier start. -/
def NotPostponed : Action → Prop
  | .operate _ _ => True
  | .remind elapsed position =>
    ∀ cachedServiceRequestDto ∈ reminding.queue[position]?,
      reminding.world.clock + elapsed + 1000 ≤ reminding.world.request.serviceSchedule.start →
        reminding.world.request.service.hasBeenAssignedOrAllocated = true →
          reminding.world.request.serviceSchedule.start ≤
            cachedServiceRequestDto.serviceSchedule.start

instance (action : Action) : Decidable (reminding.NotPostponed action) :=
  match action with
  | .operate _ _ => inferInstanceAs (Decidable True)
  | .remind _ _ => Option.decidableForallMem _

end Reminding

/-! ### What a job sends -/

section

variable {cachedServiceRequestDto serviceRequest : ServiceRequest} {now : Time}

/-- Whole seconds are left exactly if one is. -/
theorem one_le_countDown_iff {start now : Time} :
    ¬(start - now).tdiv 1000 < 1 ↔ now + 1000 ≤ start := by
  rw [not_lt, Rounding.le_tdiv_iff (by decide) (by decide), if_neg one_ne_zero, one_mul,
    le_sub_iff_add_le']

/-- A command is about the request of the job, whose start is not behind the present one; that is at
least a second ahead, and the job has been assigned. -/
theorem ReminderProcessor.mem_process {commands : List PushNotifyScheduledJobReminderCommand}
    (processed : process cachedServiceRequestDto serviceRequest now = .ok commands)
    {command : PushNotifyScheduledJobReminderCommand} (member : command ∈ commands) :
    command.srDto = cachedServiceRequestDto ∧
      cachedServiceRequestDto.serviceSchedule.start ≤ serviceRequest.serviceSchedule.start ∧
      now + 1000 ≤ serviceRequest.serviceSchedule.start ∧
      serviceRequest.service.hasBeenAssignedOrAllocated = true := by
  unfold process at processed
  split at processed
  · cases processed
  rename_i unchanged
  simp only at processed
  split at processed
  · cases processed
    cases member
  rename_i ahead
  split at processed
  · cases processed
    cases member
  rename_i assigned
  refine ⟨?_, sub_nonpos.mp (not_lt.mp unchanged), one_le_countDown_iff.mp ahead,
    by simpa using assigned⟩
  split at processed
  · cases processed
  split at processed <;> cases processed
  · rw [List.mem_singleton.mp member]
  · obtain rfl | other := List.mem_cons.mp member
    · rfl
    · rw [List.mem_singleton.mp other]

/-- Where all that is so, a command is executed. -/
theorem ReminderProcessor.process_sends
    (unchanged : cachedServiceRequestDto.serviceSchedule.start ≤
      serviceRequest.serviceSchedule.start)
    (ahead : now + 1000 ≤ serviceRequest.serviceSchedule.start)
    (assigned : serviceRequest.service.hasBeenAssignedOrAllocated = true)
    (provided : serviceRequest.service.provider.isSome = true) :
    ∃ command commands,
      process cachedServiceRequestDto serviceRequest now = .ok (command :: commands) := by
  obtain ⟨provider, isProvider⟩ := Option.isSome_iff_exists.mp provided
  unfold process
  rw [if_neg (not_lt.mpr (sub_nonpos.mpr unchanged))]
  simp only
  rw [if_neg (one_le_countDown_iff.mpr ahead), assigned, isProvider]
  simp only [Bool.not_true, Bool.false_eq_true, if_false]
  split
  · exact ⟨_, _, rfl⟩
  · exact ⟨_, _, rfl⟩

end

/-- What has been sent after a job has run. -/
theorem Reminding.mem_sent_handleReminder {reminding : Reminding}
    {cachedServiceRequestDto : ServiceRequest} {reminder : Reminder} :
    reminder ∈ (reminding.handleReminder cachedServiceRequestDto).sent ↔
      reminder ∈ reminding.sent ∨
        ∃ commands, ReminderProcessor.process cachedServiceRequestDto reminding.world.load
            reminding.world.clock = .ok commands ∧
          reminder.found = reminding.world.load ∧ reminder.command ∈ commands := by
  unfold handleReminder
  simp only
  split
  · rename_i error fails
    refine ⟨Or.inl, ?_⟩
    rintro (before | ⟨commands, processed, -⟩)
    · exact before
    · cases fails.symm.trans processed
  · rename_i commands processed
    rw [List.mem_append, List.mem_map]
    refine or_congr_right ⟨?_, ?_⟩
    · rintro ⟨command, member, rfl⟩
      exact ⟨commands, processed, rfl, member⟩
    · rintro ⟨others, same, found, member⟩
      cases processed.symm.trans same
      exact ⟨reminder.command, member, by rw [← found]⟩

/-! ### Runs -/

namespace Reminding

variable {reminding : Reminding} (environment : Environment)

/-- The request has the service that its columns allow. -/
def Consistent (reminding : Reminding) : Prop :=
  reminding.world.request.service.Consistent

theorem world_handleReminder (cachedServiceRequestDto : ServiceRequest) :
    (reminding.handleReminder cachedServiceRequestDto).world = reminding.world := by
  unfold handleReminder
  simp only
  split <;> rfl

theorem queue_handleReminder (cachedServiceRequestDto : ServiceRequest) :
    (reminding.handleReminder cachedServiceRequestDto).queue = reminding.queue := by
  unfold handleReminder
  simp only
  split <;> rfl

theorem consistent_step (action : Action) (consistent : reminding.Consistent) :
    (reminding.step environment action).Consistent := by
  cases action with
  | operate action completions =>
    exact reminding.world.consistent_step environment action consistent
  | remind elapsed position =>
    rw [step]
    split
    · exact consistent
    · rw [Consistent, world_handleReminder]
      exact consistent

/-- A step keeps the reminders silent exactly if it runs no job that has been postponed. -/
theorem silent_step_iff (action : Action) (consistent : reminding.Consistent)
    (silent : reminding.Silent) :
    (reminding.step environment action).Silent ↔ reminding.NotPostponed action := by
  cases action with
  | operate action completions =>
    refine iff_of_true ⟨fun reminder member => ?_, silent.current⟩ trivial
    exact List.mem_append_left _ (silent.queued reminder member)
  | remind elapsed position =>
    rw [step, NotPostponed]
    cases queued : reminding.queue[position]? with
    | none =>
      refine iff_of_true ⟨silent.queued, silent.current⟩ fun job isJob => ?_
      cases isJob
    | some cachedServiceRequestDto =>
      simp only [Option.mem_some_iff, forall_eq']
      constructor
      · intro after ahead assigned
        by_contra postponed
        have provided : reminding.world.request.service.provider.isSome = true := by
          have dispatched := consistent.dispatched (of_decide_eq_true assigned)
          exact Option.isSome_of_isSome_bind dispatched
        have notLater := (not_le.mp postponed).le
        have sends : ∃ command commands, ReminderProcessor.process cachedServiceRequestDto
            (reminding.wait elapsed).world.load (reminding.wait elapsed).world.clock =
              .ok (command :: commands) :=
          ReminderProcessor.process_sends notLater ahead assigned provided
        obtain ⟨command, commands, processed⟩ := sends
        have present := after.current ⟨(reminding.wait elapsed).world.load, command⟩
          (mem_sent_handleReminder.mpr
            (Or.inr ⟨_, processed, rfl, List.mem_cons_self⟩))
        rw [(ReminderProcessor.mem_process processed List.mem_cons_self).1] at present
        exact postponed present.ge
      · intro notPostponed
        refine ⟨fun reminder member => ?_, fun reminder member => ?_⟩
        · rw [queue_handleReminder]
          obtain before | ⟨commands, processed, -, isCommand⟩ := mem_sent_handleReminder.mp member
          · exact silent.queued reminder before
          · rw [(ReminderProcessor.mem_process processed isCommand).1]
            exact List.mem_of_getElem? queued
        · obtain before | ⟨commands, processed, found, isCommand⟩ :=
            mem_sent_handleReminder.mp member
          · exact silent.current reminder before
          · obtain ⟨carries, notEarlier, ahead, assigned⟩ :=
              ReminderProcessor.mem_process processed isCommand
            rw [carries, found]
            exact le_antisymm notEarlier (notPostponed ahead assigned)

end Reminding

/-- In every run from the making of a request, whatever is sent was sent by a job that found the
start it was queued for exactly if no job runs that has been postponed. -/
theorem silent_throughout_iff {environment : Environment} {input : ServiceRequestInput} {now : Time}
    {request : ServiceRequest}
    (created : ServiceRequest.create environment input now = .ok request)
    (repository : PaymentGatewayResponseRepository) (actions : List Reminding.Action) :
    Throughout (Reminding.step environment) Reminding.Silent (.opened request repository) actions ↔
      Along (Reminding.step environment) Reminding.NotPostponed (.opened request repository)
        actions := by
  refine throughout_iff_along _ _ Reminding.Consistent _
    (fun _ action => Reminding.consistent_step environment action)
    (fun _ action => Reminding.silent_step_iff environment action) _ _
    (ServiceRequest.create_consistent created) ⟨?_, ?_⟩
  · intro reminder member
    cases member
  · intro reminder member
    cases member

/-- The request of the example is paid for and accepted, and an administrator moves its start. It is
accepted again, and two hours before the old start the first of its jobs runs. -/
def exampleReminded (start : Time) : List Reminding.Action :=
  exampleAccepted.map (.operate · []) ++
    [.operate ⟨1000, .adminChangeSpecification ⟨start, start + 7200000, 8⟩⟩ [.save, .reread],
      .operate ⟨1000, .accept exampleAnswer ⟨0, none⟩⟩ [],
      .remind 352795000 0]

/-- When the start is moved to an earlier one, the job fails, and one of the new jobs reminds. -/
theorem silent_throughout_advanced :
    Throughout (Reminding.step exampleEnvironment) Reminding.Silent
      (.opened exampleRequest .empty) (exampleReminded 354000000 ++ [.remind 0 2]) :=
  (silent_throughout_iff exampleRequest_created .empty _).mpr (by decide +kernel)

/-- When it is moved to a later one, the first job reminds all the same. -/
theorem not_silent_postponed :
    ¬Throughout (Reminding.step exampleEnvironment) Reminding.Silent
      (.opened exampleRequest .empty) (exampleReminded 400000000) := by
  intro throughout
  have silent := throughout _ List.prefix_rfl
  have sent : ((run (Reminding.step exampleEnvironment) (.opened exampleRequest .empty)
      (exampleReminded 400000000)).sent.map fun reminder =>
        (reminder.command.srDto.serviceSchedule.start, reminder.found.serviceSchedule.start)) =
      [(360000000, 400000000)] := by decide +kernel
  obtain ⟨reminder, member, same⟩ := List.mem_map.mp (sent.symm ▸ List.mem_singleton_self _)
  have current := silent.current reminder member
  obtain ⟨captured, found⟩ := Prod.mk.inj same
  rw [captured, found] at current
  exact absurd current (by decide)

end FieldService
