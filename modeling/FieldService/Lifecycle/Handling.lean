/-
This file compares the handling of a job with the protocol it is meant to follow: travel,
start, complete, each announced as the next action before it is recorded.

`nextHandlingEventType` derives the event from the status and ends in a catch-all that
completes the job, so the protocol is only as good as the states the command is issued in.
A run is watched by an observer that remembers how many events had been recorded at the
last assignment. `handling_protocol_iff` says that a run follows the protocol exactly if
every command that succeeds meets an allocated job in one of the three statuses of the
track, whose last event was recorded under the present assignment.
-/

import FieldService.Lifecycle.Steps
import Mathlib.Data.List.Infix

namespace FieldService

open Execution Latest

/-! ### The protocol -/

/-- The events of a job, in their order. -/
def handlingTrack : List HandlingEventTypeEnum := [.start, .inProgress, .fullfil]

/-- The action that announces an event. -/
def HandlingEventTypeEnum.action : HandlingEventTypeEnum → ServiceActionTypeEnum
  | .start => .start
  | .inProgress => .inProgress
  | .fullfil => .fullfil

/-- The number of events recorded before the last assignment, as an observer of the run keeps
it. -/
def markAssignment (environment : Environment) (world : World) (mark : Nat) (action : Timed) :
    Nat :=
  match (world.wait action.elapsed).performed environment action.operation with
  | some (.assign _ _) => world.handlingEvents.length
  | _ => mark

/-- A step of the watched system. -/
abbrev watchedStep (environment : Environment) : World × Nat → Timed → World × Nat :=
  observed (World.step environment) (markAssignment environment)

/-- The types of the events recorded since the last assignment. -/
def eventsSince (watched : World × Nat) : List HandlingEventTypeEnum :=
  (watched.1.handlingEvents.drop watched.2).map (·.type)

/-- The statuses in which the track goes on. -/
def ServiceStatusEnum.isOnTrack (status : ServiceStatusEnum) : Bool :=
  status = .allocated || status = .started || status = .inProgress

/-- A handling command that succeeds meets a job allocated to a worker and on the track, and
records the event that was announced; any other step records nothing. -/
def HandledByProtocol (environment : Environment) (watched : World × Nat) (action : Timed) :
    Prop :=
  match (watched.1.wait action.elapsed).performed environment action.operation with
  | some (.progress _) =>
    watched.1.loaded.allocationStatus = .allocated ∧ watched.1.loaded.workerId.isSome = true ∧
      watched.1.loaded.status.isOnTrack = true ∧
      ∃ type : HandlingEventTypeEnum, watched.1.loaded.nextActionType = type.action ∧
        eventsSince (watchedStep environment watched action) = eventsSince watched ++ [type]
  | _ => (watchedStep environment watched action).1.handlingEvents = watched.1.handlingEvents

/-- A handling command that succeeds meets an allocated job on the track, whose last event, if
it has one, was recorded since the last assignment. -/
def HandlesOnTrack (environment : Environment) (watched : World × Nat) (action : Timed) : Prop :=
  match (watched.1.wait action.elapsed).performed environment action.operation with
  | some (.progress _) =>
    watched.1.loaded.allocationStatus = .allocated ∧
      watched.1.loaded.status.isOnTrack = true ∧
      (watched.1.loaded.lastEvent = none ↔ watched.2 = watched.1.handlingEvents.length)
  | _ => True

instance (environment : Environment) (watched : World × Nat) (action : Timed) :
    Decidable (HandlesOnTrack environment watched action) := by
  unfold HandlesOnTrack
  split <;> infer_instance

/-! ### The next event -/

/-- On the track the last event, the event that comes next and the action that is announced
belong together. -/
theorem onTrack_cases {service : Service} (consistent : service.Consistent)
    (allocated : service.allocationStatus = .allocated)
    (onTrack : service.status.isOnTrack = true) :
    ∃ type : HandlingEventTypeEnum,
      service.nextHandlingEventType = .ok type ∧ service.nextActionType = type.action ∧
      ((service.lastEvent = none ∧ type = .start) ∨
        (service.lastEvent.map (·.type) = some .start ∧ type = .inProgress) ∨
        (service.lastEvent.map (·.type) = some .inProgress ∧ type = .fullfil)) := by
  have open' : service.status ≠ .failedPayment := by
    intro expired
    rw [expired] at onTrack
    cases onTrack
  have advertised := consistent.advertised open'
  rw [allocated] at advertised
  cases status : service.status with
  | allocated =>
    rw [status] at advertised
    refine ⟨.start, ?_, advertised, Or.inl ⟨?_, rfl⟩⟩
    · simp [Service.nextHandlingEventType, Service.hasBeenFulfilled,
        Service.hasBeenAssignedButNotAllocated, status, allocated]
    · exact consistent.untracked (Or.inr ⟨.allocated, status⟩)
  | started =>
    rw [status] at advertised
    refine ⟨.inProgress, ?_, advertised, Or.inr (Or.inl ⟨consistent.tracked .start status, rfl⟩)⟩
    simp [Service.nextHandlingEventType, Service.hasBeenFulfilled,
      Service.hasBeenAssignedButNotAllocated, status, allocated]
  | inProgress =>
    rw [status] at advertised
    refine ⟨.fullfil, ?_, advertised,
      Or.inr (Or.inr ⟨consistent.tracked .inProgress status, rfl⟩)⟩
    simp [Service.nextHandlingEventType, Service.hasBeenFulfilled,
      Service.hasBeenAssignedButNotAllocated, status, allocated]
  | _ =>
    rw [status] at onTrack
    cases onTrack

theorem handlingTrack_earlier {events : List HandlingEventTypeEnum}
    (initial : events <+: handlingTrack) :
    events = [] ∨ events = [.start] ∨ events = [.start, .inProgress] ∨ events = handlingTrack := by
  have member := (List.mem_inits events handlingTrack).mpr initial
  simpa [handlingTrack, List.inits] using member

/-- The record can be continued on the track by the next event exactly if it is empty at the
start and ends in the last event later on. -/
theorem continues_iff {record : List HandlingEventTypeEnum} (initial : record <+: handlingTrack)
    {last : Option HandlingEventTypeEnum} (ends : record ≠ [] → last ≠ none →
      record.getLast? = last) {type : HandlingEventTypeEnum}
    (next : (last = none ∧ type = .start) ∨ (last = some .start ∧ type = .inProgress) ∨
      (last = some .inProgress ∧ type = .fullfil)) :
    record ++ [type] <+: handlingTrack ↔ (last = none ↔ record = []) := by
  obtain rfl | rfl | rfl | rfl := handlingTrack_earlier initial <;>
    obtain ⟨rfl, rfl⟩ | ⟨rfl, rfl⟩ | ⟨rfl, rfl⟩ := next <;>
    revert ends <;> decide

/-! ### Watched runs -/

/-- What the observer can rely on: its mark lies within the events, none of them is later than
the clock, and the last event of the service, if any, is the last one recorded. -/
structure Watched (watched : World × Nat) : Prop where
  consistent : watched.1.request.service.Consistent
  marked : watched.2 ≤ watched.1.handlingEvents.length
  stamped : ∀ event ∈ watched.1.handlingEvents, event.createdAt ≤ watched.1.clock
  last : watched.1.loaded.lastEvent = none ∨
    watched.1.loaded.lastEvent = watched.1.handlingEvents.getLast?

theorem markAssignment_le (environment : Environment) {world : World} {mark : Nat}
    (action : Timed) (marked : mark ≤ world.handlingEvents.length) :
    markAssignment environment world mark action ≤ world.handlingEvents.length := by
  unfold markAssignment
  split
  · exact le_rfl
  · exact marked

/-- A step records nothing and keeps or drops the last event, or it records the next event,
which becomes the last one. -/
theorem World.step_events (environment : Environment) (world : World) (action : Timed) :
    ((world.step environment action).handlingEvents = world.handlingEvents ∧
      ((world.step environment action).loaded.lastEvent = none ∨
        (world.step environment action).loaded.lastEvent = world.loaded.lastEvent) ∧
      ∀ history, (world.wait action.elapsed).performed environment action.operation ≠
        some (.progress history)) ∨
    ∃ event : HandlingEvent, world.loaded.nextHandlingEventType = .ok event.type ∧
      event.createdAt = (world.step environment action).clock ∧
      (world.wait action.elapsed).performed environment action.operation =
        some (.progress (world.handlingEvents ++ [event])) ∧
      (world.step environment action).handlingEvents = world.handlingEvents ++ [event] ∧
      (world.step environment action).loaded.lastEvent =
        HandlingHistory.mostRecentlyCompletedEvent (world.handlingEvents ++ [event]) := by
  have clock := (world.step_frame environment action).2.2
  cases world.step_cases environment action with
  | kept performed service handlingEvents =>
    refine Or.inl ⟨handlingEvents, Or.inr ?_, fun history same => ?_⟩
    · rw [service]
      rfl
    · rw [performed] at same
      cases same
  | made transition performed own permitted repository handlingEvents service =>
    have granted : transition.Granted (world.wait action.elapsed) := World.granted own permitted
    cases transition with
    | progress history =>
      obtain ⟨input, type, next, recorded⟩ := granted
      subst recorded
      exact Or.inr ⟨(world.wait action.elapsed).handlingEvent input type, next, clock.symm,
        performed, handlingEvents, service.lastEvent⟩
    | expire =>
      exact Or.inl ⟨handlingEvents, Or.inl service.lastEvent, fun history same =>
        by cases performed.symm.trans same⟩
    | restart =>
      exact Or.inl ⟨handlingEvents, Or.inl service.lastEvent, fun history same =>
        by cases performed.symm.trans same⟩
    | _ =>
      exact Or.inl ⟨handlingEvents, Or.inr service.lastEvent, fun history same =>
        by cases performed.symm.trans same⟩

theorem watched_step (environment : Environment) (watched : World × Nat) (action : Timed)
    (sound : Watched watched) : Watched (watchedStep environment watched action) := by
  obtain ⟨world, mark⟩ := watched
  obtain ⟨consistent, marked, stamped, last⟩ := sound
  have consistentAfter := world.consistent_step environment action consistent
  have within := markAssignment_le environment action marked
  have clock : world.clock ≤ (world.step environment action).clock := by
    rw [(world.step_frame environment action).2.2]
    exact Int.le_add_of_nonneg_right (Int.natCast_nonneg _)
  obtain ⟨events, lastEvent, -⟩ | ⟨event, -, createdAt, -, events, lastEvent⟩ :=
    world.step_events environment action
  · refine ⟨consistentAfter, ?_, fun event member => ?_, ?_⟩
    · exact within.trans_eq (congrArg List.length events).symm
    · exact (stamped event (events ▸ member)).trans clock
    · obtain gone | same := lastEvent
      · exact Or.inl gone
      · show (world.step environment action).loaded.lastEvent = none ∨
          (world.step environment action).loaded.lastEvent =
            (world.step environment action).handlingEvents.getLast?
        rw [same, events]
        exact last
  · refine ⟨consistentAfter, ?_, fun other member => ?_, Or.inr ?_⟩
    · show markAssignment environment world mark action ≤
        (world.step environment action).handlingEvents.length
      rw [events, List.length_append]
      exact within.trans (Nat.le_add_right _ _)
    · have stored : other ∈ world.handlingEvents ++ [event] := events ▸ member
      obtain earlier | rfl := List.mem_append.mp stored |>.imp_right List.mem_singleton.mp
      · exact (stamped other earlier).trans clock
      · exact createdAt.le
    · show (world.step environment action).loaded.lastEvent =
        (world.step environment action).handlingEvents.getLast?
      rw [lastEvent, events, List.getLast?_concat]
      refine latest_append _ _ _ fun earlier member => ?_
      rw [createdAt]
      exact (stamped earlier member).trans clock

theorem eventsSince_eq_nil_iff {world : World} {mark : Nat}
    (marked : mark ≤ world.handlingEvents.length) :
    eventsSince (world, mark) = [] ↔ mark = world.handlingEvents.length := by
  rw [eventsSince, List.map_eq_nil_iff, List.drop_eq_nil_iff]
  exact ⟨marked.antisymm, fun same => same.ge⟩

theorem eventsSince_getLast? {world : World} {mark : Nat}
    (last : world.loaded.lastEvent = none ∨
      world.loaded.lastEvent = world.handlingEvents.getLast?)
    (recorded : eventsSince (world, mark) ≠ [])
    (started : world.loaded.lastEvent.map (·.type) ≠ none) :
    (eventsSince (world, mark)).getLast? = world.loaded.lastEvent.map (·.type) := by
  have within : ¬ world.handlingEvents.length ≤ mark := by
    intro beyond
    refine recorded ?_
    rw [eventsSince, List.drop_eq_nil_of_le beyond]
    rfl
  obtain gone | same := last
  · rw [gone] at started
    exact absurd rfl started
  · rw [eventsSince, List.getLast?_map, List.getLast?_drop, if_neg within, same]

/-- A step that records nothing follows the protocol and stays on the track. -/
theorem protocol_idle {environment : Environment} {world : World} {mark : Nat} {action : Timed}
    (events : (world.step environment action).handlingEvents = world.handlingEvents)
    (idle : ∀ history, (world.wait action.elapsed).performed environment action.operation ≠
      some (.progress history))
    (initial : eventsSince (world, mark) <+: handlingTrack) :
    (HandledByProtocol environment (world, mark) action ∧
        eventsSince (watchedStep environment (world, mark) action) <+: handlingTrack) ∧
      HandlesOnTrack environment (world, mark) action := by
  refine ⟨⟨?_, ?_⟩, ?_⟩
  · unfold HandledByProtocol
    split
    · rename_i history same
      exact absurd same (idle history)
    · exact events
  · show ((world.step environment action).handlingEvents.drop
      (markAssignment environment world mark action)).map (·.type) <+: handlingTrack
    rw [events]
    unfold markAssignment
    split
    · rw [List.drop_length]
      exact List.nil_prefix
    · exact initial
  · unfold HandlesOnTrack
    split
    · rename_i history same
      exact absurd same (idle history)
    · trivial

/-- A step that records an event appends it to those since the last assignment. -/
theorem eventsSince_recorded {environment : Environment} {world : World} {mark : Nat}
    {action : Timed} {event : HandlingEvent} {history : HandlingHistory}
    (marked : mark ≤ world.handlingEvents.length)
    (performed : (world.wait action.elapsed).performed environment action.operation =
      some (.progress history))
    (events : (world.step environment action).handlingEvents = world.handlingEvents ++ [event]) :
    eventsSince (watchedStep environment (world, mark) action) =
      eventsSince (world, mark) ++ [event.type] := by
  have sameMark : markAssignment environment world mark action = mark := by
    rw [markAssignment, performed]
  show ((world.step environment action).handlingEvents.drop
    (markAssignment environment world mark action)).map (·.type) = _
  rw [events, sameMark, List.drop_append_of_le_length marked, List.map_append]
  rfl

/-- On the track the next event is the one that was announced, and it continues the record
exactly if the last event belongs to the record. -/
theorem record_continues_iff {world : World} {mark : Nat} {type : HandlingEventTypeEnum}
    (loaded : world.loaded.Consistent) (marked : mark ≤ world.handlingEvents.length)
    (last : world.loaded.lastEvent = none ∨
      world.loaded.lastEvent = world.handlingEvents.getLast?)
    (initial : eventsSince (world, mark) <+: handlingTrack)
    (next : world.loaded.nextHandlingEventType = .ok type)
    (allocated : world.loaded.allocationStatus = .allocated)
    (onTrack : world.loaded.status.isOnTrack = true) :
    world.loaded.nextActionType = type.action ∧
      (eventsSince (world, mark) ++ [type] <+: handlingTrack ↔
        (world.loaded.lastEvent = none ↔ mark = world.handlingEvents.length)) := by
  obtain ⟨sameType, sameNext, advertised, following⟩ := onTrack_cases loaded allocated onTrack
  obtain rfl : sameType = type := Except.ok.inj (sameNext.symm.trans next)
  refine ⟨advertised, ?_⟩
  rw [continues_iff initial (eventsSince_getLast? last)
    (following.imp_left (And.imp_left fun unstarted => by rw [unstarted]; rfl)),
    Option.map_eq_none_iff, eventsSince_eq_nil_iff marked]

/-- A step out of a record on the track follows the protocol and stays on the track exactly if
it handles the job on the track. -/
theorem protocol_step_iff (environment : Environment) (watched : World × Nat) (action : Timed)
    (sound : Watched watched) (initial : eventsSince watched <+: handlingTrack) :
    HandledByProtocol environment watched action ∧
        eventsSince (watchedStep environment watched action) <+: handlingTrack ↔
      HandlesOnTrack environment watched action := by
  obtain ⟨world, mark⟩ := watched
  obtain ⟨consistent, marked, stamped, last⟩ := sound
  obtain ⟨events, -, idle⟩ | ⟨event, next, -, performed, events, -⟩ :=
    world.step_events environment action
  · obtain ⟨follows, onTrack⟩ := protocol_idle events idle initial
    exact iff_of_true follows onTrack
  · have since := eventsSince_recorded marked performed events
    have loaded : world.loaded.Consistent := consistent.load _
    rw [HandledByProtocol, HandlesOnTrack, performed, since]
    constructor
    · rintro ⟨⟨allocated, -, onTrack, -⟩, stays⟩
      have continues := record_continues_iff loaded marked last initial next allocated onTrack
      exact ⟨allocated, onTrack, continues.2.mp stays⟩
    · rintro ⟨allocated, onTrack, recorded⟩
      have continues := record_continues_iff loaded marked last initial next allocated onTrack
      exact ⟨⟨allocated, loaded.staffed allocated, onTrack, event.type, continues.1, rfl⟩,
        continues.2.mpr recorded⟩

/-- A run follows the handling protocol exactly if every command that succeeds meets an
allocated job on the track whose last event was recorded since the last assignment. -/
theorem handling_protocol_iff {environment : Environment} {input : ServiceRequestInput}
    {now : Time} {request : ServiceRequest}
    (created : ServiceRequest.create environment input now = .ok request)
    (repository : PaymentGatewayResponseRepository) (actions : List Timed) :
    Throughout (watchedStep environment) (fun watched => eventsSince watched <+: handlingTrack)
          (.opened request repository, 0) actions ∧
        Along (watchedStep environment) (HandledByProtocol environment)
          (.opened request repository, 0) actions ↔
      Along (watchedStep environment) (HandlesOnTrack environment)
        (.opened request repository, 0) actions := by
  refine throughout_and_along_iff _ _ _ Watched _ (watched_step environment)
    (protocol_step_iff environment) _ _ ?_ List.nil_prefix
  refine ⟨ServiceRequest.create_consistent created, le_rfl, fun event member => ?_, Or.inl ?_⟩
  · exact absurd member List.not_mem_nil
  · show request.service.lastEvent = none
    rw [(ServiceRequest.create_service created).2.2]
    rfl

/-- A job that is paid for, accepted and handled three times follows the protocol. -/
theorem handling_protocol_iff_completed :
    Throughout (watchedStep exampleEnvironment)
          (fun watched => eventsSince watched <+: handlingTrack)
          (.opened exampleRequest .empty, 0)
          (exampleAccepted ++ List.replicate 3 ⟨1000, .handle exampleHandling⟩) ∧
        Along (watchedStep exampleEnvironment) (HandledByProtocol exampleEnvironment)
          (.opened exampleRequest .empty, 0)
          (exampleAccepted ++ List.replicate 3 ⟨1000, .handle exampleHandling⟩) :=
  (handling_protocol_iff exampleRequest_created .empty _).mpr (by decide +kernel)

/-- The first handling command for a request that is still unpaid and unassigned completes
it. -/
theorem unpaid_request_completed :
    ¬ (Throughout (watchedStep exampleEnvironment)
          (fun watched => eventsSince watched <+: handlingTrack)
          (.opened exampleRequest .empty, 0) [⟨1000, .handle exampleHandling⟩] ∧
        Along (watchedStep exampleEnvironment) (HandledByProtocol exampleEnvironment)
          (.opened exampleRequest .empty, 0) [⟨1000, .handle exampleHandling⟩]) := by
  rintro ⟨throughout, -⟩
  have initial := throughout _ List.prefix_rfl
  revert initial
  decide +kernel

end FieldService
