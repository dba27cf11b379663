/-
This file settles when several providers who are after one job end up with one winner.

Accepting a job and being assigned to it by an operator read the request, check on the copy they
read that the job is not taken, save the copy, and then write to the assignments: the pending ones
of the provider become accepted and everybody else's failed. Every one of these writes is awaited
on its own, so other commands take their turns in between. The check is made on the copy and not
again on what is stored by then. A race has one winner with one accepted assignment exactly if
nobody saves over a job that has been taken meanwhile and the winner still has an assignment to
accept.
-/

import Mathlib.Logic.Function.Basic
import FieldService.Dispatching.Ticket
import FieldService.Dispatching.Appointments

namespace FieldService.Dispatching

open Execution

/-! ### The commands -/

/-- A command that gives the job to a provider. -/
inductive AssigningCommand where
  /-- `AcceptNewDispatchedJobCommand`. -/
  | accept (answer : ProviderAnswer) (occupancy : Occupancy)
  /-- `ManuallyAssignJobToProviderCommand`. -/
  | manuallyAssign (answer : ProviderAnswer) (occupancy : Occupancy)

namespace AssigningCommand

def providerId : AssigningCommand → Uuid
  | .accept answer _ => answer.providerId
  | .manuallyAssign answer _ => answer.providerId

/-- The command as an operation that nothing comes between. -/
def operation : AssigningCommand → Operation
  | .accept answer occupancy => .accept answer occupancy
  | .manuallyAssign answer occupancy => .manuallyAssign answer occupancy

/-- What a command does with its own copy of the request, up to saving it. -/
def assign (serviceRequest : ServiceRequest) : AssigningCommand → Except AppError ServiceRequest
  | .accept answer occupancy => do
    let serviceProvider ← answer.get
    if serviceProvider.generalStatus ≠ .active then throw .unauthorized
    occupancy.check
      { fullyOccupied := .failToAcceptJobDueToFullyOccupiedWorkers
        overlapping := .failToAcceptJobDueToOverlappingAppointment }
      serviceProvider serviceRequest.serviceSchedule
    serviceRequest.assignToDispatcher serviceProvider
  | .manuallyAssign answer occupancy => do
    let serviceProvider ← answer.get
    occupancy.check
      { fullyOccupied := .failToManuallyAssignDealerDueToFullyOccupiedWorkers
        overlapping := .failToManuallyAssignIndependentContractorDueToOverlappingAppointment }
      serviceProvider serviceRequest.serviceSchedule
    serviceRequest.assignToDispatcher serviceProvider

end AssigningCommand

/-- How far a command has come, with its copy of the request. -/
inductive AssigningProgress where
  | waiting
  | loaded (serviceRequest : ServiceRequest)
  /-- A manual assignment has saved the request and has to insert an assignment. -/
  | saved (serviceRequest : ServiceRequest)
  /-- The pending assignments of the provider are to be accepted. -/
  | assigned (serviceRequest : ServiceRequest)
  /-- The assignments of everybody else are to fail. -/
  | accepted (serviceRequest : ServiceRequest)
  /-- The events are to be published. -/
  | settled (serviceRequest : ServiceRequest)
  | succeeded
  | failed
  deriving DecidableEq, Repr

/-- Where a command goes on after it has saved the request. -/
def AssigningCommand.afterSaving (serviceRequest : ServiceRequest) :
    AssigningCommand → AssigningProgress
  | .accept _ _ => .assigned serviceRequest
  | .manuallyAssign _ _ => .saved serviceRequest

/-- `assignmentRepository.update`. -/
def Assignment.update (criteria : Assignment → Bool) (status : AssignmentStatusEnum)
    (row : Assignment) : Assignment :=
  if criteria row then { row with status := status } else row

/-- The criteria for the assignments that are accepted. -/
def Assignment.isPendingOf (serviceRequestId : String) (providerId : Uuid) (row : Assignment) :
    Bool :=
  row.serviceRequestId = serviceRequestId && row.providerId = providerId && row.status = .pending

/-- The criteria for the assignments that fail. -/
def Assignment.isOfOther (serviceRequestId : String) (providerId : Uuid) (row : Assignment) :
    Bool :=
  row.serviceRequestId = serviceRequestId && row.providerId ≠ providerId

/-! ### The race -/

/-- The request, the assignments and the appointments, and the progress of every command. -/
structure Race (Index : Type) where
  world : World
  assignments : List Assignment
  appointments : List AppointmentRow
  progress : Index → AssigningProgress

/-- A command takes its next step, after some time. -/
structure RaceTurn (Index : Type) where
  elapsed : Nat
  command : Index

namespace Race

variable {Index : Type} [DecidableEq Index]

/-- No command has begun. -/
def opened (world : World) (assignments : List Assignment) (appointments : List AppointmentRow) :
    Race Index :=
  ⟨world, assignments, appointments, fun _ => .waiting⟩

def wait (race : Race Index) (elapsed : Nat) : Race Index :=
  { race with world := race.world.wait elapsed }

def moved (race : Race Index) (command : Index) (progress : AssigningProgress) : Race Index :=
  { race with progress := Function.update race.progress command progress }

/-- The next step of one command, at the clock of the race. -/
def proceed (environment : Environment) (race : Race Index) (index : Index)
    (command : AssigningCommand) : Race Index :=
  let serviceRequestId := race.world.request.id
  match race.progress index with
  | .waiting => race.moved index (.loaded race.world.load)
  | .loaded serviceRequest =>
    match command.assign serviceRequest with
    | .error _ => race.moved index .failed
    | .ok assigned =>
      { race with world := race.world.save environment assigned }.moved index
        (command.afterSaving assigned)
  | .saved serviceRequest =>
    { race with
      assignments := race.assignments ++
        [Assignment.create command.providerId 0 serviceRequestId race.world.clock] }.moved index
      (.assigned serviceRequest)
  | .assigned serviceRequest =>
    { race with
      assignments := race.assignments.map (Assignment.update
        (Assignment.isPendingOf serviceRequestId command.providerId) .accepted) }.moved index
      (.accepted serviceRequest)
  | .accepted serviceRequest =>
    { race with
      assignments := race.assignments.map (Assignment.update
        (Assignment.isOfOther serviceRequestId command.providerId) .failed) }.moved index
      (.settled serviceRequest)
  | .settled serviceRequest =>
    { race with
      appointments :=
        if serviceRequest.service.isAllocatedTo command.providerId then
          (DispatchingEvent.allocated serviceRequest).apply race.appointments
        else race.appointments }.moved index .succeeded
  | .succeeded => race
  | .failed => race

def step (environment : Environment) (commands : Index → AssigningCommand) (race : Race Index)
    (turn : RaceTurn Index) : Race Index :=
  (race.wait turn.elapsed).proceed environment turn.command (commands turn.command)

/-! ### One winner -/

/-- A provider has an assignment for the request in the given status. -/
def HasAssignment (race : Race Index) (providerId : Uuid) (status : AssignmentStatusEnum) : Prop :=
  ∃ row ∈ race.assignments, row.serviceRequestId = race.world.request.id ∧
    row.providerId = providerId ∧ row.status = status

/-- At most one command succeeds, and after it the dispatcher of the request is the only provider
with an accepted assignment. -/
structure HasOneWinner (race : Race Index) : Prop where
  single : ∀ first second, race.progress first = .succeeded → race.progress second = .succeeded →
    first = second
  accepted : ∀ winner, race.progress winner = .succeeded →
    ∃ dispatcherId, race.world.load.service.dispatcherId = some dispatcherId ∧
      ∀ providerId, race.HasAssignment providerId .accepted ↔ providerId = dispatcherId

/-- Every command has come to its end. -/
def IsOver (race : Race Index) : Prop :=
  ∀ index, race.progress index = .succeeded ∨ race.progress index = .failed

/-- The test for `Job is taken`. -/
def isJobTaken (service : Service) : Bool :=
  service.hasBeenAssignedOrAllocated && !service.hasBeenCancelled

/-- The condition on a step: a request that is saved has not been taken in the meantime, and a
provider whose assignments are accepted has one that is pending or accepted. -/
structure Admits (commands : Index → AssigningCommand) (race : Race Index)
    (turn : RaceTurn Index) : Prop where
  untaken : ∀ serviceRequest, race.progress turn.command = .loaded serviceRequest →
    (∃ assigned, (commands turn.command).assign serviceRequest = .ok assigned) →
    isJobTaken race.world.load.service = false
  dispatched : ∀ serviceRequest, race.progress turn.command = .assigned serviceRequest →
    race.HasAssignment (commands turn.command).providerId .pending ∨
      race.HasAssignment (commands turn.command).providerId .accepted

end Race

section

variable {Index : Type} [DecidableEq Index] {environment : Environment}

/-! ### What a command saves -/

/-- A command that goes through has found its provider and assigned the job on its own copy. -/
theorem AssigningCommand.assign_eq_ok {command : AssigningCommand}
    {serviceRequest assigned : ServiceRequest}
    (assigns : command.assign serviceRequest = .ok assigned) :
    ∃ dispatcher, dispatcher.id = command.providerId ∧
      serviceRequest.assignToDispatcher dispatcher = .ok assigned := by
  cases command with
  | accept answer occupancy =>
    obtain ⟨dispatcher, found, rest⟩ := bind_eq_ok assigns
    simp only at rest
    split at rest
    · cases rest
    obtain ⟨⟨⟩, -, rest⟩ := bind_eq_ok rest
    exact ⟨dispatcher, answer.matching dispatcher (ProviderAnswer.get_eq_ok found), rest⟩
  | manuallyAssign answer occupancy =>
    obtain ⟨dispatcher, found, rest⟩ := bind_eq_ok assigns
    obtain ⟨⟨⟩, -, rest⟩ := bind_eq_ok rest
    exact ⟨dispatcher, answer.matching dispatcher (ProviderAnswer.get_eq_ok found), rest⟩

/-- A command that nothing comes between does what its operation does. -/
theorem AssigningCommand.execute_operation (world : World) (command : AssigningCommand) :
    world.execute environment command.operation =
      (command.assign world.load).map (world.save environment) := by
  cases command with
  | accept answer occupancy =>
    show world.accept environment answer occupancy = _
    simp only [World.accept, AssigningCommand.assign]
    cases answer.get with
    | error error => rfl
    | ok dispatcher =>
      simp only [bind, Except.bind]
      split
      · rfl
      · cases occupancy.check _ dispatcher world.load.serviceSchedule with
        | error error => rfl
        | ok passed => cases world.load.assignToDispatcher dispatcher <;> rfl
  | manuallyAssign answer occupancy =>
    show world.manuallyAssign environment answer occupancy = _
    simp only [World.manuallyAssign, AssigningCommand.assign]
    cases answer.get with
    | error error => rfl
    | ok dispatcher =>
      simp only [bind, Except.bind]
      cases occupancy.check _ dispatcher world.load.serviceSchedule with
      | error error => rfl
      | ok passed => cases world.load.assignToDispatcher dispatcher <;> rfl

/-- The request that a command assigns was not taken on its copy, and keeps its number. -/
theorem AssigningCommand.assign_untaken {command : AssigningCommand}
    {serviceRequest assigned : ServiceRequest}
    (assigns : command.assign serviceRequest = .ok assigned) :
    Race.isJobTaken serviceRequest.service = false ∧ assigned.id = serviceRequest.id := by
  obtain ⟨dispatcher, -, assigns⟩ := command.assign_eq_ok assigns
  obtain ⟨rfl, free, -, -⟩ := Transition.assign_eq _ _ _ assigns
  refine ⟨?_, rfl⟩
  rw [Race.isJobTaken]
  simpa using free

/-- Whatever a command saves it over, the request is taken then, by the provider of the command. -/
theorem AssigningCommand.saves {command : AssigningCommand}
    {serviceRequest assigned : ServiceRequest}
    (assigns : command.assign serviceRequest = .ok assigned) (environment : Environment)
    (world : World) :
    Race.isJobTaken (world.save environment assigned).load.service = true ∧
      (world.save environment assigned).load.service.dispatcherId = some command.providerId := by
  obtain ⟨dispatcher, same, assigns⟩ := command.assign_eq_ok assigns
  obtain ⟨rfl, -, -, -⟩ := Transition.assign_eq _ _ _ assigns
  constructor
  · have allocated : (calculateAllocationStatus (Transition.provider serviceRequest.service
        (.assign dispatcher serviceRequest.serviceSchedule))) ≠ .unassigned := by
      rw [allocationStatus_assign]
      split <;> simp
    have running : (Transition.apply serviceRequest.service
        (.assign dispatcher serviceRequest.serviceSchedule)).status.hasBeenCancelled = false :=
      calculateStatus_hasBeenCancelled _ _ _ _
    rw [Race.isJobTaken, Bool.and_eq_true, Bool.not_eq_true', Service.hasBeenAssignedOrAllocated,
      decide_eq_true_iff]
    exact ⟨allocated, running⟩
  · show (Provider.persist environment.nullEmbedded world.request.service.provider
      (Transition.provider serviceRequest.service
        (.assign dispatcher serviceRequest.serviceSchedule))).bind (·.dispatcherId) = _
    rw [← same, Transition.provider]
    split <;> exact Provider.persist_dispatcherId _ _ _ (by simp [Service.dispatchedTo])

/-! ### What a step does -/

/-- How much a command has written: nothing, the request, its own assignments, everybody else's. -/
def AssigningProgress.stage : AssigningProgress → Nat
  | .waiting | .loaded _ | .failed => 0
  | .saved _ | .assigned _ => 1
  | .accepted _ => 2
  | .settled _ | .succeeded => 3

@[simp]
theorem AssigningCommand.stage_afterSaving (command : AssigningCommand)
    (serviceRequest : ServiceRequest) : (command.afterSaving serviceRequest).stage = 1 := by
  cases command <;> rfl

namespace Race

def stage (race : Race Index) (index : Index) : Nat :=
  (race.progress index).stage

theorem stage_moved (race : Race Index) (index : Index) (progress : AssigningProgress) :
    (race.moved index progress).stage = Function.update race.stage index progress.stage :=
  Function.comp_update AssigningProgress.stage race.progress index progress

theorem stage_moved_same (race : Race Index) (index : Index) (progress : AssigningProgress)
    (same : progress.stage = race.stage index) :
    (race.moved index progress).stage = race.stage := by
  rw [stage_moved, same, Function.update_eq_self]

/-- Inserting a pending assignment leaves the accepted ones as they are. -/
theorem accepted_insert (rows : List Assignment) (created : Assignment)
    (pending : created.status = .pending) (serviceRequestId : String) (providerId : Uuid) :
    (∃ row ∈ rows ++ [created], row.serviceRequestId = serviceRequestId ∧
        row.providerId = providerId ∧ row.status = .accepted) ↔
      ∃ row ∈ rows, row.serviceRequestId = serviceRequestId ∧ row.providerId = providerId ∧
        row.status = .accepted := by
  simp [or_and_right, exists_or, pending]

/-- Accepting the pending assignments of a provider. -/
theorem accepted_update_pending (rows : List Assignment) (serviceRequestId : String)
    (own providerId : Uuid) :
    (∃ row ∈ rows.map (Assignment.update (Assignment.isPendingOf serviceRequestId own) .accepted),
        row.serviceRequestId = serviceRequestId ∧ row.providerId = providerId ∧
          row.status = .accepted) ↔
      (∃ row ∈ rows, row.serviceRequestId = serviceRequestId ∧ row.providerId = providerId ∧
        row.status = .accepted) ∨
      providerId = own ∧ ∃ row ∈ rows, row.serviceRequestId = serviceRequestId ∧
        row.providerId = providerId ∧ row.status = .pending := by
  constructor
  · rintro ⟨_, member, id, provider, status⟩
    obtain ⟨row, stored, rfl⟩ := List.mem_map.mp member
    unfold Assignment.update at id provider status
    split at status
    · rename_i selected
      rw [if_pos selected] at id provider
      simp only [Assignment.isPendingOf, Bool.and_eq_true, decide_eq_true_eq] at selected
      exact Or.inr ⟨provider.symm.trans selected.1.2, row, stored, id, provider, selected.2⟩
    · rename_i passed
      rw [if_neg passed] at id provider
      exact Or.inl ⟨row, stored, id, provider, status⟩
  · rintro (⟨row, stored, id, provider, status⟩ | ⟨same, row, stored, id, provider, status⟩)
    · refine ⟨row, List.mem_map.mpr ⟨row, stored, if_neg ?_⟩, id, provider, status⟩
      simp [Assignment.isPendingOf, status]
    · refine ⟨{ row with status := .accepted }, List.mem_map.mpr ⟨row, stored, if_pos ?_⟩, id,
        provider, rfl⟩
      simp [Assignment.isPendingOf, status, id, provider, same]

/-- Failing the assignments of everybody else. -/
theorem accepted_update_others (rows : List Assignment) (serviceRequestId : String)
    (own providerId : Uuid) :
    (∃ row ∈ rows.map (Assignment.update (Assignment.isOfOther serviceRequestId own) .failed),
        row.serviceRequestId = serviceRequestId ∧ row.providerId = providerId ∧
          row.status = .accepted) ↔
      (∃ row ∈ rows, row.serviceRequestId = serviceRequestId ∧ row.providerId = providerId ∧
        row.status = .accepted) ∧ providerId = own := by
  constructor
  · rintro ⟨_, member, id, provider, status⟩
    obtain ⟨row, stored, rfl⟩ := List.mem_map.mp member
    unfold Assignment.update at id provider status
    split at status
    · cases status
    · rename_i passed
      rw [if_neg passed] at id provider
      refine ⟨⟨row, stored, id, provider, status⟩, ?_⟩
      simpa [Assignment.isOfOther, id, provider] using passed
  · rintro ⟨⟨row, stored, id, provider, status⟩, same⟩
    refine ⟨row, List.mem_map.mpr ⟨row, stored, if_neg ?_⟩, id, provider, status⟩
    simp [Assignment.isOfOther, provider, same]

/-- What a step does to the request, the accepted assignments and the stages. -/
inductive Proceeds (environment : Environment) (commands : Index → AssigningCommand)
    (race : Race Index) (turn : RaceTurn Index) (after : Race Index) : Prop
  | idle (admitted : race.Admits commands turn)
      (stored : after.world = race.world.wait turn.elapsed)
      (accepted : ∀ providerId,
        after.HasAssignment providerId .accepted ↔ race.HasAssignment providerId .accepted)
      (stage : after.stage = race.stage)
  | saves (serviceRequest assigned : ServiceRequest)
      (loaded : race.progress turn.command = .loaded serviceRequest)
      (assigns : (commands turn.command).assign serviceRequest = .ok assigned)
      (stored : after.world = (race.world.wait turn.elapsed).save environment assigned)
      (assignments : after.assignments = race.assignments)
      (stage : after.stage = Function.update race.stage turn.command 1)
  | accepts (serviceRequest : ServiceRequest)
      (assigned : race.progress turn.command = .assigned serviceRequest)
      (stored : after.world = race.world.wait turn.elapsed)
      (accepted : ∀ providerId, after.HasAssignment providerId .accepted ↔
        race.HasAssignment providerId .accepted ∨
          providerId = (commands turn.command).providerId ∧ race.HasAssignment providerId .pending)
      (stage : after.stage = Function.update race.stage turn.command 2)
  | rejects (serviceRequest : ServiceRequest)
      (marked : race.progress turn.command = .accepted serviceRequest)
      (stored : after.world = race.world.wait turn.elapsed)
      (accepted : ∀ providerId, after.HasAssignment providerId .accepted ↔
        race.HasAssignment providerId .accepted ∧
          providerId = (commands turn.command).providerId)
      (stage : after.stage = Function.update race.stage turn.command 3)

theorem step_proceeds (environment : Environment) (commands : Index → AssigningCommand)
    (race : Race Index) (turn : RaceTurn Index) :
    race.Proceeds environment commands turn (race.step environment commands turn) := by
  have admitted : (∀ serviceRequest, race.progress turn.command ≠ .loaded serviceRequest) →
      (∀ serviceRequest, race.progress turn.command ≠ .assigned serviceRequest) →
      race.Admits commands turn := fun notLoaded notAssigned =>
    ⟨fun _ loaded _ => absurd loaded (notLoaded _),
      fun _ assigned => absurd assigned (notAssigned _)⟩
  have moving (waited : Race Index) (progress : AssigningProgress)
      (kept : waited.stage = race.stage) (same : progress.stage = race.stage turn.command) :
      (waited.moved turn.command progress).stage = race.stage :=
    (stage_moved_same _ _ _ (same.trans (congrFun kept.symm _))).trans kept
  have updating (waited : Race Index) (progress : AssigningProgress)
      (kept : waited.stage = race.stage) : (waited.moved turn.command progress).stage =
        Function.update race.stage turn.command progress.stage :=
    (stage_moved _ _ _).trans (congrArg (Function.update · _ _) kept)
  have current : (race.wait turn.elapsed).progress turn.command = race.progress turn.command := rfl
  have stage : race.stage turn.command = (race.progress turn.command).stage := rfl
  rw [step, proceed, current]
  cases progress : race.progress turn.command with
  | waiting =>
    rw [progress] at stage
    exact .idle (admitted (by simp [progress]) (by simp [progress])) rfl (fun _ => Iff.rfl)
      (moving _ _ rfl stage.symm)
  | loaded serviceRequest =>
    rw [progress] at stage
    simp only
    cases assigns : (commands turn.command).assign serviceRequest with
    | error error =>
      refine .idle ⟨fun other loaded proceeds => ?_, by simp [progress]⟩ rfl (fun _ => Iff.rfl)
        (moving _ _ rfl stage.symm)
      rw [progress] at loaded
      cases loaded
      rw [assigns] at proceeds
      obtain ⟨assigned, ⟨⟩⟩ := proceeds
    | ok assigned =>
      refine .saves serviceRequest assigned progress assigns rfl rfl ?_
      exact (updating _ _ rfl).trans (by rw [AssigningCommand.stage_afterSaving])
  | saved serviceRequest =>
    rw [progress] at stage
    exact .idle (admitted (by simp [progress]) (by simp [progress])) rfl
      (fun _ => accepted_insert _ _ rfl _ _) (moving _ _ rfl stage.symm)
  | assigned serviceRequest =>
    exact .accepts serviceRequest progress rfl
      (fun _ => accepted_update_pending _ _ _ _) (updating _ _ rfl)
  | accepted serviceRequest =>
    exact .rejects serviceRequest progress rfl
      (fun _ => accepted_update_others _ _ _ _) (updating _ _ rfl)
  | settled serviceRequest =>
    rw [progress] at stage
    exact .idle (admitted (by simp [progress]) (by simp [progress])) rfl (fun _ => Iff.rfl)
      (moving _ _ rfl stage.symm)
  | succeeded =>
    exact .idle (admitted (by simp [progress]) (by simp [progress])) rfl (fun _ => Iff.rfl) rfl
  | failed =>
    exact .idle (admitted (by simp [progress]) (by simp [progress])) rfl (fun _ => Iff.rfl) rfl

/-- A step moves nobody but the command that takes it. -/
theorem step_other {commands : Index → AssigningCommand} {race : Race Index}
    {turn : RaceTurn Index} {index : Index} (other : index ≠ turn.command) :
    (race.step environment commands turn).progress index = race.progress index := by
  have elsewhere (waited : Race Index) (progress : AssigningProgress) :
      (waited.moved turn.command progress).progress index = waited.progress index :=
    Function.update_of_ne other _ _
  have current : (race.wait turn.elapsed).progress turn.command = race.progress turn.command := rfl
  rw [step, proceed, current]
  cases race.progress turn.command with
  | loaded serviceRequest =>
    simp only
    cases (commands turn.command).assign serviceRequest <;> exact elsewhere _ _
  | succeeded => rfl
  | failed => rfl
  | _ => exact elsewhere _ _

/-- A copy that is at hand after a step was at hand before it, or has just been read. -/
theorem step_loaded {commands : Index → AssigningCommand} {race : Race Index}
    {turn : RaceTurn Index} {index : Index} {serviceRequest : ServiceRequest}
    (loaded : (race.step environment commands turn).progress index = .loaded serviceRequest) :
    race.progress index = .loaded serviceRequest ∨ serviceRequest = race.world.load := by
  by_cases own : index = turn.command
  · subst own
    have current : (race.wait turn.elapsed).progress turn.command = race.progress turn.command :=
      rfl
    rw [step, proceed, current] at loaded
    cases progress : race.progress turn.command with
    | waiting =>
      rw [progress] at loaded
      cases (Function.update_self _ _ _).symm.trans loaded
      exact Or.inr rfl
    | loaded copy =>
      rw [progress] at loaded
      simp only at loaded
      cases assigns : (commands turn.command).assign copy with
      | error error =>
        rw [assigns] at loaded
        cases (Function.update_self _ _ _).symm.trans loaded
      | ok assigned =>
        rw [assigns] at loaded
        have stages := congrArg AssigningProgress.stage
          ((Function.update_self _ _ _).symm.trans loaded)
        rw [AssigningCommand.stage_afterSaving] at stages
        cases stages
    | succeeded =>
      rw [progress] at loaded
      cases progress.symm.trans loaded
    | failed =>
      rw [progress] at loaded
      cases progress.symm.trans loaded
    | _ =>
      rw [progress] at loaded
      cases (Function.update_self _ _ _).symm.trans loaded
  · exact Or.inl ((step_other own).symm.trans loaded)

/-- A command that reads and saves without another in between leaves the request as its operation
does. Nothing it does later touches the request. -/
theorem run_alone (environment : Environment) (commands : Index → AssigningCommand)
    (race : Race Index) (index : Index) (elapsed : Nat) (waiting : race.progress index = .waiting) :
    (run (step environment commands) race [⟨elapsed, index⟩, ⟨0, index⟩]).world =
      race.world.step environment ⟨elapsed, (commands index).operation⟩ := by
  have same (world : World) : world.wait 0 = world :=
    congrArg (fun clock => { world with clock := clock }) (Int.add_zero world.clock)
  have first : race.step environment commands ⟨elapsed, index⟩ =
      (race.wait elapsed).moved index (.loaded (race.world.wait elapsed).load) := by
    have current : (race.wait elapsed).progress index = .waiting := waiting
    rw [step, proceed, current]
    rfl
  have loaded : (((race.wait elapsed).moved index (.loaded (race.world.wait elapsed).load)).wait
      0).progress index = .loaded (race.world.wait elapsed).load := Function.update_self _ _ _
  rw [run_cons, run_cons, run_nil, first, step, proceed, loaded, World.step,
    AssigningCommand.execute_operation]
  simp only
  cases (commands index).assign (race.world.wait elapsed).load with
  | error error => exact same _
  | ok assigned =>
    show ((race.world.wait elapsed).wait 0).save environment assigned = _
    rw [same]
    rfl

/-! ### Where the commands stand -/

/-- What is known in every state of a race: who is where, against the request it was opened on. -/
structure Valid (commands : Index → AssigningCommand) (start : World) (race : Race Index) :
    Prop where
  id : race.world.request.id = start.request.id
  repository : race.world.repository = start.repository
  untouched : (∀ index, race.stage index = 0) → race.world.request = start.request
  taken : ∀ index, race.stage index ≠ 0 → isJobTaken race.world.load.service = true
  loaded : ∀ index serviceRequest, race.progress index = .loaded serviceRequest →
    serviceRequest.id = start.request.id ∧
      (isJobTaken serviceRequest.service = true ∨ serviceRequest = start.load)
  dispatcher : ∀ index, race.stage index ≠ 0 →
    (∀ other, race.stage other ≠ 0 → other = index) →
    race.world.load.service.dispatcherId = some (commands index).providerId

/-- What the commands that have written something owe each other. -/
structure Sound (commands : Index → AssigningCommand) (race : Race Index) : Prop where
  single : ∀ first second, race.stage first ≠ 0 → race.stage second ≠ 0 → first = second
  accepted : ∀ index, 2 ≤ race.stage index →
    race.HasAssignment (commands index).providerId .accepted
  only : ∀ index, race.stage index = 3 → ∀ providerId,
    race.HasAssignment providerId .accepted → providerId = (commands index).providerId

section

variable {commands : Index → AssigningCommand} {start : World} {race : Race Index}

omit [DecidableEq Index] in
theorem valid_opened (commands : Index → AssigningCommand) (world : World)
    (assignments : List Assignment) (appointments : List AppointmentRow) :
    (Race.opened world assignments appointments).Valid commands world where
  id := rfl
  repository := rfl
  untouched _ := rfl
  taken _ written := absurd rfl written
  loaded _ _ loaded := by cases loaded
  dispatcher _ written := absurd rfl written

omit [DecidableEq Index] in
theorem sound_opened (commands : Index → AssigningCommand) (world : World)
    (assignments : List Assignment) (appointments : List AppointmentRow) :
    (Race.opened world assignments appointments).Sound commands where
  single _ _ written := absurd rfl written
  accepted _ far := by cases far
  only _ far := by cases far

omit [DecidableEq Index] in
/-- As long as nobody has written, the request is loaded as it was at the start. -/
theorem Valid.load_eq (valid : race.Valid commands start)
    (untouched : ∀ index, race.stage index = 0) : race.world.load = start.load := by
  rw [World.load, World.load, valid.untouched untouched, valid.repository]

omit [DecidableEq Index] in
/-- When a command is about to save, the stored request is untaken exactly if nobody has
written. -/
theorem Valid.untaken_iff (valid : race.Valid commands start) {index : Index}
    {serviceRequest assigned : ServiceRequest}
    (loaded : race.progress index = .loaded serviceRequest)
    (assigns : (commands index).assign serviceRequest = .ok assigned) :
    isJobTaken race.world.load.service = false ↔ ∀ other, race.stage other = 0 := by
  constructor
  · intro untaken other
    by_contra written
    rw [valid.taken other written] at untaken
    cases untaken
  · intro untouched
    have free := (AssigningCommand.assign_untaken assigns).1
    obtain taken | copied := (valid.loaded index serviceRequest loaded).2
    · rw [taken] at free
      cases free
    · rw [valid.load_eq untouched, ← copied]
      exact free

/-- A copy read in a valid state is good for the start or taken. -/
theorem Valid.step_loaded (valid : race.Valid commands start) (environment : Environment)
    (turn : RaceTurn Index) (index : Index) (serviceRequest : ServiceRequest)
    (loaded : (race.step environment commands turn).progress index = .loaded serviceRequest) :
    serviceRequest.id = start.request.id ∧
      (isJobTaken serviceRequest.service = true ∨ serviceRequest = start.load) := by
  obtain before | rfl := Race.step_loaded loaded
  · exact valid.loaded index serviceRequest before
  · refine ⟨valid.id, ?_⟩
    by_cases untouched : ∀ index, race.stage index = 0
    · exact Or.inr (valid.load_eq untouched)
    · obtain ⟨other, written⟩ := not_forall.mp untouched
      exact Or.inl (valid.taken other written)

/-- A step that does not save the request leaves everybody where they are with it. -/
theorem Valid.step_kept (valid : race.Valid commands start) (environment : Environment)
    (turn : RaceTurn Index)
    (stored : (race.step environment commands turn).world = race.world.wait turn.elapsed)
    (same : ∀ index, (race.step environment commands turn).stage index ≠ 0 ↔
      race.stage index ≠ 0) : (race.step environment commands turn).Valid commands start where
  id := by rw [stored]; exact valid.id
  repository := by rw [stored]; exact valid.repository
  untouched nobody := by
    rw [stored]
    refine valid.untouched fun index => ?_
    by_contra written
    exact (same index).mpr written (nobody index)
  taken index written := by
    rw [stored]
    exact valid.taken index ((same index).mp written)
  loaded := valid.step_loaded environment turn
  dispatcher index written alone := by
    rw [stored]
    exact valid.dispatcher index ((same index).mp written)
      fun other others => alone other ((same other).mpr others)

theorem Valid.step (valid : race.Valid commands start) (environment : Environment)
    (turn : RaceTurn Index) : (race.step environment commands turn).Valid commands start := by
  have later (index : Index) (value : Nat) (written : value ≠ 0)
      (before : race.stage turn.command ≠ 0) :
      Function.update race.stage turn.command value index ≠ 0 ↔ race.stage index ≠ 0 := by
    by_cases own : index = turn.command
    · rw [own, Function.update_self]
      exact iff_of_true written before
    · rw [Function.update_of_ne own]
  cases race.step_proceeds environment commands turn with
  | idle admitted stored accepted stage =>
    exact valid.step_kept environment turn stored fun index => by rw [stage]
  | saves serviceRequest assigned loaded assigns stored assignments stage =>
    have saved := AssigningCommand.saves assigns environment (race.world.wait turn.elapsed)
    refine ⟨?_, ?_, fun nobody => ?_, fun index written => ?_,
      valid.step_loaded environment turn, fun index written alone => ?_⟩
    · rw [stored]
      exact (AssigningCommand.assign_untaken assigns).2.trans (valid.loaded _ _ loaded).1
    · rw [stored]
      exact valid.repository
    · have own := nobody turn.command
      rw [stage, Function.update_self] at own
      cases own
    · rw [stored]
      exact saved.1
    · rw [stored, ← alone turn.command (by rw [stage, Function.update_self]; exact one_ne_zero)]
      exact saved.2
  | accepts serviceRequest assigned stored accepted stage =>
    refine valid.step_kept environment turn stored fun index => ?_
    rw [stage]
    refine later index 2 two_ne_zero ?_
    rw [Race.stage, assigned]
    exact one_ne_zero
  | rejects serviceRequest marked stored accepted stage =>
    refine valid.step_kept environment turn stored fun index => ?_
    rw [stage]
    refine later index 3 three_ne_zero ?_
    rw [Race.stage, marked]
    exact two_ne_zero

/-- Whoever has written something before a step that writes is the one who takes it. -/
theorem Sound.writer {after : Race Index} {index : Index} {value : Nat}
    (sound : after.Sound commands) (written : value ≠ 0)
    (stage : after.stage = Function.update race.stage index value) {other : Index}
    (before : race.stage other ≠ 0) : other = index := by
  by_contra apart
  refine apart (sound.single other index ?_ ?_)
  · rw [stage, Function.update_of_ne apart]
    exact before
  · rw [stage, Function.update_self]
    exact written

omit [DecidableEq Index] in
/-- Between sound commands nobody else has written what a writer has. -/
theorem Sound.alone (sound : race.Sound commands) {index : Index}
    (written : race.stage index ≠ 0) (other : Index) (apart : other ≠ index) :
    race.stage other = 0 := by
  by_contra before
  exact apart (sound.single other index before written)

/-- After a step that writes and takes nobody over, only the one who took it has written. -/
theorem stage_of_alone {after : Race Index} {index : Index} {value : Nat}
    (stage : after.stage = Function.update race.stage index value)
    (alone : ∀ other, other ≠ index → race.stage other = 0) (other : Index)
    (written : after.stage other ≠ 0) : other = index ∧ after.stage other = value := by
  rw [stage] at written ⊢
  by_cases own : other = index
  · rw [own, Function.update_self]
    exact ⟨rfl, rfl⟩
  · rw [Function.update_of_ne own, alone other own] at written
    exact absurd rfl written

/-- Where nobody else has written, all depends on the one who has. -/
theorem sound_of_alone {after : Race Index} {index : Index} {value : Nat}
    (stage : after.stage = Function.update race.stage index value)
    (alone : ∀ other, other ≠ index → race.stage other = 0)
    (accepted : 2 ≤ value → after.HasAssignment (commands index).providerId .accepted)
    (only : value = 3 → ∀ providerId, after.HasAssignment providerId .accepted →
      providerId = (commands index).providerId) : after.Sound commands := by
  have writer := stage_of_alone stage alone
  refine ⟨fun first second one two => ?_, fun other far => ?_, fun other far => ?_⟩
  · rw [(writer first one).1, (writer second two).1]
  · obtain ⟨rfl, reached⟩ := writer other (by omega)
    exact accepted (reached ▸ far)
  · obtain ⟨rfl, reached⟩ := writer other (by omega)
    exact only (reached ▸ far)

/-- What has gone wrong between the commands does not come right again. -/
theorem sound_of_step (environment : Environment) (turn : RaceTurn Index)
    (sound : (race.step environment commands turn).Sound commands) : race.Sound commands := by
  cases race.step_proceeds environment commands turn with
  | idle admitted stored accepted stage =>
    refine ⟨fun first second => ?_, fun index => ?_, fun index => ?_⟩
    · rw [← stage]
      exact sound.single first second
    · rw [← stage, ← accepted]
      exact sound.accepted index
    · rw [← stage]
      intro far providerId
      rw [← accepted]
      exact sound.only index far providerId
  | saves serviceRequest assigned loaded assigns stored assignments stage =>
    have nobody (index : Index) : race.stage index = 0 := by
      by_contra before
      have own := sound.writer one_ne_zero stage before
      rw [own, Race.stage, loaded] at before
      exact before rfl
    refine ⟨fun first _ written => ?_, fun index far => ?_, fun index far => ?_⟩
    · exact absurd (nobody first) written
    · rw [nobody index] at far
      cases far
    · rw [nobody index] at far
      cases far
  | accepts serviceRequest assigned stored accepted stage =>
    have own (index : Index) (before : race.stage index ≠ 0) : race.stage index = 1 := by
      rw [sound.writer two_ne_zero stage before, Race.stage, assigned]
      rfl
    refine ⟨fun first second one two => ?_, fun index far => ?_, fun index far => ?_⟩
    · rw [sound.writer two_ne_zero stage one, sound.writer two_ne_zero stage two]
    · have now := own index (by omega)
      omega
    · have now := own index (by omega)
      omega
  | rejects serviceRequest marked stored accepted stage =>
    have own (index : Index) (before : race.stage index ≠ 0) : race.stage index = 2 := by
      rw [sound.writer three_ne_zero stage before, Race.stage, marked]
      rfl
    refine ⟨fun first second one two => ?_, fun index far => ?_, fun index far => ?_⟩
    · rw [sound.writer three_ne_zero stage one, sound.writer three_ne_zero stage two]
    · have same : index = turn.command := sound.writer three_ne_zero stage (by omega)
      subst same
      refine ((accepted _).mp (sound.accepted turn.command ?_)).1
      rw [stage, Function.update_self]
      omega
    · have now := own index (by omega)
      omega

/-- A step keeps the commands sound exactly if the condition admits it. -/
theorem sound_step_iff (valid : race.Valid commands start) (sound : race.Sound commands)
    (environment : Environment) (turn : RaceTurn Index) :
    (race.step environment commands turn).Sound commands ↔ race.Admits commands turn := by
  cases race.step_proceeds environment commands turn with
  | idle admitted stored accepted stage =>
    refine iff_of_true ⟨?_, fun index => ?_, fun index => ?_⟩ admitted
    · rw [stage]
      exact sound.single
    · rw [stage, accepted]
      exact sound.accepted index
    · rw [stage]
      intro far providerId
      rw [accepted]
      exact sound.only index far providerId
  | saves serviceRequest assigned loaded assigns stored assignments stage =>
    constructor
    · intro after
      refine ⟨fun _ _ _ => ?_, fun other elsewhere => ?_⟩
      · refine (valid.untaken_iff loaded assigns).mpr fun other => ?_
        by_contra before
        have own := after.writer one_ne_zero stage before
        rw [own, Race.stage, loaded] at before
        exact before rfl
      · rw [loaded] at elsewhere
        cases elsewhere
    · intro admits
      have nobody := (valid.untaken_iff loaded assigns).mp
        (admits.untaken serviceRequest loaded ⟨assigned, assigns⟩)
      exact sound_of_alone stage (fun other _ => nobody other)
        (fun far => absurd far (by decide)) (fun far => absurd far (by decide))
  | accepts serviceRequest assigned stored accepted stage =>
    have own : race.stage turn.command = 1 := by
      rw [Race.stage, assigned]
      rfl
    constructor
    · intro after
      refine ⟨fun other elsewhere => ?_, fun _ _ => ?_⟩
      · rw [assigned] at elsewhere
        cases elsewhere
      · have marked := after.accepted turn.command (by rw [stage, Function.update_self])
        obtain before | ⟨-, before⟩ := (accepted _).mp marked
        · exact Or.inr before
        · exact Or.inl before
    · intro admits
      refine sound_of_alone stage (sound.alone (by omega)) (fun _ => ?_)
        (fun far => absurd far (by decide))
      rw [accepted]
      obtain pending | before := admits.dispatched serviceRequest assigned
      · exact Or.inr ⟨rfl, pending⟩
      · exact Or.inl before
  | rejects serviceRequest marked stored accepted stage =>
    have own : race.stage turn.command = 2 := by
      rw [Race.stage, marked]
      rfl
    refine iff_of_true (sound_of_alone stage (sound.alone (by omega)) (fun _ => ?_)
        fun _ providerId held => ((accepted providerId).mp held).2)
      ⟨fun other elsewhere => ?_, fun other elsewhere => ?_⟩
    · exact (accepted _).mpr ⟨sound.accepted turn.command (by omega), rfl⟩
    · rw [marked] at elsewhere
      cases elsewhere
    · rw [marked] at elsewhere
      cases elsewhere

omit [DecidableEq Index] in
/-- Once every command has come to its end, sound commands are those with one winner. -/
theorem sound_iff_hasOneWinner (valid : race.Valid commands start) (ended : race.IsOver) :
    race.Sound commands ↔ race.HasOneWinner := by
  have won {index : Index} : race.stage index ≠ 0 ↔ race.progress index = .succeeded := by
    rw [Race.stage]
    obtain succeeded | failed := ended index
    · simp [succeeded, AssigningProgress.stage]
    · simp [failed, AssigningProgress.stage]
  have far {index : Index} (succeeded : race.progress index = .succeeded) :
      race.stage index = 3 := by
    rw [Race.stage, succeeded]
    rfl
  have dispatched (single : ∀ first second, race.stage first ≠ 0 → race.stage second ≠ 0 →
      first = second) {winner : Index} (succeeded : race.progress winner = .succeeded) :
      race.world.load.service.dispatcherId = some (commands winner).providerId :=
    valid.dispatcher winner (won.mpr succeeded)
      fun other written => single other winner written (won.mpr succeeded)
  constructor
  · intro sound
    refine ⟨fun first second one two => sound.single _ _ (won.mpr one) (won.mpr two), ?_⟩
    intro winner succeeded
    refine ⟨(commands winner).providerId, dispatched sound.single succeeded, fun providerId => ?_⟩
    constructor
    · exact sound.only winner (far succeeded) providerId
    · rintro rfl
      exact sound.accepted winner (by rw [far succeeded]; omega)
  · intro one
    have single (first second : Index) (left : race.stage first ≠ 0)
        (right : race.stage second ≠ 0) : first = second :=
      one.single first second (won.mp left) (won.mp right)
    have accepted {index : Index} (written : race.stage index ≠ 0) (providerId : Uuid) :
        race.HasAssignment providerId .accepted ↔ providerId = (commands index).providerId := by
      obtain ⟨dispatcherId, dispatches, only⟩ := one.accepted index (won.mp written)
      rw [dispatched single (won.mp written)] at dispatches
      cases dispatches
      exact only providerId
    refine ⟨single, fun index reached => ?_, fun index reached providerId => ?_⟩
    · exact (accepted (by omega) _).mpr rfl
    · exact (accepted (by omega) providerId).mp

end

end Race

/-- Whatever the order of their steps, commands for one request that have all come to their end
leave one winner, with the only accepted assignment, exactly if nobody saves over a job that has
been taken meanwhile and whoever saves still has an assignment to accept. -/
theorem race_hasOneWinner_iff (environment : Environment) (commands : Index → AssigningCommand)
    (world : World) (assignments : List Assignment) (appointments : List AppointmentRow)
    (turns : List (RaceTurn Index))
    (ended : (run (Race.step environment commands) (.opened world assignments appointments)
      turns).IsOver) :
    (run (Race.step environment commands) (.opened world assignments appointments)
        turns).HasOneWinner ↔
      Along (Race.step environment commands) (Race.Admits commands)
        (.opened world assignments appointments) turns := by
  have start := Race.valid_opened commands world assignments appointments
  have valid := preserved_run (Race.step environment commands) (Race.Valid commands world)
    (fun race turn valid => valid.step environment turn) _ turns start
  rw [← Race.sound_iff_hasOneWinner valid ended,
    ← throughout_iff_run _ _ (fun _ turn => Race.sound_of_step environment turn)]
  exact throughout_iff_along _ _ (Race.Valid commands world) _
    (fun race turn valid => valid.step environment turn)
    (fun race turn valid sound => Race.sound_step_iff valid sound environment turn) _ _ start
    (Race.sound_opened commands world assignments appointments)

/-- Two active contractors, who have both been asked. -/
def exampleRivals (first : Bool) : AssigningCommand :=
  if first then .accept exampleAnswer ⟨0, none⟩
  else .accept
    { providerId := ⟨"4a71", by decide⟩
      provider := some { exampleContractor with id := ⟨"4a71", by decide⟩ }
      matching := by simp } ⟨0, none⟩

/-- The paid request with an assignment for each of them, and no appointments. -/
def exampleRace : Race Bool :=
  .opened (run (World.step exampleEnvironment) (.opened exampleRequest .empty) examplePaid)
    [Assignment.create (exampleRivals true).providerId 30 exampleRequest.id 0,
      Assignment.create (exampleRivals false).providerId 30 exampleRequest.id 0] []

/-- The steps of some commands, one second after another. -/
def exampleTurns (order : List Bool) : List (RaceTurn Bool) :=
  order.map fun first => ⟨1000, first⟩

theorem race_hasOneWinner_iff_inTurn :
    (run (Race.step exampleEnvironment exampleRivals) exampleRace
        (exampleTurns [true, true, true, true, true, false, false])).HasOneWinner ↔
      Along (Race.step exampleEnvironment exampleRivals) (Race.Admits exampleRivals) exampleRace
        (exampleTurns [true, true, true, true, true, false, false]) :=
  race_hasOneWinner_iff exampleEnvironment exampleRivals _ _ _ _ (by
    unfold Race.IsOver
    decide +kernel)

/-- Both read the request before either saves it, and both succeed. -/
theorem two_winners :
    ¬(run (Race.step exampleEnvironment exampleRivals) exampleRace
        (exampleTurns [true, false, true, true, false, true, true, false, false,
          false])).HasOneWinner := by
  intro one
  have same := one.single true false (by decide +kernel) (by decide +kernel)
  cases same

end
end FieldService.Dispatching
