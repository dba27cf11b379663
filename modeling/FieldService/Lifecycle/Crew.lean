/-
This file settles when a job is done by the people of the dispatcher it was given to.

A worker comes into the service with an allocation, whose handler looks the worker up and asks
nothing about it; and a handling event names whoever has sent it, because the check of the
event factory is switched off. Whoever holds the service after a transition is the dispatcher
and the worker the transition has built it with, so it is said of each transition which pair
that is (`crewAllows`), and a run keeps to the dispatcher's own people exactly if every
transition it makes does.
-/

import FieldService.Library.Table
import FieldService.Lifecycle.Steps

namespace FieldService

open Execution

/-! ### Dealers and their workers -/

/-- What is read of a row of `service_providers` to tell whose worker it is. -/
structure CrewMember where
  id : Uuid
  type : ServiceProviderType
  dealerId : Option Uuid
  deriving DecidableEq, Repr

abbrev Directory := Table Uuid CrewMember (·.id)

/-- `GetWorkersOfDealerHandler.execute`, with the workers that are busy at the time. -/
def Directory.getWorkersOfDealer (directory : Directory) (dealerId : Uuid)
    (busyWorkerIDs : List Uuid) : List CrewMember :=
  (directory.rows.filter fun member =>
    member.type = .worker ∧ member.dealerId = some dealerId).filter fun worker =>
      !busyWorkerIDs.contains worker.id

/-- The worker is the dispatcher, or is of type `WORKER` and its dealer is the dispatcher. -/
def Directory.isOwn (directory : Directory) (dispatcherId workerId : Uuid) : Bool :=
  decide (workerId = dispatcherId) ||
    (directory.find workerId).any fun member =>
      member.type = .worker ∧ member.dealerId = some dispatcherId

/-- Whoever a dealer is offered for a job is one of its own. -/
theorem Directory.isOwn_of_mem (directory : Directory) {dealerId : Uuid}
    {busyWorkerIDs : List Uuid} {worker : CrewMember}
    (offered : worker ∈ directory.getWorkersOfDealer dealerId busyWorkerIDs) :
    directory.isOwn dealerId worker.id = true := by
  obtain ⟨member, own⟩ := List.mem_filter.mp (List.mem_filter.mp offered).1
  rw [isOwn, directory.find_of_mem member]
  exact (Bool.or_eq_true _ _).mpr (Or.inr own)

/-! ### Crews -/

/-- An allocated service is in the hands of its dispatcher and of one of the dispatcher's own
people. -/
def Service.HasOwnCrew (directory : Directory) (service : Service) : Prop :=
  service.allocationStatus = .allocated →
    ∃ dispatcherId workerId, service.dispatcherId = some dispatcherId ∧
      service.workerId = some workerId ∧ directory.isOwn dispatcherId workerId = true

/-- The event that a handling records is submitted by the worker who is allocated then. -/
def SubmittedByWorker (environment : Environment) (world : World) (action : Timed) : Prop :=
  match action.operation with
  | .handle input =>
    ((world.wait action.elapsed).performed environment action.operation).isSome = true →
      world.request.service.allocationStatus = .allocated ∧
        world.request.service.workerId = some input.providerWorkerId
  | _ => True

instance (environment : Environment) (world : World) (action : Timed) :
    Decidable (SubmittedByWorker environment world action) := by
  obtain ⟨elapsed, operation⟩ := action
  cases operation with
  | handle input => exact inferInstanceAs (Decidable (_ → _ ∧ _))
  | _ => exact inferInstanceAs (Decidable True)

/-- The dispatcher and the worker a service has on record belong together, if it has both. -/
def Service.recordsOwnCrew (directory : Directory) (service : Service) : Bool :=
  service.dispatcherId.all fun dispatcherId => service.workerId.all (directory.isOwn dispatcherId)

/-- What has to be known of a service for a transition to leave it in the hands of the
dispatcher's own people: a worker that is allocated is one of them, and so is the worker on
record when the transition takes the provider as it is. -/
def crewAllows (directory : Directory) (service : Service) : Option Transition → Bool
  | some (.allocate worker _) =>
    service.dispatcherId.all fun dispatcherId => directory.isOwn dispatcherId worker.id
  | some (.progress _) | some (.pay _) | some .markFailed => service.recordsOwnCrew directory
  | _ => true

/-- The condition on a step: a transition that is performed keeps to the dispatcher's own
people, and an event is submitted by the worker who is allocated. -/
def KeepsCrew (environment : Environment) (directory : Directory) (world : World)
    (action : Timed) : Prop :=
  crewAllows directory world.loaded
      ((world.wait action.elapsed).performed environment action.operation) = true ∧
    SubmittedByWorker environment world action

instance (environment : Environment) (directory : Directory) (world : World) (action : Timed) :
    Decidable (KeepsCrew environment directory world action) :=
  inferInstanceAs (Decidable (_ ∧ _))

/-! ### One transition -/

section

variable {environment : Environment} {directory : Directory} {service after : Service}
  {transition : Transition}

/-- A service that is allocated as it is rebuilt has the dispatcher and the worker it was built
with. -/
theorem Rebuilt.crew (rebuilt : Rebuilt environment service transition after) :
    after.HasOwnCrew directory ↔
      ((transition.provider service).bind (·.dispatcherId)).all (fun dispatcherId =>
        ((transition.provider service).bind (·.workerId)).all (directory.isOwn dispatcherId)) =
        true := by
  rw [Service.HasOwnCrew, rebuilt.allocationStatus, calculateAllocationStatus_eq,
    Service.dispatcherId, Service.workerId, rebuilt.provider]
  rcases built : transition.provider service with _ | provider
  · simp
  rw [Option.bind_some, Option.bind_some]
  rcases dispatched : provider.dispatcherId with _ | dispatcherId
  · simp
  rcases staffed : provider.workerId with _ | workerId
  · simp
  have dispatcherPresent : provider.dispatcher ≠ none := by
    intro absent
    simp [Provider.dispatcherId, absent] at dispatched
  have workerPresent : provider.worker ≠ none := by
    intro absent
    simp [Provider.workerId, absent] at staffed
  rw [Provider.persist_dispatcherId _ _ _ dispatcherPresent,
    Provider.persist_workerId _ _ _ workerPresent, dispatched, staffed]
  simp

theorem isOwn_self (directory : Directory) (dispatcherId : Uuid) :
    directory.isOwn dispatcherId dispatcherId = true := by
  simp [Directory.isOwn]

/-- The service after a transition has a crew of the dispatcher's own exactly if the transition
is allowed. -/
theorem hasOwnCrew_rebuilt_iff (rebuilt : Rebuilt environment service transition after) :
    after.HasOwnCrew directory ↔ crewAllows directory service (some transition) = true := by
  rw [rebuilt.crew]
  cases transition with
  | assign dispatcher serviceSchedule =>
    simp only [Transition.provider, crewAllows]
    split
    · simp [Provider.dispatcherId, Provider.workerId, Agent.ofServiceProvider, isOwn_self]
    · simp [Service.dispatchedTo, Provider.workerId]
  | allocate worker serviceSchedule =>
    have sameDispatcher : (Transition.provider service (.allocate worker serviceSchedule)).bind
        (·.dispatcherId) = service.dispatcherId := by
      rw [Service.dispatcherId, Transition.provider]
      cases service.provider <;> rfl
    rw [sameDispatcher]
    exact Iff.rfl
  | progress history => exact Iff.rfl
  | pay history => exact Iff.rfl
  | markFailed => exact Iff.rfl
  | terminate cancellationStatus => exact iff_of_true rfl rfl
  | expire => exact iff_of_true rfl rfl
  | restart => exact iff_of_true rfl rfl

end

/-! ### Runs -/

theorem World.crew_step_iff (environment : Environment) (directory : Directory) (world : World)
    (action : Timed) (own : world.request.service.HasOwnCrew directory) :
    SubmittedByWorker environment world action ∧
        (world.step environment action).request.service.HasOwnCrew directory ↔
      KeepsCrew environment directory world action := by
  rw [KeepsCrew, and_comm]
  refine and_congr_left fun _ => ?_
  cases world.step_cases environment action with
  | kept performed service handlingEvents =>
    rw [performed]
    obtain ⟨last, columns⟩ := World.kept_columns service
    rw [columns]
    exact iff_of_true own rfl
  | made transition performed own permitted repository handlingEvents service =>
    rw [performed]
    show (world.step environment action).loaded.HasOwnCrew directory ↔ _
    exact hasOwnCrew_rebuilt_iff service

/-- In a run of any operations, a service is in the hands of the dispatcher's own people in every
state, and every handling event is submitted by the worker allocated at that moment, exactly if
every step keeps to the crew. -/
theorem ownCrew_throughout_iff {environment : Environment} (directory : Directory)
    {input : ServiceRequestInput} {now : Time} {request : ServiceRequest}
    (created : ServiceRequest.create environment input now = .ok request)
    (repository : PaymentGatewayResponseRepository) (actions : List Timed) :
    Throughout (World.step environment)
          (fun world => world.request.service.HasOwnCrew directory)
          (.opened request repository) actions ∧
        Along (World.step environment) (SubmittedByWorker environment)
          (.opened request repository) actions ↔
      Along (World.step environment) (KeepsCrew environment directory)
        (.opened request repository) actions := by
  refine throughout_and_along_iff _ _ _ (fun _ => True) _ (fun _ _ _ => trivial)
    (fun world action _ own => world.crew_step_iff environment directory action own) _ _ trivial
    fun allocated => ?_
  obtain ⟨-, -, service⟩ := ServiceRequest.create_service created
  have unassigned : request.service.allocationStatus = .unassigned := by
    rw [service]
    rfl
  cases unassigned.symm.trans allocated

/-- The contractor, and one of a dealer's workers. -/
def exampleDirectory : Directory where
  rows :=
    [⟨exampleContractor.id, .independent, none⟩,
      ⟨⟨"7d4e", by decide⟩, .worker, some ⟨"9f01", by decide⟩⟩]
  distinct := by decide

/-- The theorem on a contractor who does the job without help. -/
theorem ownCrew_throughout_handled :
    Throughout (World.step exampleEnvironment)
          (fun world => world.request.service.HasOwnCrew exampleDirectory)
          (.opened exampleRequest .empty) (exampleAccepted ++ [⟨1000, .handle exampleHandling⟩]) ∧
        Along (World.step exampleEnvironment) (SubmittedByWorker exampleEnvironment)
          (.opened exampleRequest .empty) (exampleAccepted ++ [⟨1000, .handle exampleHandling⟩]) :=
  (ownCrew_throughout_iff exampleDirectory exampleRequest_created .empty _).mpr
    (by decide +kernel)

def exampleForeignWorker : ServiceProvider where
  id := ⟨"7d4e", by decide⟩
  name := some "Worker"
  phone := none
  profilePicture := none
  type := .worker
  generalStatus := .active

/-- The contractor allocates a worker of a dealer to the job and starts it all the same. -/
def exampleForeign : List Timed :=
  exampleAccepted ++
    [⟨1000, .allocate exampleAnswer ⟨exampleForeignWorker.id, some exampleForeignWorker, by simp⟩⟩,
      ⟨1000, .handle exampleHandling⟩]

theorem not_ownCrew_foreign :
    ¬ (Throughout (World.step exampleEnvironment)
          (fun world => world.request.service.HasOwnCrew exampleDirectory)
          (.opened exampleRequest .empty) exampleForeign ∧
        Along (World.step exampleEnvironment) (SubmittedByWorker exampleEnvironment)
          (.opened exampleRequest .empty) exampleForeign) := by
  rintro ⟨throughout, -⟩
  obtain ⟨dispatcherId, workerId, dispatched, staffed, own⟩ :=
    throughout exampleForeign List.prefix_rfl (by decide +kernel)
  have dispatcher : (run (World.step exampleEnvironment) (.opened exampleRequest .empty)
      exampleForeign).request.service.dispatcherId = some exampleContractor.id := by decide +kernel
  have worker : (run (World.step exampleEnvironment) (.opened exampleRequest .empty)
      exampleForeign).request.service.workerId = some exampleForeignWorker.id := by decide +kernel
  obtain rfl := Option.some.inj (dispatcher.symm.trans dispatched)
  obtain rfl := Option.some.inj (worker.symm.trans staffed)
  revert own
  decide +kernel

end FieldService
