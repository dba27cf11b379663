/-
This file settles when the automatic assignment leaves a job with the provider who has it.

Confirmation, a provider's cancellation, a revocation and a reschedule make the sagas issue an
`InitiateAutoAssignmentCommand`, which is executed some time later. It loads the request, restarts
its service and saves it, and does not ask whether somebody has taken the job in the meantime. The
job processor that follows asks, but by then the provider has been taken off. An expiry, the other
operation that takes the provider off without being a cancellation, a revocation or a reschedule,
does not ask either.
-/

import FieldService.Dispatching.Racing

namespace FieldService.Dispatching

open Execution

/-! ### The commands that are waiting -/

/-- The request, and how many `InitiateAutoAssignmentCommand`s for it wait to be executed. -/
structure AssignmentQueue where
  world : World
  commands : Nat
  deriving DecidableEq, Repr

inductive QueueAction where
  /-- An operation on the request. -/
  | operate (action : Timed)
  /-- A command that waits is executed. -/
  | execute (elapsed : Nat)

/-- `handleServiceRequestFeePaymentGatewayResponded` publishes a `ServiceRequestConfirmedEvent`. -/
def confirms (environment : Environment) (world : World) : Bool :=
  match world.execute environment (.gatewayResponded (some .fee)) with
  | .error _ => false
  | .ok after => !world.load.hasCustomerPaid .fee && after.load.hasCustomerPaid .fee

/-- The commands the sagas issue for the event that an operation publishes. -/
def issued (environment : Environment) (world : World) (operation : Operation) : Nat :=
  match operation, publishedEvent environment world operation with
  | .gatewayResponded (some .fee), _ => if confirms environment world then 1 else 0
  | .cancelJob _, some (.cancelled _) => 1
  | .revoke _, some (.revoked serviceRequest) =>
    if serviceRequest.service.status = .failed then 0 else 1
  | _, some (.rescheduled _ _) => 1
  | _, _ => 0

namespace AssignmentQueue

/-- A request that has been created. One that need not be paid for is confirmed at once. -/
def opened (request : ServiceRequest) (repository : PaymentGatewayResponseRepository) :
    AssignmentQueue where
  world := .opened request repository
  commands := if request.config.paymentGatewayEnabled then 0 else 1

def step (environment : Environment) (queue : AssignmentQueue) : QueueAction → AssignmentQueue
  | .operate action =>
    { world := queue.world.step environment action
      commands := queue.commands +
        issued environment (queue.world.wait action.elapsed) action.operation }
  | .execute elapsed =>
    if queue.commands = 0 then { queue with world := queue.world.wait elapsed }
    else
      { world := queue.world.step environment ⟨elapsed, .initiateAutoAssignment⟩
        commands := queue.commands - 1 }

/-- The transition an action makes, if it makes one. -/
def performed (environment : Environment) (queue : AssignmentQueue) :
    QueueAction → Option Transition
  | .operate action => (queue.world.wait action.elapsed).performed environment action.operation
  | .execute elapsed =>
    if queue.commands = 0 then none
    else (queue.world.wait elapsed).performed environment .initiateAutoAssignment

end AssignmentQueue

/-! ### Staying assigned -/

/-- The job is taken, by the provider. -/
def IsAssignedTo (service : Service) (dispatcherId : Uuid) : Prop :=
  Race.isJobTaken service = true ∧ service.dispatcherId = some dispatcherId

/-- The transition of a cancellation, a revocation or a reschedule. -/
def withdraws : Transition → Bool
  | .terminate _ => true
  | .markFailed => true
  | _ => false

/-- A request that is assigned stays with its provider until it is cancelled, revoked or
rescheduled. -/
def AssignmentQueue.StaysAssigned (environment : Environment) (queue : AssignmentQueue)
    (actions : List QueueAction) : Prop :=
  ∀ dispatcherId, Persisting (AssignmentQueue.step environment)
    (fun queue => IsAssignedTo queue.world.request.service dispatcherId)
    (fun queue action => ∃ transition ∈ queue.performed environment action,
      withdraws transition = true)
    queue actions

/-- The operations that take the provider off whoever it is. -/
def restarts : Operation → Bool
  | .initiateAutoAssignment => true
  | .expire => true
  | _ => false

/-- The condition on a step: nothing restarts a job that is taken. -/
def AssignmentQueue.Admits (queue : AssignmentQueue) : QueueAction → Prop
  | .operate action => restarts action.operation = true →
    Race.isJobTaken queue.world.request.service = false
  | .execute _ => queue.commands ≠ 0 → Race.isJobTaken queue.world.request.service = false

/-! ### One operation -/

section

variable {environment : Environment} {world : World} {action : Timed} {dispatcherId : Uuid}

/-- A service that is rebuilt with its dispatcher and no cancellation is assigned to it. -/
theorem isAssignedTo_rebuilt {service after : Service} {transition : Transition}
    (rebuilt : Rebuilt environment service transition after) (notExpire : transition ≠ .expire)
    (running : transition.cancellationStatus = none)
    (dispatched : (transition.provider service).bind (·.dispatcherId) = some dispatcherId)
    (stored : after.dispatcherId = some dispatcherId) : IsAssignedTo after dispatcherId := by
  have assigned : after.allocationStatus ≠ .unassigned := by
    rw [rebuilt.allocationStatus, calculateAllocationStatus_eq, dispatched]
    cases (transition.provider service).bind (·.workerId) <;> simp
  have uncancelled : after.status.hasBeenCancelled = false := by
    rw [rebuilt.status, Transition.apply_status service transition notExpire, running]
    exact calculateStatus_hasBeenCancelled _ _ _ _
  refine ⟨?_, stored⟩
  rw [Race.isJobTaken, Bool.and_eq_true, Bool.not_eq_true', Service.hasBeenAssignedOrAllocated,
    decide_eq_true_iff]
  exact ⟨assigned, uncancelled⟩

/-- A service that is rebuilt without a dispatcher is assigned to nobody. -/
theorem not_isAssignedTo_rebuilt {service after : Service} {transition : Transition}
    (rebuilt : Rebuilt environment service transition after)
    (empty : calculateAllocationStatus (transition.provider service) = .unassigned) :
    ¬IsAssignedTo after dispatcherId := by
  rintro ⟨taken, -⟩
  rw [Race.isJobTaken, Service.hasBeenAssignedOrAllocated, rebuilt.allocationStatus, empty] at taken
  cases taken

/-- A step that does not withdraw the job keeps it with its provider exactly if it neither
restarts nor expires it. -/
theorem isAssignedTo_step_iff (assigned : IsAssignedTo world.request.service dispatcherId)
    (stays : ∀ transition ∈ (world.wait action.elapsed).performed environment action.operation,
      withdraws transition = false) :
    IsAssignedTo (world.step environment action).request.service dispatcherId ↔
      ∀ transition ∈ (world.wait action.elapsed).performed environment action.operation,
        transition ≠ .restart ∧ transition ≠ .expire := by
  cases world.step_cases environment action with
  | kept performed service handlingEvents =>
    obtain ⟨last, columns⟩ := World.kept_columns service
    rw [performed, columns]
    exact iff_of_true assigned (by simp)
  | made transition performed own permitted repository handlingEvents service =>
    rw [performed] at stays ⊢
    simp only [Option.mem_def, Option.some.injEq, forall_eq'] at stays ⊢
    have dispatched : world.loaded.dispatcherId = some dispatcherId := assigned.2
    have empty : calculateAllocationStatus (some .createEmptyProvider) = .unassigned := rfl
    show IsAssignedTo (world.step environment action).loaded dispatcherId ↔ _
    have kept (same : transition.provider world.loaded = world.loaded.provider)
        (notExpire : transition ≠ .expire) (running : transition.cancellationStatus = none) :
        IsAssignedTo (world.step environment action).loaded dispatcherId := by
      refine isAssignedTo_rebuilt service notExpire running ?_
        ((service.sameProvider same).1.trans dispatched)
      rw [same]
      exact dispatched
    cases transition with
    | assign dispatcher serviceSchedule =>
      have taken : Race.isJobTaken world.loaded = true := assigned.1
      have free := (World.granted own permitted).1
      rw [Race.isJobTaken, Bool.and_eq_true, Bool.not_eq_true'] at taken
      exact absurd taken free
    | allocate worker serviceSchedule =>
      have provided : (Transition.provider world.loaded (.allocate worker serviceSchedule)).bind
          (·.dispatcherId) = some dispatcherId := by
        rw [← dispatched, Service.dispatcherId, Transition.provider]
        cases world.loaded.provider <;> rfl
      have stored := service.dispatcherId (by simp) fun _ _ _ => by rw [dispatched]; rfl
      exact iff_of_true (isAssignedTo_rebuilt service (by simp) rfl provided
        (stored.trans provided)) (by simp)
    | progress history => exact iff_of_true (kept rfl (by simp) rfl) (by simp)
    | pay history => exact iff_of_true (kept rfl (by simp) rfl) (by simp)
    | terminate cancellationStatus => cases stays
    | markFailed => cases stays
    | expire => exact iff_of_false (not_isAssignedTo_rebuilt service empty) (by simp)
    | restart =>
      have absent : calculateAllocationStatus none = .unassigned := rfl
      exact iff_of_false (not_isAssignedTo_rebuilt service absent) (by simp)

/-- An operation that restarts the job makes the transition that does it, and no other makes
one. -/
theorem restarts_iff : restarts action.operation = true ↔
    ∃ transition ∈ (world.wait action.elapsed).performed environment action.operation,
      transition = .restart ∨ transition = .expire := by
  constructor
  · intro restarting
    cases operation : action.operation with
    | initiateAutoAssignment => exact ⟨.restart, rfl, Or.inl rfl⟩
    | expire => exact ⟨.expire, rfl, Or.inr rfl⟩
    | _ =>
      rw [operation] at restarting
      cases restarting
  · rintro ⟨transition, performs, restarting⟩
    cases world.step_cases environment action with
    | kept performed service handlingEvents =>
      rw [performed] at performs
      cases performs
    | made other performed own permitted repository handlingEvents service =>
      rw [performed] at performs
      cases performs
      have origin := World.comesFrom own
      cases operation : action.operation with
      | initiateAutoAssignment => rfl
      | expire => rfl
      | _ =>
        rw [operation] at origin
        obtain rfl | rfl := restarting <;> exact origin.elim

/-- Every provider who has the job keeps it over a step that does not withdraw it, exactly if the
step does not restart a job that is taken. -/
theorem keeps_assigned_iff (consistent : world.request.service.Consistent) :
    (∀ dispatcherId, IsAssignedTo world.request.service dispatcherId →
      (¬∃ transition ∈ (world.wait action.elapsed).performed environment action.operation,
        withdraws transition = true) →
      IsAssignedTo (world.step environment action).request.service dispatcherId) ↔
      (restarts action.operation = true → Race.isJobTaken world.request.service = false) := by
  constructor
  · intro keeps restarting
    by_contra taken
    rw [Bool.not_eq_false] at taken
    have assigned : world.request.service.allocationStatus ≠ .unassigned := by
      rw [Race.isJobTaken, Bool.and_eq_true, Service.hasBeenAssignedOrAllocated,
        decide_eq_true_iff] at taken
      exact taken.1
    obtain ⟨dispatcherId, dispatched⟩ :=
      Option.isSome_iff_exists.mp (consistent.dispatched assigned)
    obtain ⟨transition, performs, which⟩ := restarts_iff.mp restarting
    have unwithdrawn : ∀ other ∈
        (world.wait action.elapsed).performed environment action.operation,
        withdraws other = false := by
      intro other also
      rw [Option.mem_unique also performs]
      obtain rfl | rfl := which <;> rfl
    have still := keeps dispatcherId ⟨taken, dispatched⟩ fun withdrawal => by
      obtain ⟨other, also, withdrawn⟩ := withdrawal
      rw [unwithdrawn other also] at withdrawn
      cases withdrawn
    have spared := (isAssignedTo_step_iff ⟨taken, dispatched⟩ unwithdrawn).mp still transition
      performs
    obtain restarted | expired := which
    · exact spared.1 restarted
    · exact spared.2 expired
  · intro spares dispatcherId assigned stays
    have unwithdrawn : ∀ transition ∈
        (world.wait action.elapsed).performed environment action.operation,
        withdraws transition = false := fun transition performs =>
      Bool.eq_false_iff.mpr fun withdrawn => stays ⟨transition, performs, withdrawn⟩
    refine (isAssignedTo_step_iff assigned unwithdrawn).mpr fun transition performs => ?_
    have spared (which : transition = .restart ∨ transition = .expire) : False := by
      have free := spares (restarts_iff.mpr ⟨transition, performs, which⟩)
      rw [assigned.1] at free
      cases free
    exact ⟨fun restarted => spared (Or.inl restarted), fun expired => spared (Or.inr expired)⟩

end

/-! ### Every order of the commands -/

namespace AssignmentQueue

theorem consistent_step (environment : Environment) (queue : AssignmentQueue)
    (action : QueueAction) (consistent : queue.world.request.service.Consistent) :
    (queue.step environment action).world.request.service.Consistent := by
  cases action with
  | operate action => exact World.consistent_step environment queue.world action consistent
  | execute elapsed =>
    rw [step]
    split
    · exact consistent
    · exact World.consistent_step environment queue.world _ consistent

/-- A step keeps the job with whoever has it exactly if the condition admits it. -/
theorem keeps_assigned_iff_admits (environment : Environment) (queue : AssignmentQueue)
    (action : QueueAction) (consistent : queue.world.request.service.Consistent) :
    (∀ dispatcherId, IsAssignedTo queue.world.request.service dispatcherId →
      (¬∃ transition ∈ queue.performed environment action, withdraws transition = true) →
      IsAssignedTo (queue.step environment action).world.request.service dispatcherId) ↔
      queue.Admits action := by
  cases action with
  | operate action => exact keeps_assigned_iff consistent
  | execute elapsed =>
    rw [performed, step, Admits]
    split
    · rename_i empty
      exact iff_of_true (fun _ assigned _ => assigned) fun waiting => absurd empty waiting
    · rename_i waiting
      have keeps := @keeps_assigned_iff environment queue.world ⟨elapsed, .initiateAutoAssignment⟩
        consistent
      refine keeps.trans ?_
      exact ⟨fun spares _ => spares rfl, fun spares _ => spares waiting⟩

end AssignmentQueue

/-- Whatever the order in which operations and waiting commands are executed, a request that is
assigned stays with its provider until it is cancelled, revoked or rescheduled, exactly if no
command and no expiry is executed while the job is taken. -/
theorem staysAssigned_iff {environment : Environment} {input : ServiceRequestInput} {now : Time}
    {request : ServiceRequest}
    (created : ServiceRequest.create environment input now = .ok request)
    (repository : PaymentGatewayResponseRepository) (actions : List QueueAction) :
    (AssignmentQueue.opened request repository).StaysAssigned environment actions ↔
      Along (AssignmentQueue.step environment) AssignmentQueue.Admits (.opened request repository)
        actions := by
  simp only [AssignmentQueue.StaysAssigned, persisting_iff_along, along_forall]
  exact along_congr _ (fun queue => queue.world.request.service.Consistent) (fun _ _ => True)
    (fun queue action consistent _ => queue.consistent_step environment action consistent)
    (fun queue action consistent _ =>
      queue.keeps_assigned_iff_admits environment action consistent)
    _ _ (ServiceRequest.create_consistent created) (along_trivial _ _ _)

/-- A command that comes first leaves the job alone. -/
theorem staysAssigned_iff_inTime :
    (AssignmentQueue.opened exampleRequest .empty).StaysAssigned exampleEnvironment
        (examplePaid.map .operate ++
          [.execute 100, .operate ⟨100, .manuallyAssign exampleAnswer ⟨0, none⟩⟩]) ↔
      Along (AssignmentQueue.step exampleEnvironment) AssignmentQueue.Admits
        (.opened exampleRequest .empty) (examplePaid.map .operate ++
          [.execute 100, .operate ⟨100, .manuallyAssign exampleAnswer ⟨0, none⟩⟩]) :=
  staysAssigned_iff exampleRequest_created .empty _

/-- The fee is paid, and an operator assigns the job before the command of the confirmation is
executed. -/
def exampleManually : List QueueAction :=
  examplePaid.map .operate ++ [.operate ⟨100, .manuallyAssign exampleAnswer ⟨0, none⟩⟩]

/-- The command of the confirmation takes the job away from the contractor who was assigned. -/
theorem not_staysAssigned_overtaken :
    ¬(AssignmentQueue.opened exampleRequest .empty).StaysAssigned exampleEnvironment
      (exampleManually ++ [.execute 100]) := by
  intro stays
  have unwithdrawn : ¬∃ transition ∈ (run (AssignmentQueue.step exampleEnvironment)
      (.opened exampleRequest .empty) exampleManually).performed exampleEnvironment (.execute 100),
      withdraws transition = true := by
    rw [AssignmentQueue.performed, if_neg (by decide +kernel)]
    rintro ⟨transition, ⟨⟩, ⟨⟩⟩
  have assigned := stays exampleContractor.id exampleManually [.execute 100] List.prefix_rfl
    ⟨by decide +kernel, by decide +kernel⟩ ⟨unwithdrawn, trivial⟩
  have free : Race.isJobTaken (run (AssignmentQueue.step exampleEnvironment)
      (.opened exampleRequest .empty)
      (exampleManually ++ [.execute 100])).world.request.service = false := by
    decide +kernel
  exact Bool.false_ne_true (free.symm.trans assigned.1)

end FieldService.Dispatching
