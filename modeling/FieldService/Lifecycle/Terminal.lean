/-
This file asks whether a closed request stays closed.

A request is closed when its service is fulfilled, has failed or has been cancelled by the
customer. The entity guards some of its methods against closed requests and leaves others
without a guard, so a run can reopen one. `closedAllows` lists what a closed request may
still go through, and `absorbing_iff` says that the terminal statuses are absorbing along a
run exactly if every operation that succeeds on a closed request is on that list.
-/

import FieldService.Lifecycle.Steps

namespace FieldService

open Execution

/-- The statuses from which a service is not meant to go on. -/
def ServiceStatusEnum.isTerminal : ServiceStatusEnum → Bool
  | .fulfilled => true
  | .failed => true
  | .cancelledByCustomer => true
  | _ => false

/-- From a closed request on, the status stays what it is and nobody is assigned or allocated:
an identifier of the provider is the old one or has been cleared. -/
def World.Settled (before after : World) : Prop :=
  before.request.service.status.isTerminal = true →
    after.request.service.status = before.request.service.status ∧
      (after.request.service.dispatcherId = none ∨
        after.request.service.dispatcherId = before.request.service.dispatcherId) ∧
      (after.request.service.workerId = none ∨
        after.request.service.workerId = before.request.service.workerId)

/-- What a service in a terminal status may go through. A fulfilled one can lose its provider
to a reschedule and see a late fee response, and a failed one can be marked as failed again. -/
def closedAllows (status : ServiceStatusEnum) : Option Transition → Bool
  | none => true
  | some (.terminate none) => status = .fulfilled
  | some (.pay _) => status = .fulfilled
  | some .markFailed => status = .failed
  | some _ => false

/-- An operation that succeeds on a closed request is one that a closed request allows. -/
def KeepsClosed (environment : Environment) (world : World) (action : Timed) : Prop :=
  world.request.service.status.isTerminal = true →
    closedAllows world.request.service.status
      ((world.wait action.elapsed).performed environment action.operation) = true

instance (environment : Environment) (world : World) (action : Timed) :
    Decidable (KeepsClosed environment world action) :=
  inferInstanceAs (Decidable (_ → _))

instance (before after : World) : Decidable (before.Settled after) :=
  inferInstanceAs (Decidable (_ → _))

theorem World.settled_refl (world : World) : world.Settled world :=
  fun _ => ⟨rfl, Or.inr rfl, Or.inr rfl⟩

theorem World.settled_trans (first second third : World) (early : first.Settled second)
    (late : second.Settled third) : first.Settled third := by
  intro closed
  obtain ⟨sameStatus, dispatcher, worker⟩ := early closed
  obtain ⟨stillStatus, laterDispatcher, laterWorker⟩ := late (by rw [sameStatus]; exact closed)
  refine ⟨stillStatus.trans sameStatus, ?_, ?_⟩
  · obtain gone | same := laterDispatcher
    · exact Or.inl gone
    · rw [same]
      exact dispatcher
  · obtain gone | same := laterWorker
    · exact Or.inl gone
    · rw [same]
      exact worker

/-! ### One transition of a closed service -/

section

variable {environment : Environment} {world : World} {after : Service} {transition : Transition}

/-- What a closed service allows leaves it closed. -/
theorem settled_of_closedAllows
    (rebuilt : Rebuilt environment world.loaded transition after)
    (consistent : world.loaded.Consistent)
    (allows : closedAllows world.loaded.status (some transition) = true) :
    after.status = world.loaded.status ∧
      (after.dispatcherId = none ∨ after.dispatcherId = world.loaded.dispatcherId) ∧
      (after.workerId = none ∨ after.workerId = world.loaded.workerId) := by
  cases transition with
  | terminate cancellationStatus =>
    cases cancellationStatus with
    | some cancellationStatus => cases allows
    | none =>
      have fulfilled : world.loaded.status = .fulfilled := by simpa [closedAllows] using allows
      obtain ⟨noDispatcher, noWorker⟩ := rebuilt.emptyProvider rfl
      refine ⟨?_, Or.inl noDispatcher, Or.inl noWorker⟩
      rw [rebuilt.status, fulfilled]
      exact calculateStatus_of_event (consistent.tracked .fullfil fulfilled)
  | pay history =>
    have fulfilled : world.loaded.status = .fulfilled := by simpa [closedAllows] using allows
    obtain ⟨dispatcher, worker⟩ := rebuilt.sameProvider rfl
    refine ⟨?_, Or.inr dispatcher, Or.inr worker⟩
    rw [rebuilt.status, fulfilled]
    exact calculateStatus_of_event (consistent.tracked .fullfil fulfilled)
  | markFailed =>
    have failed : world.loaded.status = .failed := by simpa [closedAllows] using allows
    obtain ⟨dispatcher, worker⟩ := rebuilt.sameProvider rfl
    refine ⟨?_, Or.inr dispatcher, Or.inr worker⟩
    rw [rebuilt.status, failed]
    rfl
  | _ => cases allows

/-- A cancelled service keeps its status only through a cancellation. -/
theorem cancellation_of_settled
    (rebuilt : Rebuilt environment world.loaded transition after)
    (cancelled : world.loaded.status.hasBeenCancelled = true)
    (same : after.status = world.loaded.status) :
    ∃ cancellationStatus, transition.cancellationStatus = some cancellationStatus ∧
      cancellationStatus.status = world.loaded.status := by
  have status := rebuilt.status
  by_cases expiry : transition = .expire
  · subst expiry
    rw [← same, status] at cancelled
    cases cancelled
  · rw [Transition.apply_status _ _ expiry] at status
    cases given : transition.cancellationStatus with
    | some cancellationStatus =>
      rw [given] at status
      exact ⟨cancellationStatus, rfl, status.symm.trans same⟩
    | none =>
      rw [given] at status
      rw [← same, status, calculateStatus_hasBeenCancelled] at cancelled
      cases cancelled

/-- A transition that leaves a fulfilled service fulfilled, with no new provider, is one that it
allows. -/
theorem closedAllows_of_fulfilled (granted : transition.Granted world)
    (rebuilt : Rebuilt environment world.loaded transition after)
    (consistent : world.loaded.Consistent) (fulfilled : world.loaded.status = .fulfilled)
    (same : after.status = .fulfilled)
    (dispatcher : after.dispatcherId = none ∨ after.dispatcherId = world.loaded.dispatcherId)
    (worker : after.workerId = none ∨ after.workerId = world.loaded.workerId) :
    closedAllows .fulfilled (some transition) = true := by
  cases transition with
  | assign serviceProvider serviceSchedule =>
    -- A fulfilled request with a dispatcher is taken, so there was none before.
    have started : world.loaded.lastEvent.isSome = true := by
      obtain ⟨event, present, -⟩ :=
        Option.map_eq_some_iff.mp (consistent.tracked .fullfil fulfilled)
      rw [present]
      rfl
    have unassigned : world.loaded.allocationStatus = .unassigned := by
      have free := granted.1
      simp only [Service.hasBeenCancelled, fulfilled] at free
      simpa [Service.hasBeenAssignedOrAllocated, ServiceStatusEnum.hasBeenCancelled] using free
    have undispatched : world.loaded.dispatcherId = none := by
      by_contra present
      exact consistent.known started (Option.isSome_iff_ne_none.mpr present) unassigned
    have assigned := rebuilt.dispatcherId (by simp) (by simp)
    have given : (Transition.provider world.loaded
        (.assign serviceProvider serviceSchedule)).bind (·.dispatcherId) =
          some serviceProvider.id := by
      rw [Transition.provider]
      split <;> rfl
    rw [undispatched, assigned, given] at dispatcher
    simp at dispatcher
  | allocate serviceProvider serviceSchedule =>
    have allocated : after.workerId = some serviceProvider.id := by
      rw [Service.workerId, rebuilt.provider]
      exact Provider.persist_workerId _ _ _ (by simp)
    rw [allocated] at worker
    obtain gone | kept := worker
    · cases gone
    · exact absurd kept.symm granted.2
  | progress history =>
    obtain ⟨input, type, next, -⟩ := granted
    rw [Service.nextHandlingEventType, if_pos
      (show world.loaded.hasBeenFulfilled = true by
        simp [Service.hasBeenFulfilled, fulfilled])] at next
    cases next
  | terminate cancellationStatus =>
    cases cancellationStatus with
    | none => rfl
    | some cancellationStatus =>
      rw [rebuilt.status] at same
      cases cancellationStatus <;> cases same
  | markFailed =>
    rw [rebuilt.status] at same
    cases same
  | pay history => rfl
  | expire =>
    rw [rebuilt.status] at same
    cases same
  | restart =>
    rw [rebuilt.status] at same
    have reopened : (none : Option HandlingEvent).map (·.type) = some .fullfil :=
      calculateStatus_eq_event same
    cases reopened

/-- A transition that leaves a failed or cancelled service closed is one that it allows. -/
theorem closedAllows_of_cancelled (granted : transition.Granted world)
    (rebuilt : Rebuilt environment world.loaded transition after)
    (closed : world.loaded.status.isTerminal = true)
    (cancelled : world.loaded.status.hasBeenCancelled = true)
    (same : after.status = world.loaded.status) :
    closedAllows world.loaded.status (some transition) = true := by
  obtain ⟨cancellationStatus, given, sameStatus⟩ := cancellation_of_settled rebuilt cancelled same
  cases transition with
  | markFailed =>
    cases given
    rw [← sameStatus]
    rfl
  | terminate own =>
    cases given
    rw [← sameStatus] at closed
    cases cancellationStatus with
    | cancelledByOperator => cases closed
    | cancelledByServiceProvider => cases closed
    | failed => exact granted.elim
    | cancelledByCustomer =>
      have open' := granted.2.2
      rw [Service.hasBeenClosed, ← sameStatus] at open'
      cases open'
  | _ => cases given

/-- A transition that leaves a closed service closed is one that it allows. -/
theorem closedAllows_of_settled (granted : transition.Granted world)
    (rebuilt : Rebuilt environment world.loaded transition after)
    (consistent : world.loaded.Consistent)
    (closed : world.loaded.status.isTerminal = true)
    (same : after.status = world.loaded.status)
    (dispatcher : after.dispatcherId = none ∨ after.dispatcherId = world.loaded.dispatcherId)
    (worker : after.workerId = none ∨ after.workerId = world.loaded.workerId) :
    closedAllows world.loaded.status (some transition) = true := by
  by_cases fulfilled : world.loaded.status = .fulfilled
  · rw [fulfilled]
    exact closedAllows_of_fulfilled granted rebuilt consistent fulfilled (same.trans fulfilled)
      dispatcher worker
  · have cancelled : world.loaded.status.hasBeenCancelled = true := by
      revert closed fulfilled
      cases world.loaded.status <;> simp [ServiceStatusEnum.isTerminal,
        ServiceStatusEnum.hasBeenCancelled]
    exact closedAllows_of_cancelled granted rebuilt closed cancelled same

end

/-! ### Runs -/

/-- A step leaves a closed request closed exactly if it is one that a closed request allows. -/
theorem settled_step_iff (environment : Environment) (world : World) (action : Timed)
    (consistent : world.request.service.Consistent) :
    world.Settled (world.step environment action) ↔ KeepsClosed environment world action := by
  refine forall_congr' fun closed => ?_
  cases world.step_cases environment action with
  | kept performed service handlingEvents =>
    rw [performed]
    refine iff_of_true ?_ rfl
    obtain ⟨last, columns⟩ := World.kept_columns service
    rw [columns]
    exact ⟨rfl, Or.inr rfl, Or.inr rfl⟩
  | made transition performed own permitted repository handlingEvents service =>
    rw [performed]
    have loaded : world.loaded.Consistent := consistent.load _
    constructor
    · rintro ⟨same, dispatcher, worker⟩
      have granted : transition.Granted (world.wait action.elapsed) := World.granted own permitted
      have allows := closedAllows_of_settled granted service loaded closed same dispatcher worker
      exact allows
    · intro allows
      have settled := settled_of_closedAllows service loaded allows
      exact settled

/-- The terminal statuses are absorbing along a run exactly if every operation that succeeds
on a closed request is one that a closed request allows. -/
theorem absorbing_iff {environment : Environment} {input : ServiceRequestInput} {now : Time}
    {request : ServiceRequest}
    (created : ServiceRequest.create environment input now = .ok request)
    (repository : PaymentGatewayResponseRepository) (actions : List Timed) :
    Settling (World.step environment) World.Settled (.opened request repository) actions ↔
      Along (World.step environment) (KeepsClosed environment) (.opened request repository)
        actions := by
  rw [settling_iff_along _ _ World.settled_refl World.settled_trans]
  exact along_congr _ (fun world => world.request.service.Consistent) (fun _ _ => True)
    (fun world action consistent _ => world.consistent_step environment action consistent)
    (fun world action consistent _ => settled_step_iff environment world action consistent) _ _
    (ServiceRequest.create_consistent created) (along_trivial _ _ _)

/-- A paid request that its customer cancels stays cancelled when its provider then tries to
handle it with a wrong code. -/
theorem absorbing_iff_cancelled :
    Settling (World.step exampleEnvironment) World.Settled (.opened exampleRequest .empty)
      (exampleAccepted ++
        [⟨1000, .cancel⟩, ⟨1000, .handle { exampleHandling with verificationCode := "1" }⟩]) :=
  (absorbing_iff exampleRequest_created .empty _).mpr (by decide +kernel)

/-- A paid and accepted request that an operator has marked as failed is completed by the next
handling command: the catch-all of `nextHandlingEventType` takes a failed job for one that is under
way. -/
theorem failed_request_completed :
    let failed := exampleAccepted ++ [⟨1000, .revoke true⟩]
    let handled : Timed := ⟨1000, .handle exampleHandling⟩
    (run (World.step exampleEnvironment) (.opened exampleRequest .empty) failed).loaded.status =
        .failed ∧
      (run (World.step exampleEnvironment) (.opened exampleRequest .empty)
        (failed ++ [handled])).loaded.status = .fulfilled ∧
      ¬ Settling (World.step exampleEnvironment) World.Settled (.opened exampleRequest .empty)
        (failed ++ [handled]) := by
  intro failed handled
  refine ⟨by decide +kernel, by decide +kernel, fun settling => ?_⟩
  have settled := settling failed [handled] List.prefix_rfl
  revert settled
  decide +kernel

end FieldService
