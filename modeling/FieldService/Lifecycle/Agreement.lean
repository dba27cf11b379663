/-
This file asks when the status and the allocation status of a service agree.

The two are calculated side by side: the status of a started service comes from its last
event, and the allocation status from its provider. They agree as long as a started service
keeps both halves of its provider and an unpaid one has none. No transition checks this as
such, so `agreementAllows` spells out for each of them what has to be known of the service
before, and `agreement_iff` says that a run keeps the two in agreement exactly if every
transition it makes is allowed.
-/

import FieldService.Lifecycle.Steps

namespace FieldService

open Execution

/-- Status, allocation status and provider tell the same story. -/
structure Service.Agrees (service : Service) : Prop where
  underway : service.status = .started ∨ service.status = .inProgress ∨
      service.status = .fulfilled →
    service.allocationStatus = .allocated ∧ service.dispatcherId.isSome = true ∧
      service.workerId.isSome = true
  assigned : service.status = .assigned → service.allocationStatus = .assigned
  allocated : service.status = .allocated → service.allocationStatus = .allocated
  open' : service.status = .unassigned ∨ service.status = .awaitingPayment →
    service.allocationStatus = .unassigned

/-- The last response on record is a success, or none is needed. -/
def Service.isCovered (service : Service) : Bool :=
  !service.isPrepaid ||
    calculatePaymentStatus service.lastCustomerPaymentGatewayResponse = .succeeded

/-- What has to be known of a service for a transition to keep its status and its allocation
in agreement. -/
def agreementAllows (service : Service) : Option Transition → Bool
  | some (.assign dispatcher _) =>
    if service.lastEvent.isSome then dispatcher.isIndependent else service.isCovered
  | some (.allocate _ _) => service.lastEvent.isSome || service.isCovered
  | some (.progress _) => service.dispatcherId.isSome && service.workerId.isSome
  | some (.terminate none) => service.lastEvent.isNone
  | some (.pay history) =>
    if service.lastEvent.isSome then service.dispatcherId.isSome && service.workerId.isSome
    else service.dispatcherId.isNone || !service.isPrepaid ||
      calculatePaymentStatus history.mostRecentResponse = .succeeded
  | _ => true

/-- A transition that is performed is one that keeps the agreement. -/
def KeepsAgreement (environment : Environment) (world : World) (action : Timed) : Prop :=
  agreementAllows world.loaded
    ((world.wait action.elapsed).performed environment action.operation) = true

instance (environment : Environment) (world : World) (action : Timed) :
    Decidable (KeepsAgreement environment world action) :=
  inferInstanceAs (Decidable (_ = _))

/-! ### Calculated statuses -/

/-- A service whose status was calculated agrees exactly if it is fully allocated once it has
been started, and unassigned as long as its payment is missing. -/
theorem agrees_iff_of_calculated {service : Service} (consistent : service.Consistent)
    {paymentStatus : PaymentGatewayResponseStatus}
    (status : service.status = calculateStatus service.lastEvent service.isPrepaid paymentStatus
      service.allocationStatus) :
    service.Agrees ↔
      if service.lastEvent.isSome then service.allocationStatus = .allocated
      else service.isPrepaid = true → paymentStatus ≠ .succeeded →
        service.allocationStatus = .unassigned := by
  cases last : service.lastEvent with
  | some event =>
    rw [last] at status
    have track : service.status = event.type.status := status
    rw [if_pos (show (some event).isSome = true from rfl)]
    constructor
    · intro agrees
      refine (agrees.underway ?_).1
      rw [track]
      cases event.type <;> simp [HandlingEventTypeEnum.status]
    · intro allocated
      have dispatched := consistent.dispatched (by rw [allocated]; simp)
      have staffed := consistent.staffed allocated
      refine ⟨fun _ => ⟨allocated, dispatched, staffed⟩, ?_, fun _ => allocated, ?_⟩ <;>
        rw [track] <;> cases event.type <;> simp [HandlingEventTypeEnum.status]
  | none =>
    rw [last] at status
    rw [if_neg (show ¬ (none : Option HandlingEvent).isSome = true by simp)]
    by_cases missing : service.isPrepaid = true ∧ paymentStatus ≠ .succeeded
    · have awaiting : service.status = .awaitingPayment := by
        rw [status, calculateStatus, if_pos]
        obtain ⟨prepaid, unpaid⟩ := missing
        rw [prepaid]
        cases paymentStatus <;> simp_all
      constructor
      · exact fun agrees _ _ => agrees.open' (Or.inr awaiting)
      · intro unassigned
        refine ⟨?_, ?_, ?_, fun _ => unassigned missing.1 missing.2⟩ <;> rw [awaiting] <;> simp
    · have fromAllocation : service.status = service.allocationStatus.status := by
        rw [status, calculateStatus, if_neg]
        intro awaited
        refine missing ⟨by simp_all, ?_⟩
        rintro rfl
        simp at awaited
      refine iff_of_true ?_ fun prepaid unpaid => absurd ⟨prepaid, unpaid⟩ missing
      constructor <;> rw [fromAllocation] <;> cases service.allocationStatus <;>
        simp [ServiceAllocationStatusEnum.status]

/-- A cancelled or expired service agrees with anything. -/
theorem agrees_of_closed {service : Service}
    (closed : service.hasBeenCancelled = true ∨ service.status = .failedPayment) :
    service.Agrees := by
  rw [Service.hasBeenCancelled] at closed
  constructor <;> revert closed <;> cases service.status <;>
    simp [ServiceStatusEnum.hasBeenCancelled]

/-! ### One transition -/

section

variable {environment : Environment} {world : World} {after : Service} {transition : Transition}

theorem allocationStatus_assign (service : Service) (dispatcher : ServiceProvider)
    (serviceSchedule : Period) :
    calculateAllocationStatus (Transition.provider service (.assign dispatcher serviceSchedule)) =
      if dispatcher.isIndependent then .allocated else .assigned := by
  rw [calculateAllocationStatus_eq, Transition.provider]
  cases dispatcher.isIndependent <;> rfl

theorem allocationStatus_allocate (service : Service) (worker : ServiceProvider)
    (serviceSchedule : Period) (dispatched : service.dispatcherId.isSome = true) :
    calculateAllocationStatus (Transition.provider service (.allocate worker serviceSchedule)) =
      .allocated := by
  obtain ⟨id, present⟩ := Option.isSome_iff_exists.mp dispatched
  have same : (Transition.provider service (.allocate worker serviceSchedule)).bind
      (·.dispatcherId) = some id := by
    rw [← present, Service.dispatcherId, Transition.provider]
    cases service.provider <;> rfl
  rw [calculateAllocationStatus_eq, same]
  rfl

theorem allocationStatus_same (service : Service) :
    (calculateAllocationStatus service.provider = .allocated ↔
      (service.dispatcherId.isSome && service.workerId.isSome) = true) ∧
    (calculateAllocationStatus service.provider = .unassigned ↔
      service.dispatcherId.isNone = true) := by
  rw [calculateAllocationStatus_eq, Service.dispatcherId, Service.workerId]
  cases service.provider.bind (·.dispatcherId) <;> cases service.provider.bind (·.workerId) <;>
    simp

/-- An expiry or a cancellation is always allowed and leaves the service in agreement. -/
theorem agrees_of_closing (rebuilt : Rebuilt environment world.loaded transition after)
    (closing : transition = .expire ∨ transition.cancellationStatus ≠ none) :
    after.Agrees ∧ agreementAllows world.loaded (some transition) = true := by
  refine ⟨agrees_of_closed ?_, ?_⟩
  · rw [Service.hasBeenCancelled, rebuilt.status]
    obtain rfl | cancelled := closing
    · exact Or.inr rfl
    · obtain ⟨cancellationStatus, present⟩ := Option.ne_none_iff_exists'.mp cancelled
      rw [Transition.apply_status _ _ (by rintro rfl; cases present), present]
      cases cancellationStatus <;> exact Or.inl rfl
  · obtain rfl | cancelled := closing
    · rfl
    · cases transition with
      | terminate cancellationStatus =>
        cases cancellationStatus with
        | none => exact absurd rfl cancelled
        | some cancellationStatus => rfl
      | markFailed => rfl
      | _ => exact absurd rfl cancelled

/-- The service after a transition agrees exactly if the transition is allowed. -/
theorem agrees_rebuilt_iff (granted : transition.Granted world)
    (rebuilt : Rebuilt environment world.loaded transition after) :
    after.Agrees ↔ agreementAllows world.loaded (some transition) = true := by
  have consistent := rebuilt.consistent granted
  by_cases closing : transition = .expire ∨ transition.cancellationStatus ≠ none
  · obtain ⟨agrees, allows⟩ := agrees_of_closing rebuilt closing
    exact iff_of_true agrees allows
  obtain ⟨notExpire, uncancelled⟩ := not_or.mp closing
  have status := rebuilt.status
  rw [Transition.apply_status _ _ notExpire, not_not.mp uncancelled] at status
  simp only [← rebuilt.lastEvent, ← rebuilt.isPrepaid, ← rebuilt.allocationStatus] at status
  rw [agrees_iff_of_calculated consistent status, rebuilt.lastEvent, rebuilt.isPrepaid,
    rebuilt.allocationStatus]
  obtain ⟨sameAllocated, sameUnassigned⟩ := allocationStatus_same world.loaded
  cases transition with
  | assign dispatcher serviceSchedule =>
    rw [allocationStatus_assign]
    show (if world.loaded.lastEvent.isSome = true then _ else _) ↔
      (if world.loaded.lastEvent.isSome = true then _ else _) = true
    split
    · cases dispatcher.isIndependent <;> simp
    · simp only [Transition.response, Service.isCovered]
      cases dispatcher.isIndependent <;> cases world.loaded.isPrepaid <;> simp
  | allocate worker serviceSchedule =>
    rw [allocationStatus_allocate _ _ _ granted.1]
    show (if world.loaded.lastEvent.isSome = true then _ else _) ↔
      (world.loaded.lastEvent.isSome || _) = true
    split
    · rename_i started
      simp [started]
    · rename_i unstarted
      simp only [Transition.response, Service.isCovered, unstarted]
      cases world.loaded.isPrepaid <;> simp
  | progress history =>
    obtain ⟨input, type, -, rfl⟩ := granted
    have recorded : ((Transition.progress
        (world.handlingEvents ++ [world.handlingEvent input type])).lastEvent
          world.loaded).isSome = true := by
      rw [Option.isSome_iff_ne_none]
      intro absent
      have empty := (Latest.latest_eq_none_iff _ _).mp absent
      simp at empty
    rw [if_pos recorded]
    exact sameAllocated
  | terminate cancellationStatus =>
    obtain rfl := not_not.mp uncancelled
    have unassigned : calculateAllocationStatus
        (Transition.provider world.loaded (.terminate none)) = .unassigned := rfl
    rw [unassigned]
    show (if world.loaded.lastEvent.isSome = true then _ else _) ↔
      world.loaded.lastEvent.isNone = true
    cases world.loaded.lastEvent <;> simp
  | markFailed => exact absurd (Option.some_ne_none _) uncancelled
  | pay history =>
    show (if world.loaded.lastEvent.isSome = true then _ else _) ↔
      (if world.loaded.lastEvent.isSome = true then _ else _) = true
    split
    · exact sameAllocated
    · rw [show Transition.provider world.loaded (.pay history) = world.loaded.provider from rfl,
        sameUnassigned]
      simp only [Transition.response]
      cases world.loaded.isPrepaid <;> cases world.loaded.dispatcherId <;> simp
  | expire => exact absurd rfl notExpire
  | restart =>
    refine iff_of_true ?_ rfl
    exact fun _ _ => rfl

end

/-! ### Runs -/

theorem agrees_step_iff (environment : Environment) (world : World) (action : Timed)
    (agrees : world.request.service.Agrees) :
    (world.step environment action).request.service.Agrees ↔
      KeepsAgreement environment world action := by
  rw [KeepsAgreement]
  cases world.step_cases environment action with
  | kept performed service handlingEvents =>
    rw [performed]
    refine iff_of_true ?_ rfl
    obtain ⟨last, columns⟩ := World.kept_columns service
    rw [columns]
    exact ⟨agrees.underway, agrees.assigned, agrees.allocated, agrees.open'⟩
  | made transition performed own permitted repository handlingEvents service =>
    rw [performed]
    have granted : transition.Granted (world.wait action.elapsed) := World.granted own permitted
    have exact' := agrees_rebuilt_iff granted service
    constructor
    · intro after
      exact exact'.mp ⟨after.underway, after.assigned, after.allocated, after.open'⟩
    · intro allows
      have after := exact'.mpr allows
      exact ⟨after.underway, after.assigned, after.allocated, after.open'⟩

/-- Status, allocation status and provider agree throughout a run exactly if every transition
it makes is allowed. -/
theorem agreement_iff {environment : Environment} {input : ServiceRequestInput} {now : Time}
    {request : ServiceRequest}
    (created : ServiceRequest.create environment input now = .ok request)
    (repository : PaymentGatewayResponseRepository) (actions : List Timed) :
    Throughout (World.step environment) (fun world => world.request.service.Agrees)
        (.opened request repository) actions ↔
      Along (World.step environment) (KeepsAgreement environment) (.opened request repository)
        actions := by
  refine throughout_iff_along _ _ (fun _ => True) _ (fun _ _ _ => trivial)
    (fun world action _ agrees => agrees_step_iff environment world action agrees) _ _ trivial ?_
  show request.service.Agrees
  have opened := (ServiceRequest.create_service created).2.2
  have status : request.service.status = calculateStatus request.service.lastEvent
      request.service.isPrepaid .awaitingPayment request.service.allocationStatus := by
    rw [opened]
    rfl
  rw [agrees_iff_of_calculated (ServiceRequest.create_consistent created) status, opened]
  exact fun _ _ => rfl

/-- A job that is paid for, accepted and handled to its end keeps the agreement. -/
theorem agreement_iff_completed :
    Throughout (World.step exampleEnvironment) (fun world => world.request.service.Agrees)
      (.opened exampleRequest .empty)
      (exampleAccepted ++ List.replicate 3 ⟨1000, .handle exampleHandling⟩) :=
  (agreement_iff exampleRequest_created .empty _).mpr (by decide +kernel)

/-- Moving the appointment of a job that is under way takes its provider away and leaves it
under way. -/
theorem started_job_rescheduled :
    ¬ Throughout (World.step exampleEnvironment) (fun world => world.request.service.Agrees)
      (.opened exampleRequest .empty)
      (exampleAccepted ++ [⟨1000, .handle exampleHandling⟩,
        ⟨1000, .adminChangeSpecification ⟨720000000, 727200000, 8⟩⟩]) := by
  intro throughout
  have agrees := throughout _ List.prefix_rfl
  have allocated := (agrees.underway (by decide +kernel)).1
  revert allocated
  decide +kernel

end FieldService
