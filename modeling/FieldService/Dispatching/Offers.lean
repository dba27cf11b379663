/-
This file shows when nobody is offered a job that somebody has taken.

What a provider sees as new jobs are the pending assignments that have not run out. The dispatch
jobs of either strategy store them, in two turns: a job asks whether the request is assigned, scans
for providers, and stores the assignments after that. The two commands that give the request to a
provider, which take a turn for each of their writes and may race each other, settle the
assignments last: those of the provider are accepted and everybody else's fail. The handlers of the
events and the handler of the expiry write to the assignments whenever they get their turn.

A command that is under way will settle whatever is pending (`Offering.Covered`), so it is enough
that nothing is stored, and that no operation takes the request, behind its back. The second holds
because a request that is not assigned has no dispatcher stored, as long as no request that is
assigned is restarted.
-/

import FieldService.Auth.PhoneVerification
import FieldService.Dispatching.Racing

namespace FieldService.Dispatching

open Execution FieldService.Auth

/-! ### Dispatch jobs of either strategy -/

inductive AutoAssignmentTypeEnum where
  | batchWise
  | nearestAvailable
  | oneByOne
  | roundRobin
  | sendToAll
  | manual
  deriving DecidableEq, Repr

structure SendToAll where
  requestSeconds : Int
  deriving DecidableEq, Repr

/-- The setting that is stored, a copy of which each job carries. -/
structure AutoAssignmentSetting where
  autoAssignmentType : AutoAssignmentTypeEnum
  scanningZoneType : ScanningZoneTypeEnum
  batchWise : Option BatchWise
  sendToAll : Option SendToAll
  deriving DecidableEq, Repr

/-- A job of the queue `ticket`. -/
structure TicketJob where
  autoAllocation : AutoAssignmentSetting
  state : TicketState
  deriving DecidableEq, Repr

/-- The assignments that a job is about to store, and the job it queues afterwards. -/
structure Dispatch where
  providerIds : List Uuid
  requestSeconds : Int
  next : Option TicketJob
  deriving DecidableEq, Repr

/-- `TicketProcessor.handleAllocation` for `SEND_TO_ALL`, up to the assignments. The seconds of the
setting are read only if no second is left until the appointment. -/
def TicketJob.scanAll (job : TicketJob) (world : World) (encounter : Encounter) :
    Option Dispatch :=
  let serviceTicket := world.load
  if !encounter.answers then none
  else if serviceTicket.service.hasBeenAssignedOrAllocated then none
  else
    let serviceProviders := encounter.database.scanCandidates
      { scanningZoneType := job.autoAllocation.scanningZoneType
        latLng := encounter.latLng
        postalCode := encounter.postalCode
        excludeServiceProviderIds := []
        serviceRequestEntitlement := encounter.entitlement
        limit := none }
    let seconds :=
      diffSeconds serviceTicket.appointment.expectedArrivalPeriod.start world.clock
    let requestSeconds :=
      if seconds ≠ 0 then some seconds else job.autoAllocation.sendToAll.map (·.requestSeconds)
    requestSeconds.map fun requestSeconds => ⟨serviceProviders.map (·.id), requestSeconds, none⟩

/-- `TicketProcessor.handleAllocation` for a batch, up to the assignments. -/
def TicketJob.scanBatch (job : TicketJob) (batchWise : BatchWise) (world : World)
    (encounter : Encounter) : Option Dispatch :=
  let dispatched := job.state.dispatched.getD []
  let currentBatchNo := job.state.currentBatchNo.getD 1
  if batchWise.batchLimit.size < currentBatchNo then none
  else if !encounter.answers then none
  else if world.load.service.hasBeenAssignedOrAllocated then none
  else
    let serviceProviders := encounter.database.scanCandidates
      { scanningZoneType := job.autoAllocation.scanningZoneType
        latLng := encounter.latLng
        postalCode := encounter.postalCode
        excludeServiceProviderIds := dispatched
        serviceRequestEntitlement := encounter.entitlement
        limit := some batchWise.batchLimit.maxAgents }
    let providerIds := serviceProviders.map (·.id)
    some
      { providerIds := providerIds
        requestSeconds := batchWise.durationSetting.requestSeconds
        next :=
          if currentBatchNo < batchWise.batchLimit.size then
            some { job with state := ⟨some (dispatched ++ providerIds), some (currentBatchNo + 1)⟩ }
          else none }

/-- A job up to the assignments. Without the setting of its strategy it fails. -/
def TicketJob.scan (job : TicketJob) (world : World) (encounter : Encounter) : Option Dispatch :=
  match job.autoAllocation.autoAssignmentType with
  | .sendToAll => job.scanAll world encounter
  | _ => job.autoAllocation.batchWise.bind fun batchWise => job.scanBatch batchWise world encounter

def Dispatch.assignments (dispatch : Dispatch) (world : World) : List Assignment :=
  dispatch.providerIds.map fun providerId =>
    Assignment.create providerId dispatch.requestSeconds world.request.id world.clock

/-- A job of the batch-wise strategy stores the assignments of its batch. -/
theorem handleAllocation_batches (allocation : AutoAllocation) (sendToAll : Option SendToAll)
    (run : DispatchRun) (state : TicketState) (encounter : Encounter) :
    (run.handleAllocation allocation state encounter).batches =
      run.batches ++ ((TicketJob.scan
        ⟨⟨.batchWise, allocation.scanningZoneType, some allocation.batchWise, sendToAll⟩, state⟩
          run.world encounter).map fun dispatch =>
            ⟨(dispatch.assignments run.world).filter fun assignment =>
              encounter.stores assignment.providerId, run.wasTaken⟩).toList := by
  simp only [DispatchRun.handleAllocation, TicketJob.scan, TicketJob.scanBatch, Option.bind_some]
  split
  · simp
  split
  · simp
  split
  · simp
  simp only [Option.map_some, Option.toList_some, Dispatch.assignments, List.map_map]
  rfl

/-! ### The handlers that withdraw assignments -/

inductive AssignmentUpdate where
  /-- `ExpireJobAssignmentHandler.execute`. -/
  | expired
  /-- `ServiceRequestCancelledHandler.handle`. -/
  | cancelled
  /-- `ServiceRequestRevokedHandler.handle`. -/
  | revoked
  /-- `ServiceRequestRescheduledHandler.handle`. -/
  | rescheduled
  deriving DecidableEq, Repr

namespace AssignmentUpdate

def criteria (serviceRequestId : String) : AssignmentUpdate → Assignment → Bool
  | .expired, row => row.serviceRequestId = serviceRequestId && row.status = .pending
  | _, row => row.serviceRequestId = serviceRequestId

def status : AssignmentUpdate → AssignmentStatusEnum
  | .expired => .failed
  | .cancelled => .cancelled
  | .revoked => .revoked
  | .rescheduled => .rescheduled

end AssignmentUpdate

/-- The update of the assignments that an event leads to. -/
def DispatchingEvent.withdrawal : DispatchingEvent → Option AssignmentUpdate
  | .cancelled _ => some .cancelled
  | .revoked _ => some .revoked
  | .rescheduled _ _ => some .rescheduled
  | .allocated _ => none
  | .fulfilled _ => none

/-- The updates that an operation leads to. -/
def withdrawals (environment : Environment) (world : World) (operation : Operation) :
    List AssignmentUpdate :=
  match operation, world.execute environment operation with
  | .expire, .ok _ => [.expired]
  | _, _ => ((publishedEvent environment world operation).bind (·.withdrawal)).toList

/-! ### The system -/

/-- The request, its assignments and the commands after it, the jobs in the queue, the jobs that
have scanned, and the updates that wait for their turn. -/
structure Offering (Index : Type) where
  race : Race Index
  jobs : List TicketJob
  dispatches : List Dispatch
  updates : List AssignmentUpdate

/-- The operations that have actions of their own, because they write to the assignments or to the
queue. -/
def isDispatching : Operation → Bool
  | .accept _ _ => true
  | .manuallyAssign _ _ => true
  | .initiateAutoAssignment => true
  | _ => false

inductive OfferingAction (Index : Type) where
  /-- A command that gives the request to a provider takes its next step. -/
  | take (turn : RaceTurn Index)
  /-- Any other operation on the request. -/
  | operate (action : Timed) (other : isDispatching action.operation = false)
  /-- `InitiateAutoAssignmentHandler.execute`, with the setting it finds. -/
  | initiate (elapsed : Nat) (setting : Option AutoAssignmentSetting)
  /-- A job is processed up to the assignments. -/
  | scan (index : Nat) (encounter : Encounter)
  /-- A job that has scanned stores the assignments that can be stored. -/
  | store (elapsed : Nat) (index : Nat) (stores : Uuid → Bool) (requeues : Bool)
  /-- A handler updates the assignments. -/
  | update (elapsed : Nat) (index : Nat)

namespace Offering

variable {Index : Type} [DecidableEq Index]

/-- No command has begun and nothing is in the queue. -/
def opened (world : World) (assignments : List Assignment) : Offering Index :=
  ⟨.opened world assignments [], [], [], []⟩

def operated (environment : Environment) (offering : Offering Index) (action : Timed) :
    Offering Index :=
  { offering with
    race := { offering.race with world := offering.race.world.step environment action }
    updates := offering.updates ++
      withdrawals environment (offering.race.world.wait action.elapsed) action.operation }

def stored (offering : Offering Index) (dispatch : Dispatch) (stores : Uuid → Bool)
    (requeues : Bool) : Offering Index :=
  let assignments := dispatch.assignments offering.race.world
  { offering with
    race := { offering.race with
      assignments := offering.race.assignments ++
        assignments.filter fun assignment => stores assignment.providerId }
    jobs := offering.jobs ++
      if (assignments.all fun assignment => stores assignment.providerId) ∧ requeues then
        dispatch.next.toList
      else [] }

def updated (offering : Offering Index) (update : AssignmentUpdate) : Offering Index :=
  { offering with
    race := { offering.race with
      assignments := offering.race.assignments.map (Assignment.update
        (update.criteria offering.race.world.request.id) update.status) } }

def step (environment : Environment) (commands : Index → AssigningCommand)
    (offering : Offering Index) : OfferingAction Index → Offering Index
  | .take turn => { offering with race := offering.race.step environment commands turn }
  | .operate action _ => offering.operated environment action
  | .initiate elapsed setting =>
    { offering.operated environment ⟨elapsed, .initiateAutoAssignment⟩ with
      jobs := offering.jobs ++ (setting.map (TicketJob.mk · ⟨none, none⟩)).toList }
  | .scan index encounter =>
    match offering.jobs[index]? with
    | none => offering
    | some job =>
      let race := offering.race.wait encounter.elapsed
      { offering with
        race := race
        jobs := offering.jobs.eraseIdx index
        dispatches := offering.dispatches ++ (job.scan race.world encounter).toList }
  | .store elapsed index stores requeues =>
    match offering.dispatches[index]? with
    | none => offering
    | some dispatch =>
      { offering with
        race := offering.race.wait elapsed
        dispatches := offering.dispatches.eraseIdx index }.stored dispatch stores requeues
  | .update elapsed index =>
    match offering.updates[index]? with
    | none => offering
    | some update =>
      { offering with
        race := offering.race.wait elapsed
        updates := offering.updates.eraseIdx index }.updated update

end Offering

/-! ### New jobs -/

/-- A new job as a provider sees it. -/
structure JobDto where
  requestTimeoutSeconds : Int
  serviceRequestId : String
  deriving DecidableEq, Repr

/-- `GetNewDispatchedJobsOfProviderHandler.execute`. -/
def getNewDispatchedJobsOfProvider (assignments : List Assignment) (now : Time)
    (providerId : Uuid) : List JobDto :=
  (assignments.filter fun row =>
    row.providerId = providerId && now < row.expiredAt && row.status = .pending).map fun row =>
      ⟨diffSeconds row.expiredAt now, row.serviceRequestId⟩

/-! ### Requests that are not assigned -/

/-- A service that is not assigned has no dispatcher stored. -/
def Vacant (service : Service) : Prop :=
  service.hasBeenAssignedOrAllocated = false → service.dispatcherId = none

theorem unassigned_iff (service : Service) :
    service.hasBeenAssignedOrAllocated = false ↔ service.allocationStatus = .unassigned := by
  rw [Service.hasBeenAssignedOrAllocated, decide_eq_false_iff_not, not_not]

/-- A provider without a dispatcher is not assigned, and the other way round. -/
theorem calculateAllocationStatus_iff (provider : Option Provider) :
    calculateAllocationStatus provider = .unassigned ↔ provider.bind (·.dispatcherId) = none := by
  rw [calculateAllocationStatus_eq]
  cases provider.bind (·.dispatcherId) with
  | none => simp
  | some dispatcherId => cases provider.bind (·.workerId) <;> simp

theorem vacant_create {environment : Environment} {input : ServiceRequestInput} {now : Time}
    {request : ServiceRequest}
    (created : ServiceRequest.create environment input now = .ok request) :
    Vacant request.service := by
  rw [(ServiceRequest.create_service created).2.2]
  exact fun _ => rfl

section

variable {environment : Environment} {world : World} {action : Timed}

/-- A transition leaves a dispatcher behind only if it restarts a service that is assigned. -/
theorem vacant_rebuilt {transition : Transition} {after : Service}
    (rebuilt : Rebuilt environment world.loaded transition after)
    (granted : transition.Granted world) (vacant : Vacant world.loaded)
    (restarts : transition = .restart → environment.nullEmbedded = .skipped →
      world.loaded.hasBeenAssignedOrAllocated = false) : Vacant after := by
  intro unassigned
  by_cases restarted : transition = .restart
  · subst restarted
    rw [Service.dispatcherId, rebuilt.provider]
    cases embedded : environment.nullEmbedded with
    | written => rfl
    | skipped => exact vacant (restarts rfl embedded)
  · rw [rebuilt.dispatcherId restarted fun worker serviceSchedule same => by
      subst same
      exact granted.1]
    rw [← calculateAllocationStatus_iff, ← rebuilt.allocationStatus]
    exact (unassigned_iff after).mp unassigned

/-- No transition but an assignment takes a vacant request. -/
theorem unassigned_rebuilt {transition : Transition} {after : Service}
    (rebuilt : Rebuilt environment world.loaded transition after)
    (granted : transition.Granted world) (vacant : Vacant world.loaded)
    (notAssign : ∀ dispatcher serviceSchedule, transition ≠ .assign dispatcher serviceSchedule)
    (unassigned : world.loaded.hasBeenAssignedOrAllocated = false) :
    after.hasBeenAssignedOrAllocated = false := by
  have absent : world.loaded.provider.bind (·.dispatcherId) = none := vacant unassigned
  rw [unassigned_iff, rebuilt.allocationStatus]
  cases transition with
  | assign dispatcher serviceSchedule => exact absurd rfl (notAssign dispatcher serviceSchedule)
  | allocate worker serviceSchedule =>
    have dispatched := granted.1
    rw [Service.dispatcherId, absent] at dispatched
    cases dispatched
  | terminate cancellationStatus => rfl
  | expire => rfl
  | restart => rfl
  | progress history => exact (calculateAllocationStatus_iff _).mpr absent
  | pay history => exact (calculateAllocationStatus_iff _).mpr absent
  | markFailed => exact (calculateAllocationStatus_iff _).mpr absent

theorem vacant_step (vacant : Vacant world.request.service)
    (restarts : action.operation = .initiateAutoAssignment →
      environment.nullEmbedded = .skipped →
      world.request.service.hasBeenAssignedOrAllocated = false) :
    Vacant (world.step environment action).request.service := by
  show Vacant (world.step environment action).loaded
  cases world.step_cases environment action with
  | kept performed service handlingEvents =>
    rw [service]
    exact vacant
  | made transition performed own permitted repository handlingEvents service =>
    have granted := World.granted own permitted
    have rebuilt : Rebuilt environment (world.wait action.elapsed).loaded transition _ := service
    refine vacant_rebuilt rebuilt granted vacant fun restarted => restarts ?_
    subst restarted
    have origin := World.comesFrom own
    cases operation : action.operation with
    | initiateAutoAssignment => rfl
    | _ =>
      rw [operation] at origin
      exact origin.elim

/-- An operation that is not one of the dispatching takes no vacant request. -/
theorem unassigned_step (vacant : Vacant world.request.service)
    (other : ∀ answer occupancy, action.operation ≠ .accept answer occupancy ∧
      action.operation ≠ .manuallyAssign answer occupancy)
    (unassigned : world.request.service.hasBeenAssignedOrAllocated = false) :
    (world.step environment action).request.service.hasBeenAssignedOrAllocated = false := by
  show (world.step environment action).loaded.hasBeenAssignedOrAllocated = false
  cases world.step_cases environment action with
  | kept performed service handlingEvents =>
    rw [service]
    exact unassigned
  | made transition performed own permitted repository handlingEvents service =>
    have granted := World.granted own permitted
    have rebuilt : Rebuilt environment (world.wait action.elapsed).loaded transition _ := service
    refine unassigned_rebuilt rebuilt granted vacant ?_ unassigned
    rintro dispatcher serviceSchedule rfl
    have origin := World.comesFrom own
    cases operation : action.operation with
    | accept answer occupancy => exact (other answer occupancy).1 operation
    | manuallyAssign answer occupancy => exact (other answer occupancy).2 operation
    | _ =>
      rw [operation] at origin
      exact origin.elim

end

/-! ### Pending assignments -/

/-- The assignment is for the request and waits for an answer. -/
def Assignment.IsPending (serviceRequestId : String) (row : Assignment) : Prop :=
  row.serviceRequestId = serviceRequestId ∧ row.status = .pending

/-- An update to another status makes nothing pending. -/
theorem isPending_update {criteria : Assignment → Bool} {status : AssignmentStatusEnum}
    {serviceRequestId : String} {rows : List Assignment} {row : Assignment}
    (settled : status ≠ .pending) (member : row ∈ rows.map (Assignment.update criteria status))
    (pending : row.IsPending serviceRequestId) : row ∈ rows ∧ criteria row = false := by
  obtain ⟨earlier, stored, rfl⟩ := List.mem_map.mp member
  unfold Assignment.update at pending ⊢
  split at pending
  · exact absurd pending.2 settled
  · rename_i passed
    rw [if_neg passed]
    exact ⟨stored, Bool.not_eq_true _ ▸ passed⟩

namespace Race

variable {Index : Type} {commands : Index → AssigningCommand} {race : Race Index}

/-- Whatever is pending will be settled by a command that is under way. -/
def Covered (commands : Index → AssigningCommand) (race : Race Index) : Prop :=
  (∃ index, race.stage index = 1) ∨
    (∃ index, race.stage index = 2 ∧ ∀ row ∈ race.assignments,
      row.IsPending race.world.request.id → row.providerId ≠ (commands index).providerId) ∨
    ∀ row ∈ race.assignments, ¬row.IsPending race.world.request.id

/-- With no more pending assignments than before, the commands that cover them still do. -/
theorem Covered.mono {after : Race Index} (covered : race.Covered commands)
    (id : after.world.request.id = race.world.request.id)
    (stages : ∀ index, race.stage index = 1 ∨ race.stage index = 2 →
      after.stage index = race.stage index)
    (fewer : ∀ row ∈ after.assignments, row.IsPending race.world.request.id →
      row ∈ race.assignments) : after.Covered commands := by
  rw [Covered, id]
  obtain ⟨index, first⟩ | ⟨index, second, others⟩ | nobody := covered
  · exact Or.inl ⟨index, (stages index (Or.inl first)).trans first⟩
  · refine Or.inr (Or.inl ⟨index, (stages index (Or.inr second)).trans second, ?_⟩)
    exact fun row member pending => others row (fewer row member pending) pending
  · exact Or.inr (Or.inr fun row member pending =>
      nobody row (fewer row member pending) pending)

variable [DecidableEq Index]

/-- A step of a command leaves the pending assignments covered, as long as they were covered
whenever the request was taken. -/
theorem covered_step (environment : Environment) (turn : RaceTurn Index)
    (covered : race.world.request.service.hasBeenAssignedOrAllocated = true →
      race.Covered commands)
    (taken : (race.step environment commands turn).world.request.service.hasBeenAssignedOrAllocated
      = true) : (race.step environment commands turn).Covered commands := by
  have current : (race.wait turn.elapsed).progress turn.command = race.progress turn.command := rfl
  have stage : race.stage turn.command = (race.progress turn.command).stage := rfl
  rw [step, proceed, current] at taken ⊢
  cases progress : race.progress turn.command with
  | waiting =>
    rw [progress] at stage taken
    have kept := stage_moved_same (race.wait turn.elapsed) turn.command
      (.loaded (race.wait turn.elapsed).world.load) stage.symm
    exact (covered taken).mono rfl (fun index _ => congrFun kept index) fun _ member _ => member
  | loaded serviceRequest =>
    rw [progress] at stage taken
    simp only at taken ⊢
    cases assigns : (commands turn.command).assign serviceRequest with
    | error error =>
      rw [assigns] at taken
      have kept := stage_moved_same (race.wait turn.elapsed) turn.command .failed stage.symm
      exact (covered taken).mono rfl (fun index _ => congrFun kept index) fun _ member _ => member
    | ok assigned =>
      refine Or.inl ⟨turn.command, ?_⟩
      rw [stage_moved, Function.update_self, AssigningCommand.stage_afterSaving]
  | saved serviceRequest =>
    refine Or.inl ⟨turn.command, ?_⟩
    rw [stage_moved, Function.update_self]
    rfl
  | assigned serviceRequest =>
    refine Or.inr (Or.inl ⟨turn.command, ?_, fun row member pending same => ?_⟩)
    · rw [stage_moved, Function.update_self]
      rfl
    · obtain ⟨-, passed⟩ := isPending_update (by decide) member pending
      have selected : Assignment.isPendingOf race.world.request.id
          (commands turn.command).providerId row = true := by
        simp only [Assignment.isPendingOf, Bool.and_eq_true, decide_eq_true_eq]
        exact ⟨⟨pending.1, same⟩, pending.2⟩
      exact Bool.noConfusion (selected.symm.trans passed)
  | accepted serviceRequest =>
    rw [progress] at stage taken
    have others (row : Assignment)
        (member : row ∈ (race.wait turn.elapsed).assignments.map (Assignment.update
          (Assignment.isOfOther race.world.request.id (commands turn.command).providerId) .failed))
        (pending : row.IsPending race.world.request.id) :
        row ∈ race.assignments ∧ row.providerId = (commands turn.command).providerId := by
      obtain ⟨stored, passed⟩ := isPending_update (by decide) member pending
      refine ⟨stored, ?_⟩
      simpa [Assignment.isOfOther, pending.1] using passed
    have elsewhere (index : Index) (apart : index ≠ turn.command) (after : Race Index)
        (same : after.stage = race.stage) :
        (after.moved turn.command (.settled serviceRequest)).stage index = race.stage index := by
      rw [stage_moved, Function.update_of_ne apart, same]
    obtain ⟨index, first⟩ | ⟨index, second, spared⟩ | nobody := covered taken
    · have apart : index ≠ turn.command := by
        rintro rfl
        exact absurd (show (2 : ℕ) = 1 from stage.symm.trans first) (by decide)
      exact Or.inl ⟨index, (elsewhere index apart _ rfl).trans first⟩
    · by_cases own : index = turn.command
      · subst own
        refine Or.inr (Or.inr fun row member pending => ?_)
        obtain ⟨stored, same⟩ := others row member pending
        exact spared row stored pending same
      · refine Or.inr (Or.inl ⟨index, (elsewhere index own _ rfl).trans second, ?_⟩)
        exact fun row member pending => spared row (others row member pending).1 pending
    · exact Or.inr (Or.inr fun row member pending =>
        nobody row (others row member pending).1 pending)
  | settled serviceRequest =>
    rw [progress] at stage taken
    refine (covered taken).mono rfl (fun index _ => ?_) fun _ member _ => member
    exact congrFun (stage_moved_same _ turn.command .succeeded stage.symm) index
  | succeeded =>
    rw [progress] at taken
    exact (covered taken).mono rfl (fun _ _ => rfl) fun _ member _ => member
  | failed =>
    rw [progress] at taken
    exact (covered taken).mono rfl (fun _ _ => rfl) fun _ member _ => member

end Race

/-! ### Runs -/

namespace Offering

variable {Index : Type} [DecidableEq Index] {environment : Environment}
  {commands : Index → AssigningCommand} {offering : Offering Index}

/-- What every step keeps that meets the condition. -/
structure Sound (commands : Index → AssigningCommand) (offering : Offering Index) : Prop where
  /-- A copy that is at hand is of the request. -/
  copies : ∀ index serviceRequest, offering.race.progress index = .loaded serviceRequest →
    serviceRequest.id = offering.race.world.request.id
  vacant : Vacant offering.race.world.request.service
  /-- While the request is taken, whatever is pending will be settled. -/
  covered : offering.race.world.request.service.hasBeenAssignedOrAllocated = true →
    offering.race.Covered commands

/-- The condition on a step: no request is restarted while it is assigned, unless its provider is
overwritten, and no assignment is stored while the request is assigned. -/
def Admits (environment : Environment) (offering : Offering Index) : OfferingAction Index → Prop
  | .initiate _ _ => environment.nullEmbedded = .skipped →
    offering.race.world.request.service.hasBeenAssignedOrAllocated = false
  | .store _ index _ _ => offering.dispatches[index]?.isSome = true →
    offering.race.world.request.service.hasBeenAssignedOrAllocated = false
  | _ => True

instance decidableAdmits (environment : Environment) (offering : Offering Index)
    (action : OfferingAction Index) : Decidable (offering.Admits environment action) :=
  match action with
  | .initiate _ _ => inferInstanceAs (Decidable (_ → _))
  | .store _ _ _ _ => inferInstanceAs (Decidable (_ → _))
  | .take _ => isTrue trivial
  | .operate _ _ => isTrue trivial
  | .scan _ _ => isTrue trivial
  | .update _ _ => isTrue trivial

omit [DecidableEq Index] in
/-- The soundness of the request and the commands depends on nothing else. -/
theorem Sound.mono {after : Offering Index} (sound : offering.Sound commands)
    (request : after.race.world.request = offering.race.world.request)
    (progress : after.race.progress = offering.race.progress)
    (fewer : offering.race.world.request.service.hasBeenAssignedOrAllocated = true →
      ∀ row ∈ after.race.assignments, row.IsPending offering.race.world.request.id →
        row ∈ offering.race.assignments) : after.Sound commands where
  copies := by
    rw [request, progress]
    exact sound.copies
  vacant := by
    rw [request]
    exact sound.vacant
  covered taken := by
    rw [request] at taken
    refine (sound.covered taken).mono (by rw [request]) (fun index _ => ?_) (fewer taken)
    rw [Race.stage, Race.stage, progress]

theorem sound_take (sound : offering.Sound commands) (environment : Environment)
    (turn : RaceTurn Index) :
    (offering.step environment commands (.take turn)).Sound commands := by
  have id : (offering.race.step environment commands turn).world.request.id =
      offering.race.world.request.id := by
    cases offering.race.step_proceeds environment commands turn with
    | saves serviceRequest assigned loaded assigns stored assignments stage =>
      rw [stored]
      exact (AssigningCommand.assign_untaken assigns).2.trans (sound.copies _ _ loaded)
    | idle admitted stored accepted stage => rw [stored]; rfl
    | accepts serviceRequest assigned stored accepted stage => rw [stored]; rfl
    | rejects serviceRequest marked stored accepted stage => rw [stored]; rfl
  refine ⟨fun index serviceRequest loaded => ?_, ?_,
    Race.covered_step environment turn sound.covered⟩
  · show serviceRequest.id = (offering.race.step environment commands turn).world.request.id
    rw [id]
    obtain before | rfl := Race.step_loaded loaded
    · exact sound.copies index serviceRequest before
    · rfl
  · show Vacant (offering.race.step environment commands turn).world.request.service
    cases offering.race.step_proceeds environment commands turn with
    | saves serviceRequest assigned loaded assigns stored assignments stage =>
      rw [stored]
      intro unassigned
      have taken := (AssigningCommand.saves assigns environment
        (offering.race.world.wait turn.elapsed)).1
      rw [Race.isJobTaken, Bool.and_eq_true] at taken
      exact Bool.noConfusion (taken.1.symm.trans unassigned)
    | idle admitted stored accepted stage =>
      rw [stored]
      exact sound.vacant
    | accepts serviceRequest assigned stored accepted stage =>
      rw [stored]
      exact sound.vacant
    | rejects serviceRequest marked stored accepted stage =>
      rw [stored]
      exact sound.vacant

omit [DecidableEq Index] in
/-- An operation that takes no request leaves the commands with what they have to settle. -/
theorem sound_operated (sound : offering.Sound commands) (action : Timed)
    (other : ∀ answer occupancy, action.operation ≠ .accept answer occupancy ∧
      action.operation ≠ .manuallyAssign answer occupancy)
    (restarts : action.operation = .initiateAutoAssignment → environment.nullEmbedded = .skipped →
      offering.race.world.request.service.hasBeenAssignedOrAllocated = false) :
    (offering.operated environment action).Sound commands := by
  have id := (offering.race.world.step_frame environment action).1
  refine ⟨fun index serviceRequest loaded => ?_, vacant_step sound.vacant restarts, fun taken => ?_⟩
  · exact (sound.copies index serviceRequest loaded).trans id.symm
  · have before : offering.race.world.request.service.hasBeenAssignedOrAllocated = true := by
      rw [← Bool.not_eq_false]
      intro unassigned
      exact Bool.noConfusion
        (taken.symm.trans (unassigned_step sound.vacant other unassigned))
    exact (sound.covered before).mono id (fun _ _ => rfl) fun _ member _ => member

theorem sound_step (sound : offering.Sound commands) (action : OfferingAction Index)
    (admits : offering.Admits environment action) :
    (offering.step environment commands action).Sound commands := by
  cases action with
  | take turn => exact sound_take sound environment turn
  | operate action other =>
    refine sound_operated sound action (fun answer occupancy => ⟨?_, ?_⟩) fun same => ?_
    · rintro same
      rw [same] at other
      cases other
    · rintro same
      rw [same] at other
      cases other
    · rw [same] at other
      cases other
  | initiate elapsed setting =>
    exact (sound_operated sound ⟨elapsed, .initiateAutoAssignment⟩ (by simp)
      fun _ => admits).mono rfl rfl fun _ _ member _ => member
  | scan index encounter =>
    rw [step]
    cases offering.jobs[index]? with
    | none => exact sound
    | some job => exact sound.mono rfl rfl fun _ _ member _ => member
  | store elapsed index stores requeues =>
    rw [Admits] at admits
    rw [step]
    cases found : offering.dispatches[index]? with
    | none => exact sound
    | some dispatch =>
      rw [found] at admits
      exact sound.mono rfl rfl fun taken => Bool.noConfusion (taken.symm.trans (admits rfl))
  | update elapsed index =>
    rw [step]
    cases offering.updates[index]? with
    | none => exact sound
    | some update =>
      refine sound.mono rfl rfl fun _ row member pending => ?_
      exact (isPending_update (by cases update <;> decide) member pending).1

/-- Some command has saved the request and not yet settled the assignments. -/
def IsUnderway (offering : Offering Index) : Prop :=
  ∃ index, offering.race.stage index = 1 ∨ offering.race.stage index = 2

omit [DecidableEq Index] in
/-- Once every command has settled the assignments, none of a taken request is pending. -/
theorem Sound.not_isPending (sound : offering.Sound commands) (settled : ¬offering.IsUnderway)
    (taken : offering.race.world.request.service.hasBeenAssignedOrAllocated = true)
    {row : Assignment} (member : row ∈ offering.race.assignments) :
    ¬row.IsPending offering.race.world.request.id := by
  obtain ⟨index, first⟩ | ⟨index, second, -⟩ | nobody := sound.covered taken
  · exact absurd ⟨index, Or.inl first⟩ settled
  · exact absurd ⟨index, Or.inr second⟩ settled
  · exact nobody row member

omit [DecidableEq Index] in
theorem sound_opened {input : ServiceRequestInput} {now : Time} {request : ServiceRequest}
    (created : ServiceRequest.create environment input now = .ok request)
    (assignments : List Assignment) :
    (opened (.opened request .empty) assignments : Offering Index).Sound commands := by
  refine ⟨fun _ _ loaded => ?_, vacant_create created, fun taken => ?_⟩
  · cases loaded
  · have unassigned : request.service.hasBeenAssignedOrAllocated = false := by
      rw [(ServiceRequest.create_service created).2.2]
      rfl
    exact Bool.noConfusion (taken.symm.trans unassigned)

end Offering

/-- Whatever the order of the commands, their steps, the jobs of either strategy, the operations
and the handlers, in every state in which the request is taken and no command is about to settle
its assignments, no provider sees it among the new jobs, as long as no request is restarted and no
assignment stored while the request is assigned. -/
theorem not_offered_of_taken {Index : Type} [DecidableEq Index] {environment : Environment}
    (commands : Index → AssigningCommand) {input : ServiceRequestInput} {now : Time}
    {request : ServiceRequest}
    (created : ServiceRequest.create environment input now = .ok request)
    (assignments : List Assignment) (actions : List (OfferingAction Index))
    (admits : Along (Offering.step environment commands) (Offering.Admits environment)
      (.opened (.opened request .empty) assignments) actions) :
    Throughout (Offering.step environment commands)
      (fun offering => ¬offering.IsUnderway →
        offering.race.world.request.service.hasBeenAssignedOrAllocated = true →
        ∀ providerId, ∀ job ∈ getNewDispatchedJobsOfProvider offering.race.assignments
            offering.race.world.clock providerId,
          job.serviceRequestId ≠ offering.race.world.request.id)
      (.opened (.opened request .empty) assignments) actions := by
  refine throughout_of_invariant _ _ (Offering.Sound commands) _
    (fun offering action sound admitted => Offering.sound_step sound action admitted)
    (fun offering sound settled taken providerId job member same => ?_) _ _
    (Offering.sound_opened created assignments) admits
  obtain ⟨row, listed, rfl⟩ := List.mem_map.mp member
  obtain ⟨stored, shown⟩ := List.mem_filter.mp listed
  simp only [Bool.and_eq_true, decide_eq_true_eq] at shown
  exact sound.not_isPending settled taken stored ⟨same, shown.2⟩

/-- The job is sent to two contractors, and the first of them accepts it. -/
def exampleOffered : List (OfferingAction Bool) :=
  [.operate ⟨1000, .respond .daikin (examplePayload "1") false⟩ rfl,
    .operate ⟨1000, .gatewayResponded (some .fee)⟩ rfl,
    .initiate 100 (some ⟨.sendToAll, .none, none, some ⟨300⟩⟩),
    .scan 0 { exampleEncounter with
      database := { exampleEncounter.database with
        providers := ⟨[⟨(exampleRivals true).providerId, .independent, .active, 1, true, []⟩,
          ⟨(exampleRivals false).providerId, .independent, .active, 1, true, []⟩], by decide⟩ } },
    .store 10 0 (fun _ => true) true] ++ (exampleTurns [true, true, true, true, true]).map .take

/-- The other contractor sees the job before, and no longer afterwards. -/
theorem not_offered_of_taken_accepted :
    (getNewDispatchedJobsOfProvider
        (run (Offering.step exampleEnvironment exampleRivals)
          (.opened (.opened exampleRequest .empty) []) (exampleOffered.take 5)).race.assignments
        32110 (exampleRivals false).providerId).map (·.serviceRequestId) = [exampleRequest.id] ∧
      ∀ job ∈ getNewDispatchedJobsOfProvider
          (run (Offering.step exampleEnvironment exampleRivals)
            (.opened (.opened exampleRequest .empty) []) exampleOffered).race.assignments
          (run (Offering.step exampleEnvironment exampleRivals)
            (.opened (.opened exampleRequest .empty) []) exampleOffered).race.world.clock
          (exampleRivals false).providerId,
        job.serviceRequestId ≠
          (run (Offering.step exampleEnvironment exampleRivals)
            (.opened (.opened exampleRequest .empty) []) exampleOffered).race.world.request.id :=
  ⟨by decide +kernel, not_offered_of_taken exampleRivals exampleRequest_created [] exampleOffered
    (by decide +kernel) _ List.prefix_rfl (by unfold Offering.IsUnderway; decide +kernel)
    (by decide +kernel) _⟩

end FieldService.Dispatching
