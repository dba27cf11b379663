/-
This file settles when a run of batch-wise dispatch keeps to its settings.

A job of the run handles one batch and puts the next job into the queue, with the number of the
batch and the providers that have been asked. Between two jobs the service request lives on and
the providers change. The number of batches is kept by the job itself. For the rest it relies on
the scan, which passes over the providers that have been asked and the number that is wanted, and
on a test that only asks whether the request is assigned at the moment.
-/

import Mathlib.Algebra.Order.Field.Rat
import FieldService.Dispatching.Candidates
import FieldService.Lifecycle.Steps

namespace FieldService.Dispatching

open Execution

/-! ### Settings and assignments -/

structure BatchWiseBatchLimit where
  size : Rat
  maxAgents : Rat
  deriving DecidableEq, Repr

structure BatchWiseDurationSetting where
  requestSeconds : Int
  deriving DecidableEq, Repr

structure BatchWise where
  batchLimit : BatchWiseBatchLimit
  durationSetting : BatchWiseDurationSetting
  deriving DecidableEq, Repr

/-- The `autoAllocation` a job carries, of the batch-wise type. -/
structure AutoAllocation where
  scanningZoneType : ScanningZoneTypeEnum
  batchWise : BatchWise
  deriving DecidableEq, Repr

inductive AssignmentStatusEnum where
  | accepted
  | pending
  | failed
  | revoked
  | cancelled
  | rescheduled
  deriving DecidableEq, Repr

structure Assignment where
  providerId : Uuid
  serviceRequestId : String
  status : AssignmentStatusEnum
  expiredAt : Time
  deriving DecidableEq, Repr

/-- `AssignmentFactory.create`. -/
def Assignment.create (providerId : Uuid) (requestSeconds : Int) (serviceRequestId : String)
    (now : Time) : Assignment where
  providerId := providerId
  serviceRequestId := serviceRequestId
  status := .pending
  expiredAt := now + requestSeconds * 1000

/-! ### The run -/

/-- The `state` a job carries. -/
structure TicketState where
  dispatched : Option (List Uuid)
  currentBatchNo : Option Nat
  deriving DecidableEq, Repr

/-- The assignments a batch has issued, and whether it came too late for the request. -/
structure Batch where
  assignments : List Assignment
  isLate : Bool
  deriving DecidableEq, Repr

/-- The request, the job in the queue, the batches so far, and whether the request has been taken
since the run began. -/
structure DispatchRun where
  world : World
  job : Option TicketState
  batches : List Batch
  wasTaken : Bool
  deriving DecidableEq, Repr

/-- What a job meets: the time it has waited, whether its queries answer, the address and the
entitlement of the ticket, the providers, which assignments can be stored, and whether nothing
fails after that. -/
structure Encounter where
  elapsed : Nat
  answers : Bool
  latLng : LatLngDto
  postalCode : String
  entitlement : BitVec 32
  database : CandidateDatabase
  stores : Uuid → Bool
  requeues : Bool

inductive DispatchAction where
  /-- An operation on the request. -/
  | operate (action : Timed)
  /-- The job in the queue is processed. -/
  | process (encounter : Encounter)

/-- The request is assigned, cancelled by the customer, failed or fulfilled. -/
def isTaken (service : Service) : Bool :=
  service.hasBeenAssignedOrAllocated || service.hasBeenFulfilled ||
    [.cancelledByCustomer, .failed].contains service.status

namespace DispatchRun

variable (environment : Environment) (allocation : AutoAllocation) (run : DispatchRun)

/-- `InitiateAutoAssignmentHandler.execute`: the request is restarted and a first job is queued. -/
def initiated (world : World) : DispatchRun :=
  let restarted := world.step environment ⟨0, .initiateAutoAssignment⟩
  { world := restarted
    job := some ⟨none, none⟩
    batches := []
    wasTaken := isTaken restarted.request.service }

/-- `TicketProcessor.handleAllocation`, of a batch-wise job. An error ends the run. All assignments
are stored at once, so one that fails does not keep back the others. -/
def handleAllocation (state : TicketState) (encounter : Encounter) : DispatchRun :=
  let batchWise := allocation.batchWise
  let dispatched := state.dispatched.getD []
  let currentBatchNo := state.currentBatchNo.getD 1
  if batchWise.batchLimit.size < currentBatchNo then { run with job := none }
  else if !encounter.answers then { run with job := none }
  else
    let serviceTicket := run.world.load
    if serviceTicket.service.hasBeenAssignedOrAllocated then { run with job := none }
    else
      let serviceProviders := encounter.database.scanCandidates
        { scanningZoneType := allocation.scanningZoneType
          latLng := encounter.latLng
          postalCode := encounter.postalCode
          excludeServiceProviderIds := dispatched
          serviceRequestEntitlement := encounter.entitlement
          limit := some batchWise.batchLimit.maxAgents }
      let assignments := serviceProviders.map fun provider =>
        Assignment.create provider.id batchWise.durationSetting.requestSeconds serviceTicket.id
          run.world.clock
      let stored := assignments.filter fun assignment => encounter.stores assignment.providerId
      { run with
        batches := run.batches ++ [⟨stored, run.wasTaken⟩]
        job :=
          if (assignments.all fun assignment => encounter.stores assignment.providerId) ∧
              currentBatchNo < batchWise.batchLimit.size ∧ encounter.requeues then
            some ⟨some (dispatched ++ serviceProviders.map (·.id)), some (currentBatchNo + 1)⟩
          else none }

def step : DispatchAction → DispatchRun
  | .operate action =>
    let world := run.world.step environment action
    { run with world := world, wasTaken := run.wasTaken || isTaken world.request.service }
  | .process encounter =>
    match run.job with
    | none => run
    | some state =>
      { run with world := run.world.wait encounter.elapsed }.handleAllocation allocation state
        encounter

end DispatchRun

/-! ### What the settings ask for -/

/-- The providers of the assignments of some batches. -/
def assignedProviderIds (batches : List Batch) : List Uuid :=
  (batches.flatMap (·.assignments)).map (·.providerId)

structure DispatchRun.KeepsToSettings (allocation : AutoAllocation) (run : DispatchRun) :
    Prop where
  /-- No provider receives two assignments. -/
  nobodyTwice : (assignedProviderIds run.batches).Nodup
  /-- Every batch has at most `maxAgents` assignments. -/
  withinMaxAgents : ∀ batch ∈ run.batches,
    (batch.assignments.length : Rat) ≤ max allocation.batchWise.batchLimit.maxAgents 0
  /-- At most `size` batches are issued. -/
  withinSize : (run.batches.length : Rat) ≤ max allocation.batchWise.batchLimit.size 0
  /-- Nothing is issued once the request has been taken. -/
  inTime : ∀ batch ∈ run.batches, batch.assignments ≠ [] → batch.isLate = false

/-- The providers that a job which gets as far as the scan can store assignments for. -/
def Encounter.assignable (allocation : AutoAllocation) (encounter : Encounter) :
    List CandidateRow :=
  if allocation.scanningZoneType.skipsAreas then
    (encounter.database.eligible encounter.entitlement).filter fun provider =>
      encounter.stores provider.id
  else []

/-- The job in the queue gets as far as the scan. -/
def DispatchRun.Scans (allocation : AutoAllocation) (run : DispatchRun) (encounter : Encounter) :
    Prop :=
  ∃ state, run.job = some state ∧
    (state.currentBatchNo.getD 1 : Rat) ≤ allocation.batchWise.batchLimit.size ∧
    encounter.answers = true ∧ run.world.load.service.hasBeenAssignedOrAllocated = false

/-- What a job has to meet: no more providers than are wanted, none of whom has an assignment, and
none at all if the request has been taken. -/
structure DispatchRun.Suits (allocation : AutoAllocation) (run : DispatchRun)
    (encounter : Encounter) : Prop where
  few : ((encounter.assignable allocation).length : Rat) ≤
    max allocation.batchWise.batchLimit.maxAgents 0
  fresh : ∀ provider ∈ encounter.assignable allocation,
    provider.id ∉ assignedProviderIds run.batches
  untaken : encounter.assignable allocation ≠ [] → run.wasTaken = false

/-- The condition on a step. -/
def DispatchRun.Admits (allocation : AutoAllocation) (run : DispatchRun) :
    DispatchAction → Prop
  | .operate _ => True
  | .process encounter => run.Scans allocation encounter → run.Suits allocation encounter

/-! ### One job -/

namespace DispatchRun

variable {environment : Environment} {allocation : AutoAllocation} {run : DispatchRun}
  {state : TicketState} {encounter : Encounter}

/-- The assignments a job issues when it gets as far as the scan. -/
def issued (allocation : AutoAllocation) (run : DispatchRun) (encounter : Encounter) :
    List Assignment :=
  (encounter.assignable allocation).map fun provider =>
    Assignment.create provider.id allocation.batchWise.durationSetting.requestSeconds
      (run.world.wait encounter.elapsed).load.id (run.world.wait encounter.elapsed).clock

/-- The assignments that are stored are those of the providers that can be assigned. -/
theorem stored_eq (allocation : AutoAllocation) (run : DispatchRun) (encounter : Encounter)
    (query : ScanCandidatesQuery) (zone : query.scanningZoneType = allocation.scanningZoneType)
    (entitlement : query.serviceRequestEntitlement = encounter.entitlement) :
    ((encounter.database.scanCandidates query).map fun provider =>
        Assignment.create provider.id allocation.batchWise.durationSetting.requestSeconds
          (run.world.wait encounter.elapsed).load.id
          (run.world.wait encounter.elapsed).clock).filter
        (fun assignment => encounter.stores assignment.providerId) =
      run.issued allocation encounter := by
  rw [issued, Encounter.assignable, scanCandidates_eq, zone, entitlement, List.filter_map]
  split <;> rfl

/-- A job that gets as far as the scan issues one batch, and the next job, if there is one, is for
the batch after it. -/
theorem process_scans (queued : run.job = some state) (scans : run.Scans allocation encounter) :
    (run.step environment allocation (.process encounter)).batches =
        run.batches ++ [⟨run.issued allocation encounter, run.wasTaken⟩] ∧
      ∀ next, (run.step environment allocation (.process encounter)).job = some next →
        next.currentBatchNo = some (state.currentBatchNo.getD 1 + 1) := by
  obtain ⟨same, found, within, answered, unassigned⟩ := scans
  obtain rfl : state = same := Option.some.inj (queued.symm.trans found)
  have limited : ¬allocation.batchWise.batchLimit.size < (state.currentBatchNo.getD 1 : Rat) :=
    not_lt.mpr within
  have free : ¬(run.world.wait encounter.elapsed).load.service.hasBeenAssignedOrAllocated = true :=
    Bool.not_eq_true _ ▸ unassigned
  simp only [step, queued, handleAllocation]
  rw [if_neg limited, if_neg (by simp [answered]), if_neg free]
  constructor
  · refine congrArg (run.batches ++ [·]) (congrArg (Batch.mk · run.wasTaken) ?_)
    exact stored_eq allocation run encounter _ rfl rfl
  · intro next isNext
    dsimp only at isNext
    split at isNext
    · cases isNext
      rfl
    · cases isNext

/-- A job that does not get as far as the scan is the last one and issues nothing. -/
theorem process_idle (queued : run.job = some state) (idle : ¬run.Scans allocation encounter) :
    (run.step environment allocation (.process encounter)).batches = run.batches ∧
      (run.step environment allocation (.process encounter)).job = none := by
  simp only [step, queued, handleAllocation]
  split
  · exact ⟨rfl, rfl⟩
  rename_i limited
  split
  · exact ⟨rfl, rfl⟩
  rename_i answered
  split
  · exact ⟨rfl, rfl⟩
  rename_i free
  exact absurd ⟨state, queued, not_lt.mp limited, by simpa using answered,
    Bool.not_eq_true _ ▸ free⟩ idle

/-! ### The number of batches -/

/-- The job in the queue is for the next batch, and the batches are within their number. -/
structure CountsBatches (allocation : AutoAllocation) (run : DispatchRun) : Prop where
  counted : ∀ state, run.job = some state →
    state.currentBatchNo.getD 1 = run.batches.length + 1
  bounded : (run.batches.length : Rat) ≤ max allocation.batchWise.batchLimit.size 0

theorem countsBatches_step (counts : run.CountsBatches allocation) (action : DispatchAction) :
    (run.step environment allocation action).CountsBatches allocation := by
  cases action with
  | operate action => exact ⟨counts.counted, counts.bounded⟩
  | process encounter =>
    cases queued : run.job with
    | none =>
      have same : run.step environment allocation (.process encounter) = run := by
        rw [step, queued]
      rw [same]
      exact counts
    | some state =>
      by_cases scans : run.Scans allocation encounter
      · obtain ⟨batches, following⟩ := @process_scans environment _ _ _ _ queued scans
        obtain ⟨same, found, within, -⟩ := scans
        obtain rfl : state = same := Option.some.inj (queued.symm.trans found)
        have number := counts.counted state queued
        constructor
        · intro next isNext
          rw [following next isNext, batches, number]
          simp
        · rw [batches, List.length_append, List.length_singleton, ← number]
          exact le_max_of_le_left within
      · obtain ⟨batches, last⟩ := @process_idle environment _ _ _ _ queued scans
        refine ⟨fun next isNext => ?_, batches ▸ counts.bounded⟩
        rw [last] at isNext
        cases isNext

/-! ### The assignments of a batch -/

theorem assignedProviderIds_append (batches : List Batch) (batch : Batch) :
    assignedProviderIds (batches ++ [batch]) =
      assignedProviderIds batches ++ batch.assignments.map (·.providerId) := by
  simp [assignedProviderIds]

theorem issued_providerIds (allocation : AutoAllocation) (run : DispatchRun)
    (encounter : Encounter) :
    (run.issued allocation encounter).map (·.providerId) =
      (encounter.assignable allocation).map (·.id) := by
  rw [issued, List.map_map]
  rfl

theorem assignable_nodup (allocation : AutoAllocation) (encounter : Encounter) :
    ((encounter.assignable allocation).map (·.id)).Nodup := by
  rw [Encounter.assignable]
  split
  · exact List.Nodup.sublist (List.filter_sublist.map _) (eligible_nodup _ _)
  · exact List.nodup_nil

/-- With one more batch a run keeps to its settings exactly if the batch suits. -/
theorem keepsToSettings_iff {after : DispatchRun}
    (batches : after.batches = run.batches ++ [⟨run.issued allocation encounter, run.wasTaken⟩])
    (counts : after.CountsBatches allocation) (keeps : run.KeepsToSettings allocation) :
    after.KeepsToSettings allocation ↔ run.Suits allocation encounter := by
  have nonempty : run.issued allocation encounter ≠ [] ↔ encounter.assignable allocation ≠ [] :=
    not_congr List.map_eq_nil_iff
  constructor
  · intro kept
    have last : (⟨run.issued allocation encounter, run.wasTaken⟩ : Batch) ∈ after.batches := by
      simp [batches]
    refine ⟨?_, fun provider member already => ?_, fun some' => ?_⟩
    · have bound := kept.withinMaxAgents _ last
      rw [← List.length_map, issued_providerIds, List.length_map] at bound
      exact bound
    · have apart := kept.nobodyTwice
      rw [batches, assignedProviderIds_append, issued_providerIds] at apart
      exact (List.nodup_append.mp apart).2.2 _ already _ (List.mem_map_of_mem member) rfl
    · exact kept.inTime _ last (nonempty.mpr some')
  · rintro ⟨few, fresh, untaken⟩
    refine ⟨?_, fun batch member => ?_, counts.bounded, fun batch member => ?_⟩
    · rw [batches, assignedProviderIds_append, issued_providerIds]
      refine List.nodup_append.mpr ⟨keeps.nobodyTwice, assignable_nodup _ _, ?_⟩
      rintro earlier already later assigned rfl
      obtain ⟨provider, member, rfl⟩ := List.mem_map.mp assigned
      exact fresh provider member already
    · rw [batches] at member
      rcases List.mem_append.mp member with earlier | last
      · exact keeps.withinMaxAgents batch earlier
      · rw [List.mem_singleton.mp last, ← List.length_map, issued_providerIds, List.length_map]
        exact few
    · rw [batches] at member
      rcases List.mem_append.mp member with earlier | last
      · exact keeps.inTime batch earlier
      · rw [List.mem_singleton.mp last]
        exact fun some' => untaken (nonempty.mp some')

theorem keepsToSettings_congr {after : DispatchRun} (batches : after.batches = run.batches) :
    after.KeepsToSettings allocation ↔ run.KeepsToSettings allocation := by
  constructor <;> rintro ⟨nobodyTwice, withinMaxAgents, withinSize, inTime⟩
  · rw [batches] at nobodyTwice withinMaxAgents withinSize inTime
    exact ⟨nobodyTwice, withinMaxAgents, withinSize, inTime⟩
  · refine ⟨?_, ?_, ?_, ?_⟩ <;> rw [batches] <;> assumption

/-! ### Runs -/

/-- A step out of a run that keeps to its settings goes on to keep to them exactly if it admits
the step. -/
theorem keepsToSettings_step_iff (environment : Environment)
    (counts : run.CountsBatches allocation) (keeps : run.KeepsToSettings allocation)
    (action : DispatchAction) :
    (run.step environment allocation action).KeepsToSettings allocation ↔
      run.Admits allocation action := by
  cases action with
  | operate action =>
    have same : (run.step environment allocation (.operate action)).batches = run.batches := rfl
    exact iff_of_true ((keepsToSettings_congr same).mpr keeps) trivial
  | process encounter =>
    cases queued : run.job with
    | none =>
      have same : run.step environment allocation (.process encounter) = run := by
        rw [step, queued]
      rw [same]
      refine iff_of_true keeps ?_
      rintro ⟨state, found, -⟩
      rw [queued] at found
      cases found
    | some state =>
      by_cases scans : run.Scans allocation encounter
      · rw [keepsToSettings_iff (process_scans queued scans).1 (countsBatches_step counts _) keeps]
        exact ⟨fun suits _ => suits, fun suits => suits scans⟩
      · rw [keepsToSettings_congr (process_idle queued scans).1]
        exact iff_of_true keeps fun scans' => absurd scans' scans

end DispatchRun

/-- A run of batch-wise dispatch keeps to its settings exactly if every job that gets as far as the
scan meets no more providers than are wanted, nobody who has an assignment, and nobody at all once
the request has been taken. -/
theorem keepsToSettings_throughout_iff (environment : Environment) (allocation : AutoAllocation)
    (world : World) (actions : List DispatchAction) :
    Throughout (DispatchRun.step environment allocation) (DispatchRun.KeepsToSettings allocation)
        (.initiated environment world) actions ↔
      Along (DispatchRun.step environment allocation) (DispatchRun.Admits allocation)
        (.initiated environment world) actions := by
  have start : (DispatchRun.initiated environment world).CountsBatches allocation := by
    refine ⟨?_, le_max_right _ _⟩
    rintro state isFirst
    cases isFirst
    rfl
  refine throughout_iff_along _ _ (DispatchRun.CountsBatches allocation) _
    (fun run action counts => DispatchRun.countsBatches_step counts action)
    (fun run action counts keeps =>
      DispatchRun.keepsToSettings_step_iff environment counts keeps action) _ _ start ?_
  exact ⟨List.nodup_nil, fun _ member => absurd member List.not_mem_nil, start.bounded,
    fun _ member => absurd member List.not_mem_nil⟩

/-- Two batches of one provider each, wherever the provider is. -/
def exampleAllocation : AutoAllocation where
  scanningZoneType := .none
  batchWise := ⟨⟨2, 1⟩, ⟨30⟩⟩

/-- An active independent contractor is all there is. -/
def exampleEncounter : Encounter where
  elapsed := 30000
  answers := true
  latLng := ⟨3, 101⟩
  postalCode := "50000"
  entitlement := 1
  database :=
    { providers := ⟨[⟨exampleContractor.id, .independent, .active, 1, true, []⟩],
        List.nodup_singleton _⟩
      findServiceAreaByPostalCode := fun _ => []
      findServiceAreasByLatLng := fun _ => [] }
  stores := fun _ => true
  requeues := true

/-- The contractor is assigned in the first batch, and again in the second. -/
theorem not_keepsToSettings_again :
    ¬Throughout (DispatchRun.step exampleEnvironment exampleAllocation)
        (DispatchRun.KeepsToSettings exampleAllocation)
        (.initiated exampleEnvironment (.opened exampleRequest .empty))
        [.process exampleEncounter, .process exampleEncounter] := by
  intro throughout
  have keeps := throughout _ List.prefix_rfl
  have twice : assignedProviderIds (run (DispatchRun.step exampleEnvironment exampleAllocation)
      (.initiated exampleEnvironment (.opened exampleRequest .empty))
      [.process exampleEncounter, .process exampleEncounter]).batches =
      [exampleContractor.id, exampleContractor.id] := rfl
  have apart := keeps.nobodyTwice
  rw [twice] at apart
  exact (List.nodup_cons.mp apart).1 List.mem_cons_self

end FieldService.Dispatching
