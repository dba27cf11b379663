/-
This file settles when the two tests for overlapping appointments agree.

A query asks which workers have an allocated appointment that contains the start or the end of a
schedule, and the entity compares the two schedules in whole seconds. An appointment in the middle
of the schedule contains neither end, so the query misses it, and with it the worker, unless
another appointment of the same worker shows. The entity misses nothing, but two schedules that are
less than a second apart look as if they met.
-/

import FieldService.Library.Grouping
import FieldService.Lifecycle.Crew

namespace FieldService.Dispatching

open Grouping

/-! ### Appointments of workers -/

inductive AppointmentStatusEnum where
  | allocated
  | cancelled
  | fulfilled
  | replaced
  | revoked
  | rescheduled
  deriving DecidableEq, Repr

/-- A row of `appointments`. -/
structure AppointmentRow where
  serviceRequestId : String
  provider : Provider
  status : AppointmentStatusEnum
  deriving DecidableEq, Repr

namespace AppointmentRow

variable (row : AppointmentRow)

/-- `serviceSchedule`, with both bounds missing when there is no schedule. -/
def serviceSchedule : OptPeriod :=
  (row.provider.schedule.map (·.period)).getD ⟨none, none⟩

/-- `start <= :instant AND end >= :instant`. A bound that is null compares with nothing. -/
def contains (instant : Time) : Bool :=
  row.serviceSchedule.start.any (· ≤ instant) && row.serviceSchedule.finish.any (instant ≤ ·)

/-- The condition in brackets of the query. -/
def touches (schedule : Period) : Bool :=
  row.contains schedule.start || row.contains schedule.finish

/-- The two closed intervals have an instant in common. -/
def Intersects (schedule : Period) : Prop :=
  ∃ instant, row.contains instant = true ∧ schedule.start ≤ instant ∧ instant ≤ schedule.finish

/-- The row has an interval that lies strictly between the ends of the schedule. -/
def IsInside (schedule : Period) : Prop :=
  ∃ start finish, row.serviceSchedule = ⟨some start, some finish⟩ ∧
    schedule.start < start ∧ start ≤ finish ∧ finish < schedule.finish

/-- The worker is allocated to the appointment. -/
def IsAllocatedTo (workerId : Uuid) : Prop :=
  row.status = .allocated ∧ row.provider.workerId = some workerId

/-- The row is for a request with the appointment. -/
def IsFor (appointment : Appointment) : Prop :=
  row.serviceSchedule =
    ⟨some appointment.expectedArrivalPeriod.start,
      some (addMinutes appointment.expectedArrivalPeriod.start appointment.totalServiceMinutes)⟩

end AppointmentRow

/-! ### The two tests -/

/-- `findOverlappingAllocatedAppointmentsOfWorkers`. Without workers it asks for those of any. -/
def findOverlappingAllocatedAppointmentsOfWorkers (rows : List AppointmentRow)
    (workerIds : List Uuid) (schedule : Period) : List AppointmentRow :=
  distinctOn (·.provider.workerId) <| rows.filter fun row =>
    row.status = .allocated && row.touches schedule &&
      (workerIds.isEmpty || row.provider.workerId.any workerIds.contains)

/-- `moment.unix`: whole seconds. -/
def unix (instant : Time) : Int := instant / 1000

/-- The comparison of two schedules in whole seconds. -/
def overlapsInSeconds (start1 end1 start2 end2 : Time) : Bool :=
  (unix start2 ≤ unix start1 && unix start1 ≤ unix end2) ||
    (unix start1 ≤ unix start2 && unix start2 ≤ unix end1)

/-- `Appointment.isWorkerScheduleOverlapped`. -/
def isWorkerScheduleOverlapped (appointment : Appointment) (start finish : Time) : Bool :=
  overlapsInSeconds appointment.expectedArrivalPeriod.start
    (addMinutes appointment.expectedArrivalPeriod.start appointment.totalServiceMinutes) start
    finish

def workersOf (directory : Directory) (dealerId : Uuid) : List CrewMember :=
  directory.rows.filter fun member => member.type = .worker ∧ member.dealerId = some dealerId

/-- `GetWorkersOfDealerHandler.execute`, for a request with the schedule. -/
def getWorkersOfDealer (directory : Directory) (rows : List AppointmentRow) (dealerId : Uuid)
    (schedule : Period) : List CrewMember :=
  let overlappedAppointments := findOverlappingAllocatedAppointmentsOfWorkers rows
    ((workersOf directory dealerId).map (·.id)) schedule
  directory.getWorkersOfDealer dealerId (overlappedAppointments.filterMap (·.provider.workerId))

/-! ### What the tests have to tell -/

/-- The worker has an allocated appointment in the schedule. -/
def IsBusy (rows : List AppointmentRow) (schedule : Period) (workerId : Uuid) : Prop :=
  ∃ row ∈ rows, row.IsAllocatedTo workerId ∧ row.Intersects schedule

/-- The worker is among those of the appointments that are found. -/
def IsReported (rows : List AppointmentRow) (workerIds : List Uuid) (schedule : Period)
    (workerId : Uuid) : Prop :=
  ∃ row ∈ findOverlappingAllocatedAppointmentsOfWorkers rows workerIds schedule,
    row.provider.workerId = some workerId

/-- The query reports exactly the busy workers, the entity makes the same test, and a dealer is
offered exactly the workers that are not busy. -/
structure DetectsOverlaps (rows : List AppointmentRow) (schedule : Period) : Prop where
  reported : ∀ (workerIds : List Uuid) (workerId : Uuid), workerIds = [] ∨ workerId ∈ workerIds →
    (IsReported rows workerIds schedule workerId ↔ IsBusy rows schedule workerId)
  sameTest : ∀ row ∈ rows, row.status = .allocated → ∀ appointment, row.IsFor appointment →
    (isWorkerScheduleOverlapped appointment schedule.start schedule.finish = true ↔
      row.Intersects schedule)
  available : ∀ (directory : Directory) (dealerId : Uuid) (worker : CrewMember),
    worker ∈ getWorkersOfDealer directory rows dealerId schedule ↔
      worker ∈ workersOf directory dealerId ∧ ¬IsBusy rows schedule worker.id

/-- Two schedules that do not meet look in whole seconds as if they did: one ends in the second in
which the other begins, or one of them is reversed and begins in a second of the other. -/
def BlursWith (start1 end1 start2 end2 : Time) : Prop :=
  if start1 ≤ end1 ∧ start2 ≤ end2 then
    (end1 < start2 ∧ unix end1 = unix start2) ∨ (end2 < start1 ∧ unix end2 = unix start1)
  else overlapsInSeconds start1 end1 start2 end2 = true

/-- The condition under which the tests tell. -/
structure Distinguishes (rows : List AppointmentRow) (schedule : Period) : Prop where
  /-- A worker with an appointment inside the schedule has another one at an end of it. -/
  shown : ∀ row ∈ rows, ∀ workerId, row.IsAllocatedTo workerId → row.IsInside schedule →
    ∃ other ∈ rows, other.IsAllocatedTo workerId ∧ other.touches schedule = true
  /-- No appointment is at an end of a schedule that is reversed. -/
  forward : schedule.finish < schedule.start → ∀ row ∈ rows, ∀ workerId,
    row.IsAllocatedTo workerId → row.touches schedule = false
  /-- No appointment is apart from the schedule by less than a second. -/
  sharp : ∀ row ∈ rows, row.status = .allocated → ∀ appointment, row.IsFor appointment →
    ¬BlursWith appointment.expectedArrivalPeriod.start
      (addMinutes appointment.expectedArrivalPeriod.start appointment.totalServiceMinutes)
      schedule.start schedule.finish

/-! ### Two intervals -/

/-- Two intervals meet at an end of the second, or the first lies inside the second. -/
theorem meet_iff (start1 end1 start2 end2 : Int) :
    (∃ instant, (start1 ≤ instant ∧ instant ≤ end1) ∧ start2 ≤ instant ∧ instant ≤ end2) ↔
      (start2 ≤ end2 ∧ ((start1 ≤ start2 ∧ start2 ≤ end1) ∨ (start1 ≤ end2 ∧ end2 ≤ end1))) ∨
        (start2 < start1 ∧ start1 ≤ end1 ∧ end1 < end2) := by
  constructor
  · rintro ⟨instant, first, second⟩
    omega
  · rintro (⟨ordered, atStart | atEnd⟩ | inside)
    · exact ⟨start2, atStart, le_rfl, ordered⟩
    · exact ⟨end2, atEnd, ordered, le_rfl⟩
    · exact ⟨start1, ⟨le_rfl, inside.2.1⟩, by omega, by omega⟩

/-- The comparison in seconds holds of intervals that meet, and of those that blur. -/
theorem overlapsInSeconds_iff (start1 end1 start2 end2 : Int) :
    overlapsInSeconds start1 end1 start2 end2 = true ↔
      (∃ instant, (start1 ≤ instant ∧ instant ≤ end1) ∧ start2 ≤ instant ∧ instant ≤ end2) ∨
        BlursWith start1 end1 start2 end2 := by
  have compared : overlapsInSeconds start1 end1 start2 end2 = true ↔
      (start2 / 1000 ≤ start1 / 1000 ∧ start1 / 1000 ≤ end2 / 1000) ∨
        (start1 / 1000 ≤ start2 / 1000 ∧ start2 / 1000 ≤ end1 / 1000) := by
    simp only [overlapsInSeconds, Bool.or_eq_true, Bool.and_eq_true, decide_eq_true_eq]
    rfl
  rw [meet_iff]
  by_cases ordered : start1 ≤ end1 ∧ start2 ≤ end2
  · have blurs : BlursWith start1 end1 start2 end2 ↔
        (end1 < start2 ∧ end1 / 1000 = start2 / 1000) ∨
          (end2 < start1 ∧ end2 / 1000 = start1 / 1000) := by
      rw [BlursWith, if_pos ordered]
      rfl
    rw [compared, blurs]
    omega
  · rw [BlursWith, if_neg ordered]
    refine (or_iff_right fun meets => ordered ?_).symm
    omega

/-- Intervals that blur do not meet. -/
theorem not_meet_of_blursWith {start1 end1 start2 end2 : Int}
    (blurs : BlursWith start1 end1 start2 end2) :
    ¬∃ instant, (start1 ≤ instant ∧ instant ≤ end1) ∧ start2 ≤ instant ∧ instant ≤ end2 := by
  rintro ⟨instant, first, second⟩
  have ordered : start1 ≤ end1 ∧ start2 ≤ end2 := by omega
  rw [BlursWith, if_pos ordered] at blurs
  rcases blurs with ⟨apart, -⟩ | ⟨apart, -⟩
  · exact absurd (second.1.trans first.2) (not_le.mpr apart)
  · exact absurd (first.1.trans second.2) (not_le.mpr apart)

theorem AppointmentRow.contains_iff (row : AppointmentRow) (instant : Time) :
    row.contains instant = true ↔ ∃ start finish,
      row.serviceSchedule = ⟨some start, some finish⟩ ∧ start ≤ instant ∧ instant ≤ finish := by
  rw [contains]
  rcases row.serviceSchedule with ⟨_ | start, _ | finish⟩ <;> simp

/-- An interval meets the schedule at one of its ends, or lies inside it. -/
theorem AppointmentRow.intersects_iff (row : AppointmentRow) (schedule : Period) :
    row.Intersects schedule ↔
      (schedule.start ≤ schedule.finish ∧ row.touches schedule = true) ∨ row.IsInside schedule := by
  simp only [Intersects, touches, IsInside, Bool.or_eq_true, contains_iff]
  constructor
  · rintro ⟨instant, ⟨start, finish, known, bounds⟩, inside⟩
    rcases (meet_iff start finish schedule.start schedule.finish).mp ⟨instant, bounds, inside⟩ with
      ⟨forward, atStart | atFinish⟩ | strictly
    · exact Or.inl ⟨forward, Or.inl ⟨start, finish, known, atStart⟩⟩
    · exact Or.inl ⟨forward, Or.inr ⟨start, finish, known, atFinish⟩⟩
    · exact Or.inr ⟨start, finish, known, strictly⟩
  · rintro (⟨forward, ⟨start, finish, known, bounds⟩ | ⟨start, finish, known, bounds⟩⟩ |
      ⟨start, finish, known, after, ordered, before⟩)
    · exact ⟨schedule.start, ⟨start, finish, known, bounds⟩, le_rfl, forward⟩
    · exact ⟨schedule.finish, ⟨start, finish, known, bounds⟩, forward, le_rfl⟩
    · exact ⟨start, ⟨start, finish, known, le_rfl, ordered⟩, after.le, ordered.trans before.le⟩

theorem AppointmentRow.IsFor.meets_iff {row : AppointmentRow} {appointment : Appointment}
    (isFor : row.IsFor appointment) (schedule : Period) :
    (∃ instant, (appointment.expectedArrivalPeriod.start ≤ instant ∧
        instant ≤ addMinutes appointment.expectedArrivalPeriod.start
          appointment.totalServiceMinutes) ∧
        schedule.start ≤ instant ∧ instant ≤ schedule.finish) ↔ row.Intersects schedule := by
  refine exists_congr fun instant => and_congr_left fun _ => ?_
  rw [AppointmentRow.contains_iff, isFor]
  constructor
  · exact fun bounds => ⟨_, _, rfl, bounds⟩
  · rintro ⟨start, finish, same, bounds⟩
    obtain ⟨rfl, rfl⟩ : _ = start ∧ _ = finish := by simpa using same
    exact bounds

/-- The entity makes the same test exactly if the appointment does not blur with the schedule. -/
theorem AppointmentRow.IsFor.sameTest_iff {row : AppointmentRow} {appointment : Appointment}
    (isFor : row.IsFor appointment) (schedule : Period) :
    (isWorkerScheduleOverlapped appointment schedule.start schedule.finish = true ↔
        row.Intersects schedule) ↔
      ¬BlursWith appointment.expectedArrivalPeriod.start
        (addMinutes appointment.expectedArrivalPeriod.start appointment.totalServiceMinutes)
        schedule.start schedule.finish := by
  have compared := overlapsInSeconds_iff appointment.expectedArrivalPeriod.start
    (addMinutes appointment.expectedArrivalPeriod.start appointment.totalServiceMinutes)
    schedule.start schedule.finish
  rw [isWorkerScheduleOverlapped, ← isFor.meets_iff schedule, compared]
  constructor
  · intro same blurs
    exact not_meet_of_blursWith blurs (same.mp (Or.inr blurs))
  · exact fun sharp => or_iff_left sharp

/-! ### The query -/

/-- The query reports the workers of the appointments at an end of the schedule. -/
theorem isReported_iff (rows : List AppointmentRow) {workerIds : List Uuid} (schedule : Period)
    {workerId : Uuid} (asked : workerIds = [] ∨ workerId ∈ workerIds) :
    IsReported rows workerIds schedule workerId ↔
      ∃ row ∈ rows, row.IsAllocatedTo workerId ∧ row.touches schedule = true := by
  refine (exists_mem_distinctOn_iff (fun row : AppointmentRow => row.provider.workerId) _ _).trans
    (exists_congr fun row => ?_)
  simp only [List.mem_filter, Bool.and_eq_true, decide_eq_true_eq, AppointmentRow.IsAllocatedTo]
  constructor
  · rintro ⟨⟨stored, ⟨allocated, touching⟩, -⟩, ofWorker⟩
    exact ⟨stored, ⟨allocated, ofWorker⟩, touching⟩
  · rintro ⟨stored, ⟨allocated, ofWorker⟩, touching⟩
    refine ⟨⟨stored, ⟨allocated, touching⟩, ?_⟩, ofWorker⟩
    rw [ofWorker]
    rcases asked with rfl | member
    · rfl
    · simp [member]

/-- The query tells exactly which workers are busy if appointments inside the schedule show. -/
theorem reported_iff (rows : List AppointmentRow) (schedule : Period) :
    (∀ (workerIds : List Uuid) (workerId : Uuid), workerIds = [] ∨ workerId ∈ workerIds →
      (IsReported rows workerIds schedule workerId ↔ IsBusy rows schedule workerId)) ↔
    (∀ row ∈ rows, ∀ workerId, row.IsAllocatedTo workerId → row.IsInside schedule →
      ∃ other ∈ rows, other.IsAllocatedTo workerId ∧ other.touches schedule = true) ∧
    (schedule.finish < schedule.start → ∀ row ∈ rows, ∀ workerId,
      row.IsAllocatedTo workerId → row.touches schedule = false) := by
  constructor
  · intro agrees
    constructor
    · intro row stored workerId allocated inside
      have asked : ([] : List Uuid) = [] ∨ workerId ∈ ([] : List Uuid) := Or.inl rfl
      rw [← isReported_iff rows schedule asked, agrees [] workerId asked]
      exact ⟨row, stored, allocated, (row.intersects_iff schedule).mpr (Or.inr inside)⟩
    · intro reversed row stored workerId allocated
      by_contra touching
      have asked : ([] : List Uuid) = [] ∨ workerId ∈ ([] : List Uuid) := Or.inl rfl
      obtain ⟨other, -, -, instant, -, after, before⟩ := (agrees [] workerId asked).mp
        ((isReported_iff rows schedule asked).mpr
          ⟨row, stored, allocated, Bool.not_eq_false _ ▸ touching⟩)
      exact absurd (after.trans before) (not_le.mpr reversed)
  · rintro ⟨shown, forward⟩ workerIds workerId asked
    rw [isReported_iff rows schedule asked]
    constructor
    · rintro ⟨row, stored, allocated, touching⟩
      refine ⟨row, stored, allocated, (row.intersects_iff schedule).mpr (Or.inl ⟨?_, touching⟩)⟩
      by_contra reversed
      rw [forward (not_le.mp reversed) row stored workerId allocated] at touching
      cases touching
    · rintro ⟨row, stored, allocated, intersects⟩
      rcases (row.intersects_iff schedule).mp intersects with ⟨-, touching⟩ | inside
      · exact ⟨row, stored, allocated, touching⟩
      · exact shown row stored workerId allocated inside

/-- A dealer is offered its workers but those that are reported. -/
theorem mem_getWorkersOfDealer_iff (directory : Directory) (rows : List AppointmentRow)
    (dealerId : Uuid) (schedule : Period) (worker : CrewMember) :
    worker ∈ getWorkersOfDealer directory rows dealerId schedule ↔
      worker ∈ workersOf directory dealerId ∧
        ¬IsReported rows ((workersOf directory dealerId).map (·.id)) schedule worker.id := by
  rw [getWorkersOfDealer, Directory.getWorkersOfDealer, ← workersOf, List.mem_filter]
  refine and_congr_right fun _ => ?_
  simp [IsReported]

/-! ### Agreement -/

/-- The tests tell which workers are busy exactly if appointments inside the schedule show, and
nothing is less than a second apart. -/
theorem detectsOverlaps_iff (rows : List AppointmentRow) (schedule : Period) :
    DetectsOverlaps rows schedule ↔ Distinguishes rows schedule := by
  constructor
  · intro detects
    obtain ⟨shown, forward⟩ := (reported_iff rows schedule).mp detects.reported
    exact
      { shown := shown
        forward := forward
        sharp := fun row stored allocated appointment isFor =>
          (isFor.sameTest_iff schedule).mp
            (detects.sameTest row stored allocated appointment isFor) }
  · intro distinguishes
    have reported := (reported_iff rows schedule).mpr ⟨distinguishes.shown, distinguishes.forward⟩
    refine
      { reported := reported
        sameTest := fun row stored allocated appointment isFor =>
          (isFor.sameTest_iff schedule).mpr
            (distinguishes.sharp row stored allocated appointment isFor)
        available := fun directory dealerId worker => ?_ }
    rw [mem_getWorkersOfDealer_iff]
    refine and_congr_right fun member => not_congr (reported _ _ (Or.inr ?_))
    exact List.mem_map_of_mem member

/-- An appointment from ten to eleven. -/
def exampleRow : AppointmentRow where
  serviceRequestId := "240101-a1b2c3d"
  provider := ⟨some (.ofServiceProvider exampleContractor),
    some (.ofServiceProvider exampleContractor), some (Service.scheduleOf ⟨36000000, 39600000, 8⟩)⟩
  status := .allocated

/-- The query for nine to twelve does not find it. -/
theorem not_detectsOverlaps_inside :
    ¬DetectsOverlaps [exampleRow] ⟨32400000, 43200000, 8⟩ := by
  intro detects
  have busy : IsBusy [exampleRow] ⟨32400000, 43200000, 8⟩ exampleContractor.id :=
    ⟨exampleRow, List.mem_singleton.mpr rfl, ⟨rfl, rfl⟩, 36000000, by decide +kernel, by decide,
      by decide⟩
  have found : findOverlappingAllocatedAppointmentsOfWorkers [exampleRow] [exampleContractor.id]
      ⟨32400000, 43200000, 8⟩ = [] := by
    decide +kernel
  obtain ⟨row, reported, -⟩ := (detects.reported [exampleContractor.id] exampleContractor.id
    (Or.inr (List.mem_singleton.mpr rfl))).mpr busy
  rw [found] at reported
  cases reported

end FieldService.Dispatching
