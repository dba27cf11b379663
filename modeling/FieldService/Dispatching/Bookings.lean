/-
This file settles when no worker is booked twice for the same time.

Of the three commands that give a job to a worker, two ask first whether the worker is occupied,
and the query they ask does not see an appointment inside the new one. The third asks nothing.
What else happens to the rows takes bookings away and never adds one, so a run of any number of
requests is free of double bookings exactly if every worker is free of the appointments that the
commands do not see.
-/

import FieldService.Dispatching.Appointments

namespace FieldService.Dispatching

open Execution

/-! ### Double bookings -/

/-- Two allocated appointments of a worker have an instant in common. -/
def DoubleBooked (first second : AppointmentRow) : Prop :=
  ∃ workerId, first.IsAllocatedTo workerId ∧ second.IsAllocatedTo workerId ∧
    ∃ instant, first.contains instant = true ∧ second.contains instant = true

/-- No two of the rows are a double booking. -/
def NoDoubleBooking (rows : List AppointmentRow) : Prop :=
  rows.Pairwise fun first second => ¬DoubleBooked first second

/-- The worker a transition gives the job to has no appointment in the schedule; of an assignment,
that no appointment is inside it. -/
def IsFreeFor (rows : List AppointmentRow) : Transition → Prop
  | .assign dispatcher serviceSchedule =>
    dispatcher.isIndependent = true →
      ∀ row ∈ rows, row.IsAllocatedTo dispatcher.id → ¬row.IsInside serviceSchedule
  | .allocate worker serviceSchedule => ¬IsBusy rows serviceSchedule worker.id
  | _ => True

/-- The condition on a step. -/
def Calendar.BooksFree (environment : Environment) (calendar : Calendar) : CalendarAction → Prop
  | .create _ _ => True
  | .operate serviceRequestId directory action =>
    ∀ world ∈ calendar.lives.find serviceRequestId, ∀ transition ∈
      (world.wait action.elapsed).performed environment
        (calendar.asked world directory action).operation,
      IsFreeFor calendar.appointments transition

/-! ### What a booking takes -/

section

variable {environment : Environment} {world : World} {operation : Operation}
  {rows : List AppointmentRow} {row : AppointmentRow}

/-- A transition without a booking asks for nobody's time. -/
theorem isFreeFor_of_booking_eq_none {transition : Transition}
    (books : booking world transition = none) : IsFreeFor rows transition := by
  cases transition with
  | assign dispatcher serviceSchedule =>
    intro independent
    rw [booking, if_pos independent] at books
    cases books
  | allocate worker serviceSchedule => cases books
  | _ => trivial

/-- A row that is booked at the time of the service meets another one in the schedule. -/
theorem meets_iff_intersects {serviceSchedule : Period}
    (at' : row.serviceSchedule = ⟨some serviceSchedule.start, some serviceSchedule.finish⟩)
    (other : AppointmentRow) :
    (∃ instant, other.contains instant = true ∧ row.contains instant = true) ↔
      other.Intersects serviceSchedule := by
  refine exists_congr fun instant => and_congr_right fun _ => ?_
  rw [AppointmentRow.contains_iff, at']
  constructor
  · rintro ⟨start, finish, same, bounds⟩
    obtain ⟨rfl, rfl⟩ : _ = start ∧ _ = finish := by simpa using same
    exact bounds
  · exact fun bounds => ⟨_, _, rfl, bounds⟩

/-- A row that is double booked after an update was so before. -/
theorem DoubleBooked.of_changed {first second : AppointmentRow}
    (double : DoubleBooked (changed environment world operation first)
      (changed environment world operation second)) : DoubleBooked first second := by
  obtain ⟨workerId, ⟨firstStatus, firstWorker⟩, ⟨secondStatus, secondWorker⟩, instant, meet⟩ :=
    double
  have firstKept := changed_of_not_selects (changed_allocated_iff.mp firstStatus).2
  have secondKept := changed_of_not_selects (changed_allocated_iff.mp secondStatus).2
  rw [firstKept] at firstStatus firstWorker meet
  rw [secondKept] at secondStatus secondWorker meet
  exact ⟨workerId, ⟨firstStatus, firstWorker⟩, ⟨secondStatus, secondWorker⟩, instant, meet⟩

theorem NoDoubleBooking.map_changed (once : NoDoubleBooking rows) :
    NoDoubleBooking (rows.map (changed environment world operation)) :=
  List.pairwise_map.mpr (once.imp fun apart double => apart double.of_changed)

/-- With a booking there is no double booking exactly if its worker is not busy. -/
theorem noDoubleBooking_booked_iff {worker : ServiceProvider} {serviceSchedule : Period}
    (once : NoDoubleBooking rows)
    (books : (world.performed environment operation).bind (booking world) = some row)
    (staffed : row.provider.workerId = some worker.id) (allocated : row.status = .allocated)
    (at' : row.serviceSchedule = ⟨some serviceSchedule.start, some serviceSchedule.finish⟩) :
    NoDoubleBooking ((rows ++ [row]).map (changed environment world operation)) ↔
      ¬IsBusy rows serviceSchedule worker.id := by
  have kept := changed_of_sameWorker books staffed staffed
  rw [List.map_append, List.map_singleton, kept, NoDoubleBooking, List.pairwise_append]
  constructor
  · rintro ⟨-, -, apart⟩ ⟨other, stored, ofWorker, intersects⟩
    refine apart other ?_ row (List.mem_singleton.mpr rfl) ⟨worker.id, ofWorker,
      ⟨allocated, staffed⟩, (meets_iff_intersects at' other).mpr intersects⟩
    exact List.mem_map.mpr ⟨other, stored, changed_of_sameWorker books staffed ofWorker.2⟩
  · intro free
    refine ⟨once.map_changed, List.pairwise_singleton _ _, fun later member booked isRow => ?_⟩
    obtain rfl := List.mem_singleton.mp isRow
    rintro ⟨workerId, ⟨status, known⟩, ⟨-, same⟩, meet⟩
    obtain ⟨other, stored, rfl⟩ := List.mem_map.mp member
    have unchanged := changed_of_not_selects (changed_allocated_iff.mp status).2
    rw [unchanged] at status known meet
    obtain rfl := Option.some.inj (staffed.symm.trans same)
    exact free ⟨other, stored, ⟨status, known⟩, (meets_iff_intersects at' other).mp meet⟩

/-! ### What the commands ask -/

theorem Occupancy.notOverlapped {occupancy : Occupancy} {errors : OccupancyErrors}
    {serviceProvider : ServiceProvider} {schedule : Period}
    (passes : occupancy.check errors serviceProvider schedule = .ok ())
    (independent : serviceProvider.isIndependent = true) :
    occupancy.overlappedAppointment = none := by
  have type : serviceProvider.type = .independent := of_decide_eq_true independent
  have notDealer : ¬serviceProvider.isDealer = true := by simp [ServiceProvider.isDealer, type]
  rw [Occupancy.check, if_neg notDealer] at passes
  cases overlapped : occupancy.overlappedAppointment with
  | none => rfl
  | some serviceRequestId =>
    rw [overlapped] at passes
    cases passes

/-- A contractor whose occupancy passes has no appointment at an end of the schedule. -/
theorem untouched_of_check {directory : Directory} {schedule : Period} {answer : ProviderAnswer}
    {errors : OccupancyErrors} {serviceProvider : ServiceProvider}
    (found : answer.get = .ok serviceProvider)
    (passes : (occupancyOf directory rows schedule answer).check errors serviceProvider schedule =
      .ok ())
    (independent : serviceProvider.isIndependent = true) :
    ∀ row ∈ rows, row.IsAllocatedTo serviceProvider.id → ¬row.touches schedule = true := by
  intro row stored ofWorker touching
  have same : serviceProvider.id = answer.providerId :=
    answer.matching serviceProvider (ProviderAnswer.get_eq_ok found)
  obtain ⟨reported, member, -⟩ := (isReported_iff rows schedule
    (Or.inr (List.mem_singleton.mpr same))).mpr ⟨row, stored, ofWorker, touching⟩
  have overlapped := Occupancy.notOverlapped passes independent
  rw [occupancyOf, Option.map_eq_none_iff, List.head?_eq_none_iff] at overlapped
  rw [overlapped] at member
  cases member

/-- A contractor who is assigned a job has been asked about. -/
theorem untouched_of_assigned {directory : Directory} {worker : ServiceProvider}
    {serviceSchedule : Period}
    (performed : world.performed environment
      (consulted directory rows world.load.serviceSchedule operation) =
        some (.assign worker serviceSchedule))
    (independent : worker.isIndependent = true) :
    ∀ row ∈ rows, row.IsAllocatedTo worker.id → ¬row.touches serviceSchedule = true := by
  rw [World.performed] at performed
  cases executed : world.execute environment
      (consulted directory rows world.load.serviceSchedule operation) with
  | error error =>
    rw [executed] at performed
    cases performed
  | ok after =>
    rw [executed] at performed
    have origin := World.comesFrom performed
    cases operation with
    | accept answer occupancy =>
      obtain ⟨errors, dispatcher, -, found, passes, -, -⟩ :=
        World.assigns_of_eq_ok (Or.inl rfl) executed
      simp only [consulted, World.transition, ProviderAnswer.get_eq_ok found, Option.map_some,
        Option.some.injEq, Transition.assign.injEq] at performed
      obtain ⟨rfl, rfl⟩ := performed
      exact untouched_of_check found passes independent
    | manuallyAssign answer occupancy =>
      obtain ⟨errors, dispatcher, -, found, passes, -, -⟩ :=
        World.assigns_of_eq_ok (Or.inr rfl) executed
      simp only [consulted, World.transition, ProviderAnswer.get_eq_ok found, Option.map_some,
        Option.some.injEq, Transition.assign.injEq] at performed
      obtain ⟨rfl, rfl⟩ := performed
      exact untouched_of_check found passes independent
    | _ => exact origin.elim

/-- Whom a transition gives the job to is free for it exactly if not busy. -/
theorem isFreeFor_iff {directory : Directory} {transition : Transition} {worker : ServiceProvider}
    {serviceSchedule : Period}
    (performed : world.performed environment
      (consulted directory rows world.load.serviceSchedule operation) = some transition)
    (gives : (transition = .assign worker serviceSchedule ∧ worker.isIndependent = true) ∨
      transition = .allocate worker serviceSchedule) :
    IsFreeFor rows transition ↔ ¬IsBusy rows serviceSchedule worker.id := by
  rcases gives with ⟨rfl, independent⟩ | rfl
  · have untouched := untouched_of_assigned performed independent
    constructor
    · rintro free ⟨row, stored, ofWorker, intersects⟩
      rcases (row.intersects_iff serviceSchedule).mp intersects with ⟨-, touching⟩ | inside
      · exact untouched row stored ofWorker touching
      · exact free independent row stored ofWorker inside
    · intro free _ row stored ofWorker inside
      exact free ⟨row, stored, ofWorker, (row.intersects_iff serviceSchedule).mpr (Or.inr inside)⟩
  · exact Iff.rfl

end

/-- After an action there is no double booking exactly if its worker is free. -/
theorem Calendar.noDoubleBooking_after_iff (environment : Environment) (calendar : Calendar)
    (world : World) (directory : Directory) (action : Timed)
    (once : NoDoubleBooking calendar.appointments) :
    NoDoubleBooking
        (calendar.appointmentsAfter environment world (calendar.asked world directory action)) ↔
      ∀ transition ∈ (world.wait action.elapsed).performed environment
          (calendar.asked world directory action).operation,
        IsFreeFor calendar.appointments transition := by
  rw [appointmentsAfter_eq]
  show NoDoubleBooking ((calendar.appointments ++
    (((world.wait action.elapsed).performed environment
      (calendar.asked world directory action).operation).bind
        (booking (world.wait action.elapsed))).toList).map _) ↔ _
  cases performed : (world.wait action.elapsed).performed environment
      (calendar.asked world directory action).operation with
  | none =>
    rw [Option.bind_none, Option.toList_none, List.append_nil]
    exact iff_of_true once.map_changed fun _ member => by cases member
  | some transition =>
    simp only [Option.bind_some, Option.mem_def, Option.some.injEq, forall_eq']
    cases books : booking (world.wait action.elapsed) transition with
    | none =>
      rw [Option.toList_none, List.append_nil]
      exact iff_of_true once.map_changed (isFreeFor_of_booking_eq_none books)
    | some row =>
      obtain ⟨worker, serviceSchedule, gives, staffed, at'⟩ := booking_worker books
      rw [isFreeFor_iff performed gives]
      exact noDoubleBooking_booked_iff once
        (Option.bind_eq_some_iff.mpr ⟨transition, performed, books⟩) staffed
        (booking_frame books).2 at'

/-! ### Runs -/

/-- A step out of a calendar without double bookings leads to one exactly if it books whoever is
free. -/
theorem Calendar.noDoubleBooking_step_iff (environment : Environment) (calendar : Calendar)
    (once : NoDoubleBooking calendar.appointments) (action : CalendarAction) :
    NoDoubleBooking (calendar.step environment action).appointments ↔
      calendar.BooksFree environment action := by
  cases action with
  | create input now =>
    have same : (calendar.step environment (.create input now)).appointments =
        calendar.appointments := by
      simp only [step]
      split
      · rfl
      · split <;> rfl
    rw [same]
    exact iff_of_true once trivial
  | operate serviceRequestId directory action =>
    rw [step, BooksFree]
    cases found : calendar.lives.find serviceRequestId with
    | none => exact iff_of_true once fun _ none => by cases none
    | some world =>
      simp only [Option.mem_def, Option.some.injEq, forall_eq']
      exact calendar.noDoubleBooking_after_iff environment world directory action once

/-- In a run over any number of requests no worker is ever booked twice for one time, exactly if
every step books whoever is free. -/
theorem noDoubleBooking_throughout_iff (environment : Environment)
    (actions : List CalendarAction) :
    Throughout (Calendar.step environment)
        (fun calendar => NoDoubleBooking calendar.appointments) .empty actions ↔
      Along (Calendar.step environment) (Calendar.BooksFree environment) .empty actions :=
  throughout_iff_along (Calendar.step environment) (Calendar.BooksFree environment) (fun _ => True)
    (fun calendar => NoDoubleBooking calendar.appointments) (fun _ _ _ => trivial)
    (fun calendar action _ once => calendar.noDoubleBooking_step_iff environment once action)
    .empty actions trivial List.Pairwise.nil

/-- The contractor accepts a job of an hour, and one of two hours around it. -/
def exampleBookings : List CalendarAction :=
  [.create (exampleOrder "240101-a1b2c3d" 360000000 60) 0,
    .create (exampleOrder "240101-e4f5a6b" 358200000 120) 0,
    .operate "240101-a1b2c3d" exampleDirectory ⟨1000, .accept exampleAnswer ⟨0, none⟩⟩,
    .operate "240101-e4f5a6b" exampleDirectory ⟨1000, .accept exampleAnswer ⟨0, none⟩⟩]

theorem not_noDoubleBooking_around :
    ¬Throughout (Calendar.step exampleEnvironment)
        (fun calendar => NoDoubleBooking calendar.appointments) .empty exampleBookings := by
  intro throughout
  have once : NoDoubleBooking
      (run (Calendar.step exampleEnvironment) .empty exampleBookings).appointments :=
    throughout exampleBookings List.prefix_rfl
  have both : (run (Calendar.step exampleEnvironment) .empty exampleBookings).appointments =
      [exampleBooked "240101-a1b2c3d" 360000000 363600000 .allocated,
        exampleBooked "240101-e4f5a6b" 358200000 365400000 .allocated] := by
    decide +kernel
  rw [both, NoDoubleBooking, List.pairwise_pair] at once
  exact once ⟨exampleContractor.id, ⟨rfl, rfl⟩, ⟨rfl, rfl⟩, 360000000, by decide +kernel,
    by decide +kernel⟩

end FieldService.Dispatching
