/-
This file settles when the rows of `appointments` mirror who holds the jobs.

A handler updates all the rows of a request that it matches, those of earlier allocations as well,
and so writes over how these have ended. On the other hand there are ways to take a job from its
worker whose event passes over the row, or that have no event at all: the row stays allocated. A
calendar mirrors its requests, and no row changes once it has ended, exactly if neither happens.
-/

import FieldService.Dispatching.Appointments

namespace FieldService.Dispatching

open Execution

/-! ### What is to be mirrored -/

/-- The job is allocated to the worker. -/
def IsHeldBy (service : Service) (workerId : Uuid) : Prop :=
  service.allocationStatus = .allocated ∧ service.workerId = some workerId

/-- Two rows are allocated for one request. -/
def SharesRequest (first second : AppointmentRow) : Prop :=
  first.status = .allocated ∧ second.status = .allocated ∧
    first.serviceRequestId = second.serviceRequestId

structure Calendar.Mirrors (calendar : Calendar) : Prop where
  /-- A request has at most one allocated row. -/
  single : calendar.appointments.Pairwise fun first second => ¬SharesRequest first second
  /-- An allocated row is that of the worker who holds the job. -/
  current : ∀ row ∈ calendar.appointments, row.status = .allocated →
    ∃ world workerId, calendar.lives.find row.serviceRequestId = some world ∧
      row.provider.workerId = some workerId ∧ IsHeldBy world.request.service workerId

/-- A row that has left the allocated status keeps its status. -/
def LeavesSettled (before after : List AppointmentRow) : Prop :=
  ∀ (index : Nat) (row : AppointmentRow), before[index]? = some row → row.status ≠ .allocated →
    ∃ later, after[index]? = some later ∧ later.status = row.status

/-- The transition takes the job from whoever holds it. -/
def releases : Transition → Bool
  | .assign _ _ => true
  | .terminate _ => true
  | .expire => true
  | .restart => true
  | _ => false

/-- What an action has to meet: its event matches no row that has ended otherwise, and every
allocated row of a job that is taken from its worker. -/
structure Calendar.Covers (environment : Environment) (calendar : Calendar) (world : World)
    (action : Timed) : Prop where
  spares : ∀ event ∈ publishedEvent environment (world.wait action.elapsed) action.operation,
    ∀ row ∈ calendar.appointments, row.status ≠ .allocated →
      event.update.criteria row = true → row.status = event.update.status
  clears : ∀ transition ∈ (world.wait action.elapsed).performed environment action.operation,
    releases transition = true → ∀ row ∈ calendar.appointments,
      row.serviceRequestId = world.request.id → row.status = .allocated →
        selects environment (world.wait action.elapsed) action.operation row = true

/-- The condition on a step. -/
def Calendar.StaysMirrored (environment : Environment) (calendar : Calendar) :
    CalendarAction → Prop
  | .create _ _ => True
  | .operate serviceRequestId directory action =>
    ∀ world ∈ calendar.lives.find serviceRequestId,
      calendar.Covers environment world (calendar.asked world directory action)

/-! ### Who holds a job -/

section

variable {environment : Environment} {world : World} {action : Timed} {workerId : Uuid}

/-- Who holds a job goes on to hold it if nothing takes it away or gives it to another. -/
theorem isHeldBy_kept (consistent : world.request.service.Consistent)
    (held : IsHeldBy world.request.service workerId)
    (keeps : ∀ transition ∈ (world.wait action.elapsed).performed environment action.operation,
      releases transition = false ∧ booking (world.wait action.elapsed) transition = none) :
    IsHeldBy (world.step environment action).request.service workerId := by
  cases world.step_cases environment action with
  | kept performed service handlingEvents =>
    obtain ⟨last, columns⟩ := World.kept_columns service
    rw [columns]
    exact held
  | made transition performed own permitted repository handlingEvents service =>
    obtain ⟨keepsJob, unbooked⟩ := keeps transition performed
    have dispatched : world.loaded.dispatcherId.isSome = true :=
      consistent.dispatched (by rw [held.1]; decide)
    have staffed : world.loaded.workerId = some workerId := held.2
    have sameProvider : transition.provider world.loaded = world.loaded.provider := by
      cases transition with
      | allocate worker serviceSchedule => cases unbooked
      | progress history => rfl
      | markFailed => rfl
      | pay history => rfl
      | _ => cases keepsJob
    have status : (world.step environment action).loaded.allocationStatus = .allocated := by
      rw [service.allocationStatus, sameProvider]
      refine (allocationStatus_same world.loaded).1.mpr ?_
      rw [dispatched, staffed]
      rfl
    exact ⟨status, (service.sameProvider sameProvider).2.trans staffed⟩

/-- Whoever a job is booked for holds it. -/
theorem isHeldBy_booked {row : AppointmentRow}
    (books : ((world.wait action.elapsed).performed environment action.operation).bind
      (booking (world.wait action.elapsed)) = some row)
    (staffed : row.provider.workerId = some workerId) :
    IsHeldBy (world.step environment action).request.service workerId := by
  obtain ⟨booked, performs, booksRow⟩ := Option.bind_eq_some_iff.mp books
  cases world.step_cases environment action with
  | kept performed service handlingEvents =>
    rw [performed] at performs
    cases performs
  | made transition performed own permitted repository handlingEvents service =>
    obtain rfl := Option.some.inj (performed.symm.trans performs)
    have granted := World.granted own permitted
    cases transition with
    | assign dispatcher serviceSchedule =>
      rw [booking] at booksRow
      split at booksRow
      · rename_i independent
        cases booksRow
        constructor
        · refine service.allocationStatus.trans ?_
          rw [allocationStatus_assign, if_pos independent]
        · show (world.step environment action).loaded.provider.bind (·.workerId) = some workerId
          rw [service.provider, Transition.provider, if_pos independent,
            Provider.persist_workerId _ _ _ (Option.some_ne_none _)]
          exact staffed
      · cases booksRow
    | allocate worker serviceSchedule =>
      cases booksRow
      constructor
      · refine service.allocationStatus.trans ?_
        exact allocationStatus_allocate world.loaded worker serviceSchedule granted.1
      · show (world.step environment action).loaded.provider.bind (·.workerId) = some workerId
        rw [service.provider, Transition.provider,
          Provider.persist_workerId _ _ _ (Option.some_ne_none _)]
        exact staffed
    | _ => cases booksRow

/-- A job that is taken away and not booked is held by nobody. -/
theorem not_isHeldBy_released {transition : Transition}
    (performs : (world.wait action.elapsed).performed environment action.operation =
      some transition)
    (taken : releases transition = true)
    (unbooked : booking (world.wait action.elapsed) transition = none) :
    ¬IsHeldBy (world.step environment action).request.service workerId := by
  rintro ⟨allocated, -⟩
  cases world.step_cases environment action with
  | kept performed service handlingEvents =>
    rw [performed] at performs
    cases performs
  | made made performed own permitted repository handlingEvents service =>
    obtain rfl := Option.some.inj (performed.symm.trans performs)
    have status := service.allocationStatus.symm.trans allocated
    cases made with
    | assign dispatcher serviceSchedule =>
      rw [allocationStatus_assign, if_neg] at status
      · cases status
      · intro independent
        rw [booking, if_pos independent] at unbooked
        cases unbooked
    | terminate cancellationStatus => cases status
    | expire => cases status
    | restart => cases status
    | _ => cases taken

end

/-! ### Rows that have ended -/

theorem LeavesSettled.refl (rows : List AppointmentRow) : LeavesSettled rows rows :=
  fun _ row stored _ => ⟨row, stored, rfl⟩

theorem LeavesSettled.trans {first second third : List AppointmentRow}
    (earlier : LeavesSettled first second) (later : LeavesSettled second third) :
    LeavesSettled first third := by
  intro index row stored ended
  obtain ⟨between, storedThen, same⟩ := earlier index row stored ended
  obtain ⟨last, storedLast, sameLast⟩ := later index between storedThen (same ▸ ended)
  exact ⟨last, storedLast, sameLast.trans same⟩

/-- Rows that are changed in place and followed by others are left settled if the change is. -/
theorem leavesSettled_map_iff (change : AppointmentRow → AppointmentRow)
    (rows added : List AppointmentRow) :
    LeavesSettled rows ((rows ++ added).map change) ↔
      ∀ row ∈ rows, row.status ≠ .allocated → (change row).status = row.status := by
  have inPlace : ∀ (index : Nat) (row : AppointmentRow), rows[index]? = some row →
      ((rows ++ added).map change)[index]? = some (change row) := by
    intro index row stored
    obtain ⟨within, -⟩ := List.getElem?_eq_some_iff.mp stored
    rw [List.getElem?_map, List.getElem?_append_left within, stored]
    rfl
  constructor
  · intro settled row member ended
    obtain ⟨index, stored⟩ := List.mem_iff_getElem?.mp member
    obtain ⟨later, storedLater, same⟩ := settled index row stored ended
    obtain rfl := Option.some.inj ((inPlace index row stored).symm.trans storedLater)
    exact same
  · intro settled index row stored ended
    exact ⟨change row, inPlace index row stored,
      settled row (List.mem_of_getElem? stored) ended⟩

theorem changed_status_iff {environment : Environment} {world : World} {operation : Operation}
    {row : AppointmentRow} :
    (changed environment world operation row).status = row.status ↔
      ∀ event ∈ publishedEvent environment world operation,
        event.update.criteria row = true → row.status = event.update.status := by
  rw [changed]
  cases publishedEvent environment world operation with
  | none => exact iff_of_true rfl fun _ member => by cases member
  | some event =>
    simp only [Option.elim_some, Option.mem_def, Option.some.injEq, forall_eq',
      AppointmentUpdate.change]
    split
    · rename_i matches'
      exact ⟨fun same _ => same.symm, fun same => (same matches').symm⟩
    · rename_i unmatched
      exact iff_of_true rfl fun matches' => absurd matches' unmatched

/-! ### One action -/

section

variable {environment : Environment} {calendar : Calendar} {world : World} {action : Timed}

/-- An allocated row of the request is updated if the job is taken from its worker or given to
another. -/
theorem Calendar.Covers.selects (covers : calendar.Covers environment world action)
    {transition : Transition} {other : AppointmentRow} {workerId : Uuid}
    (performed : (world.wait action.elapsed).performed environment action.operation =
      some transition)
    (moves : releases transition = true ∨
      (booking (world.wait action.elapsed) transition).isSome = true)
    (stored : other ∈ calendar.appointments) (ofRequest : other.serviceRequestId = world.request.id)
    (allocated : other.status = .allocated) (staffed : other.provider.workerId = some workerId)
    (held : IsHeldBy world.request.service workerId) :
    selects environment (world.wait action.elapsed) action.operation other = true := by
  by_cases taken : releases transition = true
  · exact covers.clears transition performed taken other stored ofRequest allocated
  · obtain ⟨row, books⟩ := Option.isSome_iff_exists.mp (moves.resolve_left taken)
    have booked : ((world.wait action.elapsed).performed environment action.operation).bind
        (booking (world.wait action.elapsed)) = some row :=
      Option.bind_eq_some_iff.mpr ⟨transition, performed, books⟩
    cases transition with
    | allocate worker serviceSchedule =>
      cases world.step_cases environment action with
      | kept unperformed service handlingEvents =>
        rw [unperformed] at performed
        cases performed
      | made made performs own permitted repository handlingEvents service =>
        obtain rfl := Option.some.inj (performs.symm.trans performed)
        have granted := World.granted own permitted
        have workerOfRow : row.provider.workerId = some worker.id := by
          cases books
          rfl
        refine (selects_of_booking booked workerOfRow).mpr ⟨ofRequest, workerId, staffed, ?_⟩
        rintro rfl
        exact granted.2 held.2
    | assign dispatcher serviceSchedule => exact absurd rfl taken
    | _ => cases books

/-- The calendar after an action on a request it has. -/
def Calendar.acted (environment : Environment) (calendar : Calendar) (world : World)
    (action : Timed) : Calendar where
  lives := calendar.lives.save (world.step environment action)
  appointments := calendar.appointmentsAfter environment world action

/-- An action that covers what it has to leaves each request with one allocated row at most. -/
theorem Calendar.Covers.single (covers : calendar.Covers environment world action)
    (found : calendar.lives.find world.request.id = some world) (mirrors : calendar.Mirrors) :
    (calendar.acted environment world action).appointments.Pairwise
      fun first second => ¬SharesRequest first second := by
  rw [acted, appointmentsAfter_eq, List.map_append, List.pairwise_append]
  have earlier : (calendar.appointments.map
      (changed environment (world.wait action.elapsed) action.operation)).Pairwise
        fun first second => ¬SharesRequest first second := by
    refine List.pairwise_map.mpr (mirrors.single.imp fun apart shares => apart ?_)
    obtain ⟨first, second, request⟩ := shares
    rw [(changed_frame _ _ _ _).1, (changed_frame _ _ _ _).1] at request
    exact ⟨(changed_allocated_iff.mp first).1, (changed_allocated_iff.mp second).1, request⟩
  refine ⟨earlier, ?_, ?_⟩
  · cases ((world.wait action.elapsed).performed environment action.operation).bind
        (booking (world.wait action.elapsed)) with
    | none => exact List.Pairwise.nil
    | some row => exact List.pairwise_singleton _ _
  · rintro _ isOld _ isNew ⟨allocated, -, request⟩
    obtain ⟨other, stored, rfl⟩ := List.mem_map.mp isOld
    obtain ⟨row, isBooking, rfl⟩ := List.mem_map.mp isNew
    obtain ⟨transition, performed, books⟩ :=
      Option.bind_eq_some_iff.mp (Option.mem_toList.mp isBooking)
    obtain ⟨before, passed⟩ := changed_allocated_iff.mp allocated
    rw [(changed_frame _ _ _ _).1, (changed_frame _ _ _ _).1, (booking_frame books).1] at request
    obtain ⟨holder, workerId, foundHolder, staffed, held⟩ := mirrors.current other stored before
    rw [request] at foundHolder
    obtain rfl := Option.some.inj (found.symm.trans foundHolder)
    have selected := covers.selects performed (Or.inr (Option.isSome_iff_exists.mpr ⟨row, books⟩))
      stored request before staffed held
    rw [passed] at selected
    cases selected

/-- An action that covers what it has to leaves an allocated row to who holds the job. -/
theorem Calendar.Covers.current (covers : calendar.Covers environment world action)
    (found : calendar.lives.find world.request.id = some world) (mirrors : calendar.Mirrors)
    (consistent : world.request.service.Consistent) :
    ∀ row ∈ (calendar.acted environment world action).appointments, row.status = .allocated →
      ∃ holder workerId,
        (calendar.acted environment world action).lives.find row.serviceRequestId = some holder ∧
        row.provider.workerId = some workerId ∧ IsHeldBy holder.request.service workerId := by
  have number : (world.step environment action).request.id = world.request.id :=
    (world.step_frame environment action).1
  intro later member allocated
  rw [acted, appointmentsAfter_eq] at member
  obtain ⟨row, isRow, rfl⟩ := List.mem_map.mp member
  obtain ⟨before, passed⟩ := changed_allocated_iff.mp allocated
  rw [changed_of_not_selects passed, acted, Table.find_save, number]
  rcases List.mem_append.mp isRow with stored | isBooking
  · obtain ⟨holder, workerId, foundHolder, staffed, held⟩ := mirrors.current row stored before
    by_cases request : world.request.id = row.serviceRequestId
    · rw [if_pos request]
      rw [← request] at foundHolder
      obtain rfl := Option.some.inj (found.symm.trans foundHolder)
      refine ⟨_, workerId, rfl, staffed, isHeldBy_kept consistent held ?_⟩
      intro transition performed
      by_contra changes
      have moves : releases transition = true ∨
          (booking (world.wait action.elapsed) transition).isSome = true := by
        by_cases taken : releases transition = true
        · exact Or.inl taken
        · exact Or.inr (Option.isSome_iff_ne_none.mpr fun unbooked =>
            changes ⟨Bool.eq_false_iff.mpr taken, unbooked⟩)
      have selected := covers.selects performed moves stored request.symm before staffed held
      rw [passed] at selected
      cases selected
    · rw [if_neg request]
      exact ⟨holder, workerId, foundHolder, staffed, held⟩
  · have books := Option.mem_toList.mp isBooking
    obtain ⟨transition, performed, booksRow⟩ := Option.bind_eq_some_iff.mp books
    obtain ⟨worker, serviceSchedule, -, staffed, -⟩ := booking_worker booksRow
    have request : world.request.id = row.serviceRequestId := (booking_frame booksRow).1.symm
    rw [if_pos request]
    exact ⟨_, worker.id, rfl, staffed, isHeldBy_booked books staffed⟩

/-- If the mirror holds after an action, the action has updated the allocated rows of a job that
was taken from its worker. -/
theorem Calendar.Mirrors.clears (after : (calendar.acted environment world action).Mirrors)
    {transition : Transition} {row : AppointmentRow}
    (performed : (world.wait action.elapsed).performed environment action.operation =
      some transition)
    (taken : releases transition = true) (stored : row ∈ calendar.appointments)
    (ofRequest : row.serviceRequestId = world.request.id) (allocated : row.status = .allocated) :
    selects environment (world.wait action.elapsed) action.operation row = true := by
  by_contra passed
  have passedOver : selects environment (world.wait action.elapsed) action.operation row = false :=
    Bool.eq_false_iff.mpr passed
  have kept := changed_of_not_selects passedOver
  have single := after.single
  have current := after.current
  rw [acted, appointmentsAfter_eq, performed, Option.bind_some] at single current
  cases books : booking (world.wait action.elapsed) transition with
  | none =>
    have stays : row ∈ (calendar.appointments ++
        (booking (world.wait action.elapsed) transition).toList).map
          (changed environment (world.wait action.elapsed) action.operation) :=
      List.mem_map.mpr ⟨row, List.mem_append_left _ stored, kept⟩
    obtain ⟨holder, workerId, found, -, held⟩ := current row stays allocated
    rw [Table.find_save, (world.step_frame environment action).1, if_pos ofRequest.symm] at found
    obtain rfl := Option.some.inj found
    exact not_isHeldBy_released performed taken books held
  | some new =>
    rw [books, List.map_append, List.pairwise_append] at single
    obtain ⟨request, status⟩ := booking_frame books
    obtain ⟨worker, serviceSchedule, -, staffed, -⟩ := booking_worker books
    have newKept : changed environment (world.wait action.elapsed) action.operation new = new :=
      changed_of_sameWorker (Option.bind_eq_some_iff.mpr ⟨transition, performed, books⟩) staffed
        staffed
    exact single.2.2 row (List.mem_map.mpr ⟨row, stored, kept⟩) new
      (List.mem_map.mpr ⟨new, Option.mem_toList.mpr rfl, newKept⟩)
      ⟨allocated, status, ofRequest.trans request.symm⟩

/-- An action leaves the rows that have ended and the mirror alone exactly if it covers what it
has to. -/
theorem Calendar.mirrors_acted_iff
    (found : calendar.lives.find world.request.id = some world) (mirrors : calendar.Mirrors)
    (consistent : world.request.service.Consistent) :
    LeavesSettled calendar.appointments (calendar.acted environment world action).appointments ∧
        (calendar.acted environment world action).Mirrors ↔
      calendar.Covers environment world action := by
  have settled : LeavesSettled calendar.appointments
      (calendar.acted environment world action).appointments ↔
        ∀ row ∈ calendar.appointments, row.status ≠ .allocated →
          ∀ event ∈ publishedEvent environment (world.wait action.elapsed) action.operation,
            event.update.criteria row = true → row.status = event.update.status := by
    rw [acted, appointmentsAfter_eq, leavesSettled_map_iff]
    exact forall₃_congr fun row _ _ => changed_status_iff
  rw [settled]
  constructor
  · rintro ⟨spares, after⟩
    constructor
    · exact fun event published row stored ended => spares row stored ended event published
    · exact fun transition performed taken row stored ofRequest allocated =>
        after.clears performed taken stored ofRequest allocated
  · intro covers
    refine ⟨fun row stored ended event published =>
      covers.spares event published row stored ended, ?_⟩
    exact ⟨covers.single found mirrors, covers.current found mirrors consistent⟩

end

/-! ### Runs -/

/-- The services of all requests are in agreement with themselves. -/
def Calendar.Sound (calendar : Calendar) : Prop :=
  ∀ id world, calendar.lives.find id = some world → world.request.service.Consistent

theorem Calendar.sound_save {calendar : Calendar} (sound : calendar.Sound) {world : World}
    (consistent : world.request.service.Consistent) (id : String) (other : World)
    (found : (calendar.lives.save world).find id = some other) :
    other.request.service.Consistent := by
  rw [Table.find_save] at found
  split at found
  · cases found
    exact consistent
  · exact sound id other found

theorem Calendar.sound_step (environment : Environment) {calendar : Calendar}
    (sound : calendar.Sound) (action : CalendarAction) :
    (calendar.step environment action).Sound := by
  cases action with
  | create input now =>
    simp only [step]
    split
    · exact sound
    · rename_i request created
      split
      · exact sound
      · exact sound_save sound (ServiceRequest.create_consistent created)
  | operate serviceRequestId directory action =>
    simp only [step]
    cases found : calendar.lives.find serviceRequestId with
    | none => exact sound
    | some world =>
      exact sound_save sound (World.consistent_step environment world _
        (sound serviceRequestId world found))

/-- A new request has no rows. -/
theorem Calendar.mirrors_create {calendar : Calendar} (mirrors : calendar.Mirrors) {world : World}
    (unused : calendar.lives.find world.request.id = none) :
    ({ calendar with lives := calendar.lives.save world } : Calendar).Mirrors := by
  refine ⟨mirrors.single, fun row stored allocated => ?_⟩
  obtain ⟨holder, workerId, found, staffed, held⟩ := mirrors.current row stored allocated
  refine ⟨holder, workerId, ?_, staffed, held⟩
  rw [Table.find_save, if_neg]
  · exact found
  · intro same
    rw [same, found] at unused
    cases unused

theorem Calendar.mirrors_step_iff (environment : Environment) (calendar : Calendar)
    (action : CalendarAction) (sound : calendar.Sound) (mirrors : calendar.Mirrors) :
    LeavesSettled calendar.appointments (calendar.step environment action).appointments ∧
        (calendar.step environment action).Mirrors ↔
      calendar.StaysMirrored environment action := by
  have unchanged : LeavesSettled calendar.appointments calendar.appointments ∧ calendar.Mirrors :=
    ⟨.refl _, mirrors⟩
  cases action with
  | create input now =>
    simp only [step]
    split
    · exact iff_of_true unchanged trivial
    split
    · exact iff_of_true unchanged trivial
    · rename_i request created unused
      have new : calendar.lives.find request.id = none := by simpa using unused
      exact iff_of_true ⟨.refl _, mirrors_create mirrors new⟩ trivial
  | operate serviceRequestId directory action =>
    rw [step, StaysMirrored]
    cases found : calendar.lives.find serviceRequestId with
    | none => exact iff_of_true unchanged fun _ member => by cases member
    | some world =>
      simp only [Option.mem_def, Option.some.injEq, forall_eq']
      have number : world.request.id = serviceRequestId := (calendar.lives.find_key found).2
      exact mirrors_acted_iff (number ▸ found) mirrors (sound serviceRequestId world found)

/-- In a run over any number of requests the allocated rows mirror who holds the jobs in every
state, and a row that has left the allocated status never changes again, exactly if every step
covers what it has to. -/
theorem mirrors_throughout_iff (environment : Environment) (actions : List CalendarAction) :
    Throughout (Calendar.step environment) Calendar.Mirrors .empty actions ∧
        Settling (Calendar.step environment)
          (fun before after => LeavesSettled before.appointments after.appointments) .empty
          actions ↔
      Along (Calendar.step environment) (Calendar.StaysMirrored environment) .empty actions := by
  have start : Calendar.empty.Mirrors := ⟨List.Pairwise.nil, fun _ member => by cases member⟩
  rw [settling_iff_along (Calendar.step environment)
    (fun before after => LeavesSettled before.appointments after.appointments)
    (fun calendar => .refl _) (fun _ _ _ earlier later => earlier.trans later)]
  exact throughout_and_along_iff (Calendar.step environment) _ (Calendar.StaysMirrored environment)
    Calendar.Sound Calendar.Mirrors
    (fun calendar action sound => calendar.sound_step environment sound action)
    (fun calendar action sound mirrors =>
      calendar.mirrors_step_iff environment action sound mirrors)
    .empty actions (fun id world found => by cases found) start

/-- The contractor accepts a job and cancels it. -/
def exampleCancelled : List CalendarAction :=
  [.create (exampleOrder "240101-a1b2c3d" 360000000 60) 0,
    .operate "240101-a1b2c3d" exampleDirectory ⟨1000, .accept exampleAnswer ⟨0, none⟩⟩,
    .operate "240101-a1b2c3d" exampleDirectory ⟨1000, .cancelJob exampleAnswer⟩]

/-- The contractor accepts the job again, and the operator revokes it. -/
def exampleRevoked : List CalendarAction :=
  [.operate "240101-a1b2c3d" exampleDirectory ⟨1000, .accept exampleAnswer ⟨0, none⟩⟩,
    .operate "240101-a1b2c3d" exampleDirectory ⟨1000, .revoke false⟩]

/-- The row of the allocation that was cancelled is revoked as well. -/
theorem not_mirrors_revoked :
    ¬(Throughout (Calendar.step exampleEnvironment) Calendar.Mirrors .empty
          (exampleCancelled ++ exampleRevoked) ∧
        Settling (Calendar.step exampleEnvironment)
          (fun before after => LeavesSettled before.appointments after.appointments) .empty
          (exampleCancelled ++ exampleRevoked)) := by
  rintro ⟨-, settling⟩
  have settled := settling exampleCancelled exampleRevoked List.prefix_rfl
  have before : (run (Calendar.step exampleEnvironment) .empty exampleCancelled).appointments =
      [exampleBooked "240101-a1b2c3d" 360000000 363600000 .cancelled] := by
    decide +kernel
  have after : (run (Calendar.step exampleEnvironment) .empty
      (exampleCancelled ++ exampleRevoked)).appointments =
      [exampleBooked "240101-a1b2c3d" 360000000 363600000 .revoked,
        exampleBooked "240101-a1b2c3d" 360000000 363600000 .revoked] := by
    decide +kernel
  simp only [before, after] at settled
  obtain ⟨later, stored, same⟩ := settled 0 _ rfl AppointmentStatusEnum.noConfusion
  cases stored
  cases same

end FieldService.Dispatching
