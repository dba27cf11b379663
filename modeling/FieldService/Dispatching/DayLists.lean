/-
This file settles when the days of the monthly summary are those of the daily list.

Both take the allocated and fulfilled appointments of a dispatcher and write down the local date
each starts on. But the summary goes by the clock of the deployment, and the list by that of UTC+8.
Where these differ, all appointments are shifted the same way, so that what a date loses to the next
is never made up for: all dates agree only if no appointment is shifted to another day.
-/

import Mathlib.Data.Rat.Floor
import FieldService.Dispatching.Appointments
import FieldService.Library.Dates

namespace FieldService.Dispatching

open Dates Execution Grouping

/-! ### Local dates -/

/-- What a date makes of a number of milliseconds. -/
def truncate (value : Rat) : Int :=
  if value < 0 then ⌈value⌉ else ⌊value⌋

/-- The minutes of an offset. Less than sixteen are hours. -/
def minutesOf (timezoneOffset : Rat) : Rat :=
  if |timezoneOffset| < 16 then timezoneOffset * 60 else timezoneOffset

/-- The clock after `utcOffset(timezoneOffset)`. -/
def localClock (timezoneOffset : Rat) (instant : Time) : Int :=
  truncate (instant + minutesOf timezoneOffset * 60000)

/-- The day an instant falls on. -/
def localDay (timezoneOffset : Rat) (instant : Time) : Int :=
  localClock timezoneOffset instant / 86400000

/-- `format('YYYY-MM-DD')`. -/
def dateText (day : Int) : String := String.ofList (dateOf day).text

/-- `month()`, which begins at zero. -/
def monthOf (day : Int) : Int := (dateOf day).month - 1

/-- The text of a start, which is null when there is no schedule. -/
def formatStart (timezoneOffset : Rat) : Option Time → String
  | none => "Invalid date"
  | some start => dateText (localDay timezoneOffset start)

/-! ### The two queries -/

structure AppointmentSummaryDto where
  date : String
  totalAllocatedOrCompletedJobs : Nat
  deriving DecidableEq, Repr

structure AppointmentDto where
  date : String
  serviceRequests : List ServiceRequest

/-- The rows both queries find. -/
def AppointmentRow.isListed (providerId : Uuid) (row : AppointmentRow) : Bool :=
  row.provider.dispatcherId = some providerId &&
    (row.status = .allocated || row.status = .fulfilled)

namespace Calendar

variable (calendar : Calendar) (providerId : Uuid)

/-- The appointments both queries begin with. -/
def listed : List AppointmentRow :=
  calendar.appointments.filter (·.isListed providerId)

/-- `GetMonthlyAppointmentSummaryHandler.execute`. The month of an invalid date is not a number. -/
def getMonthlyAppointmentSummary (timezoneOffset : Rat) (monthOfYear : Option Int) (now : Time) :
    List AppointmentSummaryDto :=
  let monthOfYear := monthOfYear.getD (monthOf (localDay timezoneOffset now))
  let appointmentsOfMonth := (calendar.listed providerId).filter fun appointment =>
    appointment.serviceSchedule.start.any fun start =>
      monthOf (localDay timezoneOffset start) = monthOfYear
  (collect (fun appointment => formatStart timezoneOffset appointment.serviceSchedule.start)
    appointmentsOfMonth).map fun group => ⟨group.1, group.2.length⟩

/-- `GetServiceRequestQuery`, and `toDto()` of what it finds. -/
def serviceRequestOf (row : AppointmentRow) : Except AppError ServiceRequest :=
  match calendar.lives.find row.serviceRequestId with
  | none => .error (.error "Cannot read property 'toDto' of undefined")
  | some world => .ok world.load

/-- `GetAppointmentsByDateHandler.execute`. -/
def getAppointmentsByDate (date : Option String) (now : Time) :
    Except AppError (List AppointmentDto) := do
  let date := date.getD (formatStart 8 (some now))
  let appointmentsOfDate := (calendar.listed providerId).filter fun appointment =>
    formatStart 8 appointment.serviceSchedule.start = date
  let serviceRequests ← appointmentsOfDate.mapM calendar.serviceRequestOf
  return [⟨date, serviceRequests⟩]

end Calendar

/-- The jobs a summary counts for a date. -/
def jobsOn (summary : List AppointmentSummaryDto) (date : String) : Nat :=
  ((summary.find? (·.date = date)).map (·.totalAllocatedOrCompletedJobs)).getD 0

/-- For every day the summary of its month counts the jobs that the list of its date has. -/
def Calendar.ListsAgree (calendar : Calendar) (timezoneOffset : Rat) (providerId : Uuid)
    (now : Time) : Prop :=
  ∀ day, ∃ dto,
    calendar.getAppointmentsByDate providerId (some (dateText day)) now = .ok [dto] ∧
      jobsOn (calendar.getMonthlyAppointmentSummary providerId timezoneOffset (some (monthOf day))
        now) (dateText day) = dto.serviceRequests.length

/-- Every row has its request. -/
def Calendar.IsComplete (calendar : Calendar) : Prop :=
  ∀ row ∈ calendar.appointments, (calendar.lives.find row.serviceRequestId).isSome = true

structure CompleteCalendar extends Calendar where
  complete : toCalendar.IsComplete

/-! ### Clocks -/

theorem truncate_mono {first second : Rat} (less : first ≤ second) :
    truncate first ≤ truncate second := by
  unfold truncate
  split
  · split
    · exact Int.ceil_mono less
    · rename_i negative nonneg
      exact (Int.ceil_le.mpr (by exact_mod_cast negative.le)).trans
        (Int.floor_nonneg.mpr (not_lt.mp nonneg))
  · rename_i nonneg
    rw [if_neg fun negative => nonneg (less.trans_lt negative)]
    exact Int.floor_mono less

/-- A clock that is ahead of another is never on an earlier day. -/
theorem localDay_mono {behind ahead : Rat} (ordered : minutesOf behind ≤ minutesOf ahead)
    (instant : Time) : localDay behind instant ≤ localDay ahead instant := by
  refine Int.ediv_le_ediv (by decide) (truncate_mono ?_)
  exact add_le_add_right (mul_le_mul_of_nonneg_right ordered (by norm_num)) _

/-! ### Counts -/

theorem dateText_injective : Function.Injective dateText :=
  fun _ _ same => text_dateOf_injective (String.ofList_injective same)

/-- An invalid date is not written like a date. -/
theorem invalid_ne_dateText (day : Int) : "Invalid date" ≠ dateText day := by
  intro same
  have written : (dateText day).toList = (dateOf day).text := String.toList_ofList
  have letter : 'I' ∈ (dateOf day).text := by
    rw [← written, ← same]
    decide
  exact absurd (digit_or_minus_of_mem_text letter) (by decide)

theorem formatStart_eq_iff (timezoneOffset : Rat) (start : Option Time) (day : Int) :
    formatStart timezoneOffset start = dateText day ↔
      start.any (localDay timezoneOffset · = day) = true := by
  cases start with
  | none => exact iff_of_false (invalid_ne_dateText day) Bool.false_ne_true
  | some start => exact dateText_injective.eq_iff.trans (by simp)

/-- A summary counts the appointments of a group. -/
theorem jobsOn_collect (key : AppointmentRow → String) (rows : List AppointmentRow)
    (date : String) :
    jobsOn ((collect key rows).map fun group => ⟨group.1, group.2.length⟩) date =
      (rows.filter fun row => key row = date).length := by
  rw [jobsOn, List.find?_map]
  show (((collect key rows).find? fun group => group.1 = date).map _ |>.map _).getD 0 = _
  rw [find_collect]
  split
  · rfl
  · rename_i absent
    rw [List.filter_eq_nil_iff.mpr fun row member onDate =>
      absent (List.mem_map.mpr ⟨row, member, of_decide_eq_true onDate⟩)]
    rfl

namespace Calendar

/-- The starts of the appointments both queries begin with. -/
def starts (calendar : Calendar) (providerId : Uuid) : List Time :=
  (calendar.listed providerId).filterMap (·.serviceSchedule.start)

/-- The appointments on a day, by their starts. -/
theorem length_listed_filter (calendar : Calendar) (providerId : Uuid) (timezoneOffset : Rat)
    (day : Int) :
    ((calendar.listed providerId).filter fun row =>
        row.serviceSchedule.start.any (localDay timezoneOffset · = day)).length =
      ((calendar.starts providerId).map (localDay timezoneOffset)).count day := by
  rw [← List.countP_eq_length_filter, List.count_eq_countP, List.countP_map, starts,
    List.countP_filterMap]
  refine List.countP_congr fun row _ => ?_
  cases row.serviceSchedule.start with
  | none => simp
  | some start => simp

/-- What the summary of its month counts for a day. -/
theorem jobsOn_getMonthlyAppointmentSummary (calendar : Calendar) (providerId : Uuid)
    (timezoneOffset : Rat) (now : Time) (day : Int) :
    jobsOn (calendar.getMonthlyAppointmentSummary providerId timezoneOffset (some (monthOf day))
        now) (dateText day) =
      ((calendar.starts providerId).map (localDay timezoneOffset)).count day := by
  have ofDay : ∀ row ∈ calendar.listed providerId,
      (decide (formatStart timezoneOffset row.serviceSchedule.start = dateText day) &&
          row.serviceSchedule.start.any fun start =>
            monthOf (localDay timezoneOffset start) = monthOf day) =
        row.serviceSchedule.start.any (localDay timezoneOffset · = day) := by
    intro row _
    rw [Bool.eq_iff_iff, Bool.and_eq_true, decide_eq_true_iff, formatStart_eq_iff,
      and_iff_left_iff_imp, Option.any_eq_true, Option.any_eq_true]
    rintro ⟨start, scheduled, onDay⟩
    exact ⟨start, scheduled, decide_eq_true (congrArg monthOf (of_decide_eq_true onDay))⟩
  rw [← calendar.length_listed_filter, ← List.filter_congr ofDay, ← List.filter_filter]
  exact jobsOn_collect _ _ _

/-- The list of a date has a job for every appointment on the day. -/
theorem IsComplete.getAppointmentsByDate {calendar : Calendar} (complete : calendar.IsComplete)
    (providerId : Uuid) (now : Time) (day : Int) :
    ∃ dto, calendar.getAppointmentsByDate providerId (some (dateText day)) now = .ok [dto] ∧
      dto.serviceRequests.length =
        ((calendar.starts providerId).map (localDay 8)).count day := by
  have found : ∀ row ∈ (calendar.listed providerId).filter fun appointment =>
      formatStart 8 appointment.serviceSchedule.start = dateText day,
      ∃ serviceRequest, calendar.serviceRequestOf row = .ok serviceRequest := by
    intro row member
    have stored := List.mem_of_mem_filter (List.mem_of_mem_filter member)
    obtain ⟨world, isFound⟩ := Option.isSome_iff_exists.mp (complete row stored)
    rw [serviceRequestOf, isFound]
    exact ⟨world.load, rfl⟩
  obtain ⟨serviceRequests, loads⟩ := (exists_mapM_eq_ok_iff _ _).mpr found
  refine ⟨⟨dateText day, serviceRequests⟩, ?_, ?_⟩
  · rw [Calendar.getAppointmentsByDate, Option.getD_some, loads]
    rfl
  · rw [← calendar.length_listed_filter, length_of_mapM_eq_ok loads]
    simp only [formatStart_eq_iff, Bool.decide_eq_true]

end Calendar

/-- All days agree exactly if every appointment starts on the same day by both clocks. -/
theorem listsAgree_iff (calendar : CompleteCalendar) (timezoneOffset : Rat) (providerId : Uuid)
    (now : Time) :
    calendar.ListsAgree timezoneOffset providerId now ↔
      ∀ start ∈ calendar.starts providerId, localDay timezoneOffset start = localDay 8 start := by
  have agree : calendar.ListsAgree timezoneOffset providerId now ↔
      ∀ day, ((calendar.starts providerId).map (localDay timezoneOffset)).count day =
        ((calendar.starts providerId).map (localDay 8)).count day := by
    refine forall_congr' fun day => ?_
    obtain ⟨dto, lists, length⟩ := calendar.complete.getAppointmentsByDate providerId now day
    rw [calendar.jobsOn_getMonthlyAppointmentSummary, ← length]
    constructor
    · rintro ⟨other, same, counted⟩
      cases lists.symm.trans same
      exact counted
    · intro counted
      exact ⟨dto, lists, counted⟩
  rw [agree]
  obtain behind | ahead := le_total (minutesOf timezoneOffset) (minutesOf 8)
  · exact count_map_eq_iff fun start _ => localDay_mono behind start
  · refine (forall_congr' fun _ => eq_comm).trans ?_
    refine (count_map_eq_iff fun start _ => localDay_mono ahead start).trans ?_
    exact forall₂_congr fun _ _ => eq_comm

/-! ### Calendars that are reached -/

namespace Calendar

variable (environment : Environment) {calendar : Calendar}

/-- An action leaves no row without its request. -/
theorem isComplete_step (complete : calendar.IsComplete) (action : CalendarAction) :
    (calendar.step environment action).IsComplete := by
  have kept {world : World} {row : AppointmentRow}
      (found : (calendar.lives.find row.serviceRequestId).isSome = true) :
      ((calendar.lives.save world).find row.serviceRequestId).isSome = true := by
    rw [Table.find_save]
    split
    · rfl
    · exact found
  cases action with
  | create input now =>
    simp only [step]
    split
    · exact complete
    · split
      · exact complete
      · exact fun row member => kept (complete row member)
  | operate serviceRequestId directory action =>
    simp only [step]
    cases found : calendar.lives.find serviceRequestId with
    | none => exact complete
    | some world =>
      intro row member
      simp only [appointmentsAfter_eq] at member
      obtain ⟨old, before, rfl⟩ := List.mem_map.mp member
      rw [(changed_frame _ _ _ old).1]
      obtain stored | booked := List.mem_append.mp before
      · exact kept (complete old stored)
      · obtain ⟨transition, -, books⟩ := Option.bind_eq_some_iff.mp (Option.mem_toList.mp booked)
        rw [(booking_frame books).1, Table.find_save, if_pos]
        · rfl
        · exact (world.step_frame environment _).1

theorem isComplete_run (actions : List CalendarAction) :
    (run (step environment) .empty actions).IsComplete :=
  preserved_run (step environment) IsComplete
    (fun _ action complete => isComplete_step environment complete action) .empty actions
    fun _ member => by cases member

end Calendar

/-- The calendar a run ends in. -/
def CompleteCalendar.reached (environment : Environment) (actions : List CalendarAction) :
    CompleteCalendar where
  toCalendar := run (Calendar.step environment) .empty actions
  complete := Calendar.isComplete_run environment actions

/-- The contractor accepts a job for half past eleven in the evening. -/
def exampleEvening : CompleteCalendar :=
  .reached exampleEnvironment
    [.create (exampleOrder "240101-a1b2c3d" 142200000 60) 0,
      .operate "240101-a1b2c3d" exampleDirectory ⟨1000, .accept exampleAnswer ⟨0, none⟩⟩]

/-- With the clock of UTC+9 the summary counts the job for the next day. -/
theorem not_listsAgree_evening :
    ¬exampleEvening.ListsAgree 9 exampleContractor.id 0 := by
  intro agree
  obtain ⟨dto, lists, counted⟩ := agree 1
  have counts : jobsOn (exampleEvening.getMonthlyAppointmentSummary exampleContractor.id 9
      (some (monthOf 1)) 0) (dateText 1) = 0 := by decide +kernel
  have length : ((exampleEvening.getAppointmentsByDate exampleContractor.id (some (dateText 1))
      0).toOption.map (·.map (·.serviceRequests.length))) = some [1] := by decide +kernel
  rw [lists] at length
  rw [counts] at counted
  cases counted.trans (List.singleton_inj.mp (Option.some.inj length))

end FieldService.Dispatching
