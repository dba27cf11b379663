/-
This file settles when the two tests of hours are exact.

Both compare a limit with the hours that are left until the appointment, and these are cut off to
whole ones. So a job can be started as soon as the next whole hour above the limit has begun to run,
and all that time the appointment looks as if it were both near enough and far enough away. At a
limit of zero the same happens in the hour after the start as well. The appointment itself is made
with a window that is compared to the millisecond.
-/

import Mathlib.Algebra.Order.Archimedean.Basic
import Mathlib.Data.Rat.Floor
import FieldService.Library.Rounding
import FieldService.Lifecycle.Operations

namespace FieldService

open Rounding

/-! ### What the tests tell -/

/-- The hours from one instant to another, none of them cut off. -/
def hoursUntil (start now : Time) : Rat := (start - now : Int) / (3600000 : Int)

namespace Appointment

variable (appointment : Appointment) {hours : Rat} (now : Time)

/-- An appointment is taken for near enough as long as less than the next whole hour is left. -/
theorem isExpectedArrivalTimeLessThanDurationFromNow_iff (nonneg : 0 ≤ hours) :
    appointment.isExpectedArrivalTimeLessThanDurationFromNow hours now = true ↔
      hoursUntil appointment.expectedArrivalPeriod.start now < ⌊hours⌋ + 1 := by
  rw [isExpectedArrivalTimeLessThanDurationFromNow, decide_eq_true_iff, diffHours,
    cast_tdiv_le_iff (by decide) nonneg]
  rfl

/-- It is taken for far enough away when the whole hours are left; no hours are left until an hour
after the start. -/
theorem isExpectedArrivalTimeMoreThanDurationFromNow_iff (nonneg : 0 ≤ hours) :
    appointment.isExpectedArrivalTimeMoreThanDurationFromNow hours now = true ↔
      if hours = 0 then -1 < hoursUntil appointment.expectedArrivalPeriod.start now
      else ⌈hours⌉ ≤ hoursUntil appointment.expectedArrivalPeriod.start now := by
  rw [isExpectedArrivalTimeMoreThanDurationFromNow, decide_eq_true_iff, diffHours,
    le_cast_tdiv_iff (by decide) nonneg]
  rfl

end Appointment

/-! ### Exact windows -/

/-- A world in which that start, time and limit meet. -/
structure World.MeetsAt (world : World) (start now : Time) (hours : Rat) : Prop where
  start : world.request.appointment.expectedArrivalPeriod.start = start
  clock : world.clock = now
  limit : world.request.config.hourLimitBeforeJobIsAllowedToStart = hours

/-- A job is handled only within the hours before its start; both tests hold only at these hours
exactly, and one of them always does. -/
structure ExactWindow (start now : Time) (hours : Rat) : Prop where
  handled : ∀ (environment : Environment) (world : World) (input : HandlingEventInput)
    (after : World), world.MeetsAt start now hours →
      world.handle environment input = .ok after → hoursUntil start now ≤ hours
  both : ∀ appointment : Appointment, appointment.expectedArrivalPeriod.start = start →
    appointment.isExpectedArrivalTimeLessThanDurationFromNow hours now = true →
      appointment.isExpectedArrivalTimeMoreThanDurationFromNow hours now = true →
        hoursUntil start now = hours
  oneOfThem : ∀ appointment : Appointment, appointment.expectedArrivalPeriod.start = start →
    appointment.isExpectedArrivalTimeLessThanDurationFromNow hours now = true ∨
      appointment.isExpectedArrivalTimeMoreThanDurationFromNow hours now = true

/-- More than the limit is left and less than the next whole hour, or the limit is zero and the
appointment has started less than an hour ago. -/
def IsBlurred (start now : Time) (hours : Rat) : Prop :=
  (hours < hoursUntil start now ∧ hoursUntil start now < ⌊hours⌋ + 1) ∨
    (hours = 0 ∧ -1 < hoursUntil start now ∧ hoursUntil start now < 0)

/-- The handler is stopped by the test before anything else. -/
theorem World.surpassed_of_handle {environment : Environment} {world after : World}
    {input : HandlingEventInput} (succeeds : world.handle environment input = .ok after) :
    world.request.appointment.isExpectedArrivalTimeLessThanDurationFromNow
      world.request.config.hourLimitBeforeJobIsAllowedToStart world.clock = true := by
  by_contra tooEarly
  have refused : world.load.hasSurpassedHourLimitBeforeJobIsAllowedToStart world.clock = false :=
    Bool.eq_false_iff.mpr tooEarly
  simp only [handle, refused] at succeeds
  cases succeeds

/-- A job of the example that is allocated and can be started, with that start, time and limit. -/
def exampleStartable (start now : Time) (hours : Rat) : World where
  request :=
    { exampleRequest with
      appointment :=
        { exampleRequest.appointment with
          expectedArrivalPeriod := ⟨start, start + 7200000, 8⟩ }
      service :=
        { exampleRequest.service with status := .allocated, allocationStatus := .allocated }
      config := { exampleOptions with hourLimitBeforeJobIsAllowedToStart := hours } }
  repository := .empty
  handlingEvents := []
  clock := now

/-- Nothing but the test keeps the job from being started. -/
theorem exampleStartable_handle {start now : Time} {hours : Rat}
    (surpassed : (diffHours start now : Rat) ≤ hours) :
    ∃ after, (exampleStartable start now hours).handle exampleEnvironment exampleHandling =
      .ok after := by
  have passes :
      (exampleStartable start now hours).load.hasSurpassedHourLimitBeforeJobIsAllowedToStart
        (exampleStartable start now hours).clock = true := decide_eq_true surpassed
  simp only [World.handle, passes]
  exact ⟨_, rfl⟩

/-- The window of a limit is exact except in the rest of the hour above it, and at a limit of zero
in the hour after the start. -/
theorem exactWindow_iff (start now : Time) (hours : Rat) (nonneg : 0 ≤ hours) :
    ExactWindow start now hours ↔ ¬IsBlurred start now hours := by
  have near (appointment : Appointment) (starts : appointment.expectedArrivalPeriod.start = start) :
      appointment.isExpectedArrivalTimeLessThanDurationFromNow hours now = true ↔
        hoursUntil start now < ⌊hours⌋ + 1 := by
    rw [appointment.isExpectedArrivalTimeLessThanDurationFromNow_iff now nonneg, starts]
  have far (appointment : Appointment) (starts : appointment.expectedArrivalPeriod.start = start) :
      appointment.isExpectedArrivalTimeMoreThanDurationFromNow hours now = true ↔
        if hours = 0 then -1 < hoursUntil start now else ⌈hours⌉ ≤ hoursUntil start now := by
    rw [appointment.isExpectedArrivalTimeMoreThanDurationFromNow_iff now nonneg, starts]
  constructor
  · rintro exactly (⟨above, below⟩ | ⟨rfl, sinceHour, started⟩)
    · have passes := (near (exampleStartable start now hours).request.appointment rfl).mpr below
      obtain ⟨after, handled⟩ := exampleStartable_handle (of_decide_eq_true passes)
      exact not_le.mpr above (exactly.handled _ _ _ after ⟨rfl, rfl, rfl⟩ handled)
    · have isNear := (near (exampleStartable start now 0).request.appointment rfl).mpr
        (by rw [Int.floor_zero, Int.cast_zero]; linarith)
      have isFar := (far (exampleStartable start now 0).request.appointment rfl).mpr
        (by rw [if_pos rfl]; exact sinceHour)
      exact started.ne (exactly.both _ rfl isNear isFar)
  · intro clear
    have within (below : hoursUntil start now < ⌊hours⌋ + 1) : hoursUntil start now ≤ hours :=
      not_lt.mp fun above => clear (Or.inl ⟨above, below⟩)
    refine ⟨?_, fun appointment starts isNear isFar => ?_, fun appointment starts => ?_⟩
    · rintro environment world input after ⟨rfl, rfl, rfl⟩ handled
      exact within ((near _ rfl).mp (World.surpassed_of_handle handled))
    · have below := within ((near appointment starts).mp isNear)
      have above := (far appointment starts).mp isFar
      split at above
      · rename_i zero
        refine le_antisymm below (not_lt.mp fun started => clear (Or.inr ⟨zero, above, ?_⟩))
        rwa [zero] at started
      · exact le_antisymm below ((Int.le_ceil hours).trans above)
    · simp only [Appointment.isExpectedArrivalTimeLessThanDurationFromNow,
        Appointment.isExpectedArrivalTimeMoreThanDurationFromNow, decide_eq_true_iff]
      exact le_total _ _

/-- Two hours before the start the window of two hours is exact. -/
theorem exactWindow_iff_onTheHour :
    (0 : Rat) ≤ 2 ∧ (ExactWindow 7200000 0 2 ↔ ¬IsBlurred 7200000 0 2) :=
  ⟨by decide, exactWindow_iff 7200000 0 2 (by decide)⟩

/-- Two and a half hours before it, the job is started for all that. -/
theorem not_exactWindow_halfAnHourEarly : ¬ExactWindow 9000000 0 2 := by
  intro exactly
  obtain ⟨after, handled⟩ := @exampleStartable_handle 9000000 0 2 (by decide +kernel)
  have within := exactly.handled _ _ _ after ⟨rfl, rfl, rfl⟩ handled
  revert within
  decide +kernel

end FieldService
