/-
This file fixes the vocabulary the subsystems share: instants, amounts,
identifiers, the enumerations of the `shared` folder, the errors the modelled
operations throw, the service providers they are called with, and the two
records of configuration they read.

An instant is a number of milliseconds since the epoch, as `Date.getTime`
returns it. Amounts and hour limits are rational numbers, so no arithmetic on
them rounds.
-/

import Mathlib.Data.Rat.Defs
import Mathlib.Data.Int.Order.Basic

namespace FieldService

/-- An instant, in milliseconds since the epoch. -/
abbrev Time := Int

/-- An amount of money. -/
abbrev Money := Rat

/-- A `uuid` column holds no empty string, so a present identifier is a truthy one. -/
structure Uuid where
  value : String
  nonempty : value ≠ ""
  deriving DecidableEq, Repr

/-! ### Enumerations -/

inductive Tenant where
  | daikin
  | acson
  deriving DecidableEq, Repr

inductive PaymentGatewayResponseStatus where
  | awaitingPayment
  | failed
  | succeeded
  deriving DecidableEq, Repr

inductive PaymentPurposeCode where
  | fee
  | ecRescheduleSurcharge
  deriving DecidableEq, Repr

inductive UserStatus where
  | active
  | suspended
  | banned
  deriving DecidableEq, Repr

inductive ServiceProviderType where
  | dealer
  | independent
  | worker
  deriving DecidableEq, Repr

/-! ### Errors -/

/-- What an operation throws: a plain `Error` with its message, or one of the named errors
with the values its message is built from. -/
inductive AppError where
  | error (message : String)
  | entityNotFound (entityName : String) (id : String)
  | unauthorized
  | failToAcceptJobDueToFullyOccupiedWorkers (jobPeriodStart jobPeriodEnd : Time)
  | failToAcceptJobDueToOverlappingAppointment (overlappedServiceRequestId : String)
  | failToManuallyAssignDealerDueToFullyOccupiedWorkers (jobPeriodStart jobPeriodEnd : Time)
  | failToManuallyAssignIndependentContractorDueToOverlappingAppointment
      (overlappedServiceRequestId : String)
  | unableToOpenUnpaidServiceRequest
  | jobStartTooEarly (hourLimit : Rat)
  | incorrectVerificationCode
  | technicalReportNotCompleted
  | lessThanExpectedArrivalWindowHour (expectedArrivalWindowHour : Rat)
  | unableToRescheduleServiceRequest
  | unableToRescheduleServiceRequestDueToUnpaidSurcharge
  | unableToCancelCompletedJob
  | unableToCancelTerminatedJob
  | unableToCancelNotPaidServiceRequest
  | unableToCancelRescheduledServiceRequest
  | unableToCancelServiceRequestDueToWindowPeriodIsPast
  deriving DecidableEq, Repr

/-- A computation in two parts that ends in a result has two parts that do. -/
theorem bind_eq_ok {Error First Second : Type} {first : Except Error First}
    {next : First → Except Error Second} {result : Second}
    (succeeds : (first >>= next) = .ok result) :
    ∃ value, first = .ok value ∧ next value = .ok result := by
  cases first with
  | error error => cases succeeds
  | ok value => exact ⟨value, rfl, succeeds⟩

/-- A loop over items each of which is accepted or is the end of all, when every one of them is
accepted. -/
theorem mapM_eq_ok_iff {Error Item Result : Type} {change : Item → Except Error Result}
    {accepts : Item → Prop} {result : Item → Result}
    (each : ∀ item value, change item = .ok value ↔ accepts item ∧ value = result item)
    (items : List Item) (results : List Result) :
    items.mapM change = .ok results ↔
      (∀ item ∈ items, accepts item) ∧ results = items.map result := by
  induction items generalizing results with
  | nil =>
    simp only [List.mapM_nil, List.not_mem_nil, false_implies, implies_true, true_and, List.map_nil]
    exact ⟨fun same => (Except.ok.inj same).symm, fun same => congrArg _ same.symm⟩
  | cons item rest later =>
    rw [List.mapM_cons, List.forall_mem_cons, List.map_cons]
    constructor
    · intro succeeds
      obtain ⟨first, changed, remaining⟩ := bind_eq_ok succeeds
      obtain ⟨others, changedToo, joined⟩ := bind_eq_ok remaining
      obtain ⟨accepted, rfl⟩ := (each item first).mp changed
      obtain ⟨restAccepted, rfl⟩ := (later others).mp changedToo
      cases joined
      exact ⟨⟨accepted, restAccepted⟩, rfl⟩
    · rintro ⟨⟨accepted, restAccepted⟩, rfl⟩
      rw [(each item _).mpr ⟨accepted, rfl⟩, (later _).mpr ⟨restAccepted, rfl⟩]
      rfl

/-- A loop comes to its end exactly if none of the items is the end of all. -/
theorem exists_mapM_eq_ok_iff {Error Item Result : Type} (change : Item → Except Error Result)
    (items : List Item) :
    (∃ results, items.mapM change = .ok results) ↔
      ∀ item ∈ items, ∃ value, change item = .ok value := by
  induction items with
  | nil => exact iff_of_true ⟨[], rfl⟩ (List.forall_mem_nil _)
  | cons item rest later =>
    rw [List.mapM_cons, List.forall_mem_cons, ← later]
    constructor
    · rintro ⟨results, succeeds⟩
      obtain ⟨value, changed, remaining⟩ := bind_eq_ok succeeds
      obtain ⟨others, changedToo, -⟩ := bind_eq_ok remaining
      exact ⟨⟨value, changed⟩, others, changedToo⟩
    · rintro ⟨⟨value, changed⟩, others, changedToo⟩
      refine ⟨value :: others, ?_⟩
      rw [changed, changedToo]
      rfl

/-- A loop that comes to its end has a result for every item. -/
theorem length_of_mapM_eq_ok {Error Item Result : Type} {change : Item → Except Error Result}
    {items : List Item} {results : List Result} (succeeds : items.mapM change = .ok results) :
    results.length = items.length := by
  induction items generalizing results with
  | nil =>
    cases succeeds
    rfl
  | cons item rest later =>
    rw [List.mapM_cons] at succeeds
    obtain ⟨first, changed, remaining⟩ := bind_eq_ok succeeds
    obtain ⟨others, changedToo, joined⟩ := bind_eq_ok remaining
    cases joined
    rw [List.length_cons, List.length_cons, later changedToo]

/-! ### Periods -/

structure Period where
  start : Time
  finish : Time
  timezoneOffset : Int
  deriving DecidableEq, Repr

/-- `moment.diff` in hours: whole hours, truncated towards zero. -/
def diffHours (later earlier : Time) : Int :=
  (later - earlier).tdiv 3600000

/-- `moment.add` of hours. A fraction is rounded to whole milliseconds, half away from zero. -/
def addHours (instant : Time) (hours : Rat) : Time :=
  let milliseconds := hours * 3600000
  if milliseconds < 0 then instant - (1 / 2 - milliseconds).floor
  else instant + (milliseconds + 1 / 2).floor

def addMinutes (instant : Time) (minutes : Int) : Time :=
  instant + minutes * 60000

/-! ### Service providers -/

structure ServiceProvider where
  id : Uuid
  name : Option String
  phone : Option String
  profilePicture : Option String
  type : ServiceProviderType
  generalStatus : UserStatus
  deriving DecidableEq, Repr

def ServiceProvider.isDealer (provider : ServiceProvider) : Bool :=
  provider.type = .dealer

def ServiceProvider.isIndependent (provider : ServiceProvider) : Bool :=
  provider.type = .independent

def ServiceProvider.isWorker (provider : ServiceProvider) : Bool :=
  provider.type = .worker

/-! ### Configuration -/

/-- The `config` column of a service request. -/
structure ServiceRequestOptions where
  hourLimitBeforeUrgent : Rat
  hourLimitBeforeEcRescheduleOptionIsDisabled : Rat
  hourLimitBeforeEcRescheduleSurchageIsRequired : Rat
  hourLimitBeforeEcCancellationOptionIsDisabled : Rat
  hourLimitBeforeJobIsAllowedToStart : Rat
  emergencyCandidateScanningZoneRadiusInKm : Rat
  paymentGatewayEnabled : Bool
  reminderEnabled : Bool
  ecRescheduleSurchargeAmount : Money
  ecRescheduleCompensationAmount : Money
  ecRescheduleMultipleOccurrencesAllowed : Bool
  deriving DecidableEq, Repr

/-- `limit || default` on a number: zero is falsy. -/
def orDefault (limit default : Rat) : Rat :=
  if limit = 0 then default else limit

/-- What saving a row does with the columns of an embedded object that the entity holds as
`null`: they are set to null, or the object is passed over and they keep their values. The
object mapper is not part of the repository, and nothing here depends on which of the two
it does. -/
inductive NullEmbedded where
  | written
  | skipped
  deriving DecidableEq, Repr

/-- The settings of a deployment. -/
structure Environment where
  serviceRequestExpectedArrivalWindowHour : Rat
  blockBeforeInMinutes : Int
  blockAfterInMinutes : Int
  timezoneOffset : Int
  isDevMode : Bool
  nullEmbedded : NullEmbedded
  deriving DecidableEq, Repr

end FieldService
