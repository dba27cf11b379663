/-
This file models the scan for the providers a job is offered to.

The query names the providers that have been asked already and how many are wanted, and its
handler reads neither. Of the zone types only the areas decide which of the two repository
methods is called, and the areas of `ALL` are looked up and then forgotten, since its case falls
through to the default. Under the other two the repository is asked for providers that share a
skill with no skill at all, so nobody is found (`scanCandidates_eq`).
-/

import FieldService.Library.Grouping
import FieldService.Library.Table
import FieldService.Shared

namespace FieldService.Dispatching

open Grouping

/-! ### Areas and providers -/

inductive ScanningZoneTypeEnum where
  | polygon
  | postalCode
  | all
  | none
  deriving DecidableEq, Repr

structure LatLngDto where
  latitude : Rat
  longitude : Rat
  deriving DecidableEq, Repr

structure ServiceArea where
  id : Uuid
  isWithinCoverage : Bool
  deriving DecidableEq, Repr

def ServiceArea.isNowWithinCoverage (area : ServiceArea) : Bool :=
  area.isWithinCoverage

/-- What the scan reads of a row of `service_providers`. The entitlement is a column of 32 bits. -/
structure CandidateRow where
  id : Uuid
  type : ServiceProviderType
  generalStatus : UserStatus
  skillEntitlement : BitVec 32
  isOnDuty : Bool
  serviceAreaIds : List Uuid
  deriving DecidableEq, Repr

/-- The providers, and the two lookups of areas. -/
structure CandidateDatabase where
  providers : Table Uuid CandidateRow (·.id)
  findServiceAreaByPostalCode : String → List ServiceArea
  findServiceAreasByLatLng : LatLngDto → List ServiceArea

/-! ### The scan -/

/-- `skillEntitlement & entitlement`, as the signed integer it is compared as. -/
def CandidateRow.sharedSkills (row : CandidateRow) (entitlement : BitVec 32) : Int :=
  (row.skillEntitlement &&& entitlement).toInt

namespace CandidateDatabase

variable (database : CandidateDatabase)

def findOnDutyDealersOrIndependentsWithinCoverage (serviceAreas : List ServiceArea)
    (excludeServiceProviderIds : List Uuid) (serviceRequestEntitlement : BitVec 32)
    (limit : Nat) : List CandidateRow :=
  (database.providers.rows.filter fun provider =>
    provider.generalStatus = .active && provider.type ≠ .worker &&
      0 < provider.sharedSkills serviceRequestEntitlement &&
      (serviceAreas.isEmpty ||
        serviceAreas.any fun area => provider.serviceAreaIds.contains area.id) &&
      !excludeServiceProviderIds.contains provider.id).take limit

def findOnDutyDealerOrIndependents (serviceRequestEntitlement : BitVec 32)
    (onlyOnDutyProviders : Bool) : List CandidateRow :=
  database.providers.rows.filter fun provider =>
    provider.type ≠ .worker && provider.generalStatus = .active &&
      0 ≤ provider.sharedSkills serviceRequestEntitlement &&
      (!onlyOnDutyProviders || provider.isOnDuty)

end CandidateDatabase

structure ScanCandidatesQuery where
  scanningZoneType : ScanningZoneTypeEnum
  latLng : LatLngDto
  postalCode : String
  excludeServiceProviderIds : List Uuid
  serviceRequestEntitlement : BitVec 32
  limit : Option Rat
  deriving DecidableEq, Repr

/-- `ScanCandidatesHandler.distinct`. -/
def distinct (serviceProviders : List CandidateRow) : List CandidateRow :=
  distinctOn (·.id) serviceProviders

/-- What is asked of the repository once areas have been looked up. -/
def CandidateDatabase.scanAreas (database : CandidateDatabase) (serviceAreas : List ServiceArea) :
    List CandidateRow :=
  let coveredServiceAreas := serviceAreas.filter (·.isNowWithinCoverage)
  if coveredServiceAreas.length < 1 then []
  else
    distinct (database.findOnDutyDealersOrIndependentsWithinCoverage coveredServiceAreas [] 0 9999)

/-- `ScanCandidatesHandler.execute`. The areas of `ALL` are thrown away. -/
def CandidateDatabase.scanCandidates (database : CandidateDatabase) (query : ScanCandidatesQuery) :
    List CandidateRow :=
  match query.scanningZoneType with
  | .postalCode => database.scanAreas (database.findServiceAreaByPostalCode query.postalCode)
  | .polygon => database.scanAreas (database.findServiceAreasByLatLng query.latLng)
  | .all | .none =>
    distinct (database.findOnDutyDealerOrIndependents query.serviceRequestEntitlement false)

/-! ### What the scan finds -/

/-- The type of zone asks for no area. -/
def ScanningZoneTypeEnum.skipsAreas : ScanningZoneTypeEnum → Bool
  | .all | .none => true
  | .polygon | .postalCode => false

/-- The active providers that are no workers, save those whose skills and the entitlement share the
sign bit. -/
def CandidateDatabase.eligible (database : CandidateDatabase) (entitlement : BitVec 32) :
    List CandidateRow :=
  database.providers.rows.filter fun provider =>
    provider.type ≠ .worker && provider.generalStatus = .active &&
      0 ≤ provider.sharedSkills entitlement

theorem sharedSkills_zero (provider : CandidateRow) : provider.sharedSkills 0 = 0 := by
  rw [CandidateRow.sharedSkills, show (0 : BitVec 32) = 0#32 from rfl, BitVec.and_zero]
  rfl

/-- No provider shares a skill with no skill. -/
theorem findWithinCoverage_zero (database : CandidateDatabase) (serviceAreas : List ServiceArea)
    (excluded : List Uuid) (limit : Nat) :
    database.findOnDutyDealersOrIndependentsWithinCoverage serviceAreas excluded 0 limit = [] := by
  have nobody : ∀ provider : CandidateRow, decide (0 < provider.sharedSkills 0) = false :=
    fun provider => decide_eq_false (by rw [sharedSkills_zero]; decide)
  simp only [CandidateDatabase.findOnDutyDealersOrIndependentsWithinCoverage, nobody,
    Bool.and_false, Bool.false_and, List.filter_false, List.take_nil]

theorem scanAreas_eq (database : CandidateDatabase) (serviceAreas : List ServiceArea) :
    database.scanAreas serviceAreas = [] := by
  unfold CandidateDatabase.scanAreas
  simp only [findWithinCoverage_zero]
  split <;> rfl

theorem eligible_nodup (database : CandidateDatabase) (entitlement : BitVec 32) :
    ((database.eligible entitlement).map (·.id)).Nodup :=
  List.Nodup.sublist (List.filter_sublist.map _) database.providers.distinct

/-- The scan finds the eligible providers where the zone asks for no area, and nobody where it
asks for areas. The providers to exclude and the limit have no say. -/
theorem scanCandidates_eq (database : CandidateDatabase) (query : ScanCandidatesQuery) :
    database.scanCandidates query =
      if query.scanningZoneType.skipsAreas then
        database.eligible query.serviceRequestEntitlement
      else [] := by
  have everyone : distinct
      (database.findOnDutyDealerOrIndependents query.serviceRequestEntitlement false) =
        database.eligible query.serviceRequestEntitlement := by
    have same : database.findOnDutyDealerOrIndependents query.serviceRequestEntitlement false =
        database.eligible query.serviceRequestEntitlement := by
      simp [CandidateDatabase.findOnDutyDealerOrIndependents, CandidateDatabase.eligible]
    rw [same]
    exact distinctOn_eq_self (eligible_nodup database _)
  unfold CandidateDatabase.scanCandidates
  cases query.scanningZoneType with
  | postalCode => exact scanAreas_eq database _
  | polygon => exact scanAreas_eq database _
  | all => exact everyone
  | none => exact everyone

end FieldService.Dispatching
