/-
This file settles for which providers the scan for candidates is exact.

What a scan is for is stated here as `IsCandidate`: an active provider that is no worker, serves an
area that the lookups of the zone find within coverage, and shares a skill with the job. Where the
zone asks for areas the scan finds nobody, and under `ALL` it takes whoever does not share the sign
bit. So the one is exact if nobody is a candidate, and the other if the candidates happen to be the
providers whose mask does not share that bit.
-/

import FieldService.Dispatching.Candidates

namespace FieldService.Dispatching

/-! ### Candidates -/

namespace CandidateDatabase

variable (database : CandidateDatabase) (query : ScanCandidatesQuery)

/-- The areas the lookups of the zone find; `ALL` asks both of them. -/
def areasOf : List ServiceArea :=
  match query.scanningZoneType with
  | .postalCode => database.findServiceAreaByPostalCode query.postalCode
  | .polygon => database.findServiceAreasByLatLng query.latLng
  | .all =>
    database.findServiceAreaByPostalCode query.postalCode ++
      database.findServiceAreasByLatLng query.latLng
  | .none => []

/-- The provider serves an area of the zone that is within coverage, and has a skill the job asks
for. -/
structure Suits (provider : CandidateRow) : Prop where
  serves : ∃ area ∈ database.areasOf query,
    area.isNowWithinCoverage = true ∧ area.id ∈ provider.serviceAreaIds
  skilled : provider.skillEntitlement &&& query.serviceRequestEntitlement ≠ 0

/-- The provider is stored, active and no worker. -/
structure IsAvailable (provider : CandidateRow) : Prop where
  stored : provider ∈ database.providers.rows
  active : provider.generalStatus = .active
  noWorker : provider.type ≠ .worker

structure IsCandidate (provider : CandidateRow) : Prop where
  available : database.IsAvailable provider
  suits : database.Suits query provider

/-- The scan finds the candidates and nobody else, each of them once. -/
structure ScansExactly : Prop where
  nodup : ((database.scanCandidates query).map (·.id)).Nodup
  exact : ∀ provider, provider ∈ database.scanCandidates query ↔ database.IsCandidate query provider

end CandidateDatabase

/-! ### The scan against its purpose -/

section

variable {database : CandidateDatabase} {query : ScanCandidatesQuery}

theorem mem_eligible_iff (entitlement : BitVec 32) (provider : CandidateRow) :
    provider ∈ database.eligible entitlement ↔
      database.IsAvailable provider ∧ 0 ≤ provider.sharedSkills entitlement := by
  rw [CandidateDatabase.eligible, List.mem_filter]
  simp only [Bool.and_eq_true, decide_eq_true_eq]
  constructor
  · rintro ⟨stored, ⟨noWorker, active⟩, shared⟩
    exact ⟨⟨stored, active, noWorker⟩, shared⟩
  · rintro ⟨⟨stored, active, noWorker⟩, shared⟩
    exact ⟨stored, ⟨noWorker, active⟩, shared⟩

theorem scanCandidates_nodup : ((database.scanCandidates query).map (·.id)).Nodup := by
  rw [scanCandidates_eq]
  split
  · exact eligible_nodup database _
  · exact List.nodup_nil

theorem scansExactly_iff_of_areas (asks : query.scanningZoneType.skipsAreas = false) :
    database.ScansExactly query ↔
      ∀ provider, database.IsAvailable provider → ¬database.Suits query provider := by
  have nobody (provider : CandidateRow) : provider ∉ database.scanCandidates query := by
    rw [scanCandidates_eq, asks]
    exact List.not_mem_nil
  constructor
  · intro scans provider available suits
    exact nobody provider ((scans.exact provider).mpr ⟨available, suits⟩)
  · intro unsuited
    refine ⟨scanCandidates_nodup, fun provider => iff_of_false (nobody provider) ?_⟩
    exact fun candidate => unsuited provider candidate.available candidate.suits

theorem scansExactly_iff_of_skipsAreas (skips : query.scanningZoneType.skipsAreas = true) :
    database.ScansExactly query ↔ ∀ provider, database.IsAvailable provider →
      (database.Suits query provider ↔
        0 ≤ provider.sharedSkills query.serviceRequestEntitlement) := by
  have found (provider : CandidateRow) : provider ∈ database.scanCandidates query ↔
      database.IsAvailable provider ∧
        0 ≤ provider.sharedSkills query.serviceRequestEntitlement := by
    rw [scanCandidates_eq, skips, if_pos rfl]
    exact mem_eligible_iff _ provider
  constructor
  · intro scans provider available
    constructor
    · intro suits
      exact ((found provider).mp ((scans.exact provider).mpr ⟨available, suits⟩)).2
    · intro shared
      exact ((scans.exact provider).mp ((found provider).mpr ⟨available, shared⟩)).suits
  · intro same
    refine ⟨scanCandidates_nodup, fun provider => ?_⟩
    rw [found]
    constructor
    · rintro ⟨available, shared⟩
      exact ⟨available, (same provider available).mpr shared⟩
    · rintro ⟨available, suits⟩
      exact ⟨available, (same provider available).mp suits⟩

end

/-- The scan of a zone is exact if and only if the available providers that suit the job are, under
`ALL`, those whose mask does not share the sign bit, and nobody under the zones that ask for
areas. -/
theorem scansExactly_iff (database : CandidateDatabase) (query : ScanCandidatesQuery)
    (zoned : query.scanningZoneType ≠ .none) :
    database.ScansExactly query ↔ ∀ provider, database.IsAvailable provider →
      (database.Suits query provider ↔ query.scanningZoneType = .all ∧
        0 ≤ provider.sharedSkills query.serviceRequestEntitlement) := by
  cases zone : query.scanningZoneType with
  | none => exact absurd zone zoned
  | all =>
    rw [scansExactly_iff_of_skipsAreas (by rw [zone]; rfl)]
    simp only [true_and]
  | postalCode =>
    rw [scansExactly_iff_of_areas (by rw [zone]; rfl)]
    simp only [reduceCtorEq, false_and, iff_false]
  | polygon =>
    rw [scansExactly_iff_of_areas (by rw [zone]; rfl)]
    simp only [reduceCtorEq, false_and, iff_false]

def exampleArea : ServiceArea where
  id := ⟨"area", by decide⟩
  isWithinCoverage := true

/-- An independent provider with one skill, who serves the area. -/
def exampleCandidate : CandidateRow where
  id := ⟨"c1", by decide⟩
  type := .independent
  generalStatus := .active
  skillEntitlement := 2
  isOnDuty := true
  serviceAreaIds := [exampleArea.id]

/-- Both lookups find the area, and the provider is the only one. -/
def exampleCandidates : CandidateDatabase where
  providers := Table.empty.save exampleCandidate
  findServiceAreaByPostalCode := fun _ => [exampleArea]
  findServiceAreasByLatLng := fun _ => [exampleArea]

def exampleScan (scanningZoneType : ScanningZoneTypeEnum) : ScanCandidatesQuery where
  scanningZoneType := scanningZoneType
  latLng := ⟨3, 101⟩
  postalCode := "47500"
  excludeServiceProviderIds := []
  serviceRequestEntitlement := 2
  limit := none

theorem exampleCandidate_suits (scanningZoneType : ScanningZoneTypeEnum)
    (zoned : scanningZoneType ≠ .none) :
    exampleCandidates.Suits (exampleScan scanningZoneType) exampleCandidate := by
  have skilled : exampleCandidate.skillEntitlement &&& (2 : BitVec 32) ≠ 0 := by decide
  refine ⟨⟨exampleArea, ?_, rfl, List.mem_singleton_self _⟩, skilled⟩
  cases scanningZoneType with
  | none => exact absurd rfl zoned
  | _ => exact List.mem_cons_self

/-- Under `ALL` the provider is found, and is the only one to be. -/
theorem scansExactly_iff_all : exampleCandidates.ScansExactly (exampleScan .all) := by
  refine (scansExactly_iff exampleCandidates (exampleScan .all) (by decide)).mpr ?_
  intro provider available
  obtain rfl : provider = exampleCandidate := List.mem_singleton.mp available.stored
  exact iff_of_true (exampleCandidate_suits .all (by decide)) ⟨rfl, by decide⟩

/-- Under `POSTAL_CODE` the same provider is not found. -/
theorem not_scansExactly_postalCode :
    ¬exampleCandidates.ScansExactly (exampleScan .postalCode) := by
  intro scans
  have found := (scans.exact exampleCandidate).mpr
    ⟨⟨List.mem_singleton_self _, rfl, by decide⟩,
      exampleCandidate_suits .postalCode (by decide)⟩
  revert found
  decide +kernel

end FieldService.Dispatching
