/-
This file settles when the candidates for a job come in the order of their distances, and within the
zone of an emergency.

A distance that cannot be told is written as minus one, which is less than any distance and within
any radius. So a candidate without a position passes for the nearest of all: it is let into the
zone, and it comes before everybody who is known to be somewhere. And where the customer has no
position, nobody's distance can be told.
-/

import Mathlib.Algebra.Order.Ring.Rat
import Mathlib.Data.List.Pairwise
import Mathlib.Data.List.Sort
import FieldService.Dispatching.Candidates
import FieldService.Lifecycle.Operations

namespace FieldService.Dispatching

/-! ### Positions -/

/-- The two columns of a place. A decimal column is read as a text, so a coordinate of zero is
truthy, and only a missing one is not. -/
structure Place where
  latitude : Option Rat
  longitude : Option Rat
  deriving DecidableEq, Repr

def Place.position (place : Place) : Option LatLngDto :=
  match place.latitude, place.longitude with
  | some latitude, some longitude => some ⟨latitude, longitude⟩
  | _, _ => none

/-- `geolib.convertDistance(geolib.getDistance(from, to), 'km')`. -/
structure Geolib where
  distanceKm : LatLngDto → LatLngDto → Rat
  nonneg : ∀ start finish, 0 ≤ distanceKm start finish

/-- A service request with the address of its customer. -/
structure LocatedServiceRequest extends ServiceRequest where
  customerAddress : Place

/-- A row of `service_providers` with its position. -/
structure LocatedServiceProvider where
  row : CandidateRow
  place : Place
  deriving DecidableEq, Repr

/-- A provider has a position. -/
def LocatedServiceProvider.isLocated (serviceProvider : LocatedServiceProvider) : Bool :=
  serviceProvider.place.position.isSome

structure CandidateDto where
  serviceProvider : LocatedServiceProvider
  distanceKm : Rat
  deriving DecidableEq, Repr

/-- Of two entries of a list that is in order, one is in order with the other. -/
theorem inOrder_or_inOrder {Entry : Type} {inOrder : Entry → Entry → Prop} {entries : List Entry}
    (sorted : entries.Pairwise inOrder) {first second : Entry} (member : first ∈ entries)
    (otherMember : second ∈ entries) (different : first ≠ second) :
    inOrder first second ∨ inOrder second first :=
  haveI : Std.Symm fun one other : Entry => inOrder one other ∨ inOrder other one :=
    ⟨fun _ _ => Or.symm⟩
  (sorted.imp Or.inl : entries.Pairwise fun one other => inOrder one other ∨ inOrder other one)
    |>.forall member otherMember different

/-! ### The candidates -/

namespace LocatedServiceRequest

variable (geolib : Geolib) (serviceRequest : LocatedServiceRequest)

def distanceTo (latitude longitude : Option Rat) : Rat :=
  match serviceRequest.customerAddress.latitude, serviceRequest.customerAddress.longitude,
    latitude, longitude with
  | some customerLatitude, some customerLongitude, some latitude, some longitude =>
    geolib.distanceKm ⟨customerLatitude, customerLongitude⟩ ⟨latitude, longitude⟩
  | _, _, _, _ => -1

/-- A candidate with its distance. -/
def candidate (serviceProvider : LocatedServiceProvider) : CandidateDto where
  serviceProvider := serviceProvider
  distanceKm :=
    serviceRequest.distanceTo geolib serviceProvider.place.latitude serviceProvider.place.longitude

/-- The radius of the emergency zone, once that is in force. -/
def emergencyRadius (now : Time) : Option Rat :=
  if serviceRequest.hasSurpassedHourLimitBeforeActivatingEmergencyCandidateScanningZone now then
    some serviceRequest.config.emergencyCandidateScanningZoneRadiusInKm
  else none

/-- `GetCandidatesHandler.execute`, from the providers the repository has found. -/
def getCandidates (serviceProviders : List LocatedServiceProvider) (now : Time) :
    List CandidateDto :=
  let candidates := serviceProviders.map (serviceRequest.candidate geolib)
  let candidates :=
    match serviceRequest.emergencyRadius now with
    | some radius => candidates.filter (CandidateDto.distanceKm · ≤ radius)
    | none => candidates
  candidates.insertionSort fun first second => first.distanceKm ≤ second.distanceKm

/-- How far a provider is away, when both positions are known. -/
def knownDistance (serviceProvider : LocatedServiceProvider) : Option Rat :=
  match serviceRequest.customerAddress.position, serviceProvider.place.position with
  | some start, some finish => some (geolib.distanceKm start finish)
  | _, _ => none

/-- A provider without a position does not come before one that has one, and a farther one not
before a nearer one. -/
structure InOrder (first second : LocatedServiceProvider) : Prop where
  located : second.isLocated = true → first.isLocated = true
  nearer : ∀ distance ∈ serviceRequest.knownDistance geolib first,
    ∀ farther ∈ serviceRequest.knownDistance geolib second, distance ≤ farther

/-- In an emergency every candidate is within the radius, and the candidates are in order. -/
structure SortedInRange (now : Time) (candidates : List CandidateDto) : Prop where
  inRange : ∀ radius ∈ serviceRequest.emergencyRadius now, ∀ candidate ∈ candidates,
    ∃ distance ∈ serviceRequest.knownDistance geolib candidate.serviceProvider, distance ≤ radius
  sorted : candidates.Pairwise fun first second =>
    serviceRequest.InOrder geolib first.serviceProvider second.serviceProvider

/-- In an emergency every distance is known, unless the radius is below minus one. Otherwise all
providers have a position or none has, if the customer has one; and if not, those that have one were
found first. -/
def Comparable (serviceProviders : List LocatedServiceProvider) (now : Time) : Prop :=
  match serviceRequest.emergencyRadius now, serviceRequest.customerAddress.position with
  | some radius, _ => radius < -1 ∨ ∀ serviceProvider ∈ serviceProviders,
      (serviceRequest.knownDistance geolib serviceProvider).isSome = true
  | none, some _ =>
    (∀ serviceProvider ∈ serviceProviders, serviceProvider.isLocated = true) ∨
      ∀ serviceProvider ∈ serviceProviders, serviceProvider.isLocated = false
  | none, none =>
    serviceProviders.Pairwise fun first second =>
      second.isLocated = true → first.isLocated = true

/-! ### Distances that cannot be told -/

variable {geolib serviceRequest}

theorem distanceKm_candidate (serviceProvider : LocatedServiceProvider) :
    (serviceRequest.candidate geolib serviceProvider).distanceKm =
      (serviceRequest.knownDistance geolib serviceProvider).getD (-1) := by
  simp only [candidate, distanceTo, knownDistance, Place.position]
  cases serviceRequest.customerAddress.latitude <;>
  cases serviceRequest.customerAddress.longitude <;>
  cases serviceProvider.place.latitude <;>
  cases serviceProvider.place.longitude <;> rfl

theorem knownDistance_nonneg {serviceProvider : LocatedServiceProvider} {distance : Rat}
    (known : serviceRequest.knownDistance geolib serviceProvider = some distance) :
    0 ≤ distance := by
  unfold knownDistance at known
  split at known
  · cases known
    exact geolib.nonneg _ _
  · cases known

/-- Whatever cannot be told is nearer than anything that can. -/
theorem neg_one_le_distanceKm (serviceProvider : LocatedServiceProvider) :
    -1 ≤ (serviceRequest.candidate geolib serviceProvider).distanceKm := by
  rw [distanceKm_candidate]
  cases known : serviceRequest.knownDistance geolib serviceProvider with
  | none => exact le_rfl
  | some distance => exact le_trans (by decide) (knownDistance_nonneg known)

/-- A provider becomes a candidate, unless it is too far away in an emergency. -/
theorem mem_getCandidates {serviceProviders : List LocatedServiceProvider} {now : Time}
    {candidate : CandidateDto} :
    candidate ∈ serviceRequest.getCandidates geolib serviceProviders now ↔
      (∃ serviceProvider ∈ serviceProviders,
        serviceRequest.candidate geolib serviceProvider = candidate) ∧
        ∀ radius ∈ serviceRequest.emergencyRadius now, candidate.distanceKm ≤ radius := by
  rw [getCandidates, List.mem_insertionSort]
  cases serviceRequest.emergencyRadius now with
  | none => simp
  | some radius => simp

theorem sorted_getCandidates (serviceProviders : List LocatedServiceProvider) (now : Time) :
    (serviceRequest.getCandidates geolib serviceProviders now).Pairwise fun first second =>
      first.distanceKm ≤ second.distanceKm :=
  haveI : Std.Total fun first second : CandidateDto => first.distanceKm ≤ second.distanceKm :=
    ⟨fun first second => le_total first.distanceKm second.distanceKm⟩
  haveI : IsTrans CandidateDto fun first second => first.distanceKm ≤ second.distanceKm :=
    ⟨fun _ _ _ => le_trans⟩
  List.pairwise_insertionSort _ _

theorem knownDistance_isSome_iff (serviceProvider : LocatedServiceProvider) :
    (serviceRequest.knownDistance geolib serviceProvider).isSome = true ↔
      serviceRequest.customerAddress.position.isSome = true ∧ serviceProvider.isLocated = true := by
  rw [knownDistance, LocatedServiceProvider.isLocated]
  cases serviceRequest.customerAddress.position <;>
  cases serviceProvider.place.position <;> simp

/-- Where the customer has no position, no distance is known. -/
theorem knownDistance_of_unknown (unknown : serviceRequest.customerAddress.position = none)
    (serviceProvider : LocatedServiceProvider) :
    serviceRequest.knownDistance geolib serviceProvider = none := by
  rw [knownDistance, unknown]

theorem inOrder_iff_of_unknown (unknown : serviceRequest.customerAddress.position = none)
    {first second : LocatedServiceProvider} :
    serviceRequest.InOrder geolib first second ↔
      (second.isLocated = true → first.isLocated = true) := by
  refine ⟨InOrder.located, fun located => ⟨located, fun distance isDistance => ?_⟩⟩
  rw [knownDistance_of_unknown unknown] at isDistance
  cases isDistance

/-- Anybody may come before a provider without a position. -/
theorem inOrder_of_lost {first second : LocatedServiceProvider}
    (lost : second.isLocated = false) : serviceRequest.InOrder geolib first second := by
  refine ⟨fun located => absurd (lost.symm.trans located) Bool.false_ne_true, ?_⟩
  intro distance _ farther isFarther
  have known := (knownDistance_isSome_iff second).mp (Option.isSome_of_mem isFarther)
  exact absurd (lost.symm.trans known.2) Bool.false_ne_true

/-- Where the distance of the first is known, the order is that of the distances. -/
theorem inOrder_of_known {first second : LocatedServiceProvider}
    (known : (serviceRequest.knownDistance geolib first).isSome = true)
    (nearer : (serviceRequest.candidate geolib first).distanceKm ≤
      (serviceRequest.candidate geolib second).distanceKm) :
    serviceRequest.InOrder geolib first second := by
  refine ⟨fun _ => ((knownDistance_isSome_iff first).mp known).2, ?_⟩
  intro distance isDistance farther isFarther
  rw [Option.mem_def] at isDistance isFarther
  rwa [distanceKm_candidate, distanceKm_candidate, isDistance, isFarther] at nearer

/-- Whoever has a distance comes after whoever has none. -/
theorem not_nearer_of_unknown {known unknown : LocatedServiceProvider}
    (some : (serviceRequest.knownDistance geolib known).isSome = true)
    (none : serviceRequest.knownDistance geolib unknown = none) :
    ¬(serviceRequest.candidate geolib known).distanceKm ≤
      (serviceRequest.candidate geolib unknown).distanceKm := by
  obtain ⟨distance, isDistance⟩ := Option.isSome_iff_exists.mp some
  rw [distanceKm_candidate, distanceKm_candidate, isDistance, none, Option.getD_some,
    Option.getD_none, not_le]
  exact lt_of_lt_of_le (by decide) (knownDistance_nonneg isDistance)

variable {serviceProviders : List LocatedServiceProvider} {now : Time}

/-- Candidates whose distances are all known are in order. -/
theorem sorted_of_known
    (known : ∀ candidate ∈ serviceRequest.getCandidates geolib serviceProviders now,
      (serviceRequest.knownDistance geolib candidate.serviceProvider).isSome = true) :
    (serviceRequest.getCandidates geolib serviceProviders now).Pairwise fun first second =>
      serviceRequest.InOrder geolib first.serviceProvider second.serviceProvider := by
  refine (sorted_getCandidates serviceProviders now).imp_of_mem ?_
  intro first second firstMember secondMember nearer
  obtain ⟨⟨one, -, rfl⟩, -⟩ := mem_getCandidates.mp firstMember
  obtain ⟨⟨other, -, rfl⟩, -⟩ := mem_getCandidates.mp secondMember
  exact inOrder_of_known (known _ firstMember) nearer

/-- Of two candidates in order, one with a position and one without, neither can come first when the
customer has a position. -/
theorem not_sorted_of_mixed {located lost : LocatedServiceProvider}
    (member : serviceRequest.candidate geolib located ∈
      serviceRequest.getCandidates geolib serviceProviders now)
    (otherMember : serviceRequest.candidate geolib lost ∈
      serviceRequest.getCandidates geolib serviceProviders now)
    (customer : serviceRequest.customerAddress.position.isSome = true)
    (isLocated : located.isLocated = true) (isLost : lost.isLocated = false) :
    ¬(serviceRequest.getCandidates geolib serviceProviders now).Pairwise fun first second =>
      serviceRequest.InOrder geolib first.serviceProvider second.serviceProvider := by
  intro sorted
  have known := (@knownDistance_isSome_iff geolib serviceRequest located).mpr ⟨customer, isLocated⟩
  have unknown : serviceRequest.knownDistance geolib lost = none := by
    rw [← Option.not_isSome_iff_eq_none, knownDistance_isSome_iff, isLost]
    exact fun both => Bool.false_ne_true both.2
  have both := sorted.and (sorted_getCandidates serviceProviders now)
  have different : serviceRequest.candidate geolib located ≠
      serviceRequest.candidate geolib lost := by
    intro same
    exact not_nearer_of_unknown known unknown (congrArg CandidateDto.distanceKm same).le
  obtain first | first := inOrder_or_inOrder both member otherMember different
  · exact not_nearer_of_unknown known unknown first.2
  · exact Bool.false_ne_true (isLost.symm.trans (first.1.located isLocated))

/-- Where nothing can be told, the candidates stay as the providers were found. -/
theorem getCandidates_of_unknown (calm : serviceRequest.emergencyRadius now = none)
    (unknown : serviceRequest.customerAddress.position = none) :
    serviceRequest.getCandidates geolib serviceProviders now =
      serviceProviders.map (serviceRequest.candidate geolib) := by
  have equal (serviceProvider : LocatedServiceProvider) :
      (serviceRequest.candidate geolib serviceProvider).distanceKm = -1 := by
    rw [distanceKm_candidate, knownDistance_of_unknown unknown]
    rfl
  rw [getCandidates, calm]
  refine List.Pairwise.insertionSort_eq (List.pairwise_map.mpr (List.pairwise_of_forall ?_))
  intro first second
  rw [equal, equal]

/-- In an emergency a provider whose distance cannot be told is let in, unless the radius is below
minus one. -/
theorem sortedInRange_emergency_iff {radius : Rat}
    (emergency : serviceRequest.emergencyRadius now = some radius) :
    serviceRequest.SortedInRange geolib now
        (serviceRequest.getCandidates geolib serviceProviders now) ↔
      radius < -1 ∨ ∀ serviceProvider ∈ serviceProviders,
        (serviceRequest.knownDistance geolib serviceProvider).isSome = true := by
  constructor
  · intro right
    refine or_iff_not_imp_left.mpr fun wide serviceProvider member => ?_
    by_contra missing
    have unknown := Option.not_isSome_iff_eq_none.mp missing
    have inside := mem_getCandidates.mpr ⟨⟨serviceProvider, member, rfl⟩, fun other isRadius => by
      rw [emergency, Option.mem_some_iff] at isRadius
      rw [distanceKm_candidate, unknown, ← isRadius]
      exact not_lt.mp wide⟩
    obtain ⟨distance, isDistance, -⟩ := right.inRange radius emergency _ inside
    exact missing (Option.isSome_iff_exists.mpr ⟨_, isDistance⟩)
  · intro comparable
    have known : ∀ candidate ∈ serviceRequest.getCandidates geolib serviceProviders now,
        (serviceRequest.knownDistance geolib candidate.serviceProvider).isSome = true := by
      intro candidate inside
      obtain ⟨⟨serviceProvider, member, rfl⟩, near⟩ := mem_getCandidates.mp inside
      obtain narrow | known := comparable
      · have within := (neg_one_le_distanceKm serviceProvider).trans (near radius emergency)
        exact absurd narrow (not_lt.mpr within)
      · exact known serviceProvider member
    refine ⟨fun other isRadius candidate inside => ?_, sorted_of_known known⟩
    obtain ⟨distance, isDistance⟩ := Option.isSome_iff_exists.mp (known candidate inside)
    obtain ⟨⟨serviceProvider, -, rfl⟩, near⟩ := mem_getCandidates.mp inside
    have within := near other isRadius
    have isKnown : serviceRequest.knownDistance geolib serviceProvider = some distance :=
      isDistance
    rw [distanceKm_candidate, isKnown] at within
    exact ⟨distance, isDistance, within⟩

/-- Otherwise, for a customer with a position, the minus ones come before everything else. -/
theorem sorted_iff_uniform (calm : serviceRequest.emergencyRadius now = none)
    (customer : serviceRequest.customerAddress.position.isSome = true) :
    ((serviceRequest.getCandidates geolib serviceProviders now).Pairwise fun first second =>
        serviceRequest.InOrder geolib first.serviceProvider second.serviceProvider) ↔
      (∀ serviceProvider ∈ serviceProviders, serviceProvider.isLocated = true) ∨
        ∀ serviceProvider ∈ serviceProviders, serviceProvider.isLocated = false := by
  have inside {serviceProvider : LocatedServiceProvider}
      (member : serviceProvider ∈ serviceProviders) :
      serviceRequest.candidate geolib serviceProvider ∈
        serviceRequest.getCandidates geolib serviceProviders now := by
    refine mem_getCandidates.mpr ⟨⟨serviceProvider, member, rfl⟩, ?_⟩
    rw [calm]
    exact fun radius isRadius => absurd isRadius (Option.not_mem_none radius)
  constructor
  · intro sorted
    refine or_iff_not_imp_right.mpr fun someLocated lost member => ?_
    simp only [not_forall, Bool.not_eq_false] at someLocated
    obtain ⟨located, otherMember, isLocated⟩ := someLocated
    by_contra isLost
    exact not_sorted_of_mixed (inside otherMember) (inside member) customer isLocated
      (Bool.eq_false_iff.mpr isLost) sorted
  · rintro (located | lost)
    · refine sorted_of_known fun candidate member => ?_
      obtain ⟨⟨serviceProvider, found, rfl⟩, -⟩ := mem_getCandidates.mp member
      exact (knownDistance_isSome_iff serviceProvider).mpr ⟨customer, located _ found⟩
    · refine List.pairwise_of_forall_mem_list fun first _ second member => ?_
      obtain ⟨⟨serviceProvider, found, rfl⟩, -⟩ := mem_getCandidates.mp member
      exact inOrder_of_lost (lost serviceProvider found)

/-- The candidates are in order, and within the radius in an emergency, exactly if the distances of
the providers can be compared. -/
theorem sortedInRange_iff (geolib : Geolib) (serviceRequest : LocatedServiceRequest)
    (serviceProviders : List LocatedServiceProvider) (now : Time) :
    serviceRequest.SortedInRange geolib now
        (serviceRequest.getCandidates geolib serviceProviders now) ↔
      serviceRequest.Comparable geolib serviceProviders now := by
  unfold Comparable
  cases emergency : serviceRequest.emergencyRadius now with
  | some radius => exact sortedInRange_emergency_iff emergency
  | none =>
    have onlyOrder : serviceRequest.SortedInRange geolib now
        (serviceRequest.getCandidates geolib serviceProviders now) ↔
        (serviceRequest.getCandidates geolib serviceProviders now).Pairwise fun first second =>
          serviceRequest.InOrder geolib first.serviceProvider second.serviceProvider := by
      refine ⟨fun right => right.sorted, fun sorted => ⟨?_, sorted⟩⟩
      rw [emergency]
      exact fun radius isRadius => absurd isRadius (Option.not_mem_none radius)
    rw [onlyOrder]
    cases position : serviceRequest.customerAddress.position with
    | some customer => exact sorted_iff_uniform emergency (by rw [position]; rfl)
    | none =>
      rw [getCandidates_of_unknown emergency position, List.pairwise_map]
      exact List.Pairwise.iff fun first second => inOrder_iff_of_unknown position

/-- As the crow flies on a plane, without the root: a distance to try things out with. -/
def exampleGeolib : Geolib where
  distanceKm start finish :=
    |start.latitude - finish.latitude| + |start.longitude - finish.longitude|
  nonneg _ _ := add_nonneg (abs_nonneg _) (abs_nonneg _)

/-- The request of the example, for a customer with a position. -/
def exampleLocated : LocatedServiceRequest where
  toServiceRequest := exampleRequest
  customerAddress := ⟨some 3, some 101⟩

/-- A provider at a place. -/
def exampleProviderAt (place : Place) : LocatedServiceProvider where
  row := ⟨⟨"d1", by decide⟩, .dealer, .active, 1, true, []⟩
  place := place

/-- Five hours before the start the zone is in force, and a provider without a position is let into
it. -/
theorem not_sortedInRange_unknown :
    ¬exampleLocated.SortedInRange exampleGeolib 342000000
      (exampleLocated.getCandidates exampleGeolib
        [exampleProviderAt ⟨some 3, some 101⟩, exampleProviderAt ⟨none, none⟩] 342000000) := by
  intro right
  obtain ⟨distance, isDistance, -⟩ := right.inRange 5 (by decide +kernel)
    (exampleLocated.candidate exampleGeolib (exampleProviderAt ⟨none, none⟩)) (by decide +kernel)
  cases isDistance

end LocatedServiceRequest

end FieldService.Dispatching
