/-
This file settles when matching skills by flags is matching them by their numbers.

A service type and a skill of one number have one flag: 1 for the first, and twice the number
before it for every other. The types of an order are put together by a bitwise or, package by
package, and the skills of a provider by adding their flags up. Provider and order match if the two
masks have a bit in common. That is right for every choice of skills and types exactly if no two of
the numbers in use, 1 aside, have predecessors with a common binary digit. The numbers 1, 2 and 3
are fine; 4 already has the flag 6, which is that of 2 and 3 together.
-/

import FieldService.Dispatching.Candidates
import FieldService.Library.Flags
import FieldService.Orders.Order

namespace FieldService.Dispatching

open Flags Orders

/-! ### Flags -/

/-- `id === 1 ? 1 : (id - 1) * 2`, as `ServiceTypeSubscriber`, `SkillSubscriber` and
`calculateSkillEntitlement` compute it. -/
def flagOf (id : Nat) : Nat :=
  if id = 1 then 1 else (id - 1) * 2

/-- A row of `service_type` or of `skill`. Its number is generated, from 1 on, and its flag fits the
integer column it is stored in. -/
structure CatalogueEntry where
  id : Nat
  positive : 0 < id
  storable : flagOf id < 2 ^ 31
  deriving DecidableEq, Repr

abbrev Skill := CatalogueEntry

abbrev ServiceType := CatalogueEntry

def CatalogueEntry.bitFlag (entry : CatalogueEntry) : Nat :=
  flagOf entry.id

/-! ### Entitlements -/

def calculateSkillEntitlement (skills : List Skill) : Nat :=
  skills.foldl (fun value skill => value + flagOf skill.id) 0

/-- `ServicePackage.getServiceTypesEntitlement`. -/
def getServiceTypesEntitlement (serviceTypes : List ServiceType) : Int :=
  serviceTypes.foldl (fun entitlement serviceType => bitwiseOr entitlement serviceType.bitFlag) 0

/-- What an integer column holds; a value out of range is refused. -/
def storedInteger (value : Int) : Option (BitVec 32) :=
  if -2 ^ 31 ≤ value ∧ value < 2 ^ 31 then some (BitVec.ofInt 32 value) else none

/-- A package of an order, with the service types of its service package. -/
structure TypedPackage where
  package : RequestedServicePackage
  serviceTypes : List ServiceType
  entitled : package.serviceTypesEntitlement = getServiceTypesEntitlement serviceTypes

/-- `getEntitlement` of an order for the packages. -/
def orderEntitlement (packages : List TypedPackage) : Int :=
  calculateServiceTypesEntitlement (packages.map (·.package))

/-- `(provider.skillEntitlement & :serviceRequestEntitlement) > 0`, of a provider with the skills
and an order for the packages. A provider whose entitlement does not fit its column is not
stored. -/
def isMatched (skills : List Skill) (packages : List TypedPackage) : Bool :=
  (storedInteger (calculateSkillEntitlement skills)).any fun skillEntitlement =>
    0 < (skillEntitlement &&& BitVec.ofInt 32 (orderEntitlement packages)).toInt

/-- It is the test of the candidate scan. -/
theorem isMatched_eq_sharedSkills (row : CandidateRow) {skills : List Skill}
    (packages : List TypedPackage)
    (stored : storedInteger (calculateSkillEntitlement skills) = some row.skillEntitlement) :
    isMatched skills packages =
      decide (0 < row.sharedSkills (BitVec.ofInt 32 (orderEntitlement packages))) := by
  rw [isMatched, stored, Option.any_some, CandidateRow.sharedSkills]

/-- Every set of skills and every order from the catalogue are matched by the numbers they share,
two entries share no bit, and putting entries together neither makes nor loses one. -/
structure MatchesByNumber (catalogue : Set CatalogueEntry) : Prop where
  matching : ∀ (skills : List Skill) (packages : List TypedPackage),
    skills.Nodup → (∀ skill ∈ skills, skill ∈ catalogue) →
      (∀ package ∈ packages, ∀ serviceType ∈ package.serviceTypes, serviceType ∈ catalogue) →
      (isMatched skills packages = true ↔ ∃ skill ∈ skills, ∃ package ∈ packages,
        ∃ serviceType ∈ package.serviceTypes, skill.id = serviceType.id)
  apart : ∀ first ∈ catalogue, ∀ second ∈ catalogue, first.id ≠ second.id →
    first.bitFlag &&& second.bitFlag = 0
  skillsCombine : ∀ skills : List Skill, skills.Nodup → (∀ skill ∈ skills, skill ∈ catalogue) →
    ∀ bit, (calculateSkillEntitlement skills).testBit bit = true ↔
      ∃ skill ∈ skills, skill.bitFlag.testBit bit = true
  typesCombine : ∀ packages : List TypedPackage,
    (∀ package ∈ packages, ∀ serviceType ∈ package.serviceTypes, serviceType ∈ catalogue) →
    ∀ bit, (BitVec.ofInt 32 (orderEntitlement packages)).getLsbD bit = true ↔
      ∃ package ∈ packages, ∃ serviceType ∈ package.serviceTypes,
        serviceType.bitFlag.testBit bit = true

/-! ### The flag of a number -/

/-- The flags of two numbers share no bit exactly if one of them is 1 or their predecessors share
no binary digit. -/
theorem flagOf_and_flagOf {first second : Nat} (first_pos : 0 < first) (second_pos : 0 < second)
    (different : first ≠ second) : flagOf first &&& flagOf second = 0 ↔
      (1 < first → 1 < second → (first - 1) &&& (second - 1) = 0) := by
  have doubled (left right : Nat) : left * 2 &&& right * 2 = (left &&& right) * 2 := by
    have shifted := @Nat.shiftLeft_and_distrib 1 left right
    simp only [Nat.shiftLeft_eq, pow_one] at shifted
    exact shifted.symm
  have odd (number : Nat) : 1 &&& number * 2 = 0 := by
    rw [Nat.one_and_eq_mod_two, Nat.mul_mod_left]
  rw [flagOf, flagOf]
  by_cases isFirst : first = 1
  · rw [if_pos isFirst, if_neg (isFirst ▸ different.symm), odd]
    exact iff_of_true rfl fun more => absurd isFirst (by omega)
  by_cases isSecond : second = 1
  · rw [if_neg isFirst, if_pos isSecond, Nat.and_comm, odd]
    exact iff_of_true rfl fun _ more => absurd isSecond (by omega)
  · rw [if_neg isFirst, if_neg isSecond, doubled]
    constructor
    · intro disjoint _ _
      omega
    · intro disjoint
      rw [disjoint (by omega) (by omega)]

namespace CatalogueEntry

/-- The flag as a mask of 32 bits. -/
def mask (entry : CatalogueEntry) : BitVec 32 :=
  BitVec.ofNat 32 entry.bitFlag

theorem toNat_mask (entry : CatalogueEntry) : entry.mask.toNat = entry.bitFlag := by
  have storable : entry.bitFlag < 2 ^ 31 := entry.storable
  rw [mask, BitVec.toNat_ofNat, Nat.mod_eq_of_lt (by omega)]

theorem msb_mask (entry : CatalogueEntry) : entry.mask.msb = false := by
  have storable : entry.bitFlag < 2 ^ 31 := entry.storable
  rw [BitVec.msb_eq_false_iff_two_mul_lt, toNat_mask]
  omega

theorem mask_ne_zero (entry : CatalogueEntry) : entry.mask ≠ 0 := by
  intro zero
  have flag := entry.toNat_mask
  rw [zero, bitFlag, flagOf] at flag
  have positive := entry.positive
  split at flag
  · cases flag
  · have none : (entry.id - 1) * 2 = 0 := flag.symm
    omega

theorem mask_and_mask (first second : CatalogueEntry) :
    first.mask &&& second.mask = 0 ↔ first.bitFlag &&& second.bitFlag = 0 := by
  rw [← BitVec.toNat_inj, BitVec.toNat_and, toNat_mask, toNat_mask]
  exact Iff.rfl

theorem id_inj {first second : CatalogueEntry} (same : first.id = second.id) : first = second := by
  obtain ⟨id, positive, storable⟩ := first
  cases same
  rfl

end CatalogueEntry

/-! ### The masks that are put together -/

theorem ofInt_bitwiseOr (first second : Int) :
    BitVec.ofInt 32 (bitwiseOr first second) = BitVec.ofInt 32 first ||| BitVec.ofInt 32 second :=
  BitVec.ofInt_toInt

/-- Values put together by a bitwise or, one after another. -/
theorem ofInt_foldl_bitwiseOr {Item : Type} (value : Item → Int) (items : List Item) (start : Int) :
    BitVec.ofInt 32 (items.foldl (fun entitlement item => bitwiseOr entitlement (value item))
        start) =
      BitVec.ofInt 32 start ||| union (items.map fun item => BitVec.ofInt 32 (value item)) := by
  induction items generalizing start with
  | nil => simp
  | cons item rest inductionHypothesis =>
    rw [List.foldl_cons, inductionHypothesis, ofInt_bitwiseOr, List.map_cons, union_cons,
      BitVec.or_assoc]

/-- The entitlement of an order is the union of the flags of all its service types. -/
theorem ofInt_orderEntitlement (packages : List TypedPackage) :
    BitVec.ofInt 32 (orderEntitlement packages) =
      union ((packages.flatMap (·.serviceTypes)).map CatalogueEntry.mask) := by
  have zero : BitVec.ofInt 32 0 = 0#32 := rfl
  have typed (package : TypedPackage) :
      BitVec.ofInt 32 package.package.serviceTypesEntitlement =
        union (package.serviceTypes.map CatalogueEntry.mask) := by
    rw [package.entitled, getServiceTypesEntitlement,
      ofInt_foldl_bitwiseOr (fun serviceType : ServiceType => (serviceType.bitFlag : Int)), zero,
      BitVec.zero_or]
    simp only [BitVec.ofInt_natCast]
    rfl
  rw [orderEntitlement, calculateServiceTypesEntitlement, List.foldl_map,
    ofInt_foldl_bitwiseOr (fun package : TypedPackage => package.package.serviceTypesEntitlement),
    zero, BitVec.zero_or]
  simp only [typed]
  rw [List.flatMap_def, List.map_flatten, union_flatten, List.map_map, List.map_map]
  rfl

/-- The bits of the entitlement of an order are those of its service types. -/
theorem getLsbD_orderEntitlement (packages : List TypedPackage) (bit : Nat) :
    (BitVec.ofInt 32 (orderEntitlement packages)).getLsbD bit = true ↔
      ∃ package ∈ packages, ∃ serviceType ∈ package.serviceTypes,
        serviceType.bitFlag.testBit bit = true := by
  rw [ofInt_orderEntitlement, getLsbD_union]
  simp only [List.mem_map, List.mem_flatMap, BitVec.getLsbD]
  constructor
  · rintro ⟨-, ⟨serviceType, ⟨package, member, typed⟩, rfl⟩, set⟩
    rw [CatalogueEntry.toNat_mask] at set
    exact ⟨package, member, serviceType, typed, set⟩
  · rintro ⟨package, member, serviceType, typed, set⟩
    refine ⟨_, ⟨serviceType, ⟨package, member, typed⟩, rfl⟩, ?_⟩
    rw [CatalogueEntry.toNat_mask]
    exact set

/-- The entitlement of a provider is the sum of the flags of its skills. -/
theorem calculateSkillEntitlement_eq (skills : List Skill) :
    calculateSkillEntitlement skills = ((skills.map CatalogueEntry.mask).map BitVec.toNat).sum := by
  rw [calculateSkillEntitlement, Grouping.foldl_add_eq_sum, List.map_map]
  exact congrArg List.sum (List.map_congr_left fun skill _ => skill.toNat_mask.symm)

/-- Flags fit an integer column, and so does what they are put together to. -/
theorem msb_union_mask (entries : List CatalogueEntry) :
    (union (entries.map CatalogueEntry.mask)).msb = false := by
  rw [BitVec.msb_eq_getLsbD_last, Bool.eq_false_iff, ne_eq, getLsbD_union]
  rintro ⟨flag, member, set⟩
  obtain ⟨entry, -, rfl⟩ := List.mem_map.mp member
  rw [← BitVec.msb_eq_getLsbD_last, entry.msb_mask] at set
  cases set

/-! ### Flags that share no bit -/

/-- The flags of different numbers share no bit. -/
def FlagsApart (catalogue : Set CatalogueEntry) : Prop :=
  ∀ first ∈ catalogue, ∀ second ∈ catalogue, first.id ≠ second.id →
    first.bitFlag &&& second.bitFlag = 0

namespace FlagsApart

variable {catalogue : Set CatalogueEntry} {skills : List Skill}

/-- Two entries share a bit exactly if they have the same number. -/
theorem mask_and_mask_iff (apart : FlagsApart catalogue) {first second : CatalogueEntry}
    (one : first ∈ catalogue) (two : second ∈ catalogue) :
    first.mask &&& second.mask ≠ 0 ↔ first.id = second.id := by
  constructor
  · intro shared
    by_contra different
    exact shared ((first.mask_and_mask second).mpr (apart first one second two different))
  · intro same
    rw [CatalogueEntry.id_inj same, BitVec.and_self]
    exact second.mask_ne_zero

/-- The flags of different skills add up to their union. -/
theorem calculateSkillEntitlement_eq_union (apart : FlagsApart catalogue)
    (different : skills.Nodup) (known : ∀ skill ∈ skills, skill ∈ catalogue) :
    calculateSkillEntitlement skills = (union (skills.map CatalogueEntry.mask)).toNat := by
  rw [calculateSkillEntitlement_eq]
  refine sum_toNat_eq (List.pairwise_map.mpr ?_)
  refine different.pairwise_of_forall_ne fun first one second two differ => ?_
  exact (first.mask_and_mask second).mpr (apart first (known first one) second (known second two)
    fun same => differ (CatalogueEntry.id_inj same))

/-- Such an entitlement fits its column. -/
theorem storedInteger_calculateSkillEntitlement (apart : FlagsApart catalogue)
    (different : skills.Nodup) (known : ∀ skill ∈ skills, skill ∈ catalogue) :
    storedInteger (calculateSkillEntitlement skills) =
      some (union (skills.map CatalogueEntry.mask)) := by
  have fits := BitVec.msb_eq_false_iff_two_mul_lt.mp (msb_union_mask skills)
  rw [calculateSkillEntitlement_eq_union apart different known, storedInteger,
    if_pos ⟨by omega, by omega⟩, BitVec.ofInt_natCast, BitVec.ofNat_toNat, BitVec.setWidth_eq]

/-- Provider and order match exactly if a skill has the number of a service type. -/
theorem isMatched_iff (apart : FlagsApart catalogue) (packages : List TypedPackage)
    (different : skills.Nodup) (known : ∀ skill ∈ skills, skill ∈ catalogue)
    (typed : ∀ package ∈ packages, ∀ serviceType ∈ package.serviceTypes,
      serviceType ∈ catalogue) :
    isMatched skills packages = true ↔ ∃ skill ∈ skills, ∃ package ∈ packages,
      ∃ serviceType ∈ package.serviceTypes, skill.id = serviceType.id := by
  have unsigned : (union (skills.map CatalogueEntry.mask) &&&
      union ((packages.flatMap (·.serviceTypes)).map CatalogueEntry.mask)).msb = false := by
    rw [BitVec.msb_and, msb_union_mask, Bool.false_and]
  have shared : isMatched skills packages = true ↔
      union (skills.map CatalogueEntry.mask) &&&
        union ((packages.flatMap (·.serviceTypes)).map CatalogueEntry.mask) ≠ 0 := by
    rw [isMatched, storedInteger_calculateSkillEntitlement apart different known,
      Option.any_some, decide_eq_true_iff, ofInt_orderEntitlement,
      BitVec.toInt_eq_toNat_of_msb unsigned, Int.natCast_pos, Nat.pos_iff_ne_zero, ne_eq, ne_eq,
      ← BitVec.toNat_inj]
    exact Iff.rfl
  rw [shared, ne_eq, union_and_union_eq_zero_iff]
  simp only [List.forall_mem_map, not_forall, exists_prop, List.mem_flatMap]
  constructor
  · rintro ⟨skill, owned, serviceType, ⟨package, member, requested⟩, common⟩
    exact ⟨skill, owned, package, member, serviceType, requested, (apart.mask_and_mask_iff
      (known skill owned) (typed package member serviceType requested)).mp common⟩
  · rintro ⟨skill, owned, package, member, serviceType, requested, same⟩
    exact ⟨skill, owned, serviceType, ⟨package, member, requested⟩, (apart.mask_and_mask_iff
      (known skill owned) (typed package member serviceType requested)).mpr same⟩

end FlagsApart

/-- Matching skills by their flags is matching them by their numbers, for every choice of skills and
every order from a catalogue, exactly if the predecessors of any two of its numbers beyond 1 share
no binary digit. -/
theorem matchesByNumber_iff (catalogue : Set CatalogueEntry) :
    MatchesByNumber catalogue ↔ ∀ first ∈ catalogue, ∀ second ∈ catalogue,
      first.id ≠ second.id → 1 < first.id → 1 < second.id →
        (first.id - 1) &&& (second.id - 1) = 0 := by
  have flags : FlagsApart catalogue ↔ ∀ first ∈ catalogue, ∀ second ∈ catalogue,
      first.id ≠ second.id → 1 < first.id → 1 < second.id →
        (first.id - 1) &&& (second.id - 1) = 0 :=
    forall₂_congr fun first _ => forall₂_congr fun second _ => forall_congr' fun different =>
      flagOf_and_flagOf first.positive second.positive different
  rw [← flags]
  constructor
  · exact fun byNumber => byNumber.apart
  · intro apart
    refine ⟨fun skills packages different known typed =>
      apart.isMatched_iff packages different known typed, apart, ?_, ?_⟩
    · intro skills different known bit
      rw [apart.calculateSkillEntitlement_eq_union different known]
      show (union (skills.map CatalogueEntry.mask)).getLsbD bit = true ↔ _
      rw [getLsbD_union]
      simp only [List.mem_map, exists_exists_and_eq_and, BitVec.getLsbD, CatalogueEntry.toNat_mask]
    · exact fun packages _ bit => getLsbD_orderEntitlement packages bit

/-- The entry of a number whose flag fits its column. -/
def exampleEntry (id : Nat) (positive : 0 < id) (small : id < 100) : CatalogueEntry where
  id := id
  positive := positive
  storable := by
    rw [flagOf]
    split <;> omega

/-- A package of the service type 2. -/
def exampleTypedPackage : TypedPackage where
  package :=
    { servicePackage :=
        { id := ⟨"s2", by decide⟩, name := "Servicing", description := none
          noteToServiceProvider := none, servicePackageGroupCode := none, unitServiceMinutes := 30
          serviceTypesEntitlement := 2, consumerQuotations := []
          serviceProviderQuotations := [] }
      name := "Servicing"
      description := none
      noteToServiceProvider := none
      servicePackageGroupCode := none
      servicePackageGroupQuantity := none
      consumerQuotation := .ofQuotations []
      serviceProviderQuotation := .ofQuotations []
      serviceProviderQuotationState := "Selangor"
      quantity := 1
      serviceTypesEntitlement := 2
      technicalReport := .create []
      unitServiceMinutes := 30
      totalServiceMinutes := 30 }
  serviceTypes := [exampleEntry 2 (by decide) (by decide)]
  entitled := by decide +kernel

/-- A provider whose only skill is 4 is matched to an order of the service type 2. -/
theorem not_matchesByNumber_four :
    ¬MatchesByNumber {exampleEntry 2 (by decide) (by decide),
      exampleEntry 4 (by decide) (by decide)} := by
  intro byNumber
  obtain ⟨skill, owned, package, member, serviceType, requested, same⟩ :=
    (byNumber.matching [exampleEntry 4 (by decide) (by decide)] [exampleTypedPackage]
      (List.nodup_singleton _) (by simp) (by simp [exampleTypedPackage])).mp (by decide +kernel)
  cases List.mem_singleton.mp owned
  cases List.mem_singleton.mp member
  cases List.mem_singleton.mp requested
  cases same

end FieldService.Dispatching
