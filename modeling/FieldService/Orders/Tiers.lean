/-
This file says which tier a quantity selects.

The selection is written twice, for a package of an order and for a service package of the
catalogue, as a search from the end of the sorted quotations with the first of them to fall back on.
`lowestTier_of_reached` and `lowestTier_of_not_reached` are all that the rest needs of it.
-/

import FieldService.Library.Thresholds
import FieldService.Orders.Packages

namespace FieldService.Orders

open Thresholds

/-! ### The selected tier -/

section Selection

variable {Quotation : Type} {tier : Quotation → ConsumerQuotation} {inScope : Quotation → Bool}
  {quotations : List Quotation} {quantity : QuantityInForce}

/-- The quotation is in scope, and the quantity reaches it. -/
def Reaches (tier : Quotation → ConsumerQuotation) (inScope : Quotation → Bool)
    (quantity : QuantityInForce) (quotation : Quotation) : Prop :=
  inScope quotation = true ∧ quantity.reaches (tier quotation) = true

theorem perm_sortByQuantity (tier : Quotation → ConsumerQuotation) (quotations : List Quotation) :
    (sortByQuantity tier quotations).Perm quotations :=
  List.perm_insertionSort _ quotations

@[simp]
theorem mem_sortByQuantity {quotation : Quotation} :
    quotation ∈ sortByQuantity tier quotations ↔ quotation ∈ quotations :=
  (perm_sortByQuantity tier quotations).mem_iff

/-- The tier that is selected when one in scope is reached. -/
theorem lowestTier_of_reached
    (reached : ∃ quotation ∈ quotations, Reaches tier inScope quantity quotation) :
    ∃ selected, lowestTier tier inScope quantity (sortByQuantity tier quotations) = some selected ∧
      Highest (fun quotation => (tier quotation).minQuantity) (Reaches tier inScope quantity)
        quotations selected := by
  obtain ⟨quotation, member, within, isReached⟩ := reached
  cases search : ((sortByQuantity tier quotations).filter inScope).reverse.find?
      (fun quotation => quantity.reaches (tier quotation)) with
  | none =>
    have missed := List.find?_eq_none.mp search quotation (List.mem_reverse.mpr
      (List.mem_filter.mpr ⟨mem_sortByQuantity.mpr member, within⟩))
    exact absurd isReached missed
  | some selected =>
    refine ⟨selected, by rw [lowestTier, search]; rfl, ?_⟩
    have sorted := (sortByQuantity_sorted tier quotations).filter inScope
    obtain ⟨member, both, bound⟩ := highest_filter_iff.mp
      (highest_of_find (fun quotation => (tier quotation).minQuantity) sorted search)
    exact ⟨mem_sortByQuantity.mp member, both,
      fun other otherMember => bound other (mem_sortByQuantity.mpr otherMember)⟩

/-- When none is, the first one of all is selected. -/
theorem lowestTier_of_not_reached
    (missed : ∀ quotation ∈ quotations, ¬Reaches tier inScope quantity quotation) :
    lowestTier tier inScope quantity (sortByQuantity tier quotations) =
      (sortByQuantity tier quotations).head? := by
  have search : ((sortByQuantity tier quotations).filter inScope).reverse.find?
      (fun quotation => quantity.reaches (tier quotation)) = none := by
    refine List.find?_eq_none.mpr fun quotation member isReached => ?_
    obtain ⟨member, within⟩ := List.mem_filter.mp (List.mem_reverse.mp member)
    exact missed quotation (mem_sortByQuantity.mp member) ⟨within, isReached⟩
  rw [lowestTier, search]
  rfl

theorem lowest_of_head_sortByQuantity {first : Quotation}
    (head : (sortByQuantity tier quotations).head? = some first) :
    Lowest (fun quotation => (tier quotation).minQuantity) quotations first := by
  obtain ⟨member, bound⟩ := lowest_of_head (fun quotation => (tier quotation).minQuantity)
    (sortByQuantity_sorted tier quotations) head
  exact ⟨mem_sortByQuantity.mp member,
    fun other otherMember => bound other (mem_sortByQuantity.mpr otherMember)⟩

/-- What the selected tier costs. -/
def selectedPrice (tier : Quotation → ConsumerQuotation) (inScope : Quotation → Bool)
    (quantity : QuantityInForce) (quotations : List Quotation) : Money :=
  ((lowestTier tier inScope quantity (sortByQuantity tier quotations)).map
    fun quotation => (tier quotation).unitPrice).getD 0

/-- When a tier is reached, the price is that of the highest one. -/
theorem selectedPrice_of_reached
    (reached : ∃ quotation ∈ quotations, Reaches tier inScope quantity quotation) :
    ∃ highest, Highest (fun quotation => (tier quotation).minQuantity)
        (Reaches tier inScope quantity) quotations highest ∧
      selectedPrice tier inScope quantity quotations = (tier highest).unitPrice := by
  obtain ⟨selected, search, highest⟩ := lowestTier_of_reached reached
  refine ⟨selected, highest, ?_⟩
  rw [selectedPrice, search]
  rfl

@[simp]
theorem selectedPrice_sortByQuantity :
    selectedPrice tier inScope quantity (sortByQuantity tier quotations) =
      selectedPrice tier inScope quantity quotations := by
  rw [selectedPrice, sortByQuantity_twice, selectedPrice]

namespace QuotedPrices

variable {prices : QuotedPrices Quotation}

theorem quotations_reprice (known : prices.quotations = some quotations) (units : Int) :
    (prices.reprice tier inScope quantity units).quotations =
      some (sortByQuantity tier quotations) := by
  simp [reprice, reflectDiscounted, calculateTotals, sort, known]

theorem discountedUnitPrice_reprice (known : prices.quotations = some quotations) (units : Int) :
    (prices.reprice tier inScope quantity units).discountedUnitPrice =
      selectedPrice tier inScope quantity quotations := by
  simp [reprice, reflectDiscounted, calculateTotals, lookUp, known, selectedPrice,
    Function.comp_def]

theorem quotations_reflectOriginal (known : prices.quotations = some quotations) :
    (prices.reflectOriginal tier inScope quantity).quotations =
      some (sortByQuantity tier quotations) := by
  simp [reflectOriginal, sort, known]

end QuotedPrices

end Selection

/-! ### The consumer's tiers -/

/-- The tier that is selected for a quantity: the highest that is reached, or else the lowest. -/
def Selects (quotations : List ConsumerQuotation) (quantity : Int) (selected : ConsumerQuotation) :
    Prop :=
  Highest (·.minQuantity) (·.minQuantity ≤ quantity) quotations selected ∨
    ((∀ quotation ∈ quotations, ¬quotation.minQuantity ≤ quantity) ∧
      Lowest (·.minQuantity) quotations selected)

def ServicePackage.lowestConsumerQuotationTierBasedOnQuantity (servicePackage : ServicePackage)
    (quantity : Int) : Option ConsumerQuotation :=
  lowestTier (fun quotation => quotation) (fun _ => true) (.number quantity)
    (sortByQuantity (fun quotation => quotation) servicePackage.consumerQuotations)

def RequestedServicePackage.lowestConsumerQuotationTierBasedOnQuantity
    (package : RequestedServicePackage) (quantity : Int) : Option ConsumerQuotation :=
  package.consumerQuotation.lookUp id (fun _ => true) (.number quantity)

section Distinct

variable {quotations : List ConsumerQuotation} {quantity : Int}

theorem reaches_consumer {quotation : ConsumerQuotation} :
    Reaches id (fun _ => true) (.number quantity) quotation ↔
      quotation.minQuantity ≤ quantity := by
  simp [Reaches, QuantityInForce.reaches]

/-- The search finds a tier as it should be selected. -/
theorem selects_of_lowestTier {selected : ConsumerQuotation}
    (found : lowestTier id (fun _ => true) (.number quantity) (sortByQuantity id quotations) =
      some selected) : Selects quotations quantity selected := by
  by_cases reached : ∃ quotation ∈ quotations,
      Reaches id (fun _ => true) (.number quantity) quotation
  · obtain ⟨other, search, highest⟩ := lowestTier_of_reached reached
    rw [found, Option.some.injEq] at search
    subst search
    refine .inl ⟨highest.member, reaches_consumer.mp highest.isReached, ?_⟩
    exact fun other member isReached => highest.bound other member (reaches_consumer.mpr isReached)
  · have missed : ∀ quotation ∈ quotations,
        ¬Reaches id (fun _ => true) (.number quantity) quotation :=
      fun quotation member isReached => reached ⟨quotation, member, isReached⟩
    rw [lowestTier_of_not_reached missed] at found
    refine .inr ⟨fun quotation member isReached => ?_, lowest_of_head_sortByQuantity found⟩
    exact missed quotation member (reaches_consumer.mpr isReached)

/-- Only one tier should be selected, when no two have the same quantity. -/
theorem Selects.eq_of_distinct {first second : ConsumerQuotation}
    (distinct : Distinct (·.minQuantity) quotations) (selects : Selects quotations quantity first)
    (other : Selects quotations quantity second) : first = second := by
  obtain highest | ⟨missed, lowest⟩ := selects
  · obtain otherHighest | ⟨missed, -⟩ := other
    · exact highest.eq_of_distinct otherHighest distinct
    · exact absurd highest.isReached (missed first highest.member)
  · obtain highest | ⟨-, otherLowest⟩ := other
    · exact absurd highest.isReached (missed second highest.member)
    · exact lowest.eq_of_distinct otherLowest distinct

theorem lowestTier_eq_none_iff {inScope : ConsumerQuotation → Bool}
    {quantity : QuantityInForce} :
    lowestTier id inScope quantity (sortByQuantity id quotations) = none ↔ quotations = [] := by
  constructor
  · intro missing
    obtain ⟨-, empty⟩ := (Option.orElse_eq_none _ _).mp missing
    have sorted := perm_sortByQuantity id quotations
    rw [List.head?_eq_none_iff.mp empty] at sorted
    exact List.nil_perm.mp sorted
  · rintro rfl
    rfl

/-- A list of quotations with distinct quantities gives the one tier that should be selected,
whatever their order, and the package gives the same as the service package. -/
theorem lowestConsumerQuotationTier_selects
    (distinct : (quotations.map (·.minQuantity)).Nodup) (servicePackage : ServicePackage)
    (published : servicePackage.consumerQuotations.Perm quotations)
    (package : RequestedServicePackage) {stored : List ConsumerQuotation}
    (copied : package.consumerQuotation.quotations = some stored)
    (permuted : stored.Perm quotations) (quantity : Int) :
    (∀ selected,
      servicePackage.lowestConsumerQuotationTierBasedOnQuantity quantity = some selected ↔
        Selects quotations quantity selected) ∧
    (servicePackage.lowestConsumerQuotationTierBasedOnQuantity quantity = none ↔
      quotations = []) ∧
    package.lowestConsumerQuotationTierBasedOnQuantity quantity =
      servicePackage.lowestConsumerQuotationTierBasedOnQuantity quantity := by
  have onlyOne : Distinct (·.minQuantity) quotations := fun first member second other same =>
    List.inj_on_of_nodup_map distinct member other same
  -- However it was stored, the list is sorted into the same one before it is searched.
  have sortsAlike : ∀ others : List ConsumerQuotation, others.Perm quotations →
      sortByQuantity id others = sortByQuantity id quotations := by
    intro others permuted
    have sorted := (perm_sortByQuantity id others).trans
      (permuted.trans (perm_sortByQuantity id quotations).symm)
    refine eq_of_perm_of_sorted sorted (fun first member second other same => ?_)
      (sortByQuantity_sorted id others) (sortByQuantity_sorted id quotations)
    exact onlyOne first (permuted.mem_iff.mp (mem_sortByQuantity.mp member)) second
      (permuted.mem_iff.mp (mem_sortByQuantity.mp other)) same
  have fromServicePackage : servicePackage.lowestConsumerQuotationTierBasedOnQuantity quantity =
      lowestTier id (fun _ => true) (.number quantity) (sortByQuantity id quotations) := by
    rw [← sortsAlike _ published]
    rfl
  have fromPackage : package.lowestConsumerQuotationTierBasedOnQuantity quantity =
      lowestTier id (fun _ => true) (.number quantity) (sortByQuantity id quotations) := by
    rw [RequestedServicePackage.lowestConsumerQuotationTierBasedOnQuantity, QuotedPrices.lookUp,
      copied, Option.bind_some, sortsAlike _ permuted]
  rw [fromPackage, fromServicePackage]
  refine ⟨fun selected => ⟨selects_of_lowestTier, fun selects => ?_⟩, lowestTier_eq_none_iff, rfl⟩
  cases found : lowestTier id (fun _ => true) (.number quantity)
      (sortByQuantity id quotations) with
  | none =>
    rw [lowestTier_eq_none_iff.mp found] at selects
    obtain highest | ⟨-, lowest⟩ := selects
    · exact absurd highest.member List.not_mem_nil
    · exact absurd lowest.member List.not_mem_nil
  | some other =>
    rw [(selects_of_lowestTier found).eq_of_distinct onlyOne selects]

end Distinct

/-- A package of the catalogue with tiers. -/
def exampleTieredPackage (consumerQuotations : List ConsumerQuotation)
    (serviceProviderQuotations : List ServiceProviderQuotation) : ServicePackage where
  id := ⟨"s3", by decide⟩
  name := "Chemical wash"
  description := none
  noteToServiceProvider := none
  servicePackageGroupCode := some "wash"
  unitServiceMinutes := 60
  serviceTypesEntitlement := 1
  consumerQuotations := consumerQuotations
  serviceProviderQuotations := serviceProviderQuotations

/-- Three units reach the tier from three on, which comes first in one list and last in the
other. -/
theorem lowestConsumerQuotationTier_selects_third :
    Selects [⟨1, 120⟩, ⟨3, 100⟩] 3 ⟨3, 100⟩ ∧
      (RequestedServicePackage.unpriced "SELANGOR"
        (exampleTieredPackage [⟨3, 100⟩, ⟨1, 120⟩]
          [])).lowestConsumerQuotationTierBasedOnQuantity 3 = some ⟨3, 100⟩ := by
  have distinct :
      (([⟨1, 120⟩, ⟨3, 100⟩] : List ConsumerQuotation).map (·.minQuantity)).Nodup := by decide
  obtain ⟨selects, -, agrees⟩ := lowestConsumerQuotationTier_selects distinct
    (exampleTieredPackage [⟨1, 120⟩, ⟨3, 100⟩] []) (.refl _)
    (.unpriced "SELANGOR" (exampleTieredPackage [⟨3, 100⟩, ⟨1, 120⟩] [])) rfl (.swap _ _ _) 3
  exact ⟨(selects _).mp (by decide +kernel), agrees.trans (by decide +kernel)⟩

end FieldService.Orders
