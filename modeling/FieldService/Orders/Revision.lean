/-
This file compares a package that is revised with one that is made anew.

Both are priced by the same code, but from other quotations. A package that is made copies the
quotations of its service package and looks them up for the customer's state. A revision takes
everything over from the new service package but its quotations, and looks up the ones that were
copied first, for the state that has been stored. So the two come to the same prices exactly if
these tiers cost the same (`revise_samePrices_iff`), whatever has been done with the package before.
-/

import FieldService.Orders.GroupPrices
import FieldService.Orders.Patching
import FieldService.Orders.Quantities

namespace FieldService.Orders

open Execution RequestedServicePackage

/-! ### Prices and totals -/

namespace QuotedPrices

variable {Quotation : Type}

/-- The unit prices and the totals are the same. -/
structure SamePrices (first second : QuotedPrices Quotation) : Prop where
  unitPrice : first.unitPrice = second.unitPrice
  discountedUnitPrice : first.discountedUnitPrice = second.discountedUnitPrice
  subTotal : first.subTotal = second.subTotal
  total : first.total = second.total

/-- Totals that follow from the unit prices do not have to be compared. -/
theorem samePrices_iff {first second : QuotedPrices Quotation} {quantity : Int}
    (multiplies : first.Multiplies quantity) (other : second.Multiplies quantity) :
    first.SamePrices second ↔ first.unitPrice = second.unitPrice ∧
      first.discountedUnitPrice = second.discountedUnitPrice := by
  constructor
  · intro same
    exact ⟨same.unitPrice, same.discountedUnitPrice⟩
  · rintro ⟨unitPrice, discountedUnitPrice⟩
    refine ⟨unitPrice, discountedUnitPrice, ?_, ?_⟩
    · rw [multiplies.subTotal, other.subTotal, unitPrice]
    · rw [multiplies.total, other.total, discountedUnitPrice]

/-- What the tier costs that is looked up. -/
def tierPrice (tier : Quotation → ConsumerQuotation) (inScope : Quotation → Bool) (quantity : Int)
    (prices : QuotedPrices Quotation) : Money :=
  ((prices.lookUp tier inScope (.number quantity)).map fun found => (tier found).unitPrice).getD 0

section

variable {tier : Quotation → ConsumerQuotation} {firstScope secondScope : Quotation → Bool}
  {prices : QuotedPrices Quotation} (quoted : prices.quotations.isNone = false)

include quoted

theorem unitPrice_revised (inForce : QuantityInForce) (one units : Int) :
    ((prices.reflectOriginal tier firstScope (.number one)).reprice tier secondScope inForce
        units).unitPrice = prices.tierPrice tier firstScope one := by
  cases known : prices.quotations with
  | none => simp [known] at quoted
  | some quotations =>
    simp [reprice, reflectDiscounted, reflectOriginal, calculateTotals, lookUp, sort, known,
      tierPrice, Function.comp_def]

theorem discountedUnitPrice_revised (inForce : QuantityInForce) (quantity units : Int) :
    ((prices.reflectOriginal tier firstScope inForce).reprice tier secondScope (.number quantity)
        units).discountedUnitPrice = prices.tierPrice tier secondScope quantity := by
  cases known : prices.quotations with
  | none => simp [known] at quoted
  | some quotations =>
    simp [reprice, reflectDiscounted, reflectOriginal, calculateTotals, lookUp, sort, known,
      tierPrice, Function.comp_def]

end

end QuotedPrices

/-! ### Packages with quotations -/

namespace RequestedServicePackage

/-- The package has copied quotations. -/
structure Quoted (package : RequestedServicePackage) : Prop where
  consumer : package.consumerQuotation.quotations.isNone = false
  serviceProvider : package.serviceProviderQuotation.quotations.isNone = false

/-- Both sides have the same prices. -/
structure SamePrices (first second : RequestedServicePackage) : Prop where
  consumer : first.consumerQuotation.SamePrices second.consumerQuotation
  serviceProvider : first.serviceProviderQuotation.SamePrices second.serviceProviderQuotation

/-- The tiers of two packages cost the same for one unit and for a quantity. The provider's are
those of the stored state for one unit, and of the state found there for the quantity. -/
structure SameTierPrices (toUpperCase : String → String) (quantity : Int)
    (first second : RequestedServicePackage) : Prop where
  consumerOriginal :
    first.consumerQuotation.tierPrice id (fun _ => true) 1 =
      second.consumerQuotation.tierPrice id (fun _ => true) 1
  consumerDiscounted :
    first.consumerQuotation.tierPrice id (fun _ => true) quantity =
      second.consumerQuotation.tierPrice id (fun _ => true) quantity
  serviceProviderOriginal :
    first.serviceProviderQuotation.tierPrice (·.toConsumerQuotation)
        (isForState toUpperCase first.serviceProviderQuotationState) 1 =
      second.serviceProviderQuotation.tierPrice (·.toConsumerQuotation)
        (isForState toUpperCase second.serviceProviderQuotationState) 1
  serviceProviderDiscounted :
    first.serviceProviderQuotation.tierPrice (·.toConsumerQuotation)
        (isForState toUpperCase (first.revisedState toUpperCase)) quantity =
      second.serviceProviderQuotation.tierPrice (·.toConsumerQuotation)
        (isForState toUpperCase (second.revisedState toUpperCase)) quantity

variable {toUpperCase : String → String}

theorem quoted_reprice {package : RequestedServicePackage} (quoted : package.Quoted)
    (inForce : QuantityInForce) : (package.reprice toUpperCase inForce).Quoted := by
  refine ⟨?_, ?_⟩
  · rw [reprice_eq, QuotedPrices.isNone_reprice]
    exact quoted.consumer
  · rw [reprice_eq, QuotedPrices.isNone_reprice]
    exact quoted.serviceProvider

theorem quoted_change {package : RequestedServicePackage} (quoted : package.Quoted)
    (change : QuantityChange) : (package.change toUpperCase change).Quoted := by
  cases change with
  | changeQuantity quantity =>
    refine quoted_reprice ?_ _
    exact ⟨quoted.consumer, quoted.serviceProvider⟩
  | changeServicePackageGroupQuantity groups =>
    simp only [RequestedServicePackage.change, changeServicePackageGroupQuantity]
    split
    · exact ⟨quoted.consumer, quoted.serviceProvider⟩
    · refine quoted_reprice ?_ _
      exact ⟨quoted.consumer, quoted.serviceProvider⟩

theorem quoted_create {quantity : Int} {state : String} {servicePackage : Option ServicePackage}
    {package : RequestedServicePackage}
    (created : create toUpperCase quantity state servicePackage = .ok package) :
    package.Quoted := by
  obtain ⟨-, given, -, rfl⟩ := create_eq_ok_iff.mp created
  rw [reviseFromNewQuotations_eq]
  refine ⟨?_, ?_⟩
  · rw [QuotedPrices.isNone_reprice, QuotedPrices.isNone_reflectOriginal]
    rfl
  · rw [QuotedPrices.isNone_reprice, QuotedPrices.isNone_reflectOriginal]
    rfl

/-- Two packages come to the same prices by a revision exactly if their tiers cost the same. -/
theorem revise_samePrices_iff {first second : RequestedServicePackage} (quoted : first.Quoted)
    (otherQuoted : second.Quoted) (servicePackage : ServicePackage) (quantity : Int) :
    (first.reviseFromNewQuotations toUpperCase servicePackage quantity).SamePrices
        (second.reviseFromNewQuotations toUpperCase servicePackage quantity) ↔
      SameTierPrices toUpperCase quantity first second := by
  have multiplies {Quotation : Type} (tier : Quotation → ConsumerQuotation)
      (inScope : Quotation → Bool) (prices : QuotedPrices Quotation) :=
    prices.multiplies_reprice tier inScope (.number quantity) quantity
  rw [reviseFromNewQuotations_eq, reviseFromNewQuotations_eq]
  constructor
  · rintro ⟨consumer, serviceProvider⟩
    obtain ⟨consumerOriginal, consumerDiscounted⟩ :=
      (QuotedPrices.samePrices_iff (multiplies _ _ _) (multiplies _ _ _)).mp consumer
    obtain ⟨original, discounted⟩ :=
      (QuotedPrices.samePrices_iff (multiplies _ _ _) (multiplies _ _ _)).mp serviceProvider
    rw [QuotedPrices.unitPrice_revised quoted.consumer,
      QuotedPrices.unitPrice_revised otherQuoted.consumer] at consumerOriginal
    rw [QuotedPrices.discountedUnitPrice_revised quoted.consumer,
      QuotedPrices.discountedUnitPrice_revised otherQuoted.consumer] at consumerDiscounted
    rw [QuotedPrices.unitPrice_revised quoted.serviceProvider,
      QuotedPrices.unitPrice_revised otherQuoted.serviceProvider] at original
    rw [QuotedPrices.discountedUnitPrice_revised quoted.serviceProvider,
      QuotedPrices.discountedUnitPrice_revised otherQuoted.serviceProvider] at discounted
    exact ⟨consumerOriginal, consumerDiscounted, original, discounted⟩
  · rintro ⟨consumerOriginal, consumerDiscounted, original, discounted⟩
    constructor
    · refine (QuotedPrices.samePrices_iff (multiplies _ _ _) (multiplies _ _ _)).mpr ⟨?_, ?_⟩
      · rw [QuotedPrices.unitPrice_revised quoted.consumer, consumerOriginal,
          QuotedPrices.unitPrice_revised otherQuoted.consumer]
      · rw [QuotedPrices.discountedUnitPrice_revised quoted.consumer, consumerDiscounted,
          QuotedPrices.discountedUnitPrice_revised otherQuoted.consumer]
    · refine (QuotedPrices.samePrices_iff (multiplies _ _ _) (multiplies _ _ _)).mpr ⟨?_, ?_⟩
      · rw [QuotedPrices.unitPrice_revised quoted.serviceProvider, original,
          QuotedPrices.unitPrice_revised otherQuoted.serviceProvider]
      · rw [QuotedPrices.discountedUnitPrice_revised quoted.serviceProvider, discounted,
          QuotedPrices.discountedUnitPrice_revised otherQuoted.serviceProvider]

end RequestedServicePackage

/-- A package that has been made and changed in its quantities is revised to the prices of a new
package exactly if its stored tiers cost the same as those of the new service package, for the
customer's state. -/
theorem revise_samePrices_create_iff (toUpperCase : String → String) (state : String)
    (former servicePackage : ServicePackage) (formerQuantity quantity : Int)
    (changes : List QuantityChange) (made fresh : RequestedServicePackage)
    (wasMade : create toUpperCase formerQuantity state (some former) = .ok made)
    (isFresh : create toUpperCase quantity state (some servicePackage) = .ok fresh) :
    let package := run (change toUpperCase) made changes
    (package.reviseFromNewQuotations toUpperCase servicePackage quantity).SamePrices fresh ↔
      SameTierPrices toUpperCase quantity package (unpriced state servicePackage) := by
  intro package
  have quoted : package.Quoted :=
    preserved_run (change toUpperCase) Quoted
      (fun before change quoted => quoted_change quoted change) made changes
      (quoted_create wasMade)
  obtain ⟨-, given, same, rfl⟩ := create_eq_ok_iff.mp isFresh
  obtain rfl := Option.some.inj same
  exact revise_samePrices_iff quoted ⟨rfl, rfl⟩ servicePackage quantity

/-- A package at one price whose catalogue price has become another. -/
def examplePriced (unitPrice : Money) : ServicePackage :=
  exampleTieredPackage [⟨1, unitPrice⟩] [⟨⟨1, 80⟩, some "SELANGOR"⟩]

theorem revise_samePrices_create_iff_unchanged :
    let made := (unpriced "SELANGOR" (examplePriced 120)).reviseFromNewQuotations id
      (examplePriced 120) 1
    ((run (change id) made [.changeQuantity 2]).reviseFromNewQuotations id (examplePriced 120)
        3).SamePrices
      ((unpriced "SELANGOR" (examplePriced 120)).reviseFromNewQuotations id (examplePriced 120)
        3) := by
  intro made
  have stated : trim "SELANGOR" ≠ "" := by decide +kernel
  refine (revise_samePrices_create_iff id "SELANGOR" (examplePriced 120) (examplePriced 120) 1 3
    [.changeQuantity 2] made _ (create_eq_ok_iff.mpr ⟨stated, _, rfl, rfl⟩)
    (create_eq_ok_iff.mpr ⟨stated, _, rfl, rfl⟩)).mpr ?_
  exact ⟨by decide +kernel, by decide +kernel, by decide +kernel, by decide +kernel⟩

/-- The revision keeps the price of 120, where a new package costs 150. -/
theorem not_samePrices_raised :
    ∃ made fresh,
      create id 1 "SELANGOR" (some (examplePriced 120)) = .ok made ∧
      create id 1 "SELANGOR" (some (examplePriced 150)) = .ok fresh ∧
      ¬(made.reviseFromNewQuotations id (examplePriced 150) 1).SamePrices fresh := by
  have stated : trim "SELANGOR" ≠ "" := by decide +kernel
  refine ⟨_, _, create_eq_ok_iff.mpr ⟨stated, _, rfl, rfl⟩,
    create_eq_ok_iff.mpr ⟨stated, _, rfl, rfl⟩, fun same => ?_⟩
  have price := same.consumer.unitPrice
  revert price
  decide +kernel

end FieldService.Orders
