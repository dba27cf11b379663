/-
This file is about packages whose prices are whole amounts.

All prices of a package are taken from its quotations, or are multiples and differences of those.
So if the quotations are whole the prices are, however often the package is priced again, and
its columns hold them as they are.
-/

import FieldService.Columns
import FieldService.Orders.Order
import FieldService.Orders.Tiers

namespace FieldService.Orders

/-! ### Prices -/

theorem mem_of_lowestTier {Quotation : Type} {tier : Quotation → ConsumerQuotation}
    {inScope : Quotation → Bool} {quantity : QuantityInForce} {sorted : List Quotation}
    {quotation : Quotation} (selected : lowestTier tier inScope quantity sorted = some quotation) :
    quotation ∈ sorted := by
  unfold lowestTier at selected
  cases search : (sorted.filter inScope).reverse.find?
      (fun quotation => quantity.reaches (tier quotation)) with
  | none =>
    rw [search] at selected
    exact List.mem_of_head? selected
  | some reached =>
    rw [search] at selected
    cases selected
    exact (List.mem_filter.mp (List.mem_reverse.mp (List.mem_of_find?_eq_some search))).1

namespace QuotedPrices

variable {Quotation : Type} {tier : Quotation → ConsumerQuotation} {inScope : Quotation → Bool}
  {prices : QuotedPrices Quotation}

/-- The quotations and the prices are whole. The discount is then as well. -/
structure Whole (tier : Quotation → ConsumerQuotation) (prices : QuotedPrices Quotation) :
    Prop where
  quotations : ∀ quotations, prices.quotations = some quotations →
    ∀ quotation ∈ quotations, IsWhole (tier quotation).unitPrice
  unitPrice : IsWhole prices.unitPrice
  discountedUnitPrice : IsWhole prices.discountedUnitPrice
  subTotal : IsWhole prices.subTotal
  total : IsWhole prices.total

theorem Whole.discountAmount (whole : prices.Whole tier) : IsWhole prices.discountAmount := by
  rw [prices.balanced]
  exact whole.subTotal.sub whole.total

/-- The amounts of one side of a package that have columns. -/
def columns (prices : QuotedPrices Quotation) : List Money :=
  [prices.unitPrice, prices.discountedUnitPrice, prices.subTotal, prices.total,
    prices.discountAmount]

/-- Whole prices are stored as they are. -/
theorem Whole.columns (whole : prices.Whole tier) :
    prices.columns.map toColumn = prices.columns := by
  simp only [QuotedPrices.columns, List.map_cons, List.map_nil, whole.unitPrice.toColumn,
    whole.discountedUnitPrice.toColumn, whole.subTotal.toColumn, whole.total.toColumn,
    whole.discountAmount.toColumn]

theorem whole_ofQuotations {quotations : List Quotation}
    (whole : ∀ quotation ∈ quotations, IsWhole (tier quotation).unitPrice) :
    (ofQuotations quotations).Whole tier where
  quotations := by
    rintro _ ⟨⟩
    exact whole
  unitPrice := isWhole_zero
  discountedUnitPrice := isWhole_zero
  subTotal := isWhole_zero
  total := isWhole_zero

/-- A price that is looked up is whole, and so is the one that stands for none. -/
theorem Whole.lookUp (whole : prices.Whole tier) (inScope : Quotation → Bool)
    (quantity : QuantityInForce) :
    IsWhole ((((prices.lookUp tier inScope quantity).map tier).map (·.unitPrice)).getD 0) := by
  cases found : prices.lookUp tier inScope quantity with
  | none => exact isWhole_zero
  | some quotation =>
    obtain ⟨quotations, quoted, selected⟩ := Option.bind_eq_some_iff.mp found
    exact whole.quotations quotations quoted quotation
      (mem_sortByQuantity.mp (mem_of_lowestTier selected))

theorem Whole.sort (whole : prices.Whole tier) : (prices.sort tier).Whole tier where
  quotations := by
    intro sorted same quotation member
    obtain ⟨quotations, quoted, rfl⟩ := Option.map_eq_some_iff.mp same
    exact whole.quotations quotations quoted quotation (mem_sortByQuantity.mp member)
  unitPrice := whole.unitPrice
  discountedUnitPrice := whole.discountedUnitPrice
  subTotal := whole.subTotal
  total := whole.total

theorem Whole.reflectDiscounted (whole : prices.Whole tier) (inScope : Quotation → Bool)
    (quantity : QuantityInForce) : (prices.reflectDiscounted tier inScope quantity).Whole tier := by
  unfold QuotedPrices.reflectDiscounted
  split
  · exact whole
  · exact ⟨whole.sort.quotations, whole.unitPrice, whole.lookUp inScope quantity, whole.subTotal,
      whole.total⟩

theorem Whole.reflectOriginal (whole : prices.Whole tier) (inScope : Quotation → Bool)
    (quantity : QuantityInForce) : (prices.reflectOriginal tier inScope quantity).Whole tier := by
  unfold QuotedPrices.reflectOriginal
  split
  · exact whole
  · exact ⟨whole.sort.quotations, whole.lookUp inScope quantity, whole.discountedUnitPrice,
      whole.subTotal, whole.total⟩

theorem Whole.reprice (whole : prices.Whole tier) (inScope : Quotation → Bool)
    (inForce : QuantityInForce) (quantity : Int) :
    (prices.reprice tier inScope inForce quantity).Whole tier := by
  have reflected := whole.reflectDiscounted inScope inForce
  exact ⟨reflected.quotations, reflected.unitPrice, reflected.discountedUnitPrice,
    reflected.unitPrice.mul_left quantity, reflected.discountedUnitPrice.mul_left quantity⟩

end QuotedPrices

/-! ### Packages -/

/-- The quotations of the service package are whole. -/
structure ServicePackage.Whole (servicePackage : ServicePackage) : Prop where
  consumer : ∀ quotation ∈ servicePackage.consumerQuotations, IsWhole quotation.unitPrice
  serviceProvider : ∀ quotation ∈ servicePackage.serviceProviderQuotations,
    IsWhole quotation.unitPrice

namespace RequestedServicePackage

variable {package : RequestedServicePackage}

/-- The prices of both sides are whole. -/
structure Whole (package : RequestedServicePackage) : Prop where
  consumer : package.consumerQuotation.Whole id
  serviceProvider : package.serviceProviderQuotation.Whole (·.toConsumerQuotation)

theorem whole_unpriced {servicePackage : ServicePackage} (whole : servicePackage.Whole)
    (customerAddressState : String) : (unpriced customerAddressState servicePackage).Whole where
  consumer := QuotedPrices.whole_ofQuotations whole.consumer
  serviceProvider := QuotedPrices.whole_ofQuotations whole.serviceProvider

theorem Whole.reprice (whole : package.Whole) (toUpperCase : String → String)
    (inForce : QuantityInForce) : (package.reprice toUpperCase inForce).Whole where
  consumer := whole.consumer.reprice _ inForce package.quantity
  serviceProvider := whole.serviceProvider.reprice _ inForce package.quantity

theorem Whole.reviseFromNewQuotations (whole : package.Whole) (toUpperCase : String → String)
    (servicePackage : ServicePackage) (quantity : Int) :
    (package.reviseFromNewQuotations toUpperCase servicePackage quantity).Whole := by
  have original : (package.changeServicePackage toUpperCase servicePackage).Whole := by
    rw [changeServicePackage_eq]
    exact ⟨whole.consumer.reflectOriginal _ _, whole.serviceProvider.reflectOriginal _ _⟩
  rw [RequestedServicePackage.reviseFromNewQuotations, changeQuantity_eq]
  exact ⟨original.consumer.reprice _ _ _, original.serviceProvider.reprice _ _ _⟩

theorem Whole.changeServicePackageGroupQuantity (whole : package.Whole)
    (toUpperCase : String → String) (groups : GroupQuantities) :
    (package.changeServicePackageGroupQuantity toUpperCase groups).Whole := by
  unfold RequestedServicePackage.changeServicePackageGroupQuantity
  dsimp only
  split
  · exact ⟨whole.consumer, whole.serviceProvider⟩
  · refine Whole.reprice ?_ toUpperCase _
    exact ⟨whole.consumer, whole.serviceProvider⟩

end RequestedServicePackage

/-- A total over amounts that are whole. -/
theorem isWhole_calculate {amount : RequestedServicePackage → Money}
    {packages : List RequestedServicePackage}
    (whole : ∀ package ∈ packages, IsWhole (amount package)) :
    IsWhole (calculate amount packages) := by
  rw [CustomerOrder.calculate_eq_sum]
  induction packages with
  | nil => exact isWhole_zero
  | cons package rest inductionHypothesis =>
    rw [List.forall_mem_cons] at whole
    rw [List.map_cons, List.sum_cons]
    exact whole.1.add (inductionHypothesis whole.2)

end FieldService.Orders
