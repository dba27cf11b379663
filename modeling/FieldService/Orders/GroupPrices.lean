/-
This file says how the packages of a group are priced once they have been put together.

Two quantities meet in such a package. The tier is looked up for the sum of the quantities of the
group, and the totals multiply its price by the package's own quantity. The sums come from one pass
over the packages (`groupQuantities_eq_groupQuantity`) and are read in a second one, so that
neither depends on the order of the packages.
-/

import FieldService.Orders.Order
import FieldService.Orders.Tiers

namespace FieldService.Orders

open RequestedServicePackage

/-! ### The provider's tiers -/

def RequestedServicePackage.lowestServiceProviderQuotationTierBasedOnQuantity
    (toUpperCase : String → String) (package : RequestedServicePackage) (quantity : Int)
    (customerAddressState : String) : Option ServiceProviderQuotation :=
  package.serviceProviderQuotation.lookUp (·.toConsumerQuotation)
    (isForState toUpperCase customerAddressState) (.number quantity)

/-- Repricing sets the price of the tier that is looked up. -/
theorem QuotedPrices.discountedUnitPrice_of_lookUp {Quotation : Type}
    {tier : Quotation → ConsumerQuotation} {inScope : Quotation → Bool}
    {inForce : QuantityInForce} {prices : QuotedPrices Quotation} {selected : Quotation}
    (found : prices.lookUp tier inScope inForce = some selected) (quantity : Int) :
    (prices.reprice tier inScope inForce quantity).discountedUnitPrice =
      (tier selected).unitPrice := by
  obtain ⟨quotations, known, search⟩ := Option.bind_eq_some_iff.mp found
  rw [discountedUnitPrice_reprice known, selectedPrice, search]
  rfl

/-! ### The sum of a group -/

/-- The sum of the quantities of all packages with the code. -/
def groupQuantity (packages : List RequestedServicePackage) (code : String) : Int :=
  Grouping.sumWhere (fun package => package.servicePackageGroupCode = some code) (·.quantity)
    packages

theorem foldl_add_eq (packages : List RequestedServicePackage) (groups : GroupQuantities)
    (code : String) :
    packages.foldl GroupQuantities.add groups code =
      groups code +
        Grouping.sumWhere (fun package => package.groupKey = code) (·.quantity) packages := by
  induction packages generalizing groups with
  | nil => exact (add_zero _).symm
  | cons package rest inductionHypothesis =>
    rw [List.foldl_cons, inductionHypothesis, Grouping.sumWhere_cons, ← add_assoc]
    refine congrArg (· + _) ?_
    rw [GroupQuantities.add]
    by_cases counted : package.groupKey = code
    · rw [if_pos counted.symm, if_pos (decide_eq_true counted)]
    · rw [if_neg (Ne.symm counted), if_neg (by simpa using counted), add_zero]

/-- A code that is not the text of a missing one is counted for the packages that have it. -/
theorem groupQuantities_eq_groupQuantity (packages : List RequestedServicePackage) {code : String}
    (plain : code ≠ "null") : groupQuantities packages code = groupQuantity packages code := by
  rw [groupQuantities, foldl_add_eq, zero_add]
  refine Grouping.sumWhere_congr _ fun package _ => ?_
  refine decide_eq_decide.mpr ?_
  unfold groupKey
  cases package.servicePackageGroupCode with
  | none => exact iff_of_false (Ne.symm plain) (by simp)
  | some own => rw [Option.getD_some, Option.some.injEq]

/-! ### Prices of a group -/

/-- A text that names a group, and is not read as something else. -/
def PlainCode (code : String) : Prop :=
  code ≠ "null" ∧ code ≠ "undefined" ∧ code ∉ builtinProperties

/-- Both sides have the price of the tier for a quantity in force, and totals for the own one. -/
structure PricedAt (toUpperCase : String → String) (quantity : Int)
    (before after : RequestedServicePackage) : Prop where
  consumerPrice : ∀ selected,
    before.lowestConsumerQuotationTierBasedOnQuantity quantity = some selected →
      after.consumerQuotation.discountedUnitPrice = selected.unitPrice
  consumerTotal : after.consumerQuotation.total =
    before.quantity * after.consumerQuotation.discountedUnitPrice
  serviceProviderPrice : ∀ selected,
    before.lowestServiceProviderQuotationTierBasedOnQuantity toUpperCase quantity
        before.serviceProviderQuotationState = some selected →
      after.serviceProviderQuotation.discountedUnitPrice = selected.unitPrice
  serviceProviderTotal : after.serviceProviderQuotation.total =
    before.quantity * after.serviceProviderQuotation.discountedUnitPrice

theorem pricedAt_reprice (toUpperCase : String → String) (quantity : Int)
    (package : RequestedServicePackage) :
    PricedAt toUpperCase quantity package (package.reprice toUpperCase (.number quantity)) where
  consumerPrice _ found := QuotedPrices.discountedUnitPrice_of_lookUp found package.quantity
  consumerTotal := rfl
  serviceProviderPrice _ found := QuotedPrices.discountedUnitPrice_of_lookUp found package.quantity
  serviceProviderTotal := rfl

/-- A package takes over a positive quantity of its group. -/
theorem pricedAt_changeServicePackageGroupQuantity (toUpperCase : String → String)
    {package : RequestedServicePackage} {groups : GroupQuantities} {code : String}
    (grouped : package.servicePackageGroupCode = some code) (nonempty : code ≠ "")
    (plain : code ∉ builtinProperties) (positive : 0 < groups code) :
    PricedAt toUpperCase (groups code) package
      (package.changeServicePackageGroupQuantity toUpperCase groups) := by
  have reads : groups.read code = .number (groups code) := by
    rw [GroupQuantities.read, if_neg (by simpa using plain)]
  have counts : ¬(code = "" ∨ groups.read code = .number 0) := by
    rintro (empty | zero)
    · exact nonempty empty
    · rw [reads, QuantityInForce.number.injEq] at zero
      exact positive.ne' zero
  have atLeast : (groups.read code).atLeastZero = .number (groups code) := by
    rw [reads, QuantityInForce.atLeastZero, if_neg positive.not_gt]
  have known : package.servicePackageGroupCode.getD "" = code := by rw [grouped, Option.getD_some]
  unfold changeServicePackageGroupQuantity
  simp only [known, if_neg counts, atLeast]
  obtain ⟨consumerPrice, consumerTotal, serviceProviderPrice, serviceProviderTotal⟩ :=
    pricedAt_reprice toUpperCase (groups code)
      { package with servicePackageGroupQuantity := some (.number (groups code)) }
  exact ⟨consumerPrice, consumerTotal, serviceProviderPrice, serviceProviderTotal⟩

/-- However the packages are listed, those of a group are priced for the sum of its quantities. -/
theorem bundled_pricedAt (toUpperCase : String → String) (remarks : Option String)
    (packages : List RequestedServicePackage) (appliedPromotion : Option ApplyPromoCodeResult)
    (plain : ∀ package ∈ packages, ∀ code, package.servicePackageGroupCode = some code →
      PlainCode code) :
    ∃ bundled : RequestedServicePackage → RequestedServicePackage,
      (∀ listed, packages.Perm listed → ∃ order,
        CustomerOrder.create toUpperCase (some remarks) listed appliedPromotion = some order ∧
          order.servicePackages = listed.map bundled) ∧
      ∀ package ∈ packages, ∀ code, package.servicePackageGroupCode = some code → code ≠ "" →
        0 < groupQuantity packages code →
          PricedAt toUpperCase (groupQuantity packages code) package (bundled package) := by
  refine ⟨fun package =>
    package.changeServicePackageGroupQuantity toUpperCase (groupQuantities packages), ?_, ?_⟩
  · intro listed permuted
    refine ⟨_, rfl, ?_⟩
    rw [CustomerOrder.build_servicePackages, bundleByServicePackageGroupCodes,
      groupQuantities_perm permuted]
  · intro package member code grouped nonempty positive
    obtain ⟨notNull, -, notBuiltin⟩ := plain package member code grouped
    rw [← groupQuantities_eq_groupQuantity packages notNull] at positive ⊢
    exact pricedAt_changeServicePackageGroupQuantity toUpperCase grouped nonempty notBuiltin
      positive

/-- A number of units of one package, with a tier from three units on. -/
def exampleUnits (quantity : Int) : RequestedServicePackage :=
  (unpriced "SELANGOR" (exampleTieredPackage [⟨1, 120⟩, ⟨3, 100⟩] [])).reviseFromNewQuotations id
    (exampleTieredPackage [⟨1, 120⟩, ⟨3, 100⟩] []) quantity

/-- One unit and two are priced as three. -/
theorem bundled_pricedAt_three :
    ∃ order, CustomerOrder.create id (some none) [exampleUnits 1, exampleUnits 2] none =
        some order ∧
      order.servicePackages.map (·.consumerQuotation.discountedUnitPrice) = [100, 100] := by
  have plain : ∀ package ∈ [exampleUnits 1, exampleUnits 2], ∀ code,
      package.servicePackageGroupCode = some code → PlainCode code := by
    intro package member code grouped
    have same : package.servicePackageGroupCode = some "wash" := by
      obtain rfl | other := List.mem_cons.mp member
      · rfl
      · rw [List.mem_singleton.mp other]
        rfl
    obtain rfl := Option.some.inj (same.symm.trans grouped)
    exact ⟨by decide, by decide, by decide⟩
  obtain ⟨bundled, listing, priced⟩ :=
    bundled_pricedAt id none [exampleUnits 1, exampleUnits 2] none plain
  have positive : 0 < groupQuantity [exampleUnits 1, exampleUnits 2] "wash" := by decide +kernel
  have one := (priced (exampleUnits 1) List.mem_cons_self "wash" rfl (by decide)
    positive).consumerPrice ⟨3, 100⟩ (by decide +kernel)
  have two := (priced (exampleUnits 2) (List.mem_cons_of_mem _ List.mem_cons_self) "wash" rfl
    (by decide) positive).consumerPrice ⟨3, 100⟩ (by decide +kernel)
  obtain ⟨order, created, servicePackages⟩ := listing _ (List.Perm.refl _)
  refine ⟨order, created, ?_⟩
  rw [servicePackages]
  show [(bundled (exampleUnits 1)).consumerQuotation.discountedUnitPrice,
    (bundled (exampleUnits 2)).consumerQuotation.discountedUnitPrice] = [100, 100]
  rw [one, two]

end FieldService.Orders
