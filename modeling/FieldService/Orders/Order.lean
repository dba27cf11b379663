/-
This file settles the accounting of a customer order.

An order is never changed but rebuilt: its constructor puts the packages together in groups, which
reprices them, and adds up what comes out. The promotion is carried from one order to the
next in two of its fields, which are only set when the discount is positive. Putting packages
together that have been put together before changes nothing, so an order that is rebuilt from
itself is the same order.
-/

import Mathlib.Algebra.BigOperators.Group.List.Basic
import Mathlib.Algebra.Ring.Rat
import Mathlib.Data.List.Perm.Basic
import Mathlib.Tactic.Ring
import Mathlib.Tactic.SplitIfs
import FieldService.Orders.Packages
import FieldService.Library.Execution
import FieldService.Library.Grouping

namespace FieldService.Orders

open Execution

/-! ### Groups of packages -/

/-- `groups[code] += quantity`. -/
def GroupQuantities.add (groups : GroupQuantities) (package : RequestedServicePackage) :
    GroupQuantities := fun code =>
  if code = package.groupKey then groups code + package.quantity else groups code

def groupQuantities (packages : List RequestedServicePackage) : GroupQuantities :=
  packages.foldl GroupQuantities.add fun _ => 0

def bundleByServicePackageGroupCodes (toUpperCase : String → String)
    (packages : List RequestedServicePackage) : List RequestedServicePackage :=
  packages.map fun package =>
    package.changeServicePackageGroupQuantity toUpperCase (groupQuantities packages)

theorem GroupQuantities.add_comm (groups : GroupQuantities)
    (first second : RequestedServicePackage) :
    (groups.add first).add second = (groups.add second).add first := by
  funext code
  simp only [add]
  split_ifs
  · exact add_right_comm _ _ _
  · rfl
  · rfl
  · rfl

theorem groupQuantities_perm {first second : List RequestedServicePackage}
    (permuted : first.Perm second) : groupQuantities first = groupQuantities second :=
  permuted.foldl_eq' (fun first _ second _ groups => groups.add_comm first second) _

/-- The sums of the groups are those of packages that keep their codes and quantities. -/
theorem groupQuantities_map_of_same {change : RequestedServicePackage → RequestedServicePackage}
    {packages : List RequestedServicePackage}
    (same : ∀ package ∈ packages, (change package).groupKey = package.groupKey ∧
      (change package).quantity = package.quantity) :
    groupQuantities (packages.map change) = groupQuantities packages := by
  rw [groupQuantities, List.foldl_map]
  refine List.foldl_ext _ _ _ fun counted package member => ?_
  obtain ⟨sameKey, sameQuantity⟩ := same package member
  funext code
  rw [GroupQuantities.add, GroupQuantities.add, sameKey, sameQuantity]

/-- The quantities of the groups are not changed by putting the packages together. -/
theorem groupQuantities_map (toUpperCase : String → String) (groups : GroupQuantities)
    (packages : List RequestedServicePackage) :
    groupQuantities (packages.map fun package =>
      package.changeServicePackageGroupQuantity toUpperCase groups) =
        groupQuantities packages :=
  groupQuantities_map_of_same fun package _ =>
    ⟨package.changeServicePackageGroupQuantity_groupKey toUpperCase groups,
      package.changeServicePackageGroupQuantity_quantity toUpperCase groups⟩

theorem bundle_perm (toUpperCase : String → String)
    {first second : List RequestedServicePackage} (permuted : first.Perm second) :
    (bundleByServicePackageGroupCodes toUpperCase first).Perm
      (bundleByServicePackageGroupCodes toUpperCase second) := by
  rw [bundleByServicePackageGroupCodes, bundleByServicePackageGroupCodes,
    groupQuantities_perm permuted]
  exact permuted.map _

/-- Packages that have been put together stay as they are when they are put together again. -/
theorem bundle_twice (toUpperCase : String → String) (packages : List RequestedServicePackage) :
    bundleByServicePackageGroupCodes toUpperCase
        (bundleByServicePackageGroupCodes toUpperCase packages) =
      bundleByServicePackageGroupCodes toUpperCase packages := by
  simp only [bundleByServicePackageGroupCodes, groupQuantities_map, List.map_map,
    Function.comp_def, RequestedServicePackage.changeServicePackageGroupQuantity_twice]

/-! ### Orders -/

/-- What the promotion module answers. Both fields are missing when an order without a promotion
is rebuilt. -/
structure ApplyPromoCodeResult where
  code : Option String
  discountedAmount : Option Money
  deriving DecidableEq, Repr

/-- The discount, if there is one and it is positive. -/
def ApplyPromoCodeResult.positiveDiscount (applied : ApplyPromoCodeResult) : Option Money :=
  applied.discountedAmount.filter (0 < ·)

structure CustomerOrder where
  remarks : Option String
  servicePackages : List RequestedServicePackage
  consumerDiscountAmount : Money
  consumerSubTotal : Money
  consumerTotal : Money
  consumerPromotionCode : Option String
  consumerPromotionAmount : Option Money
  serviceProviderDiscountAmount : Money
  serviceProviderSubTotal : Money
  serviceProviderTotal : Money
  serviceTypesEntitlement : Int
  haveCompletedAllTechnicalReports : Bool
  deriving DecidableEq, Repr

/-- A sum over the packages, as each of the six totals is calculated. -/
def calculate (amount : RequestedServicePackage → Money)
    (servicePackages : List RequestedServicePackage) : Money :=
  servicePackages.foldl (fun total package => total + amount package) 0

def calculateConsumerDiscountAmount : List RequestedServicePackage → Money :=
  calculate (·.consumerQuotation.discountAmount)

def calculateConsumerSubTotal : List RequestedServicePackage → Money :=
  calculate (·.consumerQuotation.subTotal)

def calculateConsumerTotal : List RequestedServicePackage → Money :=
  calculate (·.consumerQuotation.total)

def calculateServiceProviderDiscountAmount : List RequestedServicePackage → Money :=
  calculate (·.serviceProviderQuotation.discountAmount)

def calculateServiceProviderSubTotal : List RequestedServicePackage → Money :=
  calculate (·.serviceProviderQuotation.subTotal)

def calculateServiceProviderTotal : List RequestedServicePackage → Money :=
  calculate (·.serviceProviderQuotation.total)

def calculateServiceTypesEntitlement (servicePackages : List RequestedServicePackage) : Int :=
  servicePackages.foldl
    (fun entitlement package => bitwiseOr entitlement package.serviceTypesEntitlement) 0

def calculateTechnicalReportsCompletion (servicePackages : List RequestedServicePackage) : Bool :=
  servicePackages.all (·.hasTechnicalReportCompleted)

namespace CustomerOrder

variable (toUpperCase : String → String)

/-- The order of packages that have been put together, before a promotion. -/
def ofPackages (remarks : Option String) (servicePackages : List RequestedServicePackage) :
    CustomerOrder where
  remarks := remarks
  servicePackages := servicePackages
  consumerDiscountAmount := calculateConsumerDiscountAmount servicePackages
  consumerSubTotal := calculateConsumerSubTotal servicePackages
  consumerTotal := calculateConsumerTotal servicePackages
  consumerPromotionCode := none
  consumerPromotionAmount := none
  serviceProviderDiscountAmount := calculateServiceProviderDiscountAmount servicePackages
  serviceProviderSubTotal := calculateServiceProviderSubTotal servicePackages
  serviceProviderTotal := calculateServiceProviderTotal servicePackages
  serviceTypesEntitlement := calculateServiceTypesEntitlement servicePackages
  haveCompletedAllTechnicalReports := calculateTechnicalReportsCompletion servicePackages

/-- The order with a promotion, which only counts when its discount is positive. -/
def discounted (order : CustomerOrder) (applied : ApplyPromoCodeResult) : CustomerOrder :=
  match applied.positiveDiscount with
  | none => order
  | some discountedAmount =>
    { order with
      consumerPromotionCode := applied.code
      consumerPromotionAmount := some discountedAmount
      consumerTotal := order.consumerTotal - discountedAmount }

/-- The constructor, past the check that the remarks are defined. -/
def build (remarks : Option String) (requestedServicePackages : List RequestedServicePackage)
    (appliedPromotion : Option ApplyPromoCodeResult) : CustomerOrder :=
  let order := ofPackages remarks
    (bundleByServicePackageGroupCodes toUpperCase requestedServicePackages)
  match appliedPromotion with
  | none => order
  | some applied => order.discounted applied

/-- `new CustomerOrder`. Remarks can be undefined, null or a text; when they are undefined no field
is set. -/
def create (remarks : Option (Option String))
    (requestedServicePackages : List RequestedServicePackage)
    (appliedPromotion : Option ApplyPromoCodeResult) : Option CustomerOrder :=
  remarks.map fun remarks => build toUpperCase remarks requestedServicePackages appliedPromotion

variable (order : CustomerOrder)

def reviseRequestedServicePackages (servicePackages : List RequestedServicePackage) :
    CustomerOrder :=
  build toUpperCase order.remarks servicePackages
    (some ⟨order.consumerPromotionCode, order.consumerPromotionAmount⟩)

def applyPromotion (appliedPromotion : Option ApplyPromoCodeResult) : CustomerOrder :=
  build toUpperCase order.remarks order.servicePackages appliedPromotion

def reset : CustomerOrder :=
  order.reviseRequestedServicePackages toUpperCase order.servicePackages

end CustomerOrder

/-- What is done with an order. -/
inductive OrderOperation where
  | applyPromotion (appliedPromotion : Option ApplyPromoCodeResult)
  | reviseRequestedServicePackages (servicePackages : List RequestedServicePackage)
  | reset

def CustomerOrder.perform (toUpperCase : String → String) (order : CustomerOrder) :
    OrderOperation → CustomerOrder
  | .applyPromotion appliedPromotion => order.applyPromotion toUpperCase appliedPromotion
  | .reviseRequestedServicePackages servicePackages =>
    order.reviseRequestedServicePackages toUpperCase servicePackages
  | .reset => order.reset toUpperCase

/-! ### The promotion that stands -/

/-- The promotion that was applied last. -/
def standingPromotion (appliedPromotion : Option ApplyPromoCodeResult) :
    List OrderOperation → Option ApplyPromoCodeResult
  | [] => appliedPromotion
  | .applyPromotion applied :: rest => standingPromotion applied rest
  | .reviseRequestedServicePackages _ :: rest => standingPromotion appliedPromotion rest
  | .reset :: rest => standingPromotion appliedPromotion rest

/-- What a promotion takes off: its discount when positive. -/
def promotionDiscount : Option ApplyPromoCodeResult → Money
  | none => 0
  | some applied => applied.positiveDiscount.getD 0

/-- Two operations that only differ in the order of packages. -/
inductive SameUpToOrder : OrderOperation → OrderOperation → Prop where
  | applyPromotion (appliedPromotion : Option ApplyPromoCodeResult) :
    SameUpToOrder (.applyPromotion appliedPromotion) (.applyPromotion appliedPromotion)
  | reviseRequestedServicePackages {first second : List RequestedServicePackage}
      (permuted : first.Perm second) :
    SameUpToOrder (.reviseRequestedServicePackages first) (.reviseRequestedServicePackages second)
  | reset : SameUpToOrder .reset .reset

namespace CustomerOrder

variable (toUpperCase : String → String)

/-- No promotion is one without a discount. -/
theorem build_eq (remarks : Option String) (servicePackages : List RequestedServicePackage)
    (appliedPromotion : Option ApplyPromoCodeResult) :
    build toUpperCase remarks servicePackages appliedPromotion =
      (ofPackages remarks (bundleByServicePackageGroupCodes toUpperCase servicePackages)).discounted
        (appliedPromotion.getD ⟨none, none⟩) := by
  cases appliedPromotion <;> rfl

@[simp]
theorem discounted_remarks (order : CustomerOrder) (applied : ApplyPromoCodeResult) :
    (order.discounted applied).remarks = order.remarks := by
  unfold discounted
  split <;> rfl

@[simp]
theorem discounted_servicePackages (order : CustomerOrder) (applied : ApplyPromoCodeResult) :
    (order.discounted applied).servicePackages = order.servicePackages := by
  unfold discounted
  split <;> rfl

@[simp]
theorem build_remarks (remarks : Option String) (servicePackages : List RequestedServicePackage)
    (appliedPromotion : Option ApplyPromoCodeResult) :
    (build toUpperCase remarks servicePackages appliedPromotion).remarks = remarks := by
  rw [build_eq, discounted_remarks]
  rfl

@[simp]
theorem build_servicePackages (remarks : Option String)
    (servicePackages : List RequestedServicePackage)
    (appliedPromotion : Option ApplyPromoCodeResult) :
    (build toUpperCase remarks servicePackages appliedPromotion).servicePackages =
      bundleByServicePackageGroupCodes toUpperCase servicePackages := by
  rw [build_eq, discounted_servicePackages]
  rfl

theorem discounted_of_some (order : CustomerOrder) {applied : ApplyPromoCodeResult}
    {discountedAmount : Money} (counts : applied.positiveDiscount = some discountedAmount) :
    order.discounted applied =
      { order with
        consumerPromotionCode := applied.code
        consumerPromotionAmount := some discountedAmount
        consumerTotal := order.consumerTotal - discountedAmount } := by
  rw [discounted, counts]

/-- What an order carries of its promotion counts like the promotion. -/
theorem discounted_carried (remarks : Option String)
    (servicePackages : List RequestedServicePackage) (order : CustomerOrder)
    (applied : ApplyPromoCodeResult) :
    order.discounted
        ⟨((ofPackages remarks servicePackages).discounted applied).consumerPromotionCode,
          ((ofPackages remarks servicePackages).discounted applied).consumerPromotionAmount⟩ =
      order.discounted applied := by
  rcases counts : applied.positiveDiscount with _ | discountedAmount
  · simp only [discounted, counts]
    rfl
  · have positive : 0 < discountedAmount :=
      of_decide_eq_true (Option.filter_eq_some_iff.mp counts).2
    have carried : (⟨applied.code, some discountedAmount⟩ :
        ApplyPromoCodeResult).positiveDiscount = some discountedAmount :=
      Option.filter_eq_some_iff.mpr ⟨rfl, decide_eq_true positive⟩
    rw [discounted_of_some _ counts, discounted_of_some _ counts, discounted_of_some _ carried]

/-- An order that is revised is built from the packages with the same promotion. -/
theorem revise_build (remarks : Option String)
    (servicePackages revised : List RequestedServicePackage)
    (appliedPromotion : Option ApplyPromoCodeResult) :
    (build toUpperCase remarks servicePackages appliedPromotion).reviseRequestedServicePackages
        toUpperCase revised =
      build toUpperCase remarks revised appliedPromotion := by
  rw [reviseRequestedServicePackages, build_remarks, build_eq _ _ servicePackages, build_eq,
    build_eq, Option.getD_some, discounted_carried]

/-- An order that is reset is the same order. -/
theorem reset_build (remarks : Option String) (servicePackages : List RequestedServicePackage)
    (appliedPromotion : Option ApplyPromoCodeResult) :
    (build toUpperCase remarks servicePackages appliedPromotion).reset toUpperCase =
      build toUpperCase remarks servicePackages appliedPromotion := by
  rw [reset, revise_build, build_servicePackages, build_eq, bundle_twice, ← build_eq]

/-- Operations that only differ in the order of packages lead to orders built from packages that
only differ in their order, with the promotion that stands. -/
theorem run_build {operations others : List OrderOperation}
    (same : List.Forall₂ SameUpToOrder operations others) (remarks : Option String)
    {first second : List RequestedServicePackage} (permuted : first.Perm second)
    (appliedPromotion : Option ApplyPromoCodeResult) :
    ∃ firstLast secondLast : List RequestedServicePackage, firstLast.Perm secondLast ∧
      run (perform toUpperCase) (build toUpperCase remarks first appliedPromotion) operations =
        build toUpperCase remarks firstLast (standingPromotion appliedPromotion operations) ∧
      run (perform toUpperCase) (build toUpperCase remarks second appliedPromotion) others =
        build toUpperCase remarks secondLast (standingPromotion appliedPromotion operations) := by
  induction same generalizing first second appliedPromotion with
  | nil => exact ⟨first, second, permuted, rfl, rfl⟩
  | cons alike rest inductionHypothesis =>
    simp only [run_cons]
    cases alike with
    | applyPromotion applied =>
      simp only [perform, applyPromotion, build_remarks, build_servicePackages]
      exact inductionHypothesis (bundle_perm toUpperCase permuted) applied
    | reviseRequestedServicePackages revised =>
      simp only [perform, revise_build]
      exact inductionHypothesis revised appliedPromotion
    | reset =>
      simp only [perform, reset_build]
      exact inductionHypothesis permuted appliedPromotion

/-! ### Accounting -/

/-- The six totals of an order. -/
structure Totals where
  consumerDiscountAmount : Money
  consumerSubTotal : Money
  consumerTotal : Money
  serviceProviderDiscountAmount : Money
  serviceProviderSubTotal : Money
  serviceProviderTotal : Money
  deriving DecidableEq, Repr

def totals (order : CustomerOrder) : Totals :=
  ⟨order.consumerDiscountAmount, order.consumerSubTotal, order.consumerTotal,
    order.serviceProviderDiscountAmount, order.serviceProviderSubTotal, order.serviceProviderTotal⟩

/-- The totals follow from the packages and the discount of the promotion. -/
structure Accounts (order : CustomerOrder) (discount : Money) : Prop where
  consumer : order.consumerTotal =
    (order.servicePackages.map (·.consumerQuotation.subTotal)).sum -
      (order.servicePackages.map (·.consumerQuotation.discountAmount)).sum - discount
  serviceProvider : order.serviceProviderTotal =
    order.serviceProviderSubTotal - order.serviceProviderDiscountAmount

theorem calculate_eq_sum (amount : RequestedServicePackage → Money)
    (servicePackages : List RequestedServicePackage) :
    calculate amount servicePackages = (servicePackages.map amount).sum :=
  Grouping.foldl_add_eq_sum amount servicePackages

theorem calculate_perm (amount : RequestedServicePackage → Money)
    {first second : List RequestedServicePackage} (permuted : first.Perm second) :
    calculate amount first = calculate amount second := by
  rw [calculate_eq_sum, calculate_eq_sum]
  exact (permuted.map amount).sum_eq

/-- Each side's total is what is left of its sub-total after its discount. -/
theorem calculate_balanced {Quotation : Type}
    (side : RequestedServicePackage → QuotedPrices Quotation)
    (servicePackages : List RequestedServicePackage) :
    calculate (fun package => (side package).total) servicePackages =
      calculate (fun package => (side package).subTotal) servicePackages -
        calculate (fun package => (side package).discountAmount) servicePackages := by
  simp only [calculate_eq_sum]
  induction servicePackages with
  | nil => simp only [List.map_nil, List.sum_nil, sub_self]
  | cons package rest inductionHypothesis =>
    simp only [List.map_cons, List.sum_cons, inductionHypothesis, (side package).balanced]
    ring

/-- A promotion changes none of the totals but the consumer's. -/
theorem totals_discounted (order : CustomerOrder) (applied : ApplyPromoCodeResult) :
    (order.discounted applied).totals =
      { order.totals with
        consumerTotal := order.consumerTotal - promotionDiscount (some applied) } := by
  rw [promotionDiscount]
  rcases counts : applied.positiveDiscount with _ | discountedAmount
  · rw [discounted, counts, Option.getD_none, sub_zero]
    rfl
  · rw [discounted_of_some _ counts]
    rfl

theorem totals_build (remarks : Option String) (servicePackages : List RequestedServicePackage)
    (appliedPromotion : Option ApplyPromoCodeResult) :
    (build toUpperCase remarks servicePackages appliedPromotion).totals =
      let order := ofPackages remarks (bundleByServicePackageGroupCodes toUpperCase servicePackages)
      { order.totals with
        consumerTotal := order.consumerTotal - promotionDiscount appliedPromotion } := by
  rw [build_eq, totals_discounted]
  cases appliedPromotion <;> rfl

/-- The total is that of the packages put together, less the promotion. -/
theorem build_consumerTotal (remarks : Option String)
    (servicePackages : List RequestedServicePackage)
    (appliedPromotion : Option ApplyPromoCodeResult) :
    (build toUpperCase remarks servicePackages appliedPromotion).consumerTotal =
      calculateConsumerTotal (bundleByServicePackageGroupCodes toUpperCase servicePackages) -
        promotionDiscount appliedPromotion :=
  congrArg Totals.consumerTotal
    (totals_build toUpperCase remarks servicePackages appliedPromotion)

/-- The totals of an order do not depend on the order of its packages. -/
theorem totals_build_perm (remarks : Option String)
    {first second : List RequestedServicePackage} (permuted : first.Perm second)
    (appliedPromotion : Option ApplyPromoCodeResult) :
    (build toUpperCase remarks first appliedPromotion).totals =
      (build toUpperCase remarks second appliedPromotion).totals := by
  have bundled := bundle_perm toUpperCase permuted
  have same : ∀ amount, calculate amount (bundleByServicePackageGroupCodes toUpperCase first) =
      calculate amount (bundleByServicePackageGroupCodes toUpperCase second) := fun amount =>
    calculate_perm amount bundled
  rw [totals_build, totals_build]
  simp only [totals, ofPackages, calculateConsumerDiscountAmount, calculateConsumerSubTotal,
    calculateConsumerTotal, calculateServiceProviderDiscountAmount,
    calculateServiceProviderSubTotal, calculateServiceProviderTotal, same]

theorem build_accounts (remarks : Option String) (servicePackages : List RequestedServicePackage)
    (appliedPromotion : Option ApplyPromoCodeResult) :
    (build toUpperCase remarks servicePackages appliedPromotion).Accounts
      (promotionDiscount appliedPromotion) := by
  have built := totals_build toUpperCase remarks servicePackages appliedPromotion
  have consumerTotal := congrArg Totals.consumerTotal built
  have subTotal := congrArg Totals.serviceProviderSubTotal built
  have discountAmount := congrArg Totals.serviceProviderDiscountAmount built
  have total := congrArg Totals.serviceProviderTotal built
  dsimp only [totals, ofPackages] at consumerTotal subTotal discountAmount total
  constructor
  · rw [consumerTotal, calculateConsumerTotal, calculate_balanced (·.consumerQuotation),
      calculate_eq_sum, calculate_eq_sum, build_servicePackages]
  · rw [total, subTotal, discountAmount]
    exact calculate_balanced (·.serviceProviderQuotation) _

/-- An order is accounted for from its packages and the promotion that stands, whatever has been
done with it. Neither the order of packages nor a reset changes its totals. -/
theorem accounting (remarks : Option String) (servicePackages : List RequestedServicePackage)
    (appliedPromotion : Option ApplyPromoCodeResult) (operations : List OrderOperation) :
    ∃ created, create toUpperCase (some remarks) servicePackages appliedPromotion = some created ∧
      let order := run (perform toUpperCase) created operations
      order.Accounts (promotionDiscount (standingPromotion appliedPromotion operations)) ∧
      (order.reset toUpperCase).totals = order.totals ∧
      ∀ permuted permutedOperations, servicePackages.Perm permuted →
        List.Forall₂ SameUpToOrder operations permutedOperations →
          ∃ other, create toUpperCase (some remarks) permuted appliedPromotion = some other ∧
            (run (perform toUpperCase) other permutedOperations).totals = order.totals := by
  have itself : List.Forall₂ SameUpToOrder operations operations := by
    refine List.forall₂_same.mpr fun operation _ => ?_
    cases operation with
    | applyPromotion applied => exact .applyPromotion applied
    | reviseRequestedServicePackages revised => exact .reviseRequestedServicePackages (.refl _)
    | reset => exact .reset
  obtain ⟨last, -, -, isLast, -⟩ := run_build toUpperCase itself remarks (.refl servicePackages)
    appliedPromotion
  refine ⟨_, rfl, ?_, ?_, ?_⟩
  · rw [isLast]
    exact build_accounts toUpperCase remarks last _
  · rw [isLast, reset_build]
  · intro permuted permutedOperations permutes same
    obtain ⟨first, second, lastPermuted, isFirst, isSecond⟩ :=
      run_build toUpperCase same remarks permutes appliedPromotion
    refine ⟨_, rfl, ?_⟩
    rw [isFirst, isSecond]
    exact (totals_build_perm toUpperCase remarks lastPermuted _).symm

end CustomerOrder

end FieldService.Orders
