/-
This file models what is stored of an order, and what is done with it.

An order is a row, and its packages are rows of their own. An operation reads both, changes
packages, and rebuilds the order from them, and the row of the order is written again. Its amounts
are rounded as they are written, the promotion like all others, which is then read again when the
order is rebuilt.
-/

import FieldService.Library.Table
import FieldService.Orders.Patching
import FieldService.Orders.Quantities
import FieldService.Orders.WholePrices

namespace FieldService.Orders

/-! ### What is stored -/

/-- The columns of an order. -/
structure OrderRow where
  remarks : Option String
  totals : CustomerOrder.Totals
  consumerPromotionCode : Option String
  consumerPromotionAmount : Option Money
  serviceTypesEntitlement : Int
  haveCompletedAllTechnicalReports : Bool
  deriving DecidableEq, Repr

def CustomerOrder.Totals.toColumns (totals : CustomerOrder.Totals) : CustomerOrder.Totals where
  consumerDiscountAmount := toColumn totals.consumerDiscountAmount
  consumerSubTotal := toColumn totals.consumerSubTotal
  consumerTotal := toColumn totals.consumerTotal
  serviceProviderDiscountAmount := toColumn totals.serviceProviderDiscountAmount
  serviceProviderSubTotal := toColumn totals.serviceProviderSubTotal
  serviceProviderTotal := toColumn totals.serviceProviderTotal

def CustomerOrder.row (order : CustomerOrder) : OrderRow where
  remarks := order.remarks
  totals := order.totals.toColumns
  consumerPromotionCode := order.consumerPromotionCode
  consumerPromotionAmount := order.consumerPromotionAmount.map toColumn
  serviceTypesEntitlement := order.serviceTypesEntitlement
  haveCompletedAllTechnicalReports := order.haveCompletedAllTechnicalReports

/-- The row once an order has been saved in it. Fields that are undefined, as those of a promotion
can be, are not written. -/
def OrderRow.save (row : OrderRow) (order : CustomerOrder) : OrderRow :=
  { order.row with
    consumerPromotionCode := order.row.consumerPromotionCode.or row.consumerPromotionCode
    consumerPromotionAmount := order.row.consumerPromotionAmount.or row.consumerPromotionAmount }

/-- The order that is read from a row and the rows of its packages. -/
def OrderRow.load (row : OrderRow) (servicePackages : List RequestedServicePackage) :
    CustomerOrder where
  remarks := row.remarks
  servicePackages := servicePackages
  consumerDiscountAmount := row.totals.consumerDiscountAmount
  consumerSubTotal := row.totals.consumerSubTotal
  consumerTotal := row.totals.consumerTotal
  consumerPromotionCode := row.consumerPromotionCode
  consumerPromotionAmount := row.consumerPromotionAmount
  serviceProviderDiscountAmount := row.totals.serviceProviderDiscountAmount
  serviceProviderSubTotal := row.totals.serviceProviderSubTotal
  serviceProviderTotal := row.totals.serviceProviderTotal
  serviceTypesEntitlement := row.serviceTypesEntitlement
  haveCompletedAllTechnicalReports := row.haveCompletedAllTechnicalReports

/-- The packages of a service request. Its id and that of the service package are their key. Prices
that are whole are stored as they are. -/
abbrev PackageTable := Table Uuid RequestedServicePackage (·.servicePackage.id)

/-- What is stored of the order of a service request. -/
structure OrderStore where
  serviceRequestId : String
  row : OrderRow
  packages : PackageTable

/-- How the database lists rows: in some order. -/
structure Listing where
  list : List RequestedServicePackage → List RequestedServicePackage
  perm : ∀ rows, (list rows).Perm rows

/-- Which calls of the database succeed, and how it lists the packages. -/
structure PatchingCalls where
  finds : Bool
  savesPackage : Bool
  lists : Bool
  saves : Bool
  listing : Listing

inductive PatchingError where
  | entityNotFound (error : EntityNotFoundError)
  | queryFailed
  deriving DecidableEq, Repr

/-- The service packages as the catalogue has them now. -/
structure Catalogue where
  find : Uuid → ServicePackage
  find_id : ∀ id, (find id).id = id

/-! ### Operations -/

/-- What the pricing patch does with a package, which it saves only if the provider is paid
differently. -/
def RequestedServicePackage.patchPrice (toUpperCase : String → String) (catalogue : Catalogue)
    (package : RequestedServicePackage) : RequestedServicePackage :=
  let revised := package.reviseFromNewQuotations toUpperCase
    (catalogue.find package.servicePackage.id) package.quantity
  if package.serviceProviderQuotation.subTotal ≠ revised.serviceProviderQuotation.subTotal ∨
      package.serviceProviderQuotation.total ≠ revised.serviceProviderQuotation.total ∨
      package.serviceProviderQuotation.discountAmount ≠
        revised.serviceProviderQuotation.discountAmount ∨
      package.serviceProviderQuotation.discountedUnitPrice ≠
        revised.serviceProviderQuotation.discountedUnitPrice then revised
  else package

theorem RequestedServicePackage.patchPrice_cases (toUpperCase : String → String)
    (catalogue : Catalogue) (package : RequestedServicePackage) :
    package.patchPrice toUpperCase catalogue = package.reviseFromNewQuotations toUpperCase
        (catalogue.find package.servicePackage.id) package.quantity ∨
      package.patchPrice toUpperCase catalogue = package := by
  unfold patchPrice
  dsimp only
  split
  · exact Or.inl rfl
  · exact Or.inr rfl

theorem RequestedServicePackage.patchPrice_id (toUpperCase : String → String)
    (catalogue : Catalogue) (package : RequestedServicePackage) :
    (package.patchPrice toUpperCase catalogue).servicePackage.id = package.servicePackage.id := by
  obtain revised | kept := package.patchPrice_cases toUpperCase catalogue
  · rw [revised, reviseFromNewQuotations_eq]
    exact catalogue.find_id _
  · rw [kept]

@[simp]
theorem RequestedServicePackage.changeServicePackageGroupQuantity_servicePackage
    (toUpperCase : String → String) (package : RequestedServicePackage) (groups : GroupQuantities) :
    (package.changeServicePackageGroupQuantity toUpperCase groups).servicePackage =
      package.servicePackage := by
  simp only [changeServicePackageGroupQuantity]
  split <;> rfl

namespace OrderStore

variable (toUpperCase : String → String)

/-- Every package of the store with the quantity of its group. -/
def regroup (groups : GroupQuantities) (packages : PackageTable) : PackageTable :=
  packages.rewrite (·.changeServicePackageGroupQuantity toUpperCase groups) fun package => by
    rw [RequestedServicePackage.changeServicePackageGroupQuantity_servicePackage]

/-- What is stored of an order: packages that have been put together, their amounts, and whatever
total, promotion and flag there are in the row. A total that a promotion has been taken off comes
out of arithmetic on doubles. -/
def stored (serviceRequestId : String) (row : OrderRow) (packages : PackageTable) : OrderStore where
  serviceRequestId := serviceRequestId
  row :=
    let made := (CustomerOrder.ofPackages row.remarks
      (bundleByServicePackageGroupCodes toUpperCase packages.rows)).row
    { made with
      totals := { made.totals with consumerTotal := toColumn row.totals.consumerTotal }
      consumerPromotionCode := row.consumerPromotionCode
      consumerPromotionAmount := row.consumerPromotionAmount.map toColumn
      haveCompletedAllTechnicalReports := row.haveCompletedAllTechnicalReports }
  packages := regroup toUpperCase (groupQuantities packages.rows) packages

/-- `ServiceRequestService.patchTechnicalNotes`. -/
def patchTechnicalNotes (calls : PatchingCalls) (servicePackageId : Uuid)
    (technicalNotes : List TechnicalNoteDto) (store : OrderStore) :
    OrderStore × Except PatchingError (List TechnicalNoteDto) :=
  if !calls.finds then (store, .error .queryFailed)
  else
    let customerOrder := store.row.load (calls.listing.list store.packages.rows)
    match store.packages.find servicePackageId with
    | none =>
      (store, .error (.entityNotFound ⟨"RequestedServicePackage",
        "(serviceRequestId:" ++ store.serviceRequestId ++ ", servicePackageId:" ++
          servicePackageId.value ++ ")"⟩))
    | some package =>
      match (package.technicalReport.replaceNotes technicalNotes).2 with
      | some error => (store, .error (.entityNotFound error))
      | none =>
        if !calls.savesPackage then (store, .error .queryFailed)
        else
          let saved :=
            { store with
              packages := store.packages.save
                (package.replaceNotesInTechnicalReport technicalNotes) }
          if !calls.lists then (saved, .error .queryFailed)
          else if !calls.saves then (saved, .error .queryFailed)
          else
            let revised := customerOrder.reviseRequestedServicePackages toUpperCase
              (calls.listing.list saved.packages.rows)
            ({ saved with row := store.row.save revised }, .ok technicalNotes)

/-- `patchPricingDiscrepancyForSelangorState`, when it gets to its end: each package is patched,
then the order is rebuilt, and both are saved. -/
def patchPricing (catalogue : Catalogue) (listing : Listing) (store : OrderStore) : OrderStore :=
  let patched := store.packages.rewrite (·.patchPrice toUpperCase catalogue)
    (RequestedServicePackage.patchPrice_id toUpperCase catalogue)
  let revised := (store.row.load (listing.list store.packages.rows)).reviseRequestedServicePackages
    toUpperCase (listing.list patched.rows)
  { store with
    row := store.row.save revised
    packages := regroup toUpperCase (groupQuantities (listing.list patched.rows)) patched }

/-- `patchPricingDiscrepancyWithAppliedPromoCode`. A missing amount is stored as zero. -/
def patchAppliedPromoCode (listing : Listing) (store : OrderStore) : OrderStore :=
  if store.row.consumerPromotionCode.isNone then store
  else
    let before := store.row.load (listing.list store.packages.rows)
    let after := before.reset toUpperCase
    if before.consumerTotal - after.consumerTotal ≠ before.consumerPromotionAmount.getD 0 then store
    else { store with row := store.row.save after }

end OrderStore

/-- What is done with the order of a service request once it is stored. -/
inductive StoredOrderAction where
  | patchTechnicalNotes (calls : PatchingCalls) (servicePackageId : Uuid)
      (technicalNotes : List TechnicalNoteDto)
  | patchPricing (catalogue : Catalogue) (listing : Listing)
  | patchAppliedPromoCode (listing : Listing)

def OrderStore.step (toUpperCase : String → String) (store : OrderStore) :
    StoredOrderAction → OrderStore
  | .patchTechnicalNotes calls servicePackageId technicalNotes =>
    (store.patchTechnicalNotes toUpperCase calls servicePackageId technicalNotes).1
  | .patchPricing catalogue listing => store.patchPricing toUpperCase catalogue listing
  | .patchAppliedPromoCode listing => store.patchAppliedPromoCode toUpperCase listing

/-! ### Rows of orders -/

/-- What the stored promotion takes off. -/
def OrderRow.discount (row : OrderRow) : Money :=
  promotionDiscount (some ⟨row.consumerPromotionCode, row.consumerPromotionAmount⟩)

/-- What the row has from the packages alone, but for the flag. -/
def OrderRow.bare (row : OrderRow) : OrderRow :=
  { row with
    totals := { row.totals with consumerTotal := 0 }
    consumerPromotionCode := none
    consumerPromotionAmount := none
    haveCompletedAllTechnicalReports := false }

namespace CustomerOrder

variable (toUpperCase : String → String)

theorem bitwiseOr_right_comm (first second third : Int) :
    bitwiseOr (bitwiseOr first second) third = bitwiseOr (bitwiseOr first third) second := by
  simp only [bitwiseOr, BitVec.ofInt_toInt]
  rw [BitVec.or_assoc, BitVec.or_comm (BitVec.ofInt 32 second), ← BitVec.or_assoc]

theorem calculateServiceTypesEntitlement_perm {first second : List RequestedServicePackage}
    (permuted : first.Perm second) :
    calculateServiceTypesEntitlement first = calculateServiceTypesEntitlement second := by
  refine permuted.foldl_eq' (fun one _ other _ entitlement => ?_) 0
  exact bitwiseOr_right_comm entitlement one.serviceTypesEntitlement other.serviceTypesEntitlement

/-- The row of an order does not depend on the order of its packages. -/
theorem row_ofPackages_perm (remarks : Option String)
    {first second : List RequestedServicePackage} (permuted : first.Perm second) :
    (ofPackages remarks first).row = (ofPackages remarks second).row := by
  have amounts : ∀ amount, calculate amount first = calculate amount second := fun amount =>
    calculate_perm amount permuted
  have entitlement := calculateServiceTypesEntitlement_perm permuted
  have completion : calculateTechnicalReportsCompletion first =
      calculateTechnicalReportsCompletion second := permuted.all_eq
  simp only [row, ofPackages, totals, calculateConsumerDiscountAmount, calculateConsumerSubTotal,
    calculateConsumerTotal, calculateServiceProviderDiscountAmount,
    calculateServiceProviderSubTotal, calculateServiceProviderTotal,
    amounts, entitlement, completion]

/-- A promotion changes nothing of what the packages make. -/
theorem bare_row_build (remarks : Option String) (packages : List RequestedServicePackage)
    (appliedPromotion : Option ApplyPromoCodeResult) :
    (build toUpperCase remarks packages appliedPromotion).row.bare =
      (ofPackages remarks (bundleByServicePackageGroupCodes toUpperCase packages)).row.bare := by
  rw [build_eq, discounted]
  split <;> rfl

theorem build_completion (remarks : Option String) (packages : List RequestedServicePackage)
    (applied : Option ApplyPromoCodeResult) :
    (build toUpperCase remarks packages applied).haveCompletedAllTechnicalReports =
      calculateTechnicalReportsCompletion
        (bundleByServicePackageGroupCodes toUpperCase packages) := by
  rw [build_eq, discounted]
  split <;> rfl

end CustomerOrder

namespace OrderRow

variable (toUpperCase : String → String) {row : OrderRow}

/-- The row after the order has been rebuilt from packages. -/
def rebuilt (row : OrderRow) (listed revised : List RequestedServicePackage) : OrderRow :=
  row.save ((row.load listed).reviseRequestedServicePackages toUpperCase revised)

variable (listed revised : List RequestedServicePackage)

theorem bare_rebuilt :
    (row.rebuilt toUpperCase listed revised).bare =
      (CustomerOrder.ofPackages row.remarks
        (bundleByServicePackageGroupCodes toUpperCase revised)).row.bare :=
  CustomerOrder.bare_row_build toUpperCase row.remarks revised _

theorem consumerTotal_rebuilt :
    (row.rebuilt toUpperCase listed revised).totals.consumerTotal =
      toColumn (calculateConsumerTotal (bundleByServicePackageGroupCodes toUpperCase revised) -
        row.discount) :=
  congrArg toColumn (CustomerOrder.build_consumerTotal toUpperCase row.remarks revised
    (some ⟨row.consumerPromotionCode, row.consumerPromotionAmount⟩))

/-- A stored promotion takes off a whole amount. -/
theorem isWhole_discount (whole : row.consumerPromotionAmount.map toColumn =
    row.consumerPromotionAmount) : IsWhole row.discount := by
  rw [discount, promotionDiscount]
  cases counts : (⟨row.consumerPromotionCode, row.consumerPromotionAmount⟩ :
      ApplyPromoCodeResult).positiveDiscount with
  | none => exact isWhole_zero
  | some discountedAmount =>
    have stored : row.consumerPromotionAmount = some discountedAmount :=
      (Option.filter_eq_some_iff.mp counts).1
    rw [stored, Option.map_some, Option.some.injEq] at whole
    rw [Option.getD_some, ← whole]
    exact isWhole_toColumn discountedAmount

/-- The promotion is the one there has been, which is not rounded any more. -/
theorem promotion_rebuilt (whole : row.consumerPromotionAmount.map toColumn =
    row.consumerPromotionAmount) :
    (row.rebuilt toUpperCase listed revised).consumerPromotionCode = row.consumerPromotionCode ∧
      (row.rebuilt toUpperCase listed revised).consumerPromotionAmount =
        row.consumerPromotionAmount := by
  have built : (row.load listed).reviseRequestedServicePackages toUpperCase revised =
      (CustomerOrder.ofPackages row.remarks
        (bundleByServicePackageGroupCodes toUpperCase revised)).discounted
          ⟨row.consumerPromotionCode, row.consumerPromotionAmount⟩ := rfl
  rw [rebuilt, built]
  cases counts : (⟨row.consumerPromotionCode, row.consumerPromotionAmount⟩ :
      ApplyPromoCodeResult).positiveDiscount with
  | none =>
    rw [CustomerOrder.discounted, counts]
    exact ⟨rfl, rfl⟩
  | some discountedAmount =>
    have stored : row.consumerPromotionAmount = some discountedAmount :=
      (Option.filter_eq_some_iff.mp counts).1
    rw [CustomerOrder.discounted_of_some _ counts]
    refine ⟨Option.or_self, ?_⟩
    rw [← whole, stored]
    rfl

end OrderRow

end FieldService.Orders
