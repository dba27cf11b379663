/-
This file settles what submitting technical notes changes of an order.

The notes are written into the report of one package, and then the whole order is rebuilt from its
packages, as the database lists them, which puts these together and prices them again. What is
stored has been put together before, so the prices come out as they were, in whatever order the
packages are listed; and a package with another report is priced like the one it replaces. But the
promotion is read from a column, which has been rounded like that of the total. Where the stored
total and promotion do not add up, as when both have been rounded up by a half, the first submission
that succeeds changes the total.
-/

import FieldService.Library.Doubles
import FieldService.Orders.Storing

namespace FieldService.Orders

open Doubles Execution

/-! ### Reports -/

namespace TechnicalReport

/-- The report has notes, and each of them a model and a serial number. -/
def IsComplete (report : TechnicalReport) : Prop :=
  report.notes ≠ [] ∧ ∀ note ∈ report.notes, note.model ≠ "" ∧ note.serialNumber ≠ ""

/-- The flag of the report is that of its notes. -/
def Settled (report : TechnicalReport) : Prop :=
  report.completed = calculateHasBeenCompleted report.notes

theorem settled_create (notes : List TechnicalNoteDto) : (create notes).Settled := rfl

theorem Settled.completed_iff {report : TechnicalReport} (settled : report.Settled) :
    report.completed = true ↔ report.IsComplete := by
  rw [settled, calculateHasBeenCompleted, IsComplete]
  cases report.notes with
  | nil => simp
  | cons first rest =>
    have several : ¬(first :: rest).length < 1 := by simp
    rw [if_neg several, decide_eq_true_iff, Nat.lt_one_iff, List.length_eq_zero_iff,
      List.filter_eq_nil_iff]
    simp

/-- New notes that are all there make a report of their own. -/
theorem settled_replaceNotes {report : TechnicalReport} {newNotes : List TechnicalNoteDto}
    (replaces : (report.replaceNotes newNotes).2 = none) :
    (report.replaceNotes newNotes).1.Settled := by
  induction newNotes generalizing report with
  | nil => exact settled_create report.notes
  | cons newNote rest inductionHypothesis =>
    cases search : report.notes.findIdx? (·.id = newNote.id) with
    | none =>
      simp only [replaceNotes, search] at replaces
      cases replaces
    | some index =>
      simp only [replaceNotes, search] at replaces ⊢
      exact inductionHypothesis replaces

end TechnicalReport

/-! ### Only the notes -/

/-- The rows agree, but for the flag. -/
def OrderRow.SameAmounts (before after : OrderRow) : Prop :=
  after =
    { before with haveCompletedAllTechnicalReports := after.haveCompletedAllTechnicalReports }

/-- The package of an id with another report. -/
def RequestedServicePackage.withReport (servicePackageId : Uuid) (report : TechnicalReport)
    (package : RequestedServicePackage) : RequestedServicePackage :=
  if package.servicePackage.id = servicePackageId then { package with technicalReport := report }
  else package

/-- Nothing of the order and its packages has changed but the report of one package, and the order
says whether all reports are complete. -/
structure TouchesOnlyNotes (servicePackageId : Uuid) (before after : OrderStore) : Prop where
  order : before.row.SameAmounts after.row
  packages : ∃ report,
    after.packages.rows = before.packages.rows.map (·.withReport servicePackageId report)
  completion : after.row.haveCompletedAllTechnicalReports = true ↔
    ∀ package ∈ after.packages.rows, package.technicalReport.IsComplete

/-- A submission of notes that succeeds touches nothing else. -/
def StoredOrderAction.TouchesOnlyNotes (toUpperCase : String → String) (store : OrderStore) :
    StoredOrderAction → Prop
  | .patchTechnicalNotes calls servicePackageId technicalNotes =>
    let patched := store.patchTechnicalNotes toUpperCase calls servicePackageId technicalNotes
    patched.2 = .ok technicalNotes →
      Orders.TouchesOnlyNotes servicePackageId store patched.1
  | .patchPricing _ _ => True
  | .patchAppliedPromoCode _ => True

/-- The package and its notes are there, and no call fails. -/
structure OrderStore.Accepts (calls : PatchingCalls) (servicePackageId : Uuid)
    (technicalNotes : List TechnicalNoteDto) (store : OrderStore) : Prop where
  answered : calls.finds = true ∧ calls.savesPackage = true ∧ calls.lists = true ∧
    calls.saves = true
  known : ∃ package, store.packages.find servicePackageId = some package ∧
    (package.technicalReport.replaceNotes technicalNotes).2 = none

/-- The stored total is that of the packages less what the stored promotion takes off. -/
def OrderStore.AddsUp (store : OrderStore) : Prop :=
  store.row.totals.consumerTotal =
    calculateConsumerTotal store.packages.rows - store.row.discount

/-- Notes that are accepted are submitted to an order that adds up. -/
def StoredOrderAction.FindsAddedUp (store : OrderStore) : StoredOrderAction → Prop
  | .patchTechnicalNotes calls servicePackageId technicalNotes =>
    store.Accepts calls servicePackageId technicalNotes → store.AddsUp
  | .patchPricing _ _ => True
  | .patchAppliedPromoCode _ => True

theorem OrderRow.sameAmounts_iff (before after : OrderRow) :
    before.SameAmounts after ↔ after.bare = before.bare ∧
      after.totals.consumerTotal = before.totals.consumerTotal ∧
      after.consumerPromotionCode = before.consumerPromotionCode ∧
      after.consumerPromotionAmount = before.consumerPromotionAmount := by
  obtain ⟨remarks, totals, code, amount, entitlement, completed⟩ := before
  obtain ⟨otherRemarks, otherTotals, otherCode, otherAmount, otherEntitlement, otherCompleted⟩ :=
    after
  obtain ⟨discountAmount, subTotal, total, providerDiscount, providerSubTotal, providerTotal⟩ :=
    totals
  obtain ⟨discountAmount', subTotal', total', providerDiscount', providerSubTotal',
    providerTotal'⟩ := otherTotals
  simp only [SameAmounts, bare, OrderRow.mk.injEq, CustomerOrder.Totals.mk.injEq]
  tauto

/-! ### Packages with another report -/

namespace RequestedServicePackage

variable (toUpperCase : String → String) (servicePackageId : Uuid) (report : TechnicalReport)

theorem withReport_groupKey (package : RequestedServicePackage) :
    (package.withReport servicePackageId report).groupKey = package.groupKey := by
  unfold withReport
  split <;> rfl

theorem withReport_quantity (package : RequestedServicePackage) :
    (package.withReport servicePackageId report).quantity = package.quantity := by
  unfold withReport
  split <;> rfl

/-- The report plays no part in the prices. -/
theorem changeServicePackageGroupQuantity_withReport (package : RequestedServicePackage)
    (groups : GroupQuantities) :
    (package.withReport servicePackageId report).changeServicePackageGroupQuantity toUpperCase
        groups =
      (package.changeServicePackageGroupQuantity toUpperCase groups).withReport servicePackageId
        report := by
  unfold withReport
  rw [changeServicePackageGroupQuantity_servicePackage]
  split
  · simp only [changeServicePackageGroupQuantity]
    split <;> rfl
  · rfl

theorem bundle_withReport (packages : List RequestedServicePackage) :
    bundleByServicePackageGroupCodes toUpperCase
        (packages.map (·.withReport servicePackageId report)) =
      (bundleByServicePackageGroupCodes toUpperCase packages).map
        (·.withReport servicePackageId report) := by
  have sums : groupQuantities (packages.map (·.withReport servicePackageId report)) =
      groupQuantities packages :=
    groupQuantities_map_of_same fun package _ =>
      ⟨package.withReport_groupKey servicePackageId report,
        package.withReport_quantity servicePackageId report⟩
  rw [bundleByServicePackageGroupCodes, sums, bundleByServicePackageGroupCodes, List.map_map,
    List.map_map]
  exact List.map_congr_left fun package _ =>
    package.changeServicePackageGroupQuantity_withReport toUpperCase servicePackageId report _

theorem calculate_withReport {amount : RequestedServicePackage → Money}
    (same : ∀ package, amount (withReport servicePackageId report package) = amount package)
    (packages : List RequestedServicePackage) :
    calculate amount (packages.map (·.withReport servicePackageId report)) =
      calculate amount packages := by
  rw [calculate, List.foldl_map]
  exact List.foldl_ext _ _ _ fun total package _ => by rw [same]

theorem Whole.withReport {package : RequestedServicePackage} (whole : package.Whole) :
    (package.withReport servicePackageId report).Whole := by
  unfold RequestedServicePackage.withReport
  split
  · exact ⟨whole.consumer, whole.serviceProvider⟩
  · exact whole

/-- An order with another report is the same but for its flag. -/
theorem sameAmounts_withReport (remarks : Option String)
    (packages : List RequestedServicePackage) :
    (CustomerOrder.ofPackages remarks packages).row.SameAmounts
      (CustomerOrder.ofPackages remarks
        (packages.map (·.withReport servicePackageId report))).row := by
  have consumer (package : RequestedServicePackage) :
      (package.withReport servicePackageId report).consumerQuotation =
        package.consumerQuotation := by
    unfold withReport
    split <;> rfl
  have serviceProvider (package : RequestedServicePackage) :
      (package.withReport servicePackageId report).serviceProviderQuotation =
        package.serviceProviderQuotation := by
    unfold withReport
    split <;> rfl
  have entitlement : calculateServiceTypesEntitlement
      (packages.map (·.withReport servicePackageId report)) =
        calculateServiceTypesEntitlement packages := by
    rw [calculateServiceTypesEntitlement, List.foldl_map]
    refine List.foldl_ext _ _ _ fun entitlement package _ => ?_
    unfold withReport
    split <;> rfl
  simp only [OrderRow.SameAmounts, CustomerOrder.row, CustomerOrder.totals,
    CustomerOrder.ofPackages, calculateConsumerDiscountAmount, calculateConsumerSubTotal,
    calculateConsumerTotal, calculateServiceProviderDiscountAmount,
    calculateServiceProviderSubTotal, calculateServiceProviderTotal, entitlement]
  rw [calculate_withReport, calculate_withReport, calculate_withReport, calculate_withReport,
    calculate_withReport, calculate_withReport]
  all_goals
    intro package
    simp only [consumer, serviceProvider]

end RequestedServicePackage

/-! ### What every operation keeps -/

/-- The packages have been put together, their prices are whole and the flags of their reports
right, and the order has been made of them, with some promotion. -/
structure OrderStore.PutTogether (toUpperCase : String → String) (store : OrderStore) : Prop where
  bundled : bundleByServicePackageGroupCodes toUpperCase store.packages.rows = store.packages.rows
  order : store.row.bare =
    (CustomerOrder.ofPackages store.row.remarks store.packages.rows).row.bare
  promotion : store.row.consumerPromotionAmount.map toColumn = store.row.consumerPromotionAmount
  whole : ∀ package ∈ store.packages.rows, package.Whole
  settled : ∀ package ∈ store.packages.rows, package.technicalReport.Settled

namespace OrderStore

variable {toUpperCase : String → String} {store : OrderStore}

theorem bundle_whole {packages : List RequestedServicePackage}
    (whole : ∀ package ∈ packages, package.Whole) :
    ∀ package ∈ bundleByServicePackageGroupCodes toUpperCase packages, package.Whole := by
  intro package member
  obtain ⟨before, stored, rfl⟩ := List.mem_map.mp member
  exact (whole before stored).changeServicePackageGroupQuantity toUpperCase _

theorem bundle_settled {packages : List RequestedServicePackage}
    (settled : ∀ package ∈ packages, package.technicalReport.Settled) :
    ∀ package ∈ bundleByServicePackageGroupCodes toUpperCase packages,
      package.technicalReport.Settled := by
  intro package member
  obtain ⟨before, stored, rfl⟩ := List.mem_map.mp member
  rw [RequestedServicePackage.changeServicePackageGroupQuantity_technicalReport]
  exact settled before stored

/-- Packages that are listed in another order, put together. -/
theorem bundle_listed {packages : PackageTable} {listed : List RequestedServicePackage}
    (bundled : bundleByServicePackageGroupCodes toUpperCase packages.rows = packages.rows)
    (permuted : listed.Perm packages.rows) :
    (bundleByServicePackageGroupCodes toUpperCase listed).Perm packages.rows :=
  (bundle_perm toUpperCase permuted).trans (List.Perm.of_eq bundled)

/-- The total of an order that is rebuilt is exact, as a stored promotion is. -/
theorem PutTogether.consumerTotal_rebuilt (together : store.PutTogether toUpperCase)
    {packages : PackageTable} (whole : ∀ package ∈ packages.rows, package.Whole)
    (listed : List RequestedServicePackage) {revised : List RequestedServicePackage}
    (permuted : (bundleByServicePackageGroupCodes toUpperCase revised).Perm packages.rows) :
    (store.row.rebuilt toUpperCase listed revised).totals.consumerTotal =
      calculateConsumerTotal packages.rows - store.row.discount := by
  have wholeTotal : IsWhole (calculateConsumerTotal packages.rows) :=
    isWhole_calculate fun package member => (whole package member).consumer.total
  rw [OrderRow.consumerTotal_rebuilt, calculateConsumerTotal,
    CustomerOrder.calculate_perm _ permuted, ← calculateConsumerTotal]
  exact (wholeTotal.sub (OrderRow.isWhole_discount together.promotion)).toColumn

/-- The packages of the store are replaced, and the order is rebuilt from them. -/
theorem PutTogether.rebuilt (together : store.PutTogether toUpperCase) {packages : PackageTable}
    (bundled : bundleByServicePackageGroupCodes toUpperCase packages.rows = packages.rows)
    (whole : ∀ package ∈ packages.rows, package.Whole)
    (settled : ∀ package ∈ packages.rows, package.technicalReport.Settled)
    (listed : List RequestedServicePackage) {revised : List RequestedServicePackage}
    (permuted : (bundleByServicePackageGroupCodes toUpperCase revised).Perm packages.rows) :
    { store with
      row := store.row.rebuilt toUpperCase listed revised
      packages := packages }.PutTogether toUpperCase where
  bundled := bundled
  order := by
    have remarks : (store.row.rebuilt toUpperCase listed revised).remarks = store.row.remarks :=
      CustomerOrder.build_remarks toUpperCase store.row.remarks revised _
    rw [OrderRow.bare_rebuilt, CustomerOrder.row_ofPackages_perm _ permuted, remarks]
  promotion := by
    rw [(OrderRow.promotion_rebuilt toUpperCase listed revised together.promotion).2]
    exact together.promotion
  whole := whole
  settled := settled

theorem PutTogether.addsUp_rebuilt (together : store.PutTogether toUpperCase)
    {packages : PackageTable} (whole : ∀ package ∈ packages.rows, package.Whole)
    (listed : List RequestedServicePackage) {revised : List RequestedServicePackage}
    (permuted : (bundleByServicePackageGroupCodes toUpperCase revised).Perm packages.rows) :
    { store with
      row := store.row.rebuilt toUpperCase listed revised
      packages := packages }.AddsUp := by
  obtain ⟨code, amount⟩ := OrderRow.promotion_rebuilt toUpperCase listed revised together.promotion
  have discount : (store.row.rebuilt toUpperCase listed revised).discount = store.row.discount := by
    rw [OrderRow.discount, code, amount, OrderRow.discount]
  rw [AddsUp, discount]
  exact together.consumerTotal_rebuilt whole listed permuted

section

variable {packages : PackageTable} {servicePackageId : Uuid} {report : TechnicalReport}
  (written : packages.rows = store.packages.rows.map (·.withReport servicePackageId report))

include written

theorem PutTogether.bundled_of_written (together : store.PutTogether toUpperCase) :
    bundleByServicePackageGroupCodes toUpperCase packages.rows = packages.rows := by
  rw [written, RequestedServicePackage.bundle_withReport, together.bundled]

theorem PutTogether.whole_of_written (together : store.PutTogether toUpperCase) :
    ∀ package ∈ packages.rows, package.Whole := by
  rw [written]
  intro package member
  obtain ⟨before, stored, rfl⟩ := List.mem_map.mp member
  exact (together.whole before stored).withReport servicePackageId report

theorem PutTogether.settled_of_written (together : store.PutTogether toUpperCase)
    (settled : report.Settled) : ∀ package ∈ packages.rows, package.technicalReport.Settled := by
  rw [written]
  intro package member
  obtain ⟨before, stored, rfl⟩ := List.mem_map.mp member
  unfold RequestedServicePackage.withReport
  split
  · exact settled
  · exact together.settled before stored

theorem PutTogether.order_of_written (together : store.PutTogether toUpperCase) :
    (CustomerOrder.ofPackages store.row.remarks packages.rows).row.bare = store.row.bare := by
  have same := RequestedServicePackage.sameAmounts_withReport servicePackageId report
    store.row.remarks store.packages.rows
  rw [written, together.order]
  exact ((OrderRow.sameAmounts_iff _ _).mp same).1

theorem consumerTotal_of_written :
    calculateConsumerTotal packages.rows = calculateConsumerTotal store.packages.rows := by
  rw [written]
  refine RequestedServicePackage.calculate_withReport servicePackageId report (fun package => ?_) _
  unfold RequestedServicePackage.withReport
  split <;> rfl

/-- A report that is written leaves everything put together. -/
theorem PutTogether.withReport (together : store.PutTogether toUpperCase)
    (settled : report.Settled) : { store with packages := packages }.PutTogether toUpperCase where
  bundled := together.bundled_of_written written
  order := (together.order_of_written written).symm
  promotion := together.promotion
  whole := together.whole_of_written written
  settled := together.settled_of_written written settled

/-- The order that is rebuilt from packages with another report differs in nothing but the notes
exactly if it has added up before. -/
theorem PutTogether.touchesOnlyNotes_iff (together : store.PutTogether toUpperCase)
    (settled : report.Settled) (listed : List RequestedServicePackage) (listing : Listing) :
    Orders.TouchesOnlyNotes servicePackageId store
        { store with
          row := store.row.rebuilt toUpperCase listed (listing.list packages.rows)
          packages := packages } ↔ store.AddsUp := by
  have permuted := bundle_listed (together.bundled_of_written written)
    (listing.perm packages.rows)
  have bare : (store.row.rebuilt toUpperCase listed (listing.list packages.rows)).bare =
      store.row.bare := by
    rw [OrderRow.bare_rebuilt, CustomerOrder.row_ofPackages_perm _ permuted,
      together.order_of_written written]
  have total : (store.row.rebuilt toUpperCase listed
      (listing.list packages.rows)).totals.consumerTotal =
        calculateConsumerTotal store.packages.rows - store.row.discount := by
    rw [together.consumerTotal_rebuilt (together.whole_of_written written) listed permuted,
      consumerTotal_of_written written]
  have promotion := OrderRow.promotion_rebuilt toUpperCase listed (listing.list packages.rows)
    together.promotion
  have completed : (store.row.rebuilt toUpperCase listed
      (listing.list packages.rows)).haveCompletedAllTechnicalReports = true ↔
        ∀ package ∈ packages.rows, package.technicalReport.IsComplete := by
    show (CustomerOrder.build toUpperCase store.row.remarks (listing.list packages.rows)
      _).haveCompletedAllTechnicalReports = true ↔ _
    rw [CustomerOrder.build_completion, calculateTechnicalReportsCompletion, permuted.all_eq,
      List.all_eq_true]
    exact forall₂_congr fun package member =>
      (together.settled_of_written written settled package member).completed_iff
  constructor
  · intro touches
    have same := ((OrderRow.sameAmounts_iff _ _).mp touches.order).2.1
    exact same.symm.trans total
  · intro addsUp
    refine ⟨(OrderRow.sameAmounts_iff _ _).mpr ⟨bare, ?_, promotion⟩, ⟨report, written⟩, completed⟩
    exact total.trans addsUp.symm

end

/-! ### Submissions -/

/-- The package that is found gets the report, and the other rows stay. -/
theorem rows_save_report {packages : PackageTable} {servicePackageId : Uuid}
    {package : RequestedServicePackage} (found : packages.find servicePackageId = some package)
    (report : TechnicalReport) :
    (packages.save { package with technicalReport := report }).rows =
      packages.rows.map (·.withReport servicePackageId report) := by
  obtain ⟨-, own⟩ := packages.find_key found
  have stored : packages.find { package with technicalReport := report }.servicePackage.id =
      some package := own ▸ found
  rw [packages.rows_save_of_find_eq_some stored]
  refine List.map_congr_left fun other member => ?_
  rw [RequestedServicePackage.withReport, own]
  by_cases same : other.servicePackage.id = servicePackageId
  · have foundToo := packages.find_of_mem member
    rw [same, found] at foundToo
    rw [if_pos same, if_pos same, Option.some.inj foundToo]
  · rw [if_neg same, if_neg same]

/-- A submission that is not accepted fails, and may have written a report all the same. One that
is accepted writes the report, and the order is rebuilt with it. -/
theorem patchTechnicalNotes_cases (toUpperCase : String → String) (calls : PatchingCalls)
    (servicePackageId : Uuid) (technicalNotes : List TechnicalNoteDto) (store : OrderStore) :
    let patched := store.patchTechnicalNotes toUpperCase calls servicePackageId technicalNotes
    (¬store.Accepts calls servicePackageId technicalNotes ∧
        (∃ error, patched.2 = .error error) ∧
        (patched.1 = store ∨ ∃ (packages : PackageTable) (report : TechnicalReport),
          report.Settled ∧
            packages.rows = store.packages.rows.map (·.withReport servicePackageId report) ∧
            patched.1 = { store with packages := packages })) ∨
      store.Accepts calls servicePackageId technicalNotes ∧ patched.2 = .ok technicalNotes ∧
        ∃ (packages : PackageTable) (report : TechnicalReport), report.Settled ∧
          packages.rows = store.packages.rows.map (·.withReport servicePackageId report) ∧
          patched.1 =
            { store with
              row := store.row.rebuilt toUpperCase (calls.listing.list store.packages.rows)
                (calls.listing.list packages.rows)
              packages := packages } := by
  unfold patchTechnicalNotes
  dsimp only
  cases finds : calls.finds with
  | false =>
    refine Or.inl ⟨fun accepts => ?_, ⟨_, rfl⟩, Or.inl rfl⟩
    cases finds.symm.trans accepts.answered.1
  | true =>
    cases found : store.packages.find servicePackageId with
    | none =>
      refine Or.inl ⟨fun accepts => ?_, ⟨_, rfl⟩, Or.inl rfl⟩
      obtain ⟨package, known, -⟩ := accepts.known
      cases found.symm.trans known
    | some package =>
      dsimp only
      cases replaces : (package.technicalReport.replaceNotes technicalNotes).2 with
      | some error =>
        refine Or.inl ⟨fun accepts => ?_, ⟨_, rfl⟩, Or.inl rfl⟩
        obtain ⟨other, known, replaced⟩ := accepts.known
        cases found.symm.trans known
        cases replaces.symm.trans replaced
      | none =>
        dsimp only
        have settled := TechnicalReport.settled_replaceNotes replaces
        have written := rows_save_report found
          (package.technicalReport.replaceNotes technicalNotes).1
        cases savesPackage : calls.savesPackage with
        | false =>
          refine Or.inl ⟨fun accepts => ?_, ⟨_, rfl⟩, Or.inl rfl⟩
          cases savesPackage.symm.trans accepts.answered.2.1
        | true =>
          cases lists : calls.lists with
          | false =>
            refine Or.inl ⟨fun accepts => ?_, ⟨_, rfl⟩, Or.inr ⟨_, _, settled, written, rfl⟩⟩
            cases lists.symm.trans accepts.answered.2.2.1
          | true =>
            cases saves : calls.saves with
            | false =>
              refine Or.inl ⟨fun accepts => ?_, ⟨_, rfl⟩, Or.inr ⟨_, _, settled, written, rfl⟩⟩
              cases saves.symm.trans accepts.answered.2.2.2
            | true =>
              exact Or.inr ⟨⟨⟨finds, savesPackage, lists, saves⟩, package, found, replaces⟩, rfl,
                _, _, settled, written, rfl⟩

/-! ### Runs -/

/-- Whatever is in its row, a stored order has been put together. -/
theorem putTogether_stored (serviceRequestId : String) (row : OrderRow) (packages : PackageTable)
    (whole : ∀ package ∈ packages.rows, package.Whole)
    (settled : ∀ package ∈ packages.rows, package.technicalReport.Settled) :
    (stored toUpperCase serviceRequestId row packages).PutTogether toUpperCase where
  bundled := bundle_twice toUpperCase packages.rows
  order := rfl
  promotion := by
    show (row.consumerPromotionAmount.map toColumn).map toColumn =
      row.consumerPromotionAmount.map toColumn
    rw [Option.map_map]
    exact congrArg (Option.map · _) (funext fun amount => (isWhole_toColumn amount).toColumn)
  whole := bundle_whole whole
  settled := bundle_settled settled

/-- What the constructor of an order leads to is stored so, with its own total and promotion. -/
theorem row_build_eq_stored (serviceRequestId : String) (remarks : Option String)
    (packages : PackageTable) (appliedPromotion : Option ApplyPromoCodeResult) :
    (CustomerOrder.build toUpperCase remarks packages.rows appliedPromotion).row =
      (stored toUpperCase serviceRequestId
        (CustomerOrder.build toUpperCase remarks packages.rows appliedPromotion).row
        packages).row := by
  have again (amount : Money) : toColumn (toColumn amount) = toColumn amount :=
    (isWhole_toColumn amount).toColumn
  rw [CustomerOrder.build_eq, CustomerOrder.discounted]
  split <;> simp [stored, CustomerOrder.row, CustomerOrder.ofPackages, CustomerOrder.totals,
    CustomerOrder.Totals.toColumns, again]

/-- A patch keeps the report of a package or generates one. -/
theorem settled_patchPrice {package : RequestedServicePackage}
    (settled : package.technicalReport.Settled) (catalogue : Catalogue) :
    (package.patchPrice toUpperCase catalogue).technicalReport.Settled := by
  obtain revised | kept := package.patchPrice_cases toUpperCase catalogue
  · rw [revised, RequestedServicePackage.reviseFromNewQuotations_eq]
    dsimp only
    split
    · exact TechnicalReport.settled_create _
    · exact settled
  · rw [kept]
    exact settled

theorem whole_patchPrice {package : RequestedServicePackage} (whole : package.Whole)
    (catalogue : Catalogue) : (package.patchPrice toUpperCase catalogue).Whole := by
  obtain revised | kept := package.patchPrice_cases toUpperCase catalogue
  · rw [revised]
    exact whole.reviseFromNewQuotations toUpperCase _ _
  · rw [kept]
    exact whole

/-- What a patch makes of the packages of a store. -/
theorem PutTogether.patched (together : store.PutTogether toUpperCase) (catalogue : Catalogue)
    (listing : Listing) :
    ∃ (packages : PackageTable) (revised : List RequestedServicePackage),
      store.patchPricing toUpperCase catalogue listing =
          { store with
            row := store.row.rebuilt toUpperCase (listing.list store.packages.rows) revised
            packages := packages } ∧
        bundleByServicePackageGroupCodes toUpperCase packages.rows = packages.rows ∧
        (bundleByServicePackageGroupCodes toUpperCase revised).Perm packages.rows ∧
        (∀ package ∈ packages.rows, package.Whole) ∧
        ∀ package ∈ packages.rows, package.technicalReport.Settled := by
  let patched : PackageTable := store.packages.rewrite (·.patchPrice toUpperCase catalogue)
    (RequestedServicePackage.patchPrice_id toUpperCase catalogue)
  have regrouped : (regroup toUpperCase (groupQuantities (listing.list patched.rows))
      patched).rows = bundleByServicePackageGroupCodes toUpperCase patched.rows := by
    rw [bundleByServicePackageGroupCodes, groupQuantities_perm (listing.perm patched.rows)]
    rfl
  refine ⟨_, listing.list patched.rows, rfl, ?_, ?_, ?_, ?_⟩
  · rw [regrouped, bundle_twice]
  · rw [regrouped]
    exact bundle_perm toUpperCase (listing.perm patched.rows)
  · rw [regrouped]
    refine bundle_whole fun package member => ?_
    obtain ⟨before, was, rfl⟩ := List.mem_map.mp member
    exact whole_patchPrice (together.whole before was) catalogue
  · rw [regrouped]
    refine bundle_settled fun package member => ?_
    obtain ⟨before, was, rfl⟩ := List.mem_map.mp member
    exact settled_patchPrice (together.settled before was) catalogue

/-- The promo code patch leaves the store alone or rebuilds the order from its packages. -/
theorem patchAppliedPromoCode_cases (toUpperCase : String → String) (listing : Listing)
    (store : OrderStore) :
    store.patchAppliedPromoCode toUpperCase listing = store ∨
      store.patchAppliedPromoCode toUpperCase listing =
        { store with
          row := store.row.rebuilt toUpperCase (listing.list store.packages.rows)
            (listing.list store.packages.rows) } := by
  unfold patchAppliedPromoCode
  split
  · exact Or.inl rfl
  dsimp only
  split
  · exact Or.inl rfl
  · exact Or.inr rfl

/-- Every operation leaves the order put together, and adding up if it does. -/
theorem PutTogether.step (together : store.PutTogether toUpperCase) (action : StoredOrderAction) :
    (store.step toUpperCase action).PutTogether toUpperCase ∧
      (store.AddsUp → (store.step toUpperCase action).AddsUp) := by
  cases action with
  | patchTechnicalNotes calls servicePackageId technicalNotes =>
    rw [OrderStore.step]
    obtain ⟨-, -, same | ⟨packages, report, settled, written, saved⟩⟩ |
        ⟨-, -, packages, report, settled, written, saved⟩ :=
      store.patchTechnicalNotes_cases toUpperCase calls servicePackageId technicalNotes
    · rw [same]
      exact ⟨together, id⟩
    · rw [saved]
      refine ⟨together.withReport written settled, fun addsUp => ?_⟩
      rw [AddsUp, consumerTotal_of_written written]
      exact addsUp
    · rw [saved]
      have permuted := bundle_listed (together.bundled_of_written written)
        (calls.listing.perm packages.rows)
      have whole := together.whole_of_written written
      exact ⟨together.rebuilt (together.bundled_of_written written) whole
        (together.settled_of_written written settled) _ permuted,
        fun _ => together.addsUp_rebuilt whole _ permuted⟩
  | patchPricing catalogue listing =>
    rw [OrderStore.step]
    obtain ⟨packages, revised, patches, bundled, permuted, whole, settled⟩ :=
      together.patched catalogue listing
    rw [patches]
    exact ⟨together.rebuilt bundled whole settled _ permuted,
      fun _ => together.addsUp_rebuilt whole _ permuted⟩
  | patchAppliedPromoCode listing =>
    rw [OrderStore.step]
    have permuted := bundle_listed together.bundled (listing.perm store.packages.rows)
    obtain same | resets := patchAppliedPromoCode_cases toUpperCase listing store
    · rw [same]
      exact ⟨together, id⟩
    · rw [resets]
      exact ⟨together.rebuilt together.bundled together.whole together.settled _ permuted,
        fun _ => together.addsUp_rebuilt together.whole _ permuted⟩

/-- A submission touches nothing but the notes exactly if it fails or the order adds up. -/
theorem PutTogether.action_iff (together : store.PutTogether toUpperCase)
    (action : StoredOrderAction) :
    action.TouchesOnlyNotes toUpperCase store ↔ action.FindsAddedUp store := by
  cases action with
  | patchTechnicalNotes calls servicePackageId technicalNotes =>
    show (_ = Except.ok technicalNotes → Orders.TouchesOnlyNotes servicePackageId store
      (store.patchTechnicalNotes toUpperCase calls servicePackageId technicalNotes).1) ↔
        (store.Accepts calls servicePackageId technicalNotes → store.AddsUp)
    obtain ⟨refuses, ⟨error, fails⟩, -⟩ |
        ⟨accepts, succeeds, packages, report, settled, written, saved⟩ :=
      store.patchTechnicalNotes_cases toUpperCase calls servicePackageId technicalNotes
    · rw [fails]
      exact iff_of_true (fun succeeds => by cases succeeds) fun accepts => absurd accepts refuses
    · rw [succeeds, saved, forall_prop_of_true rfl, forall_prop_of_true accepts]
      exact together.touchesOnlyNotes_iff written settled _ calls.listing
  | patchPricing catalogue listing => exact Iff.rfl
  | patchAppliedPromoCode listing => exact Iff.rfl

end OrderStore

/-- An order that adds up does so in every run, and submissions touch nothing but the notes. -/
theorem touchesOnlyNotes_along_of_addsUp (toUpperCase : String → String)
    (serviceRequestId : String) (row : OrderRow) (packages : PackageTable)
    (whole : ∀ package ∈ packages.rows, package.Whole)
    (settled : ∀ package ∈ packages.rows, package.technicalReport.Settled)
    (addsUp : (OrderStore.stored toUpperCase serviceRequestId row packages).AddsUp)
    (actions : List StoredOrderAction) :
    Along (OrderStore.step toUpperCase)
      (fun store action => action.TouchesOnlyNotes toUpperCase store)
      (OrderStore.stored toUpperCase serviceRequestId row packages) actions := by
  refine along_of_invariant _
    (fun store => store.PutTogether toUpperCase ∧ store.AddsUp) ?_ ?_ _ actions ?_
    (along_trivial _ _ actions)
  · rintro store action ⟨together, addsUp⟩ -
    exact ⟨(together.step action).1, (together.step action).2 addsUp⟩
  · rintro store action ⟨together, addsUp⟩ -
    refine (together.action_iff action).mpr ?_
    cases action with
    | patchTechnicalNotes calls servicePackageId technicalNotes => exact fun _ => addsUp
    | patchPricing catalogue listing => trivial
    | patchAppliedPromoCode listing => trivial
  · exact ⟨OrderStore.putTogether_stored serviceRequestId row packages whole settled, addsUp⟩

/-- A unit is ordered. -/
def exampleOrderedPackages (unitPrice : Money) : PackageTable :=
  Table.empty.save ((RequestedServicePackage.unpriced "SELANGOR"
    (exampleTieredPackage [⟨1, unitPrice⟩] [])).reviseFromNewQuotations id
      (exampleTieredPackage [⟨1, unitPrice⟩] []) 1)

theorem whole_exampleOrderedPackages {unitPrice : Money} (whole : IsWhole unitPrice) :
    ∀ package ∈ (exampleOrderedPackages unitPrice).rows, package.Whole := by
  intro package member
  obtain rfl | absent := Table.mem_save _ member
  · have quoted : (exampleTieredPackage [⟨1, unitPrice⟩] []).Whole :=
      ⟨(List.forall_mem_singleton).mpr whole, List.forall_mem_nil _⟩
    exact (RequestedServicePackage.whole_unpriced quoted "SELANGOR").reviseFromNewQuotations id _ 1
  · cases absent

theorem settled_exampleOrderedPackages (unitPrice : Money) :
    ∀ package ∈ (exampleOrderedPackages unitPrice).rows, package.technicalReport.Settled := by
  intro package member
  obtain rfl | absent := Table.mem_save _ member
  · exact TechnicalReport.settled_create _
  · cases absent

/-- The row of an order from whose total a discount has been taken. -/
def exampleRow (consumerTotal discount : Money) : OrderRow where
  remarks := none
  totals := ⟨0, 0, consumerTotal, 0, 0, 0⟩
  consumerPromotionCode := some "eighth"
  consumerPromotionAmount := some discount
  serviceTypesEntitlement := 0
  haveCompletedAllTechnicalReports := false

/-- The notes of the unit are submitted, and all calls succeed. -/
def exampleSubmission : StoredOrderAction :=
  .patchTechnicalNotes ⟨true, true, true, true, ⟨id, List.Perm.refl⟩⟩
    (exampleTieredPackage [] []).id [⟨"1", [], "FTKF", "Aircond 1", "E001", "Cleaned"⟩]

/-- Whatever is stored of an order of whole prices and whatever has been done with it, submissions
of notes that succeed touch nothing but the notes, and leave the order saying whether all reports
are complete, exactly if each of them finds a total that adds up. -/
theorem touchesOnlyNotes_along_iff (toUpperCase : String → String) (serviceRequestId : String)
    (row : OrderRow) (packages : PackageTable)
    (whole : ∀ package ∈ packages.rows, package.Whole)
    (settled : ∀ package ∈ packages.rows, package.technicalReport.Settled)
    (actions : List StoredOrderAction) :
    Along (OrderStore.step toUpperCase)
        (fun store action => action.TouchesOnlyNotes toUpperCase store)
        (OrderStore.stored toUpperCase serviceRequestId row packages) actions ↔
      Along (OrderStore.step toUpperCase) (fun store action => action.FindsAddedUp store)
        (OrderStore.stored toUpperCase serviceRequestId row packages) actions :=
  along_congr _ (·.PutTogether toUpperCase) (fun _ _ => True)
    (fun _ action together _ => (together.step action).1)
    (fun _ action together _ => together.action_iff action) _ actions
    (OrderStore.putTogether_stored serviceRequestId row packages whole settled)
    (along_trivial _ _ actions)

/-- With 15.0000 taken off 120.0000. -/
theorem touchesOnlyNotes_along_iff_whole :
    Along (OrderStore.step id) (fun store action => action.TouchesOnlyNotes id store)
      (OrderStore.stored id "240101-a1b2c3d" (exampleRow 105 15) (exampleOrderedPackages 120))
      [exampleSubmission] := by
  refine (touchesOnlyNotes_along_iff id _ _ _
    (whole_exampleOrderedPackages ⟨1200000, by norm_num⟩)
    (settled_exampleOrderedPackages 120) _).mpr ⟨fun _ => ?_, trivial⟩
  unfold OrderStore.AddsUp
  decide +kernel

/-- An eighth of 99.99 is calculated as 12.49875, and what is left as 87.49125: these are the
decimals of the doubles. They are stored as 12.4988 and 87.4913, and the submission makes the total
87.4912. -/
theorem not_touchesOnlyNotes_along_half :
    nearestDouble (nearestDouble (nearestDouble (9999 / 100) * nearestDouble (25 / 2)) / 100) =
        nearestDouble (1249875 / 100000) ∧
      nearestDouble (nearestDouble (9999 / 100) - nearestDouble (1249875 / 100000)) =
        nearestDouble (8749125 / 100000) ∧
      ¬Along (OrderStore.step id) (fun store action => action.TouchesOnlyNotes id store)
        (OrderStore.stored id "240101-a1b2c3d"
          (exampleRow (8749125 / 100000) (1249875 / 100000)) (exampleOrderedPackages (9999 / 100)))
        [exampleSubmission] := by
  refine ⟨by decide +kernel, by decide +kernel, fun along => ?_⟩
  have total := ((OrderRow.sameAmounts_iff _ _).mp (along.1 rfl).order).2.1
  revert total
  decide +kernel

end FieldService.Orders
