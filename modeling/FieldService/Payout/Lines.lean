/-
This file models the lines of the payouts, which itemise them for the accountants: one for
every unit of every package of an income, and one for a compensation.

A line is made of a transaction and its service request, but the payout it belongs to is
looked up by the request alone: it is the payout of the last transaction given for that
request. The lines of a payout therefore add up to it exactly if what is filed under it that
way but belongs elsewhere amounts to what belongs to it but is filed elsewhere.
-/

import FieldService.Payout.Factory
import FieldService.Wallet.Commands

namespace FieldService

open Grouping

/-! ### Loops that collect -/

/-- A `forEach` that pushes lists of results: an error in one round is the end of all. -/
def gather {Item Result : Type} (body : Item → Except AppError (List Result)) :
    List Item → Except AppError (List Result)
  | [] => .ok []
  | item :: rest => do
    let now ← body item
    let later ← gather body rest
    return now ++ later

/-- The results of a round; none when it throws. -/
def resultsOf {Result : Type} : Except AppError (List Result) → List Result
  | .ok results => results
  | .error _ => []

/-- A round ends without an error. -/
def Returns {Result : Type} (computation : Except AppError Result) : Prop :=
  ∃ result, computation = .ok result

/-- The loop returns exactly if every round does, and then with the results of all. -/
theorem gather_eq_ok_iff {Item Result : Type} (body : Item → Except AppError (List Result))
    (items : List Item) (results : List Result) :
    gather body items = .ok results ↔
      (∀ item ∈ items, Returns (body item)) ∧
        results = items.flatMap fun item => resultsOf (body item) := by
  induction items generalizing results with
  | nil =>
    simp only [gather, List.not_mem_nil, false_implies, implies_true, true_and,
      List.flatMap_nil, Except.ok.injEq]
    exact eq_comm
  | cons item rest later =>
    simp only [List.forall_mem_cons, List.flatMap_cons]
    constructor
    · intro succeeds
      obtain ⟨now, isNow, remaining⟩ := bind_eq_ok succeeds
      obtain ⟨others, isLater, joined⟩ := bind_eq_ok remaining
      obtain ⟨all, rfl⟩ := (later others).mp isLater
      cases joined
      exact ⟨⟨⟨now, isNow⟩, all⟩, by rw [isNow]; rfl⟩
    · rintro ⟨⟨⟨now, isNow⟩, all⟩, rfl⟩
      have isLater := (later _).mpr ⟨all, rfl⟩
      rw [gather, isLater, isNow]
      rfl

theorem gather_congr {Item Result : Type} {first second : Item → Except AppError (List Result)}
    {items : List Item} (same : ∀ item ∈ items, first item = second item) :
    gather first items = gather second items := by
  induction items with
  | nil => rfl
  | cons item rest later =>
    rw [gather, gather, same item List.mem_cons_self,
      later fun other member => same other (List.mem_cons_of_mem _ member)]

/-! ### Service requests with their packages -/

/-- A package a customer has ordered, with its prices a unit. -/
structure RequestedServicePackage where
  name : String
  quantity : Nat
  consumerQuotationUnitPrice : Money
  consumerQuotationDiscountedUnitPrice : Money
  serviceProviderQuotationUnitPrice : Money
  serviceProviderQuotationDiscountedUnitPrice : Money
  deriving DecidableEq, Repr

/-- `getServiceProviderQuotationTotal`, as `calculateServiceProviderTotals` sets it. -/
def RequestedServicePackage.getServiceProviderQuotationTotal
    (package : RequestedServicePackage) : Money :=
  package.quantity * package.serviceProviderQuotationDiscountedUnitPrice

def calculateServiceProviderTotal (servicePackages : List RequestedServicePackage) : Money :=
  servicePackages.foldl (fun total package => total + package.getServiceProviderQuotationTotal) 0

/-- A service request with what its lines read beyond it. The total of an order is only ever
set by its constructor, which adds up the packages. -/
structure OrderedServiceRequest extends ServiceRequest where
  customerName : String
  consumerPromotionCode : Option String
  consumerPromotionAmount : Money
  servicePackages : List RequestedServicePackage
  priced : customerOrder.serviceProviderTotal = calculateServiceProviderTotal servicePackages

/-! ### Payout lines -/

inductive PayoutLineTypeEnum where
  | servicePackage
  | rescheduleSurcharge
  deriving DecidableEq, Repr

structure PayoutLine where
  amount : Money
  walletTransactionId : Nat
  serviceRequestId : String
  payoutId : Option Uuid
  owner : PayableServiceProvider
  ownerVendorId : Option String
  principalGroup : Tenant
  customerName : String
  bank : Bank
  itemRefId : String
  itemDescription : String
  itemSalesAmount : Money
  itemType : PayoutLineTypeEnum
  consumerPromotionCode : Option String
  consumerPromotionAmount : Money
  consumerQuotationUnitPrice : Option Money
  serviceProviderQuotationUnitPrice : Option Money
  deriving DecidableEq, Repr

namespace PayoutLineFactory

/-- `GetBulkServiceRequestsQuery`. -/
def getBulkServiceRequests (stored : List OrderedServiceRequest) (ids : List String) :
    List OrderedServiceRequest :=
  stored.filter fun serviceRequest => ids.contains serviceRequest.id

def generateWalletTransactionLookup (payableTransactions : List WalletTransaction)
    (serviceRequestId : String) : Option WalletTransaction :=
  index (·.serviceRequestId) payableTransactions (some serviceRequestId)

def generateServiceRequestLookup (serviceRequests : List OrderedServiceRequest) (id : String) :
    Option OrderedServiceRequest :=
  index (fun serviceRequest => serviceRequest.id) serviceRequests id

/-- The owner of a line, of whom the bank is read at once. -/
def payee (serviceProviders : List PayableServiceProvider) (ownerId : Option Uuid) :
    Except AppError PayableServiceProvider :=
  match ownerId.bind (PayoutFactory.generateServiceProviderLookup serviceProviders) with
  | none => .error (.error "Cannot read property 'getBankInfo' of undefined")
  | some owner => .ok owner

/-- The transaction a line is booked under. -/
def bookedUnder (payableTransactions : List WalletTransaction) (serviceRequestId : String) :
    Except AppError WalletTransaction :=
  match generateWalletTransactionLookup payableTransactions serviceRequestId with
  | none => .error (.error "Cannot read property 'id' of undefined")
  | some transaction => .ok transaction

variable (payableTransactions : List WalletTransaction)
  (serviceProviders : List PayableServiceProvider)

/-- The line of one unit of a package. -/
def packageLine (serviceRequest : OrderedServiceRequest) (package : RequestedServicePackage)
    (owner : PayableServiceProvider) (booked : WalletTransaction) : PayoutLine where
  amount := package.serviceProviderQuotationDiscountedUnitPrice
  walletTransactionId := booked.id
  serviceRequestId := serviceRequest.id
  payoutId := booked.payoutId
  owner := owner
  ownerVendorId := owner.vendorId
  principalGroup := serviceRequest.principalGroup
  customerName := serviceRequest.customerName
  bank := owner.bank
  itemRefId := serviceRequest.id
  itemDescription := package.name
  itemSalesAmount := package.consumerQuotationDiscountedUnitPrice
  itemType := .servicePackage
  consumerPromotionCode := serviceRequest.consumerPromotionCode
  consumerPromotionAmount := serviceRequest.consumerPromotionAmount
  consumerQuotationUnitPrice := some package.consumerQuotationUnitPrice
  serviceProviderQuotationUnitPrice := some package.serviceProviderQuotationUnitPrice

def rescheduleSurchargeLine (serviceRequest : OrderedServiceRequest)
    (transaction : WalletTransaction) (owner : PayableServiceProvider)
    (booked : WalletTransaction) : PayoutLine where
  amount := transaction.amount
  walletTransactionId := booked.id
  serviceRequestId := serviceRequest.id
  payoutId := booked.payoutId
  owner := owner
  ownerVendorId := owner.vendorId
  principalGroup := transaction.principalGroup
  customerName := serviceRequest.customerName
  bank := owner.bank
  itemRefId := "Surcharge-" ++ serviceRequest.id
  itemDescription := "RESCHEDULE_SURCHARGE"
  itemSalesAmount := serviceRequest.getCustomerRescheduleOrder.consumerSurchargeAmount
  itemType := .rescheduleSurcharge
  consumerPromotionCode := serviceRequest.consumerPromotionCode
  consumerPromotionAmount := serviceRequest.consumerPromotionAmount
  consumerQuotationUnitPrice := none
  serviceProviderQuotationUnitPrice := none

/-- The line of a package is pushed once for every unit. -/
def packageLines (serviceRequest : OrderedServiceRequest) (package : RequestedServicePackage) :
    Except AppError (List PayoutLine) := do
  let dispatcherId ← Accounts.dispatcherOf serviceRequest.toServiceRequest
  let owner ← payee serviceProviders dispatcherId
  let booked ← bookedUnder payableTransactions serviceRequest.id
  return List.replicate package.quantity (packageLine serviceRequest package owner booked)

/-- One round of `generateIncomePayoutLines`. -/
def incomeLines (serviceRequests : List OrderedServiceRequest) (transaction : WalletTransaction) :
    Except AppError (List PayoutLine) :=
  match transaction.serviceRequestId.bind (generateServiceRequestLookup serviceRequests) with
  | none => .error (.error "Cannot read property 'getCustomerOrder' of undefined")
  | some serviceRequest =>
    gather (packageLines payableTransactions serviceProviders serviceRequest)
      serviceRequest.servicePackages

/-- One round of `generateRescheduleSurchargePayoutLines`. -/
def rescheduleSurchargeLines (serviceRequests : List OrderedServiceRequest)
    (transaction : WalletTransaction) : Except AppError (List PayoutLine) :=
  match transaction.serviceRequestId.bind (generateServiceRequestLookup serviceRequests) with
  | none => .error (.error "Cannot read property 'getId' of undefined")
  | some serviceRequest => do
    let owner ← payee serviceProviders (some transaction.ownerId)
    let booked ← bookedUnder payableTransactions serviceRequest.id
    return [rescheduleSurchargeLine serviceRequest transaction owner booked]

/-- `PayoutLineFactory.create`, with the service requests that are stored. -/
def create (stored : List OrderedServiceRequest) : Except AppError (List PayoutLine) := do
  let serviceRequests :=
    getBulkServiceRequests stored (payableTransactions.filterMap (·.serviceRequestId))
  let income ←
    gather (incomeLines payableTransactions serviceProviders serviceRequests)
      (payableTransactions.filter (·.type = .income))
  let surcharges ←
    gather (rescheduleSurchargeLines payableTransactions serviceProviders serviceRequests)
      (payableTransactions.filter (·.type = .rescheduleSurchargeCompensation))
  return income ++ surcharges

end PayoutLineFactory

end FieldService
