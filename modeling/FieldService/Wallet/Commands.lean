/-
This file models the wallet commands: who is credited, when an amount is held for a payout
and released again, and how missing transactions are made up for.

Every command reads the wallet, charges it and saves it together with one transaction row,
in one database transaction. The regeneration does so once for each service request it
finds; when it throws in the middle, what it has saved by then stays.
-/

import FieldService.Library.Execution
import FieldService.Library.Table
import FieldService.Wallet.Entity

namespace FieldService

/-- The wallets, their transactions, and the payouts that have been scheduled. -/
structure Accounts where
  wallets : Table Uuid Wallet (·.ownerId)
  transactions : Table Nat WalletTransaction (·.id)
  payouts : Table Uuid Payout (·.id)

namespace Accounts

def empty : Accounts := ⟨.empty, .empty, .empty⟩

variable (accounts : Accounts)

/-- Saving a transaction saves its wallet with it. -/
def record (charged : Wallet × WalletTransaction) : Accounts :=
  { accounts with
    wallets := accounts.wallets.save charged.1
    transactions := accounts.transactions.save charged.2 }

/-! ### Credits -/

/-- The wallet of an owner, found or made. -/
def walletOf (ownerId : Uuid) : Wallet :=
  (accounts.wallets.find ownerId).getD (.fromOwner ownerId)

/-- Credits the owner's wallet with what the factory makes of a service request. An owner
that is `null` has no wallet, and the database refuses to save one for it. -/
def credit (factory : Nat → Wallet → ServiceRequest → Wallet × WalletTransaction)
    (ownerId : Option Uuid) (serviceRequest : ServiceRequest) : Except AppError Accounts :=
  match ownerId with
  | none => .error (.error "null value in column owner_id violates not-null constraint")
  | some ownerId =>
    .ok (accounts.record
      (factory accounts.transactions.next (accounts.walletOf ownerId) serviceRequest))

/-- `serviceRequest.getServiceProvider().dispatcher.id`. -/
def dispatcherOf (serviceRequest : ServiceRequest) : Except AppError (Option Uuid) :=
  match serviceRequest.service.provider with
  | none => .error (.error "Cannot read property 'dispatcher' of null")
  | some provider =>
    match provider.dispatcher with
    | none => .error (.error "Cannot read property 'id' of null")
    | some dispatcher => .ok dispatcher.id

/-- The dispatcher is credited with the income of a service request. -/
def creditIncome (serviceRequest : ServiceRequest) : Except AppError Accounts := do
  let ownerId ← dispatcherOf serviceRequest
  accounts.credit WalletTransaction.forIncome ownerId serviceRequest

/-- The impacted provider is credited with the compensation of a service request. -/
def creditCompensation (serviceRequest : ServiceRequest) : Except AppError Accounts :=
  accounts.credit WalletTransaction.forRescheduleSurchargeCompensation
    serviceRequest.getCustomerRescheduleOrder.impactedServiceProviderId serviceRequest

/-- The service request a query found; `EntityNotFoundError` otherwise. -/
def foundServiceRequest (serviceRequestId : String) (found : Option ServiceRequest) :
    Except AppError ServiceRequest :=
  match found with
  | none => .error (.entityNotFound "ServiceRequest" serviceRequestId)
  | some serviceRequest => .ok serviceRequest

/-- `CreateIncomeTransactionHandler.execute`. -/
def createIncomeTransaction (serviceRequestId : String) (found : Option ServiceRequest) :
    Except AppError Accounts := do
  let serviceRequest ← foundServiceRequest serviceRequestId found
  accounts.creditIncome serviceRequest

/-- The impacted provider has been compensated for the service request. -/
def compensatedSurcharge (serviceRequest : ServiceRequest) : Bool :=
  accounts.transactions.rows.any fun transaction =>
    some transaction.ownerId =
        serviceRequest.getCustomerRescheduleOrder.impactedServiceProviderId ∧
      transaction.type = .rescheduleSurchargeCompensation ∧
      transaction.source.id = serviceRequest.id

/-- `CreateRescheduleSurchargeCompensationTransactionHandler.execute`. -/
def createRescheduleSurchargeCompensationTransaction (serviceRequestId : String)
    (found : Option ServiceRequest) : Except AppError Accounts := do
  let serviceRequest ← foundServiceRequest serviceRequestId found
  if !serviceRequest.hasBeenRescheduledOnce ||
      !serviceRequest.getCustomerRescheduleOrder.surchargeRequired ||
      !serviceRequest.hasCustomerPaid .ecRescheduleSurcharge then
    return accounts
  else if accounts.compensatedSurcharge serviceRequest then
    return accounts
  else
    accounts.creditCompensation serviceRequest

/-- `GenerateTestWalletTransactionsHandler.execute`. -/
def generateTestWalletTransactions (serviceRequestId : String) (found : Option ServiceRequest) :
    Except AppError Accounts := do
  let serviceRequest ← foundServiceRequest serviceRequestId found
  if !serviceRequest.service.hasBeenAssignedOrAllocated then
    throw (.error
      "Fail to generate test wallet transactions, service request not allocated yet")
  accounts.creditIncome serviceRequest

/-! ### Payouts -/

def foundPayout (payoutId : Uuid) : Except AppError Payout :=
  match accounts.payouts.find payoutId with
  | none => .error (.entityNotFound "Payout" payoutId.value)
  | some payout => .ok payout

/-- `HoldBalanceForPayoutHandler.execute`. -/
def holdBalanceForPayout (payoutId : Uuid) : Except AppError Accounts := do
  let payout ← accounts.foundPayout payoutId
  let walletPayouts := accounts.transactions.rows.filter fun transaction =>
    transaction.type = .payout ∧ transaction.payoutId = some payoutId
  if walletPayouts.length > 0 then
    return accounts
  match accounts.wallets.find payout.ownerId with
  | none => return accounts
  | some wallet =>
    return accounts.record (WalletTransaction.forPayout accounts.transactions.next wallet payout)

/-- `getPendingPayoutTransactionByPayoutId`. -/
def getPendingPayoutTransactionByPayoutId (payoutId : Uuid) : Option WalletTransaction :=
  accounts.transactions.rows.find? fun transaction =>
    transaction.payoutId = some payoutId ∧ transaction.status = .pending ∧
      transaction.type = .payout

/-- `ReleaseBalanceForPayoutHandler.execute`. -/
def releaseBalanceForPayout (payoutId : Uuid) : Except AppError Accounts := do
  let payout ← accounts.foundPayout payoutId
  match accounts.wallets.find payout.ownerId with
  | none => return accounts
  | some wallet =>
    match accounts.getPendingPayoutTransactionByPayoutId payout.id with
    | none => return accounts
    | some walletTransaction =>
      match walletTransaction.releasePayout wallet payout with
      | none => return accounts
      | some released => return accounts.record released

/-- A payout is scheduled: it is saved under a fresh identifier, and those of the given
transactions that can be part of a payout become part of it. -/
def schedulePayout (payout : Payout) (chosen : List Nat) : Accounts :=
  if (accounts.payouts.find payout.id).isSome then accounts
  else
    { accounts with
      payouts := accounts.payouts.save payout
      transactions := accounts.transactions.rewrite (·.attach payout.id chosen)
        fun transaction => (transaction.attach_keeps payout.id chosen).1 }

/-! ### Regeneration -/

/-- One loop over service requests. An error ends it, and what was saved stays. -/
def forEach (body : Accounts → ServiceRequest → Except AppError Accounts) :
    List ServiceRequest → Accounts → Accounts × Option AppError
  | [], accounts => (accounts, none)
  | serviceRequest :: rest, accounts =>
    match body accounts serviceRequest with
    | .error error => (accounts, some error)
    | .ok next => forEach body rest next

def regenIncome (serviceRequest : ServiceRequest) : Except AppError Accounts :=
  if serviceRequest.service.hasBeenFulfilled &&
      serviceRequest.service.hasBeenAssignedOrAllocated then
    accounts.creditIncome serviceRequest
  else .ok accounts

def regenCompensation (serviceRequest : ServiceRequest) : Except AppError Accounts :=
  if (serviceRequest.service.status = .failed || serviceRequest.service.hasBeenFulfilled) &&
      serviceRequest.hasCustomerPaid .ecRescheduleSurcharge then
    accounts.creditCompensation serviceRequest
  else .ok accounts

/-- `RegenMissingWalletTransactionsFromFulfilledServiceRequestsHandler.execute`, for the
service requests its query found: the accounts afterwards, and what was thrown. -/
def regenMissingWalletTransactions (serviceRequests : List ServiceRequest) :
    Accounts × Option AppError :=
  match forEach regenIncome serviceRequests accounts with
  | (credited, some error) => (credited, some error)
  | (credited, none) => forEach regenCompensation serviceRequests credited

end Accounts

/-! ### Runs -/

/-- A wallet command with what its queries answer, or the scheduling of a payout. -/
inductive WalletCommand where
  | createIncomeTransaction (serviceRequestId : String) (found : Option ServiceRequest)
  | createRescheduleSurchargeCompensationTransaction (serviceRequestId : String)
      (found : Option ServiceRequest)
  | generateTestWalletTransactions (serviceRequestId : String) (found : Option ServiceRequest)
  | holdBalanceForPayout (payoutId : Uuid)
  | releaseBalanceForPayout (payoutId : Uuid)
  | regenMissingWalletTransactions (serviceRequests : List ServiceRequest)
  | schedulePayout (payout : Payout) (chosen : List Nat)

/-- The accounts after a handler. One that throws has saved nothing. -/
def Accounts.settle (accounts : Accounts) : Except AppError Accounts → Accounts
  | .ok next => next
  | .error _ => accounts

/-- One step: a command is executed to its end. -/
def Accounts.step (accounts : Accounts) : WalletCommand → Accounts
  | .createIncomeTransaction serviceRequestId found =>
    accounts.settle (accounts.createIncomeTransaction serviceRequestId found)
  | .createRescheduleSurchargeCompensationTransaction serviceRequestId found =>
    accounts.settle
      (accounts.createRescheduleSurchargeCompensationTransaction serviceRequestId found)
  | .generateTestWalletTransactions serviceRequestId found =>
    accounts.settle (accounts.generateTestWalletTransactions serviceRequestId found)
  | .holdBalanceForPayout payoutId => accounts.settle (accounts.holdBalanceForPayout payoutId)
  | .releaseBalanceForPayout payoutId =>
    accounts.settle (accounts.releaseBalanceForPayout payoutId)
  | .regenMissingWalletTransactions serviceRequests =>
    (accounts.regenMissingWalletTransactions serviceRequests).1
  | .schedulePayout payout chosen => accounts.schedulePayout payout chosen

end FieldService
