/-
This file models the wallets of the service providers and their transactions.

A wallet carries two running totals, and every movement of money is recorded in a
transaction row as well. The factories of the transaction change both: each returns the
wallet it has charged next to the row it has made.
-/

import FieldService.ServiceRequest.Entity

namespace FieldService

/-! ### Enumerations -/

inductive WalletTransactionType where
  | income
  | refund
  | topUp
  | payout
  | rescheduleSurchargeCompensation
  deriving DecidableEq, Repr

inductive WalletTransactionStatusEnum where
  | pending
  | success
  | failed
  deriving DecidableEq, Repr

inductive SourceTypeEnum where
  | payout
  | refund
  | serviceRequest
  deriving DecidableEq, Repr

/-! ### Payouts -/

/-- What the wallets read of a payout. -/
structure Payout where
  id : Uuid
  amount : Money
  ownerId : Uuid
  principalGroup : Tenant
  deriving DecidableEq, Repr

/-! ### Wallets -/

/-- A wallet. Its owner is unique, so the wallet is known by it. -/
structure Wallet where
  ownerId : Uuid
  availableBalance : Money
  holdBalance : Money
  prepaidBalance : Money
  deriving DecidableEq, Repr

namespace Wallet

def fromOwner (ownerId : Uuid) : Wallet := ⟨ownerId, 0, 0, 0⟩

def debit (wallet : Wallet) (amount : Money) : Wallet :=
  { wallet with availableBalance := wallet.availableBalance + amount }

def holdBalanceForPayout (wallet : Wallet) (amount : Money) : Wallet :=
  { wallet with
    availableBalance := wallet.availableBalance - amount
    holdBalance := wallet.holdBalance + amount }

def releaseBalanceForPayout (wallet : Wallet) (amount : Money) : Wallet :=
  { wallet with holdBalance := wallet.holdBalance - amount }

end Wallet

/-! ### Wallet transactions -/

/-- The resource a transaction comes from. -/
structure Source where
  id : String
  type : SourceTypeEnum
  deriving DecidableEq, Repr

def Source.fromServiceRequest (serviceRequest : ServiceRequest) : Source :=
  ⟨serviceRequest.id, .serviceRequest⟩

def Source.fromPayout (payoutId : Uuid) : Source :=
  ⟨payoutId.value, .payout⟩

/-- A row of `wallet_transactions`. Its wallet is given by the owner. -/
structure WalletTransaction where
  id : Nat
  amount : Money
  ownerId : Uuid
  principalGroup : Tenant
  type : WalletTransactionType
  wallet : Uuid
  status : WalletTransactionStatusEnum
  source : Source
  payoutId : Option Uuid
  serviceRequestId : Option String
  deriving DecidableEq, Repr

namespace WalletTransaction

/-- The transaction that credits a wallet with an amount earned by a service request. Its
status is left to the default of the column. -/
def forServiceRequest (type : WalletTransactionType) (amount : Money) (id : Nat)
    (wallet : Wallet) (serviceRequest : ServiceRequest) : Wallet × WalletTransaction :=
  (wallet.debit amount,
    { id := id
      amount := amount
      ownerId := wallet.ownerId
      principalGroup := serviceRequest.principalGroup
      type := type
      wallet := wallet.ownerId
      status := .success
      source := .fromServiceRequest serviceRequest
      payoutId := none
      serviceRequestId := some serviceRequest.id })

def forRescheduleSurchargeCompensation (id : Nat) (wallet : Wallet)
    (serviceRequest : ServiceRequest) : Wallet × WalletTransaction :=
  forServiceRequest .rescheduleSurchargeCompensation
    serviceRequest.getCustomerRescheduleOrder.impactedServiceProviderCompensationAmount id wallet
    serviceRequest

/-- `forIncome`, of the earning of the provider. -/
def forIncome (id : Nat) (wallet : Wallet) (serviceRequest : ServiceRequest) :
    Wallet × WalletTransaction :=
  forServiceRequest .income serviceRequest.customerOrder.serviceProviderTotal id wallet
    serviceRequest

def forPayout (id : Nat) (wallet : Wallet) (payout : Payout) : Wallet × WalletTransaction :=
  (wallet.holdBalanceForPayout payout.amount,
    { id := id
      amount := -payout.amount
      ownerId := wallet.ownerId
      principalGroup := payout.principalGroup
      type := .payout
      wallet := wallet.ownerId
      status := .pending
      source := .fromPayout payout.id
      payoutId := some payout.id
      serviceRequestId := none })

/-- `releasePayout`; `none` when it returns false. -/
def releasePayout (transaction : WalletTransaction) (wallet : Wallet) (payout : Payout) :
    Option (Wallet × WalletTransaction) :=
  if transaction.type ≠ .payout then none
  else
    some
      (wallet.releaseBalanceForPayout payout.amount,
        { transaction with wallet := wallet.ownerId, status := .success })

/-- The transaction can be part of a payout: it is one of the two kinds of credit and is not
part of a payout yet. -/
def isDebitable (transaction : WalletTransaction) : Bool :=
  (transaction.type = .income || transaction.type = .rescheduleSurchargeCompensation) &&
    transaction.payoutId.isNone

/-- The transaction becomes part of a payout, when it is chosen and can be. -/
def attach (payoutId : Uuid) (chosen : List Nat) (transaction : WalletTransaction) :
    WalletTransaction :=
  if chosen.contains transaction.id && transaction.isDebitable then
    { transaction with payoutId := some payoutId }
  else transaction

/-- What becomes part of a payout stays where it is and what it is. -/
theorem attach_keeps (payoutId : Uuid) (chosen : List Nat) (transaction : WalletTransaction) :
    (transaction.attach payoutId chosen).id = transaction.id ∧
      (transaction.attach payoutId chosen).amount = transaction.amount ∧
      (transaction.attach payoutId chosen).wallet = transaction.wallet ∧
      (transaction.attach payoutId chosen).type = transaction.type ∧
      (transaction.attach payoutId chosen).status = transaction.status := by
  unfold attach
  split <;> exact ⟨rfl, rfl, rfl, rfl, rfl⟩

/-- A payout is no part of another one. -/
theorem attach_of_payout (payoutId : Uuid) (chosen : List Nat) {transaction : WalletTransaction}
    (isPayout : transaction.type = .payout) :
    transaction.attach payoutId chosen = transaction := by
  simp [attach, isDebitable, isPayout]

/-- The amount is held: a payout that has not been released yet. -/
def isHeld (transaction : WalletTransaction) : Bool :=
  transaction.type = .payout && transaction.status = .pending

end WalletTransaction

end FieldService
