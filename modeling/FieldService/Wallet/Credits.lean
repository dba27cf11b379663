/-
This file says what the credits do to the transactions: a credit appends one row, made for one
service request and one owner, and an owner that is missing is the only thing that stops it.
How many rows of a kind there are is counted from that alone. A release appends nothing: it
saves the transaction that holds the amount once more.
-/

import FieldService.Wallet.Commands

namespace FieldService

open Table

/-! ### Credits -/

/-- The transaction credits a service request to an owner. -/
structure WalletTransaction.IsCredit (transaction : WalletTransaction)
    (type : WalletTransactionType) (ownerId : Uuid) (serviceRequest : ServiceRequest) : Prop where
  type : transaction.type = type
  ownerId : transaction.ownerId = ownerId
  source : transaction.source = .fromServiceRequest serviceRequest
  serviceRequestId : transaction.serviceRequestId = some serviceRequest.id

/-- The factory makes credits of a type, under the number it is given. -/
def CreditsAs (type : WalletTransactionType)
    (factory : Nat → Wallet → ServiceRequest → Wallet × WalletTransaction) : Prop :=
  ∀ id wallet serviceRequest,
    (factory id wallet serviceRequest).2.id = id ∧
      (factory id wallet serviceRequest).2.IsCredit type wallet.ownerId serviceRequest

theorem forIncome_credits : CreditsAs .income WalletTransaction.forIncome :=
  fun _ _ _ => ⟨rfl, rfl, rfl, rfl, rfl⟩

theorem forRescheduleSurchargeCompensation_credits :
    CreditsAs .rescheduleSurchargeCompensation
      WalletTransaction.forRescheduleSurchargeCompensation :=
  fun _ _ _ => ⟨rfl, rfl, rfl, rfl, rfl⟩

namespace Accounts

/-- The accounts have one credit more, and no other transaction is touched. -/
def Credited (accounts next : Accounts) (type : WalletTransactionType) (ownerId : Uuid)
    (serviceRequest : ServiceRequest) : Prop :=
  ∃ transaction : WalletTransaction, transaction.IsCredit type ownerId serviceRequest ∧
    next.transactions.rows = accounts.transactions.rows ++ [transaction]

theorem walletOf_ownerId (accounts : Accounts) (ownerId : Uuid) :
    (accounts.walletOf ownerId).ownerId = ownerId := by
  rw [walletOf]
  rcases found : accounts.wallets.find ownerId with _ | wallet
  · rfl
  · exact (accounts.wallets.find_key found).2

/-- A credit to an owner succeeds. -/
theorem credit_some {type : WalletTransactionType}
    {factory : Nat → Wallet → ServiceRequest → Wallet × WalletTransaction}
    (credits : CreditsAs type factory) (accounts : Accounts) (ownerId : Uuid)
    (serviceRequest : ServiceRequest) :
    ∃ next, accounts.credit factory (some ownerId) serviceRequest = .ok next ∧
      accounts.Credited next type ownerId serviceRequest := by
  obtain ⟨sameId, isCredit⟩ :=
    credits accounts.transactions.next (accounts.walletOf ownerId) serviceRequest
  rw [walletOf_ownerId] at isCredit
  refine ⟨_, rfl, _, isCredit, ?_⟩
  refine accounts.transactions.rows_save_of_find_eq_none ?_
  rw [sameId]
  exact accounts.transactions.find_next

theorem credit_none (factory : Nat → Wallet → ServiceRequest → Wallet × WalletTransaction)
    (accounts : Accounts) (serviceRequest : ServiceRequest) :
    ∃ error, accounts.credit factory none serviceRequest = .error error :=
  ⟨_, rfl⟩

/-- A dispatcher that can be read is the one of the service. -/
theorem dispatcherOf_eq_ok_iff (serviceRequest : ServiceRequest) (id : Uuid) :
    dispatcherOf serviceRequest = .ok (some id) ↔
      serviceRequest.service.dispatcherId = some id := by
  rw [dispatcherOf, Service.dispatcherId]
  cases serviceRequest.service.provider with
  | none => simp
  | some provider =>
    obtain ⟨dispatcher, worker, schedule⟩ := provider
    rw [Option.bind_some, Provider.dispatcherId]
    cases dispatcher <;> simp

/-- The income of a request goes to its dispatcher. -/
theorem creditIncome_some {serviceRequest : ServiceRequest} {ownerId : Uuid}
    (dispatched : serviceRequest.service.dispatcherId = some ownerId) (accounts : Accounts) :
    ∃ next, accounts.creditIncome serviceRequest = .ok next ∧
      accounts.Credited next .income ownerId serviceRequest := by
  rw [creditIncome, (dispatcherOf_eq_ok_iff serviceRequest ownerId).mpr dispatched]
  exact credit_some forIncome_credits accounts ownerId serviceRequest

theorem creditIncome_none {serviceRequest : ServiceRequest}
    (undispatched : serviceRequest.service.dispatcherId = none) (accounts : Accounts) :
    ∃ error, accounts.creditIncome serviceRequest = .error error := by
  rw [creditIncome]
  rcases dispatcher : dispatcherOf serviceRequest with error | ownerId
  · exact ⟨error, rfl⟩
  · rcases ownerId with _ | ownerId
    · exact ⟨_, rfl⟩
    · rw [dispatcherOf_eq_ok_iff, undispatched] at dispatcher
      cases dispatcher

/-! ### Releases -/

theorem pending_type {accounts : Accounts} {payoutId : Uuid} {transaction : WalletTransaction}
    (pending : accounts.getPendingPayoutTransactionByPayoutId payoutId = some transaction) :
    transaction ∈ accounts.transactions.rows ∧ transaction.payoutId = some payoutId ∧
      transaction.status = .pending ∧ transaction.type = .payout :=
  ⟨List.mem_of_find?_eq_some pending, by simpa using List.find?_some pending⟩

/-- There is something to release for a payout: it is stored, its owner has a wallet, and its
transaction is pending. -/
def releasable (accounts : Accounts) (payoutId : Uuid) : Bool :=
  (accounts.payouts.find payoutId).any fun payout =>
    (accounts.wallets.find payout.ownerId).isSome &&
      (accounts.getPendingPayoutTransactionByPayoutId payout.id).isSome

/-- A release that does not throw saves the pending transaction as a success, or nothing. -/
theorem releaseBalanceForPayout_cases {accounts after : Accounts} {payoutId : Uuid}
    (succeeds : accounts.releaseBalanceForPayout payoutId = .ok after) :
    (accounts.releasable payoutId = false ∧ after = accounts) ∨
      (accounts.releasable payoutId = true ∧ ∃ payout wallet pending,
        accounts.payouts.find payoutId = some payout ∧
          accounts.wallets.find payout.ownerId = some wallet ∧
          accounts.getPendingPayoutTransactionByPayoutId payout.id = some pending ∧
          after = accounts.record (wallet.releaseBalanceForPayout payout.amount,
            { pending with wallet := wallet.ownerId, status := .success })) := by
  obtain ⟨payout, found, released⟩ := bind_eq_ok succeeds
  have stored : accounts.payouts.find payoutId = some payout := by
    rw [foundPayout] at found
    split at found <;> cases found
    assumption
  rw [releasable, stored, Option.any_some]
  split at released
  · rename_i unowned
    cases released
    rw [unowned]
    exact Or.inl ⟨rfl, rfl⟩
  rename_i wallet owned
  split at released
  · rename_i unheld
    cases released
    rw [unheld, Option.isSome_none, Bool.and_false]
    exact Or.inl ⟨rfl, rfl⟩
  rename_i pending held
  rw [WalletTransaction.releasePayout, if_neg (not_not.mpr (pending_type held).2.2.2)] at released
  cases released
  rw [owned, held]
  exact Or.inr ⟨rfl, payout, wallet, pending, rfl, owned, held, rfl⟩

/-- A release that throws has found no payout. -/
theorem releasable_of_error {accounts : Accounts} {payoutId : Uuid} {error : AppError}
    (fails : accounts.releaseBalanceForPayout payoutId = .error error) :
    accounts.releasable payoutId = false := by
  obtain missing | ⟨payout, stored⟩ := Option.eq_none_or_eq_some (accounts.payouts.find payoutId)
  · rw [releasable, missing]
    rfl
  have found : accounts.foundPayout payoutId = .ok payout := by
    rw [foundPayout, stored]
  rw [releaseBalanceForPayout, found] at fails
  simp only [bind, Except.bind] at fails
  split at fails
  · cases fails
  split at fails
  · cases fails
  split at fails <;> cases fails

/-! ### Counting transactions -/

/-- How many transactions are of a kind. -/
def countOf (accounts : Accounts) (isOfKind : WalletTransaction → Bool) : Nat :=
  accounts.transactions.rows.countP isOfKind

theorem countOf_append {accounts next : Accounts} {transaction : WalletTransaction}
    (appended : next.transactions.rows = accounts.transactions.rows ++ [transaction])
    (isOfKind : WalletTransaction → Bool) :
    next.countOf isOfKind = accounts.countOf isOfKind + if isOfKind transaction then 1 else 0 := by
  rw [countOf, appended, List.countP_append, List.countP_singleton]
  rfl

/-! ### What the credits append -/

variable {accounts next : Accounts}

/-- Every transaction names the service request it comes from twice. -/
def Sourced (accounts : Accounts) : Prop :=
  ∀ transaction ∈ accounts.transactions.rows,
    transaction.serviceRequestId = some transaction.source.id

/-- Some credits more, and no other transaction is touched. -/
def Appends (accounts next : Accounts) : Prop :=
  ∃ added, next.transactions.rows = accounts.transactions.rows ++ added ∧
    ∀ transaction ∈ added, transaction.serviceRequestId = some transaction.source.id

theorem Appends.refl (accounts : Accounts) : accounts.Appends accounts :=
  ⟨[], by simp, by simp⟩

theorem Appends.trans {last : Accounts} (first : accounts.Appends next)
    (second : next.Appends last) : accounts.Appends last := by
  obtain ⟨added, rows, sourced⟩ := first
  obtain ⟨more, lastRows, moreSourced⟩ := second
  refine ⟨added ++ more, by rw [lastRows, rows, List.append_assoc], fun transaction member => ?_⟩
  rcases List.mem_append.mp member with early | late
  · exact sourced transaction early
  · exact moreSourced transaction late

theorem Credited.appends {type : WalletTransactionType} {ownerId : Uuid}
    {serviceRequest : ServiceRequest}
    (credited : accounts.Credited next type ownerId serviceRequest) : accounts.Appends next := by
  obtain ⟨transaction, isCredit, rows⟩ := credited
  refine ⟨[transaction], rows, fun other member => ?_⟩
  rw [List.mem_singleton.mp member, isCredit.serviceRequestId, isCredit.source]
  rfl

theorem Sourced.appends (sourced : accounts.Sourced) (appends : accounts.Appends next) :
    next.Sourced := by
  obtain ⟨added, rows, addedSourced⟩ := appends
  intro transaction member
  rw [rows] at member
  rcases List.mem_append.mp member with before | new
  · exact sourced transaction before
  · exact addedSourced transaction new

/-- A kind within another grows by no more than that. -/
theorem Appends.countOf_le (appends : accounts.Appends next)
    (part whole : WalletTransaction → Bool)
    (inside : ∀ transaction, part transaction = true → whole transaction = true) :
    next.countOf part + accounts.countOf whole ≤ next.countOf whole + accounts.countOf part := by
  obtain ⟨added, rows, -⟩ := appends
  have fewer : added.countP part ≤ added.countP whole :=
    List.countP_mono_left fun transaction _ => inside transaction
  simp only [countOf, rows, List.countP_append]
  omega

end Accounts

end FieldService
