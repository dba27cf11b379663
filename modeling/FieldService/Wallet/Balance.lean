/-
This file proves that the two running totals of every wallet agree with its transactions:
what is available is the sum of all amounts, and what is on hold is what the pending payouts
have taken.

Every command charges a wallet and saves one transaction with it. `Balanced.record` says
when that keeps the totals in agreement, for a new transaction and for one that is saved
again. Releasing a payout takes its amount out of the wallet of its owner, and not out of
the wallet the amount was held in; that the two are the same, and the amount is the one that
was held, is the third part of the invariant.
-/

import Mathlib.Algebra.Order.Field.Rat
import FieldService.Lifecycle.Operations
import FieldService.Wallet.Credits

namespace FieldService

open Execution Table

namespace Accounts

/-! ### The two views of a wallet -/

def availableBalance (accounts : Accounts) (owner : Uuid) : Money :=
  ((accounts.wallets.find owner).map (·.availableBalance)).getD 0

def holdBalance (accounts : Accounts) (owner : Uuid) : Money :=
  ((accounts.wallets.find owner).map (·.holdBalance)).getD 0

/-- The sum of the amounts of those transactions of an owner's wallet that count. -/
def amountOf (accounts : Accounts) (counts : WalletTransaction → Bool) (owner : Uuid) : Money :=
  accounts.transactions.total
    (fun transaction => transaction.wallet = owner && counts transaction) (·.amount)

/-- The running totals agree with the transactions, and every payout transaction is the
hold of a scheduled payout, in the wallet of its owner. -/
structure Balanced (accounts : Accounts) : Prop where
  available : ∀ owner, accounts.availableBalance owner = accounts.amountOf (fun _ => true) owner
  hold : ∀ owner, accounts.holdBalance owner = -accounts.amountOf (·.isHeld) owner
  backed : ∀ transaction ∈ accounts.transactions.rows, transaction.type = .payout →
    ∃ payout, transaction.payoutId = some payout.id ∧
      accounts.payouts.find payout.id = some payout ∧
      transaction.amount = -payout.amount ∧ transaction.wallet = payout.ownerId

theorem balanced_empty : empty.Balanced where
  available _ := rfl
  hold _ := by
    rw [show empty.amountOf (·.isHeld) _ = 0 from rfl, neg_zero]
    rfl
  backed _ member := by cases member

/-! ### Saving a transaction with its wallet -/

section Record

variable {accounts : Accounts} {wallet : Wallet} {transaction : WalletTransaction}

theorem availableBalance_record (owner : Uuid) :
    (accounts.record (wallet, transaction)).availableBalance owner =
      if wallet.ownerId = owner then wallet.availableBalance
      else accounts.availableBalance owner := by
  unfold availableBalance record
  rw [find_save]
  split <;> rfl

theorem holdBalance_record (owner : Uuid) :
    (accounts.record (wallet, transaction)).holdBalance owner =
      if wallet.ownerId = owner then wallet.holdBalance else accounts.holdBalance owner := by
  unfold holdBalance record
  rw [find_save]
  split <;> rfl

/-- Saving a transaction changes the sums of its own wallet only, by what it adds less what
it added before. -/
theorem amountOf_record (counts : WalletTransaction → Bool)
    (own : transaction.wallet = wallet.ownerId)
    (sameWallet : ∀ old ∈ accounts.transactions.find transaction.id, old.wallet = wallet.ownerId)
    (owner : Uuid) :
    (accounts.record (wallet, transaction)).amountOf counts owner =
      if wallet.ownerId = owner then
        accounts.amountOf counts owner + share counts (·.amount) (some transaction) -
          share counts (·.amount) (accounts.transactions.find transaction.id)
      else accounts.amountOf counts owner := by
  have saved := accounts.transactions.total_save
    (fun other => other.wallet = owner && counts other) (·.amount) transaction
  unfold amountOf record
  by_cases hit : wallet.ownerId = owner
  · rw [if_pos hit]
    rw [share_inside counts _ fun old found => by simp [sameWallet old found, hit],
      share_inside counts _ fun new found => by cases found; simp [own, hit]] at saved
    exact eq_sub_of_add_eq saved
  · rw [if_neg hit]
    rw [share_outside counts _ fun old found => by simp [sameWallet old found, hit],
      share_outside counts _ fun new found => by cases found; simp [own, hit], add_zero,
      add_zero] at saved
    exact saved

/-- Saving a transaction with its wallet keeps the balance when the wallet was charged by
what the transaction adds to its sums, less what the stored one, if any, added. -/
theorem Balanced.record (balanced : accounts.Balanced)
    (own : transaction.wallet = wallet.ownerId) {old : Option WalletTransaction}
    (stored : accounts.transactions.find transaction.id = old)
    (sameWallet : ∀ before ∈ old, before.wallet = wallet.ownerId)
    (available : wallet.availableBalance =
      accounts.availableBalance wallet.ownerId + transaction.amount -
        share (fun _ => true) (·.amount) old)
    (hold : wallet.holdBalance =
      accounts.holdBalance wallet.ownerId - share (·.isHeld) (·.amount) (some transaction) +
        share (·.isHeld) (·.amount) old)
    (backed : transaction.type = .payout → ∃ payout, transaction.payoutId = some payout.id ∧
      accounts.payouts.find payout.id = some payout ∧
      transaction.amount = -payout.amount ∧ transaction.wallet = payout.ownerId) :
    (accounts.record (wallet, transaction)).Balanced where
  available owner := by
    rw [availableBalance_record, amountOf_record _ own (stored ▸ sameWallet), stored]
    by_cases hit : wallet.ownerId = owner
    · rw [if_pos hit, if_pos hit, available, hit, balanced.available]
      rfl
    · rw [if_neg hit, if_neg hit, balanced.available]
  hold owner := by
    rw [holdBalance_record, amountOf_record _ own (stored ▸ sameWallet), stored]
    by_cases hit : wallet.ownerId = owner
    · rw [if_pos hit, if_pos hit, hold, hit, balanced.hold]
      abel
    · rw [if_neg hit, if_neg hit, balanced.hold]
  backed other member payoutType := by
    obtain rfl | old := accounts.transactions.mem_save member
    · exact backed payoutType
    · exact balanced.backed other old payoutType

end Record

/-! ### The commands -/

variable {accounts : Accounts}

theorem walletOf_availableBalance (accounts : Accounts) (owner : Uuid) :
    (accounts.walletOf owner).availableBalance = accounts.availableBalance owner := by
  unfold walletOf availableBalance
  rcases accounts.wallets.find owner with _ | wallet <;> rfl

theorem walletOf_holdBalance (accounts : Accounts) (owner : Uuid) :
    (accounts.walletOf owner).holdBalance = accounts.holdBalance owner := by
  unfold walletOf holdBalance
  rcases accounts.wallets.find owner with _ | wallet <;> rfl

/-- A wallet that is found is the one that would be credited. -/
theorem walletOf_of_find {owner : Uuid} {wallet : Wallet}
    (found : accounts.wallets.find owner = some wallet) : accounts.walletOf owner = wallet := by
  rw [walletOf, found]
  rfl

/-- A credit keeps the balance, whatever it is for. -/
theorem Balanced.credit (balanced : accounts.Balanced) {type : WalletTransactionType}
    {amount : ServiceRequest → Money} (notPayout : type ≠ .payout) {owner : Option Uuid}
    {serviceRequest : ServiceRequest} {after : Accounts}
    (succeeds : accounts.credit
      (fun id wallet serviceRequest =>
        WalletTransaction.forServiceRequest type (amount serviceRequest) id wallet serviceRequest)
      owner serviceRequest = .ok after) : after.Balanced := by
  rcases owner with _ | owner
  · cases succeeds
  cases succeeds
  refine balanced.record rfl accounts.transactions.find_next (by simp) ?_ ?_ fun payoutType =>
    absurd payoutType notPayout
  · show (accounts.walletOf owner).availableBalance + amount serviceRequest =
      accounts.availableBalance (accounts.walletOf owner).ownerId + amount serviceRequest - 0
    rw [walletOf_ownerId, walletOf_availableBalance, sub_zero]
  · have unheld : share (·.isHeld) (·.amount)
        (some (WalletTransaction.forServiceRequest type (amount serviceRequest)
          accounts.transactions.next (accounts.walletOf owner) serviceRequest).2) = 0 := by
      simp [share, WalletTransaction.isHeld, WalletTransaction.forServiceRequest]
    refine Eq.trans ?_ (congrArg (accounts.holdBalance _ - · + 0) unheld.symm)
    show (accounts.walletOf owner).holdBalance =
      accounts.holdBalance (accounts.walletOf owner).ownerId - 0 + 0
    rw [walletOf_ownerId, walletOf_holdBalance, sub_zero, add_zero]

theorem Balanced.creditIncome (balanced : accounts.Balanced) {serviceRequest : ServiceRequest}
    {after : Accounts} (succeeds : accounts.creditIncome serviceRequest = .ok after) :
    after.Balanced := by
  obtain ⟨owner, -, credited⟩ := bind_eq_ok succeeds
  have notPayout : WalletTransactionType.income ≠ .payout := by simp
  exact balanced.credit notPayout credited

theorem Balanced.creditCompensation (balanced : accounts.Balanced)
    {serviceRequest : ServiceRequest} {after : Accounts}
    (succeeds : accounts.creditCompensation serviceRequest = .ok after) : after.Balanced := by
  have notPayout : WalletTransactionType.rescheduleSurchargeCompensation ≠ .payout := by simp
  exact balanced.credit notPayout succeeds

theorem foundPayout_eq_ok {payoutId : Uuid} {payout : Payout}
    (succeeds : accounts.foundPayout payoutId = .ok payout) :
    accounts.payouts.find payout.id = some payout ∧ payout.id = payoutId := by
  unfold foundPayout at succeeds
  split at succeeds
  · cases succeeds
  · rename_i found
    cases succeeds
    have sameId := (accounts.payouts.find_key found).2
    exact ⟨sameId ▸ found, sameId⟩

/-- A hold takes from the available amount what its transaction takes. -/
theorem Balanced.holdBalanceForPayout (balanced : accounts.Balanced) {payoutId : Uuid}
    {after : Accounts} (succeeds : accounts.holdBalanceForPayout payoutId = .ok after) :
    after.Balanced := by
  obtain ⟨payout, found, held⟩ := bind_eq_ok succeeds
  obtain ⟨scheduled, -⟩ := foundPayout_eq_ok found
  dsimp only at held
  split at held
  · cases held
    exact balanced
  split at held
  · cases held
    exact balanced
  rename_i wallet owned
  cases held
  have sameOwner : wallet.ownerId = payout.ownerId := (accounts.wallets.find_key owned).2
  refine balanced.record rfl accounts.transactions.find_next (by simp) ?_ ?_ fun _ =>
    ⟨payout, rfl, scheduled, rfl, sameOwner⟩
  · show wallet.availableBalance - payout.amount =
      accounts.availableBalance wallet.ownerId + -payout.amount - 0
    rw [sameOwner, ← walletOf_availableBalance, walletOf_of_find owned, sub_eq_add_neg, sub_zero]
  · show wallet.holdBalance + payout.amount =
      accounts.holdBalance wallet.ownerId - -payout.amount + 0
    rw [sameOwner, ← walletOf_holdBalance, walletOf_of_find owned, sub_neg_eq_add, add_zero]

/-- A release takes from the held amount what the transaction held: the payout has not
changed since. -/
theorem Balanced.releaseBalanceForPayout (balanced : accounts.Balanced) {payoutId : Uuid}
    {after : Accounts} (succeeds : accounts.releaseBalanceForPayout payoutId = .ok after) :
    after.Balanced := by
  rcases releaseBalanceForPayout_cases succeeds with
    ⟨-, rfl⟩ | ⟨-, payout, wallet, transaction, stored, owned, pending, rfl⟩
  · exact balanced
  obtain rfl := (accounts.payouts.find_key stored).2
  have sameOwner : wallet.ownerId = payout.ownerId := (accounts.wallets.find_key owned).2
  obtain ⟨member, ofPayout, isPending, isPayout⟩ := pending_type pending
  obtain ⟨holder, held, heldScheduled, heldAmount, heldOwner⟩ :=
    balanced.backed transaction member isPayout
  have same : holder = payout := by
    have sameId : holder.id = payout.id := Option.some.inj (held.symm.trans ofPayout)
    rw [sameId, stored] at heldScheduled
    exact (Option.some.inj heldScheduled).symm
  subst same
  have before := accounts.transactions.find_of_mem member
  refine balanced.record rfl before (fun before found => ?_) ?_ ?_ fun _ =>
    ⟨holder, ofPayout, stored, heldAmount, sameOwner⟩
  · cases found
    exact heldOwner.trans sameOwner.symm
  · show wallet.availableBalance = accounts.availableBalance wallet.ownerId +
      transaction.amount - transaction.amount
    rw [sameOwner, ← walletOf_availableBalance, walletOf_of_find owned, add_sub_cancel_right]
  · have wasHeld : share (·.isHeld) (·.amount) (some transaction) = -holder.amount := by
      simp [share, WalletTransaction.isHeld, isPayout, isPending, heldAmount]
    rw [wasHeld]
    simp only [share, WalletTransaction.isHeld]
    show wallet.holdBalance - holder.amount =
      accounts.holdBalance wallet.ownerId - _ + -holder.amount
    rw [sameOwner, ← walletOf_holdBalance, walletOf_of_find owned]
    simp [sub_eq_add_neg]

/-- Scheduling a payout marks transactions and moves no money. -/
theorem Balanced.schedulePayout (balanced : accounts.Balanced) (payout : Payout)
    (chosen : List Nat) : (accounts.schedulePayout payout chosen).Balanced := by
  unfold Accounts.schedulePayout
  split
  · exact balanced
  rename_i fresh
  have amountOf_kept {counts : WalletTransaction → Bool}
      (keeps : ∀ transaction, counts (transaction.attach payout.id chosen) = counts transaction)
      (owner : Uuid) :
      (accounts.transactions.rewrite (·.attach payout.id chosen) fun transaction =>
          (transaction.attach_keeps payout.id chosen).1).total
          (fun transaction => transaction.wallet = owner && counts transaction) (·.amount) =
        accounts.amountOf counts owner := by
    refine total_rewrite _ _ _ _ (fun transaction _ => ?_) fun transaction _ =>
      (transaction.attach_keeps payout.id chosen).2.1
    rw [keeps, (transaction.attach_keeps payout.id chosen).2.2.1]
  refine ⟨fun owner => ?_, fun owner => ?_, fun transaction member payoutType => ?_⟩
  · exact (balanced.available owner).trans (amountOf_kept (fun _ => rfl) owner).symm
  · refine (balanced.hold owner).trans
      (congrArg _ (amountOf_kept (fun transaction => ?_) owner).symm)
    obtain ⟨-, -, -, sameType, sameStatus⟩ := transaction.attach_keeps payout.id chosen
    rw [WalletTransaction.isHeld, sameType, sameStatus, WalletTransaction.isHeld]
  · obtain ⟨original, originalMember, rfl⟩ := List.mem_map.mp member
    have originalType : original.type = .payout :=
      (original.attach_keeps payout.id chosen).2.2.2.1.symm.trans payoutType
    rw [original.attach_of_payout _ _ originalType]
    obtain ⟨holder, held, scheduled, amount, owner⟩ :=
      balanced.backed original originalMember originalType
    refine ⟨holder, held, ?_, amount, owner⟩
    show (accounts.payouts.save payout).find holder.id = some holder
    rw [find_save, if_neg, scheduled]
    intro sameId
    rw [sameId, scheduled] at fresh
    exact fresh rfl

/-! ### Runs -/

theorem Balanced.settle (balanced : accounts.Balanced) {result : Except AppError Accounts}
    (kept : ∀ after, result = .ok after → after.Balanced) : (accounts.settle result).Balanced := by
  rcases result with error | after
  · exact balanced
  · exact kept after rfl

/-- A loop keeps the balance when its body does, also when it ends in an error. -/
theorem Balanced.forEach (balanced : accounts.Balanced)
    {body : Accounts → ServiceRequest → Except AppError Accounts}
    (kept : ∀ before serviceRequest after, before.Balanced →
      body before serviceRequest = .ok after → after.Balanced)
    (serviceRequests : List ServiceRequest) :
    (forEach body serviceRequests accounts).1.Balanced := by
  induction serviceRequests generalizing accounts with
  | nil => exact balanced
  | cons serviceRequest rest later =>
    unfold Accounts.forEach
    split
    · exact balanced
    · rename_i next succeeds
      exact later (kept accounts serviceRequest next balanced succeeds)

theorem Balanced.regenMissingWalletTransactions (balanced : accounts.Balanced)
    (serviceRequests : List ServiceRequest) :
    (accounts.regenMissingWalletTransactions serviceRequests).1.Balanced := by
  have credited : (Accounts.forEach regenIncome serviceRequests accounts).1.Balanced := by
    refine balanced.forEach (fun before serviceRequest after start succeeds => ?_) serviceRequests
    unfold regenIncome at succeeds
    split at succeeds
    · exact start.creditIncome succeeds
    · cases succeeds
      exact start
  unfold Accounts.regenMissingWalletTransactions
  split
  · rename_i income error ended
    rw [ended] at credited
    exact credited
  · rename_i income ended
    rw [ended] at credited
    refine credited.forEach (fun before serviceRequest after start succeeds => ?_) serviceRequests
    unfold regenCompensation at succeeds
    split at succeeds
    · exact start.creditCompensation succeeds
    · cases succeeds
      exact start

/-- Every command keeps the balance. -/
theorem Balanced.step (balanced : accounts.Balanced) (command : WalletCommand) :
    (accounts.step command).Balanced := by
  rcases command with ⟨id, found⟩ | ⟨id, found⟩ | ⟨id, found⟩ | payoutId | payoutId |
    serviceRequests | ⟨payout, chosen⟩
  · refine balanced.settle fun after succeeds => ?_
    obtain ⟨serviceRequest, -, credited⟩ := bind_eq_ok succeeds
    exact balanced.creditIncome credited
  · refine balanced.settle fun after succeeds => ?_
    obtain ⟨serviceRequest, -, credited⟩ := bind_eq_ok succeeds
    split at credited
    · cases credited
      exact balanced
    split at credited
    · cases credited
      exact balanced
    · exact balanced.creditCompensation credited
  · refine balanced.settle fun after succeeds => ?_
    obtain ⟨serviceRequest, -, credited⟩ := bind_eq_ok succeeds
    dsimp only at credited
    split at credited
    · cases credited
    · exact balanced.creditIncome credited
  · exact balanced.settle fun after succeeds => balanced.holdBalanceForPayout succeeds
  · exact balanced.settle fun after succeeds => balanced.releaseBalanceForPayout succeeds
  · exact balanced.regenMissingWalletTransactions serviceRequests
  · exact balanced.schedulePayout payout chosen

/-- After any wallet commands, what is available in a wallet is the sum of the amounts of all
its transactions, and what is on hold is minus the sum of those of its pending payouts. -/
theorem wallets_balanced (commands : List WalletCommand) :
    ∀ wallet ∈ (run step empty commands).wallets.rows,
      wallet.availableBalance =
        (run step empty commands).transactions.total
          (fun transaction => transaction.wallet = wallet.ownerId) (·.amount) ∧
      wallet.holdBalance =
        -(run step empty commands).transactions.total
          (fun transaction => transaction.wallet = wallet.ownerId ∧
            transaction.type = .payout ∧ transaction.status = .pending) (·.amount) := by
  intro wallet member
  have balanced : (run step empty commands).Balanced :=
    preserved_run step Balanced (fun accounts command balanced => balanced.step command) empty
      commands balanced_empty
  have found := (run step empty commands).wallets.find_of_mem member
  constructor
  · have available := balanced.available wallet.ownerId
    rw [← walletOf_availableBalance, walletOf_of_find found] at available
    simpa [amountOf] using available
  · have hold := balanced.hold wallet.ownerId
    rw [← walletOf_holdBalance, walletOf_of_find found] at hold
    simpa [amountOf, WalletTransaction.isHeld] using hold

/-- A contractor earns a hundred, and sixty of it are held for a payout. -/
def exampleCommands : List WalletCommand :=
  [.createIncomeTransaction "240101-a1b2c3d"
      (some (run (World.step exampleEnvironment) (World.opened exampleRequest .empty)
        exampleAccepted).request),
    .schedulePayout ⟨⟨"p1", by decide⟩, 60, exampleContractor.id, .daikin⟩ [0],
    .holdBalanceForPayout ⟨"p1", by decide⟩]

theorem wallets_balanced_held :
    (⟨exampleContractor.id, 40, 60, 0⟩ : Wallet) ∈ (run step empty exampleCommands).wallets.rows ∧
      (40 : Money) = (run step empty exampleCommands).transactions.total
        (fun transaction => transaction.wallet = exampleContractor.id) (·.amount) ∧
      (60 : Money) = -(run step empty exampleCommands).transactions.total
        (fun transaction => transaction.wallet = exampleContractor.id ∧
          transaction.type = .payout ∧ transaction.status = .pending) (·.amount) :=
  have member : (⟨exampleContractor.id, 40, 60, 0⟩ : Wallet) ∈
      (run step empty exampleCommands).wallets.rows := by decide +kernel
  ⟨member, wallets_balanced exampleCommands _ member⟩

end Accounts

end FieldService
