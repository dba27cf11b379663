/-
This file settles which interleavings of two wallet commands lose an update.

Each handler reads the wallet, may look at the transactions before or after that, and saves
the wallet with the balances it has computed in memory. By what is known of such processes an
interleaving comes down to how many of the two reads of one handler the other one overtakes;
what then is in the wallet is a matter of what the handler saw when it checked and of what it
saw when it read the wallet (`balances_save`).
-/

import Mathlib.Algebra.Group.Prod
import Mathlib.Tactic.IntervalCases
import FieldService.Library.Interleaving
import FieldService.Wallet.Balance
import FieldService.Wallet.Regeneration

namespace FieldService

open Interleaving Table

/-! ### Handlers, step by step -/

/-- A command of one wallet, with the service request or the payout its handler has loaded. -/
inductive WalletHandler where
  | createIncomeTransaction (serviceRequest : ServiceRequest)
  | createRescheduleSurchargeCompensationTransaction (serviceRequest : ServiceRequest)
  | holdBalanceForPayout (payout : Payout)
  | releaseBalanceForPayout (payout : Payout)

/-- What a handler remembers between its steps. -/
structure HandlerMemory where
  wallet : Option Wallet
  walletTransaction : Option WalletTransaction
  admitted : Bool

namespace WalletHandler

def command : WalletHandler → WalletCommand
  | .createIncomeTransaction serviceRequest =>
    .createIncomeTransaction serviceRequest.id (some serviceRequest)
  | .createRescheduleSurchargeCompensationTransaction serviceRequest =>
    .createRescheduleSurchargeCompensationTransaction serviceRequest.id (some serviceRequest)
  | .holdBalanceForPayout payout => .holdBalanceForPayout payout.id
  | .releaseBalanceForPayout payout => .releaseBalanceForPayout payout.id

def ownerId : WalletHandler → Option Uuid
  | .createIncomeTransaction serviceRequest => serviceRequest.service.dispatcherId
  | .createRescheduleSurchargeCompensationTransaction serviceRequest =>
    serviceRequest.impactedServiceProviderId
  | .holdBalanceForPayout payout => some payout.ownerId
  | .releaseBalanceForPayout payout => some payout.ownerId

def payout : WalletHandler → Option Payout
  | .holdBalanceForPayout payout => some payout
  | .releaseBalanceForPayout payout => some payout
  | _ => none

/-- The handler looks at the transactions before it reads the wallet. An income looks at none;
its first step loads the service request. -/
def checksFirst : WalletHandler → Bool
  | .createIncomeTransaction _ => true
  | .createRescheduleSurchargeCompensationTransaction _ => false
  | .holdBalanceForPayout _ => true
  | .releaseBalanceForPayout _ => false

/-- The look at the transactions, and whether the handler goes on after it. -/
def check (accounts : Accounts) (memory : HandlerMemory) : WalletHandler → HandlerMemory
  | .createIncomeTransaction _ => { memory with admitted := true }
  | .createRescheduleSurchargeCompensationTransaction serviceRequest =>
    { memory with
      admitted := serviceRequest.hasBeenRescheduledOnce &&
        serviceRequest.getCustomerRescheduleOrder.surchargeRequired &&
        serviceRequest.hasCustomerPaid .ecRescheduleSurcharge &&
        !accounts.compensatedSurcharge serviceRequest }
  | .holdBalanceForPayout payout =>
    { memory with
      admitted := !accounts.transactions.rows.any fun transaction =>
        transaction.type = .payout ∧ transaction.payoutId = some payout.id }
  | .releaseBalanceForPayout payout =>
    { memory with
      walletTransaction := accounts.getPendingPayoutTransactionByPayoutId payout.id
      admitted := (accounts.getPendingPayoutTransactionByPayoutId payout.id).isSome }

/-- The wallet that is read: a payout's must exist, a credit's is made when it does not. -/
def readWallet (accounts : Accounts) (memory : HandlerMemory) : WalletHandler → HandlerMemory
  | .createIncomeTransaction serviceRequest =>
    { memory with wallet := serviceRequest.service.dispatcherId.map accounts.walletOf }
  | .createRescheduleSurchargeCompensationTransaction serviceRequest =>
    { memory with wallet := serviceRequest.impactedServiceProviderId.map accounts.walletOf }
  | .holdBalanceForPayout payout =>
    { memory with wallet := accounts.wallets.find payout.ownerId }
  | .releaseBalanceForPayout payout =>
    { memory with wallet := accounts.wallets.find payout.ownerId }

/-- The charged wallet and the transaction that are saved, when there is something to save. -/
def charged (accounts : Accounts) (memory : HandlerMemory) :
    WalletHandler → Option (Wallet × WalletTransaction)
  | .createIncomeTransaction serviceRequest =>
    memory.wallet.map fun wallet =>
      WalletTransaction.forIncome accounts.transactions.next wallet serviceRequest
  | .createRescheduleSurchargeCompensationTransaction serviceRequest =>
    memory.wallet.map fun wallet =>
      WalletTransaction.forRescheduleSurchargeCompensation accounts.transactions.next wallet
        serviceRequest
  | .holdBalanceForPayout payout =>
    memory.wallet.map fun wallet =>
      WalletTransaction.forPayout accounts.transactions.next wallet payout
  | .releaseBalanceForPayout payout =>
    memory.wallet.bind fun wallet =>
      memory.walletTransaction.bind fun transaction => transaction.releasePayout wallet payout

/-- The last step: the wallet is saved with its transaction. -/
def save (handler : WalletHandler) (accounts : Accounts) (memory : HandlerMemory) : Accounts :=
  if memory.admitted then
    match handler.charged accounts memory with
    | none => accounts
    | some charged => accounts.record charged
  else accounts

def process (handler : WalletHandler) : Process Accounts HandlerMemory where
  start := ⟨none, none, false⟩
  reads :=
    if handler.checksFirst then
      [fun accounts memory => handler.check accounts memory,
        fun accounts memory => handler.readWallet accounts memory]
    else
      [fun accounts memory => handler.readWallet accounts memory,
        fun accounts memory => handler.check accounts memory]
  write := handler.save

/-- The handler is one of the wallet of the owner, and its payout is stored. -/
structure Concerns (handler : WalletHandler) (accounts : Accounts) (ownerId : Uuid) : Prop where
  owner : handler.ownerId = some ownerId
  stored : ∀ payout ∈ handler.payout, accounts.payouts.find payout.id = some payout

end WalletHandler

/-! ### Two handlers of one wallet -/

/-- Two handlers of a wallet that exists, interleaved. -/
structure WalletRace where
  accounts : Accounts
  ownerId : Uuid
  handlers : Contender → WalletHandler
  order : TurnOrder fun turn => (handlers turn).process
  owned : (accounts.wallets.find ownerId).isSome = true
  concerns : ∀ turn, (handlers turn).Concerns accounts ownerId

/-- What is available in a wallet and what is on hold. -/
def Accounts.balances (accounts : Accounts) (ownerId : Uuid) : Money × Money :=
  (accounts.availableBalance ownerId, accounts.holdBalance ownerId)

namespace WalletRace

variable (race : WalletRace)

/-- The accounts when both handlers have ended. -/
def final : Accounts :=
  outcome (fun turn => (race.handlers turn).process) race.accounts race.order.turns

/-- The accounts after one command and then the other. -/
def sequential (turn : Contender) : Accounts :=
  (race.accounts.step (race.handlers turn).command).step (race.handlers turn.other).command

/-- The balances are those of one of the two sequential orders. -/
def LosesNothing : Prop :=
  ∃ turn, race.final.balances race.ownerId = (race.sequential turn).balances race.ownerId

end WalletRace

/-! ### What a handler saves -/

namespace WalletHandler

variable (handler : WalletHandler)

/-- What the memory holds after a check of some accounts and a reading of the wallet in
others. -/
def seen (checked read : Accounts) : HandlerMemory :=
  handler.check checked (handler.readWallet read handler.process.start)

/-- The handler goes on after a check of the accounts. -/
def admits (accounts : Accounts) : Bool :=
  (handler.check accounts handler.process.start).admitted

/-- What the handler adds to the two balances. -/
def change : WalletHandler → Money × Money
  | .createIncomeTransaction serviceRequest =>
    (serviceRequest.customerOrder.serviceProviderTotal, 0)
  | .createRescheduleSurchargeCompensationTransaction serviceRequest =>
    (serviceRequest.getCustomerRescheduleOrder.impactedServiceProviderCompensationAmount, 0)
  | .holdBalanceForPayout payout => (-payout.amount, payout.amount)
  | .releaseBalanceForPayout payout => (0, -payout.amount)

theorem admitted_seen (checked read : Accounts) :
    (handler.seen checked read).admitted = handler.admits checked := by
  cases handler <;> rfl

theorem alone_eq_save (accounts : Accounts) :
    handler.process.alone accounts = handler.save accounts (handler.seen accounts accounts) := by
  cases handler <;> rfl

/-- A leader that has overtaken two reads, one, or none. -/
theorem overtaken_eq (leader follower : WalletHandler) (accounts : Accounts) :
    leader.process.overtaken follower.process 0 accounts =
        follower.process.alone (leader.process.alone accounts) ∧
      leader.process.overtaken follower.process 1 accounts =
        follower.save (leader.process.alone accounts)
          (if follower.checksFirst then follower.seen accounts (leader.process.alone accounts)
            else follower.seen (leader.process.alone accounts) accounts) ∧
      leader.process.overtaken follower.process 2 accounts =
        follower.save (leader.process.alone accounts) (follower.seen accounts accounts) := by
  cases follower <;> exact ⟨rfl, rfl, rfl⟩

end WalletHandler

theorem Accounts.balances_record (accounts : Accounts) (wallet : Wallet)
    (transaction : WalletTransaction) :
    (accounts.record (wallet, transaction)).balances wallet.ownerId =
      (wallet.availableBalance, wallet.holdBalance) := by
  rw [balances, availableBalance_record, holdBalance_record, if_pos rfl, if_pos rfl]

theorem Accounts.balances_walletOf (accounts : Accounts) (ownerId : Uuid) :
    accounts.balances ownerId =
      ((accounts.walletOf ownerId).availableBalance, (accounts.walletOf ownerId).holdBalance) := by
  rw [balances, walletOf_availableBalance, walletOf_holdBalance]

namespace WalletHandler

/-- The transaction a handler saves: a new one, or for a release the pending one it has
found. -/
def Books (accounts checked : Accounts) (ownerId : Uuid) (transaction : WalletTransaction) :
    WalletHandler → Prop
  | .createIncomeTransaction serviceRequest =>
    transaction.id = accounts.transactions.next ∧
      transaction.IsCredit .income ownerId serviceRequest
  | .createRescheduleSurchargeCompensationTransaction serviceRequest =>
    transaction.id = accounts.transactions.next ∧
      transaction.IsCredit .rescheduleSurchargeCompensation ownerId serviceRequest
  | .holdBalanceForPayout payout =>
    transaction.id = accounts.transactions.next ∧ transaction.type = .payout ∧
      transaction.payoutId = some payout.id ∧ transaction.status = .pending
  | .releaseBalanceForPayout payout =>
    ∃ pending, checked.getPendingPayoutTransactionByPayoutId payout.id = some pending ∧
      transaction = { pending with wallet := ownerId, status := .success }

/-- A handler whose check has let it go on saves the wallet it has read, changed. -/
theorem charged_seen {handler : WalletHandler} {ownerId : Uuid} {checked read : Accounts}
    (accounts : Accounts) (owner : handler.ownerId = some ownerId)
    (owned : (read.wallets.find ownerId).isSome = true)
    (admitted : handler.admits checked = true) :
    ∃ wallet transaction,
      handler.charged accounts (handler.seen checked read) = some (wallet, transaction) ∧
        wallet.ownerId = ownerId ∧
        (wallet.availableBalance, wallet.holdBalance) =
          read.balances ownerId + handler.change ∧
        handler.Books accounts checked ownerId transaction := by
  obtain ⟨found, isFound⟩ := Option.isSome_iff_exists.mp owned
  have isWallet := Accounts.walletOf_of_find isFound
  obtain rfl := (read.wallets.find_key isFound).2
  rw [Accounts.balances_walletOf, isWallet]
  rcases handler with serviceRequest | serviceRequest | payout | payout
  · have dispatched : serviceRequest.service.dispatcherId = some found.ownerId := owner
    refine ⟨(WalletTransaction.forIncome accounts.transactions.next found serviceRequest).1,
      (WalletTransaction.forIncome accounts.transactions.next found serviceRequest).2, ?_, rfl, ?_,
      forIncome_credits _ _ _⟩
    · simp only [charged, seen, check, readWallet, dispatched, Option.map_some, isWallet]
    · exact Prod.ext rfl (add_zero _).symm
  · have impacted : serviceRequest.impactedServiceProviderId = some found.ownerId := owner
    refine ⟨(WalletTransaction.forRescheduleSurchargeCompensation accounts.transactions.next found
        serviceRequest).1,
      (WalletTransaction.forRescheduleSurchargeCompensation accounts.transactions.next found
        serviceRequest).2, ?_, rfl, ?_, forRescheduleSurchargeCompensation_credits _ _ _⟩
    · simp only [charged, seen, check, readWallet, impacted, Option.map_some, isWallet]
    · exact Prod.ext rfl (add_zero _).symm
  · have isOwner : payout.ownerId = found.ownerId := Option.some.inj owner
    refine ⟨(WalletTransaction.forPayout accounts.transactions.next found payout).1,
      (WalletTransaction.forPayout accounts.transactions.next found payout).2, ?_, rfl, ?_,
      rfl, rfl, rfl, rfl⟩
    · simp only [charged, seen, check, readWallet, isOwner, isFound, Option.map_some]
    · exact Prod.ext (sub_eq_add_neg _ _) rfl
  · have isOwner : payout.ownerId = found.ownerId := Option.some.inj owner
    obtain ⟨pending, isPending⟩ := Option.isSome_iff_exists.mp admitted
    have isPayout := (Accounts.pending_type isPending).2.2.2
    refine ⟨found.releaseBalanceForPayout payout.amount,
      { pending with wallet := found.ownerId, status := .success }, ?_, rfl, ?_, pending,
      isPending, rfl⟩
    · simp only [charged, seen, check, readWallet, isOwner, isFound, isPending, Option.bind_some,
        WalletTransaction.releasePayout, isPayout, ne_eq, not_true_eq_false, if_false]
    · exact Prod.ext (add_zero _).symm (sub_eq_add_neg _ _)

/-- What is in the wallet after a handler has saved it: what it has read there, changed, if
its check has let it go on. -/
theorem balances_save {handler : WalletHandler} {ownerId : Uuid} {accounts checked read : Accounts}
    (owner : handler.ownerId = some ownerId)
    (owned : (read.wallets.find ownerId).isSome = true) :
    (handler.save accounts (handler.seen checked read)).balances ownerId =
      if handler.admits checked then read.balances ownerId + handler.change
      else accounts.balances ownerId := by
  rw [save, admitted_seen]
  split
  · rename_i admitted
    obtain ⟨wallet, transaction, isCharged, rfl, balances, -⟩ :=
      charged_seen accounts owner owned admitted
    rw [isCharged, ← balances]
    exact accounts.balances_record wallet transaction
  · rfl

/-! ### What a handler leaves for the other -/

/-- The transactions a handler looks for. -/
def looksFor (handler : WalletHandler) (transaction : WalletTransaction) : Bool :=
  match handler with
  | .createIncomeTransaction _ => false
  | .createRescheduleSurchargeCompensationTransaction serviceRequest =>
    some transaction.ownerId = serviceRequest.impactedServiceProviderId ∧
      transaction.type = .rescheduleSurchargeCompensation ∧
      transaction.source.id = serviceRequest.id
  | .holdBalanceForPayout payout =>
    transaction.type = .payout ∧ transaction.payoutId = some payout.id
  | .releaseBalanceForPayout payout =>
    transaction.payoutId = some payout.id ∧ transaction.status = .pending ∧
      transaction.type = .payout

/-- A payout has a second pending transaction. -/
def hasOtherPending (accounts : Accounts) (payout : Payout) : Bool :=
  (accounts.getPendingPayoutTransactionByPayoutId payout.id).any fun pending =>
    accounts.transactions.rows.any fun other =>
      decide (other.id ≠ pending.id) && (releaseBalanceForPayout payout).looksFor other

/-- The first handler leaves nothing to do for the second. -/
def conflicts (accounts : Accounts) : WalletHandler → WalletHandler → Bool
  | .createRescheduleSurchargeCompensationTransaction first,
      .createRescheduleSurchargeCompensationTransaction second => first.id = second.id
  | .holdBalanceForPayout first, .holdBalanceForPayout second => first.id = second.id
  | .releaseBalanceForPayout first, .releaseBalanceForPayout second =>
    decide (first.id = second.id) && !hasOtherPending accounts first
  | _, _ => false

/-- The first handler makes the second possible. -/
def enables : WalletHandler → WalletHandler → Bool
  | .holdBalanceForPayout first, .releaseBalanceForPayout second => first.id = second.id
  | _, _ => false

/-- When the second handler goes on after the first has ended. -/
def admitsAfter (accounts : Accounts) (first second : WalletHandler) : Bool :=
  second.admits accounts && !conflicts accounts first second || first.enables second

/-- Whether a handler goes on, by whether it has found what it looks for. -/
def decides (handler : WalletHandler) (found : Bool) : Bool :=
  match handler with
  | .createIncomeTransaction _ => true
  | .createRescheduleSurchargeCompensationTransaction serviceRequest =>
    serviceRequest.hasBeenRescheduledOnce &&
      serviceRequest.getCustomerRescheduleOrder.surchargeRequired &&
      serviceRequest.hasCustomerPaid .ecRescheduleSurcharge && !found
  | .holdBalanceForPayout _ => !found
  | .releaseBalanceForPayout _ => found

theorem admits_eq (handler : WalletHandler) (accounts : Accounts) :
    handler.admits accounts =
      handler.decides (accounts.transactions.rows.any handler.looksFor) := by
  rcases handler with serviceRequest | serviceRequest | payout | payout
  · rfl
  · rfl
  · rfl
  · exact List.isSome_find?

/-- A handler that has ended has left the accounts alone or saved its wallet with one
transaction. -/
theorem alone_cases {handler : WalletHandler} {ownerId : Uuid} {accounts : Accounts}
    (owner : handler.ownerId = some ownerId)
    (owned : (accounts.wallets.find ownerId).isSome = true) :
    (handler.admits accounts = false ∧ handler.process.alone accounts = accounts) ∨
      (handler.admits accounts = true ∧ ∃ wallet transaction,
        handler.process.alone accounts = accounts.record (wallet, transaction) ∧
          wallet.ownerId = ownerId ∧ handler.Books accounts accounts ownerId transaction) := by
  rw [alone_eq_save, save, admitted_seen]
  rcases admitted : handler.admits accounts with _ | _
  · exact Or.inl ⟨rfl, rfl⟩
  · obtain ⟨wallet, transaction, isCharged, isOwner, -, books⟩ :=
      charged_seen accounts owner owned admitted
    refine Or.inr ⟨rfl, wallet, transaction, ?_, isOwner, books⟩
    rw [if_pos rfl, isCharged]

theorem any_save_new {accounts : Accounts} {transaction : WalletTransaction}
    (new : transaction.id = accounts.transactions.next) (test : WalletTransaction → Bool) :
    (accounts.transactions.save transaction).rows.any test =
      (test transaction || accounts.transactions.rows.any test) := by
  have absent : accounts.transactions.find transaction.id = none := by
    rw [new]
    exact accounts.transactions.find_next
  rw [accounts.transactions.rows_save_of_find_eq_none absent, List.any_append, Bool.or_comm]
  simp

/-- A released transaction passes the tests that do not look at its status and wallet. -/
theorem any_save_released {accounts : Accounts} {pending : WalletTransaction} {ownerId : Uuid}
    (stored : pending ∈ accounts.transactions.rows) {test : WalletTransaction → Bool}
    (same : test { pending with wallet := ownerId, status := .success } = test pending) :
    (accounts.transactions.save { pending with wallet := ownerId, status := .success }).rows.any
        test = accounts.transactions.rows.any test := by
  rw [any_save, same, Bool.eq_iff_iff]
  simp only [Bool.or_eq_true, List.any_eq_true, Bool.and_eq_true, decide_eq_true_eq]
  constructor
  · rintro (passes | ⟨other, member, -, passes⟩)
    · exact ⟨pending, stored, passes⟩
    · exact ⟨other, member, passes⟩
  · rintro ⟨other, member, passes⟩
    by_cases sameId : other.id = pending.id
    · have isPending : other = pending :=
        List.inj_on_of_nodup_map accounts.transactions.distinct member stored sameId
      exact Or.inl (isPending ▸ passes)
    · exact Or.inr ⟨other, member, sameId, passes⟩

/-- A release finds what it looks for after another one, unless that was the only one. -/
theorem any_save_other_release {accounts : Accounts} {payout : Payout} {pending : WalletTransaction}
    (isPending : accounts.getPendingPayoutTransactionByPayoutId payout.id = some pending)
    (ownerId : Uuid) (other : Payout) :
    (accounts.transactions.save { pending with wallet := ownerId, status := .success }).rows.any
        (releaseBalanceForPayout other).looksFor =
      (accounts.transactions.rows.any (releaseBalanceForPayout other).looksFor &&
        !conflicts accounts (.releaseBalanceForPayout payout) (.releaseBalanceForPayout other) ||
        enables (.releaseBalanceForPayout payout) (.releaseBalanceForPayout other)) := by
  obtain ⟨stored, ofPayout, pendingStatus, isPayout⟩ := Accounts.pending_type isPending
  have released : (releaseBalanceForPayout other).looksFor
      { pending with wallet := ownerId, status := .success } = false := by
    simp [looksFor]
  rw [any_save, released, Bool.false_or]
  show _ = (_ && !(decide (payout.id = other.id) && !hasOtherPending accounts payout) || false)
  rw [Bool.or_false]
  by_cases same : payout.id = other.id
  · have sameTest : (releaseBalanceForPayout other).looksFor =
        (releaseBalanceForPayout payout).looksFor := by
      funext transaction
      simp only [looksFor, same]
    have found : accounts.transactions.rows.any (releaseBalanceForPayout payout).looksFor = true :=
      List.any_eq_true.mpr ⟨pending, stored, by simp [looksFor, ofPayout, pendingStatus, isPayout]⟩
    rw [sameTest, found, hasOtherPending, isPending]
    simp [same]
  · rw [decide_eq_false same, Bool.false_and, Bool.not_false, Bool.and_true, Bool.eq_iff_iff]
    simp only [List.any_eq_true, Bool.and_eq_true, decide_eq_true_eq]
    refine exists_congr fun transaction => and_congr_right fun member => and_iff_right_of_imp ?_
    rintro passes sameId
    have isPending : transaction = pending :=
      List.inj_on_of_nodup_map accounts.transactions.distinct member stored sameId
    simp only [looksFor, isPending, ofPayout, Option.some.injEq, decide_eq_true_eq] at passes
    exact same passes.1

/-- What the second handler admits after the first has saved something. -/
theorem admits_alone {first second : WalletHandler} {ownerId : Uuid} {accounts : Accounts}
    (firstOwner : first.ownerId = some ownerId) (secondOwner : second.ownerId = some ownerId)
    (owned : (accounts.wallets.find ownerId).isSome = true)
    (admitted : first.admits accounts = true) :
    second.admits (first.process.alone accounts) = admitsAfter accounts first second := by
  obtain ⟨wallet, transaction, ends, -, books⟩ :=
    ((alone_cases firstOwner owned).resolve_left fun stopped => by
      rw [stopped.1] at admitted
      cases admitted).2
  rw [ends, admitsAfter, admits_eq, admits_eq]
  show second.decides ((accounts.transactions.save transaction).rows.any second.looksFor) = _
  rcases first with request | request | payout | payout
  · obtain ⟨new, isCredit⟩ := books
    have unlooked : second.looksFor transaction = false := by
      cases second <;> simp [looksFor, isCredit.type]
    rw [any_save_new new, unlooked, Bool.false_or]
    simp [conflicts, enables]
  · obtain ⟨new, isCredit⟩ := books
    rw [any_save_new new]
    rcases second with other | other | other | other
    · rfl
    · have impacted : other.impactedServiceProviderId = some ownerId := secondOwner
      have looked : (createRescheduleSurchargeCompensationTransaction other).looksFor transaction =
          decide (request.id = other.id) := by
        simp [looksFor, isCredit.type, isCredit.ownerId, isCredit.source, impacted,
          Source.fromServiceRequest]
      rw [looked]
      by_cases same : request.id = other.id <;> simp [conflicts, enables, decides, same]
    · simp [conflicts, enables, looksFor, isCredit.type]
    · simp [conflicts, enables, looksFor, isCredit.type]
  · obtain ⟨new, isPayout, ofPayout, isPending⟩ := books
    rw [any_save_new new]
    rcases second with other | other | other | other
    · rfl
    · simp [conflicts, enables, looksFor, isPayout]
    · by_cases same : payout.id = other.id <;>
        simp [conflicts, enables, looksFor, isPayout, ofPayout, decides, same]
    · by_cases same : payout.id = other.id <;>
        simp [conflicts, enables, looksFor, isPayout, ofPayout, isPending, decides, same]
  · obtain ⟨pending, isPending, rfl⟩ := books
    obtain ⟨stored, ofPayout, -, isPayout⟩ := Accounts.pending_type isPending
    rcases second with other | other | other | other
    · rfl
    · rw [any_save_released stored (by simp [looksFor])]
      simp [conflicts, enables]
    · rw [any_save_released stored (by simp [looksFor])]
      simp [conflicts, enables]
    · exact any_save_other_release isPending ownerId other

/-! ### Sequential orders -/

theorem step_holdBalanceForPayout {accounts : Accounts} {payout : Payout} {wallet : Wallet}
    (stored : accounts.payouts.find payout.id = some payout)
    (owned : accounts.wallets.find payout.ownerId = some wallet) :
    accounts.step (.holdBalanceForPayout payout.id) =
      if (holdBalanceForPayout payout).admits accounts then
        accounts.record (WalletTransaction.forPayout accounts.transactions.next wallet payout)
      else accounts := by
  have found : accounts.foundPayout payout.id = .ok payout := by
    rw [Accounts.foundPayout, stored]
  have held : (holdBalanceForPayout payout).admits accounts = true ↔
      ¬ (accounts.transactions.rows.filter fun transaction =>
        transaction.type = .payout ∧ transaction.payoutId = some payout.id).length > 0 := by
    rw [gt_iff_lt, List.length_pos_iff, not_ne_iff, List.filter_eq_nil_iff, admits_eq]
    simp [decides, looksFor]
  show accounts.settle (accounts.holdBalanceForPayout payout.id) = _
  rw [Accounts.holdBalanceForPayout, found]
  simp only [bind, Except.bind, owned]
  by_cases admitted : (holdBalanceForPayout payout).admits accounts = true
  · rw [if_pos admitted, if_neg (held.mp admitted)]
    rfl
  · rw [if_neg admitted, if_pos (not_not.mp (admitted ∘ held.mpr))]
    rfl

theorem step_releaseBalanceForPayout {accounts : Accounts} {payout : Payout} {wallet : Wallet}
    (stored : accounts.payouts.find payout.id = some payout)
    (owned : accounts.wallets.find payout.ownerId = some wallet) :
    accounts.step (.releaseBalanceForPayout payout.id) =
      match accounts.getPendingPayoutTransactionByPayoutId payout.id with
      | none => accounts
      | some pending => accounts.record (wallet.releaseBalanceForPayout payout.amount,
          { pending with wallet := wallet.ownerId, status := .success }) := by
  have found : accounts.foundPayout payout.id = .ok payout := by
    rw [Accounts.foundPayout, stored]
  show accounts.settle (accounts.releaseBalanceForPayout payout.id) = _
  rw [Accounts.releaseBalanceForPayout, found]
  simp only [bind, Except.bind, owned]
  obtain unheld | ⟨pending, isPending⟩ := Option.eq_none_or_eq_some
    (accounts.getPendingPayoutTransactionByPayoutId payout.id)
  · rw [unheld]
    rfl
  · have isPayout := (Accounts.pending_type isPending).2.2.2
    rw [isPending]
    simp only [WalletTransaction.releasePayout, isPayout, ne_eq, not_true_eq_false, if_false]
    rfl

/-- A handler that is alone does what its command does. -/
theorem alone_eq_step {handler : WalletHandler} {accounts : Accounts} {ownerId : Uuid}
    (concerns : handler.Concerns accounts ownerId)
    (owned : (accounts.wallets.find ownerId).isSome = true) :
    handler.process.alone accounts = accounts.step handler.command := by
  obtain ⟨owner, stored⟩ := concerns
  obtain ⟨wallet, found⟩ := Option.isSome_iff_exists.mp owned
  rw [alone_eq_save]
  rcases handler with request | request | payout | payout
  · have dispatched : request.service.dispatcherId = some ownerId := owner
    show _ = accounts.settle (accounts.creditIncome request)
    rw [Accounts.creditIncome, (Accounts.dispatcherOf_eq_ok_iff request ownerId).mpr dispatched]
    simp only [save, seen, check, readWallet, charged, dispatched, Option.map_some, if_true]
    rfl
  · have impacted : request.impactedServiceProviderId = some ownerId := owner
    show _ = accounts.settle (if !request.hasBeenRescheduledOnce ||
        !request.getCustomerRescheduleOrder.surchargeRequired ||
        !request.hasCustomerPaid .ecRescheduleSurcharge then .ok accounts
      else if accounts.compensatedSurcharge request then .ok accounts
      else accounts.creditCompensation request)
    rw [Accounts.creditCompensation, ← ServiceRequest.impactedServiceProviderId, impacted]
    simp only [save, seen, check, readWallet, charged, impacted, Option.map_some]
    rcases request.hasBeenRescheduledOnce with _ | _
    · rfl
    rcases request.getCustomerRescheduleOrder.surchargeRequired with _ | _
    · rfl
    rcases request.hasCustomerPaid .ecRescheduleSurcharge with _ | _
    · rfl
    rcases accounts.compensatedSurcharge request with _ | _ <;> rfl
  · have isOwner : payout.ownerId = ownerId := Option.some.inj owner
    rw [command, step_holdBalanceForPayout (stored payout rfl) (isOwner ▸ found), save,
      admitted_seen]
    simp only [seen, check, readWallet, charged, isOwner, found, Option.map_some]
  · have isOwner : payout.ownerId = ownerId := Option.some.inj owner
    rw [command, step_releaseBalanceForPayout (stored payout rfl) (isOwner ▸ found), save,
      admitted_seen]
    obtain unheld | ⟨pending, isPending⟩ := Option.eq_none_or_eq_some
      (accounts.getPendingPayoutTransactionByPayoutId payout.id)
    · have stopped : (releaseBalanceForPayout payout).admits accounts = false := by
        simp [admits, check, unheld]
      rw [stopped, unheld]
      rfl
    · have admitted : (releaseBalanceForPayout payout).admits accounts = true := by
        simp [admits, check, isPending]
      have isPayout := (Accounts.pending_type isPending).2.2.2
      rw [admitted, isPending]
      simp only [seen, check, readWallet, charged, isOwner, found, isPending, Option.bind_some,
        WalletTransaction.releasePayout, isPayout, ne_eq, not_true_eq_false, if_false, if_true]

theorem balances_alone {handler : WalletHandler} {accounts : Accounts} {ownerId : Uuid}
    (owner : handler.ownerId = some ownerId)
    (owned : (accounts.wallets.find ownerId).isSome = true) :
    (handler.process.alone accounts).balances ownerId =
      if handler.admits accounts then accounts.balances ownerId + handler.change
      else accounts.balances ownerId := by
  rw [alone_eq_save]
  exact balances_save owner owned

/-- A handler keeps the wallet and the payouts where they are. -/
theorem concerns_alone {first second : WalletHandler} {accounts : Accounts} {ownerId : Uuid}
    (owner : first.ownerId = some ownerId)
    (owned : (accounts.wallets.find ownerId).isSome = true)
    (concerns : second.Concerns accounts ownerId) :
    ((first.process.alone accounts).wallets.find ownerId).isSome = true ∧
      second.Concerns (first.process.alone accounts) ownerId := by
  rcases alone_cases owner owned with ⟨-, unchanged⟩ | ⟨-, wallet, transaction, saved, rfl, -⟩
  · rw [unchanged]
    exact ⟨owned, concerns⟩
  · rw [saved]
    refine ⟨?_, concerns.owner, concerns.stored⟩
    show ((accounts.wallets.save wallet).find wallet.ownerId).isSome = true
    rw [find_save, if_pos rfl]
    rfl

/-- The balances after one handler and then the other. -/
theorem balances_sequential {first second : WalletHandler} {accounts : Accounts} {ownerId : Uuid}
    (firstOwner : first.ownerId = some ownerId) (secondOwner : second.ownerId = some ownerId)
    (owned : (accounts.wallets.find ownerId).isSome = true)
    (concerns : second.Concerns accounts ownerId) :
    (second.process.alone (first.process.alone accounts)).balances ownerId =
      if first.admits accounts then
        if admitsAfter accounts first second then
          accounts.balances ownerId + first.change + second.change
        else accounts.balances ownerId + first.change
      else if second.admits accounts then accounts.balances ownerId + second.change
      else accounts.balances ownerId := by
  rw [balances_alone secondOwner (concerns_alone firstOwner owned concerns).1]
  rcases admitted : first.admits accounts with _ | _
  · have unchanged : first.process.alone accounts = accounts := by
      rw [alone_eq_save, save, admitted_seen, admitted]
      rfl
    rw [unchanged]
    rfl
  · rw [admits_alone firstOwner secondOwner owned admitted, balances_alone firstOwner owned,
      admitted]
    rfl

/-! ### Handlers in each other's way -/

/-- Two handlers with the same payout are of the same amount. -/
theorem payout_eq {first second : WalletHandler} {accounts : Accounts} {ownerId : Uuid}
    (firstConcerns : first.Concerns accounts ownerId)
    (secondConcerns : second.Concerns accounts ownerId) {one other : Payout}
    (isOne : first.payout = some one) (isOther : second.payout = some other)
    (same : one.id = other.id) : one = other := by
  have stored := firstConcerns.stored one isOne
  rw [same, secondConcerns.stored other isOther] at stored
  exact (Option.some.inj stored).symm

/-- Conflicting handlers that check first are the same. -/
theorem eq_of_conflicts {first second : WalletHandler} {accounts : Accounts} {ownerId : Uuid}
    (firstConcerns : first.Concerns accounts ownerId)
    (secondConcerns : second.Concerns accounts ownerId)
    (conflict : conflicts accounts first second = true) (early : second.checksFirst = true) :
    first = second := by
  rcases first with one | one | one | one <;> rcases second with other | other | other | other <;>
    first
      | exact absurd conflict Bool.false_ne_true
      | exact absurd early Bool.false_ne_true
      | skip
  have same : one.id = other.id := of_decide_eq_true conflict
  rw [payout_eq firstConcerns secondConcerns rfl rfl same]

theorem conflicts_comm {first second : WalletHandler} {accounts : Accounts} {ownerId : Uuid}
    (firstConcerns : first.Concerns accounts ownerId)
    (secondConcerns : second.Concerns accounts ownerId) :
    conflicts accounts first second = conflicts accounts second first := by
  rcases first with one | one | one | one <;> rcases second with other | other | other | other <;>
    first
      | rfl
      | exact decide_eq_decide.mpr eq_comm
      | skip
  by_cases same : one.id = other.id
  · rw [payout_eq firstConcerns secondConcerns rfl rfl same]
  · simp [conflicts, same, Ne.symm same]

/-- Handlers in conflict do not enable each other. -/
theorem enables_of_conflicts {first second : WalletHandler} {accounts : Accounts}
    (conflict : conflicts accounts first second = true) : second.enables first = false := by
  rcases first with one | one | one | one <;> rcases second with other | other | other | other <;>
    first
      | rfl
      | exact absurd conflict Bool.false_ne_true

/-- A hold that enables a release goes first, and takes the two balances to where no release
can. -/
theorem of_enables {first second : WalletHandler} {accounts : Accounts} {ownerId : Uuid}
    (firstConcerns : first.Concerns accounts ownerId)
    (secondConcerns : second.Concerns accounts ownerId) (enable : first.enables second = true) :
    (first.admits accounts = true → second.admits accounts = false) ∧
      (first.change = second.change → first.change = 0) := by
  rcases first with one | one | one | one <;> rcases second with other | other | other | other <;>
    first
      | exact absurd enable Bool.false_ne_true
      | skip
  obtain rfl := payout_eq firstConcerns secondConcerns rfl rfl (of_decide_eq_true enable)
  refine ⟨fun admitted => ?_, fun same => ?_⟩
  · rw [admits_eq] at admitted ⊢
    have none : accounts.transactions.rows.any (holdBalanceForPayout one).looksFor = false := by
      simpa [decides] using admitted
    refine List.any_eq_false.mpr fun transaction member pending => ?_
    refine List.any_eq_false.mp none transaction member ?_
    simp only [looksFor, decide_eq_true_eq] at pending ⊢
    exact ⟨pending.2.2, pending.1⟩
  · have amount : one.amount = 0 := neg_eq_zero.mp (congrArg Prod.fst same)
    simp [change, amount]

/-- What an enabled handler does is checked last. -/
theorem enables_of_checksFirst (first : WalletHandler) {second : WalletHandler}
    (early : second.checksFirst = true) : first.enables second = false := by
  rcases first with one | one | one | one <;> rcases second with other | other | other | other <;>
    first
      | rfl
      | exact absurd early Bool.false_ne_true

/-- The balances are those of one of the orders of two handlers. -/
def IsSequential (first second : WalletHandler) (accounts : Accounts) (ownerId : Uuid)
    (balances : Money × Money) : Prop :=
  balances = (second.process.alone (first.process.alone accounts)).balances ownerId ∨
    balances = (first.process.alone (second.process.alone accounts)).balances ownerId

section Overtaking

variable {first second : WalletHandler} {accounts : Accounts} {ownerId : Uuid}
  (firstConcerns : first.Concerns accounts ownerId)
  (secondConcerns : second.Concerns accounts ownerId)
  (owned : (accounts.wallets.find ownerId).isSome = true)
  (admitted : first.admits accounts = true)

include firstConcerns secondConcerns owned admitted

/-- The balances of the two sequential orders, when the first handler goes on. -/
theorem balances_orders :
    (second.process.alone (first.process.alone accounts)).balances ownerId =
        (if admitsAfter accounts first second then
          accounts.balances ownerId + first.change + second.change
        else accounts.balances ownerId + first.change) ∧
      (first.process.alone (second.process.alone accounts)).balances ownerId =
        if second.admits accounts then
          if admitsAfter accounts second first then
            accounts.balances ownerId + second.change + first.change
          else accounts.balances ownerId + second.change
        else accounts.balances ownerId + first.change := by
  rw [balances_sequential firstConcerns.owner secondConcerns.owner owned secondConcerns,
    balances_sequential secondConcerns.owner firstConcerns.owner owned firstConcerns, admitted]
  exact ⟨rfl, rfl⟩

/-- The check has been overtaken, and the reading of the wallet has not. -/
theorem stale_check_iff (changes : first.change ≠ 0) (early : second.checksFirst = true) :
    IsSequential first second accounts ownerId
        ((second.save (first.process.alone accounts)
          (second.seen accounts (first.process.alone accounts))).balances ownerId) ↔
      conflicts accounts first second = false := by
  obtain ⟨inOrder, inOtherOrder⟩ := balances_orders firstConcerns secondConcerns owned admitted
  have stillOwned := (concerns_alone firstConcerns.owner owned secondConcerns).1
  rw [IsSequential, inOrder, inOtherOrder, balances_save secondConcerns.owner stillOwned,
    balances_alone firstConcerns.owner owned, if_pos admitted, admitsAfter,
    enables_of_checksFirst first early, Bool.or_false]
  rcases conflict : conflicts accounts first second with _ | _
  · rw [Bool.not_false, Bool.and_true]
    exact iff_of_true (Or.inl rfl) rfl
  · obtain rfl := eq_of_conflicts firstConcerns secondConcerns conflict early
    have unenabled := enables_of_conflicts conflict
    refine iff_of_false ?_ Bool.noConfusion
    simp [admitsAfter, admitted, conflict, unenabled, changes]

/-- The reading of the wallet has been overtaken, and the check has not. -/
theorem stale_wallet_iff (changes : first.change ≠ 0) :
    IsSequential first second accounts ownerId
        ((second.save (first.process.alone accounts)
          (second.seen (first.process.alone accounts) accounts)).balances ownerId) ↔
      admitsAfter accounts first second = false := by
  obtain ⟨inOrder, inOtherOrder⟩ := balances_orders firstConcerns secondConcerns owned admitted
  rw [IsSequential, inOrder, inOtherOrder, balances_save secondConcerns.owner owned,
    admits_alone firstConcerns.owner secondConcerns.owner owned admitted,
    balances_alone firstConcerns.owner owned, if_pos admitted]
  rcases goesOn : admitsAfter accounts first second with _ | _
  · exact iff_of_true (Or.inl rfl) rfl
  refine iff_of_false ?_ Bool.noConfusion
  rcases conflict : conflicts accounts second first with _ | _
  · rcases before : second.admits accounts with _ | _
    · have enable : first.enables second = true := by
        simpa [admitsAfter, before] using goesOn
      have different := (of_enables firstConcerns secondConcerns enable).2
      have apart : second.change ≠ first.change := fun same => changes (different same.symm)
      simp [changes, apart]
    · simp [admitsAfter, admitted, conflict, changes]
  · have unenabled := enables_of_conflicts conflict
    rw [conflicts_comm secondConcerns firstConcerns] at conflict
    simp [admitsAfter, conflict, unenabled] at goesOn

/-- Both have been overtaken. -/
theorem stale_iff (changes : first.change ≠ 0) :
    IsSequential first second accounts ownerId
        ((second.save (first.process.alone accounts)
          (second.seen accounts accounts)).balances ownerId) ↔
      (second.admits accounts = true → conflicts accounts first second = true) := by
  obtain ⟨inOrder, inOtherOrder⟩ := balances_orders firstConcerns secondConcerns owned admitted
  rw [IsSequential, inOrder, inOtherOrder, balances_save secondConcerns.owner owned,
    balances_alone firstConcerns.owner owned, if_pos admitted]
  rcases goesOn : second.admits accounts with _ | _
  · exact iff_of_true (Or.inr rfl) (fun absent => Bool.noConfusion absent)
  have symmetric := conflicts_comm firstConcerns secondConcerns
  rcases conflict : conflicts accounts first second with _ | _
  · rw [conflict] at symmetric
    simp [admitsAfter, admitted, goesOn, conflict, ← symmetric, changes]
  · have unenabled := enables_of_conflicts conflict
    rw [conflict] at symmetric
    simp [admitsAfter, ← symmetric, unenabled]

/-- A handler that changes nothing may overtake what it likes. -/
theorem sequential_of_change_eq_zero (unchanging : first.change = 0) :
    IsSequential first second accounts ownerId
        ((second.save (first.process.alone accounts)
          (second.seen accounts (first.process.alone accounts))).balances ownerId) ∧
      IsSequential first second accounts ownerId
        ((second.save (first.process.alone accounts)
          (second.seen (first.process.alone accounts) accounts)).balances ownerId) ∧
      IsSequential first second accounts ownerId
        ((second.save (first.process.alone accounts)
          (second.seen accounts accounts)).balances ownerId) := by
  obtain ⟨inOrder, inOtherOrder⟩ := balances_orders firstConcerns secondConcerns owned admitted
  have stillOwned := (concerns_alone firstConcerns.owner owned secondConcerns).1
  simp only [IsSequential, inOrder, inOtherOrder, balances_save secondConcerns.owner stillOwned,
    balances_save secondConcerns.owner owned, balances_alone firstConcerns.owner owned, admitted,
    admits_alone firstConcerns.owner secondConcerns.owner owned admitted, unchanging, add_zero,
    ite_self]
  exact ⟨Or.inr trivial, Or.inl trivial, Or.inr trivial⟩

end Overtaking

end WalletHandler

/-! ### Races -/

namespace WalletRace

variable (race : WalletRace)

/-- The handler that saves first. -/
def leader : Contender :=
  (lead (fun turn => (race.handlers turn).process) (fun _ => 0) race.order.turns).1

/-- How many of its two reads the other handler has done by then. -/
def overtakes : Nat :=
  (lead (fun turn => (race.handlers turn).process) (fun _ => 0) race.order.turns).2

/-- The condition under which no update is lost. Unless the leader changes nothing, the other
handler must not have begun; or it has only looked at the transactions, and may still go on;
or it has read the wallet, and finds nothing to do when it checks after the leader; or both
have passed the same check, and the leader alone would have left nothing to do. -/
def Isolated : Prop :=
  (race.handlers race.leader).admits race.accounts = true →
    (race.handlers race.leader).change ≠ 0 →
      match race.overtakes with
      | 0 => True
      | 1 =>
        if (race.handlers race.leader.other).checksFirst then
          WalletHandler.conflicts race.accounts (race.handlers race.leader)
            (race.handlers race.leader.other) = false
        else
          WalletHandler.admitsAfter race.accounts (race.handlers race.leader)
            (race.handlers race.leader.other) = false
      | _ =>
        (race.handlers race.leader.other).admits race.accounts = true →
          WalletHandler.conflicts race.accounts (race.handlers race.leader)
            (race.handlers race.leader.other) = true

theorem length_reads (handler : WalletHandler) : handler.process.reads.length = 2 := by
  cases handler <;> rfl

theorem final_eq_overtaken :
    race.final =
        (race.handlers race.leader).process.overtaken (race.handlers race.leader.other).process
          race.overtakes race.accounts ∧
      race.overtakes ≤ 2 := by
  have effect := outcome_eq_overtaken race.accounts race.order
  refine ⟨effect.1, ?_⟩
  rw [← length_reads (race.handlers race.leader.other)]
  exact effect.2

/-- The commands do one after the other what the handlers do. -/
theorem sequential_eq_alone (turn : Contender) :
    race.sequential turn =
      (race.handlers turn.other).process.alone
        ((race.handlers turn).process.alone race.accounts) := by
  have concerns := race.concerns turn
  have kept := WalletHandler.concerns_alone concerns.owner race.owned (race.concerns turn.other)
  rw [WalletHandler.alone_eq_step kept.2 kept.1, WalletHandler.alone_eq_step concerns race.owned]
  rfl

theorem losesNothing_iff_isSequential :
    race.LosesNothing ↔
      WalletHandler.IsSequential (race.handlers race.leader) (race.handlers race.leader.other)
        race.accounts race.ownerId (race.final.balances race.ownerId) := by
  have swapped : race.leader.other.other = race.leader := by
    cases race.leader <;> rfl
  constructor
  · rintro ⟨turn, same⟩
    rw [race.sequential_eq_alone turn] at same
    rcases race.leader.eq_or_eq_other turn with rfl | rfl
    · exact Or.inl same
    · rw [swapped] at same
      exact Or.inr same
  · rintro (same | same)
    · exact ⟨race.leader, by rw [race.sequential_eq_alone, same]⟩
    · exact ⟨race.leader.other, by rw [race.sequential_eq_alone, swapped, same]⟩

/-- Two handlers of a wallet lose no update exactly when the one that saves first does not
overtake the other in a way that matters. -/
theorem losesNothing_iff_isolated : race.LosesNothing ↔ race.Isolated := by
  obtain ⟨ends, few⟩ := race.final_eq_overtaken
  obtain ⟨none, one, both⟩ := WalletHandler.overtaken_eq (race.handlers race.leader)
    (race.handlers race.leader.other) race.accounts
  have leads := race.concerns race.leader
  have follows := race.concerns race.leader.other
  rw [losesNothing_iff_isSequential, Isolated, ends]
  clear ends
  generalize race.overtakes = overtakes at few ⊢
  by_cases admitted : (race.handlers race.leader).admits race.accounts = true
  swap
  · refine iff_of_true (Or.inl ?_) fun goesOn => absurd goesOn admitted
    have unchanged : (race.handlers race.leader).process.alone race.accounts = race.accounts := by
      rw [WalletHandler.alone_eq_save, WalletHandler.save, WalletHandler.admitted_seen,
        if_neg admitted]
    interval_cases overtakes
    · rw [none]
    · rw [one, unchanged, ite_self, WalletHandler.alone_eq_save]
    · rw [both, unchanged, WalletHandler.alone_eq_save]
  by_cases unchanging : (race.handlers race.leader).change = 0
  · refine iff_of_true ?_ fun _ changes => absurd unchanging changes
    obtain ⟨staleCheck, staleWallet, stale⟩ :=
      WalletHandler.sequential_of_change_eq_zero leads follows race.owned admitted unchanging
    interval_cases overtakes
    · rw [none]
      exact Or.inl rfl
    · rw [one]
      split
      · exact staleCheck
      · exact staleWallet
    · rw [both]
      exact stale
  interval_cases overtakes
  · rw [none]
    exact iff_of_true (Or.inl rfl) fun _ _ => trivial
  · rw [one]
    split <;> rename_i early
    · rw [WalletHandler.stale_check_iff leads follows race.owned admitted unchanging early]
      exact ⟨fun apart _ _ => apart, fun apart => apart admitted unchanging⟩
    · rw [WalletHandler.stale_wallet_iff leads follows race.owned admitted unchanging]
      exact ⟨fun apart _ _ => apart, fun apart => apart admitted unchanging⟩
  · rw [both, WalletHandler.stale_iff leads follows race.owned admitted unchanging]
    exact ⟨fun apart _ _ => apart, fun apart => apart admitted unchanging⟩

/-- A wallet with a payout that is not held for yet. -/
def exampleAccounts : Accounts :=
  Execution.run Accounts.step .empty (Accounts.exampleCommands.take 2)

theorem examplePayout_nonempty : "p1" ≠ "" := by
  decide

/-- The hold for the payout and the income of another request. -/
def exampleHandlers : Contender → WalletHandler
  | .first =>
    .holdBalanceForPayout ⟨⟨"p1", examplePayout_nonempty⟩, 60, exampleContractor.id, .daikin⟩
  | .second =>
    .createIncomeTransaction { WalletDatabase.exampleFulfilled with id := "240102-e4f5a6b" }

def exampleTurns : List Contender :=
  [.first, .first, .second, .second, .first, .second]

theorem exampleTurns_complete (turn : Contender) :
    exampleTurns.count turn = (exampleHandlers turn).process.reads.length + 1 := by
  cases turn <;> rfl

theorem exampleAccounts_owned :
    (exampleAccounts.wallets.find exampleContractor.id).isSome = true := by
  decide +kernel

theorem exampleHandlers_concerns (turn : Contender) :
    (exampleHandlers turn).Concerns exampleAccounts exampleContractor.id := by
  cases turn with
  | first =>
    refine ⟨rfl, fun payout isPayout => ?_⟩
    cases isPayout
    decide +kernel
  | second =>
    refine ⟨by decide +kernel, fun payout isPayout => ?_⟩
    cases isPayout

/-- A contractor's hold has read the wallet when the income of another request comes in. -/
def exampleRace : WalletRace where
  accounts := exampleAccounts
  ownerId := exampleContractor.id
  handlers := exampleHandlers
  order := ⟨exampleTurns, exampleTurns_complete⟩
  owned := exampleAccounts_owned
  concerns := exampleHandlers_concerns

theorem not_losesNothing_example : ¬ exampleRace.LosesNothing := by
  rintro ⟨turn, same⟩
  revert same
  cases turn <;> decide +kernel

end WalletRace

end FieldService
