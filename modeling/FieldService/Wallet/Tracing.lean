/-
This file proves where the money of a wallet is, over everything the platform does to it.

The credits of a provider wait until a scheduling run makes a payout of them. The payout is
held for by one command and released by another, each of which may come late, again or never.
So the money that has been earned is in one of four places: in credits that are part of no
payout, and in payouts that are scheduled, held or released. The wallet shows the first two as
its available balance and the third as its hold balance, and nothing gets lost in between.
-/

import FieldService.Library.References
import FieldService.Payout.Scheduling
import FieldService.Wallet.Balance

namespace FieldService

open Execution Table Grouping

/-! ### Commands and scheduling runs -/

/-- The command of a handler. Payouts are scheduled by a run over all wallets, and not by a
command. -/
def WalletCommand.isHandler : WalletCommand → Bool
  | .schedulePayout _ _ => false
  | _ => true

/-- The service requests the queries of a command answer. -/
def WalletCommand.serviceRequests : WalletCommand → List ServiceRequest
  | .createIncomeTransaction _ found => found.toList
  | .createRescheduleSurchargeCompensationTransaction _ found => found.toList
  | .generateTestWalletTransactions _ found => found.toList
  | .regenMissingWalletTransactions serviceRequests => serviceRequests
  | _ => []

inductive AccountsAction where
  | handle (command : WalletCommand) (isHandler : command.isHandler = true)
  | schedulePayoutsFromWalletTransactions (serviceProviders : List PayableServiceProvider)
      (ids : PayoutIds)

/-- What the wallets read of a new payout once it has been saved. -/
def NewPayout.toPayout (ids : PayoutIds) (payout : NewPayout) : Payout :=
  (payout.toEntry ids).toPayout

namespace Accounts

variable (accounts : Accounts)

def findDebitableTransactionsForPayout : List WalletTransaction :=
  accounts.transactions.rows.filter (·.isDebitable)

/-- The payouts a scheduling run makes, for the providers its query answers. -/
def newPayouts (serviceProviders : List PayableServiceProvider) : List NewPayout :=
  PayoutFactory.create accounts.findDebitableTransactionsForPayout serviceProviders

/-- Saves payouts, and with them their transactions. -/
def savePayouts (ids : PayoutIds) (payouts : List NewPayout) : Accounts :=
  { accounts with
    payouts := accounts.payouts.saveAll (payouts.map (·.toPayout ids))
    transactions := accounts.transactions.saveAll (payouts.flatMap (·.attached ids)) }

/-- The generated identifiers of the payouts are new. -/
def areFresh (ids : PayoutIds) (payouts : List NewPayout) : Bool :=
  payouts.all fun payout => (accounts.payouts.find (payout.id ids)).isNone

/-- One step: a command is handled to its end, or a run saves its payouts. What the run does
after that is no concern of the wallets, but for the commands it may issue. -/
def perform : AccountsAction → Accounts
  | .handle command _ => accounts.step command
  | .schedulePayoutsFromWalletTransactions serviceProviders ids =>
    let payouts := accounts.newPayouts serviceProviders
    if accounts.areFresh ids payouts then accounts.savePayouts ids payouts else accounts

end Accounts

/-! ### Where the money is -/

inductive PayoutStage where
  | scheduled
  | held
  | released
  deriving DecidableEq, Repr

/-- The transaction takes the amount of a payout out of the wallet. -/
def WalletTransaction.takes (payoutId : Uuid) (transaction : WalletTransaction) : Bool :=
  transaction.type = .payout && transaction.payoutId = some payoutId

namespace Accounts

variable (accounts : Accounts)

/-- How far the money of a payout has come. -/
def stageOf (payoutId : Uuid) : PayoutStage :=
  match accounts.transactions.rows.find? (·.takes payoutId) with
  | none => .scheduled
  | some transaction => if transaction.status = .pending then .held else .released

/-- The amounts of an owner's payouts at a stage. -/
def inStage (stage : PayoutStage) (owner : Uuid) : Money :=
  accounts.payouts.total
    (fun payout => payout.ownerId = owner && accounts.stageOf payout.id = stage) (·.amount)

/-- All an owner has ever been credited with. -/
def earned (owner : Uuid) : Money :=
  accounts.amountOf (·.type ≠ .payout) owner

/-- The credits of an owner that are part of no payout. -/
def unscheduled (owner : Uuid) : Money :=
  accounts.amountOf (·.isDebitable) owner

/-- A wallet shows where the money of its owner is, and none is lost. -/
structure AccountsFor (owner : Uuid) : Prop where
  available : accounts.availableBalance owner =
    accounts.unscheduled owner + accounts.inStage .scheduled owner
  hold : accounts.holdBalance owner = accounts.inStage .held owner
  earned : accounts.earned owner =
    accounts.availableBalance owner + accounts.holdBalance owner +
      accounts.inStage .released owner

/-- Where every row comes from. -/
structure Traced : Prop where
  balanced : accounts.Balanced
  kind : ∀ transaction ∈ accounts.transactions.rows, transaction.type = .payout ∨
    transaction.type = .income ∨ transaction.type = .rescheduleSurchargeCompensation
  owned : ∀ transaction ∈ accounts.transactions.rows, transaction.wallet = transaction.ownerId ∧
    (accounts.wallets.find transaction.wallet).isSome = true
  filed : ∀ transaction ∈ accounts.transactions.rows, ∀ payoutId,
    transaction.payoutId = some payoutId →
      ∃ payout ∈ accounts.payouts.rows, payout.id = payoutId ∧ transaction.wallet = payout.ownerId
  once : ∀ payoutId, ∀ first ∈ accounts.transactions.rows,
    ∀ second ∈ accounts.transactions.rows, first.takes payoutId = true →
      second.takes payoutId = true → first = second
  made : ∀ payout ∈ accounts.payouts.rows,
    accounts.transactions.total
        (fun transaction => transaction.type ≠ .payout && transaction.payoutId = some payout.id)
        (·.amount) = payout.amount ∧
      (accounts.wallets.find payout.ownerId).isSome = true

variable {accounts}

/-! ### Reading the places off the rows -/

theorem takes_iff (payoutId : Uuid) (transaction : WalletTransaction) :
    transaction.takes payoutId = true ↔
      transaction.type = .payout ∧ transaction.payoutId = some payoutId := by
  simp [WalletTransaction.takes]

/-- A transaction that takes a payout out of the wallet is what its stage is read off. -/
theorem Traced.stageOf_of_takes (traced : accounts.Traced) {transaction : WalletTransaction}
    (member : transaction ∈ accounts.transactions.rows) {payoutId : Uuid}
    (takes : transaction.takes payoutId = true) :
    accounts.stageOf payoutId = if transaction.status = .pending then .held else .released := by
  obtain ⟨other, found⟩ := Option.isSome_iff_exists.mp (List.find?_isSome.mpr ⟨transaction, member,
    takes⟩)
  have same := traced.once payoutId other (List.mem_of_find?_eq_some found) transaction member
    (by simpa using List.find?_some found) takes
  rw [stageOf, found, same]

/-- What the transactions take out of the wallet for a payout. -/
theorem Traced.total_takes (traced : accounts.Traced) {payout : Payout}
    (scheduled : payout ∈ accounts.payouts.rows) (counts : WalletTransaction → Bool) :
    accounts.transactions.total
        (fun transaction => transaction.takes payout.id && counts transaction) (·.amount) =
      if accounts.transactions.rows.any
          (fun transaction => transaction.takes payout.id && counts transaction)
        then -payout.amount else 0 := by
  rw [accounts.transactions.total_unique]
  · cases found : accounts.transactions.rows.find?
        (fun transaction => transaction.takes payout.id && counts transaction) with
    | none =>
      rw [if_neg]
      · rfl
      · simpa [List.find?_eq_none] using found
    | some transaction =>
      have member := List.mem_of_find?_eq_some found
      have passes := List.find?_some found
      rw [if_pos (List.any_eq_true.mpr ⟨transaction, member, passes⟩)]
      rw [Bool.and_eq_true, takes_iff] at passes
      obtain ⟨holder, held, stored, amount, -⟩ :=
        traced.balanced.backed transaction member passes.1.1
      have sameId : holder.id = payout.id := Option.some.inj (held.symm.trans passes.1.2)
      rw [sameId, accounts.payouts.find_of_mem scheduled] at stored
      cases stored
      exact amount
  · intro first firstMember second secondMember firstTakes secondTakes
    rw [Bool.and_eq_true] at firstTakes secondTakes
    exact traced.once payout.id first firstMember second secondMember firstTakes.1 secondTakes.1

/-- A payout is held for exactly if a transaction that takes it is pending. -/
theorem Traced.any_held (traced : accounts.Traced) (payoutId : Uuid) :
    (accounts.transactions.rows.any fun transaction =>
        transaction.takes payoutId && transaction.isHeld) =
      decide (accounts.stageOf payoutId = .held) := by
  rw [Bool.eq_iff_iff, List.any_eq_true, decide_eq_true_iff]
  constructor
  · rintro ⟨transaction, member, passes⟩
    rw [Bool.and_eq_true] at passes
    obtain ⟨takes, held⟩ := passes
    have pending : transaction.status = .pending := by simpa [WalletTransaction.isHeld,
      ((takes_iff _ _).mp takes).1] using held
    rw [traced.stageOf_of_takes member takes, if_pos pending]
  · intro stage
    unfold stageOf at stage
    split at stage
    · cases stage
    rename_i transaction found
    have takes := List.find?_some found
    split at stage
    · rename_i pending
      refine ⟨transaction, List.mem_of_find?_eq_some found, ?_⟩
      rw [takes, Bool.true_and, WalletTransaction.isHeld, ((takes_iff _ _).mp takes).1, pending]
      rfl
    · cases stage

/-- Nothing has been taken for a payout exactly if it is only scheduled. -/
theorem any_takes (payoutId : Uuid) :
    (accounts.transactions.rows.any (·.takes payoutId)) =
      !decide (accounts.stageOf payoutId = .scheduled) := by
  unfold stageOf
  cases found : accounts.transactions.rows.find? (·.takes payoutId) with
  | none => simpa [List.find?_eq_none] using found
  | some transaction =>
    have taken : accounts.transactions.rows.any (·.takes payoutId) = true :=
      List.any_eq_true.mpr ⟨transaction, List.mem_of_find?_eq_some found, List.find?_some found⟩
    rw [taken]
    dsimp only
    split <;> rfl

/-- Rows that are part of payouts have together what the payouts of the owner have in them. -/
theorem Traced.amountOf_filed (traced : accounts.Traced) {counts : WalletTransaction → Bool}
    {stages : Payout → Bool} {value : Payout → Money}
    (filed : ∀ transaction ∈ accounts.transactions.rows, counts transaction = true →
      transaction.payoutId.isSome = true)
    (each : ∀ payout ∈ accounts.payouts.rows,
      accounts.transactions.total
          (fun transaction => counts transaction && transaction.payoutId = some payout.id)
          (·.amount) = if stages payout then value payout else 0) (owner : Uuid) :
    accounts.amountOf counts owner =
      accounts.payouts.total (fun payout => payout.ownerId = owner && stages payout) value := by
  refine total_reference accounts.transactions accounts.payouts (·.payoutId) ?_ ?_
  · intro transaction member counted
    rw [Bool.and_eq_true] at counted
    obtain ⟨payoutId, isFiled⟩ :=
      Option.isSome_iff_exists.mp (filed transaction member counted.2)
    obtain ⟨payout, scheduled, rfl, -⟩ := traced.filed transaction member payoutId isFiled
    exact ⟨payout, scheduled, isFiled⟩
  · intro payout scheduled
    have sameOwner : ∀ transaction ∈ accounts.transactions.rows,
        ((transaction.wallet = owner && counts transaction) &&
            decide (transaction.payoutId = some payout.id)) =
          (payout.ownerId = owner &&
            (counts transaction && decide (transaction.payoutId = some payout.id))) := by
      intro transaction member
      by_cases isFiled : transaction.payoutId = some payout.id
      · obtain ⟨other, otherScheduled, sameId, wallet⟩ :=
          traced.filed transaction member payout.id isFiled
        have same : other = payout :=
          List.inj_on_of_nodup_map accounts.payouts.distinct otherScheduled scheduled sameId
        rw [wallet, same, Bool.and_assoc]
      · simp [isFiled]
    refine (sumWhere_congr _ sameOwner).trans ?_
    by_cases isOwner : payout.ownerId = owner
    · simp only [isOwner, decide_true, Bool.true_and]
      exact each payout scheduled
    · simp [isOwner, sumWhere]

/-! ### Every wallet shows where the money is -/

/-- The transactions of a payout together are what the wallet still shows as available of it. -/
theorem Traced.total_filed (traced : accounts.Traced) {payout : Payout}
    (scheduled : payout ∈ accounts.payouts.rows) :
    accounts.transactions.total
        (fun transaction => transaction.payoutId = some payout.id) (·.amount) =
      if accounts.stageOf payout.id = .scheduled then payout.amount else 0 := by
  have credits : sumWhere (fun transaction : WalletTransaction =>
      decide (transaction.payoutId = some payout.id) && decide (transaction.type ≠ .payout))
      (·.amount) accounts.transactions.rows = payout.amount :=
    (sumWhere_congr _ fun transaction _ => Bool.and_comm _ _).trans (traced.made payout scheduled).1
  have takes : sumWhere (fun transaction : WalletTransaction =>
      decide (transaction.payoutId = some payout.id) && !decide (transaction.type ≠ .payout))
      (·.amount) accounts.transactions.rows =
        if accounts.stageOf payout.id = .scheduled then 0 else -payout.amount := by
    have counted := traced.total_takes scheduled fun _ => true
    simp only [Bool.and_true, any_takes] at counted
    refine (sumWhere_congr _ fun transaction _ => ?_).trans (counted.trans ?_)
    · simp [WalletTransaction.takes, Bool.and_comm]
    · by_cases stage : accounts.stageOf payout.id = .scheduled <;> simp [stage]
  refine (sumWhere_split _ (fun transaction => decide (transaction.type ≠ .payout)) _ _).trans ?_
  rw [credits, takes]
  split
  · rw [add_zero]
  · rw [add_neg_cancel]

/-- A transaction that is part of no payout is a credit that waits for one. -/
theorem Traced.isDebitable_iff (traced : accounts.Traced) {transaction : WalletTransaction}
    (member : transaction ∈ accounts.transactions.rows) :
    transaction.isDebitable = transaction.payoutId.isNone := by
  obtain isPayout | isCredit := traced.kind transaction member
  · obtain ⟨payout, filed, -⟩ := traced.balanced.backed transaction member isPayout
    simp [WalletTransaction.isDebitable, isPayout, filed]
  · simp [WalletTransaction.isDebitable, isCredit]

/-- What an owner has available is what waits for a payout and what waits to be held. -/
theorem Traced.available (traced : accounts.Traced) (owner : Uuid) :
    accounts.availableBalance owner =
      accounts.unscheduled owner + accounts.inStage .scheduled owner := by
  have filed : accounts.amountOf (fun transaction => !transaction.isDebitable) owner =
      accounts.inStage .scheduled owner := by
    refine traced.amountOf_filed (fun transaction member counted => ?_)
      (fun payout scheduled => ?_) owner
    · simpa [traced.isDebitable_iff member, Option.isSome_iff_ne_none] using counted
    · refine (sumWhere_congr _ fun transaction member => ?_).trans
        ((traced.total_filed scheduled).trans (by simp))
      rw [traced.isDebitable_iff member]
      cases transaction.payoutId <;> simp
  rw [traced.balanced.available, ← filed]
  refine (sumWhere_split _ (·.isDebitable) _ _).trans ?_
  simp only [Bool.and_true]
  rfl

/-- What an owner has on hold is what the held payouts have taken. -/
theorem Traced.hold (traced : accounts.Traced) (owner : Uuid) :
    accounts.holdBalance owner = accounts.inStage .held owner := by
  have filed : accounts.amountOf (·.isHeld) owner =
      accounts.payouts.total
        (fun payout => payout.ownerId = owner && accounts.stageOf payout.id = .held)
        (fun payout => -payout.amount) := by
    refine traced.amountOf_filed (fun transaction member counted => ?_)
      (fun payout scheduled => ?_) owner
    · simp only [WalletTransaction.isHeld, Bool.and_eq_true, decide_eq_true_eq] at counted
      obtain ⟨payout, isFiled, -⟩ := traced.balanced.backed transaction member counted.1
      rw [isFiled]
      rfl
    · rw [← traced.any_held]
      refine (sumWhere_congr _ fun transaction member => ?_).trans
        (traced.total_takes scheduled (·.isHeld))
      simp only [WalletTransaction.isHeld, WalletTransaction.takes]
      cases decide (transaction.type = .payout) <;> simp [Bool.and_comm]
  rw [traced.balanced.hold, filed, inStage, total, total, List.sum_neg, List.map_map]
  exact congrArg List.sum (List.map_congr_left fun payout _ => neg_neg payout.amount)

/-- What an owner has earned waits for a payout or has become part of one. -/
theorem Traced.earned_eq (traced : accounts.Traced) (owner : Uuid) :
    accounts.earned owner = accounts.unscheduled owner +
      accounts.payouts.total (fun payout => payout.ownerId = owner) (·.amount) := by
  have filed : accounts.amountOf
        (fun transaction => transaction.type ≠ .payout && !transaction.isDebitable) owner =
      accounts.payouts.total (fun payout => payout.ownerId = owner && true) (·.amount) := by
    refine traced.amountOf_filed (fun transaction member counted => ?_)
      (fun payout scheduled => ?_) owner
    · rw [Bool.and_eq_true, traced.isDebitable_iff member] at counted
      simpa [Option.isSome_iff_ne_none] using counted.2
    · refine (sumWhere_congr _ fun transaction member => ?_).trans (traced.made payout scheduled).1
      rw [traced.isDebitable_iff member]
      cases transaction.payoutId <;> simp
  simp only [Bool.and_true] at filed
  rw [← filed]
  refine (sumWhere_split _ (·.isDebitable) _ _).trans ?_
  congr 1
  · refine sumWhere_congr _ fun transaction _ => ?_
    cases type : transaction.type <;> simp [WalletTransaction.isDebitable, type]
  · exact sumWhere_congr _ fun transaction _ => Bool.and_assoc _ _ _

/-- The payouts of an owner are at one of the three stages. -/
theorem total_payouts (accounts : Accounts) (owner : Uuid) :
    accounts.payouts.total (fun payout => payout.ownerId = owner) (·.amount) =
      accounts.inStage .scheduled owner + (accounts.inStage .held owner +
        accounts.inStage .released owner) := by
  refine (sumWhere_split _ (fun payout => accounts.stageOf payout.id = .scheduled) _ _).trans ?_
  congr 1
  refine (sumWhere_split _ (fun payout => accounts.stageOf payout.id = .held) _ _).trans ?_
  congr 1 <;> refine sumWhere_congr _ fun payout _ => ?_ <;>
    cases accounts.stageOf payout.id <;> simp

theorem Traced.accountsFor (traced : accounts.Traced) (owner : Uuid) :
    accounts.AccountsFor owner where
  available := traced.available owner
  hold := traced.hold owner
  earned := by
    rw [traced.earned_eq, total_payouts, traced.available, traced.hold]
    abel

/-! ### Commands keep track of the rows -/

section Record

variable {wallet : Wallet} {transaction : WalletTransaction}

theorem isSome_find_record (owner : Uuid)
    (banked : wallet.ownerId = owner ∨ (accounts.wallets.find owner).isSome = true) :
    ((accounts.record (wallet, transaction)).wallets.find owner).isSome = true := by
  show ((accounts.wallets.save wallet).find owner).isSome = true
  rw [find_save]
  split
  · rfl
  · rename_i other
    exact banked.resolve_left other

/-- Saving a transaction keeps track of the rows, when it is a credit that is part of no payout
or takes a payout that no other transaction takes. -/
theorem Traced.record (traced : accounts.Traced)
    (balanced : (accounts.record (wallet, transaction)).Balanced)
    (kind : transaction.type = .payout ∨ transaction.type = .income ∨
      transaction.type = .rescheduleSurchargeCompensation)
    (owned : transaction.wallet = wallet.ownerId ∧ transaction.ownerId = wallet.ownerId)
    (filed : ∀ payoutId, transaction.payoutId = some payoutId →
      ∃ payout ∈ accounts.payouts.rows, payout.id = payoutId ∧ wallet.ownerId = payout.ownerId)
    (once : ∀ payoutId, transaction.takes payoutId = true →
      ∀ other ∈ accounts.transactions.rows, other.takes payoutId = true →
        other.id = transaction.id)
    (unmade : transaction.type = .payout ∨ transaction.payoutId = none)
    (before : ∀ old ∈ accounts.transactions.find transaction.id, old.type = .payout) :
    (accounts.record (wallet, transaction)).Traced where
  balanced := balanced
  kind other member := by
    obtain rfl | old := accounts.transactions.mem_save member
    · exact kind
    · exact traced.kind other old
  owned other member := by
    obtain rfl | old := accounts.transactions.mem_save member
    · exact ⟨owned.1.trans owned.2.symm, isSome_find_record _ (Or.inl owned.1.symm)⟩
    · exact ⟨(traced.owned other old).1, isSome_find_record _ (Or.inr (traced.owned other old).2)⟩
  filed other member payoutId isFiled := by
    obtain rfl | old := accounts.transactions.mem_save member
    · obtain ⟨payout, scheduled, sameId, owner⟩ := filed payoutId isFiled
      exact ⟨payout, scheduled, sameId, owned.1.trans owner⟩
    · exact traced.filed other old payoutId isFiled
  once payoutId first firstMember second secondMember firstTakes secondTakes := by
    obtain rfl | ⟨firstOld, firstOther⟩ :=
      (accounts.transactions.mem_save_iff transaction first).mp firstMember <;>
    obtain rfl | ⟨secondOld, secondOther⟩ :=
      (accounts.transactions.mem_save_iff _ second).mp secondMember
    · rfl
    · exact absurd (once payoutId firstTakes second secondOld secondTakes) secondOther
    · exact absurd (once payoutId secondTakes first firstOld firstTakes) firstOther
    · exact traced.once payoutId first firstOld second secondOld firstTakes secondTakes
  made payout scheduled := by
    obtain ⟨amount, banked⟩ := traced.made payout scheduled
    refine ⟨Eq.trans ?_ amount, isSome_find_record _ (Or.inr banked)⟩
    have saved := accounts.transactions.total_save
      (fun other => other.type ≠ .payout && other.payoutId = some payout.id) (·.amount) transaction
    have added : share (fun other : WalletTransaction =>
        decide (other.type ≠ .payout) && decide (other.payoutId = some payout.id)) (·.amount)
        (some transaction) = 0 := by
      obtain isPayout | unfiled := unmade
      · simp [share, isPayout]
      · simp [share, unfiled]
    have replaced : share (fun other : WalletTransaction =>
        decide (other.type ≠ .payout) && decide (other.payoutId = some payout.id)) (·.amount)
        (accounts.transactions.find transaction.id) = 0 := by
      cases found : accounts.transactions.find transaction.id with
      | none => rfl
      | some old => simp [share, before old found]
    rw [added, replaced, add_zero, add_zero] at saved
    exact saved

end Record

/-- A credit is part of no payout. -/
theorem Traced.credit (traced : accounts.Traced) {type : WalletTransactionType}
    {amount : ServiceRequest → Money}
    (kind : type = .income ∨ type = .rescheduleSurchargeCompensation) {owner : Option Uuid}
    {serviceRequest : ServiceRequest} {after : Accounts}
    (succeeds : accounts.credit
      (fun id wallet serviceRequest =>
        WalletTransaction.forServiceRequest type (amount serviceRequest) id wallet serviceRequest)
      owner serviceRequest = .ok after) : after.Traced := by
  have notPayout : type ≠ .payout := by
    rintro rfl
    simp at kind
  have balanced := traced.balanced.credit notPayout succeeds
  rcases owner with _ | owner
  · cases succeeds
  cases succeeds
  refine traced.record balanced (Or.inr kind) ⟨rfl, rfl⟩ (fun payoutId isFiled => ?_)
    (fun payoutId takes => ?_) (Or.inr rfl) fun old found => ?_
  · cases isFiled
  · exact absurd ((takes_iff _ _).mp takes).1 notPayout
  · rw [show _ = accounts.transactions.next from rfl, accounts.transactions.find_next] at found
    cases found

/-- A payout is held for once: the handler looks for a transaction that takes it first. -/
theorem Traced.holdBalanceForPayout (traced : accounts.Traced) {payoutId : Uuid}
    {after : Accounts} (succeeds : accounts.holdBalanceForPayout payoutId = .ok after) :
    after.Traced := by
  have balanced := traced.balanced.holdBalanceForPayout succeeds
  obtain ⟨payout, found, held⟩ := bind_eq_ok succeeds
  obtain ⟨stored, rfl⟩ := foundPayout_eq_ok found
  dsimp only at held
  split at held
  · cases held
    exact traced
  rename_i untaken
  split at held
  · cases held
    exact traced
  rename_i wallet owned
  cases held
  have sameOwner : wallet.ownerId = payout.ownerId := (accounts.wallets.find_key owned).2
  refine traced.record balanced (Or.inl rfl) ⟨rfl, rfl⟩ (fun payoutId isFiled => ?_)
    (fun payoutId takes other member otherTakes => absurd ?_ untaken) (Or.inl rfl)
    fun old found => ?_
  · exact ⟨payout, (accounts.payouts.find_key stored).1, Option.some.inj isFiled, sameOwner⟩
  · obtain rfl : payout.id = payoutId := Option.some.inj ((takes_iff _ _).mp takes).2
    exact List.length_pos_of_mem (List.mem_filter.mpr ⟨member, by
      simpa using (takes_iff _ _).mp otherTakes⟩)
  · rw [show _ = accounts.transactions.next from rfl, accounts.transactions.find_next] at found
    cases found

/-- A release saves the transaction that takes the payout once more. -/
theorem Traced.releaseBalanceForPayout (traced : accounts.Traced) {payoutId : Uuid}
    {after : Accounts} (succeeds : accounts.releaseBalanceForPayout payoutId = .ok after) :
    after.Traced := by
  have balanced := traced.balanced.releaseBalanceForPayout succeeds
  rcases releaseBalanceForPayout_cases succeeds with
    ⟨-, rfl⟩ | ⟨-, payout, wallet, transaction, stored, owned, pending, rfl⟩
  · exact traced
  obtain rfl := (accounts.payouts.find_key stored).2
  have sameOwner : wallet.ownerId = payout.ownerId := (accounts.wallets.find_key owned).2
  obtain ⟨member, ofPayout, -, isPayout⟩ := pending_type pending
  have takes : transaction.takes payout.id = true := (takes_iff _ _).mpr ⟨isPayout, ofPayout⟩
  obtain ⟨filedIn, scheduled, sameId, holder⟩ := traced.filed transaction member payout.id ofPayout
  have same : filedIn = payout :=
    List.inj_on_of_nodup_map accounts.payouts.distinct scheduled
      (accounts.payouts.find_key stored).1 sameId
  subst same
  refine traced.record balanced (Or.inl isPayout) ⟨rfl, ?_⟩ (fun payoutId isFiled => ?_)
    (fun payoutId released other otherMember otherTakes => ?_) (Or.inl isPayout) fun old found => ?_
  · exact (traced.owned transaction member).1.symm.trans (holder.trans sameOwner.symm)
  · exact ⟨filedIn, scheduled, Option.some.inj (ofPayout.symm.trans isFiled), sameOwner⟩
  · obtain rfl : filedIn.id = payoutId :=
      Option.some.inj (ofPayout.symm.trans ((takes_iff _ _).mp released).2)
    rw [traced.once _ other otherMember transaction member otherTakes takes]
  · rw [show _ = transaction.id from rfl, accounts.transactions.find_of_mem member] at found
    cases found
    exact isPayout

/-! ### What a command can do -/

/-- A loop keeps what its body keeps. -/
theorem forEach_keeps {invariant : Accounts → Prop} {asked : ServiceRequest → Prop}
    {body : Accounts → ServiceRequest → Except AppError Accounts}
    (keeps : ∀ before serviceRequest after, invariant before → asked serviceRequest →
      body before serviceRequest = .ok after → invariant after)
    {serviceRequests : List ServiceRequest}
    (allAsked : ∀ serviceRequest ∈ serviceRequests, asked serviceRequest)
    (start : invariant accounts) : invariant (forEach body serviceRequests accounts).1 := by
  induction serviceRequests generalizing accounts with
  | nil => exact start
  | cons serviceRequest rest later =>
    unfold forEach
    split
    · exact start
    · rename_i next succeeds
      exact later (fun other member => allAsked other (List.mem_cons_of_mem _ member))
        (keeps accounts serviceRequest next start (allAsked _ List.mem_cons_self) succeeds)

theorem settle_keeps {invariant : Accounts → Prop} {result : Except AppError Accounts}
    (keeps : ∀ after, result = .ok after → invariant after) (start : invariant accounts) :
    invariant (accounts.settle result) := by
  rcases result with error | after
  · exact start
  · exact keeps after rfl

theorem foundServiceRequest_eq_ok {serviceRequestId : String} {found : Option ServiceRequest}
    {serviceRequest : ServiceRequest}
    (succeeds : foundServiceRequest serviceRequestId found = .ok serviceRequest) :
    serviceRequest ∈ found.toList := by
  cases found <;> cases succeeds
  simp

/-- What the credits, the holds and the releases keep, the command of a handler keeps. -/
theorem step_keeps {invariant : Accounts → Prop} {asked : ServiceRequest → Prop}
    (income : ∀ before serviceRequest after, invariant before → asked serviceRequest →
      creditIncome before serviceRequest = .ok after → invariant after)
    (compensation : ∀ before serviceRequest after, invariant before → asked serviceRequest →
      creditCompensation before serviceRequest = .ok after → invariant after)
    (hold : ∀ before payoutId after, invariant before →
      holdBalanceForPayout before payoutId = .ok after → invariant after)
    (release : ∀ before payoutId after, invariant before →
      releaseBalanceForPayout before payoutId = .ok after → invariant after)
    {command : WalletCommand} (isHandler : command.isHandler = true)
    (allAsked : ∀ serviceRequest ∈ command.serviceRequests, asked serviceRequest)
    (start : invariant accounts) : invariant (accounts.step command) := by
  rcases command with ⟨id, found⟩ | ⟨id, found⟩ | ⟨id, found⟩ | payoutId | payoutId |
    serviceRequests | ⟨payout, chosen⟩
  · refine settle_keeps (fun after succeeds => ?_) start
    obtain ⟨serviceRequest, isFound, credited⟩ := bind_eq_ok succeeds
    exact income _ _ _ start (allAsked _ (foundServiceRequest_eq_ok isFound)) credited
  · refine settle_keeps (fun after succeeds => ?_) start
    obtain ⟨serviceRequest, isFound, credited⟩ := bind_eq_ok succeeds
    split at credited
    · cases credited
      exact start
    split at credited
    · cases credited
      exact start
    · exact compensation _ _ _ start (allAsked _ (foundServiceRequest_eq_ok isFound)) credited
  · refine settle_keeps (fun after succeeds => ?_) start
    obtain ⟨serviceRequest, isFound, credited⟩ := bind_eq_ok succeeds
    dsimp only at credited
    split at credited
    · cases credited
    · exact income _ _ _ start (allAsked _ (foundServiceRequest_eq_ok isFound)) credited
  · exact settle_keeps (fun after succeeds => hold _ _ _ start succeeds) start
  · exact settle_keeps (fun after succeeds => release _ _ _ start succeeds) start
  · have credited : invariant (forEach regenIncome serviceRequests accounts).1 := by
      refine forEach_keeps (fun before serviceRequest after held isAsked succeeds => ?_) allAsked
        start
      unfold regenIncome at succeeds
      split at succeeds
      · exact income _ _ _ held isAsked succeeds
      · cases succeeds
        exact held
    show invariant (accounts.regenMissingWalletTransactions serviceRequests).1
    unfold regenMissingWalletTransactions
    split
    · rename_i ended
      rwa [ended] at credited
    · rename_i ended
      rw [ended] at credited
      refine forEach_keeps (fun before serviceRequest after held isAsked succeeds => ?_) allAsked
        credited
      unfold regenCompensation at succeeds
      split at succeeds
      · exact compensation _ _ _ held isAsked succeeds
      · cases succeeds
        exact held
  · cases isHandler

theorem Traced.creditIncome (traced : accounts.Traced) {serviceRequest : ServiceRequest}
    {after : Accounts} (succeeds : accounts.creditIncome serviceRequest = .ok after) :
    after.Traced := by
  obtain ⟨owner, -, credited⟩ := bind_eq_ok succeeds
  exact traced.credit (Or.inl rfl) credited

theorem Traced.creditCompensation (traced : accounts.Traced) {serviceRequest : ServiceRequest}
    {after : Accounts} (succeeds : accounts.creditCompensation serviceRequest = .ok after) :
    after.Traced :=
  traced.credit (Or.inr rfl) succeeds

theorem Traced.step (traced : accounts.Traced) {command : WalletCommand}
    (isHandler : command.isHandler = true) : (accounts.step command).Traced :=
  step_keeps (fun _ _ _ before _ => before.creditIncome)
    (fun _ _ _ before _ => before.creditCompensation)
    (fun _ _ _ before => before.holdBalanceForPayout)
    (fun _ _ _ before => before.releaseBalanceForPayout) isHandler
    (fun _ _ => trivial) traced

/-! ### A scheduling run keeps track of the rows -/

section Run

variable (accounts) (ids : PayoutIds) (serviceProviders : List PayableServiceProvider)

omit accounts in
theorem not_payout_of_isDebitable {transaction : WalletTransaction}
    (debitable : transaction.isDebitable = true) : transaction.type ≠ .payout := by
  intro isPayout
  simp [WalletTransaction.isDebitable, isPayout] at debitable

/-- A payout of a run is made of credits of its owner that were part of no payout. -/
theorem debitable_of_newPayout {payout : NewPayout}
    (created : payout ∈ accounts.newPayouts serviceProviders) {transaction : WalletTransaction}
    (inside : transaction ∈ payout.walletTransactions) :
    transaction ∈ accounts.transactions.rows ∧ transaction.isDebitable = true ∧
      transaction.ownerId = payout.owner.id := by
  obtain ⟨group, grouped, made⟩ := PayoutFactory.mem_create created
  rw [made.transactions] at inside
  obtain ⟨row, debitable⟩ :=
    List.mem_filter.mp (PayoutFactory.groupId_of_mem grouped inside).1
  exact ⟨row, debitable, (made.homogeneous transaction inside).1⟩

/-- No two payouts of a run have the same identifier. -/
theorem newPayouts_distinct : ((accounts.newPayouts serviceProviders).map (·.id ids)).Nodup := by
  rw [List.Nodup, List.pairwise_map]
  exact (PayoutFactory.create_distinct _ _).imp fun different same =>
    different (PayoutFactory.groupId_injective (ids.distinct same))

theorem toPayouts_distinct :
    (((accounts.newPayouts serviceProviders).map (·.toPayout ids)).map (·.id)).Nodup := by
  rw [List.map_map]
  exact accounts.newPayouts_distinct ids serviceProviders

/-- The transactions of the payouts of a run. -/
def attached : List WalletTransaction :=
  (accounts.newPayouts serviceProviders).flatMap (·.attached ids)

variable {ids serviceProviders} in
theorem mem_attached {transaction : WalletTransaction} :
    transaction ∈ accounts.attached ids serviceProviders ↔
      ∃ payout ∈ accounts.newPayouts serviceProviders, ∃ old ∈ payout.walletTransactions,
        { old with payoutId := some (payout.id ids) } = transaction := by
  simp [attached, NewPayout.attached]

/-- No two transactions of the payouts of a run have the same identifier. -/
theorem attached_distinct : ((accounts.attached ids serviceProviders).map (·.id)).Nodup := by
  have sameIds : (accounts.attached ids serviceProviders).map (·.id) =
      ((accounts.newPayouts serviceProviders).flatMap (·.walletTransactions)).map (·.id) := by
    rw [attached, List.map_flatMap, List.map_flatMap]
    refine List.flatMap_congr fun payout _ => ?_
    rw [NewPayout.attached, List.map_map]
    rfl
  rw [sameIds, newPayouts, ((PayoutFactory.create_perm _ _).map _).nodup_iff]
  exact accounts.transactions.distinct.sublist
    ((List.filter_sublist.trans List.filter_sublist).map _)

/-- The accounts after a run. -/
def scheduled : Accounts :=
  accounts.savePayouts ids (accounts.newPayouts serviceProviders)

variable {accounts ids serviceProviders}

/-- What a run leaves of the transactions: credits that have become part of its payouts, and the
others as they were. -/
theorem mem_scheduled {transaction : WalletTransaction}
    (member : transaction ∈ (accounts.scheduled ids serviceProviders).transactions.rows) :
    (∃ payout ∈ accounts.newPayouts serviceProviders, ∃ old ∈ accounts.transactions.rows,
      old.type ≠ .payout ∧ old.ownerId = payout.owner.id ∧
        { old with payoutId := some (payout.id ids) } = transaction) ∨
      transaction ∈ accounts.transactions.rows := by
  refine ((accounts.transactions.mem_saveAll_iff (accounts.attached_distinct ids serviceProviders)
    transaction).mp member).imp (fun isAttached => ?_) And.left
  obtain ⟨payout, created, old, inside, rfl⟩ := (mem_attached accounts).mp isAttached
  obtain ⟨stored, debitable, owner⟩ :=
    accounts.debitable_of_newPayout serviceProviders created inside
  exact ⟨payout, created, old, stored, not_payout_of_isDebitable debitable, owner, rfl⟩

/-- A run changes no total that does not depend on the payouts of its transactions. -/
theorem total_scheduled {counts : WalletTransaction → Bool}
    (same : ∀ payout ∈ accounts.newPayouts serviceProviders,
      ∀ old ∈ payout.walletTransactions,
        counts { old with payoutId := some (payout.id ids) } = counts old) :
    (accounts.scheduled ids serviceProviders).transactions.total counts (·.amount) =
      accounts.transactions.total counts (·.amount) := by
  have saved := accounts.transactions.total_saveAll counts (·.amount)
    (accounts.attached_distinct ids serviceProviders)
  have replaced : (accounts.attached ids serviceProviders).map
        (fun row => share counts (·.amount) (accounts.transactions.find row.id)) =
      (accounts.attached ids serviceProviders).map
        fun row => share counts (·.amount) (some row) := by
    refine List.map_congr_left fun row member => ?_
    obtain ⟨payout, created, old, inside, rfl⟩ := (mem_attached accounts).mp member
    obtain ⟨stored, -⟩ := accounts.debitable_of_newPayout serviceProviders created inside
    rw [show _ = old.id from rfl, accounts.transactions.find_of_mem stored]
    simp only [share, same payout created old inside]
  rw [replaced] at saved
  exact add_right_cancel saved

theorem amountOf_scheduled {counts : WalletTransaction → Bool}
    (same : ∀ payout ∈ accounts.newPayouts serviceProviders,
      ∀ old ∈ payout.walletTransactions,
        counts { old with payoutId := some (payout.id ids) } = counts old) (owner : Uuid) :
    (accounts.scheduled ids serviceProviders).amountOf counts owner =
      accounts.amountOf counts owner :=
  total_scheduled fun payout created old inside => by rw [same payout created old inside]

/-- What becomes part of a payout is worth its amount. -/
theorem sum_attached {payout : NewPayout}
    (created : payout ∈ accounts.newPayouts serviceProviders) :
    sumWhere (fun transaction => transaction.type ≠ .payout &&
        transaction.payoutId = some (payout.id ids)) (·.amount)
      (accounts.attached ids serviceProviders) = payout.amount := by
  have perPayout : sumWhere (fun transaction : WalletTransaction => transaction.type ≠ .payout &&
        transaction.payoutId = some (payout.id ids)) (·.amount)
        (accounts.attached ids serviceProviders) =
      sumWhere (fun other : NewPayout => other.id ids = payout.id ids) (·.amount)
        (accounts.newPayouts serviceProviders) := by
    refine sumWhere_flatMap fun other otherCreated => ?_
    obtain ⟨group, grouped, made⟩ := PayoutFactory.mem_create otherCreated
    rw [sumWhere_uniform]
    · rw [made.amount, ← made.transactions, NewPayout.attached, List.map_map]
      rfl
    · intro transaction member
      obtain ⟨old, inside, rfl⟩ := List.mem_map.mp member
      obtain ⟨-, debitable, -⟩ :=
        accounts.debitable_of_newPayout serviceProviders otherCreated inside
      simp [not_payout_of_isDebitable debitable]
  let payouts : Table Uuid NewPayout (·.id ids) :=
    ⟨accounts.newPayouts serviceProviders, accounts.newPayouts_distinct ids serviceProviders⟩
  refine perPayout.trans ((payouts.total_unique _ ?_).trans ?_)
  · intro first firstMember second secondMember firstSame secondSame
    exact List.inj_on_of_nodup_map payouts.distinct firstMember secondMember
      ((of_decide_eq_true firstSame).trans (of_decide_eq_true secondSame).symm)
  · rw [show payouts.rows.find? (fun other => other.id ids = payout.id ids) = some payout from
      payouts.find_of_mem created]
    rfl

/-- The credits of a payout after a run are those before, and those it has made part of it. -/
theorem total_credits_scheduled (payoutId : Uuid) :
    (accounts.scheduled ids serviceProviders).transactions.total
        (fun transaction => transaction.type ≠ .payout && transaction.payoutId = some payoutId)
        (·.amount) =
      accounts.transactions.total
          (fun transaction => transaction.type ≠ .payout && transaction.payoutId = some payoutId)
          (·.amount) +
        sumWhere
          (fun transaction => transaction.type ≠ .payout && transaction.payoutId = some payoutId)
          (·.amount) (accounts.attached ids serviceProviders) := by
  have saved := accounts.transactions.total_saveAll
    (fun transaction => transaction.type ≠ .payout && transaction.payoutId = some payoutId)
    (·.amount) (accounts.attached_distinct ids serviceProviders)
  have replaced : (accounts.attached ids serviceProviders).map (fun row => share
        (fun transaction : WalletTransaction =>
          decide (transaction.type ≠ .payout) && decide (transaction.payoutId = some payoutId))
        (·.amount) (accounts.transactions.find row.id)) =
      (accounts.attached ids serviceProviders).map fun _ => 0 := by
    refine List.map_congr_left fun row member => ?_
    obtain ⟨payout, created, old, inside, rfl⟩ := (mem_attached accounts).mp member
    obtain ⟨stored, debitable, -⟩ :=
      accounts.debitable_of_newPayout serviceProviders created inside
    rw [show _ = old.id from rfl, accounts.transactions.find_of_mem stored]
    have unfiled : old.payoutId = none := by
      simpa using (Bool.and_eq_true_iff.mp debitable).2
    simp [share, unfiled]
  rw [replaced, List.sum_map_zero, add_zero, sum_share] at saved
  exact saved

theorem exists_transaction_of_newPayout {payout : NewPayout}
    (created : payout ∈ accounts.newPayouts serviceProviders) :
    ∃ transaction, transaction ∈ payout.walletTransactions := by
  obtain ⟨group, grouped, made⟩ := PayoutFactory.mem_create created
  rw [made.transactions]
  exact List.exists_mem_of_ne_nil _ ((mem_collect PayoutFactory.groupId _ group).mp grouped).2

theorem isFresh_iff :
    accounts.areFresh ids (accounts.newPayouts serviceProviders) = true ↔
      ∀ payout ∈ accounts.newPayouts serviceProviders,
        accounts.payouts.find (payout.id ids) = none := by
  simp [areFresh]

/-- What a run leaves of the payouts: its own, and the others as they were. -/
theorem mem_payouts_scheduled
    (fresh : ∀ payout ∈ accounts.newPayouts serviceProviders,
      accounts.payouts.find (payout.id ids) = none) (payout : Payout) :
    payout ∈ (accounts.scheduled ids serviceProviders).payouts.rows ↔
      (∃ created ∈ accounts.newPayouts serviceProviders, created.toPayout ids = payout) ∨
        payout ∈ accounts.payouts.rows := by
  rw [show payout ∈ (accounts.scheduled ids serviceProviders).payouts.rows ↔ _ from
    accounts.payouts.mem_saveAll_iff (accounts.toPayouts_distinct ids serviceProviders) payout,
    List.mem_map]
  refine or_congr_right (and_iff_left_of_imp fun stored => ?_)
  intro saved isSaved same
  obtain ⟨created, isCreated, rfl⟩ := List.mem_map.mp isSaved
  have missing := fresh created isCreated
  rw [show created.id ids = payout.id from same, accounts.payouts.find_of_mem stored] at missing
  cases missing

/-- A run under fresh identifiers keeps track of the rows. -/
theorem Traced.scheduled (traced : accounts.Traced)
    (fresh : ∀ payout ∈ accounts.newPayouts serviceProviders,
      accounts.payouts.find (payout.id ids) = none) :
    (accounts.scheduled ids serviceProviders).Traced where
  balanced :=
    { available := fun owner =>
        (traced.balanced.available owner).trans (amountOf_scheduled (fun _ _ _ _ => rfl) owner).symm
      hold := fun owner => (traced.balanced.hold owner).trans
        (congrArg Neg.neg (amountOf_scheduled (fun _ _ _ _ => rfl) owner).symm)
      backed := fun transaction member isPayout => by
        obtain ⟨_, _, old, _, notPayout, _, rfl⟩ | stored := mem_scheduled member
        · exact absurd isPayout notPayout
        obtain ⟨payout, filed, found, rest⟩ :=
          traced.balanced.backed transaction stored isPayout
        refine ⟨payout, filed, Table.find_of_mem _ ?_, rest⟩
        exact (mem_payouts_scheduled fresh payout).mpr
          (Or.inr (accounts.payouts.find_key found).1) }
  kind transaction member := by
    obtain ⟨_, _, old, stored, _, _, rfl⟩ | stored := mem_scheduled member
    · exact traced.kind old stored
    · exact traced.kind transaction stored
  owned transaction member := by
    obtain ⟨_, _, old, stored, _, _, rfl⟩ | stored := mem_scheduled member
    · exact traced.owned old stored
    · exact traced.owned transaction stored
  filed transaction member payoutId isFiled := by
    obtain ⟨payout, created, old, stored, -, owner, rfl⟩ | stored := mem_scheduled member
    · refine ⟨payout.toPayout ids, (mem_payouts_scheduled fresh _).mpr
        (Or.inl ⟨payout, created, rfl⟩), Option.some.inj isFiled, ?_⟩
      exact (traced.owned old stored).1.trans owner
    · obtain ⟨payout, isScheduled, rest⟩ := traced.filed transaction stored payoutId isFiled
      exact ⟨payout, (mem_payouts_scheduled fresh payout).mpr (Or.inr isScheduled), rest⟩
  once payoutId first firstMember second secondMember firstTakes secondTakes := by
    have old : ∀ transaction ∈ (accounts.scheduled ids serviceProviders).transactions.rows,
        transaction.takes payoutId = true → transaction ∈ accounts.transactions.rows := by
      intro transaction member takes
      obtain ⟨_, _, old, _, notPayout, _, rfl⟩ | stored := mem_scheduled member
      · exact absurd ((takes_iff _ _).mp takes).1 notPayout
      · exact stored
    exact traced.once payoutId first (old first firstMember firstTakes) second
      (old second secondMember secondTakes) firstTakes secondTakes
  made payout isScheduled := by
    rw [total_credits_scheduled]
    obtain ⟨created, isCreated, rfl⟩ | stored := (mem_payouts_scheduled fresh payout).mp isScheduled
    · have unfiled : accounts.transactions.total
          (fun transaction => transaction.type ≠ .payout &&
            transaction.payoutId = some (created.id ids)) (·.amount) = 0 := by
        refine (sumWhere_uniform _ fun transaction member => ?_).trans (if_neg Bool.false_ne_true)
        rw [Bool.and_eq_false_iff, decide_eq_false_iff_not, decide_eq_false_iff_not]
        refine Or.inr fun isFiled => ?_
        obtain ⟨payout, stored, sameId, -⟩ := traced.filed transaction member _ isFiled
        have missing := fresh created isCreated
        rw [← sameId, accounts.payouts.find_of_mem stored] at missing
        cases missing
      obtain ⟨transaction, inside⟩ := exists_transaction_of_newPayout isCreated
      obtain ⟨stored, -, owner⟩ :=
        accounts.debitable_of_newPayout serviceProviders isCreated inside
      obtain ⟨own, banked⟩ := traced.owned transaction stored
      refine ⟨?_, ?_⟩
      · rw [show (created.toPayout ids).id = created.id ids from rfl, unfiled,
          sum_attached isCreated, zero_add]
        rfl
      · show (accounts.wallets.find created.owner.id).isSome = true
        rw [← owner, ← own]
        exact banked
    · have unattached : sumWhere (fun transaction : WalletTransaction =>
          transaction.type ≠ .payout && transaction.payoutId = some payout.id) (·.amount)
          (accounts.attached ids serviceProviders) = 0 := by
        refine (sumWhere_uniform _ fun transaction member => ?_).trans (if_neg Bool.false_ne_true)
        rw [Bool.and_eq_false_iff, decide_eq_false_iff_not, decide_eq_false_iff_not]
        refine Or.inr fun isFiled => ?_
        obtain ⟨created, isCreated, old, -, rfl⟩ := (mem_attached accounts).mp member
        have missing := fresh created isCreated
        rw [Option.some.inj isFiled, accounts.payouts.find_of_mem stored] at missing
        cases missing
      rw [unattached, add_zero]
      exact traced.made payout stored

end Run

/-! ### Every run -/

theorem traced_empty : empty.Traced where
  balanced := balanced_empty
  kind _ member := by cases member
  owned _ member := by cases member
  filed _ member := by cases member
  once _ _ member := by cases member
  made _ member := by cases member

/-- What the credits, the holds, the releases and the saving of payouts keep, a step keeps. -/
theorem Traced.perform (traced : accounts.Traced) (action : AccountsAction) :
    (accounts.perform action).Traced := by
  cases action with
  | handle command isHandler => exact traced.step isHandler
  | schedulePayoutsFromWalletTransactions serviceProviders ids =>
    show Traced (if accounts.areFresh ids (accounts.newPayouts serviceProviders) then
      accounts.scheduled ids serviceProviders else accounts)
    split
    · rename_i fresh
      exact traced.scheduled (isFresh_iff.mp fresh)
    · exact traced

theorem traced_run (actions : List AccountsAction) : (run perform empty actions).Traced :=
  preserved_run perform Traced (fun _ action traced => traced.perform action) empty actions
    traced_empty

/-- Whatever commands are handled and whenever payouts are scheduled, in whatever order and
however often, every wallet accounts for all that its owner has earned. -/
theorem accountsFor_run (actions : List AccountsAction) (owner : Uuid) :
    (run perform empty actions).AccountsFor owner :=
  (traced_run actions).accountsFor owner

/-- One provider earns a hundred and another one is compensated with thirty. -/
def exampleCredits : List AccountsAction :=
  let serviceRequest := Settlement.exampleServiceRequest.toServiceRequest
  [.handle (.createIncomeTransaction serviceRequest.id (some serviceRequest)) rfl,
    .handle (.createRescheduleSurchargeCompensationTransaction serviceRequest.id
      (some serviceRequest)) rfl]

def examplePayoutId (ownerId : Uuid) : Uuid :=
  Settlement.examplePayoutIds.of (PayoutFactory.groupIdOf ownerId .daikin)

end Accounts

/-! ### Scheduling runs over the database -/

namespace PayoutDatabase

/-- The wallets' view of the database. -/
def accounts (database : PayoutDatabase) (wallets : Table Uuid Wallet (·.ownerId)) : Accounts where
  wallets := wallets
  transactions := database.transactions
  payouts := database.payouts.image (fun payout : PayoutEntry => payout.toPayout) fun _ => rfl

theorem accounts_savePayouts (database : PayoutDatabase) (wallets : Table Uuid Wallet (·.ownerId))
    (ids : PayoutIds) (payouts : List NewPayout) :
    (database.savePayouts ids payouts).accounts wallets =
      (database.accounts wallets).savePayouts ids payouts := by
  rw [accounts, Accounts.savePayouts, Accounts.mk.injEq]
  refine ⟨rfl, rfl, (image_saveAll _ database.payouts (payouts.map (·.toEntry ids))).trans ?_⟩
  rw [List.map_map]
  rfl

/-- The second half of a run leaves the wallets' view alone. -/
theorem accounts_scheduleLines {database after : PayoutDatabase}
    (wallets : Table Uuid Wallet (·.ownerId)) {calls : SchedulingCalls} {lineIds : PayoutLineIds}
    {transactions : List WalletTransaction} {serviceProviders : List PayableServiceProvider}
    (succeeds : database.scheduleLines calls lineIds transactions serviceProviders = .ok after) :
    after.accounts wallets = database.accounts wallets := by
  obtain ⟨-, -, rest⟩ := bind_eq_ok succeeds
  obtain ⟨lines, -, rest⟩ := bind_eq_ok rest
  obtain ⟨-, -, kept⟩ := bind_eq_ok rest
  rw [savePayoutLines] at kept
  split at kept <;> cases kept
  rfl

/-- What a scheduling run does to the wallets' view is a step of the wallets, or nothing. -/
theorem accounts_schedulePayouts (database : PayoutDatabase)
    (wallets : Table Uuid Wallet (·.ownerId)) (calls : SchedulingCalls) {ids : PayoutIds}
    (fresh : ∀ payout ∈ database.newPayouts, database.payouts.find (payout.id ids) = none)
    (lineIds : PayoutLineIds) :
    (database.schedulePayoutsFromWalletTransactions calls ids lineIds).1.accounts wallets =
      if calls.beforeSaved.isSome then database.accounts wallets
      else (database.accounts wallets).perform
        (.schedulePayoutsFromWalletTransactions database.payees ids) := by
  have performed : (database.accounts wallets).perform
      (.schedulePayoutsFromWalletTransactions database.payees ids) =
        (database.savePayouts ids database.newPayouts).accounts wallets := by
    rw [accounts_savePayouts]
    refine if_pos (Accounts.isFresh_iff.mpr fun payout created => ?_)
    refine Option.eq_none_iff_forall_ne_some.mpr fun stored found => ?_
    obtain ⟨row, member, rfl⟩ := List.mem_map.mp (Table.find_key _ found).1
    have sameId : row.id = payout.id ids := (Table.find_key _ found).2
    have missing := fresh payout created
    rw [← sameId, database.payouts.find_of_mem member] at missing
    cases missing
  rw [performed, schedulePayoutsFromWalletTransactions]
  cases reached : calls.beforeSaved with
  | some error => rfl
  | none =>
    cases ended : (database.savePayouts ids database.newPayouts).scheduleLines calls lineIds
        (database.carried ids) database.payees with
    | error error =>
      simp only [ended]
      rfl
    | ok itemised =>
      simp only [ended]
      have kept := accounts_scheduleLines wallets ended
      exact kept

end PayoutDatabase

end FieldService
