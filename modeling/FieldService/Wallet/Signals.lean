/-
This file proves that the order in which the events of different payouts arrive does not matter,
and that it does no harm when an event arrives more than once.

A hold and a release say which payout they are about, and read and write the rows of other
payouts nowhere. A payout goes through its three stages by its own events alone, and the
balances of every wallet are read off the stages of the payouts of its owner.
-/

import FieldService.Library.Components
import FieldService.Wallet.Tracing

namespace FieldService

open Execution Table Grouping Components

/-! ### Events of payouts -/

inductive PayoutSignal where
  | hold (payoutId : Uuid)
  | release (payoutId : Uuid)
  deriving DecidableEq, Repr

namespace PayoutSignal

def payoutId : PayoutSignal → Uuid
  | hold payoutId => payoutId
  | release payoutId => payoutId

def command : PayoutSignal → WalletCommand
  | hold payoutId => .holdBalanceForPayout payoutId
  | release payoutId => .releaseBalanceForPayout payoutId

theorem isHandler_command (signal : PayoutSignal) : signal.command.isHandler = true := by
  cases signal <;> rfl

end PayoutSignal

/-- What a payout does about an event of its own: it is held for once, and released once it is
held for. -/
def PayoutStage.receive : PayoutStage → PayoutSignal → PayoutStage
  | .scheduled, .hold _ => .held
  | .held, .release _ => .released
  | stage, _ => stage

namespace Accounts

/-- The handler of an event, carried out to its end. -/
def receive (accounts : Accounts) (signal : PayoutSignal) : Accounts :=
  accounts.step signal.command

/-- The stage of a payout that has been scheduled. -/
def stageFor (accounts : Accounts) (payoutId : Uuid) : Option PayoutStage :=
  (accounts.payouts.find payoutId).map fun payout => accounts.stageOf payout.id

variable {accounts : Accounts}

/-! ### What an event leaves alone -/

/-- What an event keeps of the accounts whatever payout it is about. -/
structure Kept (before after : Accounts) : Prop where
  payouts : after.payouts = before.payouts
  unscheduled : ∀ owner, after.unscheduled owner = before.unscheduled owner

theorem Kept.refl (accounts : Accounts) : accounts.Kept accounts := ⟨rfl, fun _ => rfl⟩

/-- Saving a transaction that takes a payout leaves the credits alone. -/
theorem kept_record {wallet : Wallet} {transaction : WalletTransaction}
    (isPayout : transaction.type = .payout)
    (before : ∀ old ∈ accounts.transactions.find transaction.id, old.type = .payout) :
    accounts.Kept (accounts.record (wallet, transaction)) where
  payouts := rfl
  unscheduled owner := by
    have unchanging : ∀ row : Option WalletTransaction, (∀ old ∈ row, old.type = .payout) →
        share (fun other => other.wallet = owner && other.isDebitable) (·.amount) row = 0 := by
      intro row payouts
      cases row with
      | none => rfl
      | some old => simp [share, WalletTransaction.isDebitable, payouts old rfl]
    have saved := accounts.transactions.total_save
      (fun other => other.wallet = owner && other.isDebitable) (·.amount) transaction
    have added := unchanging (some transaction) fun old same => Option.some.inj same ▸ isPayout
    rw [unchanging _ before, added, add_zero, add_zero] at saved
    exact saved

/-! ### What an event does -/

theorem Traced.stageFor_eq (traced : accounts.Traced) {transaction : WalletTransaction}
    {payoutId : Uuid} (member : transaction ∈ accounts.transactions.rows)
    (takes : transaction.takes payoutId = true) :
    accounts.stageFor payoutId =
      some (if transaction.status = .pending then .held else .released) := by
  obtain ⟨isPayout, ofPayout⟩ := (takes_iff _ _).mp takes
  obtain ⟨payout, filed, stored, -⟩ := traced.balanced.backed transaction member isPayout
  obtain rfl : payout.id = payoutId := Option.some.inj (filed.symm.trans ofPayout)
  rw [stageFor, stored, Option.map_some, traced.stageOf_of_takes member takes]

/-- The transaction an event saves takes its payout, in the place of one that took it if there
was one, and is at the stage the payout gets to. -/
structure Takes (accounts : Accounts) (signal : PayoutSignal) (transaction : WalletTransaction) :
    Prop where
  takes : transaction.takes signal.payoutId = true
  replaces : ∀ old ∈ accounts.transactions.find transaction.id, old.takes signal.payoutId = true
  stage : (accounts.stageFor signal.payoutId).map (·.receive signal) =
    some (if transaction.status = .pending then .held else .released)

/-- What an event can do: it is no news to its payout and changes nothing, or it saves one
transaction. -/
def Receives (accounts : Accounts) (signal : PayoutSignal) : Prop :=
  (accounts.receive signal = accounts ∧
    (accounts.stageFor signal.payoutId).map (·.receive signal) =
      accounts.stageFor signal.payoutId) ∨
  ∃ wallet transaction, accounts.receive signal = accounts.record (wallet, transaction) ∧
    accounts.Takes signal transaction

theorem stageFor_of_find {payoutId : Uuid} {payout : Payout}
    (found : accounts.payouts.find payoutId = some payout) :
    accounts.stageFor payoutId = some (accounts.stageOf payoutId) := by
  rw [stageFor, found, Option.map_some, (accounts.payouts.find_key found).2]

theorem Traced.receives_hold (traced : accounts.Traced) (payoutId : Uuid) :
    accounts.Receives (.hold payoutId) := by
  show (accounts.settle (accounts.holdBalanceForPayout payoutId) = accounts ∧ _) ∨
    ∃ wallet transaction, accounts.settle (accounts.holdBalanceForPayout payoutId) = _ ∧ _
  cases found : accounts.payouts.find payoutId with
  | none =>
    refine Or.inl ⟨?_, ?_⟩
    · rw [Accounts.holdBalanceForPayout, foundPayout, found]
      rfl
    · rw [PayoutSignal.payoutId, stageFor, found]
      rfl
  | some payout =>
    obtain ⟨stored, rfl⟩ := accounts.payouts.find_key found
    obtain ⟨wallet, owned⟩ := Option.isSome_iff_exists.mp (traced.made payout stored).2
    have looked : (accounts.transactions.rows.filter fun transaction =>
        decide (transaction.type = .payout ∧ transaction.payoutId = some payout.id)).length > 0 ↔
          accounts.stageOf payout.id ≠ .scheduled := by
      have taken : accounts.transactions.rows.any (·.takes payout.id) = true ↔
          accounts.stageOf payout.id ≠ .scheduled := by
        rw [any_takes, Bool.not_eq_true', decide_eq_false_iff_not]
      rw [← taken, gt_iff_lt, List.length_pos_iff_exists_mem, List.any_eq_true]
      exact exists_congr fun transaction => by simp [WalletTransaction.takes]
    have held : accounts.holdBalanceForPayout payout.id =
        if accounts.stageOf payout.id ≠ .scheduled then .ok accounts
        else .ok (accounts.record
          (WalletTransaction.forPayout accounts.transactions.next wallet payout)) := by
      rw [Accounts.holdBalanceForPayout, foundPayout, found]
      simp only [bind, Except.bind, pure, Except.pure, owned, looked]
    rw [PayoutSignal.payoutId, stageFor_of_find found, held]
    by_cases scheduled : accounts.stageOf payout.id = .scheduled
    · rw [if_neg (not_not.mpr scheduled)]
      refine Or.inr ⟨_, _, rfl, (takes_iff _ _).mpr ⟨rfl, rfl⟩, fun old same => ?_, ?_⟩
      · rw [show _ = accounts.transactions.next from rfl, accounts.transactions.find_next] at same
        cases same
      · rw [PayoutSignal.payoutId, stageFor_of_find found, scheduled]
        rfl
    · rw [if_pos scheduled]
      refine Or.inl ⟨rfl, ?_⟩
      cases stage : accounts.stageOf payout.id with
      | scheduled => exact absurd stage scheduled
      | held => rfl
      | released => rfl

theorem Traced.receives_release (traced : accounts.Traced) (payoutId : Uuid) :
    accounts.Receives (.release payoutId) := by
  show (accounts.settle (accounts.releaseBalanceForPayout payoutId) = accounts ∧ _) ∨
    ∃ wallet transaction, accounts.settle (accounts.releaseBalanceForPayout payoutId) = _ ∧ _
  cases found : accounts.payouts.find payoutId with
  | none =>
    refine Or.inl ⟨?_, ?_⟩
    · rw [Accounts.releaseBalanceForPayout, foundPayout, found]
      rfl
    · rw [PayoutSignal.payoutId, stageFor, found]
      rfl
  | some payout =>
    obtain ⟨stored, rfl⟩ := accounts.payouts.find_key found
    obtain ⟨wallet, owned⟩ := Option.isSome_iff_exists.mp (traced.made payout stored).2
    rw [PayoutSignal.payoutId, stageFor_of_find found]
    cases looked : accounts.getPendingPayoutTransactionByPayoutId payout.id with
    | none =>
      have unheld : accounts.stageOf payout.id ≠ .held := by
        have held := traced.any_held payout.id
        intro stage
        rw [stage, decide_eq_true rfl, List.any_eq_true] at held
        obtain ⟨transaction, member, passes⟩ := held
        have missing := List.find?_eq_none.mp looked transaction member
        simp only [WalletTransaction.isHeld, WalletTransaction.takes] at passes
        simp_all
      refine Or.inl ⟨?_, ?_⟩
      · rw [Accounts.releaseBalanceForPayout, foundPayout, found]
        simp only [bind, Except.bind, owned, looked]
        rfl
      · cases stage : accounts.stageOf payout.id with
        | scheduled => rfl
        | held => exact absurd stage unheld
        | released => rfl
    | some transaction =>
      obtain ⟨member, ofPayout, isPending, isPayout⟩ := pending_type looked
      have takes : transaction.takes payout.id = true := (takes_iff _ _).mpr ⟨isPayout, ofPayout⟩
      refine Or.inr ⟨wallet.releaseBalanceForPayout payout.amount,
        { transaction with wallet := wallet.ownerId, status := .success }, ?_, takes,
        fun old same => ?_, ?_⟩
      · rw [Accounts.releaseBalanceForPayout, foundPayout, found]
        simp only [bind, Except.bind, owned, looked, WalletTransaction.releasePayout, isPayout,
          ne_eq, not_true_eq_false, if_false]
        rfl
      · rw [show _ = transaction.id from rfl, accounts.transactions.find_of_mem member] at same
        cases same
        exact takes
      · rw [PayoutSignal.payoutId, stageFor_of_find found, traced.stageOf_of_takes member takes,
          if_pos isPending]
        rfl

theorem Traced.receives (traced : accounts.Traced) (signal : PayoutSignal) :
    accounts.Receives signal := by
  cases signal with
  | hold payoutId => exact traced.receives_hold payoutId
  | release payoutId => exact traced.receives_release payoutId

/-! ### Payouts as components -/

theorem Traced.receive (traced : accounts.Traced) (signal : PayoutSignal) :
    (accounts.receive signal).Traced :=
  traced.step signal.isHandler_command

theorem Traced.kept_receive (traced : accounts.Traced) (signal : PayoutSignal) :
    accounts.Kept (accounts.receive signal) := by
  obtain ⟨same, -⟩ | ⟨wallet, transaction, saved, takes⟩ := traced.receives signal
  · rw [same]
    exact Kept.refl accounts
  · rw [saved]
    exact kept_record ((takes_iff _ _).mp takes.takes).1 fun old found =>
      ((takes_iff _ _).mp (takes.replaces old found)).1

/-- The stage of a payout is read off the transactions that take it. -/
theorem Traced.stageOf_congr {before after : Accounts} (beforeTraced : before.Traced)
    (afterTraced : after.Traced) {payoutId : Uuid}
    (same : ∀ transaction : WalletTransaction, transaction.takes payoutId = true →
      (transaction ∈ after.transactions.rows ↔ transaction ∈ before.transactions.rows)) :
    after.stageOf payoutId = before.stageOf payoutId := by
  cases taken : before.transactions.rows.find? (·.takes payoutId) with
  | some transaction =>
    have member := List.mem_of_find?_eq_some taken
    have takes : transaction.takes payoutId = true := by simpa using List.find?_some taken
    rw [beforeTraced.stageOf_of_takes member takes,
      afterTraced.stageOf_of_takes ((same transaction takes).mpr member) takes]
  | none =>
    have untaken : after.transactions.rows.find? (·.takes payoutId) = none := by
      refine List.find?_eq_none.mpr fun transaction member takes => ?_
      exact List.find?_eq_none.mp taken transaction ((same transaction takes).mp member) takes
    rw [stageOf, stageOf, taken, untaken]

/-- An event moves its own payout, and no other. -/
theorem composed_payouts :
    Composed receive Traced PayoutSignal.payoutId stageFor
      fun stage signal => stage.map (·.receive signal) where
  keeps accounts signal traced := traced.receive signal
  addressed accounts signal traced := by
    have afterTraced := traced.receive signal
    obtain ⟨same, stage⟩ | ⟨wallet, transaction, saved, takes⟩ := traced.receives signal
    · rw [same, stage]
    · rw [takes.stage]
      refine afterTraced.stageFor_eq ?_ takes.takes
      rw [saved]
      exact (accounts.transactions.mem_save_iff transaction transaction).mpr (Or.inl rfl)
  others accounts signal payoutId traced other := by
    have afterTraced := traced.receive signal
    rw [stageFor, stageFor, (traced.kept_receive signal).payouts]
    cases found : accounts.payouts.find payoutId with
    | none => rfl
    | some payout =>
      obtain ⟨-, rfl⟩ := accounts.payouts.find_key found
      refine congrArg some (traced.stageOf_congr afterTraced fun row rowTakes => ?_)
      obtain ⟨same, -⟩ | ⟨wallet, transaction, saved, takes⟩ := traced.receives signal
      · rw [same]
      · have apart : ∀ own : WalletTransaction, own.takes signal.payoutId = true → row ≠ own := by
          rintro own ownTakes rfl
          exact other (Option.some.inj
            (((takes_iff _ _).mp ownTakes).2.symm.trans ((takes_iff _ _).mp rowTakes).2))
        rw [saved]
        refine (accounts.transactions.mem_save_iff transaction row).trans ?_
        rw [or_iff_right (apart transaction takes.takes)]
        refine and_iff_left_of_imp fun member same => ?_
        refine apart row (takes.replaces row ?_) rfl
        rw [← same]
        exact accounts.transactions.find_of_mem member

/-! ### Events in any order -/

/-- Two lists of events come to the same for every payout, whatever has become of it before. -/
def SameForPayouts (first second : List PayoutSignal) : Prop :=
  ∀ payoutId stage,
    run PayoutStage.receive stage (addressedTo PayoutSignal.payoutId payoutId first) =
      run PayoutStage.receive stage (addressedTo PayoutSignal.payoutId payoutId second)

omit accounts in
/-- A payout that has not been scheduled does nothing about events. -/
theorem run_receive_map (signals : List PayoutSignal) (stage : Option PayoutStage) :
    run (fun stage signal => Option.map (PayoutStage.receive · signal) stage) stage signals =
      stage.map fun stage => run PayoutStage.receive stage signals := by
  induction signals generalizing stage with
  | nil => cases stage <;> rfl
  | cons signal rest later => rw [run_cons, later, Option.map_map]; rfl

theorem Traced.run_receive (traced : accounts.Traced) (signals : List PayoutSignal) :
    (run Accounts.receive accounts signals).Traced ∧
      accounts.Kept (run Accounts.receive accounts signals) := by
  refine preserved_run Accounts.receive (fun after => after.Traced ∧ accounts.Kept after)
    (fun after signal invariant => ?_) accounts signals ⟨traced, Kept.refl accounts⟩
  obtain ⟨afterTraced, kept⟩ := invariant
  have keptBy := afterTraced.kept_receive signal
  exact ⟨afterTraced.receive signal, keptBy.payouts.trans kept.payouts,
    fun owner => (keptBy.unscheduled owner).trans (kept.unscheduled owner)⟩

theorem Traced.stageFor_run_congr (traced : accounts.Traced) {first second : List PayoutSignal}
    (same : SameForPayouts first second) (payoutId : Uuid) :
    (run Accounts.receive accounts first).stageFor payoutId =
      (run Accounts.receive accounts second).stageFor payoutId := by
  refine composed_payouts.view_run_congr traced (fun payoutId stage => ?_) payoutId
  rw [run_receive_map, run_receive_map]
  exact Option.map_congr fun stage _ => same payoutId stage

/-- Accounts that keep the same of the same accounts, and whose payouts are at the same stages,
show the same amounts at every stage. -/
theorem inStage_congr {before first second : Accounts} (firstKept : before.Kept first)
    (secondKept : before.Kept second)
    (same : ∀ payoutId, first.stageFor payoutId = second.stageFor payoutId) (stage : PayoutStage)
    (owner : Uuid) : first.inStage stage owner = second.inStage stage owner := by
  have payouts : first.payouts = second.payouts := firstKept.payouts.trans secondKept.payouts.symm
  rw [inStage, inStage, ← payouts]
  refine sumWhere_congr _ fun payout stored => ?_
  have found := first.payouts.find_of_mem stored
  have foundToo := found
  rw [payouts] at foundToo
  have sameStage := same payout.id
  rw [stageFor_of_find found, stageFor_of_find foundToo] at sameStage
  rw [Option.some.inj sameStage]

/-- Events that come to the same for every payout leave the same balances in every wallet, in
whatever order those of different payouts arrive and however often each does. -/
theorem balances_run_congr (actions : List AccountsAction) {first second : List PayoutSignal}
    (same : SameForPayouts first second) (owner : Uuid) :
    let accounts := run perform empty actions
    (run receive accounts first).availableBalance owner =
        (run receive accounts second).availableBalance owner ∧
      (run receive accounts first).holdBalance owner =
        (run receive accounts second).holdBalance owner := by
  have traced := traced_run actions
  obtain ⟨firstTraced, firstKept⟩ := traced.run_receive first
  obtain ⟨secondTraced, secondKept⟩ := traced.run_receive second
  have stages := inStage_congr firstKept secondKept (traced.stageFor_run_congr same)
  refine ⟨?_, ?_⟩
  · rw [firstTraced.available, secondTraced.available, firstKept.unscheduled,
      secondKept.unscheduled, stages]
  · rw [firstTraced.hold, secondTraced.hold, stages]

/-- Two providers are paid out. -/
def exampleScheduled : List AccountsAction :=
  exampleCredits ++
    [.schedulePayoutsFromWalletTransactions
      [Settlement.exampleProvider Settlement.exampleEarner,
        Settlement.exampleProvider Settlement.exampleImpacted] Settlement.examplePayoutIds]

/-- The events of one payout after those of the other. -/
def exampleInTurn : List PayoutSignal :=
  [.hold (examplePayoutId Settlement.exampleEarner),
    .release (examplePayoutId Settlement.exampleEarner),
    .hold (examplePayoutId Settlement.exampleImpacted)]

/-- The same events mixed, and some of them again. -/
def exampleMixed : List PayoutSignal :=
  [.hold (examplePayoutId Settlement.exampleImpacted),
    .hold (examplePayoutId Settlement.exampleEarner),
    .hold (examplePayoutId Settlement.exampleImpacted),
    .release (examplePayoutId Settlement.exampleEarner),
    .release (examplePayoutId Settlement.exampleEarner)]

theorem sameForPayouts_example : SameForPayouts exampleInTurn exampleMixed := by
  have apart : examplePayoutId Settlement.exampleEarner ≠
      examplePayoutId Settlement.exampleImpacted := by
    decide +kernel
  intro payoutId stage
  by_cases isFirst : examplePayoutId Settlement.exampleEarner = payoutId
  · subst isFirst
    cases stage <;>
      simp [exampleInTurn, exampleMixed, addressedTo, PayoutSignal.payoutId, apart.symm,
        PayoutStage.receive]
  · by_cases isSecond : examplePayoutId Settlement.exampleImpacted = payoutId
    · subst isSecond
      cases stage <;>
        simp [exampleInTurn, exampleMixed, addressedTo, PayoutSignal.payoutId, isFirst,
          PayoutStage.receive]
    · simp [exampleInTurn, exampleMixed, addressedTo, PayoutSignal.payoutId, isFirst, isSecond]

theorem balances_run_congr_mixed :
    (run receive (run perform empty exampleScheduled) exampleMixed).holdBalance
        Settlement.exampleImpacted = 30 ∧
      (run receive (run perform empty exampleScheduled) exampleInTurn).holdBalance
        Settlement.exampleImpacted =
        (run receive (run perform empty exampleScheduled) exampleMixed).holdBalance
          Settlement.exampleImpacted :=
  ⟨by decide +kernel,
    (balances_run_congr exampleScheduled sameForPayouts_example Settlement.exampleImpacted).2⟩

end Accounts

end FieldService
