/-
This file proves that no wallet is ever overdrawn.

What a provider is paid out of is what the provider has earned, so a balance could only become
negative through a credit that takes. As long as no service request earns anyone less than
nothing, neither balance of any wallet does, and no more is on its way to a provider than that.
-/

import FieldService.Wallet.Tracing

namespace FieldService

open Execution Table Grouping

/-- A service request that earns nobody less than nothing. -/
structure ServiceRequest.Earns (serviceRequest : ServiceRequest) : Prop where
  income : 0 ≤ serviceRequest.customerOrder.serviceProviderTotal
  compensation :
    0 ≤ serviceRequest.getCustomerRescheduleOrder.impactedServiceProviderCompensationAmount

/-- The service requests an action is given. -/
def AccountsAction.serviceRequests : AccountsAction → List ServiceRequest
  | .handle command _ => command.serviceRequests
  | .schedulePayoutsFromWalletTransactions _ _ => []

namespace Accounts

/-- No balance is negative, and no more is on its way to the owner or has arrived there than the
owner has earned. -/
structure SolventFor (accounts : Accounts) (owner : Uuid) : Prop where
  available : 0 ≤ accounts.availableBalance owner
  hold : 0 ≤ accounts.holdBalance owner
  covered : accounts.inStage .held owner + accounts.inStage .released owner ≤
    accounts.earned owner

/-- No credit takes from a wallet. -/
structure Funded (accounts : Accounts) : Prop where
  traced : accounts.Traced
  credits : ∀ transaction ∈ accounts.transactions.rows, transaction.type ≠ .payout →
    0 ≤ transaction.amount

variable {accounts : Accounts}

theorem sumWhere_nonneg {Row : Type} {counts : Row → Bool} {amount : Row → Money} {rows : List Row}
    (nonneg : ∀ row ∈ rows, counts row = true → 0 ≤ amount row) :
    0 ≤ sumWhere counts amount rows := by
  refine List.sum_nonneg fun value member => ?_
  obtain ⟨row, inside, rfl⟩ := List.mem_map.mp member
  exact nonneg row (List.mem_filter.mp inside).1 (List.mem_filter.mp inside).2

theorem Funded.amount_nonneg (funded : accounts.Funded) {payout : Payout}
    (stored : payout ∈ accounts.payouts.rows) : 0 ≤ payout.amount := by
  rw [← (funded.traced.made payout stored).1]
  refine sumWhere_nonneg fun transaction member counted => ?_
  exact funded.credits transaction member
    (of_decide_eq_true (Bool.and_eq_true_iff.mp counted).1)

theorem Funded.inStage_nonneg (funded : accounts.Funded) (stage : PayoutStage) (owner : Uuid) :
    0 ≤ accounts.inStage stage owner :=
  sumWhere_nonneg fun _ stored _ => funded.amount_nonneg stored

theorem Funded.solventFor (funded : accounts.Funded) (owner : Uuid) :
    accounts.SolventFor owner := by
  have unscheduled : 0 ≤ accounts.unscheduled owner := by
    refine sumWhere_nonneg fun transaction member counted => funded.credits transaction member ?_
    exact not_payout_of_isDebitable (Bool.and_eq_true_iff.mp counted).2
  have available : 0 ≤ accounts.availableBalance owner := by
    rw [funded.traced.available]
    exact add_nonneg unscheduled (funded.inStage_nonneg .scheduled owner)
  have accountsFor := funded.traced.accountsFor owner
  refine ⟨available, ?_, ?_⟩
  · rw [funded.traced.hold]
    exact funded.inStage_nonneg .held owner
  · rw [accountsFor.earned, accountsFor.hold, add_assoc]
    exact le_add_of_nonneg_left available

theorem Funded.record {wallet : Wallet} {transaction : WalletTransaction}
    (funded : accounts.Funded) (traced : (accounts.record (wallet, transaction)).Traced)
    (credit : transaction.type ≠ .payout → 0 ≤ transaction.amount) :
    (accounts.record (wallet, transaction)).Funded where
  traced := traced
  credits other member notPayout := by
    obtain rfl | old := accounts.transactions.mem_save member
    · exact credit notPayout
    · exact funded.credits other old notPayout

theorem Funded.credit (funded : accounts.Funded) {type : WalletTransactionType}
    {amount : ServiceRequest → Money} {owner : Option Uuid} {serviceRequest : ServiceRequest}
    {after : Accounts} (earns : 0 ≤ amount serviceRequest) (traced : after.Traced)
    (succeeds : accounts.credit
      (fun id wallet serviceRequest =>
        WalletTransaction.forServiceRequest type (amount serviceRequest) id wallet serviceRequest)
      owner serviceRequest = .ok after) : after.Funded := by
  rcases owner with _ | owner
  · cases succeeds
  cases succeeds
  exact funded.record traced fun _ => earns

theorem Funded.step (funded : accounts.Funded) {command : WalletCommand}
    (isHandler : command.isHandler = true)
    (earns : ∀ serviceRequest ∈ command.serviceRequests, serviceRequest.Earns) :
    (accounts.step command).Funded := by
  refine step_keeps (fun before serviceRequest after funded earns credited => ?_)
    (fun before serviceRequest after funded earns credited => ?_)
    (fun before payoutId after funded held => ?_)
    (fun before payoutId after funded released => ?_) isHandler earns funded
  · have traced := funded.traced.creditIncome credited
    obtain ⟨owner, -, credited⟩ := bind_eq_ok credited
    exact funded.credit earns.income traced credited
  · exact funded.credit earns.compensation (funded.traced.creditCompensation credited) credited
  · have traced := funded.traced.holdBalanceForPayout held
    obtain ⟨payout, -, held⟩ := bind_eq_ok held
    dsimp only at held
    split at held
    · cases held
      exact funded
    split at held
    · cases held
      exact funded
    cases held
    exact funded.record traced fun notPayout => absurd rfl notPayout
  · have traced := funded.traced.releaseBalanceForPayout released
    rcases releaseBalanceForPayout_cases released with
      ⟨-, rfl⟩ | ⟨-, payout, wallet, transaction, -, -, pending, rfl⟩
    · exact funded
    · exact funded.record traced fun notPayout =>
        absurd (pending_type pending).2.2.2 notPayout

theorem Funded.perform (funded : accounts.Funded) {action : AccountsAction}
    (earns : ∀ serviceRequest ∈ action.serviceRequests, serviceRequest.Earns) :
    (accounts.perform action).Funded := by
  cases action with
  | handle command isHandler => exact funded.step isHandler earns
  | schedulePayoutsFromWalletTransactions serviceProviders ids =>
    refine ⟨funded.traced.perform _, ?_⟩
    show ∀ transaction ∈ Table.rows (transactions (if accounts.areFresh ids
      (accounts.newPayouts serviceProviders) then accounts.scheduled ids serviceProviders
        else accounts)), _
    split
    · intro transaction member notPayout
      obtain ⟨_, _, old, stored, oldNotPayout, _, rfl⟩ | stored := mem_scheduled member
      · exact funded.credits old stored oldNotPayout
      · exact funded.credits transaction stored notPayout
    · exact funded.credits

theorem funded_empty : empty.Funded := ⟨traced_empty, fun _ member => by cases member⟩

/-- As long as no service request earns anyone less than nothing, no wallet is ever overdrawn,
and no more is paid out than was earned. -/
theorem solventFor_run {actions : List AccountsAction}
    (earns : ∀ action ∈ actions, ∀ serviceRequest ∈ action.serviceRequests, serviceRequest.Earns)
    (owner : Uuid) : (run perform empty actions).SolventFor owner :=
  (List.foldlRecOn actions perform funded_empty fun _ funded action member =>
    funded.perform (earns action member)).solventFor owner

/-- Of the two providers only the first can be paid, and is. -/
def exampleActions : List AccountsAction :=
  exampleCredits ++
    [.schedulePayoutsFromWalletTransactions [PayoutDatabase.examplePayee]
        Settlement.examplePayoutIds,
      .handle (.holdBalanceForPayout (examplePayoutId Settlement.exampleEarner)) rfl,
      .handle (.releaseBalanceForPayout (examplePayoutId Settlement.exampleEarner)) rfl]

theorem exampleActions_earn : ∀ action ∈ exampleActions,
    ∀ serviceRequest ∈ action.serviceRequests, serviceRequest.Earns := by
  have earns : Settlement.exampleServiceRequest.toServiceRequest.Earns :=
    ⟨by decide +kernel, by decide +kernel⟩
  simp [exampleActions, exampleCredits, AccountsAction.serviceRequests,
    WalletCommand.serviceRequests, earns]

theorem solventFor_run_paid :
    (run perform empty exampleActions).earned Settlement.exampleEarner = 100 ∧
      (run perform empty exampleActions).inStage .released Settlement.exampleEarner = 100 ∧
      (run perform empty exampleActions).availableBalance Settlement.exampleImpacted = 30 ∧
      (run perform empty exampleActions).SolventFor Settlement.exampleEarner :=
  ⟨by decide +kernel, by decide +kernel, by decide +kernel,
    solventFor_run exampleActions_earn Settlement.exampleEarner⟩

end Accounts

end FieldService
