/-
This file settles when service requests are credited at most once, over whole runs of the
platform: the requests live, the sagas publish wallet commands when one is fulfilled or
revoked as failed, every published command may be delivered any number of times, and missing
transactions are regenerated at any time.

The compensation looks for an earlier one before it credits, and the regeneration touches only
requests without transactions, so neither ever credits twice. The income looks for nothing.
-/

import FieldService.Wallet.Regeneration

namespace FieldService

open Execution Table

/-! ### The platform -/

/-- A wallet command the sagas publish, with its service request. -/
inductive CreditCommand where
  | createIncomeTransaction (serviceRequestId : String)
  | createRescheduleSurchargeCompensationTransaction (serviceRequestId : String)
  deriving DecidableEq, Repr

/-- The commands the sagas make of the event an operation publishes: `serviceRequestFulfilled`
of a job that has been completed and `serviceRequestRevokedByOperator` of one that has been
revoked. -/
def World.creditCommands (environment : Environment) (world : World) (action : Timed) :
    List CreditCommand :=
  match (world.wait action.elapsed).execute environment action.operation with
  | .error _ => []
  | .ok after =>
    match action.operation with
    | .handle _ =>
      if after.load.service.hasBeenFulfilled then
        [.createIncomeTransaction after.request.id,
          .createRescheduleSurchargeCompensationTransaction after.request.id]
      else []
    | .revoke _ =>
      if after.request.service.status = .failed then
        [.createRescheduleSurchargeCompensationTransaction after.request.id]
      else []
    | _ => []

/-- The requests with their lives, the accounts, and the wallet commands published so far. -/
structure Platform where
  lives : Table String World (·.request.id)
  accounts : Accounts
  commands : List CreditCommand

inductive PlatformAction where
  /-- A service request is created. -/
  | create (input : ServiceRequestInput) (now : Time)
  /-- An operation on a request. -/
  | operate (serviceRequestId : String) (action : Timed)
  /-- A published command is delivered, for the first time or again. -/
  | deliver (command : CreditCommand)
  /-- `RegenMissingWalletTransactionsFromFulfilledServiceRequestsCommand`. -/
  | regenerate

namespace Platform

def empty : Platform := ⟨.empty, .empty, []⟩

variable (environment : Environment) (platform : Platform)

/-- The requests as queries load them. -/
def serviceRequests : Table String ServiceRequest (·.id) where
  rows := platform.lives.rows.map (·.load)
  distinct := by
    rw [List.map_map]
    exact platform.lives.distinct

/-- The command of the wallet, with what its query finds. -/
def commandOf : CreditCommand → WalletCommand
  | .createIncomeTransaction id =>
    .createIncomeTransaction id (platform.serviceRequests.find id)
  | .createRescheduleSurchargeCompensationTransaction id =>
    .createRescheduleSurchargeCompensationTransaction id (platform.serviceRequests.find id)

def step : PlatformAction → Platform
  | .create input now =>
    match ServiceRequest.create environment input now with
    | .error _ => platform
    | .ok request =>
      if (platform.lives.find request.id).isSome then platform
      else { platform with lives := platform.lives.save (.opened request .empty) }
  | .operate serviceRequestId action =>
    match platform.lives.find serviceRequestId with
    | none => platform
    | some world =>
      { platform with
        lives := platform.lives.save (world.step environment action)
        commands := platform.commands ++ world.creditCommands environment action }
  | .deliver command =>
    if command ∈ platform.commands then
      { platform with accounts := platform.accounts.step (platform.commandOf command) }
    else platform
  | .regenerate =>
    { platform with accounts := platform.accounts.regenerated platform.serviceRequests }

end Platform

/-- The transaction compensates the provider for the rescheduling of a service request. -/
def WalletTransaction.isCompensationOf (serviceRequestId : String) (ownerId : Uuid)
    (transaction : WalletTransaction) : Bool :=
  transaction.isOf .rescheduleSurchargeCompensation serviceRequestId &&
    transaction.ownerId = ownerId

/-- No request has two incomes. -/
def Accounts.IncomeOnce (accounts : Accounts) : Prop :=
  ∀ id, accounts.creditsOf .income id ≤ 1

/-- No provider has two compensations for one request. -/
def Accounts.CompensatedOnce (accounts : Accounts) : Prop :=
  ∀ id ownerId, accounts.countOf (WalletTransaction.isCompensationOf id ownerId) ≤ 1

/-- The condition on a step: an income that is delivered, and that has a dispatcher to be
credited to, is the first of its request. -/
def Platform.IsFirstIncome (platform : Platform) : PlatformAction → Prop
  | .deliver (.createIncomeTransaction id) =>
    .createIncomeTransaction id ∈ platform.commands →
      ∀ serviceRequest ∈ platform.serviceRequests.find id,
        serviceRequest.service.dispatcherId.isSome = true →
          platform.accounts.creditsOf .income id = 0
  | _ => True

/-! ### The three producers -/

namespace Accounts

variable {accounts : Accounts}

/-- An income is credited to the dispatcher of the request, if there are both. -/
theorem createIncomeTransaction_effect (id : String) (found : Option ServiceRequest) :
    (∃ serviceRequest ownerId, found = some serviceRequest ∧
        serviceRequest.service.dispatcherId = some ownerId ∧
        accounts.Credited (accounts.step (.createIncomeTransaction id found)) .income ownerId
          serviceRequest) ∨
      ((∀ serviceRequest ∈ found, serviceRequest.service.dispatcherId = none) ∧
        accounts.step (.createIncomeTransaction id found) = accounts) := by
  rcases found with _ | serviceRequest
  · exact Or.inr ⟨by simp, rfl⟩
  have executes : accounts.step (.createIncomeTransaction id (some serviceRequest)) =
      accounts.settle (accounts.creditIncome serviceRequest) := rfl
  rcases dispatched : serviceRequest.service.dispatcherId with _ | ownerId
  · obtain ⟨error, fails⟩ := creditIncome_none dispatched accounts
    exact Or.inr ⟨by simpa using dispatched, by rw [executes, fails]; rfl⟩
  · obtain ⟨next, succeeds, credited⟩ := creditIncome_some dispatched accounts
    rw [executes, succeeds]
    exact Or.inl ⟨serviceRequest, ownerId, rfl, dispatched, credited⟩

/-- A compensation is credited to a provider who has not been compensated for the request. -/
theorem createCompensation_effect (id : String) (found : Option ServiceRequest) :
    accounts.step (.createRescheduleSurchargeCompensationTransaction id found) = accounts ∨
      ∃ serviceRequest ownerId, found = some serviceRequest ∧
        serviceRequest.impactedServiceProviderId = some ownerId ∧
        accounts.compensatedSurcharge serviceRequest = false ∧
        accounts.Credited
          (accounts.step (.createRescheduleSurchargeCompensationTransaction id found))
          .rescheduleSurchargeCompensation ownerId serviceRequest := by
  rcases found with _ | serviceRequest
  · exact Or.inl rfl
  have executes : accounts.step
      (.createRescheduleSurchargeCompensationTransaction id (some serviceRequest)) =
      accounts.settle (if !serviceRequest.hasBeenRescheduledOnce ||
          !serviceRequest.getCustomerRescheduleOrder.surchargeRequired ||
          !serviceRequest.hasCustomerPaid .ecRescheduleSurcharge then .ok accounts
        else if accounts.compensatedSurcharge serviceRequest then .ok accounts
        else accounts.creditCompensation serviceRequest) := rfl
  rw [executes]
  split
  · exact Or.inl rfl
  split
  · exact Or.inl rfl
  · rename_i uncompensated
    rw [creditCompensation, ← ServiceRequest.impactedServiceProviderId]
    rcases impacted : serviceRequest.impactedServiceProviderId with _ | ownerId
    · exact Or.inl rfl
    · obtain ⟨next, succeeds, credited⟩ :=
        credit_some forRescheduleSurchargeCompensation_credits accounts ownerId serviceRequest
      rw [succeeds]
      exact Or.inr ⟨serviceRequest, ownerId, rfl, impacted, by simpa using uncompensated, credited⟩

theorem isFor_of_isCompensationOf {id : String} {ownerId : Uuid} {transaction : WalletTransaction}
    (isCompensation : transaction.isCompensationOf id ownerId = true) :
    transaction.serviceRequestId = some id := by
  simp only [WalletTransaction.isCompensationOf, WalletTransaction.isOf, Bool.and_eq_true,
    decide_eq_true_eq] at isCompensation
  exact isCompensation.1.2

theorem untouched_of_selected {stored : Table String ServiceRequest (·.id)} {id : String}
    (isSelected : ∃ serviceRequest ∈ accounts.selected stored, serviceRequest.id = id) :
    accounts.isUntouched id = true := by
  obtain ⟨serviceRequest, among, rfl⟩ := isSelected
  exact ((accounts.mem_selected_iff stored serviceRequest).mp among).2.2

/-- The regeneration credits only requests that have no transaction yet, and each with at most
one income. -/
theorem IncomeOnce.regenerated (once : accounts.IncomeOnce)
    (stored : Table String ServiceRequest (·.id)) : (accounts.regenerated stored).IncomeOnce := by
  intro id
  rw [accounts.creditsOf_regenerated_income]
  rcases accounts.countP_passed_le stored incomeRepair id with ⟨isSelected, atMost⟩ | none
  · rw [creditsOf_of_untouched (untouched_of_selected isSelected), zero_add]
    exact atMost
  · exact (congrArg _ none).trans_le (once id)

/-- The same of compensations, each of which is one of its request. -/
theorem CompensatedOnce.regenerated (once : accounts.CompensatedOnce)
    (stored : Table String ServiceRequest (·.id)) :
    (accounts.regenerated stored).CompensatedOnce := by
  intro id ownerId
  have grows := (accounts.regenerated_appends stored).countOf_le
    (WalletTransaction.isCompensationOf id ownerId)
    (WalletTransaction.isOf .rescheduleSurchargeCompensation id)
    fun transaction isCompensation => (Bool.and_eq_true _ _ ▸ isCompensation).1
  rw [← creditsOf, ← creditsOf, accounts.creditsOf_regenerated_compensation] at grows
  have together : accounts.countOf (WalletTransaction.isCompensationOf id ownerId) +
      ((compensationRepair.passed (accounts.selected stored)).countP fun other =>
        other.hasPaidSurcharge && other.id = id) ≤ 1 := by
    rcases accounts.countP_passed_le stored compensationRepair id with ⟨isSelected, atMost⟩ | none
    · rw [countOf_of_untouched (untouched_of_selected isSelected)
        fun _ => isFor_of_isCompensationOf, zero_add]
      exact atMost
    · exact (congrArg _ none).trans_le (once id ownerId)
  have before := once id ownerId
  split at grows <;> omega

/-- A compensation is credited only when there is none for the provider and the request. -/
theorem CompensatedOnce.createCompensation (once : accounts.CompensatedOnce)
    (sourced : accounts.Sourced) (id : String) (found : Option ServiceRequest) :
    (accounts.step
      (.createRescheduleSurchargeCompensationTransaction id found)).CompensatedOnce := by
  rcases createCompensation_effect id found with
    unchanged | ⟨serviceRequest, ownerId, -, impacted, uncompensated, transaction, isCredit, rows⟩
  · rw [unchanged]
    exact once
  have none : accounts.countOf
      (WalletTransaction.isCompensationOf serviceRequest.id ownerId) = 0 := by
    refine List.countP_eq_zero.mpr fun other member isCompensation => ?_
    simp only [compensatedSurcharge, List.any_eq_false, decide_eq_true_eq, not_and] at uncompensated
    simp only [WalletTransaction.isCompensationOf, WalletTransaction.isOf, Bool.and_eq_true,
      decide_eq_true_eq] at isCompensation
    obtain ⟨⟨isType, isFor⟩, isOwner⟩ := isCompensation
    refine uncompensated other member ?_ isType ?_
    · rw [isOwner]
      exact impacted.symm
    · rw [sourced other member] at isFor
      exact Option.some.inj isFor
  intro other owner
  rw [countOf_append rows]
  split
  · rename_i isCompensation
    simp only [WalletTransaction.isCompensationOf, WalletTransaction.isOf, isCredit.ownerId,
      isCredit.serviceRequestId, Bool.and_eq_true, decide_eq_true_eq,
      Option.some.injEq] at isCompensation
    obtain ⟨⟨-, rfl⟩, rfl⟩ := isCompensation
    rw [none]
  · exact once other owner

theorem IncomeOnce.createCompensation (once : accounts.IncomeOnce) (id : String)
    (found : Option ServiceRequest) :
    (accounts.step (.createRescheduleSurchargeCompensationTransaction id found)).IncomeOnce := by
  rcases createCompensation_effect id found with
    unchanged | ⟨serviceRequest, ownerId, -, -, -, transaction, isCredit, rows⟩
  · rw [unchanged]
    exact once
  · intro other
    rw [creditsOf, countOf_append rows, if_neg]
    · exact once other
    · simp [WalletTransaction.isOf, isCredit.type]

theorem CompensatedOnce.createIncome (once : accounts.CompensatedOnce) {next : Accounts}
    {ownerId : Uuid} {serviceRequest : ServiceRequest}
    (credited : accounts.Credited next .income ownerId serviceRequest) : next.CompensatedOnce := by
  obtain ⟨transaction, isCredit, rows⟩ := credited
  intro other owner
  rw [countOf_append rows, if_neg]
  · exact once other owner
  · simp [WalletTransaction.isCompensationOf, WalletTransaction.isOf, isCredit.type]

/-- An income keeps the incomes single exactly if it is the first of its request. -/
theorem incomeOnce_createIncome_iff (once : accounts.IncomeOnce) {next : Accounts}
    {ownerId : Uuid} {serviceRequest : ServiceRequest}
    (credited : accounts.Credited next .income ownerId serviceRequest) :
    next.IncomeOnce ↔ accounts.creditsOf .income serviceRequest.id = 0 := by
  obtain ⟨transaction, isCredit, rows⟩ := credited
  have own : next.creditsOf .income serviceRequest.id =
      accounts.creditsOf .income serviceRequest.id + 1 := by
    rw [creditsOf, countOf_append rows, if_pos]
    · rfl
    · simp [WalletTransaction.isOf, isCredit.type, isCredit.serviceRequestId]
  constructor
  · intro nextOnce
    have atMost := nextOnce serviceRequest.id
    omega
  · intro first other
    by_cases same : other = serviceRequest.id
    · rw [same, own, first]
    · rw [creditsOf, countOf_append rows, if_neg]
      · exact once other
      · simp [WalletTransaction.isOf, isCredit.serviceRequestId, Ne.symm same]

end Accounts

/-! ### Runs -/

namespace Platform

variable (environment : Environment) {platform : Platform}

/-- A step changes the accounts only by delivering a published command or by regenerating. -/
theorem step_accounts (action : PlatformAction) :
    ((∀ command ∈ platform.commands, action ≠ .deliver command) ∧
        (platform.step environment action).accounts = platform.accounts) ∨
      (∃ command ∈ platform.commands, action = .deliver command ∧
        (platform.step environment action).accounts =
          platform.accounts.step (platform.commandOf command)) ∨
      (action = .regenerate ∧ (platform.step environment action).accounts =
        platform.accounts.regenerated platform.serviceRequests) := by
  rcases action with ⟨input, now⟩ | ⟨id, action⟩ | command | _
  · refine Or.inl ⟨fun _ _ => PlatformAction.noConfusion, ?_⟩
    simp only [step]
    split
    · rfl
    · split <;> rfl
  · refine Or.inl ⟨fun _ _ => PlatformAction.noConfusion, ?_⟩
    simp only [step]
    split <;> rfl
  · by_cases published : command ∈ platform.commands
    · refine Or.inr (Or.inl ⟨command, published, rfl, ?_⟩)
      rw [step, if_pos published]
    · refine Or.inl ⟨fun other member same => published ?_, ?_⟩
      · cases same
        exact member
      · rw [step, if_neg published]
  · exact Or.inr (Or.inr ⟨rfl, rfl⟩)

/-- What every step keeps: the sources of the transactions, and the compensations single. -/
structure Compensating (platform : Platform) : Prop where
  sourced : platform.accounts.Sourced
  once : platform.accounts.CompensatedOnce

theorem Compensating.step (compensating : platform.Compensating) (action : PlatformAction) :
    (platform.step environment action).Compensating := by
  obtain ⟨sourced, once⟩ := compensating
  rcases platform.step_accounts environment action with
    ⟨-, unchanged⟩ | ⟨command, -, -, stepped⟩ | ⟨-, regenerated⟩
  · exact ⟨unchanged ▸ sourced, unchanged ▸ once⟩
  · rcases command with id | id
    · rcases Accounts.createIncomeTransaction_effect id (platform.serviceRequests.find id) with
        ⟨serviceRequest, ownerId, -, -, credited⟩ | ⟨-, unchanged⟩
      · rw [← commandOf, ← stepped] at credited
        exact ⟨sourced.appends credited.appends, once.createIncome credited⟩
      · rw [← commandOf, ← stepped] at unchanged
        exact ⟨unchanged ▸ sourced, unchanged ▸ once⟩
    · have compensated := once.createCompensation sourced id (platform.serviceRequests.find id)
      rw [← commandOf, ← stepped] at compensated
      refine ⟨?_, compensated⟩
      rcases Accounts.createCompensation_effect id (platform.serviceRequests.find id) with
        unchanged | ⟨serviceRequest, ownerId, -, -, -, credited⟩
      · rw [← commandOf, ← stepped] at unchanged
        exact unchanged ▸ sourced
      · rw [← commandOf, ← stepped] at credited
        exact sourced.appends credited.appends
  · refine ⟨?_, ?_⟩
    · rw [regenerated]
      exact sourced.appends (platform.accounts.regenerated_appends platform.serviceRequests)
    · rw [regenerated]
      exact once.regenerated platform.serviceRequests

/-- A step keeps the incomes single exactly if it delivers no second one. -/
theorem incomeOnce_step_iff (once : platform.accounts.IncomeOnce) (action : PlatformAction) :
    (platform.step environment action).accounts.IncomeOnce ↔ platform.IsFirstIncome action := by
  rcases platform.step_accounts environment action with
    ⟨undelivered, unchanged⟩ | ⟨command, published, rfl, stepped⟩ | ⟨rfl, regenerated⟩
  · rw [unchanged]
    refine iff_of_true once ?_
    rcases action with _ | _ | ⟨id | id⟩ | _
    · trivial
    · trivial
    · exact fun published => absurd rfl (undelivered _ published)
    · trivial
    · trivial
  · rw [stepped]
    rcases command with id | id
    · rcases Accounts.createIncomeTransaction_effect id (platform.serviceRequests.find id) with
        ⟨serviceRequest, ownerId, found, dispatched, credited⟩ | ⟨undispatched, unchanged⟩
      · rw [commandOf, Accounts.incomeOnce_createIncome_iff once credited,
          (platform.serviceRequests.find_key found).2]
        constructor
        · exact fun first _ _ _ _ => first
        · intro first
          exact first published serviceRequest found (by rw [dispatched]; rfl)
      · rw [commandOf, unchanged]
        refine iff_of_true once fun _ serviceRequest found dispatched => ?_
        rw [undispatched serviceRequest found] at dispatched
        cases dispatched
    · exact iff_of_true (once.createCompensation id _) trivial
  · rw [regenerated]
    exact iff_of_true (once.regenerated platform.serviceRequests) trivial

theorem compensating_empty : empty.Compensating where
  sourced _ member := by cases member
  once _ _ := Nat.zero_le _

/-- In every state of a run the incomes and the compensations are single, exactly if every
income that is delivered is the first of its request. -/
theorem creditedOnce_throughout_iff (environment : Environment) (actions : List PlatformAction) :
    Throughout (step environment)
        (fun platform => platform.accounts.IncomeOnce ∧ platform.accounts.CompensatedOnce) empty
        actions ↔
      Along (step environment) IsFirstIncome empty actions :=
  throughout_iff_along (step environment) IsFirstIncome Compensating
    (fun platform => platform.accounts.IncomeOnce ∧ platform.accounts.CompensatedOnce)
    (fun _ action compensating => compensating.step environment action)
    (fun _ action compensating once =>
      (and_iff_left (compensating.step environment action).once).trans
        (incomeOnce_step_iff environment once.1 action))
    empty actions compensating_empty ⟨fun _ => Nat.zero_le _, compensating_empty.once⟩

/-- A job is done, and the income of the contractor is delivered twice. -/
def exampleRedelivery : List PlatformAction :=
  .create exampleInput 0 ::
    exampleAccepted.map (.operate exampleRequest.id) ++
    List.replicate 3 (.operate exampleRequest.id ⟨1000, .handle exampleHandling⟩) ++
    List.replicate 2 (.deliver (.createIncomeTransaction exampleRequest.id))

theorem not_creditedOnce_redelivery :
    ¬ Throughout (step exampleEnvironment)
      (fun platform => platform.accounts.IncomeOnce ∧ platform.accounts.CompensatedOnce) empty
      exampleRedelivery := by
  intro throughout
  have twice := (throughout exampleRedelivery List.prefix_rfl).1 exampleRequest.id
  revert twice
  decide +kernel

end Platform

end FieldService
