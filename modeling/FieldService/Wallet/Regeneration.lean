/-
This file settles which states of the database the regeneration of missing transactions
completes.

Its query selects the requests that have no transaction at all, and its two loops stop at the
first request they fail to credit. The two loops are alike: each credits those requests that
are due, to a payee, and fails at the first that is due and has none (`Repair`). One lemma
about such a loop says how many transactions it adds for a request.
-/

import Mathlib.Data.List.TakeWhile
import FieldService.Lifecycle.Operations
import FieldService.Wallet.Credits

namespace FieldService

open Table

/-! ### The database -/

/-- The transaction is of a type and made for a service request. -/
def WalletTransaction.isOf (type : WalletTransactionType) (serviceRequestId : String)
    (transaction : WalletTransaction) : Bool :=
  transaction.type = type && transaction.serviceRequestId = some serviceRequestId

/-- How many transactions of a type have been made for a service request. -/
def Accounts.creditsOf (accounts : Accounts) (type : WalletTransactionType)
    (serviceRequestId : String) : Nat :=
  accounts.countOf (WalletTransaction.isOf type serviceRequestId)

namespace Accounts

variable (accounts : Accounts)

/-- No transaction has been made for the service request: `trx.id IS NULL` in the left join. -/
def isUntouched (serviceRequestId : String) : Bool :=
  !accounts.transactions.rows.any fun transaction =>
    transaction.serviceRequestId = some serviceRequestId

/-- The conditions of the query. -/
def hasMissingWalletTransactions (serviceRequest : ServiceRequest) : Bool :=
  (serviceRequest.service.status = .fulfilled || serviceRequest.service.status = .failed) &&
    accounts.isUntouched serviceRequest.id

def findTerminatedServiceRequestsWithMissingWalletTransactions
    (stored : Table String ServiceRequest (·.id)) : List ServiceRequest :=
  stored.rows.filter accounts.hasMissingWalletTransactions

/-- The accounts after the regeneration. -/
def regenerated (stored : Table String ServiceRequest (·.id)) : Accounts :=
  (accounts.regenMissingWalletTransactions
    (accounts.findTerminatedServiceRequestsWithMissingWalletTransactions stored)).1

end Accounts

namespace ServiceRequest

/-- A fulfilled request that has a provider is owed an income. -/
def owesIncome (serviceRequest : ServiceRequest) : Bool :=
  serviceRequest.service.hasBeenFulfilled && serviceRequest.service.hasBeenAssignedOrAllocated

/-- A terminated request has a surcharge that was paid. -/
def hasPaidSurcharge (serviceRequest : ServiceRequest) : Bool :=
  (serviceRequest.service.status = .failed || serviceRequest.service.hasBeenFulfilled) &&
    serviceRequest.hasCustomerPaid .ecRescheduleSurcharge

/-- A terminated request whose surcharged order was paid and executed is owed a compensation. -/
def owesCompensation (serviceRequest : ServiceRequest) : Bool :=
  hasPaidSurcharge serviceRequest && serviceRequest.hasBeenRescheduledOnce

/-- The impacted provider of a request's reschedule order. -/
def impactedServiceProviderId (serviceRequest : ServiceRequest) : Option Uuid :=
  serviceRequest.getCustomerRescheduleOrder.impactedServiceProviderId

end ServiceRequest

/-- Service requests and their transactions, of which no request has two of the same kind. -/
structure WalletDatabase where
  serviceRequests : Table String ServiceRequest (·.id)
  accounts : Accounts
  single : ∀ serviceRequest ∈ serviceRequests.rows,
    accounts.creditsOf .income serviceRequest.id ≤ 1 ∧
      accounts.creditsOf .rescheduleSurchargeCompensation serviceRequest.id ≤ 1

namespace WalletDatabase

variable (database : WalletDatabase)

/-- Every request has the one transaction of each kind it is owed. -/
structure Complete (accounts : Accounts) : Prop where
  income : ∀ serviceRequest ∈ database.serviceRequests.rows, serviceRequest.owesIncome = true →
    accounts.creditsOf .income serviceRequest.id = 1
  compensation : ∀ serviceRequest ∈ database.serviceRequests.rows,
    serviceRequest.owesCompensation = true →
      accounts.creditsOf .rescheduleSurchargeCompensation serviceRequest.id = 1

/-- The condition under which the regeneration completes the database. -/
structure Repairable : Prop where
  income : ∀ serviceRequest ∈ database.serviceRequests.rows, serviceRequest.owesIncome = true →
    database.accounts.creditsOf .income serviceRequest.id = 0 →
      database.accounts.isUntouched serviceRequest.id = true ∧
        serviceRequest.service.dispatcherId.isSome = true
  compensation : ∀ serviceRequest ∈ database.serviceRequests.rows,
    serviceRequest.owesCompensation = true →
      database.accounts.creditsOf .rescheduleSurchargeCompensation serviceRequest.id = 0 →
        database.accounts.isUntouched serviceRequest.id = true ∧
          serviceRequest.impactedServiceProviderId.isSome = true
  reached : ∀ before serviceRequest after,
    database.serviceRequests.rows = before ++ serviceRequest :: after →
      serviceRequest.owesCompensation = true →
        database.accounts.creditsOf .rescheduleSurchargeCompensation serviceRequest.id = 0 →
          ∀ earlier ∈ before, database.accounts.isUntouched earlier.id = true →
            earlier.hasPaidSurcharge = true → earlier.impactedServiceProviderId.isSome = true

end WalletDatabase

/-! ### Loops that credit -/

/-- The body of a loop that credits what is due to its payee, if there is one. -/
structure Repair where
  type : WalletTransactionType
  isDue : ServiceRequest → Bool
  payeeId : ServiceRequest → Option Uuid
  body : Accounts → ServiceRequest → Except AppError Accounts
  skips : ∀ accounts serviceRequest, isDue serviceRequest = false →
    body accounts serviceRequest = .ok accounts
  credits : ∀ accounts serviceRequest ownerId, isDue serviceRequest = true →
    payeeId serviceRequest = some ownerId → ∃ next, body accounts serviceRequest = .ok next ∧
      accounts.Credited next type ownerId serviceRequest
  fails : ∀ accounts serviceRequest, isDue serviceRequest = true →
    payeeId serviceRequest = none → ∃ error, body accounts serviceRequest = .error error

/-- The loop over incomes. -/
def incomeRepair : Repair where
  type := .income
  isDue := ServiceRequest.owesIncome
  payeeId serviceRequest := serviceRequest.service.dispatcherId
  body := Accounts.regenIncome
  skips accounts serviceRequest undue := by
    exact if_neg (Bool.eq_false_iff.mp undue)
  credits accounts serviceRequest ownerId due dispatched := by
    rw [show accounts.regenIncome serviceRequest = _ from if_pos due]
    exact Accounts.creditIncome_some dispatched accounts
  fails accounts serviceRequest due undispatched := by
    rw [show accounts.regenIncome serviceRequest = _ from if_pos due]
    exact Accounts.creditIncome_none undispatched accounts

/-- The loop over compensations. -/
def compensationRepair : Repair where
  type := .rescheduleSurchargeCompensation
  isDue := ServiceRequest.hasPaidSurcharge
  payeeId := ServiceRequest.impactedServiceProviderId
  body := Accounts.regenCompensation
  skips accounts serviceRequest undue := by
    exact if_neg (Bool.eq_false_iff.mp undue)
  credits accounts serviceRequest ownerId due impacted := by
    rw [show accounts.regenCompensation serviceRequest = _ from if_pos due,
      Accounts.creditCompensation, ← ServiceRequest.impactedServiceProviderId, impacted]
    exact Accounts.credit_some forRescheduleSurchargeCompensation_credits accounts ownerId
      serviceRequest
  fails accounts serviceRequest due unimpacted := by
    rw [show accounts.regenCompensation serviceRequest = _ from if_pos due,
      Accounts.creditCompensation, ← ServiceRequest.impactedServiceProviderId, unimpacted]
    exact Accounts.credit_none _ accounts serviceRequest

namespace Repair

variable (repair : Repair)

/-- The loop stops at the request. -/
def blocks (serviceRequest : ServiceRequest) : Bool :=
  repair.isDue serviceRequest && (repair.payeeId serviceRequest).isNone

/-- The requests the loop gets past. -/
def passed (serviceRequests : List ServiceRequest) : List ServiceRequest :=
  serviceRequests.takeWhile fun serviceRequest => !repair.blocks serviceRequest

/-- A round stops, or adds a transaction for its request if one is due. -/
theorem body_effect (accounts : Accounts) (serviceRequest : ServiceRequest) :
    (repair.blocks serviceRequest = true ∧
        ∃ error, repair.body accounts serviceRequest = .error error) ∨
      (repair.blocks serviceRequest = false ∧
        ∃ next, repair.body accounts serviceRequest = .ok next ∧ accounts.Appends next ∧
          ∀ type id, next.creditsOf type id = accounts.creditsOf type id +
            if type = repair.type ∧ repair.isDue serviceRequest = true ∧ serviceRequest.id = id
            then 1 else 0) := by
  unfold blocks
  rcases due : repair.isDue serviceRequest with _ | _
  · exact Or.inr ⟨rfl, accounts, repair.skips accounts serviceRequest due, .refl accounts,
      fun _ _ => by simp⟩
  · rcases payee : repair.payeeId serviceRequest with _ | ownerId
    · exact Or.inl ⟨rfl, repair.fails accounts serviceRequest due payee⟩
    · obtain ⟨next, succeeds, credited⟩ :=
        repair.credits accounts serviceRequest ownerId due payee
      refine Or.inr ⟨rfl, next, succeeds, credited.appends, fun type id => ?_⟩
      obtain ⟨transaction, isCredit, appended⟩ := credited
      have isOf : WalletTransaction.isOf type id transaction = true ↔
          type = repair.type ∧ true = true ∧ serviceRequest.id = id := by
        rw [WalletTransaction.isOf, isCredit.type, isCredit.serviceRequestId, Bool.and_eq_true,
          decide_eq_true_eq, decide_eq_true_eq, Option.some.injEq, eq_comm]
        simp
      rw [Accounts.creditsOf, Accounts.countOf_append appended]
      simp only [isOf]
      rfl

theorem forEach_isNone (serviceRequests : List ServiceRequest) (accounts : Accounts) :
    (Accounts.forEach repair.body serviceRequests accounts).2.isNone =
      serviceRequests.all fun serviceRequest => !repair.blocks serviceRequest := by
  induction serviceRequests generalizing accounts with
  | nil => rfl
  | cons serviceRequest rest later =>
    rw [Accounts.forEach, List.all_cons]
    rcases repair.body_effect accounts serviceRequest with
      ⟨blocked, error, fails⟩ | ⟨free, next, succeeds, -, -⟩
    · rw [fails, blocked]
      rfl
    · rw [succeeds, free]
      exact later next

theorem forEach_appends (serviceRequests : List ServiceRequest) (accounts : Accounts) :
    accounts.Appends (Accounts.forEach repair.body serviceRequests accounts).1 := by
  induction serviceRequests generalizing accounts with
  | nil => exact .refl accounts
  | cons serviceRequest rest later =>
    rw [Accounts.forEach]
    rcases repair.body_effect accounts serviceRequest with
      ⟨-, error, fails⟩ | ⟨-, next, succeeds, appends, -⟩
    · rw [fails]
      exact .refl accounts
    · rw [succeeds]
      exact appends.trans (later next)

/-- The loop adds a transaction for every request it gets past and that is due. -/
theorem countOf_forEach (serviceRequests : List ServiceRequest) (accounts : Accounts)
    (type : WalletTransactionType) (id : String) :
    (Accounts.forEach repair.body serviceRequests accounts).1.creditsOf type id =
      accounts.creditsOf type id +
        if type = repair.type then
          (repair.passed serviceRequests).countP fun serviceRequest =>
            repair.isDue serviceRequest && serviceRequest.id = id
        else 0 := by
  induction serviceRequests generalizing accounts with
  | nil => simp [Accounts.forEach, passed]
  | cons serviceRequest rest later =>
    rw [Accounts.forEach, passed, List.takeWhile_cons]
    rcases repair.body_effect accounts serviceRequest with
      ⟨blocked, error, fails⟩ | ⟨free, next, succeeds, -, adds⟩
    · rw [fails, blocked]
      simp
    · rw [succeeds, free]
      show (Accounts.forEach repair.body rest next).1.creditsOf type id = _
      rw [later, adds]
      by_cases same : type = repair.type
      · simp [same, passed, List.countP_cons, add_assoc, add_comm]
      · simp [same]

/-- A request the loop gets past is one of its requests and does not stop it. -/
theorem mem_passed {serviceRequests : List ServiceRequest} {serviceRequest : ServiceRequest}
    (member : serviceRequest ∈ repair.passed serviceRequests) :
    serviceRequest ∈ serviceRequests ∧ repair.blocks serviceRequest = false :=
  ⟨(List.takeWhile_sublist _).subset member, by simpa using List.mem_takeWhile_imp member⟩

theorem blocks_eq_false_iff {serviceRequest : ServiceRequest}
    (due : repair.isDue serviceRequest = true) :
    repair.blocks serviceRequest = false ↔ (repair.payeeId serviceRequest).isSome = true := by
  rw [blocks, due, Bool.true_and]
  cases repair.payeeId serviceRequest <;> simp

theorem blocks_of_due {serviceRequest : ServiceRequest}
    (payable : repair.isDue serviceRequest = true →
      (repair.payeeId serviceRequest).isSome = true) :
    repair.blocks serviceRequest = false := by
  rcases due : repair.isDue serviceRequest with _ | _
  · rw [blocks, due, Bool.false_and]
  · exact (repair.blocks_eq_false_iff due).mpr (payable due)

theorem passed_of_free {serviceRequests : List ServiceRequest}
    (free : ∀ serviceRequest ∈ serviceRequests, repair.blocks serviceRequest = false) :
    repair.passed serviceRequests = serviceRequests :=
  List.takeWhile_eq_self_iff.mpr fun serviceRequest member => by simp [free serviceRequest member]

/-- The loop gets past a request when neither it nor an earlier one stops the loop. -/
theorem mem_passed_append {before after : List ServiceRequest} {serviceRequest : ServiceRequest}
    (distinct : (before ++ serviceRequest :: after).Nodup) :
    serviceRequest ∈ repair.passed (before ++ serviceRequest :: after) ↔
      repair.blocks serviceRequest = false ∧
        ∀ earlier ∈ before, repair.blocks earlier = false := by
  have absent : serviceRequest ∉ before := fun member =>
    List.disjoint_of_nodup_append distinct member List.mem_cons_self
  constructor
  · intro member
    refine ⟨(repair.mem_passed member).2, ?_⟩
    rw [passed, List.takeWhile_append] at member
    split at member
    · rename_i whole
      have all := List.takeWhile_eq_self_iff.mp
        ((List.takeWhile_prefix _).eq_of_length whole)
      exact fun earlier inside => by simpa using all earlier inside
    · exact absurd ((List.takeWhile_sublist _).subset member) absent
  · rintro ⟨free, earlierFree⟩
    rw [passed,
      List.takeWhile_append_of_pos fun earlier inside => by simp [earlierFree earlier inside],
      List.takeWhile_cons_of_pos (by simp [free])]
    simp

end Repair

/-! ### The regeneration -/

theorem ServiceRequest.terminated_of_owesIncome {serviceRequest : ServiceRequest}
    (owed : serviceRequest.owesIncome = true) :
    serviceRequest.service.status = .fulfilled ∨ serviceRequest.service.status = .failed := by
  simp only [owesIncome, Service.hasBeenFulfilled, Bool.and_eq_true, decide_eq_true_eq] at owed
  exact Or.inl owed.1

theorem ServiceRequest.terminated_of_hasPaidSurcharge {serviceRequest : ServiceRequest}
    (paid : serviceRequest.hasPaidSurcharge = true) :
    serviceRequest.service.status = .fulfilled ∨ serviceRequest.service.status = .failed := by
  simp only [hasPaidSurcharge, Service.hasBeenFulfilled, Bool.and_eq_true, Bool.or_eq_true,
    decide_eq_true_eq] at paid
  exact paid.1.symm

namespace Accounts

variable (accounts : Accounts) (stored : Table String ServiceRequest (·.id))

/-- The requests the query selects. -/
abbrev selected : List ServiceRequest :=
  accounts.findTerminatedServiceRequestsWithMissingWalletTransactions stored

theorem mem_selected_iff (serviceRequest : ServiceRequest) :
    serviceRequest ∈ accounts.selected stored ↔
      serviceRequest ∈ stored.rows ∧
        (serviceRequest.service.status = .fulfilled ∨ serviceRequest.service.status = .failed) ∧
        accounts.isUntouched serviceRequest.id = true := by
  simp [selected, findTerminatedServiceRequestsWithMissingWalletTransactions,
    hasMissingWalletTransactions]

theorem selected_sublist : (accounts.selected stored).Sublist stored.rows :=
  List.filter_sublist

theorem nodup_selected : (accounts.selected stored).Nodup :=
  (List.Nodup.of_map _ stored.distinct).sublist (accounts.selected_sublist stored)

variable {stored}

/-- The query keeps the order of the rows. -/
theorem selected_split {before after : List ServiceRequest} {serviceRequest : ServiceRequest}
    (split : stored.rows = before ++ serviceRequest :: after)
    (isSelected : serviceRequest ∈ accounts.selected stored) :
    ∃ first last, accounts.selected stored = first ++ serviceRequest :: last ∧
      ∀ earlier, earlier ∈ first ↔ earlier ∈ before ∧ earlier ∈ accounts.selected stored := by
  have test := (List.mem_filter.mp isSelected).2
  refine ⟨before.filter accounts.hasMissingWalletTransactions,
    after.filter accounts.hasMissingWalletTransactions, ?_, fun earlier => ?_⟩
  · rw [selected, findTerminatedServiceRequestsWithMissingWalletTransactions, split,
      List.filter_append, List.filter_cons_of_pos test]
  · rw [List.mem_filter, selected, findTerminatedServiceRequestsWithMissingWalletTransactions,
      List.mem_filter, split]
    constructor
    · rintro ⟨inside, passes⟩
      exact ⟨inside, List.mem_append_left _ inside, passes⟩
    · rintro ⟨inside, -, passes⟩
      exact ⟨inside, passes⟩

variable {accounts}

/-- A request without transactions has none of any kind. -/
theorem countOf_of_untouched {serviceRequestId : String}
    (untouched : accounts.isUntouched serviceRequestId = true)
    {isOfKind : WalletTransaction → Bool}
    (isFor : ∀ transaction, isOfKind transaction = true →
      transaction.serviceRequestId = some serviceRequestId) :
    accounts.countOf isOfKind = 0 := by
  refine List.countP_eq_zero.mpr fun transaction member isOf => ?_
  simp only [isUntouched, Bool.not_eq_true', List.any_eq_false, decide_eq_true_eq] at untouched
  exact untouched transaction member (isFor transaction isOf)

theorem creditsOf_of_untouched {serviceRequestId : String}
    (untouched : accounts.isUntouched serviceRequestId = true) (type : WalletTransactionType) :
    accounts.creditsOf type serviceRequestId = 0 := by
  refine countOf_of_untouched untouched fun transaction isOf => ?_
  simp only [WalletTransaction.isOf, Bool.and_eq_true, decide_eq_true_eq] at isOf
  exact isOf.2

variable (accounts stored)

/-- The second loop makes no income. -/
theorem creditsOf_regenerated_income (id : String) :
    (accounts.regenerated stored).creditsOf .income id =
      accounts.creditsOf .income id +
        (incomeRepair.passed (accounts.selected stored)).countP fun serviceRequest =>
          serviceRequest.owesIncome && serviceRequest.id = id := by
  refine Eq.trans ?_ (incomeRepair.countOf_forEach (accounts.selected stored) accounts .income id)
  rw [regenerated, regenMissingWalletTransactions]
  rcases ends : forEach regenIncome (accounts.selected stored) accounts with ⟨credited, _ | error⟩
  · have kept := compensationRepair.countOf_forEach (accounts.selected stored) credited .income id
    rw [if_neg (by decide)] at kept
    exact kept.trans (congrArg (fun pair => pair.1.creditsOf .income id) ends.symm)
  · exact congrArg (fun pair => pair.1.creditsOf .income id) ends.symm

/-- The second loop is only run when the first got past every request. -/
theorem creditsOf_regenerated_compensation (id : String) :
    (accounts.regenerated stored).creditsOf .rescheduleSurchargeCompensation id =
      accounts.creditsOf .rescheduleSurchargeCompensation id +
        if ∀ other ∈ accounts.selected stored, incomeRepair.blocks other = false then
          (compensationRepair.passed (accounts.selected stored)).countP fun serviceRequest =>
            serviceRequest.hasPaidSurcharge && serviceRequest.id = id
        else 0 := by
  have isNone := incomeRepair.forEach_isNone (accounts.selected stored) accounts
  have keeps := incomeRepair.countOf_forEach (accounts.selected stored) accounts
    .rescheduleSurchargeCompensation id
  rw [if_neg (by decide), add_zero] at keeps
  rw [regenerated, regenMissingWalletTransactions]
  rcases ends : forEach regenIncome (accounts.selected stored) accounts with ⟨credited, _ | error⟩
  · rw [show forEach incomeRepair.body _ _ = _ from ends] at isNone keeps
    have free : ∀ other ∈ accounts.selected stored, incomeRepair.blocks other = false := by
      simpa using isNone
    rw [if_pos free, ← keeps]
    exact compensationRepair.countOf_forEach (accounts.selected stored) credited
      .rescheduleSurchargeCompensation id
  · rw [show forEach incomeRepair.body _ _ = _ from ends] at isNone keeps
    rw [if_neg]
    · exact keeps
    · intro free
      obtain ⟨other, among, stops⟩ :
          ∃ other ∈ accounts.selected stored, incomeRepair.blocks other = true := by
        simpa using isNone
      rw [free other among] at stops
      cases stops

/-- What one of the two loops adds for a stored request. -/
theorem countP_passed (repair : Repair) {serviceRequest : ServiceRequest}
    (member : serviceRequest ∈ stored.rows) :
    ((repair.passed (accounts.selected stored)).countP fun other =>
        repair.isDue other && other.id = serviceRequest.id) =
      if serviceRequest ∈ repair.passed (accounts.selected stored) ∧
        repair.isDue serviceRequest = true then 1 else 0 :=
  stored.countP_key ((List.takeWhile_sublist _).trans (accounts.selected_sublist stored)) member
    repair.isDue

/-- What one of the two loops adds for an identifier, if it is that of a selected request. -/
theorem countP_passed_le (repair : Repair) (id : String) :
    (∃ serviceRequest ∈ accounts.selected stored, serviceRequest.id = id) ∧
        ((repair.passed (accounts.selected stored)).countP fun other =>
          repair.isDue other && other.id = id) ≤ 1 ∨
      ((repair.passed (accounts.selected stored)).countP fun other =>
        repair.isDue other && other.id = id) = 0 := by
  by_cases isSelected : ∃ serviceRequest ∈ accounts.selected stored, serviceRequest.id = id
  · refine Or.inl ⟨isSelected, ?_⟩
    obtain ⟨serviceRequest, among, rfl⟩ := isSelected
    rw [accounts.countP_passed stored repair ((accounts.selected_sublist stored).subset among)]
    split <;> simp
  · refine Or.inr (List.countP_eq_zero.mpr fun other passed isFor => isSelected ?_)
    simp only [Bool.and_eq_true, decide_eq_true_eq] at isFor
    exact ⟨other, (repair.mem_passed passed).1, isFor.2⟩

theorem regenerated_appends : accounts.Appends (accounts.regenerated stored) := by
  have first := incomeRepair.forEach_appends (accounts.selected stored) accounts
  rw [regenerated, regenMissingWalletTransactions]
  rcases ends : forEach regenIncome (accounts.selected stored) accounts with ⟨credited, _ | error⟩
  · rw [show forEach incomeRepair.body _ _ = _ from ends] at first
    exact first.trans (compensationRepair.forEach_appends (accounts.selected stored) credited)
  · rw [show forEach incomeRepair.body _ _ = _ from ends] at first
    exact first

variable {accounts stored}

theorem creditsOf_regenerated_income_of_mem {serviceRequest : ServiceRequest}
    (member : serviceRequest ∈ stored.rows) :
    (accounts.regenerated stored).creditsOf .income serviceRequest.id =
      accounts.creditsOf .income serviceRequest.id +
        if serviceRequest ∈ incomeRepair.passed (accounts.selected stored) ∧
          serviceRequest.owesIncome = true then 1 else 0 :=
  (accounts.creditsOf_regenerated_income stored serviceRequest.id).trans
    (congrArg _ (accounts.countP_passed stored incomeRepair member))

/-- A request that has a transaction is not selected, and no loop gets to it. -/
theorem not_passed_of_credited (repair : Repair) {serviceRequest : ServiceRequest}
    {type : WalletTransactionType} (credited : accounts.creditsOf type serviceRequest.id = 1) :
    serviceRequest ∉ repair.passed (accounts.selected stored) := by
  intro passed
  have untouched :=
    ((accounts.mem_selected_iff stored _).mp (repair.mem_passed passed).1).2.2
  cases (creditsOf_of_untouched untouched type).symm.trans credited

theorem creditsOf_regenerated_compensation_of_mem {serviceRequest : ServiceRequest}
    (free : ∀ other ∈ accounts.selected stored, incomeRepair.blocks other = false)
    (member : serviceRequest ∈ stored.rows) :
    (accounts.regenerated stored).creditsOf .rescheduleSurchargeCompensation serviceRequest.id =
      accounts.creditsOf .rescheduleSurchargeCompensation serviceRequest.id +
        if serviceRequest ∈ compensationRepair.passed (accounts.selected stored) ∧
          serviceRequest.hasPaidSurcharge = true then 1 else 0 := by
  rw [accounts.creditsOf_regenerated_compensation, if_pos free]
  exact congrArg _ (accounts.countP_passed stored compensationRepair member)

end Accounts

/-! ### Completeness -/

namespace WalletDatabase

variable {database : WalletDatabase}

/-- A complete regeneration has got to every request that lacked its compensation. -/
theorem Complete.reaches
    (complete : database.Complete (database.accounts.regenerated database.serviceRequests))
    {serviceRequest : ServiceRequest} (member : serviceRequest ∈ database.serviceRequests.rows)
    (owed : serviceRequest.owesCompensation = true)
    (missing : database.accounts.creditsOf .rescheduleSurchargeCompensation serviceRequest.id = 0) :
    serviceRequest ∈
        compensationRepair.passed (database.accounts.selected database.serviceRequests) ∧
      serviceRequest.hasPaidSurcharge = true := by
  have one := complete.compensation serviceRequest member owed
  by_cases free : ∀ other ∈ database.accounts.selected database.serviceRequests,
      incomeRepair.blocks other = false
  · rw [Accounts.creditsOf_regenerated_compensation_of_mem free member, missing, zero_add] at one
    by_contra unreached
    rw [if_neg unreached] at one
    cases one
  · rw [Accounts.creditsOf_regenerated_compensation, if_neg free, missing] at one
    cases one

theorem Complete.repairable
    (complete : database.Complete (database.accounts.regenerated database.serviceRequests)) :
    database.Repairable := by
  obtain ⟨stored, accounts, single⟩ := database
  refine
    { income := fun serviceRequest member owed missing => ?_
      compensation := fun serviceRequest member owed missing => ?_
      reached := fun before serviceRequest after split owed missing earlier inside untouched
        paid => ?_ }
  · have one := complete.income serviceRequest member owed
    rw [Accounts.creditsOf_regenerated_income_of_mem member, missing, zero_add] at one
    have passed : serviceRequest ∈ incomeRepair.passed (accounts.selected stored) := by
      by_contra unreached
      rw [if_neg fun all => unreached all.1] at one
      cases one
    obtain ⟨isSelected, free⟩ := incomeRepair.mem_passed passed
    exact ⟨((accounts.mem_selected_iff stored _).mp isSelected).2.2,
      (incomeRepair.blocks_eq_false_iff owed).mp free⟩
  · obtain ⟨passed, due⟩ := complete.reaches member owed missing
    obtain ⟨isSelected, free⟩ := compensationRepair.mem_passed passed
    exact ⟨((accounts.mem_selected_iff stored _).mp isSelected).2.2,
      (compensationRepair.blocks_eq_false_iff due).mp free⟩
  · have rows : stored.rows = before ++ serviceRequest :: after := split
    have member : serviceRequest ∈ stored.rows := by simp [rows]
    obtain ⟨passed, -⟩ := complete.reaches member owed missing
    obtain ⟨isSelected, -⟩ := compensationRepair.mem_passed passed
    obtain ⟨first, last, selected, earlierOnes⟩ := accounts.selected_split rows isSelected
    have earlierSelected : earlier ∈ accounts.selected stored :=
      (accounts.mem_selected_iff stored _).mpr ⟨by simp [rows, inside],
        ServiceRequest.terminated_of_hasPaidSurcharge paid, untouched⟩
    have distinct := accounts.nodup_selected stored
    rw [selected] at passed distinct
    exact (compensationRepair.blocks_eq_false_iff paid).mp
      (((compensationRepair.mem_passed_append distinct).mp passed).2 earlier
        ((earlierOnes earlier).mpr ⟨inside, earlierSelected⟩))

/-- No request stops the first loop of a repairable database. -/
theorem Repairable.incomeFree (repairable : database.Repairable) :
    ∀ serviceRequest ∈ database.accounts.selected database.serviceRequests,
      incomeRepair.blocks serviceRequest = false := by
  intro serviceRequest isSelected
  obtain ⟨member, -, untouched⟩ := (database.accounts.mem_selected_iff _ _).mp isSelected
  refine incomeRepair.blocks_of_due fun due => ?_
  exact (repairable.income serviceRequest member due
    (Accounts.creditsOf_of_untouched untouched _)).2

/-- The second loop gets to every request of a repairable database that lacks its
compensation. -/
theorem Repairable.reaches (repairable : database.Repairable) {serviceRequest : ServiceRequest}
    (member : serviceRequest ∈ database.serviceRequests.rows)
    (owed : serviceRequest.owesCompensation = true)
    (missing : database.accounts.creditsOf .rescheduleSurchargeCompensation serviceRequest.id = 0) :
    serviceRequest ∈
      compensationRepair.passed (database.accounts.selected database.serviceRequests) := by
  have paid : serviceRequest.hasPaidSurcharge = true := (Bool.and_eq_true _ _ ▸ owed).1
  obtain ⟨untouched, impacted⟩ := repairable.compensation serviceRequest member owed missing
  have isSelected : serviceRequest ∈ database.accounts.selected database.serviceRequests :=
    (database.accounts.mem_selected_iff _ _).mpr
      ⟨member, ServiceRequest.terminated_of_hasPaidSurcharge paid, untouched⟩
  obtain ⟨before, after, split⟩ := List.append_of_mem member
  obtain ⟨first, last, selected, earlierOnes⟩ :=
    database.accounts.selected_split split isSelected
  have distinct := database.accounts.nodup_selected database.serviceRequests
  rw [selected] at distinct
  rw [selected, compensationRepair.mem_passed_append distinct]
  refine ⟨(compensationRepair.blocks_eq_false_iff paid).mpr impacted,
    fun earlier inside => compensationRepair.blocks_of_due fun due => ?_⟩
  obtain ⟨earlierInside, earlierSelected⟩ := (earlierOnes earlier).mp inside
  exact repairable.reached before serviceRequest after split owed missing earlier
    earlierInside ((database.accounts.mem_selected_iff _ _).mp earlierSelected).2.2 due

theorem Repairable.complete (repairable : database.Repairable) :
    database.Complete (database.accounts.regenerated database.serviceRequests) := by
  refine
    { income := fun serviceRequest member owed => ?_
      compensation := fun serviceRequest member owed => ?_ }
  · rw [Accounts.creditsOf_regenerated_income_of_mem member]
    rcases Nat.le_one_iff_eq_zero_or_eq_one.mp (database.single serviceRequest member).1 with
      missing | present
    · have untouched := (repairable.income serviceRequest member owed missing).1
      rw [missing, if_pos]
      refine ⟨?_, owed⟩
      rw [incomeRepair.passed_of_free repairable.incomeFree]
      exact (database.accounts.mem_selected_iff _ _).mpr
        ⟨member, ServiceRequest.terminated_of_owesIncome owed, untouched⟩
    · rw [present, if_neg]
      exact fun all => Accounts.not_passed_of_credited incomeRepair present all.1
  · rw [Accounts.creditsOf_regenerated_compensation_of_mem repairable.incomeFree member]
    rcases Nat.le_one_iff_eq_zero_or_eq_one.mp (database.single serviceRequest member).2 with
      missing | present
    · rw [missing, if_pos]
      exact ⟨repairable.reaches member owed missing, (Bool.and_eq_true _ _ ▸ owed).1⟩
    · rw [present, if_neg]
      exact fun all => Accounts.not_passed_of_credited compensationRepair present all.1

/-- The regeneration completes the database exactly when it is repairable. -/
theorem complete_regenerated_iff (database : WalletDatabase) :
    database.Complete (database.accounts.regenerated database.serviceRequests) ↔
      database.Repairable :=
  ⟨Complete.repairable, Repairable.complete⟩

/-- A fulfilled request that was rescheduled for a surcharge. -/
def exampleFulfilled : ServiceRequest :=
  { exampleRequest with
    customerRescheduleOrder := some
      { CustomerRescheduleOrder.createWithSurcharge ⟨360000000, 367200000, 8⟩
          ⟨270000000, 277200000, 8⟩ 50 30 (some ⟨"6c3a", by decide⟩) 0 with
        paymentStatus := some .succeeded
        executedAt := some 1000 }
    service :=
      { exampleRequest.service with
        provider := some ⟨some (.ofServiceProvider exampleContractor), none, none⟩
        allocationStatus := .allocated
        status := .fulfilled } }

/-- The compensation of the request has been credited. -/
def exampleCompensated : Accounts where
  wallets := ⟨[⟨⟨"6c3a", by decide⟩, 30, 0, 0⟩], by simp⟩
  transactions :=
    ⟨[(WalletTransaction.forRescheduleSurchargeCompensation 0
        (.fromOwner ⟨"6c3a", by decide⟩) exampleFulfilled).2], by simp⟩
  payouts := .empty

def exampleStored : Table String ServiceRequest (·.id) := ⟨[exampleFulfilled], by simp⟩

theorem exampleCompensated_single : ∀ serviceRequest ∈ exampleStored.rows,
    exampleCompensated.creditsOf .income serviceRequest.id ≤ 1 ∧
      exampleCompensated.creditsOf .rescheduleSurchargeCompensation serviceRequest.id ≤ 1 := by
  decide +kernel

/-- The compensation of the request is there and its income is missing. -/
def exampleDatabase : WalletDatabase where
  serviceRequests := exampleStored
  accounts := exampleCompensated
  single := exampleCompensated_single

theorem not_complete_example : ¬ exampleDatabase.Complete
    (exampleDatabase.accounts.regenerated exampleDatabase.serviceRequests) := by
  intro complete
  have one := complete.income exampleFulfilled List.mem_cons_self (by decide +kernel)
  revert one
  decide +kernel

end WalletDatabase

end FieldService
