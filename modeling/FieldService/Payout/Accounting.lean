/-
This file settles when the lines of a settlement account for its payouts.

What a settlement files where is a matter of its input alone: `filedUnder` finds the last
transaction of the same service request, and the group of that one decides. Each round of the
factory is summed up once by what it returns (`Itemises`), and the totals of the whole run
follow by adding up.
-/

import Mathlib.Algebra.Field.Rat
import FieldService.Payout.Rounds

namespace FieldService

open Grouping

/-! ### Settlements -/

/-- Debitable transactions and the service requests they are for. -/
structure Settlement where
  transactions : List WalletTransaction
  serviceRequests : Table String OrderedServiceRequest fun serviceRequest => serviceRequest.id
  debitable : ∀ transaction ∈ transactions, transaction.isDebitable = true
  requested : ∀ transaction ∈ transactions, ∃ serviceRequest ∈ serviceRequests.rows,
    transaction.serviceRequestId = some serviceRequest.id
  earned : ∀ transaction ∈ transactions, transaction.type = .income →
    ∀ serviceRequest ∈ serviceRequests.rows,
      transaction.serviceRequestId = some serviceRequest.id →
        transaction.amount = serviceRequest.customerOrder.serviceProviderTotal

/-- The identifiers the payouts are saved under, one for every group. -/
structure PayoutIds where
  of : String → Uuid
  distinct : Function.Injective of

def NewPayout.id (ids : PayoutIds) (payout : NewPayout) : Uuid :=
  ids.of (PayoutFactory.groupIdOf payout.owner.id payout.principalGroup)

/-- The transaction after the payouts have been saved: it carries the identifier of its own. -/
def WalletTransaction.carry (ids : PayoutIds) (serviceProviders : List PayableServiceProvider)
    (transaction : WalletTransaction) : WalletTransaction :=
  if transaction.isPayable serviceProviders then
    { transaction with payoutId := some (ids.of (PayoutFactory.groupId transaction)) }
  else transaction

namespace Settlement

variable (settlement : Settlement) (serviceProviders : List PayableServiceProvider)
  (ids : PayoutIds)

/-- The payouts of the settlement. -/
def payouts : List NewPayout :=
  PayoutFactory.create settlement.transactions serviceProviders

/-- The lines of the settlement, made after its payouts have been saved. -/
def payoutLines : Except AppError (List PayoutLine) :=
  PayoutLineFactory.create (settlement.transactions.map (·.carry ids serviceProviders))
    serviceProviders settlement.serviceRequests.rows

/-- The lines are made, those of every payout add up to it, and they are all made out to its
owner. -/
def AccountedFor : Prop :=
  ∃ lines, settlement.payoutLines serviceProviders ids = .ok lines ∧
    ∀ payout ∈ settlement.payouts serviceProviders,
      sumWhere (fun line => line.payoutId = some (payout.id ids)) (·.amount) lines =
          payout.amount ∧
        ∀ line ∈ lines, line.payoutId = some (payout.id ids) → line.owner.id = payout.owner.id

/-! ### Where a transaction is filed -/

def requestOf (transaction : WalletTransaction) : Option OrderedServiceRequest :=
  transaction.serviceRequestId.bind settlement.serviceRequests.find

/-- Whom the lines of the transaction are made out to. -/
def payeeId (transaction : WalletTransaction) : Option Uuid :=
  if transaction.type = .income then
    (settlement.requestOf transaction).bind (·.service.dispatcherId)
  else some transaction.ownerId

/-- The factory looks the payee up. -/
def needsPayee (transaction : WalletTransaction) : Bool :=
  transaction.type ≠ .income ||
    (settlement.requestOf transaction).any fun serviceRequest =>
      !serviceRequest.servicePackages.isEmpty

/-- The transaction has at least one line. -/
def isItemised (transaction : WalletTransaction) : Bool :=
  transaction.type ≠ .income ||
    (settlement.requestOf transaction).any fun serviceRequest =>
      serviceRequest.servicePackages.any fun package => 0 < package.quantity

/-- The transaction under whose payout the lines of this one are filed: the last one of the
same service request. -/
def filedUnder (transaction : WalletTransaction) : Option WalletTransaction :=
  index (·.serviceRequestId) settlement.transactions transaction.serviceRequestId

/-- The transaction belongs to the group. -/
def belongsTo (group transaction : WalletTransaction) : Bool :=
  transaction.ownerId = group.ownerId ∧ transaction.principalGroup = group.principalGroup

/-- The lines of the transaction are filed in the group. -/
def isFiledIn (group transaction : WalletTransaction) : Bool :=
  (settlement.filedUnder transaction).any (belongsTo group)

/-- The condition under which the lines account for the payouts. What a group loses to others
by being filed there it must gain from what others lose to it. -/
structure WellFiled : Prop where
  payable : ∀ transaction ∈ settlement.transactions,
    settlement.needsPayee transaction = true →
      ∃ payeeId, settlement.payeeId transaction = some payeeId ∧
        ∃ provider ∈ serviceProviders, provider.id = payeeId
  owned : ∀ transaction ∈ settlement.transactions, ∀ last ∈ settlement.filedUnder transaction,
    settlement.isItemised transaction = true → last.isPayable serviceProviders = true →
      settlement.payeeId transaction = some last.ownerId
  balanced : ∀ group ∈ settlement.transactions, group.isPayable serviceProviders = true →
    sumWhere (fun transaction => settlement.isFiledIn group transaction &&
        !belongsTo group transaction) (·.amount) settlement.transactions =
      sumWhere (fun transaction => belongsTo group transaction &&
        !settlement.isFiledIn group transaction) (·.amount) settlement.transactions

theorem carry_keeps (transaction : WalletTransaction) :
    (transaction.carry ids serviceProviders).id = transaction.id ∧
      (transaction.carry ids serviceProviders).amount = transaction.amount ∧
      (transaction.carry ids serviceProviders).ownerId = transaction.ownerId ∧
      (transaction.carry ids serviceProviders).type = transaction.type ∧
      (transaction.carry ids serviceProviders).serviceRequestId = transaction.serviceRequestId := by
  unfold WalletTransaction.carry
  split <;> exact ⟨rfl, rfl, rfl, rfl, rfl⟩

/-! ### Rounds -/

/-- The transactions as the line factory is given them. -/
def carried : List WalletTransaction :=
  settlement.transactions.map (·.carry ids serviceProviders)

/-- The service requests its query finds. -/
def foundRequests : List OrderedServiceRequest :=
  PayoutLineFactory.getBulkServiceRequests settlement.serviceRequests.rows
    ((settlement.carried serviceProviders ids).filterMap (·.serviceRequestId))

/-- The round of the factory for a transaction, in one of its two loops. -/
def round (transaction : WalletTransaction) : Except AppError (List PayoutLine) :=
  if transaction.type = .income then
    PayoutLineFactory.incomeLines (settlement.carried serviceProviders ids) serviceProviders
      (settlement.foundRequests serviceProviders ids) (transaction.carry ids serviceProviders)
  else
    PayoutLineFactory.rescheduleSurchargeLines (settlement.carried serviceProviders ids)
      serviceProviders (settlement.foundRequests serviceProviders ids)
      (transaction.carry ids serviceProviders)

/-- The lines itemise the transaction: they add up to it, go to its payee, and are filed where
it is. -/
structure Itemises (transaction : WalletTransaction) (lines : List PayoutLine) : Prop where
  filed : ∀ line ∈ lines, ∃ last, settlement.filedUnder transaction = some last ∧
    line.payoutId = (last.carry ids serviceProviders).payoutId
  owner : ∀ line ∈ lines, settlement.payeeId transaction = some line.owner.id
  amount : (lines.map (·.amount)).sum = transaction.amount
  nonempty : lines ≠ [] ↔ settlement.isItemised transaction = true

variable {settlement serviceProviders ids}

/-! ### Rounds of the factory -/

variable (settlement serviceProviders ids) in
/-- The round for a transaction is that of the factory for the transaction it is given. -/
theorem round_eq (transaction : WalletTransaction) :
    settlement.round serviceProviders ids transaction =
      PayoutLineFactory.linesOf (settlement.carried serviceProviders ids) serviceProviders
        (PayoutLineFactory.foundRequests (settlement.carried serviceProviders ids)
          settlement.serviceRequests)
        (transaction.carry ids serviceProviders) := by
  rw [round, PayoutLineFactory.linesOf, (carry_keeps serviceProviders ids transaction).2.2.2.1]
  rfl

variable (serviceProviders ids) in
/-- What the factory reads of a transaction is not changed by saving its payout. -/
theorem carry_reads (stored : Table String OrderedServiceRequest fun request => request.id)
    (transaction : WalletTransaction) :
    PayoutLineFactory.requestOf stored (transaction.carry ids serviceProviders) =
        PayoutLineFactory.requestOf stored transaction ∧
      PayoutLineFactory.payeeId stored (transaction.carry ids serviceProviders) =
        PayoutLineFactory.payeeId stored transaction ∧
      PayoutLineFactory.needsPayee stored (transaction.carry ids serviceProviders) =
        PayoutLineFactory.needsPayee stored transaction ∧
      PayoutLineFactory.isItemised stored (transaction.carry ids serviceProviders) =
        PayoutLineFactory.isItemised stored transaction := by
  obtain ⟨-, -, sameOwner, sameType, sameRequest⟩ := carry_keeps serviceProviders ids transaction
  have request : PayoutLineFactory.requestOf stored (transaction.carry ids serviceProviders) =
      PayoutLineFactory.requestOf stored transaction := by
    rw [PayoutLineFactory.requestOf, sameRequest]
    rfl
  refine ⟨request, ?_, ?_, ?_⟩
  · rw [PayoutLineFactory.payeeId, request, sameType, sameOwner]
    rfl
  · rw [PayoutLineFactory.needsPayee, request, sameType]
    rfl
  · rw [PayoutLineFactory.isItemised, request, sameType]
    rfl

variable (serviceProviders ids) in
theorem filedUnder_carry (transactions : List WalletTransaction)
    (transaction : WalletTransaction) :
    PayoutLineFactory.filedUnder (transactions.map (·.carry ids serviceProviders))
        (transaction.carry ids serviceProviders) =
      (PayoutLineFactory.filedUnder transactions transaction).map
        (·.carry ids serviceProviders) := by
  have keeps : ∀ other : WalletTransaction,
      (other.carry ids serviceProviders).serviceRequestId = other.serviceRequestId :=
    fun other => (carry_keeps serviceProviders ids other).2.2.2.2
  rw [PayoutLineFactory.filedUnder, keeps, index_map keeps]
  rfl

theorem carry_mem {transaction : WalletTransaction}
    (member : transaction ∈ settlement.transactions) :
    transaction.carry ids serviceProviders ∈ settlement.carried serviceProviders ids :=
  List.mem_map_of_mem member

theorem requestOf_eq {transaction : WalletTransaction} {serviceRequest : OrderedServiceRequest}
    (stored : serviceRequest ∈ settlement.serviceRequests.rows)
    (isFor : transaction.serviceRequestId = some serviceRequest.id) :
    settlement.requestOf transaction = some serviceRequest := by
  rw [requestOf, isFor]
  exact settlement.serviceRequests.find_of_mem stored

theorem calculateServiceProviderTotal_eq (packages : List RequestedServicePackage) :
    calculateServiceProviderTotal packages =
      (packages.map (·.getServiceProviderQuotationTotal)).sum :=
  Grouping.foldl_add_eq_sum _ packages

/-- A round returns unless it looks up a payee who is not among the providers. -/
theorem round_returns_iff {transaction : WalletTransaction}
    (member : transaction ∈ settlement.transactions) :
    Returns (settlement.round serviceProviders ids transaction) ↔
      (settlement.needsPayee transaction = true →
        ∃ payeeId, settlement.payeeId transaction = some payeeId ∧
          ∃ provider ∈ serviceProviders, provider.id = payeeId) := by
  obtain ⟨serviceRequest, stored, isFor⟩ := settlement.requested transaction member
  obtain ⟨request, payee, needs, -⟩ :=
    carry_reads serviceProviders ids settlement.serviceRequests transaction
  rw [round_eq, PayoutLineFactory.linesOf_returns_iff (carry_mem member)
    (request.trans (requestOf_eq stored isFor)), payee, needs]
  rfl

/-- The lines of an income add up to it. -/
theorem round_income_amount {transaction : WalletTransaction}
    {serviceRequest : OrderedServiceRequest} {lines : List PayoutLine}
    (member : transaction ∈ settlement.transactions)
    (stored : serviceRequest ∈ settlement.serviceRequests.rows)
    (isFor : transaction.serviceRequestId = some serviceRequest.id)
    (isIncome : transaction.type = .income)
    (made : settlement.round serviceProviders ids transaction = .ok lines) :
    (lines.map (·.amount)).sum = transaction.amount := by
  obtain ⟨-, -, -, sameType, sameRequest⟩ := carry_keeps serviceProviders ids transaction
  have carriedMember : transaction.carry ids serviceProviders ∈
      settlement.carried serviceProviders ids := carry_mem member
  obtain ⟨last, -, isBooked⟩ :=
    PayoutLineFactory.bookedUnder_of_mem carriedMember (sameRequest.trans isFor)
  have request := (carry_reads serviceProviders ids settlement.serviceRequests transaction).1.trans
    (requestOf_eq stored isFor)
  rw [round_eq, PayoutLineFactory.linesOf_income carriedMember request
    (sameType.trans isIncome)] at made
  obtain ⟨returns, rfl⟩ := (gather_eq_ok_iff _ _ _).mp made
  have each : ∀ package ∈ serviceRequest.servicePackages,
      sumWhere (fun _ => true) (·.amount)
        (resultsOf (PayoutLineFactory.packageLines (settlement.carried serviceProviders ids)
          serviceProviders serviceRequest package)) =
        if true then package.getServiceProviderQuotationTotal else 0 := by
    intro package inside
    obtain ⟨owner, -, replicated⟩ :=
      PayoutLineFactory.packageLines_replicates isBooked (returns package inside)
    simp [sumWhere, replicated, PayoutLineFactory.packageLine,
      RequestedServicePackage.getServiceProviderQuotationTotal, nsmul_eq_mul]
  have total := sumWhere_flatMap each
  simp only [sumWhere, List.filter_true] at total
  rw [total, ← calculateServiceProviderTotal_eq, ← serviceRequest.priced,
    settlement.earned transaction member isIncome serviceRequest stored isFor]

/-- The line of a compensation is for its amount. -/
theorem round_surcharge_amount {transaction : WalletTransaction}
    {serviceRequest : OrderedServiceRequest} {lines : List PayoutLine}
    (member : transaction ∈ settlement.transactions)
    (stored : serviceRequest ∈ settlement.serviceRequests.rows)
    (isFor : transaction.serviceRequestId = some serviceRequest.id)
    (notIncome : transaction.type ≠ .income)
    (made : settlement.round serviceProviders ids transaction = .ok lines) :
    (lines.map (·.amount)).sum = transaction.amount := by
  obtain ⟨-, sameAmount, -, sameType, -⟩ := carry_keeps serviceProviders ids transaction
  have request := (carry_reads serviceProviders ids settlement.serviceRequests transaction).1.trans
    (requestOf_eq stored isFor)
  rw [round_eq, PayoutLineFactory.linesOf_surcharge_eq_ok_iff lines (carry_mem member) request
    (by rwa [sameType])] at made
  obtain ⟨owner, last, -, -, rfl⟩ := made
  simp [PayoutLineFactory.rescheduleSurchargeLine, sameAmount]

theorem round_itemises {transaction : WalletTransaction} {lines : List PayoutLine}
    (member : transaction ∈ settlement.transactions)
    (made : settlement.round serviceProviders ids transaction = .ok lines) :
    settlement.Itemises serviceProviders ids transaction lines := by
  obtain ⟨serviceRequest, stored, isFor⟩ := settlement.requested transaction member
  obtain ⟨-, payee, -, itemised⟩ :=
    carry_reads serviceProviders ids settlement.serviceRequests transaction
  have files := PayoutLineFactory.files_of_ok (carry_mem member)
    ((round_eq settlement serviceProviders ids transaction).symm.trans made)
  refine
    { filed := fun line inside => ?_
      owner := fun line inside => payee.symm.trans (files.owner line inside)
      amount := ?_
      nonempty := files.nonempty.trans (by rw [itemised]; rfl) }
  · obtain ⟨last, filed, booked⟩ := files.filed line inside
    rw [carried, filedUnder_carry] at filed
    obtain ⟨original, isFiled, rfl⟩ := Option.map_eq_some_iff.mp filed
    exact ⟨original, isFiled, booked⟩
  · by_cases isIncome : transaction.type = .income
    · exact round_income_amount member stored isFor isIncome made
    · exact round_surcharge_amount member stored isFor isIncome made

/-! ### The whole run -/

/-- The transactions of one type, as the factory filters them. -/
theorem carried_filter (type : WalletTransactionType) :
    (settlement.carried serviceProviders ids).filter (·.type = type) =
      (settlement.transactions.filter (·.type = type)).map (·.carry ids serviceProviders) := by
  rw [carried, List.filter_map]
  refine congrArg (List.map _) (List.filter_congr fun transaction _ => ?_)
  simp [(carry_keeps serviceProviders ids transaction).2.2.2.1]

theorem type_of_debitable {transaction : WalletTransaction}
    (debitable : transaction.isDebitable = true) :
    transaction.type = .income ∨ transaction.type = .rescheduleSurchargeCompensation := by
  simp only [WalletTransaction.isDebitable, Bool.and_eq_true, Bool.or_eq_true,
    decide_eq_true_eq] at debitable
  exact debitable.1

/-- Every transaction is gone through in exactly one of the two loops. -/
theorem loops_perm :
    (settlement.transactions.filter (·.type = .income) ++
      settlement.transactions.filter (·.type = .rescheduleSurchargeCompensation)).Perm
        settlement.transactions := by
  have others : settlement.transactions.filter (·.type = .rescheduleSurchargeCompensation) =
      settlement.transactions.filter (fun transaction => !decide (transaction.type = .income)) := by
    refine List.filter_congr fun transaction member => ?_
    rcases type_of_debitable (settlement.debitable transaction member) with isIncome | isSurcharge
    · simp [isIncome]
    · simp [isSurcharge]
  rw [others]
  exact List.filter_append_perm _ _

/-- The lines are made when every round returns, and they are those of all rounds. -/
theorem payoutLines_eq_ok_iff (lines : List PayoutLine) :
    settlement.payoutLines serviceProviders ids = .ok lines ↔
      (∀ transaction ∈ settlement.transactions,
        Returns (settlement.round serviceProviders ids transaction)) ∧
      lines = (settlement.transactions.filter (·.type = .income) ++
          settlement.transactions.filter (·.type = .rescheduleSurchargeCompensation)).flatMap
        fun transaction => resultsOf (settlement.round serviceProviders ids transaction) := by
  refine (PayoutLineFactory.create_eq_ok_iff lines).trans ?_
  rw [← carried, carried_filter, carried_filter, ← List.map_append, List.forall_mem_map,
    List.flatMap_map]
  simp only [← round_eq, loops_perm.mem_iff]

/-! ### Payouts and what is filed under them -/

theorem belongsTo_iff (group transaction : WalletTransaction) :
    belongsTo group transaction = true ↔
      PayoutFactory.groupId transaction = PayoutFactory.groupId group := by
  rw [PayoutFactory.groupId_eq_iff, belongsTo, decide_eq_true_eq]

/-- Of the debitable transactions those of a payable group carry the identifier of its payout. -/
theorem carry_payoutId_iff {group transaction : WalletTransaction}
    (debitable : transaction.isDebitable = true)
    (payable : group.isPayable serviceProviders = true) :
    (transaction.carry ids serviceProviders).payoutId =
        some (ids.of (PayoutFactory.groupId group)) ↔ belongsTo group transaction = true := by
  rw [belongsTo_iff]
  unfold WalletTransaction.carry
  split
  · rw [Option.some.injEq]
    exact ids.distinct.eq_iff
  · rename_i unpayable
    have unpaid : transaction.payoutId = none := by
      simp only [WalletTransaction.isDebitable, Bool.and_eq_true] at debitable
      simpa using debitable.2
    rw [unpaid]
    refine ⟨fun impossible => (Option.some_ne_none _ impossible.symm).elim, fun same => ?_⟩
    refine absurd ?_ unpayable
    rw [isPayable_iff] at payable ⊢
    rw [((PayoutFactory.groupId_eq_iff transaction group).mp same).1]
    exact payable

theorem filedUnder_mem {transaction last : WalletTransaction}
    (filed : settlement.filedUnder transaction = some last) :
    last ∈ settlement.transactions ∧ last.serviceRequestId = transaction.serviceRequestId :=
  index_key filed

/-- The payout is the one of the transaction's group. -/
structure IsPayoutOf (settlement : Settlement) (ids : PayoutIds) (group : WalletTransaction)
    (payout : NewPayout) : Prop where
  id : payout.id ids = ids.of (PayoutFactory.groupId group)
  owner : payout.owner.id = group.ownerId
  amount : payout.amount = sumWhere (belongsTo group) (·.amount) settlement.transactions

theorem isPayoutOf_of_mem {group : String × WalletTransactionGroup} {payout : NewPayout}
    (grouped : group ∈
      PayoutFactory.generateWalletTransactionGroupLookup settlement.transactions)
    (made : PayoutFactory.MadeOf serviceProviders group payout) {transaction : WalletTransaction}
    (inside : transaction ∈ group.2) : settlement.IsPayoutOf ids transaction payout := by
  obtain ⟨sameOwner, sameGroup⟩ := made.homogeneous transaction inside
  have key := (PayoutFactory.groupId_of_mem grouped inside).2
  refine
    { id := ?_
      owner := sameOwner.symm
      amount := ?_ }
  · rw [key, made.key]
    rfl
  · rw [made.amount, ((mem_collect PayoutFactory.groupId settlement.transactions group).mp
      grouped).1, ← key]
    refine sumWhere_congr _ fun other _ => ?_
    rw [Bool.eq_iff_iff, belongsTo_iff, decide_eq_true_eq]

variable (ids) in
/-- Every payout is the one of a payable transaction. -/
theorem exists_group {payout : NewPayout} (member : payout ∈ settlement.payouts serviceProviders) :
    ∃ group ∈ settlement.transactions, group.isPayable serviceProviders = true ∧
      settlement.IsPayoutOf ids group payout := by
  obtain ⟨group, grouped, made⟩ := PayoutFactory.mem_create member
  obtain ⟨transaction, inside⟩ := List.exists_mem_of_ne_nil _
    ((mem_collect PayoutFactory.groupId settlement.transactions group).mp grouped).2
  refine ⟨transaction, (PayoutFactory.groupId_of_mem grouped inside).1, ?_,
    isPayoutOf_of_mem grouped made inside⟩
  exact (isPayable_iff _ _).mpr ⟨payout.owner, made.owner, (made.homogeneous _ inside).1.symm⟩

variable (ids) in
/-- Every payable transaction has a payout. -/
theorem exists_payout {group : WalletTransaction} (member : group ∈ settlement.transactions)
    (payable : group.isPayable serviceProviders = true) :
    ∃ payout ∈ settlement.payouts serviceProviders, settlement.IsPayoutOf ids group payout := by
  obtain ⟨payout, created, inside⟩ :=
    (PayoutFactory.mem_some_payout_iff _ serviceProviders member).mpr payable
  obtain ⟨lookup, grouped, made⟩ := PayoutFactory.mem_create created
  exact ⟨payout, created, isPayoutOf_of_mem grouped made (made.transactions ▸ inside)⟩

/-- A line is booked under the payout of a group when its transaction is filed in the group. -/
theorem line_payoutId_iff {group transaction : WalletTransaction} {lines : List PayoutLine}
    (payable : group.isPayable serviceProviders = true)
    (itemises : settlement.Itemises serviceProviders ids transaction lines) {line : PayoutLine}
    (inside : line ∈ lines) :
    line.payoutId = some (ids.of (PayoutFactory.groupId group)) ↔
      settlement.isFiledIn group transaction = true := by
  obtain ⟨last, filed, booked⟩ := itemises.filed line inside
  rw [booked, carry_payoutId_iff (settlement.debitable last (filedUnder_mem filed).1) payable,
    isFiledIn, filed]
  rfl

/-- The lines under the payout of a group add up to the transactions that are filed in it. -/
theorem sumWhere_lines {group : WalletTransaction} {lines : List PayoutLine}
    (payable : group.isPayable serviceProviders = true)
    (made : settlement.payoutLines serviceProviders ids = .ok lines) :
    sumWhere (fun line => line.payoutId = some (ids.of (PayoutFactory.groupId group))) (·.amount)
        lines =
      sumWhere (settlement.isFiledIn group) (·.amount) settlement.transactions := by
  obtain ⟨returns, rfl⟩ := (payoutLines_eq_ok_iff lines).mp made
  rw [sumWhere_perm _ _ (loops_perm.flatMap_right _)]
  refine sumWhere_flatMap fun transaction member => ?_
  obtain ⟨results, round⟩ := returns transaction member
  have itemises := round_itemises member round
  rw [round, show resultsOf (.ok results) = results from rfl, ← itemises.amount]
  refine sumWhere_uniform _ fun line inside => ?_
  rw [Bool.eq_iff_iff, decide_eq_true_eq]
  exact line_payoutId_iff payable itemises inside

/-- What is filed in a group amounts to the group when what enters it amounts to what leaves. -/
theorem filed_eq_iff_balanced (group : WalletTransaction) :
    sumWhere (settlement.isFiledIn group) (·.amount) settlement.transactions =
        sumWhere (belongsTo group) (·.amount) settlement.transactions ↔
      sumWhere (fun transaction => settlement.isFiledIn group transaction &&
          !belongsTo group transaction) (·.amount) settlement.transactions =
        sumWhere (fun transaction => belongsTo group transaction &&
          !settlement.isFiledIn group transaction) (·.amount) settlement.transactions := by
  have common : sumWhere (fun transaction => belongsTo group transaction &&
        settlement.isFiledIn group transaction) (·.amount) settlement.transactions =
      sumWhere (fun transaction => settlement.isFiledIn group transaction &&
        belongsTo group transaction) (·.amount) settlement.transactions :=
    sumWhere_congr _ fun transaction _ => Bool.and_comm _ _
  rw [sumWhere_split (settlement.isFiledIn group) (belongsTo group),
    sumWhere_split (belongsTo group) (settlement.isFiledIn group), common]
  exact add_right_inj _

theorem AccountedFor.wellFiled (accountedFor : settlement.AccountedFor serviceProviders ids) :
    settlement.WellFiled serviceProviders := by
  obtain ⟨lines, made, accounts⟩ := accountedFor
  obtain ⟨returns, all⟩ := (payoutLines_eq_ok_iff lines).mp made
  refine
    { payable := fun transaction member =>
        (round_returns_iff member).mp (returns transaction member)
      owned := fun transaction member last filed itemised lastPayable => ?_
      balanced := fun group member payable => ?_ }
  · obtain ⟨results, round⟩ := returns transaction member
    have itemises := round_itemises member round
    obtain ⟨line, inside⟩ := List.exists_mem_of_ne_nil _ (itemises.nonempty.mpr itemised)
    have lastMember := (filedUnder_mem filed).1
    obtain ⟨payout, created, isPayout⟩ := exists_payout ids lastMember lastPayable
    have among : line ∈ lines := by
      rw [all]
      refine List.mem_flatMap.mpr ⟨transaction, loops_perm.mem_iff.mpr member, ?_⟩
      rw [round]
      exact inside
    have booked : line.payoutId = some (payout.id ids) := by
      rw [isPayout.id, line_payoutId_iff lastPayable itemises inside, isFiledIn, filed]
      simp [belongsTo]
    rw [itemises.owner line inside, (accounts payout created).2 line among booked,
      isPayout.owner]
  · obtain ⟨payout, created, isPayout⟩ := exists_payout ids member payable
    have total := (accounts payout created).1
    rw [isPayout.id, isPayout.amount, sumWhere_lines payable made] at total
    exact (filed_eq_iff_balanced group).mp total

theorem WellFiled.accountedFor (wellFiled : settlement.WellFiled serviceProviders)
    (ids : PayoutIds) : settlement.AccountedFor serviceProviders ids := by
  have returns : ∀ transaction ∈ settlement.transactions,
      Returns (settlement.round serviceProviders ids transaction) := fun transaction member =>
    (round_returns_iff member).mpr (wellFiled.payable transaction member)
  refine ⟨_, (payoutLines_eq_ok_iff _).mpr ⟨returns, rfl⟩, fun payout created => ?_⟩
  have made : settlement.payoutLines serviceProviders ids = .ok _ :=
    (payoutLines_eq_ok_iff _).mpr ⟨returns, rfl⟩
  obtain ⟨group, member, payable, isPayout⟩ := exists_group ids created
  refine ⟨?_, fun line among booked => ?_⟩
  · rw [isPayout.id, isPayout.amount, sumWhere_lines payable made]
    exact (filed_eq_iff_balanced group).mpr (wellFiled.balanced group member payable)
  · obtain ⟨transaction, looped, inside⟩ := List.mem_flatMap.mp among
    have transactionMember := loops_perm.mem_iff.mp looped
    obtain ⟨results, round⟩ := returns transaction transactionMember
    have itemises := round_itemises transactionMember round
    rw [round] at inside
    rw [isPayout.id] at booked
    have filedIn := (line_payoutId_iff payable itemises inside).mp booked
    obtain ⟨last, filed, -⟩ := itemises.filed line inside
    rw [isFiledIn, filed] at filedIn
    have sameGroup : last.ownerId = group.ownerId :=
      ((PayoutFactory.groupId_eq_iff last group).mp ((belongsTo_iff group last).mp filedIn)).1
    have lastPayable : last.isPayable serviceProviders = true := by
      rw [isPayable_iff] at payable ⊢
      rw [sameGroup]
      exact payable
    have owned := wellFiled.owned transaction transactionMember last filed
      (itemises.nonempty.mp (List.ne_nil_of_mem inside)) lastPayable
    rw [itemises.owner line inside, Option.some.injEq] at owned
    rw [owned, sameGroup, isPayout.owner]

/-- The provider who fulfils the request of the example. -/
def exampleEarner : Uuid := ⟨"1c7d", by decide⟩

/-- The provider it was rescheduled away from. -/
def exampleImpacted : Uuid := ⟨"8b40", by decide⟩

/-- A request that was rescheduled away from one provider and fulfilled by another. -/
def exampleServiceRequest : OrderedServiceRequest where
  id := "240101-a1b2c3d"
  principalGroup := .daikin
  createdAt := 0
  appointment := ⟨30, 30, ⟨360000000, 367200000, 8⟩, ⟨360000000, 363600000, 8⟩, 60⟩
  customerOrder := ⟨150, 100, true⟩
  customerRescheduleOrder := some
    { CustomerRescheduleOrder.createWithSurcharge ⟨360000000, 367200000, 8⟩
        ⟨270000000, 277200000, 8⟩ 50 30 (some exampleImpacted) 0 with
      paymentStatus := some .succeeded
      executedAt := some 1000 }
  verificationCode := none
  service :=
    { Service.derivedFrom [] ⟨some ⟨some exampleEarner, none, none, none⟩, none, none⟩ []
        true with status := .fulfilled }
  paymentReceivedAt := none
  transitionedAt := none
  config := ⟨6, 3, 12, 24, 120, 5, true, true, 50, 30, false⟩
  customerName := "Customer"
  consumerPromotionCode := none
  consumerPromotionAmount := 0
  servicePackages := [⟨"Cleaning", 1, 150, 150, 100, 100⟩]
  priced := by decide +kernel

def exampleProvider (id : Uuid) : PayableServiceProvider :=
  ⟨⟨id, none, none, none, .independent, .active⟩, ⟨none, none, none, none, none, none, none⟩, none⟩

def exampleCredit (id : Nat) (type : WalletTransactionType) (ownerId : Uuid) (amount : Money) :
    WalletTransaction :=
  ⟨id, amount, ownerId, .daikin, type, ownerId, .success, ⟨"240101-a1b2c3d", .serviceRequest⟩, none,
    some "240101-a1b2c3d"⟩

/-- The income of the one and the compensation of the other. -/
def exampleTransactions : List WalletTransaction :=
  [exampleCredit 1 .income exampleEarner 100,
    exampleCredit 2 .rescheduleSurchargeCompensation exampleImpacted 30]

def exampleServiceRequests : Table String OrderedServiceRequest fun serviceRequest =>
    serviceRequest.id :=
  ⟨[exampleServiceRequest], by simp⟩

def examplePayoutIds : PayoutIds where
  of group := ⟨group ++ "|", by simp⟩
  distinct := fun first second same => by simpa using same

end Settlement

end FieldService
