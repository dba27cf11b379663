/-
This file says what a round of the line factory makes of a transaction: when it returns, and
under which payout its lines are filed.

The factory is given the transactions as they are after their payouts have been saved. What it
looks up for a transaction depends on that list and on the service requests that are stored,
and on nothing else, so it is settled here for any list and any requests.
-/

import FieldService.Payout.Lines
import FieldService.Wallet.Credits

namespace FieldService

open Grouping

namespace PayoutLineFactory

variable (payableTransactions : List WalletTransaction)
  (serviceProviders : List PayableServiceProvider)

/-! ### The round for a transaction -/

/-- The round for a transaction, in one of the two loops. -/
def linesOf (serviceRequests : List OrderedServiceRequest) (transaction : WalletTransaction) :
    Except AppError (List PayoutLine) :=
  if transaction.type = .income then
    incomeLines payableTransactions serviceProviders serviceRequests transaction
  else rescheduleSurchargeLines payableTransactions serviceProviders serviceRequests transaction

/-- The service requests the factory is answered with. -/
def foundRequests (stored : Table String OrderedServiceRequest fun request => request.id) :
    List OrderedServiceRequest :=
  getBulkServiceRequests stored.rows (payableTransactions.filterMap (·.serviceRequestId))

section

variable (stored : Table String OrderedServiceRequest fun request => request.id)
  (transaction : WalletTransaction)

def requestOf : Option OrderedServiceRequest :=
  transaction.serviceRequestId.bind stored.find

/-- Whom the lines of the transaction are made out to. -/
def payeeId : Option Uuid :=
  if transaction.type = .income then
    (requestOf stored transaction).bind (·.service.dispatcherId)
  else some transaction.ownerId

/-- The factory looks the payee up. -/
def needsPayee : Bool :=
  transaction.type ≠ .income ||
    (requestOf stored transaction).any fun serviceRequest =>
      !serviceRequest.servicePackages.isEmpty

/-- The transaction has at least one line. -/
def isItemised : Bool :=
  transaction.type ≠ .income ||
    (requestOf stored transaction).any fun serviceRequest =>
      serviceRequest.servicePackages.any fun package => 0 < package.quantity

/-- The last transaction of the same service request, under which the lines are booked. -/
def filedUnder : Option WalletTransaction :=
  index (·.serviceRequestId) payableTransactions transaction.serviceRequestId

end

/-! ### Lookups -/

variable {payableTransactions serviceProviders}

/-- The factory finds the service request of a transaction exactly if it is stored. -/
theorem lookup_request (stored : Table String OrderedServiceRequest fun request => request.id)
    {transaction : WalletTransaction} (member : transaction ∈ payableTransactions) :
    transaction.serviceRequestId.bind
        (generateServiceRequestLookup (foundRequests payableTransactions stored)) =
      requestOf stored transaction := by
  rw [requestOf]
  rcases isFor : transaction.serviceRequestId with _ | id
  · rfl
  have asked : id ∈ payableTransactions.filterMap (·.serviceRequestId) :=
    List.mem_filterMap.mpr ⟨transaction, member, isFor⟩
  have answered : ∀ request, request ∈ foundRequests payableTransactions stored ∧
      request.id = id ↔ request ∈ stored.rows ∧ request.id = id := by
    intro request
    rw [foundRequests, getBulkServiceRequests, List.mem_filter]
    refine ⟨fun both => ⟨both.1.1, both.2⟩, fun both => ⟨⟨both.1, ?_⟩, both.2⟩⟩
    rw [both.2]
    simpa using asked
  rw [Option.bind_some, Option.bind_some, generateServiceRequestLookup]
  obtain missing | ⟨request, found⟩ := Option.eq_none_or_eq_some (stored.find id)
  · rw [missing, ← Option.not_isSome_iff_eq_none]
    intro isFound
    obtain ⟨request, inside⟩ := (index_isSome_iff _ _ _).mp isFound
    obtain ⟨row, rfl⟩ := (answered request).mp inside
    rw [stored.find_of_mem row] at missing
    cases missing
  · obtain ⟨row, isRow⟩ := stored.find_key found
    obtain ⟨other, isOther⟩ := Option.isSome_iff_exists.mp
      ((index_isSome_iff (fun request => request.id) _ id).mpr
        ⟨request, (answered request).mpr ⟨row, isRow⟩⟩)
    obtain ⟨otherRow, sameId⟩ := (answered other).mp (index_key isOther)
    rw [isOther, found]
    exact congrArg some (List.inj_on_of_nodup_map stored.distinct otherRow row
      (sameId.trans isRow.symm))

/-- Every line is booked under the last transaction of its service request. -/
theorem bookedUnder_of_mem {transaction : WalletTransaction} {id : String}
    (member : transaction ∈ payableTransactions)
    (isFor : transaction.serviceRequestId = some id) :
    ∃ last, filedUnder payableTransactions transaction = some last ∧
      bookedUnder payableTransactions id = .ok last := by
  obtain ⟨last, filed⟩ := Option.isSome_iff_exists.mp
    ((index_isSome_iff (·.serviceRequestId) payableTransactions
      transaction.serviceRequestId).mpr ⟨transaction, member, rfl⟩)
  refine ⟨last, filed, ?_⟩
  rw [isFor] at filed
  rw [bookedUnder, generateWalletTransactionLookup, filed]

theorem payee_eq_ok_iff (ownerId : Option Uuid) (owner : PayableServiceProvider) :
    payee serviceProviders ownerId = .ok owner ↔
      ∃ id, ownerId = some id ∧
        PayoutFactory.generateServiceProviderLookup serviceProviders id = some owner := by
  rw [payee, ← Option.bind_eq_some_iff]
  cases ownerId.bind (PayoutFactory.generateServiceProviderLookup serviceProviders) <;> simp

/-- The lines of a package are made when its request has a payable dispatcher. -/
theorem packageLines_eq_ok_iff (payableTransactions : List WalletTransaction)
    (serviceRequest : OrderedServiceRequest) (package : RequestedServicePackage)
    (lines : List PayoutLine) :
    packageLines payableTransactions serviceProviders serviceRequest package = .ok lines ↔
      ∃ owner booked,
        (∃ id, serviceRequest.service.dispatcherId = some id ∧
          PayoutFactory.generateServiceProviderLookup serviceProviders id = some owner) ∧
        bookedUnder payableTransactions serviceRequest.id = .ok booked ∧
        lines = List.replicate package.quantity
          (packageLine serviceRequest package owner booked) := by
  constructor
  · intro succeeds
    obtain ⟨dispatcherId, dispatched, rest⟩ := bind_eq_ok succeeds
    obtain ⟨owner, paid, rest⟩ := bind_eq_ok rest
    obtain ⟨booked, isBooked, made⟩ := bind_eq_ok rest
    obtain ⟨id, rfl, found⟩ := (payee_eq_ok_iff dispatcherId owner).mp paid
    cases made
    exact ⟨owner, booked, ⟨id, (Accounts.dispatcherOf_eq_ok_iff _ id).mp dispatched, found⟩,
      isBooked, rfl⟩
  · rintro ⟨owner, booked, ⟨id, dispatched, found⟩, isBooked, rfl⟩
    have paid := (payee_eq_ok_iff (some id) owner).mpr ⟨id, rfl, found⟩
    rw [packageLines, (Accounts.dispatcherOf_eq_ok_iff _ id).mpr dispatched]
    simp only [bind, Except.bind, paid, isBooked]
    rfl

/-! ### Rounds -/

variable {stored : Table String OrderedServiceRequest fun request => request.id}
  {transaction : WalletTransaction} {serviceRequest : OrderedServiceRequest}

theorem serviceRequestId_of_requestOf
    (request : requestOf stored transaction = some serviceRequest) :
    transaction.serviceRequestId = some serviceRequest.id := by
  obtain ⟨id, isFor, found⟩ := Option.bind_eq_some_iff.mp request
  rw [isFor, (stored.find_key found).2]

/-- The round of an income loops over the packages of its request. -/
theorem linesOf_income (member : transaction ∈ payableTransactions)
    (request : requestOf stored transaction = some serviceRequest)
    (isIncome : transaction.type = .income) :
    linesOf payableTransactions serviceProviders (foundRequests payableTransactions stored)
        transaction =
      gather (packageLines payableTransactions serviceProviders serviceRequest)
        serviceRequest.servicePackages := by
  rw [linesOf, if_pos isIncome, incomeLines, lookup_request stored member, request]

/-- The lines of a package are the one line of the dispatcher's as often as the package was
ordered. -/
theorem packageLines_replicates {last : WalletTransaction}
    (isBooked : bookedUnder payableTransactions serviceRequest.id = .ok last)
    {package : RequestedServicePackage}
    (returns :
      Returns (packageLines payableTransactions serviceProviders serviceRequest package)) :
    ∃ owner, serviceRequest.service.dispatcherId = some owner.id ∧
      resultsOf (packageLines payableTransactions serviceProviders serviceRequest package) =
        List.replicate package.quantity (packageLine serviceRequest package owner last) := by
  obtain ⟨result, makes⟩ := returns
  obtain ⟨owner, booked, ⟨id, dispatched, found⟩, isBookedToo, rfl⟩ :=
    (packageLines_eq_ok_iff _ serviceRequest package result).mp makes
  rw [isBooked] at isBookedToo
  cases isBookedToo
  refine ⟨owner, ?_, ?_⟩
  · rw [dispatched, (PayoutFactory.lookup_key found).2]
  · rw [makes]
    rfl

/-- The round of a compensation makes one line, when its owner can be paid. -/
theorem linesOf_surcharge_eq_ok_iff (lines : List PayoutLine)
    (member : transaction ∈ payableTransactions)
    (request : requestOf stored transaction = some serviceRequest)
    (notIncome : transaction.type ≠ .income) :
    linesOf payableTransactions serviceProviders (foundRequests payableTransactions stored)
        transaction = .ok lines ↔
      ∃ owner last,
        PayoutFactory.generateServiceProviderLookup serviceProviders transaction.ownerId =
            some owner ∧
          filedUnder payableTransactions transaction = some last ∧
          lines = [rescheduleSurchargeLine serviceRequest transaction owner last] := by
  obtain ⟨last, filed, isBooked⟩ :=
    bookedUnder_of_mem member (serviceRequestId_of_requestOf request)
  rw [linesOf, if_neg notIncome, rescheduleSurchargeLines, lookup_request stored member, request]
  constructor
  · intro succeeds
    obtain ⟨owner, paid, rest⟩ := bind_eq_ok succeeds
    obtain ⟨id, same, isOwner⟩ := (payee_eq_ok_iff _ owner).mp paid
    obtain ⟨booked, isBookedToo, made⟩ := bind_eq_ok rest
    cases same
    rw [isBooked] at isBookedToo
    cases isBookedToo
    cases made
    exact ⟨owner, last, isOwner, filed, rfl⟩
  · rintro ⟨owner, other, isOwner, filedToo, rfl⟩
    rw [filed] at filedToo
    cases filedToo
    have paid := (payee_eq_ok_iff (some transaction.ownerId) owner).mpr ⟨_, rfl, isOwner⟩
    simp only [paid, isBooked, bind, Except.bind]
    rfl

/-- A round finds the request of its transaction, or throws. -/
theorem requestOf_of_returns (member : transaction ∈ payableTransactions)
    (returns : Returns (linesOf payableTransactions serviceProviders
      (foundRequests payableTransactions stored) transaction)) :
    ∃ serviceRequest, requestOf stored transaction = some serviceRequest := by
  obtain missing | found := Option.eq_none_or_eq_some (requestOf stored transaction)
  · obtain ⟨lines, made⟩ := returns
    rw [linesOf, incomeLines, rescheduleSurchargeLines, lookup_request stored member,
      missing] at made
    split at made <;> cases made
  · exact found

theorem lookup_isSome (id : Uuid) :
    (PayoutFactory.generateServiceProviderLookup serviceProviders id).isSome = true ↔
      ∃ provider ∈ serviceProviders, provider.id = id :=
  index_isSome_iff _ _ _

/-- The round of a transaction whose request is stored returns unless it looks up a payee who
is not among the providers. -/
theorem linesOf_returns_iff (member : transaction ∈ payableTransactions)
    (request : requestOf stored transaction = some serviceRequest) :
    Returns (linesOf payableTransactions serviceProviders
        (foundRequests payableTransactions stored) transaction) ↔
      (needsPayee stored transaction = true → ∃ id, payeeId stored transaction = some id ∧
        ∃ provider ∈ serviceProviders, provider.id = id) := by
  obtain ⟨last, filed, isBooked⟩ :=
    bookedUnder_of_mem member (serviceRequestId_of_requestOf request)
  simp only [← lookup_isSome]
  by_cases isIncome : transaction.type = .income
  · have payee : payeeId stored transaction = serviceRequest.service.dispatcherId := by
      rw [payeeId, if_pos isIncome, request, Option.bind_some]
    have needs : needsPayee stored transaction = !serviceRequest.servicePackages.isEmpty := by
      simp [needsPayee, isIncome, request]
    rw [linesOf_income member request isIncome, payee, needs]
    constructor
    · rintro ⟨lines, made⟩ some
      obtain ⟨returns, -⟩ := (gather_eq_ok_iff _ _ _).mp made
      obtain ⟨package, inside⟩ := List.exists_mem_of_ne_nil serviceRequest.servicePackages
        (by simpa using some)
      obtain ⟨result, makes⟩ := returns package inside
      obtain ⟨owner, booked, ⟨id, dispatched, found⟩, -⟩ :=
        (packageLines_eq_ok_iff _ serviceRequest package result).mp makes
      exact ⟨id, dispatched, by rw [found]; rfl⟩
    · intro payable
      refine ⟨_, (gather_eq_ok_iff _ _ _).mpr ⟨fun package inside => ?_, rfl⟩⟩
      obtain ⟨id, dispatched, isFound⟩ := payable (by
        simpa using List.ne_nil_of_mem inside)
      obtain ⟨owner, found⟩ := Option.isSome_iff_exists.mp isFound
      exact ⟨_, (packageLines_eq_ok_iff _ serviceRequest package _).mpr
        ⟨owner, _, ⟨id, dispatched, found⟩, isBooked, rfl⟩⟩
  · have payee : payeeId stored transaction = some transaction.ownerId := by
      rw [payeeId, if_neg isIncome]
    have needs : needsPayee stored transaction = true := by simp [needsPayee, isIncome]
    rw [payee, needs]
    constructor
    · rintro ⟨lines, made⟩ -
      obtain ⟨owner, -, found, -⟩ :=
        (linesOf_surcharge_eq_ok_iff lines member request isIncome).mp made
      exact ⟨_, rfl, by rw [found]; rfl⟩
    · intro payable
      obtain ⟨id, same, isFound⟩ := payable rfl
      cases same
      obtain ⟨owner, found⟩ := Option.isSome_iff_exists.mp isFound
      exact ⟨_, (linesOf_surcharge_eq_ok_iff _ member request isIncome).mpr
        ⟨owner, last, found, filed, rfl⟩⟩

/-- Where the lines of a round are filed, whom they are made out to, and whether there are
any. -/
structure Files (payableTransactions : List WalletTransaction)
    (stored : Table String OrderedServiceRequest fun request => request.id)
    (transaction : WalletTransaction) (lines : List PayoutLine) : Prop where
  filed : ∀ line ∈ lines, ∃ last, filedUnder payableTransactions transaction = some last ∧
    line.payoutId = last.payoutId
  owner : ∀ line ∈ lines, payeeId stored transaction = some line.owner.id
  nonempty : lines ≠ [] ↔ isItemised stored transaction = true

theorem files_income {lines : List PayoutLine} (member : transaction ∈ payableTransactions)
    (request : requestOf stored transaction = some serviceRequest)
    (isIncome : transaction.type = .income)
    (made : linesOf payableTransactions serviceProviders
      (foundRequests payableTransactions stored) transaction = .ok lines) :
    Files payableTransactions stored transaction lines := by
  obtain ⟨last, filed, isBooked⟩ :=
    bookedUnder_of_mem member (serviceRequestId_of_requestOf request)
  rw [linesOf_income member request isIncome] at made
  obtain ⟨returns, rfl⟩ := (gather_eq_ok_iff _ _ _).mp made
  have packages := fun package inside =>
    packageLines_replicates isBooked (returns package inside)
  refine
    { filed := fun line inside => ⟨last, filed, ?_⟩
      owner := fun line inside => ?_
      nonempty := ?_ }
  · obtain ⟨package, packaged, ofPackage⟩ := List.mem_flatMap.mp inside
    obtain ⟨owner, -, replicated⟩ := packages package packaged
    rw [replicated] at ofPackage
    rw [List.eq_of_mem_replicate ofPackage]
    rfl
  · obtain ⟨package, packaged, ofPackage⟩ := List.mem_flatMap.mp inside
    obtain ⟨owner, dispatched, replicated⟩ := packages package packaged
    rw [replicated] at ofPackage
    rw [List.eq_of_mem_replicate ofPackage, payeeId, if_pos isIncome, request, Option.bind_some,
      dispatched]
    rfl
  · rw [isItemised, request]
    simp only [isIncome, ne_eq, not_true_eq_false, decide_false, Bool.false_or, Option.any_some,
      List.any_eq_true, decide_eq_true_eq, List.flatMap_eq_nil_iff, not_forall]
    constructor
    · rintro ⟨package, inside, some⟩
      obtain ⟨owner, -, replicated⟩ := packages package inside
      rw [replicated, List.replicate_eq_nil_iff] at some
      exact ⟨package, inside, Nat.pos_of_ne_zero some⟩
    · rintro ⟨package, inside, positive⟩
      obtain ⟨owner, -, replicated⟩ := packages package inside
      refine ⟨package, inside, ?_⟩
      rw [replicated, List.replicate_eq_nil_iff]
      exact Nat.pos_iff_ne_zero.mp positive

theorem files_surcharge {lines : List PayoutLine} (member : transaction ∈ payableTransactions)
    (request : requestOf stored transaction = some serviceRequest)
    (notIncome : transaction.type ≠ .income)
    (made : linesOf payableTransactions serviceProviders
      (foundRequests payableTransactions stored) transaction = .ok lines) :
    Files payableTransactions stored transaction lines := by
  obtain ⟨owner, last, found, filed, rfl⟩ :=
    (linesOf_surcharge_eq_ok_iff lines member request notIncome).mp made
  refine
    { filed := fun line inside => ⟨last, filed, ?_⟩
      owner := fun line inside => ?_
      nonempty := ?_ }
  · rw [List.mem_singleton.mp inside]
    rfl
  · rw [List.mem_singleton.mp inside, payeeId, if_neg notIncome]
    exact congrArg some (PayoutFactory.lookup_key found).2.symm
  · simp [isItemised, notIncome]

theorem files_of_ok {lines : List PayoutLine} (member : transaction ∈ payableTransactions)
    (made : linesOf payableTransactions serviceProviders
      (foundRequests payableTransactions stored) transaction = .ok lines) :
    Files payableTransactions stored transaction lines := by
  obtain ⟨serviceRequest, request⟩ := requestOf_of_returns member ⟨lines, made⟩
  by_cases isIncome : transaction.type = .income
  · exact files_income member request isIncome made
  · exact files_surcharge member request isIncome made

/-! ### All rounds -/

/-- The lines are made when every round of the two loops returns, and they are those of all
rounds. -/
theorem create_eq_ok_iff (lines : List PayoutLine) :
    create payableTransactions serviceProviders stored.rows = .ok lines ↔
      (∀ transaction ∈ payableTransactions.filter (·.type = .income) ++
          payableTransactions.filter (·.type = .rescheduleSurchargeCompensation),
        Returns (linesOf payableTransactions serviceProviders
          (foundRequests payableTransactions stored) transaction)) ∧
      lines = (payableTransactions.filter (·.type = .income) ++
          payableTransactions.filter (·.type = .rescheduleSurchargeCompensation)).flatMap
        fun transaction => resultsOf (linesOf payableTransactions serviceProviders
          (foundRequests payableTransactions stored) transaction) := by
  have incomes : gather (incomeLines payableTransactions serviceProviders
        (foundRequests payableTransactions stored))
      (payableTransactions.filter (·.type = .income)) =
        gather (linesOf payableTransactions serviceProviders
          (foundRequests payableTransactions stored))
          (payableTransactions.filter (·.type = .income)) := by
    refine gather_congr fun transaction member => ?_
    rw [linesOf, if_pos (by simpa using (List.mem_filter.mp member).2)]
  have surcharges : gather (rescheduleSurchargeLines payableTransactions serviceProviders
        (foundRequests payableTransactions stored))
      (payableTransactions.filter (·.type = .rescheduleSurchargeCompensation)) =
        gather (linesOf payableTransactions serviceProviders
          (foundRequests payableTransactions stored))
          (payableTransactions.filter (·.type = .rescheduleSurchargeCompensation)) := by
    refine gather_congr fun transaction member => ?_
    have isCompensation : transaction.type = .rescheduleSurchargeCompensation := by
      simpa using (List.mem_filter.mp member).2
    rw [linesOf, if_neg (by simp [isCompensation])]
  simp only [List.forall_mem_append]
  constructor
  · intro succeeds
    obtain ⟨first, isFirst, rest⟩ := bind_eq_ok succeeds
    obtain ⟨second, isSecond, joined⟩ := bind_eq_ok rest
    cases joined
    obtain ⟨firstReturns, rfl⟩ := (gather_eq_ok_iff _ _ _).mp (incomes ▸ isFirst)
    obtain ⟨secondReturns, rfl⟩ := (gather_eq_ok_iff _ _ _).mp (surcharges ▸ isSecond)
    exact ⟨⟨firstReturns, secondReturns⟩, List.flatMap_append.symm⟩
  · rintro ⟨⟨firstReturns, secondReturns⟩, rfl⟩
    have isFirst := incomes.trans ((gather_eq_ok_iff _ _ _).mpr ⟨firstReturns, rfl⟩)
    have isSecond := surcharges.trans ((gather_eq_ok_iff _ _ _).mpr ⟨secondReturns, rfl⟩)
    rw [foundRequests] at isFirst isSecond
    rw [create, List.flatMap_append]
    simp only [bind, Except.bind, foundRequests, isFirst, isSecond]
    rfl

/-- Credits are gone through in one of the two loops each. -/
theorem mem_loops_iff (credits : ∀ transaction ∈ payableTransactions,
      transaction.type = .income ∨ transaction.type = .rescheduleSurchargeCompensation)
    (transaction : WalletTransaction) :
    transaction ∈ payableTransactions.filter (·.type = .income) ++
        payableTransactions.filter (·.type = .rescheduleSurchargeCompensation) ↔
      transaction ∈ payableTransactions := by
  simp only [List.mem_append, List.mem_filter, decide_eq_true_eq]
  constructor
  · rintro (⟨member, -⟩ | ⟨member, -⟩) <;> exact member
  · intro member
    rcases credits transaction member with isIncome | isCompensation
    · exact Or.inl ⟨member, isIncome⟩
    · exact Or.inr ⟨member, isCompensation⟩

/-- Of credits the lines are made when every round returns, and a line of them is one of some
round. -/
theorem create_credits (credits : ∀ transaction ∈ payableTransactions,
      transaction.type = .income ∨ transaction.type = .rescheduleSurchargeCompensation)
    {keeps : PayoutLine → Prop} :
    (∃ lines, create payableTransactions serviceProviders stored.rows = .ok lines ∧
        ∀ line ∈ lines, keeps line) ↔
      ∀ transaction ∈ payableTransactions, ∃ lines,
        linesOf payableTransactions serviceProviders (foundRequests payableTransactions stored)
            transaction = .ok lines ∧ ∀ line ∈ lines, keeps line := by
  simp only [create_eq_ok_iff, mem_loops_iff credits]
  constructor
  · rintro ⟨lines, ⟨returns, rfl⟩, kept⟩ transaction member
    obtain ⟨results, made⟩ := returns transaction member
    refine ⟨results, made, fun line inside => kept line (List.mem_flatMap.mpr ?_)⟩
    refine ⟨transaction, (mem_loops_iff credits transaction).mpr member, ?_⟩
    rw [made]
    exact inside
  · intro rounds
    refine ⟨_, ⟨fun transaction member => ?_, rfl⟩, fun line inside => ?_⟩
    · obtain ⟨results, made, -⟩ := rounds transaction member
      exact ⟨results, made⟩
    · obtain ⟨transaction, looped, ofRound⟩ := List.mem_flatMap.mp inside
      obtain ⟨results, made, kept⟩ :=
        rounds transaction ((mem_loops_iff credits transaction).mp looped)
      rw [made] at ofRound
      exact kept line ofRound

end PayoutLineFactory

end FieldService
