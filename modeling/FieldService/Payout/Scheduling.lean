/-
This file settles when the scheduling of payouts is all or nothing.

The payouts are saved first, and with them the transactions they are made of. The lines are
made afterwards, and a line can miss what it needs: its service request, a payee with a bank,
or a payout it is filed under. An error at that point leaves the payouts and the transactions
as they have been saved, and the transactions are no longer found by the next run.
-/

import FieldService.Payout.Accounting
import FieldService.Payout.Progress

namespace FieldService

open Table

/-! ### Providers that can be paid -/

/-- A column that is neither null nor empty. -/
def isFilled (column : Option String) : Bool :=
  column.any (· ≠ "")

/-- The account has what a payment to it needs. -/
def Bank.isPayable (bank : Bank) : Bool :=
  isFilled bank.accountHolderName && isFilled bank.accountNumber && isFilled bank.bankName &&
    isFilled bank.swiftCode

/-! ### Rows -/

/-- A row of `payouts` with what the scheduling and the payment files read and write of it. -/
structure PayoutEntry extends PayoutRow where
  bank : Bank
  owner : PayableServiceProvider
  payoutBatchId : Option Uuid
  deriving DecidableEq, Repr

/-- A row of `payout_lines`. -/
structure PayoutLineEntry extends PayoutLine where
  id : Uuid
  status : PayoutStatusEnum
  payoutBatchId : Option Uuid
  deriving DecidableEq, Repr

/-- The identifiers the lines of a run are saved under. -/
structure PayoutLineIds where
  of : Nat → Uuid
  distinct : Function.Injective of

/-- The row of a new payout. The status and the processed amount are the defaults of their
columns. -/
def NewPayout.toEntry (ids : PayoutIds) (payout : NewPayout) : PayoutEntry where
  id := payout.id ids
  amount := payout.amount
  ownerId := payout.owner.id
  principalGroup := payout.principalGroup
  status := .scheduled
  processedAmount := 0
  bank := payout.bank
  owner := payout.owner
  payoutBatchId := none

/-- The transactions of a payout once it has been saved. -/
def NewPayout.attached (ids : PayoutIds) (payout : NewPayout) : List WalletTransaction :=
  payout.walletTransactions.map fun transaction =>
    { transaction with payoutId := some (payout.id ids) }

/-- The rows of new lines. -/
def PayoutLineEntry.fromLines (lineIds : PayoutLineIds) (payoutLines : List PayoutLine) :
    List PayoutLineEntry :=
  payoutLines.zipIdx.map fun line =>
    { toPayoutLine := line.1, id := lineIds.of line.2, status := .scheduled, payoutBatchId := none }

/-- No two of the rows have the same identifier. -/
theorem PayoutLineEntry.fromLines_distinct (lineIds : PayoutLineIds)
    (payoutLines : List PayoutLine) : ((fromLines lineIds payoutLines).map (·.id)).Nodup := by
  have numbered : (fromLines lineIds payoutLines).map (·.id) =
      (payoutLines.zipIdx.map Prod.snd).map lineIds.of := by
    rw [fromLines, List.map_map, List.map_map]
    rfl
  rw [numbered, List.zipIdx_map_snd]
  exact List.Nodup.map lineIds.distinct List.nodup_range'

/-- `PayoutSaga.payoutScheduled`: the command for the event that a payout is scheduled. -/
def payoutScheduled (payoutId : Uuid) : WalletCommand :=
  .holdBalanceForPayout payoutId

/-! ### Scheduling -/

/-- The tables, and the commands that have been made of published events. -/
structure PayoutDatabase where
  transactions : Table Nat WalletTransaction (·.id)
  serviceProviders : Table Uuid PayableServiceProvider (·.id)
  serviceRequests : Table String OrderedServiceRequest fun serviceRequest => serviceRequest.id
  payouts : Table Uuid PayoutEntry (·.id)
  payoutLines : Table Uuid PayoutLineEntry (·.id)
  commands : List WalletCommand

/-- What the awaited calls fail with, `none` for those that succeed. -/
structure SchedulingCalls where
  getDebitableTransactionsForPayout : Option AppError
  getPayableServiceProviders : Option AppError
  savePayouts : Option AppError
  getBulkServiceRequests : Option AppError
  savePayoutLines : Option AppError
  deriving DecidableEq, Repr

/-- What the first of the calls up to the saving of the payouts to fail fails with. -/
def SchedulingCalls.beforeSaved (calls : SchedulingCalls) : Option AppError :=
  calls.getDebitableTransactionsForPayout <|> calls.getPayableServiceProviders <|>
    calls.savePayouts

/-- A call that is awaited. -/
def awaited : Option AppError → Except AppError Unit
  | none => .ok ()
  | some error => .error error

theorem awaited_eq_ok_iff (failure : Option AppError) :
    awaited failure = .ok () ↔ failure = none := by
  cases failure <;> simp [awaited]

namespace PayoutDatabase

variable (database : PayoutDatabase)

def findDebitableTransactionsForPayout : List WalletTransaction :=
  database.transactions.rows.filter (·.isDebitable)

def getPayableServiceProviders (ids : List Uuid) : List PayableServiceProvider :=
  database.serviceProviders.rows.filter fun provider =>
    ids.contains provider.id && provider.bank.isPayable

/-- The providers a run can pay. -/
def payees : List PayableServiceProvider :=
  database.getPayableServiceProviders
    (database.findDebitableTransactionsForPayout.map (·.ownerId))

/-- The payouts a run makes. -/
def newPayouts : List NewPayout :=
  PayoutFactory.create database.findDebitableTransactionsForPayout database.payees

/-- The transactions after the payouts have been saved, as the line factory is given them. -/
def carried (ids : PayoutIds) : List WalletTransaction :=
  database.findDebitableTransactionsForPayout.map (·.carry ids database.payees)

/-- Saves payouts, and with them their transactions. -/
def savePayouts (ids : PayoutIds) (payouts : List NewPayout) : PayoutDatabase :=
  { database with
    payouts := database.payouts.saveAll (payouts.map (·.toEntry ids))
    transactions := database.transactions.saveAll (payouts.flatMap (·.attached ids)) }

/-- Saves lines. The column of the payout is not nullable, so one line without a payout keeps
all of them from being saved. -/
def savePayoutLines (lineIds : PayoutLineIds) (payoutLines : List PayoutLine) :
    Except AppError PayoutDatabase :=
  if payoutLines.all (·.payoutId.isSome) then
    .ok { database with
      payoutLines :=
        database.payoutLines.saveAll (PayoutLineEntry.fromLines lineIds payoutLines) }
  else .error (.error "null value in column \"payout_id\" violates not-null constraint")

/-- The second half of a run: the lines are made and saved. -/
def scheduleLines (calls : SchedulingCalls) (lineIds : PayoutLineIds)
    (transactions : List WalletTransaction) (serviceProviders : List PayableServiceProvider) :
    Except AppError PayoutDatabase := do
  awaited calls.getBulkServiceRequests
  let payoutLines ←
    PayoutLineFactory.create transactions serviceProviders database.serviceRequests.rows
  awaited calls.savePayoutLines
  database.savePayoutLines lineIds payoutLines

/-- `schedulePayoutsFromWalletTransactions`: the database it leaves, and the payouts it returns
or what it throws. -/
def schedulePayoutsFromWalletTransactions (calls : SchedulingCalls) (ids : PayoutIds)
    (lineIds : PayoutLineIds) : PayoutDatabase × Except AppError (List NewPayout) :=
  match calls.beforeSaved with
  | some error => (database, .error error)
  | none =>
    let payouts := database.newPayouts
    let saved := database.savePayouts ids payouts
    match saved.scheduleLines calls lineIds (database.carried ids) database.payees with
    | .error error => (saved, .error error)
    | .ok itemised =>
      ({ itemised with
          commands := itemised.commands ++
            payouts.map fun payout => payoutScheduled (payout.id ids) },
        .ok payouts)

/-! ### All or nothing -/

/-- No payout has been saved and no transaction attached to one. -/
structure Untouched (before after : PayoutDatabase) : Prop where
  payouts : after.payouts = before.payouts
  transactions : after.transactions = before.transactions

/-- The payouts are saved with all the lines of the run, and held for. -/
structure Scheduled (before after : PayoutDatabase) (ids : PayoutIds) (lineIds : PayoutLineIds)
    (payouts : List NewPayout) : Prop where
  saved : ∀ payout ∈ payouts, payout.toEntry ids ∈ after.payouts.rows
  itemised : ∃ payoutLines,
    PayoutLineFactory.create (before.carried ids) before.payees before.serviceRequests.rows =
        .ok payoutLines ∧
      ∀ entry ∈ PayoutLineEntry.fromLines lineIds payoutLines, entry ∈ after.payoutLines.rows
  held : ∀ payout ∈ payouts, payoutScheduled (payout.id ids) ∈ after.commands

/-- A run that throws leaves nothing behind, and one that returns leaves everything. -/
def AllOrNothing (calls : SchedulingCalls) (ids : PayoutIds) (lineIds : PayoutLineIds) : Prop :=
  let run := database.schedulePayoutsFromWalletTransactions calls ids lineIds
  match run.2 with
  | .error _ => database.Untouched run.1
  | .ok payouts => database.Scheduled run.1 ids lineIds payouts

/-- What is needed to make the lines of a transaction and to save them: its service request,
a payee for the lines it has, and a payout for the transaction they are filed under. -/
structure Itemisable (transaction : WalletTransaction) : Prop where
  requested : ∃ serviceRequest ∈ database.serviceRequests.rows,
    transaction.serviceRequestId = some serviceRequest.id
  payable : PayoutLineFactory.needsPayee database.serviceRequests transaction = true →
    ∃ id, PayoutLineFactory.payeeId database.serviceRequests transaction = some id ∧
      ∃ provider ∈ database.payees, provider.id = id
  filed : PayoutLineFactory.isItemised database.serviceRequests transaction = true →
    ∀ last ∈ PayoutLineFactory.filedUnder database.findDebitableTransactionsForPayout transaction,
      last.isPayable database.payees = true

/-- The condition under which a run is all or nothing: when it comes to save a payout, nothing
after that fails. -/
def Completes (calls : SchedulingCalls) : Prop :=
  calls.beforeSaved = none →
    (∃ transaction ∈ database.findDebitableTransactionsForPayout,
      transaction.isPayable database.payees = true) →
    (calls.getBulkServiceRequests = none ∧ calls.savePayoutLines = none) ∧
      ∀ transaction ∈ database.findDebitableTransactionsForPayout, database.Itemisable transaction

/-! ### Payouts that are saved -/

variable {database}

theorem debitable_of_mem {transaction : WalletTransaction}
    (member : transaction ∈ database.findDebitableTransactionsForPayout) :
    transaction ∈ database.transactions.rows ∧ transaction.isDebitable = true :=
  List.mem_filter.mp member

variable (database) in
/-- No two payouts of a run have the same identifier. -/
theorem newPayouts_distinct (ids : PayoutIds) :
    ((database.newPayouts.map (·.toEntry ids)).map (·.id)).Nodup := by
  rw [List.map_map, List.Nodup, List.pairwise_map]
  refine (PayoutFactory.create_distinct _ _).imp fun different same => different ?_
  exact PayoutFactory.groupId_injective (ids.distinct same)

variable (database) in
/-- No two transactions of the payouts of a run have the same identifier. -/
theorem attached_distinct (ids : PayoutIds) :
    ((database.newPayouts.flatMap (·.attached ids)).map (·.id)).Nodup := by
  have sameIds : (database.newPayouts.flatMap (·.attached ids)).map (·.id) =
      (database.newPayouts.flatMap (·.walletTransactions)).map (·.id) := by
    rw [List.map_flatMap, List.map_flatMap]
    refine List.flatMap_congr fun payout _ => ?_
    rw [NewPayout.attached, List.map_map]
    rfl
  rw [sameIds, newPayouts, ((PayoutFactory.create_perm _ _).map _).nodup_iff]
  exact database.transactions.distinct.sublist
    ((List.filter_sublist.trans List.filter_sublist).map _)

/-- A payout is made of at least one transaction, whose owner can be paid. -/
theorem exists_transaction {payout : NewPayout} (member : payout ∈ database.newPayouts) :
    ∃ transaction ∈ payout.walletTransactions,
      transaction ∈ database.findDebitableTransactionsForPayout ∧
        transaction.isPayable database.payees = true := by
  obtain ⟨group, grouped, made⟩ := PayoutFactory.mem_create member
  obtain ⟨transaction, inside⟩ := List.exists_mem_of_ne_nil _
    ((Grouping.mem_collect PayoutFactory.groupId _ group).mp grouped).2
  refine ⟨transaction, made.transactions ▸ inside, (PayoutFactory.groupId_of_mem grouped inside).1,
    (isPayable_iff _ _).mpr ⟨payout.owner, made.owner, ?_⟩⟩
  exact (made.homogeneous _ inside).1.symm

/-- A run that has no payout to save leaves the tables as they are. -/
theorem newPayouts_eq_nil
    (unpayable : ¬∃ transaction ∈ database.findDebitableTransactionsForPayout,
      transaction.isPayable database.payees = true) : database.newPayouts = [] := by
  refine List.eq_nil_iff_forall_not_mem.mpr fun payout member => unpayable ?_
  obtain ⟨transaction, -, found, payable⟩ := exists_transaction member
  exact ⟨transaction, found, payable⟩

/-- A payout that is saved takes its transactions out of those the next run finds. -/
theorem transactions_savePayouts_ne (ids : PayoutIds)
    (payable : ∃ transaction ∈ database.findDebitableTransactionsForPayout,
      transaction.isPayable database.payees = true) :
    (database.savePayouts ids database.newPayouts).transactions ≠ database.transactions := by
  obtain ⟨transaction, found, isPayable⟩ := payable
  obtain ⟨payout, created, inside⟩ :=
    (PayoutFactory.mem_some_payout_iff _ database.payees found).mpr isPayable
  obtain ⟨row, debitable⟩ := debitable_of_mem found
  intro same
  have saved : { transaction with payoutId := some (payout.id ids) } ∈
      (database.savePayouts ids database.newPayouts).transactions.rows :=
    database.transactions.mem_saveAll_of_mem (database.attached_distinct ids)
      (List.mem_flatMap.mpr ⟨payout, created, List.mem_map_of_mem inside⟩)
  rw [same] at saved
  have sameRow := List.inj_on_of_nodup_map database.transactions.distinct saved row rfl
  have attached := congrArg WalletTransaction.payoutId sameRow
  rw [WalletTransaction.isDebitable, ← attached] at debitable
  simp at debitable

/-! ### Lines that are saved -/

/-- A transaction that was debitable carries a payout exactly if its owner can be paid. -/
theorem payoutId_carry (ids : PayoutIds) {transaction : WalletTransaction}
    (found : transaction ∈ database.findDebitableTransactionsForPayout) :
    (transaction.carry ids database.payees).payoutId.isSome = true ↔
      transaction.isPayable database.payees = true := by
  obtain ⟨-, debitable⟩ := debitable_of_mem found
  have unpaid : transaction.payoutId = none := by
    simp only [WalletTransaction.isDebitable, Bool.and_eq_true] at debitable
    simpa using debitable.2
  rw [WalletTransaction.carry]
  split
  · rename_i payable
    exact iff_of_true rfl payable
  · rename_i unpayable
    rw [unpaid]
    exact iff_of_false (by simp) unpayable

/-- The lines a round makes of a transaction are filed under payouts exactly if what they are
filed under can be paid. -/
theorem filed_iff (ids : PayoutIds) {transaction : WalletTransaction} {lines : List PayoutLine}
    (files : PayoutLineFactory.Files (database.carried ids) database.serviceRequests
      (transaction.carry ids database.payees) lines) :
    (∀ line ∈ lines, line.payoutId.isSome = true) ↔
      (PayoutLineFactory.isItemised database.serviceRequests transaction = true →
        ∀ last ∈ PayoutLineFactory.filedUnder database.findDebitableTransactionsForPayout
          transaction, last.isPayable database.payees = true) := by
  obtain ⟨-, -, -, itemised⟩ :=
    Settlement.carry_reads database.payees ids database.serviceRequests transaction
  have lastFound : ∀ last ∈ PayoutLineFactory.filedUnder
      database.findDebitableTransactionsForPayout transaction,
      last ∈ database.findDebitableTransactionsForPayout := fun last filed =>
    (Grouping.index_key filed).1
  have filedLines : ∀ line ∈ lines, ∃ last, PayoutLineFactory.filedUnder
      database.findDebitableTransactionsForPayout transaction = some last ∧
        line.payoutId = (last.carry ids database.payees).payoutId := by
    intro line inside
    obtain ⟨last, filed, booked⟩ := files.filed line inside
    rw [carried, Settlement.filedUnder_carry] at filed
    obtain ⟨original, isFiled, rfl⟩ := Option.map_eq_some_iff.mp filed
    exact ⟨original, isFiled, booked⟩
  rw [← itemised, ← files.nonempty]
  constructor
  · intro kept some last filed
    obtain ⟨line, inside⟩ := List.exists_mem_of_ne_nil lines some
    obtain ⟨other, sameFiled, booked⟩ := filedLines line inside
    cases filed.symm.trans sameFiled
    rw [← payoutId_carry ids (lastFound last filed), ← booked]
    exact kept line inside
  · intro payable line inside
    obtain ⟨last, filed, booked⟩ := filedLines line inside
    rw [booked, payoutId_carry ids (lastFound last filed)]
    exact payable (List.ne_nil_of_mem inside) last filed

/-- The lines of a transaction are made, with a payout each, exactly if it is itemisable. -/
theorem linesOf_iff_itemisable (ids : PayoutIds) {transaction : WalletTransaction}
    (member : transaction ∈ database.findDebitableTransactionsForPayout) :
    (∃ lines, PayoutLineFactory.linesOf (database.carried ids) database.payees
          (PayoutLineFactory.foundRequests (database.carried ids) database.serviceRequests)
          (transaction.carry ids database.payees) = .ok lines ∧
        ∀ line ∈ lines, line.payoutId.isSome = true) ↔
      database.Itemisable transaction := by
  have carriedMember : transaction.carry ids database.payees ∈ database.carried ids :=
    List.mem_map_of_mem member
  obtain ⟨sameRequest, samePayee, sameNeeds, -⟩ :=
    Settlement.carry_reads database.payees ids database.serviceRequests transaction
  constructor
  · rintro ⟨lines, made, kept⟩
    obtain ⟨serviceRequest, request⟩ :=
      PayoutLineFactory.requestOf_of_returns carriedMember ⟨lines, made⟩
    have payable := (PayoutLineFactory.linesOf_returns_iff carriedMember request).mp ⟨lines, made⟩
    have isFor := PayoutLineFactory.serviceRequestId_of_requestOf request
    rw [sameRequest] at request
    obtain ⟨id, requested, found⟩ := Option.bind_eq_some_iff.mp request
    exact
      { requested := ⟨serviceRequest, (database.serviceRequests.find_key found).1,
          PayoutLineFactory.serviceRequestId_of_requestOf request⟩
        payable := by rwa [samePayee, sameNeeds] at payable
        filed := (filed_iff ids (PayoutLineFactory.files_of_ok carriedMember made)).mp
          kept }
  · rintro ⟨⟨serviceRequest, stored, isFor⟩, payable, filed⟩
    have request : PayoutLineFactory.requestOf database.serviceRequests
        (transaction.carry ids database.payees) = some serviceRequest := by
      rw [sameRequest, PayoutLineFactory.requestOf, isFor]
      exact database.serviceRequests.find_of_mem stored
    obtain ⟨lines, made⟩ := (PayoutLineFactory.linesOf_returns_iff carriedMember request).mpr
      (by rwa [samePayee, sameNeeds])
    exact ⟨lines, made,
      (filed_iff ids (PayoutLineFactory.files_of_ok carriedMember made)).mpr filed⟩

theorem carried_credits (ids : PayoutIds) : ∀ transaction ∈ database.carried ids,
    transaction.type = .income ∨ transaction.type = .rescheduleSurchargeCompensation := by
  rintro carried member
  obtain ⟨transaction, found, rfl⟩ := List.mem_map.mp member
  rw [(Settlement.carry_keeps database.payees ids transaction).2.2.2.1]
  exact Settlement.type_of_debitable (debitable_of_mem found).2

/-- The second half of a run returns when its calls do and every line has a payout, and then
it has saved all lines. -/
theorem scheduleLines_eq_ok_iff (calls : SchedulingCalls) (ids : PayoutIds)
    (lineIds : PayoutLineIds) (payouts : List NewPayout) (after : PayoutDatabase) :
    (database.savePayouts ids payouts).scheduleLines calls lineIds (database.carried ids)
        database.payees = .ok after ↔
      (calls.getBulkServiceRequests = none ∧ calls.savePayoutLines = none) ∧
        ∃ lines, PayoutLineFactory.create (database.carried ids) database.payees
            database.serviceRequests.rows = .ok lines ∧
          (∀ line ∈ lines, line.payoutId.isSome = true) ∧
          after = { database.savePayouts ids payouts with
            payoutLines :=
              database.payoutLines.saveAll (PayoutLineEntry.fromLines lineIds lines) } := by
  constructor
  · intro succeeds
    obtain ⟨⟨⟩, found, rest⟩ := bind_eq_ok succeeds
    obtain ⟨lines, made, rest⟩ := bind_eq_ok rest
    obtain ⟨⟨⟩, written, kept⟩ := bind_eq_ok rest
    rw [savePayoutLines] at kept
    split at kept
    · rename_i all
      cases kept
      exact ⟨⟨(awaited_eq_ok_iff _).mp found, (awaited_eq_ok_iff _).mp written⟩, lines, made,
        List.all_eq_true.mp all, rfl⟩
    · cases kept
  · rintro ⟨⟨found, written⟩, lines, made, all, rfl⟩
    have madeToo : PayoutLineFactory.create (database.carried ids) database.payees
        (database.savePayouts ids payouts).serviceRequests.rows = .ok lines := made
    rw [scheduleLines, found, written, madeToo]
    simp only [awaited, bind, Except.bind, savePayoutLines, List.all_eq_true.mpr all, if_true]
    rfl

/-- The second half of a run returns exactly if its calls do and every transaction is
itemisable. -/
theorem scheduleLines_returns_iff (calls : SchedulingCalls) (ids : PayoutIds)
    (lineIds : PayoutLineIds) (payouts : List NewPayout) :
    Returns ((database.savePayouts ids payouts).scheduleLines calls lineIds (database.carried ids)
        database.payees) ↔
      (calls.getBulkServiceRequests = none ∧ calls.savePayoutLines = none) ∧
        ∀ transaction ∈ database.findDebitableTransactionsForPayout,
          database.Itemisable transaction := by
  have itemised : (∃ lines, PayoutLineFactory.create (database.carried ids) database.payees
        database.serviceRequests.rows = .ok lines ∧
          ∀ line ∈ lines, line.payoutId.isSome = true) ↔
      ∀ transaction ∈ database.findDebitableTransactionsForPayout,
        database.Itemisable transaction := by
    rw [PayoutLineFactory.create_credits (carried_credits ids), carried, List.forall_mem_map]
    exact forall₂_congr fun transaction found => linesOf_iff_itemisable ids found
  rw [← itemised, Returns]
  simp only [scheduleLines_eq_ok_iff]
  constructor
  · rintro ⟨after, called, lines, made, all, -⟩
    exact ⟨called, lines, made, all⟩
  · rintro ⟨called, lines, made, all⟩
    exact ⟨_, called, lines, made, all, rfl⟩

/-! ### Runs -/

theorem run_of_failed {calls : SchedulingCalls} {error : AppError}
    (failed : calls.beforeSaved = some error) (ids : PayoutIds) (lineIds : PayoutLineIds) :
    database.schedulePayoutsFromWalletTransactions calls ids lineIds =
      (database, .error error) := by
  rw [schedulePayoutsFromWalletTransactions, failed]

theorem run_of_throws {calls : SchedulingCalls} {ids : PayoutIds} {lineIds : PayoutLineIds}
    {error : AppError} (reached : calls.beforeSaved = none)
    (throws : (database.savePayouts ids database.newPayouts).scheduleLines calls lineIds
      (database.carried ids) database.payees = .error error) :
    database.schedulePayoutsFromWalletTransactions calls ids lineIds =
      (database.savePayouts ids database.newPayouts, .error error) := by
  rw [schedulePayoutsFromWalletTransactions, reached]
  simp only [throws]

/-- A run whose second half returns has scheduled its payouts. -/
theorem scheduled_of_returns {calls : SchedulingCalls} {ids : PayoutIds}
    {lineIds : PayoutLineIds} {itemised : PayoutDatabase} (reached : calls.beforeSaved = none)
    (returns : (database.savePayouts ids database.newPayouts).scheduleLines calls lineIds
      (database.carried ids) database.payees = .ok itemised) :
    database.AllOrNothing calls ids lineIds := by
  obtain ⟨-, lines, made, -, rfl⟩ := (scheduleLines_eq_ok_iff ..).mp returns
  rw [AllOrNothing, schedulePayoutsFromWalletTransactions, reached]
  simp only [returns]
  refine
    { saved := fun payout member => ?_
      itemised := ⟨lines, made, fun entry member => ?_⟩
      held := fun payout member => ?_ }
  · exact database.payouts.mem_saveAll_of_mem (database.newPayouts_distinct ids)
      (List.mem_map_of_mem member)
  · exact database.payoutLines.mem_saveAll_of_mem (PayoutLineEntry.fromLines_distinct lineIds lines)
      member
  · exact List.mem_append_right _ (List.mem_map_of_mem member)

/-- A run is all or nothing exactly if nothing fails after it has saved a payout. -/
theorem allOrNothing_iff (database : PayoutDatabase) (calls : SchedulingCalls) (ids : PayoutIds)
    (lineIds : PayoutLineIds) :
    database.AllOrNothing calls ids lineIds ↔ database.Completes calls := by
  cases reached : calls.beforeSaved with
  | some error =>
    refine iff_of_true ?_ fun unreached => ?_
    · rw [AllOrNothing, run_of_failed reached]
      exact ⟨rfl, rfl⟩
    · rw [reached] at unreached
      cases unreached
  | none =>
    rw [Completes, reached, ← scheduleLines_returns_iff calls ids lineIds database.newPayouts]
    cases ended : (database.savePayouts ids database.newPayouts).scheduleLines calls lineIds
        (database.carried ids) database.payees with
    | ok itemised => exact iff_of_true (scheduled_of_returns reached ended) fun _ _ => ⟨_, rfl⟩
    | error error =>
      rw [AllOrNothing, run_of_throws reached ended]
      constructor
      · rintro ⟨-, sameTransactions⟩ - payable
        exact absurd sameTransactions (transactions_savePayouts_ne ids payable)
      · intro returns
        have nothing := newPayouts_eq_nil fun payable => by
          obtain ⟨result, impossible⟩ := returns rfl payable
          cases impossible
        rw [nothing]
        exact ⟨rfl, rfl⟩

/-- A provider with a bank account. -/
def examplePayee : PayableServiceProvider :=
  { Settlement.exampleProvider Settlement.exampleEarner with
    bank := ⟨some "Bank", some "Earner", some "1234567890", none, none, none, some "SCBLMYKX"⟩ }

/-- The impacted provider has given no bank yet. -/
def exampleDatabase : PayoutDatabase where
  transactions := ⟨Settlement.exampleTransactions, by decide⟩
  serviceProviders :=
    ⟨[examplePayee, Settlement.exampleProvider Settlement.exampleImpacted], by decide⟩
  serviceRequests := Settlement.exampleServiceRequests
  payouts := .empty
  payoutLines := .empty
  commands := []

def exampleSchedulingCalls : SchedulingCalls := ⟨none, none, none, none, none⟩

def examplePayoutLineIds : PayoutLineIds where
  of number := ⟨String.ofList (List.replicate (number + 1) 'l'), by simp [List.replicate_succ]⟩
  distinct := fun first second same => by
    simpa using congrArg (fun id => id.value.toList.length) same

/-- No call fails, but a line has no payee: the run throws when a payout has been saved. -/
theorem not_allOrNothing_example :
    ¬ exampleDatabase.AllOrNothing exampleSchedulingCalls Settlement.examplePayoutIds
      examplePayoutLineIds := by
  have throws : (exampleDatabase.schedulePayoutsFromWalletTransactions exampleSchedulingCalls
      Settlement.examplePayoutIds examplePayoutLineIds).2 =
        .error (.error "Cannot read property 'getBankInfo' of undefined") := by
    decide +kernel
  have saves : (exampleDatabase.schedulePayoutsFromWalletTransactions exampleSchedulingCalls
      Settlement.examplePayoutIds examplePayoutLineIds).1.payouts.rows ≠ [] := by
    decide +kernel
  intro holds
  simp only [AllOrNothing, throws] at holds
  exact saves (congrArg Table.rows holds.payouts)

end PayoutDatabase

end FieldService
