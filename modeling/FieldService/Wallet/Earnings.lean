/-
This file models the summaries of what a service provider has earned, and proves what they show
after any run of the wallet's commands and of the scheduling of payouts.

The query reads the incomes of a period, and groups them by the day, the week or the month they
were saved in, by the clock of Kuala Lumpur. What it answers about a period that is over stays the
same (`summarises_run`), and over all time it agrees with the wallet (`total_add_compensated`).
-/

import FieldService.Library.Calendar
import FieldService.Wallet.Tracing

namespace FieldService

open Execution Table Grouping Dates

/-! ### The transactions and their clock -/

/-- An instant of the database's clock, in microseconds since the epoch. -/
abbrev Timestamp := ℤ

/-- The accounts, and the `created_at` of each transaction. -/
structure WalletTransactionRepository where
  accounts : Accounts
  createdAt : Nat → Timestamp

/-- An action, and what the database's clock shows when a transaction is inserted. -/
structure TimedAction where
  action : AccountsAction
  clock : Nat → Timestamp

/-! ### Summaries -/

inductive GroupByDate where
  | day
  | month
  | week
  | toDate
  deriving DecidableEq, Repr

def GroupByDate.value : GroupByDate → String
  | .day => "DAY"
  | .month => "MONTH"
  | .week => "WEEK"
  | .toDate => "TO_DATE"

/-- The member of the enumeration a text is the value of. -/
def GroupByDate.ofValue (text : String) : Option GroupByDate :=
  [GroupByDate.day, .month, .week, .toDate].find? (·.value = text)

/-- The fields the query truncates a date to. -/
inductive DateField where
  | day
  | week
  | month
  deriving DecidableEq, Repr

def DateField.groupBy : DateField → GroupByDate
  | .day => .day
  | .week => .week
  | .month => .month

/-- `date_trunc`, of a date. -/
def dateTrunc : DateField → ℤ → ℤ
  | .day, day => day
  | .week, day => weeks.truncate day
  | .month, day => months.truncate day

/-- The days of `Asia/Kuala_Lumpur`, which is eight hours ahead. -/
def localDays : Division :=
  .regular 86400000000 28800000000 (by decide)

/-- `timezone('Asia/Kuala_Lumpur', created_at)::date`. -/
def localDate (createdAt : Timestamp) : ℤ :=
  localDays.unitOf createdAt

/-- `timezone('Asia/Kuala_Lumpur', date)`: the midnight the date begins with. -/
def utcDate (date : ℤ) : Timestamp :=
  localDays.begins date

/-- The columns of an income that the query reads. -/
structure Income where
  ownerId : Uuid
  createdAt : Timestamp
  amount : Money
  deriving DecidableEq, Repr

/-- The income was saved in a period, both ends included, which are in milliseconds. -/
def Income.isWithin (fromDate toDate : Time) (income : Income) : Bool :=
  fromDate * 1000 ≤ income.createdAt && income.createdAt ≤ toDate * 1000

structure EarningSummaryRow where
  amount : Money
  date : Option Timestamp
  deriving DecidableEq, Repr

structure EarningSummary where
  rows : List EarningSummaryRow
  total : Money
  deriving DecidableEq, Repr

/-- `EarningSummaryDto.from`. -/
def EarningSummary.fromRows (rows : List EarningSummaryRow) : EarningSummary where
  rows := rows
  total := rows.foldl (fun sum row => sum + row.amount) 0

namespace WalletTransactionRepository

variable (repository : WalletTransactionRepository)

def empty : WalletTransactionRepository := ⟨.empty, fun _ => 0⟩

/-- One step. A transaction that is saved again keeps its `created_at`. -/
def perform (timed : TimedAction) : WalletTransactionRepository where
  accounts := repository.accounts.perform timed.action
  createdAt id :=
    if (repository.accounts.transactions.find id).isSome then repository.createdAt id
    else timed.clock id

/-- The incomes of an owner. -/
def incomes (ownerId : Uuid) : List Income :=
  (repository.accounts.transactions.rows.filter fun transaction =>
    transaction.type = .income && transaction.ownerId = ownerId).map fun transaction =>
      ⟨transaction.ownerId, repository.createdAt transaction.id, transaction.amount⟩

/-- The query of a period. The order of its rows is left open, and is that of the first incomes
here. -/
def findGroupedSummary (ownerId : Uuid) (fromDate toDate : Time) (field : DateField) :
    EarningSummary :=
  let groups := collect (fun income : Income => dateTrunc field (localDate income.createdAt))
    ((repository.incomes ownerId).filter (·.isWithin fromDate toDate))
  .fromRows (groups.map fun group =>
    { amount := (group.2.map (·.amount)).sum
      date := some (utcDate group.1) })

/-- The query without a period selects no date. -/
def findToDateEarningSummary (ownerId : Uuid) : EarningSummary :=
  .fromRows ((collect (·.ownerId) (repository.incomes ownerId)).map fun group =>
    { amount := (group.2.map (·.amount)).sum
      date := none })

def findEarningSummary (ownerId : Uuid) (fromDate toDate : Time) (groupBy : String) :
    Except AppError EarningSummary :=
  match GroupByDate.ofValue groupBy with
  | some .day => .ok (repository.findGroupedSummary ownerId fromDate toDate .day)
  | some .week => .ok (repository.findGroupedSummary ownerId fromDate toDate .week)
  | some .month => .ok (repository.findGroupedSummary ownerId fromDate toDate .month)
  | some .toDate => .ok (repository.findToDateEarningSummary ownerId)
  | none => .error (.error ("Unknown GroupByDate filter: " ++ groupBy))

end WalletTransactionRepository

/-! ### What a summary says -/

/-- The units of a field, on the clock of Kuala Lumpur. -/
def DateField.division : DateField → Division
  | .day => localDays
  | .week => localDays.grouped weeks
  | .month => localDays.grouped months

/-- The income was saved in a unit. -/
def Income.isIn (division : Division) (unit : ℤ) (income : Income) : Bool :=
  division.begins unit ≤ income.createdAt && income.createdAt < division.begins (unit + 1)

/-- There is a row for each unit with an income in it, dated to its beginning and worth all the
incomes in it. -/
structure EarningSummary.Summarises (summary : EarningSummary) (division : Division)
    (incomes : List Income) : Prop where
  dates : (summary.rows.map (·.date)).Nodup
  mem_iff : ∀ row, row ∈ summary.rows ↔ ∃ unit, row.date = some (division.begins unit) ∧
    (∃ income ∈ incomes, income.isIn division unit = true) ∧
      row.amount = sumWhere (·.isIn division unit) (·.amount) incomes
  total : summary.total = (incomes.map (·.amount)).sum

theorem utcDate_dateTrunc (field : DateField) (createdAt : Timestamp) :
    utcDate (dateTrunc field (localDate createdAt)) = field.division.truncate createdAt := by
  cases field <;> rfl

/-- Incomes of the same unit have the same truncated date. -/
theorem dateTrunc_eq_iff (field : DateField) (income : Income) {unit date : ℤ}
    (begins : utcDate date = field.division.begins unit) :
    dateTrunc field (localDate income.createdAt) = date ↔
      income.isIn field.division unit = true := by
  rw [Income.isIn, Bool.and_eq_true, decide_eq_true_iff, decide_eq_true_iff,
    ← Division.truncate_eq_begins_iff, ← utcDate_dateTrunc, ← begins]
  exact localDays.begins_injective.eq_iff.symm

/-- The incomes with a truncated date are worth those of the unit it begins. -/
theorem sum_filter_dateTrunc (field : DateField) (incomes : List Income) {unit date : ℤ}
    (begins : utcDate date = field.division.begins unit) :
    ((incomes.filter fun income => dateTrunc field (localDate income.createdAt) = date).map
      (·.amount)).sum = sumWhere (·.isIn field.division unit) (·.amount) incomes := by
  rw [sumWhere]
  congr 2
  refine List.filter_congr fun income _ => ?_
  rw [Bool.eq_iff_iff, decide_eq_true_iff]
  exact dateTrunc_eq_iff field income begins

/-- However the rows are dated, the total of grouped incomes is the sum of them all. -/
theorem EarningSummary.total_fromRows {Key : Type} [DecidableEq Key] (key : Income → Key)
    (date : Key → Option Timestamp) (incomes : List Income) :
    (EarningSummary.fromRows ((collect key incomes).map fun group =>
      { amount := (group.2.map (·.amount)).sum
        date := date group.1 })).total = (incomes.map (·.amount)).sum := by
  show List.foldl _ _ _ = _
  rw [foldl_add_eq_sum, List.map_map]
  exact sum_collect _ _ _

theorem summarises_grouped (field : DateField) (incomes : List Income) :
    (EarningSummary.fromRows
      ((collect (fun income : Income => dateTrunc field (localDate income.createdAt))
        incomes).map fun group =>
          { amount := (group.2.map (·.amount)).sum
            date := some (utcDate group.1) })).Summarises field.division incomes where
  dates := by
    show (List.map _ (List.map _ _)).Nodup
    rw [List.map_map]
    have distinct := (collect_keys_nodup
      (fun income : Income => dateTrunc field (localDate income.createdAt)) incomes).map
        ((Option.some_injective _).comp localDays.begins_injective)
    rwa [List.map_map] at distinct
  mem_iff row := by
    show row ∈ List.map _ _ ↔ _
    rw [List.mem_map]
    constructor
    · rintro ⟨⟨date, group⟩, grouped, rfl⟩
      obtain ⟨holds, nonempty⟩ := (mem_collect _ incomes _).mp grouped
      obtain ⟨income, inside⟩ := List.exists_mem_of_ne_nil _ nonempty
      rw [holds] at inside
      obtain ⟨member, same⟩ := List.mem_filter.mp inside
      have truncated : dateTrunc field (localDate income.createdAt) = date := of_decide_eq_true same
      have begins : utcDate date =
          field.division.begins (field.division.unitOf income.createdAt) := by
        rw [← truncated, utcDate_dateTrunc]
        rfl
      refine ⟨_, congrArg some begins,
        ⟨income, member, (dateTrunc_eq_iff field income begins).mp truncated⟩, ?_⟩
      exact (congrArg (fun group => (group.map (·.amount)).sum) holds).trans
        (sum_filter_dateTrunc field incomes begins)
    · rintro ⟨unit, date, ⟨income, member, isIn⟩, amount⟩
      obtain ⟨start, truncated⟩ : ∃ start, dateTrunc field (localDate income.createdAt) = start :=
        ⟨_, rfl⟩
      have begins : utcDate start = field.division.begins unit := by
        rw [← truncated, utcDate_dateTrunc, Division.truncate_eq_begins_iff]
        simpa [Income.isIn] using isIn
      refine ⟨(start, incomes.filter fun other =>
        dateTrunc field (localDate other.createdAt) = start), (mem_collect _ incomes _).mpr
          ⟨rfl, List.ne_nil_of_mem (List.mem_filter.mpr ⟨member, decide_eq_true truncated⟩)⟩, ?_⟩
      obtain ⟨worth, dated⟩ := row
      rw [EarningSummaryRow.mk.injEq]
      exact ⟨(sum_filter_dateTrunc field incomes begins).trans amount.symm,
        (congrArg some begins).trans date.symm⟩
  total := EarningSummary.total_fromRows _ (fun date => some (utcDate date)) incomes

/-! ### What has been saved stays -/

/-- What no action changes of a transaction that has been saved. -/
structure TransactionEntry where
  id : Nat
  type : WalletTransactionType
  ownerId : Uuid
  amount : Money

def WalletTransaction.entry (transaction : WalletTransaction) : TransactionEntry :=
  ⟨transaction.id, transaction.type, transaction.ownerId, transaction.amount⟩

namespace Accounts

variable (accounts : Accounts)

def entries : List TransactionEntry :=
  accounts.transactions.rows.map (·.entry)

/-- All that was saved is still there, before what has been saved since. -/
def IsKeptBy (after : Accounts) : Prop :=
  accounts.entries <+: after.entries

variable {accounts}

theorem entry_keyed (first second : WalletTransaction) (same : first.entry = second.entry) :
    first.id = second.id :=
  congrArg TransactionEntry.id same

theorem isKeptBy_record_of_new {wallet : Wallet} {transaction : WalletTransaction}
    (new : accounts.transactions.find transaction.id = none) :
    accounts.IsKeptBy (accounts.record (wallet, transaction)) := by
  show _ <+: (accounts.transactions.save transaction).rows.map _
  rw [accounts.transactions.rows_save_of_find_eq_none new, List.map_append]
  exact List.prefix_append _ _

theorem isKeptBy_record_of_mem {wallet : Wallet} {transaction : WalletTransaction}
    (saved : transaction.entry ∈ accounts.entries) :
    accounts.IsKeptBy (accounts.record (wallet, transaction)) := by
  show _ <+: (accounts.transactions.save transaction).rows.map _
  rw [accounts.transactions.map_save_of_mem entry_keyed saved]
  exact List.prefix_rfl

theorem isKeptBy_credit {type : WalletTransactionType} {amount : ServiceRequest → Money}
    {owner : Option Uuid} {serviceRequest : ServiceRequest} {after : Accounts}
    (succeeds : accounts.credit
      (fun id wallet serviceRequest =>
        WalletTransaction.forServiceRequest type (amount serviceRequest) id wallet serviceRequest)
      owner serviceRequest = .ok after) : accounts.IsKeptBy after := by
  rcases owner with _ | owner
  · cases succeeds
  cases succeeds
  exact isKeptBy_record_of_new accounts.transactions.find_next

theorem isKeptBy_holdBalanceForPayout {payoutId : Uuid} {after : Accounts}
    (succeeds : accounts.holdBalanceForPayout payoutId = .ok after) :
    accounts.IsKeptBy after := by
  obtain ⟨payout, -, held⟩ := bind_eq_ok succeeds
  dsimp only at held
  split at held
  · cases held
    exact List.prefix_rfl
  split at held
  · cases held
    exact List.prefix_rfl
  cases held
  exact isKeptBy_record_of_new accounts.transactions.find_next

theorem isKeptBy_releaseBalanceForPayout {payoutId : Uuid} {after : Accounts}
    (succeeds : accounts.releaseBalanceForPayout payoutId = .ok after) :
    accounts.IsKeptBy after := by
  rcases releaseBalanceForPayout_cases succeeds with
    ⟨-, rfl⟩ | ⟨-, payout, wallet, transaction, -, -, pending, rfl⟩
  · exact List.prefix_rfl
  · exact isKeptBy_record_of_mem (List.mem_map.mpr ⟨transaction, (pending_type pending).1, rfl⟩)

/-- No action changes or removes what has been saved. -/
theorem isKeptBy_perform (action : AccountsAction) :
    accounts.IsKeptBy (accounts.perform action) := by
  cases action with
  | handle command isHandler =>
    refine step_keeps (fun before serviceRequest after kept _ credited => ?_)
      (fun before serviceRequest after kept _ credited => ?_)
      (fun before payoutId after kept held => ?_)
      (fun before payoutId after kept released => ?_) isHandler (fun _ _ => trivial)
      List.prefix_rfl
    · obtain ⟨owner, -, credited⟩ := bind_eq_ok credited
      exact kept.trans (isKeptBy_credit credited)
    · exact kept.trans (isKeptBy_credit credited)
    · exact kept.trans (isKeptBy_holdBalanceForPayout held)
    · exact kept.trans (isKeptBy_releaseBalanceForPayout released)
  | schedulePayoutsFromWalletTransactions serviceProviders ids =>
    show accounts.IsKeptBy (if accounts.areFresh ids (accounts.newPayouts serviceProviders) then
      accounts.scheduled ids serviceProviders else accounts)
    split
    · show _ <+: (accounts.transactions.saveAll (accounts.attached ids serviceProviders)).rows.map _
      rw [accounts.transactions.map_saveAll_of_mem entry_keyed]
      · exact List.prefix_rfl
      intro row member
      obtain ⟨payout, created, old, inside, rfl⟩ := (mem_attached accounts).mp member
      exact List.mem_map.mpr
        ⟨old, (accounts.debitable_of_newPayout serviceProviders created inside).1, rfl⟩
    · exact List.prefix_rfl

end Accounts

/-! ### The incomes of a run -/

namespace WalletTransactionRepository

variable (repository : WalletTransactionRepository)

theorem incomes_eq (ownerId : Uuid) :
    repository.incomes ownerId =
      (repository.accounts.entries.filter fun entry =>
        entry.type = .income && entry.ownerId = ownerId).map fun entry =>
          ⟨entry.ownerId, repository.createdAt entry.id, entry.amount⟩ := by
  rw [incomes, Accounts.entries, List.filter_map, List.map_map]
  rfl

/-- An action leaves the incomes as they are, and adds those it saves. -/
theorem incomes_perform (timed : TimedAction) (ownerId : Uuid) :
    ∃ later, (repository.perform timed).incomes ownerId = repository.incomes ownerId ++ later ∧
      ∀ income ∈ later, ∃ id, income.createdAt = timed.clock id := by
  obtain ⟨new, extended⟩ :=
    repository.accounts.isKeptBy_perform timed.action
  have distinct : ((repository.accounts.entries ++ new).map (·.id)).Nodup := by
    rw [extended, Accounts.entries, List.map_map]
    exact (repository.accounts.perform timed.action).transactions.distinct
  rw [List.map_append, List.nodup_append] at distinct
  rw [incomes_eq, incomes_eq, show (repository.perform timed).accounts.entries = _ from
    extended.symm, List.filter_append, List.map_append]
  refine ⟨_, congrArg (· ++ _) (List.map_congr_left fun entry member => ?_), ?_⟩
  · obtain ⟨transaction, stored, rfl⟩ := List.mem_map.mp (List.mem_filter.mp member).1
    have found : repository.accounts.transactions.find transaction.entry.id = some transaction :=
      repository.accounts.transactions.find_of_mem stored
    simp only [perform, found, Option.isSome_some, if_true]
  · intro income member
    obtain ⟨entry, inside, rfl⟩ := List.mem_map.mp member
    refine ⟨entry.id, if_neg fun known => ?_⟩
    obtain ⟨transaction, found⟩ := Option.isSome_iff_exists.mp known
    obtain ⟨stored, same⟩ := repository.accounts.transactions.find_key found
    exact distinct.2.2 entry.id
      (List.mem_map.mpr ⟨transaction.entry, List.mem_map_of_mem stored, same⟩) entry.id
      (List.mem_map_of_mem (List.mem_filter.mp inside).1) rfl

theorem incomes_run (actions : List TimedAction) (ownerId : Uuid) :
    ∃ later, (run perform repository actions).incomes ownerId =
        repository.incomes ownerId ++ later ∧
      ∀ income ∈ later, ∃ timed ∈ actions, ∃ id, income.createdAt = timed.clock id := by
  induction actions generalizing repository with
  | nil => exact ⟨[], (List.append_nil _).symm, by simp⟩
  | cons timed rest inductionHypothesis =>
    obtain ⟨first, performed, firstSaved⟩ := repository.incomes_perform timed ownerId
    obtain ⟨later, ran, laterSaved⟩ := inductionHypothesis (repository.perform timed)
    refine ⟨first ++ later, ?_, fun income member => ?_⟩
    · rw [run_cons, ran, performed, List.append_assoc]
    · obtain isFirst | isLater := List.mem_append.mp member
      · exact ⟨timed, List.mem_cons_self, firstSaved income isFirst⟩
      · obtain ⟨other, isOther, saved⟩ := laterSaved income isLater
        exact ⟨other, List.mem_cons_of_mem _ isOther, saved⟩

theorem accounts_run (actions : List TimedAction) :
    (run perform repository actions).accounts =
      run Accounts.perform repository.accounts (actions.map (·.action)) := by
  induction actions generalizing repository with
  | nil => rfl
  | cons timed rest inductionHypothesis => exact inductionHypothesis (repository.perform timed)

/-! ### What the summaries show -/

theorem findEarningSummary_field (ownerId : Uuid) (fromDate toDate : Time) (field : DateField) :
    repository.findEarningSummary ownerId fromDate toDate field.groupBy.value =
      .ok (repository.findGroupedSummary ownerId fromDate toDate field) := by
  cases field <;> rfl

theorem incomes_empty (ownerId : Uuid) : empty.incomes ownerId = [] := rfl

/-- Over a period with all incomes in it, every grouping has the same total. -/
theorem exists_total (ownerId : Uuid) (fromDate toDate : Time) (groupBy : GroupByDate)
    (within : ∀ income ∈ repository.incomes ownerId, income.isWithin fromDate toDate = true) :
    ∃ summary : EarningSummary,
      repository.findEarningSummary ownerId fromDate toDate groupBy.value = .ok summary ∧
        summary.total = ((repository.incomes ownerId).map (·.amount)).sum := by
  have grouped (field : DateField) :
      (repository.findGroupedSummary ownerId fromDate toDate field).total =
        ((repository.incomes ownerId).map (·.amount)).sum := by
    rw [findGroupedSummary, List.filter_eq_self.mpr within]
    exact EarningSummary.total_fromRows _ (fun date => some (utcDate date)) _
  cases groupBy with
  | day => exact ⟨_, rfl, grouped .day⟩
  | week => exact ⟨_, rfl, grouped .week⟩
  | month => exact ⟨_, rfl, grouped .month⟩
  | toDate => exact ⟨_, rfl, EarningSummary.total_fromRows _ (fun _ => none) _⟩

/-- What an owner has been credited with is income or compensation. -/
theorem earned_eq (traced : repository.accounts.Traced) (ownerId : Uuid) :
    repository.accounts.earned ownerId =
      ((repository.incomes ownerId).map (·.amount)).sum +
        repository.accounts.amountOf (·.type = .rescheduleSurchargeCompensation) ownerId := by
  refine (sumWhere_split _ (fun transaction => decide (transaction.type = .income)) _ _).trans ?_
  have income (transaction : WalletTransaction)
      (member : transaction ∈ repository.accounts.transactions.rows) :
      ((transaction.wallet = ownerId && decide (transaction.type ≠ .payout)) &&
          decide (transaction.type = .income)) =
        (decide (transaction.type = .income) && decide (transaction.ownerId = ownerId)) := by
    rw [(traced.owned transaction member).1]
    by_cases type : transaction.type = .income <;> simp [type]
  have compensation (transaction : WalletTransaction)
      (member : transaction ∈ repository.accounts.transactions.rows) :
      ((transaction.wallet = ownerId && decide (transaction.type ≠ .payout)) &&
          !decide (transaction.type = .income)) =
        (transaction.wallet = ownerId &&
          decide (transaction.type = .rescheduleSurchargeCompensation)) := by
    obtain type | type | type := traced.kind transaction member <;> simp [type]
  rw [sumWhere_congr _ income, sumWhere_congr _ compensation, incomes, List.map_map]
  rfl

/-- Whatever the grouping, what an owner is shown as earned, and what compensations came in
besides, is in the wallet or has been paid out. -/
theorem total_add_compensated (actions : List TimedAction) (ownerId : Uuid)
    (fromDate toDate : Time) (groupBy : GroupByDate)
    (within : ∀ timed ∈ actions, ∀ id,
      fromDate * 1000 ≤ timed.clock id ∧ timed.clock id ≤ toDate * 1000) :
    ∃ summary : EarningSummary,
      (run perform empty actions).findEarningSummary ownerId fromDate toDate groupBy.value =
          .ok summary ∧
        summary.total + (run perform empty actions).accounts.amountOf
            (·.type = .rescheduleSurchargeCompensation) ownerId =
          (run perform empty actions).accounts.availableBalance ownerId +
            (run perform empty actions).accounts.holdBalance ownerId +
              (run perform empty actions).accounts.inStage .released ownerId := by
  have traced : (run perform empty actions).accounts.Traced := by
    rw [accounts_run]
    exact Accounts.traced_run _
  obtain ⟨summary, found, total⟩ :=
    (run perform empty actions).exists_total ownerId fromDate toDate groupBy fun income member => by
      obtain ⟨saved, ran, stamped⟩ := empty.incomes_run actions ownerId
      rw [ran, incomes_empty, List.nil_append] at member
      obtain ⟨timed, isAction, id, createdAt⟩ := stamped income member
      simpa [Income.isWithin, createdAt] using within timed isAction id
  refine ⟨summary, found, ?_⟩
  rw [total, ← earned_eq _ traced]
  exact (traced.accountsFor ownerId).earned

/-- The first of March 2020 at eight in the morning, and a month later. -/
def exampleActions : List TimedAction :=
  Accounts.exampleCredits.map fun action => ⟨action, fun _ => 1583020800000000⟩

def exampleLaterActions : List TimedAction :=
  Accounts.exampleCredits.map fun action => ⟨action, fun _ => 1585699200000000⟩

/-- A compensation is not among what is shown as earned. -/
theorem total_add_compensated_example :
    (run perform empty exampleActions).findToDateEarningSummary Settlement.exampleImpacted =
        ⟨[], 0⟩ ∧
      (run perform empty exampleActions).accounts.availableBalance Settlement.exampleImpacted =
        30 ∧
      ∃ summary : EarningSummary,
        (run perform empty exampleActions).findEarningSummary Settlement.exampleImpacted
            1580515200000 1583107200000 GroupByDate.week.value = .ok summary ∧
          summary.total + (run perform empty exampleActions).accounts.amountOf
              (·.type = .rescheduleSurchargeCompensation) Settlement.exampleImpacted =
            (run perform empty exampleActions).accounts.availableBalance
                Settlement.exampleImpacted +
              (run perform empty exampleActions).accounts.holdBalance
                  Settlement.exampleImpacted +
                (run perform empty exampleActions).accounts.inStage .released
                  Settlement.exampleImpacted :=
  ⟨by decide +kernel, by decide +kernel, total_add_compensated exampleActions _ _ _ .week
    fun timed member id => by
      obtain ⟨action, -, rfl⟩ := List.mem_map.mp member
      dsimp only
      decide⟩

/-- A period that is over is summarised the same for ever, by the incomes saved in it. -/
theorem summarises_run (earlier later : List TimedAction) (ownerId : Uuid)
    (fromDate toDate : Time) (field : DateField)
    (ended : ∀ timed ∈ later, ∀ id, toDate * 1000 < timed.clock id) :
    ∃ summary : EarningSummary,
      (run perform empty earlier).findEarningSummary ownerId fromDate toDate field.groupBy.value =
          .ok summary ∧
        (run perform empty (earlier ++ later)).findEarningSummary ownerId fromDate toDate
            field.groupBy.value = .ok summary ∧
          summary.Summarises field.division
            (((run perform empty earlier).incomes ownerId).filter
              (·.isWithin fromDate toDate)) := by
  obtain ⟨new, ran, saved⟩ :=
    (run perform empty earlier).incomes_run later ownerId
  have none : new.filter (·.isWithin fromDate toDate) = [] := by
    refine List.filter_eq_nil_iff.mpr fun income member => ?_
    obtain ⟨timed, isLater, id, createdAt⟩ := saved income member
    have after := ended timed isLater id
    simp [Income.isWithin, createdAt, after]
  refine ⟨_, findEarningSummary_field _ ownerId fromDate toDate field, ?_,
    summarises_grouped field _⟩
  rw [run_append, findEarningSummary_field, findGroupedSummary, ran, List.filter_append, none,
    List.append_nil]
  rfl

/-- The month began at four in the afternoon of the 29th of February, in Universal Time. -/
theorem summarises_run_march :
    (run perform empty (exampleActions ++ exampleLaterActions)).findGroupedSummary
        Settlement.exampleEarner 1580515200000 1583107200000 .month =
          ⟨[⟨100, some 1582992000000000⟩], 100⟩ ∧
      ∃ summary : EarningSummary,
        (run perform empty exampleActions).findEarningSummary Settlement.exampleEarner
            1580515200000 1583107200000 DateField.month.groupBy.value = .ok summary ∧
          (run perform empty (exampleActions ++ exampleLaterActions)).findEarningSummary
              Settlement.exampleEarner 1580515200000 1583107200000
              DateField.month.groupBy.value = .ok summary ∧
            summary.Summarises DateField.month.division
              (((run perform empty exampleActions).incomes Settlement.exampleEarner).filter
                (·.isWithin 1580515200000 1583107200000)) :=
  ⟨by decide +kernel, summarises_run exampleActions exampleLaterActions _ _ _ .month
    fun timed member id => by
      obtain ⟨action, -, rfl⟩ := List.mem_map.mp member
      dsimp only
      decide⟩

end WalletTransactionRepository

end FieldService
