/-
This file settles in which runs every payment is debited to the account of its own tenant.

The account number and the city code of a tenant are two texts that are handed on by position, from
the options to the batch, from the batch to the builder and from there to each payment. For the
second tenant the two change places on the way. So a run debits the right accounts exactly if it
uploads no bank file of that tenant, or if its account number is its city code.
-/

import FieldService.Payout.ControlTotals
import FieldService.Payout.Uploads

namespace FieldService

/-! ### The columns of a payment -/

/-- A payment in memory has in two of its fields what its record has in two of its columns. -/
theorem debit_columns (batch : PayoutBatch) (day : PaymentDay)
    (payerAccountNumber payerCityCode : String) (payout : ScbPayout) (payeeAddress : Utf16) :
    ∀ detail ∈ (ScbPaymentFile.build batch day payerAccountNumber payerCityCode
        [payout.toPayoutEntry]).details,
      let record := ScbPaymentDetailDto.record day payerAccountNumber payerCityCode payout
        payeeAddress
      ScbPaymentDetailDto.column "customerReference" record =
          some (utf16 detail.customerReference.value) ∧
        ScbPaymentDetailDto.column "debitAcNo" record = some (utf16 detail.debitAcNo) ∧
        ScbPaymentDetailDto.column "debitAcCityCode" record =
          some (utf16 detail.debitAcCityCode) := by
  intro detail member record
  obtain rfl := List.mem_singleton.mp member
  refine ⟨?_, ?_, ?_⟩ <;>
  · rw [ScbPaymentDetailDto.column_record _ _ _ _ _ (by decide +kernel)]
    simp [ScbPaymentDetailDto.assigned, List.lookup_cons]

/-! ### The file of a tenant -/

namespace PaymentState

/-- What a bank file of the tenant is given as account number and as city code. -/
def debitAccount (run : PaymentRun) : Tenant → String × String
  | .daikin =>
    ((run.tenantOptions .daikin).bankAccountNumber, (run.tenantOptions .daikin).bankAccountCityCode)
  | .acson =>
    ((run.tenantOptions .acson).bankAccountCityCode, (run.tenantOptions .acson).bankAccountNumber)

/-- A bank file of the tenant for its payouts. -/
def IsFileOf (run : PaymentRun) (tenant : Tenant) (payouts : List PayoutEntry)
    (file : ScbPaymentFile) : Prop :=
  ∃ batch : PayoutBatch, batch.principalGroup = tenant ∧
    file = .build batch run.day (debitAccount run tenant).1 (debitAccount run tenant).2
      (sievePayoutsByTenant tenant payouts)

/-- The bank file of the tenant is uploaded. -/
def SendsFileOf (run : PaymentRun) (tenant : Tenant) (payouts : List PayoutEntry)
    (payoutLines : List PayoutLineEntry) : Prop :=
  (run.batch tenant).Sends (sievePayoutsByTenant tenant payouts)
    (sievePayoutLinesByTenant tenant payoutLines)

theorem finish_bucket (work : BatchWork) (calls : BatchCalls) :
    (work.finish calls).bucket = work.state.bucket := by
  unfold BatchWork.finish
  cases calls.saveBatch <;> rfl

/-- A batch uploads the bank file of its payouts, or none. -/
theorem createPayoutBatch_bucket (state : PaymentState) (calls : BatchCalls) (batchId : Uuid)
    (day : PaymentDay) (payerAccountNumber payerCityCode : String) (payouts : List PayoutEntry)
    (payoutLines : List PayoutLineEntry) :
    ∃ files, (state.createPayoutBatch calls batchId day payerAccountNumber payerCityCode payouts
        payoutLines).1.bucket = state.bucket ++ files ∧
      (calls.Sends payouts payoutLines ↔ files ≠ []) ∧
      ∀ file ∈ files, ∃ batch : PayoutBatch,
        (∃ payout ∈ payouts, batch.principalGroup = payout.principalGroup) ∧
          file = .build batch day payerAccountNumber payerCityCode payouts := by
  by_cases opens : calls.Opens payouts payoutLines
  · obtain ⟨first, rest, rfl⟩ := List.exists_cons_of_ne_nil opens.1.1
    let work := state.batchWork batchId day first (first :: rest)
    let file := ScbPaymentFile.build work.payoutBatch day payerAccountNumber payerCityCode
      (first :: rest)
    have attempted : work.Attempted calls file payoutLines _ :=
      BatchWork.attempt_cases rfl calls day payerAccountNumber payerCityCode payoutLines
    have recovered := attempted.recovered
    rw [state.createPayoutBatch_opened _ _ _ _ _ _ opens, finish_bucket]
    by_cases sent : Returns calls.uploadScbPaymentFile
    · refine ⟨[file], recovered.sent sent, iff_of_true ⟨opens, sent⟩ (List.cons_ne_nil _ _), ?_⟩
      intro other member
      rw [List.mem_singleton.mp member]
      exact ⟨work.payoutBatch, ⟨first, List.mem_cons_self, rfl⟩, rfl⟩
    · refine ⟨[], (recovered.unsent sent).trans (List.append_nil _).symm, ?_, ?_⟩
      · exact iff_of_false (fun sends => sent sends.2) (not_not.mpr rfl)
      · exact fun other member => absurd member List.not_mem_nil
  · refine ⟨[], ?_, ?_, fun other member => absurd member List.not_mem_nil⟩
    · rw [state.createPayoutBatch_unopened _ _ _ _ _ _ _ opens, List.append_nil]
    · exact iff_of_false (fun sends => opens sends.1) (not_not.mpr rfl)

theorem createBatchOf_bucket (state : PaymentState) (run : PaymentRun) (tenant : Tenant)
    (payouts : List PayoutEntry) (payoutLines : List PayoutLineEntry) :
    ∃ files, (state.createBatchOf run tenant payouts payoutLines).1.bucket =
        state.bucket ++ files ∧
      (SendsFileOf run tenant payouts payoutLines ↔ files ≠ []) ∧
      ∀ file ∈ files, IsFileOf run tenant payouts file := by
  have same : state.createBatchOf run tenant payouts payoutLines =
      state.createPayoutBatch (run.batch tenant) (run.batchId tenant) run.day
        (debitAccount run tenant).1 (debitAccount run tenant).2
        (sievePayoutsByTenant tenant payouts) (sievePayoutLinesByTenant tenant payoutLines) := by
    cases tenant <;> rfl
  obtain ⟨files, bucket, sends, built⟩ := state.createPayoutBatch_bucket (run.batch tenant)
    (run.batchId tenant) run.day (debitAccount run tenant).1 (debitAccount run tenant).2
    (sievePayoutsByTenant tenant payouts) (sievePayoutLinesByTenant tenant payoutLines)
  rw [same]
  refine ⟨files, bucket, sends, fun file member => ?_⟩
  obtain ⟨batch, ⟨payout, inside, ofPayout⟩, isBuilt⟩ := built file member
  refine ⟨batch, ofPayout.trans ?_, isBuilt⟩
  exact of_decide_eq_true (List.mem_filter.mp inside).2

/-! ### Runs -/

/-- The payments of the file are for scheduled payouts of its tenant, and debited to the account of
that tenant. -/
structure DebitsOwner (run : PaymentRun) (state : PaymentState) (file : ScbPaymentFile) : Prop where
  debitAcNo : ∀ detail ∈ file.details,
    detail.debitAcNo = (run.tenantOptions file.principalGroup).bankAccountNumber
  debitAcCityCode : ∀ detail ∈ file.details,
    detail.debitAcCityCode = (run.tenantOptions file.principalGroup).bankAccountCityCode
  own : ∀ detail ∈ file.details, ∃ payout ∈ state.scheduledPayouts,
    payout.id = detail.customerReference ∧ payout.principalGroup = file.principalGroup

/-- The bank files the run uploads are debited to the accounts of their tenants. -/
def DebitsOwners (state : PaymentState) (run : PaymentRun) : Prop :=
  ∀ files, (state.generateAndUploadPaymentFiles run).1.bucket = state.bucket ++ files →
    ∀ file ∈ files, DebitsOwner run state file

/-- The run gets as far as the second tenant, and uploads a bank file for it. -/
def SendsAcson (state : PaymentState) (run : PaymentRun) : Prop :=
  ∃ payouts payoutLines, state.picked run = .ok (payouts, payoutLines) ∧
    ¬(run.batch .daikin).Throws (sievePayoutsByTenant .daikin payouts)
      (sievePayoutLinesByTenant .daikin payoutLines) ∧
    SendsFileOf run .acson payouts payoutLines

section

variable {state : PaymentState} {run : PaymentRun} {file : ScbPaymentFile}

/-- A file of the tenant debits the account it is given. -/
theorem IsFileOf.details {tenant : Tenant} {payouts : List PayoutEntry}
    (isFile : IsFileOf run tenant payouts file) :
    file.principalGroup = tenant ∧ ∀ detail ∈ file.details,
      detail.debitAcNo = (debitAccount run tenant).1 ∧
        detail.debitAcCityCode = (debitAccount run tenant).2 ∧
        ∃ payout ∈ payouts, payout.id = detail.customerReference ∧
          payout.principalGroup = tenant := by
  obtain ⟨batch, ofTenant, rfl⟩ := isFile
  refine ⟨ofTenant, fun detail member => ?_⟩
  obtain ⟨payout, sieved, rfl⟩ := List.mem_map.mp member
  obtain ⟨inside, own⟩ := List.mem_filter.mp sieved
  exact ⟨rfl, rfl, payout, inside, rfl, of_decide_eq_true own⟩

theorem IsFileOf.debitsOwner {tenant : Tenant}
    (isFile : IsFileOf run tenant state.scheduledPayouts file)
    (right : debitAccount run tenant = ((run.tenantOptions tenant).bankAccountNumber,
      (run.tenantOptions tenant).bankAccountCityCode)) : DebitsOwner run state file := by
  obtain ⟨ofTenant, details⟩ := isFile.details
  rw [right] at details
  constructor
  · rw [ofTenant]
    exact fun detail member => (details detail member).1
  · rw [ofTenant]
    exact fun detail member => (details detail member).2.1
  · rw [ofTenant]
    exact fun detail member => (details detail member).2.2

variable (state run) in
/-- What a run uploads are files of its tenants for their scheduled payouts. -/
theorem generateAndUploadPaymentFiles_bucket :
    ∃ files, (state.generateAndUploadPaymentFiles run).1.bucket = state.bucket ++ files ∧
      (∀ file ∈ files, ∃ tenant, IsFileOf run tenant state.scheduledPayouts file) ∧
      ((∃ file ∈ files, IsFileOf run .acson state.scheduledPayouts file) ↔
        state.SendsAcson run) := by
  unfold generateAndUploadPaymentFiles SendsAcson
  cases picks : state.picked run with
  | error error =>
    exact ⟨[], (List.append_nil _).symm, fun file member => absurd member List.not_mem_nil, by simp⟩
  | ok both =>
    obtain ⟨payouts, payoutLines⟩ := both
    obtain ⟨rfl, -⟩ := state.picked_eq_ok run picks
    obtain ⟨files, bucket, -, ofDaikin⟩ := state.createBatchOf_bucket run .daikin
      state.scheduledPayouts payoutLines
    have throws := (state.createBatchOf_effect run .daikin payoutLines
      (state.sieve_distinct .daikin)).throws
    have none : ¬∃ file ∈ files, IsFileOf run .acson state.scheduledPayouts file := by
      rintro ⟨file, member, ofAcson⟩
      have isDaikin := (ofDaikin file member).details.1
      rw [ofAcson.details.1] at isDaikin
      cases isDaikin
    rcases made : state.createBatchOf run .daikin state.scheduledPayouts payoutLines with
      ⟨after, error⟩
    rw [made] at bucket throws
    simp only [made]
    cases error with
    | some error =>
      refine ⟨files, bucket, fun file member => ⟨.daikin, ofDaikin file member⟩, ?_⟩
      refine iff_of_false none ?_
      rintro ⟨_, _, ⟨⟩, succeeds, -⟩
      exact succeeds (throws.mp (Option.some_ne_none _))
    | none =>
      obtain ⟨later, bucketLater, sends, ofAcson⟩ := after.createBatchOf_bucket run .acson
        state.scheduledPayouts payoutLines
      refine ⟨files ++ later, ?_, fun file member => ?_, ?_⟩
      · rw [bucketLater, bucket, List.append_assoc]
      · obtain first | second := List.mem_append.mp member
        · exact ⟨.daikin, ofDaikin file first⟩
        · exact ⟨.acson, ofAcson file second⟩
      · constructor
        · rintro ⟨file, member, isFile⟩
          have inLater := (List.mem_append.mp member).resolve_left fun earlier =>
            none ⟨file, earlier, isFile⟩
          exact ⟨_, _, rfl, fun threw => throws.mpr threw rfl,
            sends.mpr (List.ne_nil_of_mem inLater)⟩
        · rintro ⟨_, _, ⟨⟩, -, sent⟩
          obtain ⟨file, member⟩ := List.exists_mem_of_ne_nil _ (sends.mp sent)
          exact ⟨file, List.mem_append_right _ member, ofAcson file member⟩

end

/-- The payments a run uploads are debited to the accounts of their own tenants if and only if the
account number of the second tenant is its city code, or no bank file is uploaded for it. -/
theorem debitsOwners_iff (state : PaymentState) (run : PaymentRun) :
    state.DebitsOwners run ↔ (state.SendsAcson run →
      (run.tenantOptions .acson).bankAccountNumber =
        (run.tenantOptions .acson).bankAccountCityCode) := by
  obtain ⟨files, bucket, ofTenants, acson⟩ := state.generateAndUploadPaymentFiles_bucket run
  constructor
  · intro debits sends
    obtain ⟨file, member, isFile⟩ := acson.mpr sends
    obtain ⟨payouts, payoutLines, picks, -, opens, -⟩ := sends
    obtain ⟨rfl, -⟩ := state.picked_eq_ok run picks
    have paid : file.details ≠ [] := by
      obtain ⟨batch, -, rfl⟩ := isFile
      exact fun unpaid => opens.1.1 (List.map_eq_nil_iff.mp unpaid)
    obtain ⟨detail, inside⟩ := List.exists_mem_of_ne_nil _ paid
    obtain ⟨ofAcson, details⟩ := isFile.details
    have debited := (debits files bucket file member).debitAcNo detail inside
    rw [ofAcson, (details detail inside).1] at debited
    exact debited.symm
  · intro right others same file member
    obtain rfl := List.append_cancel_left (bucket.symm.trans same)
    obtain ⟨tenant, isFile⟩ := ofTenants file member
    refine isFile.debitsOwner ?_
    cases tenant with
    | daikin => rfl
    | acson =>
      rw [debitAccount, right (acson.mp ⟨file, member, isFile⟩)]

/-- Two tenants with different accounts. -/
def exampleTenantOptions : Tenant → TenantOptions
  | .daikin => ⟨"794146964118", "KUL"⟩
  | .acson => ⟨"312144578901", "PEN"⟩

/-- A scheduled payout of the second tenant, with its line. -/
def exampleAcsonState : PaymentState :=
  ⟨⟨[{ ScheduledBatch.exampleEntry with principalGroup := .acson }], by simp⟩,
    ⟨[{ ScheduledBatch.exampleEntryLine with principalGroup := .acson }], by simp⟩, .empty, [], []⟩

/-- The city code is written where the account number belongs. -/
theorem not_debitsOwners_acson :
    ¬exampleAcsonState.DebitsOwners
      { exampleRun (.ok "summary") exampleBatchId with
        tenantOptions := exampleTenantOptions } := by
  intro debits
  have debited := (debits _ rfl _ List.mem_cons_self).debitAcNo _ List.mem_cons_self
  revert debited
  decide +kernel

end PaymentState

end FieldService
