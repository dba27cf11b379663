/-
This file models the payment files: a run picks the scheduled payouts, and for each tenant it
makes a batch, uploads three files, and moves the batch, its payouts and their lines on.

The batch and its payouts are objects that are changed in memory first and written at the end,
whatever has happened in between, so the work on a batch is given by both: what is stored and
what is in memory at the point where the work has stopped. Every call that is awaited can
fail. The formatting of dates is not part of the repository, so the current day is given in
the formats the files use.
-/

import FieldService.Payout.Scheduling

namespace FieldService

open Table

/-! ### Batches and files -/

/-- The transfer status of a batch. -/
inductive PayoutBatchStatusEnum where
  | failed
  | inTransit
  | paid
  | partiallyPaid
  | scheduled
  deriving DecidableEq, Repr

/-- The current day, as batches, names of files and payments give it. -/
structure PaymentDay where
  date : String
  compactDate : String
  paymentDate : String
  deriving DecidableEq, Repr

/-- A row of `payout_batches`. What went wrong is kept as the error, not as its text. -/
structure PayoutBatch where
  id : Uuid
  date : String
  principalGroup : Tenant
  dailyRunningCount : Nat
  payoutIds : List Uuid
  totalRecords : Nat
  totalAmount : Money
  status : PayoutBatchStatusEnum
  scbPaymentFileUrl : Option String
  payoutSummaryFileUrl : Option String
  payoutLinesFileUrl : Option String
  err : Option AppError
  deriving DecidableEq, Repr

/-- A `P` record: one payment. -/
structure ScbPaymentDetail where
  customerReference : Uuid
  debitAcNo : String
  debitAcCityCode : String
  paymentDate : String
  payeeName : Option String
  payeeBankCode : Option String
  beneficiaryAcNo : Option String
  invoiceOrGrossAmount : Money
  deriving DecidableEq, Repr

/-- A bank file. The tenant, the day and the running count make its name. -/
structure ScbPaymentFile where
  principalGroup : Tenant
  compactDate : String
  dailyRunningCount : Nat
  details : List ScbPaymentDetail
  invoiceReference : Uuid
  totalNumberOfRecords : Nat
  totalInvoiceAmount : Money
  deriving DecidableEq, Repr

def getPaymentAmount (payouts : List PayoutEntry) : Money :=
  payouts.foldl (fun sum payout => sum + payout.amount) 0

/-- `new PayoutBatch`, of payouts the first of which gives the principal group. -/
def PayoutBatch.create (id : Uuid) (first : PayoutEntry) (payouts : List PayoutEntry)
    (dailyRunningCount : Nat) (day : PaymentDay) : PayoutBatch where
  id := id
  date := day.date
  principalGroup := first.principalGroup
  dailyRunningCount := dailyRunningCount
  payoutIds := payouts.map (·.id)
  totalRecords := payouts.length
  totalAmount := getPaymentAmount payouts
  status := .scheduled
  scbPaymentFileUrl := none
  payoutSummaryFileUrl := none
  payoutLinesFileUrl := none
  err := none

def PayoutBatch.paymentFileUploadFailed (err : AppError) (batch : PayoutBatch) : PayoutBatch :=
  { batch with status := .failed, err := some err }

/-- The batch with the locations of its files, in `setUploadedPaymentFiles`. -/
def PayoutBatch.withFiles (scbPaymentFileUrl payoutSummaryFileUrl payoutLinesFileUrl : String)
    (batch : PayoutBatch) : PayoutBatch :=
  { batch with
    scbPaymentFileUrl := some scbPaymentFileUrl
    payoutSummaryFileUrl := some payoutSummaryFileUrl
    payoutLinesFileUrl := some payoutLinesFileUrl
    status := .inTransit }

def PayoutEntry.paymentFileUploaded (payout : PayoutEntry) : PayoutEntry :=
  { payout with status := .inTransit }

/-- The line in the batch, in `payoutBatchInTransit`. -/
def PayoutLineEntry.inBatch (batchId : Uuid) (line : PayoutLineEntry) : PayoutLineEntry :=
  { line with payoutBatchId := some batchId, status := .inTransit }

def PayoutLineEntry.payoutBatchInTransit (batchId : Uuid) (line : PayoutLineEntry) :
    Except AppError PayoutLineEntry :=
  if line.status ≠ .scheduled then
    .error (.error
      ("Payout line not in correct state to be marked as in-transit, id: " ++ line.id.value))
  else .ok (line.inBatch batchId)

theorem payoutBatchInTransit_eq_ok_iff (batchId : Uuid) (line moved : PayoutLineEntry) :
    line.payoutBatchInTransit batchId = .ok moved ↔
      line.status = .scheduled ∧ moved = line.inBatch batchId := by
  rw [PayoutLineEntry.payoutBatchInTransit]
  split
  · rename_i other
    exact iff_of_false (by simp) fun both => other both.1
  · rename_i scheduled
    rw [Except.ok.injEq, eq_comm]
    exact (and_iff_right (not_not.mp scheduled)).symm

/-- What an account of the payer is known by. -/
structure TenantOptions where
  bankAccountNumber : String
  bankAccountCityCode : String
  deriving DecidableEq, Repr

/-- The records of `ScbPaymentRecordsBuilder` for a batch. -/
def ScbPaymentFile.build (batch : PayoutBatch) (day : PaymentDay)
    (payerAccountNumber payerCityCode : String) (payouts : List PayoutEntry) : ScbPaymentFile where
  principalGroup := batch.principalGroup
  compactDate := day.compactDate
  dailyRunningCount := batch.dailyRunningCount
  details := payouts.map fun payout =>
    { customerReference := payout.id
      debitAcNo := payerAccountNumber
      debitAcCityCode := payerCityCode
      paymentDate := day.paymentDate
      payeeName := payout.owner.name
      payeeBankCode := payout.owner.bank.swiftCode
      beneficiaryAcNo := payout.owner.bank.accountNumber
      invoiceOrGrossAmount := payout.amount }
  invoiceReference := batch.id
  totalNumberOfRecords := payouts.length
  totalInvoiceAmount := getPaymentAmount payouts

/-- The payout is paid by the file. -/
def ScbPaymentFile.pays (file : ScbPaymentFile) (payoutId : Uuid) : Bool :=
  file.details.any fun detail => detail.customerReference = payoutId

/-! ### Stores and calls -/

/-- What is stored, the bank files that have been uploaded, and the errors that have been
logged. -/
structure PaymentState where
  payouts : Table Uuid PayoutEntry (·.id)
  payoutLines : Table Uuid PayoutLineEntry (·.id)
  payoutBatches : Table Uuid PayoutBatch (·.id)
  bucket : List ScbPaymentFile
  logged : List AppError

/-- How the calls of `createPayoutBatch` end. An upload stands for the building of its file as
well, and a transfer of it to the ftp server never fails. -/
structure BatchCalls where
  findAndCount : Option AppError
  saveNewBatch : Option AppError
  uploadScbPaymentFile : Except AppError String
  uploadPayoutSummaryFile : Except AppError String
  uploadPayoutLinesFile : Except AppError String
  saveLines : Option AppError
  saveBatch : Option AppError

/-- The batch and its payouts in memory, and what is stored. -/
structure BatchWork where
  state : PaymentState
  payoutBatch : PayoutBatch
  payouts : List PayoutEntry

namespace PaymentState

variable (state : PaymentState)

/-- Saves a batch, and with it its payouts. -/
def saveBatch (batch : PayoutBatch) (payouts : List PayoutEntry) : PaymentState :=
  { state with
    payoutBatches := state.payoutBatches.save batch
    payouts := state.payouts.saveAll
      (payouts.map fun payout => { payout with payoutBatchId := some batch.id }) }

def log (error : AppError) : PaymentState :=
  { state with logged := state.logged ++ [error] }

/-- The batches of the tenant that day. -/
def countBatches (principalGroup : Tenant) (date : String) : Nat :=
  state.payoutBatches.rows.countP fun batch =>
    batch.principalGroup = principalGroup ∧ batch.date = date

end PaymentState

namespace BatchWork

variable (work : BatchWork)

/-- The bank file has been uploaded. -/
def send (file : ScbPaymentFile) : BatchWork :=
  { work with state.bucket := work.state.bucket ++ [file] }

/-- Saves lines. -/
def saveLines (payoutLines : List PayoutLineEntry) : BatchWork :=
  { work with state.payoutLines := work.state.payoutLines.saveAll payoutLines }

/-- `setUploadedPaymentFiles`. -/
def setUploadedPaymentFiles (scbPaymentFileUrl payoutSummaryFileUrl payoutLinesFileUrl : String) :
    Except AppError BatchWork :=
  if work.payoutBatch.status ≠ .scheduled then
    .error (.error "Payout batch not in correct state to accept new payment file: [object Object]")
  else
    .ok { work with
      payoutBatch :=
        work.payoutBatch.withFiles scbPaymentFileUrl payoutSummaryFileUrl payoutLinesFileUrl
      payouts := work.payouts.map (·.paymentFileUploaded) }

/-- What is done once the files are there: how far it gets, and what it throws. -/
def markInTransit (calls : BatchCalls)
    (scbPaymentFileUrl payoutSummaryFileUrl payoutLinesFileUrl : String)
    (payoutLines : List PayoutLineEntry) : BatchWork × Option AppError :=
  match work.setUploadedPaymentFiles scbPaymentFileUrl payoutSummaryFileUrl payoutLinesFileUrl with
  | .error error => (work, some error)
  | .ok marked =>
    match payoutLines.mapM (·.payoutBatchInTransit work.payoutBatch.id) with
    | .error error => (marked, some error)
    | .ok movedLines =>
      match calls.saveLines with
      | some error => (marked, some error)
      | none => (marked.saveLines movedLines, none)

/-- The `try` block of `createPayoutBatch`: how far it gets, and what it throws. -/
def attempt (calls : BatchCalls) (day : PaymentDay) (payerAccountNumber payerCityCode : String)
    (payoutLines : List PayoutLineEntry) : BatchWork × Option AppError :=
  match calls.uploadScbPaymentFile with
  | .error error => (work, some error)
  | .ok scbPaymentFileUrl =>
    let uploaded :=
      work.send (.build work.payoutBatch day payerAccountNumber payerCityCode work.payouts)
    match calls.uploadPayoutSummaryFile with
    | .error error => (uploaded, some error)
    | .ok payoutSummaryFileUrl =>
      match calls.uploadPayoutLinesFile with
      | .error error => (uploaded, some error)
      | .ok payoutLinesFileUrl =>
        uploaded.markInTransit calls scbPaymentFileUrl payoutSummaryFileUrl payoutLinesFileUrl
          payoutLines

/-- The `catch` block. -/
def recover : BatchWork × Option AppError → BatchWork
  | (work, none) => work
  | (work, some error) =>
    { work with
      state := work.state.log error
      payoutBatch := work.payoutBatch.paymentFileUploadFailed error }

/-- The `finally` block. An error of the last save is only logged. -/
def finish (calls : BatchCalls) : PaymentState :=
  match calls.saveBatch with
  | none => work.state.saveBatch work.payoutBatch work.payouts
  | some error => work.state.log error

end BatchWork

namespace PaymentState

variable (state : PaymentState)

/-- The work on a batch that has been made, before and after the `try` block. -/
def batchWork (batchId : Uuid) (day : PaymentDay) (first : PayoutEntry)
    (payouts : List PayoutEntry) : BatchWork :=
  let batch := PayoutBatch.create batchId first payouts
    (state.countBatches first.principalGroup day.date + 1) day
  ⟨state.saveBatch batch payouts, batch, payouts⟩

/-- `createPayoutBatch`: what it leaves, and what it throws. -/
def createPayoutBatch (calls : BatchCalls) (batchId : Uuid) (day : PaymentDay)
    (payerAccountNumber payerCityCode : String) (payouts : List PayoutEntry)
    (payoutLines : List PayoutLineEntry) : PaymentState × Option AppError :=
  if payouts.length > 1 ∧ payoutLines.length < 1 then
    (state, some (.error "Empty payout lines detected"))
  else if payoutLines.length < 1 then (state, none)
  else
    match payouts with
    | [] => (state, none)
    | first :: _ =>
      match calls.findAndCount <|> calls.saveNewBatch with
      | some error => (state, some error)
      | none =>
        let work := state.batchWork batchId day first payouts
        ((BatchWork.recover (work.attempt calls day payerAccountNumber payerCityCode
          payoutLines)).finish calls, none)

end PaymentState

/-! ### Runs -/

/-- What the object mapper does with a condition on a property that is no column, as
`bank.vendorId` is none: it passes over it or throws. It is not part of the repository. -/
inductive UnknownColumn where
  | ignored
  | rejected
  deriving DecidableEq, Repr

/-- What a run is given: how its calls end, the day, and the identifiers of new batches. -/
structure PaymentRun where
  unknownColumn : UnknownColumn
  tenantOptions : Tenant → TenantOptions
  day : PaymentDay
  batchId : Tenant → Uuid
  findScheduledPayouts : Option AppError
  findPayoutLines : Option AppError
  batch : Tenant → BatchCalls

namespace PaymentState

variable (state : PaymentState)

/-- The rows the query for scheduled payouts selects. -/
def scheduledPayouts : List PayoutEntry :=
  state.payouts.rows.filter fun payout => payout.status = .scheduled ∧ payout.bank.isPayable

def findScheduledPayouts (unknownColumn : UnknownColumn) : Except AppError (List PayoutEntry) :=
  match unknownColumn with
  | .ignored => .ok state.scheduledPayouts
  | .rejected => .error (.error "No entity column \"bank.vendorId\" was found.")

def findPayoutLines (payoutIds : List Uuid) : List PayoutLineEntry :=
  state.payoutLines.rows.filter fun line => line.payoutId.any payoutIds.contains

def sievePayoutsByTenant (tenant : Tenant) (payouts : List PayoutEntry) : List PayoutEntry :=
  payouts.filter fun payout => payout.principalGroup = tenant

def sievePayoutLinesByTenant (tenant : Tenant) (payoutLines : List PayoutLineEntry) :
    List PayoutLineEntry :=
  payoutLines.filter fun line => line.principalGroup = tenant

/-- The batch of a tenant in a run. For the one tenant the city code and the account number
change places. -/
def createBatchOf (run : PaymentRun) (tenant : Tenant) (payouts : List PayoutEntry)
    (payoutLines : List PayoutLineEntry) : PaymentState × Option AppError :=
  let options := run.tenantOptions tenant
  match tenant with
  | .daikin =>
    state.createPayoutBatch (run.batch .daikin) (run.batchId .daikin) run.day
      options.bankAccountNumber options.bankAccountCityCode (sievePayoutsByTenant .daikin payouts)
      (sievePayoutLinesByTenant .daikin payoutLines)
  | .acson =>
    state.createPayoutBatch (run.batch .acson) (run.batchId .acson) run.day
      options.bankAccountCityCode options.bankAccountNumber (sievePayoutsByTenant .acson payouts)
      (sievePayoutLinesByTenant .acson payoutLines)

/-- The payouts and the lines a run works on. -/
def picked (run : PaymentRun) : Except AppError (List PayoutEntry × List PayoutLineEntry) := do
  awaited run.findScheduledPayouts
  let payouts ← state.findScheduledPayouts run.unknownColumn
  awaited run.findPayoutLines
  return (payouts, state.findPayoutLines (payouts.map (·.id)))

/-- `generateAndUploadPaymentFiles`: what it leaves, and what it throws. -/
def generateAndUploadPaymentFiles (run : PaymentRun) : PaymentState × Option AppError :=
  match state.picked run with
  | .error error => (state, some error)
  | .ok (payouts, payoutLines) =>
    match state.createBatchOf run .daikin payouts payoutLines with
    | (first, some error) => (first, some error)
    | (first, none) => first.createBatchOf run .acson payouts payoutLines

end PaymentState

end FieldService
