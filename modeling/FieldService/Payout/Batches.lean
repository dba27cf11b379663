/-
This file settles in which cases a payment batch is left in a consistent state.

The `try` block of a batch stops at one of four points: before the bank file is there, before
the other files are, after the payouts have been marked in memory, or at its end. What is
written afterwards is whatever is in memory at that point, with the batch marked as failed
unless the end was reached. At the third point the two do not go together: the batch has
failed and its payouts are in transit.
-/

import FieldService.Payout.PaymentFiles

namespace FieldService

open Table

/-! ### Where the work stops -/

/-- The three files are uploaded. -/
def BatchCalls.Uploads (calls : BatchCalls) : Prop :=
  Returns calls.uploadScbPaymentFile ∧ Returns calls.uploadPayoutSummaryFile ∧
    Returns calls.uploadPayoutLinesFile

/-- The lines are moved and saved. -/
def BatchCalls.MovesLines (calls : BatchCalls) (payoutLines : List PayoutLineEntry) : Prop :=
  (∀ line ∈ payoutLines, line.status = .scheduled) ∧ calls.saveLines = none

namespace BatchWork

variable (work : BatchWork)

/-- The batch and its payouts are in transit in memory. -/
def Marks (marked : BatchWork) : Prop :=
  marked.state = work.state ∧ marked.payoutBatch.id = work.payoutBatch.id ∧
    marked.payoutBatch.status = .inTransit ∧
    marked.payouts = work.payouts.map (·.paymentFileUploaded)

variable {work}

theorem setUploadedPaymentFiles_eq_ok (scheduled : work.payoutBatch.status = .scheduled)
    (scbPaymentFileUrl payoutSummaryFileUrl payoutLinesFileUrl : String) :
    ∃ marked, work.setUploadedPaymentFiles scbPaymentFileUrl payoutSummaryFileUrl
        payoutLinesFileUrl = .ok marked ∧ work.Marks marked := by
  rw [setUploadedPaymentFiles, if_neg (not_not.mpr scheduled)]
  exact ⟨_, rfl, rfl, rfl, rfl, rfl⟩

theorem Marks.inTransit {marked : BatchWork} (marks : work.Marks marked) :
    marked.payouts.map (·.id) = work.payouts.map (·.id) ∧
      ∀ payout ∈ marked.payouts, payout.status = .inTransit := by
  obtain ⟨-, -, -, inTransit⟩ := marks
  rw [inTransit]
  refine ⟨?_, fun payout member => ?_⟩
  · rw [List.map_map]
    rfl
  · obtain ⟨original, -, rfl⟩ := List.mem_map.mp member
    rfl

/-- Once the files are there the batch and its payouts are marked, and the block gets to its end
exactly if the lines are moved and saved. -/
theorem markInTransit_cases (scheduled : work.payoutBatch.status = .scheduled)
    (calls : BatchCalls) (scbPaymentFileUrl payoutSummaryFileUrl payoutLinesFileUrl : String)
    (payoutLines : List PayoutLineEntry) :
    ∃ marked, work.Marks marked ∧
      ((calls.MovesLines payoutLines ∧
        work.markInTransit calls scbPaymentFileUrl payoutSummaryFileUrl payoutLinesFileUrl
            payoutLines =
          (marked.saveLines (payoutLines.map (·.inBatch work.payoutBatch.id)), none)) ∨
      (¬calls.MovesLines payoutLines ∧ ∃ error,
        work.markInTransit calls scbPaymentFileUrl payoutSummaryFileUrl payoutLinesFileUrl
            payoutLines = (marked, some error))) := by
  obtain ⟨marked, sets, marks⟩ := setUploadedPaymentFiles_eq_ok scheduled scbPaymentFileUrl
    payoutSummaryFileUrl payoutLinesFileUrl
  refine ⟨marked, marks, ?_⟩
  have moves := mapM_eq_ok_iff (payoutBatchInTransit_eq_ok_iff work.payoutBatch.id) payoutLines
  simp only [markInTransit, sets]
  cases moved : payoutLines.mapM (·.payoutBatchInTransit work.payoutBatch.id) with
  | error error =>
    refine Or.inr ⟨fun all => ?_, error, rfl⟩
    have succeeds := (moves _).mpr ⟨all.1, rfl⟩
    rw [moved] at succeeds
    cases succeeds
  | ok lines =>
    obtain ⟨allScheduled, rfl⟩ := (moves lines).mp moved
    cases saves : calls.saveLines with
    | none => exact Or.inl ⟨⟨allScheduled, saves⟩, rfl⟩
    | some error =>
      refine Or.inr ⟨fun all => ?_, error, rfl⟩
      rw [all.2] at saves
      cases saves

/-- How far the `try` block gets. -/
inductive Attempted (work : BatchWork) (calls : BatchCalls) (file : ScbPaymentFile)
    (payoutLines : List PayoutLineEntry) : BatchWork × Option AppError → Prop where
  /-- The bank file is not uploaded. -/
  | unsent (error : AppError) (failed : ¬Returns calls.uploadScbPaymentFile) :
    Attempted work calls file payoutLines (work, some error)
  /-- The bank file is uploaded, but not all of the others. -/
  | sent (error : AppError) (sent : Returns calls.uploadScbPaymentFile)
      (failed : ¬calls.Uploads) :
    Attempted work calls file payoutLines
      (work.send file, some error)
  /-- The batch and its payouts are marked, but the lines are not saved. -/
  | marked (marked : BatchWork) (error : AppError) (uploads : calls.Uploads)
      (failed : ¬calls.MovesLines payoutLines)
      (marks : (work.send file).Marks marked) :
    Attempted work calls file payoutLines (marked, some error)
  /-- The end is reached. -/
  | moved (marked : BatchWork) (uploads : calls.Uploads) (moves : calls.MovesLines payoutLines)
      (marks : (work.send file).Marks marked) :
    Attempted work calls file payoutLines
      (marked.saveLines (payoutLines.map (·.inBatch work.payoutBatch.id)), none)

theorem attempt_cases (scheduled : work.payoutBatch.status = .scheduled) (calls : BatchCalls)
    (day : PaymentDay) (payerAccountNumber payerCityCode : String)
    (payoutLines : List PayoutLineEntry) :
    Attempted work calls
      (.build work.payoutBatch day payerAccountNumber payerCityCode work.payouts) payoutLines
      (work.attempt calls day payerAccountNumber payerCityCode payoutLines) := by
  rw [attempt]
  rcases scb : calls.uploadScbPaymentFile with error | scbPaymentFileUrl
  · refine .unsent error ?_
    rintro ⟨url, sent⟩
    rw [scb] at sent
    cases sent
  have sent : Returns calls.uploadScbPaymentFile := ⟨_, scb⟩
  rcases summary : calls.uploadPayoutSummaryFile with error | payoutSummaryFileUrl
  · refine .sent error sent ?_
    rintro ⟨-, ⟨url, sentToo⟩, -⟩
    rw [summary] at sentToo
    cases sentToo
  rcases lines : calls.uploadPayoutLinesFile with error | payoutLinesFileUrl
  · refine .sent error sent ?_
    rintro ⟨-, -, url, sentToo⟩
    rw [lines] at sentToo
    cases sentToo
  have uploads : calls.Uploads := ⟨sent, ⟨_, summary⟩, ⟨_, lines⟩⟩
  have stillScheduled : (work.send (.build work.payoutBatch day payerAccountNumber payerCityCode
    work.payouts)).payoutBatch.status = .scheduled := scheduled
  obtain ⟨marked, marks, ⟨moves, ended⟩ | ⟨failed, error, ended⟩⟩ :=
    markInTransit_cases stillScheduled calls scbPaymentFileUrl payoutSummaryFileUrl
      payoutLinesFileUrl payoutLines
  · simp only [ended]
    exact .moved marked uploads moves marks
  · simp only [ended]
    exact .marked marked error uploads failed marks

/-- What the `try` and the `catch` block leave of what is stored. -/
theorem Attempted.recover_keeps {calls : BatchCalls} {file : ScbPaymentFile}
    {payoutLines : List PayoutLineEntry} {result : BatchWork × Option AppError}
    (attempted : Attempted work calls file payoutLines result) :
    (recover result).state.payoutBatches = work.state.payoutBatches ∧
      (recover result).state.payouts = work.state.payouts ∧
      (recover result).payoutBatch.id = work.payoutBatch.id := by
  cases attempted with
  | unsent error failed => exact ⟨rfl, rfl, rfl⟩
  | sent error sent failed => exact ⟨rfl, rfl, rfl⟩
  | marked marked error uploads failed marks =>
    obtain ⟨sameState, sameId, -, -⟩ := marks
    simp only [recover, PaymentState.log, sameState]
    exact ⟨rfl, rfl, sameId⟩
  | moved marked uploads moves marks =>
    obtain ⟨sameState, sameId, -, -⟩ := marks
    simp only [recover, saveLines, sameState]
    exact ⟨rfl, rfl, sameId⟩

end BatchWork

/-! ### Batches that are opened -/

/-- A batch is made of the payouts. -/
def BatchCalls.Opens (calls : BatchCalls) (payouts : List PayoutEntry)
    (payoutLines : List PayoutLineEntry) : Prop :=
  (payouts ≠ [] ∧ payoutLines ≠ []) ∧ calls.findAndCount = none ∧ calls.saveNewBatch = none

namespace PaymentState

variable (state : PaymentState) (calls : BatchCalls) (batchId : Uuid) (day : PaymentDay)
  (payerAccountNumber payerCityCode : String) (payouts : List PayoutEntry)
  (payoutLines : List PayoutLineEntry)

/-- A run that makes no batch changes nothing. -/
theorem createPayoutBatch_unopened (unopened : ¬calls.Opens payouts payoutLines) :
    (state.createPayoutBatch calls batchId day payerAccountNumber payerCityCode payouts
      payoutLines).1 = state := by
  unfold createPayoutBatch
  split
  · rfl
  split
  · rfl
  rename_i enough
  cases payouts with
  | nil => rfl
  | cons first rest =>
    cases failed : calls.findAndCount <|> calls.saveNewBatch with
    | some error => rfl
    | none =>
      refine absurd ⟨⟨List.cons_ne_nil _ _, ?_⟩, ?_⟩ unopened
      · rintro rfl
        exact enough Nat.zero_lt_one
      · simpa using failed

/-- A batch that is opened goes through the three blocks. -/
theorem createPayoutBatch_opened {first : PayoutEntry} {rest : List PayoutEntry}
    (opens : calls.Opens (first :: rest) payoutLines) :
    state.createPayoutBatch calls batchId day payerAccountNumber payerCityCode (first :: rest)
        payoutLines =
      ((BatchWork.recover ((state.batchWork batchId day first (first :: rest)).attempt calls day
        payerAccountNumber payerCityCode payoutLines)).finish calls, none) := by
  obtain ⟨⟨-, nonempty⟩, found, saved⟩ := opens
  have enough : ¬payoutLines.length < 1 := by
    simpa using nonempty
  rw [createPayoutBatch, if_neg fun both => enough both.2, if_neg enough]
  simp only [found, saved]
  rfl

end PaymentState

/-! ### Consistent batches -/

/-- Scheduled payouts, with stored lines and the identifier a batch of them gets. -/
structure ScheduledBatch where
  state : PaymentState
  batchId : Uuid
  payouts : List PayoutEntry
  payoutLines : List PayoutLineEntry
  fresh : state.payoutBatches.find batchId = none
  scheduled : ∀ payout ∈ payouts, payout.status = .scheduled
  distinct : (payouts.map (·.id)).Nodup
  stored : ∀ line ∈ payoutLines, line ∈ state.payoutLines.rows
  distinctLines : (payoutLines.map (·.id)).Nodup

namespace ScheduledBatch

variable (batch : ScheduledBatch)

/-- The line belongs to one of the payouts. -/
def Owns (line : PayoutLineEntry) : Prop :=
  ∃ payout ∈ batch.payouts, line.payoutId = some payout.id

/-- The payouts of the batch, and all their lines, have the status. -/
structure All (after : PaymentState) (status : PayoutStatusEnum) : Prop where
  payouts : ∀ row ∈ after.payouts.rows, row.id ∈ batch.payouts.map (·.id) → row.status = status
  payoutLines : ∀ line ∈ after.payoutLines.rows, batch.Owns line → line.status = status

/-- The batch is in transit with all its payouts and all their lines, or it has failed and its
payouts and their lines are scheduled. -/
def Consistent (after : PaymentState) : Prop :=
  ∃ row, after.payoutBatches.find batch.batchId = some row ∧
    ((row.status = .inTransit ∧ batch.All after .inTransit) ∨
      (row.status = .failed ∧ batch.All after .scheduled))

/-- What `createPayoutBatch` leaves. -/
def after (calls : BatchCalls) (day : PaymentDay) (payerAccountNumber payerCityCode : String) :
    PaymentState :=
  (batch.state.createPayoutBatch calls batch.batchId day payerAccountNumber payerCityCode
    batch.payouts batch.payoutLines).1

/-- The condition for a consistent end: the batch is opened, its last save succeeds, and either
all files are uploaded, the lines are moved, and no line of the payouts is left behind, or not all
files are uploaded and all lines of the payouts are scheduled. -/
structure Completes (calls : BatchCalls) : Prop where
  opens : calls.Opens batch.payouts batch.payoutLines
  saved : calls.saveBatch = none
  ended : (calls.Uploads ∧ calls.MovesLines batch.payoutLines ∧
      ∀ line ∈ batch.state.payoutLines.rows, batch.Owns line →
        line ∈ batch.payoutLines ∨ line.status = .inTransit) ∨
    (¬calls.Uploads ∧
      ∀ line ∈ batch.state.payoutLines.rows, batch.Owns line → line.status = .scheduled)

variable {batch}

/-- Saving payouts with the identifiers of the batch gives the rows with those identifiers the
statuses of what is saved. -/
theorem payouts_saveAll_iff (table : Table Uuid PayoutEntry (·.id)) {saved : List PayoutEntry}
    (sameIds : saved.map (·.id) = batch.payouts.map (·.id)) (status : PayoutStatusEnum) :
    (∀ row ∈ (table.saveAll saved).rows, row.id ∈ batch.payouts.map (·.id) →
        row.status = status) ↔ ∀ payout ∈ saved, payout.status = status := by
  have distinct : (saved.map (·.id)).Nodup := sameIds ▸ batch.distinct
  constructor
  · intro all payout member
    refine all payout (table.mem_saveAll_of_mem distinct member) ?_
    rw [← sameIds]
    exact List.mem_map_of_mem member
  · intro all row member ofBatch
    rcases (mem_saveAll_iff table distinct row).mp member with saved | ⟨-, other⟩
    · exact all row saved
    · rw [← sameIds] at ofBatch
      obtain ⟨payout, inside, same⟩ := List.mem_map.mp ofBatch
      exact absurd same (other payout inside)

/-- Moving the lines leaves those of the payouts in transit exactly if none is left behind. -/
theorem lines_saveAll_iff :
    (∀ line ∈ (batch.state.payoutLines.saveAll
        (batch.payoutLines.map (·.inBatch batch.batchId))).rows,
          batch.Owns line → line.status = .inTransit) ↔
      ∀ line ∈ batch.state.payoutLines.rows, batch.Owns line →
        line ∈ batch.payoutLines ∨ line.status = .inTransit := by
  have sameIds : (batch.payoutLines.map (·.inBatch batch.batchId)).map (·.id) =
      batch.payoutLines.map (·.id) := by
    rw [List.map_map]
    rfl
  have distinct := sameIds ▸ batch.distinctLines
  constructor
  · intro all line stored owned
    by_cases moved : line ∈ batch.payoutLines
    · exact Or.inl moved
    · refine Or.inr (all line ((mem_saveAll_iff _ distinct line).mpr (Or.inr ⟨stored, ?_⟩)) owned)
      intro saved inside same
      obtain ⟨original, member, rfl⟩ := List.mem_map.mp inside
      have sameRow := List.inj_on_of_nodup_map batch.state.payoutLines.distinct
        (batch.stored original member) stored same
      exact moved (sameRow ▸ member)
  · intro left line member owned
    rcases (mem_saveAll_iff _ distinct line).mp member with saved | ⟨stored, other⟩
    · obtain ⟨original, -, rfl⟩ := List.mem_map.mp saved
      rfl
    · rcases left line stored owned with moved | inTransit
      · exact absurd rfl (other (line.inBatch batch.batchId) (List.mem_map_of_mem moved))
      · exact inTransit

/-- A batch that has been saved at the end is consistent when it and what is stored agree. -/
theorem consistent_finish_iff {calls : BatchCalls} {work : BatchWork}
    (saved : calls.saveBatch = none) (sameId : work.payoutBatch.id = batch.batchId)
    (sameIds : work.payouts.map (·.id) = batch.payouts.map (·.id)) :
    batch.Consistent (work.finish calls) ↔
      (work.payoutBatch.status = .inTransit ∧
        (∀ payout ∈ work.payouts, payout.status = .inTransit) ∧
        ∀ line ∈ work.state.payoutLines.rows, batch.Owns line → line.status = .inTransit) ∨
      (work.payoutBatch.status = .failed ∧ (∀ payout ∈ work.payouts, payout.status = .scheduled) ∧
        ∀ line ∈ work.state.payoutLines.rows, batch.Owns line → line.status = .scheduled) := by
  have found : (work.finish calls).payoutBatches.find batch.batchId = some work.payoutBatch := by
    rw [BatchWork.finish, saved]
    exact (find_save _ _ _).trans (if_pos sameId)
  have all : ∀ status, batch.All (work.finish calls) status ↔
      (∀ payout ∈ work.payouts, payout.status = status) ∧
        ∀ line ∈ work.state.payoutLines.rows, batch.Owns line → line.status = status := by
    intro status
    have mapped : (work.payouts.map fun payout : PayoutEntry =>
        { payout with payoutBatchId := some work.payoutBatch.id }).map (·.id) =
          batch.payouts.map (·.id) := by
      rw [List.map_map, ← sameIds]
      rfl
    rw [BatchWork.finish, saved]
    constructor
    · intro all
      refine ⟨fun payout member => ?_, all.payoutLines⟩
      exact (payouts_saveAll_iff _ mapped status).mp all.payouts
        { payout with payoutBatchId := some work.payoutBatch.id } (List.mem_map_of_mem member)
    · rintro ⟨payouts, lines⟩
      refine ⟨(payouts_saveAll_iff _ mapped status).mpr fun payout member => ?_, lines⟩
      obtain ⟨original, inside, rfl⟩ := List.mem_map.mp member
      exact payouts original inside
  rw [Consistent, found]
  simp only [Option.some.injEq, exists_eq_left', all]

/-- A batch whose last save fails stays scheduled. -/
theorem not_consistent_of_unsaved {calls : BatchCalls} {work : BatchWork} {error : AppError}
    (unsaved : calls.saveBatch = some error) {row : PayoutBatch}
    (found : work.state.payoutBatches.find batch.batchId = some row)
    (scheduled : row.status = .scheduled) : ¬ batch.Consistent (work.finish calls) := by
  rintro ⟨other, foundToo, ended⟩
  rw [BatchWork.finish, unsaved] at foundToo
  cases found.symm.trans foundToo
  rw [scheduled] at ended
  rcases ended with ⟨impossible, -⟩ | ⟨impossible, -⟩ <;> cases impossible

/-- The end of a batch that is opened and saved. -/
theorem consistent_attempted_iff {calls : BatchCalls} {file : ScbPaymentFile}
    {first : PayoutEntry} {day : PaymentDay} {result : BatchWork × Option AppError}
    (nonempty : batch.payouts ≠ []) (saved : calls.saveBatch = none)
    (attempted : (batch.state.batchWork batch.batchId day first batch.payouts).Attempted calls file
      batch.payoutLines result) :
    batch.Consistent ((BatchWork.recover result).finish calls) ↔
      (calls.Uploads ∧ calls.MovesLines batch.payoutLines ∧
        ∀ line ∈ batch.state.payoutLines.rows, batch.Owns line →
          line ∈ batch.payoutLines ∨ line.status = .inTransit) ∨
      (¬calls.Uploads ∧
        ∀ line ∈ batch.state.payoutLines.rows, batch.Owns line → line.status = .scheduled) := by
  cases attempted with
  | unsent error failed =>
    refine (consistent_finish_iff saved rfl rfl).trans ?_
    have unsent : ¬calls.Uploads := fun uploads => failed uploads.1
    simp only [BatchWork.recover, PayoutBatch.paymentFileUploadFailed, unsent, reduceCtorEq,
      false_and, false_or, not_false_eq_true, true_and]
    exact and_iff_right batch.scheduled
  | sent error sent failed =>
    refine (consistent_finish_iff saved rfl rfl).trans ?_
    simp only [BatchWork.recover, PayoutBatch.paymentFileUploadFailed, failed, reduceCtorEq,
      false_and, false_or, not_false_eq_true, true_and]
    exact and_iff_right batch.scheduled
  | marked marked error uploads failed marks =>
    have sameId : marked.payoutBatch.id = batch.batchId := marks.2.1
    obtain ⟨sameIds, inTransit⟩ := marks.inTransit
    have finished := @consistent_finish_iff batch calls (BatchWork.recover (marked, some error))
      saved sameId sameIds
    refine finished.trans (iff_of_false ?_ ?_)
    · rintro (⟨impossible, -⟩ | ⟨-, scheduled, -⟩)
      · cases impossible
      · obtain ⟨payout, member⟩ := List.exists_mem_of_ne_nil _ nonempty
        have inside : payout.paymentFileUploaded ∈ marked.payouts := by
          rw [marks.2.2.2]
          exact List.mem_map_of_mem member
        cases scheduled _ inside
    · rintro (⟨-, moves, -⟩ | ⟨unsent, -⟩)
      · exact failed moves
      · exact unsent uploads
  | moved marked uploads moves marks =>
    obtain ⟨sameIds, inTransit⟩ := marks.inTransit
    obtain ⟨sameState, sameId, status, -⟩ := marks
    have finished := @consistent_finish_iff batch calls (BatchWork.recover
      (marked.saveLines (batch.payoutLines.map (·.inBatch batch.batchId)), none)) saved sameId
      sameIds
    refine finished.trans ?_
    simp only [BatchWork.recover, BatchWork.saveLines, status, sameState, uploads, moves,
      reduceCtorEq, true_and, false_and, or_false, not_true_eq_false]
    exact (and_iff_right inTransit).trans lines_saveAll_iff

/-- A batch is left consistent exactly if nothing fails but an upload. -/
theorem consistent_iff (batch : ScheduledBatch) (calls : BatchCalls) (day : PaymentDay)
    (payerAccountNumber payerCityCode : String) :
    batch.Consistent (batch.after calls day payerAccountNumber payerCityCode) ↔
      batch.Completes calls := by
  by_cases opens : calls.Opens batch.payouts batch.payoutLines
  · obtain ⟨first, rest, isFirst⟩ := List.exists_cons_of_ne_nil opens.1.1
    have attempted : (batch.state.batchWork batch.batchId day first batch.payouts).Attempted calls
        _ batch.payoutLines _ :=
      BatchWork.attempt_cases rfl calls day payerAccountNumber payerCityCode batch.payoutLines
    have after : batch.after calls day payerAccountNumber payerCityCode =
        (BatchWork.recover ((batch.state.batchWork batch.batchId day first batch.payouts).attempt
          calls day payerAccountNumber payerCityCode batch.payoutLines)).finish calls := by
      rw [isFirst] at opens
      rw [ScheduledBatch.after, isFirst, PaymentState.createPayoutBatch_opened _ _ _ _ _ _ _ opens]
    rw [after]
    cases saved : calls.saveBatch with
    | none =>
      rw [consistent_attempted_iff opens.1.1 saved attempted]
      exact ⟨fun ended => ⟨opens, saved, ended⟩, fun completes => completes.ended⟩
    | some error =>
      have created : (BatchWork.recover ((batch.state.batchWork batch.batchId day first
          batch.payouts).attempt calls day payerAccountNumber payerCityCode
            batch.payoutLines)).state.payoutBatches.find batch.batchId =
              some (batch.state.batchWork batch.batchId day first batch.payouts).payoutBatch := by
        rw [attempted.recover_keeps.1]
        exact (find_save _ _ _).trans (if_pos rfl)
      refine iff_of_false (not_consistent_of_unsaved saved created rfl) fun completes => ?_
      rw [completes.saved] at saved
      cases saved
  · refine iff_of_false ?_ fun completes => opens completes.opens
    rintro ⟨row, found, -⟩
    rw [after, PaymentState.createPayoutBatch_unopened _ _ _ _ _ _ _ _ opens, batch.fresh] at found
    cases found

def exampleEntryId : Uuid := ⟨"p3", by decide⟩

def exampleEntry : PayoutEntry :=
  ⟨⟨⟨exampleEntryId, 100, Settlement.exampleEarner, .daikin⟩, .scheduled, 0⟩,
    PayoutDatabase.examplePayee.bank, PayoutDatabase.examplePayee, none⟩

def exampleEntryLine : PayoutLineEntry where
  toPayoutLine := PayoutLineFactory.packageLine Settlement.exampleServiceRequest
    ⟨"Cleaning", 1, 150, 150, 100, 100⟩ PayoutDatabase.examplePayee
    { Settlement.exampleCredit 1 .income Settlement.exampleEarner 100 with
      payoutId := some exampleEntryId }
  id := ⟨"l3", by decide⟩
  status := .scheduled
  payoutBatchId := none

def examplePaymentState : PaymentState :=
  ⟨⟨[exampleEntry], by simp⟩, ⟨[exampleEntryLine], by simp⟩, .empty, [], []⟩

/-- A payout of 100 with its only line. -/
def exampleBatch : ScheduledBatch where
  state := examplePaymentState
  batchId := ⟨"b3", by decide⟩
  payouts := [exampleEntry]
  payoutLines := [exampleEntryLine]
  fresh := rfl
  scheduled := by simp [exampleEntry]
  distinct := by simp
  stored := by simp [examplePaymentState]
  distinctLines := by simp

/-- Everything succeeds but the saving of the lines. -/
def exampleBatchCalls : BatchCalls :=
  ⟨none, none, .ok "scb", .ok "summary", .ok "lines", some (.error "deadlock detected"), none⟩

def examplePaymentDay : PaymentDay := ⟨"2024/02/01", "20240201", "01/02/2024"⟩

/-- The batch has failed, and its payout is in transit. -/
theorem not_consistent_unsaved_lines :
    ¬ exampleBatch.Consistent
      (exampleBatch.after exampleBatchCalls examplePaymentDay "1234567890" "KUL") := by
  have failed : ((exampleBatch.after exampleBatchCalls examplePaymentDay "1234567890"
      "KUL").payoutBatches.find exampleBatch.batchId).map (·.status) = some .failed := by
    decide +kernel
  have moved : (exampleBatch.after exampleBatchCalls examplePaymentDay "1234567890"
      "KUL").payouts.rows.map (fun row => (row.id, row.status)) =
        [(exampleEntryId, .inTransit)] := by
    decide +kernel
  rintro ⟨row, found, ⟨inTransit, -⟩ | ⟨-, all⟩⟩
  · rw [found, Option.map_some, inTransit] at failed
    cases failed
  · obtain ⟨payout, stored, same⟩ : ∃ payout ∈ (exampleBatch.after exampleBatchCalls
        examplePaymentDay "1234567890" "KUL").payouts.rows,
          (payout.id, payout.status) = (exampleEntryId, PayoutStatusEnum.inTransit) :=
      List.mem_map.mp (moved ▸ List.mem_singleton.mpr rfl)
    obtain ⟨isEntry, inTransit⟩ := Prod.mk.inj same
    have scheduled := all.payouts payout stored (List.mem_singleton.mpr isEntry)
    rw [inTransit] at scheduled
    cases scheduled

end ScheduledBatch

end FieldService
