/-
This file settles when no payout is paid by two bank files.

A payout is picked by a run while it is scheduled, and it stops being scheduled when its batch is
saved at the end. So a bank file that is uploaded does its payouts no harm exactly if its
batch gets as far as to mark them, and if that is saved. What a batch does is summed up once
(`BatchEffect`), and a run is the effect of one batch after that of another.
-/

import FieldService.Payout.Batches
import FieldService.Library.Execution

namespace FieldService

open Execution Table

/-! ### What a batch does -/

/-- Making a batch throws before it is opened. -/
def BatchCalls.Throws (calls : BatchCalls) (payouts : List PayoutEntry)
    (payoutLines : List PayoutLineEntry) : Prop :=
  (payouts.length > 1 ∧ payoutLines = []) ∨
    ((payouts ≠ [] ∧ payoutLines ≠ []) ∧
      ¬(calls.findAndCount = none ∧ calls.saveNewBatch = none))

/-- The batch logs no error: it is not opened, or all of it succeeds. -/
def BatchCalls.Quiet (calls : BatchCalls) (payouts : List PayoutEntry)
    (payoutLines : List PayoutLineEntry) : Prop :=
  calls.Opens payouts payoutLines →
    calls.Uploads ∧ calls.MovesLines payoutLines ∧ calls.saveBatch = none

/-- A bank file is uploaded. -/
def BatchCalls.Sends (calls : BatchCalls) (payouts : List PayoutEntry)
    (payoutLines : List PayoutLineEntry) : Prop :=
  calls.Opens payouts payoutLines ∧ Returns calls.uploadScbPaymentFile

/-- The payout is one of the list. -/
def Covers (payouts : List PayoutEntry) (payoutId : Uuid) : Prop :=
  ∃ payout ∈ payouts, payout.id = payoutId

/-- The bank file of the payouts, all of one tenant. -/
structure PaysFor (file : ScbPaymentFile) (payouts : List PayoutEntry) : Prop where
  tenant : ∃ payout ∈ payouts, file.principalGroup = payout.principalGroup
  pays : ∀ payoutId, file.pays payoutId = true ↔ Covers payouts payoutId

/-- What making a batch leaves. -/
structure BatchEffect (calls : BatchCalls) (payouts : List PayoutEntry)
    (payoutLines : List PayoutLineEntry) (state after : PaymentState) (error : Option AppError) :
    Prop where
  throws : error ≠ none ↔ calls.Throws payouts payoutLines
  sent : calls.Sends payouts payoutLines →
    ∃ file, after.bucket = state.bucket ++ [file] ∧ PaysFor file payouts
  unsent : ¬calls.Sends payouts payoutLines → after.bucket = state.bucket
  grows : state.logged <+: after.logged
  quiet : after.logged = state.logged ↔ calls.Quiet payouts payoutLines
  others : ∀ row : PayoutEntry, ¬Covers payouts row.id →
    (row ∈ after.payouts.rows ↔ row ∈ state.payouts.rows)
  inTransit : calls.Opens payouts payoutLines → calls.Uploads → calls.saveBatch = none →
    ∀ row ∈ after.payouts.rows, Covers payouts row.id → row.status = .inTransit

theorem pays_build_iff (batch : PayoutBatch) (day : PaymentDay)
    (payerAccountNumber payerCityCode : String) (payouts : List PayoutEntry) (payoutId : Uuid) :
    (ScbPaymentFile.build batch day payerAccountNumber payerCityCode payouts).pays payoutId =
        true ↔ Covers payouts payoutId := by
  simp [ScbPaymentFile.pays, ScbPaymentFile.build, Covers]

theorem mem_saveAll_of_not_covers (table : Table Uuid PayoutEntry (·.id))
    {saved payouts : List PayoutEntry} (sameIds : saved.map (·.id) = payouts.map (·.id))
    (distinct : (payouts.map (·.id)).Nodup) {row : PayoutEntry}
    (uncovered : ¬Covers payouts row.id) : row ∈ (table.saveAll saved).rows ↔ row ∈ table.rows := by
  have other : ∀ payout ∈ saved, payout.id ≠ row.id := by
    intro payout member same
    have inIds : payout.id ∈ payouts.map (·.id) := sameIds ▸ List.mem_map_of_mem member
    obtain ⟨original, inside, isSame⟩ := List.mem_map.mp inIds
    exact uncovered ⟨original, inside, isSame.trans same⟩
  rw [mem_saveAll_iff table (sameIds ▸ distinct)]
  constructor
  · rintro (isSaved | ⟨stored, -⟩)
    · exact absurd rfl (other row isSaved)
    · exact stored
  · exact fun stored => Or.inr ⟨stored, other⟩

namespace BatchWork

variable {work : BatchWork}

/-- What the `try` and the `catch` block leave of what is in memory, and what they have sent and
logged. -/
structure Recovered (work : BatchWork) (calls : BatchCalls) (file : ScbPaymentFile)
    (payoutLines : List PayoutLineEntry) (recovered : BatchWork) : Prop where
  sameIds : recovered.payouts.map (·.id) = work.payouts.map (·.id)
  sent : Returns calls.uploadScbPaymentFile → recovered.state.bucket = work.state.bucket ++ [file]
  unsent : ¬Returns calls.uploadScbPaymentFile → recovered.state.bucket = work.state.bucket
  grows : work.state.logged <+: recovered.state.logged
  quiet : recovered.state.logged = work.state.logged ↔
    calls.Uploads ∧ calls.MovesLines payoutLines
  inTransit : calls.Uploads → ∀ payout ∈ recovered.payouts, payout.status = .inTransit

theorem Attempted.recovered {calls : BatchCalls} {file : ScbPaymentFile}
    {payoutLines : List PayoutLineEntry} {result : BatchWork × Option AppError}
    (attempted : Attempted work calls file payoutLines result) :
    Recovered work calls file payoutLines (recover result) := by
  cases attempted with
  | unsent error failed =>
    exact
      { sameIds := rfl
        sent := fun sent => absurd sent failed
        unsent := fun _ => rfl
        grows := List.prefix_append _ _
        quiet := iff_of_false (by simp [recover, PaymentState.log]) fun both => failed both.1.1
        inTransit := fun uploads => absurd uploads.1 failed }
  | sent error sent failed =>
    exact
      { sameIds := rfl
        sent := fun _ => rfl
        unsent := fun unsent => absurd sent unsent
        grows := List.prefix_append _ _
        quiet := iff_of_false (by simp [recover, PaymentState.log, send]) fun both => failed both.1
        inTransit := fun uploads => absurd uploads failed }
  | marked marked error uploads failed marks =>
    obtain ⟨sameIds, inTransit⟩ := marks.inTransit
    have sameState := marks.1
    exact
      { sameIds := sameIds
        sent := fun _ => by simp [recover, PaymentState.log, sameState, send]
        unsent := fun unsent => absurd uploads.1 unsent
        grows := by simp [recover, PaymentState.log, sameState, send]
        quiet := iff_of_false (by simp [recover, PaymentState.log, sameState, send])
          fun both => failed both.2
        inTransit := fun _ => inTransit }
  | moved marked uploads moves marks =>
    obtain ⟨sameIds, inTransit⟩ := marks.inTransit
    have sameState := marks.1
    exact
      { sameIds := sameIds
        sent := fun _ => by simp [recover, saveLines, sameState, send]
        unsent := fun unsent => absurd uploads.1 unsent
        grows := by simp [recover, saveLines, sameState, send]
        quiet := iff_of_true (by simp [recover, saveLines, sameState, send]) ⟨uploads, moves⟩
        inTransit := fun _ => inTransit }

end BatchWork

namespace PaymentState

variable (state : PaymentState) (calls : BatchCalls) (batchId : Uuid) (day : PaymentDay)
  (payerAccountNumber payerCityCode : String) (payouts : List PayoutEntry)
  (payoutLines : List PayoutLineEntry)

theorem createPayoutBatch_throws_iff :
    (state.createPayoutBatch calls batchId day payerAccountNumber payerCityCode payouts
      payoutLines).2 ≠ none ↔ calls.Throws payouts payoutLines := by
  unfold createPayoutBatch
  cases payoutLines with
  | nil =>
    by_cases several : payouts.length > 1
    · simp [BatchCalls.Throws, several]
    · simp [BatchCalls.Throws, several]
  | cons line lines =>
    cases payouts with
    | nil => simp [BatchCalls.Throws]
    | cons first rest =>
      cases found : calls.findAndCount with
      | some error => simp [BatchCalls.Throws, found]
      | none =>
        cases saved : calls.saveNewBatch with
        | some error => simp [BatchCalls.Throws, found, saved]
        | none => simp [BatchCalls.Throws, found, saved]

/-- The last save keeps what has been sent, and writes the payouts or logs that it has not. -/
theorem finish_effect {work : BatchWork} {file : ScbPaymentFile}
    (distinct : (work.payouts.map (·.id)).Nodup) {recovered : BatchWork}
    (ended : work.Recovered calls file payoutLines recovered)
    (samePayouts : recovered.state.payouts = work.state.payouts) :
    (recovered.finish calls).bucket = recovered.state.bucket ∧
      work.state.logged <+: (recovered.finish calls).logged ∧
      ((recovered.finish calls).logged = work.state.logged ↔
        calls.Uploads ∧ calls.MovesLines payoutLines ∧ calls.saveBatch = none) ∧
      (∀ row : PayoutEntry, ¬Covers work.payouts row.id →
        (row ∈ (recovered.finish calls).payouts.rows ↔ row ∈ work.state.payouts.rows)) ∧
      (calls.Uploads → calls.saveBatch = none →
        ∀ row ∈ (recovered.finish calls).payouts.rows, Covers work.payouts row.id →
          row.status = .inTransit) := by
  unfold BatchWork.finish
  cases saved : calls.saveBatch with
  | some error =>
    refine ⟨rfl, ended.grows.trans (List.prefix_append _ _), ?_, ?_, ?_⟩
    · refine iff_of_false (fun same => ?_) fun all => by simp at all
      have longer : recovered.state.logged.length < work.state.logged.length := by
        have lengths := congrArg List.length same
        simp only [log, List.length_append, List.length_cons, List.length_nil] at lengths
        omega
      exact absurd ended.grows.length_le (not_le.mpr longer)
    · intro row uncovered
      simp only [log, samePayouts]
    · intro uploads impossible
      cases impossible
  | none =>
    have sameIds : (recovered.payouts.map fun payout =>
        ({ payout with payoutBatchId := some recovered.payoutBatch.id } : PayoutEntry)).map (·.id) =
          work.payouts.map (·.id) := by
      rw [← ended.sameIds, List.map_map]
      rfl
    refine ⟨rfl, ended.grows, ?_, ?_, ?_⟩
    · exact ended.quiet.trans (and_congr_right fun _ => (and_iff_left rfl).symm)
    · intro row uncovered
      simp only [saveBatch, samePayouts]
      exact mem_saveAll_of_not_covers _ sameIds distinct uncovered
    · rintro uploads - row stored ⟨payout, member, same⟩
      rcases (mem_saveAll_iff _ (sameIds ▸ distinct) row).mp stored with isSaved | ⟨-, other⟩
      · obtain ⟨original, inside, rfl⟩ := List.mem_map.mp isSaved
        exact ended.inTransit uploads original inside
      · have inIds : payout.id ∈ work.payouts.map (·.id) := List.mem_map_of_mem member
        rw [← sameIds] at inIds
        obtain ⟨written, inside, isSame⟩ := List.mem_map.mp inIds
        exact absurd (isSame.trans same) (other written inside)

/-- Making a batch has the effect of one. -/
theorem createPayoutBatch_effect (distinct : (payouts.map (·.id)).Nodup) :
    BatchEffect calls payouts payoutLines state
      (state.createPayoutBatch calls batchId day payerAccountNumber payerCityCode payouts
        payoutLines).1
      (state.createPayoutBatch calls batchId day payerAccountNumber payerCityCode payouts
        payoutLines).2 := by
  have throws := state.createPayoutBatch_throws_iff calls batchId day payerAccountNumber
    payerCityCode payouts payoutLines
  by_cases opens : calls.Opens payouts payoutLines
  · obtain ⟨first, rest, rfl⟩ := List.exists_cons_of_ne_nil opens.1.1
    let work := state.batchWork batchId day first (first :: rest)
    let file := ScbPaymentFile.build work.payoutBatch day payerAccountNumber payerCityCode
      (first :: rest)
    have attempted : work.Attempted calls file payoutLines _ :=
      BatchWork.attempt_cases rfl calls day payerAccountNumber payerCityCode payoutLines
    obtain ⟨-, samePayouts, -⟩ := attempted.recover_keeps
    have ended := attempted.recovered
    obtain ⟨bucket, grows, quiet, others, inTransit⟩ :=
      finish_effect calls payoutLines distinct ended samePayouts
    have created : ∀ row : PayoutEntry, ¬Covers (first :: rest) row.id →
        (row ∈ work.state.payouts.rows ↔ row ∈ state.payouts.rows) := by
      intro row uncovered
      refine mem_saveAll_of_not_covers _ ?_ distinct uncovered
      rw [List.map_map]
      rfl
    rw [state.createPayoutBatch_opened _ _ _ _ _ _ opens] at throws ⊢
    exact
      { throws := throws
        sent := fun sends => ⟨file, bucket.trans (ended.sent sends.2),
          ⟨first, List.mem_cons_self, rfl⟩, pays_build_iff _ _ _ _ _⟩
        unsent := fun sends => bucket.trans (ended.unsent fun sent => sends ⟨opens, sent⟩)
        grows := grows
        quiet := quiet.trans ⟨fun all _ => all, fun all => all opens⟩
        others := fun row uncovered => (others row uncovered).trans (created row uncovered)
        inTransit := fun _ => inTransit }
  · have unchanged := state.createPayoutBatch_unopened calls batchId day payerAccountNumber
      payerCityCode payouts payoutLines opens
    exact
      { throws := throws
        sent := fun sends => absurd sends.1 opens
        unsent := fun _ => congrArg bucket unchanged
        grows := unchanged.symm ▸ List.prefix_rfl
        quiet := iff_of_true (congrArg logged unchanged) fun opened => absurd opened opens
        others := fun row _ => by rw [unchanged]
        inTransit := fun opened => absurd opened opens }

end PaymentState

/-! ### Payouts that are paid once -/

/-- No payout is paid by two of the bank files. -/
def NonePaidTwice (bucket : List ScbPaymentFile) : Prop :=
  bucket.Pairwise fun first second => ∀ payoutId, ¬(first.pays payoutId ∧ second.pays payoutId)

/-- No payout is paid twice, and none that is paid is still scheduled. -/
structure PaymentState.PaysOnce (state : PaymentState) : Prop where
  once : NonePaidTwice state.bucket
  settled : ∀ file ∈ state.bucket, ∀ row ∈ state.payouts.rows, file.pays row.id →
    row.status ≠ .scheduled

/-- The payouts are scheduled as they are stored. -/
def PaymentState.Holds (state : PaymentState) (payouts : List PayoutEntry) : Prop :=
  ∀ payout ∈ payouts, payout ∈ state.payouts.rows ∧ payout.status = .scheduled

/-- Once the bank file is uploaded everything else is, and the batch is saved. -/
def BatchCalls.Closes (calls : BatchCalls) (payouts : List PayoutEntry)
    (payoutLines : List PayoutLineEntry) : Prop :=
  calls.Sends payouts payoutLines → calls.Uploads ∧ calls.saveBatch = none

namespace BatchEffect

variable {calls : BatchCalls} {payouts : List PayoutEntry} {payoutLines : List PayoutLineEntry}
  {state after : PaymentState} {error : Option AppError}

/-- A file among those that are there does not pay a payout that is still scheduled. -/
theorem not_pays_of_covers (once : state.PaysOnce) (held : state.Holds payouts)
    {file : ScbPaymentFile} (uploaded : file ∈ state.bucket) {payoutId : Uuid}
    (covered : Covers payouts payoutId) : ¬file.pays payoutId := by
  rintro pays
  obtain ⟨payout, member, rfl⟩ := covered
  obtain ⟨stored, scheduled⟩ := held payout member
  exact once.settled file uploaded payout stored pays scheduled

/-- A batch that closes pays its payouts for the first and the last time. -/
theorem paysOnce (effect : BatchEffect calls payouts payoutLines state after error)
    (once : state.PaysOnce) (held : state.Holds payouts)
    (closes : calls.Closes payouts payoutLines) : after.PaysOnce := by
  have unpaid := @not_pays_of_covers payouts state once held
  have old : ∀ file ∈ state.bucket, ∀ row ∈ after.payouts.rows, file.pays row.id →
      row.status ≠ .scheduled := by
    intro file uploaded row stored pays
    by_cases covered : Covers payouts row.id
    · exact absurd pays (unpaid uploaded covered)
    · exact once.settled file uploaded row ((effect.others row covered).mp stored) pays
  by_cases sends : calls.Sends payouts payoutLines
  · obtain ⟨file, bucket, paysFor⟩ := effect.sent sends
    obtain ⟨uploads, saved⟩ := closes sends
    constructor
    · rw [NonePaidTwice, bucket, List.pairwise_append]
      refine ⟨once.once, List.pairwise_singleton _ _, ?_⟩
      rintro first uploaded second isNew payoutId ⟨paid, paidAgain⟩
      rw [List.mem_singleton.mp isNew] at paidAgain
      exact unpaid uploaded ((paysFor.pays payoutId).mp paidAgain) paid
    · rw [bucket]
      intro other uploaded row stored pays
      rcases List.mem_append.mp uploaded with earlier | isNew
      · exact old other earlier row stored pays
      · rw [List.mem_singleton.mp isNew] at pays
        rw [effect.inTransit sends.1 uploads saved row stored ((paysFor.pays row.id).mp pays)]
        simp
  · have bucket := effect.unsent sends
    exact
      { once := by
          rw [NonePaidTwice, bucket]
          exact once.once
        settled := by
          rw [bucket]
          exact old }

/-- The files that are uploaded come last. -/
theorem uploaded (effect : BatchEffect calls payouts payoutLines state after error) :
    ∃ files, after.bucket = state.bucket ++ files ∧
      ∀ file ∈ files, calls.Sends payouts payoutLines ∧ PaysFor file payouts := by
  by_cases sends : calls.Sends payouts payoutLines
  · obtain ⟨file, bucket, paysFor⟩ := effect.sent sends
    refine ⟨[file], bucket, fun other member => ?_⟩
    rw [List.mem_singleton.mp member]
    exact ⟨sends, paysFor⟩
  · refine ⟨[], ?_, fun file impossible => absurd impossible List.not_mem_nil⟩
    rw [effect.unsent sends, List.append_nil]

theorem bucket_grows (effect : BatchEffect calls payouts payoutLines state after error) :
    state.bucket <+: after.bucket := by
  obtain ⟨files, bucket, -⟩ := effect.uploaded
  exact ⟨files, bucket.symm⟩

/-- The payouts of other batches are left as they are. -/
theorem holds (effect : BatchEffect calls payouts payoutLines state after error)
    {others : List PayoutEntry} (apart : ∀ payout ∈ others, ¬Covers payouts payout.id)
    (held : state.Holds others) : after.Holds others := by
  intro payout member
  obtain ⟨stored, scheduled⟩ := held payout member
  exact ⟨(effect.others payout (apart payout member)).mpr stored, scheduled⟩

end BatchEffect

namespace PaymentState

variable (state : PaymentState) (run : PaymentRun)

/-- The payouts a run picks are scheduled. -/
theorem picked_eq_ok {payouts : List PayoutEntry} {payoutLines : List PayoutLineEntry}
    (picks : state.picked run = .ok (payouts, payoutLines)) :
    payouts = state.scheduledPayouts ∧
      payoutLines = state.findPayoutLines (payouts.map (·.id)) := by
  unfold picked at picks
  cases found : run.findScheduledPayouts <;> cases column : run.unknownColumn <;>
    cases lines : run.findPayoutLines <;>
      simp [found, column, lines, awaited, findScheduledPayouts, bind, Except.bind, pure,
        Except.pure] at picks
  obtain ⟨rfl, rfl⟩ := picks
  exact ⟨rfl, rfl⟩

theorem sieve_holds (tenant : Tenant) :
    state.Holds (sievePayoutsByTenant tenant state.scheduledPayouts) := by
  intro payout member
  obtain ⟨inside, -⟩ := List.mem_filter.mp member
  obtain ⟨stored, chosen⟩ := List.mem_filter.mp inside
  exact ⟨stored, (of_decide_eq_true chosen).1⟩

theorem sieve_distinct (tenant : Tenant) :
    ((sievePayoutsByTenant tenant state.scheduledPayouts).map (·.id)).Nodup :=
  state.payouts.distinct.sublist
    ((List.filter_sublist.trans List.filter_sublist).map _)

/-- The payouts of two tenants are different ones. -/
theorem sieve_apart {first second : Tenant} (other : first ≠ second) :
    ∀ payout ∈ sievePayoutsByTenant second state.scheduledPayouts,
      ¬Covers (sievePayoutsByTenant first state.scheduledPayouts) payout.id := by
  rintro payout member ⟨covering, inside, same⟩
  obtain ⟨firstPicked, isFirst⟩ := List.mem_filter.mp inside
  obtain ⟨secondPicked, isSecond⟩ := List.mem_filter.mp member
  have sameRow : covering = payout := List.inj_on_of_nodup_map state.payouts.distinct
    (List.mem_filter.mp firstPicked).1 (List.mem_filter.mp secondPicked).1 same
  subst sameRow
  exact other ((of_decide_eq_true isFirst).symm.trans (of_decide_eq_true isSecond))

theorem createBatchOf_effect (tenant : Tenant) {payouts : List PayoutEntry}
    (payoutLines : List PayoutLineEntry)
    (distinct : ((sievePayoutsByTenant tenant payouts).map (·.id)).Nodup) :
    BatchEffect (run.batch tenant) (sievePayoutsByTenant tenant payouts)
      (sievePayoutLinesByTenant tenant payoutLines) state
      (state.createBatchOf run tenant payouts payoutLines).1
      (state.createBatchOf run tenant payouts payoutLines).2 := by
  cases tenant with
  | daikin => exact createPayoutBatch_effect _ _ _ _ _ _ _ _ distinct
  | acson => exact createPayoutBatch_effect _ _ _ _ _ _ _ _ distinct

/-- The condition for a run: a batch whose bank file is uploaded closes. The second tenant's batch
is only made when that of the first throws nothing. -/
def ClosesBatches : Prop :=
  ∀ payouts payoutLines, state.picked run = .ok (payouts, payoutLines) →
    (run.batch .daikin).Closes (sievePayoutsByTenant .daikin payouts)
        (sievePayoutLinesByTenant .daikin payoutLines) ∧
      (¬(run.batch .daikin).Throws (sievePayoutsByTenant .daikin payouts)
          (sievePayoutLinesByTenant .daikin payoutLines) →
        (run.batch .acson).Closes (sievePayoutsByTenant .acson payouts)
          (sievePayoutLinesByTenant .acson payoutLines))

/-- A run whose batches close pays no payout twice, and leaves none that it pays scheduled. -/
theorem generateAndUploadPaymentFiles_paysOnce (once : state.PaysOnce)
    (closes : state.ClosesBatches run) :
    (state.generateAndUploadPaymentFiles run).1.PaysOnce := by
  unfold generateAndUploadPaymentFiles
  cases picks : state.picked run with
  | error error => exact once
  | ok both =>
    obtain ⟨payouts, payoutLines⟩ := both
    obtain ⟨closesFirst, closesSecond⟩ := closes payouts payoutLines picks
    obtain ⟨rfl, -⟩ := state.picked_eq_ok run picks
    have effect := state.createBatchOf_effect run .daikin payoutLines (state.sieve_distinct .daikin)
    have first := effect.paysOnce once (state.sieve_holds .daikin) closesFirst
    have held := effect.holds (state.sieve_apart (by decide)) (state.sieve_holds .acson)
    have throws := effect.throws
    rcases made : state.createBatchOf run .daikin state.scheduledPayouts payoutLines with
      ⟨after, error⟩
    rw [made] at effect first held throws
    simp only [made]
    cases error with
    | some error => exact first
    | none =>
      have second := after.createBatchOf_effect run .acson payoutLines
        (state.sieve_distinct .acson)
      exact second.paysOnce first held (closesSecond fun threw => throws.mpr threw rfl)

/-- What a run leaves. -/
def afterRun (state : PaymentState) (run : PaymentRun) : PaymentState :=
  (state.generateAndUploadPaymentFiles run).1

/-- Over runs that close their batches, no payout is paid by two of the bank files they upload. -/
theorem nonePaidTwice_throughout (state : PaymentState) (runs : List PaymentRun)
    (none : state.bucket = []) (closes : Along afterRun ClosesBatches state runs) :
    Throughout afterRun (fun reached => NonePaidTwice reached.bucket) state runs := by
  refine throughout_of_invariant afterRun ClosesBatches PaysOnce _
    (fun state run => generateAndUploadPaymentFiles_paysOnce state run)
    (fun reached once => once.once) state runs ?_ closes
  constructor
  · rw [NonePaidTwice, none]
    exact List.Pairwise.nil
  · rw [none]
    exact fun file impossible => absurd impossible List.not_mem_nil

/-- A run in which all calls but the upload of the payout summary succeed, which ends as given. -/
def exampleRun (uploadPayoutSummaryFile : Except AppError String) (batchId : Uuid) :
    PaymentRun where
  unknownColumn := .ignored
  tenantOptions := fun _ => ⟨"1234567890", "KUL"⟩
  day := ScheduledBatch.examplePaymentDay
  batchId := fun _ => batchId
  findScheduledPayouts := none
  findPayoutLines := none
  batch := fun _ =>
    ⟨none, none, .ok "scb", uploadPayoutSummaryFile, .ok "lines", none, none⟩

def exampleBatchId : Uuid := ⟨"b1", by decide⟩

def exampleLaterBatchId : Uuid := ⟨"b2", by decide⟩

/-- Two runs in which everything succeeds pay the payout once. -/
theorem nonePaidTwice_throughout_uploaded :
    Throughout afterRun (fun reached => NonePaidTwice reached.bucket)
      ScheduledBatch.examplePaymentState
      [exampleRun (.ok "summary") exampleBatchId, exampleRun (.ok "summary") exampleLaterBatchId] :=
  have uploads : ∀ batchId tenant, ((exampleRun (.ok "summary") batchId).batch tenant).Uploads ∧
      ((exampleRun (.ok "summary") batchId).batch tenant).saveBatch = none := fun _ _ =>
    ⟨⟨⟨_, rfl⟩, ⟨_, rfl⟩, ⟨_, rfl⟩⟩, rfl⟩
  have closes : ∀ state batchId, ClosesBatches state (exampleRun (.ok "summary") batchId) :=
    fun _ _ _ _ _ => ⟨fun _ => uploads _ _, fun _ _ => uploads _ _⟩
  nonePaidTwice_throughout ScheduledBatch.examplePaymentState _ rfl
    ⟨closes _ _, closes _ _, trivial⟩

/-- The upload of the payout summary fails, and the next run pays the payout again. -/
theorem not_nonePaidTwice_failed_upload :
    ¬Throughout afterRun (fun reached => NonePaidTwice reached.bucket)
      ScheduledBatch.examplePaymentState
      [exampleRun (.error (.error "access denied")) exampleBatchId,
        exampleRun (.ok "summary") exampleLaterBatchId] := by
  intro throughout
  have once := throughout _ List.prefix_rfl
  have twice : (run afterRun ScheduledBatch.examplePaymentState
      [exampleRun (.error (.error "access denied")) exampleBatchId,
        exampleRun (.ok "summary") exampleLaterBatchId]).bucket.map
          (·.pays ScheduledBatch.exampleEntryId) = [true, true] := by
    decide +kernel
  have apart : [true, true].Pairwise fun first second : Bool =>
      ¬(first = true ∧ second = true) := by
    rw [← twice, List.pairwise_map]
    exact once.imp fun none => none ScheduledBatch.exampleEntryId
  simp at apart

end PaymentState

end FieldService
