/-
This file settles which payouts the next run of the payment files collects.

A payout that has been saved for a payable provider has the bank account that the query for
scheduled payouts asks for, but the query also asks for a vendor that an account does not have.
Where that is passed over, the run picks the payout. What it then does with it depends on the lines
of its tenant: several payouts without a line are an error, and a single one without a line is
left behind without a word.
-/

import FieldService.Payout.Uploads

namespace FieldService

open Table

/-! ### What a run does with a payout -/

/-- A batch of payouts that neither throws, nor logs, nor uploads a bank file is that of a single
payout without lines. -/
theorem BatchCalls.silent_iff (calls : BatchCalls) {payouts : List PayoutEntry}
    {payoutLines : List PayoutLineEntry} (nonempty : payouts ≠ []) :
    ¬calls.Throws payouts payoutLines ∧ calls.Quiet payouts payoutLines ∧
        ¬calls.Sends payouts payoutLines ↔
      payouts.length = 1 ∧ payoutLines = [] := by
  have positive := List.length_pos_iff.mpr nonempty
  constructor
  · rintro ⟨quietly, quiet, unsent⟩
    have unopened : ¬calls.Opens payouts payoutLines := fun opens =>
      unsent ⟨opens, (quiet opens).1.1⟩
    have noLines : payoutLines = [] := by
      by_contra lines
      refine quietly (Or.inr ⟨⟨nonempty, lines⟩, fun called => ?_⟩)
      exact unopened ⟨⟨nonempty, lines⟩, called⟩
    refine ⟨?_, noLines⟩
    by_contra several
    exact quietly (Or.inl ⟨by omega, noLines⟩)
  · rintro ⟨single, rfl⟩
    have unopened : ¬calls.Opens payouts [] := fun opens => opens.1.2 rfl
    refine ⟨?_, fun opens => absurd opens unopened, fun sends => unopened sends.1⟩
    rintro (⟨several, -⟩ | ⟨⟨-, lines⟩, -⟩)
    · omega
    · exact lines rfl

/-- A file that a batch uploads is among those its run uploads. -/
theorem mem_uploaded {earlier later uploaded : List ScbPaymentFile} {file : ScbPaymentFile}
    (grows : earlier <+: later) (isNew : later ++ [file] <+: uploaded) :
    file ∈ uploaded.drop earlier.length := by
  obtain ⟨between, rfl⟩ := grows
  obtain ⟨after, rfl⟩ := isNew
  simp

namespace PaymentState

variable (state : PaymentState) (run : PaymentRun)

/-- The lines a run works on. -/
def scheduledLines : List PayoutLineEntry :=
  state.findPayoutLines (state.scheduledPayouts.map (·.id))

/-- The batch of a tenant, in a run that picks what is scheduled, throws. -/
def ThrowsFor (tenant : Tenant) : Prop :=
  (run.batch tenant).Throws (sievePayoutsByTenant tenant state.scheduledPayouts)
    (sievePayoutLinesByTenant tenant state.scheduledLines)

/-- It logs nothing. -/
def QuietFor (tenant : Tenant) : Prop :=
  (run.batch tenant).Quiet (sievePayoutsByTenant tenant state.scheduledPayouts)
    (sievePayoutLinesByTenant tenant state.scheduledLines)

/-- It uploads a bank file. -/
def SendsFor (tenant : Tenant) : Prop :=
  (run.batch tenant).Sends (sievePayoutsByTenant tenant state.scheduledPayouts)
    (sievePayoutLinesByTenant tenant state.scheduledLines)

/-- The query for scheduled payouts selects the row. -/
def Selects (row : PayoutEntry) : Prop :=
  ∃ payouts, state.findScheduledPayouts run.unknownColumn = .ok payouts ∧ row ∈ payouts

/-- A bank file of the tenant of the row, uploaded by the run, has a `P` record for it. -/
def Pays (row : PayoutEntry) : Prop :=
  ∃ file ∈ (state.afterRun run).bucket.drop state.bucket.length,
    file.principalGroup = row.principalGroup ∧ file.pays row.id = true

/-- The run throws or logs an error. -/
def Reports : Prop :=
  (state.generateAndUploadPaymentFiles run).2 ≠ none ∨ (state.afterRun run).logged ≠ state.logged

/-- The run picks the payout, and either pays it or reports an error. -/
def Collects (row : PayoutEntry) : Prop :=
  state.Selects run row ∧ (state.Pays run row ∨ state.Reports run)

/-- The run works on the payout, as the only one of its tenant and without any line of the
tenant, and nothing goes wrong with the batch of the other tenant. -/
structure PassesOver (row : PayoutEntry) : Prop where
  queried : run.findScheduledPayouts = none ∧ run.findPayoutLines = none
  alone : (sievePayoutsByTenant row.principalGroup state.scheduledPayouts).length = 1
  withoutLines : sievePayoutLinesByTenant row.principalGroup state.scheduledLines = []
  others : ∀ tenant, tenant ≠ row.principalGroup →
    ¬state.ThrowsFor run tenant ∧ state.QuietFor run tenant

variable {state run}

/-- A run without an error in its queries is the batch of one tenant after that of the other. -/
theorem picked_of_queried (ignored : run.unknownColumn = .ignored)
    (queried : run.findScheduledPayouts = none ∧ run.findPayoutLines = none) :
    state.picked run = .ok (state.scheduledPayouts, state.scheduledLines) := by
  rw [picked, queried.1, queried.2, ignored]
  rfl

theorem reports_of_unqueried (ignored : run.unknownColumn = .ignored)
    (unqueried : ¬(run.findScheduledPayouts = none ∧ run.findPayoutLines = none)) :
    state.Reports run := by
  refine Or.inl ?_
  have fails : ∃ error, state.picked run = .error error := by
    rw [picked, ignored]
    cases found : run.findScheduledPayouts with
    | some error => exact ⟨error, rfl⟩
    | none =>
      cases lines : run.findPayoutLines with
      | some error => exact ⟨error, rfl⟩
      | none => exact absurd ⟨found, lines⟩ unqueried
  obtain ⟨error, failed⟩ := fails
  rw [generateAndUploadPaymentFiles, failed]
  exact Option.some_ne_none error

/-- What the two batches of a run do, the second being left out when the first one throws. -/
inductive BothBatches (state : PaymentState) (run : PaymentRun) :
    PaymentState × Option AppError → Prop where
  | thrown (after : PaymentState) (error : AppError) (throws : state.ThrowsFor run .daikin) :
    BothBatches state run (after, some error)
  | made (first after : PaymentState) (error : Option AppError)
      (returns : ¬state.ThrowsFor run .daikin)
      (daikin : BatchEffect (run.batch .daikin)
        (sievePayoutsByTenant .daikin state.scheduledPayouts)
        (sievePayoutLinesByTenant .daikin state.scheduledLines) state first none)
      (acson : BatchEffect (run.batch .acson)
        (sievePayoutsByTenant .acson state.scheduledPayouts)
        (sievePayoutLinesByTenant .acson state.scheduledLines) first after error) :
    BothBatches state run (after, error)

theorem bothBatches
    (picks : state.picked run = .ok (state.scheduledPayouts, state.scheduledLines)) :
    BothBatches state run (state.generateAndUploadPaymentFiles run) := by
  rw [generateAndUploadPaymentFiles, picks]
  have first := state.createBatchOf_effect run .daikin state.scheduledLines
    (state.sieve_distinct .daikin)
  rcases made : state.createBatchOf run .daikin state.scheduledPayouts state.scheduledLines with
    ⟨after, error⟩
  rw [made] at first
  simp only [made]
  cases error with
  | some error => exact .thrown after error (first.throws.mp (Option.some_ne_none error))
  | none =>
    refine .made after _ _ (fun threw => first.throws.mpr threw rfl) first ?_
    exact after.createBatchOf_effect run .acson state.scheduledLines (state.sieve_distinct .acson)

/-- A run that throws nothing and logs nothing is one whose batches do neither. -/
theorem reports_iff
    (picks : state.picked run = .ok (state.scheduledPayouts, state.scheduledLines)) :
    state.Reports run ↔ ∃ tenant, state.ThrowsFor run tenant ∨ ¬state.QuietFor run tenant := by
  have both := bothBatches picks
  rw [Reports, afterRun]
  generalize state.generateAndUploadPaymentFiles run = result at both ⊢
  cases both with
  | thrown after error throws =>
    exact iff_of_true (Or.inl (Option.some_ne_none error)) ⟨.daikin, Or.inl throws⟩
  | made first after error returns daikin acson =>
    have logged : after.logged = state.logged ↔
        state.QuietFor run .daikin ∧ state.QuietFor run .acson := by
      rw [QuietFor, QuietFor, ← daikin.quiet, ← acson.quiet]
      constructor
      · intro same
        have first_eq : first.logged = state.logged :=
          (daikin.grows.eq_of_length_le (same ▸ acson.grows.length_le)).symm
        exact ⟨first_eq, same.trans first_eq.symm⟩
      · rintro ⟨same, sameAgain⟩
        exact sameAgain.trans same
    refine (or_congr acson.throws (not_congr logged)).trans ?_
    rw [not_and_or]
    constructor
    · rintro (throws | unquiet | unquiet)
      · exact ⟨.acson, Or.inl throws⟩
      · exact ⟨.daikin, Or.inr unquiet⟩
      · exact ⟨.acson, Or.inr unquiet⟩
    · rintro ⟨tenant, found⟩
      cases tenant with
      | daikin => exact Or.inr (Or.inl (found.resolve_left returns))
      | acson => exact found.imp id Or.inr

/-- The payouts that a tenant's bank file pays are those of the tenant. -/
theorem paysFor_tenant {tenant : Tenant} {file : ScbPaymentFile}
    (paysFor : PaysFor file (sievePayoutsByTenant tenant state.scheduledPayouts))
    {row : PayoutEntry} (member : row ∈ sievePayoutsByTenant tenant state.scheduledPayouts) :
    file.principalGroup = row.principalGroup ∧ file.pays row.id = true := by
  obtain ⟨payout, inside, same⟩ := paysFor.tenant
  refine ⟨?_, (paysFor.pays row.id).mpr ⟨row, member, rfl⟩⟩
  rw [same, of_decide_eq_true (List.mem_filter.mp inside).2,
    of_decide_eq_true (List.mem_filter.mp member).2]

/-- A payout whose tenant's bank file is uploaded is paid, or the run has thrown before. -/
theorem pays_or_reports_of_sends
    (picks : state.picked run = .ok (state.scheduledPayouts, state.scheduledLines))
    {tenant : Tenant} {row : PayoutEntry}
    (member : row ∈ sievePayoutsByTenant tenant state.scheduledPayouts)
    (sends : state.SendsFor run tenant) : state.Pays run row ∨ state.Reports run := by
  have both := bothBatches picks
  rw [Pays, Reports, afterRun]
  generalize state.generateAndUploadPaymentFiles run = result at both ⊢
  cases both with
  | thrown after error throws => exact Or.inr (Or.inl (Option.some_ne_none error))
  | made first after error returns daikin acson =>
    refine Or.inl ?_
    cases tenant with
    | daikin =>
      obtain ⟨file, bucket, paysFor⟩ := daikin.sent sends
      refine ⟨file, mem_uploaded List.prefix_rfl ?_, paysFor_tenant paysFor member⟩
      rw [← bucket]
      exact acson.bucket_grows
    | acson =>
      obtain ⟨file, bucket, paysFor⟩ := acson.sent sends
      refine ⟨file, mem_uploaded daikin.bucket_grows ?_, paysFor_tenant paysFor member⟩
      exact bucket ▸ List.prefix_rfl

/-- A file that the run uploads and that pays a payout is the bank file of a batch that has it. -/
theorem sends_of_pays
    (picks : state.picked run = .ok (state.scheduledPayouts, state.scheduledLines))
    {row : PayoutEntry} (returns : ¬state.Reports run)
    (pays : state.Pays run row) : state.SendsFor run row.principalGroup := by
  have both := bothBatches picks
  rw [Reports, afterRun] at returns
  obtain ⟨file, uploaded, sameTenant, paysRow⟩ := pays
  rw [afterRun] at uploaded
  generalize state.generateAndUploadPaymentFiles run = result at both returns uploaded
  have ofTenant : ∀ tenant, PaysFor file (sievePayoutsByTenant tenant state.scheduledPayouts) →
      tenant = row.principalGroup := by
    intro tenant paysFor
    obtain ⟨payout, inside, same⟩ := paysFor.tenant
    rw [← sameTenant, same, of_decide_eq_true (List.mem_filter.mp inside).2]
  cases both with
  | thrown after error throws => exact absurd (Or.inl (Option.some_ne_none error)) returns
  | made first after error made daikin acson =>
    obtain ⟨firstFiles, firstBucket, firstSent⟩ := daikin.uploaded
    obtain ⟨secondFiles, secondBucket, secondSent⟩ := acson.uploaded
    rw [secondBucket, firstBucket, List.append_assoc, List.drop_left] at uploaded
    rcases List.mem_append.mp uploaded with inFirst | inSecond
    · obtain ⟨sends, paysFor⟩ := firstSent file inFirst
      exact ofTenant .daikin paysFor ▸ sends
    · obtain ⟨sends, paysFor⟩ := secondSent file inSecond
      exact ofTenant .acson paysFor ▸ sends

/-- A payout that is picked is left behind in silence exactly if it is passed over. -/
theorem collects_iff_of_selected (ignored : run.unknownColumn = .ignored) {row : PayoutEntry}
    (selected : row ∈ state.scheduledPayouts) :
    state.Pays run row ∨ state.Reports run ↔ ¬state.PassesOver run row := by
  by_cases queried : run.findScheduledPayouts = none ∧ run.findPayoutLines = none
  · have picks := @picked_of_queried state run ignored queried
    have member : row ∈ sievePayoutsByTenant row.principalGroup state.scheduledPayouts :=
      List.mem_filter.mpr ⟨selected, decide_eq_true rfl⟩
    have silent : ¬state.ThrowsFor run row.principalGroup ∧
        state.QuietFor run row.principalGroup ∧ ¬state.SendsFor run row.principalGroup ↔
          (sievePayoutsByTenant row.principalGroup state.scheduledPayouts).length = 1 ∧
            sievePayoutLinesByTenant row.principalGroup state.scheduledLines = [] :=
      BatchCalls.silent_iff _ (List.ne_nil_of_mem member)
    constructor
    · intro collected passes
      obtain ⟨returns, quiet, unsent⟩ := silent.mpr ⟨passes.alone, passes.withoutLines⟩
      have unreported : ¬state.Reports run := by
        rw [reports_iff picks]
        rintro ⟨tenant, wrong⟩
        by_cases own : tenant = row.principalGroup
        · subst own
          exact wrong.elim returns fun unquiet => unquiet quiet
        · obtain ⟨returnsToo, quietToo⟩ := passes.others tenant own
          exact wrong.elim returnsToo fun unquiet => unquiet quietToo
      exact unsent (sends_of_pays picks unreported (collected.resolve_right unreported))
    · intro notPassed
      by_contra uncollected
      obtain ⟨unpaid, unreported⟩ := not_or.mp uncollected
      have quietly : ∀ tenant, ¬state.ThrowsFor run tenant ∧ state.QuietFor run tenant := by
        intro tenant
        by_contra wrong
        refine unreported ((reports_iff picks).mpr ⟨tenant, ?_⟩)
        exact (not_and_or.mp wrong).imp not_not.mp id
      have unsent : ¬state.SendsFor run row.principalGroup := fun sends =>
        (pays_or_reports_of_sends picks member sends).elim unpaid unreported
      obtain ⟨returns, quiet⟩ := quietly row.principalGroup
      obtain ⟨alone, withoutLines⟩ := silent.mp ⟨returns, quiet, unsent⟩
      exact notPassed ⟨queried, alone, withoutLines, fun tenant _ => quietly tenant⟩
  · exact iff_of_true (Or.inr (reports_of_unqueried ignored queried)) fun passes =>
      queried passes.queried

end PaymentState

/-! ### Payouts that wait for a run -/

namespace PayoutDatabase

/-- The row of a payout that the scheduling has saved, still scheduled and with the bank account
it was saved with. -/
structure Awaits (database : PayoutDatabase) (calls : SchedulingCalls) (ids : PayoutIds)
    (state : PaymentState) (row : PayoutEntry) : Prop where
  saves : calls.beforeSaved = none
  payout : ∃ payout ∈ database.newPayouts, row.id = payout.id ids ∧ row.bank = payout.bank
  stored : row ∈ state.payouts.rows
  scheduled : row.status = .scheduled

/-- The account of a payout is one that can be paid. -/
theorem newPayouts_payable {database : PayoutDatabase} {payout : NewPayout}
    (created : payout ∈ database.newPayouts) : payout.bank.isPayable = true := by
  obtain ⟨group, -, made⟩ := PayoutFactory.mem_create created
  have payable := (List.mem_filter.mp made.owner).2
  rw [Bool.and_eq_true] at payable
  rw [made.bank]
  exact payable.2

/-- The next run collects a payout exactly if its query passes over the vendor and the payout is
not passed over as the only one of its tenant, without lines. -/
theorem collects_iff {database : PayoutDatabase} {calls : SchedulingCalls} {ids : PayoutIds}
    {state : PaymentState} {row : PayoutEntry} (awaits : database.Awaits calls ids state row)
    (run : PaymentRun) :
    state.Collects run row ↔ run.unknownColumn = .ignored ∧ ¬state.PassesOver run row := by
  obtain ⟨payout, created, -, sameBank⟩ := awaits.payout
  have selected : row ∈ state.scheduledPayouts := by
    refine List.mem_filter.mpr ⟨awaits.stored, decide_eq_true ⟨awaits.scheduled, ?_⟩⟩
    rw [sameBank]
    exact newPayouts_payable created
  cases column : run.unknownColumn with
  | rejected =>
    refine iff_of_false ?_ fun both => absurd both.1 (by simp)
    rintro ⟨⟨payouts, found, -⟩, -⟩
    rw [column] at found
    cases found
  | ignored =>
    rw [PaymentState.Collects, PaymentState.collects_iff_of_selected column selected]
    refine and_congr_left fun _ => iff_of_true ⟨_, ?_, selected⟩ rfl
    rw [column]
    rfl

/-- What the payment files see of the database. -/
def toPaymentState (database : PayoutDatabase) : PaymentState :=
  ⟨database.payouts, database.payoutLines, .empty, [], []⟩

/-- The database after the lines have failed for want of a payee. -/
def exampleStranded : PayoutDatabase :=
  (exampleDatabase.schedulePayoutsFromWalletTransactions exampleSchedulingCalls
    Settlement.examplePayoutIds examplePayoutLineIds).1

/-- The only payout that has been saved. -/
def exampleStrandedEntry : PayoutEntry :=
  ⟨⟨⟨⟨"1c7d|DMSS|", by decide⟩, 100, Settlement.exampleEarner, .daikin⟩, .scheduled, 0⟩,
    examplePayee.bank, examplePayee, none⟩

theorem exampleStranded_awaits :
    exampleDatabase.Awaits exampleSchedulingCalls Settlement.examplePayoutIds
      exampleStranded.toPaymentState exampleStrandedEntry where
  saves := rfl
  payout := by
    have created : exampleDatabase.newPayouts.any (fun payout =>
        exampleStrandedEntry.id = payout.id Settlement.examplePayoutIds ∧
          exampleStrandedEntry.bank = payout.bank) = true := by
      decide +kernel
    obtain ⟨payout, member, same⟩ := List.any_eq_true.mp created
    exact ⟨payout, member, of_decide_eq_true same⟩
  stored := by decide +kernel
  scheduled := rfl

theorem collects_iff_stranded :
    exampleStranded.toPaymentState.Collects
        (PaymentState.exampleRun (.ok "summary") PaymentState.exampleBatchId)
        exampleStrandedEntry ↔
      (PaymentState.exampleRun (.ok "summary") PaymentState.exampleBatchId).unknownColumn =
          .ignored ∧
        ¬exampleStranded.toPaymentState.PassesOver
          (PaymentState.exampleRun (.ok "summary") PaymentState.exampleBatchId)
          exampleStrandedEntry :=
  collects_iff exampleStranded_awaits _

/-- The scheduling saves the payout and fails to make its lines. The next run, in which no call
fails, leaves the payout behind and says nothing. -/
theorem not_collects_stranded :
    ¬exampleStranded.toPaymentState.Collects
      (PaymentState.exampleRun (.ok "summary") PaymentState.exampleBatchId)
      exampleStrandedEntry := by
  have unsent : (exampleStranded.toPaymentState.afterRun
      (PaymentState.exampleRun (.ok "summary") PaymentState.exampleBatchId)).bucket = [] := by
    decide +kernel
  have returned : (exampleStranded.toPaymentState.generateAndUploadPaymentFiles
      (PaymentState.exampleRun (.ok "summary") PaymentState.exampleBatchId)).2 = none := by
    decide +kernel
  have unlogged : (exampleStranded.toPaymentState.afterRun
      (PaymentState.exampleRun (.ok "summary") PaymentState.exampleBatchId)).logged = [] := by
    decide +kernel
  rintro ⟨-, ⟨file, uploaded, -⟩ | thrown | logged⟩
  · rw [unsent, List.drop_nil] at uploaded
    cases uploaded
  · exact thrown returned
  · exact logged unlogged

end PayoutDatabase

end FieldService
