/-
This file proves what a run over the return files of the bank comes to: the payouts that are paid
afterwards are those of which every line has been named.

A return file is confirmed line by line, and each confirmation is carried to its end before the next
begins. That is one of the orders in which the calls of confirmations may come, with the releases
left to wait (`Disbursement.exists_run_confirmed`), so what holds for every order holds here.
-/

import FieldService.Payout.Completion

namespace FieldService

open Execution Table

/-- How many calls there are to the end of a handler, at most. -/
def PayoutTask.remaining : PayoutTask → Nat
  | .saveLines _ _ => 5
  | .increment _ _ _ => 4
  | .findPayout _ => 3
  | .update _ _ => 2
  | .savePayout _ => 2
  | .releaseBalanceForPayout _ => 1

namespace Disbursement

variable {disbursement : Disbursement} {task : PayoutTask} {tasks : List PayoutTask}

/-! ### Confirmations one after another -/

/-- A call does not look at what else waits. -/
theorem perform_withTasks (disbursement : Disbursement) (others : List PayoutTask)
    (task : PayoutTask) :
    ({ disbursement with tasks := others } : Disbursement).perform task =
      (disbursement.perform task).map fun performed =>
        ({ performed.1 with tasks := others }, performed.2) := by
  cases task with
  | update id input =>
    rw [perform, perform]
    cases disbursement.payouts.find id <;> rfl
  | saveLines input lines => rfl
  | increment input payoutId amount =>
    rw [perform, perform]
    cases disbursement.payouts.find payoutId <;> rfl
  | findPayout payoutId =>
    rw [perform, perform]
    cases disbursement.payouts.find payoutId with
    | none => rfl
    | some payout =>
      dsimp only
      cases payout.hasPaymentFullyProcessed <;> rfl
  | savePayout payout => rfl
  | releaseBalanceForPayout payoutId =>
    rw [perform, perform]
    show (disbursement.accounts.releaseBalanceForPayout payoutId >>= _) = _
    cases disbursement.accounts.releaseBalanceForPayout payoutId <;> rfl

/-- There is one task at most after a call, with fewer calls to make. -/
theorem tasks_of_perform {next : Disbursement}
    (performs : disbursement.perform task = .ok (next, tasks)) :
    tasks = [] ∨ ∃ later, tasks = [later] ∧ later.remaining < task.remaining := by
  cases task with
  | update id input =>
    rw [perform] at performs
    split at performs <;> cases performs <;> exact Or.inr ⟨_, rfl, Nat.lt_succ_self _⟩
  | saveLines input lines =>
    cases performs
    cases lines with
    | nil => exact Or.inl rfl
    | cons first rest => exact Or.inr ⟨_, rfl, Nat.lt_succ_self _⟩
  | increment input payoutId amount =>
    rw [perform] at performs
    split at performs <;> cases performs
    exact Or.inr ⟨_, rfl, Nat.lt_succ_self _⟩
  | findPayout payoutId =>
    rw [perform] at performs
    split at performs
    · cases performs
    · split at performs <;> cases performs
      · exact Or.inl rfl
      · exact Or.inr ⟨_, rfl, Nat.lt_succ_self _⟩
  | savePayout payout =>
    cases performs
    exact Or.inr ⟨_, rfl, Nat.lt_succ_self _⟩
  | releaseBalanceForPayout payoutId =>
    obtain ⟨accounts, -, rest⟩ := bind_eq_ok performs
    cases rest
    exact Or.inl rfl

/-- A handler that goes on by itself, while others wait, does what it does alone. -/
theorem run_proceed (calls : Nat) (disbursement : Disbursement) (waiting tasks : List PayoutTask)
    (single : tasks = [] ∨ ∃ task, tasks = [task] ∧ task.remaining ≤ calls + 1) :
    ∃ left : List PayoutTask, (∀ later ∈ left, later.remaining ≤ 1) ∧
      run confirm { disbursement with tasks := waiting ++ tasks }
          (List.replicate calls (.proceed waiting.length)) =
        { (finish .none calls disbursement tasks).1 with tasks := waiting ++ left } := by
  induction calls generalizing disbursement tasks with
  | zero =>
    refine ⟨tasks, fun later member => ?_, by simp [finish]⟩
    obtain rfl | ⟨task, rfl, few⟩ := single
    · cases member
    · rw [List.mem_singleton.mp member]
      exact few
  | succ calls later =>
    rw [List.replicate_succ, run_cons]
    obtain rfl | ⟨task, rfl, few⟩ := single
    · have nothing : ({ disbursement with tasks := waiting ++ [] } : Disbursement).confirm
          (.proceed waiting.length) = { disbursement with tasks := waiting ++ [] } := by
        simp [confirm, ConfirmationAction.toDisbursement, step]
      rw [nothing]
      simpa [finish] using later disbursement [] (Or.inl rfl)
    · have called : ({ disbursement with tasks := waiting ++ [task] } : Disbursement).confirm
          (.proceed waiting.length) =
            ({ disbursement with tasks := waiting } : Disbursement).call task := by
        simp [confirm, ConfirmationAction.toDisbursement, step,
          List.eraseIdx_append_of_length_le le_rfl]
      rw [called, call, perform_withTasks]
      cases performs : disbursement.perform task with
      | error error =>
        have stops : finish .none (calls + 1) disbursement [task] = (disbursement, some error) :=
          finish_of_throw task (by cases task <;> rfl) performs
        rw [stops]
        simpa [Except.map, finish] using later disbursement [] (Or.inl rfl)
      | ok performed =>
        obtain ⟨next, tasks⟩ := performed
        rw [finish_of_perform task (by cases task <;> rfl) performs]
        refine later next tasks ((tasks_of_perform performs).imp_right ?_)
        rintro ⟨after, rfl, fewer⟩
        exact ⟨after, rfl, Nat.le_of_lt_succ (fewer.trans_le few)⟩

theorem isRelease_of_remaining (last : task.remaining ≤ 1) : task.isRelease = true := by
  cases task <;> first | rfl | cases Nat.le_of_succ_le_succ last

theorem heldLines_of_remaining (last : task.remaining ≤ 1) : task.heldLines = [] := by
  cases task <;> first | rfl | cases Nat.le_of_succ_le_succ last

/-- Confirmations that are carried to their ends one after another are one of the orders in which
the calls may come, with the releases left to wait. -/
theorem exists_run_confirmed (inputs : List MarkPayoutLinesAsPaidInput)
    (disbursement : Disbursement) (waiting : List PayoutTask)
    (releases : ∀ task ∈ waiting, task.remaining ≤ 1) :
    ∃ actions left, (∀ task ∈ left, task.remaining ≤ 1) ∧
      Along confirm Undoubled { disbursement with tasks := waiting } actions ∧
      run confirm { disbursement with tasks := waiting } actions =
        { run confirmed disbursement inputs with tasks := left } := by
  induction inputs generalizing disbursement waiting with
  | nil => exact ⟨[], waiting, releases, trivial, rfl⟩
  | cons input rest later =>
    let begun := (disbursement.markPayoutLinesAsPaid input).toOption.getD []
    have begins : ({ disbursement with tasks := waiting } : Disbursement).confirm
        (.markPayoutLinesAsPaid input) = { disbursement with tasks := waiting ++ begun } := by
      show ({ disbursement with tasks := waiting } : Disbursement).await
        (disbursement.markPayoutLinesAsPaid input) = _
      simp only [begun]
      cases disbursement.markPayoutLinesAsPaid input with
      | error error => simp [await, Except.toOption]
      | ok tasks => rfl
    have ends : disbursement.confirmed input = (finish .none 4 disbursement begun).1 := by
      rw [confirmed, confirmPayment, markPayoutLinesAsPaidToTheEnd]
      simp only [begun]
      cases disbursement.markPayoutLinesAsPaid input <;> rfl
    have single : begun = [] ∨ ∃ task, begun = [task] ∧ task.remaining ≤ 4 + 1 := by
      simp only [begun]
      cases loads : disbursement.markPayoutLinesAsPaid input with
      | error error => exact Or.inl rfl
      | ok tasks => exact Or.inr ⟨_, (markPayoutLinesAsPaid_eq_ok loads).2.2, le_rfl⟩
    obtain ⟨between, stillReleases, first⟩ := run_proceed 4 disbursement waiting begun single
    rw [← ends] at first
    obtain ⟨actions, left, onlyReleases, undoubled, second⟩ :=
      later (disbursement.confirmed input) (waiting ++ between)
        (List.forall_mem_append.mpr ⟨releases, stillReleases⟩)
    refine ⟨.markPayoutLinesAsPaid input ::
      (List.replicate 4 (.proceed waiting.length) ++ actions), left, onlyReleases,
      ⟨fun _ line _ task member held inside => ?_, ?_⟩, ?_⟩
    · rw [heldLines_of_remaining (releases task member)] at inside
      cases inside
    · rw [begins, along_append, first]
      refine ⟨along_of_actions confirm (fun action member state => ?_) _, undoubled⟩
      rw [List.eq_of_mem_replicate member]
      trivial
    · rw [run_cons, begins, run_append, first, second]
      rfl

/-! ### Return files -/

/-- A line that no payable payment names is left alone. -/
theorem mem_run_confirmed_of_unnamed {inputs : List MarkPayoutLinesAsPaidInput}
    {line : PayoutLineRow} (member : line ∈ disbursement.payoutLines.rows)
    (unnamed : ∀ input ∈ inputs, line.IsFor input → ¬disbursement.Payable input) :
    line ∈ (run confirmed disbursement inputs).payoutLines.rows := by
  induction inputs generalizing disbursement with
  | nil => exact member
  | cons first rest later =>
    refine later ?_ fun input among isFor payable => unnamed input
      (List.mem_cons_of_mem _ among) isFor (payable_of_confirmPayment payable)
    by_cases payable : disbursement.Payable first
    · refine (mem_confirmPayment_iff payable.saves line).mpr (Or.inr ⟨member, fun isFor => ?_⟩)
      exact unnamed first List.mem_cons_self isFor payable
    · rwa [confirmed, confirmPayment_of_not_saves fun saves => payable saves.2.1]

/-- A payout has all its lines paid after payments exactly if each has been paid before or is named
by a payment that can be applied. -/
theorem allPaid_run_confirmed_iff {inputs : List MarkPayoutLinesAsPaidInput}
    (continues : Continues disbursement (run confirmed disbursement inputs)) (payoutId : Uuid) :
    (run confirmed disbursement inputs).AllPaid payoutId ↔
      ∀ line ∈ disbursement.payoutLines.rows, line.payoutId = payoutId → line.status = .paid ∨
        ∃ input ∈ inputs, line.IsFor input ∧ disbursement.Payable input := by
  constructor
  · intro allPaid line member ofPayout
    by_contra neither
    obtain ⟨unpaid, unnamed⟩ := not_or.mp neither
    refine unpaid (allPaid line (mem_run_confirmed_of_unnamed member ?_) ofPayout)
    exact fun input among isFor payable => unnamed ⟨input, among, isFor, payable⟩
  · intro each row member ofPayout
    obtain ⟨line, before, same⟩ := continues.exists_line member
    have sameId : line.unpaid.id = row.unpaid.id := congrArg PayoutLineRow.id same
    have ofPayoutBefore := (PayoutLineRow.parts_of_unpaid same).2.1.trans ofPayout
    obtain ⟨paidRow, paidMember, paidId, paid⟩ :
        ∃ paidRow ∈ (run confirmed disbursement inputs).payoutLines.rows,
          paidRow.id = line.id ∧ paidRow.status = .paid := by
      obtain paid | ⟨input, among, isFor, payable⟩ := each line before ofPayoutBefore
      · exact ⟨line, mem_run_confirmed_of_paid inputs before paid, rfl, paid⟩
      · exact (run_confirmed payable before isFor inputs).1 ⟨input, among, rfl, rfl⟩
    have sameRow : paidRow = row := List.inj_on_of_nodup_map
      (run confirmed disbursement inputs).payoutLines.distinct paidMember member
      (paidId.trans sameId)
    rw [← sameRow]
    exact paid

/-- The books with other tasks are in order as well. -/
theorem InOrder.withTasks (inOrder : disbursement.InOrder) (others : List PayoutTask) :
    ({ disbursement with tasks := others } : Disbursement).InOrder where
  processed := inOrder.processed
  paid := inOrder.paid
  released := inOrder.released
  positive := inOrder.positive
  addsUp := inOrder.addsUp
  itemised := inOrder.itemised
  uniform := inOrder.uniform

end Disbursement

/-- When the books are in order, a payout is paid after a run over the return files exactly if every
line of it was paid before or is named, in a file that is read, by a payment that can be applied.
In whatever files and order the payments come, every payout has been processed for what its paid
lines come to. -/
theorem hasPaid_processPaymentStatus_iff (site : ReturnSite)
    (inOrder : site.disbursement.InOrder) (payoutOptions : Option PayoutOptions)
    (files : Option (List ListedFile)) :
    let after := (processPaymentStatus (fun _ => .none) payoutOptions files site).1.disbursement
    ∀ payout ∈ after.payouts.rows,
      payout.processedAmount = after.paidAmount payout.id ∧
      (after.hasPaid payout.id = true ↔ ∀ line ∈ site.disbursement.payoutLines.rows,
        line.payoutId = payout.id → line.status = .paid ∨
          ∃ input ∈ paymentsRead payoutOptions files,
            line.IsFor input ∧ site.disbursement.Payable input) := by
  intro after payout stored
  have ran : after = run Disbursement.confirmed site.disbursement
      (paymentsRead payoutOptions files) :=
    disbursement_processPaymentStatus _ payoutOptions files site
  obtain ⟨actions, left, releases, undoubled, reached⟩ := Disbursement.exists_run_confirmed
    (paymentsRead payoutOptions files) site.disbursement [] (by simp)
  rw [← ran] at reached
  obtain ⟨sound, pursued⟩ := (inOrder.withTasks []).pursued_run rfl undoubled
  rw [reached] at sound pursued
  have last : ∀ task ∈ left, task.isRelease = true := fun task member =>
    Disbursement.isRelease_of_remaining (releases task member)
  have books := sound.processed payout stored
  rw [Disbursement.owed_of_isRelease last, add_zero] at books
  refine ⟨books, (pursued.hasPaid_iff (inOrder.withTasks []) sound last stored).trans ?_⟩
  have continues : Disbursement.Continues site.disbursement after :=
    ⟨pursued.continues.lines, pursued.continues.payouts⟩
  rw [ran] at continues
  show after.AllPaid payout.id ↔ _
  rw [ran]
  exact Disbursement.allPaid_run_confirmed_iff continues payout.id

/-- A file names both lines of the first payout. -/
def exampleReturned : List ListedFile :=
  [(⟨"uber_paystatus_1.txt",
      "240101-a1b2c3d;2000001234;15453;01/2/2024\n240102-a1b2c3d;2000001235;15453;01/2/2024"⟩,
    ⟨.complete, true⟩)]

theorem hasPaid_processPaymentStatus_both :
    (processPaymentStatus (fun _ => .none) (some ⟨none⟩) (some exampleReturned)
        ⟨Disbursement.exampleTransit, ⟨[], []⟩⟩).1.disbursement.hasPaid
          (Accounts.examplePayoutId Settlement.exampleEarner) = true ∧
      ∀ line ∈ Disbursement.exampleTransit.payoutLines.rows,
        line.payoutId = Accounts.examplePayoutId Settlement.exampleEarner →
          line.status = .paid ∨ ∃ input ∈ paymentsRead (some ⟨none⟩) (some exampleReturned),
            line.IsFor input ∧ Disbursement.exampleTransit.Payable input := by
  have paid : (processPaymentStatus (fun _ => .none) (some ⟨none⟩) (some exampleReturned)
      ⟨Disbursement.exampleTransit, ⟨[], []⟩⟩).1.disbursement.hasPaid
        (Accounts.examplePayoutId Settlement.exampleEarner) = true := by
    decide +kernel
  have books := hasPaid_processPaymentStatus_iff ⟨Disbursement.exampleTransit, ⟨[], []⟩⟩
    Disbursement.inOrder_exampleTransit (some ⟨none⟩) (some exampleReturned)
    ⟨⟨Accounts.examplePayoutId Settlement.exampleEarner, 100, Settlement.exampleEarner, .daikin⟩,
      .paid, 100⟩ (by decide +kernel)
  exact ⟨paid, books.2.mp paid⟩

end FieldService
