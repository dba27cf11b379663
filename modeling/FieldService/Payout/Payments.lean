/-
This file follows one confirmation of a payment through all its calls of the database, any of which
may fail, and settles when a confirmation that throws has changed nothing.

The lines are loaded and marked as paid in memory, all of them or none. Then come up to four calls
that are awaited one after another, each with what the handlers that run side by side do as well
(`Disbursement.perform`): the lines are saved, their amount is added onto the payout of the first,
the payout is read again, and it is saved as paid when it has been reached. Nothing takes the first
of these back when one of the others throws.
-/

import FieldService.Payout.Confirmation

namespace FieldService

open Execution Table

/-! ### One confirmation with its calls -/

/-- What the calls of a confirmation fail with, if they do. -/
structure PaymentFailures where
  findLines : Option AppError
  saveLines : Option AppError
  increment : Option AppError
  findPayout : Option AppError
  savePayout : Option AppError
  deriving DecidableEq, Repr

namespace PaymentFailures

def none : PaymentFailures := ⟨.none, .none, .none, .none, .none⟩

def of (failures : PaymentFailures) : PayoutTask → Option AppError
  | .saveLines _ _ => failures.saveLines
  | .increment _ _ _ => failures.increment
  | .findPayout _ => failures.findPayout
  | .savePayout _ => failures.savePayout
  | _ => .none

end PaymentFailures

namespace Disbursement

variable (disbursement : Disbursement) (failures : PaymentFailures)

/-- A call that may fail. -/
def attempt (task : PayoutTask) : Except AppError (Disbursement × List PayoutTask) :=
  match failures.of task with
  | some error => .error error
  | none => disbursement.perform task

/-- So many calls one after another, each of them the one that comes of the call before, and what
is thrown. -/
def finish : Nat → Disbursement → List PayoutTask → Disbursement × Option AppError
  | calls + 1, disbursement, task :: _ =>
    match disbursement.attempt failures task with
    | .error error => (disbursement, some error)
    | .ok (next, tasks) => finish calls next tasks
  | _, disbursement, _ => (disbursement, none)

/-- `markPayoutLinesAsPaid` to its end. What is released for a payout that has been paid is
released by another handler. -/
def markPayoutLinesAsPaidToTheEnd (input : MarkPayoutLinesAsPaidInput) :
    Disbursement × Option AppError :=
  match failures.findLines with
  | some error => (disbursement, some error)
  | none =>
    match disbursement.markPayoutLinesAsPaid input with
    | .error error => (disbursement, some error)
    | .ok tasks => finish failures 4 disbursement tasks

/-! ### Conditions -/

/-- The lines of a payment can all be marked as paid. -/
def Payable (input : MarkPayoutLinesAsPaidInput) : Prop :=
  disbursement.linesFor input ≠ [] ∧
    ∀ line ∈ disbursement.linesFor input, line.status = .inTransit

instance (input : MarkPayoutLinesAsPaidInput) : Decidable (disbursement.Payable input) :=
  inferInstanceAs (Decidable (_ ∧ _))

/-- No line, no status of a payout and no processed amount is different. -/
structure Unaltered (before after : Disbursement) : Prop where
  payoutLines : after.payoutLines = before.payoutLines
  payouts : ∀ payoutId, (after.payouts.find payoutId).map (fun payout =>
      (payout.status, payout.processedAmount)) =
    (before.payouts.find payoutId).map fun payout => (payout.status, payout.processedAmount)

def AtomicOnError (input : MarkPayoutLinesAsPaidInput) : Prop :=
  (disbursement.markPayoutLinesAsPaidToTheEnd failures input).2 ≠ none →
    Unaltered disbursement (disbursement.markPayoutLinesAsPaidToTheEnd failures input).1

/-- What the lines of a payment come to. -/
def amountFor (input : MarkPayoutLinesAsPaidInput) : Money :=
  (disbursement.linesFor input).foldl (fun sum line => sum + line.amount) 0

/-- Once the lines are saved nothing fails: the amount is added, the payout of the first line is
there and is read, and it is saved when it has been reached. -/
def GoesThrough (input : MarkPayoutLinesAsPaidInput) : Prop :=
  failures.findLines = none → disbursement.Payable input → failures.saveLines = none →
    failures.increment = none ∧
    ∀ first ∈ (disbursement.linesFor input).head?,
      ∃ payout, disbursement.payouts.find first.payoutId = some payout ∧
        failures.findPayout = none ∧
        (payout.processedAmount + disbursement.amountFor input = payout.amount →
          failures.savePayout = none)

variable {disbursement failures} {input : MarkPayoutLinesAsPaidInput}

/-! ### What a confirmation does -/

/-- The lines of a payment, as they are once they are marked. -/
def paidLinesFor (disbursement : Disbursement) (input : MarkPayoutLinesAsPaidInput) :
    List PayoutLineRow :=
  (disbursement.linesFor input).map (·.paidWith input.sapDocumentPaymentNo input.paymentDate)

def withPaidLines (disbursement : Disbursement) (input : MarkPayoutLinesAsPaidInput) :
    Disbursement :=
  { disbursement with
    payoutLines := disbursement.payoutLines.saveAll (disbursement.paidLinesFor input) }

theorem amount_paidLinesFor (disbursement : Disbursement) (input : MarkPayoutLinesAsPaidInput) :
    (disbursement.paidLinesFor input).foldl (fun sum line => sum + line.amount) 0 =
      disbursement.amountFor input := by
  rw [paidLinesFor, List.foldl_map, amountFor]
  rfl

theorem markPayoutLinesAsPaid_of_payable (payable : disbursement.Payable input) :
    disbursement.markPayoutLinesAsPaid input =
      .ok [.saveLines input (disbursement.paidLinesFor input)] := by
  obtain ⟨some, inTransit⟩ := payable
  have marked : (disbursement.linesFor input).mapM
      (·.markAsPaid input.sapDocumentPaymentNo input.paymentDate) =
      .ok (disbursement.paidLinesFor input) :=
    (mapM_eq_ok_iff (markAsPaid_eq_ok_iff _ _) _ _).mpr ⟨inTransit, rfl⟩
  have several : ¬(disbursement.linesFor input).length < 1 := by
    rw [Nat.lt_one_iff, List.length_eq_zero_iff]
    exact some
  simp only [linesFor] at marked several
  simp only [markPayoutLinesAsPaid, if_neg several, marked]
  rfl

theorem markPayoutLinesAsPaid_of_not_payable (refused : ¬disbursement.Payable input) :
    ∃ error, disbursement.markPayoutLinesAsPaid input = .error error := by
  cases begins : disbursement.markPayoutLinesAsPaid input with
  | error error => exact ⟨error, rfl⟩
  | ok tasks =>
    obtain ⟨found, inTransit, -⟩ := markPayoutLinesAsPaid_eq_ok begins
    exact absurd ⟨found, inTransit⟩ refused

theorem finish_of_failure (disbursement : Disbursement) (calls : Nat) (task : PayoutTask)
    {error : AppError} (fails : failures.of task = some error) :
    finish failures (calls + 1) disbursement [task] = (disbursement, some error) := by
  simp only [finish, attempt, fails]

theorem finish_of_throw {calls : Nat} (task : PayoutTask) {error : AppError}
    (works : failures.of task = none) (throws : disbursement.perform task = .error error) :
    finish failures (calls + 1) disbursement [task] = (disbursement, some error) := by
  simp only [finish, attempt, works, throws]

theorem finish_of_perform {calls : Nat} (task : PayoutTask) {next : Disbursement}
    {tasks : List PayoutTask} (works : failures.of task = none)
    (performs : disbursement.perform task = .ok (next, tasks)) :
    finish failures (calls + 1) disbursement [task] = finish failures calls next tasks := by
  simp only [finish, attempt, works, performs]

/-- The lines can be marked, and are saved. -/
def Saves (disbursement : Disbursement) (failures : PaymentFailures)
    (input : MarkPayoutLinesAsPaidInput) : Prop :=
  failures.findLines = none ∧ disbursement.Payable input ∧ failures.saveLines = none

/-- A confirmation throws before anything is saved, or saves its lines and goes on from there. -/
theorem markPayoutLinesAsPaidToTheEnd_cases (disbursement : Disbursement)
    (failures : PaymentFailures) (input : MarkPayoutLinesAsPaidInput) :
    (¬disbursement.Saves failures input ∧ ∃ error,
      disbursement.markPayoutLinesAsPaidToTheEnd failures input = (disbursement, some error)) ∨
    (disbursement.Saves failures input ∧ ∃ first rest,
      disbursement.linesFor input = first :: rest ∧
      disbursement.markPayoutLinesAsPaidToTheEnd failures input =
        finish failures 3 (disbursement.withPaidLines input)
          [.increment input first.payoutId (disbursement.amountFor input)]) := by
  rw [markPayoutLinesAsPaidToTheEnd]
  cases finds : failures.findLines with
  | some error => exact Or.inl ⟨fun saves => (by cases finds.symm.trans saves.1), error, rfl⟩
  | none =>
    by_cases payable : disbursement.Payable input
    swap
    · obtain ⟨error, throws⟩ := markPayoutLinesAsPaid_of_not_payable payable
      rw [throws]
      exact Or.inl ⟨fun saves => payable saves.2.1, error, rfl⟩
    rw [markPayoutLinesAsPaid_of_payable payable]
    obtain ⟨first, rest, lines⟩ := List.exists_cons_of_ne_nil payable.1
    have total := disbursement.amount_paidLinesFor input
    cases saves : failures.saveLines with
    | some error =>
      exact Or.inl ⟨fun both => (by cases saves.symm.trans both.2.2), error,
        finish_of_failure disbursement 3 (.saveLines _ _) saves⟩
    | none =>
      refine Or.inr ⟨⟨finds, payable, saves⟩, first, rest, lines, ?_⟩
      have performs : disbursement.perform (.saveLines input (disbursement.paidLinesFor input)) =
          .ok (disbursement.withPaidLines input,
            [.increment input first.payoutId (disbursement.amountFor input)]) := by
        have heads : (disbursement.paidLinesFor input).head? =
            some (first.paidWith input.sapDocumentPaymentNo input.paymentDate) := by
          rw [paidLinesFor, lines]
          rfl
        rw [perform, total, heads]
        rfl
      exact finish_of_perform (.saveLines _ _) saves performs

section AfterSaving

variable (failures) (disbursement) (input) (payoutId : Uuid) (amount : Money)

/-- The payout is read again, and saved when it has been reached. -/
theorem finish_findPayout (payout : PayoutRow)
    (found : disbursement.payouts.find payoutId = some payout) :
    (finish failures 2 disbursement [.findPayout payoutId]).1.payoutLines =
        disbursement.payoutLines ∧
      ((finish failures 2 disbursement [.findPayout payoutId]).2 = none ↔
        failures.findPayout = none ∧
          (payout.processedAmount = payout.amount → failures.savePayout = none)) := by
  cases finds : failures.findPayout with
  | some error =>
    rw [finish_of_failure disbursement 1 (.findPayout payoutId) finds]
    exact ⟨rfl, by simp⟩
  | none =>
    have performs : disbursement.perform (.findPayout payoutId) =
        if !payout.hasPaymentFullyProcessed then .ok (disbursement, [])
        else .ok (disbursement, [.savePayout payout]) := by
      rw [perform, found]
    by_cases reached : payout.processedAmount = payout.amount
    · have isReached : payout.hasPaymentFullyProcessed = true := decide_eq_true reached
      rw [isReached] at performs
      rw [finish_of_perform (.findPayout payoutId) finds performs]
      cases saves : failures.savePayout with
      | some error =>
        rw [finish_of_failure disbursement 0 (.savePayout payout) saves]
        exact ⟨rfl, by simp [reached]⟩
      | none =>
        rw [finish_of_perform (.savePayout payout) saves rfl]
        exact ⟨rfl, by simp [finish]⟩
    · have notReached : payout.hasPaymentFullyProcessed = false := decide_eq_false reached
      rw [notReached] at performs
      rw [finish_of_perform (.findPayout payoutId) finds performs]
      exact ⟨rfl, by simp [finish, reached]⟩

/-- The calls after the saving of the lines leave the lines alone. They all succeed exactly if
none of them fails and the payout is there. -/
theorem finish_increment :
    (finish failures 3 disbursement [.increment input payoutId amount]).1.payoutLines =
        disbursement.payoutLines ∧
      ((finish failures 3 disbursement [.increment input payoutId amount]).2 = none ↔
        failures.increment = none ∧ ∃ payout, disbursement.payouts.find payoutId = some payout ∧
          failures.findPayout = none ∧
          (payout.processedAmount + amount = payout.amount → failures.savePayout = none)) := by
  cases increments : failures.increment with
  | some error =>
    rw [finish_of_failure disbursement 2 (.increment input payoutId amount) increments]
    exact ⟨rfl, by simp⟩
  | none =>
    cases found : disbursement.payouts.find payoutId with
    | none =>
      have throws : ∃ error, disbursement.perform (.increment input payoutId amount) =
          .error error := by
        rw [perform, found]
        exact ⟨_, rfl⟩
      obtain ⟨error, throws⟩ := throws
      rw [finish_of_throw (.increment input payoutId amount) increments throws]
      exact ⟨rfl, by simp⟩
    | some payout =>
      have performs : disbursement.perform (.increment input payoutId amount) =
          .ok ({ disbursement with
              payouts := disbursement.payouts.save
                { payout with processedAmount := payout.processedAmount + amount } },
            [.findPayout payoutId]) := by
        rw [perform, found]
      rw [finish_of_perform (.increment input payoutId amount) increments performs]
      have again : (disbursement.payouts.save { payout with
          processedAmount := payout.processedAmount + amount }).find payoutId =
          some { payout with processedAmount := payout.processedAmount + amount } := by
        rw [find_save, if_pos (disbursement.payouts.find_key found).2]
      obtain ⟨lines, returns⟩ := finish_findPayout { disbursement with
        payouts := disbursement.payouts.save
          { payout with processedAmount := payout.processedAmount + amount } } failures payoutId
            _ again
      refine ⟨lines, returns.trans ?_⟩
      simp

end AfterSaving

theorem nodup_paidLinesFor (disbursement : Disbursement) (input : MarkPayoutLinesAsPaidInput) :
    ((disbursement.paidLinesFor input).map (·.id)).Nodup := by
  rw [paidLinesFor, List.map_map]
  exact disbursement.payoutLines.distinct.sublist (List.filter_sublist.map _)

/-- Lines that are paid now have been in transit before. -/
theorem payoutLines_withPaidLines_ne (payable : disbursement.Payable input) :
    (disbursement.withPaidLines input).payoutLines ≠ disbursement.payoutLines := by
  intro same
  obtain ⟨first, rest, lines⟩ := List.exists_cons_of_ne_nil payable.1
  have member : first ∈ disbursement.linesFor input := lines ▸ List.mem_cons_self
  have saved : first.paidWith input.sapDocumentPaymentNo input.paymentDate ∈
      (disbursement.withPaidLines input).payoutLines.rows :=
    mem_saveAll_of_mem _ (disbursement.nodup_paidLinesFor input) (List.mem_map_of_mem member)
  rw [same] at saved
  have found := disbursement.payoutLines.find_of_mem saved
  have before := disbursement.payoutLines.find_of_mem (List.mem_of_mem_filter member)
  have sameLine : first.paidWith input.sapDocumentPaymentNo input.paymentDate = first :=
    Option.some.inj (found.symm.trans before)
  have paid := congrArg PayoutLineRow.status sameLine
  rw [payable.2 first member] at paid
  cases paid

/-- A confirmation that throws has changed nothing exactly if none that has saved its lines can
throw. -/
theorem atomicOnError_iff (disbursement : Disbursement) (failures : PaymentFailures)
    (input : MarkPayoutLinesAsPaidInput) :
    disbursement.AtomicOnError failures input ↔ disbursement.GoesThrough failures input := by
  rw [AtomicOnError, GoesThrough]
  obtain ⟨refused, error, throws⟩ | ⟨saves, first, rest, lines, goesOn⟩ :=
    markPayoutLinesAsPaidToTheEnd_cases disbursement failures input
  · rw [throws]
    exact iff_of_true (fun _ => ⟨rfl, fun _ => rfl⟩) fun finds payable saves =>
      absurd ⟨finds, payable, saves⟩ refused
  · obtain ⟨finds, payable, saved⟩ := saves
    rw [goesOn, forall_prop_of_true finds, forall_prop_of_true payable, forall_prop_of_true saved,
      lines, List.head?_cons]
    obtain ⟨untouched, returns⟩ := finish_increment (disbursement.withPaidLines input) failures
      input first.payoutId (disbursement.amountFor input)
    simp only [Option.mem_some_iff, forall_eq']
    refine Iff.trans ⟨fun atomic => ?_, fun returned throws => absurd returned throws⟩ returns
    by_contra throws
    have unaltered := (atomic throws).payoutLines
    rw [untouched] at unaltered
    exact payoutLines_withPaidLines_ne payable unaltered

/-- The connection is lost before the amount is added. -/
def exampleLostIncrement : PaymentFailures :=
  { PaymentFailures.none with increment := some (.error "Connection terminated unexpectedly") }

/-- The line is paid, and its payout has been processed for nothing. -/
theorem not_atomicOnError_lost :
    ¬exampleDisbursement.AtomicOnError exampleLostIncrement
      ⟨"240101-a1b2c3d", "15453", "2000001234", "01/2/2024"⟩ := by
  intro atomic
  have unaltered := (atomic (by decide +kernel)).payoutLines
  exact absurd (congrArg Table.rows unaltered) (by decide +kernel)

end Disbursement

end FieldService
