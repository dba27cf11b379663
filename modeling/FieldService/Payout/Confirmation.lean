/-
This file settles when concurrent confirmations of payments keep the books of the payouts.

A confirmation loads lines, saves them as paid, adds what they come to onto one payout, and
reads the payout again. The addition is one statement of the database, but what is added was
computed from lines loaded before, and all of it goes to the payout of the first line. The books
are kept when no two calls load the same line, no call loads lines of two payouts, and the
amounts add up: a payout that reaches its amount has one that is what its lines come to, and
none of the lines is for nothing.

While calls are under way a payout has been processed for less than its paid lines come to, and
the difference is what the waiting increments are going to add. That is the invariant
(`Sound.processed`); the lines that wait to be saved are not paid yet (`Sound.held`), so no line
is counted twice. When the amounts add up, a payout that has reached its amount has no unpaid
line left and no increment to come, as neither could add less than nothing (`Sound.reached`).
-/

import Mathlib.Algebra.Order.BigOperators.Group.List
import Mathlib.Algebra.Order.Ring.Rat
import Mathlib.Tactic.Linarith
import FieldService.Payout.Progress
import FieldService.Library.Grouping

namespace FieldService

open Execution Table

/-! ### Calls -/

/-- A confirmation begins, or one that is under way makes its next call. -/
inductive ConfirmationAction where
  | markPayoutLinesAsPaid (input : MarkPayoutLinesAsPaidInput)
  | proceed (index : Nat)
  deriving DecidableEq, Repr

def ConfirmationAction.toDisbursement : ConfirmationAction → DisbursementAction
  | .markPayoutLinesAsPaid input => .markPayoutLinesAsPaid input
  | .proceed index => .proceed index

namespace PayoutTask

/-- The lines that wait to be saved. -/
def heldLines : PayoutTask → List PayoutLineRow
  | .saveLines _ payoutLines => payoutLines
  | _ => []

/-- What the payout is going to be processed for. -/
def owes (payoutId : Uuid) : PayoutTask → Money
  | .increment _ id amount => if id = payoutId then amount else 0
  | _ => 0

def increments (payoutId : Uuid) : PayoutTask → Bool
  | .increment _ id _ => id = payoutId
  | _ => false

/-- The payout that waits to be saved as paid. -/
def payout : PayoutTask → Option PayoutRow
  | .savePayout payout => some payout
  | _ => none

/-- The task is a command that has been issued, and no part of a confirmation. -/
def isRelease : PayoutTask → Bool
  | .releaseBalanceForPayout _ => true
  | _ => false

def isUpdate : PayoutTask → Bool
  | .update _ _ => true
  | _ => false

/-- The task is not for an amount of nothing or less. -/
def Gains : PayoutTask → Prop
  | .saveLines _ payoutLines => ∀ line ∈ payoutLines, 0 < line.amount
  | .increment _ _ amount => 0 < amount
  | _ => True

theorem Gains.owes_pos {payoutId : Uuid} {task : PayoutTask} (gains : task.Gains)
    (increments : task.increments payoutId = true) : 0 < task.owes payoutId := by
  cases task with
  | increment input id amount =>
    rw [owes, if_pos (of_decide_eq_true increments)]
    exact gains
  | _ => cases increments

theorem Gains.owes_nonneg {task : PayoutTask} (gains : task.Gains) (payoutId : Uuid) :
    0 ≤ task.owes payoutId := by
  by_cases increments : task.increments payoutId = true
  · exact (gains.owes_pos increments).le
  · cases task with
    | increment input id amount =>
      rw [owes, if_neg fun same => increments (decide_eq_true same)]
    | _ => exact le_rfl

end PayoutTask

/-- The line once it is marked as paid. -/
def PayoutLineRow.paidWith (sapDocumentPaymentNo paymentDate : String) (line : PayoutLineRow) :
    PayoutLineRow :=
  { line with
    sapDocumentPaymentNo := some sapDocumentPaymentNo
    paymentDate := some paymentDate
    status := .paid }

namespace Disbursement

variable (disbursement : Disbursement)

def confirm (action : ConfirmationAction) : Disbursement :=
  disbursement.step action.toDisbursement

/-- The lines a confirmation loads. -/
def linesFor (input : MarkPayoutLinesAsPaidInput) : List PayoutLineRow :=
  disbursement.payoutLines.rows.filter fun line =>
    line.serviceRequestId = some input.serviceRequestId ∧
      line.ownerVendorId = some input.serviceProviderVendorId

/-- What the paid lines of a payout come to. -/
def paidAmount (payoutId : Uuid) : Money :=
  disbursement.payoutLines.total
    (fun line => line.payoutId = payoutId && line.status = .paid) (·.amount)

/-- Every line of the payout is paid. -/
def AllPaid (payoutId : Uuid) : Prop :=
  ∀ line ∈ disbursement.payoutLines.rows, line.payoutId = payoutId → line.status = .paid

instance (payoutId : Uuid) : Decidable (disbursement.AllPaid payoutId) :=
  inferInstanceAs (Decidable (∀ _ ∈ disbursement.payoutLines.rows, _ → _))

/-- The books are kept: when no confirmation is under way every payout has been processed for
what its paid lines come to, and a payout has become a paid one only with all its lines. -/
structure Settled (start disbursement : Disbursement) : Prop where
  processed : (∀ task ∈ disbursement.tasks, task.isRelease = true) →
    ∀ payout ∈ disbursement.payouts.rows,
      payout.processedAmount = disbursement.paidAmount payout.id
  paid : ∀ payoutId, disbursement.hasPaid payoutId = true →
    start.hasPaid payoutId = true ∨ disbursement.AllPaid payoutId

/-- What the lines of a payout come to. -/
def lineTotal (payoutId : Uuid) : Money :=
  disbursement.payoutLines.total (fun line => line.payoutId = payoutId) (·.amount)

/-- The condition on the next call of a confirmation: the amount of a payout that is read again
and has reached it is what its lines come to, and none of them is for nothing. -/
def AddsUp : PayoutTask → Prop
  | .findPayout payoutId => ∀ payout ∈ disbursement.payouts.find payoutId,
    payout.hasPaymentFullyProcessed = true →
      payout.amount = disbursement.lineTotal payoutId ∧
        ∀ line ∈ disbursement.payoutLines.rows, line.payoutId = payoutId → 0 < line.amount
  | _ => True

instance (task : PayoutTask) : Decidable (disbursement.AddsUp task) :=
  match task with
  | .findPayout _ => inferInstanceAs (Decidable (∀ _ ∈ _, _ → _))
  | .update _ _ => inferInstanceAs (Decidable True)
  | .saveLines _ _ => inferInstanceAs (Decidable True)
  | .increment _ _ _ => inferInstanceAs (Decidable True)
  | .savePayout _ => inferInstanceAs (Decidable True)
  | .releaseBalanceForPayout _ => inferInstanceAs (Decidable True)

/-- The condition on a step. A confirmation that passes its checks has loaded lines of one
payout only, none of them for nothing, and none that another one has loaded and not saved yet. -/
def Orderly : ConfirmationAction → Prop
  | .markPayoutLinesAsPaid input =>
    (∀ line ∈ disbursement.linesFor input, line.status = .inTransit) →
      (∀ first ∈ disbursement.linesFor input, ∀ second ∈ disbursement.linesFor input,
        first.payoutId = second.payoutId) ∧
      (∀ line ∈ disbursement.linesFor input, 0 < line.amount) ∧
      ∀ line ∈ disbursement.linesFor input, ∀ task ∈ disbursement.tasks,
        ∀ held ∈ task.heldLines, held.id ≠ line.id
  | .proceed index => ∀ task ∈ disbursement.tasks[index]?, disbursement.AddsUp task

instance (action : ConfirmationAction) : Decidable (disbursement.Orderly action) :=
  match action with
  | .markPayoutLinesAsPaid _ => inferInstanceAs (Decidable (_ → _))
  | .proceed index => inferInstanceAs (Decidable (∀ _ ∈ disbursement.tasks[index]?, _))

/-! ### Beginning -/

variable {disbursement}

theorem markAsPaid_eq_ok_iff (sapDocumentPaymentNo paymentDate : String)
    (line paidLine : PayoutLineRow) :
    line.markAsPaid sapDocumentPaymentNo paymentDate = .ok paidLine ↔
      line.status = .inTransit ∧ paidLine = line.paidWith sapDocumentPaymentNo paymentDate := by
  rw [PayoutLineRow.markAsPaid]
  split
  · rename_i other
    exact iff_of_false (by simp) fun both => other both.1
  · rename_i inTransit
    rw [Except.ok.injEq, eq_comm]
    exact (and_iff_right (not_not.mp inTransit)).symm

/-- A confirmation that does not throw has found lines, all in transit, and goes on to save
them. -/
theorem markPayoutLinesAsPaid_eq_ok {input : MarkPayoutLinesAsPaidInput}
    {tasks : List PayoutTask} (begins : disbursement.markPayoutLinesAsPaid input = .ok tasks) :
    disbursement.linesFor input ≠ [] ∧
      (∀ line ∈ disbursement.linesFor input, line.status = .inTransit) ∧
      tasks = [.saveLines input ((disbursement.linesFor input).map
        (·.paidWith input.sapDocumentPaymentNo input.paymentDate))] := by
  simp only [markPayoutLinesAsPaid] at begins
  split at begins
  · cases begins
  rename_i found
  obtain ⟨paidLines, marked, saved⟩ := bind_eq_ok begins
  obtain ⟨inTransit, rfl⟩ := (mapM_eq_ok_iff (markAsPaid_eq_ok_iff _ _) _ _).mp marked
  cases saved
  refine ⟨fun nothing => found ?_, inTransit, rfl⟩
  rw [linesFor] at nothing
  rw [nothing]
  exact Nat.zero_lt_one

/-! ### What holds while calls are under way -/

/-- What the tasks are going to add onto a payout. -/
def owed (tasks : List PayoutTask) (payoutId : Uuid) : Money :=
  (tasks.map (·.owes payoutId)).sum

/-- A line waits to be saved as the paid one of a row that is in transit. -/
def Awaited (disbursement : Disbursement) (line : PayoutLineRow) : Prop :=
  line.status = .paid ∧ ∃ row ∈ disbursement.payoutLines.rows, row.id = line.id ∧
    row.payoutId = line.payoutId ∧ row.status = .inTransit

/-- A payout waits to be saved as it is stored, and nothing more is going to be added to it. -/
structure Complete (disbursement : Disbursement) (tasks : List PayoutTask)
    (payout : PayoutRow) : Prop where
  stored : ∃ row ∈ disbursement.payouts.rows, row.id = payout.id ∧
    row.processedAmount = payout.processedAmount
  allPaid : disbursement.AllPaid payout.id
  counted : ∀ task ∈ tasks, task.increments payout.id = false

/-- The invariant, for the tasks that are left. -/
structure Sound (start disbursement : Disbursement) (tasks : List PayoutTask) : Prop where
  processed : ∀ payout ∈ disbursement.payouts.rows,
    payout.processedAmount + owed tasks payout.id = disbursement.paidAmount payout.id
  held : ∀ task ∈ tasks, ∀ line ∈ task.heldLines, disbursement.Awaited line
  uniform : ∀ task ∈ tasks, ∀ first ∈ task.heldLines, ∀ second ∈ task.heldLines,
    first.payoutId = second.payoutId
  distinct : ((tasks.flatMap (·.heldLines)).map (·.id)).Nodup
  complete : ∀ task ∈ tasks, ∀ payout ∈ task.payout, disbursement.Complete tasks payout
  gains : ∀ task ∈ tasks, task.Gains
  confirming : ∀ task ∈ tasks, task.isUpdate = false
  paid : ∀ payoutId, disbursement.hasPaid payoutId = true →
    start.hasPaid payoutId = true ∨ disbursement.AllPaid payoutId

variable {start : Disbursement} {task : PayoutTask} {tasks rest : List PayoutTask}

theorem forall_mem_concat {holds : PayoutTask → Prop} :
    (∀ other ∈ tasks ++ [task], holds other) ↔ (∀ other ∈ tasks, holds other) ∧ holds task := by
  rw [List.forall_mem_append, List.forall_mem_singleton]

theorem owed_concat (payoutId : Uuid) :
    owed (tasks ++ [task]) payoutId = owed tasks payoutId + task.owes payoutId := by
  rw [owed, List.map_append, List.sum_append, List.map_singleton, List.sum_singleton]
  rfl

theorem Complete.mono {payout : PayoutRow} (complete : disbursement.Complete tasks payout)
    (fewer : rest ⊆ tasks) : disbursement.Complete rest payout :=
  { complete with counted := fun other member => complete.counted other (fewer member) }

/-- A payout stays complete when a task comes to wait that does not add to it. -/
theorem Complete.concat {payout : PayoutRow} (complete : disbursement.Complete tasks payout)
    (passes : task.increments payout.id = false) :
    disbursement.Complete (tasks ++ [task]) payout :=
  { complete with counted := forall_mem_concat.mpr ⟨complete.counted, passes⟩ }

/-- The order of the tasks does not matter. -/
theorem Sound.perm (sound : Sound start disbursement tasks) (same : rest.Perm tasks) :
    Sound start disbursement rest where
  processed payout member := by
    rw [owed, (same.map _).sum_eq]
    exact sound.processed payout member
  held task member := sound.held task (same.mem_iff.mp member)
  uniform task member := sound.uniform task (same.mem_iff.mp member)
  distinct := ((same.flatMap_right _).map _).nodup_iff.mpr sound.distinct
  complete task member payout waits :=
    (sound.complete task (same.mem_iff.mp member) payout waits).mono same.subset
  gains task member := sound.gains task (same.mem_iff.mp member)
  confirming task member := sound.confirming task (same.mem_iff.mp member)
  paid := sound.paid

/-- A task that is left undone adds nothing to a payout that is there. -/
theorem Sound.drop (sound : Sound start disbursement (task :: rest))
    (nothing : ∀ payout ∈ disbursement.payouts.rows, task.owes payout.id = 0) :
    Sound start disbursement rest where
  processed payout member := by
    have now := sound.processed payout member
    rwa [owed, List.map_cons, List.sum_cons, nothing payout member, zero_add] at now
  held task member := sound.held task (List.mem_cons_of_mem _ member)
  uniform task member := sound.uniform task (List.mem_cons_of_mem _ member)
  distinct := by
    have whole := sound.distinct
    rw [List.flatMap_cons, List.map_append] at whole
    exact whole.of_append_right
  complete task member payout waits :=
    (sound.complete task (List.mem_cons_of_mem _ member) payout waits).mono
      (List.subset_cons_self _ _)
  gains task member := sound.gains task (List.mem_cons_of_mem _ member)
  confirming task member := sound.confirming task (List.mem_cons_of_mem _ member)
  paid := sound.paid

/-- A task that holds no line and adds nothing may come to wait, if it is not the saving of a
payout that can still change. -/
theorem Sound.add (sound : Sound start disbursement tasks) (holdsNothing : task.heldLines = [])
    (addsNothing : ∀ payoutId, task.owes payoutId = 0 ∧ task.increments payoutId = false)
    (saves : ∀ payout ∈ task.payout, disbursement.Complete tasks payout) (gains : task.Gains)
    (confirming : task.isUpdate = false) : Sound start disbursement (tasks ++ [task]) where
  processed payout member := by
    rw [owed_concat, (addsNothing payout.id).1, add_zero]
    exact sound.processed payout member
  held := by
    refine forall_mem_concat.mpr ⟨sound.held, fun line inside => ?_⟩
    rw [holdsNothing] at inside
    cases inside
  uniform := by
    refine forall_mem_concat.mpr ⟨sound.uniform, fun first inFirst => ?_⟩
    rw [holdsNothing] at inFirst
    cases inFirst
  distinct := by
    rw [List.flatMap_append, List.flatMap_singleton, holdsNothing, List.append_nil]
    exact sound.distinct
  complete := by
    have complete := forall_mem_concat.mpr ⟨sound.complete, saves⟩
    exact fun other member payout waits =>
      (complete other member payout waits).concat (addsNothing payout.id).2
  gains := forall_mem_concat.mpr ⟨sound.gains, gains⟩
  confirming := forall_mem_concat.mpr ⟨sound.confirming, confirming⟩
  paid := sound.paid

/-! ### Calls -/

/-- The lines that a task holds are distinct, and no other task holds one of them. -/
theorem Sound.heldDistinct (sound : Sound start disbursement (task :: rest)) :
    (task.heldLines.map (·.id)).Nodup ∧
      ∀ other ∈ rest, ∀ line ∈ task.heldLines, ∀ held ∈ other.heldLines, line.id ≠ held.id := by
  have whole := sound.distinct
  rw [List.flatMap_cons, List.map_append] at whole
  obtain ⟨ofTask, -, apart⟩ := List.nodup_append.mp whole
  refine ⟨ofTask, fun other member line inside held heldInside => ?_⟩
  exact apart line.id (List.mem_map_of_mem inside) held.id
    (List.mem_map_of_mem (List.mem_flatMap.mpr ⟨other, member, heldInside⟩))

/-- What the lines that are saved as paid add to the paid amount of a payout. -/
theorem paidAmount_saveAll {lines : List PayoutLineRow} (distinct : (lines.map (·.id)).Nodup)
    (awaited : ∀ line ∈ lines, disbursement.Awaited line) (payoutId : Uuid) :
    ({ disbursement with
        payoutLines := disbursement.payoutLines.saveAll lines } : Disbursement).paidAmount
          payoutId =
      disbursement.paidAmount payoutId +
        (lines.map fun line => if line.payoutId = payoutId then line.amount else 0).sum := by
  have replaced : lines.map (fun line => share
        (fun line => line.payoutId = payoutId && line.status = .paid) (·.amount)
        (disbursement.payoutLines.find line.id)) = lines.map fun _ => (0 : Money) := by
    refine List.map_congr_left fun line member => ?_
    obtain ⟨-, row, stored, sameId, -, inTransit⟩ := awaited line member
    rw [← sameId, disbursement.payoutLines.find_of_mem stored]
    simp [share, inTransit]
  have added : lines.map (fun line => share
        (fun line => line.payoutId = payoutId && line.status = .paid) (·.amount) (some line)) =
      lines.map fun line => if line.payoutId = payoutId then line.amount else 0 := by
    refine List.map_congr_left fun line member => ?_
    simp [share, (awaited line member).1]
  have total := disbursement.payoutLines.total_saveAll
    (fun line => line.payoutId = payoutId && line.status = .paid) (·.amount) distinct
  rw [replaced, added, List.sum_map_zero, add_zero] at total
  exact total

theorem AllPaid.saveAll {lines : List PayoutLineRow} {payoutId : Uuid}
    (allPaid : disbursement.AllPaid payoutId) (distinct : (lines.map (·.id)).Nodup)
    (awaited : ∀ line ∈ lines, disbursement.Awaited line) :
    ({ disbursement with
        payoutLines := disbursement.payoutLines.saveAll lines } : Disbursement).AllPaid
          payoutId := by
  intro line member ofPayout
  rcases (mem_saveAll_iff _ distinct line).mp member with saved | ⟨before, -⟩
  · exact (awaited line saved).1
  · exact allPaid line before ofPayout

/-- The lines of a confirmation are saved as paid, and what they come to is going to be
added. -/
theorem Sound.saveLines {input : MarkPayoutLinesAsPaidInput} {lines : List PayoutLineRow}
    {first : PayoutLineRow} (sound : Sound start disbursement (.saveLines input lines :: rest))
    (isFirst : first ∈ lines) :
    Sound start
      { disbursement with payoutLines := disbursement.payoutLines.saveAll lines }
      (rest ++ [.increment input first.payoutId
        (lines.foldl (fun sum line => sum + line.amount) 0)]) := by
  obtain ⟨heldDistinct, apart⟩ := sound.heldDistinct
  have distinct : (lines.map (·.id)).Nodup := heldDistinct
  have awaited : ∀ line ∈ lines, disbursement.Awaited line := sound.held _ List.mem_cons_self
  have uniform : ∀ line ∈ lines, line.payoutId = first.payoutId := fun line member =>
    sound.uniform _ List.mem_cons_self line member first isFirst
  have left := sound.drop fun _ _ => rfl
  refine
    { processed := fun payout member => ?_
      held := forall_mem_concat.mpr ⟨fun task member line inside => ?_, fun _ inside => by
        cases inside⟩
      uniform := forall_mem_concat.mpr ⟨left.uniform, fun _ inside => by cases inside⟩
      distinct := ?_
      complete := forall_mem_concat.mpr ⟨fun task member payout waits => ?_, fun _ waits => by
        cases waits⟩
      gains := forall_mem_concat.mpr ⟨left.gains, ?_⟩
      confirming := forall_mem_concat.mpr ⟨left.confirming, rfl⟩
      paid := fun payoutId paid => (sound.paid payoutId paid).imp id fun allPaid =>
        allPaid.saveAll distinct awaited }
  · have sum : (lines.map fun line => if line.payoutId = payout.id then line.amount else 0).sum =
        PayoutTask.owes payout.id (.increment input first.payoutId
          (lines.foldl (fun sum line => sum + line.amount) 0)) := by
      rw [PayoutTask.owes]
      split
      · rename_i same
        rw [Grouping.foldl_add_eq_sum]
        refine congrArg List.sum (List.map_congr_left fun line inside => ?_)
        rw [if_pos ((uniform line inside).trans same)]
      · rename_i other
        rw [List.map_congr_left fun line inside =>
          if_neg fun same => other ((uniform line inside).symm.trans same), List.sum_map_zero]
    rw [paidAmount_saveAll distinct awaited, sum, owed_concat, ← add_assoc]
    exact congrArg (· + _) (left.processed payout member)
  · obtain ⟨paid, row, stored, sameId, samePayout, inTransit⟩ := left.held task member line inside
    refine ⟨paid, row, (mem_saveAll_iff _ distinct row).mpr (Or.inr ⟨stored, ?_⟩), sameId,
      samePayout, inTransit⟩
    intro saved ofLines
    rw [sameId]
    exact apart task member saved ofLines line inside
  · rw [List.flatMap_append, List.flatMap_singleton]
    show ((rest.flatMap PayoutTask.heldLines ++ []).map PayoutLineRow.id).Nodup
    rw [List.append_nil]
    exact left.distinct
  · have before := left.complete task member payout waits
    refine ⟨before.stored, before.allPaid.saveAll distinct awaited,
      forall_mem_concat.mpr ⟨before.counted, decide_eq_false fun same => ?_⟩⟩
    -- The first line is still in transit, so its payout is not one whose lines are all paid.
    obtain ⟨-, row, stored, -, samePayout, inTransit⟩ := awaited first isFirst
    have paid := before.allPaid row stored (samePayout.trans same)
    rw [inTransit] at paid
    cases paid
  · show 0 < lines.foldl (fun sum line => sum + line.amount) 0
    rw [Grouping.foldl_add_eq_sum]
    refine List.sum_pos _ (List.forall_mem_map.mpr (sound.gains _ List.mem_cons_self)) ?_
    exact List.ne_nil_of_mem (List.mem_map_of_mem isFirst)

/-- What was going to be added is added. -/
theorem Sound.increment {input : MarkPayoutLinesAsPaidInput} {amount : Money} {payout : PayoutRow}
    (sound : Sound start disbursement (.increment input payout.id amount :: rest))
    (stored : payout ∈ disbursement.payouts.rows) :
    Sound start
      { disbursement with
        payouts := disbursement.payouts.save
          { payout with processedAmount := payout.processedAmount + amount } } rest := by
  have found := disbursement.payouts.find_of_mem stored
  refine
    { processed := fun other member => ?_
      held := fun task member => sound.held task (List.mem_cons_of_mem _ member)
      uniform := fun task member => sound.uniform task (List.mem_cons_of_mem _ member)
      distinct := sound.distinct
      complete := fun task member other waits => ?_
      gains := fun task member => sound.gains task (List.mem_cons_of_mem _ member)
      confirming := fun task member => sound.confirming task (List.mem_cons_of_mem _ member)
      paid := fun payoutId paid => sound.paid payoutId ?_ }
  · rcases (mem_save_iff _ _ other).mp member with rfl | ⟨before, different⟩
    · have now := sound.processed payout stored
      rw [owed, List.map_cons, List.sum_cons, PayoutTask.owes, if_pos rfl, ← add_assoc] at now
      exact now
    · have now := sound.processed other before
      rw [owed, List.map_cons, List.sum_cons, PayoutTask.owes, if_neg (Ne.symm different),
        zero_add] at now
      exact now
  · have before := sound.complete task (List.mem_cons_of_mem _ member) other waits
    have different : payout.id ≠ other.id := by
      simpa [PayoutTask.increments] using before.counted _ List.mem_cons_self
    obtain ⟨row, member, sameId, sameAmount⟩ := before.stored
    refine ⟨⟨row, (mem_save_iff _ _ row).mpr (Or.inr ⟨member, ?_⟩), sameId, sameAmount⟩,
      before.allPaid, fun later inside => before.counted later (List.mem_cons_of_mem _ inside)⟩
    rw [sameId]
    exact Ne.symm different
  · rw [hasPaid_save] at paid
    split at paid
    · rename_i same
      rw [← same, hasPaid, found]
      exact paid
    · exact paid

/-- A payout that is complete is saved as paid. -/
theorem Sound.savePayout {payout : PayoutRow}
    (sound : Sound start disbursement (.savePayout payout :: rest)) :
    Sound start
      { disbursement with payouts := disbursement.payouts.save payout.markAsPaid } rest := by
  have complete := sound.complete _ List.mem_cons_self payout rfl
  obtain ⟨row, stored, sameId, sameAmount⟩ := complete.stored
  have left := sound.drop fun _ _ => rfl
  refine
    { left with
      processed := fun other member => ?_
      complete := fun task member other waits => ?_
      paid := fun payoutId paid => ?_ }
  · rcases (mem_save_iff _ _ other).mp member with rfl | ⟨before, -⟩
    · have now := left.processed row stored
      rw [sameAmount, sameId] at now
      exact now
    · exact left.processed other before
  · have before := left.complete task member other waits
    obtain ⟨otherRow, otherStored, otherId, otherAmount⟩ := before.stored
    refine { before with stored := ?_ }
    by_cases same : other.id = payout.id
    · have sameRow : otherRow = row := List.inj_on_of_nodup_map disbursement.payouts.distinct
        otherStored stored (otherId.trans (same.trans sameId.symm))
      refine ⟨payout.markAsPaid, (mem_save_iff _ _ _).mpr (Or.inl rfl), same.symm, ?_⟩
      rw [← otherAmount, sameRow, sameAmount]
      rfl
    · refine ⟨otherRow, (mem_save_iff _ _ _).mpr (Or.inr ⟨otherStored, ?_⟩), otherId, otherAmount⟩
      rw [otherId]
      exact same
  · rw [hasPaid_save] at paid
    split at paid
    · rename_i same
      rw [← same]
      exact Or.inr complete.allPaid
    · exact left.paid payoutId paid

/-- A confirmation begins to wait with the lines it has loaded, if no other holds them. -/
theorem Sound.begin {input : MarkPayoutLinesAsPaidInput} (sound : Sound start disbursement tasks)
    (inTransit : ∀ line ∈ disbursement.linesFor input, line.status = .inTransit)
    (uniform : ∀ first ∈ disbursement.linesFor input, ∀ second ∈ disbursement.linesFor input,
      first.payoutId = second.payoutId)
    (gains : ∀ line ∈ disbursement.linesFor input, 0 < line.amount)
    (unheld : ∀ line ∈ disbursement.linesFor input, ∀ task ∈ tasks, ∀ held ∈ task.heldLines,
      held.id ≠ line.id) :
    Sound start disbursement (tasks ++ [.saveLines input ((disbursement.linesFor input).map
      (·.paidWith input.sapDocumentPaymentNo input.paymentDate))]) := by
  refine
    { processed := fun payout member => ?_
      held := forall_mem_concat.mpr ⟨sound.held, fun line inside => ?_⟩
      uniform := forall_mem_concat.mpr ⟨sound.uniform, fun first inFirst second inSecond => ?_⟩
      distinct := ?_
      complete := forall_mem_concat.mpr ⟨fun task member payout waits =>
        (sound.complete task member payout waits).concat rfl, fun _ waits => by cases waits⟩
      gains := forall_mem_concat.mpr ⟨sound.gains, List.forall_mem_map.mpr gains⟩
      confirming := forall_mem_concat.mpr ⟨sound.confirming, rfl⟩
      paid := sound.paid }
  · rw [owed_concat]
    exact (congrArg (payout.processedAmount + ·) (add_zero _)).trans
      (sound.processed payout member)
  · obtain ⟨row, found, rfl⟩ := List.mem_map.mp inside
    exact ⟨rfl, row, (List.mem_filter.mp found).1, rfl, rfl, inTransit row found⟩
  · obtain ⟨row, found, rfl⟩ := List.mem_map.mp inFirst
    obtain ⟨other, foundToo, rfl⟩ := List.mem_map.mp inSecond
    exact uniform row found other foundToo
  · have ids : ((disbursement.linesFor input).map
        (·.paidWith input.sapDocumentPaymentNo input.paymentDate)).map PayoutLineRow.id =
          (disbursement.linesFor input).map PayoutLineRow.id := by
      rw [List.map_map]
      rfl
    rw [List.flatMap_append, List.flatMap_singleton, List.map_append]
    refine List.nodup_append.mpr ⟨sound.distinct, ?_, ?_⟩
    · rw [PayoutTask.heldLines, ids]
      exact disbursement.payoutLines.distinct.sublist (List.filter_sublist.map _)
    · rintro id before other new rfl
      rw [PayoutTask.heldLines, ids] at new
      obtain ⟨held, waiting, rfl⟩ := List.mem_map.mp before
      obtain ⟨task, member, inside⟩ := List.mem_flatMap.mp waiting
      obtain ⟨line, found, same⟩ := List.mem_map.mp new
      exact unheld line found task member held inside same.symm

/-- What the tasks of others are does not matter to the invariant. -/
theorem Sound.of_tables {next : Disbursement} (sound : Sound start disbursement tasks)
    (samePayouts : next.payouts = disbursement.payouts)
    (sameLines : next.payoutLines = disbursement.payoutLines) : Sound start next tasks := by
  obtain ⟨wallets, transactions, payouts, payoutLines, waiting⟩ := disbursement
  obtain ⟨nextWallets, nextTransactions, nextPayouts, nextPayoutLines, nextWaiting⟩ := next
  subst samePayouts sameLines
  exact
    { processed := sound.processed
      held := sound.held
      uniform := sound.uniform
      distinct := sound.distinct
      complete := fun task member payout waits =>
        have before := sound.complete task member payout waits
        ⟨before.stored, before.allPaid, before.counted⟩
      gains := sound.gains
      confirming := sound.confirming
      paid := sound.paid }

/-! ### Steps -/

/-- A payout that has reached its amount, when the amounts add up, has all its lines paid, and
nothing more is going to be added to it. -/
theorem Sound.reached {payout : PayoutRow} (sound : Sound start disbursement tasks)
    (stored : payout ∈ disbursement.payouts.rows)
    (processed : payout.hasPaymentFullyProcessed = true)
    (whole : payout.amount = disbursement.lineTotal payout.id)
    (positive : ∀ line ∈ disbursement.payoutLines.rows, line.payoutId = payout.id →
      0 < line.amount) :
    disbursement.AllPaid payout.id ∧ ∀ task ∈ tasks, task.increments payout.id = false := by
  have books := sound.processed payout stored
  have reached : payout.processedAmount = payout.amount := of_decide_eq_true processed
  let unpaid := (disbursement.payoutLines.rows.filter fun line =>
    line.payoutId = payout.id && !decide (line.status = .paid)).map (·.amount)
  have parts : disbursement.lineTotal payout.id =
      disbursement.paidAmount payout.id + unpaid.sum :=
    Grouping.sumWhere_split _ _ _ _
  have unpaidGain : ∀ amount ∈ unpaid, 0 ≤ amount := by
    refine List.forall_mem_map.mpr fun line member => ?_
    obtain ⟨stored, counts⟩ := List.mem_filter.mp member
    exact (positive line stored (of_decide_eq_true ((Bool.and_eq_true _ _).mp counts).1)).le
  have owedGain : ∀ amount ∈ tasks.map (·.owes payout.id), 0 ≤ amount :=
    List.forall_mem_map.mpr fun task member => (sound.gains task member).owes_nonneg payout.id
  have unpaidSum := List.sum_nonneg unpaidGain
  have owedSum : 0 ≤ owed tasks payout.id := List.sum_nonneg owedGain
  constructor
  · intro line member ofPayout
    by_contra notPaid
    have counted : line.amount ∈ unpaid :=
      List.mem_map_of_mem (List.mem_filter.mpr ⟨member, by simp [ofPayout, notPaid]⟩)
    have below := List.single_le_sum unpaidGain _ counted
    have gain := positive line member ofPayout
    linarith
  · intro task member
    by_contra increments
    have gain := (sound.gains task member).owes_pos (Bool.not_eq_false _ ▸ increments)
    have below : task.owes payout.id ≤ owed tasks payout.id :=
      List.single_le_sum owedGain _ (List.mem_map_of_mem member)
    linarith

/-- A call that throws was not going to add anything to a payout that is there. -/
theorem owes_of_failed {error : AppError} (failed : disbursement.perform task = .error error) :
    ∀ payout ∈ disbursement.payouts.rows, task.owes payout.id = 0 := by
  intro payout stored
  cases task with
  | increment input payoutId amount =>
    refine if_neg fun same => ?_
    rw [perform, same, disbursement.payouts.find_of_mem stored] at failed
    cases failed
  | _ => rfl

theorem tasks_of_performed {next : Disbursement}
    (performed : disbursement.perform task = .ok (next, tasks)) :
    next.tasks = disbursement.tasks := by
  cases task with
  | update id input =>
    rw [perform] at performed
    split at performed <;> cases performed <;> rfl
  | saveLines input lines =>
    cases performed
    rfl
  | increment input payoutId amount =>
    rw [perform] at performed
    split at performed <;> cases performed
    rfl
  | findPayout payoutId =>
    rw [perform] at performed
    split at performed
    · cases performed
    · split at performed <;> cases performed <;> rfl
  | savePayout payout =>
    cases performed
    rfl
  | releaseBalanceForPayout payoutId =>
    obtain ⟨accounts, -, rest⟩ := bind_eq_ok performed
    cases rest
    rfl

/-- A call that returns keeps the invariant, for the tasks that are left and those that come after
it. -/
theorem Sound.perform {next : Disbursement} (sound : Sound start disbursement (task :: rest))
    (addsUp : disbursement.AddsUp task)
    (performed : disbursement.perform task = .ok (next, tasks)) :
    Sound start next (rest ++ tasks) := by
  cases task with
  | update id input =>
    have confirming := sound.confirming _ List.mem_cons_self
    cases confirming
  | saveLines input lines =>
    cases performed
    cases lines with
    | nil =>
      rw [List.head?_nil, Option.toList_none, List.map_nil, List.append_nil]
      exact sound.drop fun _ _ => rfl
    | cons first others => exact sound.saveLines List.mem_cons_self
  | increment input payoutId amount =>
    rw [Disbursement.perform] at performed
    split at performed
    · cases performed
    · rename_i payout found
      cases performed
      obtain ⟨stored, rfl⟩ := disbursement.payouts.find_key found
      exact (sound.increment stored).add rfl (fun _ => ⟨rfl, rfl⟩) (fun _ waits => by cases waits)
        trivial rfl
  | findPayout payoutId =>
    have left := sound.drop fun _ _ => rfl
    rw [Disbursement.perform] at performed
    split at performed
    · cases performed
    · rename_i payout found
      obtain ⟨stored, rfl⟩ := disbursement.payouts.find_key found
      split at performed
      · cases performed
        rw [List.append_nil]
        exact left
      · rename_i processed
        cases performed
        have processed : payout.hasPaymentFullyProcessed = true := by simpa using processed
        obtain ⟨whole, positive⟩ := addsUp payout found processed
        obtain ⟨allPaid, counted⟩ := left.reached stored processed whole positive
        refine left.add rfl (fun _ => ⟨rfl, rfl⟩) (fun other waits => ?_) trivial rfl
        cases waits
        exact ⟨⟨payout, stored, rfl, rfl⟩, allPaid, counted⟩
  | savePayout payout =>
    cases performed
    exact sound.savePayout.add rfl (fun _ => ⟨rfl, rfl⟩) (fun _ waits => by cases waits) trivial
      rfl
  | releaseBalanceForPayout payoutId =>
    obtain ⟨accounts, -, rest⟩ := bind_eq_ok performed
    cases rest
    rw [List.append_nil]
    exact (sound.drop fun _ _ => rfl).of_tables rfl rfl

/-- A call keeps the invariant, for the tasks that it leaves. -/
theorem Sound.call (sound : Sound start disbursement (task :: rest))
    (waiting : disbursement.tasks = rest)
    (addsUp : disbursement.AddsUp task) :
    Sound start (disbursement.call task) (disbursement.call task).tasks := by
  rw [Disbursement.call]
  rcases performed : disbursement.perform task with error | ⟨next, tasks⟩
  · show Sound start disbursement disbursement.tasks
    rw [waiting]
    exact sound.drop (owes_of_failed performed)
  · show Sound start _ (next.tasks ++ tasks)
    rw [tasks_of_performed performed, waiting]
    exact (sound.perform addsUp performed).of_tables rfl rfl

/-- A step that meets its condition keeps the invariant. -/
theorem Sound.confirm (sound : Sound start disbursement disbursement.tasks)
    {action : ConfirmationAction} (orderly : disbursement.Orderly action) :
    Sound start (disbursement.confirm action) (disbursement.confirm action).tasks := by
  cases action with
  | markPayoutLinesAsPaid input =>
    show Sound start (disbursement.await (disbursement.markPayoutLinesAsPaid input))
      (disbursement.await (disbursement.markPayoutLinesAsPaid input)).tasks
    rcases begins : disbursement.markPayoutLinesAsPaid input with error | tasks
    · exact sound
    · obtain ⟨-, inTransit, rfl⟩ := markPayoutLinesAsPaid_eq_ok begins
      obtain ⟨uniform, gains, unheld⟩ := orderly inTransit
      exact (sound.begin inTransit uniform gains unheld).of_tables rfl rfl
  | proceed index =>
    rw [Disbursement.confirm, ConfirmationAction.toDisbursement, step]
    obtain idle | ⟨task, taken⟩ := Option.eq_none_or_eq_some disbursement.tasks[index]?
    · rw [idle]
      exact sound
    · rw [taken]
      obtain ⟨bound, rfl⟩ := List.getElem?_eq_some_iff.mp taken
      have left : Sound start
          { disbursement with tasks := disbursement.tasks.eraseIdx index }
          (disbursement.tasks[index] :: disbursement.tasks.eraseIdx index) :=
        (sound.perm (List.getElem_cons_eraseIdx_perm bound)).of_tables rfl rfl
      exact left.call rfl (orderly _ taken)

theorem Sound.settled (sound : Sound start disbursement disbursement.tasks) :
    Settled start disbursement where
  processed released payout member := by
    have nothing : owed disbursement.tasks payout.id = 0 := by
      refine List.sum_eq_zero fun amount inside => ?_
      obtain ⟨task, waiting, rfl⟩ := List.mem_map.mp inside
      have isRelease := released task waiting
      cases task <;> first | rfl | cases isRelease
    have now := sound.processed payout member
    rwa [nothing, add_zero] at now
  paid := sound.paid

/-- Before any line is paid nothing has been processed. -/
theorem sound_of_inTransit (start : Disbursement) (idle : start.tasks = [])
    (inTransit : ∀ line ∈ start.payoutLines.rows, line.status = .inTransit)
    (unprocessed : ∀ payout ∈ start.payouts.rows, payout.processedAmount = 0) :
    Sound start start start.tasks := by
  rw [idle]
  refine
    { processed := fun payout member => ?_
      held := by simp
      uniform := by simp
      distinct := List.nodup_nil
      complete := by simp
      gains := by simp
      confirming := by simp
      paid := fun payoutId paid => Or.inl paid }
  have nothing : start.payoutLines.rows.filter
      (fun line => line.payoutId = payout.id && line.status = .paid) = [] := by
    refine List.filter_eq_nil_iff.mpr fun line stored => ?_
    simp [inTransit line stored]
  rw [unprocessed payout member, paidAmount, total, nothing, zero_add]
  rfl

/-- From lines that are all in transit and payouts of which nothing has been processed,
confirmations that meet their condition at every step keep the books, in whatever order their
calls are made. -/
theorem settled_throughout (start : Disbursement) (idle : start.tasks = [])
    (inTransit : ∀ line ∈ start.payoutLines.rows, line.status = .inTransit)
    (unprocessed : ∀ payout ∈ start.payouts.rows, payout.processedAmount = 0)
    (actions : List ConfirmationAction) (orderly : Along confirm Orderly start actions) :
    Throughout confirm (Settled start) start actions :=
  throughout_of_invariant confirm Orderly (fun disbursement =>
      Sound start disbursement disbursement.tasks) (Settled start)
    (fun _ _ sound meets => sound.confirm meets) (fun _ sound => sound.settled) start actions
    (sound_of_inTransit start idle inTransit unprocessed) orderly

def exampleConfirmation : ConfirmationAction :=
  .markPayoutLinesAsPaid ⟨"240101-a1b2c3d", "15453", "2000001234", "01/2/2024"⟩

/-- One confirmation of the only line of a payout keeps the books. -/
theorem settled_throughout_once :
    (run confirm exampleDisbursement
        (exampleConfirmation :: List.replicate 5 (.proceed 0))).hasPaid examplePayoutId = true ∧
      Throughout confirm (Settled exampleDisbursement) exampleDisbursement
        (exampleConfirmation :: List.replicate 5 (.proceed 0)) := by
  refine ⟨by decide +kernel, settled_throughout exampleDisbursement rfl ?_ ?_ _ ?_⟩
  · decide +kernel
  · decide +kernel
  · decide +kernel

/-- Two confirmations of the same line are both counted. -/
theorem not_settled_twice :
    ¬ Throughout confirm (Settled exampleDisbursement) exampleDisbursement
      (exampleConfirmation :: exampleConfirmation :: List.replicate 6 (.proceed 0)) := by
  intro throughout
  have settled := (throughout _ List.prefix_rfl).processed
  revert settled
  decide +kernel

end Disbursement

end FieldService
