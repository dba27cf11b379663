/-
This file proves that the books of the payouts are in order whenever no confirmation is under way:
a payout is paid exactly when all its lines are, and then its amount has left the wallet.

The call that marks a payout as paid is the one that reads it again after an addition, and the call
that reads it after the last one finds its amount reached. So a payout that has been processed
completely is paid, or one of the calls that wait is going to pay for it (`Pursued.reached`). What
is released is told by the payouts that have become paid, each of which leaves a release behind
(`Pursued.released`). When nothing waits both are settled.
-/

import FieldService.Payout.ReturnFiles
import FieldService.Wallet.Signals

namespace FieldService

open Execution Table Components

/-- The line before it is paid. -/
def PayoutLineRow.unpaid (line : PayoutLineRow) : PayoutLineRow :=
  { line with sapDocumentPaymentNo := none, paymentDate := none, status := .inTransit }

theorem PayoutLineRow.id_unpaid (line : PayoutLineRow) : line.unpaid.id = line.id := rfl

theorem PayoutLineRow.parts_of_unpaid {first second : PayoutLineRow}
    (same : first.unpaid = second.unpaid) :
    first.amount = second.amount ∧ first.payoutId = second.payoutId ∧
      first.serviceRequestId = second.serviceRequestId ∧
      first.ownerVendorId = second.ownerVendorId := by
  simp only [unpaid, mk.injEq] at same
  exact ⟨same.2.1, same.2.2.2.1, same.2.2.1, same.2.2.2.2.1⟩

/-- The task goes on to pay for a payout whose amount has been reached. -/
def PayoutTask.pursues (payoutId : Uuid) : PayoutTask → Bool
  | .findPayout id => id = payoutId
  | .savePayout payout => payout.id = payoutId
  | _ => false

namespace Disbursement

variable (disbursement : Disbursement)

/-- The lines without what paying for them changes. -/
def bookedLines : Table Uuid PayoutLineRow (·.id) :=
  disbursement.payoutLines.image PayoutLineRow.unpaid PayoutLineRow.id_unpaid

/-- The books are in order. Every payout has lines, each of them for something, which come to its
amount, and the lines of one request and vendor are all of one payout. -/
structure InOrder : Prop where
  processed : ∀ payout ∈ disbursement.payouts.rows,
    payout.processedAmount = disbursement.paidAmount payout.id
  paid : ∀ payout ∈ disbursement.payouts.rows,
    disbursement.hasPaid payout.id = true ↔ disbursement.AllPaid payout.id
  released : ∀ payout ∈ disbursement.payouts.rows, disbursement.hasPaid payout.id = true →
    disbursement.accounts.stageFor payout.id ≠ some .held
  positive : ∀ line ∈ disbursement.payoutLines.rows, 0 < line.amount
  addsUp : ∀ payout ∈ disbursement.payouts.rows,
    payout.amount = disbursement.lineTotal payout.id
  itemised : ∀ payout ∈ disbursement.payouts.rows,
    ∃ line ∈ disbursement.payoutLines.rows, line.payoutId = payout.id
  uniform : ∀ first ∈ disbursement.payoutLines.rows, ∀ second ∈ disbursement.payoutLines.rows,
    first.serviceRequestId = second.serviceRequestId →
      first.ownerVendorId = second.ownerVendorId → first.payoutId = second.payoutId

/-- The condition on a step: no confirmation loads lines that another one has loaded and not saved
yet. -/
def Undoubled : ConfirmationAction → Prop
  | .markPayoutLinesAsPaid input => disbursement.Payable input →
    ∀ line ∈ disbursement.linesFor input, ∀ task ∈ disbursement.tasks,
      ∀ held ∈ task.heldLines, held.id ≠ line.id
  | .proceed _ => True

instance (action : ConfirmationAction) : Decidable (disbursement.Undoubled action) :=
  match action with
  | .markPayoutLinesAsPaid _ => inferInstanceAs (Decidable (_ → _))
  | .proceed _ => inferInstanceAs (Decidable True)

/-! ### What confirmations leave alone -/

/-- What a task holds is what the books began with, but for what paying changes. -/
structure IsOf (start : Disbursement) (task : PayoutTask) : Prop where
  lines : ∀ line ∈ task.heldLines, start.bookedLines.find line.id = some line.unpaid
  payout : ∀ payout ∈ task.payout, start.accounts.payouts.find payout.id = some payout.toPayout

/-- The books are those they began with, but for what paying changes. -/
structure Continues (start disbursement : Disbursement) : Prop where
  lines : disbursement.bookedLines = start.bookedLines
  payouts : disbursement.accounts.payouts = start.accounts.payouts

variable {disbursement} {start : Disbursement} {task : PayoutTask} {tasks rest : List PayoutTask}

theorem find_bookedLines (disbursement : Disbursement) (id : Uuid) :
    disbursement.bookedLines.find id = (disbursement.payoutLines.find id).map (·.unpaid) :=
  find_image PayoutLineRow.unpaid PayoutLineRow.id_unpaid disbursement.payoutLines id

theorem find_payouts (disbursement : Disbursement) (id : Uuid) :
    disbursement.accounts.payouts.find id = (disbursement.payouts.find id).map (·.toPayout) :=
  find_image PayoutRow.toPayout (fun _ => rfl) disbursement.payouts id

theorem Continues.refl (start : Disbursement) : Continues start start := ⟨rfl, rfl⟩

/-- Every line was a line from the start. -/
theorem Continues.exists_line (continues : Continues start disbursement) {line : PayoutLineRow}
    (member : line ∈ disbursement.payoutLines.rows) :
    ∃ booked ∈ start.payoutLines.rows, booked.unpaid = line.unpaid := by
  have stays : line.unpaid ∈ disbursement.bookedLines.rows := List.mem_map_of_mem member
  rw [continues.lines] at stays
  exact List.mem_map.mp stays

theorem Continues.exists_payout (continues : Continues start disbursement) {payout : PayoutRow}
    (stored : payout ∈ disbursement.payouts.rows) :
    ∃ booked ∈ start.payouts.rows, booked.toPayout = payout.toPayout := by
  have stays : payout.toPayout ∈ disbursement.accounts.payouts.rows := List.mem_map_of_mem stored
  rw [continues.payouts] at stays
  exact List.mem_map.mp stays

theorem Continues.symm (continues : Continues start disbursement) :
    Continues disbursement start := ⟨continues.lines.symm, continues.payouts.symm⟩

theorem lineTotal_eq (disbursement : Disbursement) (payoutId : Uuid) :
    disbursement.lineTotal payoutId =
      disbursement.bookedLines.total (fun line => line.payoutId = payoutId) (·.amount) :=
  (total_image PayoutLineRow.unpaid PayoutLineRow.id_unpaid disbursement.payoutLines
    (fun line => line.payoutId = payoutId) (·.amount)).symm

theorem Continues.lineTotal (continues : Continues start disbursement) (payoutId : Uuid) :
    disbursement.lineTotal payoutId = start.lineTotal payoutId := by
  rw [lineTotal_eq, lineTotal_eq, continues.lines]

/-- The amounts still add up, and the lines of a request are still of one payout. -/
theorem Continues.static (continues : Continues start disbursement) (inOrder : start.InOrder) :
    (∀ line ∈ disbursement.payoutLines.rows, 0 < line.amount) ∧
    (∀ payout ∈ disbursement.payouts.rows,
      payout.amount = disbursement.lineTotal payout.id) ∧
    (∀ payout ∈ disbursement.payouts.rows,
      ∃ line ∈ disbursement.payoutLines.rows, line.payoutId = payout.id) ∧
    ∀ first ∈ disbursement.payoutLines.rows, ∀ second ∈ disbursement.payoutLines.rows,
      first.serviceRequestId = second.serviceRequestId →
        first.ownerVendorId = second.ownerVendorId → first.payoutId = second.payoutId := by
  refine ⟨fun line member => ?_, fun payout stored => ?_, fun payout stored => ?_, ?_⟩
  · obtain ⟨booked, before, same⟩ := continues.exists_line member
    rw [← (PayoutLineRow.parts_of_unpaid same).1]
    exact inOrder.positive booked before
  · obtain ⟨booked, before, same⟩ := continues.exists_payout stored
    have sameAmount : booked.amount = payout.amount := congrArg Payout.amount same
    have sameId : booked.id = payout.id := congrArg Payout.id same
    rw [← sameAmount, ← sameId, continues.lineTotal]
    exact inOrder.addsUp booked before
  · obtain ⟨booked, before, same⟩ := continues.exists_payout stored
    have sameId : booked.id = payout.id := congrArg Payout.id same
    obtain ⟨line, member, ofPayout⟩ := inOrder.itemised booked before
    obtain ⟨later, stays, sameLine⟩ := continues.symm.exists_line member
    exact ⟨later, stays,
      (PayoutLineRow.parts_of_unpaid sameLine).2.1.trans (ofPayout.trans sameId)⟩
  · intro first firstMember second secondMember sameRequest sameVendor
    obtain ⟨one, oneBefore, oneSame⟩ := continues.exists_line firstMember
    obtain ⟨two, twoBefore, twoSame⟩ := continues.exists_line secondMember
    obtain ⟨-, payoutOfOne, requestOfOne, vendorOfOne⟩ := PayoutLineRow.parts_of_unpaid oneSame
    obtain ⟨-, payoutOfTwo, requestOfTwo, vendorOfTwo⟩ := PayoutLineRow.parts_of_unpaid twoSame
    rw [← payoutOfOne, ← payoutOfTwo]
    exact inOrder.uniform one oneBefore two twoBefore
      (requestOfOne.trans (sameRequest.trans requestOfTwo.symm))
      (vendorOfOne.trans (sameVendor.trans vendorOfTwo.symm))

/-! ### Who is going to pay -/

/-- What holds while calls are under way, for the tasks that are left. -/
structure Pursued (start disbursement : Disbursement) (tasks : List PayoutTask) : Prop where
  continues : Continues start disbursement
  ofStart : ∀ task ∈ tasks, IsOf start task
  allPaid : ∀ payoutId, start.AllPaid payoutId → disbursement.AllPaid payoutId
  reached : ∀ payout ∈ disbursement.payouts.rows, payout.hasPaymentFullyProcessed = true →
    disbursement.hasPaid payout.id = true ∨ ∃ task ∈ tasks, task.pursues payout.id = true
  released : ∃ released : List Uuid,
    disbursement.accounts = run Accounts.receive start.accounts (released.map .release) ∧
      ∀ payoutId, disbursement.hasPaid payoutId = true ↔ start.hasPaid payoutId = true ∨
        payoutId ∈ released ∨ .releaseBalanceForPayout payoutId ∈ tasks

/-- A task is no longer needed that is no release, if another pays for what it would have paid
for. -/
theorem Pursued.drop (pursued : Pursued start disbursement (task :: rest))
    (others : ∀ payout ∈ disbursement.payouts.rows, payout.hasPaymentFullyProcessed = true →
      task.pursues payout.id = true → ∃ other ∈ rest, other.pursues payout.id = true)
    (notRelease : task.isRelease = false) :
    Pursued start disbursement rest where
  continues := pursued.continues
  ofStart other member := pursued.ofStart other (List.mem_cons_of_mem _ member)
  allPaid := pursued.allPaid
  reached payout stored processed := by
    refine (pursued.reached payout stored processed).imp_right ?_
    rintro ⟨other, member, pursues⟩
    obtain rfl | member := List.mem_cons.mp member
    · exact others payout stored processed pursues
    · exact ⟨other, member, pursues⟩
  released := by
    obtain ⟨released, accounts, paid⟩ := pursued.released
    refine ⟨released, accounts, fun payoutId => (paid payoutId).trans ?_⟩
    rw [List.mem_cons, or_iff_right (a := _ = task)]
    rintro rfl
    cases notRelease

/-- Another task may come to wait that is no release. -/
theorem Pursued.add (pursued : Pursued start disbursement tasks) (ofStart : IsOf start task)
    (notRelease : task.isRelease = false) : Pursued start disbursement (tasks ++ [task]) where
  continues := pursued.continues
  ofStart := forall_mem_concat.mpr ⟨pursued.ofStart, ofStart⟩
  allPaid := pursued.allPaid
  reached payout stored processed := by
    refine (pursued.reached payout stored processed).imp_right ?_
    rintro ⟨other, member, pursues⟩
    exact ⟨other, List.mem_append_left _ member, pursues⟩
  released := by
    obtain ⟨released, accounts, paid⟩ := pursued.released
    refine ⟨released, accounts, fun payoutId => (paid payoutId).trans ?_⟩
    rw [List.mem_append, List.mem_singleton, or_iff_left (b := _ = task)]
    rintro rfl
    cases notRelease

/-- Which tasks wait matters, and not in which order. -/
theorem Pursued.of_mem_iff (pursued : Pursued start disbursement tasks)
    (same : ∀ other, other ∈ rest ↔ other ∈ tasks) : Pursued start disbursement rest where
  continues := pursued.continues
  ofStart other member := pursued.ofStart other ((same other).mp member)
  allPaid := pursued.allPaid
  reached payout stored processed := by
    simp only [same]
    exact pursued.reached payout stored processed
  released := by
    simp only [same]
    exact pursued.released

/-- The wallets and the paid payouts are the same when the payouts are. -/
theorem accounts_eq_of_payouts {next : Disbursement}
    (wallets : next.wallets = disbursement.wallets)
    (transactions : next.transactions = disbursement.transactions)
    (payouts : next.accounts.payouts = disbursement.accounts.payouts) :
    next.accounts = disbursement.accounts := by
  rw [accounts, accounts, Accounts.mk.injEq]
  exact ⟨wallets, transactions, payouts⟩

/-- A payout that is saved leaves the wallets' view alone, when it is one of the start. -/
theorem accounts_save {payout : PayoutRow}
    (found : disbursement.accounts.payouts.find payout.id = some payout.toPayout) :
    ({ disbursement with payouts := disbursement.payouts.save payout } : Disbursement).accounts =
      disbursement.accounts :=
  accounts_eq_of_payouts rfl rfl
    (image_save_of_find PayoutRow.toPayout (fun _ => rfl) disbursement.payouts found)

theorem Pursued.saveLines {input : MarkPayoutLinesAsPaidInput} {lines : List PayoutLineRow}
    (sound : Sound start disbursement tasks) (pursued : Pursued start disbursement tasks)
    (waits : .saveLines input lines ∈ tasks) (distinct : (lines.map (·.id)).Nodup) :
    Pursued start
      { disbursement with payoutLines := disbursement.payoutLines.saveAll lines } tasks where
  continues := by
    refine ⟨?_, pursued.continues.payouts⟩
    rw [← pursued.continues.lines]
    refine image_saveAll_of_find _ PayoutLineRow.id_unpaid _ fun line member => ?_
    have found := (pursued.ofStart _ waits).lines line member
    rwa [← pursued.continues.lines] at found
  ofStart := pursued.ofStart
  allPaid payoutId before :=
    (pursued.allPaid payoutId before).saveAll distinct (sound.held _ waits)
  reached := pursued.reached
  released := pursued.released

theorem Pursued.increment {input : MarkPayoutLinesAsPaidInput} {amount : Money}
    {payout : PayoutRow}
    (pursued : Pursued start disbursement (.increment input payout.id amount :: rest))
    (stored : payout ∈ disbursement.payouts.rows) :
    Pursued start
      { disbursement with
        payouts := disbursement.payouts.save
          { payout with processedAmount := payout.processedAmount + amount } }
      (rest ++ [.findPayout payout.id]) := by
  have left := pursued.drop (fun _ _ _ pursues => by cases pursues) rfl
  have found := disbursement.payouts.find_of_mem stored
  have sameAccounts : ({ disbursement with
      payouts := disbursement.payouts.save
        { payout with processedAmount := payout.processedAmount + amount } } :
      Disbursement).accounts = disbursement.accounts := by
    refine accounts_save ((find_payouts disbursement payout.id).trans ?_)
    rw [found]
    rfl
  have samePaid : ∀ payoutId, ({ disbursement with
      payouts := disbursement.payouts.save
        { payout with processedAmount := payout.processedAmount + amount } } :
      Disbursement).hasPaid payoutId = disbursement.hasPaid payoutId := by
    intro payoutId
    rw [hasPaid_save]
    split
    · rename_i same
      rw [← same, hasPaid, found]
      rfl
    · rfl
  refine
    { continues := ⟨left.continues.lines, ?_⟩
      ofStart := forall_mem_concat.mpr ⟨left.ofStart, ⟨by simp [PayoutTask.heldLines],
        by simp [PayoutTask.payout]⟩⟩
      allPaid := left.allPaid
      reached := fun other member processed => ?_
      released := ?_ }
  · rw [sameAccounts]
    exact left.continues.payouts
  · rw [samePaid]
    obtain rfl | ⟨before, -⟩ := (mem_save_iff _ _ other).mp member
    · exact Or.inr ⟨.findPayout payout.id, by simp, by simp [PayoutTask.pursues]⟩
    · refine (left.reached other before processed).imp_right ?_
      rintro ⟨later, waits, pursues⟩
      exact ⟨later, List.mem_append_left _ waits, pursues⟩
  · obtain ⟨released, accounts, paid⟩ := left.released
    refine ⟨released, sameAccounts.trans accounts, fun payoutId => ?_⟩
    rw [samePaid, paid]
    simp

/-- A payout that is saved as paid leaves its release behind. -/
theorem Pursued.savePayout {payout : PayoutRow}
    (pursued : Pursued start disbursement (.savePayout payout :: rest)) :
    Pursued start
      { disbursement with payouts := disbursement.payouts.save payout.markAsPaid }
      (rest ++ [.releaseBalanceForPayout payout.id]) := by
  have found := (pursued.ofStart _ List.mem_cons_self).payout payout rfl
  rw [← pursued.continues.payouts] at found
  have sameAccounts : ({ disbursement with
      payouts := disbursement.payouts.save payout.markAsPaid } : Disbursement).accounts =
        disbursement.accounts :=
    accounts_save found
  refine
    { continues := ⟨pursued.continues.lines, ?_⟩
      ofStart := forall_mem_concat.mpr
        ⟨fun other member => pursued.ofStart other (List.mem_cons_of_mem _ member),
          ⟨by simp [PayoutTask.heldLines], by simp [PayoutTask.payout]⟩⟩
      allPaid := pursued.allPaid
      reached := fun other member processed => ?_
      released := ?_ }
  · rw [sameAccounts]
    exact pursued.continues.payouts
  · rw [hasPaid_save]
    obtain rfl | ⟨before, different⟩ := (mem_save_iff _ _ other).mp member
    · exact Or.inl (by rw [if_pos rfl]; rfl)
    · rw [if_neg (Ne.symm different)]
      refine (pursued.reached other before processed).imp_right ?_
      rintro ⟨later, waits, pursues⟩
      obtain rfl | waits := List.mem_cons.mp waits
      · exact absurd (of_decide_eq_true pursues) (Ne.symm different)
      · exact ⟨later, List.mem_append_left _ waits, pursues⟩
  · obtain ⟨released, accounts, paid⟩ := pursued.released
    refine ⟨released, sameAccounts.trans accounts, fun payoutId => ?_⟩
    rw [hasPaid_save]
    split
    · rename_i same
      refine iff_of_true rfl (Or.inr (Or.inr (List.mem_append_right _ ?_)))
      rw [← same]
      exact List.mem_singleton_self _
    · rename_i other
      rw [paid, List.mem_append, List.mem_cons, List.mem_singleton,
        PayoutTask.releaseBalanceForPayout.injEq, or_iff_left (b := payoutId = payout.id)
          (Ne.symm other), or_iff_right (a := _ = PayoutTask.savePayout payout) (by simp)]

/-- What the tasks of others are does not matter. -/
theorem Pursued.of_tables {next : Disbursement} (pursued : Pursued start disbursement tasks)
    (wallets : next.wallets = disbursement.wallets)
    (transactions : next.transactions = disbursement.transactions)
    (samePayouts : next.payouts = disbursement.payouts)
    (sameLines : next.payoutLines = disbursement.payoutLines) : Pursued start next tasks := by
  obtain ⟨_, _, _, _, _⟩ := disbursement
  obtain ⟨_, _, _, _, _⟩ := next
  subst wallets transactions samePayouts sameLines
  exact
    { continues := ⟨pursued.continues.lines, pursued.continues.payouts⟩
      ofStart := pursued.ofStart
      allPaid := pursued.allPaid
      reached := pursued.reached
      released := pursued.released }

/-- A release is an event for the wallets. -/
theorem accounts_call_release (disbursement : Disbursement) (payoutId : Uuid) :
    (disbursement.call (.releaseBalanceForPayout payoutId)).accounts =
      disbursement.accounts.receive (.release payoutId) := by
  show _ = disbursement.accounts.settle (disbursement.accounts.releaseBalanceForPayout payoutId)
  rw [call, perform]
  cases ended : disbursement.accounts.releaseBalanceForPayout payoutId with
  | error error => rfl
  | ok accounts =>
    obtain ⟨-, rfl⟩ | ⟨-, payout, wallet, pending, -, -, -, rfl⟩ :=
      Accounts.releaseBalanceForPayout_cases ended <;> rfl

theorem call_release_tables (disbursement : Disbursement) (payoutId : Uuid) :
    (disbursement.call (.releaseBalanceForPayout payoutId)).payouts = disbursement.payouts ∧
      (disbursement.call (.releaseBalanceForPayout payoutId)).payoutLines =
        disbursement.payoutLines ∧
      (disbursement.call (.releaseBalanceForPayout payoutId)).tasks = disbursement.tasks := by
  rw [call, perform]
  cases disbursement.accounts.releaseBalanceForPayout payoutId with
  | error error => exact ⟨rfl, rfl, rfl⟩
  | ok accounts => exact ⟨rfl, rfl, List.append_nil _⟩

theorem Pursued.release {payoutId : Uuid}
    (pursued : Pursued start disbursement (.releaseBalanceForPayout payoutId :: rest)) :
    Pursued start (disbursement.call (.releaseBalanceForPayout payoutId)) rest := by
  obtain ⟨samePayouts, sameLines, -⟩ := disbursement.call_release_tables payoutId
  have samePaid : ∀ other, (disbursement.call (.releaseBalanceForPayout payoutId)).hasPaid other =
      disbursement.hasPaid other := fun other => by rw [hasPaid, hasPaid, samePayouts]
  refine
    { continues := ⟨?_, ?_⟩
      ofStart := fun other member => pursued.ofStart other (List.mem_cons_of_mem _ member)
      allPaid := fun other before => ?_
      reached := fun payout stored processed => ?_
      released := ?_ }
  · rw [bookedLines, sameLines]
    exact pursued.continues.lines
  · refine Eq.trans ?_ pursued.continues.payouts
    simp only [accounts, samePayouts]
  · rw [AllPaid, sameLines]
    exact pursued.allPaid other before
  · rw [samePaid]
    rw [samePayouts] at stored
    refine (pursued.reached payout stored processed).imp_right ?_
    rintro ⟨later, waits, pursues⟩
    obtain rfl | waits := List.mem_cons.mp waits
    · cases pursues
    · exact ⟨later, waits, pursues⟩
  · obtain ⟨released, accounts, paid⟩ := pursued.released
    refine ⟨released ++ [payoutId], ?_, fun other => ?_⟩
    · rw [accounts_call_release, accounts, List.map_append, run_append]
      rfl
    · rw [samePaid, paid]
      simp only [List.mem_cons, List.mem_append, PayoutTask.releaseBalanceForPayout.injEq,
        List.not_mem_nil, or_false, or_assoc]

/-- A call keeps the invariant, for the tasks that it leaves. -/
theorem Pursued.call (sound : Sound start disbursement (task :: rest))
    (pursued : Pursued start disbursement (task :: rest)) (waiting : disbursement.tasks = rest) :
    Pursued start (disbursement.call task) (disbursement.call task).tasks := by
  cases task with
  | update id input => cases sound.confirming _ List.mem_cons_self
  | saveLines input lines =>
    have saved := (pursued.saveLines sound List.mem_cons_self sound.heldDistinct.1).drop
      (fun _ _ _ pursues => by cases pursues) rfl
    have left : Pursued start
        { disbursement with payoutLines := disbursement.payoutLines.saveAll lines }
        (rest ++ lines.head?.toList.map fun first => .increment input first.payoutId
          (lines.foldl (fun sum line => sum + line.amount) 0)) := by
      cases lines with
      | nil =>
        rw [List.head?_nil, Option.toList_none, List.map_nil, List.append_nil]
        exact saved
      | cons first others =>
        exact saved.add ⟨by simp [PayoutTask.heldLines], by simp [PayoutTask.payout]⟩ rfl
    show Pursued start _ (disbursement.tasks ++ _)
    rw [waiting]
    exact left.of_tables rfl rfl rfl rfl
  | increment input payoutId amount =>
    rw [Disbursement.call, perform]
    cases found : disbursement.payouts.find payoutId with
    | none =>
      show Pursued start disbursement disbursement.tasks
      rw [waiting]
      exact pursued.drop (fun _ _ _ pursues => by cases pursues) rfl
    | some payout =>
      obtain ⟨stored, rfl⟩ := disbursement.payouts.find_key found
      show Pursued start _ (disbursement.tasks ++ [_])
      rw [waiting]
      exact (pursued.increment stored).of_tables rfl rfl rfl rfl
  | findPayout payoutId =>
    rw [Disbursement.call, perform]
    cases found : disbursement.payouts.find payoutId with
    | none =>
      show Pursued start disbursement disbursement.tasks
      rw [waiting]
      refine pursued.drop (fun payout stored _ pursues => ?_) rfl
      rw [of_decide_eq_true pursues, disbursement.payouts.find_of_mem stored] at found
      cases found
    | some payout =>
      obtain ⟨stored, rfl⟩ := disbursement.payouts.find_key found
      dsimp only
      cases processed : payout.hasPaymentFullyProcessed with
      | false =>
        show Pursued start _ (disbursement.tasks ++ [])
        rw [waiting, List.append_nil]
        refine (pursued.drop (fun other member reached pursues => ?_) rfl).of_tables rfl rfl rfl rfl
        have sameRow : payout = other := List.inj_on_of_nodup_map disbursement.payouts.distinct
          stored member (of_decide_eq_true pursues)
        rw [sameRow, reached] at processed
        cases processed
      | true =>
        have ofStart : start.accounts.payouts.find payout.id = some payout.toPayout := by
          rw [← pursued.continues.payouts]
          rw [find_payouts, found]
          rfl
        have added : Pursued start disbursement
            (.findPayout payout.id :: rest ++ [.savePayout payout]) :=
          pursued.add ⟨by simp [PayoutTask.heldLines], fun _ waits => by cases waits; exact ofStart⟩
            rfl
        show Pursued start _ (disbursement.tasks ++ [.savePayout payout])
        rw [waiting]
        refine (added.drop (fun other member reached pursues => ?_) rfl).of_tables rfl rfl rfl rfl
        exact ⟨.savePayout payout, by simp, pursues⟩
  | savePayout payout =>
    show Pursued start _ (disbursement.tasks ++ [_])
    rw [waiting]
    exact pursued.savePayout.of_tables rfl rfl rfl rfl
  | releaseBalanceForPayout payoutId =>
    rw [(disbursement.call_release_tables payoutId).2.2, waiting]
    exact pursued.release

/-! ### Runs -/

theorem Pursued.confirm (sound : Sound start disbursement disbursement.tasks)
    (pursued : Pursued start disbursement disbursement.tasks) (action : ConfirmationAction) :
    Pursued start (disbursement.confirm action) (disbursement.confirm action).tasks := by
  cases action with
  | markPayoutLinesAsPaid input =>
    show Pursued start (disbursement.await (disbursement.markPayoutLinesAsPaid input))
      (disbursement.await (disbursement.markPayoutLinesAsPaid input)).tasks
    rcases begins : disbursement.markPayoutLinesAsPaid input with error | tasks
    · exact pursued
    · obtain ⟨-, -, rfl⟩ := markPayoutLinesAsPaid_eq_ok begins
      refine (pursued.add ⟨fun line inside => ?_, by simp [PayoutTask.payout]⟩ rfl).of_tables
        rfl rfl rfl rfl
      obtain ⟨row, loaded, rfl⟩ := List.mem_map.mp inside
      rw [← pursued.continues.lines]
      refine (find_bookedLines disbursement row.id).trans ?_
      rw [disbursement.payoutLines.find_of_mem (List.mem_of_mem_filter loaded)]
      rfl
  | proceed index =>
    rw [Disbursement.confirm, ConfirmationAction.toDisbursement, step]
    obtain idle | ⟨task, taken⟩ := Option.eq_none_or_eq_some disbursement.tasks[index]?
    · rw [idle]
      exact pursued
    · rw [taken]
      obtain ⟨bound, rfl⟩ := List.getElem?_eq_some_iff.mp taken
      have same := List.getElem_cons_eraseIdx_perm bound
      exact Pursued.call ((sound.perm same).of_tables rfl rfl)
        ((pursued.of_mem_iff fun _ => same.mem_iff).of_tables rfl rfl rfl rfl) rfl

/-- When the amounts add up, a confirmation meets its condition if no other has loaded its
lines. -/
theorem Continues.orderly (continues : Continues start disbursement) (inOrder : start.InOrder)
    {action : ConfirmationAction} (undoubled : disbursement.Undoubled action) :
    disbursement.Orderly action := by
  obtain ⟨positive, addsUp, -, uniform⟩ := continues.static inOrder
  cases action with
  | markPayoutLinesAsPaid input =>
    intro inTransit
    refine ⟨fun first inFirst second inSecond => ?_, fun line loaded => ?_,
      fun line loaded => undoubled ⟨List.ne_nil_of_mem loaded, inTransit⟩ line loaded⟩
    · obtain ⟨firstStored, firstFor⟩ := (mem_linesFor_iff first).mp inFirst
      obtain ⟨secondStored, secondFor⟩ := (mem_linesFor_iff second).mp inSecond
      exact uniform first firstStored second secondStored (firstFor.1.trans secondFor.1.symm)
        (firstFor.2.trans secondFor.2.symm)
    · exact positive line (List.mem_of_mem_filter loaded)
  | proceed index =>
    intro task taken
    cases task with
    | findPayout payoutId =>
      intro payout found processed
      obtain ⟨stored, rfl⟩ := disbursement.payouts.find_key found
      exact ⟨addsUp payout stored, fun line member _ => positive line member⟩
    | _ => trivial

theorem InOrder.sound (inOrder : start.InOrder) : Sound start start [] where
  processed payout stored := by
    rw [inOrder.processed payout stored]
    exact add_zero _
  held := by simp
  uniform := by simp
  distinct := List.nodup_nil
  complete := by simp
  gains := by simp
  confirming := by simp
  paid payoutId paid := Or.inl paid

theorem InOrder.pursued (inOrder : start.InOrder) : Pursued start start [] where
  continues := Continues.refl start
  ofStart := by simp
  allPaid _ before := before
  reached payout stored processed := Or.inl ((inOrder.paid payout stored).mpr
    (inOrder.sound.reached stored processed (inOrder.addsUp payout stored)
      fun line member _ => inOrder.positive line member).1)
  released := ⟨[], rfl, by simp⟩

/-- Both hold of whatever confirmations come to. -/
theorem InOrder.pursued_run (inOrder : start.InOrder) (idle : start.tasks = [])
    {confirmations : List ConfirmationAction}
    (undoubled : Along confirm Undoubled start confirmations) :
    Sound start (run confirm start confirmations) (run confirm start confirmations).tasks ∧
      Pursued start (run confirm start confirmations)
        (run confirm start confirmations).tasks := by
  refine invariant_run confirm Undoubled
    (fun disbursement => Sound start disbursement disbursement.tasks ∧
      Pursued start disbursement disbursement.tasks) (fun disbursement action both meets => ?_)
    start confirmations ?_ undoubled
  · exact ⟨both.1.confirm (both.2.continues.orderly inOrder meets),
      both.2.confirm both.1 action⟩
  · rw [idle]
    exact ⟨inOrder.sound, inOrder.pursued⟩

/-! ### When nothing waits -/

/-- A payout that is held for is released by the first of the events that are about it. -/
theorem run_releases (payoutId : Uuid) (released : List Uuid) (stage : PayoutStage) :
    run PayoutStage.receive stage
        (addressedTo PayoutSignal.payoutId payoutId (released.map .release)) =
      if stage = .held ∧ payoutId ∈ released then .released else stage := by
  induction released generalizing stage with
  | nil => simp [addressedTo]
  | cons first rest later =>
    rw [List.map_cons]
    by_cases same : first = payoutId
    · subst same
      rw [addressedTo, List.filter_cons_of_pos (by simp [PayoutSignal.payoutId]), run_cons]
      refine (later _).trans ?_
      cases stage <;> simp [PayoutStage.receive]
    · rw [addressedTo, List.filter_cons_of_neg (by simp [PayoutSignal.payoutId, same])]
      refine (later stage).trans ?_
      simp [Ne.symm same]

/-- The stage of a payout after its releases. -/
theorem stageFor_releases {accounts : Accounts} (traced : accounts.Traced) (released : List Uuid)
    (payoutId : Uuid) :
    (run Accounts.receive accounts (released.map .release)).stageFor payoutId =
      (accounts.stageFor payoutId).map fun stage =>
        if stage = .held ∧ payoutId ∈ released then .released else stage := by
  rw [Accounts.composed_payouts.view_run traced, Accounts.run_receive_map]
  exact Option.map_congr fun stage _ => run_releases payoutId released stage

/-- A payout all of whose lines are paid has been processed for what they come to. -/
theorem AllPaid.paidAmount_eq {payoutId : Uuid} (allPaid : disbursement.AllPaid payoutId) :
    disbursement.paidAmount payoutId = disbursement.lineTotal payoutId := by
  refine Grouping.sumWhere_congr _ fun line member => ?_
  by_cases ofPayout : line.payoutId = payoutId
  · simp [ofPayout, allPaid line member ofPayout]
  · simp [ofPayout]

theorem owed_of_isRelease (last : ∀ task ∈ tasks, task.isRelease = true) (payoutId : Uuid) :
    owed tasks payoutId = 0 := by
  refine List.sum_eq_zero fun amount inside => ?_
  obtain ⟨task, waiting, rfl⟩ := List.mem_map.mp inside
  have isRelease := last task waiting
  cases task <;> first | rfl | cases isRelease

theorem Pursued.hasPaid_iff (inOrder : start.InOrder) (sound : Sound start disbursement tasks)
    (pursued : Pursued start disbursement tasks) (last : ∀ task ∈ tasks, task.isRelease = true)
    {payout : PayoutRow} (stored : payout ∈ disbursement.payouts.rows) :
    disbursement.hasPaid payout.id = true ↔ disbursement.AllPaid payout.id := by
  constructor
  · intro paid
    refine (sound.paid payout.id paid).elim (fun before => ?_) id
    obtain ⟨booked, bookedStored, same⟩ := pursued.continues.exists_payout stored
    have sameId : booked.id = payout.id := congrArg Payout.id same
    rw [← sameId] at before ⊢
    exact pursued.allPaid _ ((inOrder.paid booked bookedStored).mp before)
  · intro allPaid
    have processed : payout.hasPaymentFullyProcessed = true := by
      have books := sound.processed payout stored
      rw [owed_of_isRelease last, add_zero, allPaid.paidAmount_eq] at books
      exact decide_eq_true (books.trans
        ((pursued.continues.static inOrder).2.1 payout stored).symm)
    obtain paid | ⟨task, waits, pursues⟩ := pursued.reached payout stored processed
    · exact paid
    · have isRelease := last task waits
      cases task <;> first | cases pursues | cases isRelease

theorem Pursued.inOrder (traced : start.accounts.Traced) (inOrder : start.InOrder)
    (sound : Sound start disbursement []) (pursued : Pursued start disbursement []) :
    disbursement.InOrder := by
  obtain ⟨positive, addsUp, itemised, uniform⟩ := pursued.continues.static inOrder
  refine
    { processed := fun payout stored => ?_
      paid := fun payout stored => pursued.hasPaid_iff inOrder sound (by simp) stored
      released := fun payout stored paid => ?_
      positive, addsUp, itemised, uniform }
  · rw [← sound.processed payout stored]
    exact (add_zero _).symm
  · obtain ⟨released, accounts, issued⟩ := pursued.released
    obtain ⟨booked, bookedStored, same⟩ := pursued.continues.exists_payout stored
    have sameId : booked.id = payout.id := congrArg Payout.id same
    rw [accounts, stageFor_releases traced]
    intro held
    obtain ⟨stage, before, stays⟩ := Option.map_eq_some_iff.mp held
    split at stays
    · cases stays
    · rename_i unreleased
      subst stays
      obtain paidBefore | isReleased | waits := (issued payout.id).mp paid
      · rw [← sameId] at paidBefore before
        exact inOrder.released booked bookedStored paidBefore before
      · exact unreleased ⟨rfl, isReleased⟩
      · cases waits

/-- What the payouts of an owner come to at a stage, after releases. -/
theorem inStage_releases {accounts : Accounts} (traced : accounts.Traced) (released : List Uuid)
    (stage : PayoutStage) (owner : Uuid) :
    (run Accounts.receive accounts (released.map .release)).inStage stage owner =
      accounts.payouts.total (fun payout => payout.ownerId = owner &&
        decide ((if accounts.stageOf payout.id = .held ∧ payout.id ∈ released then .released
          else accounts.stageOf payout.id) = stage)) (·.amount) := by
  have samePayouts := (traced.run_receive (released.map .release)).2.payouts
  rw [Accounts.inStage, samePayouts]
  refine Grouping.sumWhere_congr _ fun payout stored => ?_
  have found := accounts.payouts.find_of_mem stored
  have after := stageFor_releases traced released payout.id
  rw [Accounts.stageFor_of_find found] at after
  rw [← samePayouts] at found
  rw [Accounts.stageFor_of_find found] at after
  rw [Option.some.inj after]

/-- What was available stays available, and what is on hold are the payouts that are not paid. -/
theorem Pursued.balances (traced : start.accounts.Traced) (inOrder : start.InOrder)
    (sound : Sound start disbursement []) (pursued : Pursued start disbursement [])
    (owner : Uuid) :
    disbursement.accounts.availableBalance owner = start.accounts.availableBalance owner ∧
      disbursement.accounts.holdBalance owner =
        start.payouts.total (fun payout => payout.ownerId = owner &&
          (decide (start.accounts.stageFor payout.id = some .held) &&
            !decide (disbursement.AllPaid payout.id))) (·.amount) := by
  obtain ⟨released, accounts, issued⟩ := pursued.released
  obtain ⟨afterTraced, kept⟩ := traced.run_receive (released.map .release)
  rw [accounts]
  constructor
  · rw [afterTraced.available, traced.available, kept.unscheduled, inStage_releases traced]
    refine congrArg (_ + ·) (Grouping.sumWhere_congr _ fun payout stored => ?_)
    congr 1
    rw [decide_eq_decide]
    split
    · rename_i both
      rw [both.1]
      decide
    · rfl
  · rw [afterTraced.hold, inStage_releases traced]
    refine (total_image PayoutRow.toPayout (fun _ => rfl) start.payouts _ _).trans ?_
    refine Grouping.sumWhere_congr _ fun payout stored => ?_
    congr 1
    have found : start.accounts.payouts.find payout.id = some payout.toPayout := by
      rw [find_payouts, start.payouts.find_of_mem stored]
      rfl
    obtain ⟨later, laterStored, same⟩ := pursued.continues.symm.exists_payout stored
    have sameId : later.id = payout.id := congrArg Payout.id same
    have paid := pursued.hasPaid_iff inOrder sound (by simp) laterStored
    rw [sameId, issued] at paid
    have notHeld := inOrder.released payout stored
    rw [Accounts.stageFor_of_find found] at notHeld ⊢
    rw [Bool.eq_iff_iff, Bool.and_eq_true, Bool.not_eq_true', decide_eq_true_iff,
      decide_eq_true_iff, decide_eq_false_iff_not, ← paid, Option.some.injEq]
    by_cases held : start.accounts.stageOf payout.id = .held
    · have unpaid : ¬start.hasPaid payout.id = true := fun before =>
        notHeld before (congrArg some held)
      simp [held, unpaid]
    · simp [held]

/-- Whenever the confirmations have come to an end the books are in order, however their calls were
mixed, as long as no two of them held the same line: every payout is paid exactly when all its lines
are, none that is paid is held for any more, and the wallets hold the rest. -/
theorem inOrder_run (accountsActions : List AccountsAction)
    (cameToBe : start.accounts = run Accounts.perform .empty accountsActions)
    (inOrder : start.InOrder) (idle : start.tasks = [])
    (confirmations : List ConfirmationAction)
    (undoubled : Along confirm Undoubled start confirmations)
    (ended : (run confirm start confirmations).tasks = []) :
    let last := run confirm start confirmations
    last.InOrder ∧ ∀ owner,
      last.accounts.availableBalance owner = start.accounts.availableBalance owner ∧
      last.accounts.holdBalance owner =
        start.payouts.total (fun payout => payout.ownerId = owner &&
          (decide (start.accounts.stageFor payout.id = some .held) &&
            !decide (last.AllPaid payout.id))) (·.amount) := by
  have traced : start.accounts.Traced := by
    rw [cameToBe]
    exact Accounts.traced_run accountsActions
  obtain ⟨sound, pursued⟩ := inOrder.pursued_run idle undoubled
  rw [ended] at sound pursued
  exact ⟨pursued.inOrder traced inOrder sound, pursued.balances traced inOrder sound⟩

/-- The payouts of the wallets once they are all in transit. -/
def inTransit (accounts : Accounts) (payoutLines : Table Uuid PayoutLineRow (·.id)) :
    Disbursement where
  wallets := accounts.wallets
  transactions := accounts.transactions
  payouts := accounts.payouts.image (fun payout => ⟨payout, .inTransit, 0⟩) fun _ => rfl
  payoutLines := payoutLines
  tasks := []

theorem accounts_inTransit (accounts : Accounts) (payoutLines : Table Uuid PayoutLineRow (·.id)) :
    (inTransit accounts payoutLines).accounts = accounts := by
  obtain ⟨wallets, transactions, ⟨rows, distinct⟩⟩ := accounts
  simp [inTransit, Disbursement.accounts, image, Function.comp_def]

/-- The payouts of two providers are scheduled and held for. -/
def exampleHeldActions : List AccountsAction :=
  Accounts.exampleScheduled ++
    [PayoutSignal.hold (Accounts.examplePayoutId Settlement.exampleEarner),
      .hold (Accounts.examplePayoutId Settlement.exampleImpacted)].map fun signal =>
        .handle signal.command signal.isHandler_command

def exampleTransitLine (id : Uuid) (amount : Money) (serviceRequestId : String) (owner : Uuid)
    (vendorId : String) : PayoutLineRow :=
  ⟨id, amount, some serviceRequestId, Accounts.examplePayoutId owner, some vendorId, .inTransit,
    none, none⟩

/-- One payout has two lines and the other has one. -/
def exampleTransit : Disbursement :=
  inTransit (run Accounts.perform .empty exampleHeldActions)
    ⟨[exampleTransitLine ⟨"5f01", by decide⟩ 60 "240101-a1b2c3d" Settlement.exampleEarner "15453",
      exampleTransitLine ⟨"5f02", by decide⟩ 40 "240102-a1b2c3d" Settlement.exampleEarner "15453",
      exampleTransitLine ⟨"5f03", by decide⟩ 30 "240101-a1b2c3d" Settlement.exampleImpacted "20001"],
      by decide⟩

theorem inOrder_exampleTransit : exampleTransit.InOrder where
  processed := by decide +kernel
  paid := by decide +kernel
  released := by decide +kernel
  positive := by decide +kernel
  addsUp := by decide +kernel
  itemised := by decide +kernel
  uniform := by decide +kernel

/-- The two lines of the first payout are confirmed side by side. -/
def exampleConfirmations : List ConfirmationAction :=
  [.markPayoutLinesAsPaid ⟨"240101-a1b2c3d", "15453", "2000001234", "01/2/2024"⟩,
    .markPayoutLinesAsPaid ⟨"240102-a1b2c3d", "15453", "2000001235", "01/2/2024"⟩,
    .proceed 1, .proceed 0, .proceed 1, .proceed 0, .proceed 1, .proceed 0, .proceed 0, .proceed 0,
    .proceed 0, .proceed 0]

theorem inOrder_run_example :
    (run confirm exampleTransit exampleConfirmations).hasPaid
        (Accounts.examplePayoutId Settlement.exampleEarner) = true ∧
      (run confirm exampleTransit exampleConfirmations).accounts.holdBalance
        Settlement.exampleImpacted = 30 ∧
      (run confirm exampleTransit exampleConfirmations).InOrder := by
  refine ⟨by decide +kernel, by decide +kernel, ?_⟩
  exact (inOrder_run exampleHeldActions (accounts_inTransit _ _) inOrder_exampleTransit rfl
    exampleConfirmations (by decide +kernel) (by decide +kernel)).1

end Disbursement

end FieldService
