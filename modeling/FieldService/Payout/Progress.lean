/-
This file settles when the money held for a payout may be released before the payout is paid.

A payout comes to its end in two ways. An administrator gives one that is in transit another
status; or the payments of its lines come in, and when they add up to it the payout is marked
as paid. Both are handlers that wait for the database several times, so others move in
between, and both end with a release of the amount that is held. What a handler has still to
do is a task, and a step takes up any one of the tasks: all orders of the awaited calls are
runs of this model.
-/

import FieldService.Payout.Factory
import FieldService.Wallet.Credits

namespace FieldService

open Execution Table

/-! ### Payouts and their lines -/

/-- The transfer status of a payout, and of a line. -/
inductive PayoutStatusEnum where
  | failed
  | inTransit
  | paid
  | scheduled
  deriving DecidableEq, Repr

/-- A row of `payouts`. -/
structure PayoutRow extends Payout where
  status : PayoutStatusEnum
  processedAmount : Money
  deriving DecidableEq, Repr

namespace PayoutRow

def markAsPaid (payout : PayoutRow) : PayoutRow :=
  { payout with status := .paid }

def hasPaid (payout : PayoutRow) : Bool :=
  payout.status = .paid

def hasPaymentFullyProcessed (payout : PayoutRow) : Bool :=
  payout.processedAmount = payout.amount

end PayoutRow

/-- What the payments read and write of a row of `payout_lines`. -/
structure PayoutLineRow where
  id : Uuid
  amount : Money
  serviceRequestId : Option String
  payoutId : Uuid
  ownerVendorId : Option String
  status : PayoutStatusEnum
  sapDocumentPaymentNo : Option String
  paymentDate : Option String
  deriving DecidableEq, Repr

/-- `PayoutLine.markAsPaid`. -/
def PayoutLineRow.markAsPaid (sapDocumentPaymentNo paymentDate : String) (line : PayoutLineRow) :
    Except AppError PayoutLineRow :=
  if line.status ≠ .inTransit then
    .error (.error ("Payout line not in correct state to be marked as paid, id: " ++ line.id.value))
  else
    .ok { line with
      sapDocumentPaymentNo := some sapDocumentPaymentNo
      paymentDate := some paymentDate
      status := .paid }

structure UpdatePayoutDto where
  status : PayoutStatusEnum
  deriving DecidableEq, Repr

structure MarkPayoutLinesAsPaidInput where
  serviceRequestId : String
  serviceProviderVendorId : String
  sapDocumentPaymentNo : String
  paymentDate : String
  deriving DecidableEq, Repr

/-! ### Handlers, call by call -/

/-- What a handler has still to do after a call it waits for. -/
inductive PayoutTask where
  | update (id : Uuid) (input : UpdatePayoutDto)
  | saveLines (input : MarkPayoutLinesAsPaidInput) (payoutLines : List PayoutLineRow)
  | increment (input : MarkPayoutLinesAsPaidInput) (payoutId : Uuid) (amount : Money)
  | findPayout (payoutId : Uuid)
  | savePayout (payout : PayoutRow)
  | releaseBalanceForPayout (payoutId : Uuid)
  deriving DecidableEq, Repr

/-- The payouts with their lines, the wallets, and the handlers that are under way. -/
structure Disbursement where
  wallets : Table Uuid Wallet (·.ownerId)
  transactions : Table Nat WalletTransaction (·.id)
  payouts : Table Uuid PayoutRow (·.id)
  payoutLines : Table Uuid PayoutLineRow (·.id)
  tasks : List PayoutTask

namespace Disbursement

variable (disbursement : Disbursement)

/-- What the wallet commands see. -/
def accounts : Accounts where
  wallets := disbursement.wallets
  transactions := disbursement.transactions
  payouts :=
    { rows := disbursement.payouts.rows.map (·.toPayout)
      distinct := by
        rw [List.map_map]
        exact disbursement.payouts.distinct }

/-- `UpdatePayoutHandler.execute`, to its first write. -/
def updatePayout (id : Uuid) (input : UpdatePayoutDto) : Except AppError (List PayoutTask) :=
  match disbursement.payouts.find id with
  | none => .ok []
  | some payout =>
    if payout.status ≠ .inTransit then
      .error (.error "Only payout status in transit allowed to be updated to other status.")
    else .ok [.update id input]

/-- `markPayoutLinesAsPaid`, to its first write. -/
def markPayoutLinesAsPaid (input : MarkPayoutLinesAsPaidInput) :
    Except AppError (List PayoutTask) := do
  let payoutLines := disbursement.payoutLines.rows.filter fun line =>
    line.serviceRequestId = some input.serviceRequestId ∧
      line.ownerVendorId = some input.serviceProviderVendorId
  if payoutLines.length < 1 then
    throw (.error ("Unable to locate payout-lines with\n                (serviceRequestId:'" ++
      input.serviceRequestId ++ "' and serviceProviderVendorId:'" ++
      input.serviceProviderVendorId ++ "')"))
  let paidLines ← payoutLines.mapM (·.markAsPaid input.sapDocumentPaymentNo input.paymentDate)
  return [.saveLines input paidLines]

/-- One call of a handler: what it leaves in the database, and what comes after it. The event
that a payout is paid becomes the command that releases its amount. -/
def perform : PayoutTask → Except AppError (Disbursement × List PayoutTask)
  | .update id input =>
    match disbursement.payouts.find id with
    | none => .ok (disbursement, [.releaseBalanceForPayout id])
    | some payout =>
      .ok ({ disbursement with
          payouts := disbursement.payouts.save { payout with status := input.status } },
        [.releaseBalanceForPayout id])
  | .saveLines input payoutLines =>
    .ok ({ disbursement with
        payoutLines := payoutLines.foldl Table.save disbursement.payoutLines },
      payoutLines.head?.toList.map fun first =>
        .increment input first.payoutId (payoutLines.foldl (fun sum line => sum + line.amount) 0))
  | .increment input payoutId amount =>
    match disbursement.payouts.find payoutId with
    | none =>
      .error (.error ("Unable to locate payout with (id: '" ++ payoutId.value ++
        ")'\n                from payout-lines (serviceRequestId:'" ++ input.serviceRequestId ++
        "' and serviceProviderVendorId:'" ++ input.serviceProviderVendorId ++ "')"))
    | some payout =>
      .ok ({ disbursement with
          payouts := disbursement.payouts.save
            { payout with processedAmount := payout.processedAmount + amount } },
        [.findPayout payoutId])
  | .findPayout payoutId =>
    match disbursement.payouts.find payoutId with
    | none => .error (.error "Cannot read property 'hasPaymentFullyProcessed' of undefined")
    | some payout =>
      if !payout.hasPaymentFullyProcessed then .ok (disbursement, [])
      else .ok (disbursement, [.savePayout payout])
  | .savePayout payout =>
    .ok ({ disbursement with payouts := disbursement.payouts.save payout.markAsPaid },
      [.releaseBalanceForPayout payout.id])
  | .releaseBalanceForPayout payoutId => do
    let accounts ← disbursement.accounts.releaseBalanceForPayout payoutId
    return ({ disbursement with
        wallets := accounts.wallets
        transactions := accounts.transactions }, [])

end Disbursement

/-- An administrator updates a payout, payments of lines come in, or a handler that is under
way makes its next call. -/
inductive DisbursementAction where
  | updatePayout (id : Uuid) (input : UpdatePayoutDto)
  | markPayoutLinesAsPaid (input : MarkPayoutLinesAsPaidInput)
  | proceed (index : Nat)
  deriving DecidableEq, Repr

namespace Disbursement

variable (disbursement : Disbursement)

/-- The handlers with those that have come to wait. -/
def await (begun : Except AppError (List PayoutTask)) : Disbursement :=
  match begun with
  | .error _ => disbursement
  | .ok tasks => { disbursement with tasks := disbursement.tasks ++ tasks }

/-- The next call of a handler and what comes after it. A handler that throws has ended. -/
def call (task : PayoutTask) : Disbursement :=
  match disbursement.perform task with
  | .error _ => disbursement
  | .ok (next, tasks) => next.await (.ok tasks)

def step : DisbursementAction → Disbursement
  | .updatePayout id input => disbursement.await (disbursement.updatePayout id input)
  | .markPayoutLinesAsPaid input => disbursement.await (disbursement.markPayoutLinesAsPaid input)
  | .proceed index =>
    match disbursement.tasks[index]? with
    | none => disbursement
    | some task =>
      { disbursement with tasks := disbursement.tasks.eraseIdx index : Disbursement }.call task

/-! ### Released amounts and paid payouts -/

def hasPaid (payoutId : Uuid) : Bool :=
  (disbursement.payouts.find payoutId).any (·.hasPaid)

/-- The amount held for a payout has been taken out of the wallet. -/
def hasReleased (payoutId : Uuid) : Bool :=
  disbursement.transactions.rows.any fun transaction =>
    transaction.type = .payout ∧ transaction.status = .success ∧
      transaction.payoutId = some payoutId

/-- A `PAYOUT` transaction is a success only if its payout is paid. -/
def ReleasedWhenPaid : Prop :=
  ∀ transaction ∈ disbursement.transactions.rows,
    transaction.type = .payout → transaction.status = .success →
      ∀ payoutId ∈ transaction.payoutId, disbursement.hasPaid payoutId = true

/-- The condition on the next call of a handler: an update does not take a payout that has
been released out of the status of a paid one, and a release that finds a pending transaction
finds its payout paid. -/
def Warrants : PayoutTask → Prop
  | .update id input => disbursement.hasReleased id = true → input.status = .paid
  | .releaseBalanceForPayout payoutId =>
    disbursement.accounts.releasable payoutId = true → disbursement.hasPaid payoutId = true
  | _ => True

instance (task : PayoutTask) : Decidable (disbursement.Warrants task) :=
  match task with
  | .update _ _ => inferInstanceAs (Decidable (_ → _))
  | .releaseBalanceForPayout _ => inferInstanceAs (Decidable (_ → _))
  | .saveLines _ _ => inferInstanceAs (Decidable True)
  | .increment _ _ _ => inferInstanceAs (Decidable True)
  | .findPayout _ => inferInstanceAs (Decidable True)
  | .savePayout _ => inferInstanceAs (Decidable True)

/-- The condition on a step. -/
def Warranted : DisbursementAction → Prop
  | .proceed index => ∀ task ∈ disbursement.tasks[index]?, disbursement.Warrants task
  | _ => True

instance (action : DisbursementAction) : Decidable (disbursement.Warranted action) :=
  match action with
  | .proceed index => inferInstanceAs (Decidable (∀ _ ∈ disbursement.tasks[index]?, _))
  | .updatePayout _ _ => inferInstanceAs (Decidable True)
  | .markPayoutLinesAsPaid _ => inferInstanceAs (Decidable True)

/-! ### What a call changes -/

variable {disbursement}

theorem hasReleased_iff (payoutId : Uuid) :
    disbursement.hasReleased payoutId = true ↔
      ∃ transaction ∈ disbursement.transactions.rows, transaction.type = .payout ∧
        transaction.status = .success ∧ transaction.payoutId = some payoutId := by
  simp [hasReleased]

theorem releasedWhenPaid_iff :
    disbursement.ReleasedWhenPaid ↔
      ∀ payoutId, disbursement.hasReleased payoutId = true →
        disbursement.hasPaid payoutId = true := by
  constructor
  · intro holds payoutId released
    obtain ⟨transaction, member, isPayout, success, ofPayout⟩ :=
      (hasReleased_iff payoutId).mp released
    exact holds transaction member isPayout success payoutId ofPayout
  · intro holds transaction member isPayout success payoutId ofPayout
    exact holds payoutId
      ((hasReleased_iff payoutId).mpr ⟨transaction, member, isPayout, success, ofPayout⟩)

theorem hasPaid_save (payout : PayoutRow) (payoutId : Uuid) :
    ({ disbursement with payouts := disbursement.payouts.save payout } : Disbursement).hasPaid
        payoutId =
      if payout.id = payoutId then payout.hasPaid else disbursement.hasPaid payoutId := by
  show ((disbursement.payouts.save payout).find payoutId).any (·.hasPaid) = _
  rw [find_save]
  split <;> rfl

/-- A payout that is saved keeps the property exactly if it has not been released or is
paid. -/
theorem releasedWhenPaid_save_iff (holds : disbursement.ReleasedWhenPaid) (payout : PayoutRow) :
    ({ disbursement with
        payouts := disbursement.payouts.save payout } : Disbursement).ReleasedWhenPaid ↔
      (disbursement.hasReleased payout.id = true → payout.hasPaid = true) := by
  rw [releasedWhenPaid_iff] at holds ⊢
  constructor
  · intro kept released
    have paid := kept payout.id released
    rwa [hasPaid_save, if_pos rfl] at paid
  · intro paid payoutId released
    rw [hasPaid_save]
    split
    · rename_i same
      subst same
      exact paid released
    · exact holds payoutId released

/-- An amount that is released keeps the property exactly if the payout is paid. -/
theorem releasedWhenPaid_release_iff (holds : disbursement.ReleasedWhenPaid)
    {pending : WalletTransaction} {payoutId : Uuid}
    (isPayout : pending.type = .payout) (ofPayout : pending.payoutId = some payoutId)
    (wallet : Wallet) :
    ({ disbursement with
        wallets := disbursement.wallets.save wallet
        transactions := disbursement.transactions.save
          { pending with wallet := wallet.ownerId, status := .success } } :
        Disbursement).ReleasedWhenPaid ↔ disbursement.hasPaid payoutId = true := by
  constructor
  · intro kept
    refine kept { pending with wallet := wallet.ownerId, status := .success } ?_ isPayout rfl
      payoutId ofPayout
    exact (mem_save_iff _ _ _).mpr (Or.inl rfl)
  · intro paid transaction member isPayout success other ofOther
    rcases disbursement.transactions.mem_save member with rfl | before
    · cases ofPayout.symm.trans ofOther
      exact paid
    · exact holds transaction before isPayout success other ofOther

/-- A call keeps the property exactly under its condition. -/
theorem call_exactly (holds : disbursement.ReleasedWhenPaid) (task : PayoutTask) :
    (disbursement.call task).ReleasedWhenPaid ↔ disbursement.Warrants task := by
  cases task with
  | update id input =>
    rw [call, perform]
    obtain missing | ⟨payout, found⟩ := Option.eq_none_or_eq_some (disbursement.payouts.find id)
    · rw [missing]
      refine iff_of_true holds fun released => ?_
      have paid := releasedWhenPaid_iff.mp holds id released
      rw [hasPaid, missing] at paid
      cases paid
    · obtain rfl := (disbursement.payouts.find_key found).2
      rw [found]
      refine (releasedWhenPaid_save_iff holds _).trans ?_
      simp only [PayoutRow.hasPaid, decide_eq_true_eq]
      rfl
  | saveLines input payoutLines => exact iff_of_true holds trivial
  | increment input payoutId amount =>
    rw [call, perform]
    obtain missing | ⟨payout, found⟩ :=
      Option.eq_none_or_eq_some (disbursement.payouts.find payoutId)
    · rw [missing]
      exact iff_of_true holds trivial
    · obtain rfl := (disbursement.payouts.find_key found).2
      rw [found]
      refine (releasedWhenPaid_save_iff holds _).trans (iff_of_true (fun released => ?_) trivial)
      have paid := releasedWhenPaid_iff.mp holds payout.id released
      rwa [hasPaid, found] at paid
  | findPayout payoutId =>
    refine iff_of_true ?_ trivial
    rw [call, perform]
    rcases disbursement.payouts.find payoutId with _ | payout
    · exact holds
    · simp only
      rcases payout.hasPaymentFullyProcessed with _ | _ <;> exact holds
  | savePayout payout =>
    exact (releasedWhenPaid_save_iff holds payout.markAsPaid).trans
      (iff_of_true (fun _ => rfl) trivial)
  | releaseBalanceForPayout payoutId =>
    rw [call, perform]
    rcases ended : disbursement.accounts.releaseBalanceForPayout payoutId with error | accounts
    · refine iff_of_true holds fun something => ?_
      rw [Accounts.releasable_of_error ended] at something
      cases something
    · rcases Accounts.releaseBalanceForPayout_cases ended with
        ⟨nothing, rfl⟩ | ⟨something, payout, wallet, pending, stored, -, held, rfl⟩
      · refine iff_of_true holds fun something => ?_
        rw [nothing] at something
        cases something
      · obtain ⟨-, ofPayout, -, isPayout⟩ := Accounts.pending_type held
        obtain rfl := (disbursement.accounts.payouts.find_key stored).2
        refine (releasedWhenPaid_release_iff holds isPayout ofPayout _).trans ?_
        exact ⟨fun paid _ => paid, fun warranted => warranted something⟩

theorem step_exactly (holds : disbursement.ReleasedWhenPaid) (action : DisbursementAction) :
    (disbursement.step action).ReleasedWhenPaid ↔ disbursement.Warranted action := by
  cases action with
  | updatePayout id input =>
    rw [step]
    rcases disbursement.updatePayout id input with error | tasks <;>
      exact iff_of_true holds trivial
  | markPayoutLinesAsPaid input =>
    rw [step]
    rcases disbursement.markPayoutLinesAsPaid input with error | tasks <;>
      exact iff_of_true holds trivial
  | proceed index =>
    rw [step, Warranted]
    obtain idle | ⟨task, waiting⟩ := Option.eq_none_or_eq_some disbursement.tasks[index]?
    · rw [idle]
      refine iff_of_true holds fun task waiting => ?_
      cases waiting
    · rw [waiting]
      have unstarted : ({ disbursement with
          tasks := disbursement.tasks.eraseIdx index } : Disbursement).ReleasedWhenPaid := holds
      refine (call_exactly unstarted task).trans ⟨fun warranted other same => ?_, fun warranted =>
        warranted task rfl⟩
      cases same
      exact warranted

/-! ### Payments alone -/

/-- Nothing but a paid payout is going to be released by what is left to do. -/
def PaidFirst (disbursement : Disbursement) : PayoutTask → Prop
  | .update id input => input.status = .paid ∧ (disbursement.payouts.find id).isSome = true
  | .releaseBalanceForPayout payoutId => disbursement.hasPaid payoutId = true
  | _ => True

/-- Payouts stay, and those that are paid stay paid. -/
def KeepsPaid (before after : Disbursement) : Prop :=
  ∀ payoutId, (before.hasPaid payoutId = true → after.hasPaid payoutId = true) ∧
    ((before.payouts.find payoutId).isSome = true → (after.payouts.find payoutId).isSome = true)

theorem PaidFirst.keep {before after : Disbursement} {task : PayoutTask}
    (first : before.PaidFirst task) (keeps : before.KeepsPaid after) : after.PaidFirst task := by
  cases task with
  | update id input => exact ⟨first.1, (keeps id).2 first.2⟩
  | releaseBalanceForPayout payoutId => exact (keeps payoutId).1 first
  | saveLines input payoutLines => trivial
  | increment input payoutId amount => trivial
  | findPayout payoutId => trivial
  | savePayout payout => trivial

theorem keepsPaid_save {payout : PayoutRow}
    (paid : disbursement.hasPaid payout.id = true → payout.hasPaid = true) :
    disbursement.KeepsPaid { disbursement with payouts := disbursement.payouts.save payout } := by
  intro payoutId
  rw [hasPaid_save, find_save]
  split
  · rename_i same
    subst same
    exact ⟨paid, fun _ => rfl⟩
  · exact ⟨id, id⟩

/-- A call keeps the paid payouts, and what comes after it releases only such. -/
theorem call_paidFirst {task : PayoutTask} (first : disbursement.PaidFirst task) :
    disbursement.KeepsPaid (disbursement.call task) ∧
      ∃ tasks, (disbursement.call task).tasks = disbursement.tasks ++ tasks ∧
        ∀ later ∈ tasks, (disbursement.call task).PaidFirst later := by
  cases task with
  | update id input =>
    obtain ⟨toPaid, stored⟩ := first
    obtain ⟨payout, found⟩ := Option.isSome_iff_exists.mp stored
    obtain rfl := (disbursement.payouts.find_key found).2
    rw [call, perform, found]
    refine ⟨keepsPaid_save fun _ => decide_eq_true toPaid, _, rfl, ?_⟩
    simp only [List.mem_singleton, forall_eq]
    refine (hasPaid_save ..).trans ?_
    rw [if_pos rfl]
    exact decide_eq_true toPaid
  | saveLines input payoutLines =>
    refine ⟨fun _ => ⟨id, id⟩, _, rfl, fun later member => ?_⟩
    obtain ⟨line, -, rfl⟩ := List.mem_map.mp member
    trivial
  | increment input payoutId amount =>
    rw [call, perform]
    obtain missing | ⟨payout, found⟩ :=
      Option.eq_none_or_eq_some (disbursement.payouts.find payoutId)
    · rw [missing]
      exact ⟨fun _ => ⟨id, id⟩, [], (List.append_nil _).symm, by simp⟩
    · obtain rfl := (disbursement.payouts.find_key found).2
      rw [found]
      refine ⟨keepsPaid_save fun paid => ?_, _, rfl, ?_⟩
      · rwa [hasPaid, found] at paid
      · simp only [List.mem_singleton, forall_eq]
        trivial
  | findPayout payoutId =>
    rw [call, perform]
    rcases disbursement.payouts.find payoutId with _ | payout
    · exact ⟨fun _ => ⟨id, id⟩, [], (List.append_nil _).symm, by simp⟩
    · simp only
      rcases payout.hasPaymentFullyProcessed with _ | _
      · exact ⟨fun _ => ⟨id, id⟩, [], rfl, by simp⟩
      · refine ⟨fun _ => ⟨id, id⟩, _, rfl, ?_⟩
        simp only [List.mem_singleton, forall_eq]
        trivial
  | savePayout payout =>
    refine ⟨keepsPaid_save fun _ => rfl, _, rfl, ?_⟩
    simp only [List.mem_singleton, forall_eq]
    exact (hasPaid_save payout.markAsPaid payout.id).trans (if_pos rfl)
  | releaseBalanceForPayout payoutId =>
    rw [call, perform]
    rcases disbursement.accounts.releaseBalanceForPayout payoutId with error | accounts
    · exact ⟨fun _ => ⟨id, id⟩, [], (List.append_nil _).symm, by simp⟩
    · exact ⟨fun _ => ⟨id, id⟩, [], rfl, by simp⟩

/-- An update that does not decline the payout. -/
def UpdatesToPaid (_ : Disbursement) : DisbursementAction → Prop
  | .updatePayout _ input => input.status = .paid
  | _ => True

theorem step_paidFirst (waiting : ∀ task ∈ disbursement.tasks, disbursement.PaidFirst task)
    {action : DisbursementAction} (toPaid : disbursement.UpdatesToPaid action) :
    ∀ task ∈ (disbursement.step action).tasks, (disbursement.step action).PaidFirst task := by
  have awaited : ∀ begun : Except AppError (List PayoutTask),
      (∀ tasks, begun = .ok tasks → ∀ task ∈ tasks, disbursement.PaidFirst task) →
        ∀ task ∈ (disbursement.await begun).tasks, (disbursement.await begun).PaidFirst task := by
    rintro (error | tasks) fresh task member
    · exact waiting task member
    · rcases List.mem_append.mp member with before | new
      · exact (waiting task before).keep fun _ => ⟨id, id⟩
      · exact (fresh tasks rfl task new).keep fun _ => ⟨id, id⟩
  cases action with
  | updatePayout id input =>
    refine awaited _ fun tasks begun task member => ?_
    rw [updatePayout] at begun
    obtain missing | ⟨payout, found⟩ := Option.eq_none_or_eq_some (disbursement.payouts.find id)
    · rw [missing] at begun
      cases begun
      cases member
    · rw [found] at begun
      simp only at begun
      split at begun <;> cases begun
      obtain rfl := List.mem_singleton.mp member
      exact ⟨toPaid, by rw [found]; rfl⟩
  | markPayoutLinesAsPaid input =>
    refine awaited _ fun tasks begun task member => ?_
    simp only [markPayoutLinesAsPaid] at begun
    split at begun
    · cases begun
    obtain ⟨paidLines, -, saved⟩ := bind_eq_ok begun
    cases saved
    obtain rfl := List.mem_singleton.mp member
    trivial
  | proceed index =>
    rw [step]
    obtain idle | ⟨task, taken⟩ := Option.eq_none_or_eq_some disbursement.tasks[index]?
    · rw [idle]
      exact waiting
    · rw [taken]
      have others : ∀ other ∈ disbursement.tasks.eraseIdx index, disbursement.PaidFirst other :=
        fun other member => waiting other (List.mem_of_mem_eraseIdx member)
      have first : ({ disbursement with
          tasks := disbursement.tasks.eraseIdx index } : Disbursement).PaidFirst task :=
        (waiting task (List.mem_of_getElem? taken)).keep fun _ => ⟨id, id⟩
      obtain ⟨keeps, tasks, left, fresh⟩ := call_paidFirst first
      intro later member
      rw [left] at member
      rcases List.mem_append.mp member with before | new
      · exact ((others later before).keep fun _ => ⟨id, id⟩ :
          ({ disbursement with
            tasks := disbursement.tasks.eraseIdx index } : Disbursement).PaidFirst later).keep keeps
      · exact fresh later new

theorem warranted_of_paidFirst
    (waiting : ∀ task ∈ disbursement.tasks, disbursement.PaidFirst task)
    (action : DisbursementAction) : disbursement.Warranted action := by
  cases action with
  | updatePayout id input => trivial
  | markPayoutLinesAsPaid input => trivial
  | proceed index =>
    intro task taken
    have first := waiting task (List.mem_of_getElem? taken)
    cases task with
    | update id input => exact fun _ => first.1
    | releaseBalanceForPayout payoutId => exact fun _ => first
    | saveLines input payoutLines => trivial
    | increment input payoutId amount => trivial
    | findPayout payoutId => trivial
    | savePayout payout => trivial

/-- When administrators declare payouts paid and nothing else, the payments of the lines and the
updates release the amounts of paid payouts only. -/
theorem releasedWhenPaid_of_updatesToPaid (disbursement : Disbursement)
    (holds : disbursement.ReleasedWhenPaid) (idle : disbursement.tasks = [])
    (actions : List DisbursementAction) (toPaid : Along step UpdatesToPaid disbursement actions) :
    Throughout step ReleasedWhenPaid disbursement actions := by
  refine throughout_of_invariant step UpdatesToPaid
    (fun disbursement => disbursement.ReleasedWhenPaid ∧
      ∀ task ∈ disbursement.tasks, disbursement.PaidFirst task)
    ReleasedWhenPaid (fun disbursement action invariant toPaid => ?_)
    (fun disbursement invariant => invariant.1) disbursement actions ⟨holds, by simp [idle]⟩ toPaid
  obtain ⟨holds, waiting⟩ := invariant
  exact ⟨(step_exactly holds action).mpr (warranted_of_paidFirst waiting action),
    step_paidFirst waiting toPaid⟩

/-! ### Runs -/

/-- In a run of updates, payments and whatever the handlers under way do next, amounts are
released of paid payouts only, exactly if every call meets its condition. -/
theorem releasedWhenPaid_throughout_iff (disbursement : Disbursement)
    (holds : disbursement.ReleasedWhenPaid) (actions : List DisbursementAction) :
    Throughout step ReleasedWhenPaid disbursement actions ↔
      Along step Warranted disbursement actions :=
  throughout_iff_along step Warranted (fun _ => True) ReleasedWhenPaid (fun _ _ _ => trivial)
    (fun _ action _ holds => step_exactly holds action) disbursement actions trivial holds

def exampleOwnerId : Uuid := ⟨"2a90", by decide⟩

def examplePayoutId : Uuid := ⟨"p2", by decide⟩

/-- A payout that is in transit and held for, with the only line it has. -/
def exampleDisbursement : Disbursement where
  wallets := ⟨[⟨exampleOwnerId, 40, 60, 0⟩], by simp⟩
  transactions :=
    ⟨[(WalletTransaction.forPayout 0 ⟨exampleOwnerId, 100, 0, 0⟩
        ⟨examplePayoutId, 60, exampleOwnerId, .daikin⟩).2], by simp⟩
  payouts :=
    ⟨[⟨⟨examplePayoutId, 60, exampleOwnerId, .daikin⟩, .inTransit, 0⟩], by simp⟩
  payoutLines :=
    ⟨[⟨⟨"l1", by decide⟩, 60, some "240101-a1b2c3d", examplePayoutId, some "15453", .inTransit,
        none, none⟩], by simp⟩
  tasks := []

/-- The payment of its line makes the payout a paid one before its amount is released. -/
theorem releasedWhenPaid_throughout_paid :
    (run step exampleDisbursement
        (.markPayoutLinesAsPaid ⟨"240101-a1b2c3d", "15453", "2000001234", "01/2/2024"⟩ ::
          List.replicate 5 (.proceed 0))).hasReleased examplePayoutId = true ∧
      Throughout step ReleasedWhenPaid exampleDisbursement
        (.markPayoutLinesAsPaid ⟨"240101-a1b2c3d", "15453", "2000001234", "01/2/2024"⟩ ::
          List.replicate 5 (.proceed 0)) := by
  refine ⟨by decide +kernel, (releasedWhenPaid_throughout_iff exampleDisbursement ?_ _).mpr ?_⟩
  · rw [releasedWhenPaid_iff]
    intro payoutId released
    simp [hasReleased, exampleDisbursement, WalletTransaction.forPayout] at released
  · decide +kernel

/-- The payout of a bank that has declined it is released all the same. -/
theorem not_releasedWhenPaid_declined :
    ¬ Throughout step ReleasedWhenPaid exampleDisbursement
      [.updatePayout examplePayoutId ⟨.failed⟩, .proceed 0, .proceed 0] := by
  intro throughout
  have paid := releasedWhenPaid_iff.mp (throughout _ List.prefix_rfl) examplePayoutId
  revert paid
  decide +kernel

end Disbursement

end FieldService
