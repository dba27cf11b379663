/-
This file models the return files, in which the bank tells what it has paid, and settles what
becomes of one that comes again and of one that comes together with others.

Every line that has four columns confirms a payment, whatever becomes of the other lines: what a
confirmation throws is logged. So a file is a list of confirmations, and a confirmation that has
taken place is refused from then on, which is why a file that comes again changes nothing
(`processPaymentStatus_twice`). The calls of the FTP server log what they throw as well. But a file
of which nothing has been received is missing on the disk when it is to be removed from there, and
this throws out of the loop: the files that come after it are not read.
-/

import FieldService.Library.Delimited
import FieldService.Orders.Packages
import FieldService.Payout.Payments

namespace FieldService

open Delimited Execution Orders Table

/-! ### Files and the server they are on -/

structure PayoutOptions where
  returnFileBackupFilePath : Option String
  deriving DecidableEq, Repr

structure ReturnFile where
  name : String
  content : String
  deriving DecidableEq, Repr

/-- What a download comes to: all of the file, a part of it, or nothing, and then there is no file
on the disk. -/
inductive Download where
  | complete
  | broken (received : String)
  | lost
  deriving DecidableEq, Repr

/-- What the calls of the server come to for one file. -/
structure FtpCalls where
  download : Download
  moves : Bool
  deriving DecidableEq, Repr

/-- A file of the return folder with what is to come of it. -/
abbrev ListedFile := ReturnFile × FtpCalls

/-- The return folder and the backup folder. -/
structure ReturnFolders where
  downloads : List ReturnFile
  backups : List ReturnFile
  deriving DecidableEq, Repr

namespace FtpService

/-- What is on the disk afterwards. What the call throws it logs itself, as the other two do. -/
def downloadFile (file : ReturnFile) : Download → Option String
  | .complete => some file.content
  | .broken received => some received
  | .lost => none

def renameFile (file : ReturnFile) (moves : Bool) (folders : ReturnFolders) : ReturnFolders :=
  if moves then ⟨folders.downloads.erase file, folders.backups ++ [file]⟩ else folders

def removeFile (file : ReturnFile) (moves : Bool) (folders : ReturnFolders) : ReturnFolders :=
  if moves then { folders with downloads := folders.downloads.erase file } else folders

end FtpService

/-! ### Lines -/

/-- `data.split(/\r?\n/)`. -/
def splitLines : List Char → List (List Char)
  | [] => [[]]
  | '\r' :: '\n' :: rest => [] :: splitLines rest
  | '\n' :: rest => [] :: splitLines rest
  | character :: rest => (splitLines rest).modifyHead (character :: ·)

/-- A line of four columns. -/
def readLine (line : List Char) : Option MarkPayoutLinesAsPaidInput :=
  let column (text : List Char) : String := trim (String.ofList text)
  if (column line).length = 0 then none
  else
    match split [';'] line with
    | [serviceRequestId, sapDocumentPaymentNo, serviceProviderVendorId, paymentDate] =>
      some
        { serviceRequestId := column serviceRequestId
          sapDocumentPaymentNo := column sapDocumentPaymentNo
          serviceProviderVendorId := column serviceProviderVendorId
          paymentDate := column paymentDate }
    | _ => none

/-- The payments of a text, line by line. -/
def paymentsOf (data : String) : List MarkPayoutLinesAsPaidInput :=
  if 0 < data.length then (splitLines data.toList).filterMap readLine else []

/-! ### Processing -/

section Processing

variable (failures : MarkPayoutLinesAsPaidInput → PaymentFailures)

/-- A payment is confirmed, and what is thrown is logged. -/
def Disbursement.confirmPayment (disbursement : Disbursement) (input : MarkPayoutLinesAsPaidInput) :
    Disbursement :=
  (disbursement.markPayoutLinesAsPaidToTheEnd (failures input) input).1

/-- The database and the folders of the server. -/
structure ReturnSite where
  disbursement : Disbursement
  folders : ReturnFolders

def ReturnFile.isPaymentStatus (file : ReturnFile) : Bool :=
  file.name.startsWith "uber_paystatus"

variable (options : PayoutOptions)

/-- `renameFile` or `removeFile`, as the options say. -/
def PayoutOptions.putAway (file : ReturnFile) (moves : Bool) (folders : ReturnFolders) :
    ReturnFolders :=
  if (options.returnFileBackupFilePath.getD "").length > 0 then
    FtpService.renameFile file moves folders
  else FtpService.removeFile file moves folders

/-- The loop over the files, with what it throws. A file that is not on the disk can neither be
read, which is logged, nor be removed from there. -/
def processFiles : List ListedFile → ReturnSite → ReturnSite × Option AppError
  | [], site => (site, none)
  | (file, calls) :: rest, site =>
    if !file.isPaymentStatus then processFiles rest site
    else
      match FtpService.downloadFile file calls.download with
      | none =>
        (site, some (.error ("ENOENT: no such file or directory, unlink '" ++ file.name ++ "'")))
      | some data =>
        processFiles rest
          { disbursement := run (·.confirmPayment failures) site.disbursement (paymentsOf data)
            folders := options.putAway file calls.moves site.folders }

/-- Files that could not be listed are undefined. -/
def processPaymentStatus (payoutOptions : Option PayoutOptions)
    (files : Option (List ListedFile)) (site : ReturnSite) : ReturnSite × Option AppError :=
  match payoutOptions with
  | none => (site, none)
  | some options =>
    match files with
    | none => (site, some (.error "files is not iterable"))
    | some files => processFiles failures options files site

end Processing

/-! ### The payments of a run -/

/-- The payments that are read from a file, if it is on the disk. -/
def ListedFile.payments (listed : ListedFile) : List MarkPayoutLinesAsPaidInput :=
  if listed.1.isPaymentStatus then
    ((FtpService.downloadFile listed.1 listed.2.download).map paymentsOf).getD []
  else []

/-- The file throws out of the loop. -/
def ListedFile.isMissing (listed : ListedFile) : Bool :=
  listed.1.isPaymentStatus && (FtpService.downloadFile listed.1 listed.2.download).isNone

/-- The files that are read, those before the first that is missing. -/
def filesRead (files : List ListedFile) : List ListedFile :=
  files.takeWhile fun listed => !listed.isMissing

section Run

variable (failures : MarkPayoutLinesAsPaidInput → PaymentFailures)

/-- A run confirms the payments of the files that are read, one after another. -/
theorem disbursement_processFiles (options : PayoutOptions) (files : List ListedFile)
    (site : ReturnSite) :
    (processFiles failures options files site).1.disbursement =
      run (·.confirmPayment failures) site.disbursement
        ((filesRead files).flatMap (·.payments)) := by
  induction files generalizing site with
  | nil => rfl
  | cons listed rest later =>
    obtain ⟨file, calls⟩ := listed
    rw [processFiles]
    by_cases named : file.isPaymentStatus = true
    · rw [if_neg (by simp [named])]
      cases received : FtpService.downloadFile file calls.download with
      | none => simp [filesRead, ListedFile.isMissing, named, received]
      | some data =>
        have present : ListedFile.isMissing (file, calls) = false := by
          simp [ListedFile.isMissing, received]
        have payments : ListedFile.payments (file, calls) = paymentsOf data := by
          simp [ListedFile.payments, named, received]
        simp only [later, filesRead, List.takeWhile_cons, present, Bool.not_false, if_true,
          List.flatMap_cons, payments, run_append]
    · have present : ListedFile.isMissing (file, calls) = false := by
        simp [ListedFile.isMissing, named]
      have payments : ListedFile.payments (file, calls) = [] := by
        simp [ListedFile.payments, named]
      rw [if_pos (by simp [named]), later]
      simp only [filesRead, List.takeWhile_cons, present, Bool.not_false, if_true,
        List.flatMap_cons, payments, List.nil_append]

/-- The payments of a run, whatever the database is like. -/
def paymentsRead (payoutOptions : Option PayoutOptions) (files : Option (List ListedFile)) :
    List MarkPayoutLinesAsPaidInput :=
  match payoutOptions, files with
  | some _, some files => (filesRead files).flatMap (·.payments)
  | _, _ => []

theorem disbursement_processPaymentStatus (payoutOptions : Option PayoutOptions)
    (files : Option (List ListedFile)) (site : ReturnSite) :
    (processPaymentStatus failures payoutOptions files site).1.disbursement =
      run (·.confirmPayment failures) site.disbursement (paymentsRead payoutOptions files) := by
  cases payoutOptions with
  | none => rfl
  | some options =>
    cases files with
    | none => rfl
    | some files => exact disbursement_processFiles failures options files site

end Run

/-! ### What a confirmation changes -/

/-- The payment is for the line. -/
def PayoutLineRow.IsFor (input : MarkPayoutLinesAsPaidInput) (line : PayoutLineRow) : Prop :=
  line.serviceRequestId = some input.serviceRequestId ∧
    line.ownerVendorId = some input.serviceProviderVendorId

namespace Disbursement

variable {failures : MarkPayoutLinesAsPaidInput → PaymentFailures} {disbursement : Disbursement}
  {input : MarkPayoutLinesAsPaidInput}

theorem mem_linesFor_iff (line : PayoutLineRow) :
    line ∈ disbursement.linesFor input ↔
      line ∈ disbursement.payoutLines.rows ∧ line.IsFor input := by
  rw [linesFor, List.mem_filter, decide_eq_true_iff, PayoutLineRow.IsFor]

theorem payable_iff :
    disbursement.Payable input ↔ (∃ line ∈ disbursement.payoutLines.rows, line.IsFor input) ∧
      ∀ line ∈ disbursement.payoutLines.rows, line.IsFor input → line.status = .inTransit := by
  rw [Payable, Ne, List.eq_nil_iff_forall_not_mem]
  simp only [mem_linesFor_iff, not_forall, not_not, and_imp]

/-- A confirmation that does not save its lines changes nothing. -/
theorem confirmPayment_of_not_saves (refused : ¬disbursement.Saves (failures input) input) :
    disbursement.confirmPayment failures input = disbursement := by
  obtain ⟨-, error, throws⟩ | ⟨saves, -⟩ :=
    markPayoutLinesAsPaidToTheEnd_cases disbursement (failures input) input
  · rw [confirmPayment, throws]
  · exact absurd saves refused

theorem payoutLines_confirmPayment_of_saves (saves : disbursement.Saves (failures input) input) :
    (disbursement.confirmPayment failures input).payoutLines =
      (disbursement.withPaidLines input).payoutLines := by
  obtain ⟨refused, -⟩ | ⟨-, first, rest, -, goesOn⟩ :=
    markPayoutLinesAsPaidToTheEnd_cases disbursement (failures input) input
  · exact absurd saves refused
  · rw [confirmPayment, goesOn]
    exact (finish_increment _ _ _ _ _).1

/-- The lines of a confirmation that saves them are paid, and the others are as they were. -/
theorem mem_confirmPayment_iff (saves : disbursement.Saves (failures input) input)
    (row : PayoutLineRow) :
    row ∈ (disbursement.confirmPayment failures input).payoutLines.rows ↔
      (∃ line ∈ disbursement.payoutLines.rows, line.IsFor input ∧
        row = line.paidWith input.sapDocumentPaymentNo input.paymentDate) ∨
      (row ∈ disbursement.payoutLines.rows ∧ ¬row.IsFor input) := by
  rw [payoutLines_confirmPayment_of_saves saves, withPaidLines,
    mem_saveAll_iff _ (disbursement.nodup_paidLinesFor input), paidLinesFor, List.mem_map]
  simp only [mem_linesFor_iff, List.forall_mem_map]
  refine or_congr ?_ (and_congr_right fun member => ?_)
  · simp only [and_assoc, eq_comm]
  · constructor
    · intro others isFor
      exact others row ⟨member, isFor⟩ rfl
    · rintro others line ⟨lineMember, isFor⟩ same
      have sameLine : line = row :=
        List.inj_on_of_nodup_map disbursement.payoutLines.distinct lineMember member same
      rw [sameLine] at isFor
      exact others isFor

/-- A confirmation that has saved its lines is refused from then on. -/
theorem not_payable_confirmPayment (saves : disbursement.Saves (failures input) input) :
    ¬(disbursement.confirmPayment failures input).Payable input := by
  rw [payable_iff]
  rintro ⟨-, inTransit⟩
  obtain ⟨line, member, isFor⟩ := (payable_iff.mp saves.2.1).1
  have paid := inTransit _ ((mem_confirmPayment_iff saves _).mpr
    (Or.inl ⟨line, member, isFor, rfl⟩)) isFor
  cases paid

/-- No confirmation makes a payment payable. -/
theorem payable_of_confirmPayment {other : MarkPayoutLinesAsPaidInput}
    (payable : (disbursement.confirmPayment failures other).Payable input) :
    disbursement.Payable input := by
  by_cases saves : disbursement.Saves (failures other) other
  swap
  · rwa [confirmPayment_of_not_saves saves] at payable
  rw [payable_iff] at payable ⊢
  obtain ⟨⟨row, member, isFor⟩, inTransit⟩ := payable
  refine ⟨?_, fun line lineMember lineFor => ?_⟩
  · obtain ⟨line, before, -, rfl⟩ | ⟨before, -⟩ := (mem_confirmPayment_iff saves row).mp member
    · exact ⟨line, before, isFor⟩
    · exact ⟨row, before, isFor⟩
  · by_cases confirmed : line.IsFor other
    · have paid := inTransit _ ((mem_confirmPayment_iff saves _).mpr
        (Or.inl ⟨line, lineMember, confirmed, rfl⟩)) lineFor
      cases paid
    · exact inTransit line ((mem_confirmPayment_iff saves line).mpr
        (Or.inr ⟨lineMember, confirmed⟩)) lineFor

/-- Confirming the same payments once more changes nothing. -/
theorem run_confirmPayment_twice (failures : MarkPayoutLinesAsPaidInput → PaymentFailures)
    (disbursement : Disbursement) (inputs : List MarkPayoutLinesAsPaidInput) :
    run (·.confirmPayment failures) (run (·.confirmPayment failures) disbursement inputs) inputs =
      run (·.confirmPayment failures) disbursement inputs := by
  refine run_run_of_idle _ (fun input disbursement => ¬disbursement.Saves (failures input) input)
    (fun input disbursement refused => confirmPayment_of_not_saves refused) ?_ ?_ disbursement
    inputs
  · intro input disbursement again
    by_cases saves : disbursement.Saves (failures input) input
    · exact not_payable_confirmPayment saves again.2.1
    · rw [confirmPayment_of_not_saves saves] at again
      exact saves again
  · intro input other disbursement refused again
    exact refused ⟨again.1, payable_of_confirmPayment again.2.1, again.2.2⟩

end Disbursement

/-- Processing the same files again leaves the database as it was after the first time. A call of
the database may even fail, as long as it does both times. -/
theorem processPaymentStatus_twice (failures : MarkPayoutLinesAsPaidInput → PaymentFailures)
    (payoutOptions : Option PayoutOptions) (files : Option (List ListedFile)) (site : ReturnSite) :
    (processPaymentStatus failures payoutOptions files
        (processPaymentStatus failures payoutOptions files site).1).1.disbursement =
      (processPaymentStatus failures payoutOptions files site).1.disbursement := by
  rw [disbursement_processPaymentStatus, disbursement_processPaymentStatus]
  exact Disbursement.run_confirmPayment_twice failures site.disbursement _

/-! ### Files side by side -/

/-- The two are for the same lines. -/
def MarkPayoutLinesAsPaidInput.Matches (first second : MarkPayoutLinesAsPaidInput) : Prop :=
  first.serviceRequestId = second.serviceRequestId ∧
    first.serviceProviderVendorId = second.serviceProviderVendorId

/-- Every payment that was payable, of every file that was downloaded, has been applied: its lines
are paid. -/
def AppliesEveryFile (options : PayoutOptions) (files : List ListedFile) (site : ReturnSite) :
    Prop :=
  ∀ listed ∈ files, listed.1.isPaymentStatus = true → listed.2.download = .complete →
    ∀ input ∈ paymentsOf listed.1.content, site.disbursement.Payable input →
      ∀ line ∈ site.disbursement.linesFor input,
        ∃ row ∈ (processPaymentStatus (fun _ => .none) (some options) (some files)
            site).1.disbursement.payoutLines.rows, row.id = line.id ∧ row.status = .paid

/-- The payments that were payable, of the files that were downloaded, are all among those of the
files that come before the first missing one. -/
def ReadInTime (files : List ListedFile) (disbursement : Disbursement) : Prop :=
  ∀ listed ∈ files, listed.1.isPaymentStatus = true → listed.2.download = .complete →
    ∀ input ∈ paymentsOf listed.1.content, disbursement.Payable input →
      ∃ earlier ∈ filesRead files, ∃ named ∈ earlier.payments, named.Matches input

namespace Disbursement

variable {disbursement : Disbursement} {input named : MarkPayoutLinesAsPaidInput}

/-- A confirmation no call of which fails. -/
def confirmed (disbursement : Disbursement) (input : MarkPayoutLinesAsPaidInput) : Disbursement :=
  disbursement.confirmPayment (fun _ => .none) input

theorem Payable.saves (payable : disbursement.Payable input) :
    disbursement.Saves ((fun _ => PaymentFailures.none) input) input :=
  ⟨rfl, payable, rfl⟩

theorem payable_of_matches (payable : disbursement.Payable input) (same : named.Matches input) :
    disbursement.Payable named := by
  rw [payable_iff] at payable ⊢
  simp only [PayoutLineRow.IsFor, same.1, same.2] at payable ⊢
  exact payable

theorem paidWith_mem_confirmed {line : PayoutLineRow} (payable : disbursement.Payable named)
    (member : line ∈ disbursement.payoutLines.rows) (isFor : line.IsFor named) :
    line.paidWith named.sapDocumentPaymentNo named.paymentDate ∈
      (disbursement.confirmed named).payoutLines.rows :=
  (mem_confirmPayment_iff payable.saves _).mpr (Or.inl ⟨line, member, isFor, rfl⟩)

/-- A line that is paid stays as it is. -/
theorem mem_confirmed_of_paid {row : PayoutLineRow} (member : row ∈ disbursement.payoutLines.rows)
    (paid : row.status = .paid) : row ∈ (disbursement.confirmed named).payoutLines.rows := by
  by_cases payable : disbursement.Payable named
  · refine (mem_confirmPayment_iff payable.saves row).mpr (Or.inr ⟨member, fun isFor => ?_⟩)
    have inTransit := (payable_iff.mp payable).2 row member isFor
    rw [paid] at inTransit
    cases inTransit
  · rwa [confirmed, confirmPayment_of_not_saves fun saves => payable saves.2.1]

/-- A confirmation for other lines leaves a line alone. -/
theorem mem_confirmed_iff_of_not_matches (other : ¬named.Matches input) {row : PayoutLineRow}
    (isFor : row.IsFor input) : row ∈ (disbursement.confirmed named).payoutLines.rows ↔
      row ∈ disbursement.payoutLines.rows := by
  have notFor (line : PayoutLineRow) (lineFor : line.IsFor input) : ¬line.IsFor named := by
    intro both
    exact other ⟨Option.some.inj (both.1.symm.trans lineFor.1),
      Option.some.inj (both.2.symm.trans lineFor.2)⟩
  by_cases payable : disbursement.Payable named
  · rw [confirmed, mem_confirmPayment_iff payable.saves, and_iff_left (notFor row isFor),
      or_iff_right]
    rintro ⟨line, -, lineFor, rfl⟩
    exact notFor line isFor lineFor
  · rw [confirmed, confirmPayment_of_not_saves fun saves => payable saves.2.1]

theorem payable_confirmed_of_not_matches (payable : disbursement.Payable input)
    (other : ¬named.Matches input) : (disbursement.confirmed named).Payable input := by
  rw [payable_iff] at payable ⊢
  obtain ⟨⟨line, member, isFor⟩, inTransit⟩ := payable
  refine ⟨⟨line, (mem_confirmed_iff_of_not_matches other isFor).mpr member, isFor⟩, ?_⟩
  intro row rowMember rowFor
  exact inTransit row ((mem_confirmed_iff_of_not_matches other rowFor).mp rowMember) rowFor

theorem mem_run_confirmed_of_paid {row : PayoutLineRow} (inputs : List MarkPayoutLinesAsPaidInput)
    (member : row ∈ disbursement.payoutLines.rows) (paid : row.status = .paid) :
    row ∈ (run confirmed disbursement inputs).payoutLines.rows := by
  induction inputs generalizing disbursement with
  | nil => exact member
  | cons first rest later => exact later (mem_confirmed_of_paid member paid)

/-- The lines of a payment that is named are paid, and those of one that is not are left alone. -/
theorem run_confirmed (payable : disbursement.Payable input) {line : PayoutLineRow}
    (member : line ∈ disbursement.payoutLines.rows) (isFor : line.IsFor input)
    (inputs : List MarkPayoutLinesAsPaidInput) :
    ((∃ named ∈ inputs, named.Matches input) →
      ∃ row ∈ (run confirmed disbursement inputs).payoutLines.rows,
        row.id = line.id ∧ row.status = .paid) ∧
    ((∀ named ∈ inputs, ¬named.Matches input) →
      line ∈ (run confirmed disbursement inputs).payoutLines.rows) := by
  induction inputs generalizing disbursement with
  | nil => exact ⟨fun named => by simp at named, fun _ => member⟩
  | cons first rest later =>
    rw [run_cons]
    by_cases same : first.Matches input
    · refine ⟨fun _ => ?_, fun none => absurd same (none first List.mem_cons_self)⟩
      have lineFor : line.IsFor first := ⟨isFor.1.trans (congrArg some same.1.symm),
        isFor.2.trans (congrArg some same.2.symm)⟩
      have paid := paidWith_mem_confirmed (payable_of_matches payable same) member lineFor
      exact ⟨_, mem_run_confirmed_of_paid rest paid rfl, rfl, rfl⟩
    · obtain ⟨whenNamed, whenNot⟩ := later (payable_confirmed_of_not_matches payable same)
        ((mem_confirmed_iff_of_not_matches same isFor).mpr member)
      refine ⟨?_, fun none => whenNot fun named among => none named (List.mem_cons_of_mem _ among)⟩
      rintro ⟨named, among, matches'⟩
      obtain rfl | among := List.mem_cons.mp among
      · exact absurd matches' same
      · exact whenNamed ⟨named, among, matches'⟩

/-- The lines of a payable payment have been paid exactly if it is named. -/
theorem run_confirmed_iff (payable : disbursement.Payable input)
    (inputs : List MarkPayoutLinesAsPaidInput) :
    (∀ line ∈ disbursement.linesFor input,
        ∃ row ∈ (run confirmed disbursement inputs).payoutLines.rows,
          row.id = line.id ∧ row.status = .paid) ↔
      ∃ named ∈ inputs, named.Matches input := by
  constructor
  · intro applied
    by_contra none
    obtain ⟨line, member, isFor⟩ := (payable_iff.mp payable).1
    obtain ⟨row, rowMember, same, paid⟩ :=
      applied line ((mem_linesFor_iff line).mpr ⟨member, isFor⟩)
    have left := (run_confirmed payable member isFor inputs).2 fun named among matches' =>
      none ⟨named, among, matches'⟩
    have sameRow : row = line := List.inj_on_of_nodup_map
      (run confirmed disbursement inputs).payoutLines.distinct rowMember left same
    rw [sameRow, (payable_iff.mp payable).2 line member isFor] at paid
    cases paid
  · intro named line inLines
    obtain ⟨member, isFor⟩ := (mem_linesFor_iff line).mp inLines
    exact (run_confirmed payable member isFor inputs).1 named

end Disbursement

/-- Every payable payment of every downloaded file is applied exactly if none of them is only named
after a file that is missing. -/
theorem appliesEveryFile_iff (options : PayoutOptions) (files : List ListedFile)
    (site : ReturnSite) :
    AppliesEveryFile options files site ↔ ReadInTime files site.disbursement := by
  refine forall₄_congr fun listed member named complete => ?_
  refine forall₃_congr fun input among payable => ?_
  rw [disbursement_processPaymentStatus]
  refine (Disbursement.run_confirmed_iff payable _).trans ?_
  simp only [paymentsRead, List.mem_flatMap]
  constructor
  · rintro ⟨other, ⟨earlier, before, inside⟩, same⟩
    exact ⟨earlier, before, other, inside, same⟩
  · rintro ⟨earlier, before, other, inside, same⟩
    exact ⟨other, ⟨earlier, before, inside⟩, same⟩

/-- Nothing is received of the first file, and the second, which is received, has a payment. -/
def exampleReturnFiles : List ListedFile :=
  [(⟨"uber_paystatus_1.txt", ""⟩, ⟨.lost, true⟩),
    (⟨"uber_paystatus_2.txt", "240101-a1b2c3d;2000001234;15453;01/2/2024"⟩, ⟨.complete, true⟩)]

/-- The payment is not applied. -/
theorem not_appliesEveryFile_missing :
    ¬AppliesEveryFile ⟨none⟩ exampleReturnFiles
      ⟨Disbursement.exampleDisbursement, exampleReturnFiles.map (·.1), []⟩ := by
  intro applies
  have applied := applies _ (List.mem_cons_of_mem _ List.mem_cons_self) (by decide +kernel) rfl
    ⟨"240101-a1b2c3d", "15453", "2000001234", "01/2/2024"⟩ (by decide +kernel) (by decide +kernel)
    ⟨⟨"l1", by decide⟩, 60, some "240101-a1b2c3d", Disbursement.examplePayoutId, some "15453",
      .inTransit, none, none⟩ (by decide +kernel)
  exact absurd applied (by decide +kernel)

end FieldService
