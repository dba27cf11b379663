/-
This file settles how the lines file numbers the jobs of a service request.

A counter for every request is kept in passing, so the lines of a request need not be together. The
records come in the order of the lines, and those of one request carry the numbers from 1 on,
however many other requests lie between them. The counter is an object with a property for each
request it has met; requests have numbers that start with a date, so none is called like a property
every object has.
-/

import FieldService.Payout.Reports

namespace FieldService

open Grouping

/-! ### The whole file -/

/-- `new PayoutLinesFileHeaderDto`, its fields in the order of their declaration. -/
def payoutLinesFileHeader : FileRecord :=
  ["Service_id", "Job_no", "Job_desc", "Item_ref", "Item_cost", "Item_single_unit_cost",
    "Item_price", "Item_single_unit_price", "Bank_acc", "Bank_code", "SAP_vendor"].map
      fun title => some (utf16 title)

/-- The records before those of the lines. Without lines there is no header either. -/
def headerOf (includeHeader : Bool) (payoutLines : List PayoutLine) : List FileRecord :=
  if payoutLines.length < 1 ∨ !includeHeader then [] else [payoutLinesFileHeader]

/-- `getResult(includeHeader)`. -/
def PayoutLinesFileBuilder.getResultWith (includeHeader : Bool) (payoutLines : List PayoutLine) :
    List FileRecord :=
  headerOf includeHeader payoutLines ++ getResult payoutLines

/-! ### Numbered jobs -/

/-- A record is one of the service request. -/
def FileRecord.isOfRequest (serviceRequestId : String) (record : FileRecord) : Bool :=
  record[0]? = some (some (utf16 serviceRequestId))

/-- The second column of a record. -/
def FileRecord.jobNo (record : FileRecord) : Option Utf16 := record[1]?.join

/-- The number of lines of a service request. -/
def linesOfRequest (serviceRequestId : String) (payoutLines : List PayoutLine) : Nat :=
  payoutLines.countP fun line => line.serviceRequestId = serviceRequestId

/-- There is one record for each line, in the order of the lines, and the records of a service
request are numbered from 1 to the number of its lines, in the order in which they appear. -/
structure NumbersJobs (payoutLines : List PayoutLine) (records : List FileRecord) : Prop where
  onePerLine : ∃ jobNumbers : List Nat, jobNumbers.length = payoutLines.length ∧
    records = List.zipWith PayoutLine.record jobNumbers payoutLines
  consecutive : ∀ serviceRequestId,
    (records.filter (FileRecord.isOfRequest serviceRequestId)).map FileRecord.jobNo =
      (List.range' 1 (linesOfRequest serviceRequestId payoutLines)).map fun jobNo =>
        some (utf16 jobNo.repr)

@[simp]
theorem PayoutLine.isOfRequest_record (line : PayoutLine) (jobNo : Nat)
    (serviceRequestId : String) :
    FileRecord.isOfRequest serviceRequestId (line.record jobNo) =
      decide (line.serviceRequestId = serviceRequestId) :=
  decide_eq_decide.mpr (by simp [PayoutLine.record, utf16_injective.eq_iff])

@[simp]
theorem PayoutLine.jobNo_record (line : PayoutLine) (jobNo : Nat) :
    FileRecord.jobNo (line.record jobNo) = some (utf16 jobNo.repr) := rfl

namespace PayoutLinesFileBuilder

/-- The records are the lines under their numbers. -/
theorem setDetails_eq (serviceRequestJobCounter : String → Nat) (payoutLines : List PayoutLine) :
    setDetails serviceRequestJobCounter payoutLines =
      (payoutLines.zip (ordinals (·.serviceRequestId) serviceRequestJobCounter payoutLines)).map
        fun numbered => numbered.1.record numbered.2 := by
  induction payoutLines generalizing serviceRequestJobCounter with
  | nil => rfl
  | cons line rest later =>
    rw [setDetails, ordinals, List.zip_cons_cons, List.map_cons, later]

/-- The lines file has a record for each line, in their order, and numbers the jobs of every
service request from 1 on without a gap. -/
theorem numbersJobs (includeHeader : Bool) (payoutLines : List PayoutLine) :
    ∃ records, NumbersJobs payoutLines records ∧
      getResultWith includeHeader payoutLines = headerOf includeHeader payoutLines ++ records := by
  refine ⟨getResult payoutLines, ⟨?_, fun serviceRequestId => ?_⟩, rfl⟩
  · refine ⟨ordinals (·.serviceRequestId) (fun _ => 0) payoutLines, length_ordinals _ _ _, ?_⟩
    rw [getResult, setDetails_eq, List.map_zip_eq_zipWith, List.zipWith_comm]
    rfl
  · have numbers := ordinals_of_key (·.serviceRequestId) (fun _ => 0) payoutLines serviceRequestId
    rw [getResult, setDetails_eq, List.filter_map, List.map_map, linesOfRequest, ← numbers,
      List.map_map]
    simp only [Function.comp_def, PayoutLine.isOfRequest_record, PayoutLine.jobNo_record]

end PayoutLinesFileBuilder

end FieldService
