/-
This file settles when the control totals of a bank file are those of its payments.

The trailer counts the payments, and the trailer and the invoice give their sum. The amounts are
doubles, and are added as such. Each of them is printed in two decimal places, and so is the sum,
which is taken before anything is printed. So the printed sum is that of the printed payments
exactly if what has been taken off them in printing and what has been rounded in the additions is
together less than half a cent, or half a cent where the sum is rounded away from it.
-/

import Mathlib.Algebra.BigOperators.Ring.Finset
import FieldService.Payout.Amounts
import FieldService.Payout.ScbRecords

namespace FieldService

open Doubles Rounding

/-! ### Columns -/

theorem lookup_zip_map {Key Value : Type} [DecidableEq Key] {keys : List Key} {key : Key}
    (member : key ∈ keys) (value : Key → Value) :
    (keys.zip (keys.map value)).lookup key = some (value key) := by
  induction keys with
  | nil => cases member
  | cons first rest inductionHypothesis =>
    rw [List.map_cons, List.zip_cons_cons, List.lookup_cons]
    by_cases isFirst : key = first
    · rw [isFirst, beq_self_eq_true]
    · rw [beq_false_of_ne isFirst]
      exact inductionHypothesis ((List.mem_cons.mp member).resolve_left isFirst)

namespace ScbPaymentDetailDto

/-- The column of a payment that a field is written in. -/
def column (field : String) (record : FileRecord) : Option Utf16 :=
  ((fields.zip record).lookup field).join

variable (day : PaymentDay) (payerAccountNumber payerCityCode : String) (payout : ScbPayout)
  (payeeAddress : Utf16)

theorem column_record {field : String} (member : field ∈ fields) :
    column field (record day payerAccountNumber payerCityCode payout payeeAddress) =
      ((assigned day payerAccountNumber payerCityCode payout payeeAddress).lookup field).join := by
  rw [column, record, lookup_zip_map member, Option.join_some]

end ScbPaymentDetailDto

/-! ### The records of a file -/

/-- The first column tells what a record is. -/
def isOfType (recordType : String) (record : FileRecord) : Bool :=
  record.head? = some (some (utf16 recordType))

/-- The printed amount in a column. -/
def amountAt (column : Nat) (record : FileRecord) : Option Money :=
  record[column]?.join.bind readAmount

/-- The printed amount of a payment. -/
def paidAmount (record : FileRecord) : Option Money :=
  (ScbPaymentDetailDto.column "invoiceOrGrossAmount" record).bind readAmount

def payments (records : List FileRecord) : List FileRecord :=
  records.filter (isOfType "P")

/-- The trailer counts the payments, and what the trailer and the invoice give is the sum of the
amounts of the payments. All amounts are those that are printed. -/
structure ControlTotals (records : List FileRecord) : Prop where
  count : ∀ record ∈ records, isOfType "T" record = true →
    record[1]? = some (some (utf16 (payments records).length.repr))
  totals : ∃ amounts : List Money, (payments records).map paidAmount = amounts.map some ∧
    (∀ record ∈ records, isOfType "T" record = true → amountAt 2 record = some amounts.sum) ∧
    ∀ record ∈ records, isOfType "I" record = true → amountAt 4 record = some amounts.sum

section

variable {batchId : Uuid} {day : PaymentDay} {payerAccountNumber payerCityCode : String}
  {payouts : List ScbPayout}

theorem isOfType_detail {payout : ScbPayout} {record : FileRecord}
    (made : ScbPaymentRecordsBuilder.detail day payerAccountNumber payerCityCode payout =
      some record) : isOfType "P" record = true := by
  obtain ⟨address, -, rfl⟩ := Option.map_eq_some_iff.mp made
  have first : ScbPaymentDetailDto.fields.head? = some "recordType" := rfl
  rw [isOfType, ScbPaymentDetailDto.record, List.head?_map, first, decide_eq_true_eq]
  simp [ScbPaymentDetailDto.assigned, List.lookup_cons]

theorem paidAmount_detail (payout : ScbPayout) (record : FileRecord)
    (made : ScbPaymentRecordsBuilder.detail day payerAccountNumber payerCityCode payout =
      some record) : paidAmount record = some ((printedCents payout.getAmount : Rat) / 100) := by
  obtain ⟨address, -, rfl⟩ := Option.map_eq_some_iff.mp made
  rw [paidAmount, ScbPaymentDetailDto.column_record _ _ _ _ _ (by decide +kernel)]
  have printed : ((ScbPaymentDetailDto.assigned day payerAccountNumber payerCityCode payout
      (utf16 (replaceComma (address.toText " ")))).lookup "invoiceOrGrossAmount").join =
        some (utf16 (toFixed payout.getAmount)) := by
    simp [ScbPaymentDetailDto.assigned, List.lookup_cons]
  rw [printed, Option.bind_some, readAmount_toFixed]

theorem amountAt_trailer (count : Nat) (total : Money) :
    amountAt 2 (ScbPaymentTrailerDto.record count total) =
      some ((printedCents total : Rat) / 100) := by
  have printed : (ScbPaymentTrailerDto.record count total)[2]?.join =
      some (utf16 (toFixed total)) := rfl
  rw [amountAt, printed, Option.bind_some, readAmount_toFixed]

theorem amountAt_invoice (batchId : Uuid) (day : PaymentDay) (description : String)
    (total : Money) : amountAt 4 (ScbPaymentInvoiceDto.record batchId day description total) =
      some ((printedCents total : Rat) / 100) := by
  have printed : (ScbPaymentInvoiceDto.record batchId day description total)[4]?.join =
      some (utf16 (toFixed total)) := rfl
  rw [amountAt, printed, Option.bind_some, readAmount_toFixed]

theorem isOfType_other {record : FileRecord} {first second : String}
    (ofType : isOfType first record = true) (apart : utf16 first ≠ utf16 second) :
    isOfType second record = false := by
  rw [isOfType, decide_eq_true_eq] at ofType
  rw [isOfType, decide_eq_false_iff_not, ofType]
  simpa using apart

/-- The records of a file by their types: one invoice, one trailer, and the payments. -/
theorem getResult_types {records : List FileRecord} (paid : payouts ≠ [])
    (made : ScbPaymentRecordsBuilder.getResult batchId day payerAccountNumber payerCityCode
      payouts = some records) :
    payouts.mapM (ScbPaymentRecordsBuilder.detail day payerAccountNumber payerCityCode) =
        some (payments records) ∧
      records.filter (isOfType "I") =
        [ScbPaymentInvoiceDto.record batchId day "batch payment file from uberisation"
          (ScbPaymentRecordsBuilder.getPaymentAmount payouts)] ∧
      records.filter (isOfType "T") =
        [ScbPaymentTrailerDto.record payouts.length
          (ScbPaymentRecordsBuilder.getPaymentAmount payouts)] := by
  rw [ScbPaymentRecordsBuilder.getResult_eq _ _ _ _ paid] at made
  obtain ⟨details, listed, rfl⟩ := Option.map_eq_some_iff.mp made
  have paying : ∀ record ∈ details, isOfType "P" record = true := by
    intro record member
    have inside : isOfType "P" record ∈ details.map (isOfType "P") := List.mem_map_of_mem member
    rw [ScbPaymentRecordsBuilder.map_details (fun _ _ made => isOfType_detail made) listed]
      at inside
    obtain ⟨payout, -, same⟩ := List.mem_map.mp inside
    exact same.symm
  have others (other : String) (apart : utf16 "P" ≠ utf16 other) :
      details.filter (isOfType other) = [] := by
    refine List.filter_eq_nil_iff.mpr fun record member ofType => ?_
    rw [isOfType_other (paying record member) apart] at ofType
    cases ofType
  refine ⟨?_, ?_, ?_⟩
  · rw [payments, List.filter_append, List.filter_append, List.filter_eq_self.mpr paying, listed]
    exact congrArg some (List.append_nil details).symm
  · rw [List.filter_append, List.filter_append, others "I" (by decide)]
    rfl
  · rw [List.filter_append, List.filter_append, others "T" (by decide)]
    rfl

/-- What the sum of the doubles is more than the printed amounts, in hundredths: what printing has
taken off the amounts, and what has been rounded in the additions. -/
def leftOver (amounts : List Money) : Money :=
  (amounts.map fun amount => remainder (amount * 100)).sum + (roundings 0 amounts).sum * 100

/-- The printed sum is the sum of the printed amounts exactly if nothing is left over. -/
theorem printedCents_sum_iff (amounts : List Money) :
    (printedCents (Doubles.sum amounts) : Rat) / 100 =
        (amounts.map fun amount => (printedCents amount : Rat) / 100).sum ↔
      IsDropped (Doubles.sum amounts * 100) (leftOver amounts) := by
  have printed : (amounts.map fun amount => (printedCents amount : Rat) / 100).sum =
      ((amounts.map printedCents).sum : ℤ) / 100 := by
    simp only [div_eq_mul_inv, List.sum_map_mul_right, Int.cast_list_sum, List.map_map]
    rfl
  have rounded := roundAway_eq_sum_iff (Doubles.sum amounts * 100) (amounts.map (· * 100))
  have added : Doubles.sum amounts * 100 - (amounts.map (· * 100)).sum =
      (roundings 0 amounts).sum * 100 := by
    rw [Doubles.sum_eq, List.sum_map_mul_right, List.map_id']
    ring
  rw [List.map_map, List.map_map, added] at rounded
  rw [printed, div_left_inj' (by norm_num), Int.cast_inj]
  exact rounded

/-- What is counted is always right, so the totals are those of the payments exactly if the printed
sum is. -/
theorem controlTotals_iff_printed {records : List FileRecord} (paid : payouts ≠ [])
    (made : ScbPaymentRecordsBuilder.getResult batchId day payerAccountNumber payerCityCode
      payouts = some records) :
    ControlTotals records ↔
      (printedCents (Doubles.sum (payouts.map (·.getAmount))) : Rat) / 100 =
        ((payouts.map (·.getAmount)).map fun amount => (printedCents amount : Rat) / 100).sum := by
  obtain ⟨listed, invoices, trailers⟩ := getResult_types paid made
  have each (recordType : String) (property : FileRecord → Prop) :
      (∀ record ∈ records, isOfType recordType record = true → property record) ↔
        ∀ record ∈ records.filter (isOfType recordType), property record := by
    simp only [List.mem_filter, and_imp]
  have printed : (payments records).map paidAmount =
      ((payouts.map (·.getAmount)).map fun amount => (printedCents amount : Rat) / 100).map
        some := by
    rw [ScbPaymentRecordsBuilder.map_details paidAmount_detail listed, List.map_map, List.map_map]
    rfl
  have counted : (payments records).length = payouts.length := by
    simpa using congrArg List.length printed
  constructor
  · rintro ⟨-, amounts, same, total, -⟩
    obtain rfl := List.map_injective_iff.mpr (Option.some_injective _) (same.symm.trans printed)
    rw [each, trailers, List.forall_mem_singleton, amountAt_trailer] at total
    exact Option.some.inj total
  · intro total
    refine ⟨?_, _, printed, ?_, ?_⟩
    · rw [each, trailers, List.forall_mem_singleton, counted]
      rfl
    · rw [each, trailers, List.forall_mem_singleton, ← total]
      exact amountAt_trailer _ _
    · rw [each, invoices, List.forall_mem_singleton, ← total]
      exact amountAt_invoice _ _ _ _

end

/-- The control totals of a file are those of its payments if and only if what is left over of the
amounts is dropped when their sum is printed. -/
theorem controlTotals_iff (batchId : Uuid) (day : PaymentDay)
    (payerAccountNumber payerCityCode : String) (payouts : List ScbPayout) (paid : payouts ≠ [])
    (records : List FileRecord)
    (made : ScbPaymentRecordsBuilder.getResult batchId day payerAccountNumber payerCityCode
      payouts = some records) :
    ControlTotals records ↔
      IsDropped (Doubles.sum (payouts.map (·.getAmount)) * 100)
        (leftOver (payouts.map (·.getAmount))) := by
  rw [controlTotals_iff_printed paid made, printedCents_sum_iff]

-- As a double 1.0050 is not yet half a cent above 1.00.
example : toFixed (nearestDouble 1.005) = "1.00" := by decide +kernel

def exampleDay : PaymentDay := ⟨"2024/02/01", "20240201", "01/02/2024"⟩

/-- A payout to the owner with an address. -/
def examplePayoutOf (id : Uuid) (amount : Money) : ScbPayout :=
  { exampleScbPayout with id := id, amount := amount }

/-- Of 33.3333 as much is taken off as is added to 66.6667. -/
def exampleThirds : List ScbPayout :=
  [examplePayoutOf ⟨"q1", by decide⟩ (333333 / 10000),
    examplePayoutOf ⟨"q2", by decide⟩ (666667 / 10000)]

theorem controlTotals_iff_thirds : ∃ records,
    ScbPaymentRecordsBuilder.getResult ⟨"b5", by decide⟩ exampleDay "794146964118" "KUL"
        exampleThirds = some records ∧ ControlTotals records := by
  have dropped : IsDropped (Doubles.sum (exampleThirds.map (·.getAmount)) * 100)
      (leftOver (exampleThirds.map (·.getAmount))) := by decide +kernel
  refine ⟨_, rfl, ?_⟩
  exact (controlTotals_iff _ _ _ _ exampleThirds (List.cons_ne_nil _ _) _ rfl).mpr dropped

/-- Three times 0.0040 is printed as nothing each time, and as a cent in the sum. -/
def exampleFractions : List ScbPayout :=
  [examplePayoutOf ⟨"q3", by decide⟩ (1 / 250), examplePayoutOf ⟨"q4", by decide⟩ (1 / 250),
    examplePayoutOf ⟨"q5", by decide⟩ (1 / 250)]

theorem not_controlTotals_fractions : ∃ records,
    ScbPaymentRecordsBuilder.getResult ⟨"b6", by decide⟩ exampleDay "794146964118" "KUL"
        exampleFractions = some records ∧ ¬ControlTotals records := by
  refine ⟨_, rfl, fun totals => ?_⟩
  have same := (@controlTotals_iff_printed _ _ _ _ exampleFractions _ (List.cons_ne_nil _ _)
    rfl).mp totals
  revert same
  decide +kernel

end FieldService
