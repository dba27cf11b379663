/-
This file proves what the summary says of the lines it is made of.

The lines are put in groups by their service request, and a group becomes one summary: nothing is
dropped and nothing counted twice, in whatever order the lines come. The vendor of both columns of
a summary is that of the first line of the group, so the columns are right exactly if the lines of
a request agree in it.
-/

import FieldService.Payout.Reports

namespace FieldService

open Grouping

namespace PayoutSummaryFileBuilder

/-! ### The summaries of groups -/

/-- A summary for each group, about the request of the group. -/
theorem map_groupPayoutLinesByServiceRequest {Value : Type} (payoutLines : List PayoutLine)
    {value : PayoutSummary → Value} {ofGroup : String × List PayoutLine → Value}
    (same : ∀ group ∈ collect (·.serviceRequestId) payoutLines, ∀ first ∈ group.2,
      first.serviceRequestId = group.1 → value (summarize first group.2) = ofGroup group) :
    (groupPayoutLinesByServiceRequest payoutLines).map value =
      (collect (·.serviceRequestId) payoutLines).map ofGroup := by
  have summarized : ∀ group ∈ collect (·.serviceRequestId) payoutLines,
      (group.2.head?.map fun first => summarize first group.2).map value =
        some (ofGroup group) := by
    intro group grouped
    obtain ⟨holds, inhabited⟩ := (mem_collect _ payoutLines group).mp grouped
    obtain ⟨first, rest, started⟩ := List.exists_cons_of_ne_nil inhabited
    have inside : first ∈ group.2 := started ▸ List.mem_cons_self
    have own : first.serviceRequestId = group.1 := by
      rw [holds] at inside
      exact of_decide_eq_true (List.mem_filter.mp inside).2
    have head : group.2.head? = some first := by rw [started, List.head?_cons]
    rw [head, Option.map_some, Option.map_some, same group grouped first inside own]
  rw [groupPayoutLinesByServiceRequest, List.map_filterMap, List.filterMap_congr summarized,
    List.filterMap_eq_map']

/-- The lines of a request begin with one of it. -/
theorem exists_isFirstOfRequest {payoutLines : List PayoutLine} {line : PayoutLine}
    (member : line ∈ payoutLines) :
    ∃ first ∈ payoutLines, IsFirstOfRequest payoutLines first ∧
      first.serviceRequestId = line.serviceRequestId := by
  have inside : line ∈ payoutLines.filter fun other =>
      other.serviceRequestId = line.serviceRequestId :=
    List.mem_filter.mpr ⟨member, decide_eq_true rfl⟩
  obtain ⟨first, rest, group⟩ := List.exists_cons_of_ne_nil (List.ne_nil_of_mem inside)
  have isFirst : first ∈ payoutLines.filter fun other =>
      other.serviceRequestId = line.serviceRequestId := group ▸ List.mem_cons_self
  obtain ⟨stored, same⟩ := List.mem_filter.mp isFirst
  refine ⟨first, stored, ?_, of_decide_eq_true same⟩
  rw [IsFirstOfRequest, of_decide_eq_true same, group, List.head?_cons]

end PayoutSummaryFileBuilder

/-! ### Sums -/

/-- A summary says what lines come to. -/
structure PayoutSummary.IsSumOf (summary : PayoutSummary) (lines : List PayoutLine) : Prop where
  amount : summary.amount = (lines.map (·.amount)).sum
  itemSalesAmount : summary.itemSalesAmount = (lines.map (·.itemSalesAmount)).sum
  hasServiceFee : summary.hasServiceFee = true ↔ ∃ line ∈ lines, line.itemType = .servicePackage
  hasRescheduleSurcharge : summary.hasRescheduleSurcharge = true ↔
    ∃ line ∈ lines, line.itemType = .rescheduleSurcharge

/-- There is one summary for each service request of the lines, it says what the lines of the
request come to, and together the summaries come to what the lines do. -/
structure ConservesMoney (payoutLines : List PayoutLine) (summaries : List PayoutSummary) :
    Prop where
  once : (summaries.map (·.line.serviceRequestId)).Nodup
  requests : ∀ id, (∃ summary ∈ summaries, summary.line.serviceRequestId = id) ↔
    ∃ line ∈ payoutLines, line.serviceRequestId = id
  sums : ∀ summary ∈ summaries, summary.IsSumOf
    (payoutLines.filter fun line => line.serviceRequestId = summary.line.serviceRequestId)
  amount : (summaries.map (·.amount)).sum = (payoutLines.map (·.amount)).sum
  itemSalesAmount :
    (summaries.map (·.itemSalesAmount)).sum = (payoutLines.map (·.itemSalesAmount)).sum

namespace PayoutSummaryFileBuilder

theorem summarize_isSumOf (first : PayoutLine) (lines : List PayoutLine) :
    (summarize first lines).IsSumOf lines where
  amount := foldl_add_eq_sum _ lines
  itemSalesAmount := foldl_add_eq_sum _ lines
  hasServiceFee := by simp [summarize]
  hasRescheduleSurcharge := by simp [summarize]

/-- The sums of the summaries add up to the sum of the lines. -/
theorem sum_groupPayoutLinesByServiceRequest (payoutLines : List PayoutLine)
    {value : PayoutSummary → Money} {amount : PayoutLine → Money}
    (sums : ∀ first lines, value (summarize first lines) = (lines.map amount).sum) :
    ((groupPayoutLinesByServiceRequest payoutLines).map value).sum =
      (payoutLines.map amount).sum := by
  rw [map_groupPayoutLinesByServiceRequest payoutLines fun group _ first _ _ => sums first group.2]
  exact sum_collect _ amount payoutLines

/-- The summary builder conserves money. -/
theorem conservesMoney (payoutLines : List PayoutLine) :
    ConservesMoney payoutLines (groupPayoutLinesByServiceRequest payoutLines) where
  once := by
    rw [map_groupPayoutLinesByServiceRequest payoutLines fun _ _ _ _ own => own]
    exact collect_keys_nodup _ payoutLines
  requests := by
    intro id
    constructor
    · rintro ⟨summary, grouped, rfl⟩
      obtain ⟨line, member, -, rfl⟩ :=
        (mem_groupPayoutLinesByServiceRequest payoutLines summary).mp grouped
      exact ⟨line, member, rfl⟩
    · rintro ⟨line, member, rfl⟩
      obtain ⟨first, stored, isFirst, same⟩ := exists_isFirstOfRequest member
      exact ⟨_, (mem_groupPayoutLinesByServiceRequest payoutLines _).mpr
        ⟨first, stored, isFirst, rfl⟩, same⟩
  sums := by
    intro summary grouped
    obtain ⟨line, -, -, rfl⟩ :=
      (mem_groupPayoutLinesByServiceRequest payoutLines summary).mp grouped
    exact summarize_isSumOf line _
  amount := sum_groupPayoutLinesByServiceRequest payoutLines fun first lines =>
    (summarize_isSumOf first lines).amount
  itemSalesAmount := sum_groupPayoutLinesByServiceRequest payoutLines fun first lines =>
    (summarize_isSumOf first lines).itemSalesAmount

end PayoutSummaryFileBuilder

/-! ### Vendors -/

/-- The column Surcharge_Vendor_ID. -/
def FileRecord.surchargeVendorId (record : FileRecord) : Utf16 := (columnsOf record).getD 8 []

/-- The column Service_Vendor_ID. -/
def FileRecord.serviceVendorId (record : FileRecord) : Utf16 := (columnsOf record).getD 9 []

/-- A column holds the vendor of lines, and nothing if there are none of them. -/
structure IsVendorOf (column : Utf16) (lines : List PayoutLine) : Prop where
  vendor : ∀ line ∈ lines, column = utf16 (orEmpty line.ownerVendorId)
  empty : lines = [] → column = []

/-- The column for the service holds the vendor of the lines for packages, that for the surcharge
the vendor of the lines for surcharges. -/
structure PayoutSummary.HasVendors (date : DayText) (lines : List PayoutLine)
    (summary : PayoutSummary) : Prop where
  service : IsVendorOf (FileRecord.serviceVendorId (summary.record date))
    (lines.filter (·.itemType = .servicePackage))
  surcharge : IsVendorOf (FileRecord.surchargeVendorId (summary.record date))
    (lines.filter (·.itemType = .rescheduleSurcharge))

/-- The vendors are right in the record of every service request. -/
def VendorColumns (date : DayText) (payoutLines : List PayoutLine) : Prop :=
  ∀ summary ∈ PayoutSummaryFileBuilder.groupPayoutLinesByServiceRequest payoutLines,
    summary.HasVendors date
      (payoutLines.filter fun line => line.serviceRequestId = summary.line.serviceRequestId)

/-- The lines are for the same vendor. -/
def PayoutLine.SameVendor (line other : PayoutLine) : Prop :=
  orEmpty line.ownerVendorId = orEmpty other.ownerVendorId

/-- A column that holds the vendor of a line if there are lines of a type. -/
theorem isVendorOf_iff (first : PayoutLine) (lines : List PayoutLine)
    (type : PayoutLineTypeEnum) :
    IsVendorOf ((if lines.any (·.itemType = type) then first.ownerVendorId.map utf16
        else some []).getD []) (lines.filter (·.itemType = type)) ↔
      ∀ line ∈ lines, line.itemType = type → first.SameVendor line := by
  have written : (first.ownerVendorId.map utf16).getD [] = utf16 (orEmpty first.ownerVendorId) := by
    cases first.ownerVendorId <;> rfl
  by_cases exist : lines.any (·.itemType = type) = true
  · rw [if_pos exist, written]
    obtain ⟨line, member, ofType⟩ := List.any_eq_true.mp exist
    have several : lines.filter (·.itemType = type) ≠ [] :=
      List.ne_nil_of_mem (List.mem_filter.mpr ⟨member, ofType⟩)
    constructor
    · intro isVendor other stored same
      exact utf16_injective
        (isVendor.vendor other (List.mem_filter.mpr ⟨stored, decide_eq_true same⟩))
    · intro agree
      refine ⟨fun other stored => ?_, fun none => absurd none several⟩
      obtain ⟨inside, same⟩ := List.mem_filter.mp stored
      rw [agree other inside (of_decide_eq_true same)]
  · rw [if_neg exist]
    have none : ∀ line ∈ lines, line.itemType ≠ type := by simpa using exist
    refine iff_of_true ⟨fun line stored => ?_, fun _ => rfl⟩
      fun line member ofType => absurd ofType (none line member)
    obtain ⟨inside, ofType⟩ := List.mem_filter.mp stored
    exact absurd (of_decide_eq_true ofType) (none line inside)

/-- Both columns hold the vendor of the first line. -/
theorem PayoutSummaryFileBuilder.summarize_hasVendors_iff (date : DayText) (first : PayoutLine)
    (lines : List PayoutLine) :
    (summarize first lines).HasVendors date lines ↔ ∀ line ∈ lines, first.SameVendor line := by
  constructor
  · rintro ⟨service, surcharge⟩ line member
    cases type : line.itemType with
    | servicePackage => exact (isVendorOf_iff first lines _).mp service line member type
    | rescheduleSurcharge => exact (isVendorOf_iff first lines _).mp surcharge line member type
  · intro agree
    exact ⟨(isVendorOf_iff first lines .servicePackage).mpr fun line member _ => agree line member,
      (isVendorOf_iff first lines .rescheduleSurcharge).mpr fun line member _ => agree line member⟩

/-- The vendor columns are right exactly if the lines of a service request, of whatever type, are
for the same vendor. -/
theorem vendorColumns_iff (date : DayText) (payoutLines : List PayoutLine) :
    VendorColumns date payoutLines ↔
      ∀ line ∈ payoutLines, ∀ other ∈ payoutLines,
        line.serviceRequestId = other.serviceRequestId → line.SameVendor other := by
  constructor
  · intro columns line member other stored same
    obtain ⟨first, inside, isFirst, own⟩ :=
      PayoutSummaryFileBuilder.exists_isFirstOfRequest member
    have agree := (PayoutSummaryFileBuilder.summarize_hasVendors_iff date first _).mp <|
      columns _ ((PayoutSummaryFileBuilder.mem_groupPayoutLinesByServiceRequest payoutLines _).mpr
        ⟨first, inside, isFirst, rfl⟩)
    have ofLine := agree line (List.mem_filter.mpr ⟨member, decide_eq_true own.symm⟩)
    have ofOther := agree other
      (List.mem_filter.mpr ⟨stored, decide_eq_true (same.symm.trans own.symm)⟩)
    exact ofLine.symm.trans ofOther
  · intro agree summary grouped
    obtain ⟨first, inside, -, rfl⟩ :=
      (PayoutSummaryFileBuilder.mem_groupPayoutLinesByServiceRequest payoutLines summary).mp grouped
    refine (PayoutSummaryFileBuilder.summarize_hasVendors_iff date first _).mpr
      fun line stored => ?_
    obtain ⟨member, own⟩ := List.mem_filter.mp stored
    exact agree first inside line member (of_decide_eq_true own).symm

/-- The surcharge for a request that someone else has served. -/
def exampleSurchargeLine : PayoutLine :=
  { exampleReportLine with
    itemType := .rescheduleSurcharge
    ownerVendorId := some "V-2" }

/-- The surcharge is booked for the vendor of the service. -/
theorem not_vendorColumns_twoVendors :
    ¬VendorColumns ⟨"01/02/2024", by simp⟩ [exampleReportLine, exampleSurchargeLine] := by
  intro columns
  have first := columns
    (PayoutSummaryFileBuilder.summarize exampleReportLine [exampleReportLine, exampleSurchargeLine])
    List.mem_cons_self
  have booked := first.surcharge.vendor exampleSurchargeLine
  revert booked
  decide +kernel

end FieldService
