/-
This file models the content of the two report files, and settles when they are read back as the
records they are made of.

Both files are lines of columns with a semicolon between any two of these. The summary has a record
for each service request, with texts of its first line; the other file has one for each line. No
column is quoted, and only of the description of an item are line ends taken out, so the files are
read back exactly if no text they take over contains a line end or a semicolon.
-/

import FieldService.Library.Delimited
import FieldService.Orders.Packages
import FieldService.Payout.Lines
import FieldService.Payout.Texts

namespace FieldService

open Delimited Grouping

/-! ### Texts -/

/-- What a date formatted as `DD/MM/YYYY` is made of. -/
structure DayText where
  text : String
  formatted : ∀ character ∈ text.toList, character.isDigit = true ∨ character = '/'

def isWhitespaceUnit (unit : UInt16) : Bool :=
  Orders.isWhitespace (Char.ofNat unit.toNat)

/-- `text.trim()`. -/
def trimUnits (text : Utf16) : Utf16 :=
  ((text.dropWhile isWhitespaceUnit).reverse.dropWhile isWhitespaceUnit).reverse

/-- `text.replace(/(?:\r\n|\r|\n)/g, ' ')`. -/
def replaceLineEnds : Utf16 → Utf16
  | [] => []
  | [last] => [if last = carriageReturn ∨ last = lineFeed then unit ' ' else last]
  | first :: second :: rest =>
    if first = carriageReturn ∧ second = lineFeed then unit ' ' :: replaceLineEnds rest
    else
      (if first = carriageReturn ∨ first = lineFeed then unit ' ' else first) ::
        replaceLineEnds (second :: rest)

/-- `text || ''`. -/
def orEmpty (text : Option String) : String := text.getD ""

/-! ### The summary -/

/-- The lines of one service request as one: the first of them, with the sums of all. -/
structure PayoutSummary where
  line : PayoutLine
  amount : Money
  itemSalesAmount : Money
  hasServiceFee : Bool
  hasRescheduleSurcharge : Bool

/-- `new PayoutSummaryFileDetailDto`, its fields in the order of their declaration. -/
def PayoutSummary.record (date : DayText) (summary : PayoutSummary) : FileRecord :=
  [some (utf16 summary.line.serviceRequestId),
    some (utf16 (if summary.line.principalGroup = .daikin then "0700" else "0800")),
    some (utf16 date.text),
    some (utf16 ("Consumer: " ++ summary.line.customerName)),
    some (utf16 (toFixed summary.amount)),
    some (utf16 (toFixed (summary.itemSalesAmount - summary.line.consumerPromotionAmount))),
    some (utf16 (orEmpty summary.line.consumerPromotionCode)),
    some (utf16 (toFixed summary.line.consumerPromotionAmount)),
    if summary.hasRescheduleSurcharge then summary.line.ownerVendorId.map utf16 else some [],
    if summary.hasServiceFee then summary.line.ownerVendorId.map utf16 else some []]

namespace PayoutSummaryFileBuilder

/-- The summary of the lines of one request, the first of which gives everything but the sums. -/
def summarize (first : PayoutLine) (lines : List PayoutLine) : PayoutSummary where
  line := first
  amount := lines.foldl (fun sum line => sum + line.amount) 0
  itemSalesAmount := lines.foldl (fun sum line => sum + line.itemSalesAmount) 0
  hasServiceFee := lines.any (·.itemType = .servicePackage)
  hasRescheduleSurcharge := lines.any (·.itemType = .rescheduleSurcharge)

def groupPayoutLinesByServiceRequest (payoutLines : List PayoutLine) : List PayoutSummary :=
  (collect (·.serviceRequestId) payoutLines).filterMap fun group =>
    group.2.head?.map fun first => summarize first group.2

/-- `getResult(false)`. -/
def getResult (date : DayText) (payoutLines : List PayoutLine) : List FileRecord :=
  (groupPayoutLinesByServiceRequest payoutLines).map (·.record date)

end PayoutSummaryFileBuilder

/-! ### The lines -/

/-- `(amount || 0).toFixed(2)`. -/
def fixedOrZero (amount : Option Money) : String := toFixed (amount.getD 0)

/-- `new PayoutLinesFileDetailDto`, its fields in the order of their declaration. -/
def PayoutLine.record (jobNo : Nat) (line : PayoutLine) : FileRecord :=
  [some (utf16 line.serviceRequestId),
    some (utf16 jobNo.repr),
    some (trimUnits (replaceLineEnds ((utf16 line.itemDescription).take 50))),
    some (trimUnits ((utf16 line.itemRefId).take 50)),
    some (utf16 (fixedOrZero (some line.amount))),
    some (utf16 (fixedOrZero line.serviceProviderQuotationUnitPrice)),
    some (utf16 (fixedOrZero (some line.itemSalesAmount))),
    some (utf16 (fixedOrZero line.consumerQuotationUnitPrice)),
    line.bank.accountNumber.map utf16,
    line.bank.swiftCode.map utf16,
    line.ownerVendorId.map utf16]

namespace PayoutLinesFileBuilder

/-- The records of lines, numbered within their service requests from what has been counted. -/
def setDetails (serviceRequestJobCounter : String → Nat) : List PayoutLine → List FileRecord
  | [] => []
  | line :: rest =>
    let jobNo := serviceRequestJobCounter line.serviceRequestId + 1
    line.record jobNo ::
      setDetails (Function.update serviceRequestJobCounter line.serviceRequestId jobNo) rest

/-- `getResult(false)`. -/
def getResult (payoutLines : List PayoutLine) : List FileRecord :=
  setDetails (fun _ => 0) payoutLines

end PayoutLinesFileBuilder

/-! ### The files -/

/-- The lines of some records, each ended by a line feed, as they are transferred. -/
def reportLines (records : List FileRecord) : Utf16 :=
  records.foldl (fun content record => content ++ join [semicolon] (columnsOf record) ++ [lineFeed])
    []

/-- What is written to the bucket. Without lines there is no first one to name the file after. -/
def reportContent (payoutLines : List PayoutLine) (records : List FileRecord) : Option Utf16 :=
  if payoutLines.isEmpty then none else some (reportLines records).dropLast

/-- The content of a file for the lines is read back as its records, in order. -/
def ReadsBack (payoutLines : List PayoutLine) (records : List FileRecord) : Prop :=
  ∀ content, reportContent payoutLines records = some content →
    read [lineFeed] [semicolon] content = records.map columnsOf

/-- Both files are read back. -/
structure ReportRoundTrips (date : DayText) (payoutLines : List PayoutLine) : Prop where
  summary : ReadsBack payoutLines (PayoutSummaryFileBuilder.getResult date payoutLines)
  lines : ReadsBack payoutLines (PayoutLinesFileBuilder.getResult payoutLines)

/-! ### Texts without separators -/

def Unseparated (text : String) : Prop :=
  '\n' ∉ text.toList ∧ ';' ∉ text.toList

/-- The texts a line gives to its own record. Of the description the first 50 code units count, and
its line ends do not; of the reference what is left of these after trimming. -/
structure PayoutLine.HasCleanTexts (line : PayoutLine) : Prop where
  serviceRequestId : Unseparated line.serviceRequestId
  itemDescription : semicolon ∉ (utf16 line.itemDescription).take 50
  itemRefId : lineFeed ∉ trimUnits ((utf16 line.itemRefId).take 50) ∧
    semicolon ∉ (utf16 line.itemRefId).take 50
  accountNumber : ∀ accountNumber, line.bank.accountNumber = some accountNumber →
    Unseparated accountNumber
  swiftCode : ∀ swiftCode, line.bank.swiftCode = some swiftCode → Unseparated swiftCode
  ownerVendorId : ∀ ownerVendorId, line.ownerVendorId = some ownerVendorId →
    Unseparated ownerVendorId

/-- The texts the first line of a service request gives to the summary. -/
structure PayoutLine.HasCleanSummary (line : PayoutLine) : Prop where
  customerName : Unseparated line.customerName
  consumerPromotionCode : ∀ code, line.consumerPromotionCode = some code → Unseparated code

/-- No earlier line has the same service request. -/
def IsFirstOfRequest (payoutLines : List PayoutLine) (line : PayoutLine) : Prop :=
  (payoutLines.filter fun other => other.serviceRequestId = line.serviceRequestId).head? = some line

/-! ### Columns without separators -/

/-- Neither a line feed nor a semicolon is in a column. -/
def Clean (column : Utf16) : Prop :=
  lineFeed ∉ column ∧ semicolon ∉ column

theorem clean_nil : Clean [] := ⟨List.not_mem_nil, List.not_mem_nil⟩

theorem clean_utf16_iff (text : String) : Clean (utf16 text) ↔ Unseparated text := by
  rw [Clean, lineFeed, semicolon, unit_mem_utf16_iff (by decide), unit_mem_utf16_iff (by decide),
    Unseparated]

/-- What is written with digits and a few other characters is clean. -/
theorem clean_of_characters {text : String} {others : List Char}
    (written : ∀ character ∈ text.toList, character.isDigit = true ∨ character ∈ others)
    (harmless : '\n' ∉ others ∧ ';' ∉ others) : Clean (utf16 text) := by
  rw [clean_utf16_iff]
  constructor
  · intro member
    obtain digit | other := written '\n' member
    · cases digit
    · exact harmless.1 other
  · intro member
    obtain digit | other := written ';' member
    · cases digit
    · exact harmless.2 other

theorem clean_toFixed (amount : Money) : Clean (utf16 (toFixed amount)) := by
  refine @clean_of_characters _ ['.', '-'] (fun character member => ?_) (by decide)
  simpa using mem_toFixed member

theorem clean_repr (number : Nat) : Clean (utf16 number.repr) :=
  @clean_of_characters _ [] (fun _ member => Or.inl (isDigit_of_mem_repr member)) (by decide)

theorem clean_date (date : DayText) : Clean (utf16 date.text) := by
  refine @clean_of_characters _ ['/'] (fun character member => ?_) (by decide)
  simpa using date.formatted character member

theorem clean_title_iff (name : String) :
    Clean (utf16 ("Consumer: " ++ name)) ↔ Unseparated name := by
  have lead : '\n' ∉ "Consumer: ".toList ∧ ';' ∉ "Consumer: ".toList := by decide
  rw [clean_utf16_iff, Unseparated, Unseparated, String.toList_append, List.mem_append,
    List.mem_append, not_or, not_or, and_iff_right lead.1, and_iff_right lead.2]

theorem clean_orEmpty_iff (text : Option String) :
    Clean (utf16 (orEmpty text)) ↔ ∀ given, text = some given → Unseparated given := by
  cases text with
  | none => exact iff_of_true clean_nil fun given missing => by cases missing
  | some given => simp [orEmpty, clean_utf16_iff]

theorem clean_getD_map_iff (text : Option String) :
    Clean ((text.map utf16).getD []) ↔ ∀ given, text = some given → Unseparated given := by
  cases text with
  | none => simpa using clean_nil
  | some given => simp [clean_utf16_iff]

/-! ### Trimming and line ends -/

theorem mem_dropWhile_iff {unit : UInt16} (kept : isWhitespaceUnit unit = false) (text : Utf16) :
    unit ∈ text.dropWhile isWhitespaceUnit ↔ unit ∈ text := by
  induction text with
  | nil => rfl
  | cons first rest inductionHypothesis =>
    rw [List.dropWhile_cons]
    split
    · rename_i white
      rw [inductionHypothesis, List.mem_cons]
      refine ⟨Or.inr, fun member => member.resolve_left ?_⟩
      rintro rfl
      rw [kept] at white
      cases white
    · rfl

/-- Trimming leaves alone what is no whitespace. -/
theorem mem_trimUnits_iff {unit : UInt16} (kept : isWhitespaceUnit unit = false) (text : Utf16) :
    unit ∈ trimUnits text ↔ unit ∈ text := by
  rw [trimUnits, List.mem_reverse, mem_dropWhile_iff kept, List.mem_reverse,
    mem_dropWhile_iff kept]

theorem mem_of_mem_trimUnits {unit : UInt16} {text : Utf16} (member : unit ∈ trimUnits text) :
    unit ∈ text := by
  rw [trimUnits, List.mem_reverse] at member
  have inside := (List.dropWhile_sublist _).mem member
  rw [List.mem_reverse] at inside
  exact (List.dropWhile_sublist _).mem inside

theorem lineFeed_not_mem_replaceLineEnds (text : Utf16) : lineFeed ∉ replaceLineEnds text := by
  have blank : lineFeed ≠ unit ' ' := by decide
  induction text using replaceLineEnds.induct with
  | case1 => exact List.not_mem_nil
  | case2 last =>
    rw [replaceLineEnds]
    split <;> simp_all [eq_comm]
  | case3 first second rest both inductionHypothesis =>
    rw [replaceLineEnds, if_pos both]
    simp [blank, inductionHypothesis]
  | case4 first second rest apart inductionHypothesis =>
    rw [replaceLineEnds, if_neg apart, List.mem_cons, not_or]
    refine ⟨?_, inductionHypothesis⟩
    split <;> simp_all [eq_comm]

theorem semicolon_mem_replaceLineEnds_iff (text : Utf16) :
    semicolon ∈ replaceLineEnds text ↔ semicolon ∈ text := by
  have blank : semicolon ≠ unit ' ' := by decide
  have back : semicolon ≠ carriageReturn := by decide
  have feed : semicolon ≠ lineFeed := by decide
  have replaced (symbol : UInt16) : semicolon =
      (if symbol = carriageReturn ∨ symbol = lineFeed then unit ' ' else symbol) ↔
        semicolon = symbol := by
    split
    · rename_i lineEnd
      refine iff_of_false blank ?_
      rintro rfl
      exact lineEnd.elim back feed
    · rfl
  induction text using replaceLineEnds.induct with
  | case1 => rfl
  | case2 last => rw [replaceLineEnds, List.mem_singleton, List.mem_singleton, replaced]
  | case3 first second rest both inductionHypothesis =>
    obtain ⟨rfl, rfl⟩ := both
    have later : semicolon ∈ replaceLineEnds rest ↔ semicolon ∈ rest := inductionHypothesis
    rw [replaceLineEnds, if_pos ⟨rfl, rfl⟩, List.mem_cons, List.mem_cons, List.mem_cons, later]
    simp only [blank, back, feed, false_or]
  | case4 first second rest apart inductionHypothesis =>
    have later : semicolon ∈ replaceLineEnds (second :: rest) ↔ semicolon ∈ second :: rest :=
      inductionHypothesis
    rw [replaceLineEnds, if_neg apart, List.mem_cons, replaced, later, ← List.mem_cons]

/-! ### Clean records -/

/-- A record of a line is clean exactly if the texts of the line are. -/
theorem PayoutLine.clean_record_iff (line : PayoutLine) (jobNo : Nat) :
    (∀ column ∈ columnsOf (line.record jobNo), Clean column) ↔ line.HasCleanTexts := by
  have description : Clean (trimUnits (replaceLineEnds ((utf16 line.itemDescription).take 50))) ↔
      semicolon ∉ (utf16 line.itemDescription).take 50 := by
    rw [Clean, @mem_trimUnits_iff semicolon (by decide), semicolon_mem_replaceLineEnds_iff]
    exact and_iff_right fun member =>
      lineFeed_not_mem_replaceLineEnds _ (mem_of_mem_trimUnits member)
  have reference : Clean (trimUnits ((utf16 line.itemRefId).take 50)) ↔
      lineFeed ∉ trimUnits ((utf16 line.itemRefId).take 50) ∧
        semicolon ∉ (utf16 line.itemRefId).take 50 := by
    rw [Clean, @mem_trimUnits_iff semicolon (by decide)]
  simp only [columnsOf, PayoutLine.record, List.forall_mem_map, List.forall_mem_cons,
    Option.getD_some, clean_utf16_iff line.serviceRequestId, clean_repr, description, reference,
    fixedOrZero, clean_toFixed, clean_getD_map_iff, List.not_mem_nil, false_implies, implies_true,
    and_true, true_and]
  constructor
  · rintro ⟨id, description, reference, account, swift, vendor⟩
    exact ⟨id, description, reference, account, swift, vendor⟩
  · rintro ⟨id, description, reference, account, swift, vendor⟩
    exact ⟨id, description, reference, account, swift, vendor⟩

/-- A record of the summary is clean exactly if the texts of the first line are, where the vendor
counts if there is a fee or a surcharge. -/
theorem PayoutSummary.clean_record_iff (date : DayText) (summary : PayoutSummary) :
    (∀ column ∈ columnsOf (summary.record date), Clean column) ↔
      Unseparated summary.line.serviceRequestId ∧ summary.line.HasCleanSummary ∧
        (summary.hasRescheduleSurcharge = true ∨ summary.hasServiceFee = true →
          ∀ ownerVendorId, summary.line.ownerVendorId = some ownerVendorId →
            Unseparated ownerVendorId) := by
  have company :
      Clean (utf16 (if summary.line.principalGroup = .daikin then "0700" else "0800")) := by
    split <;> exact (clean_utf16_iff _).mpr ⟨by decide, by decide⟩
  have vendor (counts : Bool) :
      Clean ((if counts then summary.line.ownerVendorId.map utf16 else some []).getD []) ↔
        (counts = true → ∀ ownerVendorId, summary.line.ownerVendorId = some ownerVendorId →
          Unseparated ownerVendorId) := by
    cases counts with
    | false => simpa using clean_nil
    | true => simpa using clean_getD_map_iff summary.line.ownerVendorId
  simp only [columnsOf, PayoutSummary.record, List.forall_mem_map, List.forall_mem_cons,
    Option.getD_some, clean_utf16_iff summary.line.serviceRequestId, company, clean_date,
    clean_title_iff, clean_toFixed, clean_orEmpty_iff, vendor, List.not_mem_nil, false_implies,
    implies_true, and_true, true_and]
  constructor
  · rintro ⟨id, name, code, onSurcharge, onRequest⟩
    exact ⟨id, ⟨name, code⟩, fun counts => counts.elim onSurcharge onRequest⟩
  · rintro ⟨id, ⟨name, code⟩, counted⟩
    exact ⟨id, name, code, fun surcharge => counted (Or.inl surcharge),
      fun fee => counted (Or.inr fee)⟩

/-! ### Reading back -/

/-- A file of records that have columns is read back exactly if all of them are clean. -/
theorem readsBack_iff {payoutLines : List PayoutLine} {records : List FileRecord}
    (some : records = [] ↔ payoutLines = []) (wide : ∀ record ∈ records, record ≠ []) :
    ReadsBack payoutLines records ↔
      ∀ record ∈ records, ∀ column ∈ columnsOf record, Clean column := by
  by_cases empty : payoutLines = []
  · rw [some.mpr empty]
    refine iff_of_true (fun content written => ?_) fun record member => by cases member
    rw [reportContent, empty] at written
    cases written
  · have several : records.map columnsOf ≠ [] := by simpa [some] using empty
    have content : (reportLines records).dropLast =
        write [lineFeed] [semicolon] (records.map columnsOf) := by
      have ended : reportLines records =
          write [lineFeed] [semicolon] (records.map columnsOf) ++ [lineFeed] := by
        rw [← flatMap_join_append [lineFeed] [semicolon] several, List.flatMap_map, reportLines]
        simp only [List.append_assoc]
        exact List.flatMap_eq_foldl.symm
      rw [ended, List.dropLast_concat]
    have back : ReadsBack payoutLines records ↔
        read [lineFeed] [semicolon] (write [lineFeed] [semicolon] (records.map columnsOf)) =
          records.map columnsOf := by
      rw [ReadsBack, reportContent, if_neg (by simpa using empty), content]
      simp
    rw [back, read_write_iff (by decide), and_iff_right several, List.forall_mem_map]
    refine forall₂_congr fun record member => and_iff_right ?_
    simpa [columnsOf] using wide record member

/-! ### The two files -/

namespace PayoutLinesFileBuilder

theorem length_setDetails (serviceRequestJobCounter : String → Nat)
    (payoutLines : List PayoutLine) :
    (setDetails serviceRequestJobCounter payoutLines).length = payoutLines.length := by
  induction payoutLines generalizing serviceRequestJobCounter with
  | nil => rfl
  | cons line rest inductionHypothesis =>
    rw [setDetails, List.length_cons, inductionHypothesis, List.length_cons]

/-- The records are those of the lines, each under some number. -/
theorem forall_mem_setDetails_iff {property : FileRecord → Prop} {holds : PayoutLine → Prop}
    (each : ∀ line jobNo, property (PayoutLine.record jobNo line) ↔ holds line)
    (serviceRequestJobCounter : String → Nat) (payoutLines : List PayoutLine) :
    (∀ record ∈ setDetails serviceRequestJobCounter payoutLines, property record) ↔
      ∀ line ∈ payoutLines, holds line := by
  induction payoutLines generalizing serviceRequestJobCounter with
  | nil => simp [setDetails]
  | cons line rest inductionHypothesis =>
    rw [setDetails, List.forall_mem_cons, List.forall_mem_cons, each, inductionHypothesis]

theorem readsBack_getResult_iff (payoutLines : List PayoutLine) :
    ReadsBack payoutLines (getResult payoutLines) ↔
      ∀ line ∈ payoutLines, line.HasCleanTexts := by
  rw [readsBack_iff, getResult]
  · exact forall_mem_setDetails_iff PayoutLine.clean_record_iff _ payoutLines
  · rw [getResult, ← List.length_eq_zero_iff, length_setDetails, List.length_eq_zero_iff]
  · exact (@forall_mem_setDetails_iff _ (fun _ => True)
      (fun line jobNo => iff_of_true (List.cons_ne_nil _ _) trivial) _ payoutLines).mpr
        fun _ _ => trivial

end PayoutLinesFileBuilder

namespace PayoutSummaryFileBuilder

/-- The summaries are those of the first lines of the service requests. -/
theorem mem_groupPayoutLinesByServiceRequest (payoutLines : List PayoutLine)
    (summary : PayoutSummary) :
    summary ∈ groupPayoutLinesByServiceRequest payoutLines ↔
      ∃ line ∈ payoutLines, IsFirstOfRequest payoutLines line ∧
        summary = summarize line
          (payoutLines.filter fun other => other.serviceRequestId = line.serviceRequestId) := by
  rw [groupPayoutLinesByServiceRequest, List.mem_filterMap]
  constructor
  · rintro ⟨group, grouped, made⟩
    obtain ⟨line, first, rfl⟩ := Option.map_eq_some_iff.mp made
    have holds := ((mem_collect _ payoutLines group).mp grouped).1
    have inside := List.mem_of_mem_head? first
    rw [holds] at inside
    obtain ⟨member, same⟩ := List.mem_filter.mp inside
    rw [← of_decide_eq_true same] at holds
    refine ⟨line, member, ?_, by rw [holds]⟩
    rw [IsFirstOfRequest, ← holds]
    exact first
  · rintro ⟨line, member, first, rfl⟩
    refine ⟨(line.serviceRequestId, payoutLines.filter fun other =>
      other.serviceRequestId = line.serviceRequestId), (mem_collect _ _ _).mpr ⟨rfl, ?_⟩, ?_⟩
    · exact List.ne_nil_of_mem (List.mem_of_mem_head? first)
    · rw [Option.map_eq_some_iff]
      exact ⟨line, first, rfl⟩

/-- There is a summary as soon as there is a line. -/
theorem getResult_eq_nil_iff (date : DayText) (payoutLines : List PayoutLine) :
    getResult date payoutLines = [] ↔ payoutLines = [] := by
  rw [getResult, List.map_eq_nil_iff]
  constructor
  · intro none
    cases payoutLines with
    | nil => rfl
    | cons line rest =>
      have first : IsFirstOfRequest (line :: rest) line := by
        simp [IsFirstOfRequest]
      have summarized := (mem_groupPayoutLinesByServiceRequest (line :: rest) _).mpr
        ⟨line, List.mem_cons_self, first, rfl⟩
      rw [none] at summarized
      cases summarized
  · rintro rfl
    rfl

/-- The lines of a request are for its fee or for its surcharge. -/
theorem summarize_counts {line : PayoutLine} {lines : List PayoutLine} (member : line ∈ lines)
    (first : PayoutLine) :
    (summarize first lines).hasRescheduleSurcharge = true ∨
      (summarize first lines).hasServiceFee = true := by
  cases type : line.itemType with
  | servicePackage => exact Or.inr (List.any_eq_true.mpr ⟨line, member, decide_eq_true type⟩)
  | rescheduleSurcharge => exact Or.inl (List.any_eq_true.mpr ⟨line, member, decide_eq_true type⟩)

theorem readsBack_getResult_iff (date : DayText) (payoutLines : List PayoutLine) :
    ReadsBack payoutLines (getResult date payoutLines) ↔
      ∀ line ∈ payoutLines, IsFirstOfRequest payoutLines line →
        Unseparated line.serviceRequestId ∧ line.HasCleanSummary ∧
          ∀ ownerVendorId, line.ownerVendorId = some ownerVendorId →
            Unseparated ownerVendorId := by
  have wide : ∀ record ∈ getResult date payoutLines, record ≠ [] := by
    intro record member
    obtain ⟨summary, -, rfl⟩ := List.mem_map.mp member
    exact List.cons_ne_nil _ _
  rw [readsBack_iff (getResult_eq_nil_iff date payoutLines) wide, getResult, List.forall_mem_map]
  simp only [PayoutSummary.clean_record_iff]
  constructor
  · intro clean line member first
    obtain ⟨id, texts, vendor⟩ := clean _
      ((mem_groupPayoutLinesByServiceRequest payoutLines _).mpr ⟨line, member, first, rfl⟩)
    exact ⟨id, texts, vendor (summarize_counts (List.mem_of_mem_head? first) line)⟩
  · intro clean summary grouped
    obtain ⟨line, member, first, rfl⟩ :=
      (mem_groupPayoutLinesByServiceRequest payoutLines summary).mp grouped
    obtain ⟨id, texts, vendor⟩ := clean line member first
    exact ⟨id, texts, fun _ => vendor⟩

end PayoutSummaryFileBuilder

/-- The two report files are read back as their records exactly if no line gives a text to its
record, and no first line of a service request one to the summary, that contains a line end or a
semicolon. -/
theorem reportRoundTrips_iff (date : DayText) (payoutLines : List PayoutLine) :
    ReportRoundTrips date payoutLines ↔ ∀ line ∈ payoutLines, line.HasCleanTexts ∧
      (IsFirstOfRequest payoutLines line → line.HasCleanSummary) := by
  have split : ReportRoundTrips date payoutLines ↔
      ReadsBack payoutLines (PayoutSummaryFileBuilder.getResult date payoutLines) ∧
        ReadsBack payoutLines (PayoutLinesFileBuilder.getResult payoutLines) :=
    ⟨fun both => ⟨both.summary, both.lines⟩, fun both => ⟨both.1, both.2⟩⟩
  rw [split, PayoutSummaryFileBuilder.readsBack_getResult_iff,
    PayoutLinesFileBuilder.readsBack_getResult_iff]
  constructor
  · rintro ⟨summary, lines⟩ line member
    exact ⟨lines line member, fun first => (summary line member first).2.1⟩
  · intro clean
    exact ⟨fun line member first => ⟨(clean line member).1.serviceRequestId,
      (clean line member).2 first, (clean line member).1.ownerVendorId⟩,
      fun line member => (clean line member).1⟩

/-- A line for a package with a semicolon in its description. -/
def exampleReportLine : PayoutLine where
  amount := 100
  walletTransactionId := 1
  serviceRequestId := "240101-a1b2c3d"
  payoutId := some ⟨"p6", by decide⟩
  owner :=
    { id := ⟨"9a01", by decide⟩, name := some "Earner", phone := none, profilePicture := none
      type := .independent, generalStatus := .active
      bank := ⟨some "Bank", some "Earner", some "1234567890", none, none, none, some "MBBEMYKL"⟩
      vendorId := some "V-1" }
  ownerVendorId := some "V-1"
  principalGroup := .daikin
  customerName := "Jane Tan"
  bank := ⟨some "Bank", some "Earner", some "1234567890", none, none, none, some "MBBEMYKL"⟩
  itemRefId := "SPack-1"
  itemDescription := "Cleaning; filter wash"
  itemSalesAmount := 150
  itemType := .servicePackage
  consumerPromotionCode := none
  consumerPromotionAmount := 0
  consumerQuotationUnitPrice := some 150
  serviceProviderQuotationUnitPrice := some 100

/-- The record of the line is read back with twelve columns. -/
theorem not_reportRoundTrips_description :
    ¬ReportRoundTrips ⟨"01/02/2024", by simp⟩ [exampleReportLine] := by
  intro roundTrips
  have reads := roundTrips.lines _ rfl
  revert reads
  decide +kernel

end FieldService
