/-
This file models the content of the bank file, and settles when it is read back as the records it
is made of.

The records are a header, one for each payout, an invoice and a trailer. They are written as lines
that end with a carriage return and a line feed, with a comma between any two columns. The last code
unit of the content is cut off, which takes the line feed of the trailer but not its carriage
return. So whatever is in the columns, a file that is written is not read back. Of a single payment
the columns are told apart again exactly if the payer, the payee's name, its address past the first
comma, its bank account and its e-mail address are free of commas.
-/

import FieldService.Library.Delimited
import FieldService.Library.Doubles
import FieldService.Orders.Packages
import FieldService.Payout.PaymentFiles
import FieldService.Payout.Texts

namespace FieldService

open Delimited

/-! ### Payees -/

structure Address where
  companyName : Option String
  buildingName : Option String
  streetLine1 : String
  streetLine2 : Option String
  city : String
  state : String
  postalCode : String
  country : String
  deriving DecidableEq, Repr

namespace Address

def entries (address : Address) : List (Option String) :=
  [address.companyName, address.buildingName, some address.streetLine1, address.streetLine2,
    some address.city, some address.state, some address.postalCode, some address.country]

/-- `toString`. -/
def toText (address : Address) (delimiter : String) : String :=
  Orders.trim (delimiter.intercalate (address.entries.filterMap (·.filter (· ≠ ""))))

end Address

/-- `text.replace(',', ' ')`, which replaces the first comma. -/
def replaceComma (text : String) : String :=
  String.ofList (text.toList.replace ',' ' ')

/-- A payout with what else a payment says about its owner. -/
structure ScbPayout extends PayoutEntry where
  address : Option Address
  emailAddress : String
  deriving DecidableEq, Repr

/-- `getAmount`. The text of the column is read as the double nearest to it. -/
def ScbPayout.getAmount (payout : ScbPayout) : Money := Doubles.nearestDouble payout.amount

/-! ### Records -/

/-- `new ScbPaymentHeaderDto`. -/
def ScbPaymentHeaderDto.record : FileRecord :=
  [some (utf16 "H"), some (utf16 "P")]

namespace ScbPaymentDetailDto

/-- The fields in the order of their declaration. -/
def fields : List String :=
  ["recordType", "paymentType", "processingMode", "serviceType", "customerReference",
   "customerMemo", "debitAcCountryCode", "debitAcCityCode", "debitAcNo", "paymentDate",
   "payeeNameInBO", "payeeAddress1InBO", "payeeAddress2InBO", "payeeCountryCode", "payeeFaxNumber",
   "payeeBankCode", "payeeBankLocalClearingCode", "payeeBranchCode", "payeeBranchSubCode",
   "beneficiaryAcNo", "paymentDetails1InBO", "paymentDetails2InBO", "vatAmount",
   "wHTPrintingLocation", "wHTFormId", "wHTTaxId", "wHTReferenceNumber", "wHTType1",
   "wHTDescription1", "wHTGrossAmount1", "wHTAmount1", "wHTType2", "wHTDescription2",
   "wHTGrossAmount2", "wHTAmount2", "discountAmount", "invoiceFormat", "paymentCurrency",
   "invoiceOrGrossAmount", "localChargesTo", "overseasChargesTo", "intermediaryBankCode",
   "clearingCodeForTT", "clearingZoneCodeForLBC", "draweeBankCodeForIBC", "deliveryMethod",
   "deliverTo", "counterPickupLocation", "fXType", "payeeNameLine1LocalLanguage",
   "payeeNameLine2LocalLanguage", "payeeAddress1LocalLanguage", "payeeAddress2LocalLanguage",
   "payeeAddress3LocalLanguage", "payeeAddress4LocalLanguage", "paymentDetail1LocalLanguage",
   "paymentDetail2LocalLanguage", "vatType", "discountType", "debitCurrency", "debitBankId",
   "payeeId", "emailId", "payeeOrBeneficiaryType", "beneficiaryBankType", "beneficiaryBankName",
   "beneficiaryBankAddr", "intermediaryBankType", "intermediaryBankName", "intermediaryBankAddr",
   "receiverCorrespondingBankCode", "orderingCustomer", "relatedInformation",
   "specialInstructionCode1", "specialInstructionDetail1", "specialInstructionCode2",
   "specialInstructionDetail2", "specialInstructionCode3", "specialInstructionDetail3",
   "specialInstructionCode4", "specialInstructionDetail4", "specialInstructionCode5",
   "specialInstructionDetail5", "specialInstructionCode6", "specialInstructionDetail6",
   "remittanceInformationCode1", "remittanceInformationDetail1", "remittanceInformationCode2",
   "remittanceInformationDetail2", "remittanceInformationCode3", "remittanceInformationDetail3",
   "remittanceInformationCode4", "remittanceInformationDetail4", "instructionCode1",
   "instructionCodeDesc1", "instructionCode2", "instructionCodeDesc2", "instructionCode3",
   "instructionCodeDesc3", "instructionCode4", "instructionCodeDesc4", "instructionCode5",
   "instructionCodeDesc5", "instructionCode6", "instructionCodeDesc6", "regulatoryReportingCode1",
   "regulatoryReportingDesc1", "regulatoryReportingCode2", "regulatoryReportingDesc2",
   "regulatoryReportingCode3", "regulatoryReportingDesc3", "senderCharges", "receiverCharges",
   "chequeNo", "chequeIssuedDate", "corporateChequeNo", "externalMemo", "mailingAddress1",
   "mailingAddress2", "mailingAddress3", "mailingAddress4", "transactionCode",
   "customInvoiceHeader1", "customInvoiceColumnAlignment1", "customInvoiceColumnLength1",
   "customInvoiceHeader2", "customInvoiceColumnAlignment2", "customInvoiceColumnLength2",
   "customInvoiceHeader3", "customInvoiceColumnAlignment3", "customInvoiceColumnLength3",
   "customInvoiceHeader4", "customInvoiceColumnAlignment4", "customInvoiceColumnLength4",
   "customInvoiceHeader5", "customInvoiceColumnAlignment5", "customInvoiceColumnLength5",
   "customInvoiceHeader6", "customInvoiceColumnAlignment6", "customInvoiceColumnLength6",
   "customInvoiceHeader7", "customInvoiceColumnAlignment7", "customInvoiceColumnLength7",
   "customInvoiceHeader8", "customInvoiceColumnAlignment8", "customInvoiceColumnLength8",
   "customInvoiceHeader9", "customInvoiceColumnAlignment9", "customInvoiceColumnLength9",
   "fxRateIndicator", "destinationCenterCountryCode", "destinationCenterCityCode", "datePriority",
   "amountPriority", "onBehalfOfName", "onBehalfOfAccount", "onBehalfOfAddress1",
   "onBehalfOfAddress2", "onBehalfOfAddress3", "onBehalfOfNameLocalLanguage",
   "onBehalfOfAddress1LocalLanguage", "onBehalfOfAddress2LocalLanguage",
   "onBehalfOfAddress3LocalLanguage", "fxRateType", "deliveryOption",
   "purposeOfPaymentTransactionId", "receiverIdBillerCodeOrBeneficiaryIdRTGS", "receiverIdType",
   "newICOrOldICOrCompRegOrPassportPoliceNoAkaCustomerNo", "validationTypeAkaListedCompanyCode",
   "byOrderOfSelf", "paySubProductType", "beneficiaryAccountType", "oBOId", "cASPaymentIndicator",
   "onBehalfOfType", "onBehalfOfPartyIdentifierCode", "onBehalfOfPartyIdentifierCountryCode",
   "onBehalfOfPartyIdentifierIssuer", "onBehalfOfPartyIdentifierIssuingAuthority",
   "onBehalfOfPartyIdentifierRegistrationAuthority", "partyIdentifierValueOrAccountNumber",
   "onBehalfOfAddress1Code", "onBehalfOfAddress1CountryCode", "onBehalfOfAddress2Code",
   "onBehalfOfAddress2CountryCode", "onBehalfOfAddress3Code", "onBehalfOfAddress3CountryCode",
   "onBehalfOfAddressLineIssuer", "onBehalfOfAddressLineIssuerLL", "filler1",
   "destinationPurposeCode", "filler2", "filler3", "filler4", "filler5", "filler6", "filler7",
   "filler8", "filler9", "filler10", "recipientReferenceNumber1", "recipientReferenceNumber2",
   "filler11", "jointBeneficiaryNameSecondAccountHolderName", "jointBeneficiaryId",
   "jointBeneficiaryIdType"]

/-- What the constructor sets. -/
def assigned (day : PaymentDay) (payerAccountNumber payerCityCode : String) (payout : ScbPayout)
    (payeeAddress : Utf16) : List (String × Option Utf16) :=
  [("customerReference", some (utf16 payout.id.value)),
    ("debitAcNo", some (utf16 payerAccountNumber)),
    ("debitAcCityCode", some (utf16 payerCityCode)),
    ("paymentDate", some (utf16 day.paymentDate)),
    ("payeeNameInBO", payout.owner.name.map utf16),
    ("payeeAddress1InBO", some (slice 0 35 payeeAddress)),
    ("payeeAddress2InBO", some (slice 35 70 payeeAddress)),
    ("payeeBankCode", payout.owner.bank.swiftCode.map utf16),
    ("beneficiaryAcNo", payout.owner.bank.accountNumber.map utf16),
    ("invoiceOrGrossAmount", some (utf16 (toFixed payout.getAmount))),
    ("emailId", some (utf16 payout.emailAddress)),
    ("recordType", some (utf16 "P")),
    ("paymentType", some (utf16 "ACH")),
    ("processingMode", some (utf16 "BA")),
    ("purposeOfPaymentTransactionId", some (utf16 "21220")),
    ("paymentCurrency", some (utf16 "MYR")),
    ("invoiceFormat", some (utf16 "4")),
    ("payeeCountryCode", some (utf16 "MY")),
    ("debitAcCountryCode", some (utf16 "MY"))]

/-- `new ScbPaymentDetailDto`. A field that is not set is undefined. -/
def record (day : PaymentDay) (payerAccountNumber payerCityCode : String) (payout : ScbPayout)
    (payeeAddress : Utf16) : FileRecord :=
  fields.map fun field =>
    ((assigned day payerAccountNumber payerCityCode payout payeeAddress).lookup field).join

end ScbPaymentDetailDto

/-- `new ScbPaymentInvoiceDto`. -/
def ScbPaymentInvoiceDto.record (invoiceReference : Uuid) (day : PaymentDay)
    (invoiceDescription : String) (invoiceAmount : Money) : FileRecord :=
  [some (utf16 "I"), some (utf16 invoiceReference.value), some (utf16 day.paymentDate),
    some (utf16 invoiceDescription), some (utf16 (toFixed invoiceAmount))]

/-- `new ScbPaymentTrailerDto`. -/
def ScbPaymentTrailerDto.record (totalNumberOfRecords : Nat) (totalPaymentAmount : Money) :
    FileRecord :=
  [some (utf16 "T"), some (utf16 totalNumberOfRecords.repr),
    some (utf16 (toFixed totalPaymentAmount))]

namespace ScbPaymentRecordsBuilder

/-- The record of one payout. Without an address there is none to ask for. -/
def detail (day : PaymentDay) (payerAccountNumber payerCityCode : String) (payout : ScbPayout) :
    Option FileRecord :=
  payout.address.map fun address =>
    ScbPaymentDetailDto.record day payerAccountNumber payerCityCode payout
      (utf16 (replaceComma (address.toText " ")))

/-- `getPaymentAmount`, which adds doubles. -/
def getPaymentAmount (payouts : List ScbPayout) : Money :=
  Doubles.sum (payouts.map (·.getAmount))

/-- `getResult`. It throws when an address is missing. -/
def getResult (batchId : Uuid) (day : PaymentDay) (payerAccountNumber payerCityCode : String)
    (payouts : List ScbPayout) : Option (List FileRecord) :=
  if payouts.length < 1 then some []
  else do
    let details ← payouts.mapM (detail day payerAccountNumber payerCityCode)
    return [ScbPaymentHeaderDto.record] ++ details ++
      [ScbPaymentInvoiceDto.record batchId day "batch payment file from uberisation"
          (getPaymentAmount payouts),
        ScbPaymentTrailerDto.record payouts.length (getPaymentAmount payouts)]

end ScbPaymentRecordsBuilder

/-! ### The file -/

def crlf : Utf16 := [carriageReturn, lineFeed]

/-- The lines of some records, each ended by a carriage return and a line feed. -/
def scbLines (records : List FileRecord) : Utf16 :=
  records.foldl (fun content record => content ++ join [comma] (columnsOf record) ++ crlf) []

/-- What `buildAndUploadScbPaymentFile` writes. Without payouts there is no first one to name the
file after. -/
def scbFileContent (batchId : Uuid) (day : PaymentDay) (payerAccountNumber payerCityCode : String)
    (payouts : List ScbPayout) : Option Utf16 :=
  if payouts.isEmpty then none
  else
    (ScbPaymentRecordsBuilder.getResult batchId day payerAccountNumber payerCityCode payouts).map
      fun records => (scbLines records).dropLast

/-- What is written is read back: split into lines and columns it gives the records, in order. -/
def ScbRoundTrips (batchId : Uuid) (day : PaymentDay) (payerAccountNumber payerCityCode : String)
    (payouts : List ScbPayout) : Prop :=
  ∀ content, scbFileContent batchId day payerAccountNumber payerCityCode payouts = some content →
    ∃ records, ScbPaymentRecordsBuilder.getResult batchId day payerAccountNumber payerCityCode
      payouts = some records ∧ read crlf [comma] content = records.map columnsOf

/-! ### The columns of a payment -/

namespace ScbPaymentDetailDto

section

variable (day : PaymentDay) (payerAccountNumber payerCityCode : String) (payout : ScbPayout)
  (payeeAddress : Utf16)

/-- What the columns of a payment are given from outside. -/
def givenTexts : List (Option Utf16) :=
  [some (utf16 payout.id.value), some (utf16 payerAccountNumber), some (utf16 payerCityCode),
    some (utf16 day.paymentDate), payout.owner.name.map utf16,
    some (slice 0 35 payeeAddress), some (slice 35 70 payeeAddress),
    payout.owner.bank.swiftCode.map utf16, payout.owner.bank.accountNumber.map utf16,
    some (utf16 payout.emailAddress)]

/-- The constructor sets fields of the record, each of them once. -/
theorem keys_assigned :
    ((assigned day payerAccountNumber payerCityCode payout payeeAddress).map Prod.fst).Nodup ∧
      (assigned day payerAccountNumber payerCityCode payout payeeAddress).map Prod.fst ⊆
        fields := by
  simp only [assigned, List.map_cons, List.map_nil]
  decide +kernel

/-- A property of what is undefined and of what is set is one of all columns. -/
theorem forall_mem_record_iff {property : Option Utf16 → Prop} (undefined : property none) :
    (∀ column ∈ record day payerAccountNumber payerCityCode payout payeeAddress,
      property column) ↔
      ∀ field ∈ assigned day payerAccountNumber payerCityCode payout payeeAddress,
        property field.2 := by
  obtain ⟨distinct, known⟩ := keys_assigned day payerAccountNumber payerCityCode payout payeeAddress
  rw [record, List.forall_mem_map]
  constructor
  · intro every field member
    obtain ⟨before, after, whole⟩ := List.append_of_mem member
    have found : (assigned day payerAccountNumber payerCityCode payout payeeAddress).lookup
        field.1 = some field.2 := by
      refine List.lookup_eq_some_iff.mpr ⟨before, after, whole, fun other earlier => ?_⟩
      rw [whole, List.map_append, List.map_cons] at distinct
      have apart := (List.nodup_append.mp distinct).2.2 other.1 (List.mem_map_of_mem earlier)
        field.1 List.mem_cons_self
      simpa using apart.symm
    have own := every field.1 (known (List.mem_map_of_mem member))
    rw [found] at own
    exact own
  · intro every field _
    cases found : (assigned day payerAccountNumber payerCityCode payout payeeAddress).lookup
        field with
    | none => exact undefined
    | some value =>
      obtain ⟨before, after, whole, -⟩ := List.lookup_eq_some_iff.mp found
      exact every (field, value) (by rw [whole]; exact List.mem_append_right _ List.mem_cons_self)

/-- The columns of a payment are told apart again exactly if what is given from outside is free of
commas. -/
theorem split_record_iff :
    split [comma] (join [comma]
        (columnsOf (record day payerAccountNumber payerCityCode payout payeeAddress))) =
        columnsOf (record day payerAccountNumber payerCityCode payout payeeAddress) ↔
      ∀ text ∈ givenTexts day payerAccountNumber payerCityCode payout payeeAddress,
        comma ∉ text.getD [] := by
  have amount : comma ∉ utf16 (toFixed payout.getAmount) := by
    rw [comma, unit_mem_utf16_iff (by decide)]
    intro member
    have written := mem_toFixed member
    revert written
    decide
  have fixed (text : String) (clean : ',' ∉ text.toList) : comma ∉ utf16 text := by
    rwa [comma, unit_mem_utf16_iff (by decide)]
  have columns : columnsOf (record day payerAccountNumber payerCityCode payout payeeAddress) ≠ [] :=
    List.cons_ne_nil _ _
  rw [split_join_iff, and_iff_right columns, columnsOf, List.forall_mem_map,
    forall_mem_record_iff _ _ _ _ _ List.not_mem_nil]
  simp only [assigned, givenTexts, List.forall_mem_cons, List.not_mem_nil, false_implies,
    implies_true, and_true, Option.getD_some, amount, not_false_eq_true, true_and,
    fixed "P" (by decide), fixed "ACH" (by decide), fixed "BA" (by decide),
    fixed "21220" (by decide), fixed "MYR" (by decide), fixed "4" (by decide),
    fixed "MY" (by decide)]

end

end ScbPaymentDetailDto

/-! ### The file as a whole -/

section

variable {batchId : Uuid} {day : PaymentDay} {payerAccountNumber payerCityCode : String}
  {payouts : List ScbPayout}

namespace ScbPaymentRecordsBuilder

variable (day payerAccountNumber payerCityCode) in
/-- There are records unless an address is missing. -/
theorem exists_details_iff :
    (∃ details, payouts.mapM (detail day payerAccountNumber payerCityCode) = some details) ↔
      ∀ payout ∈ payouts, payout.address ≠ none := by
  induction payouts with
  | nil => simp
  | cons payout rest inductionHypothesis =>
    rw [List.forall_mem_cons, ← inductionHypothesis, List.mapM_cons, detail]
    cases payout.address with
    | none => simp
    | some address =>
      cases rest.mapM (detail day payerAccountNumber payerCityCode) <;> simp

theorem length_detail {payout : ScbPayout} {record : FileRecord}
    (made : detail day payerAccountNumber payerCityCode payout = some record) :
    record.length = 207 := by
  obtain ⟨address, -, rfl⟩ := Option.map_eq_some_iff.mp made
  rw [ScbPaymentDetailDto.record, List.length_map]
  rfl

/-- What the record of a payout gives is given by the records of payouts, in order. -/
theorem map_details {Value : Type} {reading : FileRecord → Value} {value : ScbPayout → Value}
    (gives : ∀ payout record, detail day payerAccountNumber payerCityCode payout = some record →
      reading record = value payout) {details : List FileRecord}
    (listed : payouts.mapM (detail day payerAccountNumber payerCityCode) = some details) :
    details.map reading = payouts.map value := by
  induction payouts generalizing details with
  | nil =>
    cases listed
    rfl
  | cons payout rest inductionHypothesis =>
    rw [List.mapM_cons] at listed
    obtain ⟨first, made, others⟩ := Option.bind_eq_some_iff.mp listed
    obtain ⟨later, alsoListed, same⟩ := Option.bind_eq_some_iff.mp others
    cases same
    rw [List.map_cons, gives payout first made, inductionHypothesis alsoListed, List.map_cons]

theorem map_length_details {details : List FileRecord}
    (listed : payouts.mapM (detail day payerAccountNumber payerCityCode) = some details) :
    details.map List.length = List.replicate payouts.length 207 := by
  rw [map_details (fun _ _ made => length_detail made) listed, List.map_const']

variable (batchId day payerAccountNumber payerCityCode) in
/-- The records of payouts: a header, the payments, an invoice and a trailer. -/
theorem getResult_eq (paid : payouts ≠ []) :
    getResult batchId day payerAccountNumber payerCityCode payouts =
      (payouts.mapM (detail day payerAccountNumber payerCityCode)).map fun details =>
        [ScbPaymentHeaderDto.record] ++ details ++
          [ScbPaymentInvoiceDto.record batchId day "batch payment file from uberisation"
              (getPaymentAmount payouts),
            ScbPaymentTrailerDto.record payouts.length (getPaymentAmount payouts)] := by
  have several : ¬payouts.length < 1 := by
    rw [Nat.lt_one_iff, List.length_eq_zero_iff]
    exact paid
  rw [getResult, if_neg several]
  cases payouts.mapM (detail day payerAccountNumber payerCityCode) <;> rfl

/-- Every record has its number of columns. -/
theorem map_length_getResult {records : List FileRecord} (paid : payouts ≠ [])
    (made : getResult batchId day payerAccountNumber payerCityCode payouts = some records) :
    records.map List.length = [2] ++ List.replicate payouts.length 207 ++ [5, 3] := by
  rw [getResult_eq _ _ _ _ paid] at made
  obtain ⟨details, listed, rfl⟩ := Option.map_eq_some_iff.mp made
  rw [List.map_append, List.map_append, map_length_details listed]
  rfl

theorem getResult_ne_nil {records : List FileRecord} (paid : payouts ≠ [])
    (made : getResult batchId day payerAccountNumber payerCityCode payouts = some records) :
    records ≠ [] := by
  rintro rfl
  have widths := map_length_getResult paid made
  simp at widths

end ScbPaymentRecordsBuilder

/-- The lines of records are what these are written to, with one more carriage return and line
feed. -/
theorem scbLines_eq {records : List FileRecord} (several : records ≠ []) :
    scbLines records = write crlf [comma] (records.map columnsOf) ++ crlf := by
  rw [← flatMap_join_append crlf [comma] (by simpa using several), List.flatMap_map, scbLines]
  simp only [List.append_assoc]
  exact List.flatMap_eq_foldl.symm

variable (batchId day payerAccountNumber payerCityCode) in
theorem scbFileContent_eq (paid : payouts ≠ []) :
    scbFileContent batchId day payerAccountNumber payerCityCode payouts =
      (ScbPaymentRecordsBuilder.getResult batchId day payerAccountNumber payerCityCode
        payouts).map fun records => (scbLines records).dropLast := by
  rw [scbFileContent, if_neg (by simpa using paid)]

/-- A file that is written is not read back: what is written for the records has a carriage return
less. -/
theorem read_ne_of_written {records : List FileRecord} (paid : payouts ≠ [])
    (made : ScbPaymentRecordsBuilder.getResult batchId day payerAccountNumber payerCityCode
      payouts = some records) :
    read crlf [comma] (scbLines records).dropLast ≠ records.map columnsOf := by
  intro reads
  have whole := eq_write_of_read (List.cons_ne_nil _ _) (List.cons_ne_nil _ _) reads
  rw [scbLines_eq (ScbPaymentRecordsBuilder.getResult_ne_nil paid made)] at whole
  have lengths := congrArg List.length whole
  rw [List.length_dropLast, List.length_append, crlf, List.length_cons, List.length_singleton]
    at lengths
  omega

end

/-- What is written is read back exactly if nothing is written: there are no payouts, or an owner
has no address. -/
theorem scbRoundTrips_iff (batchId : Uuid) (day : PaymentDay)
    (payerAccountNumber payerCityCode : String) (payouts : List ScbPayout) :
    ScbRoundTrips batchId day payerAccountNumber payerCityCode payouts ↔
      payouts = [] ∨ ∃ payout ∈ payouts, payout.address = none := by
  constructor
  · intro roundTrips
    by_contra unspoilt
    rw [not_or] at unspoilt
    obtain ⟨paid, addressed⟩ := unspoilt
    obtain ⟨details, listed⟩ := (ScbPaymentRecordsBuilder.exists_details_iff day payerAccountNumber
      payerCityCode).mpr fun payout member missing => addressed ⟨payout, member, missing⟩
    have made := ScbPaymentRecordsBuilder.getResult_eq batchId day payerAccountNumber payerCityCode
      paid
    rw [listed] at made
    have written := scbFileContent_eq batchId day payerAccountNumber payerCityCode paid
    rw [made] at written
    obtain ⟨records, same, reads⟩ := roundTrips _ written
    cases made.symm.trans same
    exact read_ne_of_written paid made reads
  · intro spoilt content written
    obtain rfl | ⟨payout, member, missing⟩ := spoilt
    · cases written
    · rw [scbFileContent_eq _ _ _ _ (List.ne_nil_of_mem member)] at written
      obtain ⟨records, made, -⟩ := Option.map_eq_some_iff.mp written
      rw [ScbPaymentRecordsBuilder.getResult_eq _ _ _ _ (List.ne_nil_of_mem member)] at made
      obtain ⟨details, listed, -⟩ := Option.map_eq_some_iff.mp made
      exact absurd missing
        ((ScbPaymentRecordsBuilder.exists_details_iff _ _ _).mp ⟨details, listed⟩ payout member)

/-- A payout of 100 to an owner with an address. -/
def exampleScbPayout : ScbPayout where
  toPayoutEntry :=
    ⟨⟨⟨⟨"p5", by decide⟩, 100, PayoutDatabase.examplePayee.id, .daikin⟩, .scheduled, 0⟩,
      PayoutDatabase.examplePayee.bank, PayoutDatabase.examplePayee, none⟩
  address := some ⟨none, none, "1 Jalan Satu", none, "Shah Alam", "Selangor", "40000", "MY"⟩
  emailAddress := "payee@example.com"

/-- The trailer is read back as `T`, `1` and `100.00` with a carriage return. -/
theorem not_scbRoundTrips_one : ¬ScbRoundTrips ⟨"b4", by decide⟩
    ⟨"2024/02/01", "20240201", "01/02/2024"⟩ "794146964118" "KUL" [exampleScbPayout] := by
  intro roundTrips
  obtain ⟨records, made, reads⟩ := roundTrips _ rfl
  have same := made
  cases same
  exact read_ne_of_written (List.cons_ne_nil _ _) made reads

end FieldService
