/-
This file models the payment gateway responses: the payload iPay88 posts, the row it is
stored as, and the two endpoints that store it.

A row is kept once per transaction identifier. A second payload with the same identifier is
dropped by the response endpoint and written over the stored row by the webhook, which
leaves the row's time of creation and its purpose as they were. A customer's payment
progress is read from the most recently created row of one request and one purpose.
-/

import FieldService.Shared
import FieldService.Library.Latest

namespace FieldService

open Latest

/-! ### Payloads -/

/-- A field of a posted body: missing, `null`, or a text. -/
inductive Field where
  | undefined
  | null
  | text (value : String)
  deriving DecidableEq, Repr

/-- The text of a field, when it has one. -/
def Field.toOption : Field → Option String
  | .text value => some value
  | _ => none

/-- Saving a field over a column: an undefined one leaves the column alone. -/
def Field.writeOver (field : Field) (old : Option String) : Option String :=
  match field with
  | .undefined => old
  | .null => none
  | .text value => some value

/-- The fields of a posted body that the payment service reads. -/
structure Payload where
  MerchantCode : Field
  PaymentId : Field
  RefNo : Field
  Amount : Field
  Currency : Field
  ErrDesc : Field
  Status : Field
  TransId : Field
  Xfield1 : Field
  Signature : Field
  deriving DecidableEq, Repr

/-- `PAYMENT_REF_NO_DELIMITER`. -/
def paymentRefNoDelimiter : Char := '~'

/-- `RefNo.split(PAYMENT_REF_NO_DELIMITER)[0]`: what stands before the first delimiter. An
empty reference is falsy and is left alone, which is what splitting it gives as well. -/
def Payload.splitRefNo (payload : Payload) : Payload :=
  match payload.RefNo with
  | .text value =>
    { payload with
      RefNo := .text (String.ofList (value.toList.takeWhile (· ≠ paymentRefNoDelimiter))) }
  | _ => payload

/-- `Status === '1'`. -/
def Payload.responseStatus (payload : Payload) : PaymentGatewayResponseStatus :=
  if payload.Status = .text "1" then .succeeded else .failed

/-- What the `paymentPurposeCode` column makes of `Xfield1`: a missing one takes the default
of the column, and a text that is no member of the enumeration is refused by the database. -/
def Payload.purposeColumn (payload : Payload) : Option (Option PaymentPurposeCode) :=
  match payload.Xfield1 with
  | .undefined => some (some .fee)
  | .null => some none
  | .text "FEE" => some (some .fee)
  | .text "EC_SURCHARGE" => some (some .ecRescheduleSurcharge)
  | .text _ => none

/-- The purpose code the payload itself carries. -/
def Payload.purposeCode (payload : Payload) : Option PaymentPurposeCode :=
  match payload.Xfield1 with
  | .undefined => none
  | _ => payload.purposeColumn.join

/-! ### Stored responses -/

/-- A row of `payment_gateway_responses`. Rows are numbered in the order they are inserted. -/
structure PaymentGatewayResponse where
  id : Nat
  createdAt : Time
  data : Payload
  errorDescription : Option String
  principalGroup : Tenant
  referenceId : Option String
  responseStatus : PaymentGatewayResponseStatus
  transactionId : Option String
  paymentId : Option String
  paymentPurposeCode : Option PaymentPurposeCode
  deriving DecidableEq, Repr

/-- `PaymentGatewayResponseHistory`, the rows of one request and one purpose. -/
abbrev PaymentGatewayResponseHistory := List PaymentGatewayResponse

/-- The response created last; `null` when there is none. -/
def PaymentGatewayResponseHistory.mostRecentResponse (history : PaymentGatewayResponseHistory) :
    Option PaymentGatewayResponse :=
  latest PaymentGatewayResponse.createdAt history

/-- The row a payload becomes when it is inserted. -/
def PaymentGatewayResponse.ofPayload (id : Nat) (now : Time) (principalGroup : Tenant)
    (paymentPurposeCode : Option PaymentPurposeCode) (payload : Payload) :
    PaymentGatewayResponse where
  id := id
  createdAt := now
  data := payload
  errorDescription := payload.ErrDesc.toOption
  principalGroup := principalGroup
  referenceId := payload.RefNo.toOption
  responseStatus := payload.responseStatus
  transactionId := payload.TransId.toOption
  paymentId := payload.PaymentId.toOption
  paymentPurposeCode := paymentPurposeCode

/-- What a webhook writes over the row that already has its transaction identifier. -/
def PaymentGatewayResponse.overriddenBy (response : PaymentGatewayResponse)
    (payload : Payload) : PaymentGatewayResponse :=
  { response with
    paymentId := payload.PaymentId.writeOver response.paymentId
    responseStatus := payload.responseStatus
    errorDescription := payload.ErrDesc.writeOver response.errorDescription
    data := payload }

/-- The row is the one with the payload's transaction, reference and tenant. A field that is
undefined is no condition. -/
def PaymentGatewayResponse.matchesPayload (response : PaymentGatewayResponse)
    (principalGroup : Tenant) (payload : Payload) : Bool :=
  response.transactionId = payload.TransId.toOption ∧
    (payload.RefNo = .undefined ∨ response.referenceId = payload.RefNo.toOption) ∧
    response.principalGroup = principalGroup

/-! ### The repository -/

/-- The table of responses. No row is ever deleted, so the number of a row is its place. -/
structure PaymentGatewayResponseRepository where
  rows : List PaymentGatewayResponse
  numbered : rows.map (·.id) = List.range rows.length
  deriving DecidableEq, Repr

namespace PaymentGatewayResponseRepository

def empty : PaymentGatewayResponseRepository := ⟨[], rfl⟩

/-- The row with a number. -/
def findOne (repository : PaymentGatewayResponseRepository) (id : Nat) :
    Option PaymentGatewayResponse :=
  repository.rows.find? fun response => response.id = id

theorem findOne_mem (repository : PaymentGatewayResponseRepository) {id : Nat}
    {response : PaymentGatewayResponse} (found : repository.findOne id = some response) :
    response ∈ repository.rows ∧ response.id = id :=
  ⟨List.mem_of_find?_eq_some found, by simpa using List.find?_some found⟩

/-- A row is found by its number. -/
theorem findOne_id (repository : PaymentGatewayResponseRepository)
    {response : PaymentGatewayResponse} (member : response ∈ repository.rows) :
    repository.findOne response.id = some response := by
  have distinct : (repository.rows.map (·.id)).Nodup := by
    rw [repository.numbered]
    exact List.nodup_range
  cases found : repository.findOne response.id with
  | none =>
    have other := List.find?_eq_none.mp found response member
    simp at other
  | some other =>
    obtain ⟨otherMember, sameId⟩ := repository.findOne_mem found
    exact congrArg some (List.inj_on_of_nodup_map distinct otherMember member sameId)

/-- The numbers in use are those below the number of rows. -/
theorem findOne_isSome_iff (repository : PaymentGatewayResponseRepository) (id : Nat) :
    (repository.findOne id).isSome = true ↔ id < repository.rows.length := by
  rw [← List.mem_range, ← repository.numbered, List.mem_map, findOne, List.find?_isSome]
  simp

/-- `lookupCustomerPaymentGatewayResponseHistoryOfServiceRequest`. -/
def lookup (repository : PaymentGatewayResponseRepository) (serviceRequestId : String)
    (paymentPurposeCode : PaymentPurposeCode) : PaymentGatewayResponseHistory :=
  repository.rows.filter fun response =>
    response.referenceId = some serviceRequestId ∧
      response.paymentPurposeCode = some paymentPurposeCode

/-- The most recent response of a looked up history is a row of that request and purpose. -/
theorem lookup_mostRecentResponse (repository : PaymentGatewayResponseRepository)
    (serviceRequestId : String) (paymentPurposeCode : PaymentPurposeCode)
    {response : PaymentGatewayResponse}
    (recent : (repository.lookup serviceRequestId paymentPurposeCode).mostRecentResponse =
      some response) :
    response ∈ repository.rows ∧ response.referenceId = some serviceRequestId ∧
      response.paymentPurposeCode = some paymentPurposeCode := by
  have member := latest_mem _ _ _ recent
  rw [lookup, List.mem_filter] at member
  simpa using member

/-- Another row has the payload's transaction identifier. Two nulls are not equal. -/
def transactionTaken (repository : PaymentGatewayResponseRepository) (payload : Payload) : Bool :=
  payload.TransId.toOption.isSome ∧
    ∃ response ∈ repository.rows, response.transactionId = payload.TransId.toOption

/-- Stores the payload in a new row. -/
def insert (repository : PaymentGatewayResponseRepository) (now : Time) (principalGroup : Tenant)
    (paymentPurposeCode : Option PaymentPurposeCode) (payload : Payload) :
    PaymentGatewayResponseRepository where
  rows := repository.rows ++
    [.ofPayload repository.rows.length now principalGroup paymentPurposeCode payload]
  numbered := by
    rw [List.map_append, repository.numbered, List.length_append, List.length_singleton,
      List.range_succ]
    rfl

/-- Writes the payload over the row with a number. -/
def overrideRow (repository : PaymentGatewayResponseRepository) (id : Nat) (payload : Payload) :
    PaymentGatewayResponseRepository where
  rows := repository.rows.map fun response =>
    if response.id = id then response.overriddenBy payload else response
  numbered := by
    rw [List.map_map, List.length_map, ← repository.numbered]
    refine List.map_congr_left fun response _ => ?_
    show (if response.id = id then response.overriddenBy payload else response).id = response.id
    split <;> rfl

/-- `insertIfNotExist`: the table afterwards and, on success, the purpose code the response
object carries. Inserting fills in the default of an undefined purpose code, writing over a
stored row does not. -/
def insertIfNotExist (repository : PaymentGatewayResponseRepository) (now : Time)
    (principalGroup : Tenant) (payload : Payload) (override : Bool) :
    PaymentGatewayResponseRepository × Option (Option PaymentPurposeCode) :=
  match payload.purposeColumn with
  | none => (repository, none)
  | some purpose =>
    if repository.transactionTaken payload then
      if override then
        match repository.rows.find? (·.matchesPayload principalGroup payload) with
        | none => (repository, none)
        | some existing =>
          (repository.overrideRow existing.id payload, some payload.purposeCode)
      else (repository, none)
    else (repository.insert now principalGroup purpose payload, some purpose)

/-- No row is ever lost. -/
theorem insertIfNotExist_length (repository : PaymentGatewayResponseRepository) (now : Time)
    (principalGroup : Tenant) (payload : Payload) (override : Bool) :
    repository.rows.length ≤
      (repository.insertIfNotExist now principalGroup payload override).1.rows.length := by
  unfold insertIfNotExist
  split
  · exact le_rfl
  split
  · split
    · split
      · exact le_rfl
      · exact (List.length_map _).ge
    · exact le_rfl
  · rw [insert, List.length_append]
    exact Nat.le_add_right _ _

end PaymentGatewayResponseRepository

/-! ### The endpoints -/

/-- `PaymentGatewayRespondedEvent`, as far as its handler reads it. -/
structure PaymentGatewayRespondedEvent where
  referenceId : Option String
  paymentPurposeCode : Option PaymentPurposeCode
  deriving DecidableEq, Repr

/-- `iPay88Response`, for a payload whose request has been found: the table afterwards and the
event that is published. The webhook is the same with `override` set. -/
def iPay88Response (repository : PaymentGatewayResponseRepository) (now : Time)
    (principalGroup : Tenant) (payload : Payload) (override : Bool) :
    PaymentGatewayResponseRepository × Option PaymentGatewayRespondedEvent :=
  let stored := repository.insertIfNotExist now principalGroup payload override
  (stored.1, stored.2.map fun purpose =>
    { referenceId := payload.RefNo.toOption, paymentPurposeCode := purpose })

end FieldService
