/-
This file asks whether a paid fee has an authentic payment behind it.

`isSignatureValid` compares the signature of a payload with the hash of the merchant key and
the signed fields, but neither endpoint calls it, and neither compares the amount with the
price of the request. A payload without a signature is enough to pay, which is
`unsigned_payload_pays`. `paid_authentically` says that nothing else is missing: where every
payload that would settle a fee passes the check that the endpoints leave out, no request is
ever paid without an authentic payload that was posted for it.

The hash and the merchant keys are parameters, and nothing is assumed of them.
-/

import FieldService.Gateway.Outcome

namespace FieldService

open Execution

/-! ### Signatures and amounts -/

/-- `stripAmountString`: a text without its full stops and commas, and nothing otherwise. -/
def stripAmountString : Field → String
  | .text amount => String.ofList (amount.toList.filter fun char => char ≠ '.' ∧ char ≠ ',')
  | _ => ""

/-- `getSignature`: the hash of the fields that are not nil, one after the other. -/
def getSignature (signatureSha256 : String → String) (input : List Field) : String :=
  signatureSha256 (String.join (input.filterMap Field.toOption))

namespace Payload

def isSignatureValid (signatureSha256 : String → String) (merchantKey : String)
    (payload : Payload) : Bool :=
  let expectedSignature := getSignature signatureSha256
    [.text merchantKey, payload.MerchantCode, payload.PaymentId, payload.RefNo,
      .text (stripAmountString payload.Amount), payload.Currency, payload.Status]
  payload.Signature = .text expectedSignature

/-- The value of a number that is written in decimal digits. -/
def readDigits (digits : List Char) : Option Nat :=
  digits.foldlM (fun value digit =>
    if digit.isDigit then some (10 * value + (digit.toNat - '0'.toNat)) else none) 0

/-- The value of the amount, which is a decimal whose thousands can be set apart by commas. -/
def amountValue (payload : Payload) : Option Money := do
  let amount ← payload.Amount.toOption
  let digits := amount.toList.filter (· ≠ ',')
  let whole := digits.takeWhile (· ≠ '.')
  let decimals := (digits.dropWhile (· ≠ '.')).drop 1
  let value ← if whole = [] then none else readDigits (whole ++ decimals)
  return value / 10 ^ decimals.length

/-- The payload is about the request, carries a signature under the key of the request's
tenant, and has the price of the request as its amount. -/
def Genuine (signatureSha256 : String → String) (merchantKey : Tenant → String)
    (request : ServiceRequest) (payload : Payload) : Prop :=
  payload.splitRefNo.RefNo = .text request.id ∧
    payload.isSignatureValid signatureSha256 (merchantKey request.principalGroup) = true ∧
    payload.amountValue = some request.customerOrder.consumerTotal

instance (signatureSha256 : String → String) (merchantKey : Tenant → String)
    (request : ServiceRequest) (payload : Payload) :
    Decidable (payload.Genuine signatureSha256 merchantKey request) :=
  inferInstanceAs (Decidable (_ ∧ _ ∧ _))

/-- A payload is stored as a success exactly if its status is `'1'`. -/
theorem splitRefNo_succeeded {payload : Payload} :
    payload.splitRefNo.responseStatus = .succeeded ↔ payload.Status = .text "1" := by
  have status : payload.splitRefNo.Status = payload.Status := by
    unfold splitRefNo
    split <;> rfl
  unfold responseStatus
  rw [status]
  by_cases success : payload.Status = .text "1"
  · rw [if_pos success]
    exact iff_of_true rfl success
  · rw [if_neg success]
    exact iff_of_false (by decide) success

end Payload

/-- A payload that settles a fee is a success, and it names the request or names none. -/
theorem PaymentGatewayResponseRepository.settled_destination
    {repository : PaymentGatewayResponseRepository} {principalGroup : Tenant} {payload : Payload}
    {override : Bool} {id : String}
    (settles : (repository.destination principalGroup payload override).settled payload = some id) :
    payload.responseStatus = .succeeded ∧
      (payload.RefNo = .undefined ∨ payload.RefNo.toOption = some id) := by
  rcases goes : repository.destination principalGroup payload override with _ | purpose | existing
  · rw [goes, Destination.settled_dropped] at settles
    cases settles
  · rw [goes, Destination.settled_fresh] at settles
    exact ⟨settles.1, Or.inr settles.2.2⟩
  · rw [goes, Destination.settled_over] at settles
    refine ⟨settles.1, (destination_over goes).2.imp_right fun named => ?_⟩
    rw [← named, settles.2.2]

/-- The two have the same identifier, the same tenant and the same order. -/
structure ServiceRequest.SameBill (first second : ServiceRequest) : Prop where
  id : first.id = second.id
  principalGroup : first.principalGroup = second.principalGroup
  customerOrder : first.customerOrder = second.customerOrder

theorem ServiceRequest.SameBill.trans {first second third : ServiceRequest}
    (left : first.SameBill second) (right : second.SameBill third) : first.SameBill third :=
  ⟨left.id.trans right.id, left.principalGroup.trans right.principalGroup,
    left.customerOrder.trans right.customerOrder⟩

theorem ServiceRequest.SameBill.genuine_iff {first second : ServiceRequest}
    (same : first.SameBill second) {signatureSha256 : String → String}
    {merchantKey : Tenant → String} (payload : Payload) :
    payload.Genuine signatureSha256 merchantKey first ↔
      payload.Genuine signatureSha256 merchantKey second := by
  rw [Payload.Genuine, Payload.Genuine, same.id, same.principalGroup, same.customerOrder]

namespace Gateway

theorem sameBill_derived {before after : ServiceRequest} (derived : Derived before after) :
    before.SameBill after := by
  rcases derived with _ | _ <;> exact ⟨rfl, rfl, rfl⟩

theorem getServiceRequest_mem {gateway : Gateway} {field : Field} {anyone : String}
    {serviceRequest : ServiceRequest}
    (found : gateway.getServiceRequest field anyone = some serviceRequest) :
    serviceRequest ∈ gateway.requests.rows := by
  unfold getServiceRequest at found
  split at found
  · exact (gateway.requests.find_key found).1
  · cases found
  · exact (gateway.requests.find_key found).1

section

variable (signatureSha256 : String → String) (merchantKey : Tenant → String)

/-! ### The check the endpoints leave out -/

/-- A payload that settles a fee not settled yet is genuine for the request its endpoint has
found. -/
def Authenticated (gateway : Gateway) : GatewayAction → Prop
  | .post payload override anyone =>
    ∀ serviceRequest ∈ gateway.getServiceRequest payload.splitRefNo.RefNo anyone,
      ∀ id ∈ (gateway.repository.destination serviceRequest.principalGroup payload.splitRefNo
        override).settled payload.splitRefNo,
        ¬ gateway.repository.feeSettled id →
          payload.Genuine signatureSha256 merchantKey serviceRequest
  | _ => True

instance (gateway : Gateway) (action : GatewayAction) :
    Decidable (gateway.Authenticated signatureSha256 merchantKey action) :=
  match action with
  | .wait _ => inferInstanceAs (Decidable True)
  | .post _ _ _ => inferInstanceAs (Decidable (∀ _ ∈ gateway.getServiceRequest _ _, ∀ _ ∈ _, _ → _))
  | .load _ _ => inferInstanceAs (Decidable True)
  | .lookUp _ => inferInstanceAs (Decidable True)
  | .finish _ => inferInstanceAs (Decidable True)

/-- Keeps the payloads that were posted. -/
def posting (_gateway : Gateway) (posted : List Payload) : GatewayAction → List Payload
  | .post payload _ _ => posted ++ [payload]
  | _ => posted

/-- Every paid request has a posted payload behind it that is a success and genuine. -/
def PaidAuthentically (watched : Gateway × List Payload) : Prop :=
  ∀ request ∈ watched.1.requests.rows, request.hasCustomerPaid .fee = true →
    ∃ payload ∈ watched.2, payload.Status = .text "1" ∧
      payload.Genuine signatureSha256 merchantKey request

/-! ### What stands behind a paid fee -/

/-- A posted payload is a success and genuine for the request that was opened with the
identifier. -/
def Vouched (requests : Table String ServiceRequest (·.id)) (posted : List Payload)
    (id : String) : Prop :=
  ∃ original ∈ requests.rows, original.id = id ∧
    ∃ payload ∈ posted, payload.Status = .text "1" ∧
      payload.Genuine signatureSha256 merchantKey original

/-- Stored successes, the histories that handlers have looked up, and paid requests all have a
genuine payload behind them, and no request has changed its price. -/
structure Backed (requests : Table String ServiceRequest (·.id))
    (watched : Gateway × List Payload) : Prop where
  orderless : watched.1.Orderless
  rows : ∀ request ∈ watched.1.requests.rows,
    ∃ original ∈ requests.rows, original.SameBill request
  copies : ∀ task ∈ watched.1.tasks, ∀ copy ∈ task.copy,
    ∃ original ∈ requests.rows, original.SameBill copy
  settled : ∀ id, watched.1.repository.feeSettled id →
    Vouched signatureSha256 merchantKey requests watched.2 id
  seen : ∀ task ∈ watched.1.tasks, ∀ copy history, task.phase = .lookedUp copy history →
    task.event.paymentPurposeCode = some .fee → history.EndsInSuccess →
    Vouched signatureSha256 merchantKey requests watched.2 copy.id
  paid : ∀ id, watched.1.feePaid id →
    Vouched signatureSha256 merchantKey requests watched.2 id

variable {signatureSha256 merchantKey} {requests : Table String ServiceRequest (·.id)}

theorem Vouched.posting {posted : List Payload} {id : String}
    (vouched : Vouched signatureSha256 merchantKey requests posted id) (gateway : Gateway)
    (action : GatewayAction) :
    Vouched signatureSha256 merchantKey requests (posting gateway posted action) id := by
  obtain ⟨original, opened, about, payload, member, genuine⟩ := vouched
  refine ⟨original, opened, about, payload, ?_, genuine⟩
  rcases action with _ | _ | _ | _ | _
  case post => exact List.mem_append_left _ member
  all_goals exact member

/-- A payload that settles a fee and passes the check vouches for the request. -/
theorem vouched_post {gateway : Gateway} {posted : List Payload} {payload : Payload}
    {override : Bool} {id : String} {serviceRequest original : ServiceRequest}
    (opened : original ∈ requests.rows) (sameBill : original.SameBill serviceRequest)
    (settles : (gateway.repository.destination serviceRequest.principalGroup payload.splitRefNo
      override).settled payload.splitRefNo = some id)
    (genuine : payload.Genuine signatureSha256 merchantKey serviceRequest) :
    Vouched signatureSha256 merchantKey requests (posted ++ [payload]) id := by
  obtain ⟨succeeded, named⟩ := PaymentGatewayResponseRepository.settled_destination settles
  have about : serviceRequest.id = id := by
    rw [genuine.1] at named
    obtain missing | named := named
    · cases missing
    · exact Option.some.inj named
  exact ⟨original, opened, sameBill.id.trans about, payload,
    List.mem_append_right _ (List.mem_singleton_self _), Payload.splitRefNo_succeeded.mp succeeded,
    (sameBill.genuine_iff payload).mpr genuine⟩

/-- A step under the check keeps a genuine payload behind everything that counts as paid. -/
theorem Backed.step {environment : Environment} {watched : Gateway × List Payload}
    (backed : Backed signatureSha256 merchantKey requests watched) {action : GatewayAction}
    (authenticated : watched.1.Authenticated signatureSha256 merchantKey action) :
    Backed signatureSha256 merchantKey requests
      (observed (Gateway.step environment) posting watched action) := by
  obtain ⟨gateway, posted⟩ := watched
  obtain ⟨orderless, rows, copies, settled, seen, paid⟩ := backed
  have sameBills := everywhere_step environment orderless
    (fun request => ∃ original ∈ requests.rows, original.SameBill request)
    (fun derived billed => billed.imp fun original => And.imp_right fun same =>
      same.trans (sameBill_derived derived))
    rows copies action
  refine ⟨orderless.step action, sameBills.1, sameBills.2, fun id after => ?_,
    fun task member copy history looked fee succeeded => ?_, fun id after => ?_⟩
  · obtain before | ⟨payload, override, anyone, serviceRequest, rfl, found, settles⟩ :=
      feeSettled_of_step orderless after
    · exact (settled id before).posting gateway action
    by_cases before : gateway.repository.feeSettled id
    · exact (settled id before).posting gateway (.post payload override anyone)
    have genuine := authenticated serviceRequest found id settles before
    obtain ⟨original, opened, same⟩ := rows serviceRequest (getServiceRequest_mem found)
    exact vouched_post opened same settles genuine
  · obtain old | rfl := history_step orderless member looked fee
    · exact (seen task old copy history looked fee succeeded).posting gateway action
    · have stored := PaymentGatewayResponseRepository.feeSettled_iff_lookup.mpr
        (endsInSuccess_exists succeeded)
      exact (settled copy.id stored).posting gateway action
  · obtain before | ⟨index, event, copy, history, -, here, fee, rfl, succeeded⟩ :=
      feePaid_of_step orderless after
    · exact (paid id before).posting gateway action
    · exact (seen _ (List.mem_of_getElem? here) copy history rfl fee succeeded).posting gateway
        action

theorem Backed.paidAuthentically {watched : Gateway × List Payload}
    (backed : Backed signatureSha256 merchantKey requests watched) :
    PaidAuthentically signatureSha256 merchantKey watched := by
  intro request member paid
  obtain ⟨original, opened, about, payload, posted, succeeded, genuine⟩ :=
    backed.paid request.id ⟨request, watched.1.requests.find_of_mem member, paid⟩
  obtain ⟨same, sameOpened, sameBill⟩ := backed.rows request member
  have unique : original = same := by
    refine Option.some.inj ?_
    rw [← requests.find_of_mem opened, ← requests.find_of_mem sameOpened, about, sameBill.id]
  refine ⟨payload, posted, succeeded, (sameBill.genuine_iff payload).mp ?_⟩
  rw [← unique]
  exact genuine

theorem backed_opened
    (created : ∀ request ∈ requests.rows, ∃ environment input now,
      ServiceRequest.create environment input now = .ok request) (clock : Time) :
    Backed signatureSha256 merchantKey requests (opened requests clock, []) where
  orderless := orderless_opened created clock
  rows request member := ⟨request, member, rfl, rfl, rfl⟩
  copies _ member := absurd member List.not_mem_nil
  settled id settled := absurd settled (unsettled_opened requests clock id)
  seen _ member := absurd member List.not_mem_nil
  paid id paid := absurd paid (unpaid_opened created clock id)

/-- In a run from new service requests where every payload that settles a fee passes the check
the endpoints leave out, every request that is ever paid has been paid authentically, in
whatever order genuine and forged payloads arrive at the two endpoints. -/
theorem paid_authentically (environment : Environment) (signatureSha256 : String → String)
    (merchantKey : Tenant → String) {requests : Table String ServiceRequest (·.id)}
    (created : ∀ request ∈ requests.rows, ∃ environment input now,
      ServiceRequest.create environment input now = .ok request)
    (clock : Time) (actions : List GatewayAction)
    (authenticated : Along (step environment) (Authenticated signatureSha256 merchantKey)
      (opened requests clock) actions) :
    Throughout (observed (step environment) posting)
      (PaidAuthentically signatureSha256 merchantKey) (opened requests clock, []) actions :=
  throughout_of_invariant (observed (step environment) posting)
    (fun watched action => watched.1.Authenticated signatureSha256 merchantKey action)
    (Backed signatureSha256 merchantKey requests) (PaidAuthentically signatureSha256 merchantKey)
    (fun _ _ backed authenticated => backed.step authenticated)
    (fun _ backed => backed.paidAuthentically)
    (opened requests clock, []) actions (backed_opened created clock)
    ((along_observed (step environment) posting _ (opened requests clock, []) actions).mpr
      authenticated)

end

/-! ### A payload without a signature -/

/-- A payload with the signature of the key `'key'`, where a text is its own hash. -/
def exampleSigned : Payload :=
  { examplePayload "1" with Signature := .text "keyM012240101-a1b2c3d15000MYR1" }

/-- A forged payload fails, and a genuine one pays. -/
theorem paid_authentically_signed :
    Throughout (observed (step exampleEnvironment) posting)
      (PaidAuthentically (fun text => text) fun _ => "key") (opened exampleRequests 0, [])
      ([.wait 1000, .post (examplePayload "0") false ""] ++ handling 0 "" ++
        [.wait 1000, .post exampleSigned true ""] ++ handling 1 "") :=
  paid_authentically exampleEnvironment (fun text => text) (fun _ => "key")
    exampleRequests_created 0 _ (by decide +kernel)

/-- Whatever the hash and the keys are, a payload without a signature pays the fee. -/
theorem unsigned_payload_pays :
    ¬ ∃ signatureSha256 merchantKey,
      Throughout (observed (step exampleEnvironment) posting)
        (PaidAuthentically signatureSha256 merchantKey) (opened exampleRequests 0, [])
        ([.wait 1000, .post (examplePayload "1") false ""] ++ handling 0 "") := by
  rintro ⟨signatureSha256, merchantKey, throughout⟩
  have authentic := throughout _ List.prefix_rfl
  obtain ⟨request, member, paid⟩ : ∃ request ∈ (run (step exampleEnvironment)
      (opened exampleRequests 0) ([.wait 1000, .post (examplePayload "1") false ""] ++
        handling 0 "")).requests.rows, request.hasCustomerPaid .fee = true := by
    decide +kernel
  rw [PaidAuthentically, run_observed_fst] at authentic
  obtain ⟨payload, posted, -, -, signed, -⟩ := authentic request member paid
  obtain rfl := List.mem_singleton.mp posted
  exact absurd signed (by simp [Payload.isSignatureValid, examplePayload])

end Gateway

end FieldService
