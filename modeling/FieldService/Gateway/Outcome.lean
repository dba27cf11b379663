/-
This file asks when the outcome of the payments does not depend on the order in which they
arrive and are handled: once every event has been handled, the fee of a request is paid
exactly if a stored response says so.

It is not so in general. The progress is taken from the response created last, so a failure
that follows a success hides it, and a handler can overwrite with an older reading what
another has saved. `outcome_agrees` gives the steps that must not happen; under them a
success that is stored is never lost: either the request is paid, or a handler is on its way
that will see the success.
-/

import FieldService.Gateway.Steps

namespace FieldService

open Execution

/-! ### The condition -/

/-- A webhook that writes over a stored fee response keeps a success, and one that makes a
success of a failure names the request and the purpose, so that its event is about the fee. -/
def Destination.Covered (destination : Destination) (payload : Payload) : Prop :=
  match destination with
  | .over existing =>
    existing.paymentPurposeCode = some .fee →
      (existing.responseStatus = .succeeded → payload.responseStatus = .succeeded) ∧
      (existing.responseStatus ≠ .succeeded → payload.responseStatus = .succeeded →
        payload.RefNo ≠ .undefined ∧ payload.purposeCode = some .fee)
  | _ => True

instance (destination : Destination) (payload : Payload) :
    Decidable (destination.Covered payload) :=
  match destination with
  | .over _ => inferInstanceAs (Decidable (_ → (_ → _) ∧ (_ → _ → _ ∧ _)))
  | .dropped => inferInstanceAs (Decidable True)
  | .fresh _ => inferInstanceAs (Decidable True)

/-- A handler that is going to save an unpaid fee has looked up no success, and the request
has not been paid since the handler read it. -/
def Task.Covered (gateway : Gateway) (task : Task) : Prop :=
  match task.phase with
  | .lookedUp copy history =>
    task.event.paymentPurposeCode = some .fee → copy.hasCustomerPaid .fee = false →
      ¬ history.EndsInSuccess →
      ¬ gateway.feePaid copy.id ∧ ∀ response ∈ history, response.responseStatus ≠ .succeeded
  | _ => True

instance (gateway : Gateway) (task : Task) : Decidable (task.Covered gateway) :=
  match task with
  | ⟨_, .lookedUp _ _⟩ => inferInstanceAs (Decidable (_ → _ → _ → _ ∧ _))
  | ⟨_, .published⟩ => inferInstanceAs (Decidable True)
  | ⟨_, .loaded _⟩ => inferInstanceAs (Decidable True)
  | ⟨_, .handled⟩ => inferInstanceAs (Decidable True)

namespace Gateway

/-- The steps under which no success is lost. -/
def Covered (gateway : Gateway) : GatewayAction → Prop
  | .post payload override anyone =>
    ∀ serviceRequest ∈ gateway.getServiceRequest payload.splitRefNo.RefNo anyone,
      (gateway.repository.destination serviceRequest.principalGroup payload.splitRefNo
        override).Covered payload.splitRefNo
  | .finish index => ∀ task ∈ gateway.tasks[index]?, task.Covered gateway
  | _ => True

instance (gateway : Gateway) (action : GatewayAction) : Decidable (gateway.Covered action) :=
  match action with
  | .wait _ => inferInstanceAs (Decidable True)
  | .post _ _ _ => inferInstanceAs (Decidable (∀ _ ∈ gateway.getServiceRequest _ _, _))
  | .load _ _ => inferInstanceAs (Decidable True)
  | .lookUp _ => inferInstanceAs (Decidable True)
  | .finish index => inferInstanceAs (Decidable (∀ _ ∈ gateway.tasks[index]?, _))

/-! ### What is on its way -/

end Gateway

/-- The handler is about the fee of the request and will see a success. -/
def Task.WillSettle (id : String) (task : Task) : Prop :=
  task.event = ⟨some id, some .fee⟩ ∧
    match task.phase with
    | .published => True
    | .loaded copy => copy.id = id
    | .lookedUp copy history =>
      copy.id = id ∧ ∃ response ∈ history, response.responseStatus = .succeeded
    | .handled => False

namespace Gateway

/-- Paid requests and read copies have a stored success behind them, and a stored success
has been handled or has a handler on its way. -/
structure Tracked (gateway : Gateway) : Prop where
  orderless : gateway.Orderless
  backed : ∀ id, gateway.feePaid id → gateway.repository.feeSettled id
  seen : ∀ task ∈ gateway.tasks, ∀ copy history, task.phase = .lookedUp copy history →
    task.event.paymentPurposeCode = some .fee →
    (∃ response ∈ history, response.responseStatus = .succeeded) →
    gateway.repository.feeSettled copy.id
  current : ∀ task ∈ gateway.tasks, ∀ copy ∈ task.copy, copy.hasCustomerPaid .fee = true →
    gateway.feePaid copy.id
  pending : ∀ id, (gateway.requests.find id).isSome = true →
    gateway.repository.feeSettled id →
    gateway.feePaid id ∨ ∃ task ∈ gateway.tasks, task.WillSettle id

variable {environment : Environment} {gateway : Gateway}

theorem endsInSuccess_exists {history : PaymentGatewayResponseHistory}
    (succeeded : history.EndsInSuccess) :
    ∃ response ∈ history, response.responseStatus = .succeeded := by
  obtain ⟨response, recent, succeeded⟩ := succeeded
  exact ⟨response, Latest.latest_mem _ _ _ recent, succeeded⟩

variable (environment) in
/-- What a covered step does with the fees: a stored success stays one, and a paid request
stays paid. -/
theorem covered_keeps (orderless : gateway.Orderless) {action : GatewayAction}
    (covered : gateway.Covered action) (id : String) :
    (gateway.repository.feeSettled id →
      (gateway.step environment action).repository.feeSettled id) ∧
    (gateway.feePaid id → (gateway.step environment action).feePaid id) := by
  have effect : Effect environment gateway action (gateway.step environment action) :=
    step_effect orderless action
  generalize gateway.step environment action = after at effect ⊢
  rcases effect with _ | _ | ⟨found, goes⟩ | ⟨found, goes⟩ | _ | _ | _ | _ | _ |
    ⟨task, about, unpaid⟩
  case inserted =>
    exact ⟨fun settled => PaymentGatewayResponseRepository.feeSettled_insert.mpr (Or.inl settled),
      fun paid => paid⟩
  case overridden =>
    refine ⟨fun settled => ?_, fun paid => paid⟩
    have webhook := covered _ found
    rw [goes] at webhook
    exact PaymentGatewayResponseRepository.feeSettled_override
      (PaymentGatewayResponseRepository.destination_over goes).1
      (fun fee => (webhook fee).1) settled
  case saved index event copy history =>
    rw [save_repository, feePaid_save]
    refine ⟨fun settled => settled, fun paid => ?_⟩
    split
    · rename_i hit
      obtain rfl := hit
      have found := paid.imp fun _ => And.left
      refine ⟨Option.isSome_iff_exists.mpr found, (progress_hasCustomerPaid copy history _).mpr ?_⟩
      by_contra failed
      exact (covered _ task about unpaid failed).1 paid
    · exact paid
  all_goals exact ⟨fun settled => settled, fun paid => paid⟩

/-- A stored success that a handler will see stays so, until the request is paid. -/
theorem pending_step (tracked : gateway.Tracked) {action : GatewayAction}
    (covered : gateway.Covered action) {id : String}
    (present : (gateway.requests.find id).isSome = true)
    (settled : gateway.repository.feeSettled id) {task : Task} (member : task ∈ gateway.tasks)
    (willSettle : task.WillSettle id) :
    (gateway.step environment action).feePaid id ∨
      ∃ task ∈ (gateway.step environment action).tasks, task.WillSettle id := by
  have effect : Effect environment gateway action (gateway.step environment action) :=
    step_effect tracked.orderless action
  generalize gateway.step environment action = after at effect ⊢
  obtain ⟨about, stage⟩ := willSettle
  -- A handler that did not move is still on its way; the one that moved is `task` itself.
  have moved {index : Nat} {event : PaymentGatewayRespondedEvent} {before phase : Phase}
      (here : gateway.tasks[index]? = some ⟨event, before⟩) :
      (∃ other ∈ (gateway.advance index event phase).tasks, other.WillSettle id) ∨
        task = ⟨event, before⟩ := by
    obtain still | same := advance_mem index event phase member
    · exact Or.inl ⟨task, still, about, stage⟩
    · rw [here] at same
      exact Or.inr (Option.some.inj same).symm
  rcases effect with _ | _ | _ | _ | ⟨here, found⟩ | ⟨here, absent⟩ | ⟨here, purposed⟩ |
    ⟨here, aimless⟩ | ⟨here, paid⟩ | ⟨here, purposed, unpaid⟩
  case waited => exact Or.inr ⟨task, member, about, stage⟩
  case unchanged => exact Or.inr ⟨task, member, about, stage⟩
  case inserted => exact Or.inr ⟨task, List.mem_append_left _ member, about, stage⟩
  case overridden => exact Or.inr ⟨task, List.mem_append_left _ member, about, stage⟩
  case loaded =>
    obtain still | rfl := moved here
    · exact Or.inr still
    obtain rfl := about
    have sameId := (gateway.requests.find_key found).2
    exact Or.inr ⟨_, advanced_mem here, rfl, sameId⟩
  case missed =>
    obtain still | rfl := moved here
    · exact Or.inr still
    obtain rfl := about
    rw [show gateway.requests.find id = none from absent] at present
    cases present
  case lookedUp =>
    obtain still | rfl := moved here
    · exact Or.inr still
    obtain rfl := about
    cases purposed
    obtain rfl := stage
    exact Or.inr ⟨_, advanced_mem here, rfl, rfl,
      PaymentGatewayResponseRepository.feeSettled_iff_lookup.mp settled⟩
  case ignored =>
    obtain still | rfl := moved here
    · exact Or.inr still
    obtain rfl := about
    cases aimless
  case returned =>
    obtain still | rfl := moved here
    · exact Or.inr still
    obtain rfl := about
    obtain ⟨rfl, -⟩ := stage
    exact Or.inl (tracked.current _ member _ rfl (paid rfl))
  case saved index event copy history =>
    rw [save_tasks]
    obtain still | rfl := moved here
    · exact Or.inr still
    obtain ⟨rfl, response, looked, succeeded⟩ := stage
    have endsWell : history.EndsInSuccess := by
      by_contra failed
      exact (covered _ here purposed unpaid failed).2 response looked succeeded
    exact Or.inl (feePaid_save_self present ((progress_hasCustomerPaid _ _ _).mpr endsWell))

theorem Tracked.backed_step (tracked : gateway.Tracked) {action : GatewayAction}
    (covered : gateway.Covered action) {id : String}
    (paid : (gateway.step environment action).feePaid id) :
    (gateway.step environment action).repository.feeSettled id := by
  obtain before | ⟨index, event, copy, history, -, here, fee, rfl, succeeded⟩ :=
    feePaid_of_step tracked.orderless paid
  · exact (covered_keeps environment tracked.orderless covered id).1 (tracked.backed id before)
  · have settled := tracked.seen _ (List.mem_of_getElem? here) copy history rfl fee
      (endsInSuccess_exists succeeded)
    exact (covered_keeps environment tracked.orderless covered copy.id).1 settled

theorem Tracked.seen_step (tracked : gateway.Tracked) {action : GatewayAction}
    (covered : gateway.Covered action) {task : Task}
    (member : task ∈ (gateway.step environment action).tasks) {copy : ServiceRequest}
    {history : PaymentGatewayResponseHistory} (looked : task.phase = .lookedUp copy history)
    (fee : task.event.paymentPurposeCode = some .fee)
    (succeeded : ∃ response ∈ history, response.responseStatus = .succeeded) :
    (gateway.step environment action).repository.feeSettled copy.id := by
  refine (covered_keeps environment tracked.orderless covered copy.id).1 ?_
  obtain old | rfl := history_step tracked.orderless member looked fee
  · exact tracked.seen task old copy history looked fee succeeded
  · exact PaymentGatewayResponseRepository.feeSettled_iff_lookup.mpr succeeded

theorem Tracked.current_step (tracked : gateway.Tracked) {action : GatewayAction}
    (covered : gateway.Covered action) {task : Task}
    (member : task ∈ (gateway.step environment action).tasks) {copy : ServiceRequest}
    (read : copy ∈ task.copy) (paid : copy.hasCustomerPaid .fee = true) :
    (gateway.step environment action).feePaid copy.id := by
  refine (covered_keeps environment tracked.orderless covered copy.id).2 ?_
  obtain ⟨before, beforeMember, beforeRead⟩ | ⟨stored, storedMember, rfl⟩ :=
    copy_step tracked.orderless member read
  · exact tracked.current before beforeMember copy beforeRead paid
  · exact ⟨stored, gateway.requests.find_of_mem storedMember, paid⟩

/-- A payload that settles a fee is on its way to the request, or the fee was settled before. -/
theorem willSettle_post {payload : Payload} {override : Bool} {anyone id : String}
    {serviceRequest : ServiceRequest}
    (covered : gateway.Covered (.post payload override anyone))
    (found : gateway.getServiceRequest payload.splitRefNo.RefNo anyone = some serviceRequest)
    (settles : (gateway.repository.destination serviceRequest.principalGroup payload.splitRefNo
      override).settled payload.splitRefNo = some id) :
    gateway.repository.feeSettled id ∨
      ∃ task ∈ (gateway.post payload override anyone).tasks, task.WillSettle id := by
  have webhook := covered _ found
  rw [post_eq found override]
  rcases goes : gateway.repository.destination serviceRequest.principalGroup payload.splitRefNo
    override with _ | purpose | existing
  · rw [goes, Destination.settled_dropped] at settles
    cases settles
  · rw [goes, Destination.settled_fresh] at settles
    obtain ⟨-, rfl, named⟩ := settles
    refine Or.inr ⟨_, List.mem_append_right _ (List.mem_singleton_self _), ?_, trivial⟩
    rw [named]
  · rw [goes, Destination.settled_over] at settles
    rw [goes] at webhook
    obtain ⟨success, fee, about⟩ := settles
    obtain ⟨stored, named⟩ := PaymentGatewayResponseRepository.destination_over goes
    by_cases succeeded : existing.responseStatus = .succeeded
    · exact Or.inl ⟨existing, stored, about, fee, succeeded⟩
    · obtain ⟨names, purposed⟩ := (webhook fee).2 succeeded success
      refine Or.inr ⟨_, List.mem_append_right _ (List.mem_singleton_self _), ?_, trivial⟩
      rw [← named.resolve_left names, about, purposed]

/-- Every covered step keeps track of the payments. -/
theorem Tracked.step (tracked : gateway.Tracked) {action : GatewayAction}
    (covered : gateway.Covered action) : (gateway.step environment action).Tracked where
  orderless := tracked.orderless.step action
  backed _ paid := tracked.backed_step covered paid
  seen _ member _ _ looked fee succeeded := tracked.seen_step covered member looked fee succeeded
  current _ member _ read paid := tracked.current_step covered member read paid
  pending id present settled := by
    rw [find_step tracked.orderless] at present
    have ofBefore (before : gateway.repository.feeSettled id) :
        (gateway.step environment action).feePaid id ∨
          ∃ task ∈ (gateway.step environment action).tasks, task.WillSettle id := by
      obtain paid | ⟨task, member, willSettle⟩ := tracked.pending id present before
      · exact Or.inl ((covered_keeps environment tracked.orderless covered id).2 paid)
      · exact pending_step tracked covered present before member willSettle
    obtain before | ⟨payload, override, anyone, serviceRequest, rfl, found, settles⟩ :=
      feeSettled_of_step tracked.orderless settled
    · exact ofBefore before
    obtain before | onItsWay := willSettle_post covered found settles
    · exact ofBefore before
    · exact Or.inr onItsWay

/-- Once every event has been handled, the fee of a request is paid exactly if a stored
response says so. -/
def OutcomeAgrees (gateway : Gateway) : Prop :=
  (∀ task ∈ gateway.tasks, task.phase = .handled) →
    ∀ request ∈ gateway.requests.rows,
      request.hasCustomerPaid .fee = true ↔ gateway.repository.feeSettled request.id

instance (gateway : Gateway) : Decidable gateway.OutcomeAgrees :=
  inferInstanceAs (Decidable ((∀ _ ∈ gateway.tasks, _) → ∀ _ ∈ gateway.requests.rows, _))

theorem Tracked.outcomeAgrees (tracked : gateway.Tracked) : gateway.OutcomeAgrees := by
  intro handled request member
  have found := gateway.requests.find_of_mem member
  have paid_iff : gateway.feePaid request.id ↔ request.hasCustomerPaid .fee = true := by
    simp [feePaid, found]
  rw [← paid_iff]
  refine ⟨tracked.backed request.id, fun settled => ?_⟩
  obtain paid | ⟨task, taskMember, -, stage⟩ :=
    tracked.pending request.id (Option.isSome_of_mem found) settled
  · exact paid
  · rw [handled task taskMember] at stage
    cases stage

theorem tracked_opened {requests : Table String ServiceRequest (·.id)}
    (created : ∀ request ∈ requests.rows, ∃ environment input now,
      ServiceRequest.create environment input now = .ok request) (clock : Time) :
    (opened requests clock).Tracked where
  orderless := orderless_opened created clock
  backed id paid := absurd paid (unpaid_opened created clock id)
  seen _ member := absurd member List.not_mem_nil
  current _ member := absurd member List.not_mem_nil
  pending id _ settled := absurd settled (unsettled_opened requests clock id)

/-- In a run from new service requests whose steps are all covered, the outcome agrees with
the stored responses whenever every event has been handled, in whatever order the payloads
arrived and the handlers took their steps. -/
theorem outcome_agrees (environment : Environment)
    {requests : Table String ServiceRequest (·.id)}
    (created : ∀ request ∈ requests.rows, ∃ environment input now,
      ServiceRequest.create environment input now = .ok request)
    (clock : Time) (actions : List GatewayAction)
    (covered : Along (step environment) Covered (opened requests clock) actions) :
    Throughout (step environment) OutcomeAgrees (opened requests clock) actions :=
  throughout_of_invariant (step environment) Covered Tracked OutcomeAgrees
    (fun _ _ tracked covered => tracked.step covered) (fun _ tracked => tracked.outcomeAgrees)
    (opened requests clock) actions (tracked_opened created clock) covered

/-! ### Two responses -/

/-- The example request alone. -/
def exampleRequests : Table String ServiceRequest (·.id) :=
  Table.empty.save exampleRequest

theorem exampleRequests_created : ∀ request ∈ exampleRequests.rows, ∃ environment input now,
    ServiceRequest.create environment input now = .ok request := by
  intro request member
  obtain rfl := List.mem_singleton.mp member
  exact ⟨exampleEnvironment, exampleInput, 0, exampleRequest_created⟩

/-- A payload for the fee of the example request, about a transaction. -/
def exampleTransaction (transaction status : String) : Payload :=
  { examplePayload status with TransId := .text transaction }

/-- A failure and then a success, each handled before the next arrives. -/
theorem outcome_agrees_retried :
    Throughout (step exampleEnvironment) OutcomeAgrees (opened exampleRequests 0)
      ([.wait 1000, .post (exampleTransaction "T1" "0") false ""] ++ handling 0 "" ++
        [.wait 1000, .post (exampleTransaction "T2" "1") false ""] ++ handling 1 "") :=
  outcome_agrees exampleEnvironment exampleRequests_created 0 _ (by decide +kernel)

/-- A success that is followed by a failure before its event is handled is lost. -/
theorem success_hidden_by_failure :
    ¬ Throughout (step exampleEnvironment) OutcomeAgrees (opened exampleRequests 0)
      ([.wait 1000, .post (exampleTransaction "T1" "1") false "", .wait 1000,
        .post (exampleTransaction "T2" "0") false ""] ++ handling 0 "" ++ handling 1 "") := by
  intro throughout
  have agrees := throughout _ List.prefix_rfl
  revert agrees
  decide +kernel

end Gateway

end FieldService
