/-
This file says what one step of the gateway does, and what it keeps.

`Effect` lists what each action can do, with the reasons a proof needs later; `step_effect`
proves the list complete for requests that have no reschedule order, which is what
`Orderless` says and every step keeps. A surcharge response is then looked up and refused, so
only the handling of a fee saves anything.
-/

import FieldService.Gateway.System

namespace FieldService

/-! ### Stored responses -/

namespace Destination

variable {payload : Payload} {id : String}

theorem settled_dropped : dropped.settled payload = none := by
  unfold settled
  split <;> rfl

theorem settled_fresh {purpose : Option PaymentPurposeCode} :
    (fresh purpose).settled payload = some id ↔
      payload.responseStatus = .succeeded ∧ purpose = some .fee ∧
        payload.RefNo.toOption = some id := by
  unfold settled
  by_cases succeeded : payload.responseStatus = .succeeded
  · rw [if_pos succeeded]
    rcases purpose with _ | _ | _ <;> simp [succeeded]
  · rw [if_neg succeeded]
    simp [succeeded]

theorem settled_over {existing : PaymentGatewayResponse} :
    (Destination.over existing).settled payload = some id ↔
      payload.responseStatus = .succeeded ∧ existing.paymentPurposeCode = some .fee ∧
        existing.referenceId = some id := by
  unfold settled
  by_cases succeeded : payload.responseStatus = .succeeded
  · rw [if_pos succeeded]
    by_cases fee : existing.paymentPurposeCode = some .fee <;> simp [succeeded, fee]
  · rw [if_neg succeeded]
    simp [succeeded]

end Destination

namespace PaymentGatewayResponseRepository

variable {repository : PaymentGatewayResponseRepository} {payload : Payload} {id : String}

theorem feeSettled_iff_lookup :
    repository.feeSettled id ↔
      ∃ response ∈ repository.lookup id .fee, response.responseStatus = .succeeded := by
  unfold feeSettled lookup
  constructor
  · rintro ⟨response, member, reference, purpose, succeeded⟩
    exact ⟨response, List.mem_filter.mpr ⟨member, by simp [reference, purpose]⟩, succeeded⟩
  · rintro ⟨response, found, succeeded⟩
    obtain ⟨member, matching⟩ := List.mem_filter.mp found
    obtain ⟨reference, purpose⟩ := of_decide_eq_true matching
    exact ⟨response, member, reference, purpose, succeeded⟩

/-- Inserting a payload settles a fee when the payload does, and no other. -/
theorem feeSettled_insert {now : Time} {principalGroup : Tenant}
    {purpose : Option PaymentPurposeCode} :
    (repository.insert now principalGroup purpose payload).feeSettled id ↔
      repository.feeSettled id ∨ (Destination.fresh purpose).settled payload = some id := by
  rw [Destination.settled_fresh]
  simp only [feeSettled, insert, List.mem_append, List.mem_singleton, or_and_right, exists_or,
    exists_eq_left, PaymentGatewayResponse.ofPayload]
  refine or_congr_right ?_
  constructor
  · rintro ⟨named, fee, succeeded⟩
    exact ⟨succeeded, fee, named⟩
  · rintro ⟨succeeded, fee, named⟩
    exact ⟨named, fee, succeeded⟩

theorem eq_of_id {first second : PaymentGatewayResponse} (firstMember : first ∈ repository.rows)
    (secondMember : second ∈ repository.rows) (same : first.id = second.id) : first = second := by
  have found := repository.findOne_id firstMember
  rw [same, repository.findOne_id secondMember] at found
  exact (Option.some.inj found).symm

/-- Writing over a row settles no fee that was not settled, unless the payload does. -/
theorem feeSettled_of_override {existing : PaymentGatewayResponse}
    (stored : existing ∈ repository.rows)
    (settled : (repository.overrideRow existing.id payload).feeSettled id) :
    repository.feeSettled id ∨ (Destination.over existing).settled payload = some id := by
  obtain ⟨response, member, reference, purpose, succeeded⟩ := settled
  obtain ⟨original, originalMember, rfl⟩ := List.mem_map.mp member
  by_cases hit : original.id = existing.id
  · rw [if_pos hit] at reference purpose succeeded
    obtain rfl := eq_of_id originalMember stored hit
    exact Or.inr (Destination.settled_over.mpr ⟨succeeded, purpose, reference⟩)
  · rw [if_neg hit] at reference purpose succeeded
    exact Or.inl ⟨original, originalMember, reference, purpose, succeeded⟩

/-- Writing over a row keeps the fees settled, unless it turns a success into a failure. -/
theorem feeSettled_override {existing : PaymentGatewayResponse}
    (stored : existing ∈ repository.rows)
    (keeps : existing.paymentPurposeCode = some .fee → existing.responseStatus = .succeeded →
      payload.responseStatus = .succeeded)
    (settled : repository.feeSettled id) :
    (repository.overrideRow existing.id payload).feeSettled id := by
  obtain ⟨response, member, reference, purpose, succeeded⟩ := settled
  refine ⟨_, List.mem_map.mpr ⟨response, member, rfl⟩, ?_⟩
  by_cases hit : response.id = existing.id
  · rw [if_pos hit]
    obtain rfl := eq_of_id member stored hit
    exact ⟨reference, purpose, keeps purpose succeeded⟩
  · rw [if_neg hit]
    exact ⟨reference, purpose, succeeded⟩

end PaymentGatewayResponseRepository

/-! ### What decides a fee -/

/-- The most recent response of a history is a success. -/
def PaymentGatewayResponseHistory.EndsInSuccess (history : PaymentGatewayResponseHistory) : Prop :=
  ∃ response ∈ history.mostRecentResponse, response.responseStatus = .succeeded

instance (history : PaymentGatewayResponseHistory) : Decidable history.EndsInSuccess :=
  inferInstanceAs (Decidable (∃ _ ∈ history.mostRecentResponse, _))

instance (gateway : Gateway) (id : String) : Decidable (gateway.feePaid id) :=
  inferInstanceAs (Decidable (∃ _ ∈ gateway.requests.find id, _))

instance (repository : PaymentGatewayResponseRepository) (id : String) :
    Decidable (repository.feeSettled id) :=
  inferInstanceAs (Decidable (∃ _ ∈ repository.rows, _))

/-! ### One step -/

namespace Gateway

/-- What an action can do to the gateway. -/
inductive Effect (environment : Environment) (gateway : Gateway) : GatewayAction → Gateway → Prop
  | waited (milliseconds : Nat) :
    Effect environment gateway (.wait milliseconds)
      { gateway with clock := gateway.clock + milliseconds }
  | unchanged (action : GatewayAction) : Effect environment gateway action gateway
  | inserted {payload : Payload} {override : Bool} {anyone : String}
      {serviceRequest : ServiceRequest} {purpose : Option PaymentPurposeCode}
      (found : gateway.getServiceRequest payload.splitRefNo.RefNo anyone = some serviceRequest)
      (goes : gateway.repository.destination serviceRequest.principalGroup payload.splitRefNo
        override = .fresh purpose) :
    Effect environment gateway (.post payload override anyone)
      { gateway with
        repository := gateway.repository.insert gateway.clock serviceRequest.principalGroup purpose
          payload.splitRefNo
        tasks := gateway.tasks ++
          [⟨⟨payload.splitRefNo.RefNo.toOption, purpose⟩, .published⟩] }
  | overridden {payload : Payload} {override : Bool} {anyone : String}
      {serviceRequest : ServiceRequest} {existing : PaymentGatewayResponse}
      (found : gateway.getServiceRequest payload.splitRefNo.RefNo anyone = some serviceRequest)
      (goes : gateway.repository.destination serviceRequest.principalGroup payload.splitRefNo
        override = .over existing) :
    Effect environment gateway (.post payload override anyone)
      { gateway with
        repository := gateway.repository.overrideRow existing.id payload.splitRefNo
        tasks := gateway.tasks ++
          [⟨⟨payload.splitRefNo.RefNo.toOption, payload.splitRefNo.purposeCode⟩, .published⟩] }
  | loaded {index : Nat} {anyone : String} {event : PaymentGatewayRespondedEvent}
      {stored : ServiceRequest} (task : gateway.tasks[index]? = some ⟨event, .published⟩)
      (found : gateway.requests.find (event.referenceId.getD anyone) = some stored) :
    Effect environment gateway (.load index anyone)
      (gateway.advance index event
        (.loaded { stored with service := stored.service.load gateway.repository }))
  | missed {index : Nat} {anyone : String} {event : PaymentGatewayRespondedEvent}
      (task : gateway.tasks[index]? = some ⟨event, .published⟩)
      (absent : gateway.requests.find (event.referenceId.getD anyone) = none) :
    Effect environment gateway (.load index anyone) (gateway.advance index event .handled)
  | lookedUp {index : Nat} {event : PaymentGatewayRespondedEvent} {copy : ServiceRequest}
      {purpose : PaymentPurposeCode} (task : gateway.tasks[index]? = some ⟨event, .loaded copy⟩)
      (about : event.paymentPurposeCode = some purpose) :
    Effect environment gateway (.lookUp index)
      (gateway.advance index event (.lookedUp copy (gateway.repository.lookup copy.id purpose)))
  | ignored {index : Nat} {event : PaymentGatewayRespondedEvent} {copy : ServiceRequest}
      (task : gateway.tasks[index]? = some ⟨event, .loaded copy⟩)
      (aimless : event.paymentPurposeCode = none) :
    Effect environment gateway (.lookUp index) (gateway.advance index event .handled)
  | returned {index : Nat} {event : PaymentGatewayRespondedEvent} {copy : ServiceRequest}
      {history : PaymentGatewayResponseHistory}
      (task : gateway.tasks[index]? = some ⟨event, .lookedUp copy history⟩)
      (paid : event.paymentPurposeCode = some .fee → copy.hasCustomerPaid .fee = true) :
    Effect environment gateway (.finish index) (gateway.advance index event .handled)
  | saved {index : Nat} {event : PaymentGatewayRespondedEvent} {copy : ServiceRequest}
      {history : PaymentGatewayResponseHistory}
      (task : gateway.tasks[index]? = some ⟨event, .lookedUp copy history⟩)
      (about : event.paymentPurposeCode = some .fee)
      (unpaid : copy.hasCustomerPaid .fee = false) :
    Effect environment gateway (.finish index)
      ((gateway.advance index event .handled).save environment
        (copy.deriveCustomerPaymentProgress history gateway.clock))

/-- No request has a reschedule order, neither a stored one nor one a handler has read. -/
structure Orderless (gateway : Gateway) : Prop where
  requests : ∀ request ∈ gateway.requests.rows,
    request.getCustomerRescheduleOrder.isEmpty = true
  copies : ∀ task ∈ gateway.tasks, ∀ copy ∈ task.copy,
    copy.getCustomerRescheduleOrder.isEmpty = true

variable {environment : Environment} {gateway : Gateway}

/-- The gateway after a payload has been stored where it goes. -/
def stored (gateway : Gateway) (payload : Payload) (principalGroup : Tenant) :
    Destination → Gateway
  | .dropped => gateway
  | .fresh purpose =>
    { gateway with
      repository := gateway.repository.insert gateway.clock principalGroup purpose payload
      tasks := gateway.tasks ++ [⟨⟨payload.RefNo.toOption, purpose⟩, .published⟩] }
  | .over existing =>
    { gateway with
      repository := gateway.repository.overrideRow existing.id payload
      tasks := gateway.tasks ++ [⟨⟨payload.RefNo.toOption, payload.purposeCode⟩, .published⟩] }

theorem post_eq {payload : Payload} {anyone : String} {serviceRequest : ServiceRequest}
    (found : gateway.getServiceRequest payload.splitRefNo.RefNo anyone = some serviceRequest)
    (override : Bool) :
    gateway.post payload override anyone =
      gateway.stored payload.splitRefNo serviceRequest.principalGroup
        (gateway.repository.destination serviceRequest.principalGroup payload.splitRefNo
          override) := by
  rw [post, found]
  simp only [iPay88Response, PaymentGatewayResponseRepository.insertIfNotExist_eq]
  rcases gateway.repository.destination serviceRequest.principalGroup payload.splitRefNo override
    with _ | purpose | existing <;> rfl

theorem post_effect (payload : Payload) (override : Bool) (anyone : String) :
    Effect environment gateway (.post payload override anyone)
      (gateway.post payload override anyone) := by
  rcases found : gateway.getServiceRequest payload.splitRefNo.RefNo anyone with _ | serviceRequest
  · rw [post, found]
    exact .unchanged _
  rw [post_eq found]
  rcases goes : gateway.repository.destination serviceRequest.principalGroup payload.splitRefNo
    override with _ | purpose | existing
  · exact .unchanged _
  · exact .inserted found goes
  · exact .overridden found goes

theorem load_effect (index : Nat) (anyone : String) :
    Effect environment gateway (.load index anyone) (gateway.load index anyone) := by
  unfold load
  split
  · rename_i event task
    split
    · rename_i absent
      exact .missed task absent
    · rename_i stored found
      exact .loaded task found
  · exact .unchanged _

theorem lookUp_effect (index : Nat) :
    Effect environment gateway (.lookUp index) (gateway.lookUp index) := by
  unfold lookUp
  split
  · rename_i event copy task
    split
    · rename_i aimless
      exact .ignored task aimless
    · rename_i purpose about
      exact .lookedUp task about
  · exact .unchanged _

theorem finish_effect (orderless : gateway.Orderless) (index : Nat) :
    Effect environment gateway (.finish index) (gateway.finish environment index) := by
  unfold finish
  split
  · rename_i event copy history task
    rcases about : event.paymentPurposeCode with _ | _ | _
    · rw [PaymentGatewayRespondedEvent.outcome, about]
      exact .returned task fun fee => by rw [about] at fee; cases fee
    · rw [PaymentGatewayRespondedEvent.outcome, about]
      by_cases paid : copy.hasCustomerPaid .fee = true
      · simp only [if_pos paid]
        exact .returned task fun _ => paid
      · simp only [if_neg paid]
        exact .saved task about (Bool.eq_false_iff.mpr paid)
    · have empty := orderless.copies _ (List.mem_of_getElem? task) copy rfl
      rw [PaymentGatewayRespondedEvent.outcome, about]
      have refused : copy.executeCustomerRescheduleOrder environment (.given history)
          gateway.clock = (copy, some (.error
            "Please create a new customer reschedule order before execution")) := by
        rw [ServiceRequest.executeCustomerRescheduleOrder, if_pos empty]
      simp only [refused, ite_self]
      exact .returned task fun fee => by rw [about] at fee; cases fee
  · exact .unchanged _

/-- Every step of requests without reschedule orders has one of the listed effects. -/
theorem step_effect (orderless : gateway.Orderless) (action : GatewayAction) :
    Effect environment gateway action (gateway.step environment action) := by
  rcases action with milliseconds | ⟨payload, override, anyone⟩ | ⟨index, anyone⟩ | index | index
  · exact .waited milliseconds
  · exact post_effect payload override anyone
  · exact load_effect index anyone
  · exact lookUp_effect index
  · exact finish_effect orderless index

/-! ### What a step does to the tasks and the requests -/

theorem mem_advance {index : Nat} {event : PaymentGatewayRespondedEvent} {phase : Phase}
    {task : Task} (member : task ∈ (gateway.advance index event phase).tasks) :
    task ∈ gateway.tasks ∨ task = ⟨event, phase⟩ :=
  List.mem_or_eq_of_mem_set member

/-- A task is still there after another one has moved on. -/
theorem advance_mem (index : Nat) (event : PaymentGatewayRespondedEvent) (phase : Phase)
    {task : Task} (member : task ∈ gateway.tasks) :
    task ∈ (gateway.advance index event phase).tasks ∨ gateway.tasks[index]? = some task := by
  obtain ⟨place, bound, found⟩ := List.getElem_of_mem member
  by_cases same : index = place
  · right
    rw [same, List.getElem?_eq_getElem bound, found]
  · left
    refine List.mem_of_getElem? (show (gateway.tasks.set index ⟨event, phase⟩)[place]? = _ from ?_)
    rw [List.getElem?_set_ne same, List.getElem?_eq_getElem bound, found]

/-- The task that moved on is there in its new phase. -/
theorem advanced_mem {index : Nat} {event : PaymentGatewayRespondedEvent} {before phase : Phase}
    (task : gateway.tasks[index]? = some ⟨event, before⟩) :
    ⟨event, phase⟩ ∈ (gateway.advance index event phase).tasks := by
  obtain ⟨bound, -⟩ := List.getElem?_eq_some_iff.mp task
  exact List.mem_set bound _

theorem save_repository (serviceRequest : ServiceRequest) :
    (gateway.save environment serviceRequest).repository = gateway.repository := by
  unfold save
  split <;> rfl

theorem save_tasks (serviceRequest : ServiceRequest) :
    (gateway.save environment serviceRequest).tasks = gateway.tasks := by
  unfold save
  split <;> rfl

/-- A saved request is found as it was saved, and every other one as it was. -/
theorem save_find (serviceRequest : ServiceRequest) (id : String) :
    (gateway.save environment serviceRequest).requests.find id =
      if serviceRequest.id = id then
        (gateway.requests.find id).map fun stored =>
          { serviceRequest with
            service := stored.service.persist environment serviceRequest.service }
      else gateway.requests.find id := by
  unfold save
  split
  · rename_i absent
    split
    · rename_i hit
      rw [← hit, absent]
      rfl
    · rfl
  · rename_i stored found
    rw [Table.find_save]
    split
    · rename_i hit
      rw [← hit, found]
      rfl
    · rfl

/-- A saved request is paid as it was saved, and every other one as it was. -/
theorem feePaid_save (serviceRequest : ServiceRequest) (id : String) :
    (gateway.save environment serviceRequest).feePaid id ↔
      if serviceRequest.id = id then
        (gateway.requests.find id).isSome = true ∧ serviceRequest.hasCustomerPaid .fee = true
      else gateway.feePaid id := by
  unfold feePaid
  rw [save_find]
  by_cases hit : serviceRequest.id = id
  · rw [if_pos hit, if_pos hit]
    rcases gateway.requests.find id with _ | stored
    · simp
    · simp only [Option.map_some, Option.mem_def, Option.some.injEq, exists_eq_left',
        Option.isSome_some, true_and]
      rfl
  · rw [if_neg hit, if_neg hit]

theorem feePaid_save_self {serviceRequest : ServiceRequest}
    (present : (gateway.requests.find serviceRequest.id).isSome = true)
    (paid : serviceRequest.hasCustomerPaid .fee = true) :
    (gateway.save environment serviceRequest).feePaid serviceRequest.id := by
  rw [feePaid_save, if_pos rfl]
  exact ⟨present, paid⟩

/-- What a handler saves of a fee is paid exactly if the history it has looked up ends in a
success. -/
theorem progress_hasCustomerPaid (copy : ServiceRequest)
    (history : PaymentGatewayResponseHistory) (now : Time) :
    (copy.deriveCustomerPaymentProgress history now).hasCustomerPaid .fee = true ↔
      history.EndsInSuccess := by
  show decide (calculatePaymentStatus history.mostRecentResponse = .succeeded) = true ↔ _
  rw [decide_eq_true_iff, PaymentGatewayResponseHistory.EndsInSuccess]
  rcases history.mostRecentResponse with _ | response <;> simp [calculatePaymentStatus]

theorem orderless_opened {requests : Table String ServiceRequest (·.id)}
    (created : ∀ request ∈ requests.rows, ∃ environment input now,
      ServiceRequest.create environment input now = .ok request) (clock : Time) :
    (opened requests clock).Orderless where
  requests request member := by
    obtain ⟨environment, input, now, create⟩ := created request member
    obtain ⟨appointment, -, rest⟩ := bind_eq_ok create
    cases rest
    rfl
  copies task member := absurd member List.not_mem_nil

/-- A new request has not been paid. -/
theorem unpaid_opened {requests : Table String ServiceRequest (·.id)}
    (created : ∀ request ∈ requests.rows, ∃ environment input now,
      ServiceRequest.create environment input now = .ok request) (clock : Time) (id : String) :
    ¬ (opened requests clock).feePaid id := by
  rintro ⟨request, found, paid⟩
  obtain ⟨environment, input, now, create⟩ := created request (requests.find_key found).1
  obtain ⟨appointment, -, rest⟩ := bind_eq_ok create
  cases rest
  cases paid

theorem unsettled_opened (requests : Table String ServiceRequest (·.id)) (clock : Time)
    (id : String) : ¬ (opened requests clock).repository.feeSettled id := by
  rintro ⟨response, member, -⟩
  exact absurd member List.not_mem_nil

/-- No step loses a request. -/
theorem find_step (orderless : gateway.Orderless) (action : GatewayAction) (id : String) :
    ((gateway.step environment action).requests.find id).isSome =
      (gateway.requests.find id).isSome := by
  have effect : Effect environment gateway action (gateway.step environment action) :=
    step_effect orderless action
  generalize gateway.step environment action = after at effect ⊢
  rcases effect with _ | _ | _ | _ | _ | _ | _ | _ | _ | _
  case saved =>
    rw [save_find]
    split
    · rw [Option.isSome_map]
      rfl
    · rfl
  all_goals rfl

/-- A request that a step leaves paid was paid, or the step has saved a success. -/
theorem feePaid_of_step (orderless : gateway.Orderless) {action : GatewayAction} {id : String}
    (paid : (gateway.step environment action).feePaid id) :
    gateway.feePaid id ∨ ∃ index event copy history,
      action = .finish index ∧ gateway.tasks[index]? = some ⟨event, .lookedUp copy history⟩ ∧
      event.paymentPurposeCode = some .fee ∧ copy.id = id ∧ history.EndsInSuccess := by
  have effect : Effect environment gateway action (gateway.step environment action) :=
    step_effect orderless action
  generalize gateway.step environment action = after at effect paid
  rcases effect with _ | _ | _ | _ | _ | _ | _ | _ | _ | ⟨task, about, unpaid⟩
  case saved index event copy history =>
    rw [feePaid_save] at paid
    split at paid
    · rename_i hit
      exact Or.inr ⟨index, event, copy, history, rfl, task, about, hit,
        (progress_hasCustomerPaid copy history _).mp paid.2⟩
    · exact Or.inl paid
  all_goals exact Or.inl paid

/-- A fee that a step leaves settled was settled, or the step has stored a success for it. -/
theorem feeSettled_of_step (orderless : gateway.Orderless) {action : GatewayAction} {id : String}
    (settled : (gateway.step environment action).repository.feeSettled id) :
    gateway.repository.feeSettled id ∨ ∃ payload override anyone serviceRequest,
      action = .post payload override anyone ∧
      gateway.getServiceRequest payload.splitRefNo.RefNo anyone = some serviceRequest ∧
      (gateway.repository.destination serviceRequest.principalGroup payload.splitRefNo
        override).settled payload.splitRefNo = some id := by
  have effect : Effect environment gateway action (gateway.step environment action) :=
    step_effect orderless action
  generalize gateway.step environment action = after at effect settled
  rcases effect with _ | _ | ⟨found, goes⟩ | ⟨found, goes⟩ | _ | _ | _ | _ | _ | _
  case inserted =>
    refine (PaymentGatewayResponseRepository.feeSettled_insert.mp settled).imp_right
      fun settles => ?_
    exact ⟨_, _, _, _, rfl, found, goes ▸ settles⟩
  case overridden =>
    have stored := (PaymentGatewayResponseRepository.destination_over goes).1
    refine (PaymentGatewayResponseRepository.feeSettled_of_override stored settled).imp_right
      fun settles => ?_
    exact ⟨_, _, _, _, rfl, found, goes ▸ settles⟩
  case saved =>
    rw [save_repository] at settled
    exact Or.inl settled
  all_goals exact Or.inl settled

/-- A step takes no task away, and gives each that is new or has moved on a reason. -/
theorem mem_tasks_step (orderless : gateway.Orderless) {action : GatewayAction} {task : Task}
    (member : task ∈ (gateway.step environment action).tasks) :
    task ∈ gateway.tasks ∨ task.phase = .published ∨ task.phase = .handled ∨
      (∃ stored anyone,
        gateway.requests.find (task.event.referenceId.getD anyone) = some stored ∧
        task.phase =
          .loaded { stored with service := stored.service.load gateway.repository }) ∨
      ∃ index copy purpose, action = .lookUp index ∧
        gateway.tasks[index]? = some ⟨task.event, .loaded copy⟩ ∧
        task.event.paymentPurposeCode = some purpose ∧
        task.phase = .lookedUp copy (gateway.repository.lookup copy.id purpose) := by
  have effect : Effect environment gateway action (gateway.step environment action) :=
    step_effect orderless action
  generalize gateway.step environment action = after at effect member
  have ofAdvance {index : Nat} {event : PaymentGatewayRespondedEvent} {phase : Phase}
      (advanced : task ∈ (gateway.advance index event phase).tasks) :
      task ∈ gateway.tasks ∨ task = ⟨event, phase⟩ := mem_advance advanced
  rcases effect with _ | _ | ⟨found, goes⟩ | ⟨found, goes⟩ | ⟨_, found⟩ | _ | ⟨before, about⟩ |
    _ | _ | _
  case waited => exact Or.inl member
  case unchanged => exact Or.inl member
  case inserted =>
    refine (List.mem_append.mp member).imp_right fun new => Or.inl ?_
    rw [List.mem_singleton.mp new]
  case overridden =>
    refine (List.mem_append.mp member).imp_right fun new => Or.inl ?_
    rw [List.mem_singleton.mp new]
  case loaded =>
    refine (ofAdvance member).imp_right fun new => Or.inr (Or.inr (Or.inl ?_))
    rw [new]
    exact ⟨_, _, found, rfl⟩
  case lookedUp =>
    refine (ofAdvance member).imp_right fun new => Or.inr (Or.inr (Or.inr ?_))
    rw [new]
    exact ⟨_, _, _, rfl, before, about, rfl⟩
  case saved =>
    rw [save_tasks] at member
    refine (ofAdvance member).imp_right fun new => Or.inr (Or.inl ?_)
    rw [new]
  all_goals
    refine (ofAdvance member).imp_right fun new => Or.inr (Or.inl ?_)
    rw [new]

/-- What a handler has read after a step it had read before, or it has just read it. -/
theorem copy_step (orderless : gateway.Orderless) {action : GatewayAction} {task : Task}
    (member : task ∈ (gateway.step environment action).tasks) {copy : ServiceRequest}
    (read : copy ∈ task.copy) :
    (∃ before ∈ gateway.tasks, copy ∈ before.copy) ∨
      ∃ stored ∈ gateway.requests.rows,
        copy = { stored with service := stored.service.load gateway.repository } := by
  obtain old | published | done | ⟨stored, anyone, found, loaded⟩ |
    ⟨index, original, purpose, -, before, -, now⟩ := mem_tasks_step orderless member
  · exact Or.inl ⟨task, old, read⟩
  · rw [Task.copy, published] at read
    cases read
  · rw [Task.copy, done] at read
    cases read
  · rw [Task.copy, loaded] at read
    exact Or.inr ⟨stored, (gateway.requests.find_key found).1, (Option.some.inj read).symm⟩
  · rw [Task.copy, now] at read
    refine Or.inl ⟨_, List.mem_of_getElem? before, ?_⟩
    rw [← Option.some.inj read]
    rfl

/-- The history that a handler of a fee has after a step it had before, or it is what is
stored. -/
theorem history_step (orderless : gateway.Orderless) {action : GatewayAction} {task : Task}
    (member : task ∈ (gateway.step environment action).tasks) {copy : ServiceRequest}
    {history : PaymentGatewayResponseHistory} (looked : task.phase = .lookedUp copy history)
    (fee : task.event.paymentPurposeCode = some .fee) :
    task ∈ gateway.tasks ∨ history = gateway.repository.lookup copy.id .fee := by
  obtain old | published | done | ⟨stored, anyone, -, loaded⟩ |
    ⟨index, original, purpose, -, -, about, now⟩ := mem_tasks_step orderless member
  · exact Or.inl old
  · exact absurd (looked.symm.trans published) Phase.noConfusion
  · exact absurd (looked.symm.trans done) Phase.noConfusion
  · exact absurd (looked.symm.trans loaded) Phase.noConfusion
  · right
    obtain ⟨rfl, rfl⟩ := Phase.lookedUp.inj (looked.symm.trans now)
    rw [Option.some.inj (fee.symm.trans about)]

/-- What a handler reads of a request, or saves of it, is the request but for its service and
the progress of its payment. -/
inductive Derived (serviceRequest : ServiceRequest) : ServiceRequest → Prop
  | read (service : Service) : Derived serviceRequest { serviceRequest with service := service }
  | progressed (history : PaymentGatewayResponseHistory) (now : Time) (service : Service) :
    Derived serviceRequest
      { serviceRequest.deriveCustomerPaymentProgress history now with service := service }

variable (environment) in
/-- A property of requests that has nothing to do with their service and their payment, and
that every stored and every read request has, is kept by every step. -/
theorem everywhere_step (orderless : gateway.Orderless) (property : ServiceRequest → Prop)
    (derived : ∀ {before after : ServiceRequest}, Derived before after → property before →
      property after)
    (rows : ∀ request ∈ gateway.requests.rows, property request)
    (copies : ∀ task ∈ gateway.tasks, ∀ copy ∈ task.copy, property copy) (action : GatewayAction) :
    (∀ request ∈ (gateway.step environment action).requests.rows, property request) ∧
      ∀ task ∈ (gateway.step environment action).tasks, ∀ copy ∈ task.copy, property copy := by
  refine ⟨fun request member => ?_, fun task member copy read => ?_⟩
  · have effect : Effect environment gateway action (gateway.step environment action) :=
      step_effect orderless action
    generalize gateway.step environment action = after at effect member
    rcases effect with _ | _ | _ | _ | _ | _ | _ | _ | _ | ⟨task, about, unpaid⟩
    case saved index event copy history =>
      unfold save at member
      split at member
      · exact rows request member
      obtain rfl | old := Table.mem_save _ member
      · exact derived (.progressed history _ _) (copies _ (List.mem_of_getElem? task) copy rfl)
      · exact rows request old
    all_goals exact rows request member
  · obtain ⟨before, beforeMember, beforeRead⟩ | ⟨stored, storedMember, rfl⟩ :=
      copy_step orderless member read
    · exact copies before beforeMember copy beforeRead
    · exact derived (.read _) (rows stored storedMember)

theorem Orderless.save (orderless : gateway.Orderless) {serviceRequest : ServiceRequest}
    (empty : serviceRequest.getCustomerRescheduleOrder.isEmpty = true) :
    (gateway.save environment serviceRequest).Orderless := by
  unfold Gateway.save
  split
  · exact orderless
  · refine ⟨fun request member => ?_, orderless.copies⟩
    obtain rfl | old := Table.mem_save _ member
    · exact empty
    · exact orderless.requests request old

/-- No step makes a reschedule order. -/
theorem Orderless.step (orderless : gateway.Orderless) (action : GatewayAction) :
    (gateway.step environment action).Orderless := by
  have kept := everywhere_step environment orderless
    (fun request => request.getCustomerRescheduleOrder.isEmpty = true)
    (fun derived empty => by rcases derived with _ | _ <;> exact empty)
    orderless.requests orderless.copies action
  exact ⟨kept.1, kept.2⟩

end Gateway

end FieldService
