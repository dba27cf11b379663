/-
This file models how a service request is placed, and settles when a promotion is used up for an
order that is really placed.

The use of a promotion is committed while the order is put together. After that the appointment is
made, which is refused when it is too close, and the request is saved; nothing undoes the use when
one of the two fails. And the order bears the code only if the promotion takes something off.
-/

import Mathlib.Algebra.Order.Field.Basic
import Mathlib.Algebra.Order.Ring.Rat
import FieldService.Orders.Discounts
import FieldService.ServiceRequest.Entity

namespace FieldService.Orders

/-! ### The input -/

structure ServicePackageInput where
  id : Uuid
  quantity : Int

/-- Remarks can be undefined, null or a text. -/
structure CustomerOrderInput where
  remarks : Option (Option String)
  promoCode : Option String
  servicePackages : List ServicePackageInput

/-- `promoCode` when it is truthy. -/
def CustomerOrderInput.givenPromoCode (input : CustomerOrderInput) : Option String :=
  input.promoCode.filter (· ≠ "")

/-- The address of the customer, of which the order reads the state. -/
structure LocationInput where
  state : String
  latitude : Rat
  longitude : Rat
  deriving DecidableEq, Repr

structure CustomerContactInput where
  email : String
  name : String
  phone : String
  secondaryPhone : Option String
  deriving DecidableEq, Repr

structure ServiceRequestInput where
  requestCategory : Tenant
  expectedArrivalPeriod : Period
  customerAddress : LocationInput
  customerContact : CustomerContactInput
  customerOrder : CustomerOrderInput
  externalCustomerId : Option String

/-! ### What is placed -/

/-- A service request with its order, and where and for whom it is. -/
structure PlacedServiceRequest where
  serviceRequest : ServiceRequest
  customerOrder : CustomerOrder
  customerAddress : LocationInput
  customerContact : CustomerContactInput
  externalCustomerId : Option String
  deriving DecidableEq, Repr

inductive PlacingError where
  | outOfServiceCoverage
  | servicePackageNotFound (id : Uuid)
  | userInput (error : UserInputError)
  | promotion (error : PromotionError)
  /-- A property of `undefined` is read. -/
  | typeError
  | appointment (error : AppError)
  | notSaved
  | queryFailed

/-- What placing a request meets on its way: the answers of the modules and of the database, the
time of each step, and what is drawn at random. -/
structure Surroundings where
  environment : Environment
  serviceRequestOptions : ServiceRequestOptions
  toUpperCase : String → String
  toLowerCase : String → String
  /-- `IsWithinCoverageQuery`. -/
  isWithinCoverage : LocationInput → Except PlacingError Bool
  findServicePackage : Uuid → Except PlacingError (Option ServicePackage)
  /-- Of the three steps of applying the promotion. -/
  finding : Circumstance
  validating : Circumstance
  committing : Circumstance
  now : Time
  id : String
  verificationCode : String
  /-- The database accepts the request. -/
  saves : Bool

/-- The promotions and the requests that are stored. -/
structure Placements where
  promotions : Promotions
  requests : List PlacedServiceRequest

/-! ### Placing a request -/

/-- The steps of one command, one after another. -/
def ApplyPromoCodeCommand.execute (command : ApplyPromoCodeCommand) (surroundings : Surroundings)
    (promotions : Promotions) : Promotions × ApplyingProgress :=
  let found := command.proceed surroundings.finding promotions .waiting
  let validated := command.proceed surroundings.validating found.1 found.2
  command.proceed surroundings.committing validated.1 validated.2

/-- The package of an order for one of the inputs. -/
def requestServicePackage (surroundings : Surroundings) (location : LocationInput)
    (input : ServicePackageInput) : Except PlacingError RequestedServicePackage := do
  match ← surroundings.findServicePackage input.id with
  | none => throw (.servicePackageNotFound input.id)
  | some servicePackage =>
    (RequestedServicePackage.create surroundings.toUpperCase input.quantity location.state
      (some servicePackage)).mapError .userInput

def requestServicePackages (surroundings : Surroundings) (location : LocationInput)
    (input : CustomerOrderInput) : Except PlacingError (List RequestedServicePackage) :=
  (input.servicePackages.filter (0 < ·.quantity)).mapM (requestServicePackage surroundings location)

/-- The command for an order that has been put together. -/
def promoCodeCommand (surroundings : Surroundings) (promoCode : String)
    (customerOrder : Option CustomerOrder) (forCommit : Bool) : ApplyPromoCodeCommand :=
  .create surroundings.toLowerCase promoCode (customerOrder.map (·.consumerTotal)) forCommit

/-- `CustomerOrderFactory.create`. An order whose fields have not been set is none. -/
def CustomerOrderFactory.create (surroundings : Surroundings) (input : CustomerOrderInput)
    (location : LocationInput) (forCommit : Bool) (promotions : Promotions) :
    Promotions × Except PlacingError (Option CustomerOrder) :=
  match requestServicePackages surroundings location input with
  | .error error => (promotions, .error error)
  | .ok packages =>
    let customerOrder := CustomerOrder.create surroundings.toUpperCase input.remarks packages none
    match input.givenPromoCode with
    | none => (promotions, .ok customerOrder)
    | some promoCode =>
      let applied := (promoCodeCommand surroundings promoCode customerOrder forCommit).execute
        surroundings promotions
      match applied.2 with
      | .succeeded result =>
        (applied.1, .ok (customerOrder.map
          (·.applyPromotion surroundings.toUpperCase (some result.toApplyPromoCodeResult))))
      | .failed error => (applied.1, .error (.promotion error))
      | _ => (applied.1, .error .queryFailed)

def CustomerOrder.totalServiceMinutes (customerOrder : CustomerOrder) : Int :=
  customerOrder.servicePackages.foldl (fun total package => total + package.totalServiceMinutes) 0

/-- `ServiceRequestFactory.create`, once the order is there. -/
def ServiceRequestFactory.complete (surroundings : Surroundings) (input : ServiceRequestInput) :
    Option CustomerOrder → Except PlacingError PlacedServiceRequest
  | none => .error .typeError
  | some customerOrder => do
    let serviceRequest ← (ServiceRequest.create surroundings.environment
      { id := surroundings.id
        requestCategory := input.requestCategory
        expectedArrivalPeriod := input.expectedArrivalPeriod
        customerOrder :=
          { consumerTotal := customerOrder.consumerTotal
            serviceProviderTotal := customerOrder.serviceProviderTotal
            haveCompletedAllTechnicalReports := customerOrder.haveCompletedAllTechnicalReports }
        totalServiceMinutes := customerOrder.totalServiceMinutes
        verificationCode := surroundings.verificationCode
        serviceRequestOptions := surroundings.serviceRequestOptions }
      surroundings.now).mapError .appointment
    return ⟨serviceRequest, customerOrder, input.customerAddress, input.customerContact,
      input.externalCustomerId.filter (· ≠ "")⟩

/-- `ServiceRequestService.calculate`. -/
def calculateServiceRequest (surroundings : Surroundings) (input : ServiceRequestInput)
    (forCommit : Bool) (promotions : Promotions) :
    Promotions × Except PlacingError PlacedServiceRequest :=
  match surroundings.isWithinCoverage input.customerAddress with
  | .error error => (promotions, .error error)
  | .ok false => (promotions, .error .outOfServiceCoverage)
  | .ok true =>
    let made := CustomerOrderFactory.create surroundings input.customerOrder input.customerAddress
      forCommit promotions
    (made.1, made.2 >>= ServiceRequestFactory.complete surroundings input)

/-- `ServiceRequestService.create`, up to the events and the reminders of the saved request. -/
def Placements.create (surroundings : Surroundings) (input : ServiceRequestInput)
    (placements : Placements) : Placements × Except PlacingError PlacedServiceRequest :=
  let calculated := calculateServiceRequest surroundings input true placements.promotions
  match calculated.2 with
  | .error error => ({ placements with promotions := calculated.1 }, .error error)
  | .ok placed =>
    if surroundings.saves then
      (⟨calculated.1, placements.requests ++ [placed]⟩, .ok placed)
    else ({ placements with promotions := calculated.1 }, .error .notSaved)

/-! ### Counting real orders -/

/-- The count of a promotion goes up exactly if a request that bears its code is saved, and the
promotions are as before if none is saved. -/
structure CountsRealOrders (before after : Placements) : Prop where
  counted : ∀ code promotion, before.promotions.find code = some promotion →
    ((∃ later, after.promotions.find code = some later ∧
        promotion.usageCount < later.usageCount) ↔
      ∃ placed, after.requests = before.requests ++ [placed] ∧
        placed.customerOrder.consumerPromotionCode = some code)
  unsaved : after.requests = before.requests → after.promotions.find = before.promotions.find

/-- The input is such that the use of a promotion is committed for the packages: it gets as far as
to apply a promo code, and the code is that of an active promotion that is valid. -/
structure CommitsUse (surroundings : Surroundings) (input : ServiceRequestInput)
    (promotions : Promotions) (packages : List RequestedServicePackage) (promotion : Promotion) :
    Prop where
  covered : surroundings.isWithinCoverage input.customerAddress = .ok true
  requested : requestServicePackages surroundings input.customerAddress input.customerOrder =
    .ok packages
  found : ∃ promoCode, input.customerOrder.givenPromoCode = some promoCode ∧
    promotions.findOne (surroundings.toLowerCase promoCode) = some promotion
  valid : promotion.isValid surroundings.validating.now = .ok ()
  answered : surroundings.finding.answers = true ∧ surroundings.committing.answers = true

/-- The request starts before the arrival window is over. -/
def ServiceRequestInput.isTooClose (surroundings : Surroundings) (input : ServiceRequestInput) :
    Prop :=
  input.expectedArrivalPeriod.start <
    addHours surroundings.now surroundings.environment.serviceRequestExpectedArrivalWindowHour

/-- What else it takes for the order to be placed with the code: there are remarks, the request does
not start too close and is saved, the packages cost something and the promotion takes something
off. -/
structure PlacesWithCode (surroundings : Surroundings) (input : ServiceRequestInput)
    (packages : List RequestedServicePackage) (promotion : Promotion) : Prop where
  remarked : input.customerOrder.remarks ≠ none
  farAhead : ¬input.isTooClose surroundings
  saved : surroundings.saves = true
  priced : 0 < calculateConsumerTotal
    (bundleByServicePackageGroupCodes surroundings.toUpperCase packages)
  discounting : 0 < promotion.discount.discountValue
  unlimited : ∀ limit, promotion.discount.amountLimit = some limit → 0 ≤ limit

/-! ### Applying the promotion -/

/-- A promotion that is valid is below its limit. -/
theorem Promotion.isBelowLimit_of_isValid {promotion : Promotion} {now : Time}
    (valid : promotion.isValid now = .ok ()) : promotion.isBelowLimit = true := by
  unfold isValid at valid
  split at valid
  · cases valid
  split at valid
  · cases valid
  split at valid
  · cases valid
  · rename_i below
    rw [isBelowLimit]
    cases limited : promotion.usageLimit with
    | none => rfl
    | some limit =>
      rw [limited, Option.getD_some, not_le] at below
      simpa using below

theorem Promotions.find_of_findOne {promotions : Promotions} {code : String} {promotion : Promotion}
    (found : promotions.findOne code = some promotion) :
    promotions.find code = some promotion ∧ promotion.code = code := by
  have stored := (Option.filter_eq_some_iff.mp found).1
  exact ⟨stored, (promotions.find_key stored).2⟩

/-- An increment of a promotion below its limit increases its count, and no other. -/
theorem Promotions.increment_increases_iff {promotions : Promotions} {code : String}
    {promotion other : Promotion} (stored : promotions.find promotion.code = some promotion)
    (known : promotions.find code = some other) (below : promotion.isBelowLimit = true) :
    (∃ later, (promotions.increment promotion.code).1.find code = some later ∧
        other.usageCount < later.usageCount) ↔ code = promotion.code := by
  constructor
  · rintro ⟨later, found, more⟩
    by_contra different
    rw [find_increment_other _ different, known] at found
    cases found
    exact lt_irrefl _ more
  · rintro rfl
    cases known.symm.trans stored
    refine ⟨promotion.used 1, ?_, Int.lt_succ promotion.usageCount⟩
    rw [find_increment, stored, Option.map_some, Promotion.incrementIfUsable_of_isBelowLimit below]

namespace ApplyPromoCodeCommand

variable {command : ApplyPromoCodeCommand} {surroundings : Surroundings} {promotions : Promotions}

/-- The command finds a valid promotion, and the database answers. -/
def Commits (command : ApplyPromoCodeCommand) (surroundings : Surroundings)
    (promotions : Promotions) (promotion : Promotion) : Prop :=
  (surroundings.finding.answers = true ∧ surroundings.committing.answers = true) ∧
    promotions.findOne command.promoCode = some promotion ∧
      promotion.isValid surroundings.validating.now = .ok ()

theorem execute_of_commits (forCommit : command.forCommit = true) {promotion : Promotion}
    (commits : command.Commits surroundings promotions promotion) :
    command.execute surroundings promotions =
      ((promotions.increment command.promoCode).1,
        .succeeded (promotion.apply command.totalAmount)) := by
  obtain ⟨⟨finding, committing⟩, found, valid⟩ := commits
  have affected : 0 < (promotions.increment command.promoCode).2 :=
    (promotions.affected_pos_iff _).mpr ⟨promotion, (Promotions.find_of_findOne found).1,
      Promotion.isBelowLimit_of_isValid valid⟩
  simp only [execute, proceed, finding, committing, found, valid, forCommit, affected, if_true,
    Bool.not_true, Bool.false_eq_true, if_false]

theorem execute_of_not_commits (forCommit : command.forCommit = true)
    (refuses : ∀ promotion, ¬command.Commits surroundings promotions promotion) :
    ∃ error, command.execute surroundings promotions = (promotions, .failed error) := by
  cases finding : surroundings.finding.answers with
  | false => exact ⟨.queryFailed, by simp [execute, proceed, finding]⟩
  | true =>
    cases found : promotions.findOne command.promoCode with
    | none =>
      exact ⟨.promotionCodeInvalid command.promoCode, by simp [execute, proceed, finding, found]⟩
    | some promotion =>
      cases valid : promotion.isValid surroundings.validating.now with
      | error error => exact ⟨error, by simp [execute, proceed, finding, found, valid]⟩
      | ok passed =>
        cases committing : surroundings.committing.answers with
        | false =>
          exact ⟨.queryFailed,
            by simp [execute, proceed, finding, found, valid, forCommit, committing]⟩
        | true => exact absurd ⟨⟨finding, committing⟩, found, valid⟩ (refuses promotion)

end ApplyPromoCodeCommand

/-! ### Making the order -/

section

variable {surroundings : Surroundings} {input : ServiceRequestInput} {promotions : Promotions}
  {packages : List RequestedServicePackage} {promotion : Promotion}

/-- There is one use at most. -/
theorem CommitsUse.unique (commits : CommitsUse surroundings input promotions packages promotion)
    {others : List RequestedServicePackage} {other : Promotion}
    (also : CommitsUse surroundings input promotions others other) :
    packages = others ∧ promotion = other := by
  obtain ⟨promoCode, given, found⟩ := commits.found
  obtain ⟨otherCode, otherGiven, otherFound⟩ := also.found
  cases given.symm.trans otherGiven
  exact ⟨Except.ok.inj (commits.requested.symm.trans also.requested),
    Option.some.inj (found.symm.trans otherFound)⟩

/-- The order of the packages with the promotion, if there are remarks. -/
def orderWith (surroundings : Surroundings) (input : ServiceRequestInput)
    (packages : List RequestedServicePackage) (promotion : Promotion) : Option CustomerOrder :=
  let customerOrder :=
    CustomerOrder.create surroundings.toUpperCase input.customerOrder.remarks packages none
  customerOrder.map (·.applyPromotion surroundings.toUpperCase
    (some (promotion.apply (customerOrder.map (·.consumerTotal))).toApplyPromoCodeResult))

/-- The total of an order before a promotion is that of its packages put together. -/
theorem CustomerOrder.create_consumerTotal (toUpperCase : String → String)
    (remarks : Option String) (packages : List RequestedServicePackage) :
    (CustomerOrder.build toUpperCase remarks packages none).consumerTotal =
      calculateConsumerTotal (bundleByServicePackageGroupCodes toUpperCase packages) := rfl

/-- The order bears the code exactly if the promotion takes something off. -/
theorem consumerPromotionCode_orderWith {customerOrder : CustomerOrder}
    (made : orderWith surroundings input packages promotion = some customerOrder)
    (code : String) : customerOrder.consumerPromotionCode = some code ↔
      code = promotion.code ∧ 0 < promotion.discountedAmount (calculateConsumerTotal
        (bundleByServicePackageGroupCodes surroundings.toUpperCase packages)) := by
  rw [orderWith, CustomerOrder.create] at made
  cases remarked : input.customerOrder.remarks with
  | none =>
    rw [remarked] at made
    cases made
  | some remarks =>
    rw [remarked] at made
    simp only [Option.map_some, Option.some.injEq] at made
    subst made
    rw [CustomerOrder.create_consumerTotal, CustomerOrder.applyPromotion, CustomerOrder.build_eq,
      Option.getD_some, CustomerOrder.discounted, ApplyPromoCodeResult.positiveDiscount]
    by_cases positive : 0 < promotion.discountedAmount (calculateConsumerTotal
      (bundleByServicePackageGroupCodes surroundings.toUpperCase packages))
    · simp only [Promotion.apply, Option.map_some, Option.filter, positive, decide_true, if_true,
        Option.some.injEq, and_true]
      exact eq_comm
    · simp only [Promotion.apply, Option.map_some, Option.filter, positive, decide_false,
        Bool.false_eq_true, if_false, and_false, iff_false]
      intro bears
      cases bears

theorem orderWith_eq_none_iff :
    orderWith surroundings input packages promotion = none ↔
      input.customerOrder.remarks = none := by
  rw [orderWith, CustomerOrder.create, Option.map_eq_none_iff, Option.map_eq_none_iff]

variable (surroundings input) in
/-- A request is made of an order that is there, unless it starts too close. -/
theorem complete_cases (customerOrder : Option CustomerOrder) :
    (∃ placed, ServiceRequestFactory.complete surroundings input customerOrder = .ok placed ∧
        customerOrder = some placed.customerOrder) ∧ ¬input.isTooClose surroundings ∨
      (∃ error, ServiceRequestFactory.complete surroundings input customerOrder = .error error) ∧
        (input.isTooClose surroundings ∨ customerOrder = none) := by
  cases customerOrder with
  | none => exact Or.inr ⟨⟨.typeError, rfl⟩, Or.inr rfl⟩
  | some made =>
    by_cases close : input.isTooClose surroundings
    · have refused : Appointment.create surroundings.environment input.expectedArrivalPeriod
          made.totalServiceMinutes surroundings.now =
            .error (.lessThanExpectedArrivalWindowHour
              surroundings.environment.serviceRequestExpectedArrivalWindowHour) := if_pos close
      refine Or.inr ⟨⟨.appointment (.lessThanExpectedArrivalWindowHour
        surroundings.environment.serviceRequestExpectedArrivalWindowHour), ?_⟩, Or.inl close⟩
      simp only [ServiceRequestFactory.complete, ServiceRequest.create, refused]
      rfl
    · obtain ⟨appointment, accepted⟩ : ∃ appointment, Appointment.create surroundings.environment
          input.expectedArrivalPeriod made.totalServiceMinutes surroundings.now =
            .ok appointment := ⟨_, if_neg close⟩
      have completes : ∃ placed, ServiceRequestFactory.complete surroundings input (some made) =
          .ok placed ∧ placed.customerOrder = made := by
        simp only [ServiceRequestFactory.complete, ServiceRequest.create, accepted]
        exact ⟨_, rfl, rfl⟩
      obtain ⟨placed, completed, rfl⟩ := completes
      exact Or.inl ⟨⟨placed, completed, rfl⟩, close⟩

/-- A use that is committed is counted once, before the rest of the request is made. -/
theorem calculate_of_commitsUse
    (commits : CommitsUse surroundings input promotions packages promotion) :
    calculateServiceRequest surroundings input true promotions =
      ((promotions.increment promotion.code).1,
        ServiceRequestFactory.complete surroundings input
          (orderWith surroundings input packages promotion)) := by
  obtain ⟨promoCode, given, found⟩ := commits.found
  have sameCode := (Promotions.find_of_findOne found).2
  have executed := (promoCodeCommand surroundings promoCode (CustomerOrder.create
    surroundings.toUpperCase input.customerOrder.remarks packages none) true).execute_of_commits
      rfl ⟨commits.answered, found, commits.valid⟩
  simp only [calculateServiceRequest, commits.covered, CustomerOrderFactory.create,
    commits.requested, given]
  rw [executed, sameCode]
  rfl

/-- When no use is committed the promotions are left alone, and a request that is made bears no
code. -/
theorem calculate_of_not_commitsUse
    (refuses : ∀ packages promotion,
      ¬CommitsUse surroundings input promotions packages promotion) :
    (calculateServiceRequest surroundings input true promotions).1 = promotions ∧
      ∀ placed, (calculateServiceRequest surroundings input true promotions).2 = .ok placed →
        placed.customerOrder.consumerPromotionCode = none := by
  rw [calculateServiceRequest]
  cases covered : surroundings.isWithinCoverage input.customerAddress with
  | error error => exact ⟨rfl, fun placed made => by cases made⟩
  | ok within =>
    cases within with
    | false => exact ⟨rfl, fun placed made => by cases made⟩
    | true =>
      simp only [CustomerOrderFactory.create]
      cases requested : requestServicePackages surroundings input.customerAddress
          input.customerOrder with
      | error error => exact ⟨rfl, fun placed made => by cases made⟩
      | ok packages =>
        cases given : input.customerOrder.givenPromoCode with
        | none =>
          refine ⟨rfl, fun placed made => ?_⟩
          have completed : ServiceRequestFactory.complete surroundings input
            (CustomerOrder.create surroundings.toUpperCase input.customerOrder.remarks packages
              none) = .ok placed := made
          obtain ⟨⟨same, succeeds, ordered⟩, -⟩ | ⟨⟨error, fails⟩, -⟩ :=
            complete_cases surroundings input
              (CustomerOrder.create surroundings.toUpperCase input.customerOrder.remarks packages
                none)
          · rw [succeeds] at completed
            cases completed
            obtain ⟨remarks, -, bare⟩ := Option.map_eq_some_iff.mp ordered
            rw [← bare]
            rfl
          · rw [fails] at completed
            cases completed
        | some promoCode =>
          obtain ⟨error, refused⟩ := (promoCodeCommand surroundings promoCode
            (CustomerOrder.create surroundings.toUpperCase input.customerOrder.remarks packages
              none) true).execute_of_not_commits rfl fun promotion commits =>
                refuses packages promotion ⟨covered, requested, ⟨promoCode, given, commits.2.1⟩,
                  commits.2.2, commits.1⟩
          simp only [refused, true_and]
          intro placed made
          cases made

/-! ### Placing it -/

namespace Placements

variable {placements : Placements}

/-- What is stored after a request has been calculated: the promotions as they are then, and the
request if it is saved. -/
theorem create_fst (placements : Placements) :
    (placements.create surroundings input).1 =
      ⟨(calculateServiceRequest surroundings input true placements.promotions).1,
        placements.requests ++
          if surroundings.saves then
            (calculateServiceRequest surroundings input true
              placements.promotions).2.toOption.toList
          else []⟩ := by
  rw [create]
  cases (calculateServiceRequest surroundings input true placements.promotions).2 with
  | error error => simp [Except.toOption]
  | ok placed =>
    cases surroundings.saves with
    | false => simp
    | true => rfl

/-- Without a use that is committed, orders are counted as they should be. -/
theorem countsRealOrders_of_not_commitsUse
    (refuses : ∀ packages promotion,
      ¬CommitsUse surroundings input placements.promotions packages promotion) :
    CountsRealOrders placements (placements.create surroundings input).1 := by
  obtain ⟨same, bare⟩ := calculate_of_not_commitsUse refuses
  rw [create_fst, same]
  refine ⟨fun code promotion stored => ?_, fun _ => rfl⟩
  constructor
  · rintro ⟨later, found, more⟩
    have unchanged : some promotion = some later := stored.symm.trans found
    cases unchanged
    exact absurd more (lt_irrefl _)
  · rintro ⟨placed, saved, bears⟩
    have member : placed ∈ (if surroundings.saves then
        (calculateServiceRequest surroundings input true placements.promotions).2.toOption.toList
        else []) := by
      rw [List.append_cancel_left saved]
      exact List.mem_singleton_self placed
    split at member
    · cases made : (calculateServiceRequest surroundings input true placements.promotions).2 with
      | error error =>
        rw [made] at member
        cases member
      | ok calculated =>
        rw [made] at member
        cases List.mem_singleton.mp member
        rw [bare placed made] at bears
        cases bears
    · cases member

/-- With a use that is committed, orders are counted as they should be exactly if the order is
placed with the code. -/
theorem countsRealOrders_iff_of_commitsUse
    (commits : CommitsUse surroundings input placements.promotions packages promotion) :
    CountsRealOrders placements (placements.create surroundings input).1 ↔
      PlacesWithCode surroundings input packages promotion := by
  have below := Promotion.isBelowLimit_of_isValid commits.valid
  obtain ⟨promoCode, -, given⟩ := commits.found
  obtain ⟨stored, same⟩ := Promotions.find_of_findOne given
  rw [← same] at stored
  have order := complete_cases surroundings input
    (orderWith surroundings input packages promotion)
  rw [create_fst, calculate_of_commitsUse commits]
  constructor
  · intro counts
    obtain ⟨placed, saved, bears⟩ := (counts.counted promotion.code promotion stored).mp
      ((Promotions.increment_increases_iff stored stored below).mpr rfl)
    replace saved := List.append_cancel_left saved
    have saves : surroundings.saves = true := by
      by_contra refused
      rw [if_neg refused] at saved
      cases saved
    rw [if_pos saves] at saved
    obtain ⟨⟨made, completed, ordered⟩, farAhead⟩ | ⟨⟨error, fails⟩, -⟩ := order
    · rw [completed] at saved
      cases saved
      obtain ⟨-, positive⟩ := (consumerPromotionCode_orderWith ordered promotion.code).mp bears
      obtain ⟨priced, discounting, unlimited⟩ :=
        (promotion.discountedAmount_pos_iff _).mp positive
      refine ⟨fun unremarked => ?_, farAhead, saves, priced, discounting, unlimited⟩
      rw [orderWith_eq_none_iff.mpr unremarked] at ordered
      cases ordered
    · rw [fails] at saved
      cases saved
  · intro places
    obtain ⟨⟨made, completed, ordered⟩, -⟩ | ⟨-, close | missing⟩ := order
    · have positive := (promotion.discountedAmount_pos_iff _).mpr
        ⟨places.priced, places.discounting, places.unlimited⟩
      rw [if_pos places.saved, completed]
      refine ⟨fun code other known => ?_, fun unsaved => ?_⟩
      · rw [Promotions.increment_increases_iff stored known below]
        constructor
        · rintro rfl
          exact ⟨made, rfl, (consumerPromotionCode_orderWith ordered _).mpr ⟨rfl, positive⟩⟩
        · rintro ⟨placed, saved, bears⟩
          cases List.append_cancel_left saved
          exact ((consumerPromotionCode_orderWith ordered code).mp bears).1
      · exact absurd unsaved (by simp [Except.toOption])
    · exact absurd close places.farAhead
    · exact absurd (orderWith_eq_none_iff.mp missing) places.remarked

end Placements

end

/-- Placing a request counts the use of a promotion for an order that is saved with its code, and
only for such an order, exactly if a use that is committed belongs to an order with remarks that
costs something, does not start too close and is saved, and the promotion takes something off. -/
theorem countsRealOrders_iff (surroundings : Surroundings) (input : ServiceRequestInput)
    (placements : Placements) :
    CountsRealOrders placements (placements.create surroundings input).1 ↔
      ∀ packages promotion,
        CommitsUse surroundings input placements.promotions packages promotion →
          PlacesWithCode surroundings input packages promotion := by
  by_cases committed : ∃ packages promotion,
    CommitsUse surroundings input placements.promotions packages promotion
  · obtain ⟨packages, promotion, commits⟩ := committed
    rw [Placements.countsRealOrders_iff_of_commitsUse commits]
    constructor
    · intro places others other also
      obtain ⟨rfl, rfl⟩ := commits.unique also
      exact places
    · exact fun places => places packages promotion commits
  · have refuses (packages : List RequestedServicePackage) (promotion : Promotion)
        (commits : CommitsUse surroundings input placements.promotions packages promotion) :
        False := committed ⟨packages, promotion, commits⟩
    exact iff_of_true (Placements.countsRealOrders_of_not_commitsUse refuses)
      fun packages promotion commits => (refuses packages promotion commits).elim

/-- A promotion of 10 that can be used once. -/
def examplePromotion : Promotion where
  code := "save10"
  startsAt := none
  endsAt := none
  usageLimit := some 1
  usageCount := 0
  discount := ⟨.numeric, 10, none⟩
  status := .active

/-- A package of the catalogue, for 150. -/
def exampleServicePackage : ServicePackage where
  id := ⟨"s1", by decide⟩
  name := "Servicing"
  description := none
  noteToServiceProvider := none
  servicePackageGroupCode := none
  unitServiceMinutes := 60
  serviceTypesEntitlement := 1
  consumerQuotations := [⟨1, 150⟩]
  serviceProviderQuotations := []

/-- The window is two hours; everything is found and answers. -/
def exampleSurroundings : Surroundings where
  environment := ⟨2, 30, 30, 8, false, .skipped⟩
  serviceRequestOptions := ⟨6, 3, 12, 24, 120, 5, true, true, 50, 20, false⟩
  toUpperCase := id
  toLowerCase := id
  isWithinCoverage := fun _ => .ok true
  findServicePackage := fun _ => .ok (some exampleServicePackage)
  finding := ⟨0, true⟩
  validating := ⟨0, true⟩
  committing := ⟨0, true⟩
  now := 0
  id := "240101-a1b2c3d"
  verificationCode := "12345"
  saves := true

/-- An order with the promo code, for a start in one hour. -/
def exampleServiceRequestInput : ServiceRequestInput where
  requestCategory := .daikin
  expectedArrivalPeriod := ⟨3600000, 10800000, 8⟩
  customerAddress := ⟨"SELANGOR", 3, 101⟩
  customerContact := ⟨"jane@example.com", "Jane Tan", "60123456789", none⟩
  customerOrder :=
    { remarks := some none
      promoCode := some "save10"
      servicePackages := [⟨⟨"s1", by decide⟩, 1⟩] }
  externalCustomerId := none

/-- The start is too close, so nothing is saved, but the promotion is used up. -/
theorem not_countsRealOrders_close :
    ¬CountsRealOrders ⟨Table.empty.save examplePromotion, []⟩
      (Placements.create exampleSurroundings exampleServiceRequestInput
        ⟨Table.empty.save examplePromotion, []⟩).1 := by
  intro counts
  have same := congrFun (counts.unsaved (by decide +kernel)) "save10"
  revert same
  decide +kernel

end FieldService.Orders
