/-
This file settles when the input of a customer makes an order with prices.

The constructor of an order leaves all fields unset when the remarks are undefined, which is meant
for rows the persistence layer puts together itself. Remarks are optional in the input, and the
factory passes them on as they are: an input without them makes an order without packages and
totals, and the time it takes cannot be computed. Remarks that are there, null included, change
nothing about the prices.
-/

import FieldService.Orders.Placing

namespace FieldService.Orders

/-! ### Inputs -/

/-- The code is that of an active promotion that is valid, and the database answers. -/
structure IsApplicable (surroundings : Surroundings) (forCommit : Bool) (promotions : Promotions)
    (promoCode : String) : Prop where
  finding : surroundings.finding.answers = true
  committing : forCommit = true → surroundings.committing.answers = true
  promotion : ∃ promotion, promotions.findOne promoCode = some promotion ∧
    promotion.isValid surroundings.validating.now = .ok ()

/-- The packages that are asked for exist, the address has a state, and the promo code, if there is
one, can be applied. -/
structure IsOrderable (surroundings : Surroundings) (input : CustomerOrderInput)
    (location : LocationInput) (forCommit : Bool) (promotions : Promotions) : Prop where
  requestable : ∀ given ∈ input.servicePackages, 0 < given.quantity →
    trim location.state ≠ "" ∧
      ∃ servicePackage, surroundings.findServicePackage given.id = .ok (some servicePackage)
  applicable : ∀ promoCode, input.givenPromoCode = some promoCode →
    IsApplicable surroundings forCommit promotions (surroundings.toLowerCase promoCode)

/-- `totalServiceMinutes()` of what the constructor has made. Where it has not set the packages, a
property of `undefined` is read. -/
def CustomerOrder.readTotalServiceMinutes : Option CustomerOrder → Except PlacingError Int
  | none => .error .typeError
  | some customerOrder => .ok customerOrder.totalServiceMinutes

/-- The totals, the entitlement and the packages of an order are set, and its service minutes can
be computed. -/
structure IsPriced (made : Option CustomerOrder) : Prop where
  set : made.isSome = true
  computable : ∃ minutes, CustomerOrder.readTotalServiceMinutes made = .ok minutes

/-- The input makes an order with prices, and with other remarks the consumer would pay as much. -/
def YieldsPricedOrder (surroundings : Surroundings) (input : CustomerOrderInput)
    (location : LocationInput) (forCommit : Bool) (promotions : Promotions) : Prop :=
  ∃ made,
    (CustomerOrderFactory.create surroundings input location forCommit promotions).2 = .ok made ∧
      IsPriced made ∧
      ∀ remarks : Option String, ∃ other,
        (CustomerOrderFactory.create surroundings { input with remarks := some remarks } location
          forCommit promotions).2 = .ok other ∧
        other.map (·.consumerTotal) = made.map (·.consumerTotal)

/-! ### Making the order -/

theorem CustomerOrder.isPriced_iff (made : Option CustomerOrder) :
    IsPriced made ↔ made.isSome = true := by
  refine ⟨IsPriced.set, fun set => ⟨set, ?_⟩⟩
  obtain ⟨customerOrder, rfl⟩ := Option.isSome_iff_exists.mp set
  exact ⟨_, rfl⟩

section

variable {surroundings : Surroundings} {input : CustomerOrderInput} {location : LocationInput}
  {forCommit : Bool} {promotions : Promotions}

/-- A package can be made exactly if it exists and the address has a state. -/
theorem exists_requestServicePackage_iff (given : ServicePackageInput) :
    (∃ package, requestServicePackage surroundings location given = .ok package) ↔
      trim location.state ≠ "" ∧
        ∃ servicePackage,
          surroundings.findServicePackage given.id = .ok (some servicePackage) := by
  constructor
  · rintro ⟨package, requested⟩
    obtain ⟨answer, found, made⟩ := bind_eq_ok requested
    cases answer with
    | none => cases made
    | some servicePackage =>
      cases creates : RequestedServicePackage.create surroundings.toUpperCase given.quantity
          location.state (some servicePackage) with
      | error error =>
        simp only [creates, Except.mapError] at made
        cases made
      | ok created =>
        obtain ⟨stated, -⟩ := RequestedServicePackage.create_eq_ok_iff.mp creates
        exact ⟨stated, servicePackage, found⟩
  · rintro ⟨stated, servicePackage, found⟩
    obtain ⟨package, made⟩ : ∃ package, RequestedServicePackage.create surroundings.toUpperCase
        given.quantity location.state (some servicePackage) = .ok package :=
      ⟨_, RequestedServicePackage.create_eq_ok_iff.mpr ⟨stated, servicePackage, rfl, rfl⟩⟩
    refine ⟨package, ?_⟩
    simp only [requestServicePackage, found, bind, Except.bind, made, Except.mapError]

theorem exists_requestServicePackages_iff :
    (∃ packages, requestServicePackages surroundings location input = .ok packages) ↔
      ∀ given ∈ input.servicePackages, 0 < given.quantity →
        trim location.state ≠ "" ∧
          ∃ servicePackage,
            surroundings.findServicePackage given.id = .ok (some servicePackage) := by
  rw [requestServicePackages, exists_mapM_eq_ok_iff]
  simp only [exists_requestServicePackage_iff, List.mem_filter, decide_eq_true_eq, and_imp]

/-- A command for a valid promotion succeeds, whether it commits the use or not. -/
theorem ApplyPromoCodeCommand.execute_succeeds (command : ApplyPromoCodeCommand)
    {promotion : Promotion} (finding : surroundings.finding.answers = true)
    (committing : command.forCommit = true → surroundings.committing.answers = true)
    (found : promotions.findOne command.promoCode = some promotion)
    (valid : promotion.isValid surroundings.validating.now = .ok ()) :
    (command.execute surroundings promotions).2 =
      .succeeded (promotion.apply command.totalAmount) := by
  cases commits : command.forCommit with
  | false =>
    simp only [execute, proceed, finding, found, valid, commits, Bool.not_true, Bool.not_false,
      Bool.false_eq_true, if_true, if_false]
  | true => rw [execute_of_commits commits ⟨⟨finding, committing commits⟩, found, valid⟩]

/-- No other command succeeds. -/
theorem ApplyPromoCodeCommand.isApplicable_of_execute {command : ApplyPromoCodeCommand}
    {result : AppliedPromotion}
    (succeeds : (command.execute surroundings promotions).2 = .succeeded result) :
    IsApplicable surroundings command.forCommit promotions command.promoCode := by
  cases finding : surroundings.finding.answers with
  | false => simp [execute, proceed, finding] at succeeds
  | true =>
    cases found : promotions.findOne command.promoCode with
    | none => simp [execute, proceed, finding, found] at succeeds
    | some promotion =>
      cases valid : promotion.isValid surroundings.validating.now with
      | error error => simp [execute, proceed, finding, found, valid] at succeeds
      | ok passed =>
        refine ⟨finding, fun commits => ?_, promotion, found, valid⟩
        cases committing : surroundings.committing.answers with
        | false =>
          simp [execute, proceed, finding, found, valid, commits, committing] at succeeds
        | true => rfl

/-- An order is only made of an input that can be ordered. -/
theorem isOrderable_of_create {made : Option CustomerOrder}
    (created : (CustomerOrderFactory.create surroundings input location forCommit promotions).2 =
      .ok made) : IsOrderable surroundings input location forCommit promotions := by
  cases requested : requestServicePackages surroundings location input with
  | error error =>
    simp only [CustomerOrderFactory.create, requested] at created
    cases created
  | ok packages =>
    refine ⟨exists_requestServicePackages_iff.mp ⟨packages, requested⟩, fun promoCode given => ?_⟩
    simp only [CustomerOrderFactory.create, requested, given] at created
    split at created
    · rename_i result succeeds
      exact ApplyPromoCodeCommand.isApplicable_of_execute succeeds
    · cases created
    · cases created

/-- Given remarks only end up as the remarks of the order; undefined ones leave it unset. -/
theorem IsOrderable.exists_create
    (orderable : IsOrderable surroundings input location forCommit promotions) :
    ∃ packages applied, ∀ remarks,
      (CustomerOrderFactory.create surroundings { input with remarks := remarks } location
        forCommit promotions).2 =
          .ok (remarks.map fun given =>
            CustomerOrder.build surroundings.toUpperCase given packages applied) := by
  obtain ⟨packages, requested⟩ := exists_requestServicePackages_iff.mpr orderable.requestable
  have requestedAlike (remarks : Option (Option String)) :
      requestServicePackages surroundings location { input with remarks := remarks } =
        .ok packages := requested
  cases given : input.givenPromoCode with
  | none =>
    refine ⟨packages, none, fun remarks => ?_⟩
    have givenAlike : { input with remarks := remarks }.givenPromoCode = none := given
    simp only [CustomerOrderFactory.create, requestedAlike, givenAlike]
    rfl
  | some promoCode =>
    obtain ⟨finding, committing, promotion, found, valid⟩ := orderable.applicable promoCode given
    refine ⟨bundleByServicePackageGroupCodes surroundings.toUpperCase packages,
      some (promotion.apply (some (calculateConsumerTotal
        (bundleByServicePackageGroupCodes surroundings.toUpperCase
          packages)))).toApplyPromoCodeResult, fun remarks => ?_⟩
    have givenAlike : { input with remarks := remarks }.givenPromoCode = some promoCode := given
    have executed := (promoCodeCommand surroundings promoCode
      (CustomerOrder.create surroundings.toUpperCase remarks packages none)
      forCommit).execute_succeeds finding committing found valid
    simp only [CustomerOrderFactory.create, requestedAlike, givenAlike, executed]
    cases remarks <;> rfl

end

/-- An input makes an order with prices, which do not depend on the remarks, exactly if it can be
ordered and its remarks are not undefined. -/
theorem yieldsPricedOrder_iff (surroundings : Surroundings) (input : CustomerOrderInput)
    (location : LocationInput) (forCommit : Bool) (promotions : Promotions) :
    YieldsPricedOrder surroundings input location forCommit promotions ↔
      IsOrderable surroundings input location forCommit promotions ∧ input.remarks ≠ none := by
  constructor
  · rintro ⟨made, makes, priced, -⟩
    have orderable := isOrderable_of_create makes
    obtain ⟨packages, applied, created⟩ := orderable.exists_create
    refine ⟨orderable, fun unremarked => ?_⟩
    cases makes.symm.trans (created input.remarks)
    rw [CustomerOrder.isPriced_iff, unremarked] at priced
    cases priced
  · rintro ⟨orderable, remarked⟩
    obtain ⟨packages, applied, created⟩ := orderable.exists_create
    obtain ⟨remarks, remarksGiven⟩ := Option.ne_none_iff_exists'.mp remarked
    refine ⟨_, created input.remarks, ?_, fun others => ⟨_, created (some others), ?_⟩⟩
    · rw [CustomerOrder.isPriced_iff, remarksGiven]
      rfl
    · rw [remarksGiven, Option.map_some, Option.map_some, Option.map_some, Option.map_some,
        CustomerOrder.build_consumerTotal, CustomerOrder.build_consumerTotal]

/-- An order of a package, with no more than that. -/
def exampleBareInput : CustomerOrderInput where
  remarks := none
  promoCode := none
  servicePackages := exampleServiceRequestInput.customerOrder.servicePackages

/-- The package exists, but nothing is set. -/
theorem not_yieldsPricedOrder_bare :
    IsOrderable exampleSurroundings exampleBareInput exampleServiceRequestInput.customerAddress
        true Table.empty ∧
      ¬YieldsPricedOrder exampleSurroundings exampleBareInput
        exampleServiceRequestInput.customerAddress true Table.empty := by
  constructor
  · refine ⟨fun _ _ _ => ⟨by decide +kernel, exampleServicePackage, rfl⟩, fun promoCode given => ?_⟩
    cases given
  · rintro ⟨made, makes, priced, -⟩
    have unset : (CustomerOrderFactory.create exampleSurroundings exampleBareInput
        exampleServiceRequestInput.customerAddress true Table.empty).2.toOption = some none := by
      decide +kernel
    rw [makes] at unset
    cases unset
    cases priced.set

end FieldService.Orders
