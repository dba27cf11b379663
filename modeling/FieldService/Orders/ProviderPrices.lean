/-
This file says when the provider's price of a package is that of the customer's state.

A package looks its provider's tiers up by a state of its own. It starts with the state of the
customer, but is made by looking up the tier for one unit and taking over the state of what is
found. When the customer's state has tiers, but none for one unit, that is the first tier of any
state, and the prices are looked up in that state from then on. `KeepsState` leaves this case out,
and `followsState_throughout` says that it is enough: once the state is kept, the price is the
price of the highest tier that is reached after every change of the quantity in force.
-/

import FieldService.Orders.Tiers
import FieldService.Library.Execution

namespace FieldService.Orders

open Execution Thresholds RequestedServicePackage

/-! ### The quantity in force -/

/-- What changes the quantity in force. -/
inductive QuantityChange where
  | changeQuantity (quantity : Int)
  | changeServicePackageGroupQuantity (groups : GroupQuantities)

def RequestedServicePackage.change (toUpperCase : String → String)
    (package : RequestedServicePackage) : QuantityChange → RequestedServicePackage
  | .changeQuantity quantity => package.changeQuantity toUpperCase quantity
  | .changeServicePackageGroupQuantity groups =>
    package.changeServicePackageGroupQuantity toUpperCase groups

/-- The group only counts for a package that has a code, and whose group does not come to zero. -/
def inForceAfter (package : RequestedServicePackage) (inForce : QuantityInForce) :
    QuantityChange → QuantityInForce
  | .changeQuantity quantity => .number quantity
  | .changeServicePackageGroupQuantity groups =>
    let code := package.servicePackageGroupCode.getD ""
    if code = "" ∨ groups.read code = .number 0 then inForce else (groups.read code).atLeastZero

/-- A package together with the quantity in force. -/
abbrev Watched := RequestedServicePackage × QuantityInForce

section

variable {toUpperCase : String → String}

/-! ### The state of a quotation -/

/-- The state of a quotation that is for a state has the same quotations. -/
theorem isForState_state {state : String} {quotation : ServiceProviderQuotation}
    (isFor : isForState toUpperCase state quotation = true) :
    isForState toUpperCase (quotation.state.getD "") = isForState toUpperCase state := by
  funext other
  unfold isForState at isFor ⊢
  cases stated : quotation.state with
  | none => simp [stated] at isFor
  | some own =>
    have same : toUpperCase (trim own) = toUpperCase (trim state) := by simpa [stated] using isFor
    rw [Option.getD_some, same]

variable (toUpperCase) in
/-- The state has a tier for one unit, or else the first of all tiers, or no tiers. -/
def KeepsState (quotations : List ServiceProviderQuotation) (state : String) : Prop :=
  (∃ quotation ∈ quotations,
    Reaches (·.toConsumerQuotation) (isForState toUpperCase state) (.number 1) quotation) ∨
  (∃ first, (sortByQuantity (·.toConsumerQuotation) quotations).head? = some first ∧
    isForState toUpperCase state first = true) ∨
  ∀ quotation ∈ quotations, isForState toUpperCase state quotation = false

theorem revisedState_unpriced (state : String) (servicePackage : ServicePackage) :
    (unpriced state servicePackage).revisedState toUpperCase =
      ((lowestTier (·.toConsumerQuotation) (isForState toUpperCase state) (.number 1)
        (sortByQuantity (·.toConsumerQuotation)
          servicePackage.serviceProviderQuotations)).bind (·.state)).getD "" := rfl

/-- When the state is kept, the package has the quotations of the customer's state, if there are
any. -/
theorem isForState_revisedState {state : String} {servicePackage : ServicePackage}
    (keeps : KeepsState toUpperCase servicePackage.serviceProviderQuotations state) :
    isForState toUpperCase ((unpriced state servicePackage).revisedState toUpperCase) =
        isForState toUpperCase state ∨
      ∀ quotation ∈ servicePackage.serviceProviderQuotations,
        isForState toUpperCase state quotation = false := by
  rw [revisedState_unpriced]
  obtain reached | ⟨first, head, isFor⟩ | without := keeps
  · obtain ⟨selected, search, highest⟩ := lowestTier_of_reached reached
    rw [search]
    exact .inl (isForState_state highest.isReached.1)
  · by_cases reached : ∃ quotation ∈ servicePackage.serviceProviderQuotations,
        Reaches (·.toConsumerQuotation) (isForState toUpperCase state) (.number 1) quotation
    · obtain ⟨selected, search, highest⟩ := lowestTier_of_reached reached
      rw [search]
      exact .inl (isForState_state highest.isReached.1)
    · have missed : ∀ quotation ∈ servicePackage.serviceProviderQuotations,
          ¬Reaches (·.toConsumerQuotation) (isForState toUpperCase state) (.number 1) quotation :=
        fun quotation member isReached => reached ⟨quotation, member, isReached⟩
      rw [lowestTier_of_not_reached missed, head]
      exact .inl (isForState_state isFor)
  · exact .inr without

/-! ### Prices of the stored state -/

/-- The price is the one that is selected from the stored quotations and in the stored state. -/
structure PricedFrom (toUpperCase : String → String)
    (serviceProviderQuotations : List ServiceProviderQuotation)
    (inScope : ServiceProviderQuotation → Bool) (watched : Watched) : Prop where
  quotations : watched.1.serviceProviderQuotation.quotations =
    some (sortByQuantity (·.toConsumerQuotation) serviceProviderQuotations)
  state : isForState toUpperCase watched.1.serviceProviderQuotationState = inScope
  price : watched.1.serviceProviderQuotation.discountedUnitPrice =
    selectedPrice (·.toConsumerQuotation) inScope watched.2 serviceProviderQuotations

section Pricing

variable {serviceProviderQuotations : List ServiceProviderQuotation}
  {inScope : ServiceProviderQuotation → Bool} {package : RequestedServicePackage}
  {inForce : QuantityInForce}

/-- Repricing looks the price up again. -/
theorem pricedFrom_reprice
    (known : package.serviceProviderQuotation.quotations =
      some (sortByQuantity (·.toConsumerQuotation) serviceProviderQuotations))
    (stored : isForState toUpperCase package.serviceProviderQuotationState = inScope) :
    PricedFrom toUpperCase serviceProviderQuotations inScope
      (package.reprice toUpperCase inForce, inForce) := by
  subst stored
  refine ⟨?_, rfl, ?_⟩
  · exact (QuotedPrices.quotations_reprice known package.quantity).trans
      (congrArg some (sortByQuantity_twice _ _))
  · exact (QuotedPrices.discountedUnitPrice_reprice known package.quantity).trans
      selectedPrice_sortByQuantity

/-- A change of the quantity in force looks the price up again, or changes neither. -/
theorem PricedFrom.step {watched : Watched}
    (priced : PricedFrom toUpperCase serviceProviderQuotations inScope watched)
    (change : QuantityChange) :
    PricedFrom toUpperCase serviceProviderQuotations inScope
      (observed (RequestedServicePackage.change toUpperCase) inForceAfter watched change) := by
  obtain ⟨package, inForce⟩ := watched
  cases change with
  | changeQuantity quantity => exact pricedFrom_reprice priced.quotations priced.state
  | changeServicePackageGroupQuantity groups =>
    simp only [observed, RequestedServicePackage.change, changeServicePackageGroupQuantity,
      inForceAfter]
    split
    · exact ⟨priced.quotations, priced.state, priced.price⟩
    · exact pricedFrom_reprice priced.quotations priced.state

variable (toUpperCase) in
/-- A package is made with the price of the state it takes over. -/
theorem pricedFrom_unpriced (state : String) (servicePackage : ServicePackage) (quantity : Int) :
    PricedFrom toUpperCase servicePackage.serviceProviderQuotations
      (isForState toUpperCase ((unpriced state servicePackage).revisedState toUpperCase))
      ((unpriced state servicePackage).reviseFromNewQuotations toUpperCase servicePackage quantity,
        .number quantity) := by
  rw [reviseFromNewQuotations, changeServicePackage_eq]
  refine pricedFrom_reprice ?_ rfl
  exact QuotedPrices.quotations_reflectOriginal rfl

end Pricing

/-! ### Following the customer's state -/

variable (toUpperCase) in
/-- If a tier of the state is reached, the price is that of the highest one. -/
def FollowsState (quotations : List ServiceProviderQuotation) (state : String)
    (watched : Watched) : Prop :=
  (∃ quotation ∈ quotations,
    Reaches (·.toConsumerQuotation) (isForState toUpperCase state) watched.2 quotation) →
  ∃ highest, Highest (·.minQuantity)
      (Reaches (·.toConsumerQuotation) (isForState toUpperCase state) watched.2) quotations
      highest ∧
    watched.1.serviceProviderQuotation.discountedUnitPrice = highest.unitPrice

theorem PricedFrom.followsState {quotations : List ServiceProviderQuotation} {state : String}
    {watched : Watched}
    (priced : PricedFrom toUpperCase quotations (isForState toUpperCase state) watched) :
    FollowsState toUpperCase quotations state watched := by
  intro reached
  obtain ⟨highest, isHighest, price⟩ := selectedPrice_of_reached reached
  exact ⟨highest, isHighest, priced.price.trans price⟩

end

/-- From the making of a package on, and after every change of the quantity in force, the
provider's price follows the state of the customer, when that state is kept. -/
theorem followsState_throughout (toUpperCase : String → String) (quantity : Int) (state : String)
    (servicePackage : ServicePackage) (package : RequestedServicePackage)
    (created : create toUpperCase quantity state (some servicePackage) = .ok package)
    (keeps : KeepsState toUpperCase servicePackage.serviceProviderQuotations state)
    (changes : List QuantityChange) :
    Throughout (observed (change toUpperCase) inForceAfter)
      (FollowsState toUpperCase servicePackage.serviceProviderQuotations state)
      (package, .number quantity) changes := by
  obtain ⟨-, given, same, rfl⟩ := create_eq_ok_iff.mp created
  cases same
  obtain sameState | without := isForState_revisedState keeps
  · have start := pricedFrom_unpriced toUpperCase state servicePackage quantity
    rw [sameState] at start
    exact throughout_of_preserved _ _ _ (fun watched change priced => priced.step change)
      (fun watched priced => priced.followsState) _ changes start
  · rintro earlier - ⟨quotation, member, isFor, -⟩
    rw [without quotation member] at isFor
    cases isFor

/-- A package with tiers from one and from three units on. -/
def exampleTiersFromOne : ServicePackage :=
  exampleTieredPackage [] [⟨⟨3, 80⟩, some "SELANGOR"⟩, ⟨⟨1, 100⟩, some "SELANGOR"⟩]

theorem followsState_throughout_three :
    let ordered := (unpriced " SELANGOR" exampleTiersFromOne).reviseFromNewQuotations id
      exampleTiersFromOne 1
    Throughout (observed (change id) inForceAfter)
      (FollowsState id exampleTiersFromOne.serviceProviderQuotations " SELANGOR")
      (ordered, .number 1) [.changeQuantity 3] := by
  intro ordered
  have stated : trim " SELANGOR" ≠ "" := by decide +kernel
  have created := create_eq_ok_iff.mpr ⟨stated, _, rfl, Eq.refl ordered⟩
  refine followsState_throughout id 1 " SELANGOR" exampleTiersFromOne ordered created (.inl ?_)
    [.changeQuantity 3]
  exact ⟨⟨⟨1, 100⟩, some "SELANGOR"⟩, by decide +kernel, by decide +kernel, by decide +kernel⟩

/-- A package with a tier for one unit in one state only. -/
def exampleTiersElsewhere : ServicePackage :=
  exampleTieredPackage [] [⟨⟨2, 180⟩, some "KUALA LUMPUR"⟩, ⟨⟨1, 100⟩, some "SELANGOR"⟩]

/-- Two units in Kuala Lumpur reach its tier, but are priced as in Selangor. -/
theorem not_followsState_elsewhere :
    ∃ package, create id 2 "KUALA LUMPUR" (some exampleTiersElsewhere) = .ok package ∧
      ¬FollowsState id exampleTiersElsewhere.serviceProviderQuotations "KUALA LUMPUR"
        (package, .number 2) := by
  have stated : trim "KUALA LUMPUR" ≠ "" := by decide +kernel
  refine ⟨_, create_eq_ok_iff.mpr ⟨stated, _, rfl, rfl⟩, fun follows => ?_⟩
  have reached : Reaches (·.toConsumerQuotation) (isForState id "KUALA LUMPUR") (.number 2)
      ⟨⟨2, 180⟩, some "KUALA LUMPUR"⟩ := ⟨by decide +kernel, by decide +kernel⟩
  obtain ⟨highest, isHighest, price⟩ := follows ⟨_, List.mem_cons_self, reached⟩
  have priced := (pricedFrom_unpriced id "KUALA LUMPUR" exampleTiersElsewhere 2).price.symm.trans
    price
  obtain rfl | other := List.mem_cons.mp isHighest.member
  · revert priced
    decide +kernel
  · cases List.mem_singleton.mp other
    exact absurd isHighest.isReached.1 (by decide +kernel)

end FieldService.Orders
