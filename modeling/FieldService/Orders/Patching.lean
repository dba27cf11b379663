/-
This file shows that patching the prices of an order a second time changes nothing.

The patch revises every package with its own service package and quantity, and puts the packages
together again. The first half undoes what the second half did to the prices, and looks the state
of the provider's quotations up again. What carries the argument is that a state that has been
looked up finds its own quotation (`lowestTier_again`), when the tiers of each state are distinct
and start at one. Then a revised package that is bundled and revised again only differs from the
revised one in the quantity of its group (`revise_regrouped`), and bundling sets that again.
-/

import FieldService.Orders.Order
import FieldService.Orders.ProviderPrices

namespace FieldService.Orders

open RequestedServicePackage Thresholds

/-! ### Revising prices again -/

namespace QuotedPrices

variable {Quotation : Type} (tier : Quotation → ConsumerQuotation)
  (firstScope secondScope thirdScope : Quotation → Bool)

/-- Only the last original price counts. -/
theorem reflectOriginal_reflectOriginal (first second : QuantityInForce)
    (prices : QuotedPrices Quotation) :
    (prices.reflectOriginal tier firstScope first).reflectOriginal tier secondScope second =
      prices.reflectOriginal tier secondScope second := by
  cases known : prices.quotations with
  | none => simp [reflectOriginal, known]
  | some quotations => simp [reflectOriginal, lookUp, sort, known]

/-- Repricing in between is undone by the next repricing. -/
theorem reprice_reflectOriginal_reprice (first second third : QuantityInForce) (quantity : Int)
    (prices : QuotedPrices Quotation) :
    ((prices.reprice tier firstScope first quantity).reflectOriginal tier secondScope
        second).reprice tier thirdScope third quantity =
      (prices.reflectOriginal tier secondScope second).reprice tier thirdScope third quantity := by
  cases known : prices.quotations with
  | none => simp [reprice, reflectDiscounted, reflectOriginal, calculateTotals, known]
  | some quotations =>
    simp [reprice, reflectDiscounted, reflectOriginal, calculateTotals, lookUp, sort, known]

theorem lookUp_reflectOriginal (first second : QuantityInForce) (prices : QuotedPrices Quotation) :
    (prices.reflectOriginal tier firstScope first).lookUp tier secondScope second =
      prices.lookUp tier secondScope second := by
  cases known : prices.quotations with
  | none => simp [reflectOriginal, lookUp, known]
  | some quotations => simp [reflectOriginal, lookUp, sort, known]

theorem lookUp_reprice (first second : QuantityInForce) (quantity : Int)
    (prices : QuotedPrices Quotation) :
    (prices.reprice tier firstScope first quantity).lookUp tier secondScope second =
      prices.lookUp tier secondScope second := by
  cases known : prices.quotations with
  | none => simp [reprice, reflectDiscounted, calculateTotals, lookUp, known]
  | some quotations => simp [reprice, reflectDiscounted, calculateTotals, lookUp, sort, known]

theorem isNone_reflectOriginal (inForce : QuantityInForce) (prices : QuotedPrices Quotation) :
    (prices.reflectOriginal tier firstScope inForce).quotations.isNone =
      prices.quotations.isNone := by
  cases known : prices.quotations <;> simp [reflectOriginal, sort, known]

theorem isNone_reprice (inForce : QuantityInForce) (quantity : Int)
    (prices : QuotedPrices Quotation) :
    (prices.reprice tier firstScope inForce quantity).quotations.isNone =
      prices.quotations.isNone := by
  cases known : prices.quotations <;>
    simp [reprice, reflectDiscounted, calculateTotals, sort, known]

/-- Prices that have been revised, and repriced since, are the same when they are revised again
and find the same quotation. -/
theorem revise_again {firstScope secondScope : Quotation → Bool}
    {prices : QuotedPrices Quotation} {one : QuantityInForce}
    (same : prices.lookUp tier secondScope one = prices.lookUp tier firstScope one)
    (thirdScope : Quotation → Bool) (own inForce : QuantityInForce) (quantity : Int) :
    ((((prices.reflectOriginal tier firstScope one).reprice tier secondScope own quantity).reprice
        tier thirdScope inForce quantity).reflectOriginal tier secondScope one).reprice tier
          secondScope own quantity =
      (prices.reflectOriginal tier firstScope one).reprice tier secondScope own quantity := by
  rw [reprice_reflectOriginal_reprice, reprice_reflectOriginal_reprice,
    reflectOriginal_reflectOriginal]
  simp only [reflectOriginal, same]

end QuotedPrices

/-! ### Tiers of states -/

variable {toUpperCase : String → String}

/-- Within each state the quantities are distinct, and at least one. A missing state counts as
the empty one, as it is stored. -/
structure WellTiered (toUpperCase : String → String) (quotations : List ServiceProviderQuotation) :
    Prop where
  distinct : ∀ first ∈ quotations, ∀ second ∈ quotations,
    toUpperCase (trim (first.state.getD "")) = toUpperCase (trim (second.state.getD "")) →
      first.minQuantity = second.minQuantity → first = second
  atLeastOne : ∀ quotation ∈ quotations, 1 ≤ quotation.minQuantity

theorem state_of_isForState {state : String} {quotation : ServiceProviderQuotation}
    (isFor : isForState toUpperCase state quotation = true) :
    toUpperCase (trim (quotation.state.getD "")) = toUpperCase (trim state) := by
  unfold isForState at isFor
  cases stated : quotation.state with
  | none => simp [stated] at isFor
  | some own => simpa [stated] using isFor

/-- The quotation for one unit is found again under its own state. -/
theorem lowestTier_again {quotations : List ServiceProviderQuotation}
    (tiered : WellTiered toUpperCase quotations) (state : String) :
    let found := lowestTier (·.toConsumerQuotation) (isForState toUpperCase state) (.number 1)
      (sortByQuantity (·.toConsumerQuotation) quotations)
    lowestTier (·.toConsumerQuotation)
        (isForState toUpperCase ((found.bind (·.state)).getD "")) (.number 1)
        (sortByQuantity (·.toConsumerQuotation) quotations) = found := by
  intro found
  by_cases reached : ∃ quotation ∈ quotations,
      Reaches (·.toConsumerQuotation) (isForState toUpperCase state) (.number 1) quotation
  · obtain ⟨selected, search, highest⟩ := lowestTier_of_reached reached
    have isFound : found = some selected := search
    rw [isFound, Option.bind_some, isForState_state highest.isReached.1, search]
  · have missed : ∀ quotation ∈ quotations,
        ¬Reaches (·.toConsumerQuotation) (isForState toUpperCase state) (.number 1) quotation :=
      fun quotation member isReached => reached ⟨quotation, member, isReached⟩
    have isHead : found = (sortByQuantity (·.toConsumerQuotation) quotations).head? :=
      lowestTier_of_not_reached missed
    by_cases again : ∃ quotation ∈ quotations,
        Reaches (·.toConsumerQuotation)
          (isForState toUpperCase ((found.bind (·.state)).getD "")) (.number 1) quotation
    · obtain ⟨selected, search, highest⟩ := lowestTier_of_reached again
      rw [search]
      obtain ⟨isFor, isReached⟩ := highest.isReached
      have atMostOne : selected.minQuantity ≤ 1 := of_decide_eq_true isReached
      cases first : found with
      | none =>
        have empty := List.head?_eq_none_iff.mp (isHead.symm.trans first)
        have member : selected ∈ sortByQuantity (·.toConsumerQuotation) quotations :=
          mem_sortByQuantity.mpr highest.member
        rw [empty] at member
        cases member
      | some lowest =>
        obtain ⟨member, bound⟩ := lowest_of_head_sortByQuantity (isHead.symm.trans first)
        have atLeastOne := tiered.atLeastOne lowest member
        have below := bound selected highest.member
        rw [first, Option.bind_some] at isFor
        refine congrArg some (tiered.distinct selected highest.member lowest member
          (state_of_isForState isFor) ?_)
        exact le_antisymm (atMostOne.trans atLeastOne) below
    · rw [lowestTier_of_not_reached fun quotation member isReached =>
        again ⟨quotation, member, isReached⟩, isHead]

/-! ### Revised packages -/

namespace RequestedServicePackage

variable (toUpperCase)

/-- A revision sets all derived fields from the quotations of the package. -/
theorem reviseFromNewQuotations_eq (package : RequestedServicePackage)
    (servicePackage : ServicePackage) (quantity : Int) :
    package.reviseFromNewQuotations toUpperCase servicePackage quantity =
      { servicePackage := servicePackage
        name := servicePackage.name
        description := servicePackage.description
        noteToServiceProvider := servicePackage.noteToServiceProvider
        servicePackageGroupCode := servicePackage.servicePackageGroupCode
        servicePackageGroupQuantity := package.servicePackageGroupQuantity
        consumerQuotation :=
          (package.consumerQuotation.reflectOriginal id (fun _ => true) (.number 1)).reprice id
            (fun _ => true) (.number quantity) quantity
        serviceProviderQuotation :=
          (package.serviceProviderQuotation.reflectOriginal (·.toConsumerQuotation)
            (isForState toUpperCase package.serviceProviderQuotationState) (.number 1)).reprice
              (·.toConsumerQuotation) (isForState toUpperCase (package.revisedState toUpperCase))
              (.number quantity) quantity
        serviceProviderQuotationState := package.revisedState toUpperCase
        quantity := quantity
        serviceTypesEntitlement := servicePackage.serviceTypesEntitlement
        technicalReport :=
          if (package.technicalReport.numOfNotes : Int) ≠ quantity then .generate quantity
          else package.technicalReport
        unitServiceMinutes := servicePackage.unitServiceMinutes
        totalServiceMinutes := quantity * servicePackage.unitServiceMinutes } := by
  rw [reviseFromNewQuotations, changeServicePackage_eq, changeQuantity_eq]

/-- What the patch does with a package. -/
def revise (package : RequestedServicePackage) : RequestedServicePackage :=
  package.reviseFromNewQuotations toUpperCase package.servicePackage package.quantity

/-- The provider's quotations of the package, if it has any, are tiered well. -/
def Tiered (package : RequestedServicePackage) : Prop :=
  ∀ quotations, package.serviceProviderQuotation.quotations = some quotations →
    WellTiered toUpperCase quotations

variable {toUpperCase} {package : RequestedServicePackage}

/-- A package that is revised has a state that finds the same quotation. -/
theorem lookUp_revisedState (tiered : package.Tiered toUpperCase) :
    package.serviceProviderQuotation.lookUp (·.toConsumerQuotation)
        (isForState toUpperCase (package.revisedState toUpperCase)) (.number 1) =
      package.serviceProviderQuotation.lookUp (·.toConsumerQuotation)
        (isForState toUpperCase package.serviceProviderQuotationState) (.number 1) := by
  cases known : package.serviceProviderQuotation.quotations with
  | none => simp only [QuotedPrices.lookUp, known, Option.bind_none]
  | some quotations =>
    have again := lowestTier_again (tiered quotations known) package.serviceProviderQuotationState
    simpa [QuotedPrices.lookUp, revisedState, known] using again

/-- A package with the quotations of one that has been revised, and its state, keeps the state. -/
theorem revisedState_again (tiered : package.Tiered toUpperCase) {other : RequestedServicePackage}
    (sameNone : other.serviceProviderQuotation.quotations.isNone =
      package.serviceProviderQuotation.quotations.isNone)
    (sameLookUp : ∀ inScope,
      other.serviceProviderQuotation.lookUp (·.toConsumerQuotation) inScope (.number 1) =
        package.serviceProviderQuotation.lookUp (·.toConsumerQuotation) inScope (.number 1))
    (stored : other.serviceProviderQuotationState = package.revisedState toUpperCase) :
    other.revisedState toUpperCase = package.revisedState toUpperCase := by
  rw [revisedState, sameNone, sameLookUp, stored, lookUp_revisedState tiered]
  by_cases missing : package.serviceProviderQuotation.quotations.isNone
  · rw [if_pos missing]
  · rw [if_neg missing, revisedState, if_neg missing]

section Revised

variable {servicePackage : ServicePackage} {quantity : Int} {revised : RequestedServicePackage}
  (made : package.reviseFromNewQuotations toUpperCase servicePackage quantity = revised)

include made

/-- A revised package that is repriced for a quantity in force is revised into itself. -/
theorem revise_regrouped (tiered : package.Tiered toUpperCase)
    (groupQuantity : Option QuantityInForce) (inForce : QuantityInForce) :
    ({ revised with servicePackageGroupQuantity := groupQuantity }.reprice toUpperCase
        inForce).revise toUpperCase =
      { revised with servicePackageGroupQuantity := groupQuantity } := by
  subst made
  have state : ({ package.reviseFromNewQuotations toUpperCase servicePackage quantity with
        servicePackageGroupQuantity := groupQuantity }.reprice toUpperCase
      inForce).revisedState toUpperCase = package.revisedState toUpperCase := by
    refine revisedState_again tiered ?_ (fun inScope => ?_) ?_
    · simp only [reprice_eq, reviseFromNewQuotations_eq, QuotedPrices.isNone_reprice,
        QuotedPrices.isNone_reflectOriginal]
    · simp only [reprice_eq, reviseFromNewQuotations_eq, QuotedPrices.lookUp_reprice,
        QuotedPrices.lookUp_reflectOriginal]
    · simp only [reprice_eq, reviseFromNewQuotations_eq]
  have consumer := QuotedPrices.revise_again id
    (Eq.refl (package.consumerQuotation.lookUp id (fun _ => true) (.number 1))) (fun _ => true)
    (.number quantity) inForce quantity
  have serviceProvider := QuotedPrices.revise_again (·.toConsumerQuotation)
    (lookUp_revisedState tiered) (isForState toUpperCase (package.revisedState toUpperCase))
    (.number quantity) inForce quantity
  rw [revise, reviseFromNewQuotations_eq, state]
  simp only [reprice_eq, reviseFromNewQuotations_eq, consumer, serviceProvider]
  split <;> simp

/-- Repricing a revised package for its own quantity changes nothing. -/
theorem reprice_revised (groupQuantity : Option QuantityInForce) :
    { revised with servicePackageGroupQuantity := groupQuantity }.reprice toUpperCase
        (.number quantity) =
      { revised with servicePackageGroupQuantity := groupQuantity } := by
  subst made
  simp only [reprice_eq, reviseFromNewQuotations_eq, QuotedPrices.reprice_twice]

/-- A revised package that is bundled and revised again is the revised one, but for its group. -/
theorem revise_bundled (tiered : package.Tiered toUpperCase) (groups : GroupQuantities) :
    ∃ groupQuantity,
      (revised.changeServicePackageGroupQuantity toUpperCase groups).revise toUpperCase =
        { revised with servicePackageGroupQuantity := groupQuantity } := by
  by_cases kept : revised.servicePackageGroupCode.getD "" = "" ∨
      groups.read (revised.servicePackageGroupCode.getD "") = .number 0
  · refine ⟨some (.number 0), ?_⟩
    simp only [changeServicePackageGroupQuantity, if_pos kept]
    have again := revise_regrouped made tiered (some (.number 0)) (.number quantity)
    rw [reprice_revised made] at again
    exact again
  · simp only [changeServicePackageGroupQuantity, if_neg kept]
    exact ⟨_, revise_regrouped made tiered _ _⟩

end Revised

/-- The quantity that is set for the group does not depend on the one before. -/
theorem changeServicePackageGroupQuantity_regrouped (package : RequestedServicePackage)
    (groupQuantity : Option QuantityInForce) (groups : GroupQuantities) :
    { package with servicePackageGroupQuantity := groupQuantity }.changeServicePackageGroupQuantity
        toUpperCase groups =
      package.changeServicePackageGroupQuantity toUpperCase groups := rfl

end RequestedServicePackage

/-! ### Patching an order -/

/-- The package has been revised from quotations that are tiered well. -/
def IsRevised (toUpperCase : String → String) (revised : RequestedServicePackage) : Prop :=
  ∃ (package : RequestedServicePackage) (servicePackage : ServicePackage) (quantity : Int),
    package.Tiered toUpperCase ∧
      package.reviseFromNewQuotations toUpperCase servicePackage quantity = revised

/-- Revised packages that are bundled, revised again and bundled again are as they were when they
were bundled first. -/
theorem bundle_revise_bundle {packages : List RequestedServicePackage}
    (revised : ∀ package ∈ packages, IsRevised toUpperCase package) :
    bundleByServicePackageGroupCodes toUpperCase
        ((bundleByServicePackageGroupCodes toUpperCase packages).map (·.revise toUpperCase)) =
      bundleByServicePackageGroupCodes toUpperCase packages := by
  have again : ∀ package ∈ packages, ∃ groupQuantity,
      (package.changeServicePackageGroupQuantity toUpperCase
          (groupQuantities packages)).revise toUpperCase =
        { package with servicePackageGroupQuantity := groupQuantity } := by
    intro package member
    obtain ⟨before, servicePackage, quantity, tiered, made⟩ := revised package member
    exact revise_bundled made tiered (groupQuantities packages)
  have sums : groupQuantities
      ((bundleByServicePackageGroupCodes toUpperCase packages).map (·.revise toUpperCase)) =
        groupQuantities packages := by
    rw [bundleByServicePackageGroupCodes, List.map_map]
    refine groupQuantities_map_of_same fun package member => ?_
    obtain ⟨groupQuantity, same⟩ := again package member
    rw [Function.comp_apply, same]
    exact ⟨rfl, rfl⟩
  rw [bundleByServicePackageGroupCodes, sums, bundleByServicePackageGroupCodes, List.map_map,
    List.map_map]
  refine List.map_congr_left fun package member => ?_
  obtain ⟨groupQuantity, same⟩ := again package member
  rw [Function.comp_apply, Function.comp_apply, same, changeServicePackageGroupQuantity_regrouped]

/-- The patch of an order: every package is revised with its own service package and quantity, and
the order is rebuilt from them. -/
def CustomerOrder.patchPricing (toUpperCase : String → String) (order : CustomerOrder)
    (packages : List RequestedServicePackage) : CustomerOrder :=
  order.reviseRequestedServicePackages toUpperCase (packages.map (·.revise toUpperCase))

/-- An order that has been built from revised packages is patched into itself. -/
theorem CustomerOrder.patchPricing_build (remarks : Option String)
    {packages : List RequestedServicePackage} (appliedPromotion : Option ApplyPromoCodeResult)
    (revised : ∀ package ∈ packages, IsRevised toUpperCase package) :
    let order := build toUpperCase remarks packages appliedPromotion
    order.patchPricing toUpperCase order.servicePackages = order := by
  intro order
  rw [patchPricing, revise_build, build_servicePackages, build_eq, bundle_revise_bundle revised,
    ← build_eq]

/-- Patching an order twice is patching it once, and an order that has just been made is patched
into itself, when the quantities of the tiers are distinct in each state and at least one. -/
theorem patchPricing_fixed (toUpperCase : String → String) :
    (∀ (order : CustomerOrder) (packages : List RequestedServicePackage),
      (∀ package ∈ packages, package.Tiered toUpperCase) →
        let patched := order.patchPricing toUpperCase packages
        patched.patchPricing toUpperCase patched.servicePackages = patched) ∧
    ∀ (remarks : Option String) (packages : List RequestedServicePackage)
      (appliedPromotion : Option ApplyPromoCodeResult) (order : CustomerOrder),
      (∀ package ∈ packages, ∃ (quantity : Int) (state : String) (servicePackage : ServicePackage),
        WellTiered toUpperCase servicePackage.serviceProviderQuotations ∧
          create toUpperCase quantity state (some servicePackage) = .ok package) →
      CustomerOrder.create toUpperCase (some remarks) packages appliedPromotion = some order →
        order.patchPricing toUpperCase order.servicePackages = order := by
  constructor
  · intro order packages tiered
    refine CustomerOrder.patchPricing_build _ _ fun revised member => ?_
    obtain ⟨package, member, made⟩ := List.mem_map.mp member
    exact ⟨package, package.servicePackage, package.quantity, tiered package member, made⟩
  · intro remarks packages appliedPromotion order made created
    obtain rfl := Option.some.inj created
    refine CustomerOrder.patchPricing_build _ _ fun revised member => ?_
    obtain ⟨quantity, state, servicePackage, tiered, ordered⟩ := made revised member
    obtain ⟨-, given, same, priced⟩ := create_eq_ok_iff.mp ordered
    obtain rfl := Option.some.inj same
    refine ⟨unpriced state servicePackage, servicePackage, quantity, ?_, priced⟩
    intro quotations known
    exact Option.some.inj known ▸ tiered

/-- Two units in Kuala Lumpur, whose first tier is that of another state. -/
def exampleElsewhere : RequestedServicePackage :=
  (unpriced "KUALA LUMPUR" exampleTiersElsewhere).reviseFromNewQuotations id
    exampleTiersElsewhere 2

theorem patchPricing_fixed_elsewhere :
    let order := CustomerOrder.build id none [exampleElsewhere, exampleElsewhere] none
    order.patchPricing id order.servicePackages = order := by
  have tiered : WellTiered id exampleTiersElsewhere.serviceProviderQuotations :=
    ⟨by decide +kernel, by decide⟩
  have stated : trim "KUALA LUMPUR" ≠ "" := by decide +kernel
  refine (patchPricing_fixed id).2 none [exampleElsewhere, exampleElsewhere] none _
    (fun package member => ?_) rfl
  have same : exampleElsewhere = package := by
    obtain rfl | other := List.mem_cons.mp member
    · rfl
    · exact (List.mem_singleton.mp other).symm
  exact ⟨2, "KUALA LUMPUR", exampleTiersElsewhere, tiered,
    create_eq_ok_iff.mpr ⟨stated, _, rfl, same⟩⟩

end FieldService.Orders
