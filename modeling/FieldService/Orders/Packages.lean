/-
This file models the packages a customer orders, and how they are priced.

A package takes a copy of the quotations of its service package. Each side of it, the
consumer's and the provider's, has a unit price, the discounted unit price of the tier that
the quantity in force reaches, and the totals of both. The quantity in force is that of the
package alone, or that of all packages of its group once they have been put together in an order.
A package made before quotations were copied has none and keeps its prices.

The upper-case form of a text is the one thing a package takes from outside, so it is a parameter.
-/

import Mathlib.Data.List.Sort
import FieldService.Shared

namespace FieldService.Orders

/-! ### Texts and flags -/

/-- The characters `trim` takes off. -/
def isWhitespace (character : Char) : Bool :=
  ['\u0009', '\u000a', '\u000b', '\u000c', '\u000d', '\u0020', '\u00a0', '\u1680', '\u2000',
    '\u2001', '\u2002', '\u2003', '\u2004', '\u2005', '\u2006', '\u2007', '\u2008', '\u2009',
    '\u200a', '\u2028', '\u2029', '\u202f', '\u205f', '\u3000', '\ufeff'].contains character

def trim (text : String) : String :=
  String.ofList ((text.toList.dropWhile isWhitespace).reverse.dropWhile isWhitespace).reverse

/-- `|` on numbers, which works on 32 bits and gives a signed result. -/
def bitwiseOr (first second : Int) : Int :=
  (BitVec.ofInt 32 first ||| BitVec.ofInt 32 second).toInt

/-! ### Quotations -/

/-- What a unit costs from a quantity on. -/
structure ConsumerQuotation where
  minQuantity : Int
  unitPrice : Money
  deriving DecidableEq, Repr

/-- A quotation for one state of the country. -/
structure ServiceProviderQuotation extends ConsumerQuotation where
  state : Option String
  deriving DecidableEq, Repr

/-- A quantity a tier is looked up for. It need not be a number: what an object has under the name
of a built-in property is a function or an object. -/
inductive QuantityInForce where
  | number (quantity : Int)
  | notANumber
  deriving DecidableEq, Repr

/-- `quantity >= tier.minQuantity`. -/
def QuantityInForce.reaches (tier : ConsumerQuotation) : QuantityInForce → Bool
  | .number quantity => tier.minQuantity ≤ quantity
  | .notANumber => false

section Tiers

variable {Quotation : Type} (tier : Quotation → ConsumerQuotation) (inScope : Quotation → Bool)

/-- The quotations by their quantities. The sorting is stable. -/
def sortByQuantity (quotations : List Quotation) : List Quotation :=
  quotations.insertionSort fun first second =>
    (tier first).minQuantity ≤ (tier second).minQuantity

/-- The last of the sorted quotations in scope that the quantity reaches, or else the first of
all. -/
def lowestTier (quantity : QuantityInForce) (sorted : List Quotation) : Option Quotation :=
  (sorted.filter inScope).reverse.find? (fun quotation => quantity.reaches (tier quotation)) <|>
    sorted.head?

theorem sortByQuantity_sorted (quotations : List Quotation) :
    (sortByQuantity tier quotations).Pairwise fun first second =>
      (tier first).minQuantity ≤ (tier second).minQuantity :=
  haveI : Std.Total fun first second : Quotation =>
      (tier first).minQuantity ≤ (tier second).minQuantity :=
    ⟨fun first second => le_total (tier first).minQuantity (tier second).minQuantity⟩
  haveI : IsTrans Quotation fun first second =>
      (tier first).minQuantity ≤ (tier second).minQuantity :=
    ⟨fun _ _ _ => le_trans⟩
  List.pairwise_insertionSort _ quotations

@[simp]
theorem sortByQuantity_twice (quotations : List Quotation) :
    sortByQuantity tier (sortByQuantity tier quotations) = sortByQuantity tier quotations :=
  (sortByQuantity_sorted tier quotations).insertionSort_eq

end Tiers

/-! ### Prices -/

/-- The prices of one side of a package, with the quotations they come from. The discount is only
ever set together with the two totals it is the difference of. -/
structure QuotedPrices (Quotation : Type) where
  quotations : Option (List Quotation)
  unitPrice : Money
  discountedUnitPrice : Money
  minQuantity : Int
  subTotal : Money
  total : Money
  discountAmount : Money
  balanced : discountAmount = subTotal - total
  deriving DecidableEq, Repr

namespace QuotedPrices

variable {Quotation : Type} (tier : Quotation → ConsumerQuotation) (inScope : Quotation → Bool)

/-- The prices before any has been set. -/
def ofQuotations (quotations : List Quotation) : QuotedPrices Quotation :=
  ⟨some quotations, 0, 0, 0, 0, 0, 0, (sub_self 0).symm⟩

/-- The tier a quantity reaches. Looking it up leaves the quotations sorted. -/
def lookUp (quantity : QuantityInForce) (prices : QuotedPrices Quotation) : Option Quotation :=
  prices.quotations.bind fun quotations =>
    lowestTier tier inScope quantity (sortByQuantity tier quotations)

def sort (prices : QuotedPrices Quotation) : QuotedPrices Quotation :=
  { prices with quotations := prices.quotations.map (sortByQuantity tier) }

/-- The prices of the tier the quantity reaches become the discounted ones. Without quotations
nothing changes. -/
def reflectDiscounted (quantity : QuantityInForce) (prices : QuotedPrices Quotation) :
    QuotedPrices Quotation :=
  if prices.quotations.isNone then prices
  else
    let discounted := (prices.lookUp tier inScope quantity).map tier
    { prices.sort tier with
      minQuantity := (discounted.map (·.minQuantity)).getD 0
      discountedUnitPrice := (discounted.map (·.unitPrice)).getD 0 }

/-- The price of the tier the quantity reaches becomes the original one. -/
def reflectOriginal (quantity : QuantityInForce) (prices : QuotedPrices Quotation) :
    QuotedPrices Quotation :=
  if prices.quotations.isNone then prices
  else
    { prices.sort tier with
      unitPrice := (((prices.lookUp tier inScope quantity).map tier).map (·.unitPrice)).getD 0 }

def calculateTotals (quantity : Int) (prices : QuotedPrices Quotation) : QuotedPrices Quotation :=
  { prices with
    subTotal := quantity * prices.unitPrice
    total := quantity * prices.discountedUnitPrice
    discountAmount := quantity * prices.unitPrice - quantity * prices.discountedUnitPrice
    balanced := rfl }

/-- The discounted prices for a quantity in force, and the totals for a quantity of units. -/
def reprice (inForce : QuantityInForce) (quantity : Int) (prices : QuotedPrices Quotation) :
    QuotedPrices Quotation :=
  (prices.reflectDiscounted tier inScope inForce).calculateTotals quantity

theorem reprice_twice (inForce : QuantityInForce) (quantity : Int)
    (prices : QuotedPrices Quotation) :
    (prices.reprice tier inScope inForce quantity).reprice tier inScope inForce quantity =
      prices.reprice tier inScope inForce quantity := by
  cases known : prices.quotations with
  | none => simp [reprice, reflectDiscounted, calculateTotals, known]
  | some quotations => simp [reprice, reflectDiscounted, calculateTotals, lookUp, sort, known]

end QuotedPrices

/-! ### Technical reports -/

structure TechnicalNoteDto where
  id : String
  imageUrls : List String
  model : String
  name : String
  serialNumber : String
  serviceSummary : String
  deriving DecidableEq, Repr

def TechnicalNoteDto.create (id : String) : TechnicalNoteDto :=
  ⟨id, [], "", "Aircond " ++ id, "", ""⟩

structure TechnicalReport where
  notes : List TechnicalNoteDto
  completed : Bool
  deriving DecidableEq, Repr

namespace TechnicalReport

def calculateHasBeenCompleted (notes : List TechnicalNoteDto) : Bool :=
  if notes.length < 1 then false
  else (notes.filter fun note => note.model = "" || note.serialNumber = "").length < 1

def create (notes : List TechnicalNoteDto) : TechnicalReport :=
  ⟨notes, calculateHasBeenCompleted notes⟩

def numOfNotes (report : TechnicalReport) : Nat := report.notes.length

def generate (quantity : Int) : TechnicalReport :=
  create ((List.range' 1 quantity.toNat).map fun number => .create (toString number))

end TechnicalReport

/-! ### Packages -/

/-- A service package as the catalogue has it. -/
structure ServicePackage where
  id : Uuid
  name : String
  description : Option String
  noteToServiceProvider : Option String
  servicePackageGroupCode : Option String
  unitServiceMinutes : Int
  serviceTypesEntitlement : Int
  consumerQuotations : List ConsumerQuotation
  serviceProviderQuotations : List ServiceProviderQuotation
  deriving DecidableEq, Repr

/-- A package of an order. The quantity of its group is there once it has been bundled. -/
structure RequestedServicePackage where
  servicePackage : ServicePackage
  name : String
  description : Option String
  noteToServiceProvider : Option String
  servicePackageGroupCode : Option String
  servicePackageGroupQuantity : Option QuantityInForce
  consumerQuotation : QuotedPrices ConsumerQuotation
  serviceProviderQuotation : QuotedPrices ServiceProviderQuotation
  serviceProviderQuotationState : String
  quantity : Int
  serviceTypesEntitlement : Int
  technicalReport : TechnicalReport
  unitServiceMinutes : Int
  totalServiceMinutes : Int
  deriving DecidableEq, Repr

/-- An input that is refused, with the fields it is refused for. -/
structure UserInputError where
  message : String
  fields : List (String × String)
  deriving DecidableEq, Repr

/-- The quantities of the groups by their codes. A code that is not there counts as zero, as the
code treats the two alike. -/
abbrev GroupQuantities := String → Int

/-- The properties every object has. -/
def builtinProperties : List String :=
  ["constructor", "hasOwnProperty", "isPrototypeOf", "propertyIsEnumerable", "toLocaleString",
    "toString", "valueOf", "__proto__", "__defineGetter__", "__defineSetter__",
    "__lookupGetter__", "__lookupSetter__"]

/-- `groups[code]`. -/
def GroupQuantities.read (groups : GroupQuantities) (code : String) : QuantityInForce :=
  if builtinProperties.contains code then .notANumber else .number (groups code)

/-- `quantity < 0 ? 0 : quantity`. -/
def QuantityInForce.atLeastZero : QuantityInForce → QuantityInForce
  | .number quantity => .number (if quantity < 0 then 0 else quantity)
  | .notANumber => .notANumber

namespace RequestedServicePackage

variable (toUpperCase : String → String) (package : RequestedServicePackage)

/-- The quotation is for the state, whatever the case and the blanks around. -/
def isForState (customerAddressState : String) (quotation : ServiceProviderQuotation) : Bool :=
  quotation.state.map (fun state => toUpperCase (trim state)) =
    some (toUpperCase (trim customerAddressState))

def reflectConsumerDiscountedQuotations (quantity : QuantityInForce) : RequestedServicePackage :=
  { package with
    consumerQuotation :=
      package.consumerQuotation.reflectDiscounted id (fun _ => true) quantity }

def reflectServiceProviderDiscountedQuotations (quantity : QuantityInForce)
    (customerAddressState : String) : RequestedServicePackage :=
  { package with
    serviceProviderQuotation :=
      package.serviceProviderQuotation.reflectDiscounted (·.toConsumerQuotation)
        (isForState toUpperCase customerAddressState) quantity }

def reflectConsumerOriginalQuotations (quantity : Int) : RequestedServicePackage :=
  { package with
    consumerQuotation :=
      package.consumerQuotation.reflectOriginal id (fun _ => true) (.number quantity) }

/-- The state becomes that of the quotation that is found. -/
def reflectServiceProviderOriginalQuotations (quantity : Int) (customerAddressState : String) :
    RequestedServicePackage :=
  if package.serviceProviderQuotation.quotations.isNone then package
  else
    let original := package.serviceProviderQuotation.lookUp (·.toConsumerQuotation)
      (isForState toUpperCase customerAddressState) (.number quantity)
    { package with
      serviceProviderQuotation :=
        package.serviceProviderQuotation.reflectOriginal (·.toConsumerQuotation)
          (isForState toUpperCase customerAddressState) (.number quantity)
      serviceProviderQuotationState := (original.bind (·.state)).getD "" }

def calculateConsumerTotals (quantity : Int) : RequestedServicePackage :=
  { package with consumerQuotation := package.consumerQuotation.calculateTotals quantity }

def calculateServiceProviderTotals (quantity : Int) : RequestedServicePackage :=
  { package with
    serviceProviderQuotation := package.serviceProviderQuotation.calculateTotals quantity }

/-- The prices for a quantity in force, and the totals of them for the package's own quantity, as
`changeQuantity` and `changeServicePackageGroupQuantity` both set them. -/
def reprice (inForce : QuantityInForce) : RequestedServicePackage :=
  let consumer :=
    (package.reflectConsumerDiscountedQuotations inForce).calculateConsumerTotals package.quantity
  (consumer.reflectServiceProviderDiscountedQuotations toUpperCase inForce
    consumer.serviceProviderQuotationState).calculateServiceProviderTotals package.quantity

def changeQuantity (quantity : Int) : RequestedServicePackage :=
  let changed :=
    { package with
      quantity := quantity
      technicalReport :=
        if (package.technicalReport.numOfNotes : Int) ≠ quantity then .generate quantity
        else package.technicalReport
      totalServiceMinutes := quantity * package.unitServiceMinutes }
  changed.reprice toUpperCase (.number quantity)

def changeServicePackage (servicePackage : ServicePackage) : RequestedServicePackage :=
  let changed :=
    { package with
      servicePackage := servicePackage
      servicePackageGroupCode := servicePackage.servicePackageGroupCode
      unitServiceMinutes := servicePackage.unitServiceMinutes
      description := servicePackage.description
      name := servicePackage.name
      noteToServiceProvider := servicePackage.noteToServiceProvider
      serviceTypesEntitlement := servicePackage.serviceTypesEntitlement }
  (changed.reflectConsumerOriginalQuotations 1).reflectServiceProviderOriginalQuotations
    toUpperCase 1 changed.serviceProviderQuotationState

def reviseFromNewQuotations (servicePackage : ServicePackage) (quantity : Int) :
    RequestedServicePackage :=
  (package.changeServicePackage toUpperCase servicePackage).changeQuantity toUpperCase quantity

/-- The fields of `new RequestedServicePackage` before it is priced. What has not been set by then
is overwritten at once, as the quotations are there. -/
def unpriced (customerAddressState : String) (servicePackage : ServicePackage) :
    RequestedServicePackage where
  servicePackage := servicePackage
  name := servicePackage.name
  description := servicePackage.description
  noteToServiceProvider := servicePackage.noteToServiceProvider
  servicePackageGroupCode := servicePackage.servicePackageGroupCode
  servicePackageGroupQuantity := none
  consumerQuotation := .ofQuotations servicePackage.consumerQuotations
  serviceProviderQuotation := .ofQuotations servicePackage.serviceProviderQuotations
  serviceProviderQuotationState := customerAddressState
  quantity := 0
  serviceTypesEntitlement := servicePackage.serviceTypesEntitlement
  technicalReport := .create []
  unitServiceMinutes := servicePackage.unitServiceMinutes
  totalServiceMinutes := 0

/-- `new RequestedServicePackage`. -/
def create (quantity : Int) (customerAddressState : String)
    (servicePackage : Option ServicePackage) : Except UserInputError RequestedServicePackage :=
  if trim customerAddressState = "" then
    .error ⟨"customer address state can't be null",
      [("customerAddressState", customerAddressState)]⟩
  else
    match servicePackage with
    | none => .error ⟨"service package can't be null", [("servicePackage", "null")]⟩
    | some servicePackage =>
      .ok ((unpriced customerAddressState servicePackage).reviseFromNewQuotations toUpperCase
        servicePackage quantity)

/-- Takes the quantity of the package's group. A package without a code, or whose group comes to
zero, keeps its prices. -/
def changeServicePackageGroupQuantity (groups : GroupQuantities) : RequestedServicePackage :=
  let code := package.servicePackageGroupCode.getD ""
  if code = "" ∨ groups.read code = .number 0 then
    { package with servicePackageGroupQuantity := some (.number 0) }
  else
    let inForce := (groups.read code).atLeastZero
    ({ package with servicePackageGroupQuantity := some inForce }).reprice toUpperCase inForce

/-- The property of `groups` the package is counted under: no code is read as the text `null`. -/
def groupKey : String := package.servicePackageGroupCode.getD "null"

def hasTechnicalReportCompleted : Bool := package.technicalReport.completed

/-- A package is made exactly for a state that is not blank and a service package, and priced from
its own quotations. -/
theorem create_eq_ok_iff {toUpperCase : String → String} {quantity : Int}
    {customerAddressState : String} {servicePackage : Option ServicePackage}
    {package : RequestedServicePackage} :
    create toUpperCase quantity customerAddressState servicePackage = .ok package ↔
      trim customerAddressState ≠ "" ∧ ∃ given, servicePackage = some given ∧
        (unpriced customerAddressState given).reviseFromNewQuotations toUpperCase given quantity =
          package := by
  unfold create
  constructor
  · intro created
    split at created
    · cases created
    · rename_i stated
      cases servicePackage with
      | none => cases created
      | some given => exact ⟨stated, given, rfl, Except.ok.inj created⟩
  · rintro ⟨stated, given, rfl, rfl⟩
    rw [if_neg stated]

/-! ### Repricing -/

/-- Repricing sets both sides and nothing else. -/
theorem reprice_eq (inForce : QuantityInForce) :
    package.reprice toUpperCase inForce =
      { package with
        consumerQuotation := package.consumerQuotation.reprice id (fun _ => true) inForce
          package.quantity
        serviceProviderQuotation := package.serviceProviderQuotation.reprice
          (·.toConsumerQuotation)
          (isForState toUpperCase package.serviceProviderQuotationState) inForce
          package.quantity } := rfl

theorem changeQuantity_eq (quantity : Int) :
    package.changeQuantity toUpperCase quantity =
      { package with
        consumerQuotation := package.consumerQuotation.reprice id (fun _ => true)
          (.number quantity) quantity
        serviceProviderQuotation := package.serviceProviderQuotation.reprice
          (·.toConsumerQuotation) (isForState toUpperCase package.serviceProviderQuotationState)
          (.number quantity) quantity
        quantity := quantity
        technicalReport :=
          if (package.technicalReport.numOfNotes : Int) ≠ quantity then .generate quantity
          else package.technicalReport
        totalServiceMinutes := quantity * package.unitServiceMinutes } := rfl

/-- The state of the quotation for one unit, which a revision takes over. -/
def revisedState : String :=
  if package.serviceProviderQuotation.quotations.isNone then package.serviceProviderQuotationState
  else
    ((package.serviceProviderQuotation.lookUp (·.toConsumerQuotation)
      (isForState toUpperCase package.serviceProviderQuotationState)
      (.number 1)).bind (·.state)).getD ""

/-- Another service package sets the original prices, from the quotations the package has, and
the state. -/
theorem changeServicePackage_eq (servicePackage : ServicePackage) :
    package.changeServicePackage toUpperCase servicePackage =
      { package with
        servicePackage := servicePackage
        servicePackageGroupCode := servicePackage.servicePackageGroupCode
        unitServiceMinutes := servicePackage.unitServiceMinutes
        description := servicePackage.description
        name := servicePackage.name
        noteToServiceProvider := servicePackage.noteToServiceProvider
        serviceTypesEntitlement := servicePackage.serviceTypesEntitlement
        consumerQuotation := package.consumerQuotation.reflectOriginal id (fun _ => true)
          (.number 1)
        serviceProviderQuotation := package.serviceProviderQuotation.reflectOriginal
          (·.toConsumerQuotation) (isForState toUpperCase package.serviceProviderQuotationState)
          (.number 1)
        serviceProviderQuotationState := package.revisedState toUpperCase } := by
  cases known : package.serviceProviderQuotation.quotations <;>
    simp [changeServicePackage, reflectConsumerOriginalQuotations,
      reflectServiceProviderOriginalQuotations, revisedState, QuotedPrices.reflectOriginal, known]

/-- Taking the quantity of the group a second time changes nothing. -/
theorem changeServicePackageGroupQuantity_twice (groups : GroupQuantities) :
    (package.changeServicePackageGroupQuantity toUpperCase
        groups).changeServicePackageGroupQuantity toUpperCase groups =
      package.changeServicePackageGroupQuantity toUpperCase groups := by
  by_cases kept : package.servicePackageGroupCode.getD "" = "" ∨
      groups.read (package.servicePackageGroupCode.getD "") = .number 0
  · simp only [changeServicePackageGroupQuantity, if_pos kept]
  · simp only [changeServicePackageGroupQuantity, if_neg kept, reprice_eq,
      QuotedPrices.reprice_twice]

@[simp]
theorem changeServicePackageGroupQuantity_groupKey (groups : GroupQuantities) :
    (package.changeServicePackageGroupQuantity toUpperCase groups).groupKey =
      package.groupKey := by
  simp only [changeServicePackageGroupQuantity]
  split <;> rfl

@[simp]
theorem changeServicePackageGroupQuantity_quantity (groups : GroupQuantities) :
    (package.changeServicePackageGroupQuantity toUpperCase groups).quantity =
      package.quantity := by
  simp only [changeServicePackageGroupQuantity]
  split <;> rfl

end RequestedServicePackage

end FieldService.Orders
