/-
This file settles what a package keeps when its quantities change.

A package has two quantities: its own, which its totals, its minutes and its technical report
follow, and that of its group, which only the discounted prices follow. Each operation sets some
of the derived fields again, and `Consistent` says how all of them hang together. The notes of the
technical report may be edited between the operations; an edited note keeps its number, so the
report stays numbered (`numbered_replaceNotes`) and is kept as long as the quantity is.
-/

import FieldService.Orders.Tiers
import FieldService.Library.Execution

namespace FieldService.Orders

open Execution

/-! ### Editing the notes -/

/-- An entity that is not there. -/
structure EntityNotFoundError where
  entityName : String
  id : String
  deriving DecidableEq, Repr

namespace TechnicalReport

/-- Replaces the notes one after another, each at the place of the one with its number. Those
before a number that is not there have been replaced when the error is thrown. -/
def replaceNotes (report : TechnicalReport) :
    List TechnicalNoteDto → TechnicalReport × Option EntityNotFoundError
  | [] => (create report.notes, none)
  | newNote :: rest =>
    match report.notes.findIdx? (·.id = newNote.id) with
    | none => (report, some ⟨"TechnicalNoteDto", newNote.id⟩)
    | some index => replaceNotes { report with notes := report.notes.set index newNote } rest

/-- The notes are numbered from one. -/
def Numbered (report : TechnicalReport) : Prop :=
  report.notes.map (·.id) = (List.range' 1 report.numOfNotes).map toString

@[simp]
theorem numOfNotes_generate (quantity : Nat) : (generate quantity).numOfNotes = quantity := by
  simp [generate, create, numOfNotes]

theorem numbered_generate (quantity : Nat) : (generate quantity).Numbered := by
  rw [Numbered, numOfNotes_generate]
  simp [generate, create, TechnicalNoteDto.create, Function.comp_def]

theorem numbered_create_nil : (create []).Numbered := rfl

/-- A note that is found by its number is replaced by one with the same number. -/
theorem map_id_set {notes : List TechnicalNoteDto} {newNote : TechnicalNoteDto} {index : Nat}
    (found : notes.findIdx? (·.id = newNote.id) = some index) :
    (notes.set index newNote).map (·.id) = notes.map (·.id) := by
  obtain ⟨within, same, -⟩ := List.findIdx?_eq_some_iff_getElem.mp found
  rw [List.map_set, ← of_decide_eq_true same]
  exact List.ext_getElem (by simp) fun place _ inside => by
    rw [List.getElem_set]
    split
    · rename_i here
      subst here
      rw [List.getElem_map]
    · rfl

/-- Whether or not a note is missing, the numbers stay. -/
theorem map_id_replaceNotes (report : TechnicalReport) (newNotes : List TechnicalNoteDto) :
    (report.replaceNotes newNotes).1.notes.map (·.id) = report.notes.map (·.id) := by
  induction newNotes generalizing report with
  | nil => rfl
  | cons newNote rest inductionHypothesis =>
    cases search : report.notes.findIdx? (·.id = newNote.id) with
    | none => simp only [replaceNotes, search]
    | some index =>
      simp only [replaceNotes, search]
      rw [inductionHypothesis, map_id_set search]

theorem numOfNotes_replaceNotes (report : TechnicalReport) (newNotes : List TechnicalNoteDto) :
    (report.replaceNotes newNotes).1.numOfNotes = report.numOfNotes := by
  have lengths := congrArg List.length (report.map_id_replaceNotes newNotes)
  rwa [List.length_map, List.length_map] at lengths

theorem numbered_replaceNotes {report : TechnicalReport} (numbered : report.Numbered)
    (newNotes : List TechnicalNoteDto) : (report.replaceNotes newNotes).1.Numbered := by
  rw [Numbered, map_id_replaceNotes, numOfNotes_replaceNotes]
  exact numbered

end TechnicalReport

def RequestedServicePackage.replaceNotesInTechnicalReport (package : RequestedServicePackage)
    (notes : List TechnicalNoteDto) : RequestedServicePackage :=
  { package with technicalReport := (package.technicalReport.replaceNotes notes).1 }

/-! ### Operations on a package -/

/-- What changes the quantities of a package. -/
inductive PackageOperation where
  | changeQuantity (quantity : Nat)
  | changeServicePackageGroupQuantity (groups : GroupQuantities)
  | reviseFromNewQuotations (servicePackage : ServicePackage) (quantity : Nat)

/-- What is done with a package. -/
inductive PackageEvent where
  | operation (operation : PackageOperation)
  | replaceNotesInTechnicalReport (notes : List TechnicalNoteDto)

namespace RequestedServicePackage

variable (toUpperCase : String → String)

def perform (package : RequestedServicePackage) : PackageOperation → RequestedServicePackage
  | .changeQuantity quantity => package.changeQuantity toUpperCase quantity
  | .changeServicePackageGroupQuantity groups =>
    package.changeServicePackageGroupQuantity toUpperCase groups
  | .reviseFromNewQuotations servicePackage quantity =>
    package.reviseFromNewQuotations toUpperCase servicePackage quantity

def undergo (package : RequestedServicePackage) : PackageEvent → RequestedServicePackage
  | .operation operation => package.perform toUpperCase operation
  | .replaceNotesInTechnicalReport notes => package.replaceNotesInTechnicalReport notes

end RequestedServicePackage

/-! ### Derived fields -/

/-- The totals of one side follow from its prices. -/
structure QuotedPrices.Multiplies {Quotation : Type} (prices : QuotedPrices Quotation)
    (quantity : Int) : Prop where
  subTotal : prices.subTotal = quantity * prices.unitPrice
  total : prices.total = quantity * prices.discountedUnitPrice
  discountAmount : prices.discountAmount = prices.subTotal - prices.total

theorem QuotedPrices.multiplies_reprice {Quotation : Type} (tier : Quotation → ConsumerQuotation)
    (inScope : Quotation → Bool) (inForce : QuantityInForce) (quantity : Int)
    (prices : QuotedPrices Quotation) :
    (prices.reprice tier inScope inForce quantity).Multiplies quantity :=
  ⟨rfl, rfl, rfl⟩

namespace RequestedServicePackage

/-- The derived fields of a package follow from its prices and its quantity. -/
structure Consistent (package : RequestedServicePackage) : Prop where
  consumer : package.consumerQuotation.Multiplies package.quantity
  serviceProvider : package.serviceProviderQuotation.Multiplies package.quantity
  totalServiceMinutes : package.totalServiceMinutes = package.quantity * package.unitServiceMinutes
  numOfNotes : (package.technicalReport.numOfNotes : Int) = package.quantity
  numbered : package.technicalReport.Numbered

variable {toUpperCase : String → String} {package : RequestedServicePackage}

theorem changeQuantity_technicalReport (quantity : Int) :
    (package.changeQuantity toUpperCase quantity).technicalReport =
      if (package.technicalReport.numOfNotes : Int) ≠ quantity then .generate quantity
      else package.technicalReport := rfl

@[simp]
theorem changeServicePackage_technicalReport (servicePackage : ServicePackage) :
    (package.changeServicePackage toUpperCase servicePackage).technicalReport =
      package.technicalReport := by
  rw [changeServicePackage_eq]

@[simp]
theorem changeServicePackage_quantity (servicePackage : ServicePackage) :
    (package.changeServicePackage toUpperCase servicePackage).quantity = package.quantity := by
  rw [changeServicePackage_eq]

@[simp]
theorem changeServicePackageGroupQuantity_technicalReport (groups : GroupQuantities) :
    (package.changeServicePackageGroupQuantity toUpperCase groups).technicalReport =
      package.technicalReport := by
  simp only [changeServicePackageGroupQuantity]
  split <;> rfl

/-- Whatever the quantity was before, it takes no more than numbered notes to be consistent after
a change. -/
theorem consistent_changeQuantity (numbered : package.technicalReport.Numbered) (quantity : Nat) :
    (package.changeQuantity toUpperCase quantity).Consistent := by
  refine ⟨⟨rfl, rfl, rfl⟩, ⟨rfl, rfl, rfl⟩, rfl, ?_, ?_⟩
  · show ((package.changeQuantity toUpperCase quantity).technicalReport.numOfNotes : Int) = quantity
    rw [changeQuantity_technicalReport]
    split
    · rw [TechnicalReport.numOfNotes_generate]
    · rename_i kept
      exact not_not.mp kept
  · rw [changeQuantity_technicalReport]
    split
    · exact TechnicalReport.numbered_generate quantity
    · exact numbered

theorem consistent_reviseFromNewQuotations (numbered : package.technicalReport.Numbered)
    (servicePackage : ServicePackage) (quantity : Nat) :
    (package.reviseFromNewQuotations toUpperCase servicePackage quantity).Consistent := by
  refine consistent_changeQuantity ?_ quantity
  rw [changeServicePackage_technicalReport]
  exact numbered

theorem Consistent.changeServicePackageGroupQuantity (consistent : package.Consistent)
    (groups : GroupQuantities) :
    (package.changeServicePackageGroupQuantity toUpperCase groups).Consistent := by
  obtain ⟨consumer, serviceProvider, totalServiceMinutes, numOfNotes, numbered⟩ := consistent
  simp only [RequestedServicePackage.changeServicePackageGroupQuantity]
  split
  · exact ⟨consumer, serviceProvider, totalServiceMinutes, numOfNotes, numbered⟩
  · exact ⟨⟨rfl, rfl, rfl⟩, ⟨rfl, rfl, rfl⟩, totalServiceMinutes, numOfNotes, numbered⟩

theorem Consistent.perform (consistent : package.Consistent) (operation : PackageOperation) :
    (package.perform toUpperCase operation).Consistent := by
  cases operation with
  | changeQuantity quantity => exact consistent_changeQuantity consistent.numbered quantity
  | changeServicePackageGroupQuantity groups =>
    exact consistent.changeServicePackageGroupQuantity groups
  | reviseFromNewQuotations servicePackage quantity =>
    exact consistent_reviseFromNewQuotations consistent.numbered servicePackage quantity

theorem Consistent.undergo (consistent : package.Consistent) (event : PackageEvent) :
    (package.undergo toUpperCase event).Consistent := by
  cases event with
  | operation operation => exact consistent.perform operation
  | replaceNotesInTechnicalReport notes =>
    refine ⟨consistent.consumer, consistent.serviceProvider, consistent.totalServiceMinutes, ?_,
      TechnicalReport.numbered_replaceNotes consistent.numbered notes⟩
    exact (congrArg _ (TechnicalReport.numOfNotes_replaceNotes _ notes)).trans consistent.numOfNotes

/-- A package that has been made is consistent. -/
theorem consistent_create {quantity : Nat} {customerAddressState : String}
    {servicePackage : Option ServicePackage}
    (created : create toUpperCase quantity customerAddressState servicePackage = .ok package) :
    package.Consistent := by
  obtain ⟨-, given, -, rfl⟩ := create_eq_ok_iff.mp created
  exact consistent_reviseFromNewQuotations TechnicalReport.numbered_create_nil given quantity

/-! ### Keeping the report -/

variable (toUpperCase) in
/-- A package with as many notes as units keeps its report when its quantity is changed into the
same. A new report has another number of notes. -/
theorem changeQuantity_keeps_iff
    (numOfNotes : (package.technicalReport.numOfNotes : Int) = package.quantity) (quantity : Nat) :
    (package.changeQuantity toUpperCase quantity).technicalReport = package.technicalReport ↔
      (quantity : Int) = package.quantity := by
  rw [changeQuantity_technicalReport, ← numOfNotes]
  constructor
  · intro kept
    have counted := congrArg TechnicalReport.numOfNotes kept
    split at counted
    · rw [TechnicalReport.numOfNotes_generate] at counted
      exact congrArg _ counted
    · rename_i same
      exact (not_not.mp same).symm
  · intro same
    rw [if_neg (not_not.mpr same.symm)]

/-- The operation keeps the report if and only if it keeps the quantity. -/
def KeepsReport (toUpperCase : String → String) (package : RequestedServicePackage)
    (operation : PackageOperation) : Prop :=
  (package.perform toUpperCase operation).technicalReport = package.technicalReport ↔
    (package.perform toUpperCase operation).quantity = package.quantity

theorem Consistent.keepsReport (consistent : package.Consistent) (operation : PackageOperation) :
    package.KeepsReport toUpperCase operation := by
  cases operation with
  | changeQuantity quantity =>
    exact changeQuantity_keeps_iff toUpperCase consistent.numOfNotes quantity
  | changeServicePackageGroupQuantity groups =>
    refine iff_of_true ?_ ?_
    · exact changeServicePackageGroupQuantity_technicalReport groups
    · exact changeServicePackageGroupQuantity_quantity toUpperCase package groups
  | reviseFromNewQuotations servicePackage quantity =>
    have sameReport : (package.changeServicePackage toUpperCase servicePackage).technicalReport =
        package.technicalReport := changeServicePackage_technicalReport servicePackage
    have sameQuantity : (package.changeServicePackage toUpperCase servicePackage).quantity =
        package.quantity := changeServicePackage_quantity servicePackage
    have keeps := changeQuantity_keeps_iff toUpperCase
      (by rw [sameReport, sameQuantity]; exact consistent.numOfNotes) quantity
    rw [sameReport, sameQuantity] at keeps
    exact keeps

/-- The operation leaves the quantity it is given, and the one before if it is given none. -/
def TakesQuantity (toUpperCase : String → String) (package : RequestedServicePackage)
    (operation : PackageOperation) : Prop :=
  (package.perform toUpperCase operation).quantity =
    match operation with
    | .changeQuantity quantity => (quantity : Int)
    | .changeServicePackageGroupQuantity _ => package.quantity
    | .reviseFromNewQuotations _ quantity => (quantity : Int)

variable (toUpperCase) (package) in
theorem takesQuantity (operation : PackageOperation) :
    package.TakesQuantity toUpperCase operation := by
  cases operation with
  | changeQuantity quantity => rfl
  | changeServicePackageGroupQuantity groups =>
    exact changeServicePackageGroupQuantity_quantity toUpperCase package groups
  | reviseFromNewQuotations servicePackage quantity => rfl

end RequestedServicePackage

/-- The derived fields of a package hang together whatever is done with it, and every operation
leaves the quantity it is given and keeps the report exactly when it keeps the quantity. -/
theorem consistent_throughout (toUpperCase : String → String) (package : RequestedServicePackage)
    (start : package.Consistent ∨ ∃ (quantity : Nat) (customerAddressState : String)
      (servicePackage : Option ServicePackage), RequestedServicePackage.create toUpperCase quantity
        customerAddressState servicePackage = .ok package)
    (events : List PackageEvent) :
    Throughout (RequestedServicePackage.undergo toUpperCase) (·.Consistent) package events ∧
      Along (RequestedServicePackage.undergo toUpperCase)
        (fun before event => ∀ operation, event = .operation operation →
          before.TakesQuantity toUpperCase operation ∧ before.KeepsReport toUpperCase operation)
        package events := by
  have consistent : package.Consistent := by
    obtain consistent | ⟨quantity, customerAddressState, servicePackage, created⟩ := start
    · exact consistent
    · exact RequestedServicePackage.consistent_create created
  constructor
  · exact throughout_of_preserved _ (·.Consistent) _
      (fun before event consistent => consistent.undergo event) (fun _ consistent => consistent)
      package events consistent
  · exact along_of_invariant _ (·.Consistent)
      (fun before event consistent _ => consistent.undergo event)
      (fun before event consistent _ operation _ =>
        ⟨before.takesQuantity toUpperCase operation, consistent.keepsReport operation⟩)
      package events consistent (along_trivial _ package events)

/-- Two units are ordered, the second note is edited, and the quantity becomes three. -/
def exampleTieredEvents : List PackageEvent :=
  [.replaceNotesInTechnicalReport [⟨"2", [], "FTKF", "Bedroom", "E001", "Cleaned"⟩],
    .operation (.changeQuantity 3)]

theorem consistent_throughout_edited :
    let ordered := (RequestedServicePackage.unpriced "SELANGOR"
      (exampleTieredPackage [⟨1, 120⟩, ⟨3, 100⟩] [])).reviseFromNewQuotations id
        (exampleTieredPackage [⟨1, 120⟩, ⟨3, 100⟩] []) 2
    let edited := ordered.replaceNotesInTechnicalReport
      [⟨"2", [], "FTKF", "Bedroom", "E001", "Cleaned"⟩]
    RequestedServicePackage.create id 2 "SELANGOR"
        (some (exampleTieredPackage [⟨1, 120⟩, ⟨3, 100⟩] [])) = .ok ordered ∧
      Throughout (RequestedServicePackage.undergo id) (·.Consistent) ordered
        exampleTieredEvents ∧
      edited.TakesQuantity id (.changeQuantity 3) ∧ edited.KeepsReport id (.changeQuantity 3) := by
  intro ordered edited
  have stated : trim "SELANGOR" ≠ "" := by decide +kernel
  have created := RequestedServicePackage.create_eq_ok_iff.mpr ⟨stated, _, rfl, Eq.refl ordered⟩
  have settles := consistent_throughout id ordered (.inr ⟨2, "SELANGOR", _, created⟩)
    exampleTieredEvents
  exact ⟨created, settles.1, settles.2.2.1 (.changeQuantity 3) rfl⟩

end FieldService.Orders
