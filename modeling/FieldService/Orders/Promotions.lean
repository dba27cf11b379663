/-
This file models promotions and the command that applies one, and settles that their uses are
counted exactly, however many commands run at a time.

A command reads the promotion, checks the copy it has read and works out the discount. When it is
to commit the use it then increments the count of the stored row, under the condition that the row
is still below its limit. The check on the copy may be outdated by then; the condition is not, as
it is part of the one statement that increments.
-/

import FieldService.Library.Interleaving
import FieldService.Library.Table
import FieldService.Orders.Order

namespace FieldService.Orders

open Execution Interleaving

/-! ### Promotions -/

inductive GeneralStatus where
  | active
  | disabled
  deriving DecidableEq, Repr

inductive DiscountType where
  | numeric
  | percentage
  deriving DecidableEq, Repr

structure Discount where
  discountType : DiscountType
  discountValue : Money
  amountLimit : Option Money
  deriving DecidableEq, Repr

/-- `amountLimit || totalAmount`. -/
def Discount.limitOr (discount : Discount) (totalAmount : Money) : Money :=
  (discount.amountLimit.filter (· ≠ 0)).getD totalAmount

structure Promotion where
  code : String
  startsAt : Option Time
  endsAt : Option Time
  usageLimit : Option Int
  usageCount : Int
  discount : Discount
  status : GeneralStatus
  deriving DecidableEq, Repr

inductive PromotionError where
  | promotionCodeInvalid (promoCode : String)
  | promotionCodeExpired (promoCode : String)
  | promotionCodeUsageLimit (promoCode : String) (limit : Option Int)
  /-- The database has not answered. -/
  | queryFailed
  deriving DecidableEq, Repr

/-- What applying a promotion results in. Of a missing total the amounts are not numbers. -/
structure AppliedPromotion extends ApplyPromoCodeResult where
  originalTotal : Option Money
  discountedTotal : Option Money
  deriving DecidableEq, Repr

namespace Promotion

variable (promotion : Promotion)

/-- A missing limit counts as zero in the comparison. -/
def isValid (now : Time) : Except PromotionError Unit :=
  if promotion.endsAt.any (· < now) then .error (.promotionCodeExpired promotion.code)
  else if promotion.startsAt.any (now < ·) then .error (.promotionCodeInvalid promotion.code)
  else if promotion.usageLimit.getD 0 ≤ promotion.usageCount then
    .error (.promotionCodeUsageLimit promotion.code promotion.usageLimit)
  else .ok ()

def discountedAmount (totalAmount : Money) : Money :=
  match promotion.discount.discountType with
  | .numeric =>
    min (min promotion.discount.discountValue (promotion.discount.limitOr totalAmount)) totalAmount
  | .percentage =>
    min (min (totalAmount * promotion.discount.discountValue / 100)
      (promotion.discount.limitOr totalAmount)) totalAmount

def apply (totalAmount : Option Money) : AppliedPromotion where
  code := some promotion.code
  discountedAmount := totalAmount.map promotion.discountedAmount
  originalTotal := totalAmount
  discountedTotal := totalAmount.map fun total => total - promotion.discountedAmount total

/-- `usageLimit IS NULL OR usageLimit > usageCount`. -/
def isBelowLimit : Bool :=
  promotion.usageLimit.all (promotion.usageCount < ·)

/-- The criteria of the increment. -/
def isUsable (code : String) : Bool :=
  promotion.code = code && promotion.isBelowLimit

/-- The promotion after some more uses. -/
def used (times : Nat) : Promotion :=
  { promotion with usageCount := promotion.usageCount + times }

def incrementIfUsable (code : String) : Promotion :=
  if promotion.isUsable code then promotion.used 1 else promotion

end Promotion

/-- The rows of the promotions; the code is a unique column. -/
abbrev Promotions := Table String Promotion Promotion.code

namespace Promotions

/-- `findOne({ code, status: ACTIVE })`. -/
def findOne (promotions : Promotions) (code : String) : Option Promotion :=
  (promotions.find code).filter (·.status = .active)

theorem code_incrementIfUsable (code : String) (promotion : Promotion) :
    (promotion.incrementIfUsable code).code = promotion.code := by
  unfold Promotion.incrementIfUsable
  split <;> rfl

/-- The conditional increment, with how many rows it has affected. -/
def increment (promotions : Promotions) (code : String) : Promotions × Nat :=
  (promotions.rewrite (·.incrementIfUsable code) (code_incrementIfUsable code),
    promotions.rows.countP (·.isUsable code))

end Promotions

/-! ### The command -/

/-- An order whose fields have not been set has no total. -/
structure ApplyPromoCodeCommand where
  promoCode : String
  totalAmount : Option Money
  forCommit : Bool
  deriving DecidableEq, Repr

/-- The constructor. -/
def ApplyPromoCodeCommand.create (toLowerCase : String → String) (promoCode : String)
    (totalAmount : Option Money) (forCommit : Bool) : ApplyPromoCodeCommand :=
  ⟨toLowerCase promoCode, totalAmount, forCommit⟩

/-- How far a command has come, with its copy of the promotion. -/
inductive ApplyingProgress where
  | waiting
  | found (promotion : Promotion)
  | validated (promotion : Promotion)
  | succeeded (result : AppliedPromotion)
  | failed (error : PromotionError)
  deriving DecidableEq, Repr

def ApplyingProgress.hasSucceeded : ApplyingProgress → Bool
  | .succeeded _ => true
  | _ => false

/-- What a command meets as it goes on: the time, and whether the database answers. -/
structure Circumstance where
  now : Time
  answers : Bool

/-- The next step of `ApplyPromoCodeHandler.execute`. -/
def ApplyPromoCodeCommand.proceed (command : ApplyPromoCodeCommand) (circumstance : Circumstance)
    (promotions : Promotions) : ApplyingProgress → Promotions × ApplyingProgress
  | .waiting =>
    if !circumstance.answers then (promotions, .failed .queryFailed)
    else
      match promotions.findOne command.promoCode with
      | none => (promotions, .failed (.promotionCodeInvalid command.promoCode))
      | some promotion => (promotions, .found promotion)
  | .found promotion =>
    match promotion.isValid circumstance.now with
    | .error error => (promotions, .failed error)
    | .ok _ => (promotions, .validated promotion)
  | .validated promotion =>
    if !command.forCommit then (promotions, .succeeded (promotion.apply command.totalAmount))
    else if !circumstance.answers then (promotions, .failed .queryFailed)
    else if 0 < (promotions.increment command.promoCode).2 then
      ((promotions.increment command.promoCode).1,
        .succeeded (promotion.apply command.totalAmount))
    else
      ((promotions.increment command.promoCode).1,
        .failed (.promotionCodeUsageLimit command.promoCode promotion.usageLimit))
  | .succeeded result => (promotions, .succeeded result)
  | .failed error => (promotions, .failed error)

/-! ### Any number of commands -/

/-- A command takes its next step. -/
structure ApplyingTurn (Index : Type) where
  command : Index
  circumstance : Circumstance

/-- The promotions, and the progress of every command. -/
abbrev Applying (Index : Type) := Crew Index Promotions ApplyingProgress

namespace Applying

variable {Index : Type} [DecidableEq Index]

/-- No command has begun. -/
def opened (promotions : Promotions) : Applying Index :=
  ⟨promotions, fun _ => .waiting⟩

def step (commands : Index → ApplyPromoCodeCommand) (applying : Applying Index)
    (turn : ApplyingTurn Index) : Applying Index :=
  applying.turn turn.command ((commands turn.command).proceed turn.circumstance applying.shared
    (applying.progress turn.command))

/-- A command has committed a use of the code. -/
def hasCommitted (commands : Index → ApplyPromoCodeCommand) (code : String) (index : Index)
    (progress : ApplyingProgress) : Bool :=
  (commands index).forCommit && (commands index).promoCode = code && progress.hasSucceeded

/-- Nothing about a promotion has changed but its count, which is increased by the number of
commands that have committed a use of it, and which is within the limit if it was. -/
structure CountsUses [Fintype Index] (commands : Index → ApplyPromoCodeCommand)
    (promotions : Promotions) (applying : Applying Index) : Prop where
  exact : ∀ code, applying.shared.find code =
    (promotions.find code).map (·.used (applying.number (hasCommitted commands code)))
  limited : ∀ code original promotion limit, promotions.find code = some original →
    applying.shared.find code = some promotion → promotion.usageLimit = some limit →
      original.usageCount ≤ limit → promotion.usageCount ≤ limit

end Applying

/-! ### What a step does -/

namespace Promotions

theorem find_increment (promotions : Promotions) (code wanted : String) :
    (promotions.increment code).1.find wanted =
      (promotions.find wanted).map (·.incrementIfUsable code) :=
  promotions.find_rewrite (code_incrementIfUsable code) wanted

/-- The increment does not touch the promotion of another code. -/
theorem find_increment_other (promotions : Promotions) {code wanted : String}
    (different : wanted ≠ code) :
    (promotions.increment code).1.find wanted = promotions.find wanted := by
  rw [find_increment]
  cases found : promotions.find wanted with
  | none => rfl
  | some promotion =>
    have same := (promotions.find_key found).2
    rw [Option.map_some, Promotion.incrementIfUsable, if_neg]
    simp [Promotion.isUsable, same, different]

/-- The increment affects a row exactly if the promotion of the code is below its limit. -/
theorem affected_pos_iff (promotions : Promotions) (code : String) :
    0 < (promotions.increment code).2 ↔
      ∃ promotion, promotions.find code = some promotion ∧ promotion.isBelowLimit = true := by
  rw [increment, List.countP_pos_iff]
  constructor
  · rintro ⟨promotion, member, usable⟩
    rw [Promotion.isUsable, Bool.and_eq_true, decide_eq_true_iff] at usable
    obtain ⟨rfl, below⟩ := usable
    exact ⟨promotion, promotions.find_of_mem member, below⟩
  · rintro ⟨promotion, found, below⟩
    obtain ⟨member, rfl⟩ := promotions.find_key found
    exact ⟨promotion, member, by simp [Promotion.isUsable, below]⟩

/-- An increment that affects no row changes none. -/
theorem find_increment_of_unaffected (promotions : Promotions) {code : String}
    (unaffected : ¬0 < (promotions.increment code).2) :
    (promotions.increment code).1.find = promotions.find := by
  funext wanted
  by_cases same : wanted = code
  · subst same
    rw [find_increment]
    cases found : promotions.find wanted with
    | none => rfl
    | some promotion =>
      rw [affected_pos_iff] at unaffected
      rw [Option.map_some, Promotion.incrementIfUsable, if_neg]
      intro usable
      rw [Promotion.isUsable, Bool.and_eq_true] at usable
      exact unaffected ⟨promotion, found, usable.2⟩
  · exact promotions.find_increment_other same

end Promotions

/-- A step leaves the promotions alone and commits nothing, or it commits a use of a promotion that
is below its limit. -/
theorem ApplyPromoCodeCommand.proceed_cases (command : ApplyPromoCodeCommand)
    (circumstance : Circumstance) (promotions : Promotions) (progress : ApplyingProgress) :
    ((command.proceed circumstance promotions progress).1.find = promotions.find ∧
      (command.forCommit = true →
        (command.proceed circumstance promotions progress).2.hasSucceeded =
          progress.hasSucceeded)) ∨
    (command.forCommit = true ∧ progress.hasSucceeded = false ∧
      (command.proceed circumstance promotions progress).2.hasSucceeded = true ∧
      (command.proceed circumstance promotions progress).1 =
        (promotions.increment command.promoCode).1 ∧
      ∃ promotion, promotions.find command.promoCode = some promotion ∧
        promotion.isBelowLimit = true) := by
  cases progress with
  | waiting =>
    left
    simp only [proceed]
    split
    · exact ⟨rfl, fun _ => rfl⟩
    · split <;> exact ⟨rfl, fun _ => rfl⟩
  | found promotion =>
    left
    simp only [proceed]
    split <;> exact ⟨rfl, fun _ => rfl⟩
  | validated promotion =>
    simp only [proceed]
    split
    · rename_i preview
      exact Or.inl ⟨rfl, fun commits => by simp [commits] at preview⟩
    · rename_i commits
      split
      · exact Or.inl ⟨rfl, fun _ => rfl⟩
      · split
        · rename_i affected
          exact Or.inr ⟨by simpa using commits, rfl, rfl, rfl,
            (promotions.affected_pos_iff _).mp affected⟩
        · rename_i unaffected
          exact Or.inl ⟨promotions.find_increment_of_unaffected unaffected, fun _ => rfl⟩
  | succeeded result => exact Or.inl ⟨rfl, fun _ => rfl⟩
  | failed error => exact Or.inl ⟨rfl, fun _ => rfl⟩

/-! ### What a run does -/

namespace Promotion

theorem used_zero (promotion : Promotion) : promotion.used 0 = promotion := by
  rw [used, Nat.cast_zero, add_zero]

theorem used_used (promotion : Promotion) (before more : Nat) :
    (promotion.used before).used more = promotion.used (before + more) := by
  rw [used, used, used, Nat.cast_add, add_assoc]

theorem incrementIfUsable_of_isBelowLimit {promotion : Promotion}
    (below : promotion.isBelowLimit = true) :
    promotion.incrementIfUsable promotion.code = promotion.used 1 := by
  rw [incrementIfUsable, if_pos (by simp [isUsable, below])]

/-- A promotion below its limit can be used once more. -/
theorem used_le_of_isBelowLimit {promotion : Promotion} {limit : Int}
    (below : promotion.isBelowLimit = true) (limited : promotion.usageLimit = some limit) :
    (promotion.used 1).usageCount ≤ limit := by
  rw [isBelowLimit, limited, Option.all_some, decide_eq_true_iff] at below
  exact below

end Promotion

namespace Applying

variable {Index : Type} [DecidableEq Index] [Fintype Index]
  {commands : Index → ApplyPromoCodeCommand} {promotions : Promotions}

omit [DecidableEq Index] in
theorem countsUses_opened (commands : Index → ApplyPromoCodeCommand) (promotions : Promotions) :
    (opened promotions : Applying Index).CountsUses commands promotions := by
  have nobody (code : String) :
      (opened promotions : Applying Index).number (hasCommitted commands code) = 0 := by
    refine Finset.card_eq_zero.mpr (Finset.filter_eq_empty_iff.mpr fun index _ => ?_)
    simp [opened, hasCommitted, ApplyingProgress.hasSucceeded]
  refine ⟨fun code => ?_, fun code original promotion limit stored found _ within => ?_⟩
  · rw [nobody]
    simp only [Promotion.used_zero]
    exact Option.map_id'.symm
  · have same : some original = some promotion := stored.symm.trans found
    cases same
    exact within

/-- Whatever step is taken, the uses stay counted. -/
theorem CountsUses.step {applying : Applying Index}
    (counted : applying.CountsUses commands promotions) (turn : ApplyingTurn Index) :
    (applying.step commands turn).CountsUses commands promotions := by
  obtain ⟨stored, kept⟩ | ⟨commits, before, now, incremented, current, found, below⟩ :=
    (commands turn.command).proceed_cases turn.circumstance applying.shared
      (applying.progress turn.command)
  · have unchanged : (applying.step commands turn).shared.find = applying.shared.find := stored
    have same (code : String) : (applying.step commands turn).number (hasCommitted commands code) =
        applying.number (hasCommitted commands code) := by
      refine applying.number_turn_same _ ?_
      cases commits : (commands turn.command).forCommit with
      | false => simp [hasCommitted, commits]
      | true => rw [hasCommitted, hasCommitted, kept commits]
    refine ⟨fun code => ?_, fun code original promotion limit => ?_⟩
    · rw [unchanged, same]
      exact counted.exact code
    · rw [unchanged]
      exact counted.limited code original promotion limit
  · have stored : (applying.step commands turn).shared =
        (applying.shared.increment (commands turn.command).promoCode).1 := incremented
    refine ⟨fun code => ?_, fun code original promotion limit known => ?_⟩
    · rw [stored]
      by_cases own : code = (commands turn.command).promoCode
      · subst own
        have more : (applying.step commands turn).number
            (hasCommitted commands (commands turn.command).promoCode) =
              applying.number (hasCommitted commands (commands turn.command).promoCode) + 1 :=
          applying.number_turn _ (by rw [hasCommitted, before, Bool.and_false])
            (by simp [hasCommitted, commits, now])
        have code := (applying.shared.find_key found).2
        rw [Promotions.find_increment, found, Option.map_some, ← code,
          Promotion.incrementIfUsable_of_isBelowLimit below, code, more]
        have exact := counted.exact (commands turn.command).promoCode
        rw [found] at exact
        obtain ⟨original, known, rfl⟩ := Option.map_eq_some_iff.mp exact.symm
        rw [known, Option.map_some, Promotion.used_used]
      · have same : (applying.step commands turn).number (hasCommitted commands code) =
            applying.number (hasCommitted commands code) :=
          applying.number_turn_same _ (by simp [hasCommitted, Ne.symm own])
        rw [Promotions.find_increment_other _ own, same]
        exact counted.exact code
    · rw [stored]
      by_cases own : code = (commands turn.command).promoCode
      · subst own
        have code := (applying.shared.find_key found).2
        rw [Promotions.find_increment, found, Option.map_some, ← code,
          Promotion.incrementIfUsable_of_isBelowLimit below]
        intro increased limited _
        cases increased
        exact Promotion.used_le_of_isBelowLimit below limited
      · rw [Promotions.find_increment_other _ own]
        exact counted.limited code original promotion limit known

end Applying

/-- Whatever the order of their steps, any number of commands count the uses of every promotion
exactly, and never beyond its limit. -/
theorem countsUses_throughout {Index : Type} [DecidableEq Index] [Fintype Index]
    (commands : Index → ApplyPromoCodeCommand) (promotions : Promotions)
    (turns : List (ApplyingTurn Index)) :
    Throughout (Applying.step commands) (Applying.CountsUses commands promotions)
      (.opened promotions) turns :=
  throughout_of_preserved _ _ _ (fun _ turn counted => counted.step turn)
    (fun _ counted => counted) _ _ (Applying.countsUses_opened commands promotions)

end FieldService.Orders
