/-
This file settles when the discount of a promotion stays within its bounds.

Whatever its type, a discount is the least of what the promotion asks for, its limit and the total.
It is never more than the total. But a limit of zero counts as no limit, so it does not keep the
discount down, and a negative one turns the discount negative.
-/

import Mathlib.Algebra.Order.Field.Basic
import Mathlib.Algebra.Order.Ring.Rat
import FieldService.Orders.Promotions

namespace FieldService.Orders

/-! ### The parts of a discount -/

/-- A promotion takes something off exactly if there is something to take it off from, its value is
positive and its limit, if any, is not negative; a limit of zero is none. -/
theorem Promotion.discountedAmount_pos_iff (promotion : Promotion) (total : Money) :
    0 < promotion.discountedAmount total ↔ 0 < total ∧ 0 < promotion.discount.discountValue ∧
      ∀ limit, promotion.discount.amountLimit = some limit → 0 ≤ limit := by
  have limited (positive : 0 < total) : 0 < promotion.discount.limitOr total ↔
      ∀ limit, promotion.discount.amountLimit = some limit → 0 ≤ limit := by
    rw [Discount.limitOr]
    cases promotion.discount.amountLimit with
    | none => simp [positive]
    | some limit =>
      by_cases zero : limit = 0
      · simp [Option.filter, zero, positive]
      · have nonzero : (0 : Money) ≠ limit := Ne.symm zero
        simp [Option.filter, zero, lt_iff_le_and_ne, nonzero]
  have value (positive : 0 < total) : 0 < total * promotion.discount.discountValue / 100 ↔
      0 < promotion.discount.discountValue := by
    rw [div_pos_iff_of_pos_right (by norm_num), mul_pos_iff_of_pos_left positive]
  unfold discountedAmount
  by_cases positive : 0 < total
  · cases promotion.discount.discountType with
    | numeric => simp only [lt_min_iff, limited positive, positive, and_true, true_and]
    | percentage =>
      simp only [lt_min_iff, limited positive, value positive, positive, and_true, true_and]
  · cases promotion.discount.discountType <;> simp only [lt_min_iff, positive, and_false, false_and]

/-- What the promotion asks for, before it is limited. -/
def Discount.unlimited (discount : Discount) (totalAmount : Money) : Money :=
  match discount.discountType with
  | .numeric => discount.discountValue
  | .percentage => totalAmount * discount.discountValue / 100

theorem Discount.limitOr_of_zero {discount : Discount} (unset : discount.amountLimit = some 0)
    (total : Money) : discount.limitOr total = total := by
  simp [limitOr, unset, Option.filter]

theorem Discount.limitOr_of_ne_zero {discount : Discount} {limit : Money}
    (set : discount.amountLimit = some limit) (nonzero : limit ≠ 0) (total : Money) :
    discount.limitOr total = limit := by
  simp [limitOr, set, Option.filter, nonzero]

namespace Promotion

variable {promotion : Promotion} {total : Money}

theorem discountedAmount_eq (promotion : Promotion) (total : Money) :
    promotion.discountedAmount total =
      min (min (promotion.discount.unlimited total) (promotion.discount.limitOr total)) total := by
  unfold discountedAmount Discount.unlimited
  cases promotion.discount.discountType <;> rfl

theorem discountedAmount_le_total (promotion : Promotion) (total : Money) :
    promotion.discountedAmount total ≤ total := by
  rw [discountedAmount_eq]
  exact min_le_right _ _

theorem discountedAmount_le_limitOr (promotion : Promotion) (total : Money) :
    promotion.discountedAmount total ≤ promotion.discount.limitOr total := by
  rw [discountedAmount_eq]
  exact (min_le_left _ _).trans (min_le_right _ _)

theorem unlimited_nonneg (valued : 0 ≤ promotion.discount.discountValue) (priced : 0 ≤ total) :
    0 ≤ promotion.discount.unlimited total := by
  unfold Discount.unlimited
  split
  · exact valued
  · exact div_nonneg (mul_nonneg priced valued) (by norm_num)

/-- A discount is only negative when its limit is. -/
theorem discountedAmount_nonneg_iff (valued : 0 ≤ promotion.discount.discountValue)
    (priced : 0 ≤ total) :
    0 ≤ promotion.discountedAmount total ↔ 0 ≤ promotion.discount.limitOr total := by
  rw [discountedAmount_eq, le_min_iff, le_min_iff]
  constructor
  · exact fun both => both.1.2
  · exact fun limited => ⟨⟨unlimited_nonneg valued priced, limited⟩, priced⟩

/-! ### Bounds -/

/-- The discount is neither negative nor more than the total or the limit, whichever it is, and
the discounted total is what is left. -/
structure WithinBounds (promotion : Promotion) (total discountedAmount discountedTotal : Money) :
    Prop where
  nonneg : 0 ≤ discountedAmount
  atMostTotal : discountedAmount ≤ total
  atMostLimit : ∀ limit, promotion.discount.amountLimit = some limit → discountedAmount ≤ limit
  rest : discountedTotal = total - discountedAmount
  restNonneg : 0 ≤ discountedTotal

/-- Applying the promotion to the total gives amounts within their bounds. -/
def AppliesWithinBounds (promotion : Promotion) (total : Money) : Prop :=
  ∃ discountedAmount discountedTotal,
    (promotion.apply (some total)).discountedAmount = some discountedAmount ∧
      (promotion.apply (some total)).discountedTotal = some discountedTotal ∧
        promotion.WithinBounds total discountedAmount discountedTotal

/-- What is not settled by the code is the limit. -/
theorem appliesWithinBounds_iff_limited (promotion : Promotion) (total : Money) :
    promotion.AppliesWithinBounds total ↔ 0 ≤ promotion.discountedAmount total ∧
      ∀ limit, promotion.discount.amountLimit = some limit →
        promotion.discountedAmount total ≤ limit := by
  constructor
  · rintro ⟨discountedAmount, discountedTotal, discounted, -, within⟩
    obtain rfl := Option.some.inj discounted
    exact ⟨within.nonneg, within.atMostLimit⟩
  · rintro ⟨nonneg, limited⟩
    refine ⟨_, _, rfl, rfl, nonneg, promotion.discountedAmount_le_total total, limited, rfl, ?_⟩
    exact sub_nonneg.mpr (promotion.discountedAmount_le_total total)

/-- The amounts of a promotion are within their bounds if and only if its limit, if it has one, is
positive, or it is zero and there is nothing to take off. -/
theorem appliesWithinBounds_iff (promotion : Promotion) (total : Money)
    (valued : 0 ≤ promotion.discount.discountValue) (priced : 0 ≤ total) :
    promotion.AppliesWithinBounds total ↔
      ∀ limit, promotion.discount.amountLimit = some limit →
        0 < limit ∨ limit = 0 ∧ (promotion.discount.discountValue = 0 ∨ total = 0) := by
  rw [appliesWithinBounds_iff_limited, discountedAmount_nonneg_iff valued priced]
  cases limited : promotion.discount.amountLimit with
  | none =>
    have whole : promotion.discount.limitOr total = total := by
      simp [Discount.limitOr, limited]
    simp only [whole, reduceCtorEq, false_implies, implies_true, and_true, priced]
  | some limit =>
    simp only [Option.some.injEq, forall_eq']
    obtain negative | rfl | positive := lt_trichotomy limit 0
    · rw [Discount.limitOr_of_ne_zero limited negative.ne]
      refine iff_of_false (fun both => not_le.mpr negative both.1) ?_
      rintro (positive | ⟨rfl, -⟩)
      · exact lt_asymm negative positive
      · exact lt_irrefl _ negative
    · have nothing : promotion.discountedAmount total ≤ 0 ↔
          promotion.discount.discountValue = 0 ∨ total = 0 := by
        rw [← not_lt, promotion.discountedAmount_pos_iff, limited]
        simp only [Option.some.injEq, forall_eq', le_refl, and_true, not_and_or, not_lt,
          valued.ge_iff_eq', priced.ge_iff_eq']
        exact or_comm
      rw [Discount.limitOr_of_zero limited, nothing, and_iff_right priced]
      simp only [lt_irrefl, true_and, false_or]
    · have atMost := promotion.discountedAmount_le_limitOr total
      rw [Discount.limitOr_of_ne_zero limited positive.ne'] at atMost ⊢
      exact iff_of_true ⟨positive.le, atMost⟩ (Or.inl positive)

end Promotion

/-- Half of the total off, but no more than the limit. -/
def exampleDiscount (amountLimit : Money) : Promotion where
  code := "half"
  startsAt := none
  endsAt := none
  usageLimit := some 1
  usageCount := 0
  discount := ⟨.percentage, 50, some amountLimit⟩
  status := .active

/-- Half of 240 is cut down to 100. -/
theorem Promotion.appliesWithinBounds_iff_limited_half :
    (exampleDiscount 100).AppliesWithinBounds 240 := by
  refine ((exampleDiscount 100).appliesWithinBounds_iff 240 (by decide +kernel)
    (by decide +kernel)).mpr ?_
  rintro limit ⟨⟩
  exact Or.inl (by decide +kernel)

/-- With a limit of zero it is not cut down. -/
theorem Promotion.not_appliesWithinBounds_zero :
    ¬(exampleDiscount 0).AppliesWithinBounds 240 := by
  rintro ⟨discountedAmount, discountedTotal, discounted, -, within⟩
  obtain rfl := Option.some.inj discounted
  have kept := within.atMostLimit 0 rfl
  revert kept
  decide +kernel

end FieldService.Orders
