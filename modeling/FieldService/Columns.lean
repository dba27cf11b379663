/-
This file is about what columns hold of amounts.

Amounts are stored to four decimal places, and a half is rounded away from zero. An amount of whole
ten-thousandths is stored as it is.
-/

import Mathlib.Data.Rat.Floor
import FieldService.Library.Rounding
import FieldService.Shared

namespace FieldService

open Rounding

/-- What a column `decimal(13, 4)` holds of an amount. -/
def toColumn (amount : Money) : Money := roundAway (amount * 10000) / 10000

/-- The amount is one of whole ten-thousandths. -/
def IsWhole (amount : Money) : Prop :=
  ∃ units : ℤ, amount = units / 10000

section

variable {amount other : Money}

theorem isWhole_toColumn (amount : Money) : IsWhole (toColumn amount) := ⟨_, rfl⟩

theorem isWhole_zero : IsWhole 0 := ⟨0, by norm_num⟩

theorem IsWhole.toColumn (whole : IsWhole amount) : toColumn amount = amount := by
  obtain ⟨units, rfl⟩ := whole
  have scaled : (units : Money) / 10000 * 10000 = units := by ring
  rw [FieldService.toColumn, scaled, roundAway_intCast]

theorem IsWhole.add (whole : IsWhole amount) (wholeToo : IsWhole other) :
    IsWhole (amount + other) := by
  obtain ⟨units, rfl⟩ := whole
  obtain ⟨others, rfl⟩ := wholeToo
  exact ⟨units + others, by push_cast; ring⟩

theorem IsWhole.sub (whole : IsWhole amount) (wholeToo : IsWhole other) :
    IsWhole (amount - other) := by
  obtain ⟨units, rfl⟩ := whole
  obtain ⟨others, rfl⟩ := wholeToo
  exact ⟨units - others, by push_cast; ring⟩

theorem IsWhole.mul_left (whole : IsWhole amount) (quantity : ℤ) : IsWhole (quantity * amount) := by
  obtain ⟨units, rfl⟩ := whole
  exact ⟨quantity * units, by push_cast; ring⟩

end

end FieldService
