import Mathlib.Algebra.Order.Floor.Ring
import Mathlib.Data.Rat.Floor
import Mathlib.Tactic.FieldSimp
import Mathlib.Tactic.Positivity

/-!
# Rounding down to decimal places

`toPlaces places x` cuts `x` after so many decimal places: the greatest multiple of `10 ^ -places`
that is not above `x`. A number that is not negative is cut to zero exactly when it is below the
last place.
-/

namespace Rounding

section Field

variable {K : Type} [Field K] [LinearOrder K] [IsStrictOrderedRing K] [FloorRing K]

def toPlaces (places : Nat) (x : K) : K := (⌊x * 10 ^ places⌋ : K) / 10 ^ places

theorem toPlaces_nonneg {places : Nat} {x : K} (hx : 0 ≤ x) : 0 ≤ toPlaces places x := by
  have hfloor : 0 ≤ ⌊x * 10 ^ places⌋ := Int.floor_nonneg.2 (by positivity)
  have hcast : (0 : K) ≤ (⌊x * 10 ^ places⌋ : K) := Int.cast_nonneg hfloor
  rw [toPlaces]
  positivity

theorem toPlaces_pos_iff {places : Nat} {x : K} :
    0 < toPlaces places x ↔ 1 ≤ x * 10 ^ places := by
  have hplaces : (0 : K) < 10 ^ places := by positivity
  rw [toPlaces, div_pos_iff_of_pos_right hplaces, Int.cast_pos, Int.floor_pos]

theorem toPlaces_eq_zero_iff {places : Nat} {x : K} (hx : 0 ≤ x) :
    toPlaces places x = 0 ↔ x * 10 ^ places < 1 := by
  rw [← not_le, ← toPlaces_pos_iff, (toPlaces_nonneg hx).lt_iff_ne', not_not]

end Field

/-- Cutting a fraction is a division of naturals. -/
theorem toPlaces_div (places a b : Nat) :
    toPlaces places ((a : ℚ) / b) = (a * 10 ^ places / b : Nat) / 10 ^ places := by
  have hscaled : (a : ℚ) / b * 10 ^ places = ((a * 10 ^ places : Nat) : ℚ) / (b : ℚ) := by
    push_cast
    ring
  rw [toPlaces, hscaled, Rat.floor_natCast_div_natCast, ← Int.natCast_ediv, Int.cast_natCast]

end Rounding
