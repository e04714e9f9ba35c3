import Mathlib.Algebra.Order.Round
import Mathlib.Data.Rat.Floor
import Mathlib.Tactic.FieldSimp
import Mathlib.Tactic.Linarith
import Mathlib.Tactic.Positivity
import Mathlib.Tactic.Ring

/-!
# Decimals rounded half up

* `toDecimalPlaces`: a number at so many decimal places, halves away from zero;
* `RoundsTo`: the nearest number of so many places, of two the one further from zero;
* **`toDecimalPlaces_roundsTo`**, **`RoundsTo.unique`**: the one is the other.
-/

namespace KarsHotel

abbrev Decimal := ℚ

/-- A number rounded half up to so many decimal places. -/
def toDecimalPlaces (x : Decimal) (places : ℕ) : Decimal :=
  if x < 0 then -(round (-x * 10 ^ places) / 10 ^ places) else round (x * 10 ^ places) / 10 ^ places

/-- `r` has so many places, is at most half a unit from `x`, and further from zero if it is half a
unit away. -/
structure RoundsTo (places : ℕ) (x r : Decimal) : Prop where
  units : ∃ k : ℤ, r * 10 ^ places = k
  near : |x - r| * 10 ^ places ≤ 1 / 2
  tie : |x - r| * 10 ^ places = 1 / 2 → |x| < |r|

namespace RoundsTo

variable {places : ℕ} {x r s : Decimal}

theorem abs_mul_places (y : Decimal) (places : ℕ) : |y| * 10 ^ places = |y * 10 ^ places| := by
  rw [abs_mul, abs_of_pos (a := (10 : ℚ) ^ places) (by positivity)]

theorem neg (h : RoundsTo places x r) : RoundsTo places (-x) (-r) := by
  have hdist : |-x - -r| = |x - r| := by
    rw [neg_sub_neg]
    exact abs_sub_comm r x
  refine ⟨?_, ?_, ?_⟩
  · obtain ⟨k, hk⟩ := h.units
    exact ⟨-k, by rw [neg_mul, hk, Int.cast_neg]⟩
  · rw [hdist]
    exact h.near
  · rw [hdist, abs_neg, abs_neg]
    exact h.tie

/-- **Rounding is determined**: two units half a unit from a number lie on its two sides, and only
one of them is further from zero. -/
theorem unique (hr : RoundsTo places x r) (hs : RoundsTo places x s) : r = s := by
  have hpos : (0 : ℚ) < 10 ^ places := by positivity
  obtain ⟨k, hk⟩ := hr.units
  obtain ⟨l, hl⟩ := hs.units
  have hsum : |r - s| * 10 ^ places ≤ |x - r| * 10 ^ places + |x - s| * 10 ^ places := by
    rw [← add_mul]
    refine mul_le_mul_of_nonneg_right ?_ hpos.le
    rw [abs_sub_comm x r]
    exact abs_sub_le r x s
  have hunits : |r - s| * 10 ^ places = ((|k - l| : ℤ) : ℚ) := by
    rw [abs_mul_places, sub_mul, hk, hl, Int.cast_abs, Int.cast_sub]
  by_cases hkl : k = l
  · apply mul_right_cancel₀ hpos.ne'
    rw [hk, hl, hkl]
  have hone : (1 : ℚ) ≤ |r - s| * 10 ^ places := by
    rw [hunits]
    exact_mod_cast Int.one_le_abs (sub_ne_zero.mpr hkl)
  have hr' : |x - r| * 10 ^ places = 1 / 2 := by linarith [hr.near, hs.near]
  have hs' : |x - s| * 10 ^ places = 1 / 2 := by linarith [hr.near, hs.near]
  have hsame : |x - r| = |x - s| := mul_right_cancel₀ hpos.ne' (hr'.trans hs'.symm)
  have hstep : |k - l| = 1 := by
    have hle : ((|k - l| : ℤ) : ℚ) ≤ 1 := by linarith
    have hge := Int.one_le_abs (sub_ne_zero.mpr hkl)
    have hle' : |k - l| ≤ 1 := by exact_mod_cast hle
    omega
  -- Equidistant and different, so `x` is halfway between the two.
  rcases abs_eq_abs.mp hsame with h | h
  · linarith
  have hmid : 2 * |x| * 10 ^ places = ((|k + l| : ℤ) : ℚ) := by
    have hx : 2 * x = r + s := by linarith
    rw [Int.cast_abs, Int.cast_add, ← hk, ← hl, ← add_mul, ← hx, ← abs_mul_places, abs_mul, abs_two]
  have hk' : |k + l| < 2 * |k| := by
    have hlt : 2 * |x| * 10 ^ places < 2 * |r| * 10 ^ places :=
      mul_lt_mul_of_pos_right (by linarith [hr.tie hr']) hpos
    rw [hmid, mul_assoc, abs_mul_places, hk] at hlt
    exact_mod_cast hlt
  have hl' : |k + l| < 2 * |l| := by
    have hlt : 2 * |x| * 10 ^ places < 2 * |s| * 10 ^ places :=
      mul_lt_mul_of_pos_right (by linarith [hs.tie hs']) hpos
    rw [hmid, mul_assoc, abs_mul_places, hl] at hlt
    exact_mod_cast hlt
  rw [Int.abs_eq_natAbs] at hstep hk' hl'
  rw [Int.abs_eq_natAbs] at hk' hl'
  omega

end RoundsTo

/-- A number that is not negative is rounded by `round`. -/
theorem roundsTo_round {x : Decimal} (places : ℕ) (hx : 0 ≤ x) :
    RoundsTo places x (round (x * 10 ^ places) / 10 ^ places) := by
  have hpos : (0 : ℚ) < 10 ^ places := by positivity
  generalize hk : round (x * 10 ^ places) = k
  have hdist : |x - k / 10 ^ places| * 10 ^ places = |x * 10 ^ places - k| := by
    rw [RoundsTo.abs_mul_places, sub_mul, div_mul_cancel₀ _ hpos.ne']
  refine ⟨⟨k, div_mul_cancel₀ _ hpos.ne'⟩, ?_, ?_⟩
  · rw [hdist, ← hk]
    exact abs_sub_round _
  · rw [hdist]
    intro htie
    -- `round` takes the upper neighbour of a number halfway between two.
    have hlow : x * 10 ^ places < k + 1 / 2 := by
      rw [← hk, round_eq]
      linarith [Int.sub_one_lt_floor (x * 10 ^ places + 1 / 2)]
    have hlt : x < k / 10 ^ places := by
      rw [lt_div_iff₀ hpos]
      rcases abs_cases (x * 10 ^ places - k) with h | h <;> linarith
    rw [abs_of_nonneg hx, abs_of_nonneg (hx.trans hlt.le)]
    exact hlt

/-- **`toDecimalPlaces` rounds half up.** -/
theorem toDecimalPlaces_roundsTo (x : Decimal) (places : ℕ) :
    RoundsTo places x (toDecimalPlaces x places) := by
  unfold toDecimalPlaces
  by_cases hx : x < 0
  · rw [if_pos hx]
    have h := (roundsTo_round places (neg_nonneg.mpr hx.le)).neg
    rwa [neg_neg] at h
  · rw [if_neg hx]
    exact roundsTo_round places (not_lt.mp hx)

/-- A number that is negative is not rounded above zero. -/
theorem toDecimalPlaces_nonpos {x : Decimal} (places : ℕ) (hx : x < 0) :
    toDecimalPlaces x places ≤ 0 := by
  rw [toDecimalPlaces, if_pos hx, neg_nonpos]
  have hround : (0 : ℤ) ≤ round (-x * 10 ^ places) := by
    rw [round_eq, Int.floor_nonneg]
    have hmul : 0 ≤ -x * 10 ^ places := mul_nonneg (neg_nonneg.mpr hx.le) (by positivity)
    linarith
  exact div_nonneg (by exact_mod_cast hround) (by positivity)


end KarsHotel
