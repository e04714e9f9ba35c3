import Mathlib.Algebra.Order.BigOperators.Group.Multiset
import Mathlib.Algebra.Order.Floor.Semifield
import Mathlib.Algebra.Order.Ring.Rat
import Mathlib.Data.Int.Log
import Mathlib.Data.Rat.Floor
import Mathlib.Tactic.FieldSimp
import Mathlib.Tactic.Linarith
import Mathlib.Tactic.Positivity
import Mathlib.Tactic.Ring

/-!
# Sums of double precision numbers

A number of 53 binary digits is a rational one, and every operation rounds its exact result
to the nearest of them. Sizes near the ends of the range, where the exponent is at its
bounds, are left out.

* `roundHalfEven`, `round`: the nearest integer, the nearest number of 53 digits;
* `add`, `sum`: addition, and a list added up from the left;
* **`sum_of_ints`**: integers are added up exactly while they and their sums are small;
* **`abs_sum_sub_le`**: numbers that are not negative are added up with a small relative error.
-/

namespace KarsHotel.Double

/-! ## Rounding -/

/-- The nearest integer, the even one of two. -/
def roundHalfEven (x : ℚ) : ℤ :=
  let n := ⌊x⌋
  if x - n < 1 / 2 then n
  else if 1 / 2 < x - n then n + 1
  else if 2 ∣ n then n else n + 1

/-- The distance of the numbers of 53 digits around `x`. -/
def ulp (x : ℚ) : ℚ := 2 ^ (Int.log 2 |x| - 52)

/-- The nearest number of 53 digits. -/
def round (x : ℚ) : ℚ := roundHalfEven (x / ulp x) * ulp x

/-- Half the distance of numbers around 1. -/
def unit : ℚ := 1 / 2 ^ 53

theorem unit_pos : 0 < unit := by unfold unit; positivity

theorem ulp_pos (x : ℚ) : 0 < ulp x := zpow_pos two_pos _

theorem abs_roundHalfEven_sub_le (x : ℚ) : |(roundHalfEven x : ℚ) - x| ≤ 1 / 2 := by
  have hlow := Int.floor_le x
  have hhigh := Int.lt_floor_add_one x
  unfold roundHalfEven
  dsimp only
  split_ifs <;> push_cast <;> rw [abs_le] <;> constructor <;> linarith

theorem roundHalfEven_intCast (n : ℤ) : roundHalfEven n = n := by
  unfold roundHalfEven
  simp

/-- **Rounding is off by one part in `2 ^ 53` at most.** -/
theorem abs_round_sub_le (x : ℚ) : |round x - x| ≤ unit * |x| := by
  rcases eq_or_ne x 0 with rfl | hx
  · have hzero : round 0 = 0 := by
      have hcast := roundHalfEven_intCast 0
      rw [Int.cast_zero] at hcast
      rw [round, zero_div, hcast, Int.cast_zero, zero_mul]
    simp [hzero]
  have hu := ulp_pos x
  have hsplit : round x - x = (roundHalfEven (x / ulp x) - x / ulp x) * ulp x := by
    rw [round, sub_mul, div_mul_cancel₀ x hu.ne']
  have hlog : (2 : ℚ) ^ Int.log 2 |x| ≤ |x| :=
    mod_cast Int.zpow_log_le_self one_lt_two (abs_pos.mpr hx)
  have hulp : ulp x = 2 ^ Int.log 2 |x| / 2 ^ 52 := by
    rw [ulp, zpow_sub₀ two_ne_zero]
    rfl
  calc |round x - x| = |(roundHalfEven (x / ulp x) : ℚ) - x / ulp x| * ulp x := by
        rw [hsplit, abs_mul, abs_of_pos hu]
    _ ≤ 1 / 2 * ulp x := mul_le_mul_of_nonneg_right (abs_roundHalfEven_sub_le _) hu.le
    _ ≤ unit * |x| := by
        rw [hulp, unit]
        linarith

/-- Small integers are numbers of 53 digits. -/
theorem round_intCast {n : ℤ} (h : |n| < 2 ^ 53) : round n = n := by
  have habs : ((|n| : ℤ) : ℚ) = |(n : ℚ)| := Int.cast_abs
  have hle : Int.log 2 |(n : ℚ)| ≤ 52 := by
    rcases eq_or_ne n 0 with rfl | hn
    · simp
    have hpos : 0 < |(n : ℚ)| := abs_pos.mpr (Int.cast_ne_zero.mpr hn)
    have hlog : (2 : ℚ) ^ Int.log 2 |(n : ℚ)| ≤ |(n : ℚ)| := by
      have hself := Int.zpow_log_le_self one_lt_two hpos
      rwa [Nat.cast_two] at hself
    have hlt : |(n : ℚ)| < 2 ^ (53 : ℤ) := by
      rw [← habs]
      exact_mod_cast h
    have hexp := (zpow_lt_zpow_iff_right₀ (one_lt_two (α := ℚ))).mp (hlog.trans_lt hlt)
    omega
  obtain ⟨k, hk⟩ := Int.eq_ofNat_of_zero_le (sub_nonneg.mpr hle)
  have hulp : ulp n = 1 / 2 ^ k := by
    rw [ulp, show Int.log 2 |(n : ℚ)| - 52 = -(k : ℤ) by omega, zpow_neg, zpow_natCast, one_div]
  have hquot : (n : ℚ) / ulp n = ((n * 2 ^ k : ℤ) : ℚ) := by
    rw [hulp]
    push_cast
    field_simp
  rw [round, hquot, roundHalfEven_intCast, ← hquot, div_mul_cancel₀ _ (ulp_pos _).ne']

/-! ## Sums -/

def add (x y : ℚ) : ℚ := round (x + y)

/-- A list added up from the left. -/
def sum (l : List ℚ) : ℚ := l.foldl add 0

theorem sum_concat (l : List ℚ) (x : ℚ) : sum (l ++ [x]) = add (sum l) x := List.foldl_concat ..

/-- **Small integers are added up exactly.** -/
theorem sum_of_ints {l : List ℤ} (h : (l.map fun n => |n|).sum < 2 ^ 53) :
    sum (l.map Int.cast) = (l.sum : ℤ) := by
  induction l using List.reverseRecOn with
  | nil => rfl
  | append_singleton l n ih =>
    rw [List.map_append, List.sum_append, List.map_singleton, List.sum_singleton] at h
    have hl : (l.map fun n => |n|).sum < 2 ^ 53 := by linarith [abs_nonneg n]
    have hsum : |l.sum + n| < 2 ^ 53 := by
      have habs : |l.sum| ≤ (l.map fun n => |n|).sum := by
        simpa using Multiset.abs_sum_le_sum_abs (s := (l : Multiset ℤ))
      exact (abs_add_le _ _).trans_lt (by linarith)
    rw [List.map_append, List.map_singleton, sum_concat, ih hl, List.sum_append, List.sum_singleton, add,
      ← Int.cast_add, round_intCast hsum]

theorem sum_round_of_ints {l : List ℤ} (h : (l.map fun n => |n|).sum < 2 ^ 53) :
    sum ((l.map Int.cast).map round) = (l.sum : ℤ) := by
  have hround : (l.map (Int.cast : ℤ → ℚ)).map round = l.map Int.cast := by
    rw [List.map_map]
    refine List.map_congr_left fun n hn => round_intCast (lt_of_le_of_lt ?_ h)
    refine List.single_le_sum (fun m hm => ?_) _ (List.mem_map_of_mem hn)
    obtain ⟨k, _, rfl⟩ := List.mem_map.mp hm
    exact abs_nonneg k
  rw [hround, sum_of_ints h]

theorem abs_add_round_sub_le {s S x e : ℚ} (hS : 0 ≤ S) (hx : 0 ≤ x) (he : unit ≤ e)
    (hs : |s - S| ≤ e * S) :
    |add s (round x) - (S + x)| ≤ ((1 + unit) * (1 + e) - 1) * (S + x) := by
  have hround := abs_round_sub_le x
  rw [abs_of_nonneg hx] at hround
  -- the exact sum of the two numbers is off by their errors
  have hexact : |s + round x - (S + x)| ≤ e * (S + x) := by
    have hsplit : s + round x - (S + x) = (s - S) + (round x - x) := by ring
    calc |s + round x - (S + x)| ≤ |s - S| + |round x - x| := hsplit ▸ abs_add_le _ _
      _ ≤ e * S + e * x := add_le_add hs (hround.trans (mul_le_mul_of_nonneg_right he hx))
      _ = e * (S + x) := by ring
  have hsize : |s + round x| ≤ (1 + e) * (S + x) := by
    have hsplit : s + round x = (s + round x - (S + x)) + (S + x) := by ring
    calc |s + round x| ≤ |s + round x - (S + x)| + |S + x| := by
          conv_lhs => rw [hsplit]
          exact abs_add_le _ _
      _ ≤ e * (S + x) + (S + x) := add_le_add hexact (abs_of_nonneg (add_nonneg hS hx)).le
      _ = (1 + e) * (S + x) := by ring
  have hlast : |add s (round x) - (s + round x)| ≤ unit * ((1 + e) * (S + x)) :=
    (abs_round_sub_le _).trans (mul_le_mul_of_nonneg_left hsize unit_pos.le)
  have hsplit : add s (round x) - (S + x) =
      (add s (round x) - (s + round x)) + (s + round x - (S + x)) := by ring
  calc |add s (round x) - (S + x)| ≤ unit * ((1 + e) * (S + x)) + e * (S + x) := by
        rw [hsplit]
        exact (abs_add_le _ _).trans (add_le_add hlast hexact)
    _ = ((1 + unit) * (1 + e) - 1) * (S + x) := by ring

/-- The relative error of a sum of `n` rounded numbers. -/
def sumError (n : ℕ) : ℚ := (1 + unit) ^ (n + 1) - 1

theorem unit_le_sumError (n : ℕ) : unit ≤ sumError n := by
  have hone : 1 ≤ (1 + unit) ^ n := one_le_pow₀ (le_add_of_nonneg_right unit_pos.le)
  have hmul : 1 + unit ≤ (1 + unit) ^ n * (1 + unit) :=
    le_mul_of_one_le_left (by linarith [unit_pos]) hone
  rw [sumError, pow_succ]
  linarith

/-- **Rounded numbers that are not negative are added up with a small relative error.** -/
theorem abs_sum_sub_le {l : List ℚ} (h : ∀ x ∈ l, 0 ≤ x) :
    |sum (l.map round) - l.sum| ≤ sumError l.length * l.sum := by
  induction l using List.reverseRecOn with
  | nil => simp [sum]
  | append_singleton l x ih =>
    have hl : ∀ y ∈ l, 0 ≤ y := fun y hy => h y (List.mem_append_left _ hy)
    have hstep := abs_add_round_sub_le (List.sum_nonneg hl)
      (h x (List.mem_append_right _ List.mem_cons_self)) (unit_le_sumError _) (ih hl)
    have herror : (1 + unit) * (1 + sumError l.length) - 1 = sumError (l ++ [x]).length := by
      rw [sumError, sumError, List.length_append, List.length_singleton]
      ring
    rw [List.map_append, List.map_singleton, sum_concat, List.sum_append, List.sum_singleton]
    rwa [herror] at hstep

end KarsHotel.Double
