import Mathlib.Data.Int.Notation
import Mathlib.Data.List.Basic
import Mathlib.Tactic.Common
import Mathlib.Tactic.Linarith

/-!
# Calendar dates and their texts

Days counted from 1970-01-01 in the proleptic Gregorian calendar, and the text `yyyy-mm-dd`.

* `CivilDate.ofDay`, `CivilDate.toDay`, **`CivilDate.toDay_ofDay`**: a day is found again
  from its date;
* `digits`, **`digits_append`**: numerals of a fixed width can be read off the front of a text;
* **`isoDate_injective`**: two days with one text are one day.
-/

namespace KarsHotel

/-! ## Dates -/

structure CivilDate where
  year : ℤ
  month : ℕ
  day : ℕ
  deriving DecidableEq, Repr

namespace CivilDate

/-- The year of a day and where in it the day stands. Years are counted from March, so that the leap
day is the last of its year; 400 of them are 146097 days, a century 36524 and four years 1461. -/
def marchYear (z : ℤ) : ℤ × ℤ :=
  let days := z + 719468
  let ofEra := days % 146097
  let century := min (ofEra / 36524) 3
  let ofCentury := ofEra - century * 36524
  let ofFour := ofCentury % 1461
  let year := min (ofFour / 365) 3
  (days / 146097 * 400 + century * 100 + ofCentury / 1461 * 4 + year, ofFour - year * 365)

/-- The day on which a year counted from March begins. -/
def marchFirst (y : ℤ) : ℤ :=
  y / 400 * 146097 + y % 400 * 365 + y % 400 / 4 - y % 400 / 100 - 719468

def ofDay (z : ℤ) : CivilDate :=
  let y := (marchYear z).1
  let ofYear := (marchYear z).2
  let month := (5 * ofYear + 2) / 153
  let day := (ofYear - (153 * month + 2) / 5 + 1).toNat
  if month < 10 then ⟨y, (month + 3).toNat, day⟩ else ⟨y + 1, (month - 9).toNat, day⟩

def toDay (c : CivilDate) : ℤ :=
  if 2 < c.month then marchFirst c.year + (153 * (c.month - 3 : ℤ) + 2) / 5 + c.day - 1
  else marchFirst (c.year - 1) + (153 * (c.month + 9 : ℤ) + 2) / 5 + c.day - 1

section Bounds

variable {a q r : ℤ}

theorem min_div_bounds {n : ℤ} (hn : n = 36524 ∨ n = 365) (ha : 0 ≤ a) (ha' : a < 4 * n + 1)
    (hq : min (a / n) 3 = q) (hr : a - q * n = r) : 0 ≤ q ∧ q ≤ 3 ∧ 0 ≤ r ∧ r ≤ n := by
  rcases hn with rfl | rfl <;> omega

theorem four_bounds (ha : 0 ≤ a) (ha' : a ≤ 36524) (hq : a / 1461 = q) (hr : a % 1461 = r) :
    0 ≤ q ∧ q ≤ 24 ∧ 0 ≤ r ∧ r < 4 * 365 + 1 ∧ a = q * 1461 + r := by
  omega

theorem month_bounds (ha : 0 ≤ a) (ha' : a ≤ 365) (hq : (5 * a + 2) / 153 = q) :
    0 ≤ q ∧ q ≤ 11 ∧ 0 ≤ a - (153 * q + 2) / 5 ∧ a - (153 * q + 2) / 5 ≤ 31 := by
  omega

end Bounds

/-- A year of an era, its leap years and its full centuries. -/
theorem ofEra_parts (era : ℤ) {century four year : ℤ} (hc : 0 ≤ century ∧ century ≤ 3)
    (hf : 0 ≤ four ∧ four ≤ 24) (hy : 0 ≤ year ∧ year ≤ 3) :
    (era * 400 + century * 100 + four * 4 + year) / 400 = era ∧
      (era * 400 + century * 100 + four * 4 + year) % 400 = century * 100 + four * 4 + year ∧
      (century * 100 + four * 4 + year) / 4 = century * 25 + four ∧
      (century * 100 + four * 4 + year) / 100 = century := by
  omega

theorem marchYear_spec (z : ℤ) : z = marchFirst (marchYear z).1 + (marchYear z).2 ∧
    0 ≤ (marchYear z).2 ∧ (marchYear z).2 ≤ 365 := by
  simp only [marchYear, marchFirst]
  generalize hera : (z + 719468) / 146097 = era
  generalize hofEra : (z + 719468) % 146097 = ofEra
  generalize hcentury : min (ofEra / 36524) 3 = century
  generalize hofCentury : ofEra - century * 36524 = ofCentury
  generalize hfour : ofCentury / 1461 = four
  generalize hofFour : ofCentury % 1461 = ofFour
  generalize hyear : min (ofFour / 365) 3 = year
  generalize hofYear : ofFour - year * 365 = ofYear
  have hz : z + 719468 = era * 146097 + ofEra ∧ 0 ≤ ofEra ∧ ofEra < 146097 := by
    clear hcentury hofCentury hfour hofFour hyear hofYear
    omega
  obtain ⟨hc, hc', hr, hr'⟩ := min_div_bounds (Or.inl rfl) hz.2.1 hz.2.2 hcentury hofCentury
  obtain ⟨hf, hf', hs, hs', hparts⟩ := four_bounds hr hr' hfour hofFour
  obtain ⟨hy, hy', ht, ht'⟩ := min_div_bounds (Or.inr rfl) hs hs' hyear hofYear
  obtain ⟨hquot, hrem, hleap, hfull⟩ := ofEra_parts era ⟨hc, hc'⟩ ⟨hf, hf'⟩ ⟨hy, hy'⟩
  rw [hquot, hrem, hleap, hfull]
  clear hera hofEra hcentury hfour hofFour hyear hquot hrem hleap hfull
  exact ⟨by linarith, ht, ht'⟩

/-- **A day is found again from its date.** -/
theorem toDay_ofDay (z : ℤ) : (ofDay z).toDay = z := by
  obtain ⟨hz, h0, h365⟩ := marchYear_spec z
  obtain ⟨hm, hm', hd, -⟩ := month_bounds h0 h365 rfl
  simp only [ofDay]
  generalize (5 * (marchYear z).2 + 2) / 153 = month at hm hm' hd ⊢
  have hday : (((marchYear z).2 - (153 * month + 2) / 5 + 1).toNat : ℤ) =
      (marchYear z).2 - (153 * month + 2) / 5 + 1 := Int.toNat_of_nonneg (by omega)
  by_cases hlate : month < 10
  · have h2 : 2 < (month + 3).toNat := by omega
    have hback : ((month + 3).toNat : ℤ) - 3 = month := by omega
    rw [if_pos hlate, toDay, if_pos h2, hback, hday]
    linarith
  · have h2 : ¬2 < (month - 9).toNat := by omega
    have hback : ((month - 9).toNat : ℤ) + 9 = month := by omega
    rw [if_neg hlate, toDay, if_neg h2, hback, hday, add_sub_cancel_right]
    linarith

theorem ofDay_lt (z : ℤ) : (ofDay z).month < 100 ∧ (ofDay z).day < 100 := by
  obtain ⟨-, h0, h365⟩ := marchYear_spec z
  obtain ⟨hm, hm', hd, hd'⟩ := month_bounds h0 h365 rfl
  simp only [ofDay]
  generalize (5 * (marchYear z).2 + 2) / 153 = month at hm hm' hd hd' ⊢
  split_ifs <;> constructor <;> dsimp only <;> omega

end CivilDate

/-! ## Numerals of a fixed width -/

/-- The last `width` decimal digits of a number. -/
def digits : ℕ → ℕ → List Char
  | 0, _ => []
  | width + 1, n => digits width (n / 10) ++ [Nat.digitChar (n % 10)]

@[simp] theorem length_digits (width n : ℕ) : (digits width n).length = width := by
  induction width generalizing n with
  | zero => rfl
  | succ width ih => simp [digits, ih]

theorem digitChar_injective {m n : ℕ} (hm : m < 10) (hn : n < 10)
    (h : Nat.digitChar m = Nat.digitChar n) : m = n := by
  have := congrArg (fun c => Nat.ofDigitChars 10 [c] 0) h
  simpa [Nat.ofDigitChars_cons_digitChar_of_lt_ten, hm, hn] using this

theorem isDigit_of_mem_digits {width n : ℕ} {c : Char} (h : c ∈ digits width n) :
    c.isDigit = true := by
  induction width generalizing n with
  | zero => exact absurd h List.not_mem_nil
  | succ width ih =>
    rcases List.mem_append.mp h with h | h
    · exact ih h
    · have hlt : n % 10 < 10 := Nat.mod_lt _ (by decide)
      rw [List.mem_singleton.mp h, Nat.isDigit_digitChar, decide_eq_true hlt]

theorem digits_injective {width m n : ℕ} (hm : m < 10 ^ width) (hn : n < 10 ^ width)
    (h : digits width m = digits width n) : m = n := by
  induction width generalizing m n with
  | zero => omega
  | succ width ih =>
    obtain ⟨hfront, hlast⟩ := List.append_inj' h rfl
    have hdiv : m / 10 = n / 10 := by
      apply ih _ _ hfront
      · rw [pow_succ] at hm; omega
      · rw [pow_succ] at hn; omega
    have hmod : m % 10 = n % 10 :=
      digitChar_injective (Nat.mod_lt _ (by decide)) (Nat.mod_lt _ (by decide))
        (List.cons_eq_cons.mp hlast).1
    omega

/-- **A numeral of a fixed width can be read off the front of a text.** -/
theorem digits_append {width m n : ℕ} {x y : List Char} (hm : m < 10 ^ width)
    (hn : n < 10 ^ width) (h : digits width m ++ x = digits width n ++ y) : m = n ∧ x = y := by
  obtain ⟨hfront, hrest⟩ := List.append_inj h (by simp)
  exact ⟨digits_injective hm hn hfront, hrest⟩

/-! ## The text of a day -/

def yearSign (y : ℤ) : Char := if y < 0 then '-' else '+'

/-- A year of four digits; other years have a sign. -/
def yearText (y : ℤ) : List Char :=
  if 0 ≤ y ∧ y ≤ 9999 then digits 4 y.toNat else yearSign y :: Nat.toDigits 10 y.natAbs

def isoDate (z : ℤ) : String :=
  let c := CivilDate.ofDay z
  String.ofList (yearText c.year ++ '-' :: (digits 2 c.month ++ '-' :: digits 2 c.day))

example : isoDate 0 = "1970-01-01" := by decide +kernel

example : isoDate 19782 = "2024-02-29" := by decide +kernel

theorem yearSign_injective {y z : ℤ} (h : yearSign y = yearSign z) : y < 0 ↔ z < 0 := by
  unfold yearSign at h
  split_ifs at h with hy hz hz
  · exact iff_of_true hy hz
  · exact absurd h (by decide)
  · exact absurd h (by decide)
  · exact iff_of_false hy hz

theorem digits_ne_sign (n : ℕ) (y : ℤ) (r : List Char) : digits 4 n ≠ yearSign y :: r := by
  intro h
  have hmem : yearSign y ∈ digits 4 n := h ▸ List.mem_cons_self
  have hsign : (yearSign y).isDigit = false := by
    unfold yearSign
    split_ifs <;> decide
  rw [isDigit_of_mem_digits hmem] at hsign
  cases hsign

theorem yearText_injective : Function.Injective yearText := by
  intro y z h
  unfold yearText at h
  by_cases hy : 0 ≤ y ∧ y ≤ 9999 <;> by_cases hz : 0 ≤ z ∧ z ≤ 9999
  · rw [if_pos hy, if_pos hz] at h
    have := digits_injective (by omega) (by omega) h
    omega
  · rw [if_pos hy, if_neg hz] at h
    exact absurd h (digits_ne_sign _ _ _)
  · rw [if_neg hy, if_pos hz] at h
    exact absurd h.symm (digits_ne_sign _ _ _)
  · rw [if_neg hy, if_neg hz] at h
    obtain ⟨hsign, habs⟩ := List.cons_eq_cons.mp h
    have hneg := yearSign_injective hsign
    have hvalue := congrArg (Nat.ofDigitChars 10 · 0) habs
    simp only [Nat.ofDigitChars_ten_toDigits] at hvalue
    omega

/-- **Two days with one text are one day.** -/
theorem isoDate_injective : Function.Injective isoDate := by
  intro y z h
  obtain ⟨hym, hyd⟩ := CivilDate.ofDay_lt y
  obtain ⟨hzm, hzd⟩ := CivilDate.ofDay_lt z
  obtain ⟨hyear, hrest⟩ := List.append_inj' (String.ofList_injective h) (by simp)
  obtain ⟨hmonth, hrest⟩ := digits_append hym hzm (List.cons_eq_cons.mp hrest).2
  have hday := digits_injective hyd hzd (List.cons_eq_cons.mp hrest).2
  have hdate : CivilDate.ofDay y = CivilDate.ofDay z := by
    have := yearText_injective hyear
    cases hcy : CivilDate.ofDay y
    cases hcz : CivilDate.ofDay z
    simp_all
  rw [← CivilDate.toDay_ofDay y, hdate, CivilDate.toDay_ofDay]

end KarsHotel
