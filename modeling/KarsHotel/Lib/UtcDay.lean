import KarsHotel.Lib.Calendar

/-!
# Days made of the parts of a date

`Date.UTC(y, m, d)` reads the years 0, …, 99 as 1900, …, 1999. A helper that takes a date apart and
puts it together with `Date.UTC` moves the days of these years and no others.

* `Early`: a day of the years 0, …, 99; **`early_iff`**: these days stand in a row;
* `utcDay`, `utcAddDays`: what `Date.UTC` makes of the parts of a day, and with days added;
* **`utcDay_eq_iff`**, **`utcDay_utcDay`**: it moves the early days, once.
-/

namespace KarsHotel

open CivilDate

/-- The year as `Date.UTC` reads it. -/
def utcYear (y : ℤ) : ℤ := if 0 ≤ y ∧ y ≤ 99 then y + 1900 else y

/-- `Date.UTC` of the year, month and day of a day. -/
def utcDay (z : ℤ) : ℤ :=
  let c := ofDay z
  ({ c with year := utcYear c.year } : CivilDate).toDay

/-- `Date.UTC` with days added to the day; they run on into the next months. -/
def utcAddDays (z n : ℤ) : ℤ := utcDay z + n

/-- A day of the years 0, …, 99. -/
def Early (z : ℤ) : Prop := 0 ≤ (ofDay z).year ∧ (ofDay z).year ≤ 99

instance (z : ℤ) : Decidable (Early z) := by
  unfold Early
  infer_instance

theorem ofDay_year (z : ℤ) : (ofDay z).year =
    if (marchYear z).2 < 306 then (marchYear z).1 else (marchYear z).1 + 1 := by
  obtain ⟨-, h0, h365⟩ := marchYear_spec z
  have hmonth : (5 * (marchYear z).2 + 2) / 153 < 10 ↔ (marchYear z).2 < 306 := by omega
  simp only [ofDay, hmonth]
  split_ifs <;> rfl

theorem marchFirst_succ (y : ℤ) : marchFirst y + 365 ≤ marchFirst (y + 1) := by
  unfold marchFirst
  omega

theorem marchFirst_mono {y y' : ℤ} (h : y ≤ y') : marchFirst y ≤ marchFirst y' := by
  unfold marchFirst
  omega

/-- **The early days** stand in a row. -/
theorem early_iff {z : ℤ} : Early z ↔ -719528 ≤ z ∧ z < -683003 := by
  obtain ⟨hz, h0, h365⟩ := marchYear_spec z
  have hm1 : marchFirst (-1) = -719834 := by decide
  have h0y : marchFirst 0 = -719468 := by decide
  have h99 : marchFirst 99 = -683309 := by decide
  have h100 : marchFirst 100 = -682944 := by decide
  unfold Early
  rw [ofDay_year]
  generalize (marchYear z).1 = y at hz ⊢
  generalize (marchYear z).2 = r at hz h0 h365 ⊢
  have hsucc := marchFirst_succ y
  by_cases hr : r < 306
  · rw [if_pos hr]
    constructor
    · rintro ⟨h, h'⟩
      have hlow := marchFirst_mono h
      have hhigh := marchFirst_mono h'
      omega
    · rintro ⟨h, h'⟩
      refine ⟨not_lt.mp fun hy => ?_, not_lt.mp fun hy => ?_⟩
      · have hlow := marchFirst_mono (show y ≤ -1 by omega)
        omega
      · have hhigh := marchFirst_mono (show 100 ≤ y by omega)
        omega
  · rw [if_neg hr]
    constructor
    · rintro ⟨h, h'⟩
      have hlow := marchFirst_mono (show -1 ≤ y by omega)
      have hhigh := marchFirst_mono (show y + 1 ≤ 99 by omega)
      omega
    · rintro ⟨h, h'⟩
      refine ⟨not_lt.mp fun hy => ?_, not_lt.mp fun hy => ?_⟩
      · have hlow := marchFirst_mono (show y + 1 ≤ -1 by omega)
        omega
      · have hhigh := marchFirst_mono (show 99 ≤ y by omega)
        omega

/-- A date some years later, on the same place of its March year. -/
theorem toDay_addYears (z n : ℤ) :
    ({ ofDay z with year := (ofDay z).year + n } : CivilDate).toDay =
      z + (marchFirst ((marchYear z).1 + n) - marchFirst (marchYear z).1) := by
  have hback := toDay_ofDay z
  obtain ⟨-, h0, h365⟩ := marchYear_spec z
  have hyear := ofDay_year z
  have hmonth : 2 < (ofDay z).month ↔ (marchYear z).2 < 306 := by
    simp only [ofDay]
    split_ifs <;> dsimp only <;> omega
  unfold toDay at hback ⊢
  simp only [hmonth] at hback ⊢
  by_cases hr : (marchYear z).2 < 306
  · rw [if_pos hr] at hback hyear ⊢
    rw [hyear] at hback ⊢
    linarith
  · rw [if_neg hr] at hback hyear ⊢
    rw [hyear, add_sub_cancel_right] at hback
    have hlater : (marchYear z).1 + 1 + n - 1 = (marchYear z).1 + n := by omega
    rw [hyear, hlater]
    linarith

theorem utcDay_of_not_early {z : ℤ} (h : ¬Early z) : utcDay z = z := by
  have hyear : utcYear (ofDay z).year = (ofDay z).year := if_neg h
  unfold utcDay
  dsimp only
  rw [hyear]
  exact toDay_ofDay z

theorem marchFirst_add (y : ℤ) (n : ℕ) : marchFirst y + 365 * n ≤ marchFirst (y + n) := by
  induction n with
  | zero => simp
  | succ n ih =>
    have hsucc := marchFirst_succ (y + n)
    push_cast
    rw [← add_assoc]
    linarith

/-- An early day is read as a later one. -/
theorem utcDay_of_early {z : ℤ} (h : Early z) : -683003 ≤ utcDay z := by
  have hlow := (early_iff.mp h).1
  have hyear : utcYear (ofDay z).year = (ofDay z).year + 1900 := if_pos h
  have hyears := marchFirst_add (marchYear z).1 1900
  unfold utcDay
  dsimp only
  rw [hyear, toDay_addYears]
  push_cast at hyears
  linarith

/-- **Only the early days are moved.** -/
theorem utcDay_eq_iff {z : ℤ} : utcDay z = z ↔ ¬Early z := by
  constructor
  · intro heq hz
    have h₁ := (early_iff.mp hz).2
    have h₂ := utcDay_of_early hz
    omega
  · exact utcDay_of_not_early

/-- No day is moved to an early day. -/
theorem not_early_utcDay (z : ℤ) : ¬Early (utcDay z) := by
  by_cases hz : Early z
  · have h := utcDay_of_early hz
    rw [early_iff]
    omega
  · rwa [utcDay_of_not_early hz]

/-- **A day is moved once.** -/
@[simp] theorem utcDay_utcDay (z : ℤ) : utcDay (utcDay z) = utcDay z :=
  utcDay_of_not_early (not_early_utcDay z)

@[simp] theorem utcAddDays_utcDay (z n : ℤ) : utcAddDays (utcDay z) n = utcDay z + n := by
  rw [utcAddDays, utcDay_utcDay]

example : isoDate (utcDay (-700000)) = "1953-06-19" := by decide +kernel

end KarsHotel
