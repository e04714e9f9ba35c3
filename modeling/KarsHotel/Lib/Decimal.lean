import KarsHotel.Lib.Calendar
import KarsHotel.Lib.Json
import Mathlib.Data.Nat.Digits.Defs

/-!
# Texts of decimal numbers

A number of hundredths as `String(decimal)` prints it: without zeros at the end.

* `decimalText`; **`decimalText_injective`**;
* `JsonNumber.ofDecimal`: the same number in a JSON value.
-/

namespace KarsHotel

/-- The fraction of so many hundredths. -/
def fractionText (r : ℕ) : List Char :=
  if r = 0 then []
  else if r % 10 = 0 then ['.', Nat.digitChar (r / 10)]
  else ['.', Nat.digitChar (r / 10), Nat.digitChar (r % 10)]

/-- The characters of a number of hundredths. -/
def decimalChars (k : ℤ) : List Char :=
  (if k < 0 then ['-'] else []) ++ (Nat.toDigits 10 (k.natAbs / 100) ++ fractionText (k.natAbs % 100))

/-- `String(decimal)`. -/
def decimalText (k : ℤ) : String := String.ofList (decimalChars k)

example : decimalText 280050 = "2800.5" := by decide +kernel

example : decimalText (-700) = "-7" := by decide +kernel

theorem fractionText_injective {r s : ℕ} (hr : r < 100) (hs : s < 100)
    (h : fractionText r = fractionText s) : r = s := by
  have hten : Nat.digitChar (r / 10) = Nat.digitChar (s / 10) → r / 10 = s / 10 :=
    digitChar_injective (by omega) (by omega)
  have hone : Nat.digitChar (r % 10) = Nat.digitChar (s % 10) → r % 10 = s % 10 :=
    digitChar_injective (by omega) (by omega)
  unfold fractionText at h
  split_ifs at h <;> simp only [List.cons.injEq, and_true, true_and, reduceCtorEq, and_false] at h
  · omega
  · have := hten h
    omega
  · have := hten h.1
    have := hone h.2
    omega

theorem toDigits_injective {m n : ℕ} (h : Nat.toDigits 10 m = Nat.toDigits 10 n) : m = n := by
  have hvalue := congrArg (Nat.ofDigitChars 10 · 0) h
  simpa only [Nat.ofDigitChars_ten_toDigits] using hvalue

theorem isDigit_of_mem_toDigits {n : ℕ} {c : Char} (h : c ∈ Nat.toDigits 10 n) :
    c.isDigit = true :=
  Nat.isDigit_of_mem_toDigits (by decide) (by decide) h

theorem takeWhile_fractionText (r : ℕ) : (fractionText r).takeWhile Char.isDigit = [] := by
  unfold fractionText
  split_ifs <;> rfl

theorem takeWhile_toDigits (n r : ℕ) :
    (Nat.toDigits 10 n ++ fractionText r).takeWhile Char.isDigit = Nat.toDigits 10 n := by
  rw [List.takeWhile_append_of_pos fun c hc => isDigit_of_mem_toDigits hc, takeWhile_fractionText,
    List.append_nil]

/-- The whole part and the fraction can be told apart. -/
theorem toDigits_append_fraction {m n r s : ℕ} (hr : r < 100) (hs : s < 100)
    (h : Nat.toDigits 10 m ++ fractionText r = Nat.toDigits 10 n ++ fractionText s) :
    m = n ∧ r = s := by
  have hwhole : Nat.toDigits 10 m = Nat.toDigits 10 n := by
    have := congrArg (List.takeWhile Char.isDigit) h
    rwa [takeWhile_toDigits, takeWhile_toDigits] at this
  rw [hwhole] at h
  exact ⟨toDigits_injective hwhole, fractionText_injective hr hs (List.append_cancel_left h)⟩

/-- The digits of a number do not start with the minus sign. -/
theorem toDigits_append_ne_minus (n : ℕ) (x y : List Char) : Nat.toDigits 10 n ++ x ≠ '-' :: y := by
  intro h
  cases hd : Nat.toDigits 10 n with
  | nil => exact Nat.toDigits_ne_nil hd
  | cons c l =>
    have hc : c.isDigit = true := isDigit_of_mem_toDigits (n := n) (by rw [hd]; exact List.mem_cons_self)
    rw [hd, List.cons_append] at h
    rw [(List.cons_eq_cons.mp h).1] at hc
    exact absurd hc (by decide)

theorem decimalChars_injective : Function.Injective decimalChars := by
  intro j k h
  have hlt : ∀ n : ℕ, n % 100 < 100 := fun n => Nat.mod_lt n (by decide)
  have hparts : ∀ m n : ℕ, Nat.toDigits 10 (m / 100) ++ fractionText (m % 100) =
      Nat.toDigits 10 (n / 100) ++ fractionText (n % 100) → m = n := by
    intro m n hmn
    have := toDigits_append_fraction (hlt m) (hlt n) hmn
    omega
  unfold decimalChars at h
  split_ifs at h with hj hk hk
  · have := hparts _ _ (List.cons_eq_cons.mp h).2
    omega
  · exact absurd h.symm (toDigits_append_ne_minus _ _ _)
  · exact absurd h (toDigits_append_ne_minus _ _ _)
  · have := hparts _ _ h
    omega

/-- **A number is known by its text.** -/
theorem decimalText_injective : Function.Injective decimalText := fun _ _ h =>
  decimalChars_injective (String.ofList_injective h)

theorem numericChar_of_isDigit {c : Char} (h : c.isDigit = true) : numericChar c = true := by
  simp [numericChar, h]

/-- The number as a JSON value prints it. -/
def JsonNumber.ofDecimal (k : ℤ) : JsonNumber where
  text := decimalText k
  nonempty := by
    rw [decimalText, String.toList_ofList, decimalChars]
    simp [Nat.toDigits_ne_nil]
  numeric c hc := by
    rw [decimalText, String.toList_ofList, decimalChars, List.mem_append, List.mem_append] at hc
    rcases hc with hc | hc | hc
    · split_ifs at hc
      · rw [List.mem_singleton.mp hc]; rfl
      · cases hc
    · exact numericChar_of_isDigit (isDigit_of_mem_toDigits hc)
    · have hdigit : ∀ n < 10, numericChar (Nat.digitChar n) = true := by decide
      have hlt : k.natAbs % 100 < 100 := Nat.mod_lt _ (by decide)
      have hten := hdigit (k.natAbs % 100 / 10) (by omega)
      have hone := hdigit (k.natAbs % 100 % 10) (Nat.mod_lt _ (by decide))
      have hpoint : numericChar '.' = true := rfl
      unfold fractionText at hc
      split_ifs at hc
      · cases hc
      · simp only [List.mem_cons, List.not_mem_nil, or_false] at hc
        rcases hc with rfl | rfl <;> assumption
      · simp only [List.mem_cons, List.not_mem_nil, or_false] at hc
        rcases hc with rfl | rfl | rfl <;> assumption

theorem JsonNumber.ofDecimal_injective : Function.Injective JsonNumber.ofDecimal := fun _ _ h =>
  decimalText_injective (congrArg JsonNumber.text h)

end KarsHotel
