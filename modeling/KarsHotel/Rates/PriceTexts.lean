import KarsHotel.Rates.Notices
import Mathlib.Data.Set.Function

/-!
# Texts that tell prices apart

The text that is compared has one line a row, joined with a semicolon that nothing escapes.

* `Numeric`, `bar_inj`: the fields before a currency end at the bar;
* **`line_injOn`**: a line has one row;
* **`perm_of_pricesText`**: without a semicolon in a currency, a text has one set of rows.
-/

namespace KarsHotel

open RatesService

/-! ## Fields -/

/-- A text of digits, signs and points. -/
def Numeric (s : String) : Prop := ∀ ch ∈ s.toList, numericChar ch = true

theorem numeric_repr (n : ℕ) : Numeric n.repr := (JsonNumber.ofNat n).numeric

theorem numeric_decimalText (k : ℤ) : Numeric (decimalText k) := (JsonNumber.ofDecimal k).numeric

theorem numeric_yearText (y : ℤ) : ∀ ch ∈ yearText y, numericChar ch = true := by
  intro ch hch
  unfold yearText at hch
  split_ifs at hch
  · exact numericChar_of_isDigit (isDigit_of_mem_digits hch)
  · rcases List.mem_cons.mp hch with rfl | hch
    · unfold yearSign
      split_ifs <;> rfl
    · exact numericChar_of_isDigit (isDigit_of_mem_toDigits hch)

theorem numeric_isoDate (d : Day) : Numeric (isoDate d) := by
  intro ch hch
  rw [isoDate, String.toList_ofList] at hch
  simp only [List.mem_append, List.mem_cons] at hch
  rcases hch with hch | rfl | hch | rfl | hch
  · exact numeric_yearText _ ch hch
  · rfl
  · exact numericChar_of_isDigit (isDigit_of_mem_digits hch)
  · rfl
  · exact numericChar_of_isDigit (isDigit_of_mem_digits hch)

theorem bar_inj {s s' t t' : String} (hs : Numeric s) (hs' : Numeric s')
    (h : s ++ ("|" ++ t) = s' ++ ("|" ++ t')) : s = s' ∧ t = t' := by
  have hlist := congrArg String.toList h
  simp only [String.toList_append] at hlist
  have hbar : ∀ u : String, Json.Stops ("|".toList ++ u.toList) := fun u => Json.stops_cons rfl
  obtain ⟨hleft, hright⟩ := Json.numeric_append hs hs' (hbar t) (hbar t') hlist
  exact ⟨String.toList_inj.mp hleft, String.toList_inj.mp (List.append_cancel_left hright)⟩

/-! ## Lines -/

theorem repr_inj {m n : ℕ} (h : m.repr = n.repr) : m = n :=
  JsonNumber.ofNat_injective (JsonNumber.ext h)

theorem dayLine_inj {r r' : Rate} (h : dayLine r = dayLine r') : r.priceRow = r'.priceRow := by
  simp only [dayLine, String.append_assoc, String.append_right_inj] at h
  obtain ⟨htype, h⟩ := bar_inj (numeric_repr _) (numeric_repr _) h
  obtain ⟨hdate, h⟩ := bar_inj (numeric_isoDate _) (numeric_isoDate _) h
  obtain ⟨hocc, h⟩ := bar_inj (numeric_repr _) (numeric_repr _) h
  obtain ⟨hprice, hcurrency⟩ := bar_inj (numeric_decimalText _) (numeric_decimalText _) h
  rw [Rate.priceRow, Rate.priceRow, repr_inj htype, isoDate_injective hdate, repr_inj hocc,
    decimalText_injective hprice, hcurrency]

theorem seasonLine_inj {r r' : RateSeason} (h : seasonLine r = seasonLine r') :
    r.priceRow = r'.priceRow := by
  simp only [seasonLine, String.append_assoc, String.append_right_inj] at h
  obtain ⟨htype, h⟩ := bar_inj (numeric_repr _) (numeric_repr _) h
  obtain ⟨hfrom, h⟩ := bar_inj (numeric_isoDate _) (numeric_isoDate _) h
  obtain ⟨hto, h⟩ := bar_inj (numeric_isoDate _) (numeric_isoDate _) h
  obtain ⟨hocc, h⟩ := bar_inj (numeric_repr _) (numeric_repr _) h
  obtain ⟨hprice, hcurrency⟩ := bar_inj (numeric_decimalText _) (numeric_decimalText _) h
  rw [RateSeason.priceRow, RateSeason.priceRow, repr_inj htype, isoDate_injective hfrom,
    isoDate_injective hto, repr_inj hocc, decimalText_injective hprice, hcurrency]

theorem standardLine_inj {r r' : StandardRate} (h : standardLine r = standardLine r') :
    r.priceRow = r'.priceRow := by
  simp only [standardLine, String.append_assoc, String.append_right_inj] at h
  obtain ⟨htype, h⟩ := bar_inj (numeric_repr _) (numeric_repr _) h
  obtain ⟨hocc, h⟩ := bar_inj (numeric_repr _) (numeric_repr _) h
  obtain ⟨hprice, hcurrency⟩ := bar_inj (numeric_decimalText _) (numeric_decimalText _) h
  rw [StandardRate.priceRow, StandardRate.priceRow, repr_inj htype, repr_inj hocc,
    decimalText_injective hprice, hcurrency]

/-- An entry of a price row. -/
inductive OfRow : PriceEntry → Prop
  | day (r : Rate) : OfRow r.priceRow.entry
  | season (r : RateSeason) : OfRow r.priceRow.entry
  | standard (r : StandardRate) : OfRow r.priceRow.entry

theorem ofRow_of_mem {b : PriceBook} {id : RatePlanId} {e : PriceEntry}
    (h : e ∈ priceEntries b id) : OfRow e := by
  rw [priceEntries_eq] at h
  rcases List.mem_append.mp h with h | h
  · rcases List.mem_append.mp h with h | h
    · obtain ⟨r, -, rfl⟩ := List.mem_map.mp h
      exact .day r
    · obtain ⟨r, -, rfl⟩ := List.mem_map.mp h
      exact .season r
  · obtain ⟨r, -, rfl⟩ := List.mem_map.mp h
    exact .standard r

/-- The letter a line begins with is its source. -/
def PriceKind.letter : PriceKind → Char
  | day => 'd'
  | season => 's'
  | standard => 'b'

theorem head_line (e : PriceEntry) : e.line.toList.head? = some e.kind.letter := by
  cases hk : e.kind <;> simp [PriceEntry.line, hk, PriceKind.letter, String.toList_append]

/-- **A line has one row**, but for what is not compared. -/
theorem line_injOn : Set.InjOn PriceEntry.line {e | OfRow e} := by
  intro e he e' he' h
  have hkind : e.kind = e'.kind := by
    have hhead := congrArg (fun s : String => s.toList.head?) h
    simp only [head_line, Option.some.injEq] at hhead
    cases hk : e.kind <;> cases hk' : e'.kind <;> simp [hk, hk', PriceKind.letter] at hhead ⊢
  cases he with
  | day r =>
    cases he' with
    | day r' => exact congrArg PlanPriceRow.entry (dayLine_inj h)
    | season r' => cases hkind
    | standard r' => cases hkind
  | season r =>
    cases he' with
    | day r' => cases hkind
    | season r' =>
      rw [line_season, line_season] at h
      exact congrArg PlanPriceRow.entry (seasonLine_inj h)
    | standard r' => cases hkind
  | standard r =>
    cases he' with
    | day r' => cases hkind
    | season r' => cases hkind
    | standard r' =>
      rw [line_standard, line_standard] at h
      exact congrArg PlanPriceRow.entry (standardLine_inj h)

/-! ## Texts -/

theorem numeric_semicolon {s : String} (h : Numeric s) : ';' ∉ s.toList := by
  intro hmem
  have hsemi := h ';' hmem
  revert hsemi
  decide

/-- Only the currency of a row may bring a semicolon into its line. -/
theorem semicolon_line {e : PriceEntry} (he : OfRow e) (hcurrency : ';' ∉ e.currency.toList) :
    ';' ∉ e.line.toList := by
  have hbar : ';' ∉ "|".toList := by decide
  cases he with
  | day r =>
    rw [line_day]
    simp only [dayLine, String.toList_append, List.mem_append, not_or]
    exact ⟨⟨⟨⟨⟨⟨⟨⟨⟨by decide, numeric_semicolon (numeric_repr _)⟩, hbar⟩,
      numeric_semicolon (numeric_isoDate _)⟩, hbar⟩, numeric_semicolon (numeric_repr _)⟩, hbar⟩,
      numeric_semicolon (numeric_decimalText _)⟩, hbar⟩, hcurrency⟩
  | season r =>
    rw [line_season]
    simp only [seasonLine, String.toList_append, List.mem_append, not_or]
    exact ⟨⟨⟨⟨⟨⟨⟨⟨⟨⟨⟨by decide, numeric_semicolon (numeric_repr _)⟩, hbar⟩,
      numeric_semicolon (numeric_isoDate _)⟩, hbar⟩, numeric_semicolon (numeric_isoDate _)⟩, hbar⟩,
      numeric_semicolon (numeric_repr _)⟩, hbar⟩, numeric_semicolon (numeric_decimalText _)⟩, hbar⟩,
      hcurrency⟩
  | standard r =>
    rw [line_standard]
    simp only [standardLine, String.toList_append, List.mem_append, not_or]
    exact ⟨⟨⟨⟨⟨⟨⟨by decide, numeric_semicolon (numeric_repr _)⟩, hbar⟩,
      numeric_semicolon (numeric_repr _)⟩, hbar⟩, numeric_semicolon (numeric_decimalText _)⟩, hbar⟩,
      hcurrency⟩

theorem toList_joinSorted (l : List String) : (joinSorted l).toList =
    [';'].intercalate ((l.insertionSort (Collation.codeUnits.By id)).map String.toList) := by
  rw [joinSorted, String.toList_intercalate]
  rfl

/-- The lines are found again between the semicolons. -/
theorem joinSorted_inj {l m : List String} (hl : ∀ s ∈ l, ';' ∉ s.toList ∧ s ≠ "")
    (hm : ∀ s ∈ m, ';' ∉ s.toList ∧ s ≠ "") (h : joinSorted l = joinSorted m) : l.Perm m := by
  have hlist := congrArg String.toList h
  rw [toList_joinSorted, toList_joinSorted] at hlist
  have hpl := List.perm_insertionSort (Collation.codeUnits.By id) l
  have hpm := List.perm_insertionSort (Collation.codeUnits.By id) m
  generalize l.insertionSort (Collation.codeUnits.By id) = l' at hlist hpl
  generalize m.insertionSort (Collation.codeUnits.By id) = m' at hlist hpm
  have hsplit : ∀ k : List String, (∀ s ∈ k, ';' ∉ s.toList ∧ s ≠ "") →
      ([';'].intercalate (k.map String.toList)).splitOn ';' =
        if k = [] then [[]] else k.map String.toList := by
    intro k hk
    by_cases hnil : k = []
    · rw [if_pos hnil, hnil]
      rfl
    · rw [if_neg hnil]
      apply List.splitOn_intercalate
      · intro s hs
        obtain ⟨t, ht, rfl⟩ := List.mem_map.mp hs
        exact (hk t ht).1
      · simpa using hnil
  have hl' : ∀ s ∈ l', ';' ∉ s.toList ∧ s ≠ "" := fun s hs => hl s (hpl.mem_iff.mp hs)
  have hm' : ∀ s ∈ m', ';' ∉ s.toList ∧ s ≠ "" := fun s hs => hm s (hpm.mem_iff.mp hs)
  have heq := congrArg (List.splitOn ';') hlist
  rw [hsplit l' hl', hsplit m' hm'] at heq
  have hne : ∀ k : List String, (∀ s ∈ k, ';' ∉ s.toList ∧ s ≠ "") →
      k.map String.toList ≠ [[]] := by
    intro k hk hmap
    obtain ⟨s, rest, rfl, hs, -⟩ := List.map_eq_cons_iff.mp hmap
    exact (hk s List.mem_cons_self).2 (String.toList_inj.mp hs)
  have hsame : l' = m' := by
    split_ifs at heq with h₁ h₂ h₂
    · rw [h₁, h₂]
    · exact absurd heq.symm (hne m' hm')
    · exact absurd heq (hne l' hl')
    · exact List.map_injective_iff.mpr (fun _ _ => String.toList_injective) heq
  exact hpl.symm.trans (hsame ▸ hpm)

instance : Nonempty PriceEntry := ⟨⟨.day, 0, none, "", "", "", ""⟩⟩

/-- **Without a semicolon in a currency, a text has one set of rows.** -/
theorem perm_of_pricesText {b b' : PriceBook} {id : RatePlanId}
    (hb : ∀ e ∈ priceEntries b id, ';' ∉ e.currency.toList)
    (hb' : ∀ e ∈ priceEntries b' id, ';' ∉ e.currency.toList)
    (h : pricesText b id = pricesText b' id) :
    (priceEntries b id).Perm (priceEntries b' id) := by
  have hlines : ∀ b : PriceBook, (∀ e ∈ priceEntries b id, ';' ∉ e.currency.toList) →
      ∀ s ∈ (priceEntries b id).map PriceEntry.line, ';' ∉ s.toList ∧ s ≠ "" := by
    intro b hb s hs
    obtain ⟨e, he, rfl⟩ := List.mem_map.mp hs
    refine ⟨semicolon_line (ofRow_of_mem he) (hb e he), ?_⟩
    intro hempty
    have hhead := head_line e
    rw [hempty] at hhead
    cases hhead
  have hperm := joinSorted_inj (hlines b hb) (hlines b' hb') h
  -- The rows are read back off the lines.
  have hback : ∀ b : PriceBook, ((priceEntries b id).map PriceEntry.line).map
      (Function.invFunOn PriceEntry.line {e | OfRow e}) = priceEntries b id := by
    intro b
    rw [List.map_map]
    conv_rhs => rw [← List.map_id (priceEntries b id)]
    exact List.map_congr_left fun e he => line_injOn.leftInvOn_invFunOn (ofRow_of_mem he)
  have hrows := hperm.map (Function.invFunOn PriceEntry.line {e | OfRow e})
  rwa [hback, hback] at hrows

end KarsHotel
