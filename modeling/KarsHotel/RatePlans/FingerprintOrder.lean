import KarsHotel.RatePlans.Fingerprint

/-!
# The fingerprint and the order of its rows

The documents and the prices come from queries without an ordering, and the rows of a document from
a body whose keys stand in any order.

* `ContractPriceDoc.SameContent`, `Resent`: the same documents, sent in another order;
* `TiesEqual`: rows that the sorting cannot tell apart are one row;
* **`tariffFingerprint_reordered_iff`**: the fingerprint does not see the order exactly when no two
  different rows tie.
-/

namespace KarsHotel

/-- One document, but for the order of keys in its rows. -/
structure ContractPriceDoc.SameContent (d d' : ContractPriceDoc) : Prop where
  columns : d' = { d with rows := d'.rows }
  rows : Json.Reordered d.rows d'.rows

/-- The same documents in another order, with the keys of their rows in another order. -/
def Resent (docs docs' : List ContractPriceDoc) : Prop :=
  ∃ m, docs.Perm m ∧ List.Forall₂ ContractPriceDoc.SameContent m docs'

/-- Two rows whose sort keys compare equal are the same row. -/
def TiesEqual (c : Collation) {α : Type} (key : α → String) (l : List α) : Prop :=
  ∀ a ∈ l, ∀ b ∈ l, c.By key a b → c.By key b a → a = b

theorem ContractPriceDoc.SameContent.refl (d : ContractPriceDoc) : d.SameContent d :=
  ⟨rfl, .refl _⟩

/-- A document is hashed without the order of its keys. -/
theorem ContractPriceDoc.SameContent.entry_eq {d d' : ContractPriceDoc} (h : d.SameContent d') :
    d'.entry = d.entry := by
  have hrows : d'.rows.canonical = d.rows.canonical := (Json.canonical_eq_of_reordered h.rows).symm
  rw [h.columns]
  simp only [ContractPriceDoc.entry, hrows]

theorem entries_of_sameContent {docs docs' : List ContractPriceDoc}
    (h : List.Forall₂ ContractPriceDoc.SameContent docs docs') :
    docs'.map ContractPriceDoc.entry = docs.map ContractPriceDoc.entry := by
  induction h with
  | nil => rfl
  | cons hd _ ih => rw [List.map_cons, List.map_cons, hd.entry_eq, ih]

theorem Resent.perm_entries {docs docs' : List ContractPriceDoc} (h : Resent docs docs') :
    (docs.map ContractPriceDoc.entry).Perm (docs'.map ContractPriceDoc.entry) := by
  obtain ⟨m, hperm, hsame⟩ := h
  rw [entries_of_sameContent hsame]
  exact hperm.map _

theorem resent_of_perm {docs m : List ContractPriceDoc} (h : docs.Perm m) : Resent docs m :=
  ⟨m, h, List.forall₂_same.mpr fun d _ => .refl d⟩

/-- Rows that do not tie are sorted into one order. -/
theorem TiesEqual.sorted_eq {c : Collation} {α : Type} {key : α → String} {l m : List α}
    (h : TiesEqual c key l) (hperm : l.Perm m) :
    l.insertionSort (c.By key) = m.insertionSort (c.By key) :=
  insertionSort_eq_of_perm hperm h

/-- **The fingerprint does not see the order** of the documents, of the prices and of the keys in
the documents' rows, exactly when no two different rows have sort keys that compare equal. -/
theorem tariffFingerprint_reordered_iff (hash : String → String) (hh : Function.Injective hash)
    (c : Collation) (docs : List ContractPriceDoc) (plan : RatePlan) (prices : List PlanPriceRow) :
    (∀ docs' prices', Resent docs docs' → prices.Perm prices' →
      tariffFingerprint hash c docs' plan prices' = tariffFingerprint hash c docs plan prices) ↔
    TiesEqual c DocEntry.sortKey (docs.map ContractPriceDoc.entry) ∧
      TiesEqual c PriceEntry.sortKey (prices.map PlanPriceRow.entry) := by
  constructor
  · intro h
    have hdocs : ∀ m, docs.Perm m → sortedDocs c m = sortedDocs c docs := fun m hm =>
      ((tariffFingerprint_inj hh).mp (h m prices (resent_of_perm hm) (List.Perm.refl _))).1
    have hprices : ∀ m, prices.Perm m → sortedPrices c m = sortedPrices c prices := fun m hm =>
      ((tariffFingerprint_inj hh).mp (h docs m (resent_of_perm (List.Perm.refl _)) hm)).2.2
    constructor
    · intro a ha b hb hab hba
      obtain ⟨d, hd, rfl⟩ := List.mem_map.mp ha
      obtain ⟨e, he, rfl⟩ := List.mem_map.mp hb
      exact (insertionSort_map_perm_iff _ docs).mp hdocs d hd e he hab hba
    · intro a ha b hb hab hba
      obtain ⟨r, hr, rfl⟩ := List.mem_map.mp ha
      obtain ⟨q, hq, rfl⟩ := List.mem_map.mp hb
      exact (insertionSort_map_perm_iff _ prices).mp hprices r hr q hq hab hba
  · rintro ⟨hdocs, hprices⟩ docs' prices' hresent hperm
    have hsortedDocs : sortedDocs c docs = sortedDocs c docs' :=
      hdocs.sorted_eq hresent.perm_entries
    have hsortedPrices : sortedPrices c prices = sortedPrices c prices' :=
      hprices.sorted_eq (hperm.map _)
    unfold tariffFingerprint
    rw [hsortedDocs, hsortedPrices]

/-! ## Small inputs -/

/-- A document with one row of two keys. -/
def ContractPriceDoc.sample : ContractPriceDoc where
  partnerId := some 1
  contractNumber := "18"
  amendmentNumber := none
  service := .accommodation
  validFrom := 0
  validTo := none
  vatRate := some 2000
  rows := .arr [.obj [("categoryName", .str "Twin"), ("price", .num (.ofNat 280000))]]

/-- A season of plan 1 on days 0 to 9, for any number of guests. -/
def RateSeason.tenDays (price : Price) (sortOrder : ℤ) : RateSeason :=
  ⟨1, 1, 0, 9, 0, price, "RUB", sortOrder⟩

/-- A hotel with nothing but these seasons. -/
def PriceBook.ofSeasons (seasons : List RateSeason) : PriceBook where
  roomTypes := .empty
  ratePlans := .empty
  rates := .empty
  seasons := seasons
  standardRates := .empty

/-- Two days read back in the other order. -/
theorem tariffFingerprint_reordered_days :
    tariffFingerprint id .codeUnits [.sample] .ofPartner
        [⟨.day, 1, some 2, some 0, some 0, 280000, "RUB"⟩,
          ⟨.day, 1, some 2, some 1, some 1, 280000, "RUB"⟩] =
      tariffFingerprint id .codeUnits [.sample] .ofPartner
        [⟨.day, 1, some 2, some 1, some 1, 280000, "RUB"⟩,
          ⟨.day, 1, some 2, some 0, some 0, 280000, "RUB"⟩] := by
  refine (tariffFingerprint_reordered_iff id Function.injective_id _ _ _ _).mpr ⟨?_, ?_⟩ _ _
    (resent_of_perm (List.Perm.refl _)) (List.Perm.swap _ _ _)
  · intro a ha b hb _ _
    rw [List.mem_singleton.mp ha, List.mem_singleton.mp hb]
  · unfold TiesEqual
    decide +kernel

/-- Two seasons with one window and different prices: saved in the other order, they withdraw the
confirmation. -/
theorem tariffFingerprint_seasons_swapped :
    (planPrices (.ofSeasons [.tenDays 400000 0, .tenDays 450000 1]) 1).Perm
      (planPrices (.ofSeasons [.tenDays 450000 0, .tenDays 400000 1]) 1) ∧
    ¬∃ (hash : String → String) (c : Collation) (docs : List ContractPriceDoc) (plan : RatePlan),
      Function.Injective hash ∧
      tariffFingerprint hash c docs plan
          (planPrices (.ofSeasons [.tenDays 400000 0, .tenDays 450000 1]) 1) =
        tariffFingerprint hash c docs plan
          (planPrices (.ofSeasons [.tenDays 450000 0, .tenDays 400000 1]) 1) := by
  refine ⟨by decide, ?_⟩
  rintro ⟨hash, c, docs, plan, hh, h⟩
  have hsorted := ((tariffFingerprint_inj hh).mp h).2.2
  have hkept : ∀ a b : Price, sortedPrices c
      (planPrices (.ofSeasons [.tenDays a 0, .tenDays b 1]) 1) =
        [(RateSeason.tenDays a 0).priceRow.entry, (RateSeason.tenDays b 1).priceRow.entry] := by
    intro a b
    apply List.Pairwise.insertionSort_eq
    exact List.pairwise_pair.mpr (Collation.by_of_eq rfl)
  rw [hkept, hkept] at hsorted
  have hprice := congrArg PriceEntry.price (List.cons_eq_cons.mp hsorted).1
  exact absurd (decimalText_injective hprice) (by decide)

end KarsHotel
