import KarsHotel.RatePlans.FingerprintOrder
import KarsHotel.Rates.Service

/-!
# The news of changed prices

A partner is told that the prices of a reviewed tariff changed if a text of all its prices is
another one after the call than before. Its confirmation falls if the fingerprint is another one.

* `priceSnapshot`, `pricesChanged`, `emitForRatePlan`, `RatesOp.news`: a call and whom it tells;
* `RatesOp.sentIds`: the plans as the call spells them;
* `PriceRows.Of`: the rows of the three queries, in any order;
* **`priceSnapshot_eq`**: the text does not depend on the order;
* **`heard_iff`**: when the news comes exactly with the fall.
-/

namespace KarsHotel

/-! ## The news -/

inductive TariffChange where
  | prices
  | conditions
  | removed
  deriving DecidableEq, Repr

/-- What `tariff.changed` says. -/
structure TariffChanged where
  ratePlanId : RatePlanId
  code : String
  name : String
  change : TariffChange
  deriving DecidableEq, Repr

/-- Where the news goes; without an address or a secret there is none. -/
structure PartnerWebhookService where
  url : Option String
  secret : Option String

namespace PartnerWebhookService

/-- The service has an address and a secret. -/
def Connected (w : PartnerWebhookService) : Prop :=
  w.url.getD "" ≠ "" ∧ w.secret.getD "" ≠ ""

instance (w : PartnerWebhookService) : Decidable w.Connected := by
  unfold Connected
  infer_instance

variable (w : PartnerWebhookService)

/-- Only of a partner's plan with a verdict. -/
def emitTariffChanged (plan : Option RatePlan) (change : TariffChange) : List TariffChanged :=
  match plan with
  | none => []
  | some plan =>
    if w.Connected ∧ plan.partnerId.isSome = true ∧ plan.reviewVerdict.isSome = true then
      [⟨plan.id, plan.code, plan.name, change⟩]
    else []

def emitForRatePlan (b : PriceBook) (ratePlanId : RatePlanId) (change : TariffChange) :
    List TariffChanged :=
  if w.Connected then w.emitTariffChanged (b.ratePlans.find ratePlanId) change else []

end PartnerWebhookService

/-! ## What the queries return -/

/-- The rows of the three sources. -/
structure PriceRows where
  days : List Rate
  seasons : List RateSeason
  standard : List StandardRate

/-- The rows of these plans, in the order the database has them. -/
structure PriceRows.Of (q : PriceRows) (b : PriceBook) (ids : List RatePlanId) : Prop where
  days : (b.rates.select fun r => decide (r.ratePlanId ∈ ids)).Perm q.days
  seasons : (b.seasons.filter fun r => decide (r.ratePlanId ∈ ids)).Perm q.seasons
  standard : (b.standardRates.select fun r => decide (r.ratePlanId ∈ ids)).Perm q.standard

/-- `planPrices` of one plan, from the rows returned. -/
def PriceRows.pricesOf (q : PriceRows) (id : RatePlanId) : List PlanPriceRow :=
  (q.days.filter fun r => decide (r.ratePlanId = id)).map Rate.priceRow ++
    (q.seasons.filter fun r => decide (r.ratePlanId = id)).map RateSeason.priceRow ++
    (q.standard.filter fun r => decide (r.ratePlanId = id)).map StandardRate.priceRow

namespace RatesService

def dayLine (r : Rate) : String :=
  "d|" ++ r.roomTypeId.repr ++ "|" ++ isoDate r.date ++ "|" ++ r.occupancy.repr ++ "|" ++
    decimalText r.price ++ "|" ++ r.currency

def seasonLine (r : RateSeason) : String :=
  "s|" ++ r.roomTypeId.repr ++ "|" ++ isoDate r.dateFrom ++ "|" ++ isoDate r.dateTo ++ "|" ++
    r.occupancy.repr ++ "|" ++ decimalText r.price ++ "|" ++ r.currency

def standardLine (r : StandardRate) : String :=
  "b|" ++ r.roomTypeId.repr ++ "|" ++ r.occupancy.repr ++ "|" ++ decimalText r.price ++ "|" ++
    r.currency

/-- `l.sort().join(';')`. -/
def joinSorted (l : List String) : String :=
  ";".intercalate (l.insertionSort (Collation.codeUnits.By id))

/-- All prices of each plan as one text. The texts are kept under the ids as the request spells
them, and a row is put to the id the database writes. -/
def priceSnapshot (ids : List IdText) (q : PriceRows) (id : IdText) : Option String :=
  if id ∈ ids then
    some (joinSorted
      ((q.days.filter fun r => decide (.ofId r.ratePlanId = id)).map dayLine ++
        (q.seasons.filter fun r => decide (.ofId r.ratePlanId = id)).map seasonLine ++
        (q.standard.filter fun r => decide (.ofId r.ratePlanId = id)).map standardLine))
  else none

/-- News of the plans whose text is another one. -/
def pricesChanged (w : PartnerWebhookService) (b : PriceBook) (ratePlanIds : List IdText)
    (before after : IdText → Option String) : List TariffChanged :=
  (ratePlanIds.dedup.filter fun id => decide (before id ≠ after id)).flatMap fun id =>
    w.emitForRatePlan b id.id .prices

end RatesService

/-- The plans a call compares, as it spells them; the deletion of a row compares none. -/
def RatesOp.sentIds : RatesOp → List IdText
  | bulkUpsert items => items.map (·.ratePlanId)
  | fillRange dto => [dto.ratePlanId]
  | remove _ => []
  | setStandard dto => [dto.ratePlanId]
  | replaceSeasons dto => [dto.ratePlanId]

/-- The same plans: the queries take an id in any spelling. -/
def RatesOp.planIds (op : RatesOp) : List RatePlanId := op.sentIds.map (·.id)

/-- The tables after a call, one that fails included. -/
def RatesOp.left (elsewhere : OtherHotels) (b : PriceBook) (op : RatesOp) : PriceBook :=
  match op.exec elsewhere b with
  | .ok b' => b'
  | .error _ => b

open RatesService in
/-- The news of a call: `before` and `after` are the rows its two snapshots read. A deleted row is
always news. -/
def RatesOp.news (w : PartnerWebhookService) (elsewhere : OtherHotels) (b : PriceBook) (op : RatesOp)
    (before after : PriceRows) : List TariffChanged :=
  match op.exec elsewhere b with
  | .error _ => []
  | .ok b' =>
    match op with
    | .remove key => w.emitForRatePlan b' key.1 .prices
    | _ => RatesService.pricesChanged w b' op.sentIds (priceSnapshot op.sentIds before)
        (priceSnapshot op.sentIds after)

/-! ## The text of the prices -/

/-- The line of a row, from what the fingerprint keeps of it. -/
def PriceEntry.line (e : PriceEntry) : String :=
  match e.kind with
  | .day => "d|" ++ e.roomTypeId.repr ++ "|" ++ e.dateFrom ++ "|" ++ (e.occupancy.getD 0).repr ++
      "|" ++ e.price ++ "|" ++ e.currency
  | .season => "s|" ++ e.roomTypeId.repr ++ "|" ++ e.dateFrom ++ "|" ++ e.dateTo ++ "|" ++
      (e.occupancy.getD 0).repr ++ "|" ++ e.price ++ "|" ++ e.currency
  | .standard => "b|" ++ e.roomTypeId.repr ++ "|" ++ (e.occupancy.getD 0).repr ++ "|" ++ e.price ++
      "|" ++ e.currency

/-- What the fingerprint keeps of the prices of a plan. -/
def priceEntries (b : PriceBook) (id : RatePlanId) : List PriceEntry :=
  (planPrices b id).map PlanPriceRow.entry

/-- The lines of a plan's prices, sorted and joined. -/
def pricesText (b : PriceBook) (id : RatePlanId) : String :=
  RatesService.joinSorted ((priceEntries b id).map PriceEntry.line)

section Text

open RatesService

variable {b : PriceBook} {ids : List RatePlanId} {q : PriceRows} {id : RatePlanId}

@[simp] theorem getD_occupancyOrNull (n : ℕ) : (occupancyOrNull n).getD 0 = n := by
  by_cases h : n = 0 <;> simp [occupancyOrNull, h]

theorem line_day (r : Rate) : r.priceRow.entry.line = dayLine r := rfl

theorem line_season (r : RateSeason) : r.priceRow.entry.line = seasonLine r := by
  simp only [PriceEntry.line, PlanPriceRow.entry, RateSeason.priceRow, getD_occupancyOrNull]
  rfl

theorem line_standard (r : StandardRate) : r.priceRow.entry.line = standardLine r := by
  simp only [PriceEntry.line, PlanPriceRow.entry, StandardRate.priceRow, getD_occupancyOrNull]
  rfl

/-- Texts that compare equal by code units are equal, so their order does not matter. -/
theorem joinSorted_perm {l m : List String} (h : l.Perm m) : joinSorted l = joinSorted m := by
  have hsorted : l.insertionSort (Collation.codeUnits.By id) =
      m.insertionSort (Collation.codeUnits.By id) := by
    apply insertionSort_eq_of_perm h
    intro x _ y _ hxy hyx
    exact utf16_injective (le_antisymm hxy hyx)
  rw [joinSorted, joinSorted, hsorted]

theorem filter_of_mem {α : Type} {l : List α} {planId : α → RatePlanId} (h : id ∈ ids) :
    (l.filter fun r => decide (planId r ∈ ids)).filter (fun r => decide (planId r = id)) =
      l.filter fun r => decide (planId r = id) := by
  rw [List.filter_filter]
  apply List.filter_congr
  intro r _
  by_cases hr : planId r = id
  · simp [hr, h]
  · simp [hr]

theorem PriceRows.Of.days_of (h : q.Of b ids) (hid : id ∈ ids) :
    (b.rates.select fun r => decide (r.ratePlanId = id)).Perm
      (q.days.filter fun r => decide (r.ratePlanId = id)) := by
  have hdays := h.days.filter fun r => decide (r.ratePlanId = id)
  rwa [Table.select, filter_of_mem hid] at hdays

theorem PriceRows.Of.seasons_of (h : q.Of b ids) (hid : id ∈ ids) :
    (b.seasons.filter fun r => decide (r.ratePlanId = id)).Perm
      (q.seasons.filter fun r => decide (r.ratePlanId = id)) := by
  have hseasons := h.seasons.filter fun r => decide (r.ratePlanId = id)
  rwa [filter_of_mem hid] at hseasons

theorem PriceRows.Of.standard_of (h : q.Of b ids) (hid : id ∈ ids) :
    (b.standardRates.select fun r => decide (r.ratePlanId = id)).Perm
      (q.standard.filter fun r => decide (r.ratePlanId = id)) := by
  have hstandard := h.standard.filter fun r => decide (r.ratePlanId = id)
  rwa [Table.select, filter_of_mem hid] at hstandard

theorem PriceRows.Of.pricesOf_perm (h : q.Of b ids) (hid : id ∈ ids) :
    (planPrices b id).Perm (q.pricesOf id) :=
  (((h.days_of hid).map _).append ((h.seasons_of hid).map _)).append ((h.standard_of hid).map _)

/-- **The text of a plan's prices** is that of its rows, in whatever order they are returned. -/
theorem priceSnapshot_eq {sent : List IdText} (h : q.Of b ids) (hid : id ∈ ids)
    (hsent : .ofId id ∈ sent) : priceSnapshot sent q (.ofId id) = some (pricesText b id) := by
  have hlines : ((priceEntries b id).map PriceEntry.line).Perm
      ((q.days.filter fun r => decide (r.ratePlanId = id)).map dayLine ++
        (q.seasons.filter fun r => decide (r.ratePlanId = id)).map seasonLine ++
        (q.standard.filter fun r => decide (r.ratePlanId = id)).map standardLine) := by
    have hperm := ((h.pricesOf_perm hid).map PlanPriceRow.entry).map PriceEntry.line
    refine hperm.trans (List.Perm.of_eq ?_)
    have hday : (PriceEntry.line ∘ PlanPriceRow.entry) ∘ Rate.priceRow = dayLine :=
      funext line_day
    have hseason : (PriceEntry.line ∘ PlanPriceRow.entry) ∘ RateSeason.priceRow = seasonLine :=
      funext line_season
    have hstandard : (PriceEntry.line ∘ PlanPriceRow.entry) ∘ StandardRate.priceRow = standardLine :=
      funext line_standard
    rw [PriceRows.pricesOf, List.map_map, List.map_append, List.map_append, List.map_map,
      List.map_map, List.map_map, hday, hseason, hstandard]
  simp only [priceSnapshot, if_pos hsent, IdText.ofId_inj]
  rw [pricesText, joinSorted_perm hlines]

/-- Under another spelling there is no row. -/
theorem priceSnapshot_other {sent : List IdText} {t : IdText} (ht : ¬t.Stored) (hsent : t ∈ sent) :
    priceSnapshot sent q t = some (joinSorted []) := by
  have hne : ∀ planId : RatePlanId, decide (IdText.ofId planId = t) = false := fun planId =>
    decide_eq_false fun h => ht (IdText.ofId_eq_iff.mp h).1
  simp [priceSnapshot, hsent, hne]

end Text

/-! ## The fall of the confirmation -/

section Blocks

variable {c : Collation} {α : Type} {key : α → String}

/-- Rows whose keys compare equal are equal, so a part of them does not depend on the order. -/
theorem filter_ties_perm {l m : List α} (h : l.Perm m) (hties : TiesEqual c key l) (a : α) :
    l.filter (tiesWith (c.By key) a) = m.filter (tiesWith (c.By key) a) := by
  have hall : ∀ k : List α, k.Pairwise fun _ _ => True := fun _ =>
    List.pairwise_of_forall fun _ _ => trivial
  refine (h.filter _).eq_of_pairwise ?_ (hall _) (hall _)
  · intro x y hx hy _ _
    obtain ⟨hx, hax⟩ := List.mem_filter.mp hx
    obtain ⟨hy, hay⟩ := List.mem_filter.mp hy
    have hx' := tiesWith_iff.mp hax
    have hy' := tiesWith_iff.mp hay
    exact hties x hx y (h.mem_iff.mpr hy) (trans_of (c.By key) hx'.2 hy'.1)
      (trans_of (c.By key) hy'.2 hx'.1)

/-- **Three sources are sorted into one order** if no two different rows of one source tie. -/
theorem sorted_sources {l₁ l₂ l₃ m₁ m₂ m₃ : List α} (h₁ : l₁.Perm m₁) (h₂ : l₂.Perm m₂)
    (h₃ : l₃.Perm m₃) (ht₁ : TiesEqual c key l₁) (ht₂ : TiesEqual c key l₂)
    (ht₃ : TiesEqual c key l₃) :
    (l₁ ++ l₂ ++ l₃).insertionSort (c.By key) = (m₁ ++ m₂ ++ m₃).insertionSort (c.By key) := by
  apply insertionSort_eq_iff.mpr
  constructor
  · exact (h₁.append h₂).append h₃
  · intro a
    rw [List.filter_append, List.filter_append, List.filter_append, List.filter_append,
      filter_ties_perm h₁ ht₁, filter_ties_perm h₂ ht₂, filter_ties_perm h₃ ht₃]

/-- **And only then**: with one order for all orders of a source, its rows do not tie. -/
theorem tiesEqual_of_sorted {β : Type} {f : β → α} {l : List β} (before after : List α)
    (h : ∀ m, l.Perm m → (before ++ m.map f ++ after).insertionSort (c.By key) =
      (before ++ l.map f ++ after).insertionSort (c.By key)) : TiesEqual c key (l.map f) := by
  intro x hx y hy hxy hyx
  obtain ⟨a, ha, rfl⟩ := List.mem_map.mp hx
  obtain ⟨b, hb, rfl⟩ := List.mem_map.mp hy
  have hfront : ∀ r ∈ l, tiesWith (c.By key) (f a) (f r) = true →
      ((l.map f).filter (tiesWith (c.By key) (f a))).head? = some (f r) := by
    intro r hr htie
    obtain ⟨s, t, rfl⟩ := List.append_of_mem hr
    have hsorted := (insertionSort_eq_iff.mp (h (r :: (s ++ t)) List.perm_middle)).2 (f a)
    rw [List.filter_append, List.filter_append, List.filter_append, List.filter_append] at hsorted
    have hpart := List.append_cancel_left (List.append_cancel_right hsorted)
    rw [← hpart, List.map_cons, List.filter_cons_of_pos htie, List.head?_cons]
  have hrefl : tiesWith (c.By key) (f a) (f a) = true :=
    tiesWith_iff.mpr ⟨Collation.by_of_eq rfl, Collation.by_of_eq rfl⟩
  have heq := (hfront a ha hrefl).symm.trans (hfront b hb (tiesWith_iff.mpr ⟨hxy, hyx⟩))
  exact Option.some.inj heq

end Blocks

/-- The rows of each source of a plan's prices are told apart by their sort keys. -/
structure TiesApart (c : Collation) (b : PriceBook) (id : RatePlanId) : Prop where
  days : TiesEqual c PriceEntry.sortKey
    ((b.rates.select fun r => decide (r.ratePlanId = id)).map fun r => r.priceRow.entry)
  seasons : TiesEqual c PriceEntry.sortKey
    ((b.seasons.filter fun r => decide (r.ratePlanId = id)).map fun r => r.priceRow.entry)
  standard : TiesEqual c PriceEntry.sortKey
    ((b.standardRates.select fun r => decide (r.ratePlanId = id)).map fun r => r.priceRow.entry)

section Fall

variable {c : Collation} {b b' : PriceBook} {id : RatePlanId} {q q' : PriceRows}

theorem filter_kind_map {β : Type} {f : β → PriceEntry} {kind : PriceKind}
    (hf : ∀ r, (f r).kind = kind) (kind' : PriceKind) (l : List β) :
    (l.map f).filter (fun e => decide (e.kind = kind')) = if kind = kind' then l.map f else [] := by
  by_cases h : kind = kind'
  · rw [if_pos h, List.filter_eq_self]
    intro e he
    obtain ⟨r, -, rfl⟩ := List.mem_map.mp he
    exact decide_eq_true ((hf r).trans h)
  · rw [if_neg h, List.filter_eq_nil_iff]
    intro e he
    obtain ⟨r, -, rfl⟩ := List.mem_map.mp he
    rw [hf r, decide_eq_true_eq]
    exact h

theorem priceEntries_eq (b : PriceBook) (id : RatePlanId) : priceEntries b id =
    ((b.rates.select fun r => decide (r.ratePlanId = id)).map fun r => r.priceRow.entry) ++
      ((b.seasons.filter fun r => decide (r.ratePlanId = id)).map fun r => r.priceRow.entry) ++
      ((b.standardRates.select fun r => decide (r.ratePlanId = id)).map
        fun r => r.priceRow.entry) := by
  rw [priceEntries, planPrices, List.map_append, List.map_append, List.map_map, List.map_map,
    List.map_map]
  rfl

theorem filter_kind_priceEntries (b : PriceBook) (id : RatePlanId) (kind : PriceKind) :
    (priceEntries b id).filter (fun e => decide (e.kind = kind)) =
      match kind with
      | .day => (b.rates.select fun r => decide (r.ratePlanId = id)).map fun r => r.priceRow.entry
      | .season =>
        (b.seasons.filter fun r => decide (r.ratePlanId = id)).map fun r => r.priceRow.entry
      | .standard => (b.standardRates.select fun r => decide (r.ratePlanId = id)).map
          fun r => r.priceRow.entry := by
  have hday : ∀ r : Rate, r.priceRow.entry.kind = .day := fun _ => rfl
  have hseason : ∀ r : RateSeason, r.priceRow.entry.kind = .season := fun _ => rfl
  have hstandard : ∀ r : StandardRate, r.priceRow.entry.kind = .standard := fun _ => rfl
  rw [priceEntries_eq, List.filter_append, List.filter_append, filter_kind_map hday,
    filter_kind_map hseason, filter_kind_map hstandard]
  cases kind <;> simp

/-- The rows of a plan as the store has them. -/
def PriceBook.rowsOf (b : PriceBook) (id : RatePlanId) : PriceRows where
  days := b.rates.select fun r => decide (r.ratePlanId = id)
  seasons := b.seasons.filter fun r => decide (r.ratePlanId = id)
  standard := b.standardRates.select fun r => decide (r.ratePlanId = id)

theorem PriceRows.of_perm {days : List Rate} {seasons : List RateSeason}
    {standard : List StandardRate} (hd : (b.rowsOf id).days.Perm days)
    (hs : (b.rowsOf id).seasons.Perm seasons) (ht : (b.rowsOf id).standard.Perm standard) :
    PriceRows.Of ⟨days, seasons, standard⟩ b [id] := by
  unfold PriceBook.rowsOf at hd hs ht
  constructor
  · simpa only [List.mem_singleton] using hd
  · simpa only [List.mem_singleton] using hs
  · simpa only [List.mem_singleton] using ht

/-- What is hashed of rows returned for the plan. -/
theorem PriceRows.Of.sortedPrices_eq (h : q.Of b [id]) : sortedPrices c (q.pricesOf id) =
    ((q.days.map fun r => r.priceRow.entry) ++ (q.seasons.map fun r => r.priceRow.entry) ++
      (q.standard.map fun r => r.priceRow.entry)).insertionSort (c.By PriceEntry.sortKey) := by
  have hd : (q.days.filter fun r => decide (r.ratePlanId = id)) = q.days := by
    apply List.filter_eq_self.mpr
    intro r hr
    simpa using (Table.mem_select.mp (h.days.mem_iff.mpr hr)).2
  have hs : (q.seasons.filter fun r => decide (r.ratePlanId = id)) = q.seasons := by
    apply List.filter_eq_self.mpr
    intro r hr
    simpa using (List.mem_filter.mp (h.seasons.mem_iff.mpr hr)).2
  have ht : (q.standard.filter fun r => decide (r.ratePlanId = id)) = q.standard := by
    apply List.filter_eq_self.mpr
    intro r hr
    simpa using (Table.mem_select.mp (h.standard.mem_iff.mpr hr)).2
  rw [sortedPrices, PriceRows.pricesOf, hd, hs, ht, List.map_append, List.map_append, List.map_map,
    List.map_map, List.map_map]
  rfl

/-- Rows that do not tie are hashed as those of any book with the same entries. -/
theorem TiesApart.sortedPrices_eq (hties : TiesApart c b id)
    (hsame : (priceEntries b id).Perm (priceEntries b' id)) (h : q.Of b' [id]) :
    sortedPrices c (q.pricesOf id) =
      (priceEntries b id).insertionSort (c.By PriceEntry.sortKey) := by
  have hkind := fun kind : PriceKind => hsame.filter fun e => decide (e.kind = kind)
  simp only [filter_kind_priceEntries] at hkind
  have hd := h.days
  have hs := h.seasons
  have ht := h.standard
  simp only [List.mem_singleton] at hd hs ht
  rw [h.sortedPrices_eq, priceEntries_eq]
  exact (sorted_sources ((hkind .day).trans (hd.map _)) ((hkind .season).trans (hs.map _))
    ((hkind .standard).trans (ht.map _)) hties.days hties.seasons hties.standard).symm

/-- Rows that are hashed as one are the same rows. -/
theorem perm_priceEntries {seen now : PriceRows} (hseen : seen.Of b [id]) (hnow : now.Of b' [id])
    (h : sortedPrices c (seen.pricesOf id) = sortedPrices c (now.pricesOf id)) :
    (priceEntries b id).Perm (priceEntries b' id) := by
  have hmem : id ∈ [id] := List.mem_singleton_self id
  have hb := (hseen.pricesOf_perm hmem).map PlanPriceRow.entry
  have hb' := (hnow.pricesOf_perm hmem).map PlanPriceRow.entry
  exact hb.trans ((insertionSort_eq_iff.mp h).1.trans hb'.symm)

/-- **The fingerprints agree in all orders** exactly if the rows are the same and do not tie. -/
theorem sortedPrices_agree_iff :
    (∀ seen now : PriceRows, seen.Of b [id] → now.Of b' [id] →
      sortedPrices c (seen.pricesOf id) = sortedPrices c (now.pricesOf id)) ↔
    (priceEntries b id).Perm (priceEntries b' id) ∧ TiesApart c b id := by
  constructor
  · intro h
    have hnow : (b'.rowsOf id).Of b' [id] := PriceRows.of_perm (.refl _) (.refl _) (.refl _)
    have hstore : (b.rowsOf id).Of b [id] := PriceRows.of_perm (.refl _) (.refl _) (.refl _)
    have hall : ∀ seen : PriceRows, seen.Of b [id] → sortedPrices c (seen.pricesOf id) =
        sortedPrices c ((b.rowsOf id).pricesOf id) := fun seen hseen =>
      (h seen _ hseen hnow).trans (h _ _ hstore hnow).symm
    constructor
    · exact perm_priceEntries hstore hnow (h _ _ hstore hnow)
    · constructor
      · apply tiesEqual_of_sorted [] (((b.rowsOf id).seasons.map fun r => r.priceRow.entry) ++
          (b.rowsOf id).standard.map fun r => r.priceRow.entry)
        intro m hm
        have hseen : PriceRows.Of ⟨m, _, _⟩ b [id] := PriceRows.of_perm hm (.refl _) (.refl _)
        have heq := hall _ hseen
        rw [hseen.sortedPrices_eq, hstore.sortedPrices_eq] at heq
        rw [List.append_assoc, List.append_assoc] at heq
        exact heq
      · apply tiesEqual_of_sorted ((b.rowsOf id).days.map fun r => r.priceRow.entry)
          ((b.rowsOf id).standard.map fun r => r.priceRow.entry)
        intro m hm
        have hseen : PriceRows.Of ⟨_, m, _⟩ b [id] := PriceRows.of_perm (.refl _) hm (.refl _)
        have heq := hall _ hseen
        rw [hseen.sortedPrices_eq, hstore.sortedPrices_eq] at heq
        exact heq
      · apply tiesEqual_of_sorted (((b.rowsOf id).days.map fun r => r.priceRow.entry) ++
          (b.rowsOf id).seasons.map fun r => r.priceRow.entry) []
        intro m hm
        have hseen : PriceRows.Of ⟨_, _, m⟩ b [id] := PriceRows.of_perm (.refl _) (.refl _) hm
        have heq := hall _ hseen
        rw [hseen.sortedPrices_eq, hstore.sortedPrices_eq] at heq
        rw [List.append_nil, List.append_nil]
        exact heq
  · rintro ⟨hsame, hties⟩ seen now hseen hnow
    rw [hties.sortedPrices_eq (.refl _) hseen, hties.sortedPrices_eq hsame hnow]

end Fall

/-! ## News and fall -/

section Heard

variable (hash : String → String) (c : Collation) (docs : List ContractPriceDoc)
  (w : PartnerWebhookService) (elsewhere : OtherHotels) (b : PriceBook) (op : RatesOp)
  (plan : RatePlan)

/-- The news comes exactly if the fingerprint changes, in whatever order the rows are returned. -/
def HeardExactly : Prop :=
  ∀ before after : PriceRows, before.Of b op.planIds → after.Of (op.left elsewhere b) op.planIds →
    ∀ seen now : PriceRows, seen.Of b [plan.id] → now.Of (op.left elsewhere b) [plan.id] →
      ((∃ e ∈ op.news w elsewhere b before after, e.ratePlanId = plan.id ∧ e.change = .prices) ↔
        tariffFingerprint hash c docs plan (seen.pricesOf plan.id) ≠
          tariffFingerprint hash c docs plan (now.pricesOf plan.id))

/-- Rows that stay the same do not tie; for rows that change the call spells the plan's id as the
database does, and they are another text. -/
structure ToldApart : Prop where
  same : (priceEntries b plan.id).Perm (priceEntries (op.left elsewhere b) plan.id) →
    TiesApart c b plan.id
  changed : ¬(priceEntries b plan.id).Perm (priceEntries (op.left elsewhere b) plan.id) →
    .ofId plan.id ∈ op.sentIds ∧ pricesText b plan.id ≠ pricesText (op.left elsewhere b) plan.id

variable {hash c docs w elsewhere b op plan} {before after : PriceRows}

theorem mem_emitForRatePlan (hw : w.Connected) (hplan : plan ∈ b.ratePlans)
    (hpartner : plan.partnerId.isSome = true) (hverdict : plan.reviewVerdict.isSome = true)
    {id : RatePlanId} {change : TariffChange} :
    (∃ e ∈ w.emitForRatePlan b id change, e.ratePlanId = plan.id ∧ e.change = change) ↔
      id = plan.id := by
  unfold PartnerWebhookService.emitForRatePlan PartnerWebhookService.emitTariffChanged
  rw [if_pos hw]
  constructor
  · rintro ⟨e, he, hid, -⟩
    cases hfind : b.ratePlans.find id with
    | none =>
      rw [hfind] at he
      cases he
    | some other =>
      rw [hfind] at he
      dsimp only at he
      split_ifs at he with hsend
      · rw [List.mem_singleton.mp he] at hid
        exact (Table.find_eq_some.mp hfind).2.symm.trans hid
      · cases he
  · rintro rfl
    rw [Table.find_key hplan]
    dsimp only
    rw [if_pos ⟨hw, hpartner, hverdict⟩]
    exact ⟨_, List.mem_singleton_self _, rfl, rfl⟩

theorem left_of_ok {b' : PriceBook} (h : op.exec elsewhere b = .ok b') : op.left elsewhere b = b' := by
  rw [RatesOp.left, h]

theorem ratePlans_left : (op.left elsewhere b).ratePlans = b.ratePlans := by
  unfold RatesOp.left
  cases h : op.exec elsewhere b with
  | error _ => rfl
  | ok b' =>
    rcases RatesOp.exec_frame h with hframe | ⟨dto, -, rfl⟩
    · exact hframe.ratePlans
    · rfl

/-- **The news comes** exactly if the call spells the plan's id as the database does and the text of
the prices is another one. -/
theorem news_iff (hw : w.Connected) (hop : ∀ key, op ≠ .remove key) (hplan : plan ∈ b.ratePlans)
    (hpartner : plan.partnerId.isSome = true) (hverdict : plan.reviewVerdict.isSome = true)
    (hbefore : before.Of b op.planIds) (hafter : after.Of (op.left elsewhere b) op.planIds) :
    (∃ e ∈ op.news w elsewhere b before after, e.ratePlanId = plan.id ∧ e.change = .prices) ↔
      .ofId plan.id ∈ op.sentIds ∧ pricesText b plan.id ≠ pricesText (op.left elsewhere b) plan.id := by
  cases hexec : op.exec elsewhere b with
  | error x =>
    have hleft : op.left elsewhere b = b := by rw [RatesOp.left, hexec]
    have hnews : op.news w elsewhere b before after = [] := by rw [RatesOp.news, hexec]
    rw [hleft, hnews]
    simp
  | ok b' =>
    have hleft := left_of_ok hexec
    have hplan' : plan ∈ b'.ratePlans := by
      rw [← hleft, ratePlans_left]
      exact hplan
    have hnews : op.news w elsewhere b before after = RatesService.pricesChanged w b' op.sentIds
        (RatesService.priceSnapshot op.sentIds before)
        (RatesService.priceSnapshot op.sentIds after) := by
      rw [RatesOp.news, hexec]
      cases op with
      | remove key => exact absurd rfl (hop key)
      | bulkUpsert items => rfl
      | fillRange dto => rfl
      | setStandard dto => rfl
      | replaceSeasons dto => rfl
    have hmem : ∀ id : RatePlanId, (∃ e ∈ w.emitForRatePlan b' id .prices,
        e.ratePlanId = plan.id ∧ e.change = .prices) ↔ id = plan.id := fun id =>
      mem_emitForRatePlan hw hplan' hpartner hverdict
    rw [hnews]
    constructor
    · rintro ⟨e, he, heid, hechange⟩
      obtain ⟨id, hid, he⟩ := List.mem_flatMap.mp he
      obtain ⟨hid, hne⟩ := List.mem_filter.mp hid
      have hplanId := (hmem id.id).mp ⟨e, he, heid, hechange⟩
      have hsent := List.mem_dedup.mp hid
      rw [decide_eq_true_eq] at hne
      by_cases hstored : id.Stored
      · obtain rfl : id = .ofId plan.id := hstored.trans (congrArg IdText.ofId hplanId)
        have hread : plan.id ∈ op.planIds := List.mem_map.mpr ⟨_, hsent, rfl⟩
        rw [priceSnapshot_eq hbefore hread hsent, priceSnapshot_eq hafter hread hsent] at hne
        exact ⟨hsent, fun heq => hne (congrArg some heq)⟩
      · -- nothing is read under another spelling, so nothing differs
        rw [priceSnapshot_other hstored hsent, priceSnapshot_other hstored hsent] at hne
        exact absurd rfl hne
    · rintro ⟨hsent, hne⟩
      have hread : plan.id ∈ op.planIds := List.mem_map.mpr ⟨_, hsent, rfl⟩
      obtain ⟨e, he, heid, hechange⟩ := (hmem plan.id).mpr rfl
      refine ⟨e, List.mem_flatMap.mpr ⟨.ofId plan.id,
        List.mem_filter.mpr ⟨List.mem_dedup.mpr hsent, ?_⟩, he⟩, heid, hechange⟩
      rw [priceSnapshot_eq hbefore hread hsent, priceSnapshot_eq hafter hread hsent,
        decide_eq_true_eq]
      exact fun heq => hne (Option.some.inj heq)

/-- **The partner hears of a change exactly when its confirmation falls** if the rows are told
apart. -/
theorem heard_iff (hh : Function.Injective hash) (hw : w.Connected)
    (hop : ∀ key, op ≠ .remove key) (hplan : plan ∈ b.ratePlans)
    (hpartner : plan.partnerId.isSome = true) (hverdict : plan.reviewVerdict.isSome = true) :
    HeardExactly hash c docs w elsewhere b op plan ↔ ToldApart c elsewhere b op plan := by
  have hfall : ∀ seen now : PriceRows, tariffFingerprint hash c docs plan (seen.pricesOf plan.id) =
      tariffFingerprint hash c docs plan (now.pricesOf plan.id) ↔
        sortedPrices c (seen.pricesOf plan.id) = sortedPrices c (now.pricesOf plan.id) := by
    intro seen now
    rw [tariffFingerprint_inj hh]
    simp
  have htext : (priceEntries b plan.id).Perm (priceEntries (op.left elsewhere b) plan.id) →
      pricesText b plan.id = pricesText (op.left elsewhere b) plan.id := fun hsame =>
    joinSorted_perm (hsame.map PriceEntry.line)
  constructor
  · intro h
    have hrows : ∀ b : PriceBook, ∃ q : PriceRows, q.Of b op.planIds := fun b =>
      ⟨⟨_, _, _⟩, .refl _, .refl _, .refl _⟩
    obtain ⟨before, hbefore⟩ := hrows b
    obtain ⟨after, hafter⟩ := hrows (op.left elsewhere b)
    have hagree : ¬(.ofId plan.id ∈ op.sentIds ∧
        pricesText b plan.id ≠ pricesText (op.left elsewhere b) plan.id) →
        (priceEntries b plan.id).Perm (priceEntries (op.left elsewhere b) plan.id) ∧
          TiesApart c b plan.id := by
      intro hquiet
      apply sortedPrices_agree_iff.mp
      intro seen now hseen hnow
      by_contra hne
      have hnews := (h before after hbefore hafter seen now hseen hnow).mpr
        fun hf => hne ((hfall seen now).mp hf)
      exact hquiet ((news_iff hw hop hplan hpartner hverdict hbefore hafter).mp hnews)
    constructor
    · exact fun hsame => (hagree fun hheard => hheard.2 (htext hsame)).2
    · intro hdiff
      by_contra hquiet
      exact hdiff (hagree hquiet).1
  · intro h before after hbefore hafter seen now hseen hnow
    rw [news_iff hw hop hplan hpartner hverdict hbefore hafter, ne_eq (tariffFingerprint _ _ _ _ _),
      hfall]
    constructor
    · rintro ⟨-, hne⟩ hsorted
      exact hne (htext (perm_priceEntries hseen hnow hsorted))
    · intro hsorted
      have hdiff : ¬(priceEntries b plan.id).Perm (priceEntries (op.left elsewhere b) plan.id) :=
        fun hsame => hsorted
          (sortedPrices_agree_iff.mpr ⟨hsame, h.same hsame⟩ seen now hseen hnow)
      exact h.changed hdiff

/-! ## Small inputs -/

/-- The confirmed plan of a partner. -/
def RatePlan.reviewed : RatePlan := { RatePlan.ofPartner with reviewVerdict := some .confirmed }

/-- A hotel with the reviewed plan and two prices for one window of it. -/
def PriceBook.twoSeasons : PriceBook :=
  { PriceBook.ofSeasons [.tenDays 400000 0, .tenDays 450000 1] with
    roomTypes := Table.empty.insert ⟨1, 2, 2, true⟩
    ratePlans := Table.empty.insert .reviewed }

/-- The two seasons of that window, saved in this order. -/
def ReplaceSeasonsDto.ofPrices (first second : Price) : ReplaceSeasonsDto :=
  ⟨1, none, [⟨"A", 0, 9, none, [⟨1, first, none⟩]⟩, ⟨"B", 0, 9, none, [⟨1, second, none⟩]⟩]⟩

def PartnerWebhookService.sample : PartnerWebhookService := ⟨some "u", some "s"⟩

/-- A price changed from 4000.00 to 4100.00 is news, and the confirmation falls. -/
theorem heard_iff_newPrice :
    HeardExactly id .codeUnits [] .sample ⟨fun _ => false, fun _ => false⟩ .twoSeasons
      (.replaceSeasons (.ofPrices 410000 450000)) .reviewed :=
  (heard_iff Function.injective_id (by decide) (fun _ h => by cases h) (List.mem_singleton_self _) rfl
    rfl).mpr
    { same := fun hperm => absurd hperm (by decide +kernel)
      changed := fun _ => ⟨by decide, by decide +kernel⟩ }

/-- **Two prices of one window, swapped**: the confirmation falls and nobody is told. -/
theorem swapped_unheard : ¬∀ (hash : String → String) (c : Collation)
    (docs : List ContractPriceDoc) (w : PartnerWebhookService) (elsewhere : OtherHotels)
    (b : PriceBook) (op : RatesOp) (plan : RatePlan), Function.Injective hash → w.Connected →
      (∀ key, op ≠ .remove key) → plan ∈ b.ratePlans → plan.partnerId.isSome = true →
      plan.reviewVerdict.isSome = true → HeardExactly hash c docs w elsewhere b op plan := by
  intro hall
  have hplan : RatePlan.reviewed ∈ PriceBook.twoSeasons.ratePlans := List.mem_singleton_self _
  have hop : ∀ key, RatesOp.replaceSeasons (.ofPrices 450000 400000) ≠ .remove key :=
    fun _ => nofun
  have h := hall id .codeUnits [] .sample ⟨fun _ => false, fun _ => false⟩ .twoSeasons
    (.replaceSeasons (.ofPrices 450000 400000)) .reviewed Function.injective_id (by decide) hop hplan
    rfl rfl
  have hbefore : (PriceBook.twoSeasons.rowsOf 1).Of .twoSeasons [1] :=
    PriceRows.of_perm (.refl _) (.refl _) (.refl _)
  have hafter : ((RatesOp.left ⟨fun _ => false, fun _ => false⟩ .twoSeasons
      (.replaceSeasons (.ofPrices 450000 400000))).rowsOf 1).Of
        (RatesOp.left ⟨fun _ => false, fun _ => false⟩ .twoSeasons
          (.replaceSeasons (.ofPrices 450000 400000))) [1] :=
    PriceRows.of_perm (.refl _) (.refl _) (.refl _)
  -- The rows of the store, in the order they were saved in.
  have hnews := (h _ _ hbefore hafter _ _ hbefore hafter).mpr fun hsame => by
    have hsorted := ((tariffFingerprint_inj Function.injective_id).mp hsame).2.2
    revert hsorted
    decide +kernel
  revert hnews
  decide +kernel

end Heard

end KarsHotel
