import KarsHotel.Pricing.OnePrice
import KarsHotel.RatePlans.Fingerprint

/-!
# What the price of a night depends on

The price of a night by a plan is read off the rows of that plan. Their sort orders decide among
seasons that start on one day, and the fingerprint does not have them.

* `Unambiguous`: seasons of which the resolver takes one price, in whatever order they are stored;
* `SameRanks`: two seasons that start on one day are ranked as they were;
* **`seasonPrice_congr`**, **`nightPrice_congr`**: rows that are the same for the fingerprint, and
  seasons ranked the same, make the same price.
-/

namespace KarsHotel

/-! ## Choosing by the number of guests -/

section Pick

variable {T : Type} [HasOccupancy T] {l l' : List T}

/-- Rows for one number of guests have one price. -/
def OnePriceEach (l : List T) : Prop := ∀ r ∈ l, ∀ s ∈ l,
  HasOccupancy.occupancy r = HasOccupancy.occupancy s → HasOccupancy.price r = HasOccupancy.price s

/-- Every price of the one is a price of the other, for the same number of guests. -/
def PricedBy (l l' : List T) : Prop := ∀ r ∈ l, ∃ s ∈ l',
  HasOccupancy.occupancy s = HasOccupancy.occupancy r ∧ HasOccupancy.price s = HasOccupancy.price r

theorem find_price_iff (h : OnePriceEach l) {n : ℕ} {p : Price} :
    (l.find? fun r => decide (HasOccupancy.occupancy r = n)).map HasOccupancy.price = some p ↔
      ∃ r ∈ l, HasOccupancy.occupancy r = n ∧ HasOccupancy.price r = p := by
  constructor
  · intro hp
    obtain ⟨r, hr, rfl⟩ := Option.map_eq_some_iff.mp hp
    exact ⟨r, List.mem_of_find?_eq_some hr, by simpa using List.find?_some hr, rfl⟩
  · rintro ⟨r, hr, rfl, rfl⟩
    cases hf : l.find? fun s => decide (HasOccupancy.occupancy s = HasOccupancy.occupancy r) with
    | none => exact absurd (List.find?_eq_none.mp hf r hr) (by simp)
    | some s =>
      have hs : HasOccupancy.occupancy s = HasOccupancy.occupancy r := by
        simpa using List.find?_some hf
      rw [Option.map_some, h s (List.mem_of_find?_eq_some hf) r hr hs]

theorem fewest_price_iff (h : OnePriceEach l) {p : Price} :
    ((l.insertionSort fun a b => HasOccupancy.occupancy a ≤ HasOccupancy.occupancy b).head?).map
        HasOccupancy.price = some p ↔
      ∃ r ∈ l, HasOccupancy.price r = p ∧
        ∀ s ∈ l, HasOccupancy.occupancy r ≤ HasOccupancy.occupancy s := by
  let le : T → T → Prop := fun a b => HasOccupancy.occupancy a ≤ HasOccupancy.occupancy b
  have : Std.Total le := ⟨fun a b => le_total (HasOccupancy.occupancy a) (HasOccupancy.occupancy b)⟩
  have : IsTrans T le := ⟨fun _ _ _ hab hbc => Nat.le_trans hab hbc⟩
  have hsorted := List.pairwise_insertionSort le l
  have hmem : ∀ s, s ∈ l.insertionSort le ↔ s ∈ l := fun s => List.mem_insertionSort le
  show ((l.insertionSort le).head?).map HasOccupancy.price = some p ↔ _
  cases hl : l.insertionSort le with
  | nil =>
    rw [hl] at hmem
    constructor
    · intro hp
      cases hp
    · rintro ⟨r, hr, -⟩
      exact absurd ((hmem r).mpr hr) List.not_mem_nil
  | cons a m =>
    rw [hl] at hmem hsorted
    have ha : a ∈ l := (hmem a).mp List.mem_cons_self
    have hleast : ∀ s ∈ l, HasOccupancy.occupancy a ≤ HasOccupancy.occupancy s := by
      intro s hs
      rcases List.mem_cons.mp ((hmem s).mpr hs) with rfl | hs
      · exact Nat.le_refl _
      · exact List.rel_of_pairwise_cons hsorted hs
    rw [List.head?_cons, Option.map_some, Option.some.injEq]
    constructor
    · rintro rfl
      exact ⟨a, ha, rfl, hleast⟩
    · rintro ⟨r, hr, rfl, hr'⟩
      exact h a ha r hr (Nat.le_antisymm (hleast r hr) (hr' a ha))

/-- **The price chosen** depends on which prices there are for which numbers of guests. -/
theorem pickByOccupancy_congr (h : OnePriceEach l) (h' : OnePriceEach l') (hll' : PricedBy l l')
    (hl'l : PricedBy l' l) (occupancy : Option ℕ) :
    (pickByOccupancy l occupancy).map HasOccupancy.price =
      (pickByOccupancy l' occupancy).map HasOccupancy.price := by
  have hfind : ∀ n : ℕ,
      (l.find? fun r => decide (HasOccupancy.occupancy r = n)).map HasOccupancy.price =
        (l'.find? fun r => decide (HasOccupancy.occupancy r = n)).map HasOccupancy.price := by
    intro n
    ext p
    rw [find_price_iff h, find_price_iff h']
    constructor
    · rintro ⟨r, hr, hn, hp⟩
      obtain ⟨s, hs, hocc, hprice⟩ := hll' r hr
      exact ⟨s, hs, hocc.trans hn, hprice.trans hp⟩
    · rintro ⟨r, hr, hn, hp⟩
      obtain ⟨s, hs, hocc, hprice⟩ := hl'l r hr
      exact ⟨s, hs, hocc.trans hn, hprice.trans hp⟩
  have hfewest :
      ((l.insertionSort fun a b => HasOccupancy.occupancy a ≤ HasOccupancy.occupancy b).head?).map
          HasOccupancy.price =
        ((l'.insertionSort fun a b => HasOccupancy.occupancy a ≤ HasOccupancy.occupancy b).head?).map
          HasOccupancy.price := by
    ext p
    rw [fewest_price_iff h, fewest_price_iff h']
    constructor
    · rintro ⟨r, hr, rfl, hleast⟩
      obtain ⟨s, hs, hocc, hprice⟩ := hll' r hr
      refine ⟨s, hs, hprice, fun t ht => ?_⟩
      obtain ⟨u, hu, hocc', -⟩ := hl'l t ht
      rw [hocc, ← hocc']
      exact hleast u hu
    · rintro ⟨r, hr, rfl, hleast⟩
      obtain ⟨s, hs, hocc, hprice⟩ := hl'l r hr
      refine ⟨s, hs, hprice, fun t ht => ?_⟩
      obtain ⟨u, hu, hocc', -⟩ := hll' t ht
      rw [hocc, ← hocc']
      exact hleast u hu
  unfold pickByOccupancy
  split
  · rw [Option.map_or, Option.map_or, hfind, hfind]
  · rw [Option.map_or, Option.map_or, hfind, hfewest]

end Pick

/-! ## Seasons -/

/-- Seasons that the resolver takes one price of: those of one room type, start and sort order have
one end, and then one price for every number of guests; and none is there twice with two sort
orders. -/
structure Unambiguous (S : List RateSeason) : Prop where
  window : ∀ r ∈ S, ∀ s ∈ S, r.roomTypeId = s.roomTypeId → r.dateFrom = s.dateFrom →
    r.sortOrder = s.sortOrder → r.dateTo = s.dateTo
  price : ∀ r ∈ S, ∀ s ∈ S, r.roomTypeId = s.roomTypeId → r.SameWindow s →
    r.occupancy = s.occupancy → r.price = s.price
  once : ∀ r ∈ S, ∀ s ∈ S, r.priceRow = s.priceRow → r.sortOrder = s.sortOrder

/-- Two seasons of a room type that start on one day are ranked as they were. -/
def SameRanks (S S' : List RateSeason) : Prop :=
  ∀ r ∈ S, ∀ s ∈ S, ∀ r' ∈ S', ∀ s' ∈ S', r'.priceRow = r.priceRow → s'.priceRow = s.priceRow →
    r.roomTypeId = s.roomTypeId → r.dateFrom = s.dateFrom →
      (r'.sortOrder ≤ s'.sortOrder ↔ r.sortOrder ≤ s.sortOrder)

/-- The same season rows, ranked the same. -/
structure SeasonsKept (S S' : List RateSeason) : Prop where
  unambiguous : Unambiguous S
  ranks : SameRanks S S'
  there : ∀ r ∈ S, ∃ r' ∈ S', r'.priceRow = r.priceRow
  back : ∀ r' ∈ S', ∃ r ∈ S, r'.priceRow = r.priceRow

theorem occupancyOrNull_injective : Function.Injective occupancyOrNull := by
  intro m n h
  unfold occupancyOrNull at h
  split_ifs at h with hm hn hn
  · rw [hm, hn]
  · exact Option.some.inj h

theorem RateSeason.priceRow_eq_iff {r s : RateSeason} : r.priceRow = s.priceRow ↔
    r.roomTypeId = s.roomTypeId ∧ r.occupancy = s.occupancy ∧ r.dateFrom = s.dateFrom ∧
      r.dateTo = s.dateTo ∧ r.price = s.price ∧ r.currency = s.currency := by
  simp only [RateSeason.priceRow, PlanPriceRow.mk.injEq, occupancyOrNull_injective.eq_iff,
    Option.some.injEq, true_and]

section Ranks

variable {S S' : List RateSeason}

/-- Sort orders that were equal stay equal. -/
theorem SameRanks.eq_iff (h : SameRanks S S') {r s r' s' : RateSeason} (hr : r ∈ S) (hs : s ∈ S)
    (hr' : r' ∈ S') (hs' : s' ∈ S') (hrr' : r'.priceRow = r.priceRow)
    (hss' : s'.priceRow = s.priceRow) (hroom : r.roomTypeId = s.roomTypeId)
    (hfrom : r.dateFrom = s.dateFrom) : r'.sortOrder = s'.sortOrder ↔ r.sortOrder = s.sortOrder := by
  have hle := h r hr s hs r' hr' s' hs' hrr' hss' hroom hfrom
  have hge := h s hs r hr s' hs' r' hr' hss' hrr' hroom.symm hfrom.symm
  rw [le_antisymm_iff, le_antisymm_iff, hle, hge]

/-- Seasons ranked as unambiguous ones were are unambiguous. -/
theorem SeasonsKept.unambiguous' (h : SeasonsKept S S') : Unambiguous S' := by
  -- the rows that were there, and the order they had
  have hold : ∀ r' ∈ S', ∀ s' ∈ S', r'.roomTypeId = s'.roomTypeId → r'.dateFrom = s'.dateFrom →
      ∃ r ∈ S, ∃ s ∈ S, r'.priceRow = r.priceRow ∧ s'.priceRow = s.priceRow ∧
        r.roomTypeId = s.roomTypeId ∧ r.dateFrom = s.dateFrom ∧
        (r'.sortOrder = s'.sortOrder ↔ r.sortOrder = s.sortOrder) := by
    intro r' hr' s' hs' hroom hfrom
    obtain ⟨r, hr, hrr'⟩ := h.back r' hr'
    obtain ⟨s, hs, hss'⟩ := h.back s' hs'
    have hr₁ := RateSeason.priceRow_eq_iff.mp hrr'
    have hs₁ := RateSeason.priceRow_eq_iff.mp hss'
    have hroom₁ : r.roomTypeId = s.roomTypeId := by rw [← hr₁.1, hroom, hs₁.1]
    have hfrom₁ : r.dateFrom = s.dateFrom := by rw [← hr₁.2.2.1, hfrom, hs₁.2.2.1]
    exact ⟨r, hr, s, hs, hrr', hss', hroom₁, hfrom₁,
      h.ranks.eq_iff hr hs hr' hs' hrr' hss' hroom₁ hfrom₁⟩
  refine ⟨fun r' hr' s' hs' hroom hfrom hsort => ?_, fun r' hr' s' hs' hroom hwin hocc => ?_,
    fun r' hr' s' hs' hrow => ?_⟩
  · obtain ⟨r, hr, s, hs, hrr', hss', hroom₁, hfrom₁, hiff⟩ := hold r' hr' s' hs' hroom hfrom
    have hto := h.unambiguous.window r hr s hs hroom₁ hfrom₁ (hiff.mp hsort)
    rw [(RateSeason.priceRow_eq_iff.mp hrr').2.2.2.1, hto,
      (RateSeason.priceRow_eq_iff.mp hss').2.2.2.1]
  · obtain ⟨r, hr, s, hs, hrr', hss', hroom₁, hfrom₁, hiff⟩ := hold r' hr' s' hs' hroom hwin.1
    have hr₁ := RateSeason.priceRow_eq_iff.mp hrr'
    have hs₁ := RateSeason.priceRow_eq_iff.mp hss'
    have hto : r.dateTo = s.dateTo := by rw [← hr₁.2.2.2.1, hwin.2.1, hs₁.2.2.2.1]
    have hocc₁ : r.occupancy = s.occupancy := by rw [← hr₁.2.1, hocc, hs₁.2.1]
    have hprice := h.unambiguous.price r hr s hs hroom₁ ⟨hfrom₁, hto, hiff.mp hwin.2.2⟩ hocc₁
    rw [hr₁.2.2.2.2.1, hprice, hs₁.2.2.2.2.1]
  · have hfields := RateSeason.priceRow_eq_iff.mp hrow
    obtain ⟨r, hr, s, hs, hrr', hss', -, -, hiff⟩ := hold r' hr' s' hs' hfields.1 hfields.2.2.1
    exact hiff.mpr (h.unambiguous.once r hr s hs (by rw [← hrr', hrow, hss']))

theorem Unambiguous.kept (h : Unambiguous S) : SeasonsKept S S where
  unambiguous := h
  ranks r hr s hs r' hr' s' hs' hrr' hss' _ _ := by
    rw [h.once r' hr' r hr hrr', h.once s' hs' s hs hss']
  there r hr := ⟨r, hr, rfl⟩
  back r hr := ⟨r, hr, rfl⟩

theorem mem_covering {b : BaselineResolver} {planId : RatePlanId} {roomTypeId : RoomTypeId}
    {day : Day} {s : RateSeason} :
    s ∈ (b.seasonsByKey planId roomTypeId).filter (fun s => decide (s.Covers day)) ↔
      (s ∈ b.seasons ∧ s.ratePlanId = planId) ∧ s.roomTypeId = roomTypeId ∧ s.Covers day := by
  rw [BaselineResolver.seasonsByKey_covering, List.mem_insertionSort, List.mem_filter]
  simp only [Bool.and_eq_true, decide_eq_true_eq]
  tauto

theorem pairwise_covering (b : BaselineResolver) (planId : RatePlanId) (roomTypeId : RoomTypeId)
    (day : Day) : ((b.seasonsByKey planId roomTypeId).filter fun s =>
      decide (s.Covers day)).Pairwise RateSeason.Before := by
  rw [BaselineResolver.seasonsByKey_covering]
  exact List.pairwise_insertionSort _ _

section Group

variable {top top' : RateSeason} {rest rest' : List RateSeason} {roomTypeId : RoomTypeId}

/-- What stands first among seasons kept is the same row, up to those it shares its window with. -/
theorem SeasonsKept.sameWindow_iff (h : SeasonsKept S S')
    (hL : ∀ s ∈ top :: rest, s ∈ S ∧ s.roomTypeId = roomTypeId)
    (hL' : ∀ s ∈ top' :: rest', s ∈ S' ∧ s.roomTypeId = roomTypeId)
    (hthere : ∀ s ∈ top :: rest, ∃ s' ∈ top' :: rest', s'.priceRow = s.priceRow)
    (hback : ∀ s' ∈ top' :: rest', ∃ s ∈ top :: rest, s'.priceRow = s.priceRow)
    (hsorted : (top :: rest).Pairwise RateSeason.Before)
    (hsorted' : (top' :: rest').Pairwise RateSeason.Before) {r r' : RateSeason}
    (hr : r ∈ top :: rest) (hr' : r' ∈ top' :: rest') (hrow : r'.priceRow = r.priceRow) :
    r'.SameWindow top' ↔ r.SameWindow top := by
  have hfirst : ∀ {t : RateSeason} {m : List RateSeason}, (t :: m).Pairwise RateSeason.Before →
      ∀ s ∈ t :: m, t.Before s := by
    intro t m hm s hs
    rcases List.mem_cons.mp hs with rfl | hs
    · exact .inr ⟨rfl, le_refl _⟩
    · exact List.rel_of_pairwise_cons hm hs
  -- the row of `top` now, and the row `top'` was
  obtain ⟨u', hu', hu⟩ := hthere top List.mem_cons_self
  obtain ⟨v, hv, hv'⟩ := hback top' List.mem_cons_self
  have htopS := hL top List.mem_cons_self
  have htopS' := hL' top' List.mem_cons_self
  have hvS := hL v hv
  have huS' := hL' u' hu'
  obtain ⟨-, -, hufrom, huto, -, -⟩ := RateSeason.priceRow_eq_iff.mp hu
  obtain ⟨-, -, hvfrom, hvto, -, -⟩ := RateSeason.priceRow_eq_iff.mp hv'
  obtain ⟨-, -, hrfrom, hrto, -, -⟩ := RateSeason.priceRow_eq_iff.mp hrow
  have hstart : top.dateFrom = v.dateFrom ∧ u'.sortOrder ≤ top'.sortOrder ∧
      v.sortOrder ≤ top.sortOrder := by
    rcases hfirst hsorted' u' hu' with hlt | ⟨heq, hle⟩ <;>
      rcases hfirst hsorted v hv with hlt' | ⟨heq', hle'⟩
    · rw [hufrom, hvfrom] at hlt
      exact absurd hlt (not_lt_of_gt hlt')
    · rw [hufrom, hvfrom, heq'] at hlt
      exact absurd hlt (lt_irrefl _)
    · rw [hufrom, hvfrom] at heq
      rw [heq] at hlt'
      exact absurd hlt' (lt_irrefl _)
    · exact ⟨heq', hle, hle'⟩
  have hsort : u'.sortOrder = top'.sortOrder := by
    have hle := (h.ranks v hvS.1 top htopS.1 top' htopS'.1 u' huS'.1 hv' hu
      (hvS.2.trans htopS.2.symm) hstart.1.symm).mpr hstart.2.2
    exact le_antisymm hstart.2.1 hle
  have hfrom : top'.dateFrom = top.dateFrom := by rw [hvfrom, hstart.1]
  have hto : top'.dateTo = top.dateTo := by
    have hwin := h.unambiguous'.window u' huS'.1 top' htopS'.1 (huS'.2.trans htopS'.2.symm)
      (hufrom.trans hfrom.symm) hsort
    rw [← hwin, huto]
  unfold RateSeason.SameWindow
  rw [hrfrom, hrto, hfrom, hto, ← hsort]
  refine and_congr_right fun hrtop => and_congr_right fun _ => ?_
  exact h.ranks.eq_iff (hL r hr).1 htopS.1 (hL' r' hr').1 huS'.1 hrow hu
    ((hL r hr).2.trans htopS.2.symm) hrtop

/-- Seasons of one window have one price for every number of guests. -/
theorem Unambiguous.onePriceEach (h : Unambiguous S)
    (hL : ∀ s ∈ top :: rest, s ∈ S ∧ s.roomTypeId = roomTypeId) :
    OnePriceEach ((top :: rest).filter fun s => decide (s.SameWindow top)) := by
  intro r hr s hs hocc
  obtain ⟨hr, hrtop⟩ := List.mem_filter.mp hr
  obtain ⟨hs, hstop⟩ := List.mem_filter.mp hs
  obtain ⟨hrfrom, hrto, hrsort⟩ : r.SameWindow top := by simpa using hrtop
  obtain ⟨hsfrom, hsto, hssort⟩ : s.SameWindow top := by simpa using hstop
  exact h.price r (hL r hr).1 s (hL s hs).1 ((hL r hr).2.trans (hL s hs).2.symm)
    ⟨hrfrom.trans hsfrom.symm, hrto.trans hsto.symm, hrsort.trans hssort.symm⟩ hocc

end Group

/-- **Seasons kept make the same season price.** -/
theorem seasonPrice_congr {b b' : BaselineResolver} {planId : RatePlanId}
    (h : SeasonsKept (b.seasons.filter fun s => decide (s.ratePlanId = planId))
      (b'.seasons.filter fun s => decide (s.ratePlanId = planId)))
    (roomTypeId : RoomTypeId) (day : Day) (occupancy : Option ℕ) :
    b.seasonPrice planId roomTypeId day occupancy =
      b'.seasonPrice planId roomTypeId day occupancy := by
  have hplan : ∀ {c : BaselineResolver} {s : RateSeason},
      s ∈ c.seasons.filter (fun s => decide (s.ratePlanId = planId)) ↔
        s ∈ c.seasons ∧ s.ratePlanId = planId := by
    intro c s
    rw [List.mem_filter, decide_eq_true_eq]
  have hcovers : ∀ {r s : RateSeason}, r.priceRow = s.priceRow →
      s.roomTypeId = roomTypeId ∧ s.Covers day → r.roomTypeId = roomTypeId ∧ r.Covers day := by
    rintro r s hrow ⟨hroom, hfrom, hto⟩
    have hfields := RateSeason.priceRow_eq_iff.mp hrow
    exact ⟨hfields.1.trans hroom, hfields.2.2.1 ▸ hfrom, hfields.2.2.2.1 ▸ hto⟩
  unfold BaselineResolver.seasonPrice
  have hmem := @mem_covering b planId roomTypeId day
  have hmem' := @mem_covering b' planId roomTypeId day
  have hsorted := pairwise_covering b planId roomTypeId day
  have hsorted' := pairwise_covering b' planId roomTypeId day
  generalize (b.seasonsByKey planId roomTypeId).filter (fun s => decide (s.Covers day)) = L
    at hmem hsorted ⊢
  generalize (b'.seasonsByKey planId roomTypeId).filter (fun s => decide (s.Covers day)) = L'
    at hmem' hsorted' ⊢
  have hthere : ∀ s ∈ L, ∃ s' ∈ L', s'.priceRow = s.priceRow := by
    intro s hs
    obtain ⟨hsb, hsc⟩ := hmem.mp hs
    obtain ⟨s', hs', hrow⟩ := h.there s (hplan.mpr hsb)
    exact ⟨s', hmem'.mpr ⟨hplan.mp hs', hcovers hrow hsc⟩, hrow⟩
  have hback : ∀ s' ∈ L', ∃ s ∈ L, s'.priceRow = s.priceRow := by
    intro s' hs'
    obtain ⟨hsb, hsc⟩ := hmem'.mp hs'
    obtain ⟨s, hs, hrow⟩ := h.back s' (hplan.mpr hsb)
    exact ⟨s, hmem.mpr ⟨hplan.mp hs, hcovers hrow.symm hsc⟩, hrow⟩
  match L, L' with
  | [], [] => rfl
  | [], top' :: rest' =>
    obtain ⟨s, hs, -⟩ := hback top' List.mem_cons_self
    exact absurd hs List.not_mem_nil
  | top :: rest, [] =>
    obtain ⟨s, hs, -⟩ := hthere top List.mem_cons_self
    exact absurd hs List.not_mem_nil
  | top :: rest, top' :: rest' =>
    have hL : ∀ s ∈ top :: rest, s ∈ b.seasons.filter (fun s => decide (s.ratePlanId = planId)) ∧
        s.roomTypeId = roomTypeId := fun s hs =>
      ⟨hplan.mpr (hmem.mp hs).1, (hmem.mp hs).2.1⟩
    have hL' : ∀ s ∈ top' :: rest',
        s ∈ b'.seasons.filter (fun s => decide (s.ratePlanId = planId)) ∧
          s.roomTypeId = roomTypeId := fun s hs =>
      ⟨hplan.mpr (hmem'.mp hs).1, (hmem'.mp hs).2.1⟩
    have hwindow := @SeasonsKept.sameWindow_iff _ _ _ _ _ _ _ h hL hL' hthere hback hsorted hsorted'
    refine pickByOccupancy_congr (h.unambiguous.onePriceEach hL)
      (h.unambiguous'.onePriceEach hL') ?_ ?_ occupancy
    · intro r hr
      obtain ⟨hr, hrtop⟩ := List.mem_filter.mp hr
      obtain ⟨r', hr', hrow⟩ := hthere r hr
      have hfields := RateSeason.priceRow_eq_iff.mp hrow
      refine ⟨r', List.mem_filter.mpr ⟨hr', ?_⟩, hfields.2.1, hfields.2.2.2.2.1⟩
      rw [decide_eq_true_eq] at hrtop ⊢
      exact (hwindow hr hr' hrow).mpr hrtop
    · intro r' hr'
      obtain ⟨hr', hrtop'⟩ := List.mem_filter.mp hr'
      obtain ⟨r, hr, hrow⟩ := hback r' hr'
      have hfields := RateSeason.priceRow_eq_iff.mp hrow
      refine ⟨r, List.mem_filter.mpr ⟨hr, ?_⟩, hfields.2.1.symm, hfields.2.2.2.2.1.symm⟩
      rw [decide_eq_true_eq] at hrtop' ⊢
      exact (hwindow hr hr' hrow).mp hrtop'

end Ranks

/-! ## The rows of a plan -/

def seasonsOf (b : PriceBook) (planId : RatePlanId) : List RateSeason :=
  b.seasons.filter fun s => decide (s.ratePlanId = planId)

/-- The plan has the same rows, and its seasons are ranked the same. -/
structure PlanKept (b b' : PriceBook) (planId : RatePlanId) : Prop where
  rates : ∀ r : Rate, r.ratePlanId = planId → (r ∈ b.rates ↔ r ∈ b'.rates)
  seasons : SeasonsKept (seasonsOf b planId) (seasonsOf b' planId)
  standards : ∀ r : StandardRate, r.ratePlanId = planId →
    (r ∈ b.standardRates ↔ r ∈ b'.standardRates)

theorem dayText_injective : Function.Injective dayText := by
  have hne : ∀ d : Day, isoDate d ≠ "" := by
    intro d h
    have hnil := congrArg String.toList h
    simp [isoDate] at hnil
  intro a b h
  cases a with
  | none =>
    cases b with
    | none => rfl
    | some d => exact absurd h.symm (hne d)
  | some d =>
    cases b with
    | none => exact absurd h (hne d)
    | some e => exact congrArg some (isoDate_injective h)

theorem PlanPriceRow.entry_injective : Function.Injective PlanPriceRow.entry := by
  intro a b h
  obtain ⟨hkind, hroom, hocc, hfrom, hto, hprice, hcurrency⟩ := PriceEntry.mk.inj h
  have hfrom := dayText_injective hfrom
  have hto := dayText_injective hto
  have hprice := decimalText_injective hprice
  cases a
  cases b
  simp_all

/-- **Prices that hash the same** are the same rows. -/
theorem perm_of_sortedPrices {c : Collation} {l l' : List PlanPriceRow}
    (h : sortedPrices c l = sortedPrices c l') : l.Perm l' := by
  have hentries : (l.map PlanPriceRow.entry).Perm (l'.map PlanPriceRow.entry) := by
    have hl := List.perm_insertionSort (c.By PriceEntry.sortKey) (l.map PlanPriceRow.entry)
    have hl' := List.perm_insertionSort (c.By PriceEntry.sortKey) (l'.map PlanPriceRow.entry)
    rw [sortedPrices, sortedPrices] at h
    exact hl.symm.trans (h ▸ hl')
  exact (List.map_perm_map_iff PlanPriceRow.entry_injective).mp hentries

section Rows

variable {b b' : PriceBook} {planId : RatePlanId}

theorem rate_mem_planPrices {r : Rate} (hr : r.ratePlanId = planId) :
    r.priceRow ∈ planPrices b planId ↔ r ∈ b.rates := by
  simp only [planPrices, List.mem_append, List.mem_map, Table.mem_select, List.mem_filter,
    decide_eq_true_eq]
  constructor
  · rintro ((⟨s, ⟨hs, hp⟩, hrow⟩ | ⟨s, -, hrow⟩) | ⟨s, -, hrow⟩)
    · have hsr : s = r := by
        cases s
        cases r
        simp_all [Rate.priceRow]
      exact hsr ▸ hs
    · cases hrow
    · cases hrow
  · exact fun h => .inl (.inl ⟨r, ⟨h, hr⟩, rfl⟩)

theorem standard_mem_planPrices {r : StandardRate} (hr : r.ratePlanId = planId) :
    r.priceRow ∈ planPrices b planId ↔ r ∈ b.standardRates := by
  simp only [planPrices, List.mem_append, List.mem_map, Table.mem_select, List.mem_filter,
    decide_eq_true_eq]
  constructor
  · rintro ((⟨s, -, hrow⟩ | ⟨s, -, hrow⟩) | ⟨s, ⟨hs, hp⟩, hrow⟩)
    · cases hrow
    · cases hrow
    · have hsr : s = r := by
        cases s
        cases r
        simp_all [StandardRate.priceRow, occupancyOrNull_injective.eq_iff]
      exact hsr ▸ hs
  · exact fun h => .inr ⟨r, ⟨h, hr⟩, rfl⟩

theorem season_mem_planPrices (row : PlanPriceRow) (hrow : row.kind = .season) :
    row ∈ planPrices b planId ↔ ∃ r ∈ seasonsOf b planId, r.priceRow = row := by
  simp only [planPrices, List.mem_append, List.mem_map, Table.mem_select, seasonsOf]
  constructor
  · rintro ((⟨s, -, rfl⟩ | h) | ⟨s, -, rfl⟩)
    · cases hrow
    · exact h
    · cases hrow
  · exact fun h => .inl (.inr h)

/-- A plan with the same rows, whose seasons are ranked the same, is kept. -/
theorem PlanKept.of_rows (h : ∀ row, row ∈ planPrices b planId ↔ row ∈ planPrices b' planId)
    (hu : Unambiguous (seasonsOf b planId))
    (hranks : SameRanks (seasonsOf b planId) (seasonsOf b' planId)) : PlanKept b b' planId where
  rates r hr := by rw [← rate_mem_planPrices hr, ← rate_mem_planPrices hr, h]
  standards r hr := by rw [← standard_mem_planPrices hr, ← standard_mem_planPrices hr, h]
  seasons :=
    { unambiguous := hu
      ranks := hranks
      there := fun r hr =>
        (season_mem_planPrices _ rfl).mp ((h _).mp ((season_mem_planPrices _ rfl).mpr ⟨r, hr, rfl⟩))
      back := fun r' hr' => by
        obtain ⟨r, hr, hrow⟩ := (season_mem_planPrices r'.priceRow rfl).mp
          ((h _).mpr ((season_mem_planPrices _ rfl).mpr ⟨r', hr', rfl⟩))
        exact ⟨r, hr, hrow.symm⟩ }

end Rows

/-! ## The price of a night -/

section Night

open AvailabilityService

variable {x x' : TenantStore} {roomTypeId : RoomTypeId} {checkIn checkOut day : Day}
  {planId : RatePlanId}

theorem standard_congr (h : PlanKept x.prices x'.prices planId) (occupancy : Option ℕ) :
    (pickByOccupancy ((BaselineResolver.mk x.prices.seasons
        x.prices.standardRates.rows).standardByKey planId roomTypeId) occupancy).map
          StandardRate.price =
      (pickByOccupancy ((BaselineResolver.mk x'.prices.seasons
        x'.prices.standardRates.rows).standardByKey planId roomTypeId) occupancy).map
          StandardRate.price := by
  have hmem : ∀ {y : TenantStore} {r : StandardRate}, r ∈ (BaselineResolver.mk y.prices.seasons
      y.prices.standardRates.rows).standardByKey planId roomTypeId ↔
        r ∈ y.prices.standardRates ∧ r.ratePlanId = planId ∧ r.roomTypeId = roomTypeId := by
    intro y r
    rw [BaselineResolver.standardByKey, List.mem_filter, decide_eq_true_eq]
    exact Iff.rfl
  have hone : ∀ y : TenantStore, OnePriceEach ((BaselineResolver.mk y.prices.seasons
      y.prices.standardRates.rows).standardByKey planId roomTypeId) := by
    intro y r hr s hs hocc
    obtain ⟨hr, hrp, hrr⟩ := hmem.mp hr
    obtain ⟨hs, hsp, hsr⟩ := hmem.mp hs
    have hkey : r.key = s.key := by
      simp only [StandardRate.key, hrp, hsp, hrr, hsr, Prod.mk.injEq, true_and]
      exact hocc
    rw [Table.eq_of_key hr hs hkey]
  refine pickByOccupancy_congr (hone x) (hone x') ?_ ?_ occupancy
  · intro r hr
    obtain ⟨hr, hrp, hrr⟩ := hmem.mp hr
    exact ⟨r, hmem.mpr ⟨(h.standards r hrp).mp hr, hrp, hrr⟩, rfl, rfl⟩
  · intro r hr
    obtain ⟨hr, hrp, hrr⟩ := hmem.mp hr
    exact ⟨r, hmem.mpr ⟨(h.standards r hrp).mpr hr, hrp, hrr⟩, rfl, rfl⟩

theorem dailyFor_congr (h : PlanKept x.prices x'.prices planId) (h₁ : checkIn ≤ day)
    (h₂ : day ≤ checkOut) (guests : Option ℕ) :
    dailyFor x roomTypeId checkIn checkOut guests planId day true =
      dailyFor x' roomTypeId checkIn checkOut guests planId day true := by
  have hfind : ∀ occupancy, x.prices.rates.find (planId, roomTypeId, day, occupancy) =
      x'.prices.rates.find (planId, roomTypeId, day, occupancy) := by
    intro occupancy
    ext r
    rw [Table.find_eq_some, Table.find_eq_some]
    refine and_congr_left fun hkey => h.rates r ?_
    exact congrArg Prod.fst hkey
  have hmem : ∀ {y : TenantStore} {r : Rate}, r ∈ dailyOf y roomTypeId checkIn checkOut planId day ↔
      r ∈ y.prices.rates ∧ r.ratePlanId = planId ∧ r.roomTypeId = roomTypeId ∧ r.date = day := by
    intro y r
    rw [dailyOf_eq planId h₁ h₂, Table.mem_select, decide_eq_true_eq]
  have hlowest : ((dailyOf x roomTypeId checkIn checkOut planId day).map (·.price)).min? =
      ((dailyOf x' roomTypeId checkIn checkOut planId day).map (·.price)).min? := by
    have hprice : ∀ p, p ∈ (dailyOf x roomTypeId checkIn checkOut planId day).map (·.price) ↔
        p ∈ (dailyOf x' roomTypeId checkIn checkOut planId day).map (·.price) := by
      intro p
      rw [List.mem_map, List.mem_map]
      refine exists_congr fun r => and_congr_left fun _ => ?_
      rw [hmem, hmem]
      exact and_congr_left fun hr => h.rates r hr.1
    ext p
    simp only [List.min?_eq_some_iff, hprice]
  unfold dailyFor
  dsimp only
  cases guests with
  | none => exact hlowest
  | some n =>
    cases n with
    | zero => exact hlowest
    | succ n =>
      dsimp only
      rw [find_dailyOf planId _ h₁ h₂, find_dailyOf planId _ h₁ h₂, find_dailyOf planId _ h₁ h₂,
        find_dailyOf planId _ h₁ h₂, hfind, hfind]
      simp

/-- **The price of a night by a partner's plan** depends on the rows of the plan only. -/
theorem nightPrice_congr {plan plan' : RatePlan} (hid : plan'.id = plan.id)
    (hpartner : plan.partnerId.isSome = true) (hpartner' : plan'.partnerId.isSome = true)
    (h : PlanKept x.prices x'.prices plan.id) (h₁ : checkIn ≤ day) (h₂ : day ≤ checkOut)
    (basePrice basePrice' : Option Price) (guests : Option ℕ) :
    nightPrice x' roomTypeId checkIn checkOut basePrice' guests plan' day =
      nightPrice x roomTypeId checkIn checkOut basePrice guests plan day := by
  have hseason := @seasonPrice_congr ⟨x.prices.seasons, x.prices.standardRates.rows⟩
    ⟨x'.prices.seasons, x'.prices.standardRates.rows⟩ plan.id h.seasons roomTypeId day guests
  have hresolve : (BaselineResolver.mk x.prices.seasons x.prices.standardRates.rows).resolve plan.id
        roomTypeId day guests =
      (BaselineResolver.mk x'.prices.seasons x'.prices.standardRates.rows).resolve plan.id
        roomTypeId day guests := by
    rw [BaselineResolver.resolve, BaselineResolver.resolve, hseason, standard_congr h guests]
  unfold nightPrice
  simp only [hid, hpartner, hpartner', if_true, Option.or_none]
  rw [dailyFor_congr h h₁ h₂, resolve_baseline _ _ h₁ h₂, resolve_baseline _ _ h₁ h₂, hresolve]

end Night

end KarsHotel
