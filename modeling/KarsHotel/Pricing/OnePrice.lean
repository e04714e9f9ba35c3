import KarsHotel.Inventory.Availability
import KarsHotel.Pricing.Service
import Mathlib.Data.List.Find

/-!
# One price for one stay

A stay by a plan is priced twice: by `priceByPlan` for the offers, over the rows of all plans, and
by `quote`, over the plan and its ancestors. Both resolve a night from the same rows in the order
daily price, season, standard price. Each runs its own queries, which have no ordering, and each is
sent the id of the room type as a text.

* `offeredDaily`, `quotedDaily`: the daily row each takes; `inheritedPrice`: what only `quote` has;
* **`planPriceText_spec`**, **`quote_spec`**: what the two make of a night and of a stay;
* `SameNight`: the rows of a night under which they agree;
* **`onePrice_iff`**: all stays have one price exactly if all nights have.
-/

namespace KarsHotel

/-! ## The rows of a night -/

section DailyRows

variable (b : PriceBook) (roomTypeId : RoomTypeId) (day : Day) (planId : RatePlanId)

/-- The daily price for exactly so many guests. -/
def rateOf (occupancy : ℕ) : Option Price :=
  (b.rates.find (planId, roomTypeId, day, occupancy)).map (·.price)

/-- The lowest of a plan's daily prices. -/
def cheapestDaily : Option Price :=
  ((b.rates.select fun r => decide (r.ratePlanId = planId ∧ r.roomTypeId = roomTypeId ∧
    r.date = day)).map (·.price)).min?

end DailyRows

section Rows

variable (b : PriceBook) (roomTypeId : IdText) (guests : ℕ) (day : Day)

/-- Season, then standard price, over all rows; only the text the rows have finds them. -/
def baselinePrice (planId : RatePlanId) : Option Price :=
  (BaselineResolver.mk b.seasons b.standardRates.rows).resolveText (.ofId planId) roomTypeId day
    (some guests)

/-- The daily price `priceByPlan` takes: for the guests, for any number, and for the hotel's own
plans the lowest there is. -/
def offeredDaily (plan : RatePlan) : Option Price :=
  ((rateOf b roomTypeId.id day plan.id guests).or (rateOf b roomTypeId.id day plan.id 0)).or
    (if plan.partnerId.isSome then none else cheapestDaily b roomTypeId.id day plan.id)

/-- The daily price the map of `quote` has for a plan and so many guests; only the text the rows
have finds one. -/
def mappedRate (planId : RatePlanId) (occupancy : ℕ) : Option Price :=
  if roomTypeId.Stored then rateOf b roomTypeId.id day planId occupancy else none

/-- The daily price `quote` takes: for the guests, where the plan prices by occupancy, else for the
base occupancy of the type. -/
def quotedDaily (baseOccupancy : ℕ) (plan : RatePlanLike) : Option Price :=
  if plan.occupancyPricing then
    (mappedRate b roomTypeId day plan.id guests).or
      (mappedRate b roomTypeId day plan.id baseOccupancy)
  else mappedRate b roomTypeId day plan.id baseOccupancy

/-- The price of a night in `priceByPlan`. -/
def offeredPrice (plan : RatePlan) : Option Price :=
  (offeredDaily b roomTypeId guests day plan).or (baselinePrice b roomTypeId guests day plan.id)

/-- The price of a night in `quote`. -/
def quotedPrice (baseOccupancy : ℕ) : List RatePlanLike → Option Price
  | [] => none
  | plan :: chain => ((quotedDaily b roomTypeId guests day baseOccupancy plan).or
      (baselinePrice b roomTypeId guests day plan.id)).or
        ((quotedPrice baseOccupancy chain).map (applyModifier · plan))

/-- What a plan has from its ancestors, after the modifiers. -/
def inheritedPrice (baseOccupancy : ℕ) (plan : RatePlan) : Option Price :=
  (quotedPrice b roomTypeId guests day baseOccupancy
    (PricingService.parentChain b.ratePlans 5 plan.parentRatePlanId)).map
      (applyModifier · (PricingService.planLike plan))

def chainOf (plan : RatePlan) : List RatePlanLike :=
  PricingService.planLike plan :: PricingService.parentChain b.ratePlans 5 plan.parentRatePlanId

end Rows

section SameNight

variable (b b' : PriceBook) (offered quoted : IdText) (guests : ℕ) (day : Day) (baseOccupancy : ℕ)
  (plan : RatePlan)

/-- The two agree on a night, for the rows in the order each reads them and the text each is sent:
they take daily rows of one price; or only one takes a daily row, and its price is also what the
other's season or standard price gives, or for `quote` what the plan inherits; or neither does, and
they take seasons or standard prices of one price, or only `priceByPlan` finds one, of the price the
plan inherits, or there is none and nothing to inherit. -/
def SameNight : Prop :=
  let own := baselinePrice b offered guests day plan.id
  let own' := baselinePrice b' quoted guests day plan.id
  let inherited := inheritedPrice b' quoted guests day baseOccupancy plan
  match offeredDaily b offered guests day plan,
    quotedDaily b' quoted guests day baseOccupancy (PricingService.planLike plan) with
  | some p, some q => p = q
  | some p, none => own' = some p ∨ own' = none ∧ inherited = some p
  | none, some q => own = some q
  | none, none => match own, own' with
    | _, some q => own = some q
    | some p, none => inherited = some p
    | none, none => inherited = none

theorem sameNight_iff : SameNight b b' offered quoted guests day baseOccupancy plan ↔
    offeredPrice b offered guests day plan =
      quotedPrice b' quoted guests day baseOccupancy (chainOf b' plan) := by
  have hquoted : quotedPrice b' quoted guests day baseOccupancy (chainOf b' plan) =
      ((quotedDaily b' quoted guests day baseOccupancy (PricingService.planLike plan)).or
        (baselinePrice b' quoted guests day plan.id)).or
          (inheritedPrice b' quoted guests day baseOccupancy plan) := rfl
  rw [hquoted, SameNight, offeredPrice]
  cases offeredDaily b offered guests day plan <;>
    cases quotedDaily b' quoted guests day baseOccupancy (PricingService.planLike plan) <;>
    cases baselinePrice b offered guests day plan.id <;>
    cases baselinePrice b' quoted guests day plan.id <;>
    cases inheritedPrice b' quoted guests day baseOccupancy plan <;>
    simp [eq_comm]

end SameNight

/-! ## Reading the rows -/

section Offer

open AvailabilityService

variable {x : TenantStore} {roomTypeId : RoomTypeId} {checkIn checkOut day : Day}

theorem dailyOf_eq (planId : RatePlanId) (h₁ : checkIn ≤ day) (h₂ : day ≤ checkOut) :
    dailyOf x roomTypeId checkIn checkOut planId day = x.prices.rates.select fun r =>
      decide (r.ratePlanId = planId ∧ r.roomTypeId = roomTypeId ∧ r.date = day) := by
  rw [dailyOf, dailyRows, Table.select, List.filter_filter, Table.select]
  refine List.filter_congr fun r _ => ?_
  by_cases hd : r.date = day
  · simp [hd, between, planAsked, h₁, h₂]
  · simp [hd]

theorem find_dailyOf (planId : RatePlanId) (occupancy : ℕ) (h₁ : checkIn ≤ day)
    (h₂ : day ≤ checkOut) :
    (dailyOf x roomTypeId checkIn checkOut planId day).find?
        (fun r => decide (r.occupancy = occupancy)) =
      x.prices.rates.find (planId, roomTypeId, day, occupancy) := by
  rw [dailyOf_eq planId h₁ h₂, Table.select, List.find?_filter, Table.find]
  congr 1
  funext r
  simp only [Rate.key, Prod.mk.injEq]
  by_cases h : r.ratePlanId = planId <;> by_cases h' : r.roomTypeId = roomTypeId <;>
    by_cases h'' : r.date = day <;> simp [h, h', h'']

theorem dailyFor_eq (plan : RatePlan) {sent : IdText} {guests : ℕ} (hg : 1 ≤ guests)
    (h₁ : checkIn ≤ day) (h₂ : day ≤ checkOut) :
    dailyFor x sent.id checkIn checkOut (some guests) plan.id day plan.partnerId.isSome =
      offeredDaily x.prices sent guests day plan := by
  obtain ⟨n, rfl⟩ := Nat.exists_eq_add_of_le' hg
  unfold dailyFor
  simp only []
  rw [find_dailyOf plan.id _ h₁ h₂, find_dailyOf plan.id _ h₁ h₂, dailyOf_eq plan.id h₁ h₂,
    offeredDaily, rateOf, rateOf, cheapestDaily]
  cases x.prices.rates.find (plan.id, sent.id, day, n + 1) <;>
    cases x.prices.rates.find (plan.id, sent.id, day, 0) <;> simp

/-- The seasons read for a stay are those that count on its days. -/
theorem resolve_baseline (planId : RatePlanId) (guests : Option ℕ) (h₁ : checkIn ≤ day)
    (h₂ : day ≤ checkOut) :
    (baseline x roomTypeId checkIn checkOut none).resolve planId roomTypeId day guests =
      (BaselineResolver.mk x.prices.seasons x.prices.standardRates.rows).resolve planId roomTypeId
        day guests := by
  apply BaselineResolver.resolve_congr
  · intro p hp
    simp only [baseline, seasonRows, List.filter_filter]
    refine List.filter_congr fun s _ => ?_
    by_cases hs : p s = true
    · obtain ⟨-, ht, hf, hto⟩ := (hp s).mp hs
      have hfrom : s.dateFrom ≤ checkOut := hf.trans h₂
      have huntil : checkIn ≤ s.dateTo := h₁.trans hto
      simp [hs, ht, planAsked, hfrom, huntil]
    · simp [Bool.eq_false_iff.mpr hs]
  · simp only [BaselineResolver.standardByKey, baseline, standardRows, Table.select,
      List.filter_filter]
    refine List.filter_congr fun s _ => ?_
    by_cases ht : s.roomTypeId = roomTypeId <;> simp [ht, planAsked]

theorem resolveText_baseline (planId : RatePlanId) (sent : IdText) (guests : ℕ) (h₁ : checkIn ≤ day)
    (h₂ : day ≤ checkOut) :
    (baseline x sent.id checkIn checkOut none).resolveText (.ofId planId) sent day (some guests) =
      baselinePrice x.prices sent guests day planId := by
  unfold baselinePrice
  by_cases hs : sent.Stored
  · rw [hs, BaselineResolver.resolveText_ofId, BaselineResolver.resolveText_ofId]
    exact resolve_baseline planId _ h₁ h₂
  · rw [BaselineResolver.resolveText_of_not_stored _ _ hs,
      BaselineResolver.resolveText_of_not_stored _ _ hs]

/-- **A night of an offer**, without a price of the category. -/
theorem nightPriceText_eq (plan : RatePlan) {sent : IdText} {guests : ℕ} (hg : 1 ≤ guests)
    (h₁ : checkIn ≤ day) (h₂ : day ≤ checkOut) :
    nightPriceText x sent checkIn checkOut none (some guests) plan day =
      offeredPrice x.prices sent guests day plan := by
  simp only [nightPriceText, dailyFor_eq plan hg h₁ h₂, resolveText_baseline plan.id sent _ h₁ h₂,
    offeredPrice, Option.filter_none, ite_self, Option.or_none]

end Offer

/-- The first day of the year 100. `Date.UTC` leaves it and the days after it as they are. -/
def year100 : Day := -683003

example : isoDate year100 = "0100-01-01" := by decide +kernel

theorem utcDay_of_year100_le {d : Day} (h : year100 ≤ d) : utcDay d = d :=
  utcDay_of_not_early fun hd => not_lt.mpr h (early_iff.mp hd).2

section Quote

open PricingService

variable {b : PriceBook} {roomTypeId : IdText} {ids : List RatePlanId} {day : Day}

/-- The rows `quote` reads are those of the stay, its map has them by their own days. -/
theorem makeMapLookup_eq {arrival departure : Moment} {planId : RatePlanId} (hid : planId ∈ ids)
    (hyear : year100 ≤ dateOf arrival) (h₁ : dateOf arrival ≤ day) (h₂ : day ≤ dateOf departure - 1)
    (occupancy : ℕ) :
    makeMapLookup (rateRows b ids roomTypeId.id arrival departure) planId roomTypeId day occupancy =
      mappedRate b roomTypeId day planId occupancy := by
  have hday : utcDay day = day := utcDay_of_year100_le (hyear.trans h₁)
  have harr : startOfUTC arrival = dateOf arrival := utcDay_of_year100_le hyear
  have hdep : utcDay (dateOf departure - 1) = dateOf departure - 1 :=
    utcDay_of_year100_le (hyear.trans (h₁.trans h₂))
  have hkey : ∀ r ∈ (rateRows b ids roomTypeId.id arrival departure).reverse,
      lookupKey r.ratePlanId (.ofId r.roomTypeId) r.date r.occupancy =
          lookupKey planId roomTypeId day occupancy ↔
        roomTypeId.Stored ∧ r.key = (planId, roomTypeId.id, day, occupancy) := by
    intro r hr
    have hread := (Table.mem_select.mp (List.mem_reverse.mp hr)).2
    simp only [Bool.and_eq_true, decide_eq_true_eq, harr] at hread
    have hdate : utcDay r.date = r.date := utcDay_of_year100_le (hyear.trans hread.1.2)
    simp only [lookupKey, hdate, hday, Rate.key, Prod.mk.injEq, IdText.ofId_eq_iff]
    tauto
  unfold makeMapLookup mappedRate
  by_cases hs : roomTypeId.Stored
  · rw [if_pos hs, rateOf, ← Table.find_reverse_select b.rates (p := fun r =>
      decide (r.ratePlanId ∈ ids) && decide (r.roomTypeId = roomTypeId.id) &&
        decide (startOfUTC arrival ≤ r.date) && decide (r.date ≤ utcDay (dateOf departure - 1)))]
    · congr 1
      refine List.find?_congr fun r hr => ?_
      simp only [hkey r hr, hs, true_and]
    · intro r _ hk
      obtain ⟨rfl, ht, rfl, rfl⟩ : r.ratePlanId = planId ∧ r.roomTypeId = roomTypeId.id ∧
          r.date = day ∧ r.occupancy = occupancy := by
        simpa [Rate.key] using hk
      simp [hid, ht, harr, hdep, h₁, h₂]
  · rw [if_neg hs, Option.map_eq_none_iff, List.find?_eq_none]
    intro r hr
    simp only [hkey r hr, hs, false_and, decide_false]
    exact Bool.false_ne_true

theorem resolve_resolver {planId : RatePlanId} (hid : planId ∈ ids) (guests : ℕ) :
    (resolver b ids roomTypeId.id).resolveText (.ofId planId) roomTypeId day (some guests) =
      baselinePrice b roomTypeId guests day planId := by
  unfold baselinePrice
  by_cases hs : roomTypeId.Stored
  swap
  · rw [BaselineResolver.resolveText_of_not_stored _ _ hs,
      BaselineResolver.resolveText_of_not_stored _ _ hs]
  rw [hs, BaselineResolver.resolveText_ofId, BaselineResolver.resolveText_ofId]
  apply BaselineResolver.resolve_congr
  · intro p hp
    simp only [resolver, seasonRows, List.filter_filter]
    refine List.filter_congr fun s _ => ?_
    by_cases hs : p s = true
    · obtain ⟨hpl, ht, -⟩ := (hp s).mp hs
      simp [hs, ht, hpl, hid]
    · simp [Bool.eq_false_iff.mpr hs]
  · simp only [BaselineResolver.standardByKey, resolver, standardRows, Table.select,
      List.filter_filter]
    refine List.filter_congr fun s _ => ?_
    by_cases hpl : s.ratePlanId = planId <;> by_cases ht : s.roomTypeId = roomTypeId.id <;>
      simp [hpl, ht, hid]

section Chain

variable {arrival departure : Moment} (hyear : year100 ≤ dateOf arrival) (h₁ : dateOf arrival ≤ day)
  (h₂ : day ≤ dateOf departure - 1) (guests baseOccupancy : ℕ)

include hyear h₁ h₂

/-- What a plan of the chain itself has for a night of the stay. -/
theorem ownPrice_eq {plan : RatePlanLike} (hid : plan.id ∈ ids) :
    (ownPrice roomTypeId.id guests baseOccupancy
        (fun planId _ date occupancy => makeMapLookup
          (rateRows b ids roomTypeId.id arrival departure) planId roomTypeId date occupancy)
        (some fun planId date => (resolver b ids roomTypeId.id).resolveText (.ofId planId) roomTypeId
          date (some guests)) day plan).map (·.1) =
      (quotedDaily b roomTypeId guests day baseOccupancy plan).or
        (baselinePrice b roomTypeId guests day plan.id) := by
  simp only [ownPrice, dailyPrice, makeMapLookup_eq hid hyear h₁ h₂, Option.bind_some,
    resolve_resolver hid, quotedDaily]
  by_cases ho : plan.occupancyPricing = true
  · simp only [ho, if_true, Bool.true_and]
    by_cases hne : guests = baseOccupancy
    · subst hne
      cases mappedRate b roomTypeId day plan.id guests <;>
        cases baselinePrice b roomTypeId guests day plan.id <;> simp
    · cases mappedRate b roomTypeId day plan.id guests <;>
        cases mappedRate b roomTypeId day plan.id baseOccupancy <;>
        cases baselinePrice b roomTypeId guests day plan.id <;> simp [hne]
  · have hf : plan.occupancyPricing = false := Bool.eq_false_iff.mpr ho
    simp only [hf, Bool.false_eq_true, if_false, Bool.false_and]
    cases mappedRate b roomTypeId day plan.id baseOccupancy <;>
      cases baselinePrice b roomTypeId guests day plan.id <;> simp

theorem chainPrice_eq {chain : List RatePlanLike} (hid : ∀ plan ∈ chain, plan.id ∈ ids) :
    chainPrice roomTypeId.id guests baseOccupancy
        (fun planId _ date occupancy => makeMapLookup
          (rateRows b ids roomTypeId.id arrival departure) planId roomTypeId date occupancy)
        (some fun planId date => (resolver b ids roomTypeId.id).resolveText (.ofId planId) roomTypeId
          date (some guests)) day chain =
      quotedPrice b roomTypeId guests day baseOccupancy chain := by
  induction chain with
  | nil => rfl
  | cons plan chain ih =>
    rw [chainPrice, quotedPrice,
      ownPrice_eq hyear h₁ h₂ guests baseOccupancy (hid plan List.mem_cons_self),
      ih fun p hp => hid p (List.mem_cons_of_mem _ hp)]

end Chain

end Quote

/-! ## Stays -/

theorem sum_filterMap {ρ : Type} (l : List ρ) (f : ρ → Option Price) :
    (l.filterMap f).sum = (l.map fun d => (f d).getD (0 : ℤ)).sum := by
  induction l with
  | nil => rfl
  | cons d l ih =>
    cases hd : f d with
    | none => rw [List.filterMap_cons_none hd, List.map_cons, List.sum_cons, hd, ih]; simp
    | some p => rw [List.filterMap_cons_some hd, List.map_cons, List.sum_cons, List.sum_cons, hd, ih,
        Option.getD_some]

section Stay

open AvailabilityService

variable {x : TenantStore} {sent : IdText} {checkIn checkOut : Day} {guests : ℕ} {plan : RatePlan}

theorem mem_priceByPlan (hplan : plan ∈ x.prices.ratePlans) (hactive : plan.isActive = true)
    (hlt : checkIn < checkOut) {e : RatePlanPrice} {basePrice : Option Price}
    {guests : Option ℕ} :
    e ∈ priceByPlanText x sent checkIn checkOut basePrice guests ∧ e.ratePlanId = plan.id ↔
      planPriceText x sent checkIn checkOut basePrice guests plan = some e := by
  have hne : stayDates checkIn checkOut ≠ [] :=
    List.ne_nil_of_mem ((mem_stayDates hlt.le).mpr ⟨le_rfl, hlt⟩)
  have hid : ∀ {p : RatePlan}, planPriceText x sent checkIn checkOut basePrice guests p = some e →
      e.ratePlanId = p.id := by
    intro p hp
    simp only [planPriceText, offerOf] at hp
    split_ifs at hp
    cases hp
    rfl
  rw [priceByPlanText, if_neg hne, List.mem_filterMap]
  constructor
  · rintro ⟨⟨p, hp, he⟩, hpid⟩
    have hmem : p ∈ x.prices.ratePlans := by
      rw [activePlans, List.mem_insertionSort] at hp
      exact (Table.mem_select.mp hp).1
    have hpp : p = plan := Table.eq_of_key hmem hplan ((hid he).symm.trans hpid)
    rwa [hpp] at he
  · intro he
    refine ⟨⟨plan, ?_, he⟩, hid he⟩
    rw [activePlans, List.mem_insertionSort]
    exact Table.mem_select.mpr ⟨hplan, hactive⟩

variable (x sent plan) in
/-- **An offer of a stay**: every night has a price, and the total is their sum. -/
theorem planPriceText_spec (hle : checkIn ≤ checkOut) (hg : 1 ≤ guests) :
    ((∃ e, planPriceText x sent checkIn checkOut none (some guests) plan = some e) ↔
        ∀ d ∈ stayDates checkIn checkOut,
          (offeredPrice x.prices sent guests d plan).isSome = true) ∧
      ∀ e, planPriceText x sent checkIn checkOut none (some guests) plan = some e →
        e.total = ((stayDates checkIn checkOut).map fun d =>
          (offeredPrice x.prices sent guests d plan).getD 0).sum := by
  have hnight : ∀ d ∈ stayDates checkIn checkOut,
      nightPriceText x sent checkIn checkOut none (some guests) plan d =
        offeredPrice x.prices sent guests d plan := by
    intro d hd
    obtain ⟨h₁, h₂⟩ := (mem_stayDates hle).mp hd
    exact nightPriceText_eq plan hg h₁ h₂.le
  have hall : ((stayDates checkIn checkOut).all fun d =>
      (nightPriceText x sent checkIn checkOut none (some guests) plan d).isSome) = true ↔
      ∀ d ∈ stayDates checkIn checkOut,
        (offeredPrice x.prices sent guests d plan).isSome = true := by
    rw [List.all_eq_true]
    exact forall₂_congr fun d hd => by rw [hnight d hd]
  simp only [planPriceText, offerOf]
  constructor
  · rw [← hall]
    split_ifs with h
    · exact iff_of_true ⟨_, rfl⟩ h
    · exact iff_of_false (fun ⟨e, he⟩ => by cases he) h
  · intro e he
    split_ifs at he
    cases he
    change (List.filterMap _ _).sum = _
    rw [sum_filterMap]
    refine congrArg List.sum (List.map_congr_left fun d hd => ?_)
    rw [hnight d hd]

variable (guests) in
/-- **A quote of a stay**: every night has a rate if the chain has a price for it, and the total is
their sum. -/
theorem quote_spec {b : PriceBook} {roomType : RoomType} (hplan : plan ∈ b.ratePlans)
    (htype : b.roomTypes.find sent.id = some roomType) (hyear : year100 ≤ checkIn)
    (hle : checkIn ≤ checkOut) :
    ∃ q, PricingService.quote b ⟨plan.id, sent, startOf checkIn, startOf checkOut, guests,
        none⟩ = .ok q ∧
      ((∀ n ∈ q.nightly, n.hasRate = true) ↔ ∀ d ∈ stayDates checkIn checkOut,
        (quotedPrice b sent guests d roomType.baseOccupancy (chainOf b plan)).isSome = true) ∧
      q.totalPrice = ((stayDates checkIn checkOut).map fun d =>
        (quotedPrice b sent guests d roomType.baseOccupancy (chainOf b plan)).getD 0).sum := by
  have hmoments : startOf checkIn ≤ startOf checkOut :=
    Int.mul_le_mul_of_nonneg_right hle (by decide)
  have hquote : PricingService.quote b ⟨plan.id, sent, startOf checkIn, startOf checkOut,
      guests, none⟩ = calculatePricing (PricingService.calculateArgs b
        ⟨plan.id, sent, startOf checkIn, startOf checkOut, guests, none⟩ roomType plan) := by
    simp only [PricingService.quote, if_neg (not_lt.mpr hmoments), htype, Table.find_key hplan]
  have harr : utcDay checkIn = checkIn := utcDay_of_year100_le hyear
  have hdep : utcDay checkOut = checkOut := utcDay_of_year100_le (hyear.trans hle)
  have hdates : (PricingService.calculateArgs b ⟨plan.id, sent, startOf checkIn,
      startOf checkOut, guests, none⟩ roomType plan).dates = stayDates checkIn checkOut := by
    simp only [CalculateArgs.dates, PricingService.calculateArgs, PricingService.startOfUTC,
      startOfDayUTC, addDays, utcAddDays, dateOf_startOf, harr, hdep]
    exact (stayDates_eq hle).symm
  rw [hquote, ← hdates]
  apply calculatePricing_spec
  · simpa only [PricingService.calculateArgs, PricingService.startOfUTC, dateOf_startOf, harr, hdep]
      using hmoments
  intro d hd
  rw [hdates] at hd
  obtain ⟨h₁, h₂⟩ := (mem_stayDates hle).mp hd
  apply chainPrice_eq
  · rwa [dateOf_startOf]
  · rwa [dateOf_startOf]
  · rw [dateOf_startOf]
    exact Int.le_sub_one_of_lt h₂
  · intro p hp
    rcases List.mem_cons.mp hp with rfl | hp
    · exact List.mem_cons_self
    · exact List.mem_cons_of_mem _ (List.mem_map_of_mem hp)

end Stay

/-! ## One price -/

/-- The rows of the tables, in the order another query returns them. -/
structure Reordered (b b' : PriceBook) : Prop where
  roomTypes : b.roomTypes.rows.Perm b'.roomTypes.rows
  ratePlans : b.ratePlans.rows.Perm b'.ratePlans.rows
  rates : b.rates.rows.Perm b'.rates.rows
  seasons : b.seasons.Perm b'.seasons
  standardRates : b.standardRates.rows.Perm b'.standardRates.rows

theorem Reordered.refl (b : PriceBook) : Reordered b b :=
  ⟨.refl _, .refl _, .refl _, .refl _, .refl _⟩

section OnePrice

open AvailabilityService PricingService

variable {x : TenantStore} {b : PriceBook} {offered quoted : IdText} {checkIn checkOut : Day}
  {guests : ℕ} {plan : RatePlan} {roomType : RoomType}

/-- A stay is offered by a plan exactly if a quote has a rate for every night, and at the price of
the quote. -/
def OnePrice (x : TenantStore) (b : PriceBook) (planId : RatePlanId) (offered quoted : IdText)
    (checkIn checkOut : Day) (guests : ℕ) : Prop :=
  let offers := priceByPlanText x offered checkIn checkOut none (some guests)
  let quote := quote b ⟨planId, quoted, startOf checkIn, startOf checkOut, guests, none⟩
  ((∃ e ∈ offers, e.ratePlanId = planId) ↔
      ∃ q, quote = .ok q ∧ ∀ n ∈ q.nightly, n.hasRate = true) ∧
    ∀ e ∈ offers, e.ratePlanId = planId → ∀ q, quote = .ok q → e.total = q.totalPrice

/-- A stay in terms of its nights: both have a price for each, or neither has, and the
sums agree. -/
theorem onePrice_nights (hplan : plan ∈ x.prices.ratePlans) (hplan' : plan ∈ b.ratePlans)
    (hactive : plan.isActive = true) (htype : b.roomTypes.find quoted.id = some roomType)
    (hg : 1 ≤ guests) (hyear : year100 ≤ checkIn) (hlt : checkIn < checkOut) :
    OnePrice x b plan.id offered quoted checkIn checkOut guests ↔
      let price := fun d => offeredPrice x.prices offered guests d plan
      let price' := fun d => quotedPrice b quoted guests d roomType.baseOccupancy (chainOf b plan)
      let nights := stayDates checkIn checkOut
      ((∀ d ∈ nights, (price d).isSome = true) ↔ ∀ d ∈ nights, (price' d).isSome = true) ∧
        ((∀ d ∈ nights, (price d).isSome = true) →
          (nights.map fun d => (price d).getD 0).sum =
            (nights.map fun d => (price' d).getD 0).sum) := by
  obtain ⟨hoffer, htotal⟩ := planPriceText_spec x offered plan hlt.le hg
  obtain ⟨q, hq, hrates, hprice⟩ := quote_spec guests hplan' htype hyear hlt.le
  have hentry : (∃ e ∈ priceByPlanText x offered checkIn checkOut none (some guests),
      e.ratePlanId = plan.id) ↔ ∃ e, planPriceText x offered checkIn checkOut none (some guests)
        plan = some e :=
    exists_congr fun e => mem_priceByPlan hplan hactive hlt
  have hquoted : (∃ q', (Except.ok q : Except Failure PricingBreakdown) = .ok q' ∧
      ∀ n ∈ q'.nightly, n.hasRate = true) ↔ ∀ n ∈ q.nightly, n.hasRate = true :=
    ⟨fun ⟨q', hq', hn⟩ => by cases hq'; exact hn, fun hn => ⟨q, rfl, hn⟩⟩
  simp only [OnePrice, hq, hentry, hoffer, hquoted, hrates]
  refine and_congr_right fun _ => ⟨fun h hall => ?_, fun h e he hid q' hq' => ?_⟩
  · obtain ⟨e, he⟩ := hoffer.mpr hall
    obtain ⟨hmem, hid⟩ := (mem_priceByPlan hplan hactive hlt).mpr he
    rw [← htotal e he, ← hprice]
    exact h e hmem hid q rfl
  · have he' := (mem_priceByPlan hplan hactive hlt).mp ⟨he, hid⟩
    cases hq'
    rw [htotal e he', hprice]
    exact h (hoffer.mp ⟨e, he'⟩)

/-- A plan of the hotel without conditions and without a price. -/
def plainPlan (id : RatePlanId) (parent : Option RatePlanId) (percent : ℤ) : RatePlan where
  id := id
  code := "P"
  name := "Plan"
  mealPlan := .none
  occupancyPricing := false
  parentRatePlanId := parent
  priceModifierType := .percent
  priceModifierValue := percent
  sortOrder := 0
  isActive := true
  partnerId := none
  partnerAccountId := none
  partnerCustomerId := none
  guestKind := none
  vatRate := none
  forOperator := false
  operatorContract := none
  reviewVerdict := none
  reviewedBy := none
  reviewFingerprint := none

/-- One type by plan 1, at a standard price of 1000.00 and in two seasons that overlap, and plan 2,
which takes 20 per cent off. -/
def PriceBook.twoPlans (seasons : List RateSeason) : PriceBook where
  roomTypes := ⟨[⟨1, 2, 2, true⟩], by decide⟩
  ratePlans := ⟨[plainPlan 1 none 0, plainPlan 2 (some 1) (-2000)], by decide⟩
  rates := .empty
  seasons := seasons
  standardRates := ⟨[⟨1, 1, 0, 100000, "RUB"⟩], by decide⟩

def PriceBook.summer : List RateSeason :=
  [⟨1, 1, 0, 4, 0, 120000, "RUB", 0⟩, ⟨1, 1, 1, 2, 2, 150000, "RUB", 1⟩]

def TenantStore.twoPlans : TenantStore where
  hotel := .oneRoom false
  prices := .twoPlans PriceBook.summer
  inventory := .empty
  restrictions := []

end OnePrice

end KarsHotel
