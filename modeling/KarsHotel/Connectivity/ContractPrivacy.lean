import KarsHotel.Connectivity.AvailabilityFor

/-!
# Prices of other partners in an answer

Two states of a hotel that differ only in the prices of other partners' plans, and what a partner is
answered in each.

* `OthersPrices`: the two states;
* `OwnRows`: of a plan that is not another partner's, both have the same rows;
* `offer_eq`: when a category is offered, and how;
* `shownPlans_others`, `check_withPrices`: what the prices of others do not change;
* **`availabilityFor_private_iff`**: the answers are the same for all such pairs, if and only if no
  plan is another partner's or every category offered shows a plan.
-/

namespace KarsHotel

open AvailabilityService

/-! ## Rows of a plan -/

/-- The two books have the same price rows of a plan. -/
structure OwnRows (b b' : PriceBook) (planId : RatePlanId) : Prop where
  rates : b'.rates.select (fun r => decide (r.ratePlanId = planId)) =
    b.rates.select fun r => decide (r.ratePlanId = planId)
  seasons : (b'.seasons.filter fun s => decide (s.ratePlanId = planId)) =
    b.seasons.filter fun s => decide (s.ratePlanId = planId)
  standards : b'.standardRates.select (fun r => decide (r.ratePlanId = planId)) =
    b.standardRates.select fun r => decide (r.ratePlanId = planId)

theorem filter_eq_filter_filter {α : Type} {p q : α → Bool} (l : List α)
    (h : ∀ a, p a = true → q a = true) : l.filter p = (l.filter q).filter p := by
  rw [List.filter_filter]
  refine List.filter_congr fun a _ => ?_
  cases hp : p a with
  | false => rfl
  | true => rw [h a hp, Bool.true_and]

theorem filter_congr_part {α : Type} {p q : α → Bool} {l l' : List α}
    (hl : l'.filter q = l.filter q) (h : ∀ a, p a = true → q a = true) :
    l'.filter p = l.filter p := by
  rw [filter_eq_filter_filter l' h, hl, ← filter_eq_filter_filter l h]

section OwnRows

variable {b b' : PriceBook} {planId : RatePlanId} {x y : TenantStore}

theorem OwnRows.planPrices (h : OwnRows b b' planId) : planPrices b' planId = planPrices b planId := by
  unfold KarsHotel.planPrices
  rw [h.rates, h.seasons, h.standards]

theorem OwnRows.nightPrice {plan : RatePlan} (h : OwnRows x.prices y.prices plan.id)
    (roomTypeId : RoomTypeId) (checkIn checkOut : Day) (basePrice : Option Price)
    (guests : Option ℕ) (day : Day) :
    nightPrice y roomTypeId checkIn checkOut basePrice guests plan day =
      nightPrice x roomTypeId checkIn checkOut basePrice guests plan day := by
  have hdaily : dailyOf y roomTypeId checkIn checkOut plan.id day =
      dailyOf x roomTypeId checkIn checkOut plan.id day := by
    unfold dailyOf dailyRows Table.select
    rw [List.filter_filter, List.filter_filter]
    refine filter_congr_part h.rates fun r hr => ?_
    simp only [Bool.and_eq_true, decide_eq_true_eq] at hr ⊢
    exact hr.1.1
  have hbase : (baseline y roomTypeId checkIn checkOut none).resolve plan.id roomTypeId day guests =
      (baseline x roomTypeId checkIn checkOut none).resolve plan.id roomTypeId day guests := by
    refine BaselineResolver.resolve_congr guests (fun p hp => ?_) ?_
    · unfold baseline AvailabilityService.seasonRows
      dsimp only
      rw [List.filter_filter, List.filter_filter]
      refine filter_congr_part h.seasons fun r hr => ?_
      rw [Bool.and_eq_true, hp] at hr
      exact decide_eq_true hr.1.1
    · unfold BaselineResolver.standardByKey baseline standardRows Table.select
      dsimp only
      rw [List.filter_filter, List.filter_filter]
      refine filter_congr_part h.standards fun r hr => ?_
      simp only [Bool.and_eq_true, decide_eq_true_eq] at hr ⊢
      exact hr.1.1
  unfold AvailabilityService.nightPrice dailyFor
  rw [hdaily, hbase]

theorem OwnRows.planPrice {plan : RatePlan} (h : OwnRows x.prices y.prices plan.id)
    (roomTypeId : RoomTypeId) (checkIn checkOut : Day) (basePrice : Option Price)
    (guests : Option ℕ) :
    planPrice y roomTypeId checkIn checkOut basePrice guests plan =
      planPrice x roomTypeId checkIn checkOut basePrice guests plan := by
  have hnight := funext (h.nightPrice roomTypeId checkIn checkOut basePrice guests)
  unfold AvailabilityService.planPrice
  rw [hnight]

end OwnRows

/-! ## When a category is offered -/

section Offered

/-- A stay that can be booked has a night, and a room on each. -/
theorem check_of_bookable {x : TenantStore} {roomTypeId : RoomTypeId} {checkIn checkOut : Day}
    {ratePlanId : Option RatePlanId}
    (h : (check x roomTypeId checkIn checkOut ratePlanId).bookable = true) :
    (check x roomTypeId checkIn checkOut ratePlanId).days ≠ [] ∧
      ∀ d ∈ (check x roomTypeId checkIn checkOut ratePlanId).days, 1 ≤ d.available := by
  constructor
  · intro hdays
    rw [check_days, List.map_eq_nil_iff] at hdays
    unfold check at h
    rw [hdays] at h
    cases h
  · intro d hd
    by_contra ha
    rw [check_bookable x roomTypeId checkIn checkOut ratePlanId hd (by omega)] at h
    cases h

variable (hash : String → String) (c : Collation) (s : ChannelStore) (partnerId : PartnerId)
  (dto : ConnectAvailabilityDto)

/-- The category takes the party and its sale is open. -/
def isOffered (rt : RoomType) : Bool :=
  takesParty dto rt && (checkDates s.store rt.id dto.checkIn dto.checkOut).bookable

/-- The lowest price of the first night over all plans. -/
def firstMinPrice (roomTypeId : RoomTypeId) : Option Price :=
  (checkDates s.store roomTypeId dto.checkIn dto.checkOut).days.head?.bind (·.minPrice)

/-- The rooms left of a category on the night with the fewest. -/
def roomsLeft (roomTypeId : RoomTypeId) : ℕ :=
  (((checkDates s.store roomTypeId dto.checkIn dto.checkOut).days.map (·.available)).min?).getD 0

variable {s dto} in
theorem one_le_roomsLeft {roomTypeId : RoomTypeId}
    (h : (checkDates s.store roomTypeId dto.checkIn dto.checkOut).bookable = true) :
    1 ≤ roomsLeft s dto roomTypeId := by
  obtain ⟨hne, hrooms⟩ := check_of_bookable h
  unfold roomsLeft
  cases hmin : ((checkDates s.store roomTypeId dto.checkIn dto.checkOut).days.map
      (·.available)).min? with
  | none =>
    rw [List.min?_eq_none_iff, List.map_eq_nil_iff] at hmin
    exact absurd hmin hne
  | some n =>
    obtain ⟨d, hd, rfl⟩ := List.mem_map.mp (List.min?_mem hmin)
    exact hrooms d hd

def offered (rt : RoomType) : CategoryOffer where
  categoryId := rt.id
  categoryName := (s.category rt.id).name
  capacity := rt.maxOccupancy
  roomsAvailable := roomsLeft s dto rt.id
  nightlyRate := nightlyRate (shownPlans hash c s partnerId dto rt.id) (firstMinPrice s dto rt.id)
    (s.category rt.id).basePrice (!(applyingPlans hash c s partnerId dto).isEmpty)
  currency := s.currency
  ratePlans := shownPlans hash c s partnerId dto rt.id
  rooms := listRoomsForCategory s dto rt.id

/-- **When a category is offered, and how.** -/
theorem offer_eq (rt : RoomType) : offer hash c s partnerId dto rt =
    if isOffered s dto rt then some (offered hash c s partnerId dto rt) else none := by
  unfold offer isOffered
  by_cases hparty : takesParty dto rt = true
  swap
  · rw [if_neg hparty, if_neg (by simp [hparty])]
  rw [if_pos hparty, hparty, Bool.true_and]
  dsimp only
  by_cases hbook : (checkDates s.store rt.id dto.checkIn dto.checkOut).bookable = true
  · have hne := (check_of_bookable hbook).1
    rw [if_pos hbook]
    unfold offered firstMinPrice roomsLeft
    cases hdays : (checkDates s.store rt.id dto.checkIn dto.checkOut).days with
    | nil => exact absurd hdays hne
    | cons firstNight rest =>
      have hleft := one_le_roomsLeft hbook
      unfold roomsLeft at hleft
      rw [hdays] at hleft
      dsimp only
      rw [if_neg fun h => ?_]
      · rfl
      · rw [Bool.or_eq_true, decide_eq_true_iff, hbook] at h
        rcases h with h | h
        · exact absurd hleft (not_le.mpr h)
        · cases h
  · rw [if_neg hbook]
    split
    · rfl
    · rw [if_pos (by simp [hbook])]

end Offered

/-! ## Two states -/

/-- The plan is of a partner other than this one. -/
def PriceBook.others (b : PriceBook) (partnerId : PartnerId) (planId : RatePlanId) : Bool :=
  ((b.ratePlans.find planId).bind (·.partnerId)).any fun owner => decide (owner ≠ partnerId)

/-- The books differ only in the prices of plans of other partners. -/
structure OthersPrices (partnerId : PartnerId) (b b' : PriceBook) : Prop where
  roomTypes : b'.roomTypes = b.roomTypes
  ratePlans : b'.ratePlans = b.ratePlans
  rates : b'.rates.select (fun r => !b.others partnerId r.ratePlanId) =
    b.rates.select fun r => !b.others partnerId r.ratePlanId
  seasons : (b'.seasons.filter fun s => !b.others partnerId s.ratePlanId) =
    b.seasons.filter fun s => !b.others partnerId s.ratePlanId
  standards : b'.standardRates.select (fun r => !b.others partnerId r.ratePlanId) =
    b.standardRates.select fun r => !b.others partnerId r.ratePlanId

def ChannelStore.withPrices (s : ChannelStore) (b : PriceBook) : ChannelStore :=
  { s with tariffs := { s.tariffs with store := { s.store with prices := b } } }

theorem others_eq_false {b : PriceBook} {partnerId : PartnerId} {plan : RatePlan}
    (hp : plan ∈ b.ratePlans) :
    b.others partnerId plan.id = false ↔ plan.partnerId = none ∨ plan.partnerId = some partnerId := by
  rw [PriceBook.others, Table.find_key hp, Option.bind_some]
  cases plan.partnerId with
  | none => simp
  | some owner => simp

section Others

variable {hash : String → String} {c : Collation} {s : ChannelStore} {partnerId : PartnerId}
  {dto : ConnectAvailabilityDto} {b' : PriceBook}

theorem OthersPrices.ownRows {b : PriceBook} (h : OthersPrices partnerId b b') {planId : RatePlanId}
    (hown : b.others partnerId planId = false) : OwnRows b b' planId := by
  have hpart : ∀ id : RatePlanId, decide (id = planId) = true → (!b.others partnerId id) = true := by
    intro id hid
    rw [of_decide_eq_true hid, hown]
    rfl
  exact ⟨filter_congr_part h.rates fun r => hpart r.ratePlanId,
    filter_congr_part h.seasons fun r => hpart r.ratePlanId,
    filter_congr_part h.standards fun r => hpart r.ratePlanId⟩

variable (h : OthersPrices partnerId s.store.prices b')
include h

theorem partnerPlans_others :
    (s.withPrices b').partnerPlans hash c partnerId = s.partnerPlans hash c partnerId := by
  have hplans : (s.withPrices b').tariffs.plans = s.tariffs.plans := h.ratePlans
  unfold ChannelStore.partnerPlans
  rw [hplans]
  dsimp only
  split_ifs
  · refine List.map_congr_left fun p hp => ?_
    obtain ⟨hp, hmine, -⟩ := mem_plansOfPartner.mp hp
    have hrows := (h.ownRows ((others_eq_false hp).mpr (.inr hmine))).planPrices
    have hdocs : (s.withPrices b').tariffs.docs = s.tariffs.docs := rfl
    have hprices : (s.withPrices b').store.prices = b' := rfl
    unfold statusPlan
    rw [hdocs, hprices, hrows]
    rfl
  · rfl

theorem chosenPlans_others :
    chosenPlans hash c (s.withPrices b') partnerId dto = chosenPlans hash c s partnerId dto := by
  unfold chosenPlans
  rw [partnerPlans_others h]
  rfl

theorem applyingPlans_others :
    applyingPlans hash c (s.withPrices b') partnerId dto = applyingPlans hash c s partnerId dto := by
  unfold applyingPlans
  rw [chosenPlans_others h]

theorem corporateTariff_others :
    corporateTariff hash c (s.withPrices b') partnerId dto =
      corporateTariff hash c s partnerId dto := by
  unfold corporateTariff
  rw [chosenPlans_others h, applyingPlans_others h]

omit h in
/-- Only plans of the partner apply. -/
theorem mem_applyingPlans {planId : RatePlanId}
    (hmem : planId ∈ applyingPlans hash c s partnerId dto) :
    ∃ p ∈ s.tariffs.plans, p.id = planId ∧ p.partnerId = some partnerId := by
  obtain ⟨q, hq, rfl⟩ := List.mem_map.mp hmem
  have hq := ((mem_pickPartnerPlans _).mp (List.mem_filter.mp hq).1).1
  obtain ⟨hp, hmine, -⟩ := mem_plansOfPartner.mp (plan_of_mem_partnerPlans hq)
  exact ⟨q.plan, hp, rfl, hmine⟩

omit h in
theorem filter_planPrice_others {x : TenantStore} {roomTypeId : RoomTypeId} {checkIn checkOut : Day}
    {basePrice : Option Price} {guests : Option ℕ} {p : RatePlan} (hp : p ∈ s.tariffs.plans)
    (hothers : ¬s.store.prices.others partnerId p.id = false) :
    (planPrice x roomTypeId checkIn checkOut basePrice guests p).filter
      (isShown hash c s partnerId dto) = none := by
  rw [others_eq_false hp, not_or] at hothers
  unfold AvailabilityService.planPrice offerOf
  dsimp only
  split_ifs
  swap
  · rfl
  rw [Option.filter_some, if_neg]
  intro hshown
  rcases (Bool.or_eq_true _ _).mp hshown with hnone | happlies
  · exact hothers.1 (Option.isNone_iff_eq_none.mp hnone)
  · obtain ⟨q, hq, hid, hmine⟩ := mem_applyingPlans (of_decide_eq_true happlies)
    rw [Table.eq_of_key hq hp hid] at hmine
    exact hothers.2 hmine

/-- **Plans of other partners are not shown, and their prices change nothing of those that are.** -/
theorem shownPlans_others (roomTypeId : RoomTypeId) :
    shownPlans hash c (s.withPrices b') partnerId dto roomTypeId =
      shownPlans hash c s partnerId dto roomTypeId := by
  have hshown : isShown hash c (s.withPrices b') partnerId dto = isShown hash c s partnerId dto := by
    funext p
    unfold isShown
    rw [applyingPlans_others h]
  have hactive : activePlans (s.withPrices b').store = activePlans s.store := by
    unfold activePlans
    rw [show (s.withPrices b').store.prices.ratePlans = s.store.prices.ratePlans from h.ratePlans]
  unfold shownPlans
  rw [hshown, applyingPlans_others h]
  congr 1
  unfold planPricesFor priceByPlan
  split_ifs
  · rfl
  rw [hactive, List.filter_filterMap, List.filter_filterMap]
  refine List.filterMap_congr fun p hp => ?_
  have hp : p ∈ s.store.prices.ratePlans := by
    unfold activePlans at hp
    rw [List.mem_insertionSort, Table.mem_select] at hp
    exact hp.1
  by_cases hown : s.store.prices.others partnerId p.id = false
  · have hrows : OwnRows s.store.prices (s.withPrices b').store.prices p.id := h.ownRows hown
    rw [hrows.planPrice]
    rfl
  · rw [filter_planPrice_others hp hown, filter_planPrice_others hp hown]

end Others

section Prices

variable (x : TenantStore) (b' : PriceBook) (roomTypeId : RoomTypeId)

/-- The nights of an answer with other lowest prices. -/
def withMinPrices (minPrice : Day → Option Price) (r : AvailabilityResult) : AvailabilityResult :=
  { r with days := r.days.map fun d => { d with minPrice := minPrice d.date } }

/-- **Of an availability, prices decide the lowest prices alone.** -/
theorem check_withPrices (checkIn checkOut : Day) (ratePlanId : Option RatePlanId) :
    check { x with prices := b' } roomTypeId checkIn checkOut ratePlanId =
      withMinPrices (minPrice { x with prices := b' } roomTypeId checkIn checkOut ratePlanId)
        (check x roomTypeId checkIn checkOut ratePlanId) := by
  unfold check withMinPrices
  split
  · rfl
  · next dates hdates =>
    dsimp only
    rw [List.map_map]
    congr 1
    rw [List.all_map, List.all_map]
    rfl

variable (s : ChannelStore) (dto : ConnectAvailabilityDto)

theorem checkDates_withPrices (checkIn checkOut : DateText) :
    checkDates (s.withPrices b').store roomTypeId checkIn checkOut =
      withMinPrices (minPrice { s.store with prices := b' } roomTypeId checkIn.night checkOut.night none)
        (checkDates s.store roomTypeId checkIn checkOut) := by
  unfold checkDates
  dsimp only
  split_ifs
  · exact check_withPrices s.store b' roomTypeId _ _ none
  · exact check_withPrices s.store.withoutArrivalRules b' roomTypeId _ _ none

theorem isOffered_withPrices (rt : RoomType) :
    isOffered (s.withPrices b') dto rt = isOffered s dto rt := by
  unfold isOffered
  rw [checkDates_withPrices]
  rfl

theorem roomsLeft_withPrices : roomsLeft (s.withPrices b') dto roomTypeId = roomsLeft s dto roomTypeId := by
  unfold roomsLeft
  rw [checkDates_withPrices, withMinPrices, List.map_map]
  rfl

end Prices

/-! ## The answer -/

section Answer

variable {hash : String → String} {c : Collation} {s : ChannelStore} {partnerId : PartnerId}
  {dto : ConnectAvailabilityDto} {b' : PriceBook}

theorem nightlyFrom_of_mem {roomTypeId : RoomTypeId} {p : OfferRatePlan}
    (hp : p ∈ shownPlans hash c s partnerId dto roomTypeId) : p.nightlyFrom.isSome = true := by
  obtain ⟨q, hq, rfl⟩ := List.mem_map.mp hp
  have hq := (List.mem_filter.mp hq).1
  unfold planPricesFor priceByPlan at hq
  split_ifs at hq with hdates
  · cases hq
  obtain ⟨plan, -, hplan⟩ := List.mem_filterMap.mp hq
  unfold planPrice offerOf at hplan
  dsimp only at hplan
  split_ifs at hplan with hall
  obtain rfl := Option.some.inj hplan
  show (List.min? _).isSome = true
  obtain ⟨d, hd⟩ := List.exists_mem_of_ne_nil _ hdates
  obtain ⟨price, hprice⟩ := Option.isSome_iff_exists.mp (List.all_eq_true.mp hall d hd)
  exact List.isSome_min?_of_mem (List.mem_filterMap.mpr ⟨d, hd, hprice⟩)

/-- Where a plan is shown, the price of a night is that of a plan shown. -/
theorem nightlyRate_of_shown {roomTypeId : RoomTypeId}
    (hne : shownPlans hash c s partnerId dto roomTypeId ≠ []) (m m' : Option Price)
    (basePrice : Price) (corporateApplies : Bool) :
    nightlyRate (shownPlans hash c s partnerId dto roomTypeId) m basePrice corporateApplies =
      nightlyRate (shownPlans hash c s partnerId dto roomTypeId) m' basePrice corporateApplies := by
  obtain ⟨p, hp⟩ := List.exists_mem_of_ne_nil _ hne
  obtain ⟨price, hprice⟩ := Option.isSome_iff_exists.mp (nightlyFrom_of_mem hp)
  have hcheapest : (((shownPlans hash c s partnerId dto roomTypeId).filterMap
      (·.nightlyFrom)).min?).isSome = true :=
    List.isSome_min?_of_mem (List.mem_filterMap.mpr ⟨p, hp, hprice⟩)
  obtain ⟨cheapest, hcheapest⟩ := Option.isSome_iff_exists.mp hcheapest
  unfold nightlyRate
  dsimp only
  rw [hcheapest]
  generalize (if corporateApplies = true then _ else none : Option Price) = corporate
  cases corporate <;> rfl

/-- No plan is another partner's: there are no such prices. -/
theorem eq_of_no_others {b : PriceBook} (h : OthersPrices partnerId b b')
    (hown : ∀ p ∈ b.ratePlans, p.partnerId = none ∨ p.partnerId = some partnerId) : b' = b := by
  have hothers : b.others partnerId = fun _ => false := by
    funext planId
    cases hp : b.ratePlans.find planId with
    | none => rw [PriceBook.others, hp]; rfl
    | some p =>
      obtain ⟨hmem, rfl⟩ := Table.find_eq_some.mp hp
      exact (others_eq_false hmem).mpr (hown p hmem)
  obtain ⟨hroomTypes, hratePlans, hrates, hseasons, hstandards⟩ := h
  rw [hothers] at hrates hseasons hstandards
  have hall : ∀ {α : Type} (l : List α), (l.filter fun _ => !false) = l := fun l =>
    List.filter_eq_self.mpr fun _ _ => rfl
  unfold Table.select at hrates hstandards
  rw [hall, hall] at hrates hseasons hstandards
  obtain ⟨roomTypes, ratePlans, rates, seasons, standardRates⟩ := b'
  obtain rfl : roomTypes = b.roomTypes := hroomTypes
  obtain rfl : ratePlans = b.ratePlans := hratePlans
  obtain rfl : rates = b.rates := Table.ext hrates
  obtain rfl : seasons = b.seasons := hseasons
  obtain rfl : standardRates = b.standardRates := Table.ext hstandards
  rfl

theorem targets_others (h : OthersPrices partnerId s.store.prices b') :
    targets (s.withPrices b') dto = targets s dto := by
  unfold targets
  rw [show (s.withPrices b').store.prices.roomTypes = s.store.prices.roomTypes from h.roomTypes]
  rfl

theorem offer_others (h : OthersPrices partnerId s.store.prices b') {rt : RoomType}
    (hshown : isOffered s dto rt = true → shownPlans hash c s partnerId dto rt.id ≠ []) :
    offer hash c (s.withPrices b') partnerId dto rt = offer hash c s partnerId dto rt := by
  rw [offer_eq, offer_eq, isOffered_withPrices]
  split_ifs with hoffered
  swap
  · rfl
  have hrate := nightlyRate_of_shown (hshown hoffered) (firstMinPrice (s.withPrices b') dto rt.id)
    (firstMinPrice s dto rt.id)
  unfold offered
  rw [shownPlans_others h, applyingPlans_others h, roomsLeft_withPrices, hrate]
  rfl

end Answer

/-! ## Another partner undercuts -/

section Undercut

/-- The only price of a plan is a standard one. -/
def PriceBook.undercut (b : PriceBook) (planId : RatePlanId) (roomTypeId : RoomTypeId)
    (price : Price) : PriceBook :=
  { b with
    rates := b.rates.remove fun r => decide (r.ratePlanId = planId)
    seasons := b.seasons.filter fun s => !decide (s.ratePlanId = planId)
    standardRates := (b.standardRates.remove fun r => decide (r.ratePlanId = planId)).insert
      ⟨planId, roomTypeId, 0, price, "RUB"⟩ }

variable (b : PriceBook) (planId : RatePlanId) (roomTypeId : RoomTypeId) (price : Price)

theorem find_undercut :
    (b.standardRates.remove fun r => decide (r.ratePlanId = planId)).find
      (StandardRate.key ⟨planId, roomTypeId, 0, price, "RUB"⟩) = none := by
  refine Table.find_eq_none.mpr fun r hr hkey => ?_
  have hne := of_decide_eq_false (Table.mem_remove.mp hr).2
  exact hne (congrArg Prod.fst hkey)

theorem undercut_others {partnerId : PartnerId} (h : b.others partnerId planId = true) :
    OthersPrices partnerId b (b.undercut planId roomTypeId price) where
  roomTypes := rfl
  ratePlans := rfl
  rates := by
    show (b.rates.remove _).select _ = _
    rw [Table.select_remove]
    refine List.filter_congr fun r _ => ?_
    by_cases hr : r.ratePlanId = planId
    · rw [hr, h]
      rfl
    · simp [hr]
  seasons := by
    show (List.filter _ (List.filter _ _)) = _
    rw [List.filter_filter]
    refine List.filter_congr fun r _ => ?_
    by_cases hr : r.ratePlanId = planId
    · rw [hr, h]
      rfl
    · simp [hr]
  standards := by
    show ((b.standardRates.remove _).insert _).select _ = _
    rw [Table.select_insert (find_undercut b planId roomTypeId price), Table.select_remove]
    simp only [List.filter_cons, h, Bool.not_true, Bool.false_eq_true, if_false, List.filter_nil,
      List.append_nil]
    refine List.filter_congr fun r _ => ?_
    by_cases hr : r.ratePlanId = planId
    · rw [hr, h]
      rfl
    · simp [hr]

variable (x : TenantStore) (checkIn checkOut day : Day)

theorem lowestDaily_undercut :
    lowestDaily { x with prices := b.undercut planId roomTypeId price } roomTypeId checkIn checkOut
      none planId day = none := by
  have hnone : ((dailyRows { x with prices := b.undercut planId roomTypeId price } roomTypeId checkIn
      checkOut none).filter fun r => decide (r.ratePlanId = planId ∧ r.date = day)) = [] := by
    refine List.filter_eq_nil_iff.mpr fun r hr hplan => ?_
    have hr : r ∈ b.rates.remove fun r => decide (r.ratePlanId = planId) := (Table.mem_select.mp hr).1
    exact of_decide_eq_false (Table.mem_remove.mp hr).2 (of_decide_eq_true hplan).1
  unfold lowestDaily
  rw [hnone]
  rfl

theorem resolve_undercut :
    (baseline { x with prices := b.undercut planId roomTypeId price } roomTypeId checkIn checkOut
      none).resolve planId roomTypeId day none = some price := by
  have hseasons : (baseline { x with prices := b.undercut planId roomTypeId price } roomTypeId checkIn
      checkOut none).seasonsByKey planId roomTypeId = [] := by
    have hnone : ((baseline { x with prices := b.undercut planId roomTypeId price } roomTypeId checkIn
        checkOut none).seasons.filter fun s =>
          decide (s.ratePlanId = planId ∧ s.roomTypeId = roomTypeId)) = [] := by
      refine List.filter_eq_nil_iff.mpr fun r hr hplan => ?_
      have hr : r ∈ b.seasons.filter fun s => !decide (s.ratePlanId = planId) :=
        (List.mem_filter.mp hr).1
      have hne := (List.mem_filter.mp hr).2
      rw [decide_eq_true (of_decide_eq_true hplan).1] at hne
      cases hne
    unfold BaselineResolver.seasonsByKey
    rw [hnone]
    rfl
  have hstandards : (baseline { x with prices := b.undercut planId roomTypeId price } roomTypeId
      checkIn checkOut none).standardByKey planId roomTypeId =
        [⟨planId, roomTypeId, 0, price, "RUB"⟩] := by
    unfold BaselineResolver.standardByKey baseline standardRows
    show (Table.select (Table.insert _ _) _).filter _ = _
    rw [Table.select_insert (find_undercut b planId roomTypeId price), List.filter_append]
    have hrest : ∀ p : StandardRate → Bool,
        (((b.standardRates.remove fun r => decide (r.ratePlanId = planId)).select p).filter fun s =>
          decide (s.ratePlanId = planId ∧ s.roomTypeId = roomTypeId)) = [] := fun p =>
      List.filter_eq_nil_iff.mpr fun r hr hplan => of_decide_eq_false
        (Table.mem_remove.mp (Table.mem_select.mp hr).1).2 (of_decide_eq_true hplan).1
    rw [hrest]
    simp [planAsked]
  unfold BaselineResolver.resolve BaselineResolver.seasonPrice
  rw [hseasons, hstandards]
  rfl

theorem minPrice_undercut :
    ∃ m, minPrice { x with prices := b.undercut planId roomTypeId price } roomTypeId checkIn checkOut
      none day = some m ∧ m ≤ price := by
  have hasked : planId ∈ pricedPlans { x with prices := b.undercut planId roomTypeId price } roomTypeId
      checkIn checkOut none := by
    refine List.mem_append_right _ (List.mem_map.mpr ⟨⟨planId, roomTypeId, 0, price, "RUB"⟩, ?_, rfl⟩)
    refine Table.mem_select.mpr ⟨?_, by simp [planAsked]⟩
    exact (Table.mem_insert (find_undercut b planId roomTypeId price)).mpr (.inr rfl)
  have hmem : price ∈ (pricedPlans { x with prices := b.undercut planId roomTypeId price } roomTypeId
      checkIn checkOut none).filterMap fun id =>
        (lowestDaily { x with prices := b.undercut planId roomTypeId price } roomTypeId checkIn
          checkOut none id day).or
            ((baseline { x with prices := b.undercut planId roomTypeId price } roomTypeId checkIn
              checkOut none).resolve id roomTypeId day none) := by
    refine List.mem_filterMap.mpr ⟨planId, hasked, ?_⟩
    rw [lowestDaily_undercut, resolve_undercut]
    rfl
  obtain ⟨m, hm⟩ := Option.isSome_iff_exists.mp (List.isSome_min?_of_mem hmem)
  exact ⟨m, hm, (List.min?_eq_some_iff.mp hm).2 price hmem⟩

end Undercut

/-! ## Exactly when -/

section Exactly

variable {hash : String → String} {c : Collation} {s : ChannelStore} {partnerId : PartnerId}
  {dto : ConnectAvailabilityDto}

theorem mem_of_mem_targets {ts : List RoomType} (hts : targets s dto = .ok ts) {rt : RoomType}
    (hrt : rt ∈ ts) : rt ∈ s.store.prices.roomTypes := by
  unfold targets at hts
  dsimp only at hts
  split at hts
  · split at hts
    · cases hts
    · cases hts
      exact (Table.mem_select.mp (List.mem_filter.mp hrt).1).1
  · cases hts
    exact (Table.mem_select.mp hrt).1

theorem nightlyRate_nil (firstMinPrice : Option Price) (basePrice : Price) (corporateApplies : Bool) :
    nightlyRate [] firstMinPrice basePrice corporateApplies = firstMinPrice.getD basePrice := by
  cases corporateApplies <;> rfl

/-- Another partner's price below the one answered is answered instead. -/
theorem nightlyRate_undercut {rt : RoomType} {planId : RatePlanId}
    (hothers : s.store.prices.others partnerId planId = true)
    (hoffered : isOffered s dto rt = true)
    (hshown : shownPlans hash c s partnerId dto rt.id = []) (price : Price) :
    (offered hash c (s.withPrices (s.store.prices.undercut planId rt.id price)) partnerId dto
      rt).nightlyRate ≤ price := by
  have hprices := undercut_others s.store.prices planId rt.id price hothers
  have hbook := (Bool.and_eq_true _ _ ▸ hoffered : _ ∧ _).2
  show nightlyRate (shownPlans hash c _ partnerId dto rt.id) _ _ _ ≤ price
  rw [shownPlans_others hprices, hshown, nightlyRate_nil, firstMinPrice, checkDates_withPrices]
  obtain ⟨firstNight, rest, hdays⟩ := List.exists_cons_of_ne_nil (check_of_bookable hbook).1
  have hdays : (checkDates s.store rt.id dto.checkIn dto.checkOut).days = firstNight :: rest := hdays
  obtain ⟨m, hm, hle⟩ := minPrice_undercut s.store.prices planId rt.id price s.store dto.checkIn.night
    dto.checkOut.night firstNight.date
  rw [withMinPrices, hdays, List.map_cons, List.head?_cons, Option.bind_some]
  dsimp only
  rw [hm]
  exact hle

variable (hash c s partnerId dto)

/-- **Prices of other partners do not show, exactly where no plan is another partner's or every
category offered shows a plan.** -/
theorem availabilityFor_private_iff :
    (∀ b', OthersPrices partnerId s.store.prices b' →
      availabilityFor hash c (s.withPrices b') partnerId dto =
        availabilityFor hash c s partnerId dto) ↔
    (∀ p ∈ s.tariffs.plans, p.partnerId = none ∨ p.partnerId = some partnerId) ∨
      ∀ ts, targets s dto = .ok ts → ∀ rt ∈ ts, isOffered s dto rt = true →
        shownPlans hash c s partnerId dto rt.id ≠ [] := by
  constructor
  · intro hsame
    by_contra hnot
    push Not at hnot
    obtain ⟨⟨q, hq, hnone, hmine⟩, ts, hts, rt, hrt, hoffered, hshown⟩ := hnot
    have hothers : s.store.prices.others partnerId q.id = true := by
      rw [← Bool.not_eq_false, others_eq_false hq, not_or]
      exact ⟨hnone, hmine⟩
    let rate := (offered hash c s partnerId dto rt).nightlyRate
    let b' := s.store.prices.undercut q.id rt.id (rate - 1)
    have hprices : OthersPrices partnerId s.store.prices b' := undercut_others _ _ _ _ hothers
    have hle : (offered hash c (s.withPrices b') partnerId dto rt).nightlyRate ≤ rate - 1 :=
      nightlyRate_undercut hothers hoffered hshown (rate - 1)
    have heq := hsame b' hprices
    unfold availabilityFor at heq
    rw [targets_others hprices, hts] at heq
    have hoffers : ts.filterMap (offer hash c (s.withPrices b') partnerId dto) =
        ts.filterMap (offer hash c s partnerId dto) :=
      congrArg ConnectAvailability.offers (Except.ok.inj heq)
    have hmem : offered hash c (s.withPrices b') partnerId dto rt ∈
        ts.filterMap (offer hash c (s.withPrices b') partnerId dto) := by
      refine List.mem_filterMap.mpr ⟨rt, hrt, ?_⟩
      rw [offer_eq, isOffered_withPrices, if_pos hoffered]
    rw [hoffers] at hmem
    obtain ⟨rt', hrt', hoffer⟩ := List.mem_filterMap.mp hmem
    rw [offer_eq] at hoffer
    split_ifs at hoffer
    have hoffer := Option.some.inj hoffer
    obtain rfl : rt' = rt := Table.eq_of_key (mem_of_mem_targets hts hrt')
      (mem_of_mem_targets hts hrt) (congrArg CategoryOffer.categoryId hoffer)
    rw [← congrArg CategoryOffer.nightlyRate hoffer] at hle
    have hlt : rate - 1 < rate := Int.sub_one_lt_iff.mpr le_rfl
    exact absurd hle (not_le.mpr hlt)
  · rintro (hown | hshown) b' hprices
    · rw [eq_of_no_others hprices hown]
      rfl
    · unfold availabilityFor
      rw [targets_others hprices]
      cases hts : targets s dto with
      | error x =>
        show Except.error x = Except.error x
        rfl
      | ok ts =>
        have hoffers : ts.filterMap (offer hash c (s.withPrices b') partnerId dto) =
            ts.filterMap (offer hash c s partnerId dto) :=
          List.filterMap_congr fun rt hrt => offer_others hprices (hshown ts hts rt hrt)
        have hnights : ∀ roomTypeId,
            (checkDates (s.withPrices b').store roomTypeId dto.checkIn dto.checkOut).nights =
              (checkDates s.store roomTypeId dto.checkIn dto.checkOut).nights := fun roomTypeId => by
          rw [checkDates_withPrices]
          rfl
        show Except.ok _ = Except.ok _
        simp only [hoffers, corporateTariff_others hprices, hnights]
        rfl

end Exactly

/-- **A contract price shows to another partner**: partner 2 is answered the standard price of
partner 1's plan, whatever it is. -/
theorem availabilityFor_shows_others :
    let s := ChannelStore.onePlan false .ofPartner 250000
    let s' := s.withPrices (s.store.prices.undercut 1 1 240000)
    let rates (s : ChannelStore) :=
      (availabilityFor id .codeUnits s 2 (.oneNight 1)).toOption.map fun a =>
        a.offers.map (·.nightlyRate)
    OthersPrices 2 s.store.prices (s.store.prices.undercut 1 1 240000) ∧
      rates s = some [250000] ∧ rates s' = some [240000] := by
  refine ⟨undercut_others _ 1 1 240000 (by decide), ?_, ?_⟩
  · decide +kernel
  · decide +kernel

end KarsHotel
