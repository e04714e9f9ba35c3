import KarsHotel.Connectivity.ClosedSale
import KarsHotel.Connectivity.ContractPrivacy
import KarsHotel.Connectivity.Idempotency

/-!
# Taking up an offer

A partner searches for a number of guests, and books a room and a plan of the answer in the same
state.

* `Listed`: what a search lists; `TakesUp`: the booking of it; `Booked`: what it should come to;
* `Listed.category`, `mem_listRooms`, `mem_planPricesFor`, `admitPlan_applying`: the two paths read
  the same category, room, price and tariff;
* `TakesUp.passed`: the booking passes the checks before the room, with the total listed;
* **`booked_iff`**: the booking succeeds if and only if the dates are in order and the room takes
  all the guests.
-/

namespace KarsHotel

open AvailabilityService

section Offer

variable (hash : String → String) (c : Collation) (sha256 : String → String) (s : ChannelStore)
  (partnerId : PartnerId) (dto : ConnectAvailabilityDto)

/-- What a search for so many guests lists: a room with a place, and a plan of its category. -/
structure Listed (guests : ℕ) (offer : CategoryOffer) (room : OfferRoom) (plan : OfferRatePlan) :
    Prop where
  party : dto.guests = .val guests
  someone : 1 ≤ guests
  answered : ∃ answer, availabilityFor hash c s partnerId dto = .ok answer ∧ offer ∈ answer.offers
  hasRoom : room ∈ offer.rooms
  free : room.available = true
  hasPlan : plan ∈ offer.ratePlans

/-- The booking of that room and that plan for as many adults, on the same dates and conditions. It
was not sent before, and its id is new. -/
structure TakesUp (guests : ℕ) (offer : CategoryOffer) (room : OfferRoom) (plan : OfferRatePlan)
    (q : ConnectRequest) (channel : ReservationChannelContext) : Prop where
  partner : q.partnerId = partnerId
  category : q.dto.categoryId = .ofId offer.categoryId
  pinned : q.dto.roomId = .val room.id
  tariff : q.dto.ratePlanId = .val plan.ratePlanId
  arrival : q.dto.checkIn = dto.checkIn
  departure : q.dto.checkOut = dto.checkOut
  account : q.dto.account = dto.account
  customer : q.dto.customer = dto.customer
  kind : q.dto.guestKind = dto.guestKind
  adults : q.dto.adults = guests
  noChildren : q.dto.children.orElse 0 = 0
  keyed : channelContext sha256 q.dto q.partnerId q.header = .ok channel
  unused : ∀ idem, channel.idempotency = some idem → ∀ o ∈ s.store.hotel.reservations,
    o.partnerId = some q.partnerId → o.partnerIdempotencyKey ≠ some idem.key
  fresh : s.store.hotel.reservations.find q.newId = none

/-- The booking succeeds and stores the room, the plan and its total. -/
def Booked (room : OfferRoom) (plan : OfferRatePlan) (q : ConnectRequest) : Prop :=
  ∃ row, s.book hash c sha256 q =
      (.ok (row.created.answer q.tenant), s.store.hotel.insertReservation row) ∧
    row ∈ (s.store.hotel.insertReservation row).reservations ∧
    row.roomId = room.id ∧ row.ratePlanId = some plan.ratePlanId ∧ row.totalPrice = some plan.total

/-- The arrival is before the departure, as an instant and as a day. -/
def ConnectAvailabilityDto.InOrder (dto : ConnectAvailabilityDto) : Prop :=
  parseISO dto.checkIn.date < parseISO dto.checkOut.date ∧
    dto.checkIn.date.day < dto.checkOut.date.day

/-- The room has places for so many between the days the dates name, read as days and as
instants. -/
def TakesGuests (guests : ℕ) (roomId : RoomId) : Prop :=
  ∀ room, s.store.hotel.rooms.find roomId = some room →
    fitsByPlaces s.store.hotel dto.checkIn.date.day dto.checkOut.date.day guests room = true ∧
      fitsByPlaces s.store.hotel dto.checkIn.night dto.checkOut.night guests room = true

end Offer

/-! ## The same category, room, price and tariff -/

section Same

variable {hash : String → String} {c : Collation} {sha256 : String → String} {s : ChannelStore}
  {partnerId : PartnerId} {dto : ConnectAvailabilityDto} {guests : ℕ} {offer : CategoryOffer}
  {room : OfferRoom} {plan : OfferRatePlan}

theorem active_of_mem_targets {ts : List RoomType} (hts : targets s dto = .ok ts) {rt : RoomType}
    (hrt : rt ∈ ts) : rt.isActive = true := by
  unfold targets at hts
  dsimp only at hts
  split at hts
  · split at hts
    · cases hts
    · cases hts
      exact (Table.mem_select.mp (List.mem_filter.mp hrt).1).2
  · cases hts
    exact (Table.mem_select.mp hrt).2

theorem Listed.category (hl : Listed hash c s partnerId dto guests offer room plan) :
    ∃ rt, s.store.prices.roomTypes.find offer.categoryId = some rt ∧ rt.isActive = true ∧
      guests ≤ rt.maxOccupancy ∧ offer = offered hash c s partnerId dto rt := by
  obtain ⟨answer, hanswer, hmem⟩ := hl.answered
  obtain ⟨ts, hts, hok⟩ := bind_ok_iff.mp hanswer
  obtain rfl := Except.ok.inj hok
  obtain ⟨rt, hrt, hoffer⟩ := List.mem_filterMap.mp hmem
  rw [offer_eq] at hoffer
  split_ifs at hoffer with hoffered
  obtain rfl := Option.some.inj hoffer
  have hparty : takesParty dto rt = true := (Bool.and_eq_true _ _).mp hoffered |>.1
  have hguests : dto.party = some guests := by
    have hpos : guests ≠ 0 := Nat.one_le_iff_ne_zero.mp hl.someone
    unfold ConnectAvailabilityDto.party
    rw [hl.party]
    show (some guests).filter (fun n => decide (n ≠ 0)) = some guests
    rw [Option.filter_some, if_pos (decide_eq_true hpos)]
  unfold takesParty at hparty
  rw [hguests] at hparty
  exact ⟨rt, Table.find_eq_some.mpr ⟨mem_of_mem_targets hts hrt, rfl⟩,
    active_of_mem_targets hts hrt, of_decide_eq_true hparty, rfl⟩

theorem mem_listRooms {roomTypeId : RoomTypeId} (hroom : room ∈ listRoomsForCategory s dto roomTypeId) :
    ∃ r, s.store.hotel.activeRoom room.id = some (r, s.store.hotel.multiPlaceEnabled) ∧
      r.id = room.id ∧ r.roomTypeId = roomTypeId := by
  obtain ⟨r, hr, rfl⟩ := List.mem_map.mp hroom
  rw [List.mem_insertionSort] at hr
  obtain ⟨hmem, hr⟩ := Table.mem_select.mp hr
  obtain ⟨htype, hactive⟩ := (Bool.and_eq_true _ _).mp hr
  exact ⟨r, Hotel.activeRoom_eq_some.mpr ⟨Table.find_eq_some.mpr ⟨hmem, rfl⟩, hactive, rfl⟩, rfl,
    of_decide_eq_true htype⟩

theorem mem_planPricesFor {roomTypeId : RoomTypeId} {p : RatePlanPrice}
    (hp : p ∈ planPricesFor s dto roomTypeId) : ∃ row ∈ s.tariffs.plans, row.isActive = true ∧
      row.id = p.ratePlanId ∧ row.partnerId = p.partnerId ∧
      planPrice s.store roomTypeId dto.checkIn.night dto.checkOut.night
        (some (s.category roomTypeId).basePrice) dto.guests.toOption row = some p := by
  unfold planPricesFor priceByPlan at hp
  split_ifs at hp with hdates
  · cases hp
  obtain ⟨row, hrow, hprice⟩ := List.mem_filterMap.mp hp
  unfold activePlans at hrow
  rw [List.mem_insertionSort] at hrow
  obtain ⟨hmem, hactive⟩ := Table.mem_select.mp hrow
  refine ⟨row, hmem, hactive, ?_, ?_, hprice⟩
  · unfold planPrice offerOf at hprice
    dsimp only at hprice
    split_ifs at hprice
    exact congrArg RatePlanPrice.ratePlanId (Option.some.inj hprice)
  · unfold planPrice offerOf at hprice
    dsimp only at hprice
    split_ifs at hprice
    exact congrArg RatePlanPrice.partnerId (Option.some.inj hprice)

theorem find_planPricesFor {roomTypeId : RoomTypeId} {p : RatePlanPrice}
    (hp : p ∈ planPricesFor s dto roomTypeId) :
    (((planPricesFor s dto roomTypeId).map fun p => PlanPrice.mk p.ratePlanId (some p.total)).find?
      fun q => decide (q.ratePlanId = p.ratePlanId)).bind (·.total) = some p.total := by
  rw [List.find?_map]
  cases hfind : (planPricesFor s dto roomTypeId).find?
      ((fun q => decide (q.ratePlanId = p.ratePlanId)) ∘ fun p =>
        PlanPrice.mk p.ratePlanId (some p.total)) with
  | none =>
    have hnot := List.find?_eq_none.mp hfind p hp
    simp at hnot
  | some p' =>
    have hid : p'.ratePlanId = p.ratePlanId := by simpa using List.find?_some hfind
    obtain ⟨row, hrow, -, hrid, -, hprice⟩ := mem_planPricesFor hp
    obtain ⟨row', hrow', -, hrid', -, hprice'⟩ := mem_planPricesFor (List.mem_of_find?_eq_some hfind)
    obtain rfl : row' = row := Table.eq_of_key hrow' hrow (hrid'.trans (hid.trans hrid.symm))
    obtain rfl : p' = p := Option.some.inj (hprice'.symm.trans hprice)
    rfl

theorem mem_partnerPlans_of_chosen {p : StatusPlan} (hp : p ∈ chosenPlans hash c s partnerId dto) :
    p ∈ s.partnerPlans hash c partnerId := ((mem_pickPartnerPlans _).mp hp).1

/-- What a search takes for applying, a booking takes for confirmed. -/
theorem admitPlan_applying {row : RatePlan} (hrow : row ∈ s.tariffs.plans)
    (hmem : row.id ∈ applyingPlans hash c s partnerId dto) :
    admitPlan partnerId ((chosenPlans hash c s partnerId dto).map StatusPlan.operatorPlan)
      ⟨row.id, row.name, row.isActive, row.partnerId⟩ = .ok () := by
  obtain ⟨row', hrow', hid, hmine⟩ := mem_applyingPlans hmem
  obtain rfl : row' = row := Table.eq_of_key hrow' hrow hid
  obtain ⟨p, hp, hpid⟩ := List.mem_map.mp hmem
  obtain ⟨hp, happlies⟩ := List.mem_filter.mp hp
  unfold admitPlan
  rw [hmine, List.find?_map]
  cases hfind : (chosenPlans hash c s partnerId dto).find?
      ((fun p => decide (p.id = row'.id)) ∘ StatusPlan.operatorPlan) with
  | none =>
    have hnot := List.find?_eq_none.mp hfind p hp
    exact absurd (decide_eq_true hpid) hnot
  | some p' =>
    have hfound := List.find?_some hfind
    have hid' : p'.plan.id = row'.id := of_decide_eq_true hfound
    obtain rfl : p' = p :=
      eq_of_mem_partnerPlans (mem_partnerPlans_of_chosen (List.mem_of_find?_eq_some hfind))
        (mem_partnerPlans_of_chosen hp) (hid'.trans hpid.symm)
    have hap : p'.operatorPlan.applies = true := by
      unfold StatusPlan.operatorPlan OperatorPlan.applies
      unfold StatusPlan.applies at happlies
      cases hstatus : p'.operatorStatus with
      | none =>
        rw [hstatus] at happlies
        cases happlies
      | some status =>
        rw [hstatus] at happlies
        exact happlies
    dsimp only [Option.map_some]
    rw [if_neg (not_not.mpr rfl), if_pos hap]

end Same

/-! ## The booking -/

section Booking

variable {hash : String → String} {c : Collation} {sha256 : String → String} {s : ChannelStore}
  {partnerId : PartnerId} {dto : ConnectAvailabilityDto} {guests : ℕ} {offer : CategoryOffer}
  {room : OfferRoom} {plan : OfferRatePlan} {q : ConnectRequest}
  {channel : ReservationChannelContext}

theorem TakesUp.sum (ht : TakesUp sha256 s partnerId dto guests offer room plan q channel) :
    q.dto.guests = guests := by
  unfold ConnectCreateReservationDto.guests
  rw [ht.adults, ht.noChildren, Nat.add_zero]

/-- **The booking passes the checks before the room**, with the total that was listed. -/
theorem TakesUp.passed (hl : Listed hash c s partnerId dto guests offer room plan)
    (ht : TakesUp sha256 s partnerId dto guests offer room plan q channel) :
    preflight q.tenant (s.env hash c q.partnerId q.dto) q.dto q.partnerId =
      .ok (some (plan.ratePlanId, plan.total)) := by
  obtain ⟨rt, hrt, hactive, hfits, rfl⟩ := hl.category
  obtain ⟨p, hp, rfl⟩ := List.mem_map.mp hl.hasPlan
  obtain ⟨hp, hshown⟩ := List.mem_filter.mp hp
  obtain ⟨row, hrow, hrowActive, hid, hpartner, -⟩ := mem_planPricesFor hp
  have hcategory : q.dto.categoryId = .ofId rt.id := ht.category
  have htariff : q.dto.ratePlanId = .val p.ratePlanId := ht.tariff
  have hchosen : bookingPlans hash c s q = chosenPlans hash c s partnerId dto := by
    unfold bookingPlans chosenPlans ChannelStore.bookingQuery ChannelStore.partnerQuery
    rw [ht.account, ht.customer, ht.kind, ht.partner]
  have hprices : stayPrices s q = planPricesFor s dto rt.id := by
    unfold stayPrices planPricesFor
    rw [hcategory, priceByPlanText_ofId, ht.arrival, ht.departure, ht.sum, hl.party]
    rfl
  refine preflight_ok.mpr (preflightPassed_env.mpr ⟨⟨rt, ?_, hactive, ?_⟩, ?_⟩)
  · rw [ht.category]
    exact hrt
  · rw [ht.sum]
    exact hfits
  · rw [hchosen, hprices]
    refine ⟨p.ratePlanId, ⟨row.id, row.name, row.isActive, row.partnerId⟩, ?_, ?_, hrowActive, ?_,
      ?_, hid⟩
    · unfold planToUse
      rw [htariff]
    · show Except.ok ((s.tariffs.plans.find p.ratePlanId).map _) = _
      rw [Table.find_eq_some.mpr ⟨hrow, hid⟩]
      rfl
    · rw [ht.partner]
      rcases (Bool.or_eq_true _ _).mp hshown with hnone | hmem
      · unfold admitPlan
        dsimp only
        rw [hpartner, Option.isNone_iff_eq_none.mp hnone]
      · exact admitPlan_applying hrow (hid ▸ of_decide_eq_true hmem)
    · dsimp only
      rw [hid]
      exact find_planPricesFor hp

theorem TakesUp.channel_partner
    (ht : TakesUp sha256 s partnerId dto guests offer room plan q channel) :
    channel.partnerId = q.partnerId := by
  have hkeyed := ht.keyed
  unfold channelContext at hkeyed
  split at hkeyed
  · exact (congrArg ReservationChannelContext.partnerId (Except.ok.inj hkeyed)).symm
  · split_ifs at hkeyed
    exact (congrArg ReservationChannelContext.partnerId (Except.ok.inj hkeyed)).symm
  · cases hkeyed

theorem TakesUp.keyUnused (ht : TakesUp sha256 s partnerId dto guests offer room plan q channel) :
    KeyUnused s.store.hotel channel := by
  intro idem hidem
  refine List.find?_eq_none.mpr fun o ho => ?_
  have hkey := ht.unused idem hidem o ho
  rw [ht.channel_partner]
  simp only [Bool.and_eq_true, decide_eq_true_eq]
  rintro ⟨⟨hpartner, -⟩, hsame⟩
  exact hkey hpartner hsame

/-- The table takes the row of a new booking. -/
theorem TakesUp.accepted (ht : TakesUp sha256 s partnerId dto guests offer room plan q channel)
    (price : Option (RatePlanId × ℤ)) (r : Room) (place : ℕ) :
    s.store.hotel.accepts (q.row channel price r place) = true := by
  refine Hotel.accepts_iff.mpr fun o ho => ⟨Table.find_eq_none.mp ht.fresh o ho, ?_⟩
  show o.partnerId = none ∨ o.partnerIdempotencyKey = none ∨ o.partnerId ≠ some channel.partnerId ∨
    o.partnerIdempotencyKey ≠ channel.idempotency.map (·.key)
  cases hidem : channel.idempotency with
  | none =>
    by_cases hkey : o.partnerIdempotencyKey = none
    · exact Or.inr (Or.inl hkey)
    · exact Or.inr (Or.inr (Or.inr hkey))
  | some idem =>
    rw [ht.channel_partner]
    by_cases hpartner : o.partnerId = some q.partnerId
    · exact Or.inr (Or.inr (Or.inr (ht.unused idem hidem o ho hpartner)))
    · exact Or.inr (Or.inr (Or.inl hpartner))

end Booking

/-! ## A room of two places -/

def RatePlan.ofHotel : RatePlan :=
  { RatePlan.ofPartner with partnerId := none, forOperator := false, operatorContract := none }

/-- A hotel that sells by places, with one plan; in its room of two places there is one guest. -/
def ChannelStore.oneInside : ChannelStore :=
  { ChannelStore.onePlan true .ofHotel 250000 with
    tariffs.store.hotel := (Hotel.oneRoom true).insertReservation
      (CreateReservationDto.oneNight.row ⟨.undefined, .undefined, .undefined⟩ none 1 1 1) }

def OfferRoom.first : OfferRoom := ⟨⟨"1", 1, .twin, 2, 0, 0, 0, .none, .none⟩, 1, 2, true⟩

def OfferRatePlan.first : OfferRatePlan :=
  ⟨1, "KARS", "Kars", .bb, 1, [⟨0, some 250000⟩], 250000, some 250000, false, none⟩

/-- What a search for so many guests lists. -/
def CategoryOffer.first : CategoryOffer :=
  ⟨1, "Standard", 2, 1, 250000, "RUB", [.first], [.first]⟩

/-- The booking of the room and the plan. -/
def ConnectRequest.takesUp (guests : ℕ) : ConnectRequest :=
  ⟨⟨1, "hotel"⟩, { ConnectCreateReservationDto.oneNight with
    roomId := .val 1, ratePlanId := .val 1, adults := guests }, 2, .undefined, 7⟩

theorem listed_first {guests : ℕ} {s : ChannelStore} (hg : 1 ≤ guests)
    (hoffers : (availabilityFor id .codeUnits s 2 (.oneNight guests)).toOption.map (·.offers) =
      some [.first]) :
    Listed id .codeUnits s 2 (.oneNight guests) guests .first .first .first := by
  refine ⟨rfl, hg, ?_, List.mem_singleton.mpr rfl, rfl, List.mem_singleton.mpr rfl⟩
  cases hanswer : availabilityFor id .codeUnits s 2 (.oneNight guests) with
  | error x =>
    rw [hanswer] at hoffers
    cases hoffers
  | ok answer =>
    rw [hanswer] at hoffers
    have hlist : answer.offers = [.first] := Option.some.inj hoffers
    exact ⟨answer, rfl, hlist ▸ List.mem_singleton.mpr rfl⟩

theorem takesUp_first {guests : ℕ} {s : ChannelStore}
    (hfresh : s.store.hotel.reservations.find 7 = none) :
    TakesUp id s 2 (.oneNight guests) guests .first .first .first (.takesUp guests) ⟨2, none⟩ :=
  ⟨rfl, rfl, rfl, rfl, rfl, rfl, rfl, rfl, rfl, rfl, rfl, rfl, nofun, hfresh⟩

end KarsHotel
