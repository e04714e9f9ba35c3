import KarsHotel.Connectivity.CreateReservation
import KarsHotel.RatePlans.Review

/-!
# What a partner is offered

`availabilityFor` of the connectivity service, with nothing cached: for every category that takes
the party and can be booked, its tariffs with their prices and its rooms.

* `ChannelStore`: what the service reads; `partnerPlans`, `partnerQuery`: the partner's tariffs and
  whom it books for;
* `checkDates`, `planPrices`: availability and prices by the date texts of a request;
* `shownPlans`, `nightlyRate`, `listRoomsForCategory`: the parts of an offer;
* `offer`, `availabilityFor`: the offer of a category, and the answer.
-/

namespace KarsHotel

open AvailabilityService (RatePlanPrice RatePlanNight AvailabilityResult)

/-! ## The store -/

inductive BedType where
  | single
  | double
  | twin
  | threeSingle
  | fourSingle
  | fiveSingle
  | twoDouble
  | doubleSingle
  | king
  | queen
  | sofa
  deriving DecidableEq, Repr

inductive RoomView where
  | none
  | city
  | garden
  | pool
  | sea
  | mountain
  | courtyard
  deriving DecidableEq, Repr

inductive RoomPartnerHold where
  | none
  | quota
  | reserve
  deriving DecidableEq, Repr

/-- The columns of a room that only its card shows. -/
structure RoomCard where
  number : String
  floor : ℤ
  bedType : BedType
  singleBeds : ℕ
  doubleBeds : ℕ
  sofas : ℕ
  extraBeds : ℕ
  view : RoomView
  hold : RoomPartnerHold
  deriving DecidableEq, Repr

/-- The columns of a category beside its occupancy. -/
structure CategoryCard where
  name : String
  basePrice : Price
  deriving DecidableEq, Repr

/-- What the connectivity service reads: the hotel, the rest of the columns of its categories and
rooms, and the directories of the partners. -/
structure ChannelStore where
  tenant : Tenant
  currency : String
  tariffs : TariffStore
  category : RoomTypeId → CategoryCard
  room : RoomId → RoomCard
  account : PartnerId → String → Option DirectoryEntry
  customer : PartnerId → String → Option DirectoryEntry

/-- The tables of the hotel. -/
abbrev ChannelStore.store (s : ChannelStore) : TenantStore := s.tariffs.store

structure ConnectAvailabilityDto where
  checkIn : DateText
  checkOut : DateText
  guests : Field ℕ
  categoryId : Field RoomTypeId
  account : Field String
  customer : Field String
  guestKind : Field GuestKind

/-! ## Dates -/

/-- The day of the instant a text names: the night it begins. -/
def DateText.night (t : DateText) : Day := dateOf (parseISO t.date)

def TenantStore.withoutArrivalRules (x : TenantStore) : TenantStore :=
  { x with restrictions := x.restrictions.map fun r => { r with cta := false, minLosArrival := none } }

/-- `check` by date texts. The rules on arrival compare the days of the stay with the text of the
arrival, so that they count only where the text is a bare day. -/
def checkDates (x : TenantStore) (roomTypeId : RoomTypeId) (checkIn checkOut : DateText) :
    AvailabilityResult :=
  let read := if checkIn.text = isoDate checkIn.night then x else x.withoutArrivalRules
  AvailabilityService.check read roomTypeId checkIn.night checkOut.night none

/-! ## The partner's tariffs -/

section Partner

variable (hash : String → String) (c : Collation) (s : ChannelStore) (partnerId : PartnerId)

/-- `partnerPlans` of the rate plans service: the partner's active plans with their status. -/
def ChannelStore.partnerPlans : List StatusPlan :=
  let plans := plansOfPartner s.tariffs.plans partnerId
  if plans.any (·.forOperator) then
    plans.map (statusPlan hash c (contractDocs s.tariffs.docs s.tenant.id) s.store.prices)
  else plans.map fun p => ⟨p, none, none⟩

/-- The same as the session of the rate plans service answers. -/
theorem run_partnerPlans (env : PartnerDirectory) (accepted : List AcceptedReview) :
    (KarsHotel.partnerPlans hash c s.tenant.id partnerId).run env ⟨s.tariffs, accepted⟩
      ⟨s.tariffs, accepted⟩ = (.ok (s.partnerPlans hash c partnerId), ⟨s.tariffs, accepted⟩) := by
  show (withOperatorStatus hash c s.tenant.id (plansOfPartner s.tariffs.plans partnerId)).run env
    ⟨s.tariffs, accepted⟩ ⟨s.tariffs, accepted⟩ = _
  unfold withOperatorStatus ChannelStore.partnerPlans
  dsimp only
  split_ifs <;> rfl

variable {hash c s partnerId}

theorem plan_of_mem_partnerPlans {p : StatusPlan} (hp : p ∈ s.partnerPlans hash c partnerId) :
    p.plan ∈ plansOfPartner s.tariffs.plans partnerId := by
  unfold ChannelStore.partnerPlans at hp
  dsimp only at hp
  split_ifs at hp
  · obtain ⟨a, ha, rfl⟩ := List.mem_map.mp hp
    rwa [statusPlan_plan]
  · obtain ⟨a, ha, rfl⟩ := List.mem_map.mp hp
    exact ha

theorem eq_of_mem_partnerPlans {p p' : StatusPlan} (hp : p ∈ s.partnerPlans hash c partnerId)
    (hp' : p' ∈ s.partnerPlans hash c partnerId) (hid : p.plan.id = p'.plan.id) : p = p' := by
  have hplan : p.plan = p'.plan :=
    Table.eq_of_key (mem_plansOfPartner.mp (plan_of_mem_partnerPlans hp)).1
      (mem_plansOfPartner.mp (plan_of_mem_partnerPlans hp')).1 hid
  unfold ChannelStore.partnerPlans at hp hp'
  dsimp only at hp hp'
  split_ifs at hp hp'
  · obtain ⟨a, -, rfl⟩ := List.mem_map.mp hp
    obtain ⟨b, -, rfl⟩ := List.mem_map.mp hp'
    rw [statusPlan_plan, statusPlan_plan] at hplan
    rw [hplan]
  · obtain ⟨a, -, rfl⟩ := List.mem_map.mp hp
    obtain ⟨b, -, rfl⟩ := List.mem_map.mp hp'
    exact congrArg (StatusPlan.mk · none none) hplan

variable (hash c s partnerId)

def StatusPlan.scope (p : StatusPlan) : PartnerPlanScope :=
  ⟨p.plan.id, p.plan.partnerId, p.plan.partnerAccountId, p.plan.partnerCustomerId, p.plan.guestKind,
    p.plan.isActive⟩

/-- `operatorStatus?.applies === true`. -/
def StatusPlan.applies (p : StatusPlan) : Bool := (p.operatorStatus.map (·.applies)).getD false

/-- The id of an active entry of a directory; an empty or missing code names none. -/
def directoryEntry (entry : String → Option DirectoryEntry) : Field String → Option ℕ
  | .val code => if code = "" then none else ((entry code).filter (·.isActive)).map (·.id)
  | _ => none

/-- Whom a search is for. -/
def ChannelStore.partnerQuery (dto : ConnectAvailabilityDto) : PartnerPlanQuery :=
  ⟨partnerId, directoryEntry (s.account partnerId) dto.account,
    directoryEntry (s.customer partnerId) dto.customer, dto.guestKind.toOption⟩

end Partner

/-! ## The answer -/

structure OfferRatePlan where
  ratePlanId : RatePlanId
  code : String
  name : String
  mealPlan : MealPlan
  nights : ℕ
  perNight : List RatePlanNight
  total : Price
  nightlyFrom : Option Price
  forOperator : Bool
  vatRate : Option ℤ
  deriving DecidableEq, Repr

structure OfferRoom extends RoomCard where
  id : RoomId
  capacity : ℕ
  available : Bool
  deriving DecidableEq, Repr

structure CategoryOffer where
  categoryId : RoomTypeId
  categoryName : String
  capacity : ℕ
  roomsAvailable : ℕ
  nightlyRate : Price
  currency : String
  ratePlans : List OfferRatePlan
  rooms : List OfferRoom
  deriving DecidableEq, Repr

structure CorporatePlan where
  ratePlanId : RatePlanId
  name : String
  mealPlan : MealPlan
  state : OperatorTariffState
  applies : Bool
  reason : String
  deriving DecidableEq, Repr

structure CorporateTariff where
  ratePlanId : RatePlanId
  name : String
  state : OperatorTariffState
  applies : Bool
  reason : String
  plans : List CorporatePlan
  deriving DecidableEq, Repr

structure ConnectAvailability where
  hotelId : ℕ
  slug : String
  checkIn : String
  checkOut : String
  nights : ℕ
  currency : String
  offers : List CategoryOffer
  corporateTariff : Option CorporateTariff
  deriving DecidableEq, Repr

section Answer

variable (hash : String → String) (c : Collation) (s : ChannelStore) (partnerId : PartnerId)
  (dto : ConnectAvailabilityDto)

/-- The number of guests, if it is sent and not zero. -/
def ConnectAvailabilityDto.party : Option ℕ := dto.guests.toOption.filter (· ≠ 0)

/-- The categories asked for. -/
def targets : Except Failure (List RoomType) :=
  let roomTypes := s.store.prices.roomTypes.select (·.isActive)
  match dto.categoryId with
  | .val id =>
    match roomTypes.filter fun rt => decide (rt.id = id) with
    | [] => .error (.notFound ("Category " ++ id.repr ++ " not found in hotel " ++ s.tenant.slug))
    | found => .ok found
  | _ => .ok roomTypes

/-- The tariffs of the partner for this search. -/
def chosenPlans : List StatusPlan :=
  pickPartnerPlans StatusPlan.scope (s.partnerPlans hash c partnerId) (s.partnerQuery partnerId dto)

/-- The ids of those that apply. -/
def applyingPlans : List RatePlanId :=
  ((chosenPlans hash c s partnerId dto).filter StatusPlan.applies).map (·.plan.id)

/-- The price of the stay by every plan that has one. -/
def planPricesFor (roomTypeId : RoomTypeId) : List RatePlanPrice :=
  AvailabilityService.priceByPlan s.store roomTypeId dto.checkIn.night dto.checkOut.night
    (some (s.category roomTypeId).basePrice) dto.guests.toOption

/-- The hotel's own plans are shown to all; of a partner's, those that apply to this search. -/
def isShown (p : RatePlanPrice) : Bool :=
  p.partnerId.isNone || decide (p.ratePlanId ∈ applyingPlans hash c s partnerId dto)

def RatePlanPrice.offered (applying : List RatePlanId) (p : RatePlanPrice) : OfferRatePlan :=
  ⟨p.ratePlanId, p.code, p.name, p.mealPlan, p.nights, p.perNight, p.total, p.nightlyFrom,
    decide (p.ratePlanId ∈ applying), p.vatRate⟩

def shownPlans (roomTypeId : RoomTypeId) : List OfferRatePlan :=
  ((planPricesFor s dto roomTypeId).filter (isShown hash c s partnerId dto)).map
    (RatePlanPrice.offered (applyingPlans hash c s partnerId dto))

/-- The price of a night in an offer: the partner's tariff, else the cheapest plan shown, else the
cheapest price of the first night, else the price of the category. -/
def nightlyRate (ratePlans : List OfferRatePlan) (firstMinPrice : Option Price) (basePrice : Price)
    (corporateApplies : Bool) : Price :=
  let corporateNightly :=
    if corporateApplies then (ratePlans.find? (·.forOperator)).bind (·.nightlyFrom) else none
  let cheapestPlanNightly := (ratePlans.filterMap (·.nightlyFrom)).min?
  ((corporateNightly.or cheapestPlanNightly).or firstMinPrice).getD basePrice

/-- A room takes a party of so many between two days. -/
def fitsByPlaces (h : Hotel) (checkIn checkOut : Day) (guests : ℕ) (room : Room) : Bool :=
  roomFits room.capacity h.multiPlaceEnabled ⟨max 1 guests, 0⟩
    (h.overlapping room.id checkIn checkOut none)

/-- `ORDER BY floor, number`. -/
def RoomCard.Before (a b : RoomCard) : Prop :=
  a.floor < b.floor ∨ a.floor = b.floor ∧ a.number ≤ b.number

instance : DecidableRel RoomCard.Before := fun a b => by
  unfold RoomCard.Before
  infer_instance

/-- The active rooms of a category, each with whether one more guest finds a place. -/
def listRoomsForCategory (roomTypeId : RoomTypeId) : List OfferRoom :=
  let rows := (s.store.hotel.rooms.select fun r =>
    decide (r.roomTypeId = roomTypeId) && r.isActive).insertionSort fun a b =>
      (s.room a.id).Before (s.room b.id)
  rows.map fun r => { s.room r.id with
    id := r.id
    capacity := r.capacity
    available := fitsByPlaces s.store.hotel dto.checkIn.date.day dto.checkOut.date.day 1 r }

def takesParty (rt : RoomType) : Bool := dto.party.all fun guests => decide (guests ≤ rt.maxOccupancy)

/-- The offer of a category, unless it is too small or cannot be booked. -/
def offer (rt : RoomType) : Option CategoryOffer :=
  if takesParty dto rt then
    let avail := checkDates s.store rt.id dto.checkIn dto.checkOut
    match avail.days with
    | [] => none
    | firstNight :: _ =>
      let roomsAvailable := ((avail.days.map (·.available)).min?).getD 0
      if roomsAvailable < 1 || !avail.bookable then none
      else
        let ratePlans := shownPlans hash c s partnerId dto rt.id
        let card := s.category rt.id
        some
          { categoryId := rt.id
            categoryName := card.name
            capacity := rt.maxOccupancy
            roomsAvailable := roomsAvailable
            nightlyRate := nightlyRate ratePlans firstNight.minPrice card.basePrice
              (!(applyingPlans hash c s partnerId dto).isEmpty)
            currency := s.currency
            ratePlans := ratePlans
            rooms := listRoomsForCategory s dto rt.id }
  else none

/-- Why the offers look as they do. -/
def corporateTariff : Option CorporateTariff :=
  let chosen := chosenPlans hash c s partnerId dto
  let state (p : StatusPlan) := (p.operatorStatus.map (·.state)).getD .draft
  let reason (p : StatusPlan) := (p.operatorStatus.map (·.reason)).getD ""
  chosen.head?.map fun corporate =>
    { ratePlanId := corporate.plan.id
      name := corporate.plan.name
      state := state corporate
      applies := !(applyingPlans hash c s partnerId dto).isEmpty
      reason := reason corporate
      plans := chosen.map fun p =>
        ⟨p.plan.id, p.plan.name, p.plan.mealPlan, state p, p.applies, reason p⟩ }

/-- `availabilityFor`, once the hotel is found. -/
def availabilityFor : Except Failure ConnectAvailability := do
  let targets ← targets s dto
  let checked := targets.filter (takesParty dto)
  return {
    hotelId := s.tenant.id
    slug := s.tenant.slug
    checkIn := dto.checkIn.text
    checkOut := dto.checkOut.text
    nights := (checked.getLast?.map fun rt =>
      (checkDates s.store rt.id dto.checkIn dto.checkOut).nights).getD 0
    currency := s.currency
    offers := targets.filterMap (offer hash c s partnerId dto)
    corporateTariff := corporateTariff hash c s partnerId dto }

end Answer

/-! ## Small inputs -/

/-- A hotel of one room for two and one plan with a standard price; nothing else is priced. -/
def ChannelStore.onePlan (multiPlace : Bool) (plan : RatePlan) (price : Price) : ChannelStore where
  tenant := ⟨1, "hotel"⟩
  currency := "RUB"
  tariffs :=
    { store :=
        { hotel := .oneRoom multiPlace
          prices :=
            { roomTypes := Table.empty.insert ⟨1, 2, 2, true⟩
              ratePlans := Table.empty.insert plan
              rates := .empty
              seasons := []
              standardRates := Table.empty.insert ⟨plan.id, 1, 0, price, "RUB"⟩ }
          inventory := .empty
          restrictions := [] }
      docs := .empty }
  category _ := ⟨"Standard", 0⟩
  room _ := ⟨"1", 1, .twin, 2, 0, 0, 0, .none, .none⟩
  account _ _ := none
  customer _ _ := none

def ConnectAvailabilityDto.oneNight (guests : ℕ) : ConnectAvailabilityDto where
  checkIn := ⟨"1970-01-01", .ofDay 0⟩
  checkOut := ⟨"1970-01-02", .ofDay 1⟩
  guests := .val guests
  categoryId := .undefined
  account := .undefined
  customer := .undefined
  guestKind := .undefined

end KarsHotel
