import KarsHotel.Inventory.Inventory
import KarsHotel.Pricing.RateResolution

/-!
# Availability and the prices of a stay

What the availability service answers when nothing is cached.

* `stayDates`: the nights of a stay;
* `check`: for every night the rooms left, the lowest price and the restrictions, and whether the
  stay can be booked;
* `checkText`: `check` of a type whose id is written as the caller writes it;
* `priceByPlan`, `priceByPlanText`: the price of the stay by every active plan that has one
  for every night.

Prices are exact; the texts of the answer (`toFixed(2)`) are prices in hundredths here.
-/

namespace KarsHotel

namespace AvailabilityService

/-- The nights of a stay: the days of the interval without the last. An interval given backwards is
walked backwards. -/
def stayDates (checkIn checkOut : Day) : List Day :=
  (List.range (checkOut - checkIn).natAbs).map fun i : ℕ =>
    if checkIn ≤ checkOut then checkIn + (i : ℤ) else checkIn - (i : ℤ)

theorem mem_stayDates {ci co d : Day} (h : ci ≤ co) : d ∈ stayDates ci co ↔ ci ≤ d ∧ d < co := by
  have hstep : ∀ i : ℕ, i < (co - ci).natAbs ↔ ci + (i : ℤ) < co := by
    intro i
    have hlen : ((co - ci).natAbs : ℤ) = co - ci := Int.natAbs_of_nonneg (Int.sub_nonneg_of_le h)
    rw [← Int.ofNat_lt, hlen]
    exact lt_sub_iff_add_lt'
  simp only [stayDates, List.mem_map, List.mem_range, if_pos h, hstep]
  constructor
  · rintro ⟨i, hi, rfl⟩
    exact ⟨Int.le_add_of_nonneg_right (Int.natCast_nonneg _), hi⟩
  · rintro ⟨h₁, h₂⟩
    have hd : ci + ((d - ci).toNat : ℤ) = d := by
      rw [Int.toNat_of_nonneg (Int.sub_nonneg_of_le h₁)]
      exact add_sub_cancel ci d
    exact ⟨(d - ci).toNat, by rwa [hd], hd⟩

theorem stayDates_eq {ci co : Day} (h : ci ≤ co) :
    stayDates ci co = (List.range (co - ci).toNat).map fun i : ℕ => ci + (i : ℤ) := by
  have hlen : (co - ci).natAbs = (co - ci).toNat := by
    have h0 : (0 : ℤ) ≤ co - ci := Int.sub_nonneg_of_le h
    omega
  simp only [stayDates, if_pos h, hlen]

/-! ## What is read -/

section Rows

variable (x : TenantStore) (roomTypeId : RoomTypeId) (checkIn checkOut : Day)

/-- `BETWEEN`. -/
def between (date : Day) : Bool := decide (checkIn ≤ date) && decide (date ≤ checkOut)

def inventoryRows : List Inventory :=
  x.inventory.select fun r => decide (r.roomTypeId = roomTypeId) && between checkIn checkOut r.date

/-- The rules for every plan and, with a plan asked for, its own. -/
def restrictionRows (ratePlanId : Option RatePlanId) : List Restriction :=
  x.restrictions.filter fun r => decide (r.roomTypeId = roomTypeId) &&
    between checkIn checkOut r.date && decide (r.ratePlanId = none ∨ r.ratePlanId = ratePlanId)

def planAsked (ratePlanId : Option RatePlanId) (planId : RatePlanId) : Bool :=
  decide (ratePlanId = none ∨ ratePlanId = some planId)

def dailyRows (ratePlanId : Option RatePlanId) : List Rate :=
  x.prices.rates.select fun r => decide (r.roomTypeId = roomTypeId) &&
    between checkIn checkOut r.date && planAsked ratePlanId r.ratePlanId

def seasonRows (ratePlanId : Option RatePlanId) : List RateSeason :=
  x.prices.seasons.filter fun s => decide (s.roomTypeId = roomTypeId) &&
    planAsked ratePlanId s.ratePlanId && decide (s.dateFrom ≤ checkOut) && decide (checkIn ≤ s.dateTo)

def standardRows (ratePlanId : Option RatePlanId) : List StandardRate :=
  x.prices.standardRates.select fun s => decide (s.roomTypeId = roomTypeId) &&
    planAsked ratePlanId s.ratePlanId

/-- The seasons and standard prices read for the stay. -/
def baseline (ratePlanId : Option RatePlanId) : BaselineResolver :=
  ⟨seasonRows x roomTypeId checkIn checkOut ratePlanId, standardRows x roomTypeId ratePlanId⟩

end Rows

/-! ## `check` -/

structure DayRestrictions where
  closed : Bool
  cta : Bool
  ctd : Bool
  minLos : Option ℕ
  maxLos : Option ℕ
  deriving DecidableEq, Repr

structure DayAvailability where
  date : Day
  available : ℕ
  totalRooms : ℕ
  bookedRooms : ℕ
  blockedRooms : ℕ
  stopSell : Bool
  minPrice : Option Price
  restrictions : DayRestrictions
  deriving DecidableEq, Repr

structure AvailabilityResult where
  roomTypeId : RoomTypeId
  checkIn : Day
  checkOut : Day
  nights : ℕ
  bookable : Bool
  days : List DayAvailability
  deriving DecidableEq, Repr

def emptyResult (roomTypeId : RoomTypeId) (checkIn checkOut : Day) : AvailabilityResult :=
  ⟨roomTypeId, checkIn, checkOut, 0, false, []⟩

section Check

variable (x : TenantStore) (roomTypeId : RoomTypeId) (checkIn checkOut : Day)
  (ratePlanId : Option RatePlanId)

/-- The lowest daily price of a plan on a day. -/
def lowestDaily (planId : RatePlanId) (day : Day) : Option Price :=
  (((dailyRows x roomTypeId checkIn checkOut ratePlanId).filter fun r =>
    decide (r.ratePlanId = planId ∧ r.date = day)).map (·.price)).min?

/-- The plans that have a price row for the stay. -/
def pricedPlans : List RatePlanId :=
  (dailyRows x roomTypeId checkIn checkOut ratePlanId).map (·.ratePlanId) ++
    (seasonRows x roomTypeId checkIn checkOut ratePlanId).map (·.ratePlanId) ++
    (standardRows x roomTypeId ratePlanId).map (·.ratePlanId)

/-- The lowest price of a day over the plans. -/
def minPrice (day : Day) : Option Price :=
  ((pricedPlans x roomTypeId checkIn checkOut ratePlanId).filterMap fun planId =>
    (lowestDaily x roomTypeId checkIn checkOut ratePlanId planId day).or
      ((baseline x roomTypeId checkIn checkOut ratePlanId).resolve planId roomTypeId day none)).min?

/-- The inventory row of a day. -/
def inventoryOf (day : Day) : Option Inventory :=
  (inventoryRows x roomTypeId checkIn checkOut).find? fun r => decide (r.date = day)

/-- The restriction row of a day: of several the last one read. -/
def restrictionOf (day : Day) : Option Restriction :=
  (restrictionRows x roomTypeId checkIn checkOut ratePlanId).reverse.find? fun r =>
    decide (r.date = day)

/-- Zero is no limit. -/
def positive (n : ℕ) : Option ℕ := if n = 0 then none else some n

/-- The restrictions of a day; those on arrival count on the day of arrival. -/
def dayRestrictions (day : Day) : DayRestrictions :=
  match restrictionOf x roomTypeId checkIn checkOut ratePlanId day with
  | none => ⟨false, false, false, none, none⟩
  | some res =>
    let isArrivalDate := decide (day = checkIn)
    { closed := res.closed
      cta := isArrivalDate && res.cta
      ctd := decide (day = checkOut) && res.ctd
      minLos := positive
        (max (res.minLos.getD 0) (if isArrivalDate then res.minLosArrival.getD 0 else 0))
      maxLos := res.maxLos.or res.maxLosArrival }

/-- One night of the answer. A day without an inventory row has all its active rooms. -/
def dayAvailability (day : Day) : DayAvailability :=
  let inv := inventoryOf x roomTypeId checkIn checkOut day
  let totalRooms := (inv.map (·.totalRooms)).getD (InventoryService.roomCount x.hotel roomTypeId)
  let bookedRooms := (inv.map (·.bookedRooms)).getD 0
  let blockedRooms := (inv.map (·.blockedRooms)).getD 0
  { date := day
    available := InventoryService.computeAvailable totalRooms bookedRooms blockedRooms
    totalRooms := totalRooms
    bookedRooms := bookedRooms
    blockedRooms := blockedRooms
    stopSell := (inv.map (·.stopSell)).getD false
    minPrice := minPrice x roomTypeId checkIn checkOut ratePlanId day
    restrictions := dayRestrictions x roomTypeId checkIn checkOut ratePlanId day }

/-- A night with a room and no rule against the stay. -/
def DayAvailability.sells (d : DayAvailability) (nights : ℕ) : Bool :=
  decide (1 ≤ d.available) && !d.stopSell && !d.restrictions.closed &&
    !(d.restrictions.cta && decide (d.date = checkIn)) &&
    d.restrictions.minLos.all (fun n => decide (n ≤ nights)) &&
    d.restrictions.maxLos.all (fun n => decide (nights ≤ n))

/-- `check` with a cold cache. -/
def check : AvailabilityResult :=
  match stayDates checkIn checkOut with
  | [] => emptyResult roomTypeId checkIn checkOut
  | dates =>
    let days := dates.map (dayAvailability x roomTypeId checkIn checkOut ratePlanId)
    ⟨roomTypeId, checkIn, checkOut, dates.length,
      days.all fun d => d.sells checkIn dates.length, days⟩

/-- **The nights of an answer.** -/
theorem check_days : (check x roomTypeId checkIn checkOut ratePlanId).days =
    (stayDates checkIn checkOut).map
      (dayAvailability x roomTypeId checkIn checkOut ratePlanId) := by
  unfold check
  split
  · next h => rw [h]; rfl
  · rfl

/-- A night without a room closes the stay. -/
theorem check_bookable {d : DayAvailability}
    (hd : d ∈ (check x roomTypeId checkIn checkOut ratePlanId).days) (ha : d.available = 0) :
    (check x roomTypeId checkIn checkOut ratePlanId).bookable = false := by
  have hsells : ∀ n, d.sells checkIn n = false := fun n => by simp [DayAvailability.sells, ha]
  unfold check at hd ⊢
  split at hd
  · rfl
  · exact List.all_eq_false.mpr ⟨d, hd, by simp [hsells]⟩

end Check

/-! ## The id of the type as it is sent -/

section CheckText

variable (x : TenantStore) (roomTypeId : IdText) (checkIn checkOut : Day)
  (ratePlanId : Option RatePlanId)

/-- The lowest price of a day: the queries take the id in any spelling, the lookup of seasons and
standard prices compares the text. -/
def minPriceText (day : Day) : Option Price :=
  ((pricedPlans x roomTypeId.id checkIn checkOut ratePlanId).filterMap fun planId =>
    (lowestDaily x roomTypeId.id checkIn checkOut ratePlanId planId day).or
      ((baseline x roomTypeId.id checkIn checkOut ratePlanId).resolveText (.ofId planId) roomTypeId
        day none)).min?

/-- `check` with a cold cache, for an id as it is sent. -/
def checkText : AvailabilityResult :=
  let result := check x roomTypeId.id checkIn checkOut ratePlanId
  { result with
    days := result.days.map fun d =>
      { d with minPrice := minPriceText x roomTypeId checkIn checkOut ratePlanId d.date } }

theorem minPriceText_ofId (id : RoomTypeId) (day : Day) :
    minPriceText x (.ofId id) checkIn checkOut ratePlanId day =
      minPrice x id checkIn checkOut ratePlanId day := by
  unfold minPriceText minPrice
  simp only [BaselineResolver.resolveText_ofId, IdText.id_ofId]

/-- **An id as the database writes it.** -/
theorem checkText_ofId (id : RoomTypeId) : checkText x (.ofId id) checkIn checkOut ratePlanId =
    check x id checkIn checkOut ratePlanId := by
  have hdays : ((check x id checkIn checkOut ratePlanId).days.map fun d =>
      { d with minPrice := minPriceText x (.ofId id) checkIn checkOut ratePlanId d.date }) =
        (check x id checkIn checkOut ratePlanId).days := by
    rw [check_days, List.map_map]
    refine List.map_congr_left fun day _ => ?_
    rw [Function.comp_apply, minPriceText_ofId]
    rfl
  unfold checkText
  dsimp only [IdText.id_ofId]
  rw [hdays]

end CheckText

/-! ## `priceByPlan` -/

/-- One night of a plan's offer. -/
structure RatePlanNight where
  date : Day
  price : Option Price
  deriving DecidableEq, Repr

structure RatePlanPrice where
  ratePlanId : RatePlanId
  code : String
  name : String
  mealPlan : MealPlan
  partnerId : Option PartnerId
  partnerAccountId : Option ℕ
  partnerCustomerId : Option ℕ
  guestKind : Option GuestKind
  vatRate : Option ℤ
  nights : ℕ
  perNight : List RatePlanNight
  total : Price
  nightlyFrom : Option Price
  deriving DecidableEq, Repr

/-- `ORDER BY sort_order, name`. -/
def planBefore (a b : RatePlan) : Prop :=
  a.sortOrder < b.sortOrder ∨ a.sortOrder = b.sortOrder ∧ a.name ≤ b.name

instance : DecidableRel planBefore := fun a b => by
  unfold planBefore
  infer_instance

section PriceByPlan

variable (x : TenantStore) (roomTypeId : RoomTypeId) (checkIn checkOut : Day)

def activePlans : List RatePlan :=
  (x.prices.ratePlans.select (·.isActive)).insertionSort planBefore

/-- The daily rates of a plan on a day. -/
def dailyOf (planId : RatePlanId) (day : Day) : List Rate :=
  (dailyRows x roomTypeId checkIn checkOut none).filter fun r =>
    decide (r.ratePlanId = planId ∧ r.date = day)

/-- The daily price: for exactly so many guests, else for any number, else the lowest; `strict`
plans take no price for another number of guests. -/
def dailyFor (guests : Option ℕ) (planId : RatePlanId) (day : Day) (strict : Bool) : Option Price :=
  let list := dailyOf x roomTypeId checkIn checkOut planId day
  let lowest := (list.map (·.price)).min?
  match guests with
  | some (n + 1) =>
    match (list.find? fun r => decide (r.occupancy = n + 1)).or
        (list.find? fun r => decide (r.occupancy = 0)) with
    | some exact => some exact.price
    | none => if strict then none else lowest
  | _ => lowest

/-- The price of a night: daily, else season or standard, else the category's; a partner's plan has
no price of the category. -/
def nightPrice (basePrice : Option Price) (guests : Option ℕ) (plan : RatePlan) (day : Day) :
    Option Price :=
  let isPartnerPlan := plan.partnerId.isSome
  let baseFallback := basePrice.filter fun p => decide (0 < p)
  ((dailyFor x roomTypeId checkIn checkOut guests plan.id day isPartnerPlan).or
    ((baseline x roomTypeId checkIn checkOut none).resolve plan.id roomTypeId day guests)).or
    (if isPartnerPlan then none else baseFallback)

/-- The offer of a plan, if every night has a price. -/
def offerOf (dates : List Day) (price : Day → Option Price) (plan : RatePlan) :
    Option RatePlanPrice :=
  let prices := dates.filterMap price
  if dates.all fun d => (price d).isSome then
    some
      { ratePlanId := plan.id
        code := plan.code
        name := plan.name
        mealPlan := plan.mealPlan
        partnerId := plan.partnerId
        partnerAccountId := plan.partnerAccountId
        partnerCustomerId := plan.partnerCustomerId
        guestKind := plan.guestKind
        vatRate := plan.vatRate
        nights := dates.length
        perNight := dates.map fun d => ⟨d, price d⟩
        total := prices.sum
        nightlyFrom := prices.min? }
  else none

def planPrice (basePrice : Option Price) (guests : Option ℕ) (plan : RatePlan) :
    Option RatePlanPrice :=
  offerOf (stayDates checkIn checkOut)
    (nightPrice x roomTypeId checkIn checkOut basePrice guests plan) plan

/-- `priceByPlan` with a cold cache. -/
def priceByPlan (basePrice : Option Price) (guests : Option ℕ) : List RatePlanPrice :=
  if stayDates checkIn checkOut = [] then []
  else (activePlans x).filterMap (planPrice x roomTypeId checkIn checkOut basePrice guests)

end PriceByPlan

section PriceByPlanText

variable (x : TenantStore) (roomTypeId : IdText) (checkIn checkOut : Day) (basePrice : Option Price)
  (guests : Option ℕ)

/-- The price of a night for an id as it is sent: the daily rates are found in any spelling, seasons
and standard prices are not. -/
def nightPriceText (plan : RatePlan) (day : Day) : Option Price :=
  let isPartnerPlan := plan.partnerId.isSome
  let baseFallback := basePrice.filter fun p => decide (0 < p)
  ((dailyFor x roomTypeId.id checkIn checkOut guests plan.id day isPartnerPlan).or
    ((baseline x roomTypeId.id checkIn checkOut none).resolveText (.ofId plan.id) roomTypeId day
      guests)).or (if isPartnerPlan then none else baseFallback)

def planPriceText (plan : RatePlan) : Option RatePlanPrice :=
  offerOf (stayDates checkIn checkOut)
    (nightPriceText x roomTypeId checkIn checkOut basePrice guests plan) plan

/-- `priceByPlan` with a cold cache, for an id as it is sent. -/
def priceByPlanText : List RatePlanPrice :=
  if stayDates checkIn checkOut = [] then []
  else (activePlans x).filterMap (planPriceText x roomTypeId checkIn checkOut basePrice guests)

/-- **An id as the database writes it.** -/
theorem priceByPlanText_ofId (id : RoomTypeId) :
    priceByPlanText x (.ofId id) checkIn checkOut basePrice guests =
      priceByPlan x id checkIn checkOut basePrice guests := by
  have hplan : planPriceText x (.ofId id) checkIn checkOut basePrice guests =
      planPrice x id checkIn checkOut basePrice guests := by
    funext plan
    unfold planPriceText planPrice
    have hnight : nightPriceText x (.ofId id) checkIn checkOut basePrice guests plan =
        nightPrice x id checkIn checkOut basePrice guests plan := by
      funext day
      unfold nightPriceText nightPrice
      simp only [BaselineResolver.resolveText_ofId, IdText.id_ofId]
    rw [hnight]
  rw [priceByPlanText, priceByPlan, hplan]

end PriceByPlanText

end AvailabilityService

end KarsHotel
