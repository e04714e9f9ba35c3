import KarsHotel.Lib.Table
import KarsHotel.Reservations.Store

/-!
# The price tables of one hotel

Room types, rate plans, and the three sources of a night's price: daily rates, seasons and standard
prices. Prices and modifier values are in hundredths.
-/

namespace KarsHotel

/-- A price in hundredths of the currency unit. -/
abbrev Price := ℤ

inductive MealPlan where
  | none
  | bb
  | hb
  | fb
  | ai
  deriving DecidableEq, Repr

inductive PriceModifierType where
  | absolute
  | percent
  deriving DecidableEq, Repr

structure RoomType where
  id : RoomTypeId
  baseOccupancy : ℕ
  maxOccupancy : ℕ
  isActive : Bool
  deriving DecidableEq, Repr

inductive OperatorReviewVerdict where
  | confirmed
  | rejected
  deriving DecidableEq, Repr

/-- A row of `rate_plan`: its prices, its partner and the partner's verdict on it. -/
structure RatePlan where
  id : RatePlanId
  code : String
  name : String
  mealPlan : MealPlan
  occupancyPricing : Bool
  parentRatePlanId : Option RatePlanId
  priceModifierType : PriceModifierType
  priceModifierValue : ℤ
  sortOrder : ℤ
  isActive : Bool
  partnerId : Option PartnerId
  partnerAccountId : Option ℕ
  partnerCustomerId : Option ℕ
  guestKind : Option GuestKind
  vatRate : Option ℤ
  forOperator : Bool
  operatorContract : Option String
  reviewVerdict : Option OperatorReviewVerdict
  reviewedBy : Option String
  reviewFingerprint : Option String
  deriving DecidableEq, Repr

/-- The price of one day; an occupancy of 0 is any number of guests. -/
structure Rate where
  ratePlanId : RatePlanId
  roomTypeId : RoomTypeId
  date : Day
  occupancy : ℕ
  price : Price
  currency : String
  deriving DecidableEq, Repr

/-- The unique index of daily rates. -/
def Rate.key (r : Rate) : RatePlanId × RoomTypeId × Day × ℕ :=
  (r.ratePlanId, r.roomTypeId, r.date, r.occupancy)

/-- The price of the days `dateFrom`, …, `dateTo`. -/
structure RateSeason where
  ratePlanId : RatePlanId
  roomTypeId : RoomTypeId
  dateFrom : Day
  dateTo : Day
  occupancy : ℕ
  price : Price
  currency : String
  sortOrder : ℤ
  deriving DecidableEq, Repr

/-- The price of every other day. -/
structure StandardRate where
  ratePlanId : RatePlanId
  roomTypeId : RoomTypeId
  occupancy : ℕ
  price : Price
  currency : String
  deriving DecidableEq, Repr

/-- The unique index of standard prices. -/
def StandardRate.key (r : StandardRate) : RatePlanId × RoomTypeId × ℕ :=
  (r.ratePlanId, r.roomTypeId, r.occupancy)

/-- The tables; a query without an ordering returns the rows in table order. -/
structure PriceBook where
  roomTypes : Table RoomType.id
  ratePlans : Table RatePlan.id
  rates : Table Rate.key
  seasons : List RateSeason
  standardRates : Table StandardRate.key

end KarsHotel
