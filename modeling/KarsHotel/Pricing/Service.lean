import KarsHotel.Pricing.Calculator
import KarsHotel.Pricing.RateResolution

/-!
# Quotes

`PricingService.quote`: what a stay costs by one plan, read from the price tables.

* `parentChain`: the plan's ancestors, five levels at most;
* `quote`: the rows it reads, and the calculation over them.
-/

namespace KarsHotel

/-- The rate plan is only looked up in the database; the text of the type is compared with
the rows. -/
structure QuoteInput where
  ratePlanId : RatePlanId
  roomTypeId : IdText
  arrival : Moment
  departure : Moment
  occupancy : ℕ
  currency : Option String

namespace PricingService

/-- What the calculator reads of a plan. -/
def planLike (p : RatePlan) : RatePlanLike where
  id := p.id
  parentRatePlanId := p.parentRatePlanId
  priceModifierType := p.priceModifierType
  priceModifierValue := p.priceModifierValue
  occupancyPricing := p.occupancyPricing

/-- The ancestors of a plan, the parent first, up to a depth. -/
def parentChain (plans : Table RatePlan.id) : ℕ → Option RatePlanId → List RatePlanLike
  | 0, _ => []
  | _, none => []
  | depth + 1, some currentParentId => match plans.find currentParentId with
    | none => []
    | some parent => planLike parent :: parentChain plans depth parent.parentRatePlanId

def startOfUTC (m : Moment) : Day := utcDay (dateOf m)

section Rows

variable (b : PriceBook) (planIds : List RatePlanId) (roomTypeId : RoomTypeId)

/-- The daily rates of the plans for the nights of a stay. -/
def rateRows (arrival departure : Moment) : List Rate :=
  b.rates.select fun r => decide (r.ratePlanId ∈ planIds) && decide (r.roomTypeId = roomTypeId) &&
    decide (startOfUTC arrival ≤ r.date) && decide (r.date ≤ utcDay (dateOf departure - 1))

def seasonRows : List RateSeason :=
  b.seasons.filter fun s => decide (s.ratePlanId ∈ planIds) && decide (s.roomTypeId = roomTypeId)

def standardRows : List StandardRate :=
  b.standardRates.select fun s =>
    decide (s.ratePlanId ∈ planIds) && decide (s.roomTypeId = roomTypeId)

/-- The seasons and standard prices of the plans. -/
def resolver : BaselineResolver :=
  ⟨seasonRows b planIds roomTypeId, standardRows b planIds roomTypeId⟩

end Rows

def roomTypeNotFound : Failure := .notFound "Категория номера не найдена"

def ratePlanNotFound : Failure := .notFound "Тариф не найден"

def planIds (ratePlan : RatePlan) (parents : List RatePlanLike) : List RatePlanId :=
  ratePlan.id :: parents.map (·.id)

def calculateArgs (b : PriceBook) (input : QuoteInput) (roomType : RoomType) (ratePlan : RatePlan) :
    CalculateArgs :=
  let parents := parentChain b.ratePlans 5 ratePlan.parentRatePlanId
  let ids := planIds ratePlan parents
  let rates := makeMapLookup (rateRows b ids input.roomTypeId.id input.arrival input.departure)
  let baseline := resolver b ids input.roomTypeId.id
  { ratePlan := planLike ratePlan
    parentChain := parents
    arrival := startOf (startOfUTC input.arrival)
    departure := startOf (startOfUTC input.departure)
    occupancy := input.occupancy
    baseOccupancy := roomType.baseOccupancy
    roomTypeId := input.roomTypeId.id
    currency := input.currency.getD "RUB"
    rates := fun planId _ date occupancy => rates planId input.roomTypeId date occupancy
    fallback := some fun planId date =>
      baseline.resolveText (.ofId planId) input.roomTypeId date (some input.occupancy) }

def quote (b : PriceBook) (input : QuoteInput) : Except Failure PricingBreakdown :=
  if input.departure < input.arrival then .error (.badRequest "departure must be ≥ arrival")
  else match b.roomTypes.find input.roomTypeId.id with
    | none => .error roomTypeNotFound
    | some roomType => match b.ratePlans.find input.ratePlanId with
      | none => .error ratePlanNotFound
      | some ratePlan => calculatePricing (calculateArgs b input roomType ratePlan)

end PricingService

end KarsHotel
