import KarsHotel.Lib.IdText
import KarsHotel.Lib.UtcDay
import KarsHotel.Pricing.Store
import Mathlib.Algebra.BigOperators.Group.List.Basic

/-!
# The price calculator

The price of every night of a stay by a plan and the plans it inherits from.

* `applyModifier`: a plan's modifier, rounded half up to hundredths and never below zero;
* `priceNight`: the first plan of the chain with a price for the night, and the modifiers on the way
  back to the leaf;
* `calculatePricing`: the nights of a stay and their sum;
* `chainPrice`, **`priceNight_hasRate`**, **`priceNight_price`**: the night's price by recursion on
  the chain;
* **`calculatePricing_spec`**: the total of a stay.

Prices and modifier values are exact hundredths.
-/

namespace KarsHotel

/-- What the calculator reads of a rate plan. -/
structure RatePlanLike where
  id : RatePlanId
  parentRatePlanId : Option RatePlanId
  priceModifierType : PriceModifierType
  priceModifierValue : ℤ
  occupancyPricing : Bool
  deriving DecidableEq, Repr

/-- The price of a plan, type, day and occupancy. -/
abbrev RateLookup := RatePlanId → RoomTypeId → Day → ℕ → Option Price

structure PricingNight where
  date : Day
  price : Price
  hasRate : Bool
  occupancyFallback : Bool
  inheritedFromParent : Bool
  sourceRatePlanId : Option RatePlanId
  deriving DecidableEq, Repr

structure PricingBreakdown where
  ratePlanId : RatePlanId
  roomTypeId : RoomTypeId
  arrival : Day
  departure : Day
  occupancy : ℕ
  baseOccupancy : ℕ
  nights : ℤ
  currency : String
  subtotal : Price
  totalPrice : Price
  nightly : List PricingNight
  warnings : List String
  deriving DecidableEq, Repr

structure CalculateArgs where
  ratePlan : RatePlanLike
  parentChain : List RatePlanLike
  arrival : Moment
  departure : Moment
  occupancy : ℕ
  baseOccupancy : ℕ
  roomTypeId : RoomTypeId
  currency : String
  rates : RateLookup
  fallback : Option (RatePlanId → Day → Option Price)

/-! ## Dates and lookups -/

def startOfDayUTC (m : Moment) : Day := utcDay (dateOf m)

def addDays (d : Day) (n : ℤ) : Day := utcAddDays d n

/-- The key of a row, its day taken apart and put together. -/
def lookupKey (ratePlanId : RatePlanId) (roomTypeId : IdText) (date : Day) (occupancy : ℕ) :
    RatePlanId × IdText × Day × ℕ :=
  (ratePlanId, roomTypeId, utcDay date, occupancy)

/-- A map of the rows: of two rows of one key the later one. The type is asked for by a text, which
must be the one of the rows. -/
def makeMapLookup (rows : List Rate) (ratePlanId : RatePlanId) (roomTypeId : IdText) (date : Day)
    (occupancy : ℕ) : Option Price :=
  (rows.reverse.find? fun r =>
    decide (lookupKey r.ratePlanId (.ofId r.roomTypeId) r.date r.occupancy =
      lookupKey ratePlanId roomTypeId date occupancy)).map (·.price)

/-! ## One night -/

/-- Division rounded half up. -/
def roundHalfUp (a b : ℤ) : ℤ := (2 * a + b) / (2 * b)

/-- A plan's modifier on a price: a percentage of it, or an amount on top. A modifier of zero leaves
the price as it is. -/
def applyModifier (base : Price) (plan : RatePlanLike) : Price :=
  let v := plan.priceModifierValue
  if v = 0 then base
  else
    let result := match plan.priceModifierType with
      | .percent => roundHalfUp (base * (10000 + v)) 10000
      | .absolute => base + v
    if result < 0 then 0 else result

section Night

variable (roomTypeId : RoomTypeId) (occupancy baseOccupancy : ℕ) (rates : RateLookup)
  (fallback : Option (RatePlanId → Day → Option Price)) (date : Day)

/-- The daily price of a plan, and whether it is one of the base occupancy in place of another. -/
def dailyPrice (plan : RatePlanLike) : Option (Price × Bool) :=
  let lookupOccupancy := if plan.occupancyPricing then occupancy else baseOccupancy
  match rates plan.id roomTypeId date lookupOccupancy with
  | some price => some (price, false)
  | none =>
    if plan.occupancyPricing && decide (occupancy ≠ baseOccupancy) then
      (rates plan.id roomTypeId date baseOccupancy).map fun price => (price, true)
    else none

/-- What the plan itself has for the night: a daily price, else the fallback's. -/
def ownPrice (plan : RatePlanLike) : Option (Price × Bool) :=
  (dailyPrice roomTypeId occupancy baseOccupancy rates date plan).or
    ((fallback.bind fun f => f plan.id date).map fun price => (price, false))

/-- The first plan of a chain with a price: the plans before it, itself, what it has. -/
def findInChain : List RatePlanLike → Option (List RatePlanLike × RatePlanLike × Price × Bool)
  | [] => none
  | plan :: chain =>
    match ownPrice roomTypeId occupancy baseOccupancy rates fallback date plan with
    | some (price, occupancyFallback) => some ([], plan, price, occupancyFallback)
    | none => (findInChain chain).map fun found => (plan :: found.1, found.2)

/-- A night by the chain of a plan: the price found, with the modifiers from there down to the
leaf. -/
def priceNight (chain : List RatePlanLike) : PricingNight :=
  match findInChain roomTypeId occupancy baseOccupancy rates fallback date chain with
  | none => ⟨date, 0, false, false, false, none⟩
  | some (below, source, basePrice, occupancyFallback) =>
    { date := date
      price := below.foldr (fun plan price => applyModifier price plan) basePrice
      hasRate := true
      occupancyFallback := occupancyFallback
      inheritedFromParent := !below.isEmpty
      sourceRatePlanId := some source.id }

/-- The price of a night by recursion on the chain. -/
def chainPrice : List RatePlanLike → Option Price
  | [] => none
  | plan :: chain =>
    ((ownPrice roomTypeId occupancy baseOccupancy rates fallback date plan).map (·.1)).or
      ((chainPrice chain).map (applyModifier · plan))

theorem findInChain_price (chain : List RatePlanLike) :
    (findInChain roomTypeId occupancy baseOccupancy rates fallback date chain).map
        (fun found => found.1.foldr (fun plan price => applyModifier price plan) found.2.2.1) =
      chainPrice roomTypeId occupancy baseOccupancy rates fallback date chain := by
  induction chain with
  | nil => rfl
  | cons plan chain ih =>
    unfold findInChain chainPrice
    cases ownPrice roomTypeId occupancy baseOccupancy rates fallback date plan with
    | some own => rfl
    | none =>
      rw [← ih, Option.map_map]
      simp only [Option.map_none, Option.none_or, Option.map_map]
      rfl

/-- **A night has a rate** if the chain has a price for it. -/
theorem priceNight_hasRate (chain : List RatePlanLike) :
    (priceNight roomTypeId occupancy baseOccupancy rates fallback date chain).hasRate =
      (chainPrice roomTypeId occupancy baseOccupancy rates fallback date chain).isSome := by
  rw [← findInChain_price, Option.isSome_map]
  unfold priceNight
  cases findInChain roomTypeId occupancy baseOccupancy rates fallback date chain <;> rfl

/-- **The price of a night**, zero where the chain has none. -/
theorem priceNight_price (chain : List RatePlanLike) :
    (priceNight roomTypeId occupancy baseOccupancy rates fallback date chain).price =
      (chainPrice roomTypeId occupancy baseOccupancy rates fallback date chain).getD 0 := by
  rw [← findInChain_price]
  unfold priceNight
  cases findInChain roomTypeId occupancy baseOccupancy rates fallback date chain <;> rfl

end Night

/-! ## A stay -/

/-- The first characters of an id, as a warning shows them. -/
def shortId (id : ℕ) : String := String.ofList ((toString id).toList.take 8)

def noRateWarning (date : Day) (roomTypeId : RoomTypeId) : String :=
  "No rate found for " ++ isoDate date ++ " (roomType=" ++ shortId roomTypeId ++ "…)"

/-- The nights of a stay. -/
def CalculateArgs.dates (args : CalculateArgs) : List Day :=
  (List.range (startOfDayUTC args.departure - startOfDayUTC args.arrival).toNat).map fun i : ℕ =>
    addDays (startOfDayUTC args.arrival) (i : ℤ)

def calculatePricing (args : CalculateArgs) : Except Failure PricingBreakdown :=
  if args.departure < args.arrival then .error (.internal "departure must be ≥ arrival")
  else
    let nightly := args.dates.map fun date =>
      priceNight args.roomTypeId args.occupancy args.baseOccupancy args.rates args.fallback date
        (args.ratePlan :: args.parentChain)
    let subtotal := nightly.foldl (fun acc n => acc + n.price) 0
    .ok
      { ratePlanId := args.ratePlan.id
        roomTypeId := args.roomTypeId
        arrival := startOfDayUTC args.arrival
        departure := startOfDayUTC args.departure
        occupancy := args.occupancy
        baseOccupancy := args.baseOccupancy
        nights := startOfDayUTC args.departure - startOfDayUTC args.arrival
        currency := args.currency
        subtotal := subtotal
        totalPrice := subtotal
        nightly := nightly
        warnings := (nightly.filter fun n => !n.hasRate).map fun n =>
          noRateWarning n.date args.roomTypeId }

/-- **A stay**: every night has a rate if the chain has a price for it, and the total is the sum of
the prices there are. -/
theorem calculatePricing_spec {args : CalculateArgs} (h : args.arrival ≤ args.departure)
    {price : Day → Option Price} (hprice : ∀ date ∈ args.dates,
      chainPrice args.roomTypeId args.occupancy args.baseOccupancy args.rates args.fallback date
        (args.ratePlan :: args.parentChain) = price date) :
    ∃ q, calculatePricing args = .ok q ∧
      ((∀ n ∈ q.nightly, n.hasRate = true) ↔ ∀ date ∈ args.dates, (price date).isSome = true) ∧
      q.totalPrice = (args.dates.map fun date => (price date).getD 0).sum := by
  rw [calculatePricing, if_neg (not_lt.mpr h)]
  refine ⟨_, rfl, ?_, ?_⟩
  · simp only [List.forall_mem_map, priceNight_hasRate]
    exact forall₂_congr fun date hdate => by rw [hprice date hdate]
  · simp only [← List.foldl_map (f := PricingNight.price) (g := (· + ·)), List.map_map]
    rw [← List.sum_eq_foldl]
    refine congrArg List.sum (List.map_congr_left fun date hdate => ?_)
    rw [Function.comp_apply, priceNight_price, hprice date hdate]

end KarsHotel
