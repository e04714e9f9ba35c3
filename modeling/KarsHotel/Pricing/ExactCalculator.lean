import KarsHotel.Lib.Decimals
import KarsHotel.Pricing.Calculator
import Mathlib.Tactic.NormNum

/-!
# The price calculator on exact decimals

The calculator as it stands, with prices and modifiers of any number of places.

* `priceNight`, `calculatePricing`: the search up the chain, the modifiers back down, the sum;
* `OwnPrice`, `ModifiedDown`, `ChainPrice`: the price of a night, and **`ChainPrice.unique`**;
* `PricesStay`, **`pricesStay_iff`**: what a stay costs, and for which dates the calculator says so;
* **`calculatePricing_hundredths`**: on hundredths it is the calculator of whole hundredths.
-/

namespace KarsHotel.Exact

/-- What the calculator reads of a rate plan. -/
structure RatePlanLike where
  id : RatePlanId
  parentRatePlanId : Option RatePlanId
  priceModifierType : PriceModifierType
  priceModifierValue : Decimal
  occupancyPricing : Bool
  deriving DecidableEq

abbrev RateLookup := RatePlanId → RoomTypeId → Day → ℕ → Option Decimal

structure PricingNight where
  date : Day
  price : Decimal
  hasRate : Bool
  occupancyFallback : Bool
  inheritedFromParent : Bool
  sourceRatePlanId : Option RatePlanId
  deriving DecidableEq

structure PricingBreakdown where
  ratePlanId : RatePlanId
  roomTypeId : RoomTypeId
  arrival : Day
  departure : Day
  occupancy : ℕ
  baseOccupancy : ℕ
  nights : ℤ
  currency : String
  subtotal : Decimal
  totalPrice : Decimal
  nightly : List PricingNight
  warnings : List String
  deriving DecidableEq

structure CalculateArgs where
  ratePlan : RatePlanLike
  parentChain : List RatePlanLike
  arrival : Moment
  departure : Moment
  occupancy : ℕ
  baseOccupancy : ℕ
  roomTypeId : RoomTypeId
  currency : String
  rates : RateLookup
  fallback : Option (RatePlanId → Day → Option Decimal)

/-! ## One night -/

def applyModifier (base : Decimal) (plan : RatePlanLike) : Decimal :=
  let v := plan.priceModifierValue
  if v = 0 then base
  else
    let result := match plan.priceModifierType with
      | .percent => base * (1 + v / 100)
      | .absolute => base + v
    let result := toDecimalPlaces result 2
    if result < 0 then 0 else result

section Night

variable (args : CalculateArgs) (date : Day)

/-- What one plan has for the night: its daily price, the one of the base occupancy, the
fallback's. -/
def findOwn (plan : RatePlanLike) : Option (Decimal × Bool) :=
  let lookupOccupancy := if plan.occupancyPricing then args.occupancy else args.baseOccupancy
  match args.rates plan.id args.roomTypeId date lookupOccupancy with
  | some price => some (price, false)
  | none =>
    let found :=
      if plan.occupancyPricing && decide (args.occupancy ≠ args.baseOccupancy) then
        args.rates plan.id args.roomTypeId date args.baseOccupancy
      else none
    match found with
    | some price => some (price, true)
    | none => (args.fallback.bind fun f => f plan.id date).map fun price => (price, false)

/-- The first plan of a chain with a price, by its place, and what it has. -/
def findInChain : List RatePlanLike → Option (ℕ × Decimal × Bool)
  | [] => none
  | plan :: chain =>
    match findOwn args date plan with
    | some found => some (0, found)
    | none => (findInChain chain).map fun found => (found.1 + 1, found.2)

/-- A night: the price found, taken back down to the requested plan. -/
def priceNight (chain : List RatePlanLike) : PricingNight :=
  match findInChain args date chain with
  | none => ⟨date, 0, false, false, false, none⟩
  | some (foundIndex, basePrice, occupancyFallback) =>
    { date := date
      price := (chain.take foundIndex).reverse.foldl applyModifier basePrice
      hasRate := true
      occupancyFallback := occupancyFallback
      inheritedFromParent := decide (0 < foundIndex)
      sourceRatePlanId := chain[foundIndex]?.map (·.id) }

end Night

/-! ## A stay -/

def CalculateArgs.chain (args : CalculateArgs) : List RatePlanLike :=
  args.ratePlan :: args.parentChain

/-- One turn of the loop over the nights: the warnings and the nights so far. -/
def pushNight (args : CalculateArgs) (acc : List String × List PricingNight) (i : ℕ) :
    List String × List PricingNight :=
  let date := addDays (startOfDayUTC args.arrival) (i : ℤ)
  let night := priceNight args date args.chain
  let warnings :=
    if night.hasRate then acc.1 else acc.1 ++ [noRateWarning date args.roomTypeId]
  (warnings, acc.2 ++ [night])

def calculatePricing (args : CalculateArgs) : Except Failure PricingBreakdown :=
  if args.departure < args.arrival then .error (.internal "departure must be ≥ arrival")
  else
    let nights := startOfDayUTC args.departure - startOfDayUTC args.arrival
    let (warnings, nightly) := (List.range nights.toNat).foldl (pushNight args) ([], [])
    let subtotal := nightly.foldl (fun acc n => acc + n.price) 0
    .ok
      { ratePlanId := args.ratePlan.id
        roomTypeId := args.roomTypeId
        arrival := startOfDayUTC args.arrival
        departure := startOfDayUTC args.departure
        occupancy := args.occupancy
        baseOccupancy := args.baseOccupancy
        nights := nights
        currency := args.currency
        subtotal := subtotal
        totalPrice := subtotal
        nightly := nightly
        warnings := warnings }

/-! ## The price of a night -/

section Price

variable (args : CalculateArgs) (date : Day)

/-- A plan's own price for a night: of the occupancy asked for, of the base occupancy where the plan
prices occupancies, of the baseline. -/
inductive OwnPrice (plan : RatePlanLike) : Decimal → Prop
  | occupancy {price : Decimal} : args.rates plan.id args.roomTypeId date
        (if plan.occupancyPricing then args.occupancy else args.baseOccupancy) = some price →
      OwnPrice plan price
  | base {price : Decimal} : plan.occupancyPricing = true →
      args.rates plan.id args.roomTypeId date args.occupancy = none →
      args.rates plan.id args.roomTypeId date args.baseOccupancy = some price →
      OwnPrice plan price
  | baseline {price : Decimal} {f : RatePlanId → Day → Option Decimal} :
      (plan.occupancyPricing = true →
        args.rates plan.id args.roomTypeId date args.occupancy = none) →
      args.rates plan.id args.roomTypeId date args.baseOccupancy = none →
      args.fallback = some f → f plan.id date = some price →
      OwnPrice plan price

/-- A price before its rounding. -/
def RatePlanLike.modified (plan : RatePlanLike) (price : Decimal) : Decimal :=
  match plan.priceModifierType with
  | .percent => price + price * plan.priceModifierValue / 100
  | .absolute => price + plan.priceModifierValue

/-- One step down: a modifier of zero leaves the price, another one is rounded half up to two places
and not below zero. -/
def ModifiedTo (plan : RatePlanLike) (price result : Decimal) : Prop :=
  (plan.priceModifierValue = 0 ∧ result = price) ∨
    (plan.priceModifierValue ≠ 0 ∧
      ∃ rounded, RoundsTo 2 (plan.modified price) rounded ∧ result = max rounded 0)

/-- The steps down through the plans below a source, the nearest parent first. -/
inductive ModifiedDown : List RatePlanLike → Decimal → Decimal → Prop
  | here (price : Decimal) : ModifiedDown [] price price
  | step {below : List RatePlanLike} {plan : RatePlanLike} {base price result : Decimal} :
      ModifiedDown below base price → ModifiedTo plan price result →
      ModifiedDown (plan :: below) base result

/-- The price of the nearest plan of a chain with one of its own. -/
def ChainPrice (chain : List RatePlanLike) (price : Decimal) : Prop :=
  ∃ below source above base, chain = below ++ source :: above ∧
    (∀ plan ∈ below, ∀ p, ¬OwnPrice args date plan p) ∧
    OwnPrice args date source base ∧ ModifiedDown below base price

variable {args date}

theorem ownPrice_iff {plan : RatePlanLike} {price : Decimal} :
    OwnPrice args date plan price ↔ ∃ fallen, findOwn args date plan = some (price, fallen) := by
  constructor
  · intro h
    unfold findOwn
    cases h with
    | occupancy hown => exact ⟨false, by simp only [hown]⟩
    | base hon hown hbase =>
      have hne : args.occupancy ≠ args.baseOccupancy := by
        intro heq
        rw [heq, hbase] at hown
        cases hown
      exact ⟨true, by simp [hon, hown, hbase, hne]⟩
    | baseline hown hbase hfallback hprice =>
      refine ⟨false, ?_⟩
      by_cases hon : plan.occupancyPricing = true
      · simp [hon, hown hon, hbase, hfallback, hprice]
      · simp [hon, hbase, hfallback, hprice]
  · rintro ⟨fallen, h⟩
    unfold findOwn at h
    by_cases hon : plan.occupancyPricing = true
    · cases hown : args.rates plan.id args.roomTypeId date args.occupancy with
      | some own =>
        simp only [hon, if_true, hown, Option.some.injEq, Prod.mk.injEq] at h
        exact h.1 ▸ .occupancy (by rw [if_pos hon, hown])
      | none =>
        cases hbase : args.rates plan.id args.roomTypeId date args.baseOccupancy with
        | some base =>
          have hne : args.occupancy ≠ args.baseOccupancy := by
            intro heq
            rw [heq, hbase] at hown
            cases hown
          simp only [hon, if_true, hown, hbase, hne, Bool.true_and, decide_true, ne_eq,
            not_false_eq_true, Option.some.injEq, Prod.mk.injEq] at h
          exact h.1 ▸ .base hon hown hbase
        | none =>
          simp only [hon, if_true, hown, hbase, ite_self, Option.map_eq_some_iff,
            Option.bind_eq_some_iff, Prod.mk.injEq] at h
          obtain ⟨p, ⟨f, hf, hp⟩, rfl, -⟩ := h
          exact .baseline (fun _ => hown) hbase hf hp
    · cases hbase : args.rates plan.id args.roomTypeId date args.baseOccupancy with
      | some base =>
        simp only [hon, Bool.false_eq_true, if_false, hbase, Option.some.injEq, Prod.mk.injEq] at h
        exact h.1 ▸ .occupancy (by rw [if_neg hon, hbase])
      | none =>
        simp only [hon, Bool.false_eq_true, if_false, hbase, Bool.false_and,
          Option.map_eq_some_iff, Option.bind_eq_some_iff, Prod.mk.injEq] at h
        obtain ⟨p, ⟨f, hf, hp⟩, rfl, -⟩ := h
        exact .baseline (fun hon' => absurd hon' hon) hbase hf hp

theorem findOwn_eq_none {plan : RatePlanLike} :
    findOwn args date plan = none ↔ ∀ p, ¬OwnPrice args date plan p := by
  constructor
  · intro h p hp
    obtain ⟨_, hp⟩ := ownPrice_iff.mp hp
    rw [h] at hp
    cases hp
  · intro h
    cases hfound : findOwn args date plan with
    | none => rfl
    | some found => exact absurd (ownPrice_iff.mpr ⟨found.2, hfound⟩) (h found.1)

/-- **One step down is determined.** -/
theorem modifiedTo_iff {plan : RatePlanLike} {price result : Decimal} :
    ModifiedTo plan price result ↔ result = applyModifier price plan := by
  have hmodified : (match plan.priceModifierType with
      | .percent => price * (1 + plan.priceModifierValue / 100)
      | .absolute => price + plan.priceModifierValue) = plan.modified price := by
    unfold RatePlanLike.modified
    cases plan.priceModifierType with
    | percent => ring
    | absolute => rfl
  unfold ModifiedTo applyModifier
  dsimp only
  rw [hmodified]
  by_cases hv : plan.priceModifierValue = 0
  · simp [hv]
  have hmax : (if toDecimalPlaces (plan.modified price) 2 < 0 then (0 : ℚ)
      else toDecimalPlaces (plan.modified price) 2) =
        max (toDecimalPlaces (plan.modified price) 2) 0 := by
    rw [max_comm, max_def_lt']
  rw [if_neg hv, hmax]
  constructor
  · rintro (⟨h, -⟩ | ⟨-, rounded, hrounded, rfl⟩)
    · exact absurd h hv
    · rw [hrounded.unique (toDecimalPlaces_roundsTo _ 2)]
  · rintro rfl
    exact Or.inr ⟨hv, _, toDecimalPlaces_roundsTo _ 2, rfl⟩

theorem modifiedDown_iff {below : List RatePlanLike} {base price : Decimal} :
    ModifiedDown below base price ↔ price = below.reverse.foldl applyModifier base := by
  rw [List.foldl_reverse]
  induction below generalizing price with
  | nil =>
    constructor
    · rintro ⟨⟩
      rfl
    · rintro rfl
      exact .here _
  | cons plan below ih =>
    rw [List.foldr_cons]
    constructor
    · intro h
      cases h with
      | step hbelow hstep => rw [← ih.mp hbelow, modifiedTo_iff.mp hstep]
    · intro h
      exact .step (ih.mpr rfl) (modifiedTo_iff.mpr h)

theorem findInChain_eq_none {chain : List RatePlanLike} :
    findInChain args date chain = none ↔ ∀ plan ∈ chain, findOwn args date plan = none := by
  induction chain with
  | nil => simp [findInChain]
  | cons plan chain ih =>
    unfold findInChain
    cases hown : findOwn args date plan with
    | some found => simp [hown]
    | none => simp [hown, ih]

theorem findInChain_eq_some {chain : List RatePlanLike} {i : ℕ} {found : Decimal × Bool}
    (h : findInChain args date chain = some (i, found)) :
    ∃ source, chain[i]? = some source ∧ findOwn args date source = some found ∧
      ∀ plan ∈ chain.take i, findOwn args date plan = none := by
  induction chain generalizing i with
  | nil => cases h
  | cons plan chain ih =>
    unfold findInChain at h
    cases hown : findOwn args date plan with
    | some own =>
      simp only [hown, Option.some.injEq, Prod.mk.injEq] at h
      obtain ⟨rfl, rfl⟩ := h
      exact ⟨plan, rfl, hown, by simp⟩
    | none =>
      simp only [hown, Option.map_eq_some_iff, Prod.mk.injEq] at h
      obtain ⟨⟨j, own⟩, hj, rfl, rfl⟩ := h
      obtain ⟨source, hsource, hfound, hbelow⟩ := ih hj
      refine ⟨source, hsource, hfound, ?_⟩
      intro other hother
      rw [List.take_succ_cons, List.mem_cons] at hother
      rcases hother with rfl | hother
      · exact hown
      · exact hbelow other hother

/-- A night of a chain has its price, or none of its plans has one. -/
theorem priceNight_cases (args : CalculateArgs) (date : Day) (chain : List RatePlanLike) :
    ((priceNight args date chain).hasRate = true ∧
      ChainPrice args date chain (priceNight args date chain).price) ∨
    ((priceNight args date chain).hasRate = false ∧ (priceNight args date chain).price = 0 ∧
      ∀ plan ∈ chain, ∀ p, ¬OwnPrice args date plan p) := by
  unfold priceNight
  cases hfind : findInChain args date chain with
  | none => exact Or.inr ⟨rfl, rfl, fun plan hplan =>
      findOwn_eq_none.mp (findInChain_eq_none.mp hfind plan hplan)⟩
  | some found =>
    obtain ⟨i, base, fallen⟩ := found
    obtain ⟨source, hsource, hown, hbelow⟩ := findInChain_eq_some hfind
    obtain ⟨hi, hget⟩ := List.getElem?_eq_some_iff.mp hsource
    refine Or.inl ⟨rfl, chain.take i, source, chain.drop (i + 1), base, ?_, ?_, ?_, ?_⟩
    · rw [← hget, ← List.drop_eq_getElem_cons hi, List.take_append_drop]
    · exact fun plan hplan => findOwn_eq_none.mp (hbelow plan hplan)
    · exact ownPrice_iff.mpr ⟨fallen, hown⟩
    · exact modifiedDown_iff.mpr rfl

/-- A night has no rate if no plan of the chain has a price. -/
theorem priceNight_unpriced (chain : List RatePlanLike) :
    (priceNight args date chain).hasRate = false ↔
      ∀ plan ∈ chain, ∀ p, ¬OwnPrice args date plan p := by
  constructor
  · intro hrate
    rcases priceNight_cases args date chain with ⟨htrue, -⟩ | ⟨-, -, hnone⟩
    · rw [hrate] at htrue
      cases htrue
    · exact hnone
  · intro hnone
    rcases priceNight_cases args date chain with ⟨-, below, source, above, base, hchain, -, hown, -⟩ | h
    · have hmem : source ∈ chain := by rw [hchain]; simp
      exact absurd hown (hnone source hmem base)
    · exact h.1

theorem findInChain_append {below : List RatePlanLike} (source : RatePlanLike)
    (above : List RatePlanLike) {found : Decimal × Bool}
    (hbelow : ∀ plan ∈ below, findOwn args date plan = none)
    (hown : findOwn args date source = some found) :
    findInChain args date (below ++ source :: above) = some (below.length, found) := by
  induction below with
  | nil =>
    rw [List.nil_append, findInChain, hown]
    rfl
  | cons plan below ih =>
    have hplan := hbelow plan List.mem_cons_self
    have hrest := ih fun other hother => hbelow other (List.mem_cons_of_mem _ hother)
    rw [List.cons_append, findInChain, hplan, hrest]
    rfl

theorem ChainPrice.eq_price {chain : List RatePlanLike} {price : Decimal}
    (h : ChainPrice args date chain price) : price = (priceNight args date chain).price := by
  obtain ⟨below, source, above, base, rfl, hnone, hown, hdown⟩ := h
  obtain ⟨fallen, hfound⟩ := ownPrice_iff.mp hown
  have hfind := findInChain_append source above
    (fun plan hplan => findOwn_eq_none.mpr (hnone plan hplan)) hfound
  unfold priceNight
  rw [hfind]
  dsimp only
  rw [List.take_left, ← modifiedDown_iff]
  exact hdown

/-- **A night has one price.** -/
theorem ChainPrice.unique {chain : List RatePlanLike} {p q : Decimal}
    (hp : ChainPrice args date chain p) (hq : ChainPrice args date chain q) : p = q :=
  hp.eq_price.trans hq.eq_price.symm

end Price

/-! ## The price of a stay -/

/-- **What a stay costs**: an entry a night in order, their sum, the price of each of them, and a
warning for each night that no plan of the chain prices. -/
structure PricesStay (args : CalculateArgs) (q : PricingBreakdown) : Prop where
  ordered : (q.nightly.map (·.date)).Pairwise (· < ·)
  covers : ∀ date, date ∈ q.nightly.map (·.date) ↔
    dateOf args.arrival ≤ date ∧ date < dateOf args.departure
  total : q.totalPrice = (q.nightly.map (·.price)).sum
  priced : ∀ n ∈ q.nightly,
    (n.hasRate = true ∧ ChainPrice args n.date args.chain n.price) ∨
      (n.hasRate = false ∧ n.price = 0 ∧ ∀ plan ∈ args.chain, ∀ p, ¬OwnPrice args n.date plan p)
  warned : ∃ unpriced : List Day, unpriced.Sublist (q.nightly.map (·.date)) ∧
    (∀ date ∈ q.nightly.map (·.date),
      date ∈ unpriced ↔ ∀ plan ∈ args.chain, ∀ p, ¬OwnPrice args date plan p) ∧
    q.warnings = unpriced.map fun date => noRateWarning date args.roomTypeId

section Stay

variable (args : CalculateArgs)

/-- The night `i` of a stay. -/
def CalculateArgs.night (i : ℕ) : PricingNight :=
  priceNight args (addDays (startOfDayUTC args.arrival) (i : ℤ)) args.chain

variable {args}

theorem priceNight_date (date : Day) (chain : List RatePlanLike) :
    (priceNight args date chain).date = date := by
  unfold priceNight
  cases findInChain args date chain <;> rfl

theorem night_date (i : ℕ) : (args.night i).date = addDays (startOfDayUTC args.arrival) (i : ℤ) :=
  priceNight_date _ _

theorem foldl_pushNight (l : List ℕ) (acc : List String × List PricingNight) :
    l.foldl (pushNight args) acc =
      (acc.1 ++ ((l.map args.night).filter fun n => !n.hasRate).map
          (fun n => noRateWarning n.date args.roomTypeId),
        acc.2 ++ l.map args.night) := by
  induction l generalizing acc with
  | nil => simp
  | cons i l ih =>
    have hpush : pushNight args acc i =
        (if (args.night i).hasRate then acc.1
          else acc.1 ++ [noRateWarning (args.night i).date args.roomTypeId],
          acc.2 ++ [args.night i]) := by
      rw [night_date]
      rfl
    rw [List.foldl_cons, ih, hpush, List.map_cons]
    cases hrate : (args.night i).hasRate <;> simp [hrate]

theorem map_night_date (n : ℕ) : ((List.range n).map args.night).map (·.date) =
    (List.range n).map fun i : ℕ => startOfDayUTC args.arrival + (i : ℤ) := by
  rw [List.map_map]
  refine List.map_congr_left fun i _ => ?_
  rw [Function.comp_apply, night_date, addDays, startOfDayUTC, utcAddDays_utcDay]

theorem pairwise_nights (start : Day) (n : ℕ) :
    ((List.range n).map fun i : ℕ => start + (i : ℤ)).Pairwise (· < ·) := by
  rw [List.pairwise_map]
  refine List.pairwise_lt_range.imp ?_
  intro i j hij
  show start + (i : ℤ) < start + (j : ℤ)
  exact add_lt_add_right (Int.ofNat_lt.mpr hij) start

theorem mem_nights {start stop date : Day} :
    date ∈ ((List.range (stop - start).toNat).map fun i : ℕ => start + (i : ℤ)) ↔
      start ≤ date ∧ date < stop := by
  rw [List.mem_map]
  constructor
  · rintro ⟨i, hi, rfl⟩
    rw [List.mem_range, Int.lt_toNat] at hi
    exact ⟨le_add_of_nonneg_right (Int.natCast_nonneg i), by linarith⟩
  · rintro ⟨hle, hlt⟩
    have hcast : ((date - start).toNat : ℤ) = date - start := Int.toNat_of_nonneg (sub_nonneg.mpr hle)
    refine ⟨(date - start).toNat, ?_, ?_⟩
    · rw [List.mem_range, Int.lt_toNat, hcast]
      exact sub_lt_sub_right hlt start
    · rw [hcast]
      exact add_sub_cancel start date

/-- The nights of an answer are those between the dates read, and with the nights of the stay the
answer prices it. -/
theorem nightly_calculatePricing (h : args.arrival ≤ args.departure) :
    ∃ q, calculatePricing args = .ok q ∧
      (∀ date, date ∈ q.nightly.map (·.date) ↔
        startOfDayUTC args.arrival ≤ date ∧ date < startOfDayUTC args.departure) ∧
      ((∀ date, date ∈ q.nightly.map (·.date) ↔
        dateOf args.arrival ≤ date ∧ date < dateOf args.departure) → PricesStay args q) := by
  rw [calculatePricing, if_neg (not_lt.mpr h)]
  dsimp only
  rw [foldl_pushNight, List.nil_append, List.nil_append]
  refine ⟨_, rfl, ?_, fun hcovers => ⟨?_, hcovers, ?_, ?_, ?_⟩⟩
  · intro date
    rw [map_night_date]
    exact mem_nights
  · rw [map_night_date]
    exact pairwise_nights _ _
  · dsimp only
    rw [List.sum_eq_foldl]
    simp only [List.foldl_map]
  · intro n hn
    obtain ⟨i, -, rfl⟩ := List.mem_map.mp hn
    rw [night_date]
    exact priceNight_cases args _ args.chain
  · refine ⟨(((List.range (startOfDayUTC args.departure - startOfDayUTC args.arrival).toNat).map
        args.night).filter fun n => !n.hasRate).map (·.date), ?_, ?_, ?_⟩
    · exact List.filter_sublist.map _
    · intro date hdate
      have hnight : date ∈ (((List.range (startOfDayUTC args.departure -
          startOfDayUTC args.arrival).toNat).map args.night).filter fun n => !n.hasRate).map (·.date) ↔
          (priceNight args date args.chain).hasRate = false := by
        obtain ⟨n, hn, rfl⟩ := List.mem_map.mp hdate
        obtain ⟨i, hi, rfl⟩ := List.mem_map.mp hn
        simp only [List.mem_map, List.mem_filter, Bool.not_eq_true']
        constructor
        · rintro ⟨n, ⟨⟨j, -, rfl⟩, hrate⟩, hdate⟩
          rw [night_date, night_date] at hdate
          rw [night_date, ← hdate]
          exact hrate
        · intro hrate
          rw [night_date] at hrate
          exact ⟨args.night i, ⟨⟨i, hi, rfl⟩, hrate⟩, rfl⟩
      rw [hnight]
      exact priceNight_unpriced args.chain
    · rw [List.map_map]
      rfl

/-- A stay of no night, or one whose dates are not moved. -/
def CalculateArgs.DatesRead (args : CalculateArgs) : Prop :=
  dateOf args.arrival = dateOf args.departure ∨
    ¬Early (dateOf args.arrival) ∧ ¬Early (dateOf args.departure)

/-- Two rows of days are one if they have the same days. -/
theorem interval_eq {a c a' c' : ℤ} (hlt : a < c)
    (h : ∀ d : ℤ, a' ≤ d ∧ d < c' ↔ a ≤ d ∧ d < c) : a' = a ∧ c' = c := by
  have hfirst := (h a).mpr ⟨le_rfl, hlt⟩
  have hlast := (h (c - 1)).mpr ⟨Int.le_sub_one_of_lt hlt, sub_one_lt c⟩
  have hfirst' := (h a').mp ⟨le_rfl, hfirst.1.trans_lt hfirst.2⟩
  have hlast' := (h (c' - 1)).mp ⟨by omega, sub_one_lt c'⟩
  omega

/-- **What a stay costs is what the calculator answers** exactly if neither of its dates is one that
`Date.UTC` moves, or the stay has no night. -/
theorem pricesStay_iff {args : CalculateArgs} (h : args.arrival ≤ args.departure) :
    (∃ q, calculatePricing args = .ok q ∧ PricesStay args q) ↔ args.DatesRead := by
  obtain ⟨q, hq, hnights, hstay⟩ := nightly_calculatePricing h
  have hle : dateOf args.arrival ≤ dateOf args.departure := Int.ediv_le_ediv (by decide) h
  constructor
  · rintro ⟨q', hq', hprices⟩
    obtain rfl : q = q' := Except.ok.inj (hq.symm.trans hq')
    rcases hle.eq_or_lt with heq | hlt
    · exact Or.inl heq
    · have hsame : ∀ d, startOfDayUTC args.arrival ≤ d ∧ d < startOfDayUTC args.departure ↔
          dateOf args.arrival ≤ d ∧ d < dateOf args.departure := fun d =>
        (hnights d).symm.trans (hprices.covers d)
      obtain ⟨harr, hdep⟩ := interval_eq hlt hsame
      exact Or.inr ⟨utcDay_eq_iff.mp harr, utcDay_eq_iff.mp hdep⟩
  · intro hread
    refine ⟨q, hq, hstay fun date => ?_⟩
    rw [hnights, startOfDayUTC, startOfDayUTC]
    rcases hread with heq | ⟨harr, hdep⟩
    · rw [heq]
      exact iff_of_false (fun hd => not_lt.mpr hd.1 hd.2) fun hd => not_lt.mpr hd.1 hd.2
    · rw [utcDay_of_not_early harr, utcDay_of_not_early hdep]

/-- Three nights of a plan that takes 15 percent off its parent, which has prices for
two of them. -/
def lateStay : CalculateArgs where
  ratePlan := ⟨2, some 1, .percent, -15, true⟩
  parentChain := [⟨1, none, .absolute, 0, false⟩]
  arrival := startOf 100 + 1
  departure := startOf 103
  occupancy := 1
  baseOccupancy := 2
  roomTypeId := 7
  currency := "RUB"
  rates planId _ date occupancy :=
    if planId = 1 ∧ date = 100 ∧ occupancy = 2 then some 4999.9 else none
  fallback := some fun planId date => if planId = 2 ∧ date = 101 then some 3000 else none

theorem pricesStay_iff_lateStay : ∃ q, calculatePricing lateStay = .ok q ∧ PricesStay lateStay q :=
  (pricesStay_iff (by decide +kernel)).mpr (Or.inr ⟨by decide +kernel, by decide +kernel⟩)

example : (calculatePricing lateStay).map (fun q => (q.nightly.map (·.price), q.totalPrice)) =
    .ok ([4249.92, 3000, 0], 7249.92) := by decide +kernel

/-- The first two nights of the year 50. -/
def earlyStay : CalculateArgs :=
  { lateStay with arrival := startOf (-701265), departure := startOf (-701263) }

/-- **The first nights of the year 50** are priced as those of 1950. -/
theorem not_pricesStay_earlyStay :
    (isoDate (dateOf earlyStay.arrival), isoDate (dateOf earlyStay.departure)) =
        ("0050-01-01", "0050-01-03") ∧ earlyStay.arrival ≤ earlyStay.departure ∧
      (calculatePricing earlyStay).map (fun q => q.nightly.map fun n => isoDate n.date) =
        .ok ["1950-01-01", "1950-01-02"] ∧
      ¬∃ q, calculatePricing earlyStay = .ok q ∧ PricesStay earlyStay q := by
  have hle : earlyStay.arrival ≤ earlyStay.departure := by decide +kernel
  refine ⟨by decide +kernel, hle, by decide +kernel, ?_⟩
  rintro ⟨q, hq, hprices⟩
  obtain ⟨q', hq', hnights, -⟩ := nightly_calculatePricing hle
  obtain rfl : q = q' := Except.ok.inj (hq.symm.trans hq')
  have hfirst := (hnights (-701265)).mp ((hprices.covers (-701265)).mpr (by decide +kernel))
  exact absurd hfirst.1 (by decide +kernel)

end Stay

/-! ## Whole hundredths -/

section Hundredths

/-- A whole number of hundredths. -/
def ofHundredths (p : ℤ) : Decimal := p / 100

def exactPlan (plan : KarsHotel.RatePlanLike) : RatePlanLike where
  id := plan.id
  parentRatePlanId := plan.parentRatePlanId
  priceModifierType := plan.priceModifierType
  priceModifierValue := ofHundredths plan.priceModifierValue
  occupancyPricing := plan.occupancyPricing

def exactArgs (args : KarsHotel.CalculateArgs) : CalculateArgs where
  ratePlan := exactPlan args.ratePlan
  parentChain := args.parentChain.map exactPlan
  arrival := args.arrival
  departure := args.departure
  occupancy := args.occupancy
  baseOccupancy := args.baseOccupancy
  roomTypeId := args.roomTypeId
  currency := args.currency
  rates planId typeId date occupancy := (args.rates planId typeId date occupancy).map ofHundredths
  fallback := args.fallback.map fun f planId date => (f planId date).map ofHundredths

def exactNight (n : KarsHotel.PricingNight) : PricingNight where
  date := n.date
  price := ofHundredths n.price
  hasRate := n.hasRate
  occupancyFallback := n.occupancyFallback
  inheritedFromParent := n.inheritedFromParent
  sourceRatePlanId := n.sourceRatePlanId

def exactBreakdown (q : KarsHotel.PricingBreakdown) : PricingBreakdown where
  ratePlanId := q.ratePlanId
  roomTypeId := q.roomTypeId
  arrival := q.arrival
  departure := q.departure
  occupancy := q.occupancy
  baseOccupancy := q.baseOccupancy
  nights := q.nights
  currency := q.currency
  subtotal := ofHundredths q.subtotal
  totalPrice := ofHundredths q.totalPrice
  nightly := q.nightly.map exactNight
  warnings := q.warnings

theorem roundHalfUp_eq_round (a : ℤ) {b : ℕ} (hb : 0 < b) :
    roundHalfUp a b = round ((a : ℚ) / b) := by
  have hb' : (b : ℚ) ≠ 0 := by positivity
  have hhalf : (a : ℚ) / b + 1 / 2 = ((2 * a + b : ℤ) : ℚ) / ((2 * b : ℕ) : ℚ) := by
    push_cast
    field_simp
  rw [round_eq, hhalf, Rat.floor_intCast_div_natCast, roundHalfUp]
  push_cast
  rfl

theorem clamp_hundredths (y : ℚ) :
    (if toDecimalPlaces (y / 100) 2 < 0 then 0 else toDecimalPlaces (y / 100) 2) =
      ofHundredths (if round y < 0 then 0 else round y) := by
  by_cases hy : y < 0
  · have hx : y / 100 < 0 := div_neg_of_neg_of_pos hy (by norm_num)
    have hround : round y ≤ 0 := by
      rw [round_eq, ← Int.lt_add_one_iff, Int.floor_lt]
      push_cast
      linarith
    have hleft := toDecimalPlaces_nonpos 2 hx
    have hl : (if toDecimalPlaces (y / 100) 2 < 0 then 0 else toDecimalPlaces (y / 100) 2) = 0 := by
      by_cases h : toDecimalPlaces (y / 100) 2 < 0
      · rw [if_pos h]
      · rw [if_neg h]
        exact le_antisymm hleft (not_lt.mp h)
    have hr : (if round y < 0 then 0 else round y) = 0 := by
      by_cases h : round y < 0
      · rw [if_pos h]
      · rw [if_neg h]
        omega
    rw [hl, hr]
    norm_num [ofHundredths]
  · have hy' := not_lt.mp hy
    have hx : ¬y / 100 < 0 := not_lt.mpr (by positivity)
    have hround : 0 ≤ round y := by
      rw [round_eq, Int.floor_nonneg]
      linarith
    have hplaces : toDecimalPlaces (y / 100) 2 = ofHundredths (round y) := by
      rw [toDecimalPlaces, if_neg hx, ofHundredths]
      norm_num
    have hpos : ¬ofHundredths (round y) < 0 := by
      rw [ofHundredths, not_lt]
      exact div_nonneg (by exact_mod_cast hround) (by norm_num)
    rw [hplaces, if_neg hpos, if_neg (not_lt.mpr hround)]

theorem applyModifier_hundredths (p : Price) (plan : KarsHotel.RatePlanLike) :
    applyModifier (ofHundredths p) (exactPlan plan) =
      ofHundredths (KarsHotel.applyModifier p plan) := by
  have hzero : (exactPlan plan).priceModifierValue = 0 ↔ plan.priceModifierValue = 0 := by
    simp [exactPlan, ofHundredths]
  unfold applyModifier KarsHotel.applyModifier
  by_cases hv : plan.priceModifierValue = 0
  · rw [if_pos (hzero.mpr hv), if_pos hv]
  rw [if_neg (fun h => hv (hzero.mp h)), if_neg hv]
  cases htype : plan.priceModifierType with
  | percent =>
    have hy : ofHundredths p * (1 + (exactPlan plan).priceModifierValue / 100) =
        ((p * (10000 + plan.priceModifierValue) : ℤ) : ℚ) / (10000 : ℕ) / 100 := by
      simp only [exactPlan, ofHundredths]
      push_cast
      ring
    simp only [exactPlan, htype] at hy ⊢
    rw [hy, clamp_hundredths, ← roundHalfUp_eq_round _ (by norm_num)]
    rfl
  | absolute =>
    have hy : ofHundredths p + (exactPlan plan).priceModifierValue =
        ((p + plan.priceModifierValue : ℤ) : ℚ) / 100 := by
      simp only [exactPlan, ofHundredths]
      push_cast
      ring
    simp only [exactPlan, htype] at hy ⊢
    rw [hy, clamp_hundredths, round_intCast]

variable (args : KarsHotel.CalculateArgs) (date : Day)

theorem findOwn_hundredths (plan : KarsHotel.RatePlanLike) :
    findOwn (exactArgs args) date (exactPlan plan) =
      (ownPrice args.roomTypeId args.occupancy args.baseOccupancy args.rates args.fallback date
        plan).map fun own => (ofHundredths own.1, own.2) := by
  have hfallback : ((exactArgs args).fallback.bind fun f => f (exactPlan plan).id date) =
      (args.fallback.bind fun f => f plan.id date).map ofHundredths := by
    simp only [exactArgs]
    cases args.fallback <;> rfl
  have hrates : ∀ occupancy,
      (exactArgs args).rates (exactPlan plan).id (exactArgs args).roomTypeId date occupancy =
        (args.rates plan.id args.roomTypeId date occupancy).map ofHundredths := fun _ => rfl
  unfold findOwn ownPrice dailyPrice
  simp only [hfallback, hrates]
  by_cases hon : plan.occupancyPricing = true
  · have hon' : (exactPlan plan).occupancyPricing = true := hon
    have hocc : (exactArgs args).occupancy = args.occupancy := rfl
    have hbase : (exactArgs args).baseOccupancy = args.baseOccupancy := rfl
    simp only [hon, hon', if_true, Bool.true_and, decide_eq_true_eq, hocc, hbase]
    cases args.rates plan.id args.roomTypeId date args.occupancy with
    | some price => rfl
    | none =>
      by_cases hne : args.occupancy ≠ args.baseOccupancy
      · simp only [if_pos hne]
        cases args.rates plan.id args.roomTypeId date args.baseOccupancy with
        | some price => rfl
        | none => simp [Function.comp_def]
      · simp only [if_neg hne]
        simp [Function.comp_def]
  · have hon' : ¬(exactPlan plan).occupancyPricing = true := hon
    simp only [hon, hon', Bool.false_eq_true, if_false, Bool.false_and]
    simp only [exactArgs]
    cases args.rates plan.id args.roomTypeId date args.baseOccupancy with
    | some price => rfl
    | none => simp [Function.comp_def]

theorem findInChain_hundredths (chain : List KarsHotel.RatePlanLike) :
    findInChain (exactArgs args) date (chain.map exactPlan) =
      (KarsHotel.findInChain args.roomTypeId args.occupancy args.baseOccupancy args.rates
        args.fallback date chain).map fun found =>
          (found.1.length, ofHundredths found.2.2.1, found.2.2.2) := by
  induction chain with
  | nil => rfl
  | cons plan chain ih =>
    rw [List.map_cons, findInChain, KarsHotel.findInChain, findOwn_hundredths, ih]
    cases ownPrice args.roomTypeId args.occupancy args.baseOccupancy args.rates args.fallback date
      plan with
    | some own => rfl
    | none => simp [Function.comp_def]

/-- What the search returns is a split of the chain. -/
theorem findInChain_split {chain below : List KarsHotel.RatePlanLike}
    {source : KarsHotel.RatePlanLike} {rest : Price × Bool}
    (h : KarsHotel.findInChain args.roomTypeId args.occupancy args.baseOccupancy args.rates
      args.fallback date chain = some (below, source, rest)) :
    ∃ above, chain = below ++ source :: above := by
  induction chain generalizing below with
  | nil => cases h
  | cons plan chain ih =>
    unfold KarsHotel.findInChain at h
    cases hown : ownPrice args.roomTypeId args.occupancy args.baseOccupancy args.rates args.fallback
        date plan with
    | some own =>
      simp only [hown, Option.some.injEq, Prod.mk.injEq] at h
      obtain ⟨rfl, rfl, -⟩ := h
      exact ⟨chain, rfl⟩
    | none =>
      simp only [hown, Option.map_eq_some_iff, Prod.mk.injEq] at h
      obtain ⟨⟨below', source', rest'⟩, hfound, rfl, hrest⟩ := h
      obtain ⟨rfl, rfl⟩ := hrest
      obtain ⟨above, rfl⟩ := ih hfound
      exact ⟨above, rfl⟩

theorem foldr_hundredths (below : List KarsHotel.RatePlanLike) (base : Price) :
    (below.map exactPlan).foldr (fun plan price => applyModifier price plan) (ofHundredths base) =
      ofHundredths (below.foldr (fun plan price => KarsHotel.applyModifier price plan) base) := by
  induction below with
  | nil => rfl
  | cons plan below ih =>
    rw [List.map_cons, List.foldr_cons, List.foldr_cons, ih, applyModifier_hundredths]

theorem priceNight_hundredths (chain : List KarsHotel.RatePlanLike) :
    priceNight (exactArgs args) date (chain.map exactPlan) =
      exactNight (KarsHotel.priceNight args.roomTypeId args.occupancy args.baseOccupancy args.rates
        args.fallback date chain) := by
  unfold priceNight KarsHotel.priceNight
  rw [findInChain_hundredths]
  cases hfind : KarsHotel.findInChain args.roomTypeId args.occupancy args.baseOccupancy args.rates
      args.fallback date chain with
  | none => simp [exactNight, ofHundredths]
  | some found =>
    obtain ⟨below, source, base, fallen⟩ := found
    obtain ⟨above, rfl⟩ := findInChain_split args date hfind
    have htake : ((below ++ source :: above).map exactPlan).take below.length =
        below.map exactPlan := by
      rw [← List.map_take, List.take_left]
    have hget : ((below ++ source :: above).map exactPlan)[below.length]? =
        some (exactPlan source) := by
      simp
    simp only [Option.map_some, exactNight, htake, hget, List.foldl_reverse, foldr_hundredths]
    cases below <;> simp [exactPlan]

theorem foldl_price_hundredths (l : List KarsHotel.PricingNight) (acc : ℤ) :
    (l.map exactNight).foldl (fun acc n => acc + n.price) (ofHundredths acc) =
      ofHundredths (l.foldl (fun acc n => acc + n.price) acc) := by
  induction l generalizing acc with
  | nil => rfl
  | cons n l ih =>
    have hadd : ofHundredths acc + (exactNight n).price = ofHundredths (acc + n.price) := by
      simp only [exactNight, ofHundredths]
      push_cast
      ring
    rw [List.map_cons, List.foldl_cons, List.foldl_cons, hadd, ih]

theorem warnings_hundredths (l : List KarsHotel.PricingNight) (typeId : RoomTypeId) :
    ((l.map exactNight).filter fun n => !n.hasRate).map (fun n => noRateWarning n.date typeId) =
      (l.filter fun n => !n.hasRate).map fun n => noRateWarning n.date typeId := by
  rw [List.filter_map, List.map_map]
  rfl

/-- **On hundredths** the calculator is the one of whole hundredths. -/
theorem calculatePricing_hundredths :
    calculatePricing (exactArgs args) =
      (KarsHotel.calculatePricing args).map exactBreakdown := by
  by_cases h : args.departure < args.arrival
  · have h' : (exactArgs args).departure < (exactArgs args).arrival := h
    rw [calculatePricing, KarsHotel.calculatePricing, if_pos h, if_pos h']
    rfl
  have h' : ¬(exactArgs args).departure < (exactArgs args).arrival := h
  have hnightly : (List.range (startOfDayUTC args.departure - startOfDayUTC args.arrival).toNat).map
      (exactArgs args).night = (args.dates.map fun date =>
        KarsHotel.priceNight args.roomTypeId args.occupancy args.baseOccupancy args.rates
          args.fallback date (args.ratePlan :: args.parentChain)).map exactNight := by
    rw [CalculateArgs.dates, List.map_map, List.map_map]
    exact List.map_congr_left fun i _ => priceNight_hundredths args
      (addDays (startOfDayUTC args.arrival) (i : ℤ)) (args.ratePlan :: args.parentChain)
  have hdeparture : (exactArgs args).departure = args.departure := rfl
  have harrival : (exactArgs args).arrival = args.arrival := rfl
  have hzero : (0 : Decimal) = ofHundredths 0 := by norm_num [ofHundredths]
  rw [calculatePricing, KarsHotel.calculatePricing, if_neg h, if_neg h']
  dsimp only
  rw [foldl_pushNight, List.nil_append, List.nil_append]
  dsimp only
  rw [hdeparture, harrival, hnightly, hzero, foldl_price_hundredths, warnings_hundredths]
  simp only [Except.map, exactBreakdown]
  rfl

end Hundredths

end KarsHotel.Exact
