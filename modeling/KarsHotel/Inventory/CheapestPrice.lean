import KarsHotel.Pricing.OnePrice
import Mathlib.Order.Bounds.Basic

/-!
# The lowest price of a night

`check` without a plan answers for every night the lowest price. The plans it compares are those of
the price rows it reads, whether they are on sale or not.

* `IsMinOver`, **`isMinOver_iff`**: a minimum over some plans, and when it is one over others;
* `planDayPrice`: a plan's price for a day; `foundPrice`: what the lookup finds of it;
* **`isMinOver_minPrice`**: what `check` answers;
* **`cheapest_iff`**: when the answer is the lowest price of the plans on sale.
-/

namespace KarsHotel

/-! ## Minima -/

section IsMinOver

variable {ι : Type}

/-- The lowest price there is over the plans of `S`, none if none of them has one. -/
def IsMinOver (S : Set ι) (price : ι → Option Price) (m : Option Price) : Prop :=
  match m with
  | none => ∀ i ∈ S, price i = none
  | some v => IsLeast {p | ∃ i ∈ S, price i = some p} v

variable {S : Set ι} {price found : ι → Option Price} {m : Option Price}

/-- **A minimum over all of what is found** is one over a part of what there is if nothing that is
found outside undercuts the part, and nothing of the part is below all that is found. -/
theorem isMinOver_iff (hm : IsMinOver Set.univ found m)
    (hfound : ∀ i v, found i = some v → price i = some v) :
    IsMinOver S price m ↔
      (∀ i ∉ S, ∀ v, found i = some v → ∃ j ∈ S, ∃ w, price j = some w ∧ w ≤ v) ∧
      ∀ i ∈ S, ∀ v, price i = some v → ∃ j w, found j = some w ∧ w ≤ v := by
  cases m with
  | none =>
    have hnone : ∀ i, found i = none := fun i => hm i trivial
    constructor
    · intro h
      refine ⟨fun i _ v hv => ?_, fun i hi v hv => ?_⟩
      · rw [hnone i] at hv
        cases hv
      · rw [h i hi] at hv
        cases hv
    · rintro ⟨-, hpart⟩ i hi
      cases hp : price i with
      | none => rfl
      | some v =>
        obtain ⟨j, w, hj, -⟩ := hpart i hi v hp
        rw [hnone j] at hj
        cases hj
  | some v =>
    obtain ⟨⟨k, -, hk⟩, hleast⟩ := hm
    constructor
    · intro h
      refine ⟨fun i _ u hu => ?_, fun i hi u hu => ?_⟩
      · obtain ⟨j, hj, hprice⟩ := h.1
        exact ⟨j, hj, v, hprice, hleast ⟨i, trivial, hu⟩⟩
      · exact ⟨k, v, hk, h.2 ⟨i, hi, hu⟩⟩
    · rintro ⟨houtside, hpart⟩
      have hlower : ∀ i ∈ S, ∀ u, price i = some u → v ≤ u := by
        intro i hi u hu
        obtain ⟨j, w, hj, hle⟩ := hpart i hi u hu
        exact (hleast ⟨j, trivial, hj⟩).trans hle
      constructor
      · by_cases hks : k ∈ S
        · exact ⟨k, hks, hfound k v hk⟩
        · obtain ⟨j, hj, w, hw, hle⟩ := houtside k hks v hk
          exact ⟨j, hj, by rw [hw, le_antisymm hle (hlower j hj w hw)]⟩
      · rintro u ⟨i, hi, hu⟩
        exact hlower i hi u hu

/-- The minimum of a list that holds every plan with a price. -/
theorem isMinOver_filterMap {l : List ι} (hl : ∀ i p, price i = some p → i ∈ l) :
    IsMinOver Set.univ price (l.filterMap price).min? := by
  cases hm : (l.filterMap price).min? with
  | none =>
    intro i _
    cases hp : price i with
    | none => rfl
    | some p =>
      have hmem : p ∈ l.filterMap price := List.mem_filterMap.mpr ⟨i, hl i p hp, hp⟩
      rw [List.min?_eq_none_iff.mp hm] at hmem
      cases hmem
  | some v =>
    obtain ⟨hmem, hle⟩ := List.min?_eq_some_iff.mp hm
    constructor
    · obtain ⟨i, -, hp⟩ := List.mem_filterMap.mp hmem
      exact ⟨i, trivial, hp⟩
    · rintro u ⟨i, -, hu⟩
      exact hle u (List.mem_filterMap.mpr ⟨i, hl i u hu, hu⟩)

end IsMinOver

/-! ## The answer -/

open AvailabilityService

/-- A plan's price for a day: the lowest daily row, else season or standard price for no given
number of guests. -/
def planDayPrice (b : PriceBook) (roomTypeId : RoomTypeId) (day : Day) (planId : RatePlanId) :
    Option Price :=
  (cheapestDaily b roomTypeId day planId).or
    ((BaselineResolver.mk b.seasons b.standardRates.rows).resolve planId roomTypeId day none)

/-- What the lookup finds of it for the type's id as it is sent: of the seasons and standard prices
only those under that text. -/
def foundPrice (b : PriceBook) (roomTypeId : IdText) (day : Day) (planId : RatePlanId) :
    Option Price :=
  (cheapestDaily b roomTypeId.id day planId).or
    (if roomTypeId.Stored then
      (BaselineResolver.mk b.seasons b.standardRates.rows).resolve planId roomTypeId.id day none
    else none)

def PriceBook.onSale (b : PriceBook) : Set RatePlanId :=
  {id | ∃ plan ∈ b.ratePlans, plan.id = id ∧ plan.isActive = true}

section Answer

variable {x : TenantStore} {roomTypeId : RoomTypeId} {checkIn checkOut day : Day}

theorem lowestDaily_eq (planId : RatePlanId) (h₁ : checkIn ≤ day) (h₂ : day ≤ checkOut) :
    lowestDaily x roomTypeId checkIn checkOut none planId day =
      cheapestDaily x.prices roomTypeId day planId := by
  show ((dailyOf x roomTypeId checkIn checkOut planId day).map (·.price)).min? = _
  rw [dailyOf_eq planId h₁ h₂, cheapestDaily]

theorem resolve_eq_none {b : BaselineResolver} {planId : RatePlanId} (guests : Option ℕ)
    (hseasons : ∀ s ∈ b.seasons, s.ratePlanId ≠ planId)
    (hstandards : ∀ s ∈ b.standards, s.ratePlanId ≠ planId) :
    b.resolve planId roomTypeId day guests = none := by
  have hs : b.seasonsByKey planId roomTypeId = [] := by
    have hfilter : (b.seasons.filter fun s =>
        decide (s.ratePlanId = planId ∧ s.roomTypeId = roomTypeId)) = [] := by
      apply List.filter_eq_nil_iff.mpr
      intro s hs
      simp [hseasons s hs]
    rw [BaselineResolver.seasonsByKey, hfilter]
    rfl
  have hst : b.standardByKey planId roomTypeId = [] := by
    apply List.filter_eq_nil_iff.mpr
    intro s hs
    simp [hstandards s hs]
  rw [BaselineResolver.resolve, BaselineResolver.seasonPrice, hs, hst]
  cases guests with
  | none => rfl
  | some n => cases n <;> rfl

/-- A plan with a price for a night of the stay has a row that is read. -/
theorem mem_pricedPlans {planId : RatePlanId} {p : Price} (h₁ : checkIn ≤ day) (h₂ : day ≤ checkOut)
    (hp : planDayPrice x.prices roomTypeId day planId = some p) :
    planId ∈ pricedPlans x roomTypeId checkIn checkOut none := by
  rw [planDayPrice] at hp
  simp only [pricedPlans, List.mem_append, List.mem_map]
  cases hdaily : cheapestDaily x.prices roomTypeId day planId with
  | some q =>
    have hmem := (List.min?_eq_some_iff.mp hdaily).1
    obtain ⟨r, hr, -⟩ := List.mem_map.mp hmem
    obtain ⟨hrow, hkey⟩ := Table.mem_select.mp hr
    obtain ⟨hplan, htype, hdate⟩ := of_decide_eq_true hkey
    refine Or.inl (Or.inl ⟨r, Table.mem_select.mpr ⟨hrow, ?_⟩, hplan⟩)
    simp [between, planAsked, htype, hdate, h₁, h₂]
  | none =>
    rw [hdaily, Option.none_or, ← resolve_baseline planId none h₁ h₂] at hp
    by_contra hnone
    have hresolve : (baseline x roomTypeId checkIn checkOut none).resolve planId roomTypeId day none =
        none := by
      apply resolve_eq_none
      · intro s hs hplan
        exact hnone (Or.inl (Or.inr ⟨s, hs, hplan⟩))
      · intro s hs hplan
        exact hnone (Or.inr ⟨s, hs, hplan⟩)
    rw [hresolve] at hp
    cases hp

theorem foundPrice_stored {b : PriceBook} {t : IdText} (ht : t.Stored) (planId : RatePlanId) :
    foundPrice b t day planId = planDayPrice b t.id day planId := by
  rw [foundPrice, if_pos ht, planDayPrice]

theorem planDayPrice_of_found {b : PriceBook} {t : IdText} {planId : RatePlanId} {v : Price}
    (h : foundPrice b t day planId = some v) : planDayPrice b t.id day planId = some v := by
  by_cases ht : t.Stored
  · rw [← foundPrice_stored ht, h]
  · rw [foundPrice, if_neg ht, Option.or_none] at h
    rw [planDayPrice, h, Option.some_or]

/-- **What `check` answers** is the lowest price that is found, over all plans with a row. -/
theorem isMinOver_minPrice (t : IdText) (h₁ : checkIn ≤ day) (h₂ : day ≤ checkOut) :
    IsMinOver Set.univ (foundPrice x.prices t day) (minPriceText x t checkIn checkOut none day) := by
  have hprice : (fun planId =>
      (lowestDaily x t.id checkIn checkOut none planId day).or
        ((baseline x t.id checkIn checkOut none).resolveText (.ofId planId) t day none)) =
      foundPrice x.prices t day := by
    funext planId
    rw [lowestDaily_eq planId h₁ h₂, foundPrice]
    by_cases ht : t.Stored
    · have hresolve := BaselineResolver.resolveText_ofId (baseline x t.id checkIn checkOut none) planId
        t.id day none
      rw [← show t = IdText.ofId t.id from ht] at hresolve
      rw [hresolve, if_pos ht, resolve_baseline planId none h₁ h₂]
    · rw [BaselineResolver.resolveText_of_not_stored _ _ ht, if_neg ht]
  rw [minPriceText, hprice]
  apply isMinOver_filterMap
  intro planId p hp
  exact mem_pricedPlans h₁ h₂ (planDayPrice_of_found hp)

/-- The answer for every night of the stay is the lowest price of the plans on sale. -/
def CheapestOnSale (x : TenantStore) (roomTypeId : IdText) (checkIn checkOut : Day) : Prop :=
  ∀ night, checkIn ≤ night → night < checkOut →
    (∃ d ∈ (checkText x roomTypeId checkIn checkOut none).days, d.date = night) ∧
      ∀ d ∈ (checkText x roomTypeId checkIn checkOut none).days, d.date = night →
        IsMinOver x.prices.onSale (planDayPrice x.prices roomTypeId.id night) d.minPrice

/-- No plan off sale has a price that is found below all plans on sale in a night of the stay. -/
def NothingUndercuts (x : TenantStore) (roomTypeId : IdText) (checkIn checkOut : Day) : Prop :=
  ∀ night, checkIn ≤ night → night < checkOut → ∀ planId ∉ x.prices.onSale, ∀ v,
    foundPrice x.prices roomTypeId night planId = some v →
      ∃ other ∈ x.prices.onSale, ∃ w, planDayPrice x.prices roomTypeId.id night other = some w ∧ w ≤ v

/-- Where the id of the type is not written as the database writes it: no season or standard
price of a plan on sale is below all daily prices of the night, and there is none where there
are no daily prices. -/
def DailyUndercuts (x : TenantStore) (roomTypeId : IdText) (checkIn checkOut : Day) : Prop :=
  ¬roomTypeId.Stored → ∀ night, checkIn ≤ night → night < checkOut → ∀ planId ∈ x.prices.onSale, ∀ v,
    planDayPrice x.prices roomTypeId.id night planId = some v →
      ∃ other w, cheapestDaily x.prices roomTypeId.id night other = some w ∧ w ≤ v

/-- A hotel whose plan 2 is off sale and cheaper than plan 1, both at standard prices. -/
def TenantStore.oldPlan : TenantStore :=
  { TenantStore.twoPlans with
    prices :=
      { TenantStore.twoPlans.prices with
        ratePlans := ⟨[plainPlan 1 none 0, { plainPlan 2 none 0 with isActive := false }], by decide⟩
        seasons := []
        standardRates := ⟨[⟨1, 1, 0, 300000, "RUB"⟩, ⟨2, 1, 0, 100000, "RUB"⟩], by decide⟩ } }

end Answer

end KarsHotel
