import KarsHotel.Inventory.Inventory
import KarsHotel.Lib.Run
import KarsHotel.Rates.Service
import KarsHotel.Reservations.Deeds

/-!
# Hotels beside each other

The stores of several hotels in one database. Row-level security confines what a hotel reads and
writes to its own rows; the foreign keys are not confined.

* `RestrictionsController.upsert`: a row of restrictions;
* `HotelsData`, `HotelsData.elsewhere`: the hotels, and what a foreign key finds of the others;
* `ReferenceCall`, `HotelsData.step`: a call of one hotel;
* `TenantStore.RefersInside`: the references of a hotel stay inside it.
-/

namespace KarsHotel

/-! ## Restrictions -/

structure UpsertRestrictionDto where
  ratePlanId : Option RatePlanId
  roomTypeId : RoomTypeId
  date : Day
  closed : Option Bool
  cta : Option Bool
  ctd : Option Bool
  stopSell : Option Bool
  minLos : Option ℕ
  maxLos : Option ℕ
  minLosArrival : Option ℕ
  maxLosArrival : Option ℕ
  minAdvance : Option ℕ
  maxAdvance : Option ℕ

def UpsertRestrictionDto.row (dto : UpsertRestrictionDto) : Restriction where
  ratePlanId := dto.ratePlanId
  roomTypeId := dto.roomTypeId
  date := dto.date
  closed := dto.closed.getD false
  cta := dto.cta.getD false
  ctd := dto.ctd.getD false
  stopSell := dto.stopSell.getD false
  minLos := dto.minLos
  maxLos := dto.maxLos
  minLosArrival := dto.minLosArrival
  maxLosArrival := dto.maxLosArrival
  minAdvance := dto.minAdvance
  maxAdvance := dto.maxAdvance

/-- The rows of one plan, type and day. -/
def Restriction.sameKey (a b : Restriction) : Bool :=
  decide (a.ratePlanId = b.ratePlanId ∧ a.roomTypeId = b.roomTypeId ∧ a.date = b.date)

namespace RestrictionsController

/-- The first row of the key is written over. -/
def writeFirst (row : Restriction) : List Restriction → List Restriction
  | [] => []
  | r :: rows => if r.sameKey row then row :: rows else r :: writeFirst row rows

open RatePlansService (foreignKeyViolation)

/-- Create or update a row; only a new one meets the foreign key to the plan, and there is none to
the room type. -/
def upsert (elsewhere : OtherHotels) (x : TenantStore) (dto : UpsertRestrictionDto) :
    Except Failure TenantStore :=
  if x.restrictions.any (·.sameKey dto.row) then
    .ok { x with restrictions := writeFirst dto.row x.restrictions }
  else if dto.ratePlanId.all (RatesService.planExists elsewhere x.prices) then
    .ok { x with restrictions := x.restrictions ++ [dto.row] }
  else .error foreignKeyViolation

end RestrictionsController

/-! ## The hotels -/

structure HotelsData where
  tenants : List TenantId
  store : TenantId → TenantStore

namespace HotelsData

variable (s : HotelsData)

/-- The rows of the other hotels that a foreign key finds. -/
def elsewhere (tenantId : TenantId) : OtherHotels where
  ratePlans id := s.tenants.any fun t =>
    decide (t ≠ tenantId) && ((s.store t).prices.ratePlans.find id).isSome
  roomTypes id := s.tenants.any fun t =>
    decide (t ≠ tenantId) && ((s.store t).prices.roomTypes.find id).isSome

def setStore (tenantId : TenantId) (x : TenantStore) : HotelsData :=
  { s with store := fun t => if t = tenantId then x else s.store t }

theorem store_setStore_self (tenantId : TenantId) (x : TenantStore) :
    (s.setStore tenantId x).store tenantId = x := if_pos rfl

theorem store_setStore_of_ne {tenantId t : TenantId} (x : TenantStore) (h : t ≠ tenantId) :
    (s.setStore tenantId x).store t = s.store t := if_neg h

end HotelsData

/-! ## Calls -/

inductive ReferenceCall where
  | prices (op : RatesOp)
  | restriction (dto : UpsertRestrictionDto)
  | createPlan (dir : PartnerDirectory) (id : RatePlanId) (dto : CreateRatePlanDto)
  | updatePlan (dir : PartnerDirectory) (id : RatePlanId) (dto : UpdateRatePlanDto)
  | reservation (op : Op)

section Calls

variable (own : DirectoryOwners)

/-- What a call answers, in the context of its hotel. -/
def ReferenceCall.exec (elsewhere : OtherHotels) (x : TenantStore) :
    ReferenceCall → Except Failure TenantStore
  | prices op => (op.exec elsewhere x.prices).map fun b => { x with prices := b }
  | restriction dto => RestrictionsController.upsert elsewhere x dto
  | createPlan dir id dto =>
    (RatePlansService.create own elsewhere.ratePlans dir x.prices.ratePlans id dto).map fun plans =>
      { x with prices := { x.prices with ratePlans := plans } }
  | updatePlan dir id dto =>
    (RatePlansService.update own elsewhere.ratePlans dir x.prices.ratePlans id dto).map fun plans =>
      { x with prices := { x.prices with ratePlans := plans } }
  | reservation op => .ok { x with hotel := KarsHotel.step x.hotel op }

/-- The hotels after a call of one of them; a refused one leaves them as they were. -/
def HotelsData.step (s : HotelsData) (c : TenantId × ReferenceCall) : HotelsData :=
  match c.2.exec own (s.elsewhere c.1) (s.store c.1) with
  | .ok x => s.setStore c.1 x
  | .error _ => s

end Calls

/-! ## The rule -/

def PriceBook.HasPlan (b : PriceBook) (id : RatePlanId) : Prop := ∃ p ∈ b.ratePlans, p.id = id

def PriceBook.HasType (b : PriceBook) (id : RoomTypeId) : Prop := ∃ t ∈ b.roomTypes, t.id = id

/-- **The references of a hotel stay inside it.** -/
structure TenantStore.RefersInside (x : TenantStore) : Prop where
  rates : ∀ r ∈ x.prices.rates, x.prices.HasPlan r.ratePlanId ∧ x.prices.HasType r.roomTypeId
  seasons : ∀ r ∈ x.prices.seasons, x.prices.HasPlan r.ratePlanId ∧ x.prices.HasType r.roomTypeId
  standardRates : ∀ r ∈ x.prices.standardRates,
    x.prices.HasPlan r.ratePlanId ∧ x.prices.HasType r.roomTypeId
  restrictions : ∀ r ∈ x.restrictions,
    (∀ id, r.ratePlanId = some id → x.prices.HasPlan id) ∧ x.prices.HasType r.roomTypeId
  parents : ∀ p ∈ x.prices.ratePlans, ∀ id, p.parentRatePlanId = some id → x.prices.HasPlan id
  reservations : ∀ b ∈ x.hotel.reservations, (∃ r ∈ x.hotel.rooms, r.id = b.roomId) ∧
    ∀ id, b.ratePlanId = some id → x.prices.HasPlan id

end KarsHotel
