import KarsHotel.Pricing.Store
import KarsHotel.Reservations.Service

/-!
# Inventory

The rooms of a type counted by day: how many are sold, booked and blocked, beside the reservations
themselves.

* `Inventory`, `Restriction`: the rows; `TenantStore`: all that the offers of a hotel read;
* `computeAvailable`, `roomCount`, `bulkUpdate`: the service.
-/

namespace KarsHotel

/-- The rooms of a type on one day. -/
structure Inventory where
  roomTypeId : RoomTypeId
  date : Day
  totalRooms : ℕ
  bookedRooms : ℕ
  blockedRooms : ℕ
  stopSell : Bool
  deriving DecidableEq, Repr

/-- The unique index of inventory rows. -/
def Inventory.key (r : Inventory) : RoomTypeId × Day := (r.roomTypeId, r.date)

/-- The booking rules of a type on one day; without a plan they are those of every plan. -/
structure Restriction where
  ratePlanId : Option RatePlanId
  roomTypeId : RoomTypeId
  date : Day
  closed : Bool
  cta : Bool
  ctd : Bool
  stopSell : Bool
  minLos : Option ℕ
  maxLos : Option ℕ
  minLosArrival : Option ℕ
  maxLosArrival : Option ℕ
  minAdvance : Option ℕ
  maxAdvance : Option ℕ
  deriving DecidableEq, Repr

/-- The reservations, prices, inventory and restrictions of one hotel. -/
structure TenantStore where
  hotel : Hotel
  prices : PriceBook
  inventory : Table Inventory.key
  restrictions : List Restriction

namespace InventoryService

/-- The rooms left to sell. -/
def computeAvailable (totalRooms bookedRooms blockedRooms : ℕ) : ℕ :=
  totalRooms - bookedRooms - blockedRooms

/-- The active rooms of a type. -/
def roomCount (h : Hotel) (roomTypeId : RoomTypeId) : ℕ :=
  (h.rooms.select fun r => decide (r.roomTypeId = roomTypeId) && r.isActive).length

structure BulkUpdateRow where
  date : IsoDate
  totalRooms : Option ℕ
  blockedRooms : Option ℕ
  stopSell : Option Bool

def BulkUpdateRow.day (row : BulkUpdateRow) : Day := dateOf (parseISO row.date)

/-- The row a new day gets: no room of it is booked. -/
def BulkUpdateRow.create (row : BulkUpdateRow) (roomTypeId : RoomTypeId) (roomCount : ℕ) :
    Inventory where
  roomTypeId := roomTypeId
  date := row.day
  totalRooms := row.totalRooms.getD roomCount
  bookedRooms := 0
  blockedRooms := row.blockedRooms.getD 0
  stopSell := row.stopSell.getD false

/-- The fields sent replace those stored. -/
def BulkUpdateRow.update (row : BulkUpdateRow) (r : Inventory) : Inventory :=
  { r with
    totalRooms := row.totalRooms.getD r.totalRooms
    blockedRooms := row.blockedRooms.getD r.blockedRooms
    stopSell := row.stopSell.getD r.stopSell }

/-- One `upsert`. -/
def upsert (roomTypeId : RoomTypeId) (roomCount : ℕ) (t : Table Inventory.key)
    (row : BulkUpdateRow) : Table Inventory.key :=
  match t.find (roomTypeId, row.day) with
  | some _ => t.modify (roomTypeId, row.day) row.update
  | none => t.insert (row.create roomTypeId roomCount)

def roomTypeNotFound : Failure := .notFound "Категория номеров не найдена"

/-- Set the counts of some days; `bookedRooms` is the reservations' own. -/
def bulkUpdate (roomTypeId : RoomTypeId) (rows : List BulkUpdateRow) (x : TenantStore) :
    Except Failure (ℕ × TenantStore) :=
  match x.prices.roomTypes.find roomTypeId with
  | none => .error roomTypeNotFound
  | some _ =>
    let count := roomCount x.hotel roomTypeId
    .ok (rows.length, { x with inventory := rows.foldl (upsert roomTypeId count) x.inventory })

end InventoryService

end KarsHotel
