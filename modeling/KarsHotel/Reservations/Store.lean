import KarsHotel.Lib.Table
import KarsHotel.Lib.Transaction
import KarsHotel.Reservations.RoomPlaces
import KarsHotel.Values
import Mathlib.Data.Int.Interval

/-!
# The reservation store of one hotel

The rows a tenant's session sees: rooms, reservations and folios, with the hotel's `multiPlace`
switch.

* `Reservation`, `Room`, `Folio`: the rows; `Hotel`: the tables;
* `overlapping`: the stays of a room on some dates, as the place rule reads them;
* `hotelDb`: the store as a database with row locks and the advisory lock of a partner's key.
-/

namespace KarsHotel

abbrev ReservationId := ℕ
abbrev RoomId := ℕ
abbrev RoomTypeId := ℕ
abbrev RatePlanId := ℕ
abbrev PartnerId := ℕ

inductive ReservationStatus where
  | new
  | confirmed
  | checkedIn
  | checkedOut
  | cancelled
  | noShow
  deriving DecidableEq, Repr

inductive ReservationSource where
  | direct
  | phone
  | online
  | ota
  | corporate
  deriving DecidableEq, Repr

inductive GuestKind where
  | crew
  | disruption
  deriving DecidableEq, Repr

inductive RoomStatus where
  | dirty
  | cleaning
  | inspected
  | clean
  | ready
  | outOfOrder
  | outOfService
  deriving DecidableEq, Repr

structure Room where
  id : RoomId
  roomTypeId : RoomTypeId
  capacity : ℕ
  isActive : Bool
  status : RoomStatus
  deriving DecidableEq, Repr

/-- A row of `reservation`. Prices are in kopecks. -/
structure Reservation extends Guests where
  id : ReservationId
  roomId : RoomId
  roomTypeId : RoomTypeId
  guestName : String
  phone : Option String
  email : Option String
  checkIn : Day
  checkOut : Day
  status : ReservationStatus
  source : ReservationSource
  notes : Option String
  totalPrice : Option ℤ
  ratePlanId : Option RatePlanId
  placeNumber : ℕ
  channelManaged : Bool
  partnerId : Option PartnerId
  partnerIdempotencyKey : Option String
  partnerPayloadHash : Option String
  guestKind : Option GuestKind
  version : ℕ
  arrivalAt : Option String
  departureAt : Option String
  flight : Option String
  checkedInAt : Option Moment
  checkedOutAt : Option Moment
  deriving DecidableEq, Repr

inductive PaymentType where
  | payment
  | refund
  deriving DecidableEq, Repr

/-- The folio of a reservation: the totals of its charges and its payments, in kopecks. -/
structure Folio where
  reservationId : ReservationId
  charges : List ℤ
  payments : List (PaymentType × ℤ)
  deriving DecidableEq, Repr

/-- The tables of one hotel. -/
structure Hotel where
  multiPlaceEnabled : Bool
  rooms : Table Room.id
  reservations : Table Reservation.id
  folios : Table Folio.reservationId

/-! ## Stays -/

namespace Reservation

/-- A reservation that holds its place: neither cancelled nor a no-show. -/
def Live (r : Reservation) : Prop := r.status ≠ .cancelled ∧ r.status ≠ .noShow

instance (r : Reservation) : Decidable r.Live := by unfold Live; infer_instance

/-- The nights of the stay: `[checkIn, checkOut)`. -/
def nights (r : Reservation) : Finset Day :=
  -- the order of the integers by name: Mathlib also derives it from a noncomputable one
  @Finset.Ico Day instLatticeInt.toSemilatticeInf.toPartialOrder.toPreorder _ r.checkIn r.checkOut

/-- The places `[placeNumber, placeNumber + n - 1]` of a party of `n` in a room sold by places. -/
def span (r : Reservation) : Finset ℕ :=
  Finset.Ico r.placeNumber (r.placeNumber + placesOf r.toGuests 0 true)

def placeHolder (r : Reservation) : PlaceHolder := ⟨r.toGuests, r.placeNumber⟩

theorem places_placeHolder (r : Reservation) (c : ℕ) : r.placeHolder.places c = r.span := rfl

end Reservation

/-- The checks of the table on the dates and the adults. -/
def Reservation.checked (r : Reservation) : Bool :=
  decide (r.checkIn < r.checkOut) && decide (1 ≤ r.adults)

/-- A room apart from its status, which departures and housekeeping set. -/
def Room.fixed (r : Room) : Room := { r with status := .ready }

namespace Hotel

/-- The stays of room `roomId` that meet `[checkIn, checkOut)`, without `excludeId`. -/
def overlappingRows (h : Hotel) (roomId : RoomId) (checkIn checkOut : Day)
    (excludeId : Option ReservationId) : List Reservation :=
  h.reservations.select fun r => decide (r.roomId = roomId) && decide (some r.id ≠ excludeId) &&
    decide (r.checkIn < checkOut) && decide (r.checkOut > checkIn) && decide r.Live

/-- The same stays as the place rule reads them. -/
def overlapping (h : Hotel) (roomId : RoomId) (checkIn checkOut : Day)
    (excludeId : Option ReservationId) : List PlaceHolder :=
  (h.overlappingRows roomId checkIn checkOut excludeId).map Reservation.placeHolder

theorem mem_overlappingRows {h : Hotel} {roomId : RoomId} {ci co : Day}
    {x : Option ReservationId} {r : Reservation} :
    r ∈ h.overlappingRows roomId ci co x ↔ r ∈ h.reservations ∧ r.roomId = roomId ∧
      some r.id ≠ x ∧ r.checkIn < co ∧ ci < r.checkOut ∧ r.Live := by
  simp [overlappingRows, and_assoc]

/-- The active room of an id, with its capacity and the hotel's switch. -/
def activeRoom (h : Hotel) (roomId : RoomId) : Option (Room × Bool) :=
  (h.rooms.find roomId).bind fun r => if r.isActive then some (r, h.multiPlaceEnabled) else none

theorem activeRoom_eq_some {h : Hotel} {roomId : RoomId} {r : Room} {m : Bool} :
    h.activeRoom roomId = some (r, m) ↔
      h.rooms.find roomId = some r ∧ r.isActive = true ∧ m = h.multiPlaceEnabled := by
  simp only [activeRoom, Option.bind_eq_some_iff]
  constructor
  · rintro ⟨r', hr', hs⟩
    split_ifs at hs with ha
    cases hs
    exact ⟨hr', ha, rfl⟩
  · rintro ⟨hr, ha, rfl⟩
    exact ⟨r, hr, by rw [if_pos ha]⟩

/-- Rewrite the reservation of an id. -/
def updateReservation (h : Hotel) (id : ReservationId) (f : Reservation → Reservation)
    (hf : ∀ r, (f r).id = r.id := by intro; rfl) : Hotel :=
  { h with reservations := h.reservations.modify id f hf }

def setRoomStatus (h : Hotel) (id : RoomId) (status : RoomStatus) : Hotel :=
  { h with rooms := h.rooms.modify id fun r => { r with status := status } }

/-- What the primary key and the unique index on partner and key let in. -/
def accepts (h : Hotel) (r : Reservation) : Bool :=
  (h.reservations.find r.id).isNone && h.reservations.rows.all fun o =>
    decide (o.partnerId = none ∨ o.partnerIdempotencyKey = none ∨ o.partnerId ≠ r.partnerId ∨
      o.partnerIdempotencyKey ≠ r.partnerIdempotencyKey)

/-- Add a reservation, unless a key is taken. -/
def insertReservation (h : Hotel) (r : Reservation) : Hotel :=
  if h.accepts r then { h with reservations := h.reservations.insert r } else h

theorem find_of_accepts {h : Hotel} {r : Reservation} (ha : h.accepts r = true) :
    h.reservations.find r.id = none := by
  rw [accepts, Bool.and_eq_true, Option.isNone_iff_eq_none] at ha
  exact ha.1

theorem mem_insertReservation {h : Hotel} {r : Reservation} (ha : h.accepts r = true)
    {o : Reservation} : o ∈ (h.insertReservation r).reservations ↔ o ∈ h.reservations ∨ o = r := by
  rw [insertReservation, if_pos ha]
  exact Table.mem_insert (find_of_accepts ha)

theorem insertReservation_of_not_accepts {h : Hotel} {r : Reservation} (ha : ¬h.accepts r = true) :
    h.insertReservation r = h := if_neg ha

section Update

variable {h : Hotel} {id : ReservationId} {f : Reservation → Reservation}
  {hf : ∀ r, (f r).id = r.id} {roomId : RoomId} {st : RoomStatus} {r : Reservation}

@[simp] theorem updateReservation_multiPlace :
    (h.updateReservation id f hf).multiPlaceEnabled = h.multiPlaceEnabled := rfl
@[simp] theorem updateReservation_rooms : (h.updateReservation id f hf).rooms = h.rooms := rfl
@[simp] theorem updateReservation_folios : (h.updateReservation id f hf).folios = h.folios := rfl
@[simp] theorem updateReservation_reservations :
    (h.updateReservation id f hf).reservations = h.reservations.modify id f hf := rfl
@[simp] theorem setRoomStatus_multiPlace :
    (h.setRoomStatus roomId st).multiPlaceEnabled = h.multiPlaceEnabled := rfl
@[simp] theorem setRoomStatus_reservations :
    (h.setRoomStatus roomId st).reservations = h.reservations := rfl
@[simp] theorem setRoomStatus_folios : (h.setRoomStatus roomId st).folios = h.folios := rfl
@[simp] theorem insertReservation_multiPlace :
    (h.insertReservation r).multiPlaceEnabled = h.multiPlaceEnabled := by
  unfold insertReservation; split <;> rfl
@[simp] theorem insertReservation_rooms : (h.insertReservation r).rooms = h.rooms := by
  unfold insertReservation; split <;> rfl
@[simp] theorem insertReservation_folios : (h.insertReservation r).folios = h.folios := by
  unfold insertReservation; split <;> rfl

end Update

/-- The capacity of a room; a room that is not there has none. -/
def capacityOf (h : Hotel) (roomId : RoomId) : ℕ := ((h.rooms.find roomId).map Room.capacity).getD 0

theorem capacityOf_activeRoom {h : Hotel} {roomId : RoomId} {r : Room} {m : Bool}
    (hr : h.activeRoom roomId = some (r, m)) : h.capacityOf roomId = r.capacity := by
  simp [capacityOf, (activeRoom_eq_some.mp hr).1]

end Hotel

/-- The same switch and the same rooms, up to their statuses. -/
structure SameHouse (h h' : Hotel) : Prop where
  multiPlace : h'.multiPlaceEnabled = h.multiPlaceEnabled
  rooms : h'.rooms.rows.map Room.fixed = h.rooms.rows.map Room.fixed

namespace SameHouse

variable {h h' h'' : Hotel}

theorem refl (h : Hotel) : SameHouse h h := ⟨rfl, rfl⟩

theorem trans (a : SameHouse h h') (b : SameHouse h' h'') : SameHouse h h'' :=
  ⟨b.multiPlace.trans a.multiPlace, b.rooms.trans a.rooms⟩

theorem symm (a : SameHouse h h') : SameHouse h' h := ⟨a.multiPlace.symm, a.rooms.symm⟩

theorem setRoomStatus (h : Hotel) (id : RoomId) (st : RoomStatus) :
    SameHouse h (h.setRoomStatus id st) := by
  refine ⟨rfl, ?_⟩
  simp only [Hotel.setRoomStatus, Table.modify, List.map_map]
  refine List.map_congr_left fun r _ => ?_
  by_cases hr : r.id = id <;> simp [hr, Room.fixed]

theorem find_map_fixed (h : Hotel) (id : RoomId) :
    (h.rooms.find id).map Room.fixed =
      (h.rooms.rows.map Room.fixed).find? fun r => r.id = id := by
  rw [List.find?_map]
  rfl

theorem find (a : SameHouse h h') (id : RoomId) :
    (h'.rooms.find id).map Room.fixed = (h.rooms.find id).map Room.fixed := by
  rw [find_map_fixed, find_map_fixed, a.rooms]

theorem capacityOf (a : SameHouse h h') (id : RoomId) : h'.capacityOf id = h.capacityOf id := by
  have := congrArg (Option.map Room.capacity) (a.find id)
  simp only [Option.map_map] at this
  exact congrArg (Option.getD · 0) this

end SameHouse

/-! ## The database -/

/-- The SELECTs of the services. -/
inductive HotelQuery where
  | row
  | rows
  | room
  | roomType
  | overlapping
  | folio
  | charges
  | payments
  | channelRow
  deriving DecidableEq, Repr

/-- The rows the services write. -/
inductive HotelRow where
  | reservation (id : ReservationId)
  | room (id : RoomId)
  deriving DecidableEq, Repr

/-- The advisory lock of a partner's idempotency key. -/
inductive HotelLock where
  | reservationCreate (partnerId : PartnerId) (key : String)
  deriving DecidableEq, Repr

/-- The hotel's store; `E` is what the environment answers to a session. -/
abbrev hotelDb (E : Type) : Db := ⟨Hotel, HotelQuery, HotelRow, HotelLock, E⟩

end KarsHotel
