import KarsHotel.Auth.Store
import KarsHotel.Reservations.Store

/-!
# The rooms and room types of one hotel

The rows of rooms and types with their archive marks, beside the reservations.

* `FundRoom`, `FundType`: the rows; `Fund`: the tables;
* `Fund.hotel`, `Fund.withHotel`: the same rooms as the reservations see them.
-/

namespace KarsHotel

/-- A row of `room`, with its number and its archive mark. -/
structure FundRoom extends Room where
  number : String
  archivedAt : Option Moment
  archivedBy : Option UserId
  deriving DecidableEq, Repr

/-- A row of `room_type`, with its archive mark. -/
structure FundType where
  id : RoomTypeId
  code : String
  name : String
  baseOccupancy : ℕ
  maxOccupancy : ℕ
  isActive : Bool
  archivedAt : Option Moment
  archivedBy : Option UserId
  deriving DecidableEq, Repr

def FundRoom.key (r : FundRoom) : RoomId := r.id

/-- Rooms, room types and reservations of a hotel. -/
structure Fund where
  multiPlaceEnabled : Bool
  types : Table FundType.id
  rooms : Table FundRoom.key
  reservations : Table Reservation.id
  folios : Table Folio.reservationId

namespace Fund

/-- The hotel as the reservations see it. -/
def hotel (f : Fund) : Hotel where
  multiPlaceEnabled := f.multiPlaceEnabled
  rooms := ⟨f.rooms.rows.map FundRoom.toRoom, by
    rw [List.map_map]
    exact f.rooms.nodup⟩
  reservations := f.reservations
  folios := f.folios

/-- What the services of reservations leave: of rooms they set the status, and nothing else. -/
def withHotel (f : Fund) (h : Hotel) : Fund :=
  { f with
    rooms := f.rooms.map (fun r => { r with
      status := ((h.rooms.find r.id).map Room.status).getD r.status }) fun _ => rfl
    reservations := h.reservations
    folios := h.folios }

theorem find_hotel_rooms (f : Fund) (id : RoomId) :
    f.hotel.rooms.find id = (f.rooms.find id).map FundRoom.toRoom := by
  unfold hotel Table.find
  rw [List.find?_map]
  rfl

/-- The rooms after the services of reservations: the same, up to their statuses. -/
theorem mem_withHotel_rooms {f : Fund} {h : Hotel} {r' : FundRoom}
    (hr' : r' ∈ (f.withHotel h).rooms) :
    ∃ r ∈ f.rooms, ∃ status, r' = { r with status := status } := by
  obtain ⟨r, hr, heq⟩ := List.mem_map.mp hr'
  exact ⟨r, hr, _, heq.symm⟩

end Fund

end KarsHotel
