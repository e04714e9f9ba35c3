import KarsHotel.Lib.Run
import KarsHotel.Reservations.Deeds
import KarsHotel.RoomTypes.Service
import KarsHotel.Rooms.Service

/-!
# Hotels with their archives

* `HotelsStore`: the hotels, and the fund of each;
* `RoomOp`, `RoomTypeOp`, `HotelOp`, `ArchiveOp`: the operations; `HotelsStore.step`: one of them,
  by whoever holds an access token of the hotel, also after the hotel was archived;
* `ArchiveClean`: the archive holds nothing alive.
-/

namespace KarsHotel

structure HotelsStore where
  directory : Directory
  fund : TenantId → Fund

namespace HotelsStore

variable (s : HotelsStore)

def setFund (tenantId : TenantId) (f : Fund) : HotelsStore :=
  { s with fund := fun t => if t = tenantId then f else s.fund t }

theorem fund_setFund_self (tenantId : TenantId) (f : Fund) :
    (s.setFund tenantId f).fund tenantId = f := if_pos rfl

theorem fund_setFund_of_ne {tenantId t : TenantId} (f : Fund) (h : t ≠ tenantId) :
    (s.setFund tenantId f).fund t = s.fund t := if_neg h

end HotelsStore

/-! ## The operations -/

inductive RoomOp where
  | create (dto : CreateRoomDto)
  | createMany (dto : CreateManyRoomsDto)
  | update (id : RoomId) (dto : UpdateRoomDto)
  | setStatus (id : RoomId) (status : RoomStatus)
  | archive (actor : Option UserId) (now : Moment) (id : IdText)
  | archiveMany (actor : Option UserId) (now : Moment) (ids : List IdText)
  | restore (id : RoomId)
  | remove (enabled : Bool) (id : RoomId)

def RoomOp.exec (f : Fund) : RoomOp → Except Failure Fund
  | .create dto => (RoomsService.create f dto).map Prod.snd
  | .createMany dto => (RoomsService.createMany f dto).map Prod.snd
  | .update id dto => RoomsService.update f id dto
  | .setStatus id status => RoomsService.setStatus f id status
  | .archive actor now id => (RoomsService.archive actor now f id).map Prod.snd
  | .archiveMany actor now ids => .ok (RoomsService.archiveMany actor now f ids).2
  | .restore id => RoomsService.restore f id
  | .remove enabled id => RoomsService.remove f enabled id

inductive RoomTypeOp where
  | create (dto : CreateRoomTypeDto)
  | update (id : RoomTypeId) (dto : UpdateRoomTypeDto)
  | remove (actor : Option UserId) (now : Moment) (id : RoomTypeId)

def RoomTypeOp.exec (f : Fund) : RoomTypeOp → Except Failure Fund
  | .create dto => (RoomTypesService.create f dto).map Prod.snd
  | .update id dto => RoomTypesService.update f id dto
  | .remove actor now id => RoomTypesService.remove f actor now id

/-- The reservations of a hotel that are to come or going on. -/
def Fund.live (f : Fund) : List Reservation :=
  f.reservations.select fun r => decide (r.status ∈ LIVE_RESERVATION_STATUSES)

/-- An operation of the panel on a hotel. -/
inductive HotelOp where
  | archiveTenant (actor : UserId) (now : Moment) (id : TenantId)
  | restoreTenant (id : TenantId)
  | toggleActive (id : TenantId)

def HotelOp.exec (s : HotelsStore) : HotelOp → Except Failure Directory
  | .archiveTenant actor now id =>
    KarsHotel.archiveTenant now actor s.directory (s.fund id).live.length id
  | .restoreTenant id => KarsHotel.restoreTenant s.directory id
  | .toggleActive id => KarsHotel.toggleActive s.directory id

/-- An operation on rooms, room types, hotels or reservations. -/
inductive ArchiveOp where
  | room (tenantId : TenantId) (op : RoomOp)
  | roomType (tenantId : TenantId) (op : RoomTypeOp)
  | hotel (op : HotelOp)
  | reservation (tenantId : TenantId) (op : Op)

/-- The fund after one operation on its reservations. -/
def Fund.step (f : Fund) (op : Op) : Fund := f.withHotel (KarsHotel.step f.hotel op)

/-- The store after one operation: a refused one leaves it as it was. -/
def HotelsStore.step (s : HotelsStore) : ArchiveOp → HotelsStore
  | .room tenantId op => match op.exec (s.fund tenantId) with
    | .ok f => s.setFund tenantId f
    | .error _ => s
  | .roomType tenantId op => match op.exec (s.fund tenantId) with
    | .ok f => s.setFund tenantId f
    | .error _ => s
  | .hotel op => match op.exec s with
    | .ok directory => { s with directory := directory }
    | .error _ => s
  | .reservation tenantId op => s.setFund tenantId ((s.fund tenantId).step op)

/-! ## The rule -/

structure Fund.RoomClean (f : Fund) (r : FundRoom) : Prop where
  /-- An archived room is switched off. -/
  off : r.archivedAt.isSome = true → r.isActive = false
  /-- An archived room has no live reservation. -/
  empty : r.archivedAt.isSome = true →
    ∀ b ∈ f.reservations, b.roomId = r.id → b.status ∉ LIVE_RESERVATION_STATUSES
  /-- A room that is not archived is of a type that is not archived. -/
  typed : r.archivedAt = none → ∃ t ∈ f.types, t.id = r.roomTypeId ∧ t.archivedAt = none

/-- The archive of a hotel's fund holds nothing alive. -/
structure Fund.ArchiveClean (f : Fund) : Prop where
  rooms : ∀ r ∈ f.rooms, f.RoomClean r
  /-- An archived type is switched off. -/
  types : ∀ t ∈ f.types, t.archivedAt.isSome = true → t.isActive = false

/-- **The archive holds nothing alive.** -/
structure HotelsStore.ArchiveClean (s : HotelsStore) : Prop where
  funds : ∀ tenantId, (s.fund tenantId).ArchiveClean
  /-- An archived hotel has no live reservation. -/
  hotelEmpty : ∀ t ∈ s.directory.tenants, t.archivedAt.isSome = true →
    ∀ b ∈ (s.fund t.id).reservations, b.status ∉ LIVE_RESERVATION_STATUSES

end KarsHotel
