import KarsHotel.Lib.EntryMap
import KarsHotel.Lib.IdText
import KarsHotel.Rooms.Store
import KarsHotel.SuperAdmin.Switches

/-!
# The room service

* `create`, `createMany`, `update`, `setStatus`: the fund of rooms;
* `archive`, `archiveMany`, `restore`, `remove`: the archive.
-/

namespace KarsHotel

/-- The reservations that are to come or going on. -/
def LIVE_RESERVATION_STATUSES : List ReservationStatus := [.new, .confirmed, .checkedIn]

namespace Fund

variable (f : Fund)

def liveReservations (roomId : RoomId) : List Reservation :=
  f.reservations.select fun r =>
    decide (r.roomId = roomId ∧ r.status ∈ LIVE_RESERVATION_STATUSES)

end Fund

/-- `UPDATE room` of an archive. -/
def FundRoom.archived (now : Moment) (actor : Option UserId) (r : FundRoom) : FundRoom :=
  { r with isActive := false, archivedAt := some now, archivedBy := actor }

namespace RoomsService

def roomNotFound : Failure := .notFound "Номер не найден"

def hasLiveReservations (number : String) (live : ℕ) : Failure :=
  .conflict ("Номер №" ++ number ++ " нельзя удалить: на нём " ++ toString live ++ " " ++
    plural live "действующая бронь" "действующие брони" "действующих броней" ++ ". " ++
    "Перенесите их на другой номер, затем удалите.")

variable (actor : Option UserId) (now : Moment)

/-- Archive a room; the answer is when it was archived. -/
def archive (f : Fund) (id : IdText) : Except Failure (Moment × Fund) :=
  match f.rooms.find id.id with
  | none => .error roomNotFound
  | some room => match room.archivedAt with
    | some archivedAt => .ok (archivedAt, f)
    | none =>
      let live := (f.liveReservations id.id).length
      if live > 0 then .error (hasLiveReservations room.number live)
      else .ok (now, { f with rooms := f.rooms.modify id.id (.archived now actor) fun _ => rfl })

structure ArchivedRoom where
  id : IdText
  number : String
  deriving DecidableEq, Repr

structure BlockedRoom extends ArchivedRoom where
  liveReservations : ℕ
  deriving DecidableEq, Repr

structure ArchiveManyAnswer where
  archived : List ArchivedRoom
  blocked : List BlockedRoom
  notFound : List IdText
  deriving DecidableEq, Repr

/-- `groupBy` of the live reservations of some rooms. -/
def liveByRoom (f : Fund) (rooms : List FundRoom) : EntryMap RoomId ℕ :=
  let live := (f.reservations.select fun r =>
    decide (r.roomId ∈ rooms.map (·.id) ∧ r.status ∈ LIVE_RESERVATION_STATUSES)).map (·.roomId)
  .ofEntries (live.dedup.map fun id => (id, live.count id))

/-- Archive the rooms that may be, and name the others. -/
def archiveMany (f : Fund) (ids : List IdText) : ArchiveManyAnswer × Fund :=
  let unique := distinct ids
  let rooms := f.rooms.select fun r => decide (r.id ∈ unique.map (·.id))
  let live := liveByRoom f rooms
  let fresh := rooms.filter fun r => r.archivedAt.isNone && (EntryMap.get live r.id).isNone
  let found := rooms.map fun r => IdText.ofId r.id
  ({ archived := (rooms.filter fun r =>
        r.archivedAt.isSome || (EntryMap.get live r.id).isNone).map fun r => ⟨.ofId r.id, r.number⟩
     blocked := (rooms.filter fun r =>
        r.archivedAt.isNone && (EntryMap.get live r.id).isSome).map fun r =>
          ⟨⟨.ofId r.id, r.number⟩, (EntryMap.get live r.id).getD 0⟩
     notFound := unique.filter fun id => decide (id ∉ found) },
   if fresh.isEmpty then f else { f with
     rooms := f.rooms.updateMany
      (fun r => decide (r.id ∈ fresh.map (·.id)) && r.archivedAt.isNone) (.archived now actor)
      fun _ => rfl })

end RoomsService

/-! ## The fund -/

structure CreateRoomDto where
  roomTypeId : RoomTypeId
  number : String
  status : Option RoomStatus
  isActive : Option Bool
  capacity : Option ℕ

def CreateRoomDto.row (dto : CreateRoomDto) (id : RoomId) : FundRoom where
  id := id
  roomTypeId := dto.roomTypeId
  capacity := dto.capacity.getD 1
  isActive := dto.isActive.getD true
  status := dto.status.getD .clean
  number := dto.number
  archivedAt := none
  archivedBy := none

structure CreateManyRoomsDto where
  roomTypeId : RoomTypeId
  startNumber : ℕ
  count : ℕ
  prefixText : Option String
  suffixText : Option String
  skipExisting : Option Bool
  status : Option RoomStatus
  isActive : Option Bool
  capacity : Option ℕ

namespace CreateManyRoomsDto

variable (dto : CreateManyRoomsDto)

def numbers : List String :=
  (List.range dto.count).map fun i =>
    dto.prefixText.getD "" ++ toString (dto.startNumber + i) ++ dto.suffixText.getD ""

/-- One room of the many. -/
def one (number : String) : CreateRoomDto :=
  ⟨dto.roomTypeId, number, dto.status, dto.isActive, dto.capacity⟩

end CreateManyRoomsDto

structure UpdateRoomDto where
  roomTypeId : Option RoomTypeId
  number : Option String
  status : Option RoomStatus
  isActive : Option Bool
  capacity : Option ℕ

/-- `UPDATE room` of a patch. -/
def UpdateRoomDto.apply (dto : UpdateRoomDto) (r : FundRoom) : FundRoom :=
  { r with
    roomTypeId := dto.roomTypeId.getD r.roomTypeId
    number := dto.number.getD r.number
    status := dto.status.getD r.status
    isActive := dto.isActive.getD r.isActive
    capacity := dto.capacity.getD r.capacity }

def FundRoom.withStatus (status : RoomStatus) (r : FundRoom) : FundRoom :=
  { r with status := status }

/-- `UPDATE room` of a restoration. -/
def FundRoom.restored (r : FundRoom) : FundRoom :=
  { r with isActive := true, archivedAt := none, archivedBy := none }

/-- The code of a type before its archive: `code.replace(/~[0-9a-z]+$/, '')`. -/
def originalCode (code : String) : String :=
  let tail := code.toList.reverse.takeWhile fun c => c.isDigit || c.isLower
  match code.toList.reverse.drop tail.length with
  | '~' :: front => if tail = [] then code else String.ofList front.reverse
  | _ => code

/-- `UPDATE room_type` of a restoration. -/
def FundType.restored (code : String) (t : FundType) : FundType :=
  { t with isActive := true, archivedAt := none, archivedBy := none, code := code }

namespace RoomsService

/-- A key of the table is taken. -/
def uniqueViolation : Failure := .internal "Unique constraint failed"

def categoryNotFound : Failure := .notFound "Категория номера не найдена"

def numberInArchive (number : String) : Failure :=
  .conflict ("Номер \"" ++ number ++ "\" есть в архиве удалённых — восстановите его вместо нового")

def numberTaken (number : String) : Failure :=
  .conflict ("Номер \"" ++ number ++ "\" уже существует в этом отеле")

def numbersTaken (numbers : List String) : Failure :=
  .conflict ("Уже существуют номера: " ++ ", ".intercalate numbers)

def roomArchived : Failure := .conflict "Номер в архиве удалённых — сначала восстановите его"

def deleteDisabled : Failure := .forbidden "Удаление номеров пока выключено"

def hasReservations (number : String) (count : ℕ) : Failure :=
  .conflict ("Номер №" ++ number ++ " нельзя удалить: на нём " ++ toString count ++ " " ++
    plural count "бронь" "брони" "броней" ++ ", а на них держатся счёт и история. " ++
    "Перенесите брони на другой номер, затем удалите.")

variable (f : Fund)

/-- The rooms of these numbers. -/
def ofNumbers (numbers : List String) : List FundRoom :=
  f.rooms.select fun r => decide (r.number ∈ numbers)

/-- A new row of an id that is not taken; the number is unique. -/
def insertRoom (dto : CreateRoomDto) : Except Failure (RoomId × Fund) :=
  if (ofNumbers f [dto.number]).isEmpty then
    .ok (f.rooms.fresh, { f with rooms := f.rooms.insert (dto.row f.rooms.fresh) })
  else .error uniqueViolation

def create (dto : CreateRoomDto) : Except Failure (RoomId × Fund) :=
  if (f.types.find dto.roomTypeId).isNone then .error categoryNotFound
  else match insertRoom f dto with
    | .ok r => .ok r
    | .error _ =>
      if (ofNumbers f [dto.number]).any (·.archivedAt.isSome) then
        .error (numberInArchive dto.number)
      else .error (numberTaken dto.number)

structure CreateManyAnswer where
  created : ℕ
  skipped : List String
  skippedArchived : List String
  deriving DecidableEq, Repr

/-- The numbers of a request that no room has. -/
def toCreate (dto : CreateManyRoomsDto) : List String :=
  let taken := (ofNumbers f dto.numbers).map (·.number)
  dto.numbers.filter fun n => decide (n ∉ taken)

/-- All of the rooms or none. -/
def createMany (dto : CreateManyRoomsDto) : Except Failure (CreateManyAnswer × Fund) :=
  if (f.types.find dto.roomTypeId).isNone then .error categoryNotFound
  else
    let existing := ofNumbers f dto.numbers
    let taken := existing.map (·.number)
    let archived := (existing.filter (·.archivedAt.isSome)).map (·.number)
    let skipped := dto.numbers.filter fun n => decide (n ∈ taken ∧ n ∉ archived)
    let skippedArchived := dto.numbers.filter fun n => decide (n ∈ archived)
    if taken ≠ [] ∧ dto.skipExisting = some false then
      .error (numbersTaken (skipped ++ skippedArchived))
    else do
      let made ← (toCreate f dto).foldlM
        (fun f number => (insertRoom f (dto.one number)).map Prod.snd) f
      return (⟨(toCreate f dto).length, skipped, skippedArchived⟩, made)

def update (id : RoomId) (dto : UpdateRoomDto) : Except Failure Fund :=
  if (f.rooms.find id).any (·.archivedAt.isSome) then .error roomArchived
  else if dto.roomTypeId.any fun t => (f.types.find t).isNone then .error categoryNotFound
  else if (f.rooms.find id).isNone then .error roomNotFound
  else match dto.number with
    | some number =>
      if (ofNumbers f [number]).any fun r => decide (r.id ≠ id) then .error (numberTaken number)
      else .ok { f with rooms := f.rooms.modify id dto.apply fun _ => rfl }
    | none => .ok { f with rooms := f.rooms.modify id dto.apply fun _ => rfl }

def setStatus (id : RoomId) (status : RoomStatus) : Except Failure Fund :=
  if (f.rooms.find id).isNone then .error roomNotFound
  else .ok { f with rooms := f.rooms.modify id (.withStatus status) fun _ => rfl }

/-- The code under which a type is restored: its old one, if that is free. -/
def restoredCode (code : String) : String :=
  let original := originalCode code
  if (f.types.select fun o => decide (o.code = original) && o.archivedAt.isNone) = [] then original
  else code

def restoreType (t : FundType) : Except Failure Fund :=
  if (f.types.select fun o => decide (o.code = restoredCode f t.code ∧ o.id ≠ t.id)) = [] then
    .ok { f with
      types := f.types.modify t.id (.restored (restoredCode f t.code)) fun _ => rfl }
  else .error uniqueViolation

/-- An archived type is restored with its room. -/
def restoreTypeOf (room : FundRoom) : Except Failure Fund :=
  match (f.types.find room.roomTypeId).filter (·.archivedAt.isSome) with
  | none => .ok f
  | some t => restoreType f t

def restore (id : RoomId) : Except Failure Fund :=
  match f.rooms.find id with
  | none => .error roomNotFound
  | some room => match room.archivedAt with
    | none => .ok f
    | some _ => (restoreTypeOf f room).map fun f₁ =>
      { f₁ with rooms := f₁.rooms.modify id .restored fun _ => rfl }

/-- Behind its switch; a room with reservations stays. -/
def remove (enabled : Bool) (id : RoomId) : Except Failure Fund :=
  if !enabled then .error deleteDisabled
  else match f.rooms.find id with
    | none => .error roomNotFound
    | some room =>
      let reservations := (f.reservations.select fun r => decide (r.roomId = id)).length
      if reservations > 0 then .error (hasReservations room.number reservations)
      else .ok { f with rooms := f.rooms.remove fun r => decide (r.id = id) }

end RoomsService

end KarsHotel
