import KarsHotel.Rooms.Store
import Mathlib.Data.Nat.Digits.Defs

/-!
# The room type service

* `create`, `update`: the types of a hotel;
* `remove`: the archive of a type, under a code with a tail.
-/

namespace KarsHotel

structure CreateRoomTypeDto where
  code : String
  name : String
  baseOccupancy : Option ℕ
  maxOccupancy : Option ℕ
  isActive : Option Bool

def CreateRoomTypeDto.row (dto : CreateRoomTypeDto) (id : RoomTypeId) : FundType where
  id := id
  code := dto.code
  name := dto.name
  baseOccupancy := dto.baseOccupancy.getD 2
  maxOccupancy := dto.maxOccupancy.getD (dto.baseOccupancy.getD 2)
  isActive := dto.isActive.getD true
  archivedAt := none
  archivedBy := none

structure UpdateRoomTypeDto where
  code : Option String
  name : Option String
  baseOccupancy : Option ℕ
  maxOccupancy : Option ℕ
  isActive : Option Bool

/-- `UPDATE room_type` of a patch. -/
def UpdateRoomTypeDto.apply (dto : UpdateRoomTypeDto) (t : FundType) : FundType :=
  { t with
    code := dto.code.getD t.code
    name := dto.name.getD t.name
    baseOccupancy := dto.baseOccupancy.getD t.baseOccupancy
    maxOccupancy := dto.maxOccupancy.getD t.maxOccupancy
    isActive := dto.isActive.getD t.isActive }

/-- `UPDATE room_type` of an archive. -/
def FundType.archived (code : String) (now : Moment) (actor : Option UserId) (t : FundType) :
    FundType :=
  { t with isActive := false, archivedAt := some now, archivedBy := actor, code := code }

/-- `toString(36)`. -/
def base36 (n : ℤ) : String :=
  let digit (d : ℕ) : Char := if d < 10 then Char.ofNat (48 + d) else Char.ofNat (87 + d)
  (if n < 0 then "-" else "") ++
    if n = 0 then "0" else String.ofList ((Nat.digits 36 n.natAbs).reverse.map digit)

namespace RoomTypesService

def uniqueViolation : Failure := .internal "Unique constraint failed"

def notFound (id : RoomTypeId) : Failure := .notFound ("RoomType " ++ toString id ++ " not found")

def categoryNotFound : Failure := .notFound "Категория не найдена"

def occupancyInconsistent : Failure :=
  .badRequest "maxOccupancy не может быть меньше baseOccupancy"

def codeTaken (code : String) : Failure :=
  .conflict ("Категория с кодом \"" ++ code ++ "\" уже существует в этом отеле")

def hasRooms (count : ℕ) : Failure :=
  .conflict ("Нельзя удалить категорию: к ней привязаны " ++ toString count ++ " номеров. " ++
    "Сначала удалите номера или перенесите их в другую категорию.")

/-- Where both are given, the largest number of guests is not below the usual one. -/
def occupancyConsistent (baseOccupancy maxOccupancy : Option ℕ) : Bool :=
  match baseOccupancy, maxOccupancy with
  | some base, some max => decide (base ≤ max)
  | _, _ => true

variable (f : Fund)

def ofCode (code : String) : List FundType := f.types.select fun t => decide (t.code = code)

/-- The rooms of a type that are not archived. -/
def liveRooms (id : RoomTypeId) : List FundRoom :=
  f.rooms.select fun r => decide (r.roomTypeId = id) && r.archivedAt.isNone

def create (dto : CreateRoomTypeDto) : Except Failure (RoomTypeId × Fund) :=
  if !occupancyConsistent dto.baseOccupancy dto.maxOccupancy then .error occupancyInconsistent
  else if (ofCode f dto.code).isEmpty then
    .ok (f.types.fresh, { f with types := f.types.insert (dto.row f.types.fresh) })
  else .error (codeTaken dto.code)

/-- `UPDATE room_type`; the code is unique. -/
def updateType (id : RoomTypeId) (code : Option String) (g : FundType → FundType)
    (hg : ∀ t, (g t).id = t.id) : Option Fund :=
  if code.any fun c => (ofCode f c).any fun t => decide (t.id ≠ id) then none
  else some { f with types := f.types.modify id g hg }

/-- The occupancies that a patch leaves are inconsistent. -/
def occupancyRefusal (id : RoomTypeId) (dto : UpdateRoomTypeDto) : Option Failure :=
  if dto.baseOccupancy.isSome || dto.maxOccupancy.isSome then
    match f.types.find id with
    | none => some (notFound id)
    | some existing =>
      if occupancyConsistent (some (dto.baseOccupancy.getD existing.baseOccupancy))
          (some (dto.maxOccupancy.getD existing.maxOccupancy)) then
        none
      else some occupancyInconsistent
  else none

def update (id : RoomTypeId) (dto : UpdateRoomTypeDto) : Except Failure Fund :=
  match occupancyRefusal f id dto with
  | some x => .error x
  | none =>
    if (f.types.find id).isNone then .error categoryNotFound
    else match updateType f id dto.code dto.apply fun _ => rfl with
      | none => .error (codeTaken (dto.code.getD "?"))
      | some f₁ => .ok f₁

/-- Archive a type that has no rooms but archived ones. -/
def remove (actor : Option UserId) (now : Moment) (id : RoomTypeId) : Except Failure Fund :=
  match f.types.find id with
  | none => .error (notFound id)
  | some existing =>
    if existing.archivedAt.isSome then .ok f
    else if (liveRooms f id).length > 0 then .error (hasRooms (liveRooms f id).length)
    else
      let code := existing.code ++ "~" ++ base36 now
      match updateType f id (some code) (.archived code now actor) fun _ => rfl with
      | none => .error uniqueViolation
      | some f₁ => .ok f₁

end RoomTypesService

end KarsHotel
