import KarsHotel.Lib.IdText
import KarsHotel.Lib.Json
import KarsHotel.RatePlans.PartnerTariffMatch
import KarsHotel.Reservations.Service

/-!
# A partner's booking

`createReservation` of the connectivity service: the key of the request, the early lookup of the
key, the checks and the price, the room, `create`, and the catch that looks the key up once more.

* `ConnectCreateReservationDto`, `KeyHeader`, `IdempotencyKey`: the request and its key;
* `preflight`, `pickRoom`: what is checked and chosen before `create`;
* `createReservation`: the session. What it reads outside the reservation store (categories, plans,
  prices, the partner's directory) and how the work after the commit ends is answered by the
  environment, a `ConnectEnv`.
-/

namespace KarsHotel

/-! ## The request -/

/-- A date text and what it reads as. -/
structure DateText where
  text : String
  date : IsoDate
  deriving DecidableEq

structure ConnectCreateReservationDto where
  categoryId : IdText
  roomId : Field RoomId
  ratePlanId : Field RatePlanId
  checkIn : DateText
  checkOut : DateText
  guestName : String
  phone : Field String
  email : Field String
  adults : ℕ
  children : Field ℕ
  operatorRef : Field String
  comment : Field String
  guestKind : Field GuestKind
  account : Field String
  customer : Field String
  arrivalAt : Field String
  departureAt : Field String
  flight : Field String

/-- A field of a body as JSON; an undefined field is left out. -/
def Field.json {α : Type} (f : α → Json) : Field α → Option Json
  | .undefined => none
  | .null => some .null
  | .val a => some (f a)

/-- The text of a number. -/
def jsonNat (n : ℕ) : Json := .num (.ofNat n)

def jsonId (n : ℕ) : Json := .str n.repr

def GuestKind.code : GuestKind → String
  | .crew => "CREW"
  | .disruption => "DISRUPTION"

namespace ConnectCreateReservationDto

/-- The body of the request with its keys in order. -/
def original (dto : ConnectCreateReservationDto) : String :=
  Json.stringify (.ofFields
    [("account", dto.account.json .str),
     ("adults", some (jsonNat dto.adults)),
     ("arrivalAt", dto.arrivalAt.json .str),
     ("categoryId", some (.str dto.categoryId.text)),
     ("checkIn", some (.str dto.checkIn.text)),
     ("checkOut", some (.str dto.checkOut.text)),
     ("children", dto.children.json jsonNat),
     ("comment", dto.comment.json .str),
     ("customer", dto.customer.json .str),
     ("departureAt", dto.departureAt.json .str),
     ("email", dto.email.json .str),
     ("flight", dto.flight.json .str),
     ("guestKind", dto.guestKind.json fun k => .str k.code),
     ("guestName", some (.str dto.guestName)),
     ("operatorRef", dto.operatorRef.json .str),
     ("phone", dto.phone.json .str),
     ("ratePlanId", dto.ratePlanId.json jsonId),
     ("roomId", dto.roomId.json jsonId)])

def guests (dto : ConnectCreateReservationDto) : ℕ := dto.adults + dto.children.orElse 0

/-- The comment and the partner's reference. -/
def notes (dto : ConnectCreateReservationDto) : Option String :=
  let comment := dto.comment.toOption.filter (· ≠ "")
  let ref := (dto.operatorRef.toOption.filter (· ≠ "")).map fun r => "[ref:" ++ r ++ "]"
  match comment, ref with
  | none, none => none
  | some c, none => some c
  | none, some r => some r
  | some c, some r => some (c ++ " " ++ r)

end ConnectCreateReservationDto

/-- The header `X-Idempotency-Key`. -/
inductive KeyHeader where
  | undefined
  | one (text : String)
  | many (texts : List String)

def tokenChar (c : Char) : Bool :=
  c.isAlphanum || c = '.' || c = '_' || c = ':' || c = '-'

/-- `/^[A-Za-z0-9][A-Za-z0-9._:-]` and up to 199 such characters. -/
def isToken (text : String) : Bool :=
  match text.toList with
  | [] => false
  | c :: cs => c.isAlphanum && cs.all tokenChar && decide (cs.length ≤ 199)

/-- A key the service accepts. -/
structure IdempotencyKey where
  text : String
  token : isToken text = true
  deriving DecidableEq

def invalidKey : Failure := .badRequest
  "X-Idempotency-Key must be a 1–200 character ASCII token (letters, digits, . _ : -)"

/-- The channel of a request; `sha256` is the hash of its body. -/
def channelContext (sha256 : String → String) (dto : ConnectCreateReservationDto)
    (partnerId : PartnerId) : KeyHeader → Except Failure ReservationChannelContext
  | .undefined => .ok ⟨partnerId, none⟩
  | .one text =>
    if isToken text then .ok ⟨partnerId, some ⟨text, sha256 dto.original⟩⟩ else .error invalidKey
  | .many _ => .error invalidKey

/-! ## What the environment answers -/

/-- A failure of something called: it never carries the rejection code of a creation. -/
structure Fault where
  status : Option ℕ
  message : String

def Fault.failure (x : Fault) : Failure := ⟨x.status, x.message, none⟩

/-- An entry of the partner's directory. -/
structure DirectoryEntry where
  id : ℕ
  isActive : Bool

structure Category where
  maxOccupancy : ℕ
  isActive : Bool

structure OperatorStatus where
  applies : Bool
  reason : String

/-- A plan of the partner with the state of its confirmation. -/
structure OperatorPlan extends PartnerPlanScope where
  name : String
  operatorStatus : Option OperatorStatus

def OperatorPlan.applies (p : OperatorPlan) : Bool := (p.operatorStatus.map (·.applies)).getD false

/-- A plan of the hotel, as a booking reads it. -/
structure PlanRow where
  id : RatePlanId
  name : String
  isActive : Bool
  partnerId : Option PartnerId

structure PlanPrice where
  ratePlanId : RatePlanId
  total : Option ℤ

/-- What a booking reads outside the reservation store, and how the work after its commit (the
timeline, the audit log) ends. -/
structure ConnectEnv where
  account : String → Except Fault (Option DirectoryEntry)
  customer : String → Except Fault (Option DirectoryEntry)
  category : RoomTypeId → Except Fault (Option Category)
  partnerPlans : Except Fault (List OperatorPlan)
  planPrices : Except Fault (List PlanPrice)
  ratePlan : RatePlanId → Except Fault (Option PlanRow)
  announce : Option Fault

/-- Go on with an answer of the environment. -/
def answered {α : Type} : Except Fault α → Except Failure α
  | .ok a => .ok a
  | .error x => .error x.failure

/-! ## Before `create` -/

/-- The hotel of the request. -/
structure Tenant where
  id : ℕ
  slug : String
  deriving DecidableEq

section Preflight

variable (tenant : Tenant) (env : ConnectEnv) (dto : ConnectCreateReservationDto)
  (partnerId : PartnerId)

/-- The id of an active entry of the directory; an empty or missing code names none. -/
def directoryId (entry : String → Except Fault (Option DirectoryEntry)) :
    Field String → Except Failure (Option ℕ)
  | .val code =>
    if code = "" then .ok none
    else (answered (entry code)).map fun e => (e.filter (·.isActive)).map (·.id)
  | _ => .ok none

/-- Whom the request books for. -/
def partnerQuery : Except Failure PartnerPlanQuery := do
  let accountId ← directoryId env.account dto.account
  let customerId ← directoryId env.customer dto.customer
  return ⟨partnerId, accountId, customerId, dto.guestKind.toOption⟩

def categoryNotFound : Failure :=
  .notFound ("Category " ++ dto.categoryId.text ++ " not found in hotel " ++ tenant.slug)

def capacityExceeded (category : Category) : Failure :=
  .conflict ("Category capacity is " ++ category.maxOccupancy.repr ++ ", requested " ++
    dto.guests.repr ++ " guests")

def severalPlans (plans : List OperatorPlan) : Failure :=
  .conflict ("Под эти условия подходит несколько тарифов (" ++
    String.intercalate ", " (plans.map (·.name)) ++ ") — укажите ratePlanId")

def planNotFound (planId : RatePlanId) : Failure :=
  .notFound ("Rate plan " ++ planId.repr ++ " not found in hotel " ++ tenant.slug)

def planNotForRequest : Failure := .conflict "Этот корпоративный тариф не для этих условий брони"

def planNotConfirmed (plan : PlanRow) (status : Option OperatorStatus) : Failure :=
  let reason := (status.map (·.reason)).getD ""
  .conflict ("Корпоративный тариф «" ++ plan.name ++ "» не подтверждён:" ++
    if reason = "" then "" else " " ++ reason)

def planNotPriced (plan : PlanRow) : Failure :=
  .conflict ("Тариф «" ++ plan.name ++ "» не считается на эти даты и число гостей — в нём нет цены")

/-- A plan of a partner is sold to that partner, for these conditions, once confirmed. -/
def admitPlan (chosen : List OperatorPlan) (plan : PlanRow) : Except Failure Unit :=
  match plan.partnerId with
  | none => .ok ()
  | some owner =>
    match chosen.find? fun p => decide (p.id = plan.id) with
    | none => .error planNotForRequest
    | some mine =>
      if owner ≠ partnerId then .error planNotForRequest
      else if mine.applies then .ok ()
      else .error (planNotConfirmed plan mine.operatorStatus)

/-- The plan of the booking: the one asked for, or the only one that applies and has a price. -/
def planToUse (chosen : List OperatorPlan) (prices : List PlanPrice) :
    Except Failure (Option RatePlanId) :=
  match dto.ratePlanId with
  | .val planId => .ok (some planId)
  | _ =>
    let priced (p : OperatorPlan) := prices.any fun q => decide (q.ratePlanId = p.id) && q.total.isSome
    match chosen.filter fun p => p.applies && priced p with
    | [] => .ok none
    | [p] => .ok (some p.id)
    | plans => .error (severalPlans plans)

/-- The plan and the total of the stay. -/
def pricePlan (chosen : List OperatorPlan) (prices : List PlanPrice) (planId : RatePlanId) :
    Except Failure (RatePlanId × ℤ) := do
  match ← answered (env.ratePlan planId) with
  | none => throw (planNotFound tenant planId)
  | some plan =>
    if !plan.isActive then throw (planNotFound tenant planId)
    admitPlan partnerId chosen plan
    match (prices.find? fun q => decide (q.ratePlanId = plan.id)).bind (·.total) with
    | none => throw (planNotPriced plan)
    | some total => return (plan.id, total)

/-- The checks of the category and the plan, and the price. -/
def preflight : Except Failure (Option (RatePlanId × ℤ)) := do
  let query ← partnerQuery env dto partnerId
  match ← answered (env.category dto.categoryId.id) with
  | none => throw (categoryNotFound tenant dto)
  | some category =>
    if !category.isActive then throw (categoryNotFound tenant dto)
    if dto.guests > category.maxOccupancy then throw (capacityExceeded dto category)
    let plans ← answered env.partnerPlans
    let chosen := pickPartnerPlans OperatorPlan.toPartnerPlanScope plans query
    let prices ← answered env.planPrices
    match ← planToUse dto chosen prices with
    | none => return none
    | some planId => return some (← pricePlan tenant env partnerId chosen prices planId)

end Preflight

/-! ### The room -/

section Room

variable {E : Type} (dto : ConnectCreateReservationDto)

/-- The room takes a party of so many on these dates. -/
def roomFitsByPlaces (h : Hotel) (room : Room) : Bool :=
  roomFits room.capacity h.multiPlaceEnabled ⟨max 1 dto.guests, 0⟩
    (h.overlapping room.id dto.checkIn.date.day dto.checkOut.date.day none)

def pinnedNotFound (roomId : RoomId) : Failure := .notFound ("Room " ++ roomId.repr ++ " not found")

def pinnedElsewhere : Failure := .conflict "Chosen room does not belong to the requested category"

def pinnedTaken : Failure :=
  .conflict "Chosen room is no longer available for the selected dates"

def noRoomAvailable : Failure :=
  .conflict "No room available in this category for the selected dates"

/-- The room the partner asked for, if it is of the category and takes the party. The category is
compared as a text, with the one the database writes. -/
def resolvePinnedRoom (roomId : RoomId) : Tx (hotelDb E) Failure RoomId :=
  .read .room fun h => match h.activeRoom roomId with
    | none => .throw (pinnedNotFound roomId)
    | some (room, _) =>
      if IdText.ofId room.roomTypeId ≠ dto.categoryId then .throw pinnedElsewhere
      else .read .overlapping fun h' =>
        if roomFitsByPlaces dto h' room then .ret room.id else .throw pinnedTaken

/-- The first active room of the category that takes the party; the rooms of the store are in the
order of their numbers. -/
def pickAvailableRoom : Tx (hotelDb E) Failure (Option RoomId) :=
  .read .room fun h =>
    match h.rooms.select fun r => decide (r.roomTypeId = dto.categoryId.id) && r.isActive with
    | [] => .ret none
    | rooms => .read .overlapping fun h' =>
      .ret ((rooms.find? fun r => roomFitsByPlaces dto h' r).map (·.id))

def pickRoom : Tx (hotelDb E) Failure RoomId :=
  match dto.roomId with
  | .val roomId => resolvePinnedRoom dto roomId
  | _ => do
    match ← pickAvailableRoom dto with
    | none => .throw noRoomAvailable
    | some roomId => .ret roomId

end Room

/-! ## The session -/

/-- An exception of the attempt, with how far it had come. -/
structure Thrown where
  preflightStarted : Bool
  createEntered : Bool
  error : Failure

/-- The answer to the partner. -/
structure ConnectReservation extends CreatedReservation where
  hotelId : ℕ
  slug : String
  deriving DecidableEq

def CreatedReservation.answer (tenant : Tenant) (r : CreatedReservation) : ConnectReservation :=
  { r with hotelId := tenant.id, slug := tenant.slug }

/-- The body of `create` for a partner's booking. -/
def ConnectCreateReservationDto.toCreate (dto : ConnectCreateReservationDto) (roomId : RoomId)
    (price : Option (RatePlanId × ℤ)) : CreateReservationDto where
  roomId := roomId
  guestName := dto.guestName
  phone := dto.phone.toOption
  email := dto.email.toOption
  checkIn := dto.checkIn.date
  checkOut := dto.checkOut.date
  adults := dto.adults
  children := some (dto.children.orElse 0)
  status := some .confirmed
  source := some .corporate
  notes := dto.notes
  totalPrice := price.map (·.2)
  ratePlanId := price.map (·.1)
  channelManaged := some true
  guestKind := dto.guestKind.toOption

def ConnectCreateReservationDto.stay (dto : ConnectCreateReservationDto) : PartnerStayInfo :=
  ⟨dto.arrivalAt, dto.departureAt, dto.flight⟩

/-- One call of the endpoint; `newId` is the uuid an insertion would draw. -/
structure ConnectRequest where
  tenant : Tenant
  dto : ConnectCreateReservationDto
  partnerId : PartnerId
  header : KeyHeader
  newId : ReservationId

section Session

/-- The lookup of the key in a transaction of its own. -/
def findChannelReservation (channel : ReservationChannelContext) :
    Prog (hotelDb ConnectEnv) Failure (Option CreatedReservation) :=
  if channel.idempotency.isNone then .ret none else (channelReservation channel).transact

/-- `create` of the reservation service: its transaction, then the announcements of a reservation
that is not a replay. -/
def createAndAnnounce (dto : CreateReservationDto) (stay : PartnerStayInfo)
    (channel : ReservationChannelContext) (newId : ReservationId) :
    Prog (hotelDb ConnectEnv) Failure CreatedReservation := do
  let (replayed, created) ← (create dto stay (some channel) newId).transact
  if replayed then .ret created
  else .ask fun env => match env.announce with
    | some fault => .throw fault.failure
    | none => .ret created

/-- The checks, the price and the room. -/
def prepare (q : ConnectRequest) : Prog (hotelDb ConnectEnv) Failure CreateReservationDto :=
  .ask fun env => match preflight q.tenant env q.dto q.partnerId with
    | .error x => .throw x
    | .ok price => do
      let roomId ← (pickRoom q.dto).transact
      .ret (q.dto.toCreate roomId price)

/-- The attempt: the early lookup, the preflight, `create`. -/
def attempt (q : ConnectRequest) (channel : ReservationChannelContext) :
    Prog (hotelDb ConnectEnv) Thrown CreatedReservation := do
  match ← (findChannelReservation channel).mapError (Thrown.mk false false) with
  | some replay => .ret replay
  | none =>
    let dto ← (prepare q).mapError (Thrown.mk true false)
    (createAndAnnounce dto q.dto.stay channel q.newId).mapError (Thrown.mk true true)

/-- The code proves that this call was refused before its INSERT. -/
def markRejected (channel : ReservationChannelContext) (x : Thrown) : Failure :=
  if channel.idempotency.isSome && x.preflightStarted && !x.createEntered &&
      decide (x.error.status ∈ [some 400, some 404, some 409]) then
    { x.error with code := some RESERVATION_CREATE_REJECTED_CODE }
  else x.error

/-- The catch: an earlier call may have committed meanwhile. -/
def recover (channel : ReservationChannelContext) (x : Thrown) :
    Prog (hotelDb ConnectEnv) Failure CreatedReservation := do
  match ← findChannelReservation channel with
  | some replay => .ret replay
  | none => .throw (markRejected channel x)

/-- `createReservation`, once the hotel is found. -/
def createReservation (sha256 : String → String) (q : ConnectRequest) :
    Prog (hotelDb ConnectEnv) Failure ConnectReservation :=
  match channelContext sha256 q.dto q.partnerId q.header with
  | .error x => .throw x
  | .ok channel => do
    let created ← (attempt q channel).handle (recover channel)
    .ret (created.answer q.tenant)

end Session

/-! ## Small inputs -/

/-- One adult for the night of day 0, in any room of category 1. -/
def ConnectCreateReservationDto.oneNight : ConnectCreateReservationDto where
  categoryId := .ofId 1
  roomId := .undefined
  ratePlanId := .undefined
  checkIn := ⟨"1970-01-01", .ofDay 0⟩
  checkOut := ⟨"1970-01-02", .ofDay 1⟩
  guestName := "Guest"
  phone := .undefined
  email := .undefined
  adults := 1
  children := .undefined
  operatorRef := .undefined
  comment := .undefined
  guestKind := .undefined
  account := .undefined
  customer := .undefined
  arrivalAt := .undefined
  departureAt := .undefined
  flight := .undefined

/-- A hotel without plans. -/
def ConnectEnv.noPlans : ConnectEnv where
  account _ := .ok none
  customer _ := .ok none
  category _ := .ok (some ⟨2, true⟩)
  partnerPlans := .ok []
  planPrices := .ok []
  ratePlan _ := .ok none
  announce := none

end KarsHotel
