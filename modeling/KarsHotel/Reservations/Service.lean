import KarsHotel.Reservations.Store

/-!
# The reservation service

The bodies of the service's transactions, statement by statement. A refusal is thrown from the
body; the service commits such a body without a write and throws the same exception afterwards.

* request bodies: `CreateReservationDto`, `UpdateReservationDto`, `SwapReservationsDto`,
  `PartnerStayInfo`, `ReservationChannelContext`;
* `Fact`, `FACTS`, `cancelRefusal`: the rules of a status;
* `create`, `update`, `swap`, `cancel`, `recordFact`: the operations;
* `Op`, `Op.body`, `step`, `run`: operations executed one at a time.

Status and source texts of a request are taken after `toUpperCase` and the lookup in
`VALID_STATUSES` and `VALID_SOURCES`: an unknown text is `none`. Prices are in kopecks.
-/

namespace KarsHotel

/-! ## Request bodies -/

structure CreateReservationDto where
  roomId : RoomId
  guestName : String
  phone : Option String
  email : Option String
  checkIn : IsoDate
  checkOut : IsoDate
  adults : ℕ
  children : Option ℕ
  status : Option ReservationStatus
  source : Option ReservationSource
  notes : Option String
  totalPrice : Option ℤ
  ratePlanId : Option RatePlanId
  channelManaged : Option Bool
  guestKind : Option GuestKind

structure UpdateReservationDto where
  version : ℕ
  roomId : Field RoomId
  guestName : Field String
  phone : Field String
  email : Field String
  checkIn : Field IsoDate
  checkOut : Field IsoDate
  adults : Field ℕ
  children : Field ℕ
  status : Option ReservationStatus
  source : Option ReservationSource
  notes : Field String
  placeNumber : Field ℕ
  totalPrice : Field ℤ

structure SwapReservationsDto where
  idA : ReservationId
  versionA : ℕ
  idB : ReservationId
  versionB : ℕ

/-- Arrival, departure and flight of a partner's stay. -/
structure PartnerStayInfo where
  arrivalAt : Field String
  departureAt : Field String
  flight : Field String

/-- Nothing sent. -/
def PartnerStayInfo.empty : PartnerStayInfo := ⟨.undefined, .undefined, .undefined⟩

structure Idempotency where
  key : String
  payloadHash : String
  deriving DecidableEq

structure ReservationChannelContext where
  partnerId : PartnerId
  idempotency : Option Idempotency

structure UpdateOptions where
  fromChannel : Bool
  stay : PartnerStayInfo

structure CreatedReservation where
  id : ReservationId
  status : ReservationStatus
  version : ℕ
  placeNumber : ℕ
  deriving DecidableEq, Repr

def Reservation.created (r : Reservation) : CreatedReservation :=
  ⟨r.id, r.status, r.version, r.placeNumber⟩

/-! ## The rules of a status -/

/-- Arrival, departure and no-show are facts, not a field of a form. -/
inductive Fact where
  | checkedIn
  | checkedOut
  | noShow
  deriving DecidableEq, Repr

def Fact.status : Fact → ReservationStatus
  | .checkedIn => .checkedIn
  | .checkedOut => .checkedOut
  | .noShow => .noShow

structure FactRule where
  allowed : List ReservationStatus
  refusal : String

/-- From which statuses a fact may be recorded, and how it is refused. -/
def FACTS : Fact → FactRule
  | .checkedIn =>
    ⟨[.new, .confirmed], "Cannot check in: current status must be NEW or CONFIRMED"⟩
  | .checkedOut =>
    ⟨[.checkedIn], "Cannot check out: reservation must be in CHECKED_IN status"⟩
  | .noShow =>
    ⟨[.new, .confirmed], "Cannot mark as no-show: current status must be NEW or CONFIRMED"⟩

/-- The fact a status stands for. -/
def isFact : ReservationStatus → Option Fact
  | .checkedIn => some .checkedIn
  | .checkedOut => some .checkedOut
  | .noShow => some .noShow
  | _ => none

theorem isFact_eq_some {s : ReservationStatus} {f : Fact} : isFact s = some f ↔ s = f.status := by
  cases s <;> cases f <;> simp [isFact, Fact.status]

inductive CancelRefusal where
  | channelManaged
  | alreadyClosed
  deriving DecidableEq, Repr

/-- One rule for the button, the form and the partner. -/
def cancelRefusal (status : ReservationStatus) (channelManaged fromChannel : Bool) :
    Option CancelRefusal :=
  if channelManaged && !fromChannel then some .channelManaged
  else if status = .cancelled ∨ status = .checkedOut then some .alreadyClosed
  else none

/-! ## Failures -/

def RESERVATION_CREATE_REJECTED_CODE : String := "RESERVATION_CREATE_REJECTED"

/-- With an idempotency key a refusal of `create` carries the rejection code. -/
def rejected (channel : Option ReservationChannelContext) (x : Failure) : Failure :=
  if (channel.bind (·.idempotency)).isSome then
    { x with code := some RESERVATION_CREATE_REJECTED_CODE }
  else x

def checkOutBeforeCheckIn : Failure := .conflict "checkOut must be after checkIn"

def roomNotFound : Failure := .notFound "Room not found or inactive"

def noPlaceAvailable : Failure :=
  .conflict "No available place in this room for the selected period"

def keyConflict : Failure :=
  .conflict "X-Idempotency-Key was already used with a different reservation payload"

/-- The insert met the primary key or the unique index. -/
def uniqueViolation : Failure := .internal "Unique constraint failed"

/-- The insert met a check of the table. -/
def rowCheckFailed : Failure := .internal "Check constraint failed"

def reservationNotFound : Failure := .notFound "Reservation not found"

def versionMismatch : Failure :=
  .conflict "Reservation was modified by another user — please reload and try again."

def bookingConflict : Failure :=
  .conflict "The requested place is already booked for the selected period"

def channelGuests : Failure := .forbidden
  "Число гостей брони из Kars Avia меняется в заявке Kars Avia, а не в кабинете гостиницы"

def wrongStatus (fact : Fact) : Failure := .conflict (FACTS fact).refusal

def cancelRefused : CancelRefusal → Failure
  | .channelManaged => .forbidden
    ("This reservation belongs to an external partner (Kars Avia) and cannot be " ++
      "cancelled from the hotel. Please cancel it through the partner that created it.")
  | .alreadyClosed => .conflict "Cannot cancel: reservation is already cancelled or checked out"

def swapNotFound : Failure := .notFound "One or both reservations not found"

def swapVersionMismatch : Failure :=
  .conflict "Reservation was modified by another user — please reload"

def differentRooms : Failure := .conflict "Cannot swap reservations from different rooms"

/-! ## Folios -/

/-- What was paid: refunds count against. -/
def totalPaid (payments : List (PaymentType × ℤ)) : ℤ :=
  payments.foldl (fun s p => if p.1 = .refund then s - p.2 else s + p.2) 0

def Folio.balance (f : Folio) : ℤ := f.charges.sum - totalPaid f.payments

/-- The folio's balance, zero where there is none. -/
def Hotel.balance (h : Hotel) (id : ReservationId) : ℤ :=
  ((h.folios.find id).map Folio.balance).getD 0

/-- The charges of a reservation's folio. -/
def Hotel.chargesOf (h : Hotel) (id : ReservationId) : List ℤ :=
  ((h.folios.find id).map Folio.charges).getD []

/-- The payments of a reservation's folio. -/
def Hotel.paymentsOf (h : Hotel) (id : ReservationId) : List (PaymentType × ℤ) :=
  ((h.folios.find id).map Folio.payments).getD []

theorem Hotel.balance_eq (h : Hotel) (id : ReservationId) :
    h.balance id = (h.chargesOf id).sum - totalPaid (h.paymentsOf id) := by
  unfold balance chargesOf paymentsOf
  cases h.folios.find id <;> rfl

/-- `toFixed(2)` of a positive sum of kopecks. -/
def toFixed2 (k : ℤ) : String :=
  toString (k / 100) ++ "." ++ (if k % 100 < 10 then "0" else "") ++ toString (k % 100)

def outstanding (balance : ℤ) : Failure := .conflict
  ("Cannot check out: outstanding balance of " ++ toFixed2 balance ++ " must be settled first")

section Operations

variable {E : Type}

/-- The folio with its charges and its payments: Prisma reads each by a SELECT of its own. -/
def readFolio (id : ReservationId) : Tx (hotelDb E) Failure (Option Folio) :=
  .read .folio fun h => match h.folios.find id with
    | none => .ret none
    | some _ => .read .charges fun h' => .read .payments fun h'' =>
      .ret (some ⟨id, h'.chargesOf id, h''.paymentsOf id⟩)

/-- A balance over one kopeck refuses the departure; without a folio nothing was charged. -/
def assertZeroBalance (id : ReservationId) : Tx (hotelDb E) Failure Unit := do
  match ← readFolio id with
  | none => .ret ()
  | some folio => if folio.balance > 1 then .throw (outstanding folio.balance) else .ret ()

/-! ## Create -/

/-- A partner's reservation of a key. -/
def Hotel.channelRow (h : Hotel) (partnerId : PartnerId) (key : String) : Option Reservation :=
  h.reservations.rows.find? fun r => decide (r.partnerId = some partnerId) && r.channelManaged &&
    decide (r.partnerIdempotencyKey = some key)

/-- The earlier answer to a partner's key; the same key with another payload is a conflict. -/
def channelReservation (channel : ReservationChannelContext) :
    Tx (hotelDb E) Failure (Option CreatedReservation) :=
  match channel.idempotency with
  | none => .ret none
  | some idem => .read .channelRow fun h => match h.channelRow channel.partnerId idem.key with
    | none => .ret none
    | some row =>
      if row.partnerPayloadHash ≠ some idem.payloadHash then .throw keyConflict
      else .ret (some row.created)

def CreateReservationDto.guests (dto : CreateReservationDto) : Guests :=
  ⟨dto.adults, dto.children.getD 0⟩

def CreateReservationDto.initialStatus (dto : CreateReservationDto) : ReservationStatus :=
  dto.status.getD .confirmed

/-- The row `create` inserts. -/
def CreateReservationDto.row (dto : CreateReservationDto) (stay : PartnerStayInfo)
    (channel : Option ReservationChannelContext) (newId : ReservationId) (roomTypeId : RoomTypeId)
    (placeNumber : ℕ) : Reservation where
  id := newId
  roomId := dto.roomId
  roomTypeId := roomTypeId
  guestName := dto.guestName
  phone := dto.phone
  email := dto.email
  checkIn := dto.checkIn.day
  checkOut := dto.checkOut.day
  status := dto.initialStatus
  source := dto.source.getD .direct
  adults := dto.adults
  children := dto.children.getD 0
  notes := dto.notes
  totalPrice := dto.totalPrice
  ratePlanId := dto.ratePlanId
  placeNumber := placeNumber
  channelManaged := if channel.isSome then true else dto.channelManaged.getD false
  partnerId := channel.map (·.partnerId)
  partnerIdempotencyKey := (channel.bind (·.idempotency)).map (·.key)
  partnerPayloadHash := (channel.bind (·.idempotency)).map (·.payloadHash)
  guestKind := dto.guestKind
  version := 1
  arrivalAt := stay.arrivalAt.toOption
  departureAt := stay.departureAt.toOption
  flight := stay.flight.toOption
  checkedInAt := none
  checkedOutAt := none

/-- The stays a creation looks at: those of the days of its instants. -/
def CreateReservationDto.others (dto : CreateReservationDto) (h : Hotel) : List PlaceHolder :=
  h.overlapping dto.roomId (dateOf (parseISO dto.checkIn)) (dateOf (parseISO dto.checkOut)) none

/-- Steps 1–4 of a creation: the room, a place in it, the row. `newId` is the drawn uuid. -/
def placeNew (dto : CreateReservationDto) (stay : PartnerStayInfo)
    (channel : Option ReservationChannelContext) (newId : ReservationId) :
    Tx (hotelDb E) Failure CreatedReservation :=
  .read .room fun h => match h.activeRoom dto.roomId with
    | none => .throw (rejected channel roomNotFound)
    | some (room, multiPlace) => .read .overlapping fun h' =>
      match allocatePlace room.capacity multiPlace dto.guests (dto.others h') with
      | none => .throw (rejected channel noPlaceAvailable)
      | some placeNumber =>
        let row := dto.row stay channel newId room.roomTypeId placeNumber
        if row.checked then
          .write (.reservation newId) (fun s => s.insertReservation row) fun s =>
            if s.accepts row then .ret row.created else .throw uniqueViolation
        else .throw rowCheckFailed

/-- Look the key up under its lock, then place the reservation. The flag of the answer says that it
is an earlier reservation. -/
def createTx (dto : CreateReservationDto) (stay : PartnerStayInfo)
    (channel : Option ReservationChannelContext) (newId : ReservationId) :
    Tx (hotelDb E) Failure (Bool × CreatedReservation) :=
  match channel with
  | some ⟨partnerId, some idem⟩ =>
    .lock (.reservationCreate partnerId idem.key) (do
      match ← channelReservation ⟨partnerId, some idem⟩ with
      | some replay => .ret (true, replay)
      | none =>
        let created ← placeNew dto stay channel newId
        .ret (false, created))
  | _ => do
    let created ← placeNew dto stay channel newId
    .ret (false, created)

/-- The transaction of `create`, behind the check of the dates. -/
def create (dto : CreateReservationDto) (stay : PartnerStayInfo)
    (channel : Option ReservationChannelContext) (newId : ReservationId) :
    Tx (hotelDb E) Failure (Bool × CreatedReservation) :=
  if parseISO dto.checkOut ≤ parseISO dto.checkIn then
    .throw (rejected channel checkOutBeforeCheckIn)
  else createTx dto stay channel newId

/-! ## Facts -/

/-- The UPDATE of a fact: its status, and the version. -/
def Reservation.withStatus (r : Reservation) (status : ReservationStatus) : Reservation :=
  { r with status := status, version := r.version + 1 }

/-- May the fact be recorded from this status; a departure only with the folio closed. -/
def admitFact (id : ReservationId) (fact : Fact) (status : ReservationStatus) :
    Tx (hotelDb E) Failure Bool :=
  if status ∉ (FACTS fact).allowed then .ret false
  else if fact = .checkedOut then do
    assertZeroBalance id
    .ret true
  else .ret true

/-- The traces of a fact: its moment, and a dirty room after a departure. `moment` is the
partner's, `now` the transaction's. -/
def stampFact (id : ReservationId) (fact : Fact) (roomId : RoomId) (moment : Option Moment)
    (now : Moment) : Tx (hotelDb E) Failure Unit :=
  match fact with
  | .checkedIn =>
    .write (.reservation id)
      (fun s => s.updateReservation id fun r => { r with checkedInAt := some (moment.getD now) })
      fun _ => .ret ()
  | .checkedOut =>
    .write (.reservation id)
      (fun s => s.updateReservation id fun r => { r with checkedOutAt := some (moment.getD now) })
      fun _ => .write (.room roomId) (fun s => s.setRoomStatus roomId .dirty) fun _ => .ret ()
  | .noShow => .ret ()

/-- `checkIn`, `checkOut`, `noShow` and the partner's facts. -/
def recordFact (id : ReservationId) (fact : Fact) (moment : Option Moment) (now : Moment) :
    Tx (hotelDb E) Failure Unit :=
  .read .row fun h => match h.reservations.find id with
    | none => .throw reservationNotFound
    | some cur => admitFact id fact cur.status >>= fun admitted =>
      if !admitted then .throw (wrongStatus fact)
      else .write (.reservation id)
        (fun s => s.updateReservation id fun r => r.withStatus fact.status)
        fun _ => stampFact id fact cur.roomId moment now

/-! ## Update -/

namespace UpdateReservationDto

variable (dto : UpdateReservationDto) (cur : Reservation)

/-- The hotel changes the number of guests of a partner's reservation. -/
def changesChannelGuests (fromChannel : Bool) : Bool :=
  cur.channelManaged && !fromChannel &&
    (dto.adults.isDefined && decide (dto.adults ≠ .val cur.adults) ||
      dto.children.isDefined && decide (dto.children ≠ .val cur.children))

def finalRoom : RoomId := dto.roomId.orElse cur.roomId

def finalCheckIn : Moment :=
  match dto.checkIn with
  | .val t => parseISO t
  | _ => startOf cur.checkIn

def finalCheckOut : Moment :=
  match dto.checkOut with
  | .val t => parseISO t
  | _ => startOf cur.checkOut

def finalStatus : ReservationStatus := dto.status.getD cur.status

def finalGuests : Guests := ⟨dto.adults.orElse cur.adults, dto.children.orElse cur.children⟩

/-- The fact the patch records: a repeated status is not a new one. -/
def fact : Option Fact :=
  if dto.finalStatus cur ≠ cur.status then isFact (dto.finalStatus cur) else none

def cancelling : Bool :=
  decide (dto.finalStatus cur ≠ cur.status ∧ dto.finalStatus cur = .cancelled)

/-- The patch carries a field the place depends on. -/
def touchesPlace : Bool :=
  dto.placeNumber.isDefined || dto.roomId.toOption.isSome || dto.checkIn.toOption.isSome ||
    dto.checkOut.toOption.isSome || dto.adults.isDefined || dto.children.isDefined

def changesRoom : Bool :=
  match dto.roomId with
  | .val roomId => decide (roomId ≠ cur.roomId)
  | _ => false

/-- The stays an update of reservation `id` looks at. -/
def others (h : Hotel) (id : ReservationId) : List PlaceHolder :=
  h.overlapping (dto.finalRoom cur) (dateOf (dto.finalCheckIn cur))
    (dateOf (dto.finalCheckOut cur)) (some id)

/-- The place of the stay in a room of this capacity beside these others. -/
def choosePlace (capacity : ℕ) (multiPlace : Bool) (others : List PlaceHolder) :
    Except Failure ℕ :=
  let guests := dto.finalGuests cur
  let assigned : Except Failure ℕ := match allocatePlace capacity multiPlace guests others with
    | some p => .ok p
    | none => .error noPlaceAvailable
  match dto.placeNumber with
  | .val p => if spanFree capacity multiPlace guests others p then .ok p else .error bookingConflict
  | .null => .error bookingConflict
  | .undefined =>
    if dto.changesRoom cur then assigned
    else if spanFree capacity multiPlace guests others cur.placeNumber then .ok cur.placeNumber
    else assigned

/-- The row the UPDATE leaves where `stored` was. -/
def write (stay : PartnerStayInfo) (roomTypeId : RoomTypeId) (placeNumber : ℕ)
    (stored : Reservation) : Reservation :=
  { stored with
    roomId := dto.finalRoom cur
    roomTypeId := roomTypeId
    checkIn := dateOf (dto.finalCheckIn cur)
    checkOut := dateOf (dto.finalCheckOut cur)
    guestName := dto.guestName.orElse cur.guestName
    phone := patchText dto.phone cur.phone
    email := patchText dto.email cur.email
    adults := dto.adults.orElse cur.adults
    children := dto.children.orElse cur.children
    status := dto.finalStatus cur
    source := dto.source.getD cur.source
    notes := patchText dto.notes cur.notes
    totalPrice := dto.totalPrice.patch cur.totalPrice
    placeNumber := placeNumber
    arrivalAt := stay.arrivalAt.patch cur.arrivalAt
    departureAt := stay.departureAt.patch cur.departureAt
    flight := stay.flight.patch cur.flight
    version := stored.version + 1 }

end UpdateReservationDto

/-- Step 4 of an update: the place, looked for again where the patch touches it. -/
def resolvePlace (id : ReservationId) (dto : UpdateReservationDto) (cur : Reservation) :
    Tx (hotelDb E) Failure ℕ :=
  if dto.touchesPlace then
    .read .room fun h => match h.activeRoom (dto.finalRoom cur) with
      | none => .throw roomNotFound
      | some (room, multiPlace) => .read .overlapping fun h' =>
        match dto.choosePlace cur room.capacity multiPlace (dto.others cur h' id) with
        | .error x => .throw x
        | .ok p => .ret p
  else .ret cur.placeNumber

/-- Step 5: the type of a new room. -/
def resolveRoomType (dto : UpdateReservationDto) (cur : Reservation) :
    Tx (hotelDb E) Failure RoomTypeId :=
  if dto.changesRoom cur then
    .read .roomType fun h => match h.activeRoom (dto.finalRoom cur) with
      | none => .throw roomNotFound
      | some (room, _) => .ret room.roomTypeId
  else .ret cur.roomTypeId

/-- Step 3a: a fact set by the form obeys the rule of the button. -/
def admitStatus (id : ReservationId) (dto : UpdateReservationDto) (cur : Reservation) :
    Tx (hotelDb E) Failure Unit :=
  match dto.fact cur with
  | none => .ret ()
  | some fact => admitFact id fact cur.status >>= fun admitted =>
    if !admitted then .throw (wrongStatus fact) else .ret ()

/-- Step 3b: the same for a cancellation. -/
def admitCancel (dto : UpdateReservationDto) (cur : Reservation) (fromChannel : Bool) :
    Tx (hotelDb E) Failure Unit :=
  if dto.cancelling cur then
    match cancelRefusal cur.status cur.channelManaged fromChannel with
    | some refusal => .throw (cancelRefused refusal)
    | none => .ret ()
  else .ret ()

/-- Step 6: the UPDATE of the whole row by its id, and the traces of a fact. -/
def writeRow (id : ReservationId) (dto : UpdateReservationDto) (opts : UpdateOptions)
    (cur : Reservation) (placeNumber : ℕ) (roomTypeId : RoomTypeId) (now : Moment) :
    Tx (hotelDb E) Failure Unit :=
  .write (.reservation id)
    (fun s => s.updateReservation id (dto.write cur opts.stay roomTypeId placeNumber))
    fun _ => match dto.fact cur with
      | none => .ret ()
      | some fact => stampFact id fact (dto.finalRoom cur) none now

/-- Steps 3–6, once the row was read and its version compared. -/
def updateRow (id : ReservationId) (dto : UpdateReservationDto) (opts : UpdateOptions)
    (cur : Reservation) (now : Moment) : Tx (hotelDb E) Failure Unit :=
  if dto.finalCheckOut cur ≤ dto.finalCheckIn cur then .throw checkOutBeforeCheckIn
  else do
    admitStatus id dto cur
    admitCancel dto cur opts.fromChannel
    let placeNumber ← resolvePlace id dto cur
    let roomTypeId ← resolveRoomType dto cur
    writeRow id dto opts cur placeNumber roomTypeId now

def update (id : ReservationId) (dto : UpdateReservationDto) (opts : UpdateOptions)
    (now : Moment) : Tx (hotelDb E) Failure Unit :=
  .read .row fun h => match h.reservations.find id with
    | none => .throw reservationNotFound
    | some cur =>
      if cur.version ≠ dto.version then .throw versionMismatch
      else if dto.changesChannelGuests cur opts.fromChannel then .throw channelGuests
      else updateRow id dto opts cur now

/-! ## Swap and cancel -/

/-- The UPDATE of a swap: the place, and the version. -/
def Reservation.movedTo (r : Reservation) (placeNumber : ℕ) : Reservation :=
  { r with placeNumber := placeNumber, version := r.version + 1 }

/-- Exchange the places of two reservations of one room. -/
def swap (dto : SwapReservationsDto) : Tx (hotelDb E) Failure Unit :=
  .read .rows fun h =>
    if dto.idA = dto.idB then .throw swapNotFound
    else match h.reservations.find dto.idA, h.reservations.find dto.idB with
      | some rowA, some rowB =>
        if rowA.version ≠ dto.versionA ∨ rowB.version ≠ dto.versionB then .throw swapVersionMismatch
        else if rowA.roomId ≠ rowB.roomId then .throw differentRooms
        else
          .write (.reservation dto.idA)
            (fun s => s.updateReservation dto.idA fun r => r.movedTo rowB.placeNumber)
            fun _ => .write (.reservation dto.idB)
              (fun s => s.updateReservation dto.idB fun r => r.movedTo rowA.placeNumber)
              fun _ => .ret ()
      | _, _ => .throw swapNotFound

/-- `COALESCE(notes, '') || suffix`. -/
def cancelNotes (notes : Option String) (reason : Option String) : Option String :=
  some (notes.getD "" ++ match reason with
    | some text => if text = "" then "" else "\n[Cancelled: " ++ text ++ "]"
    | none => "")

/-- The UPDATE of a cancellation: status, notes, and the version. -/
def Reservation.cancelledFor (r : Reservation) (reason : Option String) : Reservation :=
  { r with status := .cancelled, notes := cancelNotes r.notes reason, version := r.version + 1 }

def cancel (id : ReservationId) (reason : Option String) (fromChannel : Bool) :
    Tx (hotelDb E) Failure Unit :=
  .read .row fun h => match h.reservations.find id with
    | none => .throw reservationNotFound
    | some cur => match cancelRefusal cur.status cur.channelManaged fromChannel with
      | some refusal => .throw (cancelRefused refusal)
      | none =>
        .write (.reservation id)
          (fun s => s.updateReservation id fun r => r.cancelledFor reason) fun _ => .ret ()

end Operations

/-! ## One at a time -/

/-- An operation of the service with its arguments; `folios` is whatever the folio service leaves
between two of them. -/
inductive Op where
  | create (dto : CreateReservationDto) (stay : PartnerStayInfo)
      (channel : Option ReservationChannelContext) (newId : ReservationId)
  | update (id : ReservationId) (dto : UpdateReservationDto) (opts : UpdateOptions) (now : Moment)
  | swap (dto : SwapReservationsDto)
  | cancel (id : ReservationId) (reason : Option String) (fromChannel : Bool)
  | recordFact (id : ReservationId) (fact : Fact) (moment : Option Moment) (now : Moment)
  | folios (folios : Table Folio.reservationId)

/-- The transaction of an operation. -/
def Op.body {E : Type} : Op → Tx (hotelDb E) Failure Unit
  | .create dto stay channel newId => do
    let _ ← KarsHotel.create dto stay channel newId
    .ret ()
  | .update id dto opts now => KarsHotel.update id dto opts now
  | .swap dto => KarsHotel.swap dto
  | .cancel id reason fromChannel => KarsHotel.cancel id reason fromChannel
  | .recordFact id fact moment now => KarsHotel.recordFact id fact moment now
  | .folios _ => .ret ()

/-- The state after one operation: a refused one leaves it as it was. -/
def step (h : Hotel) : Op → Hotel
  | .folios folios => { h with folios := folios }
  | op => match (op.body (E := Unit)).exec h with
    | .ok (_, h') => h'
    | .error _ => h

/-- The state after the operations of a list. -/
def run (h : Hotel) (ops : List Op) : Hotel := ops.foldl step h

/-! ## Small inputs -/

/-- A hotel of one active room for two, without reservations. -/
def Hotel.oneRoom (multiPlace : Bool) : Hotel where
  multiPlaceEnabled := multiPlace
  rooms := ⟨[⟨1, 1, 2, true, .ready⟩], by decide⟩
  reservations := .empty
  folios := .empty

/-- One adult for the night of day 0 in room 1. -/
def CreateReservationDto.oneNight : CreateReservationDto where
  roomId := 1
  guestName := "Guest"
  phone := none
  email := none
  checkIn := .ofDay 0
  checkOut := .ofDay 1
  adults := 1
  children := none
  status := none
  source := none
  notes := none
  totalPrice := none
  ratePlanId := none
  channelManaged := none
  guestKind := none

/-- A patch with the version alone. -/
def UpdateReservationDto.ofVersion (version : ℕ) : UpdateReservationDto where
  version := version
  roomId := .undefined
  guestName := .undefined
  phone := .undefined
  email := .undefined
  checkIn := .undefined
  checkOut := .undefined
  adults := .undefined
  children := .undefined
  status := none
  source := none
  notes := .undefined
  placeNumber := .undefined
  totalPrice := .undefined

/-- The hotel's own form. -/
def UpdateOptions.form : UpdateOptions := ⟨false, .empty⟩

end KarsHotel
