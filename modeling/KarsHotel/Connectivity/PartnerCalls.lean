import KarsHotel.Connectivity.CreateReservation
import KarsHotel.Lib.Calendar
import KarsHotel.Lib.Part
import Mathlib.Data.List.Sort

/-!
# A partner's calls on its reservations

The calls of the connectivity service on one reservation: reading, changing, cancelling it, its
meal days and the facts of its stay. Each is a session of several transactions; all go through
`getReservation`.

* `MealDay`, `ConnectStore`, `connectDb`: the store of one hotel with the meal days;
* `getReservation`, `updateReservation`, `recordStayFact`, `cancelReservation`,
  `setReservationMeals`, `getReservationMeals`, `getFacts`: the calls;
* `PartnerRequest`, `PartnerRequest.call`: a call with its arguments.

The days of a stay and of a meal stand for their texts `YYYY-MM-DD`.
-/

namespace KarsHotel

/-! ## The store -/

/-- A row of `reservation_meal_day`. -/
structure MealDay where
  reservationId : ReservationId
  date : Day
  breakfast : ℕ
  lunch : ℕ
  dinner : ℕ
  deriving DecidableEq, Repr

/-- Its unique index. -/
def MealDay.key (m : MealDay) : ReservationId × Day := (m.reservationId, m.date)

/-- The tables of one hotel that the calls see; `roomNumber` is the number on the door. -/
structure ConnectStore where
  hotel : Hotel
  meals : Table MealDay.key
  roomNumber : RoomId → String

namespace ConnectStore

/-- The meal days of a reservation. -/
def mealsOf (s : ConnectStore) (id : ReservationId) : List MealDay :=
  s.meals.select fun m => decide (m.reservationId = id)

/-- Replace the meal days of a reservation. -/
def setMeals (s : ConnectStore) (id : ReservationId) (rows : List MealDay) : ConnectStore :=
  { s with
    meals := rows.foldl Table.insert (s.meals.remove fun m => decide (m.reservationId = id)) }

/-- The number of the room of a reservation. -/
def numberOf (s : ConnectStore) (roomId : RoomId) : Option String :=
  (s.hotel.rooms.find roomId).map fun _ => s.roomNumber roomId

end ConnectStore

inductive ConnectQuery where
  | hotel (q : HotelQuery)
  | meals
  deriving DecidableEq, Repr

inductive ConnectRow where
  | hotel (r : HotelRow)
  | meals (id : ReservationId)
  | folios
  deriving DecidableEq, Repr

/-- What a call learns outside the store: what a booking asks for, and the clock. -/
structure CallEnv where
  booking : ConnectEnv
  now : Moment

/-- The store of one hotel as the calls use it. -/
abbrev connectDb : Db := ⟨ConnectStore, ConnectQuery, ConnectRow, HotelLock, CallEnv⟩

/-- The reservation store in it. -/
def hotelPart {E : Type} (env : CallEnv → E) : Part (hotelDb E) connectDb where
  get s := s.hotel
  set s h := { s with hotel := h }
  query := .hotel
  row := .hotel
  lock := id
  env := env
  get_set _ _ := rfl
  set_get _ := rfl
  set_set _ _ _ := rfl

/-- A transaction of the reservation service. -/
def service {α : Type} (t : Tx (hotelDb Unit) Failure α) : Prog connectDb Failure α :=
  t.transact.within (hotelPart fun _ => ())

/-! ## Requests and answers -/

/-- A hotel of the platform. -/
structure TenantRow extends Tenant where
  currency : String
  isActive : Bool
  deriving DecidableEq

structure ConnectUpdateReservationDto where
  checkIn : Field IsoDate
  checkOut : Field IsoDate
  roomId : Field RoomId
  guestName : Field String
  phone : Field String
  email : Field String
  adults : Field ℕ
  children : Field ℕ
  comment : Field String
  arrivalAt : Field String
  departureAt : Field String
  flight : Field String
  version : Field ℕ

structure ConnectMealDayDto where
  date : Day
  breakfast : ℕ
  lunch : ℕ
  dinner : ℕ

/-- The facts a partner records. -/
inductive StayFact where
  | checkedIn
  | checkedOut
  deriving DecidableEq

def StayFact.fact : StayFact → Fact
  | .checkedIn => .checkedIn
  | .checkedOut => .checkedOut

/-- The statuses in which the fact is recorded already. -/
def StayFact.done : StayFact → List ReservationStatus
  | .checkedIn => [.checkedIn, .checkedOut]
  | .checkedOut => [.checkedOut]

/-- A reservation as the partner sees it. -/
structure ReservationView where
  id : ReservationId
  hotelId : ℕ
  slug : String
  categoryId : RoomTypeId
  roomId : RoomId
  roomNumber : Option String
  placeNumber : ℕ
  guestName : String
  phone : Option String
  checkIn : Day
  checkOut : Day
  status : ReservationStatus
  adults : ℕ
  children : ℕ
  totalPrice : Option ℤ
  currency : String
  version : ℕ
  notes : Option String
  checkedInAt : Option Moment
  checkedOutAt : Option Moment
  arrivalAt : Option String
  departureAt : Option String
  flight : Option String
  deriving DecidableEq

structure StayFacts where
  reservationId : ReservationId
  status : ReservationStatus
  noShow : Bool
  guestsBooked : ℕ
  guestsArrived : ℕ
  checkedInAt : Option Moment
  checkedOutAt : Option Moment
  deriving DecidableEq

structure MealTotals where
  breakfast : ℕ
  lunch : ℕ
  dinner : ℕ
  deriving DecidableEq

structure ReservationMeals where
  reservationId : ReservationId
  days : List MealDay
  totals : MealTotals
  deriving DecidableEq

structure CancelledReservation where
  id : ReservationId
  status : ReservationStatus
  version : Option ℕ
  cancelled : Bool
  deriving DecidableEq

section Calls

variable (tenant : TenantRow) (id : ReservationId) (partnerId : PartnerId)

/-! ## Reading -/

def notFoundInHotel : Failure :=
  .notFound ("Reservation " ++ id.repr ++ " not found in hotel " ++ tenant.slug)

def mapReservation (r : Reservation) (roomNumber : Option String) : ReservationView where
  id := r.id
  hotelId := tenant.id
  slug := tenant.slug
  categoryId := r.roomTypeId
  roomId := r.roomId
  roomNumber := roomNumber
  placeNumber := r.placeNumber
  guestName := r.guestName
  phone := r.phone
  checkIn := r.checkIn
  checkOut := r.checkOut
  status := r.status
  adults := r.adults
  children := r.children
  totalPrice := r.totalPrice
  currency := tenant.currency
  version := r.version
  notes := r.notes
  checkedInAt := r.checkedInAt
  checkedOutAt := r.checkedOutAt
  arrivalAt := r.arrivalAt
  departureAt := r.departureAt
  flight := r.flight

/-- The row of an id with the number of its room. -/
def readReservation : Tx connectDb Failure (Option (Reservation × Option String)) :=
  .read (.hotel .row) fun s =>
    .ret ((s.hotel.reservations.find id).map fun r => (r, s.numberOf r.roomId))

/-- A partner sees the reservations it has made itself; any other does not exist for it. -/
def getReservation : Prog connectDb Failure ReservationView := do
  match ← (readReservation id).transact with
  | none => .throw (notFoundInHotel tenant id)
  | some (row, roomNumber) =>
    if !row.channelManaged ∨ row.partnerId ≠ some partnerId then .throw (notFoundInHotel tenant id)
    else .ret (mapReservation tenant row roomNumber)

def getFacts : Prog connectDb Failure StayFacts := do
  let r ← getReservation tenant id partnerId
  let arrived := decide (r.status = .checkedIn ∨ r.status = .checkedOut)
  let guestsBooked := r.adults + r.children
  .ret ⟨r.id, r.status, decide (r.status = .noShow), guestsBooked,
    if arrived then guestsBooked else 0, if arrived then r.checkedInAt else none,
    if r.status = .checkedOut then r.checkedOutAt else none⟩

/-- The meal days of a reservation in their order. -/
def readMeals : Tx connectDb Failure (List MealDay) :=
  .read .meals fun s => .ret ((s.mealsOf id).insertionSort fun a b => a.date ≤ b.date)

def getReservationMeals : Prog connectDb Failure ReservationMeals := do
  let _ ← getReservation tenant id partnerId
  let rows ← (readMeals id).transact
  .ret ⟨id, rows, (rows.map (·.breakfast)).sum, (rows.map (·.lunch)).sum,
    (rows.map (·.dinner)).sum⟩

/-! ## Writing -/

def foreignReservation : Failure := .forbidden
  ("Reservation " ++ id.repr ++
    " belongs to the hotel, not to the partner channel — it cannot be changed through this API")

/-- The body of `update` for a partner's change. -/
def ConnectUpdateReservationDto.toUpdate (dto : ConnectUpdateReservationDto) (version : ℕ) :
    UpdateReservationDto where
  version := dto.version.orElse version
  roomId := dto.roomId
  guestName := dto.guestName
  phone := dto.phone
  email := dto.email
  checkIn := dto.checkIn
  checkOut := dto.checkOut
  adults := dto.adults
  children := dto.children
  status := none
  source := none
  notes := dto.comment
  placeNumber := .undefined
  totalPrice := .undefined

def ConnectUpdateReservationDto.options (dto : ConnectUpdateReservationDto) : UpdateOptions :=
  ⟨true, dto.arrivalAt, dto.departureAt, dto.flight⟩

def updateReservation (dto : ConnectUpdateReservationDto) :
    Prog connectDb Failure ReservationView := do
  let _ ← getReservation tenant id partnerId
  match ← (readReservation id).transact with
  | none => .throw (foreignReservation id)
  | some (row, _) =>
    if !row.channelManaged then .throw (foreignReservation id)
    else
      .ask fun env => do
        service (update id (dto.toUpdate row.version) dto.options env.now)
        getReservation tenant id partnerId

def factInFuture : Failure := .badRequest "Факт заезда или выезда не может быть в будущем"

/-- How far ahead of the clock a fact may be: five minutes. -/
def factTolerance : ℤ := 5 * 60 * 1000

/-- A fact that is recorded already is answered with what there is. -/
def recordStayFact (fact : StayFact) (moment : Option Moment) :
    Prog connectDb Failure StayFacts := do
  let r ← getReservation tenant id partnerId
  .ask fun env =>
    let moment := moment.getD env.now
    if moment > env.now + factTolerance then .throw factInFuture
    else do
      if r.status ∉ fact.done then
        service (recordFact id fact.fact (some moment) env.now)
      getFacts tenant id partnerId

/-- `cancel` with the version its UPDATE returns. -/
def cancelReturning (reason : Option String) : Tx (hotelDb Unit) Failure (Option ℕ) := do
  cancel id reason true
  .read .row fun h => .ret ((h.reservations.find id).map (·.version))

def cancelReservation (reason : Option String) : Prog connectDb Failure CancelledReservation := do
  let _ ← getReservation tenant id partnerId
  let version ← service (cancelReturning id reason)
  .ret ⟨id, .cancelled, version, true⟩

def mealsOutsideStay (checkIn checkOut : Day) (outside : List Day) : Failure := .conflict
  ("Meal days outside the stay " ++ isoDate checkIn ++ "…" ++ isoDate checkOut ++ ": " ++
    String.intercalate ", " (outside.map isoDate))

def duplicateMealDay (day : Day) : Failure := .conflict ("Duplicate meal day " ++ isoDate day)

/-- The first day that a list names again. -/
def firstDuplicate : List Day → List Day → Option Day
  | _, [] => none
  | seen, day :: days => if day ∈ seen then some day else firstDuplicate (day :: seen) days

/-- The rows of a meal plan; a day without portions has none. -/
def mealRows (days : List ConnectMealDayDto) : List MealDay :=
  (days.filter fun d => decide (d.breakfast + d.lunch + d.dinner > 0)).map fun d =>
    ⟨id, d.date, d.breakfast, d.lunch, d.dinner⟩

/-- The plan is replaced as a whole. -/
def replaceMeals (days : List ConnectMealDayDto) : Tx connectDb Failure Unit :=
  .write (.meals id) (fun s => s.setMeals id (mealRows id days)) fun _ => .ret ()

def setReservationMeals (days : List ConnectMealDayDto) : Prog connectDb Failure ReservationMeals := do
  let r ← getReservation tenant id partnerId
  let dates := days.map (·.date)
  match dates.filter fun day => decide (day < r.checkIn ∨ day > r.checkOut) with
  | [] =>
    match firstDuplicate [] dates with
    | some day => .throw (duplicateMealDay day)
    | none =>
      (replaceMeals id days).transact
      getReservationMeals tenant id partnerId
  | outside => .throw (mealsOutsideStay r.checkIn r.checkOut outside)

end Calls

/-! ## Calls -/

/-- A call on one reservation with its arguments. -/
inductive PartnerRequest where
  | get
  | update (dto : ConnectUpdateReservationDto)
  | cancel (reason : Option String)
  | setMeals (days : List ConnectMealDayDto)
  | getMeals
  | getFacts
  | recordStayFact (fact : StayFact) (moment : Option Moment)

inductive PartnerAnswer where
  | reservation (r : ReservationView)
  | cancelled (r : CancelledReservation)
  | meals (m : ReservationMeals)
  | facts (f : StayFacts)
  deriving DecidableEq

def PartnerRequest.call (tenant : TenantRow) (partnerId : PartnerId) (id : ReservationId) :
    PartnerRequest → Prog connectDb Failure PartnerAnswer
  | .get => do return .reservation (← getReservation tenant id partnerId)
  | .update dto => do return .reservation (← updateReservation tenant id partnerId dto)
  | .cancel reason => do return .cancelled (← cancelReservation tenant id partnerId reason)
  | .setMeals days => do return .meals (← setReservationMeals tenant id partnerId days)
  | .getMeals => do return .meals (← getReservationMeals tenant id partnerId)
  | .getFacts => do return .facts (← KarsHotel.getFacts tenant id partnerId)
  | .recordStayFact fact moment => do
    return .facts (← KarsHotel.recordStayFact tenant id partnerId fact moment)

/-! ## Small inputs -/

/-- A hotel of one active room for two, without reservations. -/
def ConnectStore.oneRoom : ConnectStore := ⟨.oneRoom false, .empty, fun _ => "1"⟩

/-- A hotel without plans, at time zero. -/
def CallEnv.noPlans : CallEnv := ⟨.noPlans, 0⟩

end KarsHotel
