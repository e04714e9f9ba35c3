import KarsHotel.Inventory.Inventory
import KarsHotel.Lib.UtcDay
import Mathlib.Data.List.Sort

/-!
# The restrictions service

The rules of a stay, day by day, with a text for every rule that is broken.

* `bestRow`: the row of a day, a plan's own before the general one;
* `nightViolations`, `arrivalViolations`, `advanceViolations`, `departureViolations`: the rules;
* `RestrictionsService.check`: all of them over a stay.
-/

namespace KarsHotel

inductive ViolationCode where
  | closed
  | stopSell
  | cta
  | ctd
  | minLos
  | maxLos
  | minLosArrival
  | maxLosArrival
  | minAdvance
  | maxAdvance
  deriving DecidableEq, Repr

/-- The codes of the booking window. -/
def ViolationCode.IsAdvance (c : ViolationCode) : Prop := c = .minAdvance ∨ c = .maxAdvance

structure Violation where
  code : ViolationCode
  date : Option String
  detail : String
  deriving DecidableEq, Repr

structure CheckRestrictionsInput where
  ratePlanId : Option RatePlanId
  roomTypeId : RoomTypeId
  arrival : Moment
  departure : Moment
  now : Option Moment

structure CheckRestrictionsResult where
  allowed : Bool
  nights : ℕ
  violations : List Violation
  deriving DecidableEq, Repr

namespace RestrictionsService

section Rows

variable (rows : List Restriction) (roomTypeId : RoomTypeId) (ratePlanId : Option RatePlanId)

/-- `planFilter`: the general rows and those of the plan asked for. -/
def planFilter (r : Restriction) : Bool :=
  match ratePlanId with
  | some planId => decide (r.ratePlanId = none) || decide (r.ratePlanId = some planId)
  | none => decide (r.ratePlanId = none)

/-- The rows of the days from `first` to `last`. -/
def rowsOf (first last : Day) : List Restriction :=
  rows.filter fun r => decide (r.roomTypeId = roomTypeId) &&
    (decide (first ≤ r.date) && decide (r.date ≤ last)) && planFilter ratePlanId r

/-- One turn of the loop that fills `byDate`: a plan's row replaces a general one. -/
def pickRow : Option Restriction → Restriction → Option Restriction
  | none, r => some r
  | some existing, r =>
    if r.ratePlanId.isSome && existing.ratePlanId.isNone then some r else some existing

def bestRow (rows : List Restriction) (day : Day) : Option Restriction :=
  (rows.filter fun r => decide (r.date = day)).foldl pickRow none

/-- `ORDER BY rate_plan_id DESC`, in which the rows without a plan come first. -/
def planDesc (a b : Restriction) : Prop :=
  match a.ratePlanId, b.ratePlanId with
  | none, _ => True
  | some _, none => False
  | some p, some q => q ≤ p

instance : DecidableRel planDesc := fun a b => by
  unfold planDesc
  split <;> infer_instance

def departureRow (departure : Day) : Option Restriction :=
  ((rows.filter fun r => decide (r.roomTypeId = roomTypeId) && decide (r.date = departure) &&
    planFilter ratePlanId r).insertionSort planDesc).head?

end Rows

/-! ## The rules -/

/-- A violation, if the rule is broken. -/
def violated (broken : Bool) (v : Violation) : List Violation := if broken then [v] else []

/-- The days of a limit are too few for the stay. -/
def Below (limit : Option ℕ) (nights : ℕ) : Prop := ∃ n, limit = some n ∧ nights < n

/-- The days of a limit are too many for the stay. -/
def Above (limit : Option ℕ) (nights : ℕ) : Prop := ∃ n, limit = some n ∧ n < nights

instance (limit : Option ℕ) (nights : ℕ) : Decidable (Below limit nights) := by
  unfold Below
  cases limit with
  | none => exact isFalse fun ⟨_, h, _⟩ => by cases h
  | some n => exact decidable_of_iff (nights < n) (by simp)

instance (limit : Option ℕ) (nights : ℕ) : Decidable (Above limit nights) := by
  unfold Above
  cases limit with
  | none => exact isFalse fun ⟨_, h, _⟩ => by cases h
  | some n => exact decidable_of_iff (n < nights) (by simp)

def number (limit : Option ℕ) : String := toString (limit.getD 0)

def nightViolations (nights : ℕ) (day : Day) (r : Restriction) : List Violation :=
  let date := isoDate day
  violated r.closed ⟨.closed, some date, "Дата " ++ date ++ " закрыта для бронирования"⟩ ++
    violated r.stopSell ⟨.stopSell, some date, "Продажи на " ++ date ++ " остановлены"⟩ ++
    violated (decide (Below r.minLos nights)) ⟨.minLos, some date,
      "Минимум проживания на " ++ date ++ ": " ++ number r.minLos ++ " ночей (запрошено " ++
        toString nights ++ ")"⟩ ++
    violated (decide (Above r.maxLos nights)) ⟨.maxLos, some date,
      "Максимум проживания на " ++ date ++ ": " ++ number r.maxLos ++ " ночей (запрошено " ++
        toString nights ++ ")"⟩

/-- The rules of the day of arrival. -/
def arrivalViolations (nights : ℕ) (day : Day) (r : Restriction) : List Violation :=
  let date := isoDate day
  violated r.cta ⟨.cta, some date, "Заезд на " ++ date ++ " закрыт (CTA)"⟩ ++
    violated (decide (Below r.minLosArrival nights)) ⟨.minLosArrival, some date,
      "Минимум при заезде " ++ date ++ ": " ++ number r.minLosArrival ++ " ночей"⟩ ++
    violated (decide (Above r.maxLosArrival nights)) ⟨.maxLosArrival, some date,
      "Максимум при заезде " ++ date ++ ": " ++ number r.maxLosArrival ++ " ночей"⟩

/-- The booking window, measured from today to the arrival. -/
def advanceViolations (advanceDays : ℤ) (r : Restriction) : List Violation :=
  violated (r.minAdvance.any fun n => decide (advanceDays < (n : ℤ))) ⟨.minAdvance, none,
      "До заезда " ++ number r.minAdvance ++ " дней (осталось " ++ toString advanceDays ++ ")"⟩ ++
    violated (r.maxAdvance.any fun n => decide ((n : ℤ) < advanceDays)) ⟨.maxAdvance, none,
      "Можно бронировать максимум за " ++ number r.maxAdvance ++ " дней до заезда"⟩

/-- The rule of the day of departure. -/
def departureViolations (day : Day) (r : Restriction) : List Violation :=
  let date := isoDate day
  violated r.ctd ⟨.ctd, some date, "Выезд на " ++ date ++ " закрыт (CTD)"⟩

def startOfUTC (m : Moment) : Day := utcDay (dateOf m)

def addDays (d : Day) (n : ℤ) : Day := utcAddDays d n

def violations (rows : List Restriction) (roomTypeId : RoomTypeId)
    (ratePlanId : Option RatePlanId) (arrival departure now : Day) : List Violation :=
  let nights := (departure - arrival).toNat
  let stay := rowsOf rows roomTypeId ratePlanId arrival (departure - 1)
  ((List.range nights).flatMap fun i : ℕ =>
      (bestRow stay (addDays arrival (i : ℤ))).elim []
        (nightViolations nights (addDays arrival (i : ℤ)))) ++
    (bestRow stay arrival).elim [] (fun r =>
      arrivalViolations nights arrival r ++ advanceViolations (arrival - now) r) ++
    (departureRow rows roomTypeId ratePlanId departure).elim [] (departureViolations departure)

/-- `clock` is the current moment. -/
def check (x : TenantStore) (input : CheckRestrictionsInput) (clock : Moment) :
    Except Failure CheckRestrictionsResult :=
  let arrival := startOfUTC input.arrival
  let departure := startOfUTC input.departure
  let now := startOfUTC (input.now.getD clock)
  if departure ≤ arrival then .ok ⟨true, 0, []⟩
  else match x.prices.roomTypes.find input.roomTypeId with
    | none => .error (.notFound "Категория номера не найдена")
    | some _ =>
      let found := violations x.restrictions input.roomTypeId input.ratePlanId arrival departure now
      .ok ⟨found.isEmpty, (departure - arrival).toNat, found⟩

end RestrictionsService

end KarsHotel
