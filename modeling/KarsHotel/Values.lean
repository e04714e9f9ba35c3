import Mathlib.Data.Int.Notation
import Mathlib.Tactic.Common

/-!
# Values of requests and answers

* `Field`: a field of a request body after validation, which keeps `undefined` and `null` apart;
* `Day`, `Moment`, `IsoDate`: calendar days, instants in milliseconds and the date texts a request
  carries (server and database session in UTC);
* `Failure`: a thrown exception with what `getStatus` and `getResponse` give.
-/

namespace KarsHotel

abbrev TenantId := ℕ

/-- A field of a request body. -/
inductive Field (α : Type) where
  | undefined
  | null
  | val (a : α)
  deriving DecidableEq, Repr

namespace Field

variable {α : Type}

/-- `x ?? d`. -/
def orElse : Field α → α → α
  | val a, _ => a
  | _, d => d

/-- `x !== undefined`. -/
def isDefined : Field α → Bool
  | undefined => false
  | _ => true

/-- `null` and `undefined` both become `none`. -/
def toOption : Field α → Option α
  | val a => some a
  | _ => none

/-- `x !== undefined ? x : old`, for a nullable column. -/
def patch : Field α → Option α → Option α
  | undefined, old => old
  | null, _ => none
  | val a, _ => some a

theorem toOption_eq_some {x : Field α} {a : α} : x.toOption = some a ↔ x = val a := by
  cases x <;> simp [toOption]

theorem orElse_of_toOption {x : Field α} (h : x.toOption.isSome = false) (d : α) :
    x.orElse d = d := by
  cases x with
  | val a => cases h
  | undefined => rfl
  | null => rfl

theorem orElse_of_isDefined {x : Field α} (h : x.isDefined = false) (d : α) :
    x.orElse d = d := by
  cases x with
  | undefined => rfl
  | null => cases h
  | val a => cases h

end Field

/-- `x !== undefined ? x || null : old`, for a text column: an empty text becomes `null`. -/
def patchText : Field String → Option String → Option String
  | .undefined, old => old
  | .null, _ => none
  | .val a, _ => if a = "" then none else some a

/-! ## Dates -/

/-- A calendar day, counted from 1970-01-01. -/
abbrev Day := ℤ

/-- A `Date`: milliseconds from 1970-01-01T00:00Z. -/
abbrev Moment := ℤ

def dayMs : ℤ := 86400000

/-- `m::date` of an instant, and `format(m, 'yyyy-MM-dd')`. -/
def dateOf (m : Moment) : Day := m / dayMs

/-- The instant at which a day begins: what a `@db.Date` column is read as. -/
def startOf (d : Day) : Moment := d * dayMs

@[simp] theorem dateOf_startOf (d : Day) : dateOf (startOf d) = d := by
  simp [dateOf, startOf, dayMs]

/-- An ISO 8601 text (`@IsDateString`): its calendar day, and where the text has them its time of
day and its zone offset, in milliseconds. -/
structure IsoDate where
  day : Day
  time : ℕ
  offset : ℤ
  deriving DecidableEq, Repr

/-- The text of a bare calendar day. -/
def IsoDate.ofDay (d : Day) : IsoDate := ⟨d, 0, 0⟩

/-- The instant a date text names. -/
def parseISO (t : IsoDate) : Moment := startOf t.day + t.time - t.offset

@[simp] theorem dateOf_parseISO_ofDay (d : Day) : dateOf (parseISO (.ofDay d)) = d := by
  simp [parseISO, IsoDate.ofDay]

/-! ## Failures -/

/-- An exception. `status` is that of an `HttpException` (`none` for any other error), `code` the
field of its response body. -/
structure Failure where
  status : Option ℕ
  message : String
  code : Option String
  deriving DecidableEq, Repr

namespace Failure

def badRequest (m : String) : Failure := ⟨some 400, m, none⟩
def unauthorized (m : String) : Failure := ⟨some 401, m, none⟩
def forbidden (m : String) : Failure := ⟨some 403, m, none⟩
def notFound (m : String) : Failure := ⟨some 404, m, none⟩
def conflict (m : String) : Failure := ⟨some 409, m, none⟩
def gone (m : String) : Failure := ⟨some 410, m, none⟩

/-- An error that is not an `HttpException`. -/
def internal (m : String) : Failure := ⟨none, m, none⟩

end Failure

/-- A sequence of checks that succeeds: each of them has. -/
theorem bind_ok_iff {ε α β : Type} {a : Except ε α} {f : α → Except ε β} {b : β} :
    (a >>= f) = .ok b ↔ ∃ x, a = .ok x ∧ f x = .ok b := by
  cases a with
  | error x => simp [bind, Except.bind]
  | ok x => simp [bind, Except.bind]

theorem map_ok_iff {ε α β : Type} {a : Except ε α} {f : α → β} {b : β} :
    a.map f = .ok b ↔ ∃ x, a = .ok x ∧ f x = b := by
  cases a with
  | error e => simp [Except.map]
  | ok x => simp [Except.map]

end KarsHotel
