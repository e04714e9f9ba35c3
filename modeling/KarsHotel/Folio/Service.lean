import KarsHotel.Connectivity.PartnerCalls
import KarsHotel.Lib.Lift

/-!
# The folio service

* `FolioDesk`: the reservation store of one hotel with its folios, their charges and payments;
* `FolioDesk.owed`: the balance of a folio; `balance_desk`: it is the one a departure checks;
* `folioLift`: the other services over it;
* `addCharge`, `addPayment`, `deleteCharge`, `getOrCreate`: the service.

A folio is named by its reservation.
-/

namespace KarsHotel

/-! ## The store -/

inductive FolioPaymentType where
  | payment
  | deposit
  | refund
  deriving DecidableEq, Repr

/-- What the balance tells apart: refunds, and all the rest. -/
def FolioPaymentType.counted : FolioPaymentType → PaymentType
  | .refund => .refund
  | _ => .payment

/-- A row of `folio`. -/
structure FolioRow where
  reservationId : ReservationId
  deriving DecidableEq, Repr

/-- A row of `folio_charge`; its total in kopecks. -/
structure FolioCharge where
  id : ℕ
  folioId : ReservationId
  total : ℕ
  deriving DecidableEq, Repr

/-- A row of `payment`; its amount in kopecks. -/
structure FolioPayment where
  id : ℕ
  folioId : ReservationId
  type : FolioPaymentType
  amount : ℕ
  deriving DecidableEq, Repr

/-- The tables of one hotel that the folio service sees, beside those of the other services. -/
structure FolioDesk where
  connect : ConnectStore
  folios : Table FolioRow.reservationId
  charges : Table FolioCharge.id
  payments : Table FolioPayment.id

namespace FolioDesk

variable (s : FolioDesk) (id : ReservationId)

def folio : Folio where
  reservationId := id
  charges := (s.charges.select fun c => decide (c.folioId = id)).map fun c => (c.total : ℤ)
  payments := (s.payments.select fun p => decide (p.folioId = id)).map
    fun p => (p.type.counted, (p.amount : ℤ))

/-- Every folio with its rows. -/
def assembled : Table Folio.reservationId where
  rows := s.folios.rows.map fun f => s.folio f.reservationId
  nodup := by
    rw [List.map_map]
    exact s.folios.nodup

/-- What the other services see. -/
def desk : ConnectStore :=
  { s.connect with hotel := { s.connect.hotel with folios := s.assembled } }

/-- The folio of a reservation, with its rows. -/
def account : Option Folio := s.assembled.find id

/-- The charges of the folio of a reservation, less its payments, plus its refunds. -/
def owed : ℤ :=
  if (s.folios.find id).isSome then
    ((s.charges.select fun c => decide (c.folioId = id)).map fun c => (c.total : ℤ)).sum -
      ((s.payments.select fun p => decide (p.folioId = id)).map
        fun p => if p.type = .refund then -(p.amount : ℤ) else p.amount).sum
  else 0

variable {s id}

theorem totalPaid_map (ps : List FolioPayment) :
    totalPaid (ps.map fun p => (p.type.counted, (p.amount : ℤ))) =
      (ps.map fun p => if p.type = .refund then -(p.amount : ℤ) else p.amount).sum := by
  have hfold : ∀ (ps : List FolioPayment) (n : ℤ),
      (ps.map fun p => (p.type.counted, (p.amount : ℤ))).foldl
        (fun s p => if p.1 = .refund then s - p.2 else s + p.2) n =
      n + (ps.map fun p => if p.type = .refund then -(p.amount : ℤ) else p.amount).sum := by
    intro ps
    induction ps with
    | nil => simp
    | cons p ps ih =>
      intro n
      simp only [List.map_cons, List.foldl_cons, List.sum_cons, ih]
      cases hp : p.type <;> simp [FolioPaymentType.counted] <;> omega
  rw [totalPaid, hfold, zero_add]

theorem find_assembled : s.assembled.find id = (s.folios.find id).map fun _ => s.folio id := by
  unfold Table.find assembled
  rw [List.find?_map]
  cases h : s.folios.rows.find? fun f => decide (f.reservationId = id) with
  | none => simpa [Function.comp_def, folio] using h
  | some f =>
    have hid : f.reservationId = id := by simpa using List.find?_some h
    have hcomp : ((fun r : Folio => decide (r.reservationId = id)) ∘
        fun f : FolioRow => s.folio f.reservationId) = fun f => decide (f.reservationId = id) := rfl
    rw [hcomp, h, Option.map_some, Option.map_some, hid]

/-- **The balance a departure checks is what is owed.** -/
theorem balance_desk : s.desk.hotel.balance id = s.owed id := by
  show ((s.assembled.find id).map Folio.balance).getD 0 = _
  rw [find_assembled, owed]
  cases s.folios.find id with
  | none => rfl
  | some f =>
    show (s.folio id).balance = _
    rw [Folio.balance]
    simp only [folio, totalPaid_map]
    rfl

theorem owed_congr {t : FolioDesk} (h : t.account id = s.account id) : t.owed id = s.owed id := by
  rw [← balance_desk, ← balance_desk]
  exact congrArg (fun o => (Option.map Folio.balance o).getD 0) h

end FolioDesk

/-! ## The database -/

inductive FolioQuery where
  | connect (q : ConnectQuery)
  | folio
  | charge
  deriving DecidableEq, Repr

inductive FolioDbRow where
  | connect (r : ConnectRow)
  | folio (id : ReservationId)
  | charge (id : ℕ)
  | payment (id : ℕ)
  deriving DecidableEq, Repr

abbrev folioDb : Db := ⟨FolioDesk, FolioQuery, FolioDbRow, HotelLock, CallEnv⟩

/-- The other services: they read the folios with their rows, and write none. -/
def folioLift : Lift connectDb folioDb where
  read := FolioDesk.desk
  write f s := { s with connect := f s.desk }
  query := .connect
  row := .connect
  lock := id
  env := id

/-! ## Requests -/

/-- The decimal number `digits / 10 ^ scale`. -/
structure DecimalNumber where
  digits : ℕ
  scale : ℕ

namespace DecimalNumber

def mul (x y : DecimalNumber) : DecimalNumber := ⟨x.digits * y.digits, x.scale + y.scale⟩

/-- The number in kopecks, as a `Decimal(12, 2)` column stores it: rounded half up. -/
def column (x : DecimalNumber) : ℕ := (200 * x.digits + 10 ^ x.scale) / (2 * 10 ^ x.scale)

/-- At least 0.01. -/
def Positive (x : DecimalNumber) : Prop := 10 ^ x.scale ≤ 100 * x.digits

end DecimalNumber

/-- Validated: a quantity of at least 0.01, a price that is not negative. -/
structure AddChargeDto where
  quantity : DecimalNumber
  unitPrice : DecimalNumber
  quantity_min : quantity.Positive

/-- Validated: an amount of at least 0.01. -/
structure AddPaymentDto where
  amount : DecimalNumber
  type : Option FolioPaymentType
  amount_min : amount.Positive

def AddChargeDto.row (dto : AddChargeDto) (id : ReservationId) (newId : ℕ) : FolioCharge :=
  ⟨newId, id, (dto.quantity.mul dto.unitPrice).column⟩

def AddPaymentDto.row (dto : AddPaymentDto) (id : ReservationId) (newId : ℕ) : FolioPayment :=
  ⟨newId, id, dto.type.getD .payment, dto.amount.column⟩

/-! ## The service -/

def chargeNotFound : Failure := .notFound "Charge not found"

def chargeGone : Failure := .internal "Record to delete does not exist"

/-- The folio of the hotel's own reservation, created at its first use. -/
def folioOf (id : ReservationId) : Tx folioDb Failure Unit :=
  .read (.connect (.hotel .row)) fun s => match s.connect.hotel.reservations.find id with
    | none => .throw reservationNotFound
    | some _ => .read .folio fun s => match s.folios.find id with
      | some _ => .ret ()
      | none =>
        .write (.folio id) (fun s => { s with folios := s.folios.insert ⟨id⟩ }) fun s =>
          if (s.folios.find id).isSome then .throw uniqueViolation else .ret ()

def getOrCreate (id : ReservationId) : Tx folioDb Failure Unit := do
  folioOf id
  .read .folio fun _ => .ret ()

def addCharge (id : ReservationId) (dto : AddChargeDto) (newId : ℕ) : Tx folioDb Failure Unit := do
  folioOf id
  .write (.charge newId)
    (fun s => { s with charges := s.charges.insert (dto.row id newId) })
    fun s => if (s.charges.find newId).isSome then .throw uniqueViolation else .ret ()

def addPayment (id : ReservationId) (dto : AddPaymentDto) (newId : ℕ) :
    Tx folioDb Failure Unit := do
  folioOf id
  .write (.payment newId)
    (fun s => { s with payments := s.payments.insert (dto.row id newId) })
    fun s => if (s.payments.find newId).isSome then .throw uniqueViolation else .ret ()

/-- A line of this reservation's folio only. -/
def deleteCharge (id : ReservationId) (chargeId : ℕ) : Tx folioDb Failure Unit :=
  .read .charge fun s =>
    match (s.charges.find chargeId).filter fun c => decide (c.folioId = id) with
    | none => .throw chargeNotFound
    | some _ =>
      .write (.charge chargeId)
        (fun s => { s with charges := s.charges.remove fun c => decide (c.id = chargeId) })
        fun s => if (s.charges.find chargeId).isNone then .throw chargeGone else .ret ()

end KarsHotel
