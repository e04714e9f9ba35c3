import KarsHotel.Common.AuditLog
import KarsHotel.Folio.Service
import Mathlib.Data.List.Dedup

/-!
# Retention of personal data

* `RetentionStore`: the tables of all hotels that the rules read and write;
* `cancelledRipe`, `contactsRipe`, `folioNameRipe`, `orphanRipe`, `sessionRipe`, `staffRipe`: what
  is due; `RULES`: the rules, each a count and an action;
* `runRetention`: a run of all rules, each in a transaction of its own.

A folio is named by its reservation. `now()` is one instant during a run.
-/

namespace KarsHotel

/-! ## The store -/

/-- A hotel with its own limits, in days. -/
structure RetentionTenant where
  id : TenantId
  retentionCancelledDays : Option ℤ
  retentionContactsDays : Option ℤ
  deriving DecidableEq, Repr

structure TenantReservation extends Reservation where
  tenantId : TenantId
  deriving DecidableEq, Repr

def TenantReservation.key (r : TenantReservation) : ReservationId := r.id

structure NotedPayment extends FolioPayment where
  note : Option String
  deriving DecidableEq, Repr

def NotedPayment.key (p : NotedPayment) : ℕ := p.id

/-- A row of `refresh_token`. -/
structure SessionToken where
  id : ℕ
  tenantId : TenantId
  expiresAt : Moment
  revokedAt : Option Moment
  deriving DecidableEq, Repr

/-- A row of `app_user`. -/
structure StaffUser where
  id : ℕ
  tenantId : TenantId
  email : String
  fullName : String
  isActive : Bool
  deactivatedAt : Option Moment
  deriving DecidableEq, Repr

structure RetentionStore where
  tenants : Table RetentionTenant.id
  reservations : Table TenantReservation.key
  folios : Table FolioRow.reservationId
  charges : Table FolioCharge.id
  payments : Table NotedPayment.key
  auditLog : List AuditEntry
  refreshTokens : Table SessionToken.id
  users : Table StaffUser.id

/-! ## What is due -/

def ANONYMIZED_GUEST : String := "Гость (обезличен)"
def ANONYMIZED_STAFF : String := "Сотрудник (обезличен)"
def CANCELLED_DAYS : ℤ := 30
def CONTACTS_DAYS : ℤ := 92
def FOLIO_NAME_DAYS : ℤ := 1826
def ORPHAN_JOURNAL_DAYS : ℤ := 30
def STAFF_DAYS : ℤ := 30
def GUEST_PD_KEYS : List String := ["guestName", "phone", "email", "notes"]
def CONTACT_KEYS : List String := ["phone", "email"]

/-- `LEAST(days, COALESCE(own, days))`. -/
def limitDays (days : ℤ) (own : Option ℤ) : ℤ := min days (own.getD days)

/-- `t < now() - make_interval(days => days)`. -/
def olderThan (now : Moment) (days : ℤ) (t : Moment) : Bool := decide (t < now - days * dayMs)

section Ripe

variable (s : RetentionStore) (now : Moment)

/-- The reservation has a folio with a charge. -/
def hasCharge (id : ReservationId) : Bool :=
  s.folios.rows.any fun f =>
    decide (f.reservationId = id) && s.charges.rows.any fun c => decide (c.folioId = f.reservationId)

def cancelledRipe (r : TenantReservation) : Bool :=
  (s.tenants.find r.tenantId).any fun t =>
    [ReservationStatus.cancelled, .noShow].contains r.status &&
      decide (r.guestName ≠ ANONYMIZED_GUEST) &&
      olderThan now (limitDays CANCELLED_DAYS t.retentionCancelledDays) (startOf r.checkIn) &&
      !hasCharge s r.id

def contactsRipe (r : TenantReservation) : Bool :=
  (s.tenants.find r.tenantId).any fun t =>
    [ReservationStatus.checkedOut, .cancelled, .noShow].contains r.status &&
      (r.phone.isSome || r.email.isSome) &&
      olderThan now (limitDays CONTACTS_DAYS t.retentionContactsDays) (startOf r.checkOut)

def folioNameRipe (r : TenantReservation) : Bool :=
  [ReservationStatus.checkedOut, .cancelled, .noShow].contains r.status &&
    decide (r.guestName ≠ ANONYMIZED_GUEST) && olderThan now FOLIO_NAME_DAYS (startOf r.checkOut)

/-- An entry of a hotel that is no more. -/
def orphanRipe (e : AuditEntry) : Bool :=
  e.tenantId.isNone && olderThan now ORPHAN_JOURNAL_DAYS e.createdAt

def sessionRipe (t : SessionToken) : Bool :=
  decide (t.expiresAt < now) || t.revokedAt.any (olderThan now 1)

def staffRipe (u : StaffUser) : Bool :=
  !u.isActive && decide (u.fullName ≠ ANONYMIZED_STAFF) &&
    u.deactivatedAt.any (olderThan now STAFF_DAYS)

end Ripe

/-! ## Rules -/

/-- How many rows of each hotel; `none` is no hotel. -/
abbrev TenantCounts := List (Option TenantId × ℕ)

/-- `GROUP BY tenant_id`. -/
def byTenant (rows : List TenantId) : TenantCounts :=
  rows.dedup.map fun t => (some t, rows.count t)

def anonymizeGuest (r : TenantReservation) : TenantReservation :=
  { r with guestName := ANONYMIZED_GUEST, phone := none, email := none, notes := none }

def eraseContacts (r : TenantReservation) : TenantReservation := { r with phone := none, email := none }

def eraseNote (p : NotedPayment) : NotedPayment := { p with note := none }

/-- The stand-in address of a dismissed member of staff. -/
def removedEmail (id : ℕ) : String := "removed-" ++ toString id ++ "@invalid.local"

def anonymizeStaff (u : StaffUser) : StaffUser :=
  { u with fullName := ANONYMIZED_STAFF, email := removedEmail u.id }

theorem anonymizeGuest_key (r : TenantReservation) : (anonymizeGuest r).key = r.key := rfl

theorem eraseContacts_key (r : TenantReservation) : (eraseContacts r).key = r.key := rfl

theorem eraseNote_key (p : NotedPayment) : (eraseNote p).key = p.key := rfl

theorem anonymizeStaff_id (u : StaffUser) : (anonymizeStaff u).id = u.id := rfl

/-- `count(*)` by hotel of the reservations due. -/
def countRipe (s : RetentionStore) (ripe : TenantReservation → Bool) : TenantCounts :=
  byTenant ((s.reservations.select ripe).map (·.tenantId))

/-- Erase the guest from the reservations due, from the payments of their folios and from
the log. -/
def anonymizeGuests (s : RetentionStore) (ripe : TenantReservation → Bool) :
    RetentionStore × TenantCounts :=
  let ids := (s.reservations.select ripe).map (·.id)
  ({ s with
      reservations := s.reservations.updateMany ripe anonymizeGuest anonymizeGuest_key
      payments := s.payments.updateMany (fun p => ids.contains p.folioId) eraseNote eraseNote_key
      auditLog := scrubJournal s.auditLog (ids.map .ofId) GUEST_PD_KEYS },
    countRipe s ripe)

/-- Erase the contacts from the reservations due and from the log. -/
def eraseGuestContacts (s : RetentionStore) (ripe : TenantReservation → Bool) :
    RetentionStore × TenantCounts :=
  let ids := (s.reservations.select ripe).map (·.id)
  ({ s with
      reservations := s.reservations.updateMany ripe eraseContacts eraseContacts_key
      auditLog := scrubJournal s.auditLog (ids.map .ofId) CONTACT_KEYS },
    countRipe s ripe)

/-- The rows are rewritten one after another; an address must not be taken at that moment. -/
def dismissStaff (users : Table StaffUser.id) : List StaffUser → Except Failure (Table StaffUser.id)
  | [] => .ok users
  | u :: us =>
    if users.rows.any fun v => decide (v.id ≠ u.id) && decide (v.email = removedEmail u.id) then
      .error (.internal "Unique constraint failed on the fields: (email)")
    else dismissStaff (users.modify u.id anonymizeStaff anonymizeStaff_id) us

structure RetentionRule where
  id : String
  count : RetentionStore → Moment → TenantCounts
  apply : RetentionStore → Moment → Except Failure (RetentionStore × TenantCounts)

def RULES : List RetentionRule :=
  [ { id := "cancelled-noshow"
      count := fun s now => countRipe s (cancelledRipe s now)
      apply := fun s now => .ok (anonymizeGuests s (cancelledRipe s now)) },
    { id := "guest-contacts"
      count := fun s now => countRipe s (contactsRipe s now)
      apply := fun s now => .ok (eraseGuestContacts s (contactsRipe s now)) },
    { id := "folio-names"
      count := fun s now => countRipe s (folioNameRipe now)
      apply := fun s now => .ok (anonymizeGuests s (folioNameRipe now)) },
    { id := "orphan-journal"
      count := fun s now => [(none, s.auditLog.countP (orphanRipe now))]
      apply := fun s now =>
        .ok ({ s with auditLog := s.auditLog.filter fun e => !orphanRipe now e },
          [(none, s.auditLog.countP (orphanRipe now))]) },
    { id := "sessions"
      count := fun s now => byTenant ((s.refreshTokens.select (sessionRipe now)).map (·.tenantId))
      apply := fun s now =>
        .ok ({ s with refreshTokens := s.refreshTokens.remove (sessionRipe now) },
          byTenant ((s.refreshTokens.select (sessionRipe now)).map (·.tenantId))) },
    { id := "dismissed-staff"
      count := fun s now => byTenant ((s.users.select (staffRipe now)).map (·.tenantId))
      apply := fun s now => (dismissStaff s.users (s.users.select (staffRipe now))).map fun users =>
        ({ s with users := users },
          byTenant ((s.users.select (staffRipe now)).map (·.tenantId))) } ]

/-! ## A run -/

inductive RetentionMode where
  | dry
  | on
  deriving DecidableEq, Repr

structure RuleResult where
  rule : String
  skipped : Bool
  byTenant : TenantCounts
  deriving DecidableEq, Repr

def RetentionMode.action : RetentionMode → String
  | .on => "retention.destroy."
  | .dry => "retention.dry."

/-- The log of a rule: an entry for each hotel that has rows. -/
def retentionEntries (mode : RetentionMode) (now : Moment) (rule : String) (rows : TenantCounts) :
    List AuditEntry :=
  rows.filterMap fun r => r.1.map fun tenantId =>
    { tenantId := some tenantId, userId := none, entity := "retention", entityId := none,
      action := mode.action ++ rule,
      diff := some ⟨some [], some [("count", .num (.ofNat r.2))], []⟩, createdAt := now }

/-- What a rule does in a mode. -/
def RetentionMode.exec (mode : RetentionMode) (rule : RetentionRule) (now : Moment)
    (s : RetentionStore) : Except Failure (RetentionStore × TenantCounts) :=
  match mode with
  | .on => rule.apply s now
  | .dry => .ok (s, rule.count s now)

/-- The hotels of the rows exist: the log refers to them. -/
def hotelsExist (s : RetentionStore) (rows : TenantCounts) : Bool :=
  rows.all fun r => r.1.all fun t => (s.tenants.find t).isSome

/-- The transaction of a rule; `lock` says whether it gets the lock of the rule. -/
def runRule (lock : String → Bool) (mode : RetentionMode) (now : Moment) (s : RetentionStore)
    (rule : RetentionRule) : Except Failure (RetentionStore × RuleResult) :=
  if lock rule.id then
    mode.exec rule now s >>= fun applied =>
      let rows := applied.2.filter fun r => decide (0 < r.2)
      if hotelsExist s rows then
        .ok ({ applied.1 with
            auditLog := applied.1.auditLog ++ retentionEntries mode now rule.id rows },
          ⟨rule.id, false, rows⟩)
      else .error (.internal "Foreign key constraint failed on the field: (tenant_id)")
  else .ok (s, ⟨rule.id, true, []⟩)

/-- The rules one after another. What earlier rules have written stays if one fails. -/
def runRules (lock : String → Bool) (mode : RetentionMode) (now : Moment) :
    List RetentionRule → RetentionStore → RetentionStore × Except Failure (List RuleResult)
  | [], s => (s, .ok [])
  | rule :: rules, s =>
    match runRule lock mode now s rule with
    | .error x => (s, .error x)
    | .ok (s', res) =>
      let rest := runRules lock mode now rules s'
      (rest.1, rest.2.map (res :: ·))

def runRetention (lock : String → Bool) (mode : RetentionMode) (now : Moment) (s : RetentionStore) :
    RetentionStore × Except Failure (List RuleResult) :=
  runRules lock mode now RULES s

end KarsHotel
