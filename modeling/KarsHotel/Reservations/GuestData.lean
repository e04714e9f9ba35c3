import KarsHotel.Common.AuditLog
import KarsHotel.Lib.Calendar
import KarsHotel.Lib.Decimal
import KarsHotel.Lib.Run
import KarsHotel.Reservations.Deeds

/-!
# Guest data and their traces

One reservation with the payment notes of its folio and the audit log, and the operations that
touch the guest's data, cut where the source gives way to others: the SELECT, the UPDATE with the
commit, the scrubbing of the log, and each entry of the log.

* `GuestField`: name, phone, email, notes; `changes`: what an update writes to the log;
* `GuestOp.refusal`, `rewrite`, `entries`: the halves of an operation, and what it logs;
* `Desk`, `Desk.turn`: the operations under way, and a turn of one of them;
* **`Deed.halves`**: a committed transaction of the service is a SELECT that does not refuse and an
  UPDATE of the row as it stands.
-/

namespace KarsHotel

/-! ## Erasing the row -/

def anonymizedName : String := "Гость (обезличен)"

/-- The statuses of a stay that is over. -/
def ReservationStatus.finished (s : ReservationStatus) : Bool :=
  decide (s = .checkedOut ∨ s = .cancelled ∨ s = .noShow)

/-- The UPDATE of `anonymize`. -/
def Reservation.anonymized (r : Reservation) : Reservation :=
  { r with guestName := anonymizedName, phone := none, email := none, notes := none }

/-- `anonymize`: the guest of a stay that is over is forgotten. -/
def anonymize (h : Hotel) (id : ReservationId) : Except Failure Hotel :=
  match h.reservations.find id with
  | none => .error (.notFound "Reservation not found")
  | some r =>
    if !r.status.finished then
      .error (.conflict "Обезличить можно завершённую бронь: выехал, отменена или неявка")
    else .ok (h.updateReservation id Reservation.anonymized)

/-! ## Fields -/

def PD_KEYS : List String := ["guestName", "phone", "email", "notes"]

inductive GuestField where
  | guestName
  | phone
  | email
  | notes
  deriving DecidableEq, Repr

namespace GuestField

def all : List GuestField := [guestName, phone, email, notes]

def key : GuestField → String
  | guestName => "guestName"
  | phone => "phone"
  | email => "email"
  | notes => "notes"

/-- The field of a row, as the log has it. -/
def get : GuestField → Reservation → Json
  | guestName, r => .str r.guestName
  | phone, r => .ofText r.phone
  | email, r => .ofText r.email
  | notes, r => .ofText r.notes

/-- What a patch puts into the field; `none` where it leaves it. -/
def sent : GuestField → UpdateReservationDto → Option Json
  | guestName, dto => dto.guestName.toOption.map .str
  | phone, dto => if dto.phone.isDefined then some (.ofText (patchText dto.phone none)) else none
  | email, dto => if dto.email.isDefined then some (.ofText (patchText dto.email none)) else none
  | notes, dto => if dto.notes.isDefined then some (.ofText (patchText dto.notes none)) else none

/-- Something about a guest: neither nothing nor the name that stands for no name. -/
def isData : GuestField → Json → Bool
  | _, .null => false
  | f, .str s => !s.isEmpty && !(f == .guestName && s == anonymizedName)
  | _, _ => true

end GuestField

def ReservationStatus.text : ReservationStatus → String
  | .new => "NEW"
  | .confirmed => "CONFIRMED"
  | .checkedIn => "CHECKED_IN"
  | .checkedOut => "CHECKED_OUT"
  | .cancelled => "CANCELLED"
  | .noShow => "NO_SHOW"

def ReservationSource.text : ReservationSource → String
  | .direct => "DIRECT"
  | .phone => "PHONE"
  | .online => "ONLINE"
  | .ota => "OTA"
  | .corporate => "CORPORATE"

/-- The other fields an update compares. -/
def STAY_FIELDS : List (String × (Reservation → Json)) :=
  [("roomId", fun r => .num (.ofNat r.roomId)), ("checkIn", fun r => .str (isoDate r.checkIn)),
   ("checkOut", fun r => .str (isoDate r.checkOut)), ("adults", fun r => .num (.ofNat r.adults)),
   ("children", fun r => .num (.ofNat r.children)), ("status", fun r => .str r.status.text),
   ("source", fun r => .str r.source.text),
   ("totalPrice", fun r => .ofNumber (r.totalPrice.map .ofDecimal)),
   ("placeNumber", fun r => .num (.ofNat r.placeNumber)),
   ("arrivalAt", fun r => .ofText r.arrivalAt), ("departureAt", fun r => .ofText r.departureAt),
   ("flight", fun r => .ofText r.flight)]

/-- All fields an update compares. -/
def UPDATE_FIELDS : List (String × (Reservation → Json)) :=
  STAY_FIELDS ++ GuestField.all.map fun f => (f.key, f.get)

/-- `String(v ?? '')` of a text or a number. -/
def Json.shown : Json → String
  | .null => ""
  | .str s => s
  | .num n => n.text
  | v => v.stringify

/-- `changes.before` and `changes.after`. -/
def changes (was now : Reservation) : JsonFields × JsonFields :=
  let changed := UPDATE_FIELDS.filter fun f => decide ((f.2 was).shown ≠ (f.2 now).shown)
  (changed.map fun f => (f.1, f.2 was), changed.map fun f => (f.1, f.2 now))

/-! ## Operations -/

/-- An operation on the reservation. A number is the spelling of the id in the path of the request,
where the operation uses it as a text. -/
inductive GuestOp where
  | update (dto : UpdateReservationDto) (opts : UpdateOptions) (now : Moment) (userId : Option ℕ)
  | cancel (spelling : ℕ) (reason : Option String) (fromChannel : Bool) (userId : Option ℕ)
  | recordFact (spelling : ℕ) (fact : Fact) (moment : Option Moment) (now : Moment)
    (userId : Option ℕ)
  | anonymize (spelling : ℕ) (userId : Option ℕ)

/-- The operation of the service on reservation `id`. -/
def GuestOp.toOp (id : ReservationId) : GuestOp → Option Op
  | .update dto opts now _ => some (.update id dto opts now)
  | .cancel _ reason fromChannel _ => some (.cancel id reason fromChannel)
  | .recordFact _ fact moment now _ => some (.recordFact id fact moment now)
  | .anonymize _ _ => none

def notFinished : Failure :=
  .conflict "Обезличить можно завершённую бронь: выехал, отменена или неявка"

/-- How an update is refused by the row it has read. -/
def UpdateReservationDto.refusal (dto : UpdateReservationDto) (opts : UpdateOptions)
    (cur : Reservation) : Option Failure :=
  if cur.version ≠ dto.version then some versionMismatch
  else if dto.changesChannelGuests cur opts.fromChannel then some channelGuests
  else if dto.finalCheckOut cur ≤ dto.finalCheckIn cur then some checkOutBeforeCheckIn
  else match (dto.fact cur).filter fun fact => decide (cur.status ∉ (FACTS fact).allowed) with
    | some fact => some (wrongStatus fact)
    | none =>
      if dto.cancelling cur then
        (cancelRefusal cur.status cur.channelManaged opts.fromChannel).map cancelRefused
      else none

/-- How an operation is refused by the row it has read. -/
def GuestOp.refusal (cur : Reservation) : GuestOp → Option Failure
  | .update dto opts _ _ => dto.refusal opts cur
  | .cancel _ _ fromChannel _ =>
    (cancelRefusal cur.status cur.channelManaged fromChannel).map cancelRefused
  | .recordFact _ fact _ _ _ =>
    if cur.status ∈ (FACTS fact).allowed then none else some (wrongStatus fact)
  | .anonymize _ _ => if !cur.status.finished then some notFinished else none

/-- The row an operation that has read `cur` leaves where `stored` was. -/
def GuestOp.rewrite (cur : Reservation) (roomTypeId : RoomTypeId) (placeNumber : ℕ)
    (stored : Reservation) : GuestOp → Reservation
  | .update dto opts now _ => dto.result cur opts.stay now roomTypeId placeNumber stored
  | .cancel _ reason _ _ => stored.cancelledFor reason
  | .recordFact _ fact moment now _ => (stored.withStatus fact.status).stamp (moment.getD now) fact
  | .anonymize _ _ => stored.anonymized

/-! ## The log -/

/-- What `writeAuditLog` is given, beside the hotel. -/
structure AuditParams where
  userId : Option ℕ
  entity : String
  entityId : Option IdText
  action : String
  diff : Option AuditDiff

def AuditParams.entry (p : AuditParams) (tenantId : TenantId) (createdAt : Moment) :
    AuditEntry where
  tenantId := some tenantId
  userId := p.userId
  entity := p.entity
  entityId := p.entityId
  action := p.action
  diff := p.diff
  createdAt := createdAt

/-- An entry filed under a reservation's id. -/
def aboutReservation (id : IdText) (userId : Option ℕ) (action : String)
    (diff : Option (JsonFields × JsonFields)) : AuditParams :=
  ⟨userId, "reservation", some id, action, diff.map fun d => ⟨some d.1, some d.2, []⟩⟩

def Fact.action : Fact → String
  | .checkedIn => "check_in"
  | .checkedOut => "check_out"
  | .noShow => "no_show"

/-- The entry of `announceFact`. -/
def factEntry (id : IdText) (userId : Option ℕ) (fact : Fact) (before : ReservationStatus) :
    AuditParams :=
  aboutReservation id userId fact.action
    (some ([("status", .str before.text)], [("status", .str fact.status.text)]))

/-- The entry of `journalCancel`. -/
def cancelEntry (id : IdText) (userId : Option ℕ) (before : ReservationStatus)
    (reason : Option String) : AuditParams :=
  aboutReservation id userId "cancel" (some ([("status", .str before.text)],
    [("status", .str ReservationStatus.cancelled.text), ("reason", .ofText reason)]))

/-- The entry of an update that has read `cur` and left `row`. -/
def updateEntry (id : IdText) (userId : Option ℕ) (fromChannel : Bool)
    (cur row : Reservation) : AuditParams :=
  aboutReservation id userId "update" (some ((changes cur row).1,
    (changes cur row).2 ++ ("version", .num (.ofNat row.version)) ::
      if fromChannel then [("via", .str "partner-api")] else []))

/-- What an operation writes to the log once its transaction is committed. -/
def GuestOp.entries (cur row : Reservation) : GuestOp → List AuditParams
  | .update dto opts _ userId =>
    updateEntry (.ofId row.id) userId opts.fromChannel cur row ::
      (((dto.fact cur).map fun fact => factEntry (.ofId row.id) userId fact cur.status).toList ++
        if dto.cancelling cur then [cancelEntry (.ofId row.id) userId cur.status none] else [])
  | .cancel spelling reason _ userId => [cancelEntry ⟨row.id, spelling⟩ userId cur.status reason]
  | .recordFact spelling fact _ _ userId => [factEntry ⟨row.id, spelling⟩ userId fact cur.status]
  | .anonymize spelling userId => [aboutReservation ⟨row.id, spelling⟩ userId "anonymize" none]

/-! ## Turns -/

/-- A reservation of a hotel with the notes of its folio's payments, and the log. -/
structure GuestStore where
  tenantId : TenantId
  row : Reservation
  paymentNotes : List (Option String)
  auditLog : List AuditEntry

/-- The entry is about the reservation, however its id is spelled. -/
def GuestStore.concerns (s : GuestStore) (e : AuditEntry) : Bool :=
  decide (e.tenantId = some s.tenantId) && decide (e.entity = "reservation") &&
    e.entityId.any fun id => id.id = s.row.id

/-- The entry is filed under the text of an id. -/
def GuestStore.filed (s : GuestStore) (id : IdText) (e : AuditEntry) : Bool :=
  decide (e.tenantId = some s.tenantId) && e.about [id]

/-- The traces in the log: the same fields before and after a change, in the entries that are filed
under the text. -/
def GuestStore.scrubbed (s : GuestStore) (id : IdText) : GuestStore :=
  { s with auditLog := s.auditLog.map fun e =>
      if s.filed id e then { e with diff := e.diff.map (AuditDiff.scrub PD_KEYS) } else e }

/-- The text of the id in the path of an anonymisation. -/
def GuestOp.path (id : ReservationId) : GuestOp → IdText
  | .anonymize spelling _ => ⟨id, spelling⟩
  | _ => .ofId id

/-- The UPDATE of an operation that has read `cur`; an anonymisation erases the notes too. -/
def GuestStore.write (s : GuestStore) (op : GuestOp) (cur : Reservation) (roomTypeId : RoomTypeId)
    (placeNumber : ℕ) : GuestStore :=
  { s with
    row := op.rewrite cur roomTypeId placeNumber s.row
    paymentNotes := match op with
      | .anonymize _ _ => s.paymentNotes.map fun _ => none
      | _ => s.paymentNotes }

def GuestStore.writeAuditLog (s : GuestStore) (p : AuditParams) (now : Moment) : GuestStore :=
  { s with auditLog := s.auditLog ++ [p.entry s.tenantId now] }

/-- How far an operation is: `cur` is the row it has read, `row` the one it has left. Where an
anonymisation is `erased`, the traces are still in the log. -/
inductive OpStage where
  | unbegun
  | selected (cur : Reservation)
  | erased (cur row : Reservation)
  | logging (cur row : Reservation) (entries : List AuditParams)
  | ended

/-- What a turn depends on beside the row: whether it fails (refused by what it reads of other
tables, or an entry that cannot be written), the room's type and the place it finds, the clock. -/
structure TurnInput where
  fails : Bool
  roomTypeId : RoomTypeId
  placeNumber : ℕ
  now : Moment

structure Desk (ι : Type) where
  store : GuestStore
  stage : ι → OpStage

namespace Desk

variable {ι : Type} [DecidableEq ι]

/-- Operation `i` is at another stage, over another store. -/
def goes (D : Desk ι) (i : ι) (store : GuestStore) (stage : OpStage) : Desk ι :=
  ⟨store, Function.update D.stage i stage⟩

/-- The stage after the commit. -/
def committed (op : GuestOp) (cur row : Reservation) : OpStage :=
  match op with
  | .anonymize _ _ => .erased cur row
  | op => .logging cur row (op.entries cur row)

/-- A turn of an operation. A scrubbing that fails leaves the anonymisation where it is. -/
def turn (ops : ι → GuestOp) (D : Desk ι) (t : ι × TurnInput) : Desk ι :=
  match D.stage t.1 with
  | .unbegun =>
    D.goes t.1 D.store
      (if ((ops t.1).refusal D.store.row).isSome then .ended else .selected D.store.row)
  | .selected cur =>
    if t.2.fails then D.goes t.1 D.store .ended
    else
      let store := D.store.write (ops t.1) cur t.2.roomTypeId t.2.placeNumber
      D.goes t.1 store (committed (ops t.1) cur store.row)
  | .erased cur row =>
    if t.2.fails then D
    else
      D.goes t.1 (D.store.scrubbed ((ops t.1).path D.store.row.id))
        (.logging cur row ((ops t.1).entries cur row))
  | .logging cur row (p :: ps) =>
    D.goes t.1 (if t.2.fails then D.store else D.store.writeAuditLog p t.2.now)
      (if ps.isEmpty then .ended else .logging cur row ps)
  | .logging _ _ [] => D.goes t.1 D.store .ended
  | .ended => D

def play (ops : ι → GuestOp) (D : Desk ι) (turns : List (ι × TurnInput)) : Desk ι :=
  turns.foldl (turn ops) D

theorem play_append (ops : ι → GuestOp) (D : Desk ι) (x y : List (ι × TurnInput)) :
    D.play ops (x ++ y) = (D.play ops x).play ops y := List.foldl_append

theorem stage_goes_self (D : Desk ι) (i : ι) (store : GuestStore) (stage : OpStage) :
    (D.goes i store stage).stage i = stage := Function.update_self i _ _

theorem stage_goes_of_ne (D : Desk ι) {i j : ι} (h : j ≠ i) (store : GuestStore)
    (stage : OpStage) : (D.goes i store stage).stage j = D.stage j := Function.update_of_ne h _ _

/-- What a turn can do. -/
inductive Turned (ops : ι → GuestOp) (D : Desk ι) (t : ι × TurnInput) : Desk ι → Prop
  | idle (h : D.stage t.1 ≠ .unbegun) : Turned ops D t D
  | quiet (stage : OpStage) (hne : ∀ c r, D.stage t.1 ≠ .erased c r)
      (h : stage = .ended ∨ D.stage t.1 = .unbegun ∧ stage = .selected D.store.row ∨
        ∃ cur row p ps, D.stage t.1 = .logging cur row (p :: ps) ∧ stage = .logging cur row ps) :
      Turned ops D t (D.goes t.1 D.store stage)
  | write (cur : Reservation) (hs : D.stage t.1 = .selected cur) (hf : t.2.fails = false) :
      Turned ops D t
        (D.goes t.1 (D.store.write (ops t.1) cur t.2.roomTypeId t.2.placeNumber)
          (committed (ops t.1) cur
            (D.store.write (ops t.1) cur t.2.roomTypeId t.2.placeNumber).row))
  | scrub (cur row : Reservation) (hs : D.stage t.1 = .erased cur row) (hf : t.2.fails = false) :
      Turned ops D t
        (D.goes t.1 (D.store.scrubbed ((ops t.1).path D.store.row.id))
          (.logging cur row ((ops t.1).entries cur row)))
  | log (cur row : Reservation) (p : AuditParams) (ps : List AuditParams) (stage : OpStage)
      (hs : D.stage t.1 = .logging cur row (p :: ps)) (hf : t.2.fails = false)
      (h : stage = .ended ∨ stage = .logging cur row ps) :
      Turned ops D t (D.goes t.1 (D.store.writeAuditLog p t.2.now) stage)

/-- **What a turn does.** -/
theorem turned (ops : ι → GuestOp) (D : Desk ι) (t : ι × TurnInput) :
    Turned ops D t (D.turn ops t) := by
  unfold turn
  cases hs : D.stage t.1 with
  | unbegun =>
    refine .quiet _ (by simp [hs]) ?_
    · by_cases hr : ((ops t.1).refusal D.store.row).isSome = true
      · exact Or.inl (if_pos hr)
      · exact Or.inr (Or.inl ⟨hs, if_neg hr⟩)
  | selected cur =>
    cases hf : t.2.fails with
    | true => exact .quiet _ (by simp [hs]) (Or.inl rfl)
    | false => exact .write cur hs hf
  | erased cur row =>
    cases hf : t.2.fails with
    | true =>
      refine .idle ?_
      rw [hs]
      simp
    | false => exact .scrub cur row hs hf
  | logging cur row ps =>
    have hne : ∀ c r, D.stage t.1 ≠ .erased c r := by simp [hs]
    cases ps with
    | nil => exact .quiet _ hne (Or.inl rfl)
    | cons p ps =>
      have hstage : (if ps.isEmpty = true then OpStage.ended else .logging cur row ps) = .ended ∨
          (if ps.isEmpty = true then OpStage.ended else .logging cur row ps) =
            .logging cur row ps := by
        by_cases he : ps.isEmpty = true
        · exact Or.inl (if_pos he)
        · exact Or.inr (if_neg he)
      cases hf : t.2.fails with
      | true =>
        exact .quiet _ hne (hstage.imp_right fun h => Or.inr ⟨cur, row, p, ps, hs, h⟩)
      | false => exact .log cur row p ps _ hs hf hstage
  | ended =>
    refine .idle ?_
    rw [hs]
    simp

theorem committed_ne_unbegun (op : GuestOp) (cur row : Reservation) :
    committed op cur row ≠ .unbegun := by
  cases op <;> simp [committed]

theorem Turned.begun {ops : ι → GuestOp} {D D' : Desk ι} {t : ι × TurnInput}
    (h : Turned ops D t D') : D'.stage t.1 ≠ .unbegun := by
  cases h with
  | idle h => exact h
  | quiet stage hne h =>
    rw [stage_goes_self]
    rcases h with rfl | ⟨-, rfl⟩ | ⟨cur, row, p, ps, -, rfl⟩ <;> simp
  | write cur hs hf =>
    rw [stage_goes_self]
    apply committed_ne_unbegun
  | scrub cur row hs hf =>
    rw [stage_goes_self]
    simp
  | log cur row p ps stage hs hf h =>
    rw [stage_goes_self]
    rcases h with rfl | rfl <;> simp

theorem Turned.others {ops : ι → GuestOp} {D D' : Desk ι} {t : ι × TurnInput}
    (h : Turned ops D t D') {i : ι} (hi : i ≠ t.1) : D'.stage i = D.stage i := by
  cases h with
  | idle => rfl
  | quiet | write | scrub | log => exact stage_goes_of_ne D hi _ _

theorem begun_turn {ops : ι → GuestOp} {D : Desk ι} {t : ι × TurnInput} {i : ι}
    (h : D.stage i ≠ .unbegun) : (D.turn ops t).stage i ≠ .unbegun := by
  by_cases hi : i = t.1
  · rw [hi]
    exact (turned ops D t).begun
  · rwa [(turned ops D t).others hi]

theorem begun_play {ops : ι → GuestOp} {D : Desk ι} {i : ι} (turns : List (ι × TurnInput))
    (h : D.stage i ≠ .unbegun) : (D.play ops turns).stage i ≠ .unbegun :=
  foldl_keeps_all (P := fun D : Desk ι => D.stage i ≠ .unbegun) (fun _ _ => begun_turn) turns h

/-- What is left to log is the operation's. -/
def OwnEntries (ops : ι → GuestOp) (D : Desk ι) : Prop :=
  ∀ i cur row ps, D.stage i = .logging cur row ps → ∀ p ∈ ps, p ∈ (ops i).entries cur row

theorem Turned.ownEntries {ops : ι → GuestOp} {D D' : Desk ι} {t : ι × TurnInput}
    (h : Turned ops D t D') (hown : OwnEntries ops D) : OwnEntries ops D' := by
  intro i cur row ps hs p hp
  by_cases hi : i = t.1
  · subst hi
    cases h with
    | idle => exact hown _ _ _ _ hs p hp
    | quiet stage hne h =>
      rw [stage_goes_self] at hs
      rcases h with rfl | ⟨-, rfl⟩ | ⟨c, r, q, qs, hold, rfl⟩
      · cases hs
      · cases hs
      · cases hs
        exact hown _ _ _ _ hold p (List.mem_cons_of_mem _ hp)
    | write c hold hf =>
      rw [stage_goes_self] at hs
      cases hop : ops t.1 with
      | anonymize =>
        rw [hop, committed] at hs
        cases hs
      | update | cancel | recordFact =>
        rw [hop] at hs
        cases hs
        exact hp
    | scrub c r hold hf =>
      rw [stage_goes_self] at hs
      cases hs
      exact hp
    | log c r q qs stage hold hf h =>
      rw [stage_goes_self] at hs
      rcases h with rfl | rfl
      · cases hs
      · cases hs
        exact hown _ _ _ _ hold p (List.mem_cons_of_mem _ hp)
  · rw [h.others hi] at hs
    exact hown i cur row ps hs p hp

end Desk

/-! ## The halves of a transaction -/

theorem UpdateReservationDto.refusal_eq_none {dto : UpdateReservationDto} {opts : UpdateOptions}
    {cur : Reservation} (hv : cur.version = dto.version)
    (hg : dto.changesChannelGuests cur opts.fromChannel = false)
    (hd : dto.finalCheckIn cur < dto.finalCheckOut cur)
    (hf : ∀ fact, dto.fact cur = some fact → cur.status ∈ (FACTS fact).allowed)
    (hc : dto.cancelling cur = true →
      cancelRefusal cur.status cur.channelManaged opts.fromChannel = none) :
    dto.refusal opts cur = none := by
  have hfact : (dto.fact cur).filter (fun fact => decide (cur.status ∉ (FACTS fact).allowed)) =
      none := by
    rw [Option.filter_eq_none_iff]
    intro fact hfact
    simpa using hf fact hfact
  rw [UpdateReservationDto.refusal, if_neg (not_not_intro hv), hg, if_neg Bool.false_ne_true,
    if_neg (not_le_of_gt hd), hfact]
  by_cases hcancel : dto.cancelling cur = true
  · simp [hcancel, hc hcancel]
  · simp [hcancel]

theorem Rewrites.find {h h' : Hotel} {id : ReservationId} {g : Reservation → Reservation}
    {hg : ∀ r, (g r).id = r.id} (hr : Rewrites h h' id g hg) :
    h'.reservations.find id = (h.reservations.find id).map g := by
  rw [hr.rows, Table.find_modify_self]

/-- **A committed transaction of the service**: it has read the row, which does not refuse it, and
it rewrites the row as it stands at the commit. -/
theorem Deed.halves {seen : HotelQuery → Hotel → Prop} {id : ReservationId} {gop : GuestOp}
    {op : Op} {ws : Writes} (hop : gop.toOp id = some op) (hd : Deed seen op ws) :
    ∃ s cur roomTypeId placeNumber, seen .row s ∧ s.reservations.find id = some cur ∧
      gop.refusal cur = none ∧ ∀ h : Hotel, (Writes.apply ws h).reservations.find id =
        (h.reservations.find id).map (gop.rewrite cur roomTypeId placeNumber ·) := by
  cases gop with
  | update dto opts now userId =>
    cases hop
    cases hd with
    | @updated _ _ _ _ s cur p roomTypeId hs hcur hv hd hf hc hp hg =>
      refine ⟨s, cur, roomTypeId, p, hs, hcur, ?_, fun h => ?_⟩
      · exact UpdateReservationDto.refusal_eq_none hv hg hd (fun fact h => (hf fact h).allowed) hc
      · exact (rewrites_result h id dto cur opts.stay now roomTypeId p).find
  | cancel spelling reason fromChannel userId =>
    cases hop
    cases hd with
    | @cancelled _ _ _ s cur hs hcur hc =>
      refine ⟨s, cur, 0, 0, hs, hcur, ?_, fun h => ?_⟩
      · rw [GuestOp.refusal, hc]
        rfl
      · exact (rewrites_update h id (·.cancelledFor reason) fun _ => rfl).find
  | recordFact spelling fact moment now userId =>
    cases hop
    cases hd with
    | @recorded _ _ _ _ s cur hs hcur hf =>
      refine ⟨s, cur, 0, 0, hs, hcur, if_pos hf.allowed, fun h => ?_⟩
      exact (rewrites_stamp h id (·.withStatus fact.status) (fun _ => rfl) cur.roomId
        (moment.getD now) fact).find
  | anonymize spelling userId => cases hop

/-- The same of `anonymize`. -/
theorem anonymize_halves {h h' : Hotel} {id : ReservationId} (spelling : ℕ) (userId : Option ℕ)
    (hok : anonymize h id = .ok h') : ∃ cur, h.reservations.find id = some cur ∧
      (GuestOp.anonymize spelling userId).refusal cur = none ∧ h'.reservations.find id =
        (h.reservations.find id).map ((GuestOp.anonymize spelling userId).rewrite cur 0 0 ·) := by
  unfold anonymize at hok
  cases hfind : h.reservations.find id with
  | none =>
    simp only [hfind] at hok
    cases hok
  | some cur =>
    simp only [hfind] at hok
    split_ifs at hok with hfin
    cases hok
    have hrow := (rewrites_update h id Reservation.anonymized fun _ => rfl).find
    rw [hfind] at hrow
    exact ⟨cur, rfl, if_neg hfin, hrow⟩

end KarsHotel
