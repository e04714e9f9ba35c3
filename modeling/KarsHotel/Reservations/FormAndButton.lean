import KarsHotel.Reservations.Service

/-!
# The form and the button are one rule

Arrival, departure, no-show and cancellation have an operation of their own; the status grid of the
edit form sets the same statuses through `update`.

* `Action`: the four actions, `Action.button` and `Action.form`;
* `SameOutcome`: the same refusal, or states that differ in an empty note at most;
* `admitFact_exec`: admitting a fact writes nothing;
* `update_exec_statusOnly`: a patch with the version and a status is the check of the status and one
  write;
* **`formIsButton`**: both ways end alike.
-/

namespace KarsHotel

/-! ## The two ways -/

/-- What a status of the grid stands for. -/
inductive Action where
  | fact (f : Fact)
  | cancel
  deriving DecidableEq, Repr

def Action.status : Action → ReservationStatus
  | .fact f => f.status
  | .cancel => .cancelled

/-- The dedicated operation; a cancellation without a reason. -/
def Action.button (action : Action) (id : ReservationId) (fromChannel : Bool) (now : Moment) :
    Tx (hotelDb Unit) Failure Unit :=
  match action with
  | .fact f => recordFact id f none now
  | .cancel => KarsHotel.cancel id none fromChannel

/-- A patch with the version and a status alone. -/
def UpdateReservationDto.statusOnly (version : ℕ) (status : ReservationStatus) :
    UpdateReservationDto :=
  { UpdateReservationDto.ofVersion version with status := some status }

/-- The edit form saved with nothing but the status of the action. -/
def Action.form (action : Action) (id : ReservationId) (version : ℕ) (fromChannel : Bool)
    (now : Moment) : Tx (hotelDb Unit) Failure Unit :=
  update id (.statusOnly version action.status) ⟨fromChannel, .empty⟩ now

/-! ## Alike -/

/-- The row with an empty note where it has none. -/
def Reservation.plainNotes (r : Reservation) : Reservation :=
  { r with notes := some (r.notes.getD "") }

/-- The same hotel, a missing and an empty note counted as equal. -/
structure SameHotel (a b : Hotel) : Prop where
  multiPlace : a.multiPlaceEnabled = b.multiPlaceEnabled
  rooms : a.rooms = b.rooms
  folios : a.folios = b.folios
  reservations : a.reservations.rows.map Reservation.plainNotes =
    b.reservations.rows.map Reservation.plainNotes

theorem SameHotel.refl (h : Hotel) : SameHotel h h := ⟨rfl, rfl, rfl, rfl⟩

/-- Both succeed and leave the same hotel, or both are refused with the same error. -/
inductive SameOutcome : Except Failure (Unit × Hotel) → Except Failure (Unit × Hotel) → Prop
  | done {a b : Hotel} (h : SameHotel a b) : SameOutcome (.ok ((), a)) (.ok ((), b))
  | refused (x : Failure) : SameOutcome (.error x) (.error x)

theorem SameOutcome.refl (x : Except Failure (Unit × Hotel)) : SameOutcome x x := by
  cases x with
  | error x => exact .refused x
  | ok a => exact .done (.refl a.2)

/-! ## A patch of the status -/

section Patch

variable {h : Hotel} {id : ReservationId} {cur : Reservation} {status : ReservationStatus}
  {fromChannel : Bool} {now : Moment}

theorem admitFact_exec (h : Hotel) (id : ReservationId) (fact : Fact) (status : ReservationStatus) :
    (∃ b, (admitFact (E := Unit) id fact status).exec h = .ok (b, h)) ∨
      ∃ x, (admitFact (E := Unit) id fact status).exec h = .error x := by
  unfold admitFact
  by_cases ha : status ∉ (FACTS fact).allowed
  · rw [if_pos ha]
    exact Or.inl ⟨false, rfl⟩
  rw [if_neg ha]
  by_cases hf : fact = .checkedOut
  · rw [if_pos hf, assertZeroBalance, readFolio, Tx.read_bind, Tx.read_bind, Tx.exec_read]
    cases h.folios.find id with
    | none => exact Or.inl ⟨true, rfl⟩
    | some folio =>
      simp only [Tx.read_bind, Tx.ret_bind, Tx.exec_read]
      by_cases hb : (⟨id, h.chargesOf id, h.paymentsOf id⟩ : Folio).balance > 1
      · rw [if_pos hb]
        exact Or.inr ⟨_, rfl⟩
      · rw [if_neg hb]
        exact Or.inl ⟨true, rfl⟩
  · rw [if_neg hf]
    exact Or.inl ⟨true, rfl⟩

theorem write_statusOnly (cur : Reservation) (version : ℕ) (status : ReservationStatus) :
    (UpdateReservationDto.statusOnly version status).write cur .empty cur.roomTypeId cur.placeNumber
      cur = cur.withStatus status := by
  simp [UpdateReservationDto.write, UpdateReservationDto.statusOnly, UpdateReservationDto.ofVersion,
    UpdateReservationDto.finalRoom, UpdateReservationDto.finalCheckIn,
    UpdateReservationDto.finalCheckOut, UpdateReservationDto.finalStatus, PartnerStayInfo.empty,
    Field.orElse, Field.patch, patchText, Reservation.withStatus]

/-- **A patch of the status** is the check of the status and one write of the row. -/
theorem update_exec_statusOnly (hcur : h.reservations.find id = some cur)
    (hchecked : cur.checked = true) :
    (update (E := Unit) id (.statusOnly cur.version status) ⟨fromChannel, .empty⟩ now).exec h =
      (do
        admitStatus id (.statusOnly cur.version status) cur
        admitCancel (.statusOnly cur.version status) cur fromChannel
        writeRow id (.statusOnly cur.version status) ⟨fromChannel, .empty⟩ cur cur.placeNumber
          cur.roomTypeId now : Tx (hotelDb Unit) Failure Unit).exec h := by
  have hdates : cur.checkIn < cur.checkOut := by
    rw [Reservation.checked, Bool.and_eq_true, decide_eq_true_eq] at hchecked
    exact hchecked.1
  have hlt : ¬(UpdateReservationDto.statusOnly cur.version status).finalCheckOut cur ≤
      (UpdateReservationDto.statusOnly cur.version status).finalCheckIn cur :=
    not_le.mpr (show startOf cur.checkIn < startOf cur.checkOut from
      Int.mul_lt_mul_of_pos_right hdates (by decide))
  have hguests : (UpdateReservationDto.statusOnly cur.version status).changesChannelGuests cur
      fromChannel = false := by
    simp [UpdateReservationDto.changesChannelGuests, UpdateReservationDto.statusOnly,
      UpdateReservationDto.ofVersion, Field.isDefined]
  have hversion : ¬cur.version ≠ (UpdateReservationDto.statusOnly cur.version status).version :=
    not_not_intro rfl
  have hplace : resolvePlace (E := Unit) id (.statusOnly cur.version status) cur =
      .ret cur.placeNumber := rfl
  have htype : resolveRoomType (E := Unit) (.statusOnly cur.version status) cur =
      .ret cur.roomTypeId := rfl
  rw [update, Tx.exec_read]
  simp only [hcur]
  rw [if_neg hversion, hguests, if_neg (by decide), updateRow,
    if_neg hlt, hplace, htype]
  rfl

theorem updateReservation_statusOnly (hcur : h.reservations.find id = some cur)
    (status : ReservationStatus) :
    h.updateReservation id ((UpdateReservationDto.statusOnly cur.version status).write cur .empty
      cur.roomTypeId cur.placeNumber) = h.updateReservation id fun r => r.withStatus status := by
  unfold Hotel.updateReservation
  congr 1
  refine Table.modify_congr fun r hr hid => ?_
  have hr : r = cur := Option.some.inj ((Table.find_eq_some.mpr ⟨hr, hid⟩).symm.trans hcur)
  rw [hr, write_statusOnly]

/-- The write of the form: the row of a fact, and the stamps of the fact it records. -/
theorem writeRow_exec_statusOnly (hcur : h.reservations.find id = some cur) :
    (writeRow (E := Unit) id (.statusOnly cur.version status) ⟨fromChannel, .empty⟩ cur
      cur.placeNumber cur.roomTypeId now).exec h =
      (((UpdateReservationDto.statusOnly cur.version status).fact cur).elim (.ret ())
        fun fact => stampFact id fact cur.roomId none now).exec
          (h.updateReservation id fun r => r.withStatus status) := by
  rw [← updateReservation_statusOnly hcur status, writeRow]
  cases (UpdateReservationDto.statusOnly cur.version status).fact cur <;> rfl

/-- A cancellation without a reason leaves that row too, up to an empty note. -/
theorem sameHotel_cancelled :
    SameHotel (h.updateReservation id fun r => r.withStatus .cancelled)
      (h.updateReservation id fun r => r.cancelledFor none) := by
  refine ⟨rfl, rfl, rfl, ?_⟩
  show (h.reservations.rows.map _).map _ = (h.reservations.rows.map _).map _
  rw [List.map_map, List.map_map]
  refine List.map_congr_left fun r _ => ?_
  by_cases hr : r.id = id
  · simp [hr, Reservation.plainNotes, Reservation.withStatus, Reservation.cancelledFor, cancelNotes]
  · simp [hr]

end Patch

/-! ## One rule -/

section Rule

variable {h : Hotel} {id : ReservationId} {cur : Reservation}

theorem form_fact (hcur : h.reservations.find id = some cur) (hchecked : cur.checked = true)
    (fact : Fact) (hne : fact.status ≠ cur.status) (fromChannel : Bool) (now : Moment) :
    SameOutcome (((Action.fact fact).form id cur.version fromChannel now).exec h)
      (((Action.fact fact).button id fromChannel now).exec h) := by
  have hfact : (UpdateReservationDto.statusOnly cur.version fact.status).fact cur = some fact := by
    have hfinal : (UpdateReservationDto.statusOnly cur.version fact.status).finalStatus cur =
        fact.status := rfl
    rw [UpdateReservationDto.fact, hfinal, if_pos hne]
    exact isFact_eq_some.mpr rfl
  have hcancel : admitCancel (E := Unit) (.statusOnly cur.version fact.status) cur fromChannel =
      .ret () := by
    rw [admitCancel, if_neg]
    simp only [UpdateReservationDto.cancelling, decide_eq_true_eq, not_and]
    intro _ hc
    exact absurd (show fact.status = .cancelled from hc) (by cases fact <;> decide)
  have hfinalRoom : (UpdateReservationDto.statusOnly cur.version fact.status).finalRoom cur =
      cur.roomId := rfl
  rw [Action.form, Action.button, Action.status, update_exec_statusOnly hcur hchecked, hcancel,
    Tx.ret_bind, admitStatus, hfact, recordFact, Tx.exec_read]
  simp only [hcur]
  rw [Tx.exec_bind, Tx.exec_bind, Tx.exec_bind]
  rcases admitFact_exec h id fact cur.status with ⟨b, hb⟩ | ⟨x, hx⟩
  · rw [hb]
    cases b with
    | false => exact .refused _
    | true =>
      dsimp only
      rw [if_neg (by decide), if_neg (by decide), Tx.exec_ret, Tx.exec_write]
      dsimp only
      rw [writeRow_exec_statusOnly hcur, hfact]
      exact .refl _
  · rw [hx]
    exact .refused x

theorem form_cancel (hcur : h.reservations.find id = some cur) (hchecked : cur.checked = true)
    (hne : ReservationStatus.cancelled ≠ cur.status) (fromChannel : Bool) (now : Moment) :
    SameOutcome ((Action.cancel.form id cur.version fromChannel now).exec h)
      ((Action.cancel.button id fromChannel now).exec h) := by
  have hfinal : (UpdateReservationDto.statusOnly cur.version .cancelled).finalStatus cur =
      .cancelled := rfl
  have hfact : (UpdateReservationDto.statusOnly cur.version .cancelled).fact cur = none := by
    rw [UpdateReservationDto.fact, hfinal, if_pos hne]
    rfl
  have hcancelling : (UpdateReservationDto.statusOnly cur.version .cancelled).cancelling cur =
      true := by
    rw [UpdateReservationDto.cancelling, hfinal, decide_eq_true_eq]
    exact ⟨hne, rfl⟩
  rw [Action.form, Action.button, Action.status, update_exec_statusOnly hcur hchecked, admitStatus,
    hfact, KarsHotel.cancel, Tx.exec_read]
  simp only [hcur]
  rw [Tx.ret_bind, admitCancel, if_pos hcancelling]
  cases cancelRefusal cur.status cur.channelManaged fromChannel with
  | some refusal => exact .refused _
  | none =>
    dsimp only
    rw [Tx.ret_bind, writeRow_exec_statusOnly hcur, hfact, Tx.exec_write]
    exact .done sameHotel_cancelled

/-- **Form and button are one rule.** For every stored reservation and every action whose status it
does not have yet, the form saved with the current version and only that status ends as the
dedicated operation with the same channel flag does at the same moment. -/
theorem formIsButton (hcur : h.reservations.find id = some cur) (hchecked : cur.checked = true)
    (action : Action) (hne : action.status ≠ cur.status) (fromChannel : Bool) (now : Moment) :
    SameOutcome ((action.form id cur.version fromChannel now).exec h)
      ((action.button id fromChannel now).exec h) := by
  cases action with
  | fact fact => exact form_fact hcur hchecked fact hne fromChannel now
  | cancel => exact form_cancel hcur hchecked hne fromChannel now

end Rule

/-- The arrival of the only guest of a hotel. -/
theorem formIsButton_arrival :
    SameOutcome
      (((Action.fact .checkedIn).form 1 1 false 5).exec
        (step (.oneRoom false) (.create .oneNight .empty none 1)))
      (((Action.fact .checkedIn).button 1 false 5).exec
        (step (.oneRoom false) (.create .oneNight .empty none 1))) :=
  formIsButton (show (step (.oneRoom false) (.create .oneNight .empty none 1)).reservations.find 1 =
    some (CreateReservationDto.oneNight.row .empty none 1 1 1) from rfl) (by decide)
    (.fact .checkedIn) (by decide) false 5

end KarsHotel
