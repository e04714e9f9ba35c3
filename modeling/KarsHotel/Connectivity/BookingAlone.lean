import KarsHotel.Connectivity.AvailabilityFor

/-!
# A booking with nobody else writing

`createReservation` of a partner, run alone on the store that `availabilityFor` reads.

* `ChannelStore.env`: what the booking reads outside the reservations, from the same store;
* `ChannelStore.book`: the call, its answer and the hotel it leaves;
* `roomFor`, `newRow`, `booking`: the room, the row and all gates of a booking whose key is new;
* **`book_eq`**: such a booking inserts the row its gates let through, or refuses and leaves the
  hotel as it is;
* `book_replay`, `book_conflict`, `book_invalidKey`: the other bookings.
-/

namespace KarsHotel

/-! ## The call -/

/-- A plan of the partner as a booking reads it. -/
def StatusPlan.operatorPlan (p : StatusPlan) : OperatorPlan where
  toPartnerPlanScope := p.scope
  name := p.plan.name
  operatorStatus := p.operatorStatus.map fun status => ⟨status.applies, status.reason⟩

section Call

variable (hash : String → String) (c : Collation) (sha256 : String → String) (s : ChannelStore)

/-- What a booking reads outside the reservations; the work after its commit ends well. -/
def ChannelStore.env (partnerId : PartnerId) (dto : ConnectCreateReservationDto) : ConnectEnv where
  account code := .ok (s.account partnerId code)
  customer code := .ok (s.customer partnerId code)
  category id := .ok ((s.store.prices.roomTypes.find id).map fun rt => ⟨rt.maxOccupancy, rt.isActive⟩)
  partnerPlans := .ok ((s.partnerPlans hash c partnerId).map StatusPlan.operatorPlan)
  planPrices := .ok ((AvailabilityService.priceByPlanText s.store dto.categoryId dto.checkIn.night
    dto.checkOut.night (some (s.category dto.categoryId.id).basePrice) (some dto.guests)).map fun p =>
      ⟨p.ratePlanId, some p.total⟩)
  ratePlan id := .ok ((s.tariffs.plans.find id).map fun p => ⟨p.id, p.name, p.isActive, p.partnerId⟩)
  announce := none

/-- The call: its answer, and the hotel it leaves. -/
def ChannelStore.book (q : ConnectRequest) : Except Failure ConnectReservation × Hotel :=
  (createReservation sha256 q).run (s.env hash c q.partnerId q.dto) s.store.hotel s.store.hotel

end Call

/-! ## The gates -/

def roomFor (dto : ConnectCreateReservationDto) (h : Hotel) : Except Failure RoomId :=
  match dto.roomId with
  | .val roomId =>
    match h.activeRoom roomId with
    | none => .error (pinnedNotFound roomId)
    | some (room, _) =>
      if IdText.ofId room.roomTypeId ≠ dto.categoryId then .error pinnedElsewhere
      else if roomFitsByPlaces dto h room then .ok room.id else .error pinnedTaken
  | _ =>
    match (h.rooms.select fun r => decide (r.roomTypeId = dto.categoryId.id) && r.isActive).find?
        (roomFitsByPlaces dto h) with
    | none => .error noRoomAvailable
    | some room => .ok room.id

theorem exec_pickRoom {E : Type} (dto : ConnectCreateReservationDto) (h : Hotel) :
    (pickRoom dto : Tx (hotelDb E) Failure RoomId).exec h =
      (roomFor dto h).map fun roomId => (roomId, h) := by
  unfold pickRoom roomFor
  have hauto : (pickAvailableRoom dto : Tx (hotelDb E) Failure (Option RoomId)).exec h =
      .ok (((h.rooms.select fun r => decide (r.roomTypeId = dto.categoryId.id) && r.isActive).find?
        (roomFitsByPlaces dto h)).map (·.id), h) := by
    unfold pickAvailableRoom
    rw [Tx.exec_read]
    cases h.rooms.select fun r => decide (r.roomTypeId = dto.categoryId.id) && r.isActive with
    | nil => rfl
    | cons room rooms => rfl
  cases dto.roomId with
  | undefined | null =>
    dsimp only
    rw [Tx.exec_bind, hauto]
    dsimp only
    cases (h.rooms.select fun r => decide (r.roomTypeId = dto.categoryId.id) && r.isActive).find?
      (roomFitsByPlaces dto h) <;> rfl
  | val roomId =>
    dsimp only
    unfold resolvePinnedRoom
    rw [Tx.exec_read]
    cases h.activeRoom roomId with
    | none => rfl
    | some found =>
      dsimp only
      split_ifs with hcategory hfits
      · rfl
      · rw [Tx.exec_read, if_pos hfits]
        rfl
      · rw [Tx.exec_read, if_neg hfits]
        rfl

/-- The row of a creation, if the hotel has a place for it. -/
def placedRow (dto : CreateReservationDto) (stay : PartnerStayInfo)
    (channel : ReservationChannelContext) (newId : ReservationId) (h : Hotel) :
    Except Failure Reservation :=
  match h.activeRoom dto.roomId with
  | none => .error (rejected (some channel) roomNotFound)
  | some (room, multiPlace) =>
    match allocatePlace room.capacity multiPlace dto.guests (dto.others h) with
    | none => .error (rejected (some channel) noPlaceAvailable)
    | some placeNumber =>
      let row := dto.row stay (some channel) newId room.roomTypeId placeNumber
      if row.checked then
        if h.accepts row then .ok row else .error uniqueViolation
      else .error rowCheckFailed

theorem placedRow_ok {dto : CreateReservationDto} {stay : PartnerStayInfo}
    {channel : ReservationChannelContext} {newId : ReservationId} {h : Hotel} {row : Reservation} :
    placedRow dto stay channel newId h = .ok row ↔ ∃ room placeNumber,
      h.activeRoom dto.roomId = some (room, h.multiPlaceEnabled) ∧
      allocatePlace room.capacity h.multiPlaceEnabled dto.guests (dto.others h) = some placeNumber ∧
      row = dto.row stay (some channel) newId room.roomTypeId placeNumber ∧ row.checked = true ∧
      h.accepts row = true := by
  unfold placedRow
  constructor
  · intro hrow
    split at hrow
    · cases hrow
    · next room multiPlace hactive =>
      obtain rfl := (Hotel.activeRoom_eq_some.mp hactive).2.2
      split at hrow
      · cases hrow
      · next placeNumber hplace =>
        dsimp only at hrow
        split_ifs at hrow with hchecked haccepts
        cases hrow
        exact ⟨room, placeNumber, hactive, hplace, rfl, hchecked, haccepts⟩
  · rintro ⟨room, placeNumber, hactive, hplace, rfl, hchecked, haccepts⟩
    rw [hactive]
    dsimp only
    rw [hplace]
    dsimp only
    rw [if_pos hchecked, if_pos haccepts]

/-- The same behind the check of the dates. -/
def newRow (dto : CreateReservationDto) (stay : PartnerStayInfo)
    (channel : ReservationChannelContext) (newId : ReservationId) (h : Hotel) :
    Except Failure Reservation :=
  if parseISO dto.checkOut ≤ parseISO dto.checkIn then
    .error (rejected (some channel) checkOutBeforeCheckIn)
  else placedRow dto stay channel newId h

/-- The partner has no reservation of the key. -/
def KeyUnused (h : Hotel) (channel : ReservationChannelContext) : Prop :=
  ∀ idem, channel.idempotency = some idem → h.channelRow channel.partnerId idem.key = none

section Exec

variable {h : Hotel} {channel : ReservationChannelContext}

theorem exec_channelReservation {E : Type} (hu : KeyUnused h channel) :
    (channelReservation channel : Tx (hotelDb E) Failure (Option CreatedReservation)).exec h =
      .ok (none, h) := by
  unfold channelReservation
  cases hidem : channel.idempotency with
  | none => rfl
  | some idem =>
    dsimp only
    rw [Tx.exec_read, hu idem hidem]
    rfl

theorem exec_placeNew {E : Type} (dto : CreateReservationDto) (stay : PartnerStayInfo)
    (newId : ReservationId) :
    (placeNew dto stay (some channel) newId : Tx (hotelDb E) Failure CreatedReservation).exec h =
      (placedRow dto stay channel newId h).map fun row =>
        (row.created, h.insertReservation row) := by
  unfold placeNew placedRow
  rw [Tx.exec_read]
  cases h.activeRoom dto.roomId with
  | none => rfl
  | some found =>
    dsimp only
    rw [Tx.exec_read]
    cases allocatePlace found.1.capacity found.2 dto.guests (dto.others h) with
    | none => rfl
    | some placeNumber =>
      dsimp only
      split_ifs with hchecked haccepts
      · rw [Tx.exec_write, if_pos haccepts]
        rfl
      · rw [Tx.exec_write, if_neg haccepts]
        rfl
      · rfl

theorem exec_create {E : Type} (hu : KeyUnused h channel) (dto : CreateReservationDto)
    (stay : PartnerStayInfo) (newId : ReservationId) :
    (create dto stay (some channel) newId :
      Tx (hotelDb E) Failure (Bool × CreatedReservation)).exec h =
      (newRow dto stay channel newId h).map fun row =>
        ((false, row.created), h.insertReservation row) := by
  have hplace : ∀ {g : CreatedReservation → Tx (hotelDb E) Failure (Bool × CreatedReservation)},
      (∀ created, g created = .ret (false, created)) →
      (placeNew dto stay (some channel) newId >>= g).exec h =
        (placedRow dto stay channel newId h).map fun row =>
          ((false, row.created), h.insertReservation row) := by
    intro g hg
    rw [Tx.exec_bind, exec_placeNew]
    cases placedRow dto stay channel newId h with
    | error x => rfl
    | ok row =>
      show (g row.created).exec _ = _
      rw [hg]
      rfl
  unfold create newRow
  split_ifs
  · rfl
  · obtain ⟨partnerId, idempotency⟩ := channel
    cases idempotency with
    | none => exact hplace fun _ => rfl
    | some idem =>
      unfold createTx
      rw [Tx.exec_lock, Tx.exec_bind, exec_channelReservation hu]
      exact hplace fun _ => rfl

end Exec

/-! ## The booking -/

section Booking

variable {hash : String → String} {c : Collation} {sha256 : String → String} {s : ChannelStore}
  {q : ConnectRequest} {channel : ReservationChannelContext}

/-- All gates of a booking whose key is new, and the row they let through. -/
def booking (env : ConnectEnv) (q : ConnectRequest) (channel : ReservationChannelContext) (h : Hotel) :
    Except Thrown Reservation :=
  match preflight q.tenant env q.dto q.partnerId with
  | .error x => .error ⟨true, false, x⟩
  | .ok price =>
    match roomFor q.dto h with
    | .error x => .error ⟨true, false, x⟩
    | .ok roomId =>
      match newRow (q.dto.toCreate roomId price) q.dto.stay channel q.newId h with
      | .error x => .error ⟨true, true, x⟩
      | .ok row => .ok row

theorem eval_findChannelReservation {env : ConnectEnv} {h : Hotel} (hu : KeyUnused h channel) :
    (findChannelReservation channel).eval env h h = (.ok none, h, h) := by
  unfold findChannelReservation
  split_ifs
  · rfl
  · rw [Prog.eval_transact, exec_channelReservation hu]

theorem eval_prepare {env : ConnectEnv} {h : Hotel} :
    (prepare q).eval env h h = match preflight q.tenant env q.dto q.partnerId with
      | .error x => (.error x, h, h)
      | .ok price => match roomFor q.dto h with
        | .error x => (.error x, h, h)
        | .ok roomId => (.ok (q.dto.toCreate roomId price), h, h) := by
  show ((match preflight q.tenant env q.dto q.partnerId with
    | .error x => .throw x
    | .ok price => do
      let roomId ← (pickRoom q.dto).transact
      .ret (q.dto.toCreate roomId price) : Prog (hotelDb ConnectEnv) Failure _)).eval env h h = _
  cases preflight q.tenant env q.dto q.partnerId with
  | error x => rfl
  | ok price =>
    dsimp only
    rw [Prog.eval_bind, Prog.eval_transact, exec_pickRoom]
    cases roomFor q.dto h <;> rfl

theorem eval_createAndAnnounce {env : ConnectEnv} {h : Hotel} (hu : KeyUnused h channel)
    (henv : env.announce = none) (dto : CreateReservationDto) (stay : PartnerStayInfo)
    (newId : ReservationId) :
    (createAndAnnounce dto stay channel newId).eval env h h =
      match newRow dto stay channel newId h with
      | .error x => (.error x, h, h)
      | .ok row => (.ok row.created, h.insertReservation row, h.insertReservation row) := by
  unfold createAndAnnounce
  rw [Prog.eval_bind, Prog.eval_transact, exec_create hu]
  cases newRow dto stay channel newId h with
  | error x => rfl
  | ok row =>
    simp [Except.map, Prog.eval, henv]

theorem eval_attempt {env : ConnectEnv} {h : Hotel} (hu : KeyUnused h channel)
    (henv : env.announce = none) :
    (attempt q channel).eval env h h = match booking env q channel h with
      | .error x => (.error x, h, h)
      | .ok row => (.ok row.created, h.insertReservation row, h.insertReservation row) := by
  unfold attempt booking Prog.mapError
  rw [Prog.eval_bind, Prog.eval_handle, eval_findChannelReservation hu]
  dsimp only
  rw [Prog.eval_bind, Prog.eval_handle, eval_prepare]
  cases preflight q.tenant env q.dto q.partnerId with
  | error x => rfl
  | ok price =>
    dsimp only
    cases roomFor q.dto h with
    | error x => rfl
    | ok roomId =>
      dsimp only
      rw [Prog.eval_handle, eval_createAndAnnounce hu henv]
      cases newRow (q.dto.toCreate roomId price) q.dto.stay channel q.newId h <;> rfl

theorem book_channel (hchannel : channelContext sha256 q.dto q.partnerId q.header = .ok channel) :
    s.book hash c sha256 q =
      (match ((attempt q channel).handle (recover channel)).eval (s.env hash c q.partnerId q.dto)
          s.store.hotel s.store.hotel with
        | (.ok created, h, _) => (.ok (created.answer q.tenant), h)
        | (.error x, h, _) => (.error x, h)) := by
  unfold ChannelStore.book createReservation
  rw [hchannel, Prog.run_eq_eval, Prog.eval_bind]
  generalize ((attempt q channel).handle (recover channel)).eval _ _ _ = r
  obtain ⟨result, h, v⟩ := r
  cases result <;> rfl

/-- **A booking whose key is new** inserts the row its gates let through, or refuses and leaves the
hotel as it is. -/
theorem book_eq (hchannel : channelContext sha256 q.dto q.partnerId q.header = .ok channel)
    (hu : KeyUnused s.store.hotel channel) :
    s.book hash c sha256 q =
      match booking (s.env hash c q.partnerId q.dto) q channel s.store.hotel with
      | .error x => (.error (markRejected channel x), s.store.hotel)
      | .ok row => (.ok (row.created.answer q.tenant), s.store.hotel.insertReservation row) := by
  rw [book_channel hchannel, Prog.eval_handle, eval_attempt hu rfl]
  cases booking (s.env hash c q.partnerId q.dto) q channel s.store.hotel with
  | ok row => rfl
  | error x =>
    dsimp only
    unfold recover
    rw [Prog.eval_bind, eval_findChannelReservation hu]
    rfl

section KeyUsed

variable {idem : Idempotency} {row : Reservation} (hidem : channel.idempotency = some idem)
  (hrow : s.store.hotel.channelRow channel.partnerId idem.key = some row)
include hidem hrow

theorem eval_findChannelReservation_used (env : ConnectEnv) :
    (findChannelReservation channel).eval env s.store.hotel s.store.hotel =
      (if row.partnerPayloadHash ≠ some idem.payloadHash then .error keyConflict
        else .ok (some row.created), s.store.hotel, s.store.hotel) := by
  unfold findChannelReservation
  rw [hidem, if_neg (by simp), Prog.eval_transact]
  unfold channelReservation
  rw [hidem]
  dsimp only
  rw [Tx.exec_read, hrow]
  dsimp only
  split_ifs <;> rfl

theorem book_replay (hchannel : channelContext sha256 q.dto q.partnerId q.header = .ok channel)
    (hhash : row.partnerPayloadHash = some idem.payloadHash) :
    s.book hash c sha256 q = (.ok (row.created.answer q.tenant), s.store.hotel) := by
  rw [book_channel hchannel, Prog.eval_handle]
  unfold attempt Prog.mapError
  rw [Prog.eval_bind, Prog.eval_handle, eval_findChannelReservation_used hidem hrow,
    if_neg (not_not.mpr hhash)]
  rfl

theorem book_conflict (hchannel : channelContext sha256 q.dto q.partnerId q.header = .ok channel)
    (hhash : row.partnerPayloadHash ≠ some idem.payloadHash) :
    s.book hash c sha256 q = (.error keyConflict, s.store.hotel) := by
  rw [book_channel hchannel, Prog.eval_handle]
  have hattempt : (attempt q channel).eval (s.env hash c q.partnerId q.dto) s.store.hotel
      s.store.hotel = (.error ⟨false, false, keyConflict⟩, s.store.hotel, s.store.hotel) := by
    unfold attempt Prog.mapError
    rw [Prog.eval_bind, Prog.eval_handle, eval_findChannelReservation_used hidem hrow, if_pos hhash]
    rfl
  rw [hattempt]
  dsimp only
  unfold recover
  rw [Prog.eval_bind, eval_findChannelReservation_used hidem hrow, if_pos hhash]

end KeyUsed

theorem book_invalidKey {x : Failure}
    (hchannel : channelContext sha256 q.dto q.partnerId q.header = .error x) :
    s.book hash c sha256 q = (.error x, s.store.hotel) := by
  unfold ChannelStore.book createReservation
  rw [hchannel]
  rfl

end Booking

end KarsHotel
