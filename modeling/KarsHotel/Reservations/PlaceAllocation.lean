import KarsHotel.Reservations.Deeds

/-!
# The allocator and the update's check

`allocatePlace` counts the free places of a room and hands out the lowest one; an update asks for a
run of free places from the place on.

* `FreeRun`, `LowestFree`, `Enough`: what either of them looks at; `allocatePlace_eq_some`;
* `AllocatesExactly`: a place is given exactly when some run is free, and its own run is;
* `placeNew_exec`, `create_exec`: what a creation leaves; `Resaves`: an update that sends back the
  room, the nights and the party of a stored reservation;
* `Resaves.update_exec`, `Placed.overlapping`: such an update, right after the creation;
* **`placeAllocation_iff`**: when the allocator is exact, and when a reservation just created keeps
  its place.
-/

namespace KarsHotel

/-! ## Free runs -/

section Layout

variable {c : ℕ} {g : Guests} {others : List PlaceHolder} {p q : ℕ}

/-- The places of a party from `start` on lie inside the room and are free. -/
structure FreeRun (capacity : ℕ) (guests : Guests) (others : List PlaceHolder) (start : ℕ) :
    Prop where
  pos : 1 ≤ start
  inside : start + placesOf guests capacity true ≤ capacity + 1
  free : ∀ q ∈ Finset.Ico start (start + placesOf guests capacity true),
    q ∉ takenPlaces capacity others

/-- The other stays lie inside the room, each at places of its own. -/
structure LaidOut (capacity : ℕ) (others : List PlaceHolder) : Prop where
  inside : ∀ o ∈ others, o.places capacity ⊆ Finset.Icc 1 capacity
  apart : others.Pairwise fun a b => Disjoint (a.places capacity) (b.places capacity)

/-- No fewer places are free than the party needs. -/
def Enough (capacity : ℕ) (guests : Guests) (others : List PlaceHolder) : Prop :=
  (takenPlaces capacity others).card + placesOf guests capacity true ≤ capacity

/-- The lowest free place of the room. -/
structure LowestFree (capacity : ℕ) (others : List PlaceHolder) (p : ℕ) : Prop where
  pos : 1 ≤ p
  inside : p ≤ capacity
  free : p ∉ takenPlaces capacity others
  below : ∀ q, 1 ≤ q → q < p → q ∈ takenPlaces capacity others

theorem LowestFree.unique (hp : LowestFree c others p) (hq : LowestFree c others q) : p = q := by
  by_contra hne
  by_cases hlt : p < q
  · exact hp.free (hq.below p hp.pos hlt)
  · exact hq.free (hp.below q hq.pos (by omega))

theorem spanFree_iff_freeRun : spanFree c true g others p = true ↔ FreeRun c g others p := by
  rw [spanFree_iff]
  exact ⟨fun h => ⟨h.1, h.2.1, h.2.2⟩, fun h => ⟨h.pos, h.inside, h.free⟩⟩

/-- **The allocator gives the lowest free place, when enough are free in all.** -/
theorem allocatePlace_eq_some :
    allocatePlace c true g others = some p ↔ Enough c g others ∧ LowestFree c others p := by
  constructor
  · intro h
    obtain ⟨h₁, hc, hfree, hlow, hcard⟩ := allocatePlace_lowest h
    exact ⟨hcard, h₁, hc, hfree, hlow⟩
  · rintro ⟨hcard, hp⟩
    have hfound : (allocatePlace c true g others).isSome := by
      simp only [allocatePlace, Bool.not_true, Bool.false_eq_true, if_false]
      rw [if_neg (by unfold Enough at hcard; omega), List.find?_isSome]
      refine ⟨p, List.mem_range'_1.mpr ⟨hp.pos, ?_⟩, by simpa using hp.free⟩
      have := hp.inside
      omega
    obtain ⟨q, hq⟩ := Option.isSome_iff_exists.mp hfound
    obtain ⟨h₁, hc, hfree, hlow, -⟩ := allocatePlace_lowest hq
    rw [hq, hp.unique ⟨h₁, hc, hfree, hlow⟩]

theorem firstRunFree_iff : FirstRunFree c g others ↔ ∀ p, LowestFree c others p →
    ∀ q ∈ Finset.Ico p (p + placesOf g c true), q ∉ takenPlaces c others := by
  constructor
  · intro h p hp
    refine h p (Finset.mem_Icc.mpr ⟨hp.pos, hp.inside⟩) hp.free fun q hq => ?_
    exact hp.below q (Finset.mem_Ico.mp hq).1 (Finset.mem_Ico.mp hq).2
  · intro h p hp hfree hlow
    rw [Finset.mem_Icc] at hp
    exact h p ⟨hp.1, hp.2, hfree, fun q h₁ h₂ => hlow q (Finset.mem_Ico.mpr ⟨h₁, h₂⟩)⟩

theorem LaidOut.taken_subset (h : LaidOut c others) : takenPlaces c others ⊆ Finset.Icc 1 c := by
  intro q hq
  obtain ⟨o, ho, hqo⟩ := mem_takenPlaces.mp hq
  exact h.inside o ho hqo

/-- A free run and the taken places share the room. -/
theorem FreeRun.enough (hl : LaidOut c others) (h : FreeRun c g others p) : Enough c g others := by
  have hdisj : Disjoint (takenPlaces c others) (Finset.Ico p (p + placesOf g c true)) :=
    Finset.disjoint_right.mpr h.free
  have hrun : Finset.Ico p (p + placesOf g c true) ⊆ Finset.Icc 1 c := by
    intro q hq
    rw [Finset.mem_Ico] at hq
    have := h.pos
    have := h.inside
    exact Finset.mem_Icc.mpr (by omega)
  have hcard := Finset.card_le_card (Finset.union_subset hl.taken_subset hrun)
  rw [Finset.card_union_of_disjoint hdisj, Nat.card_Ico, Nat.card_Icc] at hcard
  unfold Enough
  omega

/-- Where enough places are free, one of them is the lowest. -/
theorem Enough.exists_lowest (h : Enough c g others) :
    ∃ p, LowestFree c others p := by
  have hpos := placesOf_pos g c true
  have hfree : ∃ q, q ∈ Finset.Icc 1 c ∧ q ∉ takenPlaces c others := by
    by_contra hnone
    push Not at hnone
    have hcard := Finset.card_le_card (show Finset.Icc 1 c ⊆ takenPlaces c others from hnone)
    rw [Nat.card_Icc] at hcard
    unfold Enough at h
    omega
  classical
  have hp := Nat.find_spec hfree
  refine ⟨Nat.find hfree, (Finset.mem_Icc.mp hp.1).1, (Finset.mem_Icc.mp hp.1).2, hp.2, ?_⟩
  intro q hq hlt
  by_contra hqt
  have := (Finset.mem_Icc.mp hp.1).2
  exact Nat.find_min hfree hlt ⟨Finset.mem_Icc.mpr (by omega), hqt⟩

/-- A place is given exactly when some run of free places is long enough for the party, and the run
from the given place is. -/
structure AllocatesExactly (capacity : ℕ) (guests : Guests) (others : List PlaceHolder) : Prop where
  some_iff : (∃ p, allocatePlace capacity true guests others = some p) ↔
    ∃ start, FreeRun capacity guests others start
  free : ∀ p, allocatePlace capacity true guests others = some p → FreeRun capacity guests others p

/-- **The allocator is exact** when enough free places mean a free run at the lowest of them. -/
theorem allocatesExactly_iff_firstRunFree (hl : LaidOut c others) : AllocatesExactly c g others ↔
    (Enough c g others → FirstRunFree c g others) := by
  constructor
  · intro h he
    rw [firstRunFree_iff]
    intro p hp
    exact (h.free p (allocatePlace_eq_some.mpr ⟨he, hp⟩)).free
  · intro h
    have hfree : ∀ p, allocatePlace c true g others = some p → FreeRun c g others p := by
      intro p hp
      obtain ⟨h₁, hin, hrun⟩ := allocatePlace_run hp (h (allocatePlace_eq_some.mp hp).1)
      exact ⟨h₁, hin, hrun⟩
    refine ⟨⟨fun hp => hp.imp hfree, fun hs => ?_⟩, hfree⟩
    obtain ⟨start, hstart⟩ := hs
    have he := hstart.enough hl
    obtain ⟨p, hp⟩ := he.exists_lowest
    exact ⟨p, allocatePlace_eq_some.mpr ⟨he, hp⟩⟩

end Layout

/-! ## A creation -/

section Creation

variable {h h' : Hotel} {dto : CreateReservationDto} {stay : PartnerStayInfo}
  {channel : Option ReservationChannelContext} {newId : ReservationId}
  {created : CreatedReservation}

/-- The row of a creation went in: its room is active, the place is the allocator's, and the table
takes the row. -/
structure Placed (h h' : Hotel) (dto : CreateReservationDto) (stay : PartnerStayInfo)
    (channel : Option ReservationChannelContext) (newId : ReservationId) (room : Room) (p : ℕ) :
    Prop where
  active : h.activeRoom dto.roomId = some (room, h.multiPlaceEnabled)
  place : allocatePlace room.capacity h.multiPlaceEnabled dto.guests (dto.others h) = some p
  checked : (dto.row stay channel newId room.roomTypeId p).checked = true
  accepted : h.accepts (dto.row stay channel newId room.roomTypeId p) = true
  state : h' = h.insertReservation (dto.row stay channel newId room.roomTypeId p)

theorem placeNew_exec
    (hx : (placeNew (E := Unit) dto stay channel newId).exec h = .ok (created, h')) :
    created.id = newId ∧ ∃ room p, Placed h h' dto stay channel newId room p := by
  unfold placeNew at hx
  rw [Tx.exec_read] at hx
  cases hroom : h.activeRoom dto.roomId with
  | none =>
    simp only [hroom, Tx.exec_throw] at hx
    cases hx
  | some rm =>
    have hm := (Hotel.activeRoom_eq_some.mp hroom).2.2
    simp only [hroom, Tx.exec_read] at hx
    cases hp : allocatePlace rm.1.capacity rm.2 dto.guests (dto.others h) with
    | none =>
      simp only [hp, Tx.exec_throw] at hx
      cases hx
    | some p =>
      simp only [hp] at hx
      split_ifs at hx with hchecked
      · rw [Tx.exec_write] at hx
        split_ifs at hx with ha
        · rw [Tx.exec_ret] at hx
          cases hx
          exact ⟨rfl, rm.1, p, by rw [hroom, ← hm], by rw [← hm, hp], hchecked, ha, rfl⟩
        · cases hx
      · cases hx

/-- **A creation that is no repeat has placed its row.** -/
theorem create_exec
    (hx : (create (E := Unit) dto stay channel newId).exec h = .ok ((false, created), h')) :
    created.id = newId ∧ ∃ room p, Placed h h' dto stay channel newId room p := by
  unfold create at hx
  split_ifs at hx with hd
  · cases hx
  have placed : ∀ {b : Bool} {s : Hotel},
      ((placeNew (E := Unit) dto stay channel newId >>= fun created =>
        (.ret (false, created) : Tx (hotelDb Unit) Failure (Bool × CreatedReservation))).exec h
          = .ok ((b, created), s)) → (placeNew (E := Unit) dto stay channel newId).exec h =
            .ok (created, s) := by
    intro b s hb
    obtain ⟨a, s₁, ha, hret⟩ := Tx.exec_bind_ok hb
    rw [Tx.exec_ret] at hret
    cases hret
    exact ha
  unfold createTx at hx
  split at hx
  · next partnerId idem =>
    rw [Tx.exec_lock] at hx
    obtain ⟨a, s₁, ha, hret⟩ := Tx.exec_bind_ok hx
    simp only [channelReservation, Tx.exec_read] at ha
    cases hrow : h.channelRow partnerId idem.key with
    | none =>
      simp only [hrow, Tx.exec_ret] at ha
      cases ha
      exact placeNew_exec (placed hret)
    | some row =>
      simp only [hrow] at ha
      split_ifs at ha
      · cases ha
      · rw [Tx.exec_ret] at ha
        cases ha
        cases hret
  · exact placeNew_exec (placed hx)

end Creation

/-! ## Saved again -/

/-- An update that sends back the room, the nights and the party of a stored reservation, and
changes nothing else of it; the place is not sent, or the stored one. -/
structure Resaves (dto : UpdateReservationDto) (r : Reservation) : Prop where
  version : dto.version = r.version
  roomId : dto.roomId = .val r.roomId
  checkIn : ∃ t, dto.checkIn = .val t ∧ dateOf (parseISO t) = r.checkIn
  checkOut : ∃ t, dto.checkOut = .val t ∧ dateOf (parseISO t) = r.checkOut
  adults : dto.adults = .val r.adults
  children : dto.children = .val r.children
  guestName : dto.guestName.orElse r.guestName = r.guestName
  phone : patchText dto.phone r.phone = r.phone
  email : patchText dto.email r.email = r.email
  status : dto.finalStatus r = r.status
  source : dto.source.getD r.source = r.source
  notes : patchText dto.notes r.notes = r.notes
  totalPrice : dto.totalPrice.patch r.totalPrice = r.totalPrice
  place : dto.placeNumber = .undefined ∨ dto.placeNumber = .val r.placeNumber

namespace Resaves

variable {h : Hotel} {u : UpdateReservationDto} {r : Reservation}

theorem finalRoom (hu : Resaves u r) : u.finalRoom r = r.roomId := by
  rw [UpdateReservationDto.finalRoom, hu.roomId]
  rfl

theorem finalGuests (hu : Resaves u r) : u.finalGuests r = r.toGuests := by
  rw [UpdateReservationDto.finalGuests, hu.adults, hu.children]
  rfl

theorem dateOf_finalCheckIn (hu : Resaves u r) : dateOf (u.finalCheckIn r) = r.checkIn := by
  obtain ⟨t, ht, hd⟩ := hu.checkIn
  rw [UpdateReservationDto.finalCheckIn, ht]
  exact hd

theorem dateOf_finalCheckOut (hu : Resaves u r) : dateOf (u.finalCheckOut r) = r.checkOut := by
  obtain ⟨t, ht, hd⟩ := hu.checkOut
  rw [UpdateReservationDto.finalCheckOut, ht]
  exact hd

theorem finalCheckIn_lt (hu : Resaves u r) (hd : r.checkIn < r.checkOut) :
    u.finalCheckIn r < u.finalCheckOut r := by
  rw [← hu.dateOf_finalCheckIn, ← hu.dateOf_finalCheckOut] at hd
  by_contra hle
  have hmono : dateOf (u.finalCheckOut r) ≤ dateOf (u.finalCheckIn r) :=
    Int.ediv_le_ediv (by decide) (not_lt.mp hle)
  exact absurd hd (not_lt.mpr hmono)

theorem others (hu : Resaves u r) :
    u.others r h r.id = h.overlapping r.roomId r.checkIn r.checkOut (some r.id) := by
  rw [UpdateReservationDto.others, hu.finalRoom, hu.dateOf_finalCheckIn, hu.dateOf_finalCheckOut]

theorem changesRoom (hu : Resaves u r) : u.changesRoom r = false := by
  rw [UpdateReservationDto.changesRoom, hu.roomId]
  simp

theorem touchesPlace (hu : Resaves u r) : u.touchesPlace = true := by
  simp [UpdateReservationDto.touchesPlace, hu.roomId, Field.toOption]

theorem changesChannelGuests (hu : Resaves u r) (fromChannel : Bool) :
    u.changesChannelGuests r fromChannel = false := by
  simp [UpdateReservationDto.changesChannelGuests, hu.adults, hu.children]

theorem fact (hu : Resaves u r) : u.fact r = none := by
  rw [UpdateReservationDto.fact, hu.status, if_neg (by simp)]

theorem cancelling (hu : Resaves u r) : u.cancelling r = false := by
  simp [UpdateReservationDto.cancelling, hu.status]

/-- **Such an update is a choice of a place.** -/
theorem update_exec (hu : Resaves u r) (hr : h.reservations.find r.id = some r)
    (hd : r.checkIn < r.checkOut) {room : Room} {m : Bool}
    (hroom : h.activeRoom r.roomId = some (room, m)) (opts : UpdateOptions) (now : Moment) :
    (update (E := Unit) r.id u opts now).exec h =
      match u.choosePlace r room.capacity m
        (h.overlapping r.roomId r.checkIn r.checkOut (some r.id)) with
      | .error x => .error x
      | .ok p => .ok ((), h.updateReservation r.id (u.write r opts.stay r.roomTypeId p)) := by
  have hplace : (resolvePlace (E := Unit) r.id u r).exec h =
      match u.choosePlace r room.capacity m
        (h.overlapping r.roomId r.checkIn r.checkOut (some r.id)) with
      | .error x => .error x
      | .ok p => .ok (p, h) := by
    rw [resolvePlace, if_pos hu.touchesPlace, Tx.exec_read, hu.finalRoom]
    simp only [hroom, Tx.exec_read, hu.others]
    cases u.choosePlace r room.capacity m
      (h.overlapping r.roomId r.checkIn r.checkOut (some r.id)) <;> rfl
  rw [update, Tx.exec_read]
  simp only [hr]
  rw [if_neg (not_not_intro hu.version.symm), hu.changesChannelGuests, if_neg (by decide),
    updateRow, if_neg (not_le.mpr (hu.finalCheckIn_lt hd)), admitStatus, hu.fact]
  dsimp only
  rw [Tx.ret_bind, admitCancel, hu.cancelling, if_neg (by decide), Tx.ret_bind, Tx.exec_bind,
    hplace]
  cases u.choosePlace r room.capacity m
    (h.overlapping r.roomId r.checkIn r.checkOut (some r.id)) with
  | error x => rfl
  | ok p =>
    dsimp only
    rw [resolveRoomType, hu.changesRoom, if_neg (by decide), Tx.ret_bind, writeRow, Tx.exec_write,
      hu.fact]
    rfl

end Resaves

/-- The update is accepted and leaves the reservation at its place. -/
def KeepsPlace (h : Hotel) (u : UpdateReservationDto) (r : Reservation) : Prop :=
  ∀ opts now, ∃ h', (update (E := Unit) r.id u opts now).exec h = .ok ((), h') ∧
    (h'.reservations.find r.id).map Reservation.placeNumber = some r.placeNumber

section Saved

variable {h : Hotel} {u : UpdateReservationDto} {r : Reservation} {room : Room} {m : Bool}

/-- It keeps its place when that is the place chosen beside the other stays of its nights. -/
theorem keepsPlace_iff (hu : Resaves u r) (hr : h.reservations.find r.id = some r)
    (hd : r.checkIn < r.checkOut) (hroom : h.activeRoom r.roomId = some (room, m)) :
    KeepsPlace h u r ↔ u.choosePlace r room.capacity m
      (h.overlapping r.roomId r.checkIn r.checkOut (some r.id)) = .ok r.placeNumber := by
  unfold KeepsPlace
  simp only [hu.update_exec hr hd hroom]
  cases hp : u.choosePlace r room.capacity m
    (h.overlapping r.roomId r.checkIn r.checkOut (some r.id)) with
  | error x =>
    refine iff_of_false (fun hk => ?_) fun h => by cases h
    obtain ⟨_, hx, -⟩ := hk .form 0
    cases hx
  | ok p =>
    have hplace : ∀ opts : UpdateOptions,
        ((h.updateReservation r.id (u.write r opts.stay r.roomTypeId p)).reservations.find
          r.id).map Reservation.placeNumber = some p := by
      intro opts
      have hid : ∀ x, (u.write r opts.stay r.roomTypeId p x).id = x.id := fun _ => rfl
      show ((h.reservations.modify r.id (u.write r opts.stay r.roomTypeId p) hid).find r.id).map
        Reservation.placeNumber = some p
      rw [Table.find_modify_self, hr]
      rfl
    constructor
    · intro hk
      obtain ⟨_, hx, hf⟩ := hk .form 0
      cases hx
      rw [hplace] at hf
      rw [Option.some.inj hf]
    · intro he opts now
      refine ⟨_, rfl, ?_⟩
      rw [hplace, Except.ok.inj he]

theorem choosePlace_sent {c : ℕ} {others : List PlaceHolder}
    (hp : u.placeNumber = .val r.placeNumber) (hg : u.finalGuests r = r.toGuests) :
    u.choosePlace r c true others = .ok r.placeNumber ↔
      FreeRun c r.toGuests others r.placeNumber := by
  rw [← spanFree_iff_freeRun]
  simp only [UpdateReservationDto.choosePlace, hp, hg]
  by_cases hs : spanFree c true r.toGuests others r.placeNumber = true
  · simp [hs]
  · simp [hs]

theorem choosePlace_unsent {c : ℕ} {others : List PlaceHolder} (hp : u.placeNumber = .undefined)
    (hg : u.finalGuests r = r.toGuests) (hc : u.changesRoom r = false) :
    u.choosePlace r c true others = .ok r.placeNumber ↔
      FreeRun c r.toGuests others r.placeNumber ∨
        (Enough c r.toGuests others ∧ LowestFree c others r.placeNumber) := by
  rw [← spanFree_iff_freeRun, ← allocatePlace_eq_some]
  simp only [UpdateReservationDto.choosePlace, hp, hg, hc, Bool.false_eq_true, if_false]
  by_cases hs : spanFree c true r.toGuests others r.placeNumber = true
  · simp [hs]
  · rw [if_neg hs]
    cases allocatePlace c true r.toGuests others <;> simp [hs]

/-- The update that sends a stored reservation back as it is, with this field for the place. -/
def Reservation.resave (r : Reservation) (place : Field ℕ) : UpdateReservationDto :=
  { UpdateReservationDto.ofVersion r.version with
    roomId := .val r.roomId
    checkIn := .val (.ofDay r.checkIn)
    checkOut := .val (.ofDay r.checkOut)
    adults := .val r.adults
    children := .val r.children
    placeNumber := place }

theorem resaves_resave (r : Reservation) {place : Field ℕ}
    (hp : place = .undefined ∨ place = .val r.placeNumber) : Resaves (r.resave place) r :=
  ⟨rfl, rfl, ⟨_, rfl, dateOf_parseISO_ofDay _⟩, ⟨_, rfl, dateOf_parseISO_ofDay _⟩, rfl, rfl, rfl,
    rfl, rfl, rfl, rfl, rfl, rfl, hp⟩

end Saved

/-! ## A reservation just created -/

/-- The other stays of the nights a creation stores. -/
def CreateReservationDto.stored (dto : CreateReservationDto) (h : Hotel) : List PlaceHolder :=
  h.overlapping dto.roomId dto.checkIn.day dto.checkOut.day none

section Created

variable {h h' : Hotel} {dto : CreateReservationDto} {stay : PartnerStayInfo}
  {channel : Option ReservationChannelContext} {newId : ReservationId} {room : Room} {p : ℕ}

namespace Placed

theorem find (hpl : Placed h h' dto stay channel newId room p) :
    h'.reservations.find newId = some (dto.row stay channel newId room.roomTypeId p) := by
  rw [hpl.state, Hotel.insertReservation, if_pos hpl.accepted]
  exact Table.find_insert_self (Hotel.find_of_accepts hpl.accepted)

theorem activeRoom (hpl : Placed h h' dto stay channel newId room p) :
    h'.activeRoom dto.roomId = some (room, h.multiPlaceEnabled) := by
  rw [← hpl.active, hpl.state, Hotel.activeRoom, Hotel.activeRoom, Hotel.insertReservation_rooms,
    Hotel.insertReservation_multiPlace]

/-- The other stays of the nights stored are what they were before the creation. -/
theorem overlapping (hpl : Placed h h' dto stay channel newId room p) :
    h'.overlapping dto.roomId dto.checkIn.day dto.checkOut.day (some newId) = dto.stored h := by
  have hnone := Hotel.find_of_accepts hpl.accepted
  rw [hpl.state, Hotel.insertReservation, if_pos hpl.accepted]
  simp only [Hotel.overlapping, CreateReservationDto.stored, Hotel.overlappingRows]
  -- the new row is the excluded one, and no older row has its id
  have hskip : ∀ q : Reservation → Bool, q (dto.row stay channel newId room.roomTypeId p) = false →
      [dto.row stay channel newId room.roomTypeId p].filter q = [] := by
    intro q hq
    simp [hq]
  rw [Table.select_insert hnone, hskip _ (by simp [CreateReservationDto.row]), List.append_nil]
  refine congrArg _ (List.filter_congr fun o ho => ?_)
  have hne : o.id ≠ newId := Table.find_eq_none.mp hnone o ho
  simp [hne]

theorem checkIn_lt (hpl : Placed h h' dto stay channel newId room p) :
    dto.checkIn.day < dto.checkOut.day := by
  have hchecked := hpl.checked
  rw [Reservation.checked, Bool.and_eq_true, decide_eq_true_eq] at hchecked
  exact hchecked.1

end Placed

end Created

/-- **Allocation and update agree exactly where the lowest free place begins a free run.** A place
is given exactly when some run is free, and its own run is, when enough free places mean that the
lowest of them begins such a run; a reservation just created and saved again without a place keeps
its own when the lowest free place of the nights looked at is, on the nights stored, the first of a
free run or again the lowest one with enough free in all, and with its place when it is the first of
a free run. -/
theorem placeAllocation_iff (c : ℕ) (g : Guests) (others : List PlaceHolder) (h h' : Hotel)
    (dto : CreateReservationDto) (stay : PartnerStayInfo)
    (channel : Option ReservationChannelContext) (newId : ReservationId)
    (created : CreatedReservation) :
    (LaidOut c others →
      (AllocatesExactly c g others ↔ (Enough c g others → FirstRunFree c g others))) ∧
    (h.multiPlaceEnabled = true →
      (create (E := Unit) dto stay channel newId).exec h = .ok ((false, created), h') →
      ∃ r, h'.reservations.find created.id = some r ∧
        ((∀ u, Resaves u r → u.placeNumber = .undefined → KeepsPlace h' u r) ↔
          ∀ p, LowestFree (h.capacityOf dto.roomId) (dto.others h) p →
            FreeRun (h.capacityOf dto.roomId) dto.guests (dto.stored h) p ∨
              (Enough (h.capacityOf dto.roomId) dto.guests (dto.stored h) ∧
                LowestFree (h.capacityOf dto.roomId) (dto.stored h) p)) ∧
        ((∀ u, Resaves u r → KeepsPlace h' u r) ↔
          ∀ p, LowestFree (h.capacityOf dto.roomId) (dto.others h) p →
            FreeRun (h.capacityOf dto.roomId) dto.guests (dto.stored h) p)) := by
  refine ⟨fun hl => allocatesExactly_iff_firstRunFree hl, ?_⟩
  intro hm hx
  obtain ⟨hid, room, p, hpl⟩ := create_exec hx
  have hcap : h.capacityOf dto.roomId = room.capacity := Hotel.capacityOf_activeRoom hpl.active
  have hlow : LowestFree room.capacity (dto.others h) p := by
    have hplace := hpl.place
    rw [hm] at hplace
    exact (allocatePlace_eq_some.mp hplace).2
  -- the lowest free place is the one the reservation got
  have hthe : ∀ P : ℕ → Prop, (∀ q, LowestFree room.capacity (dto.others h) q → P q) ↔ P p :=
    fun P => ⟨fun hq => hq p hlow, fun hp q hq => hlow.unique hq ▸ hp⟩
  have hkeeps : ∀ u, Resaves u (dto.row stay channel newId room.roomTypeId p) →
      (KeepsPlace h' u (dto.row stay channel newId room.roomTypeId p) ↔
        u.choosePlace (dto.row stay channel newId room.roomTypeId p) room.capacity true
          (dto.stored h) = .ok p) := by
    intro u hu
    rw [keepsPlace_iff hu hpl.find hpl.checkIn_lt (hm ▸ hpl.activeRoom), ← hpl.overlapping]
    rfl
  rw [hid, hcap, hthe, hthe]
  refine ⟨_, hpl.find, ⟨fun hk => ?_, fun hp u hu hun => ?_⟩, ⟨fun hk => ?_, fun hp u hu => ?_⟩⟩
  · have hu := resaves_resave (dto.row stay channel newId room.roomTypeId p) (Or.inl rfl)
    exact (choosePlace_unsent rfl hu.finalGuests hu.changesRoom).mp ((hkeeps _ hu).mp (hk _ hu rfl))
  · exact (hkeeps u hu).mpr ((choosePlace_unsent hun hu.finalGuests hu.changesRoom).mpr hp)
  · have hu := resaves_resave (dto.row stay channel newId room.roomTypeId p) (Or.inr rfl)
    exact (choosePlace_sent rfl hu.finalGuests).mp ((hkeeps _ hu).mp (hk _ hu))
  · refine (hkeeps u hu).mpr ?_
    rcases hu.place with hun | hsent
    · exact (choosePlace_unsent hun hu.finalGuests hu.changesRoom).mpr (Or.inl hp)
    · exact (choosePlace_sent hsent hu.finalGuests).mpr hp

/-- One guest stands at place 2 of a room for three. -/
def middleTaken : List PlaceHolder := [⟨⟨1, 0⟩, 2⟩]

theorem laidOut_middleTaken : LaidOut 3 middleTaken := by
  refine ⟨fun o ho => ?_, List.pairwise_singleton _ _⟩
  rw [List.mem_singleton.mp ho]
  decide

/-- One guest stands at the first place of a room for four. -/
def firstTaken : List PlaceHolder := [⟨⟨1, 0⟩, 1⟩]

theorem laidOut_firstTaken : LaidOut 4 firstTaken := by
  refine ⟨fun o ho => ?_, List.pairwise_singleton _ _⟩
  rw [List.mem_singleton.mp ho]
  decide

/-- A guest has the first place of a room for four. -/
def guestFirst : Hotel :=
  step { Hotel.oneRoom true with rooms := ⟨[⟨1, 1, 4, true, .ready⟩], by decide⟩ }
    (.create .oneNight .empty none 1)

def CreateReservationDto.pair : CreateReservationDto := { CreateReservationDto.oneNight with adults := 2 }

/-- The allocator is exact for a party of two beside the guest, and the party keeps its places. -/
theorem placeAllocation_iff_pair : AllocatesExactly 4 ⟨2, 0⟩ firstTaken ∧
    ∃ r, (step guestFirst (.create .pair .empty none 2)).reservations.find 2 = some r ∧
      r.placeNumber = 2 ∧
      ∀ u, Resaves u r → KeepsPlace (step guestFirst (.create .pair .empty none 2)) u r := by
  have h := placeAllocation_iff 4 ⟨2, 0⟩ firstTaken guestFirst
    (step guestFirst (.create .pair .empty none 2)) .pair .empty none 2 ⟨2, .confirmed, 1, 2⟩
  refine ⟨(h.1 laidOut_firstTaken).mpr fun _ => by decide, ?_⟩
  obtain ⟨r, hr, -, hk⟩ := h.2 rfl rfl
  have hplace : ∀ x ∈ (step guestFirst (.create .pair .empty none 2)).reservations.find 2,
      x.placeNumber = 2 := by
    decide +kernel
  refine ⟨r, hr, hplace r hr, hk.mpr fun p hp => ?_⟩
  obtain ⟨h₁, hc, hfree, hlow⟩ := hp
  have hp : p = 2 := by
    by_contra hne
    rcases Nat.lt_or_gt_of_ne hne with hlt | hlt
    · obtain rfl : p = 1 := by omega
      exact absurd hfree (by decide)
    · exact absurd (hlow 2 (by decide) hlt) (by decide)
  subst hp
  exact spanFree_iff_freeRun.mp (by decide)

/-- **Scattered places**: a party of two is given place 1 beside the taken place 2, though no two
free places lie side by side. -/
theorem scatteredPlaces_given : LaidOut 3 middleTaken ∧
    allocatePlace 3 true ⟨2, 0⟩ middleTaken = some 1 ∧
    ¬∃ start, FreeRun 3 ⟨2, 0⟩ middleTaken start := by
  refine ⟨laidOut_middleTaken, by decide, ?_⟩
  rintro ⟨start, hrun⟩
  have hin := hrun.inside
  have hpos := hrun.pos
  rw [show placesOf ⟨2, 0⟩ 3 true = 2 from rfl] at hin
  have hstart : start = 1 ∨ start = 2 := by omega
  rcases hstart with rfl | rfl
  · exact absurd (spanFree_iff_freeRun.mpr hrun) (by decide)
  · exact absurd (spanFree_iff_freeRun.mpr hrun) (by decide)

end KarsHotel
