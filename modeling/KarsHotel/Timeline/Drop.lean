import KarsHotel.Reservations.PlaceAllocation
import KarsHotel.Reservations.PlaceRule
import KarsHotel.Timeline.Drag

/-!
# What becomes of a drop

The screen finds a place for a booking that is let go by counting place numbers on its board; the
server looks for one in the tables, by the rule of places.

* `Scene`: a release over the board of a hotel's tables;
* `sent_spanFree_iff`: a place the screen sends is free for the server exactly if the room takes the
  booking at all;
* `OnePlaceEach`: where places are sold one by one, the parties take one each, and the place meant
  is one of the room;
* **`drop_outcome`**: in a hotel without overbooking, a confirmed drop of a scene goes through
  exactly if the room would take such a booking, and an exchange changes places and nothing else.
-/

namespace KarsHotel.TimelineDrag

open TimelineService

/-! ## Parties of one place -/

section Single

variable {c p : ℕ} {g : Guests} {others : List PlaceHolder}

theorem spanFree_single (hg : placesOf g c true = 1) :
    spanFree c true g others p = true ↔ (1 ≤ p ∧ p ≤ c) ∧ p ∉ takenPlaces c others := by
  rw [spanFree_iff, hg, and_assoc]
  refine and_congr_right fun _ => and_congr (by omega) ⟨fun h => h p ?_, fun h q hq => ?_⟩
  · exact Finset.mem_Ico.mpr ⟨le_rfl, Nat.lt_succ_self p⟩
  · rw [Finset.mem_Ico] at hq
    rwa [show q = p by omega]

theorem roomFits_single (hg : placesOf g c true = 1) (hin : takenPlaces c others ⊆ Finset.Icc 1 c) :
    roomFits c true g others = true ↔ ∃ q, (1 ≤ q ∧ q ≤ c) ∧ q ∉ takenPlaces c others := by
  rw [roomFits, Option.isSome_iff_exists]
  constructor
  · rintro ⟨q, hq⟩
    have hlow := (allocatePlace_eq_some.mp hq).2
    exact ⟨q, ⟨hlow.pos, hlow.inside⟩, hlow.free⟩
  · rintro ⟨q, hq, hfree⟩
    have hlt : (takenPlaces c others).card < (Finset.Icc 1 c).card :=
      Finset.card_lt_card ((Finset.ssubset_iff_of_subset hin).mpr ⟨q, Finset.mem_Icc.mpr hq, hfree⟩)
    have henough : Enough c g others := by
      rw [Nat.card_Icc] at hlt
      unfold Enough
      omega
    obtain ⟨low, hlow⟩ := henough.exists_lowest
    exact ⟨low, allocatePlace_eq_some.mpr ⟨henough, hlow⟩⟩

end Single

/-! ## A release over the board of the tables -/

/-- A booking is let go over a room of a hotel: the handler saw the board of the tables as they are,
the booking is a row of them, and its new nights lie in the window. -/
structure Scene (c : TimelineColumns) (h : Hotel) (first last : Day) (s : Chessboard) (p : PendingDrag)
    (r : Reservation) (room : Room) : Prop where
  released : s.release = some p
  seen : s.seen = transformTimeline (getTimeline c h first last)
  mode : s.multiPlaceEnabled = h.multiPlaceEnabled
  row : h.reservations.find r.id = some r
  booking : p.booking = shownBooking c r
  dates : r.checkIn < r.checkOut
  room : h.activeRoom p.newRoomId = some (room, h.multiPlaceEnabled)
  window : first ≤ p.newCheckIn ∧ p.newCheckOut ≤ last + 1

/-- The stays of the room on the new nights, without the dragged one. -/
def PendingDrag.others (p : PendingDrag) (h : Hotel) : List PlaceHolder :=
  h.overlapping p.newRoomId p.newCheckIn p.newCheckOut (some p.booking.id)

/-- With places sold one by one, the parties take one each, and the place meant is one of
the room. -/
structure OnePlaceEach (h : Hotel) (p : PendingDrag) (r : Reservation) (room : Room) : Prop where
  party : r.adults + r.children ≤ 1
  stays : ∀ x ∈ h.overlappingRows p.newRoomId p.newCheckIn p.newCheckOut (some r.id),
    x.adults + x.children ≤ 1
  meant : p.newPlaceNumber ≠ p.booking.placeNumber → 1 ≤ p.newPlaceNumber ∧ p.newPlaceNumber ≤ room.capacity

section Board

variable {c : TimelineColumns} {h : Hotel} {first last : Day} {s : Chessboard} {p : PendingDrag}
  {r : Reservation} {room : Room}

theorem mem_overlapping_seen {id : ReservationId} {roomId : RoomId} {checkIn checkOut : Day}
    {m : Bool} (hroom : h.activeRoom roomId = some (room, m)) (hfirst : first ≤ checkIn)
    (hlast : checkOut ≤ last + 1) {o : BoardBooking} :
    o ∈ overlapping (transformTimeline (getTimeline c h first last)).bookings id roomId checkIn checkOut ↔
      ∃ x ∈ h.overlappingRows roomId checkIn checkOut (some id), o = shownBooking c x := by
  rw [mem_overlapping, perm_bookings.mem_iff, List.mem_map]
  have hlive : ∀ x : Reservation, holdsPlace (shownBooking c x) = true ↔ x.Live := fun x => by
    rw [holdsPlace, Bool.not_eq_true', decide_eq_false_iff_not, not_or]
    exact Iff.rfl
  constructor
  · rintro ⟨⟨x, hx, rfl⟩, hid, hroomId, hholds, hin, hout⟩
    refine ⟨x, Hotel.mem_overlappingRows.mpr ⟨(Table.mem_select.mp hx).1, hroomId, ?_, hin, hout, ?_⟩, rfl⟩
    · exact fun heq => hid (Option.some.inj heq)
    · exact (hlive x).mp hholds
  · rintro ⟨x, hx, rfl⟩
    obtain ⟨hmem, hroomId, hid, hin, hout, hl⟩ := Hotel.mem_overlappingRows.mp hx
    refine ⟨⟨x, Table.mem_select.mpr ⟨hmem, ?_⟩, rfl⟩, ?_, hroomId, (hlive x).mpr hl, hin, hout⟩
    · rw [Bool.and_eq_true, decide_eq_true_eq, hroomId, hroom]
      exact ⟨⟨lt_of_lt_of_le hin hlast, lt_of_le_of_lt hfirst hout⟩, rfl⟩
    · exact fun heq => hid (congrArg some heq)

theorem capacity_seen {roomId : RoomId} {m : Bool} (hroom : h.activeRoom roomId = some (room, m)) :
    ((((transformTimeline (getTimeline c h first last)).rooms.find?
      fun x => decide (x.id = roomId)).map (·.capacity)).getD 1) = room.capacity := by
  obtain ⟨hfind, hactive, _⟩ := Hotel.activeRoom_eq_some.mp hroom
  obtain ⟨hmem, hid⟩ := Table.find_eq_some.mp hfind
  have hshown : shownRoom c room ∈ (transformTimeline (getTimeline c h first last)).rooms :=
    perm_rooms.mem_iff.mpr (List.mem_map_of_mem (Table.mem_select.mpr ⟨hmem, hactive⟩))
  cases hf : (transformTimeline (getTimeline c h first last)).rooms.find?
    fun x => decide (x.id = roomId) with
  | none =>
    have hno := List.find?_eq_none.mp hf _ hshown
    exact absurd (decide_eq_true hid) hno
  | some x =>
    obtain ⟨y, hy, rfl⟩ := List.mem_map.mp (perm_rooms.mem_iff.mp (List.mem_of_find?_eq_some hf))
    have hyid : y.id = roomId := of_decide_eq_true (List.find?_some hf :)
    have heq : y = room := Table.eq_of_key (Table.mem_select.mp hy).1 hmem (hyid.trans hid.symm)
    rw [heq]
    rfl

end Board

/-! ## The place of a move -/

section Settle

variable {seen : Board} {b : BoardBooking} {roomId : RoomId} {checkIn checkOut : Day} {place eff : ℕ}

/-- A place somebody else of the room holds on these nights. -/
def TakenOn (seen : Board) (id : ReservationId) (roomId : RoomId) (checkIn checkOut : Day) (q : ℕ) : Prop :=
  ∃ o ∈ overlapping seen.bookings id roomId checkIn checkOut, o.placeNumber = q

/-- A move without an exchange ends on the place meant where that is free; else on another free
place of the room, or on the place meant with all the others taken too. -/
theorem settle_none (h : settle seen b roomId checkIn checkOut place = (eff, none))
    (hne : eff ≠ b.placeNumber) :
    (¬TakenOn seen b.id roomId checkIn checkOut eff ∧
      (eff = place ∨ TakenOn seen b.id roomId checkIn checkOut place)) ∨
      (TakenOn seen b.id roomId checkIn checkOut eff ∧ ∀ q, 1 ≤ q →
        q ≤ ((seen.rooms.find? fun r => decide (r.id = roomId)).map (·.capacity)).getD 1 →
        TakenOn seen b.id roomId checkIn checkOut q) := by
  unfold settle at h
  dsimp only at h
  cases hfind : (overlapping seen.bookings b.id roomId checkIn checkOut).find?
    fun o => decide (o.placeNumber = place) with
  | none =>
    rw [hfind] at h
    obtain rfl : place = eff := congrArg Prod.fst h
    refine Or.inl ⟨?_, Or.inl rfl⟩
    rintro ⟨o, ho, hplace⟩
    exact absurd (decide_eq_true hplace) (List.find?_eq_none.mp hfind o ho)
  | some x =>
    have hx : TakenOn seen b.id roomId checkIn checkOut place :=
      ⟨x, List.mem_of_find?_eq_some hfind, of_decide_eq_true (List.find?_some hfind :)⟩
    rw [hfind] at h
    dsimp only at h
    split at h
    · rename_i q hfree
      obtain rfl : q = eff := congrArg Prod.fst h
      have hq := List.find?_some hfree
      rw [Bool.and_eq_true, decide_eq_true_eq] at hq
      exact Or.inl ⟨fun hq' => hq.1 (List.mem_map.mpr hq'), Or.inr hx⟩
    · rename_i hfree
      obtain rfl : place = eff := congrArg Prod.fst h
      have hroom : roomId ≠ b.roomId := fun hroom => by
        have hswap := congrArg Prod.snd h
        simp [hroom, hne] at hswap
      refine Or.inr ⟨hx, fun q hq hcap => ?_⟩
      have hno := List.find?_eq_none.mp hfree q (List.mem_range'_1.mpr ⟨hq, by omega⟩)
      rw [if_neg hroom] at hno
      have hmem : q ∈ (overlapping seen.bookings b.id roomId checkIn checkOut).map (·.placeNumber) := by
        by_contra hmem
        exact hno (by simp [hmem])
      exact List.mem_map.mp hmem

end Settle

/-! ## What the server makes of it -/

section Server

variable {c : TimelineColumns} {h : Hotel} {first last : Day} {s : Chessboard} {p : PendingDrag}
  {r : Reservation} {room : Room}

theorem takenPlaces_single (hone : ∀ x ∈ h.overlappingRows p.newRoomId p.newCheckIn p.newCheckOut
      (some p.booking.id), x.adults + x.children ≤ 1) {capacity q : ℕ} :
    q ∈ takenPlaces capacity (p.others h) ↔ ∃ x ∈ h.overlappingRows p.newRoomId p.newCheckIn
      p.newCheckOut (some p.booking.id), x.placeNumber = q := by
  have hspan : ∀ x ∈ h.overlappingRows p.newRoomId p.newCheckIn p.newCheckOut (some p.booking.id),
      (q ∈ x.placeHolder.places capacity ↔ x.placeNumber = q) := fun x hx => by
    have hplaces : placesOf x.placeHolder.toGuests capacity true = 1 := max_eq_left (hone x hx)
    rw [PlaceHolder.places, hplaces, Finset.mem_Ico]
    show x.placeNumber ≤ q ∧ q < x.placeNumber + 1 ↔ _
    omega
  rw [mem_takenPlaces]
  constructor
  · rintro ⟨o, ho, hq⟩
    obtain ⟨x, hx, rfl⟩ := List.mem_map.mp ho
    exact ⟨x, hx, (hspan x hx).mp hq⟩
  · rintro ⟨x, hx, hq⟩
    exact ⟨x.placeHolder, List.mem_map_of_mem hx, (hspan x hx).mpr hq⟩

/-- What was let go, and with which ghost. -/
theorem Scene.asked (hscene : Scene c h first last s p r room) (hinv : DragInv s) :
    ∃ type g, s.ask type (shownBooking c r) g = p ∧
      Carried s.multiPlaceEnabled type (shownBooking c r) g := by
  have hrel := hscene.released
  unfold Chessboard.release at hrel
  split at hrel
  · rename_i type b i ghost hdrag hghost
    obtain ⟨_, g, hg, hcarried⟩ := hinv.picked type b i hdrag
    obtain rfl : ghost = g := Option.some.inj (hghost.symm.trans hg)
    dsimp only at hrel
    split_ifs at hrel
    have hp : s.ask type b ghost = p := Option.some.inj hrel
    have hb : b = shownBooking c r := (congrArg PendingDrag.booking hp).trans hscene.booking
    exact ⟨type, ghost, hb ▸ hp, hb ▸ hcarried⟩
  · cases hrel

/-- A place that is sent is free, or nobody could be taken in; and where rooms are sold whole
somebody else is there. -/
theorem Scene.sent (hscene : Scene c h first last s p r room) (hinv : DragInv s)
    (hswap : p.swapBooking = none) (hsent : p.newPlaceNumber ≠ p.booking.placeNumber) :
    let Taken q := ∃ x ∈ h.overlappingRows p.newRoomId p.newCheckIn p.newCheckOut (some p.booking.id),
      x.placeNumber = q
    (¬Taken p.newPlaceNumber ∧ (h.multiPlaceEnabled = false → ∃ q, Taken q)) ∨
      (Taken p.newPlaceNumber ∧ ∀ q, 1 ≤ q → q ≤ room.capacity → Taken q) := by
  intro Taken
  have htaken : ∀ q, TakenOn s.seen p.booking.id p.newRoomId p.newCheckIn p.newCheckOut q ↔ Taken q := by
    intro q
    unfold TakenOn
    rw [hscene.seen]
    constructor
    · rintro ⟨o, ho, hq⟩
      obtain ⟨x, hx, rfl⟩ := (mem_overlapping_seen hscene.room hscene.window.1 hscene.window.2).mp ho
      exact ⟨x, hx, hq⟩
    · rintro ⟨x, hx, hq⟩
      exact ⟨shownBooking c x,
        (mem_overlapping_seen hscene.room hscene.window.1 hscene.window.2).mpr ⟨x, hx, rfl⟩, hq⟩
  obtain ⟨type, g, rfl, hcarried⟩ := hscene.asked hinv
  cases type with
  | resizeLeft => exact absurd rfl hsent
  | resizeRight => exact absurd rfl hsent
  | move =>
    have hsettle : settle s.seen (shownBooking c r) (s.targetRoom (shownBooking c r)) g.checkIn g.checkOut
        g.placeNumber = ((s.ask .move (shownBooking c r) g).newPlaceNumber, none) :=
      Prod.ext rfl hswap
    have hcap := @capacity_seen c h first last room _ _ hscene.room
    rw [← hscene.seen] at hcap
    rcases settle_none hsettle hsent with ⟨hfree, hplace⟩ | ⟨hat, hall⟩
    · refine Or.inl ⟨fun ht => hfree ((htaken _).mpr ht), fun hwhole => ?_⟩
      have hown : g.placeNumber = (shownBooking c r).placeNumber :=
        hcarried.whole (hscene.mode.trans hwhole)
      rcases hplace with hplace | hplace
      · exact absurd (hplace.trans hown) hsent
      · exact ⟨g.placeNumber, (htaken _).mp hplace⟩
    · exact Or.inr ⟨(htaken _).mp hat, fun q hq hle => (htaken q).mp (hall q hq (hle.trans_eq hcap.symm))⟩

/-- In a hotel without overbooking the places taken are places of the room. -/
theorem takenPlaces_others_subset (hn : NoOverbooking h) (hm : h.multiPlaceEnabled = true) {m : Bool}
    (hroom : h.activeRoom p.newRoomId = some (room, m)) :
    takenPlaces room.capacity (p.others h) ⊆ Finset.Icc 1 room.capacity := by
  intro q hq
  obtain ⟨o, ho, hqo⟩ := mem_takenPlaces.mp hq
  obtain ⟨x, hx, rfl⟩ := List.mem_map.mp ho
  obtain ⟨hx, hxroom, _, _, _, hlive⟩ := Hotel.mem_overlappingRows.mp hx
  have hspan := hn.inside hm x hx hlive
  rw [hxroom, Hotel.capacityOf_activeRoom hroom] at hspan
  rw [Reservation.places_placeHolder] at hqo
  exact hspan hqo

theorem roomFits_of_spanFree (hn : NoOverbooking h)
    (hone : h.multiPlaceEnabled = true → r.adults + r.children ≤ 1) {m : Bool}
    (hroom : h.activeRoom p.newRoomId = some (room, m)) {q : ℕ}
    (hfree : spanFree room.capacity h.multiPlaceEnabled r.toGuests (p.others h) q = true) :
    roomFits room.capacity h.multiPlaceEnabled r.toGuests (p.others h) = true := by
  cases hm : h.multiPlaceEnabled with
  | false =>
    rw [hm] at hfree
    exact Option.isSome_iff_exists.mpr ⟨1, allocatePlace_whole.mpr ⟨(spanFree_whole.mp hfree).2.2, rfl⟩⟩
  | true =>
    have hg : placesOf r.toGuests room.capacity true = 1 := max_eq_left (hone hm)
    rw [hm, spanFree_single hg] at hfree
    exact (roomFits_single hg (takenPlaces_others_subset hn hm hroom)).mpr ⟨q, hfree⟩

/-- **A place the screen sends is free for the server exactly if the room takes the booking.** -/
theorem sent_spanFree_iff (hscene : Scene c h first last s p r room) (hinv : DragInv s)
    (hn : NoOverbooking h) (hone : h.multiPlaceEnabled = true → OnePlaceEach h p r room)
    (hswap : p.swapBooking = none) (hsent : p.newPlaceNumber ≠ p.booking.placeNumber) :
    spanFree room.capacity h.multiPlaceEnabled r.toGuests (p.others h) p.newPlaceNumber = true ↔
      roomFits room.capacity h.multiPlaceEnabled r.toGuests (p.others h) = true := by
  have hid : p.booking.id = r.id := congrArg BoardBooking.id hscene.booking
  have hcases := hscene.sent hinv hswap hsent
  cases hm : h.multiPlaceEnabled with
  | false =>
    have hsome : p.others h ≠ [] := by
      obtain ⟨q, x, hx, _⟩ : ∃ q, ∃ x ∈ h.overlappingRows p.newRoomId p.newCheckIn p.newCheckOut
          (some p.booking.id), x.placeNumber = q :=
        hcases.elim (fun h => h.2 hm) fun h => ⟨_, h.1⟩
      exact List.ne_nil_of_mem (List.mem_map_of_mem hx)
    have hno : ¬roomFits room.capacity false r.toGuests (p.others h) = true := fun hfits => by
      obtain ⟨q, hq⟩ := Option.isSome_iff_exists.mp hfits
      exact hsome (allocatePlace_whole.mp hq).1
    exact iff_of_false (fun hfree => hsome (spanFree_whole.mp hfree).2.2) hno
  | true =>
    obtain ⟨hparty, hstays, hmeant⟩ := hone hm
    have hg : placesOf r.toGuests room.capacity true = 1 := max_eq_left hparty
    have hmem : ∀ q, q ∈ takenPlaces room.capacity (p.others h) ↔ _ := fun q =>
      takenPlaces_single (fun x hx => hstays x (hid ▸ hx))
    have hin := takenPlaces_others_subset hn hm hscene.room
    rw [spanFree_single hg, roomFits_single hg hin]
    rcases hcases with ⟨hfree, _⟩ | ⟨hat, hall⟩
    · have hfree' := fun hq => hfree ((hmem _).mp hq)
      exact ⟨fun hspan => ⟨_, hspan⟩, fun _ => ⟨hmeant hsent, hfree'⟩⟩
    · refine iff_of_false (fun hspan => hspan.2 ((hmem _).mpr hat)) ?_
      rintro ⟨q, hq, hno⟩
      exact hno ((hmem q).mpr (hall q hq.1 hq.2))

/-- The category of the booking: of the new room, if the room changes. -/
def PendingDrag.roomType (p : PendingDrag) (r : Reservation) (room : Room) : RoomTypeId :=
  if p.newRoomId ≠ r.roomId then room.roomTypeId else r.roomTypeId

/-- The stay in its new room, on its new nights. -/
def PendingDrag.moved (p : PendingDrag) (room : Room) (place : ℕ) (r : Reservation) : Reservation :=
  { r with
    roomId := p.newRoomId
    roomTypeId := p.roomType r room
    checkIn := p.newCheckIn
    checkOut := p.newCheckOut
    placeNumber := place
    version := r.version + 1 }

section Dto

variable (hbooking : p.booking = shownBooking c r)
include hbooking

theorem finalRoom_dto : p.dto.finalRoom r = p.newRoomId := by
  have hroom : p.booking.roomId = r.roomId := congrArg BoardBooking.roomId hbooking
  by_cases hne : p.newRoomId = p.booking.roomId
  · simp [PendingDrag.dto, changedField, UpdateReservationDto.finalRoom, hne, Field.orElse, hroom]
  · simp [PendingDrag.dto, changedField, UpdateReservationDto.finalRoom, hne, Field.orElse]

theorem finalCheckIn_dto : p.dto.finalCheckIn r = startOf p.newCheckIn := by
  have hday : p.booking.checkIn = r.checkIn := congrArg BoardBooking.checkIn hbooking
  by_cases hne : p.newCheckIn = p.booking.checkIn
  · simp [PendingDrag.dto, UpdateReservationDto.finalCheckIn, hne, hday]
  · simp [PendingDrag.dto, UpdateReservationDto.finalCheckIn, hne, parseISO, IsoDate.ofDay]

theorem finalCheckOut_dto : p.dto.finalCheckOut r = startOf p.newCheckOut := by
  have hday : p.booking.checkOut = r.checkOut := congrArg BoardBooking.checkOut hbooking
  by_cases hne : p.newCheckOut = p.booking.checkOut
  · simp [PendingDrag.dto, UpdateReservationDto.finalCheckOut, hne, hday]
  · simp [PendingDrag.dto, UpdateReservationDto.finalCheckOut, hne, parseISO, IsoDate.ofDay]

theorem changesRoom_dto : p.dto.changesRoom r = decide (p.newRoomId ≠ r.roomId) := by
  have hroom : p.booking.roomId = r.roomId := congrArg BoardBooking.roomId hbooking
  by_cases hne : p.newRoomId = r.roomId
  · simp [PendingDrag.dto, changedField, UpdateReservationDto.changesRoom, hne, hroom]
  · simp [PendingDrag.dto, changedField, UpdateReservationDto.changesRoom, hne, hroom]

theorem write_dto (place : ℕ) :
    p.dto.write r .empty (p.roomType r room) place r = p.moved room place r := by
  have hin : dateOf (p.dto.finalCheckIn r) = p.newCheckIn := by
    rw [finalCheckIn_dto hbooking, dateOf_startOf]
  have hout : dateOf (p.dto.finalCheckOut r) = p.newCheckOut := by
    rw [finalCheckOut_dto hbooking, dateOf_startOf]
  simp only [UpdateReservationDto.write, finalRoom_dto hbooking, hin, hout]
  rfl

end Dto

/-- A question that is about a change sends something the place depends on. -/
theorem touchesPlace_dto (hchanges : p.unchanged = false) : p.dto.touchesPlace = true := by
  by_contra hno
  simp only [PendingDrag.dto, UpdateReservationDto.touchesPlace, changedField] at hno
  refine Bool.false_ne_true (hchanges.symm.trans ?_)
  simp only [PendingDrag.unchanged, Bool.and_eq_true, decide_eq_true_eq]
  by_contra hall
  apply hno
  by_cases hroom : p.newRoomId = p.booking.roomId <;> by_cases hin : p.newCheckIn = p.booking.checkIn <;>
    by_cases hout : p.newCheckOut = p.booking.checkOut <;>
    by_cases hplace : p.newPlaceNumber = p.booking.placeNumber <;>
    simp_all [Field.isDefined, Field.toOption]

/-- **A confirmed drop is a choice of a place.** -/
theorem request_exec (hscene : Scene c h first last s p r room) (hinv : DragInv s)
    (hswap : p.swapBooking = none) (now : Moment) :
    ((p.request now).body (E := Unit)).exec h =
      match p.dto.choosePlace r room.capacity h.multiPlaceEnabled (p.others h) with
      | .error x => .error x
      | .ok place => .ok ((), h.updateReservation r.id (p.moved room place)) := by
  have hbooking := hscene.booking
  have hasks : Asks p := hinv.release hscene.released
  have hid : p.booking.id = r.id := congrArg BoardBooking.id hbooking
  have hversion : p.dto.version = r.version := congrArg BoardBooking.version hbooking
  have hroom := hscene.room
  have hbody : (p.request now).body (E := Unit) = update r.id p.dto .form now := by
    rw [PendingDrag.request, hswap, hid]
    rfl
  have hlt : p.dto.finalCheckIn r < p.dto.finalCheckOut r := by
    have hnights := hasks.nights (hbooking ▸ hscene.dates)
    rw [finalCheckIn_dto hbooking, finalCheckOut_dto hbooking]
    exact Int.mul_lt_mul_of_pos_right hnights (by decide)
  have hothers : p.dto.others r h r.id = p.others h := by
    rw [UpdateReservationDto.others, finalRoom_dto hbooking, finalCheckIn_dto hbooking,
      finalCheckOut_dto hbooking, dateOf_startOf, dateOf_startOf, ← hid]
    rfl
  have hplace : (resolvePlace (E := Unit) r.id p.dto r).exec h =
      match p.dto.choosePlace r room.capacity h.multiPlaceEnabled (p.others h) with
      | .error x => .error x
      | .ok place => .ok (place, h) := by
    rw [resolvePlace, if_pos (touchesPlace_dto hasks.changes), Tx.exec_read, finalRoom_dto hbooking]
    simp only [hroom, Tx.exec_read, hothers]
    cases p.dto.choosePlace r room.capacity h.multiPlaceEnabled (p.others h) <;> rfl
  have htype : (resolveRoomType (E := Unit) p.dto r).exec h = .ok (p.roomType r room, h) := by
    rw [resolveRoomType, changesRoom_dto hbooking, PendingDrag.roomType]
    by_cases hne : p.newRoomId ≠ r.roomId
    · rw [if_pos (decide_eq_true hne), if_pos hne, Tx.exec_read, finalRoom_dto hbooking]
      simp only [hroom]
      rfl
    · rw [if_neg (by simpa using hne), if_neg hne]
      rfl
  have hwrite : ∀ place, h.updateReservation r.id (p.dto.write r .empty (p.roomType r room) place) =
      h.updateReservation r.id (p.moved room place) := by
    intro place
    unfold Hotel.updateReservation
    congr 1
    refine Table.modify_congr fun x hx hxid => ?_
    obtain rfl : x = r := Option.some.inj ((Table.find_eq_some.mpr ⟨hx, hxid⟩).symm.trans hscene.row)
    exact write_dto hbooking place
  have hstatus : p.dto.finalStatus r = r.status := rfl
  have hfact : p.dto.fact r = none := by
    rw [UpdateReservationDto.fact, hstatus, if_neg (by simp)]
  have hcancel : p.dto.cancelling r = false := by
    rw [UpdateReservationDto.cancelling, hstatus]
    simp
  have hguests : p.dto.changesChannelGuests r false = false := by
    simp [UpdateReservationDto.changesChannelGuests, PendingDrag.dto, UpdateReservationDto.ofVersion,
      Field.isDefined]
  rw [hbody, update, Tx.exec_read]
  simp only [hscene.row]
  rw [if_neg (not_not_intro hversion.symm), UpdateOptions.form, hguests, if_neg (by decide), updateRow,
    if_neg (not_le.mpr hlt), admitStatus, hfact]
  dsimp only
  rw [Tx.ret_bind, admitCancel, hcancel, if_neg (by decide), Tx.ret_bind, Tx.exec_bind, hplace]
  cases p.dto.choosePlace r room.capacity h.multiPlaceEnabled (p.others h) with
  | error x => rfl
  | ok place =>
    dsimp only
    rw [Tx.exec_bind, htype]
    dsimp only
    rw [writeRow, Tx.exec_write, hfact, hwrite]
    rfl

/-- A choice of a place for the moved stay goes through where the room takes it. -/
structure Chosen (h : Hotel) (p : PendingDrag) (r : Reservation) (room : Room) (place : ℕ) : Prop where
  fits : roomFits room.capacity h.multiPlaceEnabled r.toGuests (p.others h) = true
  /-- The place meant, if it is another one than the stay had. -/
  meant : p.newPlaceNumber ≠ r.placeNumber → place = p.newPlaceNumber
  /-- The same place in the same room, where it is free. -/
  kept : p.newPlaceNumber = r.placeNumber → p.newRoomId = r.roomId →
    spanFree room.capacity h.multiPlaceEnabled r.toGuests (p.others h) r.placeNumber = true →
    place = r.placeNumber
  free : PlaceFree room.capacity h.multiPlaceEnabled r.toGuests (p.others h) place

theorem choosePlace_dto (hscene : Scene c h first last s p r room) (hinv : DragInv s)
    (hn : NoOverbooking h) (hone : h.multiPlaceEnabled = true → OnePlaceEach h p r room)
    (hswap : p.swapBooking = none) :
    (∃ place, p.dto.choosePlace r room.capacity h.multiPlaceEnabled (p.others h) = .ok place ∧
      Chosen h p r room place) ∨
    (roomFits room.capacity h.multiPlaceEnabled r.toGuests (p.others h) = false ∧
      ∃ x : Failure, p.dto.choosePlace r room.capacity h.multiPlaceEnabled (p.others h) = .error x ∧
        x.status = some 409) := by
  have hplace : p.booking.placeNumber = r.placeNumber := congrArg BoardBooking.placeNumber hscene.booking
  have hguests : p.dto.finalGuests r = r.toGuests := rfl
  -- a place the server looks for itself
  have hfirst : ∀ place, allocatePlace room.capacity h.multiPlaceEnabled r.toGuests (p.others h) =
      some place → PlaceFree room.capacity h.multiPlaceEnabled r.toGuests (p.others h) place :=
    fun place hp => placeFree_of_allocatePlace hp fun hm =>
      firstRunFree_of_single (max_eq_left (hone hm).party)
  by_cases hsent : p.newPlaceNumber ≠ r.placeNumber
  · have hfield : p.dto.placeNumber = .val p.newPlaceNumber := by
      simp [PendingDrag.dto, changedField, hplace, hsent]
    have hiff := sent_spanFree_iff hscene hinv hn hone hswap (hplace.symm ▸ hsent)
    simp only [UpdateReservationDto.choosePlace, hfield, hguests]
    by_cases hspan : spanFree room.capacity h.multiPlaceEnabled r.toGuests (p.others h)
        p.newPlaceNumber = true
    · refine Or.inl ⟨p.newPlaceNumber, if_pos hspan, hiff.mp hspan, fun _ => rfl, fun heq => ?_, ?_⟩
      · exact absurd heq hsent
      · exact placeFree_of_spanFree hspan
    · refine Or.inr ⟨Bool.not_eq_true _ ▸ mt hiff.mpr hspan, _, if_neg hspan, rfl⟩
  · have hfield : p.dto.placeNumber = .undefined := by
      simp [PendingDrag.dto, changedField, hplace, not_not.mp hsent]
    simp only [UpdateReservationDto.choosePlace, hfield, hguests, changesRoom_dto hscene.booking]
    by_cases hstay : p.newRoomId = r.roomId ∧
        spanFree room.capacity h.multiPlaceEnabled r.toGuests (p.others h) r.placeNumber = true
    · refine Or.inl ⟨r.placeNumber, ?_, ?_, fun hne => absurd hne hsent, fun _ _ _ => rfl, ?_⟩
      · simp [hstay.1, hstay.2]
      · exact roomFits_of_spanFree hn (fun hm => (hone hm).party) hscene.room hstay.2
      · exact placeFree_of_spanFree hstay.2
    · have hassigned : ∀ assigned : Except Failure ℕ,
          (if decide (p.newRoomId ≠ r.roomId) = true then assigned
          else if spanFree room.capacity h.multiPlaceEnabled r.toGuests (p.others h) r.placeNumber = true
            then .ok r.placeNumber else assigned) = assigned := by
        intro assigned
        by_cases hroom : p.newRoomId = r.roomId
        · rw [if_neg (by simpa using hroom), if_neg fun hfree => hstay ⟨hroom, hfree⟩]
        · rw [if_pos (decide_eq_true hroom)]
      rw [hassigned]
      cases hfound : allocatePlace room.capacity h.multiPlaceEnabled r.toGuests (p.others h) with
      | none => exact Or.inr ⟨by rw [roomFits, hfound]; rfl, _, rfl, rfl⟩
      | some place =>
        refine Or.inl ⟨place, rfl, by rw [roomFits, hfound]; rfl, fun hne => absurd hne hsent, ?_, ?_⟩
        · exact fun _ hroom hfree => absurd ⟨hroom, hfree⟩ hstay
        · exact hfirst place hfound

theorem id_movedTo (o x : Reservation) : (x.movedTo o.placeNumber).id = x.id :=
  rfl

/-- Two stays of a room have changed places. -/
def exchanged (h : Hotel) (r o : Reservation) : Hotel :=
  (h.updateReservation r.id (fun x => x.movedTo o.placeNumber) (id_movedTo o)).updateReservation o.id
    (fun x => x.movedTo r.placeNumber) (id_movedTo r)

/-- What a confirmed question comes to. -/
structure Outcome (h : Hotel) (p : PendingDrag) (r : Reservation) (room : Room) (now : Moment) : Prop where
  /-- A move goes through exactly if the room takes such a booking; else nothing changes. -/
  move : p.swapBooking = none →
    (∃ place, Chosen h p r room place ∧ ((p.request now).body (E := Unit)).exec h =
      .ok ((), h.updateReservation r.id (p.moved room place))) ∨
    (roomFits room.capacity h.multiPlaceEnabled r.toGuests (p.others h) = false ∧
      ∃ x : Failure, ((p.request now).body (E := Unit)).exec h = .error x ∧ x.status = some 409)
  /-- An exchange is with the stay on the place meant; the nights stay as they are. -/
  exchange : ∀ other, p.swapBooking = some other → ∃ o ∈ h.reservations, o.id = other.id ∧ o.Live ∧
    o.roomId = r.roomId ∧ o.placeNumber = p.newPlaceNumber ∧
    ((p.request now).body (E := Unit)).exec h = .ok ((), exchanged h r o)

/-- The booking of an exchange is a row of the tables. -/
theorem Scene.other (hscene : Scene c h first last s p r room) (hinv : DragInv s) {other : BoardBooking}
    (hother : p.swapBooking = some other) :
    ∃ o ∈ h.reservations, other = shownBooking c o ∧ o.Live ∧ o.id ≠ r.id := by
  obtain ⟨type, g, rfl, _⟩ := hscene.asked hinv
  cases type with
  | resizeLeft => cases hother
  | resizeRight => cases hother
  | move =>
    obtain ⟨_, _, _, _, hmem⟩ := settle_swap (show (settle s.seen (shownBooking c r)
      (s.targetRoom (shownBooking c r)) g.checkIn g.checkOut g.placeNumber).2 = some other from hother)
    rw [hscene.seen] at hmem
    obtain ⟨o, ho, rfl⟩ := (mem_overlapping_seen hscene.room hscene.window.1 hscene.window.2).mp hmem
    obtain ⟨ho, _, hid, _, _, hlive⟩ := Hotel.mem_overlappingRows.mp ho
    exact ⟨o, ho, rfl, hlive, fun heq => hid (congrArg some heq)⟩

/-- **What becomes of a drop.** In a hotel without overbooking, a question of a scene that is
confirmed is a move that goes through exactly if the room takes such a booking, onto the place meant
if it is another one; or an exchange of two places. -/
theorem drop_outcome (multiPlaceEnabled : Bool) (viewStart : Day) (events : List DragEvent)
    (c : TimelineColumns) (h : Hotel) (first last : Day) (p : PendingDrag) (r : Reservation) (room : Room)
    (hscene : Scene c h first last (Chessboard.run multiPlaceEnabled viewStart events) p r room)
    (hn : NoOverbooking h) (hone : h.multiPlaceEnabled = true → OnePlaceEach h p r room) (now : Moment) :
    Outcome h p r room now := by
  have hinv := dragInv_run multiPlaceEnabled viewStart events
  refine ⟨fun hswap => ?_, fun other hother => ?_⟩
  · rw [request_exec hscene hinv hswap]
    rcases choosePlace_dto hscene hinv hn hone hswap with ⟨place, hplace, hchosen⟩ | ⟨hfull, x, hx, hstatus⟩
    · rw [hplace]
      exact Or.inl ⟨place, hchosen, rfl⟩
    · rw [hx]
      exact Or.inr ⟨hfull, x, rfl, hstatus⟩
  · obtain ⟨o, ho, rfl, hlive, hid⟩ := hscene.other hinv hother
    obtain ⟨_, hplace, _, _, hroom, _⟩ := (hinv.release hscene.released).exchange _ hother
    have hroom' : o.roomId = r.roomId := hroom.trans (congrArg BoardBooking.roomId hscene.booking)
    refine ⟨o, ho, rfl, hlive, hroom', hplace, ?_⟩
    have hbody : (p.request now).body (E := Unit) =
        KarsHotel.swap ⟨r.id, r.version, o.id, o.version⟩ := by
      rw [PendingDrag.request, hother, hscene.booking]
      rfl
    rw [hbody, KarsHotel.swap, Tx.exec_read, if_neg hid.symm]
    simp only [hscene.row, Table.find_key ho]
    rw [if_neg (by simp), if_neg (not_not_intro hroom'.symm)]
    rfl

end Server

/-! ## A small hotel -/

def smallColumns : TimelineColumns :=
  ⟨fun _ => "101", fun _ => 1, fun _ => .none, fun _ => "STD", fun _ => "Standard", fun _ => 500000,
    fun _ => 0, fun _ => ""⟩

def twoBeds : Room := ⟨1, 7, 2, true, .clean⟩

/-- One adult for two nights. -/
def oneGuest : Reservation :=
  ⟨⟨1, 0⟩, 5, 1, 7, "Guest", none, none, 10, 12, .confirmed, .direct, none, none, none, 1, false, none,
    none, none, none, 3, none, none, none, none, none⟩

/-- A hotel of one room with two beds, sold by places, and a guest in the first. -/
def smallHotel : Hotel := ⟨true, Table.empty.insert twoBeds, Table.empty.insert oneGuest, .empty⟩

/-- The guest is picked up on the row of the first bed and let go on that of the second. -/
def toSecondBed : List DragEvent :=
  [.loaded (transformTimeline (getTimeline smallColumns smallHotel 8 37)), .enterRow 1 (some 1),
    .bookingMouseDown (shownBooking smallColumns oneGuest) .move 2, .enterRow 1 (some 2), .mouseMove 2]

def secondBed : PendingDrag := ⟨shownBooking smallColumns oneGuest, 10, 12, 1, 2, none, .move⟩

theorem mem_smallHotel {x : Reservation} (hx : x ∈ smallHotel.reservations) : x = oneGuest :=
  (Table.mem_of_mem_insert hx).resolve_left (Table.not_mem_empty x)

theorem noOverbooking_smallHotel : NoOverbooking smallHotel where
  whole h := by cases h
  places _ a ha b hb hab := absurd ((mem_smallHotel ha).trans (mem_smallHotel hb).symm) hab
  inside _ a ha _ := by
    rw [mem_smallHotel ha]
    decide +kernel

theorem scene_secondBed : Scene smallColumns smallHotel 8 37 (Chessboard.run true 8 toSecondBed) secondBed
    oneGuest twoBeds where
  released := by decide +kernel
  seen := by decide +kernel
  mode := by decide +kernel
  row := by decide +kernel
  booking := rfl
  dates := by decide
  room := by decide +kernel
  window := by decide

theorem onePlaceEach_secondBed : OnePlaceEach smallHotel secondBed oneGuest twoBeds where
  party := by decide
  stays x hx := by
    rw [mem_smallHotel (Hotel.mem_overlappingRows.mp hx).1]
    decide
  meant _ := by decide

/-- The guest changes beds. -/
theorem drop_outcome_bed : Outcome smallHotel secondBed oneGuest twoBeds 0 :=
  drop_outcome true 8 toSecondBed smallColumns smallHotel 8 37 secondBed oneGuest twoBeds scene_secondBed
    noOverbooking_smallHotel (fun _ => onePlaceEach_secondBed) 0

end KarsHotel.TimelineDrag
