import KarsHotel.Lib.CharText
import KarsHotel.Timeline.Drop

/-!
# The form of a booking

The form opens with what the board has of a booking, checks by its own rule whether the room is
free, and sends all its fields back.

* `bookingFormValues`, `getConflict`, `totalPrice`, `handleSave`: the form; `handleFormSave`: the
  patch the screen makes of what it hands over;
* `Settled`: a live stay of an active room in a hotel without overbooking, at a place of the room;
* **`form_keeps`**: such a stay, opened on a board whose window holds its nights and saved as it is,
  is accepted if its guest has a name, and only its version changes; and whatever else is edited and
  can be saved, its price stays while its room and dates do, and a phone, an address or a note is
  replaced but never erased.
-/

namespace KarsHotel.BookingForm

open CharText TimelineService TimelineDrag

/-! ## The form -/

structure FormValues where
  guestName : String
  phone : String
  email : String
  roomId : Option RoomId
  checkIn : Option Day
  checkOut : Option Day
  adults : ℕ
  children : ℕ
  status : ReservationStatus
  source : ReservationSource
  notes : String
  deriving DecidableEq, Repr

/-- The form of a booking when it opens. -/
def bookingFormValues (booking : BoardBooking) : FormValues :=
  { booking with
    roomId := some booking.roomId
    checkIn := some booking.checkIn
    checkOut := some booking.checkOut
    adults := if booking.adults = 0 then 1 else booking.adults }

section Form

variable (board : Board) (booking : BoardBooking) (form : FormValues)

/-- A booking that stands in the way: one of the room, where as many places are held as it has. -/
def getConflict (roomId : RoomId) (checkIn checkOut : Day) (roomCapacity : ℕ) : Option BoardBooking :=
  if checkOut ≤ checkIn then none
  else
    let others := overlapping board.bookings booking.id roomId checkIn checkOut
    let occupiedPlaces := distinct (others.map (·.placeNumber))
    if occupiedPlaces.length < roomCapacity then none else others.head?

def roomOf (roomId : Option RoomId) : Option BoardRoom :=
  roomId.bind fun id => board.rooms.find? fun r => decide (r.id = id)

def conflict : Option BoardBooking :=
  match form.roomId, form.checkIn, form.checkOut with
  | some roomId, some checkIn, some checkOut => getConflict board booking roomId checkIn checkOut
      (((roomOf board form.roomId).map (·.capacity)).getD 1)
  | _, _, _ => none

/-- What the nights of the form cost at the price of the category. -/
def computedTotal : Price :=
  let nights := match form.checkIn, form.checkOut with
    | some checkIn, some checkOut => max 0 (checkOut - checkIn)
    | _, _ => 0
  let category := (roomOf board form.roomId).bind fun r =>
    board.categories.find? fun k => decide (k.id = r.categoryId)
  nights * ((category.map (·.basePrice)).getD 0)

/-- The stored price, as long as the room and the dates are those of the booking. -/
def totalPrice : Price :=
  if form.roomId = some booking.roomId ∧ form.checkIn = some booking.checkIn ∧
      form.checkOut = some booking.checkOut then booking.totalPrice
  else computedTotal board form

/-- `x || undefined`. -/
def sentText (text : String) : Field String := if text = "" then .undefined else .val text

/-- The patch the screen sends for a form of these values. -/
def handleFormSave (roomId : RoomId) (checkIn checkOut : Day) : UpdateReservationDto where
  version := booking.version
  roomId := .val roomId
  guestName := .val form.guestName
  phone := sentText form.phone
  email := sentText form.email
  checkIn := .val (.ofDay checkIn)
  checkOut := .val (.ofDay checkOut)
  adults := .val form.adults
  children := .val form.children
  status := some form.status
  source := some form.source
  notes := sentText form.notes
  placeNumber := .undefined
  totalPrice := if totalPrice board booking form = 0 then .undefined
    else .val (totalPrice board booking form)

/-- The button of the form: nothing without a name, a room, dates, or with a conflict. -/
def handleSave : Option UpdateReservationDto :=
  match form.roomId, form.checkIn, form.checkOut with
  | some roomId, some checkIn, some checkOut =>
    if trim form.guestName.toList ≠ [] ∧ conflict board booking form = none then
      some (handleFormSave board booking form roomId checkIn checkOut)
    else none
  | _, _, _ => none

end Form

/-! ## The stay as it is -/

section Stay

variable {c : TimelineColumns} {h : Hotel} {first last : Day} {r : Reservation} {room : Room}

theorem meets_of_overlapping (hchecked : ∀ o ∈ h.reservations, o.checked = true)
    (hr : r ∈ h.reservations) {o : Reservation}
    (ho : o ∈ h.overlappingRows r.roomId r.checkIn r.checkOut (some r.id)) : r.Meets o := by
  obtain ⟨ho, hroom, _, hin, hout, _⟩ := Hotel.mem_overlappingRows.mp ho
  have hdates : ∀ x ∈ h.reservations, x.checkIn < x.checkOut := fun x hx => by
    have hx := hchecked x hx
    rw [Reservation.checked, Bool.and_eq_true, decide_eq_true_eq] at hx
    exact hx.1
  refine ⟨hroom.symm, max r.checkIn o.checkIn, Finset.mem_Ico.mpr ?_, Finset.mem_Ico.mpr ?_⟩
  · exact ⟨le_max_left _ _, max_lt (hdates r hr) hin⟩
  · exact ⟨le_max_right _ _, max_lt hout (hdates o ho)⟩

/-- A live stay of an active room, in a hotel that keeps the rule of places. -/
structure Settled (h : Hotel) (r : Reservation) (room : Room) : Prop where
  rule : NoOverbooking h
  checked : ∀ o ∈ h.reservations, o.checked = true
  row : r ∈ h.reservations
  live : r.Live
  active : h.activeRoom r.roomId = some (room, h.multiPlaceEnabled)
  place : h.multiPlaceEnabled = false → 1 ≤ r.placeNumber ∧ r.placeNumber ≤ room.capacity

/-- The other stays of the room on the nights of the stay. -/
def besides (h : Hotel) (r : Reservation) : List Reservation :=
  h.overlappingRows r.roomId r.checkIn r.checkOut (some r.id)

theorem Settled.besides_whole (hs : Settled h r room) (hm : h.multiPlaceEnabled = false) :
    besides h r = [] := by
  refine List.eq_nil_iff_forall_not_mem.mpr fun o ho => ?_
  obtain ⟨hmem, _, hid, _, _, hl⟩ := Hotel.mem_overlappingRows.mp ho
  have hne : r ≠ o := fun heq => hid (by rw [heq])
  exact hs.rule.whole hm r hs.row o hmem hne hs.live hl (meets_of_overlapping hs.checked hs.row ho)

theorem Settled.besides_places (hs : Settled h r room) (hm : h.multiPlaceEnabled = true) {o : Reservation}
    (ho : o ∈ besides h r) : Disjoint r.span o.span ∧ o.span ⊆ Finset.Icc 1 room.capacity := by
  obtain ⟨hmem, hroom, hid, _, _, hl⟩ := Hotel.mem_overlappingRows.mp ho
  have hne : r ≠ o := fun heq => hid (by rw [heq])
  have hinside := hs.rule.inside hm o hmem hl
  rw [hroom, Hotel.capacityOf_activeRoom hs.active] at hinside
  exact ⟨hs.rule.places hm r hs.row o hmem hne hs.live hl (meets_of_overlapping hs.checked hs.row ho),
    hinside⟩

theorem Settled.inside (hs : Settled h r room) (hm : h.multiPlaceEnabled = true) :
    r.span ⊆ Finset.Icc 1 room.capacity := by
  have hinside := hs.rule.inside hm r hs.row hs.live
  rwa [Hotel.capacityOf_activeRoom hs.active] at hinside

theorem placeNumber_mem_span (x : Reservation) : x.placeNumber ∈ x.span :=
  Finset.mem_Ico.mpr ⟨le_rfl, Nat.lt_add_of_pos_right (placesOf_pos _ _ _)⟩

/-- **A stay that keeps the rule finds its own place free.** -/
theorem Settled.spanFree (hs : Settled h r room) :
    spanFree room.capacity h.multiPlaceEnabled r.toGuests
      (h.overlapping r.roomId r.checkIn r.checkOut (some r.id)) r.placeNumber = true := by
  cases hm : h.multiPlaceEnabled with
  | false =>
    refine spanFree_whole.mpr ⟨(hs.place hm).1, (hs.place hm).2, ?_⟩
    exact congrArg (List.map Reservation.placeHolder) (hs.besides_whole hm)
  | true =>
    have hpos := placesOf_pos r.toGuests 0 true
    have hlow := Finset.mem_Icc.mp (hs.inside hm (placeNumber_mem_span r))
    have hlast : r.placeNumber + placesOf r.toGuests 0 true - 1 ∈ r.span :=
      Finset.mem_Ico.mpr ⟨by omega, by omega⟩
    have hhigh := Finset.mem_Icc.mp (hs.inside hm hlast)
    rw [placesOf_true _ 0 room.capacity] at hpos hhigh
    refine spanFree_iff.mpr ⟨hlow.1, by omega, fun q hq htaken => ?_⟩
    obtain ⟨x, hx, hqx⟩ := mem_takenPlaces.mp htaken
    obtain ⟨o, ho, rfl⟩ := List.mem_map.mp hx
    exact Finset.disjoint_left.mp (hs.besides_places hm ho).1 hq hqx

/-- **The form of a stay that keeps the rule shows no conflict.** -/
theorem Settled.conflict (hs : Settled h r room) (hwindow : first ≤ r.checkIn ∧ r.checkOut ≤ last + 1) :
    conflict (transformTimeline (getTimeline c h first last)) (shownBooking c r)
      (bookingFormValues (shownBooking c r)) = none := by
  have hcap : ((roomOf (transformTimeline (getTimeline c h first last)) (some r.roomId)).map
      (·.capacity)).getD 1 = room.capacity := capacity_seen hs.active
  show getConflict _ (shownBooking c r) r.roomId r.checkIn r.checkOut (((roomOf _ (some r.roomId)).map
    (·.capacity)).getD 1) = none
  have hmem := @mem_overlapping_seen c h first last room r.id r.roomId r.checkIn r.checkOut _ hs.active
    hwindow.1 hwindow.2
  rw [hcap, getConflict]
  split_ifs with hdates
  · rfl
  · cases hm : h.multiPlaceEnabled with
    | false =>
      have hnone : overlapping (transformTimeline (getTimeline c h first last)).bookings r.id r.roomId
          r.checkIn r.checkOut = [] := by
        refine List.eq_nil_iff_forall_not_mem.mpr fun o ho => ?_
        obtain ⟨x, hx, _⟩ := hmem.mp ho
        have hx : x ∈ besides h r := hx
        rw [hs.besides_whole hm] at hx
        exact absurd hx List.not_mem_nil
      show (if (distinct ((overlapping _ r.id _ _ _).map _)).length < _ then none else
        (overlapping _ r.id _ _ _).head?) = none
      rw [hnone]
      split_ifs <;> rfl
    | true =>
      refine if_pos ?_
      -- the places of the others are places of the room, and none is the one of the stay
      have hsub : (distinct ((overlapping (transformTimeline (getTimeline c h first last)).bookings r.id
          r.roomId r.checkIn r.checkOut).map (·.placeNumber))).toFinset ⊆
          (Finset.Icc 1 room.capacity).erase r.placeNumber := by
        intro q hq
        obtain ⟨o, ho, rfl⟩ := List.mem_map.mp (mem_distinct.mp (List.mem_toFinset.mp hq))
        obtain ⟨x, hx, rfl⟩ := hmem.mp ho
        obtain ⟨hdisj, hinside⟩ := hs.besides_places hm hx
        refine Finset.mem_erase.mpr ⟨fun heq => ?_, hinside (placeNumber_mem_span x)⟩
        have hplace : x.placeNumber = r.placeNumber := heq
        exact Finset.disjoint_left.mp hdisj (placeNumber_mem_span r) (hplace ▸ placeNumber_mem_span x)
      have hown := hs.inside hm (placeNumber_mem_span r)
      have hcard := Finset.card_le_card hsub
      rw [List.toFinset_card_of_nodup nodup_distinct, Finset.card_erase_of_mem hown, Nat.card_Icc] at hcard
      have := Finset.mem_Icc.mp hown
      show (distinct ((overlapping _ r.id _ _ _).map _)).length < _
      omega

/-! ## Saved -/

/-- A stored price that is sent back stays, an empty one and zero too. -/
theorem patch_sentPrice (stored : Option Price) :
    (if stored.getD 0 = 0 then Field.undefined else Field.val (stored.getD 0)).patch stored = stored := by
  cases stored with
  | none => rfl
  | some t => by_cases ht : t = 0 <;> simp [Field.patch, ht]

theorem patchText_sentText (text : String) (old : Option String) :
    patchText (sentText text) old = if text = "" then old else some text := by
  by_cases ht : text = "" <;> simp [sentText, patchText, ht]

/-- A saved form sends the stay back as it is. -/
theorem resaves_handleFormSave {board : Board} (hadults : 1 ≤ r.adults) :
    Resaves (handleFormSave board (shownBooking c r) (bookingFormValues (shownBooking c r)) r.roomId
      r.checkIn r.checkOut) r := by
  have hsent : ∀ text : Option String, patchText (sentText (text.getD "")) text = text := fun text => by
    rw [patchText_sentText]
    cases text with
    | none => rfl
    | some t => by_cases ht : t = "" <;> simp [ht]
  refine ⟨rfl, rfl, ⟨_, rfl, dateOf_parseISO_ofDay _⟩, ⟨_, rfl, dateOf_parseISO_ofDay _⟩, ?_, rfl, rfl,
    hsent _,
    hsent _, rfl, rfl, hsent _, ?_, Or.inl rfl⟩
  · show Field.val (if r.adults = 0 then 1 else r.adults) = .val r.adults
    rw [if_neg (by omega)]
  · have hprice : totalPrice board (shownBooking c r) (bookingFormValues (shownBooking c r)) =
        r.totalPrice.getD 0 := if_pos ⟨rfl, rfl, rfl⟩
    show (if totalPrice board _ _ = 0 then Field.undefined else .val (totalPrice board _ _)).patch
      r.totalPrice = r.totalPrice
    rw [hprice, patch_sentPrice]

theorem write_resaves {u : UpdateReservationDto} (hu : Resaves u r) :
    u.write r .empty r.roomTypeId r.placeNumber r = { r with version := r.version + 1 } := by
  simp only [UpdateReservationDto.write, hu.finalRoom, hu.dateOf_finalCheckIn, hu.dateOf_finalCheckOut,
    hu.guestName, hu.phone, hu.email, hu.adults, hu.children, hu.status, hu.source, hu.notes, hu.totalPrice]
  rfl

/-- **Such a save is accepted and changes the version alone.** -/
theorem Settled.resaved (hs : Settled h r room) {u : UpdateReservationDto} (hu : Resaves u r)
    (hplace : u.placeNumber = .undefined) (now : Moment) : (update (E := Unit) r.id u .form now).exec h =
      .ok ((), h.updateReservation r.id fun x => { x with version := x.version + 1 }) := by
  have hfind : h.reservations.find r.id = some r := Table.find_key hs.row
  have hdates : r.checkIn < r.checkOut := by
    have hchecked := hs.checked r hs.row
    rw [Reservation.checked, Bool.and_eq_true, decide_eq_true_eq] at hchecked
    exact hchecked.1
  have hchoose : u.choosePlace r room.capacity h.multiPlaceEnabled
      (h.overlapping r.roomId r.checkIn r.checkOut (some r.id)) = .ok r.placeNumber := by
    simp [UpdateReservationDto.choosePlace, hplace, hu.finalGuests, hu.changesRoom, hs.spanFree]
  rw [hu.update_exec hfind hdates hs.active, hchoose]
  dsimp only
  congr 2
  unfold Hotel.updateReservation
  congr 1
  refine Table.modify_congr fun x hx hxid => ?_
  obtain rfl : x = r := Table.eq_of_key hx hs.row hxid
  exact write_resaves hu

/-- What the form of a stay keeps. -/
structure Kept (c : TimelineColumns) (h : Hotel) (board : Board) (r : Reservation) (now : Moment) :
    Prop where
  /-- The stay is on the board, so its form can be opened. -/
  shown : shownBooking c r ∈ board.bookings
  /-- Saved as it is, only its version changes. -/
  saved : trim r.guestName.toList ≠ [] → ∃ dto,
    handleSave board (shownBooking c r) (bookingFormValues (shownBooking c r)) = some dto ∧
      (update (E := Unit) r.id dto .form now).exec h =
        .ok ((), h.updateReservation r.id fun x => { x with version := x.version + 1 })
  /-- The stored price stays while the room and the dates do. -/
  price : ∀ form dto, handleSave board (shownBooking c r) form = some dto →
    form.roomId = some r.roomId → form.checkIn = some r.checkIn → form.checkOut = some r.checkOut →
    dto.totalPrice.patch r.totalPrice = r.totalPrice
  /-- Texts are replaced, not erased. -/
  texts : ∀ form dto, handleSave board (shownBooking c r) form = some dto →
    patchText dto.phone r.phone = (if form.phone = "" then r.phone else some form.phone) ∧
      patchText dto.email r.email = (if form.email = "" then r.email else some form.email) ∧
      patchText dto.notes r.notes = if form.notes = "" then r.notes else some form.notes

theorem handleSave_eq_some {board : Board} {booking : BoardBooking} {form : FormValues}
    {dto : UpdateReservationDto} (hsave : handleSave board booking form = some dto) :
    ∃ roomId checkIn checkOut, dto = handleFormSave board booking form roomId checkIn checkOut := by
  unfold handleSave at hsave
  split at hsave
  · split_ifs at hsave
    exact ⟨_, _, _, (Option.some.inj hsave).symm⟩
  · cases hsave

/-- **The form keeps what it does not change.** -/
theorem form_keeps (hs : Settled h r room) (hwindow : first ≤ r.checkIn ∧ r.checkOut ≤ last + 1)
    (now : Moment) : Kept c h (transformTimeline (getTimeline c h first last)) r now where
  shown := by
    have hdates : r.checkIn < r.checkOut := by
      have hchecked := hs.checked r hs.row
      rw [Reservation.checked, Bool.and_eq_true, decide_eq_true_eq] at hchecked
      exact hchecked.1
    refine perm_bookings.mem_iff.mpr (List.mem_map_of_mem (Table.mem_select.mpr ⟨hs.row, ?_⟩))
    rw [Bool.and_eq_true, decide_eq_true_eq, hs.active]
    exact ⟨⟨lt_of_lt_of_le hdates hwindow.2, lt_of_le_of_lt hwindow.1 hdates⟩, rfl⟩
  saved hname := by
    have hadults : 1 ≤ r.adults := by
      have hchecked := hs.checked r hs.row
      rw [Reservation.checked, Bool.and_eq_true, decide_eq_true_eq, decide_eq_true_eq] at hchecked
      exact hchecked.2
    refine ⟨_, if_pos ⟨hname, hs.conflict hwindow⟩, ?_⟩
    exact hs.resaved (resaves_handleFormSave hadults) rfl now
  price form dto hsave hroom hin hout := by
    obtain ⟨roomId, checkIn, checkOut, rfl⟩ := handleSave_eq_some hsave
    have hprice : totalPrice (transformTimeline (getTimeline c h first last)) (shownBooking c r) form =
        r.totalPrice.getD 0 := if_pos ⟨hroom, hin, hout⟩
    show (if totalPrice _ _ _ = 0 then Field.undefined else .val (totalPrice _ _ _)).patch
      r.totalPrice = r.totalPrice
    rw [hprice, patch_sentPrice]
  texts form dto hsave := by
    obtain ⟨roomId, checkIn, checkOut, rfl⟩ := handleSave_eq_some hsave
    exact ⟨patchText_sentText _ _, patchText_sentText _ _, patchText_sentText _ _⟩

end Stay

/-- The guest of the small hotel. -/
theorem form_keeps_guest : Kept smallColumns smallHotel
    (transformTimeline (getTimeline smallColumns smallHotel 8 37)) oneGuest 0 := by
  have hsettled : Settled smallHotel oneGuest twoBeds := by
    refine ⟨noOverbooking_smallHotel, fun o ho => ?_, ?_, by decide, by decide +kernel, nofun⟩
    · rw [mem_smallHotel ho]
      decide
    · exact (Table.find_eq_some (k := oneGuest.id).mp (by decide +kernel)).1
  exact form_keeps hsettled (by decide) 0

end KarsHotel.BookingForm
