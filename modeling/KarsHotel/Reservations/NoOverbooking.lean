import KarsHotel.Reservations.PlaceRule

/-!
# Runs without overbooking

The service looks for a free place on some of its paths only, and takes the lowest free place for a
whole party. `OpOk` names what that leaves open:

* `CreateOk`: where places are sold one by one, the lowest free place begins a free run for the
  party; the stays of the nights it stores are among those of the instants it looks at;
* `UpdateOk`: the same where an update assigns a place; a patch that brings a reservation back to
  life without touching its place finds the place still free;
* `SwapOk`: each party is inside the room and apart from the others at its new place.

**`noOverbooking_run`**: a run whose operations meet `OpOk` keeps the rule, whatever their order;
`not_noOverbooking_run` is about one that does not.
-/

namespace KarsHotel

/-! ## What the service leaves open -/

/-- Where the allocator finds room, its lowest free place begins a free run for the party. -/
def RunWhereFits (capacity : ℕ) (guests : Guests) (others : List PlaceHolder) : Prop :=
  roomFits capacity true guests others = true → FirstRunFree capacity guests others

def ReservationStatus.Holds (s : ReservationStatus) : Prop := s ≠ .cancelled ∧ s ≠ .noShow

/-- What a creation needs where the allocator finds room: it has looked at the stays of the nights
it stores, and the lowest free place begins a free run. -/
def CreateOk (h : Hotel) (dto : CreateReservationDto) : Prop :=
  dto.initialStatus.Holds →
    roomFits (h.capacityOf dto.roomId) h.multiPlaceEnabled dto.guests (dto.others h) = true →
    (∀ o ∈ h.overlapping dto.roomId dto.checkIn.day dto.checkOut.day none, o ∈ dto.others h) ∧
      (h.multiPlaceEnabled = true →
        FirstRunFree (h.capacityOf dto.roomId) dto.guests (dto.others h))

/-- The place of a reservation is free beside the other stays of its nights. -/
structure StillFree (h : Hotel) (cur : Reservation) : Prop where
  whole : h.multiPlaceEnabled = false →
    h.overlapping cur.roomId cur.checkIn cur.checkOut (some cur.id) = []
  places : h.multiPlaceEnabled = true → spanFree (h.capacityOf cur.roomId) true cur.toGuests
    (h.overlapping cur.roomId cur.checkIn cur.checkOut (some cur.id)) cur.placeNumber = true

/-- What an update of the row `cur` needs where it assigns a place. -/
def AssignOk (h : Hotel) (dto : UpdateReservationDto) (cur : Reservation) : Prop :=
  (dto.finalStatus cur).Holds → dto.touchesPlace = true → h.multiPlaceEnabled = true →
    dto.placeNumber = .undefined →
    (dto.changesRoom cur = true ∨ spanFree (h.capacityOf (dto.finalRoom cur)) true
      (dto.finalGuests cur) (dto.others cur h cur.id) cur.placeNumber = false) →
    RunWhereFits (h.capacityOf (dto.finalRoom cur)) (dto.finalGuests cur) (dto.others cur h cur.id)

structure UpdateOk (h : Hotel) (dto : UpdateReservationDto) (cur : Reservation) : Prop where
  assign : AssignOk h dto cur
  revive : (dto.finalStatus cur).Holds → dto.touchesPlace = false → cur.Live ∨ StillFree h cur

/-- The other stays of `a`'s nights, with `b` standing where `a` was. -/
def swapOthers (h : Hotel) (a b : Reservation) : List PlaceHolder :=
  (h.overlappingRows a.roomId a.checkIn a.checkOut (some a.id)).map fun o =>
    if o.id = b.id then ⟨b.toGuests, a.placeNumber⟩ else o.placeHolder

/-- What a swap needs of each of the two. -/
def SwapOk (h : Hotel) (a b : Reservation) : Prop :=
  h.multiPlaceEnabled = true → a.Live →
    spanFree (h.capacityOf a.roomId) true a.toGuests (swapOthers h a b) b.placeNumber = true

/-- What an operation needs of the state before it. -/
def OpOk (h : Hotel) : Op → Prop
  | .create dto _ _ _ => CreateOk h dto
  | .update id dto _ _ => ∀ cur, h.reservations.find id = some cur →
      cur.version = dto.version → UpdateOk h dto cur
  | .swap dto => ∀ a b, h.reservations.find dto.idA = some a → h.reservations.find dto.idB = some b →
      a.version = dto.versionA → b.version = dto.versionB → a.roomId = b.roomId →
      SwapOk h a b ∧ SwapOk h b a
  | _ => True

/-! ## Fitting -/

/-- A created reservation fits where the stays met on its nights were seen. -/
theorem created_fits {h s s' : Hotel} {dto : CreateReservationDto} {stay : PartnerStayInfo}
    {channel : Option ReservationChannelContext} {newId : ReservationId} {room : Room} {m : Bool}
    {p : ℕ} (hs : SameHouse s h) (hs' : SameHouse s' h)
    (hroom : s.activeRoom dto.roomId = some (room, m))
    (hp : allocatePlace room.capacity m dto.guests (dto.others s') = some p)
    (hok : CreateOk s' dto) (hl : dto.initialStatus.Holds)
    (hseen : ∀ o ∈ h.overlapping dto.roomId dto.checkIn.day dto.checkOut.day none,
      o ∈ s'.overlapping dto.roomId dto.checkIn.day dto.checkOut.day none) :
    Fits h (dto.row stay channel newId room.roomTypeId p) := by
  have hcap : s'.capacityOf dto.roomId = room.capacity := by
    rw [← hs'.capacityOf, hs.capacityOf, Hotel.capacityOf_activeRoom hroom]
  have hm : m = s'.multiPlaceEnabled := by
    rw [← hs'.multiPlace, hs.multiPlace]
    exact (Hotel.activeRoom_eq_some.mp hroom).2.2
  obtain ⟨hdays, hrun⟩ := hok hl (by rw [hcap, ← hm, roomFits, hp, Option.isSome_some])
  rw [hcap, ← hm] at hrun
  have hrow : h.capacityOf (dto.row stay channel newId room.roomTypeId p).roomId =
      room.capacity := (hs'.capacityOf dto.roomId).trans hcap
  have hfree : PlaceFree
      (h.capacityOf (dto.row stay channel newId room.roomTypeId p).roomId) h.multiPlaceEnabled
      dto.guests (dto.others s') p := by
    rw [hrow, hs'.multiPlace, ← hm]
    exact placeFree_of_allocatePlace hp hrun
  refine fits_of_placeFree (fun o ho hne hlo hmeets => ?_) hfree
  exact hdays _ (hseen _ (mem_overlapping_of_meets ho hlo hmeets le_rfl le_rfl nofun))

theorem allocated {c : ℕ} {m : Bool} {guests : Guests} {others : List PlaceHolder} {p : ℕ}
    (h : (match allocatePlace c m guests others with
      | some p => Except.ok p
      | none => Except.error noPlaceAvailable) = .ok p) :
    allocatePlace c m guests others = some p := by
  cases hp : allocatePlace c m guests others with
  | none =>
    rw [hp] at h
    cases h
  | some q =>
    rw [hp] at h
    exact congrArg some (Except.ok.inj h)

theorem choosePlace_free {dto : UpdateReservationDto} {cur : Reservation} {c : ℕ} {m : Bool}
    {others : List PlaceHolder} {p : ℕ} (h : dto.choosePlace cur c m others = .ok p)
    (hok : m = true → dto.placeNumber = .undefined →
      (dto.changesRoom cur = true ∨
        spanFree c true (dto.finalGuests cur) others cur.placeNumber = false) →
      RunWhereFits c (dto.finalGuests cur) others) :
    PlaceFree c m (dto.finalGuests cur) others p := by
  -- where a place is assigned, the condition is about the lowest free one
  have assigned : dto.placeNumber = .undefined →
      (dto.changesRoom cur = true ∨ spanFree c m (dto.finalGuests cur) others cur.placeNumber = false) →
      allocatePlace c m (dto.finalGuests cur) others = some p →
      PlaceFree c m (dto.finalGuests cur) others p := by
    intro hu hwhy hp
    refine placeFree_of_allocatePlace hp fun hm => ?_
    subst hm
    exact hok rfl hu hwhy (by rw [roomFits, hp, Option.isSome_some])
  unfold UpdateReservationDto.choosePlace at h
  cases hpl : dto.placeNumber with
  | val q =>
    simp only [hpl] at h
    split_ifs at h with hq
    cases h
    exact placeFree_of_spanFree hq
  | null => simp only [hpl] at h; cases h
  | undefined =>
    simp only [hpl] at h
    split_ifs at h with hr hq
    · exact assigned hpl (Or.inl hr) (allocated h)
    · cases h
      exact placeFree_of_spanFree hq
    · exact assigned hpl (Or.inr (by simpa using hq)) (allocated h)

/-- A reservation moved to the place an update has chosen for it fits where the stays met on its
nights were seen. -/
theorem moved_fits {h s s' : Hotel} {dto : UpdateReservationDto} {cur row : Reservation}
    {room : Room} {m : Bool} {p : ℕ} (hs : SameHouse s h) (hs' : SameHouse s' h)
    (hroom : s.activeRoom (dto.finalRoom cur) = some (room, m))
    (hp : dto.choosePlace cur room.capacity m (dto.others cur s' cur.id) = .ok p)
    (ht : dto.touchesPlace = true) (hok : AssignOk s' dto cur) (hl : (dto.finalStatus cur).Holds)
    (hrow : row.roomId = dto.finalRoom cur ∧ row.toGuests = dto.finalGuests cur ∧
      row.placeNumber = p)
    (hseen : ∀ o ∈ h.reservations, o.id ≠ row.id → o.Live → row.Meets o →
      o.placeHolder ∈ dto.others cur s' cur.id) : Fits h row := by
  have hcap : s'.capacityOf (dto.finalRoom cur) = room.capacity := by
    rw [← hs'.capacityOf, hs.capacityOf, Hotel.capacityOf_activeRoom hroom]
  have hm : m = h.multiPlaceEnabled := by
    rw [hs.multiPlace]; exact (Hotel.activeRoom_eq_some.mp hroom).2.2
  refine fits_of_placeFree hseen ?_
  rw [hrow.1, hrow.2.1, hrow.2.2, hs'.capacityOf, hcap, ← hm]
  refine choosePlace_free hp fun hmt hu hwhy => ?_
  have hrun := hok hl ht (by rw [← hs'.multiPlace, ← hm, hmt]) hu
  rw [hcap] at hrun
  exact hrun hwhy

theorem StillFree.fits {h : Hotel} {cur row : Reservation} (hf : StillFree h cur)
    (hrow : SamePlace cur row) : Fits h row := by
  have hpl : PlaceFree (h.capacityOf cur.roomId) h.multiPlaceEnabled cur.toGuests
      (h.overlapping cur.roomId cur.checkIn cur.checkOut (some cur.id)) cur.placeNumber := by
    cases hmp : h.multiPlaceEnabled with
    | false => exact ⟨fun _ => hf.whole hmp, nofun, nofun⟩
    | true => exact placeFree_of_spanFree (hf.places hmp)
  refine hrow.fits (fits_of_placeFree (fun o ho hne hlo hm => ?_) hpl)
  exact mem_overlapping_of_meets ho hlo hm le_rfl le_rfl fun h => hne (Option.some.inj h)

/-! ## One step -/

theorem NoOverbooking.house {h h' : Hotel} (hn : NoOverbooking h) (hh : SameHouse h h')
    (hr : h'.reservations = h.reservations) : NoOverbooking h' := by
  rw [noOverbooking_iff] at hn ⊢
  intro r hmem hl
  rw [hr] at hmem
  exact (hn r hmem hl).house hh hr

section Update

variable (dto : UpdateReservationDto) (cur : Reservation) (stay : PartnerStayInfo) (now : Moment)
  (roomTypeId : RoomTypeId) (p : ℕ) (stored : Reservation)

theorem UpdateReservationDto.result_samePlace : SamePlace
    (dto.write cur stay roomTypeId p stored) (dto.result cur stay now roomTypeId p stored) := by
  unfold UpdateReservationDto.result
  cases dto.fact cur with
  | none => exact ⟨rfl, rfl, rfl, rfl, rfl, rfl⟩
  | some fact => exact Reservation.stamp_samePlace now fact _

theorem UpdateReservationDto.result_live :
    (dto.result cur stay now roomTypeId p stored).Live ↔ (dto.finalStatus cur).Holds := by
  rw [Reservation.Live, UpdateReservationDto.result_status]
  rfl

variable {dto cur stored}

/-- A patch without the fields of a place leaves the place as it was read. -/
theorem UpdateReservationDto.write_samePlace (ht : dto.touchesPlace = false)
    (hid : stored.id = cur.id) :
    SamePlace cur (dto.write cur stay roomTypeId cur.placeNumber stored) := by
  simp only [touchesPlace, Bool.or_eq_false_iff] at ht
  obtain ⟨⟨⟨⟨⟨-, hroom⟩, hci⟩, hco⟩, ha⟩, hc⟩ := ht
  have hci' : dateOf (dto.finalCheckIn cur) = cur.checkIn := by
    unfold finalCheckIn
    cases h : dto.checkIn with
    | val t => rw [h] at hci; cases hci
    | undefined => exact dateOf_startOf _
    | null => exact dateOf_startOf _
  have hco' : dateOf (dto.finalCheckOut cur) = cur.checkOut := by
    unfold finalCheckOut
    cases h : dto.checkOut with
    | val t => rw [h] at hco; cases hco
    | undefined => exact dateOf_startOf _
    | null => exact dateOf_startOf _
  refine ⟨hid, Field.orElse_of_toOption hroom _, hci', hco', ?_, rfl⟩
  simp only [write, Field.orElse_of_isDefined ha, Field.orElse_of_isDefined hc]

end Update

/-- The row of an update fits where it is written. -/
theorem updated_fits {h : Hotel} (hn : NoOverbooking h) {id : ReservationId}
    {dto : UpdateReservationDto} {cur : Reservation} {p : ℕ}
    (hcur : h.reservations.find id = some cur) (hp : PlaceChosen (fun _ s => s = h) id dto cur p)
    (hok : UpdateOk h dto cur) (stay : PartnerStayInfo) (now : Moment) (roomTypeId : RoomTypeId)
    (hl : (dto.result cur stay now roomTypeId p cur).Live) :
    Fits h (dto.result cur stay now roomTypeId p cur) := by
  rw [UpdateReservationDto.result_live] at hl
  have hid : cur.id = id := (Table.find_eq_some.mp hcur).2
  refine (dto.result_samePlace cur stay now roomTypeId p cur).fits ?_
  cases hp with
  | kept ht hp =>
    subst hp
    have hsame : SamePlace cur (dto.write cur stay roomTypeId cur.placeNumber cur) :=
      UpdateReservationDto.write_samePlace stay roomTypeId ht rfl
    rcases hok.revive hl ht with hlive | hfree
    · exact hsame.fits (noOverbooking_iff.mp hn cur (Table.find_eq_some.mp hcur).1 hlive)
    · exact hfree.fits hsame
  | chosen ht hs hs' hroom hp =>
    subst hs hs'
    rw [← hid] at hp
    refine moved_fits (.refl _) (.refl _) hroom hp ht hok.assign hl ⟨rfl, rfl, rfl⟩ ?_
    intro o ho hne hlo hm
    exact mem_overlapping_of_meets ho hlo hm le_rfl le_rfl fun h => hne (Option.some.inj h)

/-- A party at the place of the other is inside the room, and apart from the other where it now
stands and from everyone else. -/
theorem swapped_apart {h : Hotel} {a b : Reservation} (hab : a.id ≠ b.id) (hok : SwapOk h a b)
    (hm : h.multiPlaceEnabled = true) (hl : a.Live) :
    (a.movedTo b.placeNumber).span ⊆ Finset.Icc 1 (h.capacityOf a.roomId) ∧
      (∀ o ∈ h.reservations, o.id ≠ a.id → o.id ≠ b.id → o.Live → a.Meets o →
        Disjoint (a.movedTo b.placeNumber).span o.span) ∧
      (b ∈ h.reservations → b.Live → a.Meets b →
        Disjoint (a.movedTo b.placeNumber).span (b.movedTo a.placeNumber).span) := by
  obtain ⟨h₁, hc, hfree⟩ := spanFree_iff.mp (hok hm hl)
  have hrows : ∀ o ∈ h.reservations, o.id ≠ a.id → o.Live → a.Meets o →
      o ∈ h.overlappingRows a.roomId a.checkIn a.checkOut (some a.id) := by
    rintro o ho hne hlo ⟨hroom, d, hda, hdo⟩
    rw [Reservation.nights, Finset.mem_Ico] at hda hdo
    exact Hotel.mem_overlappingRows.mpr ⟨ho, hroom.symm, fun h => hne (Option.some.inj h),
      hdo.1.trans_lt hda.2, hda.1.trans_lt hdo.2, hlo⟩
  refine ⟨fun q hq => ?_, fun o ho hoa hob hlo hm => ?_, fun hb hlb hm => ?_⟩
  · rw [Reservation.span, Finset.mem_Ico] at hq
    change b.placeNumber ≤ q ∧ q < b.placeNumber + placesOf a.toGuests 0 true at hq
    rw [placesOf_true _ 0 (h.capacityOf a.roomId)] at hq
    exact Finset.mem_Icc.mpr (by omega)
  · refine Finset.disjoint_left.mpr fun q hq hqo => hfree q hq (mem_takenPlaces.mpr ?_)
    refine ⟨o.placeHolder, List.mem_map.mpr ⟨o, hrows o ho hoa hlo hm, ?_⟩, hqo⟩
    rw [if_neg hob]
  · refine Finset.disjoint_left.mpr fun q hq hqb => hfree q hq (mem_takenPlaces.mpr ?_)
    refine ⟨⟨b.toGuests, a.placeNumber⟩, List.mem_map.mpr ⟨b, hrows b hb hab.symm hlb hm, ?_⟩, hqb⟩
    rw [if_pos rfl]

/-- **A swap of two parties that suit each other's places keeps the rule.** -/
theorem NoOverbooking.swap {h : Hotel} (hn : NoOverbooking h) {a b : Reservation}
    (ha : a ∈ h.reservations) (hb : b ∈ h.reservations) (hab : a.id ≠ b.id)
    (hokA : SwapOk h a b) (hokB : SwapOk h b a) {h' : Hotel} (hh : SameHouse h h')
    (hmem : ∀ r, r ∈ h'.reservations → (r ∈ h.reservations ∧ r.id ≠ a.id ∧ r.id ≠ b.id) ∨
      r = a.movedTo b.placeNumber ∨ r = b.movedTo a.placeNumber) : NoOverbooking h' := by
  have hold : ∀ r ∈ h'.reservations, ∃ r₀ ∈ h.reservations, r₀.id = r.id ∧ r₀.roomId = r.roomId ∧
      r₀.nights = r.nights ∧ (r.Live → r₀.Live) := by
    intro r hr
    rcases hmem r hr with ⟨hr, -, -⟩ | rfl | rfl
    · exact ⟨r, hr, rfl, rfl, rfl, id⟩
    · exact ⟨a, ha, rfl, rfl, rfl, id⟩
    · exact ⟨b, hb, rfl, rfl, rfl, id⟩
  have hid : ∀ r ∈ h'.reservations, ∀ o ∈ h'.reservations, r ≠ o → o.id ≠ r.id :=
    fun r hr o ho hne he => hne (Table.eq_of_key hr ho he.symm)
  -- each of the two, at its new place, is apart from every row of the new table
  have apart : ∀ x y : Reservation, SwapOk h x y → x.id ≠ y.id → y ∈ h.reservations →
      (∀ r, r ∈ h'.reservations → (r ∈ h.reservations ∧ r.id ≠ x.id ∧ r.id ≠ y.id) ∨
        r = x.movedTo y.placeNumber ∨ r = y.movedTo x.placeNumber) →
      h.multiPlaceEnabled = true → x.Live → ∀ o ∈ h'.reservations, o.id ≠ x.id → o.Live →
      x.Meets o → Disjoint (x.movedTo y.placeNumber).span o.span := by
    intro x y hok hxy hy hmem hmp hlx o ho hox hlo hm
    obtain ⟨-, hothers, hother⟩ := swapped_apart hxy hok hmp hlx
    rcases hmem o ho with ⟨ho, -, hoy⟩ | rfl | rfl
    · exact hothers o ho hox hoy hlo hm
    · exact absurd rfl hox
    · exact hother hy hlo hm
  have hmem' : ∀ r, r ∈ h'.reservations → (r ∈ h.reservations ∧ r.id ≠ b.id ∧ r.id ≠ a.id) ∨
      r = b.movedTo a.placeNumber ∨ r = a.movedTo b.placeNumber := fun r hr =>
    (hmem r hr).imp (fun h => ⟨h.1, h.2.2, h.2.1⟩) Or.symm
  refine ⟨fun hmp r hr o ho hne hlr hlo hm => ?_, fun hmp r hr o ho hne hlr hlo hm => ?_,
    fun hmp r hr hlr => ?_⟩
  · obtain ⟨r₀, hr₀, hid₁, hroom₁, hn₁, hl₁⟩ := hold r hr
    obtain ⟨o₀, ho₀, hid₂, hroom₂, hn₂, hl₂⟩ := hold o ho
    have hne₀ : r₀ ≠ o₀ := fun he => hid r hr o ho hne (by rw [← hid₁, ← hid₂, he])
    refine hn.whole (hh.multiPlace ▸ hmp) r₀ hr₀ o₀ ho₀ hne₀ (hl₁ hlr) (hl₂ hlo) ?_
    rw [Reservation.Meets, hroom₁, hroom₂, hn₁, hn₂]
    exact hm
  · rw [hh.multiPlace] at hmp
    rcases hmem r hr with ⟨hr₀, hra, hrb⟩ | rfl | rfl
    · rcases hmem o ho with ⟨ho₀, -, -⟩ | rfl | rfl
      · exact hn.places hmp r hr₀ o ho₀ hne hlr hlo hm
      · exact (apart a b hokA hab hb hmem hmp hlo r hr hra hlr hm.symm).symm
      · exact (apart b a hokB hab.symm ha hmem' hmp hlo r hr hrb hlr hm.symm).symm
    · exact apart a b hokA hab hb hmem hmp hlr o ho (hid _ hr o ho hne) hlo hm
    · exact apart b a hokB hab.symm ha hmem' hmp hlr o ho (hid _ hr o ho hne) hlo hm
  · rw [hh.multiPlace] at hmp
    rw [hh.capacityOf]
    rcases hmem r hr with ⟨hr₀, -, -⟩ | rfl | rfl
    · exact hn.inside hmp r hr₀ hlr
    · exact (swapped_apart hab hokA hmp hlr).1
    · exact (swapped_apart hab.symm hokB hmp hlr).1

/-- A fact is recorded on a live reservation. -/
theorem FactAdmitted.live {seen : HotelQuery → Hotel → Prop} {id : ReservationId} {fact : Fact}
    {cur : Reservation} (h : FactAdmitted seen id fact cur.status) : cur.Live := by
  have ha := h.allowed
  have key : cur.status = .new ∨ cur.status = .confirmed ∨ cur.status = .checkedIn := by
    cases fact <;> simp only [FACTS, List.mem_cons, List.not_mem_nil, or_false] at ha <;> tauto
  rcases key with hs | hs | hs <;> simp [Reservation.Live, hs]

/-- **One operation keeps the rule.** -/
theorem noOverbooking_step {h : Hotel} {op : Op} (hn : NoOverbooking h) (hok : OpOk h op) :
    NoOverbooking (step h op) := by
  rcases step_cases h op with he | ⟨folios, -, he⟩ | ⟨ws, hd, he⟩
  · rwa [he]
  · rw [he]
    exact hn.house ⟨rfl, rfl⟩ rfl
  rw [he]
  cases hd with
  | replayed dto stay channel newId => exact hn
  | folios folios => exact hn
  | @created dto stay channel newId s s' room m p hdates hs hs' hroom hp =>
    subst hs hs'
    rw [Writes.apply_cons, Writes.apply_nil]
    refine hn.insert fun hl => ?_
    exact created_fits (.refl _) (.refl _) hroom hp hok hl fun _ ho => ho
  | @updated id dto opts now s cur p roomTypeId hs hcur hv hdates hf hc hp =>
    subst hs
    rw [Writes.apply_cons]
    have hr := rewrites_result s id dto cur opts.stay now roomTypeId p
    refine hn.modify hr.house hr.rows fun cur' hcur' hl => ?_
    obtain rfl : cur' = cur := Option.some.inj (hcur'.symm.trans hcur)
    exact updated_fits hn hcur hp (hok _ hcur hv) opts.stay now roomTypeId hl
  | @swapped dto s rowA rowB hs hne hA hB hvA hvB hroom =>
    subst hs
    obtain ⟨hokA, hokB⟩ := hok rowA rowB hA hB hvA hvB hroom
    obtain ⟨hmA, hidA⟩ := Table.find_eq_some.mp hA
    obtain ⟨hmB, hidB⟩ := Table.find_eq_some.mp hB
    have hab : rowA.id ≠ rowB.id := by rwa [hidA, hidB]
    simp only [Writes.apply_cons, Writes.apply_nil]
    refine hn.swap hmA hmB hab hokA hokB ⟨rfl, rfl⟩ fun r hr => ?_
    rcases Table.mem_of_mem_modify_modify (f := (Reservation.movedTo · rowB.placeNumber))
        (g := (Reservation.movedTo · rowA.placeNumber)) (fun _ => rfl) (fun _ => rfl) hne hr with
      ⟨hr₀, hrA, hrB⟩ | ⟨r₀, hr₀, hrA, rfl⟩ | ⟨r₀, hr₀, hrB, rfl⟩
    · exact Or.inl ⟨hr₀, by rwa [hidA], by rwa [hidB]⟩
    · rw [Table.eq_of_key hr₀ hmA (hrA.trans hidA.symm)]
      exact Or.inr (Or.inl rfl)
    · rw [Table.eq_of_key hr₀ hmB (hrB.trans hidB.symm)]
      exact Or.inr (Or.inr rfl)
  | @cancelled id reason fromChannel s cur hs hcur hc =>
    rw [Writes.apply_cons, Writes.apply_nil]
    have hr := rewrites_update h id (fun r => r.cancelledFor reason) fun _ => rfl
    refine hn.modify_samePlace hr.house hr.rows (fun _ _ => ⟨rfl, rfl, rfl, rfl, rfl, rfl⟩) ?_
    exact fun _ _ hl => absurd rfl hl.1
  | @recorded id fact moment now s cur hs hcur hf =>
    subst hs
    rw [Writes.apply_cons]
    have hr := rewrites_stamp s id (fun r => r.withStatus fact.status) (fun _ => rfl)
      cur.roomId (moment.getD now) fact
    refine hn.modify_samePlace hr.house hr.rows (fun cur' _ => ?_) fun cur' hcur' _ => ?_
    · have := Reservation.stamp_samePlace (moment.getD now) fact
        (cur'.withStatus fact.status)
      exact ⟨this.id, this.roomId, this.checkIn, this.checkOut, this.guests, this.placeNumber⟩
    · obtain rfl : cur' = cur := Option.some.inj (hcur'.symm.trans hcur)
      exact hf.live

/-! ## Runs -/

def nightLonger : UpdateReservationDto :=
  { UpdateReservationDto.ofVersion 1 with checkOut := .val (.ofDay 2) }

/-- Two guests share a room of two beds; the first stays a night longer, and they change beds. -/
def sharedRoom : List Op :=
  [.create .oneNight .empty none 1, .create .oneNight .empty none 2, .update 1 nightLonger .form 0,
    .swap ⟨1, 2, 2, 1⟩]

/-- A cancelled booking whose room was given to another guest is confirmed again by a patch of its
status, which no path checks. -/
def overbookingRun : List Op :=
  [.create .oneNight .empty none 1, .cancel 1 none false, .create .oneNight .empty none 2,
    .update 1 { UpdateReservationDto.ofVersion 2 with status := some .confirmed } .form 0]

end KarsHotel
