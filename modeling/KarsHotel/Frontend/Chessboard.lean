import KarsHotel.Lib.EntryMap
import KarsHotel.Reservations.PlaceRule

/-!
# The free places of the chessboard

The screen counts by a rule of its own what is free on a day.

* `availByDay`: what the screen shows; `freeByRule`: what the server's rule leaves;
* `PlaceRule`: the bookings keep the server's rule, as those of a hotel without overbooking do
  (`placeRule_timeline`);
* **`availByDay_iff`**: the two agree exactly where no party is of more than one person.
-/

namespace KarsHotel

/-- A room as the timeline loads it: active. -/
structure TimelineRoom where
  id : RoomId
  capacity : Option ℕ
  deriving DecidableEq, Repr

structure TimelineBooking extends PlaceHolder where
  roomId : RoomId
  checkIn : Day
  checkOut : Day
  status : ReservationStatus
  deriving DecidableEq, Repr

namespace TimelineBooking

variable (b : TimelineBooking)

/-- Live, in a room, and there on the night of a day. -/
def holds (roomId : RoomId) (day : Day) : Bool :=
  decide (b.roomId = roomId) && !decide (b.status = .cancelled ∨ b.status = .noShow) &&
    decide (b.checkIn ≤ day ∧ day < b.checkOut)

end TimelineBooking

section Chessboard

variable (multiPlaceEnabled : Bool) (rooms : List TimelineRoom) (bookings : List TimelineBooking)

/-- The bookings of a room on a day. -/
def bookingsOn (room : TimelineRoom) (day : Day) : List TimelineBooking :=
  bookings.filter fun b => b.holds room.id day

/-- What the screen shows as free on a day. -/
def availOn (day : Day) : ℤ :=
  rooms.foldl (fun free room =>
    let effectiveCap := if multiPlaceEnabled then room.capacity.getD 1 else 1
    let occupiedPlaces := distinct ((bookingsOn bookings room day).map fun b =>
      if multiPlaceEnabled then b.placeNumber else 1)
    free + ((effectiveCap : ℤ) - occupiedPlaces.length)) 0

def availByDay (days : List Day) : List ℤ :=
  days.map fun day => availOn multiPlaceEnabled rooms bookings day

/-- What is free by the rule of the server: the places that no party holds, or the rooms. -/
def freeByRule (day : Day) : ℤ :=
  if multiPlaceEnabled then
    rooms.foldl (fun free room =>
      let capacity : ℕ := room.capacity.getD 1
      let others := (bookingsOn bookings room day).map (·.toPlaceHolder)
      free + ((capacity : ℤ) - (takenPlaces capacity others).card)) 0
  else ((rooms.filter fun room => (bookingsOn bookings room day).isEmpty).length : ℕ)

/-- The bookings keep the rule of the server: those of one room and night hold different places, and
where rooms are sold whole there is one of them at most. -/
def PlaceRule : Prop :=
  bookings.Pairwise fun a b => ∀ roomId day, a.holds roomId day = true → b.holds roomId day = true →
    multiPlaceEnabled = true ∧ Disjoint (a.places 0) (b.places 0)

/-- Every booking that a room shows on the day is for one person at most. -/
def OnePersonEach (day : Day) : Prop :=
  ∀ room ∈ rooms, ∀ b ∈ bookingsOn bookings room day, b.adults + b.children ≤ 1

instance (day : Day) : Decidable (OnePersonEach rooms bookings day) := by
  unfold OnePersonEach
  infer_instance

end Chessboard

/-! ## The timeline of a hotel -/

def Reservation.timeline (r : Reservation) : TimelineBooking :=
  ⟨r.placeHolder, r.roomId, r.checkIn, r.checkOut, r.status⟩

namespace Hotel

variable (h : Hotel)

def timelineRooms : List TimelineRoom :=
  (h.rooms.select (·.isActive)).map fun r => ⟨r.id, some r.capacity⟩

/-- The reservations of active rooms that meet a window of days. -/
def timelineBookings (first last : Day) : List TimelineBooking :=
  (h.reservations.select fun r => decide (r.checkIn < last + 1 ∧ first < r.checkOut) &&
    (h.activeRoom r.roomId).isSome).map Reservation.timeline

end Hotel

theorem timeline_holds {r : Reservation} {roomId : RoomId} {day : Day} :
    r.timeline.holds roomId day = true ↔ r.roomId = roomId ∧ r.Live ∧ day ∈ r.nights := by
  have hnight : day ∈ r.nights ↔ r.checkIn ≤ day ∧ day < r.checkOut := Finset.mem_Ico
  rw [hnight, TimelineBooking.holds, Bool.and_eq_true, Bool.and_eq_true, Bool.not_eq_true',
    decide_eq_true_eq, decide_eq_false_iff_not, decide_eq_true_eq, not_or, and_assoc]
  exact Iff.rfl

/-- **A hotel without overbooking shows bookings that keep the rule.** -/
theorem placeRule_timeline {h : Hotel} (hn : NoOverbooking h) (first last : Day) :
    PlaceRule h.multiPlaceEnabled (h.timelineBookings first last) := by
  have hrows : h.reservations.rows.Pairwise fun a b => a.id ≠ b.id :=
    List.pairwise_map.mp h.reservations.nodup
  refine List.pairwise_map.mpr ((List.Pairwise.filter _ hrows).imp_of_mem ?_)
  intro a b ha hb hne roomId day hholds hholds'
  have ha' : a ∈ h.reservations := (List.mem_filter.mp ha).1
  have hb' : b ∈ h.reservations := (List.mem_filter.mp hb).1
  have hab : a ≠ b := fun hab => hne (by rw [hab])
  obtain ⟨hroom, hlive, hnight⟩ := timeline_holds.mp hholds
  obtain ⟨hroom', hlive', hnight'⟩ := timeline_holds.mp hholds'
  have hmeets : a.Meets b := ⟨hroom.trans hroom'.symm, day, hnight, hnight'⟩
  cases hmp : h.multiPlaceEnabled with
  | false => exact absurd hmeets (hn.whole hmp a ha' b hb' hab hlive hlive')
  | true => exact ⟨rfl, hn.places hmp a ha' b hb' hab hlive hlive' hmeets⟩

/-! ## The places of one room -/

section Places

variable {capacity : ℕ} {others : List PlaceHolder}

theorem takenPlaces_append (o : PlaceHolder) :
    takenPlaces capacity (others ++ [o]) = takenPlaces capacity others ∪ o.places capacity := by
  rw [takenPlaces, List.foldl_append]
  rfl

theorem card_places (o : PlaceHolder) :
    (o.places capacity).card = placesOf o.toGuests capacity true := by
  rw [PlaceHolder.places, Nat.card_Ico]
  omega

theorem placeNumber_mem_places (o : PlaceHolder) : o.placeNumber ∈ o.places capacity := by
  have := placesOf_pos o.toGuests capacity true
  rw [PlaceHolder.places, Finset.mem_Ico]
  omega

/-- **Places that are held apart are as many as the bookings only if each is for one person.** -/
theorem card_takenPlaces
    (h : others.Pairwise fun a b => Disjoint (a.places capacity) (b.places capacity)) :
    others.length ≤ (takenPlaces capacity others).card ∧
      ((takenPlaces capacity others).card = others.length ↔
        ∀ o ∈ others, o.adults + o.children ≤ 1) := by
  induction others using List.reverseRecOn with
  | nil => simp [takenPlaces]
  | append_singleton others o ih =>
    obtain ⟨hothers, -, hlast⟩ := List.pairwise_append.mp h
    obtain ⟨hle, hiff⟩ := ih hothers
    have hdisjoint : Disjoint (takenPlaces capacity others) (o.places capacity) := by
      rw [Finset.disjoint_left]
      intro p hp hpo
      obtain ⟨o', ho', hpo'⟩ := mem_takenPlaces.mp hp
      exact Finset.disjoint_left.mp (hlast o' ho' o (List.mem_singleton_self o)) hpo' hpo
    have hpos := placesOf_pos o.toGuests capacity true
    have hone : placesOf o.toGuests capacity true = 1 ↔ o.adults + o.children ≤ 1 := by
      show max 1 (o.adults + o.children) = 1 ↔ _
      omega
    rw [takenPlaces_append, Finset.card_union_of_disjoint hdisjoint, card_places,
      List.length_append, List.length_singleton]
    refine ⟨by omega, ?_⟩
    simp only [List.mem_append, List.mem_singleton, or_imp, forall_and, forall_eq]
    rw [← hiff, ← hone]
    omega

/-- Bookings held apart start at different places. -/
theorem nodup_placeNumbers
    (h : others.Pairwise fun a b => Disjoint (a.places capacity) (b.places capacity)) :
    (others.map (·.placeNumber)).Nodup := by
  refine List.pairwise_map.mpr (h.imp fun {a b} hdisjoint hsame => ?_)
  have hb : b.placeNumber ∈ b.places capacity := placeNumber_mem_places b
  rw [← hsame] at hb
  exact Finset.disjoint_left.mp hdisjoint (placeNumber_mem_places a) hb

end Places

/-! ## All rooms -/

theorem foldl_add_eq_iff {α : Type} {f g : α → ℤ} {xs : List α} (h : ∀ x ∈ xs, g x ≤ f x)
    {a b : ℤ} (hab : b ≤ a) :
    xs.foldl (fun s x => s + f x) a = xs.foldl (fun s x => s + g x) b ↔
      a = b ∧ ∀ x ∈ xs, f x = g x := by
  induction xs generalizing a b with
  | nil => simp
  | cons x xs ih =>
    obtain ⟨hx, hxs⟩ := List.forall_mem_cons.mp h
    rw [List.foldl_cons, List.foldl_cons, ih hxs (by omega), List.forall_mem_cons]
    constructor
    · rintro ⟨hsum, hrest⟩
      exact ⟨by omega, by omega, hrest⟩
    · rintro ⟨hstart, hfirst, hrest⟩
      exact ⟨by omega, hrest⟩

theorem distinct_of_nodup {α : Type} [DecidableEq α] {xs : List α} (h : xs.Nodup) :
    distinct xs = xs := by
  rw [distinct, List.dedup_eq_self.mpr (List.nodup_reverse.mpr h), List.reverse_reverse]

theorem length_distinct_const {α β : Type} [DecidableEq β] (xs : List α) (b : β) :
    (distinct (xs.map fun _ => b)).length = if xs.isEmpty then 0 else 1 := by
  cases xs with
  | nil => rfl
  | cons x xs =>
    have hnodup : (distinct ((x :: xs).map fun _ => b)).Nodup := nodup_distinct
    have hmem : ∀ y, y ∈ distinct ((x :: xs).map fun _ => b) ↔ y = b := by
      intro y
      rw [mem_distinct, List.map_const', List.mem_replicate]
      simp
    have hone : distinct ((x :: xs).map fun _ => b) = [b] := by
      have hperm := (List.perm_ext_iff_of_nodup hnodup (List.nodup_singleton b)).mpr fun y =>
        (hmem y).trans List.mem_singleton.symm
      exact List.perm_singleton.mp hperm
    rw [hone]
    rfl

section Chessboard

variable {multiPlaceEnabled : Bool} {rooms : List TimelineRoom} {bookings : List TimelineBooking}

/-- The bookings of a room and night hold different places. -/
theorem PlaceRule.disjoint (hrule : PlaceRule multiPlaceEnabled bookings) (room : TimelineRoom)
    (day : Day) (capacity : ℕ) :
    ((bookingsOn bookings room day).map (·.toPlaceHolder)).Pairwise
      fun a b => Disjoint (a.places capacity) (b.places capacity) := by
  refine List.pairwise_map.mpr ?_
  have hfilter : (bookingsOn bookings room day).Pairwise _ := List.Pairwise.filter _ hrule
  refine hfilter.imp_of_mem fun {a b} ha hb hab => ?_
  exact (hab room.id day (List.mem_filter.mp ha).2 (List.mem_filter.mp hb).2).2

/-- **Where places are sold one by one**, the screen agrees with the rule on a day exactly if each
of its bookings is for one person. -/
theorem availOn_places_iff (hrule : PlaceRule true bookings) (day : Day) :
    availOn true rooms bookings day = freeByRule true rooms bookings day ↔
      OnePersonEach rooms bookings day := by
  have hroom : ∀ room ∈ rooms, ((distinct ((bookingsOn bookings room day).map
      fun b => b.placeNumber)).length : ℤ) = (bookingsOn bookings room day).length := by
    intro room _
    have hnodup := nodup_placeNumbers (hrule.disjoint room day 0)
    rw [List.map_map] at hnodup
    have hdistinct : distinct ((bookingsOn bookings room day).map fun b => b.placeNumber) =
        (bookingsOn bookings room day).map fun b => b.placeNumber := distinct_of_nodup hnodup
    rw [hdistinct, List.length_map]
  have hcard : ∀ room : TimelineRoom, (bookingsOn bookings room day).length ≤
      (takenPlaces (room.capacity.getD 1)
        ((bookingsOn bookings room day).map (·.toPlaceHolder))).card ∧
      ((takenPlaces (room.capacity.getD 1)
        ((bookingsOn bookings room day).map (·.toPlaceHolder))).card =
          (bookingsOn bookings room day).length ↔
        ∀ b ∈ bookingsOn bookings room day, b.adults + b.children ≤ 1) := by
    intro room
    have h := card_takenPlaces (hrule.disjoint room day (room.capacity.getD 1))
    rw [List.length_map] at h
    refine ⟨h.1, h.2.trans ?_⟩
    simp only [List.mem_map, forall_exists_index, and_imp, forall_apply_eq_imp_iff₂]
  unfold availOn freeByRule
  simp only [if_true]
  rw [foldl_add_eq_iff _ (le_refl 0)]
  · rw [eq_self_iff_true, true_and]
    refine forall₂_congr fun room hr => ?_
    rw [hroom room hr, ← (hcard room).2]
    omega
  · intro room hr
    have := (hcard room).1
    rw [hroom room hr]
    omega

/-- **Where rooms are sold whole**, the screen agrees with the rule on every day. -/
theorem availOn_rooms (day : Day) :
    availOn false rooms bookings day = freeByRule false rooms bookings day := by
  have hsum : ∀ a : ℤ, rooms.foldl (fun free room => free + ((1 : ℤ) -
      (distinct ((bookingsOn bookings room day).map fun _ => 1)).length)) a =
        a + (rooms.filter fun room => (bookingsOn bookings room day).isEmpty).length := by
    induction rooms with
    | nil => simp
    | cons room rooms ih =>
      intro a
      rw [List.foldl_cons, ih, length_distinct_const, List.filter_cons]
      cases (bookingsOn bookings room day).isEmpty with
      | true =>
        rw [if_pos rfl, if_pos rfl, List.length_cons]
        omega
      | false =>
        rw [if_neg Bool.false_ne_true, if_neg Bool.false_ne_true]
        omega
  have h := hsum 0
  rw [zero_add] at h
  exact h

end Chessboard

/-- **The screen shows what the rule leaves** on some days exactly if, where places are sold one by
one, each booking of those nights is for one person. -/
theorem availByDay_iff {multiPlaceEnabled : Bool} {rooms : List TimelineRoom}
    {bookings : List TimelineBooking} (hrule : PlaceRule multiPlaceEnabled bookings)
    (days : List Day) :
    availByDay multiPlaceEnabled rooms bookings days =
        days.map (freeByRule multiPlaceEnabled rooms bookings) ↔
      (multiPlaceEnabled = true → ∀ day ∈ days, OnePersonEach rooms bookings day) := by
  rw [availByDay, List.map_inj_left]
  cases multiPlaceEnabled with
  | false => simp [availOn_rooms]
  | true => simp [availOn_places_iff hrule]

/-- A party of two in a room for two. -/
def pairBooked : List TimelineBooking := [⟨⟨⟨2, 0⟩, 1⟩, 1, 0, 1, .confirmed⟩]

/-- Two guests, one after the other in the first bed, a third in the second, and
one who cancelled. -/
def bedsBooked : List TimelineBooking :=
  [⟨⟨⟨1, 0⟩, 1⟩, 1, 0, 2, .checkedIn⟩, ⟨⟨⟨1, 0⟩, 1⟩, 1, 2, 4, .confirmed⟩,
    ⟨⟨⟨1, 0⟩, 2⟩, 1, 1, 3, .confirmed⟩, ⟨⟨⟨2, 0⟩, 1⟩, 2, 0, 4, .cancelled⟩]

/-- Two rooms for two, night by night. -/
theorem availByDay_iff_bedsBooked : availByDay true [⟨1, some 2⟩, ⟨2, some 2⟩] bedsBooked [0, 1, 2, 3] =
    [0, 1, 2, 3].map (freeByRule true [⟨1, some 2⟩, ⟨2, some 2⟩] bedsBooked) ∧
    availByDay true [⟨1, some 2⟩, ⟨2, some 2⟩] bedsBooked [0, 1, 2, 3] = [3, 2, 2, 3] := by
  have hapart : bedsBooked.Pairwise fun a b => Disjoint (a.places 0) (b.places 0) ∨
      a.roomId ≠ b.roomId ∨ a.checkOut ≤ b.checkIn := by
    decide +kernel
  have hrule : PlaceRule true bedsBooked := by
    refine hapart.imp fun {a b} h roomId day ha hb => ⟨rfl, ?_⟩
    simp only [TimelineBooking.holds, Bool.and_eq_true, decide_eq_true_eq] at ha hb
    rcases h with h | h | h
    · exact h
    · exact absurd (ha.1.1.trans hb.1.1.symm) h
    · exact absurd (ha.2.2.trans_le (h.trans hb.2.1)) (lt_irrefl day)
  exact ⟨(availByDay_iff hrule [0, 1, 2, 3]).mpr (by decide +kernel), by decide +kernel⟩

/-- **A party of two fills a room for two**, and the screen shows a place in it. -/
theorem pairBooked_shownFree : ¬∀ (multiPlaceEnabled : Bool) (rooms : List TimelineRoom)
    (bookings : List TimelineBooking), PlaceRule multiPlaceEnabled bookings → ∀ days,
      availByDay multiPlaceEnabled rooms bookings days =
        days.map (freeByRule multiPlaceEnabled rooms bookings) := by
  intro h
  have hday := h true [⟨1, some 2⟩] pairBooked (List.pairwise_singleton _ _) [0]
  revert hday
  decide

end KarsHotel
