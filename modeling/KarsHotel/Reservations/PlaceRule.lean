import KarsHotel.Reservations.Deeds

/-!
# No overbooking

With the sale by places off, two live reservations of one room share no night; with it on, those
that do have disjoint places, and every place is inside the room.

* `NoOverbooking`: the rule; `Fits`: what it asks of one reservation, `noOverbooking_iff`;
* `NoConflict`: its part about two reservations;
* `NoOverbooking.insert`, `NoOverbooking.modify`: a new or changed reservation that fits keeps it;
* `fits_of_placeFree`: a place that is free beside the stays met on its nights fits.
-/

namespace KarsHotel

/-! ## The rule -/

/-- The two stays share a night of one room. -/
def Reservation.Meets (a b : Reservation) : Prop :=
  a.roomId = b.roomId ∧ ∃ d, d ∈ a.nights ∧ d ∈ b.nights

theorem Reservation.Meets.symm {a b : Reservation} (h : a.Meets b) : b.Meets a :=
  ⟨h.1.symm, h.2.imp fun _ => And.symm⟩

/-- **No overbooking.** -/
structure NoOverbooking (h : Hotel) : Prop where
  whole : h.multiPlaceEnabled = false → ∀ a ∈ h.reservations, ∀ b ∈ h.reservations,
    a ≠ b → a.Live → b.Live → ¬a.Meets b
  places : h.multiPlaceEnabled = true → ∀ a ∈ h.reservations, ∀ b ∈ h.reservations,
    a ≠ b → a.Live → b.Live → a.Meets b → Disjoint a.span b.span
  inside : h.multiPlaceEnabled = true → ∀ a ∈ h.reservations, a.Live →
    a.span ⊆ Finset.Icc 1 (h.capacityOf a.roomId)

/-- No other live reservation holds the place of `r` on one of its nights. -/
def Apart (h : Hotel) (r : Reservation) : Prop :=
  ∀ o ∈ h.reservations, o.id ≠ r.id → o.Live → r.Meets o →
    h.multiPlaceEnabled = true ∧ Disjoint r.span o.span

/-- What the rule asks of one reservation. -/
structure Fits (h : Hotel) (r : Reservation) : Prop where
  apart : Apart h r
  inside : h.multiPlaceEnabled = true → r.span ⊆ Finset.Icc 1 (h.capacityOf r.roomId)

/-- No two live reservations hold one place, or one room where rooms are sold whole, on
one night. -/
def NoConflict (h : Hotel) : Prop := ∀ r ∈ h.reservations, r.Live → Apart h r

/-- The rule holds when every live reservation fits. -/
theorem noOverbooking_iff {h : Hotel} :
    NoOverbooking h ↔ ∀ r ∈ h.reservations, r.Live → Fits h r := by
  constructor
  · intro hn r hr hl
    refine ⟨fun o ho hne hlo hm => ?_, fun hmp => hn.inside hmp r hr hl⟩
    have hro : r ≠ o := fun h => hne (by rw [h])
    cases hmp : h.multiPlaceEnabled with
    | false => exact absurd hm (hn.whole hmp r hr o ho hro hl hlo)
    | true => exact ⟨rfl, hn.places hmp r hr o ho hro hl hlo hm⟩
  · intro hf
    have hid : ∀ a ∈ h.reservations, ∀ b ∈ h.reservations, a ≠ b → b.id ≠ a.id :=
      fun a ha b hb hab he => hab (Table.eq_of_key ha hb he.symm)
    refine ⟨fun hmp a ha b hb hab hla hlb hm => ?_, fun _ a ha b hb hab hla hlb hm => ?_,
      fun hmp a ha hla => (hf a ha hla).inside hmp⟩
    · have := ((hf a ha hla).apart b hb (hid a ha b hb hab) hlb hm).1
      rw [hmp] at this
      exact absurd this (by decide)
    · exact ((hf a ha hla).apart b hb (hid a ha b hb hab) hlb hm).2

theorem NoOverbooking.noConflict {h : Hotel} (hn : NoOverbooking h) : NoConflict h :=
  fun r hr hl => (noOverbooking_iff.mp hn r hr hl).apart

theorem noOverbooking_empty {h : Hotel} (he : h.reservations = Table.empty) : NoOverbooking h := by
  rw [noOverbooking_iff, he]
  exact fun r hr => absurd hr (Table.not_mem_empty r)

/-! ## Changes that keep it -/

/-- The same reservation at the same place: room, nights, party and first place. -/
structure SamePlace (a b : Reservation) : Prop where
  id : b.id = a.id
  roomId : b.roomId = a.roomId
  checkIn : b.checkIn = a.checkIn
  checkOut : b.checkOut = a.checkOut
  guests : b.toGuests = a.toGuests
  placeNumber : b.placeNumber = a.placeNumber

namespace SamePlace

variable {a b : Reservation}

theorem symm (h : SamePlace a b) : SamePlace b a :=
  ⟨h.id.symm, h.roomId.symm, h.checkIn.symm, h.checkOut.symm, h.guests.symm, h.placeNumber.symm⟩

theorem trans {c : Reservation} (h : SamePlace a b) (h' : SamePlace b c) : SamePlace a c :=
  ⟨h'.id.trans h.id, h'.roomId.trans h.roomId, h'.checkIn.trans h.checkIn,
    h'.checkOut.trans h.checkOut, h'.guests.trans h.guests, h'.placeNumber.trans h.placeNumber⟩

theorem nights (h : SamePlace a b) : b.nights = a.nights := by
  rw [Reservation.nights, Reservation.nights, h.checkIn, h.checkOut]

theorem span (h : SamePlace a b) : b.span = a.span := by
  rw [Reservation.span, Reservation.span, h.guests, h.placeNumber]

theorem meets (h : SamePlace a b) (o : Reservation) : b.Meets o ↔ a.Meets o := by
  rw [Reservation.Meets, Reservation.Meets, h.nights, h.roomId]

theorem apart (h : SamePlace a b) {s : Hotel} (hf : Apart s a) : Apart s b := by
  intro o ho hne hl hm
  rw [h.span]
  exact hf o ho (by rwa [h.id] at hne) hl ((h.meets o).mp hm)

theorem fits (h : SamePlace a b) {s : Hotel} (hf : Fits s a) : Fits s b := by
  refine ⟨h.apart hf.apart, fun hmp => ?_⟩
  rw [h.span, h.roomId]
  exact hf.inside hmp

end SamePlace

theorem Reservation.stamp_samePlace (m : Moment) (f : Fact) (r : Reservation) :
    SamePlace r (r.stamp m f) := by
  cases f <;> exact ⟨rfl, rfl, rfl, rfl, rfl, rfl⟩

/-- What a reservation must fit does not depend on the rooms' statuses. -/
theorem Fits.house {s s' : Hotel} {r : Reservation} (h : Fits s r) (hh : SameHouse s s')
    (hr : s'.reservations = s.reservations) : Fits s' r := by
  refine ⟨fun o ho => ?_, fun hmp => ?_⟩
  · rw [hr] at ho
    rw [hh.multiPlace]
    exact h.apart o ho
  · rw [hh.multiPlace] at hmp
    rw [hh.capacityOf]
    exact h.inside hmp

theorem NoConflict.insert {h : Hotel} (hn : NoConflict h) {r : Reservation}
    (hf : r.Live → Apart h r) : NoConflict (h.insertReservation r) := by
  by_cases ha : h.accepts r = true
  · intro a hmem hla o ho hne hlo hm
    rw [Hotel.insertReservation_multiPlace]
    rw [Hotel.mem_insertReservation ha] at hmem
    have hfa : Apart h a := hmem.elim (fun h' => hn a h' hla) fun h' => h' ▸ hf (h' ▸ hla)
    rcases (Hotel.mem_insertReservation ha).mp ho with ho | rfl
    · exact hfa o ho hne hlo hm
    · -- `a` is an older reservation, so the new one was checked against it
      have ha' : a ∈ h.reservations := hmem.resolve_right fun h' => hne (by rw [h'])
      obtain ⟨hmp, hd⟩ := hf hlo a ha' hne.symm hla hm.symm
      exact ⟨hmp, hd.symm⟩
  · rwa [Hotel.insertReservation_of_not_accepts ha]

/-- **A new reservation that fits keeps the rule.** -/
theorem NoOverbooking.insert {h : Hotel} (hn : NoOverbooking h) {r : Reservation}
    (hf : r.Live → Fits h r) : NoOverbooking (h.insertReservation r) := by
  by_cases ha : h.accepts r = true
  · have hc := hn.noConflict.insert fun hl => (hf hl).apart
    rw [noOverbooking_iff] at hn ⊢
    have hcap : ∀ id, (h.insertReservation r).capacityOf id = h.capacityOf id := fun id => by
      simp [Hotel.capacityOf]
    refine fun a hmem hla => ⟨hc a hmem hla, fun hmp => ?_⟩
    rw [Hotel.insertReservation_multiPlace] at hmp
    rw [hcap]
    rcases (Hotel.mem_insertReservation ha).mp hmem with ha | rfl
    · exact (hn a ha hla).inside hmp
    · exact (hf hla).inside hmp
  · rwa [Hotel.insertReservation_of_not_accepts ha]

section Modify

variable {h h' : Hotel} {id : ReservationId} {g : Reservation → Reservation}
  {hg : ∀ r, (g r).id = r.id}

theorem NoConflict.modify (hn : NoConflict h) (hh : SameHouse h h')
    (hr : h'.reservations = h.reservations.modify id g hg)
    (hf : ∀ cur, h.reservations.find id = some cur → (g cur).Live → Apart h (g cur)) :
    NoConflict h' := by
  -- every row of the new table is an old one or the changed one
  have hmem : ∀ a ∈ h'.reservations, (a ∈ h.reservations ∧ a.id ≠ id) ∨
      (a.id = id ∧ (a.Live → Apart h a)) := by
    intro a ha
    rw [hr] at ha
    rcases Table.mem_modify.mp ha with ⟨ha, hne⟩ | ⟨cur, hcur, hid, rfl⟩
    · exact Or.inl ⟨ha, hne⟩
    · exact Or.inr ⟨(hg cur).trans hid, hf cur (Table.find_eq_some.mpr ⟨hcur, hid⟩)⟩
  intro a ha hla o ho hne hlo hm
  have hfa : Apart h a := (hmem a ha).elim (fun h' => hn a h'.1 hla) fun h' => h'.2 hla
  rw [hh.multiPlace]
  rcases hmem o ho with ⟨ho, _⟩ | ⟨hoid, hfo⟩
  · exact hfa o ho hne hlo hm
  · rcases hmem a ha with ⟨ha, _⟩ | ⟨haid, _⟩
    · obtain ⟨hmp, hd⟩ := hfo hlo a ha hne.symm hla hm.symm
      exact ⟨hmp, hd.symm⟩
    · exact absurd (hoid.trans haid.symm) hne

/-- **A changed reservation that fits keeps the rule.** -/
theorem NoOverbooking.modify (hn : NoOverbooking h) (hh : SameHouse h h')
    (hr : h'.reservations = h.reservations.modify id g hg)
    (hf : ∀ cur, h.reservations.find id = some cur → (g cur).Live → Fits h (g cur)) :
    NoOverbooking h' := by
  have hc := hn.noConflict.modify hh hr fun cur hcur hl => (hf cur hcur hl).apart
  rw [noOverbooking_iff] at hn ⊢
  refine fun a ha hla => ⟨hc a ha hla, fun hmp => ?_⟩
  rw [hh.multiPlace] at hmp
  rw [hh.capacityOf]
  rw [hr] at ha
  rcases Table.mem_modify.mp ha with ⟨ha, _⟩ | ⟨cur, hcur, hid, rfl⟩
  · exact (hn a ha hla).inside hmp
  · exact (hf cur (Table.find_eq_some.mpr ⟨hcur, hid⟩) hla).inside hmp

/-- A change of the other fields, which brings no reservation back to life, keeps the rule. -/
theorem NoOverbooking.modify_samePlace (hn : NoOverbooking h) (hh : SameHouse h h')
    (hr : h'.reservations = h.reservations.modify id g hg)
    (hp : ∀ cur, h.reservations.find id = some cur → SamePlace cur (g cur))
    (hl : ∀ cur, h.reservations.find id = some cur → (g cur).Live → cur.Live) :
    NoOverbooking h' :=
  hn.modify hh hr fun cur hcur hlive => (hp cur hcur).fits <|
    noOverbooking_iff.mp hn cur (Table.find_eq_some.mp hcur).1 (hl cur hcur hlive)

end Modify

/-! ## A free place fits -/

/-- A stay met on the nights `[ci, co)` of a reservation is among those a query on them returns. -/
theorem mem_overlapping_of_meets {h : Hotel} {r o : Reservation} {ci co : Day}
    {x : Option ReservationId} (ho : o ∈ h.reservations) (hl : o.Live) (hm : r.Meets o)
    (hci : ci ≤ r.checkIn) (hco : r.checkOut ≤ co) (hx : some o.id ≠ x) :
    o.placeHolder ∈ h.overlapping r.roomId ci co x := by
  obtain ⟨hroom, d, hdr, hdo⟩ := hm
  rw [Reservation.nights, Finset.mem_Ico] at hdr hdo
  exact List.mem_map_of_mem (Hotel.mem_overlappingRows.mpr
    ⟨ho, hroom.symm, hx, hdo.1.trans_lt (hdr.2.trans_le hco), (hci.trans hdr.1).trans_lt hdo.2, hl⟩)

/-- **A place that is free beside every stay met on its nights fits.** -/
theorem fits_of_placeFree {h : Hotel} {r : Reservation} {others : List PlaceHolder}
    (hseen : ∀ o ∈ h.reservations, o.id ≠ r.id → o.Live → r.Meets o → o.placeHolder ∈ others)
    (hf : PlaceFree (h.capacityOf r.roomId) h.multiPlaceEnabled r.toGuests others r.placeNumber) :
    Fits h r := by
  refine ⟨fun o ho hne hl hm => ?_, fun hmp q hq => ?_⟩
  · have hmem := hseen o ho hne hl hm
    cases hmp : h.multiPlaceEnabled with
    | false =>
      rw [hf.whole hmp] at hmem
      exact absurd hmem List.not_mem_nil
    | true =>
      refine ⟨rfl, Finset.disjoint_left.mpr fun q hq hqo => ?_⟩
      exact hf.free hmp q hq (mem_takenPlaces.mpr ⟨o.placeHolder, hmem, hqo⟩)
  · have := hf.inside hmp
    rw [Reservation.span, Finset.mem_Ico, placesOf_true _ 0 (h.capacityOf r.roomId)] at hq
    exact Finset.mem_Icc.mpr (by omega)

end KarsHotel
