import KarsHotel.Connectivity.BookingRules
import KarsHotel.Connectivity.FactOnce
import KarsHotel.Lib.RowLocks
import KarsHotel.Reservations.Versions

/-!
# A partner's booking is the partner's to change

The cabinet of one hotel and its partners, each operation a session, statement by statement in any
order.

* `CabinetOp`, `HotelCall`: the operations of the cabinet, and every session of the hotel;
* `Reservation.Spared`: the partner's part of a reservation stays, and it is not cancelled;
* `Caller.Minds`: what a commit of a caller may do; **`Deed.minds`**: what an operation commits,
  over a row that is still as the operation has read it, minds;
* `CallDeed`: what the transactions of a session commit; **`HotelCall.obeys`**: on every path;
* `onReadVersion`: every UPDATE of the cabinet's form finds the version its request carries;
* `BookingSpared`; **`booking_spared`**: it holds in every run under `onReadVersion`;
  **`notes_overwrite`**: and not in every run.
-/

namespace KarsHotel

/-! ## Sessions -/

/-- An operation of the hotel's cabinet. -/
inductive CabinetOp where
  | create (dto : CreateReservationDto) (newId : ReservationId)
  | update (id : ReservationId) (dto : UpdateReservationDto)
  | swap (dto : SwapReservationsDto)
  | checkIn (id : ReservationId)
  | checkOut (id : ReservationId)
  | noShow (id : ReservationId)
  | cancel (id : ReservationId) (reason : Option String)

/-- The operation of the service behind it: without a channel, at the clock's time. -/
def CabinetOp.op (now : Moment) : CabinetOp → Op
  | .create dto newId => .create dto .empty none newId
  | .update id dto => .update id dto .form now
  | .swap dto => .swap dto
  | .checkIn id => .recordFact id .checkedIn none now
  | .checkOut id => .recordFact id .checkedOut none now
  | .noShow id => .recordFact id .noShow none now
  | .cancel id reason => .cancel id reason false

/-- A session of the hotel: an operation of the cabinet, a change of the folios, a partner's call on
a reservation, or a partner's booking. -/
inductive HotelCall where
  | cabinet (op : CabinetOp)
  | folios (folios : Table Folio.reservationId)
  | partner (tenant : TenantRow) (partnerId : PartnerId) (id : ReservationId)
      (request : PartnerRequest)
  | book (q : ConnectRequest)

/-- Who a session acts for. -/
inductive Caller where
  | hotel
  | partner (partnerId : PartnerId)
  deriving DecidableEq

namespace HotelCall

def caller : HotelCall → Caller
  | .cabinet _ => .hotel
  | .folios _ => .hotel
  | .partner _ partnerId _ _ => .partner partnerId
  | .book q => .partner q.partnerId

def session (sha256 : String → String) : HotelCall → Prog connectDb Failure Unit
  | .cabinet op => .ask fun env => service (op.op env.now).body
  | .folios table =>
    .write .folios (fun s => { s with hotel := { s.hotel with folios := table } })
      fun _ => .commit (.ret ())
  | .partner tenant partnerId id request => do
    let _ ← request.call tenant partnerId id
    .ret ()
  | .book q => do
    let _ ← (createReservation sha256 q).within (hotelPart (·.booking))
    .ret ()

end HotelCall

/-- The sessions before their first statement. -/
abbrev opening {ι : Type} (sha256 : String → String) (s : ConnectStore) (calls : ι → HotelCall) :
    Sys connectDb Failure Unit ι :=
  .init s fun i => (calls i).session sha256

/-! ## What stays the partner's -/

/-- The part of a reservation that is its partner's. -/
structure PartnersPart where
  adults : ℕ
  children : ℕ
  channelManaged : Bool
  partnerId : Option PartnerId
  partnerIdempotencyKey : Option String
  partnerPayloadHash : Option String
  arrivalAt : Option String
  departureAt : Option String
  flight : Option String
  deriving DecidableEq

namespace Reservation

def partnersPart (r : Reservation) : PartnersPart where
  adults := r.adults
  children := r.children
  channelManaged := r.channelManaged
  partnerId := r.partnerId
  partnerIdempotencyKey := r.partnerIdempotencyKey
  partnerPayloadHash := r.partnerPayloadHash
  arrivalAt := r.arrivalAt
  departureAt := r.departureAt
  flight := r.flight

/-- The partner's part is as it was, and the reservation has not entered `CANCELLED`. -/
structure Spared (r r' : Reservation) : Prop where
  part : r'.partnersPart = r.partnersPart
  cancelled : r'.status = .cancelled → r.status = .cancelled

/-- The reservation stays with whom it is, and where it changes its version grows. -/
structure Continues (r r' : Reservation) : Prop extends r.SameOwner r' where
  newer : r' = r ∨ r.version < r'.version

/-- The reservation is managed by this partner's channel. -/
structure OwnedBy (r : Reservation) (partnerId : PartnerId) : Prop where
  managed : r.channelManaged = true
  partner : r.partnerId = some partnerId

theorem Spared.refl (r : Reservation) : r.Spared r := ⟨rfl, fun h => h⟩

theorem Spared.trans {a b c : Reservation} (h : a.Spared b) (h' : b.Spared c) : a.Spared c :=
  ⟨h'.part.trans h.part, fun hs => h.cancelled (h'.cancelled hs)⟩

theorem SameOwner.refl (r : Reservation) : r.SameOwner r := ⟨rfl, rfl⟩

theorem Continues.refl (r : Reservation) : r.Continues r := ⟨.refl r, Or.inl rfl⟩

theorem Continues.trans {a b c : Reservation} (h : a.Continues b) (h' : b.Continues c) :
    a.Continues c := by
  refine ⟨⟨h'.managed.trans h.managed, h'.partner.trans h.partner⟩, ?_⟩
  rcases h.newer with rfl | hlt
  · exact h'.newer
  · rcases h'.newer with rfl | hlt'
    · exact Or.inr hlt
    · exact Or.inr (hlt.trans hlt')

theorem Continues.eq_of_version {a b : Reservation} (h : a.Continues b)
    (hv : b.version = a.version) : b = a :=
  h.newer.resolve_right fun hlt => absurd hv (Nat.ne_of_gt hlt)

theorem Spared.sameOwner {r r' : Reservation} (h : r.Spared r') : r.SameOwner r' :=
  ⟨congrArg PartnersPart.channelManaged h.part, congrArg PartnersPart.partnerId h.part⟩

theorem OwnedBy.sameOwner {r r' : Reservation} {p : PartnerId} (h : r.OwnedBy p)
    (hs : r.SameOwner r') : r'.OwnedBy p := ⟨hs.managed.trans h.managed, hs.partner.trans h.partner⟩

end Reservation

/-- A caller is not the partner that has the reservation. -/
def Caller.Outside (caller : Caller) (r : Reservation) : Prop :=
  ∃ p, r.OwnedBy p ∧ caller ≠ .partner p

/-- What a commit of a caller may leave where a reservation was. -/
inductive Caller.Leaves (caller : Caller) : Option Reservation → Option Reservation → Prop
  | absent : Caller.Leaves caller none none
  | made {r : Reservation} (h : ∀ p, caller = .partner p → r.OwnedBy p) :
      Caller.Leaves caller none (some r)
  | changed {r r' : Reservation} (hs : r.Continues r') (h : caller.Outside r → r.Spared r') :
      Caller.Leaves caller (some r) (some r')

/-- A commit of the caller keeps to its own reservations. -/
def Caller.Minds (caller : Caller) (h h' : Hotel) : Prop :=
  ∀ id, caller.Leaves (h.reservations.find id) (h'.reservations.find id)

/-- Every reservation stays, with whom it is, and grows in version where it changes. -/
def Lasts (h h' : Hotel) : Prop :=
  ∀ id r, h.reservations.find id = some r →
    ∃ r', h'.reservations.find id = some r' ∧ r.Continues r'

theorem Lasts.refl (h : Hotel) : Lasts h h := fun _ r hr => ⟨r, hr, .refl r⟩

theorem Lasts.trans {a b c : Hotel} (h : Lasts a b) (h' : Lasts b c) : Lasts a c := by
  intro id r hr
  obtain ⟨r', hr', hs⟩ := h id r hr
  obtain ⟨r'', hr'', hs'⟩ := h' id r' hr'
  exact ⟨r'', hr'', hs.trans hs'⟩

section Minds

variable {caller : Caller} {h h' : Hotel}

theorem Caller.Leaves.refl (caller : Caller) (x : Option Reservation) : caller.Leaves x x := by
  cases x with
  | none => exact .absent
  | some r => exact .changed (.refl r) fun _ => .refl r

theorem Caller.Outside.sameOwner {r r' : Reservation} (h : caller.Outside r)
    (hs : r.SameOwner r') : caller.Outside r' := by
  obtain ⟨p, hp, hne⟩ := h
  exact ⟨p, hp.sameOwner hs, hne⟩

theorem Caller.Leaves.trans {x y z : Option Reservation} (h : caller.Leaves x y)
    (h' : caller.Leaves y z) : caller.Leaves x z := by
  cases h with
  | absent => exact h'
  | made hr =>
    cases h' with
    | changed hs _ => exact .made fun p hp => (hr p hp).sameOwner hs.toSameOwner
  | changed hs hr =>
    cases h' with
    | changed hs' hr' =>
      exact .changed (hs.trans hs') fun hout =>
        (hr hout).trans (hr' (hout.sameOwner hs.toSameOwner))

theorem Caller.Minds.refl (caller : Caller) (h : Hotel) : caller.Minds h h := fun _ => .refl _ _

theorem Caller.Minds.trans {a b c : Hotel} (h : caller.Minds a b) (h' : caller.Minds b c) :
    caller.Minds a c := fun id => (h id).trans (h' id)

theorem Caller.minds_of_reservations (hr : h'.reservations = h.reservations) :
    caller.Minds h h' := by
  intro id
  rw [hr]
  exact .refl _ _

theorem Caller.Minds.lasts (hm : caller.Minds h h') : Lasts h h' := by
  intro id r hr
  have hl := hm id
  rw [hr] at hl
  cases hx : h'.reservations.find id with
  | none => rw [hx] at hl; cases hl
  | some r' =>
    rw [hx] at hl
    cases hl with
    | changed hs _ => exact ⟨r', rfl, hs⟩

theorem Caller.Minds.found (hm : caller.Minds h h') {id : ReservationId}
    (hid : h'.reservations.find id = none) : h.reservations.find id = none := by
  cases hx : h.reservations.find id with
  | none => rfl
  | some r =>
    obtain ⟨r', hr', -⟩ := hm.lasts id r hx
    rw [hid] at hr'
    cases hr'

theorem Rewrites.minds {id : ReservationId} {g : Reservation → Reservation}
    {hg : ∀ r, (g r).id = r.id} (hr : Rewrites h h' id g hg)
    (hrow : ∀ r, h.reservations.find id = some r →
      r.Continues (g r) ∧ (caller.Outside r → r.Spared (g r))) : caller.Minds h h' := by
  intro k
  rw [hr.rows]
  by_cases hk : k = id
  · subst hk
    rw [Table.find_modify_self]
    cases hx : h.reservations.find k with
    | none => exact .absent
    | some r => exact .changed (hrow r hx).1 (hrow r hx).2
  · rw [Table.find_modify_of_ne hk]
    exact .refl _ _

theorem Rewrites.minds_of_spared {id : ReservationId} {g : Reservation → Reservation}
    {hg : ∀ r, (g r).id = r.id} (hr : Rewrites h h' id g hg)
    (hrow : ∀ r : Reservation, r.Spared (g r)) (hv : ∀ r, r.version < (g r).version) :
    caller.Minds h h' :=
  hr.minds fun r _ => ⟨⟨(hrow r).sameOwner, Or.inr (hv r)⟩, fun _ => hrow r⟩

theorem Caller.Minds.insert {row : Reservation} (hm : caller.Minds h h')
    (hrow : ∀ p, caller = .partner p → row.OwnedBy p) :
    caller.Minds h (h'.insertReservation row) := by
  by_cases ha : h'.accepts row = true
  · intro k
    have hnone := Hotel.find_of_accepts ha
    rw [Hotel.insertReservation, if_pos ha]
    by_cases hk : k = row.id
    · subst hk
      rw [Table.find_insert_self hnone, hm.found hnone]
      exact .made hrow
    · rw [Table.find_insert_of_ne hk]
      exact hm k
  · rwa [Hotel.insertReservation_of_not_accepts ha]

end Minds

/-! ## The operations of the service -/

/-- What a caller may ask of the service: a creation without a channel for the hotel, the form on
the version it carries, and the rights of a channel only on what is not another partner's. -/
def Op.Fair (caller : Caller) (h : Hotel) : Op → Prop
  | .create _ _ _ _ => caller = .hotel
  | .update id dto opts _ =>
    opts = .form ∧ h.version id = some dto.version ∨
      ∀ r, h.reservations.find id = some r → ¬caller.Outside r
  | .cancel id _ fromChannel =>
    fromChannel = false ∨ ∀ r, h.reservations.find id = some r → ¬caller.Outside r
  | _ => True

section Operations

variable {caller : Caller} {h h' : Hotel}

theorem Reservation.stamp_spared {r r' : Reservation} (hs : r.Spared r') (m : Moment) (f : Fact) :
    r.Spared (r'.stamp m f) := by
  cases f with
  | checkedIn | checkedOut => exact ⟨hs.part, hs.cancelled⟩
  | noShow => exact hs

theorem Reservation.sameOwner_stamp {r r' : Reservation} (hs : r.SameOwner r') (m : Moment)
    (f : Fact) : r.SameOwner (r'.stamp m f) := by
  cases f with
  | checkedIn | checkedOut => exact ⟨hs.managed, hs.partner⟩
  | noShow => exact hs

/-- A patch leaves the reservation with whom it is, in a new version. -/
theorem UpdateReservationDto.result_continues (dto : UpdateReservationDto) (cur : Reservation)
    (stay : PartnerStayInfo) (now : Moment) (roomTypeId : RoomTypeId) (p : ℕ)
    (stored : Reservation) : stored.Continues (dto.result cur stay now roomTypeId p stored) := by
  refine ⟨?_, Or.inr (by rw [dto.result_version]; exact Nat.lt_succ_self _)⟩
  have hwrite : stored.SameOwner (dto.write cur stay roomTypeId p stored) := ⟨rfl, rfl⟩
  unfold UpdateReservationDto.result
  cases dto.fact cur with
  | none => exact hwrite
  | some fact => exact Reservation.sameOwner_stamp hwrite now fact

/-- A patch that does not change the guests of a channel's reservation keeps them. -/
theorem UpdateReservationDto.guests_kept {dto : UpdateReservationDto} {cur : Reservation}
    (hm : cur.channelManaged = true) (hg : dto.changesChannelGuests cur false = false) :
    dto.adults.orElse cur.adults = cur.adults ∧
      dto.children.orElse cur.children = cur.children := by
  simp only [changesChannelGuests, hm, Bool.not_false, Bool.and_self, Bool.true_and,
    Bool.or_eq_false_iff, Bool.and_eq_false_iff, decide_eq_false_iff_not, not_not] at hg
  constructor
  · rcases hg.1 with h | h
    · cases ha : dto.adults <;> simp_all [Field.isDefined, Field.orElse]
    · rw [h, Field.orElse]
  · rcases hg.2 with h | h
    · cases ha : dto.children <;> simp_all [Field.isDefined, Field.orElse]
    · rw [h, Field.orElse]

/-- **The hotel's form spares a partner's reservation.** -/
theorem UpdateReservationDto.result_spared {dto : UpdateReservationDto} {cur : Reservation}
    (hm : cur.channelManaged = true) (hg : dto.changesChannelGuests cur false = false)
    (hc : dto.cancelling cur = true → cancelRefusal cur.status cur.channelManaged false = none)
    (now : Moment) (roomTypeId : RoomTypeId) (p : ℕ) :
    cur.Spared (dto.result cur .empty now roomTypeId p cur) := by
  have hguests := UpdateReservationDto.guests_kept hm hg
  have hwrite : cur.Spared (dto.write cur .empty roomTypeId p cur) := by
    refine ⟨?_, fun hs => ?_⟩
    · simp [Reservation.partnersPart, UpdateReservationDto.write, hguests, PartnerStayInfo.empty,
        Field.patch]
    · by_contra hne
      have hcancelling : dto.cancelling cur = true := by
        have hstatus : dto.finalStatus cur = .cancelled := hs
        rw [cancelling, hstatus]
        exact decide_eq_true ⟨fun h => hne h.symm, rfl⟩
      have := hc hcancelling
      simp [cancelRefusal, hm] at this
  unfold UpdateReservationDto.result
  cases dto.fact cur with
  | none => exact hwrite
  | some fact => exact Reservation.stamp_spared hwrite now fact

/-- **An operation of the service keeps to the caller's own reservations**, as long as the rows it
has read have only gone on to the store it commits to. -/
theorem Deed.minds {seen : HotelQuery → Hotel → Prop} {op : Op} {ws : Writes} (hd : Deed seen op ws)
    (hseen : ∀ q s, seen q s → Lasts s h) (hf : op.Fair caller h) :
    caller.Minds h (Writes.apply ws h) := by
  cases hd with
  | replayed | folios => exact .refl caller h
  | created =>
    refine (Caller.Minds.refl caller h).insert fun p hp => ?_
    rw [show caller = .hotel from hf] at hp
    cases hp
  | @updated id dto opts now s cur p roomTypeId hs hcur hv hdates hfact hc hp hg =>
    refine (rewrites_result h id dto cur opts.stay now roomTypeId p).minds fun r hr => ?_
    obtain ⟨r', hr', hcont⟩ := hseen _ s hs id cur hcur
    obtain rfl : r' = r := Option.some.inj (hr'.symm.trans hr)
    refine ⟨dto.result_continues cur opts.stay now roomTypeId p r', fun hout => ?_⟩
    rcases hf with ⟨rfl, hversion⟩ | hown
    · -- the row is still the one the form has read
      rw [Hotel.version, hr, Option.map_some] at hversion
      obtain rfl := hcont.eq_of_version ((Option.some.inj hversion).trans hv.symm)
      obtain ⟨q, hq, -⟩ := hout
      exact UpdateReservationDto.result_spared hq.managed hg hc now roomTypeId p
    · exact absurd hout (hown r' hr)
  | @swapped dto s rowA rowB =>
    have hmoved : ∀ (k : Hotel) (id : ReservationId) (place : ℕ),
        caller.Minds k (k.updateReservation id fun r => r.movedTo place) := fun k id place =>
      (rewrites_update k id (fun r => r.movedTo place) fun _ => rfl).minds_of_spared
        (fun r => ⟨rfl, fun hs => hs⟩) fun r => Nat.lt_succ_self r.version
    exact (hmoved h dto.idA rowB.placeNumber).trans (hmoved _ dto.idB rowA.placeNumber)
  | @cancelled id reason fromChannel s cur hs hcur hc =>
    refine (rewrites_update h id (·.cancelledFor reason) fun _ => rfl).minds fun r hr => ?_
    obtain ⟨r', hr', hcont⟩ := hseen _ s hs id cur hcur
    obtain rfl : r' = r := Option.some.inj (hr'.symm.trans hr)
    refine ⟨⟨⟨rfl, rfl⟩, Or.inr (Nat.lt_succ_self r'.version)⟩, fun hout => ?_⟩
    rcases hf with rfl | hown
    · obtain ⟨q, hq, -⟩ := hout
      simp [cancelRefusal, ← hcont.managed, hq.managed] at hc
    · exact absurd hout (hown r' hr)
  | @recorded id fact moment now s cur =>
    refine (rewrites_stamp h id (·.withStatus fact.status) (fun _ => rfl) cur.roomId
      (moment.getD now) fact).minds_of_spared (fun r => ?_) fun r => ?_
    · have hstatus : r.Spared (r.withStatus fact.status) := by
        refine ⟨rfl, fun hs => ?_⟩
        cases fact <;> cases hs
      exact Reservation.stamp_spared hstatus _ fact
    · rw [Reservation.stamp_version]
      exact Nat.lt_succ_self r.version

end Operations

/-! ## What a session commits -/

/-- The store has the reservation as one of the partner's. -/
def Holds (p : PartnerId) (id : ReservationId) (c : ConnectStore) : Prop :=
  ∃ r, c.stay id = some r ∧ r.OwnedBy p

/-- The reservation a partner's call is about. -/
def HotelCall.target : HotelCall → Option (PartnerId × ReservationId)
  | .partner _ p id _ => some (p, id)
  | _ => none

/-- The operations a session may make: that of the cabinet, or one on a reservation that the session
has found to be its partner's. -/
def HotelCall.May (call : HotelCall) (l : Local connectDb) (op : Op) : Prop :=
  match call with
  | .cabinet desk => ∃ now, op = desk.op now
  | .partner _ p id _ => op.touched = [id] ∧ ∃ q s, Event.read q s ∈ l.hist ∧ Holds p id s
  | _ => False

/-- What a transaction of a session commits: no reservation, new reservations of its partner, or
what an operation of the service has done. -/
inductive CallDeed (call : HotelCall) (l : Local connectDb) : Prop
  | spares (h : ∀ w ∈ l.pending, ∀ s, (w.2 s).hotel.reservations = s.hotel.reservations)
  | inserts (h : ∀ w ∈ l.pending, ∃ row : Reservation,
      (∀ s, (w.2 s).hotel = s.hotel.insertReservation row) ∧
        ∀ p, call.caller = .partner p → row.OwnedBy p)
  | acts {op : Op} {ws : Writes} (hd : Deed (SawHotel l) op ws)
      (hp : l.pending = ws.map hotelLift.mapWrite) (hmay : call.May l op)

/-- A write changes no reservation but that of its row, and makes none the call's partner's. -/
structure Confines (call : HotelCall) (w : ConnectRow × (ConnectStore → ConnectStore)) : Prop where
  rows : ∀ k, w.1 ≠ .hotel (.reservation k) → ∀ s, (w.2 s).stay k = s.stay k
  target : ∀ p id, call.target = some (p, id) → ∀ s, Holds p id (w.2 s) → Holds p id s

def callRules (call : HotelCall) : Rules connectDb where
  view _ _ := True
  write _ r f _ := Confines call (r, f)
  commit l := CallDeed call l
  rollback _ := True

section Sessions

variable {call : HotelCall} {l : Local connectDb} {tenant : TenantRow} {id : ReservationId}
  {p : PartnerId} {request : PartnerRequest}

theorem CallDeed.of_idle (hl : l.pending = []) : CallDeed call l :=
  .spares fun w hw => absurd hw (by simp [hl])

theorem OpWrite.confines {op : Op} {r : HotelRow} {f : Hotel → Hotel} (hw : OpWrite op r f)
    (hop : ∀ p id, call.target = some (p, id) → op.touched = [id]) :
    Confines call (hotelLift.mapWrite (r, f)) := by
  refine ⟨fun k hk s => hw.framed.rows s.hotel k fun h => hk (congrArg ConnectRow.hotel h),
    fun p id htarget s hs => ?_⟩
  have hop := hop p id htarget
  obtain ⟨r', hr', hown⟩ := hs
  cases hw with
  | insert => simp [Op.touched] at hop
  | room => exact ⟨r', hr', hown⟩
  | update _ k g hg hsame =>
    by_cases hk : id = k
    · subst hk
      have hr' : (s.hotel.updateReservation id g hg).reservations.find id = some r' := hr'
      rw [Hotel.updateReservation_reservations, Table.find_modify_self] at hr'
      obtain ⟨r, hr, rfl⟩ := Option.map_eq_some_iff.mp hr'
      exact ⟨r, hr, (hsame r).managed.symm.trans hown.managed,
        (hsame r).partner.symm.trans hown.partner⟩
    · have hr' : (s.hotel.updateReservation k g hg).reservations.find id = some r' := hr'
      rw [Hotel.updateReservation_reservations, Table.find_modify_of_ne hk] at hr'
      exact ⟨r', hr', hown⟩

/-- What an operation has seen before its first write it has seen in its transaction. -/
theorem Op.keeps_saw (op : Op) : (op.body (E := Unit)).Keeps (opRules (fun _ => True) op)
    (fun l' _ => Deed (fun q s => l'.Saw q s) op l'.pending) (fun _ _ => True) .init :=
  (op.keeps (Recall.saw _) (fun _ _ _ _ h => h) rfl).mono (fun _ _ h => h) fun _ _ _ => trivial

/-- **A transaction of the service in a session** that may make its operation. -/
theorem service_keeps {α : Type} {t : Tx (hotelDb Unit) Failure α} (op : Op) (hl : l.pending = [])
    (ht : t.Keeps (opRules (fun _ => True) op) (fun l' _ => Deed (fun q s => l'.Saw q s) op l'.pending)
      (fun _ _ => True) .init)
    (hmay : ∀ l' : Local connectDb, (∀ e ∈ l.hist, e ∈ l'.hist) → call.May l' op)
    {Q : Local connectDb → α → Prop}
    (hQ : ∀ (l' : Local connectDb) a, l'.pending = [] → (∀ e ∈ l.hist, e ∈ l'.hist) → Q l' a) :
    (service t).Keeps (callRules call) Q (fun _ _ => True) l := by
  have hop : ∀ p id, call.target = some (p, id) → op.touched = [id] := by
    intro p id htarget
    have hnow := hmay l fun _ h => h
    cases call with
    | partner tenant q k request =>
      cases htarget
      exact hnow.1
    | cabinet _ | folios _ | book _ => cases htarget
  rw [service, Prog.transact_within, Tx.within_eq_lift, Tx.keeps_transact]
  refine (ht.lift .start (fun _ _ _ _ _ => trivial) fun _ _ r f s _ _ hw => hw.confines hop).mono
    (fun l' a hd => ?_) fun _ _ _ => ⟨trivial, trivial⟩
  obtain ⟨l₁, hf, hd⟩ := hd
  have hhist : ∀ e ∈ l.hist, e ∈ l'.hist := fun e he => hf.hist he
  refine ⟨.acts (hd.mono fun _ _ => hf.saw hl) (hf.pending hl) (hmay l' hhist), hQ _ _ rfl ?_⟩
  exact fun e he => List.mem_cons_of_mem _ (hhist e he)

/-- The session has found the reservation to be its partner's, and has nothing open. -/
structure Granted (p : PartnerId) (id : ReservationId) (l : Local connectDb) : Prop where
  pending : l.pending = []
  holds : ∃ q s, Event.read q s ∈ l.hist ∧ Holds p id s

theorem Granted.later {l' : Local connectDb} (h : Granted p id l) (hl : l'.pending = [])
    (hh : ∀ e ∈ l.hist, e ∈ l'.hist) : Granted p id l' := by
  obtain ⟨q, s, hread, hs⟩ := h.holds
  exact ⟨hl, q, s, hh _ hread, hs⟩

theorem Granted.may {op : Op} (h : Granted p id l) (hop : op.touched = [id])
    (l' : Local connectDb) (hh : ∀ e ∈ l.hist, e ∈ l'.hist) :
    (HotelCall.partner tenant p id request).May l' op := by
  obtain ⟨q, s, hread, hs⟩ := h.holds
  exact ⟨hop, q, s, hh _ hread, hs⟩

/-- Every path of the program keeps the rules of the session. -/
def Kept {α : Type} (call : HotelCall) (l : Local connectDb) (q : Prog connectDb Failure α) : Prop :=
  q.Keeps (callRules call) (fun _ _ => True) (fun _ _ => True) l

theorem Kept.answer {α β : Type} {q : Prog connectDb Failure α} (f : α → β) (h : Kept call l q) :
    Kept call l (q >>= fun a => .ret (f a)) := by
  rw [Kept, Prog.keeps_bind]
  exact h

theorem kept_reading {α β : Type} {q : ConnectQuery} {f : ConnectStore → α}
    {g : α → Prog connectDb Failure β} (hl : l.pending = [])
    (hg : ∀ s, Kept call (l.read q s).commit (g (f s))) :
    Kept call l ((Tx.read q fun s => .ret (f s) : Tx connectDb Failure α).transact >>= g) := by
  rw [Kept, Prog.keeps_bind, Tx.keeps_transact]
  exact fun s _ => ⟨.of_idle hl, hg s⟩

/-- The rest of a call is reached only on a reservation of the partner. -/
theorem kept_after_getReservation {α : Type} {g : ReservationView → Prog connectDb Failure α}
    (hl : l.pending = [])
    (hg : ∀ (l' : Local connectDb) r, Granted p id l' → Kept call l' (g r)) :
    Kept call l (getReservation tenant id p >>= g) := by
  rw [getReservation, Prog.bind_assoc]
  refine kept_reading hl fun s => ?_
  cases hr : s.hotel.reservations.find id with
  | none => trivial
  | some r =>
    simp only [Option.map_some]
    split_ifs with hhidden
    · trivial
    · push Not at hhidden
      refine hg _ _ ⟨rfl, .hotel .row, s, ?_, r, hr, by simpa using hhidden.1, hhidden.2⟩
      exact List.mem_cons_of_mem _ List.mem_cons_self

theorem kept_getReservation (hl : l.pending = []) : Kept call l (getReservation tenant id p) := by
  have h : Kept call l (getReservation tenant id p >>= Prog.ret) :=
    kept_after_getReservation hl fun _ _ _ => trivial
  rw [Kept, Prog.keeps_bind] at h
  exact h

theorem kept_getFacts (hl : l.pending = []) : Kept call l (getFacts tenant id p) :=
  kept_after_getReservation hl fun _ _ _ => trivial

theorem kept_getReservationMeals (hl : l.pending = []) :
    Kept call l (getReservationMeals tenant id p) :=
  kept_after_getReservation hl fun _ _ h => kept_reading h.pending fun _ => trivial

theorem kept_updateReservation (dto : ConnectUpdateReservationDto) (hl : l.pending = []) :
    Kept (.partner tenant p id request) l (updateReservation tenant id p dto) := by
  refine kept_after_getReservation hl fun l₁ _ h₁ => kept_reading h₁.pending fun s => ?_
  cases hr : s.hotel.reservations.find id with
  | none => trivial
  | some r =>
    simp only [Option.map_some]
    split_ifs
    · trivial
    · intro env
      rw [Prog.keeps_bind]
      refine service_keeps (.update id (dto.toUpdate r.version) dto.options env.now) rfl
        (Op.keeps_saw _) (Granted.may (Granted.later h₁ rfl fun e he => ?_) rfl)
        fun l' _ hl' _ => kept_getReservation hl'
      exact List.mem_cons_of_mem _ (List.mem_cons_of_mem _ (List.mem_cons_of_mem _ he))

theorem kept_recordStayFact (fact : StayFact) (moment : Option Moment) (hl : l.pending = []) :
    Kept (.partner tenant p id request) l (recordStayFact tenant id p fact moment) := by
  refine kept_after_getReservation hl fun l₁ r h₁ env => ?_
  dsimp only
  split_ifs with hfuture hdone
  · trivial
  · exact kept_getFacts (l := l₁.ask env) h₁.pending
  · rw [Prog.keeps_bind]
    refine service_keeps (.recordFact id fact.fact (some (moment.getD env.now)) env.now)
      (l := l₁.ask env) h₁.pending
      (Op.keeps_saw _) (Granted.may (h₁.later h₁.pending fun e he => ?_) rfl)
      fun l' _ hl' _ => kept_getFacts hl'
    exact List.mem_cons_of_mem _ he

theorem kept_cancelReservation (reason : Option String) (hl : l.pending = []) :
    Kept (.partner tenant p id request) l (cancelReservation tenant id p reason) := by
  refine kept_after_getReservation hl fun l₁ _ h₁ => ?_
  rw [Kept, Prog.keeps_bind]
  refine service_keeps (.cancel id reason true) h₁.pending ?_ (h₁.may rfl) fun _ _ _ _ => trivial
  -- the version is read after the writes of the cancellation
  rw [cancelReturning, Tx.keeps_bind]
  refine (Op.cancel id reason true).keeps_saw.mono (fun l' _ hd s _ => ?_) fun _ _ _ => trivial
  exact hd.mono fun q t h => h.read _ _

theorem kept_setReservationMeals (days : List ConnectMealDayDto) (hl : l.pending = []) :
    Kept call l (setReservationMeals tenant id p days) := by
  refine kept_after_getReservation hl fun l₁ r h₁ => ?_
  dsimp only
  split
  · split
    · trivial
    · rw [Kept, Prog.keeps_bind, replaceMeals, Tx.keeps_transact]
      refine fun s _ => ⟨⟨fun _ _ _ => rfl, fun _ _ _ _ h => h⟩, .spares fun w hw t => ?_,
        kept_getReservationMeals rfl⟩
      rw [Local.pending_write, h₁.pending] at hw
      rw [List.mem_singleton.mp hw]
      rfl
  · trivial

/-- **Every call of a partner on a reservation keeps to the partner's own.** -/
theorem kept_call (hl : l.pending = []) :
    Kept (.partner tenant p id request) l (request.call tenant p id) := by
  cases request with
  | get => exact (kept_getReservation hl).answer _
  | update dto => exact (kept_updateReservation dto hl).answer _
  | cancel reason => exact (kept_cancelReservation reason hl).answer _
  | setMeals days => exact (kept_setReservationMeals days hl).answer _
  | getMeals => exact (kept_getReservationMeals hl).answer _
  | getFacts => exact (kept_getFacts hl).answer _
  | recordStayFact fact moment => exact (kept_recordStayFact fact moment hl).answer _

theorem channelContext_partnerId {sha256 : String → String} {dto : ConnectCreateReservationDto}
    {header : KeyHeader} {channel : ReservationChannelContext}
    (h : channelContext sha256 dto p header = .ok channel) : channel.partnerId = p := by
  unfold channelContext at h
  split at h
  · cases h; rfl
  · split_ifs at h
    cases h; rfl
  · cases h

theorem ConnectRequest.channel_partnerId (sha256 : String → String) (q : ConnectRequest) :
    (q.channel sha256).partnerId = q.partnerId := by
  unfold ConnectRequest.channel
  split
  · next channel h => exact channelContext_partnerId h
  · rfl

/-- **A partner's booking inserts reservations of the partner's, and does nothing else.** -/
theorem kept_book (sha256 : String → String) (q : ConnectRequest) :
    Kept (.book q) .init ((createReservation sha256 q).within (hotelPart (·.booking))) := by
  have hobeys := (createReservation_obeys ⟨false, .empty, .empty, .empty⟩ sha256 q).pending
    (P := fun w => ∃ row, w = insertion row ∧ IsOwn (q.channel sha256) q.newId row)
    (fun w hw => absurd hw List.not_mem_nil) fun l r f s hw => ⟨_, hw.choose_spec.1,
      hw.choose_spec.2.1⟩
  rw [Prog.within_eq_lift]
  refine (hobeys.lift .start (fun _ _ _ _ _ r hr => absurd hr (Table.not_mem_empty r))
    (fun l l' r f s _ _ hw => ?_) (fun l l' hf hc => CallDeed.inserts fun w hw => ?_)
    fun _ _ _ _ => trivial).mono (fun _ _ _ => trivial) fun _ _ _ => trivial
  · obtain ⟨row, heq, -⟩ := hw
    obtain ⟨rfl, rfl⟩ := Prod.mk.inj heq
    refine ⟨fun k hk s => (framed_insert row).rows s.hotel k fun h => hk ?_, nofun⟩
    exact congrArg ConnectRow.hotel h
  · rw [hf.pending rfl] at hw
    obtain ⟨v, hv, rfl⟩ := List.mem_map.mp hw
    obtain ⟨row, rfl, hown⟩ := hc.2 v hv
    refine ⟨row, fun _ => rfl, fun p hp => ⟨hown.managed, ?_⟩⟩
    cases hp
    rw [hown.partner, ConnectRequest.channel_partnerId]

/-- **Every session keeps its rules.** -/
theorem HotelCall.obeys (sha256 : String → String) (call : HotelCall) :
    Obeys (callRules call) (fun _ _ => True) .init (call.session sha256) := by
  cases call with
  | cabinet op =>
    intro env
    refine service_keeps (op.op env.now) rfl (op.op env.now).keeps_saw ?_ fun _ _ _ _ => trivial
    exact fun _ _ => ⟨env.now, rfl⟩
  | folios table =>
    refine fun s _ => ⟨⟨fun _ _ _ => rfl, fun _ _ _ _ h => h⟩, .spares fun w hw t => ?_, trivial⟩
    rw [List.mem_singleton.mp hw]
  | partner tenant p id request =>
    rw [Obeys, HotelCall.session, Prog.keeps_bind]
    exact kept_call rfl
  | book q =>
    rw [Obeys, HotelCall.session, Prog.keeps_bind]
    exact kept_book sha256 q

end Sessions

/-! ## Every interleaving -/

/-- The reservation the form of a session patches, and the version it carries. -/
def HotelCall.carries : HotelCall → Option (ReservationId × ℕ)
  | .cabinet (.update id dto) => some (id, dto.version)
  | _ => none

/-- Every UPDATE of the cabinet's form finds the committed version of its row the one its request
carries. -/
def onReadVersion {ι : Type} (calls : ι → HotelCall) : Guard connectDb Failure Unit ι where
  write S i r := ∀ x ∈ (calls i).carries, r = .hotel (.reservation x.1) →
    S.store.hotel.version x.1 = some x.2
  commit _ _ := True

/-- **A partner's booking is the partner's to change**: where a commit of a call of partner `p` has
created a reservation, every later commit of any other caller leaves the partner's part of it as it
is and does not cancel it. -/
def BookingSpared {ι : Type} (calls : ι → HotelCall) (S : Sys connectDb Failure Unit ι) : Prop :=
  S.log.Pairwise fun d c => ∀ p id, (calls c.who).caller = .partner p →
    c.before.stay id = none → c.after.stay id ≠ none → (calls d.who).caller ≠ .partner p →
      ∃ r r', d.before.stay id = some r ∧ d.after.stay id = some r' ∧ r.Spared r'

section Reach

variable {ι : Type} {calls : ι → HotelCall} {S S' : Sys connectDb Failure Unit ι}

/-- What holds in every run under `onReadVersion`: what the sessions have read has only gone on, and
every commit keeps to its caller's reservations. -/
structure BookingInv (calls : ι → HotelCall) (S : Sys connectDb Failure Unit ι) : Prop where
  rows : S.RowsExclusive
  confined : ∀ i, ∀ w ∈ (S.sessions i).loc.pending, Confines (calls i) w
  held : ∀ i, ∀ x ∈ (calls i).carries, ∀ w ∈ (S.sessions i).loc.pending,
    w.1 = .hotel (.reservation x.1) → S.store.hotel.version x.1 = some x.2
  saw : ∀ i q s, (S.sessions i).loc.Saw q s → Lasts s.hotel S.store.hotel
  granted : ∀ i p id, (calls i).target = some (p, id) → ∀ q s,
    Event.read q s ∈ (S.sessions i).loc.hist → Holds p id s → Holds p id S.store
  minds : ∀ c ∈ S.log, (calls c.who).caller.Minds c.before.hotel c.after.hotel
  lasts : ∀ c ∈ S.log, Lasts c.after.hotel S.store.hotel
  order : S.log.Pairwise fun d c => Lasts c.after.hotel d.before.hotel

theorem Holds.lasts {p : PartnerId} {id : ReservationId} {c c' : ConnectStore} (h : Holds p id c)
    (hc : Lasts c.hotel c'.hotel) : Holds p id c' := by
  obtain ⟨r, hr, hown⟩ := h
  obtain ⟨r', hr', hs⟩ := hc id r hr
  exact ⟨r', hr', hown.sameOwner hs.toSameOwner⟩

theorem Holds.not_outside {p : PartnerId} {id : ReservationId} {c : ConnectStore} (h : Holds p id c) :
    ∀ r, c.hotel.reservations.find id = some r → ¬(Caller.partner p).Outside r := by
  intro r hr hout
  obtain ⟨r', hr', hown⟩ := h
  obtain rfl : r' = r := Option.some.inj (hr'.symm.trans hr)
  obtain ⟨q, hq, hne⟩ := hout
  exact hne (congrArg Caller.partner (Option.some.inj (hown.partner.symm.trans hq.partner)))

theorem Op.fair_of_holds {p : PartnerId} {id : ReservationId} {c : ConnectStore} {op : Op}
    (hop : op.touched = [id]) (h : Holds p id c) : op.Fair (.partner p) c.hotel := by
  cases op with
  | create | folios => simp [Op.touched] at hop
  | update k | cancel k =>
    obtain rfl : k = id := by simpa [Op.touched] using hop
    exact Or.inr h.not_outside
  | swap | recordFact => trivial

/-- An operation of the cabinet, whose form finds the version it carries. -/
theorem CabinetOp.fair {op : CabinetOp} {now : Moment} {h : Hotel}
    (hv : ∀ x ∈ (HotelCall.cabinet op).carries, h.version x.1 = some x.2) :
    (op.op now).Fair .hotel h := by
  cases op with
  | create => exact rfl
  | update id dto => exact Or.inl ⟨rfl, hv (id, dto.version) rfl⟩
  | cancel => exact Or.inl rfl
  | swap | checkIn | checkOut | noShow => trivial

/-- **What a commit does.** -/
theorem BookingInv.commit (hv : BookingInv calls S) {i : ι}
    (hd : CallDeed (calls i) (S.sessions i).loc) :
    (calls i).caller.Minds S.store.hotel (S.view i).hotel := by
  cases hd with
  | spares h =>
    refine Caller.minds_of_reservations ?_
    exact Local.view_keeps (D := connectDb)
      (P := fun s : ConnectStore => s.hotel.reservations = S.store.hotel.reservations) rfl
      fun w hw t ht => (h w hw t).trans ht
  | inserts h =>
    refine Local.view_keeps (D := connectDb)
      (P := fun s : ConnectStore => (calls i).caller.Minds S.store.hotel s.hotel)
      (.refl _ _) fun w hw t ht => ?_
    obtain ⟨row, hrow, hown⟩ := h w hw
    rw [hrow]
    exact ht.insert hown
  | @acts op ws hd hp hmay =>
    have hview : (S.view i).hotel = Writes.apply ws S.store.hotel := by
      rw [Sys.view, Local.view, hp, get_foldl_mapWrite]
    rw [hview]
    refine hd.minds (fun q s hs => ?_) ?_
    · obtain ⟨c, rfl, hc⟩ := hs
      exact hv.saw i _ c hc
    · have hheld := hv.held i
      have hgranted := hv.granted i
      generalize calls i = call at hmay hheld hgranted ⊢
      cases call with
      | cabinet cabinet =>
        obtain ⟨now, rfl⟩ := hmay
        refine CabinetOp.fair fun x hx => ?_
        -- the form has written its row, and holds it
        have htouched : x.1 ∈ (cabinet.op now).touched := by
          cases cabinet with
          | update id dto =>
            cases hx
            exact List.mem_singleton_self id
          | _ => cases hx
        obtain ⟨w, hw, hrow⟩ := hd.writes_touched htouched
        refine hheld x hx (hotelLift.mapWrite w) ?_ (congrArg ConnectRow.hotel hrow)
        rw [hp]
        exact List.mem_map_of_mem hw
      | partner tenant p id request =>
        obtain ⟨htouched, q, s, hread, hs⟩ := hmay
        exact Op.fair_of_holds htouched (hgranted p id rfl q s hread hs)
      | folios | book => exact hmay.elim

theorem BookingInv.stay_view (hv : BookingInv calls S) {i : ι} {id : ReservationId}
    (hw : ∀ w ∈ (S.sessions i).loc.pending, w.1 ≠ .hotel (.reservation id)) :
    (S.view i).stay id = S.store.stay id :=
  Local.view_keeps (D := connectDb) (P := fun s : ConnectStore => s.stay id = S.store.stay id) rfl
    fun w hmem t ht =>
    ((hv.confined i w hmem).rows id (hw w hmem) t).trans ht

/-- A session sees no reservation as its partner's that is not. -/
theorem BookingInv.holds_view (hv : BookingInv calls S) {i : ι} {p : PartnerId} {id : ReservationId}
    (hi : (calls i).target = some (p, id)) (h : Holds p id (S.view i)) : Holds p id S.store := by
  have hall := Local.view_keeps (l := (S.sessions i).loc)
    (P := fun s : ConnectStore => Holds p id s → Holds p id S.store) (s := S.store) (fun h => h)
    fun w hw t ht hs => ht ((hv.confined i w hw).target p id hi t hs)
  exact hall h

variable [DecidableEq ι]

theorem BookingInv.step (hv : BookingInv calls S)
    (ho : AllObey (fun i => callRules (calls i)) (fun _ _ _ => True) S)
    (hs : Step (onReadVersion calls) S S') : BookingInv calls S' := by
  have hrows := hv.rows.step hs
  -- what holds where the store stays as it is
  have quiet : S'.store = S.store → S'.log = S.log →
      (∀ j, ∀ w ∈ (S'.sessions j).loc.pending, Confines (calls j) w) →
      (∀ j, ∀ x ∈ (calls j).carries, ∀ w ∈ (S'.sessions j).loc.pending,
        w.1 = .hotel (.reservation x.1) → S.store.hotel.version x.1 = some x.2) →
      BookingInv calls S' := by
    intro hst hl hconf hheld
    refine ⟨hrows, hconf, by rwa [hst], fun j q s hsaw => ?_, fun j p id hj q s hread h => ?_, ?_,
      ?_, ?_⟩
    · rw [hst]
      rcases hs.saw hsaw with hsaw | ⟨rfl, -⟩
      · exact hv.saw j q s hsaw
      · exact .refl _
    · rw [hst]
      rcases hs.read_hist hread with hread | ⟨rfl, -⟩
      · exact hv.granted j p id hj q s hread h
      · exact hv.holds_view hj h
    · rw [hl]; exact hv.minds
    · rw [hl, hst]; exact hv.lasts
    · rw [hl]; exact hv.order
  cases hs.effect with
  | quiet hst hl hp =>
    exact quiet hst hl (fun j w hw => hv.confined j w (hp j w hw))
      fun j x hx w hw => hv.held j x hx w (hp j w hw)
  | write i r f k hprog hfree hg hst hl hp =>
    refine quiet hst hl (fun j w hw => ?_) fun j x hx w hw hrow => ?_
    · rcases hp j w hw with hw | ⟨rfl, rfl⟩
      · exact hv.confined j w hw
      · exact ho.write hprog trivial
    · rcases hp j w hw with hw | ⟨rfl, rfl⟩
      · exact hv.held j x hx w hw hrow
      · exact hg x hx hrow
  | commit i k hprog hg hst hl hp =>
    have hminds := hv.commit (ho.commit hprog)
    have hlasts : Lasts S.store.hotel S'.store.hotel := by
      rw [hst]
      exact hminds.lasts
    refine ⟨hrows, fun j w hw => hv.confined j w (hp j w hw).2, fun j x hx w hw hrow => ?_,
      fun j q s hsaw => ?_, fun j p id hj q s hread h => ?_, ?_, ?_, ?_⟩
    · -- a row that `j` has written is closed to `i`
      obtain ⟨hji, hw⟩ := hp j w hw
      have hstay : (S.view i).stay x.1 = S.store.stay x.1 := hv.stay_view fun w' hw' hrow' =>
        hji (hv.rows j i w hw w' hw' (hrow.trans hrow'.symm))
      rw [hst]
      exact (congrArg (Option.map Reservation.version) hstay).trans (hv.held j x hx w hw hrow)
    · rcases hs.saw hsaw with hsaw | ⟨rfl, -⟩
      · exact (hv.saw j q s hsaw).trans hlasts
      · exact hlasts
    · rcases hs.read_hist hread with hread | ⟨rfl, -⟩
      · exact (hv.granted j p id hj q s hread h).lasts hlasts
      · exact (hv.holds_view hj h).lasts hlasts
    · rw [hl]
      exact List.forall_mem_cons.mpr ⟨hminds, hv.minds⟩
    · rw [hl, hst]
      exact List.forall_mem_cons.mpr
        ⟨.refl _, fun c hc => (hv.lasts c hc).trans hminds.lasts⟩
    · rw [hl]
      exact List.pairwise_cons.mpr ⟨hv.lasts, hv.order⟩

variable {sha256 : String → String} {s : ConnectStore}

/-- **A partner's booking is the partner's to change**, in every interleaving in which every UPDATE
of the cabinet's form finds the version its request carries. -/
theorem booking_spared (hr : Reach (onReadVersion calls) (opening sha256 s calls) S) :
    BookingSpared calls S := by
  have h₀ : BookingInv calls (opening sha256 s calls) :=
    ⟨fun _ _ _ hw => absurd hw List.not_mem_nil, fun _ _ hw => absurd hw List.not_mem_nil,
      fun _ _ _ _ hw => absurd hw List.not_mem_nil, fun _ _ _ h => absurd h Local.not_saw_init,
      fun _ _ _ _ _ _ h => absurd h List.not_mem_nil, nofun, nofun, .nil⟩
  have hinv := (Reach.obeys (I := BookingInv calls) h₀ (fun i => (calls i).obeys sha256)
    (fun _ _ _ _ => trivial) (fun _ _ hv ho hs => hv.step ho hs) hr).1
  refine hinv.order.imp_of_mem fun {d c} hd hc hle p id hcaller hnone hsome hother => ?_
  -- the reservation was made by a call of its partner
  obtain ⟨made, hmade⟩ := Option.ne_none_iff_exists'.mp hsome
  have hown : made.OwnedBy p := by
    have hleaves := hinv.minds c hc id
    rw [show c.before.hotel.reservations.find id = none from hnone,
      show c.after.hotel.reservations.find id = some made from hmade] at hleaves
    cases hleaves with
    | made h => exact h p hcaller
  obtain ⟨r, hr, hcont⟩ := hle id made hmade
  have hleaves := hinv.minds d hd id
  rw [hr] at hleaves
  cases hx : d.after.hotel.reservations.find id with
  | none => rw [hx] at hleaves; cases hleaves
  | some r' =>
    rw [hx] at hleaves
    cases hleaves with
    | changed _ hspared =>
      exact ⟨r, r', hr, hx, hspared ⟨p, hown.sameOwner hcont.toSameOwner, hother⟩⟩

end Reach

/-! ## A patch of the partner's, and the form's notes -/

instance {ι : Type} (calls : ι → HotelCall) (S : Sys connectDb Failure Unit ι) (i : ι)
    (r : ConnectRow) : Decidable ((onReadVersion calls).write S i r) :=
  inferInstanceAs (Decidable (∀ x ∈ (calls i).carries, r = .hotel (.reservation x.1) →
    S.store.hotel.version x.1 = some x.2))

instance {ι : Type} (calls : ι → HotelCall) (S : Sys connectDb Failure Unit ι) (i : ι) :
    Decidable ((onReadVersion calls).commit S i) := isTrue trivial

/-- A second guest. -/
def ConnectUpdateReservationDto.twoAdults : ConnectUpdateReservationDto where
  checkIn := .undefined
  checkOut := .undefined
  roomId := .undefined
  guestName := .undefined
  phone := .undefined
  email := .undefined
  adults := .val 2
  children := .undefined
  comment := .undefined
  arrivalAt := .undefined
  departureAt := .undefined
  flight := .undefined
  version := .undefined

/-- Partner 1 books a room and adds a guest; the cabinet writes a note and cancels. -/
def secondGuest : Fin 4 → HotelCall
  | 0 => .book ⟨⟨1, "inn"⟩, .oneNight, 1, .undefined, 1⟩
  | 1 => .partner ⟨⟨1, "inn"⟩, "RUB", true⟩ 1 1 (.update .twoAdults)
  | 2 => .cabinet (.update 1 { UpdateReservationDto.ofVersion 1 with notes := .val "late" })
  | 3 => .cabinet (.cancel 1 none)

def partnerBooked : Sys connectDb Failure Unit (Fin 4) :=
  ((((opening id .oneRoom secondGuest).reply 0 .noPlans).reply 2 .noPlans).reply 3
    .noPlans).play [0, 0, 0, 0, 0, 0, 0]

/-- The note, then the guest, then the cancellation. -/
def noteFirst : Sys connectDb Failure Unit (Fin 4) :=
  ((partnerBooked.play [2, 2, 2, 1, 1, 1, 1]).reply 1 .noPlans).play [1, 1, 1, 1, 1, 1, 1, 3, 3]

theorem booking_spared_noteFirst : BookingSpared secondGuest noteFirst := by
  have hr : Reach (onReadVersion secondGuest) (opening id .oneRoom secondGuest) noteFirst := by
    apply Reach.play
    · apply Reach.reply
      apply Reach.play
      · apply Reach.play
        · exact ((Reach.refl.reply 0 _).reply 2 _).reply 3 _
        · decide +kernel
      · decide +kernel
    · decide +kernel
  exact booking_spared hr

/-- The guest stays, and so does the reservation. -/
example : (noteFirst.store.stay 1).map (fun r => (r.adults, r.notes, r.status)) =
    some (2, some "late", .confirmed) := by
  decide +kernel

/-- The form has read the reservation; the guest is added; then the form writes. -/
def guestBetween : Sys connectDb Failure Unit (Fin 4) :=
  ((partnerBooked.play [2, 1, 1, 1, 1]).reply 1 .noPlans).play [1, 1, 1, 1, 1, 2, 2]

/-- **A form that changes only the notes takes the partner's second guest away.** -/
theorem notes_overwrite : ¬∀ (ι : Type) [DecidableEq ι] (sha256 : String → String)
    (s : ConnectStore) (calls : ι → HotelCall) (S : Sys connectDb Failure Unit ι),
    Reach .any (opening sha256 s calls) S → BookingSpared calls S := by
  intro hall
  have hr : Reach .any (opening id .oneRoom secondGuest) guestBetween := by
    apply Reach.play
    · apply Reach.reply
      apply Reach.play
      · apply Reach.play
        · exact ((Reach.refl.reply 0 _).reply 2 _).reply 3 _
        · decide +kernel
      · decide +kernel
    · decide +kernel
  have hspared := List.pairwise_iff_getElem.mp
    (hall (Fin 4) id .oneRoom secondGuest guestBetween hr)
  -- the latest commit is the form's, the fourth before it the booking's
  obtain ⟨r, r', hbefore, hafter, hsame⟩ := hspared 0 4 (by decide +kernel) (by decide +kernel)
    (by decide) 1 1 (by decide +kernel) (by decide +kernel) (by decide +kernel) (by decide +kernel)
  have hadults : r'.adults = r.adults := congrArg PartnersPart.adults hsame.part
  have hlog : (guestBetween.log[0]?).map (fun c =>
      ((c.before.stay 1).map (·.adults), (c.after.stay 1).map (·.adults))) =
      some (some 2, some 1) := by
    decide +kernel
  rw [List.getElem?_eq_getElem (by decide +kernel), Option.map_some, hbefore, hafter] at hlog
  simp only [Option.map_some, Option.some.injEq, Prod.mk.injEq] at hlog
  omega

end KarsHotel
