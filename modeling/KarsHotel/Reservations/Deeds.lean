import KarsHotel.Lib.Interleaving
import KarsHotel.Reservations.Service

/-!
# What a transaction of the service can do

`Deed seen op ws`: an operation that read only states in `seen` and ends well has made the writes
`ws`. The statements are followed once, for every interleaving:

* **`Op.keeps`**: every path of an operation ends in a deed, or in a refusal (`Refusal`);
* `Framed`: a write reaches its own row and leaves the rooms as they are;
* `Rewrites`: the writes of a deed leave one reservation rewritten;
* **`step_cases`**: the same for operations executed one at a time; **`rowOrigin`**: where every row
  after a step comes from.
-/

namespace KarsHotel

/-- The uncommitted writes of a transaction. -/
abbrev Writes := List (HotelRow × (Hotel → Hotel))

def Writes.apply (ws : Writes) (h : Hotel) : Hotel := ws.foldl (fun s w => w.2 s) h

@[simp] theorem Writes.apply_nil (h : Hotel) : Writes.apply [] h = h := rfl
@[simp] theorem Writes.apply_cons (w : HotelRow × (Hotel → Hotel)) (ws : Writes) (h : Hotel) :
    Writes.apply (w :: ws) h = Writes.apply ws (w.2 h) := rfl

/-! ## Stamps -/

/-- The moment of a fact on its row. -/
def Reservation.stamp (moment : Moment) : Fact → Reservation → Reservation
  | .checkedIn, r => { r with checkedInAt := some moment }
  | .checkedOut, r => { r with checkedOutAt := some moment }
  | .noShow, r => r

@[simp] theorem Reservation.stamp_id (m : Moment) (f : Fact) (r : Reservation) :
    (r.stamp m f).id = r.id := by cases f <;> rfl
@[simp] theorem Reservation.stamp_status (m : Moment) (f : Fact) (r : Reservation) :
    (r.stamp m f).status = r.status := by cases f <;> rfl

/-- The writes of `stampFact`. -/
def stampWrites (id : ReservationId) (roomId : RoomId) (moment : Moment) : Fact → Writes
  | .checkedIn =>
    [(.reservation id, fun s => s.updateReservation id fun r =>
      { r with checkedInAt := some moment })]
  | .checkedOut =>
    [(.reservation id, fun s => s.updateReservation id fun r =>
      { r with checkedOutAt := some moment }),
     (.room roomId, fun s => s.setRoomStatus roomId .dirty)]
  | .noShow => []

/-! ## Deeds -/

/-- The place an update writes: the old one, or one chosen beside the stays it saw. -/
inductive PlaceChosen (seen : HotelQuery → Hotel → Prop) (id : ReservationId)
    (dto : UpdateReservationDto) (cur : Reservation) (p : ℕ) : Prop
  | kept (ht : dto.touchesPlace = false) (hp : p = cur.placeNumber)
  | chosen {s s' : Hotel} {room : Room} {m : Bool} (ht : dto.touchesPlace = true)
      (hs : seen .room s) (hs' : seen .overlapping s')
      (hroom : s.activeRoom (dto.finalRoom cur) = some (room, m))
      (hp : dto.choosePlace cur room.capacity m (dto.others cur s' id) = .ok p)

/-- The folio was found settled: not there, or with charges and payments, each seen at a moment of
its own, that come to at most one kopeck. -/
inductive FolioSettled (seen : HotelQuery → Hotel → Prop) (id : ReservationId) : Prop
  | absent {s : Hotel} (hs : seen .folio s) (hf : s.folios.find id = none)
  | paid {s t : Hotel} (hs : seen .charges s) (ht : seen .payments t)
      (hb : (s.chargesOf id).sum - totalPaid (t.paymentsOf id) ≤ 1)

/-- A fact is recorded from an allowed status, a departure with the folio closed. -/
structure FactAdmitted (seen : HotelQuery → Hotel → Prop) (id : ReservationId) (fact : Fact)
    (status : ReservationStatus) : Prop where
  allowed : status ∈ (FACTS fact).allowed
  settled : fact = .checkedOut → FolioSettled seen id

/-- The writes an operation has made when it ends well. -/
inductive Deed (seen : HotelQuery → Hotel → Prop) : Op → Writes → Prop
  | replayed (dto : CreateReservationDto) (stay : PartnerStayInfo)
      (channel : Option ReservationChannelContext) (newId : ReservationId) :
      Deed seen (.create dto stay channel newId) []
  | created {dto : CreateReservationDto} {stay : PartnerStayInfo}
      {channel : Option ReservationChannelContext} {newId : ReservationId} {s s' : Hotel}
      {room : Room} {m : Bool} {p : ℕ}
      (hd : parseISO dto.checkIn < parseISO dto.checkOut) (hs : seen .room s)
      (hs' : seen .overlapping s') (hroom : s.activeRoom dto.roomId = some (room, m))
      (hp : allocatePlace room.capacity m dto.guests (dto.others s') = some p) :
      Deed seen (.create dto stay channel newId)
        [(.reservation newId, fun h =>
          h.insertReservation (dto.row stay channel newId room.roomTypeId p))]
  | updated {id : ReservationId} {dto : UpdateReservationDto} {opts : UpdateOptions}
      {now : Moment} {s : Hotel} {cur : Reservation} {p : ℕ} {roomTypeId : RoomTypeId}
      (hs : seen .row s) (hcur : s.reservations.find id = some cur) (hv : cur.version = dto.version)
      (hd : dto.finalCheckIn cur < dto.finalCheckOut cur)
      (hf : ∀ fact, dto.fact cur = some fact → FactAdmitted seen id fact cur.status)
      (hc : dto.cancelling cur = true →
        cancelRefusal cur.status cur.channelManaged opts.fromChannel = none)
      (hp : PlaceChosen seen id dto cur p)
      (hg : dto.changesChannelGuests cur opts.fromChannel = false) :
      Deed seen (.update id dto opts now)
        ((.reservation id, fun h =>
          h.updateReservation id (dto.write cur opts.stay roomTypeId p)) ::
          ((dto.fact cur).map (stampWrites id (dto.finalRoom cur) now)).getD [])
  | swapped {dto : SwapReservationsDto} {s : Hotel} {rowA rowB : Reservation} (hs : seen .rows s)
      (hne : dto.idA ≠ dto.idB) (hA : s.reservations.find dto.idA = some rowA)
      (hB : s.reservations.find dto.idB = some rowB) (hvA : rowA.version = dto.versionA)
      (hvB : rowB.version = dto.versionB) (hroom : rowA.roomId = rowB.roomId) :
      Deed seen (.swap dto)
        [(.reservation dto.idA, fun h =>
          h.updateReservation dto.idA fun r => r.movedTo rowB.placeNumber),
         (.reservation dto.idB, fun h =>
          h.updateReservation dto.idB fun r => r.movedTo rowA.placeNumber)]
  | cancelled {id : ReservationId} {reason : Option String} {fromChannel : Bool} {s : Hotel}
      {cur : Reservation} (hs : seen .row s) (hcur : s.reservations.find id = some cur)
      (hc : cancelRefusal cur.status cur.channelManaged fromChannel = none) :
      Deed seen (.cancel id reason fromChannel)
        [(.reservation id, fun h => h.updateReservation id fun r => r.cancelledFor reason)]
  | recorded {id : ReservationId} {fact : Fact} {moment : Option Moment} {now : Moment} {s : Hotel}
      {cur : Reservation} (hs : seen .row s) (hcur : s.reservations.find id = some cur)
      (hf : FactAdmitted seen id fact cur.status) :
      Deed seen (.recordFact id fact moment now)
        ((.reservation id, fun h => h.updateReservation id fun r => r.withStatus fact.status) ::
          stampWrites id cur.roomId (moment.getD now) fact)
  | folios (folios : Table Folio.reservationId) : Deed seen (.folios folios) []

/-! ## Versions an operation carries -/

/-- The reservations whose version an operation carries. -/
def Op.carried : Op → List (ReservationId × ℕ)
  | .update id dto _ _ => [(id, dto.version)]
  | .swap dto => [(dto.idA, dto.versionA), (dto.idB, dto.versionB)]
  | _ => []

/-- The SELECT that reads the versions. -/
def Op.query : Op → HotelQuery
  | .swap _ => .rows
  | _ => .row

/-- The refusal of a stale version. -/
def Op.conflict : Op → Failure
  | .swap _ => swapVersionMismatch
  | _ => versionMismatch

/-- The reservations an operation carries are different and there. -/
def Op.Known (op : Op) (s : Hotel) : Prop :=
  (op.carried.map Prod.fst).Nodup ∧ ∀ c ∈ op.carried, (s.reservations.find c.1).isSome

/-- The stored version of a reservation. -/
def Hotel.version (h : Hotel) (id : ReservationId) : Option ℕ :=
  (h.reservations.find id).map Reservation.version

/-- The stored version of every reservation the operation carries is the carried one. -/
def Op.Current (op : Op) (s : Hotel) : Prop := ∀ c ∈ op.carried, s.version c.1 = some c.2

/-- An operation that carries versions and is refused otherwise than by the conflict error has found
them current, or has not found its reservations. -/
def Refusal (seen : HotelQuery → Hotel → Prop) (op : Op) (x : Failure) : Prop :=
  op.carried ≠ [] → x = op.conflict ∨ ∃ s, seen op.query s ∧ (op.Known s → op.Current s)

/-! ## What a write reaches -/

/-- A write reaches its own row and leaves folios and rooms as they are. -/
structure Framed (r : HotelRow) (f : Hotel → Hotel) : Prop where
  house : ∀ h, SameHouse h (f h)
  folios : ∀ h, (f h).folios = h.folios
  rows : ∀ h id, r ≠ .reservation id → (f h).reservations.find id = h.reservations.find id

theorem framed_update (id : ReservationId) (f : Reservation → Reservation)
    (hf : ∀ r, (f r).id = r.id) : Framed (.reservation id) fun h => h.updateReservation id f hf where
  house h := ⟨rfl, rfl⟩
  folios _ := rfl
  rows h k hk := by
    rw [Hotel.updateReservation_reservations, Table.find_modify_of_ne]
    exact fun hki => hk (by rw [hki])

theorem framed_insert (r : Reservation) : Framed (.reservation r.id) fun h =>
    h.insertReservation r where
  house h := ⟨Hotel.insertReservation_multiPlace, by rw [Hotel.insertReservation_rooms]⟩
  folios _ := Hotel.insertReservation_folios
  rows h k hk := by
    unfold Hotel.insertReservation
    split_ifs
    · exact Table.find_insert_of_ne fun hki => hk (by rw [hki])
    · rfl

theorem framed_setRoomStatus (id : RoomId) (st : RoomStatus) :
    Framed (.room id) fun h => h.setRoomStatus id st where
  house h := SameHouse.setRoomStatus h id st
  folios _ := rfl
  rows _ _ _ := rfl

/-- The reservation stays with whom it is. -/
structure Reservation.SameOwner (r r' : Reservation) : Prop where
  managed : r'.channelManaged = r.channelManaged
  partner : r'.partnerId = r.partnerId

/-- The writes an operation may make. -/
inductive OpWrite : Op → HotelRow → (Hotel → Hotel) → Prop
  | insert (dto : CreateReservationDto) (stay : PartnerStayInfo)
      (channel : Option ReservationChannelContext) (newId : ReservationId)
      (roomTypeId : RoomTypeId) (p : ℕ) : OpWrite (.create dto stay channel newId)
        (.reservation newId) fun h => h.insertReservation (dto.row stay channel newId roomTypeId p)
  | update (op : Op) (id : ReservationId) (f : Reservation → Reservation)
      (hf : ∀ r, (f r).id = r.id) (hown : ∀ r : Reservation, r.SameOwner (f r)) :
      OpWrite op (.reservation id) fun h => h.updateReservation id f hf
  | room (op : Op) (id : RoomId) (st : RoomStatus) :
      OpWrite op (.room id) fun h => h.setRoomStatus id st

theorem OpWrite.framed {op : Op} {r : HotelRow} {f : Hotel → Hotel} (h : OpWrite op r f) :
    Framed r f := by
  cases h with
  | insert dto stay channel newId roomTypeId p =>
    exact framed_insert (dto.row stay channel newId roomTypeId p)
  | update _ k f hf _ => exact framed_update k f hf
  | room _ k st => exact framed_setRoomStatus k st

/-! ## Every path -/

section Paths

variable {E : Type} {R : Rules (hotelDb E)} {seen : Local (hotelDb E) → HotelQuery → Hotel → Prop}
  {l : Local (hotelDb E)}

/-- `l'` comes after `l`, without a write in between. -/
structure Later (seen : Local (hotelDb E) → HotelQuery → Hotel → Prop)
    (l l' : Local (hotelDb E)) : Prop where
  pending : l'.pending = l.pending
  seen : ∀ q s, seen l q s → seen l' q s

theorem Later.refl : Later seen l l := ⟨rfl, fun _ _ h => h⟩

theorem Later.trans {l' l'' : Local (hotelDb E)} (a : Later seen l l') (b : Later seen l' l'') :
    Later seen l l'' := ⟨b.pending.trans a.pending, fun q s h => b.seen q s (a.seen q s h)⟩

theorem Later.read (hR : Recall R seen) (q : HotelQuery) (s : Hotel) :
    Later seen l (l.read q s) := ⟨rfl, fun p t h => hR.read l p t q s h⟩

theorem assertZeroBalance_keeps (hR : Recall R seen) (hl : l.pending = []) (id : ReservationId) :
    (assertZeroBalance id).Keeps R
      (fun l' _ => Later seen l l' ∧ FolioSettled (seen l') id)
      (fun l' _ => Later seen l l') l := by
  rw [assertZeroBalance, Tx.keeps_bind]
  intro s hs
  have h₁ : Later seen l (l.read .folio s) := .read hR _ s
  cases h : s.folios.find id with
  | none =>
    simp only [h, Tx.keeps_ret]
    exact ⟨h₁, .absent (hR.view l _ s hs hl) h⟩
  | some folio =>
    simp only [h]
    intro t ht u hu
    have h₂ : Later seen (l.read .folio s) ((l.read .folio s).read .charges t) := .read hR _ t
    have h₃ : Later seen ((l.read .folio s).read .charges t)
        (((l.read .folio s).read .charges t).read .payments u) := .read hR _ u
    simp only [Tx.keeps_ret]
    by_cases hb : (⟨id, t.chargesOf id, u.paymentsOf id⟩ : Folio).balance > 1
    · rw [if_pos hb]
      exact (h₁.trans h₂).trans h₃
    · rw [if_neg hb]
      refine ⟨(h₁.trans h₂).trans h₃, .paid ?_ (hR.view _ _ u hu hl) (not_lt.mp hb)⟩
      exact h₃.seen _ t (hR.view _ _ t ht hl)

theorem admitFact_keeps (hR : Recall R seen) (hl : l.pending = []) (id : ReservationId)
    (fact : Fact) (status : ReservationStatus) :
    (admitFact id fact status).Keeps R
      (fun l' b => Later seen l l' ∧ (b = true → FactAdmitted (seen l') id fact status))
      (fun l' _ => Later seen l l') l := by
  unfold admitFact
  by_cases ha : status ∈ (FACTS fact).allowed
  · rw [if_neg (not_not_intro ha)]
    split_ifs with hf
    · rw [Tx.keeps_bind]
      exact (assertZeroBalance_keeps hR hl id).mono
        (fun l' _ h => ⟨h.1, fun _ => ⟨ha, fun _ => h.2⟩⟩) fun _ _ h => h
    · exact ⟨.refl, fun _ => ⟨ha, fun h => absurd h hf⟩⟩
  · rw [if_pos ha]
    exact ⟨.refl, nofun⟩

theorem admitStatus_keeps (hR : Recall R seen) (hl : l.pending = []) (id : ReservationId)
    (dto : UpdateReservationDto) (cur : Reservation) :
    (admitStatus id dto cur).Keeps R
      (fun l' _ => Later seen l l' ∧
        ∀ fact, dto.fact cur = some fact → FactAdmitted (seen l') id fact cur.status)
      (fun l' _ => Later seen l l') l := by
  unfold admitStatus
  cases dto.fact cur with
  | none => exact ⟨.refl, nofun⟩
  | some fact =>
    rw [Tx.keeps_bind]
    refine (admitFact_keeps hR hl id fact cur.status).mono (fun l' b h => ?_) fun _ _ h => h
    cases b with
    | false => exact h.1
    | true => exact ⟨h.1, by rintro _ ⟨⟩; exact h.2 rfl⟩

theorem admitCancel_keeps (dto : UpdateReservationDto) (cur : Reservation) (fromChannel : Bool) :
    (admitCancel dto cur fromChannel).Keeps R
      (fun l' _ => l' = l ∧ (dto.cancelling cur = true →
        cancelRefusal cur.status cur.channelManaged fromChannel = none))
      (fun l' _ => l' = l) l := by
  unfold admitCancel
  split_ifs with hc
  · cases cancelRefusal cur.status cur.channelManaged fromChannel with
    | none => exact ⟨rfl, fun _ => rfl⟩
    | some refusal => exact rfl
  · exact ⟨rfl, fun h => absurd h hc⟩

theorem resolvePlace_keeps (hR : Recall R seen) (hl : l.pending = []) (id : ReservationId)
    (dto : UpdateReservationDto) (cur : Reservation) :
    (resolvePlace id dto cur).Keeps R
      (fun l' p => Later seen l l' ∧ PlaceChosen (seen l') id dto cur p)
      (fun l' _ => Later seen l l') l := by
  unfold resolvePlace
  split_ifs with ht
  · intro s hs
    have h₁ : Later seen l (l.read .room s) := .read hR _ s
    cases hroom : s.activeRoom (dto.finalRoom cur) with
    | none => simpa only [hroom, Tx.keeps_throw] using h₁
    | some rm =>
      simp only [hroom]
      intro s' hs'
      have h₂ : Later seen (l.read .room s) ((l.read _ s).read .overlapping s') := .read hR _ s'
      cases hp : dto.choosePlace cur rm.1.capacity rm.2 (dto.others cur s' id) with
      | error x => simpa only [hp, Tx.keeps_throw] using h₁.trans h₂
      | ok p =>
        simp only [hp, Tx.keeps_ret]
        exact ⟨h₁.trans h₂, .chosen ht (h₂.seen _ s (hR.view l _ s hs hl))
          (hR.view _ _ s' hs' hl) hroom hp⟩
  · exact ⟨.refl, .kept (by simpa using ht) rfl⟩

theorem resolveRoomType_keeps (hR : Recall R seen) (dto : UpdateReservationDto)
    (cur : Reservation) : (resolveRoomType dto cur).Keeps R (fun l' _ => Later seen l l')
      (fun l' _ => Later seen l l') l := by
  unfold resolveRoomType
  split_ifs
  · intro s _
    have h₁ : Later seen l (l.read .roomType s) := .read hR _ s
    cases hroom : s.activeRoom (dto.finalRoom cur) with
    | none => simpa only [hroom, Tx.keeps_throw] using h₁
    | some rm => simpa only [hroom, Tx.keeps_ret] using h₁
  · exact .refl

/-- Every write of the operation is in order. -/
def AllowsWrites (R : Rules (hotelDb E)) (op : Op) : Prop :=
  ∀ l r f s, OpWrite op r f → R.write l r f s

theorem stampFact_keeps (hR : Recall R seen) {op : Op} (hW : AllowsWrites R op)
    (id : ReservationId) (fact : Fact) (roomId : RoomId) (moment : Option Moment) (now : Moment)
    {X : Local (hotelDb E) → Failure → Prop} :
    (stampFact id fact roomId moment now).Keeps R
      (fun l' _ => l'.pending = l.pending ++ stampWrites id roomId (moment.getD now) fact ∧
        ∀ q s, seen l q s → seen l' q s) X l := by
  cases fact with
  | checkedIn =>
    intro s _
    exact ⟨hW _ _ _ _ (.update _ _ _ _ fun _ => ⟨rfl, rfl⟩), rfl, fun _ _ ht => hR.write _ _ _ _ _ _ ht⟩
  | checkedOut =>
    intro s _
    refine ⟨hW _ _ _ _ (.update _ _ _ _ fun _ => ⟨rfl, rfl⟩), fun s' _ => ⟨hW _ _ _ _ (.room ..), ?_⟩⟩
    exact ⟨by simp [Local.write, stampWrites],
      fun _ _ ht => hR.write _ _ _ _ _ _ (hR.write _ _ _ _ _ _ ht)⟩
  | noShow => exact ⟨by simp [stampWrites], fun _ _ ht => ht⟩

/-! ### The operations -/

section Operations

variable {X : Local (hotelDb E) → Failure → Prop}

theorem PlaceChosen.mono {a b : HotelQuery → Hotel → Prop} {id : ReservationId} {dto : UpdateReservationDto}
    {cur : Reservation} {p : ℕ} (h : PlaceChosen a id dto cur p) (hab : ∀ q s, a q s → b q s) :
    PlaceChosen b id dto cur p := by
  cases h with
  | kept ht hp => exact .kept ht hp
  | chosen ht hs hs' hroom hp => exact .chosen ht (hab _ _ hs) (hab _ _ hs') hroom hp

theorem FolioSettled.mono {a b : HotelQuery → Hotel → Prop} {id : ReservationId}
    (h : FolioSettled a id) (hab : ∀ q s, a q s → b q s) : FolioSettled b id := by
  cases h with
  | absent hs hf => exact .absent (hab _ _ hs) hf
  | paid hs ht hb => exact .paid (hab _ _ hs) (hab _ _ ht) hb

/-- The SELECTs that read the folio for a departure. -/
def ReadsFolio (q : HotelQuery) : Prop := q = .folio ∨ q = .charges ∨ q = .payments

/-- Reads that all found the folio of one state found its balance. -/
theorem FolioSettled.balance_le {seen : HotelQuery → Hotel → Prop} {h : Hotel} {id : ReservationId}
    (hf : FolioSettled seen id)
    (hseen : ∀ q s, ReadsFolio q → seen q s → s.folios.find id = h.folios.find id) :
    h.balance id ≤ 1 := by
  cases hf with
  | absent hs hnone =>
    rw [hseen _ _ (Or.inl rfl) hs] at hnone
    simp [Hotel.balance, hnone]
  | paid hs ht hb =>
    have hcharges := hseen _ _ (Or.inr (Or.inl rfl)) hs
    have hpayments := hseen _ _ (Or.inr (Or.inr rfl)) ht
    rw [Hotel.balance_eq, Hotel.chargesOf, Hotel.paymentsOf]
    rwa [Hotel.chargesOf, Hotel.paymentsOf, hcharges, hpayments] at hb

theorem FactAdmitted.mono {a b : HotelQuery → Hotel → Prop} {id : ReservationId} {fact : Fact}
    {status : ReservationStatus} (h : FactAdmitted a id fact status) (hab : ∀ q s, a q s → b q s) :
    FactAdmitted b id fact status :=
  ⟨h.allowed, fun hf => (h.settled hf).mono hab⟩

theorem placeNew_keeps {dto : CreateReservationDto} {stay : PartnerStayInfo}
    {channel : Option ReservationChannelContext} {newId : ReservationId} (hR : Recall R seen)
    (hW : AllowsWrites R (.create dto stay channel newId)) (hl : l.pending = [])
    (hd : parseISO dto.checkIn < parseISO dto.checkOut) (hX : ∀ l x, X l x) :
    (placeNew dto stay channel newId).Keeps R
      (fun l' _ => Deed (seen l') (.create dto stay channel newId) l'.pending) X l := by
  intro s hs
  have h₁ := hR.view l .room s hs hl
  cases hroom : s.activeRoom dto.roomId with
  | none => simpa only [hroom, Tx.keeps_throw] using hX _ _
  | some rm =>
    simp only [hroom]
    intro s' hs'
    have h₂ := hR.view (l.read .room s) .overlapping s' hs' hl
    cases hp : allocatePlace rm.1.capacity rm.2 dto.guests (dto.others s') with
    | none => simpa only [hp, Tx.keeps_throw] using hX _ _
    | some p =>
      simp only [hp]
      by_cases hchecked :
          (dto.row stay channel newId rm.1.roomTypeId p).checked = true
      swap
      · rw [if_neg hchecked]
        exact hX _ _
      rw [if_pos hchecked]
      intro s'' _
      refine ⟨hW _ _ _ _ (.insert ..), ?_⟩
      beta_reduce
      split_ifs
      · rw [Tx.keeps_ret]
        simp only [Local.pending_write, Local.pending_read, hl, List.nil_append]
        exact .created hd (hR.write _ _ _ _ _ _ (hR.read _ _ _ _ _ h₁)) (hR.write _ _ _ _ _ _ h₂)
          hroom hp
      · exact hX _ _

theorem create_keeps {dto : CreateReservationDto} {stay : PartnerStayInfo}
    {channel : Option ReservationChannelContext} {newId : ReservationId} (hR : Recall R seen)
    (hW : AllowsWrites R (.create dto stay channel newId)) (hl : l.pending = [])
    (hX : ∀ l x, X l x) : (create dto stay channel newId).Keeps R
      (fun l' _ => Deed (seen l') (.create dto stay channel newId) l'.pending) X l := by
  unfold create
  split_ifs with hd
  · exact hX _ _
  · have hd := not_le.mp hd
    unfold createTx
    split
    · next partnerId idem =>
      rw [Tx.keeps_lock, Tx.keeps_bind]
      simp only [channelReservation]
      intro s hs
      cases hrow : s.channelRow partnerId idem.key with
      | none =>
        simp only [hrow, Tx.keeps_ret, Tx.keeps_bind]
        exact placeNew_keeps (l := (l.lock _).read .channelRow s) hR hW hl hd hX
      | some row =>
        simp only [hrow]
        split_ifs
        · exact hX _ _
        · simp only [Tx.keeps_ret]
          rw [show ((l.lock _).read .channelRow s).pending = [] from hl]
          exact .replayed dto stay _ newId
    · rw [Tx.keeps_bind]
      exact placeNew_keeps hR hW hl hd hX

theorem writeRow_keeps (hR : Recall R seen) {op : Op} (hW : AllowsWrites R op) (hl : l.pending = [])
    (id : ReservationId) (dto : UpdateReservationDto) (opts : UpdateOptions) (cur : Reservation)
    (p : ℕ) (roomTypeId : RoomTypeId) (now : Moment) :
    (writeRow id dto opts cur p roomTypeId now).Keeps R
      (fun l' _ => l'.pending = (HotelRow.reservation id, fun h : Hotel =>
          h.updateReservation id (dto.write cur opts.stay roomTypeId p)) ::
          ((dto.fact cur).map (stampWrites id (dto.finalRoom cur) now)).getD [] ∧
        ∀ q s, seen l q s → seen l' q s) X l := by
  intro s _
  refine ⟨hW _ _ _ _ (.update _ _ _ _ fun _ => ⟨rfl, rfl⟩), ?_⟩
  cases dto.fact cur with
  | none =>
    simp only [Tx.keeps_ret]
    exact ⟨by simp [Local.write, hl], fun _ _ ht => hR.write _ _ _ _ _ _ ht⟩
  | some fact =>
    refine (stampFact_keeps hR hW id fact _ none now (X := X)).mono (fun l' _ h => ?_)
      fun _ _ h => h
    exact ⟨by simp [h.1, Local.write, hl], fun q t ht => h.2 q t (hR.write _ _ _ _ _ _ ht)⟩

theorem update_keeps {id : ReservationId} {dto : UpdateReservationDto} {opts : UpdateOptions}
    {now : Moment} (hR : Recall R seen) (hW : AllowsWrites R (.update id dto opts now))
    (hl : l.pending = [])
    (hX : ∀ l x, Refusal (seen l) (.update id dto opts now) x → X l x) :
    (update id dto opts now).Keeps R
      (fun l' _ => Deed (seen l') (.update id dto opts now) l'.pending) X l := by
  intro s hs
  have h₁ := hR.view l .row s hs hl
  cases hcur : s.reservations.find id with
  | none =>
    simp only [hcur, Tx.keeps_throw]
    refine hX _ _ fun _ => Or.inr ⟨s, h₁, fun hk => ?_⟩
    have := hk.2 (id, dto.version) (List.mem_singleton_self _)
    simp [hcur] at this
  | some cur =>
    simp only [hcur]
    split_ifs with hv hg
    · exact hX _ _ fun _ => Or.inl rfl
    · refine hX _ _ fun _ => Or.inr ⟨s, h₁, fun _ c hc => ?_⟩
      rw [List.mem_singleton.mp hc, Hotel.version, hcur]
      exact congrArg some (not_not.mp hv)
    · have hv := not_not.mp hv
      -- from here on every refusal comes after the version was found current
      have hX' : ∀ l' x, Later seen (l.read .row s) l' → X l' x := fun l' x hl' =>
        hX _ _ fun _ => Or.inr ⟨s, hl'.seen _ s h₁, fun _ c hc => by
          rw [List.mem_singleton.mp hc, Hotel.version, hcur, ← hv]; rfl⟩
      unfold updateRow
      split_ifs with hd
      · exact hX' _ _ .refl
      · simp only [Tx.keeps_bind]
        refine (admitStatus_keeps (l := l.read .row s) hR hl id dto cur).mono
          (fun l₁ _ h => ?_) hX'
        obtain ⟨e₁, hf⟩ := h
        refine (admitCancel_keeps dto cur opts.fromChannel).mono (fun _ _ h => ?_)
          fun _ _ e => hX' _ _ (e ▸ e₁)
        obtain ⟨e, hc⟩ := h
        rw [e]
        have p₁ : l₁.pending = [] := e₁.pending.trans hl
        refine (resolvePlace_keeps hR p₁ id dto cur).mono (fun l₂ p h => ?_)
          fun _ _ e₂ => hX' _ _ (e₁.trans e₂)
        obtain ⟨e₂, hp⟩ := h
        refine (resolveRoomType_keeps hR dto cur).mono (fun l₃ rt e₃ => ?_)
          fun _ _ e₃ => hX' _ _ ((e₁.trans e₂).trans e₃)
        have e₁₃ := (e₁.trans e₂).trans e₃
        refine (writeRow_keeps hR hW (e₁₃.pending.trans hl) id dto opts cur p rt now).mono
          (fun l₄ _ h => ?_) fun _ _ h => h
        obtain ⟨hpend, e₄⟩ := h
        rw [hpend]
        exact .updated (e₄ _ s (e₁₃.seen _ s h₁)) hcur hv (not_le.mp hd)
          (fun fact h => (hf fact h).mono fun q t ht => e₄ q t (e₃.seen q t (e₂.seen q t ht)))
          hc (hp.mono fun q t ht => e₄ q t (e₃.seen q t ht)) (Bool.eq_false_iff.mpr hg)

theorem swap_keeps {dto : SwapReservationsDto} (hR : Recall R seen)
    (hW : AllowsWrites R (.swap dto)) (hl : l.pending = [])
    (hX : ∀ l x, Refusal (seen l) (.swap dto) x → X l x) :
    (swap dto).Keeps R (fun l' _ => Deed (seen l') (.swap dto) l'.pending) X l := by
  intro s hs
  have h₁ := hR.view l .rows s hs hl
  have unknown : ¬(Op.swap dto).Known s → X (l.read .rows s) swapNotFound := fun hk =>
    hX _ _ fun _ => Or.inr ⟨s, h₁, fun h => absurd h hk⟩
  have missing : ∀ c ∈ (Op.swap dto).carried, s.reservations.find c.1 = none →
      X (l.read .rows s) swapNotFound := fun c hc hnone => unknown fun hk => by
    have := hk.2 c hc
    simp [hnone] at this
  split_ifs with hne
  · exact unknown fun hk => by simpa [Op.carried, hne] using hk.1
  · cases hA : s.reservations.find dto.idA with
    | none =>
      simp only [hA, Tx.keeps_throw]
      exact missing (dto.idA, dto.versionA) (by simp [Op.carried]) hA
    | some rowA =>
      cases hB : s.reservations.find dto.idB with
      | none =>
        simp only [hA, hB, Tx.keeps_throw]
        exact missing (dto.idB, dto.versionB) (by simp [Op.carried]) hB
      | some rowB =>
        simp only [hA, hB]
        split_ifs with hv hroom
        · exact hX _ _ fun _ => Or.inl rfl
        · refine hX _ _ fun _ => Or.inr ⟨s, h₁, fun _ => ?_⟩
          push Not at hv
          simp [Op.Current, Op.carried, Hotel.version, hA, hB, hv.1, hv.2]
        · push Not at hv hroom
          intro sA _
          refine ⟨hW _ _ _ _ (.update _ _ _ _ fun _ => ⟨rfl, rfl⟩), fun sB _ =>
            ⟨hW _ _ _ _ (.update _ _ _ _ fun _ => ⟨rfl, rfl⟩), ?_⟩⟩
          rw [Tx.keeps_ret]
          simp only [Local.pending_write, Local.pending_read, hl, List.nil_append, List.singleton_append]
          exact .swapped (hR.write _ _ _ _ _ _ (hR.write _ _ _ _ _ _ h₁)) hne hA hB hv.1 hv.2 hroom

theorem cancel_keeps {id : ReservationId} {reason : Option String} {fromChannel : Bool}
    (hR : Recall R seen) (hW : AllowsWrites R (.cancel id reason fromChannel))
    (hl : l.pending = []) (hX : ∀ l x, X l x) :
    (cancel id reason fromChannel).Keeps R
      (fun l' _ => Deed (seen l') (.cancel id reason fromChannel) l'.pending) X l := by
  intro s hs
  have h₁ := hR.view l .row s hs hl
  cases hcur : s.reservations.find id with
  | none => simpa only [hcur, Tx.keeps_throw] using hX _ _
  | some cur =>
    simp only [hcur]
    cases hc : cancelRefusal cur.status cur.channelManaged fromChannel with
    | some refusal => exact hX _ _
    | none =>
      intro s' _
      refine ⟨hW _ _ _ _ (.update _ _ _ _ fun _ => ⟨rfl, rfl⟩), ?_⟩
      rw [Tx.keeps_ret]
      simp only [Local.pending_write, Local.pending_read, hl, List.nil_append]
      exact .cancelled (hR.write _ _ _ _ _ _ h₁) hcur hc

theorem recordFact_keeps {id : ReservationId} {fact : Fact} {moment : Option Moment}
    {now : Moment} (hR : Recall R seen) (hW : AllowsWrites R (.recordFact id fact moment now))
    (hl : l.pending = []) (hX : ∀ l x, X l x) :
    (recordFact id fact moment now).Keeps R
      (fun l' _ => Deed (seen l') (.recordFact id fact moment now) l'.pending) X l := by
  intro s hs
  have h₁ := hR.view l .row s hs hl
  cases hcur : s.reservations.find id with
  | none => simpa only [hcur, Tx.keeps_throw] using hX _ _
  | some cur =>
    simp only [hcur, Tx.keeps_bind]
    refine (admitFact_keeps (l := l.read .row s) hR hl id fact cur.status).mono
      (fun l₁ b h => ?_) fun _ _ _ => hX _ _
    obtain ⟨e₁, hf⟩ := h
    cases b with
    | false => exact hX _ _
    | true =>
      intro s' _
      refine ⟨hW _ _ _ _ (.update _ _ _ _ fun _ => ⟨rfl, rfl⟩), ?_⟩
      refine (stampFact_keeps hR hW id fact cur.roomId moment now (X := X)).mono
        (fun l₂ _ h => ?_) fun _ _ h => h
      obtain ⟨hpend, e₂⟩ := h
      rw [hpend]
      simp only [Local.pending_write, e₁.pending.trans hl, List.nil_append, List.singleton_append]
      have e : ∀ q t, seen l₁ q t → seen l₂ q t := fun q t ht =>
        e₂ q t (hR.write _ _ _ _ _ _ ht)
      exact .recorded (e _ s (e₁.seen _ s h₁)) hcur ((hf rfl).mono e)

end Operations

/-- **Every path of an operation** makes its own writes only and ends in a deed or in a refusal. -/
theorem Op.keeps (op : Op) (hR : Recall R seen) (hW : AllowsWrites R op) (hl : l.pending = []) :
    op.body.Keeps R (fun l' _ => Deed (seen l') op l'.pending)
      (fun l' x => Refusal (seen l') op x) l := by
  cases op with
  | create dto stay channel newId =>
    rw [Op.body, Tx.keeps_bind]
    exact create_keeps hR hW hl fun _ _ h => absurd rfl h
  | update id dto opts now => exact update_keeps hR hW hl fun _ _ h => h
  | swap dto => exact swap_keeps hR hW hl fun _ _ h => h
  | cancel id reason fromChannel => exact cancel_keeps hR hW hl fun _ _ h => absurd rfl h
  | recordFact id fact moment now => exact recordFact_keeps hR hW hl fun _ _ h => absurd rfl h
  | folios folios =>
    rw [Op.body, Tx.keeps_ret, hl]
    exact .folios folios

end Paths

/-! ## What the writes leave -/

/-- The new state is the old one with one reservation rewritten, and perhaps a room's status. -/
structure Rewrites (h h' : Hotel) (id : ReservationId) (g : Reservation → Reservation)
    (hg : ∀ r, (g r).id = r.id) : Prop where
  house : SameHouse h h'
  folios : h'.folios = h.folios
  rows : h'.reservations = h.reservations.modify id g hg

theorem rewrites_update (h : Hotel) (id : ReservationId) (g : Reservation → Reservation)
    (hg : ∀ r, (g r).id = r.id) : Rewrites h (h.updateReservation id g hg) id g hg :=
  ⟨⟨rfl, rfl⟩, rfl, rfl⟩

theorem rewrites_stamp (h : Hotel) (id : ReservationId) (g : Reservation → Reservation)
    (hg : ∀ r, (g r).id = r.id) (roomId : RoomId) (moment : Moment) (fact : Fact) :
    Rewrites h (Writes.apply (stampWrites id roomId moment fact) (h.updateReservation id g hg)) id
      (fun r => (g r).stamp moment fact) fun r => by rw [Reservation.stamp_id, hg] := by
  cases fact with
  | checkedIn =>
    exact ⟨⟨rfl, rfl⟩, rfl, Table.modify_modify _ _ _ _ hg (Reservation.stamp_id moment .checkedIn)⟩
  | checkedOut =>
    simp only [stampWrites, Writes.apply_cons, Writes.apply_nil]
    refine ⟨SameHouse.trans ?_ (SameHouse.setRoomStatus _ roomId .dirty), rfl, ?_⟩
    · exact ⟨rfl, rfl⟩
    · exact Table.modify_modify _ _ _ _ hg (Reservation.stamp_id moment .checkedOut)
  | noShow => exact ⟨⟨rfl, rfl⟩, rfl, rfl⟩

/-- The row an update leaves, with the stamp of the fact it records. -/
def UpdateReservationDto.result (dto : UpdateReservationDto) (cur : Reservation)
    (stay : PartnerStayInfo) (now : Moment) (roomTypeId : RoomTypeId) (p : ℕ)
    (stored : Reservation) : Reservation :=
  match dto.fact cur with
  | none => dto.write cur stay roomTypeId p stored
  | some fact => (dto.write cur stay roomTypeId p stored).stamp now fact

theorem UpdateReservationDto.result_id (dto : UpdateReservationDto) (cur : Reservation)
    (stay : PartnerStayInfo) (now : Moment) (roomTypeId : RoomTypeId) (p : ℕ) (r : Reservation) :
    (dto.result cur stay now roomTypeId p r).id = r.id := by
  unfold result
  cases dto.fact cur with
  | none => rfl
  | some fact => rw [Reservation.stamp_id]; rfl

theorem UpdateReservationDto.result_status (dto : UpdateReservationDto) (cur : Reservation)
    (stay : PartnerStayInfo) (now : Moment) (roomTypeId : RoomTypeId) (p : ℕ) (r : Reservation) :
    (dto.result cur stay now roomTypeId p r).status = dto.finalStatus cur := by
  unfold result
  cases dto.fact cur with
  | none => rfl
  | some fact => rw [Reservation.stamp_status]; rfl

theorem UpdateReservationDto.finalRoom_of_not_touchesPlace {dto : UpdateReservationDto}
    {cur : Reservation} (h : dto.touchesPlace = false) : dto.finalRoom cur = cur.roomId := by
  simp only [touchesPlace, Bool.or_eq_false_iff] at h
  exact Field.orElse_of_toOption h.1.1.1.1.2 _

theorem UpdateReservationDto.result_roomId (dto : UpdateReservationDto) (cur : Reservation)
    (stay : PartnerStayInfo) (now : Moment) (roomTypeId : RoomTypeId) (p : ℕ) (r : Reservation) :
    (dto.result cur stay now roomTypeId p r).roomId = dto.finalRoom cur := by
  unfold result
  cases dto.fact cur with
  | none => rfl
  | some fact => cases fact <;> rfl

theorem rewrites_result (h : Hotel) (id : ReservationId) (dto : UpdateReservationDto)
    (cur : Reservation) (stay : PartnerStayInfo) (now : Moment) (roomTypeId : RoomTypeId) (p : ℕ) :
    Rewrites h
      (Writes.apply (((dto.fact cur).map (stampWrites id (dto.finalRoom cur) now)).getD [])
        (h.updateReservation id (dto.write cur stay roomTypeId p))) id
      (dto.result cur stay now roomTypeId p) (dto.result_id cur stay now roomTypeId p) := by
  cases hf : dto.fact cur with
  | none =>
    have : dto.result cur stay now roomTypeId p = dto.write cur stay roomTypeId p := by
      funext r; simp only [UpdateReservationDto.result, hf]
    simp only [this]
    exact rewrites_update h id _ _
  | some fact =>
    have : dto.result cur stay now roomTypeId p =
        fun r => (dto.write cur stay roomTypeId p r).stamp now fact := by
      funext r; simp only [UpdateReservationDto.result, hf]
    simp only [this]
    exact rewrites_stamp h id _ _ (dto.finalRoom cur) now fact

/-! ## One at a time -/

/-- An operation that ends well has made the writes of a deed that saw the state it started from. -/
theorem Op.exec_deed {op : Op} {h h' : Hotel} {a : Unit}
    (hx : (op.body (E := Unit)).exec h = .ok (a, h')) :
    ∃ ws, Deed (fun _ s => s = h) op ws ∧ h' = Writes.apply ws h := by
  have hk := (op.keeps (E := Unit) (l := .init) (Recall.alone h) (fun _ _ _ _ _ => trivial)
    rfl).exec
  rw [Local.view_init, hx] at hk
  obtain ⟨l', hd, hv⟩ := hk
  exact ⟨l'.pending, hd, hv.symm⟩

/-- **What one operation can do**: nothing, set the folios, or the writes of a deed that saw the
state it started from. -/
theorem step_cases (h : Hotel) (op : Op) : step h op = h ∨
    (∃ folios, op = .folios folios ∧ step h op = { h with folios := folios }) ∨
    ∃ ws, Deed (fun _ s => s = h) op ws ∧ step h op = Writes.apply ws h := by
  have body : ∀ op : Op, (∀ r, (op.body (E := Unit)).exec h = .ok r → step h op = r.2) →
      (∀ x, (op.body (E := Unit)).exec h = .error x → step h op = h) →
      step h op = h ∨ ∃ ws, Deed (fun _ s => s = h) op ws ∧ step h op = Writes.apply ws h := by
    intro op hok herror
    cases hx : (op.body (E := Unit)).exec h with
    | error x => exact Or.inl (herror x hx)
    | ok r =>
      obtain ⟨ws, hd, hv⟩ := op.exec_deed hx
      exact Or.inr ⟨ws, hd, (hok r hx).trans hv⟩
  cases op with
  | folios folios => exact Or.inr (Or.inl ⟨folios, rfl, rfl⟩)
  | create | update | swap | cancel | recordFact =>
    refine (body _ (fun r hr => ?_) fun x hx => ?_).imp_right Or.inr
    · simp only [step, hr]
    · simp only [step, hx]

/-- Where a row of the state after a step comes from. -/
inductive RowOrigin (h : Hotel) : Op → Reservation → Prop
  | kept (op : Op) {r : Reservation} (hr : r ∈ h.reservations) : RowOrigin h op r
  | created {dto : CreateReservationDto} {stay : PartnerStayInfo}
      {channel : Option ReservationChannelContext} {newId : ReservationId} {room : Room} {m : Bool}
      {p : ℕ} (hd : parseISO dto.checkIn < parseISO dto.checkOut)
      (hroom : h.activeRoom dto.roomId = some (room, m))
      (hp : allocatePlace room.capacity m dto.guests (dto.others h) = some p)
      (ha : h.accepts (dto.row stay channel newId room.roomTypeId p) = true) :
      RowOrigin h (.create dto stay channel newId) (dto.row stay channel newId room.roomTypeId p)
  | updated {id : ReservationId} {dto : UpdateReservationDto} {opts : UpdateOptions}
      {now : Moment} {cur : Reservation} {p : ℕ} {roomTypeId : RoomTypeId}
      (hcur : h.reservations.find id = some cur) (hv : cur.version = dto.version)
      (hd : dto.finalCheckIn cur < dto.finalCheckOut cur)
      (hf : ∀ fact, dto.fact cur = some fact → FactAdmitted (fun _ s => s = h) id fact cur.status)
      (hc : dto.cancelling cur = true →
        cancelRefusal cur.status cur.channelManaged opts.fromChannel = none)
      (hp : PlaceChosen (fun _ s => s = h) id dto cur p)
      (hg : dto.changesChannelGuests cur opts.fromChannel = false) :
      RowOrigin h (.update id dto opts now) (dto.result cur opts.stay now roomTypeId p cur)
  | swapped {dto : SwapReservationsDto} {r : Reservation} (hr : r ∈ h.reservations) (p : ℕ) :
      RowOrigin h (.swap dto) (r.movedTo p)
  | cancelled {id : ReservationId} {reason : Option String} {fromChannel : Bool}
      {cur : Reservation} (hcur : h.reservations.find id = some cur) :
      RowOrigin h (.cancel id reason fromChannel) (cur.cancelledFor reason)
  | recorded {id : ReservationId} {fact : Fact} {moment : Option Moment} {now : Moment}
      {cur : Reservation} (hcur : h.reservations.find id = some cur)
      (hf : FactAdmitted (fun _ s => s = h) id fact cur.status) :
      RowOrigin h (.recordFact id fact moment now)
        ((cur.withStatus fact.status).stamp (moment.getD now) fact)

theorem RowOrigin.of_rewrites {h h' : Hotel} {op : Op} {id : ReservationId}
    {g : Reservation → Reservation} {hg : ∀ r, (g r).id = r.id} (hr : Rewrites h h' id g hg)
    (hs : ∀ r, h.reservations.find id = some r → RowOrigin h op (g r)) {r' : Reservation}
    (hmem : r' ∈ h'.reservations) : RowOrigin h op r' := by
  rw [hr.rows] at hmem
  rcases Table.mem_modify.mp hmem with ⟨hr', -⟩ | ⟨r, hr, hid, rfl⟩
  · exact .kept op hr'
  · exact hs r (Table.find_eq_some.mpr ⟨hr, hid⟩)

/-- **Every row after a step** is an old one, a new one, or an old one as the operation
leaves it. -/
theorem rowOrigin {h : Hotel} {op : Op} {r' : Reservation}
    (hmem : r' ∈ (step h op).reservations) : RowOrigin h op r' := by
  rcases step_cases h op with he | ⟨folios, -, he⟩ | ⟨ws, hd, he⟩
  · rw [he] at hmem
    exact .kept op hmem
  · rw [he] at hmem
    exact .kept op hmem
  rw [he] at hmem
  cases hd with
  | replayed | folios => exact .kept _ hmem
  | @created dto stay channel newId s s' room m p hdates hs hs' hroom hp =>
    rw [hs] at hroom
    rw [hs'] at hp
    simp only [Writes.apply_cons, Writes.apply_nil] at hmem
    by_cases ha : h.accepts (dto.row stay channel newId room.roomTypeId p) = true
    · rcases (Hotel.mem_insertReservation ha).mp hmem with hmem | rfl
      · exact .kept _ hmem
      · exact .created hdates hroom hp ha
    · rw [Hotel.insertReservation_of_not_accepts ha] at hmem
      exact .kept _ hmem
  | @updated id dto opts now s cur p roomTypeId hs hcur hv hdates hf hc hp hg =>
    subst hs
    refine .of_rewrites (rewrites_result s id dto cur opts.stay now roomTypeId p)
      (fun r hr => ?_) hmem
    obtain rfl : r = cur := Option.some.inj (hr.symm.trans hcur)
    exact .updated hcur hv hdates hf hc hp hg
  | @swapped dto s rowA rowB hs hne hA hB hvA hvB hroom =>
    subst hs
    rcases Table.mem_of_mem_modify_modify (f := (Reservation.movedTo · rowB.placeNumber))
        (g := (Reservation.movedTo · rowA.placeNumber)) (fun _ => rfl) (fun _ => rfl) hne hmem with
      ⟨hr, -, -⟩ | ⟨r, hr, -, rfl⟩ | ⟨r, hr, -, rfl⟩
    · exact .kept _ hr
    · exact .swapped hr _
    · exact .swapped hr _
  | @cancelled id reason fromChannel s cur hs hcur hc =>
    subst hs
    refine .of_rewrites (rewrites_update s id (·.cancelledFor reason) fun _ => rfl)
      (fun r hr => ?_) hmem
    exact .cancelled hr
  | @recorded id fact moment now s cur hs hcur hf =>
    subst hs
    refine .of_rewrites (rewrites_stamp s id (·.withStatus fact.status) (fun _ => rfl)
      cur.roomId (moment.getD now) fact) (fun r hr => ?_) hmem
    obtain rfl : r = cur := Option.some.inj (hr.symm.trans hcur)
    exact .recorded hcur hf

theorem Rewrites.exists_row {h h' : Hotel} {id : ReservationId} {g : Reservation → Reservation}
    {hg : ∀ r, (g r).id = r.id} (hr : Rewrites h h' id g hg) {r : Reservation}
    (hmem : r ∈ h.reservations) : ∃ r' ∈ h'.reservations, r'.id = r.id := by
  rw [hr.rows]
  by_cases hid : r.id = id
  · exact ⟨g r, Table.mem_modify.mpr (Or.inr ⟨r, hmem, hid, rfl⟩), hg r⟩
  · exact ⟨r, Table.mem_modify.mpr (Or.inl ⟨hmem, hid⟩), rfl⟩

/-- **No operation deletes a row.** -/
theorem exists_row_step {h : Hotel} (op : Op) {r : Reservation} (hmem : r ∈ h.reservations) :
    ∃ r' ∈ (step h op).reservations, r'.id = r.id := by
  rcases step_cases h op with he | ⟨folios, -, he⟩ | ⟨ws, hd, he⟩
  · exact ⟨r, by rwa [he], rfl⟩
  · exact ⟨r, by rwa [he], rfl⟩
  rw [he]
  cases hd with
  | replayed | folios => exact ⟨r, hmem, rfl⟩
  | @created dto stay channel newId s s' room m p =>
    simp only [Writes.apply_cons, Writes.apply_nil]
    by_cases ha : h.accepts (dto.row stay channel newId room.roomTypeId p) = true
    · exact ⟨r, (Hotel.mem_insertReservation ha).mpr (Or.inl hmem), rfl⟩
    · rw [Hotel.insertReservation_of_not_accepts ha]
      exact ⟨r, hmem, rfl⟩
  | @updated id dto opts now s cur p roomTypeId =>
    exact (rewrites_result h id dto cur opts.stay now roomTypeId p).exists_row hmem
  | @swapped dto s rowA rowB =>
    obtain ⟨r₁, hr₁, hid₁⟩ := (rewrites_update h dto.idA (·.movedTo rowB.placeNumber)
      fun _ => rfl).exists_row hmem
    obtain ⟨r₂, hr₂, hid₂⟩ := (rewrites_update (h.updateReservation dto.idA
      (·.movedTo rowB.placeNumber)) dto.idB (·.movedTo rowA.placeNumber) fun _ => rfl).exists_row hr₁
    exact ⟨r₂, hr₂, hid₂.trans hid₁⟩
  | @cancelled id reason =>
    exact (rewrites_update h id (·.cancelledFor reason) fun _ => rfl).exists_row hmem
  | @recorded id fact moment now s cur =>
    exact (rewrites_stamp h id (·.withStatus fact.status) (fun _ => rfl) cur.roomId
      (moment.getD now) fact).exists_row hmem

/-- **No operation touches the rooms**, but for their statuses. -/
theorem house_step (h : Hotel) (op : Op) : SameHouse h (step h op) := by
  rcases step_cases h op with he | ⟨folios, -, he⟩ | ⟨ws, hd, he⟩
  · rw [he]
    exact .refl h
  · rw [he]
    exact ⟨rfl, rfl⟩
  rw [he]
  cases hd with
  | replayed | folios => exact .refl h
  | created => exact ⟨Hotel.insertReservation_multiPlace, by
      rw [Writes.apply_cons, Writes.apply_nil, Hotel.insertReservation_rooms]⟩
  | @updated id dto opts now s cur p roomTypeId =>
    exact (rewrites_result h id dto cur opts.stay now roomTypeId p).house
  | swapped => exact ⟨rfl, rfl⟩
  | cancelled => exact ⟨rfl, rfl⟩
  | @recorded id fact moment now s cur =>
    exact (rewrites_stamp h id (·.withStatus fact.status) (fun _ => rfl) cur.roomId
      (moment.getD now) fact).house

/-! ## Operations that are not refused -/

/-- The earlier reservation of a partner's key. -/
def Hotel.earlier (h : Hotel) (channel : Option ReservationChannelContext) : Option Reservation :=
  channel.bind fun c => c.idempotency.bind fun idem => h.channelRow c.partnerId idem.key

/-- The operation is not refused. -/
def Op.Accepted (h : Hotel) (op : Op) : Prop := ∃ r, (op.body (E := Unit)).exec h = .ok r

theorem step_of_not_accepted {h : Hotel} {op : Op} (hop : ¬op.Accepted h) : step h op = h := by
  cases hx : (op.body (E := Unit)).exec h with
  | ok r => exact absurd ⟨r, hx⟩ hop
  | error x =>
    cases op with
    | folios folios => cases hx
    | _ => simp only [step, hx]

theorem earlier_eq_none {h : Hotel} {dto : CreateReservationDto} {stay : PartnerStayInfo}
    {channel : Option ReservationChannelContext} {newId : ReservationId} {roomTypeId : RoomTypeId}
    {p : ℕ} (ha : h.accepts (dto.row stay channel newId roomTypeId p) = true) :
    h.earlier channel = none := by
  cases channel with
  | none => rfl
  | some c =>
    cases hidem : c.idempotency with
    | none => simp [Hotel.earlier, hidem]
    | some idem =>
      simp only [Hotel.earlier, Option.bind_some, hidem]
      by_contra hsome
      obtain ⟨o, ho⟩ := Option.ne_none_iff_exists'.mp hsome
      have hmem := List.mem_of_find?_eq_some ho
      have htest := List.find?_some ho
      simp only [Bool.and_eq_true, decide_eq_true_eq] at htest
      simp only [Hotel.accepts, Bool.and_eq_true, List.all_eq_true, decide_eq_true_eq] at ha
      have hfree := ha.2 o hmem
      simp [CreateReservationDto.row, htest.1.1, htest.2, hidem] at hfree

/-- Every step of a run meets a condition on the state before it and the operation. -/
def RunMeets (ok : Hotel → Op → Prop) : Hotel → List Op → Prop
  | _, [] => True
  | h, op :: ops => ok h op ∧ RunMeets ok (step h op) ops

/-- **What every step keeps, every run keeps.** -/
theorem run_induction {P : Hotel → Prop} {ok : Hotel → Op → Prop}
    (hstep : ∀ h op, P h → ok h op → P (step h op)) {h : Hotel} {ops : List Op} (hP : P h)
    (hok : RunMeets ok h ops) : P (run h ops) := by
  induction ops generalizing h with
  | nil => exact hP
  | cons op ops ih => exact ih (hstep h op hP hok.1) hok.2

end KarsHotel
