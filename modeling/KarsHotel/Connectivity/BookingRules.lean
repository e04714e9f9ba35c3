import KarsHotel.Connectivity.CreateReservation
import KarsHotel.Lib.Interleaving

/-!
# What a partner's booking keeps

The discipline of `createReservation` on all its paths: one INSERT at most, under the lock of the
key, and an answer that says what the lookups of the key saw.

* `insertion`, `Wrote`, `NotInserted`, `lastLookup`: the INSERTs and the lookups of a call;
* `bookRules`, `Found`, `Refused`: the rules of its statements, and what its answers say;
* `keeps_createAndAnnounce`, `keeps_attempt`, `keeps_recover`: the parts of the call;
* **`createReservation_obeys`**: the call.
-/

namespace KarsHotel

abbrev Call := Local (hotelDb ConnectEnv)

/-! ## The INSERT of a call -/

def insertion (row : Reservation) : HotelRow × (Hotel → Hotel) :=
  (.reservation row.id, fun s => s.insertReservation row)

theorem insertion_injective : Function.Injective insertion := by
  intro a b h
  have hf : (fun s : Hotel => s.insertReservation a) = fun s => s.insertReservation b :=
    congrArg Prod.snd h
  have hs := congrFun hf ⟨false, .empty, .empty, .empty⟩
  have hrows : [a] = [b] := congrArg (·.reservations.rows) hs
  exact List.singleton_inj.mp hrows

/-- The call has made the INSERT of the row, over the state `s`. -/
def Wrote (l : Call) (row : Reservation) (s : Hotel) : Prop :=
  Event.write (insertion row).1 (insertion row).2 s ∈ l.hist

/-- No INSERT of the call was let in. -/
def NotInserted (l : Call) : Prop := ∀ row s, Wrote l row s → s.accepts row = false

/-- Before the INSERT. -/
structure Fresh (l : Call) : Prop where
  pending : l.pending = []
  wrote : ∀ row s, ¬Wrote l row s

/-- The state the latest lookup of the key saw. -/
def lastLookup (l : Call) : Option Hotel :=
  l.hist.findSome? fun e => match e with
    | .read .channelRow s => some s
    | _ => none

section Local

variable {l : Call} {row : Reservation} {s t : Hotel}

@[simp] theorem wrote_read {q : HotelQuery} : Wrote (l.read q t) row s ↔ Wrote l row s := by
  simp [Wrote, Local.read]
@[simp] theorem wrote_lock {x : HotelLock} : Wrote (l.lock x) row s ↔ Wrote l row s := by
  simp [Wrote, Local.lock]
@[simp] theorem wrote_commit : Wrote l.commit row s ↔ Wrote l row s := by
  simp [Wrote, Local.commit]
@[simp] theorem wrote_rollback : Wrote l.rollback row s ↔ Wrote l row s := by
  simp [Wrote, Local.rollback]
@[simp] theorem wrote_ask {e : ConnectEnv} : Wrote (l.ask e) row s ↔ Wrote l row s := by
  simp [Wrote, Local.ask]

theorem wrote_write {o : Reservation} :
    Wrote (l.write (insertion o).1 (insertion o).2 t) row s ↔
      (row = o ∧ s = t) ∨ Wrote l row s := by
  have hinj : (insertion row).1 = (insertion o).1 ∧ (insertion row).2 = (insertion o).2 ↔
      row = o := by
    rw [← Prod.ext_iff]
    exact insertion_injective.eq_iff
  simp only [Wrote, Local.write, List.mem_cons, Event.write.injEq]
  rw [← and_assoc, hinj]

@[simp] theorem lastLookup_commit : lastLookup l.commit = lastLookup l := rfl
@[simp] theorem lastLookup_rollback : lastLookup l.rollback = lastLookup l := rfl
@[simp] theorem lastLookup_read : lastLookup (l.read .channelRow s) = some s := rfl

theorem Fresh.init : Fresh .init := ⟨rfl, fun _ _ h => absurd h List.not_mem_nil⟩

theorem Fresh.read (h : Fresh l) (q : HotelQuery) : Fresh (l.read q s) :=
  ⟨h.pending, fun row t => by rw [wrote_read]; exact h.wrote row t⟩

theorem Fresh.lock (h : Fresh l) (x : HotelLock) : Fresh (l.lock x) :=
  ⟨h.pending, fun row t => by rw [wrote_lock]; exact h.wrote row t⟩

theorem Fresh.commit (h : Fresh l) : Fresh l.commit :=
  ⟨rfl, fun row t => by rw [wrote_commit]; exact h.wrote row t⟩

theorem Fresh.rollback (h : Fresh l) : Fresh l.rollback :=
  ⟨rfl, fun row t => by rw [wrote_rollback]; exact h.wrote row t⟩

theorem Fresh.ask (h : Fresh l) (e : ConnectEnv) : Fresh (l.ask e) :=
  ⟨h.pending, fun row t => by rw [wrote_ask]; exact h.wrote row t⟩

theorem Fresh.notInserted (h : Fresh l) : NotInserted l := fun row s hw => absurd hw (h.wrote row s)

end Local

/-! ## What a call keeps -/

section Discipline

variable (h : Hotel) (channel : ReservationChannelContext) (newId : ReservationId)

/-- A row as the call inserts it. -/
structure IsOwn (row : Reservation) : Prop where
  id : row.id = newId
  managed : row.channelManaged = true
  partner : row.partnerId = some channel.partnerId
  key : row.partnerIdempotencyKey = channel.idempotency.map (·.key)
  payload : row.partnerPayloadHash = channel.idempotency.map (·.payloadHash)

/-- The rows of `h` are still there. -/
def Grown (h s : Hotel) : Prop := ∀ r ∈ h.reservations, r ∈ s.reservations

/-- The lock of the call's key is held. -/
def KeyLocked (l : Call) : Prop :=
  ∀ idem, channel.idempotency = some idem →
    HotelLock.reservationCreate channel.partnerId idem.key ∈ l.locks

/-- A call that sees the rows of `h` makes at most one INSERT, under the lock of its key, commits it
if it was let in and rolls back if not. -/
def bookRules : Rules (hotelDb ConnectEnv) where
  view _ s := Grown h s
  write l r f _ := ∃ row, (r, f) = insertion row ∧ IsOwn channel newId row ∧ Fresh l ∧
    KeyLocked channel l
  commit l := ∀ row, insertion row ∈ l.pending → ∃ s, Wrote l row s ∧ s.accepts row = true
  rollback l := ∀ row s, insertion row ∈ l.pending → Wrote l row s → s.accepts row = false

/-- The answer of a call: the reservation its lookup found, or the one it inserted. -/
inductive Found (l : Call) : CreatedReservation → Prop
  | replayed {idem : Idempotency} {s : Hotel} {row : Reservation}
      (hi : channel.idempotency = some idem) (hs : Event.read HotelQuery.channelRow s ∈ l.hist)
      (hrow : s.channelRow channel.partnerId idem.key = some row)
      (hp : row.partnerPayloadHash = some idem.payloadHash) : Found l row.created
  | inserted {s : Hotel} {row : Reservation} (hown : IsOwn channel newId row)
      (hw : Wrote l row s) (ha : s.accepts row = true) : Found l row.created

/-- How a call with a key is refused: its last lookup saw the key under another payload, or saw
nothing, and then the rejection code says that nothing was inserted. -/
def Refused (l : Call) (x : Failure) : Prop :=
  ∀ idem, channel.idempotency = some idem → ∃ s, lastLookup l = some s ∧ Grown h s ∧
    ((∃ row, s.channelRow channel.partnerId idem.key = some row ∧
      row.partnerPayloadHash ≠ some idem.payloadHash ∧ x = keyConflict) ∨
    (s.channelRow channel.partnerId idem.key = none ∧
      (x.code = some RESERVATION_CREATE_REJECTED_CODE → NotInserted l)))

end Discipline

section Keeps

variable {h : Hotel} {channel : ReservationChannelContext} {newId : ReservationId} {l : Call}

theorem commit_fresh {l : Call} (hl : l.pending = []) : (bookRules h channel newId).commit l := by
  intro row hrow
  rw [hl] at hrow
  exact absurd hrow List.not_mem_nil

theorem rollback_fresh {l : Call} (hl : l.pending = []) : (bookRules h channel newId).rollback l := by
  intro row s hrow
  rw [hl] at hrow
  exact absurd hrow List.not_mem_nil

/-- **The lookup of a key**: it finds nothing, the reservation, or another payload. -/
theorem keeps_channelReservation {R : Rules (hotelDb ConnectEnv)} {idem : Idempotency}
    {Q : Call → Option CreatedReservation → Prop} {X : Call → Failure → Prop}
    (hi : channel.idempotency = some idem)
    (hmiss : ∀ s : Hotel, R.view l s → s.channelRow channel.partnerId idem.key = none →
      Q (l.read .channelRow s) none)
    (hhit : ∀ (s : Hotel) row, s.channelRow channel.partnerId idem.key = some row →
      row.partnerPayloadHash = some idem.payloadHash →
      Q (l.read .channelRow s) (some row.created))
    (hbad : ∀ (s : Hotel) row, R.view l s → s.channelRow channel.partnerId idem.key = some row →
      row.partnerPayloadHash ≠ some idem.payloadHash → X (l.read .channelRow s) keyConflict) :
    (channelReservation channel).Keeps R Q X l := by
  unfold channelReservation
  rw [hi]
  intro s hview
  dsimp only
  cases hrow : s.channelRow channel.partnerId idem.key with
  | none => exact hmiss s hview hrow
  | some row =>
    show Tx.Keeps R Q X _ (if _ then _ else _)
    split_ifs with hp
    · exact hbad s row hview hrow hp
    · exact hhit s row hrow (not_not.mp hp)

theorem keeps_findChannelReservation {Q : Call → Option CreatedReservation → Prop}
    {X : Call → Failure → Prop} (hl : l.pending = [])
    (hnone : channel.idempotency = none → Q l none)
    (hmiss : ∀ idem (s : Hotel), channel.idempotency = some idem → Grown h s →
      s.channelRow channel.partnerId idem.key = none → Q (l.read .channelRow s).commit none)
    (hhit : ∀ idem (s : Hotel) row, channel.idempotency = some idem →
      s.channelRow channel.partnerId idem.key = some row →
      row.partnerPayloadHash = some idem.payloadHash →
      Q (l.read .channelRow s).commit (some row.created))
    (hbad : ∀ idem (s : Hotel) row, channel.idempotency = some idem → Grown h s →
      s.channelRow channel.partnerId idem.key = some row →
      row.partnerPayloadHash ≠ some idem.payloadHash →
      X (l.read .channelRow s).rollback keyConflict) :
    (findChannelReservation channel).Keeps (bookRules h channel newId) Q X l := by
  unfold findChannelReservation
  split_ifs with hi
  · exact hnone (Option.isNone_iff_eq_none.mp hi)
  · obtain ⟨idem, hi⟩ := Option.ne_none_iff_exists'.mp fun h => hi (Option.isNone_iff_eq_none.mpr h)
    rw [Tx.keeps_transact]
    refine keeps_channelReservation hi (fun s hview hrow => ?_) (fun s row hrow hp => ?_)
      fun s row hview hrow hp => ?_
    · exact ⟨commit_fresh hl, hmiss idem s hi hview hrow⟩
    · exact ⟨commit_fresh hl, hhit idem s row hi hrow hp⟩
    · exact ⟨rollback_fresh hl, hbad idem s row hi hview hrow hp⟩

theorem Found.mono {l' : Call} {c : CreatedReservation} (h : Found channel newId l c)
    (hhist : ∀ e ∈ l.hist, e ∈ l'.hist) : Found channel newId l' c := by
  cases h with
  | replayed hi hs hrow hp => exact .replayed hi (hhist _ hs) hrow hp
  | inserted hown hw ha => exact .inserted hown (hhist _ hw) ha

/-- **The INSERT**: the row is let in, or nothing is. -/
theorem keeps_insertion {row : Reservation} (hown : IsOwn channel newId row) (hl : Fresh l)
    (hlock : KeyLocked channel l) :
    (Tx.write (insertion row).1 (insertion row).2 fun s : Hotel =>
        if s.accepts row then .ret row.created else .throw uniqueViolation :
      Tx (hotelDb ConnectEnv) Failure CreatedReservation).Keeps
      (bookRules h channel newId)
      (fun l c => (bookRules h channel newId).commit l ∧ Found channel newId l c)
      (fun l _ => (bookRules h channel newId).rollback l ∧ NotInserted l) l := by
  rw [Tx.keeps_write]
  refine fun t _ => ⟨⟨row, rfl, hown, hl, hlock⟩, ?_⟩
  -- the INSERT of `row` over `t` is the only one of the call
  have hwrote : ∀ o u, Wrote (l.write (insertion row).1 (insertion row).2 t) o u ↔
      o = row ∧ u = t := fun o u => wrote_write.trans (or_iff_left (hl.wrote o u))
  have hpending : ∀ o, insertion o ∈ (l.write (insertion row).1 (insertion row).2 t).pending →
      o = row := by
    intro o ho
    rw [Local.pending_write, hl.pending] at ho
    exact insertion_injective (List.mem_singleton.mp ho)
  split_ifs with ha
  · rw [Tx.keeps_ret]
    refine ⟨fun o ho => ⟨t, ?_⟩, .inserted hown ((hwrote row t).mpr ⟨rfl, rfl⟩) ha⟩
    rw [hwrote, hpending o ho]
    exact ⟨⟨rfl, rfl⟩, ha⟩
  · rw [Tx.keeps_throw]
    have hnot : NotInserted (l.write (insertion row).1 (insertion row).2 t) := by
      intro o u hw
      obtain ⟨rfl, rfl⟩ := (hwrote o u).mp hw
      exact eq_false_of_ne_true ha
    exact ⟨fun o u _ hw => hnot o u hw, hnot⟩

theorem keeps_placeNew (dto : CreateReservationDto) (stay : PartnerStayInfo)
    (newId : ReservationId) (hl : Fresh l) (hlock : KeyLocked channel l) :
    (placeNew dto stay (some channel) newId).Keeps (bookRules h channel newId)
      (fun l c => (bookRules h channel newId).commit l ∧ Found channel newId l c)
      (fun l _ => (bookRules h channel newId).rollback l ∧ NotInserted l) l := by
  have hrefuse : ∀ {l : Call}, Fresh l →
      (bookRules h channel newId).rollback l ∧ NotInserted l := fun h =>
    ⟨rollback_fresh h.pending, h.notInserted⟩
  rw [placeNew, Tx.keeps_read]
  intro s _
  cases s.activeRoom dto.roomId with
  | none => exact hrefuse (hl.read .room)
  | some p =>
    show Tx.Keeps _ _ _ _ (.read _ _)
    rw [Tx.keeps_read]
    intro s' _
    have hfresh := (hl.read .room (s := s)).read .overlapping (s := s')
    cases allocatePlace p.1.capacity p.2 dto.guests (dto.others s') with
    | none => exact hrefuse hfresh
    | some placeNumber =>
      have hown : IsOwn channel newId
          (dto.row stay (some channel) newId p.1.roomTypeId placeNumber) :=
        ⟨rfl, rfl, rfl, rfl, rfl⟩
      dsimp only
      split_ifs
      · exact keeps_insertion hown hfresh hlock
      · exact hrefuse hfresh

/-- The transaction of `create`: its answer is a reservation of the key; refused, it has inserted
nothing. -/
theorem keeps_create (dto : CreateReservationDto) (stay : PartnerStayInfo) (hl : Fresh l) :
    (create dto stay (some channel) newId).Keeps (bookRules h channel newId)
      (fun l r => (bookRules h channel newId).commit l ∧ Found channel newId l r.2)
      (fun l _ => (bookRules h channel newId).rollback l ∧ NotInserted l) l := by
  unfold create
  split_ifs with hdates
  · exact ⟨rollback_fresh hl.pending, hl.notInserted⟩
  · obtain ⟨partnerId, idempotency⟩ := channel
    cases idempotency with
    | none =>
      have hlock : KeyLocked ⟨partnerId, none⟩ l := nofun
      have hplace := keeps_placeNew (h := h) dto stay newId hl hlock
      simpa [createTx] using hplace
    | some idem =>
      rw [createTx, Tx.keeps_lock, Tx.keeps_bind]
      have hfresh := hl.lock (.reservationCreate partnerId idem.key)
      refine keeps_channelReservation rfl (fun s _ hmiss => ?_) (fun s row hrow hp => ?_)
        fun s row _ hrow hp => ?_
      · have hlock : KeyLocked ⟨partnerId, some idem⟩
            ((l.lock (.reservationCreate partnerId idem.key)).read .channelRow s) := by
          intro idem' h
          cases h
          exact List.mem_cons_self
        have hplace := keeps_placeNew (h := h) dto stay newId (hfresh.read .channelRow) hlock
        simpa using hplace
      · exact ⟨commit_fresh hfresh.pending, .replayed rfl List.mem_cons_self hrow hp⟩
      · exact ⟨rollback_fresh hfresh.pending, (hfresh.read .channelRow).notInserted⟩

/-- `create` with its announcements: refused with the rejection code, it has inserted nothing. -/
theorem keeps_createAndAnnounce (dto : CreateReservationDto) (stay : PartnerStayInfo)
    (hl : Fresh l) :
    (createAndAnnounce dto stay channel newId).Keeps (bookRules h channel newId)
      (fun l c => l.pending = [] ∧ Found channel newId l c)
      (fun l x => l.pending = [] ∧
        (x.code = some RESERVATION_CREATE_REJECTED_CODE → NotInserted l)) l := by
  rw [createAndAnnounce, Prog.keeps_bind, Tx.keeps_transact]
  refine (keeps_create dto stay hl).mono (fun l r hr => ⟨hr.1, ?_⟩)
    fun l x hx => ⟨hx.1, rfl, fun _ row s hw => hx.2 row s (wrote_rollback.mp hw)⟩
  obtain ⟨replayed, created⟩ := r
  have hfound : Found channel newId l.commit created :=
    hr.2.mono fun e he => List.mem_cons_of_mem _ he
  cases replayed with
  | true => exact ⟨rfl, hfound⟩
  | false =>
    intro env
    dsimp only
    cases env.announce with
    | some fault => exact ⟨rfl, nofun⟩
    | none => exact ⟨rfl, hfound.mono fun e he => List.mem_cons_of_mem _ he⟩

theorem keeps_pickRoom (dto : ConnectCreateReservationDto) (hl : Fresh l) :
    (pickRoom (E := ConnectEnv) dto).Keeps (bookRules h channel newId) (fun l _ => Fresh l)
      (fun l _ => Fresh l) l := by
  have hpinned : ∀ roomId, (resolvePinnedRoom (E := ConnectEnv) dto roomId).Keeps
      (bookRules h channel newId) (fun l _ => Fresh l) (fun l _ => Fresh l) l := by
    intro roomId s _
    have hl' := hl.read .room (s := s)
    dsimp only
    split
    · exact hl'
    · split_ifs with hc
      · exact hl'
      · intro s' _
        show Tx.Keeps _ _ _ _ (if _ then _ else _)
        split_ifs <;> exact hl'.read .overlapping
  have hpick : (pickAvailableRoom (E := ConnectEnv) dto).Keeps
      (bookRules h channel newId) (fun l _ => Fresh l) (fun l _ => Fresh l) l := by
    intro s _
    have hl' := hl.read .room (s := s)
    dsimp only
    split
    · exact hl'
    · exact fun s' _ => hl'.read .overlapping
  unfold pickRoom
  split
  · exact hpinned _
  · rw [Tx.keeps_bind]
    refine hpick.mono (fun l r hr => ?_) fun l x hx => hx
    cases r with
    | none => exact hr
    | some roomId => exact hr

theorem keeps_prepare (q : ConnectRequest) (hl : Fresh l) :
    (prepare q).Keeps (bookRules h channel newId) (fun l _ => Fresh l) (fun l _ => Fresh l) l := by
  intro env
  have hl' := hl.ask env
  dsimp only
  split
  · exact hl'
  · rw [Prog.keeps_bind, Tx.keeps_transact]
    refine (keeps_pickRoom q.dto hl').mono (fun l _ hr => ?_) fun l x hx => ?_
    · exact ⟨commit_fresh hr.pending, hr.commit⟩
    · exact ⟨rollback_fresh hx.pending, hx.rollback⟩

/-- **The attempt**: its answer is a reservation of the key; where the catch would add or find the
rejection code, it has inserted nothing. -/
theorem keeps_attempt (q : ConnectRequest) (hl : Fresh l) :
    (attempt q channel).Keeps (bookRules h channel q.newId)
      (fun l c => l.pending = [] ∧ Found channel q.newId l c)
      (fun l x => l.pending = [] ∧
        ((markRejected channel x).code = some RESERVATION_CREATE_REJECTED_CODE →
          NotInserted l)) l := by
  have hgo : ∀ {l : Call}, Fresh l → (do
      let dto ← (prepare q).mapError (Thrown.mk true false)
      (createAndAnnounce dto q.dto.stay channel q.newId).mapError (Thrown.mk true true) :
        Prog (hotelDb ConnectEnv) Thrown CreatedReservation).Keeps (bookRules h channel q.newId)
      (fun l c => l.pending = [] ∧ Found channel q.newId l c)
      (fun l x => l.pending = [] ∧
        ((markRejected channel x).code = some RESERVATION_CREATE_REJECTED_CODE →
          NotInserted l)) l := by
    intro l hl
    rw [Prog.keeps_bind, Prog.keeps_mapError]
    refine Prog.Keeps.mono (keeps_prepare q hl) (fun l dto hl => ?_) fun l x hx => ?_
    · rw [Prog.keeps_mapError]
      refine Prog.Keeps.mono (keeps_createAndAnnounce dto _ hl) (fun l c hc => hc) fun l x hx => ?_
      refine ⟨hx.1, fun hcode => hx.2 ?_⟩
      -- once `create` is entered the catch adds no code of its own
      simpa [markRejected] using hcode
    · exact ⟨hx.pending, fun _ => hx.notInserted⟩
  rw [attempt, Prog.keeps_bind, Prog.keeps_mapError]
  refine keeps_findChannelReservation hl.pending (fun _ => hgo hl) (fun idem s _ _ _ => ?_)
    (fun idem s row hi hrow hp => ?_) fun idem s row hi _ hrow hp => ?_
  · exact hgo (hl.read _).commit
  · exact ⟨rfl, .replayed hi (List.mem_cons_of_mem _ List.mem_cons_self) hrow hp⟩
  · exact ⟨rfl, fun _ => (hl.read _).rollback.notInserted⟩

/-- **The catch.** -/
theorem keeps_recover (x : Thrown) (hl : l.pending = [])
    (hx : (markRejected channel x).code = some RESERVATION_CREATE_REJECTED_CODE → NotInserted l) :
    (recover channel x).Keeps (bookRules h channel newId)
      (fun l c => l.pending = [] ∧ Found channel newId l c) (Refused h channel) l := by
  rw [recover, Prog.keeps_bind]
  refine keeps_findChannelReservation hl (fun hi => ?_) (fun idem s hi hgrown hrow => ?_)
    (fun idem s row hi hrow hp => ?_) fun idem s row hi hgrown hrow hp => ?_
  · intro idem hi'
    rw [hi] at hi'
    cases hi'
  · intro idem' hi'
    obtain rfl : idem = idem' := Option.some.inj (hi.symm.trans hi')
    refine ⟨s, rfl, hgrown, Or.inr ⟨hrow, fun hcode row t hw => hx hcode row t ?_⟩⟩
    exact wrote_read.mp (wrote_commit.mp hw)
  · exact ⟨rfl, .replayed hi (List.mem_cons_of_mem _ List.mem_cons_self) hrow hp⟩
  · intro idem' hi'
    obtain rfl : idem = idem' := Option.some.inj (hi.symm.trans hi')
    exact ⟨s, rfl, hgrown, Or.inl ⟨row, hrow, hp, rfl⟩⟩

end Keeps

/-- The channel of a call; a header that is refused has none to speak of. -/
def ConnectRequest.channel (sha256 : String → String) (q : ConnectRequest) :
    ReservationChannelContext :=
  match channelContext sha256 q.dto q.partnerId q.header with
  | .ok channel => channel
  | .error _ => ⟨q.partnerId, none⟩

/-- What the answer of a call says. -/
def bookDone (h : Hotel) (sha256 : String → String) (q : ConnectRequest) (l : Call) :
    Except Failure ConnectReservation → Prop
  | .ok a => l.pending = [] ∧ ∃ c, Found (q.channel sha256) q.newId l c ∧ a = c.answer q.tenant
  | .error x => Refused h (q.channel sha256) l x

/-- **Every call keeps its rules.** -/
theorem createReservation_obeys (h : Hotel) (sha256 : String → String) (q : ConnectRequest) :
    Obeys (bookRules h (q.channel sha256) q.newId) (bookDone h sha256 q) .init
      (createReservation sha256 q) := by
  unfold createReservation bookDone ConnectRequest.channel
  cases channelContext sha256 q.dto q.partnerId q.header with
  | error x => exact nofun
  | ok channel =>
    show Prog.Keeps _ _ _ _ (_ >>= _)
    rw [Prog.keeps_bind, Prog.keeps_handle]
    refine Prog.Keeps.mono (keeps_attempt q .init) (fun l c hc => ⟨hc.1, c, hc.2, rfl⟩)
      fun l x hx => ?_
    exact Prog.Keeps.mono (keeps_recover x hx.1 hx.2) (fun l c hc => ⟨hc.1, c, hc.2, rfl⟩)
      fun l y hy => hy

end KarsHotel
