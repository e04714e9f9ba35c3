import KarsHotel.Lib.Retries
import KarsHotel.Rates.Notices
import KarsHotel.Reservations.Versions

/-!
# News of the partner's reservations

An operation that ends well tells the partner what became of its reservation. The call reads the
tables again for that, after its transaction, and leaves the delivery to the background: three
attempts, with pauses between.

* `Server.step`: transactions, the calls that go on after them, and the attempts, in any order;
* `WebhookInv.step`: what a step keeps;
* **`webhooks_run`**: after any of them, what is owed to the partner is on its way, dropped for a
  reason, or in an event of the partner's own reservation; the versions of the events tell which is
  the later one, and every event is posted at most three times, as it is.
-/

namespace KarsHotel.PartnerWebhooks

/-! ## The events -/

/-- The types of events about a reservation that the service sends. -/
inductive WebhookType where
  | changed
  | fact (fact : Fact)
  deriving DecidableEq, Repr

/-- What an event is about. -/
abbrev Key := WebhookType × ReservationId

structure ChangedPayload where
  id : ReservationId
  status : ReservationStatus
  checkIn : Day
  checkOut : Day
  roomId : RoomId
  roomNumber : String
  version : ℕ
  deriving DecidableEq, Repr

structure FactPayload where
  reservationId : ReservationId
  status : ReservationStatus
  checkedInAt : Option Moment
  checkedOutAt : Option Moment
  noShow : Bool
  guestsBooked : ℕ
  guestsArrived : ℕ
  deriving DecidableEq, Repr

inductive Payload where
  | changed (payload : ChangedPayload)
  | fact (payload : FactPayload)
  deriving DecidableEq, Repr

structure Envelope where
  id : ℕ
  type : WebhookType
  hotelId : String
  occurredAt : Moment
  payload : Payload
  deriving DecidableEq, Repr

/-- What comes of an attempt: a status, or nothing in time. -/
inductive Answer where
  | status (code : ℕ)
  | failed
  deriving DecidableEq, Repr

/-- No attempt follows a success, nor a refusal that trying again would not change. -/
def Answer.isFinal : Answer → Bool
  | .status code => decide (200 ≤ code ∧ code ≤ 299) || decide (400 ≤ code ∧ code < 500)
  | .failed => false

def RETRY_DELAYS_MS : List ℕ := [0, 2000, 10000]

def TIMEOUT_MS : ℕ := 5000

/-! ## The server -/

structure Config where
  webhooks : PartnerWebhookService
  slug : String
  roomNumber : RoomId → String

/-- What a call has still to tell: a fact before its guests were counted, or after. -/
inductive Notice where
  | changed (id : ReservationId)
  | fact (fact : Fact) (id : ReservationId) (moment : Option Moment)
  | counted (fact : Fact) (id : ReservationId) (moment : Moment) (booked : ℕ)
  deriving DecidableEq, Repr

def Notice.key : Notice → Key
  | .changed id => (.changed, id)
  | .fact f id _ => (.fact f, id)
  | .counted f id _ _ => (.fact f, id)

/-- What an operation that ends well has to tell, of the state it started from. -/
def notices (h : Hotel) : Op → List Notice
  | .update id dto _ _ => match h.reservations.find id with
    | none => []
    | some cur => ((dto.fact cur).toList.map fun fact => .fact fact id none) ++ [.changed id]
  | .recordFact id fact moment _ => [.fact fact id moment]
  | _ => []

/-- Why there is no event. -/
inductive Reason where
  | notConnected
  | ownReservation
  | queryFailed
  deriving DecidableEq, Repr

/-- A notice without an event, and the version of the reservation then. -/
structure Dropped where
  key : Key
  why : Reason
  version : ℕ
  deriving DecidableEq, Repr

structure Delivery where
  envelope : Envelope
  reservationId : ReservationId
  attempts : List (Retries.Attempt Answer)
  deriving DecidableEq, Repr

def Delivery.key (d : Delivery) : Key := (d.envelope.type, d.reservationId)

/-- A request on the wire. -/
structure Post where
  body : Envelope
  attempt : Retries.Attempt Answer
  deriving DecidableEq, Repr

/-- The tables, the calls that go on after their transactions, the deliveries; and, written
down, what was owed to the partner with the version it was owed at, what was dropped, and what
was posted. -/
structure Server where
  hotel : Hotel
  clock : Moment
  calls : List (List Notice)
  deliveries : List Delivery
  owed : List (Key × ℕ)
  dropped : List Dropped
  wire : List Post

inductive Event where
  | op (op : Op)
  /-- A call goes on; its query answers or fails. -/
  | tell (call : ℕ) (answers : Bool)
  /-- A delivery is tried; the answer takes so long. -/
  | post (delivery : ℕ) (answer : Answer) (took : ℕ)
  | wait (ms : ℕ)

namespace Server

variable (cfg : Config) (s : Server)

def start (h : Hotel) (now : Moment) : Server := ⟨h, now, [], [], [], [], []⟩

def version (id : ReservationId) : ℕ := (s.hotel.version id).getD 0

def transact (op : Op) : Server :=
  match (op.body (E := Unit)).exec s.hotel with
  | .error _ => s
  | .ok _ =>
    let after := { s with hotel := KarsHotel.step s.hotel op }
    { after with
      calls := s.calls ++ [notices s.hotel op]
      owed := s.owed ++ (notices s.hotel op).map fun n => (n.key, after.version n.key.2) }

/-- How many are booked. -/
def booked (id : ReservationId) : ℕ :=
  ((s.hotel.reservations.find id).map fun r => r.adults + r.children).getD 0

def drop (keys : List Key) (why : Reason) : Server :=
  { s with dropped := s.dropped ++ keys.map fun key => ⟨key, why, s.version key.2⟩ }

def deliver (key : Key) (payload : Payload) : Server :=
  { s with
    deliveries := s.deliveries ++ [⟨⟨s.deliveries.length, key.1, cfg.slug, s.clock, payload⟩, key.2, []⟩] }

/-- `emitForReservation`, `emitReservationChanged`: only of a partner's reservation. -/
def emit (answers : Bool) (key : Key) (payload : Reservation → Payload) : Server :=
  if ¬cfg.webhooks.Connected then s.drop [key] .notConnected
  else if !answers then s.drop [key] .queryFailed
  else match s.hotel.reservations.find key.2 with
    | none => s.drop [key] .ownReservation
    | some r => if r.channelManaged then s.deliver cfg key (payload r) else s.drop [key] .ownReservation

def changedPayload (r : Reservation) : ChangedPayload :=
  ⟨r.id, r.status, r.checkIn, r.checkOut, r.roomId, cfg.roomNumber r.roomId, r.version⟩

end Server

def factPayload (fact : Fact) (id : ReservationId) (moment : Moment) (booked : ℕ) : FactPayload :=
  { reservationId := id
    status := fact.status
    checkedInAt := if fact = .checkedIn then some moment else none
    checkedOutAt := if fact = .checkedOut then some moment else none
    noShow := decide (fact = .noShow)
    guestsBooked := booked
    guestsArrived := if fact = .noShow then 0 else booked }

namespace Server

variable (cfg : Config) (s : Server)

/-- A call goes on with what it has to tell first. -/
def tell (call : ℕ) (answers : Bool) : Server :=
  match s.calls[call]? with
  | some (.fact fact id moment :: rest) =>
    if answers then
      { s with calls := s.calls.set call (.counted fact id (moment.getD s.clock) (s.booked id) :: rest) }
    -- the failure of this query ends the call
    else
      let left : Server := { s with calls := s.calls.set call [] }
      left.drop ((Notice.fact fact id moment :: rest).map Notice.key) .queryFailed
  | some (.counted fact id moment booked :: rest) =>
    let left : Server := { s with calls := s.calls.set call rest }
    left.emit cfg answers (.fact fact, id) fun _ => .fact (factPayload fact id moment booked)
  | some (.changed id :: rest) =>
    let left : Server := { s with calls := s.calls.set call rest }
    left.emit cfg answers (.changed, id) fun r => .changed (changedPayload cfg r)
  | _ => s

/-- One turn of the loop of a delivery, which gives up waiting after `TIMEOUT_MS`. -/
def post (delivery : ℕ) (answer : Answer) (took : ℕ) : Server :=
  match s.deliveries[delivery]? with
  | none => s
  | some d =>
    let a : Retries.Attempt Answer := ⟨s.clock, s.clock + min took TIMEOUT_MS, answer⟩
    if Retries.mayTry Answer.isFinal RETRY_DELAYS_MS d.envelope.occurredAt d.attempts s.clock then
      { s with
        deliveries := s.deliveries.set delivery { d with attempts := d.attempts ++ [a] }
        wire := s.wire ++ [⟨d.envelope, a⟩] }
    else s

def step : Event → Server
  | .op op => s.transact op
  | .tell call answers => s.tell cfg call answers
  | .post delivery answer took => s.post delivery answer took
  | .wait ms => { s with clock := s.clock + ms }

def run (h : Hotel) (now : Moment) (events : List Event) : Server :=
  events.foldl (step cfg) (start h now)

end Server

/-! ## What one operation does to a reservation -/

theorem result_channelManaged (dto : UpdateReservationDto) (cur : Reservation) (stay : PartnerStayInfo)
    (now : Moment) (roomTypeId : RoomTypeId) (p : ℕ) (r : Reservation) :
    (dto.result cur stay now roomTypeId p r).channelManaged = r.channelManaged := by
  unfold UpdateReservationDto.result
  cases dto.fact cur with
  | none => rfl
  | some fact => cases fact <;> rfl

/-- **A reservation stays the partner's or the hotel's own, and what is written raises
its version.** -/
theorem row_step {h : Hotel} {id : ReservationId} {r : Reservation} (op : Op)
    (hr : h.reservations.find id = some r) : ∃ r', (KarsHotel.step h op).reservations.find id = some r' ∧
      r'.channelManaged = r.channelManaged ∧ (r' = r ∨ r.version < r'.version) := by
  obtain ⟨hmem, hid⟩ := Table.find_eq_some.mp hr
  obtain ⟨r', hmem', hid'⟩ := exists_row_step op hmem
  refine ⟨r', Table.find_eq_some.mpr ⟨hmem', hid'.trans hid⟩, ?_⟩
  have same : ∀ {cur : Reservation}, cur ∈ h.reservations → cur.id = r.id → cur = r :=
    fun hcur heq => Table.eq_of_key hcur hmem heq
  cases rowOrigin hmem' with
  | kept _ hkept =>
    obtain rfl := same hkept hid'
    exact ⟨rfl, Or.inl rfl⟩
  | created _ _ _ haccepts =>
    have hnone := Hotel.find_of_accepts haccepts
    rw [hid', Table.find_key hmem] at hnone
    cases hnone
  | @updated _ dto opts now cur p roomTypeId hcur =>
    have hcur' := (Table.find_eq_some.mp hcur).1
    obtain rfl := same hcur' ((dto.result_id cur opts.stay now roomTypeId p cur).symm.trans hid')
    refine ⟨result_channelManaged .., Or.inr ?_⟩
    rw [dto.result_version]
    exact Nat.lt_succ_self _
  | swapped hcur =>
    obtain rfl := same hcur hid'
    exact ⟨rfl, Or.inr (Nat.lt_succ_self _)⟩
  | cancelled hcur =>
    obtain rfl := same (Table.find_eq_some.mp hcur).1 hid'
    exact ⟨rfl, Or.inr (Nat.lt_succ_self _)⟩
  | @recorded _ fact moment now cur hcur =>
    have hcur' := (Table.find_eq_some.mp hcur).1
    have hid'' := hid'
    rw [Reservation.stamp_id] at hid''
    obtain rfl := same hcur' hid''
    refine ⟨by cases fact <;> rfl, Or.inr ?_⟩
    rw [Reservation.stamp_version]
    exact Nat.lt_succ_self _

/-! ## What every step keeps -/

/-- What an event says of its reservation, as it is now. -/
structure Tells (cfg : Config) (h : Hotel) (d : Delivery) : Prop where
  /-- It is about a reservation of the partner. -/
  partner : ∃ r, h.reservations.find d.reservationId = some r ∧ r.channelManaged = true
  /-- A change is told as it was when the version was the event's. -/
  changed : ∀ p, d.envelope.payload = .changed p → d.envelope.type = .changed ∧ p.id = d.reservationId ∧
    ∀ r, h.reservations.find d.reservationId = some r →
      p.version ≤ r.version ∧ (p.version = r.version → p = Server.changedPayload cfg r)
  fact : ∀ p, d.envelope.payload = .fact p → p.reservationId = d.reservationId ∧
    ∃ f : Fact, d.envelope.type = .fact f ∧ p.status = f.status

/-- Why a notice was dropped. -/
def Dropped.Justified (cfg : Config) (h : Hotel) (x : Dropped) : Prop :=
  match x.why with
  | .notConnected => ¬cfg.webhooks.Connected
  | .ownReservation => ∃ r, h.reservations.find x.key.2 = some r ∧ r.channelManaged = false
  | .queryFailed => True

/-- A change that left a version behind is still to be told, was dropped since, or is in an event of
that version or a later one. -/
def Settled (s : Server) (id : ReservationId) (version : ℕ) : Prop :=
  .changed id ∈ s.calls.flatten ∨ (∃ x ∈ s.dropped, x.key = (.changed, id) ∧ version ≤ x.version) ∨
    ∃ d ∈ s.deliveries, ∃ p, d.envelope.payload = .changed p ∧ p.id = id ∧ version ≤ p.version

/-- What holds after any steps, while the keys of `hand` have been taken from a call. -/
structure WebhookInv (cfg : Config) (hand : List Key) (s : Server) : Prop where
  /-- What is owed is waiting, in an event, or dropped, and nothing else is. -/
  accounts : (s.owed.map Prod.fst).Perm
    (hand ++ (s.calls.flatten.map Notice.key ++ (s.deliveries.map Delivery.key ++ s.dropped.map (·.key))))
  /-- What is owed was written before. -/
  written : ∀ x ∈ s.owed, ∃ r, s.hotel.reservations.find x.1.2 = some r ∧ x.2 ≤ r.version
  settled : ∀ x ∈ s.owed, x.1.1 = .changed → x.1 ∉ hand → Settled s x.1.2 x.2
  justified : ∀ x ∈ s.dropped, x.Justified cfg s.hotel
  tells : ∀ d ∈ s.deliveries, cfg.webhooks.Connected ∧ Tells cfg s.hotel d
  /-- Events of one version say the same. -/
  versions : ∀ d ∈ s.deliveries, ∀ e ∈ s.deliveries, ∀ p q, d.envelope.payload = .changed p →
    e.envelope.payload = .changed q → p.id = q.id → p.version = q.version → p = q
  /-- Events have numbers of their own. -/
  numbered : s.deliveries.map (·.envelope.id) = List.range s.deliveries.length
  /-- Every event is posted as the loop has it, and nothing else is posted. -/
  posted : ∀ d ∈ s.deliveries, (s.wire.filter fun p => decide (p.body.id = d.envelope.id)) =
    d.attempts.map (Post.mk d.envelope)
  known : ∀ p ∈ s.wire, ∃ d ∈ s.deliveries, p.body = d.envelope
  tried : ∀ d ∈ s.deliveries,
    Retries.Tried Answer.isFinal RETRY_DELAYS_MS d.envelope.occurredAt d.attempts

/-! ## Taking from a call -/

theorem flatten_perm_set {α : Type} {ls : List (List α)} {i : ℕ} {a b : List α}
    (h : ls[i]? = some (a ++ b)) : ls.flatten.Perm (a ++ (ls.set i b).flatten) := by
  induction ls generalizing i with
  | nil => cases h
  | cons l ls ih =>
    cases i with
    | zero =>
      obtain rfl : l = a ++ b := Option.some.inj h
      rw [List.set_cons_zero, List.flatten_cons, List.flatten_cons, List.append_assoc]
    | succ i =>
      rw [List.set_cons_succ, List.flatten_cons, List.flatten_cons]
      refine ((ih h).append_left l).trans ?_
      rw [← List.append_assoc, ← List.append_assoc]
      exact List.perm_append_comm.append_right _

section Steps

variable {cfg : Config} {s : Server} {hand : List Key}

theorem WebhookInv.take (hinv : WebhookInv cfg [] s) {call : ℕ} (ns rest : List Notice)
    (hcall : s.calls[call]? = some (ns ++ rest)) :
    WebhookInv cfg (ns.map Notice.key) { s with calls := s.calls.set call rest } where
  accounts := by
    have hflat := (flatten_perm_set hcall).map Notice.key
    rw [List.map_append] at hflat
    refine hinv.accounts.trans ?_
    have hrest := hflat.append_right (s.deliveries.map Delivery.key ++ s.dropped.map (·.key))
    rwa [List.append_assoc] at hrest
  written := hinv.written
  settled x hx hchanged hhand := by
    rcases hinv.settled x hx hchanged List.not_mem_nil with hwaits | hdropped
    · -- it waits in another place of the calls, or it was the one taken
      rcases List.mem_append.mp ((flatten_perm_set hcall).mem_iff.mp hwaits) with hmem | hmem
      · refine absurd (List.mem_map.mpr ⟨_, hmem, ?_⟩) hhand
        exact Prod.ext hchanged.symm rfl
      · exact Or.inl hmem
    · exact Or.inr hdropped
  justified := hinv.justified
  tells := hinv.tells
  versions := hinv.versions
  numbered := hinv.numbered
  posted := hinv.posted
  known := hinv.known
  tried := hinv.tried

theorem WebhookInv.putBack {call : ℕ} {rest : List Notice} (n : Notice)
    (hinv : WebhookInv cfg [n.key] { s with calls := s.calls.set call rest })
    (hcall : call < s.calls.length) (hfact : n.key.1 ≠ .changed) :
    WebhookInv cfg [] { s with calls := s.calls.set call (n :: rest) } := by
  have hflat : (s.calls.set call (n :: rest)).flatten.Perm (n :: (s.calls.set call rest).flatten) := by
    have hget : (s.calls.set call (n :: rest))[call]? = some ([n] ++ rest) :=
      List.getElem?_set_self hcall
    have hperm := flatten_perm_set hget
    rwa [List.set_set] at hperm
  refine ⟨?_, hinv.written, fun x hx hchanged _ => ?_, hinv.justified, hinv.tells, hinv.versions,
    hinv.numbered, hinv.posted, hinv.known, hinv.tried⟩
  · exact hinv.accounts.trans ((hflat.map Notice.key).symm.append_right _)
  · have hhand : x.1 ∉ [n.key] := by
      intro hx'
      exact hfact ((congrArg Prod.fst (List.mem_singleton.mp hx')).symm.trans hchanged)
    rcases hinv.settled x hx hchanged hhand with hwaits | hdropped
    · exact Or.inl (hflat.mem_iff.mpr (List.mem_cons_of_mem _ hwaits))
    · exact Or.inr hdropped

theorem WebhookInv.row_of_hand (hinv : WebhookInv cfg hand s) {key : Key} (hkey : key ∈ hand) :
    ∃ r, s.hotel.reservations.find key.2 = some r ∧ ∀ x ∈ s.owed, x.1.2 = key.2 → x.2 ≤ r.version := by
  obtain ⟨x, hx, rfl⟩ := List.mem_map.mp (hinv.accounts.mem_iff.mpr (List.mem_append_left _ hkey))
  obtain ⟨r, hr, _⟩ := hinv.written x hx
  refine ⟨r, hr, fun y hy hid => ?_⟩
  obtain ⟨r', hr', hle⟩ := hinv.written y hy
  rw [hid, hr] at hr'
  obtain rfl := Option.some.inj hr'
  exact hle

theorem version_eq {id : ReservationId} {r : Reservation} (hr : s.hotel.reservations.find id = some r) :
    s.version id = r.version := by
  rw [Server.version, Hotel.version, hr]
  rfl

theorem WebhookInv.drop (hinv : WebhookInv cfg hand s) (why : Reason)
    (hwhy : ∀ key ∈ hand, Dropped.Justified cfg s.hotel ⟨key, why, s.version key.2⟩) :
    WebhookInv cfg [] (s.drop hand why) where
  accounts := by
    refine hinv.accounts.trans ?_
    have hkeys : (s.drop hand why).dropped.map (·.key) = s.dropped.map (·.key) ++ hand := by
      show (s.dropped ++ hand.map _).map _ = _
      rw [List.map_append, List.map_map]
      exact congrArg _ (List.map_id _)
    rw [List.nil_append, hkeys]
    refine List.perm_append_comm.trans (List.Perm.of_eq ?_)
    simp only [List.append_assoc]
    rfl
  written := hinv.written
  settled x hx hchanged _ := by
    by_cases hhand : x.1 ∈ hand
    · obtain ⟨r, hr, hle⟩ := hinv.row_of_hand hhand
      refine Or.inr (Or.inl ⟨⟨x.1, why, s.version x.1.2⟩, ?_, Prod.ext hchanged rfl, ?_⟩)
      · exact List.mem_append_right _ (List.mem_map.mpr ⟨x.1, hhand, rfl⟩)
      · show x.2 ≤ s.version x.1.2
        rw [version_eq hr]
        exact hle x hx rfl
    · rcases hinv.settled x hx hchanged hhand with hwaits | ⟨y, hy, hkey⟩ | hevent
      · exact Or.inl hwaits
      · exact Or.inr (Or.inl ⟨y, List.mem_append_left _ hy, hkey⟩)
      · exact Or.inr (Or.inr hevent)
  justified x hx := by
    rcases List.mem_append.mp hx with hx | hx
    · exact hinv.justified x hx
    · obtain ⟨key, hkey, rfl⟩ := List.mem_map.mp hx
      exact hwhy key hkey
  tells := hinv.tells
  versions := hinv.versions
  numbered := hinv.numbered
  posted := hinv.posted
  known := hinv.known
  tried := hinv.tried

/-- An event is made of the key in the hand. -/
theorem WebhookInv.deliver {key : Key} {payload : Payload} {r : Reservation}
    (hinv : WebhookInv cfg [key] s) (hconnected : cfg.webhooks.Connected)
    (hr : s.hotel.reservations.find key.2 = some r) (hpartner : r.channelManaged = true)
    (hchanged : ∀ p, payload = .changed p → key.1 = .changed ∧ p = Server.changedPayload cfg r)
    (hfact : ∀ p, payload = .fact p → p.reservationId = key.2 ∧
      ∃ f : Fact, key.1 = .fact f ∧ p.status = f.status)
    (htells : key.1 = .changed → ∃ p, payload = .changed p) :
    WebhookInv cfg [] (s.deliver cfg key payload) := by
  have hid : r.id = key.2 := (Table.find_eq_some.mp hr).2
  have hwire : ∀ p ∈ s.wire, p.body.id ≠ s.deliveries.length := by
    intro p hp heq
    obtain ⟨d, hd, hbody⟩ := hinv.known p hp
    have hmem := List.mem_map_of_mem (f := fun d : Delivery => d.envelope.id) hd
    rw [hinv.numbered, List.mem_range, ← hbody, heq] at hmem
    exact absurd hmem (lt_irrefl _)
  -- an earlier event of the version that is told now tells the same
  have hsame : ∀ d ∈ s.deliveries, ∀ p, d.envelope.payload = .changed p → p.id = r.id →
      p.version = r.version → p = Server.changedPayload cfg r := by
    intro d hd p hp hpid hversion
    obtain ⟨_, hpd, htell⟩ := (hinv.tells d hd).2.changed p hp
    rw [← hpd, hpid, hid] at htell
    exact (htell r hr).2 hversion
  have tells : Tells cfg s.hotel
      ⟨⟨s.deliveries.length, key.1, cfg.slug, s.clock, payload⟩, key.2, []⟩ := by
    refine ⟨⟨r, hr, hpartner⟩, fun p hp => ?_, fun p hp => hfact p hp⟩
    obtain ⟨hkey, rfl⟩ := hchanged p hp
    refine ⟨hkey, hid, fun r' hr' => ?_⟩
    obtain rfl := Option.some.inj (hr.symm.trans hr')
    exact ⟨le_rfl, fun _ => rfl⟩
  refine ⟨?_, hinv.written, fun x hx hxchanged _ => ?_, hinv.justified, fun d hd => ?_,
    fun d hd e he p q hp hq hpq hversion => ?_, ?_, fun d hd => ?_, fun p hp => ?_, fun d hd => ?_⟩
  · refine hinv.accounts.trans ?_
    have hmiddle := (@List.perm_middle _ key
      (s.calls.flatten.map Notice.key ++ s.deliveries.map Delivery.key) (s.dropped.map (·.key))).symm
    have hkeys : (s.deliver cfg key payload).deliveries.map Delivery.key =
        s.deliveries.map Delivery.key ++ [key] := List.map_append
    rw [hkeys]
    simp only [List.append_assoc, List.nil_append, List.singleton_append] at hmiddle ⊢
    exact hmiddle
  · by_cases hkey : x.1 = key
    · -- the version of the row that was told is no older than what was owed
      obtain ⟨p, hp⟩ := htells (hkey ▸ hxchanged)
      obtain ⟨r', hr', hle⟩ := hinv.row_of_hand (List.mem_singleton_self key)
      obtain rfl := Option.some.inj (hr.symm.trans hr')
      refine Or.inr (Or.inr ⟨_, List.mem_append_right _ (List.mem_singleton_self _), p, hp, ?_, ?_⟩)
      · rw [(hchanged p hp).2, hkey]
        exact hid
      · rw [(hchanged p hp).2]
        exact hle x hx (by rw [hkey])
    · rcases hinv.settled x hx hxchanged (by simpa using hkey) with hwaits | hdropped | ⟨d, hd, hevent⟩
      · exact Or.inl hwaits
      · exact Or.inr (Or.inl hdropped)
      · exact Or.inr (Or.inr ⟨d, List.mem_append_left _ hd, hevent⟩)
  · rcases List.mem_append.mp hd with hd | hd
    · exact hinv.tells d hd
    · rw [List.mem_singleton.mp hd]
      exact ⟨hconnected, tells⟩
  · rcases List.mem_append.mp hd with hd | hd <;> rcases List.mem_append.mp he with he | he
    · exact hinv.versions d hd e he p q hp hq hpq hversion
    · rw [List.mem_singleton.mp he] at hq
      obtain ⟨_, rfl⟩ := hchanged q hq
      exact hsame d hd p hp hpq hversion
    · rw [List.mem_singleton.mp hd] at hp
      obtain ⟨_, rfl⟩ := hchanged p hp
      exact (hsame e he q hq hpq.symm hversion.symm).symm
    · rw [List.mem_singleton.mp hd] at hp
      rw [List.mem_singleton.mp he] at hq
      exact Payload.changed.inj (hp.symm.trans hq)
  · show (s.deliveries ++ [_]).map _ = List.range (s.deliveries ++ [_]).length
    rw [List.map_append, hinv.numbered, List.length_append, List.length_singleton, List.range_succ]
    rfl
  · rcases List.mem_append.mp hd with hd | hd
    · exact hinv.posted d hd
    · rw [List.mem_singleton.mp hd]
      exact List.filter_eq_nil_iff.mpr fun p hp => by simpa using hwire p hp
  · obtain ⟨d, hd, hbody⟩ := hinv.known p hp
    exact ⟨d, List.mem_append_left _ hd, hbody⟩
  · rcases List.mem_append.mp hd with hd | hd
    · exact hinv.tried d hd
    · rw [List.mem_singleton.mp hd]
      exact Retries.tried_nil

/-- An emission drops the key in the hand or makes an event of it. -/
theorem WebhookInv.emit {key : Key} {payload : Reservation → Payload} (hinv : WebhookInv cfg [key] s)
    (answers : Bool)
    (hchanged : ∀ r p, payload r = .changed p → key.1 = .changed ∧ p = Server.changedPayload cfg r)
    (hfact : ∀ r p, payload r = .fact p → p.reservationId = key.2 ∧
      ∃ f : Fact, key.1 = .fact f ∧ p.status = f.status)
    (htells : ∀ r, key.1 = .changed → ∃ p, payload r = .changed p) :
    WebhookInv cfg [] (s.emit cfg answers key payload) := by
  unfold Server.emit
  by_cases hconnected : cfg.webhooks.Connected
  · rw [if_neg (not_not_intro hconnected)]
    obtain ⟨r, hr, _⟩ := hinv.row_of_hand (List.mem_singleton_self key)
    simp only [hr]
    split_ifs with hanswers hpartner
    · exact hinv.drop _ fun _ _ => trivial
    · exact hinv.deliver hconnected hr hpartner (hchanged r) (hfact r) (htells r)
    · refine hinv.drop _ fun k hk => ?_
      rw [List.mem_singleton.mp hk]
      exact ⟨r, hr, Bool.eq_false_iff.mpr hpartner⟩
  · rw [if_pos hconnected]
    exact hinv.drop _ fun _ _ => hconnected

theorem factPayload_spec (fact : Fact) (id : ReservationId) (moment : Moment) (booked : ℕ) :
    (factPayload fact id moment booked).reservationId = id ∧
      ∃ f : Fact, WebhookType.fact fact = .fact f ∧ (factPayload fact id moment booked).status = f.status :=
  ⟨rfl, fact, rfl, rfl⟩

/-- **A call that goes on keeps the accounts.** -/
theorem WebhookInv.tell (hinv : WebhookInv cfg [] s) (call : ℕ) (answers : Bool) :
    WebhookInv cfg [] (s.tell cfg call answers) := by
  unfold Server.tell
  split
  · rename_i fact id moment rest hcall
    split_ifs
    · -- the guests are counted: the notice of the same fact
      exact (hinv.take [.fact fact id moment] rest hcall).putBack (.counted fact id _ _)
        (List.getElem?_eq_some_iff.mp hcall).1 nofun
    · have htaken := hinv.take (.fact fact id moment :: rest) [] (by rw [List.append_nil]; exact hcall)
      exact htaken.drop _ fun _ _ => trivial
  · rename_i fact id moment booked rest hcall
    refine (hinv.take [.counted fact id moment booked] rest hcall).emit answers
      (fun r p h => (by cases h)) (fun r p h => ?_) (fun r h => (by cases h))
    cases h
    exact factPayload_spec fact id moment booked
  · rename_i id rest hcall
    refine (hinv.take [.changed id] rest hcall).emit answers (fun r p h => ?_)
      (fun r p h => (by cases h)) (fun r _ => ⟨_, rfl⟩)
    cases h
    exact ⟨rfl, rfl⟩
  · exact hinv

/-! ## Transactions -/

/-- The reservations are still there, the partner's and the hotel's own, with later versions. -/
def Later (h h' : Hotel) : Prop := ∀ id r, h.reservations.find id = some r →
  ∃ r', h'.reservations.find id = some r' ∧ r'.channelManaged = r.channelManaged ∧
    (r' = r ∨ r.version < r'.version)

theorem Tells.later {h h' : Hotel} {d : Delivery} (ht : Tells cfg h d) (hlater : Later h h') :
    Tells cfg h' d := by
  obtain ⟨r, hr, hpartner⟩ := ht.partner
  obtain ⟨r', hr', hchannel, hversion⟩ := hlater _ r hr
  refine ⟨⟨r', hr', hchannel.trans hpartner⟩, fun p hp => ?_, ht.fact⟩
  obtain ⟨htype, hid, htell⟩ := ht.changed p hp
  obtain ⟨hle, hsame⟩ := htell r hr
  refine ⟨htype, hid, fun r'' hr'' => ?_⟩
  obtain rfl := Option.some.inj (hr'.symm.trans hr'')
  rcases hversion with rfl | hlt
  · exact ⟨hle, hsame⟩
  · exact ⟨hle.trans hlt.le, fun heq => absurd (heq ▸ hle) (not_le.mpr hlt)⟩

theorem WebhookInv.later (hinv : WebhookInv cfg hand s) {h' : Hotel} (hlater : Later s.hotel h') :
    WebhookInv cfg hand { s with hotel := h' } where
  accounts := hinv.accounts
  written x hx := by
    obtain ⟨r, hr, hle⟩ := hinv.written x hx
    obtain ⟨r', hr', _, rfl | hlt⟩ := hlater _ r hr
    · exact ⟨r', hr', hle⟩
    · exact ⟨r', hr', hle.trans hlt.le⟩
  settled := hinv.settled
  justified x hx := by
    have hold := hinv.justified x hx
    unfold Dropped.Justified at hold ⊢
    cases hwhy : x.why with
    | notConnected => simpa only [hwhy] using hold
    | ownReservation =>
      simp only [hwhy] at hold
      obtain ⟨r, hr, hown⟩ := hold
      obtain ⟨r', hr', hchannel, _⟩ := hlater _ r hr
      exact ⟨r', hr', hchannel.trans hown⟩
    | queryFailed => trivial
  tells d hd := (hinv.tells d hd).imp_right fun ht => ht.later hlater
  versions := hinv.versions
  numbered := hinv.numbered
  posted := hinv.posted
  known := hinv.known
  tried := hinv.tried

theorem WebhookInv.owe (hinv : WebhookInv cfg [] s) (ns : List Notice)
    (hrows : ∀ n ∈ ns, ∃ r, s.hotel.reservations.find n.key.2 = some r) :
    WebhookInv cfg [] { s with
      calls := s.calls ++ [ns]
      owed := s.owed ++ ns.map fun n => (n.key, s.version n.key.2) } where
  accounts := by
    have hkeys : (s.owed ++ ns.map fun n => (n.key, s.version n.key.2)).map Prod.fst =
        s.owed.map Prod.fst ++ ns.map Notice.key := by
      rw [List.map_append, List.map_map]
      rfl
    have hcalls : (s.calls ++ [ns]).flatten.map Notice.key =
        s.calls.flatten.map Notice.key ++ ns.map Notice.key := by
      rw [List.flatten_append, List.flatten_singleton, List.map_append]
    rw [hkeys]
    refine (hinv.accounts.append_right _).trans ?_
    rw [hcalls]
    simp only [List.nil_append, List.append_assoc]
    refine List.Perm.append_left _ ?_
    rw [← List.append_assoc]
    exact List.perm_append_comm
  written x hx := by
    rcases List.mem_append.mp hx with hx | hx
    · exact hinv.written x hx
    · obtain ⟨n, hn, rfl⟩ := List.mem_map.mp hx
      obtain ⟨r, hr⟩ := hrows n hn
      exact ⟨r, hr, le_of_eq (version_eq hr)⟩
  settled x hx hchanged hhand := by
    rcases List.mem_append.mp hx with hx | hx
    · rcases hinv.settled x hx hchanged hhand with hwaits | hdropped
      · refine Or.inl ?_
        rw [List.flatten_append]
        exact List.mem_append_left _ hwaits
      · exact Or.inr hdropped
    · obtain ⟨n, hn, rfl⟩ := List.mem_map.mp hx
      have hn' : n = .changed n.key.2 := by
        cases n with
        | changed id => rfl
        | fact | counted => cases hchanged
      refine Or.inl ?_
      rw [List.flatten_append, List.flatten_singleton, ← hn']
      exact List.mem_append_right _ hn
  justified := hinv.justified
  tells := hinv.tells
  versions := hinv.versions
  numbered := hinv.numbered
  posted := hinv.posted
  known := hinv.known
  tried := hinv.tried

/-- An operation that ends well has found the reservation it tells of. -/
theorem row_of_notice {h : Hotel} {op : Op} {r : Unit × Hotel} (hop : (op.body (E := Unit)).exec h = .ok r)
    {n : Notice} (hn : n ∈ notices h op) : ∃ r, h.reservations.find n.key.2 = some r := by
  cases op with
  | update id dto =>
    simp only [notices] at hn
    cases hcur : h.reservations.find id with
    | none => simp [hcur] at hn
    | some cur =>
      refine ⟨cur, ?_⟩
      rw [hcur] at hn
      rcases List.mem_append.mp hn with hn | hn
      · obtain ⟨fact, _, rfl⟩ := List.mem_map.mp hn
        exact hcur
      · rw [List.mem_singleton.mp hn]
        exact hcur
  | recordFact id fact moment now =>
    obtain ⟨ws, hdeed, _⟩ := Op.exec_deed hop
    cases hdeed with
    | recorded hs hcur =>
      subst hs
      rw [List.mem_singleton.mp hn]
      exact ⟨_, hcur⟩
  | create | swap | cancel | folios => cases hn

/-- **A transaction keeps the accounts.** -/
theorem WebhookInv.transact (hinv : WebhookInv cfg [] s) (op : Op) : WebhookInv cfg [] (s.transact op) := by
  unfold Server.transact
  split
  · exact hinv
  · rename_i hop
    have hlater := hinv.later (fun _ _ hr => row_step op hr)
    refine hlater.owe (notices s.hotel op) fun n hn => ?_
    obtain ⟨r, hr⟩ := row_of_notice hop hn
    obtain ⟨r', hr', _⟩ := row_step op hr
    exact ⟨r', hr'⟩

/-! ## Attempts -/

theorem map_set_eq {α β : Type} {f : α → β} {l : List α} {i : ℕ} {a b : α} (h : l[i]? = some a)
    (hf : f b = f a) : (l.set i b).map f = l.map f := by
  obtain ⟨hi, rfl⟩ := List.getElem?_eq_some_iff.mp h
  rw [List.map_set, hf, ← List.getElem_map f (h := by rwa [List.length_map]), List.set_getElem_self]

theorem WebhookInv.id_eq (hinv : WebhookInv cfg hand s) {i : ℕ} {d : Delivery}
    (hd : s.deliveries[i]? = some d) : d.envelope.id = i := by
  have hget := congrArg (·[i]?) hinv.numbered
  obtain ⟨hi, _⟩ := List.getElem?_eq_some_iff.mp hd
  simp only [List.getElem?_map, hd, Option.map_some, List.getElem?_range hi] at hget
  exact Option.some.inj hget

theorem mem_set_cases {α : Type} {l : List α} {i : ℕ} {b e : α} (hi : i < l.length) (he : e ∈ l.set i b) :
    e = b ∨ ∃ j, j ≠ i ∧ l[j]? = some e := by
  obtain ⟨j, hj⟩ := List.getElem?_of_mem he
  by_cases hji : j = i
  · subst hji
    rw [List.getElem?_set_self hi] at hj
    exact Or.inl (Option.some.inj hj).symm
  · rw [List.getElem?_set_ne (Ne.symm hji)] at hj
    exact Or.inr ⟨j, hji, hj⟩

section Attempt

variable {i : ℕ} {d : Delivery} {a : Retries.Attempt Answer}

/-- The delivery with one more attempt. -/
def Delivery.tried (d : Delivery) (a : Retries.Attempt Answer) : Delivery :=
  { d with attempts := d.attempts ++ [a] }

theorem exists_old (hd : s.deliveries[i]? = some d) {e : Delivery}
    (he : e ∈ s.deliveries.set i (d.tried a)) :
    ∃ e₀ ∈ s.deliveries, e.envelope = e₀.envelope ∧ e.reservationId = e₀.reservationId := by
  rcases mem_set_cases (List.getElem?_eq_some_iff.mp hd).1 he with rfl | ⟨j, _, hj⟩
  · exact ⟨d, List.mem_of_getElem? hd, rfl, rfl⟩
  · exact ⟨e, List.mem_of_getElem? hj, rfl, rfl⟩

theorem exists_new (hd : s.deliveries[i]? = some d) {e : Delivery} (he : e ∈ s.deliveries) :
    ∃ e' ∈ s.deliveries.set i (d.tried a), e'.envelope = e.envelope := by
  obtain ⟨j, hj⟩ := List.getElem?_of_mem he
  by_cases hji : j = i
  · subst hji
    obtain rfl := Option.some.inj (hd.symm.trans hj)
    have hset : (s.deliveries.set j (d.tried a))[j]? = some (d.tried a) :=
      List.getElem?_set_self (List.getElem?_eq_some_iff.mp hd).1
    exact ⟨d.tried a, List.mem_of_getElem? hset, rfl⟩
  · exact ⟨e, List.mem_of_getElem? ((List.getElem?_set_ne (Ne.symm hji)).trans hj), rfl⟩

theorem WebhookInv.tried_again (hinv : WebhookInv cfg [] s) (hd : s.deliveries[i]? = some d)
    (hmay : Retries.mayTry Answer.isFinal RETRY_DELAYS_MS d.envelope.occurredAt d.attempts a.began = true) :
    WebhookInv cfg [] { s with
      deliveries := s.deliveries.set i (d.tried a), wire := s.wire ++ [⟨d.envelope, a⟩] } where
  accounts := by
    have hkeys : (s.deliveries.set i (d.tried a)).map Delivery.key = s.deliveries.map Delivery.key :=
      map_set_eq hd rfl
    rw [hkeys]
    exact hinv.accounts
  written := hinv.written
  settled x hx hchanged hhand := by
    rcases hinv.settled x hx hchanged hhand with hwaits | hdropped | ⟨e, he, p, hp, hle⟩
    · exact Or.inl hwaits
    · exact Or.inr (Or.inl hdropped)
    · obtain ⟨e', he', henv⟩ := exists_new (a := a) hd he
      exact Or.inr (Or.inr ⟨e', he', p, henv ▸ hp, hle⟩)
  justified := hinv.justified
  tells e he := by
    obtain ⟨e₀, he₀, henv, hid⟩ := exists_old hd he
    obtain ⟨hconnected, ht⟩ := hinv.tells e₀ he₀
    refine ⟨hconnected, ?_, ?_, ?_⟩
    · rw [hid]
      exact ht.partner
    · rw [henv, hid]
      exact ht.changed
    · rw [henv, hid]
      exact ht.fact
  versions e he f hf p q hp hq := by
    obtain ⟨e₀, he₀, henv, _⟩ := exists_old hd he
    obtain ⟨f₀, hf₀, henv', _⟩ := exists_old hd hf
    exact hinv.versions e₀ he₀ f₀ hf₀ p q (henv ▸ hp) (henv' ▸ hq)
  numbered := by
    have hids : (s.deliveries.set i (d.tried a)).map (·.envelope.id) = s.deliveries.map (·.envelope.id) :=
      map_set_eq hd rfl
    rw [hids, List.length_set]
    exact hinv.numbered
  posted e he := by
    rw [List.filter_append]
    rcases mem_set_cases (List.getElem?_eq_some_iff.mp hd).1 he with rfl | ⟨j, hji, hj⟩
    · have hold := hinv.posted d (List.mem_of_getElem? hd)
      have hnew : [Post.mk d.envelope a].filter (fun p => decide (p.body.id = d.envelope.id)) =
          [Post.mk d.envelope a] := List.filter_cons_of_pos (decide_eq_true rfl)
      show s.wire.filter (fun p => decide (p.body.id = d.envelope.id)) ++
        [Post.mk d.envelope a].filter (fun p => decide (p.body.id = d.envelope.id)) =
        (d.attempts ++ [a]).map (Post.mk d.envelope)
      rw [hold, hnew, List.map_append]
      rfl
    · have hne : d.envelope.id ≠ e.envelope.id := by
        rw [hinv.id_eq hd, hinv.id_eq hj]
        exact hji.symm
      rw [hinv.posted e (List.mem_of_getElem? hj), List.filter_cons_of_neg (by simpa using hne),
        List.filter_nil, List.append_nil]
  known p hp := by
    rcases List.mem_append.mp hp with hp | hp
    · obtain ⟨e, he, hbody⟩ := hinv.known p hp
      obtain ⟨e', he', henv⟩ := exists_new (a := a) hd he
      exact ⟨e', he', hbody.trans henv.symm⟩
    · rw [List.mem_singleton.mp hp]
      obtain ⟨e', he', henv⟩ := exists_new (a := a) hd (List.mem_of_getElem? hd)
      exact ⟨e', he', henv.symm⟩
  tried e he := by
    rcases mem_set_cases (List.getElem?_eq_some_iff.mp hd).1 he with rfl | ⟨j, _, hj⟩
    · have htried := Retries.tried_attempt (hinv.tried d (List.mem_of_getElem? hd)) a
      rwa [Retries.attempt, if_pos hmay] at htried
    · exact hinv.tried e (List.mem_of_getElem? hj)

end Attempt

/-! ## Runs -/

/-- **What one step keeps.** -/
theorem WebhookInv.step (hinv : WebhookInv cfg [] s) (e : Event) : WebhookInv cfg [] (s.step cfg e) := by
  cases e with
  | op op => exact hinv.transact op
  | tell call answers => exact hinv.tell call answers
  | post delivery answer took =>
    show WebhookInv cfg [] (s.post delivery answer took)
    unfold Server.post
    split
    · exact hinv
    · rename_i d hd
      dsimp only
      split_ifs with hmay
      · exact hinv.tried_again (a := ⟨s.clock, s.clock + min took TIMEOUT_MS, answer⟩) hd hmay
      · exact hinv
  | wait ms =>
    exact ⟨hinv.accounts, hinv.written, hinv.settled, hinv.justified, hinv.tells, hinv.versions,
      hinv.numbered, hinv.posted, hinv.known, hinv.tried⟩

theorem webhookInv_start (h : Hotel) (now : Moment) : WebhookInv cfg [] (Server.start h now) where
  accounts := List.Perm.nil
  written _ hx := absurd hx List.not_mem_nil
  settled _ hx := absurd hx List.not_mem_nil
  justified _ hx := absurd hx List.not_mem_nil
  tells _ hd := absurd hd List.not_mem_nil
  versions _ hd := absurd hd List.not_mem_nil
  numbered := rfl
  posted _ hd := absurd hd List.not_mem_nil
  known _ hp := absurd hp List.not_mem_nil
  tried _ hd := absurd hd List.not_mem_nil

end Steps

/-- **The partner hears what is owed to it**, after any operations, calls that go on and attempts,
in any order: what an operation left to tell is waiting, in an event, or dropped for a reason, and
nothing else is; an event is of the partner's own reservation, and says of it what it was at its
version; what was changed is in an event of that version or a later one; and an event is posted as
the loop of its delivery has it. -/
theorem webhooks_run (cfg : Config) (h : Hotel) (now : Moment) (events : List Event) :
    WebhookInv cfg [] (Server.run cfg h now events) :=
  foldl_keeps_all (P := WebhookInv cfg []) (fun _ e hinv => hinv.step e) events (webhookInv_start h now)

end KarsHotel.PartnerWebhooks
