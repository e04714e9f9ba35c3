import KarsHotel.Connectivity.PartnerCalls
import KarsHotel.Lib.Lift
import KarsHotel.Reservations.Sessions

/-!
# A stay fact is recorded once

The buttons of the cabinet and the partner's `recordStayFact` on one reservation, in any
interleaving.

* `StayCall`: a call; `StayDeed`: what its transactions commit; `StayCall.obeys`;
* `FactRecorded`: a commit that records a fact; `StayLe`: what is recorded stays recorded;
* `onAdmittedStatus`: every UPDATE of the row finds the committed status one that the fact may be
  recorded from; `FactInv`, `factInv_reach`: what holds in every run under it;
* `FactsOnce`; **`factsOnce_run`**: it holds in every run under `onAdmittedStatus`;
  **`twoArrivals_replaced`**: and not in every run.
-/

namespace KarsHotel

/-! ## The calls -/

/-- A call on the stay of a reservation: a button of the cabinet, or the partner's fact. -/
inductive StayCall where
  | cabinet (fact : StayFact)
  | partner (tenant : TenantRow) (partnerId : PartnerId) (fact : StayFact) (moment : Option Moment)

namespace StayCall

def fact : StayCall → StayFact
  | cabinet fact => fact
  | partner _ _ fact _ => fact

/-- The moment a call records: the partner's, or that of the clock. -/
def moment (now : Moment) : StayCall → Moment
  | cabinet _ => now
  | partner _ _ _ moment => moment.getD now

def session (id : ReservationId) : StayCall → Prog connectDb Failure (Option StayFacts)
  | cabinet fact => .ask fun env => do
    service (recordFact id fact.fact none env.now)
    .ret none
  | partner tenant partnerId fact moment => do
    let facts ← recordStayFact tenant id partnerId fact moment
    .ret (some facts)

end StayCall

/-! ## What a call commits -/

/-- The reservation store within that of the calls. -/
abbrev hotelLift : Lift (hotelDb Unit) connectDb := (hotelPart fun _ => ()).toLift

def factWrites (id : ReservationId) (fact : StayFact) (roomId : RoomId) (moment : Moment) : Writes :=
  (.reservation id, fun h => h.updateReservation id fun r => r.withStatus fact.fact.status) ::
    stampWrites id roomId moment fact.fact

/-- What the open transaction has seen of the reservation store before its first write. -/
def SawHotel (l : Local connectDb) (q : HotelQuery) (h : Hotel) : Prop :=
  ∃ s, hotelLift.read s = h ∧ l.Saw (hotelLift.query q) s

/-- What a transaction of a call commits: nothing, or its fact at a moment of its own, found
admissible. -/
inductive StayDeed (id : ReservationId) (call : StayCall) (l : Local connectDb) : Prop
  | quiet (hp : l.pending = [])
  | recorded (env : CallEnv) (henv : Event.ask env ∈ l.hist) (roomId : RoomId)
      (status : ReservationStatus) (hadm : FactAdmitted (SawHotel l) id call.fact.fact status)
      (hp : l.pending =
        (factWrites id call.fact roomId (call.moment env.now)).map hotelLift.mapWrite)

def stayRules (id : ReservationId) (call : StayCall) : Rules connectDb :=
  { Rules.any with commit := StayDeed id call }

section Obeys

variable {id : ReservationId} {call : StayCall} {l : Local connectDb}

theorem service_recordFact_keeps (call : StayCall) (hl : l.pending = []) {env : CallEnv}
    (henv : Event.ask env ∈ l.hist) {moment : Option Moment}
    (hm : moment.getD env.now = call.moment env.now) :
    (service (recordFact id call.fact.fact moment env.now)).Keeps (stayRules id call)
      (fun l' _ => l'.pending = []) (fun _ _ => True) l := by
  rw [service, Prog.transact_within, Tx.within_eq_lift, Tx.keeps_transact]
  have hk := (Op.recordFact id call.fact.fact moment env.now).keeps (E := Unit)
    (Recall.saw (opRules (fun _ => True) _)) (fun _ _ _ _ h => h) (l := .init) rfl
  refine (hk.lift .start (fun _ _ _ _ _ => trivial) fun _ _ _ _ _ _ _ _ => trivial).mono
    (fun l' _ hd => ⟨?_, rfl⟩) fun _ _ _ => ⟨trivial, trivial⟩
  obtain ⟨l₁, hf, hd⟩ := hd
  have hp := hf.pending hl
  generalize hpend : l₁.pending = ws at hd hp
  cases hd with
  | @recorded _ _ _ _ s cur hs hcur hadm =>
    rw [hm] at hp
    exact .recorded env (hf.hist henv) cur.roomId cur.status (hadm.mono fun _ _ => hf.saw hl) hp

theorem getReservation_keeps {α : Type} (hl : l.pending = []) (tenant : TenantRow)
    (partnerId : PartnerId) {g : ReservationView → Prog connectDb Failure α}
    {Q : Local connectDb → α → Prop}
    (hg : ∀ l' r, l'.pending = [] → (∀ e ∈ l.hist, e ∈ l'.hist) →
      (g r).Keeps (stayRules id call) Q (fun _ _ => True) l') :
    (getReservation tenant id partnerId >>= g).Keeps (stayRules id call) Q (fun _ _ => True) l := by
  rw [Prog.keeps_bind, getReservation, Prog.keeps_bind, readReservation, Tx.keeps_transact]
  intro s _
  refine ⟨.quiet hl, ?_⟩
  cases (s.hotel.reservations.find id).map fun r => (r, s.numberOf r.roomId) with
  | none => trivial
  | some p =>
    dsimp only
    by_cases hforeign : !p.1.channelManaged ∨ p.1.partnerId ≠ some partnerId
    · rw [if_pos hforeign]
      trivial
    · rw [if_neg hforeign]
      exact hg _ _ rfl fun e he => List.mem_cons_of_mem _ (List.mem_cons_of_mem _ he)

theorem getFacts_keeps (hl : l.pending = []) (tenant : TenantRow) (partnerId : PartnerId) :
    (getFacts tenant id partnerId).Keeps (stayRules id call) (fun _ _ => True) (fun _ _ => True) l :=
  getReservation_keeps hl tenant partnerId fun _ _ _ _ => trivial

/-- **Every call keeps its rules.** -/
theorem StayCall.obeys (id : ReservationId) (call : StayCall) :
    Obeys (stayRules id call) (fun _ _ => True) .init (call.session id) := by
  unfold Obeys
  cases call with
  | cabinet fact =>
    intro env
    dsimp only
    rw [Prog.keeps_bind]
    refine Prog.Keeps.mono (service_recordFact_keeps (.cabinet fact) rfl
      List.mem_cons_self rfl) (fun _ _ _ => trivial) fun _ _ _ => trivial
  | partner tenant partnerId fact moment =>
    rw [StayCall.session, Prog.keeps_bind, recordStayFact]
    refine getReservation_keeps rfl tenant partnerId fun l r hl _ env => ?_
    dsimp only
    have hfacts : ∀ l' : Local connectDb, l'.pending = [] →
        (getFacts tenant id partnerId).Keeps (stayRules id (.partner tenant partnerId fact moment))
          (fun _ _ => True) (fun _ _ => True) l' :=
      fun l' hl' => getFacts_keeps hl' tenant partnerId
    split_ifs with hfuture hdone
    · trivial
    · exact (hfacts (l.ask env) hl).mono (fun _ _ _ => trivial) fun _ _ _ => trivial
    · rw [Prog.keeps_bind]
      refine (service_recordFact_keeps (.partner tenant partnerId fact moment)
        (l := l.ask env) hl List.mem_cons_self rfl).mono (fun l' _ hl' => ?_) fun _ _ _ => trivial
      exact (hfacts l' hl').mono (fun _ _ _ => trivial) fun _ _ _ => trivial

end Obeys

/-! ## What a commit does -/

/-- The stored moment of a fact. -/
def Reservation.momentOf (r : Reservation) : StayFact → Option Moment
  | .checkedIn => r.checkedInAt
  | .checkedOut => r.checkedOutAt

/-- The reservation `id` of a store. -/
def ConnectStore.stay (s : ConnectStore) (id : ReservationId) : Option Reservation :=
  s.hotel.reservations.find id

/-- The reservation is there, in a status from which the fact may be recorded. -/
def Admits (id : ReservationId) (fact : StayFact) (s : ConnectStore) : Prop :=
  ∃ r, s.stay id = some r ∧ r.status ∈ (FACTS fact.fact).allowed

/-- The fact is recorded at a moment: from an allowed status, by the status, the version and the
moment of the row. -/
structure FactRecorded (id : ReservationId) (fact : StayFact) (moment : Moment)
    (s t : ConnectStore) : Prop where
  allowed : Admits id fact s
  row : t.stay id =
    (s.stay id).map fun r => (r.withStatus fact.fact.status).stamp moment fact.fact

/-- What is recorded of the reservation stays recorded, and the reservation stays its partner's. -/
def StayLe (id : ReservationId) (s t : ConnectStore) : Prop :=
  ∀ r, s.stay id = some r → ∃ r', t.stay id = some r' ∧ r'.channelManaged = r.channelManaged ∧
    r'.partnerId = r.partnerId ∧ ∀ fact : StayFact, r.status ∈ fact.done →
      r'.status ∈ fact.done ∧ r'.momentOf fact = r.momentOf fact

section Effect

variable {id : ReservationId} {fact : StayFact} {moment : Moment} {s t u : ConnectStore}

theorem StayLe.refl (id : ReservationId) (s : ConnectStore) : StayLe id s s :=
  fun r hr => ⟨r, hr, rfl, rfl, fun _ h => ⟨h, rfl⟩⟩

theorem StayLe.trans (a : StayLe id s t) (b : StayLe id t u) : StayLe id s u := by
  intro r hr
  obtain ⟨r', hr', hm, hp, hd⟩ := a r hr
  obtain ⟨r'', hr'', hm', hp', hd'⟩ := b r' hr'
  refine ⟨r'', hr'', hm'.trans hm, hp'.trans hp, fun fact h => ?_⟩
  obtain ⟨hdone, hmoment⟩ := hd fact h
  obtain ⟨hdone', hmoment'⟩ := hd' fact hdone
  exact ⟨hdone', hmoment'.trans hmoment⟩

/-- A fact that may still be recorded is not recorded, and recording a fact undoes none. -/
theorem StayFact.done_of_allowed {fact other : StayFact} {status : ReservationStatus}
    (ha : status ∈ (FACTS fact.fact).allowed) (hd : status ∈ other.done) :
    fact ≠ other ∧ fact.fact.status ∈ other.done := by
  revert ha hd
  cases fact <;> cases other <;> cases status <;> decide

theorem FactRecorded.le (h : FactRecorded id fact moment s t) : StayLe id s t := by
  intro r hr
  have hrow := h.row
  rw [hr] at hrow
  refine ⟨_, hrow, ?_, ?_, fun other hdone => ?_⟩
  · cases fact <;> rfl
  · cases fact <;> rfl
  · obtain ⟨r₀, hr₀, hallowed⟩ := h.allowed
    rw [hr] at hr₀
    cases hr₀
    obtain ⟨hne, hstatus⟩ := StayFact.done_of_allowed hallowed hdone
    refine ⟨?_, ?_⟩
    · cases fact <;> exact hstatus
    · cases fact <;> cases other <;> first | rfl | exact absurd rfl hne

theorem FactRecorded.done (h : FactRecorded id fact moment s t) {r : Reservation}
    (hr : t.stay id = some r) : r.status ∈ fact.done ∧ r.momentOf fact = some moment := by
  have hrow := h.row
  rw [hr] at hrow
  obtain ⟨r₀, -, rfl⟩ := Option.map_eq_some_iff.mp hrow.symm
  cases fact <;> exact ⟨List.mem_cons_self, rfl⟩

theorem FactRecorded.not_again {fact' : StayFact} {moment' : Moment} {v : ConnectStore}
    (h : FactRecorded id fact moment s t) (hle : StayLe id t u)
    (h' : FactRecorded id fact' moment' u v) : fact ≠ fact' := by
  obtain ⟨r₀, hr₀, -⟩ := h.allowed
  have hrow := h.row
  rw [hr₀] at hrow
  obtain ⟨r, hr, -, -, hd⟩ := hle _ hrow
  obtain ⟨r', hr', hallowed⟩ := h'.allowed
  rw [hr] at hr'
  cases hr'
  exact (StayFact.done_of_allowed hallowed (hd fact (h.done hrow).1).1).1.symm

theorem get_foldl_mapWrite (ws : Writes) (s : ConnectStore) :
    ((ws.map hotelLift.mapWrite).foldl (fun s w => w.2 s) s).hotel = Writes.apply ws s.hotel := by
  induction ws generalizing s with
  | nil => rfl
  | cons w ws ih => exact ih _

theorem stay_factWrites {l : Local connectDb} {roomId : RoomId}
    (hp : l.pending = (factWrites id fact roomId moment).map hotelLift.mapWrite) :
    (l.view s).stay id =
      (s.stay id).map fun r => (r.withStatus fact.fact.status).stamp moment fact.fact := by
  have hrows := (rewrites_stamp s.hotel id (·.withStatus fact.fact.status) (fun _ => rfl)
    roomId moment fact.fact).rows
  rw [ConnectStore.stay, Local.view, hp, get_foldl_mapWrite]
  show (Writes.apply (stampWrites id roomId _ _) _).reservations.find id = _
  rw [hrows, Table.find_modify_self]
  rfl

/-- **What a commit does**, over a store that admits the fact. -/
theorem StayDeed.effect {call : StayCall} {l : Local connectDb} (hd : StayDeed id call l)
    (ha : l.pending ≠ [] → Admits id call.fact s) : l.view s = s ∨ ∃ env, Event.ask env ∈ l.hist ∧
      FactRecorded id call.fact (call.moment env.now) s (l.view s) := by
  cases hd with
  | quiet hp =>
    left
    rw [Local.view, hp]
    rfl
  | recorded env henv roomId status hadm hp =>
    right
    exact ⟨env, henv, ha (by rw [hp]; exact List.cons_ne_nil _ _), stay_factWrites hp⟩

end Effect

/-! ## Every interleaving -/

/-- The calls before their first statement. -/
abbrev startStay {ι : Type} (id : ReservationId) (calls : ι → StayCall) (h : ConnectStore) :
    Sys connectDb Failure (Option StayFacts) ι :=
  .init h fun i => (calls i).session id

/-- Every UPDATE of the reservation finds its committed status one from which the fact may be
recorded. -/
def onAdmittedStatus {ι : Type} (id : ReservationId) (calls : ι → StayCall) :
    Guard connectDb Failure (Option StayFacts) ι where
  write S i r := r = .hotel (.reservation id) → Admits id (calls i).fact S.store
  commit _ _ := True

/-- The commit records its call's fact, at a moment of the call. -/
def Commit.Records {ι : Type} (id : ReservationId) (calls : ι → StayCall)
    (S : Sys connectDb Failure (Option StayFacts) ι) (c : Commit connectDb ι) : Prop :=
  ∃ env, Event.ask env ∈ (S.sessions c.who).loc.hist ∧
    FactRecorded id (calls c.who).fact ((calls c.who).moment env.now) c.before c.after

section Reach

variable {ι : Type} {id : ReservationId} {calls : ι → StayCall} {h : ConnectStore}
  {S S' S₁ : Sys connectDb Failure (Option StayFacts) ι}

/-- What holds in every run under `onAdmittedStatus`: a session that has written the reservation
finds it in an admitted status still, and every commit records a fact or changes nothing. -/
structure FactInv (id : ReservationId) (calls : ι → StayCall)
    (S : Sys connectDb Failure (Option StayFacts) ι) : Prop where
  rows : S.RowsExclusive
  held : ∀ i, ∀ w ∈ (S.sessions i).loc.pending, w.1 = .hotel (.reservation id) →
    Admits id (calls i).fact S.store
  effect : ∀ c ∈ S.log, c.after = c.before ∨ c.Records id calls S
  stays : ∀ c ∈ S.log, StayLe id c.after S.store
  order : S.log.Pairwise fun c c' => StayLe id c'.after c.before

/-- The discipline of every call. -/
abbrev StayDisciplined (id : ReservationId) (calls : ι → StayCall)
    (S : Sys connectDb Failure (Option StayFacts) ι) : Prop :=
  AllObey (fun i => stayRules id (calls i)) (fun _ _ _ => True) S

/-- A call that commits anything has written the reservation. -/
theorem StayDeed.writes {call : StayCall} {l : Local connectDb} (hd : StayDeed id call l)
    (hne : l.pending ≠ []) : ∃ w ∈ l.pending, w.1 = .hotel (.reservation id) := by
  cases hd with
  | quiet hp => exact absurd hp hne
  | recorded env henv roomId status hadm hp =>
    rw [hp]
    exact ⟨_, List.mem_cons_self, rfl⟩

variable [DecidableEq ι]

theorem factInv_reach (hr : Reach (onAdmittedStatus id calls) (startStay id calls h) S) :
    FactInv id calls S ∧ StayDisciplined id calls S := by
  refine Reach.obeys (I := FactInv id calls) ?_ (fun i => (calls i).obeys id)
    (fun _ _ _ _ => trivial) (fun S S' hv ho hs => ?_) hr
  · refine ⟨fun i j w hw => ?_, fun i w hw => ?_, nofun, nofun, .nil⟩
    · exact absurd hw List.not_mem_nil
    · exact absurd hw List.not_mem_nil
  have hrows := hv.rows.step hs
  -- what was asked is not forgotten
  have hasked : ∀ c ∈ S.log, c.after = c.before ∨ c.Records id calls S' := by
    intro c hc
    refine (hv.effect c hc).imp_right fun hrec => ?_
    obtain ⟨env, henv, hrec⟩ := hrec
    exact ⟨env, hs.hist _ henv, hrec⟩
  cases hs.effect with
  | quiet hst hl hp =>
    refine ⟨hrows, fun i w hw hrow => ?_, ?_, ?_, ?_⟩
    · rw [hst]
      exact hv.held i w (hp i w hw) hrow
    · rw [hl]; exact hasked
    · rw [hl, hst]; exact hv.stays
    · rw [hl]; exact hv.order
  | write i r f k hprog hfree hg hst hl hp =>
    refine ⟨hrows, fun j w hw hrow => ?_, ?_, ?_, ?_⟩
    · rw [hst]
      rcases hp j w hw with hw | ⟨rfl, rfl⟩
      · exact hv.held j w hw hrow
      · exact hg hrow
    · rw [hl]; exact hasked
    · rw [hl, hst]; exact hv.stays
    · rw [hl]; exact hv.order
  | commit i k hprog hg hst hl hp =>
    have hd : StayDeed id (calls i) (S.sessions i).loc := ho.commit hprog
    have hadm : (S.sessions i).loc.pending ≠ [] → Admits id (calls i).fact S.store := by
      intro hne
      obtain ⟨w, hw, hrow⟩ := hd.writes hne
      exact hv.held i w hw hrow
    have heffect := hd.effect hadm
    have hle : StayLe id S.store (S.view i) := by
      rcases heffect with hv | ⟨env, -, hrec⟩
      · rw [Sys.view, hv]
        exact .refl id _
      · exact hrec.le
    refine ⟨hrows, fun j w hw hrow => ?_, ?_, ?_, ?_⟩
    · obtain ⟨hji, hw⟩ := hp j w hw
      -- the row is closed to `i`, which then has changed nothing
      have hnone : (S.sessions i).loc.pending = [] := by
        by_contra hne
        obtain ⟨w', hw', hrow'⟩ := hd.writes hne
        exact hji (hv.rows j i w hw w' hw' (hrow.trans hrow'.symm))
      rw [hst, Sys.view, Local.view, hnone]
      exact hv.held j w hw hrow
    · rw [hl]
      refine List.forall_mem_cons.mpr ⟨?_, hasked⟩
      refine heffect.imp_right fun hrec => ?_
      obtain ⟨env, henv, hrec⟩ := hrec
      exact ⟨env, hs.hist i henv, hrec⟩
    · rw [hl, hst]
      exact List.forall_mem_cons.mpr ⟨.refl id _, fun c hc => (hv.stays c hc).trans hle⟩
    · rw [hl]
      exact List.pairwise_cons.mpr ⟨hv.stays, hv.order⟩

end Reach

/-! ## Repeats -/

def StayFacts.momentOf (f : StayFacts) : StayFact → Option Moment
  | .checkedIn => f.checkedInAt
  | .checkedOut => f.checkedOutAt

def ReservationView.momentOf (r : ReservationView) : StayFact → Option Moment
  | .checkedIn => r.checkedInAt
  | .checkedOut => r.checkedOutAt

/-- The partner's reservation has the fact recorded at this moment. -/
def HasFact (id : ReservationId) (partnerId : PartnerId) (fact : StayFact)
    (moment : Option Moment) (s : ConnectStore) : Prop :=
  ∃ r, s.stay id = some r ∧ r.channelManaged = true ∧ r.partnerId = some partnerId ∧
    r.status ∈ fact.done ∧ r.momentOf fact = moment

/-- A repeat sees the fact recorded, and writes nothing. -/
def repeatRules (id : ReservationId) (partnerId : PartnerId) (fact : StayFact)
    (moment : Option Moment) : Rules connectDb :=
  { Rules.any with
    view := fun _ s => HasFact id partnerId fact moment s
    write := fun _ _ _ _ => False }

/-- How a repeat ends: with the recorded moment, unless its own moment is in the future. -/
def repeatDone (fact : StayFact) (recorded sent : Option Moment) (l : Local connectDb) :
    Except Failure (Option StayFacts) → Prop
  | .ok answer => ∃ facts, answer = some facts ∧ facts.momentOf fact = recorded
  | .error x => x = factInFuture ∧ ∃ t env, sent = some t ∧ Event.ask env ∈ l.hist ∧
      env.now + factTolerance < t

section Repeat

variable {id : ReservationId} {tenant : TenantRow} {partnerId : PartnerId} {fact : StayFact}
  {recorded sent : Option Moment} {s t : ConnectStore}

theorem HasFact.mono (h : HasFact id partnerId fact recorded s) (hle : StayLe id s t) :
    HasFact id partnerId fact recorded t := by
  obtain ⟨r, hr, hm, hp, hdone, hmoment⟩ := h
  obtain ⟨r', hr', hm', hp', hd⟩ := hle r hr
  exact ⟨r', hr', hm'.trans hm, hp'.trans hp, (hd fact hdone).1, (hd fact hdone).2.trans hmoment⟩

theorem repeat_getReservation {α : Type} {l : Local connectDb}
    {g : ReservationView → Prog connectDb Failure α} {Q : Local connectDb → α → Prop}
    {X : Local connectDb → Failure → Prop}
    (hg : ∀ l' r, r.status ∈ fact.done → r.momentOf fact = recorded →
      (g r).Keeps (repeatRules id partnerId fact recorded) Q X l') :
    (getReservation tenant id partnerId >>= g).Keeps
      (repeatRules id partnerId fact recorded) Q X l := by
  rw [Prog.keeps_bind, getReservation, Prog.keeps_bind, readReservation, Tx.keeps_transact]
  intro s hs
  obtain ⟨r, hr, hm, hp, hdone, hmoment⟩ := hs
  refine ⟨trivial, ?_⟩
  have hfind : s.hotel.reservations.find id = some r := hr
  rw [hfind]
  have hown : ¬(!r.channelManaged ∨ r.partnerId ≠ some partnerId) := by simp [hm, hp]
  simp only [Option.map_some, if_neg hown]
  refine hg _ _ hdone ?_
  cases fact <;> exact hmoment

theorem repeat_getFacts {l : Local connectDb} :
    (getFacts tenant id partnerId).Keeps (repeatRules id partnerId fact recorded)
      (fun _ facts => facts.momentOf fact = recorded) (fun _ _ => False) l := by
  refine repeat_getReservation fun l' r hdone hmoment => ?_
  show StayFacts.momentOf _ fact = recorded
  cases fact with
  | checkedIn =>
    have harrived : r.status = .checkedIn ∨ r.status = .checkedOut := by
      simpa [StayFact.done] using hdone
    simpa [StayFacts.momentOf, ReservationView.momentOf, harrived] using hmoment
  | checkedOut =>
    have hout : r.status = .checkedOut := by simpa [StayFact.done] using hdone
    simpa [StayFacts.momentOf, ReservationView.momentOf, hout] using hmoment

/-- **A repeat writes nothing and answers what is recorded.** -/
theorem repeat_obeys :
    Obeys (repeatRules id partnerId fact recorded) (repeatDone fact recorded sent) .init
      ((StayCall.partner tenant partnerId fact sent).session id) := by
  rw [Obeys, StayCall.session, Prog.keeps_bind, recordStayFact]
  refine repeat_getReservation fun l r hdone _ env => ?_
  dsimp only
  by_cases hfuture : sent.getD env.now > env.now + factTolerance
  · rw [if_pos hfuture]
    refine ⟨rfl, ?_⟩
    cases sent with
    | none =>
      exact absurd hfuture (not_lt.mpr (le_add_of_nonneg_right (by decide)))
    | some t => exact ⟨t, env, rfl, List.mem_cons_self, hfuture⟩
  · rw [if_neg hfuture, if_neg (not_not_intro hdone)]
    exact repeat_getFacts.mono (fun l' facts hf => ⟨facts, rfl, hf⟩) fun _ _ hx => hx.elim

end Repeat

/-! ## The rule -/

/-- **A stay fact is recorded once**, by the calls `calls` on the reservation `id`, in a state `S`
after the state `S₁`. -/
structure FactsOnce {ι : Type} (id : ReservationId) (calls : ι → StayCall)
    (S₁ S : Sys connectDb Failure (Option StayFacts) ι) : Prop where
  /-- A commit changes nothing, or records its call's fact: from an allowed status, with the
  version one higher and a moment of the call. -/
  each : ∀ c ∈ S.log, c.after = c.before ∨ c.Records id calls S
  /-- Each fact is recorded once. -/
  once : S.log.Pairwise fun c c' => c.Records id calls S → c'.Records id calls S →
    (calls c.who).fact ≠ (calls c'.who).fact
  /-- A recorded fact stays, with its moment. -/
  kept : ∀ c ∈ S.log, ∀ moment, FactRecorded id (calls c.who).fact moment c.before c.after →
    ∀ r, S.store.stay id = some r →
      r.status ∈ (calls c.who).fact.done ∧ r.momentOf (calls c.who).fact = some moment
  /-- A partner's repeat of a fact recorded before it started changes nothing, and answers with the
  recorded moment, unless it sends a moment in the future. -/
  repeats : ∀ i tenant partnerId fact sent recorded,
    calls i = .partner tenant partnerId fact sent → (S₁.sessions i).loc.hist = [] →
    HasFact id partnerId fact recorded S₁.store →
      (∀ c ∈ S.log, c.who = i → c.after = c.before) ∧
      (∀ r f k, (S.sessions i).prog ≠ .write r f k) ∧
      (∀ a, (S.sessions i).prog = .ret a → repeatDone fact recorded sent (S.sessions i).loc (.ok a)) ∧
      ∀ x, (S.sessions i).prog = .throw x →
        repeatDone fact recorded sent (S.sessions i).loc (.error x)

section Rule

variable {ι : Type} [DecidableEq ι] {id : ReservationId} {calls : ι → StayCall}
  {h : ConnectStore} {S S₁ : Sys connectDb Failure (Option StayFacts) ι}

theorem repeat_reach (hr₁ : Reach (onAdmittedStatus id calls) (startStay id calls h) S₁)
    (hr : Reach (onAdmittedStatus id calls) S₁ S) {i : ι} {tenant : TenantRow}
    {partnerId : PartnerId} {fact : StayFact} {sent recorded : Option Moment}
    (hi : calls i = .partner tenant partnerId fact sent) (hnew : (S₁.sessions i).loc.hist = [])
    (hfact : HasFact id partnerId fact recorded S₁.store) :
    (∀ c ∈ S.log, c.who = i → c.after = c.before) ∧
      (repeatRules id partnerId fact recorded).view (S.sessions i).loc (S.view i) ∧
      Obeys (repeatRules id partnerId fact recorded) (repeatDone fact recorded sent)
        (S.sessions i).loc (S.sessions i).prog := by
  obtain ⟨hstart, hnone⟩ := hr₁.unbegun hnew
  let I : Sys connectDb Failure (Option StayFacts) ι → Prop := fun S =>
    Reach (onAdmittedStatus id calls) (startStay id calls h) S ∧
      HasFact id partnerId fact recorded S.store ∧ (S.sessions i).loc.pending = [] ∧
      ∀ c ∈ S.log, c.who = i → c.after = c.before
  have hI : I S₁ := by
    refine ⟨hr₁, hfact, ?_, fun c hc hw => absurd hw (hnone c hc)⟩
    rw [hstart]
    rfl
  have hobeys : Obeys (repeatRules id partnerId fact recorded) (repeatDone fact recorded sent)
      (S₁.sessions i).loc (S₁.sessions i).prog := by
    rw [hstart, hi]
    exact repeat_obeys
  have hview : ∀ T, I T → HasFact id partnerId fact recorded (T.view i) := by
    intro T hT
    obtain ⟨-, hT, hpending, -⟩ := hT
    rw [Sys.view, Local.view, hpending]
    exact hT
  have hend := Reach.obeys_one (i := i) (I := I) hI hobeys hview ?_ hr
  · exact ⟨hend.1.2.2.2, hview S hend.1, hend.2⟩
  · intro T T' hT ho hs
    obtain ⟨hreach, hT, hpending, hlog⟩ := hT
    have hreach' := hreach.step hs
    cases hs.effect with
    | quiet hst hl hp =>
      refine ⟨hreach', by rwa [hst], List.eq_nil_iff_forall_not_mem.mpr fun w hw => ?_, by rwa [hl]⟩
      have := hp i w hw
      rw [hpending] at this
      exact absurd this List.not_mem_nil
    | write j r f k hprog hfree hg hst hl hp =>
      refine ⟨hreach', by rwa [hst], List.eq_nil_iff_forall_not_mem.mpr fun w hw => ?_, by rwa [hl]⟩
      rcases hp i w hw with hw | ⟨rfl, -⟩
      · rw [hpending] at hw
        exact absurd hw List.not_mem_nil
      · -- a repeat writes nothing
        rw [hprog] at ho
        exact (ho (T.view i) (hview T ⟨hreach, hT, hpending, hlog⟩)).1
    | commit j k hprog hg hst hl hp =>
      have hle : StayLe id T.store (T.view j) := by
        have hv := (factInv_reach hreach').1.effect ⟨j, T.store, T.view j⟩
          (by rw [hl]; exact List.mem_cons_self)
        rcases hv with hv | ⟨env, -, hrec⟩
        · have hsame : T.view j = T.store := hv
          rw [hsame]
          exact .refl id _
        · exact hrec.le
      refine ⟨hreach', ?_, List.eq_nil_iff_forall_not_mem.mpr fun w hw => ?_, ?_⟩
      · rw [hst]
        exact hT.mono hle
      · have := (hp i w hw).2
        rw [hpending] at this
        exact absurd this List.not_mem_nil
      · rw [hl]
        refine List.forall_mem_cons.mpr ⟨fun hj => ?_, hlog⟩
        have hj : j = i := hj
        show T.view j = T.store
        rw [hj, Sys.view, Local.view, hpending]
        rfl

/-- **A stay fact is recorded once.** In every interleaving of buttons and partner's facts on one
reservation in which every UPDATE of the row finds a status that admits its fact. -/
theorem factsOnce_run (hr₁ : Reach (onAdmittedStatus id calls) (startStay id calls h) S₁)
    (hr : Reach (onAdmittedStatus id calls) S₁ S) : FactsOnce id calls S₁ S := by
  have hv := (factInv_reach (hr₁.trans hr)).1
  refine ⟨hv.effect, ?_, fun c hc moment hrec r hr => ?_, fun i tenant partnerId fact sent recorded
    hi hnew hfact => ?_⟩
  · refine hv.order.imp_of_mem fun {c c'} hc hc' hle hrec hrec' heq => ?_
    obtain ⟨env, -, hrec⟩ := hrec
    obtain ⟨env', -, hrec'⟩ := hrec'
    exact hrec'.not_again hle hrec heq.symm
  · obtain ⟨r₀, hr₀, -⟩ := hrec.allowed
    have hrow := hrec.row
    rw [hr₀] at hrow
    obtain ⟨hdone, hmoment⟩ := hrec.done hrow
    obtain ⟨r', hr', -, -, hd⟩ := hv.stays c hc _ hrow
    rw [hr] at hr'
    cases hr'
    exact ⟨(hd _ hdone).1, (hd _ hdone).2.trans hmoment⟩
  · obtain ⟨hlog, hview, ho⟩ := repeat_reach hr₁ hr hi hnew hfact
    refine ⟨hlog, fun r f k hp => ?_, fun a ha => ?_, fun x hx => ?_⟩
    · rw [hp] at ho
      exact (ho _ hview).1
    · rw [ha] at ho
      exact ho
    · rw [hx] at ho
      exact ho

end Rule

/-! ## A repeat, and a race -/

instance (id : ReservationId) (fact : StayFact) (s : ConnectStore) :
    Decidable (Admits id fact s) :=
  decidable_of_iff (((s.stay id).any fun r => decide (r.status ∈ (FACTS fact.fact).allowed)) = true)
    (by simp [Admits, Option.any_eq_true])

instance {ι : Type} (id : ReservationId) (calls : ι → StayCall)
    (S : Sys connectDb Failure (Option StayFacts) ι) (i : ι) (r : ConnectRow) :
    Decidable ((onAdmittedStatus id calls).write S i r) :=
  inferInstanceAs (Decidable (r = .hotel (.reservation id) → Admits id (calls i).fact S.store))

instance {ι : Type} (id : ReservationId) (calls : ι → StayCall)
    (S : Sys connectDb Failure (Option StayFacts) ι) (i : ι) :
    Decidable ((onAdmittedStatus id calls).commit S i) := isTrue trivial

/-- One reservation of partner 7. -/
def ConnectStore.booked : ConnectStore :=
  ⟨run (.oneRoom false) [.create .oneNight .empty (some ⟨7, none⟩) 1], .empty, fun _ => "1"⟩

/-- The clock at `now`. -/
def CallEnv.atMoment (now : Moment) : CallEnv := { CallEnv.noPlans with now := now }

/-- The arrival of the guest, sent twice. -/
def arrivalTwice (_ : Bool) : StayCall := .partner ⟨⟨1, "inn"⟩, "RUB", true⟩ 7 .checkedIn (some 5)

def arrivalRecorded : Sys connectDb Failure (Option StayFacts) Bool :=
  (((startStay 1 arrivalTwice .booked).play [true, true]).reply true (.atMoment 6)).play
    [true, true, true, true, true, true]

def arrivalRepeated : Sys connectDb Failure (Option StayFacts) Bool :=
  ((arrivalRecorded.play [false, false]).reply false (.atMoment 9)).play [false, false]

theorem factsOnce_run_repeat : FactsOnce 1 arrivalTwice arrivalRecorded arrivalRepeated := by
  have hrecorded : Reach (onAdmittedStatus 1 arrivalTwice) (startStay 1 arrivalTwice .booked)
      arrivalRecorded := by
    apply Reach.play
    · apply Reach.reply
      apply Reach.refl.play
      decide +kernel
    · decide +kernel
  have hrepeated : Reach (onAdmittedStatus 1 arrivalTwice) arrivalRecorded arrivalRepeated := by
    apply Reach.play
    · apply Reach.reply
      apply Reach.refl.play
      decide +kernel
    · decide +kernel
  exact factsOnce_run hrecorded hrepeated

/-- The repeat is answered with the moment of the first call. -/
example : (match (arrivalRepeated.sessions false).prog with
    | .ret (some facts) => facts.checkedInAt == some 5
    | _ => false) = true := by
  decide +kernel

/-- Two presses of the button. -/
def twoArrivals (_ : Bool) : StayCall := .cabinet .checkedIn

/-- Both have found the booking confirmed; the first commits, then the second. -/
def bothArrived : Sys connectDb Failure (Option StayFacts) Bool :=
  (((startStay 1 twoArrivals .booked).reply true (.atMoment 5)).reply false (.atMoment 9)).play
    [true, false, true, true, true, false, false, false]

/-- **Two arrivals that read one status both commit.** -/
theorem twoArrivals_replaced : ¬∀ (ι : Type) [DecidableEq ι] (id : ReservationId)
    (calls : ι → StayCall) (h : ConnectStore) (S₁ S : Sys connectDb Failure (Option StayFacts) ι),
    Reach .any (startStay id calls h) S₁ → Reach .any S₁ S → FactsOnce id calls S₁ S := by
  intro hall
  have hr : Reach .any (startStay 1 twoArrivals .booked) bothArrived := by
    apply Reach.play
    · apply Reach.reply
      apply Reach.reply
      exact Reach.refl
    · decide +kernel
  have heach := (hall Bool 1 twoArrivals .booked bothArrived bothArrived hr .refl).each
  -- the second commit finds the guest arrived, and writes
  have hlog : bothArrived.log.head?.map (fun c =>
      ((c.before.stay 1).map fun r => (r.status, r.version),
        (c.after.stay 1).map fun r => (r.status, r.version))) =
      some (some (.checkedIn, 2), some (.checkedIn, 3)) := by
    decide +kernel
  obtain ⟨c, hc, hrows⟩ := Option.map_eq_some_iff.mp hlog
  have hbefore := congrArg Prod.fst hrows
  have hafter := congrArg Prod.snd hrows
  dsimp only at hbefore hafter
  rcases heach c (List.mem_of_mem_head? hc) with hsame | ⟨env, -, hrec⟩
  · rw [hsame, hbefore] at hafter
    exact absurd hafter (by decide)
  · obtain ⟨r, hr, hallowed⟩ := hrec.allowed
    rw [hr] at hbefore
    have hstatus : r.status = .checkedIn :=
      congrArg Prod.fst (Option.some.inj hbefore)
    rw [hstatus] at hallowed
    have hfact : (twoArrivals c.who).fact = .checkedIn := rfl
    rw [hfact] at hallowed
    exact absurd hallowed (by decide)

end KarsHotel
