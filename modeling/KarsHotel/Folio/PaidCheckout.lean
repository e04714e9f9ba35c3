import KarsHotel.Connectivity.FactOnce
import KarsHotel.Folio.Service

/-!
# Checkout means paid

The folio service and the departures of one reservation, in any interleaving.

* `DeskCall`: the calls; `DeskDeed`: what their transactions commit; `DeskCall.obeys`;
* `settledWhileDeparting`: no commit changes the folio to one that owes while a departure that has
  begun to read it is under way;
* `PaidAtCheckout`; **`paidAtCheckout_run`**: it holds in every run under that condition;
  **`chargedBetween_unpaid`**: and not in every run.
-/

namespace KarsHotel

/-! ## The calls -/

/-- A call of the folio service, or a departure by the button, the form or the partner. -/
inductive DeskCall where
  | getOrCreate
  | addCharge (dto : AddChargeDto) (newId : ℕ)
  | addPayment (dto : AddPaymentDto) (newId : ℕ)
  | deleteCharge (chargeId : ℕ)
  | button
  | form (dto : UpdateReservationDto) (hstatus : dto.status = some .checkedOut)
  | partner (tenant : TenantRow) (partnerId : PartnerId) (moment : Option Moment)

def formSession (id : ReservationId) (dto : UpdateReservationDto) :
    Prog connectDb Failure (Option StayFacts) :=
  .ask fun env => do
    service (update id dto .form env.now)
    .ret none

/-- A transaction of the folio service. -/
def folioSession (t : Tx folioDb Failure Unit) : Prog folioDb Failure (Option StayFacts) := do
  t.transact
  .ret none

def DeskCall.session (id : ReservationId) : DeskCall → Prog folioDb Failure (Option StayFacts)
  | getOrCreate => folioSession (KarsHotel.getOrCreate id)
  | addCharge dto newId => folioSession (KarsHotel.addCharge id dto newId)
  | addPayment dto newId => folioSession (KarsHotel.addPayment id dto newId)
  | deleteCharge chargeId => folioSession (KarsHotel.deleteCharge id chargeId)
  | button => ((StayCall.cabinet .checkedOut).session id).lift folioLift
  | form dto _ => (formSession id dto).lift folioLift
  | partner tenant partnerId moment =>
    ((StayCall.partner tenant partnerId .checkedOut moment).session id).lift folioLift

/-! ## What a call commits -/

/-- The guest has left. -/
def Departed (id : ReservationId) (s : ConnectStore) : Prop :=
  (s.stay id).map Reservation.status = some .checkedOut

instance (id : ReservationId) (s : ConnectStore) : Decidable (Departed id s) :=
  inferInstanceAs (Decidable (_ = _))

/-- What a transaction of a departure commits: nothing, or the departure, with the folio found
settled or the guest found gone. -/
inductive DepartDeed (id : ReservationId) (l : Local connectDb) : Prop
  | quiet (hp : l.pending = [])
  | departed (hkeeps : ∀ w ∈ l.pending, ∀ s, Departed id s → Departed id (w.2 s))
      (hsaw : FolioSettled (SawHotel l) id ∨ ∃ q s, l.Saw q s ∧ Departed id s)

/-- What the open transaction has seen of the reservation store, its folios with their rows. -/
def SawDesk (l : Local folioDb) (q : HotelQuery) (h : Hotel) : Prop :=
  ∃ s : FolioDesk, s.desk.hotel = h ∧ l.Saw (FolioQuery.connect (.hotel q)) s

/-- The same over the folios; the folio service leaves the stay as it is. -/
inductive DeskDeed (id : ReservationId) (l : Local folioDb) : Prop
  | quiet (hp : l.pending = [])
  | folio (hconnect : ∀ s, (l.view s).connect = s.connect)
  | departed (haccount : ∀ s, (l.view s).account id = s.account id)
      (hkeeps : ∀ s : FolioDesk, Departed id s.connect → Departed id (l.view s).connect)
      (hsaw : FolioSettled (SawDesk l) id ∨ ∃ q s, l.Saw q s ∧ Departed id s.connect)

def formRules (id : ReservationId) : Rules connectDb :=
  { Rules.any with commit := DepartDeed id }

def deskRules (id : ReservationId) : Rules folioDb :=
  { Rules.any with commit := DeskDeed id }

section Deeds

variable {id : ReservationId}

/-- A write of the row that sets the status. -/
theorem Departed.update {s : ConnectStore} {f : Reservation → Reservation}
    {hf : ∀ r, (f r).id = r.id} (h : Departed id s) (hstatus : ∀ r, (f r).status = .checkedOut) :
    ((s.hotel.updateReservation id f hf).reservations.find id).map Reservation.status =
      some .checkedOut := by
  obtain ⟨r, hr, -⟩ := Option.map_eq_some_iff.mp h
  have hfind : s.hotel.reservations.find id = some r := hr
  rw [Hotel.updateReservation_reservations, Table.find_modify_self, hfind]
  exact congrArg some (hstatus r)

theorem stampWrites_status {roomId : RoomId} {moment : Moment} {fact : Fact}
    {w : HotelRow × (Hotel → Hotel)} (hw : w ∈ stampWrites id roomId moment fact) (h : Hotel) :
    ((w.2 h).reservations.find id).map Reservation.status =
      (h.reservations.find id).map Reservation.status := by
  have hstamp : ∀ (f : Reservation → Reservation) (hf : ∀ r, (f r).id = r.id),
      (∀ r, (f r).status = r.status) →
      ((h.updateReservation id f hf).reservations.find id).map Reservation.status =
        (h.reservations.find id).map Reservation.status := by
    intro f hf hstatus
    rw [Hotel.updateReservation_reservations, Table.find_modify_self, Option.map_map]
    exact congrArg (Option.map · _) (funext hstatus)
  cases fact with
  | checkedIn =>
    obtain rfl := List.mem_singleton.mp hw
    exact hstamp _ _ fun _ => rfl
  | checkedOut =>
    rcases List.mem_pair.mp hw with rfl | rfl
    · exact hstamp _ _ fun _ => rfl
    · rfl
  | noShow => exact absurd hw List.not_mem_nil

theorem departed_writes {ws : Writes} {f : Reservation → Reservation}
    {hf : ∀ r, (f r).id = r.id} {facts : Writes}
    (hws : ws = (.reservation id, fun h => h.updateReservation id f hf) :: facts)
    (hstatus : ∀ r, (f r).status = .checkedOut)
    (hfacts : ∀ w ∈ facts, ∃ roomId moment fact, w ∈ stampWrites id roomId moment fact) :
    ∀ w ∈ ws.map hotelLift.mapWrite, ∀ s, Departed id s → Departed id (w.2 s) := by
  intro w hw s hs
  obtain ⟨v, hv, rfl⟩ := List.mem_map.mp hw
  rw [hws] at hv
  rcases List.mem_cons.mp hv with rfl | hv
  · exact hs.update hstatus
  · obtain ⟨roomId, moment, fact, hv⟩ := hfacts v hv
    exact (stampWrites_status hv s.hotel).trans hs

theorem StayDeed.departs {call : StayCall} {l : Local connectDb} (h : StayDeed id call l)
    (hfact : call.fact = .checkedOut) : DepartDeed id l := by
  cases h with
  | quiet hp => exact .quiet hp
  | recorded env henv roomId status hadm hp =>
    refine .departed ?_ (Or.inl ?_)
    · rw [hp, hfact]
      exact departed_writes rfl (fun _ => rfl) fun w hw => ⟨_, _, _, hw⟩
    · exact hadm.settled (by rw [hfact]; rfl)

theorem Deed.departs {dto : UpdateReservationDto} {opts : UpdateOptions} {now : Moment}
    {l : Local connectDb} {ws : Writes} (h : Deed (SawHotel l) (.update id dto opts now) ws)
    (hstatus : dto.status = some .checkedOut) (hp : l.pending = ws.map hotelLift.mapWrite) :
    DepartDeed id l := by
  cases h with
  | @updated _ _ _ _ s cur p roomTypeId hs hcur hv hd hf hc hplace hg =>
    have hfinal : dto.finalStatus cur = .checkedOut := by
      rw [UpdateReservationDto.finalStatus, hstatus, Option.getD_some]
    refine .departed ?_ ?_
    · rw [hp]
      refine departed_writes rfl (fun _ => hfinal) fun w hw => ?_
      cases hfact : dto.fact cur with
      | none =>
        rw [hfact] at hw
        exact absurd hw List.not_mem_nil
      | some fact =>
        rw [hfact] at hw
        exact ⟨_, _, _, hw⟩
    · by_cases hgone : cur.status = .checkedOut
      · obtain ⟨c, hc, hsaw⟩ := hs
        refine Or.inr ⟨_, c, hsaw, ?_⟩
        have hfind : c.stay id = some cur := by
          rw [← hcur, ← hc]
          rfl
        rw [Departed, hfind, Option.map_some, hgone]
      · have hfact : dto.fact cur = some .checkedOut := by
          rw [UpdateReservationDto.fact, hfinal, if_pos (Ne.symm hgone)]
          rfl
        exact Or.inl ((hf _ hfact).settled rfl)

theorem DepartDeed.lift {l : Local connectDb} {l' : Local folioDb}
    (hf : folioLift.Follows .init l l') (h : DepartDeed id l) : DeskDeed id l' := by
  have hp := hf.pending rfl
  cases h with
  | quiet hl =>
    rw [hl] at hp
    exact .quiet hp
  | departed hkeeps hsaw =>
    have hview : ∀ s : FolioDesk, (l'.view s).account id = s.account id ∧
        (Departed id s.connect → Departed id (l'.view s).connect) := by
      intro s
      rw [Local.view, hp]
      generalize l.pending = ws at hkeeps
      induction ws generalizing s with
      | nil => exact ⟨rfl, fun h => h⟩
      | cons w ws ih =>
        have hrest := ih (folioLift.write w.2 s) fun v hv =>
          hkeeps v (List.mem_cons_of_mem _ hv)
        exact ⟨hrest.1, fun hs => hrest.2 (hkeeps w List.mem_cons_self s.desk hs)⟩
    refine .departed (fun s => (hview s).1) (fun s => (hview s).2) ?_
    rcases hsaw with hsettled | ⟨q, s, hs, hgone⟩
    · refine Or.inl (hsettled.mono fun q h hs => ?_)
      obtain ⟨c, rfl, hc⟩ := hs
      obtain ⟨d, rfl, hd⟩ := hf.saw rfl hc
      exact ⟨d, rfl, hd⟩
    · obtain ⟨d, rfl, hd⟩ := hf.saw rfl hs
      exact Or.inr ⟨_, d, hd, hgone⟩

end Deeds

/-! ## Every path -/

section Obeys

variable {id : ReservationId}

/-- A body of the folio service leaves the other tables as they are. -/
def SparesConnect (l : Local folioDb) : Prop := ∀ s, (l.view s).connect = s.connect

/-- A statement on the tables of the folios, which may be refused. -/
theorem SparesConnect.write_keeps {l : Local folioDb} (h : SparesConnect l) {r : FolioDbRow}
    {f : FolioDesk → FolioDesk} {refused : FolioDesk → Prop} [DecidablePred refused] {x : Failure}
    (hf : ∀ s, (f s).connect = s.connect) :
    (Tx.write r f fun s => if refused s then .throw x else .ret () : Tx folioDb Failure Unit).Keeps
      (deskRules id) (fun l _ => SparesConnect l) (fun _ _ => True) l := by
  intro s _
  refine ⟨trivial, ?_⟩
  dsimp only
  by_cases hrefused : refused s
  · rw [if_pos hrefused]
    trivial
  · rw [if_neg hrefused, Tx.keeps_ret]
    intro t
    rw [Local.view_write, hf]
    exact h t

theorem folioOf_keeps {l : Local folioDb} (h : SparesConnect l) :
    (folioOf id).Keeps (deskRules id) (fun l _ => SparesConnect l) (fun _ _ => True) l := by
  intro s _
  dsimp only
  cases s.connect.hotel.reservations.find id with
  | none => trivial
  | some r =>
    intro t _
    dsimp only
    cases t.folios.find id with
    | some f => exact h
    | none => exact SparesConnect.write_keeps (l := (l.read _ s).read _ t) h fun _ => rfl

theorem folioSession_obeys {t : Tx folioDb Failure Unit}
    (ht : t.Keeps (deskRules id) (fun l _ => SparesConnect l) (fun _ _ => True) .init) :
    Obeys (deskRules id) (fun _ _ => True) .init (folioSession t) := by
  rw [Obeys, folioSession, Prog.keeps_bind, Tx.keeps_transact]
  exact ht.mono (fun _ _ h => ⟨.folio h, trivial⟩) fun _ _ _ => ⟨trivial, trivial⟩

theorem addCharge_keeps (dto : AddChargeDto) (newId : ℕ) :
    (addCharge id dto newId).Keeps (deskRules id) (fun l _ => SparesConnect l)
      (fun _ _ => True) .init := by
  rw [addCharge, Tx.keeps_bind]
  exact (folioOf_keeps fun _ => rfl).mono (fun l _ h => h.write_keeps fun _ => rfl) fun _ _ h => h

theorem addPayment_keeps (dto : AddPaymentDto) (newId : ℕ) :
    (addPayment id dto newId).Keeps (deskRules id) (fun l _ => SparesConnect l)
      (fun _ _ => True) .init := by
  rw [addPayment, Tx.keeps_bind]
  exact (folioOf_keeps fun _ => rfl).mono (fun l _ h => h.write_keeps fun _ => rfl) fun _ _ h => h

theorem deleteCharge_keeps (chargeId : ℕ) :
    (deleteCharge id chargeId).Keeps (deskRules id) (fun l _ => SparesConnect l)
      (fun _ _ => True) .init := by
  intro s _
  dsimp only
  cases (s.charges.find chargeId).filter fun c => decide (c.folioId = id) with
  | none => trivial
  | some c =>
    exact SparesConnect.write_keeps (l := Local.init.read _ s) (fun _ => rfl) fun _ => rfl

theorem formSession_obeys {dto : UpdateReservationDto} (hstatus : dto.status = some .checkedOut) :
    Obeys (formRules id) (fun _ _ => True) .init (formSession id dto) := by
  intro env
  dsimp only
  rw [Prog.keeps_bind, service, Prog.transact_within, Tx.within_eq_lift, Tx.keeps_transact]
  have hk := (Op.update id dto .form env.now).keeps (E := Unit)
    (Recall.saw (opRules (fun _ => True) _)) (fun _ _ _ _ h => h) (l := .init) rfl
  refine (hk.lift .start (fun _ _ _ _ _ => trivial) fun _ _ _ _ _ _ _ _ => trivial).mono
    (fun l' _ hd => ⟨?_, trivial⟩) fun _ _ _ => ⟨trivial, trivial⟩
  obtain ⟨l, hf, hd⟩ := hd
  exact (hd.mono fun _ _ => hf.saw rfl).departs hstatus (hf.pending rfl)

theorem lift_obeys {R : Rules connectDb} {p : Prog connectDb Failure (Option StayFacts)}
    (h : Obeys R (fun _ _ => True) .init p) (hview : ∀ l s, R.view l s)
    (hcommit : ∀ l, R.commit l → DepartDeed id l) :
    Obeys (deskRules id) (fun _ _ => True) .init (p.lift folioLift) := by
  refine (Prog.Keeps.lift h .start (fun l _ s _ _ => hview l _)
    (fun _ _ _ _ _ _ _ _ => trivial) (fun l l' hf hc => (hcommit l hc).lift hf)
    fun _ _ _ _ => trivial).mono (fun _ _ _ => trivial) fun _ _ _ => trivial

/-- **Every call keeps its rules.** -/
theorem DeskCall.obeys (id : ReservationId) (call : DeskCall) :
    Obeys (deskRules id) (fun _ _ => True) .init (call.session id) := by
  cases call with
  | getOrCreate =>
    refine folioSession_obeys ?_
    rw [KarsHotel.getOrCreate, Tx.keeps_bind]
    exact (folioOf_keeps fun _ => rfl).mono (fun l _ h s _ => h) fun _ _ h => h
  | addCharge dto newId => exact folioSession_obeys (addCharge_keeps dto newId)
  | addPayment dto newId => exact folioSession_obeys (addPayment_keeps dto newId)
  | deleteCharge chargeId => exact folioSession_obeys (deleteCharge_keeps chargeId)
  | button =>
    exact lift_obeys ((StayCall.cabinet .checkedOut).obeys id) (fun _ _ => trivial)
      fun _ h => h.departs rfl
  | form dto hstatus =>
    exact lift_obeys (formSession_obeys hstatus) (fun _ _ => trivial) fun _ h => h
  | partner tenant partnerId moment =>
    exact lift_obeys ((StayCall.partner tenant partnerId .checkedOut moment).obeys id)
      (fun _ _ => trivial) fun _ h => h.departs rfl

end Obeys

/-! ## Every interleaving -/

/-- The calls before their first statement. -/
abbrev startDesk {ι : Type} (id : ReservationId) (calls : ι → DeskCall) (s : FolioDesk) :
    Sys folioDb Failure (Option StayFacts) ι :=
  .init s fun i => (calls i).session id

/-- No commit changes the folio to one that owes over 0.01 while a transaction that has begun to
read it for a departure is open. -/
def settledWhileDeparting {ι : Type} (id : ReservationId) :
    Guard folioDb Failure (Option StayFacts) ι where
  write _ _ _ := True
  commit S i := (S.view i).account id ≠ S.store.account id → 1 < (S.view i).owed id →
    ∀ j q h, ReadsFolio q → ¬SawDesk (S.sessions j).loc q h

/-- Every commit after which the guest is gone, and before which it was not, leaves at most 0.01. -/
def PaidAtCheckout {ι : Type} (id : ReservationId)
    (S : Sys folioDb Failure (Option StayFacts) ι) : Prop :=
  ∀ c ∈ S.log, ¬Departed id c.before.connect → Departed id c.after.connect → c.after.owed id ≤ 1

section Run

variable {ι : Type} {id : ReservationId} {calls : ι → DeskCall} {s₀ : FolioDesk}
  {S S' : Sys folioDb Failure (Option StayFacts) ι}

/-- What holds in every run under `settledWhileDeparting`: the folio is settled, or it is what every
open transaction has read of it; and a guest found gone is gone still. -/
structure DeskInv (id : ReservationId) (S : Sys folioDb Failure (Option StayFacts) ι) : Prop where
  settled : S.store.owed id ≤ 1 ∨ ∀ j q h, ReadsFolio q → SawDesk (S.sessions j).loc q h →
    h.folios.find id = S.store.account id
  gone : ∀ j q s, (S.sessions j).loc.Saw q s → Departed id s.connect → Departed id S.store.connect
  paid : PaidAtCheckout id S

/-- What a commit leaves, over a store of which the invariant holds. -/
theorem DeskDeed.effect {i : ι} (h : DeskDeed id (S.sessions i).loc) (hv : DeskInv id S) :
    (Departed id S.store.connect → Departed id (S.view i).connect) ∧
      (¬Departed id S.store.connect → Departed id (S.view i).connect → (S.view i).owed id ≤ 1) := by
  cases h with
  | quiet hp =>
    have hview : S.view i = S.store := by
      rw [Sys.view, Local.view, hp]
      rfl
    rw [hview]
    exact ⟨fun h => h, fun hno h => absurd h hno⟩
  | folio hconnect =>
    have hview : (S.view i).connect = S.store.connect := hconnect S.store
    rw [hview]
    exact ⟨fun h => h, fun hno h => absurd h hno⟩
  | departed haccount hkeeps hsaw =>
    refine ⟨hkeeps S.store, fun hno _ => ?_⟩
    rw [Sys.view, FolioDesk.owed_congr (haccount S.store)]
    rcases hsaw with hfound | ⟨q, s, hs, hgone⟩
    · rcases hv.settled with hle | hsame
      · exact hle
      · rw [← FolioDesk.balance_desk]
        exact hfound.balance_le fun q h hq hs => hsame i q h hq hs
    · exact absurd (hv.gone i q s hs hgone) hno

variable [DecidableEq ι]

/-- What a session has seen of the reservation store it had seen before the step, or it is the
committed one. -/
theorem Step.sawDesk {G : Guard folioDb Failure (Option StayFacts) ι} (hs : Step G S S') {j : ι}
    {q : HotelQuery} {h : Hotel} (hsaw : SawDesk (S'.sessions j).loc q h) :
    SawDesk (S.sessions j).loc q h ∨ h = S.store.desk.hotel ∧ S'.store = S.store := by
  obtain ⟨s, rfl, hsaw⟩ := hsaw
  rcases hs.saw hsaw with hsaw | ⟨rfl, hst⟩
  · exact Or.inl ⟨s, rfl, hsaw⟩
  · exact Or.inr ⟨rfl, hst⟩

theorem DeskInv.step (hv : DeskInv id S)
    (ho : AllObey (fun _ => deskRules id) (fun _ _ _ => True) S)
    (hs : Step (settledWhileDeparting id) S S') : DeskInv id S' := by
  -- a statement that commits nothing
  have quiet : S'.store = S.store → S'.log = S.log → DeskInv id S' := by
    intro hst hl
    refine ⟨?_, fun j q s hsaw hgone => ?_, ?_⟩
    · rw [hst]
      refine hv.settled.imp_right fun hsame j q h hq hsaw => ?_
      rcases hs.sawDesk hsaw with hsaw | ⟨rfl, -⟩
      · exact hsame j q h hq hsaw
      · rfl
    · rw [hst]
      rcases hs.saw hsaw with hsaw | ⟨rfl, -⟩
      · exact hv.gone j q s hsaw hgone
      · exact hgone
    · rw [PaidAtCheckout, hl]
      exact hv.paid
  cases hs.effect with
  | quiet hst hl hp => exact quiet hst hl
  | write i r f k hprog hfree hg hst hl hp => exact quiet hst hl
  | commit i k hprog hg hst hl hp =>
    have hd : DeskDeed id (S.sessions i).loc := ho.commit hprog
    have heffect := hd.effect hv
    refine ⟨?_, fun j q s hsaw hgone => ?_, ?_⟩
    · rw [hst]
      by_cases hsame : (S.view i).account id = S.store.account id
      · -- the folio is as it was, and what was read of it stays true
        rw [hsame, FolioDesk.owed_congr hsame]
        refine hv.settled.imp_right fun hread j q h hq hsaw => ?_
        rcases hs.sawDesk hsaw with hsaw | ⟨rfl, -⟩
        · exact hread j q h hq hsaw
        · rfl
      · by_cases hover : 1 < (S.view i).owed id
        · refine Or.inr fun j q h hq hsaw => ?_
          rcases hs.sawDesk hsaw with hsaw | ⟨rfl, hstore⟩
          · exact absurd hsaw (hg hsame hover j q h hq)
          · rw [← hst, hstore]
            rfl
        · exact Or.inl (not_lt.mp hover)
    · rcases hs.saw hsaw with hsaw | ⟨rfl, hsame⟩
      · rw [hst]
        exact heffect.1 (hv.gone j q s hsaw hgone)
      · rwa [hsame]
    · rw [PaidAtCheckout, hl]
      exact List.forall_mem_cons.mpr ⟨heffect.2, hv.paid⟩

/-- **Checkout means paid**, in every interleaving in which no commit changes the folio to one that
owes while a departure that has begun to read it is under way. -/
theorem paidAtCheckout_run (hr : Reach (settledWhileDeparting id) (startDesk id calls s₀) S) :
    PaidAtCheckout id S := by
  have h₀ : DeskInv id (startDesk id calls s₀) :=
    ⟨Or.inr fun _ _ _ _ h => h.elim fun _ h => absurd h.2 Local.not_saw_init,
      fun _ _ _ h => absurd h Local.not_saw_init, nofun⟩
  have hreach := Reach.obeys (I := DeskInv id) h₀ (fun i => (calls i).obeys id)
    (fun _ _ _ _ => trivial) (fun _ _ hv ho hs => hv.step ho hs) hr
  exact hreach.1.paid

end Run

/-! ## A settled folio, and a late charge -/

/-- A guest of room 1 who has arrived, without a folio. -/
def FolioDesk.arrived : FolioDesk :=
  ⟨⟨run (.oneRoom false) [.create .oneNight .empty none 1, .recordFact 1 .checkedIn none 0], .empty,
    fun _ => "1"⟩, .empty, .empty, .empty⟩

def AddChargeDto.night : AddChargeDto := ⟨⟨1, 0⟩, ⟨100, 0⟩, by unfold DecimalNumber.Positive; decide⟩

def AddPaymentDto.hundred : AddPaymentDto :=
  ⟨⟨100, 0⟩, none, by unfold DecimalNumber.Positive; decide⟩

/-- A payment, a charge and a departure. -/
def paidNight : Fin 3 → DeskCall
  | 0 => .addPayment .hundred 1
  | 1 => .addCharge .night 1
  | 2 => .button

/-- The guest pays, is charged and leaves. -/
def nightPaid : Sys folioDb Failure (Option StayFacts) (Fin 3) :=
  (((startDesk 1 paidNight .arrived).play [0, 0, 0, 0, 0, 1, 1, 1, 1]).reply 2
    (.atMoment 5)).play [2, 2, 2, 2, 2, 2, 2, 2]

/-- Every commit leaves a settled folio. -/
def alwaysSettled : Guard folioDb Failure (Option StayFacts) (Fin 3) where
  write _ _ _ := True
  commit S i := (S.view i).owed 1 ≤ 1

instance (S : Sys folioDb Failure (Option StayFacts) (Fin 3)) (i : Fin 3) (r : FolioDbRow) :
    Decidable (alwaysSettled.write S i r) := isTrue trivial

instance (S : Sys folioDb Failure (Option StayFacts) (Fin 3)) (i : Fin 3) :
    Decidable (alwaysSettled.commit S i) := inferInstanceAs (Decidable (_ ≤ _))

theorem paidAtCheckout_run_nightPaid : PaidAtCheckout 1 nightPaid := by
  have hr : Reach alwaysSettled (startDesk 1 paidNight .arrived) nightPaid := by
    apply Reach.play
    · apply Reach.reply
      apply Reach.refl.play
      decide +kernel
    · decide +kernel
  exact paidAtCheckout_run (hr.mono (fun _ _ _ h => h) fun S i hle _ hover =>
    absurd hle (not_le.mpr hover))

/-- The guest has left then. -/
example : Departed 1 nightPaid.store.connect := by decide +kernel

def lateCharge : Bool → DeskCall
  | false => .addCharge .night 1
  | true => .button

/-- The departure finds no folio; the charge is committed; then the departure. -/
def chargedBetween : Sys folioDb Failure (Option StayFacts) Bool :=
  ((startDesk 1 lateCharge .arrived).reply true (.atMoment 5)).play
    [true, true, false, false, false, false, false, true, true, true, true]

/-- **A charge committed between the check and the commit leaves a guest gone who owes.** -/
theorem chargedBetween_unpaid : ¬∀ (ι : Type) [DecidableEq ι] (id : ReservationId)
    (calls : ι → DeskCall) (s₀ : FolioDesk) (S : Sys folioDb Failure (Option StayFacts) ι),
    Reach .any (startDesk id calls s₀) S → PaidAtCheckout id S := by
  intro hall
  have hr : Reach .any (startDesk 1 lateCharge .arrived) chargedBetween := by
    apply Reach.play
    · apply Reach.reply
      exact Reach.refl
    · decide +kernel
  have hpaid := hall Bool 1 lateCharge .arrived chargedBetween hr
  have hlog : chargedBetween.log.head?.map (fun c => (decide (Departed 1 c.before.connect),
      decide (Departed 1 c.after.connect), c.after.owed 1)) = some (false, true, 10000) := by
    decide +kernel
  obtain ⟨c, hc, hrows⟩ := Option.map_eq_some_iff.mp hlog
  simp only [Prod.mk.injEq, decide_eq_false_iff_not, decide_eq_true_eq] at hrows
  have hle := hpaid c (List.mem_of_mem_head? hc) hrows.1 hrows.2.1
  rw [hrows.2.2] at hle
  exact absurd hle (by decide)

end KarsHotel
