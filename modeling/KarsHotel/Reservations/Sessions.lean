import KarsHotel.Reservations.Deeds

/-!
# Operations in concurrent sessions

One session an operation, interleaved statement by statement.

* `sessions`; `opRules`, `op_obeys`: what every session keeps on all its paths;
* `Base`: the writes under way are those of the operations, on different rows;
* **`reach_base`**: this holds in every system reached, with any property of the store that the
  writes keep.
-/

namespace KarsHotel

/-- Each operation as a transaction of its own. -/
def sessions {ι : Type} (ops : ι → Op) (i : ι) : Prog (hotelDb Unit) Failure Unit :=
  ((ops i).body (E := Unit)).transact

/-- The sessions before their first statement. -/
abbrev start {ι : Type} (h : Hotel) (ops : ι → Op) : Sys (hotelDb Unit) Failure Unit ι :=
  .init h (sessions ops)

/-- A session has read the state `s`, which has the property `P`, by the query `q`. -/
def Recalled (P : Hotel → Prop) (l : Local (hotelDb Unit)) (q : HotelQuery) (s : Hotel) : Prop :=
  Event.read q s ∈ l.hist ∧ P s

/-- What a session keeps when the states it sees have the property `P`. -/
def opRules (P : Hotel → Prop) (op : Op) : Rules (hotelDb Unit) where
  view _ s := P s
  write _ r f _ := OpWrite op r f
  commit l := Deed (Recalled P l) op l.pending
  rollback _ := True

/-- What a session's answer says. -/
def opDone (P : Hotel → Prop) (op : Op) (l : Local (hotelDb Unit)) : Except Failure Unit → Prop
  | .ok _ => ∃ ws, Deed (Recalled P l) op ws
  | .error x => Refusal (Recalled P l) op x

theorem Deed.mono {a b : HotelQuery → Hotel → Prop} {op : Op} {ws : Writes} (h : Deed a op ws)
    (hab : ∀ q s, a q s → b q s) : Deed b op ws := by
  cases h with
  | replayed dto stay channel newId => exact .replayed dto stay channel newId
  | created hd hs hs' hroom hp => exact .created hd (hab _ _ hs) (hab _ _ hs') hroom hp
  | updated hs hcur hv hd hf hc hp hg =>
    exact .updated (hab _ _ hs) hcur hv hd (fun fact h => (hf fact h).mono hab) hc (hp.mono hab) hg
  | swapped hs hne hA hB hvA hvB hroom => exact .swapped (hab _ _ hs) hne hA hB hvA hvB hroom
  | cancelled hs hcur hc => exact .cancelled (hab _ _ hs) hcur hc
  | recorded hs hcur hf => exact .recorded (hab _ _ hs) hcur (hf.mono hab)
  | folios folios => exact .folios folios

theorem Refusal.mono {a b : HotelQuery → Hotel → Prop} {op : Op} {x : Failure}
    (h : Refusal a op x) (hab : ∀ q s, a q s → b q s) : Refusal b op x := fun hc =>
  (h hc).imp_right fun ⟨s, hs, hv⟩ => ⟨s, hab _ s hs, hv⟩

/-- **Every session keeps its rules.** -/
theorem op_obeys (P : Hotel → Prop) (op : Op) :
    Obeys (opRules P op) (opDone P op) .init (op.body (E := Unit)).transact := by
  rw [Obeys, Tx.keeps_transact]
  have hR : Recall (opRules P op) (Recalled P) := Recall.hist fun _ _ h => h
  refine (op.keeps hR (fun _ _ _ _ h => h) rfl).mono (fun l _ hd => ⟨hd, l.pending, ?_⟩) ?_
  · exact hd.mono fun q s h => ⟨List.mem_cons_of_mem _ h.1, h.2⟩
  · exact fun l x hx => ⟨trivial, hx.mono fun q s h => ⟨List.mem_cons_of_mem _ h.1, h.2⟩⟩

section Base

variable {ι : Type} {ops : ι → Op} {G : Guard (hotelDb Unit) Failure Unit ι}
  {P : Hotel → Prop} {h : Hotel} {S S' : Sys (hotelDb Unit) Failure Unit ι}

/-- The writes under way are those of the operations, on different rows; each session is one
transaction. -/
structure Base (ops : ι → Op) (S : Sys (hotelDb Unit) Failure Unit ι) : Prop where
  rows : S.RowsExclusive
  writes : ∀ i, ∀ w ∈ (S.sessions i).loc.pending, OpWrite (ops i) w.1 w.2
  oneShot : OneShot S

/-- A property of the store that the writes of the operations keep. -/
def KeptByWrites (ops : ι → Op) (P : Hotel → Prop) : Prop :=
  ∀ i r f s, OpWrite (ops i) r f → P s → P (f s)

theorem Writes.apply_keeps {op : Op} {ws : Writes} (hw : ∀ w ∈ ws, OpWrite op w.1 w.2)
    (hP : ∀ r f s, OpWrite op r f → P s → P (f s)) {s : Hotel} (hs : P s) :
    P (Writes.apply ws s) := by
  induction ws generalizing s with
  | nil => exact hs
  | cons w ws ih =>
    refine ih (fun w' hw' => hw w' (List.mem_cons_of_mem _ hw')) ?_
    exact hP _ _ _ (hw w List.mem_cons_self) hs

theorem Base.view (hb : Base ops S) (hP : KeptByWrites ops P) (hs : P S.store) (i : ι) :
    P (S.view i) :=
  Writes.apply_keeps (hb.writes i) (hP i) hs

variable [DecidableEq ι]

theorem Base.step (hb : Base ops S)
    (ho : AllObey (fun i => opRules P (ops i)) (fun i => opDone P (ops i)) S)
    (hv : ∀ i, P (S.view i)) (hs : Step G S S') : Base ops S' := by
  refine ⟨hb.rows.step hs, fun j w hw => ?_, hb.oneShot.step hs⟩
  cases hs.effect with
  | quiet _ _ hp => exact hb.writes j w (hp j w hw)
  | write i r f k h _ _ _ _ hp =>
    rcases hp j w hw with hw | ⟨rfl, rfl⟩
    · exact hb.writes j w hw
    · exact ho.write h (hv j)
  | commit i k _ _ _ _ hp => exact hb.writes j w (hp j w hw).2

/-- **What holds in every system reached.** -/
theorem reach_base (hP : KeptByWrites ops P) (hs : P h) (hr : Reach G (start h ops) S) :
    Base ops S ∧ P S.store ∧
      AllObey (fun i => opRules P (ops i)) (fun i => opDone P (ops i)) S := by
  have h₀ : Base ops (start h ops) := by
    refine ⟨fun i j w hw => ?_, fun i w hw => ?_, .init h fun i => (ops i).body⟩
    · exact absurd hw List.not_mem_nil
    · exact absurd hw List.not_mem_nil
  have hall := Reach.obeys (I := fun S => Base ops S ∧ P S.store) ⟨h₀, hs⟩
    (fun i => op_obeys P (ops i)) (fun S hI _ i => hI.1.view hP hI.2 i)
    (fun S S' hI ho hstep => ⟨hI.1.step ho (fun i => hI.1.view hP hI.2 i) hstep, ?_⟩) hr
  · exact ⟨hall.1.1, hall.1.2, hall.2⟩
  · cases hstep.effect with
    | quiet hs _ _ => rw [hs]; exact hI.2
    | write i r f k _ _ _ hs _ _ => rw [hs]; exact hI.2
    | commit i k _ _ hs _ _ => rw [hs]; exact hI.1.view hP hI.2 i

end Base

end KarsHotel
