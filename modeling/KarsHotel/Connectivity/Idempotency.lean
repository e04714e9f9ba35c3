import KarsHotel.Connectivity.BookingRules

/-!
# One reservation a key

Calls of `createReservation` in any interleaving, some with one key, others with other keys or none.

* `UniqueKeys`, `accepts_insertReservation`: the unique index, and rows that do not meet in it;
* `Own`: what holds of one call; `Books`: what holds of all of them; **`reach_books`**;
* `Idempotent`: the contract of a key; **`idempotent_reach`**.
-/

namespace KarsHotel

/-! ## What holds of the store and of every call -/

/-- The unique index on partner and key. -/
def UniqueKeys (h : Hotel) : Prop :=
  ∀ a ∈ h.reservations, ∀ b ∈ h.reservations, a.partnerId ≠ none →
    a.partnerIdempotencyKey ≠ none → a.partnerId = b.partnerId →
    a.partnerIdempotencyKey = b.partnerIdempotencyKey → a = b

/-- The two rows do not share a partner's key. -/
def OtherKey (o r : Reservation) : Prop :=
  o.partnerId = none ∨ o.partnerIdempotencyKey = none ∨ o.partnerId ≠ r.partnerId ∨
    o.partnerIdempotencyKey ≠ r.partnerIdempotencyKey

theorem OtherKey.ne {o r : Reservation} (h : OtherKey o r) (hp : o.partnerId ≠ none)
    (hk : o.partnerIdempotencyKey ≠ none) (heq : o.partnerId = r.partnerId) :
    o.partnerIdempotencyKey ≠ r.partnerIdempotencyKey := by
  rcases h with h | h | h | h
  · exact absurd h hp
  · exact absurd h hk
  · exact absurd heq h
  · exact h

theorem Hotel.accepts_iff {h : Hotel} {r : Reservation} :
    h.accepts r = true ↔ ∀ o ∈ h.reservations, o.id ≠ r.id ∧ OtherKey o r := by
  rw [accepts, Bool.and_eq_true, Option.isNone_iff_eq_none, Table.find_eq_none, List.all_eq_true]
  simp only [decide_eq_true_eq, ← forall₂_and, OtherKey, Table.mem_def]

theorem mem_of_mem_insertReservation {h : Hotel} {r o : Reservation}
    (ho : o ∈ (h.insertReservation r).reservations) :
    o ∈ h.reservations ∨ h.accepts r = true ∧ o = r := by
  by_cases ha : h.accepts r = true
  · exact ((Hotel.mem_insertReservation ha).mp ho).imp_right fun hor => ⟨ha, hor⟩
  · rw [Hotel.insertReservation_of_not_accepts ha] at ho
    exact Or.inl ho

theorem mem_insertReservation_of_mem {h : Hotel} {o : Reservation} (r : Reservation)
    (ho : o ∈ h.reservations) : o ∈ (h.insertReservation r).reservations := by
  by_cases ha : h.accepts r = true
  · exact (Hotel.mem_insertReservation ha).mpr (Or.inl ho)
  · rwa [Hotel.insertReservation_of_not_accepts ha]

theorem UniqueKeys.insert {h : Hotel} (hu : UniqueKeys h) (r : Reservation) :
    UniqueKeys (h.insertReservation r) := by
  intro a ha b hb hp hk hpp hkk
  rcases mem_of_mem_insertReservation ha with ha' | ⟨hacc, rfl⟩
  · rcases mem_of_mem_insertReservation hb with hb' | ⟨hacc, rfl⟩
    · exact hu a ha' b hb' hp hk hpp hkk
    · exact absurd hkk ((Hotel.accepts_iff.mp hacc a ha').2.ne hp hk hpp)
  · rcases mem_of_mem_insertReservation hb with hb' | ⟨_, rfl⟩
    · rw [hpp] at hp
      rw [hkk] at hk
      exact absurd hkk.symm ((Hotel.accepts_iff.mp hacc b hb').2.ne hp hk hpp.symm)
    · rfl

/-- Another row, with another id and no key in common, does not change what is let in. -/
theorem accepts_insertReservation {h : Hotel} {r o : Reservation} (hid : o.id ≠ r.id)
    (hkey : OtherKey o r) : (h.insertReservation o).accepts r = h.accepts r := by
  rw [Bool.eq_iff_iff, Hotel.accepts_iff, Hotel.accepts_iff]
  constructor
  · exact fun hall x hx => hall x (mem_insertReservation_of_mem o hx)
  · intro hall x hx
    rcases mem_of_mem_insertReservation hx with hx | ⟨_, rfl⟩
    · exact hall x hx
    · exact ⟨hid, hkey⟩

/-- Calls with different keys insert rows with different keys. -/
theorem IsOwn.otherKey {a b : ReservationChannelContext} {m n : ReservationId}
    {o r : Reservation} (ho : IsOwn a m o) (hr : IsOwn b n r)
    (hne : ∀ x y, a.idempotency = some x → b.idempotency = some y → a.partnerId = b.partnerId →
      x.key ≠ y.key) : OtherKey o r := by
  rw [OtherKey, ho.partner, ho.key, hr.partner, hr.key]
  cases hx : a.idempotency with
  | none => exact .inr (.inl rfl)
  | some x =>
    by_cases hp : a.partnerId = b.partnerId
    · cases hy : b.idempotency with
      | none => exact .inr (.inr (.inr nofun))
      | some y => exact .inr (.inr (.inr fun h => hne x y hx hy hp (Option.some.inj h)))
    · exact .inr (.inr (.inl fun h => hp (Option.some.inj h)))

/-- What holds of one call: at most one INSERT is open, under the lock of the call's key, and it
will be let in if it was; its INSERTs carry its key and, let in, are open or committed; the rows it
has read are committed, or its own. -/
structure Own (store : Hotel) (channel : ReservationChannelContext) (newId : ReservationId)
    (l : Call) : Prop where
  pending : l.pending = [] ∨ ∃ row, l.pending = [insertion row] ∧ KeyLocked channel l ∧
    (∃ s, Wrote l row s) ∧ ∀ s, Wrote l row s → s.accepts row = store.accepts row
  wrote : ∀ row s, Wrote l row s → IsOwn channel newId row ∧
    (s.accepts row = true → row ∈ store.reservations ∨ insertion row ∈ l.pending)
  seen : ∀ q s, Event.read q s ∈ l.hist → ∀ r ∈ s.reservations,
    r ∈ store.reservations ∨ ∃ t, Wrote l r t ∧ t.accepts r = true

section Own

variable {store : Hotel} {channel : ReservationChannelContext} {newId : ReservationId} {l : Call}

theorem Own.init : Own store channel newId .init :=
  ⟨.inl rfl, fun _ _ h => absurd h List.not_mem_nil, fun _ _ h => absurd h List.not_mem_nil⟩

theorem Own.view (h : Own store channel newId l) : (l.pending = [] ∧ l.view store = store) ∨
    ∃ row s, l.pending = [insertion row] ∧ l.view store = store.insertReservation row ∧
      Wrote l row s ∧ s.accepts row = store.accepts row := by
  rcases h.pending with hp | ⟨row, hp, -, ⟨s, hs⟩, hacc⟩
  · exact .inl ⟨hp, by rw [Local.view, hp]; rfl⟩
  · exact .inr ⟨row, s, hp, by rw [Local.view, hp]; rfl, hs, hacc s hs⟩

theorem Own.quiet {l' : Call} (h : Own store channel newId l) (hp : l'.pending = l.pending)
    (hl : ∀ x ∈ l.locks, x ∈ l'.locks) (hw : ∀ row s, Wrote l' row s ↔ Wrote l row s)
    (hr : ∀ q s, Event.read q s ∈ l'.hist → Event.read q s ∈ l.hist ∨ s = l.view store) :
    Own store channel newId l' where
  pending := by
    rcases h.pending with hn | ⟨row, hrow, hlock, ⟨s, hs⟩, hacc⟩
    · exact .inl (hp.trans hn)
    · refine .inr ⟨row, hp.trans hrow, fun idem hi => hl _ (hlock idem hi), ⟨s, (hw row s).mpr hs⟩,
        fun t ht => hacc t ((hw row t).mp ht)⟩
  wrote row s hs := by
    rw [hp]
    exact h.wrote row s ((hw row s).mp hs)
  seen q s hs r hrs := by
    have hown : (∃ t, Wrote l r t ∧ t.accepts r = true) → ∃ t, Wrote l' r t ∧ t.accepts r = true :=
      fun ⟨t, ht, ha⟩ => ⟨t, (hw r t).mpr ht, ha⟩
    rcases hr q s hs with hs | rfl
    · exact (h.seen q s hs r hrs).imp_right hown
    · rcases h.view with ⟨-, hv⟩ | ⟨row, t, -, hv, ht, hacc⟩
      · rw [hv] at hrs
        exact .inl hrs
      · rw [hv] at hrs
        rcases mem_of_mem_insertReservation hrs with hrs | ⟨ha, rfl⟩
        · exact .inl hrs
        · exact .inr (hown ⟨t, ht, hacc.trans ha⟩)

theorem Own.write {row : Reservation} (h : Own store channel newId l)
    (hrow : IsOwn channel newId row) (hl : Fresh l) (hlock : KeyLocked channel l) :
    Own store channel newId (l.write (insertion row).1 (insertion row).2 (l.view store)) := by
  have hview : l.view store = store := by rw [Local.view, hl.pending]; rfl
  rw [hview]
  have hwrote : ∀ o u, Wrote (l.write (insertion row).1 (insertion row).2 store) o u ↔
      o = row ∧ u = store := fun o u => wrote_write.trans (or_iff_left (hl.wrote o u))
  have hpending : (l.write (insertion row).1 (insertion row).2 store).pending = [insertion row] := by
    rw [Local.pending_write, hl.pending]
    rfl
  refine ⟨.inr ⟨row, hpending, hlock, ⟨store, (hwrote row store).mpr ⟨rfl, rfl⟩⟩, ?_⟩, ?_, ?_⟩
  · intro s hs
    rw [((hwrote row s).mp hs).2]
  · intro o s hs
    obtain ⟨rfl, rfl⟩ := (hwrote o s).mp hs
    refine ⟨hrow, fun _ => .inr ?_⟩
    rw [hpending]
    exact List.mem_singleton_self _
  · intro q s hs r hrs
    have hs : Event.read q s ∈ l.hist := by simpa [Local.write] using hs
    refine (h.seen q s hs r hrs).imp_right fun hown => ?_
    obtain ⟨t, ht, -⟩ := hown
    exact absurd ht (hl.wrote r t)

theorem Own.rollback {h₀ : Hotel} (h : Own store channel newId l)
    (hr : (bookRules h₀ channel newId).rollback l) : Own store channel newId l.rollback where
  pending := .inl rfl
  wrote row s hs := by
    obtain ⟨hown, hacc⟩ := h.wrote row s (wrote_rollback.mp hs)
    refine ⟨hown, fun ha => ?_⟩
    rcases hacc ha with hmem | hmem
    · exact .inl hmem
    · rw [hr row s hmem (wrote_rollback.mp hs)] at ha
      cases ha
  seen q s hs r hrs := by
    have hs : Event.read q s ∈ l.hist := by simpa [Local.rollback] using hs
    simpa using h.seen q s hs r hrs

theorem Own.view_mono (h : Own store channel newId l) {r : Reservation}
    (hr : r ∈ store.reservations) : r ∈ (l.view store).reservations := by
  rcases h.view with ⟨-, hv⟩ | ⟨row, s, -, hv, -, -⟩
  · rwa [hv]
  · rw [hv]
    exact mem_insertReservation_of_mem row hr

theorem Own.commit (h : Own store channel newId l) :
    Own (l.view store) channel newId l.commit where
  pending := .inl rfl
  wrote row s hs := by
    have hs : Wrote l row s := wrote_commit.mp hs
    obtain ⟨hown, hacc⟩ := h.wrote row s hs
    refine ⟨hown, fun ha => .inl ?_⟩
    rcases hacc ha with hmem | hmem
    · exact h.view_mono hmem
    · rcases h.pending with hp | ⟨o, hp, -, -, heq⟩
      · rw [hp] at hmem
        exact absurd hmem List.not_mem_nil
      · rw [hp] at hmem
        obtain rfl : row = o := insertion_injective (List.mem_singleton.mp hmem)
        have hview : l.view store = store.insertReservation row := by rw [Local.view, hp]; rfl
        rw [hview]
        exact (Hotel.mem_insertReservation ((heq s hs).symm.trans ha)).mpr (.inr rfl)
  seen q s hs r hrs := by
    have hs : Event.read q s ∈ l.hist := by simpa [Local.commit] using hs
    refine (h.seen q s hs r hrs).imp (fun hr => h.view_mono hr) fun hown => ?_
    obtain ⟨t, ht, ha⟩ := hown
    exact ⟨t, wrote_commit.mpr ht, ha⟩

/-- The COMMIT of another call, which does not touch the row of this one. -/
theorem Own.other {store' : Hotel} (h : Own store channel newId l)
    (hsub : ∀ r ∈ store.reservations, r ∈ store'.reservations)
    (hacc : ∀ row, insertion row ∈ l.pending → KeyLocked channel l → IsOwn channel newId row →
      store'.accepts row = store.accepts row) : Own store' channel newId l where
  pending := by
    rcases h.pending with hp | ⟨row, hp, hlock, ⟨s, hs⟩, heq⟩
    · exact .inl hp
    · have hmem : insertion row ∈ l.pending := by rw [hp]; exact List.mem_singleton_self _
      refine .inr ⟨row, hp, hlock, ⟨s, hs⟩, fun t ht => ?_⟩
      rw [heq t ht, hacc row hmem hlock (h.wrote row s hs).1]
  wrote row s hs :=
    ⟨(h.wrote row s hs).1, fun ha => ((h.wrote row s hs).2 ha).imp_left (hsub row)⟩
  seen q s hs r hrs := (h.seen q s hs r hrs).imp_left (hsub r)

end Own

/-! ### Over whole interleavings -/

/-- The calls before their first statement. -/
abbrev startCalls {ι : Type} (sha256 : String → String) (calls : ι → ConnectRequest) (h : Hotel) :
    Sys (hotelDb ConnectEnv) Failure ConnectReservation ι :=
  .init h fun i => createReservation sha256 (calls i)

section Reach

variable {ι : Type} {S S' : Sys (hotelDb ConnectEnv) Failure ConnectReservation ι}

/-- A commit inserted at most one row, which its call was let in with. -/
structure Committed (S : Sys (hotelDb ConnectEnv) Failure ConnectReservation ι)
    (c : Commit (hotelDb ConnectEnv) ι) : Prop where
  stays : Grown c.after S.store
  effect : c.after = c.before ∨ ∃ row s, Wrote (S.sessions c.who).loc row s ∧
    s.accepts row = true ∧ c.before.accepts row = true ∧ c.after = c.before.insertReservation row

theorem Committed.mono {c : Commit (hotelDb ConnectEnv) ι} (hc : Committed S c)
    (hs : Grown S.store S'.store)
    (hw : ∀ i row s, Wrote (S.sessions i).loc row s → Wrote (S'.sessions i).loc row s) :
    Committed S' c :=
  ⟨fun r hr => hs r (hc.stays r hr), hc.effect.imp_right fun ⟨row, s, hrow, rest⟩ =>
    ⟨row, s, hw _ row s hrow, rest⟩⟩

variable {h : Hotel} {sha256 : String → String} {calls : ι → ConnectRequest}

/-- What holds of the store, the calls and the commits in every interleaving that starts on `h`. -/
structure Books (h : Hotel) (sha256 : String → String) (calls : ι → ConnectRequest)
    (S : Sys (hotelDb ConnectEnv) Failure ConnectReservation ι) : Prop where
  rows : S.RowsExclusive
  locks : S.LocksExclusive
  unique : UniqueKeys S.store
  grown : Grown h S.store
  own : ∀ i, Own S.store ((calls i).channel sha256) (calls i).newId (S.sessions i).loc
  commits : ∀ c ∈ S.log, Committed S c
  order : S.log.Pairwise fun c c' => Grown c'.after c.before

/-- **A commit leaves what the other calls may insert.** The row lock keeps their ids apart, the
advisory lock their keys. -/
theorem Books.accepts_view (hb : Books h sha256 calls S) {i j : ι} (hji : j ≠ i)
    {row : Reservation} (hrow : insertion row ∈ (S.sessions j).loc.pending)
    (hlock : KeyLocked ((calls j).channel sha256) (S.sessions j).loc)
    (hown : IsOwn ((calls j).channel sha256) (calls j).newId row) :
    (S.view i).accepts row = S.store.accepts row := by
  rcases (hb.own i).pending with hp | ⟨o, hp, hlock', ⟨s, hs⟩, -⟩
  · rw [Sys.view, Local.view, hp]
    rfl
  · have hview : S.view i = S.store.insertReservation o := by
      rw [Sys.view, Local.view, hp]
      rfl
    have hmem : insertion o ∈ (S.sessions i).loc.pending := by
      rw [hp]
      exact List.mem_singleton_self _
    rw [hview]
    apply accepts_insertReservation
    · intro hid
      apply hji
      exact (hb.rows i j _ hmem _ hrow (congrArg HotelRow.reservation hid)).symm
    · refine ((hb.own i).wrote o s hs).1.otherKey hown fun x y hx hy hpp hkey => hji ?_
      have hi := hlock' x hx
      rw [hpp, hkey] at hi
      exact (hb.locks i j _ hi (hlock y hy)).symm

/-- The commit of a call inserts its row, or nothing. -/
theorem Books.commit_effect (hb : Books h sha256 calls S) {i : ι}
    (hc : (bookRules h ((calls i).channel sha256) (calls i).newId).commit (S.sessions i).loc) :
    S.view i = S.store ∨ ∃ row s, Wrote (S.sessions i).loc row s ∧ s.accepts row = true ∧
      S.store.accepts row = true ∧ S.view i = S.store.insertReservation row := by
  rcases (hb.own i).pending with hp | ⟨row, hp, -, -, heq⟩
  · left
    rw [Sys.view, Local.view, hp]
    rfl
  · right
    have hmem : insertion row ∈ (S.sessions i).loc.pending := by
      rw [hp]
      exact List.mem_singleton_self _
    obtain ⟨s, hs, ha⟩ := hc row hmem
    refine ⟨row, s, hs, ha, (heq s hs).symm.trans ha, ?_⟩
    rw [Sys.view, Local.view, hp]
    rfl

/-- The discipline of every call. -/
abbrev Disciplined (h : Hotel) (sha256 : String → String) (calls : ι → ConnectRequest)
    (S : Sys (hotelDb ConnectEnv) Failure ConnectReservation ι) : Prop :=
  AllObey (fun i => bookRules h ((calls i).channel sha256) (calls i).newId)
    (fun i => bookDone h sha256 (calls i)) S

variable [DecidableEq ι] {G : Guard (hotelDb ConnectEnv) Failure ConnectReservation ι}

theorem Books.put (hb : Books h sha256 calls S) {i : ι}
    {p : Prog (hotelDb ConnectEnv) Failure ConnectReservation} {l : Call}
    (hrows : (S.put i p l).RowsExclusive) (hlocks : (S.put i p l).LocksExclusive)
    (hown : Own S.store ((calls i).channel sha256) (calls i).newId l)
    (hw : ∀ row s, Wrote (S.sessions i).loc row s → Wrote l row s) :
    Books h sha256 calls (S.put i p l) where
  rows := hrows
  locks := hlocks
  unique := hb.unique
  grown := hb.grown
  own j := by
    by_cases hj : j = i
    · subst hj
      rw [Sys.put_self]
      exact hown
    · rw [Sys.put_of_ne S hj]
      exact hb.own j
  commits c hc := by
    refine (hb.commits c hc).mono (fun r hr => hr) fun j row s hrow => ?_
    by_cases hj : j = i
    · subst hj
      rw [Sys.put_self]
      exact hw row s hrow
    · rwa [Sys.put_of_ne S hj]
  order := hb.order

theorem Books.commit (hb : Books h sha256 calls S) {i : ι}
    {k : Prog (hotelDb ConnectEnv) Failure ConnectReservation}
    (hc : (bookRules h ((calls i).channel sha256) (calls i).newId).commit (S.sessions i).loc)
    (hrows : (S.doCommit i k).RowsExclusive) (hlocks : (S.doCommit i k).LocksExclusive) :
    Books h sha256 calls (S.doCommit i k) := by
  have hsub : Grown S.store (S.view i) := fun r hr => (hb.own i).view_mono hr
  have heffect := hb.commit_effect hc
  have hwrote : ∀ j row s, Wrote (S.sessions j).loc row s →
      Wrote ((S.doCommit i k).sessions j).loc row s := by
    intro j row s hrow
    by_cases hj : j = i
    · subst hj
      rw [Sys.doCommit_self]
      exact wrote_commit.mpr hrow
    · rwa [Sys.doCommit_of_ne S hj]
  refine ⟨hrows, hlocks, ?_, fun r hr => hsub r (hb.grown r hr), fun j => ?_, fun c hcm => ?_, ?_⟩
  · show UniqueKeys (S.view i)
    rcases heffect with hv | ⟨row, -, -, -, -, hv⟩
    · rw [hv]
      exact hb.unique
    · rw [hv]
      exact hb.unique.insert row
  · show Own (S.view i) _ _ _
    by_cases hj : j = i
    · subst hj
      rw [Sys.doCommit_self]
      exact (hb.own j).commit
    · rw [Sys.doCommit_of_ne S hj]
      exact (hb.own j).other hsub fun row hrow hlock hown => hb.accepts_view hj hrow hlock hown
  · rcases List.mem_cons.mp hcm with rfl | hcm
    · refine ⟨fun r hr => hr, heffect.imp_right fun ⟨row, s, hrow, hrest⟩ => ?_⟩
      exact ⟨row, s, hwrote i row s hrow, hrest⟩
    · exact (hb.commits c hcm).mono hsub hwrote
  · exact List.pairwise_cons.mpr ⟨fun c hcm => (hb.commits c hcm).stays, hb.order⟩

theorem Books.step (hb : Books h sha256 calls S) (ho : Disciplined h sha256 calls S)
    (hv : ∀ i, Grown h (S.view i)) (hs : Step G S S') : Books h sha256 calls S' := by
  have hrows := hb.rows.step hs
  have hlocks := hb.locks.step hs
  cases hs with
  | read i q k hp =>
    refine hb.put hrows hlocks ((hb.own i).quiet rfl (fun x hx => hx) (fun _ _ => wrote_read)
      fun q' s hq => ?_) fun row s => wrote_read.mpr
    rcases List.mem_cons.mp hq with heq | hq
    · cases heq
      exact .inr rfl
    · exact .inl hq
  | write i r f k hp hr hg =>
    obtain ⟨row, heq, hown, hfresh, hlock⟩ := ho.write hp (hv i)
    cases heq
    refine hb.put hrows hlocks ((hb.own i).write hown hfresh hlock) fun o s hw => ?_
    exact absurd hw (hfresh.wrote o s)
  | lock i x k hp hx =>
    refine hb.put hrows hlocks ((hb.own i).quiet rfl (fun x hx => List.mem_cons_of_mem _ hx)
      (fun _ _ => wrote_lock) fun q s hq => ?_) fun row s => wrote_lock.mpr
    exact .inl ((List.mem_cons.mp hq).resolve_left nofun)
  | commit i k hp hg => exact hb.commit (ho.commit hp) hrows hlocks
  | rollback i k hp =>
    exact hb.put hrows hlocks ((hb.own i).rollback (ho.rollback hp)) fun row s => wrote_rollback.mpr
  | ask i k e hp =>
    refine hb.put hrows hlocks ((hb.own i).quiet rfl (fun x hx => hx) (fun _ _ => wrote_ask)
      fun q s hq => ?_) fun row s => wrote_ask.mpr
    exact .inl ((List.mem_cons.mp hq).resolve_left nofun)

/-- **What holds in every interleaving of calls.** -/
theorem reach_books (hu : UniqueKeys h) (hr : Reach G (startCalls sha256 calls h) S) :
    Books h sha256 calls S ∧ Disciplined h sha256 calls S := by
  have hview : ∀ S, Books h sha256 calls S → ∀ i, Grown h (S.view i) :=
    fun S hb i r hrow => (hb.own i).view_mono (hb.grown r hrow)
  have h₀ : Books h sha256 calls (startCalls sha256 calls h) := by
    refine ⟨fun i j w hw => ?_, fun i j x hx => ?_, hu, fun r hr => hr, fun i => .init, nofun, .nil⟩
    · exact absurd hw List.not_mem_nil
    · exact absurd hx List.not_mem_nil
  exact Reach.obeys h₀ (fun i => createReservation_obeys h sha256 (calls i))
    (fun S hb _ i => hview S hb i) (fun S S' hb ho hs => hb.step ho (hview S hb) hs) hr

end Reach

/-! ## The contract of a key -/

/-- A reservation of a partner's key. -/
def Reservation.HasKey (r : Reservation) (p : PartnerId) (k : IdempotencyKey) : Prop :=
  r.partnerId = some p ∧ r.partnerIdempotencyKey = some k.text

/-- A call with a partner's key. -/
def ConnectRequest.Carries (q : ConnectRequest) (p : PartnerId) (k : IdempotencyKey) : Prop :=
  q.partnerId = p ∧ q.header = .one k.text

/-- The hash of the body of a call. -/
def ConnectRequest.payloadHash (sha256 : String → String) (q : ConnectRequest) : String :=
  sha256 q.dto.original

/-- The commit inserted a reservation of the key. -/
def Commit.Inserts {ι : Type} (c : Commit (hotelDb ConnectEnv) ι) (p : PartnerId)
    (k : IdempotencyKey) : Prop :=
  ∃ r ∈ c.after.reservations, r ∉ c.before.reservations ∧ r.HasKey p k

/-- No commit of the call changed the store. -/
def InsertedNothing {ι : Type} (S : Sys (hotelDb ConnectEnv) Failure ConnectReservation ι) (i : ι) :
    Prop :=
  ∀ c ∈ S.log, c.who = i → c.after = c.before

/-- A call has been answered: by a reservation, or by an error. -/
def Answered {ι : Type} (S : Sys (hotelDb ConnectEnv) Failure ConnectReservation ι) (i : ι)
    (answer : Except Failure ConnectReservation) : Prop :=
  (S.sessions i).prog = match answer with
    | .ok a => .ret a
    | .error x => .throw x

/-- **The contract of a key**, for the calls `calls` that began on the store `h`. -/
structure Idempotent {ι : Type} (h : Hotel) (sha256 : String → String)
    (calls : ι → ConnectRequest) (p : PartnerId) (k : IdempotencyKey)
    (S : Sys (hotelDb ConnectEnv) Failure ConnectReservation ι) : Prop where
  /-- Of all commits at most one inserts a reservation of the key. -/
  once : S.log.Pairwise fun c c' => ¬(c.Inserts p k ∧ c'.Inserts p k)
  unique : ∀ a ∈ S.store.reservations, ∀ b ∈ S.store.reservations,
    a.HasKey p k → b.HasKey p k → a = b
  /-- A successful answer names the reservation of the key. -/
  named : ∀ i a, (calls i).Carries p k → Answered S i (.ok a) →
    ∃ row ∈ S.store.reservations, row.HasKey p k ∧ a = row.created.answer (calls i).tenant
  /-- A call with another body inserts nothing, has no success, and its error is the key conflict
  unless the reservation was committed after its last lookup of the key. -/
  conflict : ∀ i, (calls i).Carries p k → ∀ row ∈ S.store.reservations, row.HasKey p k →
    row.channelManaged = true → row.partnerPayloadHash ≠ some ((calls i).payloadHash sha256) →
    InsertedNothing S i ∧ (∀ a, ¬Answered S i (.ok a)) ∧ ∀ x, Answered S i (.error x) →
      x = keyConflict ∨ row ∉ h.reservations ∧
        ∃ s, lastLookup (S.sessions i).loc = some s ∧ row ∉ s.reservations
  /-- The rejection code: nothing was inserted, and the last lookup found nothing. -/
  rejected : ∀ i x, (calls i).Carries p k → Answered S i (.error x) →
    x.code = some RESERVATION_CREATE_REJECTED_CODE →
    InsertedNothing S i ∧
      ∃ s, lastLookup (S.sessions i).loc = some s ∧ ∀ row ∈ s.reservations,
        row.channelManaged = true → ¬row.HasKey p k

section Contract

variable {ι : Type} {h : Hotel} {sha256 : String → String} {calls : ι → ConnectRequest}
  {p : PartnerId} {k : IdempotencyKey}
  {S : Sys (hotelDb ConnectEnv) Failure ConnectReservation ι} {i : ι}

theorem ConnectRequest.Carries.channel {q : ConnectRequest} (hq : q.Carries p k) :
    q.channel sha256 = ⟨p, some ⟨k.text, q.payloadHash sha256⟩⟩ := by
  obtain ⟨rfl, hk⟩ := hq
  simp [ConnectRequest.channel, channelContext, hk, k.token, ConnectRequest.payloadHash]

theorem channelRow_eq_some {s : Hotel} {row : Reservation}
    (hrow : s.channelRow p k.text = some row) : row ∈ s.reservations ∧ row.HasKey p k := by
  have hmem := List.mem_of_find?_eq_some hrow
  have hkey := List.find?_some hrow
  simp only [Bool.and_eq_true, decide_eq_true_eq] at hkey
  exact ⟨hmem, hkey.1.1, hkey.2⟩

theorem channelRow_eq_none {s : Hotel} (hs : s.channelRow p k.text = none) :
    ∀ row ∈ s.reservations, row.channelManaged = true → ¬row.HasKey p k := by
  intro row hrow hm hkey
  have := List.find?_eq_none.mp hs row hrow
  simp [hm, hkey.1, hkey.2] at this

theorem IsOwn.hasKey {row : Reservation} {n : ReservationId} {q : ConnectRequest}
    (hq : q.Carries p k) (hown : IsOwn (q.channel sha256) n row) :
    row.HasKey p k ∧ row.partnerPayloadHash = some (q.payloadHash sha256) := by
  have hkey := hown.key
  have hpartner := hown.partner
  have hpayload := hown.payload
  rw [hq.channel] at hkey hpartner hpayload
  exact ⟨⟨hpartner, hkey⟩, hpayload⟩

/-- Two reservations of the key are one. -/
theorem Books.hasKey_unique (hb : Books h sha256 calls S) {a b : Reservation}
    (ha : a ∈ S.store.reservations) (hb' : b ∈ S.store.reservations) (hka : a.HasKey p k)
    (hkb : b.HasKey p k) : a = b := by
  refine hb.unique a ha b hb' ?_ ?_ (hka.1.trans hkb.1.symm) (hka.2.trans hkb.2.symm)
  · rw [hka.1]
    exact nofun
  · rw [hka.2]
    exact nofun

/-- What an answered call found is committed, under its key and its body. -/
theorem Books.found (hb : Books h sha256 calls S) (hq : (calls i).Carries p k)
    (hp : (S.sessions i).loc.pending = []) {c : CreatedReservation}
    (hf : Found ((calls i).channel sha256) (calls i).newId (S.sessions i).loc c) :
    ∃ row ∈ S.store.reservations, row.HasKey p k ∧
      row.partnerPayloadHash = some ((calls i).payloadHash sha256) ∧ row.created = c := by
  -- an INSERT that was let in is committed, since nothing is open
  have hwrote : ∀ row s, Wrote (S.sessions i).loc row s → s.accepts row = true →
      row ∈ S.store.reservations := by
    intro row s hw ha
    refine (((hb.own i).wrote row s hw).2 ha).resolve_right fun hmem => ?_
    rw [hp] at hmem
    exact absurd hmem List.not_mem_nil
  cases hf with
  | @replayed idem s row hi hs hrow hpay =>
    rw [hq.channel] at hi hrow
    cases hi
    obtain ⟨hmem, hkey⟩ := channelRow_eq_some hrow
    refine ⟨row, ?_, hkey, hpay, rfl⟩
    rcases (hb.own i).seen _ s hs row hmem with hr | ⟨t, hw, ha⟩
    · exact hr
    · exact hwrote row t hw ha
  | @inserted s row hown hw ha =>
    obtain ⟨hkey, hpay⟩ := hown.hasKey hq
    exact ⟨row, hwrote row s hw ha, hkey, hpay, rfl⟩

/-- A call none of whose INSERTs was let in has inserted nothing. -/
theorem Books.insertedNothing (hb : Books h sha256 calls S)
    (hnot : ∀ row s, Wrote (S.sessions i).loc row s → s.accepts row = true →
      row ∈ S.store.reservations → False) : InsertedNothing S i := by
  rintro c hc rfl
  rcases (hb.commits c hc).effect with heq | ⟨row, s, hw, ha, hacc, hafter⟩
  · exact heq
  · refine (hnot row s hw ha ((hb.commits c hc).stays row ?_)).elim
    rw [hafter]
    exact (Hotel.mem_insertReservation hacc).mpr (.inr rfl)

/-- **Idempotent partner booking.** In every interleaving of calls, one key has one reservation, and
the answers say so. -/
theorem idempotent_reach [DecidableEq ι]
    {G : Guard (hotelDb ConnectEnv) Failure ConnectReservation ι} (hu : UniqueKeys h)
    (p : PartnerId) (k : IdempotencyKey) (hr : Reach G (startCalls sha256 calls h) S) :
    Idempotent h sha256 calls p k S := by
  obtain ⟨hb, ho⟩ := reach_books hu hr
  refine ⟨?_, fun a ha b hb' => hb.hasKey_unique ha hb', ?_, ?_, ?_⟩
  · -- the later commit began on a store that has the row of the earlier one
    refine hb.order.imp_of_mem fun {c c'} hc hc' hsub ⟨hins, hins'⟩ => ?_
    obtain ⟨a, ha, hnew, hka⟩ := hins
    obtain ⟨b, hbm, -, hkb⟩ := hins'
    have hab : a = b := hb.hasKey_unique ((hb.commits c hc).stays a ha)
      ((hb.commits c' hc').stays b hbm) hka hkb
    exact hnew (hab ▸ hsub b hbm)
  · intro i a hq ha
    obtain ⟨hp, c, hf, rfl⟩ := ho.ret ha
    obtain ⟨row, hmem, hkey, -, rfl⟩ := hb.found hq hp hf
    exact ⟨row, hmem, hkey, rfl⟩
  · intro i hq row hmem hkey hm hpay
    have hother : ∀ o ∈ S.store.reservations, o.HasKey p k →
        o.partnerPayloadHash ≠ some ((calls i).payloadHash sha256) := by
      intro o ho' hko
      rw [hb.hasKey_unique ho' hmem hko hkey]
      exact hpay
    refine ⟨hb.insertedNothing fun o s hw _ ho' => ?_, fun a ha => ?_, fun x hx => ?_⟩
    · obtain ⟨hko, hpo⟩ := ((hb.own i).wrote o s hw).1.hasKey hq
      exact hother o ho' hko hpo
    · obtain ⟨hp, c, hf, -⟩ := ho.ret ha
      obtain ⟨o, ho', hko, hpo, -⟩ := hb.found hq hp hf
      exact hother o ho' hko hpo
    · have hrefused : Refused h ((calls i).channel sha256) (S.sessions i).loc x := ho.throw hx
      rw [hq.channel] at hrefused
      obtain ⟨s, hs, hgrown, ⟨o, -, -, rfl⟩ | ⟨hnone, -⟩⟩ := hrefused _ rfl
      · exact .inl rfl
      · have hnot : row ∉ s.reservations := fun hrow => channelRow_eq_none hnone row hrow hm hkey
        exact .inr ⟨fun hrow => hnot (hgrown row hrow), s, hs, hnot⟩
  · intro i x hq hx hcode
    have hrefused : Refused h ((calls i).channel sha256) (S.sessions i).loc x := ho.throw hx
    rw [hq.channel] at hrefused
    obtain ⟨s, hs, -, ⟨o, -, -, rfl⟩ | ⟨hnone, hnot⟩⟩ := hrefused _ rfl
    · exact absurd hcode nofun
    · refine ⟨hb.insertedNothing fun o t hw ha _ => ?_, s, hs, channelRow_eq_none hnone⟩
      rw [hnot hcode o t hw] at ha
      cases ha

end Contract

/-! ## A retry that overlaps its first call -/

def sentTwice (b : Bool) : ConnectRequest :=
  ⟨⟨1, "inn"⟩, .oneNight, 1, .one "k", if b then 1 else 2⟩

/-- Both calls have looked the key up. -/
def bothLooked : Sys (hotelDb ConnectEnv) Failure ConnectReservation Bool :=
  (startCalls id sentTwice (.oneRoom false)).play [true, true, false, false]

/-- The first call has booked the only room. -/
def firstBooked : Sys (hotelDb ConnectEnv) Failure ConnectReservation Bool :=
  ((bothLooked.reply true ConnectEnv.noPlans).play
    [true, true, true, true, true, true, true, true, true]).reply true ConnectEnv.noPlans

/-- The second call finds no room, and its last lookup finds the reservation. -/
def bothAnswered : Sys (hotelDb ConnectEnv) Failure ConnectReservation Bool :=
  (firstBooked.reply false ConnectEnv.noPlans).play [false, false, false, false, false]

theorem idempotent_reach_retry :
    Idempotent (.oneRoom false) id sentTwice 1 ⟨"k", by decide⟩ bothAnswered := by
  have hlooked : Reach .any (startCalls id sentTwice (.oneRoom false)) bothLooked := by
    apply Reach.refl.play
    decide +kernel
  have hbooked : Reach .any (startCalls id sentTwice (.oneRoom false)) firstBooked := by
    apply Reach.reply
    apply (hlooked.reply true ConnectEnv.noPlans).play
    decide +kernel
  have hanswered : Reach .any (startCalls id sentTwice (.oneRoom false)) bothAnswered := by
    apply (hbooked.reply false ConnectEnv.noPlans).play
    decide +kernel
  have hu : UniqueKeys (.oneRoom false) := fun a ha => absurd ha (Table.not_mem_empty a)
  exact idempotent_reach hu 1 ⟨"k", by decide⟩ hanswered

/-- Both calls are answered by the one reservation. -/
example : ∀ b, (match (bothAnswered.sessions b).prog with
    | .ret a => a.id == 1
    | _ => false) = true := by
  decide +kernel

end KarsHotel
