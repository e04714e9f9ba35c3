import KarsHotel.Reservations.Sessions

/-!
# Versions and lost updates

`update` and `swap` compare the version they carry in application code, after a plain SELECT, and
write the row by its id later. `onCarriedVersion` says when that is enough: every such write finds
the committed version still the carried one.

* `Raises`: what a committed operation does to the stored versions; `Deed.raises`;
* `NoLostUpdate`: at most one commit a carried version, every commit raises the version by one, no
  commit over a newer row, stale requests are refused;
* **`noLostUpdate_reach`**: it holds in every system reached under `onCarriedVersion`.
-/

namespace KarsHotel

/-! ## Operations on existing reservations -/

/-- The operations on reservations that are there: not a creation, not the folio service. -/
def Op.IsChange : Op → Prop
  | .create .. => False
  | .folios _ => False
  | _ => True

/-- The reservations an operation changes when it ends well. -/
def Op.touched : Op → List ReservationId
  | .update id _ _ _ => [id]
  | .swap dto => [dto.idA, dto.idB]
  | .cancel id _ _ => [id]
  | .recordFact id _ _ _ => [id]
  | _ => []

theorem Op.touched_of_carried {op : Op} {c : ReservationId × ℕ} (hc : c ∈ op.carried) :
    c.1 ∈ op.touched := by
  cases op <;> simp only [carried, touched, List.mem_cons, List.not_mem_nil, or_false] at hc ⊢
  · rw [hc]
  · rcases hc with rfl | rfl <;> simp

/-- The versions of the touched reservations go up by one; the others stay as they are. -/
structure Raises (touched : List ReservationId) (h h' : Hotel) : Prop where
  raised : ∀ id ∈ touched, h'.version id = (h.version id).map (· + 1)
  kept : ∀ id ∉ touched, h'.reservations.find id = h.reservations.find id

theorem Rewrites.raises {h h' : Hotel} {id : ReservationId} {g : Reservation → Reservation}
    {hg : ∀ r, (g r).id = r.id} (hr : Rewrites h h' id g hg)
    (hv : ∀ r, (g r).version = r.version + 1) : Raises [id] h h' := by
  refine ⟨fun k hk => ?_, fun k hk => ?_⟩
  · rw [List.mem_singleton.mp hk, Hotel.version, Hotel.version, hr.rows, Table.find_modify_self,
      Option.map_map, Option.map_map]
    exact congrArg (Option.map · _) (funext hv)
  · rw [hr.rows, Table.find_modify_of_ne (by simpa using hk)]

theorem Reservation.stamp_version (m : Moment) (f : Fact) (r : Reservation) :
    (r.stamp m f).version = r.version := by cases f <;> rfl

theorem UpdateReservationDto.result_version (dto : UpdateReservationDto) (cur : Reservation)
    (stay : PartnerStayInfo) (now : Moment) (roomTypeId : RoomTypeId) (p : ℕ)
    (stored : Reservation) :
    (dto.result cur stay now roomTypeId p stored).version = stored.version + 1 := by
  unfold UpdateReservationDto.result
  cases dto.fact cur with
  | none => rfl
  | some fact => exact Reservation.stamp_version now fact _

/-- **What a committed operation does to the versions.** -/
theorem Deed.raises {seen : HotelQuery → Hotel → Prop} {op : Op} {ws : Writes}
    (hd : Deed seen op ws) (hop : op.IsChange) (h : Hotel) :
    Raises op.touched h (Writes.apply ws h) := by
  cases hd with
  | replayed | created | folios => exact absurd hop id
  | @updated id dto opts now s cur p roomTypeId =>
    exact (rewrites_result h id dto cur opts.stay now roomTypeId p).raises
      (dto.result_version cur opts.stay now roomTypeId p)
  | @swapped dto s rowA rowB hs hne =>
    have hA := (rewrites_update h dto.idA (·.movedTo rowB.placeNumber) fun _ => rfl).raises
      fun _ => rfl
    have hB := (rewrites_update (h.updateReservation dto.idA (·.movedTo rowB.placeNumber))
      dto.idB (·.movedTo rowA.placeNumber) fun _ => rfl).raises fun _ => rfl
    have version_eq : ∀ {a b : Hotel} {k}, a.reservations.find k = b.reservations.find k →
        a.version k = b.version k := fun h => congrArg (Option.map _) h
    rw [Writes.apply_cons, Writes.apply_cons, Writes.apply_nil]
    refine ⟨fun k hk => ?_, fun k hk => ?_⟩
    · simp only [Op.touched, List.mem_cons, List.not_mem_nil, or_false] at hk
      rcases hk with rfl | rfl
      · exact (version_eq (hB.kept _ (by simpa using hne))).trans (hA.raised _ (by simp))
      · rw [hB.raised _ (by simp)]
        exact congrArg _ (version_eq (hA.kept _ (by simpa using hne.symm)))
    · simp only [Op.touched, List.mem_cons, List.not_mem_nil, or_false, not_or] at hk
      exact (hB.kept k (by simpa using hk.2)).trans (hA.kept k (by simpa using hk.1))
  | @cancelled id reason =>
    exact (rewrites_update h id (·.cancelledFor reason) fun _ => rfl).raises fun _ => rfl
  | @recorded id fact moment now s cur =>
    exact (rewrites_stamp h id (·.withStatus fact.status) (fun _ => rfl) cur.roomId
      (moment.getD now) fact).raises fun r => Reservation.stamp_version _ fact _

theorem Deed.found {seen : HotelQuery → Hotel → Prop} {op : Op} {ws : Writes}
    (hd : Deed seen op ws) {id : ReservationId} (hid : id ∈ op.touched) :
    ∃ q s, seen q s ∧ (s.reservations.find id).isSome = true := by
  cases hd with
  | replayed | created | folios => exact absurd hid List.not_mem_nil
  | updated hs hcur | cancelled hs hcur | recorded hs hcur =>
    rw [List.mem_singleton.mp hid]
    exact ⟨_, _, hs, by rw [hcur, Option.isSome_some]⟩
  | swapped hs hne hA hB =>
    simp only [Op.touched, List.mem_cons, List.not_mem_nil, or_false] at hid
    rcases hid with rfl | rfl
    · exact ⟨_, _, hs, by rw [hA, Option.isSome_some]⟩
    · exact ⟨_, _, hs, by rw [hB, Option.isSome_some]⟩

theorem Deed.writes_touched {seen : HotelQuery → Hotel → Prop} {op : Op} {ws : Writes}
    (hd : Deed seen op ws) {id : ReservationId} (hid : id ∈ op.touched) :
    ∃ w ∈ ws, w.1 = .reservation id := by
  cases hd with
  | replayed | created | folios => exact absurd hid List.not_mem_nil
  | updated | cancelled | recorded =>
    rw [List.mem_singleton.mp hid]
    exact ⟨_, List.mem_cons_self, rfl⟩
  | swapped =>
    simp only [Op.touched, List.mem_cons, List.not_mem_nil, or_false] at hid
    rcases hid with rfl | rfl
    · exact ⟨_, List.mem_cons_self, rfl⟩
    · exact ⟨_, List.mem_cons_of_mem _ List.mem_cons_self, rfl⟩

theorem Deed.current {seen : HotelQuery → Hotel → Prop} {op : Op} {ws : Writes}
    (hd : Deed seen op ws) (hc : op.carried ≠ []) : ∃ s, seen op.query s ∧ op.Current s := by
  cases hd with
  | replayed | created | folios | cancelled | recorded => exact absurd rfl hc
  | updated hs hcur hv =>
    refine ⟨_, hs, fun c hc => ?_⟩
    rw [List.mem_singleton.mp hc, Hotel.version, hcur]
    exact congrArg some hv
  | swapped hs hne hA hB hvA hvB =>
    refine ⟨_, hs, ?_⟩
    simp [Op.Current, Op.carried, Hotel.version, hA, hB, hvA, hvB]

/-! ## The rule -/

/-- **No lost update**, in what has been committed and answered so far. -/
structure NoLostUpdate {ι : Type} (ops : ι → Op) (S : Sys (hotelDb Unit) Failure Unit ι) :
    Prop where
  /-- Of the operations that carry one version of a reservation, at most one commits. -/
  once : ∀ i j c, c ∈ (ops i).carried → c ∈ (ops j).carried → S.Committed i → S.Committed j → i = j
  /-- Every commit raises the versions of its reservations by one and leaves the others alone. -/
  raises : ∀ c ∈ S.log, Raises (ops c.who).touched c.before c.after ∧
    ∀ id ∈ (ops c.who).touched, (c.before.version id).isSome = true
  /-- No commit is made over a row that is newer than its version. -/
  current : ∀ c ∈ S.log, (ops c.who).Current c.before
  /-- A refused operation has committed nothing. -/
  refused : ∀ i x, (S.sessions i).prog = .throw x → ¬S.Committed i
  /-- An operation that has read newer rows only ends in the conflict error. -/
  stale : ∀ i, (ops i).carried ≠ [] → (∀ s, Event.read (ops i).query s ∈ (S.sessions i).loc.hist →
    (ops i).Known s ∧ ¬(ops i).Current s) → (∀ a, (S.sessions i).prog ≠ .ret a) ∧
      ∀ x, (S.sessions i).prog = .throw x → x = (ops i).conflict

/-- Every row an `update` or `swap` writes has, in the committed store, the version it carries. -/
def onCarriedVersion {ι : Type} (ops : ι → Op) : Guard (hotelDb Unit) Failure Unit ι where
  write S i r := ∀ c ∈ (ops i).carried, r = .reservation c.1 → S.store.version c.1 = some c.2
  commit _ _ := True

/-! ## Versions only grow -/

/-- Every reservation of `s` is in `t` with a version at least as high. -/
def VersionsLe (s t : Hotel) : Prop :=
  ∀ id v, s.version id = some v → ∃ v', v ≤ v' ∧ t.version id = some v'

theorem VersionsLe.refl (s : Hotel) : VersionsLe s s := fun _ v h => ⟨v, le_rfl, h⟩

theorem VersionsLe.trans {s t u : Hotel} (a : VersionsLe s t) (b : VersionsLe t u) :
    VersionsLe s u := by
  intro id v h
  obtain ⟨v', hv, h'⟩ := a id v h
  obtain ⟨v'', hv', h''⟩ := b id v' h'
  exact ⟨v'', hv.trans hv', h''⟩

theorem Raises.version_of_not_mem {touched : List ReservationId} {h h' : Hotel}
    (hr : Raises touched h h') {id : ReservationId} (hid : id ∉ touched) :
    h'.version id = h.version id := congrArg (Option.map _) (hr.kept id hid)

theorem Raises.le {touched : List ReservationId} {h h' : Hotel} (hr : Raises touched h h') :
    VersionsLe h h' := by
  intro id v hv
  by_cases hid : id ∈ touched
  · exact ⟨v + 1, Nat.le_succ v, by rw [hr.raised id hid, hv]; rfl⟩
  · exact ⟨v, le_rfl, by rw [hr.version_of_not_mem hid, hv]⟩

/-! ## Every interleaving -/

section Reach

variable {ι : Type} {ops : ι → Op} {h : Hotel} {S S' : Sys (hotelDb Unit) Failure Unit ι}

/-- The reservations of the initial store and no others. -/
def SameIds (h s : Hotel) : Prop :=
  ∀ id, (s.reservations.find id).isSome = (h.reservations.find id).isSome

theorem sameIds_keptByWrites (hops : ∀ i, (ops i).IsChange) (h : Hotel) :
    KeptByWrites ops (SameIds h) := by
  intro i r f s hw hs
  have hop := hops i
  generalize ops i = op at hw hop
  cases hw with
  | insert => exact absurd hop id
  | update _ k f hf _ =>
    intro id
    rw [← hs id, Hotel.updateReservation_reservations]
    by_cases hid : id = k
    · subst hid
      rw [Table.find_modify_self, Option.isSome_map]
    · rw [Table.find_modify_of_ne hid]
  | room _ k st => exact hs

/-- What is known of the commits so far and of the writes under way. -/
structure VersionInv (ops : ι → Op) (S : Sys (hotelDb Unit) Failure Unit ι) : Prop where
  held : ∀ i, ∀ c ∈ (ops i).carried, ∀ w ∈ (S.sessions i).loc.pending,
    w.1 = .reservation c.1 → S.store.version c.1 = some c.2
  raises : ∀ c ∈ S.log, Raises (ops c.who).touched c.before c.after ∧
    ∀ id ∈ (ops c.who).touched, (c.before.version id).isSome = true
  current : ∀ c ∈ S.log, (ops c.who).Current c.before
  grown : ∀ c ∈ S.log, VersionsLe c.after S.store
  chain : S.log.Pairwise fun d c => VersionsLe c.after d.before

/-- A commit, step by step: the versions it carries still are the stored ones, and go up by one. -/
theorem VersionInv.commit (hops : ∀ i, (ops i).IsChange) (hv : VersionInv ops S)
    (hb : Base ops S) (hs : SameIds h S.store) {i : ι}
    (hd : Deed (Recalled (SameIds h) (S.sessions i).loc) (ops i) (S.sessions i).loc.pending)
    (hstore : S'.store = S.view i) (hlog : S'.log = ⟨i, S.store, S.view i⟩ :: S.log)
    (hp : ∀ j, ∀ w ∈ (S'.sessions j).loc.pending, j ≠ i ∧ w ∈ (S.sessions j).loc.pending) :
    VersionInv ops S' := by
  have hr : Raises (ops i).touched S.store (S.view i) := hd.raises (hops i) S.store
  have hsome : ∀ id ∈ (ops i).touched, (S.store.version id).isSome = true := by
    intro id hid
    obtain ⟨q, s, ⟨-, hids⟩, hfound⟩ := hd.found hid
    rw [Hotel.version, Option.isSome_map, hs id, ← hids id, hfound]
  have hcur : (ops i).Current S.store := by
    intro c hc
    obtain ⟨w, hw, hrow⟩ := hd.writes_touched (Op.touched_of_carried hc)
    exact hv.held i c hc w hw hrow
  constructor
  · intro j c hc w hw hrow
    obtain ⟨hji, hw⟩ := hp j w hw
    -- a row `j` has written is closed to `i`, so the commit leaves its version
    have hnot : c.1 ∉ (ops i).touched := fun hid => by
      obtain ⟨w', hw', hrow'⟩ := hd.writes_touched hid
      exact hji (hb.rows j i w hw w' hw' (hrow.trans hrow'.symm))
    rw [hstore, hr.version_of_not_mem hnot]
    exact hv.held j c hc w hw hrow
  · rw [hlog]
    exact List.forall_mem_cons.mpr ⟨⟨hr, hsome⟩, hv.raises⟩
  · rw [hlog]
    exact List.forall_mem_cons.mpr ⟨hcur, hv.current⟩
  · rw [hlog, hstore]
    exact List.forall_mem_cons.mpr ⟨.refl _, fun c hc => (hv.grown c hc).trans hr.le⟩
  · rw [hlog]
    exact List.pairwise_cons.mpr ⟨hv.grown, hv.chain⟩

theorem versionInv_reach [DecidableEq ι] (hops : ∀ i, (ops i).IsChange)
    (hr : Reach (onCarriedVersion ops) (start h ops) S) : VersionInv ops S := by
  induction hr with
  | refl =>
    refine ⟨fun i c hc w hw => ?_, fun c hc => ?_, fun c hc => ?_, fun c hc => ?_, List.Pairwise.nil⟩
    · exact absurd hw List.not_mem_nil
    all_goals exact absurd hc List.not_mem_nil
  | @step S S' hr hs hv =>
    obtain ⟨hb, hids, hobey⟩ := reach_base (sameIds_keptByWrites hops h) (fun _ => rfl) hr
    cases hs.effect with
    | quiet hst hl hp =>
      refine ⟨fun i c hc w hw hrow => ?_, ?_, ?_, ?_, ?_⟩
      · rw [hst]
        exact hv.held i c hc w (hp i w hw) hrow
      · rw [hl]; exact hv.raises
      · rw [hl]; exact hv.current
      · rw [hl, hst]; exact hv.grown
      · rw [hl]; exact hv.chain
    | write i r f k hprog hfree hg hst hl hp =>
      refine ⟨fun j c hc w hw hrow => ?_, ?_, ?_, ?_, ?_⟩
      · rw [hst]
        rcases hp j w hw with hw | ⟨rfl, rfl⟩
        · exact hv.held j c hc w hw hrow
        · exact hg c hc hrow
      · rw [hl]; exact hv.raises
      · rw [hl]; exact hv.current
      · rw [hl, hst]; exact hv.grown
      · rw [hl]; exact hv.chain
    | commit i k hprog hg hst hl hp =>
      exact hv.commit hops hb hids (hobey.commit hprog) hst hl hp

/-- Of two commits one comes after the other. -/
theorem VersionInv.ordered (hv : VersionInv ops S) {a b : Commit (hotelDb Unit) ι} (ha : a ∈ S.log)
    (hb : b ∈ S.log) (hab : a ≠ b) : VersionsLe b.after a.before ∨ VersionsLe a.after b.before := by
  let R : Commit (hotelDb Unit) ι → Commit (hotelDb Unit) ι → Prop := fun x y =>
    VersionsLe y.after x.before ∨ VersionsLe x.after y.before
  have : Std.Symm R := ⟨fun _ _ => Or.symm⟩
  have hpair : S.log.Pairwise R := hv.chain.imp Or.inl
  exact hpair.forall ha hb hab

/-- Two commits that carry one version of a reservation are the same one. -/
theorem VersionInv.once (hv : VersionInv ops S) {a b : Commit (hotelDb Unit) ι} (ha : a ∈ S.log)
    (hb : b ∈ S.log) {c : ReservationId × ℕ} (hca : c ∈ (ops a.who).carried)
    (hcb : c ∈ (ops b.who).carried) : a = b := by
  by_contra hab
  -- the later of the two would find a version higher than the one it carries
  have later : ∀ x y : Commit (hotelDb Unit) ι, x ∈ S.log → y ∈ S.log →
      c ∈ (ops x.who).carried → c ∈ (ops y.who).carried → ¬VersionsLe y.after x.before := by
    intro x y hx hy hcx hcy hle
    have hafter : y.after.version c.1 = some (c.2 + 1) := by
      rw [(hv.raises y hy).1.raised c.1 (Op.touched_of_carried hcy), hv.current y hy c hcy]
      rfl
    obtain ⟨v, hge, hx'⟩ := hle c.1 (c.2 + 1) hafter
    have := (hv.current x hx c hcx).symm.trans hx'
    have := Option.some.inj this
    omega
  rcases hv.ordered ha hb hab with hle | hle
  · exact later a b ha hb hca hcb hle
  · exact later b a hb ha hcb hca hle

/-- **No lost update.** In every interleaving of updates, swaps, cancellations and facts whose
writes find the committed version still the carried one, no update is lost. -/
theorem noLostUpdate_reach [DecidableEq ι] (hops : ∀ i, (ops i).IsChange)
    (hr : Reach (onCarriedVersion ops) (start h ops) S) : NoLostUpdate ops S := by
  have hv := versionInv_reach hops hr
  obtain ⟨hb, -, hobey⟩ := reach_base (sameIds_keptByWrites hops h) (fun _ => rfl) hr
  refine ⟨fun i j c hi hj => ?_, hv.raises, hv.current,
    fun i x hp => hb.oneShot.not_committed hp, fun i hc hstale => ⟨fun a hp => ?_, fun x hp => ?_⟩⟩
  · rintro ⟨a, ha, rfl⟩ ⟨b, hb, rfl⟩
    rw [hv.once ha hb hi hj]
  · obtain ⟨ws, hd⟩ := hobey.ret hp
    obtain ⟨s, hs, hcur⟩ := hd.current hc
    exact (hstale s hs.1).2 hcur
  · have hx : Refusal (Recalled (SameIds h) (S.sessions i).loc) (ops i) x := hobey.throw hp
    rcases hx hc with hx | ⟨s, hs, hcur⟩
    · exact hx
    · exact absurd (hcur (hstale s hs.1).1) (hstale s hs.1).2

end Reach

/-! ## Two updates of one reservation -/

def Hotel.booked : Hotel := run (.oneRoom false) [.create .oneNight .empty none 1]

/-- Two patches of the booking's notes that carry version 1. -/
def twoNotes (b : Bool) : Op :=
  .update 1 { UpdateReservationDto.ofVersion 1 with notes := .val (if b then "late" else "early") }
    .form 0

/-- One after the other: the second one is refused. -/
theorem noLostUpdate_reach_twoNotes : NoLostUpdate twoNotes
    ((start .booked twoNotes).play [true, true, true, false, false]) := by
  refine noLostUpdate_reach (h := .booked) (fun _ => trivial) (Reach.refl.play ?_)
  refine ⟨trivial, ⟨by decide, fun c hc _ => ?_⟩, trivial, trivial, trivial, trivial⟩
  rw [List.mem_singleton.mp hc]
  rfl

/-- **Two updates that read one version both commit.** -/
theorem not_noLostUpdate_reach : ¬∀ (ι : Type) [DecidableEq ι] (ops : ι → Op) (h : Hotel)
    (S : Sys (hotelDb Unit) Failure Unit ι), (∀ i, (ops i).IsChange) →
    Reach .any (start h ops) S → NoLostUpdate ops S := by
  intro hall
  have hr : Reach .any (start .booked twoNotes)
      ((start .booked twoNotes).play [true, false, true, true, false, false]) := by
    refine Reach.refl.play ⟨trivial, trivial, ⟨by decide, trivial⟩, trivial, ⟨by decide, trivial⟩,
      trivial, trivial⟩
  have hn := hall Bool twoNotes .booked _ (fun _ => trivial) hr
  have := hn.once true false (1, 1) (List.mem_singleton_self _) (List.mem_singleton_self _)
    ⟨_, List.mem_cons_of_mem _ List.mem_cons_self, rfl⟩ ⟨_, List.mem_cons_self, rfl⟩
  cases this

end KarsHotel
