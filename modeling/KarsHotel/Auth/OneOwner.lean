import KarsHotel.Auth.OwnerInvite

/-!
# One owner from one live invite

Calls of the invite service in any interleaving.

* `InviteDesk.Grows`: the invites stay as they were issued, used ones stay used, the people stay;
* `CommitEffect`: what a commit did; `InviteInv`, **`reach_inviteInv`**: what holds in every
  interleaving;
* `onSettledHotel`: every new invite of the hotel is committed while the hotel has no owner, and
  with all its unused invites cancelled;
* `OneOwner`; **`oneOwner_run`**: it holds in every run under `onSettledHotel`;
  **`twoCreates_liveInvites`**: and not in every run.
-/

namespace KarsHotel

/-! ## What stays -/

def OwnerInvite.issued (x : OwnerInvite) : OwnerInvite := { x with usedAt := none, revoked := false }

theorem OwnerInvite.of_issued {x y : OwnerInvite} (h : y.issued = x.issued) :
    y.tokenHash = x.tokenHash ∧ y.tenantId = x.tenantId ∧ y.expiresAt = x.expiresAt := by
  simp only [issued, OwnerInvite.mk.injEq] at h
  exact ⟨h.1, h.2.1, h.2.2.2.2.1⟩

/-- From `s` to `t` the invites stay as they were issued, used ones stay used, the people stay. -/
structure InviteDesk.Grows (s t : InviteDesk) : Prop where
  invites : ∀ x ∈ s.invites, ∃ y ∈ t.invites, y.issued = x.issued ∧
    (x.usedAt ≠ none → y.usedAt ≠ none)
  users : ∀ u ∈ s.users, u ∈ t.users

/-- Every invite of `s` is in `t`, as it was issued. -/
def InviteDesk.Knows (s t : InviteDesk) : Prop := ∀ x ∈ t.invites, ∃ y ∈ s.invites, y.issued = x.issued

namespace InviteDesk.Grows

variable {s t u : InviteDesk}

theorem refl (s : InviteDesk) : s.Grows s := ⟨fun x hx => ⟨x, hx, rfl, id⟩, fun _ hu => hu⟩

theorem trans (a : s.Grows t) (b : t.Grows u) : s.Grows u := by
  refine ⟨fun x hx => ?_, fun v hv => b.users v (a.users v hv)⟩
  obtain ⟨y, hy, hyx, hused⟩ := a.invites x hx
  obtain ⟨z, hz, hzy, hused'⟩ := b.invites y hy
  exact ⟨z, hz, hzy.trans hyx, fun h => hused' (hused h)⟩

theorem knows (a : s.Grows t) : t.Knows s := by
  intro x hx
  obtain ⟨y, hy, hyx, -⟩ := a.invites x hx
  exact ⟨y, hy, hyx⟩

end InviteDesk.Grows

theorem InviteDesk.Knows.trans {s t u : InviteDesk} (a : u.Knows t) (b : t.Knows s) : u.Knows s := by
  intro x hx
  obtain ⟨y, hy, hyx⟩ := b x hx
  obtain ⟨z, hz, hzy⟩ := a y hy
  exact ⟨z, hz, hzy.trans hyx⟩

theorem grows_modify {s : InviteDesk} (k : String) (f : OwnerInvite → OwnerInvite)
    (hf : ∀ x, (f x).tokenHash = x.tokenHash) (hi : ∀ x, (f x).issued = x.issued)
    (hu : ∀ x, x.usedAt ≠ none → (f x).usedAt ≠ none) :
    s.Grows { s with invites := s.invites.modify k f hf } := by
  refine ⟨fun x hx => ?_, fun u hu => hu⟩
  by_cases hk : x.tokenHash = k
  · refine ⟨f x, ?_, hi x, hu x⟩
    show f x ∈ s.invites.modify k f hf
    exact Table.mem_modify.mpr (.inr ⟨x, hx, hk, rfl⟩)
  · refine ⟨x, ?_, rfl, id⟩
    show x ∈ s.invites.modify k f hf
    exact Table.mem_modify.mpr (.inl ⟨hx, hk⟩)

theorem knows_modify {s : InviteDesk} (k : String) (f : OwnerInvite → OwnerInvite)
    (hf : ∀ x, (f x).tokenHash = x.tokenHash) (hi : ∀ x, (f x).issued = x.issued) :
    s.Knows { s with invites := s.invites.modify k f hf } := by
  intro y hy
  have hmem : y ∈ s.invites.modify k f hf := hy
  rcases Table.mem_modify.mp hmem with ⟨hy, -⟩ | ⟨x, hx, -, rfl⟩
  · exact ⟨y, hy, rfl⟩
  · exact ⟨x, hx, (hi x).symm⟩

theorem OwnerInvite.usedAt_acceptedAt {at_ : Moment} {x : OwnerInvite} :
    (x.acceptedAt at_).usedAt ≠ none := by
  unfold acceptedAt
  dsimp only
  split_ifs with h
  · exact nofun
  · exact h

theorem OwnerInvite.usedAt_cancelledAt {at_ : Moment} {x : OwnerInvite} :
    (x.cancelledAt at_).usedAt ≠ none := by
  unfold cancelledAt
  dsimp only
  split_ifs with h
  · exact nofun
  · exact h

theorem InviteWrite.grows {c : InviteCall} {r : InviteRow} {f : InviteDesk → InviteDesk}
    (hw : InviteWrite c r f) (s : InviteDesk) : s.Grows (f s) := by
  cases hw with
  | cancel _ _ _ tokenHash at_ =>
    exact grows_modify tokenHash _ (OwnerInvite.tokenHash_cancelledAt at_) (fun _ => rfl)
      fun _ _ => OwnerInvite.usedAt_cancelledAt
  | use _ tokenHash at_ =>
    exact grows_modify tokenHash _ (OwnerInvite.tokenHash_acceptedAt at_) (fun _ => rfl)
      fun _ _ => OwnerInvite.usedAt_acceptedAt
  | insert _ _ _ row =>
    exact ⟨fun x hx => ⟨x, Table.mem_insert_of_mem hx, rfl, id⟩, fun u hu => hu⟩
  | account _ row => exact ⟨fun x hx => ⟨x, hx, rfl, id⟩, fun u hu => Table.mem_insert_of_mem hu⟩

theorem InviteWrite.knows {token : String} {r : InviteRow} {f : InviteDesk → InviteDesk}
    (hw : InviteWrite (.accept token) r f) (s : InviteDesk) : s.Knows (f s) := by
  cases hw with
  | use _ tokenHash at_ =>
    exact knows_modify tokenHash _ (OwnerInvite.tokenHash_acceptedAt at_) fun _ => rfl
  | account _ row => exact fun x hx => ⟨x, hx, rfl⟩

/-! ## What holds of one call -/

/-- What holds of a call over the committed `store`: it writes what its kind writes, and what an
acceptance has read is in the store, as it was issued. -/
structure CallInv (store : InviteDesk) (q : InviteRequest) (l : Local inviteDb) : Prop where
  writes : ∀ w ∈ l.pending, InviteWrite q.call w.1 w.2
  seen : ∀ token, q.call = .accept token → ∀ query t, Event.read query t ∈ l.hist → store.Knows t

namespace CallInv

variable {store : InviteDesk} {q : InviteRequest} {l : Local inviteDb}

theorem view_roles (h : CallInv store q l) : (l.view store).roles = store.roles :=
  Local.view_keeps (D := inviteDb) (P := fun t => t.roles = store.roles) rfl fun w hw t ht =>
    ((h.writes w hw).roles t).trans ht

theorem view_grows (h : CallInv store q l) : store.Grows (l.view store) :=
  Local.view_keeps (D := inviteDb) (P := fun t => store.Grows t) (.refl store) fun w hw t ht =>
    ht.trans ((h.writes w hw).grows t)

theorem view_knows (h : CallInv store q l) {token : String} (hq : q.call = .accept token) :
    store.Knows (l.view store) := by
  refine Local.view_keeps (D := inviteDb) (P := fun t => store.Knows t)
    (InviteDesk.Grows.refl store).knows ?_
  intro w hw t ht
  have hwrite := h.writes w hw
  rw [hq] at hwrite
  exact ht.trans (hwrite.knows t)

end CallInv

/-! ## What a commit does -/

/-- What a commit of the call `q` did to the store. -/
inductive CommitEffect (cfg : InviteConfig) (h : InviteDesk) (q : InviteRequest)
    (s t : InviteDesk) : Prop
  | same (ht : t = s)
  | created (tenantId : TenantId) (dto : InviteOwnerDto) (partnerId : Option ℕ)
      (hq : q.call = .create tenantId dto partnerId) (hu : t.users = s.users)
  | accepted (token : String) (hq : q.call = .accept token) (x : OwnerInvite)
      (hx : x ∈ s.invites) (hhash : x.tokenHash = cfg.hash token) (hun : x.usedAt = none)
      (hexp : q.startedAt ≤ x.expiresAt) (role : RoleRow)
      (hrole : h.ownerRole x.tenantId = some role) (at_ : Moment) (row : UserRow)
      (hrow : row.tenantId = x.tenantId ∧ row.roleId = role.id ∧ row.isActive = true ∧
        row.isDispatcher = false)
      (ht : t = (s.use x.tokenHash at_).insertUser row)

section Effect

variable {cfg : InviteConfig} {h : InviteDesk} {q : InviteRequest} {store : InviteDesk}
  {l : Local inviteDb}

theorem foldl_cancellation (at_ : Moment) (hashes : List String) (s : InviteDesk) :
    ((hashes.map (cancellation at_)).foldl (fun s w => w.2 s) s).users = s.users ∧
      ((hashes.map (cancellation at_)).foldl (fun s w => w.2 s) s).roles = s.roles := by
  induction hashes generalizing s with
  | nil => exact ⟨rfl, rfl⟩
  | cons x xs ih => exact ih ((cancellation at_ x).2 s)

/-- What the cancellations leave unused was unused, and is none of theirs. -/
theorem unused_foldl_cancellation {at_ : Moment} {hashes : List String} {s : InviteDesk}
    {y : OwnerInvite} (hy : y ∈ ((hashes.map (cancellation at_)).foldl (fun s w => w.2 s) s).invites)
    (hun : y.usedAt = none) : y ∈ s.invites ∧ y.tokenHash ∉ hashes := by
  induction hashes generalizing s with
  | nil => exact ⟨hy, List.not_mem_nil⟩
  | cons x xs ih =>
    rw [List.map_cons, List.foldl_cons] at hy
    obtain ⟨hmem, hnot⟩ := ih hy
    rcases InviteDesk.mem_cancel.mp hmem with ⟨hmem, hne⟩ | ⟨z, -, -, rfl⟩
    · exact ⟨hmem, List.not_mem_cons_of_ne_of_not_mem hne hnot⟩
    · exact absurd hun OwnerInvite.usedAt_cancelledAt

/-- **What a commit does**: an acceptance finds its invite still unused, since it holds its row. -/
theorem InviteDeed.effect (hd : InviteDeed cfg h q l) (hc : CallInv store q l)
    (hh : HoldsRows InviteDesk.content store l) : CommitEffect cfg h q store (l.view store) := by
  cases hd with
  | quiet hp =>
    apply CommitEffect.same
    rw [Local.view, hp]
    rfl
  | created tenantId dto partnerId hq row hrow at_ hashes hp =>
    refine .created tenantId dto partnerId hq ?_
    rw [Local.view, hp, List.foldl_append]
    exact (foldl_cancellation at_ hashes store).1
  | accepted token hq x hx hread hexp role hrole s hs y hy hun at_ e hp =>
    obtain ⟨query, t, ht, hmem⟩ := hread
    -- the row it holds is that of the invite it has read
    have hcontent : store.invites.find x.tokenHash = s.invites.find x.tokenHash :=
      hh.stands (.invite x.tokenHash) s hs
    obtain ⟨hystore, hykey⟩ := Table.find_eq_some.mp (hcontent.trans hy)
    obtain ⟨z, hz, hzx⟩ := hc.seen token hq query t ht x hmem
    obtain ⟨hkey, htenant, hexpires⟩ := OwnerInvite.of_issued hzx
    obtain rfl := Table.eq_of_key hz hystore (hkey.trans hykey.symm)
    refine .accepted token hq z hz (hykey.trans hx) hun (hexpires ▸ hexp) role (htenant ▸ hrole)
      at_ (OwnerInviteService.ownerRow x role e) ⟨htenant.symm, rfl, rfl, rfl⟩ ?_
    rw [Local.view, hp, hykey]
    rfl

end Effect

/-! ## Every interleaving -/

/-- The calls before their first statement. -/
abbrev startInvites {ι : Type} (cfg : InviteConfig) (h : InviteDesk) (calls : ι → InviteRequest) :
    Sys inviteDb Failure InviteAnswer ι :=
  .init h fun i => (calls i).prog cfg

section Reach

variable {ι : Type} {cfg : InviteConfig} {h : InviteDesk} {calls : ι → InviteRequest}
  {S S' : Sys inviteDb Failure InviteAnswer ι}

/-- What holds of the store, the calls and the commits in every interleaving. -/
structure InviteInv (cfg : InviteConfig) (h : InviteDesk) (calls : ι → InviteRequest)
    (S : Sys inviteDb Failure InviteAnswer ι) : Prop where
  standing : Standing InviteDesk.content S
  roles : S.store.roles = h.roles
  grows : h.Grows S.store
  each : ∀ i, CallInv S.store (calls i) (S.sessions i).loc
  effect : ∀ c ∈ S.log, CommitEffect cfg h (calls c.who) c.before c.after
  stays : ∀ c ∈ S.log, c.after.Grows S.store
  order : S.log.Pairwise fun c c' => c'.after.Grows c.before

/-- The discipline of every call. -/
abbrev InvitesDisciplined (cfg : InviteConfig) (h : InviteDesk) (calls : ι → InviteRequest)
    (S : Sys inviteDb Failure InviteAnswer ι) : Prop :=
  AllObey (fun i => inviteRules cfg h (calls i)) (fun _ _ _ => True) S

theorem InviteInv.view_roles (hv : InviteInv cfg h calls S) (i : ι) :
    (S.view i).roles = h.roles :=
  ((hv.each i).view_roles).trans hv.roles

variable [DecidableEq ι] {G : Guard inviteDb Failure InviteAnswer ι}

theorem InviteInv.put (hv : InviteInv cfg h calls S) {i : ι}
    {p : Prog inviteDb Failure InviteAnswer} {l : Local inviteDb}
    (hst : Standing InviteDesk.content (S.put i p l)) (hl : CallInv S.store (calls i) l) :
    InviteInv cfg h calls (S.put i p l) where
  standing := hst
  roles := hv.roles
  grows := hv.grows
  each j := by
    by_cases hj : j = i
    · subst hj
      rw [Sys.put_self]
      exact hl
    · rw [Sys.put_of_ne S hj]
      exact hv.each j
  effect := hv.effect
  stays := hv.stays
  order := hv.order

theorem InviteInv.commit (hv : InviteInv cfg h calls S) {i : ι}
    {k : Prog inviteDb Failure InviteAnswer}
    (hst : Standing InviteDesk.content (S.doCommit i k))
    (hd : InviteDeed cfg h (calls i) (S.sessions i).loc) :
    InviteInv cfg h calls (S.doCommit i k) := by
  have hgrows : S.store.Grows (S.view i) := (hv.each i).view_grows
  refine ⟨hst, hv.view_roles i, hv.grows.trans hgrows, fun j => ?_, ?_, ?_, ?_⟩
  · by_cases hj : j = i
    · subst hj
      rw [Sys.doCommit_self]
      refine ⟨fun w hw => absurd hw List.not_mem_nil, fun token hq query t ht => ?_⟩
      have ht : Event.read query t ∈ (S.sessions j).loc.hist := by simpa [Local.commit] using ht
      exact hgrows.knows.trans ((hv.each j).seen token hq query t ht)
    · rw [Sys.doCommit_of_ne S hj]
      refine ⟨(hv.each j).writes, fun token hq query t ht => ?_⟩
      exact hgrows.knows.trans ((hv.each j).seen token hq query t ht)
  · exact List.forall_mem_cons.mpr ⟨hd.effect (hv.each i) (hv.standing.holds i), hv.effect⟩
  · exact List.forall_mem_cons.mpr ⟨.refl _, fun c hc => (hv.stays c hc).trans hgrows⟩
  · exact List.pairwise_cons.mpr ⟨hv.stays, hv.order⟩

theorem InviteInv.step (hv : InviteInv cfg h calls S) (ho : InvitesDisciplined cfg h calls S)
    (hs : Step G S S') : InviteInv cfg h calls S' := by
  have hwrite : ∀ i r f k, (S.sessions i).prog = .write r f k → InviteWrite (calls i).call r f :=
    fun i r f k hp => ho.write hp (hv.view_roles i)
  have hst : Standing InviteDesk.content S' :=
    hv.standing.step hs fun i r f k hp => (hwrite i r f k hp).confined
  cases hs with
  | read i q k hp =>
    have hi := hv.each i
    refine hv.put hst ⟨hi.writes, fun token hq query t ht => ?_⟩
    rcases List.mem_cons.mp ht with heq | ht
    · cases heq
      exact hi.view_knows hq
    · exact hi.seen token hq query t ht
  | write i r f k hp hr hg =>
    have hi := hv.each i
    refine hv.put hst ⟨fun w hw => ?_, fun token hq query t ht => ?_⟩
    · rcases List.mem_append.mp hw with hw | hw
      · exact hi.writes w hw
      · rw [List.mem_singleton.mp hw]
        exact hwrite i r f k hp
    · exact hi.seen token hq query t ((List.mem_cons.mp ht).resolve_left nofun)
  | lock i x k hp hx => exact x.elim
  | commit i k hp hg => exact hv.commit hst (ho.commit hp)
  | rollback i k hp =>
    have hi := hv.each i
    refine hv.put hst ⟨fun w hw => absurd hw List.not_mem_nil, fun token hq query t ht => ?_⟩
    exact hi.seen token hq query t ((List.mem_cons.mp ht).resolve_left nofun)
  | ask i k e hp =>
    have hi := hv.each i
    refine hv.put hst ⟨hi.writes, fun token hq query t ht => ?_⟩
    exact hi.seen token hq query t ((List.mem_cons.mp ht).resolve_left nofun)

/-- **What holds in every interleaving of calls.** -/
theorem reach_inviteInv (hr : Reach G (startInvites cfg h calls) S) :
    InviteInv cfg h calls S ∧ InvitesDisciplined cfg h calls S := by
  have h₀ : InviteInv cfg h calls (startInvites cfg h calls) := by
    have hst : Standing InviteDesk.content (startInvites cfg h calls) :=
      .init (D := inviteDb) (C := InviteRow.Content) h _
    refine ⟨hst, rfl, .refl h, fun i => ⟨fun w hw => ?_, fun _ _ _ _ ht => ?_⟩, nofun, nofun, .nil⟩
    · exact absurd hw List.not_mem_nil
    · exact absurd ht List.not_mem_nil
  exact Reach.obeys h₀ (fun i => (calls i).obeys cfg h) (fun S hv _ i => hv.view_roles i)
    (fun S S' hv ho hs => hv.step ho hs) hr

end Reach

/-- What the opening of an account says: an acceptance found its invite unused and in time, and
used it up; the account is the only one. -/
theorem CommitEffect.opens {cfg : InviteConfig} {h s t : InviteDesk} {q : InviteRequest}
    (he : CommitEffect cfg h q s t) {u : UserRow} (hu : u ∈ t.users) (hnu : u ∉ s.users) :
    ∃ token, q.call = .accept token ∧ ∃ x ∈ s.invites, x.tokenHash = cfg.hash token ∧
      x.usedAt = none ∧ q.startedAt ≤ x.expiresAt ∧
      (∃ y ∈ t.invites, y.tokenHash = x.tokenHash ∧ y.usedAt ≠ none) ∧
      ∀ v ∈ t.users, v ∉ s.users → v = u := by
  cases he with
  | same ht =>
    rw [ht] at hu
    exact absurd hu hnu
  | created _ _ _ _ husers =>
    rw [husers] at hu
    exact absurd hu hnu
  | accepted token hq x hx hhash hun hexp role hrole at_ row hrow ht =>
    refine ⟨token, hq, x, hx, hhash, hun, hexp, ⟨x.acceptedAt at_, ?_, rfl, ?_⟩, fun v hv hnv => ?_⟩
    · rw [ht]
      exact InviteDesk.mem_use.mpr (.inr ⟨x, hx, rfl, rfl⟩)
    · exact OwnerInvite.usedAt_acceptedAt
    · rw [ht] at hu hv
      have hurow : u = row := (Table.mem_of_mem_insert hu).resolve_left hnu
      have hvrow : v = row := (Table.mem_of_mem_insert hv).resolve_left hnv
      rw [hurow, hvrow]

/-! ## A hotel without an owner -/

/-- The commit opened the account `u`. -/
def Commit.Opens {ι : Type} (c : Commit inviteDb ι) (u : UserRow) : Prop :=
  u ∈ c.after.users ∧ u ∉ c.before.users

/-- The request accepts the invite of a token hash. -/
def InviteRequest.Accepts (cfg : InviteConfig) (q : InviteRequest) (tokenHash : String) : Prop :=
  ∃ token, q.call = .accept token ∧ cfg.hash token = tokenHash

/-- At most one invite of the hotel is unused. -/
def InviteDesk.OneLive (s : InviteDesk) (tenantId : TenantId) : Prop :=
  ∀ x ∈ s.invites, ∀ y ∈ s.invites, x.UnusedOf tenantId → y.UnusedOf tenantId → x = y

instance (s : InviteDesk) (tenantId : TenantId) : Decidable (s.OneLive tenantId) :=
  decidable_of_iff (∀ x ∈ s.invites.rows, ∀ y ∈ s.invites.rows, x.UnusedOf tenantId →
    y.UnusedOf tenantId → x = y) Iff.rfl

/-- **One owner from one live invite**, for the calls `calls` that began on `h`, in a state `S`
after the state `S₁`. -/
structure OneOwner {ι : Type} (cfg : InviteConfig) (h : InviteDesk) (calls : ι → InviteRequest)
    (tenantId : TenantId) (S₁ S : Sys inviteDb Failure InviteAnswer ι) : Prop where
  /-- Each invite makes at most one account. -/
  once : S.log.Pairwise fun c c' => ∀ tokenHash u u', (calls c.who).Accepts cfg tokenHash →
    (calls c'.who).Accepts cfg tokenHash → c.Opens u → ¬c'.Opens u'
  single : ∀ c ∈ S.log, ∀ u v, c.Opens u → c.Opens v → u = v
  /-- An invite that was used or replaced, or had expired, before its acceptance started makes
  none. -/
  late : ∀ i, (S₁.sessions i).loc.hist = [] → ∀ x ∈ S₁.store.invites,
    (calls i).Accepts cfg x.tokenHash → x.usedAt ≠ none ∨ x.expiresAt < (calls i).startedAt →
      ∀ c ∈ S.log, c.who = i → ∀ u, ¬c.Opens u
  live : S.store.OneLive tenantId
  owner : ∀ u ∈ S.store.users, ∀ v ∈ S.store.users, u ∉ h.users → v ∉ h.users →
    u.tenantId = tenantId → v.tenantId = tenantId → u = v

/-- A new invite of the hotel is committed while the hotel has no owner, and with all its committed
unused invites among those its transaction has written. -/
def onSettledHotel {ι : Type} (calls : ι → InviteRequest) (tenantId : TenantId) :
    Guard inviteDb Failure InviteAnswer ι where
  write _ _ _ := True
  commit S i := ∀ dto partnerId, (calls i).call = .create tenantId dto partnerId →
    (S.sessions i).loc.pending ≠ [] → S.store.owner tenantId = none ∧
      ∀ x ∈ S.store.invites, x.UnusedOf tenantId →
        ∃ w ∈ (S.sessions i).loc.pending, w.1 = .invite x.tokenHash

instance {ι : Type} (calls : ι → InviteRequest) (tenantId : TenantId)
    (S : Sys inviteDb Failure InviteAnswer ι) (i : ι) (r : InviteRow) :
    Decidable ((onSettledHotel calls tenantId).write S i r) := isTrue trivial

instance {ι : Type} (calls : ι → InviteRequest) (tenantId : TenantId)
    (S : Sys inviteDb Failure InviteAnswer ι) (i : ι) :
    Decidable ((onSettledHotel calls tenantId).commit S i) :=
  match h : (calls i).call with
  | .accept _ => isTrue (by simp [onSettledHotel, h])
  | .create t dto partnerId =>
    if ht : t = tenantId then
      decidable_of_iff ((S.sessions i).loc.pending ≠ [] → S.store.owner tenantId = none ∧
        ∀ x ∈ S.store.invites.rows, x.UnusedOf tenantId →
          ∃ w ∈ (S.sessions i).loc.pending, w.1 = .invite x.tokenHash) (by
            simp [onSettledHotel, h, ht, Table.mem_def])
    else isTrue (by simp [onSettledHotel, h, ht])

/-- What holds of the hotel: its new accounts are its owner's, and exclude an unused invite. -/
structure Settled (h s : InviteDesk) (tenantId : TenantId) : Prop where
  live : s.OneLive tenantId
  owner : ∀ u ∈ s.users, ∀ v ∈ s.users, u ∉ h.users → v ∉ h.users → u.tenantId = tenantId →
    v.tenantId = tenantId → u = v
  closed : ∀ u ∈ s.users, u ∉ h.users → u.tenantId = tenantId →
    ∀ x ∈ s.invites, ¬x.UnusedOf tenantId
  isOwner : ∀ u ∈ s.users, u ∉ h.users → s.IsOwner u.tenantId u

section Settled

variable {cfg : InviteConfig} {h s t : InviteDesk} {tenantId : TenantId}

theorem InviteDesk.ownerRole_some {role : RoleRow} (hr : s.ownerRole tenantId = some role) :
    (s.roles.find role.id).map RoleRow.code = some .owner := by
  have hmem := List.mem_of_find?_eq_some hr
  have hcode := List.find?_some hr
  rw [Table.find_key hmem]
  simp only [decide_eq_true_eq] at hcode
  exact congrArg some hcode.2

/-- An acceptance: the one unused invite of the hotel is used, and its owner is the first. -/
theorem Settled.accepted (hs : Settled h s tenantId) (hroles : s.roles = h.roles) {x : OwnerInvite}
    (hx : x ∈ s.invites) (hun : x.usedAt = none) {role : RoleRow}
    (hrole : h.ownerRole x.tenantId = some role) (at_ : Moment) {row : UserRow}
    (hrow : row.tenantId = x.tenantId ∧ row.roleId = role.id ∧ row.isActive = true ∧
      row.isDispatcher = false) :
    Settled h ((s.use x.tokenHash at_).insertUser row) tenantId := by
  have hinvites : ∀ y ∈ (s.use x.tokenHash at_).invites, y.UnusedOf tenantId →
      y ∈ s.invites ∧ y.tokenHash ≠ x.tokenHash := by
    intro y hy hyun
    rcases InviteDesk.mem_use.mp hy with hy | ⟨z, -, -, rfl⟩
    · exact hy
    · exact absurd hyun.2 OwnerInvite.usedAt_acceptedAt
  -- while the invite is unused its hotel has no new account
  have hfirst : row.tenantId = tenantId → ∀ v ∈ s.users, v ∉ h.users → v.tenantId ≠ tenantId :=
    fun ht v hv hnew hvt => hs.closed v hv hnew hvt x hx ⟨hrow.1.symm.trans ht, hun⟩
  refine ⟨fun y hy z hz hyun hzun => ?_, fun u hu v hv hnu hnv hut hvt => ?_,
    fun u hu hnu hut y hy hyun => ?_, fun u hu hnu => ?_⟩
  · exact hs.live y (hinvites y hy hyun).1 z (hinvites z hz hzun).1 hyun hzun
  · rcases Table.mem_of_mem_insert hu with hu' | hu'
    · rcases Table.mem_of_mem_insert hv with hv' | hv'
      · exact hs.owner u hu' v hv' hnu hnv hut hvt
      · rw [hv'] at hvt
        exact absurd hut (hfirst hvt u hu' hnu)
    · rcases Table.mem_of_mem_insert hv with hv' | hv'
      · rw [hu'] at hut
        exact absurd hvt (hfirst hut v hv' hnv)
      · rw [hu', hv']
  · obtain ⟨hymem, hyne⟩ := hinvites y hy hyun
    rcases Table.mem_of_mem_insert hu with hu | rfl
    · exact hs.closed u hu hnu hut y hymem hyun
    · apply hyne
      rw [hs.live y hymem x hx hyun ⟨hrow.1.symm.trans hut, hun⟩]
  · rcases Table.mem_of_mem_insert hu with hu | rfl
    · exact hs.isOwner u hu hnu
    · refine ⟨rfl, hrow.2.2.2, hrow.2.2.1, ?_⟩
      show (s.roles.find u.roleId).map RoleRow.code = some .owner
      rw [hroles, hrow.2.1]
      exact InviteDesk.ownerRole_some hrole

/-- A new invite: all that is unused of its hotel after it is in its own row. -/
theorem Settled.created (hs : Settled h s tenantId) {row : OwnerInvite} {hashes : List String}
    {at_ : Moment}
    (ht : t = ((hashes.map (cancellation at_)).foldl (fun s w => w.2 s) s).insertInvite row)
    (hg : row.tenantId = tenantId → s.owner tenantId = none ∧ ∀ x ∈ s.invites,
      x.UnusedOf tenantId → x.tokenHash ∈ hashes ∨ x.tokenHash = row.tokenHash) :
    Settled h t tenantId := by
  have hinvites : ∀ y ∈ t.invites, y.UnusedOf tenantId →
      (y ∈ s.invites ∧ y.tokenHash ∉ hashes) ∨ y = row := by
    intro y hy hyun
    rw [ht] at hy
    rcases Table.mem_of_mem_insert hy with hy | rfl
    · exact .inl (unused_foldl_cancellation hy hyun.2)
    · exact .inr rfl
  have husers : t.users = s.users := by
    rw [ht]
    exact (foldl_cancellation at_ hashes s).1
  have hroles : t.roles = s.roles := by
    rw [ht]
    exact (foldl_cancellation at_ hashes s).2
  have howner : ∀ u ∈ t.users, ∀ v ∈ t.users, u ∉ h.users → v ∉ h.users → u.tenantId = tenantId →
      v.tenantId = tenantId → u = v := by
    rw [husers]
    exact hs.owner
  have hisOwner : ∀ u ∈ t.users, u ∉ h.users → t.IsOwner u.tenantId u := by
    unfold InviteDesk.IsOwner
    rw [husers, hroles]
    exact hs.isOwner
  by_cases hrow : row.tenantId = tenantId
  · obtain ⟨hno, hall⟩ := hg hrow
    have hkey : ∀ y ∈ t.invites, y.UnusedOf tenantId → y.tokenHash = row.tokenHash := by
      intro y hy hyun
      rcases hinvites y hy hyun with ⟨hmem, hnot⟩ | rfl
      · exact (hall y hmem hyun).resolve_left hnot
      · rfl
    refine ⟨fun y hy z hz hyun hzun => ?_, howner, fun u hu hnu hut => ?_, hisOwner⟩
    · exact Table.eq_of_key hy hz ((hkey y hy hyun).trans (hkey z hz hzun).symm)
    · rw [husers] at hu
      have hfind := List.find?_eq_none.mp hno u hu
      simp only [decide_eq_true_eq] at hfind
      exact absurd (hut ▸ hs.isOwner u hu hnu) hfind
  · have hold : ∀ y ∈ t.invites, y.UnusedOf tenantId → y ∈ s.invites := by
      intro y hy hyun
      rcases hinvites y hy hyun with ⟨hmem, -⟩ | rfl
      · exact hmem
      · exact absurd hyun.1 hrow
    refine ⟨fun y hy z hz hyun hzun => ?_, howner, fun u hu hnu hut y hy hyun => ?_, hisOwner⟩
    · exact hs.live y (hold y hy hyun) z (hold z hz hzun) hyun hzun
    · rw [husers] at hu
      exact hs.closed u hu hnu hut y (hold y hy hyun) hyun

variable {ι : Type} {calls : ι → InviteRequest} {S S₁ : Sys inviteDb Failure InviteAnswer ι}

theorem Settled.commit (hs : Settled h S.store tenantId) (hv : InviteInv cfg h calls S) {i : ι}
    (hd : InviteDeed cfg h (calls i) (S.sessions i).loc)
    (hg : (onSettledHotel calls tenantId).commit S i) : Settled h (S.view i) tenantId := by
  cases hd.effect (hv.each i) (hv.standing.holds i) with
  | same ht =>
    rw [Sys.view, ht]
    exact hs
  | accepted token hq x hx hhash hun hexp role hrole at_ row hrow ht =>
    rw [Sys.view, ht]
    exact hs.accepted hv.roles hx hun hrole at_ hrow
  | created tenantId' dto partnerId hq hu =>
    cases hd with
    | quiet hp =>
      rw [Sys.view, Local.view, hp]
      exact hs
    | accepted token hq' => rw [hq] at hq'; cases hq'
    | created tenantId'' dto' partnerId' hq' row hrow at_ hashes hp =>
      rw [hq] at hq'
      cases hq'
      have hview : S.view i =
          ((hashes.map (cancellation at_)).foldl (fun s w => w.2 s) S.store).insertInvite row := by
        rw [Sys.view, Local.view, hp, List.foldl_append]
        rfl
      refine hs.created hview fun ht => ?_
      rw [← hrow, ht] at hq
      have hne : (S.sessions i).loc.pending ≠ [] := by
        rw [hp]
        exact List.append_ne_nil_of_right_ne_nil _ (List.cons_ne_nil _ _)
      obtain ⟨hno, hall⟩ := hg dto partnerId hq hne
      refine ⟨hno, fun x hx hxun => ?_⟩
      obtain ⟨w, hw, hwx⟩ := hall x hx hxun
      rw [hp] at hw
      rcases List.mem_append.mp hw with hw | hw
      · obtain ⟨hash, hhash, rfl⟩ := List.mem_map.mp hw
        cases hwx
        exact .inl hhash
      · rw [List.mem_singleton.mp hw] at hwx
        exact .inr (InviteRow.invite.inj hwx).symm

/-- **The hotel stays settled.** -/
theorem settled_reach [DecidableEq ι] (hno : h.OneLive tenantId)
    (hr : Reach (onSettledHotel calls tenantId) (startInvites cfg h calls) S) :
    Settled h S.store tenantId := by
  induction hr with
  | refl =>
    exact ⟨hno, fun u hu _ _ hnu => absurd hu hnu, fun u hu hnu => absurd hu hnu,
      fun u hu hnu => absurd hu hnu⟩
  | @step S S' hr hs ih =>
    obtain ⟨hv, ho⟩ := reach_inviteInv hr
    cases hs.effect with
    | quiet hst _ _ => rwa [hst]
    | write _ _ _ _ _ _ _ hst _ _ => rwa [hst]
    | commit i k hp hg hst _ _ =>
      rw [hst]
      exact ih.commit hv (ho.commit hp) hg

/-- An invite that is used or has expired before its acceptance starts makes no account. -/
theorem InviteInv.late [DecidableEq ι] {G : Guard inviteDb Failure InviteAnswer ι}
    (hr₁ : Reach G (startInvites cfg h calls) S₁) (hr : Reach G S₁ S) {i : ι}
    (hi : (S₁.sessions i).loc.hist = []) {x : OwnerInvite} (hx : x ∈ S₁.store.invites)
    (hacc : (calls i).Accepts cfg x.tokenHash)
    (hshut : x.usedAt ≠ none ∨ x.expiresAt < (calls i).startedAt) :
    S₁.store.Grows S.store ∧ ∀ c ∈ S.log, c.who = i → ∀ u, ¬c.Opens u := by
  induction hr with
  | refl => exact ⟨.refl _, fun c hc hw => absurd hw ((hr₁.unbegun hi).2 c hc)⟩
  | @step T T' hr hs ih =>
    obtain ⟨hgrows, hno⟩ := ih
    obtain ⟨hv, ho⟩ := reach_inviteInv (hr₁.trans hr)
    cases hs.effect with
    | quiet hst hl _ =>
      rw [hst, hl]
      exact ⟨hgrows, hno⟩
    | write _ _ _ _ _ _ _ hst hl _ =>
      rw [hst, hl]
      exact ⟨hgrows, hno⟩
    | commit j k hp hg hst hl _ =>
      rw [hst, hl]
      refine ⟨hgrows.trans (hv.each j).view_grows, ?_⟩
      refine List.forall_mem_cons.mpr ⟨fun hj u hopens => ?_, hno⟩
      have hj : j = i := hj
      have heffect := (ho.commit hp).effect (hv.each j) (hv.standing.holds j)
      obtain ⟨token, hq, y, hy, hyhash, hyun, hyexp, -⟩ := heffect.opens hopens.1 hopens.2
      -- the invite it found is the one that was shut before
      obtain ⟨z, hz, hzx, hzused⟩ := hgrows.invites x hx
      obtain ⟨token', hq', hhash⟩ := hacc
      rw [hj, hq'] at hq
      cases hq
      obtain ⟨hzkey, -, hzexp⟩ := OwnerInvite.of_issued hzx
      have hzy : z = y := Table.eq_of_key hz hy (hzkey.trans (hhash.symm.trans hyhash.symm))
      rcases hshut with hused | hexp
      · exact hzused hused (hzy ▸ hyun)
      · rw [hj, ← hzy, hzexp] at hyexp
        exact absurd hexp (not_lt.mpr hyexp)

/-- **One owner from one live invite.** In every interleaving of calls in which new invites of a
hotel are committed only while it has no owner, and with its unused invites cancelled: one account
an invite, none of a shut invite, one unused invite and one new owner of the hotel. -/
theorem oneOwner_run [DecidableEq ι] (hone : h.OneLive tenantId)
    (hr₁ : Reach (onSettledHotel calls tenantId) (startInvites cfg h calls) S₁)
    (hr : Reach (onSettledHotel calls tenantId) S₁ S) : OneOwner cfg h calls tenantId S₁ S := by
  have hreach : Reach (onSettledHotel calls tenantId) (startInvites cfg h calls) S := hr₁.trans hr
  obtain ⟨hv, -⟩ := reach_inviteInv hreach
  have hset : Settled h S.store tenantId := settled_reach hone hreach
  refine ⟨?_, fun c hc u v hu hv' => ?_, fun i hi x hx hacc hshut => ?_, hset.live, hset.owner⟩
  · refine hv.order.imp_of_mem fun {c c'} hc hc' hle tokenHash u u' hacc hacc' hu hu' => ?_
    -- the earlier commit used the invite up, the later one found it unused
    obtain ⟨token, hq, x, hx, hxhash, hxun, -⟩ := (hv.effect c hc).opens hu.1 hu.2
    obtain ⟨token', hq', x', -, hxhash', -, -, ⟨y, hy, hyhash, hyused⟩, -⟩ :=
      (hv.effect c' hc').opens hu'.1 hu'.2
    obtain ⟨z, hz, hzy, hzused⟩ := hle.invites y hy
    obtain ⟨token₁, hq₁, hhash₁⟩ := hacc
    obtain ⟨token₂, hq₂, hhash₂⟩ := hacc'
    rw [hq] at hq₁
    rw [hq'] at hq₂
    cases hq₁
    cases hq₂
    have hkey : z.tokenHash = x.tokenHash := by
      rw [(OwnerInvite.of_issued hzy).1, hyhash, hxhash', hxhash, hhash₁, hhash₂]
    exact hzused hyused (Table.eq_of_key hz hx hkey ▸ hxun)
  · obtain ⟨-, -, -, -, -, -, -, -, honly⟩ := (hv.effect c hc).opens hv'.1 hv'.2
    exact honly u hu.1 hu.2
  · exact (InviteInv.late hr₁ hr hi hx hacc hshut).2

end Settled

/-! ## Two calls -/

/-- A hotel with the role of an owner, and nobody in it. -/
def InviteDesk.ofHotel : InviteDesk where
  roles := ⟨[⟨1, 1, .owner, []⟩], by decide⟩
  users := .empty
  invites := .empty

/-- Functions that leave texts as they are. -/
def InviteConfig.plain : InviteConfig := ⟨id, id, id⟩

def InviteEnv.ofToken (token : String) : InviteEnv := ⟨0, token, 1, "hash"⟩

/-- The partner invites an owner, who accepts. -/
def inviteAndAccept (b : Bool) : InviteRequest :=
  ⟨0, if b then .accept "t" else .create 1 ⟨"owner@hotel", "Owner"⟩ none⟩

/-- The invite has been issued. -/
def inviteSent : Sys inviteDb Failure InviteAnswer Bool :=
  ((((startInvites .plain .ofHotel inviteAndAccept).play [false, false, false, false]).reply
    false (.ofToken "t")).reply false (.ofToken "t")).play [false, false, false]

/-- The invite has been accepted. -/
def inviteTaken : Sys inviteDb Failure InviteAnswer Bool :=
  ((((inviteSent.play [true, true]).reply true (.ofToken "")).play [true, true]).reply
    true (.ofToken "")).play [true, true, true, true]

theorem oneOwner_run_accepted :
    OneOwner .plain .ofHotel inviteAndAccept 1 inviteSent inviteTaken := by
  have hone : InviteDesk.ofHotel.OneLive 1 := fun x hx => absurd hx (Table.not_mem_empty x)
  have hsent : Reach (onSettledHotel inviteAndAccept 1)
      (startInvites .plain .ofHotel inviteAndAccept) inviteSent := by
    apply Reach.play
    · apply Reach.reply
      apply Reach.reply
      apply Reach.refl.play
      decide +kernel
    · decide +kernel
  have htaken : Reach (onSettledHotel inviteAndAccept 1) inviteSent inviteTaken := by
    apply Reach.play
    · apply Reach.reply
      apply Reach.play
      · apply Reach.reply
        apply Reach.refl.play
        decide +kernel
      · decide +kernel
    · decide +kernel
  exact oneOwner_run hone hsent htaken

/-- The acceptance has opened an account. -/
example : inviteTaken.store.users.rows.length = 1 := by decide +kernel

/-- Two invites sent at once. -/
def twoCreates (b : Bool) : InviteRequest :=
  ⟨0, .create 1 ⟨if b then "a@hotel" else "b@hotel", "Owner"⟩ none⟩

/-- Both have found the hotel without an owner and without an invite. -/
def bothChecked : Sys inviteDb Failure InviteAnswer Bool :=
  (((((startInvites .plain .ofHotel twoCreates).play
    [true, true, true, true, false, false, false, false]).reply
      true (.ofToken "a")).reply true (.ofToken "a")).reply
        false (.ofToken "b")).reply false (.ofToken "b")

/-- Both invites are committed. -/
def bothSent : Sys inviteDb Failure InviteAnswer Bool :=
  bothChecked.play [true, false, true, false, true, false]

/-- **Two invites sent at once are both live.** -/
theorem twoCreates_liveInvites : ¬∀ (ι : Type) [DecidableEq ι] (cfg : InviteConfig)
    (h : InviteDesk) (calls : ι → InviteRequest) (tenantId : TenantId)
    (S₁ S : Sys inviteDb Failure InviteAnswer ι), h.owner tenantId = none → h.OneLive tenantId →
    Reach .any (startInvites cfg h calls) S₁ → Reach .any S₁ S →
    (∀ i, ∃ a, (S.sessions i).prog = .ret a) → OneOwner cfg h calls tenantId S₁ S := by
  intro hall
  have hone : InviteDesk.ofHotel.OneLive 1 := fun x hx => absurd hx (Table.not_mem_empty x)
  have hchecked : Reach .any (startInvites .plain .ofHotel twoCreates) bothChecked := by
    apply Reach.reply
    apply Reach.reply
    apply Reach.reply
    apply Reach.reply
    apply Reach.refl.play
    decide +kernel
  have hsent : Reach .any bothChecked bothSent := by
    apply Reach.refl.play
    decide +kernel
  have hdone : ∀ b, ∃ a, (bothSent.sessions b).prog = .ret a := by
    intro b
    cases b <;> exact ⟨_, rfl⟩
  have hlive := (hall Bool .plain .ofHotel twoCreates 1 bothChecked bothSent rfl hone hchecked hsent
    hdone).live
  exact absurd hlive (by decide +kernel)

end KarsHotel
