import KarsHotel.Auth.Service
import KarsHotel.Lib.Turns
import Mathlib.Logic.Relation

/-!
# Rotation of refresh tokens

Calls of the sign-in service in any order of their statements; every statement is a transaction of
its own, and between two statements of a call the directory and the time may be any.

* `Stays`: what every statement keeps: rows and revocations stay, sessions on behalf of a hotel are
  the operator's own;
* `Renewed`, `Issued`: what a refresh and any other way to tokens have done when they answer;
* `AuthCall.guarantees`: every call keeps `Stays` to its end;
* `refresh_revoked`: a refresh of a revoked token;
* **`refresh_rotation`**: chains of refreshes stay in their session and on its path, a refresh that
  starts after its token was revoked fails, and two refreshes of one token do not both succeed if
  every refresh revokes a token that is not revoked yet.
-/

namespace KarsHotel

/-! ## What statements keep -/

/-- The same session: user, hotel, and who opened it. -/
structure SameLogin (r r' : RefreshToken) : Prop where
  user : r'.userId = r.userId
  tenant : r'.tenantId = r.tenantId
  impersonator : r'.impersonatedBy = r.impersonatedBy

theorem SameLogin.refl (r : RefreshToken) : SameLogin r r := ⟨rfl, rfl, rfl⟩

theorem SameLogin.trans {a b c : RefreshToken} (h : SameLogin a b) (h' : SameLogin b c) :
    SameLogin a c :=
  ⟨h'.user.trans h.user, h'.tenant.trans h.tenant, h'.impersonator.trans h.impersonator⟩

/-- A session on behalf of a hotel is that of its operator. -/
def RefreshToken.Attributed (r : RefreshToken) : Prop := ∀ u, r.impersonatedBy = some u → r.userId = u

def TokenStore.IsRevoked (s : TokenStore) (tokenHash : String) : Prop :=
  ∃ r ∈ s.tokens, r.tokenHash = tokenHash ∧ r.revokedAt.isSome = true

/-- The records of revocations: their tokens are revoked, and a later one of a token found it so. -/
structure TokenStore.Recorded (s : TokenStore) : Prop where
  revoked : ∀ v ∈ s.renewals, s.IsRevoked v.tokenHash
  found : s.renewals.Pairwise fun later earlier =>
    later.tokenHash = earlier.tokenHash → later.found.isSome = true

/-- What every statement of the service keeps. -/
structure Stays (s s' : TokenStore) : Prop where
  row : ∀ r ∈ s.tokens, ∃ r' ∈ s'.tokens, r'.tokenHash = r.tokenHash ∧ SameLogin r r' ∧
    (r.revokedAt.isSome = true → r'.revokedAt.isSome = true)
  renewals : s.renewals <:+ s'.renewals
  attributed : (∀ r ∈ s.tokens, r.Attributed) → ∀ r ∈ s'.tokens, r.Attributed
  recorded : s.Recorded → s'.Recorded

namespace Stays

variable {s s' s'' : TokenStore}

theorem refl (s : TokenStore) : Stays s s :=
  ⟨fun r hr => ⟨r, hr, rfl, .refl r, id⟩, List.suffix_refl _, id, id⟩

theorem trans (h : Stays s s') (h' : Stays s' s'') : Stays s s'' where
  row r hr := by
    obtain ⟨r', hr', hhash, hsame, hrevoked⟩ := h.row r hr
    obtain ⟨r'', hr'', hhash', hsame', hrevoked'⟩ := h'.row r' hr'
    exact ⟨r'', hr'', hhash'.trans hhash, hsame.trans hsame', fun hx => hrevoked' (hrevoked hx)⟩
  renewals := h.renewals.trans h'.renewals
  attributed ha := h'.attributed (h.attributed ha)
  recorded hr := h'.recorded (h.recorded hr)

theorem isRevoked (h : Stays s s') {tokenHash : String} (hr : s.IsRevoked tokenHash) :
    s'.IsRevoked tokenHash := by
  obtain ⟨r, hr, hhash, hrevoked⟩ := hr
  obtain ⟨r', hr', hhash', -, hkeep⟩ := h.row r hr
  exact ⟨r', hr', hhash'.trans hhash, hkeep hrevoked⟩

theorem mem_revoke_iff {tokenHash : String} {at_ : Moment} {r' : RefreshToken} :
    r' ∈ (s.revoke tokenHash at_).tokens ↔ r' ∈ s.tokens ∧ r'.tokenHash ≠ tokenHash ∨
      ∃ r ∈ s.tokens, r.tokenHash = tokenHash ∧ r' = { r with revokedAt := some at_ } := by
  simp only [TokenStore.revoke, Table.mem_modify]

theorem mem_revoke {tokenHash : String} {at_ : Moment} {r' : RefreshToken}
    (hr' : r' ∈ (s.revoke tokenHash at_).tokens) : ∃ r ∈ s.tokens, r'.tokenHash = r.tokenHash ∧
      SameLogin r r' ∧ (r.revokedAt.isSome = true → r'.revokedAt.isSome = true) := by
  rcases mem_revoke_iff.mp hr' with ⟨hr, -⟩ | ⟨r, hr, -, rfl⟩
  · exact ⟨r', hr, rfl, .refl r', id⟩
  · exact ⟨r, hr, rfl, ⟨rfl, rfl, rfl⟩, fun _ => rfl⟩

theorem row_revoke (s : TokenStore) (tokenHash : String) (at_ : Moment) (r : RefreshToken)
    (hr : r ∈ s.tokens) : ∃ r' ∈ (s.revoke tokenHash at_).tokens, r'.tokenHash = r.tokenHash ∧
      SameLogin r r' ∧ (r.revokedAt.isSome = true → r'.revokedAt.isSome = true) := by
  by_cases hhash : r.tokenHash = tokenHash
  · exact ⟨{ r with revokedAt := some at_ }, mem_revoke_iff.mpr (.inr ⟨r, hr, hhash, rfl⟩), rfl,
      ⟨rfl, rfl, rfl⟩, fun _ => rfl⟩
  · exact ⟨r, mem_revoke_iff.mpr (.inl ⟨hr, hhash⟩), rfl, .refl r, id⟩

theorem isRevoked_revoke (s : TokenStore) {tokenHash hash' : String} (at_ : Moment)
    (h : s.IsRevoked hash') : (s.revoke tokenHash at_).IsRevoked hash' := by
  obtain ⟨r, hr, hhash, hrevoked⟩ := h
  obtain ⟨r', hr', hhash', -, hkeep⟩ := row_revoke s tokenHash at_ r hr
  exact ⟨r', hr', hhash'.trans hhash, hkeep hrevoked⟩

theorem revoke (s : TokenStore) (tokenHash : String) (at_ : Moment) :
    Stays s (s.revoke tokenHash at_) where
  row := row_revoke s tokenHash at_
  renewals := List.suffix_refl _
  attributed ha r' hr' u hu := by
    obtain ⟨r, hr, -, hsame, -⟩ := mem_revoke hr'
    rw [hsame.user]
    exact ha r hr u (hsame.impersonator ▸ hu)
  recorded hs := ⟨fun v hv => isRevoked_revoke s at_ (hs.revoked v hv), hs.found⟩

theorem revokeFor (s : TokenStore) (request : ℕ) {tokenHash : String} (at_ : Moment)
    (hrow : ∃ r ∈ s.tokens, r.tokenHash = tokenHash) :
    Stays s (s.revokeFor request tokenHash at_) where
  row := row_revoke s tokenHash at_
  renewals := List.suffix_cons _ _
  attributed := (revoke s tokenHash at_).attributed
  recorded hs := by
    refine ⟨fun v hv => ?_, List.pairwise_cons.mpr ⟨fun v hv hsame => ?_, hs.found⟩⟩
    · rcases List.mem_cons.mp hv with rfl | hv
      · obtain ⟨r, hr, hhash⟩ := hrow
        exact ⟨{ r with revokedAt := some at_ }, mem_revoke_iff.mpr (.inr ⟨r, hr, hhash, rfl⟩),
          hhash, rfl⟩
      · exact isRevoked_revoke s at_ (hs.revoked v hv)
    · -- an earlier record of the token: the UPDATE finds it revoked
      obtain ⟨r, hr, hhash, hrevoked⟩ := hs.revoked v hv
      have hsame : tokenHash = v.tokenHash := hsame
      show ((s.tokens.find tokenHash).bind (·.revokedAt)).isSome = true
      rw [hsame, Table.find_eq_some.mpr ⟨hr, hhash⟩]
      exact hrevoked

theorem insertToken (s : TokenStore) {row : RefreshToken} (hrow : row.Attributed) :
    Stays s (s.insertToken row) where
  row r hr := ⟨r, Table.mem_insert_of_mem hr, rfl, .refl r, id⟩
  renewals := List.suffix_refl _
  attributed ha r hr := by
    rcases Table.mem_of_mem_insert hr with hr | rfl
    · exact ha r hr
    · exact hrow
  recorded hs := by
    refine ⟨fun v hv => ?_, hs.found⟩
    obtain ⟨r, hr, hhash, hrevoked⟩ := hs.revoked v hv
    exact ⟨r, Table.mem_insert_of_mem hr, hhash, hrevoked⟩

end Stays

/-! ## What answers show -/

section Answers

variable (cfg : AuthConfig)

/-- The access token is of the session of the row. -/
structure OfLogin (t : AuthTokens) (r : RefreshToken) : Prop where
  sub : t.accessToken.sub = r.userId
  tid : t.accessToken.tid = r.tenantId
  imp : t.accessToken.imp = r.impersonatedBy

/-- The row of the refresh token that was issued. -/
def Issued (t : AuthTokens) (s : TokenStore) : Prop :=
  ∃ r' ∈ s.tokens, r'.tokenHash = cfg.hashToken t.refreshToken ∧ OfLogin t r'

/-- A refresh has gone the path of its token's session, has recorded its revocation and has issued
tokens of the same session. -/
def Renewed (request : ℕ) (refreshToken : String) (hotelTenantId : Option TenantId) (t : AuthTokens)
    (s : TokenStore) : Prop :=
  ∃ r ∈ s.tokens, r.tokenHash = cfg.hashToken refreshToken ∧ r.ownCookie hotelTenantId = true ∧
    (∃ r' ∈ s.tokens, r'.tokenHash = cfg.hashToken t.refreshToken ∧ OfLogin t r' ∧ SameLogin r r') ∧
    ∃ v ∈ s.renewals, v.request = request ∧ v.tokenHash = cfg.hashToken refreshToken

variable {cfg}

theorem OfLogin.same {t : AuthTokens} {r r' : RefreshToken} (h : OfLogin t r) (hs : SameLogin r r') :
    OfLogin t r' :=
  ⟨h.sub.trans hs.user.symm, h.tid.trans hs.tenant.symm, h.imp.trans hs.impersonator.symm⟩

theorem RefreshToken.ownCookie_same {r r' : RefreshToken} (hs : SameLogin r r')
    (path : Option TenantId) : r'.ownCookie path = r.ownCookie path := by
  cases path <;> simp only [RefreshToken.ownCookie, hs.tenant, hs.impersonator]

theorem Issued.stays {t : AuthTokens} {s s' : TokenStore} (h : Issued cfg t s) (hs : Stays s s') :
    Issued cfg t s' := by
  obtain ⟨r, hr, hhash, hcarries⟩ := h
  obtain ⟨r', hr', hhash', hsame, -⟩ := hs.row r hr
  exact ⟨r', hr', hhash'.trans hhash, hcarries.same hsame⟩

theorem Renewed.stays {request : ℕ} {refreshToken : String} {path : Option TenantId} {t : AuthTokens}
    {s s' : TokenStore} (h : Renewed cfg request refreshToken path t s) (hs : Stays s s') :
    Renewed cfg request refreshToken path t s' := by
  obtain ⟨r, hr, hhash, hown, ⟨n, hn, hnhash, hcarries, hsame⟩, v, hv, hrequest, hvhash⟩ := h
  obtain ⟨r', hr', hhash', hsame', -⟩ := hs.row r hr
  obtain ⟨n', hn', hnhash', hnsame, -⟩ := hs.row n hn
  refine ⟨r', hr', hhash'.trans hhash, ?_, ⟨n', hn', hnhash'.trans hnhash, hcarries.same hnsame, ?_⟩,
    v, hs.renewals.subset hv, hrequest, hvhash⟩
  · rw [RefreshToken.ownCookie_same hsame']
    exact hown
  · exact ⟨by rw [hnsame.user, hsame.user, hsame'.user],
      by rw [hnsame.tenant, hsame.tenant, hsame'.tenant],
      by rw [hnsame.impersonator, hsame.impersonator, hsame'.impersonator]⟩

end Answers

/-! ## Every call keeps them -/

section Calls

variable {cfg : AuthConfig} {jti : String} {s : TokenStore} {α : Type}
  {Q : AuthTokens → TokenStore → TokenStore → Prop}

/-- A session keeps `Stays`, and ends in `Q` with a result. -/
abbrev KeepsTokens (p : AuthProg α) (Q : α → TokenStore → TokenStore → Prop) (s : TokenStore) : Prop :=
  p.Guarantees Stays Stays Q (fun _ _ _ => True) s s

/-- Tokens that are issued have their row, of their session. -/
theorem issueTokens_keeps {args : IssueArgs}
    (hown : ∀ u, args.impersonatedBy = some u → args.userId = u)
    (hQ : ∀ t s', Stays s s' → (∃ r' ∈ s'.tokens, r'.tokenHash = cfg.hashToken t.refreshToken ∧
      OfLogin t r' ∧ r'.userId = args.userId ∧ r'.tenantId = args.tenantId ∧
      r'.impersonatedBy = args.impersonatedBy) → Q t s' s') :
    KeepsTokens (issueTokens cfg jti args) Q s := by
  intro e s₁ hs₁
  rw [Prog.guarantees_bind, Prog.guarantees_transact]
  unfold insertRefreshToken
  rw [Tx.exec_write]
  let row := args.row cfg jti e.now
  by_cases htaken : (s₁.tokens.find row.tokenHash).isSome = true
  · rw [if_pos htaken]
    exact fun _ _ => trivial
  · rw [if_neg htaken]
    have hfree : s₁.tokens.find row.tokenHash = none := by simpa using htaken
    have hinsert : Stays s₁ (s₁.insertToken row) := .insertToken s₁ hown
    refine ⟨hinsert, fun s₂ hs₂ => hQ _ s₂ (hs₁.trans (hinsert.trans hs₂)) ?_⟩
    obtain ⟨r', hr', hhash, hsame, -⟩ :=
      hs₂.row row ((Table.mem_insert hfree).mpr (Or.inr rfl))
    exact ⟨r', hr', hhash, OfLogin.same ⟨rfl, rfl, rfl⟩ hsame, hsame.user, hsame.tenant,
      hsame.impersonator⟩

theorem resolveImpersonation_keeps {Q : Impersonation → TokenStore → TokenStore → Prop}
    {tenantId : TenantId} {adminUserId : UserId}
    (hQ : ∀ who s', Stays s s' → who.userId = adminUserId → Q who s' s') :
    KeepsTokens (resolveImpersonation tenantId adminUserId) Q s := by
  intro e s₁ hs₁
  dsimp only
  cases e.directory.tenants.find tenantId with
  | none => trivial
  | some tenant =>
    dsimp only
    split_ifs
    · trivial
    intro e₁ s₂ hs₂ e₂ s₃ hs₃
    dsimp only
    cases hactor : e₂.directory.users.find adminUserId with
    | none => trivial
    | some actor =>
      dsimp only
      split_ifs
      · trivial
      · exact hQ _ s₃ (hs₁.trans (hs₂.trans hs₃)) (Table.find_eq_some.mp hactor).2

theorem issueOnBehalf_keeps {tenantId : TenantId} {impersonatedBy : UserId}
    (hQ : ∀ t s', Stays s s' → (∃ r' ∈ s'.tokens, r'.tokenHash = cfg.hashToken t.refreshToken ∧
      OfLogin t r' ∧ r'.userId = impersonatedBy ∧ r'.tenantId = tenantId ∧
      r'.impersonatedBy = some impersonatedBy) → Q t s' s') :
    KeepsTokens (issueOnBehalf cfg jti tenantId impersonatedBy) Q s := by
  unfold KeepsTokens issueOnBehalf
  rw [Prog.guarantees_bind]
  refine resolveImpersonation_keeps fun who s₁ hs₁ hwho => issueTokens_keeps (fun u hu => ?_)
    fun t s₂ hs₂ h => hQ t s₂ (hs₁.trans hs₂) ?_
  · obtain rfl : impersonatedBy = u := Option.some.inj hu
    exact hwho
  · obtain ⟨r', hr', hhash, hcarries, huser, htenant, himp⟩ := h
    exact ⟨r', hr', hhash, hcarries, huser.trans hwho, htenant, himp⟩

theorem issueAccount_keeps (a : Account) (isa disp : Bool) :
    KeepsTokens (issueTokens cfg jti (a.issueArgs isa disp)) (fun t s' _ => Issued cfg t s') s :=
  issueTokens_keeps nofun fun _ _ _ ⟨r', hr', hhash, hcarries, _⟩ => ⟨r', hr', hhash, hcarries⟩

theorem login_keeps (dto : LoginDto) :
    KeepsTokens (login cfg jti dto) (fun t s' _ => Issued cfg t s') s := by
  intro e s₁ hs₁
  dsimp only
  cases e.throttled with
  | some x => trivial
  | none =>
    intro e₁ s₂ hs₂
    dsimp only
    cases e₁.directory.accountByEmail (cfg.toLowerCase dto.email) with
    | none => trivial
    | some a =>
      dsimp only
      split_ifs
      · trivial
      · exact issueAccount_keeps a _ _

theorem exitImpersonation_keeps (operatorUserId : UserId) :
    KeepsTokens (exitImpersonation cfg jti operatorUserId) (fun t s' _ => Issued cfg t s') s := by
  intro e s₁ hs₁
  dsimp only
  cases e.directory.account operatorUserId with
  | none => trivial
  | some a =>
    dsimp only
    split_ifs
    · trivial
    · exact issueAccount_keeps a _ _

theorem exchangeSsoCode_keeps (entry : Option SsoEntry) :
    KeepsTokens (exchangeSsoCode cfg jti entry) (fun t s' _ => Issued cfg t s') s := by
  intro e s₁ hs₁
  dsimp only
  cases entry with
  | none => trivial
  | some entry =>
    dsimp only
    split_ifs
    · trivial
    cases entry.tenantId with
    | some tenantId =>
      exact issueOnBehalf_keeps fun t s' _ ⟨r', hr', hhash, hcarries, _⟩ => ⟨r', hr', hhash, hcarries⟩
    | none =>
      intro e₁ s₂ hs₂
      dsimp only
      cases e₁.directory.account entry.dispatcherUserId with
      | none => trivial
      | some a =>
        dsimp only
        split_ifs
        · trivial
        · exact issueAccount_keeps a _ _

theorem impersonate_keeps (tenantId : TenantId) (actor : JwtAccessPayload) :
    KeepsTokens (impersonate tenantId actor) (fun _ _ _ => True) s := by
  have hissue : ∀ {s : TokenStore}, KeepsTokens (issueImpersonationToken tenantId actor.sub)
      (fun _ _ _ => True) s := by
    intro s
    unfold KeepsTokens issueImpersonationToken
    rw [Prog.guarantees_bind]
    exact resolveImpersonation_keeps fun _ _ _ _ => trivial
  unfold KeepsTokens impersonate
  split_ifs
  · exact hissue
  intro e s₁ hs₁
  dsimp only
  cases e.directory.tenants.find tenantId with
  | none => trivial
  | some t =>
    dsimp only
    split_ifs
    · trivial
    · exact hissue

theorem logout_keeps (refreshToken : String) :
    KeepsTokens (logout cfg refreshToken) (fun _ _ _ => True) s := by
  intro e s₁ hs₁
  rw [Prog.guarantees_transact]
  exact ⟨.revoke s₁ _ _, fun _ _ => trivial⟩

/-- **A refresh** answers with tokens of the session of its token. -/
theorem refresh_keeps (request : ℕ) (refreshToken : String) (path : Option TenantId)
    (ha : ∀ r ∈ s.tokens, r.Attributed) : KeepsTokens (refresh cfg jti request refreshToken path)
      (fun t s' _ => Renewed cfg request refreshToken path t s') s := by
  intro e s₁ hs₁
  dsimp only
  cases cfg.verifyRefresh refreshToken e.now with
  | none => trivial
  | some payload =>
    dsimp only
    rw [Prog.guarantees_bind]
    unfold findRefreshToken
    rw [Prog.guarantees_transact]
    refine ⟨.refl s₁, fun s₂ hs₂ => ?_⟩
    cases hfind : s₁.tokens.find (cfg.hashToken refreshToken) with
    | none => trivial
    | some row =>
      intro e₁ s₃ hs₃
      dsimp only
      cases hacc : e₁.directory.account row.userId with
      | none => trivial
      | some a =>
        dsimp only
        cases hcheck : checkRefresh payload path row a e₁.now with
        | error x => trivial
        | ok u =>
          intro e₂ s₄ hs₄
          obtain ⟨-, hown, -⟩ := checkRefresh_ok hcheck
          obtain ⟨hrow, hhash⟩ := Table.find_eq_some.mp hfind
          have hlate : Stays s₁ s₄ := hs₂.trans (hs₃.trans hs₄)
          obtain ⟨row₄, hrow₄, hhash₄, -, -⟩ := hlate.row row hrow
          have hrevoke : Stays s₄ (s₄.revokeFor request row.tokenHash e₂.now) :=
            .revokeFor s₄ request e₂.now ⟨row₄, hrow₄, hhash₄⟩
          rw [Prog.guarantees_bind]
          unfold revokeRefreshToken
          rw [Prog.guarantees_transact]
          refine ⟨hrevoke, fun s₅ hs₅ => ?_⟩
          -- what is known of the token and of the record from here on
          have hrenewed : ∀ t s', Stays s₅ s' →
              (∃ r' ∈ s'.tokens, r'.tokenHash = cfg.hashToken t.refreshToken ∧ OfLogin t r' ∧
                r'.userId = row.userId ∧ r'.tenantId = row.tenantId ∧
                r'.impersonatedBy = row.impersonatedBy) →
              Renewed cfg request refreshToken path t s' := by
            intro t s' hs' ⟨r', hr', hnhash, hcarries, huser, htenant, himp⟩
            have hall : Stays s₄ s' := hrevoke.trans (hs₅.trans hs')
            obtain ⟨r, hr, hrhash, hsame, -⟩ := (hlate.trans hall).row row hrow
            refine ⟨r, hr, hrhash.trans hhash, ?_, ⟨r', hr', hnhash, hcarries, ?_⟩, _,
              (hs₅.trans hs').renewals.subset List.mem_cons_self, rfl, hhash⟩
            · rw [RefreshToken.ownCookie_same hsame]
              exact hown
            · exact ⟨huser.trans hsame.user.symm, htenant.trans hsame.tenant.symm,
                himp.trans hsame.impersonator.symm⟩
          unfold renewal
          cases himp : row.impersonatedBy with
          | none =>
            refine issueTokens_keeps nofun fun t s' hs' ⟨r', hr', hnhash, hcarries, huser, htenant, hi⟩ =>
              hrenewed t s' hs' ⟨r', hr', hnhash, hcarries, ?_, htenant, hi.trans himp.symm⟩
            exact huser.trans (Directory.account_id hacc)
          | some u =>
            refine issueOnBehalf_keeps fun t s' hs' ⟨r', hr', hnhash, hcarries, huser, htenant, hi⟩ =>
              hrenewed t s' hs' ⟨r', hr', hnhash, hcarries, ?_, htenant, hi.trans himp.symm⟩
            exact huser.trans (hs₁.attributed ha row hrow u himp).symm

end Calls

/-! ## Interleaved calls -/

section Interleaved

variable (cfg : AuthConfig) (jti : ℕ → String) (calls : ℕ → AuthCall)

/-- All calls before their first statement; no token is there. -/
def startAuth : Turns authDb Failure AuthAnswer ℕ :=
  ⟨.empty, fun i => (calls i).session cfg (jti i) i⟩

/-- What call number `i` has done when it answers. -/
def AuthCall.Ended (i : ℕ) : AuthCall → AuthAnswer → TokenStore → Prop
  | .refresh refreshToken path, a, s => ∃ t, a = .tokens t ∧ Renewed cfg i refreshToken path t s
  | _, .tokens t, s => Issued cfg t s
  | _, _, _ => True

variable {cfg jti calls}

theorem AuthCall.Ended.stays {i : ℕ} {call : AuthCall} {a : AuthAnswer} {s s' : TokenStore}
    (h : call.Ended cfg i a s) (hs : Stays s s') : call.Ended cfg i a s' := by
  cases call with
  | refresh refreshToken path =>
    obtain ⟨t, rfl, h⟩ := h
    exact ⟨t, rfl, h.stays hs⟩
  | _ =>
    cases a with
    | tokens t => exact Issued.stays h hs
    | access token => trivial
    | done => trivial

/-- **Every call keeps `Stays` to its end.** -/
theorem AuthCall.guarantees (call : AuthCall) (i : ℕ) {s : TokenStore}
    (ha : ∀ r ∈ s.tokens, r.Attributed) :
    KeepsTokens (call.session cfg (jti i) i) (fun a s' _ => call.Ended cfg i a s') s := by
  unfold KeepsTokens AuthCall.session
  cases call with
  | login dto =>
    rw [Prog.guarantees_bind]
    exact login_keeps dto
  | exchangeSsoCode entry =>
    rw [Prog.guarantees_bind]
    exact exchangeSsoCode_keeps entry
  | impersonate tenantId actor =>
    rw [Prog.guarantees_bind]
    exact impersonate_keeps tenantId actor
  | exitImpersonation operatorUserId =>
    rw [Prog.guarantees_bind]
    exact exitImpersonation_keeps operatorUserId
  | refresh refreshToken path =>
    rw [Prog.guarantees_bind]
    exact (refresh_keeps i refreshToken path ha).mono (fun t _ _ h => ⟨t, rfl, h⟩)
      fun _ _ _ _ => trivial
  | logout refreshToken =>
    rw [Prog.guarantees_bind]
    exact logout_keeps refreshToken

theorem stays_agreement : Turns.Agreement (D := authDb) Stays fun _ : ℕ => Stays :=
  ⟨fun _ => .refl, .refl, .trans, fun _ _ _ h => h⟩

theorem attributed_empty : ∀ r ∈ TokenStore.empty.tokens, r.Attributed :=
  fun r hr => absurd hr (Table.not_mem_empty r)

theorem startAuth_ends : Turns.AllEnd Stays (fun _ => Stays)
    (fun i a s => (calls i).Ended cfg i a s) (startAuth cfg jti calls) :=
  fun i _ hs => (calls i).guarantees i (hs.attributed attributed_empty)

theorem play_ends (turns : List (ℕ × AuthEnv)) :
    Stays .empty ((startAuth cfg jti calls).play turns).store ∧
      Turns.AllEnd Stays (fun _ => Stays) (fun i a s => (calls i).Ended cfg i a s)
        ((startAuth cfg jti calls).play turns) :=
  startAuth_ends.play stays_agreement (fun _ _ _ _ h hs => h.stays hs) turns

theorem play_ended {turns : List (ℕ × AuthEnv)} {i : ℕ} {a : AuthAnswer}
    (h : ((startAuth cfg jti calls).play turns).sessions i = .ret a) :
    (calls i).Ended cfg i a ((startAuth cfg jti calls).play turns).store :=
  (play_ends turns).2.answer stays_agreement h

theorem play_recorded (turns : List (ℕ × AuthEnv)) :
    ((startAuth cfg jti calls).play turns).store.Recorded :=
  (play_ends turns).1.recorded ⟨nofun, List.Pairwise.nil⟩

/-! ### A revoked token -/

/-- **A refresh of a revoked token** changes nothing and has no answer but an exception. -/
theorem refresh_revoked {jti : String} {request : ℕ} {refreshToken : String}
    {path : Option TenantId} {s : TokenStore} (h : s.IsRevoked (cfg.hashToken refreshToken)) :
    (refresh cfg jti request refreshToken path).Guarantees Stays (fun c c' => c' = c)
      (fun _ _ _ => False) (fun _ _ _ => True) s s := by
  intro e s₁ hs₁
  dsimp only
  cases cfg.verifyRefresh refreshToken e.now with
  | none => trivial
  | some payload =>
    obtain ⟨row, hrow, hhash, hrevoked⟩ := hs₁.isRevoked h
    dsimp only
    rw [Prog.guarantees_bind]
    unfold findRefreshToken
    rw [Prog.guarantees_transact]
    refine ⟨rfl, fun s₂ hs₂ => ?_⟩
    rw [Table.find_eq_some.mpr ⟨hrow, hhash⟩]
    intro e₁ s₃ hs₃
    dsimp only
    cases e₁.directory.account row.userId with
    | none => trivial
    | some a =>
      have hcheck : checkRefresh payload path row a e₁.now = .error refreshRevoked := by
        unfold checkRefresh
        rw [hrevoked, Bool.true_or, if_pos rfl]
      dsimp only
      rw [hcheck]
      trivial

theorem play_append (turns turns' : List (ℕ × AuthEnv)) :
    (startAuth cfg jti calls).play (turns ++ turns') =
      ((startAuth cfg jti calls).play turns).play turns' := List.foldl_append

/-- The promises from a moment on at which the token of call `i` is revoked. -/
def promise (i j : ℕ) (s s' : TokenStore) : Prop := if j = i then s' = s else Stays s s'

theorem promise_agreement (i : ℕ) : Turns.Agreement (D := authDb) Stays (promise i) where
  idle j s := by
    unfold promise
    split_ifs
    · rfl
    · exact .refl s
  refl := .refl
  trans := .trans
  within j s s' h := by
    unfold promise at h
    split_ifs at h
    · rw [h]
      exact .refl s
    · exact h

variable {turns : List (ℕ × AuthEnv)} {i : ℕ} {refreshToken : String} {path : Option TenantId}

theorem startedRevoked_ends (hcall : calls i = .refresh refreshToken path)
    (hfirst : ∀ t ∈ turns, t.1 ≠ i)
    (hrevoked : ((startAuth cfg jti calls).play turns).store.IsRevoked (cfg.hashToken refreshToken)) :
    Turns.AllEnd Stays (promise i) (fun j _ _ => j ≠ i) ((startAuth cfg jti calls).play turns) := by
  intro j s hs
  by_cases hj : j = i
  · subst hj
    have hsession : ((startAuth cfg jti calls).play turns).sessions j =
        (AuthCall.refresh refreshToken path).session cfg (jti j) j := by
      rw [Turns.play_of_not_mem hfirst, ← hcall]
      rfl
    have hpromise : promise j j = fun s s' => s' = s := by
      funext s s'
      exact if_pos rfl
    rw [hsession, hpromise]
    unfold AuthCall.session
    rw [Prog.guarantees_bind]
    exact (refresh_revoked (hs.isRevoked hrevoked)).mono (fun _ _ _ h => h.elim)
      fun _ _ _ _ => trivial
  · have hpromise : promise i j = Stays := by
      funext s s'
      exact if_neg hj
    rw [hpromise]
    exact ((play_ends turns).2 j s hs).mono (fun _ _ _ _ => hj) fun _ _ _ _ => trivial

variable (cfg jti calls) in
/-- From here on call `i` does not answer, and leaves the tokens as they are at each of
its turns. -/
def FailsFrom (turns : List (ℕ × AuthEnv)) (i : ℕ) : Prop :=
  ∀ later, (∀ a, ((startAuth cfg jti calls).play (turns ++ later)).sessions i ≠ .ret a) ∧
    ∀ e, (((startAuth cfg jti calls).play (turns ++ later)).turn i e).store =
      ((startAuth cfg jti calls).play (turns ++ later)).store

/-- A refresh that starts after its token was revoked fails and issues nothing. -/
theorem startedRevoked_fails (hcall : calls i = .refresh refreshToken path)
    (hfirst : ∀ t ∈ turns, t.1 ≠ i)
    (hrevoked : ((startAuth cfg jti calls).play turns).store.IsRevoked (cfg.hashToken refreshToken)) :
    FailsFrom cfg jti calls turns i := by
  intro later
  have hends := ((startedRevoked_ends hcall hfirst hrevoked).play (promise_agreement i)
    (fun _ _ _ _ h _ => h) later).2
  rw [← play_append] at hends
  refine ⟨fun a ha => hends.answer (promise_agreement i) ha rfl, fun e => ?_⟩
  have hturn := (hends.turn (promise_agreement i) (fun _ _ _ _ h _ => h) i e).1
  unfold promise at hturn
  rwa [if_pos rfl] at hturn

/-! ### Chains -/

variable (cfg calls) in
/-- A call that has answered refreshed the token of `r` into that of `r'`. -/
def Renews (S : Turns authDb Failure AuthAnswer ℕ) (r r' : RefreshToken) : Prop :=
  ∃ i refreshToken path t, calls i = .refresh refreshToken path ∧
    S.sessions i = .ret (.tokens t) ∧
    r ∈ S.store.tokens ∧ r.tokenHash = cfg.hashToken refreshToken ∧
    r' ∈ S.store.tokens ∧ r'.tokenHash = cfg.hashToken t.refreshToken

/-- The path of a session: a hotel's own for a session on its behalf, else the common one. -/
def OwnPath (r : RefreshToken) : Option TenantId → Prop
  | some hotelTenantId => r.impersonatedBy ≠ none ∧ r.tenantId = hotelTenantId
  | none => r.impersonatedBy = none

theorem ownPath_of_ownCookie {r : RefreshToken} {path : Option TenantId}
    (h : r.ownCookie path = true) : OwnPath r path := by
  cases path with
  | none => exact Option.isNone_iff_eq_none.mp h
  | some hotelTenantId =>
    obtain ⟨himp, htenant⟩ := (Bool.and_eq_true _ _).mp h
    exact ⟨Option.isSome_iff_ne_none.mp himp, of_decide_eq_true htenant⟩

theorem renews_sameLogin {r r' : RefreshToken}
    (h : Renews cfg calls ((startAuth cfg jti calls).play turns) r r') : SameLogin r r' := by
  obtain ⟨i, refreshToken, path, t, hcall, hanswer, hr, hhash, hr', hhash'⟩ := h
  have hended := play_ended hanswer
  rw [hcall] at hended
  obtain ⟨t', ht, r₀, hr₀, hhash₀, -, ⟨r₁, hr₁, hhash₁, -, hsame⟩, -⟩ := hended
  obtain rfl : t = t' := AuthAnswer.tokens.inj ht
  obtain rfl : r₀ = r := Table.eq_of_key hr₀ hr (hhash₀.trans hhash.symm)
  obtain rfl : r₁ = r' := Table.eq_of_key hr₁ hr' (hhash₁.trans hhash'.symm)
  exact hsame

variable (cfg jti calls) in
/-- Sessions stay what they are: along chains of refreshes, in the access tokens, and on the paths
by which they are renewed. -/
structure InItsSession (S : Turns authDb Failure AuthAnswer ℕ) : Prop where
  chain : ∀ r r', Relation.ReflTransGen (Renews cfg calls S) r r' → SameLogin r r'
  access : ∀ i t, S.sessions i = .ret (.tokens t) → Issued cfg t S.store
  path : ∀ i refreshToken path a r, calls i = .refresh refreshToken path → S.sessions i = .ret a →
    r ∈ S.store.tokens → r.tokenHash = cfg.hashToken refreshToken → OwnPath r path

theorem play_inItsSession (turns : List (ℕ × AuthEnv)) :
    InItsSession cfg calls ((startAuth cfg jti calls).play turns) where
  chain r r' h := by
    induction h with
    | refl => exact .refl r
    | tail _ hstep ih => exact ih.trans (renews_sameLogin hstep)
  access i t hanswer := by
    have hended := play_ended hanswer
    cases hcall : calls i with
    | refresh refreshToken path =>
      rw [hcall] at hended
      obtain ⟨t', ht, r, -, -, -, ⟨r', hr', hhash, hcarries, -⟩, -⟩ := hended
      obtain rfl : t = t' := AuthAnswer.tokens.inj ht
      exact ⟨r', hr', hhash, hcarries⟩
    | _ =>
      rw [hcall] at hended
      exact hended
  path i refreshToken path a r hcall hanswer hr hhash := by
    have hended := play_ended hanswer
    rw [hcall] at hended
    obtain ⟨t, -, r₀, hr₀, hhash₀, hown, -⟩ := hended
    obtain rfl : r₀ = r := Table.eq_of_key hr₀ hr (hhash₀.trans hhash.symm)
    exact ownPath_of_ownCookie hown

/-! ### One success -/

variable (cfg calls) in
/-- Of the refreshes of one token at most one has answered. -/
def OneSuccess (S : Turns authDb Failure AuthAnswer ℕ) : Prop :=
  ∀ i j t t' path path' a b, calls i = .refresh t path → calls j = .refresh t' path' →
    cfg.hashToken t = cfg.hashToken t' → S.sessions i = .ret a → S.sessions j = .ret b → i = j

theorem play_oneSuccess
    (hfresh : ∀ v ∈ ((startAuth cfg jti calls).play turns).store.renewals, v.found = none) :
    OneSuccess cfg calls ((startAuth cfg jti calls).play turns) := by
  intro i j t t' path path' a b hi hj hhash ha hb
  have hrecord : ∀ {i t path a}, calls i = .refresh t path →
      ((startAuth cfg jti calls).play turns).sessions i = .ret a →
      ∃ v ∈ ((startAuth cfg jti calls).play turns).store.renewals,
        v.request = i ∧ v.tokenHash = cfg.hashToken t := by
    intro i t path a hcall hanswer
    have hended := play_ended hanswer
    rw [hcall] at hended
    obtain ⟨-, -, -, -, -, -, -, hv⟩ := hended
    exact hv
  obtain ⟨v, hv, rfl, hvhash⟩ := hrecord hi ha
  obtain ⟨w, hw, rfl, hwhash⟩ := hrecord hj hb
  by_contra hne
  -- of two records of one token the later one found it revoked
  let R (a b : Renewal) : Prop :=
    a.tokenHash = b.tokenHash → a.found.isSome = true ∨ b.found.isSome = true
  have : Std.Symm R := ⟨fun _ _ h hab => (h hab.symm).symm⟩
  have hpair : ((startAuth cfg jti calls).play turns).store.renewals.Pairwise R :=
    (play_recorded turns).found.imp fun h hab => Or.inl (h hab)
  have hfound := hpair.forall hv hw (fun h => hne (congrArg Renewal.request h))
    (hvhash.trans (hhash.trans hwhash.symm))
  rw [hfresh v hv, hfresh w hw] at hfound
  simp at hfound

variable (cfg jti calls) in
/-- **Rotation.** In every order of the statements sessions stay what they are, and a refresh that
starts after its token was revoked fails; of the refreshes of one token at most one succeeds, as
long as every refresh that revoked a token found it not revoked yet. -/
theorem refresh_rotation (turns : List (ℕ × AuthEnv)) :
    InItsSession cfg calls ((startAuth cfg jti calls).play turns) ∧
    (∀ i refreshToken path, calls i = .refresh refreshToken path → (∀ t ∈ turns, t.1 ≠ i) →
      ((startAuth cfg jti calls).play turns).store.IsRevoked (cfg.hashToken refreshToken) →
      FailsFrom cfg jti calls turns i) ∧
    ((∀ v ∈ ((startAuth cfg jti calls).play turns).store.renewals, v.found = none) →
      OneSuccess cfg calls ((startAuth cfg jti calls).play turns)) :=
  ⟨play_inItsSession turns, fun _ _ _ hcall hfirst hrevoked =>
    startedRevoked_fails hcall hfirst hrevoked, play_oneSuccess⟩

end Interleaved

/-! ## Two refreshes at once -/

/-- The answer of a session that has ended well. -/
def answered? {D : Db} {ε α : Type} : Prog D ε α → Option α
  | .ret a => some a
  | _ => none

/-- Tokens that are their ids, and passwords as they are. -/
def AuthConfig.plain : AuthConfig where
  toLowerCase := id
  hashToken := id
  signRefresh p _ := p.jti
  verifyRefresh token _ := some ⟨1, 1, token⟩
  comparePassword a b := a == b
  accessTtlSeconds := 900
  refreshTtlSeconds := 604800

def Directory.oneOwner : Directory where
  tenants := ⟨[⟨1, "hotel", "Hotel", true, none, none⟩], by decide⟩
  roles := ⟨[⟨1, 1, .owner, ["user.read"]⟩], by decide⟩
  users := ⟨[⟨1, 1, "owner@hotel.ru", "password", "Owner", 1, true, none, false⟩], by decide⟩

/-- The owner signs in, and two refreshes present the token. -/
def twoRefreshes : ℕ → AuthCall
  | 0 => .login ⟨"owner@hotel.ru", "password"⟩
  | 1 => .refresh "a" none
  | 2 => .refresh "a" none
  | _ => .logout ""

def drawn : ℕ → String
  | 0 => "a"
  | 1 => "b"
  | 2 => "c"
  | _ => ""

/-- Turns of a call, with the owner in the directory. -/
def turnsOf (i n : ℕ) : List (ℕ × AuthEnv) := List.replicate n (i, ⟨.oneOwner, 0, none⟩)

/-- Alone the first refresh answers, and the second one, which starts later, fails. -/
example : let S := (startAuth .plain drawn twoRefreshes).play (turnsOf 0 4 ++ turnsOf 1 7 ++ turnsOf 2 7)
    (answered? (S.sessions 1)).isSome = true ∧ answered? (S.sessions 2) = none := by decide +kernel

/-- **Two refreshes of one token succeed**: both read its row before either revokes it. -/
theorem twoRefreshes_answer :
    let S := (startAuth .plain drawn twoRefreshes).play
      (turnsOf 0 4 ++ turnsOf 1 4 ++ turnsOf 2 4 ++ turnsOf 1 3 ++ turnsOf 2 3)
    (answered? (S.sessions 1)).map AuthAnswer.accessToken =
        (answered? (S.sessions 2)).map AuthAnswer.accessToken ∧
      (S.store.tokens.rows.filter fun r => r.revokedAt.isNone).map (·.tokenHash) = ["b", "c"] ∧
      ¬OneSuccess .plain twoRefreshes S := by
  intro S
  refine ⟨by decide +kernel, by decide +kernel, fun h => ?_⟩
  have hanswer : ∀ i, (answered? (S.sessions i)).isSome = true → ∃ a, S.sessions i = .ret a := by
    intro i hi
    cases hs : S.sessions i with
    | ret a => exact ⟨a, rfl⟩
    | _ =>
      rw [hs] at hi
      cases hi
  obtain ⟨a, ha⟩ := hanswer 1 (by decide +kernel)
  obtain ⟨b, hb⟩ := hanswer 2 (by decide +kernel)
  exact absurd (h 1 2 "a" "a" none none a b rfl rfl rfl ha hb) (by decide)

end KarsHotel
