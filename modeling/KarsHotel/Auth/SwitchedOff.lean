import KarsHotel.Auth.Rotation
import KarsHotel.Auth.SignIns

/-!
# Nobody enters what is switched off

Operations one at a time: signing in and out, renewing, entering on behalf of a hotel, and the
switches of hotels and people.

* `Directory.Sound`: the platform is on, an archived hotel is off, operators are
  the platform's people;
* `Evolves`: accounts stay in their hotels, and the directory stays sound;
* `Serves`: a call of the service alone answers with a token for a hotel and a person that are on;
* `SignInOp.exec_sound`: every operation keeps the state sound;
* **`switchedOff_run`**: no operation of a run answers with a token for a hotel or a person that is
  switched off, if no refresh renews a session of a hotel of one's own that is.
-/

namespace KarsHotel

/-! ## The directory -/

def Directory.OnPlatform (d : Directory) (userId : UserId) : Prop :=
  ∃ u ∈ d.users, u.id = userId ∧ ∃ t ∈ d.tenants, t.id = u.tenantId ∧ t.slug = "platform"

/-- The platform is on, an archived hotel is off, operators are the platform's people. -/
structure Directory.Sound (d : Directory) : Prop where
  platform : ∀ t ∈ d.tenants, t.slug = "platform" → t.isActive = true
  archived : ∀ t ∈ d.tenants, t.archivedAt.isSome = true → t.isActive = false
  operators : ∀ u ∈ d.users, u.isDispatcher = true ∨ d.roleCode u = some .superAdmin → d.OnPlatform u.id

/-- The hotel is on, and not in the archive; the person is on. -/
structure Directory.IsOn (d : Directory) (tid : TenantId) (sub : UserId) : Prop where
  tenant : ∃ t ∈ d.tenants, t.id = tid ∧ t.isActive = true ∧ t.archivedAt = none
  user : ∃ u ∈ d.users, u.id = sub ∧ u.isActive = true

/-- Accounts stay in their hotels, and the directory stays sound. -/
structure Evolves (d d' : Directory) : Prop where
  sound : d.Sound → d'.Sound
  user : ∀ u ∈ d.users, ∃ u' ∈ d'.users, u'.id = u.id ∧ u'.tenantId = u.tenantId
  tenant : ∀ t ∈ d.tenants, ∃ t' ∈ d'.tenants, t'.id = t.id ∧ t'.slug = t.slug

section Directory

variable {d d' d'' : Directory}

theorem Evolves.refl (d : Directory) : Evolves d d :=
  ⟨id, fun u hu => ⟨u, hu, rfl, rfl⟩, fun t ht => ⟨t, ht, rfl, rfl⟩⟩

theorem Evolves.trans (h : Evolves d d') (h' : Evolves d' d'') : Evolves d d'' where
  sound hd := h'.sound (h.sound hd)
  user u hu := by
    obtain ⟨u', hu', hid, htenant⟩ := h.user u hu
    obtain ⟨u'', hu'', hid', htenant'⟩ := h'.user u' hu'
    exact ⟨u'', hu'', hid'.trans hid, htenant'.trans htenant⟩
  tenant t ht := by
    obtain ⟨t', ht', hid, hslug⟩ := h.tenant t ht
    obtain ⟨t'', ht'', hid', hslug'⟩ := h'.tenant t' ht'
    exact ⟨t'', ht'', hid'.trans hid, hslug'.trans hslug⟩

theorem Directory.OnPlatform.mono {userId : UserId} (h : d.OnPlatform userId)
    (huser : ∀ u ∈ d.users, ∃ u' ∈ d'.users, u'.id = u.id ∧ u'.tenantId = u.tenantId)
    (htenant : ∀ t ∈ d.tenants, ∃ t' ∈ d'.tenants, t'.id = t.id ∧ t'.slug = t.slug) :
    d'.OnPlatform userId := by
  obtain ⟨u, hu, hid, t, ht, hof, hslug⟩ := h
  obtain ⟨u', hu', hid', hof'⟩ := huser u hu
  obtain ⟨t', ht', htid, hslug'⟩ := htenant t ht
  exact ⟨u', hu', hid'.trans hid, t', ht', htid.trans (hof.trans hof'.symm), hslug'.trans hslug⟩

theorem Evolves.onPlatform (h : Evolves d d') {userId : UserId} (hp : d.OnPlatform userId) :
    d'.OnPlatform userId := hp.mono h.user h.tenant

/-! ### Single writes -/

theorem user_updateUser (userId : UserId) (data : UserUpdateInput) :
    ∀ u ∈ d.users, ∃ u' ∈ (d.updateUser userId data).users, u'.id = u.id ∧ u'.tenantId = u.tenantId := by
  intro u hu
  by_cases hid : u.id = userId
  · exact ⟨data.apply u, Directory.mem_updateUser.mpr (.inr ⟨u, hu, hid, rfl⟩), rfl, rfl⟩
  · exact ⟨u, Directory.mem_updateUser.mpr (.inl ⟨hu, hid⟩), rfl, rfl⟩

theorem evolves_updateUser (userId : UserId) {data : UserUpdateInput}
    (hrole : ∀ role, data.roleId = some role → (d.roles.find role).map (·.code) ≠ some .superAdmin) :
    Evolves d (d.updateUser userId data) where
  user := user_updateUser userId data
  tenant t ht := ⟨t, ht, rfl, rfl⟩
  sound hd := by
    refine ⟨hd.platform, hd.archived, fun u' hu' hoperator => ?_⟩
    have hstays : ∀ u ∈ d.users, d.OnPlatform u.id → (d.updateUser userId data).OnPlatform u.id :=
      fun u _ hp => hp.mono (user_updateUser userId data) fun t ht => ⟨t, ht, rfl, rfl⟩
    rcases Directory.mem_updateUser.mp hu' with ⟨hu, -⟩ | ⟨u, hu, -, rfl⟩
    · exact hstays u' hu (hd.operators u' hu hoperator)
    · refine hstays u hu (hd.operators u hu (hoperator.imp id fun hcode => ?_))
      have hcode : (d.roles.find (data.roleId.getD u.roleId)).map (·.code) = some .superAdmin := hcode
      cases hdata : data.roleId with
      | none =>
        rw [hdata] at hcode
        exact hcode
      | some role =>
        rw [hdata] at hcode
        exact absurd hcode (hrole role hdata)

theorem mem_insertUser {row : UserRow} (hfree : d.users.find row.id = none) :
    row ∈ (d.insertUser row).users := (Table.mem_insert hfree).mpr (.inr rfl)

theorem evolves_insertUser {row : UserRow}
    (hrow : row.isDispatcher = true ∨ d.roleCode row = some .superAdmin →
      ∃ t ∈ d.tenants, t.id = row.tenantId ∧ t.slug = "platform")
    (hfree : d.users.find row.id = none) : Evolves d (d.insertUser row) where
  user u hu := ⟨u, Table.mem_insert_of_mem hu, rfl, rfl⟩
  tenant t ht := ⟨t, ht, rfl, rfl⟩
  sound hd := by
    refine ⟨hd.platform, hd.archived, fun u hu hoperator => ?_⟩
    rcases Table.mem_of_mem_insert hu with hu | rfl
    · exact (hd.operators u hu hoperator).mono (fun u hu => ⟨u, Table.mem_insert_of_mem hu, rfl, rfl⟩)
        fun t ht => ⟨t, ht, rfl, rfl⟩
    · exact ⟨u, mem_insertUser hfree, rfl, hrow hoperator⟩

theorem evolves_insertRole {row : RoleRow} (hcode : row.code ≠ .superAdmin) :
    Evolves d (d.insertRole row) where
  user u hu := ⟨u, hu, rfl, rfl⟩
  tenant t ht := ⟨t, ht, rfl, rfl⟩
  sound hd := by
    refine ⟨hd.platform, hd.archived, fun u hu hoperator => hd.operators u hu (hoperator.imp id ?_)⟩
    intro hrole
    obtain ⟨role, hfind, hsuper⟩ := Option.map_eq_some_iff.mp hrole
    obtain ⟨hmem, hid⟩ := Table.find_eq_some.mp hfind
    rcases Table.mem_of_mem_insert hmem with hmem | rfl
    · exact Option.map_eq_some_iff.mpr ⟨role, Table.find_eq_some.mpr ⟨hmem, hid⟩, hsuper⟩
    · exact absurd hsuper hcode

theorem SwitchDeed.evolves (h : SwitchDeed d d') : Evolves d d' := by
  cases h with
  | none => exact .refl d
  | user u data hu hrole =>
    exact evolves_updateUser u.id fun role hdata => by rw [hrole] at hdata; cases hdata
  | tenant t data ht hclosed =>
    obtain ⟨hmem, -, hslug⟩ := Directory.hotel_eq_some.mp ht
    have htenant : ∀ r ∈ d.tenants, ∃ r' ∈ (d.updateTenant t.id data).tenants,
        r'.id = r.id ∧ r'.slug = r.slug := by
      intro r hr
      by_cases hid : r.id = t.id
      · exact ⟨data.apply r, Directory.mem_updateTenant.mpr (.inr ⟨r, hr, hid, rfl⟩), rfl, rfl⟩
      · exact ⟨r, Directory.mem_updateTenant.mpr (.inl ⟨hr, hid⟩), rfl, rfl⟩
    refine ⟨fun hd => ⟨fun r' hr' hplatform => ?_, fun r' hr' harchived => ?_, fun u hu hoperator => ?_⟩,
      fun u hu => ⟨u, hu, rfl, rfl⟩, htenant⟩
    · rcases Directory.mem_updateTenant.mp hr' with ⟨hr, -⟩ | ⟨r, hr, hid, rfl⟩
      · exact hd.platform r' hr hplatform
      · rw [Table.eq_of_key hr hmem hid] at hplatform
        exact absurd hplatform hslug
    · rcases Directory.mem_updateTenant.mp hr' with ⟨hr, -⟩ | ⟨r, hr, hid, rfl⟩
      · exact hd.archived r' hr harchived
      · exact hclosed harchived
    · exact (hd.operators u hu hoperator).mono (fun u hu => ⟨u, hu, rfl, rfl⟩) htenant

theorem TeamDeed.evolves {tenantId : TenantId} {r : TeamRequest} (h : TeamDeed tenantId r d d') :
    Evolves d d' := by
  have hplain : ∀ {role : RoleId}, Assignable d tenantId role →
      (d.roles.find role).map (·.code) ≠ some .superAdmin := by
    rintro role ⟨row, hfind, -, -, hsuper⟩ hcode
    rw [hfind] at hcode
    exact hsuper (Option.some.inj hcode)
  cases h with
  | none => exact .refl d
  | added row hfree htenant hrole hplainrow =>
    exact evolves_insertUser (fun hoperator => absurd hoperator (by
      rintro (hdisp | hcode)
      · rw [hplainrow] at hdisp
        cases hdisp
      · exact hplain hrole hcode)) hfree
  | edited user data huser hrole hoff =>
    exact evolves_updateUser user.id fun role hdata => hplain (hrole role hdata)

end Directory

/-! ## Tokens of known people -/

/-- The operators behind an access token are the platform's people. -/
structure JwtAccessPayload.Vouched (d : Directory) (a : JwtAccessPayload) : Prop where
  operator : a.isa = true ∨ a.disp = true → d.OnPlatform a.sub
  impersonator : ∀ u, a.imp = some u → d.OnPlatform u

/-- The person of a session is of its hotel, or works there as one of the platform's people. -/
structure RefreshToken.Vouched (d : Directory) (r : RefreshToken) : Prop where
  own : r.impersonatedBy = none → ∃ u ∈ d.users, u.id = r.userId ∧ u.tenantId = r.tenantId
  impersonator : ∀ u, r.impersonatedBy = some u → d.OnPlatform u

def TokenStore.Vouched (d : Directory) (s : TokenStore) : Prop := ∀ r ∈ s.tokens, r.Vouched d

/-- Those whom tokens are issued for are known, and on. -/
structure IssueArgs.Vouched (d : Directory) (args : IssueArgs) : Prop where
  operator : args.isSuperAdmin = true ∨ args.isDispatcher = true → d.OnPlatform args.userId
  own : args.impersonatedBy = none → ∃ u ∈ d.users, u.id = args.userId ∧ u.tenantId = args.tenantId
  impersonator : ∀ u, args.impersonatedBy = some u → d.OnPlatform u
  isOn : d.IsOn args.tenantId args.userId

/-- Tokens of known people, for a hotel and a person that are on. -/
structure Directory.Grants (d : Directory) (a : JwtAccessPayload) : Prop where
  vouched : a.Vouched d
  isOn : d.IsOn a.tid a.sub

theorem RefreshToken.Vouched.same {d : Directory} {r r' : RefreshToken} (h : r.Vouched d)
    (huser : r'.userId = r.userId) (htenant : r'.tenantId = r.tenantId)
    (himp : r'.impersonatedBy = r.impersonatedBy) : r'.Vouched d :=
  ⟨by rw [huser, htenant, himp]; exact h.own, by rw [himp]; exact h.impersonator⟩

theorem vouched_revoke {d : Directory} {s : TokenStore} (h : s.Vouched d) (tokenHash : String)
    (at_ : Moment) : (s.revoke tokenHash at_).Vouched d := by
  intro r' hr'
  have hmem : r' ∈ s.tokens.modify tokenHash fun r => { r with revokedAt := some at_ } := hr'
  rcases Table.mem_modify.mp hmem with ⟨hr, -⟩ | ⟨r, hr, -, rfl⟩
  · exact h r' hr
  · exact (h r hr).same rfl rfl rfl

theorem vouched_revokeSessions {d : Directory} {s : TokenStore} (h : s.Vouched d) (userId : UserId)
    (at_ : Moment) : (s.revokeSessions userId at_).Vouched d := by
  intro r' hr'
  simp only [TokenStore.revokeSessions, Table.mem_map] at hr'
  obtain ⟨r, hr, rfl⟩ := hr'
  exact (h r hr).same rfl rfl rfl

/-! ## Calls of the service, alone -/

section Calls

variable {cfg : AuthConfig} {jti : String} {env : AuthEnv} {s : TokenStore} {α : Type}

/-- Run alone, the call keeps the tokens those of known people, and the access token it answers with
is for a hotel and a person that are on. -/
def Serves (env : AuthEnv) (p : AuthProg α) (token : α → Option JwtAccessPayload) (s : TokenStore) :
    Prop :=
  p.Alone env (fun a (s' : TokenStore) _ => s'.Vouched env.directory ∧
      ∀ t, token a = some t → env.directory.Grants t)
    (fun _ (s' : TokenStore) _ => s'.Vouched env.directory) s s

def AuthTokens.access? (t : AuthTokens) : Option JwtAccessPayload := some t.accessToken

theorem isOn_of_find {d : Directory} (hd : d.Sound) {tid : TenantId} {sub : UserId}
    {t : TenantRecord} {u : UserRow} (ht : d.tenants.find tid = some t) (htenant : t.isActive = true)
    (hu : d.users.find sub = some u) (huser : u.isActive = true) : d.IsOn tid sub := by
  obtain ⟨htmem, htid⟩ := Table.find_eq_some.mp ht
  obtain ⟨humem, huid⟩ := Table.find_eq_some.mp hu
  refine ⟨⟨t, htmem, htid, htenant, ?_⟩, ⟨u, humem, huid, huser⟩⟩
  by_contra harchived
  have hoff := hd.archived t htmem (Option.isSome_iff_ne_none.mpr harchived)
  rw [htenant] at hoff
  cases hoff

theorem issueTokens_serves {args : IssueArgs} (hargs : args.Vouched env.directory)
    (hs : s.Vouched env.directory) :
    Serves env (issueTokens cfg jti args) AuthTokens.access? s := by
  unfold Serves issueTokens
  rw [Prog.alone_ask, Prog.alone_bind, Prog.alone_transact]
  unfold insertRefreshToken
  rw [Tx.exec_write]
  by_cases htaken : (s.tokens.find (args.row cfg jti env.now).tokenHash).isSome = true
  · rw [if_pos htaken]
    exact hs
  · rw [if_neg htaken]
    refine ⟨fun r hr => ?_, fun t ht => ?_⟩
    · rcases Table.mem_of_mem_insert hr with hr | rfl
      · exact hs r hr
      · exact ⟨hargs.own, hargs.impersonator⟩
    · obtain rfl : args.access = t := Option.some.inj ht
      exact ⟨⟨hargs.operator, hargs.impersonator⟩, hargs.isOn⟩

theorem resolveImpersonation_alone {Q : Impersonation → TokenStore → TokenStore → Prop}
    {X : Failure → TokenStore → TokenStore → Prop} (hd : env.directory.Sound) {tenantId : TenantId}
    {adminUserId : UserId} (hX : ∀ x, X x s s)
    (hQ : ∀ who : Impersonation, who.userId = adminUserId → env.directory.IsOn tenantId who.userId →
      Q who s s) :
    (resolveImpersonation tenantId adminUserId).Alone env Q X s s := by
  unfold resolveImpersonation
  rw [Prog.alone_ask]
  dsimp only
  cases htenant : env.directory.tenants.find tenantId with
  | none => exact hX _
  | some tenant =>
    dsimp only
    split_ifs with hoff
    · exact hX _
    rw [Prog.alone_ask]
    rw [Prog.alone_ask]
    cases hactor : env.directory.users.find adminUserId with
    | none => exact hX _
    | some actor =>
      dsimp only
      split_ifs with hactive
      · exact hX _
      · have hid : actor.id = adminUserId := (Table.find_eq_some.mp hactor).2
        refine hQ _ hid ?_
        show env.directory.IsOn tenantId actor.id
        rw [hid]
        exact isOn_of_find hd htenant (by simpa using hoff) hactor (by simpa using hactive)

theorem onBehalf_vouched {who : Impersonation} {tenantId : TenantId} {impersonatedBy : UserId}
    (hp : env.directory.OnPlatform impersonatedBy) (hon : env.directory.IsOn tenantId who.userId) :
    (who.issueArgs tenantId impersonatedBy).Vouched env.directory where
  operator := by simp [Impersonation.issueArgs]
  own := nofun
  impersonator u hu := by
    obtain rfl : impersonatedBy = u := Option.some.inj hu
    exact hp
  isOn := hon

theorem issueOnBehalf_serves (hd : env.directory.Sound) (hs : s.Vouched env.directory)
    {tenantId : TenantId} {impersonatedBy : UserId} (hp : env.directory.OnPlatform impersonatedBy) :
    Serves env (issueOnBehalf cfg jti tenantId impersonatedBy) AuthTokens.access? s := by
  unfold Serves issueOnBehalf
  rw [Prog.alone_bind]
  exact resolveImpersonation_alone hd (fun _ => hs) fun who _ hon =>
    issueTokens_serves (onBehalf_vouched hp hon) hs

theorem impersonate_serves (hd : env.directory.Sound) (hs : s.Vouched env.directory)
    {tenantId : TenantId} {actor : JwtAccessPayload} (hp : env.directory.OnPlatform actor.sub) :
    Serves env (impersonate tenantId actor) some s := by
  have hissue : Serves env (issueImpersonationToken tenantId actor.sub) some s := by
    unfold Serves issueImpersonationToken
    rw [Prog.alone_bind]
    refine resolveImpersonation_alone hd (fun _ => hs) fun who _ hon => ⟨hs, fun t ht => ?_⟩
    obtain rfl := Option.some.inj ht
    have hargs := onBehalf_vouched hp hon
    exact ⟨⟨hargs.operator, hargs.impersonator⟩, hargs.isOn⟩
  unfold Serves impersonate
  split_ifs
  · exact hissue
  rw [Prog.alone_ask]
  cases env.directory.tenants.find tenantId with
  | none => exact hs
  | some t =>
    dsimp only
    split_ifs
    · exact hs
    · exact hissue

theorem account_vouched (hd : env.directory.Sound) {a : Account} {isa disp : Bool}
    (hmem : a.user ∈ env.directory.users) (ha : env.directory.withRole a.user = some a)
    (hoperator : isa = true ∨ disp = true → env.directory.OnPlatform a.user.id)
    (hactive : a.user.isActive = true) (htenant : a.tenant.isActive = true) :
    (a.issueArgs isa disp).Vouched env.directory where
  operator := hoperator
  own _ := ⟨a.user, hmem, rfl, rfl⟩
  impersonator := nofun
  isOn := isOn_of_find hd (Directory.withRole_tenant ha).2 htenant (Table.find_key hmem) hactive

theorem superAdmin_onPlatform (hd : env.directory.Sound) {a : Account}
    (hmem : a.user ∈ env.directory.users) (ha : env.directory.withRole a.user = some a)
    (hrole : a.role.code = .superAdmin) : env.directory.OnPlatform a.user.id := by
  refine hd.operators a.user hmem (.inr ?_)
  unfold Directory.roleCode
  rw [Directory.withRole_role ha]
  exact congrArg some hrole

/-- The hotel of one of the platform's people is on. -/
theorem platform_active (hd : env.directory.Sound) {a : Account}
    (hmem : a.user ∈ env.directory.users) (ha : env.directory.withRole a.user = some a)
    (hp : env.directory.OnPlatform a.user.id) : a.tenant.isActive = true := by
  obtain ⟨u, hu, hid, t, ht, hof, hslug⟩ := hp
  obtain rfl : u = a.user := Table.eq_of_key hu hmem hid
  obtain ⟨htmem, htid⟩ := Table.find_eq_some.mp (Directory.withRole_tenant ha).2
  rw [Table.eq_of_key htmem ht (htid.trans hof.symm)]
  exact hd.platform t ht hslug

theorem account_mem {d : Directory} {id : UserId} {a : Account} (h : d.account id = some a) :
    a.user ∈ d.users ∧ d.withRole a.user = some a :=
  ⟨(Table.find_eq_some.mp (Directory.account_user h).1).1, (Directory.account_user h).2⟩

theorem login_serves (hd : env.directory.Sound) (hs : s.Vouched env.directory) (dto : LoginDto) :
    Serves env (login cfg jti dto) AuthTokens.access? s := by
  unfold Serves login
  rw [Prog.alone_ask]
  dsimp only
  cases env.throttled with
  | some x => exact hs
  | none =>
    dsimp only
    rw [Prog.alone_ask]
    cases hfind : env.directory.accountByEmail (cfg.toLowerCase dto.email) with
    | none => exact hs
    | some a =>
      dsimp only
      split_ifs with hoff
      · exact hs
      · obtain ⟨user, huser, ha⟩ := Option.bind_eq_some_iff.mp hfind
        obtain ⟨rfl, -⟩ := Directory.withRole_tenant ha
        have hmem := (Directory.userByEmail_some huser).1
        have hon : (cfg.comparePassword dto.password a.user.passwordHash = true ∧
            a.user.isActive = true) ∧ a.tenant.isActive = true := by simpa using hoff
        refine issueTokens_serves (account_vouched hd hmem ha ?_ hon.1.2 hon.2) hs
        rintro (hisa | hdisp)
        · exact superAdmin_onPlatform hd hmem ha (of_decide_eq_true hisa)
        · cases hdisp

theorem exitImpersonation_serves (hd : env.directory.Sound) (hs : s.Vouched env.directory)
    {operatorUserId : UserId} (hp : env.directory.OnPlatform operatorUserId) :
    Serves env (exitImpersonation cfg jti operatorUserId) AuthTokens.access? s := by
  unfold Serves exitImpersonation
  rw [Prog.alone_ask]
  dsimp only
  cases hfind : env.directory.account operatorUserId with
  | none => exact hs
  | some a =>
    dsimp only
    split_ifs with hoff
    · exact hs
    · obtain ⟨hmem, ha⟩ := account_mem hfind
      obtain rfl : a.user.id = operatorUserId := Directory.account_id hfind
      exact issueTokens_serves (account_vouched hd hmem ha (fun _ => hp) (by simpa using hoff)
        (platform_active hd hmem ha hp)) hs

theorem exchangeSsoCode_serves (hd : env.directory.Sound) (hs : s.Vouched env.directory)
    {entry : Option SsoEntry} (hp : ∀ e, entry = some e → env.directory.OnPlatform e.dispatcherUserId) :
    Serves env (exchangeSsoCode cfg jti entry) AuthTokens.access? s := by
  unfold Serves exchangeSsoCode
  rw [Prog.alone_ask]
  cases entry with
  | none => exact hs
  | some e =>
    have hp := hp e rfl
    dsimp only
    split_ifs
    · exact hs
    cases e.tenantId with
    | some tenantId => exact issueOnBehalf_serves hd hs hp
    | none =>
      dsimp only
      rw [Prog.alone_ask]
      cases hfind : env.directory.account e.dispatcherUserId with
      | none => exact hs
      | some a =>
        dsimp only
        split_ifs with hoff
        · exact hs
        · obtain ⟨hmem, ha⟩ := account_mem hfind
          rw [← Directory.account_id hfind] at hp
          exact issueTokens_serves (account_vouched hd hmem ha (fun _ => hp) (by simpa using hoff)
            (platform_active hd hmem ha hp)) hs

theorem logout_serves (hs : s.Vouched env.directory) (refreshToken : String) :
    Serves env (logout cfg refreshToken) (fun _ => none) s := by
  unfold Serves logout
  rw [Prog.alone_ask, Prog.alone_transact]
  exact ⟨vouched_revoke hs _ _, nofun⟩

/-- The refresh finds a session of one's own hotel, passes every check of it, and the hotel
is on. -/
def RenewsOpen (cfg : AuthConfig) (env : AuthEnv) (refreshToken : String) (path : Option TenantId)
    (s : TokenStore) : Prop :=
  ∀ payload row a, cfg.verifyRefresh refreshToken env.now = some payload →
    s.tokens.find (cfg.hashToken refreshToken) = some row → env.directory.account row.userId = some a →
    checkRefresh payload path row a env.now = .ok () → row.impersonatedBy = none →
    (env.directory.tenants.find row.tenantId).any (·.isActive) = true

theorem refresh_serves (hd : env.directory.Sound) (hs : s.Vouched env.directory) {request : ℕ}
    {refreshToken : String} {path : Option TenantId} (hopen : RenewsOpen cfg env refreshToken path s) :
    Serves env (refresh cfg jti request refreshToken path) AuthTokens.access? s := by
  unfold Serves refresh
  rw [Prog.alone_ask]
  cases hpayload : cfg.verifyRefresh refreshToken env.now with
  | none => exact hs
  | some payload =>
    dsimp only
    rw [Prog.alone_bind]
    unfold findRefreshToken
    rw [Prog.alone_transact]
    simp only [Tx.exec_read, Tx.exec_ret]
    cases hrow : s.tokens.find (cfg.hashToken refreshToken) with
    | none => exact hs
    | some row =>
      dsimp only
      rw [Prog.alone_ask]
      cases hfind : env.directory.account row.userId with
      | none => exact hs
      | some a =>
        dsimp only
        cases hcheck : checkRefresh payload path row a env.now with
        | error x => exact hs
        | ok u =>
          dsimp only
          have hvouched : row.Vouched env.directory := hs row (Table.find_eq_some.mp hrow).1
          rw [Prog.alone_ask, Prog.alone_bind]
          unfold revokeRefreshToken
          rw [Prog.alone_transact]
          have hs' : (s.revokeFor request row.tokenHash env.now).Vouched env.directory :=
            vouched_revoke hs row.tokenHash env.now
          show Prog.Alone env _ _ (renewal cfg jti row a) (s.revokeFor request row.tokenHash env.now)
            (s.revokeFor request row.tokenHash env.now)
          unfold renewal
          cases himp : row.impersonatedBy with
          | some impersonatedBy =>
            exact issueOnBehalf_serves hd hs' (hvouched.impersonator impersonatedBy himp)
          | none =>
            obtain ⟨hmem, ha⟩ := account_mem hfind
            have hid : a.user.id = row.userId := Directory.account_id hfind
            -- the session is of the hotel of its user
            obtain ⟨user, huser, huid, htenant⟩ := hvouched.own himp
            obtain rfl : user = a.user := Table.eq_of_key huser hmem (huid.trans hid.symm)
            have hon := hopen payload row a hpayload hrow hfind hcheck himp
            rw [← htenant, (Directory.withRole_tenant ha).2] at hon
            have hargs : (a.issueArgs (decide (a.role.code = .superAdmin)) a.user.isDispatcher).Vouched
                env.directory := by
              refine account_vouched hd hmem ha ?_ (checkRefresh_ok hcheck).2.2 hon
              rintro (hisa | hdisp)
              · exact superAdmin_onPlatform hd hmem ha (of_decide_eq_true hisa)
              · exact hd.operators a.user hmem (.inl hdisp)
            refine issueTokens_serves ?_ hs'
            rw [← htenant]
            exact hargs

end Calls

/-! ## The state -/

/-- The directory is sound, and tokens and codes are those of known people. -/
structure SignInState.Sound (s : SignInState) : Prop where
  directory : s.accounts.directory.Sound
  tokens : s.accounts.tokens.Vouched s.accounts.directory
  codes : ∀ c ∈ s.ssoCodes, s.accounts.directory.OnPlatform c.entry.dispatcherUserId
  issued : ∀ t ∈ s.issued, t.Vouched s.accounts.directory

section State

variable {cfg : SignInConfig} {w : Drawn} {s s' : SignInState} {d d' : Directory}

theorem vouched_evolves (h : Evolves d d') {tokens : TokenStore} (hs : tokens.Vouched d) :
    tokens.Vouched d' := by
  refine fun r hr => ⟨fun hnone => ?_, fun u hu => h.onPlatform ((hs r hr).impersonator u hu)⟩
  obtain ⟨u, hu, hid, htenant⟩ := (hs r hr).own hnone
  obtain ⟨u', hu', hid', htenant'⟩ := h.user u hu
  exact ⟨u', hu', hid'.trans hid, htenant'.trans htenant⟩

/-- Whatever evolves the directory and only revokes tokens keeps the state sound. -/
theorem SignInState.Sound.evolve (hs : s.Sound) {accounts : Accounts}
    (h : Evolves s.accounts.directory accounts.directory)
    (htokens : accounts.tokens.Vouched s.accounts.directory) :
    ({ s with accounts } : SignInState).Sound where
  directory := h.sound hs.directory
  tokens := vouched_evolves h htokens
  codes c hc := h.onPlatform (hs.codes c hc)
  issued t ht := ⟨fun hoperator => h.onPlatform ((hs.issued t ht).operator hoperator),
    fun u hu => h.onPlatform ((hs.issued t ht).impersonator u hu)⟩

theorem dispatcherRole_evolves {role : RoleRow} (h : dispatcherRole d = .ok (role, d')) :
    Evolves d d' ∧ d'.roles.find role.id = some role ∧ role.code = .dispatcher ∧
      ∃ t ∈ d'.tenants, t.id = role.tenantId ∧ t.slug = "platform" := by
  unfold dispatcherRole at h
  cases hplatform : d.tenants.rows.find? fun t => decide (t.slug = "platform") with
  | none =>
    rw [hplatform] at h
    cases h
  | some platform =>
    rw [hplatform] at h
    dsimp only at h
    have hmem : platform ∈ d.tenants := List.mem_of_find?_eq_some hplatform
    have hslug : platform.slug = "platform" := by simpa using List.find?_some hplatform
    cases hrole : d.roleOf platform.id .dispatcher with
    | some found =>
      rw [hrole] at h
      cases h
      have hrow : role ∈ d.roles := List.mem_of_find?_eq_some hrole
      have hof : role.tenantId = platform.id ∧ role.code = .dispatcher := by
        simpa using List.find?_some hrole
      exact ⟨.refl d, Table.find_key hrow, hof.2, platform, hmem, hof.1.symm, hslug⟩
    | none =>
      rw [hrole] at h
      cases h
      exact ⟨evolves_insertRole nofun, Table.find_insert_self (Table.find_fresh _), rfl,
        platform, hmem, rfl, hslug⟩

/-- **A dispatcher's account** is the platform's. -/
theorem provisionDispatcher_evolves (hd : d.Sound) (dispatcher : DispatcherDto) :
    Evolves d (provisionDispatcher cfg w dispatcher d).2 ∧
      ∀ id, (provisionDispatcher cfg w dispatcher d).1 = .ok id →
        (provisionDispatcher cfg w dispatcher d).2.OnPlatform id := by
  unfold provisionDispatcher
  cases hrole : dispatcherRole d with
  | error x => exact ⟨.refl d, nofun⟩
  | ok p =>
    obtain ⟨role, d₁⟩ := p
    obtain ⟨hevolves, hfind, hcode, hplatform⟩ := dispatcherRole_evolves hrole
    have hplain : (d₁.roles.find role.id).map (·.code) ≠ some .superAdmin := by
      rw [hfind]
      show some role.code ≠ some .superAdmin
      rw [hcode]
      decide
    dsimp only
    cases hfound : d₁.userByEmail (cfg.auth.toLowerCase (cfg.trim dispatcher.email)) with
    | some existing =>
      dsimp only
      have hmem := (Directory.userByEmail_some hfound).1
      split_ifs with hother hoff
      · exact ⟨hevolves, nofun⟩
      all_goals
        have hdisp : existing.isDispatcher = true := by simpa using hother
        have hp := (hevolves.sound hd).operators existing hmem (.inl hdisp)
      · have hupdate : Evolves d₁ (d₁.updateUser existing.id
            { isActive := some (true, none), roleId := some role.id }) :=
          evolves_updateUser existing.id fun r hr => by
            obtain rfl : role.id = r := Option.some.inj hr
            exact hplain
        refine ⟨hevolves.trans hupdate, fun id hid => ?_⟩
        obtain rfl : existing.id = id := Except.ok.inj hid
        exact hupdate.onPlatform hp
      · refine ⟨hevolves, fun id hid => ?_⟩
        obtain rfl : existing.id = id := Except.ok.inj hid
        exact hp
    | none =>
      dsimp only
      refine ⟨hevolves.trans (evolves_insertUser (fun _ => hplatform) (Table.find_fresh _)),
        fun id hid => ?_⟩
      obtain rfl := Except.ok.inj hid
      obtain ⟨t, ht, hid, hslug⟩ := hplatform
      exact ⟨_, mem_insertUser (Table.find_fresh _), rfl, t, ht, hid, hslug⟩

theorem createSsoCode_sound (hs : s.Sound) (dispatcher : DispatcherDto) (tenantId : Option TenantId) :
    (createSsoCode cfg w dispatcher tenantId s).2.Sound := by
  obtain ⟨hevolves, hplatform⟩ := provisionDispatcher_evolves hs.directory dispatcher (w := w)
  unfold createSsoCode
  generalize provisionDispatcher cfg w dispatcher s.accounts.directory = made at hevolves hplatform
  obtain ⟨answer, directory⟩ := made
  have hsound : ({ s with accounts := { s.accounts with directory } } : SignInState).Sound :=
    hs.evolve hevolves hs.tokens
  have hcodes : ∀ c ∈ s.ssoCodes.remove fun c => decide (c.entry.expiresAt < w.now),
      directory.OnPlatform c.entry.dispatcherUserId :=
    fun c hc => hsound.codes c (Table.mem_remove.mp hc).1
  cases answer with
  | error x => exact ⟨hsound.directory, hsound.tokens, hcodes, hsound.issued⟩
  | ok userId =>
    refine ⟨hsound.directory, hsound.tokens, fun c hc => ?_, hsound.issued⟩
    rcases Table.mem_of_mem_insert hc with hc | rfl
    · exact hcodes c (Table.mem_remove.mp hc).1
    · exact hplatform userId rfl

theorem deactivateDispatcher_sound (hs : s.Sound) (email : String) :
    ({ s with accounts := deactivateDispatcher cfg w email s.accounts } : SignInState).Sound := by
  unfold deactivateDispatcher
  cases (s.accounts.directory.userByEmail (cfg.auth.toLowerCase (cfg.trim email))).filter
    (·.isDispatcher) with
  | none => exact hs
  | some user => exact hs.evolve (evolves_updateUser user.id nofun) (vouched_revokeSessions hs.tokens _ _)

theorem team_sound (hs : s.Sound) (call : TeamCall) :
    ({ s with accounts := call.step cfg.team s.accounts } : SignInState).Sound := by
  refine hs.evolve (TeamCall.deed cfg.team s.accounts call).evolves ?_
  unfold TeamCall.step
  cases h : call.handle cfg.team s.accounts with
  | error x => exact hs.tokens
  | ok p =>
    rcases TeamRequest.exec_tokens (TeamCall.handle_ok h).2 with hsame | ⟨userId, hrevoked⟩
    · show p.2.tokens.Vouched _
      rw [hsame]
      exact hs.tokens
    · show p.2.tokens.Vouched _
      rw [hrevoked]
      exact vouched_revokeSessions hs.tokens _ _

theorem switch_evolves {op : SignInOp} (h : op.switch w d = .ok d') : Evolves d d' := by
  cases op with
  | toggleActive tenantId => exact (toggleActive_deed h).evolves
  | archiveTenant tenantId actor live => exact (archiveTenant_deed h).evolves
  | restoreTenant tenantId => exact (restoreTenant_deed h).evolves
  | toggleUserActive userId => exact (toggleUserActive_deed h).evolves
  | _ =>
    cases h
    exact .refl d

end State

/-! ## Operations -/

section Operations

variable {cfg : SignInConfig} {w : Drawn} {s : SignInState}

/-- A refresh renews a session of one's own hotel only while the hotel is on. -/
def SignInOp.RenewsOpen (cfg : SignInConfig) (w : Drawn) (s : SignInState) : SignInOp → Prop
  | refresh refreshToken path =>
    KarsHotel.RenewsOpen cfg.auth (s.env w) refreshToken path s.accounts.tokens
  | _ => True

/-- The access token an operation answers with is for a hotel and a person that are on. -/
def SignInOp.AnswersOn (cfg : SignInConfig) (w : Drawn) (s : SignInState) (op : SignInOp) : Prop :=
  ∀ token, (op.exec cfg w s).1 = some token → s.accounts.directory.IsOn token.tid token.sub

theorem alone_sound {s : SignInState} (hs : s.Sound) {call : AuthCall}
    (h : Serves (s.env w) (call.session cfg.auth w.jti 0) AuthAnswer.accessToken s.accounts.tokens) :
    (call.alone cfg w s).2.Sound ∧
      ∀ token, (call.alone cfg w s).1.toOption.bind (·.accessToken) = some token →
        s.accounts.directory.IsOn token.tid token.sub := by
  unfold Serves Prog.Alone at h
  unfold AuthCall.alone
  dsimp only
  cases hran : (call.session cfg.auth w.jti 0).eval (s.env w) s.accounts.tokens s.accounts.tokens with
  | mk answer left =>
    rw [hran] at h
    cases answer with
    | error x => exact ⟨⟨hs.directory, h, hs.codes, hs.issued⟩, nofun⟩
    | ok a =>
      refine ⟨⟨hs.directory, h.1, hs.codes, fun t ht => ?_⟩, fun t ht => (h.2 t ht).isOn⟩
      rcases List.mem_append.mp ht with ht | ht
      · exact (h.2 t (Option.mem_toList.mp ht)).vouched
      · exact hs.issued t ht

theorem forget_sound (hs : s.Sound) (op : SignInOp) : (op.forget s).Sound := by
  cases op with
  | exchangeSsoCode code =>
    exact ⟨hs.directory, hs.tokens, fun c hc => hs.codes c (Table.mem_remove.mp hc).1, hs.issued⟩
  | _ => exact hs

theorem jwtAuth_ok {token : JwtAccessPayload} {user : AuthenticatedRequestUser}
    (h : jwtAuth s token = .ok user) : token ∈ s.issued ∧ user = token.validate := by
  unfold jwtAuth at h
  split_ifs at h with hissued
  exact ⟨hissued, (Except.ok.inj h).symm⟩

theorem platformOperator_ok {token : JwtAccessPayload} (h : platformOperator token.validate = .ok ()) :
    token.isa = true ∨ token.disp = true := by
  unfold platformOperator at h
  by_contra hneither
  rw [not_or, Bool.not_eq_true, Bool.not_eq_true] at hneither
  have hadmin : token.validate.isSuperAdmin = false := hneither.1
  have hdisp : token.validate.isDispatcher = false := hneither.2
  rw [hadmin, hdisp] at h
  cases h

/-- **The calls that operations make** answer as they should. -/
theorem SignInOp.authCall_serves (hs : s.Sound) {op : SignInOp} (hopen : op.RenewsOpen cfg w s)
    {call : AuthCall} (h : op.authCall s = some (.ok call)) :
    Serves (s.env w) (call.session cfg.auth w.jti 0) AuthAnswer.accessToken s.accounts.tokens := by
  have hd : (s.env w).directory.Sound := hs.directory
  have ht : s.accounts.tokens.Vouched (s.env w).directory := hs.tokens
  cases op with
  | login dto =>
    obtain rfl := Except.ok.inj (Option.some.inj h)
    unfold Serves AuthCall.session
    rw [Prog.alone_bind]
    exact login_serves hd ht dto
  | refresh refreshToken path =>
    obtain rfl := Except.ok.inj (Option.some.inj h)
    unfold Serves AuthCall.session
    rw [Prog.alone_bind]
    exact refresh_serves hd ht hopen
  | logout refreshToken =>
    obtain rfl := Except.ok.inj (Option.some.inj h)
    unfold Serves AuthCall.session
    rw [Prog.alone_bind]
    exact logout_serves ht refreshToken
  | exchangeSsoCode code =>
    obtain rfl := Except.ok.inj (Option.some.inj h)
    unfold Serves AuthCall.session
    rw [Prog.alone_bind]
    refine exchangeSsoCode_serves hd ht fun e he => ?_
    obtain ⟨c, hc, rfl⟩ := Option.map_eq_some_iff.mp he
    exact hs.codes c (Table.find_eq_some.mp hc).1
  | impersonate tenantId token =>
    obtain ⟨user, huser, h⟩ := bind_ok_iff.mp (Option.some.inj h)
    obtain ⟨u, hguard, h⟩ := bind_ok_iff.mp h
    obtain rfl := Except.ok.inj h
    obtain ⟨hissued, rfl⟩ := jwtAuth_ok huser
    unfold Serves AuthCall.session
    rw [Prog.alone_bind]
    exact impersonate_serves hd ht ((hs.issued token hissued).operator (platformOperator_ok hguard))
  | exitImpersonation token =>
    obtain ⟨user, huser, h⟩ := bind_ok_iff.mp (Option.some.inj h)
    obtain ⟨hissued, rfl⟩ := jwtAuth_ok huser
    have himp : token.validate.impersonatedBy = token.imp := rfl
    rw [himp] at h
    cases hby : token.imp with
    | none =>
      rw [hby] at h
      cases h
    | some operatorUserId =>
      rw [hby] at h
      obtain rfl := Except.ok.inj h
      unfold Serves AuthCall.session
      rw [Prog.alone_bind]
      exact exitImpersonation_serves hd ht ((hs.issued token hissued).impersonator _ hby)
  | _ => cases h

/-- **Every operation** keeps the state sound and answers with tokens for what is on. -/
theorem SignInOp.exec_sound (hs : s.Sound) {op : SignInOp} (hopen : op.RenewsOpen cfg w s) :
    (op.exec cfg w s).2.Sound ∧ op.AnswersOn cfg w s := by
  unfold SignInOp.AnswersOn SignInOp.exec
  cases hcall : op.authCall s with
  | some answer =>
    cases answer with
    | error x => exact ⟨hs, nofun⟩
    | ok call =>
      have hserves := op.authCall_serves hs hopen hcall
      -- forgetting a code changes neither the tokens nor the directory
      have hsame : (op.forget s).accounts = s.accounts := by cases op <;> rfl
      have hforgot : Serves ((op.forget s).env w) (call.session cfg.auth w.jti 0)
          AuthAnswer.accessToken (op.forget s).accounts.tokens := by
        unfold SignInState.env
        rw [hsame]
        exact hserves
      have halone := alone_sound (forget_sound hs op) hforgot
      rw [hsame] at halone
      exact halone
  | none =>
    cases op with
    | createSsoCode dispatcher tenantId => exact ⟨createSsoCode_sound hs dispatcher tenantId, nofun⟩
    | deactivateDispatcher email => exact ⟨deactivateDispatcher_sound hs email, nofun⟩
    | team user request => exact ⟨team_sound hs _, nofun⟩
    | toggleActive _ | archiveTenant _ _ _ | restoreTenant _ | toggleUserActive _ =>
      dsimp only
      split
      · exact ⟨hs, nofun⟩
      · rename_i directory hswitch
        exact ⟨hs.evolve (switch_evolves hswitch) hs.tokens, nofun⟩
    | _ => cases hcall

end Operations

/-! ## Runs -/

section Runs

variable (cfg : SignInConfig)

/-- Nobody has signed in yet. -/
def SignInState.start (d : Directory) : SignInState := ⟨⟨d, .empty⟩, .empty, []⟩

def SignInState.step (s : SignInState) (op : Drawn × SignInOp) : SignInState := (op.2.exec cfg op.1 s).2

variable {cfg}

theorem start_sound {d : Directory} (hd : d.Sound) : (SignInState.start d).Sound :=
  ⟨hd, fun r hr => absurd hr (Table.not_mem_empty r), fun c hc => absurd hc (Table.not_mem_empty c), nofun⟩

variable (cfg) in
/-- **Nobody enters what is switched off**: in every run in which a refresh renews a session of
one's own hotel only while the hotel is on, every access token is for a hotel and a person that
are on. -/
theorem switchedOff_run {d : Directory} (hd : d.Sound) (ops : List (Drawn × SignInOp))
    (hopen : StepsMeet (SignInState.step cfg) (fun s op => op.2.RenewsOpen cfg op.1 s) (.start d) ops) :
    StepsMeet (SignInState.step cfg) (fun s op => op.2.AnswersOn cfg op.1 s) (.start d) ops :=
  StepsMeet.imp (P := SignInState.Sound) (fun _ _ hs hok => SignInOp.exec_sound hs hok) (start_sound hd)
    hopen

end Runs

/-! ## A hotel that was switched off -/

def SignInConfig.plain : SignInConfig := ⟨.plain, ⟨id, fun _ p => p⟩, id⟩

def Drawn.plain (jti : String) : Drawn := ⟨0, none, jti, "", "", ""⟩

def ownerSignsIn : Drawn × SignInOp := (.plain "a", .login ⟨"owner@hotel.ru", "password"⟩)

def ownerRenews : Drawn × SignInOp := (.plain "b", .refresh "a" none)

def hotelSwitched : Drawn × SignInOp := (.plain "", .toggleActive 1)

theorem oneOwner_sound : Directory.oneOwner.Sound where
  platform t ht hslug := by
    obtain rfl : t = ⟨1, "hotel", "Hotel", true, none, none⟩ := List.mem_singleton.mp ht
    exact absurd hslug (by decide)
  archived t ht harchived := by
    obtain rfl : t = ⟨1, "hotel", "Hotel", true, none, none⟩ := List.mem_singleton.mp ht
    cases harchived
  operators u hu hoperator := by
    obtain rfl := List.mem_singleton.mp hu
    exact absurd hoperator (by decide)

/-- A session is renewed while the hotel is on; the hotel is then switched off, and nobody
signs in. -/
theorem switchedOff_run_oneOwner :
    StepsMeet (SignInState.step .plain) (fun s op => op.2.AnswersOn .plain op.1 s) (.start .oneOwner)
      [ownerSignsIn, ownerRenews, hotelSwitched, ownerSignsIn] := by
  refine switchedOff_run .plain oneOwner_sound _ ⟨trivial, ?_, trivial, trivial, trivial⟩
  intro payload row a _ hrow _ _ _
  have hfound : (((SignInState.start .oneOwner).step .plain ownerSignsIn).accounts.tokens.tokens.find
      "a").map (·.tenantId) = some 1 := by decide +kernel
  have htenant : row.tenantId = 1 := by
    obtain ⟨row', hrow', hid⟩ := Option.map_eq_some_iff.mp hfound
    obtain rfl : row' = row := Option.some.inj (hrow'.symm.trans hrow)
    exact hid
  rw [htenant]
  decide +kernel

/-- **A hotel that is off, and a new token for it**: the session of its owner is renewed. -/
theorem hotelSwitched_renews :
    ¬StepsMeet (SignInState.step .plain) (fun s op => op.2.AnswersOn .plain op.1 s) (.start .oneOwner)
      [ownerSignsIn, hotelSwitched, ownerRenews] := by
  intro h
  let s := ((SignInState.start .oneOwner).step .plain ownerSignsIn).step .plain hotelSwitched
  have hanswer : ((ownerRenews.2.exec .plain ownerRenews.1 s).1.map (·.tid)) = some 1 := by
    decide +kernel
  obtain ⟨token, htoken, htid⟩ := Option.map_eq_some_iff.mp hanswer
  obtain ⟨t, ht, -, hon, -⟩ := (h.2.2.1 token htoken).tenant
  have hrows : s.accounts.directory.tenants.rows = [⟨1, "hotel", "Hotel", false, none, none⟩] := by
    decide +kernel
  have hmem : t ∈ s.accounts.directory.tenants.rows := ht
  rw [hrows] at hmem
  obtain rfl := List.mem_singleton.mp hmem
  cases hon

end KarsHotel
