import KarsHotel.Common.PermissionsGuard
import KarsHotel.Lib.Run

/-!
# The team of a hotel

Creating, editing and deactivating the people of a hotel, and resetting their passwords.

* `createUser`, `updateUser`, `resetPassword`, `deleteUser`; `TeamCall`: a request and the guard;
* `TeamDeed`: what a request does to the accounts; **`TeamCall.deed`**: every request does that;
* `OwnersStay`, `OthersStay`: owners and other hotels are left as they are, and nobody
  becomes an owner;
* **`team_run`**: every request of every run keeps out of reach what is so, and a run deactivates in
  the requests of those who hold `user.delete` only, if no one else's edit switches a person off.
-/

namespace KarsHotel

/-! ## The service -/

structure CreateTenantUserDto where
  email : String
  fullName : String
  roleId : RoleId
  password : Field String

/-- `null` in `isActive` stands for any value that is neither true nor false. -/
structure UpdateTenantUserDto where
  roleId : Field RoleId
  isActive : Field Bool
  fullName : Field String

/-- What a request draws: the time, the temporary password and the salt. -/
structure TeamEnv where
  now : Moment
  temporaryPassword : String
  salt : String

/-- `toLowerCase` of the language and the hash of passwords under a salt. -/
structure TeamConfig where
  toLowerCase : String → String
  hashPassword : String → String → String

inductive TeamAnswer where
  | created (id : UserId) (email : String) (temporaryPassword : Option String)
  | updated (id : UserId) (email fullName : String) (isActive : Bool) (roleId : RoleId)
  | reset (id : UserId) (email temporaryPassword : String)
  | deleted (id : UserId)
  deriving DecidableEq, Repr

/-- The code of a person's role. -/
def Directory.roleCode (d : Directory) (u : UserRow) : Option RoleCode :=
  (d.roles.find u.roleId).map (·.code)

section Service

variable (cfg : TeamConfig) (e : TeamEnv) (tenantId : TenantId)

/-- A role that may be given through the team. -/
def assignableRole (d : Directory) (roleId : RoleId) (refusal : Failure) : Except Failure RoleRow :=
  match (d.roles.find roleId).filter fun r => decide (r.tenantId = tenantId) with
  | none => .error (.notFound "Role not found in this tenant")
  | some role =>
    if role.code = .owner ∨ role.code = .superAdmin then .error refusal else .ok role

/-- A person of the hotel, other than its owner. -/
def teamMember (d : Directory) (userId : UserId) (refusal : Failure) : Except Failure UserRow :=
  match (d.users.find userId).filter fun u => decide (u.tenantId = tenantId) with
  | none => .error (.notFound "User not found")
  | some user =>
    if d.roleCode user = some .owner then .error refusal else .ok user

def createUser (dto : CreateTenantUserDto) (s : Accounts) : Except Failure (TeamAnswer × Accounts) := do
  let normalizedEmail := cfg.toLowerCase dto.email
  let _ ← assignableRole tenantId s.directory dto.roleId
    (.forbidden "Cannot assign OWNER or SUPER_ADMIN role via team management")
  if (s.directory.userByEmail normalizedEmail).isSome then
    throw (.conflict "This email is already registered")
  let user : UserRow :=
    { id := s.directory.users.fresh
      tenantId := tenantId
      email := normalizedEmail
      passwordHash := cfg.hashPassword e.salt (dto.password.orElse e.temporaryPassword)
      fullName := dto.fullName
      roleId := dto.roleId
      isActive := true
      deactivatedAt := none
      isDispatcher := false }
  let shown := if dto.password.toOption.isSome then none else some e.temporaryPassword
  return (.created user.id user.email shown, { s with directory := s.directory.insertUser user })

def resetPassword (userId : UserId) (s : Accounts) : Except Failure (TeamAnswer × Accounts) := do
  let user ← teamMember tenantId s.directory userId (.forbidden "Пароль владельца так не сбросить")
  if !user.isActive then throw (.forbidden "Сотрудник деактивирован")
  let passwordHash := cfg.hashPassword e.salt e.temporaryPassword
  return (.reset user.id user.email e.temporaryPassword,
    { directory := s.directory.updateUser userId { passwordHash := some passwordHash }
      tokens := s.tokens.revokeSessions userId e.now })

/-- The role that an edit gives, if it gives one. -/
def editedRole (d : Directory) (roleId : Field RoleId) : Except Failure (Option RoleId) :=
  match roleId with
  | .val roleId => do
    let _ ← assignableRole tenantId d roleId (.forbidden "Cannot assign OWNER or SUPER_ADMIN role")
    return some roleId
  | _ => return none

/-- The activity that an edit sets: with it goes the date of the deactivation. -/
def editedActivity (isActive : Field Bool) : Except Failure (Option (Bool × Option Moment)) :=
  match isActive with
  | .undefined => return none
  | .val b => return some (b, if b then none else some e.now)
  | .null => throw (.internal "Argument `isActive`: Invalid value provided. Expected Boolean")

def updateUser (userId : UserId) (dto : UpdateTenantUserDto) (s : Accounts) :
    Except Failure (TeamAnswer × Accounts) := do
  let user ← teamMember tenantId s.directory userId (.forbidden "Cannot modify the OWNER account")
  let roleId ← editedRole tenantId s.directory dto.roleId
  let isActive ← editedActivity e dto.isActive
  let data : UserUpdateInput :=
    { roleId, isActive, fullName := dto.fullName.toOption.filter fun t => decide (t ≠ "") }
  let updated := data.apply user
  return (.updated updated.id updated.email updated.fullName updated.isActive updated.roleId,
    { s with directory := s.directory.updateUser userId data })

def deleteUser (userId : UserId) (s : Accounts) : Except Failure (TeamAnswer × Accounts) := do
  let user ← teamMember tenantId s.directory userId (.forbidden "Cannot delete the OWNER account")
  return (.deleted user.id,
    { s with directory := s.directory.updateUser userId { isActive := some (false, some e.now) } })

end Service

/-! ## Requests -/

inductive TeamRequest where
  | createUser (dto : CreateTenantUserDto)
  | updateUser (userId : UserId) (dto : UpdateTenantUserDto)
  | resetPassword (userId : UserId)
  | deleteUser (userId : UserId)

/-- The permissions the endpoint of a request asks for. -/
def TeamRequest.required : TeamRequest → List String
  | createUser _ => ["user.invite"]
  | updateUser _ _ => ["user.update"]
  | resetPassword _ => ["user.update"]
  | deleteUser _ => ["user.delete"]

def TeamRequest.exec (cfg : TeamConfig) (e : TeamEnv) (tenantId : TenantId) :
    TeamRequest → Accounts → Except Failure (TeamAnswer × Accounts)
  | createUser dto => KarsHotel.createUser cfg e tenantId dto
  | updateUser userId dto => KarsHotel.updateUser e tenantId userId dto
  | resetPassword userId => KarsHotel.resetPassword cfg e tenantId userId
  | deleteUser userId => KarsHotel.deleteUser e tenantId userId

/-- A request, who makes it, and what it draws. -/
structure TeamCall where
  user : AuthenticatedRequestUser
  request : TeamRequest
  env : TeamEnv

namespace TeamCall

variable (cfg : TeamConfig)

/-- The guard, then the endpoint, on the hotel of the caller. -/
def handle (c : TeamCall) (s : Accounts) : Except Failure (TeamAnswer × Accounts) := do
  PermissionsGuard.canActivate c.request.required c.user
  c.request.exec cfg c.env c.user.tenantId s

/-- A request that fails changes nothing. -/
def step (s : Accounts) (c : TeamCall) : Accounts :=
  match c.handle cfg s with
  | .ok (_, s') => s'
  | .error _ => s

end TeamCall

/-! ## What a request does -/

section Deeds

variable {cfg : TeamConfig} {e : TeamEnv} {tenantId : TenantId} {d d' : Directory} {s s' : Accounts}

/-- A role of the hotel that is neither the owner's nor the platform's. -/
def Assignable (d : Directory) (tenantId : TenantId) (roleId : RoleId) : Prop :=
  ∃ role, d.roles.find roleId = some role ∧ role.tenantId = tenantId ∧
    role.code ≠ .owner ∧ role.code ≠ .superAdmin

/-- A person of the hotel, other than its owner. -/
structure TeamMember (d : Directory) (tenantId : TenantId) (user : UserRow) : Prop where
  mem : user ∈ d.users
  tenant : user.tenantId = tenantId
  role : d.roleCode user ≠ some .owner

theorem assignableRole_ok {roleId : RoleId} {refusal : Failure} {role : RoleRow}
    (h : assignableRole tenantId d roleId refusal = .ok role) : Assignable d tenantId roleId := by
  unfold assignableRole at h
  cases hfind : (d.roles.find roleId).filter fun r => decide (r.tenantId = tenantId) with
  | none =>
    rw [hfind] at h
    cases h
  | some found =>
    rw [hfind] at h
    dsimp only at h
    split_ifs at h with hcode
    obtain ⟨hfound, htenant⟩ := Option.filter_eq_some_iff.mp hfind
    exact ⟨found, hfound, of_decide_eq_true htenant, fun ho => hcode (.inl ho),
      fun ha => hcode (.inr ha)⟩

theorem teamMember_ok {userId : UserId} {refusal : Failure} {user : UserRow}
    (h : teamMember tenantId d userId refusal = .ok user) :
    user.id = userId ∧ TeamMember d tenantId user := by
  unfold teamMember at h
  cases hfind : (d.users.find userId).filter fun u => decide (u.tenantId = tenantId) with
  | none =>
    rw [hfind] at h
    cases h
  | some found =>
    rw [hfind] at h
    dsimp only at h
    split_ifs at h with hrole
    obtain rfl : found = user := Except.ok.inj h
    obtain ⟨hfound, htenant⟩ := Option.filter_eq_some_iff.mp hfind
    obtain ⟨hmem, hid⟩ := Table.find_eq_some.mp hfound
    exact ⟨hid, hmem, of_decide_eq_true htenant, hrole⟩

theorem editedRole_ok {field : Field RoleId} {roleId : Option RoleId}
    (h : editedRole tenantId d field = .ok roleId) : ∀ r, roleId = some r → Assignable d tenantId r := by
  unfold editedRole at h
  cases field with
  | val r =>
    obtain ⟨role, hrole, h⟩ := bind_ok_iff.mp h
    cases h
    intro r' hr'
    cases hr'
    exact assignableRole_ok hrole
  | undefined =>
    cases h
    exact nofun
  | null =>
    cases h
    exact nofun

theorem editedActivity_off {field : Field Bool} {isActive : Option (Bool × Option Moment)}
    {t : Option Moment} (h : editedActivity e field = .ok isActive) (hoff : isActive = some (false, t)) :
    field = .val false := by
  unfold editedActivity at h
  cases field with
  | val b =>
    cases h
    rw [(Prod.mk.inj (Option.some.inj hoff)).1]
  | undefined =>
    cases h
    cases hoff
  | null => cases h

def TeamRequest.SwitchesOff : TeamRequest → UserId → Prop
  | deleteUser userId, u => userId = u
  | updateUser userId dto, u => userId = u ∧ dto.isActive = .val false
  | _, _ => False

/-- What a request of a hotel does to the accounts. -/
inductive TeamDeed (tenantId : TenantId) (r : TeamRequest) (d : Directory) : Directory → Prop
  | none : TeamDeed tenantId r d d
  | added (row : UserRow) (hfree : d.users.find row.id = .none) (htenant : row.tenantId = tenantId)
      (hrole : Assignable d tenantId row.roleId) (hplain : row.isDispatcher = false) :
      TeamDeed tenantId r d (d.insertUser row)
  | edited (user : UserRow) (data : UserUpdateInput) (huser : TeamMember d tenantId user)
      (hrole : ∀ role, data.roleId = some role → Assignable d tenantId role)
      (hoff : ∀ t, data.isActive = some (false, t) → r.SwitchesOff user.id) :
      TeamDeed tenantId r d (d.updateUser user.id data)

theorem createUser_deed {dto : CreateTenantUserDto} {a : TeamAnswer}
    (h : createUser cfg e tenantId dto s = .ok (a, s')) :
    TeamDeed tenantId (.createUser dto) s.directory s'.directory := by
  unfold createUser at h
  obtain ⟨role, hrole, h⟩ := bind_ok_iff.mp h
  have hassignable := assignableRole_ok hrole
  by_cases htaken : (s.directory.userByEmail (cfg.toLowerCase dto.email)).isSome = true
  · rw [if_pos htaken] at h
    cases h
  · rw [if_neg htaken] at h
    cases h
    exact .added _ (Table.find_fresh _) rfl hassignable rfl

theorem resetPassword_deed {userId : UserId} {a : TeamAnswer}
    (h : resetPassword cfg e tenantId userId s = .ok (a, s')) :
    TeamDeed tenantId (.resetPassword userId) s.directory s'.directory := by
  unfold resetPassword at h
  obtain ⟨user, huser, h⟩ := bind_ok_iff.mp h
  obtain ⟨rfl, hmember⟩ := teamMember_ok huser
  by_cases hactive : (!user.isActive) = true
  · rw [if_pos hactive] at h
    cases h
  · rw [if_neg hactive] at h
    cases h
    exact .edited user _ hmember nofun nofun

theorem updateUser_deed {userId : UserId} {dto : UpdateTenantUserDto} {a : TeamAnswer}
    (h : updateUser e tenantId userId dto s = .ok (a, s')) :
    TeamDeed tenantId (.updateUser userId dto) s.directory s'.directory := by
  unfold updateUser at h
  obtain ⟨user, huser, h⟩ := bind_ok_iff.mp h
  obtain ⟨roleId, hrole, h⟩ := bind_ok_iff.mp h
  obtain ⟨isActive, hactive, h⟩ := bind_ok_iff.mp h
  obtain ⟨rfl, hmember⟩ := teamMember_ok huser
  cases h
  exact .edited user _ hmember (editedRole_ok hrole) fun t ht =>
    ⟨rfl, editedActivity_off hactive ht⟩

theorem deleteUser_deed {userId : UserId} {a : TeamAnswer}
    (h : deleteUser e tenantId userId s = .ok (a, s')) :
    TeamDeed tenantId (.deleteUser userId) s.directory s'.directory := by
  unfold deleteUser at h
  obtain ⟨user, huser, h⟩ := bind_ok_iff.mp h
  obtain ⟨rfl, hmember⟩ := teamMember_ok huser
  cases h
  exact .edited user _ hmember nofun fun _ _ => rfl

/-- The sessions of a person may be revoked with it. -/
theorem TeamRequest.exec_tokens {r : TeamRequest} {a : TeamAnswer}
    (h : r.exec cfg e tenantId s = .ok (a, s')) :
    s'.tokens = s.tokens ∨ ∃ userId, s'.tokens = s.tokens.revokeSessions userId e.now := by
  cases r with
  | createUser dto =>
    obtain ⟨role, -, h⟩ := bind_ok_iff.mp h
    by_cases htaken : (s.directory.userByEmail (cfg.toLowerCase dto.email)).isSome = true
    · rw [if_pos htaken] at h
      cases h
    · rw [if_neg htaken] at h
      cases h
      exact .inl rfl
  | updateUser userId dto =>
    obtain ⟨user, -, h⟩ := bind_ok_iff.mp h
    obtain ⟨roleId, -, h⟩ := bind_ok_iff.mp h
    obtain ⟨isActive, -, h⟩ := bind_ok_iff.mp h
    cases h
    exact .inl rfl
  | resetPassword userId =>
    obtain ⟨user, -, h⟩ := bind_ok_iff.mp h
    by_cases hactive : (!user.isActive) = true
    · rw [if_pos hactive] at h
      cases h
    · rw [if_neg hactive] at h
      cases h
      exact .inr ⟨userId, rfl⟩
  | deleteUser userId =>
    obtain ⟨user, -, h⟩ := bind_ok_iff.mp h
    cases h
    exact .inl rfl

/-- **What a request does.** -/
theorem TeamRequest.exec_deed {r : TeamRequest} {a : TeamAnswer}
    (h : r.exec cfg e tenantId s = .ok (a, s')) :
    TeamDeed tenantId r s.directory s'.directory := by
  cases r with
  | createUser dto => exact createUser_deed h
  | updateUser userId dto => exact updateUser_deed h
  | resetPassword userId => exact resetPassword_deed h
  | deleteUser userId => exact deleteUser_deed h

theorem TeamCall.deed (cfg : TeamConfig) (s : Accounts) (c : TeamCall) :
    TeamDeed c.user.tenantId c.request s.directory (c.step cfg s).directory := by
  unfold TeamCall.step
  cases h : c.handle cfg s with
  | error x => exact .none
  | ok p =>
    obtain ⟨-, -, hexec⟩ := bind_ok_iff.mp h
    exact TeamRequest.exec_deed hexec

end Deeds

/-! ## Out of the team's reach -/

section Reach

variable {cfg : TeamConfig} {tenantId : TenantId} {r : TeamRequest} {d d' d'' : Directory}

/-- The role of an owner or of the platform. -/
def Privileged (d : Directory) (u : UserRow) : Prop :=
  d.roleCode u = some .owner ∨ d.roleCode u = some .superAdmin

/-- Nobody gets a privileged role, and owners stay as they are. -/
structure OwnersStay (d d' : Directory) : Prop where
  roles : d'.roles = d.roles
  promoted : ∀ u' ∈ d'.users, Privileged d' u' →
    ∃ u ∈ d.users, u.id = u'.id ∧ d.roleCode u = d'.roleCode u'
  owners : ∀ u ∈ d.users, d.roleCode u = some .owner → u ∈ d'.users

/-- The accounts of the other hotels stay as they are. -/
def OthersStay (tenantId : TenantId) (d d' : Directory) : Prop :=
  ∀ u, u.tenantId ≠ tenantId → (u ∈ d'.users ↔ u ∈ d.users)

theorem OwnersStay.refl (d : Directory) : OwnersStay d d :=
  ⟨rfl, fun u' hu' _ => ⟨u', hu', rfl, rfl⟩, fun _ hu _ => hu⟩

theorem OwnersStay.trans (h : OwnersStay d d') (h' : OwnersStay d' d'') : OwnersStay d d'' where
  roles := h'.roles.trans h.roles
  promoted u'' hu'' hprivileged := by
    obtain ⟨u', hu', hid', hcode'⟩ := h'.promoted u'' hu'' hprivileged
    have hprivileged' : Privileged d' u' := by
      unfold Privileged
      rw [hcode']
      exact hprivileged
    obtain ⟨u, hu, hid, hcode⟩ := h.promoted u' hu' hprivileged'
    exact ⟨u, hu, hid.trans hid', hcode.trans hcode'⟩
  owners u hu howner := by
    refine h'.owners u (h.owners u hu howner) ?_
    unfold Directory.roleCode
    rw [h.roles]
    exact howner

theorem Assignable.not_privileged {u : UserRow} (h : Assignable d tenantId u.roleId) :
    ¬Privileged d u := by
  obtain ⟨role, hfind, -, howner, hadmin⟩ := h
  unfold Privileged Directory.roleCode
  rw [hfind]
  rintro (hcode | hcode)
  · exact howner (Option.some.inj hcode)
  · exact hadmin (Option.some.inj hcode)

theorem TeamDeed.ownersStay (h : TeamDeed tenantId r d d') : OwnersStay d d' := by
  cases h with
  | none => exact .refl d
  | added row hfree htenant hrole hplain =>
    refine ⟨rfl, fun u' hu' hprivileged => ?_, fun u hu _ => Table.mem_insert_of_mem hu⟩
    rcases Table.mem_of_mem_insert hu' with hu' | rfl
    · exact ⟨u', hu', rfl, rfl⟩
    · exact absurd hprivileged hrole.not_privileged
  | edited user data huser hrole hoff =>
    refine ⟨rfl, fun u' hu' hprivileged => ?_, fun u hu howner => ?_⟩
    · rcases Directory.mem_updateUser.mp hu' with ⟨hu', -⟩ | ⟨u, hu, hid, rfl⟩
      · exact ⟨u', hu', rfl, rfl⟩
      · refine ⟨u, hu, rfl, ?_⟩
        -- an edit that gives a role gives none of these
        cases hdata : data.roleId with
        | none =>
          show _ = (d.roles.find (data.roleId.getD u.roleId)).map _
          rw [hdata]
          rfl
        | some role =>
          have hgiven : (data.apply u).roleId = role := by
            show data.roleId.getD u.roleId = role
            rw [hdata]
            rfl
          exact absurd hprivileged (Assignable.not_privileged (hgiven ▸ hrole role hdata))
    · refine Directory.mem_updateUser.mpr (.inl ⟨hu, fun hid => ?_⟩)
      rw [Table.eq_of_key hu huser.mem hid] at howner
      exact huser.role howner

theorem TeamDeed.othersStay (h : TeamDeed tenantId r d d') : OthersStay tenantId d d' := by
  intro u hu
  cases h with
  | none => exact Iff.rfl
  | added row hfree htenant hrole hplain =>
    refine (Table.mem_insert hfree).trans (or_iff_left fun hrow => hu ?_)
    rw [hrow]
    exact htenant
  | edited user data huser hrole hoff =>
    refine Directory.mem_updateUser.trans ⟨?_, fun hmem => .inl ⟨hmem, fun hid => hu ?_⟩⟩
    · rintro (⟨hmem, -⟩ | ⟨u₀, hu₀, hid, rfl⟩)
      · exact hmem
      · obtain rfl : u₀ = user := Table.eq_of_key hu₀ huser.mem hid
        exact absurd huser.tenant hu
    · rw [Table.eq_of_key hmem huser.mem hid]
      exact huser.tenant

/-- **Whoever becomes inactive was switched off by the request.** -/
theorem TeamDeed.switchesOff (h : TeamDeed tenantId r d d') {u u' : UserRow} (hu : u ∈ d.users)
    (hu' : u' ∈ d'.users) (hid : u'.id = u.id) (hactive : u.isActive = true)
    (hoff : u'.isActive = false) : r.SwitchesOff u.id := by
  have hstays : u' ∈ d.users → False := by
    intro hmem
    rw [Table.eq_of_key hmem hu hid, hactive] at hoff
    cases hoff
  cases h with
  | none => exact (hstays hu').elim
  | added row hfree htenant hrole hplain =>
    rcases (Table.mem_insert hfree).mp hu' with hmem | rfl
    · exact (hstays hmem).elim
    · exact absurd hid.symm (Table.find_eq_none.mp hfree u hu)
  | edited user data huser hrole hsays =>
    rcases Directory.mem_updateUser.mp hu' with ⟨hmem, -⟩ | ⟨u₀, hu₀, hid₀, rfl⟩
    · exact (hstays hmem).elim
    · obtain rfl : u₀ = u := Table.eq_of_key hu₀ hu hid
      rw [hid₀]
      have hset : (data.isActive.map Prod.fst).getD u₀.isActive = false := hoff
      cases hdata : data.isActive with
      | none =>
        rw [hdata] at hset
        exact absurd (hactive.symm.trans hset) (by decide)
      | some set =>
        obtain ⟨isActive, deactivatedAt⟩ := set
        rw [hdata] at hset
        obtain rfl : isActive = false := hset
        exact hsays deactivatedAt hdata

end Reach

/-! ## Runs of requests -/

namespace TeamCall

variable (cfg : TeamConfig)

/-- Whoever the request makes inactive, the caller holds `user.delete`. -/
def DeactivatesAsHolder (s : Accounts) (c : TeamCall) : Prop :=
  ∀ u ∈ s.directory.users, ∀ u' ∈ (c.step cfg s).directory.users, u'.id = u.id →
    u.isActive = true → u'.isActive = false → c.user.holds "user.delete" = true

/-- The edit of an active person of the hotel that switches the person off, and that the checks of
the edit let through, is made by a caller who holds `user.delete`. -/
def EditsOffAsHolder (s : Accounts) (c : TeamCall) : Prop :=
  match c.request with
  | .updateUser userId dto => dto.isActive = .val false → c.user.holds "user.update" = true →
      ∀ user roleId, teamMember c.user.tenantId s.directory userId
        (.forbidden "Cannot modify the OWNER account") = .ok user →
      editedRole c.user.tenantId s.directory dto.roleId = .ok roleId → user.isActive = true →
      c.user.holds "user.delete" = true
  | _ => True

variable {cfg} {s s' : Accounts} {c : TeamCall}

theorem handle_ok {a : TeamAnswer} (h : c.handle cfg s = .ok (a, s')) :
    (∀ code ∈ c.request.required, c.user.holds code = true) ∧
      c.request.exec cfg c.env c.user.tenantId s = .ok (a, s') := by
  obtain ⟨u, hguard, hexec⟩ := bind_ok_iff.mp h
  exact ⟨PermissionsGuard.canActivate_ok_iff.mp hguard, hexec⟩

/-- An edit that switches a person off and passes its checks. -/
theorem step_editOff {userId : UserId} {dto : UpdateTenantUserDto} {user : UserRow}
    {roleId : Option RoleId} (hrequest : c.request = .updateUser userId dto)
    (hoff : dto.isActive = .val false) (hholds : c.user.holds "user.update" = true)
    (huser : teamMember c.user.tenantId s.directory userId
      (.forbidden "Cannot modify the OWNER account") = .ok user)
    (hrole : editedRole c.user.tenantId s.directory dto.roleId = .ok roleId) :
    ∃ u' ∈ (c.step cfg s).directory.users, u'.id = user.id ∧ u'.isActive = false := by
  obtain ⟨hid, hmember⟩ := teamMember_ok huser
  have hguard : PermissionsGuard.canActivate c.request.required c.user = .ok () := by
    rw [hrequest]
    exact PermissionsGuard.canActivate_one.mpr hholds
  let data : UserUpdateInput :=
    { roleId, isActive := some (false, some c.env.now),
      fullName := dto.fullName.toOption.filter fun t => decide (t ≠ "") }
  have hstep : (c.step cfg s).directory = s.directory.updateUser userId data := by
    unfold step handle
    rw [hguard, hrequest]
    show (match updateUser c.env c.user.tenantId userId dto s with
      | .ok (_, s') => s'
      | .error _ => s).directory = _
    unfold updateUser
    rw [huser, hrole, hoff]
    rfl
  rw [hstep]
  exact ⟨data.apply user, Directory.mem_updateUser.mpr (.inr ⟨user, hmember.mem, hid, rfl⟩), rfl, rfl⟩

/-- **Who deactivates**: a request makes people inactive for holders of `user.delete` only, exactly
if its edit does. -/
theorem deactivatesAsHolder_iff (s : Accounts) (c : TeamCall) :
    c.DeactivatesAsHolder cfg s ↔ c.EditsOffAsHolder s := by
  constructor
  · intro h
    unfold EditsOffAsHolder
    cases hrequest : c.request with
    | updateUser userId dto =>
      intro hoff hholds user roleId huser hrole hactive
      obtain ⟨u', hu', hid, hinactive⟩ := step_editOff hrequest hoff hholds huser hrole
      exact h user (teamMember_ok huser).2.mem u' hu' hid hactive hinactive
    | _ => trivial
  · intro h u hu u' hu' hid hactive hoff
    have hsays := (TeamCall.deed cfg s c).switchesOff hu hu' hid hactive hoff
    cases hhandle : c.handle cfg s with
    | error x =>
      have hsame : c.step cfg s = s := by
        unfold step
        rw [hhandle]
      rw [hsame] at hu'
      rw [Table.eq_of_key hu' hu hid, hactive] at hoff
      cases hoff
    | ok p =>
      obtain ⟨hguard, hexec⟩ := handle_ok hhandle
      unfold EditsOffAsHolder at h
      cases hrequest : c.request with
      | deleteUser userId =>
        rw [hrequest] at hguard
        exact hguard _ List.mem_cons_self
      | updateUser userId dto =>
        rw [hrequest] at hguard hexec h hsays
        obtain ⟨rfl, hval⟩ := hsays
        obtain ⟨user, huser, hrest⟩ := bind_ok_iff.mp hexec
        obtain ⟨roleId, hrole, -⟩ := bind_ok_iff.mp hrest
        obtain ⟨huid, hmember⟩ := teamMember_ok huser
        obtain rfl : user = u := Table.eq_of_key hmember.mem hu huid
        exact h hval (hguard _ List.mem_cons_self) user roleId huser hrole hactive
      | createUser dto =>
        rw [hrequest] at hsays
        exact hsays.elim
      | resetPassword userId =>
        rw [hrequest] at hsays
        exact hsays.elim

end TeamCall

/-- **Out of reach.** In every run of requests owners stay as they are and nobody gets their
role or the platform's, and every request leaves the other hotels' accounts alone; every request
deactivates for holders of `user.delete` only, exactly if every edit that switches a person off
is a holder's. -/
theorem team_run (cfg : TeamConfig) (s : Accounts) (calls : List TeamCall) :
    OwnersStay s.directory (calls.foldl (TeamCall.step cfg) s).directory ∧
    StepsMeet (TeamCall.step cfg) (fun s c =>
      OthersStay c.user.tenantId s.directory (c.step cfg s).directory) s calls ∧
    (StepsMeet (TeamCall.step cfg) (fun s c => c.DeactivatesAsHolder cfg s) s calls ↔
      StepsMeet (TeamCall.step cfg) (fun s c => c.EditsOffAsHolder s) s calls) := by
  refine ⟨?_, ?_, stepsMeet_congr TeamCall.deactivatesAsHolder_iff⟩
  · exact foldl_keeps_all (P := fun s' => OwnersStay s.directory s'.directory)
      (fun s' c h => h.trans (TeamCall.deed cfg s' c).ownersStay) calls (.refl _)
  · exact stepsMeet_of_forall (fun s c => (TeamCall.deed cfg s c).othersStay) s calls

/-! ## A manager's edit -/

/-- A manager edits a porter: a hotel with an owner, a manager and a porter. -/
def threePeople : Accounts where
  directory :=
    { tenants := Table.empty.insert ⟨1, "hotel", "Hotel", true, none, none⟩
      roles := ⟨[⟨1, 1, .owner, []⟩, ⟨2, 1, .manager, ["user.update"]⟩, ⟨3, 1, .frontDesk, []⟩],
        by decide⟩
      users := ⟨[⟨1, 1, "owner@hotel.ru", "", "Owner", 1, true, none, false⟩,
        ⟨2, 1, "manager@hotel.ru", "", "Manager", 2, true, none, false⟩,
        ⟨3, 1, "porter@hotel.ru", "", "Porter", 3, true, none, false⟩], by decide⟩ }
  tokens := .empty

def managerEditsOff : TeamCall where
  user := ⟨2, 1, "manager@hotel.ru", .manager, ["user.read", "user.invite", "user.update"], false,
    none, false⟩
  request := .updateUser 3 ⟨.undefined, .val false, .undefined⟩
  env := ⟨0, "", ""⟩

/-- **A manager switches a porter off by an edit**, without `user.delete`. -/
theorem managerEditsOff_deactivates :
    ¬managerEditsOff.DeactivatesAsHolder ⟨id, fun _ p => p⟩ threePeople := by
  intro h
  have hholds := h ⟨3, 1, "porter@hotel.ru", "", "Porter", 3, true, none, false⟩
    (Table.mem_def.mpr (by decide)) ⟨3, 1, "porter@hotel.ru", "", "Porter", 3, false, some 0, false⟩
    (Table.mem_def.mpr (by decide +kernel)) rfl rfl rfl
  exact absurd hholds (by decide)

end KarsHotel
