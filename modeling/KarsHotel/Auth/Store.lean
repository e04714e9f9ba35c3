import KarsHotel.Lib.Table
import KarsHotel.Lib.Transaction
import KarsHotel.Values

/-!
# Accounts and refresh tokens

What the sign-in service reads and writes.

* `TenantRecord`, `RoleRow`, `UserRow`, `Directory`: the hotels, their roles and their people;
* `RefreshToken`: a row of `refresh_token`; `JwtAccessPayload`, `JwtRefreshPayload`:
  what tokens say;
* `UserUpdateInput`: what an UPDATE of an account sets;
* `authDb`: the table of refresh tokens as a database, with the directory and the clock as its
  environment.
-/

namespace KarsHotel

abbrev UserId := ℕ
abbrev RoleId := ℕ

inductive RoleCode where
  | owner
  | manager
  | frontDesk
  | housekeeping
  | accountant
  | channelManager
  | readOnly
  | superAdmin
  | dispatcher
  deriving DecidableEq, Repr

/-! ## The directory -/

structure TenantRecord where
  id : TenantId
  slug : String
  name : String
  isActive : Bool
  archivedAt : Option Moment
  archivedBy : Option UserId
  deriving DecidableEq, Repr

structure RoleRow where
  id : RoleId
  tenantId : TenantId
  code : RoleCode
  permissions : List String
  deriving DecidableEq, Repr

structure UserRow where
  id : UserId
  tenantId : TenantId
  email : String
  passwordHash : String
  fullName : String
  roleId : RoleId
  isActive : Bool
  deactivatedAt : Option Moment
  isDispatcher : Bool
  deriving DecidableEq, Repr

structure Directory where
  tenants : Table TenantRecord.id
  roles : Table RoleRow.id
  users : Table UserRow.id

/-- A person with the hotel and the role of the account. -/
structure Account where
  user : UserRow
  tenant : TenantRecord
  role : RoleRow
  deriving DecidableEq, Repr

namespace Directory

variable (d : Directory)

/-- A person read with the hotel and the role. -/
def withRole (user : UserRow) : Option Account :=
  (d.tenants.find user.tenantId).bind fun tenant =>
    (d.roles.find user.roleId).map fun role => ⟨user, tenant, role⟩

def account (id : UserId) : Option Account := (d.users.find id).bind d.withRole

/-- The person of an address; addresses are unique. -/
def userByEmail (email : String) : Option UserRow := d.users.rows.find? fun u => decide (u.email = email)

def accountByEmail (email : String) : Option Account := (d.userByEmail email).bind d.withRole

/-- The role of a code in a hotel. -/
def roleOf (tenantId : TenantId) (code : RoleCode) : Option RoleRow :=
  d.roles.rows.find? fun r => decide (r.tenantId = tenantId ∧ r.code = code)

variable {d}

theorem account_user {id : UserId} {a : Account} (h : d.account id = some a) :
    d.users.find id = some a.user ∧ d.withRole a.user = some a := by
  unfold account at h
  obtain ⟨user, huser, hrole⟩ := Option.bind_eq_some_iff.mp h
  have hsame : a.user = user := by
    unfold withRole at hrole
    obtain ⟨tenant, -, hrole⟩ := Option.bind_eq_some_iff.mp hrole
    obtain ⟨role, -, rfl⟩ := Option.map_eq_some_iff.mp hrole
    rfl
  rw [hsame]
  exact ⟨huser, hrole⟩

theorem withRole_tenant {user : UserRow} {a : Account} (h : d.withRole user = some a) :
    a.user = user ∧ d.tenants.find user.tenantId = some a.tenant := by
  unfold withRole at h
  obtain ⟨tenant, htenant, h⟩ := Option.bind_eq_some_iff.mp h
  obtain ⟨role, -, rfl⟩ := Option.map_eq_some_iff.mp h
  exact ⟨rfl, htenant⟩

theorem withRole_role {user : UserRow} {a : Account} (h : d.withRole user = some a) :
    d.roles.find user.roleId = some a.role := by
  unfold withRole at h
  obtain ⟨tenant, -, h⟩ := Option.bind_eq_some_iff.mp h
  obtain ⟨role, hrole, rfl⟩ := Option.map_eq_some_iff.mp h
  exact hrole

theorem account_id {id : UserId} {a : Account} (h : d.account id = some a) : a.user.id = id :=
  (Table.find_eq_some.mp (account_user h).1).2

theorem userByEmail_some {email : String} {u : UserRow} (h : d.userByEmail email = some u) :
    u ∈ d.users ∧ u.email = email :=
  ⟨List.mem_of_find?_eq_some h, by simpa using List.find?_some h⟩

end Directory

/-! ### Writing accounts -/

/-- The columns an UPDATE of `user` sets. -/
structure UserUpdateInput where
  roleId : Option RoleId := none
  isActive : Option (Bool × Option Moment) := none
  fullName : Option String := none
  passwordHash : Option String := none

/-- The activity comes with its date. -/
def UserUpdateInput.apply (data : UserUpdateInput) (u : UserRow) : UserRow :=
  { u with
    roleId := data.roleId.getD u.roleId
    isActive := (data.isActive.map Prod.fst).getD u.isActive
    deactivatedAt := (data.isActive.map Prod.snd).getD u.deactivatedAt
    fullName := data.fullName.getD u.fullName
    passwordHash := data.passwordHash.getD u.passwordHash }

namespace Directory

variable (d : Directory)

/-- `UPDATE "user"`. -/
def updateUser (userId : UserId) (data : UserUpdateInput) : Directory :=
  { d with users := d.users.modify userId data.apply }

/-- `INSERT INTO "user"`. -/
def insertUser (row : UserRow) : Directory := { d with users := d.users.insert row }

variable {d}

theorem mem_updateUser {userId : UserId} {data : UserUpdateInput} {u' : UserRow} :
    u' ∈ (d.updateUser userId data).users ↔ u' ∈ d.users ∧ u'.id ≠ userId ∨
      ∃ u ∈ d.users, u.id = userId ∧ u' = data.apply u := by
  show u' ∈ d.users.modify userId data.apply ↔ _
  exact Table.mem_modify

end Directory

/-! ## Tokens -/

/-- What an access token says. -/
structure JwtAccessPayload where
  sub : UserId
  tid : TenantId
  role : RoleCode
  perms : List String
  email : String
  isa : Bool
  disp : Bool
  imp : Option UserId
  deriving DecidableEq, Repr

structure JwtRefreshPayload where
  sub : UserId
  tid : TenantId
  jti : String
  deriving DecidableEq, Repr

/-- A row of `refresh_token`. `impersonatedBy` is who opened a session on behalf of a hotel. -/
structure RefreshToken where
  tokenHash : String
  tenantId : TenantId
  userId : UserId
  impersonatedBy : Option UserId
  expiresAt : Moment
  revokedAt : Option Moment
  deriving DecidableEq, Repr

/-- The record of an UPDATE by which a refresh revoked its token: which request, and
what it found. -/
structure Renewal where
  request : ℕ
  tokenHash : String
  found : Option Moment
  deriving DecidableEq, Repr

/-- The refresh tokens; `renewals` is a record of the run that no statement reads, latest first. -/
structure TokenStore where
  tokens : Table RefreshToken.tokenHash
  renewals : List Renewal

def TokenStore.empty : TokenStore := ⟨.empty, []⟩

namespace TokenStore

variable (s : TokenStore)

/-- `UPDATE … SET revoked_at`. -/
def revoke (tokenHash : String) (at_ : Moment) : TokenStore :=
  { s with tokens := s.tokens.modify tokenHash fun r => { r with revokedAt := some at_ } }

/-- The UPDATE of a refresh, with its record. -/
def revokeFor (request : ℕ) (tokenHash : String) (at_ : Moment) : TokenStore :=
  { s.revoke tokenHash at_ with
    renewals := ⟨request, tokenHash, (s.tokens.find tokenHash).bind (·.revokedAt)⟩ :: s.renewals }

def insertToken (row : RefreshToken) : TokenStore := { s with tokens := s.tokens.insert row }

/-- `UPDATE … WHERE user_id = … AND revoked_at IS NULL`. -/
def revokeSessions (userId : UserId) (at_ : Moment) : TokenStore :=
  { s with
    tokens := s.tokens.map fun r => { r with
      revokedAt := if r.userId = userId ∧ r.revokedAt = none then some at_ else r.revokedAt } }

end TokenStore

/-- The people and their refresh tokens. -/
structure Accounts where
  directory : Directory
  tokens : TokenStore

/-! ## The database -/

/-- What a statement of the service finds outside the tokens: the directory, the time, and the limit
on failed sign-ins. -/
structure AuthEnv where
  directory : Directory
  now : Moment
  throttled : Option Failure

inductive AuthQuery where
  | refreshToken
  deriving DecidableEq, Repr

inductive AuthRow where
  | token (tokenHash : String)
  deriving DecidableEq, Repr

/-- The refresh tokens as a database. Every statement of the service is a transaction of its own. -/
abbrev authDb : Db := ⟨TokenStore, AuthQuery, AuthRow, Empty, AuthEnv⟩

/-- The settings and the cryptography of the service, and `toLowerCase` of the language. -/
structure AuthConfig where
  toLowerCase : String → String
  hashToken : String → String
  signRefresh : JwtRefreshPayload → Moment → String
  verifyRefresh : String → Moment → Option JwtRefreshPayload
  comparePassword : String → String → Bool
  accessTtlSeconds : ℕ
  refreshTtlSeconds : ℕ

end KarsHotel
