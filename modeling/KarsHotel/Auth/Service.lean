import KarsHotel.Auth.Store

/-!
# The sign-in service

The ways to a token: the password, the one-time code of a dispatcher, the entry on behalf of a
hotel, the exit from it, and the refresh; and the logout.

* `issueTokens`: the tokens of a session, with the row of its refresh token;
* `login`, `exchangeSsoCode`, `issueImpersonationToken`, `exitImpersonation`, `refresh`, `logout`;
* `resolveImpersonation`: who works inside a hotel on its behalf;
* `AuthCall`: a call of the service, and its session.
-/

namespace KarsHotel

structure AuthTokens where
  accessToken : JwtAccessPayload
  refreshToken : String
  accessTtlSeconds : ℕ
  refreshTtlSeconds : ℕ
  deriving DecidableEq, Repr

abbrev AuthProg (α : Type) := Prog authDb Failure α

/-! ## Issuing -/

/-- Whom tokens are issued for. -/
structure IssueArgs where
  userId : UserId
  tenantId : TenantId
  email : String
  roleCode : RoleCode
  permissions : List String
  isSuperAdmin : Bool
  isDispatcher : Bool
  impersonatedBy : Option UserId

def IssueArgs.access (args : IssueArgs) : JwtAccessPayload where
  sub := args.userId
  tid := args.tenantId
  role := args.roleCode
  perms := args.permissions
  email := args.email
  isa := args.isSuperAdmin
  disp := args.isDispatcher
  imp := args.impersonatedBy

def tokenTaken : Failure := .internal "Unique constraint failed on the fields: (`token_hash`)"

section Service

variable (cfg : AuthConfig) (jti : String)

/-- The refresh token of a session, and its row. -/
def IssueArgs.refreshToken (args : IssueArgs) (now : Moment) : String :=
  cfg.signRefresh ⟨args.userId, args.tenantId, jti⟩ (now + cfg.refreshTtlSeconds * 1000)

def IssueArgs.row (args : IssueArgs) (now : Moment) : RefreshToken where
  tokenHash := cfg.hashToken (args.refreshToken cfg jti now)
  tenantId := args.tenantId
  userId := args.userId
  impersonatedBy := args.impersonatedBy
  expiresAt := now + cfg.refreshTtlSeconds * 1000
  revokedAt := none

def IssueArgs.tokens (args : IssueArgs) (now : Moment) : AuthTokens :=
  ⟨args.access, args.refreshToken cfg jti now, cfg.accessTtlSeconds, cfg.refreshTtlSeconds⟩

/-- `INSERT INTO refresh_token`. -/
def insertRefreshToken (row : RefreshToken) : Tx authDb Failure Unit :=
  .write (.token row.tokenHash) (·.insertToken row) fun s =>
    if (s.tokens.find row.tokenHash).isSome then .throw tokenTaken else .ret ()

/-- `jti` is the id drawn for the refresh token. -/
def issueTokens (args : IssueArgs) : AuthProg AuthTokens :=
  .ask fun e => do
    (insertRefreshToken (args.row cfg jti e.now)).transact
    .ret (args.tokens cfg jti e.now)

/-- The tokens of the account itself. -/
def Account.issueArgs (a : Account) (isSuperAdmin isDispatcher : Bool) : IssueArgs where
  userId := a.user.id
  tenantId := a.user.tenantId
  email := a.user.email
  roleCode := a.role.code
  permissions := a.role.permissions
  isSuperAdmin := isSuperAdmin
  isDispatcher := isDispatcher
  impersonatedBy := none

/-! ## Signing in -/

def wrongPassword : Failure := .unauthorized "Неверный email или пароль"

structure LoginDto where
  email : String
  password : String

def login (dto : LoginDto) : AuthProg AuthTokens :=
  .ask fun e => match e.throttled with
  | some x => .throw x
  | none => .ask fun e => match e.directory.accountByEmail (cfg.toLowerCase dto.email) with
    | none => .throw wrongPassword
    | some a =>
      if !cfg.comparePassword dto.password a.user.passwordHash || !a.user.isActive ||
          !a.tenant.isActive then .throw wrongPassword
      else issueTokens cfg jti (a.issueArgs (decide (a.role.code = .superAdmin)) false)

/-! ## On behalf of a hotel -/

def tenantInactive : Failure := .forbidden "Tenant not found or inactive"

def operatorInactive : Failure := .forbidden "Operator account not found or inactive"

/-- Who works inside a hotel. -/
structure Impersonation where
  userId : UserId
  email : String
  roleCode : RoleCode
  permissions : List String

/-- `DEFAULT_ROLE_PERMISSIONS.OWNER`: every permission of the catalogue. -/
def ownerPermissions : List String :=
  ["user.read", "user.create", "user.invite", "user.update", "user.delete", "role.read", "role.update",
    "reservation.read", "reservation.create", "reservation.update", "reservation.cancel",
    "reservation.checkin", "reservation.checkout", "room.read", "room.update", "room_type.update",
    "rate.read", "rate.update", "restriction.update", "guest.read", "guest.update", "guest.anonymize",
    "guest.export", "folio.read", "folio.update", "payment.create", "payment.refund",
    "cashregister.open", "hk.task.read", "hk.task.update", "report.view.operations",
    "report.view.finance", "report.export", "avia-report.access", "settings.property.update",
    "settings.notifications.update"]

/-- One comes in under one's own name, with the rights of the hotel's owner. -/
def resolveImpersonation (targetTenantId : TenantId) (adminUserId : UserId) :
    AuthProg Impersonation :=
  .ask fun e => match e.directory.tenants.find targetTenantId with
  | none => .throw tenantInactive
  | some tenant =>
    if !tenant.isActive then .throw tenantInactive
    else .ask fun e =>
      let ownerRole := e.directory.roleOf targetTenantId .owner
      .ask fun e => match e.directory.users.find adminUserId with
      | none => .throw operatorInactive
      | some actor =>
        if !actor.isActive then .throw operatorInactive
        else .ret ⟨actor.id, actor.email, .owner, (ownerRole.map (·.permissions)).getD ownerPermissions⟩

/-- A session on behalf of a hotel. -/
def Impersonation.issueArgs (who : Impersonation) (tenantId : TenantId) (impersonatedBy : UserId) :
    IssueArgs where
  userId := who.userId
  tenantId := tenantId
  email := who.email
  roleCode := who.roleCode
  permissions := who.permissions
  isSuperAdmin := false
  isDispatcher := false
  impersonatedBy := some impersonatedBy

def issueOnBehalf (tenantId : TenantId) (impersonatedBy : UserId) : AuthProg AuthTokens := do
  let who ← resolveImpersonation tenantId impersonatedBy
  issueTokens cfg jti (who.issueArgs tenantId impersonatedBy)

/-- The short access token of the panel, without a refresh. -/
def issueImpersonationToken (targetTenantId : TenantId) (adminUserId : UserId) :
    AuthProg JwtAccessPayload := do
  let who ← resolveImpersonation targetTenantId adminUserId
  .ret (who.issueArgs targetTenantId adminUserId).access

def hotelClosedToDispatcher : Failure := .forbidden "Гостиница недоступна диспетчеру"

/-- `impersonate` of the panel: a dispatcher enters working hotels only. -/
def impersonate (tenantId : TenantId) (actor : JwtAccessPayload) : AuthProg JwtAccessPayload :=
  if actor.isa then issueImpersonationToken tenantId actor.sub
  else .ask fun e => match e.directory.tenants.find tenantId with
    | none => .throw hotelClosedToDispatcher
    | some t =>
      if !t.isActive || decide (t.slug = "platform") then .throw hotelClosedToDispatcher
      else issueImpersonationToken tenantId actor.sub

def operatorAccountInactive : Failure := .unauthorized "Operator account is inactive"

def exitImpersonation (operatorUserId : UserId) : AuthProg AuthTokens :=
  .ask fun e => match e.directory.account operatorUserId with
  | none => .throw operatorAccountInactive
  | some a =>
    if !a.user.isActive then .throw operatorAccountInactive
    else issueTokens cfg jti (a.issueArgs (decide (a.role.code = .superAdmin)) a.user.isDispatcher)

/-! ## The code of a dispatcher -/

/-- A one-time code: whose, and for which hotel; without one it is for the panel. -/
structure SsoEntry where
  dispatcherUserId : UserId
  tenantId : Option TenantId
  expiresAt : Moment
  deriving DecidableEq, Repr

def ssoCodeInvalid : Failure := .unauthorized "SSO code is invalid or expired"

def dispatcherInactive : Failure := .forbidden "Dispatcher account is inactive"

/-- The exchange; `entry` is what the code was found to be, and it is forgotten by then. -/
def exchangeSsoCode (entry : Option SsoEntry) : AuthProg AuthTokens :=
  .ask fun e => match entry with
  | none => .throw ssoCodeInvalid
  | some entry =>
    if entry.expiresAt < e.now then .throw ssoCodeInvalid
    else match entry.tenantId with
      | some tenantId => issueOnBehalf cfg jti tenantId entry.dispatcherUserId
      | none => .ask fun e => match e.directory.account entry.dispatcherUserId with
        | none => .throw dispatcherInactive
        | some a =>
          if !a.user.isActive then .throw dispatcherInactive
          else issueTokens cfg jti (a.issueArgs false true)

/-! ## Refresh and logout -/

def refreshInvalid : Failure := .unauthorized "Invalid refresh token"

def refreshRevoked : Failure := .unauthorized "Refresh token expired or revoked"

def refreshMismatch : Failure := .unauthorized "Refresh token does not match payload"

def refreshElsewhere : Failure := .unauthorized "Refresh token belongs to another session"

def userInactive : Failure := .forbidden "User is inactive"

/-- The cookie is that of the session: a hotel's own for a session on its behalf, the common one for
any other. -/
def RefreshToken.ownCookie (row : RefreshToken) : Option TenantId → Bool
  | some hotelTenantId => row.impersonatedBy.isSome && decide (row.tenantId = hotelTenantId)
  | none => row.impersonatedBy.isNone

/-- The checks of a refresh on the row of its token. -/
def checkRefresh (payload : JwtRefreshPayload) (hotelTenantId : Option TenantId) (row : RefreshToken)
    (a : Account) (now : Moment) : Except Failure Unit :=
  if row.revokedAt.isSome || decide (row.expiresAt < now) then .error refreshRevoked
  else if row.userId ≠ payload.sub ∨ row.tenantId ≠ payload.tid then .error refreshMismatch
  else if !row.ownCookie hotelTenantId then .error refreshElsewhere
  else if !a.user.isActive then .error userInactive
  else .ok ()

theorem checkRefresh_ok {payload : JwtRefreshPayload} {path : Option TenantId} {row : RefreshToken}
    {a : Account} {now : Moment} (h : checkRefresh payload path row a now = .ok ()) :
    row.revokedAt = none ∧ row.ownCookie path = true ∧ a.user.isActive = true := by
  unfold checkRefresh at h
  split_ifs at h with hrevoked hmismatch hown hactive
  rw [Bool.or_eq_true, not_or] at hrevoked
  exact ⟨by simpa using hrevoked.1, by simpa using hown, by simpa using hactive⟩

/-- The tokens that follow a token. -/
def renewal (row : RefreshToken) (a : Account) : AuthProg AuthTokens :=
  match row.impersonatedBy with
  | some impersonatedBy => issueOnBehalf cfg jti row.tenantId impersonatedBy
  | none => issueTokens cfg jti
      { a.issueArgs (decide (a.role.code = .superAdmin)) a.user.isDispatcher with
        tenantId := row.tenantId }

/-- The row of a token, with its user. -/
def findRefreshToken (tokenHash : String) : AuthProg (Option RefreshToken) :=
  (Tx.read AuthQuery.refreshToken fun s : TokenStore => .ret (s.tokens.find tokenHash)).transact

/-- The UPDATE of a refresh: by the row's id, whatever has become of the row. -/
def revokeRefreshToken (request : ℕ) (tokenHash : String) (now : Moment) : AuthProg Unit :=
  (Tx.write (AuthRow.token tokenHash) (fun s : TokenStore => s.revokeFor request tokenHash now)
    fun _ => .ret ()).transact

/-- `refresh`, by the cookie of the hotel `hotelTenantId` or by the common one; `request` numbers
the call. -/
def refresh (request : ℕ) (refreshToken : String) (hotelTenantId : Option TenantId) :
    AuthProg AuthTokens :=
  .ask fun e => match cfg.verifyRefresh refreshToken e.now with
  | none => .throw refreshInvalid
  | some payload => do
    match ← findRefreshToken (cfg.hashToken refreshToken) with
    | none => .throw refreshRevoked
    | some row => .ask fun e => match e.directory.account row.userId with
      | none => .throw refreshRevoked
      | some a => match checkRefresh payload hotelTenantId row a e.now with
        | .error x => .throw x
        | .ok () => .ask fun e => do
          revokeRefreshToken request row.tokenHash e.now
          renewal cfg jti row a

/-- `logout`: a token that is not there is no failure. -/
def logout (refreshToken : String) : AuthProg Unit :=
  .ask fun e => (Tx.write (AuthRow.token (cfg.hashToken refreshToken))
    (fun s : TokenStore => s.revoke (cfg.hashToken refreshToken) e.now) fun _ => .ret ()).transact

end Service

/-! ## Calls -/

inductive AuthAnswer where
  | tokens (tokens : AuthTokens)
  | access (token : JwtAccessPayload)
  | done
  deriving DecidableEq, Repr

def AuthAnswer.accessToken : AuthAnswer → Option JwtAccessPayload
  | tokens t => some t.accessToken
  | access a => some a
  | done => none

inductive AuthCall where
  | login (dto : LoginDto)
  | exchangeSsoCode (entry : Option SsoEntry)
  | impersonate (tenantId : TenantId) (actor : JwtAccessPayload)
  | exitImpersonation (operatorUserId : UserId)
  | refresh (refreshToken : String) (hotelTenantId : Option TenantId)
  | logout (refreshToken : String)

/-- The session of call number `request`. -/
def AuthCall.session (cfg : AuthConfig) (jti : String) (request : ℕ) : AuthCall → AuthProg AuthAnswer
  | login dto => do return .tokens (← KarsHotel.login cfg jti dto)
  | exchangeSsoCode entry => do return .tokens (← KarsHotel.exchangeSsoCode cfg jti entry)
  | impersonate tenantId actor => do return .access (← KarsHotel.impersonate tenantId actor)
  | exitImpersonation operatorUserId => do
    return .tokens (← KarsHotel.exitImpersonation cfg jti operatorUserId)
  | refresh refreshToken hotelTenantId => do
    return .tokens (← KarsHotel.refresh cfg jti request refreshToken hotelTenantId)
  | logout refreshToken => do
    KarsHotel.logout cfg refreshToken
    return .done

end KarsHotel
