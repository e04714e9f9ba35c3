import KarsHotel.Auth.Service
import KarsHotel.SuperAdmin.Switches
import KarsHotel.Tenant.Team

/-!
# Sign-ins one at a time

The accounts of dispatchers and their one-time codes, and the whole of what opens, renews and closes
the doors of a hotel, one operation after the other.

* `provisionDispatcher`, `createSsoCode`, `deactivateDispatcher`;
* `SignInState`: the accounts, the codes, and the access tokens that were issued;
* `SignInOp`, `SignInOp.exec`: an operation, with the access token it answers with.
-/

namespace KarsHotel

/-! ## Dispatchers -/

structure DispatcherDto where
  email : String
  fullName : String

/-- A one-time code in the memory of the server. -/
structure SsoCode where
  code : String
  entry : SsoEntry

/-- The platform's accounts and codes, and the access tokens issued so far. A token is good for as
long as it is kept. -/
structure SignInState where
  accounts : Accounts
  ssoCodes : Table SsoCode.code
  issued : List JwtAccessPayload

/-- The functions of the service, and `trim` of the language. -/
structure SignInConfig where
  auth : AuthConfig
  team : TeamConfig
  trim : String → String

/-- What an operation draws: the time, the limit on sign-ins, and random texts. -/
structure Drawn where
  now : Moment
  throttled : Option Failure
  jti : String
  code : String
  password : String
  salt : String

def Directory.insertRole (d : Directory) (row : RoleRow) : Directory :=
  { d with roles := d.roles.insert row }

/-- The role of dispatchers on the platform, made at the first need. -/
def dispatcherRole (d : Directory) : Except Failure (RoleRow × Directory) :=
  match d.tenants.rows.find? fun t => decide (t.slug = "platform") with
  | none => .error (.forbidden "Platform tenant is not provisioned")
  | some platform =>
    match d.roleOf platform.id .dispatcher with
    | some role => .ok (role, d)
    | none =>
      let role : RoleRow := ⟨d.roles.fresh, platform.id, .dispatcher, []⟩
      .ok (role, d.insertRole role)

section Dispatchers

variable (cfg : SignInConfig) (w : Drawn)

/-- The account of a dispatcher, made at the first sign-in and switched on at a later one. -/
def provisionDispatcher (dispatcher : DispatcherDto) (d : Directory) : Except Failure UserId × Directory :=
  let email := cfg.auth.toLowerCase (cfg.trim dispatcher.email)
  match dispatcherRole d with
  | .error x => (.error x, d)
  | .ok (role, d) =>
    match d.userByEmail email with
    | some existing =>
      if !existing.isDispatcher then
        (.error (.forbidden "Этот адрес занят учёткой гостиницы или платформы"), d)
      else if !existing.isActive || decide (existing.roleId ≠ role.id) then
        (.ok existing.id,
          d.updateUser existing.id { isActive := some (true, none), roleId := some role.id })
      else (.ok existing.id, d)
    | none =>
      let created : UserRow :=
        { id := d.users.fresh
          tenantId := role.tenantId
          email := email
          passwordHash := cfg.team.hashPassword w.salt w.password
          fullName := if dispatcher.fullName = "" then email else dispatcher.fullName
          roleId := role.id
          isActive := true
          deactivatedAt := none
          isDispatcher := true }
      (.ok created.id, d.insertUser created)

def ssoCodeTtlMs : ℤ := 60000

/-- Codes whose time is over are forgotten; a new code is kept for a minute. -/
def createSsoCode (dispatcher : DispatcherDto) (tenantId : Option TenantId) (s : SignInState) :
    Except Failure Unit × SignInState :=
  let ssoCodes := s.ssoCodes.remove fun c => decide (c.entry.expiresAt < w.now)
  let (dispatcherUserId, directory) := provisionDispatcher cfg w dispatcher s.accounts.directory
  let s' := { s with ssoCodes, accounts := { s.accounts with directory } }
  match dispatcherUserId with
  | .error x => (.error x, s')
  | .ok dispatcherUserId =>
    let entry : SsoEntry := ⟨dispatcherUserId, tenantId, w.now + ssoCodeTtlMs⟩
    (.ok (), { s' with
      ssoCodes := (ssoCodes.remove fun c => decide (c.code = w.code)).insert ⟨w.code, entry⟩ })

/-- The dispatcher is switched off, and the sessions of the dispatcher are revoked. -/
def deactivateDispatcher (email : String) (s : Accounts) : Accounts :=
  match (s.directory.userByEmail (cfg.auth.toLowerCase (cfg.trim email))).filter (·.isDispatcher) with
  | none => s
  | some user =>
    { directory := s.directory.updateUser user.id { isActive := some (false, some w.now) }
      tokens := s.tokens.revokeSessions user.id w.now }

end Dispatchers

/-! ## Operations -/

/-- An operation. `token` is the access token of the request. -/
inductive SignInOp where
  | login (dto : LoginDto)
  | refresh (refreshToken : String) (hotelTenantId : Option TenantId)
  | logout (refreshToken : String)
  | createSsoCode (dispatcher : DispatcherDto) (tenantId : Option TenantId)
  | exchangeSsoCode (code : String)
  | impersonate (tenantId : TenantId) (token : JwtAccessPayload)
  | exitImpersonation (token : JwtAccessPayload)
  | toggleActive (tenantId : TenantId)
  | archiveTenant (tenantId : TenantId) (actor : UserId) (live : ℕ)
  | restoreTenant (tenantId : TenantId)
  | toggleUserActive (userId : UserId)
  | deactivateDispatcher (email : String)
  | team (user : AuthenticatedRequestUser) (request : TeamRequest)

/-- `JwtAuthGuard`: only a token that was issued is let in. -/
def jwtAuth (s : SignInState) (token : JwtAccessPayload) : Except Failure AuthenticatedRequestUser :=
  if token ∈ s.issued then .ok token.validate else .error (.unauthorized "Unauthorized")

/-- `PlatformOperatorGuard`. -/
def platformOperator (user : AuthenticatedRequestUser) : Except Failure Unit :=
  if !user.isSuperAdmin && !(user.isDispatcher && user.impersonatedBy.isNone) then
    .error (.forbidden "Platform access required")
  else .ok ()

section Operations

variable (cfg : SignInConfig) (w : Drawn)

/-- The call of the sign-in service that a request makes. -/
def SignInOp.authCall (s : SignInState) : SignInOp → Option (Except Failure AuthCall)
  | login dto => some (.ok (.login dto))
  | refresh refreshToken hotelTenantId => some (.ok (.refresh refreshToken hotelTenantId))
  | logout refreshToken => some (.ok (.logout refreshToken))
  | exchangeSsoCode code => some (.ok (.exchangeSsoCode ((s.ssoCodes.find code).map (·.entry))))
  | impersonate tenantId token => some do
    let user ← jwtAuth s token
    platformOperator user
    return .impersonate tenantId token
  | exitImpersonation token => some do
    let user ← jwtAuth s token
    match user.impersonatedBy with
    | none => throw (.badRequest "Not in an impersonation session")
    | some operatorUserId => return .exitImpersonation operatorUserId
  | _ => none

/-- What an operation does to the directory alone. -/
def SignInOp.switch (d : Directory) : SignInOp → Except Failure Directory
  | toggleActive tenantId => KarsHotel.toggleActive d tenantId
  | archiveTenant tenantId actor live => KarsHotel.archiveTenant w.now actor d live tenantId
  | restoreTenant tenantId => KarsHotel.restoreTenant d tenantId
  | toggleUserActive userId => KarsHotel.toggleUserActive w.now d userId
  | _ => .ok d

/-- A one-time code is forgotten on its first touch. -/
def SignInOp.forget (s : SignInState) : SignInOp → SignInState
  | exchangeSsoCode code => { s with ssoCodes := s.ssoCodes.remove fun c => decide (c.code = code) }
  | _ => s

/-- What an operation finds outside the tokens. -/
def SignInState.env (w : Drawn) (s : SignInState) : AuthEnv := ⟨s.accounts.directory, w.now, w.throttled⟩

/-- A call of the sign-in service, run alone. -/
def AuthCall.alone (s : SignInState) (call : AuthCall) : Except Failure AuthAnswer × SignInState :=
  let ran := (call.session cfg.auth w.jti 0).eval (s.env w) s.accounts.tokens s.accounts.tokens
  let token := ran.1.toOption.bind (·.accessToken)
  (ran.1, { s with
    accounts := { s.accounts with tokens := ran.2.1 }
    issued := token.toList ++ s.issued })

/-- An operation: the access token it answers with, and what it leaves. -/
def SignInOp.exec (s : SignInState) (op : SignInOp) : Option JwtAccessPayload × SignInState :=
  match op.authCall s with
  | some (.error _) => (none, s)
  | some (.ok call) =>
    let ran := call.alone cfg w (op.forget s)
    (ran.1.toOption.bind (·.accessToken), ran.2)
  | none => match op with
    | createSsoCode dispatcher tenantId => (none, (KarsHotel.createSsoCode cfg w dispatcher tenantId s).2)
    | deactivateDispatcher email =>
      (none, { s with accounts := KarsHotel.deactivateDispatcher cfg w email s.accounts })
    | team user request =>
      let call : TeamCall := ⟨user, request, ⟨w.now, w.password, w.salt⟩⟩
      (none, { s with accounts := call.step cfg.team s.accounts })
    | op => match op.switch w s.accounts.directory with
      | .error _ => (none, s)
      | .ok directory => (none, { s with accounts := { s.accounts with directory } })

end Operations

end KarsHotel
