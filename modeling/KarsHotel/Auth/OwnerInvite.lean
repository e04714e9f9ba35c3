import KarsHotel.Auth.Store
import KarsHotel.Lib.RowLocks

/-!
# Owner invites

A partner invites the owner of a hotel; the owner sets the password through a link that works once.

* `OwnerInvite`, `InviteDesk`, `inviteDb`: the invites and the people as a database;
* `OwnerInviteService.create`, `accept`: the calls, statement by statement;
* `InviteWrite`, `InviteDeed`: what a call writes, and what its transactions commit;
  **`InviteCall.obeys`**.

Times of a call are its start and the milliseconds elapsed since.
-/

namespace KarsHotel

def INVITE_TTL_DAYS : ℤ := 14

/-- A row of `owner_invite`. -/
structure OwnerInvite where
  tokenHash : String
  tenantId : TenantId
  email : String
  fullName : String
  expiresAt : Moment
  usedAt : Option Moment
  revoked : Bool
  partnerId : Option ℕ
  deriving DecidableEq, Repr

/-- `SET used_at, revoked … WHERE used_at IS NULL`. -/
def OwnerInvite.cancelledAt (at_ : Moment) (x : OwnerInvite) : OwnerInvite :=
  { x with
    usedAt := if x.usedAt = none then some at_ else x.usedAt
    revoked := if x.usedAt = none then true else x.revoked }

/-- `SET used_at … WHERE used_at IS NULL`. -/
def OwnerInvite.acceptedAt (at_ : Moment) (x : OwnerInvite) : OwnerInvite :=
  { x with usedAt := if x.usedAt = none then some at_ else x.usedAt }

theorem OwnerInvite.tokenHash_cancelledAt (at_ : Moment) (x : OwnerInvite) :
    (x.cancelledAt at_).tokenHash = x.tokenHash := rfl

theorem OwnerInvite.tokenHash_acceptedAt (at_ : Moment) (x : OwnerInvite) :
    (x.acceptedAt at_).tokenHash = x.tokenHash := rfl

/-- What the calls read and write. Addresses and token hashes are unique. -/
structure InviteDesk where
  roles : Table RoleRow.id
  users : Table UserRow.email
  invites : Table OwnerInvite.tokenHash

/-- An active person of the hotel itself, with the role of its owner. -/
def InviteDesk.IsOwner (s : InviteDesk) (tenantId : TenantId) (u : UserRow) : Prop :=
  u.tenantId = tenantId ∧ u.isDispatcher = false ∧ u.isActive = true ∧
    (s.roles.find u.roleId).map RoleRow.code = some .owner

instance (s : InviteDesk) (tenantId : TenantId) (u : UserRow) :
    Decidable (s.IsOwner tenantId u) := by unfold InviteDesk.IsOwner; infer_instance

/-- An invite of the hotel that has been neither used nor replaced. -/
def OwnerInvite.UnusedOf (x : OwnerInvite) (tenantId : TenantId) : Prop :=
  x.tenantId = tenantId ∧ x.usedAt = none

instance (x : OwnerInvite) (tenantId : TenantId) : Decidable (x.UnusedOf tenantId) := by
  unfold OwnerInvite.UnusedOf; infer_instance

namespace InviteDesk

variable (s : InviteDesk)

def owner (tenantId : TenantId) : Option UserRow :=
  s.users.rows.find? fun u => decide (s.IsOwner tenantId u)

def ownerRole (tenantId : TenantId) : Option RoleRow :=
  s.roles.rows.find? fun r => decide (r.tenantId = tenantId ∧ r.code = .owner)

/-- The token hashes of the hotel's unused invites. -/
def unused (tenantId : TenantId) : List String :=
  (s.invites.select fun x => decide (x.UnusedOf tenantId)).map (·.tokenHash)

/-- The UPDATE of a new invite on one earlier invite. -/
def cancel (tokenHash : String) (at_ : Moment) : InviteDesk :=
  { s with
    invites := s.invites.modify tokenHash (OwnerInvite.cancelledAt at_)
      (OwnerInvite.tokenHash_cancelledAt at_) }

/-- The UPDATE of an acceptance. -/
def use (tokenHash : String) (at_ : Moment) : InviteDesk :=
  { s with
    invites := s.invites.modify tokenHash (OwnerInvite.acceptedAt at_)
      (OwnerInvite.tokenHash_acceptedAt at_) }

def insertInvite (row : OwnerInvite) : InviteDesk := { s with invites := s.invites.insert row }

def insertUser (row : UserRow) : InviteDesk := { s with users := s.users.insert row }

variable {s}

theorem find_cancel_of_ne {a b : String} (h : b ≠ a) (at_ : Moment) :
    (s.cancel a at_).invites.find b = s.invites.find b := by
  rw [cancel, Table.find_modify_of_ne h]

theorem find_use_of_ne {a b : String} (h : b ≠ a) (at_ : Moment) :
    (s.use a at_).invites.find b = s.invites.find b := by
  rw [use, Table.find_modify_of_ne h]

theorem mem_cancel {a : String} {at_ : Moment} {y : OwnerInvite} :
    y ∈ (s.cancel a at_).invites ↔ y ∈ s.invites ∧ y.tokenHash ≠ a ∨
      ∃ x ∈ s.invites, x.tokenHash = a ∧ y = x.cancelledAt at_ := by
  rw [cancel, Table.mem_modify]

theorem mem_use {a : String} {at_ : Moment} {y : OwnerInvite} :
    y ∈ (s.use a at_).invites ↔ y ∈ s.invites ∧ y.tokenHash ≠ a ∨
      ∃ x ∈ s.invites, x.tokenHash = a ∧ y = x.acceptedAt at_ := by
  rw [use, Table.mem_modify]

end InviteDesk

inductive InviteQuery where
  | owner
  | user
  | unused
  | invite
  | role
  deriving DecidableEq, Repr

inductive InviteRow where
  | invite (tokenHash : String)
  | user (email : String)
  deriving DecidableEq, Repr

/-- What a call gets from outside the store: the time since its start, the random bytes, a new id
and bcrypt's answer. -/
structure InviteEnv where
  elapsed : ℕ
  token : String
  userId : UserId
  passwordHash : String
  deriving DecidableEq, Repr

abbrev inviteDb : Db := ⟨InviteDesk, InviteQuery, InviteRow, Empty, InviteEnv⟩

/-- `sha256` of a token, `toLowerCase` and `trim` of the language. -/
structure InviteConfig where
  hash : String → String
  toLowerCase : String → String
  trim : String → String

structure InviteOwnerDto where
  email : String
  fullName : String

structure CreatedInvite where
  token : String
  email : String
  expiresAt : Moment
  deriving DecidableEq, Repr

structure AcceptedInvite where
  userId : UserId
  tenantId : TenantId
  email : String
  deriving DecidableEq, Repr

/-! ## The calls -/

def hotelHasOwner (email : String) : Failure :=
  .conflict ("У гостиницы уже есть владелец кабинета (" ++ email ++ ")")

def addressTaken : Failure := .conflict "Этот адрес уже зарегистрирован в системе"

def noOwnerRole : Failure := .conflict "У гостиницы нет роли «Владелец» — обратитесь в поддержку"

def inviteNotFound : Failure := .notFound "Приглашение не найдено"

def inviteReplaced : Failure := .gone "Приглашение заменено новым"

def inviteUsed : Failure := .gone "Приглашение уже использовано"

def inviteExpired : Failure := .gone "Срок приглашения истёк — попросите новое"

/-- An INSERT met a unique index. -/
def inviteUniqueViolation : Failure := .internal "Unique constraint failed"

namespace OwnerInviteService

variable (cfg : InviteConfig)

/-- `updateMany` on the invites its snapshot found. -/
def cancelEach (at_ : Moment) : List String → Tx inviteDb Failure Unit
  | [] => .ret ()
  | tokenHash :: rest =>
    .write (.invite tokenHash) (fun s => s.cancel tokenHash at_) fun _ => cancelEach at_ rest

/-- The batch of a new invite: the earlier ones are cancelled, the new one is inserted. -/
def replaceInvites (tenantId : TenantId) (usedAt : Moment) (row : OwnerInvite) :
    Tx inviteDb Failure Unit :=
  .read .unused fun s => cancelEach usedAt (s.unused tenantId) >>= fun _ =>
    .write (.invite row.tokenHash) (fun s => s.insertInvite row) fun s =>
      if (s.invites.find row.tokenHash).isNone then .ret () else .throw inviteUniqueViolation

def inviteRow (tenantId : TenantId) (dto : InviteOwnerDto) (partnerId : Option ℕ) (token : String)
    (now : Moment) : OwnerInvite where
  tokenHash := cfg.hash token
  tenantId := tenantId
  email := cfg.toLowerCase (cfg.trim dto.email)
  fullName := cfg.trim dto.fullName
  expiresAt := now + INVITE_TTL_DAYS * 86400000
  usedAt := none
  revoked := false
  partnerId := partnerId

/-- The hotel has no owner yet. -/
def withoutOwner (tenantId : TenantId) : Tx inviteDb Failure Unit :=
  .read .owner fun s => match s.owner tenantId with
    | some owner => .throw (hotelHasOwner owner.email)
    | none => .ret ()

def freeAddress (email : String) : Tx inviteDb Failure Unit :=
  .read .user fun s => if (s.users.find email).isSome then .throw addressTaken else .ret ()

def create (startedAt : Moment) (tenantId : TenantId) (dto : InviteOwnerDto)
    (partnerId : Option ℕ) : Prog inviteDb Failure CreatedInvite := do
  let email := cfg.toLowerCase (cfg.trim dto.email)
  (withoutOwner tenantId).transact
  (freeAddress email).transact
  .ask fun e => .ask fun e' => do
    let row := inviteRow cfg tenantId dto partnerId e.token (startedAt + e.elapsed)
    (replaceInvites tenantId (startedAt + e'.elapsed) row).transact
    .ret ⟨e.token, email, row.expiresAt⟩

def findInvite (tokenHash : String) : Tx inviteDb Failure (Option OwnerInvite) :=
  .read .invite fun s => .ret (s.invites.find tokenHash)

/-- The invite of a token that may still be accepted. -/
def valid (startedAt : Moment) (token : String) : Prog inviteDb Failure OwnerInvite := do
  let found ← (findInvite (cfg.hash token)).transact
  match found with
  | none => .throw inviteNotFound
  | some invite =>
    if invite.usedAt.isSome then .throw (if invite.revoked then inviteReplaced else inviteUsed)
    else .ask fun e =>
      if invite.expiresAt < startedAt + e.elapsed then .throw inviteExpired else .ret invite

/-- The account of an accepted invite. -/
def ownerRow (invite : OwnerInvite) (role : RoleRow) (e : InviteEnv) : UserRow where
  id := e.userId
  tenantId := invite.tenantId
  email := invite.email
  passwordHash := e.passwordHash
  fullName := invite.fullName
  roleId := role.id
  isActive := true
  deactivatedAt := none
  isDispatcher := false

/-- The transaction of an acceptance: the link goes out, then the account is made. -/
def acceptTx (invite : OwnerInvite) (role : RoleRow) (usedAt : Moment) (e : InviteEnv) :
    Tx inviteDb Failure AcceptedInvite :=
  .write (.invite invite.tokenHash) (fun s => s.use invite.tokenHash usedAt) fun s =>
    if (s.invites.find invite.tokenHash).any fun x => decide (x.usedAt = none) then
      .read .user fun s =>
        if (s.users.find invite.email).isSome then .throw addressTaken
        else .write (.user invite.email) (fun s => s.insertUser (ownerRow invite role e)) fun s =>
          if (s.users.find invite.email).isNone then .ret ⟨e.userId, invite.tenantId, invite.email⟩
          else .throw inviteUniqueViolation
    else .throw inviteUsed

/-- The hotel's role of an owner. -/
def findOwnerRole (tenantId : TenantId) : Tx inviteDb Failure RoleRow :=
  .read .role fun s => match s.ownerRole tenantId with
    | none => .throw noOwnerRole
    | some role => .ret role

def accept (startedAt : Moment) (token : String) : Prog inviteDb Failure AcceptedInvite := do
  let invite ← valid cfg startedAt token
  let role ← (findOwnerRole invite.tenantId).transact
  .ask fun e => (acceptTx invite role (startedAt + e.elapsed) e).transact

end OwnerInviteService

inductive InviteCall where
  | create (tenantId : TenantId) (dto : InviteOwnerDto) (partnerId : Option ℕ)
  | accept (token : String)

inductive InviteAnswer where
  | created (invite : CreatedInvite)
  | accepted (invite : AcceptedInvite)
  deriving DecidableEq, Repr

/-- A call and when it started. -/
structure InviteRequest where
  startedAt : Moment
  call : InviteCall

def InviteRequest.prog (cfg : InviteConfig) (q : InviteRequest) :
    Prog inviteDb Failure InviteAnswer :=
  match q.call with
  | .create tenantId dto partnerId => do
    let invite ← OwnerInviteService.create cfg q.startedAt tenantId dto partnerId
    .ret (.created invite)
  | .accept token => do
    let invite ← OwnerInviteService.accept cfg q.startedAt token
    .ret (.accepted invite)

/-! ## What a call writes -/

def InviteRow.Content : InviteRow → Type
  | .invite _ => Option OwnerInvite
  | .user _ => Option UserRow

def InviteDesk.content : (r : InviteRow) → InviteDesk → r.Content
  | .invite tokenHash, s => s.invites.find tokenHash
  | .user email, s => s.users.find email

abbrev cancellation (at_ : Moment) (tokenHash : String) : InviteRow × (InviteDesk → InviteDesk) :=
  (.invite tokenHash, fun s => s.cancel tokenHash at_)

abbrev invitation (row : OwnerInvite) : InviteRow × (InviteDesk → InviteDesk) :=
  (.invite row.tokenHash, fun s => s.insertInvite row)

abbrev usage (at_ : Moment) (tokenHash : String) : InviteRow × (InviteDesk → InviteDesk) :=
  (.invite tokenHash, fun s => s.use tokenHash at_)

abbrev accountOpening (row : UserRow) : InviteRow × (InviteDesk → InviteDesk) :=
  (.user row.email, fun s => s.insertUser row)

inductive InviteWrite : InviteCall → InviteRow → (InviteDesk → InviteDesk) → Prop
  | cancel (tenantId : TenantId) (dto : InviteOwnerDto) (partnerId : Option ℕ) (tokenHash : String)
      (at_ : Moment) : InviteWrite (.create tenantId dto partnerId) (cancellation at_ tokenHash).1
        (cancellation at_ tokenHash).2
  | insert (tenantId : TenantId) (dto : InviteOwnerDto) (partnerId : Option ℕ)
      (row : OwnerInvite) : InviteWrite (.create tenantId dto partnerId) (invitation row).1
        (invitation row).2
  | use (token : String) (tokenHash : String) (at_ : Moment) :
      InviteWrite (.accept token) (usage at_ tokenHash).1 (usage at_ tokenHash).2
  | account (token : String) (row : UserRow) :
      InviteWrite (.accept token) (accountOpening row).1 (accountOpening row).2

theorem InviteWrite.roles {c : InviteCall} {r : InviteRow} {f : InviteDesk → InviteDesk}
    (hw : InviteWrite c r f) (s : InviteDesk) : (f s).roles = s.roles := by
  cases hw <;> rfl

theorem InviteWrite.confined {c : InviteCall} {r : InviteRow} {f : InviteDesk → InviteDesk}
    (hw : InviteWrite c r f) : Confined (D := inviteDb) InviteDesk.content r f := by
  intro r' hr' s
  cases hw with
  | cancel _ _ _ tokenHash at_ =>
    cases r' with
    | user email => rfl
    | invite other =>
      exact InviteDesk.find_cancel_of_ne (fun h => hr' (congrArg _ h)) at_
  | use _ tokenHash at_ =>
    cases r' with
    | user email => rfl
    | invite other =>
      exact InviteDesk.find_use_of_ne (fun h => hr' (congrArg _ h)) at_
  | insert _ _ _ row =>
    cases r' with
    | user email => rfl
    | invite other => exact Table.find_insert_of_ne fun h => hr' (congrArg _ h)
  | account _ row =>
    cases r' with
    | invite other => rfl
    | user email => exact Table.find_insert_of_ne fun h => hr' (congrArg _ h)

/-- What a transaction of a call commits, where the roles are those of `h`: nothing, a new invite
after the unused ones its snapshot found, or an account for an invite it found unused. -/
inductive InviteDeed (cfg : InviteConfig) (h : InviteDesk) (q : InviteRequest)
    (l : Local inviteDb) : Prop
  | quiet (hp : l.pending = [])
  | created (tenantId : TenantId) (dto : InviteOwnerDto) (partnerId : Option ℕ)
      (hq : q.call = .create tenantId dto partnerId) (row : OwnerInvite)
      (hrow : row.tenantId = tenantId) (at_ : Moment) (hashes : List String)
      (hp : l.pending = hashes.map (cancellation at_) ++ [invitation row])
  | accepted (token : String) (hq : q.call = .accept token) (x : OwnerInvite)
      (hx : x.tokenHash = cfg.hash token)
      (hread : ∃ query t, Event.read query t ∈ l.hist ∧ x ∈ t.invites)
      (hexp : q.startedAt ≤ x.expiresAt) (role : RoleRow)
      (hrole : h.ownerRole x.tenantId = some role) (s : InviteDesk)
      (hs : l.held (.invite x.tokenHash) = some s) (y : OwnerInvite)
      (hy : s.invites.find x.tokenHash = some y) (hun : y.usedAt = none) (at_ : Moment)
      (e : InviteEnv) (hp : l.pending =
        [usage at_ x.tokenHash, accountOpening (OwnerInviteService.ownerRow x role e)])

/-- What a call keeps on all its paths. -/
def inviteRules (cfg : InviteConfig) (h : InviteDesk) (q : InviteRequest) : Rules inviteDb where
  view _ s := s.roles = h.roles
  write _ r f _ := InviteWrite q.call r f
  commit l := InviteDeed cfg h q l
  rollback _ := True

section Obeys

variable {cfg : InviteConfig} {h : InviteDesk} {q : InviteRequest} {l : Local inviteDb}
  {X : Local inviteDb → Failure → Prop}

theorem cancelEach_keeps {tenantId : TenantId} {dto : InviteOwnerDto} {partnerId : Option ℕ}
    (hq : q.call = .create tenantId dto partnerId) (at_ : Moment) (hashes : List String) :
    (OwnerInviteService.cancelEach at_ hashes).Keeps (inviteRules cfg h q)
      (fun l' _ => l'.pending = l.pending ++ hashes.map (cancellation at_)) X l := by
  induction hashes generalizing l with
  | nil => simp [OwnerInviteService.cancelEach]
  | cons x xs ih =>
    intro s hs
    refine ⟨?_, (ih (l := l.write _ _ s)).mono (fun l' _ hl' => ?_) fun _ _ hx => hx⟩
    · show InviteWrite q.call _ _
      rw [hq]
      exact .cancel tenantId dto partnerId x at_
    · rw [hl', Local.pending_write]
      simp

theorem replaceInvites_keeps {tenantId : TenantId} {dto : InviteOwnerDto} {partnerId : Option ℕ}
    (hq : q.call = .create tenantId dto partnerId) (at_ : Moment) {row : OwnerInvite}
    (hrow : row.tenantId = tenantId) (hl : l.pending = []) :
    (OwnerInviteService.replaceInvites tenantId at_ row).Keeps (inviteRules cfg h q)
      (fun l' _ => InviteDeed cfg h q l') (fun _ _ => True) l := by
  intro s _
  show (OwnerInviteService.cancelEach at_ (s.unused tenantId) >>= _).Keeps _ _ _ _
  rw [Tx.keeps_bind]
  refine (cancelEach_keeps hq at_ (s.unused tenantId)).mono (fun l' _ hl' t _ => ⟨?_, ?_⟩)
    fun _ _ hx => hx
  · show InviteWrite q.call _ _
    rw [hq]
    exact .insert tenantId dto partnerId row
  · dsimp only
    by_cases hfree : (t.invites.find row.tokenHash).isNone = true
    · rw [if_pos hfree]
      refine .created tenantId dto partnerId hq row hrow at_ (s.unused tenantId) ?_
      rw [Local.pending_write, hl', Local.pending_read, hl, List.nil_append]
    · rw [if_neg hfree]
      trivial

/-- Between two transactions: nothing is written, nothing is held, and what was read in `l` is not
forgotten. -/
structure Between (l l' : Local inviteDb) : Prop where
  pending : l'.pending = []
  held : ∀ r, l'.held r = none
  hist : ∀ e ∈ l.hist, e ∈ l'.hist

theorem Between.read_commit (l : Local inviteDb) (query : InviteQuery) (s : InviteDesk) :
    Between l (l.read query s).commit :=
  ⟨rfl, fun _ => rfl, fun _ he => List.mem_cons_of_mem _ (List.mem_cons_of_mem _ he)⟩

theorem withoutOwner_keeps (tenantId : TenantId) (hl : l.pending = []) :
    (OwnerInviteService.withoutOwner tenantId).transact.Keeps (inviteRules cfg h q)
      (fun l' _ => Between l l') (fun _ _ => True) l := by
  rw [Tx.keeps_transact]
  intro s _
  dsimp only
  cases s.owner tenantId with
  | some owner => exact ⟨trivial, trivial⟩
  | none => exact ⟨.quiet hl, .read_commit l _ s⟩

theorem freeAddress_keeps (email : String) (hl : l.pending = []) :
    (OwnerInviteService.freeAddress email).transact.Keeps (inviteRules cfg h q)
      (fun l' _ => Between l l') (fun _ _ => True) l := by
  rw [Tx.keeps_transact]
  intro s _
  dsimp only
  by_cases hfree : (s.users.find email).isSome = true
  · rw [if_pos hfree]
    exact ⟨trivial, trivial⟩
  · rw [if_neg hfree]
    exact ⟨.quiet hl, .read_commit l _ s⟩

theorem findOwnerRole_keeps (tenantId : TenantId) (hl : l.pending = []) :
    (OwnerInviteService.findOwnerRole tenantId).transact.Keeps (inviteRules cfg h q)
      (fun l' role => Between l l' ∧ h.ownerRole tenantId = some role) (fun _ _ => True) l := by
  rw [Tx.keeps_transact]
  intro s hs
  have hroles : s.ownerRole tenantId = h.ownerRole tenantId := by
    unfold InviteDesk.ownerRole
    rw [hs]
  dsimp only
  rw [hroles]
  cases hrole : h.ownerRole tenantId with
  | none => exact ⟨trivial, trivial⟩
  | some role => exact ⟨.quiet hl, .read_commit l _ s, rfl⟩

/-- The invite that may be accepted is that of the token, and has not expired at the start. -/
theorem valid_keeps (token : String) (hl : l.pending = []) :
    (OwnerInviteService.valid cfg q.startedAt token).Keeps (inviteRules cfg h q)
      (fun l' x => Between l l' ∧ x.tokenHash = cfg.hash token ∧ q.startedAt ≤ x.expiresAt ∧
        ∃ query t, Event.read query t ∈ l'.hist ∧ x ∈ t.invites) (fun _ _ => True) l := by
  rw [OwnerInviteService.valid, Prog.keeps_bind, Tx.keeps_transact]
  intro s _
  refine ⟨.quiet hl, ?_⟩
  cases hx : s.invites.find (cfg.hash token) with
  | none => trivial
  | some x =>
    obtain ⟨hmem, hhash⟩ := Table.find_eq_some.mp hx
    dsimp only
    by_cases hused : x.usedAt.isSome = true
    · rw [if_pos hused]
      trivial
    · rw [if_neg hused]
      intro e
      dsimp only
      by_cases hexp : x.expiresAt < q.startedAt + e.elapsed
      · rw [if_pos hexp]
        trivial
      · rw [if_neg hexp]
        have hstart : q.startedAt ≤ x.expiresAt :=
          (le_add_of_nonneg_right (Int.natCast_nonneg _)).trans (not_lt.mp hexp)
        refine ⟨⟨rfl, fun _ => rfl, fun ev hev => ?_⟩, hhash, hstart, .invite, s, ?_, hmem⟩
        · exact List.mem_cons_of_mem _ ((Between.read_commit l _ s).hist ev hev)
        · exact List.mem_cons_of_mem _ (List.mem_cons_of_mem _ List.mem_cons_self)

theorem acceptTx_keeps {token : String} (hq : q.call = .accept token) {x : OwnerInvite}
    (hx : x.tokenHash = cfg.hash token)
    (hread : ∃ query t, Event.read query t ∈ l.hist ∧ x ∈ t.invites)
    (hexp : q.startedAt ≤ x.expiresAt) {role : RoleRow}
    (hrole : h.ownerRole x.tenantId = some role) (at_ : Moment) (e : InviteEnv)
    (hl : l.pending = []) (hheld : ∀ r, l.held r = none) :
    (OwnerInviteService.acceptTx x role at_ e).Keeps (inviteRules cfg h q)
      (fun l' _ => InviteDeed cfg h q l') (fun _ _ => True) l := by
  intro s _
  refine ⟨?_, ?_⟩
  · show InviteWrite q.call _ _
    rw [hq]
    exact .use token x.tokenHash at_
  dsimp only
  by_cases hun : ((s.invites.find x.tokenHash).any fun y => decide (y.usedAt = none)) = true
  · rw [if_pos hun]
    obtain ⟨y, hy, hnone⟩ := (Option.any_eq_true _ _).mp hun
    intro t _
    dsimp only
    by_cases hfree : (t.users.find x.email).isSome = true
    · rw [if_pos hfree]
      trivial
    · rw [if_neg hfree]
      intro u _
      refine ⟨?_, ?_⟩
      · show InviteWrite q.call _ _
        rw [hq]
        exact .account token (OwnerInviteService.ownerRow x role e)
      · dsimp only
        by_cases hnew : (u.users.find x.email).isNone = true
        · rw [if_pos hnew]
          obtain ⟨query, t', ht', hmem⟩ := hread
          refine .accepted token hq x hx ⟨query, t', ?_, hmem⟩ hexp role hrole s ?_ y hy
            (by simpa using hnone) at_ e ?_
          · simp [Local.write, Local.read, ht']
          · simp [Local.held_write, hheld]
          · simp [hl, OwnerInviteService.ownerRow]
        · rw [if_neg hnew]
          trivial
  · rw [if_neg hun]
    trivial

/-- **Every call keeps its rules.** -/
theorem InviteRequest.obeys (cfg : InviteConfig) (h : InviteDesk) (q : InviteRequest) :
    Obeys (inviteRules cfg h q) (fun _ _ => True) .init (q.prog cfg) := by
  unfold Obeys InviteRequest.prog
  cases hq : q.call with
  | create tenantId dto partnerId =>
    rw [Prog.keeps_bind, OwnerInviteService.create, Prog.keeps_bind]
    refine (withoutOwner_keeps tenantId rfl).mono (fun l _ hl => ?_) fun _ _ _ => trivial
    rw [Prog.keeps_bind]
    refine (freeAddress_keeps _ hl.pending).mono (fun l' _ hl' e e' => ?_) fun _ _ _ => trivial
    rw [Prog.keeps_bind, Tx.keeps_transact]
    have hrow : (OwnerInviteService.inviteRow cfg tenantId dto partnerId e.token
      (q.startedAt + e.elapsed)).tenantId = tenantId := rfl
    have hpending : ((l'.ask e).ask e').pending = [] := hl'.pending
    exact (replaceInvites_keeps hq _ hrow hpending).mono (fun l'' _ hd => ⟨hd, trivial⟩)
      fun _ _ _ => ⟨trivial, trivial⟩
  | accept token =>
    rw [Prog.keeps_bind, OwnerInviteService.accept, Prog.keeps_bind]
    refine (valid_keeps token rfl).mono (fun l x hx => ?_) fun _ _ _ => trivial
    obtain ⟨hl, hhash, hexp, query, t, ht, hmem⟩ := hx
    rw [Prog.keeps_bind]
    refine (findOwnerRole_keeps x.tenantId hl.pending).mono (fun l' role hr e => ?_)
      fun _ _ _ => trivial
    obtain ⟨hl', hrole⟩ := hr
    rw [Tx.keeps_transact]
    have hread : ∃ query t, Event.read query t ∈ (l'.ask e).hist ∧ x ∈ t.invites :=
      ⟨query, t, List.mem_cons_of_mem _ (hl'.hist _ ht), hmem⟩
    refine (acceptTx_keeps hq hhash hread hexp hrole _ e hl'.pending hl'.held).mono
      (fun l'' _ hd => ⟨hd, trivial⟩) fun _ _ _ => ⟨trivial, trivial⟩

end Obeys

end KarsHotel
