import KarsHotel.Lib.JsText
import KarsHotel.Lib.Run
import KarsHotel.Lib.Table
import KarsHotel.Reservations.Store

/-!
# The keys of partners

A partner calls the connectivity API with a key. The text of a key is shown once; what is stored is
its first characters, by which it is found, and the hash of it.

* `PartnerApiKey`, `PartnerKeys`: a row, and the table, where no two rows begin alike;
* `mint`, `verify`, `revoke`: the operations; `KeyOp.exec`: one of them at a moment;
* `ConnectRoute`, `PartnerApiKeyGuard.canActivate`: the routes, what they ask for, and the guard;
* **`verify_iff`**: after any operations a key is good exactly if it was minted, is not revoked and
  is not over, and it says what it was minted with;
* **`sso_key_alone`**: no key that ever opens the entry of dispatchers ever opens anything else.
-/

namespace KarsHotel

/-! ## Keys -/

inductive PartnerKeyScope where
  | hotelsRead
  | hotelsWrite
  | availabilityRead
  | reservationsRead
  | reservationsWrite
  | ssoCreate
  | contractPricesWrite
  | corporateTariffReview
  | directoryWrite
  deriving DecidableEq, Repr

def PartnerKeyScope.text : PartnerKeyScope → String
  | hotelsRead => "hotels:read"
  | hotelsWrite => "hotels:write"
  | availabilityRead => "availability:read"
  | reservationsRead => "reservations:read"
  | reservationsWrite => "reservations:write"
  | ssoCreate => "sso:create"
  | contractPricesWrite => "contract-prices:write"
  | corporateTariffReview => "corporate-tariff:review"
  | directoryWrite => "directory:write"

/-- A row of `partner_api_key`. -/
structure PartnerApiKey where
  id : ℕ
  partnerId : PartnerId
  name : String
  keyPrefix : JsString
  keyHash : JsString
  scopes : List PartnerKeyScope
  isActive : Bool
  lastUsedAt : Option Moment
  expiresAt : Option Moment
  revokedAt : Option Moment
  deriving DecidableEq, Repr

/-- The table, with its unique index. -/
structure PartnerKeys where
  rows : Table PartnerApiKey.id
  prefixUnique : ∀ r ∈ rows, ∀ r' ∈ rows, r.keyPrefix = r'.keyPrefix → r = r'

/-- The random part of a key: 24 bytes in base64url. -/
structure KeySecret where
  text : JsString
  length : text.length = 32
  deriving DecidableEq

/-- SHA-256, the partners by their codes, and whether this is production. -/
structure KeyConfig where
  sha256 : JsString → JsString
  partnerByCode : String → Option PartnerId
  production : Bool

structure MintParams where
  name : String
  scopes : List PartnerKeyScope
  expiresAt : Option Moment
  partnerCode : Option String
  deriving DecidableEq, Repr

structure MintedKey where
  id : ℕ
  name : String
  keyPrefix : JsString
  scopes : List PartnerKeyScope
  plaintext : JsString
  deriving DecidableEq, Repr

structure VerifiedPartner where
  id : ℕ
  name : String
  scopes : List PartnerKeyScope
  partnerId : PartnerId
  deriving DecidableEq, Repr

def PartnerApiKey.verified (r : PartnerApiKey) : VerifiedPartner := ⟨r.id, r.name, r.scopes, r.partnerId⟩

namespace PartnerKeys

def PREFIX_LEN : ℕ := 16

def empty : PartnerKeys := ⟨.empty, fun _ h => absurd h (Table.not_mem_empty _)⟩

/-- An UPDATE of a row, which leaves the prefix. -/
def update (keys : PartnerKeys) (id : ℕ) (f : PartnerApiKey → PartnerApiKey)
    (hid : ∀ r, (f r).id = r.id := by intro; rfl)
    (hfirst : ∀ r, (f r).keyPrefix = r.keyPrefix := by intro; rfl) : PartnerKeys where
  rows := keys.rows.modify id f hid
  prefixUnique r hr r' hr' heq := by
    rcases Table.mem_modify.mp hr with ⟨hold, hne⟩ | ⟨r₀, hold, hk, rfl⟩
    · rcases Table.mem_modify.mp hr' with ⟨hold', _⟩ | ⟨r₁, hold', hk', rfl⟩
      · exact keys.prefixUnique r hold r' hold' heq
      · obtain rfl := keys.prefixUnique r hold r₁ hold' (heq.trans (hfirst r₁))
        exact absurd hk' hne
    · rcases Table.mem_modify.mp hr' with ⟨hold', hne'⟩ | ⟨r₁, hold', _, rfl⟩
      · obtain rfl := keys.prefixUnique r₀ hold r' hold' ((hfirst r₀).symm.trans heq)
        exact absurd hk hne'
      · rw [keys.prefixUnique r₀ hold r₁ hold' ((hfirst r₀).symm.trans (heq.trans (hfirst r₁)))]

/-- An INSERT of a row whose prefix is not taken. -/
def insert (keys : PartnerKeys) (row : PartnerApiKey)
    (h : ∀ r ∈ keys.rows.rows, r.keyPrefix ≠ row.keyPrefix) :
    PartnerKeys where
  rows := keys.rows.insert row
  prefixUnique r hr r' hr' heq := by
    rcases Table.mem_of_mem_insert hr with hold | hrow
    · rcases Table.mem_of_mem_insert hr' with hold' | hrow'
      · exact keys.prefixUnique r hold r' hold' heq
      · exact absurd (hrow' ▸ heq) (h r hold)
    · rcases Table.mem_of_mem_insert hr' with hold' | hrow'
      · exact absurd (hrow ▸ heq.symm) (h r' hold')
      · exact hrow.trans hrow'.symm

section Operations

variable (cfg : KeyConfig) (now : Moment) (keys : PartnerKeys)

/-- `klh_live_…` or `klh_test_…`. -/
def plaintextOf (secret : KeySecret) : JsString :=
  literal (if cfg.production then "klh_live_" else "klh_test_") ++ secret.text

/-- The row of a new key. -/
def mintedRow (params : MintParams) (partnerId : PartnerId) (plaintext : JsString) : PartnerApiKey where
  id := keys.rows.fresh
  partnerId := partnerId
  name := params.name
  keyPrefix := plaintext.take PREFIX_LEN
  keyHash := cfg.sha256 plaintext
  scopes := params.scopes
  isActive := true
  lastUsedAt := none
  expiresAt := params.expiresAt
  revokedAt := none

/-- A new key. Its text is in the answer and nowhere else. -/
def mint (params : MintParams) (secret : KeySecret) : Except Failure (MintedKey × PartnerKeys) :=
  if params.scopes.contains .ssoCreate && decide (1 < params.scopes.length) then
    .error (.internal "Ключ с sso:create выпускается отдельно, без других прав")
  else
    let partnerCode := params.partnerCode.getD "kars-avia"
    match cfg.partnerByCode partnerCode with
    | none => .error (.internal ("Партнёр «" ++ partnerCode ++ "» не найден"))
    | some partnerId =>
      let plaintext := plaintextOf cfg secret
      let row := mintedRow cfg keys params partnerId plaintext
      if h : ∀ r ∈ keys.rows.rows, r.keyPrefix ≠ row.keyPrefix then
        .ok (⟨row.id, row.name, row.keyPrefix, row.scopes, plaintext⟩, keys.insert row h)
      else .error (.internal "Unique constraint failed")

/-- `findUnique({ where: { keyPrefix } })`. -/
def findByPrefix (keyPrefix : JsString) : Option PartnerApiKey :=
  keys.rows.rows.find? fun r => decide (r.keyPrefix = keyPrefix)

/-- The row of a key that is good: active, not revoked, not over, and of the same hash. -/
def goodRow (rawKey : JsString) : Option PartnerApiKey :=
  if !(literal "klh_").isPrefixOf rawKey || decide (rawKey.length < PREFIX_LEN) then none
  else
    (keys.findByPrefix (rawKey.take PREFIX_LEN)).filter fun r =>
      r.isActive && r.revokedAt.isNone && r.expiresAt.all (fun e => decide (now < e)) &&
        decide (r.keyHash = cfg.sha256 rawKey)

/-- Whom a key names; the time of its use is written down. -/
def verify (rawKey : Option JsString) : Option VerifiedPartner × PartnerKeys :=
  match rawKey.bind (goodRow cfg now keys) with
  | none => (none, keys)
  | some row => (some row.verified, keys.update row.id fun r => { r with lastUsedAt := some now })

def revoke (id : ℕ) : Except Failure PartnerKeys :=
  match keys.rows.find id with
  | none => .error (.internal "Record to update not found")
  | some _ => .ok (keys.update id fun r => { r with isActive := false, revokedAt := some now })

end Operations

/-! ## Runs -/

inductive KeyOp where
  | mint (params : MintParams) (secret : KeySecret)
  | verify (rawKey : Option JsString)
  | revoke (id : ℕ)
  deriving DecidableEq

/-- An operation at a moment. A refused one leaves the table. -/
def step (cfg : KeyConfig) (keys : PartnerKeys) (x : Moment × KeyOp) : PartnerKeys :=
  match x.2 with
  | .mint params secret => match mint cfg keys params secret with
    | .ok (_, keys') => keys'
    | .error _ => keys
  | .verify rawKey => (verify cfg x.1 keys rawKey).2
  | .revoke id => match revoke x.1 keys id with
    | .ok keys' => keys'
    | .error _ => keys

def run (cfg : KeyConfig) (ops : List (Moment × KeyOp)) : PartnerKeys := ops.foldl (step cfg) empty

end PartnerKeys

/-! ## The guard -/

inductive ConnectRoute where
  | syncDirectory | getDirectory | deactivateDispatcher | createSso | listHotels | registerHotel
  | activateHotel | getHotel | listRooms | availability | createReservation | getReservation
  | updateReservation | setReservationMeals | getReservationMeals | getFacts | checkIn | checkOut
  | putContractPrices | syncContractPrices | getContractPrices | getCabinet | inviteOwner
  | setReportsKey | getCorporateTariffs | getCorporateTariff | reviewCorporateTariff | getHistory
  | cancelReservation
  deriving DecidableEq, Repr

/-- `@RequireScopes`. -/
def ConnectRoute.requiredScopes : ConnectRoute → List PartnerKeyScope
  | syncDirectory => [.directoryWrite]
  | deactivateDispatcher | createSso => [.ssoCreate]
  | getDirectory | listHotels | getHotel | listRooms | getContractPrices | getCabinet
  | getCorporateTariffs | getCorporateTariff | getHistory => [.hotelsRead]
  | registerHotel | activateHotel | inviteOwner | setReportsKey => [.hotelsWrite]
  | availability => [.availabilityRead]
  | getReservation | getReservationMeals | getFacts => [.reservationsRead]
  | createReservation | updateReservation | setReservationMeals | checkIn | checkOut
  | cancelReservation => [.reservationsWrite]
  | putContractPrices | syncContractPrices => [.contractPricesWrite]
  | reviewCorporateTariff => [.corporateTariffReview]

/-- The headers a key may come in. -/
structure KeyHeaders where
  xApiKey : Option JsString
  authorization : Option JsString

/-- A letter in lower case, as far as `bearer ` is concerned. -/
def lowerLetter (u : UInt16) : UInt16 := if 65 ≤ u.toNat ∧ u.toNat ≤ 90 then u + 32 else u

def KeyHeaders.extractKey (h : KeyHeaders) : Option JsString :=
  match h.xApiKey.filter (· ≠ []) with
  | some header => some (JsText.trim header)
  | none =>
    (h.authorization.filter fun auth => (literal "bearer ").isPrefixOf (auth.map lowerLetter)).map
      fun auth => JsText.trim (auth.drop 7)

/-- What the guard says of a request to a route. -/
def PartnerApiKeyGuard.canActivate (cfg : KeyConfig) (now : Moment) (keys : PartnerKeys)
    (headers : KeyHeaders) (route : ConnectRoute) : Except Failure VerifiedPartner :=
  match (PartnerKeys.verify cfg now keys (headers.extractKey.filter (· ≠ []))).1 with
  | none => .error (.unauthorized "Invalid or missing partner API key")
  | some partner =>
    let required := route.requiredScopes
    let missing := required.filter fun s => !partner.scopes.contains s
    if missing ≠ [] then
      .error (.forbidden ("Partner key missing scope(s): " ++ ", ".intercalate (missing.map (·.text))))
    else if required.contains .ssoCreate && decide (1 < partner.scopes.length) then
      .error (.forbidden "Вход диспетчеров — только отдельным ключом (sso:create без других прав)")
    else .ok partner

/-! ## What a row keeps -/

/-- The row, but for what revoking and using a key change. -/
def PartnerApiKey.core (r : PartnerApiKey) : PartnerApiKey :=
  { r with isActive := true, lastUsedAt := none, revokedAt := none }

/-- A key that nobody has revoked. -/
def PartnerApiKey.Live (r : PartnerApiKey) : Prop := r.isActive = true ∧ r.revokedAt = none

namespace PartnerKeys

variable {cfg : KeyConfig} {now : Moment} {keys keys' : PartnerKeys}

theorem mint_ok {params : MintParams} {secret : KeySecret} {minted : MintedKey}
    (h : mint cfg keys params secret = .ok (minted, keys')) :
    ∃ partnerId, cfg.partnerByCode (params.partnerCode.getD "kars-avia") = some partnerId ∧
      ∃ hnew, keys' = keys.insert (mintedRow cfg keys params partnerId (plaintextOf cfg secret)) hnew ∧
        minted = ⟨keys.rows.fresh, params.name, (plaintextOf cfg secret).take PREFIX_LEN, params.scopes,
          plaintextOf cfg secret⟩ := by
  unfold mint at h
  split_ifs at h with hsso
  dsimp only at h
  cases hp : cfg.partnerByCode (params.partnerCode.getD "kars-avia") with
  | none => simp [hp] at h
  | some partnerId =>
    rw [hp] at h
    dsimp only at h
    split_ifs at h with hnew
    cases h
    exact ⟨partnerId, rfl, hnew, rfl, rfl⟩

theorem mem_insert {row : PartnerApiKey} {hnew} {r : PartnerApiKey} (hid : row.id = keys.rows.fresh) :
    r ∈ (keys.insert row hnew).rows ↔ r ∈ keys.rows ∨ r = row := by
  refine Table.mem_insert ?_
  rw [hid]
  exact keys.rows.find_fresh

theorem mem_update {id : ℕ} {f : PartnerApiKey → PartnerApiKey} {hid hfirst} {r : PartnerApiKey} :
    r ∈ (keys.update id f hid hfirst).rows ↔
      ∃ r₀ ∈ keys.rows, r = if r₀.id = id then f r₀ else r₀ := by
  have hrows : r ∈ keys.rows.modify id f hid ↔ r ∈ keys.rows ∧ r.id ≠ id ∨
      ∃ r₀ ∈ keys.rows, r₀.id = id ∧ r = f r₀ := Table.mem_modify
  refine hrows.trans ⟨?_, ?_⟩
  · rintro (⟨hr, hne⟩ | ⟨r₀, hr₀, hk, rfl⟩)
    · exact ⟨r, hr, (if_neg hne).symm⟩
    · exact ⟨r₀, hr₀, (if_pos hk).symm⟩
  · rintro ⟨r₀, hr₀, rfl⟩
    by_cases hk : r₀.id = id
    · exact Or.inr ⟨r₀, hr₀, hk, if_pos hk⟩
    · rw [if_neg hk]
      exact Or.inl ⟨hr₀, hk⟩

/-- **What an operation does to a row**: it keeps all but the use and the revocation, and the row is
revoked exactly by the revocation of its number. -/
theorem step_row (x : Moment × KeyOp) {r : PartnerApiKey} (hr : r ∈ keys.rows) :
    ∃ r' ∈ (step cfg keys x).rows, r'.core = r.core ∧ (r'.Live ↔ r.Live ∧ x.2 ≠ .revoke r.id) := by
  obtain ⟨t, op⟩ := x
  cases op with
  | mint params secret =>
    refine ⟨r, ?_, rfl, by simp⟩
    cases hm : mint cfg keys params secret with
    | error e => simpa only [step, hm] using hr
    | ok y =>
      obtain ⟨minted, keys'⟩ := y
      obtain ⟨partnerId, _, hnew, rfl, _⟩ := mint_ok hm
      simp only [step, hm]
      exact (mem_insert rfl).mpr (Or.inl hr)
  | verify rawKey =>
    cases hg : rawKey.bind (goodRow cfg t keys) with
    | none => exact ⟨r, by simpa only [step, verify, hg] using hr, rfl, by simp⟩
    | some row =>
      refine ⟨if r.id = row.id then { r with lastUsedAt := some t } else r, ?_, ?_, ?_⟩
      · simp only [step, verify, hg]
        exact mem_update.mpr ⟨r, hr, rfl⟩
      · split_ifs <;> rfl
      · split_ifs <;> simp [PartnerApiKey.Live]
  | revoke id =>
    cases hf : keys.rows.find id with
    | none =>
      have hne : id ≠ r.id := fun h => Table.find_eq_none.mp hf r hr h.symm
      exact ⟨r, by simpa only [step, revoke, hf] using hr, rfl, by simp [hne]⟩
    | some row =>
      refine ⟨if r.id = id then { r with isActive := false, revokedAt := some t } else r, ?_, ?_, ?_⟩
      · simp only [step, revoke, hf]
        exact mem_update.mpr ⟨r, hr, rfl⟩
      · split_ifs <;> rfl
      · split_ifs with hk
        · simp [PartnerApiKey.Live, hk]
        · simp [PartnerApiKey.Live, Ne.symm hk]

/-- **Where a row comes from**: it was there, or it is the row of a key minted by the operation. -/
theorem step_origin {x : Moment × KeyOp} {r' : PartnerApiKey} (hr' : r' ∈ (step cfg keys x).rows) :
    (∃ r ∈ keys.rows, r'.core = r.core) ∨ ∃ params secret minted partnerId, x.2 = .mint params secret ∧
      mint cfg keys params secret = .ok (minted, step cfg keys x) ∧
      cfg.partnerByCode (params.partnerCode.getD "kars-avia") = some partnerId ∧
      r' = mintedRow cfg keys params partnerId (plaintextOf cfg secret) := by
  obtain ⟨t, op⟩ := x
  cases op with
  | mint params secret =>
    cases hm : mint cfg keys params secret with
    | error e =>
      simp only [step, hm] at hr'
      exact Or.inl ⟨r', hr', rfl⟩
    | ok y =>
      obtain ⟨minted, keys'⟩ := y
      obtain ⟨partnerId, hp, hnew, rfl, hminted⟩ := mint_ok hm
      simp only [step, hm] at hr' ⊢
      rcases (mem_insert rfl).mp hr' with hold | hrow
      · exact Or.inl ⟨r', hold, rfl⟩
      · exact Or.inr ⟨params, secret, minted, partnerId, rfl, hm, hp, hrow⟩
  | verify rawKey =>
    cases hg : rawKey.bind (goodRow cfg t keys) with
    | none =>
      simp only [step, verify, hg] at hr'
      exact Or.inl ⟨r', hr', rfl⟩
    | some row =>
      simp only [step, verify, hg] at hr'
      obtain ⟨r, hr, rfl⟩ := mem_update.mp hr'
      exact Or.inl ⟨r, hr, by split_ifs <;> rfl⟩
  | revoke id =>
    cases hf : keys.rows.find id with
    | none =>
      simp only [step, revoke, hf] at hr'
      exact Or.inl ⟨r', hr', rfl⟩
    | some row =>
      simp only [step, revoke, hf] at hr'
      obtain ⟨r, hr, rfl⟩ := mem_update.mp hr'
      exact Or.inl ⟨r, hr, by split_ifs <;> rfl⟩

/-! ## What a run keeps -/

theorem run_append (ops ops' : List (Moment × KeyOp)) :
    run cfg (ops ++ ops') = ops'.foldl (step cfg) (run cfg ops) := List.foldl_append ..

/-- **A row through a run**: it is still there, and stands unless its number was revoked. -/
theorem foldl_row (ops : List (Moment × KeyOp)) {r : PartnerApiKey} (hr : r ∈ keys.rows) :
    ∃ r' ∈ (ops.foldl (step cfg) keys).rows, r'.core = r.core ∧
      (r'.Live ↔ r.Live ∧ ∀ t, (t, .revoke r.id) ∉ ops) := by
  induction ops generalizing keys r with
  | nil => exact ⟨r, hr, rfl, by simp⟩
  | cons x ops ih =>
    obtain ⟨r₁, hr₁, hcore, hlive⟩ := step_row x hr
    obtain ⟨r', hr', hcore', hlive'⟩ := ih hr₁
    have hid : r₁.core.id = r.core.id := congrArg PartnerApiKey.id hcore
    change r₁.id = r.id at hid
    refine ⟨r', hr', hcore'.trans hcore, ?_⟩
    rw [hlive', hlive, hid, and_assoc]
    refine and_congr_right fun _ => ?_
    constructor
    · rintro ⟨hne, hops⟩ t hmem
      rcases List.mem_cons.mp hmem with rfl | hmem
      · exact hne rfl
      · exact hops t hmem
    · intro h
      refine ⟨fun heq => h x.1 ?_, fun t hmem => h t (List.mem_cons_of_mem _ hmem)⟩
      rw [← heq]
      exact List.mem_cons_self

/-- The minting of a key, in a run of operations. -/
structure Minting (cfg : KeyConfig) (ops : List (Moment × KeyOp)) where
  before : List (Moment × KeyOp)
  at_ : Moment
  params : MintParams
  secret : KeySecret
  after : List (Moment × KeyOp)
  minted : MintedKey
  partnerId : PartnerId
  ops_eq : ops = before ++ (at_, .mint params secret) :: after
  ok : mint cfg (run cfg before) params secret =
    .ok (minted, step cfg (run cfg before) (at_, .mint params secret))
  partner : cfg.partnerByCode (params.partnerCode.getD "kars-avia") = some partnerId

namespace Minting

variable {ops : List (Moment × KeyOp)}

/-- The row the minting made. -/
def row (m : Minting cfg ops) : PartnerApiKey :=
  mintedRow cfg (run cfg m.before) m.params m.partnerId (plaintextOf cfg m.secret)

theorem minted_eq (m : Minting cfg ops) : m.minted =
    ⟨m.row.id, m.params.name, m.row.keyPrefix, m.params.scopes, plaintextOf cfg m.secret⟩ := by
  obtain ⟨_, _, _, _, h⟩ := mint_ok m.ok
  exact h

/-- The minting in a longer run. -/
def extend (m : Minting cfg ops) (x : Moment × KeyOp) : Minting cfg (ops ++ [x]) :=
  { m with
    after := m.after ++ [x]
    ops_eq := (congrArg (· ++ [x]) m.ops_eq).trans (List.append_assoc ..) }

/-- The row of a minting is in the table, as it was made, and stands unless it was revoked since. -/
theorem exists_row (m : Minting cfg ops) : ∃ r ∈ (run cfg ops).rows, r.core = m.row.core ∧
    (r.Live ↔ ∀ t, (t, .revoke m.minted.id) ∉ m.after) := by
  obtain ⟨partnerId, hp, hnew, hkeys, hminted⟩ := mint_ok m.ok
  obtain rfl : partnerId = m.partnerId := Option.some.inj (hp.symm.trans m.partner)
  have hrow : m.row ∈ (step cfg (run cfg m.before) (m.at_, .mint m.params m.secret)).rows := by
    rw [hkeys]
    exact (mem_insert rfl).mpr (Or.inr rfl)
  obtain ⟨r, hr, hcore, hlive⟩ := foldl_row m.after hrow
  refine ⟨r, ?_, hcore, ?_⟩
  · rw [m.ops_eq, run_append]
    exact hr
  · rw [hlive, m.minted_eq]
    exact and_iff_right ⟨rfl, rfl⟩

end Minting

/-- **Every row was minted**, and says what it was minted with. -/
theorem exists_minting (ops : List (Moment × KeyOp)) :
    ∀ r ∈ (run cfg ops).rows, ∃ m : Minting cfg ops, r.core = m.row.core := by
  induction ops using List.reverseRecOn with
  | nil => exact fun r hr => absurd hr (Table.not_mem_empty r)
  | append_singleton ops x ih =>
    intro r hr
    rw [run_append] at hr
    rcases step_origin hr with ⟨r₀, hr₀, hcore⟩ | ⟨params, secret, minted, partnerId, hx, hm, hp, hrow⟩
    · obtain ⟨m, hm⟩ := ih r₀ hr₀
      exact ⟨m.extend x, hcore.trans hm⟩
    · obtain ⟨t, op⟩ := x
      obtain rfl : op = .mint params secret := hx
      exact ⟨⟨ops, t, params, secret, [], minted, partnerId, rfl, hm, hp⟩, congrArg _ hrow⟩

/-! ## The key -/

theorem goodRow_eq_some {rawKey : JsString} {r : PartnerApiKey} :
    goodRow cfg now keys rawKey = some r ↔
      (r ∈ keys.rows ∧ r.keyPrefix = rawKey.take PREFIX_LEN) ∧ r.Live ∧
        (∀ e, r.expiresAt = some e → now < e) ∧ r.keyHash = cfg.sha256 rawKey ∧
          literal "klh_" <+: rawKey ∧ PREFIX_LEN ≤ rawKey.length := by
  have hfind : keys.findByPrefix (rawKey.take PREFIX_LEN) = some r ↔
      r ∈ keys.rows ∧ r.keyPrefix = rawKey.take PREFIX_LEN := by
    constructor
    · intro h
      exact ⟨List.mem_of_find?_eq_some h, by simpa using List.find?_some h⟩
    · rintro ⟨hr, hfirst⟩
      cases hf : keys.findByPrefix (rawKey.take PREFIX_LEN) with
      | none =>
        have hne := List.find?_eq_none.mp hf r hr
        simp only [decide_eq_true_eq] at hne
        exact absurd hfirst hne
      | some r' =>
        have hr' : r' ∈ keys.rows := List.mem_of_find?_eq_some hf
        have hp' : r'.keyPrefix = rawKey.take PREFIX_LEN := by simpa using List.find?_some hf
        rw [keys.prefixUnique r' hr' r hr (hp'.trans hfirst.symm)]
  unfold goodRow
  split_ifs with hbad
  · simp only [Bool.or_eq_true, Bool.not_eq_true', decide_eq_true_eq] at hbad
    refine ⟨fun h => (nomatch h), ?_⟩
    rintro ⟨_, _, _, _, hklh, hlen⟩
    rcases hbad with hbad | hbad
    · rw [List.isPrefixOf_iff_prefix.mpr hklh] at hbad
      cases hbad
    · exact absurd hlen (Nat.not_le.mpr hbad)
  · simp only [Bool.or_eq_true, Bool.not_eq_true', decide_eq_true_eq, not_or, Bool.not_eq_false,
      List.isPrefixOf_iff_prefix, Nat.not_lt] at hbad
    rw [Option.filter_eq_some_iff, hfind]
    simp only [Bool.and_eq_true, decide_eq_true_eq, Option.all_eq_true, Option.isNone_iff_eq_none,
      PartnerApiKey.Live, hbad, and_true, and_assoc]

theorem verify_eq_some {rawKey : JsString} {v : VerifiedPartner} :
    (verify cfg now keys (some rawKey)).1 = some v ↔
      ∃ r, goodRow cfg now keys rawKey = some r ∧ v = r.verified := by
  unfold verify
  rw [Option.bind_some]
  cases goodRow cfg now keys rawKey with
  | none => simp
  | some row => simp [eq_comm]

/-- What is stored of the text of a key begins alike, and is as long as it should be. -/
theorem plaintextOf_spec (secret : KeySecret) :
    literal "klh_" <+: (plaintextOf cfg secret).take PREFIX_LEN ∧
      ((plaintextOf cfg secret).take PREFIX_LEN).length = PREFIX_LEN := by
  obtain ⟨tail, htag, hlen⟩ : ∃ tail, literal (if cfg.production then "klh_live_" else "klh_test_") =
      literal "klh_" ++ tail ∧ tail.length = 5 := by
    cases cfg.production
    · exact ⟨literal "test_", by decide, by decide⟩
    · exact ⟨literal "live_", by decide, by decide⟩
  have hklh : (literal "klh_").length = 4 := by decide
  have hsecret := secret.length
  unfold plaintextOf PREFIX_LEN
  rw [htag, List.append_assoc]
  refine ⟨?_, ?_⟩
  · rw [List.take_append, List.take_of_length_le (by omega)]
    exact List.prefix_append ..
  · rw [List.length_take, List.length_append, List.length_append]
    omega

namespace Minting

variable {ops : List (Moment × KeyOp)}

/-- The partner a key of this minting names. -/
def verified (m : Minting cfg ops) : VerifiedPartner :=
  ⟨m.minted.id, m.params.name, m.params.scopes, m.partnerId⟩

theorem verified_of_core {m : Minting cfg ops} {r : PartnerApiKey} (h : r.core = m.row.core) :
    r.verified = m.verified := by
  have hv : r.core.verified = m.row.core.verified := congrArg PartnerApiKey.verified h
  change r.verified = m.row.verified at hv
  rw [hv, verified, m.minted_eq]
  rfl

theorem live_iff {m : Minting cfg ops} {r : PartnerApiKey} (hr : r ∈ (run cfg ops).rows)
    (h : r.core = m.row.core) : r.Live ↔ ∀ t, (t, .revoke m.minted.id) ∉ m.after := by
  obtain ⟨r', hr', hcore, hlive⟩ := m.exists_row
  have hid : r.core.id = r'.core.id := congrArg PartnerApiKey.id (h.trans hcore.symm)
  rw [Table.eq_of_key hr hr' hid]
  exact hlive

end Minting

/-- **A key is good** after any operations exactly if one of them minted it, none since revoked it,
and it is not over; and it names what it was minted with. Of the key that was minted it has the
first characters and the hash. -/
theorem verify_iff (cfg : KeyConfig) (ops : List (Moment × KeyOp)) (now : Moment) (rawKey : JsString)
    (v : VerifiedPartner) : (verify cfg now (run cfg ops) (some rawKey)).1 = some v ↔
      ∃ m : Minting cfg ops, m.minted.keyPrefix = rawKey.take PREFIX_LEN ∧
        cfg.sha256 m.minted.plaintext = cfg.sha256 rawKey ∧
        (∀ t, (t, .revoke m.minted.id) ∉ m.after) ∧
        (∀ e, m.params.expiresAt = some e → now < e) ∧ v = m.verified := by
  constructor
  · intro h
    obtain ⟨r, hgood, rfl⟩ := verify_eq_some.mp h
    obtain ⟨⟨hr, hfirst⟩, hlive, hexp, hhash, _⟩ := goodRow_eq_some.mp hgood
    obtain ⟨m, hm⟩ := exists_minting ops r hr
    have hfirst' : r.core.keyPrefix = m.row.core.keyPrefix := congrArg PartnerApiKey.keyPrefix hm
    have hhash' : r.core.keyHash = m.row.core.keyHash := congrArg PartnerApiKey.keyHash hm
    have hexp' : r.core.expiresAt = m.row.core.expiresAt := congrArg PartnerApiKey.expiresAt hm
    refine ⟨m, ?_, ?_, (Minting.live_iff hr hm).mp hlive, ?_, Minting.verified_of_core hm⟩
    · rw [m.minted_eq]
      exact hfirst'.symm.trans hfirst
    · rw [m.minted_eq]
      exact hhash'.symm.trans hhash
    · exact fun e he => hexp e (hexp'.trans he)
  · rintro ⟨m, hfirst, hhash, hlive, hexp, rfl⟩
    obtain ⟨r, hr, hm, hlive'⟩ := m.exists_row
    have hfirst' : r.core.keyPrefix = m.row.core.keyPrefix := congrArg PartnerApiKey.keyPrefix hm
    have hhash' : r.core.keyHash = m.row.core.keyHash := congrArg PartnerApiKey.keyHash hm
    have hexp' : r.core.expiresAt = m.row.core.expiresAt := congrArg PartnerApiKey.expiresAt hm
    rw [m.minted_eq] at hfirst hhash
    obtain ⟨hklh, hlen⟩ := @plaintextOf_spec cfg m.secret
    have hraw : (plaintextOf cfg m.secret).take PREFIX_LEN = rawKey.take PREFIX_LEN := hfirst
    rw [hraw] at hklh hlen
    refine verify_eq_some.mpr ⟨r, goodRow_eq_some.mpr ⟨⟨hr, ?_⟩, ?_, ?_, ?_, ?_⟩,
      (Minting.verified_of_core hm).symm⟩
    · exact hfirst'.trans hfirst
    · exact hlive'.mpr hlive
    · exact fun e he => hexp e (hexp'.symm.trans he)
    · exact hhash'.trans hhash
    · exact ⟨hklh.trans (List.take_prefix ..), by rw [← hlen]; exact List.length_take_le' ..⟩

theorem verify_verify {ops ops' : List (Moment × KeyOp)} {now now' : Moment} {rawKey : JsString}
    {v v' : VerifiedPartner} (h : (verify cfg now (run cfg ops) (some rawKey)).1 = some v)
    (h' : (verify cfg now' (run cfg (ops ++ ops')) (some rawKey)).1 = some v') : v = v' := by
  obtain ⟨r, hgood, rfl⟩ := verify_eq_some.mp h
  obtain ⟨r', hgood', rfl⟩ := verify_eq_some.mp h'
  obtain ⟨⟨hr, hfirst⟩, _⟩ := goodRow_eq_some.mp hgood
  obtain ⟨⟨hr', hfirst'⟩, _⟩ := goodRow_eq_some.mp hgood'
  obtain ⟨r₁, hr₁, hcore, _⟩ := foldl_row ops' hr
  rw [← run_append] at hr₁
  have hsame : r₁.core.keyPrefix = r.core.keyPrefix := congrArg PartnerApiKey.keyPrefix hcore
  obtain rfl := (run cfg (ops ++ ops')).prefixUnique r₁ hr₁ r' hr'
    (hsame.trans (hfirst.trans hfirst'.symm))
  exact (congrArg PartnerApiKey.verified hcore).symm

end PartnerKeys

/-! ## What a key opens -/

section Guard

variable {cfg : KeyConfig} {now : Moment} {keys : PartnerKeys} {headers : KeyHeaders}

theorem requiredScopes_eq (route : ConnectRoute) : ∃ s, route.requiredScopes = [s] := by
  cases route <;> exact ⟨_, rfl⟩

theorem canActivate_ok {route : ConnectRoute} {partner : VerifiedPartner}
    (h : PartnerApiKeyGuard.canActivate cfg now keys headers route = .ok partner) :
    (PartnerKeys.verify cfg now keys (headers.extractKey.filter (· ≠ []))).1 = some partner ∧
      (∀ s ∈ route.requiredScopes, s ∈ partner.scopes) ∧
      (.ssoCreate ∈ route.requiredScopes → partner.scopes.length ≤ 1) := by
  unfold PartnerApiKeyGuard.canActivate at h
  cases hv : (PartnerKeys.verify cfg now keys (headers.extractKey.filter (· ≠ []))).1 with
  | none => simp only [hv, reduceCtorEq] at h
  | some p =>
    simp only [hv] at h
    split_ifs at h with hmissing hsso
    cases h
    rw [not_not, List.filter_eq_nil_iff] at hmissing
    refine ⟨rfl, fun s hs => ?_, fun hreq => ?_⟩
    · simpa using hmissing s hs
    · by_contra hlen
      exact hsso (by simpa [hreq] using hlen)

/-- What a route asks for is among what the key has; all of it, for the entry of dispatchers. -/
theorem sso_scopes {route : ConnectRoute} {partner : VerifiedPartner}
    (h : PartnerApiKeyGuard.canActivate cfg now keys headers route = .ok partner) :
    .ssoCreate ∈ route.requiredScopes ↔ partner.scopes = [.ssoCreate] := by
  obtain ⟨_, hscopes, hlen⟩ := canActivate_ok h
  obtain ⟨s, hs⟩ := requiredScopes_eq route
  constructor
  · intro hreq
    obtain ⟨x, hx⟩ : ∃ x, partner.scopes = [x] := by
      have hpos : 0 < partner.scopes.length := List.length_pos_of_mem (hscopes _ hreq)
      exact List.length_eq_one_iff.mp (Nat.le_antisymm (hlen hreq) hpos)
    have hmem := hscopes _ hreq
    rw [hx, List.mem_singleton] at hmem
    rw [hx, hmem]
  · intro hone
    have hmem := hscopes s (by rw [hs]; exact List.mem_singleton.mpr rfl)
    rw [hone, List.mem_singleton] at hmem
    rw [hs, hmem]
    exact List.mem_singleton.mpr rfl

/-- **The entry of dispatchers has a key of its own**: a key names the same partner with the same
rights whenever it is let in, and no key that is ever let into an entry of dispatchers is ever let
into anything else. -/
theorem sso_key_alone (cfg : KeyConfig) (ops ops' : List (Moment × PartnerKeys.KeyOp))
    (now now' : Moment) (headers headers' : KeyHeaders) (route route' : ConnectRoute)
    (partner partner' : VerifiedPartner) (hkey : headers.extractKey = headers'.extractKey)
    (h : PartnerApiKeyGuard.canActivate cfg now (PartnerKeys.run cfg ops) headers route = .ok partner)
    (h' : PartnerApiKeyGuard.canActivate cfg now' (PartnerKeys.run cfg (ops ++ ops')) headers' route' =
      .ok partner') :
    partner = partner' ∧
      (.ssoCreate ∈ route.requiredScopes ↔ .ssoCreate ∈ route'.requiredScopes) := by
  have hsame : partner = partner' := by
    have hv := (canActivate_ok h).1
    have hv' := (canActivate_ok h').1
    rw [← hkey] at hv'
    cases hraw : headers.extractKey.filter (· ≠ []) with
    | none =>
      rw [hraw] at hv
      cases hv
    | some rawKey =>
      rw [hraw] at hv hv'
      exact PartnerKeys.verify_verify hv hv'
  exact ⟨hsame, by rw [sso_scopes h, sso_scopes h', hsame]⟩

/-- One key, let into the entry of dispatchers by one header and, later, by the other. -/
theorem sso_key_alone_two :
    let cfg : KeyConfig := ⟨id, fun code => if code = "kars-avia" then some 1 else none, false⟩
    let secret : KeySecret := ⟨List.replicate 32 65, rfl⟩
    let ops : List (Moment × PartnerKeys.KeyOp) := [(0, .mint ⟨"Avia", [.ssoCreate], none, none⟩ secret)]
    let raw := literal "klh_test_" ++ secret.text
    (PartnerApiKeyGuard.canActivate cfg 1 (PartnerKeys.run cfg ops) ⟨some raw, none⟩
        .createSso).toOption.isSome ∧
      (.ssoCreate ∈ ConnectRoute.createSso.requiredScopes ↔
        .ssoCreate ∈ ConnectRoute.deactivateDispatcher.requiredScopes) := by
  intro cfg secret ops raw
  refine ⟨by decide +kernel, ?_⟩
  exact (sso_key_alone cfg ops [(2, .verify (some raw))] 1 3 ⟨some raw, none⟩
    ⟨none, some (literal "Bearer " ++ raw)⟩ .createSso .deactivateDispatcher ⟨1, "Avia", [.ssoCreate], 1⟩
    ⟨1, "Avia", [.ssoCreate], 1⟩ (by decide +kernel) (by decide +kernel) (by decide +kernel)).2

end Guard

end KarsHotel
