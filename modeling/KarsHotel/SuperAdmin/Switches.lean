import KarsHotel.Auth.Store

/-!
# The switches of the panel

Switching hotels and people on and off, and the archive of hotels.

* `toggleActive`, `archiveTenant`, `restoreTenant`, `toggleUserActive`: the operations;
* `SwitchDeed`: what they do to the directory, and `*_deed`: that each of them does that.
-/

namespace KarsHotel

def plural (n : ℕ) (one few many : String) : String :=
  let m10 := n % 10
  let m100 := n % 100
  if m10 = 1 ∧ m100 ≠ 11 then one
  else if 2 ≤ m10 ∧ m10 ≤ 4 ∧ (m100 < 12 ∨ m100 > 14) then few
  else many

def archivedHotel : Failure := .conflict "Гостиница в архиве удалённых — сначала восстановите её"

/-- The activity of a hotel, with its archive mark. -/
structure TenantActivity where
  isActive : Bool
  archivedAt : Option Moment
  archivedBy : Option UserId

def TenantActivity.apply (data : TenantActivity) (t : TenantRecord) : TenantRecord :=
  { t with isActive := data.isActive, archivedAt := data.archivedAt, archivedBy := data.archivedBy }

namespace Directory

variable (d : Directory)

/-- `UPDATE tenant`. -/
def updateTenant (id : TenantId) (data : TenantActivity) : Directory :=
  { d with tenants := d.tenants.modify id data.apply }

/-- A hotel of the panel: any but the platform. -/
def hotel (id : TenantId) : Option TenantRecord :=
  (d.tenants.find id).filter fun t => decide (t.slug ≠ "platform")

variable {d}

theorem mem_updateTenant {id : TenantId} {data : TenantActivity} {t' : TenantRecord} :
    t' ∈ (d.updateTenant id data).tenants ↔ t' ∈ d.tenants ∧ t'.id ≠ id ∨
      ∃ t ∈ d.tenants, t.id = id ∧ t' = data.apply t := by
  show t' ∈ d.tenants.modify id data.apply ↔ _
  exact Table.mem_modify

theorem hotel_eq_some {id : TenantId} {t : TenantRecord} :
    d.hotel id = some t ↔ t ∈ d.tenants ∧ t.id = id ∧ t.slug ≠ "platform" := by
  unfold hotel
  rw [Option.filter_eq_some_iff, Table.find_eq_some, decide_eq_true_eq, and_assoc]

end Directory

/-! ## The operations -/

section Switches

variable (now : Moment) (actor : UserId) (d : Directory)

def toggleActive (id : TenantId) : Except Failure Directory :=
  match d.hotel id with
  | none => .error (.notFound "Tenant not found")
  | some tenant =>
    if tenant.archivedAt.isSome then .error archivedHotel
    else .ok (d.updateTenant id ⟨!tenant.isActive, tenant.archivedAt, tenant.archivedBy⟩)

/-- `live` is how many live reservations the hotel has. -/
def archiveTenant (live : ℕ) (id : TenantId) : Except Failure Directory :=
  match d.hotel id with
  | none => .error (.notFound "Гостиница не найдена")
  | some tenant =>
    if tenant.archivedAt.isSome then .ok d
    else if live > 0 then
      .error (.conflict ("Гостиницу «" ++ tenant.name ++ "» нельзя удалить: у неё " ++ toString live ++
        " " ++ plural live "действующая бронь" "действующие брони" "действующих броней" ++ ". " ++
        "Дождитесь выезда или отмените их, затем удалите."))
    else .ok (d.updateTenant id ⟨false, some now, some actor⟩)

def restoreTenant (id : TenantId) : Except Failure Directory :=
  match d.hotel id with
  | none => .error (.notFound "Гостиница не найдена")
  | some tenant =>
    if tenant.archivedAt.isNone then .ok d else .ok (d.updateTenant id ⟨true, none, none⟩)

/-- People of hotels only, not of the platform. -/
def toggleUserActive (userId : UserId) : Except Failure Directory :=
  match (d.users.find userId).filter fun u => (d.hotel u.tenantId).isSome with
  | none => .error (.notFound "User not found")
  | some user => .ok (d.updateUser userId
      { isActive := some (!user.isActive, if user.isActive then some now else none) })

end Switches

/-! ## What they do -/

/-- A hotel that is archived is switched off. -/
def TenantActivity.Closed (data : TenantActivity) : Prop :=
  data.archivedAt.isSome = true → data.isActive = false

inductive SwitchDeed (d : Directory) : Directory → Prop
  | none : SwitchDeed d d
  | tenant (t : TenantRecord) (data : TenantActivity) (ht : d.hotel t.id = some t)
      (hclosed : data.Closed) : SwitchDeed d (d.updateTenant t.id data)
  | user (u : UserRow) (data : UserUpdateInput) (hu : u ∈ d.users) (hrole : data.roleId = .none) :
      SwitchDeed d (d.updateUser u.id data)

section Deeds

variable {now : Moment} {actor : UserId} {d d' : Directory}

theorem toggleActive_deed {id : TenantId} (h : toggleActive d id = .ok d') : SwitchDeed d d' := by
  unfold toggleActive at h
  cases hfind : d.hotel id with
  | none =>
    rw [hfind] at h
    cases h
  | some t =>
    rw [hfind] at h
    dsimp only at h
    split_ifs at h with harchived
    obtain rfl : t.id = id := (Directory.hotel_eq_some.mp hfind).2.1
    cases h
    exact .tenant t _ hfind fun hsome => absurd hsome harchived

theorem archiveTenant_deed {live : ℕ} {id : TenantId} (h : archiveTenant now actor d live id = .ok d') :
    SwitchDeed d d' := by
  unfold archiveTenant at h
  cases hfind : d.hotel id with
  | none =>
    rw [hfind] at h
    cases h
  | some t =>
    rw [hfind] at h
    dsimp only at h
    obtain rfl : t.id = id := (Directory.hotel_eq_some.mp hfind).2.1
    split_ifs at h with harchived hlive
    · cases h
      exact .none
    · cases h
      exact .tenant t _ hfind fun _ => rfl

theorem restoreTenant_deed {id : TenantId} (h : restoreTenant d id = .ok d') : SwitchDeed d d' := by
  unfold restoreTenant at h
  cases hfind : d.hotel id with
  | none =>
    rw [hfind] at h
    cases h
  | some t =>
    rw [hfind] at h
    dsimp only at h
    obtain rfl : t.id = id := (Directory.hotel_eq_some.mp hfind).2.1
    split_ifs at h
    · cases h
      exact .none
    · cases h
      exact .tenant t _ hfind nofun

theorem toggleUserActive_deed {userId : UserId} (h : toggleUserActive now d userId = .ok d') :
    SwitchDeed d d' := by
  unfold toggleUserActive at h
  cases hfind : (d.users.find userId).filter fun u => (d.hotel u.tenantId).isSome with
  | none =>
    rw [hfind] at h
    cases h
  | some u =>
    rw [hfind] at h
    obtain ⟨hfound, -⟩ := Option.filter_eq_some_iff.mp hfind
    obtain ⟨hmem, rfl⟩ := Table.find_eq_some.mp hfound
    cases h
    exact .user u _ hmem rfl

end Deeds

end KarsHotel
