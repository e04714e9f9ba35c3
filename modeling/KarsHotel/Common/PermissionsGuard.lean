import KarsHotel.Auth.Store

/-!
# The guard of permissions

* `AuthenticatedRequestUser`: who makes a request, read from the access token;
* `PermissionsGuard.canActivate`: an endpoint names the permissions it requires;
* `canActivate_ok_iff`: whom the guard lets through.
-/

namespace KarsHotel

/-- Who makes a request. -/
structure AuthenticatedRequestUser where
  userId : UserId
  tenantId : TenantId
  email : String
  roleCode : RoleCode
  permissions : List String
  isSuperAdmin : Bool
  impersonatedBy : Option UserId
  isDispatcher : Bool
  deriving DecidableEq, Repr

/-- `JwtStrategy.validate`. -/
def JwtAccessPayload.validate (payload : JwtAccessPayload) : AuthenticatedRequestUser where
  userId := payload.sub
  tenantId := payload.tid
  email := payload.email
  roleCode := payload.role
  permissions := payload.perms
  isSuperAdmin := payload.isa
  impersonatedBy := payload.imp
  isDispatcher := payload.disp

/-- The rule of the guard for one permission: super-admins hold every permission. -/
def AuthenticatedRequestUser.holds (user : AuthenticatedRequestUser) (code : String) : Bool :=
  user.isSuperAdmin || user.permissions.contains code

namespace PermissionsGuard

def permissionDenied (missing : List String) : Failure :=
  ⟨some 403, "Missing permissions: " ++ ", ".intercalate missing, some "PERMISSION_DENIED"⟩

/-- `required` are the permissions the endpoint asks for. -/
def canActivate (required : List String) (user : AuthenticatedRequestUser) : Except Failure Unit :=
  if required.length = 0 then .ok ()
  else if user.isSuperAdmin then .ok ()
  else
    let missing := required.filter fun p => !user.permissions.contains p
    if missing.length > 0 then .error (permissionDenied missing) else .ok ()

theorem canActivate_ok_iff {required : List String} {user : AuthenticatedRequestUser} :
    canActivate required user = .ok () ↔ ∀ code ∈ required, user.holds code = true := by
  unfold canActivate AuthenticatedRequestUser.holds
  by_cases hnone : required.length = 0
  · rw [if_pos hnone, List.length_eq_zero_iff.mp hnone]
    simp
  · rw [if_neg hnone]
    by_cases hadmin : user.isSuperAdmin = true
    · simp [hadmin]
    · have hfilter : (required.filter fun p => !user.permissions.contains p).length > 0 ↔
          ∃ p ∈ required, user.permissions.contains p = false := by
        rw [gt_iff_lt, List.length_pos_iff_exists_mem]
        simp
      rw [if_neg hadmin]
      show (if (required.filter fun p => !user.permissions.contains p).length > 0 then _ else _) = _ ↔ _
      by_cases hmissing : (required.filter fun p => !user.permissions.contains p).length > 0
      · obtain ⟨p, hp, hlacks⟩ := hfilter.mp hmissing
        rw [if_pos hmissing]
        refine ⟨nofun, fun h => ?_⟩
        have hholds := h p hp
        rw [hlacks, Bool.or_false] at hholds
        exact absurd hholds hadmin
      · rw [if_neg hmissing]
        refine ⟨fun _ code hcode => ?_, fun _ => rfl⟩
        by_contra hlacks
        have hboth : user.isSuperAdmin = false ∧ user.permissions.contains code = false := by
          simpa using hlacks
        exact hmissing (hfilter.mpr ⟨code, hcode, hboth.2⟩)

theorem canActivate_one {code : String} {user : AuthenticatedRequestUser} :
    canActivate [code] user = .ok () ↔ user.holds code = true := by
  rw [canActivate_ok_iff, List.forall_mem_singleton]

end PermissionsGuard

end KarsHotel
