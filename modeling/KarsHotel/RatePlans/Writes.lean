import KarsHotel.Lib.Run
import KarsHotel.RatePlans.Service

/-!
# What a call does to the rate plans

* `Admitted`: what the checks of the service and of the table say of a row that was written;
* **`RatePlanOp.exec_cases`**: a call inserts a row, rewrites one, or deletes one and frees its
  children;
* `RatePlanOp.keeps`, `RatePlanOp.run_keeps`: what every such change keeps holds after any sequence.
-/

namespace KarsHotel

open RatePlansService

/-- What the checks say of a row written among others. -/
structure Admitted (own : DirectoryOwners) (elsewhere : RatePlanId → Bool)
    (plans : Table RatePlan.id) (p : RatePlan) : Prop where
  check : scopeCheck p = true
  apart : ∀ o ∈ plans, o.id ≠ p.id → scopeClash p o = false
  parent : ∀ q, p.parentRatePlanId = some q → (plans.find q).isSome ∨ elsewhere q = true
  account : ∀ a, p.partnerAccountId = some a → p.partnerId = some (own.account a)
  customer : ∀ c, p.partnerCustomerId = some c → p.partnerId = some (own.customer c)

/-- The plans without one, its children freed. -/
def withoutPlan (plans : Table RatePlan.id) (id : RatePlanId) : Table RatePlan.id :=
  (plans.remove fun p => p.id = id).map (orphan id) (orphan_id id)

/-- The changes a call can make. -/
inductive PlanChange (own : DirectoryOwners) (elsewhere : RatePlanId → Bool)
    (plans : Table RatePlan.id) : RatePlanOp → Table RatePlan.id → Prop where
  | created (dir : PartnerDirectory) (id : RatePlanId) (dto : CreateRatePlanDto)
    (scope : PartnerScope) (hfree : plans.find id = none) (hid : elsewhere id = false)
    (h : Admitted own elsewhere plans (newPlan id dto scope)) :
    PlanChange own elsewhere plans (.create dir id dto) (plans.insert (newPlan id dto scope))
  | updated (dir : PartnerDirectory) (id : RatePlanId) (dto : UpdateRatePlanDto)
    (scope : PartnerScope) (before : RatePlan) (hbefore : plans.find id = some before)
    (hself : ¬dto.NamesItself id)
    (h : Admitted own elsewhere plans (patchPlan dto scope before)) :
    PlanChange own elsewhere plans (.update dir id dto) (plans.modify id (patchPlan dto scope))
  | removed (id : RatePlanId) :
    PlanChange own elsewhere plans (.remove id) (withoutPlan plans id)

section Calls

variable {own : DirectoryOwners} {elsewhere : RatePlanId → Bool} {dir : PartnerDirectory}
  {plans plans' : Table RatePlan.id}

theorem partnerScope_ok {dto : RatePlanFields} {before scope : PartnerScope}
    (h : partnerScope own dir dto before = .ok scope) :
    (∀ a, scope.partnerAccountId = some a → scope.partnerId = some (own.account a)) ∧
      ∀ c, scope.partnerCustomerId = some c → scope.partnerId = some (own.customer c) := by
  unfold partnerScope at h
  cases hpick : pickPartner dir dto before with
  | none =>
    rw [hpick] at h
    cases h
    exact ⟨fun a ha => (Option.some_ne_none a ha.symm).elim,
      fun c hc => (Option.some_ne_none c hc.symm).elim⟩
  | some p =>
    rw [hpick] at h
    simp only at h
    split_ifs at h with hpartner haccount hcustomer
    cases h
    constructor
    · intro a ha
      have ha : dto.partnerAccountId.patch before.partnerAccountId = some a := ha
      rw [ha] at haccount
      simp only [Option.any_some, Bool.or_eq_true, Bool.not_eq_true', decide_eq_true_eq, not_or,
        not_not] at haccount
      exact congrArg some haccount.2.symm
    · intro c hc
      have hc : dto.partnerCustomerId.patch before.partnerCustomerId = some c := hc
      rw [hc] at hcustomer
      simp only [Option.any_some, Bool.or_eq_true, Bool.not_eq_true', decide_eq_true_eq, not_or,
        not_not] at hcustomer
      exact congrArg some hcustomer.2.symm

theorem constraints_ok {code : Field String} {p : RatePlan}
    (h : constraints elsewhere plans code p = .ok ()) :
    scopeCheck p = true ∧ (∀ o ∈ plans, o.id ≠ p.id → scopeClash p o = false) ∧
      ∀ q, p.parentRatePlanId = some q → (plans.find q).isSome ∨ elsewhere q = true := by
  unfold constraints at h
  split_ifs at h with hcheck hunique hparent
  refine ⟨by simpa using hcheck, fun o ho hne => ?_, fun q hq => ?_⟩
  · by_contra hclash
    refine hunique (List.any_eq_true.mpr ⟨o, ho, ?_⟩)
    have hclash : scopeClash p o = true := by simpa using hclash
    simp [hne, hclash]
  · rw [hq] at hparent
    simp only [Option.any_some, Bool.and_eq_true, Bool.not_eq_true', not_and_or,
      Bool.not_eq_false, Option.isNone_iff_eq_none] at hparent
    exact hparent.imp_left Option.isSome_iff_ne_none.mpr

theorem insertRow_ok {code : Field String} {p : RatePlan}
    (h : insertRow elsewhere plans code p = .ok plans') :
    plans.find p.id = none ∧ elsewhere p.id = false ∧
      constraints elsewhere plans code p = .ok () ∧ plans' = plans.insert p := by
  unfold insertRow at h
  split_ifs at h with hid
  simp only [Bool.or_eq_true, not_or, Bool.not_eq_true, Option.isSome_eq_false_iff,
    Option.isNone_iff_eq_none] at hid
  cases hc : constraints elsewhere plans code p with
  | error x => rw [hc] at h; cases h
  | ok u => rw [hc] at h; cases h; exact ⟨hid.1, hid.2, rfl, rfl⟩

theorem updateRow_ok {code : Field String} {id : RatePlanId} {before : RatePlan}
    {f : RatePlan → RatePlan} {hf : ∀ p, (f p).id = p.id} (hbefore : plans.find id = some before)
    (h : RatePlansService.updateRow elsewhere plans code id f hf = .ok plans') :
    constraints elsewhere plans code (f before) = .ok () ∧ plans' = plans.modify id f hf := by
  unfold RatePlansService.updateRow at h
  rw [hbefore] at h
  simp only at h
  cases hc : constraints elsewhere plans code (f before) with
  | error x => rw [hc] at h; cases h
  | ok u => rw [hc] at h; cases h; exact ⟨rfl, rfl⟩

/-- **What a call does.** -/
theorem RatePlanOp.exec_cases {op : RatePlanOp} (h : op.exec own elsewhere plans = .ok plans') :
    PlanChange own elsewhere plans op plans' := by
  cases op with
  | create dir id dto =>
    obtain ⟨scope, hscope, h⟩ := bind_ok_iff.mp h
    obtain ⟨_, -, h⟩ := bind_ok_iff.mp h
    obtain ⟨_, -, h⟩ := bind_ok_iff.mp h
    obtain ⟨hfree, hid, hc, rfl⟩ := insertRow_ok h
    obtain ⟨hcheck, hapart, hparent⟩ := constraints_ok hc
    obtain ⟨haccount, hcustomer⟩ := partnerScope_ok hscope
    exact .created dir id dto scope hfree hid ⟨hcheck, hapart, hparent, haccount, hcustomer⟩
  | update dir id dto =>
    unfold RatePlanOp.exec RatePlansService.update at h
    simp only at h
    split_ifs at h with hself
    cases hbefore : plans.find id with
    | none => rw [hbefore] at h; cases h
    | some before =>
      rw [hbefore] at h
      obtain ⟨scope, hscope, h⟩ := bind_ok_iff.mp h
      obtain ⟨_, -, h⟩ := bind_ok_iff.mp h
      obtain ⟨_, -, h⟩ := bind_ok_iff.mp h
      obtain ⟨hc, rfl⟩ := updateRow_ok hbefore h
      obtain ⟨hcheck, hapart, hparent⟩ := constraints_ok hc
      obtain ⟨haccount, hcustomer⟩ := partnerScope_ok hscope
      exact .updated dir id dto scope before hbefore hself
        ⟨hcheck, hapart, hparent, haccount, hcustomer⟩
  | remove id =>
    unfold RatePlanOp.exec RatePlansService.remove deleteRow at h
    cases hfind : plans.find id with
    | none => simp only [hfind] at h; cases h
    | some p =>
      simp only [hfind] at h
      cases h
      exact .removed id

theorem RatePlanOp.keeps {I : Table RatePlan.id → Prop} (op : RatePlanOp)
    (hI : ∀ plans', I plans → PlanChange own elsewhere plans op plans' → I plans')
    (h : I plans) : I (op.step own elsewhere plans) := by
  unfold RatePlanOp.step
  cases hexec : op.exec own elsewhere plans with
  | error x => exact h
  | ok plans' => exact hI plans' h (exec_cases hexec)

theorem RatePlanOp.run_keeps {I : Table RatePlan.id → Prop} (hempty : I .empty)
    (hI : ∀ plans op plans', I plans → PlanChange own elsewhere plans op plans' → I plans')
    (ops : List RatePlanOp) : I (run own elsewhere ops) :=
  foldl_keeps_all (fun plans op => op.keeps fun plans' => hI plans op plans') ops hempty

/-- The rows after a change: rows that stayed, freed children, and the row written. -/
theorem PlanChange.mem {op : RatePlanOp} (h : PlanChange own elsewhere plans op plans')
    {r : RatePlan} (hr : r ∈ plans') :
    r ∈ plans ∨ (∃ r₀ ∈ plans, ∃ id, r = orphan id r₀) ∨ Admitted own elsewhere plans r := by
  cases h with
  | created dir id dto scope hfree hid hnew =>
    rcases Table.mem_of_mem_insert hr with hr | rfl
    · exact Or.inl hr
    · exact Or.inr (Or.inr hnew)
  | updated dir id dto scope before hbefore hself hnew =>
    rcases Table.mem_modify.mp hr with ⟨hr, -⟩ | ⟨r₀, hr₀, hid, rfl⟩
    · exact Or.inl hr
    · have heq : r₀ = before := by
        have hfind := Table.find_key hr₀
        rw [hid, hbefore] at hfind
        exact (Option.some.inj hfind).symm
      exact Or.inr (Or.inr (heq ▸ hnew))
  | removed id =>
    obtain ⟨r₀, hr₀, rfl⟩ := Table.mem_map.mp hr
    exact Or.inr (Or.inl ⟨r₀, (Table.mem_remove.mp hr₀).1, id, rfl⟩)

end Calls

end KarsHotel
