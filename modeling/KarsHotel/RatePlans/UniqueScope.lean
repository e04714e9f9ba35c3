import KarsHotel.RatePlans.Writes

/-!
# One tariff for one request

* `AtMostOneActive`: no two active plans of one partner, the same conditions and meals;
* **`atMostOneActive_run`**: so it is after any sequence of calls;
* `sameConditions_of_specificity`: plans that fit one request and weigh the same have the same
  conditions;
* **`partnerPlans_unambiguous`**: what is taken for a request.
-/

namespace KarsHotel

open RatePlansService

/-! ## The plans of a hotel -/

/-- The same partner, conditions and meals; an empty condition is a value. -/
structure SameTerms (p o : RatePlan) : Prop where
  partner : p.partnerId = o.partnerId
  account : p.partnerAccountId = o.partnerAccountId
  customer : p.partnerCustomerId = o.partnerCustomerId
  kind : p.guestKind = o.guestKind
  meals : p.mealPlan = o.mealPlan

/-- Active plans of a partner with the same terms. -/
structure Rivals (p o : RatePlan) : Prop where
  partner : p.partnerId.isSome = true
  left : p.isActive = true
  right : o.isActive = true
  terms : SameTerms p o

/-- At most one active plan for each partner, account, customer, kind of guests and meals. -/
def AtMostOneActive (plans : List RatePlan) : Prop := plans.Pairwise fun p o => ¬ Rivals p o

theorem Rivals.symm {p o : RatePlan} (h : Rivals p o) : Rivals o p where
  partner := by rw [← h.terms.partner]; exact h.partner
  left := h.right
  right := h.left
  terms := ⟨h.terms.partner.symm, h.terms.account.symm, h.terms.customer.symm, h.terms.kind.symm,
    h.terms.meals.symm⟩

theorem scopeClash_iff {p o : RatePlan} : scopeClash p o = true ↔ Rivals p o := by
  unfold scopeClash
  simp only [Bool.and_eq_true, decide_eq_true_eq]
  constructor
  · rintro ⟨⟨⟨⟨⟨⟨⟨hs, hp⟩, ho⟩, hpartner⟩, haccount⟩, hcustomer⟩, hkind⟩, hmeals⟩
    exact ⟨hs, hp, ho, ⟨hpartner, haccount, hcustomer, hkind, hmeals⟩⟩
  · rintro ⟨hs, hp, ho, ⟨hpartner, haccount, hcustomer, hkind, hmeals⟩⟩
    exact ⟨⟨⟨⟨⟨⟨⟨hs, hp⟩, ho⟩, hpartner⟩, haccount⟩, hcustomer⟩, hkind⟩, hmeals⟩

theorem rivals_orphan {id id' : RatePlanId} {p o : RatePlan} :
    Rivals (orphan id p) (orphan id' o) ↔ Rivals p o :=
  ⟨fun h => ⟨h.partner, h.left, h.right, ⟨h.terms.partner, h.terms.account, h.terms.customer,
    h.terms.kind, h.terms.meals⟩⟩, fun h => ⟨h.partner, h.left, h.right, ⟨h.terms.partner,
    h.terms.account, h.terms.customer, h.terms.kind, h.terms.meals⟩⟩⟩

section Run

variable {own : DirectoryOwners} {elsewhere : RatePlanId → Bool}

/-- Different rows are no rivals. -/
def NoRivals (plans : Table RatePlan.id) : Prop :=
  ∀ p ∈ plans, ∀ o ∈ plans, p.id ≠ o.id → ¬ Rivals p o

theorem Admitted.noRival {plans : Table RatePlan.id} {p o : RatePlan}
    (h : Admitted own elsewhere plans p) (ho : o ∈ plans) (hne : o.id ≠ p.id) : ¬ Rivals p o := by
  intro hr
  have hapart := h.apart o ho hne
  rw [scopeClash_iff.mpr hr] at hapart
  cases hapart

/-- **One call.** A written row has no rival among the others, and freeing children makes none. -/
theorem NoRivals.change {plans plans' : Table RatePlan.id} {op : RatePlanOp} (h : NoRivals plans)
    (hc : PlanChange own elsewhere plans op plans') : NoRivals plans' := by
  intro p hp o ho hne
  cases hc with
  | created dir id dto scope hfree hid hnew =>
    rcases Table.mem_of_mem_insert hp with hp | rfl <;>
      rcases Table.mem_of_mem_insert ho with ho | rfl
    · exact h p hp o ho hne
    · exact fun hr => hnew.noRival hp hne hr.symm
    · exact hnew.noRival ho (Ne.symm hne)
    · exact absurd rfl hne
  | updated dir id dto scope before hbefore hself hnew =>
    obtain ⟨hmem, hid⟩ := Table.find_eq_some.mp hbefore
    have honly : ∀ r ∈ plans, r.id = id → r = before :=
      fun r hr hrid => Table.eq_of_key hr hmem (hrid.trans hid.symm)
    have hnewId : (patchPlan dto scope before).id = id := hid
    rcases Table.mem_modify.mp hp with ⟨hp, hpid⟩ | ⟨p₀, hp₀, hpid, rfl⟩ <;>
      rcases Table.mem_modify.mp ho with ⟨ho, hoid⟩ | ⟨o₀, ho₀, hoid, rfl⟩
    · exact h p hp o ho hne
    · rw [honly o₀ ho₀ hoid]
      exact fun hr => hnew.noRival hp (by rw [hnewId]; exact hpid) hr.symm
    · rw [honly p₀ hp₀ hpid]
      exact hnew.noRival ho (by rw [hnewId]; exact hoid)
    · exact absurd (hpid.trans hoid.symm) hne
  | removed id =>
    obtain ⟨p₀, hp₀, rfl⟩ := Table.mem_map.mp hp
    obtain ⟨o₀, ho₀, rfl⟩ := Table.mem_map.mp ho
    exact fun hr => h p₀ (Table.mem_remove.mp hp₀).1 o₀ (Table.mem_remove.mp ho₀).1 hne
      (rivals_orphan.mp hr)

/-- **At most one active plan**, after any sequence of calls. -/
theorem atMostOneActive_run (own : DirectoryOwners) (elsewhere : RatePlanId → Bool)
    (ops : List RatePlanOp) : AtMostOneActive (RatePlanOp.run own elsewhere ops).rows := by
  have hno : NoRivals (RatePlanOp.run own elsewhere ops) :=
    RatePlanOp.run_keeps (fun p hp => absurd hp (Table.not_mem_empty p))
      (fun _ _ _ h hc => h.change hc) ops
  have hnodup := (RatePlanOp.run own elsewhere ops).nodup
  refine (List.Nodup.of_map _ hnodup).pairwise_of_forall_ne fun p hp o ho hne => ?_
  exact hno p hp o ho fun hid => hne (Table.eq_of_key hp ho hid)

end Run

/-! ## The plans taken for a request -/

/-- What the rule reads of a plan. -/
def RatePlan.planScope (p : RatePlan) : PartnerPlanScope :=
  ⟨p.id, p.partnerId, p.partnerAccountId, p.partnerCustomerId, p.guestKind, p.isActive⟩

theorem conditionMet_iff {α : Type} [DecidableEq α] {c a : Option α} :
    conditionMet c a = true ↔ c = none ∨ c = a := by
  simp [conditionMet]

/-- Of conditions that a request meets, those set have the request's value. -/
theorem condition_eq {α : Type} [DecidableEq α] {c c' a : Option α} (h : conditionMet c a = true)
    (h' : conditionMet c' a = true) (hs : c.isSome = c'.isSome) : c = c' := by
  rcases conditionMet_iff.mp h with rfl | rfl
  · cases c' with
    | none => rfl
    | some x => cases hs
  · rcases conditionMet_iff.mp h' with rfl | rfl
    · cases c with
      | none => rfl
      | some x => cases hs
    · rfl

theorem bits_of_sum : ∀ a b c a' b' c' : Bool,
    (if a then 4 else 0) + (if b then 2 else 0) + (if c then 1 else 0) =
      (if a' then 4 else 0) + (if b' then 2 else 0) + (if c' then 1 else 0) →
      a = a' ∧ b = b' ∧ c = c' := by
  decide

/-- The weight tells which conditions are set. -/
theorem set_of_specificity {p o : PartnerPlanScope} (h : planSpecificity p = planSpecificity o) :
    p.partnerCustomerId.isSome = o.partnerCustomerId.isSome ∧
      p.partnerAccountId.isSome = o.partnerAccountId.isSome ∧
      p.guestKind.isSome = o.guestKind.isSome :=
  bits_of_sum _ _ _ _ _ _ h

/-- **Plans that fit one request and weigh the same have the same conditions.** -/
theorem sameConditions_of_specificity {p o : PartnerPlanScope} {q : PartnerPlanQuery}
    (hp : planMatches p q = true) (ho : planMatches o q = true)
    (h : planSpecificity p = planSpecificity o) :
    p.partnerAccountId = o.partnerAccountId ∧ p.partnerCustomerId = o.partnerCustomerId ∧
      p.guestKind = o.guestKind := by
  obtain ⟨hcustomer, haccount, hkind⟩ := set_of_specificity h
  simp only [planMatches, Bool.and_eq_true] at hp ho
  exact ⟨condition_eq hp.1.1.2 ho.1.1.2 haccount, condition_eq hp.1.2 ho.1.2 hcustomer,
    condition_eq hp.2 ho.2 hkind⟩

theorem pickPartnerPlans_ne_nil {T : Type} (scope : T → PartnerPlanScope) {plans : List T}
    {q : PartnerPlanQuery} {p : T} (hp : p ∈ plans) (hm : planMatches (scope p) q = true) :
    pickPartnerPlans scope plans q ≠ [] := by
  have hfit : p ∈ plans.filter fun p => planMatches (scope p) q := List.mem_filter.mpr ⟨hp, hm⟩
  unfold pickPartnerPlans
  cases hbest : ((plans.filter fun p => planMatches (scope p) q).map fun p =>
      planSpecificity (scope p)).max? with
  | none =>
    rw [List.max?_eq_none_iff, List.map_eq_nil_iff] at hbest
    rw [hbest] at hfit
    exact absurd hfit List.not_mem_nil
  | some best =>
    obtain ⟨o, ho, hspec⟩ := List.mem_map.mp (List.max?_mem hbest)
    refine List.ne_nil_of_mem (List.mem_filter.mpr ⟨ho, ?_⟩)
    simp [hspec, hbest]

/-- What is taken for a request. -/
structure PickedWell (plans picked : List RatePlan) (q : PartnerPlanQuery) : Prop where
  fit : ∀ p ∈ picked, p ∈ plans ∧ p.partnerId = some q.partnerId ∧ planMatches p.planScope q = true
  conditions : ∀ p ∈ picked, ∀ o ∈ picked, p.partnerAccountId = o.partnerAccountId ∧
    p.partnerCustomerId = o.partnerCustomerId ∧ p.guestKind = o.guestKind
  finest : ∀ p ∈ picked, ∀ o ∈ plans, planMatches o.planScope q = true →
    planSpecificity o.planScope ≤ planSpecificity p.planScope
  meals : picked.Pairwise fun p o => p.mealPlan ≠ o.mealPlan
  none : picked = [] → ∀ p ∈ plans, planMatches p.planScope q = false

theorem pickedWell {plans : List RatePlan} (h : AtMostOneActive plans) (q : PartnerPlanQuery) :
    PickedWell plans (pickPartnerPlans RatePlan.planScope plans q) q := by
  have hfit : ∀ p ∈ pickPartnerPlans RatePlan.planScope plans q,
      p ∈ plans ∧ p.isActive = true ∧ p.partnerId = some q.partnerId ∧
        planMatches p.planScope q = true := by
    intro p hp
    obtain ⟨hmem, hm, -⟩ := (mem_pickPartnerPlans _).mp hp
    have hm' := hm
    simp only [planMatches, Bool.and_eq_true, decide_eq_true_eq] at hm'
    exact ⟨hmem, hm'.1.1.1.1, hm'.1.1.1.2, hm⟩
  have hsame : ∀ p ∈ pickPartnerPlans RatePlan.planScope plans q,
      ∀ o ∈ pickPartnerPlans RatePlan.planScope plans q,
      p.partnerAccountId = o.partnerAccountId ∧ p.partnerCustomerId = o.partnerCustomerId ∧
        p.guestKind = o.guestKind := by
    intro p hp o ho
    obtain ⟨hpmem, hpm, hpmax⟩ := (mem_pickPartnerPlans _).mp hp
    obtain ⟨homem, hom, homax⟩ := (mem_pickPartnerPlans _).mp ho
    exact sameConditions_of_specificity hpm hom (le_antisymm (homax p hpmem hpm) (hpmax o homem hom))
  refine ⟨fun p hp => ?_, hsame, fun p hp => ((mem_pickPartnerPlans _).mp hp).2.2, ?_, ?_⟩
  · obtain ⟨hmem, -, hpartner, hm⟩ := hfit p hp
    exact ⟨hmem, hpartner, hm⟩
  · have hsub : (pickPartnerPlans RatePlan.planScope plans q).Sublist plans :=
      List.filter_sublist.trans List.filter_sublist
    refine (List.Pairwise.sublist hsub h).imp_of_mem fun {p o} hp ho hno hmeal => hno ?_
    obtain ⟨-, hpactive, hppartner, -⟩ := hfit p hp
    obtain ⟨-, hoactive, hopartner, -⟩ := hfit o ho
    obtain ⟨haccount, hcustomer, hkind⟩ := hsame p hp o ho
    exact ⟨by rw [hppartner]; rfl, hpactive, hoactive,
      ⟨hppartner.trans hopartner.symm, haccount, hcustomer, hkind, hmeal⟩⟩
  · intro hnil p hp
    by_contra hm
    exact pickPartnerPlans_ne_nil _ hp (by simpa using hm) hnil

/-- **Partner plan selection is unambiguous**: after any sequence of calls a partner has at most one
active plan for its terms, and from such plans every request is served by plans of one weight that
differ in their meals. -/
theorem partnerPlans_unambiguous (own : DirectoryOwners) (elsewhere : RatePlanId → Bool) :
    (∀ ops, AtMostOneActive (RatePlanOp.run own elsewhere ops).rows) ∧
      ∀ plans, AtMostOneActive plans → ∀ q,
        PickedWell plans (pickPartnerPlans RatePlan.planScope plans q) q :=
  ⟨atMostOneActive_run own elsewhere, fun _ h q => pickedWell h q⟩

end KarsHotel
