import KarsHotel.Lib.ParentForest
import KarsHotel.Pricing.Service
import KarsHotel.RatePlans.Writes

/-!
# The graph of rate plans

* `WellFormed`: a partner's plan inherits no prices and has its partner's account and customer;
* `ClosesCycle`: an update that gives a plan itself or one of its descendants for a parent;
  `MisspellsItself`: one that names the plan itself in another spelling of its id;
* **`acyclic_run`**: without such an update no plan is above itself;
* **`chainOk_of_acyclic`**: the chain a quote builds meets no plan twice, and ends at a plan without
  a parent or at the fifth;
* **`ratePlanGraph_run`**: the graph after any sequence of calls.
-/

namespace KarsHotel

open RatePlansService PricingService Relation

/-- What is wanted of a plan by itself. -/
structure WellFormed (own : DirectoryOwners) (p : RatePlan) : Prop where
  alone : p.partnerId.isSome = true → p.parentRatePlanId = none
  operator : p.forOperator = true ↔ p.partnerId.isSome = true
  account : ∀ a, p.partnerAccountId = some a → p.partnerId = some (own.account a)
  customer : ∀ c, p.partnerCustomerId = some c → p.partnerId = some (own.customer c)

def parentOf (plans : Table RatePlan.id) (id : RatePlanId) : Option RatePlanId :=
  (plans.find id).bind (·.parentRatePlanId)

/-- The update gives a plan itself or one of its descendants for a parent. -/
def ClosesCycle (plans : Table RatePlan.id) : RatePlanOp → Prop
  | .update _ id dto => ∃ p, dto.parentRatePlanId = .val p ∧
      ReflTransGen (Forest.Link (parentOf plans)) p id
  | _ => False

/-- The update gives a plan itself for a parent, its id spelled otherwise than in the path. -/
def MisspellsItself : RatePlanOp → Prop
  | .update _ id dto => dto.parentRatePlanId = .val id ∧ dto.parentSpelling ≠ dto.idSpelling
  | _ => False

section Plans

variable {own : DirectoryOwners} {elsewhere : RatePlanId → Bool} {plans plans' : Table RatePlan.id}

/-! ## Every plan by itself -/

theorem Admitted.wellFormed {p : RatePlan} (h : Admitted own elsewhere plans p) :
    WellFormed own p := by
  have hcheck := h.check
  simp only [scopeCheck, Bool.and_eq_true, Bool.or_eq_true, decide_eq_true_eq] at hcheck
  obtain ⟨⟨-, halone⟩, hoperator⟩ := hcheck
  refine ⟨fun hpartner => ?_, by rw [hoperator], h.account, h.customer⟩
  rcases halone with hnone | hparent
  · rw [Option.isNone_iff_eq_none] at hnone
    rw [hnone] at hpartner
    cases hpartner
  · exact Option.isNone_iff_eq_none.mp hparent

theorem WellFormed.orphan {id : RatePlanId} {p : RatePlan} (h : WellFormed own p) :
    WellFormed own (orphan id p) := by
  refine ⟨fun hpartner => ?_, h.operator, h.account, h.customer⟩
  have hnone := h.alone hpartner
  unfold RatePlansService.orphan
  simp [hnone]

/-- **Every plan is well-formed**, after any sequence of calls. -/
theorem wellFormed_run (own : DirectoryOwners) (elsewhere : RatePlanId → Bool)
    (ops : List RatePlanOp) : ∀ p ∈ RatePlanOp.run own elsewhere ops, WellFormed own p := by
  refine RatePlanOp.run_keeps (I := fun plans => ∀ p ∈ plans, WellFormed own p)
    (fun p hp => absurd hp (Table.not_mem_empty p)) (fun plans op plans' h hc p hp => ?_) ops
  rcases hc.mem hp with hp | ⟨p₀, hp₀, id, rfl⟩ | hp
  · exact h p hp
  · exact (h p₀ hp₀).orphan
  · exact hp.wellFormed

/-! ## Links -/

theorem parentOf_eq_some {a b : RatePlanId} : parentOf plans a = some b ↔
    ∃ p ∈ plans, p.id = a ∧ p.parentRatePlanId = some b := by
  unfold parentOf
  rw [Option.bind_eq_some_iff]
  constructor
  · rintro ⟨p, hfind, hp⟩
    obtain ⟨hmem, hid⟩ := Table.find_eq_some.mp hfind
    exact ⟨p, hmem, hid, hp⟩
  · rintro ⟨p, hmem, hid, hp⟩
    exact ⟨p, Table.find_eq_some.mpr ⟨hmem, hid⟩, hp⟩

/-- Parents are plans of the hotel or of others, and the hotel's plans are no others'. -/
structure Linked (elsewhere : RatePlanId → Bool) (plans : Table RatePlan.id) : Prop where
  parent : ∀ p ∈ plans, ∀ q, p.parentRatePlanId = some q →
    (plans.find q).isSome ∨ elsewhere q = true
  own : ∀ p ∈ plans, elsewhere p.id = false

/-- A plan that was added is nobody's parent. -/
theorem find_insert_isSome {p : RatePlan} {q : RatePlanId} (h : (plans.find q).isSome) :
    ((plans.insert p).find q).isSome := by
  obtain ⟨r, hr⟩ := Option.isSome_iff_exists.mp h
  obtain ⟨hmem, hid⟩ := Table.find_eq_some.mp hr
  rw [Table.find_eq_some.mpr ⟨Table.mem_insert_of_mem hmem, hid⟩]
  rfl

theorem find_modify_isSome {id q : RatePlanId} {f : RatePlan → RatePlan} {hf : ∀ p, (f p).id = p.id}
    (h : (plans.find q).isSome) : ((plans.modify id f hf).find q).isSome := by
  by_cases hq : q = id
  · subst hq
    rw [Table.find_modify_self, Option.isSome_map]
    exact h
  · rw [Table.find_modify_of_ne hq]
    exact h

theorem find_withoutPlan {id q : RatePlanId} (hne : q ≠ id) (h : (plans.find q).isSome) :
    ((withoutPlan plans id).find q).isSome := by
  obtain ⟨r, hr⟩ := Option.isSome_iff_exists.mp h
  obtain ⟨hmem, hid⟩ := Table.find_eq_some.mp hr
  have hleft : r ∈ plans.remove fun p => p.id = id := by
    rw [Table.mem_remove]
    exact ⟨hmem, by simpa using fun heq => hne (hid.symm.trans heq)⟩
  have hfind : (withoutPlan plans id).find q = some (orphan id r) :=
    Table.find_eq_some.mpr ⟨Table.mem_map.mpr ⟨r, hleft, rfl⟩, hid⟩
  rw [hfind]
  rfl

theorem Linked.change {op : RatePlanOp} (h : Linked elsewhere plans)
    (hc : PlanChange own elsewhere plans op plans') : Linked elsewhere plans' := by
  cases hc with
  | created dir id dto scope hfree hid hnew =>
    refine ⟨fun p hp q hq => ?_, fun p hp => ?_⟩
    · refine Or.imp_left find_insert_isSome ?_
      rcases Table.mem_of_mem_insert hp with hp | rfl
      · exact h.parent p hp q hq
      · exact hnew.parent q hq
    · rcases Table.mem_of_mem_insert hp with hp | rfl
      · exact h.own p hp
      · exact hid
  | updated dir id dto scope before hbefore hself hnew =>
    have hrow : ∀ r ∈ plans, r.id = id → r = before := fun r hr hid => by
      have hfind := Table.find_key hr
      rw [hid, hbefore] at hfind
      exact (Option.some.inj hfind).symm
    refine ⟨fun p hp q hq => ?_, fun p hp => ?_⟩
    · refine Or.imp_left find_modify_isSome ?_
      rcases Table.mem_modify.mp hp with ⟨hp, -⟩ | ⟨p₀, hp₀, hid, rfl⟩
      · exact h.parent p hp q hq
      · rw [hrow p₀ hp₀ hid] at hq
        exact hnew.parent q hq
    · rcases Table.mem_modify.mp hp with ⟨hp, -⟩ | ⟨p₀, hp₀, hid, rfl⟩
      · exact h.own p hp
      · exact h.own p₀ hp₀
  | removed id =>
    refine ⟨fun p hp q hq => ?_, fun p hp => ?_⟩
    · obtain ⟨p₀, hp₀, rfl⟩ := Table.mem_map.mp hp
      by_cases hpid : p₀.parentRatePlanId = some id
      · simp [orphan, hpid] at hq
      · have hq : p₀.parentRatePlanId = some q := by simpa [orphan, hpid] using hq
        have hne : q ≠ id := fun heq => hpid (heq ▸ hq)
        exact Or.imp_left (find_withoutPlan hne) (h.parent p₀ (Table.mem_remove.mp hp₀).1 q hq)
    · obtain ⟨p₀, hp₀, rfl⟩ := Table.mem_map.mp hp
      exact h.own p₀ (Table.mem_remove.mp hp₀).1

/-- **One call** makes no cycle unless it gives a plan one of its descendants for a parent. -/
theorem acyclic_change {op : RatePlanOp} (hl : Linked elsewhere plans)
    (h : Forest.Acyclic (parentOf plans)) (hop : ¬ ClosesCycle plans op)
    (hc : PlanChange own elsewhere plans op plans') : Forest.Acyclic (parentOf plans') := by
  cases hc with
  | created dir id dto scope hfree hid hnew =>
    have hunlinked : ∀ a, ¬ Forest.Link (parentOf plans) a id := by
      intro a ha
      obtain ⟨p, hp, -, hparent⟩ := parentOf_eq_some.mp ha
      rcases hl.parent p hp id hparent with hsome | helse
      · rw [hfree] at hsome
        cases hsome
      · rw [hid] at helse
        cases helse
    have hother : ∀ a b, a ≠ id → parentOf (plans.insert (newPlan id dto scope)) a = some b →
        parentOf plans a = some b := by
      intro a b hne hab
      obtain ⟨p, hp, hpa, hpb⟩ := parentOf_eq_some.mp hab
      rcases Table.mem_of_mem_insert hp with hp | rfl
      · exact parentOf_eq_some.mpr ⟨p, hp, hpa, hpb⟩
      · exact absurd hpa.symm hne
    cases hparent : dto.parentRatePlanId.toOption with
    | none =>
      refine h.mono fun a b hab => ?_
      obtain ⟨p, hp, hpa, hpb⟩ := parentOf_eq_some.mp hab
      rcases Table.mem_of_mem_insert hp with hp | rfl
      · exact parentOf_eq_some.mpr ⟨p, hp, hpa, hpb⟩
      · have hpb : dto.parentRatePlanId.toOption = some b := hpb
        rw [hparent] at hpb
        cases hpb
    | some q =>
      have hne : q ≠ id := by
        rintro rfl
        rcases hnew.parent q hparent with hsome | helse
        · rw [hfree] at hsome
          cases hsome
        · rw [hid] at helse
          cases helse
      refine Forest.acyclic_set (p := q) h hother (fun b hb => ?_) fun habove => ?_
      · obtain ⟨p, hp, hpa, hpb⟩ := parentOf_eq_some.mp hb
        rcases Table.mem_of_mem_insert hp with hp | rfl
        · rw [← hpa, Table.find_key hp] at hfree
          cases hfree
        · exact Option.some.inj (hpb.symm.trans hparent)
      · rcases habove.cases_tail with heq | ⟨a, -, ha⟩
        · exact hne heq.symm
        · exact hunlinked a ha
  | updated dir id dto scope before hbefore hself hnew =>
    have hrow : ∀ a b, parentOf (plans.modify id (patchPlan dto scope)) a = some b →
        (a ≠ id ∧ parentOf plans a = some b) ∨
          a = id ∧ dto.parentRatePlanId.patch before.parentRatePlanId = some b := by
      intro a b hab
      obtain ⟨p, hp, hpa, hpb⟩ := parentOf_eq_some.mp hab
      rcases Table.mem_modify.mp hp with ⟨hp, hne⟩ | ⟨p₀, hp₀, hid, rfl⟩
      · exact Or.inl ⟨hpa ▸ hne, parentOf_eq_some.mpr ⟨p, hp, hpa, hpb⟩⟩
      · have hfind := Table.find_key hp₀
        rw [hid, hbefore] at hfind
        obtain rfl := Option.some.inj hfind
        exact Or.inr ⟨hpa.symm.trans hid, hpb⟩
    cases hparent : dto.parentRatePlanId with
    | val q =>
      refine Forest.acyclic_set (p := q) (c := id) h (fun a b hne hab => ?_) (fun b hb => ?_)
        fun habove => hop ⟨q, hparent, habove⟩
      · rcases hrow a b hab with ⟨-, hold⟩ | ⟨heq, -⟩
        · exact hold
        · exact absurd heq hne
      · rcases hrow id b hb with ⟨hne, -⟩ | ⟨-, hnewParent⟩
        · exact absurd rfl hne
        · rw [hparent] at hnewParent
          exact (Option.some.inj hnewParent).symm
    | null =>
      refine h.mono fun a b hab => ?_
      rcases hrow a b hab with ⟨-, hold⟩ | ⟨-, hnewParent⟩
      · exact hold
      · rw [hparent] at hnewParent
        cases hnewParent
    | undefined =>
      refine h.mono fun a b hab => ?_
      rcases hrow a b hab with ⟨-, hold⟩ | ⟨rfl, hnewParent⟩
      · exact hold
      · rw [hparent] at hnewParent
        unfold parentOf
        rw [hbefore]
        exact hnewParent
  | removed id =>
    refine h.mono fun a b hab => ?_
    obtain ⟨p, hp, hpa, hpb⟩ := parentOf_eq_some.mp hab
    obtain ⟨p₀, hp₀, rfl⟩ := Table.mem_map.mp hp
    refine parentOf_eq_some.mpr ⟨p₀, (Table.mem_remove.mp hp₀).1, hpa, ?_⟩
    by_cases hid : p₀.parentRatePlanId = some id
    · simp [orphan, hid] at hpb
    · simpa [orphan, hid] using hpb

/-- **No plan is above itself** after calls none of which closes a cycle. -/
theorem acyclic_run {ops : List RatePlanOp}
    (hok : StepsMeet (RatePlanOp.step own elsewhere) (fun plans op => ¬ ClosesCycle plans op)
      .empty ops) : Forest.Acyclic (parentOf (RatePlanOp.run own elsewhere ops)) := by
  have hboth : Linked elsewhere (RatePlanOp.run own elsewhere ops) ∧
      Forest.Acyclic (parentOf (RatePlanOp.run own elsewhere ops)) := by
    refine foldl_keeps (P := fun plans => Linked elsewhere plans ∧ Forest.Acyclic (parentOf plans))
      (fun plans op h hop => ?_) ⟨⟨fun p hp => absurd hp (Table.not_mem_empty p),
        fun p hp => absurd hp (Table.not_mem_empty p)⟩, fun a hcycle => ?_⟩ hok
    · exact op.keeps (I := fun plans => Linked elsewhere plans ∧ Forest.Acyclic (parentOf plans))
        (fun plans' h hc => ⟨h.1.change hc, acyclic_change h.1 h.2 hop hc⟩) h
    · rcases TransGen.head'_iff.mp hcycle with ⟨b, hab, -⟩
      cases hab
  exact hboth.2

/-- **One call** leaves no plan its own parent unless it names one so in another spelling. -/
theorem notSelf_change {op : RatePlanOp} (h : ∀ p ∈ plans, p.parentRatePlanId ≠ some p.id)
    (hop : ¬MisspellsItself op) (hc : PlanChange own elsewhere plans op plans') :
    ∀ p ∈ plans', p.parentRatePlanId ≠ some p.id := by
  intro p hp
  cases hc with
  | created dir id dto scope hfree hid hnew =>
    rcases Table.mem_of_mem_insert hp with hp | rfl
    · exact h p hp
    · intro hself
      rcases hnew.parent id hself with hsome | helse
      · rw [hfree] at hsome
        cases hsome
      · rw [hid] at helse
        cases helse
  | updated dir id dto scope before hbefore hself hnew =>
    rcases Table.mem_modify.mp hp with ⟨hp, -⟩ | ⟨p₀, hp₀, hid, rfl⟩
    · exact h p hp
    · intro hparent
      have hparent : dto.parentRatePlanId.patch p₀.parentRatePlanId = some p₀.id := hparent
      cases hdto : dto.parentRatePlanId with
      | undefined => rw [hdto] at hparent; exact h p₀ hp₀ hparent
      | null => rw [hdto] at hparent; cases hparent
      | val q =>
        rw [hdto] at hparent
        have hq : dto.parentRatePlanId = .val id := by
          rw [hdto, ← hid]
          exact congrArg Field.val (Option.some.inj hparent)
        refine hself ⟨hq, ?_⟩
        have hspelled : dto.parentSpelling = dto.idSpelling := by_contra fun hne => hop ⟨hq, hne⟩
        rw [hspelled]
  | removed id =>
    obtain ⟨p₀, hp₀, rfl⟩ := Table.mem_map.mp hp
    intro hself
    refine h p₀ (Table.mem_remove.mp hp₀).1 ?_
    by_cases hid : p₀.parentRatePlanId = some id
    · simp [orphan, hid] at hself
    · simpa [orphan, hid] using hself

/-- No plan is its own parent after calls none of which names one so in another spelling. -/
theorem notSelf_run {ops : List RatePlanOp}
    (hok : StepsMeet (RatePlanOp.step own elsewhere) (fun _ op => ¬MisspellsItself op) .empty ops) :
    ∀ p ∈ RatePlanOp.run own elsewhere ops, p.parentRatePlanId ≠ some p.id := by
  refine foldl_keeps (P := fun plans : Table RatePlan.id => ∀ p ∈ plans,
    p.parentRatePlanId ≠ some p.id) (fun plans op h hop => ?_)
    (fun p hp => absurd hp (Table.not_mem_empty p)) hok
  exact op.keeps (I := fun plans => ∀ p ∈ plans, p.parentRatePlanId ≠ some p.id)
    (fun plans' h hc => notSelf_change h hop hc) h

/-! ## The chain of a quote -/

/-- What is wanted of the chain a quote builds for a plan: no plan twice, and at its end a plan
without a parent in the hotel, or the fifth level. -/
structure ChainOk (plans : Table RatePlan.id) (p : RatePlan) : Prop where
  once : (planIds p (parentChain plans 5 p.parentRatePlanId)).Nodup
  ends : (parentChain plans 5 p.parentRatePlanId).length = 5 ∨
    ∀ last, (planLike p :: parentChain plans 5 p.parentRatePlanId).getLast? = some last →
      last.parentRatePlanId.bind plans.find = none

/-- A plan of the chain is above the plan it is built for. -/
theorem above_of_mem_chain {n : ℕ} {p : RatePlan} (hp : p ∈ plans) {r : RatePlanLike}
    (hr : r ∈ parentChain plans n p.parentRatePlanId) :
    TransGen (Forest.Link (parentOf plans)) p.id r.id := by
  induction n generalizing p with
  | zero => exact absurd hr List.not_mem_nil
  | succ n ih =>
    cases hparent : p.parentRatePlanId with
    | none =>
      rw [hparent] at hr
      exact absurd hr List.not_mem_nil
    | some q =>
      have hlink : Forest.Link (parentOf plans) p.id q := parentOf_eq_some.mpr ⟨p, hp, rfl, hparent⟩
      rw [hparent] at hr
      unfold parentChain at hr
      cases hfind : plans.find q with
      | none =>
        rw [hfind] at hr
        exact absurd hr List.not_mem_nil
      | some parent =>
        rw [hfind] at hr
        obtain ⟨hmem, hid⟩ := Table.find_eq_some.mp hfind
        rcases List.mem_cons.mp hr with rfl | hr
        · refine .single ?_
          show Forest.Link (parentOf plans) p.id parent.id
          rw [hid]
          exact hlink
        · exact .head hlink (hid ▸ ih hmem hr)

theorem nodup_chain (h : Forest.Acyclic (parentOf plans)) (n : ℕ) {p : RatePlan} (hp : p ∈ plans) :
    (planIds p (parentChain plans n p.parentRatePlanId)).Nodup := by
  induction n generalizing p with
  | zero => exact List.nodup_singleton p.id
  | succ n ih =>
    refine List.nodup_cons.mpr ⟨fun hmem => ?_, ?_⟩
    · obtain ⟨r, hr, hid⟩ := List.mem_map.mp hmem
      have habove := above_of_mem_chain hp hr
      exact h p.id (by rwa [hid] at habove)
    · cases p.parentRatePlanId with
      | none => exact List.nodup_nil
      | some q =>
        unfold parentChain
        cases hfind : plans.find q with
        | none => exact List.nodup_nil
        | some parent => exact ih (Table.find_eq_some.mp hfind).1

theorem ends_chain (n : ℕ) (p : RatePlan) :
    (parentChain plans n p.parentRatePlanId).length = n ∨
      ∀ last, (planLike p :: parentChain plans n p.parentRatePlanId).getLast? = some last →
        last.parentRatePlanId.bind plans.find = none := by
  induction n generalizing p with
  | zero => exact Or.inl rfl
  | succ n ih =>
    cases hparent : p.parentRatePlanId with
    | none =>
      refine Or.inr fun last hlast => ?_
      have hlast : some (planLike p) = some last := hlast
      obtain rfl := Option.some.inj hlast
      simp [planLike, hparent]
    | some q =>
      unfold parentChain
      cases hfind : plans.find q with
      | none =>
        refine Or.inr fun last hlast => ?_
        obtain rfl := Option.some.inj hlast
        simp [planLike, hparent, hfind]
      | some parent =>
        rcases ih parent with hlen | hends
        · exact Or.inl (congrArg Nat.succ hlen)
        · refine Or.inr fun last hlast => hends last ?_
          rwa [List.getLast?_cons_cons] at hlast

/-- **The chain of a quote** over plans none of which is above itself. -/
theorem chainOk_of_acyclic (h : Forest.Acyclic (parentOf plans)) {p : RatePlan} (hp : p ∈ plans) :
    ChainOk plans p :=
  ⟨nodup_chain h 5 hp, ends_chain 5 p⟩

/-- The climb from a plan ends. -/
theorem climb_ends (h : Forest.Acyclic (parentOf plans)) (id : RatePlanId) :
    ∃ n, (Forest.ancestors (parentOf plans) n id).length < n := by
  refine ⟨_, Forest.ancestors_end h (l := plans.rows.map (·.id)) (fun a b hab => ?_) id⟩
  obtain ⟨p, hp, hid, -⟩ := parentOf_eq_some.mp hab
  exact List.mem_map.mpr ⟨p, hp, hid⟩

end Plans

/-! ## The graph after any sequence of calls -/

def PartnerDirectory.none : PartnerDirectory := ⟨.none, fun _ => false, fun _ => false, fun _ => false⟩

def RatePlanFields.ofParent (parent : Field RatePlanId) : RatePlanFields :=
  ⟨.undefined, .undefined, parent, .undefined, .undefined, .undefined, .undefined, .undefined,
    .undefined, .undefined, .undefined, .undefined, .undefined, .undefined⟩

/-- A plan of the hotel's own, named by its number. -/
def RatePlanOp.plain (id : RatePlanId) (parent : Field RatePlanId) : RatePlanOp :=
  .create .none id ⟨.ofParent parent, id.repr, id.repr⟩

def RatePlanOp.reparent (id parent : RatePlanId) : RatePlanOp :=
  .update .none id ⟨.ofParent (.val parent), .undefined, .undefined, 0, 0⟩

/-- **The rate-plan graph stays well-formed**: every plan by itself; no plan is its own parent
as long as no update names one so in another spelling of its id; and as long as no update gives
a plan itself or one of its descendants for a parent, the links, the climbs and the chains of
quotes are in order. -/
theorem ratePlanGraph_run (own : DirectoryOwners) (elsewhere : RatePlanId → Bool)
    (ops : List RatePlanOp) :
    (∀ p ∈ RatePlanOp.run own elsewhere ops, WellFormed own p) ∧
      (StepsMeet (RatePlanOp.step own elsewhere) (fun _ op => ¬MisspellsItself op) .empty ops →
        ∀ p ∈ RatePlanOp.run own elsewhere ops, p.parentRatePlanId ≠ some p.id) ∧
      (StepsMeet (RatePlanOp.step own elsewhere) (fun plans op => ¬ ClosesCycle plans op) .empty ops →
        Forest.Acyclic (parentOf (RatePlanOp.run own elsewhere ops)) ∧
          (∀ id, ∃ n,
            (Forest.ancestors (parentOf (RatePlanOp.run own elsewhere ops)) n id).length < n) ∧
          ∀ p ∈ RatePlanOp.run own elsewhere ops, ChainOk (RatePlanOp.run own elsewhere ops) p) := by
  refine ⟨wellFormed_run own elsewhere ops, notSelf_run, fun hok => ?_⟩
  have hacyclic := acyclic_run hok
  exact ⟨hacyclic, climb_ends hacyclic, fun p hp => chainOk_of_acyclic hacyclic hp⟩

/-- Two plans, the first made the second's parent, and a third below it. -/
def adoptOps : List RatePlanOp :=
  [.plain 1 .null, .plain 2 .null, .reparent 2 1, .plain 3 (.val 2)]

/-- No call of theirs closes a cycle. -/
theorem ratePlanGraph_run_child :
    Forest.Acyclic (parentOf (RatePlanOp.run ⟨fun _ => 0, fun _ => 0⟩ (fun _ => false) adoptOps)) ∧
      ∀ p ∈ RatePlanOp.run ⟨fun _ => 0, fun _ => 0⟩ (fun _ => false) adoptOps,
        p.parentRatePlanId ≠ some p.id := by
  have hspelled : StepsMeet (RatePlanOp.step ⟨fun _ => 0, fun _ => 0⟩ fun _ => false)
      (fun _ op => ¬MisspellsItself op) .empty adoptOps :=
    ⟨fun h => h, fun h => h, fun h => h.2 rfl, fun h => h, trivial⟩
  have hok : StepsMeet (RatePlanOp.step ⟨fun _ => 0, fun _ => 0⟩ fun _ => false)
      (fun plans op => ¬ ClosesCycle plans op) .empty adoptOps := by
    refine ⟨fun h => h, fun h => h, ?_, fun h => h, trivial⟩
    rintro ⟨p, hp, habove⟩
    obtain rfl : p = 1 := (Field.val.inj hp).symm
    have hroot : parentOf (RatePlanOp.run ⟨fun _ => 0, fun _ => 0⟩ (fun _ => false)
        [.plain 1 .null, .plain 2 .null]) 1 = none := by decide +kernel
    rcases habove.cases_head with heq | ⟨q, hq, -⟩
    · exact absurd heq (by decide)
    · exact absurd (hroot.symm.trans hq) (by simp)
  obtain ⟨-, hself, hlinks⟩ := ratePlanGraph_run ⟨fun _ => 0, fun _ => 0⟩ (fun _ => false) adoptOps
  exact ⟨(hlinks hok).1, hself hspelled⟩

/-- Two plans, each made the other's parent. -/
def cycleOps : List RatePlanOp :=
  [.plain 1 .null, .plain 2 .null, .reparent 1 2, .reparent 2 1]

/-- Seven plans, each the parent of the next. -/
def sevenOps : List RatePlanOp :=
  .plain 1 .null :: (List.range 6).map fun n => .plain (n + 2) (.val (n + 1))

/-- **The graph is not always well-formed**: two updates close a cycle, and without a cycle the
chain of the seventh plan stops at one that has a parent. -/
theorem ratePlanGraph_cycle_and_cut :
    (¬ ∀ own elsewhere ops, Forest.Acyclic (parentOf (RatePlanOp.run own elsewhere ops))) ∧
      ¬ ∀ own elsewhere ops, ∀ p ∈ RatePlanOp.run own elsewhere ops, ∀ last,
        (planLike p :: parentChain (RatePlanOp.run own elsewhere ops) 5 p.parentRatePlanId).getLast? =
          some last → last.parentRatePlanId = none := by
  constructor
  · intro h
    have hlink : parentOf (RatePlanOp.run ⟨fun _ => 0, fun _ => 0⟩ (fun _ => false) cycleOps) 1 =
        some 2 ∧ parentOf (RatePlanOp.run ⟨fun _ => 0, fun _ => 0⟩ (fun _ => false) cycleOps) 2 =
        some 1 := by
      decide +kernel
    exact h _ _ cycleOps 1 (.tail (.single hlink.1) hlink.2)
  · intro h
    have hcut : ∃ p ∈ (RatePlanOp.run ⟨fun _ => 0, fun _ => 0⟩ (fun _ => false) sevenOps).rows,
        ((planLike p :: parentChain (RatePlanOp.run ⟨fun _ => 0, fun _ => 0⟩ (fun _ => false) sevenOps)
          5 p.parentRatePlanId).getLast?.bind (·.parentRatePlanId)) = some 1 := by
      decide +kernel
    obtain ⟨p, hp, hlast⟩ := hcut
    obtain ⟨last, hget, hparent⟩ := Option.bind_eq_some_iff.mp hlast
    rw [h _ _ sevenOps p hp last hget] at hparent
    cases hparent

end KarsHotel
