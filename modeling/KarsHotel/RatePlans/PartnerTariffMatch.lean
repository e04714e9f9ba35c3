import KarsHotel.Reservations.Store

/-!
# Which tariffs of a partner a request fits

Every plan of a partner says what it applies to, and an empty condition fits any request. Of the
plans that fit, the most specific ones are taken: a customer weighs more than an account, an
account more than the kind of guests.

* `planSpecificity`, `planMatches`, `pickPartnerPlans`: the rule;
* `mem_pickPartnerPlans`: the plans taken are those that fit and that none that fits outweighs.
-/

namespace KarsHotel

abbrev AccountId := ℕ
abbrev CustomerId := ℕ

/-- What a plan applies to; `none` is any. -/
structure PartnerPlanScope where
  id : RatePlanId
  partnerId : Option PartnerId
  partnerAccountId : Option AccountId
  partnerCustomerId : Option CustomerId
  guestKind : Option GuestKind
  isActive : Bool
  deriving DecidableEq, Repr

/-- Whom a request books for. -/
structure PartnerPlanQuery where
  partnerId : PartnerId
  accountId : Option AccountId
  customerId : Option CustomerId
  guestKind : Option GuestKind
  deriving DecidableEq, Repr

/-- A customer counts 4, an account 2, a kind of guests 1. -/
def planSpecificity (p : PartnerPlanScope) : ℕ :=
  (if p.partnerCustomerId.isSome then 4 else 0) + (if p.partnerAccountId.isSome then 2 else 0) +
    (if p.guestKind.isSome then 1 else 0)

/-- A condition that is set equals what the request has. -/
def conditionMet {α : Type} [DecidableEq α] (condition asked : Option α) : Bool :=
  condition.isNone || decide (condition = asked)

def planMatches (p : PartnerPlanScope) (q : PartnerPlanQuery) : Bool :=
  p.isActive && decide (p.partnerId = some q.partnerId) &&
    conditionMet p.partnerAccountId q.accountId &&
    conditionMet p.partnerCustomerId q.customerId && conditionMet p.guestKind q.guestKind

section Pick

variable {T : Type} (scope : T → PartnerPlanScope)

/-- The plans that fit, and of these the most specific. -/
def pickPartnerPlans (plans : List T) (q : PartnerPlanQuery) : List T :=
  let fit := plans.filter fun p => planMatches (scope p) q
  let best := (fit.map fun p => planSpecificity (scope p)).max?
  fit.filter fun p => decide (some (planSpecificity (scope p)) = best)

/-- **The plans taken** are those that fit and that no plan that fits outweighs. -/
theorem mem_pickPartnerPlans {plans : List T} {q : PartnerPlanQuery} {p : T} :
    p ∈ pickPartnerPlans scope plans q ↔ p ∈ plans ∧ planMatches (scope p) q = true ∧
      ∀ o ∈ plans, planMatches (scope o) q = true →
        planSpecificity (scope o) ≤ planSpecificity (scope p) := by
  simp only [pickPartnerPlans, List.mem_filter, decide_eq_true_eq, eq_comm (a := some _),
    List.max?_eq_some_iff, List.mem_map]
  constructor
  · rintro ⟨⟨hp, hm⟩, -, hmax⟩
    exact ⟨hp, hm, fun o ho hom => hmax _ ⟨o, ⟨ho, hom⟩, rfl⟩⟩
  · rintro ⟨hp, hm, hmax⟩
    refine ⟨⟨hp, hm⟩, ⟨p, ⟨hp, hm⟩, rfl⟩, ?_⟩
    rintro _ ⟨o, ⟨ho, hom⟩, rfl⟩
    exact hmax o ho hom

/-- The plans are taken by their scopes alone. -/
theorem pickPartnerPlans_map {S : Type} (f : S → T) (plans : List S) (q : PartnerPlanQuery) :
    pickPartnerPlans scope (plans.map f) q =
      (pickPartnerPlans (fun p => scope (f p)) plans q).map f := by
  simp only [pickPartnerPlans, List.filter_map, List.map_map, Function.comp_def]

end Pick

end KarsHotel
