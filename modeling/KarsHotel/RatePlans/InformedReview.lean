import KarsHotel.Lib.Run
import KarsHotel.RatePlans.Review
import KarsHotel.RatePlans.Writes

/-!
# A tariff applies by its partner's informed confirmation

Reviews and edits of one hotel in any order of their queries and writes.

* `Edited`, `Decided`: what an edit and a review promise of each of their transactions;
* `TariffCall.session_guarantees`: every session keeps its promise;
* `OwnPartner`: a turn moves no confirmed plan to another partner and gives a verdict only on a plan
  of its giver;
* `Informed`: every verdict on a plan is the latest written, by its partner;
* **`review_alone`**: a review of what its sender was shown, played alone, is written;
* **`appliedReviews_informed`**: after any schedule of such turns a plan that applies was confirmed
  last, by its partner, with the current fingerprint seen; and no review is written whose sender saw
  another fingerprint than it computed.
-/

namespace KarsHotel

open RatePlansService

/-! ## Promises -/

/-- The latest review written on a plan. -/
def ReviewStore.latest (s : ReviewStore) (id : RatePlanId) : Option AcceptedReview :=
  s.accepted.find? fun r => decide (r.planId = id)

/-- What every session relies on: reviews that were written stay. -/
def Grows (s s' : ReviewStore) : Prop := s.accepted <:+ s'.accepted

theorem Grows.refl (s : ReviewStore) : Grows s s := List.suffix_refl _

theorem Grows.trans {s s' s'' : ReviewStore} (h : Grows s s') (h' : Grows s' s'') : Grows s s'' :=
  List.IsSuffix.trans h h'

/-- What an edit promises: no review is written, and a verdict on a plan is the one it carried. -/
structure Edited (s s' : ReviewStore) : Prop where
  accepted : s'.accepted = s.accepted
  carried : ∀ p' ∈ s'.plans, p'.reviewVerdict = none ∨ ∃ p ∈ s.plans, p.id = p'.id ∧
    p.reviewVerdict = p'.reviewVerdict ∧ p.reviewFingerprint = p'.reviewFingerprint

theorem Edited.refl (s : ReviewStore) : Edited s s :=
  ⟨rfl, fun p' hp' => .inr ⟨p', hp', rfl, rfl, rfl⟩⟩

section Promises

variable (hash : String → String) (c : Collation)

/-- A review of a call, whose sender saw the fingerprint that was computed from what the call had
read. -/
structure AcceptedReview.Of (r : AcceptedReview) (request : ℕ) (partnerId : PartnerId)
    (dto : ReviewCorporateTariffDto) : Prop where
  request_eq : r.request = request
  partnerId_eq : r.partnerId = partnerId
  verdict_eq : r.verdict = dto.verdict
  seen_eq : r.seen = dto.seenFingerprint
  computed_eq : r.computed hash c = r.seen

/-- What a review promises: it writes nothing, or its verdict, having computed the fingerprint its
sender saw. -/
def Decided (request : ℕ) (partnerId : PartnerId) (dto : ReviewCorporateTariffDto)
    (s s' : ReviewStore) : Prop :=
  s' = s ∨ ∃ r, r.Of hash c request partnerId dto ∧
    s' = s.accept r dto.reviewedBy (r.computed hash c)

def TariffCall.Promise : TariffCall → ReviewStore → ReviewStore → Prop
  | review request partnerId dto => Decided hash c request partnerId dto
  | _ => Edited

/-- A review answers once it is written. -/
def TariffCall.Answered (s : ReviewStore) : TariffCall → Prop
  | review request partnerId dto => ∃ r ∈ s.accepted, r.Of hash c request partnerId dto
  | _ => True

variable {hash c}

theorem TariffCall.Answered.grows {call : TariffCall} {s s' : ReviewStore}
    (h : call.Answered hash c s) (hs : Grows s s') : call.Answered hash c s' := by
  cases call with
  | review request partnerId dto =>
    obtain ⟨r, hr, hfacts⟩ := h
    exact ⟨r, hs.subset hr, hfacts⟩
  | _ => trivial

theorem TariffCall.Promise.refl (call : TariffCall) (s : ReviewStore) :
    call.Promise hash c s s := by
  cases call with
  | review request partnerId dto => exact .inl rfl
  | _ => exact Edited.refl s

theorem TariffCall.Promise.grows {call : TariffCall} {s s' : ReviewStore}
    (h : call.Promise hash c s s') : Grows s s' := by
  cases call with
  | review request partnerId dto =>
    rcases h with rfl | ⟨r, -, rfl⟩
    · exact .refl _
    · exact List.suffix_cons _ _
  | _ =>
    have h : Edited s s' := h
    unfold Grows
    rw [h.accepted]

end Promises

/-! ## Sessions that only read -/

/-- The session keeps any promise, and nothing is known of its result. -/
def Reads {α : Type} (p : TariffProg α) : Prop :=
  ∀ (guar : ReviewStore → ReviewStore → Prop) (Q : α → ReviewStore → ReviewStore → Prop)
    (c : ReviewStore), (∀ c, guar c c) → (∀ a c', Grows c c' → Q a c' c') →
      p.Guarantees Grows guar Q (fun _ _ _ => True) c c

section Reads

variable {α β : Type}

theorem reads_ret (a : α) : Reads (.ret a) := fun _ _ c _ hQ => hQ a c (.refl c)

theorem reads_throw (x : Failure) : Reads (.throw x : TariffProg α) := fun _ _ _ _ _ => trivial

theorem Reads.bind_guarantees {p : TariffProg α} {g : α → TariffProg β}
    {guar : ReviewStore → ReviewStore → Prop} {Q : β → ReviewStore → ReviewStore → Prop}
    {c : ReviewStore} (hp : Reads p) (hrefl : ∀ c, guar c c)
    (hg : ∀ a c', Grows c c' → (g a).Guarantees Grows guar Q (fun _ _ _ => True) c' c') :
    (p >>= g).Guarantees Grows guar Q (fun _ _ _ => True) c c := by
  rw [Prog.guarantees_bind]
  exact hp guar _ c hrefl hg

theorem reads_bind {p : TariffProg α} {g : α → TariffProg β} (hp : Reads p)
    (hg : ∀ a, Reads (g a)) : Reads (p >>= g) := fun guar Q _ hrefl hQ =>
  hp.bind_guarantees hrefl fun a c' hc => hg a guar Q c' hrefl fun b c'' hc' => hQ b c'' (hc.trans hc')

theorem reads_fetch (q : TariffQuery) (f : ReviewStore → α) : Reads (fetch q f) := by
  intro guar Q c hrefl hQ
  rw [fetch, Prog.guarantees_transact]
  exact ⟨hrefl c, fun c' hc => hQ (f c) c' hc⟩

theorem reads_given (x : Except Failure α) : Reads (given x) := by
  cases x with
  | ok a => exact reads_ret a
  | error e => exact reads_throw e

variable (hash : String → String) (c : Collation) (tenantId : TenantId)

theorem reads_fetchDocs : Reads (fetchDocs tenantId) := reads_fetch _ _

theorem reads_fetchPrices : Reads fetchPrices :=
  reads_bind (reads_fetch _ _) fun _ => reads_bind (reads_fetch _ _) fun _ =>
    reads_bind (reads_fetch _ _) fun _ => reads_ret _

theorem reads_withOperatorStatus (plans : List RatePlan) :
    Reads (withOperatorStatus hash c tenantId plans) := by
  unfold withOperatorStatus
  split_ifs
  · exact reads_bind (reads_fetchDocs tenantId) fun _ =>
      reads_bind reads_fetchPrices fun _ => reads_ret _
  · exact reads_ret _

theorem reads_partnerPlans (partnerId : PartnerId) :
    Reads (partnerPlans hash c tenantId partnerId) :=
  reads_bind (reads_fetch _ _) fun _ => reads_withOperatorStatus hash c tenantId _

theorem reads_getPlan (id : RatePlanId) : Reads (getPlan hash c tenantId id) := by
  refine reads_bind (reads_fetch _ _) fun p => ?_
  cases p with
  | none => exact reads_throw _
  | some p => exact reads_bind (reads_withOperatorStatus hash c tenantId _) fun _ => reads_ret _

end Reads

/-! ## The review -/

section Review

variable (hash : String → String) (c : Collation) (tenantId : TenantId) (request : ℕ)
  (partnerId : PartnerId) (dto : ReviewCorporateTariffDto)

/-- The promise of a review and what it answers with. -/
abbrev KeepsReview (p : TariffProg (Option StatusPlan)) (s : ReviewStore) : Prop :=
  p.Guarantees Grows (Decided hash c request partnerId dto)
    (fun _ s _ => (TariffCall.review request partnerId dto).Answered hash c s) (fun _ _ _ => True)
    s s

theorem decided_refl (s : ReviewStore) : Decided hash c request partnerId dto s s := .inl rfl

/-- The verdict is written by a call that computed what its sender saw. -/
theorem saveReview_keeps {r : AcceptedReview} (hr : r.Of hash c request partnerId dto)
    (s : ReviewStore) : KeepsReview hash c request partnerId dto
      (saveReview r dto.reviewedBy (r.computed hash c) >>= fun _ =>
        getPlan hash c tenantId r.planId) s := by
  rw [KeepsReview, Prog.guarantees_bind, saveReview, Prog.guarantees_transact]
  simp only [Tx.exec_write]
  by_cases hplan : (s.plans.find r.planId).isSome = true
  · rw [if_pos hplan]
    refine ⟨.inr ⟨r, hr, rfl⟩, fun s₁ hs₁ => ?_⟩
    exact reads_getPlan hash c tenantId r.planId _ _ s₁ (decided_refl hash c request partnerId dto)
      fun _ s₂ hs₂ => ⟨r, hs₂.subset (hs₁.subset List.mem_cons_self), hr⟩
  · rw [if_neg hplan]
    exact fun _ _ => trivial

theorem applyOperatorReview_keeps (id : RatePlanId) (s : ReviewStore) :
    KeepsReview hash c request partnerId dto
      (applyOperatorReview hash c tenantId request partnerId id dto) s := by
  have hrefl := decided_refl hash c request partnerId dto
  refine (reads_fetch _ _).bind_guarantees hrefl fun found s₁ _ => ?_
  cases found with
  | none => trivial
  | some plan =>
    dsimp only
    split_ifs
    · trivial
    refine (reads_fetchDocs tenantId).bind_guarantees hrefl fun docs s₂ _ => ?_
    dsimp only
    split_ifs
    · trivial
    refine reads_fetchPrices.bind_guarantees hrefl fun prices s₃ _ => ?_
    dsimp only
    split_ifs with hseen
    · trivial
    · let r : AcceptedReview := ⟨request, id, partnerId, dto.verdict, dto.seenFingerprint, plan,
        docsOfContract docs plan.operatorContract plan.partnerId, prices⟩
      have hr : r.Of hash c request partnerId dto :=
        ⟨rfl, rfl, rfl, rfl, (not_not.mp hseen).symm⟩
      exact saveReview_keeps hash c tenantId request partnerId dto hr s₃

theorem reviewCorporateTariff_keeps (s : ReviewStore) :
    KeepsReview hash c request partnerId dto
      (reviewCorporateTariff hash c tenantId request partnerId dto) s := by
  refine (reads_partnerPlans hash c tenantId partnerId).bind_guarantees
    (decided_refl hash c request partnerId dto) fun plans s₁ _ => ?_
  split
  · trivial
  · exact applyOperatorReview_keeps hash c tenantId request partnerId dto _ s₁

end Review

/-! ## Edits -/

section Edits

variable {own : DirectoryOwners} {elsewhere : OtherHotels} {accepts : ContractDocument → Bool}

/-- An edit that keeps its promise; nothing is known of its answer. -/
abbrev KeepsEdit (p : TariffProg Unit) (s : ReviewStore) : Prop :=
  p.Guarantees Grows Edited (fun _ _ _ => True) (fun _ _ _ => True) s s

theorem save_keeps {row : TariffRow} {f : TariffStore → Except Failure TariffStore}
    (hf : ∀ t t', f t = .ok t' → ∀ p' ∈ t'.plans, p'.reviewVerdict = none ∨ ∃ p ∈ t.plans,
      p.id = p'.id ∧ p.reviewVerdict = p'.reviewVerdict ∧
        p.reviewFingerprint = p'.reviewFingerprint) (s : ReviewStore) :
    KeepsEdit (save row f) s := by
  rw [KeepsEdit, save, Prog.guarantees_transact]
  simp only [Tx.exec_write]
  cases ht : f s.tariffs with
  | error x => exact fun _ _ => trivial
  | ok t => exact ⟨⟨rfl, hf s.tariffs t ht⟩, fun _ _ => trivial⟩

theorem except_map_ok {α β : Type} {x : Except Failure α} {f : α → β} {b : β}
    (h : x.map f = .ok b) : ∃ a, x = .ok a ∧ f a = b := by
  cases x with
  | error e => cases h
  | ok a => exact ⟨a, rfl, Except.ok.inj h⟩

theorem createPlan_keeps (id : RatePlanId) (dto : CreateRatePlanDto) (s : ReviewStore) :
    KeepsEdit (createPlan own elsewhere id dto) s := by
  intro dir s₁ _
  refine (reads_given _).bind_guarantees Edited.refl fun scope s₂ _ => ?_
  refine (reads_given _).bind_guarantees Edited.refl fun _ s₃ _ => ?_
  refine (reads_fetch _ _).bind_guarantees Edited.refl fun plans s₄ _ => ?_
  refine (reads_given _).bind_guarantees Edited.refl fun _ s₅ _ => ?_
  refine save_keeps (fun t t' ht p' hp' => ?_) s₅
  obtain ⟨plans', hplans', rfl⟩ := except_map_ok ht
  have hp' : p' ∈ plans' := CachedStore.plans_withPlans t.store _ plans' ▸ hp'
  obtain ⟨-, -, -, rfl⟩ := insertRow_ok hplans'
  rcases Table.mem_of_mem_insert hp' with hp' | rfl
  · exact .inr ⟨p', hp', rfl, rfl, rfl⟩
  · exact .inl rfl

theorem updatePlan_keeps (id : RatePlanId) (dto : UpdateRatePlanDto) (s : ReviewStore) :
    KeepsEdit (updatePlan own elsewhere id dto) s := by
  unfold updatePlan
  split_ifs
  · trivial
  refine (reads_fetch _ _).bind_guarantees Edited.refl fun found s₁ _ => ?_
  cases found with
  | none => trivial
  | some before =>
    intro dir s₂ _
    refine (reads_given _).bind_guarantees Edited.refl fun scope s₃ _ => ?_
    refine (reads_given _).bind_guarantees Edited.refl fun _ s₄ _ => ?_
    refine (reads_fetch _ _).bind_guarantees Edited.refl fun plans s₅ _ => ?_
    refine (reads_given _).bind_guarantees Edited.refl fun _ s₆ _ => ?_
    refine save_keeps (fun t t' ht p' hp' => ?_) s₆
    obtain ⟨plans', hplans', rfl⟩ := except_map_ok ht
    have hp' : p' ∈ plans' := CachedStore.plans_withPlans t.store _ plans' ▸ hp'
    cases hfound : t.plans.find id with
    | none =>
      unfold RatePlansService.updateRow at hplans'
      rw [hfound] at hplans'
      cases hplans'
    | some p₀ =>
      obtain ⟨-, rfl⟩ := updateRow_ok hfound hplans'
      rcases Table.mem_modify.mp hp' with ⟨hp', -⟩ | ⟨p, hp, -, rfl⟩
      · exact .inr ⟨p', hp', rfl, rfl, rfl⟩
      · exact .inr ⟨p, hp, rfl, rfl, rfl⟩

theorem removePlan_keeps (id : RatePlanId) (s : ReviewStore) : KeepsEdit (removePlan id) s := by
  refine save_keeps (fun t t' ht p' hp' => ?_) s
  obtain ⟨plans', hplans', rfl⟩ := except_map_ok ht
  have hp' : p' ∈ plans' := CachedStore.plans_withPlans t.store _ plans' ▸ hp'
  unfold deleteRow at hplans'
  split at hplans'
  · cases hplans'
  · cases hplans'
    obtain ⟨p, hp, rfl⟩ := Table.mem_map.mp hp'
    exact .inr ⟨p, (Table.mem_remove.mp hp).1, rfl, rfl, rfl⟩

theorem editPrices_keeps (op : RatesOp) (s : ReviewStore) :
    KeepsEdit (editPrices elsewhere op) s := by
  refine save_keeps (fun t t' ht p' hp' => ?_) s
  obtain ⟨b, hb, rfl⟩ := except_map_ok ht
  have hp' : p' ∈ b.ratePlans := hp'
  have hplans : b.ratePlans = t.plans := by
    rcases RatesOp.exec_frame hb with hsame | ⟨dto, -, rfl⟩
    · exact hsame.ratePlans
    · rfl
  rw [hplans] at hp'
  exact .inr ⟨p', hp', rfl, rfl, rfl⟩

theorem editDocs_keeps (op : MirrorOp) (s : ReviewStore) : KeepsEdit (editDocs accepts op) s := by
  refine save_keeps (fun t t' ht p' hp' => ?_) s
  cases ht
  exact .inr ⟨p', hp', rfl, rfl, rfl⟩

/-- **Every session keeps its promise.** -/
theorem TariffCall.session_guarantees (hash : String → String) (c : Collation)
    (tenantId : TenantId) (call : TariffCall) (s : ReviewStore) :
    (call.session hash c tenantId own elsewhere accepts).Guarantees Grows
      (call.Promise hash c) (fun _ s _ => call.Answered hash c s) (fun _ _ _ => True) s s := by
  have hedit : ∀ {p : TariffProg Unit}, KeepsEdit p s →
      (p >>= fun _ => Prog.ret none : TariffProg (Option StatusPlan)).Guarantees Grows Edited
        (fun _ _ _ => True) (fun _ _ _ => True) s s := by
    intro p hp
    rw [Prog.guarantees_bind]
    exact hp.mono (fun _ _ _ _ => trivial) fun _ _ _ _ => trivial
  cases call with
  | review request partnerId dto =>
    exact reviewCorporateTariff_keeps hash c tenantId request partnerId dto s
  | createPlan id dto => exact hedit (createPlan_keeps id dto s)
  | updatePlan id dto => exact hedit (updatePlan_keeps id dto s)
  | removePlan id => exact hedit (removePlan_keeps id s)
  | prices op => exact hedit (editPrices_keeps op s)
  | docs op => exact hedit (editDocs_keeps op s)

end Edits

/-! ## Every run -/

/-- What a turn has to do with partners: it moves no confirmed plan to another partner, and writes a
verdict only while the plan is still its giver's. -/
structure OwnPartner (s s' : ReviewStore) : Prop where
  kept : ∀ p ∈ s.plans, p.reviewVerdict = some .confirmed →
    ∀ p' ∈ s'.plans, p'.id = p.id → p'.partnerId = p.partnerId
  own : ∀ r, s'.accepted = r :: s.accepted → ∀ p ∈ s.plans, p.id = r.planId →
    p.partnerId = some r.partnerId

theorem OwnPartner.of_same {s s' : ReviewStore} (hp : s'.plans = s.plans)
    (ha : s'.accepted = s.accepted) : OwnPartner s s' where
  kept p hmem _ p' hmem' hid := by
    rw [hp] at hmem'
    rw [Table.eq_of_key hmem' hmem hid]
  own r hr := by
    rw [ha] at hr
    exact absurd hr (List.cons_ne_self r s.accepted).symm

/-- A verdict on a plan is that of the latest review, with the fingerprint seen in it; a
confirmation is of the plan's partner. -/
def Informed (s : ReviewStore) : Prop :=
  ∀ p ∈ s.plans, ∀ v, p.reviewVerdict = some v → ∃ r, s.latest p.id = some r ∧ r.verdict = v ∧
    p.reviewFingerprint = some r.seen ∧ (v = .confirmed → p.partnerId = some r.partnerId)

section Informed

variable {s s' : ReviewStore}

theorem Informed.edited (h : Informed s) (he : Edited s s') (ho : OwnPartner s s') :
    Informed s' := by
  intro p' hp' v hv
  rcases he.carried p' hp' with hnone | ⟨p, hp, hid, hverdict, hfingerprint⟩
  · rw [hnone] at hv
    cases hv
  · rw [← hverdict] at hv
    obtain ⟨r, hr, hrv, hrf, hrp⟩ := h p hp v hv
    have hlatest : s'.latest p'.id = some r := by
      rw [← hr, ReviewStore.latest, ReviewStore.latest, he.accepted, hid]
    refine ⟨r, hlatest, hrv, by rw [← hfingerprint, hrf], fun hconfirmed => ?_⟩
    rw [hconfirmed] at hv
    rw [ho.kept p hp hv p' hp' hid.symm, hrp hconfirmed]

theorem latest_accept_self (s : ReviewStore) (r : AcceptedReview) (reviewedBy fingerprint : String) :
    (s.accept r reviewedBy fingerprint).latest r.planId = some r :=
  List.find?_cons_of_pos (by simp)

theorem latest_accept_of_ne (s : ReviewStore) {r : AcceptedReview} (reviewedBy fingerprint : String)
    {id : RatePlanId} (h : id ≠ r.planId) :
    (s.accept r reviewedBy fingerprint).latest id = s.latest id :=
  List.find?_cons_of_neg (by simpa using Ne.symm h)

theorem Informed.accept {r : AcceptedReview} {reviewedBy fingerprint : String} (h : Informed s)
    (hseen : fingerprint = r.seen) (ho : OwnPartner s (s.accept r reviewedBy fingerprint)) :
    Informed (s.accept r reviewedBy fingerprint) := by
  intro p' hp' v hv
  have hp' : p' ∈ s.plans.modify r.planId (withReview r.verdict reviewedBy fingerprint) := hp'
  rcases Table.mem_modify.mp hp' with ⟨hp', hne⟩ | ⟨p, hp, hid, rfl⟩
  · rw [latest_accept_of_ne s reviewedBy fingerprint hne]
    exact h p' hp' v hv
  · have hid' : (withReview r.verdict reviewedBy fingerprint p).id = r.planId := hid
    rw [hid', latest_accept_self]
    have hown : p.partnerId = some r.partnerId := ho.own r rfl p hp hid
    exact ⟨r, rfl, Option.some.inj hv, congrArg some hseen, fun _ => hown⟩

theorem Informed.turn {hash : String → String} {c : Collation} {call : TariffCall} (h : Informed s)
    (hc : call.Promise hash c s s') (ho : OwnPartner s s') : Informed s' := by
  cases call with
  | review request partnerId dto =>
    rcases hc with rfl | ⟨r, hr, rfl⟩
    · exact h
    · exact h.accept hr.computed_eq ho
  | _ => exact h.edited hc ho

end Informed

section Run

variable {ι : Type} [DecidableEq ι] (hash : String → String) (c : Collation)
  (tenantId : TenantId) (own : DirectoryOwners) (elsewhere : OtherHotels)
  (accepts : ContractDocument → Bool)

/-- Sessions of a hotel that has seen no review. -/
def reviewing (tariffs : TariffStore) (calls : ι → TariffCall) :
    Turns reviewDb Failure (Option StatusPlan) ι :=
  ⟨⟨tariffs, []⟩, fun i => (calls i).session hash c tenantId own elsewhere accepts⟩

abbrev takeTurn (S : Turns reviewDb Failure (Option StatusPlan) ι) (t : ι × PartnerDirectory) :
    Turns reviewDb Failure (Option StatusPlan) ι :=
  S.turn t.1 t.2

omit [DecidableEq ι] in
theorem agreement_reviews (calls : ι → TariffCall) :
    Turns.Agreement (D := reviewDb) Grows fun i => (calls i).Promise hash c where
  idle i s := .refl (calls i) s
  refl s := .refl s
  trans h h' := Grows.trans h h'
  within _ _ _ h := h.grows

/-- What holds after any schedule of turns. -/
structure ReviewRun (calls : ι → TariffCall)
    (S : Turns reviewDb Failure (Option StatusPlan) ι) : Prop where
  ends : Turns.AllEnd Grows (fun i => (calls i).Promise hash c)
    (fun i _ s => (calls i).Answered hash c s) S
  informed : Informed S.store

theorem ReviewRun.turn {calls : ι → TariffCall}
    {S : Turns reviewDb Failure (Option StatusPlan) ι} (h : ReviewRun hash c calls S)
    (t : ι × PartnerDirectory) (ho : OwnPartner S.store (takeTurn S t).store) :
    ReviewRun hash c calls (takeTurn S t) := by
  have hturn := h.ends.turn (agreement_reviews hash c calls) (fun _ _ _ _ ha hs => ha.grows hs) t.1 t.2
  exact ⟨hturn.2, h.informed.turn hturn.1 ho⟩

/-- **A tariff applies by its partner's informed confirmation.** Whatever the calls and their
schedule, as long as no turn moves a confirmed plan to another partner or gives a verdict on a
plan that is not its giver's any more: a plan that applies was last reviewed by its partner, who
confirmed it and saw the current fingerprint; every turn of a review leaves the hotel as it is,
unless the fingerprint its sender saw is the one it computed; and a review that answers was such
a one. -/
theorem appliedReviews_informed (tariffs : TariffStore) (calls : ι → TariffCall)
    (turns : List (ι × PartnerDirectory)) (hnew : ∀ p ∈ tariffs.plans, p.reviewVerdict = none)
    (hok : StepsMeet takeTurn (fun S t => OwnPartner S.store (takeTurn S t).store)
      (reviewing hash c tenantId own elsewhere accepts tariffs calls) turns) :
    let S := (reviewing hash c tenantId own elsewhere accepts tariffs calls).play turns
    (∀ p ∈ S.store.plans, S.store.tariffs.Applies hash c tenantId p →
      ∃ r, S.store.latest p.id = some r ∧ r.verdict = .confirmed ∧ p.partnerId = some r.partnerId ∧
        r.seen = S.store.tariffs.fingerprint hash c tenantId p) ∧
    ∀ i request partnerId dto, calls i = .review request partnerId dto →
      (∀ e, (S.turn i e).store = S.store ∨ ∃ r, r.Of hash c request partnerId dto ∧
        (S.turn i e).store = S.store.accept r dto.reviewedBy (r.computed hash c)) ∧
      ∀ answer, S.sessions i = .ret answer →
        ∃ r ∈ S.store.accepted, r.Of hash c request partnerId dto := by
  intro S
  have ha := agreement_reviews hash c calls
  have hstart : ReviewRun hash c calls (reviewing hash c tenantId own elsewhere accepts tariffs calls) :=
    ⟨fun i s _ => (calls i).session_guarantees hash c tenantId s, fun p hp v hv => by
      rw [hnew p hp] at hv
      cases hv⟩
  have hrun : ReviewRun hash c calls S := foldl_keeps (fun _ t h ho => h.turn hash c t ho) hstart hok
  constructor
  · intro p hp happlies
    obtain ⟨-, hverdict, hfingerprint⟩ := (TariffStore.applies_iff hash c tenantId _).mp happlies
    obtain ⟨r, hr, hrv, hrf, hrp⟩ := hrun.informed p hp _ hverdict
    rw [hfingerprint] at hrf
    exact ⟨r, hr, hrv, hrp rfl, (Option.some.inj hrf).symm⟩
  · intro i request partnerId dto hi
    constructor
    · intro e
      have hturn := (hrun.ends.turn ha (fun _ _ _ _ ha hs => ha.grows hs) i e).1
      rw [hi] at hturn
      exact hturn
    · intro answer hanswer
      have hans := hrun.ends.answer ha hanswer
      rw [hi] at hans
      exact hans

end Run

/-! ## A review played alone -/

theorem OwnPartner.accept {s : ReviewStore} {r : AcceptedReview} {p : RatePlan}
    (hp : s.plans.find r.planId = some p) (hmine : p.partnerId = some r.partnerId)
    (reviewedBy fingerprint : String) : OwnPartner s (s.accept r reviewedBy fingerprint) where
  kept q hq _ q' hq' hid := by
    have hq' : q' ∈ s.plans.modify r.planId (withReview r.verdict reviewedBy fingerprint) := hq'
    rcases Table.mem_modify.mp hq' with ⟨hq', -⟩ | ⟨q₀, hq₀, -, rfl⟩
    · rw [Table.eq_of_key hq' hq hid]
    · rw [← Table.eq_of_key hq₀ hq hid]
      rfl
  own r' hr q hq hid := by
    obtain rfl : r = r' := (List.cons.inj hr).1
    obtain ⟨hp, hpid⟩ := Table.find_eq_some.mp hp
    rw [Table.eq_of_key hq hp (hid.trans hpid.symm), hmine]

section Alone

variable {α β : Type} {s : ReviewStore} {e : PartnerDirectory} {n m : ℕ}

/-- A session comes to another in turns that leave the hotel as it is. -/
def ReadsTo (s : ReviewStore) (e : PartnerDirectory) : ℕ → TariffProg α → TariffProg α → Prop
  | 0, p, p' => p = p'
  | n + 1, p, p' => (p.turn e s s).2 = s ∧ ReadsTo s e n (p.turn e s s).1 p'

theorem ReadsTo.trans {p p' p'' : TariffProg α} (h : ReadsTo s e n p p')
    (h' : ReadsTo s e m p' p'') : ReadsTo s e (n + m) p p'' := by
  induction n generalizing p with
  | zero =>
    obtain rfl : p = p' := h
    rwa [Nat.zero_add]
  | succ n ih =>
    rw [Nat.succ_add]
    exact ⟨h.1, ih h.2⟩

theorem readsTo_fetch (q : TariffQuery) (f : ReviewStore → α) (g : α → TariffProg β) :
    ReadsTo s e 1 (fetch q f >>= g) (g (f s)) := ⟨rfl, rfl⟩

theorem readsTo_fetch_bind {γ : Type} (q : TariffQuery) (f : ReviewStore → α)
    (g : α → TariffProg β) (h : β → TariffProg γ) :
    ReadsTo s e 1 ((fetch q f >>= g) >>= h) (g (f s) >>= h) := ⟨rfl, rfl⟩

theorem given_ok (a : α) (g : α → TariffProg β) : (given (.ok a) >>= g) = g a := rfl

variable (hash : String → String) (c : Collation) (tenantId : TenantId)

theorem readsTo_fetchPrices (g : PriceBook → TariffProg β) :
    ReadsTo s e 3 (fetchPrices >>= g) (g s.tariffs.store.prices) := ⟨rfl, rfl, rfl, rfl⟩

/-- The plans of a partner, decorated. -/
def decorated (s : ReviewStore) (partnerId : PartnerId) : List StatusPlan :=
  (plansOfPartner s.plans partnerId).map
    (statusPlan hash c (contractDocs s.tariffs.docs tenantId) s.tariffs.store.prices)

theorem readsTo_partnerPlans {partnerId : PartnerId} (g : List StatusPlan → TariffProg β)
    (h : (plansOfPartner s.plans partnerId).any (·.forOperator) = true) :
    ReadsTo s e 5 (partnerPlans hash c tenantId partnerId >>= g)
      (g (decorated hash c tenantId s partnerId)) := by
  refine ⟨rfl, ?_⟩
  show ReadsTo s e 4 (withOperatorStatus hash c tenantId (plansOfPartner s.plans partnerId) >>= g) _
  rw [withOperatorStatus, if_pos h]
  exact ⟨rfl, rfl, rfl, rfl, rfl⟩

theorem find_decorated {partnerId : PartnerId} {id : RatePlanId} {p : RatePlan}
    (hp : s.plans.find id = some p) (hmine : p.partnerId = some partnerId)
    (hactive : p.isActive = true) :
    (decorated hash c tenantId s partnerId).find? (fun p => decide (p.plan.id = id)) =
      some (statusPlan hash c (contractDocs s.tariffs.docs tenantId) s.tariffs.store.prices p) := by
  obtain ⟨hp, hid⟩ := Table.find_eq_some.mp hp
  have hshown : p ∈ plansOfPartner s.plans partnerId := mem_plansOfPartner.mpr ⟨hp, hmine, hactive⟩
  rw [decorated, List.find?_map]
  cases hfind : (plansOfPartner s.plans partnerId).find?
      ((fun p => decide (p.plan.id = id)) ∘
        statusPlan hash c (contractDocs s.tariffs.docs tenantId) s.tariffs.store.prices) with
  | none =>
    have hne := List.find?_eq_none.mp hfind p hshown
    simp [statusPlan_plan, hid] at hne
  | some q =>
    have hq := List.find?_some hfind
    rw [Function.comp_apply, statusPlan_plan, decide_eq_true_iff] at hq
    have hmem := (mem_plansOfPartner.mp (List.mem_of_find?_eq_some hfind)).1
    rw [Table.eq_of_key hmem hp (hq.trans hid.symm)]
    rfl

variable (request : ℕ) (partnerId : PartnerId) (dto : ReviewCorporateTariffDto)

def reviewNow (s : ReviewStore) (p : RatePlan) : AcceptedReview :=
  ⟨request, dto.ratePlanId, partnerId, dto.verdict, dto.seenFingerprint, p, s.tariffs.docsOf tenantId p,
    s.tariffs.store.prices⟩

/-- A review of the partner's own active plan, whose sender saw the current fingerprint, comes to
its write. -/
theorem readsTo_saveReview {p : RatePlan} (hp : s.plans.find dto.ratePlanId = some p)
    (hmine : p.partnerId = some partnerId) (hactive : p.isActive = true)
    (hop : p.forOperator = true) (hdocs : s.tariffs.docsOf tenantId p ≠ [])
    (hseen : dto.seenFingerprint = s.tariffs.fingerprint hash c tenantId p) :
    ReadsTo s e 10 (reviewCorporateTariff hash c tenantId request partnerId dto)
      (saveReview (reviewNow tenantId request partnerId dto s p) dto.reviewedBy
        dto.seenFingerprint >>= fun _ => getPlan hash c tenantId dto.ratePlanId) := by
  have hany : (plansOfPartner s.plans partnerId).any (·.forOperator) = true :=
    List.any_eq_true.mpr ⟨p, mem_plansOfPartner.mpr
      ⟨(Table.find_eq_some.mp hp).1, hmine, hactive⟩, hop⟩
  refine (readsTo_partnerPlans hash c tenantId _ hany).trans (m := 5) ?_
  rw [find_decorated hash c tenantId hp hmine hactive]
  dsimp only
  rw [statusPlan_plan, (Table.find_eq_some.mp hp).2]
  refine (readsTo_fetch _ _ _).trans (m := 4) ?_
  rw [hp]
  dsimp only
  rw [if_neg (by simp [hop])]
  refine (readsTo_fetch _ _ _).trans (m := 3) ?_
  have hmine : docsOfContract (contractDocs s.tariffs.docs tenantId) p.operatorContract p.partnerId =
      s.tariffs.docsOf tenantId p := rfl
  rw [hmine, if_neg (by simpa using hdocs)]
  refine (readsTo_fetchPrices _).trans (m := 0) ?_
  have hfp : tariffFingerprint hash c (s.tariffs.docsOf tenantId p) p
      (planPrices s.tariffs.store.prices dto.ratePlanId) = dto.seenFingerprint := by
    rw [hseen, ← (Table.find_eq_some.mp hp).2]
    rfl
  rw [hfp, if_neg (fun h => h rfl)]
  rfl

theorem turn_saveReview {r : AcceptedReview} {p : RatePlan} (hp : s.plans.find r.planId = some p)
    (reviewedBy fingerprint : String) (g : Unit → TariffProg α) :
    ((saveReview r reviewedBy fingerprint >>= g).turn e s s).2 = s.accept r reviewedBy fingerprint := by
  have hfound : (s.plans.find r.planId).isSome = true := by rw [hp, Option.isSome_some]
  show (Prog.turn e (Tx.transact (if (s.plans.find r.planId).isSome = true then Tx.ret ()
    else .throw recordToUpdateNotFound) >>= g) s _).2 = _
  rw [if_pos hfound]
  rfl

theorem turn_save {row : TariffRow} {f : TariffStore → Except Failure TariffStore}
    {t : TariffStore} (ht : f s.tariffs = .ok t) (g : Unit → TariffProg α) :
    ((save row f >>= g).turn e s s).2 = { s with tariffs := t } := by
  show (Prog.turn e (Prog.bind (save row f) g) s s).2 = _
  simp only [save, Tx.transact, Prog.bind, Prog.turn, ht]

variable {ι : Type} [DecidableEq ι] {S : Turns reviewDb Failure (Option StatusPlan) ι} {i : ι}

theorem ReadsTo.play {p : TariffProg (Option StatusPlan)}
    (h : ReadsTo S.store e n (S.sessions i) p) :
    S.play (List.replicate n (i, e)) = ⟨S.store, Function.update S.sessions i p⟩ ∧
      StepsMeet takeTurn (fun S t => OwnPartner S.store (takeTurn S t).store) S
        (List.replicate n (i, e)) := by
  induction n generalizing S with
  | zero =>
    obtain rfl : S.sessions i = p := h
    exact ⟨by rw [Function.update_eq_self]; rfl, trivial⟩
  | succ n ih =>
    have hstore : (S.turn i e).store = S.store := h.1
    have hrest := @ih (S.turn i e) (by rw [hstore, Turns.turn_self]; exact h.2)
    refine ⟨?_, OwnPartner.of_same (congrArg _ hstore) (congrArg _ hstore), hrest.2⟩
    show (S.turn i e).play (List.replicate n (i, e)) = _
    rw [hrest.1, hstore]
    simp only [Turns.turn, Function.update_idem]

/-- The turn after the reading ones writes. -/
theorem ReadsTo.play_write {p : TariffProg (Option StatusPlan)} {s' : ReviewStore}
    (h : ReadsTo S.store e n (S.sessions i) p) (hp : (p.turn e S.store S.store).2 = s') :
    (S.play (List.replicate (n + 1) (i, e))).store = s' := by
  rw [List.replicate_succ', Turns.play, List.foldl_append]
  show ((S.play (List.replicate n (i, e))).turn i e).store = s'
  rw [h.play.1, Turns.turn]
  dsimp only
  rwa [Function.update_self]

theorem update_alone {own : DirectoryOwners} {elsewhere : OtherHotels} {id : RatePlanId}
    {dto : UpdateRatePlanDto} {before : RatePlan} {scope : PartnerScope} {t : TariffStore}
    {g : Unit → TariffProg (Option StatusPlan)}
    (hi : S.sessions i = (updatePlan own elsewhere id dto >>= g))
    (hself : ¬dto.NamesItself id) (hp : S.store.plans.find id = some before)
    (hscope : partnerScope own e dto.toRatePlanFields before.partnerScope = .ok scope)
    (halone : assertOperatorPlanStandsAlone scope.partnerId.isSome
      (dto.parentRatePlanId.patch before.parentRatePlanId) = .ok ())
    (hunique : assertUniquePartnerScope S.store.plans scope (dto.mealPlan.orElse before.mealPlan)
      (dto.isActive.orElse before.isActive) (some id) = .ok ())
    (hrow : (RatePlansService.updateRow elsewhere.ratePlans S.store.tariffs.plans dto.code id
      (patchPlan dto scope)).map (S.store.tariffs.withPlans (.update e id dto)) = .ok t) :
    (S.play (List.replicate 4 (i, e))).store = { S.store with tariffs := t } := by
  have hread : ReadsTo S.store e 3 (S.sessions i) (save (.plan id) (fun t =>
      (RatePlansService.updateRow elsewhere.ratePlans t.plans dto.code id
        (patchPlan dto scope)).map (t.withPlans (.update e id dto))) >>= g) := by
    rw [hi, updatePlan, if_neg hself]
    refine (readsTo_fetch_bind _ _ _ g).trans (m := 2) ?_
    rw [hp]
    refine ⟨rfl, ?_⟩
    show ReadsTo S.store e 1 ((given (partnerScope own e dto.toRatePlanFields before.partnerScope)
      >>= _) >>= g) _
    rw [hscope, given_ok, halone, given_ok]
    refine (readsTo_fetch_bind _ _ _ g).trans (m := 0) ?_
    rw [hunique, given_ok]
    rfl
  exact hread.play_write (turn_save hrow g)

/-- **A review played alone is written**, if the partner sends what it was shown of its own active
plan. -/
theorem review_alone {p : RatePlan}
    (hi : S.sessions i = reviewCorporateTariff hash c tenantId request partnerId dto)
    (hp : S.store.plans.find dto.ratePlanId = some p) (hmine : p.partnerId = some partnerId)
    (hactive : p.isActive = true) (hop : p.forOperator = true)
    (hdocs : S.store.tariffs.docsOf tenantId p ≠ [])
    (hseen : dto.seenFingerprint = S.store.tariffs.fingerprint hash c tenantId p) :
    StepsMeet takeTurn (fun S t => OwnPartner S.store (takeTurn S t).store) S
        (List.replicate 11 (i, e)) ∧
      (S.play (List.replicate 11 (i, e))).store =
        S.store.accept (reviewNow tenantId request partnerId dto S.store p) dto.reviewedBy
          dto.seenFingerprint := by
  have hread := readsTo_saveReview (e := e) hash c tenantId request partnerId dto hp hmine hactive hop
    hdocs hseen
  rw [← hi] at hread
  have hwrite := hread.play_write (turn_saveReview (e := e)
    (r := reviewNow tenantId request partnerId dto S.store p) hp dto.reviewedBy dto.seenFingerprint
    fun _ => getPlan hash c tenantId dto.ratePlanId)
  refine ⟨?_, hwrite⟩
  rw [show List.replicate 11 (i, e) = List.replicate 10 (i, e) ++ [(i, e)] from rfl,
    stepsMeet_append_singleton]
  refine ⟨hread.play.2, ?_⟩
  have hlast : (takeTurn (S.play (List.replicate 10 (i, e))) (i, e)).store = _ := hwrite
  show OwnPartner (S.play (List.replicate 10 (i, e))).store
    (takeTurn (S.play (List.replicate 10 (i, e))) (i, e)).store
  rw [hlast, hread.play.1]
  exact .accept hp hmine _ _

end Alone

/-! ## Small inputs -/

def PartnerContractPrice.sample (id : ℕ) (partnerId : PartnerId) : PartnerContractPrice where
  id := id
  tenantId := 1
  partnerId := partnerId
  receivedAt := 0
  doc :=
    { contractNumber := "18"
      amendmentNumber := none
      service := .accommodation
      validFrom := 0
      validTo := none
      vatRate := none
      accountCode := none
      accountName := none
      rows := .arr []
      fill := none }

/-- The plan of partner 1, and partners 1 and 2 with contracts of one number and one content. -/
def TariffStore.twoPartners : TariffStore where
  store :=
    { hotel := .oneRoom false
      prices :=
        { roomTypes := Table.empty.insert ⟨1, 2, 2, true⟩
          ratePlans := Table.empty.insert .ofPartner
          rates := .empty
          seasons := []
          standardRates := .empty }
      inventory := .empty
      restrictions := [] }
  docs := (Table.empty.insert (.sample 1 1)).insert (.sample 2 2)

/-- The body that moves a plan to partner 2. -/
def UpdateRatePlanDto.toPartnerTwo : UpdateRatePlanDto where
  toRatePlanFields :=
    ⟨.undefined, .undefined, .undefined, .undefined, .undefined, .undefined, .undefined, .undefined,
      .undefined, .val 2, .undefined, .undefined, .undefined, .undefined⟩
  code := .undefined
  name := .undefined
  idSpelling := 0
  parentSpelling := 0

/-- Partner 1 confirms the plan it was shown. -/
def ReviewCorporateTariffDto.whenShown : ReviewCorporateTariffDto :=
  ⟨1, TariffStore.twoPartners.fingerprint id .codeUnits 1 .ofPartner, .confirmed, "Operator"⟩

def RatePlan.confirmedByOne : RatePlan :=
  withReview .confirmed "Operator" ReviewCorporateTariffDto.whenShown.seenFingerprint .ofPartner

/-- The plan is partner 2's then, with the verdict of partner 1. -/
def TariffStore.movedToTwo : TariffStore where
  store :=
    { twoPartners.store with
      prices := { twoPartners.store.prices with
        ratePlans := Table.empty.insert { RatePlan.confirmedByOne with partnerId := some 2 } } }
  docs := twoPartners.docs

/-- Partner 1 confirms the plan it was shown; the hotel moves the plan to partner 2. -/
def confirmAndMove (move : Bool) : TariffCall :=
  if move then .updatePlan 1 .toPartnerTwo else .review 1 1 .whenShown

/-- Every partner is active and has no accounts. -/
def PartnerDirectory.active : PartnerDirectory :=
  ⟨.none, fun _ => true, fun _ => false, fun _ => false⟩

def confirming : Turns reviewDb Failure (Option StatusPlan) Bool :=
  reviewing id .codeUnits 1 ⟨fun _ => 1, fun _ => 1⟩ ⟨fun _ => false, fun _ => false⟩
    (fun _ => true) .twoPartners confirmAndMove

/-- The turns of partner 1's call up to its write. -/
def confirmTurns : List (Bool × PartnerDirectory) := List.replicate 11 (false, .active)

theorem confirming_alone :
    StepsMeet takeTurn (fun S t => OwnPartner S.store (takeTurn S t).store) confirming
        confirmTurns ∧
      (confirming.play confirmTurns).store =
        confirming.store.accept (reviewNow 1 1 1 .whenShown confirming.store .ofPartner) "Operator"
          ReviewCorporateTariffDto.whenShown.seenFingerprint :=
  review_alone id .codeUnits 1 1 1 .whenShown rfl rfl rfl rfl rfl (by decide) rfl

/-- Partner 1 confirms the plan, and it stays partner 1's. -/
theorem appliedReviews_informed_confirm :
    let S := confirming.play confirmTurns
    ∃ r, S.store.latest RatePlan.confirmedByOne.id = some r ∧ r.verdict = .confirmed ∧
      RatePlan.confirmedByOne.partnerId = some r.partnerId ∧
      r.seen = S.store.tariffs.fingerprint id .codeUnits 1 .confirmedByOne := by
  obtain ⟨hmeet, hstore⟩ := confirming_alone
  have hmem : RatePlan.confirmedByOne ∈ (confirming.play confirmTurns).store.plans := by
    rw [hstore]
    exact List.mem_singleton.mpr rfl
  have happlies :
      (confirming.play confirmTurns).store.tariffs.Applies id .codeUnits 1 .confirmedByOne := by
    rw [hstore]
    exact (TariffStore.applies_iff _ _ _ _).mpr ⟨rfl, rfl, rfl⟩
  unfold confirming at hmeet hmem happlies ⊢
  exact (appliedReviews_informed id .codeUnits 1 ⟨fun _ => 1, fun _ => 1⟩
    ⟨fun _ => false, fun _ => false⟩ (fun _ => true) .twoPartners confirmAndMove
    confirmTurns (by decide) hmeet).1 _ hmem happlies

/-- **A verdict outlives the partner that gave it**: the plan of partner 2 applies by the
confirmation of partner 1. -/
theorem appliedReviews_moved :
    let S := confirming.play (confirmTurns ++ List.replicate 4 (true, .active))
    ∃ p, S.store.plans.find 1 = some p ∧ S.store.tariffs.Applies id .codeUnits 1 p ∧
      p.partnerId = some 2 ∧ (S.store.latest 1).map (·.partnerId) = some 1 := by
  intro S
  have hsession : (confirming.play confirmTurns).sessions true = confirming.sessions true :=
    Turns.play_of_not_mem (by decide)
  have hstore := confirming_alone.2
  have hS : S = (confirming.play confirmTurns).play (List.replicate 4 (true, .active)) :=
    List.foldl_append
  rw [hS]
  generalize confirming.play confirmTurns = T at hsession hstore ⊢
  have hmoved := update_alone (e := .active) (t := .movedToTwo) (i := true) hsession
    (by decide) (by rw [hstore]; rfl) (by rfl) (by rfl) (by rw [hstore]; rfl) (by rw [hstore]; rfl)
  rw [hmoved, hstore]
  exact ⟨_, rfl, (TariffStore.applies_iff _ _ _ _).mpr ⟨rfl, rfl, rfl⟩, rfl, rfl⟩

end KarsHotel
