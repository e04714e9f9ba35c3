import KarsHotel.Inventory.PriceCache
import KarsHotel.RatePlans.PlanNight
import KarsHotel.RatePlans.Writes

/-!
# A confirmed tariff sells at the confirmed price

A partner confirms a tariff by its fingerprint, and both sides go on editing: the hotel its prices
and plans, the partners their contracts.

* `TariffEdit.step`: one edit; `confirm`: the verdict as it is written;
* `TariffEdit.KeepsRanks`: an edit does not put the confirmed seasons back with other ranks;
* `Reviewed`: what all edits keep of a plan that was reviewed;
* **`confirmedNight_kept`**: while the tariff applies, its nights have the price of the review.
-/

namespace KarsHotel

open RatePlansService

/-! ## Edits -/

/-- An edit of prices, of plans or of the mirror of contracts. -/
inductive TariffEdit where
  | prices (op : RatesOp)
  | ratePlan (op : RatePlanOp)
  | docs (op : MirrorOp)

section Edits

variable (own : DirectoryOwners) (elsewhere : OtherHotels) (accepts : ContractDocument → Bool)

/-- What an edit leaves; a refused one leaves everything as it was. -/
def TariffEdit.step (s : TariffStore) : TariffEdit → TariffStore
  | prices op => match op.exec elsewhere s.store.prices with
    | .error _ => s
    | .ok b => { s with store := { s.store with prices := b } }
  | ratePlan op => match op.exec own elsewhere.ratePlans s.plans with
    | .error _ => s
    | .ok plans => { s with store := CachedStore.withPlans s.store op plans }
  | docs op => { s with docs := op.step accepts s.docs }

def TariffEdit.run (s : TariffStore) (edits : List TariffEdit) : TariffStore :=
  edits.foldl (step own elsewhere accepts) s

end Edits

/-- The verdict of a review, as it is written. -/
def confirm (s : TariffStore) (id : RatePlanId) (reviewedBy fingerprint : String) : TariffStore :=
  { s with store := CachedStore.withVerdict s.store id .confirmed reviewedBy fingerprint }

/-- Where an edit saves the season rows that were reviewed, it ranks them as they were ranked. -/
def TariffEdit.KeepsRanks (planId : RatePlanId) (reviewed : List RateSeason) (_ : TariffStore) :
    TariffEdit → Prop
  | prices (.replaceSeasons dto) => dto.ratePlanId.id = planId →
      (dto.rows.map RateSeason.priceRow).Perm (reviewed.map RateSeason.priceRow) →
        SameRanks reviewed dto.rows
  | _ => True

/-! ## What edits keep -/

/-- Seasons that are those reviewed, for the fingerprint, are ranked as they were. -/
def Ranked (reviewed : List RateSeason) (planId : RatePlanId) (b : PriceBook) : Prop :=
  ((seasonsOf b planId).map RateSeason.priceRow).Perm (reviewed.map RateSeason.priceRow) →
    SameRanks reviewed (seasonsOf b planId)

/-- A plan that was reviewed: the table checks every row, and the seasons reviewed keep their
ranks. -/
structure Reviewed (reviewed : List RateSeason) (planId : RatePlanId) (s : TariffStore) : Prop where
  checked : ∀ p ∈ s.plans, scopeCheck p = true
  ranked : Ranked reviewed planId s.store.prices

/-- The plan carries the verdict of this review or none. -/
def Carries (planId : RatePlanId) (fingerprint : String) (plans : Table RatePlan.id) : Prop :=
  ∀ p ∈ plans, p.id = planId → p.reviewVerdict = none ∨ p.reviewFingerprint = some fingerprint

section Keeps

variable {own : DirectoryOwners} {elsewhere : OtherHotels} {accepts : ContractDocument → Bool}
  {planId : RatePlanId} {reviewed : List RateSeason} {s : TariffStore}

theorem scopeCheck_orphan {id : RatePlanId} {p : RatePlan} (h : scopeCheck p = true) :
    scopeCheck (orphan id p) = true := by
  unfold scopeCheck orphan at *
  simp only [Bool.and_eq_true, Bool.or_eq_true] at h ⊢
  refine ⟨⟨h.1.1, h.1.2.imp_right fun hparent => ?_⟩, h.2⟩
  rw [Option.isNone_iff_eq_none] at hparent ⊢
  rw [hparent]
  simp

/-- The seasons of a plan after all seasons of some plan were replaced. -/
theorem seasonsOf_replace (b : PriceBook) (dto : ReplaceSeasonsDto) :
    seasonsOf { b with
      seasons := (b.seasons.filter fun r => !decide (r.ratePlanId = dto.ratePlanId.id)) ++ dto.rows }
        planId = if dto.ratePlanId.id = planId then dto.rows else seasonsOf b planId := by
  simp only [seasonsOf, List.filter_append, List.filter_filter]
  split_ifs with h
  · have hold : b.seasons.filter (fun r => decide (r.ratePlanId = planId) &&
        !decide (r.ratePlanId = dto.ratePlanId.id)) = [] := by
      refine List.filter_eq_nil_iff.mpr fun r _ => ?_
      rw [h]
      simp
    have hnew : dto.rows.filter (fun r => decide (r.ratePlanId = planId)) = dto.rows := by
      refine List.filter_eq_self.mpr fun r hr => ?_
      rw [decide_eq_true_eq, dto.ratePlanId_of_mem hr, h]
    rw [hold, hnew, List.nil_append]
  · have hold : b.seasons.filter (fun r => decide (r.ratePlanId = planId) &&
        !decide (r.ratePlanId = dto.ratePlanId.id)) =
          b.seasons.filter fun r => decide (r.ratePlanId = planId) := by
      refine List.filter_congr fun r _ => ?_
      by_cases hr : r.ratePlanId = planId
      · simp [hr, Ne.symm h]
      · simp [hr]
    have hnew : dto.rows.filter (fun r => decide (r.ratePlanId = planId)) = [] := by
      refine List.filter_eq_nil_iff.mpr fun r hr => ?_
      rw [decide_eq_true_eq, dto.ratePlanId_of_mem hr]
      exact h
    rw [hold, hnew, List.append_nil]

theorem Ranked.withPlans {op : RatePlanOp} {plans : Table RatePlan.id} {x : TenantStore}
    (h : Ranked reviewed planId x.prices) :
    Ranked reviewed planId (CachedStore.withPlans x op plans).prices := by
  cases op with
  | create dir id dto | update dir id dto => exact h
  | remove id =>
    have hseasons : seasonsOf (CachedStore.withPlans x (.remove id) plans).prices planId =
        if id = planId then [] else seasonsOf x.prices planId := by
      simp only [CachedStore.withPlans, CachedStore.removePlanRows, seasonsOf, List.filter_filter]
      split_ifs with hid
      · refine List.filter_eq_nil_iff.mpr fun r _ => ?_
        rw [hid]
        simp
      · refine List.filter_congr fun r _ => ?_
        by_cases hr : r.ratePlanId = planId
        · simp [hr, Ne.symm hid]
        · simp [hr]
    unfold Ranked
    rw [hseasons]
    split_ifs with hid
    · intro _ r hr s hs r' hr'
      exact absurd hr' List.not_mem_nil
    · exact h

/-- **One edit** keeps what is known of a reviewed plan. -/
theorem Reviewed.step (h : Reviewed reviewed planId s) (e : TariffEdit)
    (he : e.KeepsRanks planId reviewed s) :
    Reviewed reviewed planId (e.step own elsewhere accepts s) := by
  cases e with
  | prices op =>
    simp only [TariffEdit.step]
    cases hexec : op.exec elsewhere s.store.prices with
    | error x => exact h
    | ok b =>
      rcases RatesOp.exec_frame hexec with hsame | ⟨dto, rfl, rfl⟩
      · refine ⟨fun p hp => ?_, ?_⟩
        · have hp : p ∈ b.ratePlans := hp
          rw [hsame.ratePlans] at hp
          exact h.checked p hp
        · unfold Ranked seasonsOf
          dsimp only
          rw [hsame.seasons]
          exact h.ranked
      · refine ⟨h.checked, ?_⟩
        unfold Ranked
        dsimp only
        rw [seasonsOf_replace]
        split_ifs with hid
        · exact he hid
        · exact h.ranked
  | ratePlan op =>
    simp only [TariffEdit.step]
    cases hexec : op.exec own elsewhere.ratePlans s.plans with
    | error x => exact h
    | ok plans =>
      refine ⟨fun p hp => ?_, h.ranked.withPlans⟩
      have hp : p ∈ plans := CachedStore.plans_withPlans s.store op plans ▸ hp
      rcases (RatePlanOp.exec_cases hexec).mem hp with hp | ⟨p₀, hp₀, id, rfl⟩ | hp
      · exact h.checked p hp
      · exact scopeCheck_orphan (h.checked p₀ hp₀)
      · exact hp.check
  | docs op => exact ⟨h.checked, h.ranked⟩

theorem Carries.change {fingerprint : String} {elsewhere : RatePlanId → Bool} {op : RatePlanOp}
    {plans plans' : Table RatePlan.id} (h : Carries planId fingerprint plans)
    (hchange : PlanChange own elsewhere plans op plans') : Carries planId fingerprint plans' := by
  intro p hp
  cases hchange with
  | created dir id dto scope hfree hid hnew =>
    rcases Table.mem_of_mem_insert hp with hp | rfl
    · exact h p hp
    · exact fun _ => .inl rfl
  | updated dir id dto scope before hbefore hself hnew =>
    rcases Table.mem_modify.mp hp with ⟨hp, -⟩ | ⟨p₀, hp₀, -, rfl⟩
    · exact h p hp
    · exact h p₀ hp₀
  | removed id =>
    obtain ⟨p₀, hp₀, rfl⟩ := Table.mem_map.mp hp
    exact h p₀ (Table.mem_remove.mp hp₀).1

/-- **No edit writes a verdict.** -/
theorem Carries.step {fingerprint : String} (h : Carries planId fingerprint s.plans)
    (e : TariffEdit) : Carries planId fingerprint (e.step own elsewhere accepts s).plans := by
  cases e with
  | prices op =>
    simp only [TariffEdit.step]
    cases hexec : op.exec elsewhere s.store.prices with
    | error x => exact h
    | ok b =>
      rcases RatesOp.exec_frame hexec with hsame | ⟨dto, rfl, rfl⟩
      · intro p hp
        have hp : p ∈ b.ratePlans := hp
        rw [hsame.ratePlans] at hp
        exact h p hp
      · exact h
  | ratePlan op =>
    simp only [TariffEdit.step]
    cases hexec : op.exec own elsewhere.ratePlans s.plans with
    | error x => exact h
    | ok plans =>
      have hplans : Carries planId fingerprint plans := h.change (RatePlanOp.exec_cases hexec)
      rwa [← CachedStore.plans_withPlans s.store op plans] at hplans
  | docs op => exact h

theorem Reviewed.confirm {reviewedBy fingerprint : String} (h : Reviewed reviewed planId s) :
    Reviewed reviewed planId (KarsHotel.confirm s planId reviewedBy fingerprint) := by
  refine ⟨fun p hp => ?_, h.ranked⟩
  have hp : p ∈ s.plans.modify planId (withReview .confirmed reviewedBy fingerprint) := hp
  rcases Table.mem_modify.mp hp with ⟨hp, -⟩ | ⟨p₀, hp₀, -, rfl⟩
  · exact h.checked p hp
  · exact h.checked p₀ hp₀

theorem carries_confirm (s : TariffStore) (planId : RatePlanId) (reviewedBy fingerprint : String) :
    Carries planId fingerprint (confirm s planId reviewedBy fingerprint).plans := by
  intro p hp hid
  have hp : p ∈ s.plans.modify planId (withReview .confirmed reviewedBy fingerprint) := hp
  rcases Table.mem_modify.mp hp with ⟨-, hne⟩ | ⟨p₀, -, -, rfl⟩
  · exact absurd hid hne
  · exact .inr rfl

end Keeps

/-! ## The price -/

/-- A plan whose table check holds and that is for a partner's bookings has a partner. -/
theorem partner_of_forOperator {p : RatePlan} (hcheck : scopeCheck p = true)
    (h : p.forOperator = true) : p.partnerId.isSome = true := by
  unfold scopeCheck at hcheck
  simp only [Bool.and_eq_true, decide_eq_true_eq] at hcheck
  rw [← hcheck.2, h]

theorem perm_seasons {b b' : PriceBook} {planId : RatePlanId}
    (h : (planPrices b planId).Perm (planPrices b' planId)) :
    ((seasonsOf b planId).map RateSeason.priceRow).Perm
      ((seasonsOf b' planId).map RateSeason.priceRow) := by
  have hseasons : ∀ c : PriceBook, (planPrices c planId).filter (fun r => decide (r.kind = .season)) =
      (seasonsOf c planId).map RateSeason.priceRow := by
    intro c
    simp only [planPrices, List.filter_append, List.filter_map, seasonsOf]
    have hdays : ∀ l : List Rate,
        l.filter ((fun r => decide (r.kind = .season)) ∘ Rate.priceRow) = [] :=
      fun l => List.filter_eq_nil_iff.mpr fun r _ => by simp [Rate.priceRow]
    have hstandards : ∀ l : List StandardRate,
        l.filter ((fun r => decide (r.kind = .season)) ∘ StandardRate.priceRow) = [] :=
      fun l => List.filter_eq_nil_iff.mpr fun r _ => by simp [StandardRate.priceRow]
    have hall : ∀ l : List RateSeason,
        l.filter ((fun r => decide (r.kind = .season)) ∘ RateSeason.priceRow) = l :=
      fun l => List.filter_eq_self.mpr fun r _ => by simp [RateSeason.priceRow]
    rw [hdays, hstandards, hall]
    simp
  have hfilter := h.filter fun r => decide (r.kind = .season)
  rwa [hseasons, hseasons] at hfilter

section Price

variable (hash : String → String) (hh : Function.Injective hash) (c : Collation)
  (tenantId : TenantId) (own : DirectoryOwners) (elsewhere : OtherHotels)
  (accepts : ContractDocument → Bool)

include hh in
/-- **A confirmed tariff sells at the confirmed price.** A review has read `plan`, then `docs`, then
the prices of `s₀`; edits go on until its verdict is written and after that. Whenever the tariff
applies, a night has the price it had when the prices were read, if the seasons reviewed were
unambiguous and no edit saves them with other ranks. -/
theorem confirmedNight_kept (s₀ : TariffStore) (plan : RatePlan) (docs : List ContractPriceDoc)
    (reviewedBy : String) (before after : List TariffEdit)
    (hcorporate : plan.forOperator = true) (hcheck : scopeCheck plan = true)
    (hchecked : ∀ p ∈ s₀.plans, scopeCheck p = true)
    (hseasons : Unambiguous (seasonsOf s₀.store.prices plan.id))
    (hbefore : StepsMeet (TariffEdit.step own elsewhere accepts)
      (TariffEdit.KeepsRanks plan.id (seasonsOf s₀.store.prices plan.id)) s₀ before)
    (hafter : StepsMeet (TariffEdit.step own elsewhere accepts)
      (TariffEdit.KeepsRanks plan.id (seasonsOf s₀.store.prices plan.id))
      (confirm (TariffEdit.run own elsewhere accepts s₀ before) plan.id reviewedBy
        (tariffFingerprint hash c docs plan (planPrices s₀.store.prices plan.id))) after) :
    let s := TariffEdit.run own elsewhere accepts
      (confirm (TariffEdit.run own elsewhere accepts s₀ before) plan.id reviewedBy
        (tariffFingerprint hash c docs plan (planPrices s₀.store.prices plan.id))) after
    ∀ p, s.plans.find plan.id = some p → s.Applies hash c tenantId p →
      ∀ (roomTypeId : RoomTypeId) (checkIn checkOut day : Day), checkIn ≤ day → day ≤ checkOut →
        ∀ (basePrice : Option Price) (guests : Option ℕ),
          AvailabilityService.nightPrice s.store roomTypeId checkIn checkOut basePrice guests p day =
            AvailabilityService.nightPrice s₀.store roomTypeId checkIn checkOut basePrice guests plan
              day := by
  intro s p hp happlies roomTypeId checkIn checkOut day h₁ h₂ basePrice guests
  have hreviewed₀ : Reviewed (seasonsOf s₀.store.prices plan.id) plan.id s₀ :=
    ⟨hchecked, fun _ => hseasons.kept.ranks⟩
  have hreviewed : Reviewed (seasonsOf s₀.store.prices plan.id) plan.id s :=
    foldl_keeps (fun _ e h he => h.step e he)
      (foldl_keeps (fun _ e h he => h.step e he) hreviewed₀ hbefore).confirm hafter
  have hcarries : Carries plan.id
      (tariffFingerprint hash c docs plan (planPrices s₀.store.prices plan.id)) s.plans :=
    foldl_keeps_all (P := fun s : TariffStore => Carries plan.id _ s.plans) (fun _ e h => h.step e) after
      (carries_confirm _ _ _ _)
  obtain ⟨hmem, hid⟩ := Table.find_eq_some.mp hp
  obtain ⟨hforOperator, hverdict, hfingerprint⟩ := (s.applies_iff hash c tenantId).mp happlies
  -- the fingerprint now is the one reviewed, so the price rows are the same
  have hsame : tariffFingerprint hash c docs plan (planPrices s₀.store.prices plan.id) =
      s.fingerprint hash c tenantId p := by
    rcases hcarries p hmem hid with hnone | hcarried
    · rw [hnone] at hverdict
      cases hverdict
    · rw [hcarried] at hfingerprint
      exact Option.some.inj hfingerprint
  have hperm : (planPrices s₀.store.prices plan.id).Perm (planPrices s.store.prices plan.id) := by
    unfold TariffStore.fingerprint at hsame
    rw [hid] at hsame
    exact perm_of_sortedPrices ((tariffFingerprint_inj hh).mp hsame).2.2
  have hkept : PlanKept s₀.store.prices s.store.prices plan.id :=
    .of_rows (fun _ => hperm.mem_iff) hseasons (hreviewed.ranked (perm_seasons hperm.symm))
  exact nightPrice_congr hid (partner_of_forOperator hcheck hcorporate)
    (partner_of_forOperator (hreviewed.checked p hmem) hforOperator) hkept h₁ h₂ _ _ guests

end Price

/-! ## Small inputs -/

/-- A document of the contract of `RatePlan.ofPartner`. -/
def PartnerContractPrice.ofPartner : PartnerContractPrice where
  id := 1
  tenantId := 1
  partnerId := 1
  receivedAt := 0
  doc :=
    { contractNumber := "18"
      amendmentNumber := none
      service := .accommodation
      validFrom := 0
      validTo := none
      vatRate := none
      accountCode := none
      accountName := none
      rows := .arr []
      fill := none }

/-- The hotel of one room with the plan of a partner, priced by seasons. -/
def TariffStore.seasonal (seasons : List RateSeason) : TariffStore where
  store :=
    { hotel := .oneRoom false
      prices :=
        { roomTypes := Table.empty.insert ⟨1, 2, 2, true⟩
          ratePlans := Table.empty.insert .ofPartner
          rates := .empty
          seasons := seasons
          standardRates := .empty }
      inventory := .empty
      restrictions := [] }
  docs := Table.empty.insert .ofPartner

/-- Two seasons that start on day 0: until day 9 for 4000, and until day 19 for 4500. -/
def ReplaceSeasonsDto.overlapping (short long : ℤ) : ReplaceSeasonsDto where
  ratePlanId := 1
  currency := none
  seasons := [⟨"Short", 0, 9, some short, [⟨1, 400000, none⟩]⟩,
    ⟨"Long", 0, 19, some long, [⟨1, 450000, none⟩]⟩]

/-- The seasons saved again as they were, after the verdict. -/
theorem confirmedNight_kept_saved :
    let s₀ := TariffStore.seasonal (ReplaceSeasonsDto.overlapping 0 1).rows
    let s := TariffEdit.run ⟨fun _ => 1, fun _ => 1⟩ ⟨fun _ => false, fun _ => false⟩
      (fun _ => true) (confirm s₀ 1 "Operator" (s₀.fingerprint id .codeUnits 1 .ofPartner))
      [.prices (.replaceSeasons (.overlapping 0 1))]
    AvailabilityService.nightPrice s.store 1 0 1 none (some 1)
        (withReview .confirmed "Operator" (s₀.fingerprint id .codeUnits 1 .ofPartner) .ofPartner) 0 =
      AvailabilityService.nightPrice s₀.store 1 0 1 none (some 1) .ofPartner 0 :=
  confirmedNight_kept id Function.injective_id .codeUnits 1 ⟨fun _ => 1, fun _ => 1⟩
    ⟨fun _ => false, fun _ => false⟩ (fun _ => true)
    (.seasonal (ReplaceSeasonsDto.overlapping 0 1).rows) .ofPartner
    ((TariffStore.seasonal (ReplaceSeasonsDto.overlapping 0 1).rows).docsOf 1 .ofPartner) "Operator"
    [] [.prices (.replaceSeasons (.overlapping 0 1))] rfl rfl
    (by decide) ⟨by decide, by decide, by decide⟩ trivial
    ⟨fun _ _ => by unfold SameRanks; decide, trivial⟩ _ rfl
    ((TariffStore.applies_iff _ _ _ _).mpr ⟨rfl, rfl, rfl⟩) 1 0 1 0 (by decide) (by decide) none
    (some 1)

/-- The seasons saved again with their sort orders exchanged, after the verdict. -/
theorem reranked_sells (hash : String → String) (c : Collation) :
    let s₀ := TariffStore.seasonal (ReplaceSeasonsDto.overlapping 0 1).rows
    let s := TariffEdit.run ⟨fun _ => 1, fun _ => 1⟩ ⟨fun _ => false, fun _ => false⟩
      (fun _ => true) (confirm s₀ 1 "Operator" (s₀.fingerprint hash c 1 .ofPartner))
      [.prices (.replaceSeasons (.overlapping 1 0))]
    ∃ p, s.plans.find 1 = some p ∧ s.Applies hash c 1 p ∧
      AvailabilityService.nightPrice s₀.store 1 0 1 none (some 1) .ofPartner 0 = some 450000 ∧
      AvailabilityService.nightPrice s.store 1 0 1 none (some 1) p 0 = some 400000 := by
  intro s₀ s
  refine ⟨withReview .confirmed "Operator" (s₀.fingerprint hash c 1 .ofPartner) .ofPartner, rfl,
    (s.applies_iff hash c 1).mpr ⟨rfl, rfl, ?_⟩, ?_, ?_⟩
  · rfl
  · decide +kernel
  · rfl

/-- **Ranks are not in the fingerprint**: with no hash and no collation does the confirmed tariff
keep its price when the seasons are saved again with their sort orders exchanged. -/
theorem confirmedNight_reranked : ¬∃ (hash : String → String) (c : Collation),
    let s₀ := TariffStore.seasonal (ReplaceSeasonsDto.overlapping 0 1).rows
    let s := TariffEdit.run ⟨fun _ => 1, fun _ => 1⟩ ⟨fun _ => false, fun _ => false⟩
      (fun _ => true) (confirm s₀ 1 "Operator" (s₀.fingerprint hash c 1 .ofPartner))
      [.prices (.replaceSeasons (.overlapping 1 0))]
    ∀ p, s.plans.find 1 = some p → s.Applies hash c 1 p →
      AvailabilityService.nightPrice s.store 1 0 1 none (some 1) p 0 =
        AvailabilityService.nightPrice s₀.store 1 0 1 none (some 1) .ofPartner 0 := by
  rintro ⟨hash, c, h⟩
  obtain ⟨p, hp, happlies, hconfirmed, hsold⟩ := reranked_sells hash c
  have hsame := h p hp happlies
  rw [hconfirmed, hsold] at hsame
  exact absurd hsame (by decide)

end KarsHotel
