import KarsHotel.Inventory.PriceCache
import KarsHotel.Lib.Turns
import KarsHotel.RatePlans.Fingerprint

/-!
# The review of a partner's tariff

A partner reads a tariff and its fingerprint, and sends its verdict with the fingerprint
it was shown.

* `withOperatorStatus`, `partnerPlans`: tariffs with their status;
* `applyOperatorReview`, `reviewCorporateTariff`: the review, a session of one query or write after
  the other;
* `createPlan`, `updatePlan`, `removePlan`, `editPrices`, `editDocs`: what the hotel and the
  partners change meanwhile;
* `TariffCall.session`: any of these.

Every query is a transaction of its own, so that other sessions may write between any two.
-/

namespace KarsHotel

open RatePlansService

/-! ## The store -/

/-- A review that was written: who gave it on which plan, the fingerprint its sender was shown, and
the plan, the documents and the prices the call had read. -/
structure AcceptedReview where
  request : ℕ
  planId : RatePlanId
  partnerId : PartnerId
  verdict : OperatorReviewVerdict
  seen : String
  plan : RatePlan
  docs : List ContractPriceDoc
  prices : PriceBook

/-- The fingerprint the call computed. -/
def AcceptedReview.computed (hash : String → String) (c : Collation) (r : AcceptedReview) : String :=
  tariffFingerprint hash c r.docs r.plan (planPrices r.prices r.planId)

/-- The hotel, with the reviews written so far, the latest first. The program keeps of a review what
the plan carries; the list is what the theorems speak of. -/
structure ReviewStore where
  tariffs : TariffStore
  accepted : List AcceptedReview

inductive TariffQuery where
  | plan
  | plans
  | contractDocs
  | rates
  | seasons
  | standardRates

inductive TariffRow where
  | plan (id : RatePlanId)
  | prices
  | contractPrices

/-- The environment answers with the partners' directories. -/
abbrev reviewDb : Db := ⟨ReviewStore, TariffQuery, TariffRow, Empty, PartnerDirectory⟩

abbrev ReviewStore.plans (s : ReviewStore) : Table RatePlan.id := s.tariffs.plans

/-- The verdict of a review, written on its plan. -/
def ReviewStore.accept (s : ReviewStore) (r : AcceptedReview) (reviewedBy fingerprint : String) :
    ReviewStore where
  tariffs := { s.tariffs with
    store := CachedStore.withVerdict s.tariffs.store r.planId r.verdict reviewedBy fingerprint }
  accepted := r :: s.accepted

/-- A session of the hotel. -/
abbrev TariffProg (α : Type) : Type := Prog reviewDb Failure α

def fetch {α : Type} (q : TariffQuery) (f : ReviewStore → α) : TariffProg α :=
  (Tx.read q fun s => .ret (f s)).transact

/-- Go on with a result or an exception. -/
def given {α : Type} : Except Failure α → TariffProg α
  | .ok a => .ret a
  | .error x => .throw x

/-- One write of the tables, or its exception. -/
def save (row : TariffRow) (f : TariffStore → Except Failure TariffStore) : TariffProg Unit :=
  Tx.transact <| .write row
    (fun s => match f s.tariffs with
      | .ok t => { s with tariffs := t }
      | .error _ => s)
    fun s => match f s.tariffs with
      | .ok _ => .ret ()
      | .error x => .throw x

/-! ## The status of tariffs -/

structure StatusPlan where
  plan : RatePlan
  operatorStatus : Option TariffStatus
  fingerprint : Option String

section Sessions

variable (hash : String → String) (c : Collation) (tenantId : TenantId)

/-- A plan decorated from the documents and prices read. -/
def statusPlan (docs : List ContractPriceDoc) (prices : PriceBook) (p : RatePlan) : StatusPlan :=
  if p.forOperator then
    let mine := docsOfContract docs p.operatorContract p.partnerId
    let fingerprint := tariffFingerprint hash c mine p (planPrices prices p.id)
    ⟨p, some (operatorTariffStatus p docs fingerprint), some fingerprint⟩
  else ⟨p, none, none⟩

theorem statusPlan_plan (docs : List ContractPriceDoc) (prices : PriceBook) (p : RatePlan) :
    (statusPlan hash c docs prices p).plan = p := by
  unfold statusPlan
  split_ifs <;> rfl

/-- The documents of all partners. -/
def fetchDocs : TariffProg (List ContractPriceDoc) :=
  fetch .contractDocs fun s => contractDocs s.tariffs.docs tenantId

/-- The three sources of prices, one query each. -/
def fetchPrices : TariffProg PriceBook := do
  let days ← fetch .rates (·.tariffs.store.prices)
  let seasons ← fetch .seasons (·.tariffs.store.prices.seasons)
  let standard ← fetch .standardRates (·.tariffs.store.prices.standardRates)
  .ret { days with seasons := seasons, standardRates := standard }

def withOperatorStatus (plans : List RatePlan) : TariffProg (List StatusPlan) :=
  if plans.any (·.forOperator) then do
    let docs ← fetchDocs tenantId
    let prices ← fetchPrices
    .ret (plans.map (statusPlan hash c docs prices))
  else .ret (plans.map fun p => ⟨p, none, none⟩)

/-- The active plans of a partner in order. -/
def plansOfPartner (plans : Table RatePlan.id) (partnerId : PartnerId) : List RatePlan :=
  (plans.select fun p => decide (p.partnerId = some partnerId) && p.isActive).insertionSort
    AvailabilityService.planBefore

theorem mem_plansOfPartner {plans : Table RatePlan.id} {partnerId : PartnerId} {p : RatePlan} :
    p ∈ plansOfPartner plans partnerId ↔
      p ∈ plans ∧ p.partnerId = some partnerId ∧ p.isActive = true := by
  unfold plansOfPartner
  rw [List.mem_insertionSort, Table.mem_select]
  simp

def partnerPlans (partnerId : PartnerId) : TariffProg (List StatusPlan) := do
  let plans ← fetch .plans fun s => plansOfPartner s.plans partnerId
  withOperatorStatus hash c tenantId plans

def getPlan (id : RatePlanId) : TariffProg (Option StatusPlan) := do
  match ← fetch .plan fun s => s.plans.find id with
  | none => .throw RatePlansService.planNotFound
  | some p => do
    let decorated ← withOperatorStatus hash c tenantId [p]
    .ret decorated.head?

/-! ## The review -/

structure ReviewCorporateTariffDto where
  ratePlanId : RatePlanId
  seenFingerprint : String
  verdict : OperatorReviewVerdict
  reviewedBy : String

def notCorporate : Failure := .conflict "Это не корпоративный тариф оператора"

def nothingToCompare : Failure := .conflict "Нет ценового приложения договора — сверять не с чем"

def pricesChanged : Failure :=
  .conflict "Цены изменились, пока вы смотрели тариф. Откройте его заново и сверьте ещё раз."

def noSuchTariff : Failure := .conflict
  "Такого действующего корпоративного тарифа у гостиницы нет — откройте тарифы заново"

def recordToUpdateNotFound : Failure := .internal "Record to update not found"

/-- `update({ where: { id }, data })` of the review columns. -/
def saveReview (r : AcceptedReview) (reviewedBy fingerprint : String) : TariffProg Unit :=
  Tx.transact <| .write (.plan r.planId) (fun s => s.accept r reviewedBy fingerprint) fun s =>
    if (s.plans.find r.planId).isSome then .ret () else .throw recordToUpdateNotFound

/-- The review of a plan by a partner; `request` tells the calls apart. -/
def applyOperatorReview (request : ℕ) (partnerId : PartnerId) (id : RatePlanId)
    (input : ReviewCorporateTariffDto) : TariffProg (Option StatusPlan) := do
  match ← fetch .plan fun s => s.plans.find id with
  | none => .throw RatePlansService.planNotFound
  | some plan =>
    if !plan.forOperator then .throw notCorporate
    else do
      let docs ← fetchDocs tenantId
      let mine := docsOfContract docs plan.operatorContract plan.partnerId
      if mine.isEmpty then .throw nothingToCompare
      else do
        let prices ← fetchPrices
        let fingerprint := tariffFingerprint hash c mine plan (planPrices prices id)
        if input.seenFingerprint ≠ fingerprint then .throw pricesChanged
        else do
          saveReview ⟨request, id, partnerId, input.verdict, input.seenFingerprint, plan, mine, prices⟩
            input.reviewedBy fingerprint
          getPlan hash c tenantId id

def reviewCorporateTariff (request : ℕ) (partnerId : PartnerId) (dto : ReviewCorporateTariffDto) :
    TariffProg (Option StatusPlan) := do
  let plans ← partnerPlans hash c tenantId partnerId
  match plans.find? fun p => decide (p.plan.id = dto.ratePlanId) with
  | none => .throw noSuchTariff
  | some mine => applyOperatorReview hash c tenantId request partnerId mine.plan.id dto

/-! ## Other writes -/

variable (own : DirectoryOwners) (elsewhere : OtherHotels) (accepts : ContractDocument → Bool)

/-- The tables with other plans. -/
def TariffStore.withPlans (t : TariffStore) (op : RatePlanOp) (plans : Table RatePlan.id) :
    TariffStore :=
  { t with store := CachedStore.withPlans t.store op plans }

def createPlan (id : RatePlanId) (dto : CreateRatePlanDto) : TariffProg Unit :=
  .ask fun dir => do
    let scope ← given (partnerScope own dir dto.toRatePlanFields .empty)
    given (assertOperatorPlanStandsAlone scope.partnerId.isSome dto.parentRatePlanId.toOption)
    let plans ← fetch .plans (·.plans)
    given (assertUniquePartnerScope plans scope (dto.mealPlan.orElse .none)
      (dto.isActive.orElse true) none)
    save (.plan id) fun t =>
      (insertRow elsewhere.ratePlans t.plans (.val dto.code) (newPlan id dto scope)).map
        (t.withPlans (.create dir id dto))

def updatePlan (id : RatePlanId) (dto : UpdateRatePlanDto) : TariffProg Unit :=
  if dto.NamesItself id then .throw selfParent
  else do
    match ← fetch .plan fun s => s.plans.find id with
    | none => .throw RatePlansService.planNotFound
    | some before =>
      .ask fun dir => do
        let scope ← given (partnerScope own dir dto.toRatePlanFields before.partnerScope)
        given (assertOperatorPlanStandsAlone scope.partnerId.isSome
          (dto.parentRatePlanId.patch before.parentRatePlanId))
        let plans ← fetch .plans (·.plans)
        given (assertUniquePartnerScope plans scope (dto.mealPlan.orElse before.mealPlan)
          (dto.isActive.orElse before.isActive) (some id))
        save (.plan id) fun t =>
          (RatePlansService.updateRow elsewhere.ratePlans t.plans dto.code id
            (patchPlan dto scope) (patchPlan_id dto scope)).map (t.withPlans (.update dir id dto))

def removePlan (id : RatePlanId) : TariffProg Unit :=
  save (.plan id) fun t => (deleteRow t.plans id).map (t.withPlans (.remove id))

def editPrices (op : RatesOp) : TariffProg Unit :=
  save .prices fun t => (op.exec elsewhere t.store.prices).map fun b =>
    { t with store := { t.store with prices := b } }

def editDocs (op : MirrorOp) : TariffProg Unit :=
  save .contractPrices fun t => .ok { t with docs := op.step accepts t.docs }

/-! ## Sessions -/

/-- A call of a partner or of the hotel. -/
inductive TariffCall where
  | review (request : ℕ) (partnerId : PartnerId) (dto : ReviewCorporateTariffDto)
  | createPlan (id : RatePlanId) (dto : CreateRatePlanDto)
  | updatePlan (id : RatePlanId) (dto : UpdateRatePlanDto)
  | removePlan (id : RatePlanId)
  | prices (op : RatesOp)
  | docs (op : MirrorOp)

/-- The session of a call; a review answers with the plan. -/
def TariffCall.session : TariffCall → TariffProg (Option StatusPlan)
  | review request partnerId dto => reviewCorporateTariff hash c tenantId request partnerId dto
  | createPlan id dto => KarsHotel.createPlan own elsewhere id dto >>= fun _ => .ret none
  | updatePlan id dto => KarsHotel.updatePlan own elsewhere id dto >>= fun _ => .ret none
  | removePlan id => KarsHotel.removePlan id >>= fun _ => .ret none
  | prices op => editPrices elsewhere op >>= fun _ => .ret none
  | docs op => editDocs accepts op >>= fun _ => .ret none

end Sessions

end KarsHotel
