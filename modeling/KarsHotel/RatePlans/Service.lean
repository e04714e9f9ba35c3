import KarsHotel.Lib.IdText
import KarsHotel.Pricing.Store
import KarsHotel.RatePlans.PartnerTariffMatch
import KarsHotel.Reservations.Service

/-!
# Creating, changing and deleting rate plans

* `RatePlansService.partnerScope`: whose tariff a plan is and what it applies to;
* `RatePlansService.assertUniquePartnerScope`, `assertOperatorPlanStandsAlone`:
  the service's checks;
* `RatePlansService.insertRow`, `updateRow`, `deleteRow`: the writes, with the constraints of the
  table `rate_plan`;
* `RatePlanOp.run`: any sequence of the three calls of one hotel.

A foreign key is not confined to a hotel, so `elsewhere` says which ids are plans of other hotels.
-/

namespace KarsHotel

/-! ## Requests -/

/-- The fields of a request body that may be absent. -/
structure RatePlanFields where
  mealPlan : Field MealPlan
  occupancyPricing : Field Bool
  parentRatePlanId : Field RatePlanId
  priceModifierType : Field PriceModifierType
  priceModifierValue : Field ℤ
  sortOrder : Field ℤ
  isActive : Field Bool
  forOperator : Field Bool
  operatorContract : Field String
  partnerId : Field PartnerId
  partnerAccountId : Field AccountId
  partnerCustomerId : Field CustomerId
  guestKind : Field GuestKind
  vatRate : Field ℤ
  deriving DecidableEq, Repr

structure CreateRatePlanDto extends RatePlanFields where
  code : String
  name : String
  deriving DecidableEq, Repr

/-- With how the request spells the plan's id in its path and the parent's in its body. -/
structure UpdateRatePlanDto extends RatePlanFields where
  code : Field String
  name : Field String
  idSpelling : ℕ
  parentSpelling : ℕ
  deriving DecidableEq, Repr

/-- `dto.parentRatePlanId === id`, which compares the texts. -/
def UpdateRatePlanDto.NamesItself (dto : UpdateRatePlanDto) (id : RatePlanId) : Prop :=
  dto.parentRatePlanId = .val id ∧ IdText.mk id dto.parentSpelling = ⟨id, dto.idSpelling⟩

instance (dto : UpdateRatePlanDto) (id : RatePlanId) : Decidable (dto.NamesItself id) := by
  unfold UpdateRatePlanDto.NamesItself
  infer_instance

/-- What a plan says of its partner. -/
structure PartnerScope where
  partnerId : Option PartnerId
  partnerAccountId : Option AccountId
  partnerCustomerId : Option CustomerId
  guestKind : Option GuestKind
  vatRate : Option ℤ
  deriving DecidableEq, Repr

def PartnerScope.empty : PartnerScope := ⟨none, none, none, none, none⟩

def RatePlan.partnerScope (p : RatePlan) : PartnerScope :=
  ⟨p.partnerId, p.partnerAccountId, p.partnerCustomerId, p.guestKind, p.vatRate⟩

/-! ## The partners' directories -/

/-- Whose accounts and customers these are: an entry is switched on and off, and never moves. -/
structure DirectoryOwners where
  account : AccountId → PartnerId
  customer : CustomerId → PartnerId

/-- The directories at one time: the partner Kars Avia, and what is listed and active. -/
structure PartnerDirectory where
  karsAvia : Option PartnerId
  partners : PartnerId → Bool
  accounts : AccountId → Bool
  customers : CustomerId → Bool

namespace RatePlansService

/-! ## Checks -/

def partnerInactive : Failure := .conflict "Партнёр не найден или выключен"

def foreignAccount : Failure := .conflict "Юрлицо не из справочника этого партнёра"

def foreignCustomer : Failure := .conflict "Авиакомпания не из справочника этого партнёра"

def selfParent : Failure := .conflict "Тариф не может быть родителем самого себя"

def operatorPlanInherits : Failure := .conflict
  ("Корпоративный тариф не может наследовать цены: правка родителя меняла бы " ++
    "подтверждённые цифры молча. Скопируйте ставки и правьте их здесь.")

def rivalPlan (rival : RatePlan) : Failure := .conflict
  ("Корпоративный тариф на эти условия и питание уже есть — «" ++ rival.name ++ "» (" ++
    rival.code ++ "). " ++ "Правьте его или выключите прежний.")

/-- The partner a request leaves a plan with. -/
def pickPartner (dir : PartnerDirectory) (dto : RatePlanFields) (before : PartnerScope) :
    Option PartnerId :=
  let picked := dto.partnerId.patch before.partnerId
  let partnerId := if dto.forOperator = .val true ∧ picked = none then dir.karsAvia else picked
  if dto.forOperator = .val false then none else partnerId

def partnerScope (own : DirectoryOwners) (dir : PartnerDirectory) (dto : RatePlanFields)
    (before : PartnerScope) : Except Failure PartnerScope :=
  match pickPartner dir dto before with
  | none => .ok .empty
  | some partnerId =>
    let scope : PartnerScope :=
      { partnerId := some partnerId
        partnerAccountId := dto.partnerAccountId.patch before.partnerAccountId
        partnerCustomerId := dto.partnerCustomerId.patch before.partnerCustomerId
        guestKind := dto.guestKind.patch before.guestKind
        vatRate := dto.vatRate.patch before.vatRate }
    if dir.partners partnerId = false then .error partnerInactive
    else if scope.partnerAccountId.any fun a => !dir.accounts a || own.account a ≠ partnerId then
      .error foreignAccount
    else if scope.partnerCustomerId.any fun c => !dir.customers c || own.customer c ≠ partnerId then
      .error foreignCustomer
    else .ok scope

/-- An active plan of the same partner, conditions and meals. -/
def isRival (scope : PartnerScope) (mealPlan : MealPlan) (exceptId : Option RatePlanId)
    (p : RatePlan) : Bool :=
  p.partnerId = scope.partnerId && p.partnerAccountId = scope.partnerAccountId &&
    p.partnerCustomerId = scope.partnerCustomerId && p.guestKind = scope.guestKind &&
    p.mealPlan = mealPlan && p.isActive && exceptId ≠ some p.id

def assertUniquePartnerScope (plans : Table RatePlan.id) (scope : PartnerScope)
    (mealPlan : MealPlan) (isActive : Bool) (exceptId : Option RatePlanId) : Except Failure Unit :=
  if scope.partnerId = none ∨ isActive = false then .ok ()
  else match plans.rows.find? (isRival scope mealPlan exceptId) with
    | some rival => .error (rivalPlan rival)
    | none => .ok ()

def assertOperatorPlanStandsAlone (forOperator : Bool) (parentId : Option RatePlanId) :
    Except Failure Unit :=
  if forOperator ∧ parentId.isSome then .error operatorPlanInherits else .ok ()

/-! ## Writes -/

/-- `translatePrismaError` of a unique violation. -/
def codeTaken (code : Field String) : Failure :=
  .conflict ("Тариф с кодом \"" ++ code.orElse "?" ++ "\" уже существует")

def planNotFound : Failure := .notFound "Тариф не найден"

def checkViolation : Failure := .internal "new row violates a check constraint"

def foreignKeyViolation : Failure := .internal "Foreign key constraint failed"

/-- `rate_plan_partner_scope_check`: only a partner's plan has conditions, it inherits no prices,
and `for_operator` says that there is a partner. -/
def scopeCheck (p : RatePlan) : Bool :=
  (p.partnerId.isSome ||
    (p.partnerAccountId.isNone && p.partnerCustomerId.isNone && p.guestKind.isNone)) &&
  (p.partnerId.isNone || p.parentRatePlanId.isNone) && p.forOperator = p.partnerId.isSome

/-- Two rows `rate_plan_partner_scope_key` does not let stand together: active plans of one partner,
the same conditions and meals; a null is equal to a null. -/
def scopeClash (p o : RatePlan) : Bool :=
  p.partnerId.isSome && p.isActive && o.isActive && p.partnerId = o.partnerId &&
    p.partnerAccountId = o.partnerAccountId && p.partnerCustomerId = o.partnerCustomerId &&
    p.guestKind = o.guestKind && p.mealPlan = o.mealPlan

/-- The constraints a row has to meet among the others. -/
def constraints (elsewhere : RatePlanId → Bool) (plans : Table RatePlan.id) (code : Field String)
    (p : RatePlan) : Except Failure Unit :=
  if scopeCheck p = false then .error checkViolation
  else if plans.rows.any fun o => o.id ≠ p.id && (o.code = p.code || scopeClash p o) then
    .error (codeTaken code)
  else if p.parentRatePlanId.any fun q => (plans.find q).isNone && !elsewhere q then
    .error foreignKeyViolation
  else .ok ()

def insertRow (elsewhere : RatePlanId → Bool) (plans : Table RatePlan.id) (code : Field String)
    (p : RatePlan) : Except Failure (Table RatePlan.id) :=
  if (plans.find p.id).isSome || elsewhere p.id then .error (codeTaken code)
  else match constraints elsewhere plans code p with
    | .error x => .error x
    | .ok () => .ok (plans.insert p)

def updateRow (elsewhere : RatePlanId → Bool) (plans : Table RatePlan.id) (code : Field String)
    (id : RatePlanId) (f : RatePlan → RatePlan) (hf : ∀ p, (f p).id = p.id := by intro; rfl) :
    Except Failure (Table RatePlan.id) :=
  match plans.find id with
  | none => .error planNotFound
  | some p => match constraints elsewhere plans code (f p) with
    | .error x => .error x
    | .ok () => .ok (plans.modify id f hf)

/-- `ON DELETE SET NULL`: the children of a deleted plan have no parent any more. -/
def orphan (id : RatePlanId) (p : RatePlan) : RatePlan :=
  { p with parentRatePlanId :=
      if p.parentRatePlanId = some id then none else p.parentRatePlanId }

theorem orphan_id (id : RatePlanId) (p : RatePlan) : (orphan id p).id = p.id := rfl

/-- `delete({ where: { id } })`. -/
def deleteRow (plans : Table RatePlan.id) (id : RatePlanId) :
    Except Failure (Table RatePlan.id) :=
  match plans.find id with
  | none => .error planNotFound
  | some _ => .ok ((plans.remove fun p => p.id = id).map (orphan id))

/-! ## The calls -/

section Calls

variable (own : DirectoryOwners) (elsewhere : RatePlanId → Bool) (dir : PartnerDirectory)
  (plans : Table RatePlan.id)

/-- The row a request creates. -/
def newPlan (id : RatePlanId) (dto : CreateRatePlanDto) (scope : PartnerScope) : RatePlan where
  id := id
  code := dto.code
  name := dto.name
  mealPlan := dto.mealPlan.orElse .none
  occupancyPricing := dto.occupancyPricing.orElse false
  parentRatePlanId := dto.parentRatePlanId.toOption
  priceModifierType := dto.priceModifierType.orElse .percent
  priceModifierValue := dto.priceModifierValue.orElse 0
  sortOrder := dto.sortOrder.orElse 0
  isActive := dto.isActive.orElse true
  partnerId := scope.partnerId
  partnerAccountId := scope.partnerAccountId
  partnerCustomerId := scope.partnerCustomerId
  guestKind := scope.guestKind
  vatRate := scope.vatRate
  forOperator := scope.partnerId.isSome
  operatorContract := dto.operatorContract.toOption
  reviewVerdict := none
  reviewedBy := none
  reviewFingerprint := none

def create (id : RatePlanId) (dto : CreateRatePlanDto) : Except Failure (Table RatePlan.id) := do
  let scope ← partnerScope own dir dto.toRatePlanFields .empty
  assertOperatorPlanStandsAlone scope.partnerId.isSome dto.parentRatePlanId.toOption
  assertUniquePartnerScope plans scope (dto.mealPlan.orElse .none) (dto.isActive.orElse true) none
  insertRow elsewhere plans (.val dto.code) (newPlan id dto scope)

/-- The row a request leaves. -/
def patchPlan (dto : UpdateRatePlanDto) (scope : PartnerScope) (p : RatePlan) : RatePlan where
  id := p.id
  code := dto.code.orElse p.code
  name := dto.name.orElse p.name
  mealPlan := dto.mealPlan.orElse p.mealPlan
  occupancyPricing := dto.occupancyPricing.orElse p.occupancyPricing
  parentRatePlanId := dto.parentRatePlanId.patch p.parentRatePlanId
  priceModifierType := dto.priceModifierType.orElse p.priceModifierType
  priceModifierValue := dto.priceModifierValue.orElse p.priceModifierValue
  sortOrder := dto.sortOrder.orElse p.sortOrder
  isActive := dto.isActive.orElse p.isActive
  partnerId := scope.partnerId
  partnerAccountId := scope.partnerAccountId
  partnerCustomerId := scope.partnerCustomerId
  guestKind := scope.guestKind
  vatRate := scope.vatRate
  forOperator := scope.partnerId.isSome
  operatorContract := dto.operatorContract.patch p.operatorContract
  reviewVerdict := p.reviewVerdict
  reviewedBy := p.reviewedBy
  reviewFingerprint := p.reviewFingerprint

theorem patchPlan_id (dto : UpdateRatePlanDto) (scope : PartnerScope) (p : RatePlan) :
    (patchPlan dto scope p).id = p.id := rfl

def update (id : RatePlanId) (dto : UpdateRatePlanDto) : Except Failure (Table RatePlan.id) :=
  if dto.NamesItself id then .error selfParent
  else match plans.find id with
    | none => .error planNotFound
    | some before => do
      let scope ← partnerScope own dir dto.toRatePlanFields before.partnerScope
      assertOperatorPlanStandsAlone scope.partnerId.isSome
        (dto.parentRatePlanId.patch before.parentRatePlanId)
      assertUniquePartnerScope plans scope (dto.mealPlan.orElse before.mealPlan)
        (dto.isActive.orElse before.isActive) (some id)
      updateRow elsewhere plans dto.code id (patchPlan dto scope)

def remove (id : RatePlanId) : Except Failure (Table RatePlan.id) := deleteRow plans id

end Calls

/-- The row with a partner's verdict on it. -/
def withReview (verdict : OperatorReviewVerdict) (reviewedBy fingerprint : String) (p : RatePlan) :
    RatePlan :=
  { p with
    reviewVerdict := some verdict
    reviewedBy := some reviewedBy
    reviewFingerprint := some fingerprint }

end RatePlansService

/-! ## Sequences of calls -/

/-- A call, with the directories at its time; `id` in a creation is the one drawn for the row. -/
inductive RatePlanOp where
  | create (dir : PartnerDirectory) (id : RatePlanId) (dto : CreateRatePlanDto)
  | update (dir : PartnerDirectory) (id : RatePlanId) (dto : UpdateRatePlanDto)
  | remove (id : RatePlanId)

namespace RatePlanOp

open RatePlansService

variable (own : DirectoryOwners) (elsewhere : RatePlanId → Bool)

/-- What a call answers. -/
def exec (plans : Table RatePlan.id) : RatePlanOp → Except Failure (Table RatePlan.id)
  | create dir id dto => RatePlansService.create own elsewhere dir plans id dto
  | update dir id dto => RatePlansService.update own elsewhere dir plans id dto
  | remove id => RatePlansService.remove plans id

/-- The plans after a call; a refused one leaves them as they were. -/
def step (plans : Table RatePlan.id) (op : RatePlanOp) : Table RatePlan.id :=
  match op.exec own elsewhere plans with
  | .ok plans' => plans'
  | .error _ => plans

/-- The plans after a sequence of calls. -/
def run (ops : List RatePlanOp) : Table RatePlan.id := ops.foldl (step own elsewhere) .empty

end RatePlanOp

end KarsHotel
