import KarsHotel.Connectivity.ContractPrices
import KarsHotel.Connectivity.CreateReservation
import KarsHotel.Lib.CanonicalJson
import KarsHotel.Lib.Decimal
import KarsHotel.Inventory.Inventory

/-!
# The fingerprint of a partner's tariff

What a partner confirms of a tariff: the documents of its contract, its own conditions and its
prices from all three sources, as one text and the hash of that text.

* `tariffFingerprint`: the fingerprint, with `hash` for SHA-256 and `Collation` for `localeCompare`;
* `contractDocs`, `docsOfContract`, `planPrices`: what the rate plans service reads for it;
* `operatorTariffStatus`, `operatorStatus`: whether the confirmation still holds;
* **`tariffFingerprint_inj`**: with a hash without collisions, a fingerprint has one content.
-/

namespace KarsHotel

/-! ## What is read -/

/-- A document of a contract; the database always has its partner. -/
structure ContractPriceDoc where
  partnerId : Option PartnerId
  contractNumber : String
  amendmentNumber : Option String
  service : ContractService
  validFrom : Moment
  validTo : Option Moment
  vatRate : Option ℤ
  rows : Json

inductive PriceKind where
  | standard
  | season
  | day
  deriving DecidableEq, Repr

def PriceKind.text : PriceKind → String
  | standard => "STANDARD"
  | season => "SEASON"
  | day => "DAY"

structure PlanPriceRow where
  kind : PriceKind
  roomTypeId : RoomTypeId
  occupancy : Option ℕ
  dateFrom : Option Day
  dateTo : Option Day
  price : Price
  currency : String
  deriving DecidableEq, Repr

def MealPlan.text : MealPlan → String
  | none => "NONE"
  | bb => "BB"
  | hb => "HB"
  | fb => "FB"
  | ai => "AI"

def PriceModifierType.text : PriceModifierType → String
  | absolute => "ABSOLUTE"
  | percent => "PERCENT"

/-! ## Texts -/

/-- `toISOString`. -/
def isoMoment (m : Moment) : String :=
  let ms := (m % dayMs).toNat
  isoDate (dateOf m) ++ String.ofList ('T' :: (digits 2 (ms / 3600000) ++ ':' ::
    (digits 2 (ms / 60000 % 60) ++ ':' :: (digits 2 (ms / 1000 % 60) ++ '.' ::
      (digits 3 (ms % 1000) ++ ['Z'])))))

example : isoMoment 1767225600500 = "2026-01-01T00:00:00.500Z" := by decide +kernel

/-- The day of a row, empty if it has none. -/
def dayText : Option Day → String
  | none => ""
  | some d => isoDate d

/-- An order of texts, `a.localeCompare(b) <= 0`. -/
structure Collation where
  Before : String → String → Prop
  decidable : DecidableRel Before
  total : ∀ a b, Before a b ∨ Before b a
  trans : ∀ a b c, Before a b → Before b c → Before a c

namespace Collation

def codeUnits : Collation where
  Before a b := utf16 a ≤ utf16 b
  decidable a b := inferInstanceAs (Decidable (utf16 a ≤ utf16 b))
  total a b := le_total (utf16 a) (utf16 b)
  trans _ _ _ hab hbc := le_trans hab hbc

/-- The order of rows by a text. -/
def By (c : Collation) {α : Type} (key : α → String) (a b : α) : Prop := c.Before (key a) (key b)

variable {c : Collation} {α : Type} {key : α → String}

instance : DecidableRel (c.By key) := fun a b => c.decidable (key a) (key b)

instance : Std.Total (c.By key) where
  total a b := c.total (key a) (key b)

instance : IsTrans α (c.By key) where
  trans a b d hab hbd := c.trans (key a) (key b) (key d) hab hbd

theorem by_of_eq {a b : α} (h : key a = key b) : c.By key a b := by
  show c.Before (key a) (key b)
  rw [h]
  exact (c.total (key b) (key b)).elim id id

end Collation

/-! ## What is hashed -/

/-- A document as it is hashed. -/
structure DocEntry where
  contractNumber : String
  amendmentNumber : Option String
  service : ContractService
  validFrom : String
  validTo : Option String
  vatRate : Option ℤ
  rows : Json

def ContractPriceDoc.entry (d : ContractPriceDoc) : DocEntry where
  contractNumber := d.contractNumber
  amendmentNumber := d.amendmentNumber
  service := d.service
  validFrom := isoMoment d.validFrom
  validTo := d.validTo.map isoMoment
  vatRate := d.vatRate
  rows := d.rows.canonical

namespace DocEntry

def sortKey (d : DocEntry) : String :=
  d.service.text ++ "|" ++ d.amendmentNumber.getD "" ++ "|" ++ d.validFrom

def json (d : DocEntry) : Json := .obj
  [("contractNumber", .str d.contractNumber),
   ("amendmentNumber", .ofText d.amendmentNumber),
   ("service", .str d.service.text),
   ("validFrom", .str d.validFrom),
   ("validTo", .ofText d.validTo),
   ("vatRate", .ofNumber (d.vatRate.map JsonNumber.ofDecimal)),
   ("rows", d.rows)]

end DocEntry

/-- A price row as it is hashed. -/
structure PriceEntry where
  kind : PriceKind
  roomTypeId : RoomTypeId
  occupancy : Option ℕ
  dateFrom : String
  dateTo : String
  price : String
  currency : String
  deriving DecidableEq, Repr

def PlanPriceRow.entry (r : PlanPriceRow) : PriceEntry where
  kind := r.kind
  roomTypeId := r.roomTypeId
  occupancy := r.occupancy
  dateFrom := dayText r.dateFrom
  dateTo := dayText r.dateTo
  price := decimalText r.price
  currency := r.currency

namespace PriceEntry

def sortKey (r : PriceEntry) : String :=
  r.kind.text ++ "|" ++ r.roomTypeId.repr ++ "|" ++ r.dateFrom ++ "|" ++ r.dateTo ++ "|" ++
    (r.occupancy.map Nat.repr).getD ""

def json (r : PriceEntry) : Json := .obj
  [("kind", .str r.kind.text),
   ("roomTypeId", jsonId r.roomTypeId),
   ("occupancy", .ofNumber (r.occupancy.map JsonNumber.ofNat)),
   ("dateFrom", .str r.dateFrom),
   ("dateTo", .str r.dateTo),
   ("price", .str r.price),
   ("currency", .str r.currency)]

end PriceEntry

/-- What is hashed of the plan itself: conditions it does not have are left out. -/
def RatePlan.shapeJson (p : RatePlan) : Json := .ofFields
  [("mealPlan", some (.str p.mealPlan.text)),
   ("occupancyPricing", some (.bool p.occupancyPricing)),
   ("priceModifierType", some (.str p.priceModifierType.text)),
   ("priceModifierValue", some (.str (decimalText p.priceModifierValue))),
   ("partnerAccountId", p.partnerAccountId.map jsonId),
   ("partnerCustomerId", p.partnerCustomerId.map jsonId),
   ("guestKind", p.guestKind.map fun k => .str k.code),
   ("vatRate", p.vatRate.map fun v => .str (decimalText v))]

section Fingerprint

variable (hash : String → String) (c : Collation)

/-- The documents in the order they are hashed in. -/
def sortedDocs (docs : List ContractPriceDoc) : List DocEntry :=
  (docs.map ContractPriceDoc.entry).insertionSort (c.By DocEntry.sortKey)

/-- The prices in the order they are hashed in. -/
def sortedPrices (prices : List PlanPriceRow) : List PriceEntry :=
  (prices.map PlanPriceRow.entry).insertionSort (c.By PriceEntry.sortKey)

def tariffFingerprint (docs : List ContractPriceDoc) (plan : RatePlan)
    (prices : List PlanPriceRow) : String :=
  hash (Json.stringify (.obj
    [("docs", .arr ((sortedDocs c docs).map DocEntry.json)),
     ("plan", plan.shapeJson),
     ("prices", .arr ((sortedPrices c prices).map PriceEntry.json))]))

end Fingerprint

/-! ## A fingerprint has one content -/

theorem ContractService.text_injective : Function.Injective ContractService.text := by
  intro a b h
  cases a <;> cases b <;> simp_all [ContractService.text]

theorem PriceKind.text_injective : Function.Injective PriceKind.text := by
  intro a b h
  cases a <;> cases b <;> simp_all [PriceKind.text]

theorem jsonId_injective : Function.Injective jsonId := by
  intro m n h
  exact JsonNumber.ofNat_injective (JsonNumber.ext (Json.str.inj h))

theorem DocEntry.json_injective : Function.Injective DocEntry.json := by
  intro a b h
  simp only [DocEntry.json, Json.obj.injEq, List.cons.injEq, Prod.mk.injEq, Json.str.injEq,
    true_and, and_true] at h
  obtain ⟨hnumber, hamendment, hservice, hfrom, hto, hvat, hrows⟩ := h
  have hamendment := Json.ofText_injective hamendment
  have hservice := ContractService.text_injective hservice
  have hto := Json.ofText_injective hto
  have hvat := Option.map_injective JsonNumber.ofDecimal_injective (Json.ofNumber_injective hvat)
  cases a
  cases b
  simp_all

theorem PriceEntry.json_injective : Function.Injective PriceEntry.json := by
  intro a b h
  simp only [PriceEntry.json, Json.obj.injEq, List.cons.injEq, Prod.mk.injEq, Json.str.injEq,
    true_and, and_true] at h
  obtain ⟨hkind, hroom, hocc, hfrom, hto, hprice, hcurrency⟩ := h
  have hkind := PriceKind.text_injective hkind
  have hroom := jsonId_injective hroom
  have hocc := Option.map_injective JsonNumber.ofNat_injective (Json.ofNumber_injective hocc)
  cases a
  cases b
  simp_all

/-- **With a hash without collisions, a fingerprint has one content.** -/
theorem tariffFingerprint_inj {hash : String → String} (hh : Function.Injective hash)
    {c : Collation} {docs docs' : List ContractPriceDoc} {plan plan' : RatePlan}
    {prices prices' : List PlanPriceRow} :
    tariffFingerprint hash c docs plan prices = tariffFingerprint hash c docs' plan' prices' ↔
      sortedDocs c docs = sortedDocs c docs' ∧ plan.shapeJson = plan'.shapeJson ∧
        sortedPrices c prices = sortedPrices c prices' := by
  constructor
  · intro h
    have hjson := Json.stringify_injective (hh h)
    simp only [Json.obj.injEq, List.cons.injEq, Prod.mk.injEq, Json.arr.injEq, true_and,
      and_true] at hjson
    obtain ⟨hdocs, hplan, hprices⟩ := hjson
    exact ⟨DocEntry.json_injective.list_map hdocs, hplan, PriceEntry.json_injective.list_map hprices⟩
  · rintro ⟨hdocs, hplan, hprices⟩
    unfold tariffFingerprint
    rw [hdocs, hplan, hprices]

/-! ## What the service reads -/

/-- The documents a hotel has of all partners. -/
def contractDocs (docs : ContractPrices) (tenantId : TenantId) : List ContractPriceDoc :=
  (docs.select fun r => decide (r.tenantId = tenantId)).map fun r =>
    { partnerId := some r.partnerId
      contractNumber := r.doc.contractNumber
      amendmentNumber := r.doc.amendmentNumber
      service := r.doc.service
      validFrom := r.doc.validFrom
      validTo := r.doc.validTo
      vatRate := r.doc.vatRate
      rows := r.doc.rows }

/-- The documents of the contract of a tariff, and of its partner where it has one. -/
def docsOfContract (docs : List ContractPriceDoc) (contractNumber : Option String)
    (partnerId : Option PartnerId) : List ContractPriceDoc :=
  match contractNumber.filter (· ≠ "") with
  | none => []
  | some number => docs.filter fun d => decide (d.contractNumber = number) &&
      decide (partnerId = none ∨ d.partnerId = none ∨ d.partnerId = partnerId)

/-- An occupancy of 0 is left out. -/
def occupancyOrNull (n : ℕ) : Option ℕ := if n = 0 then none else some n

def Rate.priceRow (r : Rate) : PlanPriceRow :=
  ⟨.day, r.roomTypeId, some r.occupancy, some r.date, some r.date, r.price, r.currency⟩

def RateSeason.priceRow (r : RateSeason) : PlanPriceRow :=
  ⟨.season, r.roomTypeId, occupancyOrNull r.occupancy, some r.dateFrom, some r.dateTo, r.price,
    r.currency⟩

def StandardRate.priceRow (r : StandardRate) : PlanPriceRow :=
  ⟨.standard, r.roomTypeId, occupancyOrNull r.occupancy, none, none, r.price, r.currency⟩

/-- The prices of a plan from all three sources. -/
def planPrices (b : PriceBook) (id : RatePlanId) : List PlanPriceRow :=
  (b.rates.select fun r => decide (r.ratePlanId = id)).map Rate.priceRow ++
    (b.seasons.filter fun r => decide (r.ratePlanId = id)).map RateSeason.priceRow ++
    (b.standardRates.select fun r => decide (r.ratePlanId = id)).map StandardRate.priceRow

/-! ## The status -/

inductive OperatorTariffState where
  | draft
  | confirmed
  | rejected
  | stale
  deriving DecidableEq, Repr

structure TariffStatus where
  state : OperatorTariffState
  reason : String
  applies : Bool
  deriving DecidableEq, Repr

def operatorTariffStatus (plan : RatePlan) (docs : List ContractPriceDoc)
    (currentFingerprint : String) : TariffStatus :=
  let mine := docsOfContract docs plan.operatorContract plan.partnerId
  match plan.reviewVerdict with
  | none =>
    match plan.operatorContract.filter (· ≠ "") with
    | none => ⟨.draft, "Не указан договор — не с чем сверять", false⟩
    | some number =>
      if mine.isEmpty then
        ⟨.draft, "Оператор ещё не прислал цены по договору " ++ number, false⟩
      else ⟨.draft, "Ждёт проверки оператором", false⟩
  | some .rejected => ⟨.rejected, "Оператор не подтвердил цены", false⟩
  | some .confirmed =>
    if plan.reviewFingerprint ≠ some currentFingerprint then
      ⟨.stale, "Цены изменились после подтверждения — нужна повторная проверка", false⟩
    else ⟨.confirmed, "Подтверждён оператором", true⟩

/-- **A tariff applies** while the last verdict confirms what is there now. -/
theorem operatorTariffStatus_applies {plan : RatePlan} {docs : List ContractPriceDoc} {f : String} :
    (operatorTariffStatus plan docs f).applies = true ↔
      plan.reviewVerdict = some .confirmed ∧ plan.reviewFingerprint = some f := by
  unfold operatorTariffStatus
  cases plan.reviewVerdict with
  | none =>
    dsimp only
    repeat' split
    all_goals simp
  | some v =>
    cases v with
    | rejected => simp
    | confirmed =>
      dsimp only
      split_ifs with h
      · simpa using h
      · simpa using h

/-- What a hotel has, and the mirror of all partners' contracts. -/
structure TariffStore where
  store : TenantStore
  docs : ContractPrices

abbrev TariffStore.plans (s : TariffStore) : Table RatePlan.id := s.store.prices.ratePlans

namespace TariffStore

variable (hash : String → String) (c : Collation) (tenantId : TenantId) (s : TariffStore)

/-- The documents of a plan's contract. -/
def docsOf (plan : RatePlan) : List ContractPriceDoc :=
  docsOfContract (contractDocs s.docs tenantId) plan.operatorContract plan.partnerId

/-- The fingerprint of a plan now. -/
def fingerprint (plan : RatePlan) : String :=
  tariffFingerprint hash c (s.docsOf tenantId plan) plan (planPrices s.store.prices plan.id)

/-- `withOperatorStatus` of one plan: a plan of no partner has no status. -/
def operatorStatus (plan : RatePlan) : Option TariffStatus :=
  if plan.forOperator then
    some (operatorTariffStatus plan (contractDocs s.docs tenantId) (s.fingerprint hash c tenantId plan))
  else none

/-- The plan applies to the partner's bookings. -/
def Applies (plan : RatePlan) : Prop :=
  ∃ status, s.operatorStatus hash c tenantId plan = some status ∧ status.applies = true

theorem applies_iff {plan : RatePlan} : s.Applies hash c tenantId plan ↔
    plan.forOperator = true ∧ plan.reviewVerdict = some .confirmed ∧
      plan.reviewFingerprint = some (s.fingerprint hash c tenantId plan) := by
  unfold Applies operatorStatus
  cases plan.forOperator with
  | false => simp
  | true => simp [operatorTariffStatus_applies]

end TariffStore

def RatePlan.ofPartner : RatePlan where
  id := 1
  code := "KARS"
  name := "Kars"
  mealPlan := .bb
  occupancyPricing := false
  parentRatePlanId := none
  priceModifierType := .percent
  priceModifierValue := 0
  sortOrder := 0
  isActive := true
  partnerId := some 1
  partnerAccountId := none
  partnerCustomerId := none
  guestKind := none
  vatRate := none
  forOperator := true
  operatorContract := some "18"
  reviewVerdict := none
  reviewedBy := none
  reviewFingerprint := none

end KarsHotel
