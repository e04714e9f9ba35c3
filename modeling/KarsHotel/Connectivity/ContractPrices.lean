import KarsHotel.Lib.Calendar
import KarsHotel.Lib.EntryMap
import KarsHotel.Lib.Json
import KarsHotel.Reservations.Service
import Mathlib.Data.Rat.Floor

/-!
# The mirror of contract prices

What `PUT /contract-prices` and `PUT /contract-prices/sync` leave in `partner_contract_price`.

* `IsoText.newDate`, `numeric`: dates and rates as requests send them and as columns hold them;
* `ConnectContractPricesDto.columns`: a document as both calls write it;
* `ContractPrices.update`, `ContractPrices.create`: the writes, with the unique index
  `partner_contract_price_doc_key`;
* `putContractPrices`, `syncContractPrices`: one document, and the whole set of a partner;
* `MirrorOp.run`: any sequence of the two calls, of any partners and hotels.

What the columns otherwise take is a parameter `accepts`: texts and `jsonb` without the character of
code 0, instants that a `timestamp` reaches.
-/

namespace KarsHotel

/-! ## Documents -/

inductive ContractService where
  | accommodation
  | meal
  deriving DecidableEq, Repr

def ContractService.text : ContractService → String
  | accommodation => "ACCOMMODATION"
  | meal => "MEAL"

structure ConnectDirectoryRefDto where
  code : String
  name : String
  deriving DecidableEq, Repr

/-- An ISO 8601 text (`@IsISO8601`): a calendar date, or a text of the standard that `Date` does not
read, such as a week (`2026-W05-1`) or a day of the year (`2026-123`). -/
inductive IsoText where
  | date (d : IsoDate)
  | other (text : String)
  deriving DecidableEq, Repr

/-- `new Date(text)`; there is none where the date is invalid. -/
def IsoText.newDate : IsoText → Option Moment
  | date d => some (parseISO d)
  | other _ => none

structure ConnectContractPricesDto where
  contractNumber : String
  amendmentNumber : Field String
  service : ContractService
  account : Field ConnectDirectoryRefDto
  validFrom : IsoText
  validTo : Field IsoText
  vatRate : Field ℚ
  rows : Json
  fill : Field Json

/-- The columns a document fills; the rate in hundredths. -/
structure ContractDocument where
  contractNumber : String
  amendmentNumber : Option String
  service : ContractService
  validFrom : Moment
  validTo : Option Moment
  vatRate : Option ℤ
  accountCode : Option String
  accountName : Option String
  rows : Json
  fill : Option Json

/-! ## What the columns hold -/

/-- Prisma refuses a `Date` that is invalid. -/
def invalidDate : Failure := .internal "Provided Date object is invalid"

def numericOverflow : Failure := .internal "numeric field overflow"

/-- A date as an argument of a query. -/
def IsoText.argument (t : IsoText) : Except Failure Moment :=
  match t.newDate with
  | some m => .ok m
  | none => .error invalidDate

/-- Hundredths, halves away from zero. -/
def hundredths (x : ℚ) : ℤ :=
  if 0 ≤ x then (x * 100 + 1 / 2).floor else -(-x * 100 + 1 / 2).floor

/-- A number in a column `numeric(5,2)`. -/
def numeric (x : ℚ) : Except Failure ℤ :=
  if (hundredths x).natAbs < 100000 then .ok (hundredths x) else .error numericOverflow

/-- A field where it has a value. -/
def Field.traverse {α β : Type} (f : α → Except Failure β) : Field α → Except Failure (Option β)
  | .val a => (f a).map some
  | _ => .ok none

/-- The columns as a write leaves them. -/
def ConnectContractPricesDto.columns (dto : ConnectContractPricesDto) :
    Except Failure ContractDocument := do
  let validFrom ← dto.validFrom.argument
  let validTo ← dto.validTo.traverse IsoText.argument
  let vatRate ← dto.vatRate.traverse numeric
  return {
    contractNumber := dto.contractNumber
    amendmentNumber := dto.amendmentNumber.toOption
    service := dto.service
    validFrom := validFrom
    validTo := validTo
    vatRate := vatRate
    accountCode := dto.account.toOption.map (·.code)
    accountName := dto.account.toOption.map (·.name)
    rows := dto.rows
    fill := dto.fill.toOption }

/-! ## The table -/

structure ContractPriceData where
  tenantId : TenantId
  partnerId : PartnerId
  doc : ContractDocument
  receivedAt : Moment

structure PartnerContractPrice extends ContractPriceData where
  id : ℕ

abbrev ContractPrices := Table PartnerContractPrice.id

def ContractPriceData.ofPair (d : ContractPriceData) (tenantId : TenantId)
    (partnerId : PartnerId) : Bool :=
  d.tenantId = tenantId && d.partnerId = partnerId

/-- The columns of `partner_contract_price_doc_key`; a null is equal to a null. -/
abbrev DocIndexKey := TenantId × PartnerId × String × Option String × ContractService × Moment

def ContractPriceData.indexKey (d : ContractPriceData) : DocIndexKey :=
  (d.tenantId, d.partnerId, d.doc.contractNumber, d.doc.amendmentNumber, d.doc.service,
    d.doc.validFrom)

namespace ContractPrices

def columnError : Failure := .internal "The value does not fit the column"

variable (accepts : ContractDocument → Bool)

/-- `update({ where: { id }, data })`. -/
def update (s : ContractPrices) (id : ℕ) (data : ContractPriceData) :
    Except Failure ContractPrices :=
  if accepts data.doc = false then .error columnError
  else if s.rows.any fun r => r.id ≠ id && r.indexKey = data.indexKey then .error uniqueViolation
  else .ok (s.modify id fun r => { data with id := r.id })

/-- `create({ data })`. -/
def create (s : ContractPrices) (data : ContractPriceData) : Except Failure ContractPrices :=
  if accepts data.doc = false then .error columnError
  else if s.rows.any fun r => r.indexKey = data.indexKey then .error uniqueViolation
  else .ok (s.insert { data with id := s.fresh })

/-- The documents stored for a partner at a hotel. -/
def documentsOf (s : ContractPrices) (tenantId : TenantId) (partnerId : PartnerId) :
    List ContractDocument :=
  (s.select fun r => r.ofPair tenantId partnerId).map (·.doc)

end ContractPrices

/-! ## The calls -/

section Calls

variable (accepts : ContractDocument → Bool)

/-- `toISOString().slice(0, 10)`: the day, or the month where the year takes a sign and
six digits. -/
def startDay (d : Day) : String :=
  let c := CivilDate.ofDay d
  if 0 ≤ c.year ∧ c.year ≤ 9999 then isoDate d
  else String.ofList (yearSign c.year :: (digits 6 c.year.natAbs ++ '-' :: digits 2 c.month))

/-- What documents are told apart by: contract, amendment (none and the empty one are one), service
and the day of the start. -/
structure DocumentKey where
  contractNumber : String
  amendmentNumber : String
  service : ContractService
  validFrom : Day
  deriving DecidableEq, Repr

def DocumentKey.text (k : DocumentKey) : String :=
  k.contractNumber ++ "|" ++ k.amendmentNumber ++ "|" ++ k.service.text ++ "|" ++
    startDay k.validFrom

def ContractDocument.key (d : ContractDocument) : DocumentKey :=
  ⟨d.contractNumber, d.amendmentNumber.getD "", d.service, dateOf d.validFrom⟩

/-- The key of a document sent, where its start is a date. -/
def ConnectContractPricesDto.key (dto : ConnectContractPricesDto) : Option DocumentKey :=
  dto.validFrom.newDate.map fun m =>
    ⟨dto.contractNumber, dto.amendmentNumber.toOption.getD "", dto.service, dateOf m⟩

/-- `keyOf` of a row. -/
def keyOf (d : ContractDocument) : String := d.key.text

/-- `toISOString` of an invalid date. -/
def invalidTime : Failure := .internal "Invalid time value"

/-- `keyOf` of a document sent. -/
def ConnectContractPricesDto.keyOf (dto : ConnectContractPricesDto) : Except Failure String :=
  match dto.key with
  | some k => .ok k.text
  | none => .error invalidTime

def putContractPrices (s : ContractPrices) (tenantId : TenantId) (dto : ConnectContractPricesDto)
    (partnerId : PartnerId) (now : Moment) : Except Failure ContractPrices := do
  let validFrom ← dto.validFrom.argument
  let key : DocIndexKey := (tenantId, partnerId, dto.contractNumber, dto.amendmentNumber.toOption,
    dto.service, validFrom)
  let existing := s.rows.find? fun r => r.indexKey = key
  let doc ← dto.columns
  match existing with
  | some existing => ContractPrices.update accepts s existing.id ⟨tenantId, partnerId, doc, now⟩
  | none => ContractPrices.create accepts s ⟨tenantId, partnerId, doc, now⟩

structure SyncResult where
  kept : ℕ
  removed : ℕ
  deriving DecidableEq, Repr

/-- One turn of the loop over the incoming documents. -/
def writeIncoming (tenantId : TenantId) (partnerId : PartnerId) (now : Moment)
    (byKey : EntryMap String ℕ) (s : ContractPrices) (e : String × ConnectContractPricesDto) :
    Except Failure ContractPrices := do
  let doc ← e.2.columns
  match byKey.get e.1 with
  | some id => ContractPrices.update accepts s id ⟨tenantId, partnerId, doc, now⟩
  | none => ContractPrices.create accepts s ⟨tenantId, partnerId, doc, now⟩

/-- The entries of the map of incoming documents. -/
def keyed (documents : List ConnectContractPricesDto) :
    Except Failure (List (String × ConnectContractPricesDto)) :=
  documents.mapM fun d => d.keyOf.map fun text => (text, d)

def syncContractPrices (s : ContractPrices) (tenantId : TenantId)
    (documents : List ConnectContractPricesDto) (partnerId : PartnerId) (now : Moment) :
    Except Failure (SyncResult × ContractPrices) := do
  let existing := s.select fun r => r.ofPair tenantId partnerId
  let incoming := EntryMap.ofEntries (← keyed documents)
  let stale := existing.filter fun e => (incoming.get (keyOf e.doc)).isNone
  let byKey := EntryMap.ofEntries (existing.map fun e => (keyOf e.doc, e.id))
  let cleared := s.remove fun r => stale.any fun e => e.id = r.id
  let written ← incoming.rows.foldlM (writeIncoming accepts tenantId partnerId now byKey) cleared
  return (⟨incoming.rows.length, stale.length⟩, written)

end Calls

/-! ## Sequences of calls -/

inductive MirrorOp where
  | put (tenantId : TenantId) (dto : ConnectContractPricesDto) (partnerId : PartnerId)
    (now : Moment)
  | sync (tenantId : TenantId) (documents : List ConnectContractPricesDto) (partnerId : PartnerId)
    (now : Moment)

namespace MirrorOp

variable (accepts : ContractDocument → Bool)

/-- The table after a call; a failed call leaves it as it was. -/
def step (s : ContractPrices) : MirrorOp → ContractPrices
  | put tenantId dto partnerId now =>
    ((putContractPrices accepts s tenantId dto partnerId now).toOption).getD s
  | sync tenantId documents partnerId now =>
    (((syncContractPrices accepts s tenantId documents partnerId now).toOption).map Prod.snd).getD s

/-- The table after a sequence of calls. -/
def run (ops : List MirrorOp) : ContractPrices := ops.foldl (step accepts) .empty

end MirrorOp

end KarsHotel
