import KarsHotel.Lib.IdText
import KarsHotel.Lib.Run
import KarsHotel.RatePlans.Service

/-!
# Editing prices

The writes of the rates service to the three sources of a night's price.

* `bulkUpsert`, `fillRange`, `removeRate`: daily rates;
* `setStandard`: standard prices; `replaceSeasons`: all seasons of a plan at once;
* `RatesOp.exec`: any of them; a failed one changes nothing;
* **`RatesOp.exec_frame`**: the plans are left alone, and by all but `replaceSeasons` the seasons.

Foreign keys are not confined to a hotel: `OtherHotels` says which ids are rows of other hotels.
-/

namespace KarsHotel

/-- The rows of other hotels a foreign key finds. -/
structure OtherHotels where
  ratePlans : RatePlanId → Bool
  roomTypes : RoomTypeId → Bool

structure BulkUpsertRateItemDto where
  ratePlanId : IdText
  roomTypeId : RoomTypeId
  date : Day
  occupancy : Option ℕ
  price : Price
  currency : Option String
  deriving DecidableEq, Repr

structure FillRatesDto where
  ratePlanId : IdText
  roomTypeId : RoomTypeId
  fromDate : Day
  toDate : Day
  occupancy : Option ℕ
  price : Price
  currency : Option String
  deriving DecidableEq, Repr

structure StandardRateItemDto where
  roomTypeId : RoomTypeId
  price : Price
  occupancy : Option ℕ
  deriving DecidableEq, Repr

structure SetStandardRatesDto where
  ratePlanId : IdText
  currency : Option String
  items : List StandardRateItemDto
  deriving DecidableEq, Repr

structure SeasonPriceItemDto where
  roomTypeId : RoomTypeId
  price : Price
  occupancy : Option ℕ
  deriving DecidableEq, Repr

structure SeasonInputDto where
  name : String
  dateFrom : Day
  dateTo : Day
  sortOrder : Option ℤ
  items : List SeasonPriceItemDto
  deriving DecidableEq, Repr

structure ReplaceSeasonsDto where
  ratePlanId : IdText
  currency : Option String
  seasons : List SeasonInputDto
  deriving DecidableEq, Repr

namespace RatesService

open RatePlansService (foreignKeyViolation)

section Writes

variable (elsewhere : OtherHotels)

/-- The foreign key to the plan. -/
def planExists (b : PriceBook) (id : RatePlanId) : Bool :=
  (b.ratePlans.find id).isSome || elsewhere.ratePlans id

/-- The foreign key to the room type; daily rates have none. -/
def roomTypeExists (b : PriceBook) (id : RoomTypeId) : Bool :=
  (b.roomTypes.find id).isSome || elsewhere.roomTypes id

/-! ## Daily rates -/

/-- `rate.upsert`. -/
def upsertRate (b : PriceBook) (row : Rate) : Except Failure PriceBook :=
  match b.rates.find row.key with
  | some _ => .ok { b with
      rates := b.rates.modify row.key fun r => { r with price := row.price, currency := row.currency } }
  | none =>
    if planExists elsewhere b row.ratePlanId then .ok { b with rates := b.rates.insert row }
    else .error foreignKeyViolation

/-- The row of an item; without a number of guests it is for two. -/
def BulkUpsertRateItemDto.row (it : BulkUpsertRateItemDto) : Rate :=
  ⟨it.ratePlanId.id, it.roomTypeId, it.date, it.occupancy.getD 2, it.price, it.currency.getD "RUB"⟩

def bulkUpsert (b : PriceBook) (items : List BulkUpsertRateItemDto) : Except Failure PriceBook :=
  items.foldlM (fun b it => upsertRate elsewhere b (BulkUpsertRateItemDto.row it)) b

def rangeReversed : Failure := .badRequest "toDate must be ≥ fromDate"

def rangeTooLarge : Failure := .badRequest "Range too large (max 366 days)"

def fillRange (b : PriceBook) (dto : FillRatesDto) : Except Failure PriceBook :=
  if dto.toDate < dto.fromDate then .error rangeReversed
  else
    let days := (dto.toDate - dto.fromDate).toNat + 1
    if 366 < days then .error rangeTooLarge
    else (List.range days).foldlM (fun b (i : ℕ) => upsertRate elsewhere b
      ⟨dto.ratePlanId.id, dto.roomTypeId, dto.fromDate + (i : ℤ), dto.occupancy.getD 2, dto.price,
        dto.currency.getD "RUB"⟩) b

def recordNotFound : Failure := .internal "Record to delete does not exist"

/-- `rate.delete`; a row is named by its key. -/
def removeRate (b : PriceBook) (key : RatePlanId × RoomTypeId × Day × ℕ) :
    Except Failure PriceBook :=
  match b.rates.find key with
  | none => .error recordNotFound
  | some _ => .ok { b with rates := b.rates.remove fun r => r.key = key }

/-! ## Standard prices -/

/-- One item: a positive price is stored, any other deletes the row. -/
def setStandardItem (dto : SetStandardRatesDto) (b : PriceBook) (it : StandardRateItemDto) :
    Except Failure PriceBook :=
  let row : StandardRate := ⟨dto.ratePlanId.id, it.roomTypeId, it.occupancy.getD 0, it.price,
    dto.currency.getD "RUB"⟩
  if 0 < it.price then
    match b.standardRates.find row.key with
    | some _ => .ok { b with
        standardRates := b.standardRates.modify row.key fun r =>
          { r with price := row.price, currency := row.currency } }
    | none =>
      if planExists elsewhere b dto.ratePlanId.id && roomTypeExists elsewhere b it.roomTypeId then
        .ok { b with standardRates := b.standardRates.insert row }
      else .error foreignKeyViolation
  else .ok { b with standardRates := b.standardRates.remove fun r => r.key = row.key }

def setStandard (b : PriceBook) (dto : SetStandardRatesDto) : Except Failure PriceBook :=
  dto.items.foldlM (setStandardItem elsewhere dto) b

/-! ## Seasons -/

def seasonReversed (s : SeasonInputDto) : Failure :=
  .badRequest ("Сезон «" ++ s.name ++ "»: дата окончания раньше начала")

/-- The rows of a season: one for every item with a positive price. -/
def seasonRows (dto : ReplaceSeasonsDto) (s : SeasonInputDto) (idx : ℕ) : List RateSeason :=
  (s.items.filter fun it => decide (0 < it.price)).map fun it =>
    { ratePlanId := dto.ratePlanId.id
      roomTypeId := it.roomTypeId
      dateFrom := s.dateFrom
      dateTo := s.dateTo
      occupancy := it.occupancy.getD 0
      price := it.price
      currency := dto.currency.getD "RUB"
      sortOrder := s.sortOrder.getD idx }

def replaceSeasons (b : PriceBook) (dto : ReplaceSeasonsDto) : Except Failure PriceBook :=
  match dto.seasons.find? fun s => decide (s.dateTo < s.dateFrom) with
  | some s => .error (seasonReversed s)
  | none =>
    let rows := (dto.seasons.zipIdx.map fun s => seasonRows dto s.1 s.2).flatten
    if rows.all fun r => planExists elsewhere b r.ratePlanId && roomTypeExists elsewhere b r.roomTypeId
    then .ok { b with
      seasons := (b.seasons.filter fun r => !decide (r.ratePlanId = dto.ratePlanId.id)) ++ rows }
    else .error foreignKeyViolation

end Writes

end RatesService

/-! ## Any edit -/

inductive RatesOp where
  | bulkUpsert (items : List BulkUpsertRateItemDto)
  | fillRange (dto : FillRatesDto)
  | remove (key : RatePlanId × RoomTypeId × Day × ℕ)
  | setStandard (dto : SetStandardRatesDto)
  | replaceSeasons (dto : ReplaceSeasonsDto)

/-- The price tables an edit leaves. -/
def RatesOp.exec (elsewhere : OtherHotels) (b : PriceBook) : RatesOp → Except Failure PriceBook
  | bulkUpsert items => RatesService.bulkUpsert elsewhere b items
  | fillRange dto => RatesService.fillRange elsewhere b dto
  | remove key => RatesService.removeRate b key
  | setStandard dto => RatesService.setStandard elsewhere b dto
  | replaceSeasons dto => RatesService.replaceSeasons elsewhere b dto

/-- The season rows a request stands for. -/
def ReplaceSeasonsDto.rows (dto : ReplaceSeasonsDto) : List RateSeason :=
  (dto.seasons.zipIdx.map fun s => RatesService.seasonRows dto s.1 s.2).flatten

theorem ReplaceSeasonsDto.ratePlanId_of_mem {dto : ReplaceSeasonsDto} {r : RateSeason}
    (h : r ∈ dto.rows) : r.ratePlanId = dto.ratePlanId.id := by
  obtain ⟨l, hl, hr⟩ := List.mem_flatten.mp h
  obtain ⟨s, -, rfl⟩ := List.mem_map.mp hl
  obtain ⟨it, -, rfl⟩ := List.mem_map.mp hr
  rfl

/-- What an edit leaves alone. -/
structure SameTables (b b' : PriceBook) : Prop where
  ratePlans : b'.ratePlans = b.ratePlans
  seasons : b'.seasons = b.seasons

namespace RatesService

variable {elsewhere : OtherHotels} {b b₀ b' : PriceBook}

theorem upsertRate_frame {row : Rate} (h₀ : SameTables b₀ b)
    (h : upsertRate elsewhere b row = .ok b') : SameTables b₀ b' := by
  unfold upsertRate at h
  split at h
  · cases h
    exact ⟨h₀.ratePlans, h₀.seasons⟩
  · split_ifs at h
    cases h
    exact ⟨h₀.ratePlans, h₀.seasons⟩

theorem setStandardItem_frame {dto : SetStandardRatesDto} {it : StandardRateItemDto}
    (h₀ : SameTables b₀ b) (h : setStandardItem elsewhere dto b it = .ok b') :
    SameTables b₀ b' := by
  unfold setStandardItem at h
  dsimp only at h
  by_cases hp : 0 < it.price
  · rw [if_pos hp] at h
    split at h
    · cases h
      exact ⟨h₀.ratePlans, h₀.seasons⟩
    · split_ifs at h
      cases h
      exact ⟨h₀.ratePlans, h₀.seasons⟩
  · rw [if_neg hp] at h
    cases h
    exact ⟨h₀.ratePlans, h₀.seasons⟩

theorem fillRange_frame {dto : FillRatesDto} (h : fillRange elsewhere b dto = .ok b') :
    SameTables b b' := by
  unfold fillRange at h
  dsimp only at h
  split_ifs at h
  exact foldlM_keeps (fun _ _ _ h₀ => upsertRate_frame h₀) ⟨rfl, rfl⟩ h

theorem removeRate_frame {key : RatePlanId × RoomTypeId × Day × ℕ}
    (h : removeRate b key = .ok b') : SameTables b b' := by
  unfold removeRate at h
  split at h
  · cases h
  · cases h
    exact ⟨rfl, rfl⟩

theorem replaceSeasons_ok {dto : ReplaceSeasonsDto} (h : replaceSeasons elsewhere b dto = .ok b') :
    b' = { b with
      seasons := (b.seasons.filter fun r => !decide (r.ratePlanId = dto.ratePlanId.id)) ++ dto.rows } := by
  unfold replaceSeasons at h
  split at h
  · cases h
  · dsimp only at h
    split_ifs at h
    cases h
    rfl

end RatesService

/-- **What an edit of prices leaves alone.** -/
theorem RatesOp.exec_frame {elsewhere : OtherHotels} {op : RatesOp} {b b' : PriceBook}
    (h : op.exec elsewhere b = .ok b') : SameTables b b' ∨
      ∃ dto, op = .replaceSeasons dto ∧ b' = { b with
        seasons := (b.seasons.filter fun r => !decide (r.ratePlanId = dto.ratePlanId.id)) ++
          dto.rows } := by
  cases op with
  | bulkUpsert items =>
    exact .inl (foldlM_keeps (fun _ _ _ h₀ => RatesService.upsertRate_frame h₀) ⟨rfl, rfl⟩ h)
  | fillRange dto => exact .inl (RatesService.fillRange_frame h)
  | remove key => exact .inl (RatesService.removeRate_frame h)
  | setStandard dto =>
    exact .inl (foldlM_keeps (fun _ _ _ h₀ => RatesService.setStandardItem_frame h₀) ⟨rfl, rfl⟩ h)
  | replaceSeasons dto => exact .inr ⟨dto, rfl, RatesService.replaceSeasons_ok h⟩

end KarsHotel
