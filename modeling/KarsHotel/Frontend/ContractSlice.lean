import KarsHotel.Lib.CharText
import KarsHotel.Lib.EntryMap
import KarsHotel.Lib.StableSort
import KarsHotel.Pricing.Store

/-!
# A contract's prices for a tariff

The contract of a partner is a set of documents, each with a validity and rows; a tariff of the
hotel is one slice of it. Prices are in kopecks.

* `docsAt`: the documents in force on a day; `rowMismatch`, `rowRoomTypes`: which rows count, and
  for which room types;
* `fillGrid`, `gridCells`, `sliceCells`: the prices of a day;
* `DecidesCell`: the row that a cell takes its price from; **`get_prices_iff`**: `sliceCells`
  writes its price.

What the language makes of a letter in lower case is a parameter.
-/

namespace KarsHotel

/-! ## Documents -/

/-- An entry of a directory of the partner. -/
structure DirectoryRef where
  code : String
  name : String
  deriving DecidableEq, Repr

structure ContractRow where
  categoryId : Option RoomTypeId
  categoryIds : List RoomTypeId
  categoryName : Option String
  customer : Option DirectoryRef
  guestKind : Option GuestKind
  mealPlan : Option MealPlan
  guests : Option ℕ
  perPerson : Bool
  priceNet : Option ℤ
  onRequest : Bool
  deriving DecidableEq, Repr

structure FillCell where
  categoryId : RoomTypeId
  occupancy : ℕ
  price : ℤ
  deriving DecidableEq, Repr

structure FillSlice where
  customer : Option String
  guestKind : Option GuestKind
  mealPlan : MealPlan
  cells : List FillCell
  deriving DecidableEq, Repr

/-- A grid of the partner: ready prices from a day on. -/
structure Fill where
  start : Day
  slices : List FillSlice
  deriving DecidableEq, Repr

structure ContractDoc where
  account : Option DirectoryRef
  validFrom : Day
  validTo : Option Day
  rows : List ContractRow
  fill : List Fill
  deriving DecidableEq, Repr

/-- What a tariff is for, in the codes of the partner's directory. -/
structure Slice where
  account : Option String
  customer : Option String
  guestKind : Option GuestKind
  mealPlan : MealPlan
  deriving DecidableEq, Repr

/-- A room type as the screen loads it. -/
structure ContractRoomType where
  id : RoomTypeId
  name : String
  maxOccupancy : Option ℕ
  deriving DecidableEq, Repr

def ContractDoc.ValidOn (s : ContractDoc) (d : Day) : Prop :=
  s.validFrom ≤ d ∧ ∀ t ∈ s.validTo, d ≤ t

instance (s : ContractDoc) (d : Day) : Decidable (s.ValidOn d) := by
  unfold ContractDoc.ValidOn
  infer_instance

/-- The documents in force on a day, the older first. -/
def docsAt (docs : List ContractDoc) (d : Day) : List ContractDoc :=
  (docs.filter fun s => decide (s.ValidOn d)).insertionSort fun a b => a.validFrom ≤ b.validFrom

theorem mem_docsAt {docs : List ContractDoc} {s : ContractDoc} {d : Day} :
    s ∈ docsAt docs d ↔ s ∈ docs ∧ s.ValidOn d := by
  simp [docsAt, List.mem_insertionSort]

/-! ## Rows -/

def MEAL_PLAN_SHORT : MealPlan → String
  | .none => "без питания"
  | .bb => "завтрак"
  | .hb => "полупансион"
  | .fb => "полный пансион"
  | .ai => "всё включено"

/-- Why a row is not for the tariff. -/
def rowMismatch (row : ContractRow) (doc : ContractDoc) (slice : Slice) : Option String :=
  let meal := row.mealPlan.getD .none
  if slice.account.any fun a => doc.account.any fun b => decide (b.code ≠ a) then
    some "другое юрлицо"
  else if row.customer.any fun c => decide (some c.code ≠ slice.customer) then
    some "для другой авиакомпании"
  else if row.guestKind.isSome && decide (row.guestKind ≠ slice.guestKind) then
    some "для другого вида брони"
  else if meal ≠ slice.mealPlan then some ("с питанием «" ++ MEAL_PLAN_SHORT meal ++ "»")
  else if row.onRequest || row.priceNet.isNone then some "цена по запросу"
  else none

/-- Runs of white space as one blank. -/
def collapse : List Char → List Char
  | [] => []
  | [c] => if CharText.isSpace c then [' '] else [c]
  | c :: c' :: s =>
    if CharText.isSpace c then if CharText.isSpace c' then collapse (c' :: s) else ' ' :: collapse (c' :: s)
    else c :: collapse (c' :: s)

section Slice

variable (toLowerCase : List Char → List Char)

/-- A name regardless of case, of ё and of blanks. -/
def normName (s : Option String) : List Char :=
  collapse ((toLowerCase (CharText.trim (s.getD "").toList)).map fun c => if c = 'ё' then 'е' else c)

/-- `byId.get(id)`: of room types with one id the last. -/
def roomTypeById (roomTypes : List ContractRoomType) (id : RoomTypeId) : Option ContractRoomType :=
  (roomTypes.filter fun rt => decide (rt.id = id)).getLast?

/-- The room types of a row: those the partner names, else the one of its name. -/
def rowRoomTypes (row : ContractRow) (roomTypes : List ContractRoomType) : List ContractRoomType :=
  let ids := if row.categoryIds.isEmpty then row.categoryId.toList else row.categoryIds
  if ids.isEmpty then
    (roomTypes.find? fun r =>
      decide (normName toLowerCase (some r.name) = normName toLowerCase row.categoryName)).toList
  else ids.filterMap (roomTypeById roomTypes)

/-! ## The prices of a day -/

/-- A room type and a number of guests; 0 is any number. -/
abbrev PriceKey := RoomTypeId × ℕ

/-- A row that does not count, with the reason. -/
structure Skipped where
  row : ContractRow
  doc : ContractDoc
  reason : String
  deriving DecidableEq, Repr

/-- What the screen makes of a contract. -/
structure SliceResult where
  prices : EntryMap PriceKey ℤ
  skipped : List Skipped
  uncovered : List ContractRoomType
  docs : List ContractDoc

/-- The grid in force: of those started the latest; `none` if the partner has sent none. -/
def fillGrid (docs : List ContractDoc) (slice : Slice) (date : Day) :
    Option (List FillCell × Option ContractDoc) :=
  let withFill := docs.filter fun d => !d.fill.isEmpty
  if withFill.isEmpty then none
  else
    let pairs := withFill.flatMap fun doc => doc.fill.map fun f => (f, doc)
    let best := pairs.foldl (fun (best : Option (Fill × ContractDoc)) p =>
      if p.1.start ≤ date ∧ best.all (fun b => decide (b.1.start < p.1.start)) then some p
      else best) none
    match best with
    | none => some ([], none)
    | some b =>
      let pick := fun customer : Option String => b.1.slices.find? fun g =>
        decide (g.customer = customer ∧ g.guestKind = slice.guestKind ∧ g.mealPlan = slice.mealPlan)
      let grid := (pick slice.customer).or (if slice.customer.isSome then pick none else none)
      some ((grid.map (·.cells)).getD [], some b.2)

def ContractRoomType.cap (rt : ContractRoomType) : ℕ := rt.maxOccupancy.getD 1

def gridCells (docs : List ContractDoc) (slice : Slice) (roomTypes : List ContractRoomType)
    (date : Day) (grid : List FillCell × Option ContractDoc) : SliceResult :=
  let effective := docsAt docs date
  let skipped := effective.flatMap fun doc => doc.rows.filterMap fun row =>
    (rowMismatch row doc slice).map fun reason => ⟨row, doc, reason⟩
  let foreignAccount := slice.account.any fun a =>
    grid.2.any fun doc => doc.account.any fun b => decide (b.code ≠ a)
  let cells := if foreignAccount then [] else grid.1
  let prices := EntryMap.ofEntries (cells.filterMap fun c =>
    ((roomTypeById roomTypes c.categoryId).filter fun rt => decide (c.occupancy ≤ rt.cap)).map
      fun rt => ((rt.id, c.occupancy), c.price))
  { prices := prices
    skipped := skipped
    uncovered := roomTypes.filter fun rt => !prices.rows.any fun e => decide (e.1.1 = rt.id)
    docs := effective }

/-- What a row writes to a cell. -/
structure Cell where
  kopecks : ℤ
  score : ℕ
  docIdx : ℕ
  deriving DecidableEq, Repr

/-- The cells of a row: a price for a place counts for each number of guests as many times. -/
def rowCells (roomTypes : List ContractRoomType) (slice : Slice) (doc : ContractDoc) (docIdx : ℕ)
    (row : ContractRow) : List (PriceKey × Cell) :=
  if (rowMismatch row doc slice).isSome then []
  else
    let score := (if row.customer.isSome then 2 else 0) + if row.guestKind.isSome then 1 else 0
    (rowRoomTypes toLowerCase row roomTypes).flatMap fun rt =>
      let occs := if row.perPerson then (List.range rt.cap).map (· + 1) else [row.guests.getD 0]
      (occs.filter fun o => decide (o ≤ rt.cap)).map fun o =>
        ((rt.id, o), ⟨if row.perPerson then row.priceNet.getD 0 * o else row.priceNet.getD 0,
          score, docIdx⟩)

/-- The cells of the documents, in the order in which they are written. -/
def docCells (roomTypes : List ContractRoomType) (slice : Slice) (effective : List ContractDoc) :
    List (PriceKey × Cell) :=
  effective.zipIdx.flatMap fun e => e.1.rows.flatMap (rowCells toLowerCase roomTypes slice e.1 e.2)

/-- A cell is written over by a more special row, and by one as special of a document as fresh. -/
def putCell (cells : EntryMap PriceKey Cell) (e : PriceKey × Cell) : EntryMap PriceKey Cell :=
  match EntryMap.get cells e.1 with
  | none => EntryMap.set cells e.1 e.2
  | some prev =>
    if prev.score < e.2.score ∨ e.2.score = prev.score ∧ prev.docIdx ≤ e.2.docIdx then
      EntryMap.set cells e.1 e.2
    else cells

/-- Why a row of a document is passed over. -/
def skipReason (roomTypes : List ContractRoomType) (slice : Slice) (doc : ContractDoc)
    (row : ContractRow) : Option String :=
  match rowMismatch row doc slice with
  | some reason => some reason
  | none =>
    if (rowRoomTypes toLowerCase row roomTypes).isEmpty then some "такой категории у гостиницы нет"
    else none

/-- The prices of the slice on a day. -/
def sliceCells (docs : List ContractDoc) (slice : Slice) (roomTypes : List ContractRoomType)
    (date : Day) : SliceResult :=
  match fillGrid docs slice date with
  | some grid => gridCells docs slice roomTypes date grid
  | none =>
    let effective := docsAt docs date
    let cells := (docCells toLowerCase roomTypes slice effective).foldl putCell .empty
    { prices := EntryMap.ofEntries (cells.rows.map fun e => (e.1, e.2.kopecks))
      skipped := effective.flatMap fun doc => doc.rows.filterMap fun row =>
        (skipReason toLowerCase roomTypes slice doc row).map fun reason => ⟨row, doc, reason⟩
      uncovered := roomTypes.filter fun rt => !cells.rows.any fun e => decide (e.1.1 = rt.id)
      docs := effective }

/-! ## The row that a cell takes its price from -/

/-- The more special cell stands first. -/
def Cell.Outweighs (a b : Cell) : Prop := b.score ≤ a.score

instance : DecidableRel Cell.Outweighs := fun a b => inferInstanceAs (Decidable (b.score ≤ a.score))

instance : Std.Total Cell.Outweighs := ⟨fun a b => Nat.le_total b.score a.score⟩

instance : IsTrans Cell Cell.Outweighs := ⟨fun _ _ _ h h' => Nat.le_trans h' h⟩

/-- What is written to a key, the last first. -/
def written (es : List (PriceKey × Cell)) (k : PriceKey) : List Cell :=
  ((es.filter fun e => decide (e.1 = k)).map Prod.snd).reverse

/-- Among documents in force the last of the most special rows for a key. -/
def DecidesCell (slice : Slice) (roomTypes : List ContractRoomType) (effective : List ContractDoc)
    (k : PriceKey) (c : Cell) : Prop :=
  Leads Cell.Outweighs (written (docCells toLowerCase roomTypes slice effective) k) c

theorem written_append (es : List (PriceKey × Cell)) (e : PriceKey × Cell) (k : PriceKey) :
    written (es ++ [e]) k = if e.1 = k then e.2 :: written es k else written es k := by
  unfold written
  by_cases hk : e.1 = k <;> simp [List.filter_append, hk]

theorem mem_written {es : List (PriceKey × Cell)} {k : PriceKey} {c : Cell} :
    c ∈ written es k ↔ (k, c) ∈ es := by
  simp [written]

theorem get_putCell_of_ne {cells : EntryMap PriceKey Cell} {e : PriceKey × Cell} {k : PriceKey}
    (hk : e.1 ≠ k) : EntryMap.get (putCell cells e) k = EntryMap.get cells k := by
  unfold putCell
  cases EntryMap.get cells e.1 with
  | none => exact EntryMap.get_set_of_ne cells e.2 (Ne.symm hk)
  | some prev =>
    dsimp only
    split
    · exact EntryMap.get_set_of_ne cells e.2 (Ne.symm hk)
    · rfl

/-- **The loop keeps the last of the most special cells**, where documents come in order. -/
theorem get_foldl_putCell {es : List (PriceKey × Cell)}
    (hes : es.Pairwise fun a b => a.2.docIdx ≤ b.2.docIdx) (k : PriceKey) :
    (∀ c, EntryMap.get (es.foldl putCell .empty) k = some c →
      Leads Cell.Outweighs (written es k) c) ∧
    (EntryMap.get (es.foldl putCell .empty) k = none → written es k = []) := by
  induction es using List.reverseRecOn with
  | nil =>
    have hget : EntryMap.get (.empty : EntryMap PriceKey Cell) k = none := rfl
    simp [hget, written]
  | append_singleton es e ih =>
    obtain ⟨hes, -, hlast⟩ := List.pairwise_append.mp hes
    obtain ⟨hsome, hnone⟩ := ih hes
    rw [List.foldl_append, List.foldl_cons, List.foldl_nil, written_append]
    by_cases hk : e.1 = k
    · subst hk
      rw [if_pos rfl]
      generalize hm : es.foldl putCell .empty = m at *
      unfold putCell
      cases hget : EntryMap.get m e.1 with
      | none =>
        rw [hnone hget]
        simp only [EntryMap.get_set_self, Option.some.injEq, forall_eq', reduceCtorEq, false_imp_iff,
          and_true]
        exact leads_head (by simp)
      | some prev =>
        have hprev := hsome prev hget
        have hfresh : prev.docIdx ≤ e.2.docIdx :=
          hlast (e.1, prev) (mem_written.mp hprev.mem) e List.mem_cons_self
        dsimp only
        by_cases hscore : prev.score ≤ e.2.score
        · rw [if_pos (by omega)]
          simp only [EntryMap.get_set_self, Option.some.injEq, forall_eq', reduceCtorEq,
            false_imp_iff, and_true]
          refine leads_head fun x hx => ?_
          have hle : x.score ≤ prev.score := hprev.le hx
          show x.score ≤ e.2.score
          omega
        · rw [if_neg (by omega), hget]
          simp only [Option.some.injEq, forall_eq', reduceCtorEq, false_imp_iff, and_true]
          exact hprev.cons hscore
    · rw [if_neg hk, get_putCell_of_ne hk]
      exact ⟨hsome, hnone⟩

theorem docIdx_rowCells {roomTypes : List ContractRoomType} {slice : Slice} {doc : ContractDoc}
    {docIdx : ℕ} {row : ContractRow} {e : PriceKey × Cell}
    (he : e ∈ rowCells toLowerCase roomTypes slice doc docIdx row) : e.2.docIdx = docIdx := by
  unfold rowCells at he
  split at he
  · simp at he
  · obtain ⟨rt, -, he⟩ := List.mem_flatMap.mp he
    obtain ⟨o, -, rfl⟩ := List.mem_map.mp he
    rfl

theorem docCells_pairwise (slice : Slice) (roomTypes : List ContractRoomType)
    (effective : List ContractDoc) :
    (docCells toLowerCase roomTypes slice effective).Pairwise
      fun a b => a.2.docIdx ≤ b.2.docIdx := by
  have hidx : ∀ e : ContractDoc × ℕ,
      ∀ c ∈ e.1.rows.flatMap (rowCells toLowerCase roomTypes slice e.1 e.2), c.2.docIdx = e.2 := by
    intro e c hc
    obtain ⟨row, -, hc⟩ := List.mem_flatMap.mp hc
    exact docIdx_rowCells toLowerCase hc
  have horder : (effective.zipIdx.map Prod.snd).Pairwise (· ≤ ·) := by
    rw [List.zipIdx_map_snd]
    exact List.pairwise_le_range'
  rw [docCells, List.pairwise_flatMap]
  constructor
  · intro e _
    refine List.pairwise_of_forall_mem_list fun c hc c' hc' => ?_
    rw [hidx e c hc, hidx e c' hc']
  · refine (List.pairwise_map.mp horder).imp fun {e e'} hle c hc c' hc' => ?_
    rw [hidx e c hc, hidx e' c' hc']
    exact hle

theorem fillGrid_eq_none {docs : List ContractDoc} (hfill : ∀ d ∈ docs, d.fill = []) (slice : Slice)
    (date : Day) : fillGrid docs slice date = none := by
  have hno : docs.filter (fun d => !d.fill.isEmpty) = [] := by
    rw [List.filter_eq_nil_iff]
    intro d hd
    simp [hfill d hd]
  rw [fillGrid, hno]
  rfl

theorem get_ofEntries_rows (cells : EntryMap PriceKey Cell) (k : PriceKey) :
    EntryMap.get (EntryMap.ofEntries (cells.rows.map fun e => (e.1, e.2.kopecks))) k =
      (EntryMap.get cells k).map (·.kopecks) := by
  have hfind : (cells.rows.filter fun e => decide (e.1 = k)).getLast? = Table.find cells k := by
    rw [List.getLast?_eq_head?_reverse, ← List.filter_reverse, List.head?_filter]
    have hall := Table.find_reverse_select cells (p := fun _ => true) (k := k) fun _ _ _ => rfl
    rwa [Table.select, List.filter_eq_self.mpr fun _ _ => rfl] at hall
  rw [EntryMap.get_ofEntries, lastEntry, List.filter_map, List.getLast?_map, EntryMap.get, ← hfind,
    Option.map_map, Option.map_map]
  rfl

/-- **`sliceCells` writes the price of the row that decides.** -/
theorem get_prices_iff {docs : List ContractDoc} (hfill : ∀ d ∈ docs, d.fill = []) (slice : Slice)
    (roomTypes : List ContractRoomType) (date : Day) (k : PriceKey) (p : ℤ) :
    EntryMap.get (sliceCells toLowerCase docs slice roomTypes date).prices k = some p ↔
      ∃ c, DecidesCell toLowerCase slice roomTypes (docsAt docs date) k c ∧ c.kopecks = p := by
  have hloop := get_foldl_putCell
    (docCells_pairwise toLowerCase slice roomTypes (docsAt docs date)) k
  rw [sliceCells, fillGrid_eq_none hfill]
  dsimp only
  rw [get_ofEntries_rows, Option.map_eq_some_iff]
  constructor
  · rintro ⟨c, hc, rfl⟩
    exact ⟨c, hloop.1 c hc, rfl⟩
  · rintro ⟨c, hc, rfl⟩
    cases hget : EntryMap.get ((docCells toLowerCase roomTypes slice (docsAt docs date)).foldl
        putCell .empty) k with
    | none =>
      have := hc.mem
      simp [hloop.2 hget] at this
    | some c' => exact ⟨c', rfl, by rw [(hloop.1 c' hget).unique hc]⟩

end Slice

end KarsHotel
