import KarsHotel.Frontend.ContractSlice
import Mathlib.Data.Prod.Lex
import Mathlib.Data.Set.Finite.Lemmas
import Mathlib.Data.Set.Finite.List

/-!
# The rows of a contract compete for the cells

* `Bid`: a row and its place among the documents in force; `Bid.Competes`: the cells it is for;
* `Bid.rank`: how special it is, then its document, then its row;
* **`decides_of_greatest`**: the greatest of the rows that compete for a cell decides it;
* **`contractRows_fill`**: what is reported, what competes, and what fills a cell.
-/

namespace KarsHotel

/-- A row and its place among the documents in force. -/
structure Bid where
  docIdx : ℕ
  rowIdx : ℕ
  doc : ContractDoc
  row : ContractRow

namespace Bid

def In (b : Bid) (effective : List ContractDoc) : Prop :=
  effective[b.docIdx]? = some b.doc ∧ b.doc.rows[b.rowIdx]? = some b.row

/-- How special the row is: for a customer, then for a kind of guests. -/
def score (b : Bid) : ℕ :=
  (if b.row.customer.isSome then 2 else 0) + if b.row.guestKind.isSome then 1 else 0

def place (b : Bid) : ℕ ×ₗ ℕ := toLex (b.docIdx, b.rowIdx)

/-- The more special row is greater, then that of the later document, then the later row. -/
def rank (b : Bid) : ℕ ×ₗ ℕ ×ₗ ℕ := toLex (b.score, b.place)

/-- The price of a cell: a price for a place counts for each guest. -/
def price (b : Bid) (net : ℤ) (occupancy : ℕ) : ℤ :=
  if b.row.perPerson then net * occupancy else net

def cell (b : Bid) (occupancy : ℕ) : Cell :=
  ⟨b.price (b.row.priceNet.getD 0) occupancy, b.score, b.docIdx⟩

/-- All rows of the documents, in order. -/
def all (effective : List ContractDoc) : List Bid :=
  effective.zipIdx.flatMap fun e => e.1.rows.zipIdx.map fun f => ⟨e.2, f.2, e.1, f.1⟩

theorem mem_all {effective : List ContractDoc} {b : Bid} : b ∈ all effective ↔ b.In effective := by
  unfold all In
  simp only [List.mem_flatMap, List.mem_map, List.mem_zipIdx_iff_getElem?, Prod.exists]
  constructor
  · rintro ⟨doc, i, hdoc, row, j, hrow, rfl⟩
    exact ⟨hdoc, hrow⟩
  · rintro ⟨hdoc, hrow⟩
    exact ⟨b.doc, b.docIdx, hdoc, b.row, b.rowIdx, hrow, rfl⟩

theorem zipIdx_pairwise {α : Type} (l : List α) : l.zipIdx.Pairwise fun a b => a.2 < b.2 := by
  have hidx : (l.zipIdx.map Prod.snd).Pairwise (· < ·) := by
    rw [List.zipIdx_map_snd]
    exact List.pairwise_lt_range'
  exact List.pairwise_map.mp hidx

theorem all_pairwise (effective : List ContractDoc) :
    (all effective).Pairwise fun a b => a.place < b.place := by
  rw [all, List.pairwise_flatMap]
  constructor
  · intro e _
    refine List.pairwise_map.mpr ((zipIdx_pairwise e.1.rows).imp fun hlt => ?_)
    exact Prod.Lex.toLex_lt_toLex.mpr (.inr ⟨rfl, hlt⟩)
  · refine (zipIdx_pairwise effective).imp fun {e e'} hlt a ha b hb => ?_
    obtain ⟨f, -, rfl⟩ := List.mem_map.mp ha
    obtain ⟨f', -, rfl⟩ := List.mem_map.mp hb
    exact Prod.Lex.toLex_lt_toLex.mpr (.inl hlt)

end Bid

/-! ## The cells of a row -/

section Rows

variable (toLowerCase : List Char → List Char)

/-- The row is for the slice, and for a room type and a number of guests that finds place in it. -/
def Bid.Competes (slice : Slice) (roomTypes : List ContractRoomType) (b : Bid) (k : PriceKey) :
    Prop :=
  rowMismatch b.row b.doc slice = none ∧
    ∃ rt ∈ rowRoomTypes toLowerCase b.row roomTypes, rt.id = k.1 ∧ k.2 ≤ rt.cap ∧
      if b.row.perPerson then 1 ≤ k.2 else k.2 = b.row.guests.getD 0

/-- No room type of the row has the places its guests need. -/
def ContractRow.TooMany (row : ContractRow) (roomTypes : List ContractRoomType) : Prop :=
  rowRoomTypes toLowerCase row roomTypes ≠ [] ∧
    ∀ rt ∈ rowRoomTypes toLowerCase row roomTypes,
      rt.cap < if row.perPerson then 1 else row.guests.getD 0

variable {slice : Slice} {roomTypes : List ContractRoomType} {effective : List ContractDoc}
  {b : Bid} {k : PriceKey}

theorem mem_rowCells {c : Cell} :
    (k, c) ∈ rowCells toLowerCase roomTypes slice b.doc b.docIdx b.row ↔
      b.Competes toLowerCase slice roomTypes k ∧ c = b.cell k.2 := by
  unfold rowCells Bid.Competes
  by_cases hmis : (rowMismatch b.row b.doc slice).isSome
  · rw [if_pos hmis]
    obtain ⟨reason, hreason⟩ := Option.isSome_iff_exists.mp hmis
    simp [hreason]
  · have hnone : rowMismatch b.row b.doc slice = none := by simpa using hmis
    rw [if_neg hmis]
    simp only [hnone, true_and, List.mem_flatMap, List.mem_map, List.mem_filter, decide_eq_true_eq,
      Prod.mk.injEq]
    constructor
    · rintro ⟨rt, hrt, o, ⟨ho, hcap⟩, hk, rfl⟩
      obtain rfl : (rt.id, o) = k := hk
      refine ⟨⟨rt, hrt, rfl, hcap, ?_⟩, rfl⟩
      by_cases hper : b.row.perPerson
      · rw [if_pos hper] at ho ⊢
        simp only [List.mem_map, List.mem_range] at ho
        omega
      · rw [if_neg hper] at ho ⊢
        exact List.mem_singleton.mp ho
    · rintro ⟨⟨rt, hrt, hid, hcap, ho⟩, rfl⟩
      refine ⟨rt, hrt, k.2, ⟨?_, hcap⟩, ?_, rfl⟩
      · by_cases hper : b.row.perPerson
        · rw [if_pos hper] at ho ⊢
          exact List.mem_map.mpr ⟨k.2 - 1, List.mem_range.mpr (by omega), by omega⟩
        · rw [if_neg hper] at ho ⊢
          exact List.mem_singleton.mpr ho
      · exact Prod.ext hid rfl

theorem docCells_eq (slice : Slice) (roomTypes : List ContractRoomType)
    (effective : List ContractDoc) : docCells toLowerCase roomTypes slice effective =
      (Bid.all effective).flatMap
        fun b => rowCells toLowerCase roomTypes slice b.doc b.docIdx b.row := by
  unfold docCells Bid.all
  rw [List.flatMap_assoc]
  congr 1
  funext e
  rw [List.flatMap_map]
  conv_lhs => rw [← List.zipIdx_map_fst 0 e.1.rows, List.flatMap_map]

theorem written_flatten (es es' : List (PriceKey × Cell)) (k : PriceKey) :
    written (es ++ es') k = written es' k ++ written es k := by
  unfold written
  rw [List.filter_append, List.map_append, List.reverse_append]

/-! ## The greatest of the rows -/

theorem Leads.append {α : Type} {r : α → α → Prop} {l l' : List α} {a : α}
    (hl : ∀ x ∈ l, ¬r x a) (h : Leads r l' a) : Leads r (l ++ l') a := by
  induction l with
  | nil => exact h
  | cons x l ih =>
    obtain ⟨hx, hl⟩ := List.forall_mem_cons.mp hl
    exact (ih hl).cons hx

/-- **The greatest of the rows that compete for a cell decides it.** -/
theorem decides_of_greatest (hb : b.In effective) (hk : b.Competes toLowerCase slice roomTypes k)
    (hgreatest : ∀ b' : Bid, b'.In effective → b'.Competes toLowerCase slice roomTypes k →
      b'.rank ≤ b.rank) :
    DecidesCell toLowerCase slice roomTypes effective k (b.cell k.2) := by
  obtain ⟨before, after, hall⟩ := List.append_of_mem (Bid.mem_all.mpr hb)
  have hplace := Bid.all_pairwise effective
  rw [hall, List.pairwise_append, List.pairwise_cons] at hplace
  obtain ⟨-, ⟨hafter, -⟩, -⟩ := hplace
  have hcells : ∀ bs : List Bid, ∀ c ∈ written (bs.flatMap
      fun b => rowCells toLowerCase roomTypes slice b.doc b.docIdx b.row) k,
      ∃ b' ∈ bs, b'.Competes toLowerCase slice roomTypes k ∧ c = b'.cell k.2 := by
    intro bs c hc
    obtain ⟨b', hb', hc⟩ := List.mem_flatMap.mp (mem_written.mp hc)
    obtain ⟨hcompetes, hcell⟩ := (mem_rowCells toLowerCase).mp hc
    exact ⟨b', hb', hcompetes, hcell⟩
  have hscore : ∀ b' ∈ Bid.all effective, b'.Competes toLowerCase slice roomTypes k →
      b'.score ≤ b.score := by
    intro b' hb' hcompetes
    have hle := hgreatest b' (Bid.mem_all.mp hb') hcompetes
    rcases Prod.Lex.toLex_le_toLex.mp hle with hlt | ⟨heq, -⟩
    · exact hlt.le
    · exact heq.le
  rw [DecidesCell, docCells_eq, hall, List.flatMap_append, List.flatMap_cons, written_flatten,
    written_flatten, List.append_assoc]
  refine Leads.append (fun x hx hstands => ?_) ?_
  · -- A later row that competes is less special.
    obtain ⟨b', hb', hcompetes, rfl⟩ := hcells after x hx
    have hle := hgreatest b' (Bid.mem_all.mp (by rw [hall]; simp [hb'])) hcompetes
    rcases Prod.Lex.toLex_le_toLex.mp hle with hlt | ⟨-, hle⟩
    · exact absurd hstands (Nat.not_le.mpr hlt)
    · exact absurd (hafter b' hb') (not_lt.mpr hle)
  · have hown := hcells [b]
    rw [List.flatMap_singleton] at hown
    have hmem : b.cell k.2 ∈
        written (rowCells toLowerCase roomTypes slice b.doc b.docIdx b.row) k :=
      mem_written.mpr ((mem_rowCells toLowerCase).mpr ⟨hk, rfl⟩)
    cases hwritten : written (rowCells toLowerCase roomTypes slice b.doc b.docIdx b.row) k with
    | nil =>
      rw [hwritten] at hmem
      exact absurd hmem List.not_mem_nil
    | cons c cs =>
      rw [hwritten] at hown
      have hsame : ∀ x ∈ c :: cs, x = b.cell k.2 := by
        intro x hx
        obtain ⟨b', hb', -, hcell⟩ := hown x hx
        rw [hcell, List.mem_singleton.mp hb']
      rw [hsame c List.mem_cons_self]
      refine leads_head fun x hx => ?_
      rcases List.mem_append.mp hx with hx | hx
      · rw [hsame x (List.mem_cons_of_mem _ hx)]
        exact le_refl _
      · obtain ⟨b', hb', hcompetes, rfl⟩ := hcells before x hx
        exact hscore b' (by rw [hall]; simp [hb']) hcompetes

theorem exists_competes {c : Cell}
    (hc : DecidesCell toLowerCase slice roomTypes effective k c) :
    ∃ b : Bid, b.In effective ∧ b.Competes toLowerCase slice roomTypes k := by
  have hmem := mem_written.mp hc.mem
  rw [docCells_eq] at hmem
  obtain ⟨b, hb, hmem⟩ := List.mem_flatMap.mp hmem
  exact ⟨b, Bid.mem_all.mp hb, ((mem_rowCells toLowerCase).mp hmem).1⟩

/-- Of the rows that compete for a cell one is the greatest. -/
theorem exists_greatest
    (h : ∃ b : Bid, b.In effective ∧ b.Competes toLowerCase slice roomTypes k) :
    ∃ b : Bid, b.In effective ∧ b.Competes toLowerCase slice roomTypes k ∧
      ∀ b' : Bid, b'.In effective → b'.Competes toLowerCase slice roomTypes k →
        b'.rank ≤ b.rank := by
  have hfin : {b : Bid | b ∈ Bid.all effective ∧
      b.Competes toLowerCase slice roomTypes k}.Finite :=
    (List.finite_toSet (Bid.all effective)).subset fun b hb => hb.1
  obtain ⟨b₀, hin, hcompetes⟩ := h
  obtain ⟨b, ⟨hb, hk⟩, hgreatest⟩ :=
    Set.exists_max_image _ Bid.rank hfin ⟨b₀, Bid.mem_all.mpr hin, hcompetes⟩
  exact ⟨b, Bid.mem_all.mp hb, hk, fun b' hb' hk' => hgreatest b' ⟨Bid.mem_all.mpr hb', hk'⟩⟩

/-! ## What a row is for -/

/-- **A row that counts is for the slice**: it names no other customer, kind of guests or meals, and
its document no other account. -/
theorem rowMismatch_eq_none {row : ContractRow} {doc : ContractDoc}
    (h : rowMismatch row doc slice = none) :
    (∀ c ∈ row.customer, slice.customer = some c.code) ∧
      (∀ g ∈ row.guestKind, slice.guestKind = some g) ∧ row.mealPlan.getD .none = slice.mealPlan ∧
      (∀ a ∈ slice.account, ∀ c ∈ doc.account, c.code = a) ∧ ∃ net, row.priceNet = some net := by
  unfold rowMismatch at h
  dsimp only at h
  split_ifs at h with haccount hcustomer hkind hmeal hprice
  refine ⟨fun c hc => ?_, fun g hg => ?_, not_not.mp hmeal, fun a ha c hc => ?_, ?_⟩
  · rw [Option.mem_def] at hc
    have hcode : some c.code = slice.customer := by simpa [hc] using hcustomer
    exact hcode.symm
  · rw [Option.mem_def] at hg
    have hsame : some g = slice.guestKind := by simpa [hg] using hkind
    exact hsame.symm
  · rw [Option.mem_def] at ha hc
    simpa [ha, hc] using haccount
  · cases hnet : row.priceNet with
    | none => simp [hnet] at hprice
    | some net => exact ⟨net, rfl⟩

/-- A row that is for the slice, and for room types that have the places, competes. -/
theorem competes_of_fits {row : ContractRow} {doc : ContractDoc}
    (hmis : rowMismatch row doc slice = none)
    (hrts : rowRoomTypes toLowerCase row roomTypes ≠ [])
    (hfits : ¬row.TooMany toLowerCase roomTypes) (docIdx rowIdx : ℕ) :
    ∃ k, (⟨docIdx, rowIdx, doc, row⟩ : Bid).Competes toLowerCase slice roomTypes k := by
  have hplace : ∃ rt ∈ rowRoomTypes toLowerCase row roomTypes,
      (if row.perPerson then 1 else row.guests.getD 0) ≤ rt.cap := by
    by_contra hno
    refine hfits ⟨hrts, fun rt hrt => ?_⟩
    by_contra hle
    exact hno ⟨rt, hrt, not_lt.mp hle⟩
  obtain ⟨rt, hrt, hcap⟩ := hplace
  refine ⟨(rt.id, if row.perPerson then 1 else row.guests.getD 0), hmis, rt, hrt, rfl, hcap, ?_⟩
  show if row.perPerson then _ else _
  by_cases hper : row.perPerson
  · rw [if_pos hper, if_pos hper]
  · rw [if_neg hper, if_neg hper]

/-- **The cells of a day.** A row in force is reported or competes, unless its guests find no place;
a cell has the price of the greatest row that competes for it; a row that competes names nothing but
what the slice names, and its document no other account than the slice's. -/
theorem contractRows_fill {docs : List ContractDoc} (hfill : ∀ d ∈ docs, d.fill = [])
    (slice : Slice) (roomTypes : List ContractRoomType) (date : Day) :
    (∀ doc ∈ docs, doc.ValidOn date → ∀ row ∈ doc.rows, ¬row.TooMany toLowerCase roomTypes →
      (∃ reason, ⟨row, doc, reason⟩ ∈
        (sliceCells toLowerCase docs slice roomTypes date).skipped) ∨
      ∃ (b : Bid) (k : PriceKey), b.In (docsAt docs date) ∧ b.doc = doc ∧ b.row = row ∧
        b.Competes toLowerCase slice roomTypes k) ∧
    (∀ k p, EntryMap.get (sliceCells toLowerCase docs slice roomTypes date).prices k = some p ↔
      ∃ (b : Bid) (net : ℤ), b.In (docsAt docs date) ∧
        b.Competes toLowerCase slice roomTypes k ∧
        (∀ b' : Bid, b'.In (docsAt docs date) → b'.Competes toLowerCase slice roomTypes k →
          b'.rank ≤ b.rank) ∧ b.row.priceNet = some net ∧ p = b.price net k.2) ∧
    ∀ (b : Bid) (k : PriceKey), b.Competes toLowerCase slice roomTypes k →
      (∀ c ∈ b.row.customer, slice.customer = some c.code) ∧
      (∀ g ∈ b.row.guestKind, slice.guestKind = some g) ∧
      b.row.mealPlan.getD .none = slice.mealPlan ∧
      ∀ a ∈ slice.account, ∀ c ∈ b.doc.account, c.code = a := by
  refine ⟨fun doc hdoc hvalid row hrow hfits => ?_, fun k p => ?_, fun b k hk => ?_⟩
  · have hin : doc ∈ docsAt docs date := mem_docsAt.mpr ⟨hdoc, hvalid⟩
    have hskipped : (sliceCells toLowerCase docs slice roomTypes date).skipped =
        (docsAt docs date).flatMap fun doc => doc.rows.filterMap fun row =>
          (skipReason toLowerCase roomTypes slice doc row).map
            fun reason => ⟨row, doc, reason⟩ := by
      rw [sliceCells, fillGrid_eq_none hfill]
    cases hskip : skipReason toLowerCase roomTypes slice doc row with
    | some reason =>
      left
      refine ⟨reason, ?_⟩
      rw [hskipped]
      exact List.mem_flatMap.mpr ⟨doc, hin, List.mem_filterMap.mpr ⟨row, hrow, by rw [hskip]; rfl⟩⟩
    | none =>
      right
      obtain ⟨i, hi⟩ := List.mem_iff_getElem?.mp hin
      obtain ⟨j, hj⟩ := List.mem_iff_getElem?.mp hrow
      unfold skipReason at hskip
      cases hmis : rowMismatch row doc slice with
      | some reason =>
        rw [hmis] at hskip
        cases hskip
      | none =>
        rw [hmis] at hskip
        have hrts : rowRoomTypes toLowerCase row roomTypes ≠ [] := by
          intro hnil
          rw [hnil] at hskip
          cases hskip
        obtain ⟨k, hk⟩ := competes_of_fits toLowerCase hmis hrts hfits i j
        exact ⟨⟨i, j, doc, row⟩, k, ⟨hi, hj⟩, rfl, rfl, hk⟩
  · rw [get_prices_iff toLowerCase hfill]
    constructor
    · rintro ⟨c, hc, rfl⟩
      obtain ⟨b, hb, hk, hgreatest⟩ := exists_greatest toLowerCase (exists_competes toLowerCase hc)
      obtain ⟨net, hnet⟩ := (rowMismatch_eq_none hk.1).2.2.2.2
      refine ⟨b, net, hb, hk, hgreatest, hnet, ?_⟩
      rw [hc.unique (decides_of_greatest toLowerCase hb hk hgreatest), Bid.cell, hnet]
      rfl
    · rintro ⟨b, net, hb, hk, hgreatest, hnet, rfl⟩
      refine ⟨b.cell k.2, decides_of_greatest toLowerCase hb hk hgreatest, ?_⟩
      rw [Bid.cell, hnet]
      rfl
  · obtain ⟨hcustomer, hkind, hmeal, haccount, -⟩ := rowMismatch_eq_none hk.1
    exact ⟨hcustomer, hkind, hmeal, haccount⟩

end Rows

/-- A row of a price for one room type. -/
def ContractRow.ofPrice (guests : Option ℕ) (perPerson : Bool) (priceNet : ℤ) : ContractRow where
  categoryId := none
  categoryIds := [1]
  categoryName := none
  customer := none
  guestKind := none
  mealPlan := none
  guests := guests
  perPerson := perPerson
  priceNet := some priceNet
  onRequest := false

/-- A document of one row and without an end. -/
def ContractDoc.ofRow (account : Option DirectoryRef) (row : ContractRow) : ContractDoc :=
  ⟨account, 0, none, [row], []⟩

/-- A price for a place and one for two guests, that any account has; the price of one account for
two guests, and one that it has to ask for. -/
def ownPrices : List ContractDoc :=
  [⟨none, 0, none, [.ofPrice none true 90000, .ofPrice (some 2) false 160000], []⟩,
    ⟨some ⟨"kc-1", "K"⟩, 0, none,
      [.ofPrice (some 2) false 150000, { ContractRow.ofPrice none true 80000 with onRequest := true }], []⟩]

/-- The account pays its own price for two guests, and the common one for one; the other row is
reported. -/
theorem contractRows_fill_ownPrices :
    let slice : Slice := ⟨some "kc-1", none, none, .none⟩
    let filled := sliceCells id ownPrices slice [⟨1, "Room", some 2⟩] 5
    (∀ doc ∈ ownPrices, ∀ row ∈ doc.rows, (∃ reason, ⟨row, doc, reason⟩ ∈ filled.skipped) ∨
      ∃ (b : Bid) (k : PriceKey), b.In (docsAt ownPrices 5) ∧ b.doc = doc ∧ b.row = row ∧
        b.Competes id slice [⟨1, "Room", some 2⟩] k) ∧
    (∃ (b : Bid) (net : ℤ), b.In (docsAt ownPrices 5) ∧ b.Competes id slice [⟨1, "Room", some 2⟩] (1, 2) ∧
      (∀ b' : Bid, b'.In (docsAt ownPrices 5) → b'.Competes id slice [⟨1, "Room", some 2⟩] (1, 2) →
        b'.rank ≤ b.rank) ∧ b.row.priceNet = some net ∧ 150000 = b.price net 2) ∧
    EntryMap.get filled.prices (1, 1) = some 90000 ∧ filled.skipped.length = 1 := by
  intro slice filled
  have hfill : ∀ d ∈ ownPrices, d.fill = [] := by decide
  obtain ⟨hrows, hprices, -⟩ := contractRows_fill id hfill slice [⟨1, "Room", some 2⟩] 5
  refine ⟨fun doc hdoc row hrow => ?_, (hprices (1, 2) 150000).mp (by decide +kernel), by decide +kernel,
    by decide +kernel⟩
  have hvalid : ∀ d ∈ ownPrices, d.ValidOn 5 := by decide
  have hfits : ∀ d ∈ ownPrices, ∀ r ∈ d.rows,
      ⟨1, "Room", some 2⟩ ∈ rowRoomTypes id r [⟨1, "Room", some 2⟩] ∧
        (if r.perPerson then 1 else r.guests.getD 0) ≤ 2 := by
    decide
  refine hrows doc hdoc (hvalid doc hdoc) row hrow ?_
  rintro ⟨-, hmany⟩
  obtain ⟨hroom, hplaces⟩ := hfits doc hdoc row hrow
  exact absurd (hmany _ hroom) (not_lt.mpr hplaces)

/-- **Two guests in a room for one**: the row is neither reported nor does it compete. **A document
of one account** fills a slice that is for any. -/
theorem contractRow_lost :
    (¬∀ (toLowerCase : List Char → List Char) (docs : List ContractDoc) (slice : Slice)
      (roomTypes : List ContractRoomType) (date : Day), (∀ d ∈ docs, d.fill = []) →
      ∀ doc ∈ docs, doc.ValidOn date → ∀ row ∈ doc.rows,
        (∃ reason, ⟨row, doc, reason⟩ ∈
          (sliceCells toLowerCase docs slice roomTypes date).skipped) ∨
        ∃ (b : Bid) (k : PriceKey), b.In (docsAt docs date) ∧ b.doc = doc ∧ b.row = row ∧
          b.Competes toLowerCase slice roomTypes k) ∧
    ¬∀ (toLowerCase : List Char → List Char) (docs : List ContractDoc) (slice : Slice)
      (roomTypes : List ContractRoomType) (date : Day) (k : PriceKey) (p : ℤ),
      (∀ d ∈ docs, d.fill = []) →
      EntryMap.get (sliceCells toLowerCase docs slice roomTypes date).prices k = some p →
      ∃ doc ∈ docs, ∀ c ∈ doc.account, slice.account = some c.code := by
  constructor
  · intro h
    rcases h id [.ofRow none (.ofPrice (some 2) false 420000)] ⟨none, none, none, .none⟩
      [⟨1, "Room", some 1⟩] 5 (by simp [ContractDoc.ofRow]) _ (List.mem_singleton_self _)
      (by decide) _ (List.mem_singleton_self _) with ⟨reason, hskipped⟩ | ⟨b, k, -, -, hrow, -, hk⟩
    · have hnone : (sliceCells id [.ofRow none (.ofPrice (some 2) false 420000)]
          ⟨none, none, none, .none⟩ [⟨1, "Room", some 1⟩] 5).skipped = [] := by decide +kernel
      rw [hnone] at hskipped
      exact List.not_mem_nil hskipped
    · obtain ⟨rt, hrt, -, hcap, hguests⟩ := hk
      rw [hrow] at hrt hguests
      have hrts : rowRoomTypes id (.ofPrice (some 2) false 420000) [⟨1, "Room", some 1⟩] =
          [⟨1, "Room", some 1⟩] := by decide
      rw [hrts] at hrt
      have hone : k.2 ≤ 1 := by
        rw [List.mem_singleton.mp hrt] at hcap
        exact hcap
      have htwo : k.2 = 2 := hguests
      omega
  · intro h
    obtain ⟨doc, hdoc, haccount⟩ := h id
      [.ofRow (some ⟨"kc-1", "K"⟩) (.ofPrice (some 1) false 420000)] ⟨none, none, none, .none⟩
      [⟨1, "Room", some 1⟩] 5 (1, 1) 420000 (by simp [ContractDoc.ofRow]) (by decide +kernel)
    rw [List.mem_singleton.mp hdoc] at haccount
    cases haccount _ rfl

end KarsHotel
