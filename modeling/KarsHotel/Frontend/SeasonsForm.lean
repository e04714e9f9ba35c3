import KarsHotel.Frontend.ContractSlice
import KarsHotel.Lib.CharText
import KarsHotel.Lib.Grouping
import KarsHotel.Pricing.RowOrder
import KarsHotel.Rates.Service

/-!
# The seasons of a tariff

The tab gathers the season rows of a plan into seasons, each with its prices, lets the hotel edit
them and sends the whole list; the rows of the plan are written anew, with the place in the list as
the sort order.

* `initial`, `handleSave`: the tab; `SeasonTables`: the tables with what only the tab shows;
* **`form_reloaded`**: what an accepted save leaves, loaded in any order of the rows, is the list
  that was saved, without the seasons that have no price;
* **`renaming_keeps_prices`**: a saved list that is opened and saved again with other names and
  colours sells every night at the price it had.
-/

namespace KarsHotel.SeasonsForm

open CharText (trim)

/-! ## The rows -/

/-- A row of `rate_season` with the columns that no price depends on. -/
structure SeasonRow extends RateSeason where
  name : String
  color : Option String
  deriving DecidableEq, Repr

/-- The price tables; the season rows are those of the prices, with the other columns. -/
structure SeasonTables where
  book : PriceBook
  rows : List SeasonRow
  same : rows.map (·.toRateSeason) = book.seasons

/-- The rows of a plan; the query's ordering is not total, so it may be any list with these rows. -/
def SeasonTables.ofPlan (t : SeasonTables) (planId : RatePlanId) : List SeasonRow :=
  t.rows.filter fun r => decide (r.ratePlanId = planId)

/-! ## The tab -/

/-- A season of the form. The price of a field is the number it reads as, in whole kopecks, 0
for none. -/
structure Season where
  name : String
  color : String
  dateFrom : Day
  dateTo : Day
  sortOrder : ℤ
  prices : EntryMap PriceKey Price

/-- The first of `SEASON_COLORS`, for a row without a colour. -/
def defaultColor : String := "#F59E0B"

def shownColor (color : Option String) : String :=
  let c := color.getD ""
  if c = "" then defaultColor else c

/-- The identity of a season: the rows with one key are one season. -/
def groupKey (r : SeasonRow) : ℤ × String × Day × Day := (r.sortOrder, r.name, r.dateFrom, r.dateTo)

def opened (r : SeasonRow) : Season :=
  ⟨r.name, shownColor r.color, r.dateFrom, r.dateTo, r.sortOrder, .empty⟩

def Season.addRow (s : Season) (r : SeasonRow) : Season :=
  { s with prices := s.prices.set (r.roomTypeId, r.occupancy) r.price }

/-- The seasons of the rows. -/
def initial (rows : List SeasonRow) : List Season :=
  ((groupInto groupKey opened Season.addRow rows).rows.map Prod.snd).insertionSort
    fun a b => a.sortOrder ≤ b.sortOrder

/-- The columns of the grid: for any number of guests, and on a partner's plan for each number. -/
def occupancyColumns (plan : RatePlan) (roomTypes : List ContractRoomType) : List ℕ :=
  match plan.partnerId with
  | none => [0]
  | some _ =>
    let most := min 6 ((roomTypes.map fun rt => rt.maxOccupancy.getD 2).foldl max 1)
    0 :: (List.range most).map (· + 1)

def Season.price (s : Season) (k : PriceKey) : Price := (EntryMap.get s.prices k).getD 0

/-- The prices of a season that are sent: those of the grid that are positive. -/
def Season.items (plan : RatePlan) (roomTypes : List ContractRoomType) (s : Season) :
    List SeasonPriceItemDto :=
  roomTypes.flatMap fun rt =>
    ((occupancyColumns plan roomTypes).filter fun o =>
      (decide (o = 0) || decide (o ≤ rt.maxOccupancy.getD o)) && decide (0 < s.price (rt.id, o))).map
        fun o => ⟨rt.id, s.price (rt.id, o), some o⟩

def trimmed (name : String) : String := String.ofList (trim name.toList)

def nameMissing : String := "У каждого сезона должно быть название"

def datesReversed (name : String) : String := "Сезон «" ++ name ++ "»: дата окончания раньше начала"

/-- What the tab itself says of a list, before anything is sent. -/
def complaint (list : List Season) : Option String :=
  list.findSome? fun s =>
    if trimmed s.name = "" then some nameMissing
    else if s.dateTo < s.dateFrom then some (datesReversed s.name)
    else none

/-- A season as it is sent: its place in the list is its sort order. -/
def Season.input (plan : RatePlan) (roomTypes : List ContractRoomType) (s : Season) (idx : ℕ) :
    SeasonInputDto :=
  ⟨trimmed s.name, s.dateFrom, s.dateTo, some (idx : ℤ), s.items plan roomTypes⟩

def payload (plan : RatePlan) (roomTypes : List ContractRoomType) (list : List Season) :
    ReplaceSeasonsDto :=
  ⟨.ofId plan.id, none, list.zipIdx.map fun s => s.1.input plan roomTypes s.2⟩

/-- The rows of a season that is saved, with its name and colour. -/
def Season.savedRows (plan : RatePlan) (roomTypes : List ContractRoomType) (list : List Season)
    (s : Season) (idx : ℕ) : List SeasonRow :=
  (RatesService.seasonRows (payload plan roomTypes list) (s.input plan roomTypes idx) idx).map fun r =>
    { r with name := trimmed s.name, color := some s.color }

def savedRows (plan : RatePlan) (roomTypes : List ContractRoomType) (list : List Season) :
    List SeasonRow :=
  list.zipIdx.flatMap fun s => s.1.savedRows plan roomTypes list s.2

/-- The rows that are saved, without names and colours, are those of the request. -/
theorem savedRows_toRateSeason (plan : RatePlan) (roomTypes : List ContractRoomType)
    (list : List Season) : (savedRows plan roomTypes list).map (·.toRateSeason) =
      (payload plan roomTypes list).rows := by
  have hsent : ((payload plan roomTypes list).seasons.zipIdx.map fun s =>
      RatesService.seasonRows (payload plan roomTypes list) s.1 s.2) =
        (payload plan roomTypes list).seasons.map fun s =>
          RatesService.seasonRows (payload plan roomTypes list) s 0 := by
    conv_rhs => rw [← List.zipIdx_map_fst 0 (payload plan roomTypes list).seasons, List.map_map]
    refine List.map_congr_left fun s hs => ?_
    -- the sort order of a season that is sent is its own
    obtain ⟨t, -, ht⟩ := List.mem_map.mp (List.fst_mem_of_mem_zipIdx hs)
    rw [Function.comp_apply, ← ht]
    rfl
  unfold ReplaceSeasonsDto.rows
  rw [hsent]
  unfold savedRows Season.savedRows payload
  rw [List.map_flatMap, List.map_map, List.flatMap_def]
  congr 1
  refine List.map_congr_left fun s _ => ?_
  rw [List.map_map]
  exact List.map_id _

/-- Why a list is not saved: the tab's own words, or the server's refusal. -/
inductive SaveError where
  | form (message : String)
  | server (failure : Failure)

/-- What the server makes of the request. -/
def replaceSeasons (elsewhere : OtherHotels) (t : SeasonTables) (plan : RatePlan)
    (roomTypes : List ContractRoomType) (list : List Season) : Except Failure SeasonTables :=
  match h : RatesService.replaceSeasons elsewhere t.book (payload plan roomTypes list) with
  | .error e => .error e
  | .ok book => .ok
    { book := book
      rows := (t.rows.filter fun r => !decide (r.ratePlanId = plan.id)) ++ savedRows plan roomTypes list
      same := by
        rw [RatesService.replaceSeasons_ok h, List.map_append, savedRows_toRateSeason, ← t.same,
          List.filter_map]
        rfl }

def handleSave (elsewhere : OtherHotels) (t : SeasonTables) (plan : RatePlan)
    (roomTypes : List ContractRoomType) (list : List Season) : Except SaveError SeasonTables :=
  match complaint list with
  | some message => .error (.form message)
  | none => (replaceSeasons elsewhere t plan roomTypes list).mapError .server

section Saved

variable {elsewhere : OtherHotels} {t t' : SeasonTables} {plan : RatePlan}
  {roomTypes : List ContractRoomType} {list : List Season}

/-- **What an accepted save leaves**: the rows of other plans, and those of the list. -/
theorem handleSave_ok (h : handleSave elsewhere t plan roomTypes list = .ok t') :
    t'.rows = (t.rows.filter fun r => !decide (r.ratePlanId = plan.id)) ++ savedRows plan roomTypes list ∧
      t'.book.standardRates = t.book.standardRates := by
  unfold handleSave at h
  split at h
  · cases h
  · unfold replaceSeasons at h
    split at h
    · cases h
    · rename_i book hbook
      cases h
      have hframe : book.standardRates = t.book.standardRates := by
        rw [RatesService.replaceSeasons_ok hbook]
      exact ⟨rfl, hframe⟩

def OnGrid (plan : RatePlan) (roomTypes : List ContractRoomType) (k : PriceKey) : Prop :=
  ∃ rt ∈ roomTypes, rt.id = k.1 ∧ k.2 ∈ occupancyColumns plan roomTypes ∧
    (k.2 = 0 ∨ k.2 ≤ rt.maxOccupancy.getD k.2)

/-- The row of one field of a season. -/
def savedRow (plan : RatePlan) (s : Season) (idx : ℕ) (k : PriceKey) : SeasonRow :=
  { ratePlanId := plan.id
    roomTypeId := k.1
    dateFrom := s.dateFrom
    dateTo := s.dateTo
    occupancy := k.2
    price := s.price k
    currency := "RUB"
    sortOrder := idx
    name := trimmed s.name
    color := some s.color }

theorem mem_items {s : Season} {it : SeasonPriceItemDto} : it ∈ s.items plan roomTypes ↔
    ∃ k, OnGrid plan roomTypes k ∧ 0 < s.price k ∧ it = ⟨k.1, s.price k, some k.2⟩ := by
  unfold Season.items
  rw [List.mem_flatMap]
  constructor
  · rintro ⟨rt, hrt, hit⟩
    obtain ⟨o, ho, rfl⟩ := List.mem_map.mp hit
    obtain ⟨hcol, hshown⟩ := List.mem_filter.mp ho
    simp only [Bool.and_eq_true, Bool.or_eq_true, decide_eq_true_eq] at hshown
    exact ⟨(rt.id, o), ⟨rt, hrt, rfl, hcol, hshown.1⟩, hshown.2, rfl⟩
  · rintro ⟨⟨id, o⟩, ⟨rt, hrt, rfl, hcol, hshown⟩, hprice, rfl⟩
    refine ⟨rt, hrt, List.mem_map.mpr ⟨o, List.mem_filter.mpr ⟨hcol, ?_⟩, rfl⟩⟩
    simp only [Bool.and_eq_true, Bool.or_eq_true, decide_eq_true_eq]
    exact ⟨hshown, hprice⟩

/-- **The rows that are saved**: one for every positive price of the grid, of every season. -/
theorem mem_savedRows {r : SeasonRow} : r ∈ savedRows plan roomTypes list ↔
    ∃ s idx, list[idx]? = some s ∧ ∃ k, OnGrid plan roomTypes k ∧ 0 < s.price k ∧
      r = savedRow plan s idx k := by
  unfold savedRows Season.savedRows RatesService.seasonRows
  rw [List.mem_flatMap]
  constructor
  · rintro ⟨⟨s, idx⟩, hs, hr⟩
    rw [List.map_map] at hr
    obtain ⟨it, hit, rfl⟩ := List.mem_map.mp hr
    obtain ⟨k, hk, hprice, rfl⟩ := mem_items.mp (List.mem_filter.mp hit).1
    exact ⟨s, idx, List.mem_zipIdx_iff_getElem?.mp hs, k, hk, hprice, rfl⟩
  · rintro ⟨s, idx, hs, k, hk, hprice, rfl⟩
    refine ⟨(s, idx), List.mem_zipIdx_iff_getElem?.mpr hs, ?_⟩
    rw [List.map_map]
    exact List.mem_map.mpr ⟨⟨k.1, s.price k, some k.2⟩,
      List.mem_filter.mpr ⟨mem_items.mpr ⟨k, hk, hprice, rfl⟩, decide_eq_true hprice⟩, rfl⟩

theorem mem_ofPlan (h : handleSave elsewhere t plan roomTypes list = .ok t') {r : SeasonRow} :
    r ∈ t'.ofPlan plan.id ↔ r ∈ savedRows plan roomTypes list := by
  unfold SeasonTables.ofPlan
  rw [(handleSave_ok h).1, List.mem_filter, List.mem_append, List.mem_filter]
  have hplan : r ∈ savedRows plan roomTypes list → r.ratePlanId = plan.id := by
    intro hr
    obtain ⟨s, idx, -, k, -, -, rfl⟩ := mem_savedRows.mp hr
    rfl
  simp only [Bool.not_eq_true', decide_eq_false_iff_not, decide_eq_true_eq]
  tauto

end Saved

/-! ## Loading the rows -/

section Loaded

variable {rows : List SeasonRow}

/-- The rows of one sort order are one season, with one price in each field. -/
structure Numbered (rows : List SeasonRow) : Prop where
  season : ∀ r ∈ rows, ∀ s ∈ rows, r.sortOrder = s.sortOrder → groupKey r = groupKey s ∧ r.color = s.color
  price : ∀ r ∈ rows, ∀ s ∈ rows, r.sortOrder = s.sortOrder → r.roomTypeId = s.roomTypeId →
    r.occupancy = s.occupancy → r.price = s.price

/-- A season of the form shows the rows of the season of `r`. -/
structure Reads (rows : List SeasonRow) (r : SeasonRow) (s : Season) : Prop where
  name : s.name = r.name
  color : s.color = shownColor r.color
  dateFrom : s.dateFrom = r.dateFrom
  dateTo : s.dateTo = r.dateTo
  sortOrder : s.sortOrder = r.sortOrder
  prices : ∀ k p, EntryMap.get s.prices k = some p ↔ ∃ r' ∈ rows, r'.sortOrder = r.sortOrder ∧
    (r'.roomTypeId, r'.occupancy) = k ∧ r'.price = p

theorem foldl_addRow (s : Season) (g : List SeasonRow) : g.foldl Season.addRow s = { s with
    prices := g.foldl (fun m r => EntryMap.set m (r.roomTypeId, r.occupancy) r.price) s.prices } := by
  induction g generalizing s with
  | nil => rfl
  | cons r g ih => rw [List.foldl_cons, ih, List.foldl_cons]; rfl

theorem Numbered.reads (hn : Numbered rows) {r : SeasonRow} (hr : r ∈ rows) {s : Season}
    (hs : groupOf opened Season.addRow (rows.filter fun a => decide (groupKey a = groupKey r)) = some s) :
    Reads rows r s := by
  have hmem : ∀ a, a ∈ rows.filter (fun a => decide (groupKey a = groupKey r)) ↔
      a ∈ rows ∧ a.sortOrder = r.sortOrder := by
    intro a
    rw [List.mem_filter, decide_eq_true_eq]
    constructor
    · exact fun h => ⟨h.1, congrArg Prod.fst h.2⟩
    · exact fun h => ⟨h.1, (hn.season a h.1 r hr h.2).1⟩
  generalize hg : rows.filter (fun a => decide (groupKey a = groupKey r)) = g at hs hmem
  cases g with
  | nil => cases hs
  | cons a g =>
    have ha := (hmem a).mp List.mem_cons_self
    obtain ⟨hkey, hcolor⟩ := hn.season a ha.1 r hr ha.2
    simp only [groupKey, Prod.mk.injEq] at hkey
    have hs : s = (a :: g).foldl Season.addRow (opened a) := (Option.some.inj hs).symm
    rw [foldl_addRow] at hs
    subst hs
    refine ⟨hkey.2.1, congrArg shownColor hcolor, hkey.2.2.1, hkey.2.2.2, hkey.1, fun k p => ?_⟩
    have hentries : (a :: g).foldl (fun m r => EntryMap.set m (r.roomTypeId, r.occupancy) r.price)
        (opened a).prices = EntryMap.ofEntries ((a :: g).map fun r =>
          ((r.roomTypeId, r.occupancy), r.price)) := by
      unfold EntryMap.ofEntries
      rw [List.foldl_map]
      rfl
    show EntryMap.get ((a :: g).foldl _ (opened a).prices) k = some p ↔ _
    rw [hentries, EntryMap.get_ofEntries_iff, List.mem_map]
    · constructor
      · rintro ⟨r', hr', he⟩
        obtain ⟨hk, hp⟩ := Prod.mk.inj he
        exact ⟨r', ((hmem r').mp hr').1, ((hmem r').mp hr').2, hk, hp⟩
      · rintro ⟨r', hr', hsort, rfl, rfl⟩
        exact ⟨r', (hmem r').mpr ⟨hr', hsort⟩, rfl⟩
    · -- the rows of a season have one price in each field
      intro e he e' he' hk
      obtain ⟨x, hx, rfl⟩ := List.mem_map.mp he
      obtain ⟨y, hy, rfl⟩ := List.mem_map.mp he'
      obtain ⟨htype, hocc⟩ := Prod.mk.inj hk
      exact hn.price x ((hmem x).mp hx).1 y ((hmem y).mp hy).1
        (((hmem x).mp hx).2.trans ((hmem y).mp hy).2.symm) htype hocc

theorem mem_initial {s : Season} : s ∈ initial rows ↔ ∃ r ∈ rows,
    groupOf opened Season.addRow (rows.filter fun a => decide (groupKey a = groupKey r)) = some s := by
  unfold initial
  rw [List.mem_insertionSort, List.mem_map]
  constructor
  · rintro ⟨⟨k, s⟩, he, rfl⟩
    have hkeys : k ∈ distinct (rows.map groupKey) := by
      rw [← @keys_groupInto SeasonRow Season _ _ groupKey opened Season.addRow rows]
      exact List.mem_map.mpr ⟨_, he, rfl⟩
    obtain ⟨r, hr, rfl⟩ := List.mem_map.mp (mem_distinct.mp hkeys)
    have hget := EntryMap.mem_rows.mp he
    rw [get_groupInto] at hget
    exact ⟨r, hr, hget⟩
  · rintro ⟨r, -, hs⟩
    refine ⟨(groupKey r, s), EntryMap.mem_rows.mpr ?_, rfl⟩
    rw [get_groupInto]
    exact hs

theorem Numbered.reads_of_mem (hn : Numbered rows) {s : Season} (hs : s ∈ initial rows) :
    ∃ r ∈ rows, Reads rows r s := by
  obtain ⟨r, hr, hgroup⟩ := mem_initial.mp hs
  exact ⟨r, hr, hn.reads hr hgroup⟩

theorem Numbered.exists_reads (hn : Numbered rows) {r : SeasonRow} (hr : r ∈ rows) :
    ∃ s ∈ initial rows, Reads rows r s := by
  cases hg : rows.filter fun a => decide (groupKey a = groupKey r) with
  | nil =>
    have hmem : r ∈ rows.filter fun a => decide (groupKey a = groupKey r) :=
      List.mem_filter.mpr ⟨hr, decide_eq_true rfl⟩
    rw [hg] at hmem
    cases hmem
  | cons a g =>
    have hs : groupOf opened Season.addRow (rows.filter fun a => decide (groupKey a = groupKey r)) =
        some ((a :: g).foldl Season.addRow (opened a)) := by
      rw [hg]
      rfl
    exact ⟨_, mem_initial.mpr ⟨r, hr, hs⟩, hn.reads hr hs⟩

/-- The seasons of the form have different sort orders, and come in their order. -/
theorem Numbered.sorted (hn : Numbered rows) :
    (initial rows).Pairwise fun a b => a.sortOrder < b.sortOrder := by
  have hkey : ∀ e ∈ (groupInto groupKey opened Season.addRow rows).rows,
      ∃ r ∈ rows, groupKey r = e.1 ∧ r.sortOrder = e.2.sortOrder := by
    rintro ⟨k, s⟩ he
    have hkeys : k ∈ distinct (rows.map groupKey) := by
      rw [← @keys_groupInto SeasonRow Season _ _ groupKey opened Season.addRow rows]
      exact List.mem_map.mpr ⟨_, he, rfl⟩
    obtain ⟨r, hr, rfl⟩ := List.mem_map.mp (mem_distinct.mp hkeys)
    have hget := EntryMap.mem_rows.mp he
    rw [get_groupInto] at hget
    exact ⟨r, hr, rfl, (hn.reads hr hget).sortOrder.symm⟩
  have hapart : ((groupInto groupKey opened Season.addRow rows).rows.map Prod.snd).Pairwise
      fun a b => a.sortOrder ≠ b.sortOrder := by
    refine List.pairwise_map.mpr ((List.pairwise_map.mp (groupInto groupKey opened
      Season.addRow rows).nodup).imp_of_mem fun he he' hne heq => hne ?_)
    obtain ⟨r, hr, hk, hsort⟩ := hkey _ he
    obtain ⟨r', hr', hk', hsort'⟩ := hkey _ he'
    show Prod.fst _ = Prod.fst _
    rw [← hk, ← hk']
    exact (hn.season r hr r' hr' (hsort.trans (heq.trans hsort'.symm))).1
  unfold initial
  have hle := List.pairwise_insertionSort (fun a b : Season => a.sortOrder ≤ b.sortOrder)
    ((groupInto groupKey opened Season.addRow rows).rows.map Prod.snd)
  have hne := ((List.perm_insertionSort (fun a b : Season => a.sortOrder ≤ b.sortOrder) _).pairwise_iff
    fun hab => Ne.symm hab).mpr hapart
  exact (hle.and hne).imp fun h => lt_of_le_of_ne h.1 h.2

end Loaded

/-! ## Other sort orders -/

section Renumbered

variable {b b' : BaselineResolver} {planId : RatePlanId} {roomTypeId : RoomTypeId} {day : Day}
  {guests : Option ℕ} {R : RateSeason → RateSeason → Prop}

/-- The seasons of a plan are the same but for sort orders, which keep the order. -/
structure Renumbers (b b' : BaselineResolver) (planId : RatePlanId) (R : RateSeason → RateSeason → Prop) :
    Prop where
  left : ∀ r ∈ b.seasons, r.ratePlanId = planId → ∃ r' ∈ b'.seasons, R r r'
  right : ∀ r' ∈ b'.seasons, r'.ratePlanId = planId → ∃ r ∈ b.seasons, R r r'
  same : ∀ r r', R r r' → r'.ratePlanId = r.ratePlanId ∧ r'.roomTypeId = r.roomTypeId ∧
    r'.dateFrom = r.dateFrom ∧ r'.dateTo = r.dateTo ∧ r'.occupancy = r.occupancy ∧ r'.price = r.price
  order : ∀ r r' s s', R r r' → R s s' → (r.sortOrder ≤ s.sortOrder ↔ r'.sortOrder ≤ s'.sortOrder)
  standards : ∀ s, s ∈ b.standards ↔ s ∈ b'.standards

theorem Renumbers.symm (h : Renumbers b b' planId R) : Renumbers b' b planId fun r' r => R r r' where
  left := h.right
  right := h.left
  same r' r hR := by
    obtain ⟨h₁, h₂, h₃, h₄, h₅, h₆⟩ := h.same r r' hR
    exact ⟨h₁.symm, h₂.symm, h₃.symm, h₄.symm, h₅.symm, h₆.symm⟩
  order r' r s' s hr hs := (h.order r r' s s' hr hs).symm
  standards s := (h.standards s).symm

variable (h : Renumbers b b' planId R)

include h

theorem Renumbers.covering {s s' : RateSeason} (hs' : s' ∈ b'.seasons) (hR : R s s')
    (hc : CoveringSeason b planId roomTypeId day s) : CoveringSeason b' planId roomTypeId day s' := by
  obtain ⟨hplan, htype, hfrom, hto, -, -⟩ := h.same s s' hR
  refine ⟨hs', hplan.trans hc.2.1, htype.trans hc.2.2.1, ?_⟩
  unfold RateSeason.Covers
  rw [hfrom, hto]
  exact hc.2.2.2

theorem Renumbers.exists_covering {s' : RateSeason}
    (hc : CoveringSeason b' planId roomTypeId day s') :
    ∃ s, R s s' ∧ CoveringSeason b planId roomTypeId day s := by
  obtain ⟨s, hs, hR⟩ := h.right s' hc.1 hc.2.1
  exact ⟨s, hR, h.symm.covering hs hR hc⟩

theorem Renumbers.top {t t' : RateSeason} (ht' : t' ∈ b'.seasons) (hR : R t t')
    (ht : TopSeason b planId roomTypeId day t) : TopSeason b' planId roomTypeId day t' := by
  refine ⟨h.covering ht' hR ht.1, fun s' hs' => ?_⟩
  obtain ⟨s, hRs, hs⟩ := h.exists_covering hs'
  have hbefore := ht.2 s hs
  unfold RateSeason.Before at hbefore ⊢
  rw [(h.same t t' hR).2.2.1, (h.same s s' hRs).2.2.1, ← h.order s s' t t' hRs hR]
  exact hbefore

theorem Renumbers.window {t t' r r' : RateSeason} (hr' : r' ∈ b'.seasons) (hRt : R t t') (hRr : R r r')
    (hw : WindowRow b planId roomTypeId day t r) : WindowRow b' planId roomTypeId day t' r' := by
  obtain ⟨hfrom, hto, hsort⟩ := hw.2
  refine ⟨h.covering hr' hRr hw.1, ?_, ?_, ?_⟩
  · rw [(h.same r r' hRr).2.2.1, (h.same t t' hRt).2.2.1, hfrom]
  · rw [(h.same r r' hRr).2.2.2.1, (h.same t t' hRt).2.2.2.1, hto]
  · exact le_antisymm ((h.order r r' t t' hRr hRt).mp hsort.le) ((h.order t t' r r' hRt hRr).mp hsort.ge)

/-- A row of the window for the guests stays one. -/
theorem Renumbers.forGuests {t t' r r' : RateSeason} (hr' : r' ∈ b'.seasons) (hRt : R t t')
    (hRr : R r r')
    (hr : ForGuests (WindowRow b planId roomTypeId day t) guests r) :
    ForGuests (WindowRow b' planId roomTypeId day t') guests r' := by
  have hocc : ∀ s', WindowRow b' planId roomTypeId day t' s' →
      ∃ s, WindowRow b planId roomTypeId day t s ∧ s.occupancy = s'.occupancy := by
    intro s' hs'
    obtain ⟨s, hs, hRs⟩ := h.right s' hs'.1.1 hs'.1.2.1
    exact ⟨s, h.symm.window hs hRt hRs hs', ((h.same s s' hRs).2.2.2.2.1).symm⟩
  have hsame : r'.occupancy = r.occupancy := (h.same r r' hRr).2.2.2.2.1
  refine ⟨h.window hr' hRt hRr hr.1, ?_⟩
  obtain ⟨-, hrule⟩ := hr
  have hleast : (∀ s, WindowRow b planId roomTypeId day t s → r.occupancy ≤ s.occupancy) →
      ∀ s', WindowRow b' planId roomTypeId day t' s' → r'.occupancy ≤ s'.occupancy := by
    intro hle s' hs'
    obtain ⟨s, hs, heq⟩ := hocc s' hs'
    rw [hsame, ← heq]
    exact hle s hs
  match guests with
  | none => exact hleast hrule
  | some 0 => exact hleast hrule
  | some (n + 1) =>
    rcases hrule with hexact | ⟨hany, hother⟩
    · exact Or.inl (hsame.trans hexact)
    · refine Or.inr ⟨hsame.trans hany, fun s' hs' heq => ?_⟩
      obtain ⟨s, hs, hso⟩ := hocc s' hs'
      exact hother s hs (hso.trans heq)

omit h in
theorem standardPrice_congr (hs : ∀ s, s ∈ b.standards ↔ s ∈ b'.standards) {p : Option Price}
    (hp : StandardPrice b planId roomTypeId guests p) : StandardPrice b' planId roomTypeId guests p := by
  have hrow : StandardRow b planId roomTypeId = StandardRow b' planId roomTypeId := by
    funext s
    rw [StandardRow, StandardRow, hs]
  unfold StandardPrice at hp ⊢
  rw [← hrow]
  exact hp

/-- **The rule allows the prices it allowed.** -/
theorem Renumbers.rulePrice {p : Option Price} (hp : RulePrice b planId roomTypeId day guests p) :
    RulePrice b' planId roomTypeId day guests p := by
  cases hp with
  | season t r ht hr =>
    obtain ⟨t', ht', hRt⟩ := h.left t ht.1.1 ht.1.2.1
    obtain ⟨r', hr', hRr⟩ := h.left r hr.1.1.1 hr.1.1.2.1
    rw [← (h.same r r' hRr).2.2.2.2.2]
    exact .season t' r' (h.top ht' hRt ht) (h.forGuests hr' hRt hRr hr)
  | window t p ht hr hp =>
    obtain ⟨t', ht', hRt⟩ := h.left t ht.1.1 ht.1.2.1
    refine .window t' p (h.top ht' hRt ht) (fun r' hr' => ?_) (standardPrice_congr h.standards hp)
    obtain ⟨r, hrb, hRr⟩ := h.right r' hr'.1.1.1 hr'.1.1.2.1
    exact hr r (h.symm.forGuests hrb hRt hRr hr')
  | standard p hs hp =>
    refine .standard p (fun s' hs' => ?_) (standardPrice_congr h.standards hp)
    obtain ⟨s, -, hc⟩ := h.exists_covering hs'
    exact hs s hc

end Renumbered

section OneWindow

variable {b : BaselineResolver} {planId : RatePlanId} {roomTypeId : RoomTypeId} {day : Day}
  {guests : Option ℕ}

/-- Seasons of one sort order have one end, and one price in each field. -/
def OneWindow (b : BaselineResolver) (planId : RatePlanId) : Prop :=
  ∀ r ∈ b.seasons, ∀ s ∈ b.seasons, r.ratePlanId = planId → s.ratePlanId = planId →
    r.sortOrder = s.sortOrder → r.dateTo = s.dateTo ∧
      (r.roomTypeId = s.roomTypeId → r.occupancy = s.occupancy → r.price = s.price)

theorem OneWindow.windowRow (hone : OneWindow b planId) {t t' : RateSeason}
    (ht : TopSeason b planId roomTypeId day t) (ht' : TopSeason b planId roomTypeId day t') :
    WindowRow b planId roomTypeId day t = WindowRow b planId roomTypeId day t' := by
  have htt' := ht.2 t' ht'.1
  have ht't := ht'.2 t ht.1
  unfold RateSeason.Before at htt' ht't
  have hfrom : t.dateFrom = t'.dateFrom := by
    rcases htt' with hlt | ⟨heq, -⟩
    · rcases ht't with hlt' | ⟨heq', -⟩
      · exact absurd (hlt.trans hlt') (lt_irrefl _)
      · exact heq'.symm
    · exact heq
  have hsort : t.sortOrder = t'.sortOrder := by
    rcases htt' with hlt | ⟨-, hle⟩
    · exact absurd (hfrom ▸ hlt) (lt_irrefl _)
    · rcases ht't with hlt' | ⟨-, hle'⟩
      · exact absurd (hfrom ▸ hlt') (lt_irrefl _)
      · exact le_antisymm hle' hle
  have hto := (hone t ht.1.1 t' ht'.1.1 ht.1.2.1 ht'.1.2.1 hsort).1
  funext s
  unfold WindowRow RateSeason.SameWindow
  rw [hfrom, hto, hsort]

/-- **The rule allows one price.** -/
theorem OneWindow.tiesAgree (hone : OneWindow b planId)
    (hunique : (b.standards.map StandardRate.key).Nodup) :
    TiesAgree b planId roomTypeId day guests := by
  have hstandard : ∀ p q, StandardPrice b planId roomTypeId guests p →
      StandardPrice b planId roomTypeId guests q → p = q := fun p q hp hq =>
    (standardPrice_unique hunique hp).symm.trans (standardPrice_unique hunique hq)
  have hseason : ∀ t r r', ForGuests (WindowRow b planId roomTypeId day t) guests r →
      ForGuests (WindowRow b planId roomTypeId day t) guests r' → r.price = r'.price := by
    intro t r r' hr hr'
    have hocc : r.occupancy = r'.occupancy := by
      obtain ⟨hrow, hr⟩ := hr
      obtain ⟨hrow', hr'⟩ := hr'
      match guests with
      | none => exact Nat.le_antisymm (hr r' hrow') (hr' r hrow)
      | some 0 => exact Nat.le_antisymm (hr r' hrow') (hr' r hrow)
      | some (n + 1) =>
        rcases hr with hr | ⟨hr, hrn⟩ <;> rcases hr' with hr' | ⟨hr', hrn'⟩
        · exact hr.trans hr'.symm
        · exact absurd hr (hrn' r hrow)
        · exact absurd hr' (hrn r' hrow')
        · exact hr.trans hr'.symm
    obtain ⟨hc, -, -, hsort⟩ := hr.1
    obtain ⟨hc', -, -, hsort'⟩ := hr'.1
    exact (hone r hc.1 r' hc'.1 hc.2.1 hc'.2.1 (hsort.trans hsort'.symm)).2
      (hc.2.2.1.trans hc'.2.2.1.symm) hocc
  intro p q hp hq
  cases hp with
  | season t r ht hr =>
    cases hq with
    | season t' r' ht' hr' =>
      rw [← hone.windowRow ht ht'] at hr'
      exact congrArg some (hseason t r r' hr hr')
    | window t' q ht' hr' hq =>
      rw [hone.windowRow ht ht'] at hr
      exact absurd hr (hr' r)
    | standard q hs hq => exact absurd ht.1 (hs t)
  | window t p ht hr hp =>
    cases hq with
    | season t' r' ht' hr' =>
      rw [← hone.windowRow ht ht'] at hr'
      exact absurd hr' (hr r')
    | window t' q ht' hr' hq => exact hstandard p q hp hq
    | standard q hs hq => exact absurd ht.1 (hs t)
  | standard p hs hp =>
    cases hq with
    | season t' r' ht' hr' => exact absurd ht'.1 (hs t')
    | window t' q ht' hr' hq => exact absurd ht'.1 (hs t')
    | standard q hs' hq => exact hstandard p q hp hq

end OneWindow

/-! ## Saved and loaded -/

/-- What a season of the form shows. -/
structure SeasonShape where
  name : String
  color : String
  dateFrom : Day
  dateTo : Day
  sortOrder : ℤ
  prices : PriceKey → Option Price

def Season.shape (s : Season) : SeasonShape :=
  ⟨s.name, s.color, s.dateFrom, s.dateTo, s.sortOrder, EntryMap.get s.prices⟩

section Reloaded

variable {elsewhere : OtherHotels} {t t' : SeasonTables} {plan : RatePlan}
  {roomTypes : List ContractRoomType} {list : List Season} {rows : List SeasonRow}

instance (k : PriceKey) : Decidable (OnGrid plan roomTypes k) := by
  unfold OnGrid
  infer_instance

/-- A season that is saved at its place: trimmed, and with the positive prices of the grid. -/
def savedShape (plan : RatePlan) (roomTypes : List ContractRoomType) (s : Season × ℕ) : SeasonShape :=
  ⟨trimmed s.1.name, shownColor (some s.1.color), s.1.dateFrom, s.1.dateTo, s.2, fun k =>
    if OnGrid plan roomTypes k ∧ 0 < s.1.price k then some (s.1.price k) else none⟩

/-- The seasons that are saved: those with a price. -/
def kept (plan : RatePlan) (roomTypes : List ContractRoomType) (list : List Season) :
    List (Season × ℕ) :=
  list.zipIdx.filter fun s => !(s.1.items plan roomTypes).isEmpty

theorem mem_kept {s : Season} {idx : ℕ} : (s, idx) ∈ kept plan roomTypes list ↔
    list[idx]? = some s ∧ ∃ k, OnGrid plan roomTypes k ∧ 0 < s.price k := by
  unfold kept
  rw [List.mem_filter, List.mem_zipIdx_iff_getElem?]
  refine and_congr_right fun _ => ?_
  cases hitems : s.items plan roomTypes with
  | nil =>
    refine ⟨fun h => absurd h (by simp), ?_⟩
    rintro ⟨k, hk, hprice⟩
    have hmem := mem_items.mpr ⟨k, hk, hprice, rfl⟩
    rw [hitems] at hmem
    cases hmem
  | cons it rest =>
    refine ⟨fun _ => ?_, fun _ => rfl⟩
    obtain ⟨k, hk, hprice, -⟩ := mem_items.mp (hitems ▸ List.mem_cons_self : it ∈ s.items plan roomTypes)
    exact ⟨k, hk, hprice⟩

/-- Rows that are saved together are numbered by the places in the list. -/
theorem numbered_savedRows (hrows : ∀ r, r ∈ rows ↔ r ∈ savedRows plan roomTypes list) :
    Numbered rows := by
  have hplace : ∀ r ∈ rows, ∀ r' ∈ rows, r.sortOrder = r'.sortOrder → ∃ s idx k k',
      r = savedRow plan s idx k ∧ r' = savedRow plan s idx k' := by
    intro r hr r' hr' hsort
    obtain ⟨s, idx, hs, k, -, -, rfl⟩ := mem_savedRows.mp ((hrows r).mp hr)
    obtain ⟨s', idx', hs', k', -, -, rfl⟩ := mem_savedRows.mp ((hrows r').mp hr')
    obtain rfl : idx = idx' := Int.ofNat_inj.mp hsort
    obtain rfl : s = s' := Option.some.inj (hs.symm.trans hs')
    exact ⟨s, idx, k, k', rfl, rfl⟩
  constructor
  · intro r hr r' hr' hsort
    obtain ⟨s, idx, k, k', rfl, rfl⟩ := hplace r hr r' hr' hsort
    exact ⟨rfl, rfl⟩
  · intro r hr r' hr' hsort htype hocc
    obtain ⟨s, idx, k, k', rfl, rfl⟩ := hplace r hr r' hr' hsort
    exact congrArg s.price (Prod.ext htype hocc)

/-- A season of the form that shows a saved one looks like it. -/
theorem Reads.shape_eq (hrows : ∀ r, r ∈ rows ↔ r ∈ savedRows plan roomTypes list) {s s' : Season}
    {idx : ℕ} {k : PriceKey} (hs : list[idx]? = some s) (h : Reads rows (savedRow plan s idx k) s') :
    s'.shape = savedShape plan roomTypes (s, idx) := by
  have hprices : EntryMap.get s'.prices = fun k =>
      if OnGrid plan roomTypes k ∧ 0 < s.price k then some (s.price k) else none := by
    funext k'
    refine Option.ext fun p => (h.prices k' p).trans ?_
    constructor
    · rintro ⟨r', hr', hsort, hk, rfl⟩
      obtain ⟨t, j, ht, k'', hgrid, hprice, rfl⟩ := mem_savedRows.mp ((hrows r').mp hr')
      obtain rfl : j = idx := Int.ofNat_inj.mp hsort
      obtain rfl : s = t := Option.some.inj (hs.symm.trans ht)
      obtain rfl : k'' = k' := hk
      rw [if_pos ⟨hgrid, hprice⟩]
      rfl
    · intro hp
      split_ifs at hp with hcond
      cases hp
      exact ⟨savedRow plan s idx k', (hrows _).mpr (mem_savedRows.mpr
        ⟨s, idx, hs, k', hcond.1, hcond.2, rfl⟩), rfl, rfl, rfl⟩
  unfold Season.shape savedShape
  rw [hprices, h.name, h.color, h.dateFrom, h.dateTo, h.sortOrder]
  rfl

/-- **The form that is loaded after a save**: whatever list is saved and accepted, and in whatever
order the rows of the plan are then read, the form is the list that was saved, each season with its
name trimmed, its place in the list as its sort order and the positive prices of the grid, without
the seasons that have none; the rows of other plans are as they were. -/
theorem form_reloaded (elsewhere : OtherHotels) (t t' : SeasonTables) (plan : RatePlan)
    (roomTypes : List ContractRoomType) (list : List Season)
    (h : handleSave elsewhere t plan roomTypes list = .ok t') :
    (∀ rows, rows.Perm (t'.ofPlan plan.id) → (initial rows).map Season.shape =
      (kept plan roomTypes list).map (savedShape plan roomTypes)) ∧
    ∀ planId, planId ≠ plan.id → t'.ofPlan planId = t.ofPlan planId := by
  constructor
  · intro rows hperm
    have hrows : ∀ r, r ∈ rows ↔ r ∈ savedRows plan roomTypes list := fun r =>
      hperm.mem_iff.trans (mem_ofPlan h)
    have hn := numbered_savedRows hrows
    -- both lists are sorted by the sort orders, without ties, and have the same elements
    have hloaded : ((initial rows).map Season.shape).Pairwise fun a b => a.sortOrder < b.sortOrder :=
      List.pairwise_map.mpr hn.sorted
    have hsaved : ((kept plan roomTypes list).map (savedShape plan roomTypes)).Pairwise
        fun a b => a.sortOrder < b.sortOrder := by
      refine List.pairwise_map.mpr (List.Pairwise.filter _ ?_)
      have hplaces : (list.zipIdx.map Prod.snd).Pairwise (· < ·) := by
        rw [List.zipIdx_map_snd]
        exact List.pairwise_lt_range'
      exact (List.pairwise_map.mp hplaces).imp fun hlt => Int.ofNat_lt.mpr hlt
    have : Std.Irrefl fun a b : SeasonShape => a.sortOrder < b.sortOrder := ⟨fun _ => lt_irrefl _⟩
    have : Std.Antisymm fun a b : SeasonShape => a.sortOrder < b.sortOrder :=
      ⟨fun _ _ hab hba => absurd (hab.trans hba) (lt_irrefl _)⟩
    refine List.Pairwise.eq_of_mem_iff hloaded hsaved fun x => ?_
    rw [List.mem_map, List.mem_map]
    constructor
    · rintro ⟨s', hs', rfl⟩
      obtain ⟨r, hr, hreads⟩ := hn.reads_of_mem hs'
      obtain ⟨s, idx, hs, k, hk, hprice, rfl⟩ := mem_savedRows.mp ((hrows r).mp hr)
      exact ⟨(s, idx), mem_kept.mpr ⟨hs, k, hk, hprice⟩, (hreads.shape_eq hrows hs).symm⟩
    · rintro ⟨⟨s, idx⟩, hkept, rfl⟩
      obtain ⟨hs, k, hk, hprice⟩ := mem_kept.mp hkept
      obtain ⟨s', hs', hreads⟩ := hn.exists_reads
        ((hrows _).mpr (mem_savedRows.mpr ⟨s, idx, hs, k, hk, hprice, rfl⟩))
      exact ⟨s', hs', hreads.shape_eq hrows hs⟩
  · intro planId hne
    unfold SeasonTables.ofPlan
    rw [(handleSave_ok h).1, List.filter_append, List.filter_filter]
    have hnone : (savedRows plan roomTypes list).filter (fun r => decide (r.ratePlanId = planId)) = [] := by
      refine List.filter_eq_nil_iff.mpr fun r hr => ?_
      obtain ⟨s, idx, -, k, -, -, rfl⟩ := mem_savedRows.mp hr
      exact fun heq => hne (of_decide_eq_true heq).symm
    rw [hnone, List.append_nil]
    refine List.filter_congr fun r _ => ?_
    by_cases hr : r.ratePlanId = planId
    · simp [hr, hne]
    · simp [hr]

end Reloaded

/-! ## Other names -/

/-- What a season has besides its name and its colour; its place is that in the list. -/
def Season.priced (s : Season) : Day × Day × EntryMap PriceKey Price := (s.dateFrom, s.dateTo, s.prices)

/-- Only names and colours of a list were edited. -/
def Renamed (shown edited : List Season) : Prop := edited.map Season.priced = shown.map Season.priced

/-- The rows the prices are looked up in, in some order. -/
def SeasonTables.resolver (t : SeasonTables) : BaselineResolver :=
  ⟨t.book.seasons, t.book.standardRates.rows⟩

/-- A row, and what it is after the seasons are saved in the order the form shows. -/
def Renumbered (rows : List SeasonRow) (r r' : RateSeason) : Prop :=
  ∃ (j : ℕ) (s : Season), (initial rows)[j]? = some s ∧ s.sortOrder = r.sortOrder ∧
    r' = { r with sortOrder := (j : ℤ), currency := "RUB" }

section Renamed

variable {elsewhere : OtherHotels} {t₀ t₁ t₂ : SeasonTables} {plan : RatePlan}
  {roomTypes : List ContractRoomType} {list edited : List Season} {rows : List SeasonRow}

theorem Renamed.getElem? {shown : List Season} (h : Renamed shown edited) {j : ℕ} {s : Season}
    (hs : shown[j]? = some s) :
    ∃ e, edited[j]? = some e ∧ e.priced = s.priced := by
  have hj : (edited.map Season.priced)[j]? = some s.priced := by
    rw [h, List.getElem?_map, hs]
    rfl
  rw [List.getElem?_map] at hj
  exact Option.map_eq_some_iff.mp hj

theorem Renamed.symm {shown : List Season} (h : Renamed shown edited) : Renamed edited shown :=
  Eq.symm h

theorem priced_eq {s e : Season} (h : e.priced = s.priced) :
    e.dateFrom = s.dateFrom ∧ e.dateTo = s.dateTo ∧ ∀ k, e.price k = s.price k := by
  obtain ⟨hfrom, hrest⟩ := Prod.mk.inj h
  obtain ⟨hto, hprices⟩ := Prod.mk.inj hrest
  refine ⟨hfrom, hto, fun k => ?_⟩
  unfold Season.price
  rw [hprices]

/-- The seasons of the form are numbered as their rows are. -/
theorem Numbered.renumbered_order (hn : Numbered rows) {r r' s s' : RateSeason}
    (hr : Renumbered rows r r') (hs : Renumbered rows s s') :
    r.sortOrder ≤ s.sortOrder ↔ r'.sortOrder ≤ s'.sortOrder := by
  obtain ⟨i, x, hi, hx, rfl⟩ := hr
  obtain ⟨j, y, hj, hy, rfl⟩ := hs
  obtain ⟨hilt, hxi⟩ := List.getElem?_eq_some_iff.mp hi
  obtain ⟨hjlt, hyj⟩ := List.getElem?_eq_some_iff.mp hj
  have hsorted := List.pairwise_iff_getElem.mp hn.sorted
  show r.sortOrder ≤ s.sortOrder ↔ (i : ℤ) ≤ (j : ℤ)
  rw [← hx, ← hy, ← hxi, ← hyj, Int.ofNat_le]
  rcases lt_trichotomy i j with hlt | rfl | hlt
  · exact iff_of_true (hsorted i j hilt hjlt hlt).le hlt.le
  · exact iff_of_true le_rfl le_rfl
  · exact iff_of_false (not_le.mpr (hsorted j i hjlt hilt hlt)) (not_le.mpr hlt)

theorem SeasonTables.mem_seasons {t : SeasonTables} {planId : RatePlanId} {r : RateSeason} :
    r ∈ t.resolver.seasons ∧ r.ratePlanId = planId ↔
      ∃ x ∈ t.ofPlan planId, x.toRateSeason = r := by
  unfold SeasonTables.resolver SeasonTables.ofPlan
  rw [← t.same]
  constructor
  · rintro ⟨hmem, hplan⟩
    obtain ⟨x, hx, rfl⟩ := List.mem_map.mp hmem
    exact ⟨x, List.mem_filter.mpr ⟨hx, decide_eq_true hplan⟩, rfl⟩
  · rintro ⟨x, hx, rfl⟩
    obtain ⟨hmem, hplan⟩ := List.mem_filter.mp hx
    exact ⟨List.mem_map.mpr ⟨x, hmem, rfl⟩, of_decide_eq_true hplan⟩

/-- The row of a field that has the price of `x`, at another place. -/
theorem savedRow_eq {x : SeasonRow} {e : Season} {k : PriceKey} (j : ℕ) (hplan : x.ratePlanId = plan.id)
    (hk : (x.roomTypeId, x.occupancy) = k) (hfrom : e.dateFrom = x.dateFrom)
    (hto : e.dateTo = x.dateTo) (hprice : e.price k = x.price) :
    (savedRow plan e j k).toRateSeason =
      { x.toRateSeason with sortOrder := (j : ℤ), currency := "RUB" } := by
  subst hk
  unfold savedRow
  rw [hfrom, hto, hprice, ← hplan]

/-- A row of a list that was saved, shown by a season with these prices, is saved again at the
season's place. -/
theorem Reads.saved_again (hrows : ∀ r, r ∈ rows ↔ r ∈ savedRows plan roomTypes list)
    {x : SeasonRow} (hx : x ∈ rows) {s e : Season} (hreads : Reads rows x s) {j : ℕ}
    (he : edited[j]? = some e) (hpriced : e.priced = s.priced) :
    ∃ y ∈ savedRows plan roomTypes edited,
      y.toRateSeason = { x.toRateSeason with sortOrder := (j : ℤ), currency := "RUB" } := by
  obtain ⟨hfrom, hto, hprice⟩ := priced_eq hpriced
  obtain ⟨z, idx, -, k, hgrid, hpos, hz⟩ := mem_savedRows.mp ((hrows x).mp hx)
  have hplan : x.ratePlanId = plan.id := hz ▸ rfl
  have hk : (x.roomTypeId, x.occupancy) = k := hz ▸ rfl
  have hpos : 0 < x.price := hz ▸ hpos
  have hget : EntryMap.get s.prices k = some x.price :=
    (hreads.prices k x.price).mpr ⟨x, hx, rfl, hk, rfl⟩
  have hsame : e.price k = x.price := by
    rw [hprice k, Season.price, hget]
    rfl
  exact ⟨savedRow plan e j k, mem_savedRows.mpr ⟨e, j, he, k, hgrid, hsame ▸ hpos, rfl⟩,
    savedRow_eq j hplan hk (hfrom.trans hreads.dateFrom) (hto.trans hreads.dateTo) hsame⟩

/-- **A list of other names has the rows it had**, numbered by the places of the form. -/
theorem renumbers (h₁ : handleSave elsewhere t₀ plan roomTypes list = .ok t₁)
    (hperm : rows.Perm (t₁.ofPlan plan.id)) (hedit : Renamed (initial rows) edited)
    (h₂ : handleSave elsewhere t₁ plan roomTypes edited = .ok t₂) :
    Renumbers t₁.resolver t₂.resolver plan.id (Renumbered rows) := by
  have hrows : ∀ r, r ∈ rows ↔ r ∈ savedRows plan roomTypes list := fun r =>
    hperm.mem_iff.trans (mem_ofPlan h₁)
  have hn := numbered_savedRows hrows
  refine ⟨fun r hr hplan => ?_, fun r' hr' hplan' => ?_, ?_, fun _ _ _ _ => hn.renumbered_order, ?_⟩
  · obtain ⟨x, hx, rfl⟩ := SeasonTables.mem_seasons.mp ⟨hr, hplan⟩
    have hxr := hperm.mem_iff.mpr hx
    obtain ⟨s, hs, hreads⟩ := hn.exists_reads hxr
    obtain ⟨j, hj⟩ := List.mem_iff_getElem?.mp hs
    obtain ⟨e, he, hpriced⟩ := hedit.getElem? hj
    obtain ⟨y, hy, heq⟩ := hreads.saved_again hrows hxr he hpriced
    exact ⟨y.toRateSeason, (SeasonTables.mem_seasons.mpr ⟨y, (mem_ofPlan h₂).mpr hy, rfl⟩).1,
      j, s, hj, hreads.sortOrder, heq⟩
  · obtain ⟨y, hy, rfl⟩ := SeasonTables.mem_seasons.mp ⟨hr', hplan'⟩
    obtain ⟨e, j, he, k, hgrid, hpos, rfl⟩ := mem_savedRows.mp ((mem_ofPlan h₂).mp hy)
    obtain ⟨s, hj, hpriced⟩ := hedit.symm.getElem? he
    obtain ⟨hfrom, hto, hprice⟩ := priced_eq hpriced
    obtain ⟨r₀, hr₀, hreads⟩ := hn.reads_of_mem (List.mem_of_getElem? hj)
    -- the price that is sent was read from a row of the season
    have hsome : ∃ p, EntryMap.get s.prices k = some p := by
      rw [← Option.isSome_iff_exists, ← Option.ne_none_iff_isSome]
      intro hnone
      rw [← hprice k, Season.price, hnone] at hpos
      exact absurd hpos (lt_irrefl _)
    obtain ⟨p, hp⟩ := hsome
    obtain ⟨x, hx, hsort, hk, rfl⟩ := (hreads.prices k p).mp hp
    have hkey := (hn.season x hx r₀ hr₀ hsort).1
    simp only [groupKey, Prod.mk.injEq] at hkey
    have hplan : x.ratePlanId = plan.id := by
      obtain ⟨z, idx, -, k', -, -, rfl⟩ := mem_savedRows.mp ((hrows x).mp hx)
      rfl
    have hvalue : e.price k = x.price := by
      rw [← hprice k, Season.price, hp]
      rfl
    exact ⟨x.toRateSeason, (SeasonTables.mem_seasons.mpr ⟨x, hperm.mem_iff.mp hx, rfl⟩).1,
      j, s, hj, hreads.sortOrder.trans hsort.symm,
      savedRow_eq j hplan hk (hfrom.symm.trans (hreads.dateFrom.trans hkey.2.2.1.symm))
        (hto.symm.trans (hreads.dateTo.trans hkey.2.2.2.symm)) hvalue⟩
  · rintro r r' ⟨j, s, -, -, rfl⟩
    exact ⟨rfl, rfl, rfl, rfl, rfl, rfl⟩
  · intro s
    show s ∈ t₁.book.standardRates.rows ↔ s ∈ t₂.book.standardRates.rows
    rw [(handleSave_ok h₂).2]

theorem oneWindow (h : handleSave elsewhere t₁ plan roomTypes edited = .ok t₂) :
    OneWindow t₂.resolver plan.id := by
  have hn : Numbered (t₂.ofPlan plan.id) := numbered_savedRows fun r => mem_ofPlan h
  intro r hr s hs hrplan hsplan hsort
  obtain ⟨x, hx, rfl⟩ := SeasonTables.mem_seasons.mp ⟨hr, hrplan⟩
  obtain ⟨y, hy, rfl⟩ := SeasonTables.mem_seasons.mp ⟨hs, hsplan⟩
  have hkey := (hn.season x hx y hy hsort).1
  simp only [groupKey, Prod.mk.injEq] at hkey
  exact ⟨hkey.2.2.2, hn.price x hx y hy hsort⟩

/-- **A list that is opened after a save, given other names and colours and saved again** sells
every night at the price it had, in whatever order the rows are read before and after. -/
theorem renaming_keeps_prices (h₁ : handleSave elsewhere t₀ plan roomTypes list = .ok t₁)
    (hperm : rows.Perm (t₁.ofPlan plan.id)) (hedit : Renamed (initial rows) edited)
    (h₂ : handleSave elsewhere t₁ plan roomTypes edited = .ok t₂) {b b' : BaselineResolver}
    (hb : RowsReordered t₁.resolver b) (hb' : RowsReordered t₂.resolver b') (roomTypeId : RoomTypeId)
    (day : Day) (guests : Option ℕ) :
    b'.resolve plan.id roomTypeId day guests = b.resolve plan.id roomTypeId day guests := by
  have hbefore : RulePrice t₂.resolver plan.id roomTypeId day guests
      (b.resolve plan.id roomTypeId day guests) :=
    (renumbers h₁ hperm hedit h₂).rulePrice (rulePrice_resolve.perm hb)
  have hafter : RulePrice t₂.resolver plan.id roomTypeId day guests
      (b'.resolve plan.id roomTypeId day guests) := rulePrice_resolve.perm hb'
  exact (oneWindow h₂).tiesAgree t₂.book.standardRates.nodup _ _ hafter hbefore

end Renamed

end KarsHotel.SeasonsForm
