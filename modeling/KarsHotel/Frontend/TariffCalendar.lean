import KarsHotel.Pricing.RateResolution

/-!
# The tariff calendar

The calendar of a plan shows the price of a day from the rows that the screen has loaded; bookings
are priced by `BaselineResolver` from the rows that the server reads.

* `pickOccupancy`, `buildResolver`, `RateCalendar.resolve`: the screen's rule;
* `TariffRows`: the rows of the two sides, each in the order in which the database answered;
* `seasonPrice_eq`, `calendar_season`: the season row that each side takes;
* `ShowsSold`: the rows for which the two rules come to one price; **`calendar_shows_sold_iff`**:
  these and no others.
-/

namespace KarsHotel

/-! ## The screen -/

/-- A season as the screen loads it. -/
structure CalendarSeason extends RateSeason where
  name : String
  deriving DecidableEq, Repr

instance : HasOccupancy CalendarSeason := ⟨fun s => s.occupancy, fun s => s.price⟩

/-- The rows for so many guests: exactly so many, else any number; without a number, all. -/
def pickOccupancy {T K : Type} [HasOccupancy T] [DecidableEq K] (rows : List T)
    (occupancy : Option ℕ) (groupKey : T → K) : List T :=
  let occ : T → ℕ := HasOccupancy.occupancy
  match occupancy with
  | some (n + 1) =>
    let exact := (rows.filter fun r => decide (occ r = n + 1)).map groupKey
    rows.filter fun r => decide (occ r = n + 1) || (decide (occ r = 0) && !exact.contains (groupKey r))
  | _ => rows

inductive BaselineSource where
  | season (s : CalendarSeason)
  | standard
  deriving DecidableEq, Repr

structure Baseline where
  price : Price
  source : BaselineSource
  deriving DecidableEq, Repr

/-- The order of the seasons on the screen. -/
def CalendarSeason.Before (a b : CalendarSeason) : Prop := a.toRateSeason.Before b.toRateSeason

instance : DecidableRel CalendarSeason.Before := fun a b =>
  inferInstanceAs (Decidable (a.toRateSeason.Before b.toRateSeason))

instance : Std.Total CalendarSeason.Before := ⟨fun a b => Std.Total.total a.toRateSeason b.toRateSeason⟩

instance : IsTrans CalendarSeason CalendarSeason.Before :=
  ⟨fun a b c => IsTrans.trans a.toRateSeason b.toRateSeason c.toRateSeason⟩

/-- The covering season, else the standard price. Of several standard prices of a type the last one
stands. -/
def buildResolver (standardRates : List StandardRate) (seasons : List CalendarSeason)
    (rtId : RoomTypeId) (day : Day) : Option Baseline :=
  let stdByRt := (standardRates.filter fun s => decide (s.roomTypeId = rtId)).getLast?
  let seasonsByRt := (seasons.filter fun s => decide (s.roomTypeId = rtId)).insertionSort
    CalendarSeason.Before
  match seasonsByRt.find? fun s => decide (s.Covers day) with
  | some s => some ⟨s.price, .season s⟩
  | none => stdByRt.map fun r => ⟨r.price, .standard⟩

namespace RateCalendar

/-- The group a season row belongs to. -/
def seasonGroup (s : CalendarSeason) : RoomTypeId × ℤ × String × Day × Day :=
  (s.roomTypeId, s.sortOrder, s.name, s.dateFrom, s.dateTo)

/-- The number of guests: the chosen one on a partner's plan, none on the hotel's own. -/
def occupancyOf (plan : RatePlan) (occ : ℕ) : Option ℕ :=
  if plan.partnerId.isSome then some occ else none

/-- The price without the daily ones. -/
def resolve (plan : RatePlan) (standardAll : List StandardRate) (seasonsAll : List CalendarSeason)
    (occ : ℕ) (rtId : RoomTypeId) (day : Day) : Option Baseline :=
  let occupancy := occupancyOf plan occ
  let standard := pickOccupancy standardAll occupancy (·.roomTypeId)
  let seasons := pickOccupancy seasonsAll occupancy seasonGroup
  buildResolver standard seasons rtId day

end RateCalendar

/-! ## The rows -/

/-- The price rows of a plan on the two sides: the same rows, in the orders of their queries. The
standard prices have their unique index. -/
structure TariffRows where
  plan : RatePlan
  resolver : BaselineResolver
  standardAll : List StandardRate
  seasonsAll : List CalendarSeason
  sameSeasons : (seasonsAll.map (·.toRateSeason)).Perm
    (resolver.seasons.filter fun s => decide (s.ratePlanId = plan.id))
  sameStandards : standardAll.Perm
    (resolver.standards.filter fun s => decide (s.ratePlanId = plan.id))
  oneStandard : (standardAll.map StandardRate.key).Nodup

/-- The price is for so many guests, exactly or as for any number. -/
def FitsGuests : Option ℕ → ℕ → Prop
  | some (n + 1), k => k = n + 1 ∨ k = 0
  | _, _ => True

namespace TariffRows

variable (t : TariffRows) (occupancy : Option ℕ) (rtId : RoomTypeId) (day : Day)

/-- The season rows of the day that the server reads. -/
def covering : List RateSeason :=
  t.resolver.seasons.filter fun s =>
    decide (s.Covers day) && decide (s.ratePlanId = t.plan.id ∧ s.roomTypeId = rtId)

/-- Of these the rows of one window and one sort order. -/
def window (top : RateSeason) : List RateSeason :=
  (t.covering rtId day).filter fun s => decide (s.SameWindow top)

/-- The season rows of the day that the screen chooses for the guests. -/
def chosen : List CalendarSeason :=
  (pickOccupancy t.seasonsAll occupancy RateCalendar.seasonGroup).filter fun s =>
    decide (s.Covers day) && decide (s.roomTypeId = rtId)

/-- The standard prices that the server reads. -/
def standards : List StandardRate := t.resolver.standardByKey t.plan.id rtId

/-- The standard prices that the screen chooses for the guests. -/
def chosenStandards : List StandardRate :=
  (pickOccupancy t.standardAll occupancy (·.roomTypeId)).filter fun s => decide (s.roomTypeId = rtId)

/-- No season row of the day is for the guests. Without a number of guests the last standard price
that the screen has loaded has then the price of the one for any number, else for the fewest. -/
def NoSeason : Prop :=
  (∀ s ∈ t.covering rtId day, ¬FitsGuests occupancy s.occupancy) ∧
    ((∀ n, occupancy ≠ some (n + 1)) →
      ∀ last sold, (t.chosenStandards occupancy rtId).getLast? = some last →
        pickByOccupancy (t.standards rtId) occupancy = some sold → sold.price = last.price)

/-- The first season row that the screen chooses has the price of the row for the guests in the
first window of the day. -/
def SameSeasonPrice : Prop :=
  ∃ top sold shown, Leads RateSeason.Before (t.covering rtId day) top ∧
    pickByOccupancy (t.window rtId day top) occupancy = some sold ∧
    Leads CalendarSeason.Before (t.chosen occupancy rtId day) shown ∧ sold.price = shown.price

/-- The first window of the day has no row for the guests, and the first season row that the screen
chooses, of another window, has the standard price. -/
def StandardByChance : Prop :=
  ∃ top sold shown, Leads RateSeason.Before (t.covering rtId day) top ∧
    (∀ s ∈ t.window rtId day top, ¬FitsGuests occupancy s.occupancy) ∧
    pickByOccupancy (t.standards rtId) occupancy = some sold ∧
    Leads CalendarSeason.Before (t.chosen occupancy rtId day) shown ∧ sold.price = shown.price

/-- The rows for which the two sides come to one price. -/
def ShowsSold : Prop :=
  t.NoSeason occupancy rtId day ∨ t.SameSeasonPrice occupancy rtId day ∨
    t.StandardByChance occupancy rtId day

end TariffRows

/-! ## The row for the guests -/

section Pick

variable {T : Type} [HasOccupancy T]

theorem pickByOccupancy_none_eq_none {rows : List T} :
    pickByOccupancy rows none = none ↔ rows = [] := by
  constructor
  · intro h
    have hsort := (Option.or_eq_none_iff.mp h).2
    rw [List.head?_eq_none_iff] at hsort
    exact List.eq_nil_iff_forall_not_mem.mpr fun r hr => by
      have := (List.mem_insertionSort fun a b => HasOccupancy.occupancy a ≤
        HasOccupancy.occupancy b).mpr hr
      simp [hsort] at this
  · intro h
    subst h
    rfl

theorem pickByOccupancy_eq_none {rows : List T} {occupancy : Option ℕ} :
    pickByOccupancy rows occupancy = none ↔
      ∀ r ∈ rows, ¬FitsGuests occupancy (HasOccupancy.occupancy r) := by
  rcases occupancy with _ | _ | n
  · simp [pickByOccupancy_none_eq_none, FitsGuests, List.eq_nil_iff_forall_not_mem]
  · show pickByOccupancy rows none = none ↔ _
    simp [pickByOccupancy_none_eq_none, FitsGuests, List.eq_nil_iff_forall_not_mem]
  · simp only [pickByOccupancy, Option.or_eq_none_iff, List.find?_eq_none, decide_eq_true_eq,
      FitsGuests, not_or]
    constructor
    · intro h r hr
      exact ⟨h.1 r hr, h.2 r hr⟩
    · intro h
      exact ⟨fun r hr => (h r hr).1, fun r hr => (h r hr).2⟩

theorem pickByOccupancy_eq_some {rows : List T} {n : ℕ} {r : T}
    (h : pickByOccupancy rows (some (n + 1)) = some r) :
    r ∈ rows ∧ (HasOccupancy.occupancy r = n + 1 ∨
      HasOccupancy.occupancy r = 0 ∧ ∀ x ∈ rows, HasOccupancy.occupancy x ≠ n + 1) := by
  rcases Option.or_eq_some_iff.mp h with hexact | ⟨hno, hany⟩
  · have := List.find?_some hexact
    exact ⟨List.mem_of_find?_eq_some hexact, .inl (of_decide_eq_true this)⟩
  · have := List.find?_some hany
    refine ⟨List.mem_of_find?_eq_some hany, .inr ⟨of_decide_eq_true this, fun x hx => ?_⟩⟩
    simpa using List.find?_eq_none.mp hno x hx

theorem mem_pickOccupancy {K : Type} [DecidableEq K] {rows : List T} {occupancy : Option ℕ}
    {groupKey : T → K} {r : T} :
    r ∈ pickOccupancy rows occupancy groupKey ↔ r ∈ rows ∧ ∀ n, occupancy = some (n + 1) →
      HasOccupancy.occupancy r = n + 1 ∨ HasOccupancy.occupancy r = 0 ∧
        ∀ x ∈ rows, HasOccupancy.occupancy x = n + 1 → groupKey x ≠ groupKey r := by
  rcases occupancy with _ | _ | n
  · simp [pickOccupancy]
  · simp [pickOccupancy]
  · simp only [pickOccupancy, List.mem_filter, Option.some.injEq, Nat.add_right_cancel_iff,
      forall_eq', Bool.or_eq_true, Bool.and_eq_true, decide_eq_true_eq, Bool.not_eq_true',
      List.contains_eq_mem, decide_eq_false_iff_not, List.mem_map, not_exists, and_imp, not_and]

end Pick

/-! ## Season rows -/

namespace TariffRows

variable {t : TariffRows} {occupancy : Option ℕ} {rtId : RoomTypeId} {day : Day}

/-- The screen's season row leads the chosen ones. -/
theorem shown_eq_some_iff {s : CalendarSeason} :
    (((pickOccupancy t.seasonsAll occupancy RateCalendar.seasonGroup).filter fun s =>
      decide (s.roomTypeId = rtId)).insertionSort CalendarSeason.Before).find?
        (fun s => decide (s.Covers day)) = some s ↔
      Leads CalendarSeason.Before (t.chosen occupancy rtId day) s := by
  rw [← List.head?_filter, filter_insertionSort, List.filter_filter, head?_insertionSort_iff, chosen]

/-- The rows that a window of the day has are those of that window. -/
theorem window_eq (top : RateSeason) :
    ((t.resolver.seasonsByKey t.plan.id rtId).filter fun s => decide (s.Covers day)).filter
      (fun s => decide (s.SameWindow top)) = t.window rtId day top := by
  rw [BaselineResolver.seasonsByKey_covering, filter_insertionSort]
  apply List.Pairwise.insertionSort_eq
  refine List.pairwise_of_forall_mem_list fun a ha b hb => ?_
  have ha' := of_decide_eq_true (List.mem_filter.mp ha).2
  have hb' := of_decide_eq_true (List.mem_filter.mp hb).2
  refine .inr ⟨ha'.1.trans hb'.1.symm, ?_⟩
  rw [ha'.2.2, hb'.2.2]

theorem seasonPrice_eq {top : RateSeason} (h : Leads RateSeason.Before (t.covering rtId day) top) :
    t.resolver.seasonPrice t.plan.id rtId day occupancy =
      (pickByOccupancy (t.window rtId day top) occupancy).map (·.price) := by
  have hhead := head?_insertionSort_iff.mpr h
  rw [covering, ← BaselineResolver.seasonsByKey_covering] at hhead
  rw [← window_eq, BaselineResolver.seasonPrice]
  cases hc : (t.resolver.seasonsByKey t.plan.id rtId).filter fun s => decide (s.Covers day) with
  | nil => simp [hc] at hhead
  | cons first rest =>
    have hfirst : first = top := by simpa [hc] using hhead
    subst hfirst
    rfl

theorem seasonPrice_eq_none (h : t.covering rtId day = []) :
    t.resolver.seasonPrice t.plan.id rtId day occupancy = none := by
  rw [BaselineResolver.seasonPrice, BaselineResolver.seasonsByKey_covering]
  rw [covering] at h
  rw [h]
  rfl

theorem mem_covering {s : RateSeason} : s ∈ t.covering rtId day ↔
    s ∈ t.resolver.seasons ∧ s.ratePlanId = t.plan.id ∧ s.roomTypeId = rtId ∧ s.Covers day := by
  simp only [covering, List.mem_filter, Bool.and_eq_true, decide_eq_true_eq]
  tauto

/-- The server's rows of the day are the ones that the screen has loaded. -/
theorem mem_covering_iff_loaded {s : RateSeason} : s ∈ t.covering rtId day ↔
    ∃ c ∈ t.seasonsAll, c.toRateSeason = s ∧ c.roomTypeId = rtId ∧ c.toRateSeason.Covers day := by
  have hperm : (∃ c ∈ t.seasonsAll, c.toRateSeason = s) ↔
      s ∈ t.resolver.seasons ∧ s.ratePlanId = t.plan.id := by
    simpa using t.sameSeasons.mem_iff (a := s)
  rw [mem_covering]
  constructor
  · intro h
    obtain ⟨c, hc, rfl⟩ := hperm.mpr ⟨h.1, h.2.1⟩
    exact ⟨c, hc, rfl, h.2.2⟩
  · rintro ⟨c, hc, rfl, h⟩
    have := hperm.mp ⟨c, hc, rfl⟩
    exact ⟨this.1, this.2, h⟩

theorem mem_chosen {c : CalendarSeason} : c ∈ t.chosen occupancy rtId day ↔
    c ∈ pickOccupancy t.seasonsAll occupancy RateCalendar.seasonGroup ∧
      c.toRateSeason.Covers day ∧ c.roomTypeId = rtId := by
  simp [chosen]

theorem fits_of_chosen {c : CalendarSeason} (h : c ∈ t.chosen occupancy rtId day) :
    FitsGuests occupancy c.occupancy := by
  have hpick := (mem_pickOccupancy.mp (mem_chosen.mp h).1).2
  rcases occupancy with _ | _ | n
  · trivial
  · trivial
  · rcases hpick n rfl with hn | ⟨h0, -⟩
    · exact .inl hn
    · exact .inr h0

/-- Where a loaded row of the day is for the guests, the screen chooses one. -/
theorem exists_chosen {c : CalendarSeason} (hc : c ∈ t.seasonsAll) (hrt : c.roomTypeId = rtId)
    (hday : c.toRateSeason.Covers day) (hfits : FitsGuests occupancy c.occupancy) :
    ∃ x, x ∈ t.chosen occupancy rtId day := by
  by_cases hpick : c ∈ pickOccupancy t.seasonsAll occupancy RateCalendar.seasonGroup
  · exact ⟨c, mem_chosen.mpr ⟨hpick, hday, hrt⟩⟩
  · -- a row of the same group for exactly so many guests is chosen instead
    rw [mem_pickOccupancy] at hpick
    have hgroup : ∃ n, occupancy = some (n + 1) ∧ ∃ x ∈ t.seasonsAll, x.occupancy = n + 1 ∧
        RateCalendar.seasonGroup x = RateCalendar.seasonGroup c := by
      by_contra hno
      refine hpick ⟨hc, fun n hn => ?_⟩
      subst hn
      rcases hfits with hfits | hfits
      · exact .inl hfits
      · exact .inr ⟨hfits, fun x hx hxn hxg => hno ⟨n, rfl, x, hx, hxn, hxg⟩⟩
    obtain ⟨n, rfl, x, hx, hxn, hxg⟩ := hgroup
    simp only [RateCalendar.seasonGroup, Prod.mk.injEq] at hxg
    refine ⟨x, mem_chosen.mpr ⟨mem_pickOccupancy.mpr ⟨hx, fun m hm => .inl ?_⟩, ?_, ?_⟩⟩
    · rw [show m = n by simpa using hm.symm]
      exact hxn
    · rw [RateSeason.Covers, hxg.2.2.2.1, hxg.2.2.2.2]
      exact hday
    · rw [hxg.1, hrt]

/-- The screen chooses no row exactly if no row of the day is for the guests. -/
theorem chosen_eq_nil_iff : t.chosen occupancy rtId day = [] ↔
    ∀ s ∈ t.covering rtId day, ¬FitsGuests occupancy s.occupancy := by
  rw [List.eq_nil_iff_forall_not_mem]
  constructor
  · intro h s hs hfits
    obtain ⟨c, hc, rfl, hrt, hday⟩ := mem_covering_iff_loaded.mp hs
    obtain ⟨x, hx⟩ := exists_chosen hc hrt hday hfits
    exact h x hx
  · intro h c hc
    have hpick := mem_chosen.mp hc
    have hloaded := (mem_pickOccupancy.mp hpick.1).1
    exact h c.toRateSeason (mem_covering_iff_loaded.mpr ⟨c, hloaded, rfl, hpick.2.2, hpick.2.1⟩)
      (fits_of_chosen hc)

/-! ## Standard prices -/

/-- The loaded standard prices of a room type are the ones that the server reads. -/
theorem standards_perm :
    (t.standardAll.filter fun s => decide (s.roomTypeId = rtId)).Perm (t.standards rtId) := by
  have h := t.sameStandards.filter fun s => decide (s.roomTypeId = rtId)
  rw [List.filter_filter] at h
  rw [standards, BaselineResolver.standardByKey]
  refine h.trans (List.Perm.of_eq (List.filter_congr fun s _ => ?_))
  by_cases h₁ : s.ratePlanId = t.plan.id <;> by_cases h₂ : s.roomTypeId = rtId <;> simp [h₁, h₂]

theorem mem_standards {s : StandardRate} :
    s ∈ t.standards rtId ↔ s ∈ t.standardAll ∧ s.roomTypeId = rtId := by
  rw [← standards_perm.mem_iff]
  simp

/-- Of a room type one standard price is for each number of guests. -/
theorem standards_unique {a b : StandardRate} (ha : a ∈ t.standards rtId)
    (hb : b ∈ t.standards rtId) (hab : a.occupancy = b.occupancy) : a = b := by
  have hplan : ∀ s ∈ t.standards rtId, s.ratePlanId = t.plan.id := by
    intro s hs
    have := t.sameStandards.mem_iff.mp (mem_standards.mp hs).1
    simpa using (List.mem_filter.mp this).2
  have hkey : a.key = b.key := by
    simp only [StandardRate.key, Prod.mk.injEq]
    refine ⟨(hplan a ha).trans (hplan b hb).symm, ?_, hab⟩
    exact (mem_standards.mp ha).2.trans (mem_standards.mp hb).2.symm
  exact List.inj_on_of_nodup_map t.oneStandard (mem_standards.mp ha).1 (mem_standards.mp hb).1 hkey

theorem mem_chosenStandards {s : StandardRate} : s ∈ t.chosenStandards occupancy rtId ↔
    s ∈ pickOccupancy t.standardAll occupancy (·.roomTypeId) ∧ s.roomTypeId = rtId := by
  simp [chosenStandards]

/-- For a number of guests the two sides take one standard price. -/
theorem chosenStandards_getLast? (n : ℕ) :
    (t.chosenStandards (some (n + 1)) rtId).getLast? =
      pickByOccupancy (t.standards rtId) (some (n + 1)) := by
  have hmem : ∀ s, s ∈ t.chosenStandards (some (n + 1)) rtId ↔ s ∈ t.standards rtId ∧
      (s.occupancy = n + 1 ∨
        s.occupancy = 0 ∧ ∀ x ∈ t.standards rtId, x.occupancy ≠ n + 1) := by
    intro s
    rw [mem_chosenStandards, mem_pickOccupancy, mem_standards]
    constructor
    · rintro ⟨⟨hs, hpick⟩, hrt⟩
      refine ⟨⟨hs, hrt⟩, (hpick n rfl).imp_right fun h => ⟨h.1, fun x hx hxn => ?_⟩⟩
      exact h.2 x (mem_standards.mp hx).1 hxn ((mem_standards.mp hx).2.trans hrt.symm)
    · rintro ⟨⟨hs, hrt⟩, hpick⟩
      refine ⟨⟨hs, fun m hm => ?_⟩, hrt⟩
      rw [show m = n by simpa using hm.symm]
      refine hpick.imp_right fun h => ⟨h.1, fun x hx hxn hxrt => ?_⟩
      exact h.2 x (mem_standards.mpr ⟨hx, hxrt.trans hrt⟩) hxn
  cases hpick : pickByOccupancy (t.standards rtId) (some (n + 1)) with
  | none =>
    rw [List.getLast?_eq_none_iff, List.eq_nil_iff_forall_not_mem]
    intro s hs
    have hfits := pickByOccupancy_eq_none.mp hpick s ((hmem s).mp hs).1
    rcases ((hmem s).mp hs).2 with h | h
    · exact hfits (.inl h)
    · exact hfits (.inr h.1)
  | some sold =>
    have hsold := pickByOccupancy_eq_some hpick
    cases hlast : (t.chosenStandards (some (n + 1)) rtId).getLast? with
    | none =>
      rw [List.getLast?_eq_none_iff] at hlast
      have := (hmem sold).mpr hsold
      simp [hlast] at this
    | some last =>
      have hl := (hmem last).mp (List.mem_of_getLast? hlast)
      rw [standards_unique hl.1 hsold.1]
      rcases hl.2 with hn | ⟨h0, hno⟩
      · rcases hsold.2 with hn' | ⟨-, hno⟩
        · exact hn.trans hn'.symm
        · exact absurd hn (hno last hl.1)
      · rcases hsold.2 with hn' | ⟨h0', -⟩
        · exact absurd hn' (hno sold hsold.1)
        · exact h0.trans h0'.symm

/-! ## The two prices -/

theorem calendar_standard {occ : ℕ}
    (h : t.chosen (RateCalendar.occupancyOf t.plan occ) rtId day = []) :
    (RateCalendar.resolve t.plan t.standardAll t.seasonsAll occ rtId day).map (·.price) =
      (t.chosenStandards (RateCalendar.occupancyOf t.plan occ) rtId).getLast?.map (·.price) := by
  have hno : ∀ s, ¬Leads CalendarSeason.Before
      (t.chosen (RateCalendar.occupancyOf t.plan occ) rtId day) s := by
    intro s hs
    have := hs.mem
    simp [h] at this
  simp only [RateCalendar.resolve, buildResolver]
  cases hfind : List.find? _ _ with
  | some s => exact absurd (shown_eq_some_iff.mp hfind) (hno s)
  | none => rw [Option.map_map]; rfl

theorem calendar_season {occ : ℕ} {shown : CalendarSeason} (h : Leads CalendarSeason.Before
    (t.chosen (RateCalendar.occupancyOf t.plan occ) rtId day) shown) :
    (RateCalendar.resolve t.plan t.standardAll t.seasonsAll occ rtId day).map (·.price) =
      some shown.price := by
  simp only [RateCalendar.resolve, buildResolver, shown_eq_some_iff.mpr h, Option.map_some]

theorem resolve_standard (h : ∀ s ∈ t.covering rtId day, ¬FitsGuests occupancy s.occupancy) :
    t.resolver.resolve t.plan.id rtId day occupancy =
      (pickByOccupancy (t.standards rtId) occupancy).map (·.price) := by
  have hseason : t.resolver.seasonPrice t.plan.id rtId day occupancy = none := by
    by_cases hc : t.covering rtId day = []
    · exact seasonPrice_eq_none hc
    · obtain ⟨top, htop⟩ := exists_leads (r := RateSeason.Before) hc
      rw [seasonPrice_eq htop, Option.map_eq_none_iff, pickByOccupancy_eq_none]
      exact fun s hs => h s (List.mem_filter.mp hs).1
  rw [BaselineResolver.resolve, hseason]
  rfl

theorem resolve_season {top : RateSeason} (h : Leads RateSeason.Before (t.covering rtId day) top) :
    t.resolver.resolve t.plan.id rtId day occupancy =
      ((pickByOccupancy (t.window rtId day top) occupancy).map (·.price)).or
        ((pickByOccupancy (t.standards rtId) occupancy).map (·.price)) := by
  rw [BaselineResolver.resolve, seasonPrice_eq h]
  rfl

/-- Without a number of guests the two sides have a standard price at once. -/
theorem getLast?_eq_none_iff_pick (hno : ∀ n, occupancy ≠ some (n + 1)) :
    (t.chosenStandards occupancy rtId).getLast? = none ↔
      pickByOccupancy (t.standards rtId) occupancy = none := by
  have hmem : ∀ s, s ∈ t.chosenStandards occupancy rtId ↔ s ∈ t.standards rtId := by
    intro s
    rw [mem_chosenStandards, mem_pickOccupancy, mem_standards]
    constructor
    · exact fun h => ⟨h.1.1, h.2⟩
    · exact fun h => ⟨⟨h.1, fun n hn => absurd hn (hno n)⟩, h.2⟩
  have hfits : ∀ k, FitsGuests occupancy k := by
    intro k
    rcases occupancy with _ | _ | n
    · trivial
    · trivial
    · exact absurd rfl (hno n)
  rw [List.getLast?_eq_none_iff, pickByOccupancy_eq_none, List.eq_nil_iff_forall_not_mem]
  constructor
  · exact fun h s hs => absurd ((hmem s).mpr hs) (h s)
  · exact fun h s hs => h s ((hmem s).mp hs) (hfits _)

theorem noSeason_iff (h : ∀ s ∈ t.covering rtId day, ¬FitsGuests occupancy s.occupancy) :
    (t.chosenStandards occupancy rtId).getLast?.map (·.price) =
        (pickByOccupancy (t.standards rtId) occupancy).map (·.price) ↔
      t.NoSeason occupancy rtId day := by
  by_cases hn : ∃ n, occupancy = some (n + 1)
  · obtain ⟨n, rfl⟩ := hn
    rw [chosenStandards_getLast?]
    exact iff_of_true rfl ⟨h, fun hno => absurd rfl (hno n)⟩
  · have hno : ∀ n, occupancy ≠ some (n + 1) := fun n hn' => hn ⟨n, hn'⟩
    have hempty : (t.chosenStandards occupancy rtId).getLast? = none ↔
        pickByOccupancy (t.standards rtId) occupancy = none := getLast?_eq_none_iff_pick hno
    cases hlast : (t.chosenStandards occupancy rtId).getLast? with
    | none =>
      have hpick := hempty.mp hlast
      rw [hpick]
      exact iff_of_true rfl ⟨h, fun _ last sold hl => by simp [hlast] at hl⟩
    | some last =>
      cases hpick : pickByOccupancy (t.standards rtId) occupancy with
      | none => simp [hempty.mpr hpick] at hlast
      | some sold =>
        constructor
        · intro heq
          refine ⟨h, fun _ last' sold' hl hs => ?_⟩
          rw [hlast] at hl
          rw [hpick] at hs
          cases hl
          cases hs
          simpa using heq.symm
        · intro heq
          simp [heq.2 hno last sold hlast hpick]

/-- **The calendar shows the price that is sold** exactly for these rows. -/
theorem calendar_shows_sold_iff (t : TariffRows) (occ : ℕ) (rtId : RoomTypeId) (day : Day) :
    (RateCalendar.resolve t.plan t.standardAll t.seasonsAll occ rtId day).map (·.price) =
        t.resolver.resolve t.plan.id rtId day (RateCalendar.occupancyOf t.plan occ) ↔
      t.ShowsSold (RateCalendar.occupancyOf t.plan occ) rtId day := by
  by_cases hc : t.chosen (RateCalendar.occupancyOf t.plan occ) rtId day = []
  · have hfits := chosen_eq_nil_iff.mp hc
    rw [calendar_standard hc, resolve_standard hfits, noSeason_iff hfits]
    constructor
    · exact .inl
    · rintro (h | ⟨top, sold, shown, -, -, h, -⟩ | ⟨top, sold, shown, -, -, -, h, -⟩)
      · exact h
      · have := h.mem
        simp [hc] at this
      · have := h.mem
        simp [hc] at this
  · obtain ⟨shown, hshown⟩ := exists_leads (r := CalendarSeason.Before) hc
    have hfits : ¬∀ s ∈ t.covering rtId day,
        ¬FitsGuests (RateCalendar.occupancyOf t.plan occ) s.occupancy :=
      fun h => hc (chosen_eq_nil_iff.mpr h)
    have hcover : t.covering rtId day ≠ [] := by
      intro h
      exact hfits (by simp [h])
    obtain ⟨top, htop⟩ := exists_leads (r := RateSeason.Before) hcover
    rw [calendar_season hshown, resolve_season htop]
    cases hpick : pickByOccupancy (t.window rtId day top)
        (RateCalendar.occupancyOf t.plan occ) with
    | some sold =>
      constructor
      · intro h
        exact .inr (.inl ⟨top, sold, shown, htop, hpick, hshown, by simpa using h.symm⟩)
      · rintro (h | ⟨top', sold', shown', ht, hp, hs, heq⟩ | ⟨top', sold', shown', ht, hno, -⟩)
        · exact absurd h.1 hfits
        · have h₁ := ht.unique htop
          have h₂ := hs.unique hshown
          subst h₁ h₂
          have h₃ : sold = sold' := by simpa [hpick] using hp
          simp [h₃, heq]
        · have h₁ := ht.unique htop
          subst h₁
          simp [pickByOccupancy_eq_none.mpr hno] at hpick
    | none =>
      have hno := pickByOccupancy_eq_none.mp hpick
      rw [Option.map_none, Option.none_or]
      constructor
      · intro h
        obtain ⟨sold, hsold, heq⟩ := Option.map_eq_some_iff.mp h.symm
        exact .inr (.inr ⟨top, sold, shown, htop, hno, hsold, hshown, heq⟩)
      · rintro (h | ⟨top', sold', shown', ht, hp, -⟩ | ⟨top', sold', shown', ht, -, hp, hs, heq⟩)
        · exact absurd h.1 hfits
        · have h₁ := ht.unique htop
          subst h₁
          simp [hpick] at hp
        · have h₂ := hs.unique hshown
          subst h₂
          simp [hp, heq]

/-- A plan of a partner with a summer price, a festival within the summer that is priced for two
only, and a standard price. -/
def festivalRows : TariffRows :=
  let plan : RatePlan :=
    { id := 1, code := "SU", name := "Crew", mealPlan := .none, occupancyPricing := true,
      parentRatePlanId := none, priceModifierType := .absolute, priceModifierValue := 0,
      sortOrder := 0, isActive := true, partnerId := some 1, partnerAccountId := none,
      partnerCustomerId := none, guestKind := none, vatRate := none, forOperator := true,
      operatorContract := none, reviewVerdict := none, reviewedBy := none,
      reviewFingerprint := none }
  let summer : RateSeason := ⟨1, 1, 0, 30, 0, 500000, "RUB", 0⟩
  let festival : RateSeason := ⟨1, 1, 10, 20, 2, 600000, "RUB", 1⟩
  let standard : StandardRate := ⟨1, 1, 0, 440000, "RUB"⟩
  { plan := plan
    resolver := ⟨[summer, festival], [standard]⟩
    standardAll := [standard]
    seasonsAll := [⟨summer, "Summer"⟩, ⟨festival, "Festival"⟩]
    sameSeasons := .refl _
    sameStandards := .refl _
    oneStandard := List.nodup_singleton _ }

/-- On a day of the festival one guest is shown the summer price and charged the standard one. -/
theorem festival_shown :
    (RateCalendar.resolve festivalRows.plan festivalRows.standardAll festivalRows.seasonsAll 1 1
      15).map (·.price) = some 500000 ∧
    festivalRows.resolver.resolve festivalRows.plan.id 1 15
      (RateCalendar.occupancyOf festivalRows.plan 1) = some 440000 := by
  decide +kernel

end TariffRows

end KarsHotel
