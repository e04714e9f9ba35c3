import KarsHotel.Frontend.ContractSlice
import KarsHotel.Lib.Calendar
import Mathlib.Order.Bounds.Defs

/-!
# Filling a tariff by its contract

The base prices of a tariff are filled with the contract's prices of one day, and each later start
of a document becomes a season with the prices of that day.

* `contractPeriods`: the day of the base prices and the seasons; `filledPrice`: the price that the
  filled tariff has for a day;
* `IsBase`, `InPeriod`: the two by what the documents say; `contractPeriods_isBase`,
  `contains_iff_inPeriod`;
* `docsAt_of_inPeriod`: within a season the same documents are in force as at its start;
* **`filled_iff`**: when the filled tariff has the contract's prices.
-/

namespace KarsHotel

/-! ## Periods -/

/-- A season to be filled: its first and its last day. -/
structure Period where
  dateFrom : Day
  dateTo : Day
  deriving DecidableEq, Repr

/-- `2099-12-31`, for a contract without an end. -/
def LAST_DAY : Day := CivilDate.toDay ⟨2099, 12, 31⟩

/-- The season of a start: until the day before the next one, or until a document in force ends. -/
def periodOf (docs : List ContractDoc) (start : Day) (next : Option Day) : Period :=
  let ends := ((docsAt docs start).filterMap (·.validTo)).insertionSort (· ≤ ·)
  let stop := match next with
    | some n => n - 1
    | none => ends.head?.getD LAST_DAY
  match ends.head? with
  | some e => ⟨start, if e < stop then e else stop⟩
  | none => ⟨start, stop⟩

def periodsOf (docs : List ContractDoc) : List Day → List Period
  | [] => []
  | start :: future => periodOf docs start future.head? :: periodsOf docs future

structure ContractPeriods where
  base : Day
  expired : Bool
  seasons : List Period
  deriving DecidableEq, Repr

/-- The starts of the documents in order. -/
def startsOf (docs : List ContractDoc) : List Day :=
  (docs.map (·.validFrom)).dedup.insertionSort (· ≤ ·)

def contractPeriods (docs : List ContractDoc) (today : Day) : ContractPeriods :=
  match startsOf docs with
  | [] => ⟨today, false, []⟩
  | first :: rest =>
    let live := !(docsAt docs today).isEmpty
    let base := if live then today
      else (((first :: rest).filter fun s => decide (s ≤ today)).getLast?).getD first
    let future := (first :: rest).filter fun s => decide (base < s)
    ⟨base, !live && decide (base < today) && future.isEmpty, periodsOf docs future⟩

def Period.Contains (s : Period) (d : Day) : Prop := s.dateFrom ≤ d ∧ d ≤ s.dateTo

instance (s : Period) (d : Day) : Decidable (s.Contains d) := by
  unfold Period.Contains
  infer_instance

section Fill

variable (toLowerCase : List Char → List Char) (docs : List ContractDoc) (slice : Slice)
  (roomTypes : List ContractRoomType) (today : Day)

/-- The price of a day after the filling: of the season that contains it, else the base price. -/
def filledPrice (d : Day) (k : PriceKey) : Option ℤ :=
  let periods := contractPeriods docs today
  let date := ((periods.seasons.find? fun s => decide (s.Contains d)).map (·.dateFrom)).getD
    periods.base
  EntryMap.get (sliceCells toLowerCase docs slice roomTypes date).prices k

/-- The filled tariff reproduces the contract: its prices on the days from today on which the
contract is in force, with seasons that are apart and do not end before they start. -/
structure Reproduces : Prop where
  prices : ∀ d, today ≤ d → (∃ s ∈ docs, s.ValidOn d) → ∀ k,
    filledPrice toLowerCase docs slice roomTypes today d k =
      EntryMap.get (sliceCells toLowerCase docs slice roomTypes d).prices k
  apart : (contractPeriods docs today).seasons.Pairwise fun a b =>
    ∀ d, ¬(a.Contains d ∧ b.Contains d)
  ordered : ∀ s ∈ (contractPeriods docs today).seasons, s.dateFrom ≤ s.dateTo

end Fill

/-! ## What the documents say of the periods -/

section Documents

variable (docs : List ContractDoc)

/-- Days on which a document starts. -/
def Starts : Set Day := {f | ∃ s ∈ docs, s.validFrom = f}

/-- The day of the base prices: today, if a document is in force, else the latest start that has
been, else the first one. -/
def IsBase (today base : Day) : Prop :=
  ((∃ s ∈ docs, s.ValidOn today) ∧ base = today) ∨
  (∀ s ∈ docs, ¬s.ValidOn today) ∧
    (IsGreatest {f ∈ Starts docs | f ≤ today} base ∨
      (∀ f ∈ Starts docs, today < f) ∧ IsLeast (Starts docs) base)

/-- The start `s` is the last one and what is in force then has no end. -/
def WithoutEnd (s : Day) : Prop :=
  (∀ f ∈ Starts docs, f ≤ s) ∧ ∀ x ∈ docs, x.ValidOn s → x.validTo = none

/-- On day `d` nothing has started since `s`, which is after the day of the base prices, and nothing
in force on `s` has ended. -/
structure InPeriod (base d s : Day) : Prop where
  start : s ∈ Starts docs
  after : base < s
  le : s ≤ d
  latest : ∀ f ∈ Starts docs, f ≤ s ∨ d < f
  lasts : ∀ x ∈ docs, x.ValidOn s → ∀ t ∈ x.validTo, d ≤ t
  century : WithoutEnd docs s → d ≤ LAST_DAY

end Documents

/-- The filled tariff is right: no season starts after 2099 without an end, and on each day of the
contract from today that is in no season, the rows that decide are as dear as on the base day. -/
def FilledRight (toLowerCase : List Char → List Char) (docs : List ContractDoc) (slice : Slice)
    (roomTypes : List ContractRoomType) (today : Day) : Prop :=
  ∀ base, IsBase docs today base →
    (∀ s ∈ Starts docs, base < s → WithoutEnd docs s → s ≤ LAST_DAY) ∧
    ∀ d, today ≤ d → (∃ s ∈ docs, s.ValidOn d) → (∃ s, InPeriod docs base d s) ∨
      ∀ k p, (∃ c, DecidesCell toLowerCase slice roomTypes (docsAt docs base) k c ∧ c.kopecks = p) ↔
        ∃ c, DecidesCell toLowerCase slice roomTypes (docsAt docs d) k c ∧ c.kopecks = p

/-! ## Starts -/

section Starts

variable {docs : List ContractDoc} {today : Day}

theorem mem_startsOf {f : Day} : f ∈ startsOf docs ↔ f ∈ Starts docs := by
  rw [startsOf, List.mem_insertionSort, List.mem_dedup, List.mem_map]
  rfl

theorem startsOf_pairwise : (startsOf docs).Pairwise (· < ·) := by
  have hle : (startsOf docs).Pairwise (· ≤ ·) := List.pairwise_insertionSort _ _
  have hne : (startsOf docs).Nodup :=
    (List.perm_insertionSort _ _).nodup_iff.mpr (List.nodup_dedup _)
  exact (hle.and hne).imp fun h => lt_of_le_of_ne h.1 h.2

theorem docsAt_isEmpty {d : Day} : (docsAt docs d).isEmpty = true ↔ ∀ s ∈ docs, ¬s.ValidOn d := by
  rw [List.isEmpty_iff, List.eq_nil_iff_forall_not_mem]
  simp only [mem_docsAt, not_and]

theorem isGreatest_of_getLast? {l : List Day} (hl : l.Pairwise (· < ·)) {b : Day}
    (h : l.getLast? = some b) : b ∈ l ∧ ∀ f ∈ l, f ≤ b := by
  obtain ⟨m, rfl⟩ := List.getLast?_eq_some_iff.mp h
  refine ⟨by simp, fun f hf => ?_⟩
  rcases List.mem_append.mp hf with hf | hf
  · exact le_of_lt ((List.pairwise_append.mp hl).2.2 f hf b (by simp))
  · exact le_of_eq (List.mem_singleton.mp hf)

theorem contractPeriods_isBase (hdocs : docs ≠ []) :
    IsBase docs today (contractPeriods docs today).base := by
  cases hs : startsOf docs with
  | nil =>
    obtain ⟨s, hmem⟩ := List.exists_mem_of_ne_nil docs hdocs
    have hstart : s.validFrom ∈ startsOf docs := mem_startsOf.mpr ⟨s, hmem, rfl⟩
    simp [hs] at hstart
  | cons first rest =>
    have hmem : ∀ f, f ∈ first :: rest ↔ f ∈ Starts docs := fun f => by rw [← hs, mem_startsOf]
    have hsort : (first :: rest).Pairwise (· < ·) := hs ▸ startsOf_pairwise
    simp only [contractPeriods, hs]
    by_cases hlive : (docsAt docs today).isEmpty
    · refine .inr ⟨docsAt_isEmpty.mp hlive, ?_⟩
      simp only [hlive, Bool.not_true, Bool.false_eq_true, if_false]
      cases hlast : ((first :: rest).filter fun s => decide (s ≤ today)).getLast? with
      | some b =>
        obtain ⟨hb, hmax⟩ := isGreatest_of_getLast? (hsort.filter _) hlast
        obtain ⟨hb, hle⟩ := List.mem_filter.mp hb
        refine .inl ⟨⟨(hmem b).mp hb, of_decide_eq_true hle⟩, fun f hf => hmax f ?_⟩
        exact List.mem_filter.mpr ⟨(hmem f).mpr hf.1, decide_eq_true hf.2⟩
      | none =>
        rw [List.getLast?_eq_none_iff, List.filter_eq_nil_iff] at hlast
        refine .inr ⟨fun f hf => ?_, (hmem first).mp List.mem_cons_self, fun f hf => ?_⟩
        · simpa using hlast f ((hmem f).mpr hf)
        · rcases List.mem_cons.mp ((hmem f).mpr hf) with rfl | hf
          · exact le_refl f
          · exact le_of_lt ((List.pairwise_cons.mp hsort).1 f hf)
    · have hlive' : ∃ s ∈ docs, s.ValidOn today := by
        rw [docsAt_isEmpty] at hlive
        simpa using hlive
      exact .inl ⟨hlive', by simp [hlive]⟩

theorem IsBase.unique {a b : Day} (ha : IsBase docs today a) (hb : IsBase docs today b) : a = b := by
  rcases ha with ⟨⟨s, hs, hv⟩, rfl⟩ | ⟨hno, ha⟩
  · rcases hb with ⟨-, rfl⟩ | ⟨hno, -⟩
    · rfl
    · exact absurd hv (hno s hs)
  · rcases hb with ⟨⟨s, hs, hv⟩, -⟩ | ⟨-, hb⟩
    · exact absurd hv (hno s hs)
    · rcases ha with ha | ⟨hlt, ha⟩ <;> rcases hb with hb | ⟨hlt', hb⟩
      · exact ha.unique hb
      · exact absurd ha.1.2 (not_le.mpr (hlt' a ha.1.1))
      · exact absurd hb.1.2 (not_le.mpr (hlt b hb.1.1))
      · exact ha.unique hb

theorem contractPeriods_seasons : (contractPeriods docs today).seasons =
    periodsOf docs ((startsOf docs).filter fun s =>
      decide ((contractPeriods docs today).base < s)) := by
  unfold contractPeriods
  cases startsOf docs with
  | nil => rfl
  | cons first rest => rfl

end Starts

/-! ## Seasons -/

section Seasons

variable {docs : List ContractDoc}

theorem periodOf_dateFrom (start : Day) (next : Option Day) :
    (periodOf docs start next).dateFrom = start := by
  unfold periodOf
  dsimp only
  split <;> rfl

/-- A day is not after the end of a season exactly if it is before the next start, nothing in force
at the start has ended, and without either it is not after the last day. -/
theorem le_dateTo_iff {start : Day} {next : Option Day} {d : Day} :
    d ≤ (periodOf docs start next).dateTo ↔ (∀ n ∈ next, d < n) ∧
      (∀ x ∈ docs, x.ValidOn start → ∀ t ∈ x.validTo, d ≤ t) ∧
      (next = none → (∀ x ∈ docs, x.ValidOn start → x.validTo = none) → d ≤ LAST_DAY) := by
  have hmem : ∀ t, t ∈ ((docsAt docs start).filterMap (·.validTo)).insertionSort (· ≤ ·) ↔
      ∃ x ∈ docs, x.ValidOn start ∧ x.validTo = some t := by
    intro t
    simp only [List.mem_insertionSort, List.mem_filterMap, mem_docsAt, and_assoc]
  unfold periodOf
  dsimp only
  cases hends : ((docsAt docs start).filterMap (·.validTo)).insertionSort (· ≤ ·) with
  | nil =>
    have hno : ∀ x ∈ docs, x.ValidOn start → x.validTo = none := by
      intro x hx hv
      cases ht : x.validTo with
      | none => rfl
      | some t =>
        have := (hmem t).mpr ⟨x, hx, hv, ht⟩
        simp [hends] at this
    have hlasts : ∀ x ∈ docs, x.ValidOn start → ∀ t ∈ x.validTo, d ≤ t := by
      intro x hx hv t ht
      simp [hno x hx hv] at ht
    rw [iff_true_intro hlasts, iff_true_intro hno, true_and, true_imp_iff]
    cases next with
    | none => simp
    | some n => simp
  | cons e rest =>
    have hle := List.pairwise_insertionSort (· ≤ ·) ((docsAt docs start).filterMap (·.validTo))
    rw [hends] at hle hmem
    obtain ⟨x, hx, hv, ht⟩ := (hmem e).mp List.mem_cons_self
    have hlasts : (∀ x ∈ docs, x.ValidOn start → ∀ t ∈ x.validTo, d ≤ t) ↔ d ≤ e := by
      constructor
      · exact fun h => h x hx hv e ht
      · intro h y hy hyv t hyt
        rcases List.mem_cons.mp ((hmem t).mpr ⟨y, hy, hyv, hyt⟩) with rfl | hrest
        · exact h
        · exact le_trans h ((List.pairwise_cons.mp hle).1 t hrest)
    have hend : ¬∀ x ∈ docs, x.ValidOn start → x.validTo = none := by
      intro h
      simp [h x hx hv] at ht
    rw [hlasts]
    cases next with
    | none =>
      simp only [List.head?_cons, Option.getD_some, lt_irrefl, if_false, Option.mem_def,
        reduceCtorEq, false_imp_iff, implies_true, true_and, hend, and_true]
    | some n =>
      simp only [List.head?_cons, Option.mem_def, Option.some.injEq, forall_eq', reduceCtorEq,
        false_imp_iff, and_true]
      by_cases he : e < n - 1
      · rw [if_pos he]
        constructor
        · exact fun h => ⟨lt_of_le_of_lt h (lt_trans he (Int.sub_one_lt_of_le le_rfl)), h⟩
        · exact fun h => h.2
      · rw [if_neg he]
        have hn : n - 1 ≤ e := not_lt.mp he
        constructor
        · exact fun h => ⟨Int.lt_of_le_sub_one h, le_trans h hn⟩
        · exact fun h => Int.le_sub_one_of_lt h.1

theorem mem_periodsOf {l : List Day} {s : Period} : s ∈ periodsOf docs l ↔
    ∃ l₁ f l₂, l = l₁ ++ f :: l₂ ∧ s = periodOf docs f l₂.head? := by
  induction l with
  | nil => simp [periodsOf]
  | cons start future ih =>
    rw [periodsOf, List.mem_cons, ih]
    constructor
    · rintro (rfl | ⟨l₁, f, l₂, rfl, rfl⟩)
      · exact ⟨[], start, future, rfl, rfl⟩
      · exact ⟨start :: l₁, f, l₂, rfl, rfl⟩
    · rintro ⟨l₁, f, l₂, hl, rfl⟩
      rcases List.append_eq_cons_iff.mp hl.symm with ⟨rfl, h⟩ | ⟨l', rfl, h⟩
      · cases h
        exact .inl rfl
      · exact .inr ⟨l', f, l₂, h, rfl⟩

theorem forall_head?_iff {l₁ l₂ : List Day} {f d : Day}
    (hl : (l₁ ++ f :: l₂).Pairwise (· < ·)) :
    (∀ n ∈ l₂.head?, d < n) ↔ ∀ g ∈ l₁ ++ f :: l₂, g ≤ f ∨ d < g := by
  obtain ⟨-, hfl, hlt⟩ := List.pairwise_append.mp hl
  obtain ⟨hf, hl₂⟩ := List.pairwise_cons.mp hfl
  constructor
  · intro h g hg
    rcases List.mem_append.mp hg with hg | hg
    · exact .inl (le_of_lt (hlt g hg f List.mem_cons_self))
    · rcases List.mem_cons.mp hg with rfl | hg
      · exact .inl (le_refl g)
      · cases l₂ with
        | nil => simp at hg
        | cons n rest =>
          have hn : d < n := h n rfl
          rcases List.mem_cons.mp hg with rfl | hg
          · exact .inr hn
          · exact .inr (lt_trans hn ((List.pairwise_cons.mp hl₂).1 g hg))
  · intro h n hn
    have hmem : n ∈ l₂ := List.mem_of_mem_head? hn
    have hg : n ∈ l₁ ++ f :: l₂ := by simp [hmem]
    exact (h n hg).resolve_left (not_le.mpr (hf n hmem))

theorem head?_eq_none_iff_le {l₁ l₂ : List Day} {f : Day}
    (hl : (l₁ ++ f :: l₂).Pairwise (· < ·)) :
    l₂.head? = none ↔ ∀ g ∈ l₁ ++ f :: l₂, g ≤ f := by
  obtain ⟨-, hfl, hlt⟩ := List.pairwise_append.mp hl
  have hf := (List.pairwise_cons.mp hfl).1
  rw [List.head?_eq_none_iff]
  constructor
  · rintro rfl g hg
    rcases List.mem_append.mp hg with hg | hg
    · exact le_of_lt (hlt g hg f List.mem_cons_self)
    · exact le_of_eq (List.mem_singleton.mp hg)
  · intro h
    refine List.eq_nil_iff_forall_not_mem.mpr fun n hn => ?_
    have hg : n ∈ l₁ ++ f :: l₂ := by simp [hn]
    exact absurd (h n hg) (not_le.mpr (hf n hn))

variable {base : Day} {l : List Day}

/-- **A season contains a day** exactly if its start has the day in its period. -/
theorem contains_iff_inPeriod (hl : l.Pairwise (· < ·))
    (hmem : ∀ f, f ∈ l ↔ f ∈ Starts docs ∧ base < f) {s : Period} (hs : s ∈ periodsOf docs l)
    (d : Day) : s.Contains d ↔ InPeriod docs base d s.dateFrom := by
  obtain ⟨l₁, f, l₂, rfl, rfl⟩ := mem_periodsOf.mp hs
  have hf := (hmem f).mp (by simp)
  have hnext := forall_head?_iff (d := d) hl
  have hlast := head?_eq_none_iff_le hl
  rw [Period.Contains, le_dateTo_iff, periodOf_dateFrom, hnext, hlast]
  constructor
  · rintro ⟨hle, hlatest, hlasts, hcentury⟩
    refine ⟨hf.1, hf.2, hle, fun g hg => ?_, hlasts, fun h => hcentury (fun g hg => ?_) h.2⟩
    · by_cases hbase : base < g
      · exact hlatest g ((hmem g).mpr ⟨hg, hbase⟩)
      · exact .inl (le_trans (not_lt.mp hbase) (le_of_lt hf.2))
    · exact h.1 g ((hmem g).mp hg).1
  · intro h
    refine ⟨h.le, fun g hg => h.latest g ((hmem g).mp hg).1, h.lasts, fun hle hno => ?_⟩
    refine h.century ⟨fun g hg => ?_, hno⟩
    by_cases hbase : base < g
    · exact hle g ((hmem g).mpr ⟨hg, hbase⟩)
    · exact le_trans (not_lt.mp hbase) (le_of_lt hf.2)

theorem exists_period (hmem : ∀ f, f ∈ l ↔ f ∈ Starts docs ∧ base < f) {d f : Day}
    (h : InPeriod docs base d f) : ∃ s ∈ periodsOf docs l, s.dateFrom = f := by
  obtain ⟨l₁, l₂, rfl⟩ := List.append_of_mem ((hmem f).mpr ⟨h.start, h.after⟩)
  exact ⟨_, mem_periodsOf.mpr ⟨l₁, f, l₂, rfl, rfl⟩, periodOf_dateFrom f _⟩

theorem periodsOf_apart (hl : l.Pairwise (· < ·)) :
    (periodsOf docs l).Pairwise fun a b => ∀ d, ¬(a.Contains d ∧ b.Contains d) := by
  induction l with
  | nil => exact List.Pairwise.nil
  | cons start future ih =>
    obtain ⟨-, hfuture⟩ := List.pairwise_cons.mp hl
    refine List.pairwise_cons.mpr ⟨fun b hb d hd => ?_, ih hfuture⟩
    have hbefore := (le_dateTo_iff.mp hd.1.2).1
    obtain ⟨l₁, f, l₂, hsplit, rfl⟩ := mem_periodsOf.mp hb
    have hf : f ≤ d := by simpa [periodOf_dateFrom] using hd.2.1
    have hin : f ∈ start :: future := by simp [hsplit]
    have hfirst : (([] : List Day) ++ start :: future).Pairwise (· < ·) := hl
    have hall := (forall_head?_iff hfirst).mp hbefore f hin
    rcases hall with hle | hlt
    · have : start < f := (List.pairwise_cons.mp hl).1 f (by simp [hsplit])
      exact absurd hle (not_le.mpr this)
    · exact absurd hf (not_le.mpr hlt)

/-- A season ends before it starts only after the last day. -/
theorem dateFrom_le_dateTo_iff (hl : l.Pairwise (· < ·))
    (hmem : ∀ f, f ∈ l ↔ f ∈ Starts docs ∧ base < f) {s : Period} (hs : s ∈ periodsOf docs l) :
    s.dateFrom ≤ s.dateTo ↔ (WithoutEnd docs s.dateFrom → s.dateFrom ≤ LAST_DAY) := by
  have hcontains := contains_iff_inPeriod hl hmem hs s.dateFrom
  rw [Period.Contains, and_iff_right le_rfl] at hcontains
  rw [hcontains]
  constructor
  · exact fun h => h.century
  · intro h
    obtain ⟨l₁, f, l₂, rfl, rfl⟩ := mem_periodsOf.mp hs
    rw [periodOf_dateFrom] at h ⊢
    have hf := (hmem f).mp (by simp)
    exact ⟨hf.1, hf.2, le_rfl, fun g _ => le_or_gt g f, fun x _ hv t ht => hv.2 t ht, h⟩

end Seasons

/-! ## Filling -/

section Filling

variable {docs : List ContractDoc} {base d : Day}

/-- **Within a season the same documents are in force as at its start.** -/
theorem docsAt_of_inPeriod {s : Day} (h : InPeriod docs base d s) : docsAt docs s = docsAt docs d := by
  unfold docsAt
  congr 1
  refine List.filter_congr fun x hx => decide_eq_decide.mpr ?_
  constructor
  · intro hv
    exact ⟨le_trans hv.1 h.le, h.lasts x hx hv⟩
  · intro hv
    refine ⟨?_, fun t ht => le_trans h.le (hv.2 t ht)⟩
    exact (h.latest x.validFrom ⟨x, hx, rfl⟩).resolve_right (not_lt.mpr hv.1)

variable (toLowerCase : List Char → List Char) (slice : Slice) (roomTypes : List ContractRoomType)
  {today : Day}

/-- Two days have the contract's same prices exactly if their deciding rows are as dear. -/
theorem prices_eq_iff (hfill : ∀ x ∈ docs, x.fill = []) :
    (∀ k, EntryMap.get (sliceCells toLowerCase docs slice roomTypes base).prices k =
      EntryMap.get (sliceCells toLowerCase docs slice roomTypes d).prices k) ↔
    ∀ k p, (∃ c, DecidesCell toLowerCase slice roomTypes (docsAt docs base) k c ∧ c.kopecks = p) ↔
      ∃ c, DecidesCell toLowerCase slice roomTypes (docsAt docs d) k c ∧ c.kopecks = p := by
  simp only [← get_prices_iff toLowerCase hfill]
  exact forall_congr' fun k => Option.ext_iff

/-- The start of a season that contains the day gives the contract's prices. -/
theorem prices_of_inPeriod (hfill : ∀ x ∈ docs, x.fill = []) {s : Day}
    (h : InPeriod docs base d s) (k : PriceKey) :
    EntryMap.get (sliceCells toLowerCase docs slice roomTypes s).prices k =
      EntryMap.get (sliceCells toLowerCase docs slice roomTypes d).prices k := by
  apply (prices_eq_iff toLowerCase slice roomTypes hfill).mpr
  intro k p
  rw [docsAt_of_inPeriod h]

theorem mem_laterStarts {f : Day} : f ∈ (startsOf docs).filter (fun s => decide (base < s)) ↔
    f ∈ Starts docs ∧ base < f := by
  rw [List.mem_filter, mem_startsOf, decide_eq_true_eq]

theorem mem_seasons {s : Period} (hs : s ∈ (contractPeriods docs today).seasons) (d : Day) :
    s.Contains d ↔ InPeriod docs (contractPeriods docs today).base d s.dateFrom := by
  rw [contractPeriods_seasons] at hs
  exact contains_iff_inPeriod (startsOf_pairwise.filter _) (fun f => mem_laterStarts) hs d

theorem exists_season {f : Day} (h : InPeriod docs (contractPeriods docs today).base d f) :
    ∃ s ∈ (contractPeriods docs today).seasons, s.dateFrom = f := by
  rw [contractPeriods_seasons]
  exact exists_period (fun f => mem_laterStarts) h

theorem filledPrice_of_inPeriod (hfill : ∀ x ∈ docs, x.fill = [])
    (h : ∃ s, InPeriod docs (contractPeriods docs today).base d s) (k : PriceKey) :
    filledPrice toLowerCase docs slice roomTypes today d k =
      EntryMap.get (sliceCells toLowerCase docs slice roomTypes d).prices k := by
  obtain ⟨f, hf⟩ := h
  obtain ⟨s, hs, rfl⟩ := exists_season hf
  have hcontains := (mem_seasons hs d).mpr hf
  unfold filledPrice
  dsimp only
  cases hfind : (contractPeriods docs today).seasons.find? fun s => decide (s.Contains d) with
  | none =>
    have := List.find?_eq_none.mp hfind s hs
    exact absurd (decide_eq_true hcontains) this
  | some s' =>
    have hs' := List.mem_of_find?_eq_some hfind
    have hc' : s'.Contains d := by simpa using List.find?_some hfind
    exact prices_of_inPeriod toLowerCase slice roomTypes hfill ((mem_seasons hs' d).mp hc') k

theorem filledPrice_of_not (h : ¬∃ s, InPeriod docs (contractPeriods docs today).base d s)
    (k : PriceKey) : filledPrice toLowerCase docs slice roomTypes today d k =
      EntryMap.get (sliceCells toLowerCase docs slice roomTypes
        (contractPeriods docs today).base).prices k := by
  unfold filledPrice
  dsimp only
  cases hfind : (contractPeriods docs today).seasons.find? fun s => decide (s.Contains d) with
  | none => rfl
  | some s =>
    have hs := List.mem_of_find?_eq_some hfind
    have hc : s.Contains d := by simpa using List.find?_some hfind
    exact absurd ⟨s.dateFrom, (mem_seasons hs d).mp hc⟩ h

theorem seasons_apart : (contractPeriods docs today).seasons.Pairwise fun a b =>
    ∀ d, ¬(a.Contains d ∧ b.Contains d) := by
  rw [contractPeriods_seasons]
  exact periodsOf_apart (startsOf_pairwise.filter _)

/-- Seasons end after they start exactly if none starts after the last day without an end. -/
theorem seasons_ordered_iff : (∀ s ∈ (contractPeriods docs today).seasons, s.dateFrom ≤ s.dateTo) ↔
    ∀ s ∈ Starts docs, (contractPeriods docs today).base < s → WithoutEnd docs s →
      s ≤ LAST_DAY := by
  rw [contractPeriods_seasons]
  have hiff : ∀ s ∈ periodsOf docs _, s.dateFrom ≤ s.dateTo ↔
      (WithoutEnd docs s.dateFrom → s.dateFrom ≤ LAST_DAY) := fun s hs =>
    dateFrom_le_dateTo_iff (startsOf_pairwise.filter _)
      (fun f => @mem_laterStarts docs (contractPeriods docs today).base f) hs
  constructor
  · intro h f hf hbase hend
    obtain ⟨l₁, l₂, hl⟩ := List.append_of_mem (mem_laterStarts.mpr ⟨hf, hbase⟩)
    have hs : periodOf docs f l₂.head? ∈ periodsOf docs ((startsOf docs).filter fun s =>
        decide ((contractPeriods docs today).base < s)) := mem_periodsOf.mpr ⟨l₁, f, l₂, hl, rfl⟩
    have := (hiff _ hs).mp (h _ hs)
    rw [periodOf_dateFrom] at this
    exact this hend
  · intro h s hs
    obtain ⟨l₁, f, l₂, hl, rfl⟩ := mem_periodsOf.mp hs
    refine (hiff _ hs).mpr ?_
    rw [periodOf_dateFrom]
    have hf := mem_laterStarts.mp (show f ∈ (startsOf docs).filter _ by rw [hl]; simp)
    exact h f hf.1 hf.2

/-- **The filled tariff reproduces the contract** exactly where it is filled right. -/
theorem filled_iff (hfill : ∀ x ∈ docs, x.fill = []) :
    Reproduces toLowerCase docs slice roomTypes today ↔
      FilledRight toLowerCase docs slice roomTypes today := by
  constructor
  · intro h base hbase
    have hdocs : docs ≠ [] := by
      rintro rfl
      rcases hbase with ⟨⟨s, hs, -⟩, -⟩ | ⟨-, ⟨⟨⟨s, hs, -⟩, -⟩, -⟩ | ⟨-, ⟨s, hs, -⟩, -⟩⟩ <;>
        simp at hs
    have hsame : IsBase docs today (contractPeriods docs today).base :=
      contractPeriods_isBase hdocs
    have heq := hbase.unique hsame
    subst heq
    refine ⟨seasons_ordered_iff.mp h.ordered, fun d hd hv => ?_⟩
    by_cases hin : ∃ s, InPeriod docs (contractPeriods docs today).base d s
    · exact .inl hin
    · refine .inr ((prices_eq_iff toLowerCase slice roomTypes hfill).mp fun k => ?_)
      rw [← filledPrice_of_not toLowerCase slice roomTypes hin k, h.prices d hd hv k]
  · intro h
    by_cases hdocs : docs = []
    · subst hdocs
      exact ⟨fun d _ hv => by simp at hv, List.Pairwise.nil, fun s hs => by cases hs⟩
    · obtain ⟨hcentury, hdays⟩ := h _ (contractPeriods_isBase hdocs)
      refine ⟨fun d hd hv k => ?_, seasons_apart, seasons_ordered_iff.mpr hcentury⟩
      by_cases hin : ∃ s, InPeriod docs (contractPeriods docs today).base d s
      · exact filledPrice_of_inPeriod toLowerCase slice roomTypes hfill hin k
      · rw [filledPrice_of_not toLowerCase slice roomTypes hin k]
        have hsame := (hdays d hd hv).resolve_left hin
        exact (prices_eq_iff toLowerCase slice roomTypes hfill).mpr hsame k

end Filling

/-- A row for one guest of a room type. -/
def roomRow (roomTypeId : RoomTypeId) (priceNet : ℤ) : ContractRow :=
  { categoryId := none, categoryIds := [roomTypeId], categoryName := none, customer := none,
    guestKind := none, mealPlan := none, guests := some 1, perPerson := false,
    priceNet := some priceNet, onRequest := false }

/-- A contract without an end and an amendment in force from day 60 to day 180. -/
def amendedContract : List ContractDoc :=
  [⟨none, 0, none, [roomRow 1 380000], []⟩, ⟨none, 60, some 180, [roomRow 1 410000], []⟩]

def plainSlice : Slice := ⟨none, none, none, .none⟩

/-- The same, with a price for a place in a room for two, which the amendment raises for
two guests. -/
def pairContract : List ContractDoc :=
  [⟨none, 0, none, [roomRow 1 380000, { roomRow 2 250000 with guests := none, perPerson := true }], []⟩,
    ⟨none, 60, some 180, [roomRow 1 410000, { roomRow 2 560000 with guests := some 2 }], []⟩]

/-- Filled on day 20, the amendment is a season, and after it the prices are those of
the contract. -/
theorem filled_iff_pair :
    let rooms : List ContractRoomType := [⟨1, "Standard", some 1⟩, ⟨2, "Double", some 2⟩]
    (Reproduces id pairContract plainSlice rooms 20 ↔ FilledRight id pairContract plainSlice rooms 20) ∧
    ([30, 100, 200].map fun d => ([(1, 1), (2, 1), (2, 2)].map fun k =>
      filledPrice id pairContract plainSlice rooms 20 d k)) =
      [[some 380000, some 250000, some 500000], [some 410000, some 250000, some 560000],
        [some 380000, some 250000, some 500000]] := by
  intro rooms
  exact ⟨filled_iff id plainSlice rooms (by decide), by decide +kernel⟩

/-- Filled while the amendment is in force, the tariff keeps its price after its end. -/
theorem amendedContract_not_reproduced :
    ¬Reproduces id amendedContract plainSlice [⟨1, "Standard", some 1⟩] 90 := by
  intro h
  have heq := h.prices 240 (by decide) (by decide) (1, 1)
  have hfilled : filledPrice id amendedContract plainSlice [⟨1, "Standard", some 1⟩] 90 240 (1, 1) =
      some 410000 := by decide +kernel
  have hcontract : EntryMap.get (sliceCells id amendedContract plainSlice
      [⟨1, "Standard", some 1⟩] 240).prices (1, 1) = some 380000 := by decide +kernel
  rw [hfilled, hcontract] at heq
  exact absurd heq (by decide)

end KarsHotel
