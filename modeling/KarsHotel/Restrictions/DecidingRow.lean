import KarsHotel.Restrictions.TwoEvaluators

/-!
# The row that decides

A plan's own row overrides the general one of its day. `RestrictionsService.check` picks the rows of
the nights in a loop and the row of the departure by a descending order, in which the rows without a
plan come first. It reads its dates with `Date.UTC`, which moves the days of the years 0, …, 99.

* `Decides`: the row that decides a day; `Implied`: the violations the deciding rows imply;
* `bestRow_iff`: the loop picks the deciding row; `departureRow_iff`: the order picks the general
  row where there is one;
* `Breaks`, **`breaks_iff`**: the violations of a stay, rule by rule;
* **`checksAsDocumented_iff`**: the violations found are the implied ones exactly if the two rows of
  the departure day do not differ on the departure, and no date is moved, or the days read break the
  same rules.
-/

namespace KarsHotel

/-! ## The documented rule -/

/-- What a rule is about: 0 a night, 1 the arrival, 2 the booking window, 3 the departure. -/
def ViolationCode.kind : ViolationCode → ℕ
  | .closed | .stopSell | .minLos | .maxLos => 0
  | .cta | .minLosArrival | .maxLosArrival => 1
  | .minAdvance | .maxAdvance => 2
  | .ctd => 3

namespace Restriction

section Rules

variable (r : Restriction) (nights : ℕ)

/-- The rules of a night: closed, sales stopped, the length of the stay. -/
def NightRule : ViolationCode → Prop
  | .closed => r.closed = true
  | .stopSell => r.stopSell = true
  | .minLos => RestrictionsService.Below r.minLos nights
  | .maxLos => RestrictionsService.Above r.maxLos nights
  | _ => False

/-- The rules of an arrival: closed to it, the length of a stay that begins on it. -/
def ArrivalRule : ViolationCode → Prop
  | .cta => r.cta = true
  | .minLosArrival => RestrictionsService.Below r.minLosArrival nights
  | .maxLosArrival => RestrictionsService.Above r.maxLosArrival nights
  | _ => False

/-- The booking window. -/
def AdvanceRule (advanceDays : ℤ) : ViolationCode → Prop
  | .minAdvance => ∃ n, r.minAdvance = some n ∧ advanceDays < (n : ℤ)
  | .maxAdvance => ∃ n, r.maxAdvance = some n ∧ (n : ℤ) < advanceDays
  | _ => False

def DepartureRule : ViolationCode → Prop
  | .ctd => r.ctd = true
  | _ => False

end Rules

variable {r : Restriction}

theorem NightRule.kind {nights : ℕ} {code : ViolationCode} (h : r.NightRule nights code) :
    code.kind = 0 := by
  cases code <;> first | rfl | exact h.elim

theorem ArrivalRule.kind {nights : ℕ} {code : ViolationCode} (h : r.ArrivalRule nights code) :
    code.kind = 1 := by
  cases code <;> first | rfl | exact h.elim

theorem DepartureRule.kind {code : ViolationCode} (h : r.DepartureRule code) : code.kind = 3 := by
  cases code <;> first | rfl | exact h.elim

end Restriction

section Documented

variable (rows : List Restriction) (roomTypeId : RoomTypeId) (ratePlanId : Option RatePlanId)

/-- A row of a room type and a day, with this plan or without one. -/
structure RowAt (rows : List Restriction) (roomTypeId : RoomTypeId) (day : Day)
    (ratePlanId : Option RatePlanId) (r : Restriction) : Prop where
  mem : r ∈ rows
  roomTypeId : r.roomTypeId = roomTypeId
  date : r.date = day
  ratePlanId : r.ratePlanId = ratePlanId

/-- At most one row for a plan or none, a room type and a day. -/
def OneRestrictionEach (rows : List Restriction) : Prop :=
  ∀ r ∈ rows, ∀ r' ∈ rows, r.ratePlanId = r'.ratePlanId → r.roomTypeId = r'.roomTypeId →
    r.date = r'.date → r = r'

/-- The row of the requested plan decides a day, and where there is none the row without a plan. -/
def Decides (day : Day) (r : Restriction) : Prop :=
  RowAt rows roomTypeId day ratePlanId r ∨
    RowAt rows roomTypeId day none r ∧ ∀ r', ¬RowAt rows roomTypeId day ratePlanId r'

/-- The violations that the deciding rows imply for a stay from `arrival` to `departure` that is
asked for on `now`: on each night, on the arrival, of the booking window and on the departure. -/
inductive Implied (arrival departure now : Day) : ViolationCode → Option String → Prop
  | night {night : Day} {r : Restriction} {code : ViolationCode} (h₁ : arrival ≤ night)
      (h₂ : night < departure) (hr : Decides rows roomTypeId ratePlanId night r)
      (h : r.NightRule (departure - arrival).toNat code) :
      Implied arrival departure now code (some (isoDate night))
  | arrival {r : Restriction} {code : ViolationCode}
      (hr : Decides rows roomTypeId ratePlanId arrival r)
      (h : r.ArrivalRule (departure - arrival).toNat code) :
      Implied arrival departure now code (some (isoDate arrival))
  | advance {r : Restriction} {code : ViolationCode}
      (hr : Decides rows roomTypeId ratePlanId arrival r)
      (h : r.AdvanceRule (arrival - now) code) : Implied arrival departure now code none
  | departure {r : Restriction} {code : ViolationCode}
      (hr : Decides rows roomTypeId ratePlanId departure r) (h : r.DepartureRule code) :
      Implied arrival departure now code (some (isoDate departure))

/-- The row the order picks for a departure: the general one, and where there is none the plan's. -/
def ReadForDeparture (day : Day) (r : Restriction) : Prop :=
  RowAt rows roomTypeId day none r ∨
    RowAt rows roomTypeId day ratePlanId r ∧ ∀ r', ¬RowAt rows roomTypeId day none r'

/-- The violations found are the implied ones, and the stay is allowed exactly if there are none. -/
structure AsDocumented (rows : List Restriction) (roomTypeId : RoomTypeId)
    (ratePlanId : Option RatePlanId) (arrival departure now : Day) (res : CheckRestrictionsResult) :
    Prop where
  violations : ∀ code date, (∃ v ∈ res.violations, v.code = code ∧ v.date = date) ↔
    Implied rows roomTypeId ratePlanId arrival departure now code date
  allowed : res.allowed = true ↔
    ∀ code date, ¬Implied rows roomTypeId ratePlanId arrival departure now code date

/-- The plan's own row and the general one of a day do not differ on the departure. -/
def SameDeparture (day : Day) : Prop :=
  ∀ r r', RowAt rows roomTypeId day ratePlanId r → RowAt rows roomTypeId day none r' → r.ctd = r'.ctd

/-! ### Rules broken, one by one -/

/-- A rule of a night, by the row that decides it. -/
def NightBroken (arrival departure day : Day) (code : ViolationCode) : Prop :=
  arrival ≤ day ∧ day < departure ∧
    ∃ r, Decides rows roomTypeId ratePlanId day r ∧ r.NightRule (departure - arrival).toNat code

def ArrivalBroken (arrival departure : Day) (code : ViolationCode) : Prop :=
  ∃ r, Decides rows roomTypeId ratePlanId arrival r ∧
    r.ArrivalRule (departure - arrival).toNat code

/-- The booking window. -/
def AdvanceBroken (arrival now : Day) (code : ViolationCode) : Prop :=
  ∃ r, Decides rows roomTypeId ratePlanId arrival r ∧ r.AdvanceRule (arrival - now) code

/-- What a stay breaks, where `departs` is the row of its departure. -/
def Breaks (departs : Restriction → Prop) (arrival departure now : Day) (code : ViolationCode)
    (date : Option String) : Prop :=
  (∃ day, NightBroken rows roomTypeId ratePlanId arrival departure day code ∧
      date = some (isoDate day)) ∨
    (ArrivalBroken rows roomTypeId ratePlanId arrival departure code ∧
      date = some (isoDate arrival)) ∨
    (AdvanceBroken rows roomTypeId ratePlanId arrival now code ∧ date = none) ∨
    (∃ r, departs r ∧ r.DepartureRule code) ∧ date = some (isoDate departure)

/-- A date of the stay, or the day it is asked for on, is one that `Date.UTC` moves. -/
def Moved (arrival departure now : Day) : Prop := Early arrival ∨ Early departure ∨ Early now

/-- The rows of the days that are read in place of a stay's break the same rules on the
same days. -/
structure ReadAlike (arrival departure now arrival' departure' now' : Day) : Prop where
  nights : ∀ day code, NightBroken rows roomTypeId ratePlanId arrival' departure' day code ↔
    NightBroken rows roomTypeId ratePlanId arrival departure day code
  ofArrival : ∀ day code, (arrival' < departure' ∧ day = arrival' ∧
      ArrivalBroken rows roomTypeId ratePlanId arrival' departure' code) ↔
    day = arrival ∧ ArrivalBroken rows roomTypeId ratePlanId arrival departure code
  ofAdvance : ∀ code, (arrival' < departure' ∧
      AdvanceBroken rows roomTypeId ratePlanId arrival' now' code) ↔
    AdvanceBroken rows roomTypeId ratePlanId arrival now code
  ofDeparture : ∀ day, (arrival' < departure' ∧ day = departure' ∧
      ∃ r, ReadForDeparture rows roomTypeId ratePlanId departure' r ∧ r.ctd = true) ↔
    day = departure ∧ ∃ r, Decides rows roomTypeId ratePlanId departure r ∧ r.ctd = true

end Documented

/-! ## The rows picked -/

namespace RestrictionsService

section Rows

variable {rows : List Restriction} {roomTypeId : RoomTypeId} {ratePlanId : Option RatePlanId}
  {first last day : Day} {r : Restriction}

theorem mem_planRows (ratePlanId : Option RatePlanId) (day : Day) :
    (r ∈ rows.filter fun r => decide (r.roomTypeId = roomTypeId) && decide (r.date = day) &&
      planFilter ratePlanId r) ↔
      RowAt rows roomTypeId day ratePlanId r ∨ RowAt rows roomTypeId day none r := by
  simp only [List.mem_filter, Bool.and_eq_true, decide_eq_true_eq, planFilter]
  constructor
  · rintro ⟨hr, ⟨ht, hd⟩, hp⟩
    cases ratePlanId with
    | none => exact Or.inr ⟨hr, ht, hd, by simpa using hp⟩
    | some p =>
      rcases (show r.ratePlanId = none ∨ r.ratePlanId = some p by simpa using hp) with h | h
      · exact Or.inr ⟨hr, ht, hd, h⟩
      · exact Or.inl ⟨hr, ht, hd, h⟩
  · rintro (⟨hr, ht, hd, hp⟩ | ⟨hr, ht, hd, hp⟩)
    · exact ⟨hr, ⟨ht, hd⟩, by cases ratePlanId <;> simp [hp]⟩
    · exact ⟨hr, ⟨ht, hd⟩, by cases ratePlanId <;> simp [hp]⟩

theorem foldl_pickRow_none (l : List Restriction) :
    l.foldl pickRow none = (l.find? (·.ratePlanId.isSome)).or l.head? := by
  cases l with
  | nil => rfl
  | cons e l =>
    rw [List.foldl_cons, pickRow, foldl_pickRow]
    cases he : e.ratePlanId.isSome <;> simp [he]

theorem RowAt.eq (hone : OneRestrictionEach rows) {p : Option RatePlanId} {r' : Restriction}
    (h : RowAt rows roomTypeId day p r) (h' : RowAt rows roomTypeId day p r') : r = r' :=
  hone r h.mem r' h'.mem (h.ratePlanId.trans h'.ratePlanId.symm)
    (h.roomTypeId.trans h'.roomTypeId.symm) (h.date.trans h'.date.symm)

theorem Decides.eq (hone : OneRestrictionEach rows) {r' : Restriction}
    (h : Decides rows roomTypeId ratePlanId day r) (h' : Decides rows roomTypeId ratePlanId day r') :
    r = r' := by
  rcases h with h | ⟨h, hno⟩ <;> rcases h' with h' | ⟨h', hno'⟩
  · exact RowAt.eq hone h h'
  · exact absurd h (hno' r)
  · exact absurd h' (hno r')
  · exact RowAt.eq hone h h'

/-- A choice that is right, unique and made wherever there is one. -/
theorem eq_some_iff_of_unique {α : Type} {o : Option α} {P : α → Prop} {a : α}
    (hsound : ∀ a, o = some a → P a) (hunique : ∀ a b, P a → P b → a = b)
    (hsome : ∀ a, P a → o ≠ none) : o = some a ↔ P a := by
  refine ⟨hsound a, fun ha => ?_⟩
  obtain ⟨b, hb⟩ := Option.ne_none_iff_exists'.mp (hsome a ha)
  rw [hb, hunique a b ha (hsound b hb)]

/-- **The loop picks the deciding row** of a night. -/
theorem bestRow_iff (hone : OneRestrictionEach rows) (h₁ : first ≤ day) (h₂ : day ≤ last) :
    bestRow (rowsOf rows roomTypeId ratePlanId first last) day = some r ↔
      Decides rows roomTypeId ratePlanId day r := by
  have hrows : (rowsOf rows roomTypeId ratePlanId first last).filter
      (fun r => decide (r.date = day)) = rows.filter fun r => decide (r.roomTypeId = roomTypeId) &&
        decide (r.date = day) && planFilter ratePlanId r := by
    rw [rowsOf, List.filter_filter]
    refine List.filter_congr fun r _ => ?_
    by_cases hd : r.date = day
    · simp [hd, h₁, h₂]
    · simp [hd]
  rw [bestRow, hrows, foldl_pickRow_none]
  refine eq_some_iff_of_unique (fun r hr => ?_) (fun a b => Decides.eq hone) fun r hr hnone => ?_
  · rcases Option.or_eq_some_iff.mp hr with hown | ⟨hno, hhead⟩
    · rcases (mem_planRows ratePlanId day).mp (List.mem_of_find?_eq_some hown) with h | h
      · exact Or.inl h
      · exact absurd (List.find?_some hown) (by simp [h.ratePlanId])
    · have hmem := (mem_planRows ratePlanId day).mp (List.mem_of_head? hhead)
      -- no row of the day has a plan, so the first one is the general row
      by_cases hplan : ∃ r', RowAt rows roomTypeId day ratePlanId r'
      · obtain ⟨r', hr'⟩ := hplan
        have hgeneral : r'.ratePlanId = none := by
          simpa using List.find?_eq_none.mp hno r' ((mem_planRows ratePlanId day).mpr (Or.inl hr'))
        rw [hr'.ratePlanId] at hgeneral
        rw [hgeneral] at hmem ⊢
        exact Or.inl (hmem.elim id id)
      · refine hmem.elim Or.inl fun h => Or.inr ⟨h, fun r' hr' => hplan ⟨r', hr'⟩⟩
  · have hmem := (mem_planRows ratePlanId day).mpr (hr.imp_right And.left)
    rw [Option.or_eq_none_iff, List.head?_eq_none_iff] at hnone
    rw [hnone.2] at hmem
    exact absurd hmem List.not_mem_nil

instance : Std.Total planDesc where
  total a b := by
    unfold planDesc
    cases a.ratePlanId <;> cases b.ratePlanId <;> simp [Nat.le_total]

instance : IsTrans Restriction planDesc where
  trans a b c hab hbc := by
    unfold planDesc at *
    cases ha : a.ratePlanId <;> cases hb : b.ratePlanId <;> cases hc : c.ratePlanId <;>
      simp only [ha, hb, hc] at hab hbc ⊢
    exact hbc.trans hab

/-- **The order picks the general row** of the departure day, and the plan's own where there is no
general one. -/
theorem departureRow_iff (hone : OneRestrictionEach rows) :
    departureRow rows roomTypeId ratePlanId day = some r ↔
      ReadForDeparture rows roomTypeId ratePlanId day r := by
  refine eq_some_iff_of_unique (P := ReadForDeparture rows roomTypeId ratePlanId day)
    (fun r hr => ?_) (fun a b ha hb => ?_) fun r hr hnone => ?_
  · have hmem := (mem_planRows ratePlanId day).mp ((List.mem_insertionSort _).mp (List.mem_of_head? hr))
    by_cases hgeneral : ∃ r', RowAt rows roomTypeId day none r'
    · obtain ⟨r', hr'⟩ := hgeneral
      obtain ⟨l, hl⟩ := List.head?_eq_some_iff.mp hr
      have hsorted := List.pairwise_insertionSort planDesc
        (rows.filter fun r => decide (r.roomTypeId = roomTypeId) && decide (r.date = day) &&
          planFilter ratePlanId r)
      have hr'mem := (List.mem_insertionSort planDesc).mpr
        ((mem_planRows ratePlanId day).mpr (Or.inr hr'))
      rw [hl] at hsorted hr'mem
      rcases List.mem_cons.mp hr'mem with rfl | hin
      · exact Or.inl hr'
      · -- the first row comes before one without a plan
        have hdesc : planDesc r r' := (List.pairwise_cons.mp hsorted).1 r' hin
        have hplan : r.ratePlanId = none := by
          unfold planDesc at hdesc
          rw [hr'.ratePlanId] at hdesc
          cases hp : r.ratePlanId with
          | none => rfl
          | some p => rw [hp] at hdesc; exact hdesc.elim
        exact Or.inl (hmem.elim (fun h => ⟨h.mem, h.roomTypeId, h.date, hplan⟩) id)
    · exact hmem.elim (fun h => Or.inr ⟨h, fun r' hr' => hgeneral ⟨r', hr'⟩⟩) Or.inl
  · rcases ha with ha | ⟨ha, hno⟩ <;> rcases hb with hb | ⟨hb, hno'⟩
    · exact RowAt.eq hone ha hb
    · exact absurd ha (hno' a)
    · exact absurd hb (hno b)
    · exact RowAt.eq hone ha hb
  · have hmem := (List.mem_insertionSort planDesc).mpr
      ((mem_planRows ratePlanId day).mpr (hr.symm.imp_left And.left))
    rw [departureRow, List.head?_eq_none_iff] at hnone
    rw [hnone] at hmem
    exact absurd hmem List.not_mem_nil

end Rows

/-! ## The violations of a row -/

section Violations

variable {nights : ℕ} {day : Day} {r : Restriction} {code : ViolationCode} {date : Option String}

theorem exists_violated {broken : Bool} {w : Violation} :
    (∃ v ∈ violated broken w, v.code = code ∧ v.date = date) ↔
      broken = true ∧ w.code = code ∧ w.date = date := by
  unfold violated
  cases broken <;> simp

theorem exists_mem_append {l l' : List Violation} {p : Violation → Prop} :
    (∃ v ∈ l ++ l', p v) ↔ (∃ v ∈ l, p v) ∨ ∃ v ∈ l', p v := by
  simp only [List.mem_append, or_and_right, exists_or]

theorem exists_nightViolations :
    (∃ v ∈ nightViolations nights day r, v.code = code ∧ v.date = date) ↔
      r.NightRule nights code ∧ some (isoDate day) = date := by
  simp only [nightViolations, exists_mem_append, exists_violated, decide_eq_true_eq]
  cases code <;> simp [Restriction.NightRule]

theorem exists_arrivalViolations :
    (∃ v ∈ arrivalViolations nights day r, v.code = code ∧ v.date = date) ↔
      r.ArrivalRule nights code ∧ some (isoDate day) = date := by
  simp only [arrivalViolations, exists_mem_append, exists_violated, decide_eq_true_eq]
  cases code <;> simp [Restriction.ArrivalRule]

theorem exists_advanceViolations {advanceDays : ℤ} :
    (∃ v ∈ advanceViolations advanceDays r, v.code = code ∧ v.date = date) ↔
      r.AdvanceRule advanceDays code ∧ none = date := by
  simp only [advanceViolations, exists_mem_append, exists_violated, Option.any_eq_true,
    decide_eq_true_eq]
  cases code <;> simp [Restriction.AdvanceRule, Option.bind_eq_some_iff]

theorem exists_departureViolations :
    (∃ v ∈ departureViolations day r, v.code = code ∧ v.date = date) ↔
      r.DepartureRule code ∧ some (isoDate day) = date := by
  simp only [departureViolations, exists_violated]
  cases code <;> simp [Restriction.DepartureRule]

theorem exists_mem_elim {o : Option Restriction} {f : Restriction → List Violation}
    {p : Violation → Prop} : (∃ v ∈ o.elim [] f, p v) ↔ ∃ r, o = some r ∧ ∃ v ∈ f r, p v := by
  cases o <;> simp

end Violations

section Stay

variable {rows : List Restriction} {roomTypeId : RoomTypeId} {ratePlanId : Option RatePlanId}
  {arrival departure now : Day} {code : ViolationCode} {date : Option String}

/-- **The violations found** are the rules broken, the departure by the row the order picks. -/
theorem exists_violations_iff (hone : OneRestrictionEach rows) (hearly : ¬Early arrival)
    (hlt : arrival < departure) :
    (∃ v ∈ violations rows roomTypeId ratePlanId arrival departure now,
        v.code = code ∧ v.date = date) ↔
      Breaks rows roomTypeId ratePlanId (ReadForDeparture rows roomTypeId ratePlanId departure) arrival
        departure now code date := by
  have hlast : ∀ {d : Day}, d < departure → d ≤ departure - 1 := fun h => Int.le_sub_one_of_lt h
  have hadd : ∀ i : ℕ, addDays arrival (i : ℤ) = arrival + (i : ℤ) := fun i => by
    rw [addDays, utcAddDays, utcDay_of_not_early hearly]
  have hindex : ∀ d : Day, (∃ i ∈ List.range (departure - arrival).toNat, arrival + (i : ℤ) = d) ↔
      arrival ≤ d ∧ d < departure := by
    intro d
    rw [← AvailabilityService.mem_stayDates hlt.le, AvailabilityService.stayDates_eq hlt.le,
      List.mem_map]
  rw [violations, exists_mem_append, exists_mem_append, or_assoc]
  simp only [hadd]
  refine or_congr ?_ ?_
  · constructor
    · rintro ⟨v, hv, hcode⟩
      obtain ⟨i, hi, hv⟩ := List.mem_flatMap.mp hv
      obtain ⟨h₁, h₂⟩ := (hindex _).mp ⟨i, hi, rfl⟩
      obtain ⟨r, hr, hv⟩ := (exists_mem_elim (p := fun v => v.code = code ∧ v.date = date)).mp
        ⟨v, hv, hcode⟩
      obtain ⟨hrule, hdate⟩ := exists_nightViolations.mp hv
      exact ⟨_, ⟨h₁, h₂, r, (bestRow_iff hone h₁ (hlast h₂)).mp hr, hrule⟩, hdate.symm⟩
    · rintro ⟨night, ⟨h₁, h₂, r, hr, hrule⟩, rfl⟩
      obtain ⟨i, hi, rfl⟩ := (hindex night).mpr ⟨h₁, h₂⟩
      obtain ⟨v, hv, hcode⟩ := exists_mem_elim.mpr
        ⟨r, (bestRow_iff hone h₁ (hlast h₂)).mpr hr, exists_nightViolations.mpr ⟨hrule, rfl⟩⟩
      exact ⟨v, List.mem_flatMap.mpr ⟨i, hi, hv⟩, hcode⟩
  · rw [exists_mem_elim, exists_mem_elim]
    simp only [exists_mem_append, exists_arrivalViolations, exists_advanceViolations,
      exists_departureViolations, bestRow_iff hone le_rfl (hlast hlt), departureRow_iff hone]
    unfold ArrivalBroken AdvanceBroken
    simp only [and_or_left, exists_or, ← and_assoc, exists_and_right, or_assoc, eq_comm (a := date)]

end Stay

end RestrictionsService

/-! ## The stay asked for and the stay read -/

section Departure

open RestrictionsService

variable {rows : List Restriction} {roomTypeId : RoomTypeId} {ratePlanId : Option RatePlanId}
  {arrival departure now arrival' departure' now' : Day} {code : ViolationCode} {date : Option String}

theorem implied_iff :
    Implied rows roomTypeId ratePlanId arrival departure now code date ↔
      Breaks rows roomTypeId ratePlanId (Decides rows roomTypeId ratePlanId departure) arrival
        departure now code date := by
  constructor
  · intro h
    cases h with
    | night h₁ h₂ hr h => exact Or.inl ⟨_, ⟨h₁, h₂, _, hr, h⟩, rfl⟩
    | arrival hr h => exact Or.inr (Or.inl ⟨⟨_, hr, h⟩, rfl⟩)
    | advance hr h => exact Or.inr (Or.inr (Or.inl ⟨⟨_, hr, h⟩, rfl⟩))
    | departure hr h => exact Or.inr (Or.inr (Or.inr ⟨⟨_, hr, h⟩, rfl⟩))
  · rintro (⟨_, ⟨h₁, h₂, _, hr, h⟩, rfl⟩ | ⟨⟨_, hr, h⟩, rfl⟩ | ⟨⟨_, hr, h⟩, rfl⟩ | ⟨⟨_, hr, h⟩, rfl⟩)
    · exact .night h₁ h₂ hr h
    · exact .arrival hr h
    · exact .advance hr h
    · exact .departure hr h

/-- The rules that carry a date. -/
theorem breaks_dated {departs : Restriction → Prop} (day : Day) :
    Breaks rows roomTypeId ratePlanId departs arrival departure now code (some (isoDate day)) ↔
      NightBroken rows roomTypeId ratePlanId arrival departure day code ∨
        (day = arrival ∧ ArrivalBroken rows roomTypeId ratePlanId arrival departure code) ∨
        day = departure ∧ ∃ r, departs r ∧ r.DepartureRule code := by
  unfold Breaks
  simp only [Option.some.injEq, isoDate_injective.eq_iff, exists_eq_right', reduceCtorEq, and_false,
    false_or]
  rw [and_comm (b := day = arrival), and_comm (b := day = departure)]

theorem breaks_undated {departs : Restriction → Prop} :
    Breaks rows roomTypeId ratePlanId departs arrival departure now code none ↔
      AdvanceBroken rows roomTypeId ratePlanId arrival now code := by
  simp [Breaks]

theorem Breaks.day {departs : Restriction → Prop} {text : String}
    (h : Breaks rows roomTypeId ratePlanId departs arrival departure now code (some text)) :
    ∃ day, text = isoDate day := by
  rcases h with ⟨day, -, h⟩ | ⟨-, h⟩ | ⟨-, h⟩ | ⟨-, h⟩
  · exact ⟨day, Option.some.inj h⟩
  · exact ⟨arrival, Option.some.inj h⟩
  · cases h
  · exact ⟨departure, Option.some.inj h⟩

theorem NightBroken.kind {day : Day}
    (h : NightBroken rows roomTypeId ratePlanId arrival departure day code) : code.kind = 0 := by
  obtain ⟨-, -, _, -, hrule⟩ := h
  exact hrule.kind

theorem ArrivalBroken.kind (h : ArrivalBroken rows roomTypeId ratePlanId arrival departure code) :
    code.kind = 1 := by
  obtain ⟨_, -, hrule⟩ := h
  exact hrule.kind

/-- **The stay read breaks what the stay asked for does** if it does so rule by rule: the rules of
nights, arrivals, the booking window and departures have different codes. -/
theorem breaks_iff :
    (∀ code date, (arrival' < departure' ∧ Breaks rows roomTypeId ratePlanId
        (ReadForDeparture rows roomTypeId ratePlanId departure') arrival' departure' now' code date) ↔
      Breaks rows roomTypeId ratePlanId (Decides rows roomTypeId ratePlanId departure) arrival
        departure now code date) ↔
      ReadAlike rows roomTypeId ratePlanId arrival departure now arrival' departure' now' := by
  have hnight : ∀ day code, NightBroken rows roomTypeId ratePlanId arrival' departure' day code →
      arrival' < departure' := fun day code h => h.1.trans_lt h.2.1
  constructor
  · intro h
    have hdated := fun day code => h code (some (isoDate day))
    simp only [breaks_dated] at hdated
    refine ⟨fun day code => ⟨fun hn => ?_, fun hn => ?_⟩, fun day code =>
      ⟨fun ⟨hlt, hday, ha⟩ => ?_, fun ⟨hday, ha⟩ => ?_⟩, fun code => ?_, fun day =>
      ⟨fun ⟨hlt, hday, r, hr, hset⟩ => ?_, fun ⟨hday, r, hr, hset⟩ => ?_⟩⟩
    · rcases (hdated day code).mp ⟨hnight day code hn, Or.inl hn⟩ with hn' | ⟨-, ha⟩ | ⟨-, _, -, hd⟩
      · exact hn'
      · exact absurd (hn.kind.symm.trans ha.kind) (by decide)
      · exact absurd (hn.kind.symm.trans hd.kind) (by decide)
    · rcases ((hdated day code).mpr (Or.inl hn)).2 with hn' | ⟨-, ha⟩ | ⟨-, _, -, hd⟩
      · exact hn'
      · exact absurd (hn.kind.symm.trans ha.kind) (by decide)
      · exact absurd (hn.kind.symm.trans hd.kind) (by decide)
    · rcases (hdated day code).mp ⟨hlt, Or.inr (Or.inl ⟨hday, ha⟩)⟩ with hn | ha' | ⟨-, _, -, hd⟩
      · exact absurd (hn.kind.symm.trans ha.kind) (by decide)
      · exact ha'
      · exact absurd (ha.kind.symm.trans hd.kind) (by decide)
    · obtain ⟨hlt, hn | ha' | ⟨-, _, -, hd⟩⟩ := (hdated day code).mpr (Or.inr (Or.inl ⟨hday, ha⟩))
      · exact absurd (hn.kind.symm.trans ha.kind) (by decide)
      · exact ⟨hlt, ha'⟩
      · exact absurd (ha.kind.symm.trans hd.kind) (by decide)
    · have hcode := h code none
      rwa [breaks_undated, breaks_undated] at hcode
    · rcases (hdated day .ctd).mp ⟨hlt, Or.inr (Or.inr ⟨hday, r, hr, hset⟩)⟩ with hn | ⟨-, ha⟩ | hd
      · exact absurd hn.kind (by decide)
      · exact absurd ha.kind (by decide)
      · exact hd
    · obtain ⟨hlt, hn | ⟨-, ha⟩ | hd⟩ :=
        (hdated day .ctd).mpr (Or.inr (Or.inr ⟨hday, r, hr, hset⟩))
      · exact absurd hn.kind (by decide)
      · exact absurd ha.kind (by decide)
      · exact ⟨hlt, hd⟩
  · intro h code date
    cases date with
    | none =>
      rw [breaks_undated, breaks_undated]
      exact h.ofAdvance code
    | some text =>
      by_cases hday : ∃ day, text = isoDate day
      swap
      · exact iff_of_false (fun hb => hday hb.2.day) fun hb => hday hb.day
      obtain ⟨day, rfl⟩ := hday
      have hdeparture : ((arrival' < departure' ∧ day = departure' ∧ ∃ r,
          ReadForDeparture rows roomTypeId ratePlanId departure' r ∧ r.DepartureRule code) ↔
          day = departure ∧ ∃ r, Decides rows roomTypeId ratePlanId departure r ∧
            r.DepartureRule code) := by
        cases code
        case ctd => exact h.ofDeparture day
        all_goals simp [Restriction.DepartureRule]
      have hread := hnight day code
      rw [breaks_dated, breaks_dated, ← h.nights day code, ← h.ofArrival day code, ← hdeparture]
      by_cases hlt : arrival' < departure'
      · simp only [hlt, true_and]
      · simp only [hlt, false_and, or_false, false_iff]
        exact fun hn => hlt (hread hn)

theorem departureRow_eq (hone : OneRestrictionEach rows) {r r' : Restriction}
    (h : ReadForDeparture rows roomTypeId ratePlanId departure r)
    (h' : ReadForDeparture rows roomTypeId ratePlanId departure r') : r = r' :=
  Option.some.inj (((departureRow_iff hone).mpr h).symm.trans ((departureRow_iff hone).mpr h'))

/-- **Where no date is moved** it takes that the two rows of the departure day do not differ
on it. -/
theorem readAlike_iff (hone : OneRestrictionEach rows) (hlt : arrival < departure) :
    ReadAlike rows roomTypeId ratePlanId arrival departure now arrival departure now ↔
      SameDeparture rows roomTypeId ratePlanId departure := by
  constructor
  · intro h r r' hr hr'
    have hctd := h.ofDeparture departure
    simp only [hlt, true_and] at hctd
    rw [Bool.eq_iff_iff]
    constructor
    · intro hset
      obtain ⟨q, hq, hqset⟩ := hctd.mpr ⟨r, Or.inl hr, hset⟩
      rwa [departureRow_eq hone (Or.inl hr') hq]
    · intro hset
      obtain ⟨q, hq, hqset⟩ := hctd.mp ⟨r', Or.inl hr', hset⟩
      rwa [Decides.eq hone (Or.inl hr) hq]
  · intro hsame
    refine ⟨fun _ _ => Iff.rfl, fun _ _ => ?_, fun _ => ?_, fun day => ?_⟩
    · simp only [hlt, true_and]
    · simp only [hlt, true_and]
    simp only [hlt, true_and]
    refine and_congr_right fun _ => ⟨?_, ?_⟩
    · rintro ⟨r, hg | ⟨hown, -⟩, hset⟩
      · by_cases hplan : ∃ r', RowAt rows roomTypeId departure ratePlanId r'
        · obtain ⟨r', hr'⟩ := hplan
          exact ⟨r', Or.inl hr', (hsame r' r hr' hg).trans hset⟩
        · exact ⟨r, Or.inr ⟨hg, fun r' hr' => hplan ⟨r', hr'⟩⟩, hset⟩
      · exact ⟨r, Or.inl hown, hset⟩
    · rintro ⟨r, hown | ⟨hg, -⟩, hset⟩
      · by_cases hgeneral : ∃ r', RowAt rows roomTypeId departure none r'
        · obtain ⟨r', hr'⟩ := hgeneral
          exact ⟨r', Or.inl hr', (hsame r r' hown hr').symm.trans hset⟩
        · exact ⟨r, Or.inr ⟨hown, fun r' hr' => hgeneral ⟨r', hr'⟩⟩, hset⟩
      · exact ⟨r, Or.inl hg, hset⟩

/-- **The violations are the documented ones** exactly if the plan's own row and the general row of
the departure day do not differ on the departure; or, where a date is moved, the days read break
what the stay's own days do. -/
theorem checksAsDocumented_iff {x : TenantStore} {input : CheckRestrictionsInput} {clock : Moment}
    {roomType : RoomType} (htype : x.prices.roomTypes.find input.roomTypeId = some roomType)
    (hone : OneRestrictionEach x.restrictions) (hlt : dateOf input.arrival < dateOf input.departure) :
    let arrival := dateOf input.arrival
    let departure := dateOf input.departure
    let now := dateOf (input.now.getD clock)
    (∃ res, RestrictionsService.check x input clock = .ok res ∧
      AsDocumented x.restrictions input.roomTypeId input.ratePlanId arrival departure now res) ↔
      ¬Moved arrival departure now ∧
        SameDeparture x.restrictions input.roomTypeId input.ratePlanId departure ∨
      Moved arrival departure now ∧
        ReadAlike x.restrictions input.roomTypeId input.ratePlanId arrival departure now
          (utcDay arrival) (utcDay departure) (utcDay now) := by
  intro arrival departure now
  have hfound : ∃ res, RestrictionsService.check x input clock = .ok res ∧
      (res.allowed = true ↔ res.violations = []) ∧ ∀ code date,
        (∃ v ∈ res.violations, v.code = code ∧ v.date = date) ↔
          utcDay arrival < utcDay departure ∧ Breaks x.restrictions input.roomTypeId input.ratePlanId
            (ReadForDeparture x.restrictions input.roomTypeId input.ratePlanId (utcDay departure))
            (utcDay arrival) (utcDay departure) (utcDay now) code date := by
    simp only [RestrictionsService.check, startOfUTC, htype]
    by_cases hread : utcDay arrival < utcDay departure
    · rw [if_neg (not_le.mpr hread)]
      refine ⟨_, rfl, List.isEmpty_iff, fun code date => ?_⟩
      rw [and_iff_right hread]
      exact exists_violations_iff hone (not_early_utcDay _) hread
    · rw [if_pos (not_lt.mp hread)]
      refine ⟨_, rfl, iff_of_true rfl rfl, fun code date => ?_⟩
      refine iff_of_false ?_ fun h => hread h.1
      rintro ⟨v, hv, -⟩
      exact absurd hv List.not_mem_nil
  obtain ⟨res, hres, hallowed, hviolations⟩ := hfound
  have hdocumented : (∃ res, RestrictionsService.check x input clock = .ok res ∧
      AsDocumented x.restrictions input.roomTypeId input.ratePlanId arrival departure now res) ↔
      ReadAlike x.restrictions input.roomTypeId input.ratePlanId arrival departure now
        (utcDay arrival) (utcDay departure) (utcDay now) := by
    rw [← breaks_iff]
    constructor
    · rintro ⟨res', hres', h⟩ code date
      obtain rfl : res = res' := Except.ok.inj (hres.symm.trans hres')
      rw [← hviolations, h.violations, implied_iff]
    · intro h
      have hall : ∀ code date, (∃ v ∈ res.violations, v.code = code ∧ v.date = date) ↔
          Implied x.restrictions input.roomTypeId input.ratePlanId arrival departure now code date :=
        fun code date => by rw [hviolations, h, implied_iff]
      refine ⟨res, hres, hall, ?_⟩
      rw [hallowed]
      constructor
      · intro hempty code date himplied
        obtain ⟨v, hv, -⟩ := (hall code date).mpr himplied
        rw [hempty] at hv
        exact absurd hv List.not_mem_nil
      · intro hnone
        refine List.eq_nil_iff_forall_not_mem.mpr fun v hv => ?_
        exact hnone v.code v.date ((hall v.code v.date).mp ⟨v, hv, rfl, rfl⟩)
  rw [hdocumented]
  by_cases hmoved : Moved arrival departure now
  · simp only [hmoved, not_true_eq_false, false_and, false_or, true_and]
  · have hunmoved := not_or.mp hmoved
    have hlate := not_or.mp hunmoved.2
    rw [utcDay_of_not_early hunmoved.1, utcDay_of_not_early hlate.1, utcDay_of_not_early hlate.2]
    simp only [hmoved, not_false_eq_true, true_and, false_and, or_false]
    exact readAlike_iff hone hlt

end Departure

/-- One room type; on day 1 the general row is closed to departures, the row of plan 1 is not. -/
def TenantStore.twoRows : TenantStore where
  hotel := .oneRoom false
  prices := ⟨Table.empty.insert ⟨1, 2, 2, true⟩, .empty, .empty, [], .empty⟩
  inventory := .empty
  restrictions :=
    [⟨some 1, 1, 1, false, false, false, false, none, none, none, none, none, none⟩,
     ⟨none, 1, 1, false, false, true, false, none, none, none, none, none, none⟩]

theorem oneRestrictionEach_twoRows : OneRestrictionEach TenantStore.twoRows.restrictions := by
  intro r hr r' hr' hp _ _
  rcases List.mem_pair.mp hr with rfl | rfl <;> rcases List.mem_pair.mp hr' with rfl | rfl
  · rfl
  · cases hp
  · cases hp
  · rfl

/-- Plan 2 has no row of its own: the departure is closed for it, as documented. -/
theorem checksAsDocumented_iff_general : ∃ res, RestrictionsService.check .twoRows
      ⟨some 2, 1, startOf 0, startOf 1, none⟩ 0 = .ok res ∧
    AsDocumented TenantStore.twoRows.restrictions 1 (some 2) (dateOf (startOf 0))
      (dateOf (startOf 1)) (dateOf (Option.getD none 0)) res := by
  refine (checksAsDocumented_iff (show TenantStore.twoRows.prices.roomTypes.find 1 = some _ from rfl)
    oneRestrictionEach_twoRows (by decide)).mpr (Or.inl ⟨?_, fun r r' hr _ => ?_⟩)
  · unfold Moved
    decide +kernel
  · rcases List.mem_pair.mp hr.mem with rfl | rfl <;> cases hr.ratePlanId

/-- **The general row decides the departure of plan 1**, whose own row is open to it. -/
theorem generalRow_departure :
    (RestrictionsService.check .twoRows ⟨some 1, 1, startOf 0, startOf 1, none⟩ 0).map
        (fun res => (res.allowed, res.violations.map (·.code))) = .ok (false, [.ctd]) ∧
      OneRestrictionEach TenantStore.twoRows.restrictions ∧
      ¬Implied TenantStore.twoRows.restrictions 1 (some 1) 0 1 0 .ctd (some (isoDate 1)) := by
  refine ⟨by decide +kernel, oneRestrictionEach_twoRows, ?_⟩
  have hown : Decides TenantStore.twoRows.restrictions 1 (some 1) 1
      ⟨some 1, 1, 1, false, false, false, false, none, none, none, none, none, none⟩ :=
    Or.inl ⟨List.mem_cons_self, rfl, rfl, rfl⟩
  rw [implied_iff, breaks_dated]
  rintro (⟨-, -, _, -, h⟩ | ⟨-, _, -, h⟩ | ⟨-, r, hr, hctd⟩)
  · exact h
  · exact h
  · rw [← RestrictionsService.Decides.eq oneRestrictionEach_twoRows hown hr] at hctd
    exact absurd hctd Bool.false_ne_true

end KarsHotel
