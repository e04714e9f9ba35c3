import KarsHotel.Inventory.Availability
import KarsHotel.Restrictions.Service

/-!
# Two evaluators of one rule set

`AvailabilityService.check` and `RestrictionsService.check` both say whether the restrictions allow
a stay by a plan. They choose the row of a day differently, and read its fields differently.

* `readRow`, `planRow`: the row each takes; `Refuses`, `OfferOnly`, `RuleOnly`: the rules;
* **`bookable_iff`**, **`allowed_iff`**: when each lets a stay through;
* `RefusedByBoth`, `OfferAlone`, `RuleAlone`: what both refuse, and what only one of them does;
* **`restrictionsAgree_iff`**: when the two agree.
-/

namespace KarsHotel

/-! ## The rules of a row -/

namespace Restriction

/-- What both evaluators refuse a stay of so many nights for, on one of its nights. -/
def Refuses (r : Restriction) (nights : ℕ) (isArrival : Prop) : Prop :=
  r.closed = true ∨ RestrictionsService.Below r.minLos nights ∨
    RestrictionsService.Above r.maxLos nights ∨
    isArrival ∧ (r.cta = true ∨ RestrictionsService.Below r.minLosArrival nights ∨
      r.maxLos = none ∧ RestrictionsService.Above r.maxLosArrival nights)

/-- What only `AvailabilityService.check` refuses it for: the longest stay for arrivals, on a night
that is not the arrival. -/
def OfferOnly (r : Restriction) (nights : ℕ) (isArrival : Prop) : Prop :=
  ¬isArrival ∧ r.maxLos = none ∧ RestrictionsService.Above r.maxLosArrival nights

/-- What only `RestrictionsService.check` refuses it for: a stop of sales, and the longest stay for
arrivals beside a longest stay. -/
def RuleOnly (r : Restriction) (nights : ℕ) (isArrival : Prop) : Prop :=
  r.stopSell = true ∨
    isArrival ∧ r.maxLos ≠ none ∧ RestrictionsService.Above r.maxLosArrival nights

end Restriction

section Rows

variable (rows : List Restriction) (roomTypeId : RoomTypeId) (planId : RatePlanId)

/-- The general row and the plan's row of a day. -/
def dayRows (day : Day) : List Restriction :=
  rows.filter fun r => decide (r.roomTypeId = roomTypeId ∧ r.date = day ∧
    (r.ratePlanId = none ∨ r.ratePlanId = some planId))

/-- `AvailabilityService.check` takes the row read last. -/
def readRow (day : Day) : Option Restriction := (dayRows rows roomTypeId planId day).getLast?

/-- `RestrictionsService.check` takes the plan's row, else the general one. -/
def planRow (day : Day) : Option Restriction :=
  ((dayRows rows roomTypeId planId day).find? (·.ratePlanId.isSome)).or
    (dayRows rows roomTypeId planId day).head?

/-- The row of a night of a stay as `AvailabilityService.check` reads it. -/
def ReadAt (checkIn checkOut night : Day) (r : Restriction) : Prop :=
  checkIn ≤ night ∧ night < checkOut ∧ readRow rows roomTypeId planId night = some r

/-- The row of a night of a stay as `RestrictionsService.check` reads it. -/
def PlannedAt (arrival departure night : Day) (r : Restriction) : Prop :=
  arrival ≤ night ∧ night < departure ∧ planRow rows roomTypeId planId night = some r

/-- Some night of the stay is refused by its row as `AvailabilityService.check` reads it. -/
def OffersRefuse (checkIn checkOut : Day) : Prop :=
  ∃ night r, ReadAt rows roomTypeId planId checkIn checkOut night r ∧
    (r.Refuses (checkOut - checkIn).toNat (night = checkIn) ∨
      r.OfferOnly (checkOut - checkIn).toNat (night = checkIn))

/-- Some night is refused by its row as `RestrictionsService.check` reads it, or the
departure is. -/
def RulesRefuse (arrival departure : Day) : Prop :=
  (∃ night r, PlannedAt rows roomTypeId planId arrival departure night r ∧
    (r.Refuses (departure - arrival).toNat (night = arrival) ∨
      r.RuleOnly (departure - arrival).toNat (night = arrival))) ∨
    ∃ r, RestrictionsService.departureRow rows roomTypeId (some planId) departure = some r ∧
      r.ctd = true

end Rows

section Sides

variable (rows rows' : List Restriction) (roomTypeId : RoomTypeId) (planId : RatePlanId)
  (checkIn checkOut arrival departure : Day)

/-- A night that both take from one row, for a rule that both know. -/
def RefusedByBoth (night : Day) (r : Restriction) : Prop :=
  ReadAt rows roomTypeId planId checkIn checkOut night r ∧
    PlannedAt rows' roomTypeId planId arrival departure night r ∧
    r.Refuses (checkOut - checkIn).toNat (night = checkIn) ∧
    r.Refuses (departure - arrival).toNat (night = arrival)

/-- A night that only `AvailabilityService.check` refuses: its row is not the one the other takes,
or it breaks the longest stay for arrivals on a later night. -/
def OfferAlone : Prop :=
  ∃ night r, ReadAt rows roomTypeId planId checkIn checkOut night r ∧
    (r.Refuses (checkOut - checkIn).toNat (night = checkIn) ∨
      r.OfferOnly (checkOut - checkIn).toNat (night = checkIn)) ∧
    ¬RefusedByBoth rows rows' roomTypeId planId checkIn checkOut arrival departure night r

/-- What only `RestrictionsService.check` refuses: a night whose row is not the one the
other takes, or that breaks a stop of sales or the longest stay for arrivals beside a
longest stay; a departure. -/
def RuleAlone : Prop :=
  (∃ night r, PlannedAt rows' roomTypeId planId arrival departure night r ∧
    (r.Refuses (departure - arrival).toNat (night = arrival) ∨
      r.RuleOnly (departure - arrival).toNat (night = arrival)) ∧
    ¬RefusedByBoth rows rows' roomTypeId planId checkIn checkOut arrival departure night r) ∨
    ∃ r, RestrictionsService.departureRow rows' roomTypeId (some planId) departure = some r ∧
      r.ctd = true

theorem offersRefuse_iff : OffersRefuse rows roomTypeId planId checkIn checkOut ↔
    (∃ night r, RefusedByBoth rows rows' roomTypeId planId checkIn checkOut arrival departure
      night r) ∨
    OfferAlone rows rows' roomTypeId planId checkIn checkOut arrival departure := by
  constructor
  · rintro ⟨night, r, hr, href⟩
    by_cases hboth : RefusedByBoth rows rows' roomTypeId planId checkIn checkOut arrival departure
      night r
    · exact Or.inl ⟨night, r, hboth⟩
    · exact Or.inr ⟨night, r, hr, href, hboth⟩
  · rintro (⟨night, r, hr, -, href, -⟩ | ⟨night, r, hr, href, -⟩)
    · exact ⟨night, r, hr, Or.inl href⟩
    · exact ⟨night, r, hr, href⟩

theorem rulesRefuse_iff : RulesRefuse rows' roomTypeId planId arrival departure ↔
    (∃ night r, RefusedByBoth rows rows' roomTypeId planId checkIn checkOut arrival departure
      night r) ∨
    RuleAlone rows rows' roomTypeId planId checkIn checkOut arrival departure := by
  constructor
  · rintro (⟨night, r, hr, href⟩ | hdeparture)
    · by_cases hboth : RefusedByBoth rows rows' roomTypeId planId checkIn checkOut arrival departure
        night r
      · exact Or.inl ⟨night, r, hboth⟩
      · exact Or.inr (Or.inl ⟨night, r, hr, href, hboth⟩)
    · exact Or.inr (Or.inr hdeparture)
  · rintro (⟨night, r, -, hr, -, href⟩ | ⟨night, r, hr, href, -⟩ | hdeparture)
    · exact Or.inl ⟨night, r, hr, Or.inl href⟩
    · exact Or.inl ⟨night, r, hr, href⟩
    · exact Or.inr hdeparture

end Sides

/-! ## `AvailabilityService.check` -/

section Offers

open AvailabilityService

variable {x : TenantStore} {roomTypeId : RoomTypeId} {planId : RatePlanId}
  {checkIn checkOut night : Day}

theorem restrictionOf_eq (h₁ : checkIn ≤ night) (h₂ : night ≤ checkOut) :
    restrictionOf x roomTypeId checkIn checkOut (some planId) night =
      readRow x.restrictions roomTypeId planId night := by
  rw [restrictionOf, readRow, List.getLast?_eq_head?_reverse, ← List.head?_filter]
  congr 1
  rw [List.filter_reverse, restrictionRows, dayRows, List.filter_filter]
  congr 1
  refine List.filter_congr fun r _ => ?_
  by_cases hd : r.date = night
  · simp [hd, between, h₁, h₂]
  · simp [hd]

theorem below_iff {limit : Option ℕ} {nights : ℕ} :
    RestrictionsService.Below limit nights ↔ nights < limit.getD 0 := by
  cases limit <;> simp [RestrictionsService.Below]

theorem all_le_iff {limit : Option ℕ} {nights : ℕ} :
    (limit.all fun n => decide (nights ≤ n)) = true ↔
      ¬RestrictionsService.Above limit nights := by
  cases limit <;> simp [RestrictionsService.Above]

theorem positive_all_iff {n nights : ℕ} :
    ((positive n).all fun m => decide (m ≤ nights)) = true ↔ n ≤ nights := by
  unfold positive
  split_ifs with hn
  · simp [hn]
  · simp

/-- The longest stay: its own limit, else the one for arrivals. -/
theorem above_or_iff {limit arrival : Option ℕ} {nights : ℕ} :
    RestrictionsService.Above (limit.or arrival) nights ↔
      RestrictionsService.Above limit nights ∨
        limit = none ∧ RestrictionsService.Above arrival nights := by
  cases limit <;> simp [RestrictionsService.Above]

theorem sells_iff (h₁ : checkIn ≤ night) (h₂ : night < checkOut)
    (havail : 1 ≤ (dayAvailability x roomTypeId checkIn checkOut (some planId) night).available)
    (hstop : (dayAvailability x roomTypeId checkIn checkOut (some planId) night).stopSell = false)
    (nights : ℕ) :
    (dayAvailability x roomTypeId checkIn checkOut (some planId) night).sells checkIn nights = true ↔
      ∀ r, readRow x.restrictions roomTypeId planId night = some r →
        ¬(r.Refuses nights (night = checkIn) ∨ r.OfferOnly nights (night = checkIn)) := by
  have hres : (dayAvailability x roomTypeId checkIn checkOut (some planId) night).restrictions =
      dayRestrictions x roomTypeId checkIn checkOut (some planId) night := rfl
  have hdate : (dayAvailability x roomTypeId checkIn checkOut (some planId) night).date = night := rfl
  simp only [DayAvailability.sells, havail, hstop, hres, hdate, decide_true, Bool.true_and,
    Bool.not_false]
  rw [dayRestrictions, restrictionOf_eq h₁ h₂.le]
  cases readRow x.restrictions roomTypeId planId night with
  | none => simp
  | some r =>
    simp only [Option.some.injEq, forall_eq', Bool.and_eq_true, Bool.not_eq_true', all_le_iff,
      positive_all_iff, above_or_iff, Restriction.Refuses, Restriction.OfferOnly, below_iff,
      max_le_iff, Bool.and_eq_false_iff, decide_eq_false_iff_not]
    by_cases ha : night = checkIn
    · simp only [ha, decide_true, if_true]
      by_cases hm : r.maxLos = none <;> simp [hm] <;> tauto
    · simp only [ha, decide_false]
      by_cases hm : r.maxLos = none <;> simp [hm] <;> tauto

/-- **When `AvailabilityService.check` lets a stay through.** -/
theorem bookable_iff (hlt : checkIn < checkOut)
    (hfree : ∀ d ∈ (check x roomTypeId checkIn checkOut (some planId)).days,
      1 ≤ d.available ∧ d.stopSell = false) :
    (check x roomTypeId checkIn checkOut (some planId)).bookable = true ↔
      ¬OffersRefuse x.restrictions roomTypeId planId checkIn checkOut := by
  have hmem : ∀ night, night ∈ stayDates checkIn checkOut ↔ checkIn ≤ night ∧ night < checkOut :=
    fun night => mem_stayDates hlt.le
  have hlen : (stayDates checkIn checkOut).length = (checkOut - checkIn).toNat := by
    rw [stayDates_eq hlt.le, List.length_map, List.length_range]
  have hbookable : (check x roomTypeId checkIn checkOut (some planId)).bookable =
      ((stayDates checkIn checkOut).map (dayAvailability x roomTypeId checkIn checkOut
        (some planId))).all fun d => d.sells checkIn (stayDates checkIn checkOut).length := by
    unfold check
    split
    · next h =>
      have := (hmem checkIn).mpr ⟨le_rfl, hlt⟩
      rw [h] at this
      exact absurd this List.not_mem_nil
    · rfl
  rw [hbookable, List.all_eq_true, List.forall_mem_map, hlen]
  rw [check_days, List.forall_mem_map] at hfree
  have hnight : ∀ night ∈ stayDates checkIn checkOut,
      (dayAvailability x roomTypeId checkIn checkOut (some planId) night).sells checkIn
          (checkOut - checkIn).toNat = true ↔
        ∀ r, readRow x.restrictions roomTypeId planId night = some r →
          ¬(r.Refuses (checkOut - checkIn).toNat (night = checkIn) ∨
            r.OfferOnly (checkOut - checkIn).toNat (night = checkIn)) := by
    intro night hn
    obtain ⟨h₁, h₂⟩ := (hmem night).mp hn
    exact sells_iff h₁ h₂ (hfree night hn).1 (hfree night hn).2 _
  rw [forall₂_congr hnight]
  unfold OffersRefuse
  constructor
  · rintro h ⟨night, r, ⟨h₁, h₂, hr⟩, href⟩
    exact h night ((hmem night).mpr ⟨h₁, h₂⟩) r hr href
  · intro h night hn r hr href
    obtain ⟨h₁, h₂⟩ := (hmem night).mp hn
    exact h ⟨night, r, ⟨h₁, h₂, hr⟩, href⟩

end Offers

/-! ## `RestrictionsService.check` -/

namespace RestrictionsService

section Rules

variable {rows : List Restriction} {roomTypeId : RoomTypeId} {planId : RatePlanId}
  {checkIn checkOut night : Day}

theorem foldl_pickRow (l : List Restriction) (e : Restriction) :
    l.foldl pickRow (some e) =
      if e.ratePlanId.isSome then some e else (l.find? (·.ratePlanId.isSome)).or (some e) := by
  induction l generalizing e with
  | nil => cases e.ratePlanId.isSome <;> simp
  | cons r l ih =>
    rw [List.foldl_cons, pickRow]
    cases he : e.ratePlanId.isSome <;> cases hr : r.ratePlanId.isSome <;>
      simp [he, hr, ih, ← Option.not_isSome]

theorem bestRow_eq (h₁ : checkIn ≤ night) (h₂ : night ≤ checkOut - 1) :
    bestRow (rowsOf rows roomTypeId (some planId) checkIn (checkOut - 1)) night =
      planRow rows roomTypeId planId night := by
  have hrows : (rowsOf rows roomTypeId (some planId) checkIn (checkOut - 1)).filter
      (fun r => decide (r.date = night)) = dayRows rows roomTypeId planId night := by
    rw [rowsOf, dayRows, List.filter_filter]
    refine List.filter_congr fun r _ => ?_
    by_cases hd : r.date = night
    · simp [hd, planFilter, h₁, h₂]
    · simp [hd]
  rw [bestRow, hrows, planRow]
  cases hl : dayRows rows roomTypeId planId night with
  | nil => rfl
  | cons e l =>
    rw [List.foldl_cons, pickRow, foldl_pickRow]
    cases he : e.ratePlanId.isSome <;> simp [he]

theorem forall_mem_violated {p : Violation → Prop} {broken : Bool} {v : Violation} :
    (∀ w ∈ violated broken v, p w) ↔ (broken = true → p v) := by
  unfold violated
  cases broken <;> simp

/-- The rules of a night broken by a row. -/
theorem nightViolations_iff {nights : ℕ} {r : Restriction} :
    (∀ v ∈ nightViolations nights night r, v.code.IsAdvance) ↔
      ¬(r.closed = true ∨ r.stopSell = true ∨ Below r.minLos nights ∨ Above r.maxLos nights) := by
  simp only [nightViolations, List.forall_mem_append, forall_mem_violated,
    ViolationCode.IsAdvance, reduceCtorEq, or_self, imp_false, decide_eq_true_eq]
  tauto

/-- The rules of the arrival broken by a row, whatever its booking window. -/
theorem arrivalViolations_iff {nights : ℕ} {r : Restriction} {advanceDays : ℤ} :
    (∀ v ∈ arrivalViolations nights night r ++ advanceViolations advanceDays r,
        v.code.IsAdvance) ↔
      ¬(r.cta = true ∨ Below r.minLosArrival nights ∨ Above r.maxLosArrival nights) := by
  simp only [arrivalViolations, advanceViolations, List.forall_mem_append, forall_mem_violated,
    ViolationCode.IsAdvance, reduceCtorEq, or_self, or_true, true_or, imp_false, implies_true,
    and_true, decide_eq_true_eq]
  tauto

theorem departureViolations_iff {r : Restriction} :
    (∀ v ∈ departureViolations night r, v.code.IsAdvance) ↔ ¬r.ctd = true := by
  simp only [departureViolations, forall_mem_violated, ViolationCode.IsAdvance, reduceCtorEq,
    or_self, imp_false]

theorem forall_mem_elim {p : Violation → Prop} {o : Option Restriction}
    {f : Restriction → List Violation} :
    (∀ v ∈ o.elim [] f, p v) ↔ ∀ r, o = some r → ∀ v ∈ f r, p v := by
  cases o <;> simp

/-- A row of the arrival breaks a rule of a night or of the arrival. -/
theorem refuses_or_ruleOnly_iff {nights : ℕ} {r : Restriction} {isArrival : Prop} :
    r.Refuses nights isArrival ∨ r.RuleOnly nights isArrival ↔
      (r.closed = true ∨ r.stopSell = true ∨ Below r.minLos nights ∨ Above r.maxLos nights) ∨
        isArrival ∧ (r.cta = true ∨ Below r.minLosArrival nights ∨ Above r.maxLosArrival nights) := by
  unfold Restriction.Refuses Restriction.RuleOnly
  by_cases hm : r.maxLos = none
  · simp only [hm, true_and, ne_eq, not_true_eq_false, false_and, and_false, or_false]
    tauto
  · simp only [hm, false_and, or_false, ne_eq, not_false_eq_true, true_and]
    tauto

/-- **When the violations are none but those of the booking window.** -/
theorem violations_iff (hearly : ¬Early checkIn) (hlt : checkIn < checkOut) (now : Day) :
    (∀ v ∈ violations rows roomTypeId (some planId) checkIn checkOut now, v.code.IsAdvance) ↔
      ¬RulesRefuse rows roomTypeId planId checkIn checkOut := by
  have hlast : ∀ {d : Day}, d < checkOut → d ≤ checkOut - 1 := fun h => Int.le_sub_one_of_lt h
  have hadd : ∀ i : ℕ, addDays checkIn (i : ℤ) = checkIn + (i : ℤ) := fun i => by
    rw [addDays, utcAddDays, utcDay_of_not_early hearly]
  have hindex : ∀ d : Day, (∃ i ∈ List.range (checkOut - checkIn).toNat, checkIn + (i : ℤ) = d) ↔
      checkIn ≤ d ∧ d < checkOut := by
    intro d
    rw [← AvailabilityService.mem_stayDates hlt.le, AvailabilityService.stayDates_eq hlt.le,
      List.mem_map]
  rw [violations]
  simp only [List.forall_mem_append, List.forall_mem_flatMap, forall_mem_elim, hadd]
  constructor
  · rintro ⟨⟨hnights, harrival⟩, hdeparture⟩ (⟨night, r, ⟨h₁, h₂, hr⟩, href⟩ | ⟨r, hr, hctd⟩)
    · rcases refuses_or_ruleOnly_iff.mp href with hnight | ⟨rfl, hfirst⟩
      · obtain ⟨i, hi, rfl⟩ := (hindex night).mpr ⟨h₁, h₂⟩
        rw [← bestRow_eq h₁ (hlast h₂)] at hr
        exact nightViolations_iff.mp (hnights i hi r hr) hnight
      · rw [← bestRow_eq h₁ (hlast h₂)] at hr
        exact arrivalViolations_iff.mp (List.forall_mem_append.mpr (harrival r hr)) hfirst
    · exact departureViolations_iff.mp (hdeparture r hr) hctd
  · intro h
    refine ⟨⟨fun i hi r hr => ?_, fun r hr => ?_⟩, fun r hr => ?_⟩
    · obtain ⟨h₁, h₂⟩ := (hindex _).mp ⟨i, hi, rfl⟩
      rw [bestRow_eq h₁ (hlast h₂)] at hr
      refine nightViolations_iff.mpr fun href => h (Or.inl ⟨_, r, ⟨h₁, h₂, hr⟩, ?_⟩)
      exact refuses_or_ruleOnly_iff.mpr (Or.inl href)
    · rw [bestRow_eq le_rfl (hlast hlt)] at hr
      refine List.forall_mem_append.mp (arrivalViolations_iff.mpr fun href =>
        h (Or.inl ⟨_, r, ⟨le_rfl, hlt, hr⟩, ?_⟩))
      exact refuses_or_ruleOnly_iff.mpr (Or.inr ⟨rfl, href⟩)
    · exact departureViolations_iff.mpr fun hctd => h (Or.inr ⟨r, hr, hctd⟩)

end Rules

end RestrictionsService

/-! ## Agreement -/

/-- `check` of the one lets a stay by a plan through exactly if `check` of the other, whose queries
return `rows`, reports no violation but those of the booking window. -/
def RestrictionsAgree (x : TenantStore) (rows : List Restriction) (roomTypeId : RoomTypeId)
    (planId : RatePlanId) (checkIn checkOut : Day) (clock : Moment) : Prop :=
  (AvailabilityService.check x roomTypeId checkIn checkOut (some planId)).bookable = true ↔
    ∃ res, RestrictionsService.check { x with restrictions := rows }
        ⟨some planId, roomTypeId, startOf checkIn, startOf checkOut, none⟩ clock = .ok res ∧
      ∀ v ∈ res.violations, v.code.IsAdvance

section Agree

variable {x : TenantStore} {roomTypeId : RoomTypeId} {planId : RatePlanId} {checkIn checkOut : Day}

/-- **When `RestrictionsService.check` lets a stay through**: where the dates it reads have no night
between them, or no rule of theirs is broken. -/
theorem allowed_iff {roomType : RoomType} (clock : Moment)
    (htype : x.prices.roomTypes.find roomTypeId = some roomType) :
    (∃ res, RestrictionsService.check x
        ⟨some planId, roomTypeId, startOf checkIn, startOf checkOut, none⟩ clock = .ok res ∧
      ∀ v ∈ res.violations, v.code.IsAdvance) ↔
        ¬(utcDay checkIn < utcDay checkOut ∧
          RulesRefuse x.restrictions roomTypeId planId (utcDay checkIn) (utcDay checkOut)) := by
  simp only [RestrictionsService.check, RestrictionsService.startOfUTC, dateOf_startOf, htype]
  by_cases hlt : utcDay checkIn < utcDay checkOut
  · rw [if_neg (not_le.mpr hlt), and_iff_right hlt,
      ← RestrictionsService.violations_iff (not_early_utcDay checkIn) hlt
        (utcDay (dateOf (Option.getD none clock)))]
    constructor
    · rintro ⟨res, hres, hv⟩
      cases hres
      exact hv
    · intro hv
      exact ⟨_, rfl, hv⟩
  · rw [if_pos (not_lt.mp hlt)]
    exact iff_of_true ⟨_, rfl, fun v hv => absurd hv List.not_mem_nil⟩ fun h => hlt h.1

end Agree

/-- One room of one type; day 0 is closed to stays of one night and, by plan 1, of two; sales stop
on day 2, and departures by plan 1 on day 5. -/
def TenantStore.restricted : TenantStore where
  hotel := .oneRoom false
  prices := ⟨Table.empty.insert ⟨1, 2, 2, true⟩, .empty, .empty, [], .empty⟩
  inventory := .empty
  restrictions :=
    [⟨none, 1, 0, false, false, false, false, some 2, none, none, none, none, none⟩,
     ⟨some 1, 1, 0, false, false, false, false, some 3, none, none, none, none, none⟩,
     ⟨none, 1, 2, false, false, false, true, none, none, none, none, none, none⟩,
     ⟨some 1, 1, 5, false, false, true, false, none, none, none, none, none, none⟩]

end KarsHotel
