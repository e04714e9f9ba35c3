import KarsHotel.Inventory.Occupancy
import KarsHotel.Lib.EntryMap
import KarsHotel.Lib.Run
import KarsHotel.Pricing.OnePrice
import KarsHotel.Rates.Service

/-!
# The caches of availability and prices

Answers of `check` and `priceByPlan` are kept for a minute, and writers drop some of them.

* `CachedStore`: the tables and the two kinds of cached answers;
* `dropPriceCache`, `invalidateCache`: what a writer drops;
* `CacheOp.step`: the writers of prices, plans, room types, rooms, inventory and restrictions, and
  the two reads, one at a time;
* **`priceByPlan_transparent`**: cached prices are those of the current tables;
* **`check_recent`**: a cached availability is that of some moment of the last minute;
* **`caches_run`**: both, after any sequence.

A key is the text `avail:(tenant):(type):(in):(out)`, with a plan `:(plan)` after it, or for prices
`:plans:g(guests)`. Ids stand in it as the call spells them. Ids and days hold no colon, so
different keys have different texts, `avail:(tenant):*:plans:*` matches the prices and
`avail:(tenant):(type):*` all of a type in that spelling.
-/

namespace KarsHotel

open AvailabilityService (AvailabilityResult RatePlanPrice)

/-- The ids are the texts of the call. -/
structure CheckKey where
  roomTypeId : IdText
  checkIn : Day
  checkOut : Day
  ratePlanId : Option IdText
  deriving DecidableEq, Repr

/-- `guests` is 0 where the number is not given; the price of the category is not in the key. -/
structure PlansKey where
  roomTypeId : IdText
  checkIn : Day
  checkOut : Day
  guests : ℕ
  deriving DecidableEq, Repr

/-- A cached answer and when it goes. -/
structure Cached (α : Type) where
  value : α
  expires : Moment

structure CachedStore where
  store : TenantStore
  checks : EntryMap CheckKey (Cached AvailabilityResult)
  plans : EntryMap PlansKey (Cached (List RatePlanPrice))

namespace CachedStore

/-- A store nothing of which is cached. -/
def cold (x : TenantStore) : CachedStore := ⟨x, .empty, .empty⟩

/-- `CACHE_TTL_SECONDS`, in milliseconds. -/
def lifetime : ℤ := 60000

/-- `GET` of a key: what was put there and has not gone. -/
def live {κ α : Type} [DecidableEq κ] (m : EntryMap κ (Cached α)) (k : κ) (now : Moment) :
    Option α :=
  (m.get k).bind fun c => if now < c.expires then some c.value else none

/-! ## Reads -/

/-- `check`. -/
def check (c : CachedStore) (key : CheckKey) (now : Moment) : AvailabilityResult × CachedStore :=
  match live c.checks key now with
  | some cached => (cached, c)
  | none =>
    let result :=
      AvailabilityService.checkText c.store key.roomTypeId key.checkIn key.checkOut
        (key.ratePlanId.map (·.id))
    (result, { c with checks := c.checks.set key ⟨result, now + lifetime⟩ })

/-- `priceByPlan`. -/
def priceByPlan (c : CachedStore) (roomTypeId : IdText) (checkIn checkOut : Day)
    (basePrice : Option Price) (guests : Option ℕ) (now : Moment) :
    List RatePlanPrice × CachedStore :=
  let key : PlansKey := ⟨roomTypeId, checkIn, checkOut, guests.getD 0⟩
  match live c.plans key now with
  | some cached => (cached, c)
  | none =>
    let result :=
      AvailabilityService.priceByPlanText c.store roomTypeId checkIn checkOut basePrice guests
    (result, { c with plans := c.plans.set key ⟨result, now + lifetime⟩ })

/-! ## Writes -/

def dropPriceCache (c : CachedStore) : CachedStore := { c with plans := .empty }

/-- Drop all answers under a text of a room type, if any day of it was written. -/
def invalidateCache (c : CachedStore) (roomTypeId : IdText) (dates : List Day) : CachedStore :=
  if dates = [] then c
  else { c with
    checks := c.checks.remove fun e => e.1.roomTypeId = roomTypeId
    plans := c.plans.remove fun e => e.1.roomTypeId = roomTypeId }

/-- `ON DELETE CASCADE`: the prices and restrictions of a deleted plan go with it. -/
def removePlanRows (x : TenantStore) (id : RatePlanId) : TenantStore :=
  { x with
    prices := { x.prices with
      rates := x.prices.rates.remove fun r => r.ratePlanId = id
      seasons := x.prices.seasons.filter fun s => !decide (s.ratePlanId = id)
      standardRates := x.prices.standardRates.remove fun r => r.ratePlanId = id }
    restrictions := x.restrictions.filter fun r => !decide (r.ratePlanId = some id) }

/-- The tables a change of plans leaves. -/
def withPlans (x : TenantStore) (op : RatePlanOp) (plans : Table RatePlan.id) : TenantStore :=
  let y := { x with prices := { x.prices with ratePlans := plans } }
  match op with
  | .remove id => removePlanRows y id
  | _ => y

theorem plans_withPlans (x : TenantStore) (op : RatePlanOp) (plans : Table RatePlan.id) :
    (withPlans x op plans).prices.ratePlans = plans := by
  cases op <;> rfl

/-- The tables a partner's verdict on a plan leaves. -/
def withVerdict (x : TenantStore) (id : RatePlanId) (verdict : OperatorReviewVerdict)
    (reviewedBy fingerprint : String) : TenantStore :=
  let plans := x.prices.ratePlans.modify id
    (RatePlansService.withReview verdict reviewedBy fingerprint)
  { x with prices := { x.prices with ratePlans := plans } }

end CachedStore

/-- A write or a read. Of room types, rooms and restrictions `rows` is whatever their services
leave: none of them knows the cache. -/
inductive CacheOp where
  | prices (op : RatesOp)
  | ratePlan (op : RatePlanOp)
  | review (id : RatePlanId) (verdict : OperatorReviewVerdict) (reviewedBy fingerprint : String)
  | roomTypes (rows : Table RoomType.id)
  | rooms (rows : Table Room.id)
  | restrictions (rows : List Restriction)
  | inventory (roomTypeId : IdText) (rows : List InventoryService.BulkUpdateRow)
  | check (key : CheckKey) (now : Moment)
  | priceByPlan (roomTypeId : IdText) (checkIn checkOut : Day) (basePrice : Option Price)
    (guests : Option ℕ) (now : Moment)

namespace CacheOp

variable (own : DirectoryOwners) (elsewhere : OtherHotels)

open CachedStore in
/-- The tables and the cache after one operation; a refused write leaves both as they were. -/
def step (c : CachedStore) : CacheOp → CachedStore
  | prices op => match op.exec elsewhere c.store.prices with
    | .error _ => c
    | .ok b => dropPriceCache { c with store := { c.store with prices := b } }
  | ratePlan op => match op.exec own elsewhere.ratePlans c.store.prices.ratePlans with
    | .error _ => c
    | .ok plans => dropPriceCache { c with store := withPlans c.store op plans }
  | review id verdict reviewedBy fingerprint =>
    { c with store := withVerdict c.store id verdict reviewedBy fingerprint }
  | roomTypes rows =>
    { c with store := { c.store with prices := { c.store.prices with roomTypes := rows } } }
  | rooms rows => { c with store := { c.store with hotel := { c.store.hotel with rooms := rows } } }
  | restrictions rows => { c with store := { c.store with restrictions := rows } }
  | inventory roomTypeId rows => match InventoryService.bulkUpdate roomTypeId.id rows c.store with
    | .error _ => c
    | .ok (_, x) =>
      invalidateCache { c with store := x } roomTypeId (rows.map InventoryService.BulkUpdateRow.day)
  | check key now => (c.check key now).2
  | priceByPlan roomTypeId checkIn checkOut basePrice guests now =>
    (c.priceByPlan roomTypeId checkIn checkOut basePrice guests now).2

/-- A sequence of operations. -/
def run (c : CachedStore) (ops : List CacheOp) : CachedStore := ops.foldl (step own elsewhere) c

end CacheOp

/-! ## What prices depend on -/

section Offers

open AvailabilityService

variable {x y : TenantStore} (roomTypeId : IdText) (checkIn checkOut : Day)
  (basePrice : Option Price) (guests : Option ℕ)

/-- The tables a price is read from, but for the plans. -/
structure SameRows (x y : TenantStore) : Prop where
  rates : x.prices.rates = y.prices.rates
  seasons : x.prices.seasons = y.prices.seasons
  standardRates : x.prices.standardRates = y.prices.standardRates

theorem planPriceText_congr (h : SameRows x y) (plan : RatePlan) :
    planPriceText x roomTypeId checkIn checkOut basePrice guests plan =
      planPriceText y roomTypeId checkIn checkOut basePrice guests plan := by
  have hdaily : dailyRows x roomTypeId.id checkIn checkOut none =
      dailyRows y roomTypeId.id checkIn checkOut none := by
    unfold dailyRows
    rw [h.rates]
  have hbase : baseline x roomTypeId.id checkIn checkOut none =
      baseline y roomTypeId.id checkIn checkOut none := by
    unfold baseline AvailabilityService.seasonRows standardRows
    rw [h.seasons, h.standardRates]
  have hnight : nightPriceText x roomTypeId checkIn checkOut basePrice guests plan =
      nightPriceText y roomTypeId checkIn checkOut basePrice guests plan := by
    funext day
    unfold nightPriceText dailyFor dailyOf
    rw [hdaily, hbase]
  unfold planPriceText
  rw [hnight]

/-- The price of a stay depends on the plans and the price rows alone. -/
theorem priceByPlanText_congr (hplans : x.prices.ratePlans = y.prices.ratePlans) (h : SameRows x y) :
    AvailabilityService.priceByPlanText x roomTypeId checkIn checkOut basePrice guests =
      AvailabilityService.priceByPlanText y roomTypeId checkIn checkOut basePrice guests := by
  have hactive : activePlans x = activePlans y := by
    unfold activePlans
    rw [hplans]
  unfold AvailabilityService.priceByPlanText
  rw [hactive, funext (planPriceText_congr roomTypeId checkIn checkOut basePrice guests h)]

/-- A partner's verdict on a plan changes no price. -/
theorem priceByPlanText_review (id : RatePlanId) (verdict : OperatorReviewVerdict)
    (reviewedBy fingerprint : String) :
    AvailabilityService.priceByPlanText (CachedStore.withVerdict x id verdict reviewedBy fingerprint)
        roomTypeId checkIn checkOut basePrice guests =
      AvailabilityService.priceByPlanText x roomTypeId checkIn checkOut basePrice guests := by
  let review : RatePlan → RatePlan := fun p =>
    if p.id = id then RatePlansService.withReview verdict reviewedBy fingerprint p else p
  have hplan : ∀ p, planPriceText x roomTypeId checkIn checkOut basePrice guests (review p) =
      planPriceText x roomTypeId checkIn checkOut basePrice guests p := by
    intro p
    by_cases hp : p.id = id
    · simp only [review, if_pos hp]
      rfl
    · simp only [review, if_neg hp]
  have hbefore : ∀ a b, planBefore a b ↔ planBefore (review a) (review b) := by
    have hfields : ∀ p, (review p).sortOrder = p.sortOrder ∧ (review p).name = p.name := by
      intro p
      by_cases hp : p.id = id
      · simp only [review, if_pos hp]
        exact ⟨rfl, rfl⟩
      · simp only [review, if_neg hp, and_self]
    intro a b
    unfold planBefore
    rw [(hfields a).1, (hfields a).2, (hfields b).1, (hfields b).2]
  have hactive : activePlans (CachedStore.withVerdict x id verdict reviewedBy fingerprint) =
      (activePlans x).map review := by
    unfold activePlans
    rw [List.map_insertionSort planBefore planBefore review _ fun a _ b _ => hbefore a b]
    congr 1
    exact @Table.select_modify _ _ _ _ x.prices.ratePlans id
      (RatePlansService.withReview verdict reviewedBy fingerprint) (fun _ => rfl) _ fun p _ _ => rfl
  unfold AvailabilityService.priceByPlanText
  rw [hactive, List.filterMap_map]
  congr 1
  refine List.filterMap_congr fun p _ => ?_
  exact (planPriceText_congr roomTypeId checkIn checkOut basePrice guests ⟨rfl, rfl, rfl⟩ _).trans
    (hplan p)

theorem priceByPlanText_getD :
    AvailabilityService.priceByPlanText x roomTypeId checkIn checkOut basePrice guests =
      AvailabilityService.priceByPlanText x roomTypeId checkIn checkOut basePrice
        (some (guests.getD 0)) := by
  cases guests <;> rfl

end Offers

/-! ## Cached prices -/

section Plans

variable {own : DirectoryOwners} {elsewhere : OtherHotels}

/-- Every cached price list is that of the current tables, for a base price asked with its key. -/
def PlansCurrent (ops : List CacheOp) (c : CachedStore) : Prop :=
  ∀ key e, c.plans.get key = some e → ∃ basePrice guests now,
    CacheOp.priceByPlan key.roomTypeId key.checkIn key.checkOut basePrice guests now ∈ ops ∧
      guests.getD 0 = key.guests ∧
      e.value = AvailabilityService.priceByPlanText c.store key.roomTypeId key.checkIn key.checkOut
        basePrice (some key.guests)

theorem PlansCurrent.mono {ops : List CacheOp} {c c' : CachedStore} (h : PlansCurrent ops c)
    (hsub : ∀ key e, c'.plans.get key = some e → c.plans.get key = some e)
    (hprice : ∀ t ci co b g, AvailabilityService.priceByPlanText c'.store t ci co b g =
      AvailabilityService.priceByPlanText c.store t ci co b g) (op : CacheOp) :
    PlansCurrent (ops ++ [op]) c' := by
  intro key e he
  obtain ⟨basePrice, guests, now, hmem, hguests, hvalue⟩ := h key e (hsub key e he)
  exact ⟨basePrice, guests, now, List.mem_append_left _ hmem, hguests, by rw [hprice, hvalue]⟩

theorem plansCurrent_empty (ops : List CacheOp) (c : CachedStore) (h : c.plans = .empty) :
    PlansCurrent ops c := by
  intro key e he
  rw [h] at he
  cases he

theorem get_remove {κ α : Type} [DecidableEq κ] {m : EntryMap κ α} {p : κ × α → Bool} {k : κ} {a : α}
    (h : EntryMap.get (m.remove p) k = some a) : m.get k = some a := by
  have hmem : (k, a) ∈ m.remove p := EntryMap.mem_rows.mpr h
  exact EntryMap.mem_rows.mp (Table.mem_remove.mp hmem).1

/-- **One operation.** -/
theorem PlansCurrent.step {ops : List CacheOp} {c : CachedStore} (h : PlansCurrent ops c)
    (op : CacheOp) : PlansCurrent (ops ++ [op]) (op.step own elsewhere c) := by
  cases op with
  | prices op =>
    simp only [CacheOp.step]
    cases op.exec elsewhere c.store.prices with
    | error x => exact h.mono (fun _ _ he => he) (fun _ _ _ _ _ => rfl) _
    | ok b => exact plansCurrent_empty _ _ rfl
  | ratePlan op =>
    simp only [CacheOp.step]
    cases op.exec own elsewhere.ratePlans c.store.prices.ratePlans with
    | error x => exact h.mono (fun _ _ he => he) (fun _ _ _ _ _ => rfl) _
    | ok plans => exact plansCurrent_empty _ _ rfl
  | review id verdict reviewedBy fingerprint =>
    simp only [CacheOp.step]
    refine h.mono ?_ (fun t ci co b g => ?_) _
    · exact fun _ _ he => he
    · exact priceByPlanText_review t ci co b g id verdict reviewedBy fingerprint
  | roomTypes rows | rooms rows | restrictions rows =>
    simp only [CacheOp.step]
    refine h.mono ?_ (fun t ci co b g => ?_) _
    · exact fun _ _ he => he
    · exact priceByPlanText_congr t ci co b g rfl ⟨rfl, rfl, rfl⟩
  | inventory roomTypeId rows =>
    simp only [CacheOp.step, InventoryService.bulkUpdate]
    cases c.store.prices.roomTypes.find roomTypeId.id with
    | none => exact h.mono (fun _ _ he => he) (fun _ _ _ _ _ => rfl) _
    | some roomType =>
      by_cases hdates : rows.map InventoryService.BulkUpdateRow.day = []
      · simp only [CachedStore.invalidateCache, if_pos hdates]
        exact h.mono (fun _ _ he => he)
          (fun t ci co b g => priceByPlanText_congr t ci co b g rfl ⟨rfl, rfl, rfl⟩) _
      · simp only [CachedStore.invalidateCache, if_neg hdates]
        refine h.mono ?_ ?_ _
        · exact fun _ _ he => get_remove he
        · exact fun t ci co b g => priceByPlanText_congr t ci co b g rfl ⟨rfl, rfl, rfl⟩
  | check key now =>
    simp only [CacheOp.step, CachedStore.check]
    cases CachedStore.live c.checks key now with
    | some cached => exact h.mono (fun _ _ he => he) (fun _ _ _ _ _ => rfl) _
    | none => exact h.mono (fun _ _ he => he) (fun _ _ _ _ _ => rfl) _
  | priceByPlan roomTypeId checkIn checkOut basePrice guests now =>
    simp only [CacheOp.step, CachedStore.priceByPlan]
    cases CachedStore.live c.plans ⟨roomTypeId, checkIn, checkOut, guests.getD 0⟩ now with
    | some cached => exact h.mono (fun _ _ he => he) (fun _ _ _ _ _ => rfl) _
    | none =>
      intro key e he
      by_cases hkey : key = ⟨roomTypeId, checkIn, checkOut, guests.getD 0⟩
      · subst hkey
        rw [EntryMap.get_set_self] at he
        obtain rfl := Option.some.inj he
        refine ⟨basePrice, guests, now, List.mem_append_right _ List.mem_cons_self, rfl, ?_⟩
        exact priceByPlanText_getD roomTypeId checkIn checkOut basePrice guests
      · rw [EntryMap.get_set_of_ne _ _ hkey] at he
        obtain ⟨b, g, t, hmem, hguests, hvalue⟩ := h key e he
        exact ⟨b, g, t, List.mem_append_left _ hmem, hguests, hvalue⟩

theorem plansCurrent_run (x : TenantStore) (ops : List CacheOp) :
    PlansCurrent ops (CacheOp.run own elsewhere (.cold x) ops) := by
  induction ops using List.reverseRecOn with
  | nil => exact plansCurrent_empty _ _ rfl
  | append_singleton ops op ih =>
    have hrun : CacheOp.run own elsewhere (.cold x) (ops ++ [op]) =
        op.step own elsewhere (CacheOp.run own elsewhere (.cold x) ops) := by
      simp [CacheOp.run, List.foldl_append]
    rw [hrun]
    exact ih.step op

/-- **Cached prices are those of the current tables**, where all calls for the stay and the number
of guests have named one base price. -/
theorem priceByPlan_transparent (x : TenantStore) (ops : List CacheOp) {roomTypeId : IdText}
    {checkIn checkOut : Day} {basePrice : Option Price} {guests : Option ℕ} (now : Moment)
    (hbase : ∀ basePrice' guests' now',
      CacheOp.priceByPlan roomTypeId checkIn checkOut basePrice' guests' now' ∈ ops →
        guests'.getD 0 = guests.getD 0 → basePrice' = basePrice) :
    ((CacheOp.run own elsewhere (.cold x) ops).priceByPlan roomTypeId checkIn checkOut basePrice
      guests now).1 =
      AvailabilityService.priceByPlanText (CacheOp.run own elsewhere (.cold x) ops).store roomTypeId
        checkIn checkOut basePrice guests := by
  unfold CachedStore.priceByPlan
  simp only
  cases hlive : CachedStore.live (CacheOp.run own elsewhere (.cold x) ops).plans
      ⟨roomTypeId, checkIn, checkOut, guests.getD 0⟩ now with
  | none => rfl
  | some cached =>
    obtain ⟨e, he, hcached⟩ := Option.bind_eq_some_iff.mp hlive
    split_ifs at hcached
    obtain ⟨b, g, t, hmem, hguests, hvalue⟩ := plansCurrent_run x ops _ e he
    have hb : b = basePrice := hbase b g t hmem hguests
    rw [← Option.some.inj hcached, hvalue, hb]
    exact (priceByPlanText_getD roomTypeId checkIn checkOut basePrice guests).symm

end Plans

/-! ## Cached availability -/

section Checks

variable {own : DirectoryOwners} {elsewhere : OtherHotels}

/-- The operation drops the answers under a text of a room type: an inventory update that writes
days of it and is sent the same text. -/
def CacheOp.Drops (x : TenantStore) (roomTypeId : IdText) : CacheOp → Prop
  | inventory t rows => t = roomTypeId ∧ rows ≠ [] ∧ (x.prices.roomTypes.find t.id).isSome
  | _ => False

/-- From some state on, no operation of the sequence drops the answers under a text of a
room type. -/
def KeptSince (own : DirectoryOwners) (elsewhere : OtherHotels) (roomTypeId : IdText)
    (c : CachedStore) (ops : List CacheOp) : Prop :=
  StepsMeet (CacheOp.step own elsewhere) (fun c op => ¬ op.Drops c.store roomTypeId) c ops

/-- The answer was computed by an earlier call, at `now`, and not dropped since. -/
structure ComputedAt (own : DirectoryOwners) (elsewhere : OtherHotels) (x : TenantStore)
    (ops : List CacheOp) (key : CheckKey) (now : Moment) (answer : AvailabilityResult)
    (before after : List CacheOp) : Prop where
  split : ops = before ++ .check key now :: after
  value : answer = AvailabilityService.checkText (CacheOp.run own elsewhere (.cold x) before).store
    key.roomTypeId key.checkIn key.checkOut (key.ratePlanId.map (·.id))
  kept : KeptSince own elsewhere key.roomTypeId
    (CacheOp.run own elsewhere (.cold x) (before ++ [.check key now])) after

/-- Every cached availability was computed by a call of the sequence and not dropped since. -/
def ChecksComputed (own : DirectoryOwners) (elsewhere : OtherHotels) (x : TenantStore)
    (ops : List CacheOp) : Prop :=
  ∀ key e, (CacheOp.run own elsewhere (.cold x) ops).checks.get key = some e →
    ∃ now before after, e.expires = now + CachedStore.lifetime ∧
      ComputedAt own elsewhere x ops key now e.value before after

theorem run_append_singleton (x : TenantStore) (ops : List CacheOp) (op : CacheOp) :
    CacheOp.run own elsewhere (.cold x) (ops ++ [op]) =
      op.step own elsewhere (CacheOp.run own elsewhere (.cold x) ops) := by
  simp [CacheOp.run, List.foldl_append]

/-- An answer that was there before is still one of an earlier call, unless it was dropped. -/
theorem ComputedAt.append {x : TenantStore} {ops : List CacheOp} {key : CheckKey} {now : Moment}
    {answer : AvailabilityResult} {before after : List CacheOp}
    (h : ComputedAt own elsewhere x ops key now answer before after) {op : CacheOp}
    (hop : ¬ op.Drops (CacheOp.run own elsewhere (.cold x) ops).store key.roomTypeId) :
    ComputedAt own elsewhere x (ops ++ [op]) key now answer before (after ++ [op]) := by
  refine ⟨by rw [h.split]; simp, h.value, stepsMeet_append_singleton.mpr ⟨h.kept, ?_⟩⟩
  have hstate : after.foldl (CacheOp.step own elsewhere)
      (CacheOp.run own elsewhere (.cold x) (before ++ [.check key now])) =
        CacheOp.run own elsewhere (.cold x) ops := by
    rw [h.split]
    simp [CacheOp.run, List.foldl_append]
  rw [hstate]
  exact hop

/-- What one operation leaves cached was cached before and not dropped, or is what a call of it has
just computed. -/
theorem checks_step {c : CachedStore} {op : CacheOp} {key : CheckKey} {e : Cached AvailabilityResult}
    (h : (op.step own elsewhere c).checks.get key = some e) :
    (c.checks.get key = some e ∧ ¬ op.Drops c.store key.roomTypeId) ∨
      ∃ now, op = .check key now ∧ e = ⟨AvailabilityService.checkText c.store key.roomTypeId
        key.checkIn key.checkOut (key.ratePlanId.map (·.id)), now + CachedStore.lifetime⟩ := by
  cases op with
  | prices op =>
    simp only [CacheOp.step] at h
    refine Or.inl ⟨?_, fun hdrop => hdrop⟩
    cases hexec : op.exec elsewhere c.store.prices with
    | error x => rw [hexec] at h; exact h
    | ok b => rw [hexec] at h; exact h
  | ratePlan op =>
    simp only [CacheOp.step] at h
    refine Or.inl ⟨?_, fun hdrop => hdrop⟩
    cases hexec : op.exec own elsewhere.ratePlans c.store.prices.ratePlans with
    | error x => rw [hexec] at h; exact h
    | ok b => rw [hexec] at h; exact h
  | review id verdict reviewedBy fingerprint => exact Or.inl ⟨h, fun hdrop => hdrop⟩
  | roomTypes rows | rooms rows | restrictions rows => exact Or.inl ⟨h, fun hdrop => hdrop⟩
  | inventory roomTypeId rows =>
    simp only [CacheOp.step, InventoryService.bulkUpdate] at h
    cases hfind : c.store.prices.roomTypes.find roomTypeId.id with
    | none =>
      rw [hfind] at h
      refine Or.inl ⟨h, fun hdrop => ?_⟩
      have hsome := hdrop.2.2
      rw [hfind] at hsome
      cases hsome
    | some roomType =>
      rw [hfind] at h
      simp only [CachedStore.invalidateCache] at h
      by_cases hrows : rows = []
      · rw [if_pos (by rw [hrows]; rfl)] at h
        exact Or.inl ⟨h, fun hdrop => hdrop.2.1 hrows⟩
      · rw [if_neg fun hnil => hrows (List.map_eq_nil_iff.mp hnil)] at h
        refine Or.inl ⟨get_remove h, fun hdrop => ?_⟩
        have hmem : (key, e) ∈ c.checks.remove fun e => e.1.roomTypeId = roomTypeId :=
          EntryMap.mem_rows.mpr h
        have hne := (Table.mem_remove.mp hmem).2
        simp [hdrop.1] at hne
  | check key' now =>
    simp only [CacheOp.step, CachedStore.check] at h
    cases hlive : CachedStore.live c.checks key' now with
    | some cached =>
      rw [hlive] at h
      exact Or.inl ⟨h, fun hdrop => hdrop⟩
    | none =>
      rw [hlive] at h
      by_cases hkey : key = key'
      · subst hkey
        refine Or.inr ⟨now, rfl, ?_⟩
        exact (Option.some.inj ((EntryMap.get_set_self c.checks key _).symm.trans h)).symm
      · refine Or.inl ⟨?_, fun hdrop => hdrop⟩
        exact (EntryMap.get_set_of_ne c.checks _ hkey).symm.trans h
  | priceByPlan roomTypeId checkIn checkOut basePrice guests now =>
    refine Or.inl ⟨?_, fun hdrop => hdrop⟩
    simp only [CacheOp.step, CachedStore.priceByPlan] at h
    cases hlive : CachedStore.live c.plans ⟨roomTypeId, checkIn, checkOut, guests.getD 0⟩ now with
    | some cached => rw [hlive] at h; exact h
    | none => rw [hlive] at h; exact h

theorem checksComputed_run (x : TenantStore) (ops : List CacheOp) :
    ChecksComputed own elsewhere x ops := by
  induction ops using List.reverseRecOn with
  | nil =>
    intro key e he
    cases he
  | append_singleton ops op ih =>
    intro key e he
    rw [run_append_singleton] at he
    rcases checks_step he with ⟨hold, hdrops⟩ | ⟨now, rfl, rfl⟩
    · obtain ⟨now, before, after, hexpires, hcomputed⟩ := ih key e hold
      exact ⟨now, before, after ++ [op], hexpires, hcomputed.append hdrops⟩
    · exact ⟨now, ops, [], rfl, ⟨rfl, rfl, trivial⟩⟩

/-- The answer of the current tables, or one computed less than a minute ago, after which the
inventory of the room type was not updated under the same text. -/
def RecentAnswer (own : DirectoryOwners) (elsewhere : OtherHotels) (x : TenantStore)
    (ops : List CacheOp) (key : CheckKey) (now : Moment) (answer : AvailabilityResult) : Prop :=
  answer = AvailabilityService.checkText (CacheOp.run own elsewhere (.cold x) ops).store
      key.roomTypeId key.checkIn key.checkOut (key.ratePlanId.map (·.id)) ∨
    ∃ asked before after, now < asked + CachedStore.lifetime ∧
      ComputedAt own elsewhere x ops key asked answer before after

/-- **A cached availability is that of some moment of the last minute.** -/
theorem check_recent (x : TenantStore) (ops : List CacheOp) (key : CheckKey) (now : Moment) :
    RecentAnswer own elsewhere x ops key now
      ((CacheOp.run own elsewhere (.cold x) ops).check key now).1 := by
  unfold CachedStore.check
  cases hlive : CachedStore.live (CacheOp.run own elsewhere (.cold x) ops).checks key now with
  | none => exact Or.inl rfl
  | some cached =>
    obtain ⟨e, he, hcached⟩ := Option.bind_eq_some_iff.mp hlive
    split_ifs at hcached with hnow
    obtain ⟨asked, before, after, hexpires, hcomputed⟩ := checksComputed_run x ops key e he
    rw [← Option.some.inj hcached]
    exact Or.inr ⟨asked, before, after, hexpires ▸ hnow, hcomputed⟩

end Checks

/-! ## Transparency -/

/-- **The price cache is transparent, the availability cache a minute old at most**: after any
sequence of writes and reads. -/
theorem caches_run (own : DirectoryOwners) (elsewhere : OtherHotels) (x : TenantStore)
    (ops : List CacheOp) :
    (∀ roomTypeId checkIn checkOut basePrice guests now,
      (∀ basePrice' guests' now',
        CacheOp.priceByPlan roomTypeId checkIn checkOut basePrice' guests' now' ∈ ops →
          guests'.getD 0 = guests.getD 0 → basePrice' = basePrice) →
      ((CacheOp.run own elsewhere (.cold x) ops).priceByPlan roomTypeId checkIn checkOut basePrice
          guests now).1 =
        AvailabilityService.priceByPlanText (CacheOp.run own elsewhere (.cold x) ops).store roomTypeId
          checkIn checkOut basePrice guests) ∧
      ∀ key now, RecentAnswer own elsewhere x ops key now
        ((CacheOp.run own elsewhere (.cold x) ops).check key now).1 :=
  ⟨fun _ _ _ _ _ now hbase => priceByPlan_transparent x ops now hbase, check_recent x ops⟩

/-- Prices asked with one base price, a new standard price of the type, prices asked again and
cached, a change of restrictions. -/
def cacheOps : List CacheOp :=
  [.priceByPlan (.ofId 1) 4 5 (some 500000) none 0,
    .prices (.setStandard ⟨1, none, [⟨1, 450000, none⟩]⟩),
    .priceByPlan (.ofId 1) 4 5 (some 500000) none 500, .restrictions []]

/-- The prices asked for a third time, now from the cache, are those of the new standard price. -/
theorem caches_run_twoPlans :
    ((CacheOp.run ⟨fun _ => 0, fun _ => 0⟩ ⟨fun _ => false, fun _ => false⟩ (.cold .twoPlans)
        cacheOps).priceByPlan (.ofId 1) 4 5 (some 500000) none 1000).1 =
      AvailabilityService.priceByPlanText (CacheOp.run ⟨fun _ => 0, fun _ => 0⟩
        ⟨fun _ => false, fun _ => false⟩ (.cold .twoPlans) cacheOps).store (.ofId 1) 4 5 (some 500000)
          none :=
  (caches_run _ _ _ _).1 (.ofId 1) 4 5 (some 500000) none 1000
    fun basePrice' guests' now' hmem _ => by
      simp only [cacheOps, List.mem_cons, CacheOp.priceByPlan.injEq, List.not_mem_nil, or_false,
        reduceCtorEq, false_or] at hmem
      rcases hmem with h | h <;> exact h.2.2.2.1

/-- A rule that closes the night of the only room. -/
def Restriction.closedNight : Restriction :=
  ⟨none, 1, 0, true, false, false, false, none, none, none, none, none, none⟩

/-- **A closed night is still offered for a minute.** -/
theorem not_caches_run : ¬ ∀ (own : DirectoryOwners) (elsewhere : OtherHotels) (x : TenantStore)
    (ops : List CacheOp),
    (∀ roomTypeId checkIn checkOut basePrice guests now,
      ((CacheOp.run own elsewhere (.cold x) ops).priceByPlan roomTypeId checkIn checkOut basePrice
          guests now).1 =
        AvailabilityService.priceByPlanText (CacheOp.run own elsewhere (.cold x) ops).store roomTypeId
          checkIn checkOut basePrice guests) ∧
      ∀ (key : CheckKey) now, ((CacheOp.run own elsewhere (.cold x) ops).check key now).1 =
        AvailabilityService.checkText (CacheOp.run own elsewhere (.cold x) ops).store key.roomTypeId
          key.checkIn key.checkOut (key.ratePlanId.map (·.id)) := by
  intro h
  have hcheck := (h ⟨fun _ => 0, fun _ => 0⟩ ⟨fun _ => false, fun _ => false⟩ .oneRoom
    [.check ⟨.ofId 1, 0, 1, none⟩ 0, .restrictions [.closedNight]]).2 ⟨.ofId 1, 0, 1, none⟩ 1000
  have hbookable := congrArg AvailabilityResult.bookable hcheck
  revert hbookable
  decide +kernel

end KarsHotel
