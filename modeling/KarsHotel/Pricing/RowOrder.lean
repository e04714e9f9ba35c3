import KarsHotel.Pricing.RateResolution

/-!
# The baseline price and the order of the rows

The rule for a price names the rows by what they say, and `resolve` takes the first of them. A query
without an ordering may return rows that are tied in any order.

* `ForGuests`, `TopSeason`, `RulePrice`: the prices the rule allows, without an order of rows;
* `rulePrice_resolve`: `resolve` returns one of them; `exists_perm_resolve`: and any of them, for
  some order of the rows;
* **`orderFree_iff`**: the price does not depend on the order exactly when the rule
  allows one price.
-/

namespace KarsHotel

/-! ## The row for a number of guests -/

section Guests

variable {T : Type} [HasOccupancy T]

/-- Of the rows with `P`: one for exactly so many guests, else for any number; where the number is
not known, for any number, else for the fewest. -/
def ForGuests (P : T → Prop) (guests : Option ℕ) (r : T) : Prop :=
  P r ∧ match guests with
    | some (n + 1) => HasOccupancy.occupancy r = n + 1 ∨
        HasOccupancy.occupancy r = 0 ∧ ∀ s, P s → HasOccupancy.occupancy s ≠ n + 1
    | _ => ∀ s, P s → HasOccupancy.occupancy r ≤ HasOccupancy.occupancy s

theorem ForGuests.congr {P Q : T → Prop} {guests : Option ℕ} {r : T} (h : ∀ s, P s ↔ Q s) :
    ForGuests P guests r ↔ ForGuests Q guests r := by
  have hPQ : P = Q := funext fun s => propext (h s)
  rw [hPQ]

local instance : Std.Total fun a b : T => HasOccupancy.occupancy a ≤ HasOccupancy.occupancy b :=
  ⟨fun a b => le_total (HasOccupancy.occupancy a) (HasOccupancy.occupancy b)⟩

local instance : IsTrans T fun a b => HasOccupancy.occupancy a ≤ HasOccupancy.occupancy b :=
  ⟨fun _ _ _ hab hbc => Nat.le_trans hab hbc⟩

theorem pickByOccupancy_forGuests {rows : List T} {guests : Option ℕ} {r : T}
    (h : pickByOccupancy rows guests = some r) : ForGuests (· ∈ rows) guests r := by
  have hfind : ∀ {n : ℕ} {s : T},
      rows.find? (fun r => decide (HasOccupancy.occupancy r = n)) = some s →
        s ∈ rows ∧ HasOccupancy.occupancy s = n := fun hs =>
    ⟨List.mem_of_find?_eq_some hs, by simpa using List.find?_some hs⟩
  have hnone : ∀ {n : ℕ}, rows.find? (fun r => decide (HasOccupancy.occupancy r = n)) = none →
      ∀ s ∈ rows, HasOccupancy.occupancy s ≠ n := by
    intro n hn s hs
    simpa using List.find?_eq_none.mp hn s hs
  have hunknown : ∀ {s : T}, (rows.find? fun r => decide (HasOccupancy.occupancy r = 0)).or
      (rows.insertionSort fun a b => HasOccupancy.occupancy a ≤ HasOccupancy.occupancy b).head? =
        some s → s ∈ rows ∧ ∀ t ∈ rows, HasOccupancy.occupancy s ≤ HasOccupancy.occupancy t := by
    intro s hs
    rcases Option.or_eq_some_iff.mp hs with hs | ⟨-, hs⟩
    · obtain ⟨hmem, hocc⟩ := hfind hs
      exact ⟨hmem, fun t _ => hocc ▸ Nat.zero_le _⟩
    · have hlead := head?_insertionSort_iff.mp hs
      exact ⟨hlead.mem, fun t ht => hlead.le ht⟩
  unfold pickByOccupancy at h
  match guests with
  | none => exact hunknown h
  | some 0 => exact hunknown h
  | some (n + 1) =>
    rcases Option.or_eq_some_iff.mp h with h | ⟨hn, h⟩
    · obtain ⟨hmem, hocc⟩ := hfind h
      exact ⟨hmem, Or.inl hocc⟩
    · obtain ⟨hmem, hocc⟩ := hfind h
      exact ⟨hmem, Or.inr ⟨hocc, hnone hn⟩⟩

theorem pickByOccupancy_first {rows : List T} {guests : Option ℕ} {r : T}
    (h : ForGuests (· ∈ r :: rows) guests r) : pickByOccupancy (r :: rows) guests = some r := by
  obtain ⟨-, hr⟩ := h
  have hhit : ∀ {n : ℕ}, HasOccupancy.occupancy r = n →
      (r :: rows).find? (fun r => decide (HasOccupancy.occupancy r = n)) = some r := by
    intro n hn
    rw [List.find?_cons_of_pos (by simpa using hn)]
  have hunknown : (∀ s ∈ r :: rows, HasOccupancy.occupancy r ≤ HasOccupancy.occupancy s) →
      ((r :: rows).find? fun r => decide (HasOccupancy.occupancy r = 0)).or
        ((r :: rows).insertionSort fun a b =>
          HasOccupancy.occupancy a ≤ HasOccupancy.occupancy b).head? = some r := by
    intro hle
    by_cases hzero : HasOccupancy.occupancy r = 0
    · rw [hhit hzero]
      rfl
    · have hnone : (r :: rows).find? (fun r => decide (HasOccupancy.occupancy r = 0)) = none := by
        rw [List.find?_eq_none]
        intro s hs hocc
        have hocc : HasOccupancy.occupancy s = 0 := by simpa using hocc
        have hrs := hle s hs
        omega
      rw [hnone, Option.none_or]
      exact head?_insertionSort_iff.mpr (leads_head fun s hs => hle s (List.mem_cons_of_mem _ hs))
  unfold pickByOccupancy
  match guests with
  | none => exact hunknown hr
  | some 0 => exact hunknown hr
  | some (n + 1) =>
    rcases hr with hocc | ⟨hzero, hother⟩
    · show ((r :: rows).find? _).or _ = _
      rw [hhit hocc]
      rfl
    · have hnone : (r :: rows).find? (fun r => decide (HasOccupancy.occupancy r = n + 1)) = none := by
        rw [List.find?_eq_none]
        intro s hs hocc
        exact hother s hs (by simpa using hocc)
      show ((r :: rows).find? _).or _ = _
      rw [hnone, Option.none_or, hhit hzero]

/-- No row is taken only of rows none of which may be. -/
theorem pickByOccupancy_eq_none_iff {rows : List T} {guests : Option ℕ} :
    pickByOccupancy rows guests = none ↔ ∀ r, ¬ForGuests (· ∈ rows) guests r := by
  constructor
  · rintro hnone r ⟨hmem, hocc⟩
    have hunknown : ∀ {o : Option T}, o.or (rows.insertionSort fun a b =>
        HasOccupancy.occupancy a ≤ HasOccupancy.occupancy b).head? = none → False := by
      intro o ho
      have hnil := List.head?_eq_none_iff.mp (Option.or_eq_none_iff.mp ho).2
      have hrows := (List.mem_insertionSort
        (fun a b : T => HasOccupancy.occupancy a ≤ HasOccupancy.occupancy b)).mpr hmem
      rw [hnil] at hrows
      cases hrows
    unfold pickByOccupancy at hnone
    match guests with
    | none => exact hunknown hnone
    | some 0 => exact hunknown hnone
    | some (n + 1) =>
      obtain ⟨hexact, hany⟩ := Option.or_eq_none_iff.mp hnone
      rcases hocc with hocc | ⟨hzero, -⟩
      · exact absurd hocc (by simpa using List.find?_eq_none.mp hexact r hmem)
      · exact absurd hzero (by simpa using List.find?_eq_none.mp hany r hmem)
  · intro h
    cases hp : pickByOccupancy rows guests with
    | none => rfl
    | some r => exact absurd (pickByOccupancy_forGuests hp) (h r)

end Guests

/-! ## The prices the rule allows -/

section Rule

variable (b : BaselineResolver) (planId : RatePlanId) (roomTypeId : RoomTypeId) (day : Day)
  (guests : Option ℕ)

/-- A season of the plan and the room type that covers the day. -/
def CoveringSeason (s : RateSeason) : Prop :=
  s ∈ b.seasons ∧ s.ratePlanId = planId ∧ s.roomTypeId = roomTypeId ∧ s.Covers day

/-- Of these, one with the latest start and then the highest sort order. -/
def TopSeason (t : RateSeason) : Prop :=
  CoveringSeason b planId roomTypeId day t ∧
    ∀ s, CoveringSeason b planId roomTypeId day s → t.Before s

def WindowRow (t s : RateSeason) : Prop :=
  CoveringSeason b planId roomTypeId day s ∧ s.SameWindow t

/-- A standard price of the plan and the room type. -/
def StandardRow (s : StandardRate) : Prop :=
  s ∈ b.standards ∧ s.ratePlanId = planId ∧ s.roomTypeId = roomTypeId

def StandardPrice (p : Option Price) : Prop :=
  (∃ r, ForGuests (StandardRow b planId roomTypeId) guests r ∧ p = some r.price) ∨
    (∀ r, ¬ForGuests (StandardRow b planId roomTypeId) guests r) ∧ p = none

/-- The prices the rule allows: of the seasons that cover the day one with the latest start and then
the highest sort order picks the window, and a row of it for the guests has the price; the standard
price is for a window without such a row, and for a day without a season. -/
inductive RulePrice : Option Price → Prop where
  | season (t r : RateSeason) (ht : TopSeason b planId roomTypeId day t)
      (hr : ForGuests (WindowRow b planId roomTypeId day t) guests r) : RulePrice (some r.price)
  | window (t : RateSeason) (p : Option Price) (ht : TopSeason b planId roomTypeId day t)
      (hr : ∀ r, ¬ForGuests (WindowRow b planId roomTypeId day t) guests r)
      (hp : StandardPrice b planId roomTypeId guests p) : RulePrice p
  | standard (p : Option Price) (hs : ∀ s, ¬CoveringSeason b planId roomTypeId day s)
      (hp : StandardPrice b planId roomTypeId guests p) : RulePrice p

/-- The rows of `b`, in another order. -/
def RowsReordered (b' : BaselineResolver) : Prop :=
  b'.seasons.Perm b.seasons ∧ b'.standards.Perm b.standards

/-- The price does not depend on the order of the rows, and is the one of the rule. -/
def OrderFree : Prop :=
  ∃ p, RulePrice b planId roomTypeId day guests p ∧
    ∀ b', RowsReordered b b' → b'.resolve planId roomTypeId day guests = p

/-- Rows that are tied for the rule have one price. -/
def TiesAgree : Prop :=
  ∀ p q, RulePrice b planId roomTypeId day guests p →
    RulePrice b planId roomTypeId day guests q → p = q

end Rule

section Resolve

variable {b b' : BaselineResolver} {planId : RatePlanId} {roomTypeId : RoomTypeId} {day : Day}
  {guests : Option ℕ}

/-- The covering seasons in their order. -/
def covering (b : BaselineResolver) (planId : RatePlanId) (roomTypeId : RoomTypeId) (day : Day) :
    List RateSeason :=
  (b.seasonsByKey planId roomTypeId).filter fun s => decide (s.Covers day)

theorem covering_eq : covering b planId roomTypeId day = (b.seasons.filter fun s =>
    decide (s.Covers day) && decide (s.ratePlanId = planId ∧ s.roomTypeId = roomTypeId)).insertionSort
      RateSeason.Before := BaselineResolver.seasonsByKey_covering _ _ _ _

theorem mem_covering_iff {s : RateSeason} : s ∈ covering b planId roomTypeId day ↔
    CoveringSeason b planId roomTypeId day s := by
  rw [covering_eq, List.mem_insertionSort, List.mem_filter]
  simp only [Bool.and_eq_true, decide_eq_true_eq, CoveringSeason]
  tauto

theorem mem_standardByKey {s : StandardRate} : s ∈ b.standardByKey planId roomTypeId ↔
    StandardRow b planId roomTypeId s := by
  rw [BaselineResolver.standardByKey, List.mem_filter, decide_eq_true_eq]
  rfl

/-- What stands first covers the day and is not behind any. -/
theorem topSeason_head {t : RateSeason} {rest : List RateSeason}
    (h : covering b planId roomTypeId day = t :: rest) : TopSeason b planId roomTypeId day t := by
  refine ⟨mem_covering_iff.mp (h ▸ List.mem_cons_self), fun s hs => ?_⟩
  have hsorted : (t :: rest).Pairwise RateSeason.Before := by
    rw [← h, covering_eq]
    exact List.pairwise_insertionSort _ _
  rcases List.mem_cons.mp (h ▸ mem_covering_iff.mpr hs) with rfl | hs
  · exact Or.inr ⟨rfl, le_refl _⟩
  · exact List.rel_of_pairwise_cons hsorted hs

theorem mem_window {t s : RateSeason} :
    s ∈ (covering b planId roomTypeId day).filter (fun s => decide (s.SameWindow t)) ↔
      WindowRow b planId roomTypeId day t s := by
  rw [List.mem_filter, mem_covering_iff, decide_eq_true_eq]
  rfl

theorem resolve_of_nil (h : covering b planId roomTypeId day = []) :
    b.resolve planId roomTypeId day guests =
      (pickByOccupancy (b.standardByKey planId roomTypeId) guests).map StandardRate.price := by
  unfold covering at h
  unfold BaselineResolver.resolve BaselineResolver.seasonPrice
  rw [h]
  rfl

theorem resolve_of_cons {t : RateSeason} {rest : List RateSeason}
    (h : covering b planId roomTypeId day = t :: rest) :
    b.resolve planId roomTypeId day guests =
      ((pickByOccupancy ((t :: rest).filter fun s : RateSeason => decide (s.SameWindow t))
        guests).map RateSeason.price).or
        ((pickByOccupancy (b.standardByKey planId roomTypeId) guests).map StandardRate.price) := by
  unfold covering at h
  unfold BaselineResolver.resolve BaselineResolver.seasonPrice
  rw [h]

theorem standardPrice_pick : StandardPrice b planId roomTypeId guests
    ((pickByOccupancy (b.standardByKey planId roomTypeId) guests).map StandardRate.price) := by
  cases h : pickByOccupancy (b.standardByKey planId roomTypeId) guests with
  | none =>
    refine Or.inr ⟨fun r hr => ?_, rfl⟩
    exact pickByOccupancy_eq_none_iff.mp h r ((ForGuests.congr fun _ => mem_standardByKey).mpr hr)
  | some r =>
    refine Or.inl ⟨r, ?_, rfl⟩
    exact (ForGuests.congr fun _ => mem_standardByKey).mp (pickByOccupancy_forGuests h)

/-- **What `resolve` returns** is a price the rule allows. -/
theorem rulePrice_resolve : RulePrice b planId roomTypeId day guests
    (b.resolve planId roomTypeId day guests) := by
  cases hc : covering b planId roomTypeId day with
  | nil =>
    rw [resolve_of_nil hc]
    refine .standard _ (fun s hs => ?_) standardPrice_pick
    have hmem := mem_covering_iff.mpr hs
    rw [hc] at hmem
    cases hmem
  | cons t rest =>
    have htop := topSeason_head hc
    have hwindow : ∀ s, s ∈ (t :: rest).filter (fun s : RateSeason => decide (s.SameWindow t)) ↔
        WindowRow b planId roomTypeId day t s := fun s => hc ▸ mem_window
    rw [resolve_of_cons hc]
    cases hp : pickByOccupancy ((t :: rest).filter fun s : RateSeason => decide (s.SameWindow t))
        guests with
    | some r => exact .season t r htop ((ForGuests.congr hwindow).mp (pickByOccupancy_forGuests hp))
    | none =>
      refine .window t _ htop (fun r hr => ?_) standardPrice_pick
      exact pickByOccupancy_eq_none_iff.mp hp r ((ForGuests.congr hwindow).mpr hr)

/-! ## Every order -/

/-- The rule does not look at the order. -/
theorem RulePrice.perm (h : RowsReordered b b') {p : Option Price}
    (hp : RulePrice b' planId roomTypeId day guests p) :
    RulePrice b planId roomTypeId day guests p := by
  have hcovers : CoveringSeason b' planId roomTypeId day = CoveringSeason b planId roomTypeId day := by
    funext s
    rw [CoveringSeason, CoveringSeason, h.1.mem_iff]
  have htop : TopSeason b' planId roomTypeId day = TopSeason b planId roomTypeId day := by
    funext t
    rw [TopSeason, TopSeason, hcovers]
  have hwindow : WindowRow b' planId roomTypeId day = WindowRow b planId roomTypeId day := by
    funext t s
    rw [WindowRow, WindowRow, hcovers]
  have hstandard : StandardPrice b' planId roomTypeId guests =
      StandardPrice b planId roomTypeId guests := by
    have hrow : StandardRow b' planId roomTypeId = StandardRow b planId roomTypeId := by
      funext s
      rw [StandardRow, StandardRow, h.2.mem_iff]
    funext p
    rw [StandardPrice, StandardPrice, hrow]
  cases hp with
  | season t r ht hr => exact .season t r (htop ▸ ht) (hwindow ▸ hr)
  | window t p ht hr hp => exact .window t p (htop ▸ ht) (hwindow ▸ hr) (hstandard ▸ hp)
  | standard p hs hp => exact .standard p (hcovers ▸ hs) (hstandard ▸ hp)

/-- With a top season first, it stands first among the covering ones. -/
theorem exists_perm_covering {t : RateSeason} (ht : TopSeason b planId roomTypeId day t) :
    ∃ b', RowsReordered b b' ∧ b'.standards = b.standards ∧
      ∃ rest, covering b' planId roomTypeId day = t :: rest := by
  obtain ⟨l₁, l₂, hsplit⟩ := List.append_of_mem ht.1.1
  refine ⟨⟨t :: (l₁ ++ l₂), b.standards⟩, ⟨?_, List.Perm.refl _⟩, rfl, ?_⟩
  · rw [hsplit]
    exact List.perm_middle.symm
  · have hlead : (covering ⟨t :: (l₁ ++ l₂), b.standards⟩ planId roomTypeId day).head? = some t := by
      rw [covering_eq, head?_insertionSort_iff, List.filter_cons_of_pos]
      · apply leads_head
        intro s hs
        obtain ⟨hs, hrow⟩ := List.mem_filter.mp hs
        simp only [Bool.and_eq_true, decide_eq_true_eq] at hrow
        have hmem : s ∈ b.seasons := by
          rw [hsplit]
          rcases List.mem_append.mp hs with hs | hs
          · exact List.mem_append_left _ hs
          · exact List.mem_append_right _ (List.mem_cons_of_mem _ hs)
        exact ht.2 s ⟨hmem, hrow.2.1, hrow.2.2, hrow.1⟩
      · simp only [Bool.and_eq_true, decide_eq_true_eq]
        exact ⟨ht.1.2.2.2, ht.1.2.1, ht.1.2.2.1⟩
    cases hc : covering ⟨t :: (l₁ ++ l₂), b.standards⟩ planId roomTypeId day with
    | nil =>
      rw [hc] at hlead
      cases hlead
    | cons s rest =>
      rw [hc] at hlead
      exact ⟨rest, by rw [Option.some.inj hlead]⟩

/-- Standard prices of one plan, room type and number of guests are one row. -/
theorem standardPrice_unique (hunique : (b.standards.map StandardRate.key).Nodup) {p : Option Price}
    (hp : StandardPrice b planId roomTypeId guests p) :
    (pickByOccupancy (b.standardByKey planId roomTypeId) guests).map StandardRate.price = p := by
  have hforGuests : ∀ r s, ForGuests (StandardRow b planId roomTypeId) guests r →
      ForGuests (StandardRow b planId roomTypeId) guests s → r = s := by
    intro r s hr hs
    have hocc : r.occupancy = s.occupancy := by
      obtain ⟨hrow, hr⟩ := hr
      obtain ⟨hsow, hs⟩ := hs
      match guests with
      | none => exact Nat.le_antisymm (hr s hsow) (hs r hrow)
      | some 0 => exact Nat.le_antisymm (hr s hsow) (hs r hrow)
      | some (n + 1) =>
        rcases hr with hr | ⟨hr, hrn⟩ <;> rcases hs with hs | ⟨hs, hsn⟩
        · exact hr.trans hs.symm
        · exact absurd hr (hsn r hrow)
        · exact absurd hs (hrn s hsow)
        · exact hr.trans hs.symm
    apply List.inj_on_of_nodup_map hunique hr.1.1 hs.1.1
    rw [StandardRate.key, StandardRate.key, hr.1.2.1, hs.1.2.1, hr.1.2.2, hs.1.2.2, hocc]
  rcases (standardPrice_pick : StandardPrice b planId roomTypeId guests _) with ⟨r, hr, hrp⟩ | ⟨hr, hrp⟩ <;>
    rcases hp with ⟨s, hs, hsp⟩ | ⟨hs, hsp⟩
  · rw [hrp, hsp, hforGuests r s hr hs]
  · exact absurd hr (hs r)
  · exact absurd hs (hr s)
  · rw [hrp, hsp]

/-- **Any price the rule allows** is returned for some order of the rows. -/
theorem exists_perm_resolve (hunique : (b.standards.map StandardRate.key).Nodup) {p : Option Price}
    (hp : RulePrice b planId roomTypeId day guests p) :
    ∃ b', RowsReordered b b' ∧ b'.resolve planId roomTypeId day guests = p := by
  cases hp with
  | season t r ht hr =>
    -- the row of the window comes first of all
    have hsame : ∀ s : RateSeason, s.SameWindow r ↔ s.SameWindow t := by
      intro s
      obtain ⟨hfrom, hto, hsort⟩ := hr.1.2
      rw [RateSeason.SameWindow, RateSeason.SameWindow, hfrom, hto, hsort]
    have htop : TopSeason b planId roomTypeId day r := by
      refine ⟨hr.1.1, fun s hs => ?_⟩
      obtain ⟨hfrom, -, hsort⟩ := hr.1.2
      have hbefore := ht.2 s hs
      rw [RateSeason.Before] at hbefore ⊢
      rw [hfrom, hsort]
      exact hbefore
    obtain ⟨b', hrows, -, rest, hrest⟩ := exists_perm_covering htop
    refine ⟨b', hrows, ?_⟩
    have hfirst : (r :: rest).filter (fun s : RateSeason => decide (s.SameWindow r)) =
        r :: rest.filter fun s : RateSeason => decide (s.SameWindow r) :=
      List.filter_cons_of_pos (by simp [RateSeason.SameWindow])
    have hmem : ∀ s, s ∈ r :: rest.filter (fun s : RateSeason => decide (s.SameWindow r)) ↔
        WindowRow b planId roomTypeId day t s := by
      intro s
      rw [← hfirst, ← hrest, mem_window, WindowRow, WindowRow, hsame, CoveringSeason, CoveringSeason,
        hrows.1.mem_iff]
    rw [resolve_of_cons hrest, hfirst, pickByOccupancy_first ((ForGuests.congr hmem).mpr hr)]
    rfl
  | window t p ht hr hp =>
    obtain ⟨b', hrows, hstandards, rest, hrest⟩ := exists_perm_covering ht
    refine ⟨b', hrows, ?_⟩
    have hmem : ∀ s, s ∈ (t :: rest).filter (fun s : RateSeason => decide (s.SameWindow t)) ↔
        WindowRow b planId roomTypeId day t s := by
      intro s
      rw [← hrest, mem_window, WindowRow, WindowRow, CoveringSeason, CoveringSeason,
        hrows.1.mem_iff]
    have hnone : pickByOccupancy ((t :: rest).filter fun s : RateSeason => decide (s.SameWindow t))
        guests = none :=
      pickByOccupancy_eq_none_iff.mpr fun r hrw => hr r ((ForGuests.congr hmem).mp hrw)
    have hkey : b'.standardByKey planId roomTypeId = b.standardByKey planId roomTypeId := by
      rw [BaselineResolver.standardByKey, BaselineResolver.standardByKey, hstandards]
    rw [resolve_of_cons hrest, hnone, hkey, Option.map_none, Option.none_or,
      standardPrice_unique hunique hp]
  | standard p hs hp =>
    refine ⟨b, ⟨List.Perm.refl _, List.Perm.refl _⟩, ?_⟩
    have hnil : covering b planId roomTypeId day = [] := by
      apply List.eq_nil_iff_forall_not_mem.mpr
      exact fun s hmem => hs s (mem_covering_iff.mp hmem)
    rw [resolve_of_nil hnil, standardPrice_unique hunique hp]

/-- **The baseline price does not depend on the order of the rows exactly when tied rows agree**:
the covering seasons with the latest start and then the highest sort order, whatever their ends, and
the rows of their windows for the guests, all have one price. -/
theorem orderFree_iff (b : BaselineResolver) (hunique : (b.standards.map StandardRate.key).Nodup)
    (planId : RatePlanId) (roomTypeId : RoomTypeId) (day : Day) (guests : Option ℕ) :
    OrderFree b planId roomTypeId day guests ↔ TiesAgree b planId roomTypeId day guests := by
  constructor
  · rintro ⟨p, -, hall⟩ q q' hq hq'
    obtain ⟨b₁, hb₁, hr₁⟩ := exists_perm_resolve hunique hq
    obtain ⟨b₂, hb₂, hr₂⟩ := exists_perm_resolve hunique hq'
    rw [← hr₁, ← hr₂, hall b₁ hb₁, hall b₂ hb₂]
  · intro h
    refine ⟨_, rulePrice_resolve, fun b' hb' => ?_⟩
    exact h _ _ (rulePrice_resolve.perm hb') rulePrice_resolve

/-- A summer, in it a week that was entered twice with different ends, and a fair on two of
its days. -/
def summerWeek : BaselineResolver where
  seasons :=
    [⟨1, 1, 0, 40, 0, 4400, "RUB", 0⟩, ⟨1, 1, 0, 40, 2, 5700, "RUB", 0⟩, ⟨1, 1, 3, 10, 0, 6900, "RUB", 0⟩,
      ⟨1, 1, 3, 12, 0, 7200, "RUB", 0⟩, ⟨1, 1, 8, 9, 2, 9900, "RUB", 1⟩]
  standards := [⟨1, 1, 0, 4000, "RUB"⟩, ⟨1, 1, 2, 4500, "RUB"⟩]

/-- Before the week, in it and at the fair; and for one guest at the fair, who has the
standard price. -/
theorem orderFree_iff_summerWeek :
    (OrderFree summerWeek 1 1 2 (some 2) ↔ TiesAgree summerWeek 1 1 2 (some 2)) ∧
    (OrderFree summerWeek 1 1 5 none ↔ TiesAgree summerWeek 1 1 5 none) ∧
    (OrderFree summerWeek 1 1 8 (some 2) ↔ TiesAgree summerWeek 1 1 8 (some 2)) ∧
    (OrderFree summerWeek 1 1 8 (some 1) ↔ TiesAgree summerWeek 1 1 8 (some 1)) := by
  have hunique : (summerWeek.standards.map StandardRate.key).Nodup := by decide
  exact ⟨orderFree_iff _ hunique 1 1 2 (some 2), orderFree_iff _ hunique 1 1 5 none,
    orderFree_iff _ hunique 1 1 8 (some 2), orderFree_iff _ hunique 1 1 8 (some 1)⟩

/-- Two seasons that start on one day, have one sort order and end on different days: the price is
the one of the row that comes first. -/
theorem price_follows_row_order : ¬∀ (b : BaselineResolver),
    (b.standards.map StandardRate.key).Nodup → ∀ planId roomTypeId day guests,
      OrderFree b planId roomTypeId day guests := by
  intro h
  have hrow : (⟨[⟨1, 1, 0, 10, 0, 4400, "RUB", 0⟩, ⟨1, 1, 0, 20, 0, 5700, "RUB", 0⟩], []⟩ :
      BaselineResolver).resolve 1 1 5 none = some 4400 := by decide
  have hswapped : (⟨[⟨1, 1, 0, 20, 0, 5700, "RUB", 0⟩, ⟨1, 1, 0, 10, 0, 4400, "RUB", 0⟩], []⟩ :
      BaselineResolver).resolve 1 1 5 none = some 5700 := by decide
  obtain ⟨p, -, hall⟩ := h
    ⟨[⟨1, 1, 0, 10, 0, 4400, "RUB", 0⟩, ⟨1, 1, 0, 20, 0, 5700, "RUB", 0⟩], []⟩ (by decide) 1 1 5 none
  have hfirst := hall _ ⟨List.Perm.refl _, List.Perm.refl _⟩
  have hsecond := hall ⟨[⟨1, 1, 0, 20, 0, 5700, "RUB", 0⟩, ⟨1, 1, 0, 10, 0, 4400, "RUB", 0⟩], []⟩
    ⟨List.Perm.swap _ _ _, List.Perm.refl _⟩
  rw [hrow] at hfirst
  rw [hswapped, ← hfirst] at hsecond
  exact absurd (Option.some.inj hsecond) (by decide)

end Resolve

end KarsHotel
