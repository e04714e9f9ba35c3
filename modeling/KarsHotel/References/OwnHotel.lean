import KarsHotel.RatePlans.Writes
import KarsHotel.References.Service

/-!
# When references stay inside the hotel

* `ReferenceCall.names`, `ReferenceCall.Own`: the rows that a call names, which are the hotel's own;
* `PricesKept`: the plans and types that a call keeps;
* one lemma for each writer;
* **`refersInside_run`**: in every run whose calls name rows of their own hotels, the references of
  every hotel stay inside it.
-/

namespace KarsHotel

/-! ## The condition -/

/-- The plans and types that an edit of prices writes. -/
def RatesOp.names : RatesOp → List (RatePlanId × RoomTypeId)
  | bulkUpsert items => items.map fun it => (it.ratePlanId.id, it.roomTypeId)
  | fillRange dto => [(dto.ratePlanId.id, dto.roomTypeId)]
  | remove _ => []
  | setStandard dto => (dto.items.filter fun it => decide (0 < it.price)).map fun it =>
      (dto.ratePlanId.id, it.roomTypeId)
  | replaceSeasons dto => dto.rows.map fun r => (r.ratePlanId, r.roomTypeId)

/-- The plans and types that a call names are the hotel's own. -/
def ReferenceCall.Own (x : TenantStore) : ReferenceCall → Prop
  | prices op => ∀ n ∈ op.names, x.prices.HasPlan n.1 ∧ x.prices.HasType n.2
  | restriction dto =>
    (∀ id, dto.ratePlanId = some id → x.prices.HasPlan id) ∧ x.prices.HasType dto.roomTypeId
  | createPlan _ _ dto => ∀ id, dto.parentRatePlanId = .val id → x.prices.HasPlan id
  | updatePlan _ _ dto => ∀ id, dto.parentRatePlanId = .val id → x.prices.HasPlan id
  | reservation op => op.Accepted x.hotel → ∀ dto stay channel newId,
      op = .create dto stay channel newId → x.hotel.earlier channel = none →
        ∀ id, dto.ratePlanId = some id → x.prices.HasPlan id

/-- A call that is not refused names rows of its own hotel. -/
def ReferenceCall.Orderly (own : DirectoryOwners) (s : HotelsData) (c : TenantId × ReferenceCall) :
    Prop :=
  ∀ x, c.2.exec own (s.elsewhere c.1) (s.store c.1) = .ok x → c.2.Own (s.store c.1)

/-! ## Prices -/

/-- The prices name plans and types of the hotel. -/
structure PriceBook.RefersInside (b : PriceBook) : Prop where
  rates : ∀ r ∈ b.rates, b.HasPlan r.ratePlanId ∧ b.HasType r.roomTypeId
  seasons : ∀ r ∈ b.seasons, b.HasPlan r.ratePlanId ∧ b.HasType r.roomTypeId
  standardRates : ∀ r ∈ b.standardRates, b.HasPlan r.ratePlanId ∧ b.HasType r.roomTypeId

/-- The same plans and types, and prices that name some of them. -/
structure PricesKept (b b' : PriceBook) : Prop where
  inside : b'.RefersInside
  ratePlans : b'.ratePlans = b.ratePlans
  roomTypes : b'.roomTypes = b.roomTypes

section Prices

open RatesService

variable {elsewhere : OtherHotels} {b b₀ b' : PriceBook}

theorem PricesKept.hasPlan (h : PricesKept b b') {id : RatePlanId} (hid : b.HasPlan id) :
    b'.HasPlan id := by
  unfold PriceBook.HasPlan
  rwa [h.ratePlans]

theorem PricesKept.hasType (h : PricesKept b b') {id : RoomTypeId} (hid : b.HasType id) :
    b'.HasType id := by
  unfold PriceBook.HasType
  rwa [h.roomTypes]

theorem upsertRate_kept {row : Rate} (h : PricesKept b₀ b) (hplan : b.HasPlan row.ratePlanId)
    (htype : b.HasType row.roomTypeId) (hx : upsertRate elsewhere b row = .ok b') :
    PricesKept b₀ b' := by
  unfold upsertRate at hx
  cases hfind : b.rates.find row.key with
  | some r =>
    rw [hfind] at hx
    obtain rfl := Except.ok.inj hx
    refine ⟨⟨Table.forall_mem_modify h.inside.rates ?_, h.inside.seasons, h.inside.standardRates⟩,
      h.ratePlans, h.roomTypes⟩
    exact fun r hr _ => h.inside.rates r hr
  | none =>
    simp only [hfind] at hx
    split_ifs at hx
    obtain rfl := Except.ok.inj hx
    exact ⟨⟨Table.forall_mem_insert h.inside.rates ⟨hplan, htype⟩, h.inside.seasons,
      h.inside.standardRates⟩, h.ratePlans, h.roomTypes⟩

theorem setStandardItem_kept {dto : SetStandardRatesDto} {it : StandardRateItemDto}
    (h : PricesKept b₀ b)
    (hown : 0 < it.price → b.HasPlan dto.ratePlanId.id ∧ b.HasType it.roomTypeId)
    (hx : setStandardItem elsewhere dto b it = .ok b') : PricesKept b₀ b' := by
  unfold setStandardItem at hx
  dsimp only at hx
  by_cases hprice : 0 < it.price
  · rw [if_pos hprice] at hx
    split at hx
    · obtain rfl := Except.ok.inj hx
      refine ⟨⟨h.inside.rates, h.inside.seasons,
        Table.forall_mem_modify h.inside.standardRates ?_⟩, h.ratePlans, h.roomTypes⟩
      exact fun r hr _ => h.inside.standardRates r hr
    · split_ifs at hx
      obtain rfl := Except.ok.inj hx
      exact ⟨⟨h.inside.rates, h.inside.seasons,
        Table.forall_mem_insert h.inside.standardRates (hown hprice)⟩, h.ratePlans, h.roomTypes⟩
  · rw [if_neg hprice] at hx
    obtain rfl := Except.ok.inj hx
    exact ⟨⟨h.inside.rates, h.inside.seasons, fun r' hr' =>
      h.inside.standardRates r' (Table.mem_remove.mp hr').1⟩, h.ratePlans, h.roomTypes⟩

theorem removeRate_kept {key : RatePlanId × RoomTypeId × Day × ℕ} (h : PricesKept b₀ b)
    (hx : removeRate b key = .ok b') : PricesKept b₀ b' := by
  unfold removeRate at hx
  cases hfind : b.rates.find key with
  | none =>
    rw [hfind] at hx
    cases hx
  | some r =>
    rw [hfind] at hx
    obtain rfl := Except.ok.inj hx
    exact ⟨⟨fun r' hr' => h.inside.rates r' (Table.mem_remove.mp hr').1, h.inside.seasons,
      h.inside.standardRates⟩, h.ratePlans, h.roomTypes⟩

/-- **An edit of prices keeps the references inside** if it names the hotel's own plans
and types. -/
theorem RatesOp.exec_kept {op : RatesOp} (h : b.RefersInside)
    (hown : ∀ n ∈ op.names, b.HasPlan n.1 ∧ b.HasType n.2)
    (hx : op.exec elsewhere b = .ok b') : PricesKept b b' := by
  have hstart : PricesKept b b := ⟨h, rfl, rfl⟩
  cases op with
  | bulkUpsert items =>
    refine foldlM_keeps_of_mem (P := fun b₁ => PricesKept b b₁)
      (fun b₁ it hit b₂ hkept hitem => ?_) hstart hx
    obtain ⟨hplan, htype⟩ := hown (it.ratePlanId.id, it.roomTypeId) (List.mem_map_of_mem hit)
    exact upsertRate_kept hkept (hkept.hasPlan hplan) (hkept.hasType htype) hitem
  | fillRange dto =>
    obtain ⟨hplan, htype⟩ := hown _ (List.mem_singleton.mpr rfl)
    simp only [RatesOp.exec, RatesService.fillRange] at hx
    split_ifs at hx
    refine foldlM_keeps (P := fun b₁ => PricesKept b b₁) (fun b₁ i b₂ hkept hitem => ?_) hstart hx
    exact upsertRate_kept hkept (hkept.hasPlan hplan) (hkept.hasType htype) hitem
  | remove key => exact removeRate_kept hstart hx
  | setStandard dto =>
    refine foldlM_keeps_of_mem (P := fun b₁ => PricesKept b b₁)
      (fun b₁ it hit b₂ hkept hitem => ?_) hstart hx
    refine setStandardItem_kept hkept (fun hprice => ?_) hitem
    obtain ⟨hplan, htype⟩ := hown (dto.ratePlanId.id, it.roomTypeId)
      (List.mem_map.mpr ⟨it, List.mem_filter.mpr ⟨hit, decide_eq_true hprice⟩, rfl⟩)
    exact ⟨hkept.hasPlan hplan, hkept.hasType htype⟩
  | replaceSeasons dto =>
    obtain rfl := replaceSeasons_ok hx
    refine ⟨⟨h.rates, fun r hr => ?_, h.standardRates⟩, rfl, rfl⟩
    rcases List.mem_append.mp hr with hold | hnew
    · exact h.seasons r (List.mem_filter.mp hold).1
    · exact hown (r.ratePlanId, r.roomTypeId) (List.mem_map.mpr ⟨r, hnew, rfl⟩)

end Prices

/-! ## The other writers -/

section Store

variable {own : DirectoryOwners} {elsewhere : OtherHotels} {x x' : TenantStore}

theorem TenantStore.RefersInside.book (h : x.RefersInside) : x.prices.RefersInside :=
  ⟨h.rates, h.seasons, h.standardRates⟩

theorem prices_inside {op : RatesOp} {b : PriceBook} (h : x.RefersInside)
    (hown : ∀ n ∈ op.names, x.prices.HasPlan n.1 ∧ x.prices.HasType n.2)
    (hx : op.exec elsewhere x.prices = .ok b) : { x with prices := b }.RefersInside := by
  have hkept := RatesOp.exec_kept h.book hown hx
  refine ⟨hkept.inside.rates, hkept.inside.seasons, hkept.inside.standardRates, fun r hr => ?_,
    fun p hp id hid => ?_, fun b hb => ?_⟩
  · obtain ⟨hplan, htype⟩ := h.restrictions r hr
    exact ⟨fun id hid => hkept.hasPlan (hplan id hid), hkept.hasType htype⟩
  · have hp : p ∈ x.prices.ratePlans := hkept.ratePlans ▸ hp
    exact hkept.hasPlan (h.parents p hp id hid)
  · obtain ⟨hroom, hplan⟩ := h.reservations b hb
    exact ⟨hroom, fun id hid => hkept.hasPlan (hplan id hid)⟩

theorem mem_writeFirst {row r : Restriction} {rows : List Restriction}
    (h : r ∈ RestrictionsController.writeFirst row rows) : r ∈ rows ∨ r = row := by
  induction rows with
  | nil => cases h
  | cons r₀ rows ih =>
    unfold RestrictionsController.writeFirst at h
    split_ifs at h
    · rcases List.mem_cons.mp h with rfl | h
      · exact .inr rfl
      · exact .inl (List.mem_cons_of_mem _ h)
    · rcases List.mem_cons.mp h with rfl | h
      · exact .inl List.mem_cons_self
      · exact (ih h).imp_left (List.mem_cons_of_mem _)

theorem restriction_inside {dto : UpsertRestrictionDto} (h : x.RefersInside)
    (hown : (∀ id, dto.ratePlanId = some id → x.prices.HasPlan id) ∧
      x.prices.HasType dto.roomTypeId)
    (hx : RestrictionsController.upsert elsewhere x dto = .ok x') : x'.RefersInside := by
  -- every row is an old one, or that of the request
  have hrows : ∀ rows : List Restriction, (∀ r ∈ rows, r ∈ x.restrictions ∨ r = dto.row) →
      { x with restrictions := rows }.RefersInside := by
    intro rows hrows
    refine ⟨h.rates, h.seasons, h.standardRates, fun r hr => ?_, h.parents, h.reservations⟩
    rcases hrows r hr with hold | rfl
    · exact h.restrictions r hold
    · exact hown
  unfold RestrictionsController.upsert at hx
  split_ifs at hx
  · obtain rfl := Except.ok.inj hx
    exact hrows _ fun r hr => mem_writeFirst hr
  · obtain rfl := Except.ok.inj hx
    refine hrows _ fun r hr => ?_
    rcases List.mem_append.mp hr with hold | hnew
    · exact .inl hold
    · exact .inr (List.mem_singleton.mp hnew)

theorem plans_inside {plans : Table RatePlan.id} (h : x.RefersInside)
    (hgrow : ∀ id, x.prices.HasPlan id → ∃ p ∈ plans, p.id = id)
    (hparents : ∀ p ∈ plans, ∀ id, p.parentRatePlanId = some id → x.prices.HasPlan id) :
    { x with prices := { x.prices with ratePlans := plans } }.RefersInside := by
  refine ⟨fun r hr => ?_, fun r hr => ?_, fun r hr => ?_, fun r hr => ?_, fun p hp id hid => ?_,
    fun b hb => ?_⟩
  · exact (h.rates r hr).imp_left (hgrow _)
  · exact (h.seasons r hr).imp_left (hgrow _)
  · exact (h.standardRates r hr).imp_left (hgrow _)
  · obtain ⟨hplan, htype⟩ := h.restrictions r hr
    exact ⟨fun id hid => hgrow id (hplan id hid), htype⟩
  · exact hgrow id (hparents p hp id hid)
  · obtain ⟨hroom, hplan⟩ := h.reservations b hb
    exact ⟨hroom, fun id hid => hgrow id (hplan id hid)⟩

theorem createPlan_inside {dir : PartnerDirectory} {id : RatePlanId} {dto : CreateRatePlanDto}
    {plans : Table RatePlan.id} (h : x.RefersInside)
    (hown : ∀ id, dto.parentRatePlanId = .val id → x.prices.HasPlan id)
    (hx : RatePlansService.create own elsewhere.ratePlans dir x.prices.ratePlans id dto =
      .ok plans) :
    { x with prices := { x.prices with ratePlans := plans } }.RefersInside := by
  have hchange : PlanChange own elsewhere.ratePlans x.prices.ratePlans (.create dir id dto) plans :=
    RatePlanOp.exec_cases hx
  cases hchange with
  | created dir id dto scope hfree hid hadmitted =>
    refine plans_inside h (fun q hq => ?_) (Table.forall_mem_insert h.parents fun q hq => ?_)
    · obtain ⟨p, hp, hpid⟩ := hq
      exact ⟨p, Table.mem_insert_of_mem hp, hpid⟩
    · exact hown q (Field.toOption_eq_some.mp hq)

theorem updatePlan_inside {dir : PartnerDirectory} {id : RatePlanId} {dto : UpdateRatePlanDto}
    {plans : Table RatePlan.id} (h : x.RefersInside)
    (hown : ∀ id, dto.parentRatePlanId = .val id → x.prices.HasPlan id)
    (hx : RatePlansService.update own elsewhere.ratePlans dir x.prices.ratePlans id dto =
      .ok plans) :
    { x with prices := { x.prices with ratePlans := plans } }.RefersInside := by
  have hchange : PlanChange own elsewhere.ratePlans x.prices.ratePlans (.update dir id dto) plans :=
    RatePlanOp.exec_cases hx
  cases hchange with
  | updated dir id dto scope before hbefore hself hadmitted =>
    refine plans_inside h (fun q hq => ?_) (Table.forall_mem_modify h.parents ?_)
    · obtain ⟨p, hp, rfl⟩ := hq
      by_cases hpid : p.id = id
      · exact ⟨_, Table.mem_modify.mpr (.inr ⟨p, hp, hpid, rfl⟩), rfl⟩
      · exact ⟨p, Table.mem_modify.mpr (.inl ⟨hp, hpid⟩), rfl⟩
    · intro p hp _ q hq
      have hq : dto.parentRatePlanId.patch p.parentRatePlanId = some q := hq
      cases hparent : dto.parentRatePlanId with
      | undefined =>
        rw [hparent] at hq
        exact h.parents p hp q hq
      | null =>
        rw [hparent] at hq
        cases hq
      | val q' =>
        rw [hparent] at hq
        obtain rfl := Option.some.inj hq
        exact hown q' hparent

theorem SameHouse.hasRoom {h h' : Hotel} (hsame : SameHouse h h') {id : RoomId}
    (hroom : ∃ r ∈ h.rooms, r.id = id) : ∃ r ∈ h'.rooms, r.id = id := by
  obtain ⟨r, hr, hid⟩ := hroom
  have hfind := hsame.find id
  rw [Table.find_eq_some.mpr ⟨hr, hid⟩, Option.map_some] at hfind
  obtain ⟨r', hr', _⟩ := Option.map_eq_some_iff.mp hfind
  exact ⟨r', Table.find_eq_some.mp hr'⟩

theorem hasRoom_of_active {h : Hotel} {roomId : RoomId} {a : Room × Bool}
    (hactive : h.activeRoom roomId = some a) : ∃ r ∈ h.rooms, r.id = roomId :=
  ⟨a.1, Table.find_eq_some.mp (Hotel.activeRoom_eq_some.mp hactive).1⟩

theorem UpdateReservationDto.result_ratePlanId (dto : UpdateReservationDto) (cur : Reservation)
    (stay : PartnerStayInfo) (now : Moment) (roomTypeId : RoomTypeId) (p : ℕ) (r : Reservation) :
    (dto.result cur stay now roomTypeId p r).ratePlanId = r.ratePlanId := by
  unfold result
  cases dto.fact cur with
  | none => rfl
  | some fact => cases fact <;> rfl

theorem reservation_inside {op : Op} (h : x.RefersInside)
    (hown : (ReferenceCall.reservation op).Own x) :
    { x with hotel := step x.hotel op }.RefersInside := by
  refine ⟨h.rates, h.seasons, h.standardRates, h.restrictions, h.parents, fun b hb => ?_⟩
  have hhouse := house_step x.hotel op
  have hold : ∀ r ∈ x.hotel.reservations, (∃ room ∈ (step x.hotel op).rooms, room.id = r.roomId) ∧
      ∀ id, r.ratePlanId = some id → x.prices.HasPlan id :=
    fun r hr => (h.reservations r hr).imp_left hhouse.hasRoom
  by_cases haccepted : op.Accepted x.hotel
  swap
  · rw [step_of_not_accepted haccepted] at hb
    exact hold b hb
  cases rowOrigin hb with
  | kept op hr => exact hold b hr
  | created hd hroom hp ha =>
    exact ⟨hhouse.hasRoom (hasRoom_of_active hroom),
      hown haccepted _ _ _ _ rfl (earlier_eq_none ha)⟩
  | @updated id dto opts now cur p roomTypeId hcur hv hd hf hc hp hg =>
    have hbefore := hold cur (Table.find_eq_some.mp hcur).1
    rw [UpdateReservationDto.result_roomId, UpdateReservationDto.result_ratePlanId]
    refine ⟨?_, hbefore.2⟩
    cases hp with
    | kept ht hp =>
      rw [UpdateReservationDto.finalRoom_of_not_touchesPlace ht]
      exact hbefore.1
    | chosen ht hs hs' hroom hp =>
      subst hs
      exact hhouse.hasRoom (hasRoom_of_active hroom)
  | @swapped dto r hr p =>
    have hbefore := hold r hr
    exact hbefore
  | @cancelled id reason fromChannel cur hcur =>
    have hbefore := hold cur (Table.find_eq_some.mp hcur).1
    exact hbefore
  | @recorded id fact moment now cur hcur hf =>
    have hbefore := hold cur (Table.find_eq_some.mp hcur).1
    cases fact <;> exact hbefore

/-- **A call keeps the references inside** if it names rows of its own hotel. -/
theorem ReferenceCall.exec_inside {c : ReferenceCall} (h : x.RefersInside) (hown : c.Own x)
    (hx : c.exec own elsewhere x = .ok x') : x'.RefersInside := by
  cases c with
  | prices op =>
    obtain ⟨b, hprices, rfl⟩ := map_ok_iff.mp hx
    exact prices_inside h hown hprices
  | restriction dto => exact restriction_inside h hown hx
  | createPlan dir id dto =>
    obtain ⟨plans, hplans, rfl⟩ := map_ok_iff.mp hx
    exact createPlan_inside h hown hplans
  | updatePlan dir id dto =>
    obtain ⟨plans, hplans, rfl⟩ := map_ok_iff.mp hx
    exact updatePlan_inside h hown hplans
  | reservation op =>
    obtain rfl := Except.ok.inj hx
    exact reservation_inside h hown

end Store

/-! ## Every run -/

theorem HotelsData.step_inside {own : DirectoryOwners} {s : HotelsData}
    {c : TenantId × ReferenceCall} (h : ∀ t, (s.store t).RefersInside)
    (hok : ReferenceCall.Orderly own s c) : ∀ t, ((s.step own c).store t).RefersInside := by
  intro t
  unfold HotelsData.step
  cases hx : c.2.exec own (s.elsewhere c.1) (s.store c.1) with
  | error x => exact h t
  | ok x =>
    by_cases ht : t = c.1
    · subst ht
      show ((s.setStore c.1 x).store c.1).RefersInside
      rw [s.store_setStore_self]
      exact ReferenceCall.exec_inside (h c.1) (hok x hx) hx
    · show ((s.setStore c.1 x).store t).RefersInside
      rw [s.store_setStore_of_ne x ht]
      exact h t

/-- **References stay inside the hotel** in every run whose calls name rows of their own hotels. -/
theorem refersInside_run (own : DirectoryOwners) (s : HotelsData)
    (h : ∀ t, (s.store t).RefersInside) (calls : List (TenantId × ReferenceCall))
    (hok : StepsMeet (HotelsData.step own) (ReferenceCall.Orderly own) s calls) (t : TenantId) :
    ((calls.foldl (HotelsData.step own) s).store t).RefersInside := by
  have hall : ∀ t, ((calls.foldl (HotelsData.step own) s).store t).RefersInside :=
    foldl_keeps (P := fun s : HotelsData => ∀ t, (s.store t).RefersInside)
      (fun _ _ hs hcall => HotelsData.step_inside hs hcall) h hok
  exact hall t

/-! ## Small inputs -/

/-- A plan without a parent and without a partner. -/
def RatePlan.own (id : RatePlanId) : RatePlan where
  id := id
  code := "BAR"
  name := "Bar"
  mealPlan := .none
  occupancyPricing := false
  parentRatePlanId := none
  priceModifierType := .percent
  priceModifierValue := 0
  sortOrder := 0
  isActive := true
  partnerId := none
  partnerAccountId := none
  partnerCustomerId := none
  guestKind := none
  vatRate := none
  forOperator := false
  operatorContract := none
  reviewVerdict := none
  reviewedBy := none
  reviewFingerprint := none

/-- Two hotels of one room; the plan and the type of each have its id. -/
def HotelsData.two : HotelsData where
  tenants := [1, 2]
  store t :=
    { hotel := .oneRoom false
      prices :=
        { roomTypes := Table.empty.insert ⟨t, 2, 2, true⟩
          ratePlans := Table.empty.insert (.own t)
          rates := .empty
          seasons := []
          standardRates := .empty }
      inventory := .empty
      restrictions := [] }

theorem refersInside_two (t : TenantId) : (HotelsData.two.store t).RefersInside := by
  refine ⟨fun r hr => ?_, fun r hr => ?_, fun r hr => ?_, fun r hr => ?_, fun p hp id hid => ?_,
    fun b hb => ?_⟩
  · exact absurd hr (Table.not_mem_empty r)
  · cases hr
  · exact absurd hr (Table.not_mem_empty r)
  · cases hr
  · obtain rfl := List.mem_singleton.mp hp
    cases hid
  · exact absurd hb (Table.not_mem_empty b)

/-- A price of the first hotel for its room type, by a plan. -/
def pricedBy (ratePlanId : RatePlanId) : TenantId × ReferenceCall :=
  (1, .prices (.bulkUpsert [⟨.ofId ratePlanId, 1, 0, none, 500000, none⟩]))

/-- By its own plan. -/
theorem refersInside_run_ownPlan :
    ((HotelsData.two.step ⟨fun _ => 1, fun _ => 1⟩ (pricedBy 1)).store 1).RefersInside := by
  refine refersInside_run ⟨fun _ => 1, fun _ => 1⟩ .two refersInside_two [pricedBy 1]
    ⟨fun x _ n hn => ?_, trivial⟩ 1
  obtain rfl := List.mem_singleton.mp hn
  exact ⟨⟨_, List.mem_singleton.mpr rfl, rfl⟩, ⟨_, List.mem_singleton.mpr rfl, rfl⟩⟩

/-- **A price by a plan of another hotel** is stored. -/
theorem not_refersInside_otherPlan : ¬∀ (own : DirectoryOwners) (s : HotelsData),
    (∀ t, (s.store t).RefersInside) → ∀ (calls : List (TenantId × ReferenceCall)) (t : TenantId),
      ((calls.foldl (HotelsData.step own) s).store t).RefersInside := by
  intro h
  have hinside := h ⟨fun _ => 1, fun _ => 1⟩ .two refersInside_two [pricedBy 2] 1
  obtain ⟨p, hp, hid⟩ := (hinside.rates ⟨2, 1, 0, 2, 500000, "RUB"⟩
    (List.mem_singleton.mpr (by decide +kernel))).1
  obtain rfl := List.mem_singleton.mp hp
  cases hid

end KarsHotel
