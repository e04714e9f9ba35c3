import KarsHotel.Inventory.Availability

/-!
# Offers and reservations

Occupancy is kept twice: as reservation rows and as the `bookedRooms` of the inventory.

* `HouseOp`, `TenantStore.run`: runs of reservation operations and inventory updates;
* `OffersFollow`: what `check` answers about a night is what the reservations say;
* **`bookedRooms_run`**: no run sets `bookedRooms`, so `check` sees every room free;
* **`offersFollow_run_iff`**: offers follow reservations on the nights on which no room of the type
  is held, and on no other.
-/

namespace KarsHotel

/-! ## Runs -/

/-- An operation on reservations or on the inventory. -/
inductive HouseOp where
  | reservation (op : Op)
  | bulkUpdate (roomTypeId : RoomTypeId) (rows : List InventoryService.BulkUpdateRow)

namespace TenantStore

/-- The state after one operation: a refused one leaves it as it was. -/
def step (x : TenantStore) : HouseOp → TenantStore
  | .reservation op => { x with hotel := KarsHotel.step x.hotel op }
  | .bulkUpdate roomTypeId rows => match InventoryService.bulkUpdate roomTypeId rows x with
    | .ok (_, x') => x'
    | .error _ => x

def run (x : TenantStore) (ops : List HouseOp) : TenantStore := ops.foldl step x

/-- No reservation, no inventory row; rooms and prices as they may be. -/
structure Fresh (x : TenantStore) : Prop where
  reservations : x.hotel.reservations = Table.empty
  inventory : x.inventory = Table.empty

end TenantStore

/-! ## The rule -/

namespace Hotel

/-- A live reservation holds the room on that night. -/
def Held (h : Hotel) (roomId : RoomId) (night : Day) : Prop :=
  ∃ r ∈ h.reservations.rows, r.Live ∧ r.roomId = roomId ∧ night ∈ r.nights

instance (h : Hotel) (roomId : RoomId) (night : Day) : Decidable (h.Held roomId night) := by
  unfold Held
  infer_instance

/-- The rooms of a type that live reservations hold on that night. -/
def heldRooms (h : Hotel) (roomTypeId : RoomTypeId) (night : Day) : ℕ :=
  (h.rooms.select fun room =>
    decide (room.roomTypeId = roomTypeId) && decide (h.Held room.id night)).length

/-- Every active room of the type is held. -/
def SoldOut (h : Hotel) (roomTypeId : RoomTypeId) (night : Day) : Prop :=
  ∀ room ∈ h.rooms, room.roomTypeId = roomTypeId → room.isActive = true → h.Held room.id night

theorem heldRooms_eq_zero {h : Hotel} {roomTypeId : RoomTypeId} {night : Day} :
    h.heldRooms roomTypeId night = 0 ↔
      ∀ room ∈ h.rooms, room.roomTypeId = roomTypeId → ¬h.Held room.id night := by
  simp only [heldRooms, List.length_eq_zero_iff, Table.select, List.filter_eq_nil_iff,
    Bool.and_eq_true, decide_eq_true_eq, not_and]
  exact Iff.rfl

theorem roomCount_eq_zero {h : Hotel} {roomTypeId : RoomTypeId} :
    InventoryService.roomCount h roomTypeId = 0 ↔
      ∀ room ∈ h.rooms, room.roomTypeId = roomTypeId → ¬room.isActive = true := by
  simp only [InventoryService.roomCount, List.length_eq_zero_iff, Table.select,
    List.filter_eq_nil_iff, Bool.and_eq_true, decide_eq_true_eq, not_and]
  exact Iff.rfl

end Hotel

/-- What `check` answers about a night of a stay: the rooms booked are the rooms held, and a night
that is sold out has no room left and closes the stay. -/
def OffersFollow (x : TenantStore) (roomTypeId : RoomTypeId) (night : Day) : Prop :=
  ∀ (checkIn checkOut : Day) (ratePlanId : Option RatePlanId), checkIn ≤ checkOut →
    ∀ d ∈ (AvailabilityService.check x roomTypeId checkIn checkOut ratePlanId).days,
      d.date = night → d.bookedRooms = x.hotel.heldRooms roomTypeId night ∧
        (x.hotel.SoldOut roomTypeId night → d.available = 0 ∧
          (AvailabilityService.check x roomTypeId checkIn checkOut ratePlanId).bookable = false)

/-! ## The counters -/

/-- No inventory row has a booked room. -/
def NothingBooked (x : TenantStore) : Prop := ∀ r ∈ x.inventory, r.bookedRooms = 0

theorem nothingBooked_upsert {roomTypeId : RoomTypeId} {count : ℕ} {t : Table Inventory.key}
    {row : InventoryService.BulkUpdateRow} (h : ∀ r ∈ t, r.bookedRooms = 0) :
    ∀ r ∈ InventoryService.upsert roomTypeId count t row, r.bookedRooms = 0 := by
  intro r hr
  unfold InventoryService.upsert at hr
  split at hr
  · rcases Table.mem_modify.mp hr with ⟨hr, -⟩ | ⟨r₀, hr₀, -, rfl⟩
    · exact h r hr
    · exact h r₀ hr₀
  · rcases Table.mem_of_mem_insert hr with hr | rfl
    · exact h r hr
    · rfl

theorem nothingBooked_upserts {roomTypeId : RoomTypeId} {count : ℕ} {t : Table Inventory.key}
    (rows : List InventoryService.BulkUpdateRow) (h : ∀ r ∈ t, r.bookedRooms = 0) :
    ∀ r ∈ rows.foldl (InventoryService.upsert roomTypeId count) t, r.bookedRooms = 0 := by
  induction rows generalizing t with
  | nil => exact h
  | cons row rows ih => exact ih (nothingBooked_upsert h)

theorem nothingBooked_step {x : TenantStore} (op : HouseOp) (h : NothingBooked x) :
    NothingBooked (x.step op) := by
  cases op with
  | reservation op => exact h
  | bulkUpdate roomTypeId rows =>
    cases hrt : x.prices.roomTypes.find roomTypeId with
    | none =>
      have hs : x.step (.bulkUpdate roomTypeId rows) = x := by
        simp only [TenantStore.step, InventoryService.bulkUpdate, hrt]
      rwa [hs]
    | some roomType =>
      simp only [TenantStore.step, InventoryService.bulkUpdate, hrt]
      exact nothingBooked_upserts rows h

/-- **No run sets `bookedRooms`.** -/
theorem bookedRooms_run {x : TenantStore} (hx : x.Fresh) (ops : List HouseOp) :
    NothingBooked (x.run ops) := by
  have h₀ : NothingBooked x := by
    intro r hr
    rw [hx.inventory] at hr
    exact absurd hr (Table.not_mem_empty r)
  clear hx
  induction ops generalizing x with
  | nil => exact h₀
  | cons op ops ih => exact ih (nothingBooked_step op h₀)

/-! ## What `check` answers then -/

section Answer

open AvailabilityService

variable {x : TenantStore} {roomTypeId : RoomTypeId} {checkIn checkOut night : Day}
  {ratePlanId : Option RatePlanId}

/-- The row `check` uses for a night of the stay is the row of that day. -/
theorem inventoryOf_eq (h₁ : checkIn ≤ night) (h₂ : night ≤ checkOut) :
    inventoryOf x roomTypeId checkIn checkOut night = x.inventory.find (roomTypeId, night) := by
  rw [inventoryOf, inventoryRows, Table.select, List.find?_filter, Table.find]
  congr 1
  funext r
  by_cases hd : r.date = night
  · simp [Inventory.key, between, hd, h₁, h₂]
  · simp [Inventory.key, hd]

/-- The rooms a type can sell on a day with none booked. -/
def freeRooms (x : TenantStore) (roomTypeId : RoomTypeId) (night : Day) : ℕ :=
  match x.inventory.find (roomTypeId, night) with
  | none => InventoryService.roomCount x.hotel roomTypeId
  | some r => r.totalRooms - r.blockedRooms

theorem dayAvailability_bookedRooms (hn : NothingBooked x) (h₁ : checkIn ≤ night)
    (h₂ : night ≤ checkOut) :
    (dayAvailability x roomTypeId checkIn checkOut ratePlanId night).bookedRooms = 0 := by
  simp only [dayAvailability, inventoryOf_eq h₁ h₂]
  cases hr : x.inventory.find (roomTypeId, night) with
  | none => rfl
  | some r => exact hn r (Table.find_eq_some.mp hr).1

theorem dayAvailability_available (hn : NothingBooked x) (h₁ : checkIn ≤ night)
    (h₂ : night ≤ checkOut) :
    (dayAvailability x roomTypeId checkIn checkOut ratePlanId night).available =
      freeRooms x roomTypeId night := by
  simp only [dayAvailability, inventoryOf_eq h₁ h₂, freeRooms]
  cases hr : x.inventory.find (roomTypeId, night) with
  | none => simp [InventoryService.computeAvailable]
  | some r =>
    have hb : r.bookedRooms = 0 := hn r (Table.find_eq_some.mp hr).1
    simp [InventoryService.computeAvailable, hb]

theorem mem_check_days {d : DayAvailability} (hc : checkIn ≤ checkOut) :
    d ∈ (check x roomTypeId checkIn checkOut ratePlanId).days ↔
      (checkIn ≤ d.date ∧ d.date < checkOut) ∧
        d = dayAvailability x roomTypeId checkIn checkOut ratePlanId d.date := by
  rw [check_days, List.mem_map]
  constructor
  · rintro ⟨day, hday, rfl⟩
    exact ⟨(mem_stayDates hc).mp hday, rfl⟩
  · rintro ⟨hday, hd⟩
    exact ⟨d.date, (mem_stayDates hc).mpr hday, hd.symm⟩

end Answer

/-- With no room booked in the inventory, the answers about a night are right if no room is held,
and if the type has no active room then only where it has none to sell. -/
theorem offersFollow_iff {x : TenantStore} (hn : NothingBooked x) (roomTypeId : RoomTypeId)
    (night : Day) : OffersFollow x roomTypeId night ↔
      x.hotel.heldRooms roomTypeId night = 0 ∧
        (InventoryService.roomCount x.hotel roomTypeId = 0 → freeRooms x roomTypeId night = 0) := by
  have hsold : x.hotel.heldRooms roomTypeId night = 0 →
      (x.hotel.SoldOut roomTypeId night ↔ InventoryService.roomCount x.hotel roomTypeId = 0) := by
    intro h₀
    rw [Hotel.roomCount_eq_zero]
    rw [Hotel.heldRooms_eq_zero] at h₀
    constructor
    · intro hs room hr ht ha
      exact h₀ room hr ht (hs room hr ht ha)
    · intro hs room hr ht ha
      exact absurd ha (hs room hr ht)
  constructor
  · intro h
    -- the stay of that one night
    have hlt : night < night + 1 := Int.lt_add_one_of_le le_rfl
    have hd := h night (night + 1) none hlt.le
      (AvailabilityService.dayAvailability x roomTypeId night (night + 1) none night)
      ((mem_check_days hlt.le).mpr ⟨⟨le_rfl, hlt⟩, rfl⟩) rfl
    rw [dayAvailability_bookedRooms hn le_rfl hlt.le,
      dayAvailability_available hn le_rfl hlt.le] at hd
    have h₀ := hd.1.symm
    exact ⟨h₀, fun hc => (hd.2 ((hsold h₀).mpr hc)).1⟩
  · rintro ⟨h₀, hfree⟩ checkIn checkOut ratePlanId hc d hd rfl
    obtain ⟨⟨h₁, h₂⟩, he⟩ := (mem_check_days hc).mp hd
    have hb : d.bookedRooms = 0 := by
      rw [he]
      exact dayAvailability_bookedRooms hn h₁ h₂.le
    have ha : d.available = freeRooms x roomTypeId d.date := by
      conv_lhs => rw [he]
      exact dayAvailability_available hn h₁ h₂.le
    refine ⟨hb.trans h₀.symm, fun hs => ?_⟩
    have h0 : d.available = 0 := ha.trans (hfree ((hsold h₀).mp hs))
    exact ⟨h0, AvailabilityService.check_bookable x roomTypeId checkIn checkOut ratePlanId hd h0⟩

/-- **Offers follow reservations only where no room is held.** -/
theorem offersFollow_run_iff {x : TenantStore} (hx : x.Fresh) (ops : List HouseOp)
    (roomTypeId : RoomTypeId) (night : Day) : OffersFollow (x.run ops) roomTypeId night ↔
      (x.run ops).hotel.heldRooms roomTypeId night = 0 ∧
        (InventoryService.roomCount (x.run ops).hotel roomTypeId = 0 →
          freeRooms (x.run ops) roomTypeId night = 0) :=
  offersFollow_iff (bookedRooms_run hx ops) roomTypeId night

/-- A hotel of one room, with nothing booked and nothing priced. -/
def TenantStore.oneRoom : TenantStore where
  hotel := .oneRoom false
  prices := ⟨.empty, .empty, .empty, [], .empty⟩
  inventory := .empty
  restrictions := []

/-- After a cancellation the night of the only room is free again, and offered. -/
theorem offersFollow_run_cancelled : TenantStore.oneRoom.Fresh ∧
    OffersFollow (TenantStore.oneRoom.run
      [.reservation (.create .oneNight .empty none 1), .reservation (.cancel 1 none false)]) 1 0 := by
  have hx : TenantStore.oneRoom.Fresh := ⟨rfl, rfl⟩
  refine ⟨hx, (offersFollow_run_iff hx _ 1 0).mpr ⟨?_, fun h => ?_⟩⟩
  · decide
  · exact absurd h (by decide)

/-- **After the only room was booked it is offered again.** -/
theorem not_offersFollow_run : ¬∀ (x : TenantStore) (ops : List HouseOp) (roomTypeId : RoomTypeId)
    (night : Day), x.Fresh → OffersFollow (x.run ops) roomTypeId night := by
  intro hall
  have h := hall .oneRoom [.reservation (.create .oneNight .empty none 1)] 1 0 ⟨rfl, rfl⟩ 0 1 none
    (by decide)
  have hday : ∃ d ∈ (AvailabilityService.check (TenantStore.oneRoom.run
      [.reservation (.create .oneNight .empty none 1)]) 1 0 1 none).days,
      d.date = 0 ∧ d.bookedRooms = 0 := by
    decide
  obtain ⟨d, hd, hdate, hb⟩ := hday
  have := (h d hd hdate).1
  rw [hb] at this
  exact absurd this (by decide)

end KarsHotel
