import KarsHotel.Inventory.Inventory
import KarsHotel.Lib.Calendar
import KarsHotel.Lib.Run

/-!
# The counters of the inventory

How many rooms of a type are booked and blocked on a day, as increments, decrements and bulk updates
count them. Each of them is a transaction: one that fails changes nothing.

* `ensure`, `incrementBooked`, `decrementBooked`, `bulkUpdate`: the writes, with the table's checks;
* `Checked`, `WithinAt`: no counter is negative; a day has no more rooms taken than it has;
* **`withinAt_step`**: only a bulk update of a day can take it out of bounds;
* `Backs.bulkUpdate`: a bulk update of the rows that the offers read is this one;
* **`counters_run`**: what holds in every run.
-/

namespace KarsHotel

/-- A row of `inventory`. -/
structure InventoryRow where
  roomTypeId : RoomTypeId
  date : Day
  totalRooms : ℤ
  bookedRooms : ℤ
  blockedRooms : ℤ
  stopSell : Bool
  deriving DecidableEq, Repr

namespace InventoryRow

/-- The unique index. -/
def key (r : InventoryRow) : RoomTypeId × Day := (r.roomTypeId, r.date)

/-- What is left of the day; negative where more is taken than there is. -/
def available (r : InventoryRow) : ℤ := r.totalRooms - r.bookedRooms - r.blockedRooms

/-- The checks of the table. -/
def Checked (r : InventoryRow) : Prop :=
  0 ≤ r.bookedRooms ∧ 0 ≤ r.blockedRooms ∧ 0 ≤ r.totalRooms

instance (r : InventoryRow) : Decidable r.Checked := by
  unfold Checked
  infer_instance

/-- The rooms taken are rooms there are. -/
def Within (r : InventoryRow) : Prop := r.bookedRooms + r.blockedRooms ≤ r.totalRooms

instance (r : InventoryRow) : Decidable r.Within := by
  unfold Within
  infer_instance

/-- A row that `ensure` creates. -/
def fresh (roomTypeId : RoomTypeId) (roomCount : ℕ) (date : Day) : InventoryRow :=
  ⟨roomTypeId, date, roomCount, 0, 0, false⟩

def book (delta : ℕ) (r : InventoryRow) : InventoryRow :=
  { r with bookedRooms := r.bookedRooms + delta }

/-- `GREATEST(0, booked_rooms - delta)`. -/
def release (delta : ℕ) (r : InventoryRow) : InventoryRow :=
  { r with bookedRooms := max 0 (r.bookedRooms - delta) }

/-- What is not sent stays. -/
def set (r : InventoryRow) (row : InventoryService.BulkUpdateRow) : InventoryRow :=
  { r with
    totalRooms := (row.totalRooms.map Int.ofNat).getD r.totalRooms
    blockedRooms := (row.blockedRooms.map Int.ofNat).getD r.blockedRooms
    stopSell := row.stopSell.getD r.stopSell }

end InventoryRow

/-- Room types, rooms and the counters of a hotel. -/
structure InventoryStore where
  roomTypes : Table RoomType.id
  rooms : Table Room.id
  inventory : Table InventoryRow.key

namespace InventoryStore

variable (s : InventoryStore) (roomTypeId : RoomTypeId)

/-- The active rooms of a type. -/
def roomCount : ℕ :=
  (s.rooms.select fun r => decide (r.roomTypeId = roomTypeId) && r.isActive).length

/-! ## Writes -/

def constraintViolation : Failure := .internal "inventory constraint violation"

/-- `INSERT … ON CONFLICT DO NOTHING`. -/
def insertRow (s : InventoryStore) (row : InventoryRow) : Except Failure InventoryStore :=
  match s.inventory.find row.key with
  | some _ => .ok s
  | none =>
    if (s.roomTypes.find row.roomTypeId).isSome ∧ row.Checked then
      .ok { s with inventory := s.inventory.insert row }
    else .error constraintViolation

/-- `UPDATE` of the rows of some dates. -/
def updateDates (dates : List Day) (f : InventoryRow → InventoryRow)
    (hf : ∀ r, (f r).key = r.key) : Except Failure InventoryStore :=
  let inventory := s.inventory.updateMany
    (fun r => decide (r.roomTypeId = roomTypeId ∧ r.date ∈ dates)) f hf
  if ∀ r ∈ inventory.rows, r.Checked then .ok { s with inventory := inventory }
  else .error constraintViolation

/-- A row for every date, with all active rooms where there was none. -/
def ensure (dates : List Day) : Except Failure InventoryStore :=
  let count := s.roomCount roomTypeId
  dates.foldlM (fun s date => s.insertRow (.fresh roomTypeId count date)) s

def noAvailability (roomTypeId : RoomTypeId) (row : InventoryRow) (delta : ℕ) : Failure :=
  .badRequest ("No availability for room type " ++ toString roomTypeId ++ " on " ++
    isoDate row.date ++ " (available: " ++ toString row.available ++ ", requested: " ++
    toString delta ++ ")")

def incrementBooked (dates : List Day) (delta : ℕ) : Except Failure InventoryStore :=
  if dates = [] then .ok s
  else do
    let s ← s.ensure roomTypeId dates
    let rows := s.inventory.select fun r => decide (r.roomTypeId = roomTypeId ∧ r.date ∈ dates)
    match rows.find? fun row => decide (row.available < (delta : ℤ)) with
    | some row => .error (noAvailability roomTypeId row delta)
    | none => s.updateDates roomTypeId dates (.book delta) fun _ => rfl

def decrementBooked (dates : List Day) (delta : ℕ) : Except Failure InventoryStore :=
  if dates = [] then .ok s
  else s.updateDates roomTypeId dates (.release delta) fun _ => rfl

open InventoryService (BulkUpdateRow roomTypeNotFound)

/-- One `upsert` of a bulk update. -/
def upsert (roomTypeId : RoomTypeId) (count : ℕ) (s : InventoryStore) (row : BulkUpdateRow) :
    Except Failure InventoryStore :=
  match s.inventory.find (roomTypeId, row.day) with
  | some _ => s.updateDates roomTypeId [row.day] (fun r => r.set row) fun _ => rfl
  | none => s.insertRow
      { roomTypeId := roomTypeId
        date := row.day
        totalRooms := row.totalRooms.getD count
        bookedRooms := 0
        blockedRooms := row.blockedRooms.getD 0
        stopSell := row.stopSell.getD false }

def bulkUpdate (rows : List BulkUpdateRow) : Except Failure InventoryStore :=
  match s.roomTypes.find roomTypeId with
  | none => .error roomTypeNotFound
  | some _ => rows.foldlM (upsert roomTypeId (s.roomCount roomTypeId)) s

/-- The row of a day, or the one that an increment or a bulk update starts from. -/
def rowFor (s : InventoryStore) (k : RoomTypeId × Day) : InventoryRow :=
  (s.inventory.find k).getD (.fresh k.1 (s.roomCount k.1) k.2)

/-- What a bulk update sends for a day. -/
def sentFor (rows : List BulkUpdateRow) (k : RoomTypeId × Day) : List BulkUpdateRow :=
  rows.filter fun row => decide ((roomTypeId, row.day) = k)

end InventoryStore

/-! ## Runs -/

/-- A write of the counters, or whatever the services of rooms and room types leave: the rows of a
deleted type go with it. -/
inductive CounterOp where
  | increment (roomTypeId : RoomTypeId) (dates : List Day) (delta : ℕ)
  | decrement (roomTypeId : RoomTypeId) (dates : List Day) (delta : ℕ)
  | bulkUpdate (roomTypeId : RoomTypeId) (rows : List InventoryService.BulkUpdateRow)
  | roomChange (roomTypes : Table RoomType.id) (rooms : Table Room.id)

namespace CounterOp

def exec (s : InventoryStore) : CounterOp → Except Failure InventoryStore
  | increment roomTypeId dates delta => s.incrementBooked roomTypeId dates delta
  | decrement roomTypeId dates delta => s.decrementBooked roomTypeId dates delta
  | bulkUpdate roomTypeId rows => s.bulkUpdate roomTypeId rows
  | roomChange roomTypes rooms => .ok
      { roomTypes := roomTypes
        rooms := rooms
        inventory := s.inventory.remove fun r => (roomTypes.find r.roomTypeId).isNone }

/-- A transaction that fails is rolled back. -/
def step (s : InventoryStore) (op : CounterOp) : InventoryStore :=
  match op.exec s with
  | .ok s' => s'
  | .error _ => s

/-- What a bulk update sends for a day leaves no more rooms taken than there are. -/
def Fits (k : RoomTypeId × Day) (s : InventoryStore) : CounterOp → Prop
  | bulkUpdate roomTypeId rows => InventoryStore.sentFor roomTypeId rows k ≠ [] →
      ((InventoryStore.sentFor roomTypeId rows k).foldl InventoryRow.set (s.rowFor k)).Within
  | _ => True

instance (k : RoomTypeId × Day) (s : InventoryStore) (op : CounterOp) :
    Decidable (op.Fits k s) := by
  cases op <;> unfold Fits <;> infer_instance

end CounterOp

/-! ## What a write does to a row -/

namespace InventoryStore

/-- No counter is negative. -/
def Checked (s : InventoryStore) : Prop := ∀ r ∈ s.inventory, r.Checked

/-- The row of a day, if there is one, has no more rooms taken than it has. -/
def WithinAt (s : InventoryStore) (k : RoomTypeId × Day) : Prop :=
  ∀ r, s.inventory.find k = some r → r.Within

/-- The rooms booked on a day. -/
def bookedAt (s : InventoryStore) (k : RoomTypeId × Day) : ℤ :=
  ((s.inventory.find k).map (·.bookedRooms)).getD 0

section Writes

variable {s s' : InventoryStore} {roomTypeId : RoomTypeId} {dates : List Day} {delta : ℕ}
  {row : InventoryRow} {f : InventoryRow → InventoryRow} {hf : ∀ r, (f r).key = r.key}

theorem Checked.find (h : s.Checked) {k : RoomTypeId × Day} {r : InventoryRow}
    (hr : s.inventory.find k = some r) : r.Checked := h r (Table.find_eq_some.mp hr).1

theorem find_insertRow (h : s.insertRow row = .ok s') (k : RoomTypeId × Day) :
    s'.inventory.find k = (s.inventory.find k).or (if k = row.key then some row else none) := by
  unfold insertRow at h
  cases hfind : s.inventory.find row.key with
  | some r =>
    rw [hfind] at h
    cases h
    by_cases hk : k = row.key
    · rw [hk, hfind, Option.some_or]
    · rw [if_neg hk, Option.or_none]
  | none =>
    rw [hfind] at h
    dsimp only at h
    split_ifs at h
    cases h
    by_cases hk : k = row.key
    · rw [if_pos hk, hk, hfind, Option.none_or]
      exact Table.find_insert_self hfind
    · rw [if_neg hk, Option.or_none]
      exact Table.find_insert_of_ne hk

theorem checked_insertRow (hs : s.Checked) (h : s.insertRow row = .ok s') : s'.Checked := by
  unfold insertRow at h
  split at h
  · cases h
    exact hs
  · split_ifs at h with hrow
    cases h
    intro r hr
    rcases Table.mem_of_mem_insert hr with hr | rfl
    · exact hs r hr
    · exact hrow.2

theorem updateDates_ok (h : s.updateDates roomTypeId dates f hf = .ok s') :
    s'.Checked ∧ ∀ k, s'.inventory.find k =
      (s.inventory.find k).map
        fun r => if r.roomTypeId = roomTypeId ∧ r.date ∈ dates then f r else r := by
  unfold updateDates at h
  dsimp only at h
  split_ifs at h with hchecked
  cases h
  refine ⟨hchecked, fun k => ?_⟩
  rw [Table.updateMany, Table.find_map]
  simp only [decide_eq_true_eq]

theorem find_key {k : RoomTypeId × Day} {r : InventoryRow} (h : s.inventory.find k = some r) :
    r.roomTypeId = k.1 ∧ r.date = k.2 := by
  have hkey := (Table.find_eq_some.mp h).2
  exact ⟨congrArg Prod.fst hkey, congrArg Prod.snd hkey⟩

theorem find_updateDates (h : s.updateDates roomTypeId dates f hf = .ok s') (k : RoomTypeId × Day) :
    s'.inventory.find k =
      if k.1 = roomTypeId ∧ k.2 ∈ dates then (s.inventory.find k).map f
      else s.inventory.find k := by
  rw [(updateDates_ok h).2 k]
  cases hfind : s.inventory.find k with
  | none => simp
  | some r =>
    obtain ⟨htype, hdate⟩ := find_key hfind
    rw [Option.map_some, htype, hdate]
    split_ifs <;> rfl

theorem find_insertRows {count : ℕ}
    (h : dates.foldlM (fun s date => s.insertRow (.fresh roomTypeId count date)) s = .ok s')
    (k : RoomTypeId × Day) : s'.inventory.find k = (s.inventory.find k).or
      (if k.1 = roomTypeId ∧ k.2 ∈ dates then some (.fresh roomTypeId count k.2) else none) := by
  induction dates generalizing s with
  | nil =>
    cases h
    simp
  | cons date dates ih =>
    rw [List.foldlM_cons] at h
    cases hrow : s.insertRow (.fresh roomTypeId count date) with
    | error x =>
      rw [hrow] at h
      cases h
    | ok t =>
      rw [hrow] at h
      rw [ih h, find_insertRow hrow, Option.or_assoc]
      congr 1
      by_cases hk : k = (roomTypeId, date)
      · subst hk
        simp [InventoryRow.fresh, InventoryRow.key]
      · have hne : ¬(k.1 = roomTypeId ∧ k.2 = date) := fun hkey => hk (Prod.ext hkey.1 hkey.2)
        have hkey : ¬k = (InventoryRow.fresh roomTypeId count date).key := hk
        rw [if_neg hkey, Option.none_or]
        by_cases htype : k.1 = roomTypeId
        · have hdate : k.2 ≠ date := fun hdate => hne ⟨htype, hdate⟩
          simp [htype, hdate]
        · simp [htype]

theorem ensure_ok (h : s.ensure roomTypeId dates = .ok s') (k : RoomTypeId × Day) :
    s'.inventory.find k = (s.inventory.find k).or
      (if k.1 = roomTypeId ∧ k.2 ∈ dates then
        some (.fresh roomTypeId (s.roomCount roomTypeId) k.2) else none) :=
  find_insertRows h k

/-- **What an increment does**: every one of its days has the rooms, and gets them booked. -/
theorem find_incrementBooked (h : s.incrementBooked roomTypeId dates delta = .ok s')
    (k : RoomTypeId × Day) :
    (k.1 = roomTypeId → k.2 ∈ dates → (delta : ℤ) ≤ (s.rowFor k).available ∧
      s'.inventory.find k = some ((s.rowFor k).book delta)) ∧
    (¬(k.1 = roomTypeId ∧ k.2 ∈ dates) → s'.inventory.find k = s.inventory.find k) := by
  unfold incrementBooked at h
  by_cases hdates : dates = []
  · rw [if_pos hdates] at h
    cases h
    simp [hdates]
  rw [if_neg hdates] at h
  cases hensure : s.ensure roomTypeId dates with
  | error x =>
    rw [hensure] at h
    cases h
  | ok t =>
    rw [hensure] at h
    dsimp only [bind, Except.bind] at h
    split at h
    · cases h
    next hroom =>
    have hrow := ensure_ok hensure k
    have hupdate := find_updateDates h k
    constructor
    · intro htype hdate
      have hfor : t.inventory.find k = some (s.rowFor k) := by
        rw [hrow, if_pos ⟨htype, hdate⟩, rowFor, ← htype]
        cases s.inventory.find k <;> rfl
      constructor
      · obtain ⟨hmem, hkey⟩ := Table.find_eq_some.mp hfor
        obtain ⟨htype', hdate'⟩ := find_key hfor
        have hsel : s.rowFor k ∈ t.inventory.select fun r =>
            decide (r.roomTypeId = roomTypeId ∧ r.date ∈ dates) := by
          rw [Table.mem_select, decide_eq_true_eq, htype', hdate']
          exact ⟨hmem, htype, hdate⟩
        simpa using List.find?_eq_none.mp hroom _ hsel
      · rw [hupdate, if_pos ⟨htype, hdate⟩, hfor]
        rfl
    · intro hk
      rw [hupdate, if_neg hk, hrow, if_neg hk, Option.or_none]

theorem find_decrementBooked (h : s.decrementBooked roomTypeId dates delta = .ok s')
    (k : RoomTypeId × Day) :
    s'.inventory.find k =
      if k.1 = roomTypeId ∧ k.2 ∈ dates then (s.inventory.find k).map (.release delta)
      else s.inventory.find k := by
  unfold decrementBooked at h
  split_ifs at h with hdates
  · cases h
    simp [hdates]
  · exact find_updateDates h k

theorem find_upsert {count : ℕ} {row : InventoryService.BulkUpdateRow}
    (h : upsert roomTypeId count s row = .ok s') (k : RoomTypeId × Day) :
    s'.inventory.find k = if (roomTypeId, row.day) = k then
      some (((s.inventory.find k).getD (.fresh k.1 count k.2)).set row)
      else s.inventory.find k := by
  unfold upsert at h
  cases hfind : s.inventory.find (roomTypeId, row.day) with
  | some r =>
    rw [hfind] at h
    rw [find_updateDates h]
    by_cases hk : (roomTypeId, row.day) = k
    · subst hk
      rw [if_pos rfl, if_pos ⟨rfl, List.mem_singleton_self _⟩, hfind]
      rfl
    · rw [if_neg hk, if_neg]
      intro hkey
      exact hk (Prod.ext hkey.1.symm (List.mem_singleton.mp hkey.2).symm)
  | none =>
    rw [hfind] at h
    rw [find_insertRow h]
    show (s.inventory.find k).or (if k = (roomTypeId, row.day) then _ else none) = _
    by_cases hk : (roomTypeId, row.day) = k
    · subst hk
      rw [if_pos rfl, hfind, Option.none_or, if_pos rfl]
      unfold InventoryRow.set InventoryRow.fresh
      cases row.totalRooms <;> cases row.blockedRooms <;> rfl
    · have hkey : ¬k = (roomTypeId, row.day) := fun hkey => hk hkey.symm
      rw [if_neg hk, if_neg hkey, Option.or_none]

/-- The rows that a bulk update sends for a day, one after the other. -/
theorem find_upserts {count : ℕ} {rows : List InventoryService.BulkUpdateRow}
    (h : rows.foldlM (upsert roomTypeId count) s = .ok s') (k : RoomTypeId × Day) :
    s'.inventory.find k = (sentFor roomTypeId rows k).foldl
      (fun o row => some ((o.getD (.fresh k.1 count k.2)).set row)) (s.inventory.find k) := by
  induction rows generalizing s with
  | nil =>
    cases h
    rfl
  | cons row rows ih =>
    rw [List.foldlM_cons] at h
    cases hrow : upsert roomTypeId count s row with
    | error x =>
      rw [hrow] at h
      cases h
    | ok t =>
      rw [hrow] at h
      rw [ih h, find_upsert hrow, sentFor, sentFor, List.filter_cons]
      by_cases hk : (roomTypeId, row.day) = k <;> simp [hk]

theorem foldl_getD {ι ρ : Type} (g : ρ → ι → ρ) (fresh : ρ) (o : Option ρ) (xs : List ι) :
    xs.foldl (fun o x => some (g (o.getD fresh) x)) o =
      if xs = [] then o else some (xs.foldl g (o.getD fresh)) := by
  induction xs generalizing o with
  | nil => rfl
  | cons x xs ih =>
    rw [List.foldl_cons, ih, if_neg (List.cons_ne_nil _ _)]
    split_ifs with hxs
    · rw [hxs]
      rfl
    · rfl

/-- **What a bulk update does**: the rows that it sends for a day set it. -/
theorem find_bulkUpdate {rows : List InventoryService.BulkUpdateRow}
    (h : s.bulkUpdate roomTypeId rows = .ok s') (k : RoomTypeId × Day) :
    s'.inventory.find k = if sentFor roomTypeId rows k = [] then s.inventory.find k else
      some ((sentFor roomTypeId rows k).foldl InventoryRow.set (s.rowFor k)) := by
  unfold bulkUpdate at h
  split at h
  · cases h
  rw [find_upserts h, foldl_getD]
  split_ifs with hsent
  · rfl
  · obtain ⟨row, hrow⟩ := List.exists_mem_of_ne_nil _ hsent
    have hk : (roomTypeId, row.day) = k := by simpa using (List.mem_filter.mp hrow).2
    rw [rowFor, ← hk]

end Writes

/-! ## What a step keeps -/

section Steps

variable {s s' : InventoryStore} {op : CounterOp} {k : RoomTypeId × Day}

open InventoryService (BulkUpdateRow)

theorem checked_incrementBooked {roomTypeId : RoomTypeId} {dates : List Day} {delta : ℕ}
    (hs : s.Checked) (h : s.incrementBooked roomTypeId dates delta = .ok s') : s'.Checked := by
  unfold incrementBooked at h
  split_ifs at h with hdates
  · cases h
    exact hs
  cases hensure : s.ensure roomTypeId dates with
  | error x =>
    rw [hensure] at h
    cases h
  | ok t =>
    rw [hensure] at h
    dsimp only [bind, Except.bind] at h
    split at h
    · cases h
    · exact (updateDates_ok h).1

theorem checked_decrementBooked {roomTypeId : RoomTypeId} {dates : List Day} {delta : ℕ}
    (hs : s.Checked) (h : s.decrementBooked roomTypeId dates delta = .ok s') : s'.Checked := by
  unfold decrementBooked at h
  split_ifs at h
  · cases h
    exact hs
  · exact (updateDates_ok h).1

theorem checked_upsert {roomTypeId : RoomTypeId} {count : ℕ} {row : BulkUpdateRow}
    (hs : s.Checked) (h : upsert roomTypeId count s row = .ok s') : s'.Checked := by
  unfold upsert at h
  split at h
  · exact (updateDates_ok h).1
  · exact checked_insertRow hs h

theorem checked_bulkUpdate {roomTypeId : RoomTypeId} {rows : List BulkUpdateRow}
    (hs : s.Checked) (h : s.bulkUpdate roomTypeId rows = .ok s') : s'.Checked := by
  unfold bulkUpdate at h
  split at h
  · cases h
  · exact foldlM_keeps (fun _ _ _ => checked_upsert) hs h

/-- **No write makes a counter negative.** -/
theorem checked_step (hs : s.Checked) (op : CounterOp) : (op.step s).Checked := by
  unfold CounterOp.step
  cases hexec : op.exec s with
  | error x => exact hs
  | ok s' =>
    cases op with
    | increment roomTypeId dates delta => exact checked_incrementBooked hs hexec
    | decrement roomTypeId dates delta => exact checked_decrementBooked hs hexec
    | bulkUpdate roomTypeId rows => exact checked_bulkUpdate hs hexec
    | roomChange roomTypes rooms =>
      cases hexec
      intro r hr
      exact hs r (Table.mem_remove.mp hr).1

/-- A day for which an increment had the rooms is within its bounds afterwards. -/
theorem within_book {r : InventoryRow} {delta : ℕ} (h : (delta : ℤ) ≤ r.available) :
    (r.book delta).Within := by
  unfold InventoryRow.Within InventoryRow.book
  unfold InventoryRow.available at h
  dsimp only
  omega

theorem within_release {r : InventoryRow} {delta : ℕ} (hc : r.Checked) (h : r.Within) :
    (r.release delta).Within := by
  unfold InventoryRow.Within InventoryRow.release at *
  obtain ⟨hbooked, -, -⟩ := hc
  dsimp only
  omega

theorem release_book {r : InventoryRow} {delta : ℕ} (h : r.Checked) :
    ((r.book delta).release delta).bookedRooms = r.bookedRooms := by
  obtain ⟨hbooked, -, -⟩ := h
  unfold InventoryRow.book InventoryRow.release
  dsimp only
  omega

theorem checked_release {r : InventoryRow} {delta : ℕ} (h : r.Checked) :
    (r.release delta).Checked := ⟨le_max_left _ _, h.2⟩

theorem checked_rowFor (hs : s.Checked) (k : RoomTypeId × Day) : (s.rowFor k).Checked := by
  unfold rowFor
  cases hfind : s.inventory.find k with
  | none => exact ⟨le_rfl, le_rfl, Int.natCast_nonneg _⟩
  | some r => exact hs.find hfind

/-- The checks of the table refuse no decrement. -/
theorem decrementBooked_exists (roomTypeId : RoomTypeId) (dates : List Day) (delta : ℕ)
    (hs : s.Checked) : ∃ s', s.decrementBooked roomTypeId dates delta = .ok s' := by
  unfold decrementBooked updateDates
  dsimp only
  split_ifs with hdates hchecked
  · exact ⟨_, rfl⟩
  · exact ⟨_, rfl⟩
  · refine absurd (fun r hr => ?_) hchecked
    obtain ⟨r₀, hr₀, hr⟩ := List.mem_map.mp hr
    rw [← hr]
    split_ifs
    · exact checked_release (hs r₀ hr₀)
    · exact hs r₀ hr₀

/-- **Only a bulk update can take a day out of bounds.** -/
theorem withinAt_step (hs : s.Checked) (hk : s.WithinAt k) (op : CounterOp) (hfits : op.Fits k s) :
    (op.step s).WithinAt k := by
  cases hexec : op.exec s with
  | error x =>
    have hstep : op.step s = s := by rw [CounterOp.step, hexec]
    rw [hstep]
    exact hk
  | ok s' =>
    have hstep : op.step s = s' := by rw [CounterOp.step, hexec]
    cases op with
    | increment roomTypeId dates delta =>
      rw [hstep]
      obtain ⟨hin, hout⟩ := find_incrementBooked hexec k
      intro r hr
      by_cases hday : k.1 = roomTypeId ∧ k.2 ∈ dates
      · obtain ⟨hroom, hrow⟩ := hin hday.1 hday.2
        rw [hrow] at hr
        cases hr
        exact within_book hroom
      · rw [hout hday] at hr
        exact hk r hr
    | decrement roomTypeId dates delta =>
      rw [hstep]
      intro r hr
      rw [find_decrementBooked hexec k] at hr
      split_ifs at hr
      · obtain ⟨r₀, hr₀, rfl⟩ := Option.map_eq_some_iff.mp hr
        exact within_release (hs.find hr₀) (hk r₀ hr₀)
      · exact hk r hr
    | bulkUpdate roomTypeId rows =>
      rw [hstep]
      intro r hr
      rw [find_bulkUpdate hexec k] at hr
      split_ifs at hr with hsent
      · exact hk r hr
      · cases hr
        exact hfits hsent
    | roomChange roomTypes rooms =>
      rw [hstep]
      cases hexec
      intro r hr
      obtain ⟨hmem, hkey⟩ := Table.find_eq_some.mp hr
      exact hk r (Table.find_eq_some.mpr ⟨(Table.mem_remove.mp hmem).1, hkey⟩)

/-! ## Refused and taken back -/

variable {roomTypeId : RoomTypeId} {dates : List Day} {delta : ℕ}

/-- A day without the rooms refuses the increment. -/
theorem incrementBooked_refused {date : Day} (hdate : date ∈ dates)
    (h : (s.rowFor (roomTypeId, date)).available < delta) :
    ∃ x, s.incrementBooked roomTypeId dates delta = .error x := by
  cases hincrement : s.incrementBooked roomTypeId dates delta with
  | error x => exact ⟨x, rfl⟩
  | ok s' =>
    have hroom := ((find_incrementBooked hincrement (roomTypeId, date)).1 rfl hdate).1
    omega

/-- **A decrement takes its increment back.** -/
theorem decrementBooked_incrementBooked (hs : s.Checked)
    (h : s.incrementBooked roomTypeId dates delta = .ok s') :
    ∃ s'', s'.decrementBooked roomTypeId dates delta = .ok s'' ∧
      ∀ k, s''.bookedAt k = s.bookedAt k := by
  have hs' : s'.Checked := checked_incrementBooked hs h
  obtain ⟨s'', hs''⟩ := decrementBooked_exists roomTypeId dates delta hs'
  refine ⟨s'', hs'', fun k => ?_⟩
  obtain ⟨hin, hout⟩ := find_incrementBooked h k
  unfold bookedAt
  rw [find_decrementBooked hs'' k]
  by_cases hday : k.1 = roomTypeId ∧ k.2 ∈ dates
  · rw [if_pos hday, (hin hday.1 hday.2).2, Option.map_some, Option.map_some, Option.getD_some]
    have hbooked : (s.rowFor k).bookedRooms =
        ((s.inventory.find k).map (·.bookedRooms)).getD 0 := by
      unfold rowFor
      cases s.inventory.find k <;> rfl
    rw [← hbooked]
    exact release_book (checked_rowFor hs k)
  · rw [if_neg hday, hout hday]

/-! ## The same counters as the offers read -/

/-- The row of the offers, which has no negative counters. -/
def ofInventory (r : Inventory) : InventoryRow :=
  ⟨r.roomTypeId, r.date, r.totalRooms, r.bookedRooms, r.blockedRooms, r.stopSell⟩

/-- The store has the rooms, types and counters that the offers of a hotel are made from. -/
structure Backs (s : InventoryStore) (x : TenantStore) : Prop where
  roomTypes : s.roomTypes = x.prices.roomTypes
  rooms : s.rooms = x.hotel.rooms
  inventory : ∀ k, s.inventory.find k = (x.inventory.find k).map ofInventory

theorem Backs.checked {x : TenantStore} (h : s.Backs x) : s.Checked := by
  intro r hr
  have hfind : s.inventory.find r.key = some r := Table.find_eq_some.mpr ⟨hr, rfl⟩
  rw [h.inventory] at hfind
  obtain ⟨r₀, -, rfl⟩ := Option.map_eq_some_iff.mp hfind
  exact ⟨Int.natCast_nonneg _, Int.natCast_nonneg _, Int.natCast_nonneg _⟩

theorem ofInventory_update (r : Inventory) (row : BulkUpdateRow) :
    ofInventory (row.update r) = (ofInventory r).set row := by
  unfold ofInventory BulkUpdateRow.update InventoryRow.set
  cases row.totalRooms <;> cases row.blockedRooms <;> rfl

theorem ofInventory_create (roomTypeId : RoomTypeId) (count : ℕ) (row : BulkUpdateRow) :
    ofInventory (row.create roomTypeId count) =
      (InventoryRow.fresh roomTypeId count row.day).set row := by
  unfold ofInventory BulkUpdateRow.create InventoryRow.set InventoryRow.fresh
  cases row.totalRooms <;> cases row.blockedRooms <;> rfl

theorem checked_set {r : InventoryRow} (h : r.Checked) (row : BulkUpdateRow) :
    (r.set row).Checked := by
  obtain ⟨hbooked, hblocked, htotal⟩ := h
  refine ⟨hbooked, ?_, ?_⟩
  · unfold InventoryRow.set
    cases row.blockedRooms with
    | none => exact hblocked
    | some n => exact Int.natCast_nonneg n
  · unfold InventoryRow.set
    cases row.totalRooms with
    | none => exact htotal
    | some n => exact Int.natCast_nonneg n

/-- The checks of the table refuse no row of a bulk update, and only the counters change. -/
theorem upsert_exists (count : ℕ) (hs : s.Checked) (htype : (s.roomTypes.find roomTypeId).isSome)
    (row : BulkUpdateRow) : ∃ inventory,
      upsert roomTypeId count s row = .ok { s with inventory := inventory } := by
  unfold upsert
  cases hfind : s.inventory.find (roomTypeId, row.day) with
  | some r =>
    unfold updateDates
    dsimp only
    rw [if_pos]
    · exact ⟨_, rfl⟩
    · intro r hr
      obtain ⟨r₀, hr₀, hr⟩ := List.mem_map.mp hr
      rw [← hr]
      split_ifs
      · exact checked_set (hs r₀ hr₀) row
      · exact hs r₀ hr₀
  | none =>
    unfold insertRow
    have hkey : s.inventory.find (InventoryRow.key ⟨roomTypeId, row.day, row.totalRooms.getD count,
        0, row.blockedRooms.getD 0, row.stopSell.getD false⟩) = none := hfind
    dsimp only
    rw [hkey]
    dsimp only
    rw [if_pos ⟨htype, le_rfl, Int.natCast_nonneg _, Int.natCast_nonneg _⟩]
    exact ⟨_, rfl⟩

theorem find_inventoryUpsert {t : Table Inventory.key} {count : ℕ} {row : BulkUpdateRow}
    (k : RoomTypeId × Day) :
    ((InventoryService.upsert roomTypeId count t row).find k).map ofInventory =
      if (roomTypeId, row.day) = k then
        some ((((t.find k).map ofInventory).getD (.fresh k.1 count k.2)).set row)
      else (t.find k).map ofInventory := by
  unfold InventoryService.upsert
  cases hfind : t.find (roomTypeId, row.day) with
  | some r =>
    have hrow : ∀ r : Inventory, (row.update r).key = r.key := fun _ => rfl
    show ((t.modify (roomTypeId, row.day) row.update hrow).find k).map ofInventory = _
    by_cases hk : (roomTypeId, row.day) = k
    · subst hk
      rw [if_pos rfl, Table.find_modify_self, hfind]
      exact congrArg some (ofInventory_update r row)
    · rw [if_neg hk, Table.find_modify_of_ne fun hne => hk hne.symm]
  | none =>
    have hnew : t.find (row.create roomTypeId count).key = none := hfind
    by_cases hk : (roomTypeId, row.day) = k
    · subst hk
      rw [if_pos rfl, hfind]
      show ((t.insert _).find (row.create roomTypeId count).key).map ofInventory = _
      rw [Table.find_insert_self hnew]
      exact congrArg some (ofInventory_create roomTypeId count row)
    · rw [if_neg hk]
      show ((t.insert _).find k).map ofInventory = _
      have hkey : k ≠ (row.create roomTypeId count).key := fun hne => hk hne.symm
      rw [Table.find_insert_of_ne hkey]

theorem Backs.upsert {x : TenantStore} (h : s.Backs x) (count : ℕ)
    (htype : (s.roomTypes.find roomTypeId).isSome) (row : BulkUpdateRow) :
    ∃ s', upsert roomTypeId count s row = .ok s' ∧ s'.Backs
      { x with inventory := InventoryService.upsert roomTypeId count x.inventory row } := by
  obtain ⟨inventory, hs'⟩ := upsert_exists count h.checked htype row
  refine ⟨_, hs', h.roomTypes, h.rooms, fun k => ?_⟩
  rw [find_upsert hs' k, find_inventoryUpsert, h.inventory]

theorem Backs.upserts {x : TenantStore} (h : s.Backs x) {count : ℕ}
    (htype : (s.roomTypes.find roomTypeId).isSome) (rows : List BulkUpdateRow) :
    ∃ s', rows.foldlM (InventoryStore.upsert roomTypeId count) s = .ok s' ∧ s'.Backs { x with
      inventory := rows.foldl (InventoryService.upsert roomTypeId count) x.inventory } := by
  induction rows generalizing s x with
  | nil => exact ⟨s, rfl, h⟩
  | cons row rows ih =>
    obtain ⟨t, ht, hbacks⟩ := h.upsert count htype row
    have htype' : (t.roomTypes.find roomTypeId).isSome := by
      rw [hbacks.roomTypes, ← h.roomTypes]
      exact htype
    obtain ⟨s', hs', hbacks'⟩ := ih hbacks htype'
    refine ⟨s', ?_, hbacks'⟩
    rw [List.foldlM_cons, ht]
    exact hs'

/-- **The two models of a bulk update agree**: none that the offers read fails on a check. -/
theorem Backs.bulkUpdate {x x' : TenantStore} {n : ℕ} {rows : List BulkUpdateRow} (h : s.Backs x)
    (hx : InventoryService.bulkUpdate roomTypeId rows x = .ok (n, x')) :
    ∃ s', s.bulkUpdate roomTypeId rows = .ok s' ∧ s'.Backs x' := by
  unfold InventoryService.bulkUpdate at hx
  unfold InventoryStore.bulkUpdate
  rw [h.roomTypes]
  cases htype : x.prices.roomTypes.find roomTypeId with
  | none =>
    rw [htype] at hx
    cases hx
  | some roomType =>
    rw [htype] at hx
    cases hx
    have hcount : s.roomCount roomTypeId = InventoryService.roomCount x.hotel roomTypeId := by
      rw [roomCount, InventoryService.roomCount, h.rooms]
    dsimp only
    rw [hcount]
    exact h.upserts (by rw [h.roomTypes, htype]; rfl) rows

end Steps

end InventoryStore

/-- **The counters in every run.** No counter is negative; a day within its bounds stays so unless a
bulk update takes it out; an increment leaves its days within; one that is refused, as for every day
without the rooms, changes nothing; and a decrement takes back the increment before it. -/
theorem counters_run {s : InventoryStore} (hs : s.Checked) (ops : List CounterOp) :
    (ops.foldl CounterOp.step s).Checked ∧
    (∀ k, s.WithinAt k → StepsMeet CounterOp.step (fun t op => op.Fits k t) s ops →
      (ops.foldl CounterOp.step s).WithinAt k) ∧
    ∀ roomTypeId dates (delta : ℕ),
      ((∃ date ∈ dates,
          ((ops.foldl CounterOp.step s).rowFor (roomTypeId, date)).available < delta) →
        ∃ x, (ops.foldl CounterOp.step s).incrementBooked roomTypeId dates delta = .error x) ∧
      (∀ x, (ops.foldl CounterOp.step s).incrementBooked roomTypeId dates delta = .error x →
        (CounterOp.increment roomTypeId dates delta).step (ops.foldl CounterOp.step s) =
          ops.foldl CounterOp.step s) ∧
      ∀ s', (ops.foldl CounterOp.step s).incrementBooked roomTypeId dates delta = .ok s' →
        (∀ date ∈ dates, s'.WithinAt (roomTypeId, date)) ∧
        ∃ s'', s'.decrementBooked roomTypeId dates delta = .ok s'' ∧
          ∀ k, s''.bookedAt k = (ops.foldl CounterOp.step s).bookedAt k := by
  have hchecked : (ops.foldl CounterOp.step s).Checked :=
    foldl_keeps_all (P := InventoryStore.Checked)
      (fun t op ht => InventoryStore.checked_step ht op) ops hs
  refine ⟨hchecked, fun k hk hfits => ?_, fun roomTypeId dates delta => ⟨?_, ?_, ?_⟩⟩
  · have hrun := foldl_keeps (P := fun t : InventoryStore => t.Checked ∧ t.WithinAt k)
      (fun t op ht hok => ⟨InventoryStore.checked_step ht.1 op,
        InventoryStore.withinAt_step ht.1 ht.2 op hok⟩) ⟨hs, hk⟩ hfits
    exact hrun.2
  · rintro ⟨date, hdate, hroom⟩
    exact InventoryStore.incrementBooked_refused hdate hroom
  · intro x hx
    have hexec : (CounterOp.increment roomTypeId dates delta).exec (ops.foldl CounterOp.step s) =
        .error x := hx
    rw [CounterOp.step, hexec]
  · intro s' hs'
    refine ⟨fun date hdate r hr => ?_, InventoryStore.decrementBooked_incrementBooked hchecked hs'⟩
    obtain ⟨hroom, hrow⟩ :=
      (InventoryStore.find_incrementBooked hs' (roomTypeId, date)).1 rfl hdate
    rw [hrow] at hr
    cases hr
    exact InventoryStore.within_book hroom

/-- A hotel with one room. -/
def houseOfOne : InventoryStore where
  roomTypes := Table.empty.insert ⟨1, 1, 2, true⟩
  rooms := Table.empty.insert ⟨1, 1, 2, true, .clean⟩
  inventory := Table.empty

/-- The room is booked, and put up for five times on another day. -/
def twoDays : List CounterOp :=
  [.increment 1 [0] 1, .bulkUpdate 1 [⟨.ofDay 1, some 5, some 2, none⟩]]

/-- The booked day stays within its bounds, and is not booked again with the other. -/
theorem counters_run_houseOfOne :
    (twoDays.foldl CounterOp.step houseOfOne).WithinAt (1, 0) ∧
    (twoDays.foldl CounterOp.step houseOfOne).WithinAt (1, 1) ∧
    ∃ x, (twoDays.foldl CounterOp.step houseOfOne).incrementBooked 1 [1, 0] 1 = .error x := by
  have hchecked : houseOfOne.Checked := fun r hr => absurd hr (Table.not_mem_empty r)
  have hwithin : ∀ k, houseOfOne.WithinAt k := fun k r hr => by cases hr
  obtain ⟨-, hdays, hincrement⟩ := counters_run hchecked twoDays
  refine ⟨hdays (1, 0) (hwithin _) ⟨trivial, by decide +kernel, trivial⟩,
    hdays (1, 1) (hwithin _) ⟨trivial, by decide +kernel, trivial⟩, ?_⟩
  exact (hincrement 1 [1, 0] 1).1 ⟨0, by decide, by decide +kernel⟩

/-- The room is booked, then no room is left to sell. -/
theorem overbooked_by_bulkUpdate :
    ¬∀ (s : InventoryStore) (ops : List CounterOp), s.Checked → (∀ k, s.WithinAt k) →
      (ops.foldl CounterOp.step s).Checked ∧ ∀ k, (ops.foldl CounterOp.step s).WithinAt k := by
  intro h
  have hrow := (h houseOfOne [.increment 1 [0] 1, .bulkUpdate 1 [⟨.ofDay 0, some 0, none, none⟩]]
    (fun r hr => absurd hr (Table.not_mem_empty r)) (fun k r hr => by cases hr)).2 (1, 0)
    ⟨1, 0, 0, 1, 0, false⟩ (by decide +kernel)
  revert hrow
  decide

end KarsHotel
