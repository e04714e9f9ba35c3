import KarsHotel.Connectivity.AvailabilityFor
import KarsHotel.Frontend.Chessboard
import KarsHotel.Lib.Grouping

/-!
# The timeline of a hotel

The server reads the active rooms and the reservations that meet a window of days, and groups them
by categories and rooms; the screen flattens that into lists of its own.

* `getTimeline`: what the server answers; `transformTimeline`: the board the screen makes of it;
* **`board_shows`**: the board shows the rooms and the stays of the window, each once, in order; so
  it counts as free what the tables leave free.
-/

namespace KarsHotel.TimelineService

/-! ## The answer -/

/-- The columns of rooms and categories that only the board shows, and the hotel's clock. -/
structure TimelineColumns where
  roomNumber : RoomId → String
  floor : RoomId → ℤ
  partnerHold : RoomId → RoomPartnerHold
  typeCode : RoomTypeId → String
  typeName : RoomTypeId → String
  basePrice : RoomTypeId → Price
  sortOrder : RoomTypeId → ℤ
  localTime : Moment → String

structure TimelineReservation where
  id : ReservationId
  roomId : RoomId
  guestName : String
  phone : Option String
  email : Option String
  checkIn : Day
  checkOut : Day
  status : ReservationStatus
  adults : ℕ
  children : ℕ
  notes : Option String
  totalPrice : Option Price
  source : ReservationSource
  channelManaged : Bool
  guestKind : Option GuestKind
  ratePlanId : Option RatePlanId
  version : ℕ
  placeNumber : ℕ
  arrivalAt : Option String
  departureAt : Option String
  flight : Option String
  checkedInAt : Option String
  checkedOutAt : Option String
  deriving DecidableEq, Repr

structure TimelineRoom where
  id : RoomId
  number : String
  floor : ℤ
  status : RoomStatus
  capacity : ℕ
  partnerHold : RoomPartnerHold
  reservations : List TimelineReservation
  deriving DecidableEq, Repr

structure TimelineRoomType where
  id : RoomTypeId
  code : String
  name : String
  sortOrder : ℤ
  basePrice : Price
  rooms : List TimelineRoom
  deriving DecidableEq, Repr

structure TimelineResponse where
  first : Day
  last : Day
  roomTypes : List TimelineRoomType
  cacheTtl : ℤ
  deriving DecidableEq, Repr

/-- A room joined with its category. -/
structure RawRoomRow where
  roomId : RoomId
  roomNumber : String
  floor : ℤ
  roomStatus : RoomStatus
  capacity : ℕ
  partnerHold : RoomPartnerHold
  roomTypeId : RoomTypeId
  roomTypeCode : String
  roomTypeName : String
  basePrice : Price
  sortOrder : ℤ
  deriving DecidableEq, Repr

/-- `ORDER BY sort_order, floor, room_number`. -/
def RawRoomRow.Before (a b : RawRoomRow) : Prop :=
  a.sortOrder < b.sortOrder ∨ a.sortOrder = b.sortOrder ∧
    (a.floor < b.floor ∨ a.floor = b.floor ∧ a.roomNumber ≤ b.roomNumber)

instance : DecidableRel RawRoomRow.Before := fun a b => by
  unfold RawRoomRow.Before
  infer_instance

section Answer

variable (c : TimelineColumns) (h : Hotel) (first last : Day)

def rawRoom (r : Room) : RawRoomRow where
  roomId := r.id
  roomNumber := c.roomNumber r.id
  floor := c.floor r.id
  roomStatus := r.status
  capacity := r.capacity
  partnerHold := c.partnerHold r.id
  roomTypeId := r.roomTypeId
  roomTypeCode := c.typeCode r.roomTypeId
  roomTypeName := c.typeName r.roomTypeId
  basePrice := c.basePrice r.roomTypeId
  sortOrder := c.sortOrder r.roomTypeId

def roomRows : List RawRoomRow :=
  ((h.rooms.select (·.isActive)).map (rawRoom c)).insertionSort RawRoomRow.Before

/-- The reservations of any status that meet the window. -/
def resRows : List Reservation :=
  (h.reservations.select fun r => decide (r.checkIn < last + 1 ∧ first < r.checkOut)).insertionSort
    fun a b => a.checkIn ≤ b.checkIn

def timelineReservation (r : Reservation) : TimelineReservation :=
  { r with
    checkedInAt := r.checkedInAt.map c.localTime
    checkedOutAt := r.checkedOutAt.map c.localTime }

/-- The reservations of each room. -/
def resByRoom : EntryMap RoomId (List TimelineReservation) :=
  groupInto (·.roomId) (fun _ => []) (fun l r => l ++ [timelineReservation c r]) (resRows h first last)

def timelineRoom (row : RawRoomRow) : TimelineRoom where
  id := row.roomId
  number := row.roomNumber
  floor := row.floor
  status := row.roomStatus
  capacity := row.capacity
  partnerHold := row.partnerHold
  reservations := ((resByRoom c h first last).get row.roomId).getD []

/-- A category, as its first room has it. -/
def timelineRoomType (row : RawRoomRow) : TimelineRoomType :=
  ⟨row.roomTypeId, row.roomTypeCode, row.roomTypeName, row.sortOrder, row.basePrice, []⟩

def rtMap : EntryMap RoomTypeId TimelineRoomType :=
  groupInto (·.roomTypeId) timelineRoomType
    (fun rt row => { rt with rooms := rt.rooms ++ [timelineRoom c h first last row] }) (roomRows c h)

/-- The answer, when it is not kept. -/
def getTimeline : TimelineResponse := ⟨first, last, (rtMap c h first last).rows.map Prod.snd, 0⟩

end Answer

/-! ## The board -/

inductive HousekeepingMark where
  | dirty
  | cleaning
  | checking
  | clean
  | ready
  deriving DecidableEq, Repr

def hkMap : RoomStatus → HousekeepingMark
  | .dirty => .dirty
  | .cleaning => .cleaning
  | .inspected => .checking
  | .clean => .clean
  | .ready => .ready
  | .outOfOrder => .dirty
  | .outOfService => .dirty

structure BoardCategory where
  id : RoomTypeId
  name : String
  code : String
  basePrice : Price
  deriving DecidableEq, Repr

structure BoardRoom where
  id : RoomId
  number : String
  floor : ℤ
  categoryId : RoomTypeId
  capacity : ℕ
  hk : HousekeepingMark
  partnerHold : RoomPartnerHold
  deriving DecidableEq, Repr

structure BoardBooking where
  id : ReservationId
  roomId : RoomId
  guestName : String
  phone : String
  email : String
  checkIn : Day
  checkOut : Day
  status : ReservationStatus
  adults : ℕ
  children : ℕ
  notes : String
  totalPrice : Price
  source : ReservationSource
  channelManaged : Bool
  guestKind : Option GuestKind
  version : ℕ
  placeNumber : ℕ
  arrivalAt : Option String
  departureAt : Option String
  flight : Option String
  checkedInAt : Option String
  checkedOutAt : Option String
  deriving DecidableEq, Repr

structure Board where
  categories : List BoardCategory
  rooms : List BoardRoom
  bookings : List BoardBooking
  deriving DecidableEq, Repr

def boardCategory (rt : TimelineRoomType) : BoardCategory := ⟨rt.id, rt.name, rt.code, rt.basePrice⟩

def boardRoom (categoryId : RoomTypeId) (room : TimelineRoom) : BoardRoom :=
  ⟨room.id, room.number, room.floor, categoryId, room.capacity, hkMap room.status, room.partnerHold⟩

def boardBooking (roomId : RoomId) (res : TimelineReservation) : BoardBooking :=
  { res with
    roomId := roomId
    phone := res.phone.getD ""
    email := res.email.getD ""
    notes := res.notes.getD ""
    totalPrice := res.totalPrice.getD 0 }

/-- The lists of the screen. -/
def transformTimeline (data : TimelineResponse) : Board where
  categories := data.roomTypes.map boardCategory
  rooms := data.roomTypes.flatMap fun rt => rt.rooms.map (boardRoom rt.id)
  bookings := data.roomTypes.flatMap fun rt => rt.rooms.flatMap fun room =>
    room.reservations.map (boardBooking room.id)

/-- A room of the board, as the screen counts its places. -/
def BoardRoom.counted (r : BoardRoom) : KarsHotel.TimelineRoom := ⟨r.id, some r.capacity⟩

def BoardBooking.counted (b : BoardBooking) : TimelineBooking :=
  ⟨⟨⟨b.adults, b.children⟩, b.placeNumber⟩, b.roomId, b.checkIn, b.checkOut, b.status⟩

/-! ## The order of the rooms -/

instance : Std.Total RawRoomRow.Before where
  total a b := by
    unfold RawRoomRow.Before
    rcases lt_trichotomy a.sortOrder b.sortOrder with h | h | h
    · exact Or.inl (Or.inl h)
    · rcases lt_trichotomy a.floor b.floor with h' | h' | h'
      · exact Or.inl (Or.inr ⟨h, Or.inl h'⟩)
      · rcases String.le_total a.roomNumber b.roomNumber with hn | hn
        · exact Or.inl (Or.inr ⟨h, Or.inr ⟨h', hn⟩⟩)
        · exact Or.inr (Or.inr ⟨h.symm, Or.inr ⟨h'.symm, hn⟩⟩)
      · exact Or.inr (Or.inr ⟨h.symm, Or.inl h'⟩)
    · exact Or.inr (Or.inl h)

instance : IsTrans RawRoomRow RawRoomRow.Before where
  trans a b c hab hbc := by
    unfold RawRoomRow.Before at *
    rcases hab with hab | ⟨hab, hab'⟩ <;> rcases hbc with hbc | ⟨hbc, hbc'⟩
    · exact Or.inl (hab.trans hbc)
    · exact Or.inl (hbc ▸ hab)
    · exact Or.inl (hab ▸ hbc)
    · refine Or.inr ⟨hab.trans hbc, ?_⟩
      rcases hab' with hf | ⟨hf, hn⟩ <;> rcases hbc' with hf' | ⟨hf', hn'⟩
      · exact Or.inl (hf.trans hf')
      · exact Or.inl (hf' ▸ hf)
      · exact Or.inl (hf ▸ hf')
      · exact Or.inr ⟨hf.trans hf', String.le_trans hn hn'⟩

theorem RawRoomRow.Before.sortOrder_le {a b : RawRoomRow} (h : a.Before b) : a.sortOrder ≤ b.sortOrder := by
  rcases h with h | ⟨h, _⟩
  · exact le_of_lt h
  · exact le_of_eq h

/-! ## What the answer holds -/

section Groups

variable {c : TimelineColumns} {h : Hotel} {first last : Day}

theorem perm_roomRows : (roomRows c h).Perm ((h.rooms.select (·.isActive)).map (rawRoom c)) :=
  List.perm_insertionSort _ _

theorem perm_resRows : (resRows h first last).Perm
    (h.reservations.select fun r => decide (r.checkIn < last + 1 ∧ first < r.checkOut)) :=
  List.perm_insertionSort _ _

theorem groupOf_push {α β : Type} (f : α → β) (as : List α) :
    ((groupOf (fun _ => []) (fun l a => l ++ [f a]) as).getD []) = as.map f := by
  induction as using List.reverseRecOn with
  | nil => rfl
  | append_singleton as a ih =>
    have hbase : (groupOf (fun _ => []) (fun l a => l ++ [f a]) as).getD [] = as.map f := ih
    rw [groupOf_concat, hbase, Option.getD_some, List.map_append, List.map_singleton]

theorem reservations_timelineRoom (row : RawRoomRow) : (timelineRoom c h first last row).reservations =
    ((resRows h first last).filter fun r => decide (r.roomId = row.roomId)).map (timelineReservation c) := by
  show ((resByRoom c h first last).get row.roomId).getD [] = _
  rw [resByRoom, get_groupInto, groupOf_push]

theorem groupOf_rooms (rows : List RawRoomRow) :
    groupOf timelineRoomType
        (fun rt row => { rt with rooms := rt.rooms ++ [timelineRoom c h first last row] }) rows =
      rows.head?.map fun row =>
        { timelineRoomType row with rooms := rows.map (timelineRoom c h first last) } := by
  induction rows using List.reverseRecOn with
  | nil => rfl
  | append_singleton rows row ih =>
    rw [groupOf_concat, ih]
    cases rows with
    | nil => rfl
    | cons r rows => simp

/-- **The categories of the answer**: of each its rooms, in the order of the rows. -/
theorem roomTypes_eq : (getTimeline c h first last).roomTypes =
    (distinct ((roomRows c h).map (·.roomTypeId))).filterMap fun k =>
      let rows := (roomRows c h).filter fun row => decide (row.roomTypeId = k)
      rows.head?.map fun row =>
        { timelineRoomType row with rooms := rows.map (timelineRoom c h first last) } := by
  show (rtMap c h first last).rows.map Prod.snd = _
  rw [rtMap, rows_groupInto, List.map_filterMap]
  refine List.filterMap_congr fun k _ => ?_
  rw [groupOf_rooms]
  simp only [Option.map_map]
  rfl

theorem flatMap_filterMap_opt {α β γ : Type} (f : α → Option β) (g : β → List γ) (l : List α) :
    (l.filterMap f).flatMap g = l.flatMap fun a => (f a).elim [] g := by
  induction l with
  | nil => rfl
  | cons a l ih => cases hf : f a <;> simp [hf, ih]

/-- What is made of every room, category by category. -/
theorem flatMap_roomTypes {β : Type} (g : RoomTypeId → TimelineRoom → List β) :
    ((getTimeline c h first last).roomTypes.flatMap fun rt => rt.rooms.flatMap (g rt.id)) =
      (distinct ((roomRows c h).map (·.roomTypeId))).flatMap fun k =>
        ((roomRows c h).filter fun row => decide (row.roomTypeId = k)).flatMap fun row =>
          g row.roomTypeId (timelineRoom c h first last row) := by
  rw [roomTypes_eq, flatMap_filterMap_opt]
  refine List.flatMap_congr fun k _ => ?_
  have hkey : ∀ row ∈ (roomRows c h).filter fun row => decide (row.roomTypeId = k), row.roomTypeId = k :=
    fun row hrow => of_decide_eq_true (List.mem_filter.mp hrow).2
  cases hrows : (roomRows c h).filter fun row => decide (row.roomTypeId = k) with
  | nil => rfl
  | cons row rows =>
    rw [hrows] at hkey
    simp only [List.head?_cons, Option.map_some, Option.elim_some, List.flatMap_map]
    refine List.flatMap_congr fun row' hrow' => ?_
    show g row.roomTypeId _ = _
    rw [hkey row List.mem_cons_self, hkey row' hrow']

theorem perm_flatMap_roomTypes {β : Type} (g : RoomTypeId → TimelineRoom → List β) :
    ((getTimeline c h first last).roomTypes.flatMap fun rt => rt.rooms.flatMap (g rt.id)).Perm
      ((roomRows c h).flatMap fun row => g row.roomTypeId (timelineRoom c h first last row)) := by
  rw [flatMap_roomTypes, ← List.flatMap_assoc]
  refine List.Perm.flatMap_right _ (perm_flatMap_filter _ _ nodup_distinct fun row hrow => ?_)
  exact mem_distinct.mpr (List.mem_map_of_mem hrow)

end Groups

/-! ## What the board shows -/

section Shows

variable (c : TimelineColumns) (h : Hotel) (first last : Day)

def shownRoom (r : Room) : BoardRoom :=
  ⟨r.id, c.roomNumber r.id, c.floor r.id, r.roomTypeId, r.capacity, hkMap r.status, c.partnerHold r.id⟩

/-- A reservation as the board shows it. -/
def shownBooking (r : Reservation) : BoardBooking := boardBooking r.roomId (timelineReservation c r)

/-- The board is one of the tables and the window. -/
structure Shows (b : Board) : Prop where
  /-- The active rooms, each once. -/
  rooms : b.rooms.Perm ((h.rooms.select (·.isActive)).map (shownRoom c))
  /-- The reservations of active rooms that meet the window, each once, as they are. -/
  bookings : b.bookings.Perm ((h.reservations.select fun r =>
    decide (r.checkIn < last + 1 ∧ first < r.checkOut) && (h.activeRoom r.roomId).isSome).map (shownBooking c))
  /-- The categories of the rooms, each once, in their order. -/
  categories : ∀ k, k ∈ b.categories.map (·.id) ↔ ∃ r ∈ b.rooms, r.categoryId = k
  categoriesOnce : (b.categories.map (·.id)).Nodup
  categoriesSorted : b.categories.Pairwise fun x y => c.sortOrder x.id ≤ c.sortOrder y.id
  /-- The stays of a room in the order of their arrivals. -/
  stays : ∀ roomId, (b.bookings.filter fun x => decide (x.roomId = roomId)).Pairwise
    fun x y => x.checkIn ≤ y.checkIn
  /-- What the screen counts as free of the board is what it would count of the tables. -/
  free : ∀ multiPlaceEnabled days, availByDay multiPlaceEnabled (b.rooms.map BoardRoom.counted)
      (b.bookings.map BoardBooking.counted) days =
    availByDay multiPlaceEnabled h.timelineRooms (h.timelineBookings first last) days

variable {c h first last}

theorem perm_rooms : (transformTimeline (getTimeline c h first last)).rooms.Perm
    ((h.rooms.select (·.isActive)).map (shownRoom c)) := by
  have hperm := @perm_flatMap_roomTypes c h first last _ fun k room => [boardRoom k room]
  have hrooms : (transformTimeline (getTimeline c h first last)).rooms =
      (getTimeline c h first last).roomTypes.flatMap fun rt => rt.rooms.flatMap fun room =>
        [boardRoom rt.id room] :=
    List.flatMap_congr fun rt _ => List.map_eq_flatMap
  rw [hrooms]
  refine hperm.trans ?_
  rw [← List.map_eq_flatMap]
  refine (perm_roomRows.map _).trans (List.Perm.of_eq ?_)
  rw [List.map_map]
  rfl

theorem nodup_roomIds : ((roomRows c h).map (·.roomId)).Nodup := by
  refine ((perm_roomRows.map (·.roomId)).nodup_iff).mpr ?_
  rw [List.map_map]
  exact (List.filter_sublist.map Room.id).nodup h.rooms.nodup

theorem mem_roomIds {roomId : RoomId} :
    roomId ∈ (roomRows c h).map (·.roomId) ↔ (h.activeRoom roomId).isSome = true := by
  rw [(perm_roomRows.map (·.roomId)).mem_iff, List.map_map, List.mem_map, Option.isSome_iff_exists]
  constructor
  · rintro ⟨r, hr, rfl⟩
    obtain ⟨hr, hactive⟩ := Table.mem_select.mp hr
    exact ⟨_, Hotel.activeRoom_eq_some.mpr ⟨Table.find_key hr, hactive, rfl⟩⟩
  · rintro ⟨⟨r, m⟩, hroom⟩
    obtain ⟨hfind, hactive, _⟩ := Hotel.activeRoom_eq_some.mp hroom
    obtain ⟨hr, hid⟩ := Table.find_eq_some.mp hfind
    exact ⟨r, Table.mem_select.mpr ⟨hr, hactive⟩, hid⟩

theorem perm_bookings : (transformTimeline (getTimeline c h first last)).bookings.Perm
    ((h.reservations.select fun r => decide (r.checkIn < last + 1 ∧ first < r.checkOut) &&
      (h.activeRoom r.roomId).isSome).map (shownBooking c)) := by
  have hperm := @perm_flatMap_roomTypes c h first last _ fun _ room =>
    room.reservations.map (boardBooking room.id)
  -- the stays of each room of the list of rooms
  have hrooms : ((roomRows c h).flatMap fun row => (timelineRoom c h first last row).reservations.map
      (boardBooking row.roomId)) = (((roomRows c h).map (·.roomId)).flatMap fun roomId =>
        ((resRows h first last).filter fun r => (h.activeRoom r.roomId).isSome).filter
          fun r => decide (r.roomId = roomId)).map (shownBooking c) := by
    rw [List.flatMap_map, List.map_flatMap]
    refine List.flatMap_congr fun row hrow => ?_
    rw [reservations_timelineRoom, List.map_map, List.filter_filter]
    have hactive : (h.activeRoom row.roomId).isSome = true := mem_roomIds.mp (List.mem_map_of_mem hrow)
    have hsame : ((resRows h first last).filter fun r => decide (r.roomId = row.roomId)) =
        (resRows h first last).filter fun r => decide (r.roomId = row.roomId) &&
          (h.activeRoom r.roomId).isSome := by
      refine List.filter_congr fun r _ => ?_
      by_cases hr : r.roomId = row.roomId
      · rw [hr, hactive, Bool.and_true]
      · simp [hr]
    rw [← hsame]
    refine List.map_congr_left fun r hr => ?_
    have hroom : r.roomId = row.roomId := of_decide_eq_true (List.mem_filter.mp hr).2
    rw [Function.comp_apply, ← hroom]
    rfl
  refine hperm.trans ((List.Perm.of_eq hrooms).trans (List.Perm.map _ ?_))
  refine (perm_flatMap_filter _ _ nodup_roomIds fun r hr => ?_).trans ?_
  · exact mem_roomIds.mpr (List.mem_filter.mp hr).2
  · refine (perm_resRows.filter _).trans (List.Perm.of_eq ?_)
    unfold Table.select
    rw [List.filter_filter]
    exact List.filter_congr fun r _ => Bool.and_comm _ _

theorem categoryIds_eq : (transformTimeline (getTimeline c h first last)).categories.map (·.id) =
    distinct ((roomRows c h).map (·.roomTypeId)) := by
  show ((getTimeline c h first last).roomTypes.map boardCategory).map _ = _
  rw [roomTypes_eq, List.map_map, List.map_filterMap]
  conv_rhs => rw [← List.filterMap_some (l := distinct _)]
  refine List.filterMap_congr fun k hk => ?_
  obtain ⟨row, hrow, rfl⟩ := List.mem_map.mp (mem_distinct.mp hk)
  cases hrows : (roomRows c h).filter fun r => decide (r.roomTypeId = row.roomTypeId) with
  | nil =>
    exact absurd (List.mem_filter.mpr ⟨hrow, decide_eq_true rfl⟩)
      (by rw [hrows]; exact List.not_mem_nil)
  | cons row' rows =>
    have hmem : row' ∈ (roomRows c h).filter fun r => decide (r.roomTypeId = row.roomTypeId) := by
      rw [hrows]
      exact List.mem_cons_self
    exact congrArg some (of_decide_eq_true (List.mem_filter.mp hmem).2)

theorem sortOrder_roomRows {row : RawRoomRow} (hrow : row ∈ roomRows c h) :
    row.sortOrder = c.sortOrder row.roomTypeId := by
  obtain ⟨r, _, rfl⟩ := List.mem_map.mp (perm_roomRows.mem_iff.mp hrow)
  rfl

theorem distinct_sublist {α : Type} [DecidableEq α] (xs : List α) : (distinct xs).Sublist xs := by
  have hsub := (List.dedup_sublist xs.reverse).reverse
  rwa [List.reverse_reverse] at hsub

theorem categories_sorted : (transformTimeline (getTimeline c h first last)).categories.Pairwise
    fun x y => c.sortOrder x.id ≤ c.sortOrder y.id := by
  have hids : ((transformTimeline (getTimeline c h first last)).categories.map (·.id)).Pairwise
      fun a b => c.sortOrder a ≤ c.sortOrder b := by
    rw [categoryIds_eq]
    refine List.Pairwise.sublist (distinct_sublist _) (List.pairwise_map.mpr ?_)
    refine (List.pairwise_insertionSort RawRoomRow.Before _).imp_of_mem fun ha hb hab => ?_
    rw [← sortOrder_roomRows ha, ← sortOrder_roomRows hb]
    exact hab.sortOrder_le
  exact (List.pairwise_map (R := fun a b => c.sortOrder a ≤ c.sortOrder b)).mp hids

/-- The stays of the rooms of a list, of which one room's are taken. -/
theorem pairwise_filter_flatMap {rows : List RawRoomRow} (hrows : (rows.map (·.roomId)).Nodup)
    (roomId : RoomId) : ((rows.flatMap fun row => (timelineRoom c h first last row).reservations.map
      (boardBooking row.roomId)).filter fun x => decide (x.roomId = roomId)).Pairwise
        fun x y => x.checkIn ≤ y.checkIn := by
  rw [List.filter_flatMap, List.pairwise_flatMap]
  refine ⟨fun row _ => ?_, ?_⟩
  · rw [reservations_timelineRoom]
    refine List.Pairwise.filter _ (List.pairwise_map.mpr (List.pairwise_map.mpr ?_))
    exact List.Pairwise.filter _ (List.pairwise_insertionSort _ _)
  · refine (List.pairwise_map.mp hrows).imp fun hne x hx y hy => ?_
    obtain ⟨hx, hxroom⟩ := List.mem_filter.mp hx
    obtain ⟨hy, hyroom⟩ := List.mem_filter.mp hy
    obtain ⟨_, _, rfl⟩ := List.mem_map.mp hx
    obtain ⟨_, _, rfl⟩ := List.mem_map.mp hy
    exact absurd ((of_decide_eq_true hxroom).trans (of_decide_eq_true hyroom).symm) hne

theorem stays_sorted (roomId : RoomId) :
    ((transformTimeline (getTimeline c h first last)).bookings.filter fun x =>
      decide (x.roomId = roomId)).Pairwise fun x y => x.checkIn ≤ y.checkIn := by
  have heq := @flatMap_roomTypes c h first last _ fun _ room =>
    room.reservations.map (boardBooking room.id)
  have hids : (((distinct ((roomRows c h).map (·.roomTypeId))).flatMap fun k =>
      (roomRows c h).filter fun row => decide (row.roomTypeId = k)).map (·.roomId)).Nodup := by
    refine ((List.Perm.map _ (perm_flatMap_filter _ _ nodup_distinct fun row hrow => ?_)).nodup_iff).mpr
      nodup_roomIds
    exact mem_distinct.mpr (List.mem_map_of_mem hrow)
  show (((getTimeline c h first last).roomTypes.flatMap fun rt => rt.rooms.flatMap fun room =>
    room.reservations.map (boardBooking room.id)).filter _).Pairwise _
  rw [heq, ← List.flatMap_assoc]
  exact pairwise_filter_flatMap hids roomId

/-- What is free is a matter of the rooms and bookings, not of their order. -/
theorem availOn_perm {multiPlaceEnabled : Bool} {rooms rooms' : List KarsHotel.TimelineRoom}
    {bookings bookings' : List TimelineBooking} (hrooms : rooms.Perm rooms')
    (hbookings : bookings.Perm bookings') (day : Day) :
    availOn multiPlaceEnabled rooms bookings day = availOn multiPlaceEnabled rooms' bookings' day := by
  have hlen : ∀ room (f : TimelineBooking → ℕ), (distinct ((bookingsOn bookings room day).map f)).length =
      (distinct ((bookingsOn bookings' room day).map f)).length := by
    intro room f
    have hon : (bookingsOn bookings room day).Perm (bookingsOn bookings' room day) := hbookings.filter _
    simp only [distinct, List.length_reverse]
    exact ((List.reverse_perm _).trans ((hon.map f).trans (List.reverse_perm _).symm)).dedup.length_eq
  unfold availOn
  simp only [hlen]
  refine hrooms.foldl_eq' (fun x _ y _ z => ?_) 0
  exact add_right_comm _ _ _

/-- **The board shows the hotel**: the active rooms and their stays of the window, each once and in
order; and it counts as free on a day what it would count of the tables. -/
theorem board_shows (c : TimelineColumns) (h : Hotel) (first last : Day) :
    Shows c h first last (transformTimeline (getTimeline c h first last)) where
  rooms := perm_rooms
  bookings := perm_bookings
  categories k := by
    rw [categoryIds_eq, mem_distinct, (perm_roomRows.map (·.roomTypeId)).mem_iff, List.map_map,
      List.mem_map]
    constructor
    · rintro ⟨r, hr, rfl⟩
      exact ⟨shownRoom c r, perm_rooms.mem_iff.mpr (List.mem_map_of_mem hr), rfl⟩
    · rintro ⟨b, hb, rfl⟩
      obtain ⟨r, hr, rfl⟩ := List.mem_map.mp (perm_rooms.mem_iff.mp hb)
      exact ⟨r, hr, rfl⟩
  categoriesOnce := categoryIds_eq ▸ nodup_distinct
  categoriesSorted := categories_sorted
  stays := stays_sorted
  free multiPlaceEnabled days := by
    refine List.map_congr_left fun day _ => availOn_perm ?_ ?_ day
    · refine (perm_rooms.map _).trans (List.Perm.of_eq ?_)
      rw [List.map_map]
      rfl
    · refine (perm_bookings.map _).trans (List.Perm.of_eq ?_)
      rw [List.map_map]
      rfl

end Shows

end KarsHotel.TimelineService
