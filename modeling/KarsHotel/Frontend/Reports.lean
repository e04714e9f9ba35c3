import KarsHotel.Lib.Csv
import KarsHotel.Lib.Double
import KarsHotel.Timeline.Service
import Mathlib.Algebra.BigOperators.Ring.Finset
import Mathlib.Algebra.Order.BigOperators.Group.Finset
import Mathlib.Data.Int.ConditionallyCompleteOrder
import Mathlib.Data.Int.Interval

/-!
# Reports of a period

The page loads the board of a period, leaves the bookings that meet it and were not cancelled, and
adds them up: in all, by category, by source. Two files can be taken from it.

* `rangeBookings`, `occupiedNights`, `revenue`, `catStats`, `sourceStats`: the page;
  `bookingsFile`, `occupancyFile`: the files;
* `IsSum`: what a sum of prices is that the browser has rounded after every addition;
* **`report_adds_up`**: every sum is one over the reservations of the tables; the rows of a table
  add up to the totals, those of prices as far as nothing is rounded;
* **`exported_rows`**: the files say that, whatever the texts in them hold.
-/

namespace KarsHotel.Reports

open KarsHotel.TimelineService

/-! ## The page -/

/-- The two dates the user has chosen. -/
structure Period where
  dateFrom : Day
  dateTo : Day
  deriving DecidableEq, Repr

/-- What the browser does: `Math.round(n / m * 100)`, the text of a number, and a sort of the
bookings whose comparison never calls two of them equal, so that only their number is certain. -/
structure Browser where
  percent : ℤ → ℤ → ℤ
  text : ℚ → String
  sort : List BoardBooking → List BoardBooking
  perm_sort : ∀ l, (sort l).Perm l

section Page

variable (br : Browser) (p : Period) (b : Board)

/-- The days the page loads, a year at most. -/
def Period.daysCount : ℤ := max 1 (min (p.dateTo - p.dateFrom + 1) 365)

def Period.lastLoaded : Day := p.dateFrom + (p.daysCount - 1)

/-- The days of the calendar between the dates, the other way round if the first is the later. -/
def Period.days : ℤ := (p.dateTo - p.dateFrom).natAbs + 1

def inRange (x : BoardBooking) : Bool :=
  decide (x.status ≠ .cancelled) && (decide (p.dateFrom < x.checkOut) && decide (x.checkIn < p.dateTo))

def rangeBookings : List BoardBooking := b.bookings.filter (inRange p)

/-- The nights of a booking within the period. -/
def nightsWithin (x : BoardBooking) : ℤ :=
  let s := if x.checkIn < p.dateFrom then p.dateFrom else x.checkIn
  let e := if p.dateTo < x.checkOut then p.dateTo else x.checkOut
  max 0 (e - s)

def nightsOf (l : List BoardBooking) : ℤ := (l.map (nightsWithin p)).sum

/-- A price in roubles. -/
def rubles (price : Price) : ℚ := price / 100

/-- `Number(res.totalPrice)`. -/
def number (price : Price) : ℚ := Double.round (rubles price)

def revenueOf (l : List BoardBooking) : ℚ := Double.sum (l.map fun x => number x.totalPrice)

def occupiedNights : ℤ := nightsOf p (rangeBookings p b)

def revenue : ℚ := revenueOf (rangeBookings p b)

def totalRoomNights : ℤ := b.rooms.length * p.days

def occupancy : ℤ :=
  if 0 < totalRoomNights p b then br.percent (occupiedNights p b) (totalRoomNights p b) else 0

structure CatStat extends BoardCategory where
  bookings : ℕ
  revenue : ℚ
  occupancy : ℤ
  deriving DecidableEq, Repr

def catRooms (cat : BoardCategory) : List BoardRoom := b.rooms.filter fun r => decide (r.categoryId = cat.id)

def catBookings (cat : BoardCategory) : List BoardBooking :=
  (rangeBookings p b).filter fun x => (catRooms b cat).any fun r => decide (r.id = x.roomId)

def catStat (cat : BoardCategory) : CatStat :=
  let catNights : ℤ := (catRooms b cat).length * p.days
  { cat with
    bookings := (catBookings p b cat).length
    revenue := revenueOf (catBookings p b cat)
    occupancy := if 0 < catNights then br.percent (nightsOf p (catBookings p b cat)) catNights else 0 }

def catStats : List CatStat := b.categories.map (catStat br p b)

structure SourceStat where
  count : ℕ
  revenue : ℚ
  deriving DecidableEq, Repr

def SourceStat.add (s : SourceStat) (x : BoardBooking) : SourceStat :=
  ⟨s.count + 1, Double.add s.revenue (number x.totalPrice)⟩

def sourceMap : EntryMap ReservationSource SourceStat :=
  groupInto (·.source) (fun _ => ⟨0, 0⟩) SourceStat.add (rangeBookings p b)

/-- The sources, the dearest first. -/
def sourceStats : List (ReservationSource × SourceStat) :=
  (sourceMap p b).rows.insertionSort fun x y => y.2.revenue ≤ x.2.revenue

/-! ## The files -/

def statusLabel : ReservationStatus → String
  | .new => "Новое"
  | .confirmed => "Подтверждено"
  | .checkedIn => "Заселён"
  | .checkedOut => "Выехал"
  | .cancelled => "Отменено"
  | .noShow => "Не явился"

def sourceLabel : ReservationSource → String
  | .direct => "Стойка"
  | .online => "Онлайн"
  | .phone => "Телефон"
  | .ota => "ОТА"
  | .corporate => "Корпоратив"

def bookingsHeader : List String :=
  ["Гость", "Телефон", "Email", "Номер", "Заезд", "Выезд", "Ночей", "Статус", "Источник", "Взрослых",
    "Детей", "Сумма (₽)", "Заметки"]

def occupancyHeader : List String := ["Категория", "Загрузка (%)", "Бронирований", "Выручка (₽)"]

/-- The cells of a booking in the room of a number. -/
def bookingCells (number : String) (x : BoardBooking) : List String :=
  [x.guestName, x.phone, x.email, number, isoDate x.checkIn, isoDate x.checkOut,
    toString (x.checkOut - x.checkIn), statusLabel x.status, sourceLabel x.source, toString x.adults,
    toString x.children, decimalText x.totalPrice, x.notes]

def bookingRow (x : BoardBooking) : List String :=
  bookingCells (((b.rooms.find? fun r => decide (r.id = x.roomId)).map (·.number)).getD "") x

def catCells (c : CatStat) : List String :=
  [c.name, toString c.occupancy, toString c.bookings, br.text c.revenue]

def totalCells : List String :=
  ["ИТОГО", toString (occupancy br p b), toString (rangeBookings p b).length, br.text (revenue p b)]

/-- The mark of the encoding, with which the files begin. -/
def byteOrderMark : Char := Char.ofNat 0xFEFF

def exportCSV (rows : List (List String)) : List Char :=
  byteOrderMark :: Csv.write (rows.map fun row => row.map String.toList)

def bookingsFile : List Char :=
  exportCSV (bookingsHeader :: (br.sort (rangeBookings p b)).map (bookingRow b))

def occupancyFile : List Char :=
  exportCSV (occupancyHeader :: ((catStats br p b).map (catCells br) ++ [totalCells br p b]))

end Page

/-- What a program reads in a file. -/
def openCSV : List Char → Option (List (List String))
  | [] => none
  | c :: text => if c = byteOrderMark then
      (Csv.read text).map fun rows => rows.map fun row => row.map String.ofList
    else none

/-! ## What is reported -/

section Reported

variable (c : TimelineColumns) (h : Hotel) (p : Period)

/-- The board the page has loaded. -/
def loaded : Board := transformTimeline (getTimeline c h p.dateFrom p.lastLoaded)

/-- A reservation of the tables that the report is about. -/
def isReported (r : Reservation) : Bool :=
  decide (r.status ≠ .cancelled) && (h.activeRoom r.roomId).isSome &&
    (decide (p.dateFrom < r.checkOut) && decide (r.checkIn < p.dateTo) && decide (r.checkIn ≤ p.lastLoaded))

def reported : List Reservation := h.reservations.select (isReported h p)

/-- The price of a reservation, in kopecks. -/
def priceOf (r : Reservation) : Price := r.totalPrice.getD 0

/-- The reservations of a night. -/
def guestsOn (d : Day) : List Reservation := (reported h p).filter fun r => decide (d ∈ r.nights)

variable {c h p}

/-- **A period of a year or less is reported whole.** -/
theorem mem_reported (hyear : p.dateTo - p.dateFrom < 365) {r : Reservation} : r ∈ reported h p ↔
    r ∈ h.reservations ∧ r.status ≠ .cancelled ∧ (h.activeRoom r.roomId).isSome = true ∧
      p.dateFrom < r.checkOut ∧ r.checkIn < p.dateTo := by
  have hlast : r.checkIn < p.dateTo → r.checkIn ≤ p.lastLoaded := by
    intro hlt
    have hcount : p.dateTo - p.dateFrom + 1 ≤ p.daysCount := by
      unfold Period.daysCount
      rw [min_eq_left (by linarith [Int.add_one_le_of_lt hyear])]
      exact le_max_right _ _
    unfold Period.lastLoaded
    linarith [le_of_lt hlt]
  rw [reported, Table.mem_select, isReported]
  simp only [Bool.and_eq_true, decide_eq_true_eq]
  constructor
  · rintro ⟨hr, ⟨hstatus, hroom⟩, ⟨hfrom, hto⟩, _⟩
    exact ⟨hr, hstatus, hroom, hfrom, hto⟩
  · rintro ⟨hr, hstatus, hroom, hfrom, hto⟩
    exact ⟨hr, ⟨hstatus, hroom⟩, ⟨hfrom, hto⟩, hlast hto⟩

theorem inRange_shown (r : Reservation) : inRange p (shownBooking c r) =
    (decide (r.status ≠ .cancelled) &&
      (decide (p.dateFrom < r.checkOut) && decide (r.checkIn < p.dateTo))) :=
  rfl

/-- **The page is about the reservations of the report**, each once. -/
theorem perm_rangeBookings :
    (rangeBookings p (loaded c h p)).Perm ((reported h p).map (shownBooking c)) := by
  refine (perm_bookings.filter _).trans (List.Perm.of_eq ?_)
  rw [List.filter_map, reported]
  unfold Table.select
  rw [List.filter_filter]
  refine congrArg _ (List.filter_congr fun r _ => ?_)
  rw [Function.comp_apply, inRange_shown, isReported, Bool.eq_iff_iff]
  simp only [Bool.and_eq_true, decide_eq_true_eq, Int.lt_add_one_iff]
  tauto

end Reported

/-! ## Sums of prices -/

/-- Whole roubles, so few that a double holds their sums. -/
structure WholeRubles (prices : List Price) : Prop where
  whole : ∀ price ∈ prices, 100 ∣ price
  few : (prices.map fun price => |price|).sum < 100 * 2 ^ 53

/-- What the browser makes of prices when it adds them up: their sum, as far as nothing is rounded;
and close to it, if no price is negative. -/
structure IsSum (prices : List Price) (x : ℚ) : Prop where
  near : (∀ price ∈ prices, 0 ≤ price) →
    |x - rubles prices.sum| ≤ Double.sumError prices.length * rubles prices.sum
  exact_ : WholeRubles prices → x = rubles prices.sum

section Prices

variable {prices prices' : List Price} {x : ℚ}

theorem WholeRubles.sublist (h : WholeRubles prices) (hsub : prices'.Sublist prices) :
    WholeRubles prices' where
  whole price hprice := h.whole price (hsub.subset hprice)
  few := by
    have hsum : (prices'.map fun price => |price|).sum ≤ (prices.map fun price => |price|).sum := by
      refine (hsub.map _).sum_le_sum fun n hn => ?_
      obtain ⟨price, _, rfl⟩ := List.mem_map.mp hn
      exact abs_nonneg price
    exact hsum.trans_lt h.few

theorem WholeRubles.perm (h : WholeRubles prices) (hperm : prices.Perm prices') : WholeRubles prices' where
  whole price hprice := h.whole price (hperm.mem_iff.mpr hprice)
  few := by
    have hsum : (prices.map fun price => |price|).sum = (prices'.map fun price => |price|).sum :=
      (hperm.map _).sum_eq
    exact hsum ▸ h.few

theorem IsSum.perm (h : IsSum prices x) (hperm : prices.Perm prices') : IsSum prices' x where
  near hnonneg := by
    have hsum : prices.sum = prices'.sum := hperm.sum_eq
    rw [← hsum, ← hperm.length_eq]
    exact h.near fun price hprice => hnonneg price (hperm.mem_iff.mp hprice)
  exact_ hwhole := by
    have hsum : prices.sum = prices'.sum := hperm.sum_eq
    rw [← hsum]
    exact h.exact_ (hwhole.perm hperm.symm)

theorem sum_rubles (prices : List Price) : (prices.map rubles).sum = rubles prices.sum := by
  induction prices with
  | nil => simp [rubles]
  | cons price prices ih =>
    rw [List.map_cons, List.sum_cons, ih, List.sum_cons]
    unfold rubles
    push_cast
    ring

/-- **What a row of bookings is added up to.** -/
theorem isSum_revenueOf (l : List BoardBooking) : IsSum (l.map (·.totalPrice)) (revenueOf l) where
  near hnonneg := by
    have hrubles : ∀ y ∈ (l.map (·.totalPrice)).map rubles, 0 ≤ y := by
      intro y hy
      obtain ⟨price, hprice, rfl⟩ := List.mem_map.mp hy
      exact div_nonneg (Int.cast_nonneg (hnonneg price hprice)) (by norm_num)
    have hsum := Double.abs_sum_sub_le hrubles
    rw [sum_rubles, List.length_map, List.map_map, List.map_map] at hsum
    exact hsum
  exact_ hwhole := by
    obtain ⟨roubles, hroubles⟩ : ∃ roubles : List ℤ, l.map (·.totalPrice) = roubles.map (100 * ·) := by
      refine ⟨(l.map (·.totalPrice)).map (· / 100), ?_⟩
      rw [List.map_map]
      refine ((List.map_congr_left fun price hprice => ?_).trans (List.map_id _)).symm
      exact Int.mul_ediv_cancel' (hwhole.whole price hprice)
    have hcast : ∀ n : ℤ, rubles (100 * n) = n := fun n => by
      unfold rubles
      push_cast
      field_simp
    have hfew : (roubles.map fun n => |n|).sum < 2 ^ 53 := by
      have hsum := hwhole.few
      rw [hroubles, List.map_map] at hsum
      have hmul : (roubles.map ((fun price : Price => |price|) ∘ (100 * ·))).sum =
          100 * (roubles.map fun n => |n|).sum := by
        rw [← List.sum_map_mul_left]
        refine congrArg _ (List.map_congr_left fun n _ => ?_)
        rw [Function.comp_apply, abs_mul]
        rfl
      rw [hmul] at hsum
      linarith
    have hnumbers : (l.map fun y => number y.totalPrice) = (roubles.map Int.cast).map Double.round := by
      have hmap : (l.map fun y => number y.totalPrice) = (l.map (·.totalPrice)).map number := by
        rw [List.map_map]
        rfl
      rw [hmap, hroubles, List.map_map, List.map_map]
      exact List.map_congr_left fun n _ => congrArg Double.round (hcast n)
    rw [revenueOf, hnumbers, Double.sum_round_of_ints hfew, hroubles, List.sum_map_mul_left,
      List.map_id', hcast]

end Prices

/-! ## Nights -/

section Sums

variable {c : TimelineColumns} {h : Hotel} {p : Period}

theorem nightsWithin_shown (r : Reservation) : nightsWithin p (shownBooking c r) =
    ((Finset.Ico p.dateFrom p.dateTo).filter fun d => d ∈ r.nights).card := by
  have hnights : (Finset.Ico p.dateFrom p.dateTo).filter (fun d => d ∈ r.nights) =
      Finset.Ico (max p.dateFrom r.checkIn) (min p.dateTo r.checkOut) := by
    rw [← Finset.Ico_inter_Ico, Finset.filter_mem_eq_inter]
    rfl
  have hs : (if r.checkIn < p.dateFrom then p.dateFrom else r.checkIn) = max p.dateFrom r.checkIn := by
    rw [max_comm, max_def_lt]
  have he : (if p.dateTo < r.checkOut then p.dateTo else r.checkOut) = min p.dateTo r.checkOut :=
    (min_def_lt _ _).symm
  rw [hnights, Int.card_Ico, Int.toNat_eq_max, max_comm, ← hs, ← he]
  rfl

/-- The nights of the bookings, counted night by night. -/
theorem nightsOf_shown (l : List Reservation) : nightsOf p (l.map (shownBooking c)) =
    ∑ d ∈ Finset.Ico p.dateFrom p.dateTo, ((l.filter fun r => decide (d ∈ r.nights)).length : ℤ) := by
  induction l with
  | nil => simp [nightsOf]
  | cons r l ih =>
    have hcons : nightsOf p ((r :: l).map (shownBooking c)) =
        nightsWithin p (shownBooking c r) + nightsOf p (l.map (shownBooking c)) := by
      simp [nightsOf]
    have hcard : (((Finset.Ico p.dateFrom p.dateTo).filter fun d => d ∈ r.nights).card : ℤ) =
        ∑ d ∈ Finset.Ico p.dateFrom p.dateTo, if d ∈ r.nights then 1 else 0 := by
      rw [Finset.card_filter]
      push_cast
      rfl
    rw [hcons, ih, nightsWithin_shown, hcard, ← Finset.sum_add_distrib]
    refine Finset.sum_congr rfl fun d _ => ?_
    by_cases hd : d ∈ r.nights
    · simp [hd, add_comm]
    · simp [hd]

theorem nightsOf_perm {l l' : List BoardBooking} (hl : l.Perm l') : nightsOf p l = nightsOf p l' :=
  (hl.map _).sum_eq

theorem occupiedNights_loaded : occupiedNights p (loaded c h p) =
    ∑ d ∈ Finset.Ico p.dateFrom p.dateTo, ((guestsOn h p d).length : ℤ) :=
  (nightsOf_perm perm_rangeBookings).trans (nightsOf_shown _)

theorem perm_prices :
    ((rangeBookings p (loaded c h p)).map (·.totalPrice)).Perm ((reported h p).map priceOf) := by
  refine (perm_rangeBookings.map _).trans (List.Perm.of_eq ?_)
  rw [List.map_map]
  rfl

/-- Where rooms are sold whole, a night has one party a room, unless somebody has not come. -/
theorem guestsOn_le (c : TimelineColumns) (hn : NoOverbooking h) (hwhole : h.multiPlaceEnabled = false)
    (hcame : ∀ r ∈ reported h p, r.status ≠ .noShow) (d : Day) :
    (guestsOn h p d).length ≤ (h.rooms.select (·.isActive)).length := by
  have hrows : h.reservations.rows.Pairwise fun a b => a.id ≠ b.id :=
    List.pairwise_map.mp h.reservations.nodup
  have mem : ∀ {r}, r ∈ guestsOn h p d → r ∈ h.reservations ∧ r.Live ∧ d ∈ r.nights ∧
      (h.activeRoom r.roomId).isSome = true := by
    intro r hr
    obtain ⟨hr, hd⟩ := List.mem_filter.mp hr
    have hcame := hcame r hr
    obtain ⟨hmem, hrep⟩ := Table.mem_select.mp hr
    rw [isReported, Bool.and_eq_true, Bool.and_eq_true, decide_eq_true_eq] at hrep
    exact ⟨hmem, ⟨hrep.1.1, hcame⟩, of_decide_eq_true hd, hrep.1.2⟩
  have hrooms : ((guestsOn h p d).map (·.roomId)).Nodup := by
    refine List.pairwise_map.mpr (((hrows.filter _).filter _).imp_of_mem ?_)
    intro a b ha hb hne hroom
    obtain ⟨ha, hla, hda, _⟩ := mem ha
    obtain ⟨hb, hlb, hdb, _⟩ := mem hb
    exact hn.whole hwhole a ha b hb (fun hab => hne (congrArg _ hab)) hla hlb ⟨hroom, d, hda, hdb⟩
  have hsub : (guestsOn h p d).map (·.roomId) ⊆ (roomRows c h).map (·.roomId) := by
    intro roomId hroom
    obtain ⟨r, hr, rfl⟩ := List.mem_map.mp hroom
    exact mem_roomIds.mpr (mem hr).2.2.2
  have hle := (hrooms.subperm hsub).length_le
  rwa [List.length_map, List.length_map, perm_roomRows.length_eq, List.length_map] at hle

end Sums

/-! ## Categories and sources -/

section Tables

variable {c : TimelineColumns} {h : Hotel} {p : Period}

theorem nodup_rooms : ((loaded c h p).rooms.map (·.id)).Nodup := by
  refine ((perm_rooms.map (·.id)).nodup_iff).mpr ?_
  rw [List.map_map]
  exact (List.filter_sublist.map Room.id).nodup h.rooms.nodup

theorem find_room {r : Room} (hr : r ∈ h.rooms.select (·.isActive)) :
    (loaded c h p).rooms.find? (fun x => decide (x.id = r.id)) = some (shownRoom c r) := by
  have hmem : shownRoom c r ∈ (loaded c h p).rooms := perm_rooms.mem_iff.mpr (List.mem_map_of_mem hr)
  have hsome : ((loaded c h p).rooms.find? fun x => decide (x.id = r.id)).isSome = true :=
    List.find?_isSome.mpr ⟨_, hmem, decide_eq_true rfl⟩
  obtain ⟨x, hx⟩ := Option.isSome_iff_exists.mp hsome
  have hid : x.id = r.id := by simpa using List.find?_some hx
  rw [hx, List.inj_on_of_nodup_map nodup_rooms (List.mem_of_find?_eq_some hx) hmem hid]

/-- The room of a reservation of the report. -/
theorem room_reported {r : Reservation} (hr : r ∈ reported h p) :
    ∃ room ∈ h.rooms.select (·.isActive), room.id = r.roomId := by
  have hrep := (Table.mem_select.mp hr).2
  rw [isReported, Bool.and_eq_true, Bool.and_eq_true] at hrep
  obtain ⟨⟨room, m⟩, hroom⟩ := Option.isSome_iff_exists.mp hrep.1.2
  obtain ⟨hfind, hactive, _⟩ := Hotel.activeRoom_eq_some.mp hroom
  obtain ⟨hroom, hid⟩ := Table.find_eq_some.mp hfind
  exact ⟨room, Table.mem_select.mpr ⟨hroom, hactive⟩, hid⟩

/-- The category a booking is counted in. -/
def categoryOf (b : Board) (x : BoardBooking) : Option RoomTypeId :=
  (b.rooms.find? fun r => decide (r.id = x.roomId)).map (·.categoryId)

theorem catBookings_eq (cat : BoardCategory) : catBookings p (loaded c h p) cat =
    (rangeBookings p (loaded c h p)).filter fun x => decide (categoryOf (loaded c h p) x = some cat.id) := by
  refine List.filter_congr fun x _ => ?_
  rw [Bool.eq_iff_iff, List.any_eq_true, decide_eq_true_eq]
  constructor
  · rintro ⟨r, hr, hid⟩
    obtain ⟨hr, hcat⟩ := List.mem_filter.mp hr
    obtain ⟨room, hroom, rfl⟩ := List.mem_map.mp (perm_rooms.mem_iff.mp hr)
    have hx : x.roomId = room.id := (of_decide_eq_true hid).symm
    rw [categoryOf, hx, find_room hroom]
    exact congrArg some (of_decide_eq_true hcat)
  · intro hcat
    obtain ⟨r, hr, hrcat⟩ := Option.map_eq_some_iff.mp hcat
    have hid : r.id = x.roomId := by simpa using List.find?_some hr
    exact ⟨r, List.mem_filter.mpr ⟨List.mem_of_find?_eq_some hr, decide_eq_true hrcat⟩, decide_eq_true hid⟩

theorem categoryOf_mem {x : BoardBooking} (hx : x ∈ rangeBookings p (loaded c h p)) :
    categoryOf (loaded c h p) x ∈ (loaded c h p).categories.map fun cat => some cat.id := by
  obtain ⟨r, hr, rfl⟩ := List.mem_map.mp (perm_rangeBookings.mem_iff.mp hx)
  obtain ⟨room, hroom, hid⟩ := room_reported hr
  have hcat : categoryOf (loaded c h p) (shownBooking c r) = some room.roomTypeId := by
    have hfind := find_room (c := c) (p := p) hroom
    rw [hid] at hfind
    show ((loaded c h p).rooms.find? fun x => decide (x.id = r.roomId)).map _ = _
    rw [hfind]
    rfl
  have hrow : room.roomTypeId ∈ (roomRows c h).map (·.roomTypeId) := by
    refine List.mem_map.mpr ⟨rawRoom c room, ?_, rfl⟩
    exact perm_roomRows.mem_iff.mpr (List.mem_map_of_mem hroom)
  have hmem := mem_distinct.mpr hrow
  rw [← @categoryIds_eq c h p.dateFrom p.lastLoaded, List.mem_map] at hmem
  obtain ⟨cat, hmem, hcatId⟩ := hmem
  exact List.mem_map.mpr ⟨cat, hmem, (congrArg some hcatId).trans hcat.symm⟩

/-- What is summed category by category is the sum over all bookings. -/
theorem sum_categories {μ : Type} [AddCommMonoid μ] (f : BoardBooking → μ) :
    ((loaded c h p).categories.map fun cat => ((catBookings p (loaded c h p) cat).map f).sum).sum =
      ((rangeBookings p (loaded c h p)).map f).sum := by
  have hnodup : ((loaded c h p).categories.map fun cat => some cat.id).Nodup := by
    have hids : ((loaded c h p).categories.map (·.id)).Nodup := categoryIds_eq ▸ nodup_distinct
    have hsome := hids.map (Option.some_injective RoomTypeId)
    rwa [List.map_map] at hsome
  rw [← sum_groups (categoryOf (loaded c h p)) f _ hnodup fun x hx => categoryOf_mem hx, List.map_map]
  refine congrArg _ (List.map_congr_left fun cat _ => ?_)
  rw [catBookings_eq]
  rfl

theorem groupOf_add (l : List BoardBooking) :
    (groupOf (fun _ => ⟨0, 0⟩) SourceStat.add l).getD ⟨0, 0⟩ = ⟨l.length, revenueOf l⟩ := by
  induction l using List.reverseRecOn with
  | nil => rfl
  | append_singleton l x ih =>
    rw [groupOf_concat, ih]
    simp [SourceStat.add, revenueOf, Double.sum_concat]

theorem sourceRows_eq (b : Board) : (sourceMap p b).rows =
    (distinct ((rangeBookings p b).map (·.source))).map fun k =>
      (k, ⟨((rangeBookings p b).filter fun x => decide (x.source = k)).length,
        revenueOf ((rangeBookings p b).filter fun x => decide (x.source = k))⟩) := by
  rw [sourceMap, rows_groupInto]
  conv_rhs => rw [← List.filterMap_eq_map]
  refine List.filterMap_congr fun k hk => ?_
  obtain ⟨x, hx, rfl⟩ := List.mem_map.mp (mem_distinct.mp hk)
  cases hrows : (rangeBookings p b).filter fun y => decide (y.source = x.source) with
  | nil =>
    exact absurd (List.mem_filter.mpr ⟨hx, decide_eq_true rfl⟩) (by rw [hrows]; exact List.not_mem_nil)
  | cons y rows =>
    have hstat := groupOf_add (y :: rows)
    rw [groupOf, Option.getD_some] at hstat
    rw [groupOf, hstat, Function.comp_apply, hrows]
    rfl

/-- What is summed source by source is the sum over all bookings. -/
theorem sum_sources {μ : Type} [AddCommMonoid μ] (b : Board) (f : BoardBooking → μ) :
    ((distinct ((rangeBookings p b).map (·.source))).map fun k =>
      (((rangeBookings p b).filter fun x => decide (x.source = k)).map f).sum).sum =
        ((rangeBookings p b).map f).sum := by
  refine sum_groups (·.source) f _ nodup_distinct ?_
  intro x hx
  exact mem_distinct.mpr (List.mem_map_of_mem hx)

theorem perm_sourceStats (b : Board) : (sourceStats p b).Perm (sourceMap p b).rows :=
  List.perm_insertionSort _ _

theorem length_eq_sum (l : List BoardBooking) : (l.map fun _ => 1).sum = l.length := by
  rw [List.map_const', List.sum_replicate, Nat.nsmul_eq_mul, mul_one]

end Tables

/-! ## The report -/

/-- What the sums of the page are, of the tables it was loaded from. -/
structure AddsUp (c : TimelineColumns) (h : Hotel) (br : Browser) (p : Period) (b : Board) : Prop where
  /-- The page is about the reservations that meet the period and were not cancelled, each once. -/
  bookings : (rangeBookings p b).Perm ((reported h p).map (shownBooking c))
  whole : p.dateTo - p.dateFrom < 365 → ∀ r, r ∈ reported h p ↔
    r ∈ h.reservations ∧ r.status ≠ .cancelled ∧ (h.activeRoom r.roomId).isSome = true ∧
      p.dateFrom < r.checkOut ∧ r.checkIn < p.dateTo
  /-- The nights sold are those who sleep in the hotel, night by night. -/
  nights : occupiedNights p b = ∑ d ∈ Finset.Ico p.dateFrom p.dateTo, ((guestsOn h p d).length : ℤ)
  revenue : IsSum ((reported h p).map priceOf) (revenue p b)
  /-- Every booking is counted in one category, whose revenue is the sum of its prices. -/
  categories : ((catStats br p b).map (·.bookings)).sum = (rangeBookings p b).length ∧
    (∀ cat ∈ b.categories, IsSum ((catBookings p b cat).map (·.totalPrice)) (catStat br p b cat).revenue) ∧
    (b.categories.map fun cat => ((catBookings p b cat).map (·.totalPrice)).sum).sum =
      ((reported h p).map priceOf).sum
  /-- And in one source, each of which has one row. -/
  sources : ((sourceStats p b).map (·.2.count)).sum = (rangeBookings p b).length ∧
    (∀ row ∈ sourceStats p b, IsSum (((rangeBookings p b).filter fun x => decide (x.source = row.1)).map
      (·.totalPrice)) row.2.revenue) ∧
    ((sourceStats p b).map fun row => (((rangeBookings p b).filter fun x =>
      decide (x.source = row.1)).map (·.totalPrice)).sum).sum = ((reported h p).map priceOf).sum
  sourcesOnce : ((sourceStats p b).map Prod.fst).Nodup
  /-- In whole roubles the rows of the tables add up to the total. -/
  roubles : WholeRubles ((reported h p).map priceOf) →
    ((catStats br p b).map (·.revenue)).sum = Reports.revenue p b ∧
      ((sourceStats p b).map (·.2.revenue)).sum = Reports.revenue p b
  /-- No more nights are sold than the rooms have, where rooms are sold whole and all have come. -/
  possible : NoOverbooking h → h.multiPlaceEnabled = false → (∀ r ∈ reported h p, r.status ≠ .noShow) →
    occupiedNights p b ≤ b.rooms.length * (p.dateTo - p.dateFrom).toNat

section Rows

variable {c : TimelineColumns} {h : Hotel} {p : Period}

theorem sum_categories_prices : ((loaded c h p).categories.map fun cat =>
    ((catBookings p (loaded c h p) cat).map (·.totalPrice)).sum).sum = ((reported h p).map priceOf).sum :=
  (sum_categories (·.totalPrice)).trans perm_prices.sum_eq

theorem sum_sources_prices : ((sourceStats p (loaded c h p)).map fun row =>
    (((rangeBookings p (loaded c h p)).filter fun x => decide (x.source = row.1)).map (·.totalPrice)).sum).sum =
      ((reported h p).map priceOf).sum := by
  rw [((perm_sourceStats _).map _).sum_eq, sourceRows_eq, List.map_map, ← perm_prices.sum_eq]
  exact sum_sources _ (·.totalPrice)

theorem isSum_source {row : ReservationSource × SourceStat} (hrow : row ∈ sourceStats p (loaded c h p)) :
    IsSum (((rangeBookings p (loaded c h p)).filter fun x => decide (x.source = row.1)).map (·.totalPrice))
      row.2.revenue := by
  rw [(perm_sourceStats _).mem_iff, sourceRows_eq] at hrow
  obtain ⟨k, _, rfl⟩ := List.mem_map.mp hrow
  exact isSum_revenueOf _

/-- Rows of exact sums add up to the exact sum. -/
theorem sum_rows {α : Type} {rows : List α} {prices : α → List Price} {revenue : α → ℚ} {x : ℚ}
    {total : List Price} (hrows : ∀ row ∈ rows, IsSum (prices row) (revenue row)) (hx : IsSum total x)
    (hsum : (rows.map fun row => (prices row).sum).sum = total.sum)
    (hpart : ∀ row ∈ rows, WholeRubles (prices row)) (htotal : WholeRubles total) :
    (rows.map revenue).sum = x := by
  rw [hx.exact_ htotal, ← hsum, ← sum_rubles, List.map_map]
  exact congrArg _ (List.map_congr_left fun row hrow => (hrows row hrow).exact_ (hpart row hrow))

end Rows

/-- **The report adds up.** -/
theorem report_adds_up (c : TimelineColumns) (h : Hotel) (br : Browser) (p : Period) :
    AddsUp c h br p (loaded c h p) where
  bookings := perm_rangeBookings
  whole hyear _ := mem_reported hyear
  nights := occupiedNights_loaded
  revenue := (isSum_revenueOf _).perm perm_prices
  categories := by
    refine ⟨?_, fun cat _ => isSum_revenueOf _, sum_categories_prices⟩
    rw [← length_eq_sum, ← sum_categories, catStats, List.map_map]
    refine congrArg _ (List.map_congr_left fun cat _ => ?_)
    exact (length_eq_sum _).symm
  sources := by
    refine ⟨?_, fun row => isSum_source, sum_sources_prices⟩
    rw [((perm_sourceStats _).map _).sum_eq, sourceRows_eq, List.map_map, ← length_eq_sum, ← sum_sources]
    refine congrArg _ (List.map_congr_left fun k _ => ?_)
    exact (length_eq_sum _).symm
  roubles hwhole := by
    have hpage := hwhole.perm (@perm_prices c h p).symm
    have hrevenue := (isSum_revenueOf _).perm (@perm_prices c h p)
    constructor
    · rw [catStats, List.map_map]
      exact sum_rows (fun cat _ => isSum_revenueOf _) hrevenue sum_categories_prices
        (fun cat _ => hpage.sublist (List.filter_sublist.map _)) hwhole
    · exact sum_rows (fun row => isSum_source) hrevenue sum_sources_prices
        (fun row _ => hpage.sublist (List.filter_sublist.map _)) hwhole
  sourcesOnce := by
    refine ((perm_sourceStats _).map _).nodup_iff.mpr ?_
    rw [sourceRows_eq, List.map_map]
    exact (List.map_id _).symm ▸ nodup_distinct
  possible hn hwhole hcame := by
    have hrooms : (loaded c h p).rooms.length = (h.rooms.select (·.isActive)).length := by
      rw [loaded, perm_rooms.length_eq, List.length_map]
    rw [occupiedNights_loaded, hrooms]
    have hnight : ∀ d ∈ Finset.Ico p.dateFrom p.dateTo, ((guestsOn h p d).length : ℤ) ≤
        (h.rooms.select (·.isActive)).length :=
      fun d _ => Int.ofNat_le.mpr (guestsOn_le c hn hwhole hcame d)
    have hsum := Finset.sum_le_card_nsmul _ _ _ hnight
    rwa [Int.card_Ico, nsmul_eq_mul, mul_comm] at hsum

/-! ## Reading the files -/

section Files

variable {c : TimelineColumns} {h : Hotel} {p : Period}

/-- **A file is read back**, of rows that have a cell each. -/
theorem openCSV_exportCSV {row : List String} {rows : List (List String)}
    (hcells : ∀ r ∈ row :: rows, r ≠ []) : openCSV (exportCSV (row :: rows)) = some (row :: rows) := by
  have hfields : ∀ fields ∈ (row :: rows).map fun r => r.map String.toList, fields ≠ [] := by
    intro fields hf
    obtain ⟨r, hr, rfl⟩ := List.mem_map.mp hf
    exact fun hnil => hcells r hr (List.map_eq_nil_iff.mp hnil)
  have hread : Csv.read (Csv.write ((row :: rows).map fun r => r.map String.toList)) = some _ :=
    Csv.read_write (List.cons_ne_nil _ _) hfields
  rw [exportCSV, openCSV, if_pos rfl, hread, Option.map_some, List.map_map]
  refine congrArg some ((List.map_congr_left fun r _ => ?_).trans (List.map_id _))
  rw [Function.comp_apply, List.map_map]
  exact (List.map_congr_left fun s _ => String.ofList_toList).trans (List.map_id r)

def reservationRow (c : TimelineColumns) (r : Reservation) : List String :=
  bookingCells (c.roomNumber r.roomId) (shownBooking c r)

theorem bookingRow_shown {r : Reservation} (hr : r ∈ reported h p) :
    bookingRow (loaded c h p) (shownBooking c r) = reservationRow c r := by
  obtain ⟨room, hroom, hid⟩ := room_reported hr
  have hfind := find_room (c := c) (p := p) hroom
  rw [hid] at hfind
  rw [bookingRow, reservationRow]
  show bookingCells (((((loaded c h p).rooms.find? fun x =>
    decide (x.id = r.roomId)).map (·.number))).getD "") _ = _
  rw [hfind, ← hid]
  rfl

/-- **The files say what the page shows**: a row of each reservation of the report, with its
room and its texts as they are, whatever characters they hold; and the row of each category
before the totals. -/
theorem exported_rows (c : TimelineColumns) (h : Hotel) (br : Browser) (p : Period) :
    (∃ rows, openCSV (bookingsFile br p (loaded c h p)) = some (bookingsHeader :: rows) ∧
      rows.Perm ((reported h p).map (reservationRow c))) ∧
    openCSV (occupancyFile br p (loaded c h p)) = some (occupancyHeader ::
      ((catStats br p (loaded c h p)).map (catCells br) ++ [totalCells br p (loaded c h p)])) := by
  refine ⟨⟨_, openCSV_exportCSV ?_, ?_⟩, openCSV_exportCSV ?_⟩
  · intro row hrow
    rcases List.mem_cons.mp hrow with rfl | hrow
    · exact List.cons_ne_nil _ _
    · obtain ⟨x, _, rfl⟩ := List.mem_map.mp hrow
      exact List.cons_ne_nil _ _
  · refine (((br.perm_sort _).trans perm_rangeBookings).map _).trans (List.Perm.of_eq ?_)
    rw [List.map_map]
    exact List.map_congr_left fun r hr => bookingRow_shown hr
  · intro row hrow
    rcases List.mem_cons.mp hrow with rfl | hrow
    · exact List.cons_ne_nil _ _
    rcases List.mem_append.mp hrow with hrow | hrow
    · obtain ⟨x, _, rfl⟩ := List.mem_map.mp hrow
      exact List.cons_ne_nil _ _
    · rw [List.mem_singleton.mp hrow]
      exact List.cons_ne_nil _ _

end Files

end KarsHotel.Reports
