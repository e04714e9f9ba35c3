import KarsHotel.Lib.History
import KarsHotel.Timeline.Service

/-!
# Dragging on the chessboard

A booking is picked up with the mouse, carried over rows and days and let go; the screen then asks
whether to save what it makes of that.

* `Chessboard`, `Chessboard.step`: the screen and what the mouse, the answers of the server and the
  dialog do to it;
* `release`: what the screen asks when a booking is let go; `PendingDrag.request`: what
  it sends then;
* `Asks`: what a question is by itself: a move keeps the number of nights, a side that is pulled
  moves alone, an exchange is one of two places of a room;
* `Held`, `Dropped`: the run before a question: which booking was picked up, how far the mouse
  carried it, over which row it was let go, and on which boards that was;
* **`asks_run`**: after any events the dialog asks for what the mouse did.
-/

namespace KarsHotel.TimelineDrag

open TimelineService

/-! ## The screen -/

/-- What of a booking is held: all of it, or one side. -/
inductive DragType where
  | move
  | resizeLeft
  | resizeRight
  deriving DecidableEq, Repr

/-- `dragRef`: days pulled over free cells, or a booking as it was when it was picked up. -/
inductive Drag where
  | create (roomId : RoomId) (startDayIndex endDayIndex : ℤ)
  | booking (type : DragType) (booking : BoardBooking) (startDayIndex : ℤ)
  deriving DecidableEq, Repr

structure PendingDrag where
  booking : BoardBooking
  newCheckIn : Day
  newCheckOut : Day
  newRoomId : RoomId
  newPlaceNumber : ℕ
  swapBooking : Option BoardBooking
  type : DragType
  deriving DecidableEq, Repr

/-- The form: empty for some nights of a room, or with a booking. -/
inductive FormData where
  | fresh (roomId : RoomId) (checkIn checkOut : Day)
  | edit (booking : BoardBooking)
  deriving DecidableEq, Repr

/-- The state of the screen. `seen` is the board that the handler of a release was made with: it is
made anew when the ghost or the first day changes, not when a board arrives. -/
structure Chessboard where
  multiPlaceEnabled : Bool
  viewStart : Day
  daysCount : ℕ
  board : Board
  seen : Board
  hoveredRoom : Option RoomId
  hoveredPlace : Option (RoomId × ℕ)
  drag : Option Drag
  dragMoved : Bool
  ghost : Option BoardBooking
  pending : Option PendingDrag
  saving : Bool
  form : Option FormData

inductive DragEvent where
  | loaded (board : Board)
  | setViewStart (day : Day)
  | setDaysCount (n : ℕ)
  | enterRow (roomId : RoomId) (place : Option ℕ)
  | bookingMouseDown (booking : BoardBooking) (type : DragType) (dayIndex : ℤ)
  | gridMouseDown (roomId : RoomId) (dayIndex : ℤ)
  | mouseMove (dayIndex : ℤ)
  | mouseUp
  | clickBooking (booking : BoardBooking)
  | closeForm
  | confirmDrag
  | answered (accepted : Bool)
  | cancelDrag

/-! ## Picking up and carrying -/

def holdsPlace (b : BoardBooking) : Bool := !decide (b.status = .cancelled ∨ b.status = .noShow)

/-- A block of the grid that the mouse can take: shown, and not of a stay that is over. -/
def Chessboard.interactive (s : Chessboard) (b : BoardBooking) : Bool :=
  decide (b ∈ s.board.bookings) && holdsPlace b && decide (b.status ≠ .checkedOut) &&
    decide (s.viewStart < b.checkOut) && decide (b.checkIn < s.viewStart + s.daysCount)

/-- A row of the grid: a room, or a place of a room that is sold by places. -/
def Chessboard.hasRow (s : Chessboard) (roomId : RoomId) (place : Option ℕ) : Bool :=
  s.board.rooms.any fun r => decide (r.id = roomId) && place.all fun p =>
    s.multiPlaceEnabled && decide (1 < r.capacity) && decide (1 ≤ p) && decide (p ≤ r.capacity)

/-- A change of the ghost, with which the handler of a release is made anew. -/
def Chessboard.setGhost (s : Chessboard) (ghost : Option BoardBooking) : Chessboard :=
  { s with ghost := ghost, seen := s.board }

/-- The row a booking is carried over, its own until the mouse has met another. -/
def Chessboard.targetRoom (s : Chessboard) (b : BoardBooking) : RoomId := s.hoveredRoom.getD b.roomId

/-- The place of that row, the booking's own where the row is of a whole room. -/
def Chessboard.targetPlace (s : Chessboard) (b : BoardBooking) : ℕ :=
  match s.hoveredPlace with
  | some (roomId, place) => if roomId = s.targetRoom b then place else b.placeNumber
  | none => b.placeNumber

/-- The mouse goes to a day with a booking. -/
def Chessboard.carry (s : Chessboard) (type : DragType) (b : BoardBooking) (delta : ℤ) : Chessboard :=
  match type with
  | .move =>
    let changed := decide (delta ≠ 0) || decide (s.targetRoom b ≠ b.roomId) ||
      decide (s.targetPlace b ≠ b.placeNumber)
    let ghost := s.ghost.map fun g =>
      { g with
        checkIn := b.checkIn + delta
        checkOut := b.checkOut + delta
        roomId := s.targetRoom b
        placeNumber := s.targetPlace b }
    { s with dragMoved := s.dragMoved || changed }.setGhost ghost
  | .resizeRight =>
    if b.checkIn < b.checkOut + delta then
      let ghost := s.ghost.map fun g => { g with checkOut := b.checkOut + delta }
      { s with dragMoved := s.dragMoved || decide (delta ≠ 0) }.setGhost ghost
    else s
  | .resizeLeft =>
    if b.checkIn + delta < b.checkOut then
      let ghost := s.ghost.map fun g => { g with checkIn := b.checkIn + delta }
      { s with dragMoved := s.dragMoved || decide (delta ≠ 0) }.setGhost ghost
    else s

/-! ## Letting go -/

/-- The bookings of a room on some nights, without the one that is carried. -/
def overlapping (bookings : List BoardBooking) (id : ReservationId) (roomId : RoomId)
    (checkIn checkOut : Day) : List BoardBooking :=
  bookings.filter fun b => decide (b.id ≠ id) && decide (b.roomId = roomId) && holdsPlace b &&
    decide (b.checkIn < checkOut) && decide (checkIn < b.checkOut)

/-- The first place of a room that is not taken, nor the one the booking leaves. -/
def freePlace (capacity : ℕ) (taken : List ℕ) (own : Option ℕ) : Option ℕ :=
  (List.range' 1 capacity).find? fun p => decide (p ∉ taken) && decide (own ≠ some p)

/-- A move ends on a place: the place the booking gets, and the booking it changes places with. -/
def settle (seen : Board) (b : BoardBooking) (roomId : RoomId) (checkIn checkOut : Day)
    (place : ℕ) : ℕ × Option BoardBooking :=
  let capacity := ((seen.rooms.find? fun r => decide (r.id = roomId)).map (·.capacity)).getD 1
  let others := overlapping seen.bookings b.id roomId checkIn checkOut
  match others.find? fun o => decide (o.placeNumber = place) with
  | none => (place, none)
  | some targetOccupant =>
    let own := if roomId = b.roomId then some b.placeNumber else none
    match freePlace capacity (others.map (·.placeNumber)) own with
    | some p => (p, none)
    | none =>
      -- a room without a free place: an exchange inside it, a refusal of the server elsewhere
      (place, if roomId = b.roomId ∧ place ≠ b.placeNumber then some targetOccupant else none)

/-- What is asked about a booking that is let go with this ghost. -/
def Chessboard.ask (s : Chessboard) (type : DragType) (b ghost : BoardBooking) : PendingDrag :=
  let newCheckIn := if type = .resizeRight then b.checkIn else ghost.checkIn
  let newCheckOut := if type = .resizeLeft then b.checkOut else ghost.checkOut
  let newRoomId := if type = .move then s.targetRoom b else b.roomId
  let newPlaceNumber := if type = .move then ghost.placeNumber else b.placeNumber
  let settled := if type = .move then settle s.seen b newRoomId newCheckIn newCheckOut newPlaceNumber
    else (newPlaceNumber, none)
  ⟨b, newCheckIn, newCheckOut, newRoomId, settled.1, settled.2, type⟩

def PendingDrag.unchanged (p : PendingDrag) : Bool :=
  decide (p.newCheckIn = p.booking.checkIn) && decide (p.newCheckOut = p.booking.checkOut) &&
    decide (p.newRoomId = p.booking.roomId) && decide (p.newPlaceNumber = p.booking.placeNumber)

/-- The question a release opens, unless nothing changes. -/
def Chessboard.release (s : Chessboard) : Option PendingDrag :=
  match s.drag, s.ghost with
  | some (.booking type b _), some ghost =>
    let p := s.ask type b ghost
    if p.unchanged then none else some p
  | _, _ => none

/-- A field that is sent if it changed. -/
def changedField {α : Type} [DecidableEq α] (new old : α) : Field α :=
  if new ≠ old then .val new else .undefined

/-- The patch of a question. -/
def PendingDrag.dto (p : PendingDrag) : UpdateReservationDto :=
  { UpdateReservationDto.ofVersion p.booking.version with
    roomId := changedField p.newRoomId p.booking.roomId
    checkIn := if p.newCheckIn ≠ p.booking.checkIn then .val (.ofDay p.newCheckIn) else .undefined
    checkOut := if p.newCheckOut ≠ p.booking.checkOut then .val (.ofDay p.newCheckOut) else .undefined
    placeNumber := changedField p.newPlaceNumber p.booking.placeNumber }

/-- What is sent when the question is answered with yes. -/
def PendingDrag.request (p : PendingDrag) (now : Moment) : Op :=
  match p.swapBooking with
  | some other => .swap ⟨p.booking.id, p.booking.version, other.id, other.version⟩
  | none => .update p.booking.id p.dto .form now

namespace Chessboard

def step (s : Chessboard) : DragEvent → Chessboard
  | .loaded board => { s with board := board }
  | .setViewStart day => { s with viewStart := day, seen := s.board }
  | .setDaysCount n => { s with daysCount := n }
  | .enterRow roomId place =>
    if s.hasRow roomId place then
      { s with hoveredRoom := some roomId, hoveredPlace := place.map fun p => (roomId, p) }
    else s
  | .bookingMouseDown b type dayIndex =>
    if s.interactive b then
      { s with dragMoved := false, drag := some (.booking type b dayIndex) }.setGhost (some b)
    else s
  | .gridMouseDown roomId dayIndex =>
    if s.hasRow roomId none then { s with drag := some (.create roomId dayIndex dayIndex) } else s
  | .mouseMove dayIndex => match s.drag with
    | some (.create roomId startDayIndex _) =>
      { s with drag := some (.create roomId startDayIndex dayIndex) }
    | some (.booking type b startDayIndex) => s.carry type b (dayIndex - startDayIndex)
    | none => s
  | .mouseUp => match s.drag with
    | some (.create roomId startDayIndex endDayIndex) =>
      { s with
        drag := none
        form := some (.fresh roomId (s.viewStart + min startDayIndex endDayIndex)
          (s.viewStart + max startDayIndex endDayIndex + 1)) }
    | some (.booking _ _ _) =>
      { s with drag := none, pending := s.release.or s.pending }.setGhost none
    | none => s
  | .clickBooking b =>
    if s.drag.isSome || s.dragMoved then { s with dragMoved := false }
    else { s with form := some (.edit b) }
  | .closeForm => { s with form := none }
  | .confirmDrag => { s with saving := s.saving || s.pending.isSome }
  | .answered accepted =>
    if s.saving then
      { s with saving := false, pending := if accepted then none else s.pending }
    else s
  | .cancelDrag => { s with pending := none }

/-- The screen when it opens. -/
def start (multiPlaceEnabled : Bool) (viewStart : Day) : Chessboard :=
  ⟨multiPlaceEnabled, viewStart, 30, ⟨[], [], []⟩, ⟨[], [], []⟩, none, none, none, false, none, none,
    false, none⟩

def run (multiPlaceEnabled : Bool) (viewStart : Day) (events : List DragEvent) : Chessboard :=
  events.foldl step (start multiPlaceEnabled viewStart)

end Chessboard

/-! ## What is asked -/

/-- A booking that may be changed on the grid. -/
def Changeable (b : BoardBooking) : Prop := holdsPlace b = true ∧ b.status ≠ .checkedOut

/-- The question is about a real change that the drag can make. -/
structure Asks (p : PendingDrag) : Prop where
  booking : Changeable p.booking
  changes : p.unchanged = false
  nights : p.booking.checkIn < p.booking.checkOut → p.newCheckIn < p.newCheckOut
  move : p.type = .move →
    p.newCheckOut - p.newCheckIn = p.booking.checkOut - p.booking.checkIn
  resizeLeft : p.type = .resizeLeft → p.newCheckOut = p.booking.checkOut
  resizeRight : p.type = .resizeRight → p.newCheckIn = p.booking.checkIn
  stays : p.type ≠ .move →
    p.newRoomId = p.booking.roomId ∧ p.newPlaceNumber = p.booking.placeNumber ∧ p.swapBooking = none
  /-- An exchange is with another booking of the room, which holds the place meant on
  these nights. -/
  exchange : ∀ o, p.swapBooking = some o → p.newRoomId = p.booking.roomId ∧
    o.placeNumber = p.newPlaceNumber ∧ p.newPlaceNumber ≠ p.booking.placeNumber ∧ o.id ≠ p.booking.id ∧
    o.roomId = p.booking.roomId ∧ holdsPlace o = true ∧ o.checkIn < p.newCheckOut ∧
    p.newCheckIn < o.checkOut

/-- What the screen shows of the drags. -/
structure Shows (s : Chessboard) : Prop where
  pending : ∀ p, s.pending = some p → Asks p
  form : ∀ roomId checkIn checkOut, s.form = some (.fresh roomId checkIn checkOut) → checkIn < checkOut

/-- What the ghost of a drag is of its booking. -/
structure Carried (multiPlaceEnabled : Bool) (type : DragType) (b g : BoardBooking) : Prop where
  move : type = .move → g.checkOut - g.checkIn = b.checkOut - b.checkIn
  resizeLeft : type = .resizeLeft → b.checkIn < b.checkOut → g.checkIn < b.checkOut
  resizeRight : type = .resizeRight → b.checkIn < b.checkOut → b.checkIn < g.checkOut
  whole : multiPlaceEnabled = false → g.placeNumber = b.placeNumber

structure DragInv (s : Chessboard) : Prop where
  shows : Shows s
  picked : ∀ type b i, s.drag = some (.booking type b i) →
    Changeable b ∧ ∃ g, s.ghost = some g ∧ Carried s.multiPlaceEnabled type b g
  hovered : s.multiPlaceEnabled = false → s.hoveredPlace = none

section Asked

variable {s : Chessboard} {b g : BoardBooking} {type : DragType}

theorem mem_overlapping {bookings : List BoardBooking} {id : ReservationId} {roomId : RoomId}
    {checkIn checkOut : Day} {o : BoardBooking} :
    o ∈ overlapping bookings id roomId checkIn checkOut ↔ o ∈ bookings ∧ o.id ≠ id ∧
      o.roomId = roomId ∧ holdsPlace o = true ∧ o.checkIn < checkOut ∧ checkIn < o.checkOut := by
  simp [overlapping, and_assoc]

/-- An exchange is offered with the booking on the place meant, in the room of the drag. -/
theorem settle_swap {seen : Board} {roomId : RoomId} {checkIn checkOut : Day} {place : ℕ}
    {o : BoardBooking} (h : (settle seen b roomId checkIn checkOut place).2 = some o) :
    (settle seen b roomId checkIn checkOut place).1 = place ∧ roomId = b.roomId ∧
      place ≠ b.placeNumber ∧ o.placeNumber = place ∧
      o ∈ overlapping seen.bookings b.id roomId checkIn checkOut := by
  unfold settle at *
  dsimp only at *
  cases hfind : (overlapping seen.bookings b.id roomId checkIn checkOut).find?
    fun o => decide (o.placeNumber = place) with
  | none =>
    rw [hfind] at h
    cases h
  | some x =>
    rw [hfind] at h
    dsimp only at h ⊢
    split at h
    · cases h
    · dsimp only at h ⊢
      split_ifs at h with hroom
      obtain rfl := Option.some.inj h
      exact ⟨rfl, hroom.1, hroom.2, of_decide_eq_true (List.find?_some hfind :),
        List.mem_of_find?_eq_some hfind⟩

/-- **A release asks for a change that the drag can make.** -/
theorem asks_of_release (hb : Changeable b) (hg : Carried s.multiPlaceEnabled type b g)
    (hchanged : (s.ask type b g).unchanged = false) : Asks (s.ask type b g) where
  booking := hb
  changes := hchanged
  nights h := by
    cases type with
    | move =>
      show g.checkIn < g.checkOut
      rw [← sub_pos, hg.move rfl, sub_pos]
      exact h
    | resizeLeft => exact hg.resizeLeft rfl h
    | resizeRight => exact hg.resizeRight rfl h
  move h := by
    obtain rfl : type = .move := h
    exact hg.move rfl
  resizeLeft h := by
    obtain rfl : type = .resizeLeft := h
    rfl
  resizeRight h := by
    obtain rfl : type = .resizeRight := h
    rfl
  stays h := by
    cases type with
    | move => exact absurd rfl h
    | resizeLeft => exact ⟨rfl, rfl, rfl⟩
    | resizeRight => exact ⟨rfl, rfl, rfl⟩
  exchange o h := by
    cases type with
    | move =>
      obtain ⟨hplace, hroom, hne, ho, hmem⟩ := settle_swap h
      obtain ⟨_, hid, horoom, hlive, hin, hout⟩ := mem_overlapping.mp hmem
      have hplace' : (s.ask .move b g).newPlaceNumber = g.placeNumber := hplace
      have hne' : (s.ask .move b g).newPlaceNumber ≠ b.placeNumber := hplace' ▸ hne
      exact ⟨hroom, ho.trans hplace'.symm, hne', hid, horoom.trans hroom, hlive, hin, hout⟩
    | resizeLeft => cases h
    | resizeRight => cases h

end Asked

/-! ## Runs -/

section Runs

variable {s : Chessboard}

theorem targetPlace_whole (h : s.hoveredPlace = none) (b : BoardBooking) :
    s.targetPlace b = b.placeNumber := by
  unfold Chessboard.targetPlace
  rw [h]

/-- Carrying a booking changes its ghost alone, within what the drag allows. -/
theorem DragInv.carry (hinv : DragInv s) {type : DragType} {b : BoardBooking} {i : ℤ}
    (hdrag : s.drag = some (.booking type b i)) (delta : ℤ) : DragInv (s.carry type b delta) := by
  obtain ⟨hb, g, hghost, hg⟩ := hinv.picked type b i hdrag
  -- the same screen with another ghost that is still one of the drag
  have hset : ∀ moved g', Carried s.multiPlaceEnabled type b g' →
      DragInv (Chessboard.setGhost { s with dragMoved := moved } (some g')) := by
    intro moved g' hg'
    refine ⟨⟨hinv.shows.pending, hinv.shows.form⟩, fun type' b' i' hdrag' => ?_, hinv.hovered⟩
    have heq : Drag.booking type b i = .booking type' b' i' := Option.some.inj (hdrag.symm.trans hdrag')
    cases heq
    exact ⟨hb, g', rfl, hg'⟩
  cases type with
  | move =>
    simp only [Chessboard.carry, hghost, Option.map_some]
    refine hset _ _ ⟨fun _ => ?_, nofun, nofun, fun h => targetPlace_whole (hinv.hovered h) b⟩
    exact add_sub_add_right_eq_sub _ _ _
  | resizeRight =>
    simp only [Chessboard.carry, hghost, Option.map_some]
    split_ifs with hlt
    · exact hset _ _ ⟨nofun, nofun, fun _ _ => hlt, hg.whole⟩
    · exact hinv
  | resizeLeft =>
    simp only [Chessboard.carry, hghost, Option.map_some]
    split_ifs with hlt
    · exact hset _ _ ⟨nofun, fun _ _ => hlt, nofun, hg.whole⟩
    · exact hinv

theorem DragInv.release (hinv : DragInv s) {p : PendingDrag} (h : s.release = some p) : Asks p := by
  unfold Chessboard.release at h
  split at h
  · rename_i type b i ghost hdrag hghost
    obtain ⟨hb, g, hg, hcarried⟩ := hinv.picked type b i hdrag
    obtain rfl : ghost = g := Option.some.inj (hghost.symm.trans hg)
    dsimp only at h
    split_ifs at h with hchanged
    obtain rfl := Option.some.inj h
    exact asks_of_release hb hcarried (Bool.not_eq_true _ ▸ hchanged)
  · cases h

theorem DragInv.step (hinv : DragInv s) (e : DragEvent) : DragInv (s.step e) := by
  obtain ⟨⟨hpending, hform⟩, hpicked, hhovered⟩ := id hinv
  cases e with
  | loaded board => exact ⟨⟨hpending, hform⟩, hpicked, hhovered⟩
  | setViewStart day => exact ⟨⟨hpending, hform⟩, hpicked, hhovered⟩
  | setDaysCount n => exact ⟨⟨hpending, hform⟩, hpicked, hhovered⟩
  | enterRow roomId place =>
    simp only [Chessboard.step]
    split_ifs with hrow
    · refine ⟨⟨hpending, hform⟩, hpicked, fun hwhole => ?_⟩
      cases place with
      | none => rfl
      | some p =>
        -- rows of places are there only where rooms are sold by places
        obtain ⟨r, _, hr⟩ := List.any_eq_true.mp hrow
        have hwhole' : s.multiPlaceEnabled = false := hwhole
        simp [hwhole'] at hr
    · exact hinv
  | bookingMouseDown b type dayIndex =>
    simp only [Chessboard.step]
    split_ifs with hb
    · refine ⟨⟨hpending, hform⟩, fun type' b' i' hdrag => ?_, hhovered⟩
      have heq : Drag.booking type b dayIndex = .booking type' b' i' := Option.some.inj hdrag
      cases heq
      simp only [Chessboard.interactive, Bool.and_eq_true, decide_eq_true_eq] at hb
      exact ⟨⟨hb.1.1.1.2, hb.1.1.2⟩, b, rfl, fun _ => rfl, fun _ h => h, fun _ h => h, fun _ => rfl⟩
    · exact hinv
  | gridMouseDown roomId dayIndex =>
    simp only [Chessboard.step]
    split_ifs
    · exact ⟨⟨hpending, hform⟩, fun _ _ _ h => (by cases h), hhovered⟩
    · exact hinv
  | mouseMove dayIndex =>
    simp only [Chessboard.step]
    split
    · exact ⟨⟨hpending, hform⟩, fun _ _ _ h => (by cases h), hhovered⟩
    · rename_i hdrag
      exact hinv.carry hdrag _
    · exact hinv
  | mouseUp =>
    simp only [Chessboard.step]
    split
    · refine ⟨⟨hpending, fun roomId checkIn checkOut h => ?_⟩, fun _ _ _ h => (by cases h), hhovered⟩
      cases h
      exact Int.lt_add_one_of_le (Int.add_le_add_left min_le_max _)
    · refine ⟨⟨fun p hp => ?_, hform⟩, fun _ _ _ h => (by cases h), hhovered⟩
      have hp' : s.release.or s.pending = some p := hp
      rcases Option.or_eq_some_iff.mp hp' with hp' | ⟨_, hp'⟩
      · exact hinv.release hp'
      · exact hpending p hp'
    · exact hinv
  | clickBooking b =>
    simp only [Chessboard.step]
    split_ifs
    · exact ⟨⟨hpending, hform⟩, hpicked, hhovered⟩
    · exact ⟨⟨hpending, fun _ _ _ h => (by cases h)⟩, hpicked, hhovered⟩
  | closeForm => exact ⟨⟨hpending, fun _ _ _ h => (by cases h)⟩, hpicked, hhovered⟩
  | confirmDrag => exact ⟨⟨hpending, hform⟩, hpicked, hhovered⟩
  | answered accepted =>
    simp only [Chessboard.step]
    split_ifs
    · exact ⟨⟨fun _ h => (by cases h), hform⟩, hpicked, hhovered⟩
    · exact ⟨⟨hpending, hform⟩, hpicked, hhovered⟩
    · exact hinv
  | cancelDrag => exact ⟨⟨fun _ h => (by cases h), hform⟩, hpicked, hhovered⟩

theorem dragInv_start (multiPlaceEnabled : Bool) (viewStart : Day) :
    DragInv (Chessboard.start multiPlaceEnabled viewStart) where
  shows := ⟨fun _ h => (by cases h), fun _ _ _ h => (by cases h)⟩
  picked _ _ _ h := by cases h
  hovered _ := rfl

theorem dragInv_run (multiPlaceEnabled : Bool) (viewStart : Day) (events : List DragEvent) :
    DragInv (Chessboard.run multiPlaceEnabled viewStart events) :=
  foldl_keeps_all (P := DragInv) (fun _ e h => h.step e) events (dragInv_start multiPlaceEnabled viewStart)

end Runs

/-! ## What was done before -/

/-- A booking as it is shown when it is carried some days. -/
def Chessboard.carried (s : Chessboard) (type : DragType) (b : BoardBooking) (delta : ℤ) : BoardBooking :=
  match type with
  | .move =>
    { b with
      checkIn := b.checkIn + delta
      checkOut := b.checkOut + delta
      roomId := s.targetRoom b
      placeNumber := s.targetPlace b }
  | .resizeLeft => { b with checkIn := b.checkIn + delta }
  | .resizeRight => { b with checkOut := b.checkOut + delta }

/-- No side goes past the other. -/
def Carries (b : BoardBooking) (delta : ℤ) : DragType → Prop
  | .move => True
  | .resizeLeft => b.checkIn + delta < b.checkOut
  | .resizeRight => b.checkIn < b.checkOut + delta

/-- A mouse move that carries a booking picked up on day `start`. -/
def CarriedBy (type : DragType) (b : BoardBooking) (start : ℤ) : DragEvent → Prop
  | .mouseMove day => Carries b (day - start) type
  | _ => False

section History

variable (multiPlaceEnabled : Bool) (viewStart : Day) (events : List DragEvent)

/-- After the events a booking is held that was picked up by event `i`, when it was on the board; it
is shown as the last mouse move that carried it left it, over the row the mouse was on then. -/
structure Held (type : DragType) (b : BoardBooking) (start : ℤ) (g : BoardBooking) (i : ℕ) : Prop where
  picked : events[i]? = some (.bookingMouseDown b type start)
  shown : (Chessboard.run multiPlaceEnabled viewStart (events.take i)).interactive b = true
  ghost : (g = b ∧ ∀ k, i < k → ∀ y, events[k]? = some y → ¬CarriedBy type b start y) ∨
    ∃ m day, i < m ∧ events[m]? = some (.mouseMove day) ∧ Carries b (day - start) type ∧
      g = (Chessboard.run multiPlaceEnabled viewStart (events.take m)).carried type b (day - start) ∧
      ∀ k, m < k → ∀ y, events[k]? = some y → ¬CarriedBy type b start y

/-- The board that the handler of a release knows was the screen's since event `i`. -/
def SeenSince (i : ℕ) : Prop :=
  ∃ j, i ≤ j ∧ j ≤ events.length ∧ (Chessboard.run multiPlaceEnabled viewStart events).seen =
    (Chessboard.run multiPlaceEnabled viewStart (events.take j)).board

/-- A place of the room that nobody else holds on the nights asked for. -/
structure FreeOn (seen : Board) (p : PendingDrag) : Prop where
  inside : 1 ≤ p.newPlaceNumber ∧ p.newPlaceNumber ≤
    ((seen.rooms.find? fun r => decide (r.id = p.newRoomId)).map (·.capacity)).getD 1
  free : ∀ o ∈ overlapping seen.bookings p.booking.id p.newRoomId p.newCheckIn p.newCheckOut,
    o.placeNumber ≠ p.newPlaceNumber

/-- The question is about the booking that is held after the events, and let go then: on the nights
where it is shown, in the row the mouse is on; at the place where it is shown, or at a free one if
another stay of the board holds that. -/
structure Dropped (p : PendingDrag) (start : ℤ) (g : BoardBooking) (i : ℕ) : Prop where
  held : Held multiPlaceEnabled viewStart events p.type p.booking start g i
  seen : SeenSince multiPlaceEnabled viewStart events i
  nights : p.newCheckIn = g.checkIn ∧ p.newCheckOut = g.checkOut
  room : p.type = .move →
    p.newRoomId = (Chessboard.run multiPlaceEnabled viewStart events).targetRoom p.booking
  place : p.newPlaceNumber = g.placeNumber ∨
    (∃ o ∈ overlapping (Chessboard.run multiPlaceEnabled viewStart events).seen.bookings p.booking.id
      p.newRoomId p.newCheckIn p.newCheckOut, o.placeNumber = g.placeNumber) ∧
    FreeOn (Chessboard.run multiPlaceEnabled viewStart events).seen p
  exchange : ∀ o, p.swapBooking = some o →
    o ∈ (Chessboard.run multiPlaceEnabled viewStart events).seen.bookings

/-- What the dialog asks and the form offers after the events. -/
structure Sound : Prop where
  pending : ∀ p, (Chessboard.run multiPlaceEnabled viewStart events).pending = some p →
    Asks p ∧ ∃ k start g i, events[k]? = some .mouseUp ∧
      Dropped multiPlaceEnabled viewStart (events.take k) p start g i
  form : ∀ roomId checkIn checkOut, (Chessboard.run multiPlaceEnabled viewStart events).form =
    some (.fresh roomId checkIn checkOut) → checkIn < checkOut

variable {multiPlaceEnabled viewStart events} {type : DragType} {b g : BoardBooking} {start : ℤ} {i : ℕ}
  {x : DragEvent}

theorem Chessboard.run_concat : Chessboard.run multiPlaceEnabled viewStart (events ++ [x]) =
    (Chessboard.run multiPlaceEnabled viewStart events).step x := List.foldl_concat ..

/-- A carried booking is shown as `carried` says, whatever was shown of it before. -/
theorem carry_eq (s : Chessboard) {delta : ℤ} (h : Carries b delta type)
    (hg : s.ghost = some b ∨ ∃ s' : Chessboard, ∃ d, s.ghost = some (s'.carried type b d)) :
    (s.carry type b delta).ghost = some (s.carried type b delta) := by
  cases type with
  | move => rcases hg with hg | ⟨s', d, hg⟩ <;> simp only [Chessboard.carry, hg] <;> rfl
  | resizeLeft =>
    have h' : b.checkIn + delta < b.checkOut := h
    rcases hg with hg | ⟨s', d, hg⟩ <;> simp only [Chessboard.carry, hg, if_pos h'] <;> rfl
  | resizeRight =>
    have h' : b.checkIn < b.checkOut + delta := h
    rcases hg with hg | ⟨s', d, hg⟩ <;> simp only [Chessboard.carry, hg, if_pos h'] <;> rfl

theorem carry_of_not (s : Chessboard) {delta : ℤ} (h : ¬Carries b delta type) :
    s.carry type b delta = s := by
  cases type with
  | move => exact absurd trivial h
  | resizeLeft => exact if_neg h
  | resizeRight => exact if_neg h

theorem drag_carry (s : Chessboard) (delta : ℤ) : (s.carry type b delta).drag = s.drag := by
  cases type with
  | move => rfl
  | resizeLeft => simp only [Chessboard.carry]; split_ifs <;> rfl
  | resizeRight => simp only [Chessboard.carry]; split_ifs <;> rfl

theorem seen_carry (s : Chessboard) (delta : ℤ) :
    (s.carry type b delta).seen = s.seen ∨ (s.carry type b delta).seen = s.board := by
  cases type with
  | move => exact .inr rfl
  | resizeLeft => simp only [Chessboard.carry]; split_ifs <;> [exact .inr rfl; exact .inl rfl]
  | resizeRight => simp only [Chessboard.carry]; split_ifs <;> [exact .inr rfl; exact .inl rfl]

/-- Every event keeps the board a release knows, or takes the one that is shown. -/
theorem seen_step (s : Chessboard) (e : DragEvent) :
    (s.step e).seen = s.seen ∨ (s.step e).seen = s.board := by
  cases e with
  | loaded board => exact .inl rfl
  | setViewStart day => exact .inr rfl
  | setDaysCount n => exact .inl rfl
  | enterRow roomId place => exact .inl (by simp only [Chessboard.step]; split_ifs <;> rfl)
  | bookingMouseDown b type dayIndex =>
    simp only [Chessboard.step]
    split_ifs <;> [exact .inr rfl; exact .inl rfl]
  | gridMouseDown roomId dayIndex => exact .inl (by simp only [Chessboard.step]; split_ifs <;> rfl)
  | mouseMove dayIndex =>
    simp only [Chessboard.step]
    split <;> [exact .inl rfl; exact seen_carry s _; exact .inl rfl]
  | mouseUp =>
    simp only [Chessboard.step]
    split <;> [exact .inl rfl; exact .inr rfl; exact .inl rfl]
  | clickBooking b => exact .inl (by simp only [Chessboard.step]; split_ifs <;> rfl)
  | closeForm => exact .inl rfl
  | confirmDrag => exact .inl rfl
  | answered accepted => exact .inl (by simp only [Chessboard.step]; split_ifs <;> rfl)
  | cancelDrag => exact .inl rfl

theorem SeenSince.concat (h : SeenSince multiPlaceEnabled viewStart events i) (hi : i ≤ events.length) :
    SeenSince multiPlaceEnabled viewStart (events ++ [x]) i := by
  unfold SeenSince at h ⊢
  rw [Chessboard.run_concat, List.length_append, List.length_singleton]
  rcases seen_step (Chessboard.run multiPlaceEnabled viewStart events) x with hseen | hseen
  · obtain ⟨j, hij, hj, heq⟩ := h
    exact ⟨j, hij, by omega, by rw [hseen, heq, List.take_append_of_le_length hj]⟩
  · exact ⟨events.length, hi, by omega, by rw [hseen, take_last]⟩

theorem Held.concat (h : Held multiPlaceEnabled viewStart events type b start g i)
    (hx : ¬CarriedBy type b start x) :
    Held multiPlaceEnabled viewStart (events ++ [x]) type b start g i where
  picked := getElem?_concat_of_eq_some h.picked
  shown := by
    rw [(take_concat_of_eq_some h.picked).1]
    exact h.shown
  ghost := by
    rcases h.ghost with ⟨hg, hlast⟩ | ⟨m, day, him, hm, hcarries, hg, hlast⟩
    · exact .inl ⟨hg, forall_between_concat.mpr ⟨hlast, fun _ => hx⟩⟩
    · refine .inr ⟨m, day, him, getElem?_concat_of_eq_some hm, hcarries, ?_,
        forall_between_concat.mpr ⟨hlast, fun _ => hx⟩⟩
      rw [(take_concat_of_eq_some hm).1]
      exact hg

theorem Held.carried {day : ℤ} (h : Held multiPlaceEnabled viewStart events type b start g i)
    (hcarries : Carries b (day - start) type) :
    Held multiPlaceEnabled viewStart (events ++ [.mouseMove day]) type b start
      ((Chessboard.run multiPlaceEnabled viewStart events).carried type b (day - start)) i where
  picked := getElem?_concat_of_eq_some h.picked
  shown := by
    rw [(take_concat_of_eq_some h.picked).1]
    exact h.shown
  ghost := by
    refine .inr ⟨events.length, day, lt_length_of_eq_some h.picked, getElem?_last, hcarries, ?_,
      fun k hk y hy => ?_⟩
    · rw [take_last]
    · have hlt := lt_length_of_eq_some hy
      rw [List.length_append, List.length_singleton] at hlt
      omega

/-- A booking that is held was picked up by an event of the run. -/
def HeldInv (multiPlaceEnabled : Bool) (viewStart : Day) (events : List DragEvent) : Prop :=
  ∀ type b start, (Chessboard.run multiPlaceEnabled viewStart events).drag = some (.booking type b start) →
    ∃ g i, (Chessboard.run multiPlaceEnabled viewStart events).ghost = some g ∧
      Held multiPlaceEnabled viewStart events type b start g i ∧
      SeenSince multiPlaceEnabled viewStart events i

theorem HeldInv.same (h : HeldInv multiPlaceEnabled viewStart events)
    (hx : ∀ type b start, (Chessboard.run multiPlaceEnabled viewStart events).drag =
      some (.booking type b start) → ¬CarriedBy type b start x)
    (hdrag : ((Chessboard.run multiPlaceEnabled viewStart events).step x).drag =
      (Chessboard.run multiPlaceEnabled viewStart events).drag)
    (hghost : ((Chessboard.run multiPlaceEnabled viewStart events).step x).ghost =
      (Chessboard.run multiPlaceEnabled viewStart events).ghost) :
    HeldInv multiPlaceEnabled viewStart (events ++ [x]) := by
  intro type b start hheld
  rw [Chessboard.run_concat, hdrag] at hheld
  obtain ⟨g, i, hg, hh, hseen⟩ := h type b start hheld
  refine ⟨g, i, ?_, hh.concat (hx type b start hheld),
    hseen.concat (Nat.le_of_lt (lt_length_of_eq_some hh.picked))⟩
  rw [Chessboard.run_concat, hghost, hg]

theorem heldInv_of_no_drag (h : ∀ type b start,
    ((Chessboard.run multiPlaceEnabled viewStart events).step x).drag ≠ some (.booking type b start)) :
    HeldInv multiPlaceEnabled viewStart (events ++ [x]) := by
  intro type b start hheld
  rw [Chessboard.run_concat] at hheld
  exact absurd hheld (h type b start)

theorem HeldInv.step (h : HeldInv multiPlaceEnabled viewStart events) :
    HeldInv multiPlaceEnabled viewStart (events ++ [x]) := by
  cases x with
  | loaded board => exact h.same (fun _ _ _ _ => id) rfl rfl
  | setViewStart day => exact h.same (fun _ _ _ _ => id) rfl rfl
  | setDaysCount n => exact h.same (fun _ _ _ _ => id) rfl rfl
  | enterRow roomId place =>
    refine h.same (fun _ _ _ _ => id) ?_ ?_ <;> simp only [Chessboard.step] <;> split_ifs <;> rfl
  | bookingMouseDown b type dayIndex =>
    by_cases hb : (Chessboard.run multiPlaceEnabled viewStart events).interactive b = true
    · intro type' b' start hheld
      rw [Chessboard.run_concat, Chessboard.step, if_pos hb] at hheld
      have heq : Drag.booking type b dayIndex = .booking type' b' start := Option.some.inj hheld
      cases heq
      refine ⟨b, events.length, ?_, ⟨getElem?_last, ?_, .inl ⟨rfl, fun k hk y hy => ?_⟩⟩,
        events.length, le_rfl, by simp, ?_⟩
      · rw [Chessboard.run_concat, Chessboard.step, if_pos hb]
        rfl
      · rw [take_last]
        exact hb
      · have hlt := lt_length_of_eq_some hy
        rw [List.length_append, List.length_singleton] at hlt
        omega
      · rw [take_last, Chessboard.run_concat, Chessboard.step, if_pos hb]
        rfl
    · refine h.same (fun _ _ _ _ => id) ?_ ?_ <;> rw [Chessboard.step, if_neg hb]
  | gridMouseDown roomId dayIndex =>
    by_cases hrow : (Chessboard.run multiPlaceEnabled viewStart events).hasRow roomId none = true
    · refine heldInv_of_no_drag fun type b start hheld => ?_
      rw [Chessboard.step, if_pos hrow] at hheld
      cases hheld
    · refine h.same (fun _ _ _ _ => id) ?_ ?_ <;> rw [Chessboard.step, if_neg hrow]
  | mouseMove day =>
    cases hd : (Chessboard.run multiPlaceEnabled viewStart events).drag with
    | none =>
      refine heldInv_of_no_drag fun type b start hheld => ?_
      simp only [Chessboard.step, hd] at hheld
      cases hheld
    | some d =>
      cases d with
      | create roomId startDayIndex endDayIndex =>
        refine heldInv_of_no_drag fun type b start hheld => ?_
        simp only [Chessboard.step, hd] at hheld
        cases hheld
      | booking type b start =>
        by_cases hcarries : Carries b (day - start) type
        · intro type' b' start' hheld
          simp only [Chessboard.run_concat, Chessboard.step, hd, drag_carry] at hheld
          have heq : Drag.booking type b start = .booking type' b' start' := Option.some.inj hheld
          cases heq
          obtain ⟨g, i, hg, hh, hseen⟩ := h type b start hd
          refine ⟨_, i, ?_, hh.carried hcarries,
            hseen.concat (Nat.le_of_lt (lt_length_of_eq_some hh.picked))⟩
          simp only [Chessboard.run_concat, Chessboard.step, hd]
          refine carry_eq _ hcarries ?_
          rcases hh.ghost with ⟨rfl, _⟩ | ⟨m, day', _, _, _, rfl, _⟩
          · exact .inl hg
          · exact .inr ⟨_, _, hg⟩
        · have hsame : (Chessboard.run multiPlaceEnabled viewStart events).step (.mouseMove day) =
              Chessboard.run multiPlaceEnabled viewStart events := by
            simp only [Chessboard.step, hd]
            exact carry_of_not _ hcarries
          refine h.same (fun type' b' start' hheld => ?_) ?_ ?_
          · have heq : Drag.booking type b start = .booking type' b' start' :=
              Option.some.inj (hd.symm.trans hheld)
            cases heq
            exact hcarries
          · rw [hsame]
          · rw [hsame]
  | mouseUp =>
    refine heldInv_of_no_drag fun type b start hheld => ?_
    simp only [Chessboard.step] at hheld
    split at hheld
    · cases hheld
    · cases hheld
    · rename_i hd
      rw [hd] at hheld
      cases hheld
  | clickBooking b =>
    refine h.same (fun _ _ _ _ => id) ?_ ?_ <;> simp only [Chessboard.step] <;> split_ifs <;> rfl
  | closeForm => exact h.same (fun _ _ _ _ => id) rfl rfl
  | confirmDrag => exact h.same (fun _ _ _ _ => id) rfl rfl
  | answered accepted =>
    refine h.same (fun _ _ _ _ => id) ?_ ?_ <;> simp only [Chessboard.step] <;> split_ifs <;> rfl
  | cancelDrag => exact h.same (fun _ _ _ _ => id) rfl rfl

theorem heldInv_run (multiPlaceEnabled : Bool) (viewStart : Day) (events : List DragEvent) :
    HeldInv multiPlaceEnabled viewStart events := by
  induction events using List.reverseRecOn with
  | nil => exact fun _ _ _ h => (by cases h)
  | append_singleton events x ih => exact ih.step

/-- A move that ends on another place than the one meant ends on a free one. -/
theorem settle_redirect {seen : Board} {roomId : RoomId} {checkIn checkOut : Day} {place : ℕ} :
    (settle seen b roomId checkIn checkOut place).1 = place ∨
      (∃ o ∈ overlapping seen.bookings b.id roomId checkIn checkOut, o.placeNumber = place) ∧
      (1 ≤ (settle seen b roomId checkIn checkOut place).1 ∧
        (settle seen b roomId checkIn checkOut place).1 ≤
          ((seen.rooms.find? fun r => decide (r.id = roomId)).map (·.capacity)).getD 1) ∧
      ∀ o ∈ overlapping seen.bookings b.id roomId checkIn checkOut,
        o.placeNumber ≠ (settle seen b roomId checkIn checkOut place).1 := by
  unfold settle
  dsimp only
  cases hfind : (overlapping seen.bookings b.id roomId checkIn checkOut).find?
    fun o => decide (o.placeNumber = place) with
  | none => exact .inl rfl
  | some x =>
    dsimp only
    split
    · rename_i q hfree
      have hin := List.mem_range'_1.mp (List.mem_of_find?_eq_some hfree)
      have hq := List.find?_some hfree
      rw [Bool.and_eq_true, decide_eq_true_eq] at hq
      refine .inr ⟨⟨x, List.mem_of_find?_eq_some hfind, of_decide_eq_true (List.find?_some hfind :)⟩,
        ⟨hin.1, by omega⟩, fun o ho heq => hq.1 (List.mem_map.mpr ⟨o, ho, heq⟩)⟩
    · exact .inl rfl

/-- What a side that is pulled leaves as it is. -/
theorem Held.shape (h : Held multiPlaceEnabled viewStart events type b start g i) (htype : type ≠ .move) :
    g.placeNumber = b.placeNumber ∧ (type = .resizeLeft → g.checkOut = b.checkOut) ∧
      (type = .resizeRight → g.checkIn = b.checkIn) := by
  rcases h.ghost with ⟨rfl, _⟩ | ⟨m, day, _, _, _, rfl, _⟩
  · exact ⟨rfl, fun _ => rfl, fun _ => rfl⟩
  · cases type with
    | move => exact absurd rfl htype
    | resizeLeft => exact ⟨rfl, fun _ => rfl, nofun⟩
    | resizeRight => exact ⟨rfl, nofun, fun _ => rfl⟩

/-- **A question that a release opens is about what was done.** -/
theorem dropped_of_release {p : PendingDrag}
    (h : (Chessboard.run multiPlaceEnabled viewStart events).release = some p) :
    ∃ start g i, Dropped multiPlaceEnabled viewStart events p start g i := by
  have hinv := heldInv_run multiPlaceEnabled viewStart events
  unfold Chessboard.release at h
  split at h
  · rename_i type b start ghost hdrag hghost
    obtain ⟨g, i, hg, hheld, hseen⟩ := hinv type b start hdrag
    obtain rfl : ghost = g := Option.some.inj (hghost.symm.trans hg)
    dsimp only at h
    split_ifs at h
    obtain rfl := Option.some.inj h
    refine ⟨start, ghost, i, hheld, hseen, ?_, fun hmove => ?_, ?_, fun o ho => ?_⟩
    · cases type with
      | move => exact ⟨rfl, rfl⟩
      | resizeLeft => exact ⟨rfl, ((hheld.shape nofun).2.1 rfl).symm⟩
      | resizeRight => exact ⟨((hheld.shape nofun).2.2 rfl).symm, rfl⟩
    · obtain rfl : type = .move := hmove
      rfl
    · cases type with
      | move =>
        rcases settle_redirect with heq | ⟨htaken, hinside, hfree⟩
        · exact .inl heq
        · exact .inr ⟨htaken, hinside, hfree⟩
      | resizeLeft => exact .inl (hheld.shape nofun).1.symm
      | resizeRight => exact .inl (hheld.shape nofun).1.symm
    · cases type with
      | move => exact (mem_overlapping.mp (settle_swap ho).2.2.2.2).1
      | resizeLeft => cases ho
      | resizeRight => cases ho
  · cases h

/-- Only letting go opens a question. -/
theorem pending_step (s : Chessboard) (e : DragEvent) {p : PendingDrag}
    (h : (s.step e).pending = some p) : s.pending = some p ∨ e = .mouseUp ∧ s.release = some p := by
  cases e with
  | mouseUp =>
    simp only [Chessboard.step] at h
    split at h
    · exact .inl h
    · have h' : s.release.or s.pending = some p := h
      rcases Option.or_eq_some_iff.mp h' with h' | ⟨_, h'⟩
      · exact .inr ⟨rfl, h'⟩
      · exact .inl h'
    · exact .inl h
  | mouseMove day =>
    simp only [Chessboard.step] at h
    split at h
    · exact .inl h
    · rename_i type b start _
      left
      rw [← h]
      cases type <;> simp only [Chessboard.carry] <;> (try split_ifs) <;> rfl
    · exact .inl h
  | answered accepted =>
    simp only [Chessboard.step] at h
    split_ifs at h <;> exact .inl h
  | cancelDrag => cases h
  | _ =>
    left
    rw [← h]
    simp only [Chessboard.step]
    try split_ifs
    all_goals rfl

/-- **The dialog asks for what the mouse did**, after any events. -/
theorem asks_run (multiPlaceEnabled : Bool) (viewStart : Day) (events : List DragEvent) :
    Sound multiPlaceEnabled viewStart events := by
  have hinv := dragInv_run multiPlaceEnabled viewStart events
  refine ⟨fun p hp => ⟨hinv.shows.pending p hp, ?_⟩, hinv.shows.form⟩
  clear hinv
  induction events using List.reverseRecOn with
  | nil => cases hp
  | append_singleton events x ih =>
    rw [Chessboard.run_concat] at hp
    rcases pending_step _ x hp with hp | ⟨rfl, hrel⟩
    · obtain ⟨k, start, g, i, hk, hdropped⟩ := ih hp
      refine ⟨k, start, g, i, getElem?_concat_of_eq_some hk, ?_⟩
      rw [(take_concat_of_eq_some hk).1]
      exact hdropped
    · obtain ⟨start, g, i, hdropped⟩ := dropped_of_release hrel
      refine ⟨events.length, start, g, i, getElem?_last, ?_⟩
      rw [take_last]
      exact hdropped

end History

end KarsHotel.TimelineDrag
