import KarsHotel.Auth.Store
import KarsHotel.Lib.Run
import KarsHotel.Reservations.Deeds

/-!
# Housekeeping

* `HousekeepingTask`, `HousekeepingStore`: the tasks of a hotel, beside its rooms and reservations;
* `insertTask`: the table refuses a row without an id, and both inserts of the service leave it out;
* `createTask`, `autoCreateOnCheckout`, `assignTask`, `completeTask`: the service;
* `Op.departure`: the check-out that a reservation operation makes; `rooms_step`: it leaves the room
  dirty, and nothing else touches a room;
* `HousekeepingStore.step`: one operation, a check-out with its automatic task;
* `CleanRooms`: every check-out has its cleaning task, and the room is not clean before it is done.
-/

namespace KarsHotel

abbrev TaskId := ℕ

inductive HkTaskStatus where
  | pending
  | inProgress
  | done
  | inspected
  deriving DecidableEq, Repr

inductive HkTaskType where
  | cleaning
  | turndown
  | inspection
  | maintenance
  | deepClean
  deriving DecidableEq, Repr

structure HousekeepingTask where
  id : TaskId
  roomId : RoomId
  type : HkTaskType
  status : HkTaskStatus
  assigneeId : Option UserId
  createdFromReservationId : Option ReservationId
  notes : Option String
  completedAt : Option Moment
  deriving DecidableEq, Repr

namespace HousekeepingTask

/-- Somebody is assigned, which starts a task that is pending. -/
def assigned (assigneeId : UserId) (t : HousekeepingTask) : HousekeepingTask :=
  { t with
    assigneeId := some assigneeId
    status := if t.status = .pending then .inProgress else t.status }

def completed (now : Moment) (t : HousekeepingTask) : HousekeepingTask :=
  { t with status := .done, completedAt := some now }

theorem assigned_id (assigneeId : UserId) (t : HousekeepingTask) :
    (t.assigned assigneeId).id = t.id := rfl

theorem completed_id (now : Moment) (t : HousekeepingTask) : (t.completed now).id = t.id := rfl

theorem assigned_done (assigneeId : UserId) (t : HousekeepingTask) :
    (t.assigned assigneeId).status = .done ↔ t.status = .done := by
  simp only [assigned]
  split_ifs with h
  · simp [h]
  · exact Iff.rfl

end HousekeepingTask

structure CreateTaskDto where
  roomId : RoomId
  type : Option HkTaskType
  assigneeId : Option UserId
  notes : Option String
  reservationId : Option ReservationId

/-- The columns of a new row, `none` where the statement leaves one out. -/
structure TaskColumns where
  id : Option TaskId
  roomId : RoomId
  type : HkTaskType
  assigneeId : Option UserId
  notes : Option String
  createdFromReservationId : Option ReservationId

/-- A check-out with the task that came of it, if any did. -/
structure Departure where
  reservationId : ReservationId
  roomId : RoomId
  taskId : Option TaskId
  deriving DecidableEq, Repr

inductive HkEvent where
  | vacated (e : Departure)
  | completed (taskId : TaskId)
  deriving DecidableEq, Repr

/-- The tables, and what happened, latest first. -/
structure HousekeepingStore where
  hotel : Hotel
  users : List UserId
  tasks : Table HousekeepingTask.id
  log : List HkEvent

/-! ## The service -/

namespace HousekeepingService

def taskNotFound : Failure := .notFound "Task not found"

/-- A foreign key names no row. -/
def noSuchRow : Failure := .internal "Foreign key constraint failed"

/-- A row without an id: the column is NOT NULL and has no default. -/
def nullId : Failure := .internal "null value in column id violates not-null constraint"

def duplicateId : Failure := .internal "duplicate key value violates housekeeping_task_pkey"

variable (s : HousekeepingStore)

def insertTask (row : TaskColumns) : Except Failure (TaskId × HousekeepingStore) :=
  match row.id with
  | none => .error nullId
  | some id =>
    if (s.tasks.find id).isSome then .error duplicateId
    else if (s.hotel.rooms.find row.roomId).isNone || row.assigneeId.any (· ∉ s.users) then
      .error noSuchRow
    else .ok (id, { s with
      tasks := s.tasks.insert ⟨id, row.roomId, row.type, .pending, row.assigneeId,
        row.createdFromReservationId, row.notes, none⟩ })

-- The statement names every column of the row but `id`.
def createTask (dto : CreateTaskDto) : Except Failure (TaskId × HousekeepingStore) :=
  insertTask s ⟨none, dto.roomId, dto.type.getD .cleaning, dto.assigneeId, dto.notes,
    dto.reservationId⟩

/-- The open cleaning tasks of a reservation. -/
def openTasks (reservationId : ReservationId) : List HousekeepingTask :=
  s.tasks.select fun t => decide (t.createdFromReservationId = some reservationId) &&
    decide (t.type = .cleaning) && decide (t.status ≠ .done)

/-- One of them, which no order decides: `first` where it is among them. -/
def existing (reservationId : ReservationId) (first : TaskId) : Option HousekeepingTask :=
  ((openTasks s reservationId).find? fun t => decide (t.id = first)).or
    (openTasks s reservationId).head?

-- Here too the INSERT leaves `id` out.
def autoCreateOnCheckout (roomId : RoomId) (reservationId : ReservationId) (first : TaskId) :
    Except Failure (TaskId × HousekeepingStore) :=
  match existing s reservationId first with
  | some t => .ok (t.id, s)
  | none => insertTask s ⟨none, roomId, .cleaning, none, none, some reservationId⟩

def assignTask (taskId : TaskId) (assigneeId : UserId) :
    Except Failure (TaskId × HousekeepingStore) :=
  match s.tasks.find taskId with
  | none => .error taskNotFound
  | some t =>
    if assigneeId ∉ s.users then .error noSuchRow
    else .ok (t.id, { s with
      tasks := s.tasks.modify taskId (.assigned assigneeId) (HousekeepingTask.assigned_id _) })

/-- The task is done, and its room is clean. -/
def completeTask (taskId : TaskId) (now : Moment) : Except Failure (TaskId × HousekeepingStore) :=
  match s.tasks.find taskId with
  | none => .error taskNotFound
  | some t => .ok (t.id, { s with
      tasks := s.tasks.modify taskId (.completed now) (HousekeepingTask.completed_id _)
      hotel := s.hotel.setRoomStatus t.roomId .clean })

end HousekeepingService

/-! ## Check-outs -/

/-- The check-out that an operation makes, and the room that it leaves. -/
def Op.departure (h : Hotel) (op : Op) : Option (ReservationId × RoomId) :=
  match (op.body (E := Unit)).exec h with
  | .error _ => none
  | .ok _ => match op with
    | .recordFact id .checkedOut _ _ => (h.reservations.find id).map fun cur => (id, cur.roomId)
    | .update id dto _ _ => (h.reservations.find id).bind fun cur =>
        if dto.fact cur = some .checkedOut then some (id, dto.finalRoom cur) else none
    | _ => none

theorem rooms_stampWrites (h : Hotel) (id : ReservationId) (roomId : RoomId) (moment : Moment)
    (fact : Fact) : (Writes.apply (stampWrites id roomId moment fact) h).rooms =
      if fact = .checkedOut then (h.setRoomStatus roomId .dirty).rooms else h.rooms := by
  cases fact with
  | checkedIn => rfl
  | checkedOut => rfl
  | noShow => rfl

theorem rooms_insertReservation (h : Hotel) (r : Reservation) :
    (h.insertReservation r).rooms = h.rooms := by
  unfold Hotel.insertReservation
  split_ifs <;> rfl

/-- **A check-out leaves its room dirty, and no other operation touches a room.** -/
theorem rooms_step (h : Hotel) (op : Op) : (step h op).rooms =
    match op.departure h with
    | none => h.rooms
    | some (_, roomId) => (h.setRoomStatus roomId .dirty).rooms := by
  cases hx : (op.body (E := Unit)).exec h with
  | error x =>
    have hnone : op.departure h = none := by simp only [Op.departure, hx]
    rw [hnone]
    cases op with
    | folios folios => rfl
    | _ => simp only [step, hx]
  | ok r =>
    obtain ⟨ws, hdeed, hws⟩ := op.exec_deed hx
    have hstep : (step h op).rooms = (Writes.apply ws h).rooms := by
      cases op with
      | folios folios =>
        cases hdeed
        rfl
      | _ => simp only [step, hx, hws]
    rw [hstep]
    cases hdeed with
    | replayed => simp only [Op.departure, hx, Writes.apply_nil]
    | created =>
      simp only [Op.departure, hx, Writes.apply_cons, Writes.apply_nil, rooms_insertReservation]
    | @updated id dto opts now s cur p roomTypeId hs hcur =>
      subst hs
      simp only [Op.departure, hx, hcur, Option.bind_some, Writes.apply_cons]
      cases hfact : dto.fact cur with
      | none => rfl
      | some fact =>
        rw [Option.map_some, Option.getD_some, rooms_stampWrites]
        by_cases hout : fact = .checkedOut
        · subst hout
          rfl
        · simp [hout, Hotel.updateReservation]
    | swapped => simp only [Op.departure, hx, Writes.apply_cons, Writes.apply_nil]; rfl
    | cancelled => simp only [Op.departure, hx, Writes.apply_cons, Writes.apply_nil]; rfl
    | @recorded id fact moment now s cur hs hcur =>
      subst hs
      rw [Writes.apply_cons, rooms_stampWrites]
      cases fact with
      | checkedOut =>
        simp only [Op.departure, hx, hcur, Option.map_some]
        rfl
      | checkedIn =>
        simp only [Op.departure, hx]
        rfl
      | noShow =>
        simp only [Op.departure, hx]
        rfl
    | folios => simp only [Op.departure, hx, Writes.apply_nil]

/-! ## One operation at a time -/

/-- An operation on a reservation or on a task; `first` is the row that the query of a check-out
meets first. -/
inductive HkOp where
  | reservation (op : Op) (first : TaskId)
  | createTask (dto : CreateTaskDto)
  | assignTask (taskId : TaskId) (assigneeId : UserId)
  | completeTask (taskId : TaskId) (now : Moment)

open HousekeepingService in
/-- The store after one operation; a check-out is followed by its automatic task, and stands where
that one fails. -/
def HousekeepingStore.step (s : HousekeepingStore) : HkOp → HousekeepingStore
  | .reservation op first =>
    let s₁ := { s with hotel := KarsHotel.step s.hotel op }
    match op.departure s.hotel with
    | none => s₁
    | some (reservationId, roomId) =>
      match autoCreateOnCheckout s₁ roomId reservationId first with
      | .error _ => { s₁ with log := .vacated ⟨reservationId, roomId, none⟩ :: s₁.log }
      | .ok (taskId, s₂) =>
        { s₂ with log := .vacated ⟨reservationId, roomId, some taskId⟩ :: s₂.log }
  | .createTask dto => match HousekeepingService.createTask s dto with
    | .error _ => s
    | .ok (_, s₁) => s₁
  | .assignTask taskId assigneeId => match HousekeepingService.assignTask s taskId assigneeId with
    | .error _ => s
    | .ok (_, s₁) => s₁
  | .completeTask taskId now => match HousekeepingService.completeTask s taskId now with
    | .error _ => s
    | .ok (taskId, s₁) => { s₁ with log := .completed taskId :: s₁.log }

def HousekeepingStore.start (hotel : Hotel) (users : List UserId)
    (tasks : Table HousekeepingTask.id) : HousekeepingStore := ⟨hotel, users, tasks, []⟩

/-! ## The rule -/

/-- The latest check-out of a room. -/
def lastDeparture (roomId : RoomId) : List HkEvent → Option Departure
  | [] => none
  | .vacated e :: log => if e.roomId = roomId then some e else lastDeparture roomId log
  | .completed _ :: log => lastDeparture roomId log

/-- The task of a check-out: a cleaning task of the reservation in the room that was left, done
exactly when it has been completed. -/
structure Departure.Task (e : Departure) (completed : Prop) (t : HousekeepingTask) : Prop where
  type : t.type = .cleaning
  reservation : t.createdFromReservationId = some e.reservationId
  room : t.roomId = e.roomId
  status : t.status = .done ↔ completed

/-- The check-out has a task, and it is done. -/
def Departure.Done (s : HousekeepingStore) (e : Departure) : Prop :=
  ∃ taskId t, e.taskId = some taskId ∧ s.tasks.find taskId = some t ∧ t.status = .done

/-- A vacated room is not clean before it is cleaned. -/
structure CleanRooms (s : HousekeepingStore) : Prop where
  /-- A room is not clean while the task of its latest check-out is not done. -/
  dirty : ∀ roomId e r, lastDeparture roomId s.log = some e → ¬e.Done s →
    s.hotel.rooms.find roomId = some r → r.status ≠ .clean
  /-- Every check-out has exactly one task, which is open until it is completed. -/
  task : ∀ newer e older, s.log = newer ++ .vacated e :: older →
    ∃! t, t ∈ s.tasks ∧ e.taskId = some t.id ∧ e.Task (.completed t.id ∈ newer) t

end KarsHotel
