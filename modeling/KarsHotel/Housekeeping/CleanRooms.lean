import KarsHotel.Housekeeping.Service

/-!
# When a vacated room is not clean before it is cleaned

* `createTask_eq`, `autoCreate_ok`: no task is ever created, so a check-out has one only where an
  open cleaning task of the reservation is in the table already;
* `SameTask`, `TasksKept`: what every operation but a completion keeps of the tasks;
* `HkOp.Orderly`: a check-out finds an open cleaning task of the reservation for the room, and a
  completed task is that of the latest check-out of its room, unless that one is done;
* `HkInv`: the invariant, one lemma for each operation;
* `orderly_of_cleanRooms`: a step that is not orderly breaks the rule;
* **`cleanRooms_run`**: a vacated room is not clean before it is cleaned in every orderly run;
* `cleanRooms_iff_stays`: from a table without tasks, in the runs without a check-out alone.
-/

namespace KarsHotel

open HousekeepingService

/-! ## What operations keep of the tasks -/

/-- The same task, perhaps assigned. -/
structure SameTask (t t' : HousekeepingTask) : Prop where
  type : t'.type = t.type
  reservation : t'.createdFromReservationId = t.createdFromReservationId
  room : t'.roomId = t.roomId
  done : t'.status = .done ↔ t.status = .done

theorem SameTask.refl (t : HousekeepingTask) : SameTask t t := ⟨rfl, rfl, rfl, Iff.rfl⟩

theorem SameTask.task {t t' : HousekeepingTask} (h : SameTask t t') {e : Departure}
    {completed : Prop} (ht : e.Task completed t) : e.Task completed t' :=
  ⟨h.type.trans ht.type, h.reservation.trans ht.reservation, h.room.trans ht.room,
    h.done.trans ht.status⟩

/-- Every task is still there. -/
def TasksKept (s s' : HousekeepingStore) : Prop :=
  ∀ k t, s.tasks.find k = some t → ∃ t', s'.tasks.find k = some t' ∧ SameTask t t'

section Tasks

variable {s : HousekeepingStore}

theorem TasksKept.of_eq {s' : HousekeepingStore} (h : s'.tasks = s.tasks) : TasksKept s s' := by
  intro k t ht
  exact ⟨t, by rwa [h], .refl t⟩

theorem tasksKept_modify {f : HousekeepingTask → HousekeepingTask} {taskId : TaskId}
    {hf : ∀ t, (f t).id = t.id} (hsame : ∀ t, SameTask t (f t)) :
    TasksKept s { s with tasks := s.tasks.modify taskId f hf } := by
  intro k t ht
  by_cases hk : k = taskId
  · subst hk
    exact ⟨f t, by rw [Table.find_modify_self, ht, Option.map_some], hsame t⟩
  · exact ⟨t, by rw [Table.find_modify_of_ne hk, ht], .refl t⟩

/-- A task that is found for a check-out is an open cleaning task of the reservation. -/
theorem existing_eq_some {reservationId : ReservationId} {first : TaskId} {t : HousekeepingTask}
    (h : existing s reservationId first = some t) : s.tasks.find t.id = some t ∧
      t.createdFromReservationId = some reservationId ∧ t.type = .cleaning ∧ t.status ≠ .done := by
  have hmem : t ∈ openTasks s reservationId := by
    unfold existing at h
    cases hfirst : (openTasks s reservationId).find? fun t => decide (t.id = first) with
    | none =>
      rw [hfirst, Option.none_or] at h
      exact List.mem_of_mem_head? (Option.mem_def.mpr h)
    | some t' =>
      rw [hfirst, Option.some_or] at h
      obtain rfl := Option.some.inj h
      exact List.mem_of_find?_eq_some hfirst
  obtain ⟨hmem, htest⟩ := Table.mem_select.mp hmem
  simp only [Bool.and_eq_true, decide_eq_true_eq] at htest
  exact ⟨Table.find_key hmem, htest.1.1, htest.1.2, htest.2⟩

/-- No request creates a task. -/
theorem createTask_eq (s : HousekeepingStore) (dto : CreateTaskDto) :
    createTask s dto = .error nullId := rfl

/-- The task of a check-out is one that was there, and nothing is written. -/
theorem autoCreate_ok {roomId : RoomId} {reservationId : ReservationId} {first taskId : TaskId}
    {s' : HousekeepingStore} :
    autoCreateOnCheckout s roomId reservationId first = .ok (taskId, s') ↔
      s' = s ∧ ∃ t, existing s reservationId first = some t ∧ t.id = taskId := by
  unfold autoCreateOnCheckout
  cases existing s reservationId first with
  | none => simp [insertTask]
  | some t => simp [and_comm, eq_comm]

end Tasks

/-! ## The latest check-out -/

theorem lastDeparture_eq_some {roomId : RoomId} {log : List HkEvent} {e : Departure}
    (h : lastDeparture roomId log = some e) :
    e.roomId = roomId ∧ ∃ newer older, log = newer ++ .vacated e :: older := by
  induction log with
  | nil => cases h
  | cons x log ih =>
    cases x with
    | vacated e' =>
      unfold lastDeparture at h
      split_ifs at h with hroom
      · obtain rfl := Option.some.inj h
        exact ⟨hroom, [], log, rfl⟩
      · obtain ⟨heq, newer, older, rfl⟩ := ih h
        exact ⟨heq, .vacated e' :: newer, older, rfl⟩
    | completed taskId =>
      obtain ⟨heq, newer, older, rfl⟩ := ih h
      exact ⟨heq, .completed taskId :: newer, older, rfl⟩

/-! ## The invariant -/

/-- A check-out finds an open cleaning task of the reservation for the room; a completed task is
that of the latest check-out of its room, unless that one is done. -/
def HkOp.Orderly (s : HousekeepingStore) : HkOp → Prop
  | .reservation op first => ∀ reservationId roomId,
      op.departure s.hotel = some (reservationId, roomId) →
        ∃ t, existing s reservationId first = some t ∧ t.roomId = roomId
  | .completeTask taskId _ => ∀ t, s.tasks.find taskId = some t →
      ∀ e, lastDeparture t.roomId s.log = some e → e.taskId = some taskId ∨ e.Done s
  | _ => True

theorem HkOp.orderly_of_none {s : HousekeepingStore} {op : Op} {first : TaskId}
    (h : op.departure s.hotel = none) : HkOp.Orderly s (.reservation op first) := by
  intro reservationId roomId hd
  rw [h] at hd
  cases hd

/-- A room is not clean while the task of its latest check-out is not done. -/
def DirtyUntilDone (s : HousekeepingStore) : Prop :=
  ∀ roomId e r, lastDeparture roomId s.log = some e → ¬e.Done s →
    s.hotel.rooms.find roomId = some r → r.status ≠ .clean

/-- Every check-out has its task. -/
def DeparturesServed (s : HousekeepingStore) : Prop :=
  ∀ newer e older, s.log = newer ++ .vacated e :: older → ∃ taskId t,
    e.taskId = some taskId ∧ s.tasks.find taskId = some t ∧ e.Task (.completed taskId ∈ newer) t

structure HkInv (s : HousekeepingStore) : Prop where
  dirty : DirtyUntilDone s
  served : DeparturesServed s

section Invariant

variable {s s' : HousekeepingStore}

theorem HkInv.cleanRooms (h : HkInv s) : CleanRooms s where
  dirty := h.dirty
  task newer e older hlog := by
    obtain ⟨taskId, t, hid, hfind, htask⟩ := h.served newer e older hlog
    obtain ⟨hmem, rfl⟩ := Table.find_eq_some.mp hfind
    refine ⟨t, ⟨hmem, hid, htask⟩, ?_⟩
    rintro t' ⟨hmem', hid', _⟩
    exact Table.eq_of_key hmem' hmem (Option.some.inj (hid'.symm.trans hid))

theorem TasksKept.done {e : Departure} (h : TasksKept s s') (hdone : e.Done s) : e.Done s' := by
  obtain ⟨taskId, t, hid, hfind, hstatus⟩ := hdone
  obtain ⟨t', hfind', hsame⟩ := h taskId t hfind
  exact ⟨taskId, t', hid, hfind', hsame.done.mpr hstatus⟩

/-- An operation that keeps the tasks, the rooms and the log. -/
theorem HkInv.of_kept (h : HkInv s) (htasks : TasksKept s s')
    (hrooms : s'.hotel.rooms = s.hotel.rooms) (hlog : s'.log = s.log) : HkInv s' := by
  refine ⟨fun roomId e r hlast hopen hroom => ?_, fun newer e older heq => ?_⟩
  · rw [hlog] at hlast
    rw [hrooms] at hroom
    exact h.dirty roomId e r hlast (fun hdone => hopen (htasks.done hdone)) hroom
  · rw [hlog] at heq
    obtain ⟨taskId, t, hid, ht, htask⟩ := h.served newer e older heq
    obtain ⟨t', hfind, hsame⟩ := htasks _ t ht
    exact ⟨taskId, t', hid, hfind, hsame.task htask⟩

/-! ## One lemma for each operation -/

theorem HkInv.assignTask {taskId id : TaskId} {assigneeId : UserId} (h : HkInv s)
    (ha : HousekeepingService.assignTask s taskId assigneeId = .ok (id, s')) : HkInv s' := by
  unfold HousekeepingService.assignTask at ha
  cases ht : s.tasks.find taskId with
  | none =>
    rw [ht] at ha
    cases ha
  | some t =>
    simp only [ht] at ha
    split_ifs at ha with huser
    cases ha
    refine h.of_kept (tasksKept_modify fun t => ?_) rfl rfl
    exact ⟨rfl, rfl, rfl, HousekeepingTask.assigned_done assigneeId t⟩

theorem HkInv.vacated {e : Departure} {t : HousekeepingTask} (h : HkInv s)
    (htasks : s'.tasks = s.tasks)
    (hrooms : s'.hotel.rooms = (s.hotel.setRoomStatus e.roomId .dirty).rooms)
    (hlog : s'.log = .vacated e :: s.log) (hid : e.taskId = some t.id)
    (ht : s.tasks.find t.id = some t) (hopen : t.status ≠ .done) (htype : t.type = .cleaning)
    (hreservation : t.createdFromReservationId = some e.reservationId)
    (hroom : t.roomId = e.roomId) : HkInv s' := by
  refine ⟨fun roomId e' r hlast hopen' hr => ?_, fun newer e' older heq => ?_⟩
  · rw [hlog, lastDeparture] at hlast
    rw [hrooms, Hotel.setRoomStatus] at hr
    split_ifs at hlast with hsame
    · subst hsame
      rw [Table.find_modify_self] at hr
      obtain ⟨r₀, _, rfl⟩ := Option.map_eq_some_iff.mp hr
      exact RoomStatus.noConfusion
    · rw [Table.find_modify_of_ne (Ne.symm hsame)] at hr
      have hkept : TasksKept s s' := .of_eq htasks
      exact h.dirty roomId e' r hlast (fun hdone => hopen' (hkept.done hdone)) hr
  · rw [hlog] at heq
    rw [htasks]
    cases newer with
    | nil =>
      obtain ⟨hhead, _⟩ := List.cons.inj heq
      obtain rfl := HkEvent.vacated.inj hhead
      exact ⟨t.id, t, hid, ht, htype, hreservation, hroom, iff_of_false hopen List.not_mem_nil⟩
    | cons x newer =>
      obtain ⟨rfl, htail⟩ := List.cons.inj heq
      obtain ⟨taskId, t', hid', ht', htask⟩ := h.served newer e' older htail
      have hmem : HkEvent.completed taskId ∈ HkEvent.vacated e :: newer ↔
          HkEvent.completed taskId ∈ newer := by simp
      refine ⟨taskId, t', hid', ht', ?_⟩
      rw [hmem]
      exact htask

theorem HkInv.reservation {op : Op} {first : TaskId} (h : HkInv s)
    (hok : HkOp.Orderly s (.reservation op first)) : HkInv (s.step (.reservation op first)) := by
  have hrooms := rooms_step s.hotel op
  cases hd : op.departure s.hotel with
  | none =>
    simp only [HousekeepingStore.step, hd]
    rw [hd] at hrooms
    exact h.of_kept (.of_eq rfl) hrooms rfl
  | some d =>
    obtain ⟨reservationId, roomId⟩ := d
    obtain ⟨t, ht, hroom⟩ := hok reservationId roomId hd
    obtain ⟨hfind, hreservation, htype, hopen⟩ := existing_eq_some ht
    have hauto : autoCreateOnCheckout { s with hotel := KarsHotel.step s.hotel op } roomId
        reservationId first = .ok (t.id, { s with hotel := KarsHotel.step s.hotel op }) :=
      autoCreate_ok.mpr ⟨rfl, t, ht, rfl⟩
    simp only [HousekeepingStore.step, hd, hauto]
    rw [hd] at hrooms
    exact h.vacated (e := ⟨reservationId, roomId, some t.id⟩) rfl hrooms rfl rfl hfind hopen htype
      hreservation hroom

theorem HkInv.completeTask {taskId : TaskId} {now : Moment} (h : HkInv s)
    (hok : HkOp.Orderly s (.completeTask taskId now)) :
    HkInv (s.step (.completeTask taskId now)) := by
  cases ht : s.tasks.find taskId with
  | none =>
    simp only [HousekeepingStore.step, HousekeepingService.completeTask, ht]
    exact h
  | some t =>
    have hid : t.id = taskId := (Table.find_eq_some.mp ht).2
    simp only [HousekeepingStore.step, HousekeepingService.completeTask, ht, hid]
    refine ⟨fun roomId e r hlast hopen hr => ?_, fun newer e older heq => ?_⟩
    · -- what was done is done, and the completed task is done now
      have hother : e.taskId ≠ some taskId := fun heq =>
        hopen ⟨taskId, t.completed now, heq, by rw [Table.find_modify_self, ht]; rfl, rfl⟩
      have hnot : ¬e.Done s := by
        rintro ⟨k, t', hk, hfind, hstatus⟩
        have hne : k ≠ taskId := fun heq => hother (heq ▸ hk)
        exact hopen ⟨k, t', hk, by rw [Table.find_modify_of_ne hne, hfind], hstatus⟩
      have hne : roomId ≠ t.roomId := by
        rintro rfl
        exact (hok t ht e hlast).elim hother hnot
      rw [Hotel.setRoomStatus, Table.find_modify_of_ne hne] at hr
      exact h.dirty roomId e r hlast hnot hr
    · cases newer with
      | nil => cases heq
      | cons x newer =>
        obtain ⟨rfl, htail⟩ := List.cons.inj heq
        obtain ⟨k, t', hk, hfind, htask⟩ := h.served newer e older htail
        by_cases heq : k = taskId
        · subst heq
          refine ⟨k, t'.completed now, hk, ?_, htask.type, htask.reservation, htask.room, ?_⟩
          · rw [Table.find_modify_self, hfind, Option.map_some]
          · exact iff_of_true rfl List.mem_cons_self
        · have hmem : HkEvent.completed k ∈ HkEvent.completed taskId :: newer ↔
              HkEvent.completed k ∈ newer := by simp [heq]
          refine ⟨k, t', hk, by rw [Table.find_modify_of_ne heq, hfind], ?_⟩
          rw [hmem]
          exact htask

theorem HkInv.step {op : HkOp} (h : HkInv s) (hok : op.Orderly s) : HkInv (s.step op) := by
  cases op with
  | reservation op first => exact h.reservation hok
  | createTask dto =>
    simp only [HousekeepingStore.step, createTask_eq]
    exact h
  | assignTask taskId assigneeId =>
    cases ha : HousekeepingService.assignTask s taskId assigneeId with
    | error x =>
      simp only [HousekeepingStore.step, ha]
      exact h
    | ok a =>
      simp only [HousekeepingStore.step, ha]
      exact h.assignTask ha
  | completeTask taskId now => exact h.completeTask hok

end Invariant

theorem hkInv_start (hotel : Hotel) (users : List UserId) (tasks : Table HousekeepingTask.id) :
    HkInv (.start hotel users tasks) := by
  refine ⟨fun roomId e r hlast => ?_, fun newer e older heq => ?_⟩
  · cases hlast
  · exact absurd heq (by simp [HousekeepingStore.start])

/-! ## The condition is exact -/

/-- The foreign key of the tasks. -/
def RoomsThere (s : HousekeepingStore) : Prop :=
  ∀ k t, s.tasks.find k = some t → ∃ r, s.hotel.rooms.find t.roomId = some r

/-- **A step that is not orderly breaks the rule.** -/
theorem orderly_of_cleanRooms {s : HousekeepingStore} {op : HkOp} (hrooms : RoomsThere s)
    (h : CleanRooms (s.step op)) : op.Orderly s := by
  cases op with
  | reservation op first =>
    intro reservationId roomId hd
    cases hauto : autoCreateOnCheckout { s with hotel := KarsHotel.step s.hotel op } roomId
        reservationId first with
    | error x =>
      simp only [HousekeepingStore.step, hd, hauto] at h
      obtain ⟨t, ⟨_, hid, _⟩, _⟩ := h.task [] _ s.log rfl
      cases hid
    | ok a =>
      obtain ⟨taskId, s'⟩ := a
      obtain ⟨rfl, t, ht, rfl⟩ := autoCreate_ok.mp hauto
      simp only [HousekeepingStore.step, hd, hauto] at h
      obtain ⟨t', ⟨hmem', hid', htask⟩, _⟩ := h.task [] _ s.log rfl
      have hsame : t' = t := Table.eq_of_key hmem'
        (Table.find_eq_some.mp (existing_eq_some ht).1).1 (Option.some.inj hid').symm
      exact ⟨t, ht, hsame ▸ htask.room⟩
  | createTask dto => trivial
  | assignTask taskId assigneeId => trivial
  | completeTask taskId now =>
    intro t ht e hlast
    by_cases hother : e.taskId = some taskId
    · exact .inl hother
    refine .inr (by_contra fun hopen => ?_)
    obtain ⟨r, hr⟩ := hrooms taskId t ht
    simp only [HousekeepingStore.step, HousekeepingService.completeTask, ht] at h
    refine h.dirty t.roomId e { r with status := .clean } hlast ?_ ?_ rfl
    · rintro ⟨k, t', hk, hfind, hstatus⟩
      have hne : k ≠ taskId := fun heq => hother (heq ▸ hk)
      rw [Table.find_modify_of_ne hne] at hfind
      exact hopen ⟨k, t', hk, hfind, hstatus⟩
    · rw [Hotel.setRoomStatus, Table.find_modify_self, hr, Option.map_some]

/-! ## Every run -/

/-- **A vacated room is not clean before it is cleaned** in every orderly run. -/
theorem cleanRooms_run (hotel : Hotel) (users : List UserId) (tasks : Table HousekeepingTask.id)
    (ops : List HkOp)
    (hok : StepsMeet HousekeepingStore.step HkOp.Orderly (.start hotel users tasks) ops) :
    CleanRooms (ops.foldl HousekeepingStore.step (.start hotel users tasks)) := by
  have hinv : HkInv (ops.foldl HousekeepingStore.step (.start hotel users tasks)) :=
    foldl_keeps (fun _ _ h hop => h.step hop) (hkInv_start hotel users tasks) hok
  exact hinv.cleanRooms

/-- A night in the only room: booked, arrived and left. -/
def oneStay : List HkOp :=
  [.reservation (.create .oneNight .empty none 1) 0,
    .reservation (.recordFact 1 .checkedIn none 0) 0,
    .reservation (.recordFact 1 .checkedOut none 0) 0]

/-- The only room and its repair. -/
def repairTask : HousekeepingTask := ⟨6, 1, .maintenance, .pending, none, none, none, none⟩

/-- The cleaning of the only room after the stay, put into the table by hand. -/
def cleaningTask : HousekeepingTask := ⟨7, 1, .cleaning, .pending, none, some 1, none, none⟩

def handWritten : Table HousekeepingTask.id := (Table.empty.insert repairTask).insert cleaningTask

/-- The room is left; its cleaning is assigned and completed, and after it the repair. -/
def cleanedStay : List HkOp :=
  oneStay ++ [.assignTask 7 9, .completeTask 7 0, .completeTask 6 1]

theorem cleanRooms_run_cleanedStay : CleanRooms
    (cleanedStay.foldl HousekeepingStore.step (.start (.oneRoom false) [9] handWritten)) := by
  apply cleanRooms_run
  refine ⟨?_, ?_, ?_, trivial, ?_, ?_, trivial⟩
  · exact HkOp.orderly_of_none (by decide +kernel)
  · exact HkOp.orderly_of_none (by decide +kernel)
  · intro reservationId roomId hd
    have hdeparture : (Op.recordFact 1 .checkedOut none 0).departure ((oneStay.take 2).foldl
        HousekeepingStore.step (.start (.oneRoom false) [9] handWritten)).hotel = some (1, 1) := by
      decide +kernel
    obtain ⟨rfl, rfl⟩ := Prod.mk.inj (Option.some.inj (hdeparture.symm.trans hd))
    exact ⟨cleaningTask, by decide +kernel, rfl⟩
  · intro t ht e hlast
    have hfind : ((cleanedStay.take 4).foldl HousekeepingStore.step
        (.start (.oneRoom false) [9] handWritten)).tasks.find 7 =
          some (cleaningTask.assigned 9) := by decide +kernel
    obtain rfl := Option.some.inj (hfind.symm.trans ht)
    have hdeparture : lastDeparture 1 ((cleanedStay.take 4).foldl HousekeepingStore.step
        (.start (.oneRoom false) [9] handWritten)).log = some ⟨1, 1, some 7⟩ := by decide +kernel
    obtain rfl := Option.some.inj (hdeparture.symm.trans hlast)
    exact .inl rfl
  · intro t ht e hlast
    have hfind : ((cleanedStay.take 5).foldl HousekeepingStore.step
        (.start (.oneRoom false) [9] handWritten)).tasks.find 6 = some repairTask := by
      decide +kernel
    obtain rfl := Option.some.inj (hfind.symm.trans ht)
    have hdeparture : lastDeparture 1 ((cleanedStay.take 5).foldl HousekeepingStore.step
        (.start (.oneRoom false) [9] handWritten)).log = some ⟨1, 1, some 7⟩ := by decide +kernel
    obtain rfl := Option.some.inj (hdeparture.symm.trans hlast)
    exact .inr ⟨7, (cleaningTask.assigned 9).completed 0, rfl, by decide +kernel, rfl⟩

/-- **A check-out leaves no task.** -/
theorem not_cleanRooms_oneStay : ¬∀ (hotel : Hotel) (users : List UserId)
    (tasks : Table HousekeepingTask.id) (ops : List HkOp),
    CleanRooms (ops.foldl HousekeepingStore.step (.start hotel users tasks)) := by
  intro h
  have hclean := h (.oneRoom false) [] .empty oneStay
  have hlog : (oneStay.foldl HousekeepingStore.step (.start (.oneRoom false) [] .empty)).log =
      [.vacated ⟨1, 1, none⟩] := by decide +kernel
  obtain ⟨t, ⟨_, hid, _⟩, _⟩ := hclean.task [] ⟨1, 1, none⟩ [] hlog
  cases hid

/-! ## Without tasks at first -/

/-- No task, and no check-out with one. -/
structure NoTasks (s : HousekeepingStore) : Prop where
  tasks : ∀ t, t ∉ s.tasks
  log : ∀ e, .vacated e ∈ s.log → e.taskId = none

theorem NoTasks.find {s : HousekeepingStore} (h : NoTasks s) (taskId : TaskId) :
    s.tasks.find taskId = none :=
  Table.find_eq_none.mpr fun t ht => absurd ht (h.tasks t)

theorem NoTasks.step {s : HousekeepingStore} {op : HkOp} (h : NoTasks s) :
    NoTasks (s.step op) := by
  cases op with
  | reservation op first =>
    cases hd : op.departure s.hotel with
    | none =>
      simp only [HousekeepingStore.step, hd]
      exact ⟨h.tasks, h.log⟩
    | some d =>
      obtain ⟨reservationId, roomId⟩ := d
      cases hauto : autoCreateOnCheckout { s with hotel := KarsHotel.step s.hotel op } roomId
          reservationId first with
      | error x =>
        simp only [HousekeepingStore.step, hd, hauto]
        refine ⟨h.tasks, fun e he => ?_⟩
        cases List.mem_cons.mp he with
        | inl heq => rw [HkEvent.vacated.inj heq]
        | inr hmem => exact h.log e hmem
      | ok a =>
        obtain ⟨_, t, ht, _⟩ := autoCreate_ok.mp hauto
        exact absurd (Table.find_eq_some.mp (existing_eq_some ht).1).1 (h.tasks t)
  | createTask dto =>
    simp only [HousekeepingStore.step, createTask_eq]
    exact h
  | assignTask taskId assigneeId =>
    simp only [HousekeepingStore.step, HousekeepingService.assignTask, h.find]
    exact h
  | completeTask taskId now =>
    simp only [HousekeepingStore.step, HousekeepingService.completeTask, h.find]
    exact h

/-- **Without tasks at first the rule holds exactly while nobody has checked out.** -/
theorem cleanRooms_iff_stays (hotel : Hotel) (users : List UserId) (ops : List HkOp) :
    CleanRooms (ops.foldl HousekeepingStore.step (.start hotel users .empty)) ↔
      ∀ e, .vacated e ∉ (ops.foldl HousekeepingStore.step (.start hotel users .empty)).log := by
  have hnone : NoTasks (ops.foldl HousekeepingStore.step (.start hotel users .empty)) :=
    foldl_keeps_all (fun _ _ h => NoTasks.step h) ops
      ⟨Table.not_mem_empty, fun e he => absurd he List.not_mem_nil⟩
  constructor
  · intro h e he
    obtain ⟨newer, older, heq⟩ := List.append_of_mem he
    obtain ⟨t, ⟨_, hid, _⟩, _⟩ := h.task newer e older heq
    cases (hnone.log e he).symm.trans hid
  · intro h
    refine ⟨fun roomId e r hlast => ?_, fun newer e older heq => ?_⟩
    · obtain ⟨_, newer, older, heq⟩ := lastDeparture_eq_some hlast
      exact absurd (heq ▸ List.mem_append_cons_self) (h e)
    · exact absurd (heq ▸ List.mem_append_cons_self) (h e)

end KarsHotel
