import KarsHotel.Rooms.Service

/-!
# Archiving many rooms, and one after the other

* `archiveEach`: the single calls in turn, with their answers; `Fund.outcome`: what a call answers;
* `Fund.settle`: what both paths make of the rooms;
* **`archiveEach_answers`**, **`archiveMany_rooms`**: the two paths;
* **`archiveMany_iff`**: they agree exactly if no room is named in another spelling of its id.
-/

namespace KarsHotel

namespace RoomsService

/-- The single calls in turn, with their answers. -/
def archiveEach (actor : Option UserId) (clock : IdText → Moment) :
    Fund → List IdText → List (IdText × Except Failure Moment) × Fund
  | f, [] => ([], f)
  | f, t :: ts => match archive actor (clock t) f t with
    | .ok (archivedAt, f') =>
      let rest := archiveEach actor clock f' ts
      ((t, .ok archivedAt) :: rest.1, rest.2)
    | .error x =>
      let rest := archiveEach actor clock f ts
      ((t, .error x) :: rest.1, rest.2)

/-- What a call comes to. -/
inductive Outcome where
  | archived
  | blocked
  | notFound
  deriving DecidableEq, Repr

def outcomeOf : Except Failure Moment → Outcome
  | .ok _ => .archived
  | .error x => if x.status = some 404 then .notFound else .blocked

end RoomsService

open RoomsService

namespace Fund

/-- What a call comes to, from the state before it. -/
def outcome (f : Fund) (t : IdText) : Outcome :=
  match f.rooms.find t.id with
  | none => .notFound
  | some room =>
    if room.archivedAt.isSome ∨ (f.liveReservations t.id).length = 0 then .archived else .blocked

/-- A room that is named and may be archived, is. -/
def mark (f : Fund) (actor : Option UserId) (now : Moment) (named : RoomId → Bool) (r : FundRoom) :
    FundRoom :=
  if named r.id = true ∧ r.archivedAt = none ∧ (f.liveReservations r.id).length = 0 then
    r.archived now actor
  else r

theorem mark_key (f : Fund) (actor : Option UserId) (now : Moment) (named : RoomId → Bool)
    (r : FundRoom) : (f.mark actor now named r).key = r.key := by
  unfold mark
  split <;> rfl

theorem mark_of_not {f : Fund} {actor : Option UserId} {now : Moment} {named : RoomId → Bool}
    {r : FundRoom} (h : ¬(r.archivedAt = none ∧ (f.liveReservations r.id).length = 0)) :
    f.mark actor now named r = r := if_neg fun hmark => h hmark.2

/-- What archiving makes of the rooms. -/
def settle (f : Fund) (actor : Option UserId) (now : Moment) (named : RoomId → Bool) : Fund :=
  { f with rooms := f.rooms.map (f.mark actor now named) (f.mark_key actor now named) }

/-- The rooms without the moments of their archive marks. -/
def untimed (f : Fund) : List FundRoom :=
  f.rooms.rows.map fun r => { r with archivedAt := r.archivedAt.map fun _ => 0 }

end Fund

section Calls

variable {actor : Option UserId} {now : Moment} {clock : IdText → Moment} {f : Fund}
  {t : IdText} {ids : List IdText} {named named' : RoomId → Bool}

/-! ## One call -/

theorem find_settle (id : RoomId) :
    (f.settle actor now named).rooms.find id = (f.rooms.find id).map (f.mark actor now named) :=
  @Table.find_map _ _ _ _ f.rooms (f.mark actor now named) (f.mark_key actor now named) id

/-- Where no room that is named may be archived, nothing happens. -/
theorem settle_eq_self (h : ∀ r ∈ f.rooms, named r.id = true → r.archivedAt = none →
    0 < (f.liveReservations r.id).length) : f.settle actor now named = f := by
  have hrows : f.rooms.rows.map (f.mark actor now named) = f.rooms.rows := by
    refine List.map_congr_left (fun r hr => ?_) |>.trans (List.map_id _)
    rw [Fund.mark, if_neg]
    · rfl
    · rintro ⟨hnamed, harchived, hlive⟩
      have := h r hr hnamed harchived
      omega
  have hrooms : f.rooms.map (f.mark actor now named) (f.mark_key actor now named) = f.rooms :=
    Table.ext hrows
  rw [Fund.settle, hrooms]

/-- No outcome depends on what was archived before. -/
theorem outcome_settle (t : IdText) : (f.settle actor now named).outcome t = f.outcome t := by
  have hlive : (f.settle actor now named).liveReservations t.id = f.liveReservations t.id := rfl
  unfold Fund.outcome
  rw [find_settle, hlive]
  cases hfind : f.rooms.find t.id with
  | none => rfl
  | some room =>
    have hid : room.id = t.id := (Table.find_eq_some.mp hfind).2
    rw [Option.map_some]
    dsimp only
    by_cases hmark : named room.id = true ∧ room.archivedAt = none ∧
        (f.liveReservations room.id).length = 0
    · have hnone : (f.liveReservations t.id).length = 0 := hid ▸ hmark.2.2
      rw [if_pos (Or.inr hnone), if_pos (Or.inr hnone)]
    · rw [Fund.mark, if_neg hmark]

variable (actor now f t) in
theorem archive_outcome :
    outcomeOf ((archive actor now f t).map Prod.fst) = f.outcome t := by
  unfold archive Fund.outcome
  cases f.rooms.find t.id with
  | none => rfl
  | some room =>
    dsimp only
    cases harchived : room.archivedAt with
    | some archivedAt => simp [Except.map, outcomeOf]
    | none =>
      dsimp only
      by_cases hlive : (f.liveReservations t.id).length > 0
      · have hno : ¬((none : Option Moment).isSome = true ∨
            (f.liveReservations t.id).length = 0) := by
          rintro (h | h)
          · cases h
          · omega
        rw [if_pos hlive, if_neg hno]
        rfl
      · rw [if_neg hlive, if_pos (Or.inr (by omega))]
        rfl

/-- **What one call makes of the rooms.** -/
theorem archive_settle {p : Moment × Fund} (h : archive actor now f t = .ok p) :
    p.2 = f.settle actor now fun id => decide (id = t.id) := by
  unfold archive at h
  cases hfind : f.rooms.find t.id with
  | none =>
    rw [hfind] at h
    cases h
  | some room =>
    rw [hfind] at h
    dsimp only at h
    obtain ⟨hroom, hid⟩ := Table.find_eq_some.mp hfind
    have honly : ∀ r ∈ f.rooms, r.id = t.id → r = room := fun r hr hrid =>
      Table.eq_of_key hr hroom (hrid.trans hid.symm)
    cases harchived : room.archivedAt with
    | some archivedAt =>
      rw [harchived] at h
      cases h
      refine (settle_eq_self fun r hr hnamed hnone => ?_).symm
      rw [honly r hr (of_decide_eq_true hnamed), harchived] at hnone
      cases hnone
    | none =>
      rw [harchived] at h
      dsimp only at h
      split_ifs at h with hlive
      cases h
      have hrows : ∀ r ∈ f.rooms.rows, (if r.key = t.id then r.archived now actor else r) =
          f.mark actor now (fun id => decide (id = t.id)) r := by
        intro r hr
        unfold Fund.mark
        by_cases hrid : r.id = t.id
        · have hmark : decide (r.id = t.id) = true ∧ r.archivedAt = none ∧
              (f.liveReservations r.id).length = 0 := by
            refine ⟨decide_eq_true hrid, by rw [honly r hr hrid, harchived], ?_⟩
            rw [hrid]
            omega
          rw [if_pos hmark]
          exact if_pos hrid
        · have hmark : ¬(decide (r.id = t.id) = true ∧ r.archivedAt = none ∧
              (f.liveReservations r.id).length = 0) := fun h => hrid (of_decide_eq_true h.1)
          rw [if_neg hmark]
          exact if_neg hrid
      have hrooms : f.rooms.modify t.id (.archived now actor) (fun _ => rfl) =
          f.rooms.map (f.mark actor now fun id => decide (id = t.id))
            (f.mark_key actor now fun id => decide (id = t.id)) :=
        Table.ext (List.map_congr_left hrows)
      rw [Fund.settle, hrooms]

theorem settle_of_error {x : Failure} (h : archive actor now f t = .error x) :
    f.settle actor now (fun id => decide (id = t.id)) = f := by
  refine settle_eq_self fun r hr hnamed hnone => ?_
  have hid : r.id = t.id := of_decide_eq_true hnamed
  have hfind : f.rooms.find t.id = some r := Table.find_eq_some.mpr ⟨hr, hid⟩
  unfold archive at h
  rw [hfind] at h
  dsimp only at h
  rw [hnone] at h
  dsimp only at h
  split_ifs at h with hlive
  rw [hid]
  exact hlive

/-! ## The calls in turn -/

/-- One after the other: what was archived is not archived again. -/
theorem untimed_settle_settle (now now' : Moment) :
    ((f.settle actor now named).settle actor now' named').untimed =
      (f.settle actor 0 fun id => named id || named' id).untimed := by
  show ((f.rooms.rows.map _).map _).map _ = (f.rooms.rows.map _).map _
  rw [List.map_map, List.map_map, List.map_map]
  refine List.map_congr_left fun r _ => ?_
  have hlater : (f.settle actor now named).mark actor now' named' = f.mark actor now' named' := rfl
  rw [Function.comp_apply, Function.comp_apply, Function.comp_apply, hlater]
  by_cases hopen : r.archivedAt = none ∧ (f.liveReservations r.id).length = 0
  · unfold Fund.mark
    cases hnamed : named r.id with
    | true => simp [hopen, hnamed, FundRoom.archived]
    | false => cases hnamed' : named' r.id <;> simp [hopen, hnamed, hnamed', FundRoom.archived]
  · rw [Fund.mark_of_not hopen, Fund.mark_of_not hopen, Fund.mark_of_not hopen]

/-- The moment of the archive is no matter. -/
theorem untimed_settle (now : Moment) :
    (f.settle actor now named).untimed = (f.settle actor 0 named).untimed := by
  have hnone : f.settle actor 0 (fun _ => false) = f := settle_eq_self fun r _ hnamed => by
    cases hnamed
  have htwice : ((f.settle actor 0 fun _ => false).settle actor now named).untimed =
      (f.settle actor 0 named).untimed := untimed_settle_settle 0 now
  rwa [hnone] at htwice

/-- **The rooms after the calls in turn.** -/
theorem archiveEach_rooms : (archiveEach actor clock f ids).2.untimed =
    (f.settle actor 0 fun id => decide (id ∈ ids.map (·.id))).untimed := by
  induction ids generalizing f with
  | nil =>
    have hself : f.settle actor 0 (fun id => decide (id ∈ ([] : List IdText).map (·.id))) = f :=
      settle_eq_self fun r _ hnamed => by simp at hnamed
    rw [hself]
    rfl
  | cons t ts ih =>
    have hnamed : (fun id => decide (id ∈ (t :: ts).map (·.id))) =
        fun id => decide (id = t.id) || decide (id ∈ ts.map (·.id)) := by
      funext id
      simp [Bool.decide_or]
    rw [hnamed]
    unfold archiveEach
    cases hcall : archive actor (clock t) f t with
    | ok p =>
      dsimp only
      rw [ih, archive_settle hcall, untimed_settle_settle]
    | error x =>
      dsimp only
      rw [ih, ← untimed_settle_settle (clock t) 0, settle_of_error hcall]

variable (actor clock f ids) in
/-- **The answers of the calls in turn.** -/
theorem archiveEach_answers :
    (archiveEach actor clock f ids).1.map (fun a => (a.1, outcomeOf a.2)) =
      ids.map fun t => (t, f.outcome t) := by
  induction ids generalizing f with
  | nil => rfl
  | cons t ts ih =>
    have hanswer := archive_outcome actor (clock t) f t
    unfold archiveEach
    cases hcall : archive actor (clock t) f t with
    | ok p =>
      rw [hcall] at hanswer
      have houtcome : p.2.outcome = f.outcome := by
        funext t'
        rw [archive_settle hcall, outcome_settle]
      dsimp only
      rw [List.map_cons, List.map_cons, ih, houtcome, ← hanswer]
      rfl
    | error x =>
      rw [hcall] at hanswer
      dsimp only
      rw [List.map_cons, List.map_cons, ih, ← hanswer]
      rfl

theorem filter_archiveEach (o : Outcome) :
    ((archiveEach actor clock f ids).1.filter fun a => decide (outcomeOf a.2 = o)).map Prod.fst =
      ids.filter fun t => decide (f.outcome t = o) := by
  have hpairs := congrArg (fun l => (l.filter fun a => decide (a.2 = o)).map Prod.fst)
    (archiveEach_answers actor clock f ids)
  rw [List.filter_map, List.map_map, List.filter_map, List.map_map] at hpairs
  simpa [Function.comp_def] using hpairs

/-! ## All at once -/

/-- **What the groups count.** -/
theorem get_liveByRoom {rooms : List FundRoom} {r : FundRoom} (hr : r ∈ rooms) :
    EntryMap.get (liveByRoom f rooms) r.id =
      if (f.liveReservations r.id).length = 0 then none
      else some (f.liveReservations r.id).length := by
  have hcount : ((f.reservations.select fun x => decide (x.roomId ∈ rooms.map (·.id) ∧
      x.status ∈ LIVE_RESERVATION_STATUSES)).map (·.roomId)).count r.id =
        (f.liveReservations r.id).length := by
    rw [List.count, List.countP_map, Table.select, List.countP_filter, Fund.liveReservations,
      Table.select, ← List.countP_eq_length_filter]
    refine List.countP_congr fun x _ => ?_
    have hmem : r.id ∈ rooms.map (·.id) := List.mem_map_of_mem hr
    by_cases hroom : x.roomId = r.id
    · simp [hroom, hmem]
    · simp [hroom]
  unfold liveByRoom
  dsimp only
  rw [EntryMap.get_ofEntries_map (List.nodup_dedup _), hcount]
  by_cases hlive : (f.liveReservations r.id).length = 0
  · rw [if_pos hlive, if_neg]
    rw [List.mem_dedup, ← List.count_pos_iff, hcount]
    omega
  · rw [if_neg hlive, if_pos]
    rw [List.mem_dedup, ← List.count_pos_iff, hcount]
    omega

def foundRooms (f : Fund) (ids : List IdText) : List FundRoom :=
  f.rooms.select fun r => decide (r.id ∈ (distinct ids).map (·.id))

theorem mem_foundRooms {r : FundRoom} :
    r ∈ foundRooms f ids ↔ r ∈ f.rooms ∧ ∃ t ∈ ids, t.id = r.id := by
  simp [foundRooms, Table.mem_select, mem_distinct]

theorem outcome_of_find {room : FundRoom} (hfind : f.rooms.find t.id = some room) :
    f.outcome t = if room.archivedAt.isSome ∨ (f.liveReservations room.id).length = 0 then .archived
      else .blocked := by
  have hid : room.id = t.id := (Table.find_eq_some.mp hfind).2
  rw [hid, Fund.outcome, hfind]

theorem outcome_ofId {r : FundRoom} (hr : r ∈ f.rooms) : f.outcome (.ofId r.id) =
    if r.archivedAt.isSome ∨ (f.liveReservations r.id).length = 0 then .archived else .blocked :=
  outcome_of_find (Table.find_key hr)

theorem outcome_eq_notFound : f.outcome t = .notFound ↔ f.rooms.find t.id = none := by
  cases hfind : f.rooms.find t.id with
  | none => simp [Fund.outcome, hfind]
  | some room =>
    rw [outcome_of_find hfind]
    split_ifs <;> simp

theorem isNone_liveByRoom {r : FundRoom} (hr : r ∈ foundRooms f ids) :
    (EntryMap.get (liveByRoom f (foundRooms f ids)) r.id).isNone =
      decide ((f.liveReservations r.id).length = 0) := by
  rw [get_liveByRoom hr]
  by_cases hlive : (f.liveReservations r.id).length = 0
  · rw [if_pos hlive, decide_eq_true hlive]
    rfl
  · rw [if_neg hlive, decide_eq_false hlive]
    rfl

/-- **What archiving all at once makes of the rooms.** -/
theorem archiveMany_rooms : (archiveMany actor now f ids).2 =
    f.settle actor now fun id => decide (id ∈ ids.map (·.id)) := by
  have hfresh : ∀ r ∈ f.rooms, (r.id ∈ ((foundRooms f ids).filter fun r => r.archivedAt.isNone &&
      (EntryMap.get (liveByRoom f (foundRooms f ids)) r.id).isNone).map (·.id)) ↔
        (r.id ∈ ids.map (·.id) ∧ r.archivedAt = none ∧ (f.liveReservations r.id).length = 0) := by
    intro r hr
    simp only [List.mem_map, List.mem_filter, Bool.and_eq_true, Option.isNone_iff_eq_none]
    constructor
    · rintro ⟨r', ⟨hr', hnone, hlive⟩, hid⟩
      obtain ⟨hmem, t, ht, htid⟩ := mem_foundRooms.mp hr'
      obtain rfl : r' = r := Table.eq_of_key hmem hr hid
      have hcount := isNone_liveByRoom hr'
      rw [hlive] at hcount
      exact ⟨⟨t, ht, htid⟩, hnone, of_decide_eq_true hcount.symm⟩
    · rintro ⟨⟨t, ht, htid⟩, hnone, hlive⟩
      have hfound : r ∈ foundRooms f ids := mem_foundRooms.mpr ⟨hr, t, ht, htid⟩
      have hcount := isNone_liveByRoom hfound
      rw [decide_eq_true hlive] at hcount
      exact ⟨r, ⟨hfound, hnone, Option.isNone_iff_eq_none.mp hcount⟩, rfl⟩
  unfold archiveMany
  dsimp only
  split_ifs with hempty
  · -- No room is fresh: none is written.
    refine (settle_eq_self fun r hr hnamed hnone => ?_).symm
    by_contra hlive
    have hin := (hfresh r hr).mpr ⟨of_decide_eq_true hnamed, hnone, by omega⟩
    have hnil : ((foundRooms f ids).filter fun r => r.archivedAt.isNone &&
        (EntryMap.get (liveByRoom f (foundRooms f ids)) r.id).isNone) = [] :=
      List.isEmpty_iff.mp hempty
    rw [hnil] at hin
    cases hin
  · have hrows : f.rooms.updateMany (fun r => decide (r.id ∈ ((foundRooms f ids).filter fun r =>
        r.archivedAt.isNone && (EntryMap.get (liveByRoom f (foundRooms f ids)) r.id).isNone).map
          (·.id)) && r.archivedAt.isNone) (.archived now actor) (fun _ => rfl) =
        f.rooms.map (f.mark actor now fun id => decide (id ∈ ids.map (·.id)))
          (f.mark_key actor now fun id => decide (id ∈ ids.map (·.id))) := by
      refine Table.ext (List.map_congr_left fun r hr => ?_)
      unfold Fund.mark
      by_cases hmark : r.id ∈ ids.map (·.id) ∧ r.archivedAt = none ∧
          (f.liveReservations r.id).length = 0
      · rw [if_pos, if_pos ⟨decide_eq_true hmark.1, hmark.2⟩]
        rw [Bool.and_eq_true, decide_eq_true_eq, Option.isNone_iff_eq_none]
        exact ⟨(hfresh r hr).mpr hmark, hmark.2.1⟩
      · rw [if_neg, if_neg]
        · rintro ⟨hnamed, hrest⟩
          exact hmark ⟨of_decide_eq_true hnamed, hrest⟩
        · rw [Bool.and_eq_true, decide_eq_true_eq]
          exact fun h => hmark ((hfresh r hr).mp h.1)
    show { f with rooms := _ } = _
    rw [Fund.settle, ← hrows]
    rfl

/-! ## The answers -/

/-- Every id sent that names a room spells it as the database does. -/
def SpelledAsStored (f : Fund) (ids : List IdText) : Prop :=
  ∀ t ∈ ids, (f.rooms.find t.id).isSome = true → t = .ofId t.id

theorem found_perm (hspelled : SpelledAsStored f ids) {o : Outcome} (ho : o ≠ .notFound) :
    (((foundRooms f ids).filter fun r => decide (f.outcome (.ofId r.id) = o)).map
      fun r => IdText.ofId r.id).Perm
      ((distinct ids).filter fun t => decide (f.outcome t = o)) := by
  have hnodup : (((foundRooms f ids).filter fun r => decide (f.outcome (.ofId r.id) = o)).map
      fun r => IdText.ofId r.id).Nodup := by
    have hkeys : ((foundRooms f ids).map (·.id)).Nodup :=
      f.rooms.nodup.sublist (List.filter_sublist.map _)
    have hids : (((foundRooms f ids).filter fun r =>
        decide (f.outcome (.ofId r.id) = o)).map (·.id)).Nodup :=
      hkeys.sublist (List.filter_sublist.map _)
    have hinj : Function.Injective IdText.ofId := fun a b h => congrArg IdText.id h
    have htexts := hids.map hinj
    rwa [List.map_map] at htexts
  rw [List.perm_ext_iff_of_nodup hnodup (nodup_distinct.filter _)]
  intro t
  simp only [List.mem_map, List.mem_filter, decide_eq_true_eq, mem_distinct]
  constructor
  · rintro ⟨r, ⟨hr, hout⟩, rfl⟩
    obtain ⟨hmem, t, ht, htid⟩ := mem_foundRooms.mp hr
    have hsome : (f.rooms.find t.id).isSome = true := by
      have hkey : f.rooms.find r.id = some r := Table.find_key hmem
      rw [htid, hkey]
      rfl
    have heq : t = .ofId r.id := htid ▸ hspelled t ht hsome
    exact ⟨heq ▸ ht, hout⟩
  · rintro ⟨ht, hout⟩
    cases hfind : f.rooms.find t.id with
    | none => exact absurd (hout.symm.trans (outcome_eq_notFound.mpr hfind)) ho
    | some room =>
      obtain ⟨hroom, hid⟩ := Table.find_eq_some.mp hfind
      have heq : t = .ofId t.id := hspelled t ht (by rw [hfind]; rfl)
      have hstored : IdText.ofId room.id = t := by
        rw [heq]
        exact congrArg IdText.ofId hid
      exact ⟨room, ⟨mem_foundRooms.mpr ⟨hroom, t, ht, hid.symm⟩, hstored ▸ hout⟩, hstored⟩

theorem archived_ids : (archiveMany actor now f ids).1.archived.map (·.id) =
    ((foundRooms f ids).filter fun r => decide (f.outcome (.ofId r.id) = .archived)).map
      fun r => IdText.ofId r.id := by
  show (((foundRooms f ids).filter _).map _).map _ = _
  rw [List.map_map]
  have hsame : ∀ r ∈ foundRooms f ids, (r.archivedAt.isSome ||
      (EntryMap.get (liveByRoom f (foundRooms f ids)) r.id).isNone) =
        decide (f.outcome (.ofId r.id) = .archived) := by
    intro r hr
    rw [isNone_liveByRoom hr, outcome_ofId (mem_foundRooms.mp hr).1]
    by_cases h : r.archivedAt.isSome ∨ (f.liveReservations r.id).length = 0
    · rw [if_pos h]
      simpa using h
    · rw [if_neg h]
      simpa using h
  exact congrArg (List.map _) (List.filter_congr hsame)

theorem blocked_ids : (archiveMany actor now f ids).1.blocked.map (·.id) =
    ((foundRooms f ids).filter fun r => decide (f.outcome (.ofId r.id) = .blocked)).map
      fun r => IdText.ofId r.id := by
  show (((foundRooms f ids).filter _).map _).map _ = _
  rw [List.map_map]
  have hsame : ∀ r ∈ foundRooms f ids, (r.archivedAt.isNone &&
      (EntryMap.get (liveByRoom f (foundRooms f ids)) r.id).isSome) =
        decide (f.outcome (.ofId r.id) = .blocked) := by
    intro r hr
    rw [← Option.not_isNone, isNone_liveByRoom hr, outcome_ofId (mem_foundRooms.mp hr).1]
    by_cases h : r.archivedAt.isSome ∨ (f.liveReservations r.id).length = 0
    · rw [if_pos h]
      cases hmark : r.archivedAt <;> simp_all
    · rw [if_neg h]
      cases hmark : r.archivedAt <;> simp_all
  exact congrArg (List.map _) (List.filter_congr hsame)

theorem notFound_iff (hspelled : SpelledAsStored f ids) (ht : t ∈ ids) :
    t ∉ (foundRooms f ids).map (fun r => IdText.ofId r.id) ↔ f.outcome t = .notFound := by
  rw [outcome_eq_notFound]
  constructor
  · intro hno
    by_contra hfind
    obtain ⟨room, hroom⟩ := Option.ne_none_iff_exists'.mp hfind
    obtain ⟨hmem, hid⟩ := Table.find_eq_some.mp hroom
    refine hno (List.mem_map.mpr ⟨room, mem_foundRooms.mpr ⟨hmem, t, ht, hid.symm⟩, ?_⟩)
    rw [hspelled t ht (by rw [hroom]; rfl)]
    exact congrArg IdText.ofId hid
  · intro hfind hin
    obtain ⟨r, hr, rfl⟩ := List.mem_map.mp hin
    exact Table.find_eq_none.mp hfind r (mem_foundRooms.mp hr).1 rfl

/-- An id in another spelling is named as not found, whether or not its room is. -/
theorem mem_notFound_of_misspelled (ht : t ∈ ids) (h : t ≠ .ofId t.id) :
    t ∈ (archiveMany actor now f ids).1.notFound := by
  refine List.mem_filter.mpr ⟨mem_distinct.mpr ht, decide_eq_true fun hin => h ?_⟩
  obtain ⟨r, -, rfl⟩ := List.mem_map.mp hin
  rfl

variable (actor now clock f ids) in
/-- The rooms are left as by the calls in turn; the answers part the ids by what these come to. -/
structure Agrees : Prop where
  rooms : (archiveMany actor now f ids).2.untimed =
    (archiveEach actor clock f (distinct ids)).2.untimed
  archived : ((archiveMany actor now f ids).1.archived.map (·.id)).Perm
    (((archiveEach actor clock f (distinct ids)).1.filter fun a =>
      decide (outcomeOf a.2 = .archived)).map Prod.fst)
  blocked : ((archiveMany actor now f ids).1.blocked.map (·.id)).Perm
    (((archiveEach actor clock f (distinct ids)).1.filter fun a =>
      decide (outcomeOf a.2 = .blocked)).map Prod.fst)
  notFound : (archiveMany actor now f ids).1.notFound.Perm
    (((archiveEach actor clock f (distinct ids)).1.filter fun a =>
      decide (outcomeOf a.2 = .notFound)).map Prod.fst)

/-- The rooms are left alike in any case. -/
theorem untimed_archiveMany : (archiveMany actor now f ids).2.untimed =
    (archiveEach actor clock f (distinct ids)).2.untimed := by
  have hnamed : (fun id => decide (id ∈ (distinct ids).map (·.id))) =
      fun id => decide (id ∈ ids.map (·.id)) := by
    funext id
    simp [mem_distinct]
  rw [archiveEach_rooms, hnamed, archiveMany_rooms, untimed_settle]

end Calls

/-- **Bulk and single archive agree** exactly if no room is named in another spelling of its id. -/
theorem archiveMany_iff (actor : Option UserId) (now : Moment) (clock : IdText → Moment)
    (f : Fund) (ids : List IdText) :
    Agrees actor now clock f ids ↔ SpelledAsStored f ids := by
  constructor
  · intro h t ht hsome
    by_contra hother
    have hin := h.notFound.subset (mem_notFound_of_misspelled ht hother)
    rw [filter_archiveEach, List.mem_filter, decide_eq_true_eq, outcome_eq_notFound] at hin
    rw [hin.2] at hsome
    cases hsome
  · intro hspelled
    refine ⟨untimed_archiveMany, ?_, ?_, ?_⟩
    · rw [archived_ids, filter_archiveEach]
      exact found_perm hspelled (by simp)
    · rw [blocked_ids, filter_archiveEach]
      exact found_perm hspelled (by simp)
    · rw [filter_archiveEach]
      refine .of_eq (List.filter_congr fun t ht => ?_)
      exact decide_eq_decide.mpr (notFound_iff hspelled (mem_distinct.mp ht))

def Fund.room101 : Fund where
  multiPlaceEnabled := false
  types := Table.empty.insert ⟨1, "STD", "Standard", 2, 2, true, none, none⟩
  rooms := Table.empty.insert ⟨⟨1, 1, 2, true, .clean⟩, "101", none, none⟩
  reservations := .empty
  folios := .empty

/-- Room 101 under another spelling of its id: it is archived, and named as not found. -/
theorem archiveMany_misspelled : ¬∀ (actor : Option UserId) (now : Moment)
    (clock : IdText → Moment) (f : Fund) (ids : List IdText),
    Agrees actor now clock f ids := by
  intro h
  have hperm := (h none 0 (fun _ => 0) .room101 [⟨1, 1⟩]).notFound
  revert hperm
  decide

end KarsHotel
