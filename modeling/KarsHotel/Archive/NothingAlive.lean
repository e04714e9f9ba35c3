import KarsHotel.Archive.Service
import KarsHotel.Rooms.ArchiveMany

/-!
# When the archive holds nothing alive

* `LiveOrigin`: where the live reservations after a step come from;
* `ArchiveOp.Orderly`: no room is put into an archived type, no archived type is switched on, and no
  reservation comes to life in an archived room or hotel;
* `ArchiveInv`: the invariant, one lemma for each service;
* **`archiveClean_run`**: the archive holds nothing alive in every orderly run.
-/

namespace KarsHotel

/-! ## Reservations that come to life -/

/-- The operation brings a reservation to life in a room. -/
def Op.Opens (h : Hotel) (roomId : RoomId) : Op → Prop
  | .create dto _ channel _ => h.earlier channel = none ∧ dto.roomId = roomId ∧
      dto.initialStatus ∈ LIVE_RESERVATION_STATUSES
  | .update id dto _ _ => ∃ cur, h.reservations.find id = some cur ∧ dto.finalRoom cur = roomId ∧
      cur.status ∉ LIVE_RESERVATION_STATUSES ∧ dto.finalStatus cur ∈ LIVE_RESERVATION_STATUSES
  | _ => False

/-- Where a live reservation comes from. -/
inductive LiveOrigin (h : Hotel) (op : Op) (r' : Reservation) : Prop
  | live (r : Reservation) (hr : r ∈ h.reservations) (hlive : r.status ∈ LIVE_RESERVATION_STATUSES)
      (hroom : r.roomId = r'.roomId ∨ ∃ x, h.activeRoom r'.roomId = some x)
  | opened (haccepted : op.Accepted h) (hopens : op.Opens h r'.roomId)

theorem liveOrigin {h : Hotel} {op : Op} {r' : Reservation}
    (hmem : r' ∈ (step h op).reservations) (hlive : r'.status ∈ LIVE_RESERVATION_STATUSES) :
    LiveOrigin h op r' := by
  by_cases haccepted : op.Accepted h
  swap
  · rw [step_of_not_accepted haccepted] at hmem
    exact .live r' hmem hlive (.inl rfl)
  cases rowOrigin hmem with
  | kept op hr => exact .live r' hr hlive (.inl rfl)
  | created hd hroom hp ha =>
    exact .opened haccepted ⟨earlier_eq_none ha, rfl, hlive⟩
  | @updated id dto opts now cur p roomTypeId hcur hv hd hf hc hp hg =>
    rw [UpdateReservationDto.result_status] at hlive
    by_cases hbefore : cur.status ∈ LIVE_RESERVATION_STATUSES
    · refine .live cur (Table.find_eq_some.mp hcur).1 hbefore ?_
      rw [UpdateReservationDto.result_roomId]
      cases hp with
      | kept ht hp => exact .inl (UpdateReservationDto.finalRoom_of_not_touchesPlace ht).symm
      | chosen ht hs hs' hroom hp =>
        subst hs
        exact .inr ⟨_, hroom⟩
    · refine .opened haccepted ⟨cur, hcur, ?_, hbefore, hlive⟩
      rw [UpdateReservationDto.result_roomId]
  | swapped hr p => exact .live _ hr hlive (.inl rfl)
  | cancelled hcur =>
    have hcancelled : ReservationStatus.cancelled ∈ LIVE_RESERVATION_STATUSES := hlive
    exact absurd hcancelled (by decide)
  | @recorded id fact moment now cur hcur hf =>
    rw [Reservation.stamp_status] at hlive
    have hlive : fact.status ∈ LIVE_RESERVATION_STATUSES := hlive
    refine .live cur (Table.find_eq_some.mp hcur).1 ?_ (.inl ?_)
    · have hallowed := hf.allowed
      cases fact with
      | checkedIn => revert hallowed; cases cur.status <;> decide
      | checkedOut => exact absurd hlive (by decide)
      | noShow => exact absurd hlive (by decide)
    · cases fact <;> rfl

/-! ## The condition -/

/-- The type that an operation puts rooms into. -/
def RoomOp.namedType (f : Fund) : RoomOp → Option RoomTypeId
  | .create dto => some dto.roomTypeId
  | .createMany dto => if RoomsService.toCreate f dto = [] then none else some dto.roomTypeId
  | .update _ dto => dto.roomTypeId
  | _ => none

/-- An operation that is not refused puts no room into an archived type. -/
def RoomOp.Orderly (f : Fund) (op : RoomOp) : Prop :=
  ∀ f', op.exec f = .ok f' → ∀ t ∈ f.types, op.namedType f = some t.id → t.archivedAt = none

/-- An operation that is not refused does not switch an archived type on. -/
def RoomTypeOp.Orderly (f : Fund) (op : RoomTypeOp) : Prop :=
  ∀ f', op.exec f = .ok f' → ∀ id dto, op = .update id dto → dto.isActive = some true →
    ∀ t ∈ f.types, t.id = id → t.archivedAt = none

/-- An operation that is not refused brings no reservation to life in an archived room or hotel. -/
def ArchiveOp.Orderly (s : HotelsStore) : ArchiveOp → Prop
  | .room tenantId op => op.Orderly (s.fund tenantId)
  | .roomType tenantId op => op.Orderly (s.fund tenantId)
  | .hotel _ => True
  | .reservation tenantId op => op.Accepted (s.fund tenantId).hotel →
      ∀ roomId, op.Opens (s.fund tenantId).hotel roomId →
        (∀ r ∈ (s.fund tenantId).rooms, r.id = roomId → r.archivedAt = none) ∧
        ∀ t ∈ s.directory.tenants, t.id = tenantId → t.archivedAt = none

/-! ## The invariant of a fund -/

/-- The archive holds nothing alive, and every room is of a type. -/
structure Fund.ArchiveInv (f : Fund) : Prop where
  clean : f.ArchiveClean
  typed : ∀ r ∈ f.rooms, ∃ t ∈ f.types, t.id = r.roomTypeId

/-- What an operation on rooms or types does to a fund. -/
structure Fund.ArchiveStep (f f' : Fund) : Prop where
  inv : f'.ArchiveInv
  reservations : f'.reservations = f.reservations

section Fund

variable {f f' : Fund}

theorem Fund.ArchiveInv.refl (h : f.ArchiveInv) : f.ArchiveStep f := ⟨h, rfl⟩

theorem Fund.ArchiveInv.writeRooms (h : f.ArchiveInv) (rooms : Table FundRoom.key)
    (hrooms : ∀ r ∈ rooms, r ∈ f.rooms ∨ f.RoomClean r ∧ ∃ t ∈ f.types, t.id = r.roomTypeId) :
    f.ArchiveStep { f with rooms := rooms } := by
  have hall : ∀ r ∈ rooms, f.RoomClean r ∧ ∃ t ∈ f.types, t.id = r.roomTypeId := by
    intro r hr
    rcases hrooms r hr with hold | hnew
    · exact ⟨h.clean.rooms r hold, h.typed r hold⟩
    · exact hnew
  refine ⟨⟨⟨fun r hr => ?_, h.clean.types⟩, fun r hr => (hall r hr).2⟩, rfl⟩
  exact ⟨(hall r hr).1.off, (hall r hr).1.empty, (hall r hr).1.typed⟩

theorem Fund.ArchiveInv.modifyRoom (h : f.ArchiveInv) (id : RoomId) {g : FundRoom → FundRoom}
    {hg : ∀ r, (g r).key = r.key} (hroom : ∀ r ∈ f.rooms, r.id = id →
      f.RoomClean (g r) ∧ ∃ t ∈ f.types, t.id = (g r).roomTypeId) :
    f.ArchiveStep { f with rooms := f.rooms.modify id g hg } := by
  refine h.writeRooms _ fun r hr => ?_
  rcases Table.mem_modify.mp hr with ⟨hold, _⟩ | ⟨r₀, hr₀, hid, rfl⟩
  · exact .inl hold
  · exact .inr (hroom r₀ hr₀ hid)

/-- The types are written: those of rooms stay, not archived where a room that is not archived needs
them. -/
theorem Fund.ArchiveInv.writeTypes (h : f.ArchiveInv) (types : Table FundType.id)
    (hkept : ∀ r ∈ f.rooms, ∀ t ∈ f.types, t.id = r.roomTypeId → ∃ t' ∈ types, t'.id = t.id ∧
      (r.archivedAt = none → t.archivedAt = none → t'.archivedAt = none))
    (hoff : ∀ t ∈ types, t.archivedAt.isSome = true → t.isActive = false) :
    f.ArchiveStep { f with types := types } := by
  refine ⟨⟨⟨fun r hr => ?_, hoff⟩, fun r hr => ?_⟩, rfl⟩
  · have hclean := h.clean.rooms r hr
    refine ⟨hclean.off, hclean.empty, fun hlive => ?_⟩
    obtain ⟨t, ht, hid, harchived⟩ := hclean.typed hlive
    obtain ⟨t', ht', hid', hkeep⟩ := hkept r hr t ht hid
    exact ⟨t', ht', hid'.trans hid, hkeep hlive harchived⟩
  · obtain ⟨t, ht, hid⟩ := h.typed r hr
    obtain ⟨t', ht', hid', _⟩ := hkept r hr t ht hid
    exact ⟨t', ht', hid'.trans hid⟩

theorem Fund.ArchiveInv.modifyType (h : f.ArchiveInv) (id : RoomTypeId) {g : FundType → FundType}
    {hg : ∀ t, (g t).id = t.id}
    (hkept : ∀ t ∈ f.types, t.id = id → ∀ r ∈ f.rooms, r.roomTypeId = id → r.archivedAt = none →
      t.archivedAt = none → (g t).archivedAt = none)
    (hoff : ∀ t ∈ f.types, t.id = id → (g t).archivedAt.isSome = true → (g t).isActive = false) :
    f.ArchiveStep { f with types := f.types.modify id g hg } := by
  refine h.writeTypes _ (fun r hr t ht htid => ?_) fun t ht hsome => ?_
  · by_cases hid : t.id = id
    · refine ⟨g t, Table.mem_modify.mpr (.inr ⟨t, ht, hid, rfl⟩), hg t, fun hlive hnone => ?_⟩
      exact hkept t ht hid r hr (htid.symm.trans hid) hlive hnone
    · exact ⟨t, Table.mem_modify.mpr (.inl ⟨ht, hid⟩), rfl, fun _ hnone => hnone⟩
  · rcases Table.mem_modify.mp ht with ⟨hold, _⟩ | ⟨t₀, ht₀, hid, rfl⟩
    · exact h.clean.types t hold hsome
    · exact hoff t₀ ht₀ hid hsome

/-- A room that is not archived keeps the rule in a type that is not archived. -/
theorem Fund.roomClean_of_live {r : FundRoom} (hlive : r.archivedAt = none) {t : FundType}
    (ht : t ∈ f.types) (hid : t.id = r.roomTypeId) (harchived : t.archivedAt = none) :
    f.RoomClean r := by
  refine ⟨fun hsome => ?_, fun hsome => ?_, fun _ => ⟨t, ht, hid, harchived⟩⟩
  · simp [hlive] at hsome
  · simp [hlive] at hsome

/-! ## The room service -/

open RoomsService

theorem insertRoom_archive {dto : CreateRoomDto} {id : RoomId} (h : f.ArchiveInv) {t : FundType}
    (ht : t ∈ f.types) (hid : t.id = dto.roomTypeId) (harchived : t.archivedAt = none)
    (hx : insertRoom f dto = .ok (id, f')) : f.ArchiveStep f' ∧ f'.types = f.types := by
  unfold insertRoom at hx
  split_ifs at hx with hfree
  obtain rfl := congrArg Prod.snd (Except.ok.inj hx)
  refine ⟨h.writeRooms _ fun r hr => ?_, rfl⟩
  rcases Table.mem_of_mem_insert hr with hold | rfl
  · exact .inl hold
  · exact .inr ⟨Fund.roomClean_of_live rfl ht hid harchived, t, ht, hid⟩

theorem find_type_isSome {roomTypeId : RoomTypeId}
    (h : ¬(f.types.find roomTypeId).isNone = true) : ∃ t ∈ f.types, t.id = roomTypeId := by
  rw [Option.isNone_iff_eq_none] at h
  obtain ⟨t, ht⟩ := Option.ne_none_iff_exists'.mp h
  exact ⟨t, Table.find_eq_some.mp ht⟩

theorem create_archive {dto : CreateRoomDto} {id : RoomId} (h : f.ArchiveInv)
    (hok : ∀ t ∈ f.types, t.id = dto.roomTypeId → t.archivedAt = none)
    (hx : RoomsService.create f dto = .ok (id, f')) : f.ArchiveStep f' := by
  unfold RoomsService.create at hx
  by_cases hfind : (f.types.find dto.roomTypeId).isNone = true
  · rw [if_pos hfind] at hx
    cases hx
  rw [if_neg hfind] at hx
  obtain ⟨t, ht, hid⟩ := find_type_isSome hfind
  cases hinsert : insertRoom f dto with
  | error x =>
    simp only [hinsert] at hx
    split_ifs at hx
  | ok r =>
    simp only [hinsert] at hx
    obtain rfl := Except.ok.inj hx
    exact (insertRoom_archive h ht hid (hok t ht hid) hinsert).1

theorem createMany_archive {dto : CreateManyRoomsDto} {a : CreateManyAnswer} (h : f.ArchiveInv)
    (hok : toCreate f dto ≠ [] → ∀ t ∈ f.types, t.id = dto.roomTypeId → t.archivedAt = none)
    (hx : createMany f dto = .ok (a, f')) : f.ArchiveStep f' := by
  unfold createMany at hx
  by_cases hfind : (f.types.find dto.roomTypeId).isNone = true
  · rw [if_pos hfind] at hx
    cases hx
  rw [if_neg hfind] at hx
  dsimp only at hx
  split_ifs at hx
  obtain ⟨t, ht, hid⟩ := find_type_isSome hfind
  obtain ⟨made, hmade, hret⟩ := bind_ok_iff.mp hx
  obtain rfl := congrArg Prod.snd (Except.ok.inj hret)
  by_cases hnone : toCreate f dto = []
  · rw [hnone] at hmade
    obtain rfl := Except.ok.inj hmade
    exact h.refl
  -- every room of the many is put into the same type, which is not archived
  have harchived := hok hnone t ht hid
  have hrun : f.ArchiveStep made ∧ made.types = f.types := by
    refine foldlM_keeps (P := fun g => f.ArchiveStep g ∧ g.types = f.types) ?_ ⟨h.refl, rfl⟩ hmade
    rintro g number g' ⟨hstep, htypes⟩ hg
    obtain ⟨⟨id, g₁⟩, hinsert, rfl⟩ := map_ok_iff.mp hg
    obtain ⟨hnext, hsame⟩ := insertRoom_archive hstep.inv (htypes ▸ ht) hid harchived hinsert
    exact ⟨⟨hnext.inv, hnext.reservations.trans hstep.reservations⟩, hsame.trans htypes⟩
  exact hrun.1

theorem patched_archive {id : RoomId} {dto : UpdateRoomDto} (h : f.ArchiveInv)
    (hlive : ¬(f.rooms.find id).any (·.archivedAt.isSome) = true)
    (htype : ¬(dto.roomTypeId.any fun t => (f.types.find t).isNone) = true)
    (hok : ∀ t ∈ f.types, dto.roomTypeId = some t.id → t.archivedAt = none) :
    f.ArchiveStep { f with rooms := f.rooms.modify id dto.apply fun _ => rfl } := by
  refine h.modifyRoom id fun r hr hid => ?_
  have hfind : f.rooms.find id = some r := Table.find_eq_some.mpr ⟨hr, hid⟩
  have hnone : r.archivedAt = none := by
    rw [hfind, Option.any_some] at hlive
    simpa using hlive
  obtain ⟨t, ht, htid, harchived⟩ :
      ∃ t ∈ f.types, t.id = (dto.apply r).roomTypeId ∧ t.archivedAt = none := by
    cases hdto : dto.roomTypeId with
    | none =>
      have hsame : (dto.apply r).roomTypeId = r.roomTypeId := by simp [UpdateRoomDto.apply, hdto]
      rw [hsame]
      exact (h.clean.rooms r hr).typed hnone
    | some roomTypeId =>
      have hnew : (dto.apply r).roomTypeId = roomTypeId := by simp [UpdateRoomDto.apply, hdto]
      rw [hdto, Option.any_some] at htype
      obtain ⟨t, ht, htid⟩ := find_type_isSome htype
      exact ⟨t, ht, htid.trans hnew.symm, hok t ht (by rw [hdto, htid])⟩
  exact ⟨Fund.roomClean_of_live hnone ht htid harchived, t, ht, htid⟩

theorem update_archive {id : RoomId} {dto : UpdateRoomDto} (h : f.ArchiveInv)
    (hok : ∀ t ∈ f.types, dto.roomTypeId = some t.id → t.archivedAt = none)
    (hx : RoomsService.update f id dto = .ok f') : f.ArchiveStep f' := by
  unfold RoomsService.update at hx
  by_cases hlive : (f.rooms.find id).any (·.archivedAt.isSome) = true
  · rw [if_pos hlive] at hx
    cases hx
  rw [if_neg hlive] at hx
  by_cases htype : (dto.roomTypeId.any fun t => (f.types.find t).isNone) = true
  · rw [if_pos htype] at hx
    cases hx
  rw [if_neg htype] at hx
  have hpatched := patched_archive h hlive htype hok
  cases hnumber : dto.number with
  | none =>
    simp only [hnumber] at hx
    split_ifs at hx
    obtain rfl := Except.ok.inj hx
    exact hpatched
  | some number =>
    simp only [hnumber] at hx
    split_ifs at hx
    obtain rfl := Except.ok.inj hx
    exact hpatched

theorem setStatus_archive {id : RoomId} {status : RoomStatus} (h : f.ArchiveInv)
    (hx : setStatus f id status = .ok f') : f.ArchiveStep f' := by
  unfold setStatus at hx
  split_ifs at hx
  obtain rfl := Except.ok.inj hx
  refine h.modifyRoom id fun r hr _ => ?_
  have hclean := h.clean.rooms r hr
  exact ⟨⟨hclean.off, hclean.empty, hclean.typed⟩, h.typed r hr⟩

theorem settle_archive (h : f.ArchiveInv) (actor : Option UserId) (now : Moment)
    (named : RoomId → Bool) : f.ArchiveStep (f.settle actor now named) := by
  refine h.writeRooms _ fun r' hr' => ?_
  obtain ⟨r, hr, rfl⟩ := Table.mem_map.mp hr'
  unfold Fund.mark
  split_ifs with hmark
  · obtain ⟨_, _, hlive⟩ := hmark
    refine .inr ⟨⟨fun _ => rfl, fun _ b hb hroom hstatus => ?_, fun hnone => by cases hnone⟩,
      h.typed r hr⟩
    have hmem : b ∈ f.liveReservations r.id :=
      Table.mem_select.mpr ⟨hb, decide_eq_true ⟨hroom, hstatus⟩⟩
    rw [List.length_eq_zero_iff.mp hlive] at hmem
    cases hmem
  · exact .inl hr

theorem restoreType_archive {t : FundType} (h : f.ArchiveInv) (hx : restoreType f t = .ok f') :
    f.ArchiveStep f' ∧ f'.rooms = f.rooms ∧ ∀ x ∈ f'.types, x.id = t.id → x.archivedAt = none := by
  unfold restoreType at hx
  split_ifs at hx
  obtain rfl := Except.ok.inj hx
  refine ⟨h.modifyType t.id (fun x _ _ r _ _ _ _ => rfl) fun x _ _ hsome => ?_, rfl,
    fun x hmem hid => ?_⟩
  · cases hsome
  have hmem : x ∈ f.types.modify t.id (.restored (restoredCode f t.code)) fun _ => rfl := hmem
  rcases Table.mem_modify.mp hmem with ⟨_, hne⟩ | ⟨x₀, _, _, rfl⟩
  · exact absurd hid hne
  · rfl

theorem restored_archive {id : RoomId} {room : FundRoom} (h : f.ArchiveInv)
    (hfind : f.rooms.find id = some room)
    (hlive : ∀ t ∈ f.types, t.id = room.roomTypeId → t.archivedAt = none) :
    f.ArchiveStep { f with rooms := f.rooms.modify id .restored fun _ => rfl } := by
  refine h.modifyRoom id fun r hr hid => ?_
  obtain rfl := Option.some.inj ((Table.find_eq_some.mpr ⟨hr, hid⟩).symm.trans hfind)
  obtain ⟨t, ht, htid⟩ := h.typed r hr
  exact ⟨Fund.roomClean_of_live rfl ht htid (hlive t ht htid), t, ht, htid⟩

/-- The type of a room that is to be restored is not archived any more. -/
theorem restoreTypeOf_archive {id : RoomId} {room : FundRoom} (h : f.ArchiveInv)
    (hfind : f.rooms.find id = some room) (hx : restoreTypeOf f room = .ok f') :
    f.ArchiveStep f' ∧ f'.rooms.find id = some room ∧
      ∀ t ∈ f'.types, t.id = room.roomTypeId → t.archivedAt = none := by
  unfold restoreTypeOf at hx
  cases hfilter : (f.types.find room.roomTypeId).filter (·.archivedAt.isSome) with
  | none =>
    rw [hfilter] at hx
    obtain rfl := Except.ok.inj hx
    refine ⟨h.refl, hfind, fun t ht htid => ?_⟩
    rw [Table.find_eq_some.mpr ⟨ht, htid⟩] at hfilter
    by_contra hsome
    simp [Option.filter, Option.isSome_iff_ne_none, hsome] at hfilter
  | some t =>
    rw [hfilter] at hx
    obtain ⟨hstep, hrooms, hlive⟩ := restoreType_archive h hx
    obtain ⟨hfound, _⟩ := Option.filter_eq_some_iff.mp hfilter
    have hid : t.id = room.roomTypeId := (Table.find_eq_some.mp hfound).2
    exact ⟨hstep, hrooms ▸ hfind, fun x hx hxid => hlive x hx (hxid.trans hid.symm)⟩

theorem restore_archive {id : RoomId} (h : f.ArchiveInv) (hx : restore f id = .ok f') :
    f.ArchiveStep f' := by
  unfold restore at hx
  cases hfind : f.rooms.find id with
  | none =>
    rw [hfind] at hx
    cases hx
  | some room =>
    cases hroom : room.archivedAt with
    | none =>
      simp only [hfind, hroom] at hx
      obtain rfl := Except.ok.inj hx
      exact h.refl
    | some archivedAt =>
      simp only [hfind, hroom] at hx
      obtain ⟨f₁, htype, rfl⟩ := map_ok_iff.mp hx
      obtain ⟨hstep, hfound, hlive⟩ := restoreTypeOf_archive h hfind htype
      have hnext := restored_archive hstep.inv hfound hlive
      exact ⟨hnext.inv, hnext.reservations.trans hstep.reservations⟩

theorem remove_archive {enabled : Bool} {id : RoomId} (h : f.ArchiveInv)
    (hx : RoomsService.remove f enabled id = .ok f') : f.ArchiveStep f' := by
  unfold RoomsService.remove at hx
  split_ifs at hx
  cases hfind : f.rooms.find id with
  | none =>
    rw [hfind] at hx
    cases hx
  | some room =>
    simp only [hfind] at hx
    split_ifs at hx
    obtain rfl := Except.ok.inj hx
    exact h.writeRooms _ fun r hr => .inl (Table.mem_remove.mp hr).1

theorem RoomOp.exec_archive {op : RoomOp} (h : f.ArchiveInv) (hok : op.Orderly f)
    (hx : op.exec f = .ok f') : f.ArchiveStep f' := by
  have hnamed := hok f' hx
  cases op with
  | create dto =>
    obtain ⟨⟨id, f₁⟩, hcreate, rfl⟩ := map_ok_iff.mp hx
    exact create_archive h (fun t ht hid => hnamed t ht (congrArg some hid.symm)) hcreate
  | createMany dto =>
    obtain ⟨⟨a, f₁⟩, hcreate, rfl⟩ := map_ok_iff.mp hx
    refine createMany_archive h (fun hsome t ht hid => hnamed t ht ?_) hcreate
    simp only [RoomOp.namedType, if_neg hsome, hid]
  | update id dto => exact update_archive h hnamed hx
  | setStatus id status => exact setStatus_archive h hx
  | archive actor now id =>
    obtain ⟨p, harchive, rfl⟩ := map_ok_iff.mp hx
    rw [archive_settle harchive]
    exact settle_archive h actor now _
  | archiveMany actor now ids =>
    obtain rfl := Except.ok.inj hx
    rw [archiveMany_rooms]
    exact settle_archive h actor now _
  | restore id => exact restore_archive h hx
  | remove enabled id => exact remove_archive h hx

/-! ## The room type service -/

open RoomTypesService

theorem updateType_eq_some {id : RoomTypeId} {code : Option String} {g : FundType → FundType}
    {hg : ∀ t, (g t).id = t.id} (hx : updateType f id code g hg = some f') :
    f' = { f with types := f.types.modify id g hg } := by
  unfold updateType at hx
  split_ifs at hx
  exact (Option.some.inj hx).symm

theorem createType_archive {dto : CreateRoomTypeDto} {id : RoomTypeId} (h : f.ArchiveInv)
    (hx : RoomTypesService.create f dto = .ok (id, f')) : f.ArchiveStep f' := by
  unfold RoomTypesService.create at hx
  split_ifs at hx
  obtain rfl := congrArg Prod.snd (Except.ok.inj hx)
  refine h.writeTypes _ (fun r _ t ht _ => ⟨t, Table.mem_insert_of_mem ht, rfl, fun _ h => h⟩)
    fun t ht hsome => ?_
  rcases Table.mem_of_mem_insert ht with hold | rfl
  · exact h.clean.types t hold hsome
  · cases hsome

theorem updateType_archive {id : RoomTypeId} {dto : UpdateRoomTypeDto} (h : f.ArchiveInv)
    (hok : dto.isActive = some true → ∀ t ∈ f.types, t.id = id → t.archivedAt = none)
    (hx : RoomTypesService.update f id dto = .ok f') : f.ArchiveStep f' := by
  unfold RoomTypesService.update at hx
  cases hrefusal : occupancyRefusal f id dto with
  | some x =>
    rw [hrefusal] at hx
    cases hx
  | none =>
    simp only [hrefusal] at hx
    by_cases hfind : (f.types.find id).isNone = true
    · rw [if_pos hfind] at hx
      cases hx
    rw [if_neg hfind] at hx
    cases hrow : updateType f id dto.code dto.apply fun _ => rfl with
    | none =>
      rw [hrow] at hx
      cases hx
    | some f₁ =>
      rw [hrow] at hx
      obtain rfl := Except.ok.inj hx
      rw [updateType_eq_some hrow]
      refine h.modifyType id (fun t _ _ r _ _ _ hnone => hnone) fun t ht hid hsome => ?_
      have hsome : t.archivedAt.isSome = true := hsome
      show dto.isActive.getD t.isActive = false
      cases hactive : dto.isActive with
      | none => exact h.clean.types t ht hsome
      | some b =>
        cases b with
        | false => rfl
        | true =>
          rw [hok hactive t ht hid] at hsome
          cases hsome

theorem removeType_archive {actor : Option UserId} {now : Moment} {id : RoomTypeId}
    (h : f.ArchiveInv) (hx : RoomTypesService.remove f actor now id = .ok f') :
    f.ArchiveStep f' := by
  unfold RoomTypesService.remove at hx
  cases hfind : f.types.find id with
  | none =>
    rw [hfind] at hx
    cases hx
  | some existing =>
    simp only [hfind] at hx
    split_ifs at hx with harchived hrooms
    · obtain rfl := Except.ok.inj hx
      exact h.refl
    cases hrow : updateType f id (some (existing.code ++ "~" ++ base36 now))
        (.archived (existing.code ++ "~" ++ base36 now) now actor) fun _ => rfl with
    | none =>
      rw [hrow] at hx
      cases hx
    | some f₁ =>
      rw [hrow] at hx
      obtain rfl := Except.ok.inj hx
      rw [updateType_eq_some hrow]
      refine h.modifyType id (fun t _ _ r hr hroom hlive _ => ?_) fun _ _ _ _ => rfl
      -- no room that is not archived is of the type
      have hmem : r ∈ liveRooms f id := by
        refine Table.mem_select.mpr ⟨hr, ?_⟩
        simp [hroom, hlive]
      exact absurd (List.length_pos_of_mem hmem) hrooms

theorem RoomTypeOp.exec_archive {op : RoomTypeOp} (h : f.ArchiveInv) (hok : op.Orderly f)
    (hx : op.exec f = .ok f') : f.ArchiveStep f' := by
  cases op with
  | create dto =>
    obtain ⟨⟨id, f₁⟩, hcreate, rfl⟩ := map_ok_iff.mp hx
    exact createType_archive h hcreate
  | update id dto => exact updateType_archive h (hok f' hx id dto rfl) hx
  | remove actor now id => exact removeType_archive h hx

/-! ## The reservation service -/

theorem not_archived_of_active (h : f.ArchiveInv) {roomId : RoomId} {x : Room × Bool}
    (hactive : f.hotel.activeRoom roomId = some x) :
    ∀ r ∈ f.rooms, r.id = roomId → r.archivedAt = none := by
  intro r hr hid
  obtain ⟨room, m⟩ := x
  obtain ⟨hfind, hon, _⟩ := Hotel.activeRoom_eq_some.mp hactive
  rw [Fund.find_hotel_rooms, Table.find_eq_some.mpr ⟨hr, hid⟩, Option.map_some] at hfind
  obtain rfl := Option.some.inj hfind
  by_contra hnone
  have hoff := (h.clean.rooms r hr).off (Option.isSome_iff_ne_none.mpr hnone)
  rw [hoff] at hon
  cases hon

theorem step_archive {op : Op} (h : f.ArchiveInv)
    (hok : op.Accepted f.hotel → ∀ roomId, op.Opens f.hotel roomId →
      ∀ r ∈ f.rooms, r.id = roomId → r.archivedAt = none) : (f.step op).ArchiveInv := by
  refine ⟨⟨fun r' hr' => ?_, h.clean.types⟩, fun r' hr' => ?_⟩
  · obtain ⟨r, hr, status, rfl⟩ := Fund.mem_withHotel_rooms hr'
    have hclean := h.clean.rooms r hr
    refine ⟨hclean.off, fun hsome b hb hroom hstatus => ?_, hclean.typed⟩
    have hroom : b.roomId = r.id := hroom
    have harchived : r.archivedAt ≠ none := Option.isSome_iff_ne_none.mp hsome
    cases liveOrigin hb hstatus with
    | live b₀ hb₀ hlive hsame =>
      rcases hsame with hsame | ⟨x, hactive⟩
      · exact hclean.empty hsome b₀ hb₀ (hsame.trans hroom) hlive
      · exact harchived (not_archived_of_active h hactive r hr hroom.symm)
    | opened haccepted hopens => exact harchived (hok haccepted _ hopens r hr hroom.symm)
  · obtain ⟨r, hr, status, rfl⟩ := Fund.mem_withHotel_rooms hr'
    exact h.typed r hr

end Fund

/-! ## The invariant of the store -/

structure HotelsStore.ArchiveInv (s : HotelsStore) : Prop where
  funds : ∀ tenantId, (s.fund tenantId).ArchiveInv
  hotels : ∀ t ∈ s.directory.tenants, t.archivedAt.isSome = true →
    ∀ b ∈ (s.fund t.id).reservations, b.status ∉ LIVE_RESERVATION_STATUSES

section Store

variable {s : HotelsStore}

theorem HotelsStore.ArchiveInv.clean (h : s.ArchiveInv) : s.ArchiveClean :=
  ⟨fun tenantId => (h.funds tenantId).clean, h.hotels⟩

theorem HotelsStore.ArchiveInv.setFund (h : s.ArchiveInv) {tenantId : TenantId} {f : Fund}
    (hf : f.ArchiveInv) (hempty : ∀ t ∈ s.directory.tenants, t.id = tenantId →
      t.archivedAt.isSome = true → ∀ b ∈ f.reservations, b.status ∉ LIVE_RESERVATION_STATUSES) :
    (s.setFund tenantId f).ArchiveInv := by
  refine ⟨fun id => ?_, fun t ht hsome => ?_⟩
  · by_cases hid : id = tenantId
    · subst hid
      rwa [s.fund_setFund_self]
    · rw [s.fund_setFund_of_ne f hid]
      exact h.funds id
  · by_cases hid : t.id = tenantId
    · rw [hid, s.fund_setFund_self]
      exact hempty t ht hid hsome
    · rw [s.fund_setFund_of_ne f hid]
      exact h.hotels t ht hsome

/-- A hotel is archived by an operation only without live reservations. -/
theorem HotelOp.exec_archived {op : HotelOp} {d : Directory} (hx : op.exec s = .ok d)
    {t' : TenantRecord} (ht' : t' ∈ d.tenants) (hsome : t'.archivedAt.isSome = true) :
    (∃ t ∈ s.directory.tenants, t.id = t'.id ∧ t.archivedAt.isSome = true) ∨
      (s.fund t'.id).live.length = 0 := by
  -- one hotel is written, or none
  have hwritten : ∀ (id : TenantId) (data : TenantActivity) (t : TenantRecord),
      s.directory.hotel id = some t → d = s.directory.updateTenant id data →
      (data.archivedAt.isSome = true → t.archivedAt.isSome = true ∨ (s.fund id).live.length = 0) →
      (∃ t ∈ s.directory.tenants, t.id = t'.id ∧ t.archivedAt.isSome = true) ∨
        (s.fund t'.id).live.length = 0 := by
    rintro id data t hfind rfl hdata
    obtain ⟨ht, hid, _⟩ := Directory.hotel_eq_some.mp hfind
    rcases Directory.mem_updateTenant.mp ht' with ⟨hold, _⟩ | ⟨t₀, ht₀, hid₀, rfl⟩
    · exact .inl ⟨t', hold, rfl, hsome⟩
    · have hid' : (data.apply t₀).id = id := hid₀
      rw [hid']
      rcases hdata hsome with hbefore | hlive
      · exact .inl ⟨t, ht, hid, hbefore⟩
      · exact .inr hlive
  cases op with
  | archiveTenant actor now id =>
    simp only [HotelOp.exec, KarsHotel.archiveTenant] at hx
    cases hfind : s.directory.hotel id with
    | none =>
      rw [hfind] at hx
      cases hx
    | some t =>
      simp only [hfind] at hx
      split_ifs at hx with harchived hlive
      · obtain rfl := Except.ok.inj hx
        exact .inl ⟨t', ht', rfl, hsome⟩
      · exact hwritten id _ t hfind (Except.ok.inj hx).symm fun _ => .inr (by omega)
  | restoreTenant id =>
    simp only [HotelOp.exec, KarsHotel.restoreTenant] at hx
    cases hfind : s.directory.hotel id with
    | none =>
      rw [hfind] at hx
      cases hx
    | some t =>
      simp only [hfind] at hx
      split_ifs at hx with harchived
      · obtain rfl := Except.ok.inj hx
        exact .inl ⟨t', ht', rfl, hsome⟩
      · exact hwritten id _ t hfind (Except.ok.inj hx).symm fun hnone => by cases hnone
  | toggleActive id =>
    simp only [HotelOp.exec, KarsHotel.toggleActive] at hx
    cases hfind : s.directory.hotel id with
    | none =>
      rw [hfind] at hx
      cases hx
    | some t =>
      simp only [hfind] at hx
      split_ifs at hx with harchived
      exact hwritten id _ t hfind (Except.ok.inj hx).symm fun hsome => .inl hsome

theorem HotelsStore.ArchiveInv.step {op : ArchiveOp} (h : s.ArchiveInv) (hok : op.Orderly s) :
    (s.step op).ArchiveInv := by
  cases op with
  | room tenantId op =>
    simp only [HotelsStore.step]
    cases hx : op.exec (s.fund tenantId) with
    | error x => exact h
    | ok f =>
      have hstep := RoomOp.exec_archive (h.funds tenantId) hok hx
      refine h.setFund hstep.inv fun t ht hid hsome => ?_
      rw [hstep.reservations, ← hid]
      exact h.hotels t ht hsome
  | roomType tenantId op =>
    simp only [HotelsStore.step]
    cases hx : op.exec (s.fund tenantId) with
    | error x => exact h
    | ok f =>
      have hstep := RoomTypeOp.exec_archive (h.funds tenantId) hok hx
      refine h.setFund hstep.inv fun t ht hid hsome => ?_
      rw [hstep.reservations, ← hid]
      exact h.hotels t ht hsome
  | hotel op =>
    simp only [HotelsStore.step]
    cases hx : op.exec s with
    | error x => exact h
    | ok d =>
      refine ⟨h.funds, fun t' ht' hsome b hb hstatus => ?_⟩
      rcases op.exec_archived hx ht' hsome with ⟨t, ht, hid, hbefore⟩ | hlive
      · rw [← hid] at hb
        exact h.hotels t ht hbefore b hb hstatus
      · have hmem : b ∈ (s.fund t'.id).live := Table.mem_select.mpr ⟨hb, decide_eq_true hstatus⟩
        rw [List.length_eq_zero_iff.mp hlive] at hmem
        cases hmem
  | reservation tenantId op =>
    refine h.setFund (step_archive (h.funds tenantId) fun haccepted roomId hopens =>
      (hok haccepted roomId hopens).1) fun t ht hid hsome b hb hstatus => ?_
    cases liveOrigin hb hstatus with
    | live b₀ hb₀ hlive _ =>
      rw [← hid] at hb₀
      exact h.hotels t ht hsome b₀ hb₀ hlive
    | opened haccepted hopens =>
      have hnone := (hok haccepted _ hopens).2 t ht hid
      rw [hnone] at hsome
      cases hsome

end Store

/-! ## Every run -/

/-- **The archive holds nothing alive** in every orderly run. -/
theorem archiveClean_run (s : HotelsStore) (hclean : s.ArchiveClean)
    (htyped : ∀ tenantId, ∀ r ∈ (s.fund tenantId).rooms,
      ∃ t ∈ (s.fund tenantId).types, t.id = r.roomTypeId)
    (ops : List ArchiveOp) (hok : StepsMeet HotelsStore.step ArchiveOp.Orderly s ops) :
    (ops.foldl HotelsStore.step s).ArchiveClean := by
  have hstart : s.ArchiveInv :=
    ⟨fun tenantId => ⟨hclean.funds tenantId, htyped tenantId⟩, hclean.hotelEmpty⟩
  have hinv : (ops.foldl HotelsStore.step s).ArchiveInv :=
    foldl_keeps (fun _ _ h hop => h.step hop) hstart hok
  exact hinv.clean

/-! ## Small inputs -/

/-- A hotel of one room, whose type is the only one. -/
def HotelsStore.oneRoom : HotelsStore where
  directory :=
    { tenants := Table.empty.insert ⟨1, "hotel", "Hotel", true, none, none⟩
      roles := .empty
      users := .empty }
  fund _ :=
    { multiPlaceEnabled := false
      types := Table.empty.insert ⟨1, "STD", "Standard", 2, 2, true, none, none⟩
      rooms := Table.empty.insert ⟨⟨1, 1, 2, true, .ready⟩, "101", none, none⟩
      reservations := .empty
      folios := .empty }

theorem archiveClean_oneRoom : HotelsStore.oneRoom.ArchiveClean := by
  refine ⟨fun tenantId => ⟨fun r hr => ?_, fun t ht hsome => ?_⟩, fun t ht hsome => ?_⟩
  · obtain rfl := List.mem_singleton.mp hr
    exact Fund.roomClean_of_live rfl (List.mem_singleton.mpr rfl) rfl rfl
  · obtain rfl := List.mem_singleton.mp ht
    cases hsome
  · obtain rfl := List.mem_singleton.mp ht
    cases hsome

theorem typed_oneRoom : ∀ tenantId, ∀ r ∈ (HotelsStore.oneRoom.fund tenantId).rooms,
    ∃ t ∈ (HotelsStore.oneRoom.fund tenantId).types, t.id = r.roomTypeId := by
  intro tenantId r hr
  obtain rfl := List.mem_singleton.mp hr
  exact ⟨_, List.mem_singleton.mpr rfl, rfl⟩

/-- A night in the room is booked and cancelled, and the room is archived. -/
def emptied : List ArchiveOp :=
  [.reservation 1 (.create .oneNight .empty none 1), .reservation 1 (.cancel 1 none false),
    .room 1 (.archive none 0 (.ofId 1))]

/-- The hotel is archived after its room. -/
theorem archiveClean_run_emptied :
    ((emptied ++ [ArchiveOp.hotel (.archiveTenant 1 0 1)]).foldl HotelsStore.step
      .oneRoom).ArchiveClean := by
  refine archiveClean_run .oneRoom archiveClean_oneRoom typed_oneRoom _
    ⟨fun _ roomId _ => ⟨fun r hr _ => ?_, fun t ht _ => ?_⟩, fun _ roomId hopens => ?_,
      fun f' _ t _ hnamed => ?_, trivial, trivial⟩
  · obtain rfl := List.mem_singleton.mp hr
    rfl
  · obtain rfl := List.mem_singleton.mp ht
    rfl
  · exact hopens.elim
  · cases hnamed

/-- **A cancelled reservation comes back to life in an archived room.** -/
theorem not_archiveClean_revived : ¬∀ (s : HotelsStore), s.ArchiveClean →
    (∀ tenantId, ∀ r ∈ (s.fund tenantId).rooms,
      ∃ t ∈ (s.fund tenantId).types, t.id = r.roomTypeId) →
    ∀ ops : List ArchiveOp, (ops.foldl HotelsStore.step s).ArchiveClean := by
  intro h
  let revive : Op :=
    .update 1 { UpdateReservationDto.ofVersion 2 with status := some .confirmed } .form 0
  have hclean := h .oneRoom archiveClean_oneRoom typed_oneRoom (emptied ++ [.reservation 1 revive])
  have hrooms : (((emptied ++ [ArchiveOp.reservation 1 revive]).foldl HotelsStore.step
      .oneRoom).fund 1).rooms.rows = [⟨⟨1, 1, 2, false, .ready⟩, "101", some 0, none⟩] := by
    decide +kernel
  have hlive : (((emptied ++ [ArchiveOp.reservation 1 revive]).foldl HotelsStore.step
      .oneRoom).fund 1).reservations.rows.map (fun b => (b.roomId, b.status)) =
      [(1, .confirmed)] := by decide +kernel
  obtain ⟨b, hb, hroom⟩ := List.mem_map.mp (hlive ▸ List.mem_singleton.mpr rfl)
  obtain ⟨hroomId, hstatus⟩ := Prod.mk.inj hroom
  have hempty := ((hclean.funds 1).rooms _ (hrooms ▸ List.mem_singleton.mpr rfl)).empty rfl b hb
    hroomId
  rw [hstatus] at hempty
  exact hempty (by decide)

end KarsHotel
