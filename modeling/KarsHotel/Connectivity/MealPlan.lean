import KarsHotel.Connectivity.PartnerCalls
import KarsHotel.Lib.Run
import KarsHotel.Reservations.Deeds

/-!
# Meals stay inside the stay

A partner sets the meal days of its reservation against the dates of the stay; the dates are moved
by the update service, which knows nothing of meals.

* `MealsInside`: every meal day lies inside its stay, once, with portions;
* `StayOp`, `StayOp.step`: a partner's call or an operation of the cabinet;
* `UpdateAdmitted`, `KeepsMeals`: an update that passes every check of the service, and whether the
  dates it sets leave the stored meal days inside;
* `setReservationMeals_alone`: a meal call is refused and changes nothing, or replaces the plan;
* **`mealsInside_run`**: every run whose updates leave the meal days inside keeps the rule.
-/

namespace KarsHotel

/-! ## The rule -/

/-- A meal day lies inside the stay of its reservation. -/
def ConnectStore.MealInside (s : ConnectStore) (m : MealDay) : Prop :=
  ∃ r, s.hotel.reservations.find m.reservationId = some r ∧ r.checkIn ≤ m.date ∧ m.date ≤ r.checkOut

/-- **Meals stay inside the stay.** -/
structure MealsInside (s : ConnectStore) : Prop where
  inside : ∀ m ∈ s.meals, s.MealInside m
  once : ∀ m ∈ s.meals, ∀ m' ∈ s.meals, m.reservationId = m'.reservationId → m.date = m'.date → m = m'
  portions : ∀ m ∈ s.meals, 0 < m.breakfast + m.lunch + m.dinner

/-- Every check of an update passes. -/
structure UpdateAdmitted (h : Hotel) (id : ReservationId) (dto : UpdateReservationDto)
    (opts : UpdateOptions) (cur : Reservation) : Prop where
  version : cur.version = dto.version
  guests : dto.changesChannelGuests cur opts.fromChannel = false
  dates : dto.finalCheckIn cur < dto.finalCheckOut cur
  fact : ∀ fact, dto.fact cur = some fact → FactAdmitted (fun _ s => s = h) id fact cur.status
  cancel : dto.cancelling cur = true →
    cancelRefusal cur.status cur.channelManaged opts.fromChannel = none
  place : ∃ p, PlaceChosen (fun _ s => s = h) id dto cur p

/-- The days that an admitted update sets leave the stored meal days inside. -/
def KeepsMeals (s : ConnectStore) (id : ReservationId) (dto : UpdateReservationDto)
    (opts : UpdateOptions) : Prop :=
  ∀ cur, s.hotel.reservations.find id = some cur → UpdateAdmitted s.hotel id dto opts cur →
    ∀ m ∈ s.meals, m.reservationId = id →
      dateOf (dto.finalCheckIn cur) ≤ m.date ∧ m.date ≤ dateOf (dto.finalCheckOut cur)

/-- A partner's call or an operation of the cabinet. -/
inductive StayOp where
  | partner (tenant : TenantRow) (partnerId : PartnerId) (id : ReservationId)
      (request : PartnerRequest) (env : CallEnv)
  | cabinet (op : Op)

/-- The store after one of them, run alone. -/
def StayOp.step (s : ConnectStore) : StayOp → ConnectStore
  | .partner tenant partnerId id request env =>
    ((request.call tenant partnerId id).run env s s).2
  | .cabinet op => { s with hotel := KarsHotel.step s.hotel op }

/-- What an update needs; a partner updates its own reservations only. -/
def StayOp.KeepsMeals (s : ConnectStore) : StayOp → Prop
  | .partner _ partnerId id (.update dto) _ => ∀ cur, s.hotel.reservations.find id = some cur →
      cur.channelManaged = true → cur.partnerId = some partnerId →
        KarsHotel.KeepsMeals s id (dto.toUpdate cur.version) dto.options
  | .cabinet (.update id dto opts _) => KarsHotel.KeepsMeals s id dto opts
  | _ => True

/-! ## The dates of a row -/

section Dates

variable {h : Hotel} {op : Op} {r r' : Reservation}

structure SameDates (r r' : Reservation) : Prop where
  checkIn : r'.checkIn = r.checkIn
  checkOut : r'.checkOut = r.checkOut

theorem SameDates.stamp (hd : SameDates r r') (moment : Moment) (fact : Fact) :
    SameDates r (r'.stamp moment fact) := by
  cases fact <;> exact ⟨hd.checkIn, hd.checkOut⟩

theorem result_dates (dto : UpdateReservationDto) (cur : Reservation) (stay : PartnerStayInfo)
    (now : Moment) (roomTypeId : RoomTypeId) (p : ℕ) :
    (dto.result cur stay now roomTypeId p cur).checkIn = dateOf (dto.finalCheckIn cur) ∧
      (dto.result cur stay now roomTypeId p cur).checkOut = dateOf (dto.finalCheckOut cur) := by
  unfold UpdateReservationDto.result
  cases dto.fact cur with
  | none => exact ⟨rfl, rfl⟩
  | some fact => cases fact <;> exact ⟨rfl, rfl⟩

/-- **Only an update moves a stay.** -/
theorem dates_step (hr : r ∈ h.reservations) (hr' : r' ∈ (step h op).reservations)
    (hid : r'.id = r.id) : SameDates r r' ∨ ∃ dto opts now, op = .update r.id dto opts now ∧
      UpdateAdmitted h r.id dto opts r ∧ r'.checkIn = dateOf (dto.finalCheckIn r) ∧
        r'.checkOut = dateOf (dto.finalCheckOut r) := by
  have same : ∀ {x : Reservation}, x ∈ h.reservations → x.id = r.id → x = r := fun hx hxid =>
    Table.eq_of_key hx hr hxid
  cases rowOrigin hr' with
  | kept _ hmem =>
    rw [same hmem hid]
    exact Or.inl ⟨rfl, rfl⟩
  | created _ _ _ ha =>
    have hnone := Table.find_eq_none.mp (Hotel.find_of_accepts ha) r hr
    exact absurd hid.symm hnone
  | @updated id dto opts now cur p roomTypeId hcur hv hd hf hc hp hg =>
    obtain ⟨hmem, hcid⟩ := Table.find_eq_some.mp hcur
    obtain rfl : cur = r := same hmem ((dto.result_id cur opts.stay now roomTypeId p cur).symm.trans hid)
    obtain ⟨hin, hout⟩ := result_dates dto cur opts.stay now roomTypeId p
    exact Or.inr ⟨dto, opts, now, by rw [hcid], ⟨hv, hg, hd, hcid ▸ hf, hc, p, hcid ▸ hp⟩, hin, hout⟩
  | @swapped dto x hx p =>
    rw [same hx hid]
    exact Or.inl ⟨rfl, rfl⟩
  | @cancelled id reason fromChannel cur hcur =>
    rw [same (Table.find_eq_some.mp hcur).1 hid]
    exact Or.inl ⟨rfl, rfl⟩
  | @recorded id fact moment now cur hcur hf =>
    have hcid : cur.id = r.id := by
      rw [Reservation.stamp_id] at hid
      exact hid
    rw [same (Table.find_eq_some.mp hcur).1 hcid]
    have hsame : SameDates r (r.withStatus fact.status) := ⟨rfl, rfl⟩
    exact Or.inl (hsame.stamp _ _)

end Dates

/-! ## The operations of the service -/

section Service

variable {s : ConnectStore} {op : Op}

/-- **An operation that leaves the meal days inside keeps the rule.** -/
theorem MealsInside.service (hs : MealsInside s)
    (hok : ∀ id dto opts now, op = .update id dto opts now → KeepsMeals s id dto opts) :
    MealsInside { s with hotel := step s.hotel op } := by
  refine ⟨fun m hm => ?_, hs.once, hs.portions⟩
  obtain ⟨r, hr, hin, hout⟩ := hs.inside m hm
  obtain ⟨hmem, hid⟩ := Table.find_eq_some.mp hr
  obtain ⟨r', hr', hid'⟩ := exists_row_step op hmem
  refine ⟨r', Table.find_eq_some.mpr ⟨hr', hid'.trans hid⟩, ?_⟩
  rcases dates_step hmem hr' hid' with hsame | ⟨dto, opts, now, hop, hadmitted, hin', hout'⟩
  · rw [hsame.checkIn, hsame.checkOut]
    exact ⟨hin, hout⟩
  · rw [hin', hout']
    exact hok _ dto opts now hop r (by rw [hid]; exact hr) hadmitted m hm hid.symm

end Service

/-! ## A partner's calls, run alone -/

section Calls

open Prog

variable {tenant : TenantRow} {id : ReservationId} {partnerId : PartnerId} {env : CallEnv}
  {s c : ConnectStore} {α : Type} {Q : α → ConnectStore → ConnectStore → Prop}
  {X : Failure → ConnectStore → ConnectStore → Prop}

/-- The row the partner may see. -/
def ConnectStore.Own (s : ConnectStore) (partnerId : PartnerId) (id : ReservationId)
    (r : Reservation) : Prop :=
  s.hotel.reservations.find id = some r ∧ r.channelManaged = true ∧ r.partnerId = some partnerId

theorem alone_service {t : Tx (hotelDb Unit) Failure α} {v : ConnectStore} :
    (service t).Alone env Q X c v ↔ match t.exec v.hotel with
      | .ok (a, h) => Q a { v with hotel := h } { v with hotel := h }
      | .error x => X x c c := by
  have hget : (hotelPart fun _ : CallEnv => ()).get v = v.hotel := rfl
  rw [service, transact_within, alone_transact, Tx.exec_within, hget]
  cases t.exec v.hotel <;> exact Iff.rfl

/-- `getReservation` reads a reservation of the partner, or there is none. -/
theorem alone_getReservation : (getReservation tenant id partnerId).Alone env
    (fun a c' v' => c' = c ∧ v' = c ∧
      ∃ r number, c.Own partnerId id r ∧ a = mapReservation tenant r number)
    (fun _ c' v' => c' = c ∧ v' = c ∧ ∀ r, ¬c.Own partnerId id r) c c := by
  rw [getReservation, alone_bind, readReservation, alone_transact, Tx.exec_read, Tx.exec_ret]
  cases hr : c.hotel.reservations.find id with
  | none => exact ⟨rfl, rfl, fun r h => by rw [h.1] at hr; cases hr⟩
  | some r =>
    dsimp only [Option.map_some]
    by_cases hhidden : !r.channelManaged ∨ r.partnerId ≠ some partnerId
    · rw [if_pos hhidden]
      refine ⟨rfl, rfl, fun r' h => ?_⟩
      obtain rfl : r = r' := Option.some.inj (hr.symm.trans h.1)
      simp [h.2.1, h.2.2] at hhidden
    · rw [if_neg hhidden]
      have hown : r.channelManaged = true ∧ r.partnerId = some partnerId := by simpa using hhidden
      exact ⟨rfl, rfl, r, _, ⟨hr, hown⟩, rfl⟩

theorem alone_getReservation_bind {g : ReservationView → Prog connectDb Failure α}
    (hg : ∀ r number, c.Own partnerId id r → (g (mapReservation tenant r number)).Alone env Q X c c)
    (hX : ∀ x, X x c c) : (getReservation tenant id partnerId >>= g).Alone env Q X c c := by
  rw [alone_bind]
  refine Alone.mono env alone_getReservation (fun a c' v' h => ?_) fun x c' v' h => ?_
  · obtain ⟨rfl, rfl, r, number, hown, rfl⟩ := h
    exact hg r number hown
  · obtain ⟨rfl, rfl, -⟩ := h
    exact hX x

theorem alone_getReservation_reads {P : ConnectStore → Prop} (hP : P c) :
    (getReservation tenant id partnerId).Alone env (fun _ c' _ => P c') (fun _ c' _ => P c') c c := by
  refine Alone.mono env alone_getReservation (fun a c' v' h => ?_) fun x c' v' h => ?_
  · exact h.1 ▸ hP
  · exact h.1 ▸ hP

/-! ### A meal call -/

/-- The days of a plan that a stay accepts: inside it, each named once. -/
structure PlanAccepted (r : Reservation) (days : List ConnectMealDayDto) : Prop where
  inside : ∀ d ∈ days, r.checkIn ≤ d.date ∧ d.date ≤ r.checkOut
  once : (days.map (·.date)).Nodup

theorem firstDuplicate_eq_none {seen days : List Day} :
    firstDuplicate seen days = none ↔ days.Nodup ∧ ∀ d ∈ days, d ∉ seen := by
  induction days generalizing seen with
  | nil => simp [firstDuplicate]
  | cons d days ih =>
    by_cases hd : d ∈ seen
    · simp [firstDuplicate, hd]
    · simp only [firstDuplicate, if_neg hd, ih, List.nodup_cons, List.mem_cons, not_or,
        forall_eq_or_imp]
      constructor
      · rintro ⟨hnodup, hnot⟩
        exact ⟨⟨fun hmem => (hnot d hmem).1 rfl, hnodup⟩, hd, fun x hx => (hnot x hx).2⟩
      · rintro ⟨⟨hnew, hnodup⟩, -, hnot⟩
        exact ⟨hnodup, fun x hx => ⟨fun he => hnew (he ▸ hx), hnot x hx⟩⟩

/-- **A meal call is refused and changes nothing, or replaces the plan** by days the
stay accepts. -/
theorem setReservationMeals_alone (days : List ConnectMealDayDto) :
    (setReservationMeals tenant id partnerId days).Alone env
      (fun _ c _ => c = s.setMeals id (mealRows id days) ∧
        ∃ r, s.Own partnerId id r ∧ PlanAccepted r days)
      (fun _ c _ => c = s) s s := by
  refine alone_getReservation_bind (fun r number hown => ?_) fun _ => rfl
  dsimp only
  cases hout : (days.map (·.date)).filter fun day => decide
      (day < (mapReservation tenant r number).checkIn ∨
        day > (mapReservation tenant r number).checkOut) with
  | cons d ds => exact rfl
  | nil =>
    dsimp only
    cases hdup : firstDuplicate [] (days.map (·.date)) with
    | some d => exact rfl
    | none =>
      have haccepted : PlanAccepted r days := by
        refine ⟨fun d hd => ?_, (firstDuplicate_eq_none.mp hdup).1⟩
        have hd := List.filter_eq_nil_iff.mp hout d.date (List.mem_map_of_mem hd)
        simp only [decide_eq_true_eq, not_or, not_lt, gt_iff_lt] at hd
        exact hd
      dsimp only
      rw [alone_bind, alone_transact, replaceMeals, Tx.exec_write, Tx.exec_ret]
      dsimp only
      rw [getReservationMeals, alone_bind]
      -- the reservation is still there: the answer is read from the new plan
      refine Alone.mono env alone_getReservation (fun a c' v' h => ?_) fun x c' v' h => ?_
      · obtain ⟨rfl, rfl, -⟩ := h
        rw [alone_bind, alone_transact, readMeals, Tx.exec_read, Tx.exec_ret]
        exact ⟨rfl, r, hown, haccepted⟩
      · exact absurd hown (h.2.2 r)

theorem mem_of_mem_foldl_insert {t : Table MealDay.key} {rows : List MealDay} {m : MealDay}
    (hm : m ∈ rows.foldl Table.insert t) : m ∈ t ∨ m ∈ rows := by
  induction rows generalizing t with
  | nil => exact Or.inl hm
  | cons x rows ih =>
    rcases ih hm with hm | hm
    · rcases Table.mem_of_mem_insert hm with hm | rfl
      · exact Or.inl hm
      · exact Or.inr List.mem_cons_self
    · exact Or.inr (List.mem_cons_of_mem x hm)

/-- **A replaced plan keeps the rule.** -/
theorem MealsInside.setMeals (hs : MealsInside s) {r : Reservation} {days : List ConnectMealDayDto}
    (hown : s.Own partnerId id r) (hd : PlanAccepted r days) :
    MealsInside (s.setMeals id (mealRows id days)) := by
  have hmem : ∀ m ∈ (s.setMeals id (mealRows id days)).meals, m ∈ s.meals ∨
      (m.reservationId = id ∧ r.checkIn ≤ m.date ∧ m.date ≤ r.checkOut ∧
        0 < m.breakfast + m.lunch + m.dinner) := by
    intro m hm
    rcases mem_of_mem_foldl_insert hm with hm | hm
    · exact Or.inl (Table.mem_remove.mp hm).1
    · obtain ⟨d, hd', rfl⟩ := List.mem_map.mp hm
      obtain ⟨hd', hpos⟩ := List.mem_filter.mp hd'
      obtain ⟨hin, hout⟩ := hd.inside d hd'
      exact Or.inr ⟨rfl, hin, hout, of_decide_eq_true hpos⟩
  refine ⟨fun m hm => ?_, fun m hm m' hm' hid hdate => ?_, fun m hm => ?_⟩
  · rcases hmem m hm with h | ⟨hid, hin, hout, -⟩
    · exact hs.inside m h
    · exact ⟨r, by rw [hid]; exact hown.1, hin, hout⟩
  · exact Table.eq_of_key hm hm' (Prod.ext hid hdate)
  · rcases hmem m hm with h | ⟨-, -, -, hpos⟩
    · exact hs.portions m h
    · exact hpos

/-! ### The other calls -/

theorem alone_op (op : Op) {t : Tx (hotelDb Unit) Failure α} {P : ConnectStore → Prop}
    (hstep : ∀ a h, t.exec c.hotel = .ok (a, h) → h = step c.hotel op)
    (hP : P c) (hP' : P { c with hotel := step c.hotel op }) :
    (service t).Alone env (fun _ c' v' => P c' ∧ v' = c') (fun _ c' _ => P c') c c := by
  rw [alone_service]
  cases hx : t.exec c.hotel with
  | error x => exact hP
  | ok p =>
    refine ⟨?_, rfl⟩
    rw [hstep p.1 p.2 hx]
    exact hP'

/-- **Every call of a partner keeps the rule.** -/
theorem call_keeps (hs : MealsInside s) {request : PartnerRequest}
    (hok : (StayOp.partner tenant partnerId id request env).KeepsMeals s) :
    (request.call tenant partnerId id).Alone env (fun _ c _ => MealsInside c)
      (fun _ c _ => MealsInside c) s s := by
  have reads : ∀ {c : ConnectStore} {g : ReservationView → Prog connectDb Failure PartnerAnswer},
      MealsInside c → (∀ a, (g a).Alone env (fun _ c _ => MealsInside c)
        (fun _ c _ => MealsInside c) c c) → (getReservation tenant id partnerId >>= g).Alone env
          (fun _ c _ => MealsInside c) (fun _ c _ => MealsInside c) c c :=
    fun hc hg => alone_getReservation_bind (fun _ _ _ => hg _) fun _ => hc
  cases request with
  | get =>
    rw [PartnerRequest.call]
    exact reads hs fun _ => hs
  | getMeals =>
    rw [PartnerRequest.call, getReservationMeals, Prog.bind_assoc]
    exact reads hs fun _ => hs
  | getFacts =>
    rw [PartnerRequest.call, KarsHotel.getFacts, Prog.bind_assoc]
    exact reads hs fun _ => hs
  | setMeals days =>
    rw [PartnerRequest.call, alone_bind]
    refine Alone.mono env (setReservationMeals_alone days) (fun a c v h => ?_) fun x c v h => ?_
    · obtain ⟨rfl, r, hown, hd⟩ := h
      exact hs.setMeals hown hd
    · rw [h]
      exact hs
  | cancel reason =>
    rw [PartnerRequest.call, cancelReservation, Prog.bind_assoc]
    refine reads hs fun _ => ?_
    rw [alone_bind, alone_bind]
    refine Alone.mono env (alone_op (.cancel id reason true) (fun a h hx => ?_) hs
      (hs.service fun _ _ _ _ h => by cases h)) (fun a c v h => h.1) fun x c v h => h
    obtain ⟨_, h', hc, hret⟩ := Tx.exec_bind_ok hx
    cases hret
    have hc : ((Op.cancel id reason true).body (E := Unit)).exec s.hotel = .ok (_, h) := hc
    simp only [step, hc]
  | update dto =>
    rw [PartnerRequest.call, updateReservation, Prog.bind_assoc]
    refine alone_getReservation_bind (fun r number hown => ?_) fun _ => hs
    rw [alone_bind, alone_bind, alone_transact, readReservation, Tx.exec_read, Tx.exec_ret, hown.1]
    dsimp only [Option.map_some]
    rw [if_neg (by simp [hown.2.1]), alone_ask, alone_bind]
    refine Alone.mono env (alone_op (.update id (dto.toUpdate r.version) dto.options env.now)
      (fun a h hx => ?_) hs (hs.service fun k d o n h => ?_)) (fun a c v h => ?_) fun x c v h => h
    · have hx : ((Op.update id (dto.toUpdate r.version) dto.options env.now).body (E := Unit)).exec
        s.hotel = .ok (a, h) := hx
      simp only [step, hx]
    · cases h
      exact hok r hown.1 hown.2.1 hown.2.2
    · obtain ⟨hc, rfl⟩ := h
      exact alone_getReservation_reads hc
  | recordStayFact fact moment =>
    rw [PartnerRequest.call, KarsHotel.recordStayFact, Prog.bind_assoc]
    refine reads hs fun a => ?_
    rw [alone_bind, alone_ask]
    by_cases hfuture : moment.getD env.now > env.now + factTolerance
    · rw [if_pos hfuture]
      exact hs
    rw [if_neg hfuture]
    have facts : ∀ {c : ConnectStore}, MealsInside c →
        (KarsHotel.getFacts tenant id partnerId).Alone env (fun _ c _ => MealsInside c)
          (fun _ c _ => MealsInside c) c c := fun hc =>
      alone_getReservation_bind (fun _ _ _ => hc) fun _ => hc
    by_cases hdone : a.status ∉ fact.done
    · rw [if_pos hdone, alone_bind]
      refine Alone.mono env (alone_op (.recordFact id fact.fact (some (moment.getD env.now)) env.now)
        (fun b h hx => ?_) hs (hs.service fun _ _ _ _ h => by cases h)) (fun b c v h => ?_)
        fun x c v h => h
      · have hx : ((Op.recordFact id fact.fact (some (moment.getD env.now)) env.now).body
          (E := Unit)).exec s.hotel = .ok (b, h) := hx
        simp only [step, hx]
      · obtain ⟨hc, rfl⟩ := h
        exact facts hc
    · rw [if_neg hdone]
      exact facts hs

end Calls

/-! ## Runs -/

section Runs

variable {s : ConnectStore}

/-- **One step** keeps the rule. -/
theorem mealsInside_step (hs : MealsInside s) {op : StayOp} (hok : op.KeepsMeals s) :
    MealsInside (op.step s) := by
  cases op with
  | partner tenant partnerId id request env =>
    have hk := call_keeps hs hok
    rw [StayOp.step, Prog.run_eq_eval]
    unfold Prog.Alone at hk
    cases he : (request.call tenant partnerId id).eval env s s with
    | mk r p =>
      rw [he] at hk
      cases r <;> exact hk
  | cabinet op =>
    refine hs.service fun id dto opts now hop => ?_
    subst hop
    exact hok

/-- A refused meal call leaves the store, and with it the meal plan, as it was. -/
theorem setReservationMeals_refused {tenant : TenantRow} {partnerId : PartnerId}
    {id : ReservationId} {days : List ConnectMealDayDto} {env : CallEnv} {x : Failure}
    (hx : ((setReservationMeals tenant id partnerId days).run env s s).1 = .error x) :
    ((setReservationMeals tenant id partnerId days).run env s s).2 = s := by
  have hk : (setReservationMeals tenant id partnerId days).Alone env _ _ s s :=
    setReservationMeals_alone days
  rw [Prog.run_eq_eval] at hx ⊢
  unfold Prog.Alone at hk
  cases he : (setReservationMeals tenant id partnerId days).eval env s s with
  | mk r p =>
    rw [he] at hk hx
    cases r with
    | ok a => cases hx
    | error y => exact hk

/-- **Meals stay inside the stay** in every run whose updates leave the stored meal days inside the
dates they set; a refused meal call changes nothing in any state. -/
theorem mealsInside_run {ops : List StayOp} (hs : MealsInside s)
    (hok : StepsMeet StayOp.step (fun s op => op.KeepsMeals s) s ops) :
    MealsInside (ops.foldl StayOp.step s) ∧
      ∀ (tenant : TenantRow) (partnerId : PartnerId) (id : ReservationId)
        (days : List ConnectMealDayDto) (env : CallEnv) (x : Failure),
        ((setReservationMeals tenant id partnerId days).run env (ops.foldl StayOp.step s)
          (ops.foldl StayOp.step s)).1 = .error x →
        ((setReservationMeals tenant id partnerId days).run env (ops.foldl StayOp.step s)
          (ops.foldl StayOp.step s)).2 = ops.foldl StayOp.step s :=
  ⟨foldl_keeps (P := MealsInside) (fun _ _ hP hok => mealsInside_step hP hok) hs hok,
    fun _ _ _ _ _ _ hx => setReservationMeals_refused hx⟩

end Runs

/-! ### Small runs -/

/-- A hotel with one reservation of partner 7 for the night of day 0. -/
def ConnectStore.partnersNight : ConnectStore :=
  { ConnectStore.oneRoom with
    hotel := run (.oneRoom false) [.create .oneNight .empty (some ⟨7, none⟩) 1] }

def StayOp.ofPartner (request : PartnerRequest) : StayOp :=
  .partner ⟨⟨1, "hotel"⟩, "RUB", true⟩ 7 1 request .noPlans

def StayOp.breakfast : StayOp := .ofPartner (.setMeals [⟨0, 1, 0, 0⟩])

def StayOp.move (checkIn checkOut : Day) : StayOp := .ofPartner (.update
  ⟨.val (.ofDay checkIn), .val (.ofDay checkOut), .undefined, .undefined, .undefined, .undefined,
    .undefined, .undefined, .undefined, .undefined, .undefined, .undefined, .undefined⟩)

theorem mealsInside_partnersNight : MealsInside .partnersNight :=
  ⟨fun m hm => absurd hm (Table.not_mem_empty m), fun m hm => absurd hm (Table.not_mem_empty m),
    fun m hm => absurd hm (Table.not_mem_empty m)⟩

/-- A stay made longer keeps its breakfast. -/
theorem mealsInside_run_longer :
    MealsInside ([StayOp.breakfast, .move 0 2].foldl StayOp.step .partnersNight) := by
  have hmeet : StepsMeet StayOp.step (fun s op => op.KeepsMeals s) .partnersNight
      [.breakfast, .move 0 2] → MealsInside
        ([StayOp.breakfast, .move 0 2].foldl StayOp.step .partnersNight) := fun h =>
    (mealsInside_run mealsInside_partnersNight h).1
  refine hmeet ⟨trivial, ?_, trivial⟩
  intro cur _ _ _ cur' _ _ m hm _
  have hrows : (StayOp.breakfast.step .partnersNight).meals.rows = [⟨1, 0, 1, 0, 0⟩] := by
    decide +kernel
  have hday : m.date = 0 := by
    rw [Table.mem_def, hrows, List.mem_singleton] at hm
    rw [hm]
  rw [hday]
  exact (by decide : dateOf (parseISO (.ofDay 0)) ≤ 0 ∧ 0 ≤ dateOf (parseISO (.ofDay 2)))

/-- **A moved stay leaves its breakfast behind.** -/
theorem movedStay_leavesMeals : MealsInside .partnersNight ∧
    ¬MealsInside ([StayOp.breakfast, .move 5 6].foldl StayOp.step .partnersNight) := by
  refine ⟨mealsInside_partnersNight, fun h => ?_⟩
  have hmeal : (⟨1, 0, 1, 0, 0⟩ : MealDay) ∈
      ([StayOp.breakfast, .move 5 6].foldl StayOp.step .partnersNight).meals.rows := by
    decide +kernel
  have hmoved : (([StayOp.breakfast, .move 5 6].foldl StayOp.step
      .partnersNight).hotel.reservations.find 1).map Reservation.checkIn = some 5 := by
    decide +kernel
  obtain ⟨r, hr, hin, -⟩ := h.inside _ hmeal
  rw [hr] at hmoved
  have hmoved : r.checkIn = 5 := Option.some.inj hmoved
  rw [hmoved] at hin
  exact absurd hin (by decide)

end KarsHotel
