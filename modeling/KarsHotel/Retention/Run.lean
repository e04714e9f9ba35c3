import KarsHotel.Retention.Rules

/-!
# Retention erases what is due and nothing else

* `OnlyErases`: what no run changes; `due`: how many rows a rule would select;
* `RuleDeed`, `deed_of_apply`: what the action of a rule does;
* `runRules_onlyErases`, `runRules_due`: a run, by induction on its rules;
* **`retention_run`**: a run leaves nothing due, a second one does nothing, a dry one counts.
-/

namespace KarsHotel

/-! ## What no run changes -/

/-- The stay is to come or under way. -/
def TenantReservation.isLive (r : TenantReservation) : Bool :=
  [ReservationStatus.new, .confirmed, .checkedIn].contains r.status

/-- The hotels, folios and charges stay; reservations keep all but the guest's data, and live ones
that too; payments keep all but their notes. -/
structure OnlyErases (s s' : RetentionStore) : Prop where
  tenants : s'.tenants = s.tenants
  folios : s'.folios = s.folios
  charges : s'.charges = s.charges
  reservations : s'.reservations.rows.map anonymizeGuest = s.reservations.rows.map anonymizeGuest
  live : s'.reservations.select TenantReservation.isLive =
    s.reservations.select TenantReservation.isLive
  payments : s'.payments.rows.map eraseNote = s.payments.rows.map eraseNote

section Erasing

variable {s s₁ s₂ : RetentionStore} {now : Moment}

theorem OnlyErases.refl (s : RetentionStore) : OnlyErases s s := ⟨rfl, rfl, rfl, rfl, rfl, rfl⟩

theorem OnlyErases.trans (h : OnlyErases s s₁) (h' : OnlyErases s₁ s₂) : OnlyErases s s₂ where
  tenants := h'.tenants.trans h.tenants
  folios := h'.folios.trans h.folios
  charges := h'.charges.trans h.charges
  reservations := h'.reservations.trans h.reservations
  live := h'.live.trans h.live
  payments := h'.payments.trans h.payments

theorem not_live_of_status {l : List ReservationStatus} {r : TenantReservation}
    (hl : ∀ st ∈ l, [ReservationStatus.new, .confirmed, .checkedIn].contains st = false)
    (h : l.contains r.status = true) : r.isLive = false :=
  hl r.status (by simpa using h)

theorem cancelledRipe_not_live {r : TenantReservation} (h : cancelledRipe s now r = true) :
    r.isLive = false := by
  obtain ⟨t, -, h⟩ := (Option.any_eq_true _ _).mp h
  simp only [Bool.and_eq_true] at h
  exact not_live_of_status (by decide) h.1.1.1

theorem contactsRipe_not_live {r : TenantReservation} (h : contactsRipe s now r = true) :
    r.isLive = false := by
  obtain ⟨t, -, h⟩ := (Option.any_eq_true _ _).mp h
  simp only [Bool.and_eq_true] at h
  exact not_live_of_status (by decide) h.1.1

theorem folioNameRipe_not_live {r : TenantReservation} (h : folioNameRipe now r = true) :
    r.isLive = false := by
  simp only [folioNameRipe, Bool.and_eq_true] at h
  exact not_live_of_status (by decide) h.1.1

/-- A rewriting of guests' data where they are not live. -/
theorem confined_reservations {ripe : TenantReservation → Bool}
    {f : TenantReservation → TenantReservation} (hf : ∀ r, (f r).key = r.key)
    (hripe : ∀ r, ripe r = true → r.isLive = false) (hstatus : ∀ r, (f r).status = r.status)
    (hguest : ∀ r, anonymizeGuest (f r) = anonymizeGuest r) :
    (s.reservations.updateMany ripe f hf).rows.map anonymizeGuest =
        s.reservations.rows.map anonymizeGuest ∧
      (s.reservations.updateMany ripe f hf).select TenantReservation.isLive =
        s.reservations.select TenantReservation.isLive := by
  constructor
  · exact Table.map_updateMany fun r _ _ => hguest r
  · refine Table.filter_updateMany fun r _ hr => ⟨hripe r hr, ?_⟩
    rw [TenantReservation.isLive, hstatus]
    exact hripe r hr

theorem anonymizeGuests_onlyErases {ripe : TenantReservation → Bool}
    (hripe : ∀ r, ripe r = true → r.isLive = false) : OnlyErases s (anonymizeGuests s ripe).1 := by
  have h := confined_reservations (s := s) anonymizeGuest_key hripe (fun _ => rfl) fun _ => rfl
  refine ⟨rfl, rfl, rfl, h.1, h.2, ?_⟩
  exact Table.map_updateMany (t := s.payments) (f := eraseNote) (h := eraseNote_key) fun _ _ _ => rfl

theorem eraseGuestContacts_onlyErases {ripe : TenantReservation → Bool}
    (hripe : ∀ r, ripe r = true → r.isLive = false) : OnlyErases s (eraseGuestContacts s ripe).1 := by
  have h := confined_reservations (s := s) eraseContacts_key hripe (fun _ => rfl) fun _ => rfl
  exact ⟨rfl, rfl, rfl, h.1, h.2, rfl⟩

end Erasing

/-! ## What is due -/

/-- How many rows a rule would select. -/
def RetentionRule.due (rule : RetentionRule) (s : RetentionStore) (now : Moment) : ℕ :=
  ((rule.count s now).map (·.2)).sum

section Due

variable {s s₁ : RetentionStore} {now : Moment}

theorem sum_byTenant (rows : List TenantId) : ((byTenant rows).map (·.2)).sum = rows.length := by
  rw [byTenant, List.map_map]
  exact List.sum_map_count_dedup_eq_length rows

theorem sum_countRipe (ripe : TenantReservation → Bool) :
    ((countRipe s ripe).map (·.2)).sum = s.reservations.rows.countP ripe := by
  rw [countRipe, sum_byTenant, List.length_map, List.countP_eq_length_filter]
  rfl

/-- No rule has more due than before. -/
structure DueLe (s s₁ : RetentionStore) (now : Moment) : Prop where
  cancelled : s₁.reservations.rows.countP (cancelledRipe s₁ now) ≤
    s.reservations.rows.countP (cancelledRipe s now)
  contacts : s₁.reservations.rows.countP (contactsRipe s₁ now) ≤
    s.reservations.rows.countP (contactsRipe s now)
  names : s₁.reservations.rows.countP (folioNameRipe now) ≤
    s.reservations.rows.countP (folioNameRipe now)
  journal : s₁.auditLog.countP (orphanRipe now) ≤ s.auditLog.countP (orphanRipe now)
  sessions : s₁.refreshTokens.rows.countP (sessionRipe now) ≤
    s.refreshTokens.rows.countP (sessionRipe now)
  staff : s₁.users.rows.countP (staffRipe now) ≤ s.users.rows.countP (staffRipe now)

theorem DueLe.due (h : DueLe s s₁ now) {rule : RetentionRule} (hrule : rule ∈ RULES) :
    rule.due s₁ now ≤ rule.due s now := by
  simp only [RULES, List.mem_cons, List.not_mem_nil, or_false] at hrule
  rcases hrule with rfl | rfl | rfl | rfl | rfl | rfl
  · simpa only [RetentionRule.due, sum_countRipe] using h.cancelled
  · simpa only [RetentionRule.due, sum_countRipe] using h.contacts
  · simpa only [RetentionRule.due, sum_countRipe] using h.names
  · simpa [RetentionRule.due] using h.journal
  · simpa only [RetentionRule.due, sum_byTenant, List.length_map, Table.select,
      ← List.countP_eq_length_filter] using h.sessions
  · simpa only [RetentionRule.due, sum_byTenant, List.length_map, Table.select,
      ← List.countP_eq_length_filter] using h.staff

theorem countP_scrubJournal (log : List AuditEntry) (ids : List IdText) (keys : List String) :
    (scrubJournal log ids keys).countP (orphanRipe now) = log.countP (orphanRipe now) := by
  rw [scrubJournal, List.countP_map]
  congr 1
  funext e
  show orphanRipe now (if e.about ids then _ else e) = orphanRipe now e
  split <;> rfl

theorem cancelledRipe_anonymizeGuest (s : RetentionStore) (r : TenantReservation) :
    cancelledRipe s now (anonymizeGuest r) = false := by
  simp [cancelledRipe, anonymizeGuest]

theorem contactsRipe_anonymizeGuest (s : RetentionStore) (r : TenantReservation) :
    contactsRipe s now (anonymizeGuest r) = false := by
  simp [contactsRipe, anonymizeGuest]

theorem folioNameRipe_anonymizeGuest (r : TenantReservation) :
    folioNameRipe now (anonymizeGuest r) = false := by
  simp [folioNameRipe, anonymizeGuest]

theorem contactsRipe_eraseContacts (s : RetentionStore) (r : TenantReservation) :
    contactsRipe s now (eraseContacts r) = false := by
  simp [contactsRipe, eraseContacts]

theorem anonymizeGuests_dueLe (s : RetentionStore) (ripe : TenantReservation → Bool) :
    DueLe s (anonymizeGuests s ripe).1 now where
  cancelled := Table.countP_updateMany_le (h := anonymizeGuest_key) fun r _ _ hr =>
    Bool.noConfusion (hr.symm.trans (cancelledRipe_anonymizeGuest s r))
  contacts := Table.countP_updateMany_le (h := anonymizeGuest_key) fun r _ _ hr =>
    Bool.noConfusion (hr.symm.trans (contactsRipe_anonymizeGuest s r))
  names := Table.countP_updateMany_le (h := anonymizeGuest_key) fun r _ _ hr =>
    Bool.noConfusion (hr.symm.trans (folioNameRipe_anonymizeGuest r))
  journal := le_of_eq (countP_scrubJournal _ _ _)
  sessions := le_rfl
  staff := le_rfl

theorem eraseGuestContacts_dueLe (s : RetentionStore) (ripe : TenantReservation → Bool) :
    DueLe s (eraseGuestContacts s ripe).1 now where
  cancelled := Table.countP_updateMany_le (h := eraseContacts_key) fun _ _ _ hr => hr
  contacts := Table.countP_updateMany_le (h := eraseContacts_key) fun r _ _ hr =>
    Bool.noConfusion (hr.symm.trans (contactsRipe_eraseContacts s r))
  names := Table.countP_updateMany_le (h := eraseContacts_key) fun _ _ _ hr => hr
  journal := le_of_eq (countP_scrubJournal _ _ _)
  sessions := le_rfl
  staff := le_rfl

theorem dismissStaff_ok {users users' : Table StaffUser.id} {us : List StaffUser}
    (h : dismissStaff users us = .ok users') :
    users'.rows = users.rows.map fun u =>
      if (us.map (·.id)).contains u.id then anonymizeStaff u else u := by
  induction us generalizing users with
  | nil =>
    cases h
    simp
  | cons u us ih =>
    unfold dismissStaff at h
    split at h
    · cases h
    · rw [ih h, Table.modify, List.map_map]
      refine List.map_congr_left fun v _ => ?_
      show (if (us.map (·.id)).contains (if v.id = u.id then anonymizeStaff v else v).id then
        anonymizeStaff (if v.id = u.id then anonymizeStaff v else v)
        else if v.id = u.id then anonymizeStaff v else v) = _
      by_cases hv : v.id = u.id
      · simp [hv, anonymizeStaff]
      · simp [hv]

theorem staffRipe_anonymizeStaff (u : StaffUser) : staffRipe now (anonymizeStaff u) = false := by
  simp [staffRipe, anonymizeStaff]

theorem staff_done {users users' : Table StaffUser.id}
    (h : dismissStaff users (users.select (staffRipe now)) = .ok users') :
    users'.rows.countP (staffRipe now) = 0 := by
  rw [dismissStaff_ok h, List.countP_map, List.countP_eq_zero]
  intro u hu
  show ¬staffRipe now (if _ then anonymizeStaff u else u) = true
  by_cases hin : ((users.select (staffRipe now)).map (·.id)).contains u.id = true
  · rw [if_pos hin, staffRipe_anonymizeStaff]
    decide
  · rw [if_neg hin]
    intro hripe
    exact hin (by simpa using ⟨u, ⟨hu, hripe⟩, rfl⟩)

/-- What the action of a rule does. -/
structure RuleDeed (rule : RetentionRule) (s s₁ : RetentionStore) (now : Moment)
    (rows : TenantCounts) : Prop where
  rows : rows = rule.count s now
  onlyErases : OnlyErases s s₁
  dueLe : DueLe s s₁ now
  done : rule.due s₁ now = 0

/-- **The action of a rule** touches the rows that it counts, leaves none of them due, and makes no
other row due. -/
theorem deed_of_apply {rule : RetentionRule} (hrule : rule ∈ RULES) {rows : TenantCounts}
    (h : rule.apply s now = .ok (s₁, rows)) : RuleDeed rule s s₁ now rows := by
  simp only [RULES, List.mem_cons, List.not_mem_nil, or_false] at hrule
  rcases hrule with rfl | rfl | rfl | rfl | rfl | rfl
  · cases h
    refine ⟨rfl, anonymizeGuests_onlyErases fun r hr => cancelledRipe_not_live hr,
      anonymizeGuests_dueLe s _, ?_⟩
    rw [RetentionRule.due, sum_countRipe]
    exact Table.countP_updateMany_self (h := anonymizeGuest_key)
      fun r => cancelledRipe_anonymizeGuest s r
  · cases h
    refine ⟨rfl, eraseGuestContacts_onlyErases fun r hr => contactsRipe_not_live hr,
      eraseGuestContacts_dueLe s _, ?_⟩
    rw [RetentionRule.due, sum_countRipe]
    exact Table.countP_updateMany_self (h := eraseContacts_key)
      fun r => contactsRipe_eraseContacts s r
  · cases h
    refine ⟨rfl, anonymizeGuests_onlyErases fun r hr => folioNameRipe_not_live hr,
      anonymizeGuests_dueLe s _, ?_⟩
    rw [RetentionRule.due, sum_countRipe]
    exact Table.countP_updateMany_self (h := anonymizeGuest_key)
      fun r => folioNameRipe_anonymizeGuest r
  · cases h
    refine ⟨rfl, ⟨rfl, rfl, rfl, rfl, rfl, rfl⟩, ⟨le_rfl, le_rfl, le_rfl, ?_, le_rfl, le_rfl⟩, ?_⟩
    · exact List.filter_sublist.countP_le
    · simp [RetentionRule.due]
  · cases h
    refine ⟨rfl, ⟨rfl, rfl, rfl, rfl, rfl, rfl⟩, ⟨le_rfl, le_rfl, le_rfl, le_rfl, ?_, le_rfl⟩, ?_⟩
    · exact List.filter_sublist.countP_le
    · rw [RetentionRule.due, sum_byTenant]
      simp [Table.select, Table.remove]
  · cases hd : dismissStaff s.users (s.users.select (staffRipe now)) with
    | error x => simp [hd, Except.map] at h
    | ok users =>
      simp only [hd, Except.map, Except.ok.injEq, Prod.mk.injEq] at h
      obtain ⟨rfl, rfl⟩ := h
      have hzero : users.rows.countP (staffRipe now) = 0 := staff_done hd
      refine ⟨rfl, ⟨rfl, rfl, rfl, rfl, rfl, rfl⟩,
        ⟨le_rfl, le_rfl, le_rfl, le_rfl, le_rfl, ?_⟩, ?_⟩
      · show users.rows.countP (staffRipe now) ≤ _
        omega
      · rw [RetentionRule.due, sum_byTenant, List.length_map, Table.select,
          ← List.countP_eq_length_filter]
        exact hzero

end Due

/-! ## Runs -/

section Runs

variable {lock : String → Bool} {mode : RetentionMode} {s s₁ : RetentionStore} {now : Moment}
  {rule : RetentionRule}

theorem retentionEntries_tenant {rows : TenantCounts} {e : AuditEntry}
    (he : e ∈ retentionEntries mode now rule.id rows) : e.tenantId.isSome = true := by
  obtain ⟨r, -, he⟩ := List.mem_filterMap.mp he
  obtain ⟨t, -, rfl⟩ := Option.map_eq_some_iff.mp he
  rfl

theorem countP_orphan_append {log : List AuditEntry} {entries : List AuditEntry}
    (h : ∀ e ∈ entries, e.tenantId.isSome = true) :
    (log ++ entries).countP (orphanRipe now) = log.countP (orphanRipe now) := by
  have hzero : entries.countP (orphanRipe now) = 0 := by
    rw [List.countP_eq_zero]
    intro e he
    have hsome := h e he
    simp [orphanRipe, Option.isNone_eq_false_iff.mpr hsome]
  rw [List.countP_append, hzero, Nat.add_zero]

/-- The transaction of a rule that has its lock: the action or the count, and its log. -/
theorem runRule_ok (hlock : lock rule.id = true) {res : RuleResult}
    (h : runRule lock mode now s rule = .ok (s₁, res)) :
    ∃ s₀ rows, mode.exec rule now s = .ok (s₀, rows) ∧
      s₁ = { s₀ with auditLog := s₀.auditLog ++
        retentionEntries mode now rule.id (rows.filter fun r => decide (0 < r.2)) } ∧
      res = ⟨rule.id, false, rows.filter fun r => decide (0 < r.2)⟩ := by
  rw [runRule, if_pos hlock, bind_ok_iff] at h
  obtain ⟨applied, hexec, h⟩ := h
  dsimp only at h
  split at h
  · cases h
    exact ⟨applied.1, applied.2, hexec, rfl, rfl⟩
  · cases h

/-- A longer log leaves the rest of the store and what is due as it is. -/
theorem onlyErases_log (s : RetentionStore) (log : List AuditEntry) :
    OnlyErases s { s with auditLog := log } := ⟨rfl, rfl, rfl, rfl, rfl, rfl⟩

theorem dueLe_log {entries : List AuditEntry} (h : ∀ e ∈ entries, e.tenantId.isSome = true) :
    DueLe s { s with auditLog := s.auditLog ++ entries } now :=
  ⟨le_rfl, le_rfl, le_rfl, le_of_eq (countP_orphan_append h), le_rfl, le_rfl⟩

theorem exec_onlyErases (hrule : rule ∈ RULES) {rows : TenantCounts}
    (h : mode.exec rule now s = .ok (s₁, rows)) : OnlyErases s s₁ := by
  cases mode with
  | on => exact (deed_of_apply hrule h).onlyErases
  | dry =>
    cases h
    exact .refl s

theorem runRule_onlyErases (hrule : rule ∈ RULES) {res : RuleResult}
    (h : runRule lock mode now s rule = .ok (s₁, res)) : OnlyErases s s₁ := by
  by_cases hlock : lock rule.id = true
  · obtain ⟨s₀, rows, hexec, rfl, -⟩ := runRule_ok hlock h
    exact (exec_onlyErases hrule hexec).trans (onlyErases_log s₀ _)
  · rw [runRule, if_neg hlock] at h
    cases h
    exact .refl s

/-- **No run changes more than it may**, also one that fails or finds locks taken. -/
theorem runRules_onlyErases {rules : List RetentionRule} (hrules : ∀ rule ∈ rules, rule ∈ RULES)
    (s : RetentionStore) : OnlyErases s (runRules lock mode now rules s).1 := by
  induction rules generalizing s with
  | nil => exact .refl s
  | cons rule rules ih =>
    obtain ⟨hrule, hrules⟩ := List.forall_mem_cons.mp hrules
    unfold runRules
    cases hrun : runRule lock mode now s rule with
    | error x => exact .refl s
    | ok done => exact (runRule_onlyErases hrule hrun).trans (ih hrules done.1)

/-- A rule that has its lock leaves nothing due for it and makes nothing due for the others. -/
theorem runRule_due (hrule : rule ∈ RULES) (hlock : lock rule.id = true) {res : RuleResult}
    (h : runRule lock .on now s rule = .ok (s₁, res)) :
    rule.due s₁ now = 0 ∧ ∀ other ∈ RULES, other.due s₁ now ≤ other.due s now := by
  obtain ⟨s₀, rows, hexec, rfl, -⟩ := runRule_ok hlock h
  have hdeed := deed_of_apply hrule hexec
  have hlog : DueLe s₀ _ now := dueLe_log
    fun e (he : e ∈ retentionEntries .on now rule.id (rows.filter fun r => decide (0 < r.2))) =>
      retentionEntries_tenant he
  constructor
  · have := hlog.due hrule
    have := hdeed.done
    omega
  · intro other hother
    have := hlog.due hother
    have := hdeed.dueLe.due hother
    omega

/-- **After a run nothing is due** for its rules. -/
theorem runRules_due {rules : List RetentionRule} (hrules : ∀ rule ∈ rules, rule ∈ RULES)
    (hlock : ∀ id, lock id = true) {s s' : RetentionStore} {out : List RuleResult}
    (h : runRules lock .on now rules s = (s', .ok out)) :
    (∀ rule ∈ rules, rule.due s' now = 0) ∧
      ∀ other ∈ RULES, other.due s' now ≤ other.due s now := by
  induction rules generalizing s out with
  | nil =>
    cases h
    simp
  | cons rule rules ih =>
    obtain ⟨hrule, hrules⟩ := List.forall_mem_cons.mp hrules
    unfold runRules at h
    cases hrun : runRule lock .on now s rule with
    | error x => simp [hrun] at h
    | ok done =>
      simp only [hrun, Prod.mk.injEq] at h
      cases hrest : runRules lock .on now rules done.1 with
      | mk s'' res =>
        cases res with
        | error x => simp [hrest, Except.map] at h
        | ok out' =>
          simp only [hrest] at h
          obtain ⟨rfl, -⟩ := h
          obtain ⟨hdone, hle⟩ := ih hrules hrest
          obtain ⟨hown, hothers⟩ := runRule_due hrule (hlock rule.id) hrun
          constructor
          · intro r hr
            rcases List.mem_cons.mp hr with rfl | hr
            · have := hle r hrule
              omega
            · exact hdone r hr
          · intro other hother
            have := hle other hother
            have := hothers other hother
            omega

theorem scrubJournal_nil (log : List AuditEntry) (keys : List String) :
    scrubJournal log [] keys = log := by
  have hno : ∀ e : AuditEntry, e.about [] = false := by
    intro e
    cases h : e.entityId <;> simp [AuditEntry.about, h]
  rw [scrubJournal]
  refine (List.map_congr_left fun e _ => ?_).trans (List.map_id _)
  rw [hno]
  rfl

theorem anonymizeGuests_nil {ripe : TenantReservation → Bool}
    (h : s.reservations.select ripe = []) : anonymizeGuests s ripe = (s, []) := by
  have hnotes : s.payments.updateMany (fun p => ([] : List ReservationId).contains p.folioId)
      eraseNote eraseNote_key = s.payments :=
    Table.updateMany_eq_self (by simp [Table.select])
  rw [anonymizeGuests, countRipe, h, Table.updateMany_eq_self h]
  simp only [List.map_nil, hnotes, scrubJournal_nil]
  rfl

theorem eraseGuestContacts_nil {ripe : TenantReservation → Bool}
    (h : s.reservations.select ripe = []) : eraseGuestContacts s ripe = (s, []) := by
  rw [eraseGuestContacts, countRipe, h, Table.updateMany_eq_self h]
  simp only [List.map_nil, scrubJournal_nil]
  rfl

theorem select_nil_of_due {ripe : TenantReservation → Bool}
    (h : ((countRipe s ripe).map (·.2)).sum = 0) : s.reservations.select ripe = [] := by
  rw [sum_countRipe, List.countP_eq_length_filter] at h
  exact List.eq_nil_of_length_eq_zero h

/-- A rule that has nothing due does nothing and reports nothing. -/
theorem apply_of_due_zero (hrule : rule ∈ RULES) (h : rule.due s now = 0) :
    ∃ rows, rule.apply s now = .ok (s, rows) ∧ rows.filter (fun r => decide (0 < r.2)) = [] := by
  simp only [RULES, List.mem_cons, List.not_mem_nil, or_false] at hrule
  rcases hrule with rfl | rfl | rfl | rfl | rfl | rfl
  · exact ⟨[], congrArg Except.ok (anonymizeGuests_nil (select_nil_of_due h)), rfl⟩
  · exact ⟨[], congrArg Except.ok (eraseGuestContacts_nil (select_nil_of_due h)), rfl⟩
  · exact ⟨[], congrArg Except.ok (anonymizeGuests_nil (select_nil_of_due h)), rfl⟩
  · have hzero : s.auditLog.countP (orphanRipe now) = 0 := by simpa [RetentionRule.due] using h
    have hkeep : s.auditLog.filter (fun e => !orphanRipe now e) = s.auditLog := by
      rw [List.filter_eq_self]
      intro e he
      simpa using List.countP_eq_zero.mp hzero e he
    refine ⟨[(none, 0)], ?_, rfl⟩
    dsimp only
    rw [hkeep, hzero]
  · rw [RetentionRule.due, sum_byTenant, List.length_map] at h
    have hnil : s.refreshTokens.select (sessionRipe now) = [] := List.eq_nil_of_length_eq_zero h
    have hkeep : s.refreshTokens.remove (sessionRipe now) = s.refreshTokens := by
      have hrows : s.refreshTokens.rows.filter (fun t => !sessionRipe now t) =
          s.refreshTokens.rows := by
        rw [List.filter_eq_self]
        intro t ht
        simpa using List.filter_eq_nil_iff.mp hnil t ht
      cases hT : s.refreshTokens
      simpa [Table.remove, hT] using hrows
    refine ⟨[], ?_, rfl⟩
    dsimp only
    rw [hkeep, hnil]
    rfl
  · rw [RetentionRule.due, sum_byTenant, List.length_map] at h
    have hnil : s.users.select (staffRipe now) = [] := List.eq_nil_of_length_eq_zero h
    refine ⟨[], ?_, rfl⟩
    dsimp only
    rw [hnil]
    rfl

/-- Where nothing is due a run does nothing and reports nothing. -/
theorem runRules_of_nothing_due {rules : List RetentionRule} (hrules : ∀ rule ∈ rules, rule ∈ RULES)
    (hlock : ∀ id, lock id = true) (h : ∀ rule ∈ rules, rule.due s now = 0) :
    runRules lock .on now rules s = (s, .ok (rules.map fun rule => ⟨rule.id, false, []⟩)) := by
  induction rules with
  | nil => rfl
  | cons rule rules ih =>
    obtain ⟨hrule, hrules⟩ := List.forall_mem_cons.mp hrules
    obtain ⟨hdue, hdues⟩ := List.forall_mem_cons.mp h
    obtain ⟨rows, happly, hrows⟩ := apply_of_due_zero hrule hdue
    have hrun : runRule lock .on now s rule = .ok (s, ⟨rule.id, false, []⟩) := by
      rw [runRule, if_pos (hlock rule.id), RetentionMode.exec, happly]
      show (if hotelsExist s (rows.filter fun r => decide (0 < r.2)) then _ else _) = _
      have hexist : hotelsExist s [] = true := rfl
      rw [hrows, if_pos hexist]
      simp only [retentionEntries, List.filterMap_nil, List.append_nil]
    rw [runRules, hrun]
    dsimp only
    rw [ih hrules hdues]
    rfl

/-! ## Counting -/

theorem count_log (hrule : rule ∈ RULES) {entries : List AuditEntry}
    (h : ∀ e ∈ entries, e.tenantId.isSome = true) :
    rule.count { s with auditLog := s.auditLog ++ entries } now = rule.count s now := by
  simp only [RULES, List.mem_cons, List.not_mem_nil, or_false] at hrule
  rcases hrule with rfl | rfl | rfl | rfl | rfl | rfl
  · rfl
  · rfl
  · rfl
  · dsimp only
    rw [countP_orphan_append h]
  · rfl
  · rfl

/-- The report of a rule: the hotels that have rows. -/
def report (rule : RetentionRule) (s : RetentionStore) (now : Moment) : RuleResult :=
  ⟨rule.id, false, (rule.count s now).filter fun r => decide (0 < r.2)⟩

/-- **A dry run counts** for each rule what it would select, and only writes to the log. -/
theorem runRules_dry {rules : List RetentionRule} (hrules : ∀ rule ∈ rules, rule ∈ RULES)
    (hlock : ∀ id, lock id = true) {log : List AuditEntry}
    (hlog : ∀ e ∈ log, e.tenantId.isSome = true) {s' : RetentionStore} {out : List RuleResult}
    (h : runRules lock .dry now rules { s with auditLog := s.auditLog ++ log } = (s', .ok out)) :
    (∃ log', s' = { s with auditLog := s.auditLog ++ log' }) ∧
      out = rules.map fun rule => report rule s now := by
  induction rules generalizing log out with
  | nil =>
    cases h
    exact ⟨⟨log, rfl⟩, rfl⟩
  | cons rule rules ih =>
    obtain ⟨hrule, hrules⟩ := List.forall_mem_cons.mp hrules
    unfold runRules at h
    cases hrun : runRule lock .dry now { s with auditLog := s.auditLog ++ log } rule with
    | error x => simp [hrun] at h
    | ok done =>
      obtain ⟨s₀, rows, hexec, hs, hres⟩ := runRule_ok (hlock rule.id) hrun
      cases hexec
      rw [count_log hrule hlog] at hs hres
      simp only [hrun, Prod.mk.injEq] at h
      cases hrest : runRules lock .dry now rules done.1 with
      | mk s'' res =>
        cases res with
        | error x => simp [hrest, Except.map] at h
        | ok out' =>
          rw [hrest] at h
          obtain ⟨rfl, hout⟩ := h
          rw [hs, List.append_assoc] at hrest
          have htenant : ∀ e ∈ log ++ retentionEntries .dry now rule.id
              ((rule.count s now).filter fun r => decide (0 < r.2)), e.tenantId.isSome = true := by
            intro e he
            rcases List.mem_append.mp he with he | he
            · exact hlog e he
            · exact retentionEntries_tenant he
          obtain ⟨hstore, hreports⟩ := ih hrules htenant hrest
          refine ⟨hstore, ?_⟩
          cases hout
          rw [hres, hreports]
          rfl

/-! ## Completion -/

/-- Every reservation, session and member of staff is of a hotel that exists. -/
structure Housed (s : RetentionStore) : Prop where
  reservations : ∀ r ∈ s.reservations, (s.tenants.find r.tenantId).isSome = true
  sessions : ∀ t ∈ s.refreshTokens, (s.tenants.find t.tenantId).isSome = true
  staff : ∀ u ∈ s.users, (s.tenants.find u.tenantId).isSome = true

/-- Nobody else has the stand-in address of a member of staff who is due. -/
def NoStandIns (s : RetentionStore) (now : Moment) : Prop :=
  ∀ u ∈ s.users, staffRipe now u = true → ∀ v ∈ s.users, v.email = removedEmail u.id → v.id = u.id

theorem removedEmail_injective : Function.Injective removedEmail := by
  intro m n h
  have hlist := congrArg String.toList h
  simp only [removedEmail, String.toList_append, List.append_cancel_right_eq,
    List.append_cancel_left_eq] at hlist
  have hnum : JsonNumber.ofNat m = JsonNumber.ofNat n := by
    apply JsonNumber.ext
    exact String.toList_injective hlist
  exact JsonNumber.ofNat_injective hnum

theorem dismissStaff_completes {users : Table StaffUser.id} {us : List StaffUser}
    (h : ∀ u ∈ us, ∀ v ∈ users, v.email = removedEmail u.id → v.id = u.id) :
    ∃ users', dismissStaff users us = .ok users' := by
  induction us generalizing users with
  | nil => exact ⟨users, rfl⟩
  | cons u us ih =>
    obtain ⟨hu, hus⟩ := List.forall_mem_cons.mp h
    have hfree : ¬(users.rows.any fun v =>
        decide (v.id ≠ u.id) && decide (v.email = removedEmail u.id)) = true := by
      simp only [List.any_eq_true, Bool.and_eq_true, decide_eq_true_eq]
      rintro ⟨v, hv, hne, hemail⟩
      exact hne (hu v hv hemail)
    rw [dismissStaff, if_neg hfree]
    refine ih fun u' hu' v hv hemail => ?_
    rcases Table.mem_modify.mp hv with ⟨hv, -⟩ | ⟨v₀, -, -, rfl⟩
    · exact hus u' hu' v hv hemail
    · exact removedEmail_injective hemail

theorem hotelsExist_byTenant {rows : List TenantId}
    (h : ∀ t ∈ rows, (s.tenants.find t).isSome = true) :
    hotelsExist s ((byTenant rows).filter fun r => decide (0 < r.2)) = true := by
  rw [hotelsExist, List.all_eq_true]
  intro r hr
  obtain ⟨t, ht, rfl⟩ := List.mem_map.mp (List.mem_filter.mp hr).1
  exact h t (List.mem_dedup.mp ht)

theorem hotelsExist_count (hrule : rule ∈ RULES) (h : Housed s) :
    hotelsExist s ((rule.count s now).filter fun r => decide (0 < r.2)) = true := by
  have hguests : ∀ ripe : TenantReservation → Bool,
      hotelsExist s ((countRipe s ripe).filter fun r => decide (0 < r.2)) = true := by
    intro ripe
    refine hotelsExist_byTenant fun t ht => ?_
    obtain ⟨r, hr, rfl⟩ := List.mem_map.mp ht
    exact h.reservations r (List.mem_filter.mp hr).1
  simp only [RULES, List.mem_cons, List.not_mem_nil, or_false] at hrule
  rcases hrule with rfl | rfl | rfl | rfl | rfl | rfl
  · exact hguests _
  · exact hguests _
  · exact hguests _
  · simp [hotelsExist]
  · refine hotelsExist_byTenant fun t ht => ?_
    obtain ⟨r, hr, rfl⟩ := List.mem_map.mp ht
    exact h.sessions r (List.mem_filter.mp hr).1
  · refine hotelsExist_byTenant fun t ht => ?_
    obtain ⟨r, hr, rfl⟩ := List.mem_map.mp ht
    exact h.staff r (List.mem_filter.mp hr).1

theorem Housed.erased (h : Housed s) (he : OnlyErases s s₁)
    (hsessions : ∀ t ∈ s₁.refreshTokens, t ∈ s.refreshTokens)
    (hstaff : ∀ u ∈ s₁.users, ∃ v ∈ s.users, v.tenantId = u.tenantId) : Housed s₁ where
  reservations r hr := by
    have hmem : anonymizeGuest r ∈ s.reservations.rows.map anonymizeGuest := by
      rw [← he.reservations]
      exact List.mem_map_of_mem hr
    obtain ⟨r₀, hr₀, heq⟩ := List.mem_map.mp hmem
    have htenant : r₀.tenantId = r.tenantId := congrArg (fun x => x.tenantId) heq
    rw [he.tenants, ← htenant]
    exact h.reservations r₀ hr₀
  sessions t ht := by
    rw [he.tenants]
    exact h.sessions t (hsessions t ht)
  staff u hu := by
    obtain ⟨v, hv, htenant⟩ := hstaff u hu
    rw [he.tenants, ← htenant]
    exact h.staff v hv

/-- The action of a rule completes, and leaves a store of which that holds too. -/
theorem apply_completes (hrule : rule ∈ RULES) (h : Housed s) (hno : NoStandIns s now) :
    ∃ s₁ rows, rule.apply s now = .ok (s₁, rows) ∧ Housed s₁ ∧ NoStandIns s₁ now := by
  have hdeed : ∀ {s₁ rows}, rule.apply s now = .ok (s₁, rows) → OnlyErases s s₁ := fun happly =>
    (deed_of_apply hrule happly).onlyErases
  simp only [RULES, List.mem_cons, List.not_mem_nil, or_false] at hrule
  rcases hrule with rfl | rfl | rfl | rfl | rfl | rfl
  · exact ⟨_, _, rfl, h.erased (hdeed rfl) (fun _ ht => ht) fun u hu => ⟨u, hu, rfl⟩, hno⟩
  · exact ⟨_, _, rfl, h.erased (hdeed rfl) (fun _ ht => ht) fun u hu => ⟨u, hu, rfl⟩, hno⟩
  · exact ⟨_, _, rfl, h.erased (hdeed rfl) (fun _ ht => ht) fun u hu => ⟨u, hu, rfl⟩, hno⟩
  · exact ⟨_, _, rfl, h.erased (hdeed rfl) (fun _ ht => ht) fun u hu => ⟨u, hu, rfl⟩, hno⟩
  · exact ⟨_, _, rfl, h.erased (hdeed rfl) (fun _ ht => (List.mem_filter.mp ht).1)
      fun u hu => ⟨u, hu, rfl⟩, hno⟩
  · have hfree : ∀ u ∈ s.users.select (staffRipe now), ∀ v ∈ s.users,
        v.email = removedEmail u.id → v.id = u.id := fun u hu =>
      hno u (List.mem_filter.mp hu).1 (List.mem_filter.mp hu).2
    obtain ⟨users, hd⟩ := dismissStaff_completes hfree
    have happly : (dismissStaff s.users (s.users.select (staffRipe now))).map (fun users =>
        ({ s with users := users }, byTenant ((s.users.select (staffRipe now)).map (·.tenantId)))) =
        .ok ({ s with users := users },
          byTenant ((s.users.select (staffRipe now)).map (·.tenantId))) := by
      rw [hd]
      rfl
    refine ⟨_, _, happly, h.erased (hdeed happly) (fun _ ht => ht) fun u hu => ?_, ?_⟩
    · have hu' : u ∈ users.rows := hu
      rw [dismissStaff_ok hd] at hu'
      obtain ⟨v, hv, rfl⟩ := List.mem_map.mp hu'
      refine ⟨v, hv, ?_⟩
      split <;> rfl
    · intro u hu hripe
      exact absurd hripe (List.countP_eq_zero.mp (staff_done hd) u hu)

/-- **A run completes** where its rows are of hotels that exist and no stand-in address is taken. -/
theorem runRules_completes {rules : List RetentionRule} (hrules : ∀ rule ∈ rules, rule ∈ RULES)
    (h : Housed s) (hno : NoStandIns s now) :
    ∃ out, (runRules lock mode now rules s).2 = .ok out := by
  induction rules generalizing s with
  | nil => exact ⟨[], rfl⟩
  | cons rule rules ih =>
    obtain ⟨hrule, hrules⟩ := List.forall_mem_cons.mp hrules
    have hrun : ∃ s₁ res, runRule lock mode now s rule = .ok (s₁, res) ∧ Housed s₁ ∧
        NoStandIns s₁ now := by
      by_cases hlock : lock rule.id = true
      · have hexec : ∃ s₁ rows, mode.exec rule now s = .ok (s₁, rows) ∧ rows = rule.count s now ∧
            Housed s₁ ∧ NoStandIns s₁ now := by
          cases mode with
          | dry => exact ⟨s, _, rfl, rfl, h, hno⟩
          | on =>
            obtain ⟨s₁, rows, happly, hkeep⟩ := apply_completes hrule h hno
            exact ⟨s₁, rows, happly, (deed_of_apply hrule happly).rows, hkeep⟩
        obtain ⟨s₁, rows, hexec, rfl, hhoused, hno'⟩ := hexec
        have hexist : hotelsExist s ((rule.count s now).filter fun r => decide (0 < r.2)) = true :=
          hotelsExist_count hrule h
        let log := retentionEntries mode now rule.id (report rule s now).byTenant
        refine ⟨{ s₁ with auditLog := s₁.auditLog ++ log }, report rule s now, ?_,
          ⟨hhoused.1, hhoused.2, hhoused.3⟩, hno'⟩
        rw [runRule, if_pos hlock, hexec]
        exact if_pos hexist
      · exact ⟨s, _, by rw [runRule, if_neg hlock], h, hno⟩
    obtain ⟨s₁, res, hrun, hhoused, hno'⟩ := hrun
    obtain ⟨out, hout⟩ := ih hrules hhoused hno'
    refine ⟨res :: out, ?_⟩
    rw [runRules, hrun]
    show Except.map _ (runRules lock mode now rules s₁).2 = _
    rw [hout]
    rfl

end Runs

/-! ## Own limits -/

/-- The store with the hotels' own limits taken away. -/
def RetentionStore.withoutLimits (s : RetentionStore) : RetentionStore :=
  { s with tenants := s.tenants.map fun t =>
      { t with retentionCancelledDays := none, retentionContactsDays := none } }

section Limits

variable {s : RetentionStore} {now : Moment}

theorem find_withoutLimits (id : TenantId) : s.withoutLimits.tenants.find id =
    (s.tenants.find id).map fun t =>
      { t with retentionCancelledDays := none, retentionContactsDays := none } := by
  rw [RetentionStore.withoutLimits, Table.find, Table.map, List.find?_map]
  rfl

/-- An own limit makes a row older. -/
theorem olderThan_limit {days : ℤ} (own : Option ℤ) {t : Moment}
    (h : olderThan now (limitDays days none) t = true) :
    olderThan now (limitDays days own) t = true := by
  have hle : limitDays days own ≤ days := min_le_left _ _
  have hnone : limitDays days none = days := min_self days
  simp only [olderThan, decide_eq_true_eq, hnone] at h ⊢
  have hms : limitDays days own * dayMs ≤ days * dayMs :=
    mul_le_mul_of_nonneg_right hle (by decide)
  exact lt_of_lt_of_le h (by linarith)

theorem cancelledRipe_of_withoutLimits {r : TenantReservation}
    (h : cancelledRipe s.withoutLimits now r = true) : cancelledRipe s now r = true := by
  rw [cancelledRipe, find_withoutLimits, Option.any_map] at h
  obtain ⟨t, ht, h⟩ := (Option.any_eq_true _ _).mp h
  rw [cancelledRipe, ht]
  simp only [Bool.and_eq_true, Option.any_some] at h ⊢
  exact ⟨⟨h.1.1, olderThan_limit _ h.1.2⟩, h.2⟩

theorem contactsRipe_of_withoutLimits {r : TenantReservation}
    (h : contactsRipe s.withoutLimits now r = true) : contactsRipe s now r = true := by
  rw [contactsRipe, find_withoutLimits, Option.any_map] at h
  obtain ⟨t, ht, h⟩ := (Option.any_eq_true _ _).mp h
  rw [contactsRipe, ht]
  simp only [Bool.and_eq_true, Option.any_some] at h ⊢
  exact ⟨h.1, olderThan_limit _ h.2⟩

end Limits

/-! ## Retention -/

/-- Every lock is free. -/
def unlocked : String → Bool := fun _ => true

/-- **Retention erases what is due and nothing else.** A run completes where its rows are of hotels
that exist and no stand-in address is taken; one in mode `on` that completes leaves nothing due, and
the next one does and reports nothing; no run, also one that fails, changes more than it may; an own
limit only makes rows due earlier; and a run in mode `dry` that completes reports what each rule
would touch and only writes to the log. -/
theorem retention_run (s : RetentionStore) (now : Moment) :
    (Housed s → NoStandIns s now → ∀ lock mode,
      ∃ out, (runRetention lock mode now s).2 = .ok out) ∧
    (∀ s' out, runRetention unlocked .on now s = (s', .ok out) →
      (∀ rule ∈ RULES, ∀ n ∈ (rule.count s' now).map (·.2), n = 0) ∧
      runRetention unlocked .on now s' =
        (s', .ok (RULES.map fun rule => ⟨rule.id, false, []⟩))) ∧
    (∀ lock mode, OnlyErases s (runRetention lock mode now s).1) ∧
    (∀ r, (cancelledRipe s.withoutLimits now r = true → cancelledRipe s now r = true) ∧
      (contactsRipe s.withoutLimits now r = true → contactsRipe s now r = true)) ∧
    (∀ s' out, runRetention unlocked .dry now s = (s', .ok out) →
      (∃ log, s' = { s with auditLog := s.auditLog ++ log }) ∧
      out = RULES.map (fun rule => report rule s now) ∧
      ∀ rule ∈ RULES, ∀ s₁ rows, rule.apply s now = .ok (s₁, rows) → rows = rule.count s now) := by
  refine ⟨fun h hno lock mode => runRules_completes (fun _ hr => hr) h hno, fun s' out h => ?_,
    fun lock mode => runRules_onlyErases (fun _ hr => hr) s, fun r => ?_, fun s' out h => ?_⟩
  · have hdue := (runRules_due (fun _ hr => hr) (fun _ => rfl) h).1
    constructor
    · intro rule hrule n hn
      exact List.sum_eq_zero_iff_forall_eq_nat.mp (hdue rule hrule) n hn
    · exact runRules_of_nothing_due (fun _ hr => hr) (fun _ => rfl) hdue
  · exact ⟨cancelledRipe_of_withoutLimits, contactsRipe_of_withoutLimits⟩
  · have hrun : runRules unlocked .dry now RULES { s with auditLog := s.auditLog ++ [] } =
        (s', .ok out) := by
      rw [List.append_nil]
      exact h
    obtain ⟨hlog, hout⟩ := runRules_dry (fun _ hr => hr) (fun _ => rfl) (by simp) hrun
    exact ⟨hlog, hout, fun rule hrule s₁ rows happly => (deed_of_apply hrule happly).rows⟩

/-- A hotel with a stay cancelled long ago of a guest with a telephone. -/
def cancelledLongAgo : RetentionStore where
  tenants := ⟨[⟨1, none, none⟩], List.nodup_singleton _⟩
  reservations := ⟨[{
    adults := 1, children := 0, id := 1, roomId := 1, roomTypeId := 1, guestName := "Guest",
    phone := some "+7 900 000 00 00", email := none, checkIn := 0, checkOut := 1,
    status := .cancelled, source := .direct, notes := none, totalPrice := none, ratePlanId := none,
    placeNumber := 1, channelManaged := false, partnerId := none, partnerIdempotencyKey := none,
    partnerPayloadHash := none, guestKind := none, version := 0, arrivalAt := none,
    departureAt := none, flight := none, checkedInAt := none, checkedOutAt := none,
    tenantId := 1 }], List.nodup_singleton _⟩
  folios := .empty
  charges := .empty
  payments := .empty
  auditLog := []
  refreshTokens := .empty
  users := .empty

/-- A hotel with a dismissed member of staff whose stand-in address another account has. -/
def takenStandIn : RetentionStore :=
  { cancelledLongAgo with
    reservations := .empty
    users := ⟨[⟨1, 1, "a@hotel.ru", "A", false, some 0⟩,
      ⟨2, 1, removedEmail 1, "B", true, none⟩], by decide⟩ }

/-- The contacts are counted by a dry run, and erased with the name by the rule before in a run that
erases; and a run fails at a stand-in address that is taken. -/
theorem cancelledLongAgo_counts :
    (runRetention unlocked .dry (startOf 200) cancelledLongAgo).2.map
        (fun out => out.map fun r => r.byTenant.map (·.2)) = .ok [[1], [1], [], [], [], []] ∧
      (runRetention unlocked .on (startOf 200) cancelledLongAgo).2.map
        (fun out => out.map fun r => r.byTenant.map (·.2)) = .ok [[1], [], [], [], [], []] ∧
      (runRetention unlocked .on (startOf 200) takenStandIn).2 =
        .error (.internal "Unique constraint failed on the fields: (email)") := by
  decide +kernel

end KarsHotel
