import KarsHotel.Reservations.GuestData

/-!
# What an anonymisation erases stays erased

* `GuestStore.Holds`, `Formerly`: what the row and the log say of the guest, now and before;
* `AnonymisationFinal`: the property; `InTime`: what each turn after the anonymisation must meet;
* `Spares`: what the turns keep; `Spares.turn`: one turn, case by case;
* **`anonymisation_final`**: a run whose turns are in time.
-/

namespace KarsHotel

/-- The entry shows a value in a field, before or after its change. -/
def AuditEntry.Shows (e : AuditEntry) (key : String) (v : Json) : Prop :=
  ∃ d, e.diff = some d ∧ ((key, v) ∈ d.before.getD [] ∨ (key, v) ∈ d.after.getD [])

/-- The row, or an entry of the log about it, has the data in the field. -/
def GuestStore.Holds (s : GuestStore) (f : GuestField) (v : Json) : Prop :=
  f.isData v = true ∧
    (f.get s.row = v ∨ ∃ e ∈ s.auditLog, s.concerns e = true ∧ e.Shows f.key v)

/-- The operation brings no data of a guest. -/
def GuestOp.BringsNothing : GuestOp → Prop
  | .update dto _ _ _ => ∀ f v, GuestField.sent f dto = some v → f.isData v = false
  | .cancel _ reason _ _ => reason.getD "" = ""
  | _ => True

section Final

variable {ι : Type} [DecidableEq ι] (ops : ι → GuestOp)

/-- Held at some moment of the run. -/
def Formerly (D₀ : Desk ι) (turns : List (ι × TurnInput)) (f : GuestField) (v : Json) : Prop :=
  ∃ p, p <+: turns ∧ (D₀.play ops p).store.Holds f v

/-- Noted on a payment at some moment of the run. -/
def NotedFormerly (D₀ : Desk ι) (turns : List (ι × TurnInput)) (note : String) : Prop :=
  ∃ p, p <+: turns ∧ some note ∈ (D₀.play ops p).store.paymentNotes

/-- Turn `t` after `before` is the UPDATE of anonymisation `a`. -/
def Erases (a : ι) (D₀ : Desk ι) (before : List (ι × TurnInput)) (t : ι × TurnInput) : Prop :=
  t.1 = a ∧ t.2.fails = false ∧ (∃ spelling userId, ops a = .anonymize spelling userId) ∧
    ∃ cur, (D₀.play ops before).stage a = .selected cur

/-- Anonymisation `a`, whose UPDATE is turn `t`, is final after the run: once it has ended with
everything begun earlier, and nothing begun later brings data of a guest, neither the row nor the
log holds what it held before, and neither do the payments. -/
def AnonymisationFinal (a : ι) (D₀ : Desk ι) (before : List (ι × TurnInput)) (t : ι × TurnInput)
    (after : List (ι × TurnInput)) : Prop :=
  let D₁ := D₀.play ops (before ++ [t])
  let D := D₁.play ops after
  D.stage a = .ended → (∀ i, D₁.stage i ≠ .unbegun → D.stage i = .ended) →
    (∀ i, D₁.stage i = .unbegun → D.stage i ≠ .unbegun → (ops i).BringsNothing) →
      (∀ f v, Formerly ops D₀ before f v → ¬D.store.Holds f v) ∧
        ∀ note, NotedFormerly ops D₀ before note → some note ∉ D.store.paymentNotes

end Final

/-- What was written over the row's field of a guest says nothing: it had no data when it was read,
and what came in its place came after the anonymisation or has no data either. -/
def ChangeHidden (s₁ : OpStage) (cur row : Reservation) (f : GuestField) : Prop :=
  f.isData (f.get cur) = false ∧ ((∃ c, s₁ = .selected c) ∨ f.isData (f.get row) = false)

/-- An operation that was under way at the anonymisation `D₁` does not undo it: its UPDATE takes no
guest data from the row as it was before, nor from its request what was held before; its entry with
a guest's data is in the log before the log is scrubbed. The anonymisation itself scrubs every entry
with such data: its id is spelled as the entries are filed. -/
def InTime {ι : Type} (ops : ι → GuestOp) (former : GuestField → Json → Prop) (a : ι)
    (D₁ D : Desk ι) (t : ι × TurnInput) : Prop :=
  D₁.stage t.1 ≠ .unbegun → t.2.fails = false →
    match ops t.1, D.stage t.1 with
    | .update dto _ _ _, .selected cur => ∀ f, match GuestField.sent f dto with
      | some v => ¬former f v
      | none => f.isData (f.get cur) = false
    | .cancel _ reason _ _, .selected _ =>
      ¬former .notes (.ofText (cancelNotes D.store.row.notes reason))
    | .update _ _ _ _, .logging cur row (p :: _) =>
      (∀ c r, D.stage a ≠ .erased c r) → p.action = "update" →
        ∀ f, (f.get cur).shown ≠ (f.get row).shown → ChangeHidden (D₁.stage t.1) cur row f
    | _, .erased _ _ => t.1 = a →
      ∀ e ∈ D.store.auditLog, D.store.concerns e = true →
        (∃ f v, former f v ∧ e.Shows (GuestField.key f) v) →
          D.store.filed ((ops a).path D.store.row.id) e = true
    | _, _ => True

/-! ## Rows and entries -/

theorem GuestField.get_result (f : GuestField) (dto : UpdateReservationDto) (cur : Reservation)
    (stay : PartnerStayInfo) (now : Moment) (roomTypeId : RoomTypeId) (p : ℕ) (r : Reservation) :
    f.get (dto.result cur stay now roomTypeId p r) = (f.sent dto).getD (f.get cur) := by
  have htext : ∀ x old, Json.ofText (patchText x old) =
      (if x.isDefined = true then some (Json.ofText (patchText x none)) else none).getD
        (Json.ofText old) := by
    intro x old
    cases x <;> rfl
  have hwrite : f.get (dto.write cur stay roomTypeId p r) = (f.sent dto).getD (f.get cur) := by
    cases f with
    | guestName => simp only [get, sent, UpdateReservationDto.write]; cases dto.guestName <;> rfl
    | phone => exact htext _ _
    | email => exact htext _ _
    | notes => exact htext _ _
  have hstamp : ∀ fact r', f.get (Reservation.stamp now fact r') = f.get r' := by
    intro fact r'
    cases fact <;> cases f <;> rfl
  unfold UpdateReservationDto.result
  cases dto.fact cur with
  | none => exact hwrite
  | some fact => exact (hstamp fact _).trans hwrite

/-- A row without its guest says nothing of one. -/
theorem GuestField.isData_anonymized (f : GuestField) (r : Reservation) :
    f.isData (f.get r.anonymized) = false := by
  cases f <;> rfl

theorem GuestField.get_cancelledFor {f : GuestField} (hf : f ≠ .notes) (r : Reservation)
    (reason : Option String) : f.get (r.cancelledFor reason) = f.get r := by
  cases f with
  | notes => exact absurd rfl hf
  | _ => rfl

theorem GuestField.get_fact (f : GuestField) (r : Reservation) (st : ReservationStatus)
    (m : Moment) (fact : Fact) : f.get ((r.withStatus st).stamp m fact) = f.get r := by
  cases fact <;> cases f <;> rfl

/-- A cancellation without a reason adds nothing to the notes. -/
theorem cancelNotes_nothing {reason : Option String} (h : reason.getD "" = "")
    (notes : Option String) : cancelNotes notes reason = some (notes.getD "") := by
  unfold cancelNotes
  cases reason with
  | none => rw [String.append_empty]
  | some text =>
    have htext : text = "" := h
    simp [htext]

/-- What an update writes to the log of a guest's field: what it has changed. -/
theorem mem_changes {was now : Reservation} {f : GuestField} {v : Json} :
    ((f.key, v) ∈ (changes was now).1 → (f.get was).shown ≠ (f.get now).shown ∧ v = f.get was) ∧
      ((f.key, v) ∈ (changes was now).2 →
        (f.get was).shown ≠ (f.get now).shown ∧ v = f.get now) := by
  have hmem : ∀ u ∈ UPDATE_FIELDS, u.1 = f.key → u.2 = f.get := by
    intro u hu hkey
    rcases List.mem_append.mp hu with hu | hu
    · have hother : f.key ∉ STAY_FIELDS.map Prod.fst := by cases f <;> decide
      exact absurd (List.mem_map_of_mem hu) (hkey ▸ hother)
    · obtain ⟨g, -, rfl⟩ := List.mem_map.mp hu
      have hgf : g = f := by
        cases g <;> cases f <;> first | rfl | exact absurd hkey (by decide)
      rw [hgf]
  constructor
  · intro h
    obtain ⟨u, hu, huv⟩ := List.mem_map.mp h
    obtain ⟨hu, hne⟩ := List.mem_filter.mp hu
    have hget := hmem u hu (congrArg Prod.fst huv)
    rw [← hget]
    exact ⟨by simpa using hne, (congrArg Prod.snd huv).symm⟩
  · intro h
    obtain ⟨u, hu, huv⟩ := List.mem_map.mp h
    obtain ⟨hu, hne⟩ := List.mem_filter.mp hu
    have hget := hmem u hu (congrArg Prod.fst huv)
    rw [← hget]
    exact ⟨by simpa using hne, (congrArg Prod.snd huv).symm⟩

/-- An entry of an operation shows a guest's field only if the operation is an update that has
changed it. -/
theorem shows_of_mem_entries {op : GuestOp} {cur row : Reservation} {p : AuditParams}
    {t : TenantId} {m : Moment} {f : GuestField} {v : Json} (hp : p ∈ op.entries cur row)
    (hv : (p.entry t m).Shows f.key v) :
    (∃ dto opts now userId, op = .update dto opts now userId) ∧ p.action = "update" ∧
      (f.get cur).shown ≠ (f.get row).shown ∧ (v = f.get cur ∨ v = f.get row) := by
  have hfact : ∀ id userId fact before,
      ¬((factEntry id userId fact before).entry t m).Shows f.key v := by
    rintro id userId fact before ⟨d, hd, hshow⟩
    cases hd
    cases f <;> simp [GuestField.key] at hshow
  have hcancel : ∀ id userId before reason,
      ¬((cancelEntry id userId before reason).entry t m).Shows f.key v := by
    rintro id userId before reason ⟨d, hd, hshow⟩
    cases hd
    cases f <;> simp [GuestField.key] at hshow
  cases op with
  | update dto opts now userId =>
    rcases List.mem_cons.mp hp with rfl | hp
    · refine ⟨⟨dto, opts, now, userId, rfl⟩, rfl, ?_⟩
      obtain ⟨d, hd, hshow⟩ := hv
      cases hd
      rcases hshow with hshow | hshow
      · have h := mem_changes.1 hshow
        exact ⟨h.1, Or.inl h.2⟩
      · rcases List.mem_append.mp hshow with hshow | hshow
        · have h := mem_changes.2 hshow
          exact ⟨h.1, Or.inr h.2⟩
        · cases hch : opts.fromChannel <;> cases f <;>
            simp [hch, GuestField.key] at hshow
    · rcases List.mem_append.mp hp with hp | hp
      · cases hf : dto.fact cur with
        | none => simp [hf] at hp
        | some fact =>
          simp only [hf, Option.map_some, Option.toList_some, List.mem_singleton] at hp
          exact absurd hv (hp ▸ hfact _ _ _ _)
      · split_ifs at hp
        · rw [List.mem_singleton.mp hp] at hv
          exact absurd hv (hcancel _ _ _ _)
        · cases hp
  | cancel spelling reason fromChannel userId =>
    rw [List.mem_singleton.mp hp] at hv
    exact absurd hv (hcancel _ _ _ _)
  | recordFact spelling fact moment now userId =>
    rw [List.mem_singleton.mp hp] at hv
    exact absurd hv (hfact _ _ _ _)
  | anonymize spelling userId =>
    rw [List.mem_singleton.mp hp] at hv
    obtain ⟨d, hd, -⟩ := hv
    cases hd

/-- Nothing of a guest is left in a scrubbed diff. -/
theorem not_mem_withoutKeys {f : GuestField} {v : Json} (fields : JsonFields) :
    (f.key, v) ∉ withoutKeys PD_KEYS fields := by
  intro h
  have hkey := (List.mem_filter.mp h).2
  cases f <;> simp [PD_KEYS, GuestField.key] at hkey

/-- What is left of a guest after a scrubbing is in entries that are filed elsewhere. -/
theorem GuestStore.mem_scrubbed {s : GuestStore} {id : IdText} {e : AuditEntry} {f : GuestField}
    {v : Json} (he : e ∈ (s.scrubbed id).auditLog) (hshows : e.Shows f.key v) :
    e ∈ s.auditLog ∧ ¬s.filed id e = true := by
  obtain ⟨o, ho, rfl⟩ := List.mem_map.mp he
  by_cases hfiled : s.filed id o = true
  · rw [if_pos hfiled] at hshows
    obtain ⟨d, hd, hshow⟩ := hshows
    obtain ⟨d', -, rfl⟩ := Option.map_eq_some_iff.mp hd
    rcases hshow with hshow | hshow
    · exact absurd hshow (not_mem_withoutKeys _)
    · exact absurd hshow (not_mem_withoutKeys _)
  · rw [if_neg hfiled]
    exact ⟨ho, hfiled⟩

/-! ## What the turns keep -/

/-- Where an operation stands that was at stage `s₁` at the anonymisation: what it has read or left
since then is not former data. -/
def StageSpares (former : GuestField → Json → Prop) (op : GuestOp) (s₁ : OpStage) : OpStage → Prop
  | .unbegun => s₁ = .unbegun
  | .selected cur => s₁ = .selected cur ∨ s₁ = .unbegun ∧ ∀ f, ¬former f (f.get cur)
  | .erased cur row => (s₁ = .unbegun → ∀ f, ¬former f (f.get cur)) ∧
      (s₁ = .unbegun ∨ (∃ c, s₁ = .selected c) → ∀ f, ¬former f (f.get row))
  | .logging cur row ps => (∀ p ∈ ps, p ∈ op.entries cur row) ∧
      (s₁ = .unbegun → ∀ f, ¬former f (f.get cur)) ∧
      (s₁ = .unbegun ∨ (∃ c, s₁ = .selected c) → ∀ f, ¬former f (f.get row))
  | .ended => True

/-- What holds from the anonymisation `a` on, which leaves `D₁`. -/
structure Spares {ι : Type} (ops : ι → GuestOp) (former : GuestField → Json → Prop) (a : ι)
    (D₁ D : Desk ι) : Prop where
  row : ∀ f, ¬former f (GuestField.get f D.store.row)
  payments : ∀ n ∈ D.store.paymentNotes, n = none
  log : (∀ c r, D.stage a ≠ .erased c r) → ∀ e ∈ D.store.auditLog, D.store.concerns e = true →
    ∀ f v, e.Shows (GuestField.key f) v → ¬former f v
  stages : ∀ i, StageSpares former (ops i) (D₁.stage i) (D.stage i)

section Spares

variable {ι : Type} {ops : ι → GuestOp} {former : GuestField → Json → Prop} {a : ι}
  {D₁ D : Desk ι} {t : ι × TurnInput}

/-- Nothing is former data but data. -/
def OnlyData (former : GuestField → Json → Prop) : Prop :=
  ∀ f v, former f v → GuestField.isData f v = true

theorem OnlyData.not_former (hd : OnlyData former) {f : GuestField} {v : Json}
    (h : f.isData v = false) : ¬former f v := by
  intro hv
  rw [hd f v hv] at h
  cases h

theorem GuestStore.write_id (s : GuestStore) (op : GuestOp) (cur : Reservation) (rt pn : ℕ) :
    (s.write op cur rt pn).row.id = s.row.id := by
  cases op with
  | update dto opts now userId => exact UpdateReservationDto.result_id _ _ _ _ _ _ _
  | cancel | anonymize => rfl
  | recordFact spelling fact moment now userId => exact Reservation.stamp_id _ fact _

theorem GuestStore.write_concerns (s : GuestStore) (op : GuestOp) (cur : Reservation) (rt pn : ℕ)
    (e : AuditEntry) : (s.write op cur rt pn).concerns e = s.concerns e := by
  unfold concerns
  rw [write_id]
  rfl

theorem Spares.write_row (h : Spares ops former a D₁ D) (hd : OnlyData former)
    (ht : InTime ops former a D₁ D t)
    (hlater : D₁.stage t.1 = .unbegun → (ops t.1).BringsNothing) {cur : Reservation}
    (hs : D.stage t.1 = .selected cur) (hf : t.2.fails = false) (rt pn : ℕ) (f : GuestField) :
    ¬former f (f.get (D.store.write (ops t.1) cur rt pn).row) := by
  have hcur := h.stages t.1
  rw [hs] at hcur
  unfold InTime at ht
  rw [hs] at ht
  unfold GuestStore.write
  cases hop : ops t.1 with
  | update dto opts now userId =>
    show ¬former f (f.get (dto.result cur opts.stay now rt pn D.store.row))
    rw [GuestField.get_result]
    by_cases hbegun : D₁.stage t.1 = .unbegun
    · -- begun later: it has read the row as the anonymisation left it, and sends nothing
      have hnothing := hlater hbegun
      rw [hop] at hnothing
      cases hsent : f.sent dto with
      | some v => exact hd.not_former (hnothing f v hsent)
      | none =>
        rcases hcur with hsel | hread
        · rw [hsel] at hbegun
          cases hbegun
        · exact hread.2 f
    · have hin := ht hbegun hf
      rw [hop] at hin
      have hfield := hin f
      cases hsent : f.sent dto with
      | some v =>
        rw [hsent] at hfield
        exact hfield
      | none =>
        rw [hsent] at hfield
        exact hd.not_former hfield
  | cancel spelling reason fromChannel userId =>
    show ¬former f (f.get (D.store.row.cancelledFor reason))
    by_cases hnotes : f = .notes
    · subst hnotes
      by_cases hbegun : D₁.stage t.1 = .unbegun
      · have hnothing := hlater hbegun
        rw [hop] at hnothing
        have hrow := h.row .notes
        show ¬former .notes (.ofText (cancelNotes D.store.row.notes reason))
        rw [cancelNotes_nothing hnothing]
        cases hold : D.store.row.notes with
        | none => exact hd.not_former rfl
        | some text =>
          rw [show GuestField.get .notes D.store.row = .ofText D.store.row.notes from rfl, hold]
            at hrow
          exact hrow
      · have hin := ht hbegun hf
        rw [hop] at hin
        exact hin
    · rw [GuestField.get_cancelledFor hnotes]
      exact h.row f
  | recordFact spelling fact moment now userId =>
    show ¬former f (f.get ((D.store.row.withStatus fact.status).stamp (moment.getD now) fact))
    rw [GuestField.get_fact]
    exact h.row f
  | anonymize spelling userId => exact hd.not_former (GuestField.isData_anonymized f D.store.row)

theorem Spares.write_stage (h : Spares ops former a D₁ D) {cur row : Reservation}
    (hs : D.stage t.1 = .selected cur) (hrow : ∀ f, ¬former f (GuestField.get f row)) :
    StageSpares former (ops t.1) (D₁.stage t.1) (Desk.committed (ops t.1) cur row) := by
  have hcur := h.stages t.1
  rw [hs] at hcur
  have hread : D₁.stage t.1 = .unbegun → ∀ f, ¬former f (GuestField.get f cur) := by
    intro hbegun
    rcases hcur with hsel | hread
    · rw [hsel] at hbegun
      cases hbegun
    · exact hread.2
  cases hop : ops t.1 with
  | anonymize spelling userId => exact ⟨hread, fun _ => hrow⟩
  | update | cancel | recordFact => exact ⟨fun _ hp => hp, hread, fun _ => hrow⟩

/-- An entry written in time, after the log was scrubbed, shows no former data. -/
theorem Spares.entry (h : Spares ops former a D₁ D) (hd : OnlyData former)
    (ht : InTime ops former a D₁ D t) {cur row : Reservation} {p : AuditParams}
    {ps : List AuditParams} (hs : D.stage t.1 = .logging cur row (p :: ps))
    (hf : t.2.fails = false) (hscrub : ∀ c r, D.stage a ≠ .erased c r) (tenantId : TenantId)
    (now : Moment) (f : GuestField) (v : Json) (hv : (p.entry tenantId now).Shows f.key v) :
    ¬former f v := by
  have hstage := h.stages t.1
  rw [hs] at hstage
  obtain ⟨hps, hcur, hrow⟩ := hstage
  obtain ⟨⟨dto, opts, m, userId, hop⟩, haction, hchanged, hvalue⟩ :=
    shows_of_mem_entries (hps p List.mem_cons_self) hv
  by_cases hbegun : D₁.stage t.1 = .unbegun
  · rcases hvalue with rfl | rfl
    · exact hcur hbegun f
    · exact hrow (Or.inl hbegun) f
  · unfold InTime at ht
    have hin := ht hbegun hf
    rw [hop, hs] at hin
    have hhidden := hin hscrub haction f hchanged
    rcases hvalue with rfl | rfl
    · exact hd.not_former hhidden.1
    · rcases hhidden.2 with hsel | hnone
      · exact hrow (Or.inr hsel) f
      · exact hd.not_former hnone

/-- An anonymisation in time scrubs every entry that shows former data. -/
theorem InTime.scrub (ht : InTime ops former a D₁ D t) (hat : t.1 = a)
    (ha : ∃ c r, D₁.stage a = .erased c r) {cur row : Reservation}
    (hs : D.stage a = .erased cur row) (hf : t.2.fails = false) :
    ∀ e ∈ D.store.auditLog, D.store.concerns e = true →
      (∃ f v, former f v ∧ e.Shows (GuestField.key f) v) →
        D.store.filed ((ops a).path D.store.row.id) e = true := by
  obtain ⟨c, r, ha⟩ := ha
  unfold InTime at ht
  rw [hat] at ht
  have hin := ht (by simp [ha]) hf
  rw [hs] at hin
  cases hop : ops a with
  | update | cancel | recordFact | anonymize =>
    rw [hop] at hin
    exact hin rfl

theorem Spares.goes [DecidableEq ι] (h : Spares ops former a D₁ D) {i : ι} {stage : OpStage}
    (hne : ∀ c r, D.stage i ≠ .erased c r)
    (hstage : StageSpares former (ops i) (D₁.stage i) stage) :
    Spares ops former a D₁ (D.goes i D.store stage) := by
  refine ⟨h.row, h.payments, fun hscrub => h.log fun c r => ?_, fun j => ?_⟩
  · by_cases ha : a = i
    · rw [ha]
      exact hne c r
    · have hsame := hscrub c r
      rwa [Desk.stage_goes_of_ne D ha] at hsame
  · by_cases hj : j = i
    · rw [hj, Desk.stage_goes_self]
      exact hstage
    · rw [Desk.stage_goes_of_ne D hj]
      exact h.stages j

/-- **A turn in time keeps what is kept.** -/
theorem Spares.turn [DecidableEq ι] (h : Spares ops former a D₁ D) (hd : OnlyData former)
    (ha : ∃ c r, D₁.stage a = .erased c r) (ht : InTime ops former a D₁ D t)
    (hlater : D₁.stage t.1 = .unbegun → (ops t.1).BringsNothing) :
    Spares ops former a D₁ (D.turn ops t) := by
  have hturned := Desk.turned ops D t
  generalize D.turn ops t = D' at hturned
  have hstage := h.stages t.1
  cases hturned with
  | idle => exact h
  | quiet stage hne hst =>
    apply h.goes hne
    rcases hst with rfl | ⟨hs, rfl⟩ | ⟨cur, row, p, ps, hs, rfl⟩
    · trivial
    · rw [hs] at hstage
      exact Or.inr ⟨hstage, h.row⟩
    · rw [hs] at hstage
      exact ⟨fun q hq => hstage.1 q (List.mem_cons_of_mem _ hq), hstage.2⟩
  | write cur hs hf =>
    have hrow := h.write_row hd ht hlater hs hf t.2.roomTypeId t.2.placeNumber
    have hat : a ≠ t.1 := by
      rintro rfl
      obtain ⟨c, r, ha⟩ := ha
      rw [hs, ha] at hstage
      rcases hstage with hsel | hunbegun
      · cases hsel
      · cases hunbegun.1
    refine ⟨hrow, fun n hn => ?_, fun hscrub e he hc => ?_, fun j => ?_⟩
    · cases hop : ops t.1 with
      | anonymize spelling userId =>
        simp only [Desk.goes, GuestStore.write, hop, List.mem_map] at hn
        obtain ⟨n', -, rfl⟩ := hn
        rfl
      | update | cancel | recordFact =>
        simp only [Desk.goes, GuestStore.write, hop] at hn
        exact h.payments n hn
    · refine h.log (fun c r => ?_) e he ?_
      · have hsame := hscrub c r
        rwa [Desk.stage_goes_of_ne D hat] at hsame
      · rwa [← GuestStore.write_concerns]
    · by_cases hj : j = t.1
      · rw [hj, Desk.stage_goes_self]
        exact h.write_stage hs hrow
      · rw [Desk.stage_goes_of_ne D hj]
        exact h.stages j
  | scrub cur row hs hf =>
    refine ⟨h.row, h.payments, fun hscrub e he hc f v hv hformer => ?_, fun j => ?_⟩
    · obtain ⟨he, hfiled⟩ := GuestStore.mem_scrubbed he hv
      by_cases hat : t.1 = a
      · -- the anonymisation's own scrubbing: what it leaves is not former data
        refine hfiled ?_
        rw [hat] at hs ⊢
        exact (InTime.scrub ht hat ha hs hf) e he hc ⟨f, v, hformer, hv⟩
      · refine h.log (fun c r => ?_) e he hc f v hv hformer
        have hsame := hscrub c r
        rwa [Desk.stage_goes_of_ne D (Ne.symm hat)] at hsame
    · by_cases hj : j = t.1
      · rw [hj, Desk.stage_goes_self]
        rw [hs] at hstage
        exact ⟨fun _ hp => hp, hstage⟩
      · rw [Desk.stage_goes_of_ne D hj]
        exact h.stages j
  | log cur row p ps stage hs hf hst =>
    have hne : ∀ c r, D.stage t.1 ≠ .erased c r := by simp [hs]
    have hgoes : Spares ops former a D₁ (D.goes t.1 D.store stage) := by
      apply h.goes hne
      rw [hs] at hstage
      rcases hst with rfl | rfl
      · trivial
      · exact ⟨fun q hq => hstage.1 q (List.mem_cons_of_mem _ hq), hstage.2⟩
    refine ⟨hgoes.row, hgoes.payments, fun hscrub e he hc f v hv => ?_, hgoes.stages⟩
    rcases List.mem_append.mp he with he | he
    · exact hgoes.log hscrub e he hc f v hv
    · rw [List.mem_singleton.mp he] at hv
      refine h.entry hd ht hs hf (fun c r => ?_) _ _ f v hv
      by_cases hat : a = t.1
      · rw [hat]
        exact hne c r
      · have hsame := hscrub c r
        rwa [Desk.stage_goes_of_ne D hat] at hsame

theorem Spares.play [DecidableEq ι] (hd : OnlyData former) (ha : ∃ c r, D₁.stage a = .erased c r)
    {turns : List (ι × TurnInput)} (h : Spares ops former a D₁ D)
    (hin : StepsMeet (Desk.turn ops) (InTime ops former a D₁) D turns)
    (hlater : ∀ i, D₁.stage i = .unbegun → (D.play ops turns).stage i ≠ .unbegun →
      (ops i).BringsNothing) : Spares ops former a D₁ (D.play ops turns) := by
  induction turns generalizing D with
  | nil => exact h
  | cons t turns ih =>
    have hturn : Spares ops former a D₁ (D.turn ops t) := by
      refine h.turn hd ha hin.1 fun hbegun => hlater t.1 hbegun ?_
      exact Desk.begun_play turns (Desk.turned ops D t).begun
    exact ih hturn hin.2 hlater

/-- What holds right after the anonymisation. -/
theorem spares_of_erases [DecidableEq ι] {D₀ : Desk ι} {before : List (ι × TurnInput)}
    (hd : OnlyData former) (hstart : ∀ i, D₀.stage i = .unbegun)
    (ht : Erases ops a D₀ before t) :
    (∃ c r, (D₀.play ops (before ++ [t])).stage a = .erased c r) ∧
      Spares ops former a (D₀.play ops (before ++ [t])) (D₀.play ops (before ++ [t])) := by
  obtain ⟨rfl, hf, ⟨spelling, userId, hop⟩, cur, hs⟩ := ht
  have hown : Desk.OwnEntries ops (D₀.play ops (before ++ [t])) := by
    apply foldl_keeps_all fun D t h => (Desk.turned ops D t).ownEntries h
    intro i c r ps hlog
    rw [hstart i] at hlog
    cases hlog
  rw [Desk.play_append] at hown ⊢
  revert hs hown
  generalize D₀.play ops before = D
  intro hs hown
  have hturn : D.turn ops t =
      D.goes t.1 (D.store.write (ops t.1) cur t.2.roomTypeId t.2.placeNumber)
        (.erased cur D.store.row.anonymized) := by
    unfold Desk.turn
    rw [hs, hop]
    simp only [hf]
    rfl
  show (∃ c r, (D.turn ops t).stage t.1 = .erased c r) ∧
    Spares ops former t.1 (D.turn ops t) (D.turn ops t)
  have herased : (D.turn ops t).stage t.1 = .erased cur D.store.row.anonymized := by
    rw [hturn, Desk.stage_goes_self]
  refine ⟨⟨_, _, herased⟩, ?_, ?_, fun hscrub => absurd herased (hscrub _ _), fun i => ?_⟩
  · intro f
    rw [hturn, hop]
    exact hd.not_former (GuestField.isData_anonymized f D.store.row)
  · intro n hn
    rw [hturn, hop] at hn
    simp only [Desk.goes, GuestStore.write, List.mem_map] at hn
    obtain ⟨n', -, rfl⟩ := hn
    rfl
  · -- what an operation under way has read or left so far may be former data
    cases hi : (D.turn ops t).stage i with
    | unbegun => rfl
    | selected c => exact Or.inl rfl
    | erased c r => simp [StageSpares]
    | logging c r ps => exact ⟨hown i c r ps hi, by simp, by simp⟩
    | ended => trivial

end Spares

section Run

variable {ι : Type} [DecidableEq ι] (ops : ι → GuestOp)

/-- **An anonymisation is final in every run whose turns are in time.** -/
theorem anonymisation_final (a : ι) (D₀ : Desk ι) (hstart : ∀ i, D₀.stage i = .unbegun)
    (before : List (ι × TurnInput)) (t : ι × TurnInput) (ht : Erases ops a D₀ before t)
    (after : List (ι × TurnInput))
    (hin : StepsMeet (Desk.turn ops)
      (InTime ops (Formerly ops D₀ before) a (D₀.play ops (before ++ [t])))
      (D₀.play ops (before ++ [t])) after) : AnonymisationFinal ops a D₀ before t after := by
  have hd : OnlyData (Formerly ops D₀ before) := by
    rintro f v ⟨p, -, hheld⟩
    exact hheld.1
  obtain ⟨ha, hspares⟩ := spares_of_erases hd hstart ht
  intro hend _ hlater
  have hkept := hspares.play hd ha hin hlater
  refine ⟨fun f v hv hheld => ?_, fun note _ hnote => ?_⟩
  · rcases hheld.2 with hrow | ⟨e, he, hc, hshow⟩
    · exact hkept.row f (hrow ▸ hv)
    · refine hkept.log (fun c r herased => ?_) e he hc f v hshow hv
      rw [hend] at herased
      cases herased
  · cases hkept.payments _ hnote

end Run

/-! ## A late update -/

/-- A guest who has left, with the phone given. -/
def departedGuest : GuestStore where
  tenantId := 1
  row := { CreateReservationDto.oneNight.row .empty none 1 1 1 with
    status := .checkedOut, phone := some "+70000000000" }
  paymentNotes := []
  auditLog := []

/-- The update `false` takes the phone off, the anonymisation `true` is called with a spelling of
the id. -/
def phoneOffAndAnonymize (spelling : ℕ) : Bool → GuestOp
  | false => .update { UpdateReservationDto.ofVersion 1 with phone := .null } ⟨false, .empty⟩ 0 none
  | true => .anonymize spelling none

/-- Turns of the two that do not fail. -/
def deskTurns (l : List Bool) : List (Bool × TurnInput) := l.map fun b => (b, ⟨false, 1, 1, 0⟩)

/-- An update whose entry is in the log before the log is scrubbed. -/
theorem anonymisation_final_inTime :
    AnonymisationFinal (phoneOffAndAnonymize 0) true ⟨departedGuest, fun _ => .unbegun⟩
      (deskTurns [false, false, true]) (true, ⟨false, 1, 1, 0⟩) (deskTurns [false, true, true]) :=
  anonymisation_final (phoneOffAndAnonymize 0) true ⟨departedGuest, fun _ => .unbegun⟩ (fun _ => rfl)
    (deskTurns [false, false, true]) (true, ⟨false, 1, 1, 0⟩) ⟨rfl, rfl, ⟨0, none, rfl⟩, _, rfl⟩
    (deskTurns [false, true, true])
    ⟨fun _ _ h => absurd rfl (h _ _), fun _ _ _ e he _ _ => by rw [List.mem_singleton.mp he]; rfl,
      fun _ _ => trivial, trivial⟩

/-- The entry of an update that was committed before the anonymisation has the phone it took off;
an update that has read the row before it writes the name back; and an anonymisation called with the
id in capitals scrubs nothing. -/
theorem anonymisation_undone :
    ¬AnonymisationFinal (phoneOffAndAnonymize 0) true ⟨departedGuest, fun _ => .unbegun⟩
        (deskTurns [false, false, true]) (true, ⟨false, 1, 1, 0⟩) (deskTurns [true, true, false]) ∧
      ¬AnonymisationFinal (phoneOffAndAnonymize 0) true ⟨departedGuest, fun _ => .unbegun⟩
        (deskTurns [false, true]) (true, ⟨false, 1, 1, 0⟩)
        (deskTurns [false, true, true, false]) ∧
      ¬AnonymisationFinal (phoneOffAndAnonymize 1) true ⟨departedGuest, fun _ => .unbegun⟩
        (deskTurns [false, false, false, true]) (true, ⟨false, 1, 1, 0⟩) (deskTurns [true, true]) := by
  refine ⟨fun h => ?_, fun h => ?_, fun h => ?_⟩
  · refine (h rfl (fun i _ => ?_) fun i hi => ?_).1 .phone (.str "+70000000000") ?_ ?_
    · cases i <;> rfl
    · cases i <;> cases hi
    · exact ⟨[], List.nil_prefix, rfl, Or.inl rfl⟩
    · refine ⟨rfl, Or.inr ⟨_, List.mem_cons_of_mem _ List.mem_cons_self, by decide, _, rfl, ?_⟩⟩
      exact Or.inl List.mem_cons_self
  · refine (h rfl (fun i _ => ?_) fun i hi => ?_).1 .guestName (.str "Guest") ?_ ?_
    · cases i <;> rfl
    · cases i <;> cases hi
    · exact ⟨[], List.nil_prefix, rfl, Or.inl rfl⟩
    · exact ⟨rfl, Or.inl rfl⟩
  · refine (h rfl (fun i _ => ?_) fun i hi => ?_).1 .phone (.str "+70000000000") ?_ ?_
    · cases i <;> rfl
    · cases i <;> cases hi
    · exact ⟨[], List.nil_prefix, rfl, Or.inl rfl⟩
    · refine ⟨rfl, Or.inr ⟨_, List.mem_cons_self, by decide, _, rfl, ?_⟩⟩
      exact Or.inl List.mem_cons_self

end KarsHotel
