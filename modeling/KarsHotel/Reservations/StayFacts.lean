import KarsHotel.Reservations.Deeds

/-!
# Facts of a stay

* `StayMoments`: a reservation in `CHECKED_IN` or `CHECKED_OUT` has the moments of its stay;
* `LegalChanges`: a step brings a reservation into a fact only from a status the table lists, and
  into `CHECKED_OUT` only with the folio closed;
* `origin_of_mem_step`: where the rows of the state after a step come from;
* **`stayFacts_run`**: both hold along every run whose creations carry no fact for a status.
-/

namespace KarsHotel

/-! ## The rule -/

/-- The moments of a stay are recorded. -/
structure Reservation.Stamped (r : Reservation) : Prop where
  checkedIn : r.status = .checkedIn ∨ r.status = .checkedOut → r.checkedInAt.isSome = true
  checkedOut : r.status = .checkedOut → r.checkedOutAt.isSome = true

/-- Every reservation has the moments of its stay. -/
def StayMoments (h : Hotel) : Prop := ∀ r ∈ h.reservations, r.Stamped

/-- A change into the status of a fact that the table allows. -/
structure LegalFact (h : Hotel) (id : ReservationId) (before : ReservationStatus) (fact : Fact) :
    Prop where
  allowed : before ∈ (FACTS fact).allowed
  settled : fact = .checkedOut → h.balance id ≤ 1

/-- Whoever is in the status of a fact after a step was there before it, or came there legally. -/
def LegalChanges (h h' : Hotel) : Prop :=
  ∀ r' ∈ h'.reservations, ∀ fact, isFact r'.status = some fact →
    ∃ r ∈ h.reservations, r.id = r'.id ∧ (r.status = r'.status ∨ LegalFact h r.id r.status fact)

/-! ## Where rows come from -/

/-- A row and what one operation makes of it. -/
structure RowStep (h : Hotel) (r r' : Reservation) : Prop where
  id : r.id = r'.id
  status : r'.status = r.status ∨ isFact r'.status = none ∨
    ∃ fact, isFact r'.status = some fact ∧ LegalFact h r.id r.status fact
  stamped : r.Stamped → r'.Stamped

theorem RowStep.refl (h : Hotel) (r : Reservation) : RowStep h r r := ⟨rfl, Or.inl rfl, fun h => h⟩

theorem RowStep.of_eq {h : Hotel} {r r' : Reservation} (hid : r.id = r'.id)
    (hs : r'.status = r.status) (hi : r'.checkedInAt = r.checkedInAt)
    (ho : r'.checkedOutAt = r.checkedOutAt) : RowStep h r r' := by
  refine ⟨hid, Or.inl hs, fun hr => ⟨fun h => ?_, fun h => ?_⟩⟩
  · rw [hi]
    exact hr.checkedIn (by rwa [hs] at h)
  · rw [ho]
    exact hr.checkedOut (by rwa [hs] at h)

/-- A status that is no fact asks for no moment. -/
theorem Reservation.stamped_of_plain {r : Reservation} (hs : isFact r.status = none) :
    r.Stamped := by
  refine ⟨fun h => ?_, fun h => ?_⟩
  · rcases h with h | h <;> rw [h] at hs <;> cases hs
  · rw [h] at hs
    cases hs

theorem RowStep.of_plain {h : Hotel} {r r' : Reservation} (hid : r.id = r'.id)
    (hs : isFact r'.status = none) : RowStep h r r' :=
  ⟨hid, Or.inr (Or.inl hs), fun _ => Reservation.stamped_of_plain hs⟩

theorem RowStep.of_fact {h : Hotel} {r w : Reservation} {fact : Fact} {moment : Moment}
    (hf : FactAdmitted (fun _ s => s = h) r.id fact r.status) (hid : w.id = r.id)
    (hs : w.status = fact.status) (hi : w.checkedInAt = r.checkedInAt) :
    RowStep h r (w.stamp moment fact) := by
  have legal : LegalFact h r.id r.status fact :=
    ⟨hf.allowed, fun h => (hf.settled h).balance_le fun _ _ _ hs => by rw [hs]⟩
  have ha := hf.allowed
  cases fact with
  | checkedIn =>
    refine ⟨hid.symm, Or.inr (Or.inr ⟨_, isFact_eq_some.mpr hs, legal⟩), fun _ => ⟨fun _ => rfl, ?_⟩⟩
    intro h
    exact absurd (hs.symm.trans h) (by decide)
  | checkedOut =>
    refine ⟨hid.symm, Or.inr (Or.inr ⟨_, isFact_eq_some.mpr hs, legal⟩), fun hr =>
      ⟨fun _ => ?_, fun _ => rfl⟩⟩
    -- a departure follows an arrival, whose moment is on the row
    have hin : r.status = .checkedIn := List.mem_singleton.mp ha
    change w.checkedInAt.isSome = true
    rw [hi]
    exact hr.checkedIn (Or.inl hin)
  | noShow =>
    refine ⟨hid.symm, Or.inr (Or.inr ⟨_, isFact_eq_some.mpr hs, legal⟩), fun _ =>
      ⟨fun h => ?_, fun h => ?_⟩⟩
    · rcases h with h | h <;> exact absurd (hs.symm.trans h) (by decide)
    · exact absurd (hs.symm.trans h) (by decide)

/-- A row of the state after a step is an old row, perhaps changed, or a created one. -/
inductive Origin (h : Hotel) (op : Op) (r' : Reservation) : Prop
  | changed (r : Reservation) (hr : r ∈ h.reservations) (hs : RowStep h r r')
  | created (dto : CreateReservationDto) (stay : PartnerStayInfo)
      (channel : Option ReservationChannelContext) (newId : ReservationId)
      (hop : op = .create dto stay channel newId) (hs : r'.status = dto.initialStatus)

theorem rowStep_result {h : Hotel} {dto : UpdateReservationDto} {cur : Reservation}
    (stay : PartnerStayInfo) (now : Moment) (roomTypeId : RoomTypeId) (p : ℕ)
    (hf : ∀ fact, dto.fact cur = some fact → FactAdmitted (fun _ s => s = h) cur.id fact cur.status) :
    RowStep h cur (dto.result cur stay now roomTypeId p cur) := by
  cases hfact : dto.fact cur with
  | some fact =>
    simp only [UpdateReservationDto.result, hfact]
    refine RowStep.of_fact (hf fact hfact) rfl ?_ rfl
    simp only [UpdateReservationDto.fact] at hfact
    split_ifs at hfact
    exact isFact_eq_some.mp hfact
  | none =>
    simp only [UpdateReservationDto.result, hfact]
    by_cases hs : dto.finalStatus cur = cur.status
    · exact RowStep.of_eq rfl hs rfl rfl
    · rw [UpdateReservationDto.fact, if_pos hs] at hfact
      exact RowStep.of_plain rfl hfact

theorem origin_of_mem_step {h : Hotel} {op : Op} {r' : Reservation}
    (hmem : r' ∈ (step h op).reservations) : Origin h op r' := by
  cases rowOrigin hmem with
  | kept _ hr => exact .changed r' hr (.refl h r')
  | created hdates hroom hp ha => exact .created _ _ _ _ rfl rfl
  | @updated id dto opts now cur p roomTypeId hcur hv hdates hf hc hp hg =>
    obtain ⟨hr, rfl⟩ := Table.find_eq_some.mp hcur
    exact .changed cur hr (rowStep_result opts.stay now roomTypeId p hf)
  | swapped hr p => exact .changed _ hr (.of_eq rfl rfl rfl rfl)
  | cancelled hcur => exact .changed _ (Table.find_eq_some.mp hcur).1 (.of_plain rfl rfl)
  | @recorded id fact moment now cur hcur hf =>
    obtain ⟨hr, rfl⟩ := Table.find_eq_some.mp hcur
    exact .changed cur hr (RowStep.of_fact hf rfl rfl rfl)

/-! ## Runs -/

/-- A creation carries no fact for a status. -/
def CreatesNoFact (_ : Hotel) : Op → Prop
  | .create dto _ _ _ => isFact dto.initialStatus = none
  | _ => True

theorem stayMoments_step {h : Hotel} {op : Op} (hm : StayMoments h) (hok : CreatesNoFact h op) :
    StayMoments (step h op) := by
  intro r' hr'
  cases origin_of_mem_step hr' with
  | changed r hr hs => exact hs.stamped (hm r hr)
  | created dto stay channel newId hop hs =>
    subst hop
    rw [CreatesNoFact, ← hs] at hok
    exact Reservation.stamped_of_plain hok

theorem legalChanges_step {h : Hotel} {op : Op} (hok : CreatesNoFact h op) :
    LegalChanges h (step h op) := by
  intro r' hr' fact hfact
  cases origin_of_mem_step hr' with
  | changed r hr hs =>
    refine ⟨r, hr, hs.id, ?_⟩
    rcases hs.status with hs | hs | ⟨fact', hf, hl⟩
    · exact Or.inl hs.symm
    · rw [hs] at hfact
      cases hfact
    · rw [hf] at hfact
      cases hfact
      exact Or.inr hl
  | created dto stay channel newId hop hs =>
    subst hop
    rw [CreatesNoFact, ← hs, hfact] at hok
    cases hok

/-- Every step of a run makes legal changes only. -/
def LegalRun : Hotel → List Op → Prop := RunMeets fun h op => LegalChanges h (step h op)

/-- **Stay facts are real.** From no reservations, in every run whose creations carry no fact for a
status, every reservation has the moments of its stay and every change into a fact is legal. -/
theorem stayFacts_run {h : Hotel} {ops : List Op} (he : h.reservations = Table.empty)
    (hok : RunMeets CreatesNoFact h ops) : StayMoments (run h ops) ∧ LegalRun h ops := by
  have h₀ : StayMoments h := fun r hr => by
    rw [he] at hr
    exact absurd hr (Table.not_mem_empty r)
  refine ⟨run_induction (fun _ _ => stayMoments_step) h₀ hok, ?_⟩
  clear he h₀
  induction ops generalizing h with
  | nil => trivial
  | cons op ops ih => exact ⟨legalChanges_step hok.1, ih hok.2⟩

/-- A booking, its arrival and its departure. -/
theorem stayFacts_run_oneNight : StayMoments (run (Hotel.oneRoom false)
      [.create .oneNight .empty none 1, .recordFact 1 .checkedIn none 5,
        .recordFact 1 .checkedOut none 9]) ∧
    LegalRun (Hotel.oneRoom false) [.create .oneNight .empty none 1,
      .recordFact 1 .checkedIn none 5, .recordFact 1 .checkedOut none 9] :=
  stayFacts_run rfl ⟨rfl, trivial, trivial, trivial⟩

/-- **A creation may put a guest who never arrived among the departed.** -/
theorem not_stayFacts_run : ¬∀ (h : Hotel) (ops : List Op), h.reservations = Table.empty →
    StayMoments (run h ops) ∧ LegalRun h ops := by
  intro hall
  have hm := (hall (Hotel.oneRoom false) [.create
    { CreateReservationDto.oneNight with status := some .checkedOut } .empty none 1] rfl).1
  have hrow : ∃ r ∈ (run (Hotel.oneRoom false) [.create
      { CreateReservationDto.oneNight with status := some .checkedOut } .empty none 1]
      ).reservations.rows, r.status = .checkedOut ∧ r.checkedOutAt.isSome = false := by
    decide
  obtain ⟨r, hr, hs, ho⟩ := hrow
  have := (hm r hr).checkedOut hs
  rw [ho] at this
  cases this

end KarsHotel
