import KarsHotel.Common.PermissionsGuard
import KarsHotel.Reservations.GuestData

/-!
# Who may set which status

The endpoints of reservations behind the guard of permissions.

* `ReservationRequest`: a request, the permissions of its endpoint, and what it does;
* `Op.Sets`, `mem_step_status`: which operation sets which status of which reservation;
* `ReservationCall.SetAsHolder`: whoever brings a reservation into a status holds its permission;
* **`permissions_run`**: so it is in every run in which the forms set a status for holders only.
-/

namespace KarsHotel

/-! ## Requests -/

/-- A request to the endpoints of reservations. `look` is a request that reads only, with the
permission it asks for. -/
inductive ReservationRequest where
  | look (code : String)
  | create (dto : CreateReservationDto) (newId : ReservationId)
  | update (id : ReservationId) (dto : UpdateReservationDto)
  | swap (dto : SwapReservationsDto)
  | checkIn (id : ReservationId)
  | checkOut (id : ReservationId)
  | noShow (id : ReservationId)
  | cancel (id : ReservationId) (reason : Option String)
  | anonymize (id : ReservationId)

namespace ReservationRequest

/-- The permissions the endpoint of a request asks for. -/
def required : ReservationRequest → List String
  | look code => [code]
  | create _ _ => ["reservation.create"]
  | update _ _ => ["reservation.update"]
  | swap _ => ["reservation.update"]
  | checkIn _ => ["reservation.checkin"]
  | checkOut _ => ["reservation.checkout"]
  | noShow _ => ["reservation.update"]
  | cancel _ _ => ["reservation.cancel"]
  | anonymize _ => ["guest.anonymize"]

/-- The operation of the service that a request makes; the cabinet sends neither a partner nor the
times of the stay. -/
def op (now : Moment) : ReservationRequest → Option Op
  | create dto newId => some (.create dto .empty none newId)
  | update id dto => some (.update id dto .form now)
  | swap dto => some (.swap dto)
  | checkIn id => some (.recordFact id .checkedIn none now)
  | checkOut id => some (.recordFact id .checkedOut none now)
  | noShow id => some (.recordFact id .noShow none now)
  | cancel id reason => some (.cancel id reason false)
  | look _ => none
  | anonymize _ => none

/-- What a request that was let in leaves. -/
def exec (now : Moment) (h : Hotel) (r : ReservationRequest) : Hotel :=
  match r.op now with
  | some op => KarsHotel.step h op
  | none => match r with
    | anonymize id => (KarsHotel.anonymize h id).toOption.getD h
    | _ => h

end ReservationRequest

/-- A request, who makes it, and when. -/
structure ReservationCall where
  user : AuthenticatedRequestUser
  request : ReservationRequest
  now : Moment

/-- The guard, then the endpoint. -/
def ReservationCall.step (h : Hotel) (c : ReservationCall) : Hotel :=
  match PermissionsGuard.canActivate c.request.required c.user with
  | .error _ => h
  | .ok () => c.request.exec c.now h

/-! ## Which operation sets which status -/

/-- The operation sets the status `s` of the reservation `id`. -/
def Op.Sets (h : Hotel) (id : ReservationId) (s : ReservationStatus) : Op → Prop
  | .create dto _ _ newId => newId = id ∧ s = dto.initialStatus ∧
    parseISO dto.checkIn < parseISO dto.checkOut ∧
    ∃ room m p, h.activeRoom dto.roomId = some (room, m) ∧
      allocatePlace room.capacity m dto.guests (dto.others h) = some p
  | .update k dto opts _ => k = id ∧ ∃ cur, h.reservations.find id = some cur ∧
    cur.version = dto.version ∧ dto.changesChannelGuests cur opts.fromChannel = false ∧
    dto.finalCheckIn cur < dto.finalCheckOut cur ∧
    (∀ fact, dto.fact cur = some fact → FactAdmitted (fun _ t => t = h) id fact cur.status) ∧
    (dto.cancelling cur = true → cancelRefusal cur.status cur.channelManaged opts.fromChannel = none) ∧
    (∃ p, PlaceChosen (fun _ t => t = h) id dto cur p) ∧
    dto.finalStatus cur ≠ cur.status ∧ s = dto.finalStatus cur
  | .cancel k _ _ => k = id ∧ s = .cancelled
  | .recordFact k fact _ _ => k = id ∧ s = fact.status
  | _ => False

/-- The reservation had the status before. -/
def Hotel.HadStatus (h : Hotel) (id : ReservationId) (s : ReservationStatus) : Prop :=
  ∃ r ∈ h.reservations, r.id = id ∧ r.status = s

theorem hadStatus_self {h : Hotel} {r : Reservation} (hr : r ∈ h.reservations) :
    h.HadStatus r.id r.status := ⟨r, hr, rfl, rfl⟩

/-- **Where a status comes from**: it was there before, or the operation sets it. -/
theorem mem_step_status {h : Hotel} {op : Op} {r' : Reservation}
    (hmem : r' ∈ (KarsHotel.step h op).reservations) :
    h.HadStatus r'.id r'.status ∨ op.Sets h r'.id r'.status := by
  cases rowOrigin hmem with
  | kept _ hr => exact .inl (hadStatus_self hr)
  | @created dto stay channel newId room m p hdates hroom hp ha =>
    exact .inr ⟨rfl, rfl, hdates, room, m, p, hroom, hp⟩
  | @updated id dto opts now cur p roomTypeId hcur hv hdates hf hc hp hg =>
    obtain ⟨hr, hid⟩ := Table.find_eq_some.mp hcur
    rw [UpdateReservationDto.result_status, UpdateReservationDto.result_id]
    by_cases hsame : dto.finalStatus cur = cur.status
    · exact .inl ⟨cur, hr, rfl, hsame.symm⟩
    · rw [hid]
      exact .inr ⟨rfl, cur, hcur, hv, hg, hdates, hf, hc, ⟨p, hp⟩, hsame, rfl⟩
  | swapped hr p => exact .inl ⟨_, hr, rfl, rfl⟩
  | cancelled hcur => exact .inr ⟨(Table.find_eq_some.mp hcur).2.symm, rfl⟩
  | recorded hcur hf =>
    rw [Reservation.stamp_status, Reservation.stamp_id]
    exact .inr ⟨(Table.find_eq_some.mp hcur).2.symm, rfl⟩

theorem anonymize_status {h h' : Hotel} {id : ReservationId} (hok : anonymize h id = .ok h')
    {r' : Reservation} (hmem : r' ∈ h'.reservations) : h.HadStatus r'.id r'.status := by
  unfold anonymize at hok
  cases hfind : h.reservations.find id with
  | none =>
    rw [hfind] at hok
    cases hok
  | some found =>
    rw [hfind] at hok
    dsimp only at hok
    split_ifs at hok
    cases hok
    have hmem : r' ∈ h.reservations.modify id Reservation.anonymized := hmem
    rcases Table.mem_modify.mp hmem with ⟨hr, -⟩ | ⟨r, hr, -, rfl⟩
    · exact hadStatus_self hr
    · exact ⟨r, hr, rfl, rfl⟩

/-! ## The permission of a status -/

/-- The permission that stands for bringing a reservation into a status. -/
def permissionOf : ReservationStatus → Option String
  | .cancelled => some "reservation.cancel"
  | .checkedIn => some "reservation.checkin"
  | .checkedOut => some "reservation.checkout"
  | _ => none

namespace ReservationCall

/-- Whoever brings a reservation into a status holds its permission. -/
def SetAsHolder (h : Hotel) (c : ReservationCall) : Prop :=
  ∀ r' ∈ (c.step h).reservations, ¬h.HadStatus r'.id r'.status →
    ∀ code, permissionOf r'.status = some code → c.user.holds code = true

/-- The forms, of a new reservation and of an edit that passes its checks, set a status for holders
of its permission only. -/
def FormsAsHolder (h : Hotel) (c : ReservationCall) : Prop :=
  match c.request with
  | .create dto newId => c.user.holds "reservation.create" = true →
    ∀ s, (Op.create dto .empty none newId).Sets h newId s → ∀ code, permissionOf s = some code →
      c.user.holds code = true
  | .update id dto => c.user.holds "reservation.update" = true →
    ∀ s, (Op.update id dto .form c.now).Sets h id s → ∀ code, permissionOf s = some code →
      c.user.holds code = true
  | _ => True

/-- **The permission of a status** is that of its button; the forms are the other door. -/
theorem setAsHolder {h : Hotel} {c : ReservationCall} (hforms : c.FormsAsHolder h) :
    c.SetAsHolder h := by
  intro r' hr' hnew code hcode
  unfold ReservationCall.step at hr'
  cases hguard : PermissionsGuard.canActivate c.request.required c.user with
  | error x =>
    rw [hguard] at hr'
    exact absurd (hadStatus_self hr') hnew
  | ok u =>
    rw [hguard] at hr'
    have hholds := PermissionsGuard.canActivate_ok_iff.mp hguard
    unfold FormsAsHolder at hforms
    unfold ReservationRequest.exec at hr'
    cases hrequest : c.request with
    | look code =>
      rw [hrequest] at hr'
      exact absurd (hadStatus_self hr') hnew
    | anonymize id =>
      rw [hrequest] at hr'
      dsimp only [ReservationRequest.op] at hr'
      cases hdone : anonymize h id with
      | error x =>
        rw [hdone] at hr'
        exact absurd (hadStatus_self hr') hnew
      | ok h' =>
        rw [hdone] at hr'
        exact absurd (anonymize_status hdone hr') hnew
    | create dto newId =>
      rw [hrequest] at hr' hholds hforms
      obtain ⟨rfl, hsets⟩ := (mem_step_status hr').resolve_left hnew
      exact hforms (hholds _ List.mem_cons_self) _ ⟨rfl, hsets⟩ code hcode
    | update id dto =>
      rw [hrequest] at hr' hholds hforms
      obtain ⟨rfl, hsets⟩ := (mem_step_status hr').resolve_left hnew
      exact hforms (hholds _ List.mem_cons_self) _ ⟨rfl, hsets⟩ code hcode
    | swap dto =>
      rw [hrequest] at hr'
      exact ((mem_step_status hr').resolve_left hnew).elim
    | checkIn id | checkOut id | noShow id | cancel id reason =>
      rw [hrequest] at hr' hholds
      obtain ⟨-, hstatus⟩ := (mem_step_status hr').resolve_left hnew
      rw [hstatus] at hcode
      cases hcode
      try exact hholds _ List.mem_cons_self

end ReservationCall

/-- **Permissions are not bypassed**: in every run of requests in which the forms set a status for
holders of its permission only, whoever brings a reservation into a status holds its permission. -/
theorem permissions_run (h : Hotel) (calls : List ReservationCall)
    (hforms : StepsMeet ReservationCall.step (fun h c => c.FormsAsHolder h) h calls) :
    StepsMeet ReservationCall.step (fun h c => c.SetAsHolder h) h calls :=
  StepsMeet.imp (P := fun _ => True) (fun _ _ _ hok => ⟨trivial, ReservationCall.setAsHolder hok⟩)
    trivial hforms

/-! ## The front desk -/

/-- `DEFAULT_ROLE_PERMISSIONS.FRONT_DESK`: arrivals and departures, no cancellations. -/
def frontDeskPermissions : List String :=
  ["user.read", "reservation.read", "reservation.create", "reservation.update", "reservation.checkin",
    "reservation.checkout", "room.read", "rate.read", "guest.read", "guest.update", "folio.read",
    "folio.update", "payment.create", "cashregister.open", "hk.task.read", "report.view.operations"]

def frontDesk (request : ReservationRequest) : ReservationCall :=
  ⟨⟨1, 1, "porter@hotel.ru", .frontDesk, frontDeskPermissions, false, none, false⟩, request, 5⟩

/-- The front desk books, and lets the guest in by the button. -/
theorem permissions_run_frontDesk :
    StepsMeet ReservationCall.step (fun h c => c.SetAsHolder h) (.oneRoom false)
      [frontDesk (.create .oneNight 1), frontDesk (.checkIn 1)] := by
  refine permissions_run _ _ ⟨?_, trivial, trivial⟩
  intro _ s hsets code hcode
  rw [hsets.2.1] at hcode
  cases hcode

/-- **The front desk cancels by the form**, without `reservation.cancel`. -/
theorem frontDesk_cancels :
    ¬StepsMeet ReservationCall.step (fun h c => c.SetAsHolder h) (.oneRoom false)
      [frontDesk (.create .oneNight 1),
        frontDesk (.update 1 { UpdateReservationDto.ofVersion 1 with status := some .cancelled })] := by
  intro h
  let booked := (frontDesk (.create .oneNight 1)).step (.oneRoom false)
  let edit := frontDesk (.update 1 { UpdateReservationDto.ofVersion 1 with status := some .cancelled })
  have hbefore : ∀ r ∈ booked.reservations.rows, r.status = .confirmed := by decide +kernel
  have hafter : ((edit.step booked).reservations.find 1).map (·.status) = some .cancelled := by
    decide +kernel
  obtain ⟨r', hfind, hcancelled⟩ := Option.map_eq_some_iff.mp hafter
  have hnew : ¬booked.HadStatus r'.id r'.status := by
    rintro ⟨r, hr, -, hstatus⟩
    rw [hbefore r hr, hcancelled] at hstatus
    cases hstatus
  have hholds := h.2.1 r' (Table.find_eq_some.mp hfind).1 hnew "reservation.cancel"
    (by rw [hcancelled]; rfl)
  exact absurd hholds (by decide)

end KarsHotel
