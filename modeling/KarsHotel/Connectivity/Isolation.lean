import KarsHotel.Connectivity.PartnerCalls

/-!
# Partners do not see each other's reservations

The hotels of the platform, each with its own store, and the calls of a partner on one reservation.

* `Platform`, `Platform.serve`, `Platform.serveAll`: the hotels, a call, and a sequence of calls;
* `Foreign`: a reservation of another hotel, of the hotel itself or of another partner;
* `serve_of_foreign`: a call on a foreign reservation is refused and changes nothing;
* **`isolation`**: no sequence of calls tells it from a reservation that does not exist.
-/

namespace KarsHotel

/-! ## The platform -/

/-- The hotels and their stores. A transaction in the context of a hotel sees its store only. -/
structure Platform where
  tenants : Table fun t : TenantRow => t.slug
  store : ℕ → ConnectStore

/-- The slug of the platform itself. -/
def PLATFORM_SLUG : String := "platform"

def hotelNotFound (slug : String) : Failure := .notFound ("Hotel '" ++ slug ++ "' not found")

/-- A call on one reservation of one hotel. -/
structure PartnerCall where
  slug : String
  partnerId : PartnerId
  id : ReservationId
  request : PartnerRequest

/-- A store without a reservation, its meal days and its folio. -/
def ConnectStore.without (s : ConnectStore) (id : ReservationId) : ConnectStore where
  hotel :=
    { s.hotel with
      reservations := s.hotel.reservations.remove fun r => decide (r.id = id)
      folios := s.hotel.folios.remove fun f => decide (f.reservationId = id) }
  meals := s.meals.remove fun m => decide (m.reservationId = id)
  roomNumber := s.roomNumber

namespace Platform

/-- The hotel of a slug, unless it is switched off. -/
def resolveTenant (p : Platform) (slug : String) : Except Failure TenantRow :=
  if slug = PLATFORM_SLUG then .error (hotelNotFound slug)
  else match p.tenants.find slug with
    | none => .error (hotelNotFound slug)
    | some tenant => if tenant.isActive then .ok tenant else .error (hotelNotFound slug)

/-- A call: its answer, and the platform after it. -/
def serve (p : Platform) (c : PartnerCall) (env : CallEnv) :
    Except Failure PartnerAnswer × Platform :=
  match p.resolveTenant c.slug with
  | .error x => (.error x, p)
  | .ok tenant =>
    let r := (c.request.call tenant c.partnerId c.id).run env (p.store tenant.id)
      (p.store tenant.id)
    (r.1, { p with store := Function.update p.store tenant.id r.2 })

/-- Calls one after the other: their answers, and the platform after them. -/
def serveAll (p : Platform) : List (PartnerCall × CallEnv) →
    List (Except Failure PartnerAnswer) × Platform
  | [] => ([], p)
  | (c, env) :: calls =>
    let r := p.serve c env
    let rest := r.2.serveAll calls
    (r.1 :: rest.1, rest.2)

/-- The platform without a reservation. -/
def without (p : Platform) (id : ReservationId) : Platform :=
  { p with store := fun t => (p.store t).without id }

/-- Every reservation of the id belongs to another hotel than that of the slug, is not managed by a
channel, or belongs to another partner or to none. -/
def Foreign (p : Platform) (slug : String) (partnerId : PartnerId) (id : ReservationId) : Prop :=
  ∀ t r, (p.store t).hotel.reservations.find id = some r →
    (∀ tenant, p.resolveTenant slug = .ok tenant → tenant.id ≠ t) ∨
      r.channelManaged = false ∨ r.partnerId ≠ some partnerId

end Platform

/-! ## One call -/

section Refused

variable {tenant : TenantRow} {id : ReservationId} {partnerId : PartnerId} {s : ConnectStore}

/-- The store has no reservation of the id that the partner may see. -/
def ConnectStore.Hides (s : ConnectStore) (partnerId : PartnerId) (id : ReservationId) : Prop :=
  ∀ r, s.hotel.reservations.find id = some r →
    r.channelManaged = false ∨ r.partnerId ≠ some partnerId

theorem run_getReservation_bind {α : Type} (h : s.Hides partnerId id) (env : CallEnv)
    (g : ReservationView → Prog connectDb Failure α) :
    (getReservation tenant id partnerId >>= g).run env s s =
      (.error (notFoundInHotel tenant id), s) := by
  rw [getReservation, Prog.bind_assoc, Prog.run_eq_eval, Prog.eval_bind, Prog.eval_transact,
    readReservation, Tx.exec_read, Tx.exec_ret]
  cases hr : s.hotel.reservations.find id with
  | none => rfl
  | some r =>
    have hhidden : !r.channelManaged ∨ r.partnerId ≠ some partnerId := by
      simpa using h r hr
    simp only [Option.map_some, if_pos hhidden]
    rfl

/-- **Every call starts with `getReservation`.** -/
theorem call_eq_bind (tenant : TenantRow) (partnerId : PartnerId) (id : ReservationId)
    (request : PartnerRequest) : ∃ g, request.call tenant partnerId id =
      getReservation tenant id partnerId >>= g := by
  cases request with
  | get => exact ⟨_, rfl⟩
  | update dto => exact ⟨_, Prog.bind_assoc ..⟩
  | cancel reason => exact ⟨_, Prog.bind_assoc ..⟩
  | setMeals days => exact ⟨_, Prog.bind_assoc ..⟩
  | getMeals => exact ⟨_, Prog.bind_assoc ..⟩
  | getFacts => exact ⟨_, Prog.bind_assoc ..⟩
  | recordStayFact fact moment => exact ⟨_, Prog.bind_assoc ..⟩

/-- A call on a hidden reservation is refused, whatever it asks for, and writes nothing. -/
theorem run_call_of_hides (h : s.Hides partnerId id) (request : PartnerRequest) (env : CallEnv) :
    (request.call tenant partnerId id).run env s s = (.error (notFoundInHotel tenant id), s) := by
  obtain ⟨g, hg⟩ := call_eq_bind tenant partnerId id request
  rw [hg]
  exact run_getReservation_bind h env g

end Refused

/-! ## The platform after a call -/

namespace Platform

variable {p : Platform} {slug : String} {partnerId : PartnerId} {id : ReservationId}

/-- The refusal of a call on a reservation that is not there. -/
def refusal (p : Platform) (slug : String) (id : ReservationId) : Failure :=
  match p.resolveTenant slug with
  | .error x => x
  | .ok tenant => notFoundInHotel tenant id

theorem Foreign.hides (h : p.Foreign slug partnerId id) {tenant : TenantRow}
    (ht : p.resolveTenant slug = .ok tenant) : (p.store tenant.id).Hides partnerId id := by
  intro r hr
  rcases h tenant.id r hr with helsewhere | hother
  · exact absurd rfl (helsewhere tenant ht)
  · exact hother

theorem find_without (s : ConnectStore) (id : ReservationId) :
    (s.without id).hotel.reservations.find id = none := by
  rw [Table.find_eq_none]
  intro r hr hid
  have := (Table.mem_remove.mp hr).2
  simp [hid] at this

theorem foreign_without (p : Platform) (slug : String) (partnerId : PartnerId)
    (id : ReservationId) : (p.without id).Foreign slug partnerId id := by
  intro t r hr
  rw [show ((p.without id).store t) = (p.store t).without id from rfl, find_without] at hr
  cases hr

/-- **A call on a foreign reservation** is refused and changes nothing. -/
theorem serve_of_foreign (h : p.Foreign slug partnerId id) (request : PartnerRequest)
    (env : CallEnv) :
    p.serve ⟨slug, partnerId, id, request⟩ env = (.error (p.refusal slug id), p) := by
  unfold serve refusal
  cases ht : p.resolveTenant slug with
  | error x => rfl
  | ok tenant =>
    simp only [run_call_of_hides (h.hides ht), Function.update_eq_self]

theorem serveAll_of_foreign (h : p.Foreign slug partnerId id)
    (calls : List (PartnerRequest × CallEnv)) :
    p.serveAll (calls.map fun c => (⟨slug, partnerId, id, c.1⟩, c.2)) =
      (calls.map fun _ => .error (p.refusal slug id), p) := by
  induction calls with
  | nil => rfl
  | cons c calls ih =>
    rw [List.map_cons, serveAll, serve_of_foreign h, ih]
    rfl

/-- **A partner cannot tell a foreign reservation from one that does not exist**: after any sequence
of its calls the platform is as it was, and the answers are those it gets without the
reservation. -/
theorem isolation (h : p.Foreign slug partnerId id) (calls : List (PartnerRequest × CallEnv)) :
    let asked := calls.map fun c => ((⟨slug, partnerId, id, c.1⟩ : PartnerCall), c.2)
    (p.serveAll asked).2 = p ∧ (p.serveAll asked).1 = ((p.without id).serveAll asked).1 := by
  intro asked
  rw [serveAll_of_foreign h, serveAll_of_foreign (foreign_without p slug partnerId id)]
  exact ⟨rfl, rfl⟩

/-- One hotel with a reservation of partner 2. -/
def oneBooking : Platform where
  tenants := ⟨[⟨⟨1, "inn"⟩, "RUB", true⟩], by decide⟩
  store _ :=
    { ConnectStore.oneRoom with
      hotel := (Hotel.oneRoom false).insertReservation
        (CreateReservationDto.oneNight.row .empty (some ⟨2, none⟩) 1 1 1) }

theorem isolation_oneBooking :
    let calls : List (PartnerCall × CallEnv) := [(⟨"inn", 1, 1, .get⟩, .noPlans),
      (⟨"inn", 1, 1, .cancel none⟩, .noPlans)]
    (oneBooking.serveAll calls).2 = oneBooking ∧
      (oneBooking.serveAll calls).1 = ((oneBooking.without 1).serveAll calls).1 := by
  have hforeign : oneBooking.Foreign "inn" 1 1 := by
    intro t r hr
    have hpartner : (oneBooking.store 1).hotel.reservations.find 1 = some r := hr
    have hr' : ((oneBooking.store 1).hotel.reservations.find 1).map (·.partnerId) =
        some (some 2) := by decide +kernel
    rw [hpartner] at hr'
    simp only [Option.map_some, Option.some.injEq] at hr'
    exact .inr (.inr (by rw [hr']; decide))
  exact isolation hforeign [(.get, .noPlans), (.cancel none, .noPlans)]

end Platform

end KarsHotel
