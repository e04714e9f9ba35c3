import KarsHotel.Lib.History
import KarsHotel.Timeline.Service

/-!
# The board in real time

Answers are kept for five seconds and dropped when a reservation changes; the screens of the hotel
are told to read again.

* `BoardServer`: the tables of all hotels, the kept answers, the readings under way, the sockets;
* `BoardServer.step`: one event of one party; readings take four: to ask, to load rooms,
  to load reservations, to keep;
* **`board_recent`**: every answer is the board of its hotel, as loaded by its own reading, or by
  one that kept it at most five seconds ago with no change announced since;
* **`board_rooms`**: a socket is in a room exactly if it came with a token of that hotel and has not
  left; so news of a hotel reach its own screens only.
-/

namespace KarsHotel.TimelineService

structure BoardKey where
  tenantId : ℕ
  first : Day
  last : Day
  deriving DecidableEq, Repr

structure KeptAnswer where
  response : TimelineResponse
  expiresAt : Moment
  deriving DecidableEq, Repr

/-- What a hotel's board is made of. -/
abbrev BoardTables := TimelineColumns × Hotel

/-- How far a reading is that found nothing kept: the rooms are loaded, then the reservations. -/
inductive Reading where
  | asked (key : BoardKey)
  | rooms (key : BoardKey) (tables : BoardTables)
  | loaded (key : BoardKey) (response : TimelineResponse)

structure AccessPayload where
  sub : Option String
  tid : Option ℕ
  deriving DecidableEq, Repr

inductive UpdateAction where
  | created
  | updated
  | deleted
  deriving DecidableEq, Repr

structure BoardServer where
  tables : ℕ → BoardTables
  cache : EntryMap BoardKey KeptAnswer
  readings : ℕ → Option Reading
  sockets : List (ℕ × ℕ)

/-- One party's step. A reading and a socket have a number each. -/
inductive BoardEvent where
  | write (tenantId : ℕ) (tables : BoardTables)
  | invalidate (tenantId : ℕ)
  | notifyUpdate (tenantId : ℕ) (reservationId : Option ReservationId) (action : UpdateAction)
  | connect (client : ℕ) (token : Option String)
  | disconnect (client : ℕ)
  | get (reading : ℕ) (key : BoardKey)
  | loadRooms (reading : ℕ)
  | loadReservations (reading : ℕ)
  | keep (reading : ℕ)

def CACHE_TTL : ℤ := 5

/-- `jwt.verify` with the secret of access tokens: the claims of a token that is good at
the moment. -/
structure BoardConfig where
  verify : Moment → String → Option AccessPayload

def BoardConfig.verifiedTenantId (cfg : BoardConfig) (now : Moment) (token : Option String) : Option ℕ :=
  (token.filter (· ≠ "")).bind fun token => (cfg.verify now token).bind fun payload =>
    if (payload.sub.filter (· ≠ "")).isSome then payload.tid else none

/-- A kept answer as it is given out, with the seconds it still has. -/
def KeptAnswer.given (now : Moment) (kept : KeptAnswer) : TimelineResponse :=
  { kept.response with cacheTtl := (kept.expiresAt - now + 500) / 1000 }

/-- The board of a key, by the rooms of one moment and the reservations of another. -/
def boardOf (key : BoardKey) (rooms reservations : BoardTables) : TimelineResponse :=
  getTimeline { rooms.1 with localTime := reservations.1.localTime }
    { reservations.2 with rooms := rooms.2.rooms } key.first key.last

namespace BoardServer

/-- The kept answer of a key, while it lives. -/
def live (s : BoardServer) (now : Moment) (key : BoardKey) : Option KeptAnswer :=
  (s.cache.get key).filter fun kept => decide (now ≤ kept.expiresAt)

/-- What an event answers to the reading it belongs to. -/
def answer (s : BoardServer) (x : Moment × BoardEvent) : Option (BoardKey × TimelineResponse) :=
  match x.2 with
  | .get _ key => (s.live x.1 key).map fun kept => (key, KeptAnswer.given x.1 kept)
  | .keep i => match s.readings i with
    | some (.loaded key response) => some (key, response)
    | _ => none
  | _ => none

/-- The screens an event tells to read again, and of which hotel. -/
def told (s : BoardServer) (x : Moment × BoardEvent) : List (ℕ × ℕ) :=
  match x.2 with
  | .notifyUpdate tenantId _ _ => (s.sockets.filter fun y => decide (y.2 = tenantId)).map fun y =>
      (y.1, tenantId)
  | _ => []

def step (cfg : BoardConfig) (s : BoardServer) (x : Moment × BoardEvent) : BoardServer :=
  match x.2 with
  | .write tenantId tables => { s with tables := Function.update s.tables tenantId tables }
  | .invalidate tenantId => { s with cache := s.cache.remove fun e => decide (e.1.tenantId = tenantId) }
  | .notifyUpdate _ _ _ => s
  | .connect client token => match cfg.verifiedTenantId x.1 token with
    | some tenantId => { s with sockets := s.sockets ++ [(client, tenantId)] }
    | none => s
  | .disconnect client => { s with sockets := s.sockets.filter fun y => decide (y.1 ≠ client) }
  | .get i key => match s.live x.1 key with
    | some _ => s
    | none => { s with readings := Function.update s.readings i (some (.asked key)) }
  | .loadRooms i => match s.readings i with
    | some (.asked key) =>
      { s with readings := Function.update s.readings i (some (.rooms key (s.tables key.tenantId))) }
    | _ => s
  | .loadReservations i => match s.readings i with
    | some (.rooms key rooms) =>
      let response := boardOf key rooms (s.tables key.tenantId)
      { s with readings := Function.update s.readings i (some (.loaded key response)) }
    | _ => s
  | .keep i => match s.readings i with
    | some (.loaded key response) =>
      { s with
        cache := s.cache.set key ⟨response, x.1 + CACHE_TTL * 1000⟩
        readings := Function.update s.readings i none }
    | _ => s

/-- The server at the start: nothing kept, nobody connected. -/
def start (tables : ℕ → BoardTables) : BoardServer := ⟨tables, .empty, fun _ => none, []⟩

def run (cfg : BoardConfig) (tables : ℕ → BoardTables) (events : List (Moment × BoardEvent)) :
    BoardServer := events.foldl (step cfg) (start tables)

end BoardServer

/-! ## What is said of a run -/

section Runs

variable (cfg : BoardConfig) (tables : ℕ → BoardTables) (events : List (Moment × BoardEvent))

/-- Reading `i` loaded the rooms at place `l₁` of the run, the reservations at place `l₂`, and made
the answer of them. -/
def LoadedAt (i : ℕ) (key : BoardKey) (response : TimelineResponse) (l₁ l₂ : ℕ) : Prop :=
  l₁ < l₂ ∧ (∃ t, events[l₁]? = some (t, .loadRooms i)) ∧
    (∃ t, events[l₂]? = some (t, .loadReservations i)) ∧
    response = boardOf key ((BoardServer.run cfg tables (events.take l₁)).tables key.tenantId)
      ((BoardServer.run cfg tables (events.take l₂)).tables key.tenantId)

/-- A reading kept the answer at place `m`, and no change of the hotel has been announced since. -/
def KeptSince (key : BoardKey) (response : TimelineResponse) (expiresAt : Moment) : Prop :=
  ∃ i l₁ l₂ m t, LoadedAt cfg tables events i key response l₁ l₂ ∧ l₂ < m ∧
    events[m]? = some (t, .keep i) ∧ expiresAt = t + CACHE_TTL * 1000 ∧
    ∀ k, m < k → ∀ y, events[k]? = some y → y.2 ≠ .invalidate key.tenantId

/-- What a run keeps of its readings and its kept answers. -/
structure BoardInv (s : BoardServer) : Prop where
  rooms : ∀ i key rooms, s.readings i = some (.rooms key rooms) → ∃ l t,
    events[l]? = some (t, .loadRooms i) ∧
      rooms = (BoardServer.run cfg tables (events.take l)).tables key.tenantId
  loaded : ∀ i key response, s.readings i = some (.loaded key response) →
    ∃ l₁ l₂, LoadedAt cfg tables events i key response l₁ l₂
  cache : ∀ key kept, s.cache.get key = some kept →
    KeptSince cfg tables events key kept.response kept.expiresAt

variable {cfg tables events} {x : Moment × BoardEvent} {s : BoardServer}

theorem LoadedAt.concat {i : ℕ} {key : BoardKey} {response : TimelineResponse} {l₁ l₂ : ℕ}
    (h : LoadedAt cfg tables events i key response l₁ l₂) :
    LoadedAt cfg tables (events ++ [x]) i key response l₁ l₂ := by
  obtain ⟨hlt, ⟨t₁, h₁⟩, ⟨t₂, h₂⟩, heq⟩ := h
  refine ⟨hlt, ⟨t₁, getElem?_concat_of_eq_some h₁⟩, ⟨t₂, getElem?_concat_of_eq_some h₂⟩, ?_⟩
  rwa [(take_concat_of_eq_some h₁).1, (take_concat_of_eq_some h₂).1]

theorem KeptSince.concat {key : BoardKey} {response : TimelineResponse} {expiresAt : Moment}
    (h : KeptSince cfg tables events key response expiresAt) (hx : x.2 ≠ .invalidate key.tenantId) :
    KeptSince cfg tables (events ++ [x]) key response expiresAt := by
  obtain ⟨i, l₁, l₂, m, t, hloaded, hlt, hkeep, hexp, hnone⟩ := h
  exact ⟨i, l₁, l₂, m, t, hloaded.concat, hlt, getElem?_concat_of_eq_some hkeep, hexp,
    forall_between_concat.mpr ⟨hnone, fun _ => hx⟩⟩

theorem BoardInv.same (h : BoardInv cfg tables events s) {s' : BoardServer}
    (hreadings : s'.readings = s.readings)
    (hcache : ∀ key kept, s'.cache.get key = some kept →
      s.cache.get key = some kept ∧ x.2 ≠ .invalidate key.tenantId) :
    BoardInv cfg tables (events ++ [x]) s' where
  rooms i key rooms hr := by
    obtain ⟨l, t, hl, heq⟩ := h.rooms i key rooms (hreadings ▸ hr)
    exact ⟨l, t, getElem?_concat_of_eq_some hl, by rwa [(take_concat_of_eq_some hl).1]⟩
  loaded i key response hr := by
    obtain ⟨l₁, l₂, hloaded⟩ := h.loaded i key response (hreadings ▸ hr)
    exact ⟨l₁, l₂, hloaded.concat⟩
  cache key kept hk := by
    obtain ⟨hold, hx⟩ := hcache key kept hk
    exact (h.cache key kept hold).concat hx

theorem BoardInv.moved (h : BoardInv cfg tables events s) {s' : BoardServer} {i : ℕ} {r : Option Reading}
    (hreadings : s'.readings = Function.update s.readings i r) (hcache : s'.cache = s.cache)
    (hx : ∀ t, x.2 ≠ .invalidate t)
    (hrooms : ∀ key rooms, r = some (.rooms key rooms) → ∃ l t,
      (events ++ [x])[l]? = some (t, .loadRooms i) ∧
        rooms = (BoardServer.run cfg tables ((events ++ [x]).take l)).tables key.tenantId)
    (hloaded : ∀ key response, r = some (.loaded key response) →
      ∃ l₁ l₂, LoadedAt cfg tables (events ++ [x]) i key response l₁ l₂) :
    BoardInv cfg tables (events ++ [x]) s' := by
  have hsame : BoardInv cfg tables (events ++ [x]) s := h.same rfl fun _ _ hk => ⟨hk, hx _⟩
  refine ⟨fun j key rooms hr => ?_, fun j key response hr => ?_, fun key kept hk => ?_⟩
  · rw [hreadings] at hr
    by_cases hj : j = i
    · subst hj
      rw [Function.update_self] at hr
      exact hrooms key rooms hr
    · rw [Function.update_of_ne hj] at hr
      exact hsame.rooms j key rooms hr
  · rw [hreadings] at hr
    by_cases hj : j = i
    · subst hj
      rw [Function.update_self] at hr
      exact hloaded key response hr
    · rw [Function.update_of_ne hj] at hr
      exact hsame.loaded j key response hr
  · rw [hcache] at hk
    exact hsame.cache key kept hk

theorem BoardServer.run_concat : BoardServer.run cfg tables (events ++ [x]) =
    (BoardServer.run cfg tables events).step cfg x := List.foldl_concat ..

/-- **Every event keeps what is known of the readings and the kept answers.** -/
theorem BoardInv.step (h : BoardInv cfg tables events (BoardServer.run cfg tables events)) :
    BoardInv cfg tables (events ++ [x]) (BoardServer.run cfg tables (events ++ [x])) := by
  have hrun : BoardServer.run cfg tables (events ++ [x]) =
      (BoardServer.run cfg tables events).step cfg x := BoardServer.run_concat
  have hlast : (events ++ [x])[events.length]? = some x := getElem?_last
  obtain ⟨now, event⟩ := x
  rw [hrun]
  cases event with
  | write tenantId t => exact h.same rfl fun _ _ hk => ⟨hk, by simp⟩
  | invalidate tenantId =>
    refine h.same rfl fun key kept hk => ?_
    have hfind := Table.find_remove (BoardServer.run cfg tables events).cache
      (fun e => decide (e.1.tenantId = tenantId)) key
    unfold EntryMap.get at hk ⊢
    simp only [BoardServer.step] at hk
    rw [hfind] at hk
    obtain ⟨e, he, rfl⟩ := Option.map_eq_some_iff.mp hk
    obtain ⟨he, hne⟩ := Option.filter_eq_some_iff.mp he
    obtain ⟨_, rfl⟩ := Table.find_eq_some.mp he
    refine ⟨by rw [he]; rfl, fun hx => ?_⟩
    obtain rfl : tenantId = e.1.tenantId := BoardEvent.invalidate.inj hx
    simp at hne
  | notifyUpdate => exact h.same rfl fun _ _ hk => ⟨hk, by simp⟩
  | connect client token =>
    simp only [BoardServer.step]
    cases cfg.verifiedTenantId now token with
    | none => exact h.same rfl fun _ _ hk => ⟨hk, by simp⟩
    | some tenantId => exact h.same rfl fun _ _ hk => ⟨hk, by simp⟩
  | disconnect client => exact h.same rfl fun _ _ hk => ⟨hk, by simp⟩
  | get i key =>
    simp only [BoardServer.step]
    cases (BoardServer.run cfg tables events).live now key with
    | some kept => exact h.same rfl fun _ _ hk => ⟨hk, by simp⟩
    | none =>
      refine h.moved rfl rfl (by simp) ?_ ?_
      · rintro _ _ ⟨⟩
      · rintro _ _ ⟨⟩
  | loadRooms i =>
    simp only [BoardServer.step]
    cases hr : (BoardServer.run cfg tables events).readings i with
    | none => exact h.same rfl fun _ _ hk => ⟨hk, by simp⟩
    | some r =>
      cases r with
      | asked key =>
        refine h.moved rfl rfl (by simp) (fun key' rooms heq => ?_) (by rintro _ _ ⟨⟩)
        cases heq
        exact ⟨events.length, now, hlast, by rw [take_last]⟩
      | rooms => exact h.same rfl fun _ _ hk => ⟨hk, by simp⟩
      | loaded => exact h.same rfl fun _ _ hk => ⟨hk, by simp⟩
  | loadReservations i =>
    simp only [BoardServer.step]
    cases hr : (BoardServer.run cfg tables events).readings i with
    | none => exact h.same rfl fun _ _ hk => ⟨hk, by simp⟩
    | some r =>
      cases r with
      | asked => exact h.same rfl fun _ _ hk => ⟨hk, by simp⟩
      | rooms key rooms =>
        refine h.moved rfl rfl (by simp) (by rintro _ _ ⟨⟩) fun key' response heq => ?_
        cases heq
        obtain ⟨l, t, hl, hrooms⟩ := h.rooms i key rooms hr
        refine ⟨l, events.length, lt_length_of_eq_some hl, ⟨t, getElem?_concat_of_eq_some hl⟩,
          ⟨now, hlast⟩, ?_⟩
        rw [(take_concat_of_eq_some hl).1, take_last, ← hrooms]
      | loaded => exact h.same rfl fun _ _ hk => ⟨hk, by simp⟩
  | keep i =>
    simp only [BoardServer.step]
    cases hr : (BoardServer.run cfg tables events).readings i with
    | none => exact h.same rfl fun _ _ hk => ⟨hk, by simp⟩
    | some r =>
      cases r with
      | asked => exact h.same rfl fun _ _ hk => ⟨hk, by simp⟩
      | rooms => exact h.same rfl fun _ _ hk => ⟨hk, by simp⟩
      | loaded key response =>
        obtain ⟨l₁, l₂, hloaded⟩ := h.loaded i key response hr
        have hmoved : BoardInv cfg tables (events ++ [(now, .keep i)])
            { BoardServer.run cfg tables events with
              readings := Function.update (BoardServer.run cfg tables events).readings i none } :=
          h.moved rfl rfl (by simp) (by rintro _ _ ⟨⟩) (by rintro _ _ ⟨⟩)
        refine ⟨hmoved.rooms, hmoved.loaded, fun key' kept hk => ?_⟩
        by_cases hkey : key' = key
        · subst hkey
          simp only [EntryMap.get_set_self, Option.some.injEq] at hk
          subst hk
          refine ⟨i, l₁, l₂, events.length, now, hloaded.concat, ?_, hlast, rfl,
            forall_between_concat.mpr ⟨fun k hk y hy => ?_, fun hlt => absurd hlt (Nat.lt_irrefl _)⟩⟩
          · obtain ⟨_, _, ⟨t, ht⟩, _⟩ := hloaded
            exact lt_length_of_eq_some ht
          · exact absurd (lt_length_of_eq_some hy) (Nat.not_lt.mpr (Nat.le_of_lt hk))
        · simp only [EntryMap.get_set_of_ne _ _ hkey] at hk
          exact hmoved.cache key' kept hk

theorem boardInv_run (cfg : BoardConfig) (tables : ℕ → BoardTables) (events : List (Moment × BoardEvent)) :
    BoardInv cfg tables events (BoardServer.run cfg tables events) := by
  induction events using List.reverseRecOn with
  | nil =>
    refine ⟨fun i key rooms h => ?_, fun i key response h => ?_, fun key kept h => ?_⟩
    · cases h
    · cases h
    · cases h
  | append_singleton events x ih => exact ih.step

/-- **Every answer is the board of its hotel**, after any events of any parties: it was loaded by
the reading it answers, or by a reading that kept it five seconds ago at most, with no change of the
hotel announced since. -/
theorem board_recent (cfg : BoardConfig) (tables : ℕ → BoardTables) (events : List (Moment × BoardEvent))
    (x : Moment × BoardEvent) (key : BoardKey) (response : TimelineResponse)
    (h : (BoardServer.run cfg tables events).answer x = some (key, response)) :
    (∃ i l₁ l₂, x.2 = .keep i ∧ LoadedAt cfg tables events i key response l₁ l₂) ∨
      ∃ kept : KeptAnswer, KeptSince cfg tables events key kept.response kept.expiresAt ∧
        x.1 ≤ kept.expiresAt ∧ response = kept.given x.1 := by
  have hinv := boardInv_run cfg tables events
  obtain ⟨now, event⟩ := x
  cases event with
  | get i key' =>
    simp only [BoardServer.answer] at h
    obtain ⟨kept, hkept, heq⟩ := Option.map_eq_some_iff.mp h
    cases heq
    obtain ⟨hget, hlive⟩ := Option.filter_eq_some_iff.mp hkept
    exact Or.inr ⟨kept, hinv.cache key kept hget, of_decide_eq_true hlive, rfl⟩
  | keep i =>
    simp only [BoardServer.answer] at h
    cases hr : (BoardServer.run cfg tables events).readings i with
    | none => simp [hr] at h
    | some r =>
      rw [hr] at h
      cases r with
      | asked => cases h
      | rooms => cases h
      | loaded key' response' =>
        cases h
        obtain ⟨l₁, l₂, hloaded⟩ := hinv.loaded i key response hr
        exact Or.inl ⟨i, l₁, l₂, rfl, hloaded⟩
  | _ => cases h

/-- Two seconds after a reading kept the board, another is given it. -/
theorem board_recent_kept :
    let cfg : BoardConfig := ⟨fun _ _ => none⟩
    let columns : TimelineColumns := ⟨fun _ => "101", fun _ => 1, fun _ => .none, fun _ => "STD",
      fun _ => "Standard", fun _ => 500000, fun _ => 0, fun _ => ""⟩
    let hotel : Hotel := ⟨false, Table.empty.insert ⟨1, 7, 2, true, .clean⟩, .empty, .empty⟩
    let tables : ℕ → BoardTables := fun _ => (columns, hotel)
    let key : BoardKey := ⟨3, 10, 16⟩
    let events : List (Moment × BoardEvent) := [(0, .get 1 key), (1, .loadRooms 1),
      (2, .loadReservations 1), (3, .keep 1)]
    let response : TimelineResponse := ⟨10, 16, [⟨7, "STD", "Standard", 0, 500000,
      [⟨1, "101", 1, .clean, 2, .none, []⟩]⟩], 3⟩
    (∃ i l₁ l₂, BoardEvent.get 2 key = .keep i ∧ LoadedAt cfg tables events i key response l₁ l₂) ∨
      ∃ kept : KeptAnswer, KeptSince cfg tables events key kept.response kept.expiresAt ∧
        2000 ≤ kept.expiresAt ∧ response = kept.given 2000 := by
  intro cfg columns hotel tables key events response
  exact board_recent cfg tables events (2000, .get 2 key) key response (by decide +kernel)

/-! ## The rooms of the sockets -/

/-- A socket came at place `c` with a good token of the hotel and has not left since. -/
def ConnectedSince (cfg : BoardConfig) (events : List (Moment × BoardEvent)) (client tenantId : ℕ) : Prop :=
  ∃ (c : ℕ) (t : Moment) (token : Option String), events[c]? = some (t, .connect client token) ∧
    cfg.verifiedTenantId t token = some tenantId ∧
    ∀ k, c < k → ∀ y, events[k]? = some y → y.2 ≠ .disconnect client

theorem connectedSince_concat {client tenantId : ℕ} :
    ConnectedSince cfg (events ++ [x]) client tenantId ↔
      (∃ token, x.2 = .connect client token ∧ cfg.verifiedTenantId x.1 token = some tenantId) ∨
        ConnectedSince cfg events client tenantId ∧ x.2 ≠ .disconnect client := by
  constructor
  · rintro ⟨c, t, token, hc, hok, hnone⟩
    obtain ⟨hnone, hx⟩ := forall_between_concat.mp hnone
    by_cases hlt : c < events.length
    · rw [List.getElem?_append_left hlt] at hc
      exact Or.inr ⟨⟨c, t, token, hc, hok, hnone⟩, hx hlt⟩
    · have hlen := lt_length_of_eq_some hc
      rw [List.length_append, List.length_singleton] at hlen
      obtain rfl : c = events.length := by omega
      rw [getElem?_last] at hc
      obtain rfl := Option.some.inj hc
      exact Or.inl ⟨token, rfl, hok⟩
  · rintro (⟨token, hx, hok⟩ | ⟨⟨c, t, token, hc, hok, hnone⟩, hx⟩)
    · refine ⟨events.length, x.1, token, ?_, hok, forall_between_concat.mpr ⟨fun k hk y hy => ?_, ?_⟩⟩
      · rw [getElem?_last, ← hx]
      · exact absurd (lt_length_of_eq_some hy) (Nat.not_lt.mpr (Nat.le_of_lt hk))
      · exact fun hlt => absurd hlt (Nat.lt_irrefl _)
    · exact ⟨c, t, token, getElem?_concat_of_eq_some hc, hok, forall_between_concat.mpr ⟨hnone, fun _ => hx⟩⟩

/-- Only those who come and leave change the rooms. -/
theorem BoardServer.sockets_step (hin : ∀ client token, x.2 ≠ .connect client token)
    (hout : ∀ client, x.2 ≠ .disconnect client) : (s.step cfg x).sockets = s.sockets := by
  obtain ⟨now, event⟩ := x
  cases event with
  | connect client token => exact absurd rfl (hin client token)
  | disconnect client => exact absurd rfl (hout client)
  | get => simp only [BoardServer.step]; split <;> rfl
  | loadRooms => simp only [BoardServer.step]; split <;> rfl
  | loadReservations => simp only [BoardServer.step]; split <;> rfl
  | keep => simp only [BoardServer.step]; split <;> rfl
  | _ => rfl

theorem mem_sockets (cfg : BoardConfig) (tables : ℕ → BoardTables) (events : List (Moment × BoardEvent))
    (client tenantId : ℕ) : (client, tenantId) ∈ (BoardServer.run cfg tables events).sockets ↔
      ConnectedSince cfg events client tenantId := by
  induction events using List.reverseRecOn with
  | nil =>
    refine ⟨fun h => (nomatch h), ?_⟩
    rintro ⟨c, t, token, hc, _⟩
    cases hc
  | append_singleton events x ih =>
    rw [connectedSince_concat, ← ih, BoardServer.run_concat]
    obtain ⟨now, event⟩ := x
    cases event with
    | connect client' token =>
      simp only [BoardServer.step]
      cases hv : cfg.verifiedTenantId now token with
      | none =>
        refine ⟨fun h => Or.inr ⟨h, by simp⟩, ?_⟩
        rintro (⟨token', hx, hok⟩ | ⟨h, _⟩)
        · cases hx
          rw [hv] at hok
          cases hok
        · exact h
      | some room =>
        rw [List.mem_append, List.mem_singleton, Prod.mk.injEq]
        constructor
        · rintro (h | ⟨rfl, rfl⟩)
          · exact Or.inr ⟨h, by simp⟩
          · exact Or.inl ⟨token, rfl, hv⟩
        · rintro (⟨token', hx, hok⟩ | ⟨h, _⟩)
          · cases hx
            exact Or.inr ⟨rfl, Option.some.inj (hok.symm.trans hv)⟩
          · exact Or.inl h
    | disconnect client' =>
      simp only [BoardServer.step, List.mem_filter, decide_eq_true_eq]
      constructor
      · rintro ⟨h, hne⟩
        exact Or.inr ⟨h, fun hx => hne (BoardEvent.disconnect.inj hx).symm⟩
      · rintro (⟨token, hx, _⟩ | ⟨h, hx⟩)
        · cases hx
        · exact ⟨h, fun heq => hx (by rw [heq])⟩
    | _ =>
      rw [BoardServer.sockets_step (by simp) (by simp)]
      exact ⟨fun h => Or.inr ⟨h, by simp⟩, fun h => (h.resolve_left (by simp)).1⟩

/-- **News of a hotel reach its own screens**, all of them and no others. -/
theorem board_rooms (cfg : BoardConfig) (tables : ℕ → BoardTables) (events : List (Moment × BoardEvent))
    (now : Moment) (tenantId : ℕ) (reservationId : Option ReservationId) (action : UpdateAction)
    (client room : ℕ) : (client, room) ∈ (BoardServer.run cfg tables events).told
        (now, .notifyUpdate tenantId reservationId action) ↔
      room = tenantId ∧ ConnectedSince cfg events client tenantId := by
  rw [← mem_sockets cfg tables]
  simp only [BoardServer.told, List.mem_map, List.mem_filter, decide_eq_true_eq, Prod.mk.injEq]
  constructor
  · rintro ⟨⟨client', room'⟩, ⟨hmem, rfl⟩, rfl, rfl⟩
    exact ⟨rfl, hmem⟩
  · rintro ⟨rfl, hmem⟩
    exact ⟨(client, room), ⟨hmem, rfl⟩, rfl, rfl⟩

end Runs

end KarsHotel.TimelineService
