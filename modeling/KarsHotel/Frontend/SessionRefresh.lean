import KarsHotel.Lib.Run
import KarsHotel.Lib.Table
import Mathlib.Data.List.Infix

/-!
# Renewing a session in a browser tab

The token of a tab, its one refresh under way and the requests it has sent. An answer, a sign-in and
a sign-out are events; what follows an event in the same turn of the event loop (the handlers of the
refresh, the requests sent again) belongs to it.

* `sessionOf`, `isSameSession`, `sessionCookiePath`: whose session a token carries;
* `Tab`, `TabEvent`, `Tab.step`: the tab and its events; `Tab.run`: a run from an empty tab;
* `Tab.refreshAnswered_token`: what the answer of a refresh does to the token;
* `Tab.run_held`: the refresh under way remembers the token it started with;
* **`tab_sessions`**: a refresh leaves newer tokens and other sessions alone, a request is sent
  again once, and under its own session if the tab has kept it until the answer.
-/

namespace KarsHotel

/-! ## Sessions -/

/-- The fields of a token's body that name its session. -/
structure TokenPayload where
  tid : Option String
  sub : Option String
  imp : Option String
  deriving DecidableEq, Repr

/-- A token: its text, and its body where the text has one. -/
structure AccessToken where
  text : String
  payload : Option TokenPayload
  deriving DecidableEq, Repr

/-- Whose session it is: the hotel, the person, on whose behalf. -/
structure TabSession where
  tid : String
  sub : String
  imp : Option String
  deriving DecidableEq, Repr

/-- Whose session a token carries. -/
def sessionOf (token : Option AccessToken) : Option TabSession :=
  (token.bind (·.payload)).bind fun p =>
    (p.tid.filter (· ≠ "")).bind fun tid => (p.sub.filter (· ≠ "")).map fun sub => ⟨tid, sub, p.imp⟩

def isSameSession (a b : Option TabSession) : Bool := a.isSome && b.isSome && decide (a = b)

theorem isSameSession_some {a : TabSession} {b : Option TabSession} :
    isSameSession (some a) b = true ↔ b = some a := by
  unfold isSameSession
  cases b with
  | none => simp
  | some b => simp [eq_comm]

/-- A character that an address takes as it is. -/
def unreservedChar (c : Char) : Bool := c.isAlphanum || "-_.!~*'()".toList.contains c

def hexDigit (n : ℕ) : Char := "0123456789ABCDEF".toList.getD n '0'

def encodeURIComponent (text : String) : String :=
  String.ofList (text.toList.flatMap fun c =>
    if unreservedChar c then [c]
    else c.toString.toUTF8.toList.flatMap fun b =>
      ['%', hexDigit (b.toNat / 16), hexDigit (b.toNat % 16)])

/-- `session?.imp`, where it is not empty. -/
def onBehalf (session : Option TabSession) : Option String :=
  session.bind fun s => s.imp.filter (· ≠ "")

/-- The cookie of a session: a session on behalf of a hotel has that hotel's. -/
def sessionCookiePath (session : Option TabSession) : String :=
  match session with
  | none => "/auth"
  | some s =>
    if (onBehalf session).isSome then "/auth/hotel/" ++ encodeURIComponent s.tid else "/auth"

/-! ## The tab -/

inductive StopReason where
  | displaced
  | ended
  deriving DecidableEq, Repr

/-- Where a request is: on its way, waiting for the refresh, or over. -/
inductive RequestPhase where
  | sent
  | waiting
  | over
  deriving DecidableEq, Repr

/-- A request of the tab. `tokens` are the tokens it was sent with, the first one first; `none` is
the header without a token. -/
structure TabRequest where
  id : ℕ
  url : String
  retried : Bool
  phase : RequestPhase
  tokens : List (Option AccessToken)
  deriving DecidableEq, Repr

/-- The refresh under way: the token of the tab at its start, and where it went. -/
structure RefreshUnderWay where
  held : Option AccessToken
  path : String
  deriving DecidableEq, Repr

structure Tab where
  accessToken : Option AccessToken
  impersonating : Bool
  inFlight : Option RefreshUnderWay
  stoppedOn : Option AccessToken
  stoppedReason : Option StopReason
  requests : Table TabRequest.id

def Tab.opened : Tab := ⟨none, false, none, none, none, .empty⟩

/-- How a refresh ends: with the token of the answer, or with a failure; without a status the
network failed. -/
inductive RefreshAnswer where
  | token (token : Option AccessToken)
  | failed (status : Option ℕ)
  deriving DecidableEq, Repr

inductive TabEvent where
  | send (id : ℕ) (url : String)
  | answer (id : ℕ) (status : Option ℕ)
  | refresh
  | refreshAnswer (answer : RefreshAnswer)
  | setAccessToken (token : Option AccessToken)
  | setImpersonating (val : Bool)
  deriving DecidableEq, Repr

namespace Tab

/-- `stop`: the token the tab was stopped on stays in the tab. -/
def stop (s : Tab) (held : Option AccessToken) (reason : StopReason) : Tab :=
  { s with stoppedOn := held, stoppedReason := some reason }

/-- The tab is stopped on the token it holds. -/
def isStopped (s : Tab) : Bool := s.accessToken.isSome && decide (s.accessToken = s.stoppedOn)

/-- The refresh of a tab that is not stopped: the one under way, or a new one. -/
def startRefresh (s : Tab) : Tab :=
  if s.inFlight.isSome then s
  else { s with inFlight := some ⟨s.accessToken, sessionCookiePath (sessionOf s.accessToken) ++ "/refresh"⟩ }

/-- `refresh`. -/
def refresh (s : Tab) : Tab := if s.isStopped then s else s.startRefresh

/-- The request sent again with the token of the refresh; the tab's own token, if there is one,
takes its place in the header. -/
def resend (current token : Option AccessToken) (r : TabRequest) : TabRequest :=
  if r.phase = .waiting then
    { r with retried := true, phase := .sent, tokens := r.tokens ++ [current.or token] }
  else r

theorem resend_id (current token : Option AccessToken) (r : TabRequest) :
    (resend current token r).id = r.id := by
  unfold resend
  split_ifs <;> rfl

/-- The waiting request gives up. -/
def giveUp (r : TabRequest) : TabRequest :=
  if r.phase = .waiting then { r with phase := .over } else r

theorem giveUp_id (r : TabRequest) : (giveUp r).id = r.id := by
  unfold giveUp
  split_ifs <;> rfl

/-- The refresh ends with a token: what waited for it is sent again. -/
def resolve (s : Tab) (token : Option AccessToken) : Tab :=
  { s with
    inFlight := none
    requests := s.requests.map (resend s.accessToken token) (resend_id _ _) }

/-- The refresh ends without: what waited for it gives up. -/
def reject (s : Tab) : Tab :=
  { s with inFlight := none, requests := s.requests.map giveUp giveUp_id }

/-- The answer of the refresh under way. -/
def refreshAnswered (s : Tab) (f : RefreshUnderWay) (answer : RefreshAnswer) : Tab :=
  let before := sessionOf f.held
  match answer with
  | .token token =>
    if s.accessToken ≠ f.held then s.resolve s.accessToken
    else if before.isSome && !isSameSession before (sessionOf token) then
      (s.stop f.held .displaced).reject
    else { s with accessToken := token }.resolve token
  | .failed status =>
    if s.accessToken ≠ f.held then s.reject
    else if (onBehalf before).isSome then
      if status = some 401 then (s.stop f.held .ended).reject else s.reject
    else { s with accessToken := none }.reject

/-- `onAuthError` takes the request on. -/
def canRetry (s : Tab) (r : TabRequest) (status : Option ℕ) : Bool :=
  !r.retried && decide (status = some 401) && !decide ("/auth/".toList <:+: r.url.toList) &&
    !s.impersonating

def setPhase (s : Tab) (id : ℕ) (phase : RequestPhase) : Tab :=
  { s with requests := s.requests.modify id fun r => { r with phase := phase } }

/-- The answer of a request: a 401 waits for a refresh, at most once. -/
def answered (s : Tab) (r : TabRequest) (status : Option ℕ) : Tab :=
  if s.canRetry r status && !s.isStopped then (s.setPhase r.id .waiting).startRefresh
  else s.setPhase r.id .over

def step (s : Tab) : TabEvent → Tab
  | .send id url =>
    { s with requests := s.requests.insert ⟨id, url, false, .sent, [s.accessToken]⟩ }
  | .answer id status =>
    match s.requests.find id with
    | none => s
    | some r => if r.phase = .sent then s.answered r status else s
  | .refresh => s.refresh
  | .refreshAnswer answer =>
    match s.inFlight with
    | none => s
    | some f => s.refreshAnswered f answer
  | .setAccessToken token => { s with accessToken := token }
  | .setImpersonating val => { s with impersonating := val }

/-- A run from a tab just opened. -/
def run (events : List TabEvent) : Tab := events.foldl step opened

theorem run_append (events : List TabEvent) (e : TabEvent) :
    run (events ++ [e]) = (run events).step e := by
  unfold run
  rw [List.foldl_append]
  rfl

/-! ## The token -/

section Token

variable {s : Tab} {f : RefreshUnderWay} {answer : RefreshAnswer} {e : TabEvent}

/-- **What the answer of a refresh does to the token.** It changes only the token the refresh
started with, and gives it up only for a token of the same session. -/
theorem refreshAnswered_token
    (h : (s.refreshAnswered f answer).accessToken ≠ s.accessToken) :
    s.accessToken = f.held ∧ ∀ a, sessionOf f.held = some a →
      ∀ t, (s.refreshAnswered f answer).accessToken = some t → sessionOf (some t) = some a := by
  unfold refreshAnswered at h ⊢
  cases answer with
  | token token =>
    dsimp only at h ⊢
    by_cases hheld : s.accessToken ≠ f.held
    · rw [if_pos hheld] at h
      exact absurd rfl h
    rw [if_neg hheld] at h ⊢
    refine ⟨not_not.mp hheld, fun a ha t ht => ?_⟩
    by_cases hother : ((sessionOf f.held).isSome &&
        !isSameSession (sessionOf f.held) (sessionOf token)) = true
    · rw [if_pos hother] at h
      exact absurd rfl h
    rw [if_neg hother] at ht
    obtain rfl : token = some t := ht
    rw [ha] at hother
    exact isSameSession_some.mp (by simpa using hother)
  | failed status =>
    dsimp only at h ⊢
    by_cases hheld : s.accessToken ≠ f.held
    · rw [if_pos hheld] at h
      exact absurd rfl h
    rw [if_neg hheld] at h ⊢
    refine ⟨not_not.mp hheld, fun a ha t ht => ?_⟩
    split_ifs at h ht
    · exact absurd rfl h
    · exact absurd rfl h
    · cases ht

theorem startRefresh_inFlight (h : s.startRefresh.inFlight = some f) :
    s.inFlight = some f ∨ s.inFlight = none ∧ s.accessToken = f.held := by
  unfold startRefresh at h
  split_ifs at h with hsome
  · exact Or.inl h
  · obtain rfl := Option.some.inj h
    exact Or.inr ⟨by simpa using hsome, rfl⟩

/-- A refresh under way was so before, or starts with the tab's token. -/
theorem step_inFlight (h : (s.step e).inFlight = some f) :
    s.inFlight = some f ∨ s.inFlight = none ∧ s.accessToken = f.held := by
  cases e with
  | send id url => exact Or.inl h
  | setAccessToken token => exact Or.inl h
  | setImpersonating val => exact Or.inl h
  | answer id status =>
    unfold step at h
    dsimp only at h
    cases hr : s.requests.find id with
    | none =>
      rw [hr] at h
      exact Or.inl h
    | some r =>
      rw [hr] at h
      dsimp only at h
      unfold answered at h
      split_ifs at h
      · exact startRefresh_inFlight (s := s.setPhase r.id .waiting) h
      · exact Or.inl h
      · exact Or.inl h
  | refresh =>
    unfold step refresh at h
    dsimp only at h
    split_ifs at h
    · exact Or.inl h
    · exact startRefresh_inFlight h
  | refreshAnswer answer =>
    unfold step at h
    dsimp only at h
    cases hf : s.inFlight with
    | none =>
      rw [hf] at h
      exact Or.inl (hf.symm.trans h)
    | some g =>
      rw [hf] at h
      dsimp only at h
      unfold refreshAnswered at h
      cases answer <;> dsimp only at h <;> split_ifs at h <;> cases h

/-- The refresh under way started in the course of the run, with the token the tab had then. -/
def StartedWith (events : List TabEvent) (f : RefreshUnderWay) : Prop :=
  ∃ before e after, events = before ++ e :: after ∧ (run before).inFlight = none ∧
    (run before).accessToken = f.held ∧ ∀ p, p <+: after → (run (before ++ e :: p)).inFlight = some f

/-- **The refresh under way remembers the token it started with.** -/
theorem run_held {events : List TabEvent} (h : (run events).inFlight = some f) :
    StartedWith events f := by
  induction events using List.reverseRecOn with
  | nil => cases h
  | append_singleton events e ih =>
    have hstep := h
    rw [run_append] at hstep
    rcases step_inFlight hstep with hold | ⟨hnone, hheld⟩
    · obtain ⟨before, e₀, after, rfl, hnone, hheld, hafter⟩ := ih hold
      refine ⟨before, e₀, after ++ [e], by simp, hnone, hheld, fun p hp => ?_⟩
      rcases List.prefix_concat_iff.mp hp with rfl | hp
      · simpa using h
      · exact hafter p hp
    · refine ⟨events, e, [], rfl, hnone, hheld, fun p hp => ?_⟩
      obtain rfl := List.prefix_nil.mp hp
      exact h

end Token

/-! ## The requests -/

section Requests

variable {s : Tab} {f : RefreshUnderWay} {answer : RefreshAnswer} {e : TabEvent} {r' : TabRequest}

/-- What an event makes of the requests of a tab. -/
inductive RequestStep (s : Tab) (e : TabEvent) (r' : TabRequest) : Prop
  | kept (h : r' ∈ s.requests)
  | new (h : r'.phase = .sent) (hretried : r'.retried = false) (htokens : r'.tokens = [s.accessToken])
  | moved (r : TabRequest) (phase : RequestPhase) (hr : r ∈ s.requests)
      (h : r' = { r with phase := phase }) (hwaits : phase = .waiting → r.retried = false)
  | resent (r : TabRequest) (token t : Option AccessToken) (hr : r ∈ s.requests)
      (hwaits : r.phase = .waiting) (he : e = .refreshAnswer (.token token))
      (h : r' = { r with retried := true, phase := .sent, tokens := r.tokens ++ [t] })
      (hsession : ∀ a, sessionOf s.accessToken = some a → sessionOf t = some a)

theorem mem_resolve {token : Option AccessToken} {T : Tab} (hreq : T.requests = s.requests)
    (he : e = .refreshAnswer (.token token)) {t : Option AccessToken}
    (hsession : ∀ a, sessionOf s.accessToken = some a → sessionOf (T.accessToken.or t) = some a)
    (h : r' ∈ (T.resolve t).requests) : RequestStep s e r' := by
  have hmem : r' ∈ T.requests.map (resend T.accessToken t) (resend_id _ _) := h
  obtain ⟨r, hr, rfl⟩ := Table.mem_map.mp hmem
  rw [hreq] at hr
  unfold resend
  split_ifs with hwaits
  · exact .resent r token _ hr hwaits he rfl hsession
  · exact .kept hr

theorem mem_reject {s₀ : Tab} (hreq : s₀.requests = s.requests) (h : r' ∈ s₀.reject.requests) :
    RequestStep s e r' := by
  have hmem : r' ∈ s₀.requests.map giveUp giveUp_id := h
  obtain ⟨r, hr, rfl⟩ := Table.mem_map.mp hmem
  rw [hreq] at hr
  unfold giveUp
  split_ifs with hwaits
  · exact .moved r .over hr rfl nofun
  · exact .kept hr

theorem mem_setPhase {id : ℕ} {phase : RequestPhase}
    (hwaits : ∀ r ∈ s.requests, r.id = id → phase = .waiting → r.retried = false)
    (h : r' ∈ (s.setPhase id phase).requests) : RequestStep s e r' := by
  have hmem : r' ∈ s.requests.modify id fun r => { r with phase := phase } := h
  rcases Table.mem_modify.mp hmem with ⟨hr, -⟩ | ⟨r, hr, hid, rfl⟩
  · exact .kept hr
  · exact .moved r phase hr rfl (hwaits r hr hid)

theorem startRefresh_requests (s : Tab) : s.startRefresh.requests = s.requests := by
  unfold startRefresh
  split_ifs <;> rfl

/-- **What an event does to a request.** -/
theorem step_requests (h : r' ∈ (s.step e).requests) : RequestStep s e r' := by
  cases e with
  | send id url =>
    rcases Table.mem_of_mem_insert h with hr | rfl
    · exact .kept hr
    · exact .new rfl rfl rfl
  | setAccessToken token => exact .kept h
  | setImpersonating val => exact .kept h
  | refresh =>
    unfold step refresh at h
    dsimp only at h
    split_ifs at h
    · exact .kept h
    · rw [startRefresh_requests] at h
      exact .kept h
  | answer id status =>
    unfold step at h
    dsimp only at h
    cases hr : s.requests.find id with
    | none =>
      rw [hr] at h
      exact .kept h
    | some r =>
      rw [hr] at h
      dsimp only at h
      obtain ⟨hmem, rfl⟩ := Table.find_eq_some.mp hr
      by_cases hsent : r.phase = .sent
      swap
      · rw [if_neg hsent] at h
        exact .kept h
      rw [if_pos hsent] at h
      unfold answered at h
      split_ifs at h with hretry
      · rw [startRefresh_requests] at h
        refine mem_setPhase (fun o ho hid _ => ?_) h
        obtain rfl : o = r := Table.eq_of_key ho hmem hid
        simp only [canRetry, Bool.and_eq_true, Bool.not_eq_true'] at hretry
        exact hretry.1.1.1.1
      · exact mem_setPhase (fun o ho hid hphase => by cases hphase) h
  | refreshAnswer answer =>
    unfold step at h
    dsimp only at h
    cases hf : s.inFlight with
    | none =>
      rw [hf] at h
      exact .kept h
    | some f =>
      rw [hf] at h
      dsimp only at h
      unfold refreshAnswered at h
      cases answer with
      | failed status =>
        dsimp only at h
        split_ifs at h <;> exact mem_reject rfl h
      | token token =>
        dsimp only at h
        by_cases hheld : s.accessToken ≠ f.held
        · rw [if_pos hheld] at h
          refine mem_resolve rfl rfl (fun a ha => ?_) h
          rwa [Option.or_self]
        rw [if_neg hheld] at h
        by_cases hother : ((sessionOf f.held).isSome &&
            !isSameSession (sessionOf f.held) (sessionOf token)) = true
        · rw [if_pos hother] at h
          exact mem_reject rfl h
        rw [if_neg hother] at h
        refine mem_resolve (T := { s with accessToken := token }) rfl rfl (fun a ha => ?_) h
        rw [not_not.mp hheld] at ha
        rw [ha] at hother
        show sessionOf (token.or token) = some a
        rw [Option.or_self]
        exact isSameSession_some.mp (by simpa using hother)

/-- A request was sent once, or twice if it is marked so; a waiting one is not marked. -/
structure Counted (r : TabRequest) : Prop where
  once : r.retried = false → r.tokens.length = 1
  twice : r.retried = true → r.tokens.length = 2
  waits : r.phase = .waiting → r.retried = false

theorem counted_step (hs : ∀ r ∈ s.requests, Counted r) (h : r' ∈ (s.step e).requests) :
    Counted r' := by
  cases step_requests h with
  | kept hr => exact hs r' hr
  | new hphase hretried htokens =>
    refine ⟨fun _ => by rw [htokens]; rfl, fun hr => ?_, fun _ => hretried⟩
    rw [hretried] at hr
    cases hr
  | moved r phase hr heq hwaits =>
    subst heq
    exact ⟨(hs r hr).once, (hs r hr).twice, hwaits⟩
  | resent r token t hr hwaits he heq hsession =>
    subst heq
    have hlen := (hs r hr).once ((hs r hr).waits hwaits)
    refine ⟨nofun, fun _ => ?_, nofun⟩
    show (r.tokens ++ [t]).length = 2
    rw [List.length_append, hlen]
    rfl

theorem run_counted (events : List TabEvent) : ∀ r ∈ (run events).requests, Counted r :=
  foldl_keeps_all (P := fun s : Tab => ∀ r ∈ s.requests, Counted r)
    (fun _ _ hs _ h => counted_step hs h) events fun r hr => absurd hr (Table.not_mem_empty r)

/-- The request was sent again with tokens of the session of its first token only. -/
def InSession (r : TabRequest) : Prop :=
  ∀ first rest, r.tokens = first :: rest → ∀ a, sessionOf first = some a →
    ∀ t ∈ rest, sessionOf t = some a

/-- When a refresh is answered with a token, the tab holds a token of the session of every request
that waits for it. -/
def AnsweredInSession (s : Tab) : TabEvent → Prop
  | .refreshAnswer (.token _) => ∀ r ∈ s.requests, r.phase = .waiting →
      ∀ first rest, r.tokens = first :: rest → ∀ a, sessionOf first = some a →
        sessionOf s.accessToken = some a
  | _ => True

theorem inSession_step (hs : ∀ r ∈ s.requests, InSession r) (hok : AnsweredInSession s e)
    (h : r' ∈ (s.step e).requests) : InSession r' := by
  cases step_requests h with
  | kept hr => exact hs r' hr
  | new hphase hretried htokens =>
    intro first rest hsplit a ha t ht
    rw [htokens] at hsplit
    obtain ⟨-, rfl⟩ := List.cons.inj hsplit
    cases ht
  | moved r phase hr heq hwaits =>
    subst heq
    exact hs r hr
  | resent r token t hr hwaits he heq hsession =>
    subst heq he
    intro first rest hsplit a ha u hu
    cases htokens : r.tokens with
    | nil =>
      have hsplit : r.tokens ++ [t] = first :: rest := hsplit
      rw [htokens] at hsplit
      obtain ⟨-, rfl⟩ := List.cons.inj hsplit
      cases hu
    | cons first' rest' =>
      have hsplit : r.tokens ++ [t] = first :: rest := hsplit
      rw [htokens] at hsplit
      obtain ⟨rfl, rfl⟩ := List.cons.inj hsplit
      rcases List.mem_append.mp hu with hu | hu
      · exact hs r hr first' rest' htokens a ha u hu
      · obtain rfl := List.mem_singleton.mp hu
        exact hsession a (hok r hr hwaits first' rest' htokens a ha)

end Requests

/-! ## The tab -/

/-- The answer of a refresh changes the token only if the tab still holds the one the refresh
started with, and where that is a known session, only to a token of this session. -/
def SparesToken (events : List TabEvent) (answer : RefreshAnswer) : Prop :=
  ((run events).step (.refreshAnswer answer)).accessToken ≠ (run events).accessToken →
    ∃ f, StartedWith events f ∧ (run events).accessToken = f.held ∧
      ∀ a, sessionOf (run events).accessToken = some a →
        ∀ t, ((run events).step (.refreshAnswer answer)).accessToken = some t →
          sessionOf (some t) = some a

theorem sparesToken (events : List TabEvent) (answer : RefreshAnswer) :
    SparesToken events answer := by
  unfold SparesToken step
  dsimp only
  intro hne
  cases hf : (run events).inFlight with
  | none =>
    rw [hf] at hne
    exact absurd rfl hne
  | some f =>
    rw [hf] at hne
    obtain ⟨hheld, hsame⟩ := refreshAnswered_token hne
    refine ⟨f, run_held hf, hheld, ?_⟩
    rw [hheld]
    exact hsame

/-- **Sessions of a tab.** A refresh changes only the token it started with, and for a known session
only to a token of that session; a request is sent again at most once; and it is sent again under
the session of its first token, in every run in which the tab holds a token of that session when the
refresh is answered. -/
theorem tab_sessions (events : List TabEvent) :
    (∀ answer, SparesToken events answer) ∧
    (∀ r ∈ (run events).requests, r.tokens.length ≤ 2) ∧
    (StepsMeet step AnsweredInSession opened events →
      ∀ r ∈ (run events).requests, InSession r) := by
  refine ⟨sparesToken events, fun r hr => ?_, fun hok => ?_⟩
  · have hcounted := run_counted events r hr
    cases hretried : r.retried with
    | false =>
      have := hcounted.once hretried
      omega
    | true => exact (hcounted.twice hretried).le
  · exact foldl_keeps (P := fun s : Tab => ∀ r ∈ s.requests, InSession r)
      (fun _ _ hs hok _ h => inSession_step hs hok h) (fun r hr => absurd hr (Table.not_mem_empty r))
      hok

/-- A token of a dispatcher's session on behalf of a hotel. -/
def hotelToken (text tid : String) : AccessToken :=
  ⟨text, some ⟨some tid, some "u-dispatcher", some "u-dispatcher"⟩⟩

/-- A request of one hotel that is answered 401. -/
def unauthorized : List TabEvent :=
  [.setAccessToken (some (hotelToken "a1" "t-apartments")), .send 1 "/reservations/r-0915",
    .answer 1 (some 401)]

/-- The request is sent again under its own session. -/
theorem tab_sessions_own :
    InSession ⟨1, "/reservations/r-0915", true, .sent,
      [some (hotelToken "a1" "t-apartments"), some (hotelToken "a2" "t-apartments")]⟩ := by
  have hrows : (run (unauthorized ++
      [.refreshAnswer (.token (some (hotelToken "a2" "t-apartments")))])).requests.rows =
        [⟨1, "/reservations/r-0915", true, .sent,
          [some (hotelToken "a1" "t-apartments"), some (hotelToken "a2" "t-apartments")]⟩] := by
    decide +kernel
  refine (tab_sessions (unauthorized ++
    [.refreshAnswer (.token (some (hotelToken "a2" "t-apartments")))])).2.2 ?_ _
    (Table.mem_def.mpr (hrows ▸ List.mem_singleton.mpr rfl))
  refine ⟨trivial, trivial, trivial, fun r hr _ => ?_, trivial⟩
  obtain rfl : r = ⟨1, "/reservations/r-0915", false, .waiting,
    [some (hotelToken "a1" "t-apartments")]⟩ := List.mem_singleton.mp hr
  intro first rest hsplit a ha
  obtain ⟨rfl, rfl⟩ := List.cons.inj hsplit
  exact ha

/-- **A request of one hotel sent again under another**: the tab is signed in to a second hotel
before the refresh is answered. -/
theorem unauthorized_elsewhere :
    let events := unauthorized ++
      [.setAccessToken (some (hotelToken "b1" "t-europa")),
        .refreshAnswer (.token (some (hotelToken "a2" "t-apartments")))]
    (run events).requests.rows = [⟨1, "/reservations/r-0915", true, .sent,
      [some (hotelToken "a1" "t-apartments"), some (hotelToken "b1" "t-europa")]⟩] ∧
    ∃ r ∈ (run events).requests, ¬InSession r := by
  intro events
  have hrows : (run events).requests.rows = [⟨1, "/reservations/r-0915", true, .sent,
      [some (hotelToken "a1" "t-apartments"), some (hotelToken "b1" "t-europa")]⟩] := by
    decide +kernel
  refine ⟨hrows, _, Table.mem_def.mpr (hrows ▸ List.mem_singleton.mpr rfl), fun h => ?_⟩
  have hsame := h _ _ rfl ⟨"t-apartments", "u-dispatcher", some "u-dispatcher"⟩ (by decide +kernel)
    (some (hotelToken "b1" "t-europa")) (List.mem_singleton.mpr rfl)
  exact absurd hsame (by decide +kernel)

end Tab

end KarsHotel
