import KarsHotel.Auth.Service
import KarsHotel.Lib.ExpiringCounters
import KarsHotel.Lib.Run

/-!
# The limit on sign-ins

Attempts to sign in, one command on the counters at a time, in any order; an attempt may be cut off
after any of them.

* `ThrottleKey`: the two counters of an attempt, with their limits;
* `LoginStage`, `LoginAttempt.turn`: where an attempt is, and its next step;
* `LoginDesk`, `LoginOp`, `LoginDesk.step`: the attempts over one store of counters;
* `wrongSince`: the wrong passwords checked since the counter of a key last ended;
* `GuessingBounded`: the limit bounds guessing.
-/

namespace KarsHotel

def WINDOW_SECONDS : ℕ := 15 * 60
def MAX_PER_EMAIL : ℕ := 5
def MAX_PER_IP : ℕ := 20

/-- `login:fail:email:…` and `login:fail:ip:…`. -/
inductive ThrottleKey where
  | email (email : String)
  | ip (ip : String)
  deriving DecidableEq, Repr

/-- How many failures close a key. -/
def ThrottleKey.limit : ThrottleKey → ℕ
  | email _ => MAX_PER_EMAIL
  | ip _ => MAX_PER_IP

def tooManyAttempts (ttl : ℤ) : Failure where
  status := some 429
  message := "Слишком много неудачных попыток. Попробуйте через " ++
    toString (max 1 ((ttl + 59) / 60)) ++ " мин."
  code := none

/-! ## An attempt -/

/-- Where an attempt is. `counting` and `expiring` say whether a wrong password was checked. -/
inductive LoginStage where
  | checking (keys : List ThrottleKey)
  | refusing (key : ThrottleKey)
  | looking
  | comparing (account : Account)
  | counting (wrong : Bool) (keys : List ThrottleKey)
  | expiring (wrong : Bool) (key : ThrottleKey) (keys : List ThrottleKey)
  | clearing (account : Account)
  | done (answer : Option (Except Failure Account))

structure LoginAttempt where
  dto : LoginDto
  ip : Option String
  stage : LoginStage

/-- What happened to the passwords and the counters. -/
inductive LoginEvent where
  | wrong (keys : List ThrottleKey)
  | ended (key : ThrottleKey)
  deriving DecidableEq, Repr

/-- What a step of an attempt leaves. -/
structure LoginTurn where
  stage : LoginStage
  store : CounterStore ThrottleKey
  events : List LoginEvent

section Attempt

variable (cfg : AuthConfig)

def emailKey (email : String) : ThrottleKey := .email (cfg.toLowerCase email)

/-- The counters of an attempt, in the order they are checked and counted. -/
def loginKeys (dto : LoginDto) (ip : Option String) : List ThrottleKey :=
  emailKey cfg (cfg.toLowerCase dto.email) :: ((ip.filter (· ≠ "")).map ThrottleKey.ip).toList

def LoginAttempt.keys (a : LoginAttempt) : List ThrottleKey := loginKeys cfg a.dto a.ip

/-- The next step of an attempt: `assertAllowed`, the password, then `fail` or `success`. -/
def LoginAttempt.turn (d : Directory) (s : CounterStore ThrottleKey) (a : LoginAttempt) :
    LoginTurn :=
  match a.stage with
  | .checking [] => ⟨.looking, s, []⟩
  | .checking (key :: keys) =>
    if key.limit ≤ s.count key then ⟨.refusing key, s, []⟩ else ⟨.checking keys, s, []⟩
  | .refusing key => ⟨.done (some (.error (tooManyAttempts (s.ttl key)))), s, []⟩
  | .looking =>
    match d.accountByEmail (cfg.toLowerCase a.dto.email) with
    | none => ⟨.counting false (a.keys cfg), s, []⟩
    | some account => ⟨.comparing account, s, []⟩
  | .comparing account =>
    if !cfg.comparePassword a.dto.password account.user.passwordHash then
      ⟨.counting true (a.keys cfg), s, [.wrong (a.keys cfg)]⟩
    else if !account.user.isActive || !account.tenant.isActive then
      ⟨.counting false (a.keys cfg), s, []⟩
    else ⟨.clearing account, s, []⟩
  | .counting _ [] => ⟨.done (some (.error wrongPassword)), s, []⟩
  | .counting wrong (key :: keys) =>
    let (n, s') := s.incr key
    if n = 1 then ⟨.expiring wrong key keys, s', []⟩ else ⟨.counting wrong keys, s', []⟩
  | .expiring wrong key keys => ⟨.counting wrong keys, s.expire key WINDOW_SECONDS, []⟩
  | .clearing account =>
    let key := emailKey cfg (cfg.toLowerCase a.dto.email)
    ⟨.done (some (.ok account)), s.del key, [.ended key]⟩
  | .done answer => ⟨.done answer, s, []⟩

end Attempt

/-! ## The attempts together -/

/-- The accounts, the counters, the attempts, and what happened, latest first. -/
structure LoginDesk where
  directory : Directory
  store : CounterStore ThrottleKey
  attempts : List LoginAttempt
  log : List LoginEvent

def LoginDesk.start (d : Directory) (now : ℕ) : LoginDesk := ⟨d, ⟨now, .empty⟩, [], []⟩

/-- An attempt begins, makes a step or is cut off; time passes; others write accounts. -/
inductive LoginOp where
  | login (dto : LoginDto) (ip : Option String)
  | turn (i : ℕ)
  | cut (i : ℕ)
  | pass (seconds : ℕ)
  | write (directory : Directory)

def LoginDesk.step (cfg : AuthConfig) (s : LoginDesk) : LoginOp → LoginDesk
  | .login dto ip =>
    { s with attempts := s.attempts ++ [⟨dto, ip, .checking (loginKeys cfg dto ip)⟩] }
  | .turn i =>
    match s.attempts[i]? with
    | none => s
    | some a =>
      let t := a.turn cfg s.directory s.store
      { s with
        store := t.store
        attempts := s.attempts.set i { a with stage := t.stage }
        log := t.events ++ s.log }
  | .cut i =>
    match s.attempts[i]? with
    | none => s
    | some a => { s with attempts := s.attempts.set i { a with stage := .done none } }
  | .pass seconds =>
    { s with
      store := s.store.pass seconds
      log := (s.store.expired seconds).map .ended ++ s.log }
  | .write directory => { s with directory := directory }

/-! ## The bound -/

/-- The wrong passwords checked for a key since its counter last ended: since it expired, or since
a successful sign-in of the e-mail. -/
def wrongSince (key : ThrottleKey) : List LoginEvent → ℕ
  | [] => 0
  | .ended key' :: log => if key' = key then 0 else wrongSince key log
  | .wrong keys :: log => (if key ∈ keys then 1 else 0) + wrongSince key log

/-- The key whose counter was created and gets its expiry next. -/
def LoginStage.opening : LoginStage → Option ThrottleKey
  | .expiring _ key _ => some key
  | _ => none

/-- The attempt has created the counter of a key and is about to set its expiry. -/
def LoginAttempt.Opens (a : LoginAttempt) (key : ThrottleKey) : Prop := a.stage.opening = some key

/-- The limit bounds guessing: within one window of a key no more wrong passwords are checked than
its limit, and a counter expires within the window, unless its creator is about to say so. -/
structure GuessingBounded (s : LoginDesk) : Prop where
  wrong : ∀ key, wrongSince key s.log ≤ key.limit
  expiry : ∀ c ∈ s.store.counters, s.store.Dated WINDOW_SECONDS c ∨ ∃ a ∈ s.attempts, a.Opens c.key

/-- No key is closed for ever: when nobody is about to set an expiry, the window's time opens all
of them. -/
theorem GuessingBounded.opens {s : LoginDesk} (h : GuessingBounded s)
    (hnone : ∀ a ∈ s.attempts, ∀ key, ¬a.Opens key) {seconds : ℕ} (hs : WINDOW_SECONDS ≤ seconds)
    (key : ThrottleKey) : (s.store.pass seconds).get key = none := by
  refine CounterStore.get_pass_of_dated (fun c hc => ?_) hs
  rcases h.expiry c hc with hdated | ⟨a, ha, hopens⟩
  · exact hdated
  · exact absurd hopens (hnone a ha c.key)

end KarsHotel
