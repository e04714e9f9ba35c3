import KarsHotel.Auth.LoginThrottle
import KarsHotel.Auth.Rotation
import Mathlib.Data.Bool.Basic

/-!
# When the limit on sign-ins bounds guessing

* `LoginDesk.underWay`, `LoginDesk.owing`: the attempts that passed the check of a key and did not
  count for it yet, and those of them that checked a wrong password;
* `LoginOp.Orderly`: an attempt passes a check only while there is room for those under way, and is
  not cut off owing a failure or an expiry;
* `room_turned`, `debt_turned`, `dated_turned`: what one step of an attempt does to a key;
* `LoginInv`: the invariant; **`guessing_bounded_run`**: in every orderly run the limit bounds
  guessing.
-/

namespace KarsHotel

/-! ## One element of a list -/

theorem countP_set_add {α : Type} {l : List α} {i : ℕ} {a b : α} (h : l[i]? = some a)
    (p : α → Bool) : (l.set i b).countP p + (p a).toNat = l.countP p + (p b).toNat := by
  induction l generalizing i with
  | nil => cases h
  | cons x l ih =>
    cases i with
    | zero =>
      obtain rfl : x = a := Option.some.inj h
      rw [List.set_cons_zero, List.countP_cons, List.countP_cons]
      cases p x <;> cases p b <;> simp
    | succ i =>
      have := ih (i := i) h
      rw [List.set_cons_succ, List.countP_cons, List.countP_cons]
      omega

theorem mem_set_or_eq {α : Type} {l : List α} {i : ℕ} {a b x : α} (h : l[i]? = some a)
    (hb : b ∈ l) : b = a ∨ b ∈ l.set i x := by
  obtain ⟨j, hj⟩ := List.mem_iff_getElem?.mp hb
  by_cases hij : i = j
  · subst hij
    exact Or.inl (Option.some.inj (hj.symm.trans h))
  · refine Or.inr (List.mem_iff_getElem?.mpr ⟨j, ?_⟩)
    rw [List.getElem?_set_ne hij, hj]

/-! ## Room and debt -/

section Counts

variable (cfg : AuthConfig) (key : ThrottleKey)

/-- The attempt passed the check of the key and did not count for it yet. -/
def LoginAttempt.holds (a : LoginAttempt) : Bool :=
  match a.stage with
  | .checking keys => decide (key ∈ a.keys cfg ∧ key ∉ keys)
  | .looking => decide (key ∈ a.keys cfg)
  | .comparing _ => decide (key ∈ a.keys cfg)
  | .counting _ keys => decide (key ∈ keys)
  | .expiring _ _ keys => decide (key ∈ keys)
  | _ => false

/-- The attempt checked a wrong password and did not count it for the key yet. -/
def LoginAttempt.owes (a : LoginAttempt) : Bool :=
  match a.stage with
  | .counting wrong keys => wrong && decide (key ∈ keys)
  | .expiring wrong _ keys => wrong && decide (key ∈ keys)
  | _ => false

/-- The attempts that passed the check of the key and did not count for it yet. -/
def LoginDesk.underWay (s : LoginDesk) : ℕ := s.attempts.countP (·.holds cfg key)

/-- The attempts that checked a wrong password and did not count it for the key yet. -/
def LoginDesk.owing (s : LoginDesk) : ℕ := s.attempts.countP (·.owes key)

/-- The next step of the attempt passes the check of the key. -/
def LoginAttempt.Admits (s : CounterStore ThrottleKey) (a : LoginAttempt) : Prop :=
  ∃ keys, a.stage = .checking (key :: keys) ∧ s.count key < key.limit

theorem LoginAttempt.holds_of_owes {a : LoginAttempt} (h : a.owes key = true) :
    a.holds cfg key = true := by
  unfold LoginAttempt.owes at h
  unfold LoginAttempt.holds
  cases hs : a.stage with
  | counting wrong keys =>
    rw [hs] at h
    exact (Bool.and_eq_true_iff.mp h).2
  | expiring wrong key' keys =>
    rw [hs] at h
    exact (Bool.and_eq_true_iff.mp h).2
  | _ =>
    rw [hs] at h
    cases h

theorem LoginDesk.owing_le_underWay (s : LoginDesk) : s.owing key ≤ s.underWay cfg key :=
  List.countP_mono_left fun _ _ h => LoginAttempt.holds_of_owes cfg key h

/-- The keys still to be counted are different. -/
def LoginAttempt.Sound (a : LoginAttempt) : Prop :=
  match a.stage with
  | .counting _ keys => keys.Nodup
  | .expiring _ _ keys => keys.Nodup
  | _ => True

theorem nodup_loginKeys (dto : LoginDto) (ip : Option String) : (loginKeys cfg dto ip).Nodup := by
  unfold loginKeys emailKey
  cases ip.filter (· ≠ "") with
  | none => simp
  | some ip => simp

end Counts

/-! ## One step of an attempt -/

section Turn

variable (cfg : AuthConfig) (s : CounterStore ThrottleKey) (a : LoginAttempt)

/-- The attempt at another stage. -/
def LoginAttempt.at_ (stage : LoginStage) : LoginAttempt := { a with stage := stage }

/-- A stage at which the attempt holds no more and owes no less. -/
structure Milder (stage : LoginStage) : Prop where
  holds : ∀ key, (a.at_ stage).holds cfg key = true → a.holds cfg key = true
  owes : ∀ key, a.owes key = true → (a.at_ stage).owes key = true
  opens : ∀ key, ¬a.Opens key
  sound : a.Sound → (a.at_ stage).Sound

/-- What a step of an attempt can do. -/
inductive Turned : LoginTurn → Prop
  | still {stage : LoginStage} (h : Milder cfg a stage) : Turned ⟨stage, s, []⟩
  | passed {key : ThrottleKey} {keys : List ThrottleKey} (hs : a.stage = .checking (key :: keys))
      (hcount : s.count key < key.limit) : Turned ⟨.checking keys, s, []⟩
  | wrong {account : Account} (hs : a.stage = .comparing account) :
      Turned ⟨.counting true (a.keys cfg), s, [.wrong (a.keys cfg)]⟩
  | created {wrong : Bool} {key : ThrottleKey} {keys : List ThrottleKey}
      (hs : a.stage = .counting wrong (key :: keys)) (hn : (s.incr key).1 = 1) :
      Turned ⟨.expiring wrong key keys, (s.incr key).2, []⟩
  | counted {wrong : Bool} {key : ThrottleKey} {keys : List ThrottleKey}
      (hs : a.stage = .counting wrong (key :: keys)) (hn : (s.incr key).1 ≠ 1) :
      Turned ⟨.counting wrong keys, (s.incr key).2, []⟩
  | dated {wrong : Bool} {key : ThrottleKey} {keys : List ThrottleKey}
      (hs : a.stage = .expiring wrong key keys) :
      Turned ⟨.counting wrong keys, s.expire key WINDOW_SECONDS, []⟩
  | cleared {account : Account} {key : ThrottleKey} (hs : a.stage = .clearing account) :
      Turned ⟨.done (some (.ok account)), s.del key, [.ended key]⟩

variable {cfg s a}

theorem milder_of_done {stage : LoginStage} (hholds : ∀ key, (a.at_ stage).holds cfg key = false)
    (howes : ∀ key, a.owes key = false) (hopens : ∀ key, ¬a.Opens key)
    (hsound : (a.at_ stage).Sound) : Milder cfg a stage := by
  refine ⟨fun key h => ?_, fun key h => ?_, hopens, fun _ => hsound⟩
  · rw [hholds] at h
    cases h
  · rw [howes] at h
    cases h

/-- Failures that are counted without a wrong password, by an attempt that passed both checks. -/
theorem milder_counting (hholds : ∀ key, a.holds cfg key = decide (key ∈ a.keys cfg))
    (howes : ∀ key, a.owes key = false) (hopens : ∀ key, ¬a.Opens key) :
    Milder cfg a (.counting false (a.keys cfg)) := by
  refine ⟨fun key h => ?_, fun key h => ?_, hopens, fun _ => nodup_loginKeys cfg a.dto a.ip⟩
  · rw [hholds]
    exact h
  · rw [howes] at h
    cases h

theorem not_opens (h : a.stage.opening = none) (key : ThrottleKey) : ¬a.Opens key := by
  intro hopens
  rw [LoginAttempt.Opens, h] at hopens
  cases hopens

theorem turned_turn (d : Directory) : Turned cfg s a (a.turn cfg d s) := by
  unfold LoginAttempt.turn
  cases hs : a.stage with
  | checking keys =>
    have howes : ∀ key, a.owes key = false := fun key => by simp [LoginAttempt.owes, hs]
    have hnot : ∀ key, ¬a.Opens key := not_opens (by rw [hs]; rfl)
    cases keys with
    | nil =>
      refine .still ⟨fun key h => ?_, fun key h => ?_, hnot, fun _ => trivial⟩
      · have h : decide (key ∈ a.keys cfg) = true := h
        simpa [LoginAttempt.holds, hs] using h
      · rw [howes] at h
        cases h
    | cons key keys =>
      simp only
      split_ifs with hlimit
      · exact .still (milder_of_done (fun _ => rfl) howes hnot trivial)
      · exact .passed hs (by omega)
  | refusing key =>
    have howes : ∀ key, a.owes key = false := fun key => by simp [LoginAttempt.owes, hs]
    exact .still (milder_of_done (fun _ => rfl) howes (not_opens (by rw [hs]; rfl)) trivial)
  | looking =>
    have howes : ∀ key, a.owes key = false := fun key => by simp [LoginAttempt.owes, hs]
    have hholds : ∀ key, a.holds cfg key = decide (key ∈ a.keys cfg) := fun key => by
      simp [LoginAttempt.holds, hs]
    have hnot : ∀ key, ¬a.Opens key := not_opens (by rw [hs]; rfl)
    simp only
    cases d.accountByEmail (cfg.toLowerCase a.dto.email) with
    | none => exact .still (milder_counting hholds howes hnot)
    | some account =>
      refine .still ⟨fun key h => ?_, fun key h => ?_, hnot, fun _ => trivial⟩
      · rw [hholds]
        exact h
      · rw [howes] at h
        cases h
  | comparing account =>
    have howes : ∀ key, a.owes key = false := fun key => by simp [LoginAttempt.owes, hs]
    have hholds : ∀ key, a.holds cfg key = decide (key ∈ a.keys cfg) := fun key => by
      simp [LoginAttempt.holds, hs]
    have hnot : ∀ key, ¬a.Opens key := not_opens (by rw [hs]; rfl)
    simp only
    split_ifs
    · exact .wrong hs
    · exact .still (milder_counting hholds howes hnot)
    · exact .still (milder_of_done (fun _ => rfl) howes hnot trivial)
  | counting wrong keys =>
    cases keys with
    | nil =>
      have howes : ∀ key, a.owes key = false := fun key => by simp [LoginAttempt.owes, hs]
      exact .still (milder_of_done (fun _ => rfl) howes (not_opens (by rw [hs]; rfl)) trivial)
    | cons key keys =>
      simp only
      split_ifs with hn
      · exact .created hs hn
      · exact .counted hs hn
  | expiring wrong key keys => exact .dated hs
  | clearing account => exact .cleared hs
  | done answer =>
    have howes : ∀ key, a.owes key = false := fun key => by simp [LoginAttempt.owes, hs]
    exact .still (milder_of_done (fun _ => rfl) howes (not_opens (by rw [hs]; rfl)) trivial)

/-- Counting for a key gives up the place held of it. -/
theorem room_counted {wrong : Bool} {key' : ThrottleKey} {keys : List ThrottleKey}
    (hs : a.stage = .counting wrong (key' :: keys)) (ha : a.Sound) {b : LoginAttempt}
    (hb : ∀ key, b.holds cfg key = decide (key ∈ keys)) (key : ThrottleKey) :
    (s.incr key').2.count key + (b.holds cfg key).toNat ≤
      s.count key + (a.holds cfg key).toNat := by
  simp only [LoginAttempt.Sound, hs] at ha
  have hnew := (List.nodup_cons.mp ha).1
  have hold : a.holds cfg key = decide (key ∈ key' :: keys) := by simp [LoginAttempt.holds, hs]
  rw [CounterStore.count_incr, hb, hold]
  by_cases hkey : key = key'
  · subst hkey
    simp [hnew]
  · simp [hkey]

variable {t : LoginTurn}

theorem sound_turned (h : Turned cfg s a t) (ha : a.Sound) : (a.at_ t.stage).Sound := by
  cases h with
  | still h => exact h.sound ha
  | wrong hs => exact nodup_loginKeys cfg a.dto a.ip
  | created hs hn =>
    simp only [LoginAttempt.Sound, hs] at ha
    exact (List.nodup_cons.mp ha).2
  | counted hs hn =>
    simp only [LoginAttempt.Sound, hs] at ha
    exact (List.nodup_cons.mp ha).2
  | dated hs =>
    simp only [LoginAttempt.Sound, hs] at ha
    exact ha
  | _ => trivial

/-- The count of a key and what the attempt holds of it grow only where its check is passed. -/
theorem room_turned (h : Turned cfg s a t) (ha : a.Sound) (key : ThrottleKey) :
    t.store.count key + ((a.at_ t.stage).holds cfg key).toNat ≤
        s.count key + (a.holds cfg key).toNat ∨
      a.Admits key s ∧ t.store.count key = s.count key := by
  cases h with
  | still h =>
    exact Or.inl (Nat.add_le_add_left (Bool.toNat_le_toNat (Bool.le_iff_imp.mpr (h.holds key))) _)
  | @passed key' keys hs hcount =>
    by_cases hkey : key = key'
    · subst hkey
      exact Or.inr ⟨⟨keys, hs, hcount⟩, rfl⟩
    · refine Or.inl (Nat.add_le_add_left (Bool.toNat_le_toNat (Bool.le_iff_imp.mpr fun h => ?_)) _)
      have h : decide (key ∈ a.keys cfg ∧ key ∉ keys) = true := h
      simpa [LoginAttempt.holds, hs, hkey] using h
  | wrong hs =>
    refine Or.inl (Nat.add_le_add_left (Bool.toNat_le_toNat (Bool.le_iff_imp.mpr fun h => ?_)) _)
    have h : decide (key ∈ a.keys cfg) = true := h
    simpa [LoginAttempt.holds, hs] using h
  | created hs hn => exact Or.inl (room_counted hs ha (fun _ => rfl) key)
  | counted hs hn => exact Or.inl (room_counted hs ha (fun _ => rfl) key)
  | @dated wrong key' keys hs =>
    refine Or.inl ?_
    rw [CounterStore.count_expire]
    refine Nat.add_le_add_left (Bool.toNat_le_toNat (Bool.le_iff_imp.mpr fun h => ?_)) _
    have h : decide (key ∈ keys) = true := h
    simpa [LoginAttempt.holds, hs] using h
  | cleared hs =>
    refine Or.inl ?_
    rw [CounterStore.count_del]
    show (if _ then _ else _) + 0 ≤ _
    split_ifs <;> omega

/-- Counting for a key pays what the attempt owes of it. -/
theorem debt_counted {wrong : Bool} {key' : ThrottleKey} {keys : List ThrottleKey}
    (hs : a.stage = .counting wrong (key' :: keys)) {b : LoginAttempt}
    (hb : ∀ key, b.owes key = (wrong && decide (key ∈ keys))) (key : ThrottleKey) :
    s.count key + (a.owes key).toNat ≤ (s.incr key').2.count key + (b.owes key).toNat := by
  have hold : a.owes key = (wrong && decide (key ∈ key' :: keys)) := by
    simp [LoginAttempt.owes, hs]
  rw [CounterStore.count_incr, hb, hold]
  by_cases hkey : key = key'
  · subst hkey
    have := Bool.toNat_le (wrong && decide (key ∈ key :: keys))
    rw [if_pos rfl]
    omega
  · simp [hkey]

/-- Every wrong password is counted or owed, as long as the counter of its key does not end. -/
theorem debt_turned (h : Turned cfg s a t) (key : ThrottleKey) (log : List LoginEvent) :
    wrongSince key (t.events ++ log) = 0 ∨
      wrongSince key (t.events ++ log) + s.count key + (a.owes key).toNat ≤
        wrongSince key log + t.store.count key + ((a.at_ t.stage).owes key).toNat := by
  cases h with
  | still h =>
    have := Bool.toNat_le_toNat (Bool.le_iff_imp.mpr (h.owes key))
    refine Or.inr ?_
    simp only [List.nil_append]
    omega
  | passed hs hcount =>
    refine Or.inr ?_
    simp [LoginAttempt.owes, LoginAttempt.at_, hs]
  | wrong hs =>
    refine Or.inr ?_
    have hold : a.owes key = false := by simp [LoginAttempt.owes, hs]
    show (if key ∈ a.keys cfg then 1 else 0) + wrongSince key log + s.count key + _ ≤
      wrongSince key log + s.count key + (true && decide (key ∈ a.keys cfg)).toNat
    rw [hold]
    by_cases hkey : key ∈ a.keys cfg
    · simp only [hkey, if_true, decide_true, Bool.and_self, Bool.toNat_true, Bool.toNat_false]
      omega
    · simp [hkey]
  | @created wrong key' keys hs hn =>
    have := debt_counted (s := s) hs (b := a.at_ (.expiring wrong key' keys)) (fun _ => rfl) key
    refine Or.inr ?_
    simp only [List.nil_append]
    omega
  | @counted wrong key' keys hs hn =>
    have := debt_counted (s := s) hs (b := a.at_ (.counting wrong keys)) (fun _ => rfl) key
    refine Or.inr ?_
    simp only [List.nil_append]
    omega
  | dated hs =>
    refine Or.inr ?_
    rw [CounterStore.count_expire]
    simp [LoginAttempt.owes, LoginAttempt.at_, hs]
  | @cleared account key' hs =>
    by_cases hkey : key' = key
    · exact Or.inl (by simp [wrongSince, hkey])
    · refine Or.inr ?_
      rw [CounterStore.count_del, if_neg (Ne.symm hkey)]
      simp [LoginAttempt.owes, LoginAttempt.at_, hs, wrongSince, hkey]

/-- An attempt that opens a key does so whatever becomes of one that does not. -/
theorem opens_set {attempts : List LoginAttempt} {i : ℕ} {x : LoginAttempt} {key : ThrottleKey}
    (hi : attempts[i]? = some a) (ha : ¬a.Opens key) (hopens : ∃ b ∈ attempts, b.Opens key) :
    ∃ b ∈ attempts.set i x, b.Opens key := by
  obtain ⟨b, hb, hkey⟩ := hopens
  rcases mem_set_or_eq (x := x) hi hb with rfl | hb
  · exact absurd hkey ha
  · exact ⟨b, hb, hkey⟩

/-- A counter without an expiry has a creator that is about to set it. -/
theorem dated_turned (h : Turned cfg s a t) {attempts : List LoginAttempt} {i : ℕ}
    (hi : attempts[i]? = some a) (hdated : ∀ c ∈ s.counters,
      s.Dated WINDOW_SECONDS c ∨ ∃ b ∈ attempts, b.Opens c.key) :
    ∀ c ∈ t.store.counters, t.store.Dated WINDOW_SECONDS c ∨
      ∃ b ∈ attempts.set i (a.at_ t.stage), b.Opens c.key := by
  have hcounted : ∀ {key : ThrottleKey} {x : LoginAttempt}, (∀ key, ¬a.Opens key) →
      ((s.incr key).1 = 1 → x.Opens key) → ∀ c ∈ (s.incr key).2.counters,
        (s.incr key).2.Dated WINDOW_SECONDS c ∨ ∃ b ∈ attempts.set i x, b.Opens c.key := by
    intro key x hclosed hx c hc
    rcases CounterStore.mem_incr hc with ⟨c₀, h₀, hkey, hexpiry⟩ | ⟨rfl, hn⟩
    · unfold CounterStore.Dated
      rw [CounterStore.now_incr, ← hexpiry, ← hkey]
      exact (hdated c₀ h₀).imp_right (opens_set hi (hclosed _))
    · exact Or.inr ⟨x, List.mem_set (List.getElem?_eq_some_iff.mp hi).1 x, hx hn⟩
  cases h with
  | still h => exact fun c hc => (hdated c hc).imp_right (opens_set hi (h.opens _))
  | passed hs hcount =>
    exact fun c hc => (hdated c hc).imp_right (opens_set hi (not_opens (by rw [hs]; rfl) _))
  | wrong hs =>
    exact fun c hc => (hdated c hc).imp_right (opens_set hi (not_opens (by rw [hs]; rfl) _))
  | created hs hn => exact hcounted (not_opens (by rw [hs]; rfl)) fun _ => rfl
  | counted hs hn => exact hcounted (not_opens (by rw [hs]; rfl)) fun h => absurd h hn
  | @dated wrong key keys hs =>
    intro c hc
    rcases CounterStore.mem_expire hc with ⟨hmem, hne⟩ | hexpiry
    · refine (hdated c hmem).imp_right (opens_set hi ?_)
      intro hopens
      rw [LoginAttempt.Opens, hs] at hopens
      exact hne (Option.some.inj hopens).symm
    · exact Or.inl ⟨_, hexpiry, Nat.le_refl _⟩
  | cleared hs =>
    exact fun c hc => (hdated c (CounterStore.mem_del hc)).imp_right
      (opens_set hi (not_opens (by rw [hs]; rfl) _))

end Turn

/-! ## Runs -/

/-- An attempt passes a check only while there is room for those under way, and is cut off neither
owing a failure nor between the creation of a counter and its expiry. -/
def LoginOp.Orderly (cfg : AuthConfig) (s : LoginDesk) : LoginOp → Prop
  | .turn i => ∀ a key, s.attempts[i]? = some a → a.Admits key s.store →
      s.store.count key + s.underWay cfg key < key.limit
  | .cut i => ∀ a key, s.attempts[i]? = some a → a.owes key = false ∧
      (a.Opens key → ∀ c ∈ s.store.counters, c.key = key → s.store.Dated WINDOW_SECONDS c ∨
        ∃ j b, j ≠ i ∧ s.attempts[j]? = some b ∧ b.Opens key)
  | _ => True

structure LoginInv (cfg : AuthConfig) (s : LoginDesk) : Prop where
  sound : ∀ a ∈ s.attempts, a.Sound
  room : ∀ key, s.store.count key + s.underWay cfg key ≤ key.limit
  debt : ∀ key, wrongSince key s.log ≤ s.store.count key + s.owing key
  dated : ∀ c ∈ s.store.counters, s.store.Dated WINDOW_SECONDS c ∨ ∃ a ∈ s.attempts, a.Opens c.key

theorem wrongSince_ended (key : ThrottleKey) (keys : List ThrottleKey) (log : List LoginEvent) :
    wrongSince key (keys.map .ended ++ log) = if key ∈ keys then 0 else wrongSince key log := by
  induction keys with
  | nil => simp
  | cons key' keys ih =>
    show (if key' = key then 0 else wrongSince key (keys.map .ended ++ log)) = _
    by_cases hkey : key' = key
    · simp [hkey]
    · simp [hkey, Ne.symm hkey, ih]

section Run

variable {cfg : AuthConfig} {s : LoginDesk}

theorem LoginInv.bounded (h : LoginInv cfg s) : GuessingBounded s := by
  refine ⟨fun key => ?_, h.dated⟩
  calc wrongSince key s.log ≤ s.store.count key + s.owing key := h.debt key
    _ ≤ s.store.count key + s.underWay cfg key :=
      Nat.add_le_add_left (s.owing_le_underWay cfg key) _
    _ ≤ key.limit := h.room key

theorem loginInv_start (d : Directory) (now : ℕ) : LoginInv cfg (.start d now) where
  sound a ha := by cases ha
  room key := Nat.zero_le _
  debt key := Nat.zero_le _
  dated c hc := absurd hc (Table.not_mem_empty c)

theorem loginInv_login (h : LoginInv cfg s) (dto : LoginDto) (ip : Option String) :
    LoginInv cfg (s.step cfg (.login dto ip)) where
  sound a ha := by
    rcases List.mem_append.mp ha with ha | ha
    · exact h.sound a ha
    · rw [List.mem_singleton.mp ha]
      trivial
  room key := by
    have := h.room key
    simpa [LoginDesk.step, LoginDesk.underWay, LoginAttempt.holds, LoginAttempt.keys] using this
  debt key := by
    have := h.debt key
    simpa [LoginDesk.step, LoginDesk.owing, LoginAttempt.owes] using this
  dated c hc := by
    refine (h.dated c hc).imp_right ?_
    rintro ⟨a, ha, hopens⟩
    exact ⟨a, List.mem_append_left _ ha, hopens⟩

theorem step_turn {i : ℕ} {a : LoginAttempt} (hi : s.attempts[i]? = some a) :
    s.step cfg (.turn i) =
      { s with
        store := (a.turn cfg s.directory s.store).store
        attempts := s.attempts.set i (a.at_ (a.turn cfg s.directory s.store).stage)
        log := (a.turn cfg s.directory s.store).events ++ s.log } := by
  simp only [LoginDesk.step, hi]
  rfl

theorem step_cut {i : ℕ} {a : LoginAttempt} (hi : s.attempts[i]? = some a) :
    s.step cfg (.cut i) = { s with attempts := s.attempts.set i (a.at_ (.done none)) } := by
  simp only [LoginDesk.step, hi]
  rfl

theorem loginInv_turn (h : LoginInv cfg s) {i : ℕ} (hok : (LoginOp.turn i).Orderly cfg s) :
    LoginInv cfg (s.step cfg (.turn i)) := by
  cases hi : s.attempts[i]? with
  | none =>
    have hsame : s.step cfg (.turn i) = s := by simp [LoginDesk.step, hi]
    rwa [hsame]
  | some a =>
    have hturned : Turned cfg s.store a (a.turn cfg s.directory s.store) := turned_turn s.directory
    have hsound := h.sound a (List.mem_of_getElem? hi)
    rw [step_turn hi]
    generalize a.turn cfg s.directory s.store = t at hturned ⊢
    refine ⟨fun b hb => ?_, fun key => ?_, fun key => ?_, dated_turned hturned hi h.dated⟩
    · rcases List.mem_or_eq_of_mem_set hb with hb | rfl
      · exact h.sound b hb
      · exact sound_turned hturned hsound
    · have hcount := countP_set_add (b := a.at_ t.stage) hi (·.holds cfg key)
      have hroom := h.room key
      show t.store.count key + (s.attempts.set i (a.at_ t.stage)).countP _ ≤ _
      unfold LoginDesk.underWay at hroom
      rcases room_turned hturned hsound key with hle | ⟨hadmits, heq⟩
      · omega
      · have hfree := hok a key hi hadmits
        have hbool := Bool.toNat_le ((a.at_ t.stage).holds cfg key)
        unfold LoginDesk.underWay at hfree
        omega
    · have hcount := countP_set_add (b := a.at_ t.stage) hi (·.owes key)
      have hdebt := h.debt key
      show wrongSince key (t.events ++ s.log) ≤
        t.store.count key + (s.attempts.set i (a.at_ t.stage)).countP _
      unfold LoginDesk.owing at hdebt
      rcases debt_turned hturned key s.log with hzero | hle
      · omega
      · omega

theorem loginInv_cut (h : LoginInv cfg s) {i : ℕ} (hok : (LoginOp.cut i).Orderly cfg s) :
    LoginInv cfg (s.step cfg (.cut i)) := by
  cases hi : s.attempts[i]? with
  | none =>
    have hsame : s.step cfg (.cut i) = s := by simp [LoginDesk.step, hi]
    rwa [hsame]
  | some a =>
    rw [step_cut hi]
    refine ⟨fun b hb => ?_, fun key => ?_, fun key => ?_, fun c hc => ?_⟩
    · rcases List.mem_or_eq_of_mem_set hb with hb | rfl
      · exact h.sound b hb
      · trivial
    · have hcount := countP_set_add (b := a.at_ (.done none)) hi (·.holds cfg key)
      have hroom := h.room key
      have hnone : (a.at_ (.done none)).holds cfg key = false := rfl
      show s.store.count key + (s.attempts.set i (a.at_ (.done none))).countP _ ≤ _
      unfold LoginDesk.underWay at hroom
      rw [hnone, Bool.toNat_false] at hcount
      omega
    · have hcount := countP_set_add (b := a.at_ (.done none)) hi (·.owes key)
      have hdebt := h.debt key
      have hnone : (a.at_ (.done none)).owes key = false := rfl
      show wrongSince key s.log ≤
        s.store.count key + (s.attempts.set i (a.at_ (.done none))).countP _
      unfold LoginDesk.owing at hdebt
      rw [hnone, (hok a key hi).1] at hcount
      omega
    · rcases h.dated c hc with hdated | hopens
      · exact Or.inl hdated
      · by_cases ha : a.Opens c.key
        · refine ((hok a c.key hi).2 ha c hc rfl).imp_right ?_
          rintro ⟨j, b, hij, hj, hb⟩
          refine ⟨b, List.mem_iff_getElem?.mpr ⟨j, ?_⟩, hb⟩
          rw [List.getElem?_set_ne hij.symm, hj]
        · exact Or.inr (opens_set hi ha hopens)

theorem loginInv_pass (h : LoginInv cfg s) (seconds : ℕ) :
    LoginInv cfg (s.step cfg (.pass seconds)) where
  sound := h.sound
  room key := by
    have := h.room key
    show (s.store.pass seconds).count key + s.underWay cfg key ≤ key.limit
    rw [CounterStore.count_pass]
    split_ifs <;> omega
  debt key := by
    have := h.debt key
    show wrongSince key ((s.store.expired seconds).map .ended ++ s.log) ≤
      (s.store.pass seconds).count key + s.owing key
    rw [CounterStore.count_pass, wrongSince_ended]
    split_ifs <;> omega
  dated c hc := by
    refine (h.dated c (CounterStore.mem_pass hc)).imp_left ?_
    rintro ⟨t, hexpiry, hle⟩
    refine ⟨t, hexpiry, ?_⟩
    show t ≤ s.store.now + seconds + WINDOW_SECONDS
    omega

theorem loginInv_step (h : LoginInv cfg s) {op : LoginOp} (hok : op.Orderly cfg s) :
    LoginInv cfg (s.step cfg op) := by
  cases op with
  | login dto ip => exact loginInv_login h dto ip
  | turn i => exact loginInv_turn h hok
  | cut i => exact loginInv_cut h hok
  | pass seconds => exact loginInv_pass h seconds
  | write directory => exact ⟨h.sound, h.room, h.debt, h.dated⟩

end Run

/-- **In every orderly run the limit bounds guessing, and no key is closed for ever.** -/
theorem guessing_bounded_run (cfg : AuthConfig) (d : Directory) (now : ℕ) (ops : List LoginOp)
    (hok : StepsMeet (LoginDesk.step cfg) (LoginOp.Orderly cfg) (.start d now) ops) :
    GuessingBounded (ops.foldl (LoginDesk.step cfg) (.start d now)) ∧
      ((∀ a ∈ (ops.foldl (LoginDesk.step cfg) (.start d now)).attempts, ∀ key, ¬a.Opens key) →
        ∀ seconds, WINDOW_SECONDS ≤ seconds → ∀ key,
          ((ops.foldl (LoginDesk.step cfg) (.start d now)).store.pass seconds).get key = none) := by
  have hinv : LoginInv cfg (ops.foldl (LoginDesk.step cfg) (.start d now)) :=
    foldl_keeps (P := LoginInv cfg) (fun _ _ h hok => loginInv_step h hok)
      (loginInv_start d now) hok
  exact ⟨hinv.bounded, fun hnone seconds hs key => hinv.bounded.opens hnone hs key⟩

/-! ## Guesses at once -/

def LoginDto.guess : LoginDto := ⟨"owner@hotel.ru", "guess"⟩

/-- There is room for an attempt at the check it comes to, and nobody is cut off. -/
def LoginOp.roomLeft (cfg : AuthConfig) (s : LoginDesk) : LoginOp → Bool
  | .turn i => match (s.attempts[i]?).map LoginAttempt.stage with
    | some (.checking (key :: _)) => decide (s.store.count key < key.limit →
        s.store.count key + s.underWay cfg key < key.limit)
    | _ => true
  | .cut _ => false
  | _ => true

theorem LoginOp.orderly_of_roomLeft {cfg : AuthConfig} {s : LoginDesk} {op : LoginOp}
    (h : op.roomLeft cfg s = true) : op.Orderly cfg s := by
  cases op with
  | turn i =>
    rintro a key ha ⟨keys, hstage, hcount⟩
    simp only [roomLeft, ha, Option.map_some, hstage, decide_eq_true_eq] at h
    exact h hcount
  | cut i => cases h
  | _ => trivial

/-- Two wrong passwords, the second from a known address, and then the right one. -/
def thirdGuess : List LoginOp :=
  .login .guess none :: List.replicate 7 (.turn 0) ++
    .login .guess (some "10.0.0.1") :: List.replicate 9 (.turn 1) ++
    .login ⟨"owner@hotel.ru", "password"⟩ (some "10.0.0.1") :: List.replicate 6 (.turn 2)

theorem guessing_bounded_run_thirdGuess :
    GuessingBounded (thirdGuess.foldl (LoginDesk.step .plain) (.start .oneOwner 0)) ∧
    (thirdGuess.foldl (LoginDesk.step .plain) (.start .oneOwner 0)).log =
      [.ended (.email "owner@hotel.ru"), .wrong [.email "owner@hotel.ru", .ip "10.0.0.1"],
        .wrong [.email "owner@hotel.ru"]] := by
  have hroom : StepsMeet (LoginDesk.step .plain) (fun s op => op.roomLeft .plain s = true)
      (.start .oneOwner 0) thirdGuess := by
    decide +kernel
  have hok : StepsMeet (LoginDesk.step .plain) (LoginOp.Orderly .plain) (.start .oneOwner 0) thirdGuess :=
    StepsMeet.imp (P := fun _ => True) (fun _ _ _ h => ⟨trivial, LoginOp.orderly_of_roomLeft h⟩)
      trivial hroom
  exact ⟨(guessing_bounded_run .plain .oneOwner 0 _ hok).1, by decide +kernel⟩

/-- The owner's password is guessed six times at once. -/
def sixGuesses : List LoginOp :=
  List.replicate 6 (.login .guess none) ++
    (List.range 6).flatMap fun i => List.replicate 4 (.turn i)

/-- A guess is cut off when it has created the counter. -/
def guessCutOff : List LoginOp := .login .guess none :: (List.replicate 5 (.turn 0) ++ [.cut 0])

/-- **Six wrong passwords in one window, and a counter that never expires.** -/
theorem guessing_unbounded :
    ¬GuessingBounded (sixGuesses.foldl (LoginDesk.step .plain) (.start .oneOwner 0)) ∧
      ¬GuessingBounded (guessCutOff.foldl (LoginDesk.step .plain) (.start .oneOwner 0)) := by
  constructor
  · intro h
    have hsix : wrongSince (.email "owner@hotel.ru")
        (sixGuesses.foldl (LoginDesk.step .plain) (.start .oneOwner 0)).log = 6 := by
      decide +kernel
    have hfive := h.wrong (.email "owner@hotel.ru")
    rw [hsix] at hfive
    exact absurd hfive (by decide)
  · intro h
    have hrows :
        (guessCutOff.foldl (LoginDesk.step .plain) (.start .oneOwner 0)).store.counters.rows =
          [⟨.email "owner@hotel.ru", 1, none⟩] := by
      decide +kernel
    have hnobody : (guessCutOff.foldl (LoginDesk.step .plain) (.start .oneOwner 0)).attempts.map
        (·.stage.opening) = [none] := by
      decide +kernel
    have hmem : (⟨.email "owner@hotel.ru", 1, none⟩ : ExpiringCounter ThrottleKey) ∈
        (guessCutOff.foldl (LoginDesk.step .plain) (.start .oneOwner 0)).store.counters := by
      rw [Table.mem_def, hrows]
      exact List.mem_singleton_self _
    rcases h.expiry _ hmem with ⟨t, ht, _⟩ | ⟨a, ha, hopens⟩
    · cases ht
    · have hopening := List.mem_map_of_mem (f := (·.stage.opening)) ha
      rw [hnobody, List.mem_singleton] at hopening
      exact not_opens hopening _ hopens

end KarsHotel
