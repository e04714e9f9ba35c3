import KarsHotel.Lib.Table
import Mathlib.Data.Int.Notation

/-!
# Counters that expire

A store of counters under keys. Each command is atomic; a counter with an expiry is gone once its
time has come, one without stays.

* `CounterStore`: `get`, `incr`, `expire`, `del`, `ttl`, and `pass`, the passing of time;
* `count_incr`, `count_expire`, `count_del`, `count_pass`: what they do to the value of a key;
* `mem_incr`, `mem_expire`, `mem_del`, `mem_pass`: where the counters after them come from;
* **`get_pass_of_dated`**: counters whose expiry is near are gone when that time has passed.
-/

namespace KarsHotel

structure ExpiringCounter (κ : Type) where
  key : κ
  value : ℕ
  expiresAt : Option ℕ
  deriving DecidableEq, Repr

namespace ExpiringCounter

variable {κ : Type}

def raised (c : ExpiringCounter κ) : ExpiringCounter κ := { c with value := c.value + 1 }

def expiring (t : ℕ) (c : ExpiringCounter κ) : ExpiringCounter κ := { c with expiresAt := some t }

/-- Its time has come at `now`. -/
def isOver (now : ℕ) (c : ExpiringCounter κ) : Bool := c.expiresAt.any (· ≤ now)

theorem raised_key (c : ExpiringCounter κ) : c.raised.key = c.key := rfl

theorem expiring_key (t : ℕ) (c : ExpiringCounter κ) : (c.expiring t).key = c.key := rfl

end ExpiringCounter

/-- The counters and the time, in seconds. -/
structure CounterStore (κ : Type) where
  now : ℕ
  counters : Table (ExpiringCounter.key (κ := κ))

namespace CounterStore

variable {κ : Type} [DecidableEq κ]

section Commands

variable (s : CounterStore κ) (k : κ)

def get : Option ℕ := (s.counters.find k).map (·.value)

/-- The value of a key; a missing counter counts as 0. -/
def count : ℕ := (s.get k).getD 0

/-- Add one; a missing counter is created without an expiry. -/
def incr : ℕ × CounterStore κ :=
  match s.counters.find k with
  | some c => (c.value + 1,
      { s with counters := s.counters.modify k .raised ExpiringCounter.raised_key })
  | none => (1, { s with counters := s.counters.insert ⟨k, 1, none⟩ })

def expire (seconds : ℕ) : CounterStore κ :=
  { s with
    counters := s.counters.modify k (.expiring (s.now + seconds)) (ExpiringCounter.expiring_key _) }

def del : CounterStore κ := { s with counters := s.counters.remove fun c => decide (c.key = k) }

/-- The seconds left: `-2` without a counter, `-1` without an expiry. -/
def ttl : ℤ :=
  match s.counters.find k with
  | none => -2
  | some c => match c.expiresAt with
    | none => -1
    | some t => t - s.now

/-- The keys whose time comes within so many seconds. -/
def expired (seconds : ℕ) : List κ :=
  (s.counters.select (·.isOver (s.now + seconds))).map (·.key)

/-- So many seconds pass. -/
def pass (seconds : ℕ) : CounterStore κ where
  now := s.now + seconds
  counters := s.counters.remove (·.isOver (s.now + seconds))

end Commands

/-! ## The value of a key -/

variable {s : CounterStore κ} {k k' : κ} {n : ℕ}

theorem count_incr : (s.incr k).2.count k' = s.count k' + if k' = k then 1 else 0 := by
  unfold incr count get
  cases h : s.counters.find k with
  | none =>
    show ((Table.find (s.counters.insert ⟨k, 1, none⟩) k').map _).getD 0 = _
    by_cases hk : k' = k
    · subst hk
      have hself : (s.counters.insert ⟨k', 1, none⟩).find k' = some ⟨k', 1, none⟩ :=
        Table.find_insert_self h
      rw [hself, h, if_pos rfl]
      rfl
    · have hne : (s.counters.insert ⟨k, 1, none⟩).find k' = s.counters.find k' :=
        Table.find_insert_of_ne hk
      rw [hne, if_neg hk]
      rfl
  | some c =>
    show ((Table.find (s.counters.modify k .raised ExpiringCounter.raised_key) k').map _).getD 0 = _
    by_cases hk : k' = k
    · subst hk
      rw [Table.find_modify_self, h, if_pos rfl]
      rfl
    · rw [Table.find_modify_of_ne hk, if_neg hk]
      rfl

theorem count_expire : (s.expire k n).count k' = s.count k' := by
  unfold expire count get
  by_cases hk : k' = k
  · subst hk
    rw [Table.find_modify_self, Option.map_map]
    rfl
  · rw [Table.find_modify_of_ne hk]

theorem count_del : (s.del k).count k' = if k' = k then 0 else s.count k' := by
  unfold del count get
  rw [Table.find_remove]
  cases h : s.counters.find k' with
  | none => simp
  | some c =>
    have hkey : c.key = k' := (Table.find_eq_some.mp h).2
    rw [Option.filter_some, hkey]
    by_cases hk : k' = k
    · simp [hk]
    · simp [hk]

theorem count_pass : (s.pass n).count k' = if k' ∈ s.expired n then 0 else s.count k' := by
  have hexpired : k' ∈ s.expired n ↔
      ∃ c, s.counters.find k' = some c ∧ c.isOver (s.now + n) = true := by
    simp only [expired, List.mem_map, Table.mem_select, Table.find_eq_some]
    constructor
    · rintro ⟨c, ⟨hmem, hexpired⟩, rfl⟩
      exact ⟨c, ⟨hmem, rfl⟩, hexpired⟩
    · rintro ⟨c, ⟨hmem, rfl⟩, hexpired⟩
      exact ⟨c, ⟨hmem, hexpired⟩, rfl⟩
  unfold pass count get
  rw [Table.find_remove]
  cases h : s.counters.find k' with
  | none => simp
  | some c =>
    rw [Option.filter_some]
    cases hc : c.isOver (s.now + n) with
    | true => simp [hexpired, h, hc]
    | false => simp [hexpired, h, hc]

theorem now_incr : (s.incr k).2.now = s.now := by
  unfold incr
  cases s.counters.find k with
  | none => rfl
  | some c => rfl

/-! ## Where the counters come from -/

variable {c : ExpiringCounter κ}

theorem mem_incr (h : c ∈ (s.incr k).2.counters) :
    (∃ c₀ ∈ s.counters, c₀.key = c.key ∧ c₀.expiresAt = c.expiresAt) ∨
      (c = ⟨k, 1, none⟩ ∧ (s.incr k).1 = 1) := by
  unfold incr at h ⊢
  cases hfind : s.counters.find k with
  | none =>
    rw [hfind] at h
    rcases Table.mem_of_mem_insert h with h | rfl
    · exact Or.inl ⟨c, h, rfl, rfl⟩
    · exact Or.inr ⟨rfl, rfl⟩
  | some c' =>
    rw [hfind] at h
    have h : c ∈ s.counters.modify k .raised ExpiringCounter.raised_key := h
    rcases Table.mem_modify.mp h with ⟨h, _⟩ | ⟨c₀, h₀, _, rfl⟩
    · exact Or.inl ⟨c, h, rfl, rfl⟩
    · exact Or.inl ⟨c₀, h₀, rfl, rfl⟩

theorem mem_expire (h : c ∈ (s.expire k n).counters) :
    (c ∈ s.counters ∧ c.key ≠ k) ∨ c.expiresAt = some (s.now + n) := by
  have h : c ∈ s.counters.modify k (.expiring (s.now + n)) (ExpiringCounter.expiring_key _) := h
  rcases Table.mem_modify.mp h with h | ⟨c₀, _, _, rfl⟩
  · exact Or.inl h
  · exact Or.inr rfl

theorem mem_del (h : c ∈ (s.del k).counters) : c ∈ s.counters := (Table.mem_remove.mp h).1

omit [DecidableEq κ] in
theorem mem_pass (h : c ∈ (s.pass n).counters) : c ∈ s.counters := (Table.mem_remove.mp h).1

/-- The counter expires within so many seconds. -/
def Dated (s : CounterStore κ) (seconds : ℕ) (c : ExpiringCounter κ) : Prop :=
  ∃ t, c.expiresAt = some t ∧ t ≤ s.now + seconds

/-- **Counters that expire within a time are gone when it has passed.** -/
theorem get_pass_of_dated {seconds : ℕ} (h : ∀ c ∈ s.counters, s.Dated seconds c)
    (hn : seconds ≤ n) : (s.pass n).get k = none := by
  unfold get
  rw [Option.map_eq_none_iff, Table.find_eq_none]
  intro c hc
  obtain ⟨hmem, hexpired⟩ := Table.mem_remove.mp hc
  obtain ⟨t, hexpiry, hle⟩ := h c hmem
  have htrue : c.isOver (s.now + n) = true := by
    simp only [ExpiringCounter.isOver, hexpiry, Option.any_some, decide_eq_true_eq]
    omega
  rw [htrue] at hexpired
  cases hexpired

end CounterStore

end KarsHotel
