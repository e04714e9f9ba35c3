import KarsHotel.Lib.Run
import KarsHotel.Values
import Mathlib.Data.List.Flatten
import Mathlib.Algebra.Order.Ring.Int
import Mathlib.Tactic.Linarith

/-!
# The buffer of the action journal

Rows of the journal wait in memory and are written in batches, past the request that made them.

* `JournalService`: the buffer, the timer, and the batches that were handed to the database;
* `push`, `flush`, `JournalEvent`, `step`: what the service does on a row, on its timer, at the end
  of a write and on shutdown;
* `Kept`, `step_kept`: what every event keeps; `Prompt`: the timer is not late;
* **`journal_keeps_rows`**: no row is lost, doubled or put out of order on its way to a write, and
  with a timer that is not late none waits longer than a second.
-/

namespace KarsHotel

def flushMs : ℤ := 1000

def flushAt : ℕ := 100

/-- What became of `createMany`. -/
inductive WriteFate where
  | writing
  | written
  | notWritten
  deriving DecidableEq, Repr

/-- A row that was pushed, with the moment of it, which nothing reads. -/
structure Pushed (ρ : Type) where
  row : ρ
  pushedAt : Moment
  deriving DecidableEq, Repr

/-- The rows of one `createMany`, with the moment it was sent at. -/
structure JournalBatch (ρ : Type) where
  rows : List (Pushed ρ)
  takenAt : Moment
  fate : WriteFate
  deriving DecidableEq, Repr

/-- `timer` is when the timer goes off, if it is set; `batches` are the writes so far, the latest
last; `clock` is the moment of the last event. -/
structure JournalService (ρ : Type) where
  buf : List (Pushed ρ)
  timer : Option Moment
  batches : List (JournalBatch ρ)
  clock : Moment

inductive JournalEvent (ρ : Type) where
  | push (row : ρ)
  /-- The timer goes off. -/
  | timeout
  /-- The write of a batch ends, with an error or without. -/
  | settled (batch : ℕ) (ok : Bool)
  | onModuleDestroy
  deriving DecidableEq, Repr

variable {ρ : Type}

namespace JournalService

/-- The service of a process that has just started. -/
def init (now : Moment) : JournalService ρ := ⟨[], none, [], now⟩

variable (s : JournalService ρ) (now : Moment)

/-- The timer is cleared; the buffer, unless empty, becomes a batch. -/
def flush : JournalService ρ :=
  if s.buf = [] then { s with timer := none }
  else { s with
    buf := []
    timer := none
    batches := s.batches ++ [⟨s.buf, now, .writing⟩] }

def push (row : ρ) : JournalService ρ :=
  let s' : JournalService ρ := { s with buf := s.buf ++ [⟨row, now⟩] }
  if flushAt ≤ s'.buf.length then s'.flush now
  else if s'.timer.isNone then { s' with timer := some (now + flushMs) }
  else s'

/-- A write ends once. -/
def settle (batch : ℕ) (ok : Bool) : JournalService ρ :=
  { s with
    batches := s.batches.modify batch fun b =>
      if b.fate = .writing then { b with fate := if ok then .written else .notWritten } else b }

/-- A timer that was cleared, or is not due, does not go off. -/
def timeout : JournalService ρ :=
  if s.timer.any fun due => decide (due ≤ now) then s.flush now else s

def handle : JournalEvent ρ → JournalService ρ
  | .push row => s.push now row
  | .timeout => s.timeout now
  | .settled batch ok => s.settle batch ok
  | .onModuleDestroy => s.flush now

/-- An event at a moment. -/
def step (e : Moment × JournalEvent ρ) : JournalService ρ := { s.handle e.1 e.2 with clock := e.1 }

/-- The rows that were handed to the database, in the order of the writes. -/
def taken : List (Pushed ρ) := s.batches.flatMap (·.rows)

end JournalService

/-- The row an event brings. -/
def JournalEvent.pushed : Moment × JournalEvent ρ → List (Pushed ρ)
  | (now, .push row) => [⟨row, now⟩]
  | _ => []

/-! ## What every event keeps -/

namespace JournalService

/-- The buffer is below its limit and its timer runs exactly while it holds rows; no batch is empty
or too long. -/
structure Kept (s : JournalService ρ) : Prop where
  buf_short : s.buf.length < flushAt
  timer_iff : s.timer.isSome = true ↔ s.buf ≠ []
  batches_fit : ∀ b ∈ s.batches, b.rows ≠ [] ∧ b.rows.length ≤ flushAt

variable {s : JournalService ρ} {now : Moment}

theorem flush_taken : (s.flush now).taken ++ (s.flush now).buf = s.taken ++ s.buf := by
  unfold flush
  split_ifs with h
  · rfl
  · simp [taken]

theorem flush_kept (hlen : s.buf.length ≤ flushAt)
    (hfit : ∀ b ∈ s.batches, b.rows ≠ [] ∧ b.rows.length ≤ flushAt) : (s.flush now).Kept := by
  unfold flush
  split_ifs with h
  · exact ⟨by simp [h, flushAt], by simp [h], hfit⟩
  · refine ⟨by simp [flushAt], by simp, fun b hb => ?_⟩
    rcases List.mem_append.mp hb with hb | hb
    · exact hfit b hb
    · rw [List.mem_singleton.mp hb]
      exact ⟨h, hlen⟩

theorem settle_rows (batch : ℕ) (ok : Bool) :
    (s.settle batch ok).batches.map (·.rows) = s.batches.map (·.rows) := by
  refine List.ext_getElem? fun i => ?_
  simp only [settle, List.getElem?_map, List.getElem?_modify]
  cases s.batches[i]? with
  | none => rfl
  | some b =>
    simp only [Option.map_eq_map, Option.map_some]
    split_ifs <;> rfl

theorem mem_settle {batch : ℕ} {ok : Bool} {b : JournalBatch ρ} (h : b ∈ (s.settle batch ok).batches) :
    ∃ b₀ ∈ s.batches, b.rows = b₀.rows ∧ b.takenAt = b₀.takenAt := by
  obtain ⟨i, hi⟩ := List.getElem?_of_mem h
  simp only [settle, List.getElem?_modify, Option.map_eq_map, Option.map_eq_some_iff] at hi
  obtain ⟨b₀, hb₀, rfl⟩ := hi
  refine ⟨b₀, List.mem_of_getElem? hb₀, ?_, ?_⟩ <;> split_ifs <;> rfl

theorem handle_taken (e : JournalEvent ρ) :
    (s.handle now e).taken ++ (s.handle now e).buf =
      s.taken ++ s.buf ++ JournalEvent.pushed (now, e) := by
  cases e with
  | push row =>
    simp only [handle, push, JournalEvent.pushed]
    split_ifs with hfull htimer
    · rw [flush_taken, List.append_assoc]
      rfl
    · simp [taken]
    · simp [taken]
  | timeout =>
    simp only [handle, timeout, JournalEvent.pushed, List.append_nil]
    split_ifs with hdue
    · exact flush_taken
    · rfl
  | settled batch ok =>
    have hrows : (s.settle batch ok).taken = s.taken := by
      simp only [taken, List.flatMap_def, settle_rows]
    simp only [handle, JournalEvent.pushed, List.append_nil, hrows]
    rfl
  | onModuleDestroy => simpa only [handle, JournalEvent.pushed, List.append_nil] using flush_taken

theorem step_kept (e : Moment × JournalEvent ρ) (h : s.Kept) : (s.step e).Kept := by
  obtain ⟨now, e⟩ := e
  suffices hk : (s.handle now e).Kept from ⟨hk.buf_short, hk.timer_iff, hk.batches_fit⟩
  cases e with
  | push row =>
    have hlen : (s.buf ++ [(⟨row, now⟩ : Pushed ρ)]).length = s.buf.length + 1 := by simp
    have hshort := h.buf_short
    simp only [handle, push]
    split_ifs with hfull htimer
    · exact flush_kept (by rw [hlen]; exact hshort) h.batches_fit
    · exact ⟨not_le.mp hfull, by simp, h.batches_fit⟩
    · refine ⟨not_le.mp hfull, ?_, h.batches_fit⟩
      have hset : s.timer.isSome = true := by simpa [Option.isSome_iff_ne_none] using htimer
      simp [hset]
  | timeout =>
    simp only [handle, timeout]
    split_ifs with hdue
    · exact flush_kept (Nat.le_of_lt h.buf_short) h.batches_fit
    · exact h
  | settled batch ok =>
    refine ⟨h.buf_short, h.timer_iff, fun b hb => ?_⟩
    obtain ⟨b₀, hb₀, hrows, -⟩ := mem_settle hb
    exact hrows ▸ h.batches_fit b₀ hb₀
  | onModuleDestroy => exact flush_kept (Nat.le_of_lt h.buf_short) h.batches_fit

/-! ## A timer that is not late -/

/-- Time does not run back, and nothing happens after the timer is due before it has gone off. -/
def Prompt (s : JournalService ρ) (e : Moment × JournalEvent ρ) : Prop :=
  s.clock ≤ e.1 ∧ ∀ due ∈ s.timer, e.1 ≤ due

/-- The timer is due within a second of every row in the buffer, and every row was handed to the
database within a second. -/
structure Timely (s : JournalService ρ) : Prop where
  due_soon : ∀ due ∈ s.timer, due ≤ s.clock + flushMs
  waiting : ∀ due ∈ s.timer, ∀ p ∈ s.buf, p.pushedAt ≤ s.clock ∧ due ≤ p.pushedAt + flushMs
  handed : ∀ b ∈ s.batches, ∀ p ∈ b.rows, p.pushedAt ≤ b.takenAt ∧ b.takenAt ≤ p.pushedAt + flushMs

theorem Timely.fresh (h : s.Timely) (hkept : s.Kept) {e : JournalEvent ρ} (hprompt : s.Prompt (now, e)) :
    ∀ p ∈ s.buf, p.pushedAt ≤ now ∧ now ≤ p.pushedAt + flushMs := by
  intro p hp
  obtain ⟨due, hdue⟩ := Option.isSome_iff_exists.mp (hkept.timer_iff.mpr (List.ne_nil_of_mem hp))
  obtain ⟨hpushed, hle⟩ := h.waiting due hdue p hp
  exact ⟨hpushed.trans hprompt.1, (hprompt.2 due hdue).trans hle⟩

theorem flush_timely (hbuf : ∀ p ∈ s.buf, p.pushedAt ≤ now ∧ now ≤ p.pushedAt + flushMs)
    (hhanded : ∀ b ∈ s.batches, ∀ p ∈ b.rows, p.pushedAt ≤ b.takenAt ∧ b.takenAt ≤ p.pushedAt + flushMs) :
    Timely { s.flush now with clock := now } := by
  unfold flush
  split_ifs with h
  · exact ⟨by simp, by simp, hhanded⟩
  · refine ⟨by simp, by simp, fun b hb => ?_⟩
    rcases List.mem_append.mp hb with hb | hb
    · exact hhanded b hb
    · rw [List.mem_singleton.mp hb]
      exact hbuf

theorem step_timely {e : Moment × JournalEvent ρ} (h : s.Timely) (hkept : s.Kept)
    (hprompt : s.Prompt e) : (s.step e).Timely := by
  obtain ⟨now, e⟩ := e
  have hfresh := h.fresh hkept hprompt
  -- an event that leaves the buffer and the timer as they are
  have hrest : ∀ batches : List (JournalBatch ρ),
      (∀ b ∈ batches, ∀ p ∈ b.rows, p.pushedAt ≤ b.takenAt ∧ b.takenAt ≤ p.pushedAt + flushMs) →
        Timely { s with batches := batches, clock := now } := by
    intro batches hbatches
    refine ⟨fun due hdue => ?_, fun due hdue p hp => ?_, hbatches⟩
    · exact (h.due_soon due hdue).trans (add_le_add_left hprompt.1 _)
    · exact ⟨(hfresh p hp).1, (h.waiting due hdue p hp).2⟩
  cases e with
  | push row =>
    have hself : now ≤ now + flushMs := by
      unfold flushMs
      linarith
    have hnew : ∀ p ∈ s.buf ++ [(⟨row, now⟩ : Pushed ρ)],
        p.pushedAt ≤ now ∧ now ≤ p.pushedAt + flushMs := by
      intro p hp
      rcases List.mem_append.mp hp with hp | hp
      · exact hfresh p hp
      · rw [List.mem_singleton.mp hp]
        exact ⟨le_refl _, hself⟩
    simp only [step, handle, push]
    split_ifs with hfull htimer
    · exact flush_timely hnew h.handed
    · -- the first row of a buffer sets the timer
      have hempty : s.buf = [] := by
        by_contra hne
        have hset := hkept.timer_iff.mpr hne
        rw [Option.isNone_iff_eq_none.mp htimer] at hset
        cases hset
      refine ⟨fun due hdue => ?_, fun due hdue p hp => ?_, h.handed⟩
      · exact le_of_eq (by simpa using hdue.symm)
      · have hp : p = ⟨row, now⟩ := by simpa [hempty] using hp
        have hdue : now + flushMs = due := by simpa using hdue
        rw [hp, ← hdue]
        exact ⟨le_refl _, le_refl _⟩
    · have hkeep := hrest s.batches h.handed
      refine ⟨hkeep.due_soon, fun due hdue p hp => ?_, h.handed⟩
      rcases List.mem_append.mp hp with hp | hp
      · exact hkeep.waiting due hdue p hp
      · rw [List.mem_singleton.mp hp]
        exact ⟨le_refl _, hkeep.due_soon due hdue⟩
  | timeout =>
    simp only [step, handle, timeout]
    split_ifs with hdue
    · exact flush_timely hfresh h.handed
    · exact hrest s.batches h.handed
  | settled batch ok =>
    refine hrest _ fun b hb p hp => ?_
    obtain ⟨b₀, hb₀, hrows, htaken⟩ := mem_settle hb
    exact htaken ▸ h.handed b₀ hb₀ p (hrows ▸ hp)
  | onModuleDestroy => exact flush_timely hfresh h.handed

end JournalService

/-! ## Runs -/

/-- **No row of the journal is lost on its way.** After any events, the rows handed to the database
and the rows in the buffer are, in order, the rows that were pushed, each of them once; fewer than a
hundred wait, with the timer set, and no write is empty or longer than a hundred rows. While the
timer is not late, every row is handed over within a second, and a row that waits was pushed within
the last second. -/
theorem journal_keeps_rows (start : Moment) (events : List (Moment × JournalEvent ρ)) :
    let s := events.foldl JournalService.step (.init start)
    s.taken ++ s.buf = events.flatMap JournalEvent.pushed ∧ s.Kept ∧
      (StepsMeet JournalService.step JournalService.Prompt (.init start) events →
        (∀ b ∈ s.batches, ∀ p ∈ b.rows, b.takenAt ≤ p.pushedAt + flushMs) ∧
          ∀ now, s.Prompt (now, .timeout) → ∀ p ∈ s.buf, now ≤ p.pushedAt + flushMs) := by
  intro s
  have hinit : (JournalService.init start : JournalService ρ).Kept :=
    ⟨by simp [JournalService.init, flushAt], by simp [JournalService.init], by simp [JournalService.init]⟩
  have hkept : s.Kept := foldl_keeps_all (fun s e => JournalService.step_kept e) events hinit
  refine ⟨?_, hkept, fun hprompt => ?_⟩
  · have hrun : ∀ (events : List (Moment × JournalEvent ρ)) (s : JournalService ρ),
        (events.foldl JournalService.step s).taken ++ (events.foldl JournalService.step s).buf =
          s.taken ++ s.buf ++ events.flatMap JournalEvent.pushed := by
      intro events
      induction events with
      | nil => simp
      | cons e events ih =>
        intro s
        rw [List.foldl_cons, ih, List.flatMap_cons, ← List.append_assoc]
        congr 1
        exact JournalService.handle_taken e.2
    exact hrun events _
  · have htimely : s.Kept ∧ s.Timely := by
      refine foldl_keeps (P := fun s => s.Kept ∧ s.Timely) (fun s e h hok => ?_) ⟨hinit, ?_⟩ hprompt
      · exact ⟨JournalService.step_kept e h.1, JournalService.step_timely h.2 h.1 hok⟩
      · exact ⟨by simp [JournalService.init], by simp [JournalService.init], by simp [JournalService.init]⟩
    exact ⟨fun b hb p hp => (htimely.2.handed b hb p hp).2,
      fun now hnow p hp => (htimely.2.fresh hkept hnow p hp).2⟩

/-- Three rows: the first waits a second for the timer, the others are written on shutdown. -/
theorem journal_keeps_rows_three :
    let events : List (Moment × JournalEvent ℕ) := [(0, .push 1), (1000, .timeout), (1200, .push 2),
      (1300, .settled 0 true), (1500, .push 3), (1600, .onModuleDestroy)]
    ∀ b ∈ (events.foldl JournalService.step (.init 0)).batches, ∀ p ∈ b.rows,
      b.takenAt ≤ p.pushedAt + flushMs := by
  intro events
  refine ((journal_keeps_rows 0 events).2.2 ?_).1
  simp only [events, StepsMeet, JournalService.Prompt]
  decide +kernel

end KarsHotel
