import KarsHotel.Lib.Transaction
import Mathlib.Data.Fintype.Pi

/-!
# Interleaved sessions

Sessions over one committed store, interleaved statement by statement. A statement sees everything
committed before it starts and the own writes of its transaction; a row with an uncommitted write
and a held advisory lock are closed to the other sessions. A write waits for its row and then acts
on the row as it stands.

* `Sys`, `Step`, `Reach`; `Guard`: a restriction on writes and commits;
* `Step.effect`: what a statement does to the store and to the uncommitted writes;
* `Step.actor`, `Step.hist`, `Step.read_hist`, `Reach.unbegun`: whose statement a step is, what it
  adds to a history, and which sessions have not begun;
* `OneShot`: sessions of one transaction each; `Reach.play`: an interleaving from a schedule;
* `Tx.Keeps`, `Prog.Keeps`, `Obeys`: every path of a program keeps a discipline on its writes,
  commits and answers; `keeps_bind`, `keeps_handle` and **`Tx.keeps_transact`** are their rules;
* `Recall`: what a transaction has seen; **`Tx.Keeps.exec`**: a discipline read off a run alone;
* **`Reach.obeys`**: the induction rule for interleavings;
* `Local.Saw`, **`Step.saw`**: what an open transaction has seen was the committed store.
-/

namespace KarsHotel

/-- One statement of a session, with the state it acted on. -/
inductive Event (D : Db) : Type where
  | read (q : D.Query) (s : D.State)
  | write (r : D.Row) (f : D.State → D.State) (s : D.State)
  | lock (x : D.Lock)
  | commit
  | rollback
  | ask (e : D.Env)

/-- What a session has of its own: the statements it has made (latest first), the uncommitted
writes of its open transaction (oldest first) and the advisory locks that transaction holds. -/
structure Local (D : Db) where
  hist : List (Event D)
  pending : List (D.Row × (D.State → D.State))
  locks : List D.Lock

namespace Local

variable {D : Db}

/-- A session that has not started. -/
def init : Local D := ⟨[], [], []⟩

/-- What the open transaction sees over the committed state `s`. -/
def view (l : Local D) (s : D.State) : D.State := l.pending.foldl (fun s w => w.2 s) s

def read (l : Local D) (q : D.Query) (s : D.State) : Local D :=
  { l with hist := .read q s :: l.hist }

def write (l : Local D) (r : D.Row) (f : D.State → D.State) (s : D.State) : Local D :=
  { l with hist := .write r f s :: l.hist, pending := l.pending ++ [(r, f)] }

def lock (l : Local D) (x : D.Lock) : Local D :=
  { l with hist := .lock x :: l.hist, locks := x :: l.locks }

def commit (l : Local D) : Local D := ⟨.commit :: l.hist, [], []⟩

def rollback (l : Local D) : Local D := ⟨.rollback :: l.hist, [], []⟩

def ask (l : Local D) (e : D.Env) : Local D := { l with hist := .ask e :: l.hist }

@[simp] theorem pending_init : (init : Local D).pending = [] := rfl
@[simp] theorem pending_read (l : Local D) (q : D.Query) (s : D.State) :
    (l.read q s).pending = l.pending := rfl
@[simp] theorem pending_write (l : Local D) (r : D.Row) (f : D.State → D.State) (s : D.State) :
    (l.write r f s).pending = l.pending ++ [(r, f)] := rfl
@[simp] theorem pending_lock (l : Local D) (x : D.Lock) : (l.lock x).pending = l.pending := rfl

@[simp] theorem view_init (s : D.State) : (init : Local D).view s = s := rfl
@[simp] theorem view_nil (h : List (Event D)) (x : List D.Lock) (s : D.State) :
    (⟨h, [], x⟩ : Local D).view s = s := rfl

end Local

/-- A session under way. -/
structure Session (D : Db) (ε α : Type) where
  prog : Prog D ε α
  loc : Local D

/-- One commit: who, and the store before and after. -/
structure Commit (D : Db) (ι : Type) where
  who : ι
  before : D.State
  after : D.State

/-- The committed store, the sessions and the commits so far (latest first). -/
structure Sys (D : Db) (ε α ι : Type) where
  store : D.State
  sessions : ι → Session D ε α
  log : List (Commit D ι)

namespace Sys

variable {D : Db} {ε α ι : Type}

/-- The system before any session has started. -/
def init (s : D.State) (p : ι → Prog D ε α) : Sys D ε α ι := ⟨s, fun i => ⟨p i, .init⟩, []⟩

/-- What session `i` sees. -/
def view (S : Sys D ε α ι) (i : ι) : D.State := (S.sessions i).loc.view S.store

/-- No other session has an uncommitted write on row `r`. -/
def RowFree (S : Sys D ε α ι) (i : ι) (r : D.Row) : Prop :=
  ∀ j, j ≠ i → ∀ w ∈ (S.sessions j).loc.pending, w.1 ≠ r

/-- No other session holds the advisory lock `x`. -/
def LockFree (S : Sys D ε α ι) (i : ι) (x : D.Lock) : Prop :=
  ∀ j, j ≠ i → x ∉ (S.sessions j).loc.locks

/-- No row has uncommitted writes of two sessions. -/
def RowsExclusive (S : Sys D ε α ι) : Prop :=
  ∀ i j, ∀ w ∈ (S.sessions i).loc.pending, ∀ w' ∈ (S.sessions j).loc.pending, w.1 = w'.1 → i = j

/-- Advisory locks are exclusive. -/
def LocksExclusive (S : Sys D ε α ι) : Prop :=
  ∀ i j x, x ∈ (S.sessions i).loc.locks → x ∈ (S.sessions j).loc.locks → i = j

variable [DecidableEq ι]

/-- Session `i` goes on as `p` with own data `l`. -/
def put (S : Sys D ε α ι) (i : ι) (p : Prog D ε α) (l : Local D) : Sys D ε α ι :=
  { S with sessions := Function.update S.sessions i ⟨p, l⟩ }

@[simp] theorem put_store (S : Sys D ε α ι) (i : ι) (p : Prog D ε α) (l : Local D) :
    (S.put i p l).store = S.store := rfl
@[simp] theorem put_log (S : Sys D ε α ι) (i : ι) (p : Prog D ε α) (l : Local D) :
    (S.put i p l).log = S.log := rfl
@[simp] theorem put_self (S : Sys D ε α ι) (i : ι) (p : Prog D ε α) (l : Local D) :
    (S.put i p l).sessions i = ⟨p, l⟩ := Function.update_self i _ _
theorem put_of_ne (S : Sys D ε α ι) {i j : ι} (h : j ≠ i) (p : Prog D ε α) (l : Local D) :
    (S.put i p l).sessions j = S.sessions j := Function.update_of_ne h _ _

/-- Session `i` commits and goes on as `p`. -/
def doCommit (S : Sys D ε α ι) (i : ι) (p : Prog D ε α) : Sys D ε α ι where
  store := S.view i
  sessions := Function.update S.sessions i ⟨p, (S.sessions i).loc.commit⟩
  log := ⟨i, S.store, S.view i⟩ :: S.log

@[simp] theorem doCommit_store (S : Sys D ε α ι) (i : ι) (p : Prog D ε α) :
    (S.doCommit i p).store = S.view i := rfl
@[simp] theorem doCommit_log (S : Sys D ε α ι) (i : ι) (p : Prog D ε α) :
    (S.doCommit i p).log = ⟨i, S.store, S.view i⟩ :: S.log := rfl
@[simp] theorem doCommit_self (S : Sys D ε α ι) (i : ι) (p : Prog D ε α) :
    (S.doCommit i p).sessions i = ⟨p, (S.sessions i).loc.commit⟩ := Function.update_self i _ _
theorem doCommit_of_ne (S : Sys D ε α ι) {i j : ι} (h : j ≠ i) (p : Prog D ε α) :
    (S.doCommit i p).sessions j = S.sessions j := Function.update_of_ne h _ _

end Sys

/-- A restriction on the statements of a run: on the write of a row and on a commit, each judged in
the state it is made in. -/
structure Guard (D : Db) (ε α ι : Type) where
  write : Sys D ε α ι → ι → D.Row → Prop
  commit : Sys D ε α ι → ι → Prop

/-- No restriction: every interleaving. -/
def Guard.any {D : Db} {ε α ι : Type} : Guard D ε α ι := ⟨fun _ _ _ => True, fun _ _ => True⟩

section Interleaving

variable {D : Db} {ε α ι : Type} [DecidableEq ι]

/-- One statement of one session. -/
inductive Step (G : Guard D ε α ι) (S : Sys D ε α ι) : Sys D ε α ι → Prop where
  | read (i : ι) (q : D.Query) (k : D.State → Prog D ε α)
      (h : (S.sessions i).prog = .read q k) :
      Step G S (S.put i (k (S.view i)) ((S.sessions i).loc.read q (S.view i)))
  | write (i : ι) (r : D.Row) (f : D.State → D.State) (k : D.State → Prog D ε α)
      (h : (S.sessions i).prog = .write r f k) (hr : S.RowFree i r) (hg : G.write S i r) :
      Step G S (S.put i (k (S.view i)) ((S.sessions i).loc.write r f (S.view i)))
  | lock (i : ι) (x : D.Lock) (k : Prog D ε α) (h : (S.sessions i).prog = .lock x k)
      (hx : S.LockFree i x) : Step G S (S.put i k ((S.sessions i).loc.lock x))
  | commit (i : ι) (k : Prog D ε α) (h : (S.sessions i).prog = .commit k)
      (hg : G.commit S i) : Step G S (S.doCommit i k)
  | rollback (i : ι) (k : Prog D ε α) (h : (S.sessions i).prog = .rollback k) :
      Step G S (S.put i k (S.sessions i).loc.rollback)
  | ask (i : ι) (k : D.Env → Prog D ε α) (e : D.Env) (h : (S.sessions i).prog = .ask k) :
      Step G S (S.put i (k e) ((S.sessions i).loc.ask e))

/-- The systems reached from `S₀`. -/
inductive Reach (G : Guard D ε α ι) (S₀ : Sys D ε α ι) : Sys D ε α ι → Prop where
  | refl : Reach G S₀ S₀
  | step {S S' : Sys D ε α ι} (h : Reach G S₀ S) (hs : Step G S S') : Reach G S₀ S'

end Interleaving

section Effect

variable {D : Db} {ε α ι : Type} [DecidableEq ι] {G : Guard D ε α ι} {S S' : Sys D ε α ι}

/-- What a statement does to the store, to the commits and to the uncommitted writes. -/
inductive Effect (G : Guard D ε α ι) (S S' : Sys D ε α ι) : Prop
  | quiet (hs : S'.store = S.store) (hl : S'.log = S.log)
      (hp : ∀ j, ∀ w ∈ (S'.sessions j).loc.pending, w ∈ (S.sessions j).loc.pending)
  | write (i : ι) (r : D.Row) (f : D.State → D.State) (k : D.State → Prog D ε α)
      (h : (S.sessions i).prog = .write r f k) (hr : S.RowFree i r) (hg : G.write S i r)
      (hs : S'.store = S.store) (hl : S'.log = S.log)
      (hp : ∀ j, ∀ w ∈ (S'.sessions j).loc.pending,
        w ∈ (S.sessions j).loc.pending ∨ j = i ∧ w = (r, f))
  | commit (i : ι) (k : Prog D ε α) (h : (S.sessions i).prog = .commit k) (hg : G.commit S i)
      (hs : S'.store = S.view i) (hl : S'.log = ⟨i, S.store, S.view i⟩ :: S.log)
      (hp : ∀ j, ∀ w ∈ (S'.sessions j).loc.pending, j ≠ i ∧ w ∈ (S.sessions j).loc.pending)

/-- A session that goes on without new writes leaves everything else as it is. -/
theorem Effect.of_put {i : ι} {p : Prog D ε α} {l : Local D}
    (hl : ∀ w ∈ l.pending, w ∈ (S.sessions i).loc.pending) : Effect G S (S.put i p l) := by
  refine .quiet rfl rfl fun j w hw => ?_
  by_cases hj : j = i
  · subst hj
    rw [Sys.put_self] at hw
    exact hl w hw
  · rwa [Sys.put_of_ne S hj] at hw

/-- **What a step does.** -/
theorem Step.effect (hs : Step G S S') : Effect G S S' := by
  cases hs with
  | read i q k hp => exact .of_put fun _ h => h
  | write i r f k hp hr hg =>
    refine .write i r f k hp hr hg rfl rfl fun j w hw => ?_
    by_cases hj : j = i
    · subst hj
      rw [Sys.put_self] at hw
      rcases List.mem_append.mp hw with hw | hw
      · exact Or.inl hw
      · exact Or.inr ⟨rfl, List.mem_singleton.mp hw⟩
    · rw [Sys.put_of_ne S hj] at hw
      exact Or.inl hw
  | lock i x k hp hx => exact .of_put fun _ h => h
  | commit i k hp hg =>
    refine .commit i k hp hg rfl rfl fun j w hw => ?_
    by_cases hj : j = i
    · subst hj
      simp [Local.commit] at hw
    · refine ⟨hj, ?_⟩
      rwa [Sys.doCommit_of_ne S hj] at hw
  | rollback i k hp => exact .of_put fun w hw => absurd hw (by simp [Local.rollback])
  | ask i k e hp => exact .of_put fun _ h => h

theorem Step.actor (hs : Step G S S') : ∃ j, (S'.sessions j).loc.hist ≠ [] ∧
    (∀ i, i ≠ j → S'.sessions i = S.sessions i) ∧ ∀ c ∈ S'.log, c ∈ S.log ∨ c.who = j := by
  have put : ∀ i p l, l.hist ≠ [] → ∃ j, ((S.put i p l).sessions j).loc.hist ≠ [] ∧
      (∀ k, k ≠ j → (S.put i p l).sessions k = S.sessions k) ∧
      ∀ c ∈ (S.put i p l).log, c ∈ S.log ∨ c.who = j := by
    intro i p l hl
    refine ⟨i, ?_, fun k hk => Sys.put_of_ne S hk p l, fun c hc => Or.inl hc⟩
    rwa [Sys.put_self]
  cases hs with
  | read i q k hp => exact put _ _ _ (List.cons_ne_nil _ _)
  | write i r f k hp hr hg => exact put _ _ _ (List.cons_ne_nil _ _)
  | lock i x k hp hx => exact put _ _ _ (List.cons_ne_nil _ _)
  | rollback i k hp => exact put _ _ _ (List.cons_ne_nil _ _)
  | ask i k e hp => exact put _ _ _ (List.cons_ne_nil _ _)
  | commit i k hp hg =>
    refine ⟨i, ?_, fun j hj => Sys.doCommit_of_ne S hj k, fun c hc => ?_⟩
    · rw [Sys.doCommit_self]
      exact List.cons_ne_nil _ _
    · rcases List.mem_cons.mp hc with rfl | hc
      · exact Or.inr rfl
      · exact Or.inl hc

theorem Step.hist (hs : Step G S S') (j : ι) {e : Event D} (he : e ∈ (S.sessions j).loc.hist) :
    e ∈ (S'.sessions j).loc.hist := by
  have put : ∀ i p l, (∀ e ∈ (S.sessions i).loc.hist, e ∈ l.hist) →
      e ∈ ((S.put i p l).sessions j).loc.hist := by
    intro i p l hl
    by_cases hj : j = i
    · subst hj
      rw [Sys.put_self]
      exact hl e he
    · rwa [Sys.put_of_ne S hj]
  cases hs with
  | read i q k hp => exact put _ _ _ fun _ => List.mem_cons_of_mem _
  | write i r f k hp hr hg => exact put _ _ _ fun _ => List.mem_cons_of_mem _
  | lock i x k hp hx => exact put _ _ _ fun _ => List.mem_cons_of_mem _
  | rollback i k hp => exact put _ _ _ fun _ => List.mem_cons_of_mem _
  | ask i k e hp => exact put _ _ _ fun _ => List.mem_cons_of_mem _
  | commit i k hp hg =>
    by_cases hj : j = i
    · subst hj
      rw [Sys.doCommit_self]
      exact List.mem_cons_of_mem _ he
    · rwa [Sys.doCommit_of_ne S hj]

/-- A state a session has read it had read before the step, or it is what the session sees. -/
theorem Step.read_hist (hs : Step G S S') {j : ι} {q : D.Query} {s : D.State}
    (h : Event.read q s ∈ (S'.sessions j).loc.hist) :
    Event.read q s ∈ (S.sessions j).loc.hist ∨ s = S.view j ∧ S'.store = S.store := by
  have put : ∀ i p l, Event.read q s ∈ ((S.put i p l).sessions j).loc.hist →
      (Event.read q s ∈ l.hist → Event.read q s ∈ (S.sessions i).loc.hist ∨ s = S.view i) →
      Event.read q s ∈ (S.sessions j).loc.hist ∨
        s = S.view j ∧ (S.put i p l).store = S.store := by
    intro i p l hmem hl
    by_cases hj : j = i
    · subst hj
      rw [Sys.put_self] at hmem
      exact (hl hmem).imp_right fun h => ⟨h, rfl⟩
    · rw [Sys.put_of_ne S hj] at hmem
      exact Or.inl hmem
  have tail : ∀ {e : Event D} {es : List (Event D)}, Event.read q s ∈ e :: es →
      (Event.read q s ≠ e) → Event.read q s ∈ es := fun hmem hne =>
    (List.mem_cons.mp hmem).resolve_left hne
  cases hs with
  | read i p k hp =>
    refine put _ _ _ h fun hmem => ?_
    rcases List.mem_cons.mp hmem with heq | hmem
    · cases heq
      exact Or.inr rfl
    · exact Or.inl hmem
  | write i r f k hp hr hg => exact put _ _ _ h fun hmem => Or.inl (tail hmem nofun)
  | lock i x k hp hx => exact put _ _ _ h fun hmem => Or.inl (tail hmem nofun)
  | rollback i k hp => exact put _ _ _ h fun hmem => Or.inl (tail hmem nofun)
  | ask i k e hp => exact put _ _ _ h fun hmem => Or.inl (tail hmem nofun)
  | commit i k hp hg =>
    by_cases hj : j = i
    · subst hj
      rw [Sys.doCommit_self] at h
      exact Or.inl (tail h nofun)
    · rw [Sys.doCommit_of_ne S hj] at h
      exact Or.inl h

/-- **A session without a history has not begun**: it stands at its start and has committed
nothing. -/
theorem Reach.unbegun {s : D.State} {p : ι → Prog D ε α} (h : Reach G (Sys.init s p) S) {i : ι}
    (hi : (S.sessions i).loc.hist = []) :
    S.sessions i = ⟨p i, .init⟩ ∧ ∀ c ∈ S.log, c.who ≠ i := by
  induction h with
  | refl => exact ⟨rfl, nofun⟩
  | step _ hs ih =>
    obtain ⟨j, hj, hother, hlog⟩ := hs.actor
    have hij : i ≠ j := fun h => hj (h ▸ hi)
    rw [hother i hij] at hi
    obtain ⟨hsame, hno⟩ := ih hi
    refine ⟨(hother i hij).trans hsame, fun c hc => ?_⟩
    rcases hlog c hc with hc | hw
    · exact hno c hc
    · rw [hw]
      exact hij.symm

theorem Reach.trans {S₀ S₁ S₂ : Sys D ε α ι} (h : Reach G S₀ S₁) (h' : Reach G S₁ S₂) :
    Reach G S₀ S₂ := by
  induction h' with
  | refl => exact h
  | step _ hs ih => exact ih.step hs

/-- What is reached under a guard is reached under a weaker one. -/
theorem Reach.mono {G' : Guard D ε α ι} {S₀ : Sys D ε α ι} (h : Reach G S₀ S)
    (hw : ∀ S i r, G.write S i r → G'.write S i r) (hc : ∀ S i, G.commit S i → G'.commit S i) :
    Reach G' S₀ S := by
  induction h with
  | refl => exact .refl
  | step _ hs ih =>
    refine ih.step ?_
    cases hs with
    | read i q k hp => exact .read i q k hp
    | write i r f k hp hr hg => exact .write i r f k hp hr (hw _ _ _ hg)
    | lock i x k hp hx => exact .lock i x k hp hx
    | commit i k hp hg => exact .commit i k hp (hc _ _ hg)
    | rollback i k hp => exact .rollback i k hp
    | ask i k e hp => exact .ask i k e hp

/-- Row locks stay exclusive. -/
theorem Sys.RowsExclusive.step (h : S.RowsExclusive) (hs : Step G S S') : S'.RowsExclusive := by
  intro a b w ha w' hb hww
  cases hs.effect with
  | quiet _ _ hp => exact h a b w (hp a w ha) w' (hp b w' hb) hww
  | write i r f k _ hr _ _ _ hp =>
    -- only a write adds a row, and it waits for every other session
    rcases hp a w ha with ha | ⟨rfl, rfl⟩
    · rcases hp b w' hb with hb | ⟨rfl, rfl⟩
      · exact h a b w ha w' hb hww
      · by_contra hab
        exact hr a hab w ha hww
    · rcases hp b w' hb with hb | ⟨rfl, rfl⟩
      · by_contra hab
        exact hr b (Ne.symm hab) w' hb hww.symm
      · rfl
  | commit i k _ _ _ _ hp => exact h a b w (hp a w ha).2 w' (hp b w' hb).2 hww

end Effect

/-! ### Sessions of one transaction -/

section Stage

variable {D : Db} {ε α ι : Type}

/-- Session `i` has committed. -/
def Sys.Committed (S : Sys D ε α ι) (i : ι) : Prop := ∃ c ∈ S.log, c.who = i

/-- Where a session of one transaction stands: under way, committed with its answer, or refused
with an exception. -/
inductive Stage (l : Local D) : Prog D ε α → Prop
  | running (t : Tx D ε α) (h : Event.commit ∉ l.hist) : Stage l t.transact
  | committing (a : α) (h : Event.commit ∈ l.hist) : Stage l (.ret a)
  | refused (x : ε) (h : Event.commit ∉ l.hist) : Stage l (.throw x)

/-- A session of one transaction, and the commits that are its own. -/
structure OneShot (S : Sys D ε α ι) : Prop where
  stage : ∀ i, Stage (S.sessions i).loc (S.sessions i).prog
  log : ∀ i, S.Committed i ↔ Event.commit ∈ (S.sessions i).loc.hist
  nodup : (S.log.map Commit.who).Nodup

theorem OneShot.init (s : D.State) (t : ι → Tx D ε α) :
    OneShot (Sys.init s fun i => (t i).transact) where
  stage _ := .running _ List.not_mem_nil
  log _ := by simp [Sys.Committed, Sys.init, Local.init]
  nodup := List.nodup_nil

section

variable {S : Sys D ε α ι}

theorem OneShot.not_committed (h : OneShot S) {i : ι} {x : ε}
    (hp : (S.sessions i).prog = .throw x) : ¬S.Committed i := by
  have := h.stage i
  rw [hp] at this
  generalize hq : (Prog.throw x : Prog D ε α) = q at this
  cases this with
  | running t hc => cases t <;> cases hq
  | committing a hc => cases hq
  | refused x hc => exact fun hcm => hc ((h.log i).mp hcm)

end

variable [DecidableEq ι] {G : Guard D ε α ι} {S S' : Sys D ε α ι}

theorem OneShot.put (h : OneShot S) {i : ι} {p : Prog D ε α} {l : Local D}
    (hst : Stage l p) (hl : Event.commit ∈ l.hist ↔ Event.commit ∈ (S.sessions i).loc.hist) :
    OneShot (S.put i p l) := by
  refine ⟨fun j => ?_, fun j => ?_, h.nodup⟩
  · by_cases hj : j = i
    · subst hj
      rw [Sys.put_self]
      exact hst
    · rw [Sys.put_of_ne S hj]
      exact h.stage j
  · by_cases hj : j = i
    · subst hj
      rw [Sys.put_self]
      exact (h.log j).trans hl.symm
    · rw [Sys.put_of_ne S hj]
      exact h.log j

theorem Stage.tx {l : Local D} {p : Prog D ε α} (h : Stage l p) (hr : ∀ a, p ≠ .ret a)
    (hx : ∀ x, p ≠ .throw x) : Event.commit ∉ l.hist ∧ ∃ t : Tx D ε α, p = t.transact := by
  cases h with
  | running t h => exact ⟨h, t, rfl⟩
  | committing a h => exact absurd rfl (hr a)
  | refused x h => exact absurd rfl (hx x)

theorem OneShot.step (h : OneShot S) (hs : Step G S S') : OneShot S' := by
  cases hs with
  | read i q k hp =>
    obtain ⟨hc, t, ht⟩ := (hp ▸ h.stage i).tx nofun nofun
    cases t <;> simp only [Tx.transact] at ht <;> cases ht
    refine h.put (.running _ ?_) ?_ <;> simp [Local.read, hc]
  | write i r f k hp hr hg =>
    obtain ⟨hc, t, ht⟩ := (hp ▸ h.stage i).tx nofun nofun
    cases t <;> simp only [Tx.transact] at ht <;> cases ht
    refine h.put (.running _ ?_) ?_ <;> simp [Local.write, hc]
  | lock i x k hp hx =>
    obtain ⟨hc, t, ht⟩ := (hp ▸ h.stage i).tx nofun nofun
    cases t <;> simp only [Tx.transact] at ht <;> cases ht
    refine h.put (.running _ ?_) ?_ <;> simp [Local.lock, hc]
  | commit i k hp hg =>
    obtain ⟨hc, t, ht⟩ := (hp ▸ h.stage i).tx nofun nofun
    cases t <;> simp only [Tx.transact] at ht <;> cases ht
    refine ⟨fun j => ?_, fun j => ?_, ?_⟩
    · by_cases hj : j = i
      · subst hj
        rw [Sys.doCommit_self]
        exact .committing _ (by simp [Local.commit])
      · rw [Sys.doCommit_of_ne S hj]
        exact h.stage j
    · by_cases hj : j = i
      · subst hj
        simp [Sys.Committed, Local.commit]
      · rw [Sys.doCommit_of_ne S hj, ← h.log j]
        simp [Sys.Committed, Ne.symm hj]
    · refine List.nodup_cons.mpr ⟨fun hmem => ?_, h.nodup⟩
      obtain ⟨c, hcm, hci⟩ := List.mem_map.mp hmem
      exact hc ((h.log i).mp ⟨c, hcm, hci⟩)
  | rollback i k hp =>
    obtain ⟨hc, t, ht⟩ := (hp ▸ h.stage i).tx nofun nofun
    cases t <;> simp only [Tx.transact] at ht <;> cases ht
    refine h.put (.refused _ ?_) ?_ <;> simp [Local.rollback, hc]
  | ask i k e hp =>
    obtain ⟨hc, t, ht⟩ := (hp ▸ h.stage i).tx nofun nofun
    cases t <;> simp only [Tx.transact] at ht <;> cases ht

end Stage

/-! ### Schedules -/

section Play

variable {D : Db} {ε α ι : Type} [DecidableEq ι]

/-- The next statement of session `i`, whatever the locks. -/
def Sys.advance (S : Sys D ε α ι) (i : ι) : Sys D ε α ι :=
  match (S.sessions i).prog with
  | .read q k => S.put i (k (S.view i)) ((S.sessions i).loc.read q (S.view i))
  | .write r f k => S.put i (k (S.view i)) ((S.sessions i).loc.write r f (S.view i))
  | .lock x k => S.put i k ((S.sessions i).loc.lock x)
  | .commit k => S.doCommit i k
  | .rollback k => S.put i k (S.sessions i).loc.rollback
  | _ => S

/-- Session `i` may make its next statement. -/
def Sys.MayAdvance (G : Guard D ε α ι) (S : Sys D ε α ι) (i : ι) : Prop :=
  match (S.sessions i).prog with
  | .write r _ _ => S.RowFree i r ∧ G.write S i r
  | .lock x _ => S.LockFree i x
  | .commit _ => G.commit S i
  | _ => True

instance [Fintype ι] [DecidableEq D.Row] (S : Sys D ε α ι) (i : ι) (r : D.Row) :
    Decidable (S.RowFree i r) :=
  inferInstanceAs (Decidable (∀ j, j ≠ i → ∀ w ∈ (S.sessions j).loc.pending, w.1 ≠ r))

instance [Fintype ι] [DecidableEq D.Lock] (S : Sys D ε α ι) (i : ι) (x : D.Lock) :
    Decidable (S.LockFree i x) :=
  inferInstanceAs (Decidable (∀ j, j ≠ i → x ∉ (S.sessions j).loc.locks))

/-- The statements of the sessions in a given order. -/
def Sys.play (S : Sys D ε α ι) (is : List ι) : Sys D ε α ι := is.foldl Sys.advance S

/-- Every statement of the schedule may be made in its turn. -/
def Sys.MayPlay (G : Guard D ε α ι) : Sys D ε α ι → List ι → Prop
  | _, [] => True
  | S, i :: is => S.MayAdvance G i ∧ Sys.MayPlay G (S.advance i) is

variable {G : Guard D ε α ι} {S₀ S : Sys D ε α ι}

theorem Reach.advance (h : Reach G S₀ S) {i : ι} (hi : S.MayAdvance G i) :
    Reach G S₀ (S.advance i) := by
  unfold Sys.MayAdvance at hi
  unfold Sys.advance
  cases hp : (S.sessions i).prog with
  | ret a => exact h
  | throw x => exact h
  | read q k => exact h.step (.read i q k hp)
  | write r f k =>
    rw [hp] at hi
    exact h.step (.write i r f k hp hi.1 hi.2)
  | lock x k =>
    rw [hp] at hi
    exact h.step (.lock i x k hp hi)
  | commit k =>
    rw [hp] at hi
    exact h.step (.commit i k hp hi)
  | rollback k => exact h.step (.rollback i k hp)
  | ask k => exact h

/-- **A schedule whose statements may be made is an interleaving.** -/
theorem Reach.play (h : Reach G S₀ S) {is : List ι} (his : S.MayPlay G is) :
    Reach G S₀ (S.play is) := by
  induction is generalizing S with
  | nil => exact h
  | cons i is ih => exact ih (h.advance his.1) his.2

/-- The environment answers session `i`. -/
def Sys.reply (S : Sys D ε α ι) (i : ι) (e : D.Env) : Sys D ε α ι :=
  match (S.sessions i).prog with
  | .ask k => S.put i (k e) ((S.sessions i).loc.ask e)
  | _ => S

theorem Reach.reply (h : Reach G S₀ S) (i : ι) (e : D.Env) : Reach G S₀ (S.reply i e) := by
  unfold Sys.reply
  cases hp : (S.sessions i).prog with
  | ask k => exact h.step (.ask i k e hp)
  | _ => exact h

section Decidable

variable [Fintype ι] [DecidableEq D.Row] [DecidableEq D.Lock]

instance (S : Sys D ε α ι) (i : ι) : Decidable (S.MayAdvance .any i) :=
  match h : (S.sessions i).prog with
  | .write r _ _ => decidable_of_iff (S.RowFree i r) (by simp [Sys.MayAdvance, h, Guard.any])
  | .lock x _ => decidable_of_iff (S.LockFree i x) (by simp [Sys.MayAdvance, h])
  | .commit _ => isTrue (by simp [Sys.MayAdvance, h, Guard.any])
  | .ret _ | .throw _ | .read _ _ | .rollback _ | .ask _ => isTrue (by simp [Sys.MayAdvance, h])

instance decidableMayPlay : (S : Sys D ε α ι) → (is : List ι) → Decidable (S.MayPlay .any is)
  | _, [] => isTrue trivial
  | S, i :: is =>
    have := decidableMayPlay (S.advance i) is
    inferInstanceAs (Decidable (S.MayAdvance .any i ∧ (S.advance i).MayPlay .any is))

variable {G : Guard D ε α ι} [∀ S i r, Decidable (G.write S i r)] [∀ S i, Decidable (G.commit S i)]

instance (S : Sys D ε α ι) (i : ι) : Decidable (S.MayAdvance G i) :=
  match h : (S.sessions i).prog with
  | .write r _ _ => decidable_of_iff (S.RowFree i r ∧ G.write S i r) (by simp [Sys.MayAdvance, h])
  | .lock x _ => decidable_of_iff (S.LockFree i x) (by simp [Sys.MayAdvance, h])
  | .commit _ => decidable_of_iff (G.commit S i) (by simp [Sys.MayAdvance, h])
  | .ret _ | .throw _ | .read _ _ | .rollback _ | .ask _ => isTrue (by simp [Sys.MayAdvance, h])

instance decidableMayPlayUnder : (S : Sys D ε α ι) → (is : List ι) → Decidable (S.MayPlay G is)
  | _, [] => isTrue trivial
  | S, i :: is =>
    have := decidableMayPlayUnder (S.advance i) is
    inferInstanceAs (Decidable (S.MayAdvance G i ∧ (S.advance i).MayPlay G is))

end Decidable

end Play

/-! ## Disciplines -/

/-- What a program promises about its statements: `view` is what it may assume of a state it sees,
`write`, `commit` and `rollback` are what it promises at such a statement. -/
structure Rules (D : Db) where
  view : Local D → D.State → Prop
  write : Local D → D.Row → (D.State → D.State) → D.State → Prop
  commit : Local D → Prop
  rollback : Local D → Prop

/-- Every path of the body keeps the rules and ends in `Q` with a result or in `X` with an
exception. -/
def Tx.Keeps {D : Db} {ε α : Type} (R : Rules D) (Q : Local D → α → Prop)
    (X : Local D → ε → Prop) : Local D → Tx D ε α → Prop
  | l, .ret a => Q l a
  | l, .throw x => X l x
  | l, .read q k => ∀ s, R.view l s → Keeps R Q X (l.read q s) (k s)
  | l, .write r f k => ∀ s, R.view l s → R.write l r f s ∧ Keeps R Q X (l.write r f s) (k s)
  | l, .lock x k => Keeps R Q X (l.lock x) k

/-- The same for a session. -/
def Prog.Keeps {D : Db} {ε α : Type} (R : Rules D) (Q : Local D → α → Prop)
    (X : Local D → ε → Prop) : Local D → Prog D ε α → Prop
  | l, .ret a => Q l a
  | l, .throw x => X l x
  | l, .read q k => ∀ s, R.view l s → Keeps R Q X (l.read q s) (k s)
  | l, .write r f k => ∀ s, R.view l s → R.write l r f s ∧ Keeps R Q X (l.write r f s) (k s)
  | l, .lock x k => Keeps R Q X (l.lock x) k
  | l, .commit k => R.commit l ∧ Keeps R Q X l.commit k
  | l, .rollback k => R.rollback l ∧ Keeps R Q X l.rollback k
  | l, .ask k => ∀ e, Keeps R Q X (l.ask e) (k e)

section Keeps

variable {D : Db} {ε α β : Type} {R : Rules D}

@[simp] theorem Tx.keeps_ret {Q : Local D → α → Prop} {X : Local D → ε → Prop} {l : Local D}
    {a : α} : (ret a).Keeps R Q X l ↔ Q l a := Iff.rfl
@[simp] theorem Tx.keeps_throw {Q : Local D → α → Prop} {X : Local D → ε → Prop} {l : Local D}
    {x : ε} : (throw x).Keeps R Q X l ↔ X l x := Iff.rfl
@[simp] theorem Tx.keeps_read {Q : Local D → α → Prop} {X : Local D → ε → Prop} {l : Local D}
    {q : D.Query} {k : D.State → Tx D ε α} : (read q k).Keeps R Q X l ↔
      ∀ s, R.view l s → (k s).Keeps R Q X (l.read q s) := Iff.rfl
@[simp] theorem Tx.keeps_write {Q : Local D → α → Prop} {X : Local D → ε → Prop} {l : Local D}
    {r : D.Row} {f : D.State → D.State} {k : D.State → Tx D ε α} :
    (write r f k).Keeps R Q X l ↔
      ∀ s, R.view l s → R.write l r f s ∧ (k s).Keeps R Q X (l.write r f s) := Iff.rfl
@[simp] theorem Tx.keeps_lock {Q : Local D → α → Prop} {X : Local D → ε → Prop} {l : Local D}
    {x : D.Lock} {k : Tx D ε α} : (lock x k).Keeps R Q X l ↔ k.Keeps R Q X (l.lock x) := Iff.rfl

@[simp] theorem Tx.keeps_bind {Q : Local D → β → Prop} {X : Local D → ε → Prop} {l : Local D}
    {t : Tx D ε α} {g : α → Tx D ε β} : (t >>= g).Keeps R Q X l ↔
      t.Keeps R (fun l a => (g a).Keeps R Q X l) X l := by
  induction t generalizing l with
  | ret a => exact Iff.rfl
  | throw x => exact Iff.rfl
  | read q k ih => exact forall₂_congr fun s _ => ih s
  | write r f k ih => exact forall₂_congr fun s _ => and_congr_right fun _ => ih s
  | lock x k ih => exact ih

theorem Tx.Keeps.mono {Q Q' : Local D → α → Prop} {X X' : Local D → ε → Prop} {l : Local D}
    {t : Tx D ε α} (h : t.Keeps R Q X l) (hQ : ∀ l a, Q l a → Q' l a)
    (hX : ∀ l x, X l x → X' l x) : t.Keeps R Q' X' l := by
  induction t generalizing l with
  | ret a => exact hQ _ _ h
  | throw x => exact hX _ _ h
  | read q k ih => exact fun s hs => ih s (h s hs)
  | write r f k ih => exact fun s hs => ⟨(h s hs).1, ih s (h s hs).2⟩
  | lock x k ih => exact ih h

@[simp] theorem Prog.keeps_bind {Q : Local D → β → Prop} {X : Local D → ε → Prop} {l : Local D}
    {p : Prog D ε α} {g : α → Prog D ε β} : (p >>= g).Keeps R Q X l ↔
      p.Keeps R (fun l a => (g a).Keeps R Q X l) X l := by
  induction p generalizing l with
  | ret a => exact Iff.rfl
  | throw x => exact Iff.rfl
  | read q k ih => exact forall₂_congr fun s _ => ih s
  | write r f k ih => exact forall₂_congr fun s _ => and_congr_right fun _ => ih s
  | lock x k ih => exact ih
  | commit k ih => exact and_congr_right fun _ => ih
  | rollback k ih => exact and_congr_right fun _ => ih
  | ask k ih => exact forall_congr' fun e => ih e

@[simp] theorem Prog.keeps_handle {ε' : Type} {Q : Local D → α → Prop}
    {X : Local D → ε' → Prop} {l : Local D}
    {p : Prog D ε α} {g : ε → Prog D ε' α} : (p.handle g).Keeps R Q X l ↔
      p.Keeps R Q (fun l x => (g x).Keeps R Q X l) l := by
  induction p generalizing l with
  | ret a => exact Iff.rfl
  | throw x => exact Iff.rfl
  | read q k ih => exact forall₂_congr fun s _ => ih s
  | write r f k ih => exact forall₂_congr fun s _ => and_congr_right fun _ => ih s
  | lock x k ih => exact ih
  | commit k ih => exact and_congr_right fun _ => ih
  | rollback k ih => exact and_congr_right fun _ => ih
  | ask k ih => exact forall_congr' fun e => ih e

@[simp] theorem Prog.keeps_mapError {ε' : Type} {Q : Local D → α → Prop}
    {X : Local D → ε' → Prop} {l : Local D} {p : Prog D ε α} {f : ε → ε'} :
    (p.mapError f).Keeps R Q X l ↔ p.Keeps R Q (fun l x => X l (f x)) l :=
  Prog.keeps_handle

theorem Prog.Keeps.mono {Q Q' : Local D → α → Prop} {X X' : Local D → ε → Prop} {l : Local D}
    {p : Prog D ε α} (h : p.Keeps R Q X l) (hQ : ∀ l a, Q l a → Q' l a)
    (hX : ∀ l x, X l x → X' l x) : p.Keeps R Q' X' l := by
  induction p generalizing l with
  | ret a => exact hQ _ _ h
  | throw x => exact hX _ _ h
  | read q k ih => exact fun s hs => ih s (h s hs)
  | write r f k ih => exact fun s hs => ⟨(h s hs).1, ih s (h s hs).2⟩
  | lock x k ih => exact ih h
  | commit k ih => exact ⟨h.1, ih h.2⟩
  | rollback k ih => exact ⟨h.1, ih h.2⟩
  | ask k ih => exact fun e => ih e (h e)

/-- **The rule for a transaction**: its body, then the commit or the rollback. -/
@[simp] theorem Tx.keeps_transact {Q : Local D → α → Prop} {X : Local D → ε → Prop} {l : Local D}
    {t : Tx D ε α} : t.transact.Keeps R Q X l ↔
      t.Keeps R (fun l a => R.commit l ∧ Q l.commit a)
        (fun l x => R.rollback l ∧ X l.rollback x) l := by
  induction t generalizing l with
  | ret a => exact Iff.rfl
  | throw x => exact Iff.rfl
  | read q k ih => exact forall₂_congr fun s _ => ih s
  | write r f k ih => exact forall₂_congr fun s _ => and_congr_right fun _ => ih s
  | lock x k ih => exact ih

end Keeps

theorem Prog.Keeps.pending {D : Db} {ε α : Type} {R : Rules D} {Q : Local D → α → Prop}
    {X : Local D → ε → Prop} {P : D.Row × (D.State → D.State) → Prop} {l : Local D}
    {p : Prog D ε α} (h : p.Keeps R Q X l) (hl : ∀ w ∈ l.pending, P w)
    (hP : ∀ l r f s, R.write l r f s → P (r, f)) :
    p.Keeps { R with commit := fun l => R.commit l ∧ ∀ w ∈ l.pending, P w } Q X l := by
  induction p generalizing l with
  | ret a => exact h
  | throw x => exact h
  | read q k ih => exact fun s hs => ih s (h s hs) hl
  | write r f k ih =>
    refine fun s hs => ⟨(h s hs).1, ih s (h s hs).2 fun w hw => ?_⟩
    rcases List.mem_append.mp hw with hw | hw
    · exact hl w hw
    · rw [List.mem_singleton.mp hw]
      exact hP _ _ _ _ (h s hs).1
  | lock x k ih => exact ih h hl
  | commit k ih => exact ⟨⟨h.1, hl⟩, ih h.2 fun w hw => absurd hw List.not_mem_nil⟩
  | rollback k ih => exact ⟨h.1, ih h.2 fun w hw => absurd hw List.not_mem_nil⟩
  | ask k ih => exact fun e => ih e (h e) hl

/-- No rules. -/
def Rules.any {D : Db} : Rules D :=
  ⟨fun _ _ => True, fun _ _ _ _ => True, fun _ => True, fun _ => True⟩

/-- Every program keeps no rules. -/
theorem Prog.keeps_any {D : Db} {ε α : Type} (p : Prog D ε α) (l : Local D) :
    p.Keeps Rules.any (fun _ _ => True) (fun _ _ => True) l := by
  induction p generalizing l with
  | ret a => trivial
  | throw x => trivial
  | read q k ih => exact fun s _ => ih s _
  | write r f k ih => exact fun s _ => ⟨trivial, ih s _⟩
  | lock x k ih => exact ih _
  | commit k ih => exact ⟨trivial, ih _⟩
  | rollback k ih => exact ⟨trivial, ih _⟩
  | ask k ih => exact fun e => ih e _

/-- `seen l q s`: the transaction of `l` has read the state `s` by the query `q`, before its first
write. -/
structure Recall {D : Db} (R : Rules D) (seen : Local D → D.Query → D.State → Prop) : Prop where
  view : ∀ l q s, R.view l s → l.pending = [] → seen (l.read q s) q s
  read : ∀ l q s p t, seen l q s → seen (l.read p t) q s
  write : ∀ l r f q s t, seen l q s → seen (l.write r f t) q s
  lock : ∀ l x q s, seen l q s → seen (l.lock x) q s

/-- What a session recalls is in its history. -/
theorem Recall.hist {D : Db} {R : Rules D} {P : D.State → Prop} (hP : ∀ l s, R.view l s → P s) :
    Recall R fun l q s => Event.read q s ∈ l.hist ∧ P s where
  view l _ s h _ := ⟨List.mem_cons_self, hP l s h⟩
  read _ _ _ _ _ h := ⟨List.mem_cons_of_mem _ h.1, h.2⟩
  write _ _ _ _ _ _ h := ⟨List.mem_cons_of_mem _ h.1, h.2⟩
  lock _ _ _ _ h := ⟨List.mem_cons_of_mem _ h.1, h.2⟩

/-- The rules of a transaction that runs alone on `h`: it sees `h` under its own writes. -/
def Rules.alone {D : Db} (h : D.State) : Rules D where
  view l s := s = l.view h
  write _ _ _ _ := True
  commit _ := True
  rollback _ := True

theorem Recall.alone {D : Db} (h : D.State) : Recall (Rules.alone h) fun _ _ s => s = h where
  view l _ s hs hl := by rw [hs, Local.view, hl, List.foldl_nil]
  read _ _ _ _ _ h := h
  write _ _ _ _ _ _ h := h
  lock _ _ _ _ h := h

@[simp] theorem Local.view_write {D : Db} (l : Local D) (r : D.Row) (f : D.State → D.State)
    (s h : D.State) : (l.write r f s).view h = f (l.view h) := by
  simp [Local.view, Local.write]

/-- **What a body keeps, its run alone shows.** -/
theorem Tx.Keeps.exec {D : Db} {ε α : Type} {Q : Local D → α → Prop} {X : Local D → ε → Prop}
    {h : D.State} {l : Local D} {t : Tx D ε α} (ht : t.Keeps (Rules.alone h) Q X l) :
    match t.exec (l.view h) with
      | .ok (a, h') => ∃ l', Q l' a ∧ l'.view h = h'
      | .error x => ∃ l', X l' x := by
  induction t generalizing l with
  | ret a => exact ⟨l, ht, rfl⟩
  | throw x => exact ⟨l, ht⟩
  | read q k ih => exact ih (l.view h) (l := l.read q (l.view h)) (ht _ rfl)
  | write r f k ih =>
    have := ih (l.view h) (l := l.write r f (l.view h)) (ht _ rfl).2
    rwa [Local.view_write] at this
  | lock x k ih => exact ih (l := l.lock x) ht

/-- Every path of the program keeps the rules and ends in `done`. -/
def Obeys {D : Db} {ε α : Type} (R : Rules D) (done : Local D → Except ε α → Prop)
    (l : Local D) (p : Prog D ε α) : Prop :=
  p.Keeps R (fun l a => done l (.ok a)) (fun l x => done l (.error x)) l

section Interleaving

variable {D : Db} {ε α ι : Type}

/-- Every session keeps its rules from here on. -/
def AllObey (R : ι → Rules D) (done : ι → Local D → Except ε α → Prop) (S : Sys D ε α ι) : Prop :=
  ∀ i, Obeys (R i) (done i) (S.sessions i).loc (S.sessions i).prog

section

variable {R : ι → Rules D} {done : ι → Local D → Except ε α → Prop}

theorem AllObey.ret {S : Sys D ε α ι} (h : AllObey R done S) {i : ι} {a : α}
    (hp : (S.sessions i).prog = .ret a) : done i (S.sessions i).loc (.ok a) := by
  have := h i
  rwa [hp] at this

theorem AllObey.throw {S : Sys D ε α ι} (h : AllObey R done S) {i : ι} {x : ε}
    (hp : (S.sessions i).prog = .throw x) : done i (S.sessions i).loc (.error x) := by
  have := h i
  rwa [hp] at this

theorem AllObey.write {S : Sys D ε α ι} (h : AllObey R done S) {i : ι} {r : D.Row}
    {f : D.State → D.State} {k : D.State → Prog D ε α}
    (hp : (S.sessions i).prog = .write r f k) (hv : (R i).view (S.sessions i).loc (S.view i)) :
    (R i).write (S.sessions i).loc r f (S.view i) := by
  have := h i
  rw [hp] at this
  exact (this _ hv).1

theorem AllObey.commit {S : Sys D ε α ι} (h : AllObey R done S) {i : ι} {k : Prog D ε α}
    (hp : (S.sessions i).prog = .commit k) : (R i).commit (S.sessions i).loc := by
  have := h i
  rw [hp] at this
  exact this.1

theorem AllObey.rollback {S : Sys D ε α ι} (h : AllObey R done S) {i : ι} {k : Prog D ε α}
    (hp : (S.sessions i).prog = .rollback k) : (R i).rollback (S.sessions i).loc := by
  have := h i
  rw [hp] at this
  exact this.1

variable [DecidableEq ι] {G : Guard D ε α ι} {S₀ S : Sys D ε α ι}

theorem AllObey.put {S : Sys D ε α ι} (h : AllObey R done S) {i : ι} {p : Prog D ε α}
    {l : Local D} (hi : Obeys (R i) (done i) l p) : AllObey R done (S.put i p l) := by
  intro j
  by_cases hj : j = i
  · subst hj; rw [Sys.put_self]; exact hi
  · rw [Sys.put_of_ne S hj]; exact h j

theorem AllObey.step {S S' : Sys D ε α ι} (h : AllObey R done S)
    (hv : ∀ i, (R i).view (S.sessions i).loc (S.view i)) (hs : Step G S S') :
    AllObey R done S' := by
  cases hs with
  | read i q k hp =>
    have hi := h i
    rw [hp] at hi
    exact h.put (hi _ (hv i))
  | write i r f k hp hr hg =>
    have hi := h i
    rw [hp] at hi
    exact h.put (hi _ (hv i)).2
  | lock i x k hp hx =>
    have hi := h i
    rw [hp] at hi
    exact h.put hi
  | commit i k hp hg =>
    have hi := h i
    rw [hp] at hi
    exact AllObey.put (S := { S with store := S.view i, log := _ }) h hi.2
  | rollback i k hp =>
    have hi := h i
    rw [hp] at hi
    exact h.put hi.2
  | ask i k e hp =>
    have hi := h i
    rw [hp] at hi
    exact h.put (hi e)

/-- **The induction rule for interleavings.** An invariant that justifies what the sessions assume
of the states they see, and that every statement keeps as long as the sessions keep their rules,
holds in every system reached; and the sessions keep their rules there. -/
theorem Reach.obeys {I : Sys D ε α ι → Prop} (h₀ : I S₀) (hR : AllObey R done S₀)
    (hview : ∀ S, I S → AllObey R done S → ∀ i, (R i).view (S.sessions i).loc (S.view i))
    (hstep : ∀ S S', I S → AllObey R done S → Step G S S' → I S')
    (h : Reach G S₀ S) : I S ∧ AllObey R done S := by
  induction h with
  | refl => exact ⟨h₀, hR⟩
  | step _ hs ih => exact ⟨hstep _ _ ih.1 ih.2 hs, ih.2.step (hview _ ih.1 ih.2) hs⟩

theorem Reach.obeys_one {i : ι} {R : Rules D} {done : Local D → Except ε α → Prop}
    {I : Sys D ε α ι → Prop} (h₀ : I S₀)
    (hR : Obeys R done (S₀.sessions i).loc (S₀.sessions i).prog)
    (hview : ∀ S, I S → R.view (S.sessions i).loc (S.view i))
    (hstep : ∀ S S', I S → Obeys R done (S.sessions i).loc (S.sessions i).prog →
      Step G S S' → I S') (h : Reach G S₀ S) :
    I S ∧ Obeys R done (S.sessions i).loc (S.sessions i).prog := by
  let Rs : ι → Rules D := fun j => if j = i then R else Rules.any
  let ds : ι → Local D → Except ε α → Prop := fun j => if j = i then done else fun _ _ => True
  have hRi : Rs i = R := if_pos rfl
  have hdi : ds i = done := if_pos rfl
  have hother : ∀ j, j ≠ i → Rs j = Rules.any ∧ ds j = fun _ _ => True := fun j hj =>
    ⟨if_neg hj, if_neg hj⟩
  have hone : ∀ T : Sys D ε α ι, AllObey Rs ds T →
      Obeys R done (T.sessions i).loc (T.sessions i).prog := by
    intro T hT
    have := hT i
    rwa [hRi, hdi] at this
  have hall : AllObey Rs ds S₀ := by
    intro j
    by_cases hj : j = i
    · subst hj
      rwa [hRi, hdi]
    · rw [(hother j hj).1, (hother j hj).2]
      exact Prog.keeps_any _ _
  have hreach := Reach.obeys h₀ hall (fun T hT _ j => ?_)
    (fun T T' hT ho hs => hstep T T' hT (hone T ho) hs) h
  · exact ⟨hreach.1, hone S hreach.2⟩
  · by_cases hj : j = i
    · subst hj
      rw [hRi]
      exact hview T hT
    · rw [(hother j hj).1]
      trivial

end

/-- Advisory locks stay exclusive. -/
theorem Sys.LocksExclusive.step [DecidableEq ι] {G : Guard D ε α ι} {S S' : Sys D ε α ι}
    (h : S.LocksExclusive) (hs : Step G S S') : S'.LocksExclusive := by
  -- only `lock` adds a lock, and it waits for every other session
  have key : ∀ (T : Sys D ε α ι) (i : ι), (∀ j, j ≠ i → T.sessions j = S.sessions j) →
      (∀ x ∈ (T.sessions i).loc.locks, x ∈ (S.sessions i).loc.locks ∨ S.LockFree i x) →
      T.LocksExclusive := by
    intro T i hne hi a b x ha hb
    by_cases hai : a = i
    · by_cases hbi : b = i
      · rw [hai, hbi]
      · rw [hne b hbi] at hb
        rw [hai] at ha ⊢
        rcases hi x ha with h' | h'
        · exact h i b x h' hb
        · exact absurd hb (h' b hbi)
    · rw [hne a hai] at ha
      by_cases hbi : b = i
      · rw [hbi] at hb ⊢
        rcases hi x hb with h' | h'
        · exact h a i x ha h'
        · exact absurd ha (h' a hai)
      · rw [hne b hbi] at hb
        exact h a b x ha hb
  cases hs with
  | read i q k hp =>
    exact key _ i (fun j hj => Sys.put_of_ne S hj _ _) fun x hx => by
      rw [Sys.put_self] at hx; exact Or.inl hx
  | write i r f k hp hr hg =>
    exact key _ i (fun j hj => Sys.put_of_ne S hj _ _) fun x hx => by
      rw [Sys.put_self] at hx; exact Or.inl hx
  | lock i x k hp hfree =>
    refine key _ i (fun j hj => Sys.put_of_ne S hj _ _) fun y hy => ?_
    rw [Sys.put_self] at hy
    rcases List.mem_cons.mp hy with rfl | hy
    · exact Or.inr hfree
    · exact Or.inl hy
  | commit i k hp hg =>
    refine key _ i (fun j hj => Sys.doCommit_of_ne S hj _) fun x hx => ?_
    simp [Local.commit] at hx
  | rollback i k hp =>
    refine key _ i (fun j hj => Sys.put_of_ne S hj _ _) fun x hx => ?_
    rw [Sys.put_self] at hx
    simp [Local.rollback] at hx
  | ask i k e hp =>
    exact key _ i (fun j hj => Sys.put_of_ne S hj _ _) fun x hx => by
      rw [Sys.put_self] at hx; exact Or.inl hx

end Interleaving

/-! ## What an open transaction has seen -/

section Saw

variable {D : Db}

/-- The open transaction has read the state `s` by `q`, before its first write. -/
inductive Local.Saw (q : D.Query) (s : D.State) : Local D → Prop
  | here {l : Local D} (hl : l.pending = []) : Saw q s (l.read q s)
  | read {l : Local D} (h : Saw q s l) (p : D.Query) (t : D.State) : Saw q s (l.read p t)
  | write {l : Local D} (h : Saw q s l) (r : D.Row) (f : D.State → D.State) (t : D.State) :
      Saw q s (l.write r f t)
  | lock {l : Local D} (h : Saw q s l) (x : D.Lock) : Saw q s (l.lock x)
  | ask {l : Local D} (h : Saw q s l) (e : D.Env) : Saw q s (l.ask e)

theorem Recall.saw (R : Rules D) : Recall R fun l q s => l.Saw q s where
  view _ _ _ _ hl := .here hl
  read _ _ _ p t h := h.read p t
  write _ r f _ _ t h := h.write r f t
  lock _ x _ _ h := h.lock x

namespace Local

variable {l : Local D} {q p : D.Query} {s t : D.State}

theorem saw_read (h : (l.read p t).Saw q s) :
    l.Saw q s ∨ l.pending = [] ∧ q = p ∧ s = t := by
  generalize hm : l.read p t = m at h
  cases h with
  | @here l' hl =>
    cases l
    cases l'
    cases hm
    exact Or.inr ⟨hl, rfl, rfl⟩
  | @read l' h =>
    cases l
    cases l'
    cases hm
    exact Or.inl h
  | write | lock | ask => cases hm

theorem saw_write {r : D.Row} {f : D.State → D.State} (h : (l.write r f t).Saw q s) :
    l.Saw q s := by
  generalize hm : l.write r f t = m at h
  cases h with
  | @write l' h =>
    cases l
    cases l'
    simp only [write, mk.injEq, List.cons.injEq] at hm
    obtain ⟨⟨-, rfl⟩, hp, rfl⟩ := hm
    obtain ⟨rfl, -⟩ := List.append_inj' hp rfl
    exact h
  | here | read | lock | ask => cases hm

theorem saw_lock {x : D.Lock} (h : (l.lock x).Saw q s) : l.Saw q s := by
  generalize hm : l.lock x = m at h
  cases h with
  | @lock l' h =>
    cases l
    cases l'
    cases hm
    exact h
  | here | read | write | ask => cases hm

theorem saw_ask {e : D.Env} (h : (l.ask e).Saw q s) : l.Saw q s := by
  generalize hm : l.ask e = m at h
  cases h with
  | @ask l' h =>
    cases l
    cases l'
    cases hm
    exact h
  | here | read | write | lock => cases hm

theorem not_saw_commit : ¬l.commit.Saw q s := by
  intro h
  generalize hm : l.commit = m at h
  cases h <;> cases hm

theorem not_saw_rollback : ¬l.rollback.Saw q s := by
  intro h
  generalize hm : l.rollback = m at h
  cases h <;> cases hm

theorem not_saw_init : ¬(init : Local D).Saw q s := by
  intro h
  generalize hm : (init : Local D) = m at h
  cases h <;> cases hm

end Local

variable {ε α ι : Type} [DecidableEq ι] {G : Guard D ε α ι} {S S' : Sys D ε α ι}

/-- **What a session has seen** it had seen before the step, or it is the committed store. -/
theorem Step.saw (hs : Step G S S') {j : ι} {q : D.Query} {s : D.State}
    (h : (S'.sessions j).loc.Saw q s) :
    (S.sessions j).loc.Saw q s ∨ s = S.store ∧ S'.store = S.store := by
  have put : ∀ i p l, ((S.put i p l).sessions j).loc.Saw q s →
      (l.Saw q s → (S.sessions i).loc.Saw q s ∨ s = S.store) →
      (S.sessions j).loc.Saw q s ∨ s = S.store ∧ (S.put i p l).store = S.store := by
    intro i p l hsaw hl
    by_cases hj : j = i
    · subst hj
      rw [Sys.put_self] at hsaw
      exact (hl hsaw).imp_right fun h => ⟨h, rfl⟩
    · rw [Sys.put_of_ne S hj] at hsaw
      exact Or.inl hsaw
  cases hs with
  | read i p k hp =>
    refine put _ _ _ h fun hl => (Local.saw_read hl).imp_right fun ⟨hnone, _, hv⟩ => ?_
    rw [hv, Sys.view, Local.view, hnone]
    rfl
  | write i r f k hp hr hg => exact put _ _ _ h fun hl => Or.inl (Local.saw_write hl)
  | lock i x k hp hx => exact put _ _ _ h fun hl => Or.inl (Local.saw_lock hl)
  | rollback i k hp => exact put _ _ _ h fun hl => absurd hl Local.not_saw_rollback
  | ask i k e hp => exact put _ _ _ h fun hl => Or.inl (Local.saw_ask hl)
  | commit i k hp hg =>
    by_cases hj : j = i
    · subst hj
      rw [Sys.doCommit_self] at h
      exact absurd h Local.not_saw_commit
    · rw [Sys.doCommit_of_ne S hj] at h
      exact Or.inl h

end Saw

end KarsHotel
