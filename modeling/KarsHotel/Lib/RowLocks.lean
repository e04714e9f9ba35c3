import KarsHotel.Lib.Interleaving

/-!
# Held rows

A row with an uncommitted write is closed to the other sessions. Where every write changes its own
row only, the committed content of such a row is still what the writer found in it.

* `Confined`: a write that changes its row only; `Local.held`: what the open transaction found when
  it first wrote a row;
* `HoldsRows`: what holds of one session; `HoldsRows.view_of_free`: what it says;
* `Standing`: it holds of all sessions; **`Standing.step`**.
-/

namespace KarsHotel

/-- What every uncommitted write keeps, a session sees kept. -/
theorem Local.view_keeps {D : Db} {l : Local D} {P : D.State → Prop} {s : D.State} (hs : P s)
    (hw : ∀ w ∈ l.pending, ∀ t, P t → P (w.2 t)) : P (l.view s) := by
  unfold Local.view
  generalize l.pending = ws at hw
  induction ws generalizing s with
  | nil => exact hs
  | cons w ws ih =>
    have hw := List.forall_mem_cons.mp hw
    exact ih (hw.1 s hs) hw.2

section RowLocks

variable {D : Db} {C : D.Row → Type} (get : (r : D.Row) → D.State → C r)

/-- A write that changes its own row only. -/
def Confined (r : D.Row) (f : D.State → D.State) : Prop := ∀ r' ≠ r, ∀ s, get r' (f s) = get r' s

variable {get} in
theorem get_foldl {ws : List (D.Row × (D.State → D.State))} {r : D.Row}
    (hc : ∀ w ∈ ws, Confined get w.1 w.2) (hr : ∀ w ∈ ws, w.1 ≠ r) (s : D.State) :
    get r (ws.foldl (fun s w => w.2 s) s) = get r s := by
  induction ws generalizing s with
  | nil => rfl
  | cons w ws ih =>
    have hw := List.forall_mem_cons.mp hc
    have hwr := List.forall_mem_cons.mp hr
    rw [List.foldl_cons, ih hw.2 hwr.2, hw.1 r (Ne.symm hwr.1)]

variable [DecidableEq D.Row]

/-- What the statements since the last commit or rollback found at the first write on row `r`. -/
def firstWrite (r : D.Row) : List (Event D) → Option D.State
  | [] => none
  | .commit :: _ => none
  | .rollback :: _ => none
  | .write r' _ s :: es => (firstWrite r es).or (if r' = r then some s else none)
  | _ :: es => firstWrite r es

/-- What the open transaction found when it first wrote row `r`. -/
def Local.held (l : Local D) (r : D.Row) : Option D.State := firstWrite r l.hist

section Held

variable (l : Local D) (r r' : D.Row) (f : D.State → D.State) (s : D.State)

@[simp] theorem Local.held_init : (Local.init : Local D).held r = none := rfl
@[simp] theorem Local.held_read (q : D.Query) : (l.read q s).held r = l.held r := rfl
@[simp] theorem Local.held_lock (x : D.Lock) : (l.lock x).held r = l.held r := rfl
@[simp] theorem Local.held_ask (e : D.Env) : (l.ask e).held r = l.held r := rfl
@[simp] theorem Local.held_commit : l.commit.held r = none := rfl
@[simp] theorem Local.held_rollback : l.rollback.held r = none := rfl
theorem Local.held_write :
    (l.write r' f s).held r = (l.held r).or (if r' = r then some s else none) := rfl

end Held

/-- What a session holds, over the committed `store`: the rows it has written in its open
transaction, and their committed content is what it found in them. -/
structure HoldsRows (store : D.State) (l : Local D) : Prop where
  confined : ∀ w ∈ l.pending, Confined get w.1 w.2
  held : ∀ r, (l.held r).isSome = true ↔ ∃ w ∈ l.pending, w.1 = r
  stands : ∀ r s, l.held r = some s → get r store = get r s

/-- Held rows stand still. -/
structure Standing {ε α ι : Type} (S : Sys D ε α ι) : Prop where
  rows : S.RowsExclusive
  holds : ∀ i, HoldsRows get S.store (S.sessions i).loc

variable {get}

namespace HoldsRows

variable {store : D.State} {l : Local D}

theorem nothing {h : List (Event D)} (hh : ∀ r, firstWrite r h = none) (x : List D.Lock) :
    HoldsRows get store ⟨h, [], x⟩ where
  confined _ hw := absurd hw List.not_mem_nil
  held r := by simp [Local.held, hh]
  stands r s hr := by simp [Local.held, hh] at hr

/-- A session sees the committed content of the rows it has not written. -/
theorem view_of_free (h : HoldsRows get store l) {r : D.Row} (hr : ∀ w ∈ l.pending, w.1 ≠ r) :
    get r (l.view store) = get r store :=
  get_foldl h.confined hr store

theorem write (h : HoldsRows get store l) {r : D.Row} {f : D.State → D.State}
    (hf : Confined get r f) : HoldsRows get store (l.write r f (l.view store)) where
  confined w hw := by
    rcases List.mem_append.mp hw with hw | hw
    · exact h.confined w hw
    · rw [List.mem_singleton.mp hw]
      exact hf
  held r' := by
    rw [Local.held_write, Local.pending_write, Option.isSome_or, Bool.or_eq_true, h.held r']
    by_cases hrr : r = r' <;> simp [hrr]
  stands r' s hr' := by
    rw [Local.held_write] at hr'
    cases hheld : l.held r' with
    | some t =>
      rw [hheld, Option.some_or] at hr'
      cases hr'
      exact h.stands r' s hheld
    | none =>
      rw [hheld, Option.none_or] at hr'
      split_ifs at hr' with hrr
      cases hr'
      refine (h.view_of_free fun w hw heq => ?_).symm
      have := (h.held r').mpr ⟨w, hw, heq⟩
      rw [hheld] at this
      cases this

theorem other (h : HoldsRows get store l) {store' : D.State}
    (hs : ∀ w ∈ l.pending, get w.1 store' = get w.1 store) : HoldsRows get store' l where
  confined := h.confined
  held := h.held
  stands r s hr := by
    obtain ⟨w, hw, rfl⟩ := (h.held r).mp (by rw [hr]; rfl)
    rw [hs w hw]
    exact h.stands _ s hr

end HoldsRows

namespace Standing

variable {ε α ι : Type} {S S' : Sys D ε α ι}

theorem init (s : D.State) (p : ι → Prog D ε α) : Standing get (.init s p) where
  rows _ _ _ hw := absurd hw List.not_mem_nil
  holds _ := .nothing (fun _ => rfl) []

variable [DecidableEq ι] {G : Guard D ε α ι}

theorem put (h : Standing get S) {i : ι} {p : Prog D ε α} {l : Local D}
    (hrows : (S.put i p l).RowsExclusive) (hl : HoldsRows get S.store l) :
    Standing get (S.put i p l) := by
  refine ⟨hrows, fun j => ?_⟩
  by_cases hj : j = i
  · subst hj
    rw [Sys.put_self]
    exact hl
  · rw [Sys.put_of_ne S hj]
    exact h.holds j

/-- **Held rows stand still at every step.** A commit changes the rows its session holds, and no
other session holds them. -/
theorem step (h : Standing get S) (hs : Step G S S')
    (hw : ∀ i r f k, (S.sessions i).prog = .write r f k → Confined get r f) :
    Standing get S' := by
  have hrows := h.rows.step hs
  cases hs with
  | read i q k hp =>
    have hi := h.holds i
    exact h.put hrows ⟨hi.confined, hi.held, hi.stands⟩
  | lock i x k hp hx =>
    have hi := h.holds i
    exact h.put hrows ⟨hi.confined, hi.held, hi.stands⟩
  | ask i k e hp =>
    have hi := h.holds i
    exact h.put hrows ⟨hi.confined, hi.held, hi.stands⟩
  | rollback i k hp => exact h.put hrows (.nothing (fun _ => rfl) [])
  | write i r f k hp hr hg => exact h.put hrows ((h.holds i).write (hw i r f k hp))
  | commit i k hp hg =>
    refine ⟨hrows, fun j => ?_⟩
    by_cases hj : j = i
    · subst hj
      rw [Sys.doCommit_self]
      exact .nothing (fun _ => rfl) []
    · rw [Sys.doCommit_of_ne S hj]
      refine (h.holds j).other fun w hmem => (h.holds i).view_of_free fun w' hmem' heq => hj ?_
      exact h.rows j i w hmem w' hmem' heq.symm

end Standing

end RowLocks

end KarsHotel
