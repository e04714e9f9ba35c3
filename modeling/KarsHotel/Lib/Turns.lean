import KarsHotel.Lib.Interleaving
import KarsHotel.Lib.Part

/-!
# Sessions that take turns

Sessions over one store whose transactions run one at a time: a **turn** is one transaction, or one
answer of the environment, and between two turns of a session the others may take any number.

* `Prog.turn`, `Turns.play`: a turn, and a schedule of them;
* `Prog.Guarantees`: every turn of a session keeps a promise (`guar`), as long as the others only
  do what it relies on (`rely`); rules for `bind` and `transact`;
* **`Turns.AllEnd.turn`**, **`Turns.AllEnd.play`**: where each promise is within the common rely,
  every turn of every schedule keeps its promise, and every session ends as it says.
-/

namespace KarsHotel

namespace Prog

variable {D : Db} {ε α β : Type}

/-- A session up to the end of its transaction, or up to an answer of the environment: what is left
of it and the committed state. `c` is the committed state, `v` what the transaction sees. -/
def turn (e : D.Env) : Prog D ε α → D.State → D.State → Prog D ε α × D.State
  | ret a, c, _ => (ret a, c)
  | throw x, c, _ => (throw x, c)
  | read _ k, c, v => turn e (k v) c v
  | write _ f k, c, v => turn e (k v) c (f v)
  | lock _ k, c, v => turn e k c v
  | commit k, _, v => (k, v)
  | rollback k, c, _ => (k, c)
  | ask k, c, _ => (k e, c)

/-- Every commit of the session keeps `guar`, and it ends in `Q` with a result or in `X` with an
exception, as long as the other sessions keep `rely` between its turns. -/
def Guarantees (rely guar : D.State → D.State → Prop) (Q : α → D.State → D.State → Prop)
    (X : ε → D.State → D.State → Prop) : Prog D ε α → D.State → D.State → Prop
  | ret a, c, v => Q a c v
  | throw x, c, v => X x c v
  | read _ k, c, v => Guarantees rely guar Q X (k v) c v
  | write _ f k, c, v => Guarantees rely guar Q X (k v) c (f v)
  | lock _ k, c, v => Guarantees rely guar Q X k c v
  | commit k, c, v => guar c v ∧ ∀ c', rely v c' → Guarantees rely guar Q X k c' c'
  | rollback k, c, _ => ∀ c', rely c c' → Guarantees rely guar Q X k c' c'
  | ask k, c, _ => ∀ e c', rely c c' → Guarantees rely guar Q X (k e) c' c'

section Rules

variable {rely guar : D.State → D.State → Prop} {Q : α → D.State → D.State → Prop}
  {X : ε → D.State → D.State → Prop} {c v : D.State}

theorem guarantees_bind {Q : β → D.State → D.State → Prop} {p : Prog D ε α}
    {g : α → Prog D ε β} : (p >>= g).Guarantees rely guar Q X c v ↔
      p.Guarantees rely guar (fun a c v => (g a).Guarantees rely guar Q X c v) X c v := by
  induction p generalizing c v with
  | ret a => exact Iff.rfl
  | throw x => exact Iff.rfl
  | read q k ih => exact ih v
  | write r f k ih => exact ih v
  | lock x k ih => exact ih
  | commit k ih => exact and_congr_right fun _ => forall₂_congr fun c' _ => ih
  | rollback k ih => exact forall₂_congr fun c' _ => ih
  | ask k ih => exact forall_congr' fun e => forall₂_congr fun c' _ => ih e

theorem Guarantees.mono {Q' : α → D.State → D.State → Prop} {X' : ε → D.State → D.State → Prop}
    {p : Prog D ε α} (h : p.Guarantees rely guar Q X c v)
    (hQ : ∀ a c v, Q a c v → Q' a c v) (hX : ∀ x c v, X x c v → X' x c v) :
    p.Guarantees rely guar Q' X' c v := by
  induction p generalizing c v with
  | ret a => exact hQ _ _ _ h
  | throw x => exact hX _ _ _ h
  | read q k ih => exact ih v h
  | write r f k ih => exact ih v h
  | lock x k ih => exact ih h
  | commit k ih => exact ⟨h.1, fun c' hc => ih (h.2 c' hc)⟩
  | rollback k ih => exact fun c' hc => ih (h c' hc)
  | ask k ih => exact fun e c' hc => ih e (h e c' hc)

/-- **The rule for a transaction.** -/
theorem guarantees_transact {t : Tx D ε α} : t.transact.Guarantees rely guar Q X c v ↔
    match t.exec v with
      | .ok (a, s) => guar c s ∧ ∀ c', rely s c' → Q a c' c'
      | .error x => ∀ c', rely c c' → X x c' c' := by
  induction t generalizing v with
  | ret a => exact Iff.rfl
  | throw x => exact Iff.rfl
  | read q k ih => exact ih v
  | write r f k ih => exact ih v
  | lock x k ih => exact ih

/-- One turn keeps the promise and leaves a session that keeps it, if the other sessions do not undo
its result. -/
theorem Guarantees.turn {p : Prog D ε α} (h : p.Guarantees rely guar Q X c v)
    (hQ : ∀ a c v c', Q a c v → rely c c' → Q a c' c')
    (hX : ∀ x c v c', X x c v → rely c c' → X x c' c') (hrefl : ∀ c, guar c c) (e : D.Env) :
    guar c (p.turn e c v).2 ∧
      ∀ c', rely (p.turn e c v).2 c' → (p.turn e c v).1.Guarantees rely guar Q X c' c' := by
  induction p generalizing v with
  | ret a => exact ⟨hrefl c, fun c' hc => hQ a c v c' h hc⟩
  | throw x => exact ⟨hrefl c, fun c' hc => hX x c v c' h hc⟩
  | read q k ih => exact ih v h
  | write r f k ih => exact ih v h
  | lock x k ih => exact ih h
  | commit k ih => exact h
  | rollback k ih => exact ⟨hrefl c, h⟩
  | ask k ih => exact ⟨hrefl c, h e⟩

end Rules

end Prog

/-! ## Schedules -/

/-- The committed store, and what is left of the sessions. -/
structure Turns (D : Db) (ε α ι : Type) where
  store : D.State
  sessions : ι → Prog D ε α

namespace Turns

variable {D : Db} {ε α ι : Type} [DecidableEq ι]

/-- Session `i` takes a turn. -/
def turn (S : Turns D ε α ι) (i : ι) (e : D.Env) : Turns D ε α ι where
  store := ((S.sessions i).turn e S.store S.store).2
  sessions := Function.update S.sessions i ((S.sessions i).turn e S.store S.store).1

theorem turn_self (S : Turns D ε α ι) (i : ι) (e : D.Env) :
    (S.turn i e).sessions i = ((S.sessions i).turn e S.store S.store).1 :=
  Function.update_self i _ _

theorem turn_of_ne (S : Turns D ε α ι) {i j : ι} (h : j ≠ i) (e : D.Env) :
    (S.turn i e).sessions j = S.sessions j := Function.update_of_ne h _ _

/-- The turns of a schedule, each with what the environment would answer. -/
def play (S : Turns D ε α ι) (turns : List (ι × D.Env)) : Turns D ε α ι :=
  turns.foldl (fun S t => S.turn t.1 t.2) S

theorem play_of_not_mem {S : Turns D ε α ι} {turns : List (ι × D.Env)} {i : ι}
    (h : ∀ t ∈ turns, t.1 ≠ i) : (S.play turns).sessions i = S.sessions i := by
  induction turns generalizing S with
  | nil => rfl
  | cons t turns ih =>
    have hrest : ((S.turn t.1 t.2).play turns).sessions i = (S.turn t.1 t.2).sessions i :=
      ih fun t' ht' => h t' (List.mem_cons_of_mem _ ht')
    show ((S.turn t.1 t.2).play turns).sessions i = _
    rw [hrest, turn_of_ne S (h t List.mem_cons_self).symm]

/-- The promises of the sessions, each within what all of them rely on. -/
structure Agreement (rely : D.State → D.State → Prop) (guar : ι → D.State → D.State → Prop) :
    Prop where
  idle : ∀ i c, guar i c c
  refl : ∀ c, rely c c
  trans : ∀ {a b c}, rely a b → rely b c → rely a c
  within : ∀ i c c', guar i c c' → rely c c'

variable {rely : D.State → D.State → Prop} {guar : ι → D.State → D.State → Prop}

/-- Every session keeps its promise from here on, and ends in `Q` with a result. -/
def AllEnd (rely : D.State → D.State → Prop) (guar : ι → D.State → D.State → Prop)
    (Q : ι → α → D.State → Prop) (S : Turns D ε α ι) : Prop :=
  ∀ i c, rely S.store c →
    (S.sessions i).Guarantees rely (guar i) (fun a c _ => Q i a c) (fun _ _ _ => True) c c

section End

variable {Q : ι → α → D.State → Prop} {S : Turns D ε α ι}

theorem AllEnd.turn (ha : Agreement rely guar)
    (hQ : ∀ i a c c', Q i a c → rely c c' → Q i a c') (h : AllEnd rely guar Q S) (i : ι)
    (e : D.Env) : guar i S.store (S.turn i e).store ∧ AllEnd rely guar Q (S.turn i e) := by
  have hturn := (h i S.store (ha.refl _)).turn (fun a c _ c' hq hc => hQ i a c c' hq hc)
    (fun _ _ _ _ _ _ => trivial) (ha.idle i) e
  refine ⟨hturn.1, fun j c hc => ?_⟩
  by_cases hj : j = i
  · rw [hj, turn_self]
    exact hturn.2 c hc
  · rw [turn_of_ne S hj]
    exact h j c (ha.trans (ha.within i _ _ hturn.1) hc)

/-- Whatever the schedule, the sessions keep their promises and the store moves within the rely. -/
theorem AllEnd.play (ha : Agreement rely guar) (hQ : ∀ i a c c', Q i a c → rely c c' → Q i a c')
    (h : AllEnd rely guar Q S) (turns : List (ι × D.Env)) :
    rely S.store (S.play turns).store ∧ AllEnd rely guar Q (S.play turns) := by
  induction turns generalizing S with
  | nil => exact ⟨ha.refl _, h⟩
  | cons t turns ih =>
    have hturn := h.turn ha hQ t.1 t.2
    have hplay := ih hturn.2
    exact ⟨ha.trans (ha.within _ _ _ hturn.1) hplay.1, hplay.2⟩

omit [DecidableEq ι] in
theorem AllEnd.answer (ha : Agreement rely guar) (h : AllEnd rely guar Q S) {i : ι} {a : α}
    (hi : S.sessions i = .ret a) : Q i a S.store := by
  have hend := h i S.store (ha.refl _)
  rwa [hi] at hend

end End

end Turns

end KarsHotel
