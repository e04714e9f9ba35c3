import KarsHotel.Lib.Interleaving
import KarsHotel.Lib.Part

/-!
# Bodies lifted to another store

The statements of a store made on another one: it is read through one function, and its writes are
carried over by another.

* `Lift`, `Tx.lift`, `Prog.lift`: the lifted body and session; `Part.toLift`, `within_eq_lift`: a
  part is one such way;
* `Lift.Follows`: what a lifted session has done, beside what the session has done;
* **`Tx.Keeps.lift`**, **`Prog.Keeps.lift`**: what a body or a session keeps, the lifted one keeps.
-/

namespace KarsHotel

/-- How the statements on `D` are made on `D'`. -/
structure Lift (D D' : Db) where
  read : D'.State → D.State
  write : (D.State → D.State) → D'.State → D'.State
  query : D.Query → D'.Query
  row : D.Row → D'.Row
  lock : D.Lock → D'.Lock
  env : D'.Env → D.Env

variable {D D' : Db} {ε α : Type}

/-- A body made on another store. -/
def Tx.lift (L : Lift D D') : Tx D ε α → Tx D' ε α
  | ret a => .ret a
  | throw x => .throw x
  | read q k => .read (L.query q) fun s => Tx.lift L (k (L.read s))
  | write r f k => .write (L.row r) (L.write f) fun s => Tx.lift L (k (L.read s))
  | lock x k => .lock (L.lock x) (Tx.lift L k)

/-- A session made on another store. -/
def Prog.lift (L : Lift D D') : Prog D ε α → Prog D' ε α
  | ret a => .ret a
  | throw x => .throw x
  | read q k => .read (L.query q) fun s => Prog.lift L (k (L.read s))
  | write r f k => .write (L.row r) (L.write f) fun s => Prog.lift L (k (L.read s))
  | lock x k => .lock (L.lock x) (Prog.lift L k)
  | commit k => .commit (Prog.lift L k)
  | rollback k => .rollback (Prog.lift L k)
  | ask k => .ask fun e => Prog.lift L (k (L.env e))

/-- A part of a store. -/
def Part.toLift (P : Part D D') : Lift D D' where
  read := P.get
  write f s := P.set s (f (P.get s))
  query := P.query
  row := P.row
  lock := P.lock
  env := P.env

theorem Tx.within_eq_lift (P : Part D D') (t : Tx D ε α) : t.within P = t.lift P.toLift := by
  induction t with
  | ret a => rfl
  | throw x => rfl
  | read q k ih => exact congrArg (Tx.read _) (funext fun s => ih (P.get s))
  | write r f k ih => exact congrArg (Tx.write _ _) (funext fun s => ih (P.get s))
  | lock x k ih => exact congrArg (Tx.lock _) ih

theorem Prog.within_eq_lift (P : Part D D') (p : Prog D ε α) : p.within P = p.lift P.toLift := by
  induction p with
  | ret a => rfl
  | throw x => rfl
  | read q k ih => exact congrArg (Prog.read _) (funext fun s => ih (P.get s))
  | write r f k ih => exact congrArg (Prog.write _ _) (funext fun s => ih (P.get s))
  | lock x k ih => exact congrArg (Prog.lock _) ih
  | commit k ih => exact congrArg Prog.commit ih
  | rollback k ih => exact congrArg Prog.rollback ih
  | ask k ih => exact congrArg Prog.ask (funext fun e => ih (P.env e))

namespace Lift

variable (L : Lift D D')

/-- A write carried over. -/
def mapWrite (w : D.Row × (D.State → D.State)) : D'.Row × (D'.State → D'.State) :=
  (L.row w.1, L.write w.2)

/-- A lifted session that began at `l₀` is at `l'` where the session is at `l`. -/
inductive Follows (l₀ : Local D') : Local D → Local D' → Prop
  | start : Follows l₀ .init l₀
  | read {l : Local D} {l' : Local D'} (h : Follows l₀ l l') (q : D.Query) (s : D'.State) :
      Follows l₀ (l.read q (L.read s)) (l'.read (L.query q) s)
  | write {l : Local D} {l' : Local D'} (h : Follows l₀ l l') (r : D.Row)
      (f : D.State → D.State) (s : D'.State) :
      Follows l₀ (l.write r f (L.read s)) (l'.write (L.row r) (L.write f) s)
  | lock {l : Local D} {l' : Local D'} (h : Follows l₀ l l') (x : D.Lock) :
      Follows l₀ (l.lock x) (l'.lock (L.lock x))
  | commit {l : Local D} {l' : Local D'} (h : Follows l₀ l l') : Follows l₀ l.commit l'.commit
  | rollback {l : Local D} {l' : Local D'} (h : Follows l₀ l l') :
      Follows l₀ l.rollback l'.rollback
  | ask {l : Local D} {l' : Local D'} (h : Follows l₀ l l') (e : D'.Env) :
      Follows l₀ (l.ask (L.env e)) (l'.ask e)

namespace Follows

variable {L} {l₀ l' : Local D'} {l : Local D}

theorem pending (h : L.Follows l₀ l l') (h₀ : l₀.pending = []) :
    l'.pending = l.pending.map L.mapWrite := by
  induction h with
  | start => simp [h₀]
  | read _ q s ih => exact ih
  | write _ r f s ih => simp [Local.write, ih, mapWrite]
  | lock _ x ih => exact ih
  | commit | rollback => rfl
  | ask _ e ih => exact ih

theorem hist (h : L.Follows l₀ l l') {e : Event D'} (he : e ∈ l₀.hist) : e ∈ l'.hist := by
  induction h with
  | start => exact he
  | read _ _ _ ih | write _ _ _ _ ih | lock _ _ ih | commit _ ih | rollback _ ih | ask _ _ ih =>
    exact List.mem_cons_of_mem _ ih

theorem saw (h : L.Follows l₀ l l') (h₀ : l₀.pending = []) {q : D.Query} {s : D.State}
    (hs : l.Saw q s) : ∃ s', L.read s' = s ∧ l'.Saw (L.query q) s' := by
  induction h with
  | start => exact absurd hs Local.not_saw_init
  | @read l l' h p t ih =>
    rcases Local.saw_read hs with hs | ⟨hl, rfl, rfl⟩
    · obtain ⟨s', hs', hsaw⟩ := ih hs
      exact ⟨s', hs', hsaw.read _ _⟩
    · exact ⟨t, rfl, .here (by rw [h.pending h₀, hl, List.map_nil])⟩
  | write _ r f t ih =>
    obtain ⟨s', hs', hsaw⟩ := ih (Local.saw_write hs)
    exact ⟨s', hs', hsaw.write _ _ _⟩
  | lock _ x ih =>
    obtain ⟨s', hs', hsaw⟩ := ih (Local.saw_lock hs)
    exact ⟨s', hs', hsaw.lock _⟩
  | commit => exact absurd hs Local.not_saw_commit
  | rollback => exact absurd hs Local.not_saw_rollback
  | ask _ e ih =>
    obtain ⟨s', hs', hsaw⟩ := ih (Local.saw_ask hs)
    exact ⟨s', hs', hsaw.ask _⟩

end Follows

end Lift

/-- **What a body keeps, the lifted body keeps.** -/
theorem Tx.Keeps.lift {L : Lift D D'} {R : Rules D} {R' : Rules D'} {Q : Local D → α → Prop}
    {X : Local D → ε → Prop} {l₀ l' : Local D'} {l : Local D} {t : Tx D ε α}
    (ht : t.Keeps R Q X l) (hf : L.Follows l₀ l l')
    (hview : ∀ l l' s, L.Follows l₀ l l' → R'.view l' s → R.view l (L.read s))
    (hwrite : ∀ l l' r f s, L.Follows l₀ l l' → R'.view l' s → R.write l r f (L.read s) →
      R'.write l' (L.row r) (L.write f) s) :
    (t.lift L).Keeps R' (fun l' a => ∃ l, L.Follows l₀ l l' ∧ Q l a)
      (fun l' x => ∃ l, L.Follows l₀ l l' ∧ X l x) l' := by
  induction t generalizing l l' with
  | ret a => exact ⟨l, hf, ht⟩
  | throw x => exact ⟨l, hf, ht⟩
  | read q k ih =>
    intro s hs
    exact ih (L.read s) (ht _ (hview l l' s hf hs)) (hf.read q s)
  | write r f k ih =>
    intro s hs
    have hk := ht _ (hview l l' s hf hs)
    exact ⟨hwrite l l' r f s hf hs hk.1, ih (L.read s) hk.2 (hf.write r f s)⟩
  | lock x k ih => exact ih ht (hf.lock x)

theorem Prog.Keeps.lift {L : Lift D D'} {R : Rules D} {R' : Rules D'} {Q : Local D → α → Prop}
    {X : Local D → ε → Prop} {l₀ l' : Local D'} {l : Local D} {p : Prog D ε α}
    (hp : p.Keeps R Q X l) (hf : L.Follows l₀ l l')
    (hview : ∀ l l' s, L.Follows l₀ l l' → R'.view l' s → R.view l (L.read s))
    (hwrite : ∀ l l' r f s, L.Follows l₀ l l' → R'.view l' s → R.write l r f (L.read s) →
      R'.write l' (L.row r) (L.write f) s)
    (hcommit : ∀ l l', L.Follows l₀ l l' → R.commit l → R'.commit l')
    (hrollback : ∀ l l', L.Follows l₀ l l' → R.rollback l → R'.rollback l') :
    (p.lift L).Keeps R' (fun l' a => ∃ l, L.Follows l₀ l l' ∧ Q l a)
      (fun l' x => ∃ l, L.Follows l₀ l l' ∧ X l x) l' := by
  induction p generalizing l l' with
  | ret a => exact ⟨l, hf, hp⟩
  | throw x => exact ⟨l, hf, hp⟩
  | read q k ih =>
    intro s hs
    exact ih (L.read s) (hp _ (hview l l' s hf hs)) (hf.read q s)
  | write r f k ih =>
    intro s hs
    have hk := hp _ (hview l l' s hf hs)
    exact ⟨hwrite l l' r f s hf hs hk.1, ih (L.read s) hk.2 (hf.write r f s)⟩
  | lock x k ih => exact ih hp (hf.lock x)
  | commit k ih => exact ⟨hcommit l l' hf hp.1, ih hp.2 hf.commit⟩
  | rollback k ih => exact ⟨hrollback l l' hf hp.1, ih hp.2 hf.rollback⟩
  | ask k ih => exact fun e => ih (L.env e) (hp _) (hf.ask e)

end KarsHotel
