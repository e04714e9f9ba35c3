import KarsHotel.Lib.Transaction

/-!
# A store inside a larger one

* `Part D D'`: the state of `D` is a component of the state of `D'`, and its statements are
  statements of `D'`;
* `Tx.within`, `Prog.within`: a body and a session on the component as ones on the whole;
* **`exec_within`**: run alone, the body changes the component and nothing else;
* `transact_within`: a transaction on the component is one on the whole.
-/

namespace KarsHotel

/-- A store that is a part of a larger one: how to read and how to replace it, and the larger
store's names for its statements. -/
structure Part (D D' : Db) where
  get : D'.State → D.State
  set : D'.State → D.State → D'.State
  query : D.Query → D'.Query
  row : D.Row → D'.Row
  lock : D.Lock → D'.Lock
  env : D'.Env → D.Env
  get_set : ∀ s h, get (set s h) = h
  set_get : ∀ s, set s (get s) = s
  set_set : ∀ s h h', set (set s h) h' = set s h'

namespace Tx

variable {D D' : Db} {ε α : Type} (P : Part D D')

/-- A body on the part as a body on the whole. -/
def within : Tx D ε α → Tx D' ε α
  | ret a => .ret a
  | throw x => .throw x
  | read q k => .read (P.query q) fun s => within (k (P.get s))
  | write r f k => .write (P.row r) (fun s => P.set s (f (P.get s))) fun s => within (k (P.get s))
  | lock x k => .lock (P.lock x) (within k)

/-- **Run alone, it changes the part and nothing else.** -/
theorem exec_within (t : Tx D ε α) (s : D'.State) :
    (t.within P).exec s = (t.exec (P.get s)).map fun r => (r.1, P.set s r.2) := by
  induction t generalizing s with
  | ret a => exact congrArg (fun s' => Except.ok (a, s')) (P.set_get s).symm
  | throw x => rfl
  | read q k ih => exact ih (P.get s) s
  | write r f k ih =>
    show ((k (P.get s)).within P).exec (P.set s (f (P.get s))) = _
    rw [ih, P.get_set]
    simp only [P.set_set]
    rfl
  | lock x k ih => exact ih s

end Tx

namespace Prog

variable {D D' : Db} {ε α : Type} (P : Part D D')

/-- A session on the part as a session on the whole: the rest stays as it is. -/
def within : Prog D ε α → Prog D' ε α
  | ret a => .ret a
  | throw x => .throw x
  | read q k => .read (P.query q) fun s => within (k (P.get s))
  | write r f k => .write (P.row r) (fun s => P.set s (f (P.get s))) fun s => within (k (P.get s))
  | lock x k => .lock (P.lock x) (within k)
  | commit k => .commit (within k)
  | rollback k => .rollback (within k)
  | ask k => .ask fun e => within (k (P.env e))

theorem transact_within (t : Tx D ε α) : t.transact.within P = (t.within P).transact := by
  induction t with
  | ret a => rfl
  | throw x => rfl
  | read q k ih => exact congrArg (Prog.read _) (funext fun s => ih (P.get s))
  | write r f k ih => exact congrArg (Prog.write _ _) (funext fun s => ih (P.get s))
  | lock x k ih => exact congrArg (Prog.lock _) ih

end Prog

end KarsHotel
