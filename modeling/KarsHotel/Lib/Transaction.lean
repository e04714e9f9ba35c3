import Mathlib.Logic.Function.Basic
import Mathlib.Tactic.Common

/-!
# Transactions over a READ COMMITTED store

A **transaction body** `Tx D ε α` is a tree of statements: a `read` names its query, sees the whole
visible state and goes on with it, a `write` names the row it locks and the change it makes, `lock`
takes an advisory lock. A **session** `Prog D ε α` is a sequence of transactions: it has `commit`
and `rollback` besides, and `ask`, an answer of the environment outside the store.

* `Tx.exec`: a body run alone; `exec_bind`: runs compose;
* `Tx.transact`: the body as a session that commits its result and rolls back on an exception;
* `Prog.eval`: a session run alone; `eval_bind`, `eval_handle`: its rules, and `eval_transact`: a
  transaction run alone is `Tx.exec`;
* `Prog.Alone`: what a session run alone ends in, with its rules.
-/

namespace KarsHotel

/-- What a store is made of: its states, the names of its queries and of its rows, its advisory
locks and the answers of the environment. -/
structure Db where
  State : Type
  Query : Type
  Row : Type
  Lock : Type
  Env : Type

/-- The body of one transaction. -/
inductive Tx (D : Db) (ε α : Type) : Type where
  | ret (a : α)
  | throw (x : ε)
  | read (q : D.Query) (k : D.State → Tx D ε α)
  | write (r : D.Row) (f : D.State → D.State) (k : D.State → Tx D ε α)
  | lock (x : D.Lock) (k : Tx D ε α)

namespace Tx

variable {D : Db} {ε α β : Type}

/-- Go on with the result of a body. -/
def bind : Tx D ε α → (α → Tx D ε β) → Tx D ε β
  | ret a, g => g a
  | throw x, _ => throw x
  | read q k, g => read q fun s => bind (k s) g
  | write r f k, g => write r f fun s => bind (k s) g
  | lock x k, g => lock x (bind k g)

instance : Monad (Tx D ε) where
  pure := ret
  bind := bind

@[simp] theorem pure_eq (a : α) : (pure a : Tx D ε α) = ret a := rfl
@[simp] theorem ret_bind (a : α) (g : α → Tx D ε β) : (ret a >>= g) = g a := rfl
@[simp] theorem throw_bind (x : ε) (g : α → Tx D ε β) : (throw x >>= g) = throw x := rfl
@[simp] theorem read_bind (q : D.Query) (k : D.State → Tx D ε α) (g : α → Tx D ε β) :
    (read q k >>= g) = read q fun s => k s >>= g := rfl
@[simp] theorem write_bind (r : D.Row) (f : D.State → D.State) (k : D.State → Tx D ε α)
    (g : α → Tx D ε β) : (write r f k >>= g) = write r f fun s => k s >>= g := rfl
@[simp] theorem lock_bind (x : D.Lock) (k : Tx D ε α) (g : α → Tx D ε β) :
    (lock x k >>= g) = lock x (k >>= g) := rfl

/-- The body run alone on a state: its result and the state it leaves, or its exception. -/
def exec : Tx D ε α → D.State → Except ε (α × D.State)
  | ret a, s => .ok (a, s)
  | throw x, _ => .error x
  | read _ k, s => exec (k s) s
  | write _ f k, s => exec (k s) (f s)
  | lock _ k, s => exec k s

@[simp] theorem exec_ret (a : α) (s : D.State) : (ret a : Tx D ε α).exec s = .ok (a, s) := rfl
@[simp] theorem exec_throw (x : ε) (s : D.State) : (throw x : Tx D ε α).exec s = .error x := rfl
@[simp] theorem exec_read (q : D.Query) (k : D.State → Tx D ε α) (s : D.State) :
    (read q k).exec s = (k s).exec s := rfl
@[simp] theorem exec_write (r : D.Row) (f : D.State → D.State) (k : D.State → Tx D ε α)
    (s : D.State) : (write r f k).exec s = (k s).exec (f s) := rfl
@[simp] theorem exec_lock (x : D.Lock) (k : Tx D ε α) (s : D.State) :
    (lock x k).exec s = k.exec s := rfl

/-- **Runs compose.** -/
theorem exec_bind (t : Tx D ε α) (g : α → Tx D ε β) (s : D.State) :
    (t >>= g).exec s = match t.exec s with
      | .ok (a, s') => (g a).exec s'
      | .error x => .error x := by
  induction t generalizing s with
  | ret a => rfl
  | throw x => rfl
  | read q k ih => exact ih s s
  | write r f k ih => exact ih s (f s)
  | lock x k ih => exact ih s

theorem exec_bind_ok {t : Tx D ε α} {g : α → Tx D ε β} {s s' : D.State} {b : β}
    (h : (t >>= g).exec s = .ok (b, s')) :
    ∃ a s₁, t.exec s = .ok (a, s₁) ∧ (g a).exec s₁ = .ok (b, s') := by
  rw [exec_bind] at h
  cases ht : t.exec s with
  | error x => rw [ht] at h; cases h
  | ok p => rw [ht] at h; exact ⟨p.1, p.2, rfl, h⟩

end Tx

/-- A session: transactions one after the other, with answers of the environment in between. -/
inductive Prog (D : Db) (ε α : Type) : Type where
  | ret (a : α)
  | throw (x : ε)
  | read (q : D.Query) (k : D.State → Prog D ε α)
  | write (r : D.Row) (f : D.State → D.State) (k : D.State → Prog D ε α)
  | lock (x : D.Lock) (k : Prog D ε α)
  | commit (k : Prog D ε α)
  | rollback (k : Prog D ε α)
  | ask (k : D.Env → Prog D ε α)

namespace Prog

variable {D : Db} {ε α β : Type}

/-- Go on with the result of a session. -/
def bind : Prog D ε α → (α → Prog D ε β) → Prog D ε β
  | ret a, g => g a
  | throw x, _ => throw x
  | read q k, g => read q fun s => bind (k s) g
  | write r f k, g => write r f fun s => bind (k s) g
  | lock x k, g => lock x (bind k g)
  | commit k, g => commit (bind k g)
  | rollback k, g => rollback (bind k g)
  | ask k, g => ask fun e => bind (k e) g

instance : Monad (Prog D ε) where
  pure := ret
  bind := bind

/-- `try … catch`: go on with the handler after an exception. -/
def handle {ε' : Type} : Prog D ε α → (ε → Prog D ε' α) → Prog D ε' α
  | ret a, _ => ret a
  | throw x, h => h x
  | read q k, h => read q fun s => handle (k s) h
  | write r f k, h => write r f fun s => handle (k s) h
  | lock x k, h => lock x (handle k h)
  | commit k, h => commit (handle k h)
  | rollback k, h => rollback (handle k h)
  | ask k, h => ask fun e => handle (k e) h

/-- The same session under exceptions of another type. -/
def mapError {ε' : Type} (p : Prog D ε α) (f : ε → ε') : Prog D ε' α := p.handle fun x => throw (f x)

/-- Run alone, with `env` as the answer of the environment: `c` is the committed state and `v` the
state the open transaction sees. -/
def run (env : D.Env) : Prog D ε α → D.State → D.State → Except ε α × D.State
  | ret a, c, _ => (.ok a, c)
  | throw x, c, _ => (.error x, c)
  | read _ k, c, v => run env (k v) c v
  | write _ f k, c, v => run env (k v) c (f v)
  | lock _ k, c, v => run env k c v
  | commit k, _, v => run env k v v
  | rollback k, c, _ => run env k c c
  | ask k, c, v => run env (k env) c v

@[simp] theorem pure_eq (a : α) : (pure a : Prog D ε α) = ret a := rfl
@[simp] theorem ret_bind (a : α) (g : α → Prog D ε β) : (ret a >>= g) = g a := rfl
@[simp] theorem throw_bind (x : ε) (g : α → Prog D ε β) : (throw x >>= g) = throw x := rfl
@[simp] theorem commit_bind (k : Prog D ε α) (g : α → Prog D ε β) :
    (commit k >>= g) = commit (k >>= g) := rfl
@[simp] theorem rollback_bind (k : Prog D ε α) (g : α → Prog D ε β) :
    (rollback k >>= g) = rollback (k >>= g) := rfl
@[simp] theorem ask_bind (k : D.Env → Prog D ε α) (g : α → Prog D ε β) :
    (ask k >>= g) = ask fun e => k e >>= g := rfl

theorem bind_assoc {γ : Type} (p : Prog D ε α) (f : α → Prog D ε β) (g : β → Prog D ε γ) :
    (p >>= f) >>= g = p >>= fun a => f a >>= g := by
  induction p with
  | ret a => rfl
  | throw x => rfl
  | read q k ih => exact congrArg (Prog.read q) (funext ih)
  | write r f k ih => exact congrArg (Prog.write r f) (funext ih)
  | lock x k ih => exact congrArg (Prog.lock x) ih
  | commit k ih => exact congrArg Prog.commit ih
  | rollback k ih => exact congrArg Prog.rollback ih
  | ask k ih => exact congrArg Prog.ask (funext ih)

end Prog

namespace Tx

variable {D : Db} {ε α β : Type}

/-- The body as a transaction of its own: commit its result, roll back on an exception. -/
def transact : Tx D ε α → Prog D ε α
  | ret a => .commit (.ret a)
  | throw x => .rollback (.throw x)
  | read q k => .read q fun s => transact (k s)
  | write r f k => .write r f fun s => transact (k s)
  | lock x k => .lock x (transact k)

end Tx

/-! ## Sessions run alone -/

namespace Prog

variable {D : Db} {ε α β : Type} (env : D.Env)

/-- Run alone: the result, the committed state, and what the open transaction sees. -/
def eval : Prog D ε α → D.State → D.State → Except ε α × D.State × D.State
  | ret a, c, v => (.ok a, c, v)
  | throw x, c, v => (.error x, c, v)
  | read _ k, c, v => eval (k v) c v
  | write _ f k, c, v => eval (k v) c (f v)
  | lock _ k, c, v => eval k c v
  | commit k, _, v => eval k v v
  | rollback k, c, _ => eval k c c
  | ask k, c, v => eval (k env) c v

theorem run_eq_eval (p : Prog D ε α) (c v : D.State) :
    p.run env c v = ((p.eval env c v).1, (p.eval env c v).2.1) := by
  induction p generalizing c v with
  | ret a => rfl
  | throw x => rfl
  | read q k ih => exact ih v c v
  | write r f k ih => exact ih v c (f v)
  | lock x k ih => exact ih c v
  | commit k ih => exact ih v v
  | rollback k ih => exact ih c c
  | ask k ih => exact ih env c v

/-- **Sessions compose.** -/
theorem eval_bind (p : Prog D ε α) (g : α → Prog D ε β) (c v : D.State) :
    (p >>= g).eval env c v = match p.eval env c v with
      | (.ok a, c', v') => (g a).eval env c' v'
      | (.error x, c', v') => (.error x, c', v') := by
  induction p generalizing c v with
  | ret a => rfl
  | throw x => rfl
  | read q k ih => exact ih v c v
  | write r f k ih => exact ih v c (f v)
  | lock x k ih => exact ih c v
  | commit k ih => exact ih v v
  | rollback k ih => exact ih c c
  | ask k ih => exact ih env c v

/-- **A handler goes on where the exception was thrown.** -/
theorem eval_handle {ε' : Type} (p : Prog D ε α) (h : ε → Prog D ε' α) (c v : D.State) :
    (p.handle h).eval env c v = match p.eval env c v with
      | (.ok a, c', v') => (.ok a, c', v')
      | (.error x, c', v') => (h x).eval env c' v' := by
  induction p generalizing c v with
  | ret a => rfl
  | throw x => rfl
  | read q k ih => exact ih v c v
  | write r f k ih => exact ih v c (f v)
  | lock x k ih => exact ih c v
  | commit k ih => exact ih v v
  | rollback k ih => exact ih c c
  | ask k ih => exact ih env c v

/-- **A transaction is its body, all or nothing.** -/
theorem eval_transact (t : Tx D ε α) (c v : D.State) :
    t.transact.eval env c v = match t.exec v with
      | .ok (a, s) => (.ok a, s, s)
      | .error x => (.error x, c, c) := by
  induction t generalizing v with
  | ret a => rfl
  | throw x => rfl
  | read q k ih => exact ih v v
  | write r f k ih => exact ih v (f v)
  | lock x k ih => exact ih v

/-! ### What a session run alone does -/

section Alone

variable {Q : α → D.State → D.State → Prop} {X : ε → D.State → D.State → Prop} {c v : D.State}

/-- Run alone, the session ends in `Q` with a result or in `X` with an exception. -/
def Alone (Q : α → D.State → D.State → Prop) (X : ε → D.State → D.State → Prop) (p : Prog D ε α)
    (c v : D.State) : Prop :=
  match p.eval env c v with
  | (.ok a, c', v') => Q a c' v'
  | (.error x, c', v') => X x c' v'

theorem alone_ask {k : D.Env → Prog D ε α} :
    (ask k).Alone env Q X c v ↔ (k env).Alone env Q X c v := Iff.rfl

theorem alone_bind {Q : β → D.State → D.State → Prop} {p : Prog D ε α} {g : α → Prog D ε β} :
    (p >>= g).Alone env Q X c v ↔
      p.Alone env (fun a c v => (g a).Alone env Q X c v) X c v := by
  unfold Alone
  rw [eval_bind]
  cases p.eval env c v with
  | mk r s => cases r <;> exact Iff.rfl

theorem alone_transact {t : Tx D ε α} : t.transact.Alone env Q X c v ↔
    match t.exec v with
      | .ok (a, s) => Q a s s
      | .error x => X x c c := by
  unfold Alone
  rw [eval_transact]
  cases t.exec v <;> exact Iff.rfl

theorem Alone.mono {Q' : α → D.State → D.State → Prop} {X' : ε → D.State → D.State → Prop}
    {p : Prog D ε α} (h : p.Alone env Q X c v) (hQ : ∀ a c v, Q a c v → Q' a c v)
    (hX : ∀ x c v, X x c v → X' x c v) : p.Alone env Q' X' c v := by
  unfold Alone at h ⊢
  cases hp : p.eval env c v with
  | mk r s =>
    rw [hp] at h
    cases r with
    | ok a => exact hQ _ _ _ h
    | error x => exact hX _ _ _ h

end Alone

end Prog

end KarsHotel
