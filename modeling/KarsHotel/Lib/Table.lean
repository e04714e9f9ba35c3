import Mathlib.Data.List.Nodup
import Mathlib.Data.List.Perm.Basic

/-!
# Tables with a primary key

A `Table key` is a finite list of rows whose keys are pairwise different, so a row is determined
by its key. The operations are those a keyed store offers:

* `find`: the row of a key; `select`: the rows satisfying a test;
* `modify`: rewrite the row of a key by a function that keeps keys;
* `insert`: add a row whose key is new (a taken key leaves the table as it was);
* `remove`: delete the rows satisfying a test; `fresh`: a number that is no row's key.

`mem_modify`, `mem_insert`, `find_modify_*`, `find_insert_*` and `select_*` say what each operation
leaves in the table.
-/

namespace KarsHotel

/-- A list of rows with pairwise different keys. -/
@[ext] structure Table {ρ κ : Type} (key : ρ → κ) where
  rows : List ρ
  nodup : (rows.map key).Nodup

namespace Table

variable {ρ κ : Type} {key : ρ → κ}

instance : Membership ρ (Table key) := ⟨fun t r => r ∈ t.rows⟩

theorem mem_def {t : Table key} {r : ρ} : r ∈ t ↔ r ∈ t.rows := Iff.rfl

/-- The table without rows. -/
def empty : Table key := ⟨[], List.nodup_nil⟩

@[simp] theorem not_mem_empty (r : ρ) : r ∉ (empty : Table key) := List.not_mem_nil

/-- **A row is determined by its key.** -/
theorem eq_of_key {t : Table key} {r r' : ρ} (hr : r ∈ t) (hr' : r' ∈ t) (h : key r = key r') :
    r = r' := List.inj_on_of_nodup_map t.nodup hr hr' h

/-- The rows satisfying `p`, in table order. -/
def select (t : Table key) (p : ρ → Bool) : List ρ := t.rows.filter p

@[simp] theorem mem_select {t : Table key} {p : ρ → Bool} {r : ρ} :
    r ∈ t.select p ↔ r ∈ t ∧ p r = true := List.mem_filter

variable [DecidableEq κ]

/-- The row of key `k`. -/
def find (t : Table key) (k : κ) : Option ρ := t.rows.find? fun r => key r = k

theorem find_eq_some {t : Table key} {k : κ} {r : ρ} : t.find k = some r ↔ r ∈ t ∧ key r = k := by
  constructor
  · intro h
    exact ⟨List.mem_of_find?_eq_some h, by simpa using List.find?_some h⟩
  · rintro ⟨hr, hk⟩
    cases h : t.find k with
    | none =>
      have := List.find?_eq_none.mp h r hr
      exact absurd hk (by simpa using this)
    | some r' =>
      have hr' : r' ∈ t := List.mem_of_find?_eq_some h
      have hk' : key r' = k := by simpa using List.find?_some h
      rw [eq_of_key hr hr' (hk.trans hk'.symm)]

theorem find_eq_none {t : Table key} {k : κ} : t.find k = none ↔ ∀ r ∈ t, key r ≠ k := by
  simp only [find, List.find?_eq_none, decide_eq_true_eq]
  exact Iff.rfl

theorem find_key {t : Table key} {r : ρ} (hr : r ∈ t) : t.find (key r) = some r :=
  find_eq_some.mpr ⟨hr, rfl⟩

theorem mem_iff_find {t : Table key} {r : ρ} : r ∈ t ↔ t.find (key r) = some r :=
  ⟨find_key, fun h => (find_eq_some.mp h).1⟩

theorem find_perm {t t' : Table key} (h : t.rows.Perm t'.rows) (k : κ) : t.find k = t'.find k := by
  cases hf : t'.find k with
  | none => exact find_eq_none.mpr fun r hr => find_eq_none.mp hf r (h.mem_iff.mp hr)
  | some r =>
    obtain ⟨hr, hk⟩ := find_eq_some.mp hf
    exact find_eq_some.mpr ⟨h.mem_iff.mpr hr, hk⟩

/-- A key has one row, also in a part of the table read from the back. -/
theorem find_reverse_select (t : Table key) {p : ρ → Bool} {k : κ}
    (hp : ∀ r ∈ t, key r = k → p r = true) :
    (t.select p).reverse.find? (fun r => decide (key r = k)) = t.find k := by
  cases h : t.find k with
  | none =>
    rw [List.find?_eq_none]
    intro r hr
    have hmem : r ∈ t := (mem_select.mp (List.mem_reverse.mp hr)).1
    simpa using find_eq_none.mp h r hmem
  | some r =>
    obtain ⟨hr, hk⟩ := find_eq_some.mp h
    cases hf : (t.select p).reverse.find? fun r => decide (key r = k) with
    | none =>
      have hsel : r ∈ (t.select p).reverse :=
        List.mem_reverse.mpr (mem_select.mpr ⟨hr, hp r hr hk⟩)
      exact absurd hk (by simpa using List.find?_eq_none.mp hf r hsel)
    | some r' =>
      have hr' : r' ∈ t :=
        (mem_select.mp (List.mem_reverse.mp (List.mem_of_find?_eq_some hf))).1
      have hk' : key r' = k := by simpa using List.find?_some hf
      rw [eq_of_key hr' hr (hk'.trans hk.symm)]

/-! ### Rewriting a row -/

/-- Rewrite the row of key `k` by `f`, which keeps keys. -/
def modify (t : Table key) (k : κ) (f : ρ → ρ) (hf : ∀ r, key (f r) = key r := by intro; rfl) :
    Table key where
  rows := t.rows.map fun r => if key r = k then f r else r
  nodup := by
    have : (t.rows.map fun r => if key r = k then f r else r).map key = t.rows.map key := by
      rw [List.map_map]
      refine List.map_congr_left fun r _ => ?_
      simp only [Function.comp_apply]
      split_ifs
      · exact hf r
      · rfl
    rw [this]
    exact t.nodup

section Modify

variable {t : Table key} {k : κ} {f : ρ → ρ} {hf : ∀ r, key (f r) = key r}

theorem mem_modify {r : ρ} : r ∈ t.modify k f hf ↔
    (r ∈ t ∧ key r ≠ k) ∨ ∃ r₀ ∈ t, key r₀ = k ∧ r = f r₀ := by
  simp only [mem_def, modify, List.mem_map]
  constructor
  · rintro ⟨r₀, h₀, rfl⟩
    split_ifs with hk
    · exact Or.inr ⟨r₀, h₀, hk, rfl⟩
    · exact Or.inl ⟨h₀, hk⟩
  · rintro (⟨hr, hk⟩ | ⟨r₀, h₀, hk, rfl⟩)
    · exact ⟨r, hr, by rw [if_neg hk]⟩
    · exact ⟨r₀, h₀, by rw [if_pos hk]⟩

/-- What holds of every row, and of a row that is rewritten, holds after it. -/
theorem forall_mem_modify {P : ρ → Prop} (h : ∀ r ∈ t, P r) (hk : ∀ r ∈ t, key r = k → P (f r))
    (hf : ∀ r, key (f r) = key r := by intro; rfl) : ∀ r ∈ t.modify k f hf, P r := by
  intro r hr
  rcases mem_modify.mp hr with ⟨hold, _⟩ | ⟨r₀, hr₀, hkey, rfl⟩
  · exact h r hold
  · exact hk r₀ hr₀ hkey

theorem find_modify_self : (t.modify k f hf).find k = (t.find k).map f := by
  cases h : t.find k with
  | none =>
    rw [Option.map_none, find_eq_none]
    intro r hr hk
    rcases mem_modify.mp hr with ⟨_, hne⟩ | ⟨r₀, h₀, hk₀, _⟩
    · exact hne hk
    · exact find_eq_none.mp h r₀ h₀ hk₀
  | some r₀ =>
    obtain ⟨h₀, hk₀⟩ := find_eq_some.mp h
    rw [Option.map_some, find_eq_some]
    exact ⟨mem_modify.mpr (Or.inr ⟨r₀, h₀, hk₀, rfl⟩), by rw [hf, hk₀]⟩

theorem find_modify_of_ne {k' : κ} (hne : k' ≠ k) : (t.modify k f hf).find k' = t.find k' := by
  cases h : t.find k' with
  | none =>
    rw [find_eq_none]
    intro r hr hk
    rcases mem_modify.mp hr with ⟨hr', _⟩ | ⟨r₀, _, hk₀, rfl⟩
    · exact find_eq_none.mp h r hr' hk
    · exact hne (by rw [← hk, hf, hk₀])
  | some r₀ =>
    obtain ⟨h₀, hk₀⟩ := find_eq_some.mp h
    exact find_eq_some.mpr ⟨mem_modify.mpr (Or.inl ⟨h₀, by rw [hk₀]; exact hne⟩), hk₀⟩

/-- Two ways to rewrite the row of a key that agree on it. -/
theorem modify_congr {g : ρ → ρ} {hg : ∀ r, key (g r) = key r}
    (h : ∀ r ∈ t, key r = k → f r = g r) : t.modify k f hf = t.modify k g hg := by
  ext1
  refine List.map_congr_left fun r hr => ?_
  by_cases hk : key r = k
  · rw [if_pos hk, if_pos hk, h r hr hk]
  · rw [if_neg hk, if_neg hk]

theorem modify_modify (t : Table key) (k : κ) (f g : ρ → ρ) (hf : ∀ r, key (f r) = key r)
    (hg : ∀ r, key (g r) = key r) : (t.modify k f hf).modify k g hg =
      t.modify k (fun r => g (f r)) fun r => (hg _).trans (hf r) := by
  ext1
  simp only [modify, List.map_map]
  refine List.map_congr_left fun r _ => ?_
  by_cases hk : key r = k <;> simp [hk, hf]

/-- Rewriting the row of a key rewrites it in every part of the table the rewriting respects. -/
theorem select_modify {p : ρ → Bool} (hp : ∀ r ∈ t, key r = k → p (f r) = p r) :
    (t.modify k f hf).select p = (t.select p).map fun r => if key r = k then f r else r := by
  unfold select modify
  rw [List.filter_map]
  congr 1
  refine List.filter_congr fun r hr => ?_
  show p (if key r = k then f r else r) = p r
  split_ifs with hk
  · exact hp r hr hk
  · rfl

/-- A part the row is in neither before nor after is unchanged. -/
theorem select_modify_of_not {p : ρ → Bool}
    (hp : ∀ r ∈ t, key r = k → p r = false ∧ p (f r) = false) :
    (t.modify k f hf).select p = t.select p := by
  have hresp : ∀ r ∈ t, key r = k → p (f r) = p r :=
    fun r hr hk => (hp r hr hk).2.trans (hp r hr hk).1.symm
  rw [select_modify hresp]
  conv_rhs => rw [← List.map_id (t.select p)]
  refine List.map_congr_left fun r hr => ?_
  obtain ⟨hmem, hpr⟩ := mem_select.mp hr
  rw [if_neg fun hk => by rw [(hp r hmem hk).1] at hpr; cases hpr]
  rfl

omit [DecidableEq κ] in
theorem key_ne_last {t : Table key} {p : ρ → Bool} {l : List ρ} {x : ρ}
    (h : t.select p = l ++ [x]) : ∀ r ∈ l, key r ≠ key x := by
  intro r hr hk
  have hnodup : ((l ++ [x]).map key).Nodup := by
    rw [← h]
    exact (List.filter_sublist.map key).nodup t.nodup
  rw [List.map_append, List.nodup_append] at hnodup
  exact hnodup.2.2 _ (List.mem_map_of_mem hr) _ (by simp) hk

theorem select_modify_last {p : ρ → Bool} {l : List ρ} {x : ρ} (h : t.select p = l ++ [x])
    (hx : p (f x) = true) : (t.modify (key x) f hf).select p = l ++ [f x] := by
  have hmem : x ∈ t ∧ p x = true := mem_select.mp (by rw [h]; simp)
  have hresp : ∀ r ∈ t, key r = key x → p (f r) = p r := by
    intro r hr hk
    rw [eq_of_key hr hmem.1 hk, hx, hmem.2]
  rw [select_modify hresp, h, List.map_append]
  congr 1
  · conv_rhs => rw [← List.map_id l]
    refine List.map_congr_left fun r hr => ?_
    rw [if_neg (key_ne_last h r hr)]
    rfl
  · simp

theorem mem_of_mem_modify_modify {t : Table key} {k k' : κ} {f g : ρ → ρ}
    (hf : ∀ r, key (f r) = key r) (hg : ∀ r, key (g r) = key r) (hk : k ≠ k') {r : ρ}
    (hr : r ∈ (t.modify k f hf).modify k' g hg) : (r ∈ t ∧ key r ≠ k ∧ key r ≠ k') ∨
      (∃ r₀ ∈ t, key r₀ = k ∧ r = f r₀) ∨ ∃ r₀ ∈ t, key r₀ = k' ∧ r = g r₀ := by
  rcases mem_modify.mp hr with ⟨hr, hne'⟩ | ⟨r₁, hr₁, hk₁, rfl⟩
  · rcases mem_modify.mp hr with ⟨hr, hne⟩ | h
    · exact Or.inl ⟨hr, hne, hne'⟩
    · exact Or.inr (Or.inl h)
  · rcases mem_modify.mp hr₁ with ⟨hr₁, _⟩ | ⟨r₀, _, hk₀, rfl⟩
    · exact Or.inr (Or.inr ⟨r₁, hr₁, hk₁, rfl⟩)
    · exact absurd (hk₀.symm.trans ((hf r₀).symm.trans hk₁)) hk

end Modify

/-! ### Adding a row -/

/-- Add the row `r`, unless its key is taken. -/
def insert (t : Table key) (r : ρ) : Table key :=
  if h : key r ∈ t.rows.map key then t
  else ⟨t.rows ++ [r], by
    rw [List.map_append, List.map_singleton]
    exact List.nodup_append.mpr ⟨t.nodup, List.nodup_singleton _,
      fun a ha b hb => by rw [List.mem_singleton.mp hb]; rintro rfl; exact h ha⟩⟩

section Insert

variable {t : Table key} {r : ρ}

theorem mem_insert (h : t.find (key r) = none) {x : ρ} : x ∈ t.insert r ↔ x ∈ t ∨ x = r := by
  have hr : key r ∉ t.rows.map key := by
    rw [List.mem_map]
    rintro ⟨y, hy, hk⟩
    exact find_eq_none.mp h y hy hk
  simp [insert, hr, mem_def]

theorem insert_of_taken {r' : ρ} (h : t.find (key r) = some r') : t.insert r = t := by
  obtain ⟨hr', hk⟩ := find_eq_some.mp h
  exact dif_pos (List.mem_map.mpr ⟨r', hr', hk⟩)

theorem mem_of_mem_insert {x : ρ} (hx : x ∈ t.insert r) : x ∈ t ∨ x = r := by
  cases h : t.find (key r) with
  | none => exact (mem_insert h).mp hx
  | some r' => rw [insert_of_taken h] at hx; exact Or.inl hx

/-- What holds of every row, and of a row that is added, holds after it. -/
theorem forall_mem_insert {P : ρ → Prop} (h : ∀ r ∈ t, P r) (hr : P r) : ∀ x ∈ t.insert r, P x := by
  intro x hx
  rcases mem_of_mem_insert hx with hold | rfl
  · exact h x hold
  · exact hr

theorem mem_insert_of_mem {x : ρ} (hx : x ∈ t) : x ∈ t.insert r := by
  cases h : t.find (key r) with
  | none => exact (mem_insert h).mpr (Or.inl hx)
  | some r' => rwa [insert_of_taken h]

theorem find_insert_self (h : t.find (key r) = none) : (t.insert r).find (key r) = some r :=
  find_key ((mem_insert h).mpr (Or.inr rfl))

theorem find_insert_of_ne {k : κ} (hne : k ≠ key r) : (t.insert r).find k = t.find k := by
  cases h : t.find k with
  | none =>
    rw [find_eq_none]
    intro x hx hk
    rcases mem_of_mem_insert hx with hx | rfl
    · exact find_eq_none.mp h x hx hk
    · exact hne hk.symm
  | some x =>
    obtain ⟨hx, hk⟩ := find_eq_some.mp h
    exact find_eq_some.mpr ⟨mem_insert_of_mem hx, hk⟩

theorem select_insert (h : t.find (key r) = none) (p : ρ → Bool) :
    (t.insert r).select p = t.select p ++ [r].filter p := by
  have hr : key r ∉ t.rows.map key := by
    rw [List.mem_map]
    rintro ⟨y, hy, hk⟩
    exact find_eq_none.mp h y hy hk
  unfold insert select
  rw [dif_neg hr]
  exact List.filter_append ..

end Insert

/-! ### Deleting rows, rewriting all of them -/

section Remove

/-- Delete the rows satisfying `p`. -/
def remove (t : Table key) (p : ρ → Bool) : Table key where
  rows := t.rows.filter fun r => !p r
  nodup := (List.filter_sublist.map key).nodup t.nodup

omit [DecidableEq κ] in
@[simp] theorem mem_remove {t : Table key} {p : ρ → Bool} {r : ρ} :
    r ∈ t.remove p ↔ r ∈ t ∧ p r = false := by
  simp [mem_def, remove]

theorem find_remove (t : Table key) (p : ρ → Bool) (k : κ) :
    (t.remove p).find k = (t.find k).filter fun r => !p r := by
  cases h : t.find k with
  | none =>
    refine find_eq_none.mpr fun r hr => ?_
    exact find_eq_none.mp h r (mem_remove.mp hr).1
  | some r =>
    obtain ⟨hr, hk⟩ := find_eq_some.mp h
    cases hp : p r with
    | false =>
      rw [Option.filter_some, hp]
      exact find_eq_some.mpr ⟨mem_remove.mpr ⟨hr, hp⟩, hk⟩
    | true =>
      rw [Option.filter_some, hp]
      refine find_eq_none.mpr fun r' hr' hk' => ?_
      obtain ⟨hmem, hp'⟩ := mem_remove.mp hr'
      rw [eq_of_key hmem hr (hk'.trans hk.symm), hp] at hp'
      cases hp'

omit [DecidableEq κ] in
/-- What a test keeps of the rows left. -/
theorem select_remove (t : Table key) (p q : ρ → Bool) :
    (t.remove p).select q = t.rows.filter fun r => q r && !p r := by
  unfold select remove
  exact List.filter_filter

/-- Rewrite every row by `f`, which keeps keys. -/
def map (t : Table key) (f : ρ → ρ) (hf : ∀ r, key (f r) = key r := by intro; rfl) : Table key where
  rows := t.rows.map f
  nodup := by
    have : (t.rows.map f).map key = t.rows.map key := by
      rw [List.map_map]
      exact List.map_congr_left fun r _ => hf r
    rw [this]
    exact t.nodup

omit [DecidableEq κ] in
theorem mem_map {t : Table key} {f : ρ → ρ} {hf : ∀ r, key (f r) = key r} {r : ρ} :
    r ∈ t.map f hf ↔ ∃ r₀ ∈ t, f r₀ = r := List.mem_map

theorem find_map {t : Table key} {f : ρ → ρ} {hf : ∀ r, key (f r) = key r} (k : κ) :
    (t.map f hf).find k = (t.find k).map f := by
  unfold find map
  rw [List.find?_map]
  congr 2
  funext r
  rw [Function.comp_apply, hf]

/-- Rewrite the rows satisfying `p` by `f`, which keeps keys. -/
def updateMany (t : Table key) (p : ρ → Bool) (f : ρ → ρ) (hf : ∀ r, key (f r) = key r) :
    Table key :=
  t.map (fun r => if p r then f r else r) fun r => by split <;> simp [hf]

section UpdateMany

variable {t : Table key} {p q : ρ → Bool} {f : ρ → ρ} {h : ∀ r, key (f r) = key r}

omit [DecidableEq κ] in
theorem rows_updateMany : (t.updateMany p f h).rows = t.rows.map fun r => if p r then f r else r := rfl

theorem find_updateMany (k : κ) :
    (t.updateMany p f h).find k = (t.find k).map fun r => if p r then f r else r := find_map k

omit [DecidableEq κ] in
/-- What the rewriting does not change of a row is what it was, in every row. -/
theorem map_updateMany {β : Type} {g : ρ → β} (hg : ∀ r ∈ t, p r = true → g (f r) = g r) :
    (t.updateMany p f h).rows.map g = t.rows.map g := by
  rw [rows_updateMany, List.map_map]
  refine List.map_congr_left fun r hr => ?_
  show g (if p r then f r else r) = g r
  by_cases hpr : p r = true
  · rw [if_pos hpr, hg r hr hpr]
  · rw [if_neg hpr]

omit [DecidableEq κ] in
/-- Rows that are never rewritten, and that none is rewritten to, are as they were. -/
theorem filter_updateMany (hp : ∀ r ∈ t, p r = true → q r = false ∧ q (f r) = false) :
    (t.updateMany p f h).rows.filter q = t.rows.filter q := by
  rw [rows_updateMany, List.filter_map]
  have hsame : ∀ r ∈ t.rows, q (if p r then f r else r) = q r := by
    intro r hr
    by_cases hpr : p r = true
    · rw [if_pos hpr, (hp r hr hpr).1, (hp r hr hpr).2]
    · rw [if_neg hpr]
  have hfilter : t.rows.filter (q ∘ fun r => if p r then f r else r) = t.rows.filter q :=
    List.filter_congr fun r hr => hsame r hr
  rw [hfilter]
  refine (List.map_congr_left fun r hr => ?_).trans (List.map_id _)
  obtain ⟨hr, hq⟩ := List.mem_filter.mp hr
  have hnp : ¬p r = true := by
    intro hpr
    simp [(hp r hr hpr).1] at hq
  exact if_neg hnp

omit [DecidableEq κ] in
/-- Where a test of a rewritten row was already passed, no more rows pass it. -/
theorem countP_updateMany_le (hq : ∀ r ∈ t, p r = true → q (f r) = true → q r = true) :
    (t.updateMany p f h).rows.countP q ≤ t.rows.countP q := by
  rw [rows_updateMany, List.countP_map]
  refine List.countP_mono_left fun r hr hnew => ?_
  by_cases hp : p r = true
  · exact hq r hr hp (by simpa [hp] using hnew)
  · simpa [hp] using hnew

omit [DecidableEq κ] in
theorem countP_updateMany_self (hq : ∀ r, p (f r) = false) :
    (t.updateMany p f h).rows.countP p = 0 := by
  rw [rows_updateMany, List.countP_map, List.countP_eq_zero]
  intro r _
  show ¬p (if p r then f r else r) = true
  by_cases hp : p r = true
  · simp [hp, hq]
  · simp [hp]

omit [DecidableEq κ] in
/-- Where no row satisfies the test nothing is rewritten. -/
theorem updateMany_eq_self (hp : t.select p = []) : t.updateMany p f h = t := by
  have hno : ∀ r ∈ t.rows, ¬p r = true := List.filter_eq_nil_iff.mp hp
  have hrows : (t.updateMany p f h).rows = t.rows := by
    rw [rows_updateMany]
    exact (List.map_congr_left fun r hr => if_neg (hno r hr)).trans (List.map_id _)
  cases t
  simpa [updateMany, map] using hrows

end UpdateMany

end Remove

/-! ### Numbered rows -/

section Fresh

variable {num : ρ → ℕ}

/-- A number above every row's. -/
def fresh (t : Table num) : ℕ := (t.rows.map num).foldr max 0 + 1

theorem lt_fresh {t : Table num} {r : ρ} (hr : r ∈ t) : num r < t.fresh := by
  have hle : ∀ (l : List ℕ), ∀ n ∈ l, n ≤ l.foldr max 0 := by
    intro l
    induction l with
    | nil => simp
    | cons a l ih =>
      intro n hn
      rcases List.mem_cons.mp hn with rfl | hn
      · exact Nat.le_max_left _ _
      · exact Nat.le_trans (ih n hn) (Nat.le_max_right _ _)
  exact Nat.lt_succ_of_le (hle _ _ (List.mem_map_of_mem hr))

theorem find_fresh (t : Table num) : t.find t.fresh = none :=
  find_eq_none.mpr fun _ hr => Nat.ne_of_lt (lt_fresh hr)

end Fresh

end Table

end KarsHotel
