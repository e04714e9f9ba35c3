import Mathlib.Logic.Function.Basic
import Mathlib.Data.List.Basic

/-!
# References between tables

Tables are lists of rows under names. A reference says that what a column of one table holds, a
column of another holds too.

* `Reference`, `Reference.Points`, `Reference.Held`: a reference, that a row keeps it, that all do;
* `Reference.sweep`: the rows that break references are deleted, for one reference after another;
* **`sweep_apply`**: where no table that is swept is referred to, a row stays exactly if it keeps
  all the references;
* **`Held.filter`**: deleting rows keeps a reference, if with a row all rows go that refer to it.
-/

namespace KarsHotel

/-- Column `col` of the table `child` refers to column `pcol` of the table `parent`. -/
structure Reference (T C : Type) where
  child : T
  col : C
  parent : T
  pcol : C
  deriving DecidableEq, Repr

namespace Reference

variable {T C V ρ : Type} [DecidableEq T] [DecidableEq V] (cell : ρ → C → Option V)

/-- Some row of the referred table holds what the row's column holds. An empty column refers to
nothing. -/
def Points (db : T → List ρ) (f : Reference T C) (r : ρ) : Prop :=
  ∀ v ∈ cell r f.col, ∃ p ∈ db f.parent, cell p f.pcol = some v

instance (db : T → List ρ) (f : Reference T C) (r : ρ) : Decidable (f.Points cell db r) := by
  unfold Points
  infer_instance

/-- Every row keeps the reference. -/
def Held (db : T → List ρ) (f : Reference T C) : Prop := ∀ r ∈ db f.child, f.Points cell db r

/-- The rows that break one reference are deleted. -/
def sweepOne (db : T → List ρ) (f : Reference T C) : T → List ρ :=
  Function.update db f.child ((db f.child).filter fun r => decide (f.Points cell db r))

def sweep (db : T → List ρ) (fs : List (Reference T C)) : T → List ρ := fs.foldl (sweepOne cell) db

section Sweep

variable {cell} {db db' : T → List ρ} {f : Reference T C} {fs : List (Reference T C)}

omit [DecidableEq T] [DecidableEq V] in
theorem points_congr (h : db' f.parent = db f.parent) {r : ρ} :
    f.Points cell db' r ↔ f.Points cell db r := by
  unfold Points
  rw [h]

theorem sweepOne_of_ne {n : T} (h : n ≠ f.child) : sweepOne cell db f n = db n :=
  Function.update_of_ne h _ _

/-- **A row stays exactly if it keeps all the references.** -/
theorem sweep_apply (hfs : ∀ f ∈ fs, ∀ g ∈ fs, f.parent ≠ g.child) (n : T) :
    sweep cell db fs n =
      (db n).filter fun r => decide (∀ f ∈ fs, f.child = n → f.Points cell db r) := by
  induction fs generalizing db with
  | nil => simp [sweep]
  | cons g fs ih =>
    have hrest : ∀ f ∈ fs, ∀ r, f.Points cell (sweepOne cell db g) r ↔ f.Points cell db r := by
      intro f hf r
      exact points_congr (sweepOne_of_ne (hfs f (List.mem_cons_of_mem _ hf) g List.mem_cons_self))
    have htail := @ih (sweepOne cell db g) fun f hf g' hg' =>
      hfs f (List.mem_cons_of_mem _ hf) g' (List.mem_cons_of_mem _ hg')
    show sweep cell (sweepOne cell db g) fs n = _
    rw [htail]
    by_cases hn : g.child = n
    · subst hn
      rw [sweepOne, Function.update_self, List.filter_filter]
      refine List.filter_congr fun r _ => ?_
      rw [← Bool.decide_and, decide_eq_decide, List.forall_mem_cons, and_comm]
      refine and_congr (by simp) (forall₂_congr fun f hf => ?_)
      exact imp_congr_right fun _ => hrest f hf r
    · rw [sweepOne_of_ne (Ne.symm hn)]
      refine List.filter_congr fun r _ => ?_
      rw [decide_eq_decide, List.forall_mem_cons]
      constructor
      · exact fun h => ⟨fun h' => absurd h' hn, fun f hf hc => (hrest f hf r).mp (h f hf hc)⟩
      · exact fun h f hf hc => (hrest f hf r).mpr (h.2 f hf hc)

/-- What is swept keeps the references. -/
theorem held_sweep (hfs : ∀ f ∈ fs, ∀ g ∈ fs, f.parent ≠ g.child) (hf : f ∈ fs) :
    f.Held cell (sweep cell db fs) := by
  have hparent : sweep cell db fs f.parent = db f.parent := by
    rw [sweep_apply hfs, List.filter_eq_self]
    intro r _
    exact decide_eq_true fun g hg hc => absurd hc.symm (hfs f hf g hg)
  intro r hr
  rw [sweep_apply hfs, List.mem_filter, decide_eq_true_eq] at hr
  exact (points_congr hparent).mpr (hr.2 f hf rfl)

omit [DecidableEq T] [DecidableEq V] in
/-- **A reference stays kept** when rows are deleted, if with a row all rows go that refer to it. -/
theorem Held.filter (hheld : f.Held cell db) (kept : T → ρ → Bool)
    (hdb : ∀ n, n = f.child ∨ n = f.parent → db' n = (db n).filter (kept n))
    (hkept : ∀ r ∈ db f.child, ∀ p ∈ db f.parent, ∀ v ∈ cell r f.col, cell p f.pcol = some v →
      kept f.child r = true → kept f.parent p = true) : f.Held cell db' := by
  intro r hr v hv
  rw [hdb f.child (Or.inl rfl)] at hr
  obtain ⟨hr, hk⟩ := List.mem_filter.mp hr
  obtain ⟨p, hp, hpv⟩ := hheld r hr v hv
  refine ⟨p, ?_, hpv⟩
  rw [hdb f.parent (Or.inr rfl)]
  exact List.mem_filter.mpr ⟨hp, hkept r hr p hp v hv hpv hk⟩

end Sweep

end Reference

end KarsHotel
