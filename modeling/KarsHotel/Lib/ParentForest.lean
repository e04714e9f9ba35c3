import Mathlib.Data.List.Nodup
import Mathlib.Data.List.Perm.Subperm
import Mathlib.Logic.Relation

/-!
# Parent links

Links from a child to its parent, given by a partial function.

* `Forest.Acyclic`: no element is above itself;
* **`Forest.acyclic_set`**: a new link keeps it so when the child is not above its new parent;
* `Forest.ancestors`: climbing, the parent first; **`Forest.nodup_ancestors`**: nothing is met
  twice; **`Forest.ancestors_end`**: over finitely many links the climb ends.
-/

namespace KarsHotel.Forest

open Relation

variable {α : Type} {parent parent' : α → Option α}

/-- `b` is the parent of `a`. -/
def Link (parent : α → Option α) (a b : α) : Prop := parent a = some b

def Acyclic (parent : α → Option α) : Prop := ∀ a, ¬ TransGen (Link parent) a a

/-- Fewer links make no cycle. -/
theorem Acyclic.mono (h : Acyclic parent) (hsub : ∀ a b, parent' a = some b → parent a = some b) :
    Acyclic parent' :=
  fun a hcycle => h a (TransGen.mono (fun b d => hsub b d) _ _ hcycle)

section Set

variable {c p : α}

/-- The links above the new parent are the old ones while the child is not met. -/
theorem above_of_set (hother : ∀ a b, a ≠ c → parent' a = some b → parent a = some b)
    (habove : ¬ ReflTransGen (Link parent) p c) {a : α} (h : ReflTransGen (Link parent') p a) :
    ReflTransGen (Link parent) p a := by
  induction h with
  | refl => exact .refl
  | @tail b d hpb hbd ih =>
    have hne : b ≠ c := fun heq => habove (heq ▸ ih)
    exact ih.tail (hother b d hne hbd)

/-- A climb over the new links avoids the child or passes it and its new parent. -/
theorem climb_of_set (hother : ∀ a b, a ≠ c → parent' a = some b → parent a = some b)
    (hnew : ∀ b, parent' c = some b → b = p) {a b : α} (h : TransGen (Link parent') a b) :
    TransGen (Link parent) a b ∨
      ReflTransGen (Link parent') a c ∧ ReflTransGen (Link parent') p b := by
  induction h with
  | @single b hab =>
    by_cases hac : a = c
    · subst hac
      exact Or.inr ⟨.refl, hnew b hab ▸ .refl⟩
    · exact Or.inl (.single (hother a b hac hab))
  | @tail b d hab hbd ih =>
    rcases ih with ih | ⟨hac, hpb⟩
    · by_cases hbc : b = c
      · subst hbc
        exact Or.inr ⟨hab.to_reflTransGen, hnew d hbd ▸ .refl⟩
      · exact Or.inl (ih.tail (hother b d hbc hbd))
    · exact Or.inr ⟨hac, hpb.tail hbd⟩

/-- **A new link** makes no cycle unless the child is above its new parent. -/
theorem acyclic_set (h : Acyclic parent)
    (hother : ∀ a b, a ≠ c → parent' a = some b → parent a = some b)
    (hnew : ∀ b, parent' c = some b → b = p) (habove : ¬ ReflTransGen (Link parent) p c) :
    Acyclic parent' := by
  intro a hcycle
  rcases climb_of_set hother hnew hcycle with hold | ⟨hac, hpa⟩
  · exact h a hold
  · exact habove (above_of_set hother habove (hpa.trans hac))

end Set

/-! ## Climbing -/

/-- The first ancestors of an element, its parent first. -/
def ancestors (parent : α → Option α) : ℕ → α → List α
  | 0, _ => []
  | n + 1, a => match parent a with
    | none => []
    | some b => b :: ancestors parent n b

theorem length_ancestors_le (n : ℕ) (a : α) : (ancestors parent n a).length ≤ n := by
  induction n generalizing a with
  | zero => exact Nat.le_refl 0
  | succ n ih =>
    unfold ancestors
    cases parent a with
    | none => exact Nat.zero_le _
    | some b => exact Nat.succ_le_succ (ih b)

theorem above_of_mem_ancestors {n : ℕ} {a b : α} (h : b ∈ ancestors parent n a) :
    TransGen (Link parent) a b := by
  induction n generalizing a with
  | zero => exact absurd h List.not_mem_nil
  | succ n ih =>
    unfold ancestors at h
    cases hp : parent a with
    | none =>
      rw [hp] at h
      exact absurd h List.not_mem_nil
    | some d =>
      rw [hp] at h
      rcases List.mem_cons.mp h with rfl | h
      · exact .single hp
      · exact .head hp (ih h)

/-- **Nothing is met twice.** -/
theorem nodup_ancestors (h : Acyclic parent) (n : ℕ) (a : α) :
    (a :: ancestors parent n a).Nodup := by
  induction n generalizing a with
  | zero => exact List.nodup_singleton a
  | succ n ih =>
    refine List.nodup_cons.mpr ⟨fun hmem => h a (above_of_mem_ancestors hmem), ?_⟩
    unfold ancestors
    cases parent a with
    | none => exact List.nodup_nil
    | some b => exact ih b

/-- While a climb goes on, what it has met has parents. -/
theorem parent_of_mem_climb {n : ℕ} {a b : α} (hlen : (ancestors parent n a).length = n)
    (hb : b ∈ (a :: ancestors parent n a).take n) : ∃ d, parent b = some d := by
  induction n generalizing a with
  | zero => exact absurd hb List.not_mem_nil
  | succ n ih =>
    unfold ancestors at hlen hb
    cases hp : parent a with
    | none =>
      rw [hp] at hlen
      cases hlen
    | some d =>
      rw [hp] at hlen hb
      rw [List.take_succ_cons] at hb
      rcases List.mem_cons.mp hb with rfl | hb
      · exact ⟨d, hp⟩
      · exact ih (Nat.succ.inj hlen) hb

/-- **The climb ends**: it is shorter than any bound above the number of elements with a parent. -/
theorem ancestors_end (h : Acyclic parent) {l : List α} (hl : ∀ a b, parent a = some b → a ∈ l)
    (a : α) : (ancestors parent (l.length + 1) a).length < l.length + 1 := by
  refine Nat.lt_of_le_of_ne (length_ancestors_le _ a) fun hlen => ?_
  have hnodup := (nodup_ancestors h (l.length + 1) a).sublist (List.take_sublist (l.length + 1) _)
  have hsub : (a :: ancestors parent (l.length + 1) a).take (l.length + 1) ⊆ l := by
    intro b hb
    obtain ⟨d, hd⟩ := parent_of_mem_climb hlen hb
    exact hl b d hd
  have hle := (List.subperm_of_subset hnodup hsub).length_le
  rw [List.length_take, List.length_cons, hlen] at hle
  omega

end KarsHotel.Forest
