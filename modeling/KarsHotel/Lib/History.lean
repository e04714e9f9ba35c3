import Mathlib.Data.List.Basic

/-!
# The calls of a run by their places

A run is a list of calls. What is said of a call and of the calls before it stays true as
the run grows.

* `getElem?_concat_of_eq_some`, `take_concat_of_eq_some`: a call, and what was before it, in a
  longer run; `getElem?_last`, `take_last`: the last call;
* **`forall_between_concat`**: what no call between has done, in a longer run.
-/

namespace KarsHotel

variable {ι : Type} {ops : List ι} {x y : ι} {i j : ℕ}

theorem lt_length_of_eq_some (h : ops[i]? = some y) : i < ops.length :=
  (List.getElem?_eq_some_iff.mp h).1

theorem getElem?_concat_of_eq_some (h : ops[i]? = some y) : (ops ++ [x])[i]? = some y := by
  rw [List.getElem?_append_left (lt_length_of_eq_some h), h]

theorem take_concat_of_eq_some (h : ops[i]? = some y) :
    (ops ++ [x]).take i = ops.take i ∧ (ops ++ [x]).take (i + 1) = ops.take (i + 1) := by
  have hi := lt_length_of_eq_some h
  exact ⟨List.take_append_of_le_length (Nat.le_of_lt hi), List.take_append_of_le_length hi⟩

theorem getElem?_last : (ops ++ [x])[ops.length]? = some x := List.getElem?_concat_length ..

theorem take_last : (ops ++ [x]).take ops.length = ops := List.take_left ..

theorem take_last_succ : (ops ++ [x]).take (ops.length + 1) = ops ++ [x] :=
  List.take_of_length_le (by simp)

/-- **What no call after a place has done**, in a run with one call more. -/
theorem forall_between_concat {P : ι → Prop} :
    (∀ k, i < k → ∀ y, (ops ++ [x])[k]? = some y → P y) ↔
      (∀ k, i < k → ∀ y, ops[k]? = some y → P y) ∧ (i < ops.length → P x) := by
  constructor
  · intro h
    exact ⟨fun k hk y hy => h k hk y (getElem?_concat_of_eq_some hy), fun hi => h _ hi x getElem?_last⟩
  · rintro ⟨h, hx⟩ k hk y hy
    by_cases hlen : k < ops.length
    · rw [List.getElem?_append_left hlen] at hy
      exact h k hk y hy
    · have hk' := lt_length_of_eq_some hy
      rw [List.length_append, List.length_singleton] at hk'
      obtain rfl : k = ops.length := by omega
      rw [getElem?_last] at hy
      exact Option.some.inj hy ▸ hx hk

end KarsHotel
