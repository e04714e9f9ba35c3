import KarsHotel.Lib.EntryMap
import Mathlib.Algebra.BigOperators.Group.List.Basic

/-!
# Grouping by a key

A `Map` filled in one pass: the entry of a key is made at its first row, and every row is added to
the entry of its key.

* `groupInto`: the pass; `get_groupInto`, `keys_groupInto`: what is in the map, and in which order;
* **`rows_groupInto`**: the entries, listed;
* **`perm_flatMap_filter`**, **`sum_groups`**: the groups of all keys hold every row once.
-/

namespace KarsHotel

variable {α β κ : Type} [DecidableEq κ]

/-- One pass over the rows. `make` is the entry of a key at its first row, `add` puts a row
into it. -/
def groupInto (key : α → κ) (make : α → β) (add : β → α → β) (xs : List α) : EntryMap κ β :=
  xs.foldl (fun m a => EntryMap.set m (key a) (add ((EntryMap.get m (key a)).getD (make a)) a)) .empty

/-- The entry of rows of one key. -/
def groupOf (make : α → β) (add : β → α → β) : List α → Option β
  | [] => none
  | a :: as => some ((a :: as).foldl add (make a))

section Grouping

variable {key : α → κ} {make : α → β} {add : β → α → β} {xs : List α}

omit [DecidableEq κ] in
theorem groupOf_concat (as : List α) (a : α) :
    groupOf make add (as ++ [a]) = some (add ((groupOf make add as).getD (make a)) a) := by
  cases as with
  | nil => rfl
  | cons b bs => simp [groupOf]

theorem get_groupInto (k : κ) : EntryMap.get (groupInto key make add xs) k =
    groupOf make add (xs.filter fun a => decide (key a = k)) := by
  induction xs using List.reverseRecOn with
  | nil => rfl
  | append_singleton xs a ih =>
    unfold groupInto at ih ⊢
    rw [List.foldl_concat, List.filter_append]
    by_cases hk : key a = k
    · subst hk
      rw [EntryMap.get_set_self, List.filter_cons_of_pos (by simp), List.filter_nil, groupOf_concat, ih]
    · rw [EntryMap.get_set_of_ne _ _ (Ne.symm hk), ih, List.filter_cons_of_neg (by simpa using hk),
        List.filter_nil, List.append_nil]

/-- A key that is set again keeps its place, a new one comes last. -/
theorem keys_set (m : EntryMap κ β) (k : κ) (b : β) : (EntryMap.set m k b).rows.map Prod.fst =
    if k ∈ m.rows.map Prod.fst then m.rows.map Prod.fst else m.rows.map Prod.fst ++ [k] := by
  unfold EntryMap.set
  cases h : Table.find m k with
  | some e =>
    obtain ⟨he, rfl⟩ := Table.find_eq_some.mp h
    rw [if_pos (List.mem_map.mpr ⟨e, he, rfl⟩)]
    unfold Table.modify
    rw [List.map_map]
    refine List.map_congr_left fun e' _ => ?_
    rw [Function.comp_apply]
    split_ifs <;> rfl
  | none =>
    have hk : k ∉ m.rows.map Prod.fst := by
      rw [List.mem_map]
      rintro ⟨e, he, rfl⟩
      exact Table.find_eq_none.mp h e he rfl
    rw [if_neg hk, Table.insert, dif_neg hk]
    exact List.map_append

theorem keys_groupInto :
    (groupInto key make add xs).rows.map Prod.fst = distinct (xs.map key) := by
  induction xs using List.reverseRecOn with
  | nil => rfl
  | append_singleton xs a ih =>
    unfold groupInto at ih ⊢
    rw [List.foldl_concat, keys_set, ih, List.map_append, List.map_singleton]
    unfold distinct
    rw [List.reverse_append, List.reverse_singleton, List.singleton_append]
    by_cases hk : key a ∈ xs.map key
    · rw [if_pos (by simpa using hk), List.dedup_cons_of_mem (by simpa using hk)]
    · rw [if_neg (by simpa using hk), List.dedup_cons_of_notMem (by simpa using hk), List.reverse_cons]

/-- **The entries**: of each key its rows, the keys in the order of their first rows. -/
theorem rows_groupInto : (groupInto key make add xs).rows =
    (distinct (xs.map key)).filterMap fun k =>
      (groupOf make add (xs.filter fun a => decide (key a = k))).map fun b => (k, b) := by
  rw [← @keys_groupInto α β κ _ key make add xs, List.filterMap_map]
  conv_lhs => rw [← List.filterMap_some (l := (groupInto key make add xs).rows)]
  refine List.filterMap_congr fun e he => ?_
  have hget := EntryMap.mem_rows.mp he
  rw [get_groupInto] at hget
  rw [Function.comp_apply, hget]
  rfl

end Grouping

/-- Where the entries of a key agree, the map has each of them. -/
theorem EntryMap.get_ofEntries_iff {es : List (κ × α)}
    (h : ∀ e ∈ es, ∀ e' ∈ es, e.1 = e'.1 → e.2 = e'.2) {k : κ} {a : α} :
    EntryMap.get (EntryMap.ofEntries es) k = some a ↔ (k, a) ∈ es := by
  rw [EntryMap.get_ofEntries, lastEntry]
  constructor
  · intro hlast
    obtain ⟨e, he, rfl⟩ := Option.map_eq_some_iff.mp hlast
    obtain ⟨hmem, hk⟩ := List.mem_filter.mp (List.mem_of_getLast? he)
    rw [← of_decide_eq_true hk]
    exact hmem
  · intro hmem
    have hfound : (k, a) ∈ es.filter fun e => decide (e.1 = k) :=
      List.mem_filter.mpr ⟨hmem, decide_eq_true rfl⟩
    cases hlast : (es.filter fun e => decide (e.1 = k)).getLast? with
    | none =>
      rw [List.getLast?_eq_none_iff] at hlast
      rw [hlast] at hfound
      cases hfound
    | some e =>
      obtain ⟨he, hk⟩ := List.mem_filter.mp (List.mem_of_getLast? hlast)
      exact congrArg some (h e he _ hmem (of_decide_eq_true hk))

/-- **The groups of all keys hold every row once.** -/
theorem perm_flatMap_filter (key : α → κ) (xs : List α) {ks : List κ} (hks : ks.Nodup)
    (hall : ∀ a ∈ xs, key a ∈ ks) :
    (ks.flatMap fun k => xs.filter fun a => decide (key a = k)).Perm xs := by
  induction ks generalizing xs with
  | nil =>
    cases xs with
    | nil => exact List.Perm.nil
    | cons a xs => exact absurd (hall a List.mem_cons_self) List.not_mem_nil
  | cons k ks ih =>
    obtain ⟨hk, hks⟩ := List.nodup_cons.mp hks
    have hrest : (ks.flatMap fun k => xs.filter fun a => decide (key a = k)) =
        ks.flatMap fun k' =>
          (xs.filter fun a => !decide (key a = k)).filter fun a => decide (key a = k') := by
      refine List.flatMap_congr fun k' hk' => ?_
      rw [List.filter_filter]
      refine List.filter_congr fun a _ => ?_
      by_cases ha : key a = k'
      · have hne : k' ≠ k := fun h => hk (h ▸ hk')
        simp [ha, hne]
      · simp [ha]
    rw [List.flatMap_cons, hrest]
    refine ((ih _ hks fun a ha => ?_).append_left _).trans (List.filter_append_perm _ xs)
    obtain ⟨ha, hne⟩ := List.mem_filter.mp ha
    rcases List.mem_cons.mp (hall a ha) with h | h
    · simp [h] at hne
    · exact h

/-- **Sums of groups add up**: what is summed over the rows of every key is the sum over
all rows. -/
theorem sum_groups {μ : Type} [AddCommMonoid μ] (key : α → κ) (f : α → μ) (xs : List α) {ks : List κ}
    (hks : ks.Nodup) (hall : ∀ a ∈ xs, key a ∈ ks) :
    (ks.map fun k => ((xs.filter fun a => decide (key a = k)).map f).sum).sum = (xs.map f).sum := by
  have hperm := ((perm_flatMap_filter key xs hks hall).map f).sum_eq
  rw [← hperm, List.map_flatMap, List.flatMap_def, List.sum_flatten, List.map_map]
  rfl

end KarsHotel
