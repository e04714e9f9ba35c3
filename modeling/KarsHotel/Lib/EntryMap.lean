import KarsHotel.Lib.Table
import Mathlib.Data.List.Dedup
import Mathlib.Data.List.Induction

/-!
# Maps of entries

A `Map`: entries with pairwise different keys, listed in the order their keys were first set.

* `EntryMap.get`, `EntryMap.set`, `EntryMap.ofEntries`: reading, writing, and a map of a list;
* **`EntryMap.get_ofEntries`**: of the entries of one key the last one counts;
* `EntryMap.get_ofEntries_map`: the same where each key has one entry;
* `EntryMap.mem_rows`: the listed entries are those that can be read;
* `distinct`: the elements of a list, each once.
-/

namespace KarsHotel

/-- A map from `κ` to `α`. -/
abbrev EntryMap (κ α : Type) := Table (Prod.fst : κ × α → κ)

/-- The value the entries last give a key. -/
def lastEntry {κ α : Type} [DecidableEq κ] (es : List (κ × α)) (k : κ) : Option α :=
  (es.filter fun e => e.1 = k).getLast?.map Prod.snd

namespace EntryMap

variable {κ α : Type} [DecidableEq κ]

/-- `m.get(k)`. -/
def get (m : EntryMap κ α) (k : κ) : Option α := (Table.find m k).map Prod.snd

/-- `m.set(k, a)`. -/
def set (m : EntryMap κ α) (k : κ) (a : α) : EntryMap κ α :=
  match Table.find m k with
  | some _ => Table.modify m k fun e => (e.1, a)
  | none => Table.insert m (k, a)

/-- `new Map(entries)`. -/
def ofEntries (es : List (κ × α)) : EntryMap κ α := es.foldl (fun m e => set m e.1 e.2) .empty

theorem get_set_self (m : EntryMap κ α) (k : κ) (a : α) : get (set m k a) k = some a := by
  unfold get set
  cases h : Table.find m k with
  | some e => simp [Table.find_modify_self, h]
  | none =>
    have hfind := Table.find_insert_self (t := m) (r := (k, a)) h
    simpa using congrArg (Option.map Prod.snd) hfind

theorem get_set_of_ne (m : EntryMap κ α) {k k' : κ} (a : α) (hne : k' ≠ k) :
    get (set m k a) k' = get m k' := by
  unfold get set
  cases h : Table.find m k with
  | some e => simp [Table.find_modify_of_ne hne]
  | none => simp [Table.find_insert_of_ne (t := m) (r := (k, a)) hne]

/-- **Of the entries of one key the last one counts.** -/
theorem get_ofEntries (es : List (κ × α)) (k : κ) : get (ofEntries es) k = lastEntry es k := by
  induction es using List.reverseRecOn with
  | nil => rfl
  | append_singleton es e ih =>
    have hset : ofEntries (es ++ [e]) = set (ofEntries es) e.1 e.2 := by
      simp [ofEntries, List.foldl_append]
    rw [hset]
    unfold lastEntry
    rw [List.filter_append]
    by_cases hk : e.1 = k
    · subst hk
      simp [get_set_self]
    · rw [get_set_of_ne _ _ (Ne.symm hk), ih]
      simp [hk, lastEntry]

/-- A map with one entry for each of some keys. -/
theorem get_ofEntries_map {ks : List κ} (hks : ks.Nodup) (g : κ → α) (k : κ) :
    get (ofEntries (ks.map fun k => (k, g k))) k = if k ∈ ks then some (g k) else none := by
  rw [get_ofEntries, lastEntry, List.filter_map]
  show (((ks.filter fun k' => decide (k' = k)).map _).getLast?.map _) = _
  rw [List.filter_eq]
  split_ifs with hk
  · rw [List.count_eq_one_of_mem hks hk]
    rfl
  · rw [List.count_eq_zero_of_not_mem hk]
    rfl

theorem mem_rows {m : EntryMap κ α} {e : κ × α} : e ∈ m.rows ↔ get m e.1 = some e.2 := by
  unfold get
  constructor
  · intro he
    rw [Table.find_key (t := m) he]
    rfl
  · intro h
    obtain ⟨e', hfind, hvalue⟩ := Option.map_eq_some_iff.mp h
    obtain ⟨hmem, hkey⟩ := Table.find_eq_some.mp hfind
    have heq : e' = e := Prod.ext hkey hvalue
    exact heq ▸ hmem

end EntryMap

/-! ## Sets -/

/-- `[...new Set(xs)]`: each element once, where it first stands. -/
def distinct {α : Type} [DecidableEq α] (xs : List α) : List α := xs.reverse.dedup.reverse

section Distinct

variable {α : Type} [DecidableEq α] {xs : List α}

theorem mem_distinct {x : α} : x ∈ distinct xs ↔ x ∈ xs := by
  rw [distinct, List.mem_reverse, List.mem_dedup, List.mem_reverse]

theorem nodup_distinct : (distinct xs).Nodup := List.nodup_reverse.mpr (List.nodup_dedup _)

end Distinct

end KarsHotel
