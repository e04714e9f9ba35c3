import KarsHotel.Lib.Json
import KarsHotel.Lib.StableSort
import Mathlib.Data.List.Lex
import Mathlib.Data.Prod.Lex

/-!
# JSON values with their keys in order

An object whose keys are assigned in the order of `Object.keys(…).sort()`, at every depth. A program
lists the properties of an object with the array indices first and ascending, then the others as
they were assigned; a text is compared by its UTF-16 code units.

* `utf16`, **`utf16_injective`**; `propertyRank`: where a key is listed;
* `Json.canonical`; `Json.Reordered`: one value, but for the order of keys at any depth;
* **`canonical_eq_of_reordered`**: the canonical form does not see that order.
-/

namespace KarsHotel

/-! ## Code units -/

/-- The UTF-16 code units of a character. -/
def codeUnits (c : Char) : List ℕ :=
  if c.toNat < 0x10000 then [c.toNat]
  else [0xD800 + (c.toNat - 0x10000) / 0x400, 0xDC00 + (c.toNat - 0x10000) % 0x400]

/-- The UTF-16 code units of a text. -/
def utf16 (s : String) : List ℕ := s.toList.flatMap codeUnits

theorem char_toNat_range (c : Char) : c.toNat < 0xD800 ∨ 0xDFFF < c.toNat ∧ c.toNat < 0x110000 :=
  c.valid

/-- The code units of a character are told from what follows. -/
theorem codeUnits_append {c d : Char} {x y : List ℕ}
    (h : codeUnits c ++ x = codeUnits d ++ y) : c = d ∧ x = y := by
  have hc := char_toNat_range c
  have hd := char_toNat_range d
  have hchar : c.toNat = d.toNat → c = d := fun h => Char.toNat_inj.mp h
  unfold codeUnits at h
  split_ifs at h with h₁ h₂ h₂
  · obtain ⟨hcd, hxy⟩ := List.cons_eq_cons.mp h
    exact ⟨hchar hcd, hxy⟩
  · obtain ⟨hcd, -⟩ := List.cons_eq_cons.mp h
    omega
  · obtain ⟨hcd, -⟩ := List.cons_eq_cons.mp h
    omega
  · obtain ⟨hhigh, hrest⟩ := List.cons_eq_cons.mp h
    obtain ⟨hlow, hxy⟩ := List.cons_eq_cons.mp hrest
    exact ⟨hchar (by omega), hxy⟩

theorem flatMap_codeUnits_injective : Function.Injective fun l : List Char => l.flatMap codeUnits := by
  intro l m h
  have hne : ∀ (c : Char) (x : List ℕ), codeUnits c ++ x ≠ [] := by
    intro c x
    unfold codeUnits
    split_ifs <;> simp
  induction l generalizing m with
  | nil =>
    cases m with
    | nil => rfl
    | cons d m => exact absurd h.symm (by simpa using hne d (m.flatMap codeUnits))
  | cons c l ih =>
    cases m with
    | nil => exact absurd h (by simpa using hne c (l.flatMap codeUnits))
    | cons d m =>
      simp only [List.flatMap_cons] at h
      obtain ⟨rfl, hrest⟩ := codeUnits_append h
      rw [ih hrest]

/-- **A text is known by its code units.** -/
theorem utf16_injective : Function.Injective utf16 := fun _ _ h =>
  String.toList_injective (flatMap_codeUnits_injective h)

/-! ## The order of properties -/

/-- The array index a key spells. -/
def arrayIndex (key : String) : Option ℕ :=
  let n := Nat.ofDigitChars 10 key.toList 0
  if n < 4294967295 ∧ n.repr = key then some n else none

theorem arrayIndex_eq_some {key : String} {n : ℕ} (h : arrayIndex key = some n) : key = n.repr := by
  simp only [arrayIndex] at h
  split_ifs at h with hn
  cases h
  exact hn.2.symm

/-- Where a key stands among the properties of an object: array indices first. -/
def propertyRank (key : String) : ℕ ×ₗ ℕ ×ₗ List ℕ :=
  match arrayIndex key with
  | some n => toLex (0, toLex (n, []))
  | none => toLex (1, toLex (0, utf16 key))

theorem propertyRank_injective : Function.Injective propertyRank := by
  intro a b h
  unfold propertyRank at h
  cases ha : arrayIndex a with
  | some m =>
    cases hb : arrayIndex b with
    | some n =>
      simp only [ha, hb, EmbeddingLike.apply_eq_iff_eq, Prod.mk.injEq, and_true, true_and] at h
      rw [arrayIndex_eq_some ha, arrayIndex_eq_some hb, h]
    | none => simp [ha, hb] at h
  | none =>
    cases hb : arrayIndex b with
    | some n => simp [ha, hb] at h
    | none =>
      simp only [ha, hb, EmbeddingLike.apply_eq_iff_eq, Prod.mk.injEq, true_and] at h
      exact utf16_injective h

namespace Json

/-- The order of the entries of an object. -/
def EntryBefore (a b : String × Json) : Prop := propertyRank a.1 ≤ propertyRank b.1

instance : DecidableRel EntryBefore := fun a b => by
  unfold EntryBefore
  infer_instance

instance : Std.Total EntryBefore where
  total a b := le_total (propertyRank a.1) (propertyRank b.1)

instance : IsTrans (String × Json) EntryBefore where
  trans _ _ _ hab hbc := le_trans hab hbc

/-! ## The canonical form -/

mutual

/-- The value with the keys of its objects in order. Assigning to `__proto__` makes no property. -/
def canonical : Json → Json
  | null => .null
  | bool b => .bool b
  | num n => .num n
  | str s => .str s
  | arr items => .arr (canonicalItems items)
  | obj entries => .obj ((canonicalEntries entries).insertionSort EntryBefore)

def canonicalItems : List Json → List Json
  | [] => []
  | j :: js => canonical j :: canonicalItems js

def canonicalEntries : List (String × Json) → List (String × Json)
  | [] => []
  | (k, j) :: js =>
    if k = "__proto__" then canonicalEntries js else (k, canonical j) :: canonicalEntries js

end

theorem canonicalItems_append (l m : List Json) :
    canonicalItems (l ++ m) = canonicalItems l ++ canonicalItems m := by
  induction l with
  | nil => rfl
  | cons j l ih => rw [List.cons_append, canonicalItems, canonicalItems, ih, List.cons_append]

theorem canonicalEntries_eq (l : List (String × Json)) : canonicalEntries l =
    (l.filter fun e => decide (e.1 ≠ "__proto__")).map fun e => (e.1, canonical e.2) := by
  induction l with
  | nil => rfl
  | cons e l ih =>
    obtain ⟨k, j⟩ := e
    rw [canonicalEntries]
    by_cases hk : k = "__proto__"
    · rw [if_pos hk, List.filter_cons_of_neg (by simp [hk]), ih]
    · rw [if_neg hk, List.filter_cons_of_pos (by simp [hk]), List.map_cons, ih]

/-- One value, but for the order of keys at any depth. -/
inductive Reordered : Json → Json → Prop
  | refl (j : Json) : Reordered j j
  | trans {a b c : Json} (hab : Reordered a b) (hbc : Reordered b c) : Reordered a c
  | item {a b : Json} (before after : List Json) (h : Reordered a b) :
    Reordered (.arr (before ++ a :: after)) (.arr (before ++ b :: after))
  | entry {a b : Json} (before after : List (String × Json)) (key : String) (h : Reordered a b) :
    Reordered (.obj (before ++ (key, a) :: after)) (.obj (before ++ (key, b) :: after))
  | keys {l m : List (String × Json)} (hkeys : (l.map Prod.fst).Nodup) (h : l.Perm m) :
    Reordered (.obj l) (.obj m)

/-- **The canonical form does not see the order of keys.** -/
theorem canonical_eq_of_reordered {a b : Json} (h : Reordered a b) : canonical a = canonical b := by
  induction h with
  | refl j => rfl
  | trans _ _ ih ih' => exact ih.trans ih'
  | item before after _ ih =>
    simp only [canonical, canonicalItems_append, canonicalItems, ih]
  | entry before after key _ ih =>
    simp only [canonical, canonicalEntries_eq, List.filter_append, List.filter_cons,
      List.map_append]
    split_ifs
    · simp only [List.map_cons, ih]
    · rfl
  | @keys l m hkeys h =>
    simp only [canonical, canonicalEntries_eq]
    have hperm := (h.filter fun e => decide (e.1 ≠ "__proto__")).map fun e => (e.1, canonical e.2)
    refine congrArg Json.obj (insertionSort_eq_of_perm hperm fun x hx y hy hxy hyx => ?_)
    obtain ⟨d, hd, rfl⟩ := List.mem_map.mp hx
    obtain ⟨e, he, rfl⟩ := List.mem_map.mp hy
    have hkey : d.1 = e.1 := propertyRank_injective (le_antisymm hxy hyx)
    have hde : d = e := List.inj_on_of_nodup_map hkeys (List.mem_of_mem_filter hd)
      (List.mem_of_mem_filter he) hkey
    rw [hde]

end Json

end KarsHotel
