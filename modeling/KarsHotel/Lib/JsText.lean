import Mathlib.Data.List.DropRight
import Mathlib.Algebra.GroupWithZero.Nat
import Mathlib.Tactic.Common

/-!
# Texts of a browser

Texts as their UTF-16 code units, and the operations on them that do not depend on a locale.

* `JsString`, `literal`; `isSpace`: what `\s` matches and `trim` takes off;
* `trim`, `lines`, `unixLines`, `collapseLines`: `trim()`, `split`, and the replacements of line
  breaks;
* `weight`: how many units are not white space, which neither of these changes.
-/

namespace KarsHotel

/-- A text: its UTF-16 code units. -/
abbrev JsString := List UInt16

/-- A literal of the source, whose characters are one code unit each. -/
def literal (s : String) : JsString := s.toList.map fun c => c.toNat.toUInt16

namespace JsText

def tab : UInt16 := 9
def newline : UInt16 := 10
def carriageReturn : UInt16 := 13
def space : UInt16 := 32
def noBreakSpace : UInt16 := 160

/-- `\s`, and what `trim` takes off. -/
def isSpace (u : UInt16) : Bool :=
  decide (9 ≤ u.toNat ∧ u.toNat ≤ 13 ∨ u.toNat = 32 ∨ u.toNat = 160 ∨ u.toNat = 0x1680 ∨
    0x2000 ≤ u.toNat ∧ u.toNat ≤ 0x200A ∨ u.toNat = 0x2028 ∨ u.toNat = 0x2029 ∨
    u.toNat = 0x202F ∨ u.toNat = 0x205F ∨ u.toNat = 0x3000 ∨ u.toNat = 0xFEFF)

/-- What `.` does not match. -/
def isLineEnd (u : UInt16) : Bool :=
  decide (u.toNat = 10 ∨ u.toNat = 13 ∨ u.toNat = 0x2028 ∨ u.toNat = 0x2029)

theorem isSpace_of_isLineEnd {u : UInt16} (h : isLineEnd u = true) : isSpace u = true := by
  simp only [isLineEnd, isSpace, decide_eq_true_eq] at h ⊢
  omega

/-- Take units off both ends. -/
def strip (front back : UInt16 → Bool) (s : JsString) : JsString :=
  (s.dropWhile front).rdropWhile back

def trim (s : JsString) : JsString := strip isSpace isSpace s

/-- `split('\n')`. -/
def lines (s : JsString) : List JsString := s.splitOn newline

/-- `join('\n')`. -/
def unlines (ls : List JsString) : JsString := [newline].intercalate ls

/-- `replace(/\r\n?/g, '\n')`, after a carriage return or not. -/
def unixFrom : Bool → JsString → JsString
  | _, [] => []
  | afterReturn, u :: s =>
    if u = carriageReturn then newline :: unixFrom true s
    else if afterReturn && u == newline then unixFrom false s
    else u :: unixFrom false s

def unixLines (s : JsString) : JsString := unixFrom false s

/-- `replace(/\n{3,}/g, '\n\n')`, after `k` line breaks. -/
def collapseFrom : ℕ → JsString → JsString
  | _, [] => []
  | k, u :: s =>
    if u = newline then
      if k < 2 then u :: collapseFrom (k + 1) s else collapseFrom (k + 1) s
    else u :: collapseFrom 0 s

def collapseLines (s : JsString) : JsString := collapseFrom 0 s

/-! ## Ends -/

/-- No white space at either end. -/
structure Trimmed (s : JsString) : Prop where
  front : ∀ u ∈ s.head?, isSpace u = false
  back : ∀ u ∈ s.getLast?, isSpace u = false

section Ends

variable {p q : UInt16 → Bool} {s : JsString}

theorem dropWhile_eq_self (h : ∀ u ∈ s.head?, p u = false) : s.dropWhile p = s := by
  cases s with
  | nil => rfl
  | cons u s => rw [List.dropWhile_cons_of_neg (by simpa using h)]

theorem rdropWhile_eq_self (h : ∀ u ∈ s.getLast?, p u = false) : s.rdropWhile p = s := by
  rw [List.rdropWhile_eq_self_iff]
  intro hne
  simpa using h _ (List.getLast?_eq_some_getLast hne)

theorem strip_eq_self (hf : ∀ u ∈ s.head?, p u = false) (hb : ∀ u ∈ s.getLast?, q u = false) :
    strip p q s = s := by
  rw [strip, dropWhile_eq_self hf, rdropWhile_eq_self hb]

theorem Trimmed.trim_eq (h : Trimmed s) : trim s = s := strip_eq_self h.front h.back

theorem head?_dropWhile (s : JsString) : ∀ u ∈ (s.dropWhile p).head?, p u = false := by
  induction s with
  | nil => simp
  | cons u s ih =>
    by_cases hu : p u = true
    · rwa [List.dropWhile_cons_of_pos hu]
    · rw [List.dropWhile_cons_of_neg hu]
      simpa using hu

theorem getLast?_rdropWhile (s : JsString) : ∀ u ∈ (s.rdropWhile p).getLast?, p u = false := by
  intro u hu
  rw [List.rdropWhile, List.getLast?_reverse] at hu
  exact head?_dropWhile _ u hu

theorem head?_rdropWhile (s : JsString) : ∀ u ∈ (s.rdropWhile p).head?, u ∈ s.head? := by
  intro u hu
  obtain ⟨t, ht⟩ := List.rdropWhile_prefix p (l := s)
  rw [← ht]
  cases hs : s.rdropWhile p with
  | nil => simp [hs] at hu
  | cons v w => simpa [hs] using hu

theorem trimmed_trim (s : JsString) : Trimmed (trim s) where
  front u hu := head?_dropWhile s u (head?_rdropWhile _ u hu)
  back := getLast?_rdropWhile _

theorem mem_of_mem_strip {u : UInt16} (h : u ∈ strip p q s) : u ∈ s :=
  (List.dropWhile_suffix p).subset ((List.rdropWhile_prefix q _).subset h)

theorem rdropWhile_append {t : JsString} (h : t.rdropWhile p ≠ []) :
    (s ++ t).rdropWhile p = s ++ t.rdropWhile p := by
  have hne : t.reverse.dropWhile p ≠ [] := by
    intro hnil
    exact h (by rw [List.rdropWhile, hnil, List.reverse_nil])
  rw [List.rdropWhile, List.reverse_append, List.dropWhile_append, if_neg (by simpa using hne),
    List.reverse_append, List.reverse_reverse, ← List.rdropWhile]

theorem rdropWhile_append_of_all {t : JsString} (h : ∀ u ∈ t, p u = true) :
    (s ++ t).rdropWhile p = s.rdropWhile p := by
  have hnil : t.reverse.dropWhile p = [] :=
    List.dropWhile_eq_nil_iff.mpr fun u hu => h u (List.mem_reverse.mp hu)
  rw [List.rdropWhile, List.reverse_append, List.dropWhile_append, if_pos (by simp [hnil]),
    ← List.rdropWhile]

end Ends

/-! ## Weight -/

/-- How many units are not white space. -/
def weight (s : JsString) : ℕ := s.countP fun u => !isSpace u

section Weight

variable {p q : UInt16 → Bool} {s : JsString}

theorem weight_append (s t : JsString) : weight (s ++ t) = weight s + weight t :=
  List.countP_append

theorem weight_eq_zero (h : ∀ u ∈ s, isSpace u = true) : weight s = 0 := by
  rw [weight, List.countP_eq_zero]
  simpa using h

theorem weight_strip (hp : ∀ u, p u = true → isSpace u = true)
    (hq : ∀ u, q u = true → isSpace u = true) (s : JsString) :
    weight (strip p q s) = weight s := by
  have hfront : weight (s.dropWhile p) = weight s := by
    conv_rhs => rw [← List.takeWhile_append_dropWhile (p := p) (l := s)]
    rw [weight_append, weight_eq_zero fun u hu => hp u (List.mem_takeWhile_imp hu), Nat.zero_add]
  have hback : ∀ t : JsString, weight (t.rdropWhile q) = weight t := by
    intro t
    conv_rhs => rw [← List.rdropWhile_append_rtakeWhile (p := q) (l := t)]
    rw [weight_append, weight_eq_zero fun u hu => hq u (List.mem_rtakeWhile_imp hu), Nat.add_zero]
  rw [strip, hback, hfront]

theorem weight_collapseFrom (k : ℕ) (s : JsString) : weight (collapseFrom k s) = weight s := by
  induction s generalizing k with
  | nil => rfl
  | cons u s ih =>
    unfold collapseFrom
    have hcons : ∀ t, weight (u :: t) = weight [u] + weight t := fun t => weight_append [u] t
    by_cases hu : u = newline
    · rw [if_pos hu]
      have hzero : weight [u] = 0 := by
        rw [hu]
        decide
      split_ifs
      · rw [hcons, ih, ← hcons]
      · rw [ih, hcons, hzero, Nat.zero_add]
    · rw [if_neg hu, hcons, ih, ← hcons]

theorem weight_unlines (ls : List JsString) : weight (unlines ls) = (ls.map weight).sum := by
  induction ls with
  | nil => rfl
  | cons l ls ih =>
    cases ls with
    | nil => simp [unlines]
    | cons l' ls =>
      have hbreak : weight [newline] = 0 := by decide
      rw [unlines, List.intercalate_cons_cons, weight_append, weight_append, ← unlines, ih, hbreak,
        Nat.add_zero]
      rfl

theorem weight_lines (s : JsString) : ((lines s).map weight).sum = weight s := by
  rw [← weight_unlines, unlines, lines, List.intercalate_splitOn]

end Weight

/-! ## Lines -/

section Lines

variable {s : JsString}

theorem unlines_lines (s : JsString) : unlines (lines s) = s := List.intercalate_splitOn _

theorem lines_unlines {ls : List JsString} (h : ∀ l ∈ ls, newline ∉ l) (hne : ls ≠ []) :
    lines (unlines ls) = ls := List.splitOn_intercalate _ h hne

theorem lines_newline (s : JsString) : lines (newline :: s) = [] :: lines s := by
  rw [lines, List.splitOn_cons_eq_if_modifyHead, if_pos (beq_self_eq_true newline), ← lines]

theorem lines_append_newline (s t : JsString) :
    lines (s ++ newline :: t) = lines s ++ lines t := List.splitOn_append_cons_self _ _

theorem lines_cons {u : UInt16} (hu : u ≠ newline) (s : JsString) :
    ∃ l ls, lines s = l :: ls ∧ lines (u :: s) = (u :: l) :: ls := by
  cases hs : lines s with
  | nil => exact absurd hs (List.splitOn_ne_nil _ _)
  | cons l ls =>
    refine ⟨l, ls, rfl, ?_⟩
    rw [lines, List.splitOn_cons_eq_if_modifyHead, if_neg (by simpa using hu), ← lines, hs]
    rfl

theorem newline_not_mem_lines {l : JsString} (h : l ∈ lines s) : newline ∉ l := by
  induction s generalizing l with
  | nil => simp [lines] at h; simp [h]
  | cons u s ih =>
    by_cases hu : u = newline
    · rw [hu, lines_newline] at h
      rcases List.mem_cons.mp h with rfl | h
      · simp
      · exact ih h
    · obtain ⟨l', ls, hs, hus⟩ := lines_cons hu s
      rw [hus] at h
      rcases List.mem_cons.mp h with rfl | h
      · have hl' : newline ∉ l' := ih (by simp [hs])
        simp [hl', Ne.symm hu]
      · exact ih (by simp [hs, h])

def fullLines (s : JsString) : List JsString := (lines s).filter fun l => !l.isEmpty

theorem fullLines_newline (s : JsString) : fullLines (newline :: s) = fullLines s := by
  rw [fullLines, lines_newline]
  rfl

theorem mem_of_fullLines_eq {t l : JsString} (h : fullLines s = fullLines t) (hl : l ∈ lines s) :
    l = [] ∨ l ∈ lines t := by
  by_cases hne : l = []
  · exact Or.inl hne
  · have hfull : l ∈ fullLines s := List.mem_filter.mpr ⟨hl, by simpa using hne⟩
    rw [h] at hfull
    exact Or.inr (List.mem_filter.mp hfull).1

/-- Collapsing keeps the first line and the lines that are not empty. -/
theorem fullLines_collapseFrom (k : ℕ) (s : JsString) :
    fullLines (collapseFrom k s) = fullLines s ∧
      (k < 2 → (lines (collapseFrom k s)).head? = (lines s).head?) := by
  induction s generalizing k with
  | nil => exact ⟨rfl, fun _ => rfl⟩
  | cons u s ih =>
    unfold collapseFrom
    by_cases hu : u = newline
    · rw [if_pos hu, hu, lines_newline, fullLines_newline]
      by_cases hk : k < 2
      · rw [if_pos hk, lines_newline, fullLines_newline]
        exact ⟨(ih (k + 1)).1, fun _ => rfl⟩
      · rw [if_neg hk]
        exact ⟨(ih (k + 1)).1, fun h => absurd h hk⟩
    · rw [if_neg hu]
      obtain ⟨hfull, hhead⟩ := ih 0
      have hhead := hhead (by omega)
      obtain ⟨l₁, ls₁, hc, huc⟩ := lines_cons hu (collapseFrom 0 s)
      obtain ⟨l₂, ls₂, hs, hus⟩ := lines_cons hu s
      rw [hc, hs] at hhead
      have hl : l₁ = l₂ := by simpa using hhead
      subst hl
      have htail : ls₁.filter (fun l => !l.isEmpty) = ls₂.filter fun l => !l.isEmpty := by
        rw [fullLines, fullLines, hc, hs, List.filter_cons, List.filter_cons] at hfull
        split_ifs at hfull
        · exact (List.cons.inj hfull).2
        · exact hfull
      rw [fullLines, fullLines, huc, hus]
      refine ⟨?_, fun _ => rfl⟩
      rw [List.filter_cons, List.filter_cons, htail]

theorem ends_unlines {ls : List JsString} (h : ∀ l ∈ ls, Trimmed l) :
    (∀ u ∈ (unlines ls).head?, isSpace u = true → u = newline) ∧
      ∀ u ∈ (unlines ls).getLast?, isSpace u = true → u = newline := by
  induction ls with
  | nil => simp [unlines]
  | cons l ls ih =>
    have hl := h l List.mem_cons_self
    cases ls with
    | nil =>
      have hsingle : unlines [l] = l := by simp [unlines]
      rw [hsingle]
      constructor
      · intro u hu hspace
        rw [hl.front u hu] at hspace
        cases hspace
      · intro u hu hspace
        rw [hl.back u hu] at hspace
        cases hspace
    | cons l' ls =>
      have hcons : unlines (l :: l' :: ls) = l ++ newline :: unlines (l' :: ls) := by
        rw [unlines, List.intercalate_cons_cons, ← unlines, List.append_assoc]
        rfl
      have ih := ih fun m hm => h m (List.mem_cons_of_mem _ hm)
      rw [hcons]
      constructor
      · intro u hu hspace
        cases l with
        | nil =>
          simp only [List.nil_append, List.head?_cons, Option.mem_def, Option.some.injEq] at hu
          exact hu.symm
        | cons v l =>
          have hv := hl.front v rfl
          simp only [List.cons_append, List.head?_cons, Option.mem_def, Option.some.injEq] at hu
          rw [← hu, hv] at hspace
          cases hspace
      · intro u hu hspace
        rw [List.getLast?_append, List.getLast?_cons] at hu
        simp only [Option.mem_def, Option.some_or, Option.some.injEq] at hu
        cases hlast : (unlines (l' :: ls)).getLast? with
        | none =>
          rw [hlast] at hu
          exact hu.symm
        | some v =>
          rw [hlast] at hu
          have hv : v = u := hu
          exact hv ▸ ih.2 v hlast (hv ▸ hspace)

theorem fullLines_dropWhile (h : ∀ l ∈ lines s, Trimmed l) :
    fullLines (s.dropWhile isSpace) = fullLines s := by
  induction s with
  | nil => rfl
  | cons u s ih =>
    by_cases hu : isSpace u = true
    · have hnew : u = newline := by
        have hends := (ends_unlines h).1
        rw [unlines_lines] at hends
        exact hends u rfl hu
      rw [List.dropWhile_cons_of_pos hu]
      rw [hnew, lines_newline] at h
      rw [hnew, fullLines_newline]
      exact ih fun m hm => h m (List.mem_cons_of_mem _ hm)
    · rw [List.dropWhile_cons_of_neg hu]

theorem fullLines_rdropWhile (h : ∀ l ∈ lines s, Trimmed l) :
    fullLines (s.rdropWhile isSpace) = fullLines s := by
  induction s using List.reverseRecOn with
  | nil => rfl
  | append_singleton s u ih =>
    by_cases hu : isSpace u = true
    · have hnew : u = newline := by
        have hends := (ends_unlines h).2
        rw [unlines_lines] at hends
        exact hends u (by simp) hu
      rw [List.rdropWhile_concat_pos _ _ _ hu]
      rw [hnew, lines_append_newline] at h
      rw [ih fun m hm => h m (List.mem_append_left _ hm), hnew, fullLines, fullLines,
        lines_append_newline, List.filter_append]
      exact (List.append_nil _).symm
    · rw [List.rdropWhile_concat_neg _ _ _ hu]

/-- Trimming a text of trimmed lines drops empty lines. -/
theorem fullLines_trim (h : ∀ l ∈ lines s, Trimmed l) : fullLines (trim s) = fullLines s := by
  have hfront := fullLines_dropWhile h
  have htrimmed : ∀ l ∈ lines (s.dropWhile isSpace), Trimmed l := by
    intro l hl
    rcases mem_of_fullLines_eq hfront hl with rfl | hl
    · exact ⟨by simp, by simp⟩
    · exact h l hl
  exact (fullLines_rdropWhile htrimmed).trans hfront

theorem mem_unlines {ls : List JsString} {u : UInt16} (h : u ∈ unlines ls) :
    u = newline ∨ ∃ l ∈ ls, u ∈ l := by
  induction ls with
  | nil => simp [unlines] at h
  | cons l ls ih =>
    cases ls with
    | nil => exact Or.inr ⟨l, List.mem_cons_self, by simpa [unlines] using h⟩
    | cons l' ls =>
      rw [unlines, List.intercalate_cons_cons, ← unlines] at h
      rcases List.mem_append.mp h with h | h
      · rcases List.mem_append.mp h with h | h
        · exact Or.inr ⟨l, List.mem_cons_self, h⟩
        · exact Or.inl (List.mem_singleton.mp h)
      · rcases ih h with h | ⟨m, hm, hu⟩
        · exact Or.inl h
        · exact Or.inr ⟨m, List.mem_cons_of_mem _ hm, hu⟩

theorem mem_unlines_of_mem {ls : List JsString} {l : JsString} (hl : l ∈ ls) {u : UInt16}
    (hu : u ∈ l) : u ∈ unlines ls := by
  induction ls with
  | nil => cases hl
  | cons m ls ih =>
    cases ls with
    | nil =>
      rw [List.mem_singleton.mp hl] at hu
      simpa [unlines] using hu
    | cons m' ls =>
      rw [unlines, List.intercalate_cons_cons, ← unlines, List.mem_append, List.mem_append]
      rcases List.mem_cons.mp hl with rfl | hl
      · exact Or.inl (Or.inl hu)
      · exact Or.inr (ih hl)

theorem mem_of_mem_lines {l : JsString} (hl : l ∈ lines s) {u : UInt16} (hu : u ∈ l) : u ∈ s := by
  rw [← unlines_lines s]
  exact mem_unlines_of_mem hl hu

/-- Trimmed, and nothing but white space. -/
theorem Trimmed.eq_nil (h : Trimmed s) (hspace : ∀ u ∈ s, isSpace u = true) : s = [] := by
  cases s with
  | nil => rfl
  | cons u s =>
    have hu := hspace u List.mem_cons_self
    rw [h.front u rfl] at hu
    cases hu

end Lines

/-! ## Line breaks -/

section Breaks

variable {s t : JsString}

theorem unixFrom_eq (h : carriageReturn ∉ s) : unixFrom false s = s := by
  induction s with
  | nil => rfl
  | cons u s ih =>
    have hu : u ≠ carriageReturn := fun hu => h (hu ▸ List.mem_cons_self)
    rw [unixFrom, if_neg hu, Bool.false_and, if_neg Bool.false_ne_true,
      ih fun hs => h (List.mem_cons_of_mem _ hs)]

theorem carriageReturn_not_mem_unixFrom (b : Bool) (s : JsString) :
    carriageReturn ∉ unixFrom b s := by
  induction s generalizing b with
  | nil => simp [unixFrom]
  | cons u s ih =>
    rw [unixFrom]
    split_ifs with hu hnew
    · rw [List.mem_cons, not_or]
      exact ⟨by decide, ih true⟩
    · exact ih false
    · rw [List.mem_cons, not_or]
      exact ⟨Ne.symm hu, ih false⟩

theorem isSpace_unixFrom {b : Bool} (h : ∀ u ∈ s, isSpace u = true) :
    ∀ u ∈ unixFrom b s, isSpace u = true := by
  induction s generalizing b with
  | nil => exact h
  | cons v s ih =>
    have ih := fun b => ih (b := b) fun u hu => h u (List.mem_cons_of_mem _ hu)
    rw [unixFrom]
    split_ifs
    · intro u hu
      rcases List.mem_cons.mp hu with rfl | hu
      · decide
      · exact ih true u hu
    · exact ih false
    · intro u hu
      rcases List.mem_cons.mp hu with rfl | hu
      · exact h u List.mem_cons_self
      · exact ih false u hu

theorem mem_collapseFrom {u : UInt16} {k : ℕ} (h : u ∈ collapseFrom k s) : u ∈ s := by
  induction s generalizing k with
  | nil => exact h
  | cons v s ih =>
    rw [collapseFrom] at h
    split_ifs at h
    · rcases List.mem_cons.mp h with h | h
      · exact h ▸ List.mem_cons_self
      · exact List.mem_cons_of_mem _ (ih h)
    · exact List.mem_cons_of_mem _ (ih h)
    · rcases List.mem_cons.mp h with h | h
      · exact h ▸ List.mem_cons_self
      · exact List.mem_cons_of_mem _ (ih h)

theorem length_collapseFrom (k : ℕ) (s : JsString) : (collapseFrom k s).length ≤ s.length := by
  induction s generalizing k with
  | nil => simp [collapseFrom]
  | cons u s ih =>
    have hbreak := ih (k + 1)
    have hother := ih 0
    rw [collapseFrom]
    split_ifs <;> simp only [List.length_cons] <;> omega

/-- A collapsed text is collapsed after fewer line breaks too. -/
theorem collapseFrom_mono {j k : ℕ} (h : collapseFrom k s = s) (hjk : j ≤ k) :
    collapseFrom j s = s := by
  induction s generalizing j k with
  | nil => rfl
  | cons u s ih =>
    rw [collapseFrom] at h ⊢
    by_cases hu : u = newline
    · rw [if_pos hu] at h ⊢
      by_cases hk : k < 2
      · rw [if_pos hk] at h
        rw [if_pos (by omega), ih (List.cons.inj h).2 (by omega)]
      · rw [if_neg hk] at h
        have hlen := length_collapseFrom (k + 1) s
        rw [h, List.length_cons] at hlen
        omega
    · rw [if_neg hu] at h ⊢
      exact h

theorem collapseFrom_idem (k : ℕ) (s : JsString) :
    collapseFrom k (collapseFrom k s) = collapseFrom k s := by
  induction s generalizing k with
  | nil => rfl
  | cons u s ih =>
    conv_lhs => rw [collapseFrom]
    conv_rhs => rw [collapseFrom]
    by_cases hu : u = newline
    · rw [if_pos hu]
      by_cases hk : k < 2
      · rw [if_pos hk, collapseFrom, if_pos hu, if_pos hk, ih]
      · rw [if_neg hk]
        exact collapseFrom_mono (ih (k + 1)) (Nat.le_succ k)
    · rw [if_neg hu, collapseFrom, if_neg hu, ih]

theorem collapseFrom_append (k : ℕ) (s t : JsString) :
    ∃ j, collapseFrom k (s ++ t) = collapseFrom k s ++ collapseFrom j t := by
  induction s generalizing k with
  | nil => exact ⟨k, rfl⟩
  | cons u s ih =>
    obtain ⟨i, hi⟩ := ih (k + 1)
    obtain ⟨j, hj⟩ := ih 0
    rw [List.cons_append, collapseFrom, collapseFrom]
    split_ifs
    · exact ⟨i, by rw [hi, List.cons_append]⟩
    · exact ⟨i, hi⟩
    · exact ⟨j, by rw [hj, List.cons_append]⟩

/-- Both parts of a collapsed text are collapsed. -/
theorem collapse_parts (h : collapseLines (s ++ t) = s ++ t) :
    collapseLines s = s ∧ collapseLines t = t := by
  obtain ⟨j, hj⟩ := collapseFrom_append 0 s t
  have hs := length_collapseFrom 0 s
  have ht := length_collapseFrom j t
  have hsum := congrArg List.length (hj.symm.trans h)
  rw [List.length_append, List.length_append] at hsum
  obtain ⟨hleft, hright⟩ := List.append_inj (hj.symm.trans h) (by omega)
  exact ⟨hleft, collapseFrom_mono hright (Nat.zero_le j)⟩

theorem collapseLines_trim (s : JsString) :
    collapseLines (trim (collapseLines s)) = trim (collapseLines s) := by
  obtain ⟨a, ha⟩ := List.dropWhile_suffix isSpace (l := collapseLines s)
  obtain ⟨b, hb⟩ := List.rdropWhile_prefix isSpace ((collapseLines s).dropWhile isSpace)
  have hall : collapseLines (a ++ (trim (collapseLines s) ++ b)) =
      a ++ (trim (collapseLines s) ++ b) := by
    rw [trim, strip, hb, ha]
    exact collapseFrom_idem 0 s
  exact (collapse_parts (collapse_parts hall).2).1

end Breaks

end JsText

end KarsHotel
