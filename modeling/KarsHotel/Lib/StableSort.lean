import Mathlib.Data.List.Sort

/-!
# Stable sorting

`Array.prototype.sort` with a comparator is stable: rows that compare equal keep their order. So is
`List.insertionSort`, whose relation `r a b` reads "`a` may stand before `b`".

* **`filter_insertionSort`**: sorting a part of a list is that part of the sorted list;
* **`insertionSort_eq_of_perm`**: where rows that compare equal are equal, the order of the input
  does not matter;
* **`insertionSort_map_perm_iff`**: and only there;
* `Leads`, **`head?_insertionSort_iff`**: which element a sorted list begins with;
* `tiesWith`, **`insertionSort_eq_iff`**: two lists are sorted into one list if they have the same
  elements, and those that compare equal in the same order.
-/

namespace KarsHotel

section StableSort

variable {α : Type} {r : α → α → Prop} [DecidableRel r]

theorem filter_orderedInsert_of_neg {p : α → Bool} {a : α} (ha : p a = false) (l : List α) :
    (l.orderedInsert r a).filter p = l.filter p := by
  induction l with
  | nil => simp [ha]
  | cons b l ih =>
    rw [List.orderedInsert_cons]
    split_ifs with hab
    · rw [List.filter_cons_of_neg (by simp [ha])]
    · rw [List.filter_cons, List.filter_cons, ih]

theorem filter_orderedInsert_of_pos [IsTrans α r] {p : α → Bool} {a : α} (ha : p a = true)
    {l : List α} (hl : l.Pairwise r) :
    (l.orderedInsert r a).filter p = (l.filter p).orderedInsert r a := by
  induction l with
  | nil => simp [ha]
  | cons b l ih =>
    obtain ⟨hb, hl⟩ := List.pairwise_cons.mp hl
    rw [List.orderedInsert_cons]
    split_ifs with hab
    · -- `a` stands before all of the list, so before all of its part
      have hall : ∀ c ∈ (b :: l).filter p, r a c := by
        intro c hc
        rcases List.mem_cons.mp (List.mem_filter.mp hc).1 with rfl | hcl
        · exact hab
        · exact trans_of r hab (hb c hcl)
      rw [List.filter_cons_of_pos ha]
      cases hf : (b :: l).filter p with
      | nil => rfl
      | cons c m =>
        have hc : r a c := hall c (hf ▸ List.mem_cons_self)
        rw [List.orderedInsert_cons_of_le r m hc]
    · by_cases hpb : p b = true
      · rw [List.filter_cons_of_pos hpb, List.filter_cons_of_pos hpb, ih hl,
          List.orderedInsert_of_not_le r _ hab]
      · rw [List.filter_cons_of_neg hpb, List.filter_cons_of_neg hpb, ih hl]

/-- **Sorting a part of a list is that part of the sorted list.** -/
theorem filter_insertionSort [Std.Total r] [IsTrans α r] (p : α → Bool) (l : List α) :
    (l.insertionSort r).filter p = (l.filter p).insertionSort r := by
  induction l with
  | nil => rfl
  | cons a l ih =>
    rw [List.insertionSort_cons]
    by_cases ha : p a = true
    · rw [filter_orderedInsert_of_pos ha (List.pairwise_insertionSort r l), ih,
        List.filter_cons_of_pos ha, List.insertionSort_cons]
    · rw [filter_orderedInsert_of_neg (eq_false_of_ne_true ha), ih, List.filter_cons_of_neg ha]

/-- **Where rows that compare equal are equal, the order of the input does not matter.** -/
theorem insertionSort_eq_of_perm [Std.Total r] [IsTrans α r] {l m : List α} (h : l.Perm m)
    (htie : ∀ a ∈ l, ∀ b ∈ l, r a b → r b a → a = b) :
    l.insertionSort r = m.insertionSort r := by
  have hperm : (l.insertionSort r).Perm (m.insertionSort r) :=
    (List.perm_insertionSort r l).trans (h.trans (List.perm_insertionSort r m).symm)
  refine hperm.eq_of_pairwise (fun a b ha hb hab hba => ?_) (List.pairwise_insertionSort r l)
    (List.pairwise_insertionSort r m)
  have ha' : a ∈ l := (List.mem_insertionSort r).mp ha
  have hb' : b ∈ l := h.mem_iff.mpr ((List.mem_insertionSort r).mp hb)
  exact htie a ha' b hb' hab hba

/-- Of the rows that compare equal to the first of the input, it stands first. -/
theorem head_ties_insertionSort [Std.Total r] [IsTrans α r] (a : α) (l : List α) :
    (((a :: l).insertionSort r).filter fun b => decide (r a b) && decide (r b a)).head? = some a := by
  have hrefl : r a a := (Std.Total.total a a).elim id id
  rw [filter_insertionSort, List.filter_cons_of_pos (by simp [hrefl])]
  have hties : (a :: l.filter fun b => decide (r a b) && decide (r b a)).Pairwise r := by
    refine List.pairwise_of_forall_mem_list fun b hb c hc => ?_
    have htie : ∀ d ∈ a :: l.filter fun b => decide (r a b) && decide (r b a), r a d ∧ r d a := by
      intro d hd
      rcases List.mem_cons.mp hd with rfl | hd
      · exact ⟨hrefl, hrefl⟩
      · simpa using (List.mem_filter.mp hd).2
    exact trans_of r (htie b hb).2 (htie c hc).1
  rw [hties.insertionSort_eq, List.head?_cons]

/-- **The sorted list does not depend on the order of the input** exactly when rows that compare
equal are equal. -/
theorem insertionSort_map_perm_iff {β : Type} [Std.Total r] [IsTrans α r] (f : β → α) (l : List β) :
    (∀ m, l.Perm m → (m.map f).insertionSort r = (l.map f).insertionSort r) ↔
      ∀ a ∈ l, ∀ b ∈ l, r (f a) (f b) → r (f b) (f a) → f a = f b := by
  constructor
  · intro h a ha b hb hab hba
    have hfront : ∀ c ∈ l, ∃ m, (l.map f).insertionSort r = (f c :: m).insertionSort r := by
      intro c hc
      obtain ⟨s, t, rfl⟩ := List.append_of_mem hc
      exact ⟨(s ++ t).map f, (h (c :: (s ++ t)) List.perm_middle).symm⟩
    obtain ⟨m, hm⟩ := hfront a ha
    obtain ⟨n, hn⟩ := hfront b hb
    have hsame : (fun c => decide (r (f a) c) && decide (r c (f a))) =
        fun c => decide (r (f b) c) && decide (r c (f b)) := by
      funext c
      have h₁ : r (f a) c ↔ r (f b) c := ⟨trans_of r hba, trans_of r hab⟩
      have h₂ : r c (f a) ↔ r c (f b) := ⟨fun h => trans_of r h hab, fun h => trans_of r h hba⟩
      simp only [h₁, h₂]
    have hheada := head_ties_insertionSort (r := r) (f a) m
    rw [← hm, hn, hsame, head_ties_insertionSort (r := r) (f b) n] at hheada
    exact (Option.some.inj hheada).symm
  · intro h m hm
    refine (insertionSort_eq_of_perm (hm.map f) fun x hx y hy hxy hyx => ?_).symm
    obtain ⟨a, ha, rfl⟩ := List.mem_map.mp hx
    obtain ⟨b, hb, rfl⟩ := List.mem_map.mp hy
    exact h a ha b hb hxy hyx

theorem head?_insertionSort_append [Std.Total r] [IsTrans α r] {l₁ l₂ : List α} {a : α}
    (h₁ : ∀ x ∈ l₁, ¬r x a) (h₂ : ∀ x ∈ l₂, r a x) :
    ((l₁ ++ a :: l₂).insertionSort r).head? = some a := by
  induction l₁ with
  | nil =>
    rw [List.nil_append, List.insertionSort_cons]
    cases hs : l₂.insertionSort r with
    | nil => rfl
    | cons c m =>
      have hc : c ∈ l₂ := (List.mem_insertionSort r).mp (hs ▸ List.mem_cons_self)
      rw [List.orderedInsert_cons_of_le r m (h₂ c hc)]
      rfl
  | cons b l₁ ih =>
    obtain ⟨hb, h₁⟩ := List.forall_mem_cons.mp h₁
    rw [List.cons_append, List.insertionSort_cons]
    cases hs : (l₁ ++ a :: l₂).insertionSort r with
    | nil => exact absurd (ih h₁) (by rw [hs]; simp)
    | cons c m =>
      have hc : c = a := by simpa [hs] using ih h₁
      rw [List.orderedInsert_of_not_le r m (hc ▸ hb), List.head?_cons, hc]

/-- The first of the least: no element stands before it that may not, and it may stand
before all. -/
def Leads (r : α → α → Prop) (l : List α) (a : α) : Prop :=
  ∃ l₁ l₂, l = l₁ ++ a :: l₂ ∧ (∀ x ∈ l₁, ¬r x a) ∧ ∀ x ∈ l₂, r a x

omit [DecidableRel r] in
theorem Leads.mem {l : List α} {a : α} (h : Leads r l a) : a ∈ l := by
  obtain ⟨l₁, l₂, rfl, -⟩ := h
  simp

omit [DecidableRel r] in
/-- What leads a list may stand before all of it. -/
theorem Leads.le [Std.Total r] {l : List α} {a b : α} (h : Leads r l a) (hb : b ∈ l) : r a b := by
  obtain ⟨l₁, l₂, rfl, h₁, h₂⟩ := h
  rcases List.mem_append.mp hb with hb | hb
  · exact (Std.Total.total a b).resolve_right (h₁ b hb)
  · rcases List.mem_cons.mp hb with rfl | hb
    · exact (Std.Total.total b b).elim id id
    · exact h₂ b hb

omit [DecidableRel r] in
theorem leads_head {l : List α} {a : α} (h : ∀ x ∈ l, r a x) : Leads r (a :: l) a :=
  ⟨[], l, rfl, by simp, h⟩

omit [DecidableRel r] in
theorem Leads.cons {l : List α} {a b : α} (h : Leads r l a) (hb : ¬r b a) : Leads r (b :: l) a := by
  obtain ⟨l₁, l₂, rfl, h₁, h₂⟩ := h
  refine ⟨b :: l₁, l₂, rfl, ?_, h₂⟩
  exact List.forall_mem_cons.mpr ⟨hb, h₁⟩

omit [DecidableRel r] in
theorem exists_leads [Std.Total r] [IsTrans α r] {l : List α} (hl : l ≠ []) : ∃ a, Leads r l a := by
  induction l with
  | nil => exact absurd rfl hl
  | cons b l ih =>
    by_cases hnil : l = []
    · exact ⟨b, leads_head (by simp [hnil])⟩
    · obtain ⟨c, hc⟩ := ih hnil
      by_cases hbc : r b c
      · exact ⟨b, leads_head fun x hx => trans_of r hbc (hc.le hx)⟩
      · exact ⟨c, hc.cons hbc⟩

/-- **A sorted list begins with the first of the least.** -/
theorem head?_insertionSort_iff [Std.Total r] [IsTrans α r] {l : List α} {a : α} :
    (l.insertionSort r).head? = some a ↔ Leads r l a := by
  have hback : ∀ b, Leads r l b → (l.insertionSort r).head? = some b := by
    intro b hb
    obtain ⟨l₁, l₂, rfl, h₁, h₂⟩ := hb
    exact head?_insertionSort_append h₁ h₂
  constructor
  · intro h
    have hl : l ≠ [] := by
      intro hl
      simp [hl] at h
    obtain ⟨b, hb⟩ := exists_leads (r := r) hl
    have hab : a = b := Option.some.inj (h.symm.trans (hback b hb))
    exact hab ▸ hb
  · exact hback a

theorem Leads.unique [Std.Total r] [IsTrans α r] {l : List α} {a b : α} (ha : Leads r l a)
    (hb : Leads r l b) : a = b :=
  Option.some.inj ((head?_insertionSort_iff.mpr ha).symm.trans (head?_insertionSort_iff.mpr hb))

/-! ## Two inputs sorted into one list -/

/-- The elements that compare equal to `a`. -/
def tiesWith (r : α → α → Prop) [DecidableRel r] (a b : α) : Bool := decide (r a b) && decide (r b a)

theorem tiesWith_iff {a b : α} : tiesWith r a b = true ↔ r a b ∧ r b a := by
  rw [tiesWith, Bool.and_eq_true, decide_eq_true_eq, decide_eq_true_eq]

/-- Sorting keeps elements that compare equal in their order. -/
theorem filter_tiesWith_insertionSort [Std.Total r] [IsTrans α r] (a : α) (l : List α) :
    (l.insertionSort r).filter (tiesWith r a) = l.filter (tiesWith r a) := by
  rw [filter_insertionSort]
  apply List.Pairwise.insertionSort_eq
  apply List.pairwise_of_forall_mem_list
  intro b hb c hc
  have hb' := tiesWith_iff.mp (List.mem_filter.mp hb).2
  have hc' := tiesWith_iff.mp (List.mem_filter.mp hc).2
  exact trans_of r hb'.2 hc'.1

/-- Sorted lists of the same elements are equal if elements that compare equal stand in
one order. -/
theorem eq_of_filter_tiesWith [Std.Total r] {l m : List α} (hl : l.Pairwise r) (hm : m.Pairwise r)
    (hperm : l.Perm m) (h : ∀ a, l.filter (tiesWith r a) = m.filter (tiesWith r a)) : l = m := by
  induction l generalizing m with
  | nil => exact (List.nil_perm.mp hperm).symm
  | cons a l ih =>
    cases m with
    | nil => exact absurd hperm.symm (List.nil_perm.not.mpr (List.cons_ne_nil a l))
    | cons b m =>
      have hrefl : ∀ c : α, r c c := fun c => (Std.Total.total c c).elim id id
      have hab : r a b := by
        rcases List.mem_cons.mp (hperm.mem_iff.mpr List.mem_cons_self : b ∈ a :: l) with rfl | hb
        · exact hrefl b
        · exact (List.pairwise_cons.mp hl).1 b hb
      have hba : r b a := by
        rcases List.mem_cons.mp (hperm.mem_iff.mp List.mem_cons_self : a ∈ b :: m) with rfl | ha
        · exact hrefl a
        · exact (List.pairwise_cons.mp hm).1 a ha
      have hhead := h a
      rw [List.filter_cons_of_pos (tiesWith_iff.mpr ⟨hrefl a, hrefl a⟩),
        List.filter_cons_of_pos (tiesWith_iff.mpr ⟨hab, hba⟩)] at hhead
      obtain ⟨rfl, -⟩ := List.cons.inj hhead
      rw [ih (List.pairwise_cons.mp hl).2 (List.pairwise_cons.mp hm).2 hperm.cons_inv]
      intro c
      have hc := h c
      by_cases htie : tiesWith r c a = true
      · rw [List.filter_cons_of_pos htie, List.filter_cons_of_pos htie] at hc
        exact (List.cons.inj hc).2
      · rwa [List.filter_cons_of_neg htie, List.filter_cons_of_neg htie] at hc

/-- **Two lists are sorted into one list** if they have the same elements, and those that compare
equal in the same order. -/
theorem insertionSort_eq_iff [Std.Total r] [IsTrans α r] {l m : List α} :
    l.insertionSort r = m.insertionSort r ↔
      l.Perm m ∧ ∀ a, l.filter (tiesWith r a) = m.filter (tiesWith r a) := by
  constructor
  · intro h
    constructor
    · exact (List.perm_insertionSort r l).symm.trans (h ▸ List.perm_insertionSort r m)
    · intro a
      rw [← filter_tiesWith_insertionSort a l, h, filter_tiesWith_insertionSort]
  · rintro ⟨hperm, hties⟩
    apply eq_of_filter_tiesWith (List.pairwise_insertionSort r l) (List.pairwise_insertionSort r m)
    · exact (List.perm_insertionSort r l).trans (hperm.trans (List.perm_insertionSort r m).symm)
    · intro a
      rw [filter_tiesWith_insertionSort, filter_tiesWith_insertionSort, hties a]

end StableSort

end KarsHotel
