import Mathlib.Data.List.Nodup
import Mathlib.Algebra.Order.Ring.Int

/-!
# Pages by a cursor

A list in descending order of a key is read page by page: each page holds the first rows whose key
is below the cursor, and the cursor of the next one is the key of the last row of a full page.

* `page`, `walk`: one page, and the pages of a reader over the lists found at
  the successive requests;
* `walk_pairwise`: the rows come in order, and none twice;
* **`mem_walk_iff`**: the rows a complete walk misses are those behind a page that share the key of
  its last row;
* `walk_ends`: over an unchanged list the walk comes to its end.
-/

namespace KarsHotel

variable {α : Type}

/-- The rows of a page, and the cursor of the next one unless the page is the last. -/
structure Page (α : Type) where
  items : List α
  next : Option ℤ

section Paging

variable (key : α → ℤ) (n : ℕ)

/-- The rows below a cursor. -/
def beforeCursor (before : Option ℤ) (l : List α) : List α :=
  l.filter fun a => before.all fun b => decide (key a < b)

/-- At most `n` rows below the cursor. -/
def page (before : Option ℤ) (l : List α) : Page α :=
  let items := (beforeCursor key before l).take n
  ⟨items, if items.length = n then items.getLast?.map key else none⟩

/-- The pages of a reader that follows the cursor, `lists` being what the requests find. -/
def walk : List (List α) → Option ℤ → List (Page α)
  | [], _ => []
  | l :: ls, before =>
    let p := page key n before l
    p :: match p.next with
      | none => []
      | some b => walk ls (some b)

/-- The last page says that there is no next one. -/
def Ended (pages : List (Page α)) : Prop := ∃ p ∈ pages.getLast?, p.next = none

end Paging

variable {key : α → ℤ} {n : ℕ} {before : Option ℤ} {l : List α} {ls : List (List α)}

/-- Descending order of the key. -/
def Descending (key : α → ℤ) (l : List α) : Prop := l.Pairwise fun a b => key b ≤ key a

theorem mem_beforeCursor {a : α} :
    a ∈ beforeCursor key before l ↔ a ∈ l ∧ ∀ b ∈ before, key a < b := by
  cases before <;> simp [beforeCursor]

theorem mem_page {a : α} (h : a ∈ (page key n before l).items) : a ∈ l ∧ ∀ b ∈ before, key a < b :=
  mem_beforeCursor.mp (List.mem_of_mem_take h)

theorem page_next {b : ℤ} (h : (page key n before l).next = some b) :
    (page key n before l).items.length = n ∧
      ∃ a, (page key n before l).items.getLast? = some a ∧ key a = b := by
  simp only [page] at h ⊢
  split_ifs at h with hfull
  exact ⟨hfull, Option.map_eq_some_iff.mp h⟩

theorem Descending.beforeCursor (h : Descending key l) : Descending key (beforeCursor key before l) :=
  h.sublist List.filter_sublist

theorem Descending.page (h : Descending key l) : Descending key (page key n before l).items :=
  h.beforeCursor.sublist (List.take_sublist _ _)

theorem next_le (h : Descending key l) {b : ℤ} (hb : (page key n before l).next = some b) {a : α}
    (ha : a ∈ (page key n before l).items) : b ≤ key a := by
  obtain ⟨-, last, hlast, rfl⟩ := page_next hb
  obtain ⟨init, hinit⟩ := List.getLast?_eq_some_iff.mp hlast
  have hdesc : Descending key (init ++ [last]) := hinit ▸ h.page
  rw [hinit] at ha
  rcases List.mem_append.mp ha with ha | ha
  · exact (List.pairwise_append.mp hdesc).2.2 a ha last (List.mem_singleton.mpr rfl)
  · rw [List.mem_singleton.mp ha]

/-- A row below the cursor is on the page or not above its last row. -/
theorem mem_page_or_le (hn : 0 < n) (h : Descending key l) {a : α}
    (ha : a ∈ beforeCursor key before l) :
    a ∈ (page key n before l).items ∨ ∃ b, (page key n before l).next = some b ∧ key a ≤ b := by
  rw [← List.take_append_drop n (beforeCursor key before l)] at ha
  rcases List.mem_append.mp ha with ha | ha
  · exact Or.inl ha
  · have hlong : n < (beforeCursor key before l).length := by
      have := List.length_pos_of_mem ha
      rw [List.length_drop] at this
      omega
    have hfull : ((beforeCursor key before l).take n).length = n := by
      rw [List.length_take]
      omega
    have hne : (beforeCursor key before l).take n ≠ [] := by
      intro hnil
      rw [hnil] at hfull
      exact absurd hfull (by simp; omega)
    refine Or.inr ⟨key (List.getLast _ hne), ?_, ?_⟩
    · simp only [page, if_pos hfull, List.getLast?_eq_some_getLast hne, Option.map_some]
    · have hdesc : Descending key (beforeCursor key before l) := h.beforeCursor
      rw [← List.take_append_drop n (beforeCursor key before l)] at hdesc
      exact (List.pairwise_append.mp hdesc).2.2 _ (List.getLast_mem hne) a ha

theorem next_lt {b c : ℤ} (hc : (page key n before l).next = some c) (hb : before = some b) : c < b := by
  obtain ⟨-, a, ha, rfl⟩ := page_next hc
  exact (mem_page (List.mem_of_getLast? ha)).2 b hb

/-! ## Walks -/

/-- The pages of a walk lie below its cursor. -/
theorem mem_walk_lt {p : Page α} (hp : p ∈ walk key n ls before) :
    (∀ a ∈ p.items, ∀ b ∈ before, key a < b) ∧ ∀ c ∈ p.next, ∀ b ∈ before, c < b := by
  induction ls generalizing before with
  | nil => cases hp
  | cons l ls ih =>
    rcases List.mem_cons.mp hp with rfl | hp
    · exact ⟨fun a ha => (mem_page ha).2, fun c hc b hb => next_lt hc hb⟩
    · cases hnext : (page key n before l).next with
      | none => simp [hnext] at hp
      | some c =>
        simp only [hnext] at hp
        obtain ⟨hitems, hcursor⟩ := ih hp
        exact ⟨fun a ha b hb => (hitems a ha c rfl).trans (next_lt hnext hb),
          fun d hd b hb => (hcursor d hd c rfl).trans (next_lt hnext hb)⟩

/-- **The rows come in descending order, and none twice.** -/
theorem walk_pairwise (hls : ∀ l ∈ ls, Descending key l ∧ l.Nodup) :
    Descending key ((walk key n ls before).flatMap (·.items)) ∧
      ((walk key n ls before).flatMap (·.items)).Nodup := by
  induction ls generalizing before with
  | nil => exact ⟨List.Pairwise.nil, List.nodup_nil⟩
  | cons l ls ih =>
    obtain ⟨hdesc, hnodup⟩ := hls l List.mem_cons_self
    have hpage : (page key n before l).items.Nodup :=
      (hnodup.sublist List.filter_sublist).sublist (List.take_sublist _ _)
    simp only [walk, List.flatMap_cons]
    cases hnext : (page key n before l).next with
    | none => simpa [Descending] using ⟨hdesc.page, hpage⟩
    | some c =>
      obtain ⟨ihdesc, ihnodup⟩ := @ih (some c) fun l' hl' => hls l' (List.mem_cons_of_mem _ hl')
      have hbelow : ∀ a ∈ (page key n before l).items,
          ∀ a' ∈ (walk key n ls (some c)).flatMap (·.items), key a' < key a := by
        intro a ha a' ha'
        obtain ⟨p, hp, hap⟩ := List.mem_flatMap.mp ha'
        exact ((mem_walk_lt hp).1 a' hap c rfl).trans_le (next_le hdesc hnext ha)
      refine ⟨List.pairwise_append.mpr ⟨hdesc.page, ihdesc, fun a ha a' ha' => (hbelow a ha a' ha').le⟩,
        List.nodup_append.mpr ⟨hpage, ihnodup, fun a ha a' ha' heq => ?_⟩⟩
      exact absurd (heq ▸ hbelow a ha a' ha') (lt_irrefl _)

theorem mem_of_mem_walk {p : Page α} (hp : p ∈ walk key n ls before) {a : α} (ha : a ∈ p.items) :
    ∃ l ∈ ls, a ∈ l := by
  induction ls generalizing before with
  | nil => cases hp
  | cons l ls ih =>
    rcases List.mem_cons.mp hp with rfl | hp
    · exact ⟨l, List.mem_cons_self, (mem_page ha).1⟩
    · cases hnext : (page key n before l).next with
      | none => simp [hnext] at hp
      | some c =>
        simp only [hnext] at hp
        obtain ⟨l', hl', hal⟩ := ih hp
        exact ⟨l', List.mem_cons_of_mem _ hl', hal⟩

theorem Ended.tail {l : List α} {c : ℤ} (hnext : (page key n before l).next = some c)
    (h : Ended (walk key n (l :: ls) before)) : Ended (walk key n ls (some c)) := by
  obtain ⟨p, hp, hend⟩ := h
  simp only [walk, hnext, List.getLast?_cons] at hp
  cases hw : (walk key n ls (some c)).getLast? with
  | none =>
    rw [hw] at hp
    obtain rfl : page key n before l = p := by simpa using hp
    rw [hnext] at hend
    cases hend
  | some q =>
    rw [hw] at hp
    obtain rfl : q = p := by simpa using hp
    exact ⟨q, hw, hend⟩

/-- A row of every list that a walk shows nowhere has the key of the last row of a full page. -/
theorem mem_walk_or_tie (hn : 0 < n) (hls : ∀ l ∈ ls, Descending key l) {a : α} (ha : ∀ l ∈ ls, a ∈ l)
    (hbefore : ∀ b ∈ before, key a < b) (hended : Ended (walk key n ls before)) :
    (∃ p ∈ walk key n ls before, a ∈ p.items) ∨
      ∃ p ∈ walk key n ls before, a ∉ p.items ∧ p.next = some (key a) := by
  induction ls generalizing before with
  | nil =>
    obtain ⟨p, hp, -⟩ := hended
    cases hp
  | cons l ls ih =>
    have hmem : a ∈ beforeCursor key before l :=
      mem_beforeCursor.mpr ⟨ha l List.mem_cons_self, hbefore⟩
    by_cases hshown : a ∈ (page key n before l).items
    · exact Or.inl ⟨_, List.mem_cons_self, hshown⟩
    obtain ⟨c, hnext, hle⟩ :=
      (mem_page_or_le hn (hls l List.mem_cons_self) hmem).resolve_left hshown
    rcases hle.eq_or_lt with heq | hlt
    · exact Or.inr ⟨_, List.mem_cons_self, hshown, heq ▸ hnext⟩
    · have hrest := @ih (some c) (fun l' hl' => hls l' (List.mem_cons_of_mem _ hl'))
        (fun l' hl' => ha l' (List.mem_cons_of_mem _ hl')) (fun b hb => Option.some_inj.mp hb ▸ hlt)
        (hended.tail hnext)
      have htail : ∀ p ∈ walk key n ls (some c), p ∈ walk key n (l :: ls) before := by
        intro p hp
        simp only [walk, hnext]
        exact List.mem_cons_of_mem _ hp
      rcases hrest with ⟨p, hp, hap⟩ | ⟨p, hp, hap⟩
      · exact Or.inl ⟨p, htail p hp, hap⟩
      · exact Or.inr ⟨p, htail p hp, hap⟩

/-- A row that is on one page does not share its key with the last row of another. -/
theorem not_tie_of_mem_walk (hls : ∀ l ∈ ls, Descending key l) {a : α} {p q : Page α}
    (hp : p ∈ walk key n ls before) (ha : a ∈ p.items) (hq : q ∈ walk key n ls before)
    (haq : a ∉ q.items) : q.next ≠ some (key a) := by
  induction ls generalizing before with
  | nil => cases hp
  | cons l ls ih =>
    have hdesc := hls l List.mem_cons_self
    cases hnext : (page key n before l).next with
    | none =>
      simp only [walk, hnext, List.mem_singleton] at hp hq
      exact absurd ha (hp ▸ hq ▸ haq)
    | some c =>
      simp only [walk, hnext, List.mem_cons] at hp hq
      rcases hp with rfl | hp <;> rcases hq with rfl | hq
      · exact absurd ha haq
      · intro heq
        have hlt := (mem_walk_lt hq).2 _ heq c rfl
        exact absurd (next_le hdesc hnext ha) (not_le.mpr hlt)
      · intro heq
        rw [hnext] at heq
        have hlt := (mem_walk_lt hp).1 a ha c rfl
        exact absurd (Option.some_inj.mp heq) hlt.ne'
      · exact ih (fun l' hl' => hls l' (List.mem_cons_of_mem _ hl')) hp hq

/-- **What a walk misses.** Of the rows that are in every list, a walk that came to its end misses
exactly those behind a full page that share the key of its last row. -/
theorem mem_walk_iff (hn : 0 < n) (hls : ∀ l ∈ ls, Descending key l) {a : α} (ha : ∀ l ∈ ls, a ∈ l)
    (hbefore : ∀ b ∈ before, key a < b) (hended : Ended (walk key n ls before)) :
    (∃ p ∈ walk key n ls before, a ∈ p.items) ↔
      ∀ p ∈ walk key n ls before, a ∉ p.items → p.next ≠ some (key a) := by
  constructor
  · rintro ⟨p, hp, hap⟩ q hq haq
    exact not_tie_of_mem_walk hls hp hap hq haq
  · intro h
    refine (mem_walk_or_tie hn hls ha hbefore hended).resolve_right ?_
    rintro ⟨p, hp, hap, htie⟩
    exact h p hp hap htie

theorem beforeCursor_next (h : Descending key l) {c : ℤ} (hnext : (page key n before l).next = some c) :
    (beforeCursor key (some c) l).length + n ≤ (beforeCursor key before l).length := by
  have hsub : (beforeCursor key (some c) l).Sublist ((beforeCursor key before l).drop n) := by
    have hsame : beforeCursor key (some c) l = beforeCursor key (some c) (beforeCursor key before l) := by
      unfold beforeCursor
      rw [List.filter_filter]
      refine List.filter_congr fun a _ => ?_
      by_cases hac : key a < c
      · have hbefore : (before.all fun b => decide (key a < b)) = true := by
          rw [Option.all_eq_true]
          exact fun b hb => decide_eq_true (hac.trans (next_lt hnext hb))
        simp [hac, hbefore]
      · simp [hac]
    have hnone : beforeCursor key (some c) ((beforeCursor key before l).take n) = [] := by
      unfold beforeCursor
      rw [List.filter_eq_nil_iff]
      intro a ha
      have hle : c ≤ key a := next_le h hnext ha
      simpa using hle
    rw [hsame]
    nth_rewrite 1 [← List.take_append_drop n (beforeCursor key before l)]
    unfold beforeCursor at hnone ⊢
    rw [List.filter_append, hnone, List.nil_append]
    exact List.filter_sublist
  have hlen := hsub.length_le
  have hfull := (page_next hnext).1
  simp only [page, List.length_take] at hfull
  rw [List.length_drop] at hlen
  omega

/-- **Over an unchanged list a walk comes to its end**, after a request for each full page and one
more. -/
theorem walk_ends (h : Descending key l) {m : ℕ} (hm : (beforeCursor key before l).length < m * n) :
    Ended (walk key n (List.replicate m l) before) := by
  induction m generalizing before with
  | zero => simp at hm
  | succ m ih =>
    simp only [List.replicate_succ]
    cases hnext : (page key n before l).next with
    | none => exact ⟨page key n before l, by simp [walk, hnext], hnext⟩
    | some c =>
      have hless := beforeCursor_next h hnext
      obtain ⟨p, hp, hend⟩ := @ih (some c) (by rw [Nat.succ_mul] at hm; omega)
      refine ⟨p, ?_, hend⟩
      simp only [walk, hnext, List.getLast?_cons]
      rw [Option.mem_def.mp hp]
      rfl

end KarsHotel
