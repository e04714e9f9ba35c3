import KarsHotel.Frontend.HotelAbout
import Mathlib.Data.List.Chain

/-!
# The pieces of a value

What `tokenize` cuts, and that what is left of a value is cut the same way again.

* `PieceText`, `Separates`: the text of a piece, and what may follow it;
* `PieceRow`: a text is a row of pieces; **`PieceRow.tokenize`**: then `tokenize` gives them;
* `Cut`: pieces some of which were taken out; **`Scanning.cut_filter`**: those that are left of a
  value are cut so;
* `PieceRow.join`, `PieceRow.capitalize`: rows of pieces joined, and with a capital letter.
-/

namespace KarsHotel

open JsText

structure PieceText (w : JsString) : Prop where
  ne : w ≠ []
  front : ∀ u ∈ w.head?, isSpace u = false
  plain : ∀ u ∈ w, isComma u = false ∧ u ≠ newline
  noStop : w.IsChain fun u v => ¬(u = stop ∧ isSpace v = true)

/-- What may follow the text `w` of a piece. -/
inductive Separates (w : JsString) : JsString → Prop where
  | comma (a : JsString) (c : UInt16) (b : JsString) (ha : ∀ u ∈ a, isSpace u = true)
      (hc : isComma c = true) (hb : ∀ u ∈ b, isSpace u = true)
      (hw : ∀ u ∈ w.getLast?, isSpace u = false) (hs : a ≠ [] → ∀ u ∈ w.getLast?, u ≠ stop) :
      Separates w (a ++ c :: b)
  | stop (a : JsString) (ha : ∀ u ∈ a, isSpace u = true) (hne : a ≠ []) :
      Separates w (KarsHotel.stop :: a)

theorem Separates.ne_nil {w sep : JsString} (h : Separates w sep) : sep ≠ [] := by
  cases h <;> simp

theorem isComma_space {u : UInt16} (h : isComma u = true) : isSpace u = false := by
  rcases (by simpa [isComma] using h : u = 0x2C ∨ u = 0x3B) with rfl | rfl <;> decide

/-! ## Separators -/

section Separators

variable {w s r sep : JsString} {u : UInt16}

theorem takeWhile_append_cons {p : UInt16 → Bool} {a : JsString} (ha : ∀ u ∈ a, p u = true)
    (hr : ∀ u ∈ r.head?, p u = false) : (a ++ r).takeWhile p = a ∧ (a ++ r).dropWhile p = r := by
  induction a with
  | nil =>
    cases r with
    | nil => exact ⟨rfl, rfl⟩
    | cons v r =>
      have hv : ¬p v = true := by simpa using hr v rfl
      exact ⟨List.takeWhile_cons_of_neg hv, List.dropWhile_cons_of_neg hv⟩
  | cons v a ih =>
    have hv := ha v List.mem_cons_self
    have ih := ih fun u hu => ha u (List.mem_cons_of_mem _ hu)
    rw [List.cons_append, List.takeWhile_cons_of_pos hv, List.dropWhile_cons_of_pos hv]
    exact ⟨congrArg _ ih.1, ih.2⟩

theorem Separates.separatorAt (hs : Separates w sep) (hr : ∀ u ∈ r.head?, isSpace u = false) :
    separatorAt (sep ++ r) = some sep := by
  cases hs with
  | comma a c b ha hc hb hw hstop =>
    have hcr := takeWhile_append_cons (r := c :: (b ++ r)) ha (by
      intro u hu
      simp only [List.head?_cons, Option.mem_def, Option.some.injEq] at hu
      exact hu ▸ isComma_space hc)
    have hbr := takeWhile_append_cons hb hr
    rw [List.append_assoc, List.cons_append, KarsHotel.separatorAt, hcr.2, hcr.1]
    simp only [hc, if_true, hbr.1]
  | stop a ha hne =>
    have har := takeWhile_append_cons ha hr
    rw [List.cons_append, KarsHotel.separatorAt, List.dropWhile_cons_of_neg (by decide)]
    have hcomma : ¬isComma KarsHotel.stop = true := by decide
    simp only [if_neg hcomma, stopAt, har.1]
    exact if_pos ⟨trivial, hne⟩

/-- No separator starts at the end of the text `w`, when `s` comes after it. -/
structure Follows (w s : JsString) : Prop where
  space : ∀ u ∈ w.getLast?, isSpace u = true →
    ∀ v ∈ (s.dropWhile isSpace).head?, isComma v = false
  dot : ∀ u ∈ w.getLast?, u = stop → ∀ v ∈ s.head?, isSpace v = false

theorem follows_nil (w : JsString) : Follows w [] := ⟨by simp, by simp⟩

theorem Separates.follows (h : Separates w sep) (r : JsString) : Follows w (sep ++ r) := by
  cases h with
  | comma a c b ha hc hb hw hs =>
    refine ⟨fun u hu hspace => ?_, fun u hu hstop => ?_⟩
    · rw [hw u hu] at hspace
      cases hspace
    · cases a with
      | nil =>
        intro v hv
        simp only [List.nil_append, List.cons_append, List.head?_cons, Option.mem_def,
          Option.some.injEq] at hv
        exact hv ▸ isComma_space hc
      | cons v a => exact absurd hstop (hs (List.cons_ne_nil _ _) u hu)
  | stop a ha hne =>
    have hstop : isSpace KarsHotel.stop = false := by decide
    refine ⟨fun _ _ _ v hv => ?_, fun _ _ _ v hv => ?_⟩
    · rw [List.cons_append, List.dropWhile_cons_of_neg (by simp [hstop])] at hv
      simp only [List.head?_cons, Option.mem_def, Option.some.injEq] at hv
      exact hv ▸ by decide
    · simp only [List.cons_append, List.head?_cons, Option.mem_def, Option.some.injEq] at hv
      exact hv ▸ hstop

theorem separatorAt_eq_none (hcomma : isComma u = false) (hline : u ≠ newline)
    (h : Follows [u] s) : separatorAt (u :: s) = none := by
  have hat : stopAt (u :: s) = none := by
    rw [stopAt, if_neg, if_neg hline]
    rintro ⟨hu, htake⟩
    apply htake
    cases s with
    | nil => rfl
    | cons v s => exact List.takeWhile_cons_of_neg (by simpa using h.dot u rfl hu v rfl)
  unfold separatorAt
  by_cases hu : isSpace u = true
  · rw [List.dropWhile_cons_of_pos hu]
    cases hd : s.dropWhile isSpace with
    | nil => exact hat
    | cons v t =>
      have hv := h.space u rfl hu v (by rw [hd]; rfl)
      simp only [hv, Bool.false_eq_true, if_false]
      exact hat
  · rw [List.dropWhile_cons_of_neg hu]
    simp only [hcomma, Bool.false_eq_true, if_false]
    exact hat

theorem of_separatorAt_eq_none (h : separatorAt (u :: s) = none) :
    isComma u = false ∧ Follows [u] s := by
  unfold separatorAt at h
  have hcomma : isComma u = false := by
    by_contra hc
    have hc : isComma u = true := by simpa using hc
    have hspace : ¬isSpace u = true := by simp [isComma_space hc]
    rw [List.dropWhile_cons_of_neg hspace] at h
    simp only [hc, if_true] at h
    cases h
  refine ⟨hcomma, ⟨?_, ?_⟩⟩
  · rintro w hw hspace v hv
    simp only [List.getLast?_singleton, Option.mem_def, Option.some.injEq] at hw
    subst hw
    rw [List.dropWhile_cons_of_pos hspace] at h
    cases hd : s.dropWhile isSpace with
    | nil => simp [hd] at hv
    | cons x t =>
      have hx : x = v := by simpa [hd] using hv
      by_contra hc
      have hc : isComma x = true := by simpa [hx] using hc
      simp only [hd, hc, if_true] at h
      cases h
  · rintro w hw rfl v hv
    simp only [List.getLast?_singleton, Option.mem_def, Option.some.injEq] at hw
    subst hw
    rw [List.dropWhile_cons_of_neg (by decide)] at h
    simp only [hcomma, Bool.false_eq_true, if_false, stopAt] at h
    split_ifs at h with htake
    by_contra hspace
    apply htake
    refine ⟨trivial, ?_⟩
    cases s with
    | nil => cases hv
    | cons x t =>
      have hx : x = v := by simpa using hv
      rw [List.takeWhile_cons_of_pos (by simpa [hx] using hspace)]
      exact List.cons_ne_nil _ _

/-- What is found at the start of a text without line breaks. -/
theorem separatorAt_eq_some (h : separatorAt s = some sep) (hline : newline ∉ s) :
    ∃ r, s = sep ++ r ∧ (∀ u ∈ r.head?, isSpace u = false) ∧
      ((∃ a c b, sep = a ++ c :: b ∧ (∀ u ∈ a, isSpace u = true) ∧ isComma c = true ∧
          ∀ u ∈ b, isSpace u = true) ∨
        ∃ a, sep = stop :: a ∧ (∀ u ∈ a, isSpace u = true) ∧ a ≠ []) := by
  have hat : stopAt s = some sep → ∃ r, s = sep ++ r ∧ (∀ u ∈ r.head?, isSpace u = false) ∧
      ∃ a, sep = stop :: a ∧ (∀ u ∈ a, isSpace u = true) ∧ a ≠ [] := by
    intro h
    cases s with
    | nil => cases h
    | cons u s =>
      rw [stopAt] at h
      split_ifs at h with hu hnew
      · cases h
        refine ⟨s.dropWhile isSpace, ?_, head?_dropWhile s, _, rfl, ?_, hu.2⟩
        · rw [hu.1, List.cons_append, List.takeWhile_append_dropWhile]
        · exact fun v hv => List.mem_takeWhile_imp hv
      · exact absurd (hnew ▸ List.mem_cons_self) hline
  unfold separatorAt at h
  cases hd : s.dropWhile isSpace with
  | nil =>
    simp only [hd] at h
    obtain ⟨r, hs, hr, ha⟩ := hat h
    exact ⟨r, hs, hr, Or.inr ha⟩
  | cons c t =>
    simp only [hd] at h
    split_ifs at h with hc
    · cases h
      refine ⟨t.dropWhile isSpace, ?_, head?_dropWhile t, Or.inl ⟨_, c, _, rfl, ?_, hc, ?_⟩⟩
      · conv_lhs => rw [← List.takeWhile_append_dropWhile (p := isSpace) (l := s), hd]
        rw [List.append_assoc, List.cons_append, List.takeWhile_append_dropWhile]
      · exact fun v hv => List.mem_takeWhile_imp hv
      · exact fun v hv => List.mem_takeWhile_imp hv
    · obtain ⟨r, hs, hr, ha⟩ := hat h
      exact ⟨r, hs, hr, Or.inr ha⟩

end Separators

/-! ## Rows of pieces -/

/-- A text, cut into pieces with what stands between them. -/
inductive PieceRow : JsString → List Token → Prop where
  | last {w : JsString} (hw : PieceText w) : PieceRow w [⟨w, []⟩]
  | cons {w sep r : JsString} {ts : List Token} (hw : PieceText w) (hs : Separates w sep)
      (h : PieceRow r ts) : PieceRow (w ++ (sep ++ r)) (⟨w, sep⟩ :: ts)

section Rows

variable {w s x r sep : JsString} {u : UInt16} {ts us : List Token}

theorem PieceRow.ne_nil (h : PieceRow x ts) : x ≠ [] := by
  cases h with
  | last hw => exact hw.ne
  | cons hw => exact List.append_ne_nil_of_left_ne_nil hw.ne _

theorem PieceRow.front (h : PieceRow x ts) : ∀ u ∈ x.head?, isSpace u = false := by
  cases h with
  | last hw => exact hw.front
  | cons hw =>
    rw [List.head?_append_of_ne_nil _ hw.ne]
    exact hw.front

theorem PieceRow.pieces (h : PieceRow x ts) : ∀ t ∈ ts, PieceText t.text := by
  induction h with
  | last hw => simpa using hw
  | cons hw _ _ ih => simpa using ⟨hw, ih⟩

theorem PieceRow.flatMap_all (h : PieceRow x ts) : ts.flatMap Token.all = x := by
  induction h with
  | last hw => simp [Token.all]
  | cons hw _ _ ih => rw [List.flatMap_cons, ih, Token.all, List.append_assoc]

theorem Follows.head (hw : ∀ v ∈ w, isComma v = false)
    (hchain : (u :: w).IsChain fun u v => ¬(u = stop ∧ isSpace v = true))
    (h : Follows (u :: w) s) : Follows [u] (w ++ s) := by
  cases w with
  | nil => exact h
  | cons v w =>
    have hlast : (u :: v :: w).getLast? = (v :: w).getLast? := List.getLast?_cons_cons
    refine ⟨fun _ _ _ => ?_, fun x hx hstop => ?_⟩
    · rw [List.dropWhile_append]
      split_ifs with hall
      · have hspace : ∀ y ∈ v :: w, isSpace y = true := by
          simpa [List.dropWhile_eq_nil_iff] using hall
        obtain ⟨y, hy⟩ : ∃ y, (v :: w).getLast? = some y :=
          ⟨_, List.getLast?_eq_some_getLast (List.cons_ne_nil v w)⟩
        exact h.space y (hlast ▸ hy) (hspace y (List.mem_of_getLast? hy))
      · intro y hy
        cases hd : (v :: w).dropWhile isSpace with
        | nil => simp [hd] at hall
        | cons z t =>
          have hz : z = y := by simpa [hd] using hy
          have hmem : z ∈ v :: w :=
            (List.dropWhile_suffix isSpace).subset (hd ▸ List.mem_cons_self)
          exact hw y (hz ▸ hmem)
    · simp only [List.getLast?_singleton, Option.mem_def, Option.some.injEq] at hx
      intro y hy
      have hy : v = y := by simpa using hy
      have hne := (List.isChain_cons_cons.mp hchain).1
      rw [← hy]
      simpa [hx, hstop] using hne

theorem tokenizeFrom_separator {fuel : ℕ} {acc : JsString} (h : separatorAt s = some sep) :
    tokenizeFrom (fuel + 1) acc s = ⟨acc, sep⟩ :: tokenizeFrom fuel [] (s.drop sep.length) := by
  cases s <;> rw [tokenizeFrom, h]

theorem tokenizeFrom_unit {fuel : ℕ} {acc : JsString} (h : separatorAt (u :: s) = none) :
    tokenizeFrom (fuel + 1) acc (u :: s) = tokenizeFrom fuel (acc ++ [u]) s := by
  rw [tokenizeFrom, h]

theorem tokenizeFrom_scan (hplain : ∀ u ∈ w, isComma u = false ∧ u ≠ newline)
    (hchain : w.IsChain fun u v => ¬(u = stop ∧ isSpace v = true)) (hf : Follows w s)
    (acc : JsString) (fuel : ℕ) :
    tokenizeFrom (w.length + fuel) acc (w ++ s) = tokenizeFrom fuel (acc ++ w) s := by
  induction w generalizing acc with
  | nil => simp
  | cons u w ih =>
    have hu := hplain u List.mem_cons_self
    have hw : ∀ v ∈ w, isComma v = false := fun v hv =>
      (hplain v (List.mem_cons_of_mem _ hv)).1
    have hnone := separatorAt_eq_none hu.1 hu.2 (hf.head hw hchain)
    have hrest : Follows w s := by
      cases w with
      | nil => exact ⟨by simp, by simp⟩
      | cons v w => exact ⟨hf.space, hf.dot⟩
    have hlen : (u :: w).length + fuel = w.length + fuel + 1 := by
      rw [List.length_cons]
      omega
    rw [hlen, List.cons_append, tokenizeFrom_unit hnone,
      ih (fun v hv => hplain v (List.mem_cons_of_mem _ hv)) hchain.tail hrest, List.append_assoc]
    rfl

theorem PieceRow.tokenizeFrom (h : PieceRow x ts) {fuel : ℕ} (hfuel : x.length < fuel) :
    tokenizeFrom fuel [] x = ts := by
  induction h generalizing fuel with
  | @last w hw =>
    obtain ⟨k, rfl⟩ := Nat.exists_eq_add_of_lt hfuel
    have hscan := tokenizeFrom_scan hw.plain hw.noStop (follows_nil w) [] (k + 1)
    rw [List.append_nil, ← Nat.add_assoc] at hscan
    rw [hscan]
    rfl
  | @cons w sep r ts hw hs hr ih =>
    have hpos := List.length_pos_iff.mpr hs.ne_nil
    rw [List.length_append, List.length_append] at hfuel
    obtain ⟨k, rfl⟩ : ∃ k, fuel = w.length + (k + 1) := ⟨fuel - w.length - 1, by omega⟩
    rw [tokenizeFrom_scan hw.plain hw.noStop (hs.follows r) [] (k + 1),
      tokenizeFrom_separator (hs.separatorAt hr.front), List.drop_left, ih (by omega)]
    rfl

theorem PieceRow.tokenize (h : PieceRow x ts) : tokenize x = ts := h.tokenizeFrom (Nat.lt_succ_self _)

end Rows

/-! ## Pieces that are left -/

/-- Pieces of a text, some of which were taken out. -/
inductive Cut : List Token → Prop where
  | nil : Cut []
  | last {w : JsString} (hw : PieceText w) : Cut [⟨w, []⟩]
  | cons {w sep : JsString} {ks : List Token} (hw : PieceText w) (hs : Separates w sep)
      (h : Cut ks) : Cut (⟨w, sep⟩ :: ks)

/-- The piece `acc` is being read, and `s` is what is not read yet. -/
structure Scanning (acc s : JsString) : Prop where
  front : ∀ u ∈ (acc ++ s).head?, isSpace u = false
  plain : ∀ u ∈ acc, isComma u = false ∧ u ≠ newline
  noStop : acc.IsChain fun u v => ¬(u = stop ∧ isSpace v = true)
  follows : Follows acc s
  line : newline ∉ s

section Left

variable {acc s sep v : JsString} {u : UInt16} {ks : List Token}

theorem Scanning.piece (h : Scanning acc s) (hne : acc ≠ []) : PieceText acc where
  ne := hne
  front := by
    have hfront := h.front
    rwa [List.head?_append_of_ne_nil _ hne] at hfront
  plain := h.plain
  noStop := h.noStop

theorem Scanning.push (h : Scanning acc (u :: s)) (hnone : separatorAt (u :: s) = none) :
    Scanning (acc ++ [u]) s := by
  obtain ⟨hcomma, hfollows⟩ := of_separatorAt_eq_none hnone
  have hline : u ≠ newline := fun hu => h.line (hu ▸ List.mem_cons_self)
  have hlast : (acc ++ [u]).getLast? = [u].getLast? := by simp
  constructor
  · simpa using h.front
  · intro w hw
    rcases List.mem_append.mp hw with hw | hw
    · exact h.plain w hw
    · rw [List.mem_singleton] at hw
      exact hw ▸ ⟨hcomma, hline⟩
  · rw [List.isChain_append]
    refine ⟨h.noStop, List.isChain_singleton _, fun w hw x hx => ?_⟩
    simp only [List.head?_cons, Option.mem_def, Option.some.injEq] at hx
    rintro ⟨hstop, hspace⟩
    rw [← hx, h.follows.dot w hw hstop u rfl] at hspace
    cases hspace
  · exact ⟨by rw [hlast]; exact hfollows.space, by rw [hlast]; exact hfollows.dot⟩
  · exact fun hs => h.line (List.mem_cons_of_mem _ hs)

theorem Scanning.cut (h : Scanning acc s) (hsome : separatorAt s = some sep) :
    ∃ r, s = sep ++ r ∧ Separates acc sep ∧ Scanning [] r := by
  obtain ⟨r, hs, hr, hsep⟩ := separatorAt_eq_some hsome h.line
  refine ⟨r, hs, ?_, ⟨hr, by simp, List.isChain_nil, ⟨by simp, by simp⟩, ?_⟩⟩
  · rcases hsep with ⟨a, c, b, rfl, ha, hc, hb⟩ | ⟨a, rfl, ha, hne⟩
    · refine .comma a c b ha hc hb (fun u hu => ?_) fun hne u hu hstop => ?_
      · by_contra hspace
        have hfirst : (s.dropWhile isSpace).head? = some c := by
          rw [hs, List.append_assoc, List.dropWhile_append,
            if_pos (by simpa [List.dropWhile_eq_nil_iff] using ha), List.cons_append,
            List.dropWhile_cons_of_neg (by simp [isComma_space hc])]
          rfl
        have hnot := h.follows.space u hu (by simpa using hspace) c hfirst
        rw [hc] at hnot
        cases hnot
      · cases a with
        | nil => exact hne rfl
        | cons x a =>
          have hfirst : x ∈ s.head? := by simp [hs]
          have hspace := h.follows.dot u hu hstop x hfirst
          rw [ha x List.mem_cons_self] at hspace
          cases hspace
    · exact .stop a ha hne
  · exact fun hmem => h.line (hs ▸ List.mem_append_right _ hmem)

theorem Scanning.cut_filter {p : Token → Bool} (hp : ∀ t, p t = true → t.text ≠ []) {fuel : ℕ}
    (h : Scanning acc s) (hfuel : s.length < fuel) : Cut ((tokenizeFrom fuel acc s).filter p) := by
  induction fuel generalizing acc s with
  | zero => omega
  | succ fuel ih =>
    cases hsep : separatorAt s with
    | some sep =>
      obtain ⟨r, hs, hpiece, hr⟩ := h.cut hsep
      have hpos := List.length_pos_iff.mpr hpiece.ne_nil
      have hlen : r.length < fuel := by
        rw [hs, List.length_append] at hfuel
        omega
      have hrest := ih hr hlen
      rw [tokenizeFrom_separator hsep, hs, List.drop_left, List.filter_cons]
      split_ifs with hkeep
      · exact .cons (h.piece (hp _ hkeep)) hpiece hrest
      · exact hrest
    | none =>
      cases s with
      | nil =>
        rw [tokenizeFrom, hsep]
        by_cases hkeep : p ⟨acc, []⟩ = true
        · rw [List.filter_cons_of_pos hkeep]
          exact .last (h.piece (hp _ hkeep))
        · rw [List.filter_cons_of_neg hkeep]
          exact .nil
      | cons u s =>
        rw [tokenizeFrom_unit hsep]
        exact ih (h.push hsep) (by simpa using hfuel)

theorem Scanning.mem {fuel : ℕ} (h : Scanning acc s) :
    ∀ t ∈ tokenizeFrom fuel acc s, ∀ u ∈ t.all, u ∈ acc ++ s := by
  induction fuel generalizing acc s with
  | zero => simp [tokenizeFrom, Token.all]
  | succ fuel ih =>
    cases hsep : separatorAt s with
    | some sep =>
      obtain ⟨r, hs, hpiece, hr⟩ := h.cut hsep
      rw [tokenizeFrom_separator hsep, hs, List.drop_left]
      intro t ht u hu
      rcases List.mem_cons.mp ht with rfl | ht
      · rw [← List.append_assoc]
        exact List.mem_append_left _ hu
      · have hmem := ih hr t ht u hu
        rw [List.nil_append] at hmem
        simp [hmem]
    | none =>
      cases s with
      | nil => simp [tokenizeFrom, hsep, Token.all]
      | cons u s =>
        rw [tokenizeFrom_unit hsep]
        intro t ht w hw
        simpa using ih (h.push hsep) t ht w hw

theorem scanning_start (hv : Trimmed v) (hline : newline ∉ v) : Scanning [] v :=
  ⟨hv.front, by simp, List.isChain_nil, ⟨by simp, by simp⟩, hline⟩

end Left

end KarsHotel
