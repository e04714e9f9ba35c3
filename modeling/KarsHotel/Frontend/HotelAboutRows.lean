import KarsHotel.Frontend.HotelAboutLines

/-!
# The lines of a built text

* `readLine_row`: a row is read as its section;
* **`aboutLines_build`**: the lines of a built text are its rows, and the rest after an empty line;
* `parseHotelAbout_eq`: parsing reads the lines, also those of a blank text;
* `LineOk`, `AboutOk`; `gather_ok`: what the lines of a text leave is a remark.
-/

namespace KarsHotel

open JsText

/-! ## A line as it is read -/

/-- A no-break space is read as a space. -/
def plainSpace (u : UInt16) : UInt16 := if u = noBreakSpace then space else u

def readRaw (raw : JsString) : JsString := trim (raw.map plainSpace)

theorem aboutLines_eq (text : JsString) :
    aboutLines text = (lines (unixLines text)).map readRaw := rfl

section Raw

variable {raw v : JsString} {u : UInt16}

theorem isSpace_plainSpace (u : UInt16) : isSpace (plainSpace u) = isSpace u := by
  unfold plainSpace
  split_ifs with h
  · rw [h]
    decide
  · rfl

theorem isLineEnd_plainSpace (u : UInt16) : isLineEnd (plainSpace u) = isLineEnd u := by
  unfold plainSpace
  split_ifs with h
  · rw [h]
    decide
  · rfl

theorem map_plainSpace (h : noBreakSpace ∉ raw) : raw.map plainSpace = raw := by
  have hmap : raw.map plainSpace = raw.map id := by
    apply List.map_congr_left
    intro u hu
    have hne : u ≠ noBreakSpace := fun hbad => h (hbad ▸ hu)
    exact if_neg hne
  rw [hmap, List.map_id]

theorem trimmed_map_plainSpace (h : Trimmed raw) : Trimmed (raw.map plainSpace) := by
  constructor
  · intro u hu
    rw [List.head?_map] at hu
    obtain ⟨w, hw, rfl⟩ := Option.map_eq_some_iff.mp hu
    rw [isSpace_plainSpace, h.front w hw]
  · intro u hu
    rw [List.getLast?_map] at hu
    obtain ⟨w, hw, rfl⟩ := Option.map_eq_some_iff.mp hu
    rw [isSpace_plainSpace, h.back w hw]

theorem readRaw_eq (h : noBreakSpace ∉ raw) (ht : Trimmed raw) : readRaw raw = raw := by
  rw [readRaw, map_plainSpace h, ht.trim_eq]

end Raw

/-! ## A row -/

/-- A label that is read as its own section. -/
def writtenLabel (s : AboutSection) : Bool :=
  (literal (ABOUT_LABELS s)).all (fun u => u != colon && !isLineEnd u && u != noBreakSpace) &&
    decide (2 ≤ (literal (ABOUT_LABELS s)).length ∧ (literal (ABOUT_LABELS s)).length ≤ 60) &&
    (literal (ABOUT_LABELS s)).head?.all (fun u => !isSpace u) &&
    labelValue (normalizeLabel (literal (ABOUT_LABELS s))) == .section_ s

theorem writtenLabel_true {s : AboutSection} (hs : s ≠ .other) : writtenLabel s = true := by
  have hall : [AboutSection.name, .location, .list .infrastructure, .list .facility, .list .rooms,
      .laundry].all writtenLabel = true := by decide +kernel
  rw [List.all_eq_true] at hall
  apply hall
  cases s with
  | name => simp
  | location => simp
  | list s => cases s <;> simp
  | laundry => simp
  | other => exact absurd rfl hs

structure RowValue (v : JsString) : Prop where
  ne : v ≠ []
  trimmed : Trimmed v
  plain : ∀ u ∈ v, isLineEnd u = false

def rowLine : AboutSection → JsString → AboutLine
  | .name, _ => .skipped
  | .location, _ => .skipped
  | .list s, v => .list s v
  | .laundry, v => .laundry v
  | .other, v => .other v

section Row

variable {s : AboutSection} {v : JsString}

theorem label_spec (hs : s ≠ .other) :
    (∀ u ∈ literal (ABOUT_LABELS s), u ≠ colon ∧ isLineEnd u = false ∧ u ≠ noBreakSpace) ∧
      (2 ≤ (literal (ABOUT_LABELS s)).length ∧ (literal (ABOUT_LABELS s)).length ≤ 60) ∧
      (∀ u ∈ (literal (ABOUT_LABELS s)).head?, isSpace u = false) ∧
      labelValue (normalizeLabel (literal (ABOUT_LABELS s))) = .section_ s := by
  have h := writtenLabel_true hs
  simp only [writtenLabel, Bool.and_eq_true, beq_iff_eq, decide_eq_true_eq, List.all_eq_true,
    Option.all_eq_true, bne_iff_ne, Bool.not_eq_true'] at h
  obtain ⟨⟨⟨hunits, hlen⟩, hfront⟩, hvalue⟩ := h
  exact ⟨fun u hu => ⟨(hunits u hu).1.1, (hunits u hu).1.2, (hunits u hu).2⟩, hlen, hfront, hvalue⟩

theorem labelled_row (hs : s ≠ .other) (hfront : ∀ u ∈ v.head?, isSpace u = false)
    (hv : ∀ u ∈ v, isLineEnd u = false) :
    labelled (aboutRow s v) = some (literal (ABOUT_LABELS s), v) := by
  obtain ⟨hunits, hlen, -, -⟩ := label_spec hs
  have hcut := takeWhile_append_cons (p := (· != colon)) (a := literal (ABOUT_LABELS s))
    (r := colon :: space :: v) (fun u hu => by simpa using (hunits u hu).1) (by simp)
  have hspace : isLineEnd space = false := by decide
  have hrest : (space :: v).dropWhile (fun u => u == space || u == tab) = v := by
    rw [List.dropWhile_cons_of_pos (by decide)]
    apply dropWhile_eq_self
    intro u hu
    have hblank := hfront u hu
    by_contra hbad
    rcases (by simpa [or_iff_not_imp_left] using hbad : u = space ∨ u = tab) with rfl | rfl <;>
      exact absurd hblank (by decide)
  unfold labelled
  simp only [aboutRow, hcut.1, hcut.2, hrest]
  rw [if_pos]
  refine ⟨hlen.1, hlen.2, ?_⟩
  rw [List.all_eq_true]
  intro u hu
  rcases List.mem_cons.mp hu with rfl | hu
  · rw [hspace]
    rfl
  · rw [hv u hu]
    rfl

theorem readLine_row (hs : s ≠ .other) (hv : RowValue v) :
    readLine (aboutRow s v) = rowLine s v := by
  have hne : v.isEmpty = false := by simpa using hv.ne
  unfold readLine
  simp only [labelled_row hs hv.trimmed.front hv.plain, (label_spec hs).2.2.2, hv.trimmed.trim_eq,
    hne, Bool.false_eq_true, if_false]
  cases s with
  | name => rfl
  | location => rfl
  | list s => rfl
  | laundry => rfl
  | other => rfl

theorem RowValue.map_plainSpace (hv : RowValue v) : RowValue (v.map plainSpace) where
  ne := by simpa using hv.ne
  trimmed := trimmed_map_plainSpace hv.trimmed
  plain u hu := by
    obtain ⟨w, hw, rfl⟩ := List.mem_map.mp hu
    rw [isLineEnd_plainSpace, hv.plain w hw]

theorem aboutRow_ne_nil (s : AboutSection) (v : JsString) : aboutRow s v ≠ [] :=
  List.append_ne_nil_of_right_ne_nil _ (List.cons_ne_nil _ _)

theorem trimmed_row (hs : s ≠ .other) (hv : RowValue v) : Trimmed (aboutRow s v) := by
  obtain ⟨-, hlen, hfront, -⟩ := label_spec hs
  have hne : literal (ABOUT_LABELS s) ≠ [] := by
    rintro hnil
    rw [hnil] at hlen
    exact absurd hlen.1 (by decide)
  constructor
  · rw [aboutRow, List.head?_append_of_ne_nil _ hne]
    exact hfront
  · have hlast : (aboutRow s v).getLast? = v.getLast? := by
      have hsplit : aboutRow s v = (literal (ABOUT_LABELS s) ++ [colon, space]) ++ v := by
        rw [aboutRow, List.append_assoc]
        rfl
      rw [hsplit, List.getLast?_append_of_ne_nil _ hv.ne]
    rw [hlast]
    exact hv.trimmed.back

theorem readRaw_row (hs : s ≠ .other) (hv : RowValue v) :
    readRaw (aboutRow s v) = aboutRow s (v.map plainSpace) := by
  have hmap : (aboutRow s v).map plainSpace = aboutRow s (v.map plainSpace) := by
    have hlabel : (literal (ABOUT_LABELS s)).map plainSpace = literal (ABOUT_LABELS s) :=
      map_plainSpace fun hmem => ((label_spec hs).1 _ hmem).2.2 rfl
    rw [aboutRow, List.map_append, hlabel]
    rfl
  rw [readRaw, hmap, (trimmed_row hs hv.map_plainSpace).trim_eq]

theorem row_plain (hs : s ≠ .other) (hv : ∀ u ∈ v, isLineEnd u = false) :
    ∀ u ∈ aboutRow s v, isLineEnd u = false := by
  intro u hu
  rcases List.mem_append.mp hu with hu | hu
  · exact ((label_spec hs).1 u hu).2.1
  · rcases List.mem_cons.mp hu with rfl | hu
    · decide
    · rcases List.mem_cons.mp hu with rfl | hu
      · decide
      · exact hv u hu

end Row

/-! ## The lines of a text -/

/-- A line as it is read: trimmed, and without these units. -/
structure LineOk (l : JsString) : Prop where
  trimmed : Trimmed l
  units : ∀ u ∈ l, u ≠ newline ∧ u ≠ carriageReturn ∧ u ≠ noBreakSpace

section Text

variable {L : List JsString} {l v x : JsString}

theorem LineOk.line (h : LineOk l) : newline ∉ l := fun hmem => (h.units _ hmem).1 rfl

theorem lineOk_nil : LineOk [] := ⟨trimmed_nil, by simp⟩

theorem LineOk.readRaw (h : LineOk l) : readRaw l = l :=
  readRaw_eq (fun hmem => (h.units _ hmem).2.2 rfl) h.trimmed

theorem aboutLines_ok (text : JsString) : ∀ l ∈ aboutLines text, LineOk l := by
  intro l hl
  rw [aboutLines_eq] at hl
  obtain ⟨raw, hraw, rfl⟩ := List.mem_map.mp hl
  refine ⟨trimmed_trim _, fun u hu => ?_⟩
  obtain ⟨w, hw, rfl⟩ := List.mem_map.mp (mem_of_mem_strip hu)
  have hnew : w ≠ newline := fun hw' => newline_not_mem_lines hraw (hw' ▸ hw)
  have hreturn : w ≠ carriageReturn := by
    rintro rfl
    exact carriageReturn_not_mem_unixFrom _ _ (mem_of_mem_lines hraw hw)
  unfold plainSpace
  split_ifs with hbad
  · decide
  · exact ⟨hnew, hreturn, hbad⟩

theorem readLine_value_ok (hl : LineOk l) (h : (readLine l).value = some v) :
    LineOk v ∧ Clean v := by
  obtain ⟨htrimmed, -, hunits, -⟩ := readLine_value h
  exact ⟨⟨htrimmed, fun u hu => hl.units u (hunits u hu).1⟩,
    fun u hu => ⟨(hunits u hu).2, (hl.units u (hunits u hu).1).2.2⟩⟩

theorem mem_leftTexts {α : Type} {eaten : JsString → Option α} {vs : List JsString}
    (h : x ∈ leftTexts eaten vs) : x ≠ [] ∧ ∃ v ∈ vs, (readValue eaten v).2 = x := by
  induction vs using List.reverseRecOn with
  | nil => cases h
  | append_singleton vs v ih =>
    rw [leftTexts, List.foldl_append, ← leftTexts] at h
    have hpush : x ∈ pushNonempty (leftTexts eaten vs) (readValue eaten v).2 := h
    unfold pushNonempty at hpush
    split_ifs at hpush with hempty
    · obtain ⟨hne, w, hw, hx⟩ := ih hpush
      exact ⟨hne, w, List.mem_append_left _ hw, hx⟩
    · rcases List.mem_append.mp hpush with hpush | hpush
      · obtain ⟨hne, w, hw, hx⟩ := ih hpush
        exact ⟨hne, w, List.mem_append_left _ hw, hx⟩
      · rw [List.mem_singleton] at hpush
        exact ⟨hpush ▸ (by simpa using hempty), v, by simp, hpush.symm⟩

theorem leftTexts_remark {α : Type} {eaten : JsString → Option α} {vs : List JsString}
    (hvs : ∀ v ∈ vs, LineOk v ∧ Clean v) : ∀ x ∈ leftTexts eaten vs, Remark x := by
  intro x hx
  obtain ⟨hne, v, hv, rfl⟩ := mem_leftTexts hx
  obtain ⟨hok, hclean⟩ := hvs v hv
  rcases readValue_snd hok.trimmed hclean with hnil | ⟨hremark, -⟩
  · exact absurd hnil hne
  · exact hremark

theorem listValues_ok (hL : ∀ l ∈ L, LineOk l) (s : ListSection) :
    ∀ v ∈ listValues s L, LineOk v ∧ Clean v := by
  intro v hv
  obtain ⟨l, hl, hread⟩ := List.mem_filterMap.mp hv
  apply readLine_value_ok (hL l hl)
  cases hline : readLine l with
  | list s' w =>
    rw [hline] at hread
    simp only [AboutLine.listValue] at hread
    split_ifs at hread
    exact hread
  | _ => simp [hline, AboutLine.listValue] at hread

theorem laundryValues_ok (hL : ∀ l ∈ L, LineOk l) :
    ∀ v ∈ laundryValues L, LineOk v ∧ Clean v := by
  intro v hv
  obtain ⟨l, hl, hread⟩ := List.mem_filterMap.mp hv
  apply readLine_value_ok (hL l hl)
  cases hline : readLine l with
  | laundry w =>
    rw [hline] at hread
    exact hread
  | _ => simp [hline, AboutLine.laundryValue] at hread

theorem otherTexts_ok (hL : ∀ l ∈ L, LineOk l) : ∀ x ∈ otherTexts L, LineOk x := by
  intro x hx
  obtain ⟨l, hl, hread⟩ := List.mem_filterMap.mp hx
  cases hline : readLine l with
  | free =>
    have hx : l = x := by simpa [hline, AboutLine.otherText] using hread
    exact hx ▸ hL l hl
  | other w =>
    have hx : w = x := by simpa [hline, AboutLine.otherText] using hread
    exact (readLine_value_ok (hL l hl) (by rw [hline, ← hx]; rfl)).1
  | _ => simp [hline, AboutLine.otherText] at hread

end Text

/-! ## A state, as the lines of a text give it -/

/-- The remarks of the sections are remarks, and the rest is tidy. -/
structure AboutOk (up : UpperCase) (about : HotelAbout) : Prop where
  checked : ∀ s, checkedKeys s (about.list s).checked = (about.list s).checked
  list : ∀ s, SectionRemark up (decide (s = .infrastructure)) (about.list s).extra
  laundry : SectionRemark up true about.laundry.extra
  other : ∃ ls, about.other = tidyOther ls ∧ ∀ l ∈ ls, LineOk l

theorem state_list (up : UpperCase) (r : AboutReading) (s : ListSection) :
    (r.state up).list s = ⟨checkedKeys s (r.found s),
      remarkOf up (decide (s = .infrastructure)) (r.extras s)⟩ := by
  rw [← joinExtras_eq]
  cases s <;> rfl

theorem state_laundry (up : UpperCase) (r : AboutReading) :
    (r.state up).laundry = ⟨r.laundry.laundry, r.laundry.ironing, remarkOf up true r.laundryExtras⟩ := by
  unfold remarkOf lettered joinOf
  rw [if_pos rfl, if_pos rfl]
  rfl

theorem state_other (up : UpperCase) (L : List JsString) :
    ((gather L).state up).other = tidyOther (otherTexts L) := by
  unfold AboutReading.state gather
  rfl

theorem gather_ok (up : UpperCase) {L : List JsString} (hL : ∀ l ∈ L, LineOk l) :
    AboutOk up ((gather L).state up) where
  checked s := by
    rw [state_list]
    exact checkedKeys_idem s _
  list s := by
    rw [state_list]
    exact remarkOf_spec (leftTexts_remark (listValues_ok hL s))
  laundry := by
    rw [state_laundry]
    exact remarkOf_spec (leftTexts_remark (laundryValues_ok hL))
  other := ⟨otherTexts L, state_other up L, otherTexts_ok hL⟩

/-- Parsing reads the lines; a blank text has only empty ones. -/
theorem parseHotelAbout_eq (up : UpperCase) (text : JsString) : parseHotelAbout up text =
    if ∃ l ∈ aboutLines text, readLine l = .inherited then .error matcherUndefined
    else .ok ((gather (aboutLines text)).state up) := by
  unfold parseHotelAbout
  by_cases hblank : (trim text).isEmpty = true
  · rw [if_pos hblank]
    have hspaces : ∀ u ∈ text, isSpace u = true := by
      have hnil : trim text = [] := by simpa using hblank
      by_contra hne
      push Not at hne
      obtain ⟨u, hu, hspace⟩ := hne
      have hweight : weight text = 0 := by
        rw [← weight_strip (fun _ h => h) (fun _ h => h) text, ← trim, hnil]
        rfl
      rw [weight, List.countP_eq_zero] at hweight
      exact hspace (by simpa using hweight u hu)
    have hempty : ∀ l ∈ aboutLines text, l = [] := by
      intro l hl
      apply (aboutLines_ok text l hl).trimmed.eq_nil
      rw [aboutLines_eq] at hl
      obtain ⟨raw, hraw, rfl⟩ := List.mem_map.mp hl
      intro u hu
      obtain ⟨w, hw, rfl⟩ := List.mem_map.mp (mem_of_mem_strip hu)
      rw [isSpace_plainSpace]
      exact isSpace_unixFrom hspaces w (mem_of_mem_lines hraw hw)
    have hfree : ∀ l ∈ aboutLines text, readLine l = .free := by
      intro l hl
      rw [hempty l hl, readLine_nil]
    have hvalues : ∀ s, listValues s (aboutLines text) = [] := by
      intro s
      apply List.filterMap_eq_nil_iff.mpr
      intro l hl
      rw [hfree l hl]
      rfl
    have hlaundry : laundryValues (aboutLines text) = [] := by
      apply List.filterMap_eq_nil_iff.mpr
      intro l hl
      rw [hfree l hl]
      rfl
    have hother : tidyOther (otherTexts (aboutLines text)) = [] := by
      apply tidyOther_nil
      intro x hx
      obtain ⟨l, hl, hread⟩ := List.mem_filterMap.mp hx
      rw [hfree l hl] at hread
      have hx : l = x := by simpa [AboutLine.otherText] using hread
      exact hx ▸ hempty l hl
    rw [if_neg]
    · congr 1
      show emptyHotelAbout = (gather (aboutLines text)).state up
      unfold AboutReading.state AboutReading.section_ gather
      simp only [hvalues, hlaundry, hother]
      rfl
    · rintro ⟨l, hl, hread⟩
      rw [hfree l hl] at hread
      cases hread
  · rw [if_neg hblank, foldlM_take]
    split_ifs <;> rfl

/-! ## A built text -/

section Build

variable (up : UpperCase) (about : HotelAbout) (name location : JsString)

/-- The sections of a text with their values. -/
def aboutCells : List (AboutSection × JsString) :=
  [(.name, oneLine name), (.location, oneLine location),
   (.list .infrastructure, listText up .infrastructure about.infrastructure),
   (.list .facility, listText up .facility about.facility),
   (.list .rooms, listText up .rooms about.rooms), (.laundry, laundryText up about.laundry)]

/-- Those that are written. -/
def fullCells : List (AboutSection × JsString) :=
  (aboutCells up about name location).filter fun r => !r.2.isEmpty

theorem aboutRows_eq : aboutRows up about name location =
    (fullCells up about name location).map fun r => aboutRow r.1 r.2 := rfl

end Build

section Built

variable {up : UpperCase} {about : HotelAbout} {name location : JsString}

theorem listText_about (h : AboutOk up about) (s : ListSection) :
    listText up s (about.list s) = valueOf (decide (s = .infrastructure))
      (listJoin.intercalate (checkedTexts s (about.list s).checked)) (about.list s).extra :=
  listText_eq s (about.list s).checked (h.list s)

theorem laundryText_about (h : AboutOk up about) : laundryText up about.laundry = valueOf true
    (listJoin.intercalate (flagTexts about.laundry.laundry about.laundry.ironing))
      about.laundry.extra :=
  laundryText_eq about.laundry.laundry about.laundry.ironing h.laundry

theorem listText_row (h : AboutOk up about) (s : ListSection) :
    listText up s (about.list s) = [] ∨
      RowValue (listText up s (about.list s)) ∧ Clean (listText up s (about.list s)) := by
  rw [listText_about h]
  rcases valueOf_remark (heads_checked s (about.list s).checked) (h.list s).remark with
    ⟨hnil, -⟩ | hremark
  · exact Or.inl hnil
  · exact Or.inr ⟨⟨hremark.row.ne_nil, hremark.trimmed, fun u hu => (hremark.clean u hu).1⟩,
      hremark.clean⟩

theorem laundryText_row (h : AboutOk up about) : laundryText up about.laundry = [] ∨
    RowValue (laundryText up about.laundry) ∧ Clean (laundryText up about.laundry) := by
  rw [laundryText_about h]
  rcases valueOf_remark (heads_flags about.laundry.laundry about.laundry.ironing)
    h.laundry.remark with ⟨hnil, -⟩ | hremark
  · exact Or.inl hnil
  · exact Or.inr ⟨⟨hremark.row.ne_nil, hremark.trimmed, fun u hu => (hremark.clean u hu).1⟩,
      hremark.clean⟩

def StaysInLine (name : JsString) : Prop := ∀ u ∈ oneLine name, isLineEnd u = false

theorem fullCells_ok (h : AboutOk up about) (hname : StaysInLine name)
    (hlocation : StaysInLine location) :
    ∀ r ∈ fullCells up about name location, r.1 ≠ .other ∧ RowValue r.2 := by
  intro r hr
  obtain ⟨hcell, hfull⟩ := List.mem_filter.mp hr
  have hne : r.2 ≠ [] := by simpa using hfull
  simp only [aboutCells, List.mem_cons, List.not_mem_nil, or_false] at hcell
  rcases hcell with rfl | rfl | rfl | rfl | rfl | rfl
  · exact ⟨by simp, hne, trimmed_trim _, hname⟩
  · exact ⟨by simp, hne, trimmed_trim _, hlocation⟩
  · exact ⟨by simp, ((listText_row h .infrastructure).resolve_left hne).1⟩
  · exact ⟨by simp, ((listText_row h .facility).resolve_left hne).1⟩
  · exact ⟨by simp, ((listText_row h .rooms).resolve_left hne).1⟩
  · exact ⟨by simp, ((laundryText_row h).resolve_left hne).1⟩

theorem readLine_cell (h : AboutOk up about) (hname : StaysInLine name)
    (hlocation : StaysInLine location) {r : AboutSection × JsString}
    (hr : r ∈ fullCells up about name location) :
    readLine (readRaw (aboutRow r.1 r.2)) = rowLine r.1 (r.2.map plainSpace) := by
  obtain ⟨hs, hv⟩ := fullCells_ok h hname hlocation r hr
  rw [readRaw_row hs hv, readLine_row hs hv.map_plainSpace]

/-- The rest has no line that a text could not have. -/
theorem AboutOk.lines_other (h : AboutOk up about) : ∀ l ∈ lines about.other, LineOk l := by
  obtain ⟨ls, hother, hls⟩ := h.other
  intro l hl
  rw [hother] at hl
  rcases mem_lines_tidyOther (fun l hl => (hls l hl).trimmed) (fun l hl => (hls l hl).line) hl with
    rfl | hl
  · exact lineOk_nil
  · exact hls l hl

theorem AboutOk.other_again (h : AboutOk up about) :
    tidyOther (lines about.other) = about.other ∧
      tidyOther ([] :: lines about.other) = about.other := by
  obtain ⟨ls, hother, hls⟩ := h.other
  rw [hother]
  exact ⟨tidyOther_again (fun l hl => (hls l hl).trimmed) fun l hl => (hls l hl).line,
    tidyOther_gap (fun l hl => (hls l hl).trimmed) fun l hl => (hls l hl).line⟩

/-- The lines of the rest, as they stand in a built text. -/
inductive OtherLines (other : JsString) : List JsString → Prop where
  | alone : OtherLines other (lines other)
  | gap : OtherLines other ([] :: lines other)
  | absent (h : other = []) : OtherLines other []

/-- **The lines of a built text are its rows, and the rest after an empty line.** -/
theorem aboutLines_build (h : AboutOk up about) (hname : StaysInLine name)
    (hlocation : StaysInLine location) :
    ∃ tail, OtherLines about.other tail ∧
      aboutLines (buildHotelAboutText up about name location) =
        (aboutRows up about name location).map readRaw ++ tail := by
  set rows := aboutRows up about name location with hrows
  have hplain : ∀ l ∈ rows, l ≠ [] ∧ ∀ u ∈ l, isLineEnd u = false := by
    intro l hl
    rw [hrows, aboutRows_eq] at hl
    obtain ⟨r, hr, rfl⟩ := List.mem_map.mp hl
    obtain ⟨hs, hv⟩ := fullCells_ok h hname hlocation r hr
    exact ⟨aboutRow_ne_nil _ _, row_plain hs hv.plain⟩
  have hline : ∀ l ∈ rows, newline ∉ l := fun l hl hmem =>
    absurd ((hplain l hl).2 _ hmem) (by decide)
  have hother : (lines about.other).map readRaw = lines about.other := by
    have hmap : (lines about.other).map readRaw = (lines about.other).map id :=
      List.map_congr_left fun l hl => (h.lines_other l hl).readRaw
    rw [hmap, List.map_id]
  have htidy : tidyOther (lines about.other) = about.other := h.other_again.1
  have hreturn : carriageReturn ∉ unlines rows ∧ carriageReturn ∉ about.other := by
    constructor
    · intro hmem
      rcases mem_unlines hmem with hbad | ⟨l, hl, hmem⟩
      · exact absurd hbad (by decide)
      · exact absurd ((hplain l hl).2 _ hmem) (by decide)
    · intro hmem
      rw [← unlines_lines about.other] at hmem
      rcases mem_unlines hmem with hbad | ⟨l, hl, hmem⟩
      · exact absurd hbad (by decide)
      · exact ((h.lines_other l hl).units _ hmem).2.1 rfl
  have hbuild : buildHotelAboutText up about name location =
      [newline, newline].intercalate ([unlines rows, about.other].filter fun s => !s.isEmpty) := by
    rw [buildHotelAboutText, htidy]
  rw [hbuild, aboutLines_eq]
  by_cases hne : rows = []
  · have hhead : unlines rows = [] := by rw [hne]; rfl
    refine ⟨lines about.other, .alone, ?_⟩
    have htext : [newline, newline].intercalate
        ([unlines rows, about.other].filter fun s => !s.isEmpty) = about.other := by
      rw [hhead]
      cases about.other <;> simp
    rw [htext, unixLines, unixFrom_eq hreturn.2, hother, hne]
    rfl
  · have hhead : unlines rows ≠ [] := by
      obtain ⟨l, hl⟩ := List.exists_mem_of_ne_nil rows hne
      obtain ⟨u, hu⟩ := List.exists_mem_of_ne_nil l (hplain l hl).1
      exact List.ne_nil_of_mem (mem_unlines_of_mem hl hu)
    have hrowLines := lines_unlines hline hne
    by_cases hrest : about.other = []
    · refine ⟨[], .absent hrest, ?_⟩
      have htext : [newline, newline].intercalate
          ([unlines rows, about.other].filter fun s => !s.isEmpty) = unlines rows := by
        rw [hrest]
        simp [hhead]
      rw [htext, unixLines, unixFrom_eq hreturn.1, hrowLines, List.append_nil]
    · refine ⟨[] :: lines about.other, .gap, ?_⟩
      have htext : [newline, newline].intercalate
          ([unlines rows, about.other].filter fun s => !s.isEmpty) =
          unlines rows ++ newline :: newline :: about.other := by
        simp [hhead, hrest]
      have hnoReturn : carriageReturn ∉ unlines rows ++ newline :: newline :: about.other := by
        intro hmem
        rcases List.mem_append.mp hmem with hmem | hmem
        · exact hreturn.1 hmem
        · rcases List.mem_cons.mp hmem with hbad | hmem
          · exact absurd hbad (by decide)
          · rcases List.mem_cons.mp hmem with hbad | hmem
            · exact absurd hbad (by decide)
            · exact hreturn.2 hmem
      rw [htext, unixLines, unixFrom_eq hnoReturn, lines_append_newline, lines_newline,
        List.map_append, List.map_cons, hrowLines, hother, lineOk_nil.readRaw]

end Built

end KarsHotel
