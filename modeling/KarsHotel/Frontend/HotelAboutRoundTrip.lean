import KarsHotel.Frontend.HotelAboutRows

/-!
# A description, parsed, built and parsed again

* `RoundTrips`: the second parse gives the state of the first;
* `AboutSound`: no line has an inherited label, no text of the rest is a line with a label, and no
  remark has a phrase of its dictionary as a piece;
* `gather_build`: what a built text is read as, when the rest of it has no labels;
* **`roundTrips_iff`**: these are exactly the texts that come back.
-/

namespace KarsHotel

open JsText

/-- A text is parsed, and what is built from the state is parsed to it again. -/
def RoundTrips (up : UpperCase) (text name location : JsString) : Prop :=
  ∃ about, parseHotelAbout up text = .ok about ∧
    parseHotelAbout up (buildHotelAboutText up about name location) = .ok about

/-- What the lines of a list leave: the first one with the letter of the section. -/
def listRemarks (up : UpperCase) (s : ListSection) (L : List JsString) : List JsString :=
  letterFirst up (decide (s = .infrastructure))
    (leftTexts (matchPhrase (DICTIONARIES s)) (listValues s L))

def laundryRemarks (up : UpperCase) (L : List JsString) : List JsString :=
  letterFirst up true (leftTexts matchLaundry (laundryValues L))

/-- Nothing of the text changes its place. -/
structure AboutSound (up : UpperCase) (text : JsString) : Prop where
  named : ∀ l ∈ aboutLines text, readLine l ≠ .inherited
  free : ∀ x ∈ otherTexts (aboutLines text), readLine x = .free
  lists : ∀ s, ∀ x ∈ listRemarks up s (aboutLines text), ¬Known (matchPhrase (DICTIONARIES s)) x
  laundry : ∀ x ∈ laundryRemarks up (aboutLines text), ¬Known matchLaundry x

/-! ## The rows of a built text -/

section Rows

variable {up : UpperCase} {about : HotelAbout} {name location : JsString}

def cellValue (s : ListSection) (r : AboutSection × JsString) : Option JsString :=
  if r.2.isEmpty then none else (rowLine r.1 (r.2.map plainSpace)).listValue s

def cellLaundry (r : AboutSection × JsString) : Option JsString :=
  if r.2.isEmpty then none else (rowLine r.1 (r.2.map plainSpace)).laundryValue

theorem map_clean {v : JsString} (h : Clean v) : v.map plainSpace = v :=
  map_plainSpace fun hmem => (h _ hmem).2 rfl

theorem filterMap_rows {α : Type} (g : AboutLine → Option α) (h : AboutOk up about)
    (hname : StaysInLine name) (hlocation : StaysInLine location) :
    ((aboutRows up about name location).map readRaw).filterMap (fun l => g (readLine l)) =
      (aboutCells up about name location).filterMap fun r =>
        if r.2.isEmpty then none else g (rowLine r.1 (r.2.map plainSpace)) := by
  rw [aboutRows_eq, List.map_map, List.filterMap_map]
  have hcells : (fullCells up about name location).filterMap
      ((fun l => g (readLine l)) ∘ readRaw ∘ fun r => aboutRow r.1 r.2) =
      (fullCells up about name location).filterMap
        fun r => g (rowLine r.1 (r.2.map plainSpace)) := by
    apply List.filterMap_congr
    intro r hr
    show g (readLine (readRaw (aboutRow r.1 r.2))) = _
    rw [readLine_cell h hname hlocation hr]
  rw [hcells, fullCells, List.filterMap_filter]
  apply List.filterMap_congr
  intro r _
  by_cases hempty : r.2.isEmpty = true
  · simp [hempty]
  · simp [hempty]

theorem listValues_rows (h : AboutOk up about) (hname : StaysInLine name)
    (hlocation : StaysInLine location) (s : ListSection) :
    listValues s ((aboutRows up about name location).map readRaw) =
      pushNonempty [] (listText up s (about.list s)) := by
  have hrows := filterMap_rows (fun l => l.listValue s) h hname hlocation
  have hone : ∀ s', cellValue s (.list s', listText up s' (about.list s')) =
      if listText up s' (about.list s') = [] then none
      else if s' = s then some (listText up s' (about.list s')) else none := by
    intro s'
    unfold cellValue
    rcases listText_row h s' with hnil | ⟨hrow, hclean⟩
    · simp [hnil]
    · simp [hrow.ne, rowLine, AboutLine.listValue, map_clean hclean]
  have hcells : (aboutCells up about name location).filterMap (cellValue s) =
      (cellValue s (.list s, listText up s (about.list s))).toList := by
    have hskip : ∀ v, cellValue s (.name, v) = none ∧ cellValue s (.location, v) = none ∧
        cellValue s (.laundry, v) = none := by
      intro v
      simp [cellValue, rowLine, AboutLine.listValue]
    have hlist : ∀ s' v, s' ≠ s → cellValue s (.list s', v) = none := by
      intro s' v hs
      simp [cellValue, rowLine, AboutLine.listValue, hs]
    rw [List.filterMap_eq_flatMap_toList]
    cases s with
    | infrastructure => simp [aboutCells, hskip, hlist, HotelAbout.list]
    | facility => simp [aboutCells, hskip, hlist, HotelAbout.list]
    | rooms => simp [aboutCells, hskip, hlist, HotelAbout.list]
  have heq : listValues s ((aboutRows up about name location).map readRaw) = _ := hrows.trans hcells
  rw [heq, hone s, pushNonempty]
  by_cases hnil : listText up s (about.list s) = []
  · simp [hnil]
  · simp [hnil]

theorem laundryValues_rows (h : AboutOk up about) (hname : StaysInLine name)
    (hlocation : StaysInLine location) :
    laundryValues ((aboutRows up about name location).map readRaw) =
      pushNonempty [] (laundryText up about.laundry) := by
  have hrows := filterMap_rows AboutLine.laundryValue h hname hlocation
  have hcells : (aboutCells up about name location).filterMap cellLaundry =
      (cellLaundry (.laundry, laundryText up about.laundry)).toList := by
    have hskip : ∀ v, cellLaundry (.name, v) = none ∧ cellLaundry (.location, v) = none ∧
        ∀ s, cellLaundry (.list s, v) = none := by
      intro v
      simp [cellLaundry, rowLine, AboutLine.laundryValue]
    rw [List.filterMap_eq_flatMap_toList]
    simp [aboutCells, hskip]
  have heq : laundryValues ((aboutRows up about name location).map readRaw) = _ :=
    hrows.trans hcells
  rw [heq, pushNonempty]
  rcases laundryText_row h with hnil | ⟨hrow, hclean⟩
  · simp [cellLaundry, hnil]
  · simp [cellLaundry, hrow.ne, rowLine, AboutLine.laundryValue, map_clean hclean]

/-- No row goes to the rest, and none fails. -/
theorem readLine_rows (h : AboutOk up about) (hname : StaysInLine name)
    (hlocation : StaysInLine location) :
    ∀ l ∈ (aboutRows up about name location).map readRaw,
      (readLine l).otherText l = none ∧ readLine l ≠ .inherited := by
  intro l hl
  rw [aboutRows_eq, List.map_map] at hl
  obtain ⟨r, hr, rfl⟩ := List.mem_map.mp hl
  have hs := (fullCells_ok h hname hlocation r hr).1
  have hread : readLine ((readRaw ∘ fun r => aboutRow r.1 r.2) r) = _ :=
    readLine_cell h hname hlocation hr
  rw [hread]
  obtain ⟨s, v⟩ := r
  cases s with
  | other => exact absurd rfl hs
  | name => exact ⟨rfl, by simp [rowLine]⟩
  | location => exact ⟨rfl, by simp [rowLine]⟩
  | list s => exact ⟨rfl, by simp [rowLine]⟩
  | laundry => exact ⟨rfl, by simp [rowLine]⟩

end Rows

/-! ## A built text, read again -/

section Again

variable {up : UpperCase} {about : HotelAbout} {name location : JsString} {tail : List JsString}

theorem flatMap_pushNonempty {α : Type} {eaten : JsString → Option α} (hnil : eaten [] = none)
    (v : JsString) :
    (pushNonempty [] v).flatMap (fun w => (readValue eaten w).1) = (readValue eaten v).1 := by
  unfold pushNonempty
  by_cases hv : v = []
  · rw [hv, readValue_nil hnil]
    rfl
  · simp [hv]

theorem leftTexts_pushNonempty {α : Type} {eaten : JsString → Option α} (hnil : eaten [] = none)
    (v : JsString) :
    leftTexts eaten (pushNonempty [] v) = pushNonempty [] (readValue eaten v).2 := by
  by_cases hv : v = []
  · rw [hv, readValue_nil hnil]
    rfl
  · rw [pushNonempty, if_neg (by simpa using hv)]
    rfl

/-- The sections of a built text, when no line of the rest has a label. -/
theorem gather_build (h : AboutOk up about) (hname : StaysInLine name)
    (hlocation : StaysInLine location) (hfree : ∀ l ∈ tail, readLine l = .free)
    {r : AboutReading}
    (hr : r = gather ((aboutRows up about name location).map readRaw ++ tail)) :
    (∀ s, r.found s = checkedKeys s (about.list s).checked ++
        (readList s (about.list s).extra).1 ∧
      r.extras s = pushNonempty [] (readList s (about.list s).extra).2) ∧
    r.laundry = (flagKeys about.laundry.laundry about.laundry.ironing ++
        (readLaundry about.laundry.extra).1).foldl LaundryState.assign ⟨false, false, []⟩ ∧
    r.laundryExtras = pushNonempty [] (readLaundry about.laundry.extra).2 := by
  have hlists : ∀ s, listValues s tail = [] := by
    intro s
    apply List.filterMap_eq_nil_iff.mpr
    intro l hl
    rw [hfree l hl]
    rfl
  have hlaundry : laundryValues tail = [] := by
    apply List.filterMap_eq_nil_iff.mpr
    intro l hl
    rw [hfree l hl]
    rfl
  subst hr
  constructor
  · intro s
    have hvalues : listValues s ((aboutRows up about name location).map readRaw ++ tail) =
        pushNonempty [] (listText up s (about.list s)) := by
      rw [listValues, List.filterMap_append, ← listValues, ← listValues, hlists,
        listValues_rows h hname hlocation, List.append_nil]
    have hread := readValue_valueOf (decide (s = .infrastructure))
      (heads_checked s (about.list s).checked) (matchPhrase_nil (DICTIONARIES s)) (h.list s).remark
    constructor
    · show (listValues s _).flatMap (fun v => (readValue _ v).1) = _
      rw [hvalues, flatMap_pushNonempty (matchPhrase_nil _), listText_about h, hread]
      rfl
    · show leftTexts _ (listValues s _) = _
      rw [hvalues, leftTexts_pushNonempty (matchPhrase_nil _), listText_about h, hread]
      rfl
  · have hvalues : laundryValues ((aboutRows up about name location).map readRaw ++ tail) =
        pushNonempty [] (laundryText up about.laundry) := by
      rw [laundryValues, List.filterMap_append, ← laundryValues, ← laundryValues, hlaundry,
        laundryValues_rows h hname hlocation, List.append_nil]
    have hread := readValue_valueOf true
      (heads_flags about.laundry.laundry about.laundry.ironing) laundry_text.2.2 h.laundry.remark
    constructor
    · show ((laundryValues _).flatMap fun v => (readValue _ v).1).foldl _ _ = _
      rw [hvalues, flatMap_pushNonempty laundry_text.2.2, laundryText_about h, hread]
      rfl
    · show leftTexts _ (laundryValues _) = _
      rw [hvalues, leftTexts_pushNonempty laundry_text.2.2, laundryText_about h, hread]
      rfl

theorem readValue_fst_nil {α : Type} {eaten : JsString → Option α} {x : JsString}
    (hnil : eaten [] = none) (hx : x = [] ∨ Remark x) (hu : ¬Known eaten x) :
    (readValue eaten x).1 = [] := by
  rcases hx with rfl | hremark
  · rw [readValue_nil hnil]
  · rw [readValue_unknown hremark hu]

/-- A list is the same again exactly when its remark has no phrase of the dictionary. -/
theorem list_again (h : AboutOk up about) {r : AboutReading} {s : ListSection}
    (hfound : r.found s = checkedKeys s (about.list s).checked ++
      (readList s (about.list s).extra).1)
    (hextras : r.extras s = pushNonempty [] (readList s (about.list s).extra).2) :
    (r.state up).list s = about.list s ↔
      ¬Known (matchPhrase (DICTIONARIES s)) (about.list s).extra := by
  have hagain := remark_again (matchPhrase_nil (DICTIONARIES s)) (h.list s)
  rw [state_list, hfound, hextras]
  constructor
  · intro heq
    have hextra := congrArg SectionState.extra heq
    exact hagain.mp hextra
  · intro hu
    have hnone := readValue_fst_nil (matchPhrase_nil (DICTIONARIES s)) (h.list s).remark hu
    have hlist : (readList s (about.list s).extra).1 = [] := hnone
    have hextra : remarkOf up (decide (s = .infrastructure))
        (pushNonempty [] (readList s (about.list s).extra).2) = (about.list s).extra :=
      hagain.mpr hu
    rw [hlist, List.append_nil, h.checked, h.checked, hextra]

theorem laundryState_eq {l : LaundryState} {laundry ironing : Bool} {extra : JsString} :
    (⟨laundry, ironing, extra⟩ : LaundryState) = l ↔
      laundry = l.laundry ∧ ironing = l.ironing ∧ extra = l.extra := by
  cases l
  rw [LaundryState.mk.injEq]

theorem laundry_again (h : AboutOk up about) {r : AboutReading}
    (hflags : r.laundry = (flagKeys about.laundry.laundry about.laundry.ironing ++
      (readLaundry about.laundry.extra).1).foldl LaundryState.assign ⟨false, false, []⟩)
    (hextras : r.laundryExtras = pushNonempty [] (readLaundry about.laundry.extra).2) :
    (r.state up).laundry = about.laundry ↔ ¬Known matchLaundry about.laundry.extra := by
  have hagain := remark_again laundry_text.2.2 h.laundry
  have hread : readLaundry about.laundry.extra = readValue matchLaundry about.laundry.extra := rfl
  rw [state_laundry, hflags, hextras, hread]
  constructor
  · intro heq
    exact hagain.mp (laundryState_eq.mp heq).2.2
  · intro hu
    have hnone := readValue_fst_nil laundry_text.2.2 h.laundry.remark hu
    rw [hnone, List.append_nil, foldl_flags, hagain.mpr hu]

/-! ## The rest -/

/-- Lines keep their weight only when none of them has a label. -/
theorem weight_otherTexts (L : List JsString) :
    ((otherTexts L).map weight).sum ≤ (L.map weight).sum ∧
      (((otherTexts L).map weight).sum = (L.map weight).sum → ∀ l ∈ L, readLine l = .free) := by
  induction L with
  | nil => simp [otherTexts]
  | cons l L ih =>
    obtain ⟨hle, hfree⟩ := weight_otherText l
    have hcons : ((otherTexts (l :: L)).map weight).sum =
        ((readLine l).otherText l).elim 0 weight + ((otherTexts L).map weight).sum := by
      rw [otherTexts, List.filterMap_cons]
      cases (readLine l).otherText l <;> simp [otherTexts]
    rw [hcons, List.map_cons, List.sum_cons]
    refine ⟨Nat.add_le_add hle ih.1, fun heq => ?_⟩
    have hboth : ((readLine l).otherText l).elim 0 weight = weight l ∧
        ((otherTexts L).map weight).sum = (L.map weight).sum := by
      have hrest := ih.1
      omega
    intro m hm
    rcases List.mem_cons.mp hm with rfl | hm
    · exact hfree.mp hboth.1
    · exact ih.2 hboth.2 m hm

theorem OtherLines.weight {other : JsString} (h : OtherLines other tail) :
    (tail.map weight).sum = weight other := by
  cases h with
  | alone => exact weight_lines other
  | gap =>
    rw [List.map_cons, List.sum_cons, weight_lines]
    exact Nat.zero_add _
  | absent hnil =>
    rw [hnil]
    rfl

theorem OtherLines.ok (h : AboutOk up about) (ht : OtherLines about.other tail) :
    ∀ l ∈ tail, LineOk l := by
  cases ht with
  | alone => exact h.lines_other
  | gap =>
    intro l hl
    rcases List.mem_cons.mp hl with rfl | hl
    · exact lineOk_nil
    · exact h.lines_other l hl
  | absent => simp

theorem OtherLines.free_iff {other : JsString} (h : OtherLines other tail) :
    (∀ l ∈ tail, readLine l = .free) ↔ ∀ l ∈ lines other, readLine l = .free := by
  cases h with
  | alone => exact Iff.rfl
  | gap => simp [readLine_nil]
  | absent hnil => simp [hnil, lines, readLine_nil]

/-- The rest is the same again exactly when no line of it has a label. -/
theorem other_again (h : AboutOk up about) (hname : StaysInLine name)
    (hlocation : StaysInLine location) (ht : OtherLines about.other tail) :
    tidyOther (otherTexts ((aboutRows up about name location).map readRaw ++ tail)) = about.other ↔
      ∀ l ∈ tail, readLine l = .free := by
  have hrows : otherTexts ((aboutRows up about name location).map readRaw ++ tail) =
      otherTexts tail := by
    have hnone : otherTexts ((aboutRows up about name location).map readRaw) = [] :=
      List.filterMap_eq_nil_iff.mpr fun l hl => (readLine_rows h hname hlocation l hl).1
    rw [otherTexts, List.filterMap_append, ← otherTexts, ← otherTexts, hnone, List.nil_append]
  rw [hrows]
  constructor
  · intro heq
    have htexts := otherTexts_ok (OtherLines.ok h ht)
    have hweight := congrArg weight heq
    rw [weight_tidyOther fun l hl => (htexts l hl).trimmed, ← ht.weight] at hweight
    exact (weight_otherTexts tail).2 hweight
  · intro hfree
    have hsame : otherTexts tail = tail := by
      have hmap : otherTexts tail = tail.filterMap some :=
        List.filterMap_congr fun l hl => by rw [hfree l hl]; rfl
      rw [hmap, List.filterMap_some]
    rw [hsame]
    cases ht with
    | alone => exact h.other_again.1
    | gap => exact h.other_again.2
    | absent hnil =>
      rw [hnil]
      rfl

end Again

/-! ## One more round -/

section Round

variable {up : UpperCase} {text : JsString}

theorem hotelAbout_eq {a b : HotelAbout} (hlist : ∀ s, a.list s = b.list s)
    (hlaundry : a.laundry = b.laundry) (hother : a.other = b.other) : a = b := by
  have hi := hlist .infrastructure
  have hf := hlist .facility
  have hr := hlist .rooms
  cases a
  cases b
  simp only [HotelAbout.list] at hi hf hr hlaundry hother
  rw [hi, hf, hr, hlaundry, hother]

theorem list_known_iff {L : List JsString} (hL : ∀ l ∈ L, LineOk l) (s : ListSection) :
    Known (matchPhrase (DICTIONARIES s)) (((gather L).state up).list s).extra ↔
      ∃ x ∈ listRemarks up s L, Known (matchPhrase (DICTIONARIES s)) x := by
  rw [state_list]
  exact known_remarkOf (matchPhrase_nil _) (leftTexts_remark (listValues_ok hL s))

theorem laundry_known_iff {L : List JsString} (hL : ∀ l ∈ L, LineOk l) :
    Known matchLaundry ((gather L).state up).laundry.extra ↔
      ∃ x ∈ laundryRemarks up L, Known matchLaundry x := by
  rw [state_laundry]
  show Known matchLaundry (remarkOf up true (leftTexts matchLaundry (laundryValues L))) ↔
    ∃ x ∈ letterFirst up true (leftTexts matchLaundry (laundryValues L)), Known matchLaundry x
  exact known_remarkOf laundry_text.2.2 (leftTexts_remark (laundryValues_ok hL))

/-- A line of the rest has a label when a text has one that goes to the rest. -/
theorem free_other_iff {L : List JsString} (hL : ∀ l ∈ L, LineOk l) :
    (∀ l ∈ lines (tidyOther (otherTexts L)), readLine l = .free) ↔
      ∀ x ∈ otherTexts L, readLine x = .free := by
  have hok := otherTexts_ok hL
  have hfull := fullLines_tidyOther (fun l hl => (hok l hl).trimmed) fun l hl => (hok l hl).line
  constructor
  · intro hfree x hx
    by_cases hnil : x = []
    · rw [hnil, readLine_nil]
    · have hmem : x ∈ fullLines (tidyOther (otherTexts L)) := by
        rw [hfull]
        exact List.mem_filter.mpr ⟨hx, by simpa using hnil⟩
      exact hfree x (List.mem_filter.mp hmem).1
  · intro hfree l hl
    rcases mem_lines_tidyOther (fun l hl => (hok l hl).trimmed) (fun l hl => (hok l hl).line) hl
      with rfl | hl
    · exact readLine_nil
    · exact hfree l hl

/-- A state is built and parsed to itself exactly when no line of the rest has a label and no remark
a known phrase. -/
theorem build_again_iff {about : HotelAbout} {name location : JsString} (hok : AboutOk up about)
    (hname : StaysInLine name) (hlocation : StaysInLine location) :
    parseHotelAbout up (buildHotelAboutText up about name location) = .ok about ↔
      (∀ l ∈ lines about.other, readLine l = .free) ∧
        (∀ s, ¬Known (matchPhrase (DICTIONARIES s)) (about.list s).extra) ∧
        ¬Known matchLaundry about.laundry.extra := by
  obtain ⟨tail, htail, hlines⟩ := aboutLines_build hok hname hlocation
  rw [parseHotelAbout_eq, hlines]
  obtain ⟨r, hr⟩ : ∃ r, r = gather ((aboutRows up about name location).map readRaw ++ tail) :=
    ⟨_, rfl⟩
  have hrest : (r.state up).other = about.other ↔ ∀ l ∈ tail, readLine l = .free := by
    rw [hr, state_other]
    exact other_again hok hname hlocation htail
  rw [← hr, ← htail.free_iff]
  constructor
  · intro heq
    split_ifs at heq
    rw [Except.ok.injEq] at heq
    have hfree := hrest.mp (by rw [heq])
    obtain ⟨hlists, hflags, hlaundry⟩ := gather_build hok hname hlocation hfree hr
    refine ⟨hfree, fun s => ?_, ?_⟩
    · exact (list_again hok (hlists s).1 (hlists s).2).mp (by rw [heq])
    · exact (laundry_again hok hflags hlaundry).mp (by rw [heq])
  · rintro ⟨hfree, hunknown, hlaundryUnknown⟩
    obtain ⟨hlists, hflags, hlaundry⟩ := gather_build hok hname hlocation hfree hr
    rw [if_neg, Except.ok.injEq]
    · apply hotelAbout_eq
      · intro s
        exact (list_again hok (hlists s).1 (hlists s).2).mpr (hunknown s)
      · exact (laundry_again hok hflags hlaundry).mpr hlaundryUnknown
      · exact hrest.mpr hfree
    · rintro ⟨l, hl, hread⟩
      rcases List.mem_append.mp hl with hl | hl
      · exact (readLine_rows hok hname hlocation l hl).2 hread
      · rw [hfree l hl] at hread
        cases hread

/-- **A description comes back exactly when nothing in it changes its place**: no line has an
inherited label, no text that goes to the rest is a line with a label, and no remark that the lines
of a section leave has a phrase of the dictionary as a piece. -/
theorem roundTrips_iff (up : UpperCase) (text name location : JsString)
    (hname : StaysInLine name) (hlocation : StaysInLine location) :
    RoundTrips up text name location ↔ AboutSound up text := by
  have hL := aboutLines_ok text
  have hagain := build_again_iff (gather_ok up hL) hname hlocation
  have hlists : (∀ s, ¬Known (matchPhrase (DICTIONARIES s))
      (((gather (aboutLines text)).state up).list s).extra) ↔
      ∀ s, ∀ x ∈ listRemarks up s (aboutLines text),
        ¬Known (matchPhrase (DICTIONARIES s)) x := by
    apply forall_congr'
    intro s
    rw [list_known_iff hL s]
    push Not
    rfl
  have hlaundry : ¬Known matchLaundry ((gather (aboutLines text)).state up).laundry.extra ↔
      ∀ x ∈ laundryRemarks up (aboutLines text), ¬Known matchLaundry x := by
    rw [laundry_known_iff hL]
    push Not
    rfl
  have hother : (∀ l ∈ lines ((gather (aboutLines text)).state up).other, readLine l = .free) ↔
      ∀ x ∈ otherTexts (aboutLines text), readLine x = .free := by
    rw [state_other]
    exact free_other_iff hL
  rw [hlists, hlaundry, hother] at hagain
  constructor
  · rintro ⟨about, hparse, hbuild⟩
    rw [parseHotelAbout_eq] at hparse
    split_ifs at hparse with hbad
    rw [Except.ok.injEq] at hparse
    rw [← hparse] at hbuild
    obtain ⟨hfree, hl, hw⟩ := hagain.mp hbuild
    exact ⟨fun l hl hread => hbad ⟨l, hl, hread⟩, hfree, hl, hw⟩
  · intro h
    refine ⟨(gather (aboutLines text)).state up, ?_, hagain.mpr ⟨h.free, h.lists, h.laundry⟩⟩
    rw [parseHotelAbout_eq, if_neg]
    rintro ⟨l, hl, hread⟩
    exact h.named l hl hread

end Round

/-! ## Russian and Latin letters -/

/-- Small letters of the two alphabets. -/
def isSmallLetter (u : UInt16) : Prop :=
  97 ≤ u.toNat ∧ u.toNat ≤ 122 ∨ 1072 ≤ u.toNat ∧ u.toNat ≤ 1103

instance (u : UInt16) : Decidable (isSmallLetter u) := by unfold isSmallLetter; infer_instance

theorem toNat_upper {u : UInt16} (h : isSmallLetter u) : (u - 32).toNat = u.toNat - 32 := by
  apply UInt16.toNat_sub_of_le
  rw [UInt16.le_iff_toNat_le]
  simp only [isSmallLetter] at h
  show 32 ≤ u.toNat
  omega

/-- `toUpperCase` of the letters of the dictionaries. -/
def UpperCase.russian : UpperCase where
  unit u := if isSmallLetter u then [u - 32] else if u = 0x451 then [0x401] else [u]
  visible u hu := by
    split_ifs with hsmall hyo
    · refine ⟨List.cons_ne_nil _ _, fun v hv => ?_⟩
      have hnat := toNat_upper hsmall
      rw [List.mem_singleton.mp hv]
      simp only [isSmallLetter] at hsmall
      simp only [isEdge, isSpace, isComma, stop, Bool.or_eq_false_iff, decide_eq_false_iff_not,
        beq_eq_false_iff_ne, ne_eq, ← UInt16.toNat_inj, hnat]
      refine ⟨⟨by omega, ?_⟩, ?_⟩
      · constructor
        · show ¬u.toNat - 32 = 0x2C
          omega
        · show ¬u.toNat - 32 = 0x3B
          omega
      · show ¬u.toNat - 32 = 0x2E
        omega
    · refine ⟨List.cons_ne_nil _ _, fun v hv => ?_⟩
      rw [List.mem_singleton.mp hv]
      decide
    · refine ⟨List.cons_ne_nil _ _, fun v hv => ?_⟩
      rw [List.mem_singleton.mp hv, hu]
  upper u v s h := by
    split_ifs at h with hsmall hyo
    · have hnat := toNat_upper hsmall
      have hv : u - 32 = v := (List.cons.inj h).1
      subst hv
      simp only [isSmallLetter] at hsmall
      have hlarge : ¬isSmallLetter (u - 32) := by
        simp only [isSmallLetter, hnat]
        omega
      have hyo : u - 32 ≠ 0x451 := by
        intro hbad
        have heq := congrArg UInt16.toNat hbad
        rw [hnat] at heq
        have hvalue : (0x451 : UInt16).toNat = 1105 := rfl
        omega
      rw [if_neg hlarge, if_neg hyo]
    · have hv : (0x401 : UInt16) = v := (List.cons.inj h).1
      subst hv
      decide
    · have hv : u = v := (List.cons.inj h).1
      subst hv
      rw [if_neg hsmall, if_neg hyo]

theorem staysInLine_of_all {name : JsString}
    (h : (oneLine name).all (fun u => !isLineEnd u) = true) : StaysInLine name := by
  intro u hu
  simpa using List.all_eq_true.mp h u hu

/-- A description with a known phrase, a remark that holds none, and a line of its own. -/
def riverside : JsString :=
  literal "Услуги прачечной/глажки: есть прачечная, крахмалим рубашки\nДом у реки"

theorem aboutSound_riverside : AboutSound .russian riverside := by
  obtain ⟨ps, hspelled, hnamed, hfree, hlists, hnone⟩ : ∃ ps,
      List.Forall₂ SpelledPhrases LAUNDRY_PHRASES ps ∧
      (∀ l ∈ aboutLines riverside, readLine l ≠ .inherited) ∧
      (∀ x ∈ otherTexts (aboutLines riverside), readLine x = .free) ∧
      (∀ s ∈ [ListSection.infrastructure, .facility, .rooms],
        listValues s (aboutLines riverside) = []) ∧
      ∀ x ∈ letterFirst .russian true (leftTexts (matchSpelledPhrases ps)
        (laundryValues (aboutLines riverside))), ∀ p ∈ phrases x, matchSpelledPhrases ps p = none := by
    apply Exists.intro
    constructor
    · unfold LAUNDRY_PHRASES
      repeat' constructor
    · decide +kernel
  refine ⟨hnamed, hfree, fun s x hx => ?_, ?_⟩
  · rw [listRemarks, hlists s (by cases s <;> decide)] at hx
    cases hx
  · rintro x hx ⟨p, hp, hsome⟩
    rw [laundryRemarks, matchLaundry_spelled hspelled] at hx
    rw [matchLaundry_spelled hspelled, hnone x hx p hp] at hsome
    cases hsome

/-- It is the same each time it is saved and opened. -/
theorem roundTrips_iff_riverside : RoundTrips .russian riverside (literal "Двор") [] :=
  (roundTrips_iff .russian riverside (literal "Двор") [] (staysInLine_of_all (by decide +kernel))
    (staysInLine_of_all (by decide))).mpr aboutSound_riverside

/-- The text of a line «Прочее» that is itself a line with a label is lost. -/
theorem description_lost : ¬∀ (up : UpperCase) (text name location : JsString),
    RoundTrips up text name location := by
  intro h
  obtain ⟨about, hfirst, hsecond⟩ := h .russian (literal "Прочее: Название: Парк") [] []
  have hboth : ((parseHotelAbout .russian (literal "Прочее: Название: Парк")).toOption.bind fun a =>
      (parseHotelAbout .russian (buildHotelAboutText .russian a [] [])).toOption.map fun b =>
        (a.other.length, b.other.length)) = some (14, 0) := by decide +kernel
  rw [hfirst] at hboth
  simp only [Except.toOption, Option.bind_some] at hboth
  rw [hsecond] at hboth
  simp only [Option.map_some, Option.some.injEq, Prod.mk.injEq] at hboth
  omega

end KarsHotel
