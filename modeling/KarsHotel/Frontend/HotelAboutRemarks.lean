import KarsHotel.Frontend.HotelAboutPieces

/-!
# What is left of a value

The remark of a section is what the dictionary does not know of its values. It is a row of pieces,
and so are remarks joined with each other and with the texts of the dictionary.

* `Remark`; **`joinLeftover_cut`**: what is left of the pieces of a value is empty or a remark;
* `Remark.join`, `Remark.capitalize`: joined remarks, and a remark with a capital letter;
* `readValue_join`: a value of known texts and a remark reads as what the remark reads;
* `readValue_unknown`, `readValue_known`: a remark without a known phrase is read as it is, and
  another one gets shorter.
-/

namespace KarsHotel

open JsText

/-- Neither the end of a line nor a space that does not break one. -/
def Clean (x : JsString) : Prop := ∀ u ∈ x, isLineEnd u = false ∧ u ≠ noBreakSpace

theorem Clean.line {x : JsString} (h : Clean x) : newline ∉ x := fun hmem =>
  absurd (h _ hmem).1 (by decide)

theorem Clean.append {x y : JsString} (hx : Clean x) (hy : Clean y) : Clean (x ++ y) := by
  intro u hu
  rcases List.mem_append.mp hu with hu | hu
  · exact hx u hu
  · exact hy u hu

/-- A remark: a row of pieces that starts at no edge and ends in no tail. -/
structure Remark (x : JsString) : Prop where
  row : PieceRow x (tokenize x)
  front : ∀ u ∈ x.head?, isEdge u = false
  back : ∀ u ∈ x.getLast?, isTail u = false
  clean : Clean x

theorem isSpace_of_isEdge {u : UInt16} (h : isEdge u = false) : isSpace u = false := by
  simp only [isEdge, Bool.or_eq_false_iff] at h
  exact h.1.1

theorem isSpace_of_isTail {u : UInt16} (h : isTail u = false) : isSpace u = false := by
  simp only [isTail, Bool.or_eq_false_iff] at h
  exact h.1

theorem isTail_of_isEdge {u : UInt16} (h : isEdge u = false) : isTail u = false := by
  simp only [isEdge, Bool.or_eq_false_iff] at h
  simp only [isTail, Bool.or_eq_false_iff]
  exact h.1

/-! ## The ends of what is left -/

section Ends

variable {w w' sep : JsString} {ks : List Token}

theorem Separates.congr (h : Separates w sep) (hlast : w'.getLast? = w.getLast?) :
    Separates w' sep := by
  cases h with
  | comma a c b ha hc hb hw hs =>
    exact .comma a c b ha hc hb (by rw [hlast]; exact hw) (by rw [hlast]; exact hs)
  | stop a ha hne => exact .stop a ha hne

theorem Separates.edges (h : Separates w sep) : ∀ u ∈ sep, isEdge u = true := by
  cases h with
  | comma a c b ha hc hb =>
    intro u hu
    rcases List.mem_append.mp hu with hu | hu
    · simp [isEdge, ha u hu]
    · rcases List.mem_cons.mp hu with rfl | hu
      · simp [isEdge, hc]
      · simp [isEdge, hb u hu]
  | stop a ha =>
    intro u hu
    rcases List.mem_cons.mp hu with rfl | hu
    · decide
    · simp [isEdge, ha u hu]

theorem PieceText.suffix (h : PieceText w) (hs : w' <:+ w) (hne : w' ≠ [])
    (hfront : ∀ u ∈ w'.head?, isSpace u = false) : PieceText w' where
  ne := hne
  front := hfront
  plain u hu := h.plain u (hs.subset hu)
  noStop := h.noStop.suffix hs

theorem PieceText.start (h : PieceText w) (hs : w' <+: w) (hne : w' ≠ []) : PieceText w' where
  ne := hne
  front := by
    obtain ⟨t, rfl⟩ := hs
    have hfront := h.front
    rwa [List.head?_append_of_ne_nil _ hne] at hfront
  plain u hu := h.plain u (hs.subset hu)
  noStop := h.noStop.prefix hs

theorem Cut.dropEdges (h : Cut ks) :
    ∃ ks', Cut ks' ∧ ks'.flatMap Token.all = (ks.flatMap Token.all).dropWhile isEdge ∧
      ks'.length ≤ ks.length := by
  have hsuffix : ∀ {w : JsString}, PieceText w → w.dropWhile isEdge ≠ [] →
      PieceText (w.dropWhile isEdge) := by
    intro w hw hne
    refine hw.suffix (List.dropWhile_suffix _) hne fun u hu => ?_
    exact isSpace_of_isEdge (head?_dropWhile w u hu)
  induction h with
  | nil => exact ⟨[], .nil, rfl, le_refl _⟩
  | @last w hw =>
    by_cases hne : w.dropWhile isEdge = []
    · exact ⟨[], .nil, by simp [Token.all, hne], Nat.zero_le _⟩
    · exact ⟨[⟨w.dropWhile isEdge, []⟩], .last (hsuffix hw hne), by simp [Token.all], le_refl _⟩
  | @cons w sep ks hw hs _ ih =>
    have hall : (⟨w, sep⟩ :: ks : List Token).flatMap Token.all =
        w ++ (sep ++ ks.flatMap Token.all) := by
      rw [List.flatMap_cons, Token.all, List.append_assoc]
    rw [hall, List.dropWhile_append]
    by_cases hne : w.dropWhile isEdge = []
    · have hsep : sep.dropWhile isEdge = [] :=
        List.dropWhile_eq_nil_iff.mpr hs.edges
      rw [if_pos (by simp [hne]), List.dropWhile_append, if_pos (by simp [hsep])]
      rcases ih with ⟨ks', hcut, hks, hlen⟩
      exact ⟨ks', hcut, hks, Nat.le_succ_of_le hlen⟩
    · rw [if_neg (by simpa using hne)]
      have hlast : (w.dropWhile isEdge).getLast? = w.getLast? := by
        conv_rhs => rw [← List.takeWhile_append_dropWhile (p := isEdge) (l := w)]
        rw [List.getLast?_append_of_ne_nil _ hne]
      refine ⟨⟨w.dropWhile isEdge, sep⟩ :: ks, .cons (hsuffix hw hne) (hs.congr hlast) ‹_›, ?_,
        le_refl _⟩
      rw [List.flatMap_cons, Token.all, List.append_assoc]

theorem Cut.dropTail (h : Cut ks) (hne : ks ≠ []) :
    ∃ ts, PieceRow ((ks.flatMap Token.all).rdropWhile isTail) ts ∧ ts.length ≤ ks.length := by
  have hpiece : ∀ {w : JsString}, PieceText w → PieceRow (w.rdropWhile isTail)
      [⟨w.rdropWhile isTail, []⟩] := by
    intro w hw
    refine .last (hw.start (List.rdropWhile_prefix _ _) fun hnil => ?_)
    rw [List.rdropWhile_eq_nil_iff] at hnil
    obtain ⟨u, hu⟩ : ∃ u, w.head? = some u := by
      cases w with
      | nil => exact absurd rfl hw.ne
      | cons u w => exact ⟨u, rfl⟩
    have htail := hnil u (List.mem_of_head? hu)
    simp [isTail, hw.front u hu, (hw.plain u (List.mem_of_head? hu)).1] at htail
  induction h with
  | nil => exact absurd rfl hne
  | @last w hw =>
    have hall : ([⟨w, []⟩] : List Token).flatMap Token.all = w := by simp [Token.all]
    rw [hall]
    exact ⟨_, hpiece hw, le_refl _⟩
  | @cons w sep ks hw hs _ ih =>
    have hall : (⟨w, sep⟩ :: ks : List Token).flatMap Token.all =
        w ++ (sep ++ ks.flatMap Token.all) := by
      rw [List.flatMap_cons, Token.all, List.append_assoc]
    rw [hall]
    by_cases hks : ks = []
    · rw [hks, List.flatMap_nil, List.append_nil]
      cases hs with
      | comma a c b ha hc hb =>
        have htail : ∀ u ∈ a ++ c :: b, isTail u = true := by
          intro u hu
          rcases List.mem_append.mp hu with hu | hu
          · simp [isTail, ha u hu]
          · rcases List.mem_cons.mp hu with rfl | hu
            · simp [isTail, hc]
            · simp [isTail, hb u hu]
        rw [rdropWhile_append_of_all htail]
        exact ⟨_, hpiece hw, by simp⟩
      | stop a ha =>
        have htail : ∀ u ∈ a, isTail u = true := fun u hu => by simp [isTail, ha u hu]
        have hdrop : (w ++ KarsHotel.stop :: a).rdropWhile isTail = w ++ [KarsHotel.stop] := by
          have hsplit : w ++ KarsHotel.stop :: a = (w ++ [KarsHotel.stop]) ++ a := by simp
          rw [hsplit, rdropWhile_append_of_all htail,
            List.rdropWhile_concat_neg _ _ _ (by decide)]
        rw [hdrop]
        refine ⟨_, .last ⟨by simp, ?_, ?_, ?_⟩, by simp⟩
        · rw [List.head?_append_of_ne_nil _ hw.ne]
          exact hw.front
        · intro u hu
          rcases List.mem_append.mp hu with hu | hu
          · exact hw.plain u hu
          · rw [List.mem_singleton] at hu
            exact hu ▸ by decide
        · rw [List.isChain_append]
          refine ⟨hw.noStop, List.isChain_singleton _, ?_⟩
          rintro u - v hv ⟨-, hspace⟩
          simp only [List.head?_cons, Option.mem_def, Option.some.injEq] at hv
          rw [← hv] at hspace
          revert hspace
          decide
    · obtain ⟨ts, hreads, hlen⟩ := ih hks
      have hrest : (sep ++ ks.flatMap Token.all).rdropWhile isTail =
          sep ++ (ks.flatMap Token.all).rdropWhile isTail := rdropWhile_append hreads.ne_nil
      have hne : (sep ++ ks.flatMap Token.all).rdropWhile isTail ≠ [] := by
        rw [hrest]
        exact List.append_ne_nil_of_right_ne_nil _ hreads.ne_nil
      rw [rdropWhile_append hne, hrest]
      exact ⟨_, .cons hw hs hreads, Nat.succ_le_succ hlen⟩

/-- What is left is empty, or a row of pieces with clean ends and no more pieces than were left. -/
theorem joinLeftover_cut (h : Cut ks) (hclean : Clean (ks.flatMap Token.all)) :
    joinLeftover ks = [] ∨
      Remark (joinLeftover ks) ∧ (tokenize (joinLeftover ks)).length ≤ ks.length := by
  obtain ⟨ks', hcut, hall, hlen⟩ := h.dropEdges
  set x := strip isEdge isTail (ks.flatMap Token.all) with hx
  have hfront : ∀ u ∈ x.head?, isEdge u = false := fun u hu =>
    head?_dropWhile _ u (head?_rdropWhile _ u hu)
  have hback : ∀ u ∈ x.getLast?, isTail u = false := getLast?_rdropWhile _
  have htrim : joinLeftover ks = x :=
    Trimmed.trim_eq ⟨fun u hu => isSpace_of_isEdge (hfront u hu),
      fun u hu => isSpace_of_isTail (hback u hu)⟩
  rw [htrim]
  by_cases hne : ks' = []
  · left
    rw [hx, strip, ← hall, hne]
    rfl
  · right
    obtain ⟨ts, hreads, hcount⟩ := hcut.dropTail hne
    rw [hall] at hreads
    have htokens : tokenize x = ts := hreads.tokenize
    refine ⟨⟨htokens ▸ hreads, hfront, hback, fun u hu => hclean u (mem_of_mem_strip hu)⟩, ?_⟩
    rw [htokens]
    omega

end Ends

/-! ## Joining -/

/-- The phrases a text is compared by. -/
def phrases (x : JsString) : List JsString := (tokenize x).map fun t => normalizePhrase t.text

section Join

variable {x y sep : JsString} {ts us : List Token}

/-- A separator of the source, which may follow any text that ends in no white space. -/
def Joins (sep : JsString) : Prop :=
  ∀ w : JsString, (∀ u ∈ w.getLast?, isSpace u = false) → Separates w sep

theorem joins_listJoin : Joins listJoin := by
  intro w hw
  have hsplit : listJoin = [] ++ 0x2C :: [space] := by decide
  rw [hsplit]
  refine .comma [] 0x2C [space] (by simp) (by decide) ?_ hw (by simp)
  intro u hu
  rw [List.mem_singleton] at hu
  exact hu ▸ by decide

theorem joins_sentenceJoin : Joins sentenceJoin := by
  intro w _
  have hsplit : sentenceJoin = stop :: [space] := by decide
  rw [hsplit]
  refine .stop [space] ?_ (by simp)
  intro u hu
  rw [List.mem_singleton] at hu
  exact hu ▸ by decide

theorem PieceRow.join (hsep : Joins sep) (hx : PieceRow x ts) (hy : PieceRow y us)
    (hlast : ∀ u ∈ x.getLast?, isSpace u = false) :
    ∃ ts', PieceRow (x ++ (sep ++ y)) (ts' ++ us) ∧ ts'.map Token.text = ts.map Token.text := by
  induction hx with
  | @last w hw => exact ⟨[⟨w, sep⟩], .cons hw (hsep w hlast) hy, rfl⟩
  | @cons w s r ts hw hs hr ih =>
    have hback : ∀ u ∈ r.getLast?, isSpace u = false := by
      intro u hu
      apply hlast
      rw [List.getLast?_append_of_ne_nil _ (List.append_ne_nil_of_right_ne_nil _ hr.ne_nil),
        List.getLast?_append_of_ne_nil _ hr.ne_nil]
      exact hu
    obtain ⟨ts', hrow, htexts⟩ := ih hback
    refine ⟨⟨w, s⟩ :: ts', ?_, by rw [List.map_cons, List.map_cons, htexts]⟩
    have hassoc : w ++ (s ++ r) ++ (sep ++ y) = w ++ (s ++ (r ++ (sep ++ y))) := by simp
    rw [hassoc]
    exact .cons hw hs hrow

theorem Remark.tokenize_join (hsep : Joins sep) (hx : Remark x) (hy : Remark y) :
    ∃ ts', PieceRow (x ++ (sep ++ y)) (ts' ++ tokenize y) ∧
      ts'.map Token.text = (tokenize x).map Token.text :=
  hx.row.join hsep hy.row fun u hu => isSpace_of_isTail (hx.back u hu)

theorem map_phrases (h : ts.map Token.text = us.map Token.text) :
    ts.map (fun t => normalizePhrase t.text) = us.map fun t => normalizePhrase t.text := by
  have hcomp : ∀ vs : List Token, vs.map (fun t => normalizePhrase t.text) =
      (vs.map Token.text).map normalizePhrase := by
    intro vs
    rw [List.map_map]
    rfl
  rw [hcomp, h, ← hcomp]

theorem Remark.join (hsep : Joins sep) (hclean : Clean sep) (hx : Remark x) (hy : Remark y) :
    Remark (x ++ (sep ++ y)) ∧ phrases (x ++ (sep ++ y)) = phrases x ++ phrases y := by
  obtain ⟨ts', hrow, htexts⟩ := hx.tokenize_join hsep hy
  have htokens := hrow.tokenize
  refine ⟨⟨htokens ▸ hrow, ?_, ?_, hx.clean.append (hclean.append hy.clean)⟩, ?_⟩
  · rw [List.head?_append_of_ne_nil _ hx.row.ne_nil]
    exact hx.front
  · rw [List.getLast?_append_of_ne_nil _ (List.append_ne_nil_of_right_ne_nil _ hy.row.ne_nil),
      List.getLast?_append_of_ne_nil _ hy.row.ne_nil]
    exact hy.back
  · rw [phrases, htokens, List.map_append, map_phrases htexts]
    rfl

theorem Remark.intercalate (hsep : Joins sep) (hclean : Clean sep) {xs : List JsString}
    (hne : xs ≠ []) (h : ∀ x ∈ xs, Remark x) :
    Remark (sep.intercalate xs) ∧ phrases (sep.intercalate xs) = xs.flatMap phrases := by
  induction xs with
  | nil => exact absurd rfl hne
  | cons x xs ih =>
    have hx := h x List.mem_cons_self
    cases xs with
    | nil => simpa using hx
    | cons y ys =>
      obtain ⟨hrest, hphrases⟩ := ih (List.cons_ne_nil _ _) fun z hz =>
        h z (List.mem_cons_of_mem _ hz)
      obtain ⟨hjoin, hall⟩ := hx.join hsep hclean hrest
      rw [List.intercalate_cons_cons, List.append_assoc]
      refine ⟨hjoin, ?_⟩
      rw [hall, hphrases]
      rfl

theorem clean_listJoin : Clean listJoin := by
  intro u hu
  rcases (by simpa [listJoin, literal] using hu : u = 0x2C ∨ u = 0x20) with rfl | rfl <;> decide

theorem clean_sentenceJoin : Clean sentenceJoin := by
  intro u hu
  rcases (by simpa [sentenceJoin, literal] using hu : u = 0x2E ∨ u = 0x20) with rfl | rfl <;>
    decide

end Join

/-! ## Capital letters -/

section Capital

variable (up : UpperCase) {w x y sep : JsString} {ts : List Token}

theorem capitalize_append (hne : x ≠ []) : capitalize up (x ++ y) = capitalize up x ++ y := by
  cases x with
  | nil => exact absurd rfl hne
  | cons u x => exact (List.append_assoc _ _ _).symm

theorem capitalize_capitalize (hfront : ∀ u ∈ x.head?, isEdge u = false) :
    capitalize up (capitalize up x) = capitalize up x := by
  cases x with
  | nil => rfl
  | cons u x =>
    show capitalize up (up.unit u ++ x) = up.unit u ++ x
    cases hu : up.unit u with
    | nil => exact absurd hu (up.visible u (hfront u rfl)).1
    | cons v s =>
      show up.unit v ++ (s ++ x) = v :: (s ++ x)
      rw [up.upper u v s hu]
      rfl

theorem capitalize_ne_nil (hfront : ∀ u ∈ x.head?, isEdge u = false) (hne : x ≠ []) :
    capitalize up x ≠ [] := by
  cases x with
  | nil => exact absurd rfl hne
  | cons u x => exact List.append_ne_nil_of_left_ne_nil (up.visible u (hfront u rfl)).1 _

/-- Every unit of a text with a capital letter is its own or no edge. -/
theorem mem_capitalize (hfront : ∀ u ∈ x.head?, isEdge u = false) {v : UInt16}
    (hv : v ∈ capitalize up x) : v ∈ x ∨ isEdge v = false := by
  cases x with
  | nil => exact Or.inl hv
  | cons u x =>
    rcases List.mem_append.mp hv with hv | hv
    · exact Or.inr ((up.visible u (hfront u rfl)).2 v hv)
    · exact Or.inl (List.mem_cons_of_mem _ hv)

theorem head?_capitalize (hfront : ∀ u ∈ x.head?, isEdge u = false) :
    ∀ u ∈ (capitalize up x).head?, isEdge u = false := by
  cases x with
  | nil => simp [capitalize]
  | cons u x =>
    obtain ⟨hne, hunits⟩ := up.visible u (hfront u rfl)
    intro v hv
    rw [capitalize, List.head?_append_of_ne_nil _ hne] at hv
    exact hunits v (List.mem_of_head? hv)

/-- The last unit of a text with a capital letter is the same, or no edge. -/
theorem getLast?_capitalize (hfront : ∀ u ∈ x.head?, isEdge u = false) :
    (capitalize up x).getLast? = x.getLast? ∨
      ∀ u ∈ (capitalize up x).getLast?, isEdge u = false := by
  cases x with
  | nil => exact Or.inl rfl
  | cons u x =>
    cases x with
    | nil =>
      right
      intro v hv
      rw [capitalize, List.append_nil] at hv
      exact (up.visible u (hfront u rfl)).2 v (List.mem_of_getLast? hv)
    | cons v x =>
      left
      rw [capitalize, List.getLast?_append_of_ne_nil _ (List.cons_ne_nil v x),
        List.getLast?_cons_cons]

theorem PieceText.capitalize (h : PieceText w) (hfront : ∀ u ∈ w.head?, isEdge u = false) :
    PieceText (capitalize up w) where
  ne := capitalize_ne_nil up hfront h.ne
  front u hu := isSpace_of_isEdge (head?_capitalize up hfront u hu)
  plain u hu := by
    rcases mem_capitalize up hfront hu with hu | hu
    · exact h.plain u hu
    · simp only [isEdge, Bool.or_eq_false_iff] at hu
      refine ⟨hu.1.2, fun hline => ?_⟩
      rw [hline] at hu
      exact absurd hu.1.1 (by decide)
  noStop := by
    cases w with
    | nil => exact absurd rfl h.ne
    | cons u s =>
      have hunits := (up.visible u (hfront u rfl)).2
      have hdot : ∀ v ∈ up.unit u, v ≠ stop := by
        intro v hv hstop
        have hedge := hunits v hv
        rw [hstop] at hedge
        exact absurd hedge (by decide)
      rw [KarsHotel.capitalize, List.isChain_append]
      refine ⟨?_, h.noStop.tail, fun v hv x _ hchain => ?_⟩
      · rw [List.isChain_iff_getElem]
        intro i hi hchain
        exact hdot _ (List.getElem_mem _) hchain.1
      · exact hdot v (List.mem_of_getLast? hv) hchain.1

theorem Separates.capitalize (h : Separates w sep) (hfront : ∀ u ∈ w.head?, isEdge u = false) :
    Separates (capitalize up w) sep := by
  rcases getLast?_capitalize up hfront with hlast | hlast
  · exact h.congr hlast
  · cases h with
    | comma a c b ha hc hb =>
      refine .comma a c b ha hc hb (fun u hu => isSpace_of_isEdge (hlast u hu)) fun _ u hu hdot => ?_
      have hedge := hlast u hu
      rw [hdot] at hedge
      exact absurd hedge (by decide)
    | stop a ha hne => exact .stop a ha hne

/-- A row with a capital letter has as many pieces. -/
theorem PieceRow.capitalize (h : PieceRow x ts) (hfront : ∀ u ∈ x.head?, isEdge u = false) :
    ∃ ts', PieceRow (capitalize up x) ts' ∧ ts'.length = ts.length := by
  cases h with
  | last hw => exact ⟨_, .last (hw.capitalize up hfront), rfl⟩
  | cons hw hs hr =>
    rw [List.head?_append_of_ne_nil _ hw.ne] at hfront
    rw [capitalize_append up hw.ne]
    exact ⟨_, .cons (hw.capitalize up hfront) (hs.capitalize up hfront) hr, rfl⟩

theorem Remark.capitalize (h : Remark x) : Remark (capitalize up x) ∧
    (tokenize (capitalize up x)).length = (tokenize x).length := by
  obtain ⟨ts, hrow, hlen⟩ := h.row.capitalize up h.front
  have htokens := hrow.tokenize
  refine ⟨⟨htokens ▸ hrow, head?_capitalize up h.front, fun u hu => ?_, fun u hu => ?_⟩, ?_⟩
  · rcases getLast?_capitalize up h.front with hlast | hlast
    · exact h.back u (hlast ▸ hu)
    · exact isTail_of_isEdge (hlast u hu)
  · rcases mem_capitalize up h.front hu with hu | hu
    · exact h.clean u hu
    · have hspace := isSpace_of_isEdge hu
      constructor
      · by_contra hline
        rw [isSpace_of_isLineEnd (by simpa using hline)] at hspace
        cases hspace
      · intro hnbsp
        rw [hnbsp] at hspace
        exact absurd hspace (by decide)
  · rw [htokens, hlen]

end Capital

/-! ## Reading a remark -/

/-- A piece of the text is a phrase of the dictionary. -/
def Known {α : Type} (eaten : JsString → Option α) (x : JsString) : Prop :=
  ∃ p ∈ phrases x, (eaten p).isSome = true

section Read

variable {α : Type} {eaten : JsString → Option α} {v w x h sep : JsString} {ts : List Token}

theorem readValue_fst : (readValue eaten v).1 = (phrases v).filterMap eaten := by
  rw [phrases, List.filterMap_map]
  rfl

theorem PieceText.visible (hw : PieceText w) : (trim w).isEmpty = false := by
  obtain ⟨u, hu⟩ : ∃ u, w.head? = some u := by
    cases w with
    | nil => exact absurd rfl hw.ne
    | cons u w => exact ⟨u, rfl⟩
  have hne : trim w ≠ [] := by
    rw [trim, strip, dropWhile_eq_self hw.front]
    intro hnil
    have hspace := List.rdropWhile_eq_nil_iff.mp hnil u (List.mem_of_head? hu)
    rw [hw.front u hu] at hspace
    cases hspace
  simpa using hne

theorem leftover_pieces (hts : ∀ t ∈ ts, PieceText t.text) :
    leftover eaten ts = ts.filter fun t => (eaten (normalizePhrase t.text)).isNone := by
  apply List.filter_congr
  intro t ht
  rw [(hts t ht).visible, Bool.not_false, Bool.and_true]

theorem Remark.joinLeftover (hx : Remark x) : joinLeftover (tokenize x) = x := by
  rw [KarsHotel.joinLeftover, hx.row.flatMap_all, strip_eq_self hx.front hx.back]
  exact Trimmed.trim_eq ⟨fun u hu => isSpace_of_isEdge (hx.front u hu),
    fun u hu => isSpace_of_isTail (hx.back u hu)⟩

theorem readValue_snd (hv : Trimmed v) (hclean : Clean v) : (readValue eaten v).2 = [] ∨
    Remark (readValue eaten v).2 ∧
      (tokenize (readValue eaten v).2).length ≤ (leftover eaten (tokenize v)).length := by
  have hstart := scanning_start hv hclean.line
  apply joinLeftover_cut
  · refine hstart.cut_filter (fun t ht hnil => ?_) (Nat.lt_succ_self _)
    simp only [hnil, Bool.and_eq_true] at ht
    exact absurd ht.2 (by decide)
  · intro u hu
    obtain ⟨t, ht, hu⟩ := List.mem_flatMap.mp hu
    exact hclean u (hstart.mem t (List.mem_filter.mp ht).1 u hu)

theorem Remark.trimmed (hx : Remark x) : Trimmed x :=
  ⟨fun u hu => isSpace_of_isEdge (hx.front u hu), fun u hu => isSpace_of_isTail (hx.back u hu)⟩

/-- A remark without a known phrase is read as it is. -/
theorem readValue_unknown (hx : Remark x) (hu : ¬Known eaten x) : readValue eaten x = ([], x) := by
  have hnone : ∀ t ∈ tokenize x, eaten (normalizePhrase t.text) = none := by
    intro t ht
    by_contra hsome
    exact hu ⟨_, List.mem_map_of_mem ht, Option.isSome_iff_ne_none.mpr hsome⟩
  have hleft : leftover eaten (tokenize x) = tokenize x := by
    rw [leftover_pieces hx.row.pieces, List.filter_eq_self]
    intro t ht
    rw [hnone t ht, Option.isNone_none]
  refine Prod.ext ?_ ?_
  · exact List.filterMap_eq_nil_iff.mpr hnone
  · show KarsHotel.joinLeftover (leftover eaten (tokenize x)) = x
    rw [hleft, hx.joinLeftover]

theorem readValue_known (hx : Remark x) (hk : Known eaten x) : (readValue eaten x).2 = [] ∨
    Remark (readValue eaten x).2 ∧
      (tokenize (readValue eaten x).2).length < (tokenize x).length := by
  have hleft : (readValue eaten x).2 = [] ∨ _ := readValue_snd hx.trimmed hx.clean
  rcases hleft with hnil | ⟨hremark, hlen⟩
  · exact Or.inl hnil
  · refine Or.inr ⟨hremark, lt_of_le_of_lt hlen ?_⟩
    obtain ⟨p, hp, hsome⟩ := hk
    obtain ⟨t, ht, rfl⟩ := List.mem_map.mp hp
    rw [leftover_pieces hx.row.pieces]
    apply List.length_filter_lt_length_iff_exists.mpr
    refine ⟨t, ht, ?_⟩
    rw [Option.isNone_iff_eq_none]
    exact fun hnone => absurd hnone (Option.isSome_iff_ne_none.mp hsome)

theorem leftover_known (hts : ∀ t ∈ ts, (eaten (normalizePhrase t.text)).isSome = true) :
    leftover eaten ts = [] := by
  apply List.filter_eq_nil_iff.mpr
  intro t ht hkeep
  have hsome := hts t ht
  rw [Bool.and_eq_true, Option.isNone_iff_eq_none] at hkeep
  rw [hkeep.1] at hsome
  cases hsome

/-- Before a remark stand known texts: they are read, and the remark is read as alone. -/
theorem readValue_join (hsep : Joins sep) (hh : Remark h) (hx : Remark x)
    (hall : ∀ p ∈ phrases h, (eaten p).isSome = true) : readValue eaten (h ++ (sep ++ x)) =
      ((phrases h).filterMap eaten ++ (readValue eaten x).1, (readValue eaten x).2) := by
  obtain ⟨ts, hrow, htexts⟩ := hh.tokenize_join hsep hx
  have hphrases : ts.map (fun t => normalizePhrase t.text) = phrases h := map_phrases htexts
  have heaten : leftover eaten ts = [] :=
    leftover_known fun t ht => hall _ (hphrases ▸ List.mem_map_of_mem ht)
  have htokens := hrow.tokenize
  refine Prod.ext ?_ ?_
  · show (tokenize (h ++ (sep ++ x))).filterMap _ = _
    rw [htokens, List.filterMap_append, ← hphrases, List.filterMap_map]
    rfl
  · show KarsHotel.joinLeftover (leftover eaten (tokenize (h ++ (sep ++ x)))) = _
    have hleft : leftover eaten (ts ++ tokenize x) = leftover eaten (tokenize x) := by
      rw [leftover, List.filter_append, ← leftover, ← leftover, heaten, List.nil_append]
    rw [htokens, hleft]
    rfl

theorem readValue_head (hall : ∀ p ∈ phrases h, (eaten p).isSome = true) :
    readValue eaten h = ((phrases h).filterMap eaten, []) := by
  have heaten : leftover eaten (tokenize h) = [] :=
    leftover_known fun t ht => hall _ (List.mem_map_of_mem ht)
  refine Prod.ext readValue_fst ?_
  show KarsHotel.joinLeftover (leftover eaten (tokenize h)) = []
  rw [heaten]
  rfl

end Read

end KarsHotel
