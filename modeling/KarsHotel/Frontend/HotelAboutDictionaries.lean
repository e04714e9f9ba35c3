import KarsHotel.Frontend.HotelAboutRemarks

/-!
# The dictionaries, letter by letter

The texts of the dictionaries are pieces, and each is matched with its own item. This is evaluated
on lists of letters (`Spelled`), which the dictionaries are shown to spell.

* `plainText_remark`: a text without separators is a remark of one phrase;
* **`item_text`**, **`laundry_text`**: what is written for a checked item or a flag reads as it;
* `matchPhrase_nil`: the empty phrase is not known.
-/

namespace KarsHotel

open JsText

/-! ## Texts without separators -/

/-- No separator, no stop and no line end, and no edge at the ends. -/
def plainText (w : JsString) : Bool :=
  !w.isEmpty && w.head?.all (fun u => !isEdge u) && w.getLast?.all (fun u => !isTail u) &&
    w.all fun u => !isComma u && !isLineEnd u && u != noBreakSpace && u != stop

theorem plainText_remark {w : JsString} (h : plainText w = true) :
    Remark w ∧ phrases w = [normalizePhrase w] := by
  simp only [plainText, Bool.and_eq_true, Bool.not_eq_true', List.isEmpty_eq_false_iff,
    Option.all_eq_true, List.all_eq_true, bne_iff_ne] at h
  obtain ⟨⟨⟨hne, hfront⟩, hback⟩, hunits⟩ := h
  have hclean : Clean w := fun u hu => ⟨(hunits u hu).1.1.2, (hunits u hu).1.2⟩
  have hpiece : PieceText w := by
    refine ⟨hne, fun u hu => isSpace_of_isEdge (hfront u hu), fun u hu => ?_, ?_⟩
    · exact ⟨(hunits u hu).1.1.1, fun hline => hclean.line (hline ▸ hu)⟩
    · rw [List.isChain_iff_getElem]
      intro i hi hchain
      exact (hunits _ (List.getElem_mem _)).2 hchain.1
  have hrow : PieceRow w [⟨w, []⟩] := .last hpiece
  have htokens := hrow.tokenize
  refine ⟨⟨htokens ▸ hrow, hfront, hback, hclean⟩, ?_⟩
  rw [phrases, htokens]
  rfl

/-! ## Spelling -/

/-- A string and its letters. -/
inductive Spelled : String → List Char → Prop where
  | mk (l : List Char) : Spelled (String.ofList l) l

def units (l : List Char) : JsString := l.map fun c => c.toNat.toUInt16

theorem Spelled.literal {s : String} {l : List Char} (h : Spelled s l) : literal s = units l := by
  cases h
  rw [KarsHotel.literal, String.toList_ofList, units]

theorem literal_spelled {ss : List String} {ls : List (List Char)} (h : List.Forall₂ Spelled ss ls) :
    ss.map literal = ls.map units := by
  induction h with
  | nil => rfl
  | cons hs _ ih => rw [List.map_cons, List.map_cons, hs.literal, ih]

theorem exists_spelled {α β : Type} {R : α → β → Prop} {as : List α} {bs : List β}
    (h : List.Forall₂ R as bs) {a : α} (ha : a ∈ as) : ∃ b ∈ bs, R a b := by
  induction h with
  | nil => cases ha
  | @cons x y _ _ hxy _ ih =>
    rcases List.mem_cons.mp ha with rfl | ha
    · exact ⟨y, List.mem_cons_self, hxy⟩
    · obtain ⟨b, hb, hab⟩ := ih ha
      exact ⟨b, List.mem_cons_of_mem _ hb, hab⟩

/-- An item with its texts as letters. -/
structure SpelledItem where
  key : String
  label : List Char
  text : List Char
  synonyms : List (List Char)

inductive AboutItem.SpelledAs : AboutItem → SpelledItem → Prop where
  | mk {key label text : String} {synonyms : List String} {l t : List Char} {ss : List (List Char)}
      (hl : Spelled label l) (ht : Spelled text t) (hs : List.Forall₂ Spelled synonyms ss) :
      SpelledAs ⟨key, label, text, synonyms⟩ ⟨key, l, t, ss⟩

def matchSpelled (items : List SpelledItem) (phrase : JsString) : Option String :=
  let byPhrase := items.flatMap fun i =>
    (i.label :: i.text :: i.synonyms).map fun p => (normalizePhrase (units p), i.key)
  ((byPhrase.filter fun p => !p.1.isEmpty).find? fun p => p.1 == phrase).map (·.2)

theorem matchPhrase_spelled {items : List AboutItem} {cs : List SpelledItem}
    (h : List.Forall₂ AboutItem.SpelledAs items cs) : matchPhrase items = matchSpelled cs := by
  have hitem : ∀ {i : AboutItem} {c : SpelledItem}, i.SpelledAs c →
      (i.label :: i.text :: i.synonyms).map (fun p => (normalizePhrase (literal p), i.key)) =
        (c.label :: c.text :: c.synonyms).map fun p => (normalizePhrase (units p), c.key) := by
    rintro _ _ ⟨hl, ht, hs⟩
    rename_i key _ _ _ _ _ _
    have hall := literal_spelled (.cons hl (.cons ht hs))
    have hboth := congrArg (List.map fun p => (normalizePhrase p, key)) hall
    rwa [List.map_map, List.map_map] at hboth
  have htable : items.flatMap (fun i =>
      (i.label :: i.text :: i.synonyms).map fun p => (normalizePhrase (literal p), i.key)) =
        cs.flatMap fun c =>
          (c.label :: c.text :: c.synonyms).map fun p => (normalizePhrase (units p), c.key) := by
    induction h with
    | nil => rfl
    | cons hi _ ih => rw [List.flatMap_cons, List.flatMap_cons, hitem hi, ih]
  funext phrase
  unfold matchPhrase matchSpelled
  rw [htable]

/-- Every text is plain, and the first item with its phrase is its own. -/
def wellSpelled (items : List SpelledItem) : Bool :=
  items.all fun i => plainText (units i.text) &&
    matchSpelled items (normalizePhrase (units i.text)) == some i.key

theorem infrastructure_spelled :
    ∃ cs, List.Forall₂ AboutItem.SpelledAs INFRASTRUCTURE_ITEMS cs ∧ wellSpelled cs = true := by
  apply Exists.intro
  constructor
  · unfold INFRASTRUCTURE_ITEMS
    repeat' constructor
  · decide +kernel

theorem facility_spelled :
    ∃ cs, List.Forall₂ AboutItem.SpelledAs FACILITY_ITEMS cs ∧ wellSpelled cs = true := by
  apply Exists.intro
  constructor
  · unfold FACILITY_ITEMS
    repeat' constructor
  · decide +kernel

theorem rooms_spelled :
    ∃ cs, List.Forall₂ AboutItem.SpelledAs ROOM_ITEMS cs ∧ wellSpelled cs = true := by
  apply Exists.intro
  constructor
  · simp only [ROOM_ITEMS, ROOM_GROUPS, List.flatMap_cons, List.flatMap_nil, List.cons_append,
      List.nil_append, List.append_nil]
    repeat' constructor
  · decide +kernel

/-- Phrases with their letters, and the same effect. -/
inductive SpelledPhrases : List String × LaundryFlags → List (List Char) × LaundryFlags → Prop where
  | mk {ss : List String} {ls : List (List Char)} (effect : LaundryFlags)
      (h : List.Forall₂ Spelled ss ls) : SpelledPhrases (ss, effect) (ls, effect)

def matchSpelledPhrases (ps : List (List (List Char) × LaundryFlags)) (phrase : JsString) :
    Option LaundryFlags :=
  (ps.find? fun p => p.1.any fun q => units q == phrase).map (·.2)

theorem matchLaundry_spelled {ps : List (List (List Char) × LaundryFlags)}
    (h : List.Forall₂ SpelledPhrases LAUNDRY_PHRASES ps) :
    matchLaundry = matchSpelledPhrases ps := by
  funext phrase
  unfold matchLaundry matchSpelledPhrases
  generalize LAUNDRY_PHRASES = qs at h
  induction h with
  | nil => rfl
  | @cons q p _ _ hqp _ ih =>
    obtain ⟨effect, hspelled⟩ := hqp
    rename_i ss ls
    have hany : ss.any (fun q => literal q == phrase) = ls.any fun q => units q == phrase := by
      have hall := congrArg (List.any · fun x => x == phrase) (literal_spelled hspelled)
      rw [List.any_map, List.any_map] at hall
      exact hall
    by_cases hp : (ls.any fun q => units q == phrase) = true
    · have hq := hany.trans hp
      rw [List.find?_cons_of_pos (by exact hq), List.find?_cons_of_pos (by exact hp)]
      rfl
    · have hq : ¬(ss.any fun q => literal q == phrase) = true := by rwa [hany]
      rw [List.find?_cons_of_neg (by exact hq), List.find?_cons_of_neg (by exact hp)]
      exact ih

/-- The texts of the two flags, letter by letter. -/
def wellSpelledPhrases (ps : List (List (List Char) × LaundryFlags)) (laundry ironing : List Char) :
    Bool :=
  (plainText (units laundry) &&
    matchSpelledPhrases ps (normalizePhrase (units laundry)) == some LAUNDRY_ON) &&
  (plainText (units ironing) &&
    matchSpelledPhrases ps (normalizePhrase (units ironing)) == some IRONING_ON) &&
  matchSpelledPhrases ps [] == none

theorem laundry_spelled : ∃ ps laundry ironing, List.Forall₂ SpelledPhrases LAUNDRY_PHRASES ps ∧
    Spelled "есть прачечная" laundry ∧ Spelled "есть услуги глажки" ironing ∧
    wellSpelledPhrases ps laundry ironing = true := by
  apply Exists.intro
  apply Exists.intro
  apply Exists.intro
  refine ⟨?_, .mk _, .mk _, ?_⟩
  · unfold LAUNDRY_PHRASES
    repeat' constructor
  · decide +kernel

/-! ## What the dictionaries know -/

section Known

theorem matchPhrase_nil (items : List AboutItem) : matchPhrase items [] = none := by
  unfold matchPhrase
  rw [Option.map_eq_none_iff, List.find?_eq_none]
  rintro p hp hnil
  have hne := (List.mem_filter.mp hp).2
  rw [beq_iff_eq] at hnil
  rw [hnil] at hne
  exact absurd hne (by decide)

/-- The text of an item is a remark of one phrase, which is the item's. -/
theorem item_text (s : ListSection) : ∀ i ∈ DICTIONARIES s, plainText (literal i.text) = true ∧
    matchPhrase (DICTIONARIES s) (normalizePhrase (literal i.text)) = some i.key := by
  obtain ⟨cs, hspelled, hwell⟩ : ∃ cs, List.Forall₂ AboutItem.SpelledAs (DICTIONARIES s) cs ∧
      wellSpelled cs = true := by
    cases s with
    | infrastructure => exact infrastructure_spelled
    | facility => exact facility_spelled
    | rooms => exact rooms_spelled
  intro i hi
  obtain ⟨c, hc, hic⟩ := exists_spelled hspelled hi
  have hchecked := List.all_eq_true.mp hwell c hc
  rw [Bool.and_eq_true, beq_iff_eq] at hchecked
  rw [matchPhrase_spelled hspelled]
  cases hic with
  | mk hl ht hs =>
    rw [ht.literal]
    exact hchecked

theorem laundry_text :
    (plainText (literal "есть прачечная") = true ∧
      matchLaundry (normalizePhrase (literal "есть прачечная")) = some LAUNDRY_ON) ∧
    (plainText (literal "есть услуги глажки") = true ∧
      matchLaundry (normalizePhrase (literal "есть услуги глажки")) = some IRONING_ON) ∧
    matchLaundry [] = none := by
  obtain ⟨ps, laundry, ironing, hspelled, hl, hi, hwell⟩ := laundry_spelled
  simp only [wellSpelledPhrases, Bool.and_eq_true, beq_iff_eq] at hwell
  rw [matchLaundry_spelled hspelled, hl.literal, hi.literal]
  exact ⟨hwell.1.1, hwell.1.2, hwell.2⟩

end Known

end KarsHotel
