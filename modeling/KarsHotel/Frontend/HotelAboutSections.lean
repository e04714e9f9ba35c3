import KarsHotel.Frontend.HotelAboutDictionaries

/-!
# A section, written and read again

* `remarkOf`: the remark of a section whose lines left some texts; `Known.remarkOf`: its pieces;
* `valueOf`: the value a section is written with; `listText_eq`, `laundryText_eq`;
* **`readValue_valueOf`**: the value is read as the texts of the checked items and the remark;
* **`remark_again`**: the remark is the same again exactly when no phrase of the dictionary is a
  piece of it.
-/

namespace KarsHotel

open JsText

section Written

variable (up : UpperCase) (capital : Bool)

/-- Before a remark: the end of a sentence, or a comma. -/
def joinOf : JsString := if capital then sentenceJoin else listJoin

def lettered (x : JsString) : JsString := if capital then capitalize up x else x

/-- The remark of a section whose lines left `xs`. -/
def remarkOf (xs : List JsString) : JsString :=
  lettered up capital ((joinOf capital).intercalate xs)

/-- Only the first of the texts gets a capital letter. -/
def letterFirst : List JsString → List JsString
  | [] => []
  | x :: xs => lettered up capital x :: xs

/-- The remark of a section: empty or a remark, and with its letter. -/
structure SectionRemark (x : JsString) : Prop where
  remark : x = [] ∨ Remark x
  letter : lettered up capital x = x

/-- The value of a section: the texts of the checked items, and the remark. -/
def valueOf (head x : JsString) : JsString :=
  if x = [] then head else if head = [] then x else head ++ (joinOf capital ++ x)

end Written

section Remarks

variable {up : UpperCase} {capital : Bool} {x : JsString} {xs : List JsString}

theorem joins_joinOf (capital : Bool) : Joins (joinOf capital) := by
  cases capital
  · exact joins_listJoin
  · exact joins_sentenceJoin

theorem clean_joinOf (capital : Bool) : Clean (joinOf capital) := by
  cases capital
  · exact clean_listJoin
  · exact clean_sentenceJoin

theorem joinExtras_eq (s : ListSection) :
    joinExtras up s xs = remarkOf up (decide (s = .infrastructure)) xs := by
  cases s <;> rfl

theorem lettered_nil : lettered up capital [] = [] := by
  cases capital <;> rfl

theorem Remark.lettered (hx : Remark x) : Remark (lettered up capital x) ∧
    (tokenize (lettered up capital x)).length = (tokenize x).length := by
  cases capital
  · exact ⟨hx, rfl⟩
  · exact hx.capitalize up

theorem Remark.lettered_lettered (hx : Remark x) :
    KarsHotel.lettered up capital (KarsHotel.lettered up capital x) =
      KarsHotel.lettered up capital x := by
  cases capital
  · rfl
  · exact capitalize_capitalize up hx.front

theorem letterFirst_remarks (h : ∀ x ∈ xs, Remark x) :
    ∀ x ∈ letterFirst up capital xs, Remark x := by
  cases xs with
  | nil => exact h
  | cons x xs =>
    intro y hy
    rcases List.mem_cons.mp hy with rfl | hy
    · exact (h x List.mem_cons_self).lettered.1
    · exact h y (List.mem_cons_of_mem _ hy)

theorem remarkOf_eq (h : ∀ x ∈ xs, Remark x) :
    remarkOf up capital xs = (joinOf capital).intercalate (letterFirst up capital xs) := by
  cases capital with
  | false => cases xs <;> rfl
  | true =>
    cases xs with
    | nil => rfl
    | cons x xs =>
      have hne := (h x List.mem_cons_self).row.ne_nil
      cases xs with
      | nil => simp [remarkOf, letterFirst, KarsHotel.lettered]
      | cons y ys =>
        rw [remarkOf, letterFirst, List.intercalate_cons_cons, List.intercalate_cons_cons,
          List.append_assoc, List.append_assoc]
        exact capitalize_append up hne

theorem remarkOf_spec (h : ∀ x ∈ xs, Remark x) :
    SectionRemark up capital (remarkOf up capital xs) := by
  by_cases hne : xs = []
  · subst hne
    have hnil : remarkOf up capital [] = [] := lettered_nil
    rw [hnil]
    exact ⟨Or.inl rfl, lettered_nil⟩
  · have hrow := (Remark.intercalate (joins_joinOf capital) (clean_joinOf capital) hne h).1
    exact ⟨Or.inr hrow.lettered.1, hrow.lettered_lettered⟩

section Known

variable {α : Type} {eaten : JsString → Option α}

theorem not_known_nil (hnil : eaten [] = none) : ¬Known eaten [] := by
  rintro ⟨p, hp, hsome⟩
  have hp : p = [] := by simpa [phrases, tokenize, tokenizeFrom, separatorAt, stopAt,
    normalizePhrase, squeezeFrom, trim, strip] using hp
  rw [hp, hnil] at hsome
  cases hsome

/-- A phrase of the dictionary stands in the remark exactly when it stands in a text of a line. -/
theorem known_remarkOf (hnil : eaten [] = none) (h : ∀ x ∈ xs, Remark x) :
    Known eaten (remarkOf up capital xs) ↔ ∃ y ∈ letterFirst up capital xs, Known eaten y := by
  by_cases hne : xs = []
  · subst hne
    have hempty : remarkOf up capital [] = [] := lettered_nil
    rw [hempty]
    simp [not_known_nil hnil, letterFirst]
  · have hfirst : letterFirst up capital xs ≠ [] := by
      cases xs with
      | nil => exact absurd rfl hne
      | cons x xs => exact List.cons_ne_nil _ _
    have hphrases := (Remark.intercalate (joins_joinOf capital) (clean_joinOf capital) hfirst
      (letterFirst_remarks h)).2
    rw [remarkOf_eq h, Known, hphrases]
    constructor
    · rintro ⟨p, hp, hsome⟩
      obtain ⟨y, hy, hp⟩ := List.mem_flatMap.mp hp
      exact ⟨y, hy, p, hp, hsome⟩
    · rintro ⟨y, hy, p, hp, hsome⟩
      exact ⟨p, List.mem_flatMap.mpr ⟨y, hy, hp⟩, hsome⟩

end Known

end Remarks

/-! ## The value of a section -/

/-- The texts of what is checked: plain, and each is known as its own key. -/
structure Heads {α : Type} (eaten : JsString → Option α) (hs : List JsString) (ks : List α) :
    Prop where
  plain : ∀ h ∈ hs, plainText h = true
  known : hs.map (fun h => eaten (normalizePhrase h)) = ks.map some

section Value

variable {up : UpperCase} {capital : Bool} {x : JsString} {α : Type} {eaten : JsString → Option α}
  {hs : List JsString} {ks : List α}

theorem Heads.nil_iff (h : Heads eaten hs ks) : hs = [] ↔ listJoin.intercalate hs = [] := by
  cases hs with
  | nil => simp
  | cons w ws =>
    have hrow := Remark.intercalate joins_listJoin clean_listJoin (List.cons_ne_nil w ws)
      fun y hy => (plainText_remark (h.plain y hy)).1
    exact iff_of_false (List.cons_ne_nil _ _) hrow.1.row.ne_nil

/-- The texts joined are a remark of known phrases. -/
theorem Heads.head (h : Heads eaten hs ks) (hne : hs ≠ []) :
    Remark (listJoin.intercalate hs) ∧
      (∀ p ∈ phrases (listJoin.intercalate hs), (eaten p).isSome = true) ∧
      (phrases (listJoin.intercalate hs)).filterMap eaten = ks := by
  obtain ⟨hremark, hphrases⟩ := Remark.intercalate joins_listJoin clean_listJoin hne
    fun y hy => (plainText_remark (h.plain y hy)).1
  have hmap : hs.flatMap phrases = hs.map normalizePhrase := by
    rw [List.map_eq_flatMap]
    exact List.flatMap_congr fun y hy => (plainText_remark (h.plain y hy)).2
  have heaten : (hs.map normalizePhrase).map eaten = ks.map some := by
    rw [List.map_map]
    exact h.known
  rw [hphrases, hmap]
  refine ⟨hremark, fun p hp => ?_, ?_⟩
  · have hmem := List.mem_map_of_mem (f := eaten) hp
    rw [heaten] at hmem
    obtain ⟨k, _, hk⟩ := List.mem_map.mp hmem
    rw [← hk, Option.isSome_some]
  · have hfilter : ∀ ps : List JsString, ps.filterMap eaten = (ps.map eaten).filterMap id := by
      intro ps
      rw [List.filterMap_map]
      rfl
    rw [hfilter, heaten, List.filterMap_map]
    exact List.filterMap_some

theorem readValue_nil (hnil : eaten [] = none) : readValue eaten [] = ([], []) := by
  have htokens : tokenize [] = [⟨[], []⟩] := rfl
  have hphrase : normalizePhrase [] = [] := rfl
  refine Prod.ext ?_ ?_
  · rw [readValue_fst, phrases, htokens, List.map_singleton, hphrase, List.filterMap_cons, hnil]
    rfl
  · have hleft : leftover eaten (tokenize []) = [] := by
      rw [htokens, leftover, List.filter_cons_of_neg (by simp [trim, strip])]
      rfl
    show joinLeftover (leftover eaten (tokenize [])) = []
    rw [hleft]
    rfl

/-- **The value of a section is read as the checked items and what the remark is read as.** -/
theorem readValue_valueOf (capital : Bool) (hh : Heads eaten hs ks) (hnil : eaten [] = none)
    (hx : x = [] ∨ Remark x) :
    readValue eaten (valueOf capital (listJoin.intercalate hs) x) =
      (ks ++ (readValue eaten x).1, (readValue eaten x).2) := by
  unfold valueOf
  by_cases hhs : hs = []
  · have hks : ks = [] := by
      have hknown := hh.known
      rw [hhs, List.map_nil, eq_comm, List.map_eq_nil_iff] at hknown
      exact hknown
    have hvalue : (if x = [] then listJoin.intercalate hs
        else if listJoin.intercalate hs = [] then x
        else listJoin.intercalate hs ++ (joinOf capital ++ x)) = x := by
      rw [if_pos (hh.nil_iff.mp hhs), hh.nil_iff.mp hhs]
      split_ifs with hxnil
      · exact hxnil.symm
      · rfl
    rw [hvalue, hks, List.nil_append]
  · obtain ⟨hremark, hall, hkeys⟩ := hh.head hhs
    by_cases hxnil : x = []
    · rw [if_pos hxnil, readValue_head hall, hkeys, hxnil, readValue_nil hnil, List.append_nil]
    · have hx := hx.resolve_left hxnil
      rw [if_neg hxnil, if_neg (mt hh.nil_iff.mpr hhs),
        readValue_join (joins_joinOf capital) hremark hx hall, hkeys]

/-- The value is empty, or trimmed and without line ends. -/
theorem valueOf_remark (hh : Heads eaten hs ks) (hx : x = [] ∨ Remark x) :
    valueOf capital (listJoin.intercalate hs) x = [] ∧ hs = [] ∧ x = [] ∨
      Remark (valueOf capital (listJoin.intercalate hs) x) := by
  unfold valueOf
  by_cases hxnil : x = []
  · rw [if_pos hxnil]
    by_cases hhs : hs = []
    · exact Or.inl ⟨hh.nil_iff.mp hhs, hhs, hxnil⟩
    · exact Or.inr (hh.head hhs).1
  · have hx := hx.resolve_left hxnil
    rw [if_neg hxnil]
    by_cases hhs : hs = []
    · rw [if_pos (hh.nil_iff.mp hhs)]
      exact Or.inr hx
    · rw [if_neg (mt hh.nil_iff.mpr hhs)]
      exact Or.inr ((hh.head hhs).1.join (joins_joinOf capital) (clean_joinOf capital) hx).1

/-- **The remark of a section is the same again exactly when no phrase of the dictionary is a piece
of it.** -/
theorem remark_again (hnil : eaten [] = none) (hx : SectionRemark up capital x) :
    remarkOf up capital (pushNonempty [] (readValue eaten x).2) = x ↔ ¬Known eaten x := by
  have hempty : remarkOf up capital [] = [] := lettered_nil
  have hone : ∀ y, remarkOf up capital [y] = lettered up capital y := by
    intro y
    rw [remarkOf, List.intercalate_singleton]
  rcases hx.remark with hxnil | hremark
  · subst hxnil
    rw [readValue_nil hnil]
    exact iff_of_true hempty (not_known_nil hnil)
  · by_cases hk : Known eaten x
    · refine iff_of_false (fun heq => ?_) (not_not_intro hk)
      unfold pushNonempty at heq
      rcases readValue_known hremark hk with hleft | ⟨hleft, hlen⟩
      · rw [hleft] at heq
        exact hremark.row.ne_nil (heq.symm.trans hempty)
      · have hne : ¬(readValue eaten x).2.isEmpty = true := by
          simpa using hleft.row.ne_nil
        rw [if_neg hne, List.nil_append, hone] at heq
        have hsame : (tokenize (lettered up capital (readValue eaten x).2)).length = _ :=
          hleft.lettered.2
        rw [heq] at hsame
        omega
    · refine iff_of_true ?_ hk
      have hne : ¬x.isEmpty = true := by simpa using hremark.row.ne_nil
      rw [readValue_unknown hremark hk, pushNonempty, if_neg hne, List.nil_append, hone, hx.letter]

end Value

/-! ## What the source writes -/

section Source

variable {up : UpperCase} {x : JsString}

theorem oneLine_eq (hline : newline ∉ x) (ht : Trimmed x) : oneLine x = x := by
  have hfrom : ∀ ws s : JsString, newline ∉ ws → newline ∉ s → oneLineFrom ws s = ws ++ s := by
    intro ws s
    induction s generalizing ws with
    | nil =>
      intro hws _
      rw [oneLineFrom, if_neg (by simpa using hws), List.append_nil]
    | cons u s ih =>
      intro hws hs
      have hu : newline ≠ u := fun h => hs (h ▸ List.mem_cons_self)
      have hrest : newline ∉ s := fun h => hs (List.mem_cons_of_mem _ h)
      rw [oneLineFrom]
      split_ifs with hspace hbad
      · rw [ih (ws ++ [u]) (by simp [hws, hu]) hrest, List.append_assoc]
        rfl
      · simp [hws] at hbad
      · rw [ih [] (by simp) hrest, List.nil_append]
  rw [oneLine, hfrom [] x (by simp) hline, List.nil_append, ht.trim_eq]

theorem SectionRemark.oneLine {capital : Bool} (hx : SectionRemark up capital x) :
    oneLine x = x := by
  rcases hx.remark with rfl | hremark
  · rfl
  · exact oneLine_eq hremark.clean.line hremark.trimmed

def checkedTexts (s : ListSection) (checked : List String) : List JsString :=
  ((DICTIONARIES s).filter fun i => checked.contains i.key).map fun i => literal i.text

def checkedKeys (s : ListSection) (checked : List String) : List String :=
  ((DICTIONARIES s).filter fun i => checked.contains i.key).map (·.key)

theorem heads_checked (s : ListSection) (checked : List String) :
    Heads (matchPhrase (DICTIONARIES s)) (checkedTexts s checked) (checkedKeys s checked) where
  plain h hh := by
    obtain ⟨i, hi, rfl⟩ := List.mem_map.mp hh
    exact (item_text s i (List.mem_filter.mp hi).1).1
  known := by
    rw [checkedTexts, checkedKeys, List.map_map, List.map_map]
    apply List.map_congr_left
    intro i hi
    exact (item_text s i (List.mem_filter.mp hi).1).2

theorem listText_eq (s : ListSection) (checked : List String)
    (hx : SectionRemark up (decide (s = .infrastructure)) x) : listText up s ⟨checked, x⟩ =
      valueOf (decide (s = .infrastructure)) (listJoin.intercalate (checkedTexts s checked)) x := by
  have hone := hx.oneLine
  have hletter := hx.letter
  unfold listText valueOf
  simp only [hone, List.isEmpty_iff]
  by_cases hs : s = .infrastructure
  · simp only [hs, decide_true, lettered, if_true] at hletter ⊢
    rw [hletter, List.append_assoc]
    rfl
  · simp only [hs, decide_false, Bool.false_eq_true, if_false]
    rw [List.append_assoc]
    rfl

def flagTexts (laundry ironing : Bool) : List JsString :=
  (if laundry then [literal "есть прачечная"] else []) ++
    if ironing then [literal "есть услуги глажки"] else []

def flagKeys (laundry ironing : Bool) : List LaundryFlags :=
  (if laundry then [LAUNDRY_ON] else []) ++ if ironing then [IRONING_ON] else []

theorem heads_flags (laundry ironing : Bool) :
    Heads matchLaundry (flagTexts laundry ironing) (flagKeys laundry ironing) := by
  obtain ⟨⟨hl, hlk⟩, ⟨hi, hik⟩, -⟩ := laundry_text
  constructor
  · intro h hh
    rcases List.mem_append.mp hh with hh | hh
    · split_ifs at hh
      · rw [List.mem_singleton.mp hh, hl]
      · cases hh
    · split_ifs at hh
      · rw [List.mem_singleton.mp hh, hi]
      · cases hh
  · cases laundry <;> cases ironing <;> simp [flagTexts, flagKeys, hlk, hik]

theorem laundryText_eq (laundry ironing : Bool) (hx : SectionRemark up true x) :
    laundryText up ⟨laundry, ironing, x⟩ =
      valueOf true (listJoin.intercalate (flagTexts laundry ironing)) x := by
  have hone := hx.oneLine
  have hletter : capitalize up x = x := hx.letter
  unfold laundryText valueOf
  simp only [hone, hletter, List.isEmpty_iff, List.append_assoc]
  rfl

theorem foldl_flags (laundry ironing : Bool) :
    (flagKeys laundry ironing).foldl LaundryState.assign ⟨false, false, []⟩ =
      ⟨laundry, ironing, []⟩ := by
  cases laundry <;> cases ironing <;> rfl

theorem checkedKeys_idem (s : ListSection) (checked : List String) :
    checkedKeys s (checkedKeys s checked) = checkedKeys s checked := by
  rw [checkedKeys]
  congr 1
  apply List.filter_congr
  intro i hi
  rw [Bool.eq_iff_iff, List.contains_iff_mem, List.contains_iff_mem, checkedKeys, List.mem_map]
  constructor
  · rintro ⟨j, hj, hkey⟩
    have hmem := (List.mem_filter.mp hj).2
    rw [hkey] at hmem
    simpa using hmem
  · intro hmem
    exact ⟨i, List.mem_filter.mpr ⟨hi, by simpa using hmem⟩, rfl⟩

end Source

end KarsHotel
