import KarsHotel.Lib.CharText
import KarsHotel.Lib.Decimal
import KarsHotel.Values
import Mathlib.Data.List.DropRight

/-!
# Addresses of hotels

* `slugifyHotelName`: the address made of a name; `resolveUniqueSlug`, `resolveFreeSlug`: the two
  searches for one that is not taken;
* `ValidSlug`: an address is short and has the shape of one;
* `slugifyHotelName_valid`, `resolveUniqueSlug_valid`: these are valid for every name;
* `freeAttempts_eq_some`: the other search ends at the first number that is free, long or not;
* `NumbersFit`, **`addresses_valid_iff`**: when all three are valid.
-/

namespace KarsHotel

/-! ## The shape of an address -/

/-- `[a-z0-9]`. -/
def isAlnum (c : Char) : Bool := ('a' ≤ c && c ≤ 'z') || ('0' ≤ c && c ≤ '9')

/-- `[a-z0-9-]`. -/
def isSlugChar (c : Char) : Bool := isAlnum c || c == '-'

/-- `^[a-z0-9]([a-z0-9-]*[a-z0-9])?$`. -/
def slugPattern : List Char → Bool
  | [] => false
  | c :: cs => isAlnum c && match cs.getLast? with
    | none => true
    | some last => cs.dropLast.all isSlugChar && isAlnum last

/-- `^[a-z0-9]([a-z0-9-]{0,30}[a-z0-9])?$`. -/
def seedPattern (s : List Char) : Bool := slugPattern s && decide (s.tail.dropLast.length ≤ 30)

structure ValidSlug (s : List Char) : Prop where
  short : s.length ≤ 32
  pattern : slugPattern s = true

theorem isAlnum_of_isDigit {c : Char} (h : c.isDigit = true) : isAlnum c = true := by
  simp only [Char.isDigit, Bool.and_eq_true, decide_eq_true_eq] at h
  simp only [isAlnum, Bool.or_eq_true, Bool.and_eq_true, decide_eq_true_eq]
  exact Or.inr h

theorem slugPattern_iff {s : List Char} : slugPattern s = true ↔
    (∀ c ∈ s, isSlugChar c = true) ∧ (∃ c ∈ s.head?, isAlnum c = true) ∧
      ∃ c ∈ s.getLast?, isAlnum c = true := by
  have hchar : ∀ c, isAlnum c = true → isSlugChar c = true := fun c h => by simp [isSlugChar, h]
  cases s with
  | nil => simp [slugPattern]
  | cons c cs =>
    rcases List.eq_nil_or_concat' cs with rfl | ⟨cs, last, rfl⟩
    · simpa [slugPattern] using hchar c
    · have hend : (cs ++ [last]).getLast? = some last := List.getLast?_concat ..
      have hend' : (c :: (cs ++ [last])).getLast? = some last :=
        List.getLast?_concat (l := c :: cs)
      simp only [slugPattern, hend, hend', List.dropLast_concat, Bool.and_eq_true,
        List.all_eq_true, List.mem_cons, List.mem_append, List.not_mem_nil, or_false,
        List.head?_cons, Option.mem_def, Option.some.injEq, exists_eq_left']
      constructor
      · rintro ⟨hfirst, hmiddle, hlast⟩
        refine ⟨?_, hfirst, hlast⟩
        rintro x (rfl | hx | rfl)
        · exact hchar _ hfirst
        · exact hmiddle x hx
        · exact hchar _ hlast
      · rintro ⟨hall, hfirst, hlast⟩
        exact ⟨hfirst, fun x hx => hall x (Or.inr (Or.inl hx)), hlast⟩

theorem length_le_of_seedPattern {s : List Char} (h : seedPattern s = true) : s.length ≤ 32 := by
  have := (Bool.and_eq_true_iff.mp h).2
  rw [decide_eq_true_eq, List.length_dropLast, List.length_tail] at this
  omega

theorem validSlug_of_seedPattern {s : List Char} (h : seedPattern s = true) : ValidSlug s :=
  ⟨length_le_of_seedPattern h, (Bool.and_eq_true_iff.mp h).1⟩

/-! ## The address of a name -/

/-- `RU_TABLE`. -/
def ruTable : List (Char × List Char) :=
  [('а', ['a']), ('б', ['b']), ('в', ['v']), ('г', ['g']), ('д', ['d']), ('е', ['e']),
   ('ё', ['y', 'o']), ('ж', ['z', 'h']), ('з', ['z']), ('и', ['i']), ('й', ['y']), ('к', ['k']),
   ('л', ['l']), ('м', ['m']), ('н', ['n']), ('о', ['o']), ('п', ['p']), ('р', ['r']),
   ('с', ['s']), ('т', ['t']), ('у', ['u']), ('ф', ['f']), ('х', ['h']), ('ц', ['t', 's']),
   ('ч', ['c', 'h']), ('ш', ['s', 'h']), ('щ', ['s', 'c', 'h']), ('ъ', []), ('ы', ['y']),
   ('ь', []), ('э', ['e']), ('ю', ['y', 'u']), ('я', ['y', 'a'])]

/-- What one character of a name becomes; what is neither is dropped. -/
def transliterate (ch : Char) : List Char :=
  match ruTable.lookup ch with
  | some letters => letters
  | none =>
    if isAlnum ch then [ch]
    else if CharText.isSpace ch || ['-', '_', '.'].contains ch then ['-']
    else []

/-- Every run of dashes becomes one. -/
def collapseDashes : List Char → List Char
  | [] => []
  | c :: cs => if c = '-' ∧ cs.head? = some '-' then collapseDashes cs else c :: collapseDashes cs

def trimDashesEnd (s : List Char) : List Char := s.rdropWhile (· == '-')

/-- Without the dashes at both ends. -/
def trimDashes (s : List Char) : List Char := trimDashesEnd (s.dropWhile (· == '-'))

/-- At most 32 characters. -/
def capSlug (s : List Char) : List Char := if 32 < s.length then trimDashesEnd (s.take 32) else s

def slugifyHotelName (toLowerCase : List Char → List Char) (name : List Char) : List Char :=
  let out := capSlug (trimDashes (collapseDashes ((toLowerCase name).flatMap transliterate)))
  if out.head?.any isAlnum then out else ['h', 'o', 't', 'e', 'l']

theorem isSlugChar_of_mem_ruTable {p : Char × List Char} (hp : p ∈ ruTable) {c : Char}
    (hc : c ∈ p.2) : isSlugChar c = true := by
  have hall : (ruTable.all fun p => p.2.all isSlugChar) = true := by decide +kernel
  exact List.all_eq_true.mp (List.all_eq_true.mp hall p hp) c hc

theorem isSlugChar_of_mem_transliterate {ch c : Char} (h : c ∈ transliterate ch) :
    isSlugChar c = true := by
  unfold transliterate at h
  cases hlookup : ruTable.lookup ch with
  | some letters =>
    rw [hlookup] at h
    obtain ⟨before, after, htable, _⟩ := List.lookup_eq_some_iff.mp hlookup
    have hmem : (ch, letters) ∈ ruTable := by
      rw [htable]
      exact List.mem_append_right _ (List.mem_cons_self ..)
    exact isSlugChar_of_mem_ruTable hmem h
  | none =>
    rw [hlookup] at h
    show isSlugChar c = true
    simp only at h
    split_ifs at h with halnum hdash
    · rw [List.mem_singleton.mp h, isSlugChar, halnum, Bool.true_or]
    · rw [List.mem_singleton.mp h]
      rfl
    · cases h

theorem mem_of_mem_collapseDashes {s : List Char} {c : Char} (h : c ∈ collapseDashes s) :
    c ∈ s := by
  induction s with
  | nil => exact h
  | cons x xs ih =>
    unfold collapseDashes at h
    split_ifs at h
    · exact List.mem_cons_of_mem _ (ih h)
    · rcases List.mem_cons.mp h with rfl | h
      · exact List.mem_cons_self ..
      · exact List.mem_cons_of_mem _ (ih h)

/-- A text of the characters of an address with no dash at its ends. -/
structure DashTrimmed (s : List Char) : Prop where
  chars : ∀ c ∈ s, isSlugChar c = true
  first : ∀ c ∈ s.head?, c ≠ '-'
  last : ∀ c ∈ s.getLast?, c ≠ '-'

theorem isAlnum_of_ne {c : Char} (hc : isSlugChar c = true) (hne : c ≠ '-') : isAlnum c = true := by
  simpa [isSlugChar, hne] using hc

theorem getLast_trimDashesEnd {s : List Char} {c : Char} (h : c ∈ (trimDashesEnd s).getLast?) :
    c ≠ '-' := by
  obtain ⟨hne, rfl⟩ := List.mem_getLast?_eq_getLast h
  have hlast := List.rdropWhile_last_not (· == '-') s hne
  exact fun hdash => hlast (beq_iff_eq.mpr hdash)

theorem head_of_initial {s t : List Char} {c : Char} (hst : s <+: t) (h : c ∈ s.head?) :
    c ∈ t.head? := by
  obtain ⟨u, rfl⟩ := hst
  rw [List.head?_append, Option.mem_def.mp h]
  rfl

theorem trimmed_trimDashesEnd {s : List Char} (hs : ∀ c ∈ s, isSlugChar c = true)
    (hfirst : ∀ c ∈ s.head?, c ≠ '-') : DashTrimmed (trimDashesEnd s) where
  chars c hc := hs c ((List.rdropWhile_prefix ..).subset hc)
  first c hc := hfirst c (head_of_initial (List.rdropWhile_prefix ..) hc)
  last _ hc := getLast_trimDashesEnd hc

theorem trimmed_trimDashes {s : List Char} (hs : ∀ c ∈ s, isSlugChar c = true) :
    DashTrimmed (trimDashes s) := by
  apply trimmed_trimDashesEnd
  · exact fun c hc => hs c ((List.dropWhile_suffix _).subset hc)
  · intro c hc hdash
    have hnot := List.head?_dropWhile_not (· == '-') s
    rw [Option.mem_def.mp hc] at hnot
    simp [hdash] at hnot

theorem trimmed_capSlug {s : List Char} (hs : DashTrimmed s) : DashTrimmed (capSlug s) := by
  unfold capSlug
  split_ifs
  · apply trimmed_trimDashesEnd
    · exact fun c hc => hs.chars c (List.mem_of_mem_take hc)
    · exact fun c hc => hs.first c (head_of_initial (List.take_prefix ..) hc)
  · exact hs

theorem length_capSlug (s : List Char) : (capSlug s).length ≤ 32 := by
  unfold capSlug
  split_ifs with h
  · refine (List.IsPrefix.length_le (List.rdropWhile_prefix ..)).trans ?_
    simp
  · omega

theorem DashTrimmed.validSlug {s : List Char} (hs : DashTrimmed s) (hlen : s.length ≤ 32)
    (hne : s ≠ []) : ValidSlug s := by
  refine ⟨hlen, slugPattern_iff.mpr ⟨hs.chars, ?_, ?_⟩⟩
  · refine ⟨s.head hne, List.head?_eq_some_head hne, ?_⟩
    exact isAlnum_of_ne (hs.chars _ (List.head_mem hne)) (hs.first _ (List.head?_eq_some_head hne))
  · refine ⟨s.getLast hne, List.getLast?_eq_some_getLast hne, ?_⟩
    exact isAlnum_of_ne (hs.chars _ (List.getLast_mem hne))
      (hs.last _ (List.getLast?_eq_some_getLast hne))

theorem slugifyHotelName_valid (toLowerCase : List Char → List Char) (name : List Char) :
    ValidSlug (slugifyHotelName toLowerCase name) := by
  have hchars : ∀ c ∈ collapseDashes ((toLowerCase name).flatMap transliterate),
      isSlugChar c = true := by
    intro c hc
    obtain ⟨ch, _, hch⟩ := List.mem_flatMap.mp (mem_of_mem_collapseDashes hc)
    exact isSlugChar_of_mem_transliterate hch
  have htrimmed := trimmed_capSlug (trimmed_trimDashes hchars)
  simp only [slugifyHotelName]
  split_ifs with hhead
  · apply htrimmed.validSlug (length_capSlug _)
    rintro hnil
    rw [hnil] at hhead
    cases hhead
  · exact ⟨by decide, by decide⟩

/-! ## An address that is free -/

def slugSuffix (n : ℕ) : List Char := '-' :: Nat.toDigits 10 n

theorem length_slugSuffix {n : ℕ} (h : n < 50) :
    (slugSuffix n).length = if n < 10 then 2 else 3 := by
  revert n
  decide

theorem slugPattern_append_slugSuffix {s : List Char} (hs : slugPattern s = true) {k : ℕ}
    (hk : 0 < k) (n : ℕ) : slugPattern (s.take k ++ slugSuffix n) = true := by
  obtain ⟨hchars, ⟨first, hfirst, halnum⟩, _⟩ := slugPattern_iff.mp hs
  have hdigits : ∀ c ∈ Nat.toDigits 10 n, isAlnum c = true := fun c hc =>
    isAlnum_of_isDigit (isDigit_of_mem_toDigits hc)
  refine slugPattern_iff.mpr ⟨fun c hc => ?_, ⟨first, ?_, halnum⟩, ?_⟩
  · rcases List.mem_append.mp hc with hc | hc
    · exact hchars c (List.mem_of_mem_take hc)
    · rcases List.mem_cons.mp hc with rfl | hc
      · rfl
      · simp [isSlugChar, hdigits c hc]
  · cases s with
    | nil => cases hfirst
    | cons c cs =>
      obtain ⟨k, rfl⟩ := Nat.exists_eq_succ_of_ne_zero hk.ne'
      exact hfirst
  · have hne : Nat.toDigits 10 n ≠ [] := Nat.toDigits_ne_nil
    refine ⟨(Nat.toDigits 10 n).getLast hne, ?_, hdigits _ (List.getLast_mem hne)⟩
    rw [slugSuffix, List.getLast?_append, List.getLast?_cons, List.getLast?_eq_some_getLast hne]
    rfl

section Search

variable (taken : List Char → Bool) (base : List Char)

/-- The candidate after the attempt `n`: a long address is cut for the suffix. -/
def cutCandidate (n : ℕ) : List Char :=
  let suffix := slugSuffix n
  if base.length + suffix.length ≤ 32 then base ++ suffix
  else base.take (32 - suffix.length) ++ suffix

/-- The attempts from `n` on, `k` of them. -/
def uniqueAttempts : ℕ → ℕ → List Char → Option (List Char)
  | 0, _, _ => none
  | k + 1, n, candidate =>
    if taken candidate then uniqueAttempts k (n + 1) (cutCandidate base n) else some candidate

/-- The candidate of the attempt `n`. -/
def numberedCandidate (n : ℕ) : List Char := if n = 1 then base else base ++ slugSuffix n

/-- The attempts from `n` on, `k` of them. -/
def freeAttempts : ℕ → ℕ → Option (List Char)
  | 0, _ => none
  | k + 1, n =>
    if taken (numberedCandidate base n) then freeAttempts k (n + 1)
    else some (numberedCandidate base n)

end Search

namespace AuthService

/-- The seed or its address, with a number when it is taken. -/
def resolveUniqueSlug (toLowerCase : List Char → List Char) (taken : List Char → Bool)
    (seed : List Char) : Except Failure (List Char) :=
  let base := if seedPattern seed then seed else slugifyHotelName toLowerCase seed
  match uniqueAttempts taken base 48 2 base with
  | some slug => .ok slug
  | none => .error (.conflict "Не удалось подобрать уникальный slug для отеля")

end AuthService

namespace ConnectivityService

/-- The address of a name, with a number when it is taken. -/
def resolveFreeSlug (toLowerCase : List Char → List Char) (taken : List Char → Bool)
    (name : List Char) : Except Failure (List Char) :=
  match freeAttempts taken (slugifyHotelName toLowerCase name) 49 1 with
  | some slug => .ok slug
  | none => .error (.conflict "Не удалось подобрать адрес для гостиницы")

end ConnectivityService

section SearchFacts

variable {taken : List Char → Bool} {base : List Char}

theorem cutCandidate_valid (hbase : ValidSlug base) {n : ℕ} (hn : n < 50) :
    ValidSlug (cutCandidate base n) := by
  have hlen : (slugSuffix n).length ≤ 3 := by
    rw [length_slugSuffix hn]
    split_ifs <;> omega
  simp only [cutCandidate]
  split_ifs with hshort
  · refine ⟨by rwa [List.length_append], ?_⟩
    have hpos : 0 < base.length + 1 := by omega
    have := slugPattern_append_slugSuffix hbase.pattern hpos n
    rwa [List.take_of_length_le (by omega)] at this
  · refine ⟨?_, slugPattern_append_slugSuffix hbase.pattern (by omega) n⟩
    rw [List.length_append, List.length_take]
    omega

theorem uniqueAttempts_valid (hbase : ValidSlug base) {k n : ℕ} {candidate slug : List Char}
    (hk : n + k ≤ 50) (hcandidate : ValidSlug candidate)
    (h : uniqueAttempts taken base k n candidate = some slug) :
    ValidSlug slug ∧ taken slug = false := by
  induction k generalizing n candidate with
  | zero => cases h
  | succ k ih =>
    unfold uniqueAttempts at h
    split_ifs at h with htaken
    · exact ih (by omega) (cutCandidate_valid hbase (by omega)) h
    · obtain rfl := Option.some.inj h
      exact ⟨hcandidate, by simpa using htaken⟩

theorem freeAttempts_eq_some {k n : ℕ} {slug : List Char} :
    freeAttempts taken base k n = some slug ↔ ∃ m, n ≤ m ∧ m < n + k ∧
      slug = numberedCandidate base m ∧ taken slug = false ∧
      ∀ i, n ≤ i → i < m → taken (numberedCandidate base i) = true := by
  induction k generalizing n with
  | zero =>
    constructor
    · intro h
      cases h
    · rintro ⟨m, hle, hlt, _⟩
      omega
  | succ k ih =>
    unfold freeAttempts
    split_ifs with htaken
    · rw [ih]
      constructor
      · rintro ⟨m, hle, hlt, heq, hfree, hbefore⟩
        refine ⟨m, by omega, by omega, heq, hfree, fun i hi him => ?_⟩
        by_cases hin : i = n
        · rw [hin, htaken]
        · exact hbefore i (by omega) him
      · rintro ⟨m, hle, hlt, rfl, hfree, hbefore⟩
        have hne : m ≠ n := by
          rintro rfl
          rw [htaken] at hfree
          cases hfree
        exact ⟨m, by omega, by omega, rfl, hfree, fun i hi him => hbefore i (by omega) him⟩
    · rw [Option.some.injEq]
      constructor
      · rintro rfl
        exact ⟨n, by omega, by omega, rfl, by simpa using htaken, fun i hi him => by omega⟩
      · rintro ⟨m, hle, hlt, rfl, hfree, hbefore⟩
        by_cases hmn : m = n
        · rw [hmn]
        · exact absurd (hbefore n (le_refl n) (by omega)) htaken

/-- Numbers up to 9 fit after 30 characters, and all of them after 29. -/
theorem length_numberedCandidate {n : ℕ} (hn : 2 ≤ n) (hn' : n < 50) :
    (numberedCandidate base n).length = base.length + if n < 10 then 2 else 3 := by
  rw [numberedCandidate, if_neg (by omega), List.length_append, length_slugSuffix hn']

theorem numberedCandidate_one : numberedCandidate base 1 = base := if_pos rfl

theorem slugPattern_numberedCandidate (hbase : slugPattern base = true) (n : ℕ) :
    slugPattern (numberedCandidate base n) = true := by
  unfold numberedCandidate
  split_ifs
  · exact hbase
  · have := slugPattern_append_slugSuffix hbase (Nat.succ_pos base.length) n
    rwa [List.take_of_length_le (Nat.le_succ _)] at this

variable (taken base) in
/-- The number that the search ends at, if it ends at one, fits after the address. -/
def NumbersFit : Prop :=
  taken base = false ∨ base.length ≤ 29 ∨
    (base.length = 30 ∧ ∃ n, 2 ≤ n ∧ n < 10 ∧ taken (base ++ slugSuffix n) = false) ∨
    ∀ n, 2 ≤ n → n < 50 → taken (base ++ slugSuffix n) = true

theorem numberedCandidate_of_le {n : ℕ} (h : 2 ≤ n) :
    numberedCandidate base n = base ++ slugSuffix n := if_neg (by omega)

/-- An address that fits is found when the numbers fit. -/
theorem length_le_of_numbersFit (hbase : ValidSlug base) (hfit : NumbersFit taken base)
    {slug : List Char} (h : freeAttempts taken base 49 1 = some slug) : slug.length ≤ 32 := by
  obtain ⟨m, hle, hlt, rfl, hfree, hbefore⟩ := freeAttempts_eq_some.mp h
  by_cases hm : m = 1
  · rw [hm, numberedCandidate_one]
    exact hbase.short
  have hm2 : 2 ≤ m := by omega
  have hlen : (numberedCandidate base m).length = base.length + if m < 10 then 2 else 3 :=
    length_numberedCandidate hm2 (by omega)
  rw [hlen]
  rcases hfit with hbasefree | hshort | ⟨hthirty, n, hn, hn10, hnfree⟩ | hall
  · have htaken := hbefore 1 (le_refl 1) (by omega)
    rw [numberedCandidate_one, hbasefree] at htaken
    cases htaken
  · split_ifs <;> omega
  · have hmn : m ≤ n := by
      by_contra hlt'
      have htaken := hbefore n (by omega) (by omega)
      rw [numberedCandidate_of_le hn, hnfree] at htaken
      cases htaken
    rw [if_pos (by omega)]
    omega
  · rw [numberedCandidate_of_le hm2, hall m hm2 (by omega)] at hfree
    cases hfree

/-- Where the numbers do not fit an address is found that is too long. -/
theorem exists_long_of_not_numbersFit (hfit : ¬NumbersFit taken base) :
    ∃ slug, freeAttempts taken base 49 1 = some slug ∧ 32 < slug.length := by
  unfold NumbersFit at hfit
  push Not at hfit
  obtain ⟨hbase, hlong, hthirty, hsome⟩ := hfit
  have hbase : taken base = true := by simpa using hbase
  have hfirst : ∃ n, 2 ≤ n ∧ n < 50 ∧ taken (base ++ slugSuffix n) = false := by
    obtain ⟨n, hn, hn50, hfree⟩ := hsome
    exact ⟨n, hn, hn50, by simpa using hfree⟩
  obtain ⟨h2, h50, hfree⟩ := Nat.find_spec hfirst
  refine ⟨numberedCandidate base (Nat.find hfirst), ?_, ?_⟩
  · refine freeAttempts_eq_some.mpr ⟨_, by omega, by omega, rfl, ?_, fun i hi him => ?_⟩
    · rwa [numberedCandidate_of_le h2]
    · by_cases hi1 : i = 1
      · rw [hi1, numberedCandidate_one, hbase]
      · have hnot := Nat.find_min hfirst him
        rw [numberedCandidate_of_le (by omega)]
        by_contra htaken
        exact hnot ⟨by omega, by omega, by simpa using htaken⟩
  · rw [length_numberedCandidate h2 h50]
    split_ifs with h10
    · have hne : base.length ≠ 30 := fun heq => by
        have := hthirty heq _ h2 h10
        rw [hfree] at this
        exact this rfl
      omega
    · omega

end SearchFacts

section Addresses

variable (toLowerCase : List Char → List Char) (taken : List Char → Bool) (name : List Char)

theorem resolveUniqueSlug_valid {slug : List Char}
    (h : AuthService.resolveUniqueSlug toLowerCase taken name = .ok slug) :
    ValidSlug slug ∧ taken slug = false := by
  simp only [AuthService.resolveUniqueSlug] at h
  split at h
  · rename_i found hfound
    obtain rfl := Except.ok.inj h
    have hbase : ValidSlug (if seedPattern name = true then name
        else slugifyHotelName toLowerCase name) := by
      split_ifs with hseed
      · exact validSlug_of_seedPattern hseed
      · exact slugifyHotelName_valid toLowerCase name
    exact uniqueAttempts_valid hbase (by omega) hbase hfound
  · cases h

theorem resolveFreeSlug_eq_ok {slug : List Char} :
    ConnectivityService.resolveFreeSlug toLowerCase taken name = .ok slug ↔
      freeAttempts taken (slugifyHotelName toLowerCase name) 49 1 = some slug := by
  unfold ConnectivityService.resolveFreeSlug
  cases freeAttempts taken (slugifyHotelName toLowerCase name) 49 1 with
  | none => simp
  | some found => simp

/-- The addresses made of a name and those found for it, whatever is taken. -/
structure AddressesValid : Prop where
  made : ValidSlug (slugifyHotelName toLowerCase name)
  unique : ∀ slug, AuthService.resolveUniqueSlug toLowerCase taken name = .ok slug →
    ValidSlug slug ∧ taken slug = false
  free : ∀ slug, ConnectivityService.resolveFreeSlug toLowerCase taken name = .ok slug →
    ValidSlug slug ∧ taken slug = false

/-- **The addresses of a name are valid exactly when the numbers fit after its address.** -/
theorem addresses_valid_iff : AddressesValid toLowerCase taken name ↔
    NumbersFit taken (slugifyHotelName toLowerCase name) := by
  have hbase := slugifyHotelName_valid toLowerCase name
  constructor
  · intro hvalid
    by_contra hfit
    obtain ⟨slug, hfound, hlong⟩ := exists_long_of_not_numbersFit hfit
    have hshort := (hvalid.free slug ((resolveFreeSlug_eq_ok ..).mpr hfound)).1.short
    omega
  · intro hfit
    refine ⟨hbase, fun slug => resolveUniqueSlug_valid toLowerCase taken name, fun slug h => ?_⟩
    have hfound := (resolveFreeSlug_eq_ok ..).mp h
    obtain ⟨m, _, _, rfl, hfree, _⟩ := freeAttempts_eq_some.mp hfound
    exact ⟨⟨length_le_of_numbersFit hbase hfit hfound,
      slugPattern_numberedCandidate hbase.pattern m⟩, hfree⟩

/-- A name of 32 letters whose address is taken gets an address of 34 characters. -/
theorem address_tooLong : ¬AddressesValid (List.map Char.toLower)
    (fun slug => slug == List.replicate 32 'a') (List.replicate 32 'a') := by
  intro hvalid
  have hfound : ConnectivityService.resolveFreeSlug (List.map Char.toLower)
      (fun slug => slug == List.replicate 32 'a') (List.replicate 32 'a') =
        .ok (List.replicate 32 'a' ++ ['-', '2']) := by
    decide +kernel
  have hshort := (hvalid.free _ hfound).1.short
  exact absurd hshort (by decide)

end Addresses

end KarsHotel
