import KarsHotel.Lib.JsText
import KarsHotel.Lib.Json

/-!
# What of a request body the journal keeps

A body is written to the journal with its secrets hidden and its long parts cut.

* `Body`: a JSON value, its texts as UTF-16 code units;
* `isAuthPath`, `isSecretKey`, `walk`, `redactForJournal`: the redaction;
* `secretNamed`: the keys that the list of secret names means;
* `Similar`: the same but for values under secret keys; `Exposed`: a value under such a key that the
  redaction reaches without knowing the key; `EveryKey`, `Within`: a body's keys and limits;
* **`secretsHidden_iff`**: when two runs on similar bodies give one result, and when a body without
  secrets is kept as it is.
-/

namespace KarsHotel

/-! ## Values -/

/-- A JSON value. The entries of an object have pairwise different keys. -/
inductive Body where
  | null
  | bool (b : Bool)
  | num (n : JsonNumber)
  | str (s : JsString)
  | arr (items : List Body)
  | obj (entries : List (JsString × Body))

/-- Neither `null` nor an empty text. -/
def Body.nonEmpty : Body → Bool
  | .null => false
  | .str s => !s.isEmpty
  | _ => true

/-! ## The redaction -/

namespace JournalRedact

def JOURNAL_HIDDEN : JsString := literal "***"

def MAX_STRING : ℕ := 2000

def MAX_ARRAY : ℕ := 50

def MAX_DEPTH : ℕ := 8

/-- Parts of a name, without case and separators, that are always hidden. -/
def SECRET_PARTS : List JsString :=
  ["password", "passwd", "secret", "token", "apikey", "mrz", "passport", "otp", "cookie",
    "authorization"].map literal

/-- Exact names, without case and separators. -/
def SECRET_KEYS : List JsString :=
  ["pin", "newpin", "oldpin", "currentpin",
    "document", "documentnumber", "docnumber", "docseries", "series", "passportseries",
    "passportnumber", "cardnumber", "cvv", "cvc", "snils", "inn_personal", "docnum",
    "documentseries", "birthplace"].map literal

/-- What `toLowerCase` and the removal of all but `a-z0-9` leave of a code unit. Of the others only
the Kelvin sign and the dotted capital I have such a letter in lower case. -/
def normUnit (u : UInt16) : Option UInt16 :=
  if 97 ≤ u.toNat ∧ u.toNat ≤ 122 ∨ 48 ≤ u.toNat ∧ u.toNat ≤ 57 then some u
  else if 65 ≤ u.toNat ∧ u.toNat ≤ 90 then some (u + 32)
  else if u.toNat = 0x212A then some 107
  else if u.toNat = 0x130 then some 105
  else none

def norm (key : JsString) : JsString := key.filterMap normUnit

/-- The segments under which `code` is a one-time code. -/
def AUTH_SEGMENTS : List JsString :=
  ["auth", "sso", "login", "verify", "password", "pin", "2fa", "otp"].map literal

/-- A letter of a path regardless of case. -/
def lowerUnit (u : UInt16) : UInt16 := if 65 ≤ u.toNat ∧ u.toNat ≤ 90 then u + 32 else u

/-- `/segment` at the front, before a slash, a question mark or the end. -/
def startsWithSegment (path segment : JsString) : Bool :=
  (literal "/" ++ segment).isPrefixOf path &&
    match path.drop (segment.length + 1) with
    | [] => true
    | u :: _ => (literal "/?").contains u

def isAuthPath (path : JsString) : Bool :=
  (path.map lowerUnit).tails.any fun rest => AUTH_SEGMENTS.any (startsWithSegment rest)

def isSecretKey (authPath : Bool) (key : JsString) : Bool :=
  let k := norm key
  SECRET_KEYS.contains k ||
    (authPath && (decide (k = literal "code") || (literal "code").isSuffixOf k)) ||
    SECRET_PARTS.any fun p => k.tails.any p.isPrefixOf

/-- The mark of what was cut. -/
def more (n : ℕ) : JsString := literal ("… (+" ++ toString n ++ ")")

def cutText (s : JsString) : JsString :=
  if MAX_STRING < s.length then s.take MAX_STRING ++ more (s.length - MAX_STRING) else s

/-- Setting it on an object sets the prototype and makes no entry. -/
def PROTO : JsString := literal "__proto__"

mutual

def walk (authPath : Bool) (depth : ℕ) : Body → Body
  | .null => .null
  | .bool b => .bool b
  | .num n => .num n
  | .str s => .str (cutText s)
  | .arr items =>
    if MAX_DEPTH ≤ depth then .str (literal "…")
    else
      let head := walkItems authPath (depth + 1) MAX_ARRAY items
      .arr (if MAX_ARRAY < items.length then head ++ [.str (more (items.length - MAX_ARRAY))]
        else head)
  | .obj entries =>
    if MAX_DEPTH ≤ depth then .str (literal "…")
    else .obj (walkEntries authPath (depth + 1) entries)

/-- The first items of an array. -/
def walkItems (authPath : Bool) (depth : ℕ) : ℕ → List Body → List Body
  | n + 1, v :: vs => walk authPath depth v :: walkItems authPath depth n vs
  | _, _ => []

def walkEntries (authPath : Bool) (depth : ℕ) : List (JsString × Body) → List (JsString × Body)
  | [] => []
  | (k, v) :: es =>
    if k = PROTO then walkEntries authPath depth es
    else
      (k, if isSecretKey authPath k && v.nonEmpty then .str JOURNAL_HIDDEN
        else walk authPath depth v) :: walkEntries authPath depth es

end

def redactForJournal (value : Body) (path : JsString) : Body := walk (isAuthPath path) 0 value

/-! ## Keys and secrets -/

/-- The keys that the list of secret names means: it is written without case and separators, and so
are the names in it read. -/
def secretNamed (authPath : Bool) (key : JsString) : Bool :=
  isSecretKey authPath key || (SECRET_KEYS.map norm).contains (norm key)

variable (secret : JsString → Bool) (authPath : Bool)

mutual

/-- The same shape and the same values, but for non-empty values under secret keys. -/
inductive Similar : Body → Body → Prop
  | same (a : Body) : Similar a a
  | arr {as bs : List Body} : SimilarItems as bs → Similar (.arr as) (.arr bs)
  | obj {es fs : List (JsString × Body)} : SimilarEntries es fs → Similar (.obj es) (.obj fs)

inductive SimilarItems : List Body → List Body → Prop
  | nil : SimilarItems [] []
  | cons {v w : Body} {vs ws : List Body} :
    Similar v w → SimilarItems vs ws → SimilarItems (v :: vs) (w :: ws)

inductive SimilarEntries : List (JsString × Body) → List (JsString × Body) → Prop
  | nil : SimilarEntries [] []
  | cons {k : JsString} {v w : Body} {es fs : List (JsString × Body)} :
    Similar v w → SimilarEntries es fs → SimilarEntries ((k, v) :: es) ((k, w) :: fs)
  | secret {k : JsString} {v w : Body} {es fs : List (JsString × Body)} :
    secret k → v.nonEmpty → w.nonEmpty → SimilarEntries es fs →
      SimilarEntries ((k, v) :: es) ((k, w) :: fs)

end

mutual

/-- A non-empty value under a secret key that `walk` comes to without knowing the key. -/
def Exposed : ℕ → Body → Prop
  | depth, .arr items => depth < MAX_DEPTH ∧ ExposedItems (depth + 1) MAX_ARRAY items
  | depth, .obj entries => depth < MAX_DEPTH ∧ ExposedEntries (depth + 1) entries
  | _, _ => False

def ExposedItems : ℕ → ℕ → List Body → Prop
  | depth, n + 1, v :: vs => Exposed depth v ∨ ExposedItems depth n vs
  | _, _, _ => False

def ExposedEntries : ℕ → List (JsString × Body) → Prop
  | _, [] => False
  | depth, (k, v) :: es =>
    k ≠ PROTO ∧ ¬(isSecretKey authPath k ∧ v.nonEmpty) ∧ (secret k ∧ v.nonEmpty ∨ Exposed depth v) ∨
      ExposedEntries depth es

end

mutual

/-- All keys of the body, at any depth, are such. -/
def EveryKey (p : JsString → Prop) : Body → Prop
  | .arr items => EveryKeyItems p items
  | .obj entries => EveryKeyEntries p entries
  | _ => True

def EveryKeyItems (p : JsString → Prop) : List Body → Prop
  | [] => True
  | v :: vs => EveryKey p v ∧ EveryKeyItems p vs

def EveryKeyEntries (p : JsString → Prop) : List (JsString × Body) → Prop
  | [] => True
  | (k, v) :: es => (p k ∧ EveryKey p v) ∧ EveryKeyEntries p es

end

mutual

/-- Nesting, array lengths and strings are within the limits. -/
def Within : ℕ → Body → Prop
  | _, .str s => s.length ≤ MAX_STRING
  | depth, .arr items =>
    depth < MAX_DEPTH ∧ items.length ≤ MAX_ARRAY ∧ WithinItems (depth + 1) items
  | depth, .obj entries => depth < MAX_DEPTH ∧ WithinEntries (depth + 1) entries
  | _, _ => True

def WithinItems : ℕ → List Body → Prop
  | _, [] => True
  | depth, v :: vs => Within depth v ∧ WithinItems depth vs

def WithinEntries : ℕ → List (JsString × Body) → Prop
  | _, [] => True
  | depth, (_, v) :: es => Within depth v ∧ WithinEntries depth es

end

/-! ## Two runs -/

variable {secret authPath}

theorem walkEntries_cons {depth : ℕ} {k : JsString} {v : Body} {es : List (JsString × Body)}
    (hk : k ≠ PROTO) :
    walkEntries authPath depth ((k, v) :: es) =
      (k, if isSecretKey authPath k && v.nonEmpty then .str JOURNAL_HIDDEN
        else walk authPath depth v) :: walkEntries authPath depth es := by
  simp [walkEntries, hk]

theorem SimilarItems.length {as bs : List Body} (h : SimilarItems secret as bs) :
    as.length = bs.length := by
  induction as generalizing bs with
  | nil => cases h; rfl
  | cons a as ih =>
    cases h with
    | cons _ h => simp [ih h]

theorem Similar.nonEmpty {v w : Body} (h : Similar secret v w) : v.nonEmpty = w.nonEmpty := by
  cases h <;> rfl

mutual

/-- Where no secret is exposed, two runs on similar bodies agree. -/
theorem walk_similar {depth : ℕ} : ∀ {a b : Body}, Similar secret a b →
    ¬Exposed secret authPath depth a → walk authPath depth a = walk authPath depth b
  | _, _, .same _, _ => rfl
  | .arr as, .arr bs, .arr h, hx => by
    by_cases hd : MAX_DEPTH ≤ depth
    · simp [walk, hd]
    · have hd' : depth < MAX_DEPTH := by omega
      have hi := walkItems_similar h fun hi => hx ⟨hd', hi⟩
      simp only [walk, hd, if_false, hi, h.length]
  | .obj es, .obj fs, .obj h, hx => by
    by_cases hd : MAX_DEPTH ≤ depth
    · simp [walk, hd]
    · have hd' : depth < MAX_DEPTH := by omega
      have hi := walkEntries_similar h fun hi => hx ⟨hd', hi⟩
      simp only [walk, hd, if_false, hi]

theorem walkItems_similar {depth n : ℕ} : ∀ {as bs : List Body}, SimilarItems secret as bs →
    ¬ExposedItems secret authPath depth n as →
      walkItems authPath depth n as = walkItems authPath depth n bs
  | [], [], .nil, _ => rfl
  | a :: as, b :: bs, .cons h hs, hx => by
    cases n with
    | zero => simp [walkItems]
    | succ n =>
      have hv := walk_similar h fun hv => hx (.inl hv)
      have hi := walkItems_similar hs fun hi => hx (.inr hi)
      simp only [walkItems, hv, hi]

theorem walkEntries_similar {depth : ℕ} : ∀ {es fs : List (JsString × Body)},
    SimilarEntries secret es fs → ¬ExposedEntries secret authPath depth es →
      walkEntries authPath depth es = walkEntries authPath depth fs
  | [], [], .nil, _ => rfl
  | (k, v) :: es, (_, w) :: fs, .cons h hs, hx => by
    have hi := walkEntries_similar hs fun hi => hx (.inr hi)
    by_cases hk : k = PROTO
    · simp [walkEntries, hk, hi]
    · rw [walkEntries_cons hk, walkEntries_cons hk, hi, ← h.nonEmpty]
      by_cases hs : isSecretKey authPath k ∧ v.nonEmpty
      · simp [hs]
      · have hv := walk_similar h fun hv => hx (.inl ⟨hk, hs, .inr hv⟩)
        rw [hv]
  | (k, v) :: es, (_, w) :: fs, .secret hk' hv hw hs, hx => by
    have hi := walkEntries_similar hs fun hi => hx (.inr hi)
    by_cases hk : k = PROTO
    · simp [walkEntries, hk, hi]
    · rw [walkEntries_cons hk, walkEntries_cons hk, hi]
      by_cases hs : isSecretKey authPath k
      · simp [hs, hv, hw]
      · exact absurd (.inl ⟨hk, fun h => hs h.1, .inl ⟨hk', hv⟩⟩) hx

end

theorem SimilarItems.same : ∀ as : List Body, SimilarItems secret as as
  | [] => .nil
  | a :: as => .cons (.same a) (.same as)

theorem SimilarEntries.same : ∀ es : List (JsString × Body), SimilarEntries secret es es
  | [] => .nil
  | (_, v) :: es => .cons (.same v) (.same es)

theorem exists_other (depth : ℕ) (v : Body) :
    ∃ w : Body, w.nonEmpty ∧ walk authPath depth v ≠ walk authPath depth w := by
  by_cases hv : walk authPath depth v = .bool true
  · refine ⟨.bool false, rfl, ?_⟩
    simp [hv, walk]
  · exact ⟨.bool true, rfl, by simpa [walk] using hv⟩

mutual

/-- An exposed secret tells two similar bodies apart. -/
theorem Exposed.tells : ∀ {depth : ℕ} {a : Body}, Exposed secret authPath depth a →
    ∃ b, Similar secret a b ∧ walk authPath depth a ≠ walk authPath depth b
  | depth, .arr as, h => by
    obtain ⟨bs, hs, hne⟩ := ExposedItems.tells h.2
    refine ⟨.arr bs, .arr hs, fun heq => hne ?_⟩
    have hd : ¬MAX_DEPTH ≤ depth := by have := h.1; omega
    simp only [walk, hd, if_false, hs.length, Body.arr.injEq] at heq
    by_cases hm : MAX_ARRAY < bs.length
    · simp only [hm, if_true] at heq
      exact (List.append_inj_left' heq rfl)
    · simpa only [hm, if_false] using heq
  | depth, .obj es, h => by
    obtain ⟨fs, hs, hne⟩ := ExposedEntries.tells h.2
    refine ⟨.obj fs, .obj hs, fun heq => hne ?_⟩
    have hd : ¬MAX_DEPTH ≤ depth := by have := h.1; omega
    simpa only [walk, hd, if_false, Body.obj.injEq] using heq

theorem ExposedItems.tells : ∀ {depth n : ℕ} {as : List Body},
    ExposedItems secret authPath depth n as →
      ∃ bs, SimilarItems secret as bs ∧
        walkItems authPath depth n as ≠ walkItems authPath depth n bs
  | _, 0, _, h => by simp [ExposedItems] at h
  | depth, n + 1, a :: as, .inl h => by
    obtain ⟨b, hs, hne⟩ := Exposed.tells h
    refine ⟨b :: as, .cons hs (.same as), fun heq => hne ?_⟩
    simp only [walkItems, List.cons.injEq] at heq
    exact heq.1
  | depth, n + 1, a :: as, .inr h => by
    obtain ⟨bs, hs, hne⟩ := ExposedItems.tells h
    refine ⟨a :: bs, .cons (.same a) hs, fun heq => hne ?_⟩
    simp only [walkItems, List.cons.injEq] at heq
    exact heq.2

theorem ExposedEntries.tells : ∀ {depth : ℕ} {es : List (JsString × Body)},
    ExposedEntries secret authPath depth es →
      ∃ fs, SimilarEntries secret es fs ∧
        walkEntries authPath depth es ≠ walkEntries authPath depth fs
  | depth, (k, v) :: es, .inl ⟨hk, hs, .inl ⟨hk', hv⟩⟩ => by
    obtain ⟨w, hw, hne⟩ := exists_other depth v
    refine ⟨(k, w) :: es, .secret hk' hv hw (.same es), fun heq => hne ?_⟩
    have hk'' : ¬isSecretKey authPath k := fun h => hs ⟨h, hv⟩
    simpa [walkEntries_cons hk, hk''] using heq
  | depth, (k, v) :: es, .inl ⟨hk, hs, .inr h⟩ => by
    obtain ⟨w, hs', hne⟩ := Exposed.tells h
    refine ⟨(k, w) :: es, .cons hs' (.same es), fun heq => hne ?_⟩
    rw [walkEntries_cons hk, walkEntries_cons hk, ← hs'.nonEmpty] at heq
    simpa [hs] using heq
  | depth, (k, v) :: es, .inr h => by
    obtain ⟨fs, hs, hne⟩ := ExposedEntries.tells h
    refine ⟨(k, v) :: fs, .cons (.same v) hs, fun heq => hne ?_⟩
    by_cases hk : k = PROTO
    · simpa [walkEntries, hk] using heq
    · rw [walkEntries_cons hk, walkEntries_cons hk] at heq
      exact (List.cons.inj heq).2

end

mutual

/-- Under the keys that it knows `walk` exposes nothing. -/
theorem not_exposed_isSecretKey : ∀ {depth : ℕ} (a : Body),
    ¬Exposed (isSecretKey authPath) authPath depth a
  | _, .arr items => fun h => not_exposedItems_isSecretKey items h.2
  | _, .obj entries => fun h => not_exposedEntries_isSecretKey entries h.2
  | _, .null | _, .bool _ | _, .num _ | _, .str _ => fun h => h

theorem not_exposedItems_isSecretKey : ∀ {depth n : ℕ} (as : List Body),
    ¬ExposedItems (isSecretKey authPath) authPath depth n as
  | _, 0, _ => by simp [ExposedItems]
  | _, _ + 1, [] => by simp [ExposedItems]
  | _, _ + 1, a :: as =>
    fun h => h.elim (not_exposed_isSecretKey a) (not_exposedItems_isSecretKey as)

theorem not_exposedEntries_isSecretKey : ∀ {depth : ℕ} (es : List (JsString × Body)),
    ¬ExposedEntries (isSecretKey authPath) authPath depth es
  | _, [] => fun h => h
  | _, (_, v) :: es => fun h =>
    h.elim (fun h => h.2.2.elim h.2.1 (not_exposed_isSecretKey v))
      (not_exposedEntries_isSecretKey es)

end

/-! ## A body without secrets -/

theorem secretNamed_of_isSecretKey {key : JsString} (h : isSecretKey authPath key) :
    secretNamed authPath key := by
  simp [secretNamed, h]

theorem walkEntries_length (depth : ℕ) : ∀ es : List (JsString × Body),
    (walkEntries authPath depth es).length ≤ es.length
  | [] => by simp [walkEntries]
  | (k, v) :: es => by
    have ih := walkEntries_length depth es
    by_cases hk : k = PROTO
    · simp only [walkEntries, hk, if_true, List.length_cons]
      omega
    · rw [walkEntries_cons hk]
      simpa using ih

mutual

/-- A body without secret keys and within the limits is kept exactly when no entry is lost. -/
theorem walk_eq_self : ∀ {depth : ℕ} {a : Body},
    EveryKey (fun key => ¬isSecretKey authPath key) a → Within depth a →
      (walk authPath depth a = a ↔ EveryKey (· ≠ PROTO) a)
  | _, .null, _, _ => by simp [walk, EveryKey]
  | _, .bool _, _, _ => by simp [walk, EveryKey]
  | _, .num _, _, _ => by simp [walk, EveryKey]
  | _, .str s, _, hw => by
    have hs : ¬MAX_STRING < s.length := by simp only [Within] at hw; omega
    simp [walk, EveryKey, cutText, hs]
  | depth, .arr items, hk, hw => by
    obtain ⟨hd, hl, hw⟩ := hw
    have hd' : ¬MAX_DEPTH ≤ depth := by omega
    have hl' : ¬MAX_ARRAY < items.length := by omega
    have hi := walkItems_eq_self hk hw hl
    simpa only [walk, hd', hl', if_false, Body.arr.injEq, EveryKey] using hi
  | depth, .obj entries, hk, hw => by
    obtain ⟨hd, hw⟩ := hw
    have hd' : ¬MAX_DEPTH ≤ depth := by omega
    have hi := walkEntries_eq_self hk hw
    simpa only [walk, hd', if_false, Body.obj.injEq, EveryKey] using hi

theorem walkItems_eq_self : ∀ {depth n : ℕ} {as : List Body},
    EveryKeyItems (fun key => ¬isSecretKey authPath key) as → WithinItems depth as →
      as.length ≤ n → (walkItems authPath depth n as = as ↔ EveryKeyItems (· ≠ PROTO) as)
  | _, n, [], _, _, _ => by cases n <;> simp [walkItems, EveryKeyItems]
  | _, 0, _ :: _, _, _, hn => by simp at hn
  | _, n + 1, a :: as, hk, hw, hn => by
    have ha := walk_eq_self hk.1 hw.1
    have has := walkItems_eq_self hk.2 hw.2 (n := n) (by simpa using hn)
    simp only [walkItems, List.cons.injEq, EveryKeyItems, ha, has]

theorem walkEntries_eq_self : ∀ {depth : ℕ} {es : List (JsString × Body)},
    EveryKeyEntries (fun key => ¬isSecretKey authPath key) es → WithinEntries depth es →
      (walkEntries authPath depth es = es ↔ EveryKeyEntries (· ≠ PROTO) es)
  | _, [], _, _ => by simp [walkEntries, EveryKeyEntries]
  | depth, (k, v) :: es, hk, hw => by
    have hv := walk_eq_self hk.1.2 hw.1
    have hes := walkEntries_eq_self hk.2 hw.2
    by_cases hp : k = PROTO
    · have hl : (walkEntries authPath depth es).length ≤ es.length :=
        walkEntries_length depth es
      have hne : walkEntries authPath depth ((k, v) :: es) ≠ (k, v) :: es := by
        intro h
        have := congrArg List.length h
        simp only [walkEntries, hp, if_true, List.length_cons] at this
        omega
      exact iff_of_false hne fun h => h.1.1 hp
    · have hs : isSecretKey authPath k = false := by simpa using hk.1.1
      rw [walkEntries_cons hp]
      simp [hs, hv, hes, EveryKeyEntries, hp]

end

mutual

theorem EveryKey.mono {p q : JsString → Prop} (hpq : ∀ key, p key → q key) :
    ∀ {a : Body}, EveryKey p a → EveryKey q a
  | .arr _, h => EveryKeyItems.mono hpq h
  | .obj _, h => EveryKeyEntries.mono hpq h
  | .null, _ | .bool _, _ | .num _, _ | .str _, _ => trivial

theorem EveryKeyItems.mono {p q : JsString → Prop} (hpq : ∀ key, p key → q key) :
    ∀ {as : List Body}, EveryKeyItems p as → EveryKeyItems q as
  | [], _ => trivial
  | _ :: _, h => ⟨EveryKey.mono hpq h.1, EveryKeyItems.mono hpq h.2⟩

theorem EveryKeyEntries.mono {p q : JsString → Prop} (hpq : ∀ key, p key → q key) :
    ∀ {es : List (JsString × Body)}, EveryKeyEntries p es → EveryKeyEntries q es
  | [], _ => trivial
  | _ :: _, h => ⟨⟨hpq _ h.1.1, EveryKey.mono hpq h.1.2⟩, EveryKeyEntries.mono hpq h.2⟩

end

/-! ## The law -/

/-- Secrets do not reach the journal, and a body without them is written as it is. -/
def SecretsHidden (path : JsString) (a : Body) : Prop :=
  (∀ b, Similar (secretNamed (isAuthPath path)) a b →
    redactForJournal a path = redactForJournal b path) ∧
  (EveryKey (fun key => ¬secretNamed (isAuthPath path) key) a → Within 0 a →
    redactForJournal a path = a)

/-- For the keys that `isSecretKey` knows two runs always agree. -/
theorem redactForJournal_similar {path : JsString} {a b : Body}
    (h : Similar (isSecretKey (isAuthPath path)) a b) :
    redactForJournal a path = redactForJournal b path :=
  walk_similar h (not_exposed_isSecretKey a)

/-- **Secrets hidden**: exactly where `walk` comes to no value under a secret key that it does not
know, and a body without secret keys and within the limits has no key `__proto__`. -/
theorem secretsHidden_iff (path : JsString) (a : Body) :
    SecretsHidden path a ↔
      ¬Exposed (secretNamed (isAuthPath path)) (isAuthPath path) 0 a ∧
        (EveryKey (fun key => ¬secretNamed (isAuthPath path) key) a → Within 0 a →
          EveryKey (· ≠ PROTO) a) := by
  have hself : EveryKey (fun key => ¬secretNamed (isAuthPath path) key) a → Within 0 a →
      (redactForJournal a path = a ↔ EveryKey (· ≠ PROTO) a) := fun hk hw =>
    walk_eq_self (hk.mono fun _ h hs => h (secretNamed_of_isSecretKey hs)) hw
  constructor
  · intro h
    constructor
    · intro hx
      obtain ⟨b, hs, hne⟩ := hx.tells
      exact hne (h.1 b hs)
    · intro hk hw
      exact (hself hk hw).1 (h.2 hk hw)
  · intro h
    constructor
    · intro b hs
      exact walk_similar hs h.1
    · intro hk hw
      exact (hself hk hw).2 (h.2 hk hw)

/-- A guest's `inn_personal` is written down, since no key without separators is that name; and a
key `__proto__` is not. -/
theorem innPersonal_written :
    ¬SecretsHidden (literal "/api/users")
      (.obj [(literal "inn_personal", .str (literal "7707083893"))]) ∧
    ¬SecretsHidden (literal "/api/users") (.obj [(literal "__proto__", .bool true)]) := by
  have hpath : isAuthPath (literal "/api/users") = false := by decide +kernel
  have hinn : isSecretKey false (literal "inn_personal") = false := by decide +kernel
  have hproto : literal "inn_personal" ≠ PROTO := by decide +kernel
  constructor
  · intro h
    have heq := h.1 (.obj [(literal "inn_personal", .str (literal "500100732259"))])
      (.obj (.secret (by decide +kernel) rfl rfl .nil))
    simp only [redactForJournal, hpath, walk, walkEntries_cons hproto, hinn] at heq
    revert heq
    simp [cutText, MAX_DEPTH, MAX_STRING, literal]
  · intro h
    have heq := h.2 ⟨⟨by decide +kernel, trivial⟩, trivial⟩ ⟨by decide, trivial, trivial⟩
    revert heq
    simp [redactForJournal, walk, walkEntries, MAX_DEPTH, PROTO]

end JournalRedact

end KarsHotel
