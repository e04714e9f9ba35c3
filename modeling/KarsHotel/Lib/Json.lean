import Mathlib.Data.List.Basic
import Mathlib.Tactic.Common

/-!
# JSON values and their texts

`JSON.stringify`, and that a text has one value.

* `Json`: a value, its objects as lists of entries in the order they are listed;
* `Json.stringify`: the text; `Json.ofFields`: an object whose undefined fields are left out;
* **`Json.render_append`**: a rendered value ends where it ends, whatever follows;
* **`Json.stringify_injective`**: two values with one text are one value.
-/

namespace KarsHotel

/-- The characters of a number's text. -/
def numericChar (c : Char) : Bool := c.isDigit || c = '-' || c = '+' || c = '.' || c = 'e'

/-- A finite number, by the text it is printed as. -/
@[ext] structure JsonNumber where
  text : String
  nonempty : text.toList ≠ []
  numeric : ∀ c ∈ text.toList, numericChar c = true
  deriving DecidableEq

def JsonNumber.ofNat (n : ℕ) : JsonNumber where
  text := n.repr
  nonempty := by simp
  numeric c hc := by
    rw [Nat.toList_repr] at hc
    simp [numericChar, Nat.isDigit_of_mem_toDigits (b := 10) (by decide) (by decide) hc]

theorem JsonNumber.ofNat_injective : Function.Injective JsonNumber.ofNat := by
  intro m n h
  have htext : m.repr.toList = n.repr.toList := congrArg (·.text.toList) h
  rw [Nat.toList_repr, Nat.toList_repr] at htext
  have hvalue := congrArg (Nat.ofDigitChars 10 · 0) htext
  simpa only [Nat.ofDigitChars_ten_toDigits] using hvalue

inductive Json where
  | null
  | bool (b : Bool)
  | num (n : JsonNumber)
  | str (s : String)
  | arr (items : List Json)
  | obj (entries : List (String × Json))

namespace Json

/-- An object of the fields that are not `undefined`. -/
def ofFields (fields : List (String × Option Json)) : Json :=
  .obj (fields.filterMap fun f => f.2.map fun v => (f.1, v))

/-- A nullable text. -/
def ofText : Option String → Json
  | none => .null
  | some s => .str s

theorem ofText_injective : Function.Injective ofText := by
  intro a b h
  cases a <;> cases b <;> simp_all [ofText]

/-- A nullable number. -/
def ofNumber : Option JsonNumber → Json
  | none => .null
  | some n => .num n

theorem ofNumber_injective : Function.Injective ofNumber := by
  intro a b h
  cases a <;> cases b <;> simp_all [ofNumber]

/-! ## Rendering -/

/-- The quotation mark. -/
def quote : Char := Char.ofNat 34

/-- The escape character. -/
def backslash : Char := Char.ofNat 92

def openBrace : Char := Char.ofNat 123

def closeBrace : Char := Char.ofNat 125

/-- What follows the backslash of a control character. -/
def controlEscape : ℕ → List Char
  | 8 => ['b']
  | 9 => ['t']
  | 10 => ['n']
  | 12 => ['f']
  | 13 => ['r']
  | n => ['u', '0', '0', Nat.digitChar (n / 16), Nat.digitChar (n % 16)]

def escapeChar (c : Char) : List Char :=
  if c = quote ∨ c = backslash then [backslash, c]
  else if c.toNat < 32 then backslash :: controlEscape c.toNat
  else [c]

def escape (s : List Char) : List Char := s.flatMap escapeChar

/-- A text in quotation marks. -/
def renderText (s : String) : List Char := quote :: (escape s.toList ++ [quote])

mutual

/-- The characters of a value's text. -/
def render : Json → List Char
  | null => ['n', 'u', 'l', 'l']
  | bool true => ['t', 'r', 'u', 'e']
  | bool false => ['f', 'a', 'l', 's', 'e']
  | num n => n.text.toList
  | str s => renderText s
  | arr items => '[' :: renderItems items
  | obj entries => openBrace :: renderEntries entries

/-- The items of an array after its opening bracket. -/
def renderItems : List Json → List Char
  | [] => [']']
  | j :: js => render j ++ moreItems js

def moreItems : List Json → List Char
  | [] => [']']
  | j :: js => ',' :: (render j ++ moreItems js)

/-- The entries of an object after its opening brace. -/
def renderEntries : List (String × Json) → List Char
  | [] => [closeBrace]
  | (k, j) :: js => renderText k ++ ':' :: (render j ++ moreEntries js)

def moreEntries : List (String × Json) → List Char
  | [] => [closeBrace]
  | (k, j) :: js => ',' :: (renderText k ++ ':' :: (render j ++ moreEntries js))

end

/-- `JSON.stringify`. -/
def stringify (j : Json) : String := String.ofList (render j)

/-! ## A text has one value -/

section Injective

variable {x y : List Char}

/-- Codes of which none begins another can be read off the front of a text. -/
theorem code_append {α : Type} {f : α → List Char} (hf : ∀ a b, f a <+: f b → a = b) {a b : α}
    (h : f a ++ x = f b ++ y) : a = b ∧ x = y := by
  have hab : a = b := by
    have ha : f a <+: f b ++ y := ⟨x, h⟩
    have hb : f b <+: f b ++ y := List.prefix_append _ _
    rcases List.prefix_or_prefix_of_prefix ha hb with hp | hp
    · exact hf a b hp
    · exact (hf b a hp).symm
  subst hab
  exact ⟨rfl, List.append_cancel_left h⟩

theorem controlEscape_code : ∀ m < 32, ∀ n < 32, controlEscape m <+: controlEscape n → m = n := by
  decide +kernel

/-- A control character is not escaped as the quotation mark or the backslash is. -/
theorem controlEscape_ne : ∀ n < 32, ∀ q ∈ [quote, backslash],
    ¬[q] <+: controlEscape n ∧ ¬controlEscape n <+: [q] := by
  have hquote : ∀ n < 32, ¬[quote] <+: controlEscape n ∧ ¬controlEscape n <+: [quote] := by
    decide +kernel
  have hbackslash : ∀ n < 32, ¬[backslash] <+: controlEscape n ∧
      ¬controlEscape n <+: [backslash] := by
    decide +kernel
  intro n hn q hq
  rcases List.mem_pair.mp hq with rfl | rfl
  · exact hquote n hn
  · exact hbackslash n hn

theorem escapeChar_code (c d : Char) (h : escapeChar c <+: escapeChar d) : c = d := by
  have hmem : ∀ e : Char, e = quote ∨ e = backslash → e ∈ [quote, backslash] := by simp
  unfold escapeChar at h
  split_ifs at h with hc hd hd' hc' hd hd' hd hd'
  · simpa using h
  · have := List.cons_prefix_cons.mp h
    exact absurd this.2 (controlEscape_ne _ hd' c (hmem c hc)).1
  · simp at h
  · have := List.cons_prefix_cons.mp h
    exact absurd this.2 (controlEscape_ne _ hc' d (hmem d hd)).2
  · have := List.cons_prefix_cons.mp h
    exact Char.toNat_inj.mp (controlEscape_code _ hc' _ hd' this.2)
  · have := List.cons_prefix_cons.mp h
    exact absurd (Or.inr this.1.symm) hd
  · have := List.cons_prefix_cons.mp h
    exact absurd (Or.inr this.1) hc
  · have := List.cons_prefix_cons.mp h
    exact absurd (Or.inr this.1) hc
  · simpa using h

/-- No character is escaped as a quotation mark alone. -/
theorem escapeChar_ne_quote (c : Char) : ¬escapeChar c <+: quote :: x ∧ escapeChar c ≠ [] := by
  unfold escapeChar
  split_ifs with hc hc'
  · simp [quote, backslash]
  · simp [quote, backslash]
  · have hne : c ≠ quote := fun h => hc (Or.inl h)
    simpa using hne

theorem escape_append {s t : List Char}
    (h : escape s ++ quote :: x = escape t ++ quote :: y) : s = t ∧ x = y := by
  have hend : ∀ (c : Char) (r z w : List Char), escapeChar c ++ r ++ z ≠ quote :: w := by
    intro c r z w hcr
    apply (escapeChar_ne_quote (x := w) c).1
    exact ⟨r ++ z, by rw [← hcr, List.append_assoc]⟩
  induction s generalizing t with
  | nil =>
    cases t with
    | nil => simpa [escape] using h
    | cons d t => exact absurd h.symm (hend d (escape t) _ _)
  | cons c s ih =>
    cases t with
    | nil => exact absurd h (hend c (escape s) _ _)
    | cons d t =>
      have hcons : escapeChar c ++ (escape s ++ quote :: x) =
          escapeChar d ++ (escape t ++ quote :: y) := by
        simpa [escape] using h
      obtain ⟨rfl, hrest⟩ := code_append escapeChar_code hcons
      obtain ⟨rfl, hxy⟩ := ih hrest
      exact ⟨rfl, hxy⟩

theorem renderText_append {s t : String} (h : renderText s ++ x = renderText t ++ y) :
    s = t ∧ x = y := by
  have hbody : escape s.toList ++ quote :: x = escape t.toList ++ quote :: y := by
    simpa [renderText] using h
  obtain ⟨hst, hxy⟩ := escape_append hbody
  exact ⟨String.toList_injective hst, hxy⟩

/-- What follows a value in a text does not go on with its number. -/
def Stops (x : List Char) : Prop := ∀ c r, x = c :: r → numericChar c = false

theorem numeric_append {s t : List Char} (hs : ∀ c ∈ s, numericChar c = true)
    (ht : ∀ c ∈ t, numericChar c = true) (hx : Stops x) (hy : Stops y)
    (h : s ++ x = t ++ y) : s = t ∧ x = y := by
  induction s generalizing t with
  | nil =>
    cases t with
    | nil => exact ⟨rfl, h⟩
    | cons d t =>
      have := hx d (t ++ y) h
      rw [ht d List.mem_cons_self] at this
      cases this
  | cons c s ih =>
    cases t with
    | nil =>
      have := hy c (s ++ x) h.symm
      rw [hs c List.mem_cons_self] at this
      cases this
    | cons d t =>
      obtain ⟨rfl, hrest⟩ := List.cons_eq_cons.mp h
      obtain ⟨rfl, hxy⟩ := ih (fun c hc => hs c (List.mem_cons_of_mem _ hc))
        (fun c hc => ht c (List.mem_cons_of_mem _ hc)) hrest
      exact ⟨rfl, hxy⟩

/-- The shape of a value, which the first character of its text tells. -/
def shape : Json → ℕ
  | null => 0
  | bool true => 1
  | bool false => 2
  | num _ => 3
  | str _ => 4
  | arr _ => 5
  | obj _ => 6

def shapeOf (c : Char) : ℕ :=
  if c = 'n' then 0 else if c = 't' then 1 else if c = 'f' then 2 else if numericChar c then 3
  else if c = quote then 4 else if c = '[' then 5 else if c = openBrace then 6 else 7

theorem shapeOf_numeric {c : Char} (h : numericChar c = true) : shapeOf c = 3 := by
  have hne : ∀ d, numericChar d = false → c ≠ d := fun d hd hcd => by
    rw [hcd, hd] at h
    cases h
  simp [shapeOf, h, hne 'n' (by decide), hne 't' (by decide), hne 'f' (by decide)]

theorem render_head (a : Json) : ∃ c r, render a = c :: r ∧ shapeOf c = shape a := by
  cases a with
  | null => exact ⟨_, _, rfl, by decide⟩
  | bool b => cases b <;> exact ⟨_, _, rfl, by decide⟩
  | num n =>
    obtain ⟨c, r, hcr⟩ := List.exists_cons_of_ne_nil n.nonempty
    refine ⟨c, r, hcr, shapeOf_numeric (n.numeric c ?_)⟩
    rw [hcr]
    exact List.mem_cons_self
  | str s => exact ⟨_, _, rfl, rfl⟩
  | arr items => exact ⟨_, _, rfl, rfl⟩
  | obj entries => exact ⟨_, _, rfl, rfl⟩

theorem shape_eq {a b : Json} (h : render a ++ x = render b ++ y) : shape a = shape b := by
  obtain ⟨c, r, ha, hc⟩ := render_head a
  obtain ⟨d, t, hb, hd⟩ := render_head b
  rw [ha, hb] at h
  have hcd : c = d := (List.cons_eq_cons.mp h).1
  rw [← hc, ← hd, hcd]

theorem shape_lt (a : Json) : shape a < 7 := by
  cases a with
  | bool b => cases b <;> simp [shape]
  | _ => simp [shape]

/-- No value begins with the closing bracket of an array. -/
theorem render_ne_bracket (a : Json) (r : List Char) : render a ++ x ≠ ']' :: r := by
  intro h
  obtain ⟨c, t, hc, hs⟩ := render_head a
  rw [hc] at h
  have hcb : c = ']' := (List.cons_eq_cons.mp h).1
  have h7 : shapeOf c = 7 := by rw [hcb]; rfl
  have := shape_lt a
  omega

theorem stops_cons {c : Char} {r : List Char} (h : numericChar c = false) : Stops (c :: r) := by
  intro d t hd
  rwa [← (List.cons_eq_cons.mp hd).1]

theorem stops_moreItems (l : List Json) (x : List Char) : Stops (moreItems l ++ x) := by
  cases l <;> exact stops_cons (by decide)

theorem stops_moreEntries (l : List (String × Json)) (x : List Char) :
    Stops (moreEntries l ++ x) := by
  cases l with
  | nil => exact stops_cons (by decide)
  | cons e l => exact stops_cons (by decide)

mutual

/-- **A rendered value ends where it ends.** -/
theorem render_append (a b : Json) {x y : List Char} (hx : Stops x) (hy : Stops y)
    (h : render a ++ x = render b ++ y) : a = b ∧ x = y := by
  have hs := shape_eq h
  -- values of different shapes differ in the first character
  match a, b with
  | null, null => exact ⟨rfl, by simpa [render] using h⟩
  | bool true, bool true => exact ⟨rfl, by simpa [render] using h⟩
  | bool false, bool false => exact ⟨rfl, by simpa [render] using h⟩
  | num m, num n =>
    obtain ⟨hmn, hxy⟩ := numeric_append m.numeric n.numeric hx hy h
    exact ⟨congrArg num (JsonNumber.ext (String.toList_injective hmn)), hxy⟩
  | str s, str t =>
    obtain ⟨rfl, hxy⟩ := renderText_append h
    exact ⟨rfl, hxy⟩
  | arr l, arr m =>
    have hbody : renderItems l ++ x = renderItems m ++ y := by simpa [render] using h
    obtain ⟨rfl, hxy⟩ := renderItems_append l m hbody
    exact ⟨rfl, hxy⟩
  | obj l, obj m =>
    have hbody : renderEntries l ++ x = renderEntries m ++ y := by simpa [render] using h
    obtain ⟨rfl, hxy⟩ := renderEntries_append l m hbody
    exact ⟨rfl, hxy⟩

theorem renderItems_append (l m : List Json) {x y : List Char}
    (h : renderItems l ++ x = renderItems m ++ y) : l = m ∧ x = y := by
  match l, m with
  | [], [] => exact ⟨rfl, by simpa [renderItems] using h⟩
  | [], k :: m =>
    simp only [renderItems, List.append_assoc, List.cons_append] at h
    exact absurd h.symm (render_ne_bracket k _)
  | j :: l, [] =>
    simp only [renderItems, List.append_assoc, List.cons_append] at h
    exact absurd h (render_ne_bracket j _)
  | j :: l, k :: m =>
    simp only [renderItems, List.append_assoc] at h
    obtain ⟨rfl, hrest⟩ := render_append j k (stops_moreItems l x) (stops_moreItems m y) h
    obtain ⟨rfl, hxy⟩ := moreItems_append l m hrest
    exact ⟨rfl, hxy⟩

theorem moreItems_append (l m : List Json) {x y : List Char}
    (h : moreItems l ++ x = moreItems m ++ y) : l = m ∧ x = y := by
  match l, m with
  | [], [] => exact ⟨rfl, by simpa [moreItems] using h⟩
  | [], k :: m => simp [moreItems] at h
  | j :: l, [] => simp [moreItems] at h
  | j :: l, k :: m =>
    have htail : render j ++ (moreItems l ++ x) = render k ++ (moreItems m ++ y) := by
      simpa [moreItems] using h
    obtain ⟨rfl, hrest⟩ := render_append j k (stops_moreItems l x) (stops_moreItems m y) htail
    obtain ⟨rfl, hxy⟩ := moreItems_append l m hrest
    exact ⟨rfl, hxy⟩

theorem renderEntries_append (l m : List (String × Json)) {x y : List Char}
    (h : renderEntries l ++ x = renderEntries m ++ y) : l = m ∧ x = y := by
  match l, m with
  | [], [] => exact ⟨rfl, by simpa [renderEntries] using h⟩
  | [], (k, b) :: m => simp [renderEntries, renderText, quote, closeBrace] at h
  | (j, a) :: l, [] => simp [renderEntries, renderText, quote, closeBrace] at h
  | (j, a) :: l, (k, b) :: m =>
    simp only [renderEntries, List.append_assoc, List.cons_append] at h
    obtain ⟨rfl, hvalue⟩ := renderText_append h
    obtain ⟨rfl, hrest⟩ := render_append a b (stops_moreEntries l x) (stops_moreEntries m y)
      (List.cons_eq_cons.mp hvalue).2
    obtain ⟨rfl, hxy⟩ := moreEntries_append l m hrest
    exact ⟨rfl, hxy⟩

theorem moreEntries_append (l m : List (String × Json)) {x y : List Char}
    (h : moreEntries l ++ x = moreEntries m ++ y) : l = m ∧ x = y := by
  match l, m with
  | [], [] => exact ⟨rfl, by simpa [moreEntries] using h⟩
  | [], (k, b) :: m => simp [moreEntries, closeBrace] at h
  | (j, a) :: l, [] => simp [moreEntries, closeBrace] at h
  | (j, a) :: l, (k, b) :: m =>
    have htail : renderText j ++ (':' :: (render a ++ (moreEntries l ++ x))) =
        renderText k ++ (':' :: (render b ++ (moreEntries m ++ y))) := by
      simpa [moreEntries] using h
    obtain ⟨rfl, hvalue⟩ := renderText_append htail
    obtain ⟨rfl, hrest⟩ := render_append a b (stops_moreEntries l x) (stops_moreEntries m y)
      (List.cons_eq_cons.mp hvalue).2
    obtain ⟨rfl, hxy⟩ := moreEntries_append l m hrest
    exact ⟨rfl, hxy⟩

end

end Injective

/-- **Two values with one text are one value.** -/
theorem stringify_injective : Function.Injective stringify := by
  intro a b h
  have hrender : render a ++ [] = render b ++ [] := by
    have := String.ofList_injective h
    rw [this]
  have hstop : Stops [] := fun c r hr => absurd hr.symm (List.cons_ne_nil c r)
  exact (render_append a b hstop hstop hrender).1

end Json

end KarsHotel
