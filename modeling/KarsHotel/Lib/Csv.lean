import Mathlib.Tactic.Common

/-!
# Comma-separated values

Records of fields as a text: fields between quotes with a comma between, records with a line feed
between.

* `quoted`, `record`, `write`: the text, every field in quotes, quotes doubled;
* `Reader`, `Reader.next`, `read`: what a text says, fields in quotes or plain;
* **`read_write`**: reading gives back what was written, whatever the fields hold.
-/

namespace KarsHotel.Csv

/-- The double quote. -/
def quote : Char := Char.ofNat 34

/-! ## Writing -/

/-- A field with its quotes doubled. -/
def doubled (field : List Char) : List Char :=
  field.flatMap fun c => if c = quote then [quote, quote] else [c]

def quoted (field : List Char) : List Char := quote :: (doubled field ++ [quote])

def record (fields : List (List Char)) : List Char := [','].intercalate (fields.map quoted)

def write (records : List (List (List Char))) : List Char := ['\n'].intercalate (records.map record)

/-! ## Reading -/

/-- Where the reader is: at the beginning of a field, in a plain one, between quotes, or after a
quote that closes the field unless another follows. -/
inductive Mode where
  | start
  | plain
  | inside
  | closed
  deriving DecidableEq, Repr

structure Reader where
  mode : Mode
  field : List Char
  fields : List (List Char)
  records : List (List (List Char))
  deriving DecidableEq, Repr

namespace Reader

/-- The reader before a text. -/
def begin : Reader := ⟨.start, [], [], []⟩

def allFields (r : Reader) : List (List Char) := r.fields ++ [r.field]

/-- A comma or a line feed, which end a field. -/
def separate (r : Reader) (c : Char) : Option Reader :=
  if c = ',' then some ⟨.start, [], r.allFields, r.records⟩
  else if c = '\n' then some ⟨.start, [], [], r.records ++ [r.allFields]⟩
  else none

def next (r : Reader) (c : Char) : Option Reader :=
  match r.mode with
  | .start => if c = quote then some { r with mode := .inside }
    else (r.separate c).or (some { r with mode := .plain, field := r.field ++ [c] })
  | .plain => if c = quote then none
    else (r.separate c).or (some { r with field := r.field ++ [c] })
  | .inside => if c = quote then some { r with mode := .closed }
    else some { r with field := r.field ++ [c] }
  | .closed => if c = quote then some { r with mode := .inside, field := r.field ++ [quote] }
    else r.separate c

/-- The end of the text: not between quotes. -/
def finish (r : Reader) : Option (List (List (List Char))) :=
  if r.mode = .inside then none else some (r.records ++ [r.allFields])

end Reader

def read (text : List Char) : Option (List (List (List Char))) :=
  (text.foldlM Reader.next Reader.begin).bind Reader.finish

/-! ## Reading what was written -/

section RoundTrip

variable {fs : List (List Char)} {rs : List (List (List Char))}

theorem comma_ne_quote : ',' ≠ quote := by decide

theorem lineFeed_ne_quote : '\n' ≠ quote := by decide

theorem foldlM_doubled (s f : List Char) : (doubled s).foldlM Reader.next ⟨.inside, f, fs, rs⟩ =
    some ⟨.inside, f ++ s, fs, rs⟩ := by
  induction s generalizing f with
  | nil => simp [doubled]
  | cons c s ih =>
    have hcons : doubled (c :: s) = (if c = quote then [quote, quote] else [c]) ++ doubled s := rfl
    rw [hcons, List.foldlM_append]
    by_cases hc : c = quote
    · subst hc
      rw [if_pos rfl]
      simp [Reader.next, ih]
    · rw [if_neg hc]
      simp [Reader.next, hc, ih]

theorem foldlM_quoted (s : List Char) : (quoted s).foldlM Reader.next ⟨.start, [], fs, rs⟩ =
    some ⟨.closed, s, fs, rs⟩ := by
  have hopen : Reader.next ⟨.start, [], fs, rs⟩ quote = some ⟨.inside, [], fs, rs⟩ := by
    simp [Reader.next]
  rw [quoted, List.foldlM_cons, hopen]
  simp only [Option.bind_eq_bind, Option.bind_some, List.foldlM_append, foldlM_doubled, List.nil_append]
  simp [Reader.next]

theorem foldlM_record (rs : List (List (List Char))) (f : List Char) (fields fs : List (List Char)) :
    ∃ r : Reader, (record (f :: fields)).foldlM Reader.next ⟨.start, [], fs, rs⟩ = some r ∧
      r.mode = .closed ∧ r.allFields = fs ++ f :: fields ∧ r.records = rs := by
  induction fields generalizing f fs with
  | nil =>
    refine ⟨⟨.closed, f, fs, rs⟩, ?_, rfl, rfl, rfl⟩
    rw [record, List.map_singleton, List.intercalate_singleton, foldlM_quoted]
  | cons g fields ih =>
    obtain ⟨r, hr, hmode, hfields, hrecords⟩ := ih g (fs ++ [f])
    refine ⟨r, ?_, hmode, by rw [hfields, List.append_assoc, List.singleton_append], hrecords⟩
    have hcons : record (f :: g :: fields) = quoted f ++ ',' :: record (g :: fields) := by
      simp [record, List.intercalate_cons_cons]
    rw [hcons, List.foldlM_append, foldlM_quoted]
    simp only [Option.bind_eq_bind, Option.bind_some, List.foldlM_cons]
    rw [show (Reader.next ⟨.closed, f, fs, rs⟩ ',') = some ⟨.start, [], fs ++ [f], rs⟩ by
      simp [Reader.next, Reader.separate, Reader.allFields, comma_ne_quote]]
    exact hr

theorem foldlM_write (records : List (List (List Char))) (last : List (List Char))
    (hfields : ∀ fields ∈ records ++ [last], fields ≠ []) (rs : List (List (List Char))) :
    ∃ r : Reader, (write (records ++ [last])).foldlM Reader.next ⟨.start, [], [], rs⟩ = some r ∧
      r.mode = .closed ∧ r.records ++ [r.allFields] = rs ++ (records ++ [last]) := by
  induction records generalizing rs with
  | nil =>
    obtain ⟨f, fields, rfl⟩ := List.exists_cons_of_ne_nil (hfields last List.mem_cons_self)
    obtain ⟨r, hr, hmode, hall, hrecords⟩ := foldlM_record rs f fields []
    refine ⟨r, ?_, hmode, by rw [hall, hrecords]; rfl⟩
    rw [List.nil_append, write, List.map_singleton, List.intercalate_singleton, hr]
  | cons x records ih =>
    obtain ⟨f, fields, rfl⟩ := List.exists_cons_of_ne_nil (hfields x List.mem_cons_self)
    obtain ⟨r, hr, hmode, hall⟩ := ih (fun y hy => hfields y (List.mem_cons_of_mem _ hy))
      (rs ++ [f :: fields])
    refine ⟨r, ?_, hmode, by rw [hall, List.append_assoc]; rfl⟩
    obtain ⟨y, ys, hys⟩ := List.exists_cons_of_ne_nil (by simp : records ++ [last] ≠ [])
    have hcons : write ((f :: fields) :: (records ++ [last])) =
        record (f :: fields) ++ '\n' :: write (records ++ [last]) := by
      rw [hys]
      simp [write, List.intercalate_cons_cons]
    obtain ⟨r', hr', hmode', hall', hrecords'⟩ := foldlM_record rs f fields []
    have hnext : r'.next '\n' = some ⟨.start, [], [], rs ++ [f :: fields]⟩ := by
      rw [Reader.next, hmode']
      simp [Reader.separate, lineFeed_ne_quote, hall', hrecords']
    rw [List.cons_append, hcons, List.foldlM_append, hr']
    simp only [Option.bind_eq_bind, Option.bind_some, List.foldlM_cons, hnext]
    exact hr

/-- **Reading gives back what was written**, of records that have a field each, and at least one. -/
theorem read_write {records : List (List (List Char))} (hne : records ≠ [])
    (hfields : ∀ fields ∈ records, fields ≠ []) : read (write records) = some records := by
  obtain ⟨init, last, rfl⟩ : ∃ init last, records = init ++ [last] :=
    ⟨records.dropLast, records.getLast hne, (List.dropLast_concat_getLast hne).symm⟩
  obtain ⟨r, hr, hmode, hall⟩ := foldlM_write init last hfields []
  have hfinish : r.finish = some (r.records ++ [r.allFields]) := by
    rw [Reader.finish, hmode, if_neg (by decide)]
  rw [read, Reader.begin, hr, Option.bind_some, hfinish, hall, List.nil_append]

end RoundTrip

end KarsHotel.Csv
