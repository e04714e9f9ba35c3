import KarsHotel.Auth.Store
import KarsHotel.Common.JournalRedact
import KarsHotel.Lib.Paging
import KarsHotel.Lib.StableSort

/-!
# Reading the action journal

The platform reads the journal page by page, the latest rows first.

* `JournalRow`, `ActionJournal`: a row as it is written, and as it is stored;
* `JournalQuery`, `selects`, `listJournal`: the filters of a request, and its answer;
* `readPages`: the requests of the panel, each with the `nextBefore` of the answer before;
* **`journal_pages`**: what the panel shows, and which rows it never shows.
-/

namespace KarsHotel

/-! ## Rows -/

inductive JournalKind where
  | request
  | ui
  deriving DecidableEq, Repr

structure JournalRow where
  at_ : Moment
  kind : JournalKind
  tenantId : Option TenantId
  userId : Option UserId
  email : Option JsString
  impersonatedBy : Option UserId
  sessionId : Option JsString
  actionId : Option JsString
  path : Option JsString
  page : Option JsString
  status : Option ℕ
  error : Option JsString
  event : Option JsString
  label : Option JsString
  target : Option JsString
  meta_ : Option Body
  ip : Option JsString
  userAgent : Option JsString

/-- A row of `action_journal`. -/
structure ActionJournal extends JournalRow where
  id : ℕ

def ActionJournal.moment (r : ActionJournal) : Moment := r.at_

/-- What a request of the journal finds. -/
structure JournalState where
  journal : Table ActionJournal.id
  directory : Directory

/-! ## Requests -/

/-- The filters of a request, without its cursor. An empty text is no filter. -/
structure JournalQuery where
  tenantId : Option TenantId := none
  userId : Option UserId := none
  kind : Option JournalKind := none
  sessionId : Option JsString := none
  actionId : Option JsString := none
  q : Option JsString := none
  failed : Bool := false
  from_ : Option Moment := none
  to_ : Option Moment := none
  take : Option ℕ := none

/-- A row as it is shown. -/
structure JournalItem where
  row : ActionJournal
  userName : Option String
  tenantName : Option String

structure JournalAnswer where
  items : List JournalItem
  nextBefore : Option Moment

/-- `contains` of the database, in any case. -/
structure JournalConfig where
  containsInsensitive : JsString → JsString → Bool

section List

variable (cfg : JournalConfig) (f : JournalQuery)

/-- `Math.min(Math.max(Number(f.take) || 100, 1), 500)`. -/
def JournalQuery.limit : ℕ := min (max ((f.take.filter (· ≠ 0)).getD 100) 1) 500

/-- One of the columns that are searched contains the text. -/
def ActionJournal.mentions (q : JsString) (r : ActionJournal) : Bool :=
  [r.label, r.path, r.page, r.email, r.error].any fun column =>
    column.any fun text => cfg.containsInsensitive text q

/-- The answer was a refusal, or the event an error on the screen. -/
def ActionJournal.failed (r : ActionJournal) : Bool :=
  r.status.any (fun s => decide (400 ≤ s)) || decide (r.event = some (literal "js-error"))

/-- The row passes the filters. -/
def JournalQuery.selects (r : ActionJournal) : Bool :=
  f.tenantId.all (fun id => decide (r.tenantId = some id)) &&
  f.userId.all (fun id => decide (r.userId = some id)) &&
  f.kind.all (fun k => decide (r.kind = k)) &&
  (f.sessionId.filter (· ≠ [])).all (fun s => decide (r.sessionId = some s)) &&
  (f.actionId.filter (· ≠ [])).all (fun s => decide (r.actionId = some s)) &&
  f.from_.all (fun m => decide (m ≤ r.at_)) &&
  f.to_.all (fun m => decide (r.at_ ≤ m)) &&
  (!f.failed || r.failed) &&
  (f.q.filter (· ≠ [])).all fun q => r.mentions cfg (JsText.trim q)

/-- `orderBy: [{ at: 'desc' }, { id: 'desc' }]`. -/
def ActionJournal.Before (a b : ActionJournal) : Prop := b.at_ < a.at_ ∨ b.at_ = a.at_ ∧ b.id ≤ a.id

instance : DecidableRel ActionJournal.Before := fun a b => by unfold ActionJournal.Before; infer_instance

/-- The rows of `findMany`. -/
def foundRows (s : JournalState) (before : Option Moment) : List ActionJournal :=
  ((s.journal.select fun r => f.selects cfg r && before.all fun b => decide (r.at_ < b)).insertionSort
    ActionJournal.Before).take f.limit

/-- A row with the names it is shown with. -/
def JournalState.item (s : JournalState) (r : ActionJournal) : JournalItem where
  row := r
  userName := r.userId.bind fun id => (s.directory.users.find id).map (·.fullName)
  tenantName := r.tenantId.bind fun id => (s.directory.tenants.find id).map (·.name)

def listJournal (s : JournalState) (before : Option Moment) : JournalAnswer :=
  let rows := foundRows cfg f s before
  { items := rows.map s.item
    nextBefore := if rows.length = f.limit then rows.getLast?.map (·.at_) else none }

/-- The answers the panel gets: `states` is what its requests find. -/
def readPages : List JournalState → Option Moment → List JournalAnswer
  | [], _ => []
  | s :: states, before =>
    let answer := listJournal cfg f s before
    answer :: match answer.nextBefore with
      | none => []
      | some b => readPages states (some b)

end List

def shownRows (answers : List JournalAnswer) : List ActionJournal :=
  answers.flatMap fun answer => answer.items.map (·.row)

/-- The last answer has no `nextBefore`. -/
def AllRead (answers : List JournalAnswer) : Prop := ∃ answer ∈ answers.getLast?, answer.nextBefore = none

/-! ## The order -/

instance : Std.Total ActionJournal.Before where
  total a b := by
    unfold ActionJournal.Before
    rcases lt_trichotomy a.at_ b.at_ with h | h | h
    · exact Or.inr (Or.inl h)
    · rcases le_total a.id b.id with hid | hid
      · exact Or.inr (Or.inr ⟨h, hid⟩)
      · exact Or.inl (Or.inr ⟨h.symm, hid⟩)
    · exact Or.inl (Or.inl h)

instance : IsTrans ActionJournal ActionJournal.Before where
  trans a b c hab hbc := by
    unfold ActionJournal.Before at *
    rcases hab with hab | ⟨hab, hid⟩ <;> rcases hbc with hbc | ⟨hbc, hid'⟩
    · exact Or.inl (hbc.trans hab)
    · exact Or.inl (hbc ▸ hab)
    · exact Or.inl (hab ▸ hbc)
    · exact Or.inr ⟨hbc.trans hab, hid'.trans hid⟩

theorem ActionJournal.Before.le {a b : ActionJournal} (h : a.Before b) : b.at_ ≤ a.at_ := by
  rcases h with h | ⟨h, -⟩
  · exact h.le
  · exact h.le

/-! ## Pages -/

section Pages

variable {cfg : JournalConfig} {f : JournalQuery}

/-- All rows that pass the filters, in order. -/
def selectedRows (cfg : JournalConfig) (f : JournalQuery) (s : JournalState) : List ActionJournal :=
  (s.journal.select (f.selects cfg)).insertionSort ActionJournal.Before

theorem limit_pos (f : JournalQuery) : 0 < f.limit := by
  unfold JournalQuery.limit
  omega

theorem foundRows_eq (s : JournalState) (before : Option Moment) :
    foundRows cfg f s before = (page ActionJournal.moment f.limit before (selectedRows cfg f s)).items := by
  simp only [foundRows, page, beforeCursor, selectedRows, filter_insertionSort, Table.select,
    List.filter_filter]
  congr 3
  funext r
  exact Bool.and_comm _ _

theorem listJournal_eq (s : JournalState) (before : Option Moment) :
    (listJournal cfg f s before).items.map (·.row) =
        (page ActionJournal.moment f.limit before (selectedRows cfg f s)).items ∧
      (listJournal cfg f s before).nextBefore =
        (page ActionJournal.moment f.limit before (selectedRows cfg f s)).next := by
  constructor
  · rw [← foundRows_eq]
    simp [listJournal, JournalState.item, Function.comp_def]
  · simp only [listJournal, foundRows_eq]
    rfl

def JournalAnswer.page (answer : JournalAnswer) : Page ActionJournal :=
  ⟨answer.items.map (·.row), answer.nextBefore⟩

theorem page_listJournal (s : JournalState) (before : Option Moment) :
    (listJournal cfg f s before).page = page ActionJournal.moment f.limit before (selectedRows cfg f s) := by
  obtain ⟨hitems, hnext⟩ := @listJournal_eq cfg f s before
  unfold JournalAnswer.page
  rw [hitems, hnext]

theorem readPages_eq (states : List JournalState) (before : Option Moment) :
    (readPages cfg f states before).map JournalAnswer.page =
      walk ActionJournal.moment f.limit (states.map (selectedRows cfg f)) before := by
  induction states generalizing before with
  | nil => rfl
  | cons s states ih =>
    have hpage := @page_listJournal cfg f s before
    have hnext : (listJournal cfg f s before).nextBefore =
        (page ActionJournal.moment f.limit before (selectedRows cfg f s)).next := congrArg Page.next hpage
    simp only [readPages, walk, List.map_cons, hpage, ← hnext]
    cases (listJournal cfg f s before).nextBefore with
    | none => rfl
    | some b => simp only [ih]

theorem shownRows_eq (answers : List JournalAnswer) :
    shownRows answers = (answers.map JournalAnswer.page).flatMap (·.items) := by
  rw [List.flatMap_map]
  rfl

theorem allRead_iff (answers : List JournalAnswer) :
    AllRead answers ↔ Ended (answers.map JournalAnswer.page) := by
  unfold AllRead Ended
  rw [List.getLast?_map]
  cases answers.getLast? <;> simp [JournalAnswer.page]

theorem mem_selectedRows {s : JournalState} {r : ActionJournal} :
    r ∈ selectedRows cfg f s ↔ r ∈ s.journal ∧ f.selects cfg r = true := by
  rw [selectedRows, List.mem_insertionSort, Table.mem_select]

theorem selectedRows_sorted (s : JournalState) :
    Descending ActionJournal.moment (selectedRows cfg f s) ∧ (selectedRows cfg f s).Nodup := by
  constructor
  · exact (List.pairwise_insertionSort _ _).imp fun h => h.le
  · refine (List.perm_insertionSort _ _).nodup_iff.mpr ?_
    exact List.Nodup.sublist List.filter_sublist (List.Nodup.of_map _ s.journal.nodup)

/-- **The journal is read without doubles, and what it hides is known.** Whatever is written between
the requests of the panel, the rows it shows come in descending order of their moments, each once,
and pass the filters. When the last answer has no `nextBefore`, a row that passes the filters and
was there at every request has been shown unless it lies behind a full page whose last row has its
very moment. Where nothing is written meanwhile, the last answer comes after a request for each full
page and one more. -/
theorem journal_pages (cfg : JournalConfig) (f : JournalQuery) (states : List JournalState) :
    let answers := readPages cfg f states none
    (shownRows answers).Pairwise (fun a b => b.at_ ≤ a.at_) ∧ (shownRows answers).Nodup ∧
      (∀ r ∈ shownRows answers, f.selects cfg r = true ∧ ∃ s ∈ states, r ∈ s.journal) ∧
      (AllRead answers → ∀ r, f.selects cfg r = true → (∀ s ∈ states, r ∈ s.journal) →
        (r ∈ shownRows answers ↔
          ∀ answer ∈ answers, r ∉ answer.page.items → answer.nextBefore ≠ some r.at_)) ∧
      ∀ s m, (selectedRows cfg f s).length < m * f.limit →
        AllRead (readPages cfg f (List.replicate m s) none) := by
  intro answers
  have hwalk : answers.map JournalAnswer.page =
      walk ActionJournal.moment f.limit (states.map (selectedRows cfg f)) none := readPages_eq states none
  have hshown : shownRows answers =
      (walk ActionJournal.moment f.limit (states.map (selectedRows cfg f)) none).flatMap (·.items) := by
    rw [shownRows_eq, hwalk]
  have hsorted : ∀ l ∈ states.map (selectedRows cfg f), Descending ActionJournal.moment l ∧ l.Nodup := by
    intro l hl
    obtain ⟨s, -, rfl⟩ := List.mem_map.mp hl
    exact selectedRows_sorted s
  obtain ⟨hdesc, hnodup⟩ :=
    @walk_pairwise _ ActionJournal.moment f.limit none _ hsorted
  refine ⟨hshown ▸ hdesc, hshown ▸ hnodup, fun r hr => ?_, fun hread r hsel hr => ?_, fun s m hm => ?_⟩
  · rw [hshown] at hr
    obtain ⟨p, hp, hrp⟩ := List.mem_flatMap.mp hr
    obtain ⟨l, hl, hrl⟩ := mem_of_mem_walk hp hrp
    obtain ⟨s, hs, rfl⟩ := List.mem_map.mp hl
    obtain ⟨hmem, hpass⟩ := mem_selectedRows.mp hrl
    exact ⟨hpass, s, hs, hmem⟩
  · have hlists : ∀ l ∈ states.map (selectedRows cfg f), r ∈ l := by
      intro l hl
      obtain ⟨s, hs, rfl⟩ := List.mem_map.mp hl
      exact mem_selectedRows.mpr ⟨hr s hs, hsel⟩
    have hended := (allRead_iff answers).mp hread
    rw [hwalk] at hended
    have hiff := mem_walk_iff (limit_pos f) (fun l hl => (hsorted l hl).1) hlists (by simp) hended
    rw [hshown, List.mem_flatMap, hiff, ← hwalk, List.forall_mem_map]
    rfl
  · rw [allRead_iff, readPages_eq, List.map_replicate]
    exact walk_ends (selectedRows_sorted s).1 (by simpa [beforeCursor] using hm)

end Pages

end KarsHotel
