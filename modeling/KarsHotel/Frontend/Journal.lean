import KarsHotel.Common.JournalList
import KarsHotel.Common.JournalService

/-!
# The trail of a browser tab

What a person presses in the cabinet waits in the tab and is sent to the server in batches; the
server checks a batch and makes a row of the journal of each of its events.

* `squash`, `labelOf`, `describe`: the texts an event is written with;
* `UiEvent`, `JournalTab`: an event, and the tab with what waits and what was sent;
* `onClick` … `onVisibility`, `TabInput`, `JournalTab.step`: the handlers;
* `UiBatchDto.valid`, `uiRows`: the check of a batch, and its rows;
* `Fits`, `Kept`, `step_kept`: what every input keeps; **`cabinet_journal`**: no event is lost,
  doubled or refused.
-/

namespace KarsHotel

/-! ## Texts -/

namespace CabinetJournal

open JsText

def MAX_BATCH : ℕ := 200

/-- `replace(/\s+/g, ' ')`, after white space or not. -/
def oneSpaceFrom : Bool → JsString → JsString
  | _, [] => []
  | afterSpace, u :: s =>
    if isSpace u then
      if afterSpace then oneSpaceFrom true s else space :: oneSpaceFrom true s
    else u :: oneSpaceFrom false s

def squash (s : Option JsString) (n : ℕ := 120) : JsString :=
  (trim (oneSpaceFrom false (s.getD []))).take n

/-- `a || b || …` of texts, nothing of which is the empty text. -/
def firstText (texts : List (Option JsString)) : JsString :=
  ((texts.filterMap id).find? (· ≠ [])).getD []

/-- What of an element describes it. `className` is `none` where it is not a text. -/
structure Tag where
  tagName : JsString
  id : JsString
  className : Option JsString
  attributes : List (JsString × JsString)

def Tag.getAttribute (t : Tag) (name : String) : Option JsString :=
  (t.attributes.find? fun a => decide (a.1 = literal name)).map (·.2)

/-- An open window. -/
structure Dialog extends Tag where
  heading : Option JsString

inductive InputType where
  | checkbox
  | radio
  | file
  | other
  deriving DecidableEq, Repr

inductive ElementKind where
  | input (type : InputType)
  | select
  | textArea
  | button (disabled : Bool)
  | anchor (href : JsString)
  | other
  deriving DecidableEq, Repr

/-- An element an event came from. -/
structure DomElement extends Tag where
  kind : ElementKind
  name : JsString
  labels : List JsString
  innerText : Option JsString
  textContent : Option JsString
  checked : Bool
  selected : Option JsString
  files : List (JsString × ℕ)
  dialog : Option Dialog

/-- A mark of a check box or a radio button. -/
def DomElement.isMark (el : DomElement) : Bool :=
  decide (el.kind = .input .checkbox ∨ el.kind = .input .radio)

def labelOf (el : DomElement) : JsString :=
  let aria := firstText [el.getAttribute "aria-label", el.getAttribute "data-journal"]
  if aria ≠ [] then squash (some aria)
  else match el.labels.head?.filter fun _ => el.isMark with
    | some lab => squash (some lab)
    | none =>
      firstText [some (squash (el.innerText <|> el.textContent)),
        some (squash (el.getAttribute "title")), some (squash (el.getAttribute "name"))]

def words (s : JsString) : List JsString := (s.splitOnP isSpace).filter (· ≠ [])

/-- `[name=value]`, where the attribute is not empty. -/
def attributeText (t : Tag) (name : String) : JsString :=
  match (t.getAttribute name).filter (· ≠ []) with
  | none => []
  | some v => literal ("[" ++ name ++ "=") ++ v ++ literal "]"

/-- `toLowerCase` and `new URL` of the language: the origin, the path and the query of
an address. -/
structure BrowserConfig where
  toLowerCase : JsString → JsString
  parseUrl : JsString → Option (JsString × JsString × JsString)

/-- The address of the tab. -/
structure Location where
  origin : JsString
  pathname : JsString
  search : JsString

def Location.page (loc : Location) : JsString := (loc.pathname ++ loc.search).take 500

section Handlers

variable (cfg : BrowserConfig)

def describe (t : Tag) : JsString :=
  let id := if t.id = [] then [] else literal "#" ++ t.id
  let cls := ((t.className.map words).getD []).take 2
  (cfg.toLowerCase t.tagName ++ id ++ attributeText t "name" ++ attributeText t "role" ++
    (if cls = [] then [] else literal "." ++ (literal ".").intercalate cls)).take 300

def dialogLabel (d : Dialog) : JsString :=
  firstText [some (squash (d.getAttribute "aria-label")), some (squash d.heading),
    some (describe cfg d.toTag)]

/-! ## Events -/

/-- The random text of a number: `crypto.randomUUID()`, or the time and a random number in
base 36. -/
structure Uid where
  text : JsString
  short : text.length ≤ 36

abbrev MetaFields := List (JsString × Body)

/-- What a handler says of an action. -/
structure UiAction where
  event : JsString
  label : Option JsString := none
  target : Option JsString := none
  actionId : Option Uid := none
  meta_ : Option MetaFields := none

/-- An action with its moment and its screen. -/
structure UiEvent extends UiAction where
  at_ : Moment
  page : JsString

/-- `Object.keys(meta).length ? meta : undefined`. -/
def metaOf (fields : MetaFields) : Option MetaFields := if fields = [] then none else some fields

def dialogField (dialog : Option Dialog) : MetaFields :=
  (dialog.map fun d => (literal "dialog", Body.str (dialogLabel cfg d))).toList

/-- The address of a link: of our site without the site, of another without the query. -/
def hrefField (loc : Location) : ElementKind → MetaFields
  | .anchor href =>
    match (if href = [] then none else cfg.parseUrl href) with
    | none => []
    | some (origin, pathname, search) =>
      [(literal "href", .str (if origin = loc.origin then pathname ++ search else origin ++ pathname))]
  | _ => []

def onClick (loc : Location) (id : Uid) (el : DomElement) : UiAction :=
  let state := (el.getAttribute "aria-checked" <|> el.getAttribute "aria-selected").filter (· ≠ [])
  let meta_ :=
    (if el.isMark then [(literal "checked", Body.bool el.checked)] else []) ++
    (state.map fun s => (literal "state", Body.str s)).toList ++
    hrefField cfg loc el.kind ++ dialogField cfg el.dialog ++
    (if el.kind = .button true then [(literal "disabled", Body.bool true)] else [])
  { event := literal "click", label := some (labelOf el), target := some (describe cfg el.toTag),
    actionId := some id, meta_ := metaOf meta_ }

def fileBody (f : JsString × ℕ) : Body :=
  .obj [(literal "name", .str f.1), (literal "size", .num (.ofNat f.2))]

/-- A text of a field is not written, only which field was changed. -/
def onChange (el : DomElement) : Option UiAction :=
  let dialog := dialogField cfg el.dialog
  let edit (fields : MetaFields) : UiAction :=
    { event := literal "edit"
      label := some (squash (some (firstText [el.labels.head?, el.getAttribute "aria-label",
        el.getAttribute "placeholder", some el.name])))
      target := some (describe cfg el.toTag)
      meta_ := metaOf fields }
  match el.kind with
  | .select => some
      { event := literal "select", label := some (squash el.selected),
        target := some (describe cfg el.toTag), meta_ := some dialog }
  | .input .checkbox => none
  | .input .radio => none
  | .input .file => some (edit (dialog ++ [(literal "files", .arr (el.files.map fileBody))]))
  | .input .other => some (edit dialog)
  | .textArea => some (edit dialog)
  | _ => none

def onSubmit (id : Uid) (f : DomElement) : UiAction :=
  { event := literal "submit"
    label := some (squash (some (firstText [f.getAttribute "aria-label", some f.id, some f.name])))
    target := some (describe cfg f.toTag), actionId := some id
    meta_ := metaOf (dialogField cfg f.dialog) }

def onKey (id : Uid) (key : JsString) (el : Option DomElement) : Option UiAction :=
  if key ≠ literal "Enter" ∧ key ≠ literal "Escape" then none
  else if (el.any fun e => decide (e.kind = .textArea)) ∧ key = literal "Enter" then none
  else some
    { event := literal "key", label := some key, target := el.map fun e => describe cfg e.toTag,
      actionId := some id, meta_ := metaOf (dialogField cfg (el.bind (·.dialog))) }

/-- The windows that appeared, then those that are gone. A window is known by its element, `element`
being what the element says now. -/
def scan (shown now : List ℕ) (element : ℕ → Dialog) : List UiAction :=
  let said (event : String) (d : Dialog) : UiAction :=
    { event := literal event, label := some (dialogLabel cfg d),
      target := some (describe cfg d.toTag) }
  (now.filter (· ∉ shown)).map (fun d => said "dialog-open" (element d)) ++
    (shown.filter (· ∉ now)).map fun d => said "dialog-close" (element d)

def onError (message source : JsString) : UiAction :=
  { event := literal "js-error", label := some (squash (some message) 300),
    meta_ := some [(literal "src", .str source)] }

def onRejection (reason : JsString) : UiAction :=
  { event := literal "js-error", label := some (squash (some reason) 300) }

end Handlers

/-! ## The tab -/

/-- A POST: a batch with the tab's number and the clock of the browser. -/
structure UiBatchDto where
  sessionId : JsString
  sentAt : Moment
  events : List UiEvent

/-- `made` are the events so far, which nothing reads; `posted` the batches sent, the last
one last. -/
structure JournalTab where
  sessionId : Option Uid
  postUrl : Option JsString
  queue : List UiEvent
  lastPage : JsString
  shown : List ℕ
  made : List UiEvent
  posted : List UiBatchDto

def JournalTab.opened : JournalTab := ⟨none, none, [], [], [], [], []⟩

/-- What an input finds: the clock, the address, a fresh number for the action, and the number that
the storage of the tab has for the session. -/
structure TabMoment where
  now : Moment
  location : Location
  uid : Uid
  session : Uid

/-- An input of the tab. `user` is the effect of a change of the person signed in. -/
inductive TabInput where
  | user (postUrl : Option JsString) (width height : ℕ)
  | click (el : DomElement)
  | change (el : DomElement)
  | submit (form : DomElement)
  | key (key : JsString) (el : Option DomElement)
  | navigate
  | mutation (dialogs : List ℕ) (element : ℕ → Dialog)
  | error (message source : JsString)
  | rejection (reason : JsString)
  | visibility (hidden : Bool)
  /-- The timer, the end of the page, and the button of the way out. -/
  | flush

namespace JournalTab

variable (cfg : BrowserConfig) (m : TabMoment)

def flushJournal (tab : JournalTab) : JournalTab :=
  if tab.postUrl.isNone ∨ tab.queue = [] then tab
  else
    let sessionId := tab.sessionId.getD m.session
    flushJournal
      { tab with
        sessionId := some sessionId
        queue := tab.queue.drop MAX_BATCH
        posted := tab.posted ++ [⟨sessionId.text, m.now, tab.queue.take MAX_BATCH⟩] }
termination_by tab.queue.length
decreasing_by
  rename_i h
  rw [not_or] at h
  have := List.length_pos_of_ne_nil h.2
  simp only [List.length_drop, MAX_BATCH]
  omega

def push (tab : JournalTab) (a : UiAction) : JournalTab :=
  let e : UiEvent := { a with at_ := m.now, page := m.location.page }
  let tab' := { tab with queue := tab.queue ++ [e], made := tab.made ++ [e] }
  if MAX_BATCH ≤ tab'.queue.length then tab'.flushJournal m else tab'

def pushAll (tab : JournalTab) (actions : List UiAction) : JournalTab := actions.foldl (push m) tab

/-- What `startJournal` returns: what waits is sent, and the handlers are taken off. -/
def stop (tab : JournalTab) : JournalTab := { tab.flushJournal m with postUrl := none }

def startJournal (tab : JournalTab) (url : JsString) (width height : ℕ) : JournalTab :=
  { tab with postUrl := some url, lastPage := m.location.page, shown := [] }.push m
    { event := literal "open",
      meta_ := some [(literal "width", .num (.ofNat width)), (literal "height", .num (.ofNat height))] }

/-- The handlers of a tab with somebody signed in. -/
def handle (tab : JournalTab) : TabInput → JournalTab
  | .click el => tab.push m (onClick cfg m.location m.uid el)
  | .change el => tab.pushAll m (onChange cfg el).toList
  | .submit form => tab.push m (onSubmit cfg m.uid form)
  | .key key el => tab.pushAll m (onKey cfg m.uid key el).toList
  | .navigate =>
    if m.location.page = tab.lastPage then tab
    else { tab.push m { event := literal "nav", meta_ := some [(literal "from", .str tab.lastPage)] } with
      lastPage := m.location.page }
  | .mutation dialogs element =>
    { tab.pushAll m (scan cfg tab.shown dialogs element) with shown := dialogs }
  | .error message source => tab.push m (onError message source)
  | .rejection reason => tab.push m (onRejection reason)
  | .visibility hidden =>
    let tab' := tab.push m { event := literal (if hidden then "tab-hidden" else "tab-visible") }
    if hidden then tab'.flushJournal m else tab'
  | _ => tab.flushJournal m

def step (tab : JournalTab) (x : TabMoment × TabInput) : JournalTab :=
  match x.2 with
  | .user url width height =>
    let stopped := if tab.postUrl.isSome then tab.stop x.1 else tab
    match url with
    | none => stopped
    | some url => stopped.startJournal x.1 url width height
  | input => if tab.postUrl.isSome then tab.handle cfg x.1 input else tab

end JournalTab

/-! ## The server -/

/-- The pairs of surrogates of a text: each is one character. -/
def surrogatePairs : JsString → ℕ
  | u :: v :: s =>
    if 0xD800 ≤ u.toNat ∧ u.toNat ≤ 0xDBFF ∧ 0xDC00 ≤ v.toNat ∧ v.toNat ≤ 0xDFFF then
      surrogatePairs s + 1
    else surrogatePairs (v :: s)
  | _ => 0

/-- `@MaxLength(max)`. -/
def maxLength (max : ℕ) (s : JsString) : Bool := decide (s.length - surrogatePairs s ≤ max)

/-- The checks of `UiEventDto`. -/
def UiEvent.valid (e : UiEvent) : Bool :=
  maxLength 32 e.event && e.label.all (maxLength 300) && maxLength 500 e.page &&
    e.target.all (maxLength 300) && e.actionId.all fun id => maxLength 64 id.text

/-- The checks of `UiBatchDto`. -/
def UiBatchDto.valid (dto : UiBatchDto) : Bool :=
  maxLength 64 dto.sessionId && decide (dto.events.length ≤ 200) && dto.events.all UiEvent.valid

def MAX_SKEW_MS : ℤ := 24 * 3600000

/-- Who a request came from. -/
structure JournalCaller where
  tenantId : Option TenantId
  userId : Option UserId
  email : Option JsString
  impersonatedBy : Option UserId
  ip : Option JsString
  userAgent : Option JsString

section Server

variable (caller : JournalCaller) (now : Moment) (dto : UiBatchDto)

/-- By how much the clock of the browser is behind, unless it makes no sense. -/
def UiBatchDto.offset : ℤ := if |now - dto.sentAt| < MAX_SKEW_MS then now - dto.sentAt else 0

def uiRow (e : UiEvent) : JournalRow :=
  let t := e.at_ + dto.offset now
  { at_ := if |now - t| < MAX_SKEW_MS then t else now
    kind := .ui
    tenantId := caller.tenantId
    userId := caller.userId
    email := caller.email
    impersonatedBy := caller.impersonatedBy
    sessionId := some dto.sessionId
    actionId := e.actionId.map (·.text)
    path := none
    page := some e.page
    status := none
    error := none
    event := some e.event
    label := e.label
    target := e.target
    meta_ := e.meta_.map fun fields => JournalRedact.redactForJournal (.obj fields) []
    ip := caller.ip
    userAgent := caller.userAgent.map (·.take 200) }

/-- The rows that are pushed to the journal. -/
def uiRows : List JournalRow := dto.events.map (uiRow caller now dto)

end Server

/-! ## Lengths -/

section Lengths

variable {cfg : BrowserConfig}

theorem maxLength_of_le {max : ℕ} {s : JsString} (h : s.length ≤ max) : maxLength max s = true := by
  unfold maxLength
  rw [decide_eq_true_eq]
  omega

theorem squash_length (s : Option JsString) (n : ℕ) : (squash s n).length ≤ n := List.length_take_le _ _

theorem firstText_length {texts : List (Option JsString)} {n : ℕ}
    (h : ∀ t ∈ texts, ∀ s ∈ t, s.length ≤ n) : (firstText texts).length ≤ n := by
  unfold firstText
  cases hfind : (texts.filterMap id).find? (· ≠ []) with
  | none => simp
  | some s =>
    obtain ⟨t, ht, hs⟩ := List.mem_filterMap.mp (List.mem_of_find?_eq_some hfind)
    exact h t ht s hs

theorem labelOf_length (el : DomElement) : (labelOf el).length ≤ 120 := by
  unfold labelOf
  dsimp only
  split_ifs with haria
  · exact squash_length _ _
  · split
    · exact squash_length _ _
    · refine firstText_length fun t ht s hs => ?_
      simp only [List.mem_cons, List.not_mem_nil, or_false] at ht
      rcases ht with rfl | rfl | rfl <;> cases hs <;> exact squash_length _ _

theorem describe_length (t : Tag) : (describe cfg t).length ≤ 300 := List.length_take_le _ _

theorem dialogLabel_length (d : Dialog) : (dialogLabel cfg d).length ≤ 300 := by
  refine firstText_length fun t ht s hs => ?_
  simp only [List.mem_cons, List.not_mem_nil, or_false] at ht
  rcases ht with rfl | rfl | rfl <;> cases hs
  · exact (squash_length _ _).trans (by decide)
  · exact (squash_length _ _).trans (by decide)
  · exact describe_length _

/-- The texts of an action are within the limits of the server. -/
structure UiAction.Fits (a : UiAction) : Prop where
  event : a.event.length ≤ 32
  label : ∀ s ∈ a.label, s.length ≤ 300
  target : ∀ s ∈ a.target, s.length ≤ 300

theorem onClick_fits (loc : Location) (id : Uid) (el : DomElement) : (onClick cfg loc id el).Fits where
  event := show (literal "click").length ≤ 32 by decide
  label s hs := by cases hs; exact (labelOf_length el).trans (by decide)
  target s hs := by cases hs; exact describe_length _

theorem onChange_fits {el : DomElement} {a : UiAction} (h : onChange cfg el = some a) : a.Fits := by
  have hedit : ∀ (texts : List (Option JsString)) (fields : Option MetaFields),
      UiAction.Fits
        { event := literal "edit"
          label := some (squash (some (firstText texts)))
          target := some (describe cfg el.toTag)
          meta_ := fields } := by
    intro texts fields
    refine ⟨show (literal "edit").length ≤ 32 by decide, fun s hs => ?_, fun s hs => ?_⟩ <;> cases hs
    · exact (squash_length _ _).trans (by decide)
    · exact describe_length _
  unfold onChange at h
  split at h <;> cases h
  · refine ⟨show (literal "select").length ≤ 32 by decide, fun s hs => ?_, fun s hs => ?_⟩ <;> cases hs
    · exact (squash_length _ _).trans (by decide)
    · exact describe_length _
  all_goals exact hedit _ _

theorem onSubmit_fits (id : Uid) (f : DomElement) : (onSubmit cfg id f).Fits where
  event := show (literal "submit").length ≤ 32 by decide
  label s hs := by cases hs; exact (squash_length _ _).trans (by decide)
  target s hs := by cases hs; exact describe_length _

theorem onKey_fits {id : Uid} {key : JsString} {el : Option DomElement} {a : UiAction}
    (h : onKey cfg id key el = some a) : a.Fits := by
  unfold onKey at h
  split_ifs at h with hkey htext
  cases h
  refine ⟨show (literal "key").length ≤ 32 by decide, fun s hs => ?_, fun s hs => ?_⟩
  · cases hs
    rw [not_and_or, not_not, not_not] at hkey
    rcases hkey with rfl | rfl <;> decide
  · obtain ⟨e, -, rfl⟩ := Option.map_eq_some_iff.mp hs
    exact describe_length _

theorem scan_fits {shown now : List ℕ} {element : ℕ → Dialog} {a : UiAction}
    (h : a ∈ scan cfg shown now element) : a.Fits := by
  simp only [scan, List.mem_append, List.mem_map] at h
  rcases h with ⟨d, -, rfl⟩ | ⟨d, -, rfl⟩
  · refine ⟨show (literal "dialog-open").length ≤ 32 by decide, fun s hs => ?_, fun s hs => ?_⟩ <;> cases hs
    · exact dialogLabel_length _
    · exact describe_length _
  · refine ⟨show (literal "dialog-close").length ≤ 32 by decide, fun s hs => ?_, fun s hs => ?_⟩ <;> cases hs
    · exact dialogLabel_length _
    · exact describe_length _

theorem onError_fits (message source : JsString) : (onError message source).Fits where
  event := show (literal "js-error").length ≤ 32 by decide
  label s hs := by cases hs; exact squash_length _ _
  target s hs := by cases hs

theorem onRejection_fits (reason : JsString) : (onRejection reason).Fits where
  event := show (literal "js-error").length ≤ 32 by decide
  label s hs := by cases hs; exact squash_length _ _
  target s hs := by cases hs

theorem page_length (loc : Location) : loc.page.length ≤ 500 := List.length_take_le _ _

theorem UiAction.Fits.valid {a : UiAction} (h : a.Fits) (m : TabMoment) :
    UiEvent.valid { a with at_ := m.now, page := m.location.page } = true := by
  simp only [UiEvent.valid, Bool.and_eq_true, Option.all_eq_true]
  refine ⟨⟨⟨⟨maxLength_of_le h.event, fun s hs => maxLength_of_le (h.label s hs)⟩,
    maxLength_of_le (page_length _)⟩, fun s hs => maxLength_of_le (h.target s hs)⟩,
    fun id _ => maxLength_of_le (id.short.trans (by decide))⟩

end Lengths

/-! ## What every input keeps -/

namespace JournalTab

/-- The events sent and the events that wait are, in order, the events made; fewer than a batch
wait, and none after the handlers are taken off; the server takes every batch. -/
structure Kept (tab : JournalTab) : Prop where
  order : tab.posted.flatMap (·.events) ++ tab.queue = tab.made
  short : tab.queue.length < MAX_BATCH
  stopped : tab.postUrl = none → tab.queue = []
  waiting : ∀ e ∈ tab.queue, e.valid = true
  sent : ∀ b ∈ tab.posted, b.events ≠ [] ∧ b.valid = true

variable {cfg : BrowserConfig} {m : TabMoment} {tab : JournalTab}

theorem flushJournal_postUrl : (tab.flushJournal m).postUrl = tab.postUrl := by
  induction tab using flushJournal.induct (m := m) with
  | case1 tab h => rw [flushJournal, if_pos h]
  | case2 tab h sessionId ih =>
    rw [flushJournal, if_neg h]
    exact ih

theorem flushJournal_made : (tab.flushJournal m).made = tab.made := by
  induction tab using flushJournal.induct (m := m) with
  | case1 tab h => rw [flushJournal, if_pos h]
  | case2 tab h sessionId ih =>
    rw [flushJournal, if_neg h]
    exact ih

theorem flushJournal_queue (h : tab.postUrl.isSome = true) : (tab.flushJournal m).queue = [] := by
  induction tab using flushJournal.induct (m := m) with
  | case1 tab hempty =>
    rw [flushJournal, if_pos hempty]
    rcases hempty with hnone | hnil
    · rw [Option.isNone_iff_eq_none.mp hnone] at h
      cases h
    · exact hnil
  | case2 tab hfull sessionId ih =>
    rw [flushJournal, if_neg hfull]
    exact ih h

theorem flushJournal_posted (horder : tab.posted.flatMap (·.events) ++ tab.queue = tab.made)
    (hwaiting : ∀ e ∈ tab.queue, e.valid = true)
    (hsent : ∀ b ∈ tab.posted, b.events ≠ [] ∧ b.valid = true) :
    (tab.flushJournal m).posted.flatMap (·.events) ++ (tab.flushJournal m).queue = tab.made ∧
      ∀ b ∈ (tab.flushJournal m).posted, b.events ≠ [] ∧ b.valid = true := by
  induction tab using flushJournal.induct (m := m) with
  | case1 tab h =>
    rw [flushJournal, if_pos h]
    exact ⟨horder, hsent⟩
  | case2 tab h sessionId ih =>
    rw [flushJournal, if_neg h]
    refine ih ?_ (fun e he => hwaiting e (List.mem_of_mem_drop he)) fun b hb => ?_
    · simpa [List.append_assoc] using horder
    · rcases List.mem_append.mp hb with hb | hb
      · exact hsent b hb
      · rw [List.mem_singleton.mp hb]
        have hne : tab.queue.take MAX_BATCH ≠ [] := by
          simpa [MAX_BATCH] using (not_or.mp h).2
        refine ⟨hne, ?_⟩
        simp only [UiBatchDto.valid, Bool.and_eq_true, decide_eq_true_eq, List.all_eq_true]
        exact ⟨⟨maxLength_of_le (sessionId.short.trans (by decide)), List.length_take_le _ _⟩,
          fun e he => hwaiting e (List.mem_of_mem_take he)⟩

theorem Kept.flush (h : tab.Kept) : (tab.flushJournal m).Kept := by
  cases hurl : tab.postUrl with
  | none =>
    rw [flushJournal, if_pos (Or.inl (by simp [hurl]))]
    exact h
  | some url =>
    have hqueue : (tab.flushJournal m).queue = [] := flushJournal_queue (by simp [hurl])
    obtain ⟨horder, hsent⟩ := flushJournal_posted (m := m) h.order h.waiting h.sent
    exact ⟨by rw [horder, flushJournal_made], by simp [hqueue, MAX_BATCH], fun _ => hqueue,
      by simp [hqueue], hsent⟩

theorem Kept.push (h : tab.Kept) {a : UiAction} (ha : a.Fits) (hurl : tab.postUrl.isSome = true) :
    (tab.push m a).Kept ∧ (tab.push m a).postUrl.isSome = true := by
  have hnone : tab.postUrl ≠ none := Option.isSome_iff_ne_none.mp hurl
  unfold JournalTab.push
  dsimp only
  -- the queue with the new event
  have horder : tab.posted.flatMap (·.events) ++ (tab.queue ++
      [({ a with at_ := m.now, page := m.location.page } : UiEvent)]) =
      tab.made ++ [{ a with at_ := m.now, page := m.location.page }] := by
    rw [← List.append_assoc, h.order]
  have hwaiting : ∀ e ∈ tab.queue ++ [({ a with at_ := m.now, page := m.location.page } : UiEvent)],
      e.valid = true := by
    intro e he
    rcases List.mem_append.mp he with he | he
    · exact h.waiting e he
    · rw [List.mem_singleton.mp he]
      exact ha.valid m
  split_ifs with hfull
  · have hqueue := @flushJournal_queue m { tab with
      queue := tab.queue ++ [{ a with at_ := m.now, page := m.location.page }]
      made := tab.made ++ [{ a with at_ := m.now, page := m.location.page }] } hurl
    obtain ⟨hord, hsent⟩ := @flushJournal_posted m { tab with
      queue := tab.queue ++ [{ a with at_ := m.now, page := m.location.page }]
      made := tab.made ++ [{ a with at_ := m.now, page := m.location.page }] } horder hwaiting h.sent
    refine ⟨⟨by rw [hord, flushJournal_made], by simp [hqueue, MAX_BATCH], fun _ => hqueue,
      by simp [hqueue], hsent⟩, ?_⟩
    rw [flushJournal_postUrl]
    exact hurl
  · exact ⟨⟨horder, not_le.mp hfull, fun hn => absurd hn hnone, hwaiting, h.sent⟩, hurl⟩

theorem Kept.pushAll (h : tab.Kept) {actions : List UiAction} (ha : ∀ a ∈ actions, a.Fits)
    (hurl : tab.postUrl.isSome = true) :
    (tab.pushAll m actions).Kept ∧ (tab.pushAll m actions).postUrl.isSome = true := by
  induction actions generalizing tab with
  | nil => exact ⟨h, hurl⟩
  | cons a actions ih =>
    obtain ⟨hpush, hurl'⟩ := h.push (m := m) (ha a List.mem_cons_self) hurl
    exact ih hpush (fun a' ha' => ha a' (List.mem_cons_of_mem _ ha')) hurl'

/-- The screen and the windows a tab remembers are nothing to its events. -/
theorem Kept.remember (h : tab.Kept) (lastPage : JsString) (shown : List ℕ) :
    Kept { tab with lastPage := lastPage, shown := shown } :=
  ⟨h.order, h.short, h.stopped, h.waiting, h.sent⟩

theorem Kept.handle (h : tab.Kept) (hurl : tab.postUrl.isSome = true) (input : TabInput) :
    (tab.handle cfg m input).Kept := by
  cases input with
  | click el => exact (h.push (onClick_fits _ _ _) hurl).1
  | change el =>
    exact (h.pushAll (fun a ha => onChange_fits (Option.mem_toList.mp ha)) hurl).1
  | submit form => exact (h.push (onSubmit_fits _ _) hurl).1
  | key key el => exact (h.pushAll (fun a ha => onKey_fits (Option.mem_toList.mp ha)) hurl).1
  | navigate =>
    simp only [JournalTab.handle]
    split_ifs with hsame
    · exact h
    · exact (h.push ⟨show (literal "nav").length ≤ 32 by decide, by simp, by simp⟩ hurl).1.remember _ _
  | mutation dialogs element =>
    exact (h.pushAll (fun a ha => scan_fits ha) hurl).1.remember _ _
  | error message source => exact (h.push (onError_fits _ _) hurl).1
  | rejection reason => exact (h.push (onRejection_fits _) hurl).1
  | visibility hidden =>
    have hpush := (h.push (m := m)
      (a := { event := literal (if hidden then "tab-hidden" else "tab-visible") })
      ⟨by cases hidden <;> decide, by simp, by simp⟩ hurl).1
    simp only [JournalTab.handle]
    split_ifs with hhidden
    · rw [if_pos hhidden] at hpush
      exact hpush.flush
    · rw [if_neg hhidden] at hpush
      exact hpush
  | user url width height => exact h.flush
  | flush => exact h.flush

theorem Kept.stop (h : tab.Kept) (hurl : tab.postUrl.isSome = true) : (tab.stop m).Kept := by
  have hf := h.flush (m := m)
  exact ⟨hf.order, hf.short, fun _ => flushJournal_queue hurl, hf.waiting, hf.sent⟩

theorem step_kept (x : TabMoment × TabInput) (h : tab.Kept) : (tab.step cfg x).Kept := by
  have hinput : ∀ input, (if tab.postUrl.isSome then tab.handle cfg x.1 input else tab).Kept := by
    intro input
    split_ifs with hurl
    · exact h.handle hurl input
    · exact h
  obtain ⟨m, input⟩ := x
  cases input with
  | user url width height =>
    have hstopped : (if tab.postUrl.isSome then tab.stop m else tab).Kept := by
      split_ifs with hurl
      · exact h.stop hurl
      · exact h
    cases url with
    | none => exact hstopped
    | some url =>
      have hstart := hstopped
      simp only [step, startJournal]
      refine (Kept.push ?_ ⟨show (literal "open").length ≤ 32 by decide, by simp, by simp⟩ rfl).1
      exact ⟨hstart.order, hstart.short, fun hn => (Option.some_ne_none _ hn).elim, hstart.waiting,
        hstart.sent⟩
  | _ => exact hinput _

end JournalTab

/-! ## The rows -/

section Rows

variable {caller : JournalCaller} {now : Moment} {dto : UiBatchDto}

/-- A row is not far from the clock of the server. -/
theorem uiRow_near (e : UiEvent) : |now - (uiRow caller now dto e).at_| < MAX_SKEW_MS := by
  simp only [uiRow]
  split_ifs with h
  · exact h
  · simp [MAX_SKEW_MS]

theorem uiRow_at {e : UiEvent} (h : |now - (e.at_ + dto.offset now)| < MAX_SKEW_MS) :
    (uiRow caller now dto e).at_ = e.at_ + dto.offset now := if_pos h

end Rows

/-- **The trail of the cabinet arrives whole.** After any inputs of a tab, the events it has sent
and those that wait are, in order, the events it made; fewer than two hundred wait, and none once
the person is signed out; every batch is not empty and passes the checks of the server, which makes
one row of each event, in order, with its texts as they were, at a moment not a day from its own
clock; and where the clocks make sense the rows lie as far apart as the events. -/
theorem cabinet_journal (cfg : BrowserConfig) (inputs : List (TabMoment × TabInput)) :
    let tab := inputs.foldl (JournalTab.step cfg) .opened
    tab.posted.flatMap (·.events) ++ tab.queue = tab.made ∧ tab.queue.length < MAX_BATCH ∧
      (tab.postUrl = none → tab.queue = []) ∧
      ∀ dto ∈ tab.posted, dto.events ≠ [] ∧ dto.valid = true ∧ ∀ caller now,
        (uiRows caller now dto).map (fun r => (r.event, r.label, r.page, r.target, r.actionId)) =
            dto.events.map (fun e => (some e.event, e.label, some e.page, e.target,
              e.actionId.map (·.text))) ∧
          (∀ r ∈ uiRows caller now dto, |now - r.at_| < MAX_SKEW_MS) ∧
          ∀ e ∈ dto.events, ∀ e' ∈ dto.events,
            |now - (e.at_ + dto.offset now)| < MAX_SKEW_MS →
            |now - (e'.at_ + dto.offset now)| < MAX_SKEW_MS →
              (uiRow caller now dto e').at_ - (uiRow caller now dto e).at_ = e'.at_ - e.at_ := by
  intro tab
  have hkept : tab.Kept := foldl_keeps_all (fun _ x => JournalTab.step_kept x) inputs
    ⟨rfl, by decide, fun _ => rfl, by simp [JournalTab.opened], by simp [JournalTab.opened]⟩
  refine ⟨hkept.order, hkept.short, hkept.stopped, fun dto hdto => ?_⟩
  obtain ⟨hne, hvalid⟩ := hkept.sent dto hdto
  refine ⟨hne, hvalid, fun caller now => ⟨?_, fun r hr => ?_, fun e _ e' _ he he' => ?_⟩⟩
  · simp [uiRows, uiRow, Function.comp_def]
  · obtain ⟨e, -, rfl⟩ := List.mem_map.mp hr
    exact uiRow_near e
  · rw [uiRow_at he, uiRow_at he']
    exact add_sub_add_right_eq_sub _ _ _

end CabinetJournal

end KarsHotel
