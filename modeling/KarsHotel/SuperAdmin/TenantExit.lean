import KarsHotel.Auth.Store
import KarsHotel.Lib.CharText
import KarsHotel.Lib.EntryMap
import KarsHotel.Lib.History
import KarsHotel.Lib.IdText
import KarsHotel.Lib.References
import Mathlib.Data.List.Sort

/-!
# The exit of a hotel

A hotel that leaves takes a file of all its rows along, and then its rows are wiped. What its tables
are is read off the schema of the database.

* `Schema`, `tenantTables`, `dependents`: the tables with a column `tenant_id`, and what
  refers to them;
* `exportTables`, `wipe`: the two stages on the rows;
* `exportTenant`, `destroyCheck`, `destroyWipe`, `deleteEmpty`: the calls, with the acts they leave;
* `wipe_wipes`: what is wiped is the hotel, all of it, and nothing of another;
* **`wipe_spec`**: that, and what a wipe right after an export takes beside the rows of its file;
* **`destroyed_act`**: what the act of a hotel that is gone says of the run.
-/

namespace KarsHotel.TenantExit

/-! ## The database -/

/-- What a column holds. -/
inductive Cell where
  | null
  | uuid (id : ℕ)
  | bool (b : Bool)
  | text (s : String)
  | json (s : String)
  | time (t : Moment)
  deriving DecidableEq, Repr

/-- The columns of a row, by their names. -/
abbrev Row := List (String × Cell)

/-- What the column of a row holds, if it holds something. -/
def Row.cell (r : Row) (col : String) : Option Cell := (r.lookup col).filter (· ≠ .null)

def Row.text (r : Row) (col : String) : String :=
  match r.cell col with
  | some (.text s) => s
  | _ => ""

/-- The row belongs to the hotel. -/
def Row.isOf (id : TenantId) (r : Row) : Bool := decide (r.cell "tenant_id" = some (.uuid id))

def Row.isTenant (id : TenantId) (r : Row) : Bool := decide (r.cell "id" = some (.uuid id))

/-- The rows of every table. -/
abbrev Rows := String → List Row

/-- A table or a view, as `information_schema` has it. -/
structure TableInfo where
  schema : String
  name : String
  base : Bool
  columns : List String
  deriving DecidableEq, Repr

/-- A foreign key: the columns with what they refer to. -/
structure ForeignKey where
  child : String
  parent : String
  columns : List (String × String)
  deriving DecidableEq, Repr

/-- The schema. The table of the hotels has no column `tenant_id`, and refers to no other. -/
structure Schema where
  tables : List TableInfo
  foreignKeys : List ForeignKey
  nodup : (tables.map fun t => (t.schema, t.name)).Nodup
  tenantColumns : ∀ t ∈ tables, t.name = "tenant" → "tenant_id" ∉ t.columns
  tenantKeys : ∀ c ∈ foreignKeys, c.child ≠ "tenant"

/-- `/^[a-z_]+$/`. -/
def plainName (n : String) : Bool :=
  !n.toList.isEmpty && n.toList.all fun c => ('a' ≤ c && c ≤ 'z') || c == '_'

/-- A table of hotels: it has the column, and is not that of the acts. -/
def TableInfo.ofTenants (t : TableInfo) : Bool :=
  decide (t.schema = "public") && t.columns.contains "tenant_id" && t.base &&
    decide (t.name ≠ "tenant_exit_act")

namespace Schema

variable (schema : Schema)

def tenantTables : List String :=
  (((schema.tables.filter TableInfo.ofTenants).map (·.name)).insertionSort (· ≤ ·)).filter plainName

/-- The references of one column into `tables` from other tables. -/
def dependents (tables : List String) : List (Reference String String) :=
  (schema.foreignKeys.filterMap fun c =>
    match c.columns with
    | [(a, af)] =>
      if tables.contains c.parent && !tables.contains c.child then some ⟨c.child, a, c.parent, af⟩ else none
    | _ => none).filter fun f => [f.child, f.col, f.parent, f.pcol].all plainName

end Schema

/-! ## The two stages -/

def SECRET_COLUMNS : List String := ["password_hash", "token_hash", "key", "key_hash"]

/-- A row without its secrets. -/
def cutSecrets (r : Row) : Row := r.filter fun e => !SECRET_COLUMNS.contains e.1

/-- The hotel's rows of each of the tables. -/
def exportTables (schema : Schema) (rows : Rows) (id : TenantId) : List (String × List Row) :=
  schema.tenantTables.map fun n => (n, ((rows n).filter (Row.isOf id)).map cutSecrets)

/-- The rows, and how many were deleted. -/
structure Wiped where
  rows : Rows
  counts : EntryMap String ℕ

/-- `DELETE`, with the count under its name. -/
def Wiped.delete (w : Wiped) (count name : String) (p : Row → Bool) : Wiped where
  rows := Function.update w.rows name ((w.rows name).filter fun r => !p r)
  counts := w.counts.set count ((w.rows name).countP p)

/-- `DELETE` of the rows that break a reference. -/
def Wiped.deleteOrphans (w : Wiped) (f : Reference String String) : Wiped :=
  w.delete (f.child ++ " (связанные)") f.child fun r => !decide (f.Points Row.cell w.rows r)

/-- All that is the hotel's. -/
def wipe (schema : Schema) (rows : Rows) (id : TenantId) (tables : List String) : Wiped :=
  let w := tables.foldl (fun (w : Wiped) n => w.delete n n (Row.isOf id)) ⟨rows, .empty⟩
  let w := w.delete "tenant" "tenant" (Row.isTenant id)
  (schema.dependents tables).foldl Wiped.deleteOrphans w

/-! ## Acts and calls -/

def EXPORT_FRESH_DAYS : ℤ := 7

def EMPTY_HOTEL_MARK : String := "empty-hotel:no-export"

structure TenantExitAct where
  id : ℕ
  tenantId : TenantId
  tenantSlug : String
  tenantName : String
  exportedAt : Moment
  exportedBy : UserId
  exportSha256 : String
  destroyedAt : Option Moment
  destroyedBy : Option UserId
  counts : Option (List (String × ℕ))
  deriving DecidableEq, Repr

/-- An act of a hotel that is gone. -/
def TenantExitAct.destroyed (at_ : Moment) (by_ : UserId) (counts : EntryMap String ℕ)
    (act : TenantExitAct) :
    TenantExitAct :=
  { act with destroyedAt := some at_, destroyedBy := some by_, counts := some counts.rows }

structure ExportFile where
  exportedAt : Moment
  tenant : Row
  tables : List (String × List Row)
  deriving DecidableEq, Repr

/-- What the journal row of a call takes from the request and the database client: its new id, the
address and the device. -/
structure AuditSource where
  id : ℕ
  ip : Option String
  userAgent : Option String
  deriving DecidableEq, Repr

/-- The row of `audit_log` that an export writes. -/
def exitExportRow (j : AuditSource) (now : Moment) (id : TenantId) (actor : UserId) (sha : String) : Row :=
  [("id", .uuid j.id), ("tenant_id", .uuid id), ("user_id", .uuid actor), ("entity", .text "tenant"),
    ("entity_id", .text (IdText.ofId id).text), ("action", .text "exit.export"),
    ("diff", .json ("\x7b\"before\":\x7b\x7d,\"after\":\x7b\"sha256\":\"" ++ sha ++ "\"\x7d\x7d")),
    ("ip", j.ip.elim .null .text), ("user_agent", j.userAgent.elim .null .text), ("createdAt", .time now)]

/-- The rows with a row more of the journal. -/
def journaled (rows : Rows) (r : Option Row) : Rows :=
  Function.update rows "audit_log" (rows "audit_log" ++ r.toList)

/-- What the calls rest on: the schema, SHA-256 of a file's text, and the switch
of `deleteEmpty`. -/
structure ExitConfig where
  schema : Schema
  sha256 : ExportFile → String
  deleteEnabled : Bool

/-- A destruction between its checks and its transaction. -/
structure PendingDestroy where
  tenantId : TenantId
  act : TenantExitAct
  actor : UserId
  deriving DecidableEq, Repr

structure ExitState where
  rows : Rows
  acts : Table TenantExitAct.id
  pending : List PendingDestroy

section Calls

variable (cfg : ExitConfig) (now : Moment) (s : ExitState)

def tenantOr404 (id : TenantId) : Except Failure Row :=
  match ((s.rows "tenant").find? (Row.isTenant id)).filter fun t => decide (t.text "slug" ≠ "platform") with
  | none => .error (.notFound "Гостиница не найдена")
  | some t => .ok t

/-- The journal row is written last, and none if that fails. -/
def exportTenant (id : TenantId) (actor : UserId) (journal : Option AuditSource) :
    Except Failure (ExportFile × ExitState) := do
  let tenant ← tenantOr404 s id
  let file := ⟨now, tenant, exportTables cfg.schema s.rows id⟩
  let act : TenantExitAct :=
    { id := s.acts.fresh, tenantId := id
      tenantSlug := tenant.text "slug", tenantName := tenant.text "name"
      exportedAt := now, exportedBy := actor, exportSha256 := cfg.sha256 file
      destroyedAt := none, destroyedBy := none, counts := none }
  .ok (file, { s with
    rows := journaled s.rows (journal.map fun j => exitExportRow j now id actor (cfg.sha256 file))
    acts := s.acts.insert act })

/-- The last export that is fresh and was not used. -/
def freshAct (id : TenantId) : Option TenantExitAct :=
  ((s.acts.select fun act => decide (act.tenantId = id) && act.destroyedAt.isNone &&
    decide (now - EXPORT_FRESH_DAYS * 86400000 ≤ act.exportedAt)).insertionSort
      fun a b => b.exportedAt ≤ a.exportedAt).head?

def destroyCheck (id : TenantId) (confirmSlug : Option String) (actor : UserId) :
    Except Failure ExitState := do
  let tenant ← tenantOr404 s id
  if CharText.trim (confirmSlug.getD "").toList ≠ (tenant.text "slug").toList then
    .error (.badRequest "Для подтверждения введите код гостиницы")
  else if tenant.cell "is_active" = some (.bool true) then .error (.conflict "Сначала выключите гостиницу")
  else match freshAct now s id with
    | none => .error (.conflict "Сначала выгрузите данные гостиницы (выгрузка не старше 7 дней)")
    | some act => .ok { s with pending := s.pending ++ [⟨id, act, actor⟩] }

/-- The transaction of a destruction that passed its checks. -/
def destroyWipe (p : PendingDestroy) : ExitState :=
  let w := wipe cfg.schema s.rows p.tenantId cfg.schema.tenantTables
  { rows := w.rows
    acts := s.acts.modify p.act.id (TenantExitAct.destroyed now p.actor w.counts)
    pending := s.pending.erase p }

/-- A hotel without reservations, wiped with no export. -/
def deleteEmpty (id : TenantId) (actor : UserId) : Except Failure ExitState :=
  if !cfg.deleteEnabled then .error (.forbidden "Удаление гостиниц пока выключено")
  else do
    let tenant ← tenantOr404 s id
    let reservations := (s.rows "reservation").countP (Row.isOf id)
    if 0 < reservations then
      .error (.conflict ("У гостиницы «" ++ tenant.text "name" ++ "» есть брони (" ++ toString reservations ++
        ") — сразу удалить нельзя. " ++
        "Гостиницу с данными удаляют по акту: выключить, выгрузить, уничтожить."))
    else
      let w := wipe cfg.schema s.rows id cfg.schema.tenantTables
      let act : TenantExitAct :=
        { id := s.acts.fresh, tenantId := id
          tenantSlug := tenant.text "slug", tenantName := tenant.text "name"
          exportedAt := now, exportedBy := actor, exportSha256 := EMPTY_HOTEL_MARK
          destroyedAt := some now, destroyedBy := some actor, counts := some w.counts.rows }
      .ok { s with rows := w.rows, acts := s.acts.insert act }

end Calls

/-! ## Runs -/

/-- A call, the transaction of the destruction that has waited longest but `i`, or whatever the rest
of the program writes. -/
inductive ExitOp where
  | app (rows : Rows)
  | exportTenant (id : TenantId) (actor : UserId) (journal : Option AuditSource)
  | destroyCheck (id : TenantId) (confirmSlug : Option String) (actor : UserId)
  | destroyWipe (i : ℕ)
  | deleteEmpty (id : TenantId) (actor : UserId)

def ExitState.step (cfg : ExitConfig) (s : ExitState) (x : Moment × ExitOp) : ExitState :=
  match x.2 with
  | .app rows => { s with rows := rows }
  | .exportTenant id actor journal => match exportTenant cfg x.1 s id actor journal with
    | .ok (_, s') => s'
    | .error _ => s
  | .destroyCheck id confirmSlug actor => match destroyCheck x.1 s id confirmSlug actor with
    | .ok s' => s'
    | .error _ => s
  | .destroyWipe i => match s.pending[i]? with
    | some p => destroyWipe cfg x.1 s p
    | none => s
  | .deleteEmpty id actor => match deleteEmpty cfg x.1 s id actor with
    | .ok s' => s'
    | .error _ => s

def ExitState.run (cfg : ExitConfig) (rows : Rows) (ops : List (Moment × ExitOp)) : ExitState :=
  ops.foldl (ExitState.step cfg) ⟨rows, .empty, []⟩

/-! ## What is wiped -/

section Wipe

variable {schema : Schema} {rows : Rows} {id : TenantId}

theorem mem_tenantTables {n : String} : n ∈ schema.tenantTables ↔
    (∃ t ∈ schema.tables, t.ofTenants = true ∧ t.name = n) ∧ plainName n = true := by
  simp [Schema.tenantTables, and_assoc]

theorem nodup_tenantTables (schema : Schema) : schema.tenantTables.Nodup := by
  refine List.Nodup.filter _ ((List.perm_insertionSort _ _).nodup_iff.mpr ?_)
  refine (List.nodup_map_iff_inj_on (List.Nodup.filter _ (List.Nodup.of_map _ schema.nodup))).mpr ?_
  intro t ht t' ht' hname
  obtain ⟨ht, hof⟩ := List.mem_filter.mp ht
  obtain ⟨ht', hof'⟩ := List.mem_filter.mp ht'
  simp only [TableInfo.ofTenants, Bool.and_eq_true, decide_eq_true_eq] at hof hof'
  refine List.inj_on_of_nodup_map schema.nodup ht ht' ?_
  rw [hof.1.1.1, hof'.1.1.1, hname]

theorem tenant_not_mem : "tenant" ∉ schema.tenantTables := by
  intro h
  obtain ⟨⟨t, ht, hof, hname⟩, _⟩ := mem_tenantTables.mp h
  simp only [TableInfo.ofTenants, Bool.and_eq_true, List.contains_iff_mem] at hof
  exact schema.tenantColumns t ht hname hof.1.1.2

theorem mem_dependents {tables : List String} {f : Reference String String}
    (h : f ∈ schema.dependents tables) : f.parent ∈ tables ∧ f.child ∉ tables ∧ f.child ≠ "tenant" := by
  obtain ⟨c, hc, hf⟩ := List.mem_filterMap.mp (List.mem_filter.mp h).1
  split at hf
  · split_ifs at hf with hin
    simp only [Bool.and_eq_true, Bool.not_eq_true', List.contains_eq_mem,
      decide_eq_false_iff_not, decide_eq_true_eq] at hin
    cases hf
    exact ⟨hin.1, hin.2, schema.tenantKeys c hc⟩
  · cases hf

theorem delete_rows_self {w : Wiped} {count name : String} {p : Row → Bool} :
    (w.delete count name p).rows name = (w.rows name).filter fun r => !p r := Function.update_self ..

theorem delete_rows_of_ne {w : Wiped} {count name n : String} {p : Row → Bool} (h : n ≠ name) :
    (w.delete count name p).rows n = w.rows n := Function.update_of_ne h _ _

/-- The rows that stay of a table, before the orphans are swept. -/
def stays (tables : List String) (id : TenantId) (n : String) (r : Row) : Bool :=
  !(decide (n ∈ tables) && r.isOf id) && !(decide (n = "tenant") && r.isTenant id)

theorem foldl_delete_rows (tables : List String) (w : Wiped) (n : String) :
    (tables.foldl (fun (w : Wiped) n => w.delete n n (Row.isOf id)) w).rows n =
      (w.rows n).filter fun r => !(decide (n ∈ tables) && r.isOf id) := by
  induction tables generalizing w with
  | nil => simp
  | cons m tables ih =>
    rw [List.foldl_cons, ih]
    by_cases hm : n = m
    · subst hm
      rw [delete_rows_self, List.filter_filter]
      refine List.filter_congr fun r _ => ?_
      cases r.isOf id <;> simp
    · rw [delete_rows_of_ne hm]
      refine List.filter_congr fun r _ => ?_
      simp [hm]

/-- The rows of every table after the hotel's own were deleted. -/
def cleared (tables : List String) (rows : Rows) (id : TenantId) : Rows := fun n =>
  (rows n).filter (stays tables id n)

theorem cleared_eq (tables : List String) :
    ((tables.foldl (fun (w : Wiped) n => w.delete n n (Row.isOf id)) ⟨rows, .empty⟩).delete "tenant"
      "tenant" (Row.isTenant id)).rows = cleared tables rows id := by
  funext n
  by_cases hn : n = "tenant"
  · subst hn
    rw [delete_rows_self, foldl_delete_rows, List.filter_filter]
    refine List.filter_congr fun r _ => ?_
    simp [stays, Bool.and_comm]
  · rw [delete_rows_of_ne hn, foldl_delete_rows]
    refine List.filter_congr fun r _ => ?_
    simp [stays, hn]

theorem foldl_deleteOrphans_rows (fs : List (Reference String String)) (w : Wiped) :
    (fs.foldl Wiped.deleteOrphans w).rows = Reference.sweep Row.cell w.rows fs := by
  induction fs generalizing w with
  | nil => rfl
  | cons f fs ih =>
    rw [List.foldl_cons, ih]
    refine congrArg (Reference.sweep Row.cell · fs) ?_
    funext n
    simp only [Wiped.deleteOrphans, Wiped.delete, Reference.sweepOne, Bool.not_not]

theorem parent_ne_child (tables : List String) :
    ∀ f ∈ schema.dependents tables, ∀ g ∈ schema.dependents tables, f.parent ≠ g.child :=
  fun _ hf _ hg h => (mem_dependents hg).2.1 (h ▸ (mem_dependents hf).1)

/-- **The rows of a table after the wipe.** -/
theorem wipe_rows (tables : List String) (n : String) : (wipe schema rows id tables).rows n =
    (cleared tables rows id n).filter fun r => decide (∀ f ∈ schema.dependents tables,
      f.child = n → f.Points Row.cell (cleared tables rows id) r) := by
  unfold wipe
  rw [foldl_deleteOrphans_rows, cleared_eq, Reference.sweep_apply (parent_ne_child tables)]

/-- A table no reference is swept of. -/
theorem wipe_rows_of_ne {tables : List String} {n : String}
    (h : ∀ f ∈ schema.dependents tables, f.child ≠ n) :
    (wipe schema rows id tables).rows n = cleared tables rows id n := by
  rw [wipe_rows, List.filter_eq_self]
  exact fun r _ => decide_eq_true fun f hf hc => absurd hc (h f hf)

theorem wipe_rows_of_mem {n : String} (h : n ∈ schema.tenantTables) :
    (wipe schema rows id schema.tenantTables).rows n = (rows n).filter fun r => !r.isOf id := by
  rw [wipe_rows_of_ne fun f hf hc => (mem_dependents hf).2.1 (hc ▸ h)]
  refine List.filter_congr fun r _ => ?_
  have hne : n ≠ "tenant" := fun hn => tenant_not_mem (hn ▸ h)
  simp [stays, h, hne]

theorem wipe_rows_tenant : (wipe schema rows id schema.tenantTables).rows "tenant" =
    (rows "tenant").filter fun r => !r.isTenant id := by
  rw [wipe_rows_of_ne fun f hf hc => (mem_dependents hf).2.2 hc]
  refine List.filter_congr fun r _ => ?_
  simp [stays, tenant_not_mem]

/-! ### The counts -/

theorem delete_counts_of_ne {w : Wiped} {count name k : String} {p : Row → Bool} (h : k ≠ count) :
    (w.delete count name p).counts.get k = w.counts.get k := EntryMap.get_set_of_ne _ _ h

theorem foldl_delete_counts_of_not_mem {tables : List String} (w : Wiped) {n : String}
    (hn : n ∉ tables) :
    (tables.foldl (fun (w : Wiped) n => w.delete n n (Row.isOf id)) w).counts.get n =
      w.counts.get n := by
  induction tables generalizing w with
  | nil => rfl
  | cons m tables ih =>
    rw [List.mem_cons, not_or] at hn
    rw [List.foldl_cons, ih _ hn.2, delete_counts_of_ne hn.1]

theorem foldl_delete_counts {tables : List String} (hnodup : tables.Nodup) (w : Wiped) {n : String}
    (hn : n ∈ tables) :
    (tables.foldl (fun (w : Wiped) n => w.delete n n (Row.isOf id)) w).counts.get n =
      some ((w.rows n).countP (Row.isOf id)) := by
  induction tables generalizing w with
  | nil => cases hn
  | cons m tables ih =>
    obtain ⟨hm, hnodup⟩ := List.nodup_cons.mp hnodup
    rw [List.foldl_cons]
    rcases List.mem_cons.mp hn with rfl | hn
    · rw [foldl_delete_counts_of_not_mem _ hm]
      exact EntryMap.get_set_self _ _ _
    · have hne : n ≠ m := fun h => hm (h ▸ hn)
      rw [ih hnodup _ hn, delete_rows_of_ne hne]

/-- The counts of orphans have names of their own. -/
theorem plainName_ne {n child : String} (h : plainName n = true) : n ≠ child ++ " (связанные)" := by
  rintro rfl
  simp only [plainName, Bool.and_eq_true, List.all_eq_true] at h
  have hspace := h.2 ' ' (by simp [String.toList_append])
  exact absurd hspace (by decide)

theorem foldl_deleteOrphans_counts (fs : List (Reference String String)) (w : Wiped) {n : String}
    (h : plainName n = true) :
    (fs.foldl Wiped.deleteOrphans w).counts.get n = w.counts.get n := by
  induction fs generalizing w with
  | nil => rfl
  | cons f fs ih =>
    rw [List.foldl_cons, ih]
    exact delete_counts_of_ne (plainName_ne h)

theorem wipe_counts_of_mem {n : String} (h : n ∈ schema.tenantTables) :
    (wipe schema rows id schema.tenantTables).counts.get n = some ((rows n).countP (Row.isOf id)) := by
  have hne : n ≠ "tenant" := fun hn => tenant_not_mem (hn ▸ h)
  unfold wipe
  rw [foldl_deleteOrphans_counts _ _ (mem_tenantTables.mp h).2, delete_counts_of_ne hne,
    foldl_delete_counts (nodup_tenantTables schema) _ h]

theorem wipe_counts_tenant : (wipe schema rows id schema.tenantTables).counts.get "tenant" =
    some ((rows "tenant").countP (Row.isTenant id)) := by
  have hrows := @foldl_delete_rows id schema.tenantTables ⟨rows, .empty⟩ "tenant"
  unfold wipe
  rw [foldl_deleteOrphans_counts _ _ (by decide)]
  refine (EntryMap.get_set_self _ _ _).trans (congrArg some ?_)
  rw [hrows]
  simp [tenant_not_mem]

/-! ### The whole -/

/-- What a wipe of a hotel does. -/
structure Wipes (schema : Schema) (rows : Rows) (id : TenantId) (w : Wiped) : Prop where
  /-- Of every table of hotels the hotel's rows go, and no others. -/
  tables : ∀ n ∈ schema.tenantTables, w.rows n = (rows n).filter fun r => !r.isOf id
  tenant : w.rows "tenant" = (rows "tenant").filter fun r => !r.isTenant id
  /-- Of any other table those rows stay that refer to rows of other hotels, or to nothing. -/
  others : ∀ n ∉ schema.tenantTables, n ≠ "tenant" →
    w.rows n = (rows n).filter fun r => decide (∀ f ∈ schema.dependents schema.tenantTables, f.child = n →
      ∀ v ∈ r.cell f.col, ∃ p ∈ rows f.parent, p.cell f.pcol = some v ∧ p.isOf id = false)
  /-- No reference of another table into the tables of hotels is left broken. -/
  dependents : ∀ f ∈ schema.dependents schema.tenantTables, f.Held Row.cell w.rows
  /-- A reference between tables of hotels is kept, if no other hotel refers to rows of this one. -/
  references : ∀ f : Reference String String, f.child ∈ schema.tenantTables →
    f.parent ∈ schema.tenantTables → f.Held Row.cell rows →
    (∀ r ∈ rows f.child, ∀ p ∈ rows f.parent, ∀ v ∈ r.cell f.col, p.cell f.pcol = some v →
      p.isOf id = true → r.isOf id = true) → f.Held Row.cell w.rows
  /-- The counts are those of the rows that went. -/
  counts : ∀ n ∈ schema.tenantTables, w.counts.get n = some ((rows n).countP (Row.isOf id))
  tenantCount : w.counts.get "tenant" = some ((rows "tenant").countP (Row.isTenant id))

theorem wipe_wipes (schema : Schema) (rows : Rows) (id : TenantId) :
    Wipes schema rows id (wipe schema rows id schema.tenantTables) where
  tables n h := wipe_rows_of_mem h
  tenant := wipe_rows_tenant
  others n hn hne := by
    have hcleared : cleared schema.tenantTables rows id n = rows n :=
      List.filter_eq_self.mpr fun r _ => by simp [stays, hn, hne]
    rw [wipe_rows, hcleared]
    refine List.filter_congr fun r _ => decide_eq_decide.mpr (forall₂_congr fun f hf => ?_)
    refine imp_congr_right fun _ => forall₂_congr fun v _ => exists_congr fun p => ?_
    have hparent := (mem_dependents hf).1
    have hne : f.parent ≠ "tenant" := fun h => tenant_not_mem (h ▸ hparent)
    simp only [cleared, List.mem_filter, stays, hparent, hne, decide_true, decide_false, Bool.true_and,
      Bool.false_and, Bool.not_false, Bool.and_true, Bool.not_eq_true']
    rw [and_assoc, and_comm (a := p.isOf id = false)]
  dependents f hf := by
    have hsweep : (wipe schema rows id schema.tenantTables).rows =
        Reference.sweep Row.cell (cleared schema.tenantTables rows id)
          (schema.dependents schema.tenantTables) := by
      rw [wipe, foldl_deleteOrphans_rows, cleared_eq]
    rw [hsweep]
    exact Reference.held_sweep (parent_ne_child _) hf
  references f hc hp hheld hcross := by
    refine hheld.filter (fun _ r => !r.isOf id) ?_ ?_
    · rintro n (rfl | rfl)
      · exact wipe_rows_of_mem hc
      · exact wipe_rows_of_mem hp
    · intro r hr p hp v hv hpv hk
      by_contra hnot
      rw [hcross r hr p hp v hv hpv (by simpa using hnot)] at hk
      cases hk
  counts n h := wipe_counts_of_mem h
  tenantCount := wipe_counts_tenant

/-- The hotel's rows of a table are those that a wipe takes. -/
theorem filter_isOf_eq_gone {n : String} (h : n ∈ schema.tenantTables) :
    (rows n).filter (Row.isOf id) = (rows n).filter fun r =>
      decide (r ∉ (wipe schema rows id schema.tenantTables).rows n) := by
  rw [wipe_rows_of_mem h]
  refine List.filter_congr fun r hr => ?_
  simp [hr]

theorem cell_cutSecrets (r : Row) {col : String} (h : col ∈ SECRET_COLUMNS) :
    (cutSecrets r).cell col = none := by
  have hnone : (cutSecrets r).lookup col = none := by
    rw [List.lookup_eq_none_iff]
    intro e he
    have hkept := (List.mem_filter.mp he).2
    simp only [Bool.not_eq_true', List.contains_eq_mem, decide_eq_false_iff_not] at hkept
    simpa using fun heq : col = e.1 => hkept (heq ▸ h)
  rw [Row.cell, hnone, Option.filter_none]

theorem isOf_exitExportRow (j : AuditSource) (now : Moment) (id : TenantId) (actor : UserId) (sha : String) :
    (exitExportRow j now id actor sha).isOf id = true :=
  decide_eq_true rfl

theorem journaled_of_ne (r : Option Row) {n : String} (h : n ≠ "audit_log") :
    journaled rows r n = rows n := Function.update_of_ne h _ _

theorem journaled_audit_log (r : Option Row) :
    journaled rows r "audit_log" = rows "audit_log" ++ r.toList := Function.update_self ..

/-- The hotel's rows of a table, after a row of its own was added to the journal. -/
theorem filter_isOf_journaled (n : String) {r : Option Row} (hr : ∀ x ∈ r, x.isOf id = true) :
    (journaled rows r n).filter (Row.isOf id) =
      (rows n).filter (Row.isOf id) ++ if n = "audit_log" then r.toList else [] := by
  by_cases hn : n = "audit_log"
  · subst hn
    have hself : r.toList.filter (Row.isOf id) = r.toList := List.filter_eq_self.mpr fun x hx =>
      hr x (Option.mem_toList.mp hx)
    rw [journaled_audit_log, List.filter_append, hself, if_pos rfl]
  · rw [journaled_of_ne r hn, if_neg hn, List.append_nil]

end Wipe

/-- What the file of an export holds of the rows it was made of, and what a wipe takes of those that
the export leaves. -/
structure Exports (cfg : ExitConfig) (rows : Rows) (id : TenantId) (file : ExportFile)
    (journal : Option Row) (rows' : Rows) : Prop where
  /-- The file has every table of hotels, with the rows that a wipe at its moment would take. -/
  names : file.tables.map Prod.fst = cfg.schema.tenantTables
  exported : ∀ e ∈ file.tables, e.2 = ((rows e.1).filter fun r =>
    decide (r ∉ (wipe cfg.schema rows id cfg.schema.tenantTables).rows e.1)).map cutSecrets
  secrets : ∀ e ∈ file.tables, ∀ r ∈ e.2, ∀ col ∈ SECRET_COLUMNS, r.cell col = none
  /-- A wipe right after it takes and counts one row more, that of the export in the journal. -/
  taken : ∀ e ∈ file.tables, ((rows' e.1).filter fun r =>
      decide (r ∉ (wipe cfg.schema rows' id cfg.schema.tenantTables).rows e.1)).map cutSecrets =
    e.2 ++ if e.1 = "audit_log" then journal.toList.map cutSecrets else []
  counted : ∀ e ∈ file.tables,
    (wipe cfg.schema rows' id cfg.schema.tenantTables).counts.get e.1 =
      some (e.2.length + if e.1 = "audit_log" then journal.toList.length else 0)

/-- What an export made of the rows, whichever call made it. -/
def ExportsWhole (cfg : ExitConfig) (rows : Rows) (id : TenantId) : Prop :=
  ∀ (now : Moment) (acts : Table TenantExitAct.id) (pending : List PendingDestroy) (actor : UserId)
    (journal : Option AuditSource) (file : ExportFile) (s' : ExitState),
    exportTenant cfg now ⟨rows, acts, pending⟩ id actor journal = .ok (file, s') →
      Exports cfg rows id file
        (journal.map fun j => exitExportRow j now id actor (cfg.sha256 file)) s'.rows

theorem exportsWhole (cfg : ExitConfig) (rows : Rows) (id : TenantId) : ExportsWhole cfg rows id := by
  intro now acts pending actor journal file s' h
  have hcall : file.tables = exportTables cfg.schema rows id ∧
      s'.rows = journaled rows (journal.map fun j => exitExportRow j now id actor (cfg.sha256 file)) := by
    unfold exportTenant at h
    cases ht : tenantOr404 ⟨rows, acts, pending⟩ id with
    | error e =>
      rw [ht] at h
      cases h
    | ok tenant =>
      rw [ht] at h
      cases h
      exact ⟨rfl, rfl⟩
  obtain ⟨htables, hrows⟩ := hcall
  set row := journal.map fun j => exitExportRow j now id actor (cfg.sha256 file)
  have hof : ∀ x ∈ row, x.isOf id = true := by
    intro x hx
    obtain ⟨j, _, rfl⟩ := Option.map_eq_some_iff.mp hx
    exact isOf_exitExportRow j now id actor _
  rw [hrows]
  refine ⟨?_, fun e he => ?_, fun e he r hr col hcol => ?_, fun e he => ?_, fun e he => ?_⟩
  · rw [htables, exportTables, List.map_map]
    exact List.map_id' _
  all_goals
    rw [htables] at he
    obtain ⟨n, hn, rfl⟩ := List.mem_map.mp he
  · rw [← filter_isOf_eq_gone hn]
  · obtain ⟨r₀, _, rfl⟩ := List.mem_map.mp hr
    exact cell_cutSecrets r₀ hcol
  · rw [← filter_isOf_eq_gone hn, filter_isOf_journaled n hof, List.map_append]
    split_ifs <;> rfl
  · rw [wipe_counts_of_mem hn, List.countP_eq_length_filter, filter_isOf_journaled n hof,
      List.length_append, List.length_map]
    split_ifs <;> rfl

/-- **The wipe of a hotel**: all of it goes, and nothing of another; and what goes of the tables of
hotels is what the file of an export holds, less the secrets, with the journal row of the export. -/
theorem wipe_spec (cfg : ExitConfig) (rows : Rows) (id : TenantId) :
    Wipes cfg.schema rows id (wipe cfg.schema rows id cfg.schema.tenantTables) ∧
      ExportsWhole cfg rows id :=
  ⟨wipe_wipes cfg.schema rows id, exportsWhole cfg rows id⟩

/-! ## What an act says -/

section Acts

variable (cfg : ExitConfig) (rows : Rows) (ops : List (Moment × ExitOp))

/-- The act was made by an export before call `j`. -/
def ExportedBefore (act : TenantExitAct) (j : ℕ) : Prop :=
  ∃ i < j, ∃ journal, ops[i]? = some (act.exportedAt, .exportTenant act.tenantId act.exportedBy journal)

/-- Call `j` asked to destroy the hotel of the act, which was off, by its code; and the export was
at most seven days old. -/
def CheckedAt (act : TenantExitAct) (actor : UserId) (j : ℕ) : Prop :=
  ∃ t confirmSlug, ops[j]? = some (t, .destroyCheck act.tenantId confirmSlug actor) ∧
    t - EXPORT_FRESH_DAYS * 86400000 ≤ act.exportedAt ∧
    ∃ tenant, tenantOr404 (ExitState.run cfg rows (ops.take j)) act.tenantId = .ok tenant ∧
      CharText.trim (confirmSlug.getD "").toList = (tenant.text "slug").toList ∧
      tenant.cell "is_active" ≠ some (.bool true)

/-- After call `k` nothing is left of the hotel. -/
def GoneAfter (id : TenantId) (k : ℕ) : Prop :=
  (∀ n ∈ cfg.schema.tenantTables, ∀ r ∈ (ExitState.run cfg rows (ops.take (k + 1))).rows n,
    r.isOf id = false) ∧
    ∀ r ∈ (ExitState.run cfg rows (ops.take (k + 1))).rows "tenant", r.isTenant id = false

/-- How the hotel of an act went: exported, then checked, then wiped; or wiped while it had no
reservations, if that is switched on. -/
def WentAt (act : TenantExitAct) (t : Moment) : Prop :=
  (∃ j k i actor, j < k ∧ ExportedBefore ops act j ∧ CheckedAt cfg rows ops act actor j ∧
    ops[k]? = some (t, .destroyWipe i) ∧ act.destroyedBy = some actor ∧
      GoneAfter cfg rows ops act.tenantId k) ∨
  (cfg.deleteEnabled = true ∧ ∃ k actor, ops[k]? = some (t, .deleteEmpty act.tenantId actor) ∧
    act.destroyedBy = some actor ∧
    (∀ r ∈ (ExitState.run cfg rows (ops.take k)).rows "reservation", r.isOf act.tenantId = false) ∧
      GoneAfter cfg rows ops act.tenantId k)

variable {cfg rows ops} {act : TenantExitAct} {x : Moment × ExitOp}

theorem ExportedBefore.concat {j : ℕ} (h : ExportedBefore ops act j) :
    ExportedBefore (ops ++ [x]) act j := by
  obtain ⟨i, hi, journal, hop⟩ := h
  exact ⟨i, hi, journal, getElem?_concat_of_eq_some hop⟩

theorem CheckedAt.concat {actor : UserId} {j : ℕ} (h : CheckedAt cfg rows ops act actor j) :
    CheckedAt cfg rows (ops ++ [x]) act actor j := by
  obtain ⟨t, slug, hop, hfresh, hoff⟩ := h
  refine ⟨t, slug, getElem?_concat_of_eq_some hop, hfresh, ?_⟩
  rwa [(take_concat_of_eq_some hop).1]

theorem WentAt.concat {t : Moment} (h : WentAt cfg rows ops act t) :
    WentAt cfg rows (ops ++ [x]) act t := by
  rcases h with ⟨j, k, i, actor, hjk, hexp, hcheck, hop, hby, hgone⟩ |
    ⟨hon, k, actor, hop, hby, hnone, hgone⟩
  · refine Or.inl ⟨j, k, i, actor, hjk, hexp.concat, hcheck.concat, getElem?_concat_of_eq_some hop, hby, ?_⟩
    unfold GoneAfter
    rwa [(take_concat_of_eq_some hop).2]
  · refine Or.inr ⟨hon, k, actor, getElem?_concat_of_eq_some hop, hby, ?_, ?_⟩
    · rwa [(take_concat_of_eq_some hop).1]
    · unfold GoneAfter
      rwa [(take_concat_of_eq_some hop).2]

/-! ### The calls -/

section Calls

variable {now : Moment} {s s' : ExitState} {id : TenantId} {actor : UserId}

theorem exportTenant_ok {journal : Option AuditSource} {file : ExportFile}
    (h : exportTenant cfg now s id actor journal = .ok (file, s')) :
    ∃ act rows', s' = { s with rows := rows', acts := s.acts.insert act } ∧ act.id = s.acts.fresh ∧
      act.tenantId = id ∧ act.exportedAt = now ∧ act.exportedBy = actor ∧ act.destroyedAt = none := by
  unfold exportTenant at h
  cases ht : tenantOr404 s id with
  | error e =>
    rw [ht] at h
    cases h
  | ok tenant =>
    rw [ht] at h
    cases h
    exact ⟨_, _, rfl, rfl, rfl, rfl, rfl, rfl⟩

theorem freshAct_eq_some (h : freshAct now s id = some act) :
    act ∈ s.acts ∧ act.tenantId = id ∧ act.destroyedAt = none ∧
      now - EXPORT_FRESH_DAYS * 86400000 ≤ act.exportedAt := by
  have hmem := Table.mem_select.mp ((List.mem_insertionSort _).mp (List.mem_of_mem_head? h))
  simp only [Bool.and_eq_true, decide_eq_true_eq, Option.isNone_iff_eq_none, and_assoc] at hmem
  exact hmem

theorem destroyCheck_ok {confirmSlug : Option String}
    (h : destroyCheck now s id confirmSlug actor = .ok s') :
    ∃ act tenant, s' = { s with pending := s.pending ++ [⟨id, act, actor⟩] } ∧
      freshAct now s id = some act ∧ tenantOr404 s id = .ok tenant ∧
      CharText.trim (confirmSlug.getD "").toList = (tenant.text "slug").toList ∧
      tenant.cell "is_active" ≠ some (.bool true) := by
  unfold destroyCheck at h
  cases ht : tenantOr404 s id with
  | error e =>
    rw [ht] at h
    cases h
  | ok tenant =>
    rw [ht] at h
    change (if _ then _ else _) = _ at h
    split_ifs at h with hslug hactive
    cases hact : freshAct now s id with
    | none =>
      rw [hact] at h
      cases h
    | some act =>
      rw [hact] at h
      cases h
      exact ⟨act, tenant, rfl, rfl, rfl, not_not.mp hslug, hactive⟩

theorem deleteEmpty_ok (h : deleteEmpty cfg now s id actor = .ok s') :
    cfg.deleteEnabled = true ∧ (∀ r ∈ s.rows "reservation", r.isOf id = false) ∧
      ∃ act, s' = { s with
        rows := (wipe cfg.schema s.rows id cfg.schema.tenantTables).rows
        acts := s.acts.insert act } ∧ act.id = s.acts.fresh ∧ act.tenantId = id ∧
        act.destroyedAt = some now ∧ act.destroyedBy = some actor := by
  unfold deleteEmpty at h
  split_ifs at h with hon
  cases ht : tenantOr404 s id with
  | error e =>
    rw [ht] at h
    cases h
  | ok tenant =>
    rw [ht] at h
    change (if _ then _ else _) = _ at h
    split_ifs at h with hpos
    cases h
    refine ⟨by simpa using hon, fun r hr => ?_, _, rfl, rfl, rfl, rfl, rfl⟩
    have hzero : (s.rows "reservation").countP (Row.isOf id) = 0 := Nat.eq_zero_of_not_pos hpos
    simpa using List.countP_eq_zero.mp hzero r hr

theorem mem_acts_destroyWipe {p : PendingDestroy} {r' : TenantExitAct} :
    r' ∈ (destroyWipe cfg now s p).acts ↔ r' ∈ s.acts ∧ r'.id ≠ p.act.id ∨
      ∃ r ∈ s.acts, r.id = p.act.id ∧
        r' = r.destroyed now p.actor (wipe cfg.schema s.rows p.tenantId cfg.schema.tenantTables).counts := by
  show r' ∈ s.acts.modify p.act.id _ ↔ _
  exact Table.mem_modify

end Calls

/-! ### Runs -/

/-- What a run keeps: an act that is not used was made by an export, one that is used says how its
hotel went, and a destruction under way was checked. -/
structure ActsInv (cfg : ExitConfig) (rows : Rows) (ops : List (Moment × ExitOp)) (s : ExitState) :
    Prop where
  exported : ∀ act ∈ s.acts, act.destroyedAt = none → ExportedBefore ops act ops.length
  went : ∀ act ∈ s.acts, ∀ t, act.destroyedAt = some t → WentAt cfg rows ops act t
  pending : ∀ p ∈ s.pending, p.act.tenantId = p.tenantId ∧
    (∃ j < ops.length, ExportedBefore ops p.act j ∧ CheckedAt cfg rows ops p.act p.actor j) ∧
    ∃ act ∈ s.acts, act.id = p.act.id ∧ act.tenantId = p.act.tenantId ∧
      act.exportedAt = p.act.exportedAt ∧ act.exportedBy = p.act.exportedBy

theorem run_concat : ExitState.run cfg rows (ops ++ [x]) =
    (ExitState.run cfg rows ops).step cfg x := List.foldl_concat ..

theorem ActsInv.same {s : ExitState} (h : ActsInv cfg rows ops s) (rows' : Rows) :
    ActsInv cfg rows (ops ++ [x]) { s with rows := rows' } where
  exported act hact hnone := by
    obtain ⟨i, hi, hop⟩ := (h.exported act hact hnone).concat (x := x)
    exact ⟨i, by rw [List.length_append]; omega, hop⟩
  went act hact t ht := (h.went act hact t ht).concat
  pending p hp := by
    obtain ⟨htenant, ⟨j, hj, hexp, hcheck⟩, hact⟩ := h.pending p hp
    exact ⟨htenant, ⟨j, by rw [List.length_append]; omega, hexp.concat, hcheck.concat⟩, hact⟩

theorem ActsInv.insert {s : ExitState} (h : ActsInv cfg rows ops s) (rows' : Rows)
    (hexp : act.destroyedAt = none → ExportedBefore (ops ++ [x]) act (ops ++ [x]).length)
    (hwent : ∀ t, act.destroyedAt = some t → WentAt cfg rows (ops ++ [x]) act t) :
    ActsInv cfg rows (ops ++ [x]) { s with rows := rows', acts := s.acts.insert act } where
  exported := Table.forall_mem_insert (h.same rows').exported hexp
  went := Table.forall_mem_insert (h.same rows').went hwent
  pending p hp := by
    obtain ⟨htenant, hchecked, act', hact', hsame⟩ := (h.same (x := x) rows').pending p hp
    exact ⟨htenant, hchecked, act', Table.mem_insert_of_mem hact', hsame⟩

/-- After a wipe that is the last call nothing is left. -/
theorem goneAfter_last {id : TenantId} (h : (ExitState.run cfg rows (ops ++ [x])).rows =
    (wipe cfg.schema (ExitState.run cfg rows ops).rows id cfg.schema.tenantTables).rows) :
    GoneAfter cfg rows (ops ++ [x]) id ops.length := by
  have hspec := wipe_wipes cfg.schema (ExitState.run cfg rows ops).rows id
  unfold GoneAfter
  rw [take_last_succ, h]
  refine ⟨fun n hn r hr => ?_, fun r hr => ?_⟩
  · rw [hspec.tables n hn] at hr
    simpa using (List.mem_filter.mp hr).2
  · rw [hspec.tenant] at hr
    simpa using (List.mem_filter.mp hr).2

/-- The transaction of a destruction under way. -/
theorem ActsInv.destroyWipe {i : ℕ} {now : Moment} {p : PendingDestroy}
    (h : ActsInv cfg rows ops (ExitState.run cfg rows ops)) (hp : p ∈ (ExitState.run cfg rows ops).pending)
    (hgone : GoneAfter cfg rows (ops ++ [(now, .destroyWipe i)]) p.tenantId ops.length) :
    ActsInv cfg rows (ops ++ [(now, .destroyWipe i)])
      (TenantExit.destroyWipe cfg now (ExitState.run cfg rows ops) p) := by
  obtain ⟨htenant, ⟨j, hj, hexp, hcheck⟩, act, hact, hid, htid, hat, hby⟩ := h.pending p hp
  have hsame := h.same (x := (now, .destroyWipe i)) (ExitState.run cfg rows ops).rows
  refine ⟨?_, ?_, fun q hq => ?_⟩
  · exact Table.forall_mem_modify hsame.exported fun r _ _ hnone => by cases hnone
  · refine Table.forall_mem_modify hsame.went fun r hr hk t ht => ?_
    obtain rfl : r = act := Table.eq_of_key hr hact (hk.trans hid.symm)
    obtain rfl : now = t := Option.some.inj ht
    refine Or.inl ⟨j, ops.length, i, p.actor, hj, ?_, ?_, getElem?_last, rfl, ?_⟩
    · unfold ExportedBefore at hexp ⊢
      obtain ⟨k, hk, journal, hop⟩ := hexp
      rw [← hat, ← htid, ← hby] at hop
      exact ⟨k, hk, journal, getElem?_concat_of_eq_some hop⟩
    · obtain ⟨t, slug, hop, hdays, hoff⟩ := hcheck.concat (x := (now, .destroyWipe i))
      rw [← htid] at hop hoff
      rw [← hat] at hdays
      exact ⟨t, slug, hop, hdays, hoff⟩
    · show GoneAfter cfg rows _ r.tenantId _
      rw [htid, htenant]
      exact hgone
  · obtain ⟨hq₁, hq₂, r, hr, hk, hsame'⟩ := hsame.pending q (List.mem_of_mem_erase hq)
    refine ⟨hq₁, hq₂, ?_⟩
    by_cases hpid : r.id = p.act.id
    · exact ⟨_, mem_acts_destroyWipe.mpr (Or.inr ⟨r, hr, hpid, rfl⟩), hk, hsame'⟩
    · exact ⟨r, mem_acts_destroyWipe.mpr (Or.inl ⟨hr, hpid⟩), hk, hsame'⟩

/-- **Every call keeps what the acts say.** -/
theorem ActsInv.step (h : ActsInv cfg rows ops (ExitState.run cfg rows ops)) :
    ActsInv cfg rows (ops ++ [x]) (ExitState.run cfg rows (ops ++ [x])) := by
  have hlast : (ops ++ [x])[ops.length]? = some x := getElem?_last
  have hrun : ExitState.run cfg rows (ops ++ [x]) = (ExitState.run cfg rows ops).step cfg x := run_concat
  have hlen : (ops ++ [x]).length = ops.length + 1 := by rw [List.length_append]; rfl
  obtain ⟨now, op⟩ := x
  cases op with
  | app rows' =>
    rw [hrun]
    exact h.same rows'
  | exportTenant id actor journal =>
    cases hcall : exportTenant cfg now (ExitState.run cfg rows ops) id actor journal with
    | error e =>
      simp only [hrun, ExitState.step, hcall]
      exact h.same _
    | ok y =>
      obtain ⟨file, s'⟩ := y
      obtain ⟨act, rows', rfl, _, rfl, rfl, rfl, hnone⟩ := exportTenant_ok hcall
      simp only [hrun, ExitState.step, hcall]
      refine h.insert _ (fun _ => ⟨ops.length, by omega, journal, hlast⟩) fun t ht => ?_
      rw [hnone] at ht
      cases ht
  | destroyCheck id confirmSlug actor =>
    cases hcall : destroyCheck now (ExitState.run cfg rows ops) id confirmSlug actor with
    | error e =>
      simp only [hrun, ExitState.step, hcall]
      exact h.same _
    | ok s' =>
      obtain ⟨act, tenant, rfl, hfresh, htenant, hslug, hoff⟩ := destroyCheck_ok hcall
      obtain ⟨hact, rfl, hunused, hdays⟩ := freshAct_eq_some hfresh
      simp only [hrun, ExitState.step, hcall]
      have hsame := h.same (x := (now, .destroyCheck act.tenantId confirmSlug actor))
        (ExitState.run cfg rows ops).rows
      refine ⟨hsame.exported, hsame.went, fun p hp => ?_⟩
      rcases List.mem_append.mp hp with hp | hp
      · exact hsame.pending p hp
      · rw [List.mem_singleton.mp hp]
        refine ⟨rfl, ⟨ops.length, by omega, (h.exported act hact hunused).concat, ?_⟩,
          act, hact, rfl, rfl, rfl, rfl⟩
        refine ⟨now, confirmSlug, hlast, hdays, tenant, ?_, hslug, hoff⟩
        rw [take_last]
        exact htenant
  | destroyWipe i =>
    cases hcall : (ExitState.run cfg rows ops).pending[i]? with
    | none =>
      simp only [hrun, ExitState.step, hcall]
      exact h.same _
    | some p =>
      have hgone : GoneAfter cfg rows (ops ++ [(now, .destroyWipe i)]) p.tenantId ops.length :=
        goneAfter_last (by simp only [hrun, ExitState.step, hcall, TenantExit.destroyWipe])
      simp only [hrun, ExitState.step, hcall]
      exact h.destroyWipe (List.mem_of_getElem? hcall) hgone
  | deleteEmpty id actor =>
    cases hcall : deleteEmpty cfg now (ExitState.run cfg rows ops) id actor with
    | error e =>
      simp only [hrun, ExitState.step, hcall]
      exact h.same _
    | ok s' =>
      obtain ⟨hon, hnone, act, rfl, _, rfl, hat, hby⟩ := deleteEmpty_ok hcall
      have hgone : GoneAfter cfg rows (ops ++ [(now, .deleteEmpty act.tenantId actor)]) act.tenantId
          ops.length := goneAfter_last (by simp only [hrun, ExitState.step, hcall])
      simp only [hrun, ExitState.step, hcall]
      refine h.insert _ (fun hunused => ?_) fun t ht => ?_
      · rw [hat] at hunused
        cases hunused
      · obtain rfl : now = t := Option.some.inj (hat.symm.trans ht)
        refine Or.inr ⟨hon, ops.length, actor, hlast, hby, ?_, hgone⟩
        rw [take_last]
        exact hnone

/-- **What an act says**: in any run, whatever the rest of the program writes between the calls, a
hotel of which an act says that it is gone was exported before its destruction was asked for; was
then off, its code confirmed, and the export at most seven days old; and after the wipe nothing of
it was left. The wipe of a hotel with no reservations is the only other way, and only while it is
switched on. -/
theorem destroyed_act (cfg : ExitConfig) (rows : Rows) (ops : List (Moment × ExitOp)) :
    ∀ act ∈ (ExitState.run cfg rows ops).acts, ∀ t, act.destroyedAt = some t → WentAt cfg rows ops act t := by
  have hinv : ActsInv cfg rows ops (ExitState.run cfg rows ops) := by
    induction ops using List.reverseRecOn with
    | nil =>
      refine ⟨fun act h => ?_, fun act h => ?_, fun p h => by cases h⟩
      · exact absurd h (Table.not_mem_empty act)
      · exact absurd h (Table.not_mem_empty act)
    | append_singleton ops x ih => exact ih.step
  exact hinv.went

/-- A hotel that was exported, asked to go by its code, and wiped. -/
theorem destroyed_act_one :
    let cfg : ExitConfig := ⟨⟨[⟨"public", "room", true, ["id", "tenant_id"]⟩,
      ⟨"public", "audit_log", true, ["id", "tenant_id", "entity"]⟩], [], by decide, by decide,
      by decide⟩, fun _ => "sum", false⟩
    let rows : Rows := fun n =>
      if n = "tenant" then [[("id", .uuid 1), ("slug", .text "inn"), ("is_active", .bool false)]]
      else if n = "room" then
        [[("id", .uuid 5), ("tenant_id", .uuid 1)], [("id", .uuid 6), ("tenant_id", .uuid 2)]]
      else []
    let ops : List (Moment × ExitOp) :=
      [(10, .exportTenant 1 7 (some ⟨9, none, none⟩)), (20, .destroyCheck 1 (some " inn ") 7),
      (30, .destroyWipe 0)]
    let act : TenantExitAct := ⟨1, 1, "inn", "", 10, 7, "sum", some 30, some 7,
      some [("audit_log", 1), ("room", 1), ("tenant", 1)]⟩
    WentAt cfg rows ops act 30 := by
  intro cfg rows ops act
  have hact : act ∈ (ExitState.run cfg rows ops).acts := by
    show act ∈ (ExitState.run cfg rows ops).acts.rows
    decide +kernel
  exact destroyed_act cfg rows ops act hact 30 rfl

end Acts

end KarsHotel.TenantExit
