import KarsHotel.Lib.CharText
import KarsHotel.Lib.EntryMap
import KarsHotel.Reservations.Store

/-!
# The directory of a partner

A partner keeps its accounts and customers itself and sends them whole.

* `PartnerEntry`, `DirectoryDto`: a stored entry, and one that is sent; accounts and customers
  differ in their data;
* `planDirectorySync`, `sync`: the service;
* `find_syncEntries`: the entry of every code after the transaction;
* `Mirrors`: the stored list mirrors the list that was sent;
* **`sync_mirrors`**: a sync mirrors both lists and is then without effect, or changes nothing.
-/

namespace KarsHotel

open CharText (trim)

abbrev EntryId := ℕ

/-- A row of `partner_account` or `partner_customer`. -/
structure PartnerEntry (δ : Type) where
  id : EntryId
  partnerId : PartnerId
  code : List Char
  data : δ
  isActive : Bool
  deriving DecidableEq, Repr

/-- The unique index. -/
def PartnerEntry.key {δ : Type} (e : PartnerEntry δ) : PartnerId × List Char :=
  (e.partnerId, e.code)

def PartnerEntry.renew {δ : Type} (data : δ) (e : PartnerEntry δ) : PartnerEntry δ :=
  { e with data := data, isActive := true }

def PartnerEntry.off {δ : Type} (e : PartnerEntry δ) : PartnerEntry δ :=
  { e with isActive := false }

theorem PartnerEntry.renew_key {δ : Type} (data : δ) (e : PartnerEntry δ) :
    (e.renew data).key = e.key := rfl

theorem PartnerEntry.renew_self {δ : Type} {e : PartnerEntry δ} (h : e.isActive = true) :
    e.renew e.data = e := by
  cases e
  cases h
  rfl

theorem PartnerEntry.off_key {δ : Type} (e : PartnerEntry δ) : e.off.key = e.key := rfl

theorem PartnerEntry.off_self {δ : Type} {e : PartnerEntry δ} (h : e.isActive = false) :
    e.off = e := by
  cases e
  cases h
  rfl

/-- An entry as it is sent. -/
structure DirectoryDto (δ : Type) where
  code : List Char
  data : δ
  deriving DecidableEq, Repr

structure PartnerAccountData where
  name : List Char
  inn : Option (List Char)
  deriving DecidableEq, Repr

structure PartnerCustomerData where
  name : List Char
  deriving DecidableEq, Repr

def PartnerAccountData.stored (a : PartnerAccountData) : PartnerAccountData := ⟨trim a.name, a.inn⟩

def PartnerCustomerData.stored (c : PartnerCustomerData) : PartnerCustomerData := ⟨trim c.name⟩

structure ConnectPartnerDirectoryDto where
  accounts : List (DirectoryDto PartnerAccountData)
  customers : List (DirectoryDto PartnerCustomerData)

/-- The directories of all partners. -/
structure DirectoryStore where
  accounts : Table (PartnerEntry.key (δ := PartnerAccountData))
  customers : Table (PartnerEntry.key (δ := PartnerCustomerData))

namespace PartnerDirectoryService

def codeTwice (code : List Char) : Failure :=
  .badRequest ("Код «" ++ String.ofList code ++ "» в наборе дважды")

section Entries

variable {δ : Type}

/-- The codes that were sent, or the first that was sent before. -/
def seenCodes : List (List Char) → List (DirectoryDto δ) → Except Failure (List (List Char))
  | seen, [] => .ok seen
  | seen, row :: rows =>
    if trim row.code ∈ seen then .error (codeTwice (trim row.code))
    else seenCodes (seen ++ [trim row.code]) rows

structure SyncPlan (δ : Type) where
  upsert : List (DirectoryDto δ)
  deactivate : List (List Char)

/-- What to create or change, and what to switch off. -/
def planDirectorySync (existing : List (PartnerEntry δ)) (incoming : List (DirectoryDto δ)) :
    Except Failure (SyncPlan δ) :=
  match seenCodes [] incoming with
  | .error x => .error x
  | .ok seen => .ok
      { upsert := incoming.map fun r => { r with code := trim r.code }
        deactivate := (existing.filter fun e => e.isActive && decide (e.code ∉ seen)).map (·.code) }

variable (stored : δ → δ) (newId : List Char → EntryId) (partnerId : PartnerId)

/-- `upsert`: a new entry, or its data, and it is active. -/
def upsertEntry (t : Table (PartnerEntry.key (δ := δ))) (r : DirectoryDto δ) :
    Table (PartnerEntry.key (δ := δ)) :=
  match t.find (partnerId, r.code) with
  | some _ => t.modify (partnerId, r.code) (.renew (stored r.data)) (PartnerEntry.renew_key _)
  | none => t.insert ⟨newId r.code, partnerId, r.code, stored r.data, true⟩

/-- The statements of the transaction on one table. -/
def applyPlan (t : Table (PartnerEntry.key (δ := δ))) (plan : SyncPlan δ) :
    Table (PartnerEntry.key (δ := δ)) :=
  (plan.upsert.foldl (upsertEntry stored newId partnerId) t).updateMany
    (fun e => decide (e.partnerId = partnerId ∧ e.code ∈ plan.deactivate))
    PartnerEntry.off PartnerEntry.off_key

end Entries

structure SyncCount where
  active : ℕ
  deactivated : ℕ
  deriving DecidableEq, Repr

structure SyncAnswer where
  accounts : SyncCount
  customers : SyncCount
  deriving DecidableEq, Repr

/-- Both lists are planned before anything is written. -/
def sync (newId : List Char → EntryId) (d : DirectoryStore) (partnerId : PartnerId)
    (dto : ConnectPartnerDirectoryDto) : Except Failure SyncAnswer × DirectoryStore :=
  let accounts := d.accounts.select fun e => decide (e.partnerId = partnerId)
  let customers := d.customers.select fun e => decide (e.partnerId = partnerId)
  match planDirectorySync accounts dto.accounts with
  | .error x => (.error x, d)
  | .ok acc =>
    match planDirectorySync customers dto.customers with
    | .error x => (.error x, d)
    | .ok cus =>
      (.ok
        { accounts := ⟨acc.upsert.length, acc.deactivate.length⟩
          customers := ⟨cus.upsert.length, cus.deactivate.length⟩ },
        { accounts := applyPlan PartnerAccountData.stored newId partnerId d.accounts acc
          customers := applyPlan PartnerCustomerData.stored newId partnerId d.customers cus })

/-! ## The codes of a list -/

section Codes

variable {δ : Type}

/-- The codes of a list, as they are stored. -/
def codes (incoming : List (DirectoryDto δ)) : List (List Char) :=
  incoming.map fun r => trim r.code

theorem seenCodes_ok {seen : List (List Char)} {rows : List (DirectoryDto δ)}
    (h : (seen ++ codes rows).Nodup) : seenCodes seen rows = .ok (seen ++ codes rows) := by
  induction rows generalizing seen with
  | nil => simp [seenCodes, codes]
  | cons row rows ih =>
    have happend : seen ++ codes (row :: rows) = (seen ++ [trim row.code]) ++ codes rows := by
      simp [codes]
    rw [happend] at h ⊢
    have hnew : trim row.code ∉ seen := by
      intro hmem
      have hdisjoint := (List.nodup_append.mp (List.nodup_append.mp h).1).2.2
      exact hdisjoint _ hmem _ (List.mem_singleton_self _) rfl
    rw [seenCodes, if_neg hnew]
    exact ih h

/-- A list that is refused names a code that it holds twice. -/
theorem seenCodes_error {seen : List (List Char)} {rows : List (DirectoryDto δ)}
    (hseen : seen.Nodup) (h : ¬(seen ++ codes rows).Nodup) :
    ∃ c, List.Duplicate c (seen ++ codes rows) ∧ seenCodes seen rows = .error (codeTwice c) := by
  induction rows generalizing seen with
  | nil => exact absurd hseen (by simpa [codes] using h)
  | cons row rows ih =>
    have happend : seen ++ codes (row :: rows) = (seen ++ [trim row.code]) ++ codes rows := by
      simp [codes]
    by_cases hmem : trim row.code ∈ seen
    · refine ⟨trim row.code, ?_, by rw [seenCodes, if_pos hmem]⟩
      have hfirst : [trim row.code].Sublist seen := List.singleton_sublist.mpr hmem
      have hsecond : [trim row.code].Sublist (codes (row :: rows)) :=
        List.singleton_sublist.mpr (List.mem_cons_self ..)
      exact List.duplicate_iff_sublist.mpr (hfirst.append hsecond)
    · rw [seenCodes, if_neg hmem, happend]
      apply ih
      · exact List.nodup_append.mpr ⟨hseen, List.nodup_singleton _, fun a ha b hb hab =>
          hmem (List.mem_singleton.mp hb ▸ hab ▸ ha)⟩
      · rwa [happend] at h

variable (existing : List (PartnerEntry δ)) {incoming : List (DirectoryDto δ)}

/-- The plan for a list without a repeated code. -/
def planOf (existing : List (PartnerEntry δ)) (incoming : List (DirectoryDto δ)) : SyncPlan δ where
  upsert := incoming.map fun r => { r with code := trim r.code }
  deactivate :=
    (existing.filter fun e => e.isActive && decide (e.code ∉ codes incoming)).map (·.code)

theorem planDirectorySync_ok (h : (codes incoming).Nodup) :
    planDirectorySync existing incoming = .ok (planOf existing incoming) := by
  have hseen : seenCodes [] incoming = .ok (codes incoming) := seenCodes_ok (by simpa using h)
  rw [planDirectorySync, hseen]
  rfl

theorem planDirectorySync_error (h : ¬(codes incoming).Nodup) : ∃ c,
    List.Duplicate c (codes incoming) ∧
      planDirectorySync existing incoming = .error (codeTwice c) := by
  obtain ⟨c, hdup, herror⟩ := @seenCodes_error δ [] incoming List.nodup_nil (by simpa using h)
  refine ⟨c, by simpa using hdup, ?_⟩
  rw [planDirectorySync, herror]

end Codes

/-! ## The transaction on one list -/

section Upserts

variable {δ : Type} (stored : δ → δ) (newId : List Char → EntryId) (partnerId : PartnerId)

/-- The entry of a code that was sent, given the stored one. -/
def upserted (old : Option (PartnerEntry δ)) (r : DirectoryDto δ) : PartnerEntry δ :=
  ⟨(old.map (·.id)).getD (newId r.code), partnerId, r.code, stored r.data, true⟩

variable {stored newId partnerId} {t : Table (PartnerEntry.key (δ := δ))} {r : DirectoryDto δ}
  {rows : List (DirectoryDto δ)} {k : PartnerId × List Char}

theorem find_upsertEntry_self :
    (upsertEntry stored newId partnerId t r).find (partnerId, r.code) =
      some (upserted stored newId partnerId (t.find (partnerId, r.code)) r) := by
  unfold upsertEntry
  cases h : t.find (partnerId, r.code) with
  | none =>
    show (t.insert ⟨newId r.code, partnerId, r.code, stored r.data, true⟩).find _ = _
    exact Table.find_insert_self h
  | some e =>
    show (t.modify _ _ _).find _ = _
    have hkey : e.key = (partnerId, r.code) := (Table.find_eq_some.mp h).2
    rw [Table.find_modify_self, h]
    cases e
    cases hkey
    rfl

theorem find_upsertEntry_of_ne (hk : k ≠ (partnerId, r.code)) :
    (upsertEntry stored newId partnerId t r).find k = t.find k := by
  unfold upsertEntry
  cases t.find (partnerId, r.code) with
  | none => exact Table.find_insert_of_ne hk
  | some e => exact Table.find_modify_of_ne hk

/-- An entry that is already as it was sent. -/
theorem upsertEntry_eq_self {e : PartnerEntry δ} (h : t.find (partnerId, r.code) = some e)
    (hdata : e.data = stored r.data) (hactive : e.isActive = true) :
    upsertEntry stored newId partnerId t r = t := by
  unfold upsertEntry
  rw [h]
  show t.modify _ _ _ = t
  ext1
  refine (List.map_congr_left fun x hx => ?_).trans (List.map_id _)
  by_cases hk : x.key = (partnerId, r.code)
  · have hx' : t.find (partnerId, r.code) = some x := Table.find_eq_some.mpr ⟨hx, hk⟩
    obtain rfl : e = x := Option.some.inj (h.symm.trans hx')
    rw [if_pos hk, ← hdata]
    exact PartnerEntry.renew_self hactive
  · rw [if_neg hk]
    rfl

theorem find_upserts_of_ne (hk : ∀ r ∈ rows, k ≠ (partnerId, r.code)) :
    (rows.foldl (upsertEntry stored newId partnerId) t).find k = t.find k := by
  induction rows generalizing t with
  | nil => rfl
  | cons r rows ih =>
    rw [List.foldl_cons, ih fun r' hr' => hk r' (List.mem_cons_of_mem _ hr')]
    exact find_upsertEntry_of_ne (hk r (List.mem_cons_self ..))

theorem find_upserts_of_mem (hnodup : (rows.map (·.code)).Nodup) (hr : r ∈ rows) :
    (rows.foldl (upsertEntry stored newId partnerId) t).find (partnerId, r.code) =
      some (upserted stored newId partnerId (t.find (partnerId, r.code)) r) := by
  induction rows generalizing t with
  | nil => cases hr
  | cons r₀ rows ih =>
    obtain ⟨hnew, hnodup⟩ := List.nodup_cons.mp hnodup
    have hcode : ∀ r' ∈ rows, r'.code ≠ r₀.code := by
      intro r' hr' heq
      exact hnew (List.mem_map.mpr ⟨r', hr', heq⟩)
    rw [List.foldl_cons]
    rcases List.mem_cons.mp hr with rfl | hmem
    · rw [find_upserts_of_ne fun r' hr' heq => hcode r' hr' (congrArg Prod.snd heq).symm]
      exact find_upsertEntry_self
    · rw [ih hnodup hmem, find_upsertEntry_of_ne]
      exact fun heq => hcode r hmem (congrArg Prod.snd heq)

theorem upserts_eq_self (h : ∀ r ∈ rows, ∃ e, t.find (partnerId, r.code) = some e ∧
    e.data = stored r.data ∧ e.isActive = true) :
    rows.foldl (upsertEntry stored newId partnerId) t = t := by
  induction rows with
  | nil => rfl
  | cons r rows ih =>
    obtain ⟨e, hfind, hdata, hactive⟩ := h r (List.mem_cons_self ..)
    rw [List.foldl_cons, upsertEntry_eq_self hfind hdata hactive]
    exact ih fun r' hr' => h r' (List.mem_cons_of_mem _ hr')

end Upserts

section Entries

variable {δ : Type} (stored : δ → δ) (newId : List Char → EntryId) (partnerId : PartnerId)
  (t : Table (PartnerEntry.key (δ := δ))) (incoming : List (DirectoryDto δ))

/-- A stored list after the transaction for a list without a repeated code. -/
def syncEntries : Table (PartnerEntry.key (δ := δ)) :=
  applyPlan stored newId partnerId t
    (planOf (t.select fun e => decide (e.partnerId = partnerId)) incoming)

variable {stored newId partnerId t incoming} {code : List Char}

theorem find_syncEntries (k : PartnerId × List Char) :
    (syncEntries stored newId partnerId t incoming).find k =
      (((planOf [] incoming).upsert.foldl (upsertEntry stored newId partnerId) t).find k).map
        fun e => if e.partnerId = partnerId ∧ e.code ∈ (planOf
          (t.select fun e => decide (e.partnerId = partnerId)) incoming).deactivate then e.off
          else e := by
  rw [syncEntries, applyPlan, Table.find_updateMany]
  simp only [decide_eq_true_eq]
  rfl

/-- An active entry of the partner is switched off when its code was not sent. -/
theorem mem_deactivate : code ∈ (planOf
      (t.select fun e => decide (e.partnerId = partnerId)) incoming).deactivate ↔
    code ∉ codes incoming ∧ ∃ e, t.find (partnerId, code) = some e ∧ e.isActive = true := by
  simp only [planOf, List.mem_map, List.mem_filter, Table.mem_select, Bool.and_eq_true,
    decide_eq_true_eq, Table.find_eq_some]
  constructor
  · rintro ⟨e, ⟨⟨hmem, rfl⟩, hactive, hnew⟩, rfl⟩
    exact ⟨hnew, e, ⟨hmem, rfl⟩, hactive⟩
  · rintro ⟨hnew, e, ⟨hmem, hkey⟩, hactive⟩
    obtain ⟨rfl, rfl⟩ := Prod.mk.inj hkey
    exact ⟨e, ⟨⟨hmem, rfl⟩, hactive, hnew⟩, rfl⟩

variable (stored newId partnerId t)

theorem find_syncEntries_of_mem (hnodup : (codes incoming).Nodup) {r : DirectoryDto δ}
    (hr : r ∈ incoming) :
    (syncEntries stored newId partnerId t incoming).find (partnerId, trim r.code) =
      some (upserted stored newId partnerId (t.find (partnerId, trim r.code))
        ⟨trim r.code, r.data⟩) := by
  have hcodes : ((planOf [] incoming).upsert.map (·.code)).Nodup := by
    simpa [planOf, codes, Function.comp_def] using hnodup
  have hmem : ⟨trim r.code, r.data⟩ ∈ (planOf [] incoming).upsert := List.mem_map_of_mem hr
  have hsent : trim r.code ∈ codes incoming := List.mem_map_of_mem hr
  rw [find_syncEntries, find_upserts_of_mem hcodes hmem, Option.map_some, if_neg]
  rintro ⟨_, hoff⟩
  exact (mem_deactivate.mp hoff).1 hsent

theorem find_syncEntries_of_sent (hnodup : (codes incoming).Nodup) (hcode : code ∈ codes incoming) :
    ∃ r ∈ incoming, trim r.code = code ∧
      (syncEntries stored newId partnerId t incoming).find (partnerId, code) =
        some (upserted stored newId partnerId (t.find (partnerId, code)) ⟨code, r.data⟩) := by
  obtain ⟨r, hr, rfl⟩ := List.mem_map.mp hcode
  exact ⟨r, hr, rfl, find_syncEntries_of_mem stored newId partnerId t hnodup hr⟩

theorem find_syncEntries_of_notMem (hcode : code ∉ codes incoming) :
    (syncEntries stored newId partnerId t incoming).find (partnerId, code) =
      (t.find (partnerId, code)).map .off := by
  have hne : ∀ r ∈ (planOf [] incoming).upsert, (partnerId, code) ≠ (partnerId, r.code) := by
    intro r hr heq
    obtain ⟨r₀, hr₀, rfl⟩ := List.mem_map.mp hr
    exact hcode (List.mem_map.mpr ⟨r₀, hr₀, (congrArg Prod.snd heq).symm⟩)
  rw [find_syncEntries, find_upserts_of_ne hne]
  cases hfind : t.find (partnerId, code) with
  | none => rfl
  | some e =>
    obtain ⟨rfl, rfl⟩ := Prod.mk.inj (Table.find_eq_some.mp hfind).2
    simp only [Option.map_some, Option.some.injEq, true_and]
    split_ifs with hoff
    · rfl
    · have hinactive : e.isActive = false := by
        by_contra hactive
        rw [Bool.not_eq_false] at hactive
        exact hoff (mem_deactivate.mpr ⟨hcode, e, hfind, hactive⟩)
      exact (PartnerEntry.off_self hinactive).symm

theorem find_syncEntries_of_ne {k : PartnerId × List Char} (hk : k.1 ≠ partnerId) :
    (syncEntries stored newId partnerId t incoming).find k = t.find k := by
  rw [find_syncEntries, find_upserts_of_ne fun r _ heq => hk (congrArg Prod.fst heq)]
  cases hfind : t.find k with
  | none => rfl
  | some e =>
    have hpartner : e.partnerId ≠ partnerId := fun heq =>
      hk ((congrArg Prod.fst (Table.find_eq_some.mp hfind).2).symm.trans heq)
    rw [Option.map_some, if_neg fun hoff => hpartner hoff.1]

end Entries

/-! ## A mirror -/

/-- The stored list of a partner, before and after, mirrors the list that was sent. -/
structure Mirrors {δ : Type} (stored : δ → δ) (partnerId : PartnerId)
    (incoming : List (DirectoryDto δ)) (t t' : Table (PartnerEntry.key (δ := δ))) : Prop where
  /-- The active entries are those that were sent. -/
  active : ∀ code data, (∃ e ∈ t', e.partnerId = partnerId ∧ e.isActive = true ∧ e.code = code ∧
    e.data = data) ↔ ∃ r ∈ incoming, trim r.code = code ∧ stored r.data = data
  /-- No entry is deleted, and every entry keeps its id. -/
  kept : ∀ e ∈ t, ∃ e' ∈ t', e'.key = e.key ∧ e'.id = e.id
  /-- An inactive entry was stored before, with the same data. -/
  inactive : ∀ e' ∈ t', e'.partnerId = partnerId → e'.isActive = false → ∃ e ∈ t, e' = e.off
  /-- The entries of other partners are unchanged. -/
  others : ∀ e, e.partnerId ≠ partnerId → (e ∈ t' ↔ e ∈ t)

section Mirror

variable {δ : Type} (stored : δ → δ) (newId : List Char → EntryId) (partnerId : PartnerId)
  (t : Table (PartnerEntry.key (δ := δ))) {incoming : List (DirectoryDto δ)}

theorem syncEntries_mirrors (hnodup : (codes incoming).Nodup) :
    Mirrors stored partnerId incoming t (syncEntries stored newId partnerId t incoming) where
  active code data := by
    constructor
    · rintro ⟨e, hmem, rfl, hactive, rfl, rfl⟩
      have hfind := Table.find_key hmem
      rw [PartnerEntry.key] at hfind
      by_cases hcode : e.code ∈ codes incoming
      · obtain ⟨r, hr, hrcode, hsync⟩ :=
          find_syncEntries_of_sent stored newId e.partnerId t hnodup hcode
        have he := Option.some.inj (hsync.symm.trans hfind)
        exact ⟨r, hr, hrcode, congrArg PartnerEntry.data he⟩
      · rw [find_syncEntries_of_notMem stored newId e.partnerId t hcode] at hfind
        obtain ⟨e₀, _, rfl⟩ := Option.map_eq_some_iff.mp hfind
        cases hactive
    · rintro ⟨r, hr, rfl, rfl⟩
      have hfind := find_syncEntries_of_mem stored newId partnerId t hnodup hr
      exact ⟨_, (Table.find_eq_some.mp hfind).1, rfl, rfl, rfl, rfl⟩
  kept e he := by
    have hfind := Table.find_key he
    by_cases hpartner : e.partnerId = partnerId
    · subst hpartner
      rw [PartnerEntry.key] at hfind
      by_cases hcode : e.code ∈ codes incoming
      · obtain ⟨r, _, _, hsync⟩ := find_syncEntries_of_sent stored newId e.partnerId t hnodup hcode
        rw [hfind] at hsync
        exact ⟨_, (Table.find_eq_some.mp hsync).1, rfl, rfl⟩
      · have hsync := find_syncEntries_of_notMem stored newId e.partnerId t hcode
        rw [hfind] at hsync
        exact ⟨e.off, (Table.find_eq_some.mp hsync).1, rfl, rfl⟩
    · rw [← find_syncEntries_of_ne stored newId partnerId t (k := e.key) hpartner] at hfind
      exact ⟨e, (Table.find_eq_some.mp hfind).1, rfl, rfl⟩
  inactive e hmem hpartner hinactive := by
    subst hpartner
    have hfind := Table.find_key hmem
    rw [PartnerEntry.key] at hfind
    by_cases hcode : e.code ∈ codes incoming
    · obtain ⟨r, _, _, hsync⟩ := find_syncEntries_of_sent stored newId e.partnerId t hnodup hcode
      have he := Option.some.inj (hsync.symm.trans hfind)
      rw [← he] at hinactive
      cases hinactive
    · rw [find_syncEntries_of_notMem stored newId e.partnerId t hcode] at hfind
      obtain ⟨e₀, hfind₀, rfl⟩ := Option.map_eq_some_iff.mp hfind
      exact ⟨e₀, (Table.find_eq_some.mp hfind₀).1, rfl⟩
  others e hpartner := by
    have hkey : e.key.1 ≠ partnerId := hpartner
    rw [Table.mem_iff_find, Table.mem_iff_find,
      find_syncEntries_of_ne stored newId partnerId t hkey]

variable (incoming) in
/-- After a sync of a list nothing is to be switched off for it. -/
theorem deactivate_again :
    (planOf ((syncEntries stored newId partnerId t incoming).select fun e =>
      decide (e.partnerId = partnerId)) incoming).deactivate = [] := by
  refine List.eq_nil_iff_forall_not_mem.mpr fun code hoff => ?_
  obtain ⟨hcode, e, hfind, hactive⟩ := mem_deactivate.mp hoff
  rw [find_syncEntries_of_notMem stored newId partnerId t hcode] at hfind
  obtain ⟨e₀, _, rfl⟩ := Option.map_eq_some_iff.mp hfind
  cases hactive

/-- After a sync of a list every entry of it is as it was sent. -/
theorem syncEntries_again (hnodup : (codes incoming).Nodup) (newId' : List Char → EntryId) :
    syncEntries stored newId' partnerId (syncEntries stored newId partnerId t incoming) incoming =
      syncEntries stored newId partnerId t incoming := by
  have hupserts : ∀ r ∈ (planOf [] incoming).upsert, ∃ e,
      (syncEntries stored newId partnerId t incoming).find (partnerId, r.code) = some e ∧
        e.data = stored r.data ∧ e.isActive = true := by
    intro r hr
    obtain ⟨r₀, hr₀, rfl⟩ := List.mem_map.mp hr
    exact ⟨_, find_syncEntries_of_mem stored newId partnerId t hnodup hr₀, rfl, rfl⟩
  have hoff := deactivate_again stored newId partnerId t incoming
  rw [syncEntries, applyPlan, hoff, Table.updateMany_eq_self]
  · exact upserts_eq_self hupserts
  · refine List.filter_eq_nil_iff.mpr fun e _ => ?_
    simp

end Mirror

/-! ## The service -/

section Sync

variable (newId : List Char → EntryId) (d : DirectoryStore) (partnerId : PartnerId)
  {dto : ConnectPartnerDirectoryDto}

theorem sync_ok (hacc : (codes dto.accounts).Nodup) (hcus : (codes dto.customers).Nodup) :
    sync newId d partnerId dto =
      (.ok
        { accounts := ⟨dto.accounts.length, (planOf (d.accounts.select fun e =>
            decide (e.partnerId = partnerId)) dto.accounts).deactivate.length⟩
          customers := ⟨dto.customers.length, (planOf (d.customers.select fun e =>
            decide (e.partnerId = partnerId)) dto.customers).deactivate.length⟩ },
        { accounts := syncEntries .stored newId partnerId d.accounts dto.accounts
          customers := syncEntries .stored newId partnerId d.customers dto.customers }) := by
  simp only [sync, planDirectorySync_ok _ hacc, planDirectorySync_ok _ hcus]
  simp [planOf, syncEntries]

/-- A list with a repeated code is refused before anything is written. -/
theorem sync_error (h : ¬(codes dto.accounts).Nodup ∨ ¬(codes dto.customers).Nodup) :
    ∃ c, (List.Duplicate c (codes dto.accounts) ∨ List.Duplicate c (codes dto.customers)) ∧
      sync newId d partnerId dto = (.error (codeTwice c), d) := by
  by_cases hacc : (codes dto.accounts).Nodup
  · have hcus := h.resolve_left (not_not_intro hacc)
    obtain ⟨c, hdup, herror⟩ := planDirectorySync_error
      (d.customers.select fun e => decide (e.partnerId = partnerId)) hcus
    exact ⟨c, Or.inr hdup, by simp only [sync, planDirectorySync_ok _ hacc, herror]⟩
  · obtain ⟨c, hdup, herror⟩ := planDirectorySync_error
      (d.accounts.select fun e => decide (e.partnerId = partnerId)) hacc
    exact ⟨c, Or.inl hdup, by simp only [sync, herror]⟩

/-- **A sync mirrors both lists and is then without effect, or it is refused and changes
nothing.** -/
theorem sync_mirrors (newId : List Char → EntryId) (d : DirectoryStore) (partnerId : PartnerId)
    (dto : ConnectPartnerDirectoryDto) :
    (∀ answer d', sync newId d partnerId dto = (.ok answer, d') →
      Mirrors PartnerAccountData.stored partnerId dto.accounts d.accounts d'.accounts ∧
      Mirrors PartnerCustomerData.stored partnerId dto.customers d.customers d'.customers ∧
      ∀ newId', sync newId' d' partnerId dto =
        (.ok ⟨⟨dto.accounts.length, 0⟩, ⟨dto.customers.length, 0⟩⟩, d')) ∧
    (¬(codes dto.accounts).Nodup ∨ ¬(codes dto.customers).Nodup →
      ∃ c, (List.Duplicate c (codes dto.accounts) ∨ List.Duplicate c (codes dto.customers)) ∧
        sync newId d partnerId dto = (.error (codeTwice c), d)) ∧
    ((codes dto.accounts).Nodup → (codes dto.customers).Nodup →
      ∃ answer d', sync newId d partnerId dto = (.ok answer, d')) := by
  refine ⟨fun answer d' hsync => ?_, sync_error newId d partnerId, fun hacc hcus =>
    ⟨_, _, sync_ok newId d partnerId hacc hcus⟩⟩
  by_cases h : ¬(codes dto.accounts).Nodup ∨ ¬(codes dto.customers).Nodup
  · obtain ⟨c, _, herror⟩ := sync_error newId d partnerId h
    rw [herror] at hsync
    cases hsync
  · push Not at h
    obtain ⟨hacc, hcus⟩ := h
    rw [sync_ok newId d partnerId hacc hcus] at hsync
    obtain rfl := congrArg Prod.snd hsync
    refine ⟨syncEntries_mirrors _ newId partnerId d.accounts hacc,
      syncEntries_mirrors _ newId partnerId d.customers hcus, fun newId' => ?_⟩
    rw [sync_ok newId' _ partnerId hacc hcus]
    simp only [deactivate_again, syncEntries_again _ _ _ _ hacc, syncEntries_again _ _ _ _ hcus]
    rfl

end Sync

end PartnerDirectoryService

end KarsHotel
