import KarsHotel.Connectivity.ContractPrices

/-!
# The contract mirror equals what was sent

* `ConnectContractPricesDto.Says`: a row holds what a document says; `Storable`: some row can;
* `writeIncoming_ok`, `writeIncoming_error`: what one turn of the loop does to the rows
  under a text;
* `writeAll_ok`, `writeAll_error`: the loop, by induction on the entries;
* **`mirrored_iff`**: when a sync leaves one row per document; **`contractMirror_iff`**: after any
  sequence of calls.
-/

namespace KarsHotel

/-! ## What a document says -/

/-- The row holds what the document says. -/
structure ConnectContractPricesDto.Says (dto : ConnectContractPricesDto) (doc : ContractDocument) :
    Prop where
  contractNumber : doc.contractNumber = dto.contractNumber
  amendmentNumber : doc.amendmentNumber = dto.amendmentNumber.toOption
  service : doc.service = dto.service
  validFrom : dto.validFrom.newDate = some doc.validFrom
  validTo : dto.validTo.toOption.map IsoText.newDate = doc.validTo.map some
  vatRate : dto.vatRate.toOption = doc.vatRate.map fun v : ℤ => (v : ℚ) / 100
  accountCode : doc.accountCode = dto.account.toOption.map (·.code)
  accountName : doc.accountName = dto.account.toOption.map (·.name)
  rows : doc.rows = dto.rows
  fill : doc.fill = dto.fill.toOption

/-- The columns can hold what the document says: its dates are dates, its rate is a number of whole
hundredths below 1000. -/
def Storable (accepts : ContractDocument → Bool) (dto : ConnectContractPricesDto) : Prop :=
  ∃ doc, dto.Says doc ∧ (∀ v ∈ doc.vatRate, v.natAbs < 100000) ∧ accepts doc = true

theorem ok_bind {ε α β : Type} (a : α) (f : α → Except ε β) :
    (Except.ok a >>= f : Except ε β) = f a :=
  rfl

theorem floor_add_half (v : ℤ) : ((v : ℚ) + 1 / 2).floor = v := by
  have hle : v ≤ ((v : ℚ) + 1 / 2).floor := Rat.le_floor_iff.mpr (by linarith)
  have hlt : (((v : ℚ) + 1 / 2).floor : ℚ) < ((v + 1 : ℤ) : ℚ) := by
    have hfloor := Rat.floor_le ((v : ℚ) + 1 / 2)
    push_cast
    linarith
  exact le_antisymm (Int.lt_add_one_iff.mp (Rat.intCast_lt_intCast.mp hlt)) hle

theorem hundredths_div (v : ℤ) : hundredths ((v : ℚ) / 100) = v := by
  unfold hundredths
  split_ifs with hv
  · rw [div_mul_cancel₀ _ (by norm_num : (100 : ℚ) ≠ 0)]
    exact floor_add_half v
  · have hneg : -((v : ℚ) / 100) * 100 = ((-v : ℤ) : ℚ) := by
      push_cast
      ring
    rw [hneg, floor_add_half]
    exact neg_neg v

namespace ConnectContractPricesDto

variable {dto : ConnectContractPricesDto} {doc : ContractDocument}

theorem argument_ok {t : IsoText} {m : Moment} : t.argument = .ok m ↔ t.newDate = some m := by
  unfold IsoText.argument
  cases t.newDate <;> simp

theorem Says.columns (h : dto.Says doc) (hrate : ∀ v ∈ doc.vatRate, v.natAbs < 100000) :
    dto.columns = .ok doc := by
  have hto : dto.validTo.traverse IsoText.argument = .ok doc.validTo := by
    have hdate := h.validTo
    unfold Field.traverse
    cases hfield : dto.validTo with
    | undefined | null =>
      rw [hfield] at hdate
      rw [Option.map_eq_none_iff.mp hdate.symm]
    | val t =>
      rw [hfield] at hdate
      obtain ⟨m, hm, hnew⟩ := Option.map_eq_some_iff.mp hdate.symm
      dsimp only
      rw [argument_ok.mpr hnew.symm, hm]
      rfl
  have hvat : dto.vatRate.traverse numeric = .ok doc.vatRate := by
    have hnumber := h.vatRate
    unfold Field.traverse
    cases hfield : dto.vatRate with
    | undefined | null =>
      rw [hfield] at hnumber
      rw [Option.map_eq_none_iff.mp hnumber.symm]
    | val x =>
      rw [hfield] at hnumber
      obtain ⟨v, hv, hx⟩ := Option.map_eq_some_iff.mp hnumber.symm
      dsimp only
      rw [← hx, numeric, hundredths_div, if_pos (hrate v hv), hv]
      rfl
  unfold ConnectContractPricesDto.columns
  rw [argument_ok.mpr h.validFrom, hto, hvat]
  show Except.ok _ = Except.ok _
  congr 1
  obtain ⟨contractNumber, amendmentNumber, service, validFrom, validTo, vatRate, code, name, rows,
    fill⟩ := doc
  obtain ⟨rfl, rfl, rfl, -, -, -, rfl, rfl, rfl, rfl⟩ := h
  rfl

theorem key_of_columns (h : dto.columns = .ok doc) : dto.key = some doc.key := by
  obtain ⟨m, hm, h⟩ := bind_ok_iff.mp h
  obtain ⟨validTo, -, h⟩ := bind_ok_iff.mp h
  obtain ⟨vatRate, -, h⟩ := bind_ok_iff.mp h
  obtain rfl := Except.ok.inj h
  unfold ConnectContractPricesDto.key
  rw [argument_ok.mp hm]
  rfl

theorem Says.key (h : dto.Says doc) : dto.key = some doc.key := by
  unfold ConnectContractPricesDto.key ContractDocument.key
  rw [h.validFrom, h.contractNumber, h.amendmentNumber, h.service]
  rfl

theorem rate_of_columns (h : dto.columns = .ok doc) : ∀ v ∈ doc.vatRate, v.natAbs < 100000 := by
  obtain ⟨m, -, h⟩ := bind_ok_iff.mp h
  obtain ⟨validTo, -, h⟩ := bind_ok_iff.mp h
  obtain ⟨vatRate, hrate, h⟩ := bind_ok_iff.mp h
  obtain rfl := Except.ok.inj h
  intro v hv
  unfold Field.traverse at hrate
  cases hfield : dto.vatRate with
  | undefined | null =>
    rw [hfield] at hrate
    obtain rfl := Except.ok.inj hrate
    cases hv
  | val x =>
    rw [hfield] at hrate
    unfold numeric at hrate
    dsimp only at hrate
    split_ifs at hrate with hrange
    · obtain rfl := Except.ok.inj hrate
      obtain rfl := Option.some.inj hv
      exact hrange
    · cases hrate

end ConnectContractPricesDto

theorem keyOf_eq (d : ContractDocument) : keyOf d = d.key.text := rfl

/-- The text of a document sent, where its start is a date. -/
def ConnectContractPricesDto.text (dto : ConnectContractPricesDto) : Option String :=
  dto.key.map DocumentKey.text

theorem text_of_columns {dto : ConnectContractPricesDto} {doc : ContractDocument}
    (h : dto.columns = .ok doc) : dto.text = some (keyOf doc) := by
  rw [ConnectContractPricesDto.text, ConnectContractPricesDto.key_of_columns h]
  rfl

theorem ContractPriceData.eq_of_indexKey {d d' : ContractPriceData}
    (h : d.indexKey = d'.indexKey) :
    d.tenantId = d'.tenantId ∧ d.partnerId = d'.partnerId ∧ d.doc.key = d'.doc.key := by
  simp only [indexKey, Prod.mk.injEq] at h
  obtain ⟨ht, hp, hc, ha, hs, hf⟩ := h
  exact ⟨ht, hp, by unfold ContractDocument.key; rw [hc, ha, hs, hf]⟩

/-! ## The rows under a text -/

section Under

variable (s : ContractPrices) (tenantId : TenantId) (partnerId : PartnerId)

/-- The rows of a partner at a hotel that the sync reads under a text. -/
def under (text : String) : List PartnerContractPrice :=
  s.select fun r => r.ofPair tenantId partnerId && keyOf r.doc = text

/-- The documents under a text that a sync does not write to: all but the last one read. -/
def leftAlone (text : String) : List ContractDocument :=
  (under s tenantId partnerId text).dropLast.map (·.doc)

variable {s tenantId partnerId}

theorem mem_under {text : String} {r : PartnerContractPrice} :
    r ∈ under s tenantId partnerId text ↔
      r ∈ s ∧ r.ofPair tenantId partnerId = true ∧ keyOf r.doc = text := by
  simp [under]

theorem ofPair_iff {d : ContractPriceData} :
    d.ofPair tenantId partnerId = true ↔ d.tenantId = tenantId ∧ d.partnerId = partnerId := by
  simp [ContractPriceData.ofPair]

theorem filter_documentsOf (k : DocumentKey) :
    (s.documentsOf tenantId partnerId).filter (fun d => d.key = k) =
      ((under s tenantId partnerId k.text).map (·.doc)).filter fun d => d.key = k := by
  unfold ContractPrices.documentsOf under Table.select
  rw [List.filter_map, List.filter_map, List.filter_filter, List.filter_filter]
  congr 1
  refine List.filter_congr fun r _ => ?_
  by_cases hk : r.doc.key = k
  · have htext : keyOf r.doc = k.text := by rw [keyOf_eq, hk]
    simp [hk, htext]
  · simp [hk]

end Under

/-! ## One turn of the loop -/

section Turn

variable {accepts : ContractDocument → Bool} {s : ContractPrices} {tenantId : TenantId}
  {partnerId : PartnerId} {text : String} {data : ContractPriceData}

/-- Data of the pair for a document of the text. -/
structure Filed (data : ContractPriceData) (tenantId : TenantId) (partnerId : PartnerId)
    (text : String) : Prop where
  pair : data.ofPair tenantId partnerId = true
  text : keyOf data.doc = text

/-- Data the columns take and no row left alone clashes with. -/
structure Writable (accepts : ContractDocument → Bool) (s : ContractPrices) (tenantId : TenantId)
    (partnerId : PartnerId) (text : String) (data : ContractPriceData) : Prop where
  fits : accepts data.doc = true
  free : ∀ r ∈ (under s tenantId partnerId text).dropLast, r.indexKey ≠ data.indexKey

/-- A test that no data of the pair under the text passes. -/
def Elsewhere (tenantId : TenantId) (partnerId : PartnerId) (text : String)
    (p : PartnerContractPrice → Bool) : Prop :=
  ∀ r : PartnerContractPrice, Filed r.toContractPriceData tenantId partnerId text → p r = false

theorem elsewhere_under {text' : String} (h : text' ≠ text) :
    Elsewhere tenantId partnerId text fun r => r.ofPair tenantId partnerId && keyOf r.doc = text' := by
  intro r hr
  have hne : keyOf r.doc ≠ text' := fun htext => h (htext.symm.trans hr.text)
  simp [hne]

theorem elsewhere_others : Elsewhere tenantId partnerId text fun r => !r.ofPair tenantId partnerId := by
  intro r hr
  simp [hr.pair]

theorem Filed.mem_under (hd : Filed data tenantId partnerId text) {r : PartnerContractPrice}
    (hr : r ∈ s) (h : r.indexKey = data.indexKey) : r ∈ under s tenantId partnerId text := by
  obtain ⟨ht, hp, hkey⟩ := ContractPriceData.eq_of_indexKey h
  obtain ⟨ht', hp'⟩ := ofPair_iff.mp hd.pair
  refine KarsHotel.mem_under.mpr ⟨hr, ofPair_iff.mpr ⟨ht.trans ht', hp.trans hp'⟩, ?_⟩
  rw [keyOf_eq, hkey, ← keyOf_eq]
  exact hd.text

/-- The index refuses to rewrite the last row under the text when another row there clashes. -/
theorem Filed.clash (hd : Filed data tenantId partnerId text) {l : List PartnerContractPrice}
    {x : PartnerContractPrice} (hu : under s tenantId partnerId text = l ++ [x]) :
    (s.rows.any fun r => r.id ≠ x.id && r.indexKey = data.indexKey) = true ↔
      ∃ r ∈ l, r.indexKey = data.indexKey := by
  simp only [List.any_eq_true, Bool.and_eq_true, decide_eq_true_eq]
  constructor
  · rintro ⟨r, hr, hne, hkey⟩
    have hmem := hd.mem_under hr hkey
    rw [hu, List.mem_append, List.mem_singleton] at hmem
    rcases hmem with hmem | rfl
    · exact ⟨r, hmem, hkey⟩
    · exact absurd rfl hne
  · rintro ⟨r, hr, hkey⟩
    have hmem : r ∈ under s tenantId partnerId text := by rw [hu]; simp [hr]
    exact ⟨r, (KarsHotel.mem_under.mp hmem).1, Table.key_ne_last hu r hr, hkey⟩

/-- What a write leaves: under the text the rows left alone and the data, elsewhere what was. -/
structure Written (s s' : ContractPrices) (tenantId : TenantId) (partnerId : PartnerId)
    (text : String) (doc : ContractDocument) : Prop where
  under : (under s' tenantId partnerId text).map (·.doc) =
    leftAlone s tenantId partnerId text ++ [doc]
  elsewhere : ∀ p, Elsewhere tenantId partnerId text p → s'.select p = s.select p

theorem update_ok (hd : Filed data tenantId partnerId text) {l : List PartnerContractPrice}
    {x : PartnerContractPrice} (hu : under s tenantId partnerId text = l ++ [x])
    (hw : Writable accepts s tenantId partnerId text data) :
    ∃ s', ContractPrices.update accepts s x.id data = .ok s' ∧
      Written s s' tenantId partnerId text data.doc := by
  have hfree : ¬ ∃ r ∈ l, r.indexKey = data.indexKey := by
    rintro ⟨r, hr, hkey⟩
    exact hw.free r (by rw [hu]; simpa using hr) hkey
  have hx := mem_under.mp (show x ∈ under s tenantId partnerId text by rw [hu]; simp)
  unfold ContractPrices.update
  rw [if_neg (by simp [hw.fits]), if_neg (by rw [hd.clash hu]; exact hfree)]
  refine ⟨_, rfl, ?_, fun p hp => ?_⟩
  · have hlast := @Table.select_modify_last _ _ _ _ s (fun r : PartnerContractPrice =>
      ({ data with id := r.id } : PartnerContractPrice)) (fun _ => rfl) _ l x hu
      (by simp [hd.pair, hd.text])
    unfold under leftAlone
    rw [hlast, hu]
    simp
  · refine Table.select_modify_of_not fun r hr hid => ?_
    have heq : r = x := Table.eq_of_key hr hx.1 hid
    subst heq
    exact ⟨hp r ⟨hx.2.1, hx.2.2⟩, hp _ hd⟩

theorem update_error (hd : Filed data tenantId partnerId text) {l : List PartnerContractPrice}
    {x : PartnerContractPrice} (hu : under s tenantId partnerId text = l ++ [x])
    (hw : ¬ Writable accepts s tenantId partnerId text data) :
    ∃ x', ContractPrices.update accepts s x.id data = .error x' := by
  unfold ContractPrices.update
  by_cases hfits : accepts data.doc = false
  · exact ⟨_, if_pos hfits⟩
  · have hclash : ∃ r ∈ l, r.indexKey = data.indexKey := by
      by_contra hfree
      refine hw ⟨by simpa using hfits, fun r hr hkey => hfree ⟨r, ?_, hkey⟩⟩
      rw [hu] at hr
      simpa using hr
    rw [if_neg hfits, if_pos ((hd.clash hu).mpr hclash)]
    exact ⟨_, rfl⟩

theorem create_ok (hd : Filed data tenantId partnerId text)
    (hu : under s tenantId partnerId text = []) (hfits : accepts data.doc = true) :
    ∃ s', ContractPrices.create accepts s data = .ok s' ∧
      Written s s' tenantId partnerId text data.doc := by
  have hfree : ¬ (s.rows.any fun r => r.indexKey = data.indexKey) = true := by
    simp only [List.any_eq_true, decide_eq_true_eq]
    rintro ⟨r, hr, hkey⟩
    have hmem := hd.mem_under hr hkey
    rw [hu] at hmem
    exact List.not_mem_nil hmem
  unfold ContractPrices.create
  rw [if_neg (by simp [hfits]), if_neg hfree]
  have hinsert := Table.select_insert (r := ({ data with id := s.fresh } : PartnerContractPrice))
    (Table.find_fresh s)
  refine ⟨_, rfl, ?_, fun p hp => ?_⟩
  · unfold leftAlone
    rw [hu]
    unfold under at hu ⊢
    rw [hinsert, hu]
    simp [hd.pair, hd.text]
  · rw [hinsert]
    have hnot : p { data with id := s.fresh } = false := hp _ hd
    simp [hnot]

/-- An entry whose columns are known, and no row left alone clashes with. -/
def Takes (accepts : ContractDocument → Bool) (s : ContractPrices) (tenantId : TenantId)
    (partnerId : PartnerId) (now : Moment) (e : String × ConnectContractPricesDto)
    (doc : ContractDocument) : Prop :=
  e.2.columns = .ok doc ∧ Writable accepts s tenantId partnerId e.1 ⟨tenantId, partnerId, doc, now⟩

theorem filed_columns {now : Moment} {e : String × ConnectContractPricesDto}
    {doc : ContractDocument} (htext : e.2.text = some e.1) (hcolumns : e.2.columns = .ok doc) :
    Filed ⟨tenantId, partnerId, doc, now⟩ tenantId partnerId e.1 :=
  ⟨ofPair_iff.mpr ⟨rfl, rfl⟩, Option.some.inj ((text_of_columns hcolumns).symm.trans htext)⟩

/-- **One turn of the loop.** -/
theorem writeIncoming_ok {now : Moment} {byKey : EntryMap String ℕ}
    {e : String × ConnectContractPricesDto} {doc : ContractDocument} (htext : e.2.text = some e.1)
    (hget : byKey.get e.1 = (under s tenantId partnerId e.1).getLast?.map (·.id))
    (hw : Takes accepts s tenantId partnerId now e doc) :
    ∃ s', writeIncoming accepts tenantId partnerId now byKey s e = .ok s' ∧
      Written s s' tenantId partnerId e.1 doc := by
  obtain ⟨hcolumns, hw⟩ := hw
  have hd : Filed ⟨tenantId, partnerId, doc, now⟩ tenantId partnerId e.1 :=
    filed_columns htext hcolumns
  unfold writeIncoming
  rw [hcolumns, ok_bind]
  rcases List.eq_nil_or_concat (under s tenantId partnerId e.1) with hu | ⟨l, x, hu⟩
  · rw [hget, hu]
    exact create_ok hd hu hw.fits
  · rw [List.concat_eq_append] at hu
    rw [hget, hu, List.getLast?_append]
    exact update_ok hd hu hw

theorem writeIncoming_error {now : Moment} {byKey : EntryMap String ℕ}
    {e : String × ConnectContractPricesDto} (htext : e.2.text = some e.1)
    (hget : byKey.get e.1 = (under s tenantId partnerId e.1).getLast?.map (·.id))
    (hw : ¬ ∃ doc, Takes accepts s tenantId partnerId now e doc) :
    ∃ x, writeIncoming accepts tenantId partnerId now byKey s e = .error x := by
  unfold writeIncoming
  cases hcolumns : e.2.columns with
  | error x => exact ⟨x, rfl⟩
  | ok doc =>
  have hw : ¬ Writable accepts s tenantId partnerId e.1 ⟨tenantId, partnerId, doc, now⟩ :=
    fun h => hw ⟨doc, hcolumns, h⟩
  have hd : Filed ⟨tenantId, partnerId, doc, now⟩ tenantId partnerId e.1 :=
    filed_columns htext hcolumns
  rw [ok_bind, hget]
  rcases List.eq_nil_or_concat (under s tenantId partnerId e.1) with hu | ⟨l, x, hu⟩
  · have hfits : accepts doc = false := by
      by_contra h
      exact hw ⟨by simpa using h, by rw [hu]; simp⟩
    rw [hu]
    exact ⟨_, if_pos hfits⟩
  · rw [List.concat_eq_append] at hu
    rw [hu, List.getLast?_append]
    exact update_error hd hu hw

end Turn

/-! ## The loop -/

section Loop

variable {accepts : ContractDocument → Bool} {tenantId : TenantId} {partnerId : PartnerId}
  {now : Moment} {byKey : EntryMap String ℕ}

/-- Entries still to be written: each under its text, and the map read before names the last row
there. -/
structure ToWrite (byKey : EntryMap String ℕ) (s : ContractPrices) (tenantId : TenantId)
    (partnerId : PartnerId) (es : List (String × ConnectContractPricesDto)) : Prop where
  nodup : (es.map Prod.fst).Nodup
  text : ∀ e ∈ es, e.2.text = some e.1
  get : ∀ e ∈ es, byKey.get e.1 = (under s tenantId partnerId e.1).getLast?.map (·.id)

theorem ToWrite.tail {s s' : ContractPrices} {e : String × ConnectContractPricesDto}
    {es : List (String × ConnectContractPricesDto)} {doc : ContractDocument}
    (h : ToWrite byKey s tenantId partnerId (e :: es))
    (hs : Written s s' tenantId partnerId e.1 doc) :
    ToWrite byKey s' tenantId partnerId es ∧
      ∀ e' ∈ es, under s' tenantId partnerId e'.1 = under s tenantId partnerId e'.1 := by
  have hnodup := List.nodup_cons.mp h.nodup
  have hsame : ∀ e' ∈ es, under s' tenantId partnerId e'.1 = under s tenantId partnerId e'.1 := by
    intro e' he'
    have hne : e'.1 ≠ e.1 := fun heq => hnodup.1 (heq ▸ List.mem_map_of_mem he')
    exact hs.elsewhere _ (elsewhere_under hne)
  refine ⟨⟨hnodup.2, fun e' he' => h.text e' (List.mem_cons_of_mem _ he'), fun e' he' => ?_⟩, hsame⟩
  rw [hsame e' he']
  exact h.get e' (List.mem_cons_of_mem _ he')

theorem takes_congr {s s' : ContractPrices} {e : String × ConnectContractPricesDto}
    {doc : ContractDocument}
    (h : under s' tenantId partnerId e.1 = under s tenantId partnerId e.1) :
    Takes accepts s' tenantId partnerId now e doc ↔ Takes accepts s tenantId partnerId now e doc := by
  constructor <;> rintro ⟨hcolumns, hw⟩ <;> refine ⟨hcolumns, hw.fits, ?_⟩
  · exact h ▸ hw.free
  · exact h.symm ▸ hw.free

variable (accepts now) in
/-- **The loop.** Every entry is written under its text, and nothing else changes. -/
theorem writeAll_ok {es : List (String × ConnectContractPricesDto)} {s : ContractPrices}
    (h : ToWrite byKey s tenantId partnerId es)
    (hw : ∀ e ∈ es, ∃ doc, Takes accepts s tenantId partnerId now e doc) :
    ∃ s', es.foldlM (writeIncoming accepts tenantId partnerId now byKey) s = .ok s' ∧
      (∀ e ∈ es, ∃ doc, Takes accepts s tenantId partnerId now e doc ∧
        (under s' tenantId partnerId e.1).map (·.doc) =
          leftAlone s tenantId partnerId e.1 ++ [doc]) ∧
      ∀ p, (∀ e ∈ es, Elsewhere tenantId partnerId e.1 p) → s'.select p = s.select p := by
  induction es generalizing s with
  | nil => exact ⟨s, rfl, fun e he => absurd he List.not_mem_nil, fun _ _ => rfl⟩
  | cons e es ih =>
    obtain ⟨doc, hdoc⟩ := hw e List.mem_cons_self
    obtain ⟨s₁, hstep, hwritten⟩ := writeIncoming_ok (h.text e List.mem_cons_self)
      (h.get e List.mem_cons_self) hdoc
    obtain ⟨htail, hsame⟩ := h.tail hwritten
    obtain ⟨s', hrun, hunder, helse⟩ := ih htail fun e' he' =>
      (hw e' (List.mem_cons_of_mem _ he')).imp fun doc' => (takes_congr (hsame e' he')).mpr
    refine ⟨s', ?_, fun e' he' => ?_, fun p hp => ?_⟩
    · rw [List.foldlM_cons, hstep]
      exact hrun
    · rcases List.mem_cons.mp he' with rfl | he'
      · have hkeep : under s' tenantId partnerId e'.1 = under s₁ tenantId partnerId e'.1 := by
          refine helse _ fun e'' he'' => elsewhere_under fun heq => ?_
          exact (List.nodup_cons.mp h.nodup).1 (heq ▸ List.mem_map_of_mem he'')
        rw [hkeep]
        exact ⟨doc, hdoc, hwritten.under⟩
      · obtain ⟨doc', hdoc', hunder'⟩ := hunder e' he'
        refine ⟨doc', (takes_congr (hsame e' he')).mp hdoc', ?_⟩
        rw [hunder']
        unfold leftAlone
        rw [hsame e' he']
    · rw [helse p fun e' he' => hp e' (List.mem_cons_of_mem _ he')]
      exact hwritten.elsewhere p (hp e List.mem_cons_self)

variable (accepts now) in
/-- The loop fails when an entry cannot be written. -/
theorem writeAll_error {es : List (String × ConnectContractPricesDto)} {s : ContractPrices}
    (h : ToWrite byKey s tenantId partnerId es)
    (hw : ∃ e ∈ es, ¬ ∃ doc, Takes accepts s tenantId partnerId now e doc) :
    ∃ x, es.foldlM (writeIncoming accepts tenantId partnerId now byKey) s = .error x := by
  induction es generalizing s with
  | nil => exact absurd hw (by simp)
  | cons e es ih =>
    rw [List.foldlM_cons]
    by_cases hhead : ∃ doc, Takes accepts s tenantId partnerId now e doc
    · obtain ⟨doc, hdoc⟩ := hhead
      obtain ⟨s₁, hstep, hwritten⟩ := writeIncoming_ok (h.text e List.mem_cons_self)
        (h.get e List.mem_cons_self) hdoc
      obtain ⟨htail, hsame⟩ := h.tail hwritten
      obtain ⟨e', he', hnot⟩ := hw
      have he' : e' ∈ es := by
        rcases List.mem_cons.mp he' with rfl | he'
        · exact absurd ⟨doc, hdoc⟩ hnot
        · exact he'
      rw [hstep]
      exact ih htail ⟨e', he', fun hw' =>
        hnot (hw'.imp fun doc' => (takes_congr (hsame e' he')).mp)⟩
    · obtain ⟨x, hx⟩ := writeIncoming_error (h.text e List.mem_cons_self)
        (h.get e List.mem_cons_self) hhead
      rw [hx]
      exact ⟨x, rfl⟩

end Loop

/-! ## The sync -/

section Sync

variable (accepts : ContractDocument → Bool) (s : ContractPrices) (tenantId : TenantId)
  (documents : List ConnectContractPricesDto) (partnerId : PartnerId)

/-- The incoming document that stays in the map under a text. -/
def lastUnder (text : String) : Option ConnectContractPricesDto :=
  (documents.filter fun d => d.text = some text).getLast?

def lastSent (k : DocumentKey) : Option ConnectContractPricesDto :=
  (documents.filter fun d => d.key = some k).getLast?

/-- The rows are those of the document sent last, if one was sent, and hold what it says. -/
def HoldLast (rows : List ContractDocument) (k : DocumentKey) : Prop :=
  List.Forall₂ (fun doc d => ConnectContractPricesDto.Says d doc) rows (lastSent documents k).toList

/-- One row per distinct incoming document, with the data sent for it, and no other row. -/
def OneRowEach : Prop :=
  ∀ k, HoldLast documents ((s.documentsOf tenantId partnerId).filter fun d => d.key = k) k

/-- The rows of other partners and hotels. -/
def others : List PartnerContractPrice := s.select fun r => !r.ofPair tenantId partnerId

/-- **The mirror equals what was sent**: a sync at `now` succeeds, leaves one row per document and
the rows of others as they were, and repeated at `again` leaves the same documents. -/
def Mirrored (now again : Moment) : Prop :=
  ∃ result s', syncContractPrices accepts s tenantId documents partnerId now = .ok (result, s') ∧
    OneRowEach s' tenantId documents partnerId ∧
    others s' tenantId partnerId = others s tenantId partnerId ∧
    ∃ result' s'',
      syncContractPrices accepts s' tenantId documents partnerId again = .ok (result', s'') ∧
      (s''.documentsOf tenantId partnerId).Perm (s'.documentsOf tenantId partnerId) ∧
      others s'' tenantId partnerId = others s tenantId partnerId

/-- Every document starts on a date; and under each text of the set, the columns can hold the
document that stays in the map, and the rows the sync leaves alone are what the map lost: no copy of
that document, and of each other document what was sent for it. -/
structure Mergeable : Prop where
  dated : ∀ d ∈ documents, d.validFrom.newDate ≠ none
  fits : ∀ text d, lastUnder documents text = some d → Storable accepts d
  noCopy : ∀ text d, lastUnder documents text = some d →
    ∀ r ∈ leftAlone s tenantId partnerId text, d.key ≠ some r.key
  lost : ∀ text d, lastUnder documents text = some d →
    ∀ k : DocumentKey, k.text = text → d.key ≠ some k →
      HoldLast documents ((leftAlone s tenantId partnerId text).filter fun r => r.key = k) k

variable {documents} in
theorem mem_lastUnder {text : String} {d : ConnectContractPricesDto}
    (h : lastUnder documents text = some d) : d ∈ documents ∧ d.text = some text := by
  obtain ⟨hd, htext⟩ := List.mem_filter.mp (List.mem_of_getLast? h)
  exact ⟨hd, of_decide_eq_true htext⟩

end Sync

section Law

variable {accepts : ContractDocument → Bool} {s : ContractPrices} {tenantId : TenantId}
  {documents : List ConnectContractPricesDto} {partnerId : PartnerId} {now : Moment}

/-- The entries of the map: each document under its text. -/
structure Keyed (documents : List ConnectContractPricesDto)
    (es : List (String × ConnectContractPricesDto)) : Prop where
  documents : es.map Prod.snd = documents
  text : ∀ e ∈ es, e.2.text = some e.1

theorem keyed_ok (h : ∀ d ∈ documents, d.validFrom.newDate ≠ none) :
    ∃ es, keyed documents = .ok es ∧ Keyed documents es := by
  induction documents with
  | nil => exact ⟨[], rfl, rfl, fun e he => absurd he List.not_mem_nil⟩
  | cons d ds ih =>
    obtain ⟨es, hes, hkeyed⟩ := ih fun d' hd' => h d' (List.mem_cons_of_mem _ hd')
    obtain ⟨k, hk⟩ : ∃ k, d.key = some k := by
      obtain ⟨m, hm⟩ := Option.ne_none_iff_exists'.mp (h d List.mem_cons_self)
      exact ⟨_, congrArg (Option.map _) hm⟩
    refine ⟨(k.text, d) :: es, ?_, ?_, ?_⟩
    · unfold keyed at hes ⊢
      rw [List.mapM_cons, ConnectContractPricesDto.keyOf, hk, hes]
      rfl
    · rw [List.map_cons, hkeyed.documents]
    · intro e he
      rcases List.mem_cons.mp he with rfl | he
      · exact congrArg (Option.map _) hk
      · exact hkeyed.text e he

theorem keyed_error (h : ∃ d ∈ documents, d.validFrom.newDate = none) :
    ∃ x, keyed documents = .error x := by
  cases hes : keyed documents with
  | error x => exact ⟨x, rfl⟩
  | ok es =>
  obtain ⟨d, hd, hnone⟩ := h
  induction documents generalizing es with
  | nil => exact absurd hd List.not_mem_nil
  | cons d' ds ih =>
    unfold keyed at hes
    rw [List.mapM_cons] at hes
    obtain ⟨e, he, hes⟩ := bind_ok_iff.mp hes
    obtain ⟨es', hes', -⟩ := bind_ok_iff.mp hes
    rcases List.mem_cons.mp hd with rfl | hd
    · have hkey : d.keyOf = .error invalidTime := by
        unfold ConnectContractPricesDto.keyOf ConnectContractPricesDto.key
        rw [hnone]
        rfl
      rw [hkey] at he
      cases he
    · obtain ⟨x, hx⟩ := ih es' hes' hd
      cases hx

/-- The incoming documents as the loop goes through them. -/
def incomingRows (es : List (String × ConnectContractPricesDto)) :
    List (String × ConnectContractPricesDto) :=
  (EntryMap.ofEntries es).rows

theorem Keyed.lastEntry {es : List (String × ConnectContractPricesDto)} (h : Keyed documents es)
    (text : String) : lastEntry es text = lastUnder documents text := by
  have hfilter : es.filter (fun e => e.1 = text) = es.filter ((fun d => d.text = some text) ∘ Prod.snd) := by
    refine List.filter_congr fun e he => ?_
    rw [Function.comp_apply, h.text e he]
    simp
  rw [KarsHotel.lastEntry, hfilter, lastUnder, ← h.documents, List.filter_map, List.getLast?_map]

theorem Keyed.mem_incomingRows {es : List (String × ConnectContractPricesDto)}
    (h : Keyed documents es) {e : String × ConnectContractPricesDto} :
    e ∈ incomingRows es ↔ lastUnder documents e.1 = some e.2 := by
  unfold incomingRows
  rw [EntryMap.mem_rows, EntryMap.get_ofEntries, h.lastEntry]

/-- The table once the stale rows are deleted. -/
def cleared (s : ContractPrices) (tenantId : TenantId) (documents : List ConnectContractPricesDto)
    (partnerId : PartnerId) : ContractPrices :=
  s.remove fun r =>
    r.ofPair tenantId partnerId && (lastUnder documents (keyOf r.doc)).isNone

/-- The ids the sync read, by their texts. -/
def idsByText (s : ContractPrices) (tenantId : TenantId) (partnerId : PartnerId) :
    EntryMap String ℕ :=
  EntryMap.ofEntries ((s.select fun r => r.ofPair tenantId partnerId).map fun e =>
    (keyOf e.doc, e.id))

variable (accepts s tenantId partnerId now) in
/-- The sync deletes the stale rows and goes through the map. -/
theorem syncContractPrices_eq {es : List (String × ConnectContractPricesDto)}
    (hes : keyed documents = .ok es) (h : Keyed documents es) :
    ∃ result, syncContractPrices accepts s tenantId documents partnerId now =
      (incomingRows es).foldlM (writeIncoming accepts tenantId partnerId now
        (idsByText s tenantId partnerId)) (cleared s tenantId documents partnerId) >>=
        fun s' => .ok (result, s') := by
  have hclear : (s.remove fun r => ((s.select fun r => r.ofPair tenantId partnerId).filter fun e =>
      ((EntryMap.ofEntries es).get (keyOf e.doc)).isNone).any fun e => e.id = r.id) =
      cleared s tenantId documents partnerId := by
    unfold cleared Table.remove
    congr 1
    refine List.filter_congr fun r hr => ?_
    congr 1
    rw [Bool.eq_iff_iff, List.any_eq_true]
    simp only [EntryMap.get_ofEntries, h.lastEntry, List.mem_filter, Table.mem_select,
      decide_eq_true_eq, Bool.and_eq_true]
    constructor
    · rintro ⟨e, ⟨⟨he, hpair⟩, hnone⟩, hid⟩
      obtain rfl : e = r := Table.eq_of_key he hr hid
      exact ⟨hpair, hnone⟩
    · rintro ⟨hpair, hnone⟩
      exact ⟨r, ⟨⟨hr, hpair⟩, hnone⟩, rfl⟩
  unfold syncContractPrices
  rw [hes, ok_bind]
  simp only [hclear]
  exact ⟨_, rfl⟩

theorem get_idsByText (text : String) : (idsByText s tenantId partnerId).get text =
    (under s tenantId partnerId text).getLast?.map (·.id) := by
  have hrows : (s.select fun r => r.ofPair tenantId partnerId).filter (fun r => keyOf r.doc = text) =
      under s tenantId partnerId text := by
    unfold under Table.select
    rw [List.filter_filter]
    exact List.filter_congr fun r _ => Bool.and_comm _ _
  unfold idsByText
  rw [EntryMap.get_ofEntries, lastEntry, List.filter_map, List.getLast?_map, Option.map_map, ← hrows]
  rfl

theorem under_cleared {text : String} {d : ConnectContractPricesDto}
    (h : lastUnder documents text = some d) :
    under (cleared s tenantId documents partnerId) tenantId partnerId text =
      under s tenantId partnerId text := by
  unfold under cleared
  rw [Table.select_remove]
  refine List.filter_congr fun r _ => ?_
  by_cases htext : keyOf r.doc = text
  · simp [htext, h]
  · simp [htext]

theorem under_cleared_of_none {text : String} (h : lastUnder documents text = none) :
    under (cleared s tenantId documents partnerId) tenantId partnerId text = [] := by
  unfold under cleared
  rw [Table.select_remove, List.filter_eq_nil_iff]
  intro r _
  by_cases htext : keyOf r.doc = text
  · cases hpair : r.ofPair tenantId partnerId <;> simp [htext, h]
  · simp [htext]

theorem others_cleared : others (cleared s tenantId documents partnerId) tenantId partnerId =
    others s tenantId partnerId := by
  unfold others cleared
  rw [Table.select_remove]
  refine List.filter_congr fun r _ => ?_
  cases r.ofPair tenantId partnerId <;> simp

variable (s tenantId partnerId) in
theorem toWrite_cleared {es : List (String × ConnectContractPricesDto)} (h : Keyed documents es) :
    ToWrite (idsByText s tenantId partnerId) (cleared s tenantId documents partnerId) tenantId
      partnerId (incomingRows es) where
  nodup := (EntryMap.ofEntries _).nodup
  text e he := (mem_lastUnder (h.mem_incomingRows.mp he)).2
  get e he := by rw [get_idsByText, under_cleared (h.mem_incomingRows.mp he)]

/-- What a sync leaves: under each text the rows left alone and the document, under the other texts
nothing, and the rows of others as they were. -/
structure Synced (s s' : ContractPrices) (tenantId : TenantId)
    (documents : List ConnectContractPricesDto) (partnerId : PartnerId) : Prop where
  sent : ∀ text d, lastUnder documents text = some d → ∃ doc, d.columns = .ok doc ∧
    (under s' tenantId partnerId text).map (·.doc) = leftAlone s tenantId partnerId text ++ [doc]
  stale : ∀ text, lastUnder documents text = none → under s' tenantId partnerId text = []
  others : others s' tenantId partnerId = others s tenantId partnerId

variable (now) in
/-- **A sync that can write all its documents.** -/
theorem syncContractPrices_ok (hdated : ∀ d ∈ documents, d.validFrom.newDate ≠ none)
    (hw : ∀ text d, lastUnder documents text = some d →
      ∃ doc, Takes accepts s tenantId partnerId now (text, d) doc) :
    ∃ result s',
      syncContractPrices accepts s tenantId documents partnerId now = .ok (result, s') ∧
      Synced s s' tenantId documents partnerId := by
  obtain ⟨es, hes, hkeyed⟩ := keyed_ok hdated
  obtain ⟨result, heq⟩ := syncContractPrices_eq accepts s tenantId partnerId now hes hkeyed
  obtain ⟨s', hrun, hunder, helse⟩ := writeAll_ok accepts now
    (toWrite_cleared s tenantId partnerId hkeyed) fun e he => by
    have hlast := hkeyed.mem_incomingRows.mp he
    exact (hw e.1 e.2 hlast).imp fun doc => (takes_congr (under_cleared hlast)).mpr
  refine ⟨result, s', by rw [heq, hrun]; rfl, fun text d h => ?_, fun text h => ?_, ?_⟩
  · obtain ⟨doc, hdoc, hrows⟩ := hunder (text, d) (hkeyed.mem_incomingRows.mpr h)
    refine ⟨doc, hdoc.1, ?_⟩
    rw [hrows]
    unfold leftAlone
    rw [under_cleared h]
  · have hsame : under s' tenantId partnerId text =
        under (cleared s tenantId documents partnerId) tenantId partnerId text := by
      refine helse _ fun e he => elsewhere_under ?_
      rintro rfl
      rw [hkeyed.mem_incomingRows.mp he] at h
      cases h
    rw [hsame, under_cleared_of_none h]
  · unfold KarsHotel.others
    rw [helse _ fun _ _ => elsewhere_others]
    exact others_cleared

/-- A sync fails when one of its documents starts on no date. -/
theorem syncContractPrices_undated (h : ∃ d ∈ documents, d.validFrom.newDate = none) :
    ∃ x, syncContractPrices accepts s tenantId documents partnerId now = .error x := by
  obtain ⟨x, hx⟩ := keyed_error h
  refine ⟨x, ?_⟩
  unfold syncContractPrices
  rw [hx]
  rfl

/-- A sync fails when one of its documents cannot be written. -/
theorem syncContractPrices_error {text : String} {d : ConnectContractPricesDto}
    (hdated : ∀ d ∈ documents, d.validFrom.newDate ≠ none) (h : lastUnder documents text = some d)
    (hw : ¬ ∃ doc, Takes accepts s tenantId partnerId now (text, d) doc) :
    ∃ x, syncContractPrices accepts s tenantId documents partnerId now = .error x := by
  obtain ⟨es, hes, hkeyed⟩ := keyed_ok hdated
  obtain ⟨result, heq⟩ := syncContractPrices_eq accepts s tenantId partnerId now hes hkeyed
  obtain ⟨x, hx⟩ := writeAll_error accepts now (toWrite_cleared s tenantId partnerId hkeyed)
    ⟨(text, d), hkeyed.mem_incomingRows.mpr h, fun hw' =>
      hw (hw'.imp fun doc => (takes_congr (under_cleared h)).mp)⟩
  rw [heq, hx]
  exact ⟨x, rfl⟩

/-- What a text keeps, the documents of its keys share. -/
theorem lastSent_lastUnder {text : String} {d : ConnectContractPricesDto} {k : DocumentKey}
    (h : lastUnder documents text = some d) (hk : d.key = some k) : lastSent documents k = some d := by
  have htext := (mem_lastUnder h).2
  obtain ⟨l, hl⟩ := List.getLast?_eq_some_iff.mp h
  have hkeys : documents.filter (fun c => c.key = some k) =
      (documents.filter fun c => c.text = some text).filter fun c => c.key = some k := by
    rw [List.filter_filter]
    refine List.filter_congr fun c _ => ?_
    by_cases hc : c.key = some k
    · have hsame : c.text = some text := by
        rw [← htext, ConnectContractPricesDto.text, ConnectContractPricesDto.text, hc, hk]
      simp [hc, hsame]
    · simp [hc]
  rw [lastSent, hkeys, hl, List.filter_append]
  simp [hk]

theorem perm_of_filter_eq {α β : Type} [DecidableEq β] (f : α → β) {l l' : List α}
    (h : ∀ b, l.filter (fun a => f a = b) = l'.filter fun a => f a = b) : l.Perm l' := by
  classical
  rw [List.perm_iff_count]
  intro a
  have hcount : ∀ m : List α, m.count a = (m.filter fun x => f x = f a).count a := fun m =>
    (List.count_filter (by simp)).symm
  rw [hcount l, hcount l', h]

theorem filter_keyOf_documentsOf (text : String) :
    (s.documentsOf tenantId partnerId).filter (fun d => keyOf d = text) =
      (under s tenantId partnerId text).map (·.doc) := by
  unfold ContractPrices.documentsOf under Table.select
  rw [List.filter_map, List.filter_filter]
  congr 1
  exact List.filter_congr fun r _ => Bool.and_comm _ _

/-- What can be said of the rows left alone under a text, and of the one written. -/
structure LeftRight (s : ContractPrices) (tenantId : TenantId)
    (documents : List ConnectContractPricesDto) (partnerId : PartnerId) (text : String)
    (d : ConnectContractPricesDto) : Prop where
  written : ∀ doc, d.columns = .ok doc → d.Says doc
  noCopy : ∀ r ∈ leftAlone s tenantId partnerId text, d.key ≠ some r.key
  lost : ∀ k : DocumentKey, k.text = text → d.key ≠ some k →
    HoldLast documents ((leftAlone s tenantId partnerId text).filter fun r => r.key = k) k

/-- **One row each**, after a sync, says that the rows left alone were those the map lost. -/
theorem Synced.oneRowEach_iff {s' : ContractPrices}
    (h : Synced s s' tenantId documents partnerId) : OneRowEach s' tenantId documents partnerId ↔
      ∀ text d, lastUnder documents text = some d →
        LeftRight s tenantId documents partnerId text d := by
  have hown : ∀ text d, lastUnder documents text = some d → ∀ doc, d.columns = .ok doc →
      ∀ k : DocumentKey, k.text = text →
      (s'.documentsOf tenantId partnerId).filter (fun c => c.key = k) =
        (leftAlone s tenantId partnerId text).filter (fun c => c.key = k) ++
          [doc].filter fun c => c.key = k := by
    rintro text d hlast doc hdoc k rfl
    obtain ⟨doc', hdoc', hrows⟩ := h.sent _ d hlast
    obtain rfl : doc = doc' := Except.ok.inj (hdoc.symm.trans hdoc')
    rw [filter_documentsOf, hrows, List.filter_append]
  constructor
  · intro hone text d hlast
    obtain ⟨doc, hdoc, -⟩ := h.sent text d hlast
    have hkey := ConnectContractPricesDto.key_of_columns hdoc
    have htext : doc.key.text = text := by
      have := (mem_lastUnder hlast).2
      rw [text_of_columns hdoc] at this
      exact Option.some.inj this
    have hd := hone doc.key
    have hself : [doc].filter (fun c => c.key = doc.key) = [doc] := by simp
    rw [hown text d hlast doc hdoc doc.key htext, hself, HoldLast, lastSent_lastUnder hlast hkey] at hd
    -- one row of the document itself: none left alone, and the one written
    have hlen := hd.length_eq
    have hempty : (leftAlone s tenantId partnerId text).filter (fun c => c.key = doc.key) = [] := by
      rw [← List.length_eq_zero_iff]
      simp only [Option.toList_some, List.length_append, List.length_singleton] at hlen
      omega
    rw [hempty] at hd
    refine ⟨fun doc' hdoc' => ?_, fun r hr hsame => ?_, fun k hk hne => ?_⟩
    · obtain rfl : doc = doc' := Except.ok.inj (hdoc.symm.trans hdoc')
      exact (List.forall₂_cons.mp hd).1
    · rw [List.filter_eq_nil_iff] at hempty
      exact hempty r hr (decide_eq_true (Option.some.inj (hsame.symm.trans hkey)))
    · have hd := hone k
      have hnot : doc.key ≠ k := fun hsame => hne (hsame ▸ hkey)
      rw [hown text d hlast doc hdoc k hk] at hd
      simpa [hnot] using hd
  · intro hleft k
    cases hlast : lastUnder documents k.text with
    | none =>
      have hnone : documents.filter (fun c => c.key = some k) = [] := by
        rw [List.filter_eq_nil_iff]
        intro c hc hkey
        have hkey : c.key = some k := of_decide_eq_true hkey
        have hempty := hlast
        rw [lastUnder, List.getLast?_eq_none_iff, List.filter_eq_nil_iff] at hempty
        refine hempty c hc ?_
        simp [ConnectContractPricesDto.text, hkey]
      rw [filter_documentsOf, h.stale _ hlast, HoldLast, lastSent, hnone]
      exact .nil
    | some d =>
      have hd := hleft k.text d hlast
      obtain ⟨doc, hdoc, -⟩ := h.sent k.text d hlast
      have hkey := ConnectContractPricesDto.key_of_columns hdoc
      rw [hown k.text d hlast doc hdoc k rfl]
      by_cases hk : doc.key = k
      · subst hk
        have hempty : (leftAlone s tenantId partnerId doc.key.text).filter
            (fun c => c.key = doc.key) = [] := by
          rw [List.filter_eq_nil_iff]
          intro r hr hsame
          have hsame : r.key = doc.key := of_decide_eq_true hsame
          exact hd.noCopy r hr (hsame ▸ hkey)
        rw [hempty, HoldLast, lastSent_lastUnder hlast hkey]
        simpa using hd.written doc hdoc
      · have hlost := hd.lost k rfl fun hsame => hk (Option.some.inj (hkey.symm.trans hsame))
        simpa [hk] using hlost

/-- What a sync left can be written again, and leaves the same rows alone. -/
theorem Synced.leftAlone_eq {s' : ContractPrices} (h : Synced s s' tenantId documents partnerId)
    {text : String} {d : ConnectContractPricesDto} (hlast : lastUnder documents text = some d) :
    leftAlone s' tenantId partnerId text = leftAlone s tenantId partnerId text := by
  obtain ⟨doc, -, hrows⟩ := h.sent text d hlast
  have hsent := congrArg List.dropLast hrows
  rw [List.dropLast_concat] at hsent
  rw [← hsent]
  unfold leftAlone
  exact List.map_dropLast

/-- Repeated, a sync leaves the same documents. -/
theorem Synced.perm {s' s'' : ContractPrices} (h : Synced s s' tenantId documents partnerId)
    (h' : Synced s' s'' tenantId documents partnerId) :
    (s''.documentsOf tenantId partnerId).Perm (s'.documentsOf tenantId partnerId) := by
  refine perm_of_filter_eq keyOf fun text => ?_
  rw [filter_keyOf_documentsOf, filter_keyOf_documentsOf]
  cases hlast : lastUnder documents text with
  | none => rw [h.stale text hlast, h'.stale text hlast]
  | some d =>
    obtain ⟨doc, hdoc, hrows⟩ := h.sent text d hlast
    obtain ⟨doc', hdoc', hrows'⟩ := h'.sent text d hlast
    obtain rfl : doc = doc' := Except.ok.inj (hdoc.symm.trans hdoc')
    rw [hrows, hrows', h.leftAlone_eq hlast]

/-- In a mergeable state every document can be written. -/
theorem Mergeable.takes (h : Mergeable accepts s tenantId documents partnerId) {text : String}
    {d : ConnectContractPricesDto} (hlast : lastUnder documents text = some d) :
    ∃ doc, Takes accepts s tenantId partnerId now (text, d) doc := by
  obtain ⟨doc, hholds, hrate, haccepts⟩ := h.fits text d hlast
  refine ⟨doc, hholds.columns hrate, haccepts, fun r hr hkey => ?_⟩
  refine h.noCopy text d hlast r.doc (List.mem_map_of_mem hr) ?_
  rw [hholds.key, (ContractPriceData.eq_of_indexKey hkey).2.2]

theorem Mergeable.synced {s' : ContractPrices} (h : Mergeable accepts s tenantId documents partnerId)
    (hs : Synced s s' tenantId documents partnerId) :
    Mergeable accepts s' tenantId documents partnerId where
  dated := h.dated
  fits := h.fits
  noCopy text d hlast := by rw [hs.leftAlone_eq hlast]; exact h.noCopy text d hlast
  lost text d hlast := by rw [hs.leftAlone_eq hlast]; exact h.lost text d hlast

/-- **When the mirror equals what was sent.** -/
theorem mirrored_iff {again : Moment} :
    Mirrored accepts s tenantId documents partnerId now again ↔
      Mergeable accepts s tenantId documents partnerId := by
  constructor
  · rintro ⟨result, s', hsync, hone, -, -⟩
    have hdated : ∀ d ∈ documents, d.validFrom.newDate ≠ none := by
      intro d hd hnone
      obtain ⟨x, hx⟩ := syncContractPrices_undated ⟨d, hd, hnone⟩
      rw [hx] at hsync
      cases hsync
    have hw : ∀ text d, lastUnder documents text = some d →
        ∃ doc, Takes accepts s tenantId partnerId now (text, d) doc := by
      intro text d hlast
      by_contra hnot
      obtain ⟨x, hx⟩ := syncContractPrices_error hdated hlast hnot
      rw [hx] at hsync
      cases hsync
    obtain ⟨_, s₁, hsync', hs⟩ := syncContractPrices_ok now hdated hw
    rw [hsync'] at hsync
    cases hsync
    have hleft := hs.oneRowEach_iff.mp hone
    refine ⟨hdated, fun text d hlast => ?_, fun text d hlast => (hleft text d hlast).noCopy,
      fun text d hlast => (hleft text d hlast).lost⟩
    obtain ⟨doc, hcolumns, hwritable⟩ := hw text d hlast
    exact ⟨doc, (hleft text d hlast).written doc hcolumns,
      ConnectContractPricesDto.rate_of_columns hcolumns, hwritable.fits⟩
  · intro h
    obtain ⟨result, s', hsync, hs⟩ := syncContractPrices_ok now h.dated
      fun text d hlast => h.takes hlast
    obtain ⟨result', s'', hsync', hs'⟩ := syncContractPrices_ok again h.dated
      fun text d hlast => (h.synced hs).takes hlast
    refine ⟨result, s', hsync, ?_, hs.others, result', s'', hsync', hs.perm hs',
      hs'.others.trans hs.others⟩
    refine hs.oneRowEach_iff.mpr fun text d hlast =>
      ⟨fun doc hcolumns => ?_, h.noCopy text d hlast, h.lost text d hlast⟩
    obtain ⟨doc', hholds, hrate, -⟩ := h.fits text d hlast
    obtain rfl : doc' = doc := Except.ok.inj ((hholds.columns hrate).symm.trans hcolumns)
    exact hholds

end Law

/-! ## Any sequence of calls -/

/-- **The mirror equals what was sent exactly when the sync could merge**: after any sequence of
calls, and for every set sent next. -/
theorem contractMirror_iff (accepts : ContractDocument → Bool) (ops : List MirrorOp)
    (tenantId : TenantId) (documents : List ConnectContractPricesDto) (partnerId : PartnerId)
    (now again : Moment) :
    Mirrored accepts (MirrorOp.run accepts ops) tenantId documents partnerId now again ↔
      Mergeable accepts (MirrorOp.run accepts ops) tenantId documents partnerId :=
  mirrored_iff

/-- A sheet valid from an instant of 2026-10-01. -/
def ConnectContractPricesDto.october (time : ℕ) : ConnectContractPricesDto where
  contractNumber := "Г-18"
  amendmentNumber := .null
  service := .accommodation
  account := .undefined
  validFrom := .date ⟨20727, time, 0⟩
  validTo := .null
  vatRate := .null
  rows := .arr []
  fill := .undefined

/-- One sheet put twice, from midnight and from three o'clock: the sync keeps both rows. -/
theorem contractMirror_twoStarts : ¬ ∀ (accepts : ContractDocument → Bool) (ops : List MirrorOp)
    (tenantId : TenantId) (documents : List ConnectContractPricesDto) (partnerId : PartnerId)
    (now again : Moment),
    Mirrored accepts (MirrorOp.run accepts ops) tenantId documents partnerId now again := by
  intro h
  obtain ⟨result, s', hsync, hone, -, -⟩ := h (fun _ => true)
    [.put 1 (.october 0) 7 0, .put 1 (.october 10800000) 7 0] 1 [.october 18000000] 7 0 0
  let key : DocumentKey := ⟨"Г-18", "", .accommodation, 20727⟩
  have hlen := (hone key).length_eq
  have hrows : ∀ {r}, syncContractPrices (fun _ => true)
      (MirrorOp.run (fun _ => true) [.put 1 (.october 0) 7 0, .put 1 (.october 10800000) 7 0]) 1
      [.october 18000000] 7 0 = .ok r →
        ((r.2.documentsOf 1 7).filter fun d => d.key = key).length = 2 := by
    rintro r ⟨⟩
    decide +kernel
  rw [hrows hsync] at hlen
  have hone : (lastSent [ConnectContractPricesDto.october 18000000] key).toList.length ≤ 1 := by
    cases lastSent [ConnectContractPricesDto.october 18000000] key <;> simp
  omega

end KarsHotel
