import OfferBook.Proofs.Sheets.Owned

/-! # What requests keep

* `frozenFields` — the fields of calculations and offers that are never changed.
* `Office.Keeps` — ids that are never taken back, sheets that no other owner touches, and frozen
  fields.
* `Office.Core.keeps`, `Office.Aside.keeps` — both steps of a request keep all this;
  `Office.serveAll_keeps` — so do any number of requests.
-/

namespace OfferBook

/-- The fields from which a calculation or an offer is read together with its sheets. -/
def frozenFields : List (String × String) :=
  [(Calculations.table, "calculation_type"), (Calculations.table, "source_calculation_id"),
   (Offers.table, "offer_type"), (Offers.table, "source_calculation_id")]

theorem frozen_apart {t column : String} (h : (t, column) ∈ frozenFields) :
    t ≠ Document.countersTable ∧ t ≠ Accounts.table ∧ column ∉ annotations ∧
      column ≠ "is_current" := by
  simp only [frozenFields, List.mem_cons, Prod.mk.injEq, List.not_mem_nil, or_false] at h
  rcases h with ⟨rfl, rfl⟩ | ⟨rfl, rfl⟩ | ⟨rfl, rfl⟩ | ⟨rfl, rfl⟩ <;> decide

namespace SideChange

variable {now : Instant} {c : Change}

theorem spares_sheets (h : SideChange now c) {w : Owner} {t : String} (ht : t ∈ w.sheetTables) :
    c.Spares t := by
  have apart : t ≠ Log.table ∧ t ≠ Accounts.table := by
    cases w <;>
      simp only [Owner.sheetTables, Owner.garmentTable, Owner.warehousingTable, List.mem_cons,
        List.not_mem_nil, or_false] at ht <;>
      rcases ht with rfl | rfl <;> decide
  obtain ⟨calculations, offers, -⟩ := Owner.sheetTables_apart ht
  cases h with
  | entry table => exact fun same => apart.1 (same.symm.trans table)
  | newAccount table => exact fun same => apart.2 (same.symm.trans table)
  | account table => exact fun same => apart.2 (same.symm.trans table)
  | annotate table =>
    rcases table with table | table
    · exact fun same => calculations (same.symm.trans table)
    · exact fun same => offers (same.symm.trans table)

theorem freezes (h : SideChange now c) {t column : String} (frozen : (t, column) ∈ frozenFields) :
    c.Freezes t column := by
  obtain ⟨counters, accounts, annotated, -⟩ := frozen_apart frozen
  cases h with
  | entry => exact counters
  | newAccount => exact counters
  | account table => exact fun same => absurd (same.symm.trans table) accounts
  | annotate _ values =>
    intro _ named
    obtain ⟨a, ha, rfl⟩ := List.mem_map.mp named
    exact annotated (values a ha).1

end SideChange

namespace Office

variable {m : Type} {offerPrefix : String} {o o' o'' : Office m}

/-- What stays of an office. Sheets may be added for owners that are new only. -/
structure Keeps (o o' : Office m) : Prop where
  lastId : ∀ t, o.store.document.lastId t ≤ o'.store.document.lastId t
  owned : ∀ (w : Owner) (t : String), t ∈ w.sheetTables → fitsSigned w.id = true →
    w.id ≤ o.store.document.lastId w.table ∨ o'.store.document.lastId w.table < w.id →
    o'.store.document.owned w t = o.store.document.owned w t
  field : ∀ t column, (t, column) ∈ frozenFields → ∀ (k : Nat) (row : Record),
    (o.store.document.table t)[k]? = some row →
    ∃ row', (o'.store.document.table t)[k]? = some row' ∧ row'.get? column = row.get? column

theorem Keeps.trans (h : Keeps o o') (h' : Keeps o' o'') : Keeps o o'' where
  lastId t := Int.le_trans (h.lastId t) (h'.lastId t)
  owned w t ht fits known := by
    -- An owner is known before both parts, or unknown after both.
    have before := h.lastId w.table
    have after := h'.lastId w.table
    rw [h'.owned w t ht fits (by omega), h.owned w t ht fits (by omega)]
  field t column frozen k row hk := by
    obtain ⟨row', hk', same⟩ := h.field t column frozen k row hk
    obtain ⟨row'', hk'', same'⟩ := h'.field t column frozen k row' hk'
    exact ⟨row'', hk'', same'.trans same⟩

theorem Keeps.of_reaches {changes : List Change} (reached : Reaches o changes o')
    (owned : ∀ (w : Owner) (t : String), t ∈ w.sheetTables → fitsSigned w.id = true →
      w.id ≤ o.store.document.lastId w.table ∨ o'.store.document.lastId w.table < w.id →
      o'.store.document.owned w t = o.store.document.owned w t)
    (freezes : ∀ t column, (t, column) ∈ frozenFields → ∀ c ∈ changes, c.Freezes t column) :
    Keeps o o' where
  lastId t := by
    rw [reached.document]
    exact Change.lastId_le_applyAll changes t
  owned := owned
  field t column frozen k row hk := by
    rw [reached.document]
    exact Change.getElem?_applyAll (freezes t column frozen) hk

theorem Aside.keeps (h : Aside o o') : Keeps o o' := by
  obtain ⟨changes, side, reached⟩ := h
  refine .of_reaches reached (fun w t ht _ _ => ?_) fun t column frozen c hc =>
    (side c hc).freezes frozen
  rw [reached.document]
  exact Change.owned_of_spares (fun c hc => (side c hc).spares_sheets ht) w

/-! ## The core of a request -/

theorem owned_of_spares {changes : List Change} (reached : Reaches o changes o')
    {w : Owner} {t : String} (spare : ∀ c ∈ changes, c.Spares t) :
    o'.store.document.owned w t = o.store.document.owned w t := by
  rw [reached.document]
  exact Change.owned_of_spares spare w

/-- Sheets are added after the row of their owner, which gets a new id. -/
theorem owned_of_added {a : Change} {s : Insert} {w' : Owner} {kind : SheetKind}
    {items : List GarmentItemInput} {warehousing : Option WarehousingInput} {done : List Change}
    (part : done <+: a :: .insert s :: LineItems.changes w' kind items warehousing)
    (reached : Reaches o done o') (table : s.table = w'.table)
    (numbered : w'.id = o.store.document.lastId w'.table + 1)
    {w : Owner} {t : String} (ht : t ∈ w.sheetTables) (fits : fitsSigned w.id = true)
    (known : w.id ≤ o.store.document.lastId w.table ∨ o'.store.document.lastId w.table < w.id)
    (spares : a.Spares t) (apart : s.table ≠ t) :
    o'.store.document.owned w t = o.store.document.owned w t := by
  rcases cut_cases part with rfl | rfl | ⟨sheets, cut, rfl⟩
  · exact owned_of_spares reached (by simp)
  · exact owned_of_spares reached (by simpa using spares)
  · -- The new owner's id lies between those known before and those unknown after.
    have reachedId : o.store.document.lastId w'.table + 1 ≤
        o'.store.document.lastId w'.table := by
      rw [reached.document, ← table]
      exact Change.lastId_lt_applyAll (by simp)
    have other : w ≠ w' := by
      rintro rfl
      omega
    rw [reached.document, Change.applyAll_append,
      Change.owned_of_sheets (fun c hc => cut.subset hc) ht fits other]
    exact Change.owned_of_spares (by simpa [Change.Spares] using ⟨spares, apart⟩) w

theorem Core.owned (core : Core offerPrefix o o') {w : Owner} {t : String}
    (ht : t ∈ w.sheetTables) (fits : fitsSigned w.id = true)
    (known : w.id ≤ o.store.document.lastId w.table ∨ o'.store.document.lastId w.table < w.id) :
    o'.store.document.owned w t = o.store.document.owned w t := by
  obtain ⟨calculations, offers, counters⟩ := Owner.sheetTables_apart ht
  cases core with
  | idle reached => exact owned_of_spares reached (by simp)
  | allocate part reached =>
    refine owned_of_spares reached fun c hc => ?_
    obtain rfl := List.mem_singleton.mp (part.subset hc)
    exact counters.symm
  | first _ _ part reached =>
    exact owned_of_added part reached rfl rfl ht fits known counters.symm calculations.symm
  | next _ part reached =>
    exact owned_of_added part reached rfl rfl ht fits known calculations.symm calculations.symm
  | offer part reached =>
    exact owned_of_added part reached rfl rfl ht fits known counters.symm offers.symm

theorem sheets_freeze {w : Owner} {kind : SheetKind} {items : List GarmentItemInput}
    {warehousing : Option WarehousingInput} {t column : String}
    (counters : t ≠ Document.countersTable) :
    ∀ c ∈ LineItems.changes w kind items warehousing, c.Freezes t column := by
  intro c hc
  obtain ⟨-, ⟨place, item, rfl⟩ | ⟨input, rfl⟩⟩ := LineItems.sheet_of_mem hc
  · exact counters
  · exact counters

theorem Core.keeps (core : Core offerPrefix o o') : Keeps o o' := by
  have owned (w : Owner) (t : String) (ht : t ∈ w.sheetTables) := core.owned (w := w) ht
  cases core with
  | idle reached => exact .of_reaches reached owned (by simp)
  | allocate part reached =>
    refine .of_reaches reached owned fun t column frozen c hc => ?_
    obtain rfl := List.mem_singleton.mp (part.subset hc)
    exact (frozen_apart frozen).1
  | first _ _ part reached =>
    refine .of_reaches reached owned fun t column frozen c hc => ?_
    obtain ⟨counters, -⟩ := frozen_apart frozen
    rcases List.mem_cons.mp (part.subset hc) with rfl | hc
    · exact counters
    rcases List.mem_cons.mp hc with rfl | hc
    · exact counters
    · exact sheets_freeze counters c hc
  | next _ part reached =>
    refine .of_reaches reached owned fun t column frozen c hc => ?_
    obtain ⟨counters, -, -, current⟩ := frozen_apart frozen
    -- A chain that is retired has its flags changed and nothing else.
    rcases List.mem_cons.mp (part.subset hc) with rfl | hc
    · exact fun _ => by simpa [Calculations.retire] using current
    rcases List.mem_cons.mp hc with rfl | hc
    · exact counters
    · exact sheets_freeze counters c hc
  | offer part reached =>
    refine .of_reaches reached owned fun t column frozen c hc => ?_
    obtain ⟨counters, -⟩ := frozen_apart frozen
    rcases List.mem_cons.mp (part.subset hc) with rfl | hc
    · exact counters
    rcases List.mem_cons.mp hc with rfl | hc
    · exact counters
    · exact sheets_freeze counters c hc

/-! ## Requests -/

variable [Medium m]

theorem serve_keeps (h : o.Sound) (r : Request) : Keeps o (serve offerPrefix o r) := by
  have effect : Effect offerPrefix _ _ := serve_effect h r
  obtain ⟨between, core, aside⟩ := effect
  have keeps := core.keeps.trans aside.keeps
  exact ⟨keeps.lastId, keeps.owned, keeps.field⟩

theorem serveAll_keeps (h : o.Sound) (rs : List Request) :
    (serveAll offerPrefix o rs).Sound ∧ Keeps o (serveAll offerPrefix o rs) := by
  refine serveAll_induction (P := fun _ o' => o'.Sound ∧ Keeps o o') (n := 0) ?_ ?_ rs
  · exact ⟨h, fun _ => Int.le_refl _, fun _ _ _ _ _ => rfl, fun _ _ _ _ row hk => ⟨row, hk, rfl⟩⟩
  · exact fun _ o' r ⟨sound, keeps⟩ => ⟨sound.serve r, keeps.trans (serve_keeps sound r)⟩

end Office

end OfferBook
