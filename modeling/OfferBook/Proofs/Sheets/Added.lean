import OfferBook.Proofs.Sheets.Frozen

/-! # Sheets that are added

A request adds sheets for one owner at most, whose row it has stored before.

* `Owner.IsStored` — a row of an owner with sheets of a kind; `Office.isStored_of_keeps` — such
  rows stay.
* `Document.Adds` — what becomes of the tables with sheets; `Office.serve_adds` — in a request.
* `Document.Belonging` — sheets belong to rows that are stored, and none has more of them than it
  may; `Document.Belonging.adds` — this is kept.
-/

namespace OfferBook

/-- Most sheets of a kind that belong together. -/
def SheetKind.most : SheetKind → Nat
  | .garment => LineItems.maxItems
  | .warehousing => 1

namespace Owner

variable {w w' : Owner} {kind kind' : SheetKind}

/-- The table with sheets of a kind. -/
def sheetTable (w : Owner) : SheetKind → String
  | .garment => w.garmentTable
  | .warehousing => w.warehousingTable

theorem sheetTable_mem (w : Owner) (kind : SheetKind) : w.sheetTable kind ∈ w.sheetTables := by
  cases kind
  · exact w.garmentTable_mem
  · exact w.warehousingTable_mem

theorem withId_of_sheetTable (same : w'.sheetTable kind' = w.sheetTable kind) :
    kind' = kind ∧ w.withId w'.id = w' := by
  cases w <;> cases w' <;> cases kind <;> cases kind' <;>
    simp_all [sheetTable, garmentTable, warehousingTable, withId, id]

/-- A row of the owner is stored, with sheets of a kind. -/
def IsStored (doc : Document) (w : Owner) (kind : SheetKind) : Prop :=
  ∃ row ∈ doc.table w.table, row.get? "id" = some (.int w.id) ∧
    row.get? w.kindColumn = some (.text kind.name)

end Owner

/-! ## Sheets of one owner -/

namespace LineItems

variable {w : Owner} {kind : SheetKind} {items : List GarmentItemInput}
  {warehousing : Option WarehousingInput}

theorem insert_of_mem {c : Change} (h : c ∈ changes w kind items warehousing) :
    ∃ s : Insert, c = .insert s ∧ s.table = w.sheetTable kind ∧
      ∀ now id, (s.row now [] id).get? w.column = some (.int w.id) := by
  have mem := (mem_changes.mp h).2
  match kind, warehousing with
  | .garment, _ =>
    obtain ⟨i, inside, rfl⟩ := List.mem_mapIdx.mp mem
    exact ⟨_, rfl, rfl, fun now id => get?_itemRow_owner w now id _ _⟩
  | .warehousing, some input =>
    obtain rfl := List.mem_singleton.mp mem
    exact ⟨_, rfl, rfl, fun now id => get?_warehousingRow_owner w now id input⟩
  | .warehousing, none => exact absurd mem List.not_mem_nil

theorem length_changes_le (valid : validate items = .ok ()) :
    (changes w kind items warehousing).length ≤ kind.most := by
  unfold changes
  split
  · match kind, warehousing with
    | .garment, _ =>
      simpa [sheetChanges, itemChanges, SheetKind.most] using length_le_of_validate valid
    | .warehousing, some _ => exact Nat.le_refl 1
    | .warehousing, none => exact Nat.zero_le 1
  · exact Nat.zero_le _

end LineItems

namespace Change

variable {now : Instant} {doc : Document} {t : String}

/-- Rows that are inserted into one table stand behind those that there are. -/
theorem table_applyAll_inserts {P : Record → Prop} {changes : List Change}
    (h : ∀ c ∈ changes, ∃ s : Insert, c = .insert s ∧ s.table = t ∧ ∀ id, P (s.row now [] id)) :
    ∃ rows, (applyAll now changes doc).table t = doc.table t ++ rows ∧
      rows.length = changes.length ∧ ∀ row ∈ rows, P row := by
  induction changes generalizing doc with
  | nil => exact ⟨[], (List.append_nil _).symm, rfl, List.forall_mem_nil _⟩
  | cons c rest ih =>
    obtain ⟨⟨s, rfl, rfl, first⟩, later⟩ := List.forall_mem_cons.mp h
    obtain ⟨rows, table, length, rest⟩ := @ih ((insert s).apply now doc) later
    rw [table_insert, if_pos rfl, List.append_assoc] at table
    exact ⟨_, table, by simp [length], List.forall_mem_cons.mpr ⟨first _, rest⟩⟩

end Change

/-! ## Growth -/

/-- What becomes of the tables with sheets: there may be some for one new owner. -/
inductive Document.Adds (doc doc' : Document) : Prop
  | nothing (tables : ∀ (w : Owner) (kind : SheetKind),
      doc'.table (w.sheetTable kind) = doc.table (w.sheetTable kind))
  | sheets {w : Owner} {kind : SheetKind} {rows : List Record}
      (fresh : w.id = doc.lastId w.table + 1) (stored : w.IsStored doc' kind)
      (few : rows.length ≤ kind.most) (named : ∀ row ∈ rows, row.get? w.column = some (.int w.id))
      (tables : ∀ (w' : Owner) (kind' : SheetKind), doc'.table (w'.sheetTable kind') =
        doc.table (w'.sheetTable kind') ++ if w'.sheetTable kind' = w.sheetTable kind then rows
          else [])

namespace Office

variable {m : Type} {offerPrefix : String} {o o' : Office m} {w : Owner} {kind : SheetKind}

theorem isStored_of_keeps (h : o.Sound) (h' : o'.Sound) (keeps : Keeps o o')
    (stored : w.IsStored o.store.document kind) : w.IsStored o'.store.document kind := by
  have numbered {o : Office m} (h : o.Sound) {k : Nat} {row : Record}
      (hk : (o.store.document.table w.table)[k]? = some row) :
      row.get? "id" = some (.int (k + 1)) := by
    cases w
    · exact h.calculations.numbered k row hk
    · exact h.offers.numbered k row hk
  have frozen : (w.table, w.kindColumn) ∈ frozenFields := by
    cases w <;> simp [frozenFields, Owner.table, Owner.kindColumn]
  obtain ⟨row, mem, named, kindOf⟩ := stored
  obtain ⟨k, hk⟩ := List.mem_iff_getElem?.mp mem
  obtain ⟨row', hk', same⟩ := keeps.field _ _ frozen k row hk
  refine ⟨row', List.mem_of_getElem? hk', ?_, same.trans kindOf⟩
  rw [numbered h' hk', ← numbered h hk, named]

theorem le_lastId_of_isStored (h : o.Sound) (stored : w.IsStored o.store.document kind) :
    w.id ≤ o.store.document.lastId w.table := by
  obtain ⟨row, mem, named, -⟩ := stored
  have bound {form : Form} (regular : Regular form w.table o.store.document) :
      w.id ≤ o.store.document.lastId w.table := by
    obtain ⟨n, there, -, given⟩ := regular.exists_id mem
    have same := named.symm.trans there
    simp only [Json.int, Option.some.injEq, Json.number.injEq, Number.int.injEq] at same
    exact same ▸ given
  cases w
  · exact bound h.calculations
  · exact bound h.offers

theorem adds_of_spares {changes : List Change} (reached : Reaches o changes o')
    (spare : ∀ (w : Owner) (t : String), t ∈ w.sheetTables → ∀ c ∈ changes, c.Spares t) :
    o.store.document.Adds o'.store.document :=
  .nothing fun w kind => by
    rw [reached.document]
    exact (Change.applyAll_of_spares (spare w _ (w.sheetTable_mem kind))).1

/-- Sheets are added after the row of their owner, which gets a new id. -/
theorem adds_of_added {a : Change} {s : Insert} {items : List GarmentItemInput}
    {warehousing : Option WarehousingInput} {done : List Change}
    (part : done <+: a :: .insert s :: LineItems.changes w kind items warehousing)
    (reached : Reaches o done o') (valid : LineItems.validate items = .ok ())
    (fresh : w.id = o.store.document.lastId w.table + 1)
    (stored : ∀ sheets, sheets <+: LineItems.changes w kind items warehousing →
      Reaches o ([a, .insert s] ++ sheets) o' → w.IsStored o'.store.document kind)
    (spares : ∀ (w : Owner) (t : String), t ∈ w.sheetTables → a.Spares t ∧ s.table ≠ t) :
    o.store.document.Adds o'.store.document := by
  rcases cut_cases part with rfl | rfl | ⟨sheets, cut, rfl⟩
  · exact adds_of_spares reached fun _ _ _ => List.forall_mem_nil _
  · exact adds_of_spares reached fun w t ht => by simpa using (spares w t ht).1
  · -- Of the tables with sheets, only the one with the owner's sheets is written to.
    have start (w' : Owner) (kind' : SheetKind) :
        (Change.applyAll o.now [a, .insert s] o.store.document).table (w'.sheetTable kind') =
          o.store.document.table (w'.sheetTable kind') := by
      have apart := spares w' _ (w'.sheetTable_mem kind')
      exact (Change.applyAll_of_spares (by simpa [Change.Spares] using apart)).1
    obtain ⟨rows, added, length, named⟩ := @Change.table_applyAll_inserts o.now
      (Change.applyAll o.now [a, .insert s] o.store.document) (w.sheetTable kind)
      (fun row => row.get? w.column = some (.int w.id)) sheets fun c hc => by
        obtain ⟨s, insert, table, named⟩ := LineItems.insert_of_mem (cut.subset hc)
        exact ⟨s, insert, table, named o.now⟩
    have few : rows.length ≤ kind.most :=
      length ▸ Nat.le_trans cut.length_le (LineItems.length_changes_le valid)
    refine .sheets fresh (stored sheets cut reached) few named fun w' kind' => ?_
    rw [reached.document, Change.applyAll_append]
    split
    · next same => rw [same, added, ← same, start]
    · next other =>
      rw [List.append_nil, ← start]
      refine (Change.applyAll_of_spares fun c hc => ?_).1
      obtain ⟨s, rfl, table, -⟩ := LineItems.insert_of_mem (cut.subset hc)
      exact fun same => other (same.symm.trans table)

theorem Core.adds (core : Core offerPrefix o o') :
    o.store.document.Adds o'.store.document := by
  have apart (w : Owner) (t : String) (ht : t ∈ w.sheetTables) := Owner.sheetTables_apart ht
  cases core with
  | idle reached => exact adds_of_spares reached fun _ _ _ => List.forall_mem_nil _
  | allocate part reached =>
    refine adds_of_spares reached fun w t ht c hc => ?_
    obtain rfl := List.mem_singleton.mp (part.subset hc)
    exact (apart w t ht).2.2.symm
  | @first k kunde input caller _ _ _ part reached valid =>
    refine adds_of_added (w := .calculation _) part reached valid rfl (fun sheets cut reached => ?_)
      fun w t ht => ⟨(apart w t ht).2.2.symm, (apart w t ht).1.symm⟩
    have last : o.firstRow offerPrefix (o.supply.uuid k) kunde input caller ∈
        o'.calculations := by
      rw [Office.calculations, (Holds.of_first cut reached).calculations]
      exact List.mem_append_right _ List.mem_cons_self
    exact ⟨_, last, Calculations.get?_row_id _,
      get?_firstRow (by simp [Calculations.rowFields, Owner.kindColumn])⟩
  | @next head _ kunde input _ _ part reached valid =>
    refine adds_of_added (w := .calculation _) part reached valid rfl (fun sheets cut reached => ?_)
      fun w t ht => ⟨(apart w t ht).1.symm, (apart w t ht).1.symm⟩
    have last : o.nextRow head kunde input ∈ o'.calculations := by
      rw [Office.calculations, (Holds.of_next cut reached).calculations]
      exact List.mem_append_right _ List.mem_cons_self
    exact ⟨_, last, Calculations.get?_row_id _,
      get?_nextRow (by simp [Calculations.rowFields, Owner.kindColumn])⟩
  | @offer uuid input caller _ part reached valid =>
    refine adds_of_added (w := .offer _) part reached valid rfl (fun sheets cut reached => ?_)
      fun w t ht => ⟨(apart w t ht).2.2.symm, (apart w t ht).2.1.symm⟩
    have last : o.offerRow offerPrefix uuid input caller ∈ o'.offers := by
      rw [Office.offers, (Holds.of_offer cut reached).offers]
      exact List.mem_append_right _ List.mem_cons_self
    exact ⟨_, last, Insert.get?_row_id Offers.row_distinct Offers.row_unnamed _,
      Offers.get?_row_of_mem (by simp [Offers.rowFields, Owner.kindColumn]) _⟩

/-- What is done on the side adds no sheets, and the rows of owners stay. -/
theorem Aside.adds (h : o'.Sound) {o'' : Office m} (aside : Aside o' o'')
    (adds : o.store.document.Adds o'.store.document) :
    o.store.document.Adds o''.store.document := by
  have same (w : Owner) (kind : SheetKind) : o''.store.document.table (w.sheetTable kind) =
      o'.store.document.table (w.sheetTable kind) := by
    obtain ⟨changes, side, reached⟩ := aside
    rw [reached.document]
    exact (Change.applyAll_of_spares fun c hc =>
      (side c hc).spares_sheets (w.sheetTable_mem kind)).1
  cases adds with
  | nothing tables => exact .nothing fun w kind => (same w kind).trans (tables w kind)
  | sheets fresh stored few named tables =>
    refine .sheets fresh ?_ few named fun w kind => (same w kind).trans (tables w kind)
    exact isStored_of_keeps h (h.aside aside) aside.keeps stored

theorem serve_adds [Medium m] (h : o.Sound) (r : Request) :
    o.store.document.Adds (serve offerPrefix o r).store.document := by
  obtain ⟨between, core, aside⟩ := (serve_effect h r : Effect offerPrefix _ _)
  exact aside.adds ((h.setNow r.now).core core) core.adds

end Office

/-! ## Belonging -/

/-- Sheets belong to rows that are stored, and none has more of them than it may. -/
structure Document.Belonging (doc : Document) : Prop where
  owners : ∀ (w : Owner) (kind : SheetKind), ∀ row ∈ doc.table (w.sheetTable kind),
    ∃ id, row.get? w.column = some (.int id) ∧ (w.withId id).IsStored doc kind
  few : ∀ (w : Owner) (kind : SheetKind),
    (doc.table (w.sheetTable kind)).countP (·.get? w.column = some (.int w.id)) ≤ kind.most

namespace Document.Belonging

variable {doc doc' : Document}

theorem of_isEmpty (h : doc.IsEmpty) : doc.Belonging where
  owners w kind := by
    rw [(h _).1]
    exact List.forall_mem_nil _
  few w kind := by
    rw [(h _).1]
    exact Nat.zero_le _

/-- An owner that is yet to come has no sheets. -/
theorem none_of_fresh (h : doc.Belonging) {w : Owner} {kind : SheetKind}
    (known : ∀ (w : Owner) (kind : SheetKind), w.IsStored doc kind → w.id ≤ doc.lastId w.table)
    (fresh : doc.lastId w.table < w.id) :
    (doc.table (w.sheetTable kind)).countP (·.get? w.column = some (.int w.id)) = 0 := by
  refine List.countP_eq_zero.mpr fun row mem named => ?_
  obtain ⟨id, owned, stored⟩ := h.owners w kind row mem
  obtain rfl : id = w.id := by
    simpa [Json.int] using owned.symm.trans (of_decide_eq_true named)
  have := known _ _ stored
  simp only [Owner.withId_self] at this
  omega

theorem adds (h : doc.Belonging)
    (known : ∀ (w : Owner) (kind : SheetKind), w.IsStored doc kind → w.id ≤ doc.lastId w.table)
    (stay : ∀ (w : Owner) (kind : SheetKind), w.IsStored doc kind → w.IsStored doc' kind)
    (adds : doc.Adds doc') : doc'.Belonging := by
  cases adds with
  | nothing tables =>
    constructor
    · intro w kind row mem
      obtain ⟨id, owned, stored⟩ := h.owners w kind row (tables w kind ▸ mem)
      exact ⟨id, owned, stay _ _ stored⟩
    · intro w kind
      rw [tables]
      exact h.few w kind
  | @sheets w kind rows fresh stored few named tables =>
    constructor
    · intro w' kind' row mem
      rw [tables] at mem
      rcases List.mem_append.mp mem with old | new
      · obtain ⟨id, owned, stored⟩ := h.owners w' kind' row old
        exact ⟨id, owned, stay _ _ stored⟩
      · split at new
        · next same =>
          obtain ⟨rfl, sort⟩ := Owner.withId_of_sheetTable same.symm
          have column : w'.column = w.column := by rw [← sort]; cases w' <;> rfl
          exact ⟨w.id, column ▸ named row new, sort.symm ▸ stored⟩
        · exact absurd new List.not_mem_nil
    · intro w' kind'
      rw [tables, List.countP_append]
      split
      · next same =>
        obtain ⟨rfl, sort⟩ := Owner.withId_of_sheetTable same.symm
        by_cases own : w'.id = w.id
        · -- The sheets of the new owner are all that there are of it.
          obtain rfl : w' = w := by rw [← sort, ← own, Owner.withId_self]
          rw [h.none_of_fresh known (by omega), Nat.zero_add]
          exact Nat.le_trans List.countP_le_length few
        · have column : w'.column = w.column := by rw [← sort]; cases w' <;> rfl
          have none : rows.countP (·.get? w'.column = some (.int w'.id)) = 0 := by
            refine List.countP_eq_zero.mpr fun row mem owned => own ?_
            rw [column] at owned
            simpa [Json.int] using (of_decide_eq_true owned).symm.trans (named row mem)
          rw [none, Nat.add_zero]
          exact h.few w' kind
      · exact h.few w' kind'

end Document.Belonging

end OfferBook
