import OfferBook.Proofs.Sheets.Keeping
import OfferBook.Proofs.Sheets.Order

/-! # Saved sheets stay as they are

* `LineItems.ReadsAs` — the sheets that an input is read back as.
* `Document.Stores` — a document with the sheets of an input; `LineItems.sheets_ends` — they are
  read back as the input's.
* `Calculations.get_saved`, `Offers.get_saved` — what is stored with a row is found by its id.
* `Office.sheets_stay_frozen` — what becomes of the sheets that an office has saved.
-/

namespace OfferBook

/-- The items as they are stored, each with its number. -/
def LineItems.numbered (items : List GarmentItemInput) : List GarmentItem :=
  items.mapIdx fun i item => ⟨item.numberAt i, item.costs.normalize⟩

/-- The sheets that an input is read back as. -/
def LineItems.ReadsAs : SheetKind → List GarmentItemInput → Option WarehousingInput → Sheets → Prop
  | .garment, items, _, sheets =>
    GarmentItem.StablySorted (numbered items) sheets.items ∧ sheets.warehousing = none
  | .warehousing, _, w, sheets =>
    sheets.items = [] ∧ sheets.warehousing = w.map SheetInput.normalize

/-- The rows of an input's sheets, and no other rows of their owner. -/
def Document.Stores (doc : Document) (w : Owner) : SheetKind → List GarmentItemInput →
    Option WarehousingInput → Prop
  | .garment, items, _ =>
    ∃ now lastId, doc.owned w w.garmentTable = Change.itemRows now w 0 lastId items
  | .warehousing, _, some input => ∃ now id,
    doc.owned w w.warehousingTable = [(LineItems.warehousingRow w input).row now [] id]
  | .warehousing, _, none => doc.owned w w.warehousingTable = []

/-! ## Reading sheets -/

namespace LineItems

open Office

variable {m : Type} {o : Office m} {w : Owner}

theorem filter_eq_owned (doc : Document) (now : Instant) (w : Owner) (t : String) :
    (doc.table t).filter (Test.allHold (Condition.bindAll now none [] [w.owns]).1) =
      doc.owned w t := by
  refine List.filter_congr fun row _ => ?_
  change (Json.matchesValue (row.get? w.column) (.int w.id) && true) = _
  rw [Bool.and_true]
  rfl

theorem rows_items (doc : Document) (now : Instant) (w : Owner) :
    ((Select.matching w.garmentTable [w.owns]).ordered (.bare itemNumberField) false).rows now []
      doc = OrderBy.sort none ⟨.bare itemNumberField, false⟩ (doc.owned w w.garmentTable) := by
  rw [Select.rows_ordered, filter_eq_owned]

theorem mapM_of_map_eq {α β : Type} {f : α → Option β} {l : List α} {bs : List β}
    (h : l.map f = bs.map some) : l.mapM f = some bs := by
  induction l generalizing bs with
  | nil =>
    cases bs with
    | nil => rfl
    | cons b rest => exact absurd h (by simp)
  | cons a rest ih =>
    cases bs with
    | nil => exact absurd h (by simp)
    | cons b bs =>
      obtain ⟨first, others⟩ := List.cons.inj h
      rw [List.mapM_cons, first, ih others]
      rfl

theorem map_eq_of_mapM {α β : Type} {f : α → Option β} {l : List α} {bs : List β}
    (h : l.mapM f = some bs) : l.map f = bs.map some := by
  induction l generalizing bs with
  | nil =>
    obtain rfl := Option.some.inj h
    rfl
  | cons a rest ih =>
    rw [List.mapM_cons] at h
    obtain ⟨b, first, h⟩ := Option.bind_eq_some_iff.mp h
    obtain ⟨bs, others, h⟩ := Option.bind_eq_some_iff.mp h
    obtain rfl := Option.some.inj h
    rw [List.map_cons, first, ih others, List.map_cons]

theorem read_items (now : Instant) (lastId : Int) {items : List GarmentItemInput}
    (fits : NumbersFit items) :
    (OrderBy.sort none ⟨.bare itemNumberField, false⟩
      (Change.itemRows now w 0 lastId items)).mapM GarmentItem.ofRecord? =
        some ((numbered items).mergeSort fun a b => (GarmentItem.compare a b).isLE) := by
  have read : (Change.itemRows now w 0 lastId items).map GarmentItem.ofRecord? =
      (numbered items).map some := by
    refine List.ext_getElem? fun i => ?_
    simp only [Change.itemRows, numbered, List.getElem?_map, List.getElem?_mapIdx,
      Option.map_map]
    cases found : items[i]? with
    | none => rfl
    | some item =>
      have fits' : fitsSigned (item.numberAt (0 + i)) = true := by
        rw [Nat.zero_add]
        exact fits i item found
      have same := GarmentItem.ofRecord?_itemRow w now (lastId + 1 + i) fits'
      rw [Nat.zero_add] at same
      simpa using same
  -- Rows are sorted by the field that items are sorted by once they are read.
  have number : ∀ row ∈ Change.itemRows now w 0 lastId items,
      row.get? itemNumberField = (GarmentItem.ofRecord? row).map fun i => .int i.number := by
    intro row mem
    obtain ⟨i, inside, rfl⟩ := List.mem_mapIdx.mp mem
    rw [get?_itemRow_number, Nat.zero_add,
      GarmentItem.ofRecord?_itemRow w now _ (fits i _ (List.getElem?_eq_getElem inside))]
    rfl
  refine mapM_of_map_eq ?_
  rw [OrderBy.sort, List.map_mergeSort (s := fun a b => (Json.compareValues
    (a.map fun i => .int i.number) (b.map fun i => .int i.number)).isLE), read]
  · exact (List.map_mergeSort (f := some) fun _ _ _ _ => rfl).symm
  · intro a ha b hb
    rw [← number a ha, ← number b hb]
    exact Bool.eq_iff_iff.mpr OrderBy.precedes_iff

theorem sheets_ends {kind : SheetKind} {items : List GarmentItemInput}
    {warehousing : Option WarehousingInput}
    (stored : o.store.document.Stores w kind items warehousing) (fits : NumbersFit items) :
    Ends (sheets w kind) o (fun found _ => ReadsAs kind items warehousing found)
      fun _ _ => False := by
  match kind, warehousing, stored with
  | .garment, _, stored =>
    obtain ⟨now, lastId, rows⟩ := stored
    refine ends_bind.mpr ?_
    rw [LineItems.items, ends_selectAll, rows_items, rows, read_items now lastId fits]
    exact ends_pure.mpr ⟨GarmentItem.stablySorted_mergeSort _, rfl⟩
  | .warehousing, some input, stored =>
    obtain ⟨now, id, rows⟩ := stored
    refine ends_bind.mpr ?_
    rw [LineItems.warehousing, ends_selectFirst, Select.rows_matching, filter_eq_owned, rows,
      List.head?_cons]
    simp only [CostSheet.ofRecord?_warehousingRow]
    exact ends_pure.mpr ⟨rfl, rfl⟩
  | .warehousing, none, stored =>
    refine ends_bind.mpr ?_
    have rows : o.store.document.owned w w.warehousingTable = [] := stored
    rw [LineItems.warehousing, ends_selectFirst, Select.rows_matching, filter_eq_owned, rows]
    exact ends_pure.mpr ⟨rfl, rfl⟩

end LineItems

/-! ## Saved sheets -/

/-- The column with the kind of an owner's sheets. -/
def Owner.kindColumn : Owner → String
  | .calculation _ => "calculation_type"
  | .offer _ => "offer_type"

/-- A row of an owner, and the sheets of an input that belong to it. -/
structure Document.Saved (doc : Document) (w : Owner) (kind : SheetKind)
    (items : List GarmentItemInput) (warehousing : Option WarehousingInput) : Prop where
  fits : fitsSigned w.id = true
  given : w.id ≤ doc.lastId w.table
  numbers : LineItems.NumbersFit items
  row : ∃ (k : Nat) (row : Record), w.id = k + 1 ∧ (doc.table w.table)[k]? = some row ∧
    row.get? w.kindColumn = some (.text kind.name) ∧
    Field.MayBeSigned (row.get? "source_calculation_id")
  stored : doc.Stores w kind items warehousing

namespace Office

variable {m : Type} {offerPrefix : String} {o o' : Office m} {w : Owner} {kind : SheetKind}
  {items : List GarmentItemInput} {warehousing : Option WarehousingInput}

theorem saved_of_keeps (h : o.store.document.Saved w kind items warehousing) (keeps : Keeps o o') :
    o'.store.document.Saved w kind items warehousing := by
  obtain ⟨k, row, numbered, hk, kindOf, source⟩ := h.row
  have kindFrozen : (w.table, w.kindColumn) ∈ frozenFields := by
    cases w <;> simp [frozenFields, Owner.table, Owner.kindColumn]
  have sourceFrozen : (w.table, "source_calculation_id") ∈ frozenFields := by
    cases w <;> simp [frozenFields, Owner.table]
  obtain ⟨row', hk', same⟩ := keeps.field _ _ kindFrozen k row hk
  obtain ⟨row'', hk'', same'⟩ := keeps.field _ _ sourceFrozen k row hk
  obtain rfl : row' = row'' := Option.some.inj (hk'.symm.trans hk'')
  -- The id has been given out, so that nothing is added for this owner any more.
  have owned (t : String) (ht : t ∈ w.sheetTables) := keeps.owned w t ht h.fits (.inl h.given)
  refine ⟨h.fits, Int.le_trans h.given (keeps.lastId _), h.numbers, ⟨k, row', numbered, hk',
    same.trans kindOf, same' ▸ source⟩, ?_⟩
  match kind, warehousing, h.stored with
  | .garment, _, ⟨now, lastId, rows⟩ =>
    exact ⟨now, lastId, (owned _ w.garmentTable_mem).trans rows⟩
  | .warehousing, some _, ⟨now, id, rows⟩ =>
    exact ⟨now, id, (owned _ w.warehousingTable_mem).trans rows⟩
  | .warehousing, none, rows => exact (owned _ w.warehousingTable_mem).trans rows

theorem stores_of_reaches (before : List Change)
    (reached : Reaches o (before ++ LineItems.changes w kind items warehousing) o')
    (fits : fitsSigned w.id = true)
    (spare : ∀ t ∈ w.sheetTables, ∀ c ∈ before, c.Spares t)
    (empty : ∀ t ∈ w.sheetTables, o.store.document.owned w t = []) :
    o'.store.document.Stores w kind items warehousing := by
  have start (t : String) (ht : t ∈ w.sheetTables) :
      (Change.applyAll o.now before o.store.document).owned w t = [] :=
    (Change.owned_of_spares (spare t ht) w).trans (empty t ht)
  rw [reached.document, Change.applyAll_append, LineItems.changes, if_pos fits]
  generalize Change.applyAll o.now before o.store.document = doc at start ⊢
  cases kind with
  | garment =>
    refine ⟨o.now, doc.lastId w.garmentTable, (Change.owned_items fits 0 items).trans ?_⟩
    rw [start _ w.garmentTable_mem, List.nil_append]
  | warehousing =>
    cases warehousing with
    | none => exact start _ w.warehousingTable_mem
    | some input =>
      refine ⟨o.now, doc.lastId w.warehousingTable + 1,
        (Change.owned_warehousing fits input).trans ?_⟩
      rw [start _ w.warehousingTable_mem, List.nil_append]

/-- A row is stored, and after it its sheets. -/
theorem saved_of_reaches {a : Change} {s : Insert} {rows : List Record} {row : Record}
    (reached : Reaches o (a :: .insert s :: LineItems.changes w kind items warehousing) o')
    (table : s.table = w.table) (numbered : w.id = o.store.document.lastId w.table + 1)
    (fits : fitsSigned w.id = true) (numbers : LineItems.NumbersFit items)
    (spares : ∀ t ∈ w.sheetTables, a.Spares t)
    (empty : ∀ t ∈ w.sheetTables, o.store.document.owned w t = [])
    (stored : o'.store.document.table w.table = rows ++ [row])
    (counted : o.store.document.lastId w.table = rows.length)
    (kindOf : row.get? w.kindColumn = some (.text kind.name))
    (source : Field.MayBeSigned (row.get? "source_calculation_id")) :
    o'.store.document.Saved w kind items warehousing where
  fits := fits
  given := by
    rw [numbered, reached.document, ← table]
    exact Change.lastId_lt_applyAll (by simp)
  numbers := numbers
  row := ⟨rows.length, row, by rw [numbered, counted], by simp [stored], kindOf, source⟩
  stored := by
    refine stores_of_reaches [a, .insert s] reached fits (fun t ht => ?_) empty
    have apart : s.table ≠ t := by
      obtain ⟨calculations, offers, -⟩ := Owner.sheetTables_apart ht
      cases w
      · exact table ▸ calculations.symm
      · exact table ▸ offers.symm
    simpa [Change.Spares] using ⟨spares t ht, apart⟩

/-- No sheets belong to owners that are yet to come. -/
def NoneBeyond (o : Office m) : Prop :=
  ∀ (w : Owner) (t : String), t ∈ w.sheetTables → fitsSigned w.id = true →
    o.store.document.lastId w.table < w.id → o.store.document.owned w t = []

theorem IsNew.noneBeyond (h : o.IsNew) (keeps : Keeps o o') : o'.NoneBeyond := by
  intro w t ht fits beyond
  rw [keeps.owned w t ht fits (.inr beyond), Document.owned, (h.isEmpty t).1]
  rfl

end Office

namespace Calculations

open Office

variable {m : Type} {offerPrefix : String} {o : Office m} {kind : SheetKind}
  {items : List GarmentItemInput} {warehousing : Option WarehousingInput}

theorem require_found (h : Regular form table o.store.document) {k : Nat} {row : Record}
    (hk : (o.store.document.table table)[k]? = some row) (fits : fitsSigned (k + 1) = true) :
    Ends (require (k + 1)) o (fun c o' => Calculation.Shown row c ∧ o' = o) fun _ _ => False := by
  obtain ⟨c, read, shown⟩ := Calculation.exists_shown
    (joined_of_admits (h.admits row (List.mem_of_getElem? hk))) (h.numbered k row hk) fits
  simp only [require, find, ends_bind, ends_storage, ends_selectFirst, Select.rows_matching,
    h.head?_named hk fits, read]
  exact ends_pure.mpr ⟨shown, rfl⟩

variable [Medium m]

theorem create_saved (h : o.Sound) (empty : o.NoneBeyond) {input : CalculationInput}
    (given : LineItems.GivenFit input.items) (caller : Caller) :
    Ends (create offerPrefix input caller) o
      (fun saved o' => o'.Sound ∧ o'.store.document.Saved (.calculation saved.id) input.kind
        input.items input.warehousing)
      fun _ _ => True := by
  rw [create_ends]
  split
  · next kunde valid =>
    refine Ends.mono (createAs_writes ..) ?_ fun _ _ _ => trivial
    rintro saved o' ⟨⟨id, -, -, fits⟩, written, reached, aside⟩
    have reached' : Reaches o _ written := reached.of_takeUuid
    have rows := Holds.of_first (List.prefix_refl _) reached'
    have core : Core offerPrefix o written :=
      .first (Nat.le_refl _) reached.taken (List.prefix_refl _) reached' (validate_ok valid).2
    have saved_written : written.store.document.Saved (.calculation saved.id) input.kind
        input.items input.warehousing := by
      rw [id] at fits ⊢
      refine saved_of_reaches (w := .calculation _) reached' rfl rfl fits
        (LineItems.numbersFit_of_validate given (validate_ok valid).2)
        (fun t ht => (Owner.sheetTables_apart ht).2.2.symm)
        (fun t ht => empty _ t ht fits (Int.lt_succ _)) rows.calculations
        h.calculations.lastId ?_ ?_
      · exact get?_firstRow (by simp [rowFields, Owner.kindColumn])
      · exact .inl (get?_row_of_notMem (by simp [rowFields]) (by simp) (by simp) _)
    exact ⟨(h.core core).aside aside, saved_of_keeps saved_written aside.keeps⟩
  · trivial

theorem update_saved (h : o.Sound) (empty : o.NoneBeyond) (id : Int) {input : CalculationInput}
    (given : LineItems.GivenFit input.items) (caller : Caller) :
    Ends (update offerPrefix id input caller) o
      (fun saved o' => o'.Sound ∧ o'.store.document.Saved (.calculation saved.id) input.kind
        input.items input.warehousing)
      fun _ _ => True := by
  refine update_ends h.calculations (fun _ => trivial) fun kunde head row valid isHead _ => ?_
  refine Ends.mono (extend_writes ..) ?_ fun _ _ _ => trivial
  rintro saved o' ⟨⟨id, -, -, fits⟩, written, reached, aside⟩
  have rows := Holds.of_next (List.prefix_refl _) reached
  have core : Core offerPrefix o written :=
    .next isHead (List.prefix_refl _) reached (validate_ok valid).2
  have saved_written : written.store.document.Saved (.calculation saved.id) input.kind
      input.items input.warehousing := by
    rw [id] at fits ⊢
    refine saved_of_reaches (w := .calculation _) reached rfl rfl fits
      (LineItems.numbersFit_of_validate given (validate_ok valid).2)
      (fun t ht => (Owner.sheetTables_apart ht).1.symm)
      (fun t ht => empty _ t ht fits (Int.lt_succ _)) rows.calculations
      (h.calculations.lastId.trans (by simp [retired, Office.calculations])) ?_ ?_
    · exact get?_nextRow (by simp [rowFields, Owner.kindColumn])
    · exact .inl (get?_row_of_notMem (by simp [rowFields]) (by simp) (by simp) _)
  exact ⟨(h.core core).aside aside, saved_of_keeps saved_written aside.keeps⟩

theorem get_saved (h : o.Sound) {id : Int}
    (saved : o.store.document.Saved (.calculation id) kind items warehousing) :
    Ends (get offerPrefix id) o
      (fun detail _ => LineItems.ReadsAs kind items warehousing detail.sheets)
      fun _ _ => False := by
  obtain ⟨k, row, numbered, hk, kindOf, -⟩ := saved.row
  obtain rfl : id = k + 1 := numbered
  refine ends_bind.mpr (Ends.mono (require_found h.calculations hk saved.fits) ?_ fun _ _ => id)
  rintro c o' ⟨shown, rfl⟩
  have same : c.id = k + 1 := by
    simpa [h.calculations.numbered k row hk, Json.int, eq_comm] using shown.id
  have sameKind : c.kind = kind := Field.kind_eq_of_name shown.kind kindOf
  refine ends_storage.mpr ?_
  rw [detail, backfill_eq shown]
  refine ends_bind.mpr (ends_pure.mpr (ends_bind.mpr ?_))
  rw [same, sameKind]
  exact Ends.mono (LineItems.sheets_ends saved.stored saved.numbers)
    (fun found _ reads => ends_pure.mpr reads) fun _ _ => False.elim

end Calculations

namespace Offers

open Office

variable {m : Type} {offerPrefix : String} {o : Office m} {kind : SheetKind}
  {items : List GarmentItemInput} {warehousing : Option WarehousingInput}

theorem require_found (h : Regular form table o.store.document) {k : Nat} {row : Record}
    (hk : (o.store.document.table table)[k]? = some row) (fits : fitsSigned (k + 1) = true)
    (source : ∃ source, Fields.optional "source_calculation_id" Strict.integer? row.entries =
      some source) :
    Ends (require (k + 1)) o (fun offer o' => Offer.Shown row offer ∧ o' = o)
      fun _ _ => False := by
  obtain ⟨offer, read, shown⟩ := Offer.exists_shown
    (joined_of_admits (h.admits row (List.mem_of_getElem? hk))) (h.numbered k row hk) fits source
  simp only [require, ends_bind, ends_storage, ends_selectFirst, Select.rows_matching,
    h.head?_named hk fits, read]
  exact ends_pure.mpr ⟨shown, rfl⟩

variable [Medium m]

theorem create_saved (h : o.Sound) (empty : o.NoneBeyond) {input : OfferInput}
    (given : LineItems.GivenFit input.items) (source : ∀ id ∈ input.source, fitsSigned id = true)
    (caller : Caller) :
    Ends (create offerPrefix input caller) o
      (fun saved o' => o'.Sound ∧ o'.store.document.Saved (.offer saved.id) input.kind
        input.items input.warehousing)
      fun _ _ => True := by
  rw [create_ends]
  split
  · next valid =>
    refine Ends.mono (createAs_writes ..) ?_ fun _ _ _ => trivial
    rintro saved o' ⟨⟨id, fitsId⟩, written, reached, aside⟩
    have reached' : Reaches o _ written := reached.of_takeUuid
    have rows := Holds.of_offer (List.prefix_refl _) reached'
    have core : Core offerPrefix o written :=
      .offer (List.prefix_refl _) reached' valid
    have saved_written : written.store.document.Saved (.offer saved.id) input.kind
        input.items input.warehousing := by
      rw [id] at fitsId ⊢
      refine saved_of_reaches (w := .offer _) reached' rfl rfl fitsId
        (LineItems.numbersFit_of_validate given valid)
        (fun t ht => (Owner.sheetTables_apart ht).2.2.symm)
        (fun t ht => empty _ t ht fitsId (Int.lt_succ _)) rows.offers h.offers.lastId ?_ ?_
      · exact get?_row_of_mem (by simp [rowFields, Owner.kindColumn]) _
      · have stored : (offerRow offerPrefix o (o.supply.uuid o.supply.uuidsTaken) input
            caller).get? "source_calculation_id" = some (Json.ofOption .int input.source) :=
          get?_row_of_mem (by simp [rowFields]) _
        rw [stored]
        exact Field.mayBeSigned_ofOption source
    exact ⟨(h.core core).aside aside, saved_of_keeps saved_written aside.keeps⟩
  · trivial

theorem get_saved (h : o.Sound) {id : Int}
    (saved : o.store.document.Saved (.offer id) kind items warehousing) :
    Ends (get offerPrefix id) o
      (fun detail _ => LineItems.ReadsAs kind items warehousing detail.sheets)
      fun _ _ => False := by
  obtain ⟨k, row, numbered, hk, kindOf, source⟩ := saved.row
  obtain rfl : id = k + 1 := numbered
  refine ends_bind.mpr (Ends.mono (require_found h.offers hk saved.fits
    (Fields.optional_of_mayBeSigned source)) ?_ fun _ _ => id)
  rintro offer o' ⟨shown, rfl⟩
  have sameKind : offer.kind = kind := Field.kind_eq_of_name shown.kind kindOf
  refine ends_storage.mpr ?_
  rw [detail, backfill_eq shown]
  refine ends_bind.mpr (ends_pure.mpr (ends_bind.mpr ?_))
  rw [sameKind]
  exact Ends.mono (LineItems.sheets_ends saved.stored saved.numbers)
    (fun found _ reads => ends_pure.mpr reads) fun _ _ => False.elim

end Offers

/-! ## Runs -/

namespace Office

variable {m α β : Type} [Medium m] {offerPrefix : String} {o o' : Office m}

/-- Whatever is asked of an office, the sheets of an input are read back at any time after. -/
def ReadsBack (offerPrefix : String) (o : Office m) (get : Service m α) (sheets : α → Sheets)
    (kind : SheetKind) (items : List GarmentItemInput) (warehousing : Option WarehousingInput) :
    Prop :=
  ∀ (later : List Request) (now : Instant), ∃ found o',
    get.run.run ((serveAll offerPrefix o later).setNow now) = (.ok found, o') ∧
      LineItems.ReadsAs kind items warehousing (sheets found)

/-- What is saved for an owner, and read whenever it is saved, is read back ever after. -/
theorem readsBack_of_saved {act : Service m β} {get : Service m α} {sheets : α → Sheets}
    {owner : β → Owner} {kind : SheetKind} {items : List GarmentItemInput}
    {warehousing : Option WarehousingInput} {saved : β}
    (saves : Ends act o (fun saved o' => o'.Sound ∧
      o'.store.document.Saved (owner saved) kind items warehousing) fun _ _ => True)
    (run : act.run.run o = (.ok saved, o'))
    (reads : ∀ o : Office m, o.Sound →
      o.store.document.Saved (owner saved) kind items warehousing →
      Ends get o (fun found _ => LineItems.ReadsAs kind items warehousing (sheets found))
        fun _ _ => False) :
    ReadsBack offerPrefix o' get sheets kind items warehousing := by
  intro later now
  -- What is saved outlasts the later requests, and reading it cannot fail.
  obtain ⟨sound, stored⟩ := saves.of_ok run
  obtain ⟨sound', keeps⟩ : (serveAll offerPrefix o' later).Sound ∧ Keeps o' _ :=
    serveAll_keeps sound later
  have still : (serveAll offerPrefix o' later).store.document.Saved (owner saved) kind items
      warehousing := saved_of_keeps stored keeps
  exact (reads ((serveAll offerPrefix o' later).setNow now) ⟨sound'.calculations, sound'.offers⟩
    still).exists_ok

/-- Whatever was asked of a new office, and whichever saves fail, the sheets of what is created or
    edited next are read back under the id that was returned, whatever is asked after. -/
theorem sheets_stay_frozen (h : o.IsNew) (rs : List Request) (now : Instant) (caller : Caller) :
    (∀ (input : CalculationInput) (saved : SavedVersion) (o' : Office m),
      LineItems.GivenFit input.items →
      ((Calculations.create offerPrefix input caller).run.run
          ((serveAll offerPrefix o rs).setNow now) = (.ok saved, o') ∨
        ∃ id, (Calculations.update offerPrefix id input caller).run.run
          ((serveAll offerPrefix o rs).setNow now) = (.ok saved, o')) →
      ReadsBack offerPrefix o' (Calculations.get offerPrefix saved.id) CalculationDetail.sheets
        input.kind input.items input.warehousing) ∧
    ∀ (input : OfferInput) (saved : SavedOffer) (o' : Office m),
      LineItems.GivenFit input.items → (∀ id ∈ input.source, fitsSigned id = true) →
      (Offers.create offerPrefix input caller).run.run
        ((serveAll offerPrefix o rs).setNow now) = (.ok saved, o') →
      ReadsBack offerPrefix o' (Offers.get offerPrefix saved.id) OfferDetail.sheets
        input.kind input.items input.warehousing := by
  obtain ⟨sound, keeps⟩ : (serveAll offerPrefix o rs).Sound ∧ Keeps o _ :=
    serveAll_keeps h.sound rs
  have before : ((serveAll offerPrefix o rs).setNow now).Sound :=
    ⟨sound.calculations, sound.offers⟩
  have empty : ((serveAll offerPrefix o rs).setNow now).NoneBeyond :=
    (h.noneBeyond keeps : (serveAll offerPrefix o rs).NoneBeyond)
  refine ⟨?_, ?_⟩
  · rintro input saved o' given (run | ⟨id, run⟩)
    · exact readsBack_of_saved (Calculations.create_saved before empty given caller) run
        fun _ sound => Calculations.get_saved sound
    · exact readsBack_of_saved (Calculations.update_saved before empty id given caller) run
        fun _ sound => Calculations.get_saved sound
  · intro input saved o' given source run
    exact readsBack_of_saved (Offers.create_saved before empty given source caller) run
      fun _ sound => Offers.get_saved sound

/-- A garment with nothing but a number and a price. -/
def pricedGarment (number : Option Int) (price : String) : GarmentItemInput :=
  ⟨number, some (.text price) :: List.replicate 15 none, List.replicate 10 none, rfl, rfl⟩

/-- The second garment comes first. -/
def twoGarments : List GarmentItemInput :=
  [pricedGarment (some 2) "1.234,50", pricedGarment (some 1) "7"]

theorem edit_of_garments_succeeds :
    ∃ saved o', (Calculations.update "FHD" 1 (calculationOf twoGarments) somebody).run.run
        ((serveAll "FHD" inMemory dayBefore).setNow 86400000) = (.ok saved, o') ∧
      (saved.id == 2) = true := exists_of_ok (by decide +kernel)

theorem offer_succeeds :
    ∃ saved o', (Offers.create "FHD" emptyOffer somebody).run.run
        ((serveAll "FHD" inMemory dayBefore).setNow 86400000) = (.ok saved, o') ∧
      (saved.id == 1) = true := exists_of_ok (by decide +kernel)

theorem sheets_frozen_from_second_day :
    (∃ saved o', (Calculations.update "FHD" 1 (calculationOf twoGarments) somebody).run.run
        ((serveAll "FHD" inMemory dayBefore).setNow 86400000) = (.ok saved, o') ∧ saved.id = 2 ∧
      ReadsBack "FHD" o' (Calculations.get "FHD" saved.id) CalculationDetail.sheets .garment
        twoGarments none) ∧
    ∃ saved o', (Offers.create "FHD" emptyOffer somebody).run.run
        ((serveAll "FHD" inMemory dayBefore).setNow 86400000) = (.ok saved, o') ∧ saved.id = 1 ∧
      ReadsBack "FHD" o' (Offers.get "FHD" saved.id) OfferDetail.sheets .warehousing [] none := by
  have frozen := @sheets_stay_frozen Memory _ "FHD" inMemory (isNew_opened _ 0) dayBefore 86400000
    somebody
  obtain ⟨saved, o', run, second⟩ := edit_of_garments_succeeds
  obtain ⟨offered, o'', run', first⟩ := offer_succeeds
  refine ⟨⟨saved, o', run, eq_of_beq second, ?_⟩, ⟨offered, o'', run', eq_of_beq first, ?_⟩⟩
  · have given : LineItems.GivenFit twoGarments := by
      simp [LineItems.GivenFit, twoGarments, pricedGarment, fitsSigned]
    exact frozen.1 (calculationOf twoGarments) saved o' given (.inr ⟨1, run⟩)
  · exact frozen.2 emptyOffer offered o'' (by simp [LineItems.GivenFit, emptyOffer])
      (by simp [emptyOffer]) run'

end Office

end OfferBook
