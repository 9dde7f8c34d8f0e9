import OfferBook.Proofs.Office.Growth
import OfferBook.Proofs.Sheets.Rows

/-! # To whom rows of sheets belong

* `Document.owned` — the rows that belong to an owner.
* `Change.owned_of_sheets` — sheets of one owner are nothing to another one.
* `Change.owned_items`, `Change.owned_warehousing` — the rows of sheets that are stored.
* `Change.Freezes` — changes that leave a column alone in all rows that there are.
-/

namespace OfferBook

namespace Owner

/-- The table with the row to which sheets belong. -/
def table : Owner → String
  | calculation _ => Calculations.table
  | offer _ => Offers.table

/-- The tables of sheets. -/
def sheetTables (w : Owner) : List String := [w.garmentTable, w.warehousingTable]

theorem garmentTable_mem (w : Owner) : w.garmentTable ∈ w.sheetTables := List.mem_cons_self

theorem warehousingTable_mem (w : Owner) : w.warehousingTable ∈ w.sheetTables :=
  List.mem_cons_of_mem _ List.mem_cons_self

/-- Sheets of calculations and of offers are kept apart. -/
theorem column_eq_of_mem {w w' : Owner} {t : String} (h : t ∈ w.sheetTables)
    (h' : t ∈ w'.sheetTables) : w.column = w'.column ∧ (w ≠ w' → w.id ≠ w'.id) := by
  cases w <;> cases w'
  case calculation.calculation => exact ⟨rfl, fun ne same => ne (congrArg calculation same)⟩
  case offer.offer => exact ⟨rfl, fun ne same => ne (congrArg offer same)⟩
  all_goals
    simp only [sheetTables, garmentTable, warehousingTable, List.mem_cons, List.not_mem_nil,
      or_false] at h h'
    rcases h with rfl | rfl <;> simp at h'

theorem sheetTables_apart {w : Owner} {t : String} (h : t ∈ w.sheetTables) :
    t ≠ Calculations.table ∧ t ≠ Offers.table ∧ t ≠ Document.countersTable := by
  cases w <;>
    simp only [sheetTables, garmentTable, warehousingTable, List.mem_cons, List.not_mem_nil,
      or_false] at h <;>
    rcases h with rfl | rfl <;> decide

/-- Another owner of the same sort. -/
def withId (w : Owner) (id : Int) : Owner :=
  match w with
  | calculation _ => calculation id
  | offer _ => offer id

@[simp] theorem withId_id (w : Owner) (id : Int) : (w.withId id).id = id := by cases w <;> rfl

@[simp] theorem withId_self (w : Owner) : w.withId w.id = w := by cases w <;> rfl

@[simp] theorem withId_table (w : Owner) (id : Int) : (w.withId id).table = w.table := by
  cases w <;> rfl

@[simp] theorem withId_column (w : Owner) (id : Int) : (w.withId id).column = w.column := by
  cases w <;> rfl

@[simp] theorem withId_garmentTable (w : Owner) (id : Int) :
    (w.withId id).garmentTable = w.garmentTable := by cases w <;> rfl

@[simp] theorem withId_warehousingTable (w : Owner) (id : Int) :
    (w.withId id).warehousingTable = w.warehousingTable := by cases w <;> rfl

end Owner

/-- Whether a row belongs to an owner. -/
def Owner.has (w : Owner) (row : Record) : Bool :=
  Json.matchesValue (row.get? w.column) (.int w.id)

/-- The rows of a table that belong to an owner. -/
def Document.owned (doc : Document) (w : Owner) (t : String) : List Record :=
  (doc.table t).filter w.has

theorem Document.owned_congr {doc doc' : Document} {t : String} (h : doc'.table t = doc.table t)
    (w : Owner) : doc'.owned w t = doc.owned w t := congrArg (List.filter w.has) h

namespace Change

variable {now : Instant} {doc : Document} {w : Owner} {t : String}

theorem owned_of_spares {changes : List Change} (h : ∀ c ∈ changes, c.Spares t) (w : Owner) :
    (applyAll now changes doc).owned w t = doc.owned w t :=
  Document.owned_congr (applyAll_of_spares h).1 w

theorem owned_insert (s : Insert) (w : Owner) :
    ((insert s).apply now doc).owned w s.table = doc.owned w s.table ++
      if w.has (s.row now [] (doc.lastId s.table + 1))
        then [s.row now [] (doc.lastId s.table + 1)] else [] := by
  unfold Document.owned
  rw [table_insert, if_pos rfl, List.filter_append, List.filter_cons]
  rfl

theorem owned_insert_of_ne {s : Insert} {w' : Owner} (ht : t ∈ w.sheetTables)
    (hs : s.table ∈ w'.sheetTables)
    (named : ∀ id, (s.row now [] id).get? w'.column = some (.int w'.id))
    (fits : fitsSigned w.id = true) (fits' : fitsSigned w'.id = true) (ne : w ≠ w') :
    ((insert s).apply now doc).owned w t = doc.owned w t := by
  by_cases same : t = s.table
  · subst same
    obtain ⟨column, apart⟩ := Owner.column_eq_of_mem ht hs
    have foreign (id : Int) : w.has (s.row now [] id) = false := by
      rw [Owner.has, column, named, Json.matchesValue_int fits' fits]
      exact decide_eq_false (apart ne).symm
    rw [owned_insert, foreign]
    exact List.append_nil _
  · exact Document.owned_congr (by rw [table_insert, if_neg same]) w

theorem owned_insert_self {s : Insert}
    (named : ∀ id, (s.row now [] id).get? w.column = some (.int w.id))
    (fits : fitsSigned w.id = true) :
    ((insert s).apply now doc).owned w s.table =
      doc.owned w s.table ++ [s.row now [] (doc.lastId s.table + 1)] := by
  have own (id : Int) : w.has (s.row now [] id) = true := by
    rw [Owner.has, named, Json.matchesValue_int fits fits]
    exact decide_eq_true rfl
  rw [owned_insert, own]
  rfl

theorem owned_of_sheets {w' : Owner} {kind : SheetKind} {items : List GarmentItemInput}
    {warehousing : Option WarehousingInput} {sheets : List Change}
    (part : ∀ c ∈ sheets, c ∈ LineItems.changes w' kind items warehousing)
    (ht : t ∈ w.sheetTables) (fits : fitsSigned w.id = true) (ne : w ≠ w') :
    (applyAll now sheets doc).owned w t = doc.owned w t := by
  refine applyAll_induction (P := fun d => d.owned w t = doc.owned w t) (fun c hc d same => ?_) rfl
  rw [← same]
  obtain ⟨fits', ⟨place, item, rfl⟩ | ⟨input, rfl⟩⟩ := LineItems.sheet_of_mem (part c hc)
  · exact owned_insert_of_ne ht w'.garmentTable_mem
      (fun id => LineItems.get?_itemRow_owner w' now id place item) fits fits' ne
  · exact owned_insert_of_ne ht w'.warehousingTable_mem
      (fun id => LineItems.get?_warehousingRow_owner w' now id input) fits fits' ne

/-! ## Rows that are stored -/

/-- The rows of items, counting ids and places up. -/
def itemRows (now : Instant) (w : Owner) (place : Nat) (lastId : Int)
    (items : List GarmentItemInput) : List Record :=
  items.mapIdx fun i item => (LineItems.itemRow w (place + i) item).row now [] (lastId + 1 + i)

theorem itemRows_cons (now : Instant) (w : Owner) (place : Nat) (lastId : Int)
    (item : GarmentItemInput) (rest : List GarmentItemInput) :
    itemRows now w place lastId (item :: rest) =
      (LineItems.itemRow w place item).row now [] (lastId + 1) ::
        itemRows now w (place + 1) (lastId + 1) rest := by
  simp only [itemRows, List.mapIdx_cons]
  refine congr (congrArg _ ?_) (List.mapIdx_eq_mapIdx_iff.mpr fun i _ => ?_)
  · simp
  · rw [Nat.add_comm i 1, ← Nat.add_assoc, Int.natCast_add, ← Int.add_assoc]
    rfl

theorem owned_items (fits : fitsSigned w.id = true) (place : Nat)
    (items : List GarmentItemInput) :
    (applyAll now (LineItems.itemChanges w place items) doc).owned w w.garmentTable =
      doc.owned w w.garmentTable ++ itemRows now w place (doc.lastId w.garmentTable) items := by
  induction items generalizing place doc with
  | nil => exact (List.append_nil _).symm
  | cons item rest ih =>
    have first : ((insert (LineItems.itemRow w place item)).apply now doc).owned w
        w.garmentTable = doc.owned w w.garmentTable ++
          [(LineItems.itemRow w place item).row now [] (doc.lastId w.garmentTable + 1)] :=
      owned_insert_self (fun id => LineItems.get?_itemRow_owner w now id place item) fits
    have next : ((insert (LineItems.itemRow w place item)).apply now doc).lastId w.garmentTable =
        doc.lastId w.garmentTable + 1 := (lastId_insert _ _).trans (if_pos rfl)
    rw [LineItems.itemChanges_cons, applyAll_cons, ih, itemRows_cons, first, next,
      List.append_assoc]
    rfl

theorem owned_warehousing (fits : fitsSigned w.id = true) (input : WarehousingInput) :
    (applyAll now [.insert (LineItems.warehousingRow w input)] doc).owned w w.warehousingTable =
      doc.owned w w.warehousingTable ++
        [(LineItems.warehousingRow w input).row now [] (doc.lastId w.warehousingTable + 1)] :=
  owned_insert_self (fun id => LineItems.get?_warehousingRow_owner w now id input) fits

/-! ## Columns that are left alone -/

/-- A change that leaves a column of a table alone in all rows that there are. -/
def Freezes (t column : String) : Change → Prop
  | .update s => s.table = t → column ∉ s.assignments.map Prod.fst
  | _ => t ≠ Document.countersTable

/-- A row stays in its place, with what it has in the column. -/
theorem getElem?_apply {column : String} {c : Change} (h : c.Freezes t column) {k : Nat}
    {row : Record} (hk : (doc.table t)[k]? = some row) :
    ∃ row', ((c.apply now doc).table t)[k]? = some row' ∧ row'.get? column = row.get? column := by
  cases c with
  | insert s =>
    rw [table_insert]
    split
    · refine ⟨row, ?_, rfl⟩
      rw [List.getElem?_append_left (List.getElem?_eq_some_iff.mp hk).1, hk]
    · exact ⟨row, hk, rfl⟩
  | update s =>
    rw [table_update]
    split
    · next same =>
      refine ⟨updateRow now s row, ?_, get?_updateRow_of_notMem (h same.symm) row⟩
      rw [List.getElem?_map, hk]
      rfl
    · exact ⟨row, hk, rfl⟩
  | advance key =>
    rw [table_advance key h]
    exact ⟨row, hk, rfl⟩

theorem getElem?_applyAll {column : String} {changes : List Change}
    (h : ∀ c ∈ changes, c.Freezes t column) {k : Nat} {row : Record}
    (hk : (doc.table t)[k]? = some row) :
    ∃ row', ((applyAll now changes doc).table t)[k]? = some row' ∧
      row'.get? column = row.get? column := by
  refine applyAll_induction (fun c hc d ⟨row', hk', same⟩ => ?_)
    (P := fun d => ∃ row', (d.table t)[k]? = some row' ∧ row'.get? column = row.get? column)
    ⟨row, hk, rfl⟩
  obtain ⟨row'', hk'', same'⟩ := getElem?_apply (h c hc) hk'
  exact ⟨row'', hk'', same'.trans same⟩

theorem lastId_le_apply (c : Change) (t : String) : doc.lastId t ≤ (c.apply now doc).lastId t := by
  cases c with
  | insert s =>
    rw [lastId_insert]
    split <;> omega
  | update s => exact Int.le_of_eq (lastId_update s t).symm
  | advance key =>
    change _ ≤ (doc.advanceCounter now key).2.lastId t
    unfold Document.advanceCounter
    split
    · exact Int.le_refl _
    · simp only [Document.lastId_append, Document.lastId_nextId]
      split <;> omega

theorem lastId_le_applyAll (changes : List Change) (t : String) :
    doc.lastId t ≤ (applyAll now changes doc).lastId t :=
  applyAll_induction (P := fun d => doc.lastId t ≤ d.lastId t)
    (fun c _ _ le => Int.le_trans le (lastId_le_apply c t)) (Int.le_refl _)

theorem lastId_lt_applyAll {changes : List Change} {s : Insert} (h : insert s ∈ changes) :
    doc.lastId s.table + 1 ≤ (applyAll now changes doc).lastId s.table := by
  obtain ⟨before, after, rfl⟩ := List.append_of_mem h
  rw [applyAll_append, applyAll_cons]
  have first : doc.lastId s.table ≤ (applyAll now before doc).lastId s.table :=
    lastId_le_applyAll before s.table
  refine Int.le_trans ?_ (lastId_le_applyAll after s.table)
  rw [lastId_insert, if_pos rfl]
  omega

end Change

end OfferBook
