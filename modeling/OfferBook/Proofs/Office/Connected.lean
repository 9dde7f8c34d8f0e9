import OfferBook.Proofs.Office.Forms
import OfferBook.Proofs.Sheets.Added

/-! # Stored data stays valid and connected

The store checks nothing: no keys, no types and no references. That all of these hold is due to the
order of changes in the services and to the checks in front of them.

* `Calculations.Parented` — versions name versions of their chain as parents;
  `Office.serve_parented` — a request keeps this, at whatever change it is cut short.
* `Document.Numbers` — the ids of a table; `Regular.numbers` — those of a regular table.
* `Document.Connected` — all that holds of the stored data.
* `Office.stored_data_stays_connected` — it holds after any requests to a new office.
-/

namespace OfferBook

/-! ## Parents -/

/-- A row names no parent, or a row among some that has the same chain. -/
def Calculations.HasParentIn (rows : List Record) (row : Record) : Prop :=
  row.get? "parent_version_id" = some .null ∨
    ∃ parent ∈ rows, ∃ id, row.get? "parent_version_id" = some (.int id) ∧
      parent.get? "id" = some (.int id) ∧
      parent.get? "calculation_uuid" = row.get? "calculation_uuid"

/-- The rows of a table name rows of it as parents. -/
def Calculations.Parented (rows : List Record) : Prop := ∀ row ∈ rows, HasParentIn rows row

namespace Calculations.Parented

variable {rows : List Record}

theorem map (h : Parented rows) {f : Record → Record}
    (keeps : ∀ row, ∀ column ∈ ["id", "calculation_uuid", "parent_version_id"],
      (f row).get? column = row.get? column) : Parented (rows.map f) := by
  intro row mem
  obtain ⟨old, inside, rfl⟩ := List.mem_map.mp mem
  unfold HasParentIn
  rw [keeps old "parent_version_id" (by simp), keeps old "calculation_uuid" (by simp)]
  refine (h old inside).imp_right ?_
  rintro ⟨parent, there, id, names, named, chain⟩
  refine ⟨f parent, List.mem_map_of_mem there, id, names, ?_, ?_⟩
  · rw [keeps parent "id" (by simp), named]
  · rw [keeps parent "calculation_uuid" (by simp), chain]

theorem concat (h : Parented rows) {row : Record} (new : HasParentIn rows row) :
    Parented (rows ++ [row]) := by
  have wider {row : Record} (h : HasParentIn rows row) {row' : Record} :
      HasParentIn (rows ++ [row']) row := by
    refine h.imp_right ?_
    rintro ⟨parent, there, rest⟩
    exact ⟨parent, List.mem_append_left _ there, rest⟩
  intro other mem
  rcases List.mem_append.mp mem with old | last
  · exact wider (h other old)
  · obtain rfl := List.mem_singleton.mp last
    exact wider new

end Calculations.Parented

namespace Office

open Calculations

variable {m : Type} {offerPrefix : String} {o o' : Office m}

theorem parented_retired (h : Parented o.calculations) (uuid : String) :
    Parented (o.retired uuid) := by
  refine h.map fun row column mem => Change.get?_updateRow_of_notMem ?_ row
  have apart : ∀ column ∈ ["id", "calculation_uuid", "parent_version_id"],
      column ≠ "is_current" := by decide
  simpa [retire] using apart column mem

theorem Growth.parented (h : Parented o.calculations) (growth : Growth offerPrefix o o') :
    Parented o'.calculations := by
  cases growth with
  | same rows | counted rows | offered rows =>
    rw [Office.calculations, rows.calculations]
    exact h
  | first _ _ rows =>
    rw [Office.calculations, rows.calculations]
    exact h.concat (.inl (get?_firstRow (by simp [rowFields, Json.ofOption])))
  | retired _ rows =>
    rw [Office.calculations, rows.calculations]
    exact parented_retired h _
  | @next head row kunde input isHead rows =>
    rw [Office.calculations, rows.calculations]
    -- The parent is the head, which has just been retired.
    obtain ⟨there, ofChain⟩ := Document.mem_chain.mp isHead.mem
    have still (column : String) (other : column ≠ "is_current") :
        (Change.updateRow o.now (retire head.uuid) row).get? column = row.get? column :=
      Change.get?_updateRow_of_notMem (by simpa [retire] using other) row
    refine (parented_retired h head.uuid).concat (.inr ⟨_, List.mem_map_of_mem there, head.id,
      get?_nextRow (by simp [rowFields, Json.ofOption]), ?_, ?_⟩)
    · rw [still "id" (by decide), isHead.shown.id]
    · rw [still "calculation_uuid" (by decide), ofChain]
      exact (get?_nextRow (by simp [rowFields])).symm

theorem Aside.parented (h : Parented o.calculations) (aside : Aside o o') :
    Parented o'.calculations := by
  obtain ⟨f, keeps, same⟩ := aside.annotated (.inl rfl)
  rw [Office.calculations, same]
  have apart : ∀ column ∈ ["id", "calculation_uuid", "parent_version_id"],
      column ∉ annotations := by decide
  exact h.map fun row column mem => keeps row column (apart column mem)

theorem serve_parented [Medium m] (sound : o.Sound) (h : Parented o.calculations) (r : Request) :
    Parented (serve offerPrefix o r).calculations := by
  obtain ⟨between, core, aside⟩ := (serve_effect sound r : Effect offerPrefix _ _)
  exact aside.parented (core.growth.parented (o := o.setNow r.now) h)

theorem serve_belonging [Medium m] (sound : o.Sound) (h : o.store.document.Belonging)
    (r : Request) : (serve offerPrefix o r).store.document.Belonging :=
  h.adds (fun _ _ => le_lastId_of_isStored sound)
    (fun _ _ => isStored_of_keeps sound (sound.serve r) (serve_keeps sound r)) (serve_adds sound r)

end Office

/-! ## Ids -/

/-- The ids of a table's rows: distinct integers from one up to the one that it gave out last. -/
structure Document.Numbers (doc : Document) (t : String) : Prop where
  given : ∀ row ∈ doc.table t, ∃ n, row.get? "id" = some (.int n) ∧ 1 ≤ n ∧ n ≤ doc.lastId t
  distinct : (doc.table t).Pairwise fun row row' => row.get? "id" ≠ row'.get? "id"

theorem Regular.numbers {form : Form} {t : String} {doc : Document} (h : Regular form t doc) :
    doc.Numbers t where
  given _ := h.exists_id
  distinct := by
    refine List.pairwise_iff_getElem.mpr fun i j hi hj less same => ?_
    rw [h.numbered i _ (List.getElem?_eq_getElem hi), h.numbered j _ (List.getElem?_eq_getElem hj)]
      at same
    simp only [Json.int, Option.some.injEq, Json.number.injEq, Number.int.injEq] at same
    omega

/-! ## Connections -/

/-- The tables of calculations, offers and their sheets, and the log. -/
def Document.businessTables : List String :=
  [Calculations.table, Offers.table, Log.table, "garment_data", "garment_offer_data",
   "warehousing_data", "warehousing_offer_data"]

/-- Stored data that is valid and connected. -/
structure Document.Connected (doc : Document) : Prop where
  ids : ∀ t ∈ businessTables, doc.Numbers t
  calculations : ∀ row ∈ doc.table Calculations.table,
    (∃ title, title ≠ "" ∧ Text.trim title = title ∧ row.get? "kunde" = some (.text title)) ∧
    ∃ kind : SheetKind, row.get? "calculation_type" = some (.text kind.name)
  /-- Items are numbered from one on. -/
  items : ∀ (w : Owner), ∀ row ∈ doc.table w.garmentTable,
    ∃ n, 1 ≤ n ∧ row.get? itemNumberField = some (.int n)
  /-- Sheets belong to a calculation or an offer that is stored and has their kind. -/
  owners : ∀ (w : Owner) (kind : SheetKind), ∀ row ∈ doc.table (w.sheetTable kind),
    ∃ id, row.get? w.column = some (.int id) ∧ (w.withId id).IsStored doc kind
  /-- There are no more sheets of one owner than it may have. -/
  few : ∀ (w : Owner) (kind : SheetKind),
    (doc.table (w.sheetTable kind)).countP (·.get? w.column = some (.int w.id)) ≤ kind.most
  parents : ∀ row ∈ doc.table Calculations.table,
    Calculations.HasParentIn (doc.table Calculations.table) row

namespace Office

variable {m : Type} {offerPrefix : String} {o : Office m}

/-- What holds of the parts makes stored data valid and connected. -/
theorem connected (sound : o.Sound) (tidy : o.store.document.Tidy False)
    (parented : Calculations.Parented o.calculations) (belonging : o.store.document.Belonging) :
    o.store.document.Connected where
  ids t mem := by
    have numbered : ∀ t ∈ Document.businessTables, Document.IsNumbered t := by decide
    exact (tidy.numbered t (numbered t mem)).numbers
  calculations row mem := by
    obtain ⟨title, ⟨filled, trimmed⟩, stored⟩ := tidy.title mem
    exact ⟨⟨title, filled, trimmed, stored⟩, sound.calculations.admits row mem
      ("calculation_type", Field.IsKind) (by simp [Calculations.form])⟩
  items w row mem := by
    obtain ⟨n, first, -, stored⟩ := tidy.item w mem
    exact ⟨n, first, stored⟩
  owners := belonging.owners
  few := belonging.few
  parents := parented

variable [Medium m]

/-- Whatever is asked of a new office, and whichever saves fail, the data that it stores is valid
    and connected. -/
theorem stored_data_stays_connected (h : o.IsNew) (rs : List Request) :
    (serveAll offerPrefix o rs).store.document.Connected := by
  have start : Calculations.Parented o.calculations := by
    rw [Office.calculations, (h.isEmpty _).1]
    exact List.forall_mem_nil _
  obtain ⟨sound, parented, belonging⟩ : (serveAll offerPrefix o rs).Sound ∧
      Calculations.Parented (serveAll offerPrefix o rs).calculations ∧
      (serveAll offerPrefix o rs).store.document.Belonging := by
    refine serveAll_induction (n := 0) (P := fun _ o => o.Sound ∧
      Calculations.Parented o.calculations ∧ o.store.document.Belonging)
      ⟨h.sound, start, .of_isEmpty h.isEmpty⟩ (fun _ o r kept => ?_) rs
    obtain ⟨sound, parented, belonging⟩ := kept
    exact ⟨sound.serve r, serve_parented sound parented r, serve_belonging sound belonging r⟩
  exact connected sound (serveAll_tidy h.sound (h.isEmpty.tidy _) rs False.elim) parented belonging

/-- A calculation of two garments, and an edit of it. -/
def editOfGarments : List Request :=
  [⟨0, .createCalculation (calculationOf twoGarments) somebody⟩,
   ⟨86400000, .updateCalculation 1 (calculationOf twoGarments) somebody⟩]

/-- The medium takes eight documents, five for the calculation. The edit is cut short after the
    first of its garments. -/
theorem data_connected_where_edit_is_cut_short :
    (serveAll "FHD" (withSaves 8) editOfGarments).calculations.length = 2 ∧
    ((serveAll "FHD" (withSaves 8) editOfGarments).store.document.table
      "garment_data").length = 3 ∧
    (serveAll "FHD" (withSaves 8) editOfGarments).store.document.Connected := by
  have stored : (serveAll "FHD" (withSaves 8) editOfGarments).calculations.length = 2 ∧
      ((serveAll "FHD" (withSaves 8) editOfGarments).store.document.table
        "garment_data").length = 3 := by
    decide +kernel
  exact ⟨stored.1, stored.2, stored_data_stays_connected (isNew_opened _ 0) editOfGarments⟩

end Office

end OfferBook
