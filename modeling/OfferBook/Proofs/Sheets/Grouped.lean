import OfferBook.Proofs.Calculations.Latest
import OfferBook.Proofs.Model.Naming

/-! # Sheets in an export

Where calculations and offers are told, the rows of sheets are selected by their owner. An export
reads all rows of sheets, and gives each owner those that name it by its integer.

* `Admin.Exports`, `Admin.exportTable_ends` — what an export has of a table.
* `Document.Assigns` — an owner of which both ways show the same sheets, by
  `Document.Assigns.alike`.
-/

namespace OfferBook

open Office

namespace Admin

variable {α : Type} {m : Type} {o : Office m} {ofRecord? : Record → Option α} {idOf : α → Int}
  {t column shortName : String}

/-! ## Rows by their owner -/

theorem ownerOf?_eq_some {row : Record} {id : Int} (h : ownerOf? column row = some id) :
    row.get? column = some (.int id) ∧ fitsSigned id = true := by
  obtain ⟨v, stored, read⟩ := Option.bind_eq_some_iff.mp h
  obtain ⟨rfl, fits⟩ := Json.eq_int_of_signed? read
  exact ⟨stored, fits⟩

/-- What is read from some rows is given to the owners that they name. -/
def Assigned (ofRecord? : Record → Option α) (column : String) (rows : List Record)
    (owned : Owned α) : Prop :=
  ∀ id, (rows.filter fun row => ownerOf? column row = some id).mapM ofRecord? =
    some (takeOwned id owned).1

/-- A row that names no owner is left out. -/
theorem Assigned.skip {row : Record} {rest : List Record} {owned : Owned α}
    (owner : ownerOf? column row = none) (h : Assigned ofRecord? column rest owned) :
    Assigned ofRecord? column (row :: rest) owned := fun id => by
  simpa [owner] using h id

theorem Assigned.cons {row : Record} {id : Int} {a : α} {rest : List Record} {owned : Owned α}
    (owner : ownerOf? column row = some id) (read : ofRecord? row = some a)
    (h : Assigned ofRecord? column rest owned) :
    Assigned ofRecord? column (row :: rest) ((id, a) :: owned) := fun other => by
  have others := h other
  by_cases same : id = other
  · subst same
    simp_all [takeOwned]
  · simpa [takeOwned, owner, same] using others

theorem assigned_ends (rows : List Record) :
    Ends ((rows.filterMap fun row => (ownerOf? column row).map (·, row)).mapM
        fun (id, row) => return (id, ← Office.read ofRecord? row) : Work m (Owned α)) o
      (fun owned o' => Assigned ofRecord? column rows owned ∧ o' = o) fun _ _ => True := by
  induction rows with
  | nil => exact ends_pure.mpr ⟨fun _ => rfl, rfl⟩
  | cons row rest ih =>
    cases owner : ownerOf? column row with
    | none =>
      rw [List.filterMap_cons_none (by rw [owner]; rfl)]
      exact ih.mono (fun owned o' ⟨assigned, same⟩ => ⟨assigned.skip owner, same⟩) fun _ _ => id
    | some id =>
      rw [List.filterMap_cons_some (by rw [owner]; rfl), List.mapM_cons]
      refine ends_bind.mpr (ends_bind.mpr (ends_read.mpr ?_))
      cases read : ofRecord? row with
      | none => trivial
      | some a =>
        refine ends_pure.mpr (ends_bind.mpr (ih.mono ?_ fun _ _ => fun done => done))
        rintro owned o' ⟨assigned, rfl⟩
        exact ends_pure.mpr ⟨assigned.cons owner read, rfl⟩

/-- The rows of a table that name an owner, in the order of their item numbers. -/
def gathered (doc : Document) (t column : String) (id : Int) : List Record :=
  OrderBy.sort none ⟨.bare itemNumberField, false⟩
    ((doc.table t).filter fun row => ownerOf? column row = some id)

/-- Each owner gets the rows that name it, in the order of their item numbers. -/
theorem children_ends (ofRecord? : Record → Option α) (t column : String) :
    Ends (children ofRecord? t column) o
      (fun owned o' => (∀ id, (gathered o.store.document t column id).mapM ofRecord? =
        some (takeOwned id owned).1) ∧ o' = o) fun _ _ => True := by
  refine ends_bind.mpr (ends_select.mpr ((assigned_ends _).mono ?_ fun _ _ => id))
  rintro owned o' ⟨assigned, rfl⟩
  have all : (o'.store.document.table t).filter
      (Test.allHold (Condition.bindAll o'.now none [] []).1) = o'.store.document.table t :=
    List.filter_eq_self.mpr fun _ _ => rfl
  refine ⟨fun id => ?_, rfl⟩
  rw [gathered, ← OrderBy.filter_sort, ← all, ← Select.rows_ordered]
  exact assigned id

/-! ## Rows with their sheets -/

/-- Rows that are taken for one owner are not missed by another one. -/
theorem takeOwned_of_ne {id other : Int} (h : id ≠ other) (rows : Owned α) :
    (takeOwned id (takeOwned other rows).2).1 = (takeOwned id rows).1 := by
  have both : (rows.filter (·.1 ≠ other)).filter (·.1 = id) = rows.filter (·.1 = id) := by
    rw [List.filter_filter]
    refine List.filter_congr fun row _ => ?_
    by_cases same : row.1 = id <;> simp [same, h]
  exact congrArg (List.map Prod.snd) both

theorem exists_of_exportRows {garments : Owned GarmentItem} {services : Owned Warehousing}
    {row : Record} {rest : List Record} {exported : List (Exported α)}
    (h : exportRows ofRecord? idOf garments services (row :: rest) = some exported) :
    ∃ x others, exported = x :: others ∧ ofRecord? row = some x.row ∧
      x.sheets = ⟨(takeOwned (idOf x.row) garments).1,
        (takeOwned (idOf x.row) services).1.head?⟩ ∧
      exportRows ofRecord? idOf (takeOwned (idOf x.row) garments).2
        (takeOwned (idOf x.row) services).2 rest = some others := by
  obtain ⟨a, read, h⟩ := Option.bind_eq_some_iff.mp h
  obtain ⟨others, later, h⟩ := Option.bind_eq_some_iff.mp h
  exact ⟨_, others, (Option.some.inj h).symm, read, rfl, later⟩

theorem map_exportRows {garments : Owned GarmentItem} {services : Owned Warehousing}
    {rows : List Record} {exported : List (Exported α)}
    (h : exportRows ofRecord? idOf garments services rows = some exported) :
    exported.map (some ·.row) = rows.map ofRecord? := by
  induction rows generalizing garments services exported with
  | nil =>
    obtain rfl := Option.some.inj h
    rfl
  | cons row rest ih =>
    obtain ⟨x, others, rfl, read, -, later⟩ := exists_of_exportRows h
    rw [List.map_cons, List.map_cons, ih later, read]

/-- Where ids are distinct, each row has all sheets of its id. -/
theorem sheets_exportRows {garments : Owned GarmentItem} {services : Owned Warehousing}
    {rows : List Record} {exported : List (Exported α)}
    (h : exportRows ofRecord? idOf garments services rows = some exported)
    (distinct : (exported.map fun x => idOf x.row).Nodup) {x : Exported α} (mem : x ∈ exported) :
    x.sheets = ⟨(takeOwned (idOf x.row) garments).1,
      (takeOwned (idOf x.row) services).1.head?⟩ := by
  induction rows generalizing garments services exported with
  | nil =>
    obtain rfl := Option.some.inj h
    cases mem
  | cons row rest ih =>
    obtain ⟨y, others, rfl, -, sheets, later⟩ := exists_of_exportRows h
    obtain ⟨apart, distinct⟩ := List.nodup_cons.mp distinct
    rcases List.mem_cons.mp mem with rfl | among
    · exact sheets
    · have other : idOf x.row ≠ idOf y.row := fun same =>
        apart (List.mem_map.mpr ⟨x, among, same⟩)
      rw [ih later distinct among, takeOwned_of_ne other, takeOwned_of_ne other]

/-- The sheets that a row gets are those that name its id, and the first of them. -/
structure Gathered (doc : Document) (w : Owner) (sheets : Sheets) : Prop where
  items : (gathered doc w.garmentTable w.column w.id).mapM GarmentItem.ofRecord? =
    some sheets.items
  warehousing : (gathered doc w.warehousingTable w.column w.id).head?.map CostSheet.ofRecord? =
    sheets.warehousing.map some

/-- What an export has of a table: all rows, with the sheets that name them if ids are distinct. -/
structure Exports (o : Office m) (ofRecord? : Record → Option α) (idOf : α → Int)
    (t shortName : String) (w : Owner) (exported : List (Exported α)) : Prop where
  rows : exported.map (some ·.row) =
    ((Creators.listing t shortName).rows o.now [] o.store.document).map ofRecord?
  sheets : (exported.map fun x => idOf x.row).Nodup → ∀ x ∈ exported,
    Gathered o.store.document (w.withId (idOf x.row)) x.sheets

theorem exportTable_ends (ofRecord? : Record → Option α) (idOf : α → Int) (t shortName : String)
    (w : Owner) :
    Ends (exportTable ofRecord? idOf t shortName w) o
      (fun exported o' => Exports o ofRecord? idOf t shortName w exported ∧ o' = o)
      fun _ _ => True := by
  refine ends_bind.mpr ((children_ends _ _ _).mono ?_ fun _ _ _ => trivial)
  rintro garments o' ⟨hgarments, rfl⟩
  refine ends_bind.mpr ((children_ends _ _ _).mono ?_ fun _ _ _ => trivial)
  rintro services o' ⟨hservices, rfl⟩
  refine ends_bind.mpr (ends_select.mpr ?_)
  split
  · next exported read =>
    refine ends_pure.mpr ⟨⟨map_exportRows read, fun distinct x mem => ?_⟩, rfl⟩
    rw [sheets_exportRows read distinct mem]
    constructor
    · simpa using hgarments (idOf x.row)
    · simp only [Owner.withId_id, Owner.withId_column, Owner.withId_warehousingTable]
      rw [← List.head?_map, LineItems.map_eq_of_mapM (hservices _), List.head?_map]
  · exact ends_throw.mpr trivial

end Admin

/-! ## Both ways -/

/-- The rows of sheets that belong to an owner name it by its integer, and the first stored sheet of
    services comes first by its item number, which such sheets need not have. -/
structure Document.Assigns (doc : Document) (w : Owner) : Prop where
  named : ∀ t ∈ w.sheetTables, ∀ row ∈ doc.owned w t,
    (Admin.ownerOf? w.column row).isSome = true
  first : ∀ first ∈ (doc.owned w w.warehousingTable).head?,
    ∀ other ∈ doc.owned w w.warehousingTable,
      (Json.compareValues (first.get? itemNumberField) (other.get? itemNumberField)).isLE = true

/-- Sheets that show the same of a kind. -/
structure Sheets.Alike (kind : SheetKind) (sheets sheets' : Sheets) : Prop where
  items : kind = .garment → sheets.items = sheets'.items
  warehousing : kind = .warehousing → sheets.warehousing = sheets'.warehousing

namespace Document.Assigns

variable {doc : Document} {w : Owner} {t : String}

theorem gathered_eq (h : doc.Assigns w) (fits : fitsSigned w.id = true) (ht : t ∈ w.sheetTables) :
    Admin.gathered doc t w.column w.id =
      OrderBy.sort none ⟨.bare itemNumberField, false⟩ (doc.owned w t) := by
  refine congrArg (OrderBy.sort _ _) (List.filter_congr fun row mem => ?_)
  cases owner : Admin.ownerOf? w.column row with
  | some id =>
    obtain ⟨stored, fits'⟩ := Admin.ownerOf?_eq_some owner
    simp [Owner.has, stored, Json.matchesValue_int fits' fits]
  | none =>
    have foreign : ¬ w.has row = true := fun own => by
      simpa [owner] using h.named t ht row (List.mem_filter.mpr ⟨mem, own⟩)
    simp [foreign]

/-- What an owner gets in an export is what is told of it. -/
theorem alike (h : doc.Assigns w) (fits : fitsSigned w.id = true) {kind : SheetKind}
    {sheets told : Sheets} (gathered : Admin.Gathered doc w sheets)
    (found : doc.sheets? w kind = some told) : sheets.Alike kind told := by
  obtain ⟨items, warehousing⟩ := gathered
  rw [h.gathered_eq fits w.garmentTable_mem] at items
  rw [h.gathered_eq fits w.warehousingTable_mem] at warehousing
  cases kind with
  | garment =>
    rw [Document.sheets?, items] at found
    obtain rfl := Option.some.inj found
    exact ⟨fun _ => rfl, fun other => (by cases other)⟩
  | warehousing =>
    refine ⟨fun other => (by cases other), fun _ => ?_⟩
    have first := h.first
    unfold Document.sheets? at found
    cases owned : doc.owned w w.warehousingTable with
    | nil =>
      rw [owned] at warehousing found
      obtain rfl := Option.some.inj found
      simpa [OrderBy.sort] using warehousing
    | cons row rest =>
      rw [owned] at warehousing found first
      have head := @OrderBy.head?_sort none ⟨.bare itemNumberField, false⟩ row rest
        fun other mem => OrderBy.precedes_iff.mpr
          (first row rfl other (List.mem_cons_of_mem _ mem))
      rw [head] at warehousing
      obtain ⟨sheet, read, found⟩ := Option.bind_eq_some_iff.mp found
      obtain rfl := Option.some.inj found
      rw [Option.map_some, read] at warehousing
      cases shown : sheets.warehousing with
      | none => simp [shown] at warehousing
      | some other => simpa [shown, eq_comm] using warehousing

end Document.Assigns

end OfferBook
