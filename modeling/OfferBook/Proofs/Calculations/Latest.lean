import OfferBook.Proofs.Calculations.Linear
import OfferBook.Proofs.Sheets.Frozen

/-! # Looking up the latest version

What `Calculations.latest` returns, as a function of the document alone.

* `Document.latest?` — the row of a chain that is looked up.
* `Document.sheets?` — the sheets of an owner, if they can be read.
* `Document.latestDetail?`, `Calculations.latest_ends` — the two together are what is returned.
* `Document.latestDetail?_congr` — the tables that matter for this.
-/

namespace OfferBook

open Office

/-! ## Documents -/

/-- Whether a row is current and not deleted. -/
def Calculations.isLive (row : Record) : Bool :=
  isCurrent row && Json.isMissing (row.get? "deleted_at")

namespace Document

/-- The first row of a chain that is live. -/
def latest? (doc : Document) (uuid : String) : Option Record :=
  (doc.chain uuid).find? Calculations.isLive

/-- The sheets of an owner, if they can be read. -/
def sheets? (doc : Document) (w : Owner) : SheetKind → Option Sheets
  | .garment => do
    let items ← (OrderBy.sort none ⟨.bare itemNumberField, false⟩
      (doc.owned w w.garmentTable)).mapM GarmentItem.ofRecord?
    return ⟨items, none⟩
  | .warehousing =>
    match (doc.owned w w.warehousingTable).head? with
    | some row => do return ⟨[], some (← CostSheet.ofRecord? row)⟩
    | none => some ⟨[], none⟩

/-- The latest version of a chain with its sheets, if there is one that can be read. -/
def latestDetail? (doc : Document) (uuid : String) : Option CalculationDetail := do
  let c ← Calculation.ofRecord? (← doc.latest? uuid)
  return ⟨c, ← doc.sheets? (.calculation c.id) c.kind⟩

variable {doc doc' : Document}

/-- The sheets of an owner are read from the two tables of sheets. -/
theorem sheets?_congr {w : Owner} (same : ∀ t ∈ w.sheetTables, doc'.table t = doc.table t)
    (kind : SheetKind) : doc'.sheets? w kind = doc.sheets? w kind := by
  have owned (t : String) (ht : t ∈ w.sheetTables) := owned_congr (same t ht) w
  cases kind with
  | garment => rw [sheets?, sheets?, owned _ w.garmentTable_mem]
  | warehousing => rw [sheets?, sheets?, owned _ w.warehousingTable_mem]

theorem latestDetail?_congr
    (h : ∀ t ∈ [Calculations.table, "garment_data", "warehousing_data"],
      doc'.table t = doc.table t) (uuid : String) :
    doc'.latestDetail? uuid = doc.latestDetail? uuid := by
  have chain : doc'.chain uuid = doc.chain uuid :=
    congrArg (List.filter (Calculations.isOf uuid)) (h _ (by simp))
  have sheets (id : Int) (kind : SheetKind) :
      doc'.sheets? (.calculation id) kind = doc.sheets? (.calculation id) kind :=
    sheets?_congr (w := .calculation id) (fun t ht => h t (List.mem_cons_of_mem _ ht)) kind
  simp only [latestDetail?, latest?, chain, sheets]

end Document

/-! ## Services -/

theorem Json.matchesValue_flag {v : Option Json} (h : Field.IsFlag v) :
    matchesValue v (.int 1) = decide (v = some (.bool true)) := by
  obtain ⟨b, rfl⟩ := h
  cases b <;> decide +kernel

namespace LineItems

variable {m : Type} {o : Office m} {w : Owner}

theorem ends_sheets {kind : SheetKind} {Q : Sheets → Office m → Prop}
    {E : StorageError → Office m → Prop} :
    Ends (sheets w kind) o Q E ↔
      match o.store.document.sheets? w kind with
      | some found => Q found o
      | none => E .undecodable o := by
  cases kind with
  | garment =>
    simp only [sheets, items, ends_bind, ends_selectAll, rows_items, ends_pure, Document.sheets?]
    cases (OrderBy.sort none ⟨.bare itemNumberField, false⟩
      (o.store.document.owned w w.garmentTable)).mapM GarmentItem.ofRecord? <;> rfl
  | warehousing =>
    simp only [sheets, warehousing, ends_bind, ends_selectFirst, Select.rows_matching,
      filter_eq_owned, ends_pure, Document.sheets?]
    cases (o.store.document.owned w w.warehousingTable).head? with
    | none => rfl
    | some row =>
      dsimp only
      split <;> simp [*]

/-- Sheets that are stored as those of an input can be read. -/
theorem isSome_sheets? {kind : SheetKind} {items : List GarmentItemInput}
    {warehousing : Option WarehousingInput}
    (stored : o.store.document.Stores w kind items warehousing) (fits : NumbersFit items) :
    (o.store.document.sheets? w kind).isSome = true := by
  have reads := ends_sheets.mp (sheets_ends stored fits)
  split at reads
  · next found => rw [found]; rfl
  · exact reads.elim

end LineItems

namespace Calculations

variable {m : Type} {o : Office m} {doc : Document} {offerPrefix : String}

theorem filter_eq_latest? (h : Regular form table doc) (now : Instant) (uuid : String) :
    ((doc.table table).filter (Test.allHold (Condition.bindAll now none []
      [.is "calculation_uuid" (.text uuid), .is "is_current" (.int 1),
        .missing "deleted_at"]).1)).head? = doc.latest? uuid := by
  rw [Document.latest?, Document.chain, ← List.head?_filter, List.filter_filter]
  congr 1
  refine List.filter_congr fun row mem => ?_
  have text : Field.IsText (row.get? "calculation_uuid") :=
    h.admits row mem ("calculation_uuid", Field.IsText) (by simp [form])
  have flag : Field.IsFlag (row.get? "is_current") :=
    h.admits row mem ("is_current", Field.IsFlag) (by simp [form])
  change (Json.matchesValue (row.get? "calculation_uuid") (.text uuid) &&
    (Json.matchesValue (row.get? "is_current") (.int 1) &&
      (Json.isMissing (row.get? "deleted_at") && true))) = _
  rw [Json.matchesValue_text text, Json.matchesValue_flag flag, Bool.and_true, Bool.and_comm]
  rfl

variable [Medium m]

/-- The latest version is what the document shows, and nothing is changed. -/
theorem latest_ends (offerPrefix : String) (h : o.Sound) (uuid : String) :
    Ends (latest offerPrefix uuid) o
      (fun detail o' => o.store.document.latestDetail? uuid = some detail ∧ o' = o)
      (fun e o' => o.store.document.latestDetail? uuid = none ∧
        (o.store.document.latest? uuid = none → e = notFound uuid) ∧ o' = o) := by
  simp only [latest, ends_bind, ends_storage, ends_selectFirst, Select.rows_matching,
    filter_eq_latest? h.calculations, Document.latestDetail?]
  cases found : o.store.document.latest? uuid with
  | none => exact ends_throw.mpr ⟨rfl, fun _ => rfl, rfl⟩
  | some row =>
    cases read : Calculation.ofRecord? row with
    | none =>
      simp only [Option.bind_eq_bind, Option.bind_some, read]
      exact ⟨rfl, (absurd · (Option.some_ne_none row)), trivial⟩
    | some c =>
      have mem := (List.mem_filter.mp (List.mem_of_find?_eq_some found)).1
      have shown := shown_of_mem h.calculations mem read
      simp only [Option.bind_eq_bind, Option.bind_some, read, detail, backfill_eq shown, ends_bind,
        ends_pure, LineItems.ends_sheets]
      cases o.store.document.sheets? (.calculation c.id) c.kind with
      | none => exact ⟨rfl, (absurd · (Option.some_ne_none row)), trivial⟩
      | some found => exact ⟨rfl, trivial⟩

end Calculations

end OfferBook
