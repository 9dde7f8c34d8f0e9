import OfferBook.Office.LineItems
import OfferBook.Proofs.Model.Reading

/-! # Rows of cost sheets

* `readColumns_eq` — columns are read one by one.
* `LineItems.get?_itemRow`, `LineItems.get?_warehousingRow` — each value stands in its column.
* `GarmentItem.ofRecord?_itemRow`, `CostSheet.ofRecord?_warehousingRow` — what is read from the
  row of a sheet is the sheet that was stored.
* `GarmentItem.exists_ofRecord?`, `CostSheet.exists_ofRecord?` — which rows can be read at all.
-/

namespace OfferBook

theorem readColumns_eq {α : Type} {read : String → Option α} {columns : List String}
    {values : List α} (same : values.length = columns.length)
    (h : ∀ p ∈ columns.zip values, read p.1 = some p.2) :
    readColumns read columns = some ⟨values, same⟩ := by
  induction columns generalizing values with
  | nil =>
    obtain rfl := List.length_eq_zero_iff.mp same
    rfl
  | cons c rest ih =>
    cases values with
    | nil => exact absurd same (by simp)
    | cons v vs =>
      have first : read c = some v := h (c, v) List.mem_cons_self
      have others := ih (Nat.succ.inj same) fun p hp => h p (List.mem_cons_of_mem _ hp)
      simp only [readColumns, first, others, bind, Option.bind_some]

/-- Columns whose every value is read can be read from any row. -/
theorem exists_readColumns {α : Type} (f : Json → Option α) (row : Record)
    (columns : List String) :
    ∃ values, readColumns (Fields.orDefault none · (always f) row.entries) columns =
      some values := by
  induction columns with
  | nil => exact ⟨_, rfl⟩
  | cons c rest ih =>
    obtain ⟨values, others⟩ := ih
    rw [readColumns, Fields.orDefault_always, others]
    exact ⟨_, rfl⟩

namespace CostSheet

variable {l : SheetLayout} {s : CostSheet l} {row : Record}

theorem length_values (s : CostSheet l) : s.values.length = l.columns.length := by
  simp [values, SheetLayout.columns, s.numbers_length, s.texts_length]

theorem zip_values (s : CostSheet l) :
    l.columns.zip s.values =
      l.numbers.zip (s.numbers.map (Json.ofOption .double)) ++
        l.texts.zip (s.texts.map (Json.ofOption .text)) :=
  List.zip_append (by simp [s.numbers_length])

/-- A sheet is read from a row where each value stands in its column. -/
theorem ofFields?_of_columns (h : ∀ p ∈ l.columns.zip s.values, row.get? p.1 = some p.2) :
    ofFields? row.entries = some s := by
  rw [s.zip_values] at h
  have numbers : readColumns
      (fun c => Fields.orDefault none c (always Lenient.number) row.entries) l.numbers =
        some ⟨s.numbers, s.numbers_length⟩ := by
    refine readColumns_eq _ fun p hp => ?_
    have stored : row.get? p.1 = some (Json.ofOption .double p.2) :=
      h _ (List.mem_append_left _ (List.zip_map_right .. ▸ List.mem_map_of_mem hp))
    rw [Fields.orDefault_always, stored]
    cases p.2 <;> rfl
  have texts : readColumns
      (fun c => Fields.orDefault none c (always Lenient.text) row.entries) l.texts =
        some ⟨s.texts, s.texts_length⟩ := by
    refine readColumns_eq _ fun p hp => ?_
    have stored : row.get? p.1 = some (Json.ofOption .text p.2) :=
      h _ (List.mem_append_right _ (List.zip_map_right .. ▸ List.mem_map_of_mem hp))
    rw [Fields.orDefault_always, stored]
    cases p.2 <;> rfl
  simp only [ofFields?, numbers, texts, bind, Option.bind_some]

/-- Every row can be read as a sheet, whatever stands in the columns. -/
theorem exists_ofFields? (l : SheetLayout) (row : Record) :
    ∃ s : CostSheet l, ofFields? row.entries = some s := by
  obtain ⟨numbers, hnumbers⟩ := exists_readColumns Lenient.number row l.numbers
  obtain ⟨texts, htexts⟩ := exists_readColumns Lenient.text row l.texts
  rw [ofFields?, hnumbers, Option.bind_eq_bind, Option.bind_some, htexts]
  exact ⟨_, rfl⟩

theorem exists_ofRecord? (row : Record) : ∃ s : CostSheet l, ofRecord? row = some s := by
  rw [ofRecord?, ofJson?, Fields.ofJson?_ofRecord, Option.bind_some]
  exact exists_ofFields? l row

theorem ofRecord?_of_columns (h : ∀ p ∈ l.columns.zip s.values, row.get? p.1 = some p.2) :
    ofRecord? row = some s := by
  rw [ofRecord?, ofJson?, Fields.ofJson?_ofRecord, Option.bind_some]
  exact ofFields?_of_columns h

end CostSheet

namespace LineItems

variable (owner : Owner) (now : Instant) (id : Int)

/-! ## Garments -/

theorem itemColumns_nodup :
    (owner.column :: itemNumberField :: SheetLayout.garment.columns).Nodup := by
  cases owner with
  | calculation =>
    exact (by decide : ("calculation_id" :: itemNumberField :: SheetLayout.garment.columns).Nodup)
  | offer =>
    exact (by decide : ("offer_id" :: itemNumberField :: SheetLayout.garment.columns).Nodup)

theorem get?_itemRow {place : Nat} {item : GarmentItemInput} {column : String} {value : Json}
    (mem : (column, value) ∈
      (owner.column :: itemNumberField :: SheetLayout.garment.columns).zip
        (.int owner.id :: .int (item.numberAt place) :: item.costs.normalize.values)) :
    ((itemRow owner place item).row now [] id).get? column = some value :=
  Insert.get?_row_ofValues (by simp [CostSheet.length_values]) (itemColumns_nodup owner) mem id

theorem get?_itemRow_owner (place : Nat) (item : GarmentItemInput) :
    ((itemRow owner place item).row now [] id).get? owner.column = some (.int owner.id) :=
  get?_itemRow owner now id List.mem_cons_self

theorem get?_itemRow_number (place : Nat) (item : GarmentItemInput) :
    ((itemRow owner place item).row now [] id).get? itemNumberField =
      some (.int (item.numberAt place)) :=
  get?_itemRow owner now id (List.mem_cons_of_mem _ List.mem_cons_self)

/-! ## Warehousing -/

theorem warehousingColumns_nodup :
    (owner.column :: SheetLayout.warehousing.columns).Nodup := by
  cases owner with
  | calculation =>
    exact (by decide : ("calculation_id" :: SheetLayout.warehousing.columns).Nodup)
  | offer => exact (by decide : ("offer_id" :: SheetLayout.warehousing.columns).Nodup)

theorem get?_warehousingRow {input : WarehousingInput} {column : String} {value : Json}
    (mem : (column, value) ∈ (owner.column :: SheetLayout.warehousing.columns).zip
      (.int owner.id :: input.normalize.values)) :
    ((warehousingRow owner input).row now [] id).get? column = some value :=
  Insert.get?_row_ofValues (by simp [CostSheet.length_values]) (warehousingColumns_nodup owner)
    mem id

theorem get?_warehousingRow_owner (input : WarehousingInput) :
    ((warehousingRow owner input).row now [] id).get? owner.column = some (.int owner.id) :=
  get?_warehousingRow owner now id List.mem_cons_self

end LineItems

open LineItems

theorem GarmentItem.ofRecord?_itemRow (owner : Owner) (now : Instant) (id : Int) {place : Nat}
    {item : GarmentItemInput} (fits : fitsSigned (item.numberAt place) = true) :
    ofRecord? ((itemRow owner place item).row now [] id) =
      some ⟨item.numberAt place, item.costs.normalize⟩ := by
  have costs : CostSheet.ofFields? ((itemRow owner place item).row now [] id).entries =
      some item.costs.normalize := CostSheet.ofFields?_of_columns fun p hp =>
    get?_itemRow owner now id (List.mem_cons_of_mem _ (List.mem_cons_of_mem _ hp))
  simp only [ofRecord?, ofJson?, Fields.ofObject?_ofRecord,
    Fields.required_signed (get?_itemRow_number owner now id place item), fits, if_true, costs,
    bind, Option.bind_some]

/-- A row with a number can be read as a garment. -/
theorem GarmentItem.exists_ofRecord? {row : Record} {n : Int}
    (number : row.get? itemNumberField = some (.int n)) (fits : fitsSigned n = true) :
    ∃ item, ofRecord? row = some item := by
  obtain ⟨costs, hcosts⟩ := CostSheet.exists_ofFields? .garment row
  have number : Fields.required itemNumberField Strict.integer? row.entries = some n :=
    (Fields.required_signed number).trans (if_pos fits)
  rw [ofRecord?, ofJson?, Fields.ofObject?_ofRecord]
  exact ⟨⟨n, costs⟩, by simp only [bind, Option.bind_some, number, hcosts]⟩

theorem CostSheet.ofRecord?_warehousingRow (owner : Owner) (now : Instant) (id : Int)
    (input : WarehousingInput) :
    ofRecord? ((warehousingRow owner input).row now [] id) = some input.normalize :=
  ofRecord?_of_columns fun _ hp => get?_warehousingRow owner now id (List.mem_cons_of_mem _ hp)

end OfferBook
