import OfferBook.Proofs.Offers.Rows
import OfferBook.Proofs.Office.Passwords

/-! # Rows with and without names of their creators

Where rows are listed, the name of the creator is written over a field of the row, and all other
fields stay.

* `Record.unnamed` — a row without this field.
* `Calculation.ofRecord?_unnamed`, `Offer.ofRecord?_unnamed` — what is read from it.
* `Creators.unnamed_shown` — it is the same for a stored row and for what is shown of it.
-/

namespace OfferBook

/-- A row without the name of its creator. -/
def Record.unnamed (row : Record) : Record := row.erase "created_by_name"

namespace Record

variable {row : Record}

theorem get?_unnamed {field : String} (other : field ≠ "created_by_name") :
    row.unnamed.get? field = row.get? field := by
  rw [unnamed, Dict.get?_erase, if_neg other]

theorem get?_unnamed_name : row.unnamed.get? "created_by_name" = none := by
  rw [unnamed, Dict.get?_erase, if_pos rfl]

end Record

theorem Fields.optional_unnamed_name {α : Type} {row : Record} (read : Json → Option α) :
    optional "created_by_name" read row.unnamed.entries = some none := by
  rw [optional, orDefault_entries, Record.get?_unnamed_name]

/-- A calculation without the name of its creator. -/
def Calculation.unnamed (c : Calculation) : Calculation := { c with createdByName := none }

/-- An offer without the name of its creator. -/
def Offer.unnamed (o : Offer) : Offer := { o with createdByName := none }

theorem Calculation.unnamed_of_nameless {c : Calculation} (nameless : c.createdByName = none) :
    c.unnamed = c := by
  rw [unnamed, ← nameless]

theorem Offer.unnamed_of_nameless {o : Offer} (nameless : o.createdByName = none) :
    o.unnamed = o := by
  rw [unnamed, ← nameless]

open Fields Record in
theorem Calculation.ofRecord?_unnamed {row : Record} {c : Calculation}
    (read : ofRecord? row = some c) : ofRecord? row.unnamed = some c.unnamed := by
  suffices ∃ c', ofRecord? row.unnamed = some c' ∧ c' = c.unnamed by
    obtain ⟨_, read, rfl⟩ := this
    exact read
  unfold ofRecord? ofJson? at read ⊢
  rw [bind_ofRecord] at read ⊢
  -- The fields are read one after the other, and only the last of them is another one.
  iterate 13
    first
      | refine exists_of_bind_eq read (required_congr (get?_unnamed (by decide))) fun _ read => ?_
      | refine exists_of_bind_eq read (orDefault_congr (get?_unnamed (by decide))) fun _ read => ?_
  obtain ⟨name, -, read⟩ := Option.bind_eq_some_iff.mp read
  obtain rfl := Option.some.inj read
  exact exists_of_bind (optional_unnamed_name _) ⟨_, rfl, rfl⟩

open Fields Record in
theorem Offer.ofRecord?_unnamed {row : Record} {o : Offer} (read : ofRecord? row = some o) :
    ofRecord? row.unnamed = some o.unnamed := by
  have customer : ∀ name ∈ Customer.fieldNames, row.unnamed.get? name = row.get? name :=
    fun name among => get?_unnamed fun named => absurd (named ▸ among) (by decide)
  suffices ∃ o', ofRecord? row.unnamed = some o' ∧ o' = o.unnamed by
    obtain ⟨_, read, rfl⟩ := this
    exact read
  unfold ofRecord? ofJson? at read ⊢
  rw [bind_ofRecord] at read ⊢
  -- The fields are read one after the other, and only the last of them is another one.
  iterate 17
    first
      | refine exists_of_bind_eq read (required_congr (get?_unnamed (by decide))) fun _ read => ?_
      | refine exists_of_bind_eq read (orDefault_congr (get?_unnamed (by decide))) fun _ read => ?_
      | refine exists_of_bind_eq read (Customer.ofFields?_congr customer) fun _ read => ?_
  obtain ⟨name, -, read⟩ := Option.bind_eq_some_iff.mp read
  obtain rfl := Option.some.inj read
  exact exists_of_bind (optional_unnamed_name _) ⟨_, rfl, rfl⟩

namespace Creators

variable {t shortName orderBy : String} {labels : List Projection} {conditions : List Condition}
  {doc : Document}

/-- Apart from the name, what is shown of a row is read as the row is. -/
theorem unnamed_shown {α : Type} {names : List String} {ofRecord? : Record → Option α}
    (reads : ReadsOnly names ofRecord?) (asked : Asked shortName labels)
    (stay : ∀ name ∈ names, name ≠ "created_by_name" → Stays name) (row : Record) :
    ofRecord? ((joined t shortName labels conditions orderBy).shown doc row).unnamed =
      ofRecord? row.unnamed := by
  refine reads _ _ fun name among => ?_
  by_cases named : name = "created_by_name"
  · rw [named, Record.get?_unnamed_name, Record.get?_unnamed_name]
  · rw [Record.get?_unnamed named, Record.get?_unnamed named,
      get?_shown asked (stay name among named)]

theorem calculation_stays : ∀ name ∈ Calculation.fieldNames, name ≠ "created_by_name" →
    Stays name := by decide

theorem offer_stays : ∀ name ∈ Offer.fieldNames, name ≠ "created_by_name" → Stays name := by
  decide

end Creators

end OfferBook
