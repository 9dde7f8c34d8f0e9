import OfferBook.Proofs.Document.Filling
import OfferBook.Proofs.Office.Forms
import OfferBook.Proofs.Query.Creators

/-! # Rows that can be read

A list is read as a whole, so that one row that is not what its table holds would hide all others.

* `ActivityEntry.exists_ofRecord?`, `Account.exists_ofRecord?` — rows of their forms can be read.
* `Creators.exists_calculation`, `Creators.exists_offer` — so can those that are shown with their
  creators.
* `Document.WellTyped` — all rows of the document have their forms, and the ids have 64 bits.
* `WellTyped.calculation`, `WellTyped.item`, `WellTyped.entry`, … — so they can all be read.
* `WellTyped.calculation_shown`, `WellTyped.offer_shown` — also together with their creators.
-/

namespace OfferBook

/-! ## Typed records -/

/-- Details are read whatever they are. -/
theorem ActivityEntry.exists_ofRecord? {row : Record} (form : (Log.form True).Admits row) {k : Int}
    (id : row.get? "id" = some (.int k)) (fits : fitsSigned k = true) :
    ∃ e, ofRecord? row = some e ∧ e.id = k := by
  simp only [Form.Admits, Log.form, List.forall_mem_cons, forall_const] at form
  obtain ⟨⟨action, haction⟩, entityType, entityId, entityUuid, userName, created, -⟩ := form
  obtain ⟨entityType, hentityType⟩ := Fields.optional_of_mayBeText (.inr (.inr entityType))
  obtain ⟨entityId, hentityId⟩ := Fields.optional_of_mayBeSigned entityId
  obtain ⟨entityUuid, hentityUuid⟩ := Fields.optional_of_mayBeText entityUuid
  obtain ⟨userName, huserName⟩ := Fields.optional_of_mayBeText (.inr (.inr userName))
  obtain ⟨created, hcreated⟩ := Fields.optional_of_mayBeText (.inr (.inr created))
  -- One field after the other, in the order in which they are read.
  refine exists_of_bind (Fields.ofJson?_ofRecord fieldNames row) ?_
  refine exists_of_bind ((Fields.required_signed id).trans (if_pos fits)) ?_
  refine exists_of_bind (Fields.required_text haction) ?_
  refine exists_of_bind hentityType ?_
  refine exists_of_bind hentityId ?_
  refine exists_of_bind hentityUuid ?_
  refine exists_of_bind Fields.orDefault_always ?_
  refine exists_of_bind huserName ?_
  refine exists_of_bind Fields.orDefault_always ?_
  exact exists_of_bind hcreated ⟨_, rfl, rfl⟩

theorem Account.exists_ofRecord? {row : Record} (form : Accounts.form.Admits row) :
    ∃ a, ofRecord? row = some a ∧ row.get? "id" = some (.text a.id) ∧
      row.get? "name" = some (.text a.name) := by
  simp only [Form.Admits, Accounts.form, List.forall_mem_cons] at form
  obtain ⟨⟨id, stored⟩, ⟨email, hemail⟩, password, ⟨name, hname⟩, ⟨role, hrole⟩, created, -⟩ :=
    form
  obtain ⟨password, hpassword⟩ := Fields.optional_of_mayBeText (.inr (.inr password))
  obtain ⟨created, hcreated⟩ := Fields.optional_of_mayBeText (.inr (.inr created))
  have hid : Fields.required "id" Lenient.text row.entries = some id := by
    rw [Fields.required_entries, stored]
    rfl
  have text {name s : String} (h : row.get? name = some (.text s)) :
      Fields.orDefault "" name Strict.text? row.entries = some s := by
    rw [Fields.orDefault_entries, h]
    rfl
  -- One field after the other, in the order in which they are read.
  refine exists_of_bind (Fields.ofJson?_ofRecord fieldNames row) ?_
  refine exists_of_bind hid ?_
  refine exists_of_bind (Fields.required_text hemail) ?_
  refine exists_of_bind hpassword ?_
  refine exists_of_bind (text hname) ?_
  refine exists_of_bind (text hrole) ?_
  refine exists_of_bind Fields.orDefault_always ?_
  exact exists_of_bind hcreated ⟨_, rfl, stored, hname⟩

/-! ## Rows with their creators -/

namespace Creators

variable {doc : Document} {row : Record} {shortName orderBy : String} {labels : List Projection}
  {conditions : List Condition} {k : Int}

theorem exists_calculation (regular : Regular Calculations.form Calculations.table doc)
    (users : ∀ user ∈ doc.table Accounts.table, Field.MayBeText (user.get? "name"))
    (asked : Asked shortName labels) (mem : row ∈ doc.table Calculations.table)
    (id : row.get? "id" = some (.int k)) (fits : fitsSigned k = true) :
    ∃ c, Calculation.ofRecord? ((joined Calculations.table shortName labels conditions
      orderBy).shown doc row) = some c := by
  have stays : ∀ name ∈ Calculations.form.map Prod.fst, name ≠ "created_by_name" → Stays name := by
    simp only [Calculations.form, List.map_cons, List.map_nil]
    decide
  have form := @admits_shown Calculations.table _ orderBy _ conditions _ _ _ asked users
    (fun f hf => stays f.1 (List.mem_map_of_mem hf)) (by simp [Calculations.form])
    (regular.admits row mem)
  rw [← get?_shown asked (by decide)] at id
  exact (Calculation.exists_shown form id fits).imp fun _ => And.left

theorem exists_offer (regular : Regular Offers.form Offers.table doc)
    (users : ∀ user ∈ doc.table Accounts.table, Field.MayBeText (user.get? "name"))
    (asked : Asked shortName labels) (mem : row ∈ doc.table Offers.table)
    (id : row.get? "id" = some (.int k)) (fits : fitsSigned k = true)
    (source : Field.MayBeSigned (row.get? "source_calculation_id")) :
    ∃ o, Offer.ofRecord? ((joined Offers.table shortName labels conditions
      orderBy).shown doc row) = some o := by
  have stays : ∀ name ∈ Offers.form.map Prod.fst, name ≠ "created_by_name" → Stays name := by
    simp only [Offers.form, List.map_cons, List.map_nil]
    decide
  have form := @admits_shown Offers.table _ orderBy _ conditions _ _ _ asked users
    (fun f hf => stays f.1 (List.mem_map_of_mem hf)) (by simp [Offers.form])
    (regular.admits row mem)
  rw [← get?_shown asked (by decide)] at id source
  exact (Offer.exists_shown form id fits (Fields.optional_of_mayBeSigned source)).imp
    fun _ => And.left

end Creators

/-! ## Documents -/

namespace Document

/-- The names of users, as they are added to calculations and offers. -/
theorem Tidy.mayBeText_name {doc : Document} {words : Prop} (h : doc.Tidy words) :
    ∀ user ∈ doc.table Accounts.table, Field.MayBeText (user.get? "name") := fun user mem =>
  .inr (.inr (h.accounts user mem ("name", Field.IsText) (by simp [Accounts.form])))

/-- All rows have their forms, and their ids have 64 bits. -/
structure WellTyped (doc : Document) : Prop where
  calculations : Regular Calculations.form Calculations.table doc
  offers : Regular Offers.form Offers.table doc
  tidy : doc.Tidy True
  fits : doc.CountersFit

end Document

/-- Where counters fit, so do the ids that they have given out. -/
theorem Regular.exists_id_fits {form : Form} {t : String} {doc : Document}
    (h : Regular form t doc) (fits : doc.CountersFit) {row : Record} (mem : row ∈ doc.table t) :
    ∃ id, row.get? "id" = some (.int id) ∧ fitsSigned id = true := by
  obtain ⟨n, named, positive, given⟩ := h.exists_id mem
  have last := fits t
  refine ⟨n, named, ?_⟩
  simp only [fitsSigned, Bool.and_eq_true, decide_eq_true_eq] at last ⊢
  omega

namespace Document.WellTyped

variable {doc : Document} {row : Record} {shortName orderBy : String} {labels : List Projection}
  {conditions : List Condition} (h : doc.WellTyped)

include h

theorem account (mem : row ∈ doc.table Accounts.table) : ∃ a, Account.ofRecord? row = some a :=
  (Account.exists_ofRecord? (h.tidy.accounts row mem)).imp fun _ => And.left

theorem entry (mem : row ∈ doc.table Log.table) : ∃ e, ActivityEntry.ofRecord? row = some e := by
  obtain ⟨id, hid, fits⟩ := h.tidy.log.exists_id_fits h.fits mem
  exact (ActivityEntry.exists_ofRecord? (h.tidy.log.admits row mem) hid fits).imp fun _ => And.left

theorem item {w : Owner} (mem : row ∈ doc.table w.garmentTable) :
    ∃ item, GarmentItem.ofRecord? row = some item := by
  obtain ⟨n, -, fits, number⟩ := h.tidy.item w mem
  exact GarmentItem.exists_ofRecord? number (fits trivial)

theorem calculation (mem : row ∈ doc.table Calculations.table) :
    ∃ c, Calculation.ofRecord? row = some c := by
  obtain ⟨id, hid, fits⟩ := h.calculations.exists_id_fits h.fits mem
  have form := Calculations.joined_of_admits (h.calculations.admits row mem)
  exact (Calculation.exists_shown form hid fits).imp fun _ => And.left

theorem offer (mem : row ∈ doc.table Offers.table) : ∃ o, Offer.ofRecord? row = some o := by
  obtain ⟨id, hid, fits⟩ := h.offers.exists_id_fits h.fits mem
  have form := Offers.joined_of_admits (h.offers.admits row mem)
  have source := Fields.optional_of_mayBeSigned (h.tidy.source mem trivial)
  exact (Offer.exists_shown form hid fits source).imp fun _ => And.left

theorem calculation_shown (asked : Creators.Asked shortName labels)
    (mem : row ∈ doc.table Calculations.table) :
    ∃ c, Calculation.ofRecord? ((Creators.joined Calculations.table shortName labels conditions
      orderBy).shown doc row) = some c := by
  obtain ⟨id, hid, fits⟩ := h.calculations.exists_id_fits h.fits mem
  exact Creators.exists_calculation h.calculations h.tidy.mayBeText_name asked mem hid fits

theorem offer_shown (asked : Creators.Asked shortName labels) (mem : row ∈ doc.table Offers.table) :
    ∃ o, Offer.ofRecord? ((Creators.joined Offers.table shortName labels conditions
      orderBy).shown doc row) = some o := by
  obtain ⟨id, hid, fits⟩ := h.offers.exists_id_fits h.fits mem
  exact Creators.exists_offer h.offers h.tidy.mayBeText_name asked mem hid fits
    (h.tidy.source mem trivial)

end Document.WellTyped

end OfferBook
