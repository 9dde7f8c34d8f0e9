import Mathlib.Data.Option.Basic
import OfferBook.Office.Offers
import OfferBook.Proofs.Model.Reading

/-! # Rows of offers

* `Offers.form` — what the rows of the table look like that the services write.
* `Offer.Shown` — what a row shows of the offer that is read from it; `Offer.Reads` — some fields
  of an offer that is read from a row of any form.
* `Offer.exists_shown`, `Offer.shown` — rows of the form can be read where their integers have 64
  bits, and what is read from them is what they show.
-/

namespace OfferBook

/-- What the rows look like, apart from their ids. Customers and snapshots are read from
    whatever stands there. -/
def Offers.form : Form :=
  [("offer_uuid", Field.IsText), ("offer_type", Field.IsKind),
   ("source_calculation_id", Field.MayBeInteger), ("kunde", Field.MayBeText),
   ("valid_until", Field.MayBeText), ("status", Field.IsStatus), ("notes", Field.MayBeText),
   ("message", Field.MayBeText), ("delivery_option", Field.MayBeText),
   ("offer_number", Field.IsFilled), ("sent_at", Field.MayBeText), ("created_at", Field.IsText),
   ("modified_at", Field.MayBeText), ("deleted_at", Field.MayBeText),
   ("created_by_name", Field.IsAbsent)]

theorem Offers.joined_of_admits {row : Record} (h : form.Admits row) : form.joined.Admits row :=
  h.joined (fun _ _ _ => rfl) (.inl (h ("created_by_name", Field.IsAbsent) (by simp [form])))

/-- A customer is read alike from rows with the same fields of a customer. -/
theorem Customer.ofFields?_congr {row row' : Record}
    (same : ∀ name ∈ fieldNames, row.get? name = row'.get? name) :
    ofFields? (fun name => Fields.orDefault none name (always Lenient.text) row.entries) =
      ofFields? fun name => Fields.orDefault none name (always Lenient.text) row'.entries := by
  unfold ofFields?
  repeat' refine Option.bind_congr' ?_ fun _ _ => ?_
  all_goals first
    | exact Fields.orDefault_congr (same _ (by decide))
    | rfl

namespace Offer

/-- What a row shows of an offer. -/
structure Shown (row : Record) (o : Offer) : Prop where
  id : row.get? "id" = some (.int o.id)
  kind : row.get? "offer_type" = some (.text o.kind.name)
  number : ∃ n, n ≠ "" ∧ o.offerNumber = some n ∧ row.get? "offer_number" = some (.text n)

variable {row : Record}

/-- The fields by which an offer is found and its creator is named. -/
structure Reads (row : Record) (o : Offer) : Prop where
  id : Fields.required "id" Strict.integer? row.entries = some o.id
  uuid : Fields.orDefault "" "offer_uuid" (nullAs "" Strict.text?) row.entries = some o.uuid
  createdBy : Fields.orDefault none "created_by" (always Lenient.text) row.entries =
    some o.createdBy
  createdByName : Fields.optional "created_by_name" Strict.text? row.entries =
    some o.createdByName

theorem reads_of_ofRecord? {o : Offer} (read : ofRecord? row = some o) : Reads row o := by
  unfold ofRecord? ofJson? at read
  rw [Fields.bind_ofRecord] at read
  obtain ⟨id, hid, read⟩ := Option.bind_eq_some_iff.mp read
  obtain ⟨uuid, huuid, read⟩ := Option.bind_eq_some_iff.mp read
  iterate 4 obtain ⟨_, -, read⟩ := Option.bind_eq_some_iff.mp read
  obtain ⟨createdBy, hcreatedBy, read⟩ := Option.bind_eq_some_iff.mp read
  iterate 10 obtain ⟨_, -, read⟩ := Option.bind_eq_some_iff.mp read
  obtain ⟨name, hname, read⟩ := Option.bind_eq_some_iff.mp read
  obtain rfl := Option.some.inj read
  exact ⟨hid, huuid, hcreatedBy, hname⟩

theorem fits_of_ofRecord? {k : Int} (id : row.get? "id" = some (.int k)) {o : Offer}
    (read : ofRecord? row = some o) : fitsSigned k = true ∧
      ∃ source, Fields.optional "source_calculation_id" Strict.integer? row.entries =
        some source := by
  obtain ⟨fields, hfields, read⟩ := Option.bind_eq_some_iff.mp read
  obtain rfl := Option.some.inj ((Fields.ofJson?_ofRecord fieldNames row).symm.trans hfields)
  obtain ⟨n, hid, read⟩ := Option.bind_eq_some_iff.mp read
  obtain ⟨uuid, -, read⟩ := Option.bind_eq_some_iff.mp read
  obtain ⟨kind, -, read⟩ := Option.bind_eq_some_iff.mp read
  obtain ⟨source, hsource, -⟩ := Option.bind_eq_some_iff.mp read
  refine ⟨?_, source, hsource⟩
  rw [Fields.required_signed id] at hid
  by_cases fits : fitsSigned k = true
  · exact fits
  · rw [if_neg fits] at hid
    exact absurd hid.symm (Option.some_ne_none n)

theorem exists_shown (form : Offers.form.joined.Admits row) {k : Int}
    (id : row.get? "id" = some (.int k)) (fits : fitsSigned k = true)
    (source : ∃ source, Fields.optional "source_calculation_id" Strict.integer? row.entries =
      some source) :
    ∃ o, ofRecord? row = some o ∧ Shown row o := by
  simp only [Form.Admits, Form.joined, Offers.form, ne_eq, decide_not, String.reduceEq, decide_true,
    decide_false, Bool.not_true, Bool.not_false, Bool.false_eq_true, not_false_eq_true,
    List.filter_cons_of_pos, List.filter_cons_of_neg, List.filter_nil, List.cons_append,
    List.nil_append, List.forall_mem_cons] at form
  obtain ⟨⟨uuid, huuid⟩, ⟨kind, hkind⟩, -, -, validUntil, ⟨status, hstatus⟩, notes, message,
    delivery, ⟨number, filled, hnumber⟩, sent, created, -, deleted, name, -⟩ := form
  obtain ⟨source, hsource⟩ := source
  obtain ⟨validUntil, hvalidUntil⟩ := Fields.optional_of_mayBeText validUntil
  obtain ⟨notes, hnotes⟩ := Fields.optional_of_mayBeText notes
  obtain ⟨message, hmessage⟩ := Fields.optional_of_mayBeText message
  obtain ⟨delivery, hdelivery⟩ := Fields.optional_of_mayBeText delivery
  obtain ⟨sent, hsent⟩ := Fields.optional_of_mayBeText sent
  obtain ⟨created, hcreated⟩ := Fields.optional_of_mayBeText (.inr (.inr created))
  obtain ⟨deleted, hdeleted⟩ := Fields.optional_of_mayBeText deleted
  obtain ⟨name, hname⟩ := Fields.optional_of_mayBeText name
  have customer : ∃ customer, Customer.ofFields? (fun name =>
      Fields.orDefault none name (always Lenient.text) row.entries) = some customer := by
    simp only [Customer.ofFields?, Fields.orDefault_always]
    exact ⟨_, rfl⟩
  obtain ⟨customer, hcustomer⟩ := customer
  -- One field after the other, in the order in which they are read.
  refine exists_of_bind (Fields.ofJson?_ofRecord fieldNames row) ?_
  refine exists_of_bind ((Fields.required_signed id).trans (if_pos fits)) ?_
  refine exists_of_bind (Fields.orDefault_text huuid) ?_
  refine exists_of_bind (Fields.orDefault_kind hkind) ?_
  refine exists_of_bind hsource ?_
  refine exists_of_bind Fields.orDefault_always ?_
  refine exists_of_bind hcustomer ?_
  refine exists_of_bind Fields.orDefault_always ?_
  refine exists_of_bind hvalidUntil ?_
  refine exists_of_bind (Fields.orDefault_status hstatus) ?_
  refine exists_of_bind hnotes ?_
  refine exists_of_bind hmessage ?_
  refine exists_of_bind hdelivery ?_
  refine exists_of_bind Fields.orDefault_always ?_
  refine exists_of_bind Fields.orDefault_always ?_
  refine exists_of_bind hsent ?_
  refine exists_of_bind hcreated ?_
  refine exists_of_bind hdeleted ?_
  refine exists_of_bind hname ⟨_, rfl, ?_⟩
  refine ⟨id, hkind, number, filled, ?_, hnumber⟩
  simp [hnumber, Lenient.text]

theorem shown (form : Offers.form.Admits row) {k : Int}
    (id : row.get? "id" = some (.int k)) {o : Offer} (read : ofRecord? row = some o) :
    Shown row o := by
  obtain ⟨fits, source⟩ := fits_of_ofRecord? id read
  obtain ⟨o', read', shown⟩ := exists_shown (Offers.joined_of_admits form) id fits source
  obtain rfl : o = o' := Option.some.inj (read.symm.trans read')
  exact shown

end Offer

end OfferBook
