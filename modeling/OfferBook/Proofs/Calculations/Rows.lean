import OfferBook.Office.Calculations
import OfferBook.Proofs.Model.Reading

/-! # Rows of calculations

* `Calculations.form` — what the rows of the table look like that the services write.
* `Calculation.Shown` — what a row shows of the calculation that is read from it.
* `Calculation.exists_shown`, `Calculation.shown` — such rows, also where the
  names of their creators are added, can be read, and what is read from them is what they show.
-/

namespace OfferBook

/-- What the rows look like, apart from their ids. -/
def Calculations.form : Form :=
  [("calculation_uuid", Field.IsText), ("version", Field.IsInteger), ("kunde", Field.IsText),
   ("created_by", Field.MayBeText), ("status", Field.IsText), ("calculation_type", Field.IsKind),
   ("offer_number", Field.IsFilled), ("is_current", Field.IsFlag),
   ("parent_version_id", Field.MayBeSigned), ("created_at", Field.IsText),
   ("modified_at", Field.IsText), ("deleted_at", Field.MayBeText),
   ("created_by_name", Field.IsAbsent)]

theorem Calculations.joined_of_admits {row : Record} (h : form.Admits row) :
    form.joined.Admits row :=
  h.joined (fun _ _ _ => rfl) (.inl (h ("created_by_name", Field.IsAbsent) (by simp [form])))

namespace Calculation

/-- What a row shows of a calculation. -/
structure Shown (row : Record) (c : Calculation) : Prop where
  id : row.get? "id" = some (.int c.id)
  fits : fitsSigned c.id = true
  uuid : row.get? "calculation_uuid" = some (.text c.uuid)
  version : ∀ v, row.get? "version" = some (.int v) → fitsSigned v = true → c.version = v
  kind : row.get? "calculation_type" = some (.text c.kind.name)
  number : ∃ n, n ≠ "" ∧ c.offerNumber = some n ∧ row.get? "offer_number" = some (.text n)

variable {row : Record}

/-- Only a row whose id has 64 bits can be read. -/
theorem fits_of_ofRecord? {k : Int} (id : row.get? "id" = some (.int k)) {c : Calculation}
    (read : ofRecord? row = some c) : fitsSigned k = true := by
  obtain ⟨fields, hfields, read⟩ := Option.bind_eq_some_iff.mp read
  obtain rfl := Option.some.inj ((Fields.ofJson?_ofRecord fieldNames row).symm.trans hfields)
  obtain ⟨n, hid, -⟩ := Option.bind_eq_some_iff.mp read
  rw [Fields.required_signed id] at hid
  by_cases fits : fitsSigned k = true
  · exact fits
  · rw [if_neg fits] at hid
    exact absurd hid.symm (Option.some_ne_none n)

theorem exists_shown (form : Calculations.form.joined.Admits row) {k : Int}
    (id : row.get? "id" = some (.int k)) (fits : fitsSigned k = true) :
    ∃ c, ofRecord? row = some c ∧ Shown row c := by
  simp only [Form.Admits, Form.joined, Calculations.form, ne_eq, decide_not, String.reduceEq,
    decide_true, decide_false, Bool.not_true, Bool.not_false, Bool.false_eq_true,
    not_false_eq_true, List.filter_cons_of_pos, List.filter_cons_of_neg, List.filter_nil,
    List.cons_append, List.nil_append, List.forall_mem_cons] at form
  obtain ⟨⟨uuid, huuid⟩, ⟨version, hversion⟩, -, -, -, ⟨kind, hkind⟩, ⟨number, filled, hnumber⟩,
    -, parent, created, modified, deleted, name, -⟩ := form
  obtain ⟨parent, hparent⟩ := Fields.optional_of_mayBeSigned parent
  obtain ⟨created, hcreated⟩ := Fields.optional_of_mayBeText (.inr (.inr created))
  obtain ⟨modified, hmodified⟩ := Fields.optional_of_mayBeText (.inr (.inr modified))
  obtain ⟨deleted, hdeleted⟩ := Fields.optional_of_mayBeText deleted
  obtain ⟨name, hname⟩ := Fields.optional_of_mayBeText name
  -- One field after the other, in the order in which they are read.
  refine exists_of_bind (Fields.ofJson?_ofRecord fieldNames row) ?_
  refine exists_of_bind ((Fields.required_signed id).trans (if_pos fits)) ?_
  refine exists_of_bind (Fields.orDefault_text huuid) ?_
  refine exists_of_bind Fields.orDefault_always ?_
  refine exists_of_bind Fields.orDefault_always ?_
  refine exists_of_bind Fields.orDefault_always ?_
  refine exists_of_bind Fields.orDefault_always ?_
  refine exists_of_bind (Fields.orDefault_kind hkind) ?_
  refine exists_of_bind Fields.orDefault_always ?_
  refine exists_of_bind Fields.orDefault_always ?_
  refine exists_of_bind hparent ?_
  refine exists_of_bind hcreated ?_
  refine exists_of_bind hmodified ?_
  refine exists_of_bind hdeleted ?_
  refine exists_of_bind hname ⟨_, rfl, ?_⟩
  refine ⟨id, fits, huuid, ?_, hkind, number, filled, ?_, hnumber⟩
  · intro v hv hfits
    simp [hv, Lenient.version, Json.int, Number.signed?, hfits]
  · simp [hnumber, Lenient.text]

theorem shown (form : Calculations.form.Admits row) {k : Int}
    (id : row.get? "id" = some (.int k)) {c : Calculation} (read : ofRecord? row = some c) :
    Shown row c := by
  obtain ⟨c', read', shown⟩ := exists_shown (Calculations.joined_of_admits form) id
    (fits_of_ofRecord? id read)
  obtain rfl : c = c' := Option.some.inj (read.symm.trans read')
  exact shown

end Calculation

end OfferBook
