import OfferBook.Model.Activity
import OfferBook.Proofs.Json.Writing
import OfferBook.Proofs.Offers.Rows

/-! # Values that are kept as text

The details of an activity and the snapshot of an offer are free-form values. They are printed into
a field of text, and parsed when the field is read.

* `Json.Embeddable` — a value that comes back.
* `Json.read?_compact` — a text that was printed is read as its value, unless this is nested too
  deep.
* `Lenient.embedded_ofOption` — so is the field that keeps it, and a field that keeps none.
* `ActivityEntry.details_of_ofRecord?`, `Offer.snapshot_of_ofRecord?` — what is read of the fields.
-/

namespace OfferBook

namespace Json

/-- A value that comes back when it is kept as text: it is proper, nested no deeper than is read,
    and its doubles are read as they are printed. -/
structure Embeddable (v : Json) : Prop where
  proper : v.Proper
  doubles : v.Numbers Number.KeepsDouble
  nesting : v.nesting ≤ maxDepth

instance (v : Json) : Decidable v.Embeddable :=
  decidable_of_iff (v.Proper ∧ v.Numbers Number.KeepsDouble ∧ v.nesting ≤ maxDepth)
    ⟨fun ⟨proper, doubles, nesting⟩ => ⟨proper, doubles, nesting⟩,
      fun h => ⟨h.proper, h.doubles, h.nesting⟩⟩

theorem read?_compact {v : Json} (proper : v.Proper) (doubles : v.Numbers Number.KeepsDouble) :
    read? v.compact = if v.nesting ≤ maxDepth then some v else none := by
  have written := written_compactChars v (readsBack_of_keepsDouble proper.words doubles)
  rw [read?, compact, String.toList_ofList, readTree?_of_written written]
  split
  · rw [Option.map_some, proper.sorted]
  · rfl

end Json

namespace Lenient

/-- A value that is nested too deep comes back as the text that was printed. -/
theorem embedded_compact {v : Json} (proper : v.Proper)
    (doubles : v.Numbers Number.KeepsDouble) :
    embedded (.text v.compact) =
      some (if v.nesting ≤ Json.maxDepth then v else .text v.compact) := by
  rw [embedded, Json.read?_compact proper doubles]
  split <;> rfl

theorem embedded_ofOption {o : Option Json} (h : ∀ v ∈ o, v.Embeddable) :
    embedded (Json.ofOption (.text ·.compact) o) = o := by
  cases o with
  | none => rfl
  | some v =>
    obtain ⟨proper, doubles, nesting⟩ := h v rfl
    exact (embedded_compact proper doubles).trans (congrArg some (if_pos nesting))

end Lenient

/-! ## Fields of typed records -/

/-- A field of text, as it is read where it is missing, too. -/
theorem Fields.orDefault_embedded {name : String} {row : Record} :
    orDefault none name (always Lenient.embedded) row.entries =
      some (Lenient.embedded ((row.get? name).getD .null)) := by
  rw [orDefault_entries]
  cases row.get? name <;> rfl

theorem ActivityEntry.details_of_ofRecord? {row : Record} {e : ActivityEntry}
    (read : ofRecord? row = some e) :
    row.get? "id" = some (.int e.id) ∧
      e.details = Lenient.embedded ((row.get? "details").getD .null) := by
  unfold ofRecord? ofJson? at read
  rw [Fields.bind_ofRecord] at read
  obtain ⟨id, hid, read⟩ := Option.bind_eq_some_iff.mp read
  iterate 6 obtain ⟨_, -, read⟩ := Option.bind_eq_some_iff.mp read
  obtain ⟨details, hdetails, read⟩ := Option.bind_eq_some_iff.mp read
  obtain ⟨_, -, read⟩ := Option.bind_eq_some_iff.mp read
  obtain rfl := Option.some.inj read
  obtain ⟨v, stored, signed⟩ := Option.bind_eq_some_iff.mp (Fields.required_entries.symm.trans hid)
  obtain ⟨rfl, -⟩ := Json.eq_int_of_signed? signed
  exact ⟨stored, Option.some.inj (hdetails.symm.trans Fields.orDefault_embedded)⟩

theorem Offer.snapshot_of_ofRecord? {row : Record} {o : Offer} (read : ofRecord? row = some o) :
    o.snapshot = Lenient.embedded ((row.get? "snapshot_data").getD .null) := by
  unfold ofRecord? ofJson? at read
  rw [Fields.bind_ofRecord] at read
  iterate 12 obtain ⟨_, -, read⟩ := Option.bind_eq_some_iff.mp read
  obtain ⟨snapshot, hsnapshot, read⟩ := Option.bind_eq_some_iff.mp read
  iterate 5 obtain ⟨_, -, read⟩ := Option.bind_eq_some_iff.mp read
  obtain rfl := Option.some.inj read
  exact Option.some.inj (hsnapshot.symm.trans Fields.orDefault_embedded)

end OfferBook
