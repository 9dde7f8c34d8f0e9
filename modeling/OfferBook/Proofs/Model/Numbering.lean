import OfferBook.Proofs.Calculations.Decoding
import OfferBook.Proofs.Offers.Rows

/-! # Rows that get an offer number

A number is written over a field of a row, whatever stood there, and all other fields stay.

* `Record.numbered` — the row.
* `Calculation.ofRecord?_numbered`, `Offer.ofRecord?_numbered` — what is read from the row.
* `Offer.numberOf?_of_ofRecord?` — the number of an offer.
-/

namespace OfferBook

/-- A row with an offer number. -/
def Record.numbered (row : Record) (number : String) : Record :=
  row.insert "offer_number" (.text number)

theorem Record.get?_numbered {row : Record} {field number : String}
    (other : field ≠ "offer_number") : (row.numbered number).get? field = row.get? field :=
  Dict.get?_insert_of_ne _ other _

theorem Fields.orDefault_numbered {row : Record} {number : String} :
    orDefault none "offer_number" (always Lenient.text) (row.numbered number).entries =
      some (some number) := by
  rw [orDefault_entries, Record.numbered, Dict.get?_insert_self]
  rfl

open Fields Record in
theorem Calculation.ofRecord?_numbered {row : Record} {c : Calculation} (number : String)
    (read : ofRecord? row = some c) :
    ofRecord? (row.numbered number) = some { c with offerNumber := some number } := by
  suffices ∃ c', ofRecord? (row.numbered number) = some c' ∧
      c' = { c with offerNumber := some number } by
    obtain ⟨_, read, rfl⟩ := this
    exact read
  unfold ofRecord? ofJson? at read ⊢
  rw [bind_ofRecord] at read ⊢
  -- The fields are read one after the other, and only one of them is another one.
  iterate 7
    first
      | refine exists_of_bind_eq read (required_congr (get?_numbered (by decide))) fun _ read => ?_
      | refine exists_of_bind_eq read (orDefault_congr (get?_numbered (by decide))) fun _ read => ?_
  obtain ⟨stored, -, read⟩ := Option.bind_eq_some_iff.mp read
  refine exists_of_bind orDefault_numbered ?_
  iterate 6
    refine exists_of_bind_eq read (orDefault_congr (get?_numbered (by decide))) fun _ read => ?_
  obtain rfl := Option.some.inj read
  exact ⟨_, rfl, rfl⟩

open Fields Record in
theorem Offer.ofRecord?_numbered {row : Record} {o : Offer} (number : String)
    (read : ofRecord? row = some o) :
    ofRecord? (row.numbered number) = some { o with offerNumber := some number } := by
  have customer : ∀ name ∈ Customer.fieldNames, (row.numbered number).get? name = row.get? name :=
    fun name among => get?_numbered fun named => absurd (named ▸ among) (by decide)
  suffices ∃ o', ofRecord? (row.numbered number) = some o' ∧
      o' = { o with offerNumber := some number } by
    obtain ⟨_, read, rfl⟩ := this
    exact read
  unfold ofRecord? ofJson? at read ⊢
  rw [bind_ofRecord] at read ⊢
  -- The fields are read one after the other, and only one of them is another one.
  iterate 13
    first
      | refine exists_of_bind_eq read (required_congr (get?_numbered (by decide))) fun _ read => ?_
      | refine exists_of_bind_eq read (orDefault_congr (get?_numbered (by decide))) fun _ read => ?_
      | refine exists_of_bind_eq read (Customer.ofFields?_congr customer) fun _ read => ?_
  obtain ⟨stored, -, read⟩ := Option.bind_eq_some_iff.mp read
  refine exists_of_bind orDefault_numbered ?_
  iterate 4
    refine exists_of_bind_eq read (orDefault_congr (get?_numbered (by decide))) fun _ read => ?_
  obtain rfl := Option.some.inj read
  exact ⟨_, rfl, rfl⟩

/-- The number of an offer is the one of its row. -/
theorem Offer.numberOf?_of_ofRecord? {row : Record} {o : Offer} (read : ofRecord? row = some o) :
    Calculations.numberOf? row = o.offerNumber.filter (!·.isEmpty) := by
  unfold ofRecord? ofJson? at read
  rw [Fields.bind_ofRecord] at read
  iterate 13 obtain ⟨_, -, read⟩ := Option.bind_eq_some_iff.mp read
  obtain ⟨number, found, read⟩ := Option.bind_eq_some_iff.mp read
  iterate 4 obtain ⟨_, -, read⟩ := Option.bind_eq_some_iff.mp read
  obtain rfl := Option.some.inj read
  have own : Calculations.textOf row "offer_number" = number :=
    Option.some.inj (Fields.orDefault_always.symm.trans found)
  rw [Calculations.numberOf?, own]

end OfferBook
