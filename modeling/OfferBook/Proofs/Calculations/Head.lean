import OfferBook.Proofs.Calculations.Rows
import OfferBook.Proofs.Office.Outcome
import OfferBook.Proofs.Query.Sorting

/-! # Chains and their heads

* `Document.chain` — the rows of a chain in the order in which they were stored.
* `Calculations.IsHead` — a row of a chain that no other has to precede, and what it shows.
* `Calculations.require_ends`, `Calculations.headOf_ends` — how a row and a head are found.
-/

namespace OfferBook

/-- Whether a row is a version of a chain. -/
def Calculations.isOf (uuid : String) (row : Record) : Bool :=
  row.get? "calculation_uuid" = some (.text uuid)

/-- The rows of a chain in the order in which they were stored. -/
def Document.chain (doc : Document) (uuid : String) : List Record :=
  (doc.table Calculations.table).filter (Calculations.isOf uuid)

theorem Document.mem_chain {doc : Document} {uuid : String} {row : Record} :
    row ∈ doc.chain uuid ↔
      row ∈ doc.table Calculations.table ∧ row.get? "calculation_uuid" = some (.text uuid) := by
  simp [chain, Calculations.isOf]

theorem Json.matchesValue_text {v : Option Json} (h : Field.IsText v) (s : String) :
    matchesValue v (.text s) = decide (v = some (.text s)) := by
  obtain ⟨t, rfl⟩ := h
  change same (.text t) (.text s) = _
  simp [same]

theorem Json.matchesValue_int {a b : Int} (ha : fitsSigned a = true) (hb : fitsSigned b = true) :
    matchesValue (some (.int a)) (.int b) = decide (a = b) := by
  change Number.same (.int a) (.int b) = _
  simp [Number.same, Number.signed?, ha, hb]

namespace Regular

variable {form : Form} {t : String} {doc : Document}

/-- The first row whose id is the one that is asked for is the one with this number. -/
theorem head?_named (h : Regular form t doc) {k : Nat} {row : Record}
    (hk : (doc.table t)[k]? = some row) (fits : fitsSigned (k + 1) = true) (now : Instant) :
    ((doc.table t).filter (Test.allHold (Condition.bindAll now none []
      [.is "id" (.int (k + 1))]).1)).head? = some row := by
  -- Ids after the one that is asked for may be too long to be compared, but they do not matter.
  have named {j : Nat} {other : Record} (hj : (doc.table t)[j]? = some other) (le : j ≤ k) :
      Test.allHold (Condition.bindAll now none [] [.is "id" (.int (k + 1))]).1 other =
        decide (j = k) := by
    have fits' : fitsSigned (j + 1) = true := by
      simp only [fitsSigned, Bool.and_eq_true, decide_eq_true_eq] at fits ⊢
      omega
    change (Json.matchesValue (other.get? "id") (.int (k + 1)) && true) = _
    rw [h.numbered j other hj, Json.matchesValue_int fits' fits, Bool.and_true]
    exact decide_eq_decide.mpr (by omega)
  obtain ⟨inside, found⟩ := List.getElem?_eq_some_iff.mp hk
  rw [List.head?_filter, List.find?_eq_some_iff_getElem]
  refine ⟨(named hk (Nat.le_refl k)).trans (decide_eq_true rfl), k, inside, found, ?_⟩
  intro j less
  rw [named (List.getElem?_eq_getElem (Nat.lt_trans less inside)) (Nat.le_of_lt less),
    decide_eq_false (Nat.ne_of_lt less)]
  rfl

end Regular

namespace Calculations

open Office

variable {m : Type} {o : Office m} {doc : Document}

theorem shown_of_mem (h : Regular form table doc) {row : Record} (mem : row ∈ doc.table table)
    {c : Calculation} (read : Calculation.ofRecord? row = some c) : Calculation.Shown row c := by
  obtain ⟨k, id, -⟩ := h.exists_id mem
  exact Calculation.shown (h.admits row mem) id read

/-- Whether the id of a row is the one that is asked for. -/
def isNamed (id : Int) (row : Record) : Bool := Json.matchesValue (row.get? "id") (.int id)

theorem require_ends (h : Regular form table o.store.document) (id : Int) :
    Ends (require id) o
      (fun c o' => (∃ row ∈ o.store.document.table table, isNamed id row = true ∧
        Calculation.Shown row c) ∧ o' = o)
      fun _ o' => o' = o := by
  simp only [require, find, ends_bind, ends_storage, ends_selectFirst, Select.rows_matching]
  split
  · next row found =>
    obtain ⟨mem, passed⟩ := List.mem_filter.mp (List.mem_of_head? found)
    have named : isNamed id row = true := (Bool.and_eq_true_iff.mp passed).1
    -- A row that cannot be read is an error, which changes nothing.
    cases read : Calculation.ofRecord? row with
    | none => trivial
    | some c => exact ends_pure.mpr ⟨⟨row, mem, named, shown_of_mem h mem read⟩, rfl⟩
  · exact ends_throw.mpr rfl

/-- A row of the chain of the calculation that it shows, which no other row of it exceeds. -/
structure IsHead (doc : Document) (row : Record) (head : Calculation) : Prop where
  mem : row ∈ doc.chain head.uuid
  shown : Calculation.Shown row head
  newest : ∀ other ∈ doc.chain head.uuid,
    (Json.compareValues (other.get? "version") (row.get? "version")).isLE = true

theorem filter_eq_chain (h : Regular form table doc) (now : Instant) (uuid : String) :
    (doc.table table).filter (Test.allHold (Condition.bindAll now none []
      [.is "calculation_uuid" (.text uuid)]).1) = doc.chain uuid := by
  refine List.filter_congr fun row mem => ?_
  have text : Field.IsText (row.get? "calculation_uuid") :=
    h.admits row mem ("calculation_uuid", Field.IsText) (by simp [form])
  change (Json.matchesValue (row.get? "calculation_uuid") (.text uuid) && true) = _
  rw [Json.matchesValue_text text, Bool.and_true]
  rfl

theorem rows_headOf (h : Regular form table doc) (now : Instant) (uuid : String) :
    ({ (Select.matching table [.is "calculation_uuid" (.text uuid)]).ordered
        (.bare "version") true with limit := some (.literal (.int 1)) } : Select).rows now [] doc =
      (OrderBy.sort none ⟨.bare "version", true⟩ (doc.chain uuid)).take 1 := by
  rw [Select.rows_ordered_one, filter_eq_chain h]

theorem headOf_ends (h : Regular form table o.store.document) (uuid : String) :
    Ends (headOf uuid) o
      (fun found o' => (match found with
        | some head => head.uuid = uuid ∧ ∃ row, IsHead o.store.document row head
        | none => o.store.document.chain uuid = []) ∧ o' = o)
      fun _ o' => o' = o := by
  simp only [headOf, ends_selectFirst, rows_headOf h, List.head?_take]
  split
  · next row found =>
    -- What the sort puts first is preceded by no row of the chain.
    obtain ⟨mem, first⟩ := OrderBy.precedes_of_head?_sort found
    cases read : Calculation.ofRecord? row with
    | none => trivial
    | some head =>
      obtain ⟨inTable, named⟩ := Document.mem_chain.mp mem
      have shown := shown_of_mem h inTable read
      obtain rfl : uuid = head.uuid := by simpa [named] using shown.uuid
      refine ⟨⟨rfl, row, mem, shown, ?_⟩, trivial⟩
      exact fun other hother => OrderBy.precedes_iff.mp (first other hother)
  · next empty => exact ⟨OrderBy.sort_eq_nil.mp (List.head?_eq_none_iff.mp empty), trivial⟩

end Calculations

end OfferBook
