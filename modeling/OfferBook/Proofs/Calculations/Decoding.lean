import OfferBook.Proofs.Calculations.Rows

/-! # Reading rows of any form

Rows of earlier versions need not have the form of those that the services write. What is read
from them is said here field by field.

* `Calculations.uuidOf?`, `versionOf`, `flagOf`, `numberOf?` — the fields that make up a chain.
* `Calculation.Reads`, `Calculation.reads_of_ofRecord?` — a row is read as a calculation where each
  of its fields is.
-/

namespace OfferBook

namespace Calculations

/-- The chain to which a row is read as belonging, if its identifier can be read. -/
def uuidOf? (row : Record) : Option String :=
  Fields.orDefault "" "calculation_uuid" (nullAs "" Strict.text?) row.entries

/-- The version as which a row is read. -/
def versionOf (row : Record) : Int := ((row.get? "version").map Lenient.version).getD 1

/-- Whether a row is read as current. -/
def flagOf (row : Record) : Bool := ((row.get? "is_current").map Lenient.flag).getD false

/-- The text of a field that may hold anything. -/
def textOf (row : Record) (name : String) : Option String :=
  ((row.get? name).map Lenient.text).getD none

/-- The offer number of a row, unless it has none or an empty one. -/
def numberOf? (row : Record) : Option String := (textOf row "offer_number").filter (!·.isEmpty)

variable {row row' : Record}

theorem uuidOf?_congr (same : row'.get? "calculation_uuid" = row.get? "calculation_uuid") :
    uuidOf? row' = uuidOf? row := Fields.orDefault_congr same

theorem versionOf_congr (same : row'.get? "version" = row.get? "version") :
    versionOf row' = versionOf row := by
  rw [versionOf, same]
  rfl

theorem textOf_congr {name : String} (same : row'.get? name = row.get? name) :
    textOf row' name = textOf row name := by
  rw [textOf, same]
  rfl

theorem numberOf?_congr (same : row'.get? "offer_number" = row.get? "offer_number") :
    numberOf? row' = numberOf? row := by
  rw [numberOf?, textOf_congr same]
  rfl

/-- A number that is there, and not empty. -/
theorem exists_of_filled {number : Option String} (filled : (number.getD "").isEmpty = false) :
    ∃ n, number = some n ∧ n ≠ "" ∧ number.filter (!·.isEmpty) = some n := by
  cases number with
  | none => exact absurd filled (by decide)
  | some n =>
    have some : n.isEmpty = false := filled
    exact ⟨n, rfl, by simpa using some, by simp [some]⟩

theorem filter_of_missing {number : Option String} (missing : (number.getD "").isEmpty = true) :
    number.filter (!·.isEmpty) = none := by
  cases number with
  | none => rfl
  | some n =>
    have none : n.isEmpty = true := missing
    simpa using none

/-- An identifier that is read is stored as it is, unless it is read from null or nothing. -/
theorem uuidOf?_eq_some {uuid : String} (h : uuidOf? row = some uuid) :
    row.get? "calculation_uuid" = some (.text uuid) ∨
      uuid = "" ∧ Json.isMissing (row.get? "calculation_uuid") = true := by
  rw [uuidOf?, Fields.orDefault_entries] at h
  cases stored : row.get? "calculation_uuid" with
  | none =>
    rw [stored] at h
    exact .inr ⟨(Option.some.inj h).symm, rfl⟩
  | some v =>
    rw [stored] at h
    cases v with
    | null => exact .inr ⟨(Option.some.inj h).symm, rfl⟩
    | text s => exact .inl (congrArg (some ∘ Json.text) (Option.some.inj h))
    | bool | number | array | object => cases h

end Calculations

namespace Calculation

open Calculations

/-- Each field of a calculation is the one that is read from a row. -/
structure Reads (row : Record) (c : Calculation) : Prop where
  id : Fields.required "id" Strict.integer? row.entries = some c.id
  uuid : uuidOf? row = some c.uuid
  version : versionOf row = c.version
  kunde : textOf row "kunde" = c.kunde
  createdBy : textOf row "created_by" = c.createdBy
  status : textOf row "status" = c.status
  kind : Fields.orDefault default "calculation_type" (nullAs default SheetKind.ofJson?)
    row.entries = some c.kind
  offerNumber : textOf row "offer_number" = c.offerNumber
  isCurrent : flagOf row = c.isCurrent
  parent : Fields.optional "parent_version_id" Strict.integer? row.entries = some c.parent
  createdAt : Fields.optional "created_at" Strict.text? row.entries = some c.createdAt
  modifiedAt : Fields.optional "modified_at" Strict.text? row.entries = some c.modifiedAt
  deletedAt : Fields.optional "deleted_at" Strict.text? row.entries = some c.deletedAt
  createdByName : Fields.optional "created_by_name" Strict.text? row.entries =
    some c.createdByName

variable {row row' : Record} {c c' : Calculation}

/-- An id that is read has 64 bits. -/
theorem Reads.fits (h : Reads row c) : fitsSigned c.id = true := by
  obtain ⟨v, -, read⟩ := Option.bind_eq_some_iff.mp (Fields.required_entries.symm.trans h.id)
  exact Json.fitsSigned_of_signed? read

theorem Reads.ofRecord? (h : Reads row c) : ofRecord? row = some c := by
  suffices ∃ c', Calculation.ofRecord? row = some c' ∧ c' = c by
    obtain ⟨_, read, rfl⟩ := this
    exact read
  -- One field after the other, in the order in which they are read.
  refine exists_of_bind (Fields.ofJson?_ofRecord fieldNames row) ?_
  refine exists_of_bind h.id ?_
  refine exists_of_bind h.uuid ?_
  refine exists_of_bind Fields.orDefault_always ?_
  refine exists_of_bind Fields.orDefault_always ?_
  refine exists_of_bind Fields.orDefault_always ?_
  refine exists_of_bind Fields.orDefault_always ?_
  refine exists_of_bind h.kind ?_
  refine exists_of_bind Fields.orDefault_always ?_
  refine exists_of_bind Fields.orDefault_always ?_
  refine exists_of_bind h.parent ?_
  refine exists_of_bind h.createdAt ?_
  refine exists_of_bind h.modifiedAt ?_
  refine exists_of_bind h.deletedAt ?_
  refine exists_of_bind h.createdByName ⟨_, rfl, ?_⟩
  obtain ⟨-, -, version, kunde, createdBy, status, -, offerNumber, isCurrent, -⟩ := h
  cases c
  cases version
  cases kunde
  cases createdBy
  cases status
  cases offerNumber
  cases isCurrent
  rfl

theorem reads_of_ofRecord? (h : Calculation.ofRecord? row = some c) : Reads row c := by
  obtain ⟨fields, hfields, h⟩ := Option.bind_eq_some_iff.mp h
  obtain rfl := Option.some.inj ((Fields.ofJson?_ofRecord fieldNames row).symm.trans hfields)
  obtain ⟨id, hid, h⟩ := Option.bind_eq_some_iff.mp h
  obtain ⟨uuid, huuid, h⟩ := Option.bind_eq_some_iff.mp h
  obtain ⟨version, hversion, h⟩ := Option.bind_eq_some_iff.mp h
  obtain ⟨kunde, hkunde, h⟩ := Option.bind_eq_some_iff.mp h
  obtain ⟨createdBy, hcreatedBy, h⟩ := Option.bind_eq_some_iff.mp h
  obtain ⟨status, hstatus, h⟩ := Option.bind_eq_some_iff.mp h
  obtain ⟨kind, hkind, h⟩ := Option.bind_eq_some_iff.mp h
  obtain ⟨offerNumber, hofferNumber, h⟩ := Option.bind_eq_some_iff.mp h
  obtain ⟨isCurrent, hisCurrent, h⟩ := Option.bind_eq_some_iff.mp h
  obtain ⟨parent, hparent, h⟩ := Option.bind_eq_some_iff.mp h
  obtain ⟨createdAt, hcreatedAt, h⟩ := Option.bind_eq_some_iff.mp h
  obtain ⟨modifiedAt, hmodifiedAt, h⟩ := Option.bind_eq_some_iff.mp h
  obtain ⟨deletedAt, hdeletedAt, h⟩ := Option.bind_eq_some_iff.mp h
  obtain ⟨createdByName, hcreatedByName, h⟩ := Option.bind_eq_some_iff.mp h
  obtain rfl := Option.some.inj h
  have always {α : Type} {f : Json → α} {default a : α} {name : String}
      (h : Fields.orDefault default name (always f) row.entries = some a) :
      ((row.get? name).map f).getD default = a :=
    Option.some.inj (Fields.orDefault_always.symm.trans h)
  exact ⟨hid, huuid, always hversion, always hkunde, always hcreatedBy, always hstatus, hkind,
    always hofferNumber, always hisCurrent, hparent, hcreatedAt, hmodifiedAt, hdeletedAt,
    hcreatedByName⟩

end Calculation

end OfferBook
