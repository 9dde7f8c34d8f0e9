import OfferBook.Document
import OfferBook.Query.Binding

/-! # Selecting rows

A selection takes the rows of its table through five stages:

* `Select.attach` — each row takes the fields of the first joined record with its key, named
  after the alias, and the labelled ones of them once more under their labels.
* `Select.label` — labelled columns of the row itself are repeated under their labels.
* the tests of the conditions, `OrderBy.sort` and `Window.apply`.

Beyond that the projection leaves rows as they are.
-/

namespace OfferBook

namespace Join

/-- Columns of the primary row and of the joined record whose keys must agree. -/
def keyColumns (join : Join) : String × String :=
  let scope : Scope := some join
  if scope.isJoined join.left && !scope.isJoined join.right then (join.right.name, join.left.name)
  else (join.left.name, join.right.name)

/-- The first record with the key of a row. -/
def partner? (join : Join) (records : List Record) (row : Record) : Option Record :=
  let (outer, inner) := join.keyColumns
  records.find? fun record => Json.sameKey (record.get? inner) (row.get? outer)

end Join

namespace Select

/-- The labels of joined columns. -/
def joinedLabel? (scope : Scope) : Projection → Option (String × String)
  | .column c (some label) => if scope.isJoined c then some (c.name, label) else none
  | _ => none

/-- Give a row the fields of its partner. -/
def merge (join : Join) (labels : List (String × String)) (row partner : Record) : Record :=
  let row := partner.entries.foldl
    (fun row e => row.insert (Scope.joinedField join e.1) e.2) row
  labels.foldl (fun row l => row.insert l.2 ((partner.get? l.1).getD .null)) row

/-- Give a row the fields of the joined record that belongs to it, if there is one. -/
def attach (s : Select) (doc : Document) (row : Record) : Record :=
  match s.join with
  | none => row
  | some join =>
    match join.partner? (doc.table join.table) row with
    | none => row
    | some partner => merge join (s.projection.filterMap (joinedLabel? s.join)) row partner

/-- The name by which columns are qualified as the primary table's own. -/
def primaryName (s : Select) : String := s.shortName.getD s.table

/-- The labels of the primary table's own columns. -/
def ownLabel? (s : Select) : Projection → Option (String × String)
  | .column c (some label) =>
    let own := match c.qualifier with
      | some q => q = s.primaryName
      | none => true
    if own && !Scope.isJoined s.join c then some (c.name, label) else none
  | _ => none

/-- Repeat labelled columns of a row under their labels, one after the other. -/
def label (s : Select) (row : Record) : Record :=
  (s.projection.filterMap s.ownLabel?).foldl
    (fun row l => row.insert l.2 ((row.get? l.1).getD .null)) row

end Select

namespace OrderBy

/-- Whether a row may stand before another one. -/
def precedes (scope : Scope) (order : OrderBy) (a b : Record) : Bool :=
  let field := scope.field order.column
  let ordering := Json.compareValues (a.get? field) (b.get? field)
  if order.descending then ordering.swap != .gt else ordering != .gt

/-- Sort rows; those that compare equal keep their order. -/
def sort (scope : Scope) (order : OrderBy) (rows : List Record) : List Record :=
  rows.mergeSort (order.precedes scope)

end OrderBy

/-- How many rows to leave out at the front, and how many to take at most. -/
structure Window where
  skip : Nat
  take : Option Nat
deriving DecidableEq

namespace Window

def apply (w : Window) (rows : List α) : List α :=
  let rest := rows.drop w.skip
  match w.take with
  | some n => rest.take n
  | none => rest

end Window

namespace Select

/-- The rows before they are ordered and cut. -/
def candidates (s : Select) (doc : Document) : List Record :=
  (doc.table s.table).map fun row => s.label (s.attach doc row)

/-- The rows selected. -/
def rows (now : Instant) (params : List Json) (doc : Document) (s : Select) : List Record :=
  let (tests, params) := Condition.bindAll now s.join params s.conditions
  let (limit, params) := Operand.bindOption now params s.limit
  let (offset, _) := Operand.bindOption now params s.offset
  let found := (s.candidates doc).filter (Test.allHold tests)
  let sorted := match s.orderBy with
    | some order => order.sort s.join found
    | none => found
  Window.apply ⟨(offset.bind Json.count?).getD 0, limit.bind Json.count?⟩ sorted

end Select

end OfferBook
