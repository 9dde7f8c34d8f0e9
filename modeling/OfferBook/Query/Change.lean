import OfferBook.Document
import OfferBook.Query.Binding

/-! # Changing rows

* `Insert.apply` — one more row at the end of its table; `id` and `created_at` are filled in
  where the statement does not name them.
* `Update.apply`, `Delete.apply` — the rows that pass all tests are changed or left out. A table
  that does not exist is not made.
-/

namespace OfferBook

/-- What a statement did: how many rows it changed, and the id of a row it inserted. -/
structure Execution where
  changes : Nat
  insertedId : Json
deriving DecidableEq

namespace Execution

/-- Nothing was done. -/
def nothing : Execution := ⟨0, .null⟩

/-- The id of the inserted row, if it is an integer. -/
def rowId? (e : Execution) : Option Int := e.insertedId.signed?

end Execution

/-- Set fields of a row one after the other. -/
def assign (assignments : List (String × Json)) (row : Record) : Record :=
  assignments.foldl (fun row a => row.insert a.1 a.2) row

namespace Insert

/-- A value for each column; null for columns without one. Surplus values are not looked at. -/
def assignments (now : Instant) (params : List Json) (s : Insert) : List (String × Json) :=
  let (values, _) := Operand.bindAll now params (s.values.take s.columns.length)
  s.columns.zip (values ++ List.replicate (s.columns.length - values.length) .null)

/-- The row with a new id. -/
def row (now : Instant) (params : List Json) (id : Int) (s : Insert) : Record :=
  let row := assign (s.assignments now params) (Dict.empty.insert "id" (.int id))
  row.insertIfNew "created_at" (.text now.timestamp)

def apply (now : Instant) (params : List Json) (s : Insert) (doc : Document) :
    Execution × Document :=
  let (id, doc) := doc.nextId s.table
  let row := s.row now params id
  (⟨1, (row.get? "id").getD .null⟩, doc.append s.table row)

end Insert

namespace Update

/-- The values of the assignments, and the tests of the conditions after them. -/
def bound (now : Instant) (params : List Json) (s : Update) :
    List (String × Json) × List Test :=
  let (values, params) := Operand.bindAll now params (s.assignments.map Prod.snd)
  let (tests, _) := Condition.bindAll now none params s.conditions
  ((s.assignments.map Prod.fst).zip values, tests)

def apply (now : Instant) (params : List Json) (s : Update) (doc : Document) :
    Execution × Document :=
  let (assignments, tests) := s.bound now params
  if doc.hasTable s.table then
    let rows := doc.table s.table
    (⟨rows.countP (Test.allHold tests), .null⟩,
      doc.setTable s.table (rows.map fun row =>
        if Test.allHold tests row then assign assignments row else row))
  else (.nothing, doc)

end Update

namespace Delete

def apply (now : Instant) (params : List Json) (s : Delete) (doc : Document) :
    Execution × Document :=
  let (tests, _) := Condition.bindAll now none params s.conditions
  if doc.hasTable s.table then
    let rows := doc.table s.table
    (⟨rows.countP (Test.allHold tests), .null⟩,
      doc.setTable s.table (rows.filter fun row => !Test.allHold tests row))
  else (.nothing, doc)

end Delete

end OfferBook
