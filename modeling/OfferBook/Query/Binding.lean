import OfferBook.Instant
import OfferBook.Query.Comparison
import OfferBook.Statement.Basic

/-! # Binding parameters

Placeholders take the parameters one after the other, in the order of the statement's text; where
there are none left they are null. Each placeholder is bound once for a statement, so that all
rows are held against the same values.

* `Operand.bind`, `bindAll` — the values of operands and the parameters that remain.
* `Scope` — the name of the field that a column stands for when a second table is joined.
* `Test` — a condition with its field and its value found.
-/

namespace OfferBook

namespace Operand

/-- The value of an operand, and the parameters that remain. -/
def bind (now : Instant) (params : List Json) : Operand → Json × List Json
  | .placeholder => (params.headD .null, params.tail)
  | .literal v => (v, params)
  | .now => (.text now.timestamp, params)

/-- The values of several operands. -/
def bindAll (now : Instant) (params : List Json) : List Operand → List Json × List Json
  | [] => ([], params)
  | o :: rest =>
    let (v, params) := o.bind now params
    let (vs, params) := bindAll now params rest
    (v :: vs, params)

/-- The value of an operand that may be left out. -/
def bindOption (now : Instant) (params : List Json) : Option Operand → Option Json × List Json
  | none => (none, params)
  | some o =>
    let (v, params) := o.bind now params
    (some v, params)

end Operand

/-- The join of a statement, by which qualified columns are told apart. -/
abbrev Scope := Option Join

namespace Scope

/-- Whether a column is qualified as one of the joined table. -/
def isJoined (scope : Scope) (c : Column) : Bool :=
  match c.qualifier, scope with
  | some q, some join => q = join.shortName || q = join.table
  | _, _ => false

/-- The field of a joined row that holds a column of the joined table. -/
def joinedField (join : Join) (column : String) : String := join.shortName ++ "_" ++ column

/-- The field that holds a column. -/
def field (scope : Scope) (c : Column) : String :=
  match scope with
  | some join => if scope.isJoined c then joinedField join c.name else c.name
  | none => c.name

end Scope

inductive Check
  | isNull
  | isNotNull
  | equals (value : Json)
deriving DecidableEq

/-- What a condition asks of a row. -/
structure Test where
  field : String
  check : Check
deriving DecidableEq

namespace Test

def holds (row : Record) (t : Test) : Bool :=
  let value := row.get? t.field
  match t.check with
  | .isNull => Json.isMissing value
  | .isNotNull => !Json.isMissing value
  | .equals expected => Json.matchesValue value expected

/-- Whether a row passes all tests. -/
def allHold (tests : List Test) (row : Record) : Bool := tests.all (·.holds row)

end Test

namespace Condition

def bind (now : Instant) (scope : Scope) (params : List Json) : Condition → Test × List Json
  | .isNull c => (⟨scope.field c, .isNull⟩, params)
  | .isNotNull c => (⟨scope.field c, .isNotNull⟩, params)
  | .equals c o =>
    let (v, params) := o.bind now params
    (⟨scope.field c, .equals v⟩, params)

/-- The tests of several conditions. -/
def bindAll (now : Instant) (scope : Scope) (params : List Json) :
    List Condition → List Test × List Json
  | [] => ([], params)
  | c :: rest =>
    let (t, params) := c.bind now scope params
    let (ts, params) := bindAll now scope params rest
    (t :: ts, params)

end Condition

end OfferBook
