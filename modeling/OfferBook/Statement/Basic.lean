import OfferBook.Json.Basic

/-! # Statements

What can be asked of a document, as data:

* `Operand` — a place for a parameter, a literal value, or the present instant.
* `Column`, `Condition`, `Projection`, `Join`, `OrderBy` — the parts of a statement.
* `Insert`, `Select`, `Update`, `Delete` — the four shapes, together a `Statement`.
-/

namespace OfferBook

inductive Operand
  | placeholder
  | literal (value : Json)
  | now
deriving DecidableEq

/-- A column, possibly qualified by a table name or an alias. -/
structure Column where
  qualifier : Option String
  name : String
deriving DecidableEq

namespace Column

def bare (name : String) : Column := ⟨none, name⟩

end Column

inductive Condition
  | isNull (column : Column)
  | isNotNull (column : Column)
  | equals (column : Column) (operand : Operand)
deriving DecidableEq

inductive Projection
  | all
  | allOf (qualifier : String)
  | column (column : Column) (label : Option String)
deriving DecidableEq

/-- A second table, of which each row takes at most one record: the first whose column on its
    side of `left = right` has the row's key. -/
structure Join where
  table : String
  shortName : String
  left : Column
  right : Column
deriving DecidableEq

structure OrderBy where
  column : Column
  descending : Bool
deriving DecidableEq

structure Insert where
  table : String
  columns : List String
  values : List Operand
deriving DecidableEq

structure Select where
  projection : List Projection
  table : String
  shortName : Option String
  join : Option Join
  conditions : List Condition
  orderBy : Option OrderBy
  limit : Option Operand
  offset : Option Operand
deriving DecidableEq

structure Update where
  table : String
  assignments : List (String × Operand)
  conditions : List Condition
deriving DecidableEq

structure Delete where
  table : String
  conditions : List Condition
deriving DecidableEq

inductive Statement
  | insert (insert : Insert)
  | select (select : Select)
  | update (update : Update)
  | delete (delete : Delete)
deriving DecidableEq

namespace Statement

/-- The table that the statement is about. -/
def table : Statement → String
  | .insert s => s.table
  | .select s => s.table
  | .update s => s.table
  | .delete s => s.table

end Statement

end OfferBook
