import OfferBook.Statement.Basic

/-! # Composed statements

* `Condition.is`, `Select.matching` and the like — statements made from values at hand.
* `Insert.ofColumns`, `Insert.compose` — an insertion with one placeholder for each column, and
  its text.
-/

namespace OfferBook

namespace Condition

/-- A column has a value. -/
def is (column : String) (value : Json) : Condition := .equals (.bare column) (.literal value)

def missing (column : String) : Condition := .isNull (.bare column)

end Condition

namespace Select

/-- All rows of a table that meet some conditions. -/
def matching (table : String) (conditions : List Condition) : Select where
  projection := [.all]
  table := table
  shortName := none
  join := none
  conditions := conditions
  orderBy := none
  limit := none
  offset := none

def ordered (s : Select) (column : Column) (descending : Bool) : Select :=
  { s with orderBy := some ⟨column, descending⟩ }

/-- The same selection with the columns that are asked for. -/
def only (s : Select) (columns : List String) : Select :=
  { s with projection := columns.map fun c => .column (.bare c) none }

end Select

namespace Insert

/-- The insertion of a row with these fields. -/
def ofFields (table : String) (fields : List (String × Operand)) : Insert :=
  ⟨table, fields.map Prod.fst, fields.map Prod.snd⟩

/-- The insertion of a row with these values. -/
def ofValues (table : String) (columns : List String) (values : List Json) : Insert :=
  ⟨table, columns, values.map .literal⟩

/-- The insertion into these columns with one placeholder for each. -/
def ofColumns (table : String) (columns : List String) : Insert :=
  ⟨table, columns, columns.map fun _ => .placeholder⟩

/-- The text of `ofColumns`. -/
def compose (table : String) (columns : List String) : String :=
  "insert into " ++ table ++ " (" ++ ", ".intercalate columns ++ ") values ("
    ++ ", ".intercalate (columns.map fun _ => "?") ++ ")"

end Insert

end OfferBook
