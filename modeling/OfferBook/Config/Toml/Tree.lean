import OfferBook.Config.Value

/-! # Tables of a settings file while it is read

A table can be begun in several places of a file, but only in some ways. A `Node` remembers for
each table how it was begun.

* `Node.put?` — set a value below a table by a key of one or more parts.
* `Node.open?` — fill the table of a header.
* `Node.fieldsToValues` — the finished tables.
-/

namespace OfferBook.Toml

/-- How a table was begun. -/
inductive Origin
  /-- By a header of its own. -/
  | header
  /-- By the header of a table within it. -/
  | implied
  /-- By the parts of a key before its last one. -/
  | dotted
deriving DecidableEq

inductive Node
  | value (v : ConfigValue)
  | table (origin : Origin) (fields : List (String × Node))
  /-- The tables of a repeated header, of which the last one can still grow. The others are given
      in reverse order. -/
  | tables (earlier : List ConfigValue) (last : List (String × Node))

namespace Node

abbrev Fields := List (String × Node)

mutual

def toValue : Node → ConfigValue
  | .value v => v
  | .table _ fields => .table (fieldsToValues fields)
  | .tables earlier last => .array (earlier.reverse ++ [.table (fieldsToValues last)])

def fieldsToValues : List (String × Node) → List (String × ConfigValue)
  | [] => []
  | (k, n) :: r => (k, n.toValue) :: fieldsToValues r

end

/-- Set the value of a key below a table. No key may be set twice, the parts of a key before its
    last one lead through tables without a header, and a value is put only into a table begun by
    such parts. -/
def put? (fields : Fields) : (path : List String) → ConfigValue → Option Fields
  | [], _ => none
  | [k], v =>
    match Entries.lookup k fields with
    | none => some (Entries.insert k (.value v) fields)
    | some _ => none
  | k :: path, v =>
    match Entries.lookup k fields with
    | none => do some (Entries.insert k (.table .dotted (← put? [] path v)) fields)
    | some (.table .dotted inner) => do
      some (Entries.insert k (.table .dotted (← put? inner path v)) fields)
    | some (.table .implied inner) => do
      if path.length = 1 then none
      else some (Entries.insert k (.table .implied (← put? inner path v)) fields)
    | some (.tables earlier last) => do
      if path.length = 1 then none
      else some (Entries.insert k (.tables earlier (← put? last path v)) fields)
    | some (.table .header _) | some (.value _) => none

def putAll? (fields : Fields) (entries : List (List String × ConfigValue)) : Option Fields :=
  entries.foldlM (fun fields e => put? fields e.1 e.2) fields

/-- Fill the table of a header. A header may name a table that another header has implied, and a
    repeated one adds a table to those of its name; otherwise the name must be new. -/
def open? (repeated : Bool) (entries : List (List String × ConfigValue)) (fields : Fields) :
    (path : List String) → Option Fields
  | [] => none
  | [k] =>
    match Entries.lookup k fields, repeated with
    | none, true => do some (Entries.insert k (.tables [] (← putAll? [] entries)) fields)
    | some (.tables earlier last), true => do
      let earlier := .table (fieldsToValues last) :: earlier
      some (Entries.insert k (.tables earlier (← putAll? [] entries)) fields)
    | none, false => do some (Entries.insert k (.table .header (← putAll? [] entries)) fields)
    | some (.table .implied inner), false => do
      some (Entries.insert k (.table .header (← putAll? inner entries)) fields)
    | _, _ => none
  | k :: path =>
    match Entries.lookup k fields with
    | none => do some (Entries.insert k (.table .implied (← open? repeated entries [] path)) fields)
    | some (.table origin inner) => do
      some (Entries.insert k (.table origin (← open? repeated entries inner path)) fields)
    | some (.tables earlier last) => do
      some (Entries.insert k (.tables earlier (← open? repeated entries last path)) fields)
    | some (.value _) => none

end Node

end OfferBook.Toml
