import OfferBook.Instant
import OfferBook.Json.Basic

/-! # Documents

All that is stored: tables of rows, and the counters from which rows get their ids.

* `Document.ensureKnown` — add the known tables and counters that a document lacks.
* `Document.nextId`, `Document.advanceCounter` — the id counters, and the named counters that
  are rows of a table themselves. They are counted without bounds; what is stored has 64 bits.
* `Document.toJson`, `Document.ofJson?` — one object whose fields are the tables and `counters`.
-/

namespace OfferBook

structure Document where
  counters : Dict Int
  tables : Dict (List Record)
deriving DecidableEq

namespace Document

/-- The table of named counters, such as the yearly sequence of offer numbers. -/
def countersTable : String := "counters_table"

/-- Tables that every open document has. -/
def knownTables : List String :=
  ["users", "calculations", "garment_data", "warehousing_data", "offers", "garment_offer_data",
   "warehousing_offer_data", "calculation_logs", countersTable]

def blank : Document := ⟨.empty, .empty⟩

instance : Inhabited Document := ⟨blank⟩

/-- Add a known table, and its id counter unless it is the table of named counters. -/
def ensureTable (doc : Document) (name : String) : Document :=
  { tables := doc.tables.insertIfNew name []
    counters := if name = countersTable then doc.counters else doc.counters.insertIfNew name 0 }

/-- Add the known tables and counters that the document lacks. -/
def ensureKnown (doc : Document) : Document := knownTables.foldl ensureTable doc

/-- A document with the known tables, all empty. -/
def fresh : Document := blank.ensureKnown

/-- The rows of a table; a table that does not exist has none. -/
def table (doc : Document) (name : String) : List Record := (doc.tables.get? name).getD []

def hasTable (doc : Document) (name : String) : Bool := doc.tables.contains name

def setTable (doc : Document) (name : String) (rows : List Record) : Document :=
  { doc with tables := doc.tables.insert name rows }

/-- Add a row at the end of a table. -/
def append (doc : Document) (name : String) (row : Record) : Document :=
  doc.setTable name (doc.table name ++ [row])

/-- Count the table's id counter up. Ids are never given out twice, even after deletions. -/
def nextId (doc : Document) (name : String) : Int × Document :=
  let id := (doc.counters.get? name).getD 0 + 1
  (id, { doc with counters := doc.counters.insert name id })

/-! ## Named counters -/

/-- The value of a counter's row; what is no number counts as zero. -/
def counterValue : Option Json → Int
  | some (.number n) =>
    match n.signed? with
    | some i => i
    | none => clampSigned n.toDouble.truncate
  | _ => 0

def isCounter (key : String) (row : Record) : Bool := row.get? "key" = some (.text key)

/-- Count up the first row with the key; none if there is no such row. -/
def advanceRow (key : String) : List Record → Option (Int × List Record)
  | [] => none
  | row :: rest =>
    if isCounter key row then
      let value := counterValue (row.get? "value") + 1
      some (value, row.insert "value" (.int value) :: rest)
    else (advanceRow key rest).map fun (value, rest) => (value, row :: rest)

/-- The row of a counter that was used once. -/
def counterRow (id : Int) (key : String) (now : Instant) : Record :=
  .ofList [("id", .int id), ("key", .text key), ("value", .int 1),
    ("created_at", .text now.timestamp)]

/-- Count a named counter up; the first use makes its row, with the value one. -/
def advanceCounter (now : Instant) (key : String) (doc : Document) : Int × Document :=
  match advanceRow key (doc.table countersTable) with
  | some (value, rows) => (value, doc.setTable countersTable rows)
  | none =>
    let (id, doc) := doc.nextId countersTable
    (1, doc.append countersTable (counterRow id key now))

/-! ## As one value -/

/-- The field that holds the id counters. -/
def countersField : String := "counters"

def rowsToJson (rows : List Record) : Json := .array (rows.map Json.ofRecord)

def countersToJson (counters : Dict Int) : Json := Json.ofDict .int counters

/-- The counters, and after them the tables by name. -/
def toJson (doc : Document) : Json :=
  .object ((countersField, countersToJson doc.counters) ::
    doc.tables.entries.map fun e => (e.1, rowsToJson e.2))

/-- Rows of a table, each an object. -/
def rowsOfJson? : Json → Option (List Record)
  | .array items => items.mapM Json.record?
  | _ => none

/-- Read the value of an entry and keep its key. -/
def entryOf? (read : Json → Option α) (entry : String × Json) : Option (String × α) :=
  (read entry.2).map (entry.1, ·)

/-- A signed 64-bit integer for each key. -/
def countersOfJson? : Json → Option (Dict Int)
  | .object fields => (fields.mapM (entryOf? Json.signed?)).map Dict.ofList
  | _ => none

/-- The counters among the fields; none are needed, but the field may not be repeated. -/
def countersOfFields? (fields : List (String × Json)) : Option (Dict Int) :=
  match fields.filter (·.1 = countersField) with
  | [] => some .empty
  | [(_, v)] => countersOfJson? v
  | _ => none

def tablesOfFields? (fields : List (String × Json)) : Option (Dict (List Record)) :=
  ((fields.filter (·.1 ≠ countersField)).mapM (entryOf? rowsOfJson?)).map Dict.ofList

/-- Read a document; of tables with one name the last counts. Values within the rows may have
    their fields in any order. -/
def ofJson? : Json → Option Document
  | .object fields => do
    let counters ← countersOfFields? fields
    let tables ← tablesOfFields? (fields.map fun e => (e.1, e.2.sorted))
    some ⟨counters, tables⟩
  | _ => none

end Document

end OfferBook
