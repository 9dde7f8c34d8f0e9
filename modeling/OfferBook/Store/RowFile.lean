import OfferBook.Json.Printer
import OfferBook.Json.Reader
import OfferBook.Store.Medium

/-! # Documents kept as named rows

A row for each table, holding its records as a list, and one for the id counters. Names are
unique, so a table with the counters' name cannot be kept. A save replaces all rows or none.

* `RowFile.encode`, `RowFile.decode?` — a document as rows, and back.
* `RowFile.text`, `RowFile.ofText?` — the rows as the text of one file, and back.
-/

namespace OfferBook

/-- Bodies by row name. -/
structure RowFile where
  rows : Dict String
deriving DecidableEq

namespace RowFile

/-- No rows. -/
def blank : RowFile := ⟨.empty⟩

/-- The row of the id counters. -/
def countersRow : String := "counters"

/-- The rows of the tables. -/
def tableRows (tables : Dict (List Record)) : List (String × String) :=
  tables.entries.map fun e => (e.1, (Document.rowsToJson e.2).compact)

def encode (doc : Document) : Dict String :=
  .ofList ((countersRow, (Document.countersToJson doc.counters).compact) :: tableRows doc.tables)

def readBody? (body : String) : Option Json := Json.readTree? Json.maxDepth body.toList

def decodeCounters? (body : String) : Option (Dict Int) :=
  (readBody? body).bind Document.countersOfJson?

def decodeTable? (body : String) : Option (List Record) :=
  (readBody? body).bind fun v => Document.rowsOfJson? v.sorted

/-- Take one row into a document. -/
def decodeRow? (doc : Document) (name body : String) : Option Document :=
  if name = countersRow then (decodeCounters? body).map fun c => { doc with counters := c }
  else (decodeTable? body).map (doc.setTable name)

def decode? (rows : Dict String) : Option Document :=
  rows.entries.foldlM (fun doc e => decodeRow? doc e.1 e.2) Document.blank

def load (f : RowFile) : Except StorageError (Option Document) :=
  if f.rows.entries.isEmpty then .ok none
  else match decode? f.rows with
    | some doc => .ok (some doc)
    | none => .error .unreadable

def save (doc : Document) (f : RowFile) : Except StorageError Unit × RowFile :=
  if doc.hasTable countersRow then (.error .nameTaken, f) else (.ok (), ⟨encode doc⟩)

instance : Medium RowFile where
  load := load
  save := save

/-! ## Files -/

/-- The line that tells a file of rows from any other. -/
def mark : String := "named rows\n"

/-- The rows as the text of a file. -/
def text (f : RowFile) : String := mark ++ (Json.ofDict .text f.rows).compact

/-- The rows of the text of a file. A new file is empty, and holds none. -/
def ofText? (text : String) : Option RowFile :=
  if text.isEmpty then some blank
  else if text.startsWith mark then
    match readBody? (String.ofList (text.toList.drop mark.length)) with
    | some (.object fields) => do
      some ⟨.ofList (← fields.mapM fun e => e.2.text?.map (e.1, ·))⟩
    | _ => none
  else none

end RowFile

end OfferBook
