import OfferBook.Config.Toml.Scalar
import OfferBook.Config.Toml.Tree

/-! # Reading settings files

Files in the notation TOML, version 1.0, without dates and times.

* `Toml.readValue?` — a value, with the lists and tables within it.
* `Toml.readLines?` — the lines of a file: headers of tables, and keys with values.
* `Toml.read?` — the table of a whole text.
-/

namespace OfferBook.Toml

/-! ## Values -/

mutual

/-- One value, its lists and tables nested at most `depth` deep. -/
def readValue? (fuel depth : Nat) (cs : List Char) : Option (ConfigValue × List Char) :=
  match fuel with
  | 0 => none
  | fuel + 1 =>
    match cs, depth with
    | '[' :: _, 0 | '{' :: _, 0 => none
    | '[' :: r, depth + 1 => do
      let (items, r) ← readItems? fuel depth (← skipGaps? false r)
      some (.array items, r)
    | '{' :: r, depth + 1 => do
      let (entries, r) ←
        match skipBlanks r with
        | '}' :: r => some ([], r)
        | r => readEntries? fuel depth r
      some (.table (Node.fieldsToValues (← Node.putAll? [] entries)), r)
    | '"' :: _, _ | '\'' :: _, _ => do
      let (s, r) ← readText? cs
      some (.text (String.ofList s), r)
    | _, _ => (scalar? (cs.takeWhile isScalarChar)).map (·, cs.dropWhile isScalarChar)

/-- The items of a list up to its closing bracket. A comma may follow the last one. -/
def readItems? (fuel depth : Nat) (cs : List Char) : Option (List ConfigValue × List Char) :=
  match fuel with
  | 0 => none
  | fuel + 1 =>
    match cs with
    | ']' :: r => some ([], r)
    | cs => do
      let (v, r) ← readValue? fuel depth cs
      match ← skipGaps? false r with
      | ']' :: r => some ([v], r)
      | ',' :: r =>
        let (vs, r) ← readItems? fuel depth (← skipGaps? false r)
        some (v :: vs, r)
      | _ => none

/-- A key, an equals sign and a value, with the blanks around them. -/
def readEntry? (fuel depth : Nat) (cs : List Char) :
    Option ((List String × ConfigValue) × List Char) :=
  match fuel with
  | 0 => none
  | fuel + 1 => do
    match ← readKey? cs with
    | (key, '=' :: r) =>
      let (v, r) ← readValue? fuel depth (skipBlanks r)
      some ((key, v), skipBlanks r)
    | _ => none

/-- The entries of a table within a line, up to its closing brace. -/
def readEntries? (fuel depth : Nat) (cs : List Char) :
    Option (List (List String × ConfigValue) × List Char) :=
  match fuel with
  | 0 => none
  | fuel + 1 => do
    match ← readEntry? fuel depth cs with
    | (e, '}' :: r) => some ([e], r)
    | (e, ',' :: r) =>
      let (es, r) ← readEntries? fuel depth r
      some (e :: es, r)
    | _ => none

end

/-! ## Lines -/

inductive Line
  | header (repeated : Bool) (path : List String)
  | entry (path : List String) (value : ConfigValue)

/-- A line from its first character on, without its end. -/
def readLine? (cs : List Char) : Option (Line × List Char) :=
  match cs with
  | '[' :: '[' :: r => do
    match ← readKey? r with
    | (path, ']' :: ']' :: r) => some (.header true path, r)
    | _ => none
  | '[' :: r => do
    match ← readKey? r with
    | (path, ']' :: r) => some (.header false path, r)
    | _ => none
  | cs => do
    let ((path, v), r) ← readEntry? (2 * cs.length + 2) maxDepth cs
    some (.entry path v, r)

/-- The lines of a text that begins with one. Each uses a unit of fuel. -/
def readLines? : (fuel : Nat) → List Char → Option (List Line)
  | _, [] => some []
  | 0, _ => none
  | fuel + 1, cs => do
    let (line, r) ← readLine? cs
    return line :: (← readLines? fuel (← endLine? r))

/-! ## Files -/

/-- The entries below a header. -/
structure Section where
  repeated : Bool
  path : List String
  entries : List (List String × ConfigValue)

/-- Lines as the entries before the first header, and the headers with theirs. -/
def sectionsOf : List Line → List (List String × ConfigValue) × List Section
  | [] => ([], [])
  | .entry path v :: r =>
    let (entries, sections) := sectionsOf r
    ((path, v) :: entries, sections)
  | .header repeated path :: r =>
    let (entries, sections) := sectionsOf r
    ([], ⟨repeated, path, entries⟩ :: sections)

/-- The tables of the lines of a file. -/
def assemble? (lines : List Line) : Option Node.Fields := do
  let (entries, sections) := sectionsOf lines
  sections.foldlM (fun fields s => Node.open? s.repeated s.entries fields s.path)
    (← Node.putAll? [] entries)

/-- A text without the mark that tells the order of its bytes. -/
def dropByteOrderMark : List Char → List Char
  | '\ufeff' :: r => r
  | cs => cs

/-- The table of a whole text. -/
def read? (text : String) : Option ConfigValue := do
  let cs := joinReturns (dropByteOrderMark text.toList)
  let lines ← readLines? cs.length (← skipGaps? false cs)
  some (.table (Node.fieldsToValues (← assemble? lines)))

end OfferBook.Toml
