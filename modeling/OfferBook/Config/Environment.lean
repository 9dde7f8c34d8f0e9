import OfferBook.Config.Escaped
import OfferBook.Config.Value
import OfferBook.Text.Blank

/-! # Values of environment variables

The environment holds plain texts. What looks like a truth value, a number, a quoted text, a list
or a table is taken for one; a text that does not look like it from end to end is taken as it
stands.

* `Variable.value` — the value of a text.
* `Variable.read?` — the value that a text spells, if it spells one.
-/

namespace OfferBook.Variable

/-- White space between values: ASCII blanks, line and page ends. -/
def isSpace (c : Char) : Bool :=
  c == ' ' || c == '\t' || c == '\n' || c == '\x0c' || c == '\r'

def skipSpace (cs : List Char) : List Char := cs.dropWhile isSpace

/-- Characters that end a plain text. -/
def isDelimiter (c : Char) : Bool := ['{', '}', '[', ']', ','].contains c

def isKeyChar (c : Char) : Bool := c.isAlphanum || c == '_' || c == '-'

/-- The double of a text with a point; none where the text is no number. -/
def double? (cs : List Char) : Option ConfigValue :=
  if cs.contains '.' then
    (Decimal.ofChars? cs).map fun d => ((Double.ofDecimal? d).map .double).getD .nonFinite
  else none

/-- A number, or else the text itself. -/
def plain (cs : List Char) : ConfigValue :=
  match double? cs with
  | some v => v
  | none =>
    match parseUnsigned? longLimit cs with
    | some n => .integer n
    | none =>
      match parseSigned? cs with
      | some n => .integer n
      | none => .text (String.ofList cs)

/-- A text after its opening quote. -/
def readQuoted? (cs : List Char) : Option (String × List Char) := do
  let (raw, r) ← Escaped.split? cs
  some (String.ofList (← Escaped.decode? Escaped.isPlain raw), r)

/-- A key and the equals sign after it, with white space between. -/
def readKey? (cs : List Char) : Option (String × List Char) := do
  let (key, r) ←
    match skipSpace cs with
    | '"' :: r => readQuoted? r
    | cs =>
      if cs.takeWhile isKeyChar = [] then none
      else some (String.ofList (cs.takeWhile isKeyChar), cs.dropWhile isKeyChar)
  match skipSpace r with
  | '=' :: r => some (key, r)
  | _ => none

mutual

/-- One value, with white space around it. -/
def readValue? (fuel : Nat) (cs : List Char) : Option (ConfigValue × List Char) :=
  match fuel with
  | 0 => none
  | fuel + 1 => do
    let (v, r) ← readBare? fuel (skipSpace cs)
    some (v, skipSpace r)

/-- One value from its first character on. -/
def readBare? (fuel : Nat) (cs : List Char) : Option (ConfigValue × List Char) :=
  match fuel with
  | 0 => none
  | fuel + 1 =>
    match cs with
    | 't' :: 'r' :: 'u' :: 'e' :: r => some (.bool true, r)
    | 'f' :: 'a' :: 'l' :: 's' :: 'e' :: r => some (.bool false, r)
    | '{' :: r => do
      let (fields, r) ← readFields? fuel r
      some (.table (Entries.ofList fields), r)
    | '[' :: r => do
      let (items, r) ← readItems? fuel r
      some (.array items, r)
    | '"' :: r => do
      let (s, r) ← readQuoted? r
      some (.text s, r)
    | '\'' :: c :: '\'' :: r => some (.text (String.singleton c), r)
    | '\'' :: _ => none
    | cs => some (plain (Text.trimChars (cs.takeWhile (!isDelimiter ·))),
        cs.dropWhile (!isDelimiter ·))

/-- The items of a list up to its closing bracket. A comma may follow the last one. -/
def readItems? (fuel : Nat) (cs : List Char) : Option (List ConfigValue × List Char) :=
  match fuel with
  | 0 => none
  | fuel + 1 =>
    match cs with
    | ']' :: r => some ([], r)
    | cs => do
      match ← readValue? fuel cs with
      | (v, ']' :: r) => some ([v], r)
      | (v, ',' :: r) =>
        let (vs, r) ← readItems? fuel r
        some (v :: vs, r)
      | _ => none

/-- The fields of a table up to its closing brace. A comma may follow the last one. -/
def readFields? (fuel : Nat) (cs : List Char) :
    Option (List (String × ConfigValue) × List Char) :=
  match fuel with
  | 0 => none
  | fuel + 1 =>
    match cs with
    | '}' :: r => some ([], r)
    | cs => do
      let (key, r) ← readKey? cs
      match ← readValue? fuel r with
      | (v, '}' :: r) => some ([(key, v)], r)
      | (v, ',' :: r) =>
        let (es, r) ← readFields? fuel r
        some ((key, v) :: es, r)
      | _ => none

end

/-- The value that a whole text spells. -/
def read? (text : String) : Option ConfigValue :=
  match readValue? (3 * text.length + 2) text.toList with
  | some (v, []) => some v
  | _ => none

/-- The value of a variable. -/
def value (text : String) : ConfigValue := (read? text).getD (.text text)

end OfferBook.Variable
