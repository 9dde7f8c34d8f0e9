import OfferBook.Json.Printer
import OfferBook.Json.Shape
import OfferBook.Number.German
import OfferBook.Text.Blank

/-! # Reading typed values

* `Fields.ofJson?` — the fields of a typed record, given by name or as a list in the record's
  order. Unknown fields do not count, and a known one may not be given twice.
* `Fields.required`, `Fields.orDefault` — one field of them.
* `Strict` — values that must have their type.
* `Lenient` — the forms of values that older files hold: flags as numbers, ids as numbers or
  texts, free-form values as text.
* `readText?` — a typed value given as text.
-/

namespace OfferBook

/-- The given fields of a record. -/
abbrev Fields := List (String × Json)

namespace Fields

/-- Whether no known field is given twice. -/
def distinct (names : List String) (fields : Fields) : Bool :=
  names.all fun n => fields.countP (·.1 = n) ≤ 1

/-- Fields given by name. -/
def ofObject? (names : List String) : Json → Option Fields
  | .object fields => if distinct names fields then some fields else none
  | _ => none

/-- Fields given by name, or as a list in the order of the names. -/
def ofJson? (names : List String) : Json → Option Fields
  | .array items => if items.length ≤ names.length then some (names.zip items) else none
  | v => ofObject? names v

/-- A field that must be given. -/
def required (name : String) (read : Json → Option α) (fields : Fields) : Option α :=
  (Entries.lookup name fields).bind read

/-- A field that may be left out. -/
def orDefault (default : α) (name : String) (read : Json → Option α) (fields : Fields) :
    Option α :=
  match Entries.lookup name fields with
  | some v => read v
  | none => some default

/-- A field that may be left out or null. -/
def optional (name : String) (read : Json → Option α) (fields : Fields) : Option (Option α) :=
  orDefault none name
    (fun v => if v.isNull then some none else (read v).map some) fields

end Fields

/-! ## Values of one type -/

namespace Strict

def text? : Json → Option String := Json.text?

def integer? : Json → Option Int := Json.signed?

def list? (read : Json → Option α) : Json → Option (List α)
  | .array items => items.mapM read
  | _ => none

def anything? (v : Json) : Option Json := some v.sorted

/-- One of several names: the name itself, or an object with null under the name. -/
def oneOf? (names : List (String × α)) : Json → Option α
  | .text s => Entries.lookup s names
  | .object [(s, .null)] => Entries.lookup s names
  | _ => none

end Strict

/-! ## Values of several forms -/

namespace Lenient

/-- True, a number other than zero, or the text `1` or `true`. -/
def flag : Json → Bool
  | .bool b => b
  | .number n => !Double.same n.toDouble .zero
  | .text s => s == "1" || Text.equalsIgnoringCase s "true"
  | _ => false

/-- The text of a value; null has none. -/
def text : Json → Option String
  | .null => none
  | .text s => some s
  | v => some v.sorted.compact

/-- A double cut to a signed 64-bit integer. -/
def truncate (d : Double) : Int := clampSigned d.truncate

/-- The number of a version; one where there is none. -/
def version : Json → Int
  | .number n => (n.signed?).getD (truncate n.toDouble)
  | .text s => (parseSigned? (Text.trimChars s.toList)).getD 1
  | _ => 1

/-- A number, or a text in German notation. -/
def number : Json → Option Double
  | .number n => some n.toDouble
  | .text s => German.parse? s
  | _ => none

/-- A value kept as text: what the text reads as, or the text itself where it is no value. -/
def embedded : Json → Option Json
  | .null => none
  | .text s => some ((Json.read? s).getD (.text s))
  | v => some v.sorted

end Lenient

/-- Read a field whose every value is read. -/
def always (f : Json → α) (v : Json) : Option α := some (f v)

/-- Read null as the default. -/
def nullAs (default : α) (read : Json → Option α) (v : Json) : Option α :=
  if v.isNull then some default else read v

/-- Read a value from a text of a certain shape. -/
def readText? (shape : Shape) (read : Json → Option α) (text : String) : Option α :=
  (shape.read? text).bind read

end OfferBook
