import OfferBook.Dict
import OfferBook.Number.Double
import OfferBook.Number.Word

/-! # Free-form values

* `Number` — an integer or a double. The two are different values even where they denote one
  number; `Number.toDouble` is the reading that comparisons use.
* `Json` — null, truth values, numbers, texts, lists and objects. An object is a list of fields;
  `Json.sorted` brings the fields of all objects into key order, the last of equal keys counting.
* `Record` — a row of a table: a dictionary from field names to values.
-/

namespace OfferBook

inductive Number
  | int (n : Int)
  | double (d : Double)
deriving DecidableEq

namespace Number

def toDouble : Number → Double
  | .int n => Double.ofInt n
  | .double d => d

/-- The integer of a number that is one and has a signed 64-bit form. -/
def signed? : Number → Option Int
  | .int n => if fitsSigned n then some n else none
  | .double _ => none

/-- The integer of a number that is one and is not negative. -/
def unsigned? : Number → Option Nat
  | .int n => if 0 ≤ n then some n.toNat else none
  | .double _ => none

end Number

inductive Json
  | null
  | bool (b : Bool)
  | number (n : Number)
  | text (s : String)
  | array (items : List Json)
  | object (fields : List (String × Json))

namespace Json

instance : Inhabited Json := ⟨.null⟩

mutual

def decEq : (a b : Json) → Decidable (a = b)
  | .null, .null => isTrue rfl
  | .bool a, .bool b => decidable_of_iff (a = b) (by simp)
  | .number a, .number b => decidable_of_iff (a = b) (by simp)
  | .text a, .text b => decidable_of_iff (a = b) (by simp)
  | .array a, .array b => let _ := decEqItems a b; decidable_of_iff (a = b) (by simp)
  | .object a, .object b => let _ := decEqFields a b; decidable_of_iff (a = b) (by simp)
  | .null, .bool _ | .null, .number _ | .null, .text _ | .null, .array _ | .null, .object _
  | .bool _, .null | .bool _, .number _ | .bool _, .text _ | .bool _, .array _
  | .bool _, .object _ | .number _, .null | .number _, .bool _ | .number _, .text _
  | .number _, .array _ | .number _, .object _ | .text _, .null | .text _, .bool _
  | .text _, .number _ | .text _, .array _ | .text _, .object _ | .array _, .null
  | .array _, .bool _ | .array _, .number _ | .array _, .text _ | .array _, .object _
  | .object _, .null | .object _, .bool _ | .object _, .number _ | .object _, .text _
  | .object _, .array _ => isFalse (by simp)

def decEqItems : (a b : List Json) → Decidable (a = b)
  | [], [] => isTrue rfl
  | a :: r, b :: s =>
    let _ := decEq a b
    let _ := decEqItems r s
    decidable_of_iff (a = b ∧ r = s) (by simp)
  | [], _ :: _ | _ :: _, [] => isFalse (by simp)

def decEqFields : (a b : List (String × Json)) → Decidable (a = b)
  | [], [] => isTrue rfl
  | (k, a) :: r, (l, b) :: s =>
    let _ := decEq a b
    let _ := decEqFields r s
    decidable_of_iff (k = l ∧ a = b ∧ r = s) (by simp [and_assoc])
  | [], _ :: _ | _ :: _, [] => isFalse (by simp)

end

instance : DecidableEq Json := decEq

def int (n : Int) : Json := .number (.int n)

def double (d : Double) : Json := .number (.double d)

def ofOption (f : α → Json) : Option α → Json
  | none => .null
  | some a => f a

def isNull : Json → Bool
  | .null => true
  | _ => false

def text? : Json → Option String
  | .text s => some s
  | _ => none

def signed? : Json → Option Int
  | .number n => n.signed?
  | _ => none

/-- A field of an object; a value of another kind has none. -/
def field? (key : String) : Json → Option Json
  | .object fields => Entries.lookup key fields
  | _ => none

mutual

/-- Bring the fields of all objects within a value into key order. -/
def sorted : Json → Json
  | .array items => .array (sortedItems items)
  | .object fields => .object (Entries.ofList (sortedFields fields))
  | v => v

def sortedItems : List Json → List Json
  | [] => []
  | v :: r => v.sorted :: sortedItems r

def sortedFields : List (String × Json) → List (String × Json)
  | [] => []
  | (k, v) :: r => (k, v.sorted) :: sortedFields r

end

/-- An object with its fields in key order. -/
def ofFields (fields : List (String × Json)) : Json := .object (Entries.ofList fields)

/-- A dictionary as an object. -/
def ofDict (f : α → Json) (d : Dict α) : Json := .object (d.entries.map fun e => (e.1, f e.2))

end Json

/-- A row of a table. -/
abbrev Record := Dict Json

namespace Json

def ofRecord (r : Record) : Json := .object r.entries

/-- The row made of an object's fields. -/
def record? : Json → Option Record
  | .object fields => some (Dict.ofList fields)
  | _ => none

end Json

end OfferBook
