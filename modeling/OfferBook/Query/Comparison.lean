import OfferBook.Json.Basic
import OfferBook.Number.Reading
import OfferBook.Text.Blank

/-! # How values compare

* `Json.same` — equality of values in which the two zeros are one, but integers and doubles are
  told apart.
* `Json.matchesValue` — equality in conditions: numbers equal numeric texts and truth values,
  and a missing field equals null.
* `Json.sameKey` — equality of keys in joins: only the two kinds of numbers are mixed.
* `Json.compareValues` — the order of rows: null first, then numbers and truth values, then
  texts, then lists and objects.
* `Json.count?` — a value as a number of rows.
-/

namespace OfferBook

namespace Number

/-- Equality of values. Two integers of 64 bits are compared exactly, all else as doubles. -/
def same (a b : Number) : Bool :=
  match a.signed?, b.signed? with
  | some x, some y => x = y
  | _, _ => Double.same a.toDouble b.toDouble

end Number

namespace Json

mutual

/-- Equality of values; that of objects goes by their fields in order. -/
def same : (a b : Json) → Bool
  | .null, .null => true
  | .bool a, .bool b => a = b
  | .number (.int a), .number (.int b) => a = b
  | .number (.double a), .number (.double b) => Double.same a b
  | .text a, .text b => a = b
  | .array a, .array b => sameItems a b
  | .object a, .object b => sameFields a b
  | _, _ => false

def sameItems : (a b : List Json) → Bool
  | [], [] => true
  | a :: r, b :: s => same a b && sameItems r s
  | _, _ => false

def sameFields : (a b : List (String × Json)) → Bool
  | [], [] => true
  | (k, a) :: r, (l, b) :: s => k = l && same a b && sameFields r s
  | _, _ => false

end

/-- Whether a text is a number of the same value. -/
def textIsNumber (s : String) (n : Number) : Bool :=
  match Double.parse? (Text.trim s) with
  | some d => Double.same d n.toDouble
  | none => false

/-- Equality of a field, which may be missing, with an expected value. -/
def matchesValue (field : Option Json) (expected : Json) : Bool :=
  match field.getD .null, expected with
  | .bool b, .number n | .number n, .bool b => Double.same n.toDouble (Double.ofBool b)
  | .number a, .number b => a.same b
  | .number n, .text s | .text s, .number n => textIsNumber s n
  | a, b => same a b

/-- Equality of keys; a null or missing key equals none. -/
def sameKey : Option Json → Option Json → Bool
  | some (.number a), some (.number b) => a.same b
  | some .null, _ | _, some .null | none, _ | _, none => false
  | some a, some b => same a b

/-- Whether a field is missing or null. -/
def isMissing (field : Option Json) : Bool := (field.getD .null).isNull

/-- Kinds of values in their order. -/
def rank : Option Json → Nat
  | none | some .null => 0
  | some (.bool _) | some (.number _) => 1
  | some (.text _) => 2
  | some (.array _) | some (.object _) => 3

/-- The number that a number or a truth value is in the order. -/
def numeric? : Json → Option Double
  | .number n => some n.toDouble
  | .bool b => some (Double.ofBool b)
  | _ => none

/-- The order of two fields. -/
def compareValues (a b : Option Json) : Ordering :=
  match a, b with
  | some (.text x), some (.text y) => Ord.compare x y
  | some x, some y =>
    match numeric? x, numeric? y with
    | some x, some y => Double.compare x y
    | _, _ => Ord.compare (rank a) (rank b)
  | _, _ => Ord.compare (rank a) (rank b)

/-- A number of rows: a number that is not negative, cut to an integer, or such a text. -/
def count? : Json → Option Nat
  | .number n =>
    match n.unsigned? with
    | some k => some k
    | none =>
      let d := n.toDouble
      if d.isNonneg then some (min (longLimit - 1) d.truncate.toNat) else none
  | .text s => parseUnsigned? longLimit (Text.trimChars s.toList)
  | _ => none

end Json

end OfferBook
