import OfferBook.Number.Double
import OfferBook.Number.Word

/-! # Reading numbers from text

* `Decimal.ofChars?` — an optional sign, digits with at most one point and at least one digit,
  and an optional exponent.
* `Double.ofDecimal?` — the number nearest to a decimal; none beyond the largest.
* `Double.parse?` — both together; the words for infinity and for "not a number" are no
  finite numbers and read as none.
* `parseSigned?`, `parseUnsigned?` — digits within bounds, the former with an optional sign.
-/

namespace OfferBook

/-- The decimal `± digits · 10 ^ exponent`. -/
structure Decimal where
  negative : Bool
  digits : Nat
  exponent : Int
deriving DecidableEq

def isAsciiDigit (c : Char) : Bool := '0' ≤ c && c ≤ '9'

/-- Value of an ASCII digit. -/
def digitValue (c : Char) : Nat := c.toNat - '0'.toNat

/-- Value of a hexadecimal digit. -/
def hexDigit? (c : Char) : Option Nat :=
  if isAsciiDigit c then some (digitValue c)
  else if 'a' ≤ c ∧ c ≤ 'f' then some (c.toNat - 'a'.toNat + 10)
  else if 'A' ≤ c ∧ c ≤ 'F' then some (c.toNat - 'A'.toNat + 10)
  else none

/-- The natural written by a list of ASCII digits. -/
def natOfDigits (cs : List Char) : Nat := cs.foldl (fun n c => 10 * n + digitValue c) 0

/-- Split off a leading sign; true stands for minus. -/
def splitSign : List Char → Bool × List Char
  | '-' :: r => (true, r)
  | '+' :: r => (false, r)
  | cs => (false, cs)

/-- Digits up to the first character of another kind, and the rest. -/
def spanDigits (cs : List Char) : List Char × List Char :=
  (cs.takeWhile isAsciiDigit, cs.dropWhile isAsciiDigit)

/-- The exponent after the mantissa: nothing, or `e` with an optional sign and digits. -/
def exponent? : List Char → Option Int
  | [] => some 0
  | c :: r =>
    if c = 'e' ∨ c = 'E' then
      let (negative, ds) := splitSign r
      if ds ≠ [] ∧ ds.all isAsciiDigit then
        some (if negative then -(natOfDigits ds : Int) else natOfDigits ds)
      else none
    else none

namespace Decimal

/-- The fraction after the integer digits, with what follows it. -/
def splitFraction : List Char → List Char × List Char
  | '.' :: r => spanDigits r
  | cs => ([], cs)

def ofChars? (cs : List Char) : Option Decimal :=
  let (negative, r) := splitSign cs
  let (whole, r) := spanDigits r
  let (fraction, r) := splitFraction r
  if whole = [] ∧ fraction = [] then none
  else do
    let e ← exponent? r
    some ⟨negative, natOfDigits (whole ++ fraction), e - fraction.length⟩

end Decimal

namespace Double

/-- The magnitude nearest to `digits · 10 ^ exponent`. Exponents that decide the answer alone
    are told apart first, so that no power of ten larger than needed is computed. -/
def ofScaled? (digits : Nat) (exponent : Int) : Option Double :=
  let size := ((Nat.toDigits 10 digits).length : Int) + exponent
  if digits = 0 ∨ size < -330 then some zero
  else if 310 < size then none
  else match exponent with
    | .ofNat e => ofRatio? (digits * Nat.pow 10 e) 1
    | .negSucc e => ofRatio? digits (Nat.pow 10 (e + 1))

def ofDecimal? (d : Decimal) : Option Double :=
  (ofScaled? d.digits d.exponent).map (·.withSign d.negative)

/-- The finite number written by a text. -/
def parseChars? (cs : List Char) : Option Double := (Decimal.ofChars? cs).bind ofDecimal?

def parse? (s : String) : Option Double := parseChars? s.toList

end Double

/-- The integer written by an optional sign and at least one digit. -/
def intOfChars? (cs : List Char) : Option Int :=
  let (negative, ds) := splitSign cs
  if ds ≠ [] ∧ ds.all isAsciiDigit then
    some (if negative then -(natOfDigits ds : Int) else natOfDigits ds)
  else none

/-- A signed 64-bit integer. -/
def parseSigned? (cs : List Char) : Option Int := (intOfChars? cs).filter fitsSigned

/-- An unsigned integer below `bound`; a minus sign is refused also before zero. -/
def parseUnsigned? (bound : Nat) : List Char → Option Nat
  | '-' :: _ => none
  | cs => ((intOfChars? cs).map Int.toNat).filter (· < bound)

end OfferBook
