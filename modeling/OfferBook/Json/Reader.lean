import OfferBook.Json.Basic
import OfferBook.Number.Reading

/-! # Reading values from text

Strict: one value, white space around it, nothing else. Lists and objects may be nested up to a
given depth.

* `Double.ofJsonParts?` — the value of a number with a point or an exponent: the leading digits
  that fit 64 bits, scaled by a power of ten in one rounded step.
* `Json.readTree?` — the value as written, objects with their fields in text order and possibly
  repeated.
* `Json.read?` — the value with all objects in key order.
-/

namespace OfferBook

/-! ## Numbers -/

namespace Double

/-- The power of ten nearest to `10 ^ e`. -/
def powerOfTen (e : Nat) : Double := (ofRatio? (Nat.pow 10 e) 1).getD largest

/-- Divide by `1e308` until the exponent is in the range of the powers of ten. -/
def scaleByTen? : (fuel : Nat) → Double → Int → Option Double
  | fuel, d, e =>
    if e.natAbs ≤ 308 then
      if 0 ≤ e then d.mul? (powerOfTen e.natAbs) else d.div? (powerOfTen e.natAbs)
    else if d.isZero then some d
    else if 0 ≤ e then none
    else match fuel with
      | 0 => some zero
      | fuel + 1 => do scaleByTen? fuel (← d.div? (powerOfTen 308)) (e + 308)

/-- `significand · 10 ^ exponent`, by one multiplication or division where the exponent is in
    the range of the format; none beyond the largest number. The fuel covers every exponent at
    which the quotient is not yet zero. -/
def ofJsonParts? (significand : Nat) (exponent : Int) : Option Double :=
  scaleByTen? 4 (ofInt significand) exponent

end Double

/-- Take decimal digits as long as the number they form stays below `longLimit`, starting from
    `acc`. Returns the number, how many digits it took, and the rest. -/
def takeSignificand (acc : Nat) : List Char → Nat × Nat × List Char
  | [] => (acc, 0, [])
  | c :: r =>
    if isAsciiDigit c ∧ 10 * acc + digitValue c < longLimit then
      let (n, count, rest) := takeSignificand (10 * acc + digitValue c) r
      (n, count + 1, rest)
    else (acc, 0, c :: r)

namespace Json

/-- An exponent of more than 31 bits: zero, unless the value would be beyond all bounds. -/
def hugeExponent? (significand : Nat) (negative : Bool) : Option Double :=
  if significand ≠ 0 ∧ ¬ negative then none else some Double.zero

/-- The exponent after its letter. -/
def readExponent? (significand : Nat) (start : Int) (cs : List Char) :
    Option (Double × List Char) :=
  let (negative, r) := splitSign cs
  let (ds, rest) := spanDigits r
  if ds = [] then none
  else
    let e := natOfDigits ds
    if e < 2147483648 then
      (Double.ofJsonParts? significand (if negative then start - e else start + e)).map (·, rest)
    else (hugeExponent? significand negative).map (·, rest)

/-- What follows the digits of the significand: an exponent or nothing. -/
def readScale? (significand : Nat) (start : Int) : List Char → Option (Double × List Char)
  | 'e' :: r | 'E' :: r => readExponent? significand start r
  | cs => (Double.ofJsonParts? significand start).map (·, cs)

/-- The digits after the point, of which at least one must be there. -/
def readFraction? (significand : Nat) (start : Int) (cs : List Char) :
    Option (Double × List Char) :=
  if (spanDigits cs).1 = [] then none
  else
    let (n, count, r) := takeSignificand significand cs
    readScale? n (start - count) (spanDigits r).2

/-- A number without its sign, from its first digit on. -/
def readMagnitude? (negative : Bool) (cs : List Char) : Option (Number × List Char) :=
  let sign (r : Double × List Char) : Number × List Char :=
    (.double (r.1.withSign negative), r.2)
  let leadingZero : Bool := match cs with
    | '0' :: c :: _ => isAsciiDigit c
    | _ => false
  let (n, count, r) := takeSignificand 0 cs
  let (dropped, r) := spanDigits r
  if count = 0 ∨ leadingZero then none
  else match r with
    | '.' :: r => (readFraction? n dropped.length r).map sign
    | 'e' :: r | 'E' :: r => (readExponent? n dropped.length r).map sign
    | r =>
      if dropped ≠ [] then (readScale? n dropped.length r).map sign
      else if ¬ negative then some (.int n, r)
      else if n = 0 ∨ 9223372036854775808 < n then
        some (.double ((Double.ofInt n).withSign true), r)
      else some (.int (-(n : Int)), r)

def readNumber? : List Char → Option (Number × List Char)
  | '-' :: r => readMagnitude? true r
  | cs => readMagnitude? false cs

/-! ## Texts -/

/-- Four hexadecimal digits. -/
def readHex? : List Char → Option (Nat × List Char)
  | a :: b :: c :: d :: r => do
    let n := 4096 * (← hexDigit? a) + 256 * (← hexDigit? b) + 16 * (← hexDigit? c)
      + (← hexDigit? d)
    some (n, r)
  | _ => none

/-- The character of a code unit, or of a pair of surrogates; a surrogate without its partner
    is refused. -/
def readUnit? (cs : List Char) : Option (Char × List Char) := do
  let (high, r) ← readHex? cs
  if 0xD800 ≤ high ∧ high < 0xDC00 then
    match r with
    | '\\' :: 'u' :: r =>
      let (low, r) ← readHex? r
      if 0xDC00 ≤ low ∧ low < 0xE000 then
        some (Char.ofNat (0x10000 + (high - 0xD800) * 0x400 + (low - 0xDC00)), r)
      else none
    | _ => none
  else if 0xDC00 ≤ high ∧ high < 0xE000 then none
  else some (Char.ofNat high, r)

/-- The character that a backslash and the next character stand for. -/
def escaped? (c : Char) : Option Char :=
  if c = '"' ∨ c = '\\' ∨ c = '/' then some c
  else if c = 'n' then some '\n'
  else if c = 'r' then some '\r'
  else if c = 't' then some '\t'
  else if c = 'b' then some '\x08'
  else if c = 'f' then some '\x0c'
  else none

/-- The characters up to the closing quote. -/
def readQuoted? : (fuel : Nat) → List Char → Option (List Char × List Char)
  | 0, _ => none
  | _ + 1, [] => none
  | _ + 1, '"' :: r => some ([], r)
  | fuel + 1, '\\' :: 'u' :: r => do
    let (c, r) ← readUnit? r
    let (s, r) ← readQuoted? fuel r
    some (c :: s, r)
  | fuel + 1, '\\' :: c :: r => do
    let c ← escaped? c
    let (s, r) ← readQuoted? fuel r
    some (c :: s, r)
  | fuel + 1, c :: r => do
    if c.toNat < 0x20 ∨ c = '\\' then none
    else
      let (s, r) ← readQuoted? fuel r
      some (c :: s, r)

/-! ## Values -/

def isSpace (c : Char) : Bool := c = ' ' || c = '\n' || c = '\t' || c = '\r'

def skipSpace (cs : List Char) : List Char := cs.dropWhile isSpace

mutual

/-- One value after white space, its lists and objects nested at most `depth` deep. -/
def readValue? (fuel depth : Nat) (cs : List Char) : Option (Json × List Char) :=
  match fuel with
  | 0 => none
  | fuel + 1 =>
    match skipSpace cs with
    | 'n' :: 'u' :: 'l' :: 'l' :: r => some (.null, r)
    | 't' :: 'r' :: 'u' :: 'e' :: r => some (.bool true, r)
    | 'f' :: 'a' :: 'l' :: 's' :: 'e' :: r => some (.bool false, r)
    | '"' :: r => do
      let (s, r) ← readQuoted? (r.length + 1) r
      some (.text (String.ofList s), r)
    | '[' :: r =>
      match depth with
      | 0 => none
      | depth + 1 =>
        match skipSpace r with
        | ']' :: r => some (.array [], r)
        | r => do
          let (v, r) ← readValue? fuel depth r
          let (vs, r) ← readItems? fuel depth r
          some (.array (v :: vs), r)
    | '{' :: r =>
      match depth with
      | 0 => none
      | depth + 1 =>
        match skipSpace r with
        | '}' :: r => some (.object [], r)
        | r => do
          let (e, r) ← readField? fuel depth r
          let (es, r) ← readFields? fuel depth r
          some (.object (e :: es), r)
    | r => do
      let (n, r) ← readNumber? r
      some (.number n, r)

/-- The items after the first one, up to the closing bracket. -/
def readItems? (fuel depth : Nat) (cs : List Char) : Option (List Json × List Char) :=
  match fuel with
  | 0 => none
  | fuel + 1 =>
    match skipSpace cs with
    | ']' :: r => some ([], r)
    | ',' :: r => do
      let (v, r) ← readValue? fuel depth r
      let (vs, r) ← readItems? fuel depth r
      some (v :: vs, r)
    | _ => none

/-- A key, a colon and a value. -/
def readField? (fuel depth : Nat) (cs : List Char) : Option ((String × Json) × List Char) :=
  match fuel with
  | 0 => none
  | fuel + 1 =>
    match skipSpace cs with
    | '"' :: r => do
      let (k, r) ← readQuoted? (r.length + 1) r
      match skipSpace r with
      | ':' :: r =>
        let (v, r) ← readValue? fuel depth r
        some ((String.ofList k, v), r)
      | _ => none
    | _ => none

/-- The fields after the first one, up to the closing brace. -/
def readFields? (fuel depth : Nat) (cs : List Char) :
    Option (List (String × Json) × List Char) :=
  match fuel with
  | 0 => none
  | fuel + 1 =>
    match skipSpace cs with
    | '}' :: r => some ([], r)
    | ',' :: r => do
      let (e, r) ← readField? fuel depth r
      let (es, r) ← readFields? fuel depth r
      some (e :: es, r)
    | _ => none

end

/-- The deepest nesting of lists and objects that is read. -/
def maxDepth : Nat := 127

/-- The value of a whole text, objects with their fields as written. -/
def readTree? (depth : Nat) (text : List Char) : Option Json :=
  match readValue? (text.length + 1) depth text with
  | some (v, r) => if (skipSpace r).isEmpty then some v else none
  | none => none

/-- The value of a whole text, objects in key order. -/
def read? (text : String) : Option Json := (readTree? maxDepth text.toList).map sorted

end Json

end OfferBook
