import OfferBook.Config.Escaped
import OfferBook.Config.Value

/-! # The small parts of a settings file

Line ends are single characters here, see `Toml.joinReturns`.

* `skipBlanks`, `skipGaps?`, `endLine?` — what may stand between the other parts.
* `readKey?` — a bare or quoted key, or several with points between them.
* `readText?` — a text in one of its four notations.
* `scalar?` — a truth value or a number.
-/

namespace OfferBook.Toml

/-! ## Gaps -/

/-- Make a line end of every pair of carriage return and line end. -/
def joinReturns : List Char → List Char
  | [] => []
  | '\r' :: '\n' :: r => '\n' :: joinReturns r
  | c :: r => c :: joinReturns r

def isBlank (c : Char) : Bool := c == ' ' || c == '\t'

def skipBlanks (cs : List Char) : List Char := cs.dropWhile isBlank

/-- Skip blanks, line ends and comments. A comment holds plain characters only. -/
def skipGaps? (inComment : Bool) : List Char → Option (List Char)
  | [] => some []
  | c :: r =>
    if c = '\n' then skipGaps? false r
    else if inComment then if Escaped.isPlain c then skipGaps? true r else none
    else if isBlank c then skipGaps? false r
    else if c = '#' then skipGaps? true r
    else some (c :: r)

/-- Skip what may follow the last part of a line, and the gap after it. -/
def endLine? (cs : List Char) : Option (List Char) :=
  match skipBlanks cs with
  | [] => some []
  | '\n' :: r => skipGaps? false r
  | '#' :: r => skipGaps? true r
  | _ => none

/-! ## Texts -/

/-- Cut at three quotes, the last three where there are up to five of them. Where a backslash
    escapes, it takes the next character with it. -/
def splitLong? (quote : Char) (escapes : Bool) : List Char → Option (List Char × List Char)
  | a :: b :: c :: r =>
    if a = quote ∧ b = quote ∧ c = quote then
      let extra := min 2 (r.takeWhile (· = quote)).length
      some (List.replicate extra quote, r.drop extra)
    else if escapes ∧ a = '\\' then
      (splitLong? quote escapes (c :: r)).map fun (s, rest) => (a :: b :: s, rest)
    else (splitLong? quote escapes (b :: c :: r)).map fun (s, rest) => (a :: s, rest)
  | _ => none

/-- Leave out each backslash that only blanks part from the end of its line, together with the
    blanks and line ends after it. -/
def joinLines (joining : Bool) : List Char → List Char
  | [] => []
  | '\\' :: c :: r =>
    if ((c :: r).dropWhile isBlank).head? = some '\n' then joinLines true (c :: r)
    else '\\' :: c :: joinLines false r
  | c :: r =>
    if joining ∧ (isBlank c ∨ c = '\n') then joinLines true r else c :: joinLines false r

def isPlainOrLineEnd (c : Char) : Bool := Escaped.isPlain c || c == '\n'

/-- A long text begins on the line after its opening quotes, if these end their line. -/
def dropLineEnd : List Char → List Char
  | '\n' :: r => r
  | cs => cs

/-- A text of one line after its opening quote, with escapes. -/
def readBasic? (cs : List Char) : Option (List Char × List Char) := do
  let (raw, r) ← Escaped.split? cs
  some (← Escaped.decode? Escaped.isPlain raw, r)

/-- A text of one line after its opening apostrophe, as it stands. -/
def readLiteral? (cs : List Char) : Option (List Char × List Char) :=
  let raw := cs.takeWhile (· ≠ '\'')
  match cs.dropWhile (· ≠ '\'') with
  | _ :: r => if raw.all Escaped.isPlain then some (raw, r) else none
  | [] => none

/-- A text of several lines after its opening quotes, with escapes. -/
def readLongBasic? (cs : List Char) : Option (List Char × List Char) := do
  let (raw, r) ← splitLong? '"' true (dropLineEnd cs)
  some (← Escaped.decode? isPlainOrLineEnd (joinLines false raw), r)

/-- A text of several lines after its opening apostrophes, as it stands. -/
def readLongLiteral? (cs : List Char) : Option (List Char × List Char) := do
  let (raw, r) ← splitLong? '\'' false (dropLineEnd cs)
  if raw.all isPlainOrLineEnd then some (raw, r) else none

/-- A text in any notation. -/
def readText? : List Char → Option (List Char × List Char)
  | '"' :: '"' :: '"' :: r => readLongBasic? r
  | '"' :: r => readBasic? r
  | '\'' :: '\'' :: '\'' :: r => readLongLiteral? r
  | '\'' :: r => readLiteral? r
  | _ => none

/-! ## Keys -/

def isKeyChar (c : Char) : Bool := c.isAlphanum || c == '_' || c == '-'

def readKeyPart? : List Char → Option (List Char × List Char)
  | '"' :: r => readBasic? r
  | '\'' :: r => readLiteral? r
  | cs =>
    if cs.takeWhile isKeyChar = [] then none
    else some (cs.takeWhile isKeyChar, cs.dropWhile isKeyChar)

/-- The parts of a key, of which there are at most `count`, with the blanks around it. -/
def readParts? : (count : Nat) → List Char → Option (List String × List Char)
  | 0, _ => none
  | count + 1, cs => do
    let (part, r) ← readKeyPart? (skipBlanks cs)
    match skipBlanks r with
    | '.' :: r =>
      let (parts, r) ← readParts? count r
      some (String.ofList part :: parts, r)
    | r => some ([String.ofList part], r)

/-- How deep lists and tables may be nested in a value, and how many parts a key may have. -/
def maxDepth : Nat := 79

/-- A key, with the blanks around it. -/
def readKey? (cs : List Char) : Option (List String × List Char) := readParts? maxDepth cs

/-! ## Truth values and numbers -/

/-- Digits, with single underscores allowed between them. -/
def ungroup? (isDigit : Char → Bool) : List Char → Option (List Char)
  | [] => none
  | [c] => if isDigit c then some [c] else none
  | c :: '_' :: r => if isDigit c then (ungroup? isDigit r).map (c :: ·) else none
  | c :: r => if isDigit c then (ungroup? isDigit r).map (c :: ·) else none

def isDigitOrUnderscore (c : Char) : Bool := isAsciiDigit c || c == '_'

/-- An integer that has a signed 64-bit form. -/
def bounded? (n : Int) : Option ConfigValue := if fitsSigned n then some (.integer n) else none

/-- An integer by its digits in another base than ten. -/
def based? (base : Nat) (cs : List Char) : Option ConfigValue := do
  let digits ← ungroup? (fun c => (hexDigit? c).any (· < base)) cs
  bounded? (digits.foldl (fun n c => base * n + (hexDigit? c).getD 0) 0)

/-- The digits before a point or exponent, without superfluous zeros. -/
def whole? (cs : List Char) : Option (List Char) :=
  match ungroup? isAsciiDigit cs with
  | some ('0' :: _ :: _) => none
  | digits => digits

/-- An exponent with its letter, or nothing. -/
def scale? : List Char → Option Int
  | [] => some 0
  | c :: r =>
    if c = 'e' ∨ c = 'E' then do
      let (negative, r) := splitSign r
      let n := natOfDigits (← ungroup? isAsciiDigit r)
      some (if negative then -(n : Int) else n)
    else none

/-- The double nearest to a decimal. One that is too large is refused, but minus infinity is
    taken. -/
def double? (d : Decimal) : Option ConfigValue :=
  match Double.ofDecimal? d with
  | some x => some (.double x)
  | none => if d.negative then some .nonFinite else none

/-- A number in base ten, without its sign. -/
def decimal? (negative : Bool) (cs : List Char) : Option ConfigValue := do
  let whole ← whole? (cs.takeWhile isDigitOrUnderscore)
  match cs.dropWhile isDigitOrUnderscore with
  | [] =>
    let n := natOfDigits whole
    bounded? (if negative then -(n : Int) else n)
  | '.' :: r =>
    let fraction ← ungroup? isAsciiDigit (r.takeWhile isDigitOrUnderscore)
    let e ← scale? (r.dropWhile isDigitOrUnderscore)
    double? ⟨negative, natOfDigits (whole ++ fraction), e - fraction.length⟩
  | r => double? ⟨negative, natOfDigits whole, ← scale? r⟩

/-- A truth value or a number. -/
def scalar? (cs : List Char) : Option ConfigValue :=
  match cs with
  | ['t', 'r', 'u', 'e'] => some (.bool true)
  | ['f', 'a', 'l', 's', 'e'] => some (.bool false)
  | '0' :: 'x' :: r => based? 16 r
  | '0' :: 'o' :: r => based? 8 r
  | '0' :: 'b' :: r => based? 2 r
  | cs =>
    let (negative, r) := splitSign cs
    if r = ['i', 'n', 'f'] ∨ r = ['n', 'a', 'n'] then some .nonFinite else decimal? negative r

def isScalarChar (c : Char) : Bool := c.isAlphanum || c == '_' || c == '+' || c == '-' || c == '.'

end OfferBook.Toml
