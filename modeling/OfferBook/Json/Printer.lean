import OfferBook.Json.Basic
import OfferBook.Number.Shortest

/-! # The text of a value

* `Json.quote` — text between quotes; the quote, the backslash and control characters escaped,
  all else as it is.
* `Json.compact` — no white space.
* `Json.pretty` — a line for each item or field, two blanks deeper per level.
-/

namespace OfferBook

/-- Decimal digits of an integer. -/
def intChars (n : Int) : List Char :=
  (if n < 0 then ['-'] else []) ++ Nat.toDigits 10 n.natAbs

def intText (n : Int) : String := String.ofList (intChars n)

namespace Number

def chars : Number → List Char
  | .int n => intChars n
  | .double d => d.renderChars

def render (n : Number) : String := String.ofList n.chars

end Number

namespace Json

/-- Two lower-case hexadecimal digits. -/
def hexPair (n : Nat) : List Char := [Nat.digitChar (n / 16 % 16), Nat.digitChar (n % 16)]

/-- How a character is written between quotes. -/
def escape (c : Char) : List Char :=
  if c = '"' then ['\\', '"']
  else if c = '\\' then ['\\', '\\']
  else if c = '\n' then ['\\', 'n']
  else if c = '\r' then ['\\', 'r']
  else if c = '\t' then ['\\', 't']
  else if c = '\x08' then ['\\', 'b']
  else if c = '\x0c' then ['\\', 'f']
  else if c.toNat < 0x20 then ['\\', 'u', '0', '0'] ++ hexPair c.toNat
  else [c]

def quote (s : String) : List Char := '"' :: s.toList.flatMap escape ++ ['"']

/-- The text of a value that is neither a list nor an object. -/
def scalarChars : Json → List Char
  | .null => ['n', 'u', 'l', 'l']
  | .bool true => ['t', 'r', 'u', 'e']
  | .bool false => ['f', 'a', 'l', 's', 'e']
  | .number n => n.chars
  | .text s => quote s
  | .array _ => ['[', ']']
  | .object _ => ['{', '}']

mutual

def compactChars : Json → List Char
  | .array (v :: r) => '[' :: compactChars v ++ compactItems r
  | .object ((k, v) :: r) => '{' :: quote k ++ ':' :: compactChars v ++ compactFields r
  | v => scalarChars v

/-- The items after the first one, with the closing bracket. -/
def compactItems : List Json → List Char
  | [] => [']']
  | v :: r => ',' :: compactChars v ++ compactItems r

/-- The fields after the first one, with the closing brace. -/
def compactFields : List (String × Json) → List Char
  | [] => ['}']
  | (k, v) :: r => ',' :: quote k ++ ':' :: compactChars v ++ compactFields r

end

/-- A line break and two blanks for each level. -/
def newline (level : Nat) : List Char := '\n' :: List.replicate (2 * level) ' '

mutual

def prettyChars (level : Nat) : Json → List Char
  | .array (v :: r) =>
    '[' :: newline (level + 1) ++ prettyChars (level + 1) v ++ prettyItems level r
  | .object ((k, v) :: r) =>
    '{' :: newline (level + 1) ++ quote k ++ ':' :: ' ' :: prettyChars (level + 1) v
      ++ prettyFields level r
  | v => scalarChars v

def prettyItems (level : Nat) : List Json → List Char
  | [] => newline level ++ [']']
  | v :: r => ',' :: newline (level + 1) ++ prettyChars (level + 1) v ++ prettyItems level r

def prettyFields (level : Nat) : List (String × Json) → List Char
  | [] => newline level ++ ['}']
  | (k, v) :: r =>
    ',' :: newline (level + 1) ++ quote k ++ ':' :: ' ' :: prettyChars (level + 1) v
      ++ prettyFields level r

end

def compact (v : Json) : String := String.ofList v.compactChars

def pretty (v : Json) : String := String.ofList (v.prettyChars 0)

end Json

end OfferBook
