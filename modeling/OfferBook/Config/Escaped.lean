import OfferBook.Number.Reading

/-! # Escaped text

Texts between quotes, as settings are written.

* `Escaped.split?` — cut at the quote that ends a text. A backslash takes the next character with
  it, so that a quote after one ends nothing.
* `Escaped.decode?` — the characters that a text between quotes stands for.
-/

namespace OfferBook.Escaped

/-- No control character other than the tab. -/
def isPlain (c : Char) : Bool := c == '\t' || (0x20 ≤ c.toNat && c.toNat ≠ 0x7F)

/-- Cut at the first quote without a backslash before it. The quote itself is left out. -/
def split? : List Char → Option (List Char × List Char)
  | [] => none
  | '"' :: r => some ([], r)
  | '\\' :: c :: r => (split? r).map fun (s, rest) => ('\\' :: c :: s, rest)
  | c :: r => (split? r).map fun (s, rest) => (c :: s, rest)

/-- The character that a backslash and a letter or sign stand for. -/
def escaped? (c : Char) : Option Char :=
  if c = '"' ∨ c = '\\' then some c
  else if c = 'b' then some '\x08'
  else if c = 't' then some '\t'
  else if c = 'n' then some '\n'
  else if c = 'f' then some '\x0c'
  else if c = 'r' then some '\r'
  else none

/-- The character whose code is given in hexadecimal digits. -/
def ofCode? (digits : List Char) : Option Char := do
  let n := (← digits.mapM hexDigit?).foldl (fun n d => 16 * n + d) 0
  if n.isValidChar then some (Char.ofNat n) else none

/-- Replace the escapes of a text. All other characters must be allowed to stand for
    themselves. -/
def decode? (allowed : Char → Bool) : List Char → Option (List Char)
  | [] => some []
  | '\\' :: 'u' :: a :: b :: c :: d :: r => do
    some ((← ofCode? [a, b, c, d]) :: (← decode? allowed r))
  | '\\' :: 'U' :: a :: b :: c :: d :: e :: f :: g :: h :: r => do
    some ((← ofCode? [a, b, c, d, e, f, g, h]) :: (← decode? allowed r))
  | '\\' :: c :: r => do some ((← escaped? c) :: (← decode? allowed r))
  | c :: r => if c ≠ '\\' ∧ allowed c then (decode? allowed r).map (c :: ·) else none

end OfferBook.Escaped
