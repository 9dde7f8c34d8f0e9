import OfferBook.Number.Reading
import OfferBook.Text.Blank
import OfferBook.Text.Letters

/-! # Words and signs of statements

* `Keyword` — the words that name no table or column, in any case of their letters.
* `Token` — words, texts, numbers, signs; `.other` is a character that no statement holds.
* `Token.scan` — the tokens of a text. A text without its closing quote has none; a semicolon
  with nothing but blanks after it ends the text.
-/

namespace OfferBook

inductive Keyword
  | select | insert | update | delete | from | into | values | set | where | and | or
  | left | outer | inner | join | on | order | by | asc | desc | limit | offset | as | is
  | not | null | true | false | group
deriving DecidableEq

namespace Keyword

def all : List Keyword :=
  [.select, .insert, .update, .delete, .from, .into, .values, .set, .where, .and, .or, .left,
   .outer, .inner, .join, .on, .order, .by, .asc, .desc, .limit, .offset, .as, .is, .not,
   .null, .true, .false, .group]

/-- The keyword in capitals. -/
def spelling : Keyword → String
  | .select => "SELECT"
  | .insert => "INSERT"
  | .update => "UPDATE"
  | .delete => "DELETE"
  | .from => "FROM"
  | .into => "INTO"
  | .values => "VALUES"
  | .set => "SET"
  | .where => "WHERE"
  | .and => "AND"
  | .or => "OR"
  | .left => "LEFT"
  | .outer => "OUTER"
  | .inner => "INNER"
  | .join => "JOIN"
  | .on => "ON"
  | .order => "ORDER"
  | .by => "BY"
  | .asc => "ASC"
  | .desc => "DESC"
  | .limit => "LIMIT"
  | .offset => "OFFSET"
  | .as => "AS"
  | .is => "IS"
  | .not => "NOT"
  | .null => "NULL"
  | .true => "TRUE"
  | .false => "FALSE"
  | .group => "GROUP"

/-- Whether a word is this keyword. -/
def isWord (k : Keyword) (word : String) : Bool := Text.equalsIgnoringCase k.spelling word

/-- Whether a word is some keyword, and so names nothing. -/
def reserves (word : String) : Bool := all.any (·.isWord word)

end Keyword

inductive Token
  | word (w : String)
  | text (s : String)
  | number (digits : String)
  | placeholder
  | comma
  | dot
  | leftParen
  | rightParen
  | equal
  | star
  | other (c : Char)
deriving DecidableEq

namespace Token

def startsWord (c : Char) : Bool := Text.isAlphabetic c || c = '_'

def continuesWord (c : Char) : Bool := Text.isAlphanumeric c || c = '_'

def continuesNumber (c : Char) : Bool := isAsciiDigit c || c = '.'

/-- Whether a number begins here: a digit, or a minus sign before one. -/
def startsNumber (c : Char) (rest : List Char) : Bool :=
  isAsciiDigit c || (c = '-' && rest.head?.any isAsciiDigit)

/-- The characters up to the closing quote; a doubled quote stands for the quote itself. -/
def readText (quote : Char) : List Char → Option (List Char × List Char)
  | [] => none
  | [c] => if c = quote then some ([], []) else none
  | c :: d :: r =>
    if c = quote then
      if d = quote then (readText quote r).map fun (s, rest) => (quote :: s, rest)
      else some ([], d :: r)
    else (readText quote (d :: r)).map fun (s, rest) => (c :: s, rest)

/-- The token of a sign. -/
def ofSign : Char → Token
  | '?' => .placeholder
  | ',' => .comma
  | '.' => .dot
  | '(' => .leftParen
  | ')' => .rightParen
  | '=' => .equal
  | '*' => .star
  | c => .other c

theorem length_readText {quote : Char} {cs s rest : List Char}
    (h : readText quote cs = some (s, rest)) : rest.length < cs.length := by
  fun_induction readText quote cs generalizing s rest with
  | case1 => simp at h
  | case2 => simp_all
  | case3 => simp at h
  | case4 r ih =>
    obtain ⟨⟨t, u⟩, ht, he⟩ := Option.map_eq_some_iff.mp h
    have := ih ht
    simp only [Prod.mk.injEq] at he
    simp only [List.length_cons, ← he.2]
    omega
  | case5 => simp_all
  | case6 c d r hc ih =>
    obtain ⟨⟨t, u⟩, ht, he⟩ := Option.map_eq_some_iff.mp h
    have := ih ht
    simp only [Prod.mk.injEq] at he
    simp only [List.length_cons, ← he.2] at this ⊢
    omega

theorem length_dropWhile_le (p : Char → Bool) (cs : List Char) :
    (cs.dropWhile p).length ≤ cs.length := (List.dropWhile_suffix p).length_le

/-- The tokens of a text. -/
def scanChars (cs : List Char) : Option (List Token) :=
  match cs with
  | [] => some []
  | c :: r =>
    if Text.isBlank c then scanChars r
    else if c = ';' ∧ r.all Text.isBlank then some []
    else if c = '\'' ∨ c = '"' then
      match _h : readText c r with
      | none => none
      | some (s, rest) => (scanChars rest).map (.text (String.ofList s) :: ·)
    else if startsNumber c r then
      (scanChars (r.dropWhile continuesNumber)).map
        (.number (String.ofList (c :: r.takeWhile continuesNumber)) :: ·)
    else if startsWord c then
      (scanChars (r.dropWhile continuesWord)).map
        (.word (String.ofList (c :: r.takeWhile continuesWord)) :: ·)
    else (scanChars r).map (ofSign c :: ·)
termination_by cs.length
decreasing_by
  · simp
  · have := length_readText (by assumption)
    simp only [List.length_cons]
    omega
  · have := length_dropWhile_le continuesNumber r
    simp only [List.length_cons]
    omega
  · have := length_dropWhile_le continuesWord r
    simp only [List.length_cons]
    omega
  · simp

def scan (sql : String) : Option (List Token) := scanChars sql.toList

end Token

end OfferBook
