import OfferBook.Number.Reading
import OfferBook.Text.Blank

/-! # German amounts

Amounts as they are typed in, such as `1.234,56`. Blanks and no-break spaces do not count. With a
comma in it, the text has its fraction after the first comma and dots divide thousands; without
one it is read as a plain decimal, so `12.5` stays 12.5.
-/

namespace OfferBook.German

/-- The no-break space. -/
def noBreakSpace : Char := '\u00a0'

def isFiller (c : Char) : Bool := c = ' ' || c = noBreakSpace

/-- The text without blanks around it and without spaces in it. -/
def squeeze (cs : List Char) : List Char := (Text.trimChars cs).filter (!isFiller ·)

/-- Put a point for the first comma. -/
def pointForComma (cs : List Char) : List Char :=
  cs.takeWhile (· ≠ ',') ++ match cs.dropWhile (· ≠ ',') with
    | [] => []
    | _ :: r => '.' :: r

/-- The plain decimal that an amount stands for. -/
def normalize (cs : List Char) : List Char :=
  if ',' ∈ cs then pointForComma (cs.filter (· ≠ '.')) else cs

/-- The value of an amount; none for a text that is empty or no finite number. -/
def parse? (text : String) : Option Double := Double.parseChars? (normalize (squeeze text.toList))

end OfferBook.German
