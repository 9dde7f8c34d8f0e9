/-! # Classes of characters as ranges of code points -/

namespace OfferBook.Text

/-- A first and a last code point. -/
abbrev CodeRange := Nat × Nat

/-- Whether some range of a table holds the character. -/
def inRanges (table : List CodeRange) (c : Char) : Bool :=
  table.any fun range => range.1 ≤ c.toNat && c.toNat ≤ range.2

end OfferBook.Text
