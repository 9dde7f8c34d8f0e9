/-! # Bounds of machine words

Integers have no bounds here. Where a value has a width, these tell the integers that fit it.

* `shortLimit`, `longLimit` — what unsigned words of 32 and of 64 bits stay below.
* `fitsSigned`, `clampSigned` — the signed words of 64 bits, and the one nearest to an integer.
-/

namespace OfferBook

/-- The thirty-second power of two. -/
abbrev shortLimit : Nat := 4294967296

/-- The sixty-fourth power of two. -/
abbrev longLimit : Nat := 18446744073709551616

/-- From the negative of the sixty-third power of two up to below that power. -/
def fitsSigned (n : Int) : Bool := -9223372036854775808 ≤ n && n < 9223372036854775808

def clampSigned (n : Int) : Int :=
  if n < -9223372036854775808 then -9223372036854775808
  else if 9223372036854775807 < n then 9223372036854775807
  else n

theorem fitsSigned_iff {n : Int} :
    fitsSigned n = true ↔ -9223372036854775808 ≤ n ∧ n < 9223372036854775808 := by
  simp [fitsSigned]

end OfferBook
