import OfferBook.Json.Printer
import OfferBook.Number.Reading

/-! # Offer numbers

Numbers such as `FHD2025-0042.3`: the base before the last dot is allocated once for a chain of
versions, the version after it changes with every edit.

* `OfferNumber.text`, `OfferNumber.parse?` — the written form and its reading.
* `OfferNumber.rebase` — any stored text with another version.
* `OfferNumber.ofCounter` — a base from the prefix of an office, a year and a counter.
-/

namespace OfferBook

structure OfferNumber where
  base : String
  version : Int
deriving DecidableEq

namespace OfferNumber

def text (n : OfferNumber) : String := n.base ++ "." ++ intText n.version

/-- The same base with another version. -/
def withVersion (n : OfferNumber) (version : Int) : OfferNumber := { n with version }

/-- The characters before and after the last dot. -/
def splitLastDot? : List Char → Option (List Char × List Char)
  | [] => none
  | c :: r =>
    match splitLastDot? r with
    | some (before, after) => some (c :: before, after)
    | none => if c = '.' then some ([], r) else none

/-- Read a number: a base that is not empty, a dot, and an integer of 64 bits. -/
def parse? (s : String) : Option OfferNumber := do
  let (base, version) ← splitLastDot? s.toList
  let version ← parseSigned? version
  if base = [] then none else some ⟨String.ofList base, version⟩

/-- Give a stored text a version: its base is what stands before the last dot, or the whole
    text when nothing does. -/
def rebase (stored : String) (version : Int) : OfferNumber :=
  match splitLastDot? stored.toList with
  | some (base, _) => if base = [] then ⟨stored, version⟩ else ⟨String.ofList base, version⟩
  | none => ⟨stored, version⟩

/-- What is said of a text that is no offer number; `quoted` is the text in quotes. -/
def malformedMessage (quoted : String) : String := "malformed offer number " ++ quoted

/-- At least four characters, zeros between the sign and the digits. -/
def padded (n : Int) : String :=
  let digits := Nat.toDigits 10 n.natAbs
  let sign := if n < 0 then ['-'] else []
  String.ofList (sign ++ List.replicate (4 - sign.length - digits.length) '0' ++ digits)

/-- The name of a year's counter. -/
def counterKey (year : Int) : String := "offer_number_" ++ intText year

/-- The number with the given value of a year's counter. -/
def ofCounter (officePrefix : String) (year counter version : Int) : OfferNumber :=
  ⟨officePrefix ++ intText year ++ "-" ++ padded counter, version⟩

end OfferNumber

end OfferBook
