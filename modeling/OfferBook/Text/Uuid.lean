/-! # Random identifiers

The usual text of a version 4 identifier: 32 hexadecimal digits in five groups.
-/

namespace OfferBook.Uuid

def hexOfByte (b : UInt8) : List Char :=
  [Nat.digitChar (b.toNat / 16), Nat.digitChar (b.toNat % 16)]

/-- Put the version and the variant into random bytes. -/
def mark (bytes : List UInt8) : List UInt8 :=
  bytes.zipIdx.map fun (b, i) =>
    if i = 6 then b &&& 0x0F ||| 0x40 else if i = 8 then b &&& 0x3F ||| 0x80 else b

/-- The identifier made of 16 random bytes. -/
def ofBytes (bytes : List UInt8) : String :=
  let digits := (mark bytes).flatMap hexOfByte
  let group (start length : Nat) : String := String.ofList ((digits.drop start).take length)
  String.intercalate "-" [group 0 8, group 8 4, group 12 4, group 16 4, group 20 12]

end OfferBook.Uuid
