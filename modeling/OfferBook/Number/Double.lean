/-! # Binary floating-point numbers

The finite numbers of the 64-bit binary format, as exact values:

* `Double` — a sign and a magnitude, the magnitude counting the finite numbers upwards from zero.
* `units` — the magnitude as a multiple of the smallest positive number.
* `ofRatio?`, `ofInt` — the nearest number to an exact ratio, a half going to the even neighbour.
* `mul?`, `div?` — exact product and quotient, rounded once.
* `same`, `compare` — comparison by value, in which the two zeros are one.

No step uses machine floating point, so every value can be computed inside a proof.
-/

namespace OfferBook

/-- Magnitudes from one power of two to the next: the fifty-second power of two. -/
abbrev Double.binade : Nat := 4503599627370496

/-- The number of magnitudes, 2047 times `binade`. -/
abbrev Double.magnitudes : Nat := 9218868437227405312

/-- A finite number of the 64-bit binary format. Counting magnitudes upwards from zero gives
    the numbers in increasing order; the count is also the bit pattern without its sign. -/
structure Double where
  negative : Bool
  magnitude : Fin Double.magnitudes
deriving DecidableEq

namespace Double

/-- Quotient of two naturals to the nearest natural, a half going to the even neighbour. -/
def roundDiv (num den : Nat) : Nat :=
  let q := num / den
  let r := num % den
  if 2 * r < den then q
  else if den < 2 * r then q + 1
  else if q % 2 = 0 then q
  else q + 1

/-- The number with magnitude count `m`, as a multiple of `2 ^ (-1074)`. -/
def unitsOf (m : Nat) : Nat :=
  if m < binade then m else (binade + m % binade) * Nat.pow 2 (m / binade - 1)

/-- The magnitude as a multiple of `2 ^ (-1074)`. -/
def units (d : Double) : Nat := unitsOf d.magnitude.val

/-- Denominator of `units`. -/
def unit : Nat := Nat.pow 2 1074

def zero : Double := ⟨false, ⟨0, by decide⟩⟩

def one : Double := ⟨false, ⟨1023 * binade, by decide⟩⟩

/-- The largest number. -/
def largest : Double := ⟨false, ⟨magnitudes - 1, by decide⟩⟩

instance : Inhabited Double := ⟨zero⟩

/-- Give the number the sign of `negative`. -/
def withSign (negative : Bool) (d : Double) : Double := { d with negative }

def isZero (d : Double) : Bool := d.magnitude.val = 0

/-- Magnitude count of the number nearest to `num / den`, without an upper bound. -/
def nearestMagnitude (num den : Nat) : Nat :=
  let scaled := num * unit
  let k := (scaled / den).log2 - 52
  k * binade + roundDiv scaled (den * Nat.pow 2 k)

/-- The number nearest to `num / den`; none where that is beyond the largest. -/
def ofRatio? (num den : Nat) : Option Double :=
  let m := nearestMagnitude num den
  if h : m < magnitudes then some ⟨false, ⟨m, h⟩⟩ else none

/-- The number nearest to an integer. Integers of 64 bits are far below the largest number. -/
def ofInt (n : Int) : Double :=
  ((ofRatio? n.natAbs 1).getD largest).withSign (decide (n < 0))

/-- The product, rounded once; none where it is beyond the largest number. -/
def mul? (a b : Double) : Option Double :=
  (ofRatio? (a.units * b.units) (unit * unit)).map (·.withSign (a.negative != b.negative))

/-- The quotient by a number other than zero, rounded once; none where it is beyond the
    largest number. -/
def div? (a b : Double) : Option Double :=
  (ofRatio? a.units b.units).map (·.withSign (a.negative != b.negative))

/-- Position on the number line: numbers of equal value, the two zeros among them, have equal
    positions, and a larger number has a larger one. -/
def position (d : Double) : Int :=
  if d.negative then -(d.magnitude.val : Int) else d.magnitude.val

/-- Equality of values. -/
def same (a b : Double) : Bool := a.position = b.position

/-- Order of values. -/
protected def compare (a b : Double) : Ordering := Ord.compare a.position b.position

def isNonneg (d : Double) : Bool := 0 ≤ d.position

/-- The integer part. -/
def truncate (d : Double) : Int :=
  let n : Int := d.units / unit
  if d.negative then -n else n

/-- The number of a truth value: one for true. -/
def ofBool (b : Bool) : Double := if b then one else zero

theorem same_iff {a b : Double} : same a b = true ↔ a.position = b.position := by
  simp [same]

end Double

end OfferBook
