import OfferBook.Number.Double

/-! # The shortest decimal text of a number

A number is written with the fewest digits that read back as it:

* `Digits` — decimal digits and a power of ten, `digits · 10 ^ exponent`.
* `Double.shortest` — on the first decimal grid that has a point reading back as the number,
  the point nearest to it, an exact tie going to the even digit.
* `Double.render` — the digits laid out: positional from `1e-5` up to below `1e16`, scientific
  elsewhere, and always with a point or an exponent, so that the text is no integer's.
-/

namespace OfferBook

/-- The decimal number `digits · 10 ^ exponent`. -/
structure Digits where
  digits : Nat
  exponent : Int
deriving DecidableEq

/-- Move up to `fuel` zeros at the end of the digits into the exponent. -/
def Digits.trimZeros : (fuel : Nat) → Digits → Digits
  | 0, d => d
  | fuel + 1, d =>
    if d.digits % 10 = 0 then trimZeros fuel ⟨d.digits / 10, d.exponent + 1⟩ else d

namespace Double

/-- Number of decimal digits. -/
def width (n : Nat) : Nat := (Nat.toDigits 10 n).length

/-- The exponent `p` with `10 ^ p ≤ num / den < 10 ^ (p + 1)`, for a ratio of a number that is
    no power of ten below one. -/
def leadingExponent (num den : Nat) : Int :=
  if den ≤ num then (width (num / den) : Int) - 1
  else -(width (den / num) : Int)

/-- `num / den` over `10 ^ g`, as a pair of naturals. -/
def scaleDown (num den : Nat) : Int → Nat × Nat
  | .ofNat g => (num, den * Nat.pow 10 g)
  | .negSucc g => (num * Nat.pow 10 (g + 1), den)

/-- Whether the point `a · 10 ^ g` of a decimal grid lies between `low / den` and `high / den`. -/
def reads (closed : Bool) (low high den : Nat) (g : Int) (a : Nat) : Bool :=
  let (l, d) := scaleDown low den g
  let (h, _) := scaleDown high den g
  if closed then l ≤ a * d && a * d ≤ h else l < a * d && a * d < h

/-- Of the two points of the grid `10 ^ g` around `num / den`, the one that reads back; of two,
    the nearer, or the even one when both are equally near. -/
def gridPoint? (closed : Bool) (low num high den : Nat) (g : Int) : Option Nat :=
  let (n, d) := scaleDown num den g
  let a := n / d
  match reads closed low high den g a, reads closed low high den g (a + 1) with
  | false, false => none
  | true, false => some a
  | false, true => some (a + 1)
  | true, true => some (roundDiv n d)

/-- Try the grids with `count`, `count + 1`, … digits, at most `fuel + 1` of them. -/
def searchGrids (closed : Bool) (low num high den : Nat) (p : Int) :
    (fuel count : Nat) → Digits
  | fuel, count =>
    let g := p - (count : Int) + 1
    match gridPoint? closed low num high den g, fuel with
    | some a, _ => ⟨a, g⟩
    | none, 0 => let (n, d) := scaleDown num den g; ⟨roundDiv n d, g⟩
    | none, fuel + 1 => searchGrids closed low num high den p fuel (count + 1)

/-- The shortest digits of the magnitude of a number other than zero. The reals that read back
    as it reach half-way to its neighbours, the ends included when the magnitude is even. -/
def shortest (d : Double) : Digits :=
  let m := d.magnitude.val
  let low := unitsOf (m - 1) + unitsOf m
  let num := 2 * unitsOf m
  let high := unitsOf m + unitsOf (m + 1)
  let den := 2 * unit
  Digits.trimZeros 20
    (searchGrids (m % 2 = 0) low num high den (leadingExponent num den) 16 1)

/-- Lay out digits whose decimal point stands `point` places right of the first one's left side. -/
def layout (digits : List Char) (point : Int) : List Char :=
  let count : Int := digits.length
  if 0 < point ∧ point ≤ 16 then
    if count ≤ point then
      digits ++ List.replicate (point - count).toNat '0' ++ ['.', '0']
    else digits.take point.toNat ++ '.' :: digits.drop point.toNat
  else if -5 < point ∧ point ≤ 0 then
    '0' :: '.' :: List.replicate (-point).toNat '0' ++ digits
  else
    let e := point - 1
    let exponent :=
      'e' :: (if e < 0 then '-' else '+') :: Nat.toDigits 10 e.natAbs
    match digits with
    | [] => exponent
    | [c] => c :: exponent
    | c :: r => c :: '.' :: r ++ exponent

def renderChars (d : Double) : List Char :=
  let sign := if d.negative then ['-'] else []
  if d.isZero then sign ++ ['0', '.', '0']
  else
    let s := d.shortest
    let digits := Nat.toDigits 10 s.digits
    sign ++ layout digits (digits.length + s.exponent)

/-- The text of a number. -/
def render (d : Double) : String := String.ofList d.renderChars

end Double

end OfferBook
