/-! # The binary digits of pi

The fraction of pi as words of 32 bits, from `π = 16 arctan (1/5) - 4 arctan (1/239)`, computed
with integers scaled by a power of two. The bits beyond those asked for absorb what the divisions
cut off.
-/

namespace OfferBook.Password

/-- Sum of the terms `± power / (2 k + 1)` of the series of the arc tangent, the power divided by
    `square` from term to term, until it is zero. -/
def arctanTerms (square : Nat) : (fuel : Nat) → (power k : Nat) → (sum : Int) → Int
  | 0, _, _, sum => sum
  | fuel + 1, power, k, sum =>
    if power = 0 then sum
    else
      let term : Int := power / (2 * k + 1)
      arctanTerms square fuel (power / square) (k + 1)
        (if k % 2 = 0 then sum + term else sum - term)

/-- The arc tangent of `1 / x` for `x ≥ 2`, times `2 ^ bits`. -/
def arctanInverse (x bits : Nat) : Int :=
  arctanTerms (x * x) bits (Nat.pow 2 bits / x) 0 0

/-- Pi times `2 ^ bits`. -/
def scaledPi (bits : Nat) : Nat :=
  (16 * arctanInverse 5 bits - 4 * arctanInverse 239 bits).toNat

/-- The first words of pi's fraction. -/
def piWords (count : Nat) : Vector UInt32 count :=
  let bits := 32 * count
  let fraction := scaledPi (bits + 64) >>> 64 % Nat.pow 2 bits
  Vector.ofFn fun i => UInt32.ofNat (fraction >>> (32 * (count - 1 - i.val)))

end OfferBook.Password
