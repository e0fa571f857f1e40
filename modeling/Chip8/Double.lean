/-!
# Whole numbers and doubles

Time is kept in IEEE-754 doubles, while ticks and clock speeds are whole numbers without bounds. This
module passes between the two exactly, on the bits of a double.

* `Double.wholePart` — the integer next to a double in the direction of zero, of any size;
* `Double.nearest` — the double nearest to an integer, a tie going to the even one;
* `Double.nearest?` — the same, unless the integer is beyond the largest double.

A finite double is `(-1)^sign * significand * 2^exponent`, which `Double.decode` reads off its bits.
-/

namespace Chip8.Double

/-- The ways a double can fail to be a number with an integer part. -/
inductive NotFinite
  | infinite
  | notANumber
  deriving DecidableEq

/-- The sign, significand and exponent of a finite double. -/
structure Parts where
  negative : Bool
  significand : Nat
  exponent : Int
  deriving DecidableEq

def twoPow (k : Nat) : Nat :=
  Nat.pow 2 k

def fractionBits : Nat := 52

/-- The content of the exponent field of infinities and of what is no number. -/
def exponentMax : Nat := 0x7FF

/-- Reads a double's bits: subnormal numbers have no implicit leading bit, normal ones do. -/
def decodeBits (bits : Nat) : Except NotFinite Parts :=
  let negative := bits / twoPow 63 % 2 == 1
  let exponent := bits / twoPow fractionBits % twoPow 11
  let fraction := bits % twoPow fractionBits
  if exponent = exponentMax then
    -- The fraction tells infinities from what is no number.
    .error (if fraction = 0 then .infinite else .notANumber)
  else if exponent = 0 then
    -- A subnormal number.
    .ok ⟨negative, fraction, -1074⟩
  else
    .ok ⟨negative, twoPow fractionBits + fraction, exponent - 1075⟩

/-- The parts of a double, unless it is not finite. -/
def decode (x : Float) : Except NotFinite Parts :=
  decodeBits x.toBits.toNat

/-- The integer that is left when the binary places are cut off. -/
def Parts.whole (p : Parts) : Int :=
  let magnitude :=
    if 0 ≤ p.exponent then p.significand * twoPow p.exponent.toNat
    else p.significand / twoPow (-p.exponent).toNat
  if p.negative then -magnitude else magnitude

/-- The integer part of `x`: of the integers no farther from zero, the one nearest to `x`. -/
def wholePart (x : Float) : Except NotFinite Int :=
  (decode x).map Parts.whole

/-- The significand and the excess exponent that round `n` to 53 bits, a tie going to the even
significand. A carry out of the significand shows as the significand `2 ^ 53`. -/
def roundSignificand (n : Nat) : Nat :=
  let top := n.log2
  if top ≤ fractionBits then
    n * twoPow (fractionBits - top)
  else
    let shift := top - fractionBits
    let quotient := n / twoPow shift
    let remainder := n % twoPow shift
    let half := twoPow (shift - 1)
    if half < remainder ∨ (remainder = half ∧ quotient % 2 = 1) then quotient + 1 else quotient

/-- The bits of the positive double nearest to `n`. Adding the significand to the exponent field
lets a carry raise the exponent. -/
def nearestBits (n : Nat) : Nat :=
  if n = 0 then 0
  else (n.log2 + 1022) * twoPow fractionBits + roundSignificand n

/-- The bits of the positive infinity, which follow those of the largest double. -/
def infinityBits : Nat :=
  exponentMax * twoPow fractionBits

/-- The double nearest to `n`. Beyond the largest one it is an infinity. -/
def nearest (n : Int) : Float :=
  let magnitude := Float.ofBits (UInt64.ofNat (min (nearestBits n.natAbs) infinityBits))
  if n < 0 then -magnitude else magnitude

/-- The double nearest to `n`, or nothing when that is beyond the largest one. -/
def nearest? (n : Int) : Option Float :=
  if nearestBits n.natAbs < infinityBits then some (nearest n) else none

end Chip8.Double
