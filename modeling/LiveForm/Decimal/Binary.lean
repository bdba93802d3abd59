/-!
# Double-precision numbers

A finite double is a whole number of at most 53 bits times a power of two (`Double`).
`Double.nearest?` finds the double closest to a decimal number `digits · 10 ^ exponent`; a tie goes
to the even one of its two neighbours, and a number beyond the largest double has none.

Everything is exact arithmetic on natural numbers, on a ratio `numerator / denominator`.
-/

namespace LiveForm
namespace Decimal

/-- The magnitude `significand * 2 ^ (power - 1074)`. -/
structure Double where
  significand : Nat
  power : Nat
  deriving DecidableEq, Repr

namespace Double

/-- The double as a ratio. -/
def ratio (d : Double) : Nat × Nat :=
  (d.significand * Nat.pow 2 (d.power - 1074), Nat.pow 2 (1074 - d.power))

/-- A ratio rounded to a whole number, half to even. -/
def roundRatio (numerator denominator : Nat) : Nat :=
  let q := numerator / denominator
  let twice := 2 * (numerator % denominator)
  if twice < denominator then q
  else if denominator < twice then q + 1
  else q + q % 2

/-- The ratio in units of `2 ^ (power - 1074)`, rounded. -/
def inUnits (numerator denominator power : Nat) : Nat :=
  if power ≤ 1074 then roundRatio (numerator * Nat.pow 2 (1074 - power)) denominator
  else roundRatio numerator (denominator * Nat.pow 2 (power - 1074))

/-- A power of two whose unit shows the ratio with 53 or 54 bits, or the smallest unit. -/
def startPower (numerator denominator : Nat) : Nat :=
  numerator.log2 + 1021 - denominator.log2

/-- The double nearest to a ratio; `none` if that lies beyond the largest double. -/
def nearestRatio? (numerator denominator : Nat) : Option Double :=
  let p := startPower numerator denominator
  let m := inUnits numerator denominator p
  let d : Double :=
    if m < Nat.pow 2 53 then ⟨m, p⟩ else ⟨inUnits numerator denominator (p + 1), p + 1⟩
  let d : Double := if d.significand < Nat.pow 2 53 then d else ⟨Nat.pow 2 52, d.power + 1⟩
  if d.power ≤ 2045 then some d else none

/-- The number of decimal digits of a number above zero. -/
def digitCount (n : Nat) : Nat := (Nat.toDigits 10 n).length

/-- The double nearest to `digits * 10 ^ exponent`.  Magnitudes that are out of reach by their
number of digits alone are settled without the power of ten. -/
def nearest? (digits : Nat) (exponent : Int) : Option Double :=
  let size : Int := digitCount digits + exponent
  if digits = 0 ∨ size < -330 then some ⟨0, 0⟩
  else if 330 < size then none
  else if 0 ≤ exponent then nearestRatio? (digits * Nat.pow 10 exponent.toNat) 1
  else nearestRatio? digits (Nat.pow 10 (-exponent).toNat)

end Double
end Decimal
end LiveForm
