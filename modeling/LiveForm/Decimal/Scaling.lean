import LiveForm.Decimal.Binary
import LiveForm.Decimal.Natural

/-!
# Decimal numbers read by scaling

A quick way to read a decimal number, which may miss the nearest double by a little.  Of the digits
it takes as many as fit a limit and rounds the number that they form to a double (`nearest?`).  Then
it multiplies by a power of ten (`timesTen?`) or divides by one (`overTen?`), and rounds again.

The digits beyond the limit only count for their place.  A power of ten is a double itself, so
it is rounded too, and `10 ^ 308` is the largest one; a division by more takes several steps.

`Double.scaled?` scales, and `Double.ofDigits?` reads a number with digits on both sides of a point.
-/

namespace LiveForm
namespace Decimal
namespace Double

/-- The product of two doubles, rounded; `none` if it lies beyond the largest double. -/
def times? (d e : Double) : Option Double :=
  nearestRatio? (d.ratio.1 * e.ratio.1) (d.ratio.2 * e.ratio.2)

/-- The quotient of two doubles, rounded; `none` if it lies beyond the largest double. -/
def over? (d e : Double) : Option Double :=
  nearestRatio? (d.ratio.1 * e.ratio.2) (d.ratio.2 * e.ratio.1)

/-- The double times the double nearest to `10 ^ n`.  Zero stays zero, for every power. -/
def timesTen? (d : Double) (n : Nat) : Option Double :=
  if d.significand = 0 then some d else (nearest? 1 n).bind d.times?

/-- The largest exponent of a power of ten that does not lie beyond the largest double. -/
def maxTen : Nat := 308

/-- The double divided by `10 ^ n`, by at most `10 ^ maxTen` at a time and until it is zero. -/
def overTen? (d : Double) (n : Nat) : Option Double :=
  if d.significand = 0 then some d
  else if n ≤ maxTen then (nearest? 1 n).bind d.over?
  else ((nearest? 1 maxTen).bind d.over?).bind fun q => q.overTen? (n - maxTen)
termination_by n
decreasing_by simp only [maxTen] at *; omega

/-- The number `digits * 10 ^ exponent` with `digits` rounded first, and rounded again when it is
scaled; `none` if it gets too large. -/
def scaled? (digits : Nat) (exponent : Int) : Option Double :=
  (nearest? digits 0).bind fun d =>
    if 0 ≤ exponent then d.timesTen? exponent.toNat else d.overTen? (-exponent).toNat

/-- The number `whole.fraction * 10 ^ exponent`, scaled from those of its digits whose number stays
within `limit`.  Digits left over before the point are places before it. -/
def ofDigits? (limit : Nat) (whole fraction : List Char) (exponent : Int) : Option Double :=
  let (n, places) := readWithin limit 0 whole
  let (m, unread) := readWithin limit n fraction
  scaled? m (exponent + places.length + unread.length - fraction.length)

end Double
end Decimal
end LiveForm
