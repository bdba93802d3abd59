import LiveForm.Decimal.Binary

/-!
# The shortest decimal text of a double

`shortest` finds, for a double above zero, the decimal number with the fewest digits that reads
back as the same double, and of those the nearest; of two equally near ones a `Tie` tells which.
For one digit, two digits and so on it tests the two neighbours of the double on the grid of decimal
numbers with that many digits; seventeen digits always suffice.  Only on the first grid can a
neighbour end in a zero, as the number ten.

`positional` writes such a number out without an exponent and with at least one digit after the
point, and `scientific` with one digit before the point and an exponent.
-/

namespace LiveForm
namespace Decimal

/-- Which of two equally near decimal numbers is taken. -/
inductive Tie where
  /-- The larger one. -/
  | up
  /-- The one whose last digit is even. -/
  | even
  deriving DecidableEq, Repr

/-- The decimal number `digits * 10 ^ (-scale)`. -/
structure Scaled where
  digits : Nat
  scale : Int
  deriving DecidableEq, Repr

namespace Double

/-- Twice the distance to the next smaller double, as a multiple of half the unit: the doubles
below a power of two lie closer. -/
def lowerGap (d : Double) : Nat :=
  if d.significand = Nat.pow 2 52 ∧ 0 < d.power then 1 else 2

/-- Whether a ratio rounds to the double: it lies between the midpoints to both neighbours, which
belong to the double if its significand is even. -/
def covers (d : Double) (numerator denominator : Nat) : Bool :=
  let (v, w) := d.ratio
  let unit := Nat.pow 2 (d.power - 1074)
  let here := 4 * numerator * w
  let low := (4 * v - d.lowerGap * unit) * denominator
  let high := (4 * v + 2 * unit) * denominator
  if d.significand % 2 = 0 then low ≤ here && here ≤ high else low < here && here < high

/-- A multiple of `10 ^ (-scale)` as a ratio. -/
def gridRatio (n : Nat) (scale : Int) : Nat × Nat :=
  if 0 ≤ scale then (n, Nat.pow 10 scale.toNat) else (n * Nat.pow 10 (-scale).toNat, 1)

/-- Of the two neighbours on the grid of `10 ^ (-scale)` the nearer one that rounds to the
double. -/
def onGrid? (tie : Tie) (d : Double) (scale : Int) : Option Scaled :=
  let (v, w) := d.ratio
  let (num, den) :=
    if 0 ≤ scale then (v * Nat.pow 10 scale.toNat, w) else (v, w * Nat.pow 10 (-scale).toNat)
  let below := num / den
  let tieBelow := decide (2 * (num % den) = den ∧ tie = .even ∧ below % 2 = 0)
  let nearer := if tieBelow || 2 * (num % den) < den then below else below + 1
  let farther := if nearer = below then below + 1 else below
  [nearer, farther].findSome? fun n =>
    let (a, b) := gridRatio n scale
    if n ≠ 0 && d.covers a b then some ⟨n, scale⟩ else none

/-- The number of digits before the point of the double, negative if zeros follow the point. -/
def magnitude (d : Double) : Int :=
  let (v, w) := d.ratio
  if w ≤ v then digitCount (v / w)
  else
    let zeros := (List.range 330).find? fun k => w ≤ v * Nat.pow 10 (k + 1)
    Int.neg (zeros.getD 330)

/-- The fewest digits that read back as the double. -/
def shortest (tie : Tie) (d : Double) : Scaled :=
  let found := (List.range 17).findSome? fun n => d.onGrid? tie (Int.ofNat n + 1 - d.magnitude)
  let x := found.getD ⟨d.significand, 0⟩
  if x.digits = 10 then ⟨1, x.scale - 1⟩ else x

end Double

/-- A number in digits, a point, and at least one digit after it. -/
def Scaled.positional (x : Scaled) : List Char :=
  let ds := Nat.toDigits 10 x.digits
  if x.scale ≤ 0 then ds ++ List.replicate (-x.scale).toNat '0' ++ ['.', '0']
  else
    let k := x.scale.toNat
    let padded := List.replicate (k + 1 - ds.length) '0' ++ ds
    let cut := padded.length - k
    padded.take cut ++ '.' :: padded.drop cut

/-- A number with an exponent: one digit, the others behind a point if there are any, and the
exponent of the first digit with its sign. -/
def Scaled.scientific (x : Scaled) : List Char :=
  let ds := Nat.toDigits 10 x.digits
  let exponent : Int := ds.length - 1 - x.scale
  let fraction := if ds.length = 1 then [] else '.' :: ds.tail
  let sign := if exponent < 0 then '-' else '+'
  ds.take 1 ++ fraction ++ 'e' :: sign :: Nat.toDigits 10 exponent.natAbs

/-- The number of digits before the point, or less the number of zeros behind it. -/
def Scaled.places (x : Scaled) : Int := (Nat.toDigits 10 x.digits).length - x.scale

/-- The double in digits, a point, and at least one digit after it. -/
def Double.text (d : Double) : List Char :=
  if d.significand = 0 then ['0', '.', '0'] else (d.shortest .up).positional

/-- The double without an exponent if it has up to sixteen digits before the point or fewer than
five zeros behind it, and with an exponent otherwise. -/
def Double.shortText (d : Double) : List Char :=
  if d.significand = 0 then ['0', '.', '0']
  else
    let x := d.shortest .even
    if -5 < x.places ∧ x.places ≤ 16 then x.positional else x.scientific

end Decimal
end LiveForm
