import LiveForm.Data.Shape
import LiveForm.Decimal.Natural
import LiveForm.Decimal.Scaling
import LiveForm.Decimal.Shortest

/-!
# Numbers in data

`floatText?` is the text of a floating-point number given by its decimal digits, and
`jsonNumber?` the shape of a number as JSON writes it.  A JSON number without a fraction and without
an exponent is an integer as long as it fits 64 bits, with a sign or without; every other one is a
floating-point number, and so is minus zero.  Floating-point numbers of JSON are read by scaling the
number of their first digits, which may miss the nearest double, and are shown with an exponent when
they are very large or very small.
-/

namespace LiveForm
namespace Data

open Decimal

/-- A text behind the sign of a number. -/
def signed (negative : Bool) (text : List Char) : String :=
  String.ofList (if negative then '-' :: text else text)

/-- The shortest text of the number `± digits * 10 ^ exponent`; `none` beyond the largest double. -/
def floatText? (negative : Bool) (digits : Nat) (exponent : Int) : Option String :=
  (Double.nearest? digits exponent).map fun d => signed negative d.text

/-- The largest number of 64 bits. -/
def maxWord : Nat := 18446744073709551615

/-- The shape of the JSON number `± whole.fraction * 10 ^ exponent` if it is no integer. -/
def jsonFloat? (negative : Bool) (whole fraction : List Char) (exponent : Int) : Option Shape :=
  (Double.ofDigits? maxWord whole fraction exponent).map fun d =>
    .float (signed negative d.shortText)

/-- The exponent that an exponent part, with its letter, stands for; zero if there is none. -/
def exponentOf : List Char → Int
  | [] => 0
  | _ :: '-' :: ds => -(valueOf ds : Int)
  | _ :: '+' :: ds => valueOf ds
  | _ :: ds => valueOf ds

/-- The shape of a number in JSON notation. -/
def jsonNumber? (s : String) : Option Shape :=
  let (negative, cs) := match s.toList with
    | '-' :: r => (true, r)
    | cs => (false, cs)
  let whole := cs.takeWhile Char.isDigit
  match cs.dropWhile Char.isDigit with
  | [] =>
      let n := valueOf whole
      if negative then
        if 0 < n ∧ n ≤ 9223372036854775808 then some (.integer (-(n : Int)))
        else jsonFloat? true whole [] 0
      else if n ≤ maxWord then some (.integer n)
      else jsonFloat? false whole [] 0
  | rest =>
      let fraction := match rest with
        | '.' :: r => r.takeWhile Char.isDigit
        | _ => []
      let exponentPart := match rest with
        | '.' :: r => r.dropWhile Char.isDigit
        | r => r
      jsonFloat? negative whole fraction (exponentOf exponentPart)

end Data
end LiveForm
