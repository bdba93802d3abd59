import LiveForm.Text.Quoted

/-!
# Shapes of data

What a value of a data format looks like from outside, as far as messages about it tell.
`Shape.mismatch` words the complaint that a value of another shape was expected.
-/

namespace LiveForm
namespace Data

/-- A value by its outer form; numbers carry their text. -/
inductive Shape where
  | null
  | boolean (b : Bool)
  | integer (n : Int)
  | float (text : String)
  | text (s : String)
  | sequence
  | map
  deriving DecidableEq, Repr

/-- How a message names a value of this shape. -/
def Shape.describe : Shape → String
  | .null => "null"
  | .boolean true => "boolean \x60true\x60"
  | .boolean false => "boolean \x60false\x60"
  | .integer n => "integer \x60" ++ toString n ++ "\x60"
  | .float t => "floating point \x60" ++ t ++ "\x60"
  | .text s => "string " ++ Text.quoteText s
  | .sequence => "sequence"
  | .map => "map"

/-- The complaint that `wanted` was expected in the place of a value. -/
def Shape.mismatch (found : Shape) (wanted : String) : String :=
  "invalid type: " ++ found.describe ++ ", expected " ++ wanted

end Data
end LiveForm
