import LiveForm.Data.Shape

/-!
# TOML values

The values of a TOML document.  A table lists its entries in the order in which their keys first
appear, each key once.  `Value.shape` is how messages see a value, and `Value.entries?` how it reads
as a table: a date is a table of one entry.
-/

namespace LiveForm
namespace Toml

/-- A value of a TOML document. -/
inductive Value where
  | string (s : String)
  | integer (n : Int)
  /-- A floating-point number in its shortest text. -/
  | float (text : String)
  | boolean (b : Bool)
  /-- A date, a time or both, in their normal text. -/
  | datetime (text : String)
  | array (items : List Value)
  | table (entries : List (String × Value))

namespace Value

/-- The outer form of a value. -/
def shape : Value → Data.Shape
  | .string s => .text s
  | .integer n => .integer n
  | .float t => .float t
  | .boolean b => .boolean b
  | .datetime _ => .map
  | .array _ => .sequence
  | .table _ => .map

/-- The key under which a date shows its text when it is read as a table. -/
def datetimeKey : String := "$__toml_private_datetime"

/-- The entries of a value that reads as a table. -/
def entries? : Value → Option (List (String × Value))
  | .table entries => some entries
  | .datetime text => some [(datetimeKey, .string text)]
  | _ => none

end Value
end Toml
end LiveForm
