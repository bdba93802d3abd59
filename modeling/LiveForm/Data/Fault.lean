import LiveForm.Data.Shape

/-!
# Faults of data

What is wrong with data that is well written but is not what it should describe: a field that is
missing or that nobody knows, a choice among words that is none of them, a value of the wrong
shape.  `Fault.message` words the fault.
-/

namespace LiveForm
namespace Data

/-- What is wrong with well-written data. -/
inductive Fault where
  | missingField (name : String)
  | unknownField (name : String) (known : List String)
  | unknownVariant (name : String) (known : List String)
  | wrongType (found : Shape) (wanted : String)
  deriving DecidableEq, Repr

/-- A name between backquotes. -/
def backquoted (name : String) : String := "\x60" ++ name ++ "\x60"

/-- The known names as a message lists them. -/
def oneOf : List String → String
  | [a] => backquoted a
  | [a, b] => backquoted a ++ " or " ++ backquoted b
  | names => "one of " ++ String.intercalate ", " (names.map backquoted)

/-- The fault in words. -/
def Fault.message : Fault → String
  | .missingField name => "missing field " ++ backquoted name
  | .unknownField name known => "unknown field " ++ backquoted name ++ ", expected " ++ oneOf known
  | .unknownVariant name known =>
      "unknown variant " ++ backquoted name ++ ", expected " ++ oneOf known
  | .wrongType found wanted => found.mismatch wanted

end Data
end LiveForm
