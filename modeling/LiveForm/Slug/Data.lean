import LiveForm.Data.Shape
import LiveForm.Slug.Basic

/-!
# Slugs in data

A slug is stored as its text.  `Slug.ofShape` reads one back from a value of a data format, which
must be a text and a slug.
-/

namespace LiveForm
namespace Slug

/-- Why a value is no slug. -/
inductive ReadError where
  /-- It is not a text. -/
  | wrongShape (found : Data.Shape)
  /-- It is a text that breaks a rule. -/
  | faulty (fault : Fault)
  deriving DecidableEq, Repr

/-- The error in words. -/
def ReadError.message : ReadError → String
  | .wrongShape found => found.mismatch "a string"
  | .faulty fault => fault.message

/-- Reads a slug from a stored value. -/
def ofShape : Data.Shape → Except ReadError Slug
  | .text s => (parse s).mapError .faulty
  | found => .error (.wrongShape found)

/-- The stored form of a slug. -/
def toShape (s : Slug) : Data.Shape := .text s.text

end Slug
end LiveForm
