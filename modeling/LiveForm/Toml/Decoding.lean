import LiveForm.Data.Fault
import LiveForm.Toml.Document

/-!
# Taking TOML values apart

Functions that take a value for a text, a list, a table or a record, and say what is wrong if it is
none.  The entries of a table are looked at in their order, so of two faults the earlier one is
found.

A record is read from a table by the names of its fields, or from an array by their order
(`Value.record`).
-/

namespace LiveForm
namespace Toml

/-- Why data cannot be read. -/
inductive ReadError where
  /-- The text breaks the rules of the format, or a value is too short for its record or is no
  choice at all. -/
  | malformed
  /-- The text is well written, but not what it should describe. -/
  | fault (f : Data.Fault)
  deriving DecidableEq, Repr

/-- The error in words.  Which rule of the format a text breaks, and where, is not told. -/
def ReadError.message : ReadError → String
  | .malformed => "TOML parse error"
  | .fault f => "TOML parse error: " ++ f.message

/-- The outcome of reading data. -/
abbrev Read := Except ReadError

/-- Reading that ends in a fault. -/
def refuse {α : Type} (f : Data.Fault) : Read α := .error (.fault f)

/-- Reads the root table of a document. -/
def readDocument (text : String) : Read (List (String × Value)) :=
  match parse? text with
  | some entries => .ok entries
  | none => .error .malformed

namespace Value

/-- The complaint that a value is not what was wanted. -/
def mismatch {α : Type} (v : Value) (wanted : String) : Read α :=
  refuse (.wrongType v.shape wanted)

/-- A value as a text. -/
def asText (v : Value) : Read String :=
  match v with
  | .string s => .ok s
  | v => v.mismatch "a string"

/-- A value as a list. -/
def asList (v : Value) : Read (List Value) :=
  match v with
  | .array items => .ok items
  | v => v.mismatch "a sequence"

/-- A value as a list of texts. -/
def asTexts (v : Value) : Read (List String) := do
  (← v.asList).mapM asText

/-- A value as names with texts. -/
def asTextMap (v : Value) : Read (List (String × String)) :=
  match v.entries? with
  | some entries => entries.mapM fun (key, v) => v.asText.map (key, ·)
  | none => v.mismatch "a map"

end Value

/-! ## Records -/

/-- The fields of a record, and whether they were given by their order. -/
structure Fields where
  entries : List (String × Value)
  positional : Bool

/-- A value as a record with the given fields; `wanted` names the record in messages. -/
def Value.record (v : Value) (wanted : String) (names : List String) : Read Fields :=
  match v with
  | .array items => .ok ⟨names.zip items, true⟩
  | v =>
    match v.entries? with
    | some entries => .ok ⟨entries, false⟩
    | none => v.mismatch wanted

/-- A field that has to be there.  A record given by order that ends before it is too short. -/
def Fields.require {α : Type} (r : Fields) (name : String) (field : Option α) : Read α :=
  match field with
  | some a => .ok a
  | none => if r.positional then .error .malformed else refuse (.missingField name)

end Toml
end LiveForm
