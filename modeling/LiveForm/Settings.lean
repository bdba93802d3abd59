import LiveForm.File
import LiveForm.Slug.Ascii
import LiveForm.Slug.Plain
import LiveForm.Stepper.Basic
import LiveForm.Toml.Decoding

/-!
# Settings

The user's settings: the style of slugs, the delimiter between the words of a slug in ASCII style,
and perhaps the layout of steppers.  They are kept in a TOML file; where there is none, one with the
defaults is to be made.

Keys that mean nothing are passed over.  The layout of steppers has to be complete if there is one.
-/

namespace LiveForm

/-- How slugs are made. -/
inductive SlugStyle where
  /-- The plain slugifier. -/
  | plain
  /-- The transliterating slugifier. -/
  | ascii
  deriving DecidableEq, Repr

/-- The word for a style. -/
def SlugStyle.word : SlugStyle → String
  | .plain => "browser"
  | .ascii => "ascii"

/-- The slug of a text in a style; the ASCII style spells by a table. -/
def SlugStyle.slugBy (table : Text.Spellings) (style : SlugStyle) (delimiter text : String) :
    String :=
  match style with
  | .plain => Slug.plain text
  | .ascii => Slug.asciiBy table delimiter text

/-- The user's settings. -/
structure Settings where
  style : SlugStyle := .plain
  delimiter : String := "-"
  stepper : Option StepperSettings := none
  deriving DecidableEq, Repr

namespace Settings

open Toml

/-- The layout of steppers, the default one if none is set. -/
def stepperOrDefault (s : Settings) : StepperSettings := s.stepper.getD {}

/-- The style of slugs, which a flag can set to ASCII. -/
def styleFor (s : Settings) (ascii : Bool) : SlugStyle := if ascii then .ascii else s.style

/-- The delimiter, in whose place another one can be given. -/
def delimiterFor (s : Settings) (given : Option String) : String := given.getD s.delimiter

/-- The text of a settings file with the defaults. -/
def defaultText : String :=
  "slug_style = \"" ++ SlugStyle.word .plain ++ "\"\ndelimiter = \"-\"\n"

/-! ## Reading -/

/-- The style that a word stands for. -/
def readStyleWord (word : String) : Read SlugStyle :=
  if word = SlugStyle.word .plain then .ok .plain
  else if word = SlugStyle.word .ascii then .ok .ascii
  else refuse (.unknownVariant word [SlugStyle.word .plain, SlugStyle.word .ascii])

/-- Whether a value is an array or a table without content. -/
def isHollow : Value → Bool
  | .array [] => true
  | .table [] => true
  | _ => false

/-- Reads a style: its word, or a table with the word as its only key and nothing in it. -/
def readStyle : Value → Read SlugStyle
  | .string word => readStyleWord word
  | .table [(word, v)] => do
      let style ← readStyleWord word
      if isHollow v then .ok style else .error .malformed
  | _ => .error .malformed

/-- The fields of a stepper layout, in their order. -/
def stepperFields : List String :=
  ["container_selector", "field_selector", "decrease_selector", "action_attribute",
    "inactive_class"]

/-- The fields of a stepper layout that have been read. -/
structure StepperDraft where
  container : Option String := none
  field : Option String := none
  decrease : Option String := none
  actionAttribute : Option String := none
  inactiveClass : Option String := none

/-- Reads one field of a stepper layout. -/
def StepperDraft.add (d : StepperDraft) (entry : String × Value) : Read StepperDraft :=
  let (name, v) := entry
  match name with
  | "container_selector" => v.asText.map fun s => { d with container := some s }
  | "field_selector" => v.asText.map fun s => { d with field := some s }
  | "decrease_selector" => v.asText.map fun s => { d with decrease := some s }
  | "action_attribute" => v.asText.map fun s => { d with actionAttribute := some s }
  | "inactive_class" => v.asText.map fun s => { d with inactiveClass := some s }
  | _ => .ok d

/-- Reads a stepper layout. -/
def readStepper (v : Value) : Read StepperSettings := do
  let r ← v.record "struct StepperConfig" stepperFields
  let d ← r.entries.foldlM StepperDraft.add {}
  let container ← r.require "container_selector" d.container
  let field ← r.require "field_selector" d.field
  let decrease ← r.require "decrease_selector" d.decrease
  let actionAttribute ← r.require "action_attribute" d.actionAttribute
  let inactiveClass ← r.require "inactive_class" d.inactiveClass
  return { container, field, decrease, actionAttribute, inactiveClass }

/-- Reads one entry of the settings. -/
def add (s : Settings) (entry : String × Value) : Read Settings :=
  let (name, v) := entry
  match name with
  | "slug_style" => (readStyle v).map fun style => { s with style }
  | "delimiter" => v.asText.map fun delimiter => { s with delimiter }
  | "stepper" => (readStepper v).map fun stepper => { s with stepper := some stepper }
  | _ => .ok s

/-- Reads settings from the text of their file. -/
def readText (text : String) : Read Settings := do
  (← readDocument text).foldlM add {}

/-! ## Loading -/

/-- Why settings cannot be loaded. -/
inductive LoadError where
  | unreadable (path : String) (cause : File.Fault)
  | invalid (path : String) (cause : ReadError)
  deriving DecidableEq, Repr

/-- The settings of a file, and the text to be written if there is no file. -/
def load (path : String) (file : File) : Except LoadError (Settings × Option String) :=
  match file with
  | .missing => .ok ({}, some defaultText)
  | file => do
      let text ← file.read.mapError (.unreadable path)
      let settings ← (readText text).mapError (.invalid path)
      return (settings, none)

/-- The error in words. -/
def LoadError.message : LoadError → String
  | .unreadable path cause => "failed to read config " ++ path ++ ": " ++ cause.message
  | .invalid path cause => "invalid config " ++ path ++ ": " ++ cause.message

end Settings
end LiveForm
