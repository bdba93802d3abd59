import LiveForm.File
import LiveForm.Toml.Decoding

/-!
# Scenarios

A scenario describes a page and what a user does on it: elements, slug syncs, steppers, and steps.
It is written as a TOML document with an array of tables for each of the four.

`Scenario.readText` reads one.  Elements, slug syncs and steppers know their fields and refuse
others; a step names its kind in the field `type` and passes over what its kind does not need.
-/

namespace LiveForm

/-- An element as a scenario describes it; `parent` is the id of an element before it. -/
structure ElementEntry where
  tag : String
  id : Option String := none
  classes : List String := []
  attributes : List (String × String) := []
  value : String := ""
  parent : Option String := none
  deriving DecidableEq, Repr

/-- A slug sync as a scenario describes it, by two selectors. -/
structure SyncEntry where
  source : String
  destination : String
  deriving DecidableEq, Repr

/-- The kind of a step. -/
inductive StepKind where
  | input
  | keyUp
  | click
  deriving DecidableEq, Repr

namespace StepKind

/-- The word for a kind. -/
def word : StepKind → String
  | .input => "input"
  | .keyUp => "key_up"
  | .click => "click"

/-- The kinds of steps, in their order. -/
def all : List StepKind := [.input, .keyUp, .click]

/-- The fields of a step of some kind, in their order. -/
def fields : StepKind → List String
  | .input => ["target", "value"]
  | .keyUp => ["target"]
  | .click => ["target"]

end StepKind

/-- What the user does, to every element that a selector picks. -/
inductive ScenarioStep where
  /-- Replaces the value and releases a key. -/
  | input (target value : String)
  /-- Releases a key. -/
  | keyUp (target : String)
  | click (target : String)
  deriving DecidableEq, Repr

namespace ScenarioStep

/-- The selector of the elements that the step is about. -/
def target : ScenarioStep → String
  | .input target _ => target
  | .keyUp target => target
  | .click target => target

/-- The kind of a step. -/
def kind : ScenarioStep → StepKind
  | .input _ _ => .input
  | .keyUp _ => .keyUp
  | .click _ => .click

end ScenarioStep

/-- A page and what a user does on it. -/
structure Scenario where
  elements : List ElementEntry := []
  syncs : List SyncEntry := []
  /-- For each stepper the selector of its controls. -/
  steppers : List String := []
  steps : List ScenarioStep := []
  deriving DecidableEq, Repr

namespace Scenario

open Toml

/-! ## Elements -/

/-- The fields of an element, in their order. -/
def elementFields : List String := ["tag", "id", "classes", "attrs", "value", "parent"]

/-- The tag of an element once it has been read, and its other fields. -/
structure ElementDraft where
  tag : Option String := none
  entry : ElementEntry := { tag := "" }

/-- Reads one field of an element. -/
def ElementDraft.add (d : ElementDraft) (field : String × Value) : Read ElementDraft :=
  let (name, v) := field
  match name with
  | "tag" => v.asText.map fun s => { d with tag := some s }
  | "id" => v.asText.map fun s => { d with entry.id := some s }
  | "classes" => v.asTexts.map fun l => { d with entry.classes := l }
  | "attrs" => v.asTextMap.map fun l => { d with entry.attributes := l }
  | "value" => v.asText.map fun s => { d with entry.value := s }
  | "parent" => v.asText.map fun s => { d with entry.parent := some s }
  | _ => refuse (.unknownField name elementFields)

/-- Reads an element. -/
def readElement (v : Value) : Read ElementEntry := do
  let r ← v.record "struct ElementSpec" elementFields
  let d ← r.entries.foldlM ElementDraft.add {}
  let tag ← r.require "tag" d.tag
  return { d.entry with tag }

/-! ## Slug syncs and steppers -/

/-- Reads the fields of a record that are all texts, and refuses others: the value of each field
that is there. -/
def readTexts (names : List String) (r : Fields) : Read (List (String × String)) :=
  r.entries.mapM fun (name, v) =>
    if names.contains name then v.asText.map (name, ·) else refuse (.unknownField name names)

/-- Reads a slug sync. -/
def readSync (v : Value) : Read SyncEntry := do
  let names := ["source", "destination"]
  let r ← v.record "struct SlugSyncSpec" names
  let texts ← readTexts names r
  let source ← r.require "source" (texts.lookup "source")
  let destination ← r.require "destination" (texts.lookup "destination")
  return { source, destination }

/-- Reads the controls of a stepper. -/
def readStepper (v : Value) : Read String := do
  let names := ["controls"]
  let r ← v.record "struct StepperSpec" names
  let texts ← readTexts names r
  r.require "controls" (texts.lookup "controls")

/-! ## Steps -/

/-- Reads the kind of a step. -/
def readKind (v : Value) : Read StepKind :=
  match v with
  | .string s =>
      match StepKind.all.find? (·.word == s) with
      | some kind => .ok kind
      | none => refuse (.unknownVariant s (StepKind.all.map StepKind.word))
  | v => v.mismatch "variant identifier"

/-- Reads the fields of a step of some kind; other fields are passed over. -/
def readStepFields (kind : StepKind) (r : Fields) : Read ScenarioStep := do
  let texts ← (r.entries.filter (kind.fields.contains ·.1)).mapM fun (name, v) =>
    v.asText.map (name, ·)
  let target ← r.require "target" (texts.lookup "target")
  match kind with
  | .input => return .input target (← r.require "value" (texts.lookup "value"))
  | .keyUp => return .keyUp target
  | .click => return .click target

/-- Reads a step.  Its kind comes first, wherever it stands; a step given by order begins with it
and has no more than its kind needs. -/
def readStep (v : Value) : Read ScenarioStep :=
  match v with
  | .array [] => refuse (.missingField "type")
  | .array (kind :: items) => do
      let kind ← readKind kind
      let step ← readStepFields kind ⟨kind.fields.zip items, true⟩
      if kind.fields.length < items.length then .error .malformed else return step
  | v =>
    match v.entries? with
    | none => v.mismatch "internally tagged enum Step"
    | some entries =>
      match entries.lookup "type" with
      | none => refuse (.missingField "type")
      | some kind => do
          let kind ← readKind kind
          readStepFields kind ⟨entries, false⟩

/-! ## Scenarios -/

/-- The fields of a scenario, in their order. -/
def fields : List String := ["element", "slug_sync", "stepper", "step"]

/-- Reads one entry of a scenario. -/
def add (s : Scenario) (entry : String × Value) : Read Scenario :=
  let (name, v) := entry
  match name with
  | "element" => do return { s with elements := ← (← v.asList).mapM readElement }
  | "slug_sync" => do return { s with syncs := ← (← v.asList).mapM readSync }
  | "stepper" => do return { s with steppers := ← (← v.asList).mapM readStepper }
  | "step" => do return { s with steps := ← (← v.asList).mapM readStep }
  | _ => refuse (.unknownField name fields)

/-- Reads a scenario. -/
def readText (text : String) : Read Scenario := do
  (← readDocument text).foldlM add {}

/-! ## Loading -/

/-- Why a scenario cannot be loaded. -/
inductive LoadError where
  | unreadable (path : String) (cause : File.Fault)
  | invalid (cause : ReadError)
  deriving DecidableEq, Repr

/-- The error in words. -/
def LoadError.message : LoadError → String
  | .unreadable path cause => "failed to read fixture " ++ path ++ ": " ++ cause.message
  | .invalid cause => "invalid fixture: " ++ cause.message

/-- The scenario in a file. -/
def load (path : String) (file : File) : Except LoadError Scenario := do
  let text ← file.read.mapError (.unreadable path)
  (readText text).mapError .invalid

end Scenario
end LiveForm
