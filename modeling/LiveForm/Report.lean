import LiveForm.Data.Json
import LiveForm.NameMap
import LiveForm.Scenario.Basic
import LiveForm.Stepper.Basic

/-!
# Reports

What a replay tells: for each step what it did, and for each element how it ended up, under the
label of the element.  A report is written as JSON (`Report.text`).
-/

namespace LiveForm

/-- What a step did. -/
structure StepOutcome where
  /-- The number of the step, counted from one. -/
  step : Nat
  kind : StepKind
  target : String
  /-- The labels of the elements that the target picked. -/
  matched : List String
  /-- Only clicks have one. -/
  defaultAction : Option DefaultAction
  deriving DecidableEq, Repr

/-- How an element ended up. -/
structure ElementState where
  tag : String
  value : String
  classes : List String
  deriving DecidableEq, Repr

/-- What an element of a report shows. -/
def Element.state (e : Element) : ElementState := ⟨e.tag, e.value, e.classes.names⟩

/-- What a replay tells. -/
structure Report where
  steps : List StepOutcome
  elements : NameMap ElementState

namespace Report

/-- The elements of a tree with their labels, in document order. -/
def labelled (t : Tree) : List (String × ElementState) :=
  t.handles.filterMap fun h => (t.element? h).map fun e => (e.label h, e.state)

/-- The report of what steps did, and of the tree behind them. -/
def ofTree (steps : List StepOutcome) (t : Tree) : Report :=
  ⟨steps, .ofList (labelled t)⟩

/-- The value of an element, by its label. -/
def valueOf (r : Report) (label : String) : Option String :=
  (r.elements.get? label).map (·.value)

/-- Whether an element has a class, by its label. -/
def hasClass (r : Report) (label name : String) : Bool :=
  (r.elements.get? label).any (·.classes.contains name)

/-! ## Writing -/

open Data

/-- The outcome of a step in JSON. -/
def outcomeJson (o : StepOutcome) : Json :=
  .object ([("step", .number o.step), ("kind", .text o.kind.word), ("target", .text o.target),
    ("matched", .list (o.matched.map .text))] ++
    (o.defaultAction.map fun a => ("default_action", .text a.word)).toList)

/-- The state of an element in JSON. -/
def stateJson (s : ElementState) : Json :=
  .object [("tag", .text s.tag), ("value", .text s.value), ("classes", .list (s.classes.map .text))]

/-- A report in JSON. -/
def json (r : Report) : Json :=
  .object [("steps", .list (r.steps.map outcomeJson)),
    ("elements", .object (r.elements.entries.map fun (label, s) => (label, stateJson s)))]

/-- The text of a report, on a single line or with one item per line. -/
def text (r : Report) (indented : Bool) : String :=
  if indented then r.json.indented else r.json.compact

end Report
end LiveForm
