import LiveForm.Page
import LiveForm.Report

/-!
# Replaying a scenario

`Scenario.replay` builds the page of a scenario, does its steps one after another and reports what
they did and how the elements ended up.

* `Scenario.buildTree` makes the tree: every element goes under the one whose id it names, which has
  to stand before it, and no id occurs twice.
* `Scenario.buildPage` mounts the slug syncs and then the steppers.
* `Page.play` does one step: its selector is looked up at that moment, and has to pick something.
-/

namespace LiveForm

/-- What keeps a scenario from being replayed. -/
inductive ReplayError where
  | selector (e : Selector.Error)
  /-- The element at this place names a parent that does not stand before it. -/
  | unknownParent (index : Nat) (name : String)
  | duplicateId (id : String)
  /-- The step of this number, counted from one, has a target that picks nothing. -/
  | noMatch (step : Nat) (target : String)
  deriving DecidableEq, Repr

/-- The error in words. -/
def ReplayError.message : ReplayError → String
  | .selector e => e.message
  | .unknownParent index name =>
      "element " ++ toString index ++ " names unknown parent " ++ Text.quoteText name ++
        " (parents must be declared first)"
  | .duplicateId id => "duplicate element id " ++ Text.quoteText id
  | .noMatch step target =>
      "step " ++ toString step ++ ": selector " ++ Text.quoteText target ++ " matches no element"

/-! ## Building -/

/-- The element that an entry describes. -/
def ElementEntry.element (e : ElementEntry) : Element where
  tag := e.tag
  id := e.id
  classes := .ofList e.classes
  attributes := e.attributes
  value := e.value

namespace Scenario

/-- The handle of the parent that an entry names, in the tree of the elements before it. -/
def parentOf (t : Tree) (e : ElementEntry) : Except ReplayError (Option Handle) :=
  match e.parent with
  | none => .ok none
  | some name =>
      match t.findById? name with
      | some h => .ok (some h)
      | none => .error (.unknownParent t.size name)

/-- The tree with the element of one more entry. -/
def addElement (t : Tree) (e : ElementEntry) : Except ReplayError Tree := do
  let parent ← parentOf t e
  match e.id with
  | none => return t.append parent e.element
  | some id =>
      if (t.findById? id).isSome then .error (.duplicateId id)
      else return t.append parent e.element

/-- The tree of a list of entries. -/
def buildTree (entries : List ElementEntry) : Except ReplayError Tree :=
  entries.foldlM addElement .empty

/-- The page of a scenario. -/
def buildPage (s : Scenario) (settings : StepperSettings) : Except ReplayError Page := do
  let tree ← buildTree s.elements
  let mountSync (p : Page) (e : SyncEntry) : Except ReplayError Page :=
    (p.bindSlugSync e.source e.destination).mapError .selector
  let mountStepper (p : Page) (controls : String) : Except ReplayError Page :=
    ((p.bindStepper controls settings).map (·.1)).mapError .selector
  let page ← s.syncs.foldlM mountSync { tree }
  s.steppers.foldlM mountStepper page

end Scenario

/-! ## Playing -/

namespace Page

/-- Clicks on several elements in turn; the action is prevented if one of the clicks prevents it. -/
def clickAll (p : Page) : List Handle → Page × DefaultAction
  | [] => (p, .allow)
  | h :: hs =>
      let (p, a) := p.click h
      let (p, b) := clickAll p hs
      (p, a.and b)

/-- What a step does to the elements that its selector picks; clicks tell what becomes of their
action. -/
def doStep (p : Page) (targets : List Handle) : ScenarioStep → Page × Option DefaultAction
  | .input _ value => (targets.foldl (fun p h => p.typeInto h value) p, none)
  | .keyUp _ => (targets.foldl input p, none)
  | .click _ =>
      let (p, a) := p.clickAll targets
      (p, some a)

/-- Does the step of the given number. -/
def play (p : Page) (number : Nat) (s : ScenarioStep) :
    Except ReplayError (Page × StepOutcome) := do
  let selector ← (Selector.parse s.target).mapError .selector
  let targets := p.tree.query selector
  if targets.isEmpty then .error (.noMatch number s.target)
  else
    let (after, defaultAction) := p.doStep targets s
    return (after, {
      step := number
      kind := s.kind
      target := s.target
      matched := targets.filterMap after.tree.label?
      defaultAction })

/-- Does steps in turn, the first of which has the given number. -/
def playAll (p : Page) (number : Nat) :
    List ScenarioStep → Except ReplayError (Page × List StepOutcome)
  | [] => .ok (p, [])
  | s :: steps => do
      let (p, outcome) ← p.play number s
      let (p, outcomes) ← playAll p (number + 1) steps
      return (p, outcome :: outcomes)

end Page

/-- Builds the page of a scenario, does its steps and reports. -/
def Scenario.replay (s : Scenario) (settings : StepperSettings) : Except ReplayError Report := do
  let page ← s.buildPage settings
  let (page, outcomes) ← page.playAll 1 s.steps
  return .ofTree outcomes page.tree

end LiveForm
