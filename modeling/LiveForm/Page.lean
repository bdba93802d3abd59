import LiveForm.SlugSync
import LiveForm.Stepper.Basic

/-!
# Pages

A page is a tree with components mounted on it.  Every event goes through the components in the
order in which they were mounted; each sees the tree as those before it left it.

`Page.run` is the effect of a sequence of events.
-/

namespace LiveForm

/-- What reacts to events on a page. -/
inductive Component where
  | slugSync (s : SlugSync)
  | stepper (s : Stepper)
  deriving DecidableEq, Repr

namespace Component

/-- A key is released in `target`; steppers do not care. -/
def onInput (target : Handle) : Component → Tree → Component × Tree
  | .slugSync s, t => let (s, t) := s.onInput t target; (.slugSync s, t)
  | .stepper s, t => (.stepper s, t)

/-- A click on `target`; slug syncs do not care. -/
def onClick (target : Handle) : Component → Tree → Tree × DefaultAction
  | .slugSync _, t => (t, .allow)
  | .stepper s, t => s.onClick t target

end Component

/-- Something the user does. -/
inductive Event where
  /-- A key is released. -/
  | input (target : Handle)
  /-- The value is replaced, and a key is released. -/
  | typeInto (target : Handle) (text : String)
  | click (target : Handle)
  deriving DecidableEq, Repr

/-- A tree and the components mounted on it. -/
structure Page where
  tree : Tree := .empty
  components : List Component := []

namespace Page

/-- The page with one more component. -/
def mount (p : Page) (c : Component) : Page := { p with components := p.components ++ [c] }

/-! ## Events -/

/-- A key release goes through components. -/
def inputThrough (target : Handle) : List Component → Tree → List Component × Tree
  | [], t => ([], t)
  | c :: cs, t =>
      let (c, t) := c.onInput target t
      let (cs, t) := inputThrough target cs t
      (c :: cs, t)

/-- A click goes through components. -/
def clickThrough (target : Handle) : List Component → Tree → Tree × DefaultAction
  | [], t => (t, .allow)
  | c :: cs, t =>
      let (t, a) := c.onClick target t
      let (t, b) := clickThrough target cs t
      (t, a.and b)

/-- A key is released in `target`. -/
def input (p : Page) (target : Handle) : Page :=
  let (components, tree) := inputThrough target p.components p.tree
  { tree, components }

/-- The user replaces the value of `target`. -/
def typeInto (p : Page) (target : Handle) (text : String) : Page :=
  { p with tree := p.tree.setValue target text }.input target

/-- A click on `target`. -/
def click (p : Page) (target : Handle) : Page × DefaultAction :=
  let (tree, a) := clickThrough target p.components p.tree
  ({ p with tree }, a)

/-- The page after an event. -/
def after (p : Page) : Event → Page
  | .input target => p.input target
  | .typeInto target text => p.typeInto target text
  | .click target => (p.click target).1

/-- The page after a sequence of events. -/
def run (p : Page) (events : List Event) : Page := events.foldl after p

@[simp] theorem run_nil (p : Page) : p.run [] = p := rfl

@[simp] theorem run_cons (p : Page) (e : Event) (events : List Event) :
    p.run (e :: events) = (p.after e).run events := rfl

theorem run_append (p : Page) (first second : List Event) :
    p.run (first ++ second) = (p.run first).run second :=
  List.foldl_append

/-! ## Mounting -/

/-- Mounts the slug sync of the fields that two selector texts pick.  The source is read first. -/
def bindSlugSync (p : Page) (source destination : String) : Except Selector.Error Page := do
  let source ← Selector.parse source
  let destination ← Selector.parse destination
  return p.mount (.slugSync (.bind p.tree source destination))

/-- Mounts the stepper of the controls that a selector text picks.  The controls are read before the
selectors of the settings. -/
def bindStepper (p : Page) (controls : String) (settings : StepperSettings) :
    Except Selector.Error (Page × Stepper) := do
  let controls ← Selector.parse controls
  let layout ← settings.layout
  let stepper := Stepper.bind p.tree controls layout
  return (p.mount (.stepper stepper), stepper)

/-- For each slug sync, in the order of mounting, whether a destination has been edited. -/
def latches (p : Page) : List Bool :=
  p.components.filterMap fun
    | .slugSync s => some s.edited
    | .stepper _ => none

end Page
end LiveForm
