import LiveForm.Selector.Parser
import LiveForm.Stepper.Quantity
import LiveForm.Tree

/-!
# Quantity steppers

A stepper turns clicks on its controls into steps of a quantity.  The control says in an attribute
whether it increases or decreases; the quantity is in a field of the same *container*, the nearest
element around the control that the layout picks, or else the parent of the control.

When a decrease ends at zero the decrease controls of the container get the inactive class, and any
step that ends above zero takes it away again.
-/

namespace LiveForm

/-! ## Layout -/

/-- Where a stepper finds its parts, as text. -/
structure StepperSettings where
  /-- Picks the container, looked for from the control upwards. -/
  container : String := ".quantity"
  /-- Picks the quantity field, the first one in the container. -/
  field : String := "input"
  /-- Picks the decrease controls in the container. -/
  decrease : String := "[data-action=decrease]"
  /-- The attribute in which a control names its action. -/
  actionAttribute : String := "data-action"
  /-- The class of a decrease control at zero. -/
  inactiveClass : String := "inactive"
  deriving DecidableEq, Repr

/-- Where a stepper finds its parts. -/
structure StepperLayout where
  container : Selector
  field : Selector
  decrease : Selector
  actionAttribute : String
  inactiveClass : String
  deriving DecidableEq, Repr

/-- Reads the selectors of the settings: container, field, decrease controls. -/
def StepperSettings.layout (s : StepperSettings) : Except Selector.Error StepperLayout := do
  let container ← Selector.parse s.container
  let field ← Selector.parse s.field
  let decrease ← Selector.parse s.decrease
  return ⟨container, field, decrease, s.actionAttribute, s.inactiveClass⟩

/-! ## Steppers -/

/-- What becomes of the action that a click has by itself. -/
inductive DefaultAction where
  | allow
  | prevent
  deriving DecidableEq, Repr

/-- Prevented as soon as one part prevents. -/
def DefaultAction.and : DefaultAction → DefaultAction → DefaultAction
  | .allow, a => a
  | .prevent, _ => .prevent

/-- The word for what becomes of the action. -/
def DefaultAction.word : DefaultAction → String
  | .allow => "allow"
  | .prevent => "prevent"

/-- Controls and the layout around them. -/
structure Stepper where
  controls : List Handle
  layout : StepperLayout
  deriving DecidableEq, Repr

namespace Stepper

/-- The stepper of the controls that a selector picks. -/
def bind (t : Tree) (controls : Selector) (layout : StepperLayout) : Stepper :=
  ⟨t.query controls, layout⟩

/-- The container of a control. -/
def container? (s : Stepper) (t : Tree) (control : Handle) : Option Handle :=
  (t.closest? control s.layout.container).or (t.parent? control)

/-- The quantity field of a container. -/
def field? (s : Stepper) (t : Tree) (container : Handle) : Option Handle :=
  (t.queryWithin container s.layout.field).head?

/-- The action that a click on `target` asks for, if that is a control of the stepper. -/
def action? (s : Stepper) (t : Tree) (target : Handle) : Option StepAction :=
  if s.controls.contains target then
    (t.attribute? target s.layout.actionAttribute).bind StepAction.ofText?
  else none

/-- The decrease controls of a container marked for a quantity that an action led to: inactive when
a decrease ends at zero, active above zero. -/
def mark (s : Stepper) (t : Tree) (container : Handle) (a : StepAction) (quantity : Nat) : Tree :=
  let controls := t.queryWithin container s.layout.decrease
  if quantity = 0 then
    match a with
    | .decrease => controls.foldl (fun t h => t.addClass h s.layout.inactiveClass) t
    | .increase => t
  else controls.foldl (fun t h => t.removeClass h s.layout.inactiveClass) t

/-- One step of the quantity around a control; without a container or a field nothing happens. -/
def step (s : Stepper) (t : Tree) (control : Handle) (a : StepAction) : Tree :=
  match s.container? t control with
  | none => t
  | some container =>
    match s.field? t container with
    | none => t
    | some field =>
      let quantity := a.apply (readQuantity (t.value field))
      (s.mark t container a quantity).setValue field (quantityText quantity)

/-- A click on `target`.  A click that asks for a step has no action of its own, even if there is
nothing to step. -/
def onClick (s : Stepper) (t : Tree) (target : Handle) : Tree × DefaultAction :=
  match s.action? t target with
  | some a => (s.step t target a, .prevent)
  | none => (t, .allow)

end Stepper
end LiveForm
