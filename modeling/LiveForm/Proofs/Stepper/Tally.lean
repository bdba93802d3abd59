import LiveForm.Proofs.Page.Outline
import LiveForm.Proofs.Stepper.Independence

/-!
# The quantity behind a history

Every step prints its quantity into the field, and the next one reads it from there.  Nothing is
lost on the way: behind a history the field holds what is counted from the quantity that it held at
first, whatever happens in other containers meanwhile.

* `nearestQuantity`, `StepAction.apply_eq_nearestQuantity`: a step adds one or takes one away, and
  stops at the bounds.
* `StepAction.tally`, `StepAction.tallyText`: counting, in numbers and in a field.
* `Stepper.actionIn?`: the step that an event asks for in a container.
* `Stepper.Respects`: the events that touch the field of a container in no other way.
* `Page.value_after_eq_tallyText`, `Page.value_run_eq_tallyText`: the field behind one such event
  and behind a history of them.
-/

namespace LiveForm

/-! ## Counting -/

/-- The quantity nearest to a number. -/
def nearestQuantity (n : Int) : Nat := min n.toNat maxQuantity

namespace StepAction

variable {a : StepAction} {n : Nat}

/-- What a step adds. -/
def change : StepAction → Int
  | .increase => 1
  | .decrease => -1

/-- A step adds its change, and stops at the bounds. -/
theorem apply_eq_nearestQuantity (a : StepAction) (h : n ≤ maxQuantity) :
    a.apply n = nearestQuantity (n + a.change) := by
  cases a with
  | increase =>
    show min (n + 1) maxQuantity = min ((n : Int) + 1).toNat maxQuantity
    omega
  | decrease =>
    show n - 1 = min ((n : Int) + -1).toNat maxQuantity
    omega

/-- The quantity that steps lead to from a first one. -/
def tally (first : Nat) (actions : List StepAction) : Nat :=
  actions.foldl (fun n a => nearestQuantity (n + a.change)) first

theorem tally_cons (a : StepAction) (actions : List StepAction) (h : n ≤ maxQuantity) :
    tally n (a :: actions) = tally (a.apply n) actions := by
  rw [apply_eq_nearestQuantity a h]
  rfl

/-- The bounds count at every step, not only at the end. -/
example : tally 0 [.decrease, .decrease, .increase] = 1 := by decide

/-- The text that steps leave in a field that held `text`: without a step the text itself, and else
the quantity in digits. -/
def tallyText (text : String) (actions : List StepAction) : String :=
  if actions = [] then text else quantityText (tally (readQuantity text) actions)

@[simp] theorem tallyText_nil (text : String) : tallyText text [] = text := if_pos rfl

theorem tallyText_singleton (text : String) (a : StepAction) :
    tallyText text [a] = quantityText (a.apply (readQuantity text)) := by
  rw [tallyText, if_neg (List.cons_ne_nil _ _), tally_cons a [] (readQuantity_le text)]
  rfl

/-- **Printing and reading again between two steps changes nothing.** -/
theorem tallyText_cons (text : String) (a : StepAction) (actions : List StepAction) :
    tallyText text (a :: actions) = tallyText (tallyText text [a]) actions := by
  rw [tallyText_singleton, tallyText, if_neg (List.cons_ne_nil _ _),
    tally_cons a actions (readQuantity_le text)]
  cases actions with
  | nil => rw [tallyText_nil, tally, List.foldl_nil]
  | cons b actions => rw [tallyText, if_neg (List.cons_ne_nil _ _), readQuantity_apply]

end StepAction

/-! ## Events and one container -/

namespace Stepper

variable {s : Stepper} {t u : Tree} {container field target : Handle}

/-- The step that an event asks for in a container. -/
def actionIn? (s : Stepper) (t : Tree) (container : Handle) : Event → Option StepAction
  | .input _ => none
  | .typeInto _ _ => none
  | .click target =>
      if s.container? t target = some container then s.action? t target else none

/-- Nothing is typed into the field, and a click that asks for a step has the container or one apart
from it. -/
def Respects (s : Stepper) (t : Tree) (container field : Handle) : Event → Prop
  | .input _ => True
  | .typeInto target _ => target ≠ field
  | .click target =>
      (s.action? t target).isSome = true →
        ∀ own ∈ s.container? t target, own = container ∨ t.Apart own container

instance : DecidablePred (s.Respects t container field)
  | .input _ => inferInstanceAs (Decidable True)
  | .typeInto target _ => inferInstanceAs (Decidable (target ≠ field))
  | .click target =>
      inferInstanceAs (Decidable ((s.action? t target).isSome = true →
        ∀ own ∈ s.container? t target, own = container ∨ t.Apart own container))

/-- Trees of one outline have the same controls, containers and fields, as far as the layout does
not mention the inactive class. -/
structure SameParts (s : Stepper) (t u : Tree) : Prop where
  action? : s.action? u = s.action? t
  container? : s.container? u = s.container? t
  field? : s.field? u = s.field? t

theorem sameParts_of_outline
    (hcontainer : ¬ s.layout.container.Mentions s.layout.inactiveClass)
    (hfield : ¬ s.layout.field.Mentions s.layout.inactiveClass)
    (ho : u.outline s.layout.inactiveClass = t.outline s.layout.inactiveClass) :
    s.SameParts t u where
  action? := funext (action?_congr ho)
  container? := funext (container?_congr hcontainer ho)
  field? := funext (field?_congr hfield ho)

theorem SameParts.actionIn?_eq (h : s.SameParts t u) (container : Handle) :
    s.actionIn? u container = s.actionIn? t container := by
  funext event
  cases event with
  | input target => rfl
  | typeInto target text => rfl
  | click target => rw [actionIn?, actionIn?, h.action?, h.container?]

theorem SameParts.respects (h : s.SameParts t u) (hparent : ∀ i, u.parent? i = t.parent? i)
    {event : Event} (hevent : s.Respects t container field event) :
    s.Respects u container field event := by
  cases event with
  | input target => exact hevent
  | typeInto target text => exact hevent
  | click target =>
    intro haction own hown
    rw [h.action?] at haction
    rw [h.container?] at hown
    exact (hevent haction own hown).imp id fun hapart => hapart.congr hparent

/-- A click that respects a container does to the text in its field what it asks for there. -/
theorem value_onClick_eq_tallyText (hfield : s.field? t container = some field)
    (h : s.Respects t container field (.click target)) :
    (s.onClick t target).1.value field =
      StepAction.tallyText (t.value field) (s.actionIn? t container (.click target)).toList := by
  have hbelow : container ∈ t.ancestors field := mem_ancestors_of_field?_eq hfield
  rw [actionIn?]
  split
  · next hown =>
    cases ha : s.action? t target with
    | none => rw [onClick, ha, Option.toList_none, StepAction.tallyText_nil]
    | some a =>
      rw [value_onClick_of_steps ha hown hfield, Option.toList_some,
        StepAction.tallyText_singleton]
  · next hother =>
    refine value_onClick ?_
    rintro ⟨haction, hsteps⟩
    obtain ⟨own, hown, hfield'⟩ := Option.bind_eq_some_iff.1 hsteps
    have hbelow' : own ∈ t.ancestors field := mem_ancestors_of_field?_eq hfield'
    rcases h haction own hown with rfl | hapart
    · exact hother hown
    · exact hapart.not_mem_of_mem hbelow' hbelow

end Stepper

/-! ## Pages with a stepper alone -/

namespace Page

variable {p : Page} {s : Stepper} {container field : Handle} {event : Event} {events : List Event}

theorem components_after_of_stepper (h : p.components = [.stepper s]) (event : Event) :
    (p.after event).components = [.stepper s] := by
  cases event with
  | input target =>
    show (p.input target).components = _
    rw [components_input, h]
    rfl
  | typeInto target text =>
    show (p.typeInto target text).components = _
    rw [typeInto, components_input, h]
    rfl
  | click target => exact h

theorem steppers_of_stepper (h : p.components = [.stepper s]) : p.steppers = [s] := by
  rw [steppers, h]
  rfl

/-- A key release does nothing. -/
theorem tree_input_of_stepper (h : p.components = [.stepper s]) (target : Handle) :
    (p.input target).tree = p.tree := by
  show (inputThrough target p.components p.tree).2 = p.tree
  rw [h]
  rfl

/-- An event that respects a container does to the text in its field what it asks for there. -/
theorem value_after_eq_tallyText (h : p.components = [.stepper s])
    (hfield : s.field? p.tree container = some field)
    (hevent : s.Respects p.tree container field event) :
    (p.after event).tree.value field =
      StepAction.tallyText (p.tree.value field) (s.actionIn? p.tree container event).toList := by
  cases event with
  | input target =>
    show (p.input target).tree.value field = p.tree.value field
    rw [tree_input_of_stepper h]
  | typeInto target text =>
    show (p.typeInto target text).tree.value field = p.tree.value field
    rw [typeInto, tree_input_of_stepper (p := { p with tree := p.tree.setValue target text }) h]
    exact Tree.value_setValue_of_ne _ hevent text
  | click target =>
    show (p.click target).1.tree.value field = _
    rw [tree_click_of_steppers (steppers_of_stepper h)]
    exact Stepper.value_onClick_eq_tallyText hfield hevent

/-- The text in the field behind a history.  By induction on the history: the first event leaves a
page with the same parts, and reading what it printed changes nothing. -/
theorem value_run_of_respects (h : p.components = [.stepper s])
    (hcontainer : ¬ s.layout.container.Mentions s.layout.inactiveClass)
    (hmentions : ¬ s.layout.field.Mentions s.layout.inactiveClass)
    (hfield : s.field? p.tree container = some field)
    (hevents : ∀ event ∈ events, s.Respects p.tree container field event) :
    (p.run events).tree.value field = StepAction.tallyText (p.tree.value field)
      (events.filterMap (s.actionIn? p.tree container)) := by
  induction events generalizing p with
  | nil => rfl
  | cons event events ih =>
    rw [List.forall_mem_cons] at hevents
    have ho : (p.after event).tree.outline s.layout.inactiveClass =
        p.tree.outline s.layout.inactiveClass :=
      outline_run_of_steppers (steppers_of_stepper h) [event]
    have hparts := Stepper.sameParts_of_outline hcontainer hmentions ho
    have hfield' : s.field? (p.after event).tree container = some field := by
      rw [hparts.field?, hfield]
    rw [run_cons, ih (components_after_of_stepper h event) hfield'
        fun later hlater => hparts.respects (Tree.parent?_congr ho) (hevents.2 later hlater),
      hparts.actionIn?_eq, value_after_eq_tallyText h hfield hevents.1]
    cases haction : s.actionIn? p.tree container event with
    | none => rw [List.filterMap_cons_none haction, Option.toList_none, StepAction.tallyText_nil]
    | some a => rw [List.filterMap_cons_some haction, StepAction.tallyText_cons, Option.toList_some]

/-- **The quantity behind a history.**  On a page with a stepper alone, whose selectors for
containers and fields do not mention the inactive class, every event finds the controls, containers
and fields that there were at first.  So if nothing is typed into the field of a container, and
clicks that ask for a step have this container or one apart from it, the field holds behind any
history the tally of the steps in the container, from the quantity that it held at first, and its
first text if there was no step. -/
theorem value_run_eq_tallyText (h : p.components = [.stepper s])
    (hcontainer : ¬ s.layout.container.Mentions s.layout.inactiveClass)
    (hmentions : ¬ s.layout.field.Mentions s.layout.inactiveClass)
    (hfield : s.field? p.tree container = some field)
    (hevents : ∀ event ∈ events, s.Respects p.tree container field event) :
    (∀ before, s.SameParts p.tree (p.run before).tree) ∧
      (p.run events).tree.value field = StepAction.tallyText (p.tree.value field)
        (events.filterMap (s.actionIn? p.tree container)) := by
  refine ⟨fun before => ?_, value_run_of_respects h hcontainer hmentions hfield hevents⟩
  exact Stepper.sameParts_of_outline hcontainer hmentions
    (outline_run_of_steppers (steppers_of_stepper h) before)

/-- A page with a stepper of two controls in two containers. -/
def pairPage : Page where
  tree := Stepper.pairTree
  components := [.stepper Stepper.pairStepper]

theorem value_run_eq_tallyText_pair :
    ¬ Stepper.pairStepper.layout.container.Mentions "inactive" ∧
    ¬ Stepper.pairStepper.layout.field.Mentions "inactive" ∧
    Stepper.pairStepper.field? pairPage.tree 0 = some 2 ∧
    (∀ event ∈ [.click 1, .click 4, .typeInto 5 "many", .input 2, .click 4, .click 1],
      Stepper.pairStepper.Respects pairPage.tree 0 2 event) ∧
    (pairPage.run [.click 1, .click 4, .typeInto 5 "many", .input 2, .click 4,
      .click 1]).tree.value 2 = "2" := by
  have hcontainer : ¬ Stepper.pairStepper.layout.container.Mentions "inactive" := by
    simp [Selector.Mentions, Stepper.pairStepper]
  have hmentions : ¬ Stepper.pairStepper.layout.field.Mentions "inactive" := by
    simp [Selector.Mentions, Stepper.pairStepper]
  have hfield : Stepper.pairStepper.field? pairPage.tree 0 = some 2 := by decide +kernel
  have hevents : ∀ event ∈ [.click 1, .click 4, .typeInto 5 "many", .input 2, .click 4, .click 1],
      Stepper.pairStepper.Respects pairPage.tree 0 2 event := by decide +kernel
  refine ⟨hcontainer, hmentions, hfield, hevents, ?_⟩
  rw [(value_run_eq_tallyText rfl hcontainer hmentions hfield hevents).2]
  decide +kernel

end Page
end LiveForm
