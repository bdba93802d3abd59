import LiveForm.Proofs.Page.Dispatch
import LiveForm.Proofs.Tree.Outline

/-!
# Events keep the outline

Slug syncs write values, and steppers write values and their inactive class.  So events keep the
outline of the tree under that class, and whatever is looked up by selectors that do not mention it.

* `Page.steppers`: the steppers of a page, which no event changes (`steppers_run`).
* `Page.view_input`, `Page.view_typeInto`: key releases leave alone what does not depend on values.
* `Page.view_run`: events leave alone what depends neither on values nor on classes.
* `Page.outline_run`: events keep the outline, under the inactive class of all steppers.
* `StepperLayout.IsBlind`: no selector of the layout mentions the inactive class.
* `Stepper.steps_congr`: in trees of one outline a click steps the same field.
-/

namespace LiveForm

/-! ## Components -/

namespace Stepper

variable {s : Stepper} {t u : Tree} {target field container : Handle}

theorem outline_onClick (s : Stepper) (t : Tree) (target : Handle) :
    (s.onClick t target).1.outline s.layout.inactiveClass = t.outline s.layout.inactiveClass :=
  view_onClick (Tree.outline s.layout.inactiveClass) (Tree.outline_setValue _)
    (Tree.outline_addClass _) (Tree.outline_removeClass _) t target

end Stepper

namespace Component

/-- The stepper, if the component is one. -/
def stepper? : Component → Option Stepper
  | .slugSync _ => none
  | .stepper s => some s

theorem stepper?_afterInput (c : Component) (target : Handle) :
    (c.afterInput target).stepper? = c.stepper? := by
  cases c <;> rfl

/-- A key release leaves alone what does not depend on values. -/
theorem view_onInput {β : Type} (view : Tree → β)
    (hview : ∀ t h value, view (t.setValue h value) = view t) (c : Component) (target : Handle)
    (t : Tree) : view (c.onInput target t).2 = view t := by
  rw [c.snd_onInput]
  exact Tree.foldl_eq_of_forall view (fun t h => hview t h _) (c.filledAt target) t

theorem outline_onClick {name : String} {c : Component}
    (h : ∀ s ∈ c.stepper?, s.layout.inactiveClass = name) (target : Handle) (t : Tree) :
    (c.onClick target t).1.outline name = t.outline name := by
  cases c with
  | slugSync s => rfl
  | stepper s =>
    rw [← h s rfl]
    exact s.outline_onClick t target

end Component

/-! ## Pages -/

namespace Page

variable {p : Page} {name : String}

/-- What no key release changes about components stands throughout. -/
theorem filterMap_components_after {β : Type} (view : Component → Option β)
    (hview : ∀ c target, view (c.afterInput target) = view c) (p : Page) (event : Event) :
    (p.after event).components.filterMap view = p.components.filterMap view := by
  have hinput : ∀ (p : Page) (target : Handle),
      (p.input target).components.filterMap view = p.components.filterMap view := by
    intro p target
    rw [components_input, List.filterMap_map]
    exact List.filterMap_congr fun c _ => hview c target
  cases event with
  | input target => exact hinput p target
  | typeInto target text => exact hinput { p with tree := p.tree.setValue target text } target
  | click target => rfl

theorem filterMap_components_run {β : Type} (view : Component → Option β)
    (hview : ∀ c target, view (c.afterInput target) = view c) (p : Page) (events : List Event) :
    (p.run events).components.filterMap view = p.components.filterMap view := by
  induction events generalizing p with
  | nil => rfl
  | cons event events ih => rw [run_cons, ih, filterMap_components_after view hview]

/-- The steppers of the page, in the order of mounting. -/
def steppers (p : Page) : List Stepper := p.components.filterMap Component.stepper?

theorem steppers_after (p : Page) (event : Event) : (p.after event).steppers = p.steppers :=
  p.filterMap_components_after Component.stepper? Component.stepper?_afterInput event

/-- No event changes a stepper. -/
theorem steppers_run (p : Page) (events : List Event) : (p.run events).steppers = p.steppers :=
  p.filterMap_components_run Component.stepper? Component.stepper?_afterInput events

/-- A click goes through the steppers, one behind the other. -/
theorem fst_clickThrough (target : Handle) (cs : List Component) (t : Tree) :
    (clickThrough target cs t).1 =
      (cs.filterMap Component.stepper?).foldl (fun t s => (s.onClick t target).1) t := by
  induction cs generalizing t with
  | nil => rfl
  | cons c cs ih =>
    cases c with
    | slugSync s => exact ih t
    | stepper s => exact ih (s.onClick t target).1

theorem tree_click (p : Page) (target : Handle) :
    (p.click target).1.tree = p.steppers.foldl (fun t s => (s.onClick t target).1) p.tree :=
  fst_clickThrough target p.components p.tree

theorem tree_click_of_steppers {s : Stepper} (h : p.steppers = [s]) (target : Handle) :
    (p.click target).1.tree = (s.onClick p.tree target).1 := by
  rw [tree_click, h, List.foldl_cons, List.foldl_nil]

/-- A key release leaves alone what does not depend on values. -/
theorem view_input {β : Type} (view : Tree → β)
    (hview : ∀ t h value, view (t.setValue h value) = view t) (p : Page) (target : Handle) :
    view (p.input target).tree = view p.tree :=
  view_inputThrough view (fun c _ => c.view_onInput view hview target) p.tree

theorem view_typeInto {β : Type} (view : Tree → β)
    (hview : ∀ t h value, view (t.setValue h value) = view t) (p : Page) (target : Handle)
    (text : String) : view (p.typeInto target text).tree = view p.tree :=
  (view_input view hview { p with tree := p.tree.setValue target text } target).trans (hview ..)

/-- A click leaves alone what depends neither on values nor on classes. -/
theorem view_click {β : Type} (view : Tree → β)
    (hvalue : ∀ t h value, view (t.setValue h value) = view t)
    (hadd : ∀ t h name, view (t.addClass h name) = view t)
    (hremove : ∀ t h name, view (t.removeClass h name) = view t) (p : Page) (target : Handle) :
    view (p.click target).1.tree = view p.tree := by
  refine view_clickThrough view (fun c _ t => ?_) p.tree
  cases c with
  | slugSync s => rfl
  | stepper s =>
    exact s.view_onClick view hvalue (fun t h => hadd t h _) (fun t h => hremove t h _) t target

/-- **Events leave alone what depends neither on values nor on classes.** -/
theorem view_run {β : Type} (view : Tree → β)
    (hvalue : ∀ t h value, view (t.setValue h value) = view t)
    (hadd : ∀ t h name, view (t.addClass h name) = view t)
    (hremove : ∀ t h name, view (t.removeClass h name) = view t) (p : Page) (events : List Event) :
    view (p.run events).tree = view p.tree := by
  induction events generalizing p with
  | nil => rfl
  | cons event events ih =>
    rw [run_cons, ih]
    cases event with
    | input target => exact view_input view hvalue p target
    | typeInto target text => exact view_typeInto view hvalue p target text
    | click target => exact view_click view hvalue hadd hremove p target

/-- An event keeps the outline, under the inactive class of all steppers. -/
theorem outline_after (h : ∀ s ∈ p.steppers, s.layout.inactiveClass = name) (event : Event) :
    (p.after event).tree.outline name = p.tree.outline name := by
  cases event with
  | input target => exact view_input (Tree.outline name) (Tree.outline_setValue name) p target
  | typeInto target text =>
    exact view_typeInto (Tree.outline name) (Tree.outline_setValue name) p target text
  | click target =>
    refine view_clickThrough (Tree.outline name) (fun c hc => ?_) p.tree
    refine Component.outline_onClick (fun s hs => h s ?_) target
    exact List.mem_filterMap.2 ⟨c, hc, hs⟩

/-- **Events keep the outline**, under the inactive class of all steppers. -/
theorem outline_run (h : ∀ s ∈ p.steppers, s.layout.inactiveClass = name) (events : List Event) :
    (p.run events).tree.outline name = p.tree.outline name := by
  induction events generalizing p with
  | nil => rfl
  | cons event events ih =>
    rw [run_cons, ih (by rwa [steppers_after]), outline_after h]

theorem outline_run_of_steppers {s : Stepper} (h : p.steppers = [s]) (events : List Event) :
    (p.run events).tree.outline s.layout.inactiveClass =
      p.tree.outline s.layout.inactiveClass := by
  refine outline_run (fun r hr => ?_) events
  rw [h, List.mem_singleton] at hr
  rw [hr]

end Page

/-! ## Layouts that do not mention the inactive class -/

/-- No selector of the layout mentions the inactive class. -/
structure StepperLayout.IsBlind (l : StepperLayout) : Prop where
  container : ¬ l.container.Mentions l.inactiveClass
  field : ¬ l.field.Mentions l.inactiveClass
  decrease : ¬ l.decrease.Mentions l.inactiveClass

namespace Stepper

variable {s : Stepper} {t u : Tree}

theorem action?_congr (ho : u.outline s.layout.inactiveClass = t.outline s.layout.inactiveClass)
    (target : Handle) : s.action? u target = s.action? t target := by
  rw [action?, action?, Tree.attribute?_congr ho]

theorem container?_congr (hs : ¬ s.layout.container.Mentions s.layout.inactiveClass)
    (ho : u.outline s.layout.inactiveClass = t.outline s.layout.inactiveClass) (control : Handle) :
    s.container? u control = s.container? t control := by
  rw [container?, container?, Tree.closest?_congr ho hs, Tree.parent?_congr ho]

theorem field?_congr (hs : ¬ s.layout.field.Mentions s.layout.inactiveClass)
    (ho : u.outline s.layout.inactiveClass = t.outline s.layout.inactiveClass)
    (container : Handle) : s.field? u container = s.field? t container := by
  rw [field?, field?, Tree.queryWithin_congr ho hs]

/-- **In trees of one outline a click steps the same field.** -/
theorem steps_congr (hs : s.layout.IsBlind)
    (ho : u.outline s.layout.inactiveClass = t.outline s.layout.inactiveClass)
    (target field : Handle) : s.Steps u target field ↔ s.Steps t target field := by
  have hfield : s.field? u = s.field? t := funext (field?_congr hs.field ho)
  rw [Steps, Steps, action?_congr ho, container?_congr hs.container ho, hfield]

end Stepper
end LiveForm
