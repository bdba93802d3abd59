import LiveForm.Proofs.Results
import LiveForm.Scenario.Replay

/-!
# What events do to values

An event goes through the components of a page.  Here is what each of them does to the values of
elements, and from that what an event does.

* `Component.afterInput`: a key release changes a component without a look at the tree, and so
  `fst_inputThrough` gives all components behind a key release at once.
* `Component.snd_onInput`: a key release fills some fields, `Component.filledAt`, with one slug.
* `Stepper.view_mark`: marking controls touches nothing but the inactive class.
* `Stepper.Steps`, `Page.Steps`: when a click steps the quantity in a field.
* `Page.value_click`: a click changes no value but by such a step.
* `Page.size_after`: events keep the size of the tree.
* `Page.play_eq_ok_iff`: what a step of a scenario did and reported if it could be done.
* `Page.fst_doStep`, `Page.exists_run_of_playAll`: steps of a scenario are histories of events.
-/

namespace LiveForm

/-! ## Values in a tree -/

namespace Tree

variable {t : Tree} {e : Handle}

@[simp] theorem value_addClass (t : Tree) (h i : Handle) (name : String) :
    (t.addClass h name).value i = t.value i := by
  by_cases hi : h = i <;> cases he : t.element? i <;> simp [value, hi, he, Element.addClass]

@[simp] theorem value_removeClass (t : Tree) (h i : Handle) (name : String) :
    (t.removeClass h name).value i = t.value i := by
  by_cases hi : h = i <;> cases he : t.element? i <;> simp [value, hi, he, Element.removeClass]

/-- What no single change touches is not touched by changes in many places. -/
theorem foldl_eq_of_forall {β : Type} (view : Tree → β) {change : Tree → Handle → Tree}
    (hc : ∀ t h, view (change t h) = view t) (handles : List Handle) (t : Tree) :
    view (handles.foldl change t) = view t := by
  induction handles generalizing t with
  | nil => rfl
  | cons h handles ih => rw [List.foldl_cons, ih, hc]

/-- Queries find elements of the tree. -/
theorem lt_size_of_mem_query {s : Selector} (h : e ∈ t.query s) : e < t.size :=
  List.mem_range.1 (List.mem_filter.1 h).1

end Tree

/-! ## Slug syncs -/

namespace SlugSync

theorem fst_onInput (s : SlugSync) (t : Tree) (target : Handle) :
    (s.onInput t target).1 = s.afterInput target := by
  unfold onInput
  simp only
  split <;> rfl

theorem snd_onInput (s : SlugSync) (t : Tree) (target : Handle) :
    (s.onInput t target).2 =
      if s.sources.contains target && !(s.afterInput target).edited then
        fill t s.destinations (Slug.plain (t.value target))
      else t := by
  exact apply_ite Prod.snd _ _ _

/-- Filling leaves the values of other fields alone. -/
theorem value_fill_of_not_mem (t : Tree) {fields : List Handle} {e : Handle} (h : e ∉ fields)
    (value : String) : (fill t fields value).value e = t.value e := by
  rw [Tree.value, element?_fill, if_neg h, Tree.value]

end SlugSync

/-! ## Steppers -/

namespace Stepper

variable {s : Stepper} {t : Tree} {target field e : Handle}

/-- A click on `target` steps the quantity in `field`. -/
def Steps (s : Stepper) (t : Tree) (target field : Handle) : Prop :=
  (s.action? t target).isSome ∧ (s.container? t target).bind (s.field? t) = some field

/-- Marking leaves alone what does not depend on the inactive class. -/
theorem view_mark {β : Type} (view : Tree → β)
    (hadd : ∀ t h, view (t.addClass h s.layout.inactiveClass) = view t)
    (hremove : ∀ t h, view (t.removeClass h s.layout.inactiveClass) = view t)
    (t : Tree) (container : Handle) (a : StepAction) (quantity : Nat) :
    view (s.mark t container a quantity) = view t := by
  unfold mark
  split
  · cases a with
    | increase => rfl
    | decrease => exact Tree.foldl_eq_of_forall view hadd _ t
  · exact Tree.foldl_eq_of_forall view hremove _ t

@[simp] theorem size_mark (s : Stepper) (t : Tree) (container : Handle) (a : StepAction)
    (quantity : Nat) : (s.mark t container a quantity).size = t.size :=
  view_mark Tree.size (fun _ _ => Tree.size_addClass ..) (fun _ _ => Tree.size_removeClass ..) ..

@[simp] theorem value_mark (s : Stepper) (t : Tree) (container : Handle) (a : StepAction)
    (quantity : Nat) (e : Handle) : (s.mark t container a quantity).value e = t.value e :=
  view_mark (·.value e) (fun _ _ => Tree.value_addClass ..)
    (fun _ _ => Tree.value_removeClass ..) ..

/-- A click leaves alone what depends neither on values nor on the inactive class. -/
theorem view_onClick {β : Type} (view : Tree → β)
    (hvalue : ∀ t h value, view (t.setValue h value) = view t)
    (hadd : ∀ t h, view (t.addClass h s.layout.inactiveClass) = view t)
    (hremove : ∀ t h, view (t.removeClass h s.layout.inactiveClass) = view t)
    (t : Tree) (target : Handle) : view (s.onClick t target).1 = view t := by
  unfold onClick
  split
  · unfold step
    split
    · rfl
    · split
      · rfl
      · exact (hvalue ..).trans (view_mark view hadd hremove ..)
  · rfl

/-- A step changes no value but that of the quantity field. -/
theorem value_step {control : Handle} (h : (s.container? t control).bind (s.field? t) ≠ some e)
    (a : StepAction) : (s.step t control a).value e = t.value e := by
  unfold step
  split
  · rfl
  · next container hc =>
    split
    · rfl
    · next field hf =>
      have hne : field ≠ e := by
        rintro rfl
        exact h (by rw [hc, Option.bind_some, hf])
      simp only
      rw [Tree.value_setValue_of_ne _ hne, value_mark]

@[simp] theorem size_onClick (s : Stepper) (t : Tree) (target : Handle) :
    (s.onClick t target).1.size = t.size :=
  view_onClick Tree.size (fun _ _ _ => Tree.size_setValue ..) (fun _ _ => Tree.size_addClass ..)
    (fun _ _ => Tree.size_removeClass ..) t target

theorem value_onClick (h : ¬ s.Steps t target e) : (s.onClick t target).1.value e = t.value e := by
  unfold onClick
  split
  · next a ha =>
    refine value_step (fun hf => h ⟨?_, hf⟩) a
    rw [ha, Option.isSome_some]
  · rfl

end Stepper

/-! ## Components -/

namespace Component

variable {c : Component} {t : Tree} {target field e : Handle}

/-- The component behind a key release in `target`. -/
def afterInput (target : Handle) : Component → Component
  | .slugSync s => .slugSync (s.afterInput target)
  | .stepper s => .stepper s

/-- A click on `target` steps the quantity in `field`. -/
def Steps (t : Tree) (target field : Handle) : Component → Prop
  | .slugSync _ => False
  | .stepper s => s.Steps t target field

theorem fst_onInput (c : Component) (target : Handle) (t : Tree) :
    (c.onInput target t).1 = c.afterInput target := by
  cases c with
  | slugSync s => exact congrArg Component.slugSync (s.fst_onInput t target)
  | stepper s => rfl

/-- The fields into which a component writes a slug when a key is released in `target`. -/
def filledAt (target : Handle) : Component → List Handle
  | .slugSync s =>
      if s.sources.contains target && !(s.afterInput target).edited then s.destinations else []
  | .stepper _ => []

/-- A key release fills some fields with the slug of the value in which it is released. -/
theorem snd_onInput (c : Component) (target : Handle) (t : Tree) :
    (c.onInput target t).2 =
      SlugSync.fill t (c.filledAt target) (Slug.plain (t.value target)) := by
  cases c with
  | slugSync s =>
    show (s.onInput t target).2 = SlugSync.fill t (ite _ _ _) _
    rw [SlugSync.snd_onInput]
    split
    · rfl
    · rfl
  | stepper s => rfl

@[simp] theorem size_onInput (c : Component) (target : Handle) (t : Tree) :
    (c.onInput target t).2.size = t.size := by
  rw [c.snd_onInput, SlugSync.size_fill]

@[simp] theorem size_onClick (c : Component) (target : Handle) (t : Tree) :
    (c.onClick target t).1.size = t.size := by
  cases c with
  | slugSync s => rfl
  | stepper s => exact s.size_onClick t target

theorem value_onClick (h : ¬ c.Steps t target e) : (c.onClick target t).1.value e = t.value e := by
  cases c with
  | slugSync s => rfl
  | stepper s => exact Stepper.value_onClick h

end Component

/-! ## Pages -/

namespace Page

variable {p q : Page} {e : Handle}

theorem eq_of_parts_eq (htree : p.tree = q.tree) (hcomponents : p.components = q.components) :
    p = q := by
  cases p
  cases q
  cases htree
  cases hcomponents
  rfl

/-- A click on `target` that goes through components steps the quantity in `field`. -/
def StepsThrough (target field : Handle) : List Component → Tree → Prop
  | [], _ => False
  | c :: cs, t => c.Steps t target field ∨ StepsThrough target field cs (c.onClick target t).1

/-- A click on `target` steps the quantity in `field`. -/
def Steps (p : Page) (target field : Handle) : Prop :=
  StepsThrough target field p.components p.tree

theorem fst_inputThrough (target : Handle) (cs : List Component) (t : Tree) :
    (inputThrough target cs t).1 = cs.map (·.afterInput target) := by
  induction cs generalizing t with
  | nil => rfl
  | cons c cs ih =>
    rw [List.map_cons, ← ih (c.onInput target t).2, ← c.fst_onInput target t]
    rfl

/-- What no component changes at a key release is not changed by all of them. -/
theorem view_inputThrough {β : Type} (view : Tree → β) {target : Handle} {cs : List Component}
    (h : ∀ c ∈ cs, ∀ t, view (c.onInput target t).2 = view t) (t : Tree) :
    view (inputThrough target cs t).2 = view t := by
  induction cs generalizing t with
  | nil => rfl
  | cons c cs ih =>
    rw [List.forall_mem_cons] at h
    exact (ih h.2 _).trans (h.1 t)

/-- What no component changes at a click is not changed by all of them. -/
theorem view_clickThrough {β : Type} (view : Tree → β) {target : Handle} {cs : List Component}
    (h : ∀ c ∈ cs, ∀ t, view (c.onClick target t).1 = view t) (t : Tree) :
    view (clickThrough target cs t).1 = view t := by
  induction cs generalizing t with
  | nil => rfl
  | cons c cs ih =>
    rw [List.forall_mem_cons] at h
    exact (ih h.2 _).trans (h.1 t)

theorem value_clickThrough {target : Handle} {cs : List Component} {t : Tree}
    (h : ¬ StepsThrough target e cs t) : (clickThrough target cs t).1.value e = t.value e := by
  induction cs generalizing t with
  | nil => rfl
  | cons c cs ih =>
    rw [StepsThrough, not_or] at h
    exact (ih h.2).trans (Component.value_onClick h.1)

@[simp] theorem components_input (p : Page) (target : Handle) :
    (p.input target).components = p.components.map (·.afterInput target) :=
  fst_inputThrough ..

/-- A click changes no value but that of a quantity field that it steps. -/
theorem value_click {target : Handle} (h : ¬ p.Steps target e) :
    (p.click target).1.tree.value e = p.tree.value e :=
  value_clickThrough h

theorem size_input (p : Page) (target : Handle) : (p.input target).tree.size = p.tree.size :=
  view_inputThrough Tree.size (fun c _ t => c.size_onInput target t) p.tree

theorem size_typeInto (p : Page) (target : Handle) (text : String) :
    (p.typeInto target text).tree.size = p.tree.size :=
  (size_input ..).trans (Tree.size_setValue ..)

/-- Events keep the size of the tree. -/
theorem size_after (p : Page) (event : Event) : (p.after event).tree.size = p.tree.size := by
  cases event with
  | input target => exact p.size_input target
  | typeInto target text => exact p.size_typeInto target text
  | click target =>
    exact view_clickThrough Tree.size (fun c _ t => c.size_onClick target t) p.tree

end Page

/-! ## Steps of a scenario -/

/-- What a step of a scenario does to an element that it picks. -/
def ScenarioStep.event : ScenarioStep → Handle → Event
  | .input _ value, h => .typeInto h value
  | .keyUp _, h => .input h
  | .click _, h => .click h

namespace Page

variable {p q : Page} {number : Nat} {step : ScenarioStep} {steps : List ScenarioStep}
  {outcomes : List StepOutcome}

theorem fst_clickAll (p : Page) (targets : List Handle) :
    (p.clickAll targets).1 = p.run (targets.map .click) := by
  induction targets generalizing p with
  | nil => rfl
  | cons h targets ih => exact ih (p.click h).1

/-- A step of a scenario is a history of events, one for each element that it picks. -/
theorem fst_doStep (p : Page) (targets : List Handle) (step : ScenarioStep) :
    (p.doStep targets step).1 = p.run (targets.map step.event) := by
  cases step with
  | input target value =>
    rw [run, List.foldl_map]
    rfl
  | keyUp target =>
    rw [run, List.foldl_map]
    rfl
  | click target => exact p.fst_clickAll targets

/-- A step that can be done has a selector that picks something, and reports what it did to all that
is picked. -/
theorem play_eq_ok_iff {r : Page × StepOutcome} :
    p.play number step = .ok r ↔
      ∃ selector, Selector.parse step.target = .ok selector ∧ p.tree.query selector ≠ [] ∧
        r = ((p.doStep (p.tree.query selector) step).1,
          { step := number
            kind := step.kind
            target := step.target
            matched := (p.tree.query selector).filterMap
              (p.doStep (p.tree.query selector) step).1.tree.label?
            defaultAction := (p.doStep (p.tree.query selector) step).2 }) := by
  rw [play, bind_eq_ok_iff]
  refine exists_congr fun selector => ?_
  rw [mapError_eq_ok_iff]
  refine and_congr_right fun _ => ?_
  simp only
  split
  · next hnone =>
    constructor
    · intro h
      cases h
    · rintro ⟨hsome, -⟩
      exact absurd (List.isEmpty_iff.1 hnone) hsome
  · next hsome =>
    constructor
    · intro h
      exact ⟨fun hnone => hsome (List.isEmpty_iff.2 hnone), (Except.ok.inj h).symm⟩
    · rintro ⟨-, rfl⟩
      rfl

/-- A step that can be done does its part to all that its selector picks. -/
theorem play_eq_ok {outcome : StepOutcome} (h : p.play number step = .ok (q, outcome)) :
    ∃ selector, Selector.parse step.target = .ok selector ∧ p.tree.query selector ≠ [] ∧
      q = (p.doStep (p.tree.query selector) step).1 := by
  obtain ⟨selector, hselector, hsome, hr⟩ := play_eq_ok_iff.1 h
  exact ⟨selector, hselector, hsome, congrArg Prod.fst hr⟩

/-- What steps do that can be done is a history of events. -/
theorem exists_run_of_playAll (h : p.playAll number steps = .ok (q, outcomes)) :
    ∃ events, q = p.run events := by
  induction steps generalizing p number outcomes with
  | nil =>
    obtain ⟨rfl, -⟩ := Prod.mk.inj (Except.ok.inj h)
    exact ⟨[], rfl⟩
  | cons step steps ih =>
    obtain ⟨⟨r, outcome⟩, hfirst, h⟩ := bind_eq_ok_iff.1 h
    obtain ⟨⟨q', rest⟩, hrest, h⟩ := bind_eq_ok_iff.1 h
    obtain ⟨rfl, -⟩ := Prod.mk.inj (Except.ok.inj h)
    obtain ⟨selector, -, -, hr⟩ := play_eq_ok hfirst
    obtain ⟨events, hq⟩ := ih hrest
    refine ⟨(p.tree.query selector).map step.event ++ events, ?_⟩
    rw [run_append, ← fst_doStep, ← hr, hq]

end Page
end LiveForm
