import LiveForm.Proofs.Page.History
import LiveForm.Proofs.Stepper.Fits

/-!
# What an inactive control tells

A decrease control gets the inactive class when a decrease ends at zero, and loses it at the next
step above zero.  So the class tells where the last step ended, and that is not the same as what
stands in the quantity field: a text can be typed there, and no stepper takes notice of it.

* `Page.MayFill`: the events other than clicks that may put a quantity into a field.
* `Page.Carries`: a page has one stepper, which fits its tree; no event changes that.
* `Page.inactive_iff_last_step_left_zero`: on such a page a control is inactive exactly if the last
  step of its container ended at zero; and the quantity is still zero unless something else has been
  written into the field since then.
* `Page.inactive_above_zero`: so a control can be inactive while the quantity is five.
-/

namespace LiveForm

/-! ## What slug syncs may write -/

namespace Component

variable {c : Component} {t : Tree} {target field : Handle}

/-- The sources and the destinations, if the component is a slug sync. -/
def syncFields? : Component → Option (List Handle × List Handle)
  | .slugSync s => some (s.sources, s.destinations)
  | .stepper _ => none

theorem syncFields?_afterInput (c : Component) (target : Handle) :
    (c.afterInput target).syncFields? = c.syncFields? := by
  cases c <;> rfl

/-- A key release changes the value of a field only through a slug sync from the one to the
other. -/
theorem value_onInput_of_not_sync (h : ∀ f ∈ c.syncFields?, target ∈ f.1 → field ∉ f.2)
    (t : Tree) : (c.onInput target t).2.value field = t.value field := by
  rw [c.snd_onInput]
  refine SlugSync.value_fill_of_not_mem t (fun hfield => ?_) _
  cases c with
  | slugSync s =>
    rw [filledAt] at hfield
    split at hfield
    · next hwrites =>
      rw [Bool.and_eq_true, List.contains_iff_mem] at hwrites
      exact h (s.sources, s.destinations) rfl hwrites.1 hfield
    · cases hfield
  | stepper s => cases hfield

end Component

namespace Page

variable {p : Page} {s : Stepper} {own field e : Handle} {event : Event}

/-- The sources and the destinations of each slug sync of the page, in the order of mounting. -/
def syncFields (p : Page) : List (List Handle × List Handle) :=
  p.components.filterMap Component.syncFields?

theorem syncFields_after (p : Page) (event : Event) :
    (p.after event).syncFields = p.syncFields :=
  p.filterMap_components_after Component.syncFields? Component.syncFields?_afterInput event

theorem syncFields_run (p : Page) (events : List Event) :
    (p.run events).syncFields = p.syncFields :=
  p.filterMap_components_run Component.syncFields? Component.syncFields?_afterInput events

/-- The event may put a quantity other than zero into a field, and is no click: it types one there,
or it releases a key in a source of a slug sync of which the field is a destination. -/
def MayFill (p : Page) (field : Handle) (event : Event) : Prop :=
  (∃ text, event = .typeInto field text ∧ readQuantity text ≠ 0) ∨
    ∃ source, event.keyIn? = some source ∧ ∃ f ∈ p.syncFields, source ∈ f.1 ∧ field ∈ f.2

theorem value_input_of_not_sync {target : Handle}
    (h : ∀ f ∈ p.syncFields, target ∈ f.1 → field ∉ f.2) :
    (p.input target).tree.value field = p.tree.value field := by
  refine view_inputThrough (·.value field) (fun c hc => ?_) p.tree
  refine Component.value_onInput_of_not_sync fun f hf => h f ?_
  exact List.mem_filterMap.2 ⟨c, hc, hf⟩

/-! ## Pages with one stepper -/

/-- The page has one stepper, and the stepper fits its tree. -/
structure Carries (p : Page) (s : Stepper) : Prop where
  one : p.steppers = [s]
  fits : s.Fits p.tree

theorem Carries.outline_run (h : p.Carries s) (events : List Event) :
    (p.run events).tree.outline s.layout.inactiveClass =
      p.tree.outline s.layout.inactiveClass :=
  outline_run_of_steppers h.one events

theorem Carries.run (h : p.Carries s) (events : List Event) : (p.run events).Carries s where
  one := (p.steppers_run events).trans h.one
  fits := h.fits.congr (h.outline_run events)

theorem Carries.tree_click (h : p.Carries s) (target : Handle) :
    (p.click target).1.tree = (s.onClick p.tree target).1 :=
  tree_click_of_steppers h.one target

/-- What the stepper looks up is the same behind a history. -/
theorem Carries.steppedBy_run (h : p.Carries s) (events : List Event) (field : Handle) :
    s.steppedBy (p.run events).tree field = s.steppedBy p.tree field :=
  Stepper.steppedBy_congr h.fits.blind (h.outline_run events) field

theorem Carries.field?_run (h : p.Carries s) (events : List Event) (container : Handle) :
    s.field? (p.run events).tree container = s.field? p.tree container :=
  Stepper.field?_congr h.fits.blind.field (h.outline_run events) container

theorem Carries.isControlIn_run (h : p.Carries s) (he : s.IsControlIn p.tree own e)
    (events : List Event) : s.IsControlIn (p.run events).tree own e :=
  he.congr h.fits.blind (h.outline_run events)

/-! ## One event -/

/-- Behind an event that steps the quantity of its container a decrease control is inactive exactly
if the quantity is zero. -/
theorem Carries.hasClass_after_of_steppedBy (h : p.Carries s) (he : s.IsControlIn p.tree own e)
    (hf : s.field? p.tree own = some field) (hstep : s.steppedBy p.tree field event = true) :
    (p.after event).tree.hasClass e s.layout.inactiveClass = true ↔
      readQuantity ((p.after event).tree.value field) = 0 := by
  cases event with
  | input target => cases hstep
  | typeInto target text => cases hstep
  | click target =>
    show (p.click target).1.tree.hasClass e s.layout.inactiveClass = true ↔
      readQuantity ((p.click target).1.tree.value field) = 0
    rw [h.tree_click]
    exact h.fits.hasClass_onClick_of_steps he hf (of_decide_eq_true hstep)

/-- All other events leave the control as it is. -/
theorem Carries.hasClass_after_of_not_steppedBy (h : p.Carries s)
    (he : s.IsControlIn p.tree own e)
    (hstep : ∀ field, s.field? p.tree own = some field →
      s.steppedBy p.tree field event = false) :
    (p.after event).tree.hasClass e s.layout.inactiveClass =
      p.tree.hasClass e s.layout.inactiveClass := by
  cases event with
  | input target => exact view_input (·.hasClass e _) (Tree.hasClass_setValue _ e) p target
  | typeInto target text =>
    exact view_typeInto (·.hasClass e _) (Tree.hasClass_setValue _ e) p target text
  | click target =>
    show (p.click target).1.tree.hasClass e s.layout.inactiveClass = _
    rw [h.tree_click]
    exact h.fits.hasClass_onClick_of_not_steps he fun field hf =>
      of_decide_eq_false (hstep field hf)

/-- A quantity of zero stays zero at an event that does not step it and cannot fill the field. -/
theorem Carries.readQuantity_after (h : p.Carries s) (hfield : field < p.tree.size)
    (hstep : s.steppedBy p.tree field event = false) (hfill : ¬ p.MayFill field event)
    (hzero : readQuantity (p.tree.value field) = 0) :
    readQuantity ((p.after event).tree.value field) = 0 := by
  rw [MayFill, not_or, not_exists, not_exists] at hfill
  have hsync : ∀ source, event.keyIn? = some source →
      ∀ f ∈ p.syncFields, source ∈ f.1 → field ∉ f.2 :=
    fun source hkey f hf hin hout => hfill.2 source ⟨hkey, f, hf, hin, hout⟩
  cases event with
  | input target =>
    show readQuantity ((p.input target).tree.value field) = 0
    rwa [value_input_of_not_sync (hsync target rfl)]
  | typeInto target text =>
    have hvalue : (p.typeInto target text).tree.value field =
        (p.tree.setValue target text).value field :=
      value_input_of_not_sync (p := { p with tree := p.tree.setValue target text })
        (hsync target rfl)
    show readQuantity ((p.typeInto target text).tree.value field) = 0
    rw [hvalue]
    by_cases ht : target = field
    · subst ht
      rw [Tree.value_setValue_self _ hfield]
      exact Decidable.not_not.1 fun hne => hfill.1 text ⟨rfl, hne⟩
    · rwa [Tree.value_setValue_of_ne _ ht]
  | click target =>
    have hs : ¬ s.Steps p.tree target field := of_decide_eq_false hstep
    show readQuantity ((p.click target).1.tree.value field) = 0
    rwa [h.tree_click, Stepper.value_onClick hs]

/-! ## Whole histories -/

open Event

/-- A decrease control of a container without a field stays as it is. -/
theorem Carries.hasClass_run_of_field?_eq_none (h : p.Carries s)
    (he : s.IsControlIn p.tree own e) (hf : s.field? p.tree own = none) (events : List Event) :
    (p.run events).tree.hasClass e s.layout.inactiveClass =
      p.tree.hasClass e s.layout.inactiveClass := by
  induction events generalizing p with
  | nil => rfl
  | cons event events ih =>
    have hone : (p.after event).Carries s := h.run [event]
    have hcontrol : s.IsControlIn (p.after event).tree own e := h.isControlIn_run he [event]
    have hfield : s.field? (p.after event).tree own = none := (h.field?_run [event] own).trans hf
    rw [run_cons, ih hone hcontrol hfield]
    refine h.hasClass_after_of_not_steppedBy he fun field hsome => ?_
    rw [hf] at hsome
    cases hsome

/-- A decrease control that was active at first is inactive behind a history exactly if there was a
step of its container and the last one ended at zero.  By induction on the history from its end,
since the last step decides. -/
theorem Carries.hasClass_run_iff (h : p.Carries s) (he : s.IsControlIn p.tree own e)
    (hactive : p.tree.hasClass e s.layout.inactiveClass = false)
    (hf : s.field? p.tree own = some field) (events : List Event) :
    (p.run events).tree.hasClass e s.layout.inactiveClass = true ↔
      upToLast (s.steppedBy p.tree field) events ≠ [] ∧
        readQuantity
          ((p.run (upToLast (s.steppedBy p.tree field) events)).tree.value field) = 0 := by
  induction events using List.reverseRecOn with
  | nil => simp [hactive, upToLast]
  | append_singleton events event ih =>
    have hone : (p.run events).Carries s := h.run events
    have hcontrol : s.IsControlIn (p.run events).tree own e := h.isControlIn_run he events
    have hfield : s.field? (p.run events).tree own = some field :=
      (h.field?_run events own).trans hf
    have hsteps := h.steppedBy_run events field
    have hrun : p.run (events ++ [event]) = (p.run events).after event :=
      p.run_append events [event]
    cases hevent : s.steppedBy p.tree field event with
    | true =>
      rw [upToLast_concat_of_pos hevent, hrun]
      rw [← hsteps] at hevent
      rw [hone.hasClass_after_of_steppedBy hcontrol hfield hevent]
      simp
    | false =>
      rw [upToLast_concat_of_neg hevent, hrun, ← ih]
      rw [← hsteps] at hevent
      rw [hone.hasClass_after_of_not_steppedBy hcontrol fun field' hfield' => ?_]
      rw [hfield, Option.some_inj] at hfield'
      rwa [← hfield']

/-- A decrease control that was active at first is inactive exactly if its container has a field, a
click has stepped the quantity there and the last one to do so left it at zero. -/
theorem Carries.hasClass_run_iff_exists (h : p.Carries s) (he : s.IsControlIn p.tree own e)
    (hactive : p.tree.hasClass e s.layout.inactiveClass = false) (events : List Event) :
    (p.run events).tree.hasClass e s.layout.inactiveClass = true ↔
      ∃ field, s.field? p.tree own = some field ∧
        upToLast (s.steppedBy p.tree field) events ≠ [] ∧
        readQuantity
          ((p.run (upToLast (s.steppedBy p.tree field) events)).tree.value field) = 0 := by
  constructor
  · intro hinactive
    cases hf : s.field? p.tree own with
    | none =>
      rw [h.hasClass_run_of_field?_eq_none he hf, hactive] at hinactive
      cases hinactive
    | some field => exact ⟨field, rfl, (h.hasClass_run_iff he hactive hf events).1 hinactive⟩
  · rintro ⟨field, hf, hlast⟩
    exact (h.hasClass_run_iff he hactive hf events).2 hlast

/-- A quantity of zero is still zero behind a history that does not step it and cannot fill the
field. -/
theorem Carries.readQuantity_run (h : p.Carries s) (hfield : field < p.tree.size)
    (hzero : readQuantity (p.tree.value field) = 0)
    {events : List Event} (hstep : ∀ event ∈ events, s.steppedBy p.tree field event = false)
    (hfill : ∀ event ∈ events, ¬ p.MayFill field event) :
    readQuantity ((p.run events).tree.value field) = 0 := by
  induction events generalizing p with
  | nil => exact hzero
  | cons event events ih =>
    rw [List.forall_mem_cons] at hstep hfill
    have hone : (p.after event).Carries s := h.run [event]
    have hsteps : s.steppedBy (p.after event).tree field = s.steppedBy p.tree field :=
      h.steppedBy_run [event] field
    have hsize : field < (p.after event).tree.size := by rwa [size_after]
    have hstill := h.readQuantity_after hfield hstep.1 hfill.1 hzero
    refine ih hone hsize hstill ?_ ?_
    · rw [hsteps]
      exact hstep.2
    · intro later hlater
      rw [MayFill, syncFields_after]
      exact hfill.2 later hlater

/-- A quantity that the last step left at zero is still zero at the end, unless something has been
written into the field since then. -/
theorem Carries.readQuantity_run_or_mayFill (h : p.Carries s) (hfield : field < p.tree.size)
    (events : List Event)
    (hzero : readQuantity
      ((p.run (upToLast (s.steppedBy p.tree field) events)).tree.value field) = 0) :
    readQuantity ((p.run events).tree.value field) = 0 ∨
      ∃ event ∈ sinceLast (s.steppedBy p.tree field) events, p.MayFill field event := by
  by_cases hfill : ∃ event ∈ sinceLast (s.steppedBy p.tree field) events, p.MayFill field event
  · exact .inr hfill
  · refine .inl ?_
    rw [← upToLast_append_sinceLast (s.steppedBy p.tree field) events, run_append]
    have ho := h.outline_run (upToLast (s.steppedBy p.tree field) events)
    have hsize : field < (p.run (upToLast (s.steppedBy p.tree field) events)).tree.size := by
      rwa [Tree.size_congr ho]
    refine (h.run _).readQuantity_run hsize hzero (fun event hevent => ?_)
      (fun event hevent hmay => hfill ⟨event, hevent, ?_⟩)
    · rw [h.steppedBy_run]
      exact test_of_mem_sinceLast hevent
    · rwa [MayFill, syncFields_run] at hmay

/-- **What an inactive control tells.**  On a page with one stepper that fits, on which no element
has the inactive class at first, a decrease control in a container is inactive behind a history
exactly if a click has stepped the quantity of the container and the last one to do so left it at
zero.  The quantity of an inactive control is still zero, unless since that click something else has
been written into the field. -/
theorem inactive_iff_last_step_left_zero (hone : p.steppers = [s]) (hfits : s.Fits p.tree)
    (hactive : ∀ h, p.tree.hasClass h s.layout.inactiveClass = false) (events : List Event)
    {container control : Handle}
    (hcontainer : (p.run events).tree.picks s.layout.container container = true)
    (hcontrol : control ∈ (p.run events).tree.queryWithin container s.layout.decrease) :
    ((p.run events).tree.hasClass control s.layout.inactiveClass = true ↔
      ∃ field, s.field? (p.run events).tree container = some field ∧
        upToLast (s.steppedBy p.tree field) events ≠ [] ∧
        readQuantity
          ((p.run (upToLast (s.steppedBy p.tree field) events)).tree.value field) = 0) ∧
    ((p.run events).tree.hasClass control s.layout.inactiveClass = true →
      ∃ field, s.field? (p.run events).tree container = some field ∧
        (readQuantity ((p.run events).tree.value field) = 0 ∨
          ∃ event ∈ sinceLast (s.steppedBy p.tree field) events, p.MayFill field event)) := by
  have h : p.Carries s := ⟨hone, hfits⟩
  have ho := h.outline_run events
  have he : s.IsControlIn p.tree container control :=
    Stepper.IsControlIn.congr ⟨hcontainer, hcontrol⟩ hfits.blind ho.symm
  have hiff := h.hasClass_run_iff_exists he (hactive control) events
  rw [h.field?_run]
  refine ⟨hiff, fun hinactive => ?_⟩
  obtain ⟨field, hf, -, hzero⟩ := hiff.1 hinactive
  exact ⟨field, hf, h.readQuantity_run_or_mayFill (Stepper.field_lt_size hf) events hzero⟩

/-! ## A typed quantity -/

/-- A stepper of the default layout on a single control. -/
def widgetStepper : Stepper where
  controls := [1]
  layout :=
    { container := ⟨".quantity", [{ classes := ["quantity"] }]⟩
      field := ⟨"input", [{ tag := some "input" }]⟩
      decrease := ⟨"[data-action=decrease]",
        [{ attributes := [⟨"data-action", some "decrease"⟩] }]⟩
      actionAttribute := "data-action"
      inactiveClass := "inactive" }

/-- A container with a decrease control and a quantity field. -/
def widget : Page where
  tree := ((Tree.empty.append none { tag := "div", classes := .ofList ["quantity"] }).append
    (some 0) { tag := "a", attributes := [("data-action", "decrease")] }).append
    (some 0) { tag := "input", value := "0" }
  components := [.stepper widgetStepper]

theorem fits_widget : widgetStepper.Fits widget.tree where
  blind := by
    constructor <;> simp [Selector.Mentions, widgetStepper]
  apart := by
    intro inner hinner
    have hthree : ∀ inner < 3, widget.tree.picks widgetStepper.layout.container inner = true →
        ∀ outer ∈ widget.tree.ancestors inner,
          widget.tree.picks widgetStepper.layout.container outer = false := by
      decide +kernel
    exact hthree inner (Tree.lt_size_of_any hinner) hinner
  enclosed := by decide +kernel

theorem hasClass_widget (h : Handle) :
    widget.tree.hasClass h widgetStepper.layout.inactiveClass = false := by
  have hthree : ∀ h < 3, widget.tree.hasClass h widgetStepper.layout.inactiveClass = false := by
    decide +kernel
  rw [Bool.eq_false_iff]
  intro hinactive
  rw [hthree h (Tree.lt_size_of_any hinactive)] at hinactive
  cases hinactive

theorem inactive_iff_last_step_left_zero_widget :
    widget.steppers = [widgetStepper] ∧ widgetStepper.Fits widget.tree ∧
    (∀ h, widget.tree.hasClass h widgetStepper.layout.inactiveClass = false) ∧
    (widget.run [.click 1, .typeInto 2 "5"]).tree.picks widgetStepper.layout.container 0 = true ∧
    1 ∈ (widget.run [.click 1, .typeInto 2 "5"]).tree.queryWithin 0
      widgetStepper.layout.decrease ∧
    ∃ field, widgetStepper.field? (widget.run [.click 1, .typeInto 2 "5"]).tree 0 = some field ∧
      ∃ event ∈ sinceLast (widgetStepper.steppedBy widget.tree field) [.click 1, .typeInto 2 "5"],
        widget.MayFill field event := by
  have hcontainer : (widget.run [.click 1, .typeInto 2 "5"]).tree.picks
      widgetStepper.layout.container 0 = true := by decide +kernel
  have hcontrol : 1 ∈ (widget.run [.click 1, .typeInto 2 "5"]).tree.queryWithin 0
      widgetStepper.layout.decrease := by decide +kernel
  have hinactive : (widget.run [.click 1, .typeInto 2 "5"]).tree.hasClass 1
      widgetStepper.layout.inactiveClass = true := by decide +kernel
  obtain ⟨field, hf, hrest⟩ := (inactive_iff_last_step_left_zero rfl fits_widget
    hasClass_widget [.click 1, .typeInto 2 "5"] hcontainer hcontrol).2 hinactive
  refine ⟨rfl, fits_widget, hasClass_widget, hcontainer, hcontrol, field, hf, ?_⟩
  refine hrest.resolve_left fun hzero => ?_
  have hfive : (widgetStepper.field? (widget.run [.click 1, .typeInto 2 "5"]).tree 0).map
      (fun field => readQuantity ((widget.run [.click 1, .typeInto 2 "5"]).tree.value field)) =
        some 5 := by decide +kernel
  rw [hf, Option.map_some, hzero] at hfive
  cases hfive

/-- A control with the inactive class, and a quantity of five in its container: the quantity was
stepped to zero and then typed. -/
theorem inactive_above_zero :
    ({} : StepperSettings).layout = .ok widgetStepper.layout ∧
    widget.components = [.stepper widgetStepper] ∧ widgetStepper.Fits widget.tree ∧
    (∀ h, widget.tree.hasClass h widgetStepper.layout.inactiveClass = false) ∧
    (widget.run [.click 1, .typeInto 2 "5"]).tree.picks widgetStepper.layout.container 0 = true ∧
    1 ∈ (widget.run [.click 1, .typeInto 2 "5"]).tree.queryWithin 0
      widgetStepper.layout.decrease ∧
    (widget.run [.click 1, .typeInto 2 "5"]).tree.hasClass 1
      widgetStepper.layout.inactiveClass = true ∧
    widgetStepper.field? (widget.run [.click 1, .typeInto 2 "5"]).tree 0 = some 2 ∧
    readQuantity ((widget.run [.click 1, .typeInto 2 "5"]).tree.value 2) = 5 := by
  refine ⟨?_, rfl, fits_widget, hasClass_widget, ?_, ?_, ?_, ?_, ?_⟩ <;> decide +kernel

end Page
end LiveForm
