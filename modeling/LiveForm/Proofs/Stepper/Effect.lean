import LiveForm.Proofs.Page.Outline
import LiveForm.Proofs.Stepper.Step

/-!
# What a step leaves behind

When a click asks a stepper for a step, and what the tree is behind it.  Nothing is left open: the
tree behind a step is the only one that fits the description `Stepper.StepsTo`.

* `Stepper.Asks`: the target is a control and names an action, between blanks;
  `action?_eq_some_iff`.
* `Stepper.IsFieldOf`: the first of the elements below a container that the layout picks as fields;
  `field?_eq_some_iff`.
* `Stepper.StepsTo`: all that a step does to a tree, and that it does nothing else.
* `Stepper.eq_onClick_iff_stepsTo`: the tree behind a click that steps a quantity.
-/

namespace LiveForm

/-! ## Asking for a step -/

namespace Stepper

variable {s : Stepper} {t u : Tree} {target container field : Handle} {a : StepAction}

/-- A click on `target` asks for a step: the target is a control of the stepper, and its action
attribute names the action, perhaps with blanks around it. -/
def Asks (s : Stepper) (t : Tree) (target : Handle) (a : StepAction) : Prop :=
  target ∈ s.controls ∧
    ∃ text, t.attribute? target s.layout.actionAttribute = some text ∧ Text.trim text = a.word

theorem action?_eq_some_iff : s.action? t target = some a ↔ s.Asks t target a := by
  unfold action? Asks
  split
  · next hin =>
    rw [Option.bind_eq_some_iff]
    simp only [StepAction.ofText?_eq_some_iff]
    exact (and_iff_right (List.contains_iff_mem.1 hin)).symm
  · next hout =>
    constructor
    · intro h
      cases h
    · rintro ⟨hin, -⟩
      exact absurd (List.contains_iff_mem.2 hin) hout

/-- A click that does not ask a stepper for a step does nothing there. -/
theorem onClick_of_not_asks (h : ∀ a, ¬ s.Asks t target a) : s.onClick t target = (t, .allow) := by
  have haction : s.action? t target = none := by
    rw [Option.eq_none_iff_forall_ne_some]
    exact fun a ha => h a (action?_eq_some_iff.1 ha)
  rw [onClick, haction]

/-- A stepper prevents the clicks that ask it for a step. -/
theorem snd_onClick_eq_prevent_iff :
    (s.onClick t target).2 = .prevent ↔ ∃ a, s.Asks t target a := by
  constructor
  · intro hprevent
    by_contra hnone
    rw [onClick_of_not_asks (not_exists.1 hnone)] at hprevent
    cases hprevent
  · rintro ⟨a, ha⟩
    rw [onClick, action?_eq_some_iff.2 ha]

/-- What a click asks for does not depend on values and classes, so no click changes it. -/
theorem asks_onClick_iff (r : Stepper) (t : Tree) (other : Handle) :
    s.Asks (r.onClick t other).1 target a ↔ s.Asks t target a := by
  rw [Asks, Tree.attribute?_congr (r.outline_onClick t other), Asks]

/-! ## The field of a container -/

/-- The first element below a container that the layout picks as a field. -/
structure IsFieldOf (s : Stepper) (t : Tree) (container field : Handle) : Prop where
  picked : t.picks s.layout.field field = true
  below : container ∈ t.ancestors field
  first : ∀ h, t.picks s.layout.field h = true → container ∈ t.ancestors h → field ≤ h

theorem field?_eq_some_iff : s.field? t container = some field ↔ s.IsFieldOf t container field := by
  rw [field?, Tree.head?_queryWithin_eq_some_iff]
  exact ⟨fun h => ⟨h.1.1, h.1.2, h.2⟩, fun h => ⟨⟨h.picked, h.below⟩, h.first⟩⟩

/-! ## The effect of a step -/

/-- The tree `u` is `t` with a quantity in `field`, and with the decrease controls that `t` has
below `container` inactive exactly if the quantity is zero.  Nothing else is different. -/
structure StepsTo (s : Stepper) (t u : Tree) (container field : Handle) (quantity : Nat) :
    Prop where
  /-- Elements stand where they stood, with their tags, ids, attributes and all other classes. -/
  outline_eq : u.outline s.layout.inactiveClass = t.outline s.layout.inactiveClass
  value_field : u.value field = quantityText quantity
  value_eq : ∀ h, h ≠ field → u.value h = t.value h
  inactive_iff : ∀ h ∈ t.queryWithin container s.layout.decrease,
    u.hasClass h s.layout.inactiveClass = true ↔ quantity = 0
  inactive_eq : ∀ h, h ∉ t.queryWithin container s.layout.decrease →
    u.hasClass h s.layout.inactiveClass = t.hasClass h s.layout.inactiveClass

/-- There is one effect of a step at most. -/
theorem StepsTo.unique {v : Tree} {quantity : Nat} (hu : s.StepsTo t u container field quantity)
    (hv : s.StepsTo t v container field quantity) : u = v := by
  refine Tree.eq_of_outline_eq (hu.outline_eq.trans hv.outline_eq.symm) (fun h => ?_) fun h => ?_
  · by_cases hfield : h = field
    · rw [hfield, hu.value_field, hv.value_field]
    · rw [hu.value_eq h hfield, hv.value_eq h hfield]
  · by_cases hcontrol : h ∈ t.queryWithin container s.layout.decrease
    · rw [Bool.eq_iff_iff, hu.inactive_iff h hcontrol, hv.inactive_iff h hcontrol]
    · rw [hu.inactive_eq h hcontrol, hv.inactive_eq h hcontrol]

/-- A click that steps a quantity has the effect of a step. -/
theorem stepsTo_onClick (ha : s.action? t target = some a)
    (hc : s.container? t target = some container) (hf : s.field? t container = some field) :
    s.StepsTo t (s.onClick t target).1 container field
      (a.apply (readQuantity (t.value field))) where
  outline_eq := s.outline_onClick t target
  value_field := value_onClick_of_steps ha hc hf
  value_eq := by
    intro h hne
    refine value_onClick fun hsteps => hne ?_
    have hfield : (s.container? t target).bind (s.field? t) = some h := hsteps.2
    rw [hc, Option.bind_some, hf] at hfield
    exact (Option.some.inj hfield).symm
  inactive_iff := by
    intro h hcontrol
    rw [fst_onClick_of_steps ha hc hf, Tree.hasClass_setValue,
      hasClass_mark StepAction.eq_decrease_of_apply_eq_zero, if_pos hcontrol]
  inactive_eq := by
    intro h hcontrol
    rw [Bool.eq_iff_iff, fst_onClick_of_steps ha hc hf, Tree.hasClass_setValue,
      hasClass_mark StepAction.eq_decrease_of_apply_eq_zero, if_neg hcontrol]

/-- **The tree behind a click that steps a quantity is the one that the step leads to.** -/
theorem eq_onClick_iff_stepsTo (ha : s.Asks t target a)
    (hc : s.container? t target = some container) (hf : s.IsFieldOf t container field) :
    u = (s.onClick t target).1 ↔
      s.StepsTo t u container field (a.apply (readQuantity (t.value field))) := by
  have heffect := stepsTo_onClick (action?_eq_some_iff.2 ha) hc (field?_eq_some_iff.2 hf)
  constructor
  · rintro rfl
    exact heffect
  · intro hu
    exact hu.unique heffect

/-- A click does nothing if there is no container or nothing to step in it. -/
theorem fst_onClick_of_missing (h : ∀ container, s.container? t target = some container →
    ∀ field, ¬ s.IsFieldOf t container field) : (s.onClick t target).1 = t := by
  refine fst_onClick_of_not_steps fun field hsteps => ?_
  obtain ⟨a, container, -, hc, hf⟩ := hsteps.exists_container
  exact h container hc field (field?_eq_some_iff.1 hf)

end Stepper
end LiveForm
