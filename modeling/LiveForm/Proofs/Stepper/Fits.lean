import LiveForm.Proofs.Page.Outline
import LiveForm.Proofs.Stepper.Step

/-!
# Steppers that fit a tree

When containers do not stand inside each other and every control stands in one, a click either steps
the quantity of a container, and then marks the decrease controls of that container, or it leaves
them as they are.

* `Stepper.Fits`: what a stepper and a tree have to be for that.
* `Stepper.IsControlIn`: a decrease control in a container.
* `Stepper.Fits.hasClass_onClick_of_steps`, `Stepper.Fits.hasClass_onClick_of_not_steps`: the two
  kinds of clicks.
* `Stepper.steppedBy`: the clicks of the first kind among all events.
-/

namespace LiveForm

namespace Stepper

variable {s : Stepper} {t u : Tree} {target container own field e : Handle}

/-! ## Steppers that fit a tree -/

/-- Containers do not stand inside each other, every control stands in one, and no selector of the
layout mentions the inactive class. -/
structure Fits (s : Stepper) (t : Tree) : Prop where
  blind : s.layout.IsBlind
  apart : ∀ inner, t.picks s.layout.container inner = true →
    ∀ outer ∈ t.ancestors inner, t.picks s.layout.container outer = false
  enclosed : ∀ control ∈ s.controls, (t.closest? control s.layout.container).isSome

theorem Fits.congr (h : s.Fits t)
    (ho : u.outline s.layout.inactiveClass = t.outline s.layout.inactiveClass) : s.Fits u where
  blind := h.blind
  apart := by
    intro inner hinner outer houter
    rw [Tree.picks_congr ho h.blind.container] at hinner ⊢
    rw [Tree.ancestors_congr (Tree.parent?_congr ho)] at houter
    exact h.apart inner hinner outer houter
  enclosed := by
    intro control hcontrol
    rw [Tree.closest?_congr ho h.blind.container]
    exact h.enclosed control hcontrol

/-- An element stands in one container at most. -/
theorem Fits.container_unique (h : s.Fits t) {a b : Handle}
    (ha : t.picks s.layout.container a = true) (hb : t.picks s.layout.container b = true)
    (hae : a ∈ t.ancestors e) (hbe : b ∈ t.ancestors e) : a = b := by
  rcases Tree.mem_ancestors_or_of_mem_ancestors hae hbe with hab | hab | hba
  · exact hab
  · rw [h.apart b hb a hab] at ha
    cases ha
  · rw [h.apart a ha b hba] at hb
    cases hb

/-- The container of a step is picked as one, it is not just the parent of the control. -/
theorem Fits.picks_container (h : s.Fits t) (ha : (s.action? t target).isSome)
    (hc : s.container? t target = some container) :
    t.picks s.layout.container container = true := by
  have htarget : target ∈ s.controls := by
    unfold action? at ha
    split at ha
    · next hin => exact List.contains_iff_mem.1 hin
    · cases ha
  obtain ⟨c, hclosest⟩ := Option.isSome_iff_exists.1 (h.enclosed target htarget)
  rw [container?, hclosest, Option.some_or, Option.some_inj] at hc
  rw [← hc]
  exact List.find?_some hclosest

/-! ## Decrease controls -/

/-- The element `e` is a decrease control in the container `own`. -/
structure IsControlIn (s : Stepper) (t : Tree) (own e : Handle) : Prop where
  container : t.picks s.layout.container own = true
  control : e ∈ t.queryWithin own s.layout.decrease

theorem IsControlIn.congr (h : s.IsControlIn t own e) (hs : s.layout.IsBlind)
    (ho : u.outline s.layout.inactiveClass = t.outline s.layout.inactiveClass) :
    s.IsControlIn u own e where
  container := (Tree.picks_congr ho hs.container own).trans h.container
  control := by
    rw [Tree.queryWithin_congr ho hs.decrease]
    exact h.control

/-- A click that steps the quantity of its container makes a decrease control inactive exactly if
the quantity is zero. -/
theorem Fits.hasClass_onClick_of_steps (h : s.Fits t) (he : s.IsControlIn t own e)
    (hf : s.field? t own = some field) (hs : s.Steps t target field) :
    (s.onClick t target).1.hasClass e s.layout.inactiveClass = true ↔
      readQuantity ((s.onClick t target).1.value field) = 0 := by
  obtain ⟨a, container, -, hc, hf'⟩ := hs.exists_container
  have hbelow : own ∈ t.ancestors field := mem_ancestors_of_field?_eq hf
  have hbelow' : container ∈ t.ancestors field := mem_ancestors_of_field?_eq hf'
  obtain rfl : own = container :=
    h.container_unique he.container (h.picks_container hs.1 hc) hbelow hbelow'
  exact hasClass_onClick_of_mem hs hc he.control

/-- All other clicks leave the control as it is. -/
theorem Fits.hasClass_onClick_of_not_steps (h : s.Fits t) (he : s.IsControlIn t own e)
    (hn : ∀ field, s.field? t own = some field → ¬ s.Steps t target field) :
    (s.onClick t target).1.hasClass e s.layout.inactiveClass =
      t.hasClass e s.layout.inactiveClass := by
  by_cases hs : ∃ field, s.Steps t target field
  · obtain ⟨field, hs⟩ := hs
    obtain ⟨a, container, -, hc, hf⟩ := hs.exists_container
    refine hasClass_onClick_of_not_mem fun container' hc' he' => ?_
    obtain rfl : container' = container := Option.some.inj (hc'.symm.trans hc)
    have hbelow : own ∈ t.ancestors e := (Tree.mem_queryWithin_iff.1 he.control).2
    have hbelow' : container' ∈ t.ancestors e := (Tree.mem_queryWithin_iff.1 he').2
    obtain rfl : own = container' :=
      h.container_unique he.container (h.picks_container hs.1 hc) hbelow hbelow'
    exact hn field hf hs
  · rw [not_exists] at hs
    rw [fst_onClick_of_not_steps hs]

/-! ## Events that step a quantity -/

instance : Decidable (s.Steps t target field) :=
  inferInstanceAs (Decidable ((s.action? t target).isSome = true ∧
    (s.container? t target).bind (s.field? t) = some field))

/-- Whether the event is a click that steps the quantity in a field. -/
def steppedBy (s : Stepper) (t : Tree) (field : Handle) : Event → Bool
  | .input _ => false
  | .typeInto _ _ => false
  | .click target => decide (s.Steps t target field)

theorem steppedBy_congr (hs : s.layout.IsBlind)
    (ho : u.outline s.layout.inactiveClass = t.outline s.layout.inactiveClass) (field : Handle) :
    s.steppedBy u field = s.steppedBy t field := by
  funext event
  cases event with
  | input target => rfl
  | typeInto target text => rfl
  | click target => exact decide_eq_decide.2 (steps_congr hs ho target field)

end Stepper
end LiveForm
