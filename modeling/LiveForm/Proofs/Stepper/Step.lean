import LiveForm.Proofs.Page.Dispatch
import LiveForm.Proofs.Stepper.Quantity
import LiveForm.Proofs.Tree.Outline

/-!
# What one click on a stepper does

A click that steps a quantity writes it into the field, and marks the decrease controls of the
container by where the step ended.

* `Tree.hasClass_foldl_addClass`, `Tree.hasClass_foldl_removeClass`: a class put on or taken off
  several elements.
* `Stepper.hasClass_mark`: marking in one statement, whatever the action.
* `Stepper.fst_onClick_of_steps`, `Stepper.fst_onClick_of_not_steps`: the tree behind a click.
* `Stepper.value_onClick_of_steps`: the quantity behind a click.
* `Stepper.hasClass_onClick_of_mem`: behind a step the decrease controls of its container are
  inactive exactly if the quantity is zero.
-/

namespace LiveForm

/-! ## Classes in a tree -/

namespace Tree

variable {t : Tree} {e : Handle} {name : String}

theorem hasClass_setValue (name : String) (e : Handle) (t : Tree) (h : Handle) (value : String) :
    (t.setValue h value).hasClass e name = t.hasClass e name := by
  rw [hasClass, element?_setValue, hasClass]
  split
  · cases t.element? e <;> rfl
  · rfl

theorem hasClass_addClass {h : Handle} (hh : h < t.size) :
    (t.addClass h name).hasClass e name = true ↔ e = h ∨ t.hasClass e name = true := by
  rw [hasClass, element?_addClass, hasClass]
  by_cases he : h = e
  · subst he
    obtain ⟨x, hx⟩ := Option.isSome_iff_exists.1 (element?_isSome_iff.2 hh)
    simp [hx, Element.hasClass, Element.addClass]
  · simp [he, Ne.symm he]

theorem hasClass_removeClass {h : Handle} :
    (t.removeClass h name).hasClass e name = true ↔ e ≠ h ∧ t.hasClass e name = true := by
  rw [hasClass, element?_removeClass, hasClass]
  by_cases he : h = e
  · subst he
    cases t.element? h <;> simp [Element.hasClass, Element.removeClass]
  · simp [he, Ne.symm he]

theorem hasClass_foldl_addClass {handles : List Handle} (hin : ∀ h ∈ handles, h < t.size) :
    (handles.foldl (fun t h => t.addClass h name) t).hasClass e name = true ↔
      e ∈ handles ∨ t.hasClass e name = true := by
  induction handles generalizing t with
  | nil => simp
  | cons h handles ih =>
    rw [List.forall_mem_cons] at hin
    rw [List.foldl_cons, ih (by simpa using hin.2), hasClass_addClass hin.1, List.mem_cons,
      or_assoc, or_left_comm]

theorem hasClass_foldl_removeClass {handles : List Handle} :
    (handles.foldl (fun t h => t.removeClass h name) t).hasClass e name = true ↔
      e ∉ handles ∧ t.hasClass e name = true := by
  induction handles generalizing t with
  | nil => simp
  | cons h handles ih =>
    rw [List.foldl_cons, ih, hasClass_removeClass, List.mem_cons, not_or, and_assoc,
      and_left_comm]

theorem lt_size_of_mem_queryWithin {root : Handle} {s : Selector}
    (h : e ∈ t.queryWithin root s) : e < t.size :=
  lt_size_of_mem_query (List.mem_filter.1 h).1

end Tree

/-! ## One click -/

namespace Stepper

variable {s : Stepper} {t : Tree} {target container field e : Handle}

/-- Marking for a quantity that an action led to makes the decrease controls of the container
inactive exactly if the quantity is zero, and touches no other element. -/
theorem hasClass_mark {a : StepAction} {quantity : Nat}
    (hzero : quantity = 0 → a = .decrease) (t : Tree) (container e : Handle) :
    (s.mark t container a quantity).hasClass e s.layout.inactiveClass = true ↔
      if e ∈ t.queryWithin container s.layout.decrease then quantity = 0
      else t.hasClass e s.layout.inactiveClass = true := by
  unfold mark
  simp only
  by_cases hq : quantity = 0
  · rw [if_pos hq, hzero hq]
    simp only
    rw [Tree.hasClass_foldl_addClass fun h hh => Tree.lt_size_of_mem_queryWithin hh]
    split
    · next he => simp [he, hq]
    · next he => simp [he]
  · rw [if_neg hq, Tree.hasClass_foldl_removeClass]
    split
    · next he => simp [he, hq]
    · next he => simp [he]

/-- What a click finds that steps the quantity in a field. -/
theorem Steps.exists_container (h : s.Steps t target field) :
    ∃ a container, s.action? t target = some a ∧ s.container? t target = some container ∧
      s.field? t container = some field := by
  obtain ⟨a, ha⟩ := Option.isSome_iff_exists.1 h.1
  obtain ⟨container, hcontainer, hfield⟩ := Option.bind_eq_some_iff.1 h.2
  exact ⟨a, container, ha, hcontainer, hfield⟩

theorem field_lt_size (h : s.field? t container = some field) : field < t.size :=
  Tree.lt_size_of_mem_queryWithin (List.mem_of_mem_head? h)

/-- The quantity field of a container stands below it. -/
theorem mem_ancestors_of_field?_eq (h : s.field? t container = some field) :
    container ∈ t.ancestors field :=
  (Tree.mem_queryWithin_iff.1 (List.mem_of_mem_head? h)).2

/-- The tree behind a click that steps the quantity in a field. -/
theorem fst_onClick_of_steps {a : StepAction} (ha : s.action? t target = some a)
    (hc : s.container? t target = some container) (hf : s.field? t container = some field) :
    (s.onClick t target).1 =
      (s.mark t container a (a.apply (readQuantity (t.value field)))).setValue field
        (quantityText (a.apply (readQuantity (t.value field)))) := by
  simp only [onClick, ha, step, hc, hf]

/-- A click that steps the quantity in a field leaves the new one there. -/
theorem value_onClick_of_steps {a : StepAction} (ha : s.action? t target = some a)
    (hc : s.container? t target = some container) (hf : s.field? t container = some field) :
    (s.onClick t target).1.value field = quantityText (a.apply (readQuantity (t.value field))) := by
  have hsize : field < (s.mark t container a (a.apply (readQuantity (t.value field)))).size := by
    rw [size_mark]
    exact field_lt_size hf
  rw [fst_onClick_of_steps ha hc hf, Tree.value_setValue_self _ hsize]

/-- A click that steps no quantity does nothing. -/
theorem fst_onClick_of_not_steps (h : ∀ field, ¬ s.Steps t target field) :
    (s.onClick t target).1 = t := by
  unfold onClick
  split
  · next a ha =>
    unfold step
    split
    · rfl
    · next container hc =>
      split
      · rfl
      · next field hf =>
        refine absurd ⟨?_, ?_⟩ (h field)
        · rw [ha]
          rfl
        · rw [hc, Option.bind_some, hf]
  · rfl

/-- **Behind a step the decrease controls of its container are inactive exactly if the quantity is
zero.** -/
theorem hasClass_onClick_of_mem (h : s.Steps t target field)
    (hc : s.container? t target = some container)
    (he : e ∈ t.queryWithin container s.layout.decrease) :
    (s.onClick t target).1.hasClass e s.layout.inactiveClass = true ↔
      readQuantity ((s.onClick t target).1.value field) = 0 := by
  obtain ⟨a, container', ha, hc', hf⟩ := h.exists_container
  obtain rfl : container' = container := Option.some.inj (hc'.symm.trans hc)
  rw [value_onClick_of_steps ha hc hf, fst_onClick_of_steps ha hc hf, Tree.hasClass_setValue,
    hasClass_mark StepAction.eq_decrease_of_apply_eq_zero, if_pos he,
    StepAction.readQuantity_apply]

/-- A click touches no class outside the container of its target. -/
theorem hasClass_onClick_of_not_mem
    (h : ∀ container, s.container? t target = some container →
      e ∉ t.queryWithin container s.layout.decrease) :
    (s.onClick t target).1.hasClass e s.layout.inactiveClass =
      t.hasClass e s.layout.inactiveClass := by
  by_cases hs : ∃ field, s.Steps t target field
  · obtain ⟨field, hs⟩ := hs
    obtain ⟨a, container, ha, hc, hf⟩ := hs.exists_container
    rw [Bool.eq_iff_iff, fst_onClick_of_steps ha hc hf, Tree.hasClass_setValue,
      hasClass_mark StepAction.eq_decrease_of_apply_eq_zero, if_neg (h container hc)]
  · rw [not_exists] at hs
    rw [fst_onClick_of_not_steps hs]

end Stepper
end LiveForm
