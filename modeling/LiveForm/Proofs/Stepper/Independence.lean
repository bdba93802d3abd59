import LiveForm.Proofs.Stepper.Step
import LiveForm.Proofs.Tree.Agreement

/-!
# Widgets do not disturb each other

A click changes nothing but what stands below the container of its target, and it looks at nothing
but the target, what stands above it, and what stands below that container.  So where containers
stand apart, no click changes what another one looks at, not even in a layout that mentions the
class that clicks put on and take off.

* `Stepper.LooksAt`: what a click looks at.
* `Tree.AgreeOn.onClick`, `Tree.AgreeOn.snd_onClick_eq`: trees that agree on it are changed alike.
* `Stepper.agreeOn_onClick`: what a click leaves alone.
* `Stepper.not_mem_of_looksAt`: nothing that a click looks at stands below a container apart from
  its own.
* `Stepper.onClick_comm_of_apart`: so clicks in containers apart from each other commute.
-/

namespace LiveForm

/-! ## What a click looks at -/

namespace Stepper

variable {s : Stepper} {t : Tree} {target container : Handle}

/-- A click on `target` looks at the target, at what stands above it, and at what stands below its
container. -/
def LooksAt (s : Stepper) (t : Tree) (target h : Handle) : Prop :=
  h = target ∨ h ∈ t.ancestors target ∨
    ∃ container, s.container? t target = some container ∧ container ∈ t.ancestors h

/-- A container is its control or stands above it. -/
theorem eq_or_mem_of_container?_eq (h : s.container? t target = some container) :
    container = target ∨ container ∈ t.ancestors target := by
  rw [container?, Option.or_eq_some_iff] at h
  rcases h with hclosest | ⟨-, hparent⟩
  · exact List.mem_cons.1 (List.mem_of_find?_eq_some hclosest)
  · rw [Tree.ancestors_of_parent?_eq_some hparent]
    exact .inr (.head _)

end Stepper

/-! ## Clicks on trees that agree -/

namespace Tree.AgreeOn

variable {region : Handle → Prop} {s : Stepper} {t u : Tree} {target container : Handle}

theorem action?_eq (h : t.AgreeOn region u) (htarget : region target) :
    s.action? u target = s.action? t target := by
  rw [Stepper.action?, Stepper.action?, h.attribute?_eq htarget]

theorem container?_eq (h : t.AgreeOn region u) (htarget : region target)
    (habove : ∀ i ∈ t.ancestors target, region i) :
    s.container? u target = s.container? t target := by
  rw [Stepper.container?, Stepper.container?, h.closest?_eq htarget habove, h.parent?_eq]

theorem field?_eq (h : t.AgreeOn region u) (hbelow : ∀ i, container ∈ t.ancestors i → region i) :
    s.field? u container = s.field? t container := by
  rw [Stepper.field?, Stepper.field?, h.queryWithin_eq hbelow]

theorem mark (h : t.AgreeOn region u) (hbelow : ∀ i, container ∈ t.ancestors i → region i)
    (a : StepAction) (quantity : Nat) :
    (s.mark t container a quantity).AgreeOn region (s.mark u container a quantity) := by
  unfold Stepper.mark
  rw [h.queryWithin_eq hbelow]
  simp only
  split
  · cases a with
    | increase => exact h
    | decrease => exact h.foldl (fun t u hagree i => hagree.modify i _) _
  · exact h.foldl (fun t u hagree i => hagree.modify i _) _

theorem step (h : t.AgreeOn region u) (hlook : ∀ i, s.LooksAt t target i → region i)
    (a : StepAction) : (s.step t target a).AgreeOn region (s.step u target a) := by
  unfold Stepper.step
  rw [h.container?_eq (hlook _ (.inl rfl)) fun i hi => hlook i (.inr (.inl hi))]
  split
  · exact h
  · next container hcontainer =>
    have hbelow : ∀ i, container ∈ t.ancestors i → region i :=
      fun i hi => hlook i (.inr (.inr ⟨container, hcontainer, hi⟩))
    rw [h.field?_eq hbelow]
    split
    · exact h
    · next field hfield =>
      rw [h.value_eq (hbelow field (Stepper.mem_ancestors_of_field?_eq hfield))]
      exact (h.mark hbelow _ _).modify field _

/-- **Trees that agree on what a click looks at agree behind it wherever they agreed.** -/
theorem onClick (h : t.AgreeOn region u) (hlook : ∀ i, s.LooksAt t target i → region i) :
    (s.onClick t target).1.AgreeOn region (s.onClick u target).1 := by
  unfold Stepper.onClick
  rw [h.action?_eq (hlook _ (.inl rfl))]
  split
  · exact h.step hlook _
  · exact h

theorem snd_onClick_eq (h : t.AgreeOn region u) (htarget : region target) :
    (s.onClick u target).2 = (s.onClick t target).2 := by
  unfold Stepper.onClick
  rw [h.action?_eq htarget]
  split
  · rfl
  · rfl

end Tree.AgreeOn

namespace Stepper

variable {region : Handle → Prop} {s : Stepper} {t : Tree} {target container i a b c d : Handle}

/-! ## What a click leaves alone -/

theorem agreeOn_mark (hregion : ∀ i, region i → container ∉ t.ancestors i) (a : StepAction)
    (quantity : Nat) : t.AgreeOn region (s.mark t container a quantity) := by
  have hout : ∀ i ∈ t.queryWithin container s.layout.decrease, ¬ region i :=
    fun i hi hin => hregion i hin (Tree.mem_queryWithin_iff.1 hi).2
  unfold mark
  split
  · cases a with
    | increase => exact .refl region t
    | decrease => exact Tree.agreeOn_foldl (fun i hi t => Tree.agreeOn_modify (hout i hi) t _) t
  · exact Tree.agreeOn_foldl (fun i hi t => Tree.agreeOn_modify (hout i hi) t _) t

/-- **A click leaves alone what does not stand below the container of its target.** -/
theorem agreeOn_onClick (hc : s.container? t target = some container)
    (hregion : ∀ i, region i → container ∉ t.ancestors i) :
    t.AgreeOn region (s.onClick t target).1 := by
  unfold onClick
  split
  · unfold step
    rw [hc]
    simp only
    split
    · exact .refl region t
    · next field hfield =>
      have hout : ¬ region field :=
        fun hin => hregion field hin (mem_ancestors_of_field?_eq hfield)
      exact (agreeOn_mark hregion _ _).trans (Tree.agreeOn_modify hout _ _)
  · exact .refl region t

/-! ## Containers apart from each other -/

/-- **Nothing that a click looks at stands below a container apart from its own.** -/
theorem not_mem_of_looksAt (hb : s.container? t b = some d) (h : t.Apart c d)
    (hi : s.LooksAt t b i) : c ∉ t.ancestors i := by
  have hb' : c ∉ t.ancestors b := by
    rcases eq_or_mem_of_container?_eq hb with rfl | hd
    · exact h.not_above
    · exact h.symm.not_mem_of_mem hd
  rcases hi with rfl | hi | ⟨d', hd', hi⟩
  · exact hb'
  · exact fun hc => hb' (Tree.mem_ancestors_trans hc hi)
  · obtain rfl : d' = d := Option.some.inj (hd'.symm.trans hb)
    exact h.symm.not_mem_of_mem hi

section Apart

variable (ha : s.container? t a = some c) (hb : s.container? t b = some d) (h : t.Apart c d)
include ha hb h

/-- Behind a click in a container the click in the other one does to the rest of the tree what it
would do without. -/
theorem agreeOn_onClick_onClick :
    (s.onClick t b).1.AgreeOn (fun i => c ∉ t.ancestors i)
      (s.onClick (s.onClick t a).1 b).1 :=
  (agreeOn_onClick ha fun _ hi => hi).onClick fun _ => not_mem_of_looksAt hb h

theorem snd_onClick_onClick : (s.onClick (s.onClick t a).1 b).2 = (s.onClick t b).2 :=
  (agreeOn_onClick ha fun _ hi => hi).snd_onClick_eq (not_mem_of_looksAt hb h (.inl rfl))

/-- Behind a click in a container the click in the other one still has its own container, and leaves
the rest of the tree as it is. -/
theorem agreeOn_of_onClick_onClick :
    (s.onClick t a).1.AgreeOn (fun i => d ∉ t.ancestors i)
      (s.onClick (s.onClick t a).1 b).1 := by
  have hleft := agreeOn_onClick ha fun i (hi : c ∉ t.ancestors i) => hi
  have hb' : s.container? (s.onClick t a).1 b = some d :=
    (hleft.container?_eq (not_mem_of_looksAt hb h (.inl rfl))
      fun i hi => not_mem_of_looksAt hb h (.inr (.inl hi))).trans hb
  refine agreeOn_onClick hb' fun i hi => ?_
  rw [hleft.ancestors_eq]
  exact hi

/-- **Clicks in containers apart from each other commute**, and neither changes what becomes of the
other's own action.  The layout may mention the inactive class: no element that decides where one
click goes is in reach of the other. -/
theorem onClick_comm_of_apart :
    (s.onClick (s.onClick t a).1 b).1 = (s.onClick (s.onClick t b).1 a).1 ∧
      (s.onClick (s.onClick t b).1 a).2 = (s.onClick t a).2 ∧
      (s.onClick (s.onClick t a).1 b).2 = (s.onClick t b).2 := by
  refine ⟨?_, snd_onClick_onClick hb ha h.symm, snd_onClick_onClick ha hb h⟩
  -- outside of `c` both orders leave what the click on `b` does, outside of `d` that on `a`
  have hc : (s.onClick (s.onClick t b).1 a).1.AgreeOn (fun i => c ∉ t.ancestors i)
      (s.onClick (s.onClick t a).1 b).1 :=
    (agreeOn_of_onClick_onClick hb ha h.symm).symm.trans (agreeOn_onClick_onClick ha hb h)
  have hd : (s.onClick (s.onClick t b).1 a).1.AgreeOn (fun i => d ∉ t.ancestors i)
      (s.onClick (s.onClick t a).1 b).1 :=
    (agreeOn_onClick_onClick hb ha h.symm).symm.trans (agreeOn_of_onClick_onClick ha hb h)
  refine hc.eq_of_union hd fun i => ?_
  by_cases hi : c ∈ t.ancestors i
  · exact .inr (h.not_mem_of_mem hi)
  · exact .inl hi

end Apart

/-- Two containers, each with a control and a field; the second control has the inactive class. -/
def pairTree : Tree :=
  (((((Tree.empty.append none { tag := "div", classes := .ofList ["quantity"] }).append
    (some 0) { tag := "a", attributes := [("data-action", "increase")] }).append
    (some 0) { tag := "input", value := "0" }).append
    none { tag := "div", classes := .ofList ["quantity"] }).append
    (some 3) { tag := "a", classes := .ofList ["inactive"]
               attributes := [("data-action", "increase")] }).append
    (some 3) { tag := "input", value := "1" }

/-- A stepper of both controls, whose decrease controls are those that have the inactive class. -/
def pairStepper : Stepper where
  controls := [1, 4]
  layout :=
    { container := ⟨".quantity", [{ classes := ["quantity"] }]⟩
      field := ⟨"input", [{ tag := some "input" }]⟩
      decrease := ⟨".inactive", [{ classes := ["inactive"] }]⟩
      actionAttribute := "data-action"
      inactiveClass := "inactive" }

theorem onClick_comm_of_apart_pair :
    pairStepper.container? pairTree 1 = some 0 ∧ pairStepper.container? pairTree 4 = some 3 ∧
      pairTree.Apart 0 3 ∧
      (pairStepper.onClick (pairStepper.onClick pairTree 1).1 4).1 =
        (pairStepper.onClick (pairStepper.onClick pairTree 4).1 1).1 ∧
      (pairStepper.onClick (pairStepper.onClick pairTree 4).1 1).1.value 2 = "1" ∧
      (pairStepper.onClick (pairStepper.onClick pairTree 4).1 1).1.value 5 = "2" ∧
      (pairStepper.onClick (pairStepper.onClick pairTree 4).1 1).1.hasClass 4 "inactive" =
        false := by
  have ha : pairStepper.container? pairTree 1 = some 0 := by decide +kernel
  have hb : pairStepper.container? pairTree 4 = some 3 := by decide +kernel
  have h : pairTree.Apart 0 3 := by decide +kernel
  refine ⟨ha, hb, h, (onClick_comm_of_apart ha hb h).1, ?_, ?_, ?_⟩ <;> decide +kernel

end Stepper
end LiveForm
