import Mathlib.Data.List.Basic
import LiveForm.Proofs.Stepper.Effect

/-!
# The effect of a click

A click goes through all components, and each stepper sees the tree as those before it left it.
What a click asks a stepper for does not depend on what the others did, so it can be read off the
tree before the click: the click is prevented if some stepper is asked for a step, and the page is
as it was if none is.  If a single one is, then its step is all that happens.

* `Page.snd_click_eq_prevent_iff`: when a click is prevented.
* `Page.fst_click_of_not_asks`: a click that no stepper cares about.
* `Page.tree_click_of_asks_one`: the tree behind a click that asks one stepper.
* `Page.effect_of_click`: the main statement.
-/

namespace LiveForm

theorem DefaultAction.and_eq_prevent_iff {a b : DefaultAction} :
    a.and b = .prevent ↔ a = .prevent ∨ b = .prevent := by
  cases a with
  | allow => simp [DefaultAction.and]
  | prevent => simp [DefaultAction.and]

namespace Page

variable {p : Page} {s : Stepper} {ss before behind : List Stepper} {t : Tree} {target : Handle}
  {a : StepAction}

/-! ## Clicks and steppers -/

/-- A click is prevented by the components if it asks one of the steppers among them for a step,
judged by the tree before all of them. -/
theorem snd_clickThrough_eq_prevent_iff (target : Handle) (cs : List Component) (t : Tree) :
    (clickThrough target cs t).2 = .prevent ↔
      ∃ s ∈ cs.filterMap Component.stepper?, ∃ a, s.Asks t target a := by
  induction cs generalizing t with
  | nil => simp [clickThrough]
  | cons c cs ih =>
    cases c with
    | slugSync sync => exact ih t
    | stepper r =>
      have hrest := ih (r.onClick t target).1
      -- the others are asked for the same behind the step of `r` as before it
      simp only [Stepper.asks_onClick_iff] at hrest
      show (r.onClick t target).2.and (clickThrough target cs (r.onClick t target).1).2 = _ ↔ _
      rw [DefaultAction.and_eq_prevent_iff, Stepper.snd_onClick_eq_prevent_iff, hrest,
        List.filterMap_cons_some (rfl : Component.stepper? (.stepper r) = some r),
        List.exists_mem_cons_iff]

/-- **When a click is prevented**: some stepper of the page is asked for a step. -/
theorem snd_click_eq_prevent_iff (p : Page) (target : Handle) :
    (p.click target).2 = .prevent ↔ ∃ s ∈ p.steppers, ∃ a, s.Asks p.tree target a :=
  snd_clickThrough_eq_prevent_iff target p.components p.tree

theorem foldl_onClick_of_not_asks (h : ∀ s ∈ ss, ∀ a, ¬ s.Asks t target a) :
    ss.foldl (fun t s => (s.onClick t target).1) t = t := by
  induction ss with
  | nil => rfl
  | cons s ss ih =>
    rw [List.foldl_cons, Stepper.onClick_of_not_asks (h s (.head _))]
    exact ih fun r hr => h r (.tail _ hr)

/-- A click that asks no stepper for a step leaves the page as it is. -/
theorem fst_click_of_not_asks (h : ∀ s ∈ p.steppers, ∀ a, ¬ s.Asks p.tree target a) :
    (p.click target).1 = p := by
  refine eq_of_parts_eq ?_ rfl
  rw [tree_click, foldl_onClick_of_not_asks h]

/-- **A click that asks one stepper only for a step is a click on that one**, wherever it was
mounted. -/
theorem tree_click_of_asks_one (hp : p.steppers = before ++ s :: behind)
    (h : ∀ r ∈ before ++ behind, ∀ a, ¬ r.Asks p.tree target a) :
    (p.click target).1.tree = (s.onClick p.tree target).1 := by
  have hbefore : ∀ r ∈ before, ∀ a, ¬ r.Asks p.tree target a :=
    fun r hr => h r (List.mem_append_left _ hr)
  have hbehind : ∀ r ∈ behind, ∀ a, ¬ r.Asks (s.onClick p.tree target).1 target a := by
    intro r hr a
    rw [Stepper.asks_onClick_iff]
    exact h r (List.mem_append_right _ hr) a
  rw [tree_click, hp, List.foldl_append, foldl_onClick_of_not_asks hbefore, List.foldl_cons,
    foldl_onClick_of_not_asks hbehind]

/-- **The effect of a click.**  A click is prevented if and only if some stepper is asked for a
step, and a click that is not prevented leaves the page as it is.  If one stepper only is asked for
a step then the page stays as it is unless the control has a container with a field in it; and the
tree behind the click is the one and only tree in which the first such field holds the stepped
quantity, the decrease controls of the container are inactive exactly if that quantity is zero, and
all else is as it was. -/
theorem effect_of_click (p : Page) (target : Handle) :
    ((p.click target).2 = .prevent ↔ ∃ s ∈ p.steppers, ∃ a, s.Asks p.tree target a) ∧
    ((p.click target).2 = .allow → (p.click target).1 = p) ∧
    ∀ (before behind : List Stepper) (s : Stepper) (a : StepAction),
      p.steppers = before ++ s :: behind → s.Asks p.tree target a →
      (∀ r ∈ before ++ behind, ∀ b, ¬ r.Asks p.tree target b) →
      (p.click target).2 = .prevent ∧ (p.click target).1.components = p.components ∧
      (s.container? p.tree target = none → (p.click target).1 = p) ∧
      ∀ container, s.container? p.tree target = some container →
        ((∀ field, ¬ s.IsFieldOf p.tree container field) → (p.click target).1 = p) ∧
        ∀ field, s.IsFieldOf p.tree container field →
          ∀ u, u = (p.click target).1.tree ↔ s.StepsTo p.tree u container field
            (a.apply (readQuantity (p.tree.value field))) := by
  refine ⟨p.snd_click_eq_prevent_iff target, fun hallow => ?_, ?_⟩
  · refine fst_click_of_not_asks fun s hs a ha => ?_
    have hprevent := (p.snd_click_eq_prevent_iff target).2 ⟨s, hs, a, ha⟩
    rw [hallow] at hprevent
    cases hprevent
  · intro before behind s a hp ha hothers
    have htree := tree_click_of_asks_one hp hothers
    have hs : s ∈ p.steppers := by
      rw [hp]
      exact List.mem_append_right _ (.head _)
    refine ⟨(p.snd_click_eq_prevent_iff target).2 ⟨s, hs, a, ha⟩, rfl, fun hnone => ?_, ?_⟩
    · refine eq_of_parts_eq ?_ rfl
      rw [htree]
      refine Stepper.fst_onClick_of_missing fun container hc => ?_
      rw [hnone] at hc
      cases hc
    · intro container hc
      refine ⟨fun hnone => eq_of_parts_eq ?_ rfl, fun field hf u => ?_⟩
      · rw [htree]
        refine Stepper.fst_onClick_of_missing fun other hother => ?_
        rw [hc] at hother
        rwa [← Option.some.inj hother]
      · rw [htree]
        exact Stepper.eq_onClick_iff_stepsTo ha hc hf

/-- A stepper in a layout that marks the elements of class `less`. -/
def countdownStepper (controls : List Handle) : Stepper where
  controls := controls
  layout :=
    { container := ⟨".quantity", [{ classes := ["quantity"] }]⟩
      field := ⟨"input", [{ tag := some "input" }]⟩
      decrease := ⟨".less", [{ classes := ["less"] }]⟩
      actionAttribute := "data-action"
      inactiveClass := "inactive" }

/-- A container with a control that decreases, a quantity of one and another field.  A slug sync
reads the quantity, and the first of two steppers has the fields for its controls. -/
def countdown : Page where
  tree := (((Tree.empty.append none { tag := "div", classes := .ofList ["quantity"] }).append
    (some 0) { tag := "a", classes := .ofList ["less"]
               attributes := [("data-action", " decrease ")] }).append
    (some 0) { tag := "input", value := "1" }).append
    (some 0) { tag := "input", value := "one" }
  components := [.stepper (countdownStepper [2, 3]), .slugSync ⟨[2], [3], false⟩,
    .stepper (countdownStepper [1])]

theorem effect_of_click_countdown :
    countdown.steppers = [countdownStepper [2, 3]] ++ countdownStepper [1] :: [] ∧
    (countdownStepper [1]).Asks countdown.tree 1 .decrease ∧
    (∀ r ∈ [countdownStepper [2, 3]] ++ [], ∀ b, ¬ r.Asks countdown.tree 1 b) ∧
    (countdownStepper [1]).container? countdown.tree 1 = some 0 ∧
    (countdownStepper [1]).IsFieldOf countdown.tree 0 2 ∧
    (countdown.click 1).2 = .prevent ∧
    (countdownStepper [1]).StepsTo countdown.tree (countdown.click 1).1.tree 0 2 0 := by
  have hasks : (countdownStepper [1]).Asks countdown.tree 1 .decrease :=
    ⟨by decide, " decrease ", by decide +kernel, by decide +kernel⟩
  have hothers : ∀ r ∈ [countdownStepper [2, 3]] ++ [], ∀ b, ¬ r.Asks countdown.tree 1 b := by
    intro r hr b hb
    obtain rfl : r = countdownStepper [2, 3] := by simpa using hr
    exact absurd hb.1 (by decide)
  have hcontainer : (countdownStepper [1]).container? countdown.tree 1 = some 0 := by
    decide +kernel
  have hfield : (countdownStepper [1]).IsFieldOf countdown.tree 0 2 :=
    Stepper.field?_eq_some_iff.1 (by decide +kernel)
  have hzero : StepAction.decrease.apply (readQuantity (countdown.tree.value 2)) = 0 := by
    decide +kernel
  obtain ⟨hprevent, -, -, hstep⟩ := (effect_of_click countdown 1).2.2 [countdownStepper [2, 3]] []
    (countdownStepper [1]) .decrease rfl hasks hothers
  refine ⟨rfl, hasks, hothers, hcontainer, hfield, hprevent, ?_⟩
  rw [← hzero]
  exact ((hstep 0 hcontainer).2 2 hfield _).1 rfl

end Page
end LiveForm
