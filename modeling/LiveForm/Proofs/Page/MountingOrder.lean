import LiveForm.Proofs.Page.Outline
import LiveForm.Proofs.Page.TouchedField

/-!
# The order of mounting

Components see an event in the order in which they were mounted, and each sees the tree as those
before it left it.  Still the order does not matter, as long as all steppers have one layout:

* the value of the field in which a key is released does not change while the key goes through the
  components, so all slug syncs that write at all write the same slug (`Component.onInput_comm`);
* steppers of one layout either do the same at a click or one of them does nothing
  (`Page.clickThrough_swap`).

`Page.Reorders` relates pages with the same components in different orders, and `Reorders.run` is
what follows for histories of events, `Reorders.play` for steps of a scenario.
-/

namespace LiveForm

/-! ## Key releases -/

namespace SlugSync

/-- One value in two groups of fields; the groups may overlap. -/
theorem fill_comm (t : Tree) (fields others : List Handle) (value : String) :
    fill (fill t fields value) others value = fill (fill t others value) fields value := by
  refine Tree.ext_view (fun h => ?_) (fun h => ?_)
  · rw [element?_fill, element?_fill, element?_fill, element?_fill]
    by_cases hf : h ∈ fields
    · by_cases ho : h ∈ others
      · simp only [if_pos hf, if_pos ho]
      · simp only [if_pos hf, if_neg ho]
    · simp only [if_neg hf]
  · rw [parent?_fill, parent?_fill, parent?_fill, parent?_fill]

end SlugSync

namespace Component

variable {target : Handle}

/-- The value in which a key is released stays while the key goes through a component. -/
theorem value_onInput_self (c : Component) (target : Handle) (t : Tree) :
    (c.onInput target t).2.value target = t.value target :=
  value_onInput (c.spares_afterInput_self target) t

/-- **Two components may see a key release in either order.** -/
theorem onInput_comm (c d : Component) (target : Handle) (t : Tree) :
    (d.onInput target (c.onInput target t).2).2 = (c.onInput target (d.onInput target t).2).2 := by
  -- both slugs are made of the value that stood in the target at first
  rw [d.snd_onInput target (c.onInput target t).2, c.snd_onInput target (d.onInput target t).2,
    c.value_onInput_self, d.value_onInput_self, c.snd_onInput, d.snd_onInput]
  exact SlugSync.fill_comm t _ _ _

end Component

/-! ## Clicks -/

namespace Stepper

variable {r s : Stepper} {target : Handle}

/-- A click that hits no control of the stepper does nothing. -/
theorem onClick_of_not_mem (h : target ∉ s.controls) (t : Tree) :
    s.onClick t target = (t, .allow) := by
  have haction : s.action? t target = none := if_neg fun hin => h (List.contains_iff_mem.1 hin)
  rw [onClick, haction]

/-- Steppers of one layout do the same at a click that hits a control of both. -/
theorem onClick_eq_onClick (hlayout : r.layout = s.layout) (hr : target ∈ r.controls)
    (hs : target ∈ s.controls) (t : Tree) : r.onClick t target = s.onClick t target := by
  obtain ⟨others, layout⟩ := r
  obtain ⟨controls, _⟩ := s
  subst hlayout
  have haction : (⟨others, layout⟩ : Stepper).action? t target =
      (⟨controls, layout⟩ : Stepper).action? t target :=
    (if_pos (List.contains_iff_mem.2 hr)).trans (if_pos (List.contains_iff_mem.2 hs)).symm
  rw [onClick, onClick, haction]
  rfl

end Stepper

namespace Component

variable {c d : Component} {target : Handle}

/-- The component does nothing at a click on `target`. -/
def IdleAt (target : Handle) (c : Component) : Prop :=
  ∀ t, c.onClick target t = (t, .allow)

/-- Of two components whose steppers have one layout, one is idle at a click or both do the same. -/
theorem idleAt_or_onClick_eq
    (h : ∀ r ∈ c.stepper?, ∀ s ∈ d.stepper?, r.layout = s.layout) (target : Handle) :
    c.IdleAt target ∨ d.IdleAt target ∨ c.onClick target = d.onClick target := by
  cases c with
  | slugSync s => exact .inl fun t => rfl
  | stepper r =>
    cases d with
    | slugSync s => exact .inr (.inl fun t => rfl)
    | stepper s =>
      by_cases hr : target ∈ r.controls
      · by_cases hs : target ∈ s.controls
        · exact .inr (.inr (funext (Stepper.onClick_eq_onClick (h r rfl s rfl) hr hs)))
        · exact .inr (.inl (Stepper.onClick_of_not_mem hs))
      · exact .inl (Stepper.onClick_of_not_mem hr)

end Component

/-! ## Events that go through components -/

namespace Page

variable {cs ds : List Component} {c d : Component} {target : Handle}

theorem snd_inputThrough_perm (h : cs.Perm ds) (target : Handle) (t : Tree) :
    (inputThrough target cs t).2 = (inputThrough target ds t).2 := by
  induction h generalizing t with
  | nil => rfl
  | cons c _ ih => exact ih (c.onInput target t).2
  | swap d c cs =>
    exact congrArg (fun t => (inputThrough target cs t).2) (c.onInput_comm d target t)
  | trans _ _ ih₁ ih₂ => exact (ih₁ t).trans (ih₂ t)

theorem clickThrough_cons_of_idleAt (h : c.IdleAt target) (cs : List Component) (t : Tree) :
    clickThrough target (c :: cs) t = clickThrough target cs t := by
  rw [clickThrough, h t]
  rfl

theorem clickThrough_swap_of_idleAt (h : c.IdleAt target) (d : Component) (cs : List Component)
    (t : Tree) : clickThrough target (c :: d :: cs) t = clickThrough target (d :: c :: cs) t := by
  have hbehind : ∀ u, clickThrough target (c :: cs) u = clickThrough target cs u :=
    clickThrough_cons_of_idleAt h cs
  rw [clickThrough_cons_of_idleAt h, clickThrough, clickThrough]
  simp only [hbehind]

/-- **Two components whose steppers have one layout may see a click in either order.** -/
theorem clickThrough_swap (h : ∀ r ∈ c.stepper?, ∀ s ∈ d.stepper?, r.layout = s.layout)
    (cs : List Component) (t : Tree) :
    clickThrough target (c :: d :: cs) t = clickThrough target (d :: c :: cs) t := by
  rcases Component.idleAt_or_onClick_eq h target with hidle | hidle | hsame
  · exact clickThrough_swap_of_idleAt hidle d cs t
  · exact (clickThrough_swap_of_idleAt hidle c cs t).symm
  · simp only [clickThrough, hsame]

/-- All steppers among the components have one layout. -/
def OneLayout (cs : List Component) : Prop :=
  ∀ c ∈ cs, ∀ d ∈ cs, ∀ r ∈ c.stepper?, ∀ s ∈ d.stepper?, r.layout = s.layout

theorem clickThrough_perm (h : cs.Perm ds) (hone : OneLayout cs) (target : Handle) (t : Tree) :
    clickThrough target cs t = clickThrough target ds t := by
  induction h generalizing t with
  | nil => rfl
  | cons c _ ih =>
    have hcs := ih fun c hc d hd => hone c (.tail _ hc) d (.tail _ hd)
    simp only [clickThrough, hcs]
  | swap d c cs => exact clickThrough_swap (hone c (.head _) d (.tail _ (.head _))) cs t
  | trans h₁ _ ih₁ ih₂ =>
    refine (ih₁ hone t).trans (ih₂ (fun c hc d hd => ?_) t)
    exact hone c (h₁.mem_iff.2 hc) d (h₁.mem_iff.2 hd)

/-! ## Pages -/

/-- The page `q` has the tree of `p` and the components of `p` in some order, and all steppers have
one layout. -/
structure Reorders (p q : Page) : Prop where
  tree : q.tree = p.tree
  perm : p.components.Perm q.components
  oneLayout : OneLayout p.components

variable {p q : Page}

theorem Reorders.setValue (h : p.Reorders q) (target : Handle) (value : String) :
    Reorders { p with tree := p.tree.setValue target value }
      { q with tree := q.tree.setValue target value } where
  tree := by rw [h.tree]
  perm := h.perm
  oneLayout := h.oneLayout

theorem Reorders.input (h : p.Reorders q) (target : Handle) :
    (p.input target).Reorders (q.input target) where
  tree := by
    show (inputThrough target q.components q.tree).2 = (inputThrough target p.components p.tree).2
    rw [h.tree]
    exact (snd_inputThrough_perm h.perm target p.tree).symm
  perm := by
    rw [components_input, components_input]
    exact h.perm.map _
  oneLayout := by
    intro c hc d hd r hr s hs
    rw [components_input] at hc hd
    obtain ⟨c', hc', rfl⟩ := List.mem_map.1 hc
    obtain ⟨d', hd', rfl⟩ := List.mem_map.1 hd
    rw [Component.stepper?_afterInput] at hr hs
    exact h.oneLayout c' hc' d' hd' r hr s hs

theorem Reorders.clickThrough_eq (h : p.Reorders q) (target : Handle) :
    clickThrough target q.components q.tree = clickThrough target p.components p.tree := by
  rw [h.tree]
  exact (clickThrough_perm h.perm h.oneLayout target p.tree).symm

theorem Reorders.click (h : p.Reorders q) (target : Handle) :
    (p.click target).1.Reorders (q.click target).1 where
  tree := congrArg Prod.fst (h.clickThrough_eq target)
  perm := h.perm
  oneLayout := h.oneLayout

theorem Reorders.snd_click (h : p.Reorders q) (target : Handle) :
    (q.click target).2 = (p.click target).2 :=
  congrArg (fun result : Tree × DefaultAction => result.2) (h.clickThrough_eq target)

/-- An event keeps pages with the same components together. -/
theorem Reorders.after (h : p.Reorders q) (event : Event) :
    (p.after event).Reorders (q.after event) := by
  cases event with
  | input target => exact h.input target
  | typeInto target text => exact (h.setValue target text).input target
  | click target => exact h.click target

/-- **The order of mounting does not matter for histories of events.** -/
theorem Reorders.run (h : p.Reorders q) (events : List Event) :
    (p.run events).Reorders (q.run events) := by
  induction events generalizing p q with
  | nil => exact h
  | cons event events ih => exact ih (h.after event)

end Page

/-! ## Steps of a scenario -/

namespace Page

variable {p p' q : Page} {number : Nat} {step : ScenarioStep} {steps : List ScenarioStep}
  {outcome : StepOutcome} {outcomes : List StepOutcome}

theorem Reorders.snd_clickAll (h : p.Reorders q) (targets : List Handle) :
    (q.clickAll targets).2 = (p.clickAll targets).2 := by
  induction targets generalizing p q with
  | nil => rfl
  | cons target targets ih =>
    have hrest : ((q.click target).1.clickAll targets).2 =
        ((p.click target).1.clickAll targets).2 := ih (h.click target)
    show (q.click target).2.and ((q.click target).1.clickAll targets).2 =
      (p.click target).2.and ((p.click target).1.clickAll targets).2
    rw [h.snd_click, hrest]

theorem Reorders.snd_doStep (h : p.Reorders q) (targets : List Handle) (step : ScenarioStep) :
    (q.doStep targets step).2 = (p.doStep targets step).2 := by
  cases step with
  | input target value => rfl
  | keyUp target => rfl
  | click target => exact congrArg some (h.snd_clickAll targets)

/-- A step does the same to pages with the same components, and reports the same. -/
theorem Reorders.play (h : p.Reorders q) (hp : p.play number step = .ok (p', outcome)) :
    ∃ q', q.play number step = .ok (q', outcome) ∧ p'.Reorders q' := by
  obtain ⟨selector, hselector, hsome, hr⟩ := play_eq_ok_iff.1 hp
  obtain ⟨rfl, rfl⟩ := Prod.mk.inj hr
  have hdone : (p.doStep (p.tree.query selector) step).1.Reorders
      (q.doStep (p.tree.query selector) step).1 := by
    rw [fst_doStep, fst_doStep]
    exact h.run _
  refine ⟨(q.doStep (p.tree.query selector) step).1, ?_, hdone⟩
  refine play_eq_ok_iff.2 ⟨selector, hselector, ?_, ?_⟩
  · rwa [h.tree]
  · rw [h.tree, hdone.tree, h.snd_doStep]

/-- **The order of mounting does not matter for what a scenario does and reports.** -/
theorem Reorders.playAll (h : p.Reorders q) (hp : p.playAll number steps = .ok (p', outcomes)) :
    ∃ q', q.playAll number steps = .ok (q', outcomes) ∧ p'.Reorders q' := by
  induction steps generalizing p q number outcomes with
  | nil =>
    obtain ⟨rfl, rfl⟩ := Prod.mk.inj (Except.ok.inj hp)
    exact ⟨q, rfl, h⟩
  | cons step steps ih =>
    obtain ⟨⟨p₁, outcome⟩, hfirst, hrest⟩ := bind_eq_ok_iff.1 hp
    obtain ⟨⟨p₂, rest⟩, hlater, hdone⟩ := bind_eq_ok_iff.1 hrest
    obtain ⟨rfl, rfl⟩ := Prod.mk.inj (Except.ok.inj hdone)
    obtain ⟨q₁, hfirst', h₁⟩ := h.play hfirst
    obtain ⟨q₂, hlater', h₂⟩ := ih h₁ hlater
    refine ⟨q₂, ?_, h₂⟩
    exact bind_eq_ok_iff.2 ⟨(q₁, outcome), hfirst', bind_eq_ok_iff.2 ⟨(q₂, rest), hlater', rfl⟩⟩

end Page
end LiveForm
