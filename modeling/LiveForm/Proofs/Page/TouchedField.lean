import LiveForm.Proofs.Page.Dispatch

/-!
# Fields the user has touched

A slug sync writes into its destinations until a key is released in one of them.  So once a key is
released in a field, no slug sync writes into that field any more: the ones that could have been
edited for good.

* `Component.Spares`: a component is no slug sync that may still write into a field.
* `Page.Settled`: all components spare a field.  Key releases in the field bring this about
  (`settled_input_self`, `settled_typeInto_self`) and no event ends it (`Settled.after`).
* `Page.value_after_of_settled`: a settled field changes only by what is typed into it and by steps
  of its quantity.
* `touched_field_keeps_its_value`: the main statement, with what it means for steps of a scenario.
-/

namespace LiveForm

/-! ## What spares a field -/

namespace Component

variable {c : Component} {target e : Handle}

/-- The component is no slug sync that may still write into `e`. -/
def Spares (e : Handle) : Component → Prop
  | .slugSync s => e ∈ s.destinations → s.edited = true
  | .stepper _ => True

/-- A key release in a field makes every component spare the field: the destinations are looked at
before the sources. -/
theorem spares_afterInput_self (c : Component) (e : Handle) : (c.afterInput e).Spares e := by
  cases c with
  | slugSync s =>
    intro h
    show (s.edited || s.destinations.contains e) = true
    rw [Bool.or_eq_true, List.contains_iff_mem]
    exact .inr h
  | stepper s => trivial

theorem Spares.afterInput (h : c.Spares e) (target : Handle) : (c.afterInput target).Spares e := by
  cases c with
  | slugSync s =>
    intro he
    show (s.edited || s.destinations.contains target) = true
    rw [h he, Bool.true_or]
  | stepper s => trivial

/-- A component that spares a field behind a key release has not written into it. -/
theorem value_onInput (h : (c.afterInput target).Spares e) (t : Tree) :
    (c.onInput target t).2.value e = t.value e := by
  cases c with
  | slugSync s =>
    show (s.onInput t target).2.value e = t.value e
    rw [SlugSync.snd_onInput]
    split
    · next hw =>
      -- a sync that writes has not been edited, so the field is none of its destinations
      rw [Bool.and_eq_true, Bool.not_eq_true'] at hw
      refine SlugSync.value_fill_of_not_mem t (fun he => ?_) _
      have hedited : (s.afterInput target).edited = true := h he
      rw [hw.2] at hedited
      cases hedited
    · rfl
  | stepper s => rfl

end Component

/-! ## Events -/

namespace Event

/-- The field in which an event releases a key. -/
def keyIn? : Event → Option Handle
  | .input target => some target
  | .typeInto target _ => some target
  | .click _ => none

/-- The tree as it is when an event releases its key: a typed value stands there already. -/
def typed (t : Tree) : Event → Tree
  | .input _ => t
  | .typeInto target text => t.setValue target text
  | .click _ => t

end Event

namespace Page

variable {p : Page} {e : Handle}

/-- No component of the page may still write a slug into `e`. -/
def Settled (p : Page) (e : Handle) : Prop := ∀ c ∈ p.components, c.Spares e

theorem settled_input_self (p : Page) (e : Handle) : (p.input e).Settled e := by
  intro c hc
  rw [components_input, List.mem_map] at hc
  obtain ⟨d, -, rfl⟩ := hc
  exact d.spares_afterInput_self e

theorem settled_typeInto_self (p : Page) (e : Handle) (text : String) :
    (p.typeInto e text).Settled e :=
  settled_input_self { p with tree := p.tree.setValue e text } e

theorem Settled.input (h : p.Settled e) (target : Handle) : (p.input target).Settled e := by
  intro c hc
  rw [components_input, List.mem_map] at hc
  obtain ⟨d, hd, rfl⟩ := hc
  exact (h d hd).afterInput target

theorem Settled.typeInto (h : p.Settled e) (target : Handle) (text : String) :
    (p.typeInto target text).Settled e :=
  Settled.input (p := { p with tree := p.tree.setValue target text }) h target

/-- No event ends that a field is settled. -/
theorem Settled.after (h : p.Settled e) (event : Event) : (p.after event).Settled e := by
  cases event with
  | input target => exact h.input target
  | typeInto target text => exact h.typeInto target text
  | click target => exact h

theorem Settled.run (h : p.Settled e) (events : List Event) : (p.run events).Settled e := by
  induction events generalizing p with
  | nil => exact h
  | cons event events ih => exact ih (h.after event)

/-- A field in which a key is released is settled. -/
theorem settled_after_of_keyIn {touch : Event} (h : touch.keyIn? = some e) (p : Page) :
    (p.after touch).Settled e := by
  cases touch with
  | input target =>
    obtain rfl := Option.some.inj h
    exact p.settled_input_self target
  | typeInto target text =>
    obtain rfl := Option.some.inj h
    exact p.settled_typeInto_self target text
  | click target => cases h

/-! ## Values of settled fields -/

theorem value_inputThrough {target : Handle} {cs : List Component} {t : Tree}
    (h : ∀ c ∈ cs, (c.afterInput target).Spares e) :
    (inputThrough target cs t).2.value e = t.value e := by
  induction cs generalizing t with
  | nil => rfl
  | cons c cs ih =>
    exact (ih fun d hd => h d (.tail _ hd)).trans (Component.value_onInput (h c (.head _)) t)

/-- A key release leaves a field alone that it leaves settled. -/
theorem value_input {target : Handle} (h : (p.input target).Settled e) :
    (p.input target).tree.value e = p.tree.value e := by
  refine value_inputThrough fun c hc => h _ ?_
  rw [components_input]
  exact List.mem_map_of_mem hc

theorem value_typeInto {target : Handle} {text : String}
    (h : (p.typeInto target text).Settled e) :
    (p.typeInto target text).tree.value e = (p.tree.setValue target text).value e :=
  value_input (p := { p with tree := p.tree.setValue target text }) h

/-- **An event changes a settled field only by what is typed into it, or by a step of its
quantity.** -/
theorem value_after_of_settled (h : p.Settled e) (event : Event) :
    (p.after event).tree.value e = p.tree.value e ∨ (∃ text, event = .typeInto e text) ∨
      ∃ target, event = .click target ∧ p.Steps target e := by
  cases event with
  | input target => exact .inl (value_input (h.input target))
  | typeInto target text =>
    by_cases ht : target = e
    · exact .inr (.inl ⟨text, by rw [ht]⟩)
    · refine .inl ((value_typeInto (h.typeInto target text)).trans ?_)
      exact Tree.value_setValue_of_ne _ ht text
  | click target =>
    by_cases hs : p.Steps target e
    · exact .inr (.inr ⟨target, rfl, hs⟩)
    · exact .inl (value_click hs)

/-! ## Typing one text into several fields -/

/-- Typing the value that a settled field has into other fields, or again into it, leaves it
there. -/
theorem value_foldl_typeInto_of_settled {v : String} (targets : List Handle) (h : p.Settled e)
    (he : e < p.tree.size) (hv : p.tree.value e = v) :
    (targets.foldl (fun p h => p.typeInto h v) p).tree.value e = v := by
  induction targets generalizing p with
  | nil => exact hv
  | cons target targets ih =>
    refine ih (h.typeInto target v) (by rwa [size_typeInto]) ?_
    rw [value_typeInto (h.typeInto target v)]
    by_cases ht : target = e
    · subst ht
      exact Tree.value_setValue_self _ he v
    · rw [Tree.value_setValue_of_ne _ ht, hv]

/-- A text typed into several fields in turn is the value of all of them at the end. -/
theorem value_foldl_typeInto {v : String} {targets : List Handle} (he : e ∈ targets)
    (hsize : e < p.tree.size) :
    (targets.foldl (fun p h => p.typeInto h v) p).tree.value e = v := by
  induction targets generalizing p with
  | nil => cases he
  | cons target targets ih =>
    have hsize' : e < (p.typeInto target v).tree.size := by rwa [size_typeInto]
    rcases List.mem_cons.1 he with rfl | he
    · refine value_foldl_typeInto_of_settled targets (p.settled_typeInto_self e v) hsize' ?_
      rw [value_typeInto (p.settled_typeInto_self e v)]
      exact Tree.value_setValue_self _ hsize v
    · exact ih he hsize'

/-! ## Touched fields -/

/-- **A field the user has touched is not overwritten by a slug sync**, whatever components are on
the page and however their fields overlap.  The key release itself leaves the value that stands in
the field, and each later event changes it only by what is typed into the field or by a step of its
quantity.  In particular a step of a scenario that types a text leaves this text in every element
that it picks. -/
theorem touched_field_keeps_its_value (p : Page) (e : Handle) (touch : Event)
    (htouch : touch.keyIn? = some e) :
    (p.after touch).tree.value e = (touch.typed p.tree).value e ∧
    (∀ (events : List Event) (event : Event),
      ((p.after touch).run (events ++ [event])).tree.value e =
          ((p.after touch).run events).tree.value e ∨
        (∃ text, event = .typeInto e text) ∨
        ∃ target, event = .click target ∧ ((p.after touch).run events).Steps target e) ∧
    ∀ (number : Nat) (target v : String) (q : Page) (outcome : StepOutcome),
      p.play number (.input target v) = .ok (q, outcome) →
        ∃ selector, Selector.parse target = .ok selector ∧
          ∀ h ∈ p.tree.query selector, q.tree.value h = v := by
  have hsettled : (p.after touch).Settled e := settled_after_of_keyIn htouch p
  refine ⟨?_, fun events event => ?_, fun number target v q outcome hplay => ?_⟩
  · cases touch with
    | input target => exact value_input hsettled
    | typeInto target text => exact value_typeInto hsettled
    | click target => cases htouch
  · rw [run_append]
    exact value_after_of_settled (hsettled.run events) event
  · obtain ⟨selector, hselector, -, hq⟩ := play_eq_ok hplay
    refine ⟨selector, hselector, fun h hh => ?_⟩
    rw [hq]
    exact value_foldl_typeInto hh (Tree.lt_size_of_mem_query hh)

/-- Two fields; one slug sync goes back and forth between them, another one from the first to the
second. -/
def sharedFields : Page where
  tree := (Tree.empty.append none { tag := "input" }).append none { tag := "input" }
  components := [.slugSync { sources := [0, 1], destinations := [1, 0] },
    .slugSync { sources := [0], destinations := [1] }]

theorem touched_field_keeps_its_value_sharedFields :
    Event.keyIn? (.typeInto 1 "Mine") = some 1 ∧
    (sharedFields.after (.typeInto 1 "Mine")).tree.value 1 = "Mine" ∧
    ((sharedFields.after (.typeInto 1 "Mine")).run [.typeInto 0 "Not Mine"]).tree.value 1 =
      "Mine" ∧
    ∃ q outcome, sharedFields.play 1 (.input "input" "Ours") = .ok (q, outcome) ∧
      q.tree.value 0 = "Ours" ∧ q.tree.value 1 = "Ours" := by
  obtain ⟨htyped, hlater, hplay⟩ :=
    touched_field_keeps_its_value sharedFields 1 (.typeInto 1 "Mine") rfl
  have hmine : (sharedFields.after (.typeInto 1 "Mine")).tree.value 1 = "Mine" :=
    htyped.trans (Tree.value_setValue_self _ (by decide) "Mine")
  have hquery : (Selector.parse "input").toOption.map sharedFields.tree.query = some [0, 1] := by
    decide +kernel
  have hdone : (sharedFields.play 1 (.input "input" "Ours")).toOption.isSome = true := by
    decide +kernel
  refine ⟨rfl, hmine, ?_, ?_⟩
  · rcases hlater [] (.typeInto 0 "Not Mine") with h | ⟨text, h⟩ | ⟨target, h, -⟩
    · exact h.trans hmine
    · cases h
    · cases h
  · cases hstep : sharedFields.play 1 (.input "input" "Ours") with
    | error e =>
      rw [hstep] at hdone
      cases hdone
    | ok r =>
      obtain ⟨selector, hselector, hours⟩ := hplay 1 "input" "Ours" r.1 r.2 hstep
      rw [hselector] at hquery
      have hpicked : sharedFields.tree.query selector = [0, 1] := Option.some.inj hquery
      rw [hpicked] at hours
      exact ⟨r.1, r.2, rfl, hours 0 (by simp), hours 1 (by simp)⟩

end Page
end LiveForm
