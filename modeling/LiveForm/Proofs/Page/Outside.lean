import Mathlib.Data.List.Induction
import LiveForm.Proofs.Page.KeyRelease
import LiveForm.Proofs.Scenario.Building
import LiveForm.Proofs.Tree.Ancestry

/-!
# Handles outside the tree

A handle may name an element that is not there, or not yet: trees only grow, and a handle beyond the
tree is the place of an element still to come.  What is done to such a handle has no effect at all,
and the element that comes to stand there later does not notice.

The reason is an invariant.  A component takes its handles from the tree when it is bound, so all of
them are in the tree (`Page.HandlesInside`), and no component cares about any other.

* `Deed`, `Page.did`, `Page.made`: all that can be done to a page, and the pages that come about.
* `Page.did_cases`: what a deed makes of a page; `HandlesInside.did` and `size_le_size_did` are read
  off it.
* `Page.Ignores`: nothing that is done to a handle changes the page; `HandlesInside.ignores`.
* `Page.made_filter_of_size_le`: what was done to a handle before its element came can be left out.
* `Page.outside_handles_are_inert`: the main statement.
-/

namespace LiveForm

/-! ## Deeds -/

/-- The handle that an edit changes. -/
def Edit.target? : Edit → Option Handle
  | .append _ _ => none
  | .setValue h _ => some h
  | .addClass h _ => some h
  | .removeClass h _ => some h

/-- The handle at which an event happens. -/
def Event.target : Event → Handle
  | .input target => target
  | .typeInto target _ => target
  | .click target => target

/-- Something that is done to a page. -/
inductive Deed where
  /-- Its tree is changed, without an event. -/
  | edit (e : Edit)
  /-- A slug sync is bound on its tree and mounted. -/
  | bindSlugSync (source destination : String)
  /-- A stepper is bound on its tree and mounted. -/
  | bindStepper (controls : String) (settings : StepperSettings)
  | event (e : Event)

/-- The handle that something is done to. -/
def Deed.target? : Deed → Option Handle
  | .edit e => e.target?
  | .bindSlugSync _ _ => none
  | .bindStepper _ _ => none
  | .event e => some e.target

namespace Page

/-- The page after a deed.  A component whose selectors cannot be read is not mounted. -/
def did (p : Page) : Deed → Page
  | .edit e => { p with tree := p.tree.edited e }
  | .bindSlugSync source destination => (p.bindSlugSync source destination).toOption.getD p
  | .bindStepper controls settings =>
      ((p.bindStepper controls settings).map Prod.fst).toOption.getD p
  | .event e => p.after e

/-- The page that a sequence of deeds makes of the empty one. -/
def made (deeds : List Deed) : Page := deeds.foldl did {}

theorem made_concat (deeds : List Deed) (d : Deed) : made (deeds ++ [d]) = (made deeds).did d := by
  rw [made, List.foldl_append]
  rfl

end Page

/-! ## Trees -/

namespace Tree

variable {t : Tree} {h : Handle}

theorem modify_of_size_le (hh : t.size ≤ h) (f : Element → Element) : t.modify h f = t := by
  refine ext_view (fun i => ?_) (fun i => parent?_modify ..)
  rw [element?_modify]
  split
  · next heq =>
    rw [← heq, element?_eq_none_iff.2 hh]
    rfl
  · rfl

/-- Parents are in the tree. -/
theorem parent?_lt_size {p : Handle} (hp : t.parent? h = some p) : p < t.size :=
  Nat.lt_trans (t.parent?_lt hp) (lt_size_of_parent?_eq_some hp)

end Tree

/-! ## Components -/

namespace Component

variable {c : Component} {target : Handle}

/-- The handles that a component holds. -/
def handles : Component → List Handle
  | .slugSync s => s.sources ++ s.destinations
  | .stepper s => s.controls

theorem handles_afterInput (c : Component) (target : Handle) :
    (c.afterInput target).handles = c.handles := by
  cases c <;> rfl

/-- A component is not changed by a key release in a place that it does not hold. -/
theorem afterInput_of_notMem (h : target ∉ c.handles) : c.afterInput target = c := by
  cases c with
  | slugSync s =>
    have hdestinations : s.destinations.contains target = false := by
      rw [Bool.eq_false_iff]
      exact fun hmem => h (List.mem_append_right _ (List.contains_iff_mem.1 hmem))
    refine congrArg Component.slugSync ?_
    rw [SlugSync.afterInput, hdestinations, Bool.or_false]
  | stepper s => rfl

theorem filledAt_of_notMem (h : target ∉ c.handles) : c.filledAt target = [] := by
  cases c with
  | slugSync s =>
    refine if_neg fun hwrites => h (List.mem_append_left _ ?_)
    rw [Bool.and_eq_true, List.contains_iff_mem] at hwrites
    exact hwrites.1
  | stepper s => rfl

theorem idleAt_of_notMem (h : target ∉ c.handles) : c.IdleAt target := by
  cases c with
  | slugSync s => exact fun t => rfl
  | stepper s => exact Stepper.onClick_of_not_mem h

end Component

/-! ## Pages -/

namespace Page

variable {p q : Page} {h target : Handle} {d : Deed}

/-- All handles that the components hold are in the tree. -/
def HandlesInside (p : Page) : Prop := ∀ c ∈ p.components, ∀ h ∈ c.handles, h < p.tree.size

theorem HandlesInside.notMem (hp : p.HandlesInside) (hh : p.tree.size ≤ h) :
    ∀ c ∈ p.components, h ∉ c.handles :=
  fun c hc hmem => Nat.not_lt.2 hh (hp c hc h hmem)

theorem HandlesInside.mount (hp : p.HandlesInside) {c : Component}
    (hc : ∀ h ∈ c.handles, h < p.tree.size) : (p.mount c).HandlesInside := by
  intro d hd
  rcases List.mem_append.1 hd with hd | hd
  · exact hp d hd
  · rw [List.mem_singleton.1 hd]
    exact hc

theorem HandlesInside.input (hp : p.HandlesInside) (target : Handle) :
    (p.input target).HandlesInside := by
  intro c hc
  rw [components_input, List.mem_map] at hc
  obtain ⟨d, hd, rfl⟩ := hc
  rw [d.handles_afterInput, p.size_input]
  exact hp d hd

/-- Events change neither the handles of components nor the size of the tree. -/
theorem HandlesInside.after (hp : p.HandlesInside) (event : Event) :
    (p.after event).HandlesInside := by
  cases event with
  | input target => exact hp.input target
  | typeInto target text =>
    refine HandlesInside.input (p := { p with tree := p.tree.setValue target text }) ?_ target
    intro c hc
    rw [Tree.size_setValue]
    exact hp c hc
  | click target =>
    intro c hc
    rw [size_after]
    exact hp c hc

/-! ## What deeds make of a page -/

theorem exists_mount_of_bindSlugSync {source destination : String}
    (hq : p.bindSlugSync source destination = .ok q) :
    ∃ c : Component, q = p.mount c ∧ ∀ h ∈ c.handles, h < p.tree.size := by
  let entry : SyncEntry := ⟨source, destination⟩
  have hentry : p.bindSlugSync entry.source entry.destination = .ok q := hq
  obtain ⟨c, ⟨s, t, -, -, rfl⟩, rfl⟩ := bindSlugSync_eq_ok_iff.1 hentry
  refine ⟨_, rfl, fun h hmem => ?_⟩
  rcases List.mem_append.1 hmem with hmem | hmem
  · exact Tree.lt_size_of_mem_query hmem
  · exact Tree.lt_size_of_mem_query hmem

theorem exists_mount_of_bindStepper {controls : String} {settings : StepperSettings}
    (hq : (p.bindStepper controls settings).map Prod.fst = .ok q) :
    ∃ c : Component, q = p.mount c ∧ ∀ h ∈ c.handles, h < p.tree.size := by
  obtain ⟨c, ⟨s, layout, -, -, rfl⟩, rfl⟩ := bindStepper_eq_ok_iff.1 hq
  exact ⟨_, rfl, fun h hmem => Tree.lt_size_of_mem_query hmem⟩

/-- **What a deed makes of a page**: it edits the tree, is an event, mounts a component that has its
handles from the tree, or leaves the page as it is. -/
theorem did_cases (p : Page) (d : Deed) :
    (∃ e, p.did d = { p with tree := p.tree.edited e }) ∨ (∃ e, p.did d = p.after e) ∨
    (∃ c : Component, p.did d = p.mount c ∧ ∀ h ∈ c.handles, h < p.tree.size) ∨ p.did d = p := by
  cases d with
  | edit e => exact .inl ⟨e, rfl⟩
  | event e => exact .inr (.inl ⟨e, rfl⟩)
  | bindSlugSync source destination =>
    rw [did]
    cases hq : p.bindSlugSync source destination with
    | ok q => exact .inr (.inr (.inl (exists_mount_of_bindSlugSync hq)))
    | error e => exact .inr (.inr (.inr rfl))
  | bindStepper controls settings =>
    rw [did]
    cases hq : (p.bindStepper controls settings).map Prod.fst with
    | ok q => exact .inr (.inr (.inl (exists_mount_of_bindStepper hq)))
    | error e => exact .inr (.inr (.inr rfl))

theorem size_le_size_did (p : Page) (d : Deed) : p.tree.size ≤ (p.did d).tree.size := by
  obtain ⟨e, hd⟩ | ⟨e, hd⟩ | ⟨c, hd, -⟩ | hd := p.did_cases d
  · rw [hd]
    exact p.tree.size_le_size_edited e
  · rw [hd, size_after]
  · rw [hd, Page.mount]
  · rw [hd]

/-- No deed puts a handle outside the tree into a component. -/
theorem HandlesInside.did (hp : p.HandlesInside) (d : Deed) : (p.did d).HandlesInside := by
  obtain ⟨e, hd⟩ | ⟨e, hd⟩ | ⟨c, hd, hc⟩ | hd := p.did_cases d
  · rw [hd]
    exact fun c hc h hmem => Nat.lt_of_lt_of_le (hp c hc h hmem) (p.tree.size_le_size_edited e)
  · rw [hd]
    exact hp.after e
  · rw [hd]
    exact hp.mount hc
  · rwa [hd]

/-- **The handles that components hold are in the tree**, whatever is done to a page. -/
theorem handlesInside_made (deeds : List Deed) : (made deeds).HandlesInside := by
  induction deeds using List.reverseRecOn with
  | nil => exact fun c hc => absurd hc List.not_mem_nil
  | append_singleton deeds d ih =>
    rw [made_concat]
    exact ih.did d

/-! ## What is done outside the tree -/

/-- A key released where no component holds a handle. -/
theorem input_of_notMem (hnone : ∀ c ∈ p.components, target ∉ c.handles) :
    p.input target = p := by
  refine eq_of_parts_eq ?_ ?_
  · have hfields : p.components.flatMap (·.filledAt target) = [] :=
      List.flatMap_eq_nil_iff.2 fun c hc => Component.filledAt_of_notMem (hnone c hc)
    rw [tree_input, hfields, SlugSync.fill_nil]
  · have hsame : ∀ c ∈ p.components, c.afterInput target = id c :=
      fun c hc => Component.afterInput_of_notMem (hnone c hc)
    rw [components_input, List.map_congr_left hsame, List.map_id]

theorem clickThrough_of_idleAt {cs : List Component} (h : ∀ c ∈ cs, c.IdleAt target) (t : Tree) :
    clickThrough target cs t = (t, .allow) := by
  induction cs with
  | nil => rfl
  | cons c cs ih =>
    rw [List.forall_mem_cons] at h
    rw [clickThrough_cons_of_idleAt h.1, ih h.2]

/-- A click where no component holds a handle. -/
theorem click_of_notMem (hnone : ∀ c ∈ p.components, target ∉ c.handles) :
    p.click target = (p, .allow) := by
  rw [click, clickThrough_of_idleAt fun c hc => Component.idleAt_of_notMem (hnone c hc)]

/-- Nothing that is done to `h` changes the page, and a click there is not prevented. -/
structure Ignores (p : Page) (h : Handle) : Prop where
  input : p.input h = p
  typeInto : ∀ text, p.typeInto h text = p
  click : p.click h = (p, .allow)
  setValue : ∀ value, p.tree.setValue h value = p.tree
  addClass : ∀ name, p.tree.addClass h name = p.tree
  removeClass : ∀ name, p.tree.removeClass h name = p.tree

/-- A page ignores the handles outside its tree. -/
theorem HandlesInside.ignores (hp : p.HandlesInside) (hh : p.tree.size ≤ h) : p.Ignores h where
  input := input_of_notMem (hp.notMem hh)
  typeInto := by
    intro text
    rw [typeInto, Tree.setValue, Tree.modify_of_size_le hh]
    exact input_of_notMem (hp.notMem hh)
  click := click_of_notMem (hp.notMem hh)
  setValue := fun _ => Tree.modify_of_size_le hh _
  addClass := fun _ => Tree.modify_of_size_le hh _
  removeClass := fun _ => Tree.modify_of_size_le hh _

theorem Ignores.edited {e : Edit} (hi : p.Ignores h) (he : e.target? = some h) :
    p.tree.edited e = p.tree := by
  cases e with
  | append parent e => cases he
  | setValue i value =>
    obtain rfl := Option.some.inj he
    exact hi.setValue value
  | addClass i name =>
    obtain rfl := Option.some.inj he
    exact hi.addClass name
  | removeClass i name =>
    obtain rfl := Option.some.inj he
    exact hi.removeClass name

theorem Ignores.after {e : Event} (hi : p.Ignores e.target) : p.after e = p := by
  cases e with
  | input target => exact hi.input
  | typeInto target text => exact hi.typeInto text
  | click target => exact congrArg Prod.fst hi.click

/-- What is done to a handle that a page ignores leaves the page as it is. -/
theorem Ignores.did (hi : p.Ignores h) (hd : d.target? = some h) : p.did d = p := by
  cases d with
  | edit e => exact eq_of_parts_eq (hi.edited hd) rfl
  | bindSlugSync source destination => cases hd
  | bindStepper controls settings => cases hd
  | event e =>
    obtain rfl := Option.some.inj hd
    exact hi.after

/-- **What was done to a handle before its element came can be left out.**  By induction from the
end: trees do not shrink, so the handle was outside the tree all the time. -/
theorem made_filter_of_size_le {deeds : List Deed} (hh : (made deeds).tree.size ≤ h) :
    made (deeds.filter (·.target? ≠ some h)) = made deeds := by
  induction deeds using List.reverseRecOn with
  | nil => rfl
  | append_singleton deeds d ih =>
    rw [made_concat] at hh ⊢
    have hbefore : (made deeds).tree.size ≤ h := Nat.le_trans (size_le_size_did _ d) hh
    rw [List.filter_append]
    by_cases hd : d.target? = some h
    · have hdrop : [d].filter (·.target? ≠ some h) = [] := by simp [hd]
      rw [hdrop, List.append_nil, ih hbefore,
        ((handlesInside_made deeds).ignores hbefore).did hd]
    · have hkeep : [d].filter (·.target? ≠ some h) = [d] := by simp [hd]
      rw [hkeep, made_concat, ih hbefore]

/-- **Handles outside the tree are inert.**  However a page came about, its components hold handles
of its tree only, and so do its elements for their parents.  So key releases, typed texts, clicks
and edits at a handle outside the tree leave the page as it is, with the latches of its slug syncs,
and such a click is not prevented.  When an element is appended at last that takes this handle, the
page is the same as if nothing had been done to the handle before, and the element stands there as
it was given. -/
theorem outside_handles_are_inert (deeds : List Deed) :
    (∀ c ∈ (made deeds).components, ∀ h ∈ c.handles, h < (made deeds).tree.size) ∧
    (∀ h q, (made deeds).tree.parent? h = some q → q < (made deeds).tree.size) ∧
    ∀ h, (made deeds).tree.size ≤ h →
      (made deeds).Ignores h ∧
      ∀ parent e, h = (made deeds).tree.size →
        made (deeds ++ [.edit (.append parent e)]) =
          made (deeds.filter (·.target? ≠ some h) ++ [.edit (.append parent e)]) ∧
        (made (deeds ++ [.edit (.append parent e)])).tree.element? h = some e := by
  refine ⟨handlesInside_made deeds, fun h q => Tree.parent?_lt_size, fun h hh => ?_⟩
  refine ⟨(handlesInside_made deeds).ignores hh, fun parent e hsize => ⟨?_, ?_⟩⟩
  · rw [made_concat, made_concat, made_filter_of_size_le hh]
  · rw [made_concat]
    show ((made deeds).tree.append parent e).element? h = some e
    rw [Tree.element?_append, if_pos hsize]

/-- A box with a field that is its own slug field, and deeds at a third element, which is not there
yet. -/
def lateField : List Deed :=
  [.edit (.append none { tag := "div" }), .edit (.append (some 0) { tag := "input" }),
    .event (.typeInto 2 "early"), .bindSlugSync "input" "input", .edit (.setValue 2 "Early"),
    .bindStepper "div a" {}, .event (.click 2), .edit (.addClass 2 "new"), .event (.input 2)]

theorem outside_handles_are_inert_lateField :
    (made lateField).components = [.slugSync ⟨[1], [1], false⟩] ∧
    (made lateField).tree.parent? 1 = some 0 ∧ 0 < (made lateField).tree.size ∧
    (made lateField).tree.size = 2 ∧ (made lateField).typeInto 2 "late" = made lateField ∧
    (made lateField).click 2 = (made lateField, .allow) ∧
    (made (lateField ++ [.edit (.append none { tag := "input" })])).tree.element? 2 =
      some { tag := "input" } := by
  have hcomponents : (made lateField).components = [.slugSync ⟨[1], [1], false⟩] := by
    decide +kernel
  have hparent : (made lateField).tree.parent? 1 = some 0 := by decide +kernel
  have hsize : (made lateField).tree.size = 2 := by decide +kernel
  obtain ⟨-, hparents, houtside⟩ := outside_handles_are_inert lateField
  obtain ⟨hignores, happended⟩ := houtside 2 (Nat.le_of_eq hsize)
  exact ⟨hcomponents, hparent, hparents 1 0 hparent, hsize, hignores.typeInto "late",
    hignores.click, (happended none { tag := "input" } hsize.symm).2⟩

end Page
end LiveForm
