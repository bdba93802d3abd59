import Mathlib.Data.List.Induction
import LiveForm.Proofs.Page.Outline

/-!
# The page that a scenario describes

* `Scenario.Describes`: a tree has the element of each entry in order, and no two of them have one
  id.
* `Scenario.describes_of_buildTree`: a tree that could be built is described by its entries.
* `Page.foldlM_mount_eq_ok_iff`: mounting components one after another appends them, and leaves the
  tree alone; so each of them can be looked at by itself.
* `Scenario.buildPage_eq_ok_iff`: what the page of a scenario is made of.
-/

namespace LiveForm

open List (Forall₂)

/-! ## The tree -/

namespace Tree

variable {t : Tree} {h : Handle} {id : String}

/-- Nothing is found under an id exactly if no element has it. -/
theorem findById?_eq_none_iff :
    t.findById? id = none ↔ ∀ h e, t.element? h = some e → e.id ≠ some id := by
  rw [findById?, List.find?_eq_none]
  constructor
  · intro hnone h e he hid
    have hin : h < t.size := element?_isSome_iff.1 (by rw [he]; rfl)
    refine hnone h (List.mem_range.2 hin) ?_
    rw [he, Option.any_some, hid]
    exact beq_self_eq_true _
  · intro hother h _ hfound
    rw [Option.any_eq_true] at hfound
    obtain ⟨e, he, hid⟩ := hfound
    exact hother h e he (eq_of_beq hid)

end Tree

namespace Scenario

variable {t u : Tree} {e : ElementEntry} {entries before : List ElementEntry}

/-- The tree has the element of each entry in order, and no two of them have one id. -/
structure Describes (entries : List ElementEntry) (t : Tree) : Prop where
  element?_eq : ∀ h, t.element? h = entries[h]?.map ElementEntry.element
  id_unique : ∀ h i d e id, t.element? h = some d → t.element? i = some e →
    d.id = some id → e.id = some id → h = i

theorem Describes.size_eq (h : Describes entries t) : t.size = entries.length := by
  refine Tree.size_eq_of_forall fun i => ?_
  rw [h.element?_eq, Option.isSome_map, isSome_getElem?]

/-- What adding the element of an entry comes to, if it can be done. -/
theorem addElement_eq_ok (h : addElement t e = .ok u) :
    ∃ parent, u = t.append parent e.element ∧ ∀ id, e.id = some id → t.findById? id = none := by
  obtain ⟨parent, -, h⟩ := bind_eq_ok_iff.1 h
  refine ⟨parent, ?_⟩
  split at h
  · next hid =>
    refine ⟨(Except.ok.inj h).symm, fun id hsome => ?_⟩
    rw [hid] at hsome
    cases hsome
  · next id hid =>
    split at h
    · cases h
    · next hfound =>
      refine ⟨(Except.ok.inj h).symm, fun other hsome => ?_⟩
      rw [hid, Option.some_inj] at hsome
      rw [← hsome]
      exact Option.not_isSome_iff_eq_none.1 hfound

theorem Describes.addElement (ht : Describes before t) (h : addElement t e = .ok u) :
    Describes (before ++ [e]) u := by
  obtain ⟨parent, rfl, hfresh⟩ := addElement_eq_ok h
  have hsize := ht.size_eq
  -- the new element has an id of its own, so it is not in the way of an older one
  have hnew : ∀ i d id, t.element? i = some d → d.id = some id → e.id ≠ some id :=
    fun i d id hd hid hnew => Tree.findById?_eq_none_iff.1 (hfresh id hnew) i d hd hid
  constructor
  · intro i
    rw [Tree.element?_append, hsize]
    rcases Nat.lt_trichotomy i before.length with hlt | heq | hgt
    · rw [if_neg (Nat.ne_of_lt hlt), ht.element?_eq, List.getElem?_append_left hlt]
    · rw [if_pos heq, heq, List.getElem?_concat_length]
      rfl
    · rw [if_neg (Nat.ne_of_gt hgt), ht.element?_eq, List.getElem?_eq_none (Nat.le_of_lt hgt),
        List.getElem?_eq_none (by rw [List.length_append]; exact hgt)]
  · intro i j c d id hc hd hcid hdid
    rw [Tree.element?_append] at hc hd
    split at hc
    · next hi =>
      obtain rfl := Option.some.inj hc
      split at hd
      · next hj => rw [hi, hj]
      · exact absurd hcid (hnew j d id hd hdid)
    · split at hd
      · obtain rfl := Option.some.inj hd
        exact absurd hdid (hnew i c id hc hcid)
      · exact ht.id_unique i j c d id hc hd hcid hdid

theorem buildTree_concat (entries : List ElementEntry) (e : ElementEntry) :
    buildTree (entries ++ [e]) = buildTree entries >>= fun t => addElement t e := by
  rw [buildTree, List.foldlM_append]
  refine congrArg _ (funext fun t => ?_)
  rw [List.foldlM_cons]
  cases addElement t e <;> rfl

theorem describes_nil : Describes [] .empty := by
  constructor
  · intro h
    rw [Tree.element?_empty]
    rfl
  · intro h i d e id hd
    rw [Tree.element?_empty] at hd
    cases hd

/-- **A tree that could be built is described by its entries.** -/
theorem describes_of_buildTree (h : buildTree entries = .ok t) : Describes entries t := by
  induction entries using List.reverseRecOn generalizing t with
  | nil =>
    obtain rfl := Except.ok.inj h
    exact describes_nil
  | append_singleton before e ih =>
    rw [buildTree_concat] at h
    obtain ⟨u, hu, h⟩ := bind_eq_ok_iff.1 h
    exact (ih hu).addElement h

end Scenario

/-! ## Mounting -/

namespace Page

variable {α ε : Type} {p q : Page} {entries : List α}

/-- Mounting for each entry a component that depends on the tree and on the entry only. -/
theorem foldlM_mount_eq_ok_iff {mount? : Page → α → Except ε Page}
    {Binds : Tree → α → Component → Prop}
    (hmount : ∀ p entry q, mount? p entry = .ok q ↔ ∃ c, Binds p.tree entry c ∧ q = p.mount c) :
    entries.foldlM mount? p = .ok q ↔
      ∃ cs, Forall₂ (Binds p.tree) entries cs ∧ q = ⟨p.tree, p.components ++ cs⟩ := by
  induction entries generalizing p with
  | nil =>
    rw [List.foldlM_nil]
    constructor
    · intro h
      refine ⟨[], .nil, ?_⟩
      rw [List.append_nil]
      exact (Except.ok.inj h).symm
    · rintro ⟨cs, hcs, rfl⟩
      obtain rfl := List.forall₂_nil_left_iff.1 hcs
      rw [List.append_nil]
      rfl
  | cons entry entries ih =>
    rw [List.foldlM_cons, bind_eq_ok_iff]
    constructor
    · rintro ⟨r, hr, hq⟩
      obtain ⟨c, hc, rfl⟩ := (hmount p entry r).1 hr
      obtain ⟨cs, hcs, rfl⟩ := ih.1 hq
      refine ⟨c :: cs, .cons hc hcs, ?_⟩
      rw [mount, List.append_assoc, List.singleton_append]
    · rintro ⟨all, hall, rfl⟩
      obtain ⟨c, cs, hc, hcs, rfl⟩ := List.forall₂_cons_left_iff.1 hall
      refine ⟨p.mount c, (hmount p entry _).2 ⟨c, hc, rfl⟩, ih.2 ⟨cs, hcs, ?_⟩⟩
      rw [mount, List.append_assoc, List.singleton_append]

/-- The component of the slug sync that an entry describes, on a tree. -/
def BindsSync (t : Tree) (entry : SyncEntry) (c : Component) : Prop :=
  ∃ source destination, Selector.parse entry.source = .ok source ∧
    Selector.parse entry.destination = .ok destination ∧
    c = .slugSync (.bind t source destination)

/-- The component of the stepper of some controls, on a tree. -/
def BindsStepper (settings : StepperSettings) (t : Tree) (controls : String) (c : Component) :
    Prop :=
  ∃ selector layout, Selector.parse controls = .ok selector ∧ settings.layout = .ok layout ∧
    c = .stepper (.bind t selector layout)

theorem bindSlugSync_eq_ok_iff {entry : SyncEntry} :
    p.bindSlugSync entry.source entry.destination = .ok q ↔
      ∃ c, BindsSync p.tree entry c ∧ q = p.mount c := by
  constructor
  · intro h
    obtain ⟨source, hsource, h⟩ := bind_eq_ok_iff.1 h
    obtain ⟨destination, hdestination, h⟩ := bind_eq_ok_iff.1 h
    exact ⟨_, ⟨source, destination, hsource, hdestination, rfl⟩, (Except.ok.inj h).symm⟩
  · rintro ⟨c, ⟨source, destination, hsource, hdestination, rfl⟩, rfl⟩
    exact bind_eq_ok_iff.2 ⟨source, hsource, bind_eq_ok_iff.2 ⟨destination, hdestination, rfl⟩⟩

theorem bindStepper_eq_ok_iff {settings : StepperSettings} {controls : String} :
    (p.bindStepper controls settings).map Prod.fst = .ok q ↔
      ∃ c, BindsStepper settings p.tree controls c ∧ q = p.mount c := by
  rw [map_eq_ok_iff]
  constructor
  · rintro ⟨⟨r, stepper⟩, hr, rfl⟩
    obtain ⟨selector, hselector, hr⟩ := bind_eq_ok_iff.1 hr
    obtain ⟨layout, hlayout, hr⟩ := bind_eq_ok_iff.1 hr
    obtain ⟨rfl, -⟩ := Prod.mk.inj (Except.ok.inj hr)
    exact ⟨_, ⟨selector, layout, hselector, hlayout, rfl⟩, rfl⟩
  · rintro ⟨c, ⟨selector, layout, hselector, hlayout, rfl⟩, rfl⟩
    refine ⟨(_, .bind p.tree selector layout), ?_, rfl⟩
    exact bind_eq_ok_iff.2 ⟨selector, hselector, bind_eq_ok_iff.2 ⟨layout, hlayout, rfl⟩⟩

end Page

/-! ## The page of a scenario -/

namespace Scenario

variable {s : Scenario} {settings : StepperSettings} {p : Page}

/-- **The page of a scenario** has its tree, and a component for each slug sync and for each stepper
that depends on the tree and on its own entry only. -/
theorem buildPage_eq_ok_iff :
    s.buildPage settings = .ok p ↔
      ∃ tree syncs steppers, buildTree s.elements = .ok tree ∧
        Forall₂ (Page.BindsSync tree) s.syncs syncs ∧
        Forall₂ (Page.BindsStepper settings tree) s.steppers steppers ∧
        p = ⟨tree, syncs ++ steppers⟩ := by
  have hsync : ∀ (p : Page) (entry : SyncEntry) (q : Page),
      (p.bindSlugSync entry.source entry.destination).mapError ReplayError.selector = .ok q ↔
        ∃ c, Page.BindsSync p.tree entry c ∧ q = p.mount c := by
    intro p entry q
    rw [mapError_eq_ok_iff, Page.bindSlugSync_eq_ok_iff]
  have hstepper : ∀ (p : Page) (controls : String) (q : Page),
      ((p.bindStepper controls settings).map Prod.fst).mapError ReplayError.selector = .ok q ↔
        ∃ c, Page.BindsStepper settings p.tree controls c ∧ q = p.mount c := by
    intro p controls q
    rw [mapError_eq_ok_iff, Page.bindStepper_eq_ok_iff]
  rw [buildPage, bind_eq_ok_iff]
  constructor
  · rintro ⟨tree, htree, h⟩
    obtain ⟨q, hq, h⟩ := bind_eq_ok_iff.1 h
    obtain ⟨syncs, hsyncs, rfl⟩ := (Page.foldlM_mount_eq_ok_iff hsync).1 hq
    obtain ⟨steppers, hsteppers, rfl⟩ := (Page.foldlM_mount_eq_ok_iff hstepper).1 h
    exact ⟨tree, syncs, steppers, htree, hsyncs, hsteppers, rfl⟩
  · rintro ⟨tree, syncs, steppers, htree, hsyncs, hsteppers, rfl⟩
    refine ⟨tree, htree, bind_eq_ok_iff.2 ⟨⟨tree, syncs⟩, ?_, ?_⟩⟩
    · exact (Page.foldlM_mount_eq_ok_iff hsync).2 ⟨syncs, hsyncs, rfl⟩
    · exact (Page.foldlM_mount_eq_ok_iff hstepper).2 ⟨steppers, hsteppers, rfl⟩

/-- All steppers of the page of a scenario have the layout of the settings. -/
theorem layout_of_mem {syncs steppers : List Component} {t : Tree}
    (hsyncs : Forall₂ (Page.BindsSync t) s.syncs syncs)
    (hsteppers : Forall₂ (Page.BindsStepper settings t) s.steppers steppers) {c : Component}
    (hc : c ∈ syncs ++ steppers) {r : Stepper} (hr : r ∈ c.stepper?) :
    settings.layout = .ok r.layout := by
  rcases List.mem_append.1 hc with hc | hc
  · obtain ⟨entry, -, source, destination, -, -, rfl⟩ := exists_mem_left_of_forall₂ hsyncs hc
    cases hr
  · obtain ⟨controls, -, selector, layout, -, hlayout, rfl⟩ :=
      exists_mem_left_of_forall₂ hsteppers hc
    obtain rfl := Option.some.inj hr
    exact hlayout

end Scenario
end LiveForm
