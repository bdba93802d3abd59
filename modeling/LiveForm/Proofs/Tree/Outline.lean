import LiveForm.Tree

/-!
# The outline of a tree

The *outline* of a tree under a class name is all of the tree but values and that class.  Selectors
that do not mention the class cannot tell trees of one outline apart.

* `Tree.outline_setValue`, `Tree.outline_addClass`, `Tree.outline_removeClass`: writing values and
  the class keeps the outline.
* `Selector.Mentions`, `Selector.selects_outline`: a selector that does not mention the class looks
  at the outline only.
* `Tree.ancestors_congr`, `Tree.query_congr`, `Tree.queryWithin_congr`, `Tree.closest?_congr`: so
  lookups in trees of one outline give the same.
* `Tree.eq_of_outline_eq`: a tree is its outline, its values and the class that the outline leaves
  out.
* `Tree.mem_ancestors_or_of_mem_ancestors`: two ancestors of an element stand one above the other.
-/

namespace LiveForm

/-! ## Elements -/

namespace Element

variable {name : String} {e : Element}

/-- The element without its value and without a class. -/
def outline (name : String) (e : Element) : Element := (e.removeClass name).withValue ""

@[simp] theorem outline_withValue (name : String) (e : Element) (value : String) :
    (e.withValue value).outline name = e.outline name := rfl

@[simp] theorem outline_addClass (name : String) (e : Element) :
    (e.addClass name).outline name = e.outline name := by
  have h : (e.classes.insert name).erase name = e.classes.erase name := by
    ext x
    rw [NameSet.mem_erase, NameSet.mem_insert, NameSet.mem_erase]
    exact ⟨fun hx => ⟨hx.1.resolve_left hx.2, hx.2⟩, fun hx => ⟨.inr hx.1, hx.2⟩⟩
  simp [outline, addClass, removeClass, withValue, h]

@[simp] theorem outline_removeClass (name : String) (e : Element) :
    (e.removeClass name).outline name = e.outline name := by
  have h : (e.classes.erase name).erase name = e.classes.erase name := by
    ext x
    rw [NameSet.mem_erase, NameSet.mem_erase]
    exact and_iff_left_of_imp And.right
  simp [outline, removeClass, withValue, h]

/-- Other classes belong to the outline. -/
theorem hasClass_outline {other : String} (h : other ≠ name) (e : Element) :
    (e.outline name).hasClass other = e.hasClass other := by
  have hmem : other ∈ e.classes.erase name ↔ other ∈ e.classes := by
    rw [NameSet.mem_erase]
    exact and_iff_left h
  rw [Bool.eq_iff_iff]
  exact NameSet.contains_iff.trans (hmem.trans NameSet.contains_iff.symm)

/-- An element is its outline, its value and the class that the outline leaves out. -/
theorem eq_of_outline_eq {f : Element}
    (ho : e.outline name = f.outline name) (hvalue : e.value = f.value)
    (hclass : e.hasClass name = f.hasClass name) : e = f := by
  have hclasses : e.classes = f.classes := by
    refine NameSet.ext fun other => ?_
    rw [← NameSet.contains_iff, ← NameSet.contains_iff]
    refine Bool.eq_iff_iff.1 ?_
    show e.hasClass other = f.hasClass other
    by_cases hother : other = name
    · rw [hother, hclass]
    · rw [← hasClass_outline hother e, ho, hasClass_outline hother f]
  have hrest : e.tag = f.tag ∧ e.id = f.id ∧ e.attributes = f.attributes := by
    rw [outline, outline, Element.mk.injEq] at ho
    exact ⟨ho.1, ho.2.1, ho.2.2.2.1⟩
  cases e
  cases f
  obtain ⟨rfl, rfl, rfl⟩ := hrest
  cases hvalue
  cases hclasses
  rfl

end Element

/-! ## Selectors -/

/-- The selector asks for a class in one of its alternatives. -/
def Selector.Mentions (s : Selector) (name : String) : Prop :=
  ∃ c ∈ s.alternatives, name ∈ c.classes

/-- A compound that does not ask for a class holds for an outline if it holds for the element. -/
theorem Compound.holdsFor_outline {c : Compound} {name : String} (h : name ∉ c.classes)
    (e : Element) : c.holdsFor (e.outline name) = c.holdsFor e := by
  have hclasses : c.classes.all (e.outline name).hasClass = c.classes.all e.hasClass := by
    rw [Bool.eq_iff_iff, List.all_eq_true, List.all_eq_true]
    refine forall₂_congr fun other hother => ?_
    have hne : other ≠ name := fun heq => h (by rwa [← heq])
    rw [Element.hasClass_outline hne]
  unfold holdsFor
  rw [hclasses]
  rfl

/-- **A selector that does not mention a class looks at the outline only.** -/
theorem Selector.selects_outline {s : Selector} {name : String} (h : ¬ s.Mentions name)
    (e : Element) : s.selects (e.outline name) = s.selects e := by
  have hnot : ∀ c ∈ s.alternatives, name ∉ c.classes := fun c hc hn => h ⟨c, hc, hn⟩
  rw [selects, selects, Bool.eq_iff_iff, List.any_eq_true, List.any_eq_true]
  refine exists_congr fun c => and_congr_right fun hc => ?_
  rw [Compound.holdsFor_outline (hnot c hc)]

/-! ## Trees -/

namespace Tree

variable {t u : Tree} {name : String} {s : Selector} {a b h i root : Handle}

/-- What a handle names but for its value and a class, and the parent of that. -/
def outline (name : String) (t : Tree) (h : Handle) : Option Element × Option Handle :=
  ((t.element? h).map (·.outline name), t.parent? h)

/-- A change of one element that keeps the outline of elements keeps the outline of the tree. -/
theorem outline_modify {f : Element → Element} (hf : ∀ e, (f e).outline name = e.outline name)
    (t : Tree) (h : Handle) : (t.modify h f).outline name = t.outline name := by
  funext i
  rw [outline, element?_modify, parent?_modify, outline]
  split
  · cases t.element? i with
    | none => rfl
    | some e => simp [hf e]
  · rfl

@[simp] theorem outline_setValue (name : String) (t : Tree) (h : Handle) (value : String) :
    (t.setValue h value).outline name = t.outline name :=
  outline_modify (fun e => e.outline_withValue name value) t h

@[simp] theorem outline_addClass (name : String) (t : Tree) (h : Handle) :
    (t.addClass h name).outline name = t.outline name :=
  outline_modify (fun e => e.outline_addClass name) t h

@[simp] theorem outline_removeClass (name : String) (t : Tree) (h : Handle) :
    (t.removeClass h name).outline name = t.outline name :=
  outline_modify (fun e => e.outline_removeClass name) t h

/-- The size is the number below which all handles name an element, and no others do. -/
theorem size_eq_of_forall {n : Nat} (h : ∀ i, (t.element? i).isSome = true ↔ i < n) :
    t.size = n := by
  have hin : ∀ i, i < t.size ↔ i < n := fun i => element?_isSome_iff.symm.trans (h i)
  have hsize := hin t.size
  have hn := hin n
  omega

/-! ## Lookups in trees of one outline -/

theorem map_outline_congr (ho : u.outline name = t.outline name) (h : Handle) :
    (u.element? h).map (·.outline name) = (t.element? h).map (·.outline name) :=
  congrArg Prod.fst (congrFun ho h)

theorem parent?_congr (ho : u.outline name = t.outline name) (h : Handle) :
    u.parent? h = t.parent? h :=
  congrArg Prod.snd (congrFun ho h)

/-- **A tree is its outline, its values and the class that the outline leaves out.** -/
theorem eq_of_outline_eq (ho : u.outline name = t.outline name)
    (hvalue : ∀ h, u.value h = t.value h)
    (hclass : ∀ h, u.hasClass h name = t.hasClass h name) : u = t := by
  refine ext_view (fun h => ?_) (parent?_congr ho)
  have houtline := map_outline_congr ho h
  have hvalue := hvalue h
  have hclass := hclass h
  rw [value, value] at hvalue
  rw [hasClass, hasClass] at hclass
  cases hu : u.element? h with
  | none =>
    cases ht : t.element? h with
    | none => rfl
    | some f =>
      rw [hu, ht] at houtline
      cases houtline
  | some e =>
    cases ht : t.element? h with
    | none =>
      rw [hu, ht] at houtline
      cases houtline
    | some f =>
      rw [hu, ht] at houtline hvalue hclass
      rw [Element.eq_of_outline_eq (Option.some.inj houtline) hvalue hclass]

/-- What is made of the outline of an element is the same in both trees. -/
theorem view_congr (ho : u.outline name = t.outline name) {β : Type} (view : Option Element → β)
    (hview : ∀ x : Option Element, view (x.map (·.outline name)) = view x) (h : Handle) :
    view (u.element? h) = view (t.element? h) := by
  rw [← hview (u.element? h), ← hview (t.element? h), map_outline_congr ho]

/-- What can be told from the outline of an element is told alike of both trees. -/
theorem any_congr (ho : u.outline name = t.outline name) {test : Element → Bool}
    (htest : ∀ e, test (e.outline name) = test e) (h : Handle) :
    (u.element? h).any test = (t.element? h).any test := by
  refine view_congr ho (·.any test) (fun x => ?_) h
  cases x with
  | none => rfl
  | some e => exact htest e

theorem size_congr (ho : u.outline name = t.outline name) : u.size = t.size := by
  refine size_eq_of_forall fun h => ?_
  have hsome := congrArg Option.isSome (map_outline_congr ho h)
  rw [Option.isSome_map, Option.isSome_map] at hsome
  rw [hsome, element?_isSome_iff]

theorem picks_congr (ho : u.outline name = t.outline name) (hs : ¬ s.Mentions name) (h : Handle) :
    u.picks s h = t.picks s h :=
  any_congr ho (Selector.selects_outline hs) h

theorem attribute?_congr (ho : u.outline name = t.outline name) (h : Handle) (key : String) :
    u.attribute? h key = t.attribute? h key := by
  refine view_congr ho (fun x => x.bind (·.attribute? key)) (fun x => ?_) h
  cases x with
  | none => rfl
  | some e => rfl

/-- Tag, id and attributes belong to the outline. -/
theorem frame_congr (ho : u.outline name = t.outline name) (h : Handle) :
    (u.element? h).map (fun e => (e.tag, e.id, e.attributes)) =
      (t.element? h).map fun e => (e.tag, e.id, e.attributes) := by
  refine view_congr ho (Option.map fun e => (e.tag, e.id, e.attributes)) (fun x => ?_) h
  rw [Option.map_map]
  rfl

/-- Other classes belong to the outline. -/
theorem hasClass_congr (ho : u.outline name = t.outline name) {other : String} (hne : other ≠ name)
    (h : Handle) : u.hasClass h other = t.hasClass h other :=
  any_congr ho (fun e => e.hasClass_outline hne) h

/-- The ancestors depend on the parents only. -/
theorem ancestors_congr (hparent : ∀ i, u.parent? i = t.parent? i) (h : Handle) :
    u.ancestors h = t.ancestors h := by
  cases hp : t.parent? h with
  | none =>
    rw [ancestors_of_parent?_eq_none hp, ancestors_of_parent?_eq_none ((hparent h).trans hp)]
  | some p =>
    have hlt : p < h := t.parent?_lt hp
    rw [ancestors_of_parent?_eq_some hp, ancestors_of_parent?_eq_some ((hparent h).trans hp),
      ancestors_congr hparent p]
termination_by h

theorem query_congr (ho : u.outline name = t.outline name) (hs : ¬ s.Mentions name) :
    u.query s = t.query s := by
  have hpicks : u.picks s = t.picks s := funext (picks_congr ho hs)
  rw [query, query, handles, handles, size_congr ho, hpicks]

theorem queryWithin_congr (ho : u.outline name = t.outline name) (hs : ¬ s.Mentions name)
    (root : Handle) : u.queryWithin root s = t.queryWithin root s := by
  rw [queryWithin, queryWithin, query_congr ho hs]
  refine List.filter_congr fun h _ => ?_
  rw [isDescendant, isDescendant, ancestors_congr (parent?_congr ho)]

theorem closest?_congr (ho : u.outline name = t.outline name) (hs : ¬ s.Mentions name)
    (h : Handle) : u.closest? h s = t.closest? h s := by
  have hpicks : u.picks s = t.picks s := funext (picks_congr ho hs)
  rw [closest?, closest?, ancestors_congr (parent?_congr ho), hpicks]

/-! ## What a selector picks -/

/-- Only elements of the tree pass a test. -/
theorem lt_size_of_any {test : Element → Bool} (hany : (t.element? h).any test = true) :
    h < t.size := by
  rw [← element?_isSome_iff]
  cases he : t.element? h with
  | none =>
    rw [he] at hany
    cases hany
  | some e => rfl

theorem mem_query_iff : h ∈ t.query s ↔ t.picks s h = true := by
  have hsize : t.picks s h = true → h < t.size := lt_size_of_any
  rw [query, List.mem_filter, handles, List.mem_range]
  exact and_iff_right_of_imp hsize

/-- What is picked is listed in document order, each element once. -/
theorem pairwise_query (t : Tree) (s : Selector) : (t.query s).Pairwise (· < ·) :=
  List.pairwise_lt_range.filter _

/-- What is found below an element is picked and stands below it. -/
theorem mem_queryWithin_iff :
    h ∈ t.queryWithin root s ↔ t.picks s h = true ∧ root ∈ t.ancestors h := by
  rw [queryWithin, List.mem_filter, mem_query_iff, isDescendant, List.contains_iff_mem]

theorem pairwise_queryWithin (t : Tree) (root : Handle) (s : Selector) :
    (t.queryWithin root s).Pairwise (· < ·) :=
  (t.pairwise_query s).filter _

/-- The first element that is found below another one. -/
theorem head?_queryWithin_eq_some_iff :
    (t.queryWithin root s).head? = some h ↔ (t.picks s h = true ∧ root ∈ t.ancestors h) ∧
      ∀ i, t.picks s i = true → root ∈ t.ancestors i → h ≤ i := by
  rw [← mem_queryWithin_iff]
  have hmem : ∀ i, t.picks s i = true ∧ root ∈ t.ancestors i ↔ i ∈ t.queryWithin root s :=
    fun i => mem_queryWithin_iff.symm
  have hsorted := t.pairwise_queryWithin root s
  simp only [← and_imp, hmem]
  cases hfound : t.queryWithin root s with
  | nil => simp
  | cons first rest =>
    rw [hfound, List.pairwise_cons] at hsorted
    rw [List.head?_cons, Option.some_inj]
    constructor
    · rintro rfl
      refine ⟨.head _, fun i hi => ?_⟩
      rcases List.mem_cons.1 hi with rfl | hi
      · exact Nat.le_refl _
      · exact Nat.le_of_lt (hsorted.1 i hi)
    · rintro ⟨hin, hfirst⟩
      rcases List.mem_cons.1 hin with rfl | hin
      · rfl
      · exact absurd (hsorted.1 h hin) (Nat.not_lt.2 (hfirst first (.head _)))

/-- **Two ancestors of an element stand one above the other.** -/
theorem mem_ancestors_or_of_mem_ancestors {h : Handle} (ha : a ∈ t.ancestors h)
    (hb : b ∈ t.ancestors h) :
    a = b ∨ a ∈ t.ancestors b ∨ b ∈ t.ancestors a := by
  cases hp : t.parent? h with
  | none =>
    rw [ancestors_of_parent?_eq_none hp] at ha
    cases ha
  | some p =>
    have hlt : p < h := t.parent?_lt hp
    rw [ancestors_of_parent?_eq_some hp, List.mem_cons] at ha hb
    rcases ha with rfl | ha
    · rcases hb with rfl | hb
      · exact .inl rfl
      · exact .inr (.inr hb)
    · rcases hb with rfl | hb
      · exact .inr (.inl ha)
      · exact mem_ancestors_or_of_mem_ancestors ha hb
termination_by h

end Tree
end LiveForm
