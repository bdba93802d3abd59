import LiveForm.Proofs.Tree.Outline
import Mathlib.Data.List.Find

/-!
# Trees that agree on a region

Two trees *agree on a region* if they have the same shape, and the same elements in the region.  A
lookup that stays in the region gives the same in both, and a change that is made to both keeps them
in agreement; a change outside the region keeps a tree in agreement with what it was.

* `Tree.AgreeOn.closest?_eq`, `Tree.AgreeOn.queryWithin_eq`: the lookups, each with the part of the
  tree in which it looks.
* `Tree.AgreeOn.modify`, `Tree.AgreeOn.foldl`: changes made to both trees.
* `Tree.agreeOn_modify`, `Tree.agreeOn_foldl`: changes outside the region.
* `Tree.AgreeOn.eq_of_union`: trees that agree on two regions that cover everything are equal.
* `Tree.Apart`: two elements of which neither is the other nor stands below it; nothing stands below
  both (`Tree.Apart.not_mem_of_mem`).
-/

namespace LiveForm
namespace Tree

variable {region other : Handle → Prop} {t u v : Tree} {a b i root : Handle} {s : Selector}

/-- Two trees have the same shape, and the same elements in a region. -/
structure AgreeOn (region : Handle → Prop) (t u : Tree) : Prop where
  size_eq : u.size = t.size
  parent?_eq : ∀ h, u.parent? h = t.parent? h
  element?_eq : ∀ h, region h → u.element? h = t.element? h

namespace AgreeOn

theorem refl (region : Handle → Prop) (t : Tree) : t.AgreeOn region t where
  size_eq := rfl
  parent?_eq _ := rfl
  element?_eq _ _ := rfl

theorem symm (h : t.AgreeOn region u) : u.AgreeOn region t where
  size_eq := h.size_eq.symm
  parent?_eq i := (h.parent?_eq i).symm
  element?_eq i hi := (h.element?_eq i hi).symm

theorem trans (h : t.AgreeOn region u) (h' : u.AgreeOn region v) : t.AgreeOn region v where
  size_eq := h'.size_eq.trans h.size_eq
  parent?_eq i := (h'.parent?_eq i).trans (h.parent?_eq i)
  element?_eq i hi := (h'.element?_eq i hi).trans (h.element?_eq i hi)

/-- Trees that agree on two regions that cover everything are equal. -/
theorem eq_of_union (h : t.AgreeOn region u) (h' : t.AgreeOn other u)
    (hcover : ∀ i, region i ∨ other i) : u = t := by
  refine ext_view (fun i => ?_) h.parent?_eq
  rcases hcover i with hi | hi
  · exact h.element?_eq i hi
  · exact h'.element?_eq i hi

/-! ## Lookups -/

theorem ancestors_eq (h : t.AgreeOn region u) (i : Handle) : u.ancestors i = t.ancestors i :=
  ancestors_congr h.parent?_eq i

theorem value_eq (h : t.AgreeOn region u) (hi : region i) : u.value i = t.value i := by
  rw [value, value, h.element?_eq i hi]

theorem attribute?_eq (h : t.AgreeOn region u) (hi : region i) (name : String) :
    u.attribute? i name = t.attribute? i name := by
  rw [attribute?, attribute?, h.element?_eq i hi]

theorem picks_eq (h : t.AgreeOn region u) (hi : region i) : u.picks s i = t.picks s i := by
  rw [picks, picks, h.element?_eq i hi]

/-- The nearest pick depends on the element and its ancestors. -/
theorem closest?_eq (h : t.AgreeOn region u) (hi : region i)
    (habove : ∀ j ∈ t.ancestors i, region j) : u.closest? i s = t.closest? i s := by
  rw [closest?, closest?, h.ancestors_eq]
  refine List.find?_congr fun j hj => h.picks_eq ?_
  rcases List.mem_cons.1 hj with rfl | hj
  · exact hi
  · exact habove j hj

/-- What is picked below an element depends on what stands there. -/
theorem queryWithin_eq (h : t.AgreeOn region u) (hbelow : ∀ j, root ∈ t.ancestors j → region j) :
    u.queryWithin root s = t.queryWithin root s := by
  rw [queryWithin, query, handles, h.size_eq, queryWithin, query, handles, List.filter_filter,
    List.filter_filter]
  refine List.filter_congr fun j _ => ?_
  rw [isDescendant, isDescendant, h.ancestors_eq]
  cases hroot : (t.ancestors j).contains root with
  | false => rfl
  | true => rw [h.picks_eq (hbelow j (List.contains_iff_mem.1 hroot))]

/-! ## The same change in both trees -/

theorem modify (h : t.AgreeOn region u) (i : Handle) (f : Element → Element) :
    (t.modify i f).AgreeOn region (u.modify i f) where
  size_eq := by rw [size_modify, size_modify, h.size_eq]
  parent?_eq j := by rw [parent?_modify, parent?_modify, h.parent?_eq]
  element?_eq j hj := by rw [element?_modify, element?_modify, h.element?_eq j hj]

theorem foldl {change : Tree → Handle → Tree}
    (hchange : ∀ t u : Tree, t.AgreeOn region u → ∀ i,
      (change t i).AgreeOn region (change u i))
    (h : t.AgreeOn region u) (handles : List Handle) :
    (handles.foldl change t).AgreeOn region (handles.foldl change u) := by
  induction handles generalizing t u with
  | nil => exact h
  | cons i handles ih => exact ih (hchange t u h i)

end AgreeOn

/-! ## Changes outside the region -/

theorem agreeOn_modify (hi : ¬ region i) (t : Tree) (f : Element → Element) :
    t.AgreeOn region (t.modify i f) where
  size_eq := size_modify ..
  parent?_eq j := parent?_modify ..
  element?_eq j hj := by
    have hne : i ≠ j := fun heq => hi (by rwa [heq])
    rw [element?_modify, if_neg hne]

theorem agreeOn_foldl {change : Tree → Handle → Tree} {handles : List Handle}
    (hchange : ∀ i ∈ handles, ∀ t : Tree, t.AgreeOn region (change t i)) (t : Tree) :
    t.AgreeOn region (handles.foldl change t) := by
  induction handles generalizing t with
  | nil => exact .refl region t
  | cons i handles ih =>
    rw [List.forall_mem_cons] at hchange
    exact (hchange.1 t).trans (ih hchange.2 (change t i))

/-! ## Elements apart from each other -/

/-- What stands above an ancestor stands above the element. -/
theorem mem_ancestors_trans {c : Handle} (hab : a ∈ t.ancestors b)
    (hbc : b ∈ t.ancestors c) : a ∈ t.ancestors c := by
  cases hp : t.parent? c with
  | none =>
    rw [ancestors_of_parent?_eq_none hp] at hbc
    cases hbc
  | some p =>
    have hlt : p < c := t.parent?_lt hp
    rw [ancestors_of_parent?_eq_some hp, List.mem_cons] at hbc ⊢
    rcases hbc with rfl | hbc
    · exact .inr hab
    · exact .inr (mem_ancestors_trans hab hbc)
termination_by c

/-- Neither of two elements is the other or stands below it. -/
structure Apart (t : Tree) (a b : Handle) : Prop where
  ne : a ≠ b
  not_above : a ∉ t.ancestors b
  not_below : b ∉ t.ancestors a

instance : Decidable (t.Apart a b) :=
  decidable_of_iff (a ≠ b ∧ a ∉ t.ancestors b ∧ b ∉ t.ancestors a)
    ⟨fun h => ⟨h.1, h.2.1, h.2.2⟩, fun h => ⟨h.ne, h.not_above, h.not_below⟩⟩

namespace Apart

theorem symm (h : t.Apart a b) : t.Apart b a := ⟨h.ne.symm, h.not_below, h.not_above⟩

theorem congr (h : t.Apart a b) (hparent : ∀ i, u.parent? i = t.parent? i) : u.Apart a b := by
  refine ⟨h.ne, ?_, ?_⟩
  · rw [ancestors_congr hparent]
    exact h.not_above
  · rw [ancestors_congr hparent]
    exact h.not_below

/-- Nothing stands below two elements that are apart. -/
theorem not_mem_of_mem (h : t.Apart a b) (ha : a ∈ t.ancestors i) : b ∉ t.ancestors i := by
  intro hb
  rcases mem_ancestors_or_of_mem_ancestors ha hb with hab | hab | hab
  · exact h.ne hab
  · exact h.not_above hab
  · exact h.not_below hab

end Apart
end Tree
end LiveForm
