import Mathlib.Data.List.Induction
import Mathlib.Logic.Relation
import LiveForm.Proofs.Tree.Agreement

/-!
# Growing a tree and walking up in it

Trees come about by edits, of which only `append` sets a parent, and it takes no handle that is not
in the tree yet.  So a parent stands before its children, and a walk from parent to parent ends.

* `Edit`, `Tree.build`: the trees that come about by a sequence of edits.
* `Tree.parent?_build`: the parent of an element is the handle it was appended under, if that was
  smaller than its own.
* `Tree.walkWithin`: the walk, cut off after some rounds; `walkWithin_of_length_lt` and
  `walkWithin_parent?` say how many are enough.
* `Tree.mem_ancestors_iff_transGen`: the ancestors are what parent links lead to.
* `Tree.walks_end_in_build`: the main statement.
-/

namespace LiveForm

/-! ## Edits -/

/-- A change to a tree. -/
inductive Edit where
  | append (parent : Option Handle) (e : Element)
  | setValue (h : Handle) (value : String)
  | addClass (h : Handle) (name : String)
  | removeClass (h : Handle) (name : String)

/-- Where an edit appends: the handle under which, or the top level. -/
def Edit.place? : Edit → Option (Option Handle)
  | .append parent _ => some parent
  | .setValue _ _ => none
  | .addClass _ _ => none
  | .removeClass _ _ => none

theorem Edit.eq_append_of_place?_eq {e : Edit} {parent : Option Handle}
    (h : e.place? = some parent) : ∃ d, e = .append parent d := by
  cases e with
  | append parent d =>
    obtain rfl := Option.some.inj h
    exact ⟨d, rfl⟩
  | setValue i value => cases h
  | addClass i name => cases h
  | removeClass i name => cases h

namespace Tree

variable {t : Tree} {a h p : Handle} {test : Handle → Bool} {rounds : Nat}

/-- The tree after an edit. -/
def edited (t : Tree) : Edit → Tree
  | .append parent e => t.append parent e
  | .setValue h value => t.setValue h value
  | .addClass h name => t.addClass h name
  | .removeClass h name => t.removeClass h name

/-- The tree that a sequence of edits makes of the empty one. -/
def build (edits : List Edit) : Tree := edits.foldl edited .empty

/-- Where the elements were appended, in order. -/
def places (edits : List Edit) : List (Option Handle) := edits.filterMap Edit.place?

theorem build_concat (edits : List Edit) (e : Edit) :
    build (edits ++ [e]) = (build edits).edited e := by
  rw [build, List.foldl_append]
  rfl

/-- An edit that appends nothing keeps the shape of the tree. -/
theorem shape_edited {e : Edit} (he : e.place? = none) (t : Tree) :
    (t.edited e).size = t.size ∧ ∀ h, (t.edited e).parent? h = t.parent? h := by
  cases e with
  | append parent e => cases he
  | setValue i value => exact ⟨size_setValue .., fun h => parent?_setValue ..⟩
  | addClass i name => exact ⟨size_addClass .., fun h => parent?_addClass ..⟩
  | removeClass i name => exact ⟨size_removeClass .., fun h => parent?_removeClass ..⟩

/-- Trees do not shrink. -/
theorem size_le_size_edited (t : Tree) (e : Edit) : t.size ≤ (t.edited e).size := by
  cases he : e.place? with
  | none => rw [(shape_edited he t).1]
  | some parent =>
    obtain ⟨d, rfl⟩ := Edit.eq_append_of_place?_eq he
    rw [edited, size_append]
    exact Nat.le_succ _

theorem size_build (edits : List Edit) : (build edits).size = (places edits).length := by
  induction edits using List.reverseRecOn with
  | nil => rfl
  | append_singleton edits e ih =>
    rw [build_concat, places, List.filterMap_append, List.length_append]
    cases he : e.place? with
    | none =>
      rw [(shape_edited he _).1, ih, List.filterMap_cons_none he]
      rfl
    | some parent =>
      obtain ⟨d, rfl⟩ := Edit.eq_append_of_place?_eq he
      rw [edited, size_append, ih]
      rfl

/-- **The parent of an element** is the handle that it was appended under, if that was smaller than
its own. -/
theorem parent?_build (edits : List Edit) (h : Handle) :
    (build edits).parent? h = ((places edits)[h]?.bind id).filter (· < h) := by
  induction edits using List.reverseRecOn with
  | nil => rfl
  | append_singleton edits e ih =>
    have hsize := size_build edits
    rw [build_concat, places, List.filterMap_append]
    cases he : e.place? with
    | none =>
      rw [(shape_edited he _).2, ih, List.filterMap_cons_none he, List.filterMap_nil,
        List.append_nil]
      rfl
    | some parent =>
      obtain ⟨d, rfl⟩ := Edit.eq_append_of_place?_eq he
      have hplaces : [Edit.append parent d].filterMap Edit.place? = [parent] := rfl
      rw [edited, parent?_append, hsize, hplaces, ← places]
      split
      · next heq =>
        rw [heq, List.getElem?_concat_length]
        rfl
      · next hne =>
        -- beyond the new element neither tree has any, nor either list a place
        rw [ih]
        rcases Nat.lt_or_gt_of_ne hne with hlt | hgt
        · rw [List.getElem?_append_left hlt]
        · rw [List.getElem?_eq_none (Nat.le_of_lt hgt), List.getElem?_eq_none]
          rw [List.length_append]
          exact hgt

/-- A parent stands before its children, since it was in the tree when they were appended. -/
theorem lt_of_parent?_build {edits : List Edit} (hp : (build edits).parent? h = some p) :
    p < h := by
  rw [parent?_build, Option.filter_eq_some_iff] at hp
  exact of_decide_eq_true hp.2

/-! ## Ancestors -/

theorem mem_ancestors_iff :
    a ∈ t.ancestors h ↔ ∃ p, t.parent? h = some p ∧ (a = p ∨ a ∈ t.ancestors p) := by
  cases hp : t.parent? h with
  | none =>
    rw [ancestors_of_parent?_eq_none hp]
    simp
  | some p =>
    rw [ancestors_of_parent?_eq_some hp, List.mem_cons]
    simp

/-- Ancestors stand before the element. -/
theorem lt_of_mem_ancestors {h : Handle} (ha : a ∈ t.ancestors h) : a < h := by
  obtain ⟨p, hp, ha⟩ := mem_ancestors_iff.1 ha
  have hlt : p < h := t.parent?_lt hp
  rcases ha with rfl | ha
  · exact hlt
  · exact Nat.lt_trans (lt_of_mem_ancestors ha) hlt
termination_by h

theorem transGen_of_mem_ancestors {h : Handle} (ha : a ∈ t.ancestors h) :
    Relation.TransGen (fun i p => t.parent? i = some p) h a := by
  obtain ⟨p, hp, ha⟩ := mem_ancestors_iff.1 ha
  have hlt : p < h := t.parent?_lt hp
  rcases ha with rfl | ha
  · exact .single hp
  · exact .head hp (transGen_of_mem_ancestors ha)
termination_by h

/-- **The ancestors are what parent links lead to**, one or more of them. -/
theorem mem_ancestors_iff_transGen :
    a ∈ t.ancestors h ↔ Relation.TransGen (fun i p => t.parent? i = some p) h a := by
  refine ⟨transGen_of_mem_ancestors, fun hchain => ?_⟩
  -- from the head of the chain, the end at which the list of ancestors grows
  induction hchain using Relation.TransGen.head_induction_on with
  | single hp => exact mem_ancestors_iff.2 ⟨_, hp, .inl rfl⟩
  | head hp _ ih => exact mem_ancestors_iff.2 ⟨_, hp, .inr ih⟩

/-- There are no more ancestors than elements in front. -/
theorem length_ancestors_le (t : Tree) (h : Handle) : (t.ancestors h).length ≤ h := by
  cases hp : t.parent? h with
  | none =>
    rw [ancestors_of_parent?_eq_none hp]
    exact Nat.zero_le h
  | some p =>
    have hlt : p < h := t.parent?_lt hp
    rw [ancestors_of_parent?_eq_some hp, List.length_cons]
    exact Nat.lt_of_le_of_lt (length_ancestors_le t p) hlt
termination_by h

/-- No element has more ancestors than the tree has elements, nor has a handle beyond the tree. -/
theorem length_ancestors_le_size (t : Tree) (h : Handle) : (t.ancestors h).length ≤ t.size := by
  cases hp : t.parent? h with
  | none =>
    rw [ancestors_of_parent?_eq_none hp]
    exact Nat.zero_le _
  | some p =>
    have hlt : h < t.size := lt_size_of_parent?_eq_some hp
    exact Nat.le_trans (length_ancestors_le t h) (Nat.le_of_lt hlt)

/-! ## Walking up -/

/-- The walk from a handle to its parent and so on, cut off after some rounds: the first handle that
passes a test, if one does before the walk ends. -/
def walkWithin (t : Tree) (test : Handle → Bool) : Nat → Option Handle → Option (Option Handle)
  | _, none => some none
  | 0, some _ => none
  | rounds + 1, some h =>
      if test h then some (some h) else t.walkWithin test rounds (t.parent? h)

/-- **A walk ends** after a round for the handle and one for each of its ancestors. -/
theorem walkWithin_of_length_lt (hlen : (t.ancestors h).length < rounds) :
    t.walkWithin test rounds (some h) = some ((h :: t.ancestors h).find? test) := by
  induction rounds generalizing h with
  | zero => cases hlen
  | succ rounds ih =>
    rw [walkWithin, List.find?_cons]
    cases test h with
    | true => rfl
    | false =>
      rw [if_neg Bool.false_ne_true]
      cases hp : t.parent? h with
      | none =>
        rw [ancestors_of_parent?_eq_none hp]
        cases rounds <;> rfl
      | some p =>
        rw [ancestors_of_parent?_eq_some hp] at hlen ⊢
        exact ih (Nat.lt_of_succ_lt_succ hlen)

/-- A walk that begins at the parent takes a round for each ancestor. -/
theorem walkWithin_parent? (hlen : (t.ancestors h).length ≤ rounds) :
    t.walkWithin test rounds (t.parent? h) = some ((t.ancestors h).find? test) := by
  cases hp : t.parent? h with
  | none =>
    rw [ancestors_of_parent?_eq_none hp]
    cases rounds <;> rfl
  | some p =>
    rw [ancestors_of_parent?_eq_some hp] at hlen ⊢
    exact walkWithin_of_length_lt hlen

theorem isDescendant_iff_transGen :
    t.isDescendant h a = true ↔ Relation.TransGen (fun i p => t.parent? i = some p) h a :=
  List.contains_iff_mem.trans mem_ancestors_iff_transGen

/-- **Walks up a tree end.**  However a tree came about, the parent of an element is the handle that
it was appended under if that stands before it, and there is none otherwise.  So the walk to the
nearest pick ends, and so does the walk that looks for an ancestor, with no more rounds than there
are elements, and one more; what stands below what is the transitive closure of parent links, and it
is a strict order that follows the order of the document. -/
theorem walks_end_in_build (edits : List Edit) :
    (build edits).size = (places edits).length ∧
    (∀ h, (build edits).parent? h = ((places edits)[h]?.bind id).filter (· < h)) ∧
    (∀ h p, (build edits).parent? h = some p → p < h) ∧
    (∀ h s, (build edits).walkWithin ((build edits).picks s) ((build edits).size + 1) (some h) =
      some ((build edits).closest? h s)) ∧
    (∀ h a, ((build edits).walkWithin (· == a) (build edits).size ((build edits).parent? h)).map
      Option.isSome = some ((build edits).isDescendant h a)) ∧
    (∀ h a, (build edits).isDescendant h a = true ↔
      Relation.TransGen (fun i p => (build edits).parent? i = some p) h a) ∧
    (∀ h, (build edits).isDescendant h h = false) ∧
    (∀ a b c, (build edits).isDescendant a b = true → (build edits).isDescendant b c = true →
      (build edits).isDescendant a c = true) ∧
    (∀ h a, (build edits).isDescendant h a = true → a < h ∧ h < (build edits).size) := by
  refine ⟨size_build edits, parent?_build edits, fun h p => lt_of_parent?_build, fun h s => ?_,
    fun h a => ?_, fun h a => isDescendant_iff_transGen, fun h => ?_, fun a b c hab hbc => ?_,
    fun h a ha => ?_⟩
  · exact walkWithin_of_length_lt (Nat.lt_succ_of_le (length_ancestors_le_size _ h))
  · rw [walkWithin_parent? (length_ancestors_le_size _ h), Option.map_some, isDescendant,
      Option.some_inj, Bool.eq_iff_iff, List.find?_isSome, List.contains_iff_mem]
    simp
  · rw [← Bool.not_eq_true, isDescendant, List.contains_iff_mem]
    exact fun hself => Nat.lt_irrefl h (lt_of_mem_ancestors hself)
  · rw [isDescendant, List.contains_iff_mem] at hab hbc ⊢
    exact mem_ancestors_trans hbc hab
  · rw [isDescendant, List.contains_iff_mem] at ha
    obtain ⟨p, hp, -⟩ := mem_ancestors_iff.1 ha
    exact ⟨lt_of_mem_ancestors ha, lt_size_of_parent?_eq_some hp⟩

/-- A box with a list with an entry, and an element under a handle that is not in the tree. -/
def foreignParent : List Edit :=
  [.append none { tag := "div" }, .append (some 0) { tag := "ul" }, .append (some 7) { tag := "p" },
    .setValue 2 "text", .append (some 1) { tag := "li" }, .addClass 9 "new"]

theorem walks_end_in_build_foreignParent :
    (build foreignParent).parent? 2 = none ∧ (build foreignParent).parent? 3 = some 1 ∧
    (build foreignParent).isDescendant 3 0 = true ∧
    (build foreignParent).isDescendant 0 3 = false ∧
    (build foreignParent).walkWithin (· == 0) 4 (some 1) = some (some 0) := by
  obtain ⟨-, -, -, -, -, hclosure, hirrefl, htrans, -⟩ := walks_end_in_build foreignParent
  have hbelow : (build foreignParent).isDescendant 3 0 = true :=
    (hclosure 3 0).2 (.head rfl (.single rfl))
  refine ⟨rfl, rfl, hbelow, ?_, rfl⟩
  rw [← Bool.not_eq_true]
  intro habove
  have hself := htrans 3 0 3 hbelow habove
  rw [hirrefl] at hself
  cases hself

end Tree
end LiveForm
