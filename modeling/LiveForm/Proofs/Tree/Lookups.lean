import LiveForm.Proofs.Tree.Ancestry
import Mathlib.Data.List.Basic

/-!
# What lookups in a tree find

An element stands *above* another one if one or more parent links lead up to it.  A lookup looks at
an element and what stands above it, the nearest first, or at the whole tree in document order; what
it finds is said here by parent links alone.

* `Tree.pairwise_chain`: on the way up from an element, what comes later stands above what comes
  earlier.
* `find?_eq_some_iff_of_pairwise`: so the first pick on the way is the pick below which there is no
  other one.
* `Tree.closest?_gives_nearest_pick`: the lookup of the nearest pick.
* `Tree.queries_list_picks_in_order`: the lookups of all picks, in the tree and below an element.
-/

namespace LiveForm

/-- In a list that is ordered by an asymmetric relation, the first element that passes a test is the
one that passes it with none in front of it. -/
theorem find?_eq_some_iff_of_pairwise {α : Type} {R : α → α → Prop} {test : α → Bool} {l : List α}
    {b : α} (hasymm : ∀ a b, R a b → ¬ R b a) (hl : l.Pairwise R) :
    l.find? test = some b ↔ b ∈ l ∧ test b = true ∧ ∀ a ∈ l, R a b → test a = false := by
  induction l with
  | nil => simp
  | cons c l ih =>
    rw [List.pairwise_cons] at hl
    by_cases hc : test c = true
    · rw [List.find?_cons_of_pos hc, Option.some_inj]
      constructor
      · rintro rfl
        refine ⟨.head _, hc, fun a ha hab => ?_⟩
        rcases List.mem_cons.1 ha with rfl | ha
        · exact absurd hab (hasymm a a hab)
        · exact absurd hab (hasymm c a (hl.1 a ha))
      · rintro ⟨hb, -, hfirst⟩
        rcases List.mem_cons.1 hb with rfl | hb
        · rfl
        · have hnot : test c = false := hfirst c (.head _) (hl.1 b hb)
          rw [hc] at hnot
          cases hnot
    · have hfalse : test c = false := Bool.eq_false_iff.2 hc
      rw [List.find?_cons_of_neg hc, ih hl.2, List.forall_mem_cons, List.mem_cons]
      constructor
      · rintro ⟨hb, htest, hfirst⟩
        exact ⟨.inr hb, htest, fun _ => hfalse, hfirst⟩
      · rintro ⟨hb, htest, -, hfirst⟩
        refine ⟨hb.resolve_left ?_, htest, hfirst⟩
        rintro rfl
        exact hc htest

namespace Tree

variable {t : Tree} {a h i r root : Handle} {s : Selector}

/-! ## Above and below -/

/-- An element stands above another one if one or more parent links lead up to it. -/
def Above (t : Tree) (a h : Handle) : Prop :=
  Relation.TransGen (fun i p => t.parent? i = some p) h a

theorem above_iff : t.Above a h ↔ a ∈ t.ancestors h :=
  mem_ancestors_iff_transGen.symm

instance (t : Tree) (a h : Handle) : Decidable (t.Above a h) :=
  decidable_of_iff (t.isDescendant h a = true) isDescendant_iff_transGen

/-- What stands above an element comes before it in the document, so it does not stand below it. -/
theorem Above.lt (ha : t.Above a h) : a < h :=
  lt_of_mem_ancestors (above_iff.1 ha)

theorem Above.not_above (ha : t.Above a h) : ¬ t.Above h a :=
  fun hb => Nat.lt_asymm ha.lt hb.lt

/-- What stands below something is in the tree. -/
theorem Above.lt_size (ha : t.Above a h) : h < t.size := by
  obtain ⟨p, hp, -⟩ := mem_ancestors_iff.1 (above_iff.1 ha)
  exact lt_size_of_parent?_eq_some hp

theorem Above.trans (ha : t.Above a r) (hr : t.Above r h) : t.Above a h :=
  Relation.TransGen.trans hr ha

/-! ## The way up -/

theorem mem_chain_iff : i ∈ h :: t.ancestors h ↔ i = h ∨ t.Above i h := by
  rw [List.mem_cons, above_iff]

/-- **What comes later on the way up stands above what comes earlier.** -/
theorem pairwise_chain (t : Tree) (h : Handle) :
    (h :: t.ancestors h).Pairwise fun i a => t.Above a i := by
  refine List.pairwise_cons.2 ⟨fun a ha => above_iff.2 ha, ?_⟩
  cases hp : t.parent? h with
  | none =>
    rw [ancestors_of_parent?_eq_none hp]
    exact .nil
  | some p =>
    have hlt : p < h := t.parent?_lt hp
    rw [ancestors_of_parent?_eq_some hp]
    exact pairwise_chain t p
termination_by h

/-! ## Picks -/

theorem picks_eq_true_iff :
    t.picks s h = true ↔ ∃ e, t.element? h = some e ∧ s.selects e = true :=
  Option.any_eq_true _ _

theorem picks_eq_false_iff :
    t.picks s h = false ↔ ∀ e, t.element? h = some e → s.selects e = false :=
  Option.any_eq_false _ _

/-- The nearest pick has no other one on the way up to it. -/
theorem closest?_eq_some_iff :
    t.closest? h s = some r ↔ (r = h ∨ t.Above r h) ∧ t.picks s r = true ∧
      ∀ i, i = h ∨ t.Above i h → t.Above r i → t.picks s i = false := by
  have hasymm : ∀ i a, t.Above a i → ¬ t.Above i a := fun _ _ => Above.not_above
  rw [closest?, find?_eq_some_iff_of_pairwise hasymm (t.pairwise_chain h), mem_chain_iff]
  simp only [mem_chain_iff]

theorem closest?_eq_none_iff :
    t.closest? h s = none ↔ ∀ i, i = h ∨ t.Above i h → t.picks s i = false := by
  rw [closest?, List.find?_eq_none]
  simp only [mem_chain_iff, Bool.not_eq_true]

/-- What is not in the tree has nothing above it, and no pick. -/
theorem closest?_of_size_le (hh : t.size ≤ h) : t.closest? h s = none := by
  refine closest?_eq_none_iff.2 fun i hi => ?_
  rcases hi with rfl | hi
  · rw [picks, element?_eq_none_iff.2 hh]
    rfl
  · exact absurd hi.lt_size (Nat.not_lt.2 hh)

/-- **The nearest pick.**  From an element and what stands above it, the lookup takes the element
that the selector picks and below which, on the way, none is picked; it finds nothing if the handle
is not in the tree or if nothing on the way is picked.  A walk from parent to parent that is given
more rounds than there are elements finds the same. -/
theorem closest?_gives_nearest_pick (t : Tree) (h r : Handle) (s : Selector) (more : Nat) :
    (t.closest? h s = some r ↔ (r = h ∨ t.Above r h) ∧
      (∃ e, t.element? r = some e ∧ s.selects e = true) ∧
      ∀ i, i = h ∨ t.Above i h → t.Above r i → ∀ e, t.element? i = some e → s.selects e = false) ∧
    (t.closest? h s = none ↔ t.size ≤ h ∨
      ∀ i, i = h ∨ t.Above i h → ∀ e, t.element? i = some e → s.selects e = false) ∧
    t.walkWithin (t.picks s) (t.size + 1 + more) (some h) = some (t.closest? h s) := by
  simp only [← picks_eq_true_iff, ← picks_eq_false_iff]
  refine ⟨closest?_eq_some_iff, ?_, ?_⟩
  · exact ⟨fun hnone => .inr (closest?_eq_none_iff.1 hnone),
      fun hnone => hnone.elim closest?_of_size_le closest?_eq_none_iff.2⟩
  · have hlen : (t.ancestors h).length ≤ t.size := length_ancestors_le_size t h
    exact walkWithin_of_length_lt (by omega)

/-- A form with a box in a box, a field in each of them and one beside them. -/
def nestedBoxes : Tree :=
  build [.append none { tag := "form" },
    .append (some 0) { tag := "div", classes := .ofList ["box"] },
    .append (some 1) { tag := "input" },
    .append (some 1) { tag := "div", classes := .ofList ["box"] },
    .append (some 3) { tag := "input" },
    .append (some 0) { tag := "input" }]

example : nestedBoxes.closest? 4 ⟨".box", [{ classes := ["box"] }]⟩ = some 3 := by decide +kernel

/-! ## Queries -/

theorem queryWithin_eq_filter :
    t.queryWithin root s = (t.query s).filter fun h => decide (t.Above root h) := by
  refine List.filter_congr fun h _ => ?_
  rw [Bool.eq_iff_iff, decide_eq_true_eq]
  exact isDescendant_iff_transGen

/-- What is found below an element is found below everything above it, in the same order. -/
theorem queryWithin_sublist (hr : t.Above root r) :
    (t.queryWithin r s).Sublist (t.queryWithin root s) := by
  rw [queryWithin_eq_filter, queryWithin_eq_filter]
  refine List.monotone_filter_right _ fun h hh => ?_
  exact decide_eq_true (hr.trans (of_decide_eq_true hh))

/-- **Queries.**  A query lists the elements that a selector picks, all of them, in document order
and each once.  A query below an element lists those of them from which parent links lead up to that
element: never the element itself, nothing if its handle is not in the tree, and what is found below
a descendant of it is found below it in the same order. -/
theorem queries_list_picks_in_order (t : Tree) (s : Selector) (root : Handle) :
    (t.query s).Pairwise (· < ·) ∧
    (∀ h, h ∈ t.query s ↔ ∃ e, t.element? h = some e ∧ s.selects e = true) ∧
    t.queryWithin root s = (t.query s).filter (fun h => decide (t.Above root h)) ∧
    root ∉ t.queryWithin root s ∧
    (t.size ≤ root → t.queryWithin root s = []) ∧
    ∀ r, t.Above root r → (t.queryWithin r s).Sublist (t.queryWithin root s) := by
  refine ⟨t.pairwise_query s, fun h => mem_query_iff.trans picks_eq_true_iff,
    queryWithin_eq_filter, fun hroot => ?_, fun hsize => ?_, fun r => queryWithin_sublist⟩
  · exact Nat.lt_irrefl root (above_iff.2 (mem_queryWithin_iff.1 hroot).2).lt
  · refine List.eq_nil_iff_forall_not_mem.2 fun h hh => ?_
    have habove : t.Above root h := above_iff.2 (mem_queryWithin_iff.1 hh).2
    exact absurd (Nat.lt_trans habove.lt habove.lt_size) (Nat.not_lt.2 hsize)

/-- What picks the fields. -/
def fieldSelector : Selector := ⟨"input", [{ tag := some "input" }]⟩

theorem queries_list_picks_in_order_nestedBoxes :
    nestedBoxes.Above 1 3 ∧
    nestedBoxes.queryWithin 1 fieldSelector = [2, 4] ∧
    (nestedBoxes.queryWithin 3 fieldSelector).Sublist [2, 4] ∧
    nestedBoxes.size ≤ 9 ∧
    nestedBoxes.queryWithin 9 fieldSelector = [] := by
  have habove : nestedBoxes.Above 1 3 := .single rfl
  have hfields : nestedBoxes.queryWithin 1 fieldSelector = [2, 4] := by decide +kernel
  have hsize : nestedBoxes.size ≤ 9 := by decide
  obtain ⟨-, -, -, -, -, hbelow⟩ := queries_list_picks_in_order nestedBoxes fieldSelector 1
  obtain ⟨-, -, -, -, hbeyond, -⟩ := queries_list_picks_in_order nestedBoxes fieldSelector 9
  exact ⟨habove, hfields, hfields ▸ hbelow 3 habove, hsize, hbeyond hsize⟩

end Tree
end LiveForm
