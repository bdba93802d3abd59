import LiveForm.Proofs.Selector.Alternatives

/-!
# Compounds side by side

A compound text with simple selectors behind it asks for what both ask for, except that an id in the
second drives out the one in the first.

* `Compound.extend`, `Compound.foldl_add`: what simple selectors add to a compound.
* `Compound.holdsFor_extend`: what the longer compound asks of an element.
* `parse_append_eq_ok`: how a text made of two compounds is read, if it is read at all.
* `selects_append_iff`: it picks what both pick, exactly if they do not ask for different ids, or if
  it picks nothing whatsoever.
-/

namespace LiveForm

open Text

/-! ## What simple selectors add -/

namespace Compound

open Selector

variable {c d : Compound} {e : Element}

/-- What a compound asks for with the requirements of `d` behind its own; of two ids that of `d`
counts. -/
def extend (c d : Compound) : Compound where
  tag := c.tag
  id := d.id.or c.id
  classes := c.classes ++ d.classes
  attributes := c.attributes ++ d.attributes

theorem extend_add (c : Compound) (s : Simple) (d : Compound) :
    (c.add s).extend d = c.extend ((({} : Compound).add s).extend d) := by
  cases s <;> cases hd : d.id <;> simp [add, extend, hd]

/-- Simple selectors add to a compound what they ask for alone. -/
theorem foldl_add (c : Compound) (ss : List Simple) :
    ss.foldl add c = c.extend (ofSimples none ss) := by
  induction ss generalizing c with
  | nil => simp [ofSimples, extend]
  | cons s ss ih =>
    have hs : ofSimples none (s :: ss) = (({} : Compound).add s).extend (ofSimples none ss) :=
      ih (({} : Compound).add s)
    rw [List.foldl_cons, ih, extend_add, hs]

/-- The compound without its id if `d` has one. -/
def yieldingId (c d : Compound) : Compound := { c with id := if d.id.isSome then none else c.id }

/-- The longer compound asks for all but an id that is driven out. -/
theorem holdsFor_extend (hd : d.tag = none) :
    (c.extend d).holdsFor e = true ↔ (c.yieldingId d).holdsFor e = true ∧ d.holdsFor e = true := by
  cases hid : d.id <;> simp [holdsFor, extend, yieldingId, hd, hid, and_assoc, and_left_comm]

theorem holdsFor_yieldingId (h : c.holdsFor e = true) (d : Compound) :
    (c.yieldingId d).holdsFor e = true := by
  simp only [holdsFor, yieldingId, Bool.and_eq_true] at h ⊢
  refine ⟨⟨⟨h.1.1.1, ?_⟩, h.1.2⟩, h.2⟩
  split
  · rfl
  · exact h.1.1.2

theorem id_of_holdsFor (h : c.holdsFor e = true) {i : String} (hi : i ∈ c.id) :
    e.id = some i := by
  simp only [holdsFor, Bool.and_eq_true, Option.all_eq_true] at h
  exact eq_of_beq (h.1.1.2 i hi)

/-- If both compounds ask for the same id, none is driven out. -/
theorem holdsFor_of_yieldingId (h : (c.yieldingId d).holdsFor e = true) (hd : d.holdsFor e = true)
    (hid : ∀ i ∈ c.id, ∀ j ∈ d.id, i = j) : c.holdsFor e = true := by
  have hkept : ∀ i ∈ c.id, e.id = some i := by
    intro i hi
    cases hj : d.id with
    | none =>
      refine id_of_holdsFor h ?_
      rw [yieldingId, hj]
      exact hi
    | some j =>
      rw [hid i hi j hj]
      exact id_of_holdsFor hd hj
  simp only [holdsFor, yieldingId, Bool.and_eq_true] at h ⊢
  refine ⟨⟨⟨h.1.1.1, ?_⟩, h.1.2⟩, h.2⟩
  rw [Option.all_eq_true]
  intro i hi
  rw [hkept i hi]
  exact beq_self_eq_true _

end Compound

/-! ## Texts of one compound -/

namespace Selector

variable {s t : String} {a b u : Selector} {c d : Compound}

/-- The text is a selector with a single compound, and there are no blanks around it. -/
structure IsCompoundText (text : String) (s : Selector) (c : Compound) : Prop where
  parse_eq : parse text = .ok s
  alternatives_eq : s.alternatives = [c]
  trim_eq : trim text = text

theorem IsCompoundText.trimChars_eq (h : IsCompoundText s a c) :
    trimChars s.toList = s.toList := by
  rw [← toList_trim, h.trim_eq]

theorem IsCompoundText.compound_eq (h : IsCompoundText s a c) :
    Compound.parse s.toList = .ok c := by
  have hparts := (parse_eq_ok_iff.1 h.parse_eq).2
  rw [h.alternatives_eq, alternativeTexts] at hparts
  rcases alternativesFrom_eq_singleton_or .outside s.toList with
    hs | ⟨part, more, parts, -, hs, hne⟩
  · rw [hs, List.forall₂_cons] at hparts
    rw [← h.trimChars_eq]
    exact hparts.1
  · rw [hs, List.forall₂_cons, List.forall₂_nil_right_iff] at hparts
    exact absurd hparts.2 hne

theorem IsCompoundText.selects_iff (h : IsCompoundText s a c) (e : Element) :
    a.selects e = true ↔ c.holdsFor e = true := by
  simp [selects, h.alternatives_eq]

theorem IsCompoundText.toList_ne_nil (h : IsCompoundText s a c) : s.toList ≠ [] :=
  (Compound.parse_eq_ok_iff.1 h.compound_eq).1

/-- A compound text that begins with a simple selector asks for no tag, and can stand behind another
one. -/
theorem IsCompoundText.compound_append (hs : IsCompoundText s a c) (ht : IsCompoundText t b d)
    (hstart : t.toList.head?.any startsSimple = true) :
    Compound.parse (s.toList ++ t.toList) = .ok (c.extend d) ∧ d.tag = none := by
  obtain ⟨first, rest, hfirst⟩ := List.exists_cons_of_ne_nil ht.toList_ne_nil
  rw [hfirst] at hstart
  have hfirst' : startsSimple first = true := by simpa using hstart
  have hread := (Compound.parse_eq_ok_iff.1 ht.compound_eq).2
  rw [hfirst] at hread ⊢
  obtain ⟨simples, hsimples, hd⟩ := Compound.read_eq_ok_iff.1 hread
  rw [readHead_of_startsSimple hfirst'] at hsimples hd
  have hm : BeginsOutside isNameChar (first :: rest) :=
    beginsOutside_cons.2 (isNameChar_of_startsSimple hfirst')
  have hextend : simples.foldl Compound.add c = c.extend d := by rw [Compound.foldl_add, ← hd]
  have htag : d.tag = none := by
    rw [← hd]
    show (simples.foldl Compound.add {}).tag = none
    rw [Compound.foldl_add]
    rfl
  exact ⟨(Compound.parse_append_eq_ok_iff hs.compound_eq hm).2 ⟨simples, hsimples, hextend⟩, htag⟩

/-- Two compound texts side by side are read as one compound, if they are read: a cut at a comma
would leave a compound in front of it, and nothing but simple selectors follows a compound. -/
theorem IsCompoundText.alternatives_append (hs : IsCompoundText s a c) (ht : IsCompoundText t b d)
    (hstart : t.toList.head?.any startsSimple = true) (hu : parse (s ++ t) = .ok u) :
    u.alternatives = [c.extend d] := by
  have hcompound := (hs.compound_append ht hstart).1
  have htrim : trimChars (s.toList ++ t.toList) = s.toList ++ t.toList :=
    strip_append hs.trimChars_eq ht.trimChars_eq
  have hparts := (parse_eq_ok_iff.1 hu).2
  rw [alternativeTexts, String.toList_append] at hparts
  rcases alternativesFrom_eq_singleton_or .outside (s.toList ++ t.toList) with
    hone | ⟨part, more, parts, hcut, hmany, -⟩
  · rw [hone, List.forall₂_cons_left_iff] at hparts
    obtain ⟨read, tail, hread, htail, halt⟩ := hparts
    rw [List.forall₂_nil_left_iff] at htail
    rw [ReadsAs, htrim, hcompound] at hread
    rw [halt, htail, Except.ok.inj hread]
  · rw [hmany] at hparts
    obtain ⟨read, -, hread⟩ := exists_mem_right_of_forall₂ hparts (.head _)
    rw [← htrim, hcut] at hcompound
    exact absurd hcompound (Compound.not_parse_comma hread)

/-! ## Selectors side by side -/

/-- **Compound selectors.**  A compound text with simple selectors behind it picks an element if
both pick it, where an id in front does not count when there is one behind it as well.  So it picks
just what both pick exactly if they do not ask for different ids, or if it picks nothing whatsoever.
-/
theorem selects_append_iff (hs : IsCompoundText s a c) (ht : IsCompoundText t b d)
    (hstart : t.toList.head?.any startsSimple = true) (hu : parse (s ++ t) = .ok u) :
    (∀ e, u.selects e = true ↔ (c.yieldingId d).holdsFor e = true ∧ b.selects e = true) ∧
    ((∀ e, u.selects e = true ↔ a.selects e = true ∧ b.selects e = true) ↔
      (∀ i ∈ c.id, ∀ j ∈ d.id, i = j) ∨ ∀ e, u.selects e = false) := by
  have hlaw : ∀ e, u.selects e = true ↔
      (c.yieldingId d).holdsFor e = true ∧ b.selects e = true := by
    intro e
    rw [ht.selects_iff, ← Compound.holdsFor_extend (hs.compound_append ht hstart).2, selects,
      hs.alternatives_append ht hstart hu]
    simp
  refine ⟨hlaw, fun h => ?_, fun h e => ⟨fun he => ?_, ?_⟩⟩
  · by_cases hnone : ∀ e, u.selects e = false
    · exact .inr hnone
    · rw [not_forall] at hnone
      obtain ⟨e, he⟩ := hnone
      rw [Bool.not_eq_false] at he
      obtain ⟨ha, hb⟩ := (h e).1 he
      refine .inl fun i hi j hj => ?_
      have hi' := Compound.id_of_holdsFor ((hs.selects_iff e).1 ha) hi
      have hj' := Compound.id_of_holdsFor ((ht.selects_iff e).1 hb) hj
      exact Option.some.inj (hi'.symm.trans hj')
  · obtain ⟨hc, hb⟩ := (hlaw e).1 he
    rcases h with hid | hnone
    · have hd := (ht.selects_iff e).1 hb
      exact ⟨(hs.selects_iff e).2 (Compound.holdsFor_of_yieldingId hc hd hid), hb⟩
    · rw [hnone e] at he
      cases he
  · rintro ⟨ha, hb⟩
    exact (hlaw e).2 ⟨Compound.holdsFor_yieldingId ((hs.selects_iff e).1 ha) d, hb⟩

theorem selects_append_iff_sameId :
    ∃ a b u, parse "p#a.b" = .ok a ∧ parse "[c]#a.d" = .ok b ∧
      parse ("p#a.b" ++ "[c]#a.d") = .ok u ∧
      ∀ e, u.selects e = true ↔ a.selects e = true ∧ b.selects e = true := by
  have hs : IsCompoundText "p#a.b" ⟨"p#a.b", [{ tag := "p", id := "a", classes := ["b"] }]⟩
      { tag := "p", id := "a", classes := ["b"] } := ⟨by decide +kernel, rfl, by decide⟩
  have ht : IsCompoundText "[c]#a.d"
      ⟨"[c]#a.d", [{ id := "a", classes := ["d"], attributes := [⟨"c", none⟩] }]⟩
      { id := "a", classes := ["d"], attributes := [⟨"c", none⟩] } :=
    ⟨by decide +kernel, rfl, by decide⟩
  have hu : parse ("p#a.b" ++ "[c]#a.d") = .ok ⟨"p#a.b[c]#a.d",
      [{ tag := "p", id := "a", classes := ["b", "d"], attributes := [⟨"c", none⟩] }]⟩ := by
    decide +kernel
  refine ⟨_, _, _, hs.parse_eq, ht.parse_eq, hu, ?_⟩
  refine (selects_append_iff hs ht (by decide) hu).2.2 (.inl fun i hi j hj => ?_)
  exact (Option.some.inj hi).symm.trans (Option.some.inj hj)

/-- Both texts are selectors of one compound, no element has both ids, and yet the two side by side
pick an element. -/
theorem selects_append_of_two_ids :
    parse "#a" = .ok ⟨"#a", [{ id := "a" }]⟩ ∧ parse "#b" = .ok ⟨"#b", [{ id := "b" }]⟩ ∧
    parse ("#a" ++ "#b") = .ok ⟨"#a#b", [{ id := "b" }]⟩ ∧
    (⟨"#a", [{ id := "a" }]⟩ : Selector).selects { tag := "p", id := "b" } = false ∧
    (⟨"#a#b", [{ id := "b" }]⟩ : Selector).selects { tag := "p", id := "b" } = true := by
  refine ⟨?_, ?_, ?_, ?_, ?_⟩
  · decide +kernel
  · decide +kernel
  · decide +kernel
  · decide
  · decide

end Selector
end LiveForm
