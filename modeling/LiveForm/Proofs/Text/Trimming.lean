import Mathlib.Data.List.DropRight
import LiveForm.Text.Blank

/-!
# Runs at the ends of a longer text

What is taken, dropped and stripped from a list that goes on with another one.

* `takeWhile_append`, `dropWhile_append`: a run at the front of a list is the same in a longer list
  if it ends inside the list, or at the seam.
* `append_inj_of_run`: a list is a run and something else behind it in one way only.
* `strip_eq_self_iff`: a list is stripped if neither of its ends lies in `p`.
* `strip_append_cons`: stripping a list that goes on with an element outside `p` leaves what
  stripping leaves of the list alone, and more behind it.
-/

namespace LiveForm
namespace Text

variable {α : Type} {p : α → Bool} {l m : List α}

/-! ## Runs at the front -/

/-- The list does not begin with an element of `p`. -/
def BeginsOutside (p : α → Bool) (l : List α) : Prop := ∀ a ∈ l.head?, p a = false

@[simp] theorem beginsOutside_nil (p : α → Bool) : BeginsOutside p [] := by simp [BeginsOutside]

@[simp] theorem beginsOutside_cons {a : α} : BeginsOutside p (a :: l) ↔ p a = false := by
  simp [BeginsOutside]

theorem takeWhile_eq_nil_of_beginsOutside (h : BeginsOutside p m) : m.takeWhile p = [] := by
  cases m with
  | nil => rfl
  | cons a m => exact List.takeWhile_cons_of_neg (by rw [beginsOutside_cons.1 h]; decide)

theorem takeWhile_eq_nil_iff_beginsOutside : m.takeWhile p = [] ↔ BeginsOutside p m := by
  refine ⟨fun h a ha => ?_, takeWhile_eq_nil_of_beginsOutside⟩
  obtain ⟨rest, rfl⟩ := List.head?_eq_some_iff.1 ha
  rw [← Bool.not_eq_true]
  intro hpa
  rw [List.takeWhile_cons_of_pos hpa] at h
  cases h

/-- What is behind the run at the front of a list begins outside. -/
theorem beginsOutside_dropWhile (p : α → Bool) (l : List α) :
    BeginsOutside p (l.dropWhile p) := by
  intro a ha
  obtain ⟨rest, hrest⟩ := List.head?_eq_some_iff.1 ha
  exact not_of_head_dropWhile hrest

/-- Where a list begins can be seen from its first element. -/
theorem BeginsOutside.congr (h : BeginsOutside p l) (hhead : m.head? = l.head?) :
    BeginsOutside p m := by
  rw [BeginsOutside, hhead]
  exact h

/-- The run at the front of a list is no longer in a longer list if it ends before the seam. -/
theorem takeWhile_append (h : l.dropWhile p ≠ [] ∨ BeginsOutside p m) :
    (l ++ m).takeWhile p = l.takeWhile p := by
  induction l with
  | nil => exact takeWhile_eq_nil_of_beginsOutside (h.resolve_left fun hn => hn rfl)
  | cons a l ih =>
    rw [List.cons_append, List.takeWhile_cons, List.takeWhile_cons]
    by_cases ha : p a = true
    · rw [List.dropWhile_cons_of_pos ha] at h
      rw [if_pos ha, if_pos ha, ih h]
    · rw [if_neg ha, if_neg ha]

/-- What is behind the run at the front of a list stays there in a longer list. -/
theorem dropWhile_append (h : l.dropWhile p ≠ [] ∨ BeginsOutside p m) :
    (l ++ m).dropWhile p = l.dropWhile p ++ m := by
  refine (List.append_right_inj (l.takeWhile p)).1 ?_
  rw [← List.append_assoc, List.takeWhile_append_dropWhile]
  conv_lhs => rw [← takeWhile_append h]
  exact List.takeWhile_append_dropWhile

/-- What is in front is the run if all of it lies in `p` and what is behind begins outside. -/
theorem takeWhile_run_append (hl : ∀ a ∈ l, p a = true) (hm : BeginsOutside p m) :
    (l ++ m).takeWhile p = l := by
  rw [List.takeWhile_append_of_pos hl, takeWhile_eq_nil_of_beginsOutside hm, List.append_nil]

theorem dropWhile_run_append (hl : ∀ a ∈ l, p a = true) (hm : BeginsOutside p m) :
    (l ++ m).dropWhile p = m := by
  have hcut : (l ++ m).takeWhile p ++ (l ++ m).dropWhile p = l ++ m :=
    List.takeWhile_append_dropWhile
  rw [takeWhile_run_append hl hm] at hcut
  exact (List.append_right_inj l).1 hcut

/-- **A list is a run and something else behind it in one way only.** -/
theorem append_inj_of_run {l' m' : List α} (hl : ∀ a ∈ l, p a = true) (hm : BeginsOutside p m)
    (hl' : ∀ a ∈ l', p a = true) (hm' : BeginsOutside p m') (h : l ++ m = l' ++ m') :
    l = l' ∧ m = m' := by
  constructor
  · rw [← takeWhile_run_append hl hm, h, takeWhile_run_append hl' hm']
  · rw [← dropWhile_run_append hl hm, h, dropWhile_run_append hl' hm']

/-! ## Stripping -/

/-- Stripping a stripped list does nothing, and only then. -/
theorem strip_eq_self_iff :
    strip p l = l ↔ BeginsOutside p l ∧ BeginsOutside p l.reverse := by
  constructor
  · intro h
    refine ⟨?_, ?_⟩
    · cases hl : l with
      | nil => simp
      | cons a r => exact beginsOutside_cons.2 (not_of_strip_eq_cons (h.trans hl))
    · cases hl : l.reverse with
      | nil => simp
      | cons a r =>
        rw [List.reverse_eq_cons_iff] at hl
        exact beginsOutside_cons.2 (not_of_strip_eq_append (h.trans hl))
  · rintro ⟨hfront, hback⟩
    have hdrop : ∀ {k : List α}, BeginsOutside p k → k.dropWhile p = k := by
      intro k hk
      cases k with
      | nil => rfl
      | cons a k => exact List.dropWhile_cons_of_neg (by rw [beginsOutside_cons.1 hk]; decide)
    rw [strip, stripEnd, hdrop hfront, hdrop hback, List.reverse_reverse]

/-- The first of two lists that begin outside `p` decides how both together begin. -/
theorem BeginsOutside.append (hl : BeginsOutside p l) (hm : BeginsOutside p m) :
    BeginsOutside p (l ++ m) := by
  cases l with
  | nil => exact hm
  | cons a l => exact beginsOutside_cons.2 (beginsOutside_cons.1 hl)

/-- Stripped lists are stripped side by side. -/
theorem strip_append (hl : strip p l = l) (hm : strip p m = m) : strip p (l ++ m) = l ++ m := by
  rw [strip_eq_self_iff] at hl hm ⊢
  refine ⟨hl.1.append hm.1, ?_⟩
  rw [List.reverse_append]
  exact hm.2.append hl.2

/-- A list without elements of `p` is stripped. -/
theorem strip_eq_self_of_forall (h : ∀ a ∈ l, p a = false) : strip p l = l := by
  refine strip_eq_self_iff.2 ⟨fun a ha => ?_, fun a ha => ?_⟩
  · exact h a (List.mem_of_mem_head? ha)
  · exact h a (List.mem_reverse.1 (List.mem_of_mem_head? ha))

/-- A list is what stripping leaves of it with elements of `p` around. -/
theorem exists_strip_eq (p : α → Bool) (l : List α) : ∃ u v, l = u ++ strip p l ++ v ∧
    (∀ a ∈ u, p a = true) ∧ ∀ a ∈ v, p a = true := by
  refine ⟨l.takeWhile p, (l.dropWhile p).rtakeWhile p, ?_, fun _ => List.mem_takeWhile_imp,
    fun _ => List.mem_rtakeWhile_imp⟩
  have hback : stripEnd p (l.dropWhile p) ++ (l.dropWhile p).rtakeWhile p = l.dropWhile p :=
    List.rdropWhile_append_rtakeWhile
  rw [strip, List.append_assoc, hback, List.takeWhile_append_dropWhile]

/-- Elements of `p` around a list are stripped with its own. -/
theorem strip_padded {u v : List α} (hu : ∀ a ∈ u, p a = true) (hv : ∀ a ∈ v, p a = true)
    (l : List α) : strip p (u ++ l ++ v) = strip p l := by
  have hend : ∀ m : List α, stripEnd p (m ++ v) = stripEnd p m := by
    intro m
    rw [stripEnd, List.reverse_append,
      List.dropWhile_append_of_pos fun a ha => hv a (List.mem_reverse.1 ha), stripEnd]
  rw [strip, List.append_assoc, List.dropWhile_append_of_pos hu]
  by_cases hl : l.dropWhile p = []
  · have hall : ∀ a ∈ l ++ v, p a = true := by
      intro a ha
      rcases List.mem_append.1 ha with ha | ha
      · exact List.dropWhile_eq_nil_iff.1 hl a ha
      · exact hv a ha
    rw [List.dropWhile_eq_nil_iff.2 hall, strip, hl]
  · rw [dropWhile_append (.inl hl), hend, strip]

/-- Behind an element outside `p` the end of a list is stripped as it is alone. -/
theorem stripEnd_append_cons {a : α} (ha : p a = false) (l m : List α) :
    stripEnd p (l ++ a :: m) = l ++ a :: stripEnd p m := by
  have h : ((l ++ a :: m).reverse).dropWhile p = (m.reverse).dropWhile p ++ a :: l.reverse := by
    rw [List.reverse_append, List.reverse_cons, List.append_assoc, List.singleton_append]
    exact dropWhile_append (.inr (beginsOutside_cons.2 ha))
  rw [stripEnd, h, List.reverse_append, List.reverse_cons, List.reverse_reverse, stripEnd,
    List.append_assoc, List.singleton_append]

/-- A list that goes on with an element outside `p` is stripped to what is left of it alone, and
more behind it, which begins with that element or inside `p`. -/
theorem strip_append_cons {a : α} (ha : p a = false) (hl : strip p l ≠ []) (m : List α) :
    ∃ b r, strip p (l ++ a :: m) = strip p l ++ b :: r ∧ (b = a ∨ p b = true) := by
  have hdrop : l.dropWhile p ≠ [] := by
    intro h
    rw [strip, h] at hl
    exact hl rfl
  have hback : stripEnd p (l.dropWhile p) ++ (l.dropWhile p).rtakeWhile p = l.dropWhile p :=
    List.rdropWhile_append_rtakeWhile
  have hstrip : strip p (l ++ a :: m) =
      strip p l ++ ((l.dropWhile p).rtakeWhile p ++ a :: stripEnd p m) := by
    rw [strip, dropWhile_append (.inl hdrop), stripEnd_append_cons ha, strip,
      ← List.append_assoc, hback]
  cases hr : (l.dropWhile p).rtakeWhile p with
  | nil =>
    rw [hr, List.nil_append] at hstrip
    exact ⟨a, _, hstrip, .inl rfl⟩
  | cons b r =>
    rw [hr, List.cons_append] at hstrip
    refine ⟨b, _, hstrip, .inr (List.mem_rtakeWhile_imp (l := l.dropWhile p) ?_)⟩
    rw [hr]
    exact .head _

end Text
end LiveForm
