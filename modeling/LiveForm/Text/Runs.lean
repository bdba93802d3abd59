/-!
# Runs: maximal stretches of a list

A *run* of a predicate `p` in a list is a maximal stretch of neighbours that all satisfy `p`.

* `squeeze p r` puts one `r` in the place of every run of `p`;
* `strip p` removes the run of `p` at each end;
* `pieces p` cuts a list at every element of `p`, and `runs p` lists the runs of `p` in order.

The three are recursions on the list; `squeezeFrom` carries as a flag whether a run is open.
-/

namespace LiveForm
namespace Text

variable {α : Type}

/-! ## Squeezing -/

/-- One `r` for every run of `p`; the flag says that the run the list starts in is already
written. -/
def squeezeFrom (p : α → Bool) (r : α) : Bool → List α → List α
  | _, [] => []
  | inRun, a :: l =>
      if p a then
        if inRun then squeezeFrom p r true l else r :: squeezeFrom p r true l
      else a :: squeezeFrom p r false l

/-- One `r` for every run of `p`, all other elements as they are. -/
def squeeze (p : α → Bool) (r : α) (l : List α) : List α :=
  squeezeFrom p r false l

@[simp] theorem squeezeFrom_nil (p : α → Bool) (r : α) (b : Bool) :
    squeezeFrom p r b [] = [] := rfl

theorem squeezeFrom_cons_of_pos {p : α → Bool} {a : α} (h : p a = true) (r : α) (l : List α) :
    squeezeFrom p r true (a :: l) = squeezeFrom p r true l ∧
      squeezeFrom p r false (a :: l) = r :: squeezeFrom p r true l := by
  simp [squeezeFrom, h]

theorem squeezeFrom_cons_of_neg {p : α → Bool} {a : α} (h : p a = false) (r : α) (b : Bool)
    (l : List α) : squeezeFrom p r b (a :: l) = a :: squeezeFrom p r false l := by
  simp [squeezeFrom, h]

/-- What a squeezed list holds is `r`, or an element outside `p` that was there before. -/
theorem mem_squeezeFrom {p : α → Bool} {r x : α} {b : Bool} {l : List α}
    (h : x ∈ squeezeFrom p r b l) : x = r ∨ (x ∈ l ∧ p x = false) := by
  induction l generalizing b with
  | nil => simp at h
  | cons a l ih =>
    unfold squeezeFrom at h
    split at h
    · split at h
      · rcases ih h with h | ⟨h, hp⟩
        · exact .inl h
        · exact .inr ⟨.tail _ h, hp⟩
      · rcases List.mem_cons.1 h with h | h
        · exact .inl h
        · rcases ih h with h | ⟨h, hp⟩
          · exact .inl h
          · exact .inr ⟨.tail _ h, hp⟩
    · rcases List.mem_cons.1 h with rfl | h
      · exact .inr ⟨.head _, by simp_all⟩
      · rcases ih h with h | ⟨h, hp⟩
        · exact .inl h
        · exact .inr ⟨.tail _ h, hp⟩

/-! ## Stripping -/

/-- The list without the run of `p` at its end. -/
def stripEnd (p : α → Bool) (l : List α) : List α :=
  (l.reverse.dropWhile p).reverse

/-- The list without the runs of `p` at its two ends. -/
def strip (p : α → Bool) (l : List α) : List α :=
  stripEnd p (l.dropWhile p)

@[simp] theorem strip_nil (p : α → Bool) : strip p [] = [] := rfl

/-- Stripping the end leaves a front part. -/
theorem stripEnd_isFront (p : α → Bool) (l : List α) : stripEnd p l <+: l := by
  have h := List.dropWhile_suffix (l := l.reverse) p
  rw [← List.reverse_prefix, List.reverse_reverse] at h
  exact h

/-- Stripping leaves a stretch of the list. -/
theorem strip_isStretch (p : α → Bool) (l : List α) : strip p l <:+: l :=
  (stripEnd_isFront p _).isInfix.trans (List.dropWhile_suffix p).isInfix

/-- The first element that is left when a run is dropped lies outside `p`. -/
theorem not_of_head_dropWhile {p : α → Bool} {l r : List α} {a : α}
    (h : l.dropWhile p = a :: r) : p a = false := by
  induction l with
  | nil => simp at h
  | cons b l ih =>
    by_cases hb : p b = true
    · exact ih (by simpa [List.dropWhile_cons, hb] using h)
    · simp [hb] at h
      simp_all

/-- The last element of a list stripped at its end lies outside `p`. -/
theorem not_of_stripEnd_eq_append {p : α → Bool} {l r : List α} {a : α}
    (h : stripEnd p l = r ++ [a]) : p a = false := by
  refine not_of_head_dropWhile (l := l.reverse) (r := r.reverse) ?_
  have := congrArg List.reverse h
  simpa [stripEnd] using this

/-- The last element of a stripped list lies outside `p`. -/
theorem not_of_strip_eq_append {p : α → Bool} {l r : List α} {a : α}
    (h : strip p l = r ++ [a]) : p a = false :=
  not_of_stripEnd_eq_append h

/-- The first element of a stripped list lies outside `p`. -/
theorem not_of_strip_eq_cons {p : α → Bool} {l r : List α} {a : α}
    (h : strip p l = a :: r) : p a = false := by
  obtain ⟨t, ht⟩ := stripEnd_isFront p (l.dropWhile p)
  have ht' : l.dropWhile p = a :: (r ++ t) := by
    rw [← ht]; change strip p l ++ t = _; rw [h]; rfl
  exact not_of_head_dropWhile ht'

/-- A stripped list has no element of `p` in front, and none at its end. -/
theorem ends_strip (p : α → Bool) (l : List α) :
    (strip p l).head?.any p = false ∧ (strip p l).getLast?.any p = false := by
  constructor
  · cases h : strip p l with
    | nil => rfl
    | cons a r =>
      rw [List.head?_cons, Option.any_some]
      exact not_of_strip_eq_cons h
  · rcases List.eq_nil_or_concat (strip p l) with h | ⟨r, a, h⟩
    · rw [h]
      rfl
    · rw [List.concat_eq_append] at h
      rw [h, List.getLast?_concat, Option.any_some]
      exact not_of_strip_eq_append h

/-! ## Cutting -/

/-- The list cut at every element of `p`, which is dropped: always one piece more than cuts. -/
def pieces (p : α → Bool) : List α → List (List α)
  | [] => [[]]
  | a :: l =>
      if p a then [] :: pieces p l
      else match pieces p l with
        | [] => [[a]]
        | w :: ws => (a :: w) :: ws

/-- The runs of `p`, in order. -/
def runs (p : α → Bool) (l : List α) : List (List α) :=
  (pieces (fun a => !p a) l).filter (fun w => !w.isEmpty)

@[simp] theorem pieces_nil (p : α → Bool) : pieces p ([] : List α) = [[]] := rfl

/-- There is always a piece. -/
theorem pieces_ne_nil (p : α → Bool) (l : List α) : pieces p l ≠ [] := by
  cases l with
  | nil => simp
  | cons a l =>
    unfold pieces
    split
    · simp
    · split <;> simp

end Text
end LiveForm
