import Mathlib.Data.List.DropRight
import LiveForm.Text.Runs

/-!
# Runs and what leaves them alone

The runs of `q` in a list do not depend on how much there is between them.

* `runs_append_cons`: an element outside `q` cuts a list into two that have runs of their own.
* `runs_squeeze`: squeezing runs of `p` into one element keeps the runs of `q`, if all of that lies
  outside `q`.
* `runs_strip`: stripping elements outside `q` keeps them too.
* `runs_of_forall`: a list that lies in `q` is one run.
* `runs_map_congr`: what a function does outside `q` does not show in the runs.
* `runs_intercalate`, `flatMap_runs_pieces`: joining words by a gap and cutting a list at gaps keep
  the runs.

Where the recursion of `pieces` does not help, `cut_induction` goes along the cuts instead.
-/

namespace LiveForm
namespace Text

variable {α β : Type} {p q : α → Bool} {a r : α} {l m : List α}

/-! ## Pieces -/

/-- At a cut the pieces before it and the pieces behind it meet. -/
theorem pieces_append_cons (h : p a = true) (l m : List α) :
    pieces p (l ++ a :: m) = pieces p l ++ pieces p m := by
  induction l with
  | nil => simp [pieces, h]
  | cons b l ih =>
    by_cases hb : p b = true
    · simp [pieces, hb, ih]
    · obtain ⟨w, ws, hw⟩ := List.exists_cons_of_ne_nil (pieces_ne_nil p l)
      simp [pieces, hb, ih, hw]

theorem pieces_of_forall (h : ∀ a ∈ l, p a = false) : pieces p l = [l] := by
  induction l with
  | nil => rfl
  | cons a l ih =>
    rw [List.forall_mem_cons] at h
    simp [pieces, h.1, ih h.2]

/-- Induction along the cuts of a list: a list without an element of `p`, and two lists with an
element of `p` between them. -/
@[elab_as_elim]
theorem cut_induction {motive : List α → Prop} (p : α → Bool)
    (uncut : ∀ l, (∀ a ∈ l, p a = false) → motive l)
    (cut : ∀ l a m, p a = true → motive l → motive m → motive (l ++ a :: m))
    (l : List α) : motive l := by
  by_cases h : ∃ a ∈ l, p a = true
  · obtain ⟨a, ha, hp⟩ := h
    obtain ⟨front, back, hl⟩ := List.append_of_mem ha
    have hlength : front.length + back.length + 1 = l.length := by
      rw [hl, List.length_append, List.length_cons]
      omega
    rw [hl]
    exact cut front a back hp (cut_induction p uncut cut front) (cut_induction p uncut cut back)
  · exact uncut l fun a ha => Bool.eq_false_iff.2 fun hp => h ⟨a, ha, hp⟩
termination_by l.length

/-- What lies in a piece was in the list and is no cut. -/
theorem of_mem_pieces {w : List α} (hw : w ∈ pieces p l) (ha : a ∈ w) : a ∈ l ∧ p a = false := by
  induction l using cut_induction p with
  | uncut l h =>
    rw [pieces_of_forall h, List.mem_singleton] at hw
    rw [hw] at ha
    exact ⟨ha, h a ha⟩
  | cut l b m hb hl hm =>
    rw [pieces_append_cons hb, List.mem_append] at hw
    rcases hw with hw | hw
    · exact ⟨List.mem_append_left _ (hl hw).1, (hl hw).2⟩
    · exact ⟨List.mem_append_right _ (.tail _ (hm hw).1), (hm hw).2⟩

/-! ## Runs -/

@[simp] theorem runs_nil (q : α → Bool) : runs q [] = [] := rfl

/-- An element outside `q` ends the runs before it, and the others begin behind it. -/
theorem runs_append_cons (h : q a = false) (l m : List α) :
    runs q (l ++ a :: m) = runs q l ++ runs q m := by
  rw [runs, pieces_append_cons (by rw [h]; rfl), List.filter_append, runs, runs]

theorem runs_cons_of_neg (h : q a = false) (l : List α) : runs q (a :: l) = runs q l :=
  runs_append_cons h [] l

/-- A list that lies in `q` is one run. -/
theorem runs_of_forall (hne : l ≠ []) (h : ∀ a ∈ l, q a = true) : runs q l = [l] := by
  rw [runs, pieces_of_forall fun a ha => by rw [h a ha]; rfl]
  simp [hne]

/-- Elements outside `q` in front of a list have no run. -/
theorem runs_append_of_forall_left (h : ∀ a ∈ l, q a = false) (m : List α) :
    runs q (l ++ m) = runs q m := by
  induction l with
  | nil => rfl
  | cons a l ih =>
    rw [List.forall_mem_cons] at h
    rw [List.cons_append, runs_cons_of_neg h.1, ih h.2]

/-- Elements outside `q` behind a list have no run. -/
theorem runs_append_of_forall_right (h : ∀ a ∈ m, q a = false) (l : List α) :
    runs q (l ++ m) = runs q l := by
  cases m with
  | nil => rw [List.append_nil]
  | cons a m =>
    rw [List.forall_mem_cons] at h
    have hm : runs q m = [] := by simpa using runs_append_of_forall_left h.2 []
    rw [runs_append_cons h.1, hm, List.append_nil]

theorem runs_congr (h : ∀ a ∈ l, p a = q a) : runs p l = runs q l := by
  -- the cuts lie outside `q`, so a list without a cut is one run of both or empty
  induction l using cut_induction (fun a => !q a) with
  | uncut l hin =>
    by_cases hne : l = []
    · rw [hne, runs_nil, runs_nil]
    · have hq : ∀ a ∈ l, q a = true := by simpa using hin
      rw [runs_of_forall hne hq, runs_of_forall hne fun a ha => (h a ha).trans (hq a ha)]
  | cut l a m ha hl hm =>
    have hq : q a = false := by simpa using ha
    rw [runs_append_cons hq, runs_append_cons ((h a (by simp)).trans hq),
      hl fun b hb => h b (by simp [hb]), hm fun b hb => h b (by simp [hb])]

/-- A gap between two lists keeps their runs apart. -/
theorem runs_append_gap_append {gap : List α} (hne : gap ≠ []) (h : ∀ a ∈ gap, q a = false)
    (l m : List α) : runs q (l ++ gap ++ m) = runs q l ++ runs q m := by
  obtain ⟨a, gap, rfl⟩ := List.exists_cons_of_ne_nil hne
  rw [List.forall_mem_cons] at h
  rw [List.append_assoc, List.cons_append, runs_append_cons h.1, runs_append_of_forall_left h.2]

/-- A run is not empty and lies in `q`. -/
theorem of_mem_runs {w : List α} (hw : w ∈ runs q l) : w ≠ [] ∧ ∀ a ∈ w, q a = true := by
  rw [runs, List.mem_filter] at hw
  refine ⟨by simpa using hw.2, fun a ha => ?_⟩
  simpa using (of_mem_pieces hw.1 ha).2

/-! ## Squeezing and stripping -/

/-- Squeezing keeps the runs.  What stands in front is carried along, as a run that is open there
goes on into the list. -/
theorem runs_append_squeezeFrom (hp : ∀ a, p a = true → q a = false) (hr : q r = false)
    (l : List α) :
    (∀ front, runs q (front ++ squeezeFrom p r false l) = runs q (front ++ l)) ∧
      runs q (squeezeFrom p r true l) = runs q l := by
  induction l with
  | nil => exact ⟨fun _ => rfl, rfl⟩
  | cons a l ih =>
    obtain ⟨ihopen, ihinside⟩ := ih
    by_cases ha : p a = true
    · obtain ⟨htrue, hfalse⟩ := squeezeFrom_cons_of_pos ha r l
      refine ⟨fun front => ?_, ?_⟩
      · rw [hfalse, runs_append_cons hr, runs_append_cons (hp a ha), ihinside]
      · rw [htrue, runs_cons_of_neg (hp a ha), ihinside]
    · rw [Bool.not_eq_true] at ha
      rw [squeezeFrom_cons_of_neg ha, squeezeFrom_cons_of_neg ha]
      refine ⟨fun front => ?_, ihopen [a]⟩
      rw [List.append_cons, ihopen, ← List.append_cons]

/-- **Squeezing what lies outside `q` keeps the runs of `q`.** -/
theorem runs_squeeze (hp : ∀ a, p a = true → q a = false) (hr : q r = false) (l : List α) :
    runs q (squeeze p r l) = runs q l :=
  (runs_append_squeezeFrom hp hr l).1 []

/-- **Stripping what lies outside `q` keeps the runs of `q`.** -/
theorem runs_strip (hp : ∀ a, p a = true → q a = false) (l : List α) :
    runs q (strip p l) = runs q l := by
  have hback : stripEnd p (l.dropWhile p) ++ (l.dropWhile p).rtakeWhile p = l.dropWhile p :=
    List.rdropWhile_append_rtakeWhile
  have hfront : ∀ a ∈ l.takeWhile p, q a = false := fun a ha => hp a (List.mem_takeWhile_imp ha)
  have hbehind : ∀ a ∈ (l.dropWhile p).rtakeWhile p, q a = false :=
    fun a ha => hp a (List.mem_rtakeWhile_imp ha)
  calc runs q (strip p l)
      = runs q (stripEnd p (l.dropWhile p) ++ (l.dropWhile p).rtakeWhile p) :=
        (runs_append_of_forall_right hbehind _).symm
    _ = runs q (l.takeWhile p ++ l.dropWhile p) := by
        rw [hback, runs_append_of_forall_left hfront]
    _ = runs q l := by rw [List.takeWhile_append_dropWhile]

/-! ## Images -/

theorem pieces_map (p : β → Bool) (f : α → β) (l : List α) :
    pieces p (l.map f) = (pieces (fun a => p (f a)) l).map (·.map f) := by
  induction l using cut_induction (fun a => p (f a)) with
  | uncut l h =>
    have hmap : ∀ b ∈ l.map f, p b = false := List.forall_mem_map.2 h
    rw [pieces_of_forall h, pieces_of_forall hmap, List.map_singleton]
  | cut l a m ha hl hm =>
    rw [List.map_append, List.map_cons, pieces_append_cons ha, hl, hm,
      pieces_append_cons (p := fun a => p (f a)) ha, List.map_append]

/-- The runs among images are the images of runs. -/
theorem runs_map (q : β → Bool) (f : α → β) (l : List α) :
    runs q (l.map f) = (runs (fun a => q (f a)) l).map (·.map f) := by
  rw [runs, pieces_map, List.filter_map, runs]
  refine congrArg (List.map _) (List.filter_congr fun w _ => ?_)
  rw [Function.comp_apply, List.isEmpty_map]

/-- Two functions give the same runs if they lead into `q` together and are equal where they do. -/
theorem runs_map_congr {q : β → Bool} {f g : α → β}
    (h : ∀ a ∈ l, q (f a) = q (g a) ∧ (q (f a) = true → f a = g a)) :
    runs q (l.map f) = runs q (l.map g) := by
  -- without a cut all images lie in `q`, and there the functions are equal
  induction l using cut_induction (fun a => !q (f a)) with
  | uncut l hin =>
    refine congrArg (runs q) (List.map_congr_left fun a ha => (h a ha).2 ?_)
    simpa using hin a ha
  | cut l a m ha hl hm =>
    have hf : q (f a) = false := by simpa using ha
    have hg : q (g a) = false := (h a (by simp)).1 ▸ hf
    rw [List.map_append, List.map_cons, runs_append_cons hf, hl fun b hb => h b (by simp [hb]),
      hm fun b hb => h b (by simp [hb]), List.map_append, List.map_cons, runs_append_cons hg]

/-! ## Joining and cutting -/

/-- What is joined comes from the gap or from a word. -/
theorem forall_mem_intercalate {P : α → Prop} {gap : List α} {words : List (List α)}
    (hgap : ∀ a ∈ gap, P a) (hwords : ∀ w ∈ words, ∀ a ∈ w, P a) :
    ∀ a ∈ List.intercalate gap words, P a := by
  induction words with
  | nil => exact fun a ha => absurd ha List.not_mem_nil
  | cons w words ih =>
    rw [List.forall_mem_cons] at hwords
    cases words with
    | nil =>
      rw [List.intercalate_singleton]
      exact hwords.1
    | cons v words =>
      rw [List.intercalate_cons_cons, List.forall_mem_append, List.forall_mem_append]
      exact ⟨⟨hwords.1, hgap⟩, ih hwords.2⟩

/-- Between two lists of words that are joined there is a gap, if none of them is empty. -/
theorem intercalate_append {gap : List α} {l m : List (List α)} (hl : l ≠ []) (hm : m ≠ []) :
    List.intercalate gap (l ++ m) = List.intercalate gap l ++ gap ++ List.intercalate gap m := by
  induction l with
  | nil => exact absurd rfl hl
  | cons w l ih =>
    have hrest : l ++ m ≠ [] := List.append_ne_nil_of_right_ne_nil l hm
    rw [List.cons_append, List.intercalate_cons_of_ne_nil hrest]
    by_cases hnil : l = []
    · rw [hnil, List.nil_append, List.intercalate_singleton]
    · rw [ih hnil, List.intercalate_cons_of_ne_nil hnil]
      simp only [List.append_assoc]

/-- **Joined by gaps, runs are found again.** -/
theorem runs_intercalate {gap : List α} (hne : gap ≠ []) (hgap : ∀ a ∈ gap, q a = false)
    {words : List (List α)} (hwords : ∀ w ∈ words, w ≠ [] ∧ ∀ a ∈ w, q a = true) :
    runs q (List.intercalate gap words) = words := by
  induction words with
  | nil => rfl
  | cons w words ih =>
    rw [List.forall_mem_cons] at hwords
    obtain ⟨⟨hw, hq⟩, hrest⟩ := hwords
    cases words with
    | nil => rw [List.intercalate_singleton, runs_of_forall hw hq]
    | cons v words =>
      rw [List.intercalate_cons_cons, runs_append_gap_append hne hgap, runs_of_forall hw hq,
        ih hrest, List.singleton_append]

/-- **Cutting first makes no difference to runs.**  If what stands for a cut is a gap, the runs of
all pieces together are the runs of the whole. -/
theorem flatMap_runs_pieces {q : β → Bool} {g : α → List β}
    (h : ∀ a, p a = true → g a ≠ [] ∧ ∀ b ∈ g a, q b = false) (l : List α) :
    (pieces p l).flatMap (fun piece => runs q (piece.flatMap g)) = runs q (l.flatMap g) := by
  induction l using cut_induction p with
  | uncut l hl => rw [pieces_of_forall hl, List.flatMap_singleton]
  | cut l a m ha hl hm =>
    rw [pieces_append_cons ha, List.flatMap_append, hl, hm, List.flatMap_append,
      List.flatMap_cons, ← List.append_assoc, runs_append_gap_append (h a ha).1 (h a ha).2]

end Text
end LiveForm
