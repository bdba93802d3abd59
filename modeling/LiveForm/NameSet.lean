/-!
# Finite sets of names

A `NameSet` keeps its names in increasing order of their characters, each once.  So a set has one
form only (`NameSet.ext`), and listing it needs no sorting.
-/

namespace LiveForm

/-- A finite set of names, in increasing order. -/
structure NameSet where
  names : List String
  increasing : names.Pairwise (· < ·)
  deriving DecidableEq

namespace NameSet

instance : Membership String NameSet where
  mem s x := x ∈ s.names

theorem mem_def {s : NameSet} {x : String} : x ∈ s ↔ x ∈ s.names := Iff.rfl

instance (x : String) (s : NameSet) : Decidable (x ∈ s) :=
  inferInstanceAs (Decidable (x ∈ s.names))

/-- The set without a name. -/
def empty : NameSet := ⟨[], .nil⟩

instance : EmptyCollection NameSet := ⟨empty⟩

@[simp] theorem not_mem_empty (x : String) : ¬ x ∈ (∅ : NameSet) := List.not_mem_nil

/-- Whether a name is in the set. -/
def contains (s : NameSet) (x : String) : Bool := decide (x ∈ s)

@[simp] theorem contains_iff {s : NameSet} {x : String} : s.contains x = true ↔ x ∈ s := by
  simp [contains]

/-! ## Inserting and erasing -/

/-- An increasing list with one more name at its place. -/
def insertSorted (x : String) : List String → List String
  | [] => [x]
  | y :: ys =>
      if x < y then x :: y :: ys
      else if x = y then y :: ys
      else y :: insertSorted x ys

theorem mem_insertSorted {x z : String} {ys : List String} :
    z ∈ insertSorted x ys ↔ z = x ∨ z ∈ ys := by
  induction ys with
  | nil => simp [insertSorted]
  | cons y ys ih =>
    unfold insertSorted
    split
    · simp
    · split
      · next h => subst h; simp
      · simp [ih, or_left_comm]

theorem pairwise_insertSorted {x : String} {ys : List String} (h : ys.Pairwise (· < ·)) :
    (insertSorted x ys).Pairwise (· < ·) := by
  induction ys with
  | nil => simp [insertSorted]
  | cons y ys ih =>
    rw [List.pairwise_cons] at h
    unfold insertSorted
    split
    · next hxy =>
      refine List.pairwise_cons.2 ⟨fun z hz => ?_, List.pairwise_cons.2 h⟩
      rcases List.mem_cons.1 hz with rfl | hz
      · exact hxy
      · exact String.lt_trans hxy (h.1 z hz)
    · split
      · exact List.pairwise_cons.2 h
      · next hxy hne =>
        refine List.pairwise_cons.2 ⟨fun z hz => ?_, ih h.2⟩
        rcases mem_insertSorted.1 hz with rfl | hz
        · exact Std.lt_of_le_of_ne (Std.not_lt.1 hxy) (Ne.symm hne)
        · exact h.1 z hz

/-- The set with one more name. -/
def insert (s : NameSet) (x : String) : NameSet :=
  ⟨insertSorted x s.names, pairwise_insertSorted s.increasing⟩

/-- The set without a name. -/
def erase (s : NameSet) (x : String) : NameSet :=
  ⟨s.names.filter (· ≠ x), s.increasing.filter _⟩

/-- The set of the names of a list. -/
def ofList (l : List String) : NameSet :=
  l.foldl insert ∅

@[simp] theorem mem_insert {s : NameSet} {x y : String} : y ∈ s.insert x ↔ y = x ∨ y ∈ s :=
  mem_insertSorted

@[simp] theorem mem_erase {s : NameSet} {x y : String} : y ∈ s.erase x ↔ y ∈ s ∧ y ≠ x := by
  simp [mem_def, erase]

theorem mem_foldl_insert {l : List String} {s : NameSet} {x : String} :
    x ∈ l.foldl insert s ↔ x ∈ l ∨ x ∈ s := by
  induction l generalizing s with
  | nil => simp
  | cons y l ih => rw [List.foldl_cons, ih, mem_insert]; simp [or_assoc, or_left_comm]

@[simp] theorem mem_ofList {l : List String} {x : String} : x ∈ ofList l ↔ x ∈ l := by
  simp [ofList, mem_foldl_insert]

/-! ## One form for each set -/

theorem eq_of_pairwise_of_mem_iff {l m : List String} (hl : l.Pairwise (· < ·))
    (hm : m.Pairwise (· < ·)) (h : ∀ x, x ∈ l ↔ x ∈ m) : l = m := by
  induction l generalizing m with
  | nil =>
    cases m with
    | nil => rfl
    | cons b m => exact absurd ((h b).2 (.head _)) List.not_mem_nil
  | cons a l ih =>
    cases m with
    | nil => exact absurd ((h a).1 (.head _)) List.not_mem_nil
    | cons b m =>
      rw [List.pairwise_cons] at hl hm
      have hab : a = b := by
        rcases List.mem_cons.1 ((h a).1 (.head _)) with hab | hab
        · exact hab
        · rcases List.mem_cons.1 ((h b).2 (.head _)) with hba | hba
          · exact hba.symm
          · exact absurd (String.lt_trans (hl.1 b hba) (hm.1 a hab)) (String.lt_irrefl a)
      subst hab
      refine congrArg (a :: ·) (ih hl.2 hm.2 fun x => ⟨fun hx => ?_, fun hx => ?_⟩)
      · rcases List.mem_cons.1 ((h x).1 (.tail _ hx)) with rfl | hx'
        · exact absurd (hl.1 _ hx) (String.lt_irrefl _)
        · exact hx'
      · rcases List.mem_cons.1 ((h x).2 (.tail _ hx)) with rfl | hx'
        · exact absurd (hm.1 _ hx) (String.lt_irrefl _)
        · exact hx'

/-- Two sets with the same names are equal. -/
@[ext] theorem ext {s t : NameSet} (h : ∀ x, x ∈ s ↔ x ∈ t) : s = t := by
  have hn : s.names = t.names := eq_of_pairwise_of_mem_iff s.increasing t.increasing h
  cases s; cases t; subst hn; rfl

end NameSet
end LiveForm
