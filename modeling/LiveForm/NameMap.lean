import LiveForm.NameSet

/-!
# Finite maps from names

A `NameMap` keeps its entries in increasing order of their names, one for each name.  Of two values
for the same name the later one counts.
-/

namespace LiveForm

/-- A finite map from names, in increasing order. -/
structure NameMap (α : Type) where
  entries : List (String × α)
  increasing : entries.Pairwise (·.1 < ·.1)

namespace NameMap

variable {α : Type}

/-- The map without entries. -/
def empty : NameMap α := ⟨[], .nil⟩

instance : EmptyCollection (NameMap α) := ⟨empty⟩

/-- An increasing list of entries with one more entry at its place. -/
def insertSorted (x : String) (a : α) : List (String × α) → List (String × α)
  | [] => [(x, a)]
  | (y, b) :: es =>
      if x < y then (x, a) :: (y, b) :: es
      else if x = y then (x, a) :: es
      else (y, b) :: insertSorted x a es

theorem name_of_mem_insertSorted {x : String} {a : α} {e : String × α} {es : List (String × α)}
    (h : e ∈ insertSorted x a es) : e.1 = x ∨ e ∈ es := by
  induction es with
  | nil =>
    rw [insertSorted, List.mem_singleton] at h
    exact .inl (h ▸ rfl)
  | cons d es ih =>
    obtain ⟨y, b⟩ := d
    unfold insertSorted at h
    split at h
    · rcases List.mem_cons.1 h with rfl | h
      · exact .inl rfl
      · exact .inr h
    · split at h
      · rcases List.mem_cons.1 h with rfl | h
        · exact .inl rfl
        · exact .inr (.tail _ h)
      · rcases List.mem_cons.1 h with rfl | h
        · exact .inr (.head _)
        · rcases ih h with h | h
          · exact .inl h
          · exact .inr (.tail _ h)

theorem pairwise_insertSorted {x : String} {a : α} {es : List (String × α)}
    (h : es.Pairwise (·.1 < ·.1)) : (insertSorted x a es).Pairwise (·.1 < ·.1) := by
  induction es with
  | nil => simp [insertSorted]
  | cons d es ih =>
    obtain ⟨y, b⟩ := d
    rw [List.pairwise_cons] at h
    unfold insertSorted
    split
    · next hxy =>
      refine List.pairwise_cons.2 ⟨fun e he => ?_, List.pairwise_cons.2 h⟩
      rcases List.mem_cons.1 he with rfl | he
      · exact hxy
      · exact String.lt_trans hxy (h.1 e he)
    · split
      · next hxy =>
        subst hxy
        exact List.pairwise_cons.2 ⟨h.1, h.2⟩
      · next hxy hne =>
        refine List.pairwise_cons.2 ⟨fun e he => ?_, ih h.2⟩
        rcases name_of_mem_insertSorted he with he | he
        · exact he ▸ Std.lt_of_le_of_ne (Std.not_lt.1 hxy) (Ne.symm hne)
        · exact h.1 e he

/-- The map with a value for a name, in the place of an older one. -/
def insert (m : NameMap α) (x : String) (a : α) : NameMap α :=
  ⟨insertSorted x a m.entries, pairwise_insertSorted m.increasing⟩

/-- The value for a name. -/
def get? (m : NameMap α) (x : String) : Option α := m.entries.lookup x

/-- The map of a list of entries, of which the last for each name counts. -/
def ofList (l : List (String × α)) : NameMap α :=
  l.foldl (fun m e => m.insert e.1 e.2) ∅

/-- The number of names. -/
def size (m : NameMap α) : Nat := m.entries.length

/-! ## Looking up what was inserted -/

theorem lookup_insertSorted (x y : String) (a : α) (es : List (String × α)) :
    (insertSorted x a es).lookup y = if y = x then some a else es.lookup y := by
  induction es with
  | nil =>
    rw [insertSorted, List.lookup_cons]
    by_cases h : y = x
    · simp [h]
    · simp [beq_false_of_ne h, h]
  | cons e es ih =>
    obtain ⟨z, b⟩ := e
    by_cases h : y = x
    · subst h
      unfold insertSorted
      split
      · simp
      · split
        · simp
        · next hne => rw [List.lookup_cons, beq_false_of_ne hne, ih]; simp
    · have hx : (y == x) = false := beq_false_of_ne h
      rw [if_neg h] at ih ⊢
      unfold insertSorted
      split
      · rw [List.lookup_cons, hx]
      · split
        · next he => subst he; rw [List.lookup_cons, List.lookup_cons, hx]
        · rw [List.lookup_cons, List.lookup_cons, ih]

@[simp] theorem get?_empty (x : String) : (∅ : NameMap α).get? x = none := rfl

@[simp] theorem get?_insert (m : NameMap α) (x y : String) (a : α) :
    (m.insert x a).get? y = if y = x then some a else m.get? y :=
  lookup_insertSorted x y a m.entries

end NameMap
end LiveForm
