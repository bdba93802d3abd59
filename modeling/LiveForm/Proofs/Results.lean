import Mathlib.Data.List.Forall2

/-!
# Computations that may fail

When a computation that may fail gives a result, and when it fails, for the ways in which
computations are put together.

* `mapError_eq_ok_iff`, `mapError_eq_error_iff`: another name for the fault.
* `map_eq_ok_iff`, `map_eq_error_iff`: another result made of it.
* `bind_eq_ok_iff`, `bind_eq_error_iff`: one computation behind the other.
* `mapM_eq_ok_iff`: one computation for each element of a list.
* `exists_mem_left_of_forall₂`, `exists_mem_right_of_forall₂`: in lists that belong together, what
  stands in one belongs to something in the other.
-/

namespace LiveForm

variable {ε ε' α β : Type}

/-- Renaming faults leaves results alone. -/
theorem mapError_eq_ok_iff {x : Except ε α} {f : ε → ε'} {a : α} :
    x.mapError f = .ok a ↔ x = .ok a := by
  cases x with
  | error e =>
    constructor
    · intro h
      cases h
    · intro h
      cases h
  | ok b =>
    constructor
    · intro h
      exact congrArg Except.ok (Except.ok.inj h)
    · intro h
      exact congrArg Except.ok (Except.ok.inj h)

/-- A renamed fault is the new name of a fault. -/
theorem mapError_eq_error_iff {x : Except ε α} {f : ε → ε'} {e' : ε'} :
    x.mapError f = .error e' ↔ ∃ e, x = .error e ∧ f e = e' := by
  cases x with
  | error e =>
    constructor
    · intro h
      exact ⟨e, rfl, Except.error.inj h⟩
    · rintro ⟨d, hd, he'⟩
      obtain rfl := Except.error.inj hd
      exact congrArg Except.error he'
  | ok a =>
    constructor
    · intro h
      cases h
    · rintro ⟨d, hd, -⟩
      cases hd

/-- Changing the result of a computation. -/
theorem map_eq_ok_iff {x : Except ε α} {f : α → β} {b : β} :
    x.map f = .ok b ↔ ∃ a, x = .ok a ∧ f a = b := by
  cases x with
  | error e =>
    constructor
    · intro h
      cases h
    · rintro ⟨a, ha, -⟩
      cases ha
  | ok a =>
    constructor
    · intro h
      exact ⟨a, rfl, Except.ok.inj h⟩
    · rintro ⟨a', ha, hb⟩
      obtain rfl := Except.ok.inj ha
      exact congrArg Except.ok hb

/-- Changing the result of a computation leaves faults alone. -/
theorem map_eq_error_iff {x : Except ε α} {f : α → β} {e : ε} :
    x.map f = .error e ↔ x = .error e := by
  cases x with
  | error e' =>
    constructor
    · intro h
      exact congrArg Except.error (Except.error.inj h)
    · intro h
      exact congrArg Except.error (Except.error.inj h)
  | ok a =>
    constructor
    · intro h
      cases h
    · intro h
      cases h

/-- A computation in two parts gives what the second makes of the result of the first. -/
theorem bind_eq_ok_iff {x : Except ε α} {f : α → Except ε β} {b : β} :
    x >>= f = .ok b ↔ ∃ a, x = .ok a ∧ f a = .ok b := by
  cases x with
  | error e =>
    constructor
    · intro h
      cases h
    · rintro ⟨a, ha, -⟩
      cases ha
  | ok a =>
    constructor
    · intro h
      exact ⟨a, rfl, h⟩
    · rintro ⟨a', ha, hb⟩
      obtain rfl := Except.ok.inj ha
      exact hb

/-- A computation in two parts fails in the first part or in the second. -/
theorem bind_eq_error_iff {x : Except ε α} {f : α → Except ε β} {e : ε} :
    x >>= f = .error e ↔ x = .error e ∨ ∃ a, x = .ok a ∧ f a = .error e := by
  cases x with
  | error e' =>
    constructor
    · intro h
      exact .inl (congrArg Except.error (Except.error.inj h))
    · rintro (h | ⟨a, ha, -⟩)
      · exact congrArg Except.error (Except.error.inj h)
      · cases ha
  | ok a =>
    constructor
    · intro h
      exact .inr ⟨a, rfl, h⟩
    · rintro (h | ⟨a', ha, he⟩)
      · cases h
      · obtain rfl := Except.ok.inj ha
        exact he

/-- A computation for each element of a list gives what each of them gives. -/
theorem mapM_eq_ok_iff {f : α → Except ε β} {l : List α} {m : List β} :
    l.mapM f = .ok m ↔ List.Forall₂ (fun a b => f a = .ok b) l m := by
  induction l generalizing m with
  | nil =>
    rw [List.mapM_nil, List.forall₂_nil_left_iff]
    exact ⟨fun h => (Except.ok.inj h).symm, fun h => by rw [h]; rfl⟩
  | cons a l ih =>
    rw [List.mapM_cons, List.forall₂_cons_left_iff, bind_eq_ok_iff]
    constructor
    · rintro ⟨b, ha, h⟩
      obtain ⟨bs, hl, hm⟩ := bind_eq_ok_iff.1 h
      exact ⟨b, bs, ha, ih.1 hl, (Except.ok.inj hm).symm⟩
    · rintro ⟨b, bs, ha, hl, rfl⟩
      exact ⟨b, ha, bind_eq_ok_iff.2 ⟨bs, ih.2 hl, rfl⟩⟩

/-! ## Lists that belong together -/

section Forall₂

variable {R : α → β → Prop} {l : List α} {m : List β}

theorem exists_mem_left_of_forall₂ (h : List.Forall₂ R l m) {b : β} (hb : b ∈ m) :
    ∃ a ∈ l, R a b := by
  induction h with
  | nil => cases hb
  | cons hab _ ih =>
    rcases List.mem_cons.1 hb with rfl | hb
    · exact ⟨_, .head _, hab⟩
    · obtain ⟨a, ha, hR⟩ := ih hb
      exact ⟨a, .tail _ ha, hR⟩

theorem exists_mem_right_of_forall₂ (h : List.Forall₂ R l m) {a : α} (ha : a ∈ l) :
    ∃ b ∈ m, R a b :=
  exists_mem_left_of_forall₂ h.flip ha

/-- If everything on the left belongs to something, the list belongs to a list. -/
theorem exists_forall₂ (h : ∀ a ∈ l, ∃ b, R a b) : ∃ m, List.Forall₂ R l m := by
  induction l with
  | nil => exact ⟨[], .nil⟩
  | cons a l ih =>
    rw [List.forall_mem_cons] at h
    obtain ⟨b, hb⟩ := h.1
    obtain ⟨m, hm⟩ := ih h.2
    exact ⟨b :: m, .cons hb hm⟩

end Forall₂

end LiveForm
