import LiveForm.Proofs.Text.Trimming
import LiveForm.Stepper.Quantity

/-!
# Quantities in fields

What a step writes into a field is what the next one reads there.

* `Decimal.readNat?_eq_some_iff`: the texts of digits that are read within a limit.
* `readQuantity_le`: a quantity read from a field stays within the bounds.
* `readQuantity_quantityText`: a quantity within the bounds is read back from its digits.
* `StepAction.ofText?_eq_some_iff`: the texts that name an action.
* `StepAction.eq_decrease_of_apply_eq_zero`: only a decrease ends at zero.
-/

namespace LiveForm

/-! ## Digits -/

namespace Decimal

variable {limit acc n : Nat} {cs : List Char}

/-- Digits are read if the number stays within the limit, and as that number. -/
theorem readAfter?_eq_some_iff (hacc : acc ≤ limit) :
    readAfter? limit acc cs = some n ↔
      (∀ c ∈ cs, c.isDigit = true) ∧ valueAfter acc cs = n ∧ n ≤ limit := by
  induction cs generalizing acc with
  | nil =>
    rw [readAfter?_nil, Option.some_inj]
    constructor
    · rintro rfl
      exact ⟨fun _ hc => absurd hc List.not_mem_nil, rfl, hacc⟩
    · exact fun h => h.2.1
  | cons c cs ih =>
    rw [readAfter?, List.forall_mem_cons, and_assoc]
    split
    · next hdigit =>
      rw [and_iff_right hdigit]
      simp only
      split
      · next hle => exact ih hle
      · next hgt =>
        constructor
        · intro h
          cases h
        · -- further digits do not bring the number back below the limit
          rintro ⟨-, rfl, hvalue⟩
          exact absurd (Nat.le_trans (le_valueAfter _ cs) hvalue) hgt
    · next hdigit =>
      constructor
      · intro h
        cases h
      · exact fun h => absurd h.1 hdigit

/-- One digit or more are read if their number stays within the limit, and nothing else is. -/
theorem readNat?_eq_some_iff :
    readNat? limit cs = some n ↔
      cs ≠ [] ∧ (∀ c ∈ cs, c.isDigit = true) ∧ valueOf cs = n ∧ n ≤ limit := by
  unfold readNat?
  split
  · next hnil => simp [hnil]
  · next hne => rw [readAfter?_eq_some_iff (Nat.zero_le limit), and_iff_right hne, valueOf]

/-- The digits of a number stand for it. -/
theorem valueOf_toDigits (n : Nat) : valueOf (Nat.toDigits 10 n) = n :=
  Nat.ofDigitChars_toDigits (by decide) (by decide)

end Decimal

/-! ## Reading back -/

theorem Text.isBlank_of_isDigit {c : Char} (h : c.isDigit = true) : isBlank c = false := by
  have hcodes : c.isDigit = (decide (48 ≤ c.toNat) && decide (c.toNat ≤ 57)) := rfl
  rw [hcodes, Bool.and_eq_true, decide_eq_true_eq, decide_eq_true_eq] at h
  rw [Bool.eq_false_iff]
  intro hblank
  simp only [isBlank, Bool.or_eq_true, Bool.and_eq_true, decide_eq_true_eq, beq_iff_eq] at hblank
  omega

open Text

variable {cs : List Char} {n : Nat}

theorem trimChars_of_isDigit (h : ∀ c ∈ cs, c.isDigit = true) : trimChars cs = cs :=
  strip_eq_self_of_forall fun c hc => isBlank_of_isDigit (h c hc)

theorem unsignedPart_of_isDigit (h : ∀ c ∈ cs, c.isDigit = true) : unsignedPart cs = cs := by
  unfold unsignedPart
  split
  · exact absurd (h '+' (.head _)) (by decide)
  · rfl

/-- A quantity that is read stays within the bounds. -/
theorem readQuantity_le (s : String) : readQuantity s ≤ maxQuantity := by
  unfold readQuantity
  cases h : Decimal.readNat? maxQuantity (unsignedPart (trimChars s.toList)) with
  | none => exact Nat.zero_le _
  | some n => exact (Decimal.readNat?_eq_some_iff.1 h).2.2.2

/-- **A quantity is read back from its digits.** -/
theorem readQuantity_quantityText (h : n ≤ maxQuantity) : readQuantity (quantityText n) = n := by
  have hdigits : ∀ c ∈ Nat.toDigits 10 n, c.isDigit = true :=
    fun c => Nat.isDigit_of_mem_toDigits (by decide) (by decide)
  have hread : Decimal.readNat? maxQuantity (Nat.toDigits 10 n) = some n :=
    Decimal.readNat?_eq_some_iff.2 ⟨Nat.toDigits_ne_nil, hdigits, Decimal.valueOf_toDigits n, h⟩
  rw [readQuantity, quantityText, String.toList_ofList, trimChars_of_isDigit hdigits,
    unsignedPart_of_isDigit hdigits, hread]
  rfl

/-! ## Steps -/

namespace StepAction

/-- The texts that name an action: its word, with blanks around it perhaps. -/
theorem ofText?_eq_some_iff {text : String} {a : StepAction} :
    ofText? text = some a ↔ Text.trim text = a.word := by
  have hwords : increase.word ≠ decrease.word := by decide
  rw [ofText?]
  split
  · next hincrease =>
    rw [hincrease]
    cases a with
    | increase => simp
    | decrease => simp [hwords]
  · next hincrease =>
    split
    · next hdecrease =>
      rw [hdecrease]
      cases a with
      | increase => simp [hwords.symm]
      | decrease => simp
    · next hdecrease =>
      cases a with
      | increase => simp [hincrease]
      | decrease => simp [hdecrease]

/-- What a step writes into a field is read back there. -/
theorem readQuantity_apply (a : StepAction) (s : String) :
    readQuantity (quantityText (a.apply (readQuantity s))) = a.apply (readQuantity s) :=
  readQuantity_quantityText (a.apply_le (readQuantity_le s))

/-- Only a decrease ends at zero. -/
theorem eq_decrease_of_apply_eq_zero {a : StepAction} (h : a.apply n = 0) : a = .decrease := by
  cases a with
  | increase =>
    rw [apply, maxQuantity] at h
    omega
  | decrease => rfl

end StepAction
end LiveForm
