import Mathlib.Data.Nat.Digits.Defs
import LiveForm.Proofs.Stepper.Tally

/-!
# Numerals in fields

Users may type any text into a quantity field.  A text is read digit by digit, and the reading stops
as soon as the number passes the largest quantity; what a row of digits stands for is a sum over
their places, however many there are.  The two agree on every text, zeros in front included.

* `Numeral`: one digit or more, perhaps behind a plus sign; `Numeral.value` is its number by places.
* `Decimal.valueOf_eq_ofDigits`: counting digit by digit and by places.
* `Numeral.unsignedPart_chars`, `Numeral.exists_chars_eq`: what is behind the plus sign of a
  numeral, and which texts are numerals.
* `readQuantity_of_lt`, `readQuantity_eq_zero`: numerals below the bound, and all other texts.
* `readQuantity_reads_numerals`: the main statement.
-/

namespace LiveForm

/-! ## Numerals -/

/-- A whole number as it is written: one ASCII digit or more, and perhaps a plus sign in front. -/
structure Numeral where
  signed : Bool
  digits : List Char
  isDigit_of_mem : ∀ c ∈ digits, c.isDigit = true
  ne_nil : digits ≠ []

/-- **Digit by digit and by places**, digits stand for the same number. -/
theorem Decimal.valueOf_eq_ofDigits (cs : List Char) :
    valueOf cs = Nat.ofDigits 10 (cs.reverse.map digitValue) := by
  -- from the end of the text, where the places begin
  induction cs using List.reverseRecOn with
  | nil => rfl
  | append_singleton cs c ih =>
    have hlast : valueOf (cs ++ [c]) = 10 * valueOf cs + digitValue c := List.foldl_append
    rw [hlast, ih, List.reverse_append, List.reverse_singleton, List.singleton_append,
      List.map_cons, Nat.ofDigits_cons, Nat.add_comm]

namespace Numeral

variable {cs : List Char}

def chars (m : Numeral) : List Char := if m.signed then '+' :: m.digits else m.digits

/-- The number of a numeral: each digit counts as much as its place. -/
def value (m : Numeral) : Nat := Nat.ofDigits 10 (m.digits.reverse.map Decimal.digitValue)

theorem unsignedPart_chars (m : Numeral) : unsignedPart m.chars = m.digits := by
  unfold chars
  split
  · rfl
  · exact unsignedPart_of_isDigit m.isDigit_of_mem

/-- The text of a numeral tells its number. -/
theorem value_eq_valueOf (m : Numeral) : m.value = Decimal.valueOf (unsignedPart m.chars) := by
  rw [unsignedPart_chars, Decimal.valueOf_eq_ofDigits, value]

/-- A text is a numeral if there are digits behind its plus sign, or behind none. -/
theorem exists_chars_eq (hne : unsignedPart cs ≠ [])
    (hdigits : ∀ c ∈ unsignedPart cs, c.isDigit = true) : ∃ m : Numeral, m.chars = cs := by
  unfold unsignedPart at hne hdigits
  split at hne
  · next ds => exact ⟨⟨true, ds, hdigits, hne⟩, rfl⟩
  · next hplus =>
    split at hdigits
    · next ds => exact absurd rfl (hplus ds)
    · exact ⟨⟨false, cs, hdigits, hne⟩, rfl⟩

end Numeral

/-! ## Reading -/

open Text

variable {s : String} {m : Numeral}

/-- A numeral within the bounds is read as its number. -/
theorem readQuantity_of_lt (hs : trimChars s.toList = m.chars) (h : m.value < 2 ^ 64) :
    readQuantity s = m.value := by
  have hvalue : Decimal.valueOf m.digits = m.value := by
    rw [m.value_eq_valueOf, m.unsignedPart_chars]
  have hread : Decimal.readNat? maxQuantity m.digits = some m.value :=
    Decimal.readNat?_eq_some_iff.2 ⟨m.ne_nil, m.isDigit_of_mem, hvalue, Nat.le_of_lt_succ h⟩
  rw [readQuantity, hs, m.unsignedPart_chars, hread]
  rfl

/-- A text that is no numeral, or one beyond the bounds, counts as zero. -/
theorem readQuantity_eq_zero (h : ∀ m : Numeral, trimChars s.toList = m.chars → 2 ^ 64 ≤ m.value) :
    readQuantity s = 0 := by
  rw [readQuantity]
  cases hread : Decimal.readNat? maxQuantity (unsignedPart (trimChars s.toList)) with
  | none => rfl
  | some n =>
    obtain ⟨hne, hdigits, hvalue, hle⟩ := Decimal.readNat?_eq_some_iff.1 hread
    obtain ⟨m, hm⟩ := Numeral.exists_chars_eq hne hdigits
    have hlarge : 2 ^ 64 ≤ m.value := h m hm.symm
    rw [m.value_eq_valueOf, hm, hvalue] at hlarge
    exact absurd (Nat.lt_of_le_of_lt hle (by decide)) (Nat.not_lt.2 hlarge)

/-- **Quantities are read from numerals.**  A text that is a numeral between blanks, with a number
below `2 ^ 64`, is read as that number, and every other text as zero.  A step leads to the whole
number behind it, kept within the bounds, and its text in digits is read back. -/
theorem readQuantity_reads_numerals :
    (∀ (s : String) (m : Numeral), trimChars s.toList = m.chars → m.value < 2 ^ 64 →
      readQuantity s = m.value) ∧
    (∀ s : String, (∀ m : Numeral, trimChars s.toList = m.chars → 2 ^ 64 ≤ m.value) →
      readQuantity s = 0) ∧
    ∀ (a : StepAction) (old : Nat), old < 2 ^ 64 →
      (a.apply old : Int) = max 0 (min (old + a.change) (2 ^ 64 - 1)) ∧
      readQuantity (quantityText (a.apply old)) = a.apply old := by
  refine ⟨fun s m => readQuantity_of_lt, fun s => readQuantity_eq_zero, fun a old hold => ?_⟩
  have hbound : old ≤ maxQuantity := Nat.le_of_lt_succ hold
  refine ⟨?_, readQuantity_quantityText (a.apply_le hbound)⟩
  rw [a.apply_eq_nearestQuantity hbound, nearestQuantity, maxQuantity]
  omega

/-- The number of a numeral with a plus sign, zeros and blanks, a numeral just beyond the bounds,
and a step that would lead there. -/
theorem readQuantity_reads_numerals_bounds :
    readQuantity "\u00A0+007\n" = 7 ∧ readQuantity "18446744073709551616" = 0 ∧
    readQuantity (quantityText (StepAction.increase.apply 18446744073709551615)) =
      18446744073709551615 := by
  obtain ⟨hnumeral, hother, hstep⟩ := readQuantity_reads_numerals
  refine ⟨?_, ?_, (hstep .increase 18446744073709551615 (by decide)).2⟩
  · let m : Numeral := ⟨true, ['0', '0', '7'], by simp, by simp⟩
    have hchars : trimChars "\u00A0+007\n".toList = m.chars := by decide +kernel
    have hvalue : m.value = 7 := rfl
    rw [hnumeral _ m hchars (by rw [hvalue]; decide), hvalue]
  · refine hother _ fun m hm => ?_
    rw [m.value_eq_valueOf, ← hm]
    decide +kernel

end LiveForm
