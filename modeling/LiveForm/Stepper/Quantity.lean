import LiveForm.Decimal.Natural
import LiveForm.Text.Blank

/-!
# Quantities and steps

A quantity is a whole number from zero to `maxQuantity`, the largest of 64 bits.  `readQuantity`
reads one from the text of a field, and a text that holds none counts as zero.  `StepAction.apply`
moves a quantity by one and stays within the bounds.
-/

namespace LiveForm

/-- The largest quantity, of 64 bits. -/
def maxQuantity : Nat := 18446744073709551615

/-- The digits of a trimmed text, behind a plus sign if there is one. -/
def unsignedPart : List Char → List Char
  | '+' :: cs => cs
  | cs => cs

/-- The quantity that a text holds between blanks, and zero if it holds none. -/
def readQuantity (s : String) : Nat :=
  (Decimal.readNat? maxQuantity (unsignedPart (Text.trimChars s.toList))).getD 0

/-- A quantity in digits. -/
def quantityText (n : Nat) : String :=
  String.ofList (Nat.toDigits 10 n)

/-- What a control does to its quantity. -/
inductive StepAction where
  | increase
  | decrease
  deriving DecidableEq, Repr

namespace StepAction

/-- The word for an action. -/
def word : StepAction → String
  | .increase => "increase"
  | .decrease => "decrease"

/-- The action that a text names between blanks. -/
def ofText? (s : String) : Option StepAction :=
  let w := Text.trim s
  if w = increase.word then some .increase
  else if w = decrease.word then some .decrease
  else none

/-- One step, which stops at zero and at the largest quantity. -/
def apply : StepAction → Nat → Nat
  | .increase, n => min (n + 1) maxQuantity
  | .decrease, n => n - 1

/-- A step stays within the bounds. -/
theorem apply_le (a : StepAction) {n : Nat} (h : n ≤ maxQuantity) : a.apply n ≤ maxQuantity := by
  cases a
  · exact Nat.min_le_right _ _
  · exact Nat.le_trans (Nat.sub_le n 1) h

end StepAction
end LiveForm
