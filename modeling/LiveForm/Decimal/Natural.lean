/-!
# Natural numbers in decimal

`readNat? limit` reads a text of ASCII digits digit by digit and gives up as soon as the number
passes `limit`, so that a text of any length is read in bounded arithmetic.  `readWithin limit` does
not give up: it stops before the first digit that would pass the limit and hands on the digits left.
`valueOf` is the number that a text of digits stands for, without a limit.
-/

namespace LiveForm
namespace Decimal

/-- The number a digit stands for. -/
def digitValue (c : Char) : Nat := c.toNat - 48

/-- The number that digits stand for when they follow digits of value `acc`. -/
def valueAfter (acc : Nat) (cs : List Char) : Nat :=
  cs.foldl (fun n c => 10 * n + digitValue c) acc

/-- The number that a text of digits stands for. -/
def valueOf (cs : List Char) : Nat := valueAfter 0 cs

/-- Reads on after digits of value `acc`; nothing beyond `limit` is a number. -/
def readAfter? (limit acc : Nat) : List Char → Option Nat
  | [] => some acc
  | c :: cs =>
      if c.isDigit then
        let n := 10 * acc + digitValue c
        if n ≤ limit then readAfter? limit n cs else none
      else none

/-- Reads a non-empty text of digits as a number of at most `limit`. -/
def readNat? (limit : Nat) (cs : List Char) : Option Nat :=
  if cs = [] then none else readAfter? limit 0 cs

/-- Reads digits after digits of value `acc` as far as the number stays within `limit`: the number,
and the digits left over. -/
def readWithin (limit acc : Nat) : List Char → Nat × List Char
  | [] => (acc, [])
  | c :: cs =>
      let n := 10 * acc + digitValue c
      if n ≤ limit then readWithin limit n cs else (acc, c :: cs)

@[simp] theorem readAfter?_nil (limit acc : Nat) : readAfter? limit acc [] = some acc := rfl

@[simp] theorem readNat?_nil (limit : Nat) : readNat? limit [] = none := rfl

@[simp] theorem readWithin_nil (limit acc : Nat) : readWithin limit acc [] = (acc, []) := rfl

/-- Digits never make a number smaller. -/
theorem le_valueAfter (acc : Nat) (cs : List Char) : acc ≤ valueAfter acc cs := by
  induction cs generalizing acc with
  | nil => exact Nat.le_refl acc
  | cons c cs ih => exact Nat.le_trans (by omega) (ih (10 * acc + digitValue c))

end Decimal
end LiveForm
