import LiveForm.Data.Number
import LiveForm.Toml.Value

/-!
# TOML scalars

Numbers, truth values, dates and times are words without blanks, apart from the one space that may
stand between a date and a time.  Here a whole word is read: `integer?`, `float?`, `datetime?`, and
`scalar?` for any of them.

A number may have underscores between digits.  Integers have a sign and 64 bits.  A float too large
is no value if it is positive, and minus infinity if it is negative.
-/

namespace LiveForm
namespace Toml

open Decimal

/-! ## Digits -/

/-- The digits of a number without the underscores, each of which stands between two digits. -/
def ungroup? (digit : Char → Bool) : List Char → Option (List Char)
  | [] => none
  | [d] => if digit d then some [d] else none
  | d :: '_' :: r => if digit d then (ungroup? digit r).map (d :: ·) else none
  | d :: e :: r => if digit d then (ungroup? digit (e :: r)).map (d :: ·) else none

/-- Exactly `n` decimal digits and what follows them. -/
def fixedDigits? (n : Nat) (cs : List Char) : Option (List Char × List Char) :=
  let ds := cs.take n
  if ds.length = n ∧ ds.all Char.isDigit then some (ds, cs.drop n) else none

/-- A sign, if there is one, and what follows it. -/
def splitSign : List Char → Bool × List Char
  | '+' :: r => (false, r)
  | '-' :: r => (true, r)
  | r => (false, r)

/-! ## Integers -/

/-- Whether an integer has 64 bits with a sign. -/
def fits64 (n : Int) : Bool := -9223372036854775808 ≤ n && n ≤ 9223372036854775807

/-- Digits of which the first is a zero only if it is alone. -/
def wholeDigits? (cs : List Char) : Option (List Char) :=
  match cs with
  | '0' :: _ :: _ => none
  | cs => ungroup? Char.isDigit cs

/-- The value of a digit of any base up to sixteen. -/
def baseDigit (c : Char) : Nat :=
  if c.isDigit then c.toNat - 48 else c.toLower.toNat - 87

/-- Reads digits of a base. -/
def inBase? (base : Nat) (digit : Char → Bool) (cs : List Char) : Option Int :=
  (ungroup? digit cs).bind fun ds =>
    let n : Int := ds.foldl (fun n c => base * n + baseDigit c) 0
    if fits64 n then some n else none

/-- Reads an integer, in decimal or with the mark of another base. -/
def integer? : List Char → Option Int
  | '0' :: 'x' :: r =>
      inBase? 16 (fun c => c.isDigit || ('a' ≤ c && c ≤ 'f') || ('A' ≤ c && c ≤ 'F')) r
  | '0' :: 'o' :: r => inBase? 8 (fun c => '0' ≤ c && c ≤ '7') r
  | '0' :: 'b' :: r => inBase? 2 (fun c => c == '0' || c == '1') r
  | cs =>
      let (negative, r) := splitSign cs
      (wholeDigits? r).bind fun ds =>
        let n : Int := if negative then -(valueOf ds : Int) else valueOf ds
        if fits64 n then some n else none

/-! ## Floats -/

/-- Reads the exponent of a float behind its letter. -/
def exponent? (cs : List Char) : Option Int :=
  let (negative, r) := splitSign cs
  (ungroup? Char.isDigit r).map fun ds => if negative then -(valueOf ds : Int) else valueOf ds

/-- Reads what follows the whole part of a float, a fraction, an exponent or both: the digits of
the fraction and the exponent. -/
def fractionAndExponent? : List Char → Option (List Char × Int)
  | '.' :: r =>
      let inFraction (c : Char) : Bool := c != 'e' && c != 'E'
      (ungroup? Char.isDigit (r.takeWhile inFraction)).bind fun ds =>
        match r.dropWhile inFraction with
        | [] => some (ds, 0)
        | _ :: e => (exponent? e).map (ds, ·)
  | _ :: e => (exponent? e).map ([], ·)
  | [] => none

/-- Reads a float and gives its shortest text. -/
def float? (cs : List Char) : Option String :=
  let (negative, r) := splitSign cs
  if r = ['i', 'n', 'f'] then some (if negative then "-inf" else "inf")
  else if r = ['n', 'a', 'n'] then some "NaN"
  else
    let inWhole (c : Char) : Bool := c != '.' && c != 'e' && c != 'E'
    (wholeDigits? (r.takeWhile inWhole)).bind fun whole =>
      (fractionAndExponent? (r.dropWhile inWhole)).bind fun (fraction, exponent) =>
        let digits := valueOf (whole ++ fraction)
        match Data.floatText? negative digits (exponent - fraction.length) with
        | some t => some t
        | none => if negative then some "-inf" else none

/-! ## Dates and times -/

/-- The number of days of a month. -/
def daysOfMonth (year month : Nat) : Nat :=
  if month = 2 then
    if year % 4 = 0 ∧ (year % 100 ≠ 0 ∨ year % 400 = 0) then 29 else 28
  else if month = 4 ∨ month = 6 ∨ month = 9 ∨ month = 11 then 30
  else 31

/-- Reads a date: its text and what follows it. -/
def date? (cs : List Char) : Option (List Char × List Char) := do
  let (y, r) ← fixedDigits? 4 cs
  let '-' :: r := r | none
  let (m, r) ← fixedDigits? 2 r
  let '-' :: r := r | none
  let (d, r) ← fixedDigits? 2 r
  let days := daysOfMonth (valueOf y) (valueOf m)
  if 1 ≤ valueOf m ∧ valueOf m ≤ 12 ∧ 1 ≤ valueOf d ∧ valueOf d ≤ days then
    some (y ++ '-' :: m ++ '-' :: d, r)
  else none

/-- The text of a fraction of a second: at most nine digits, and no zeros at the end. -/
def fractionText (ds : List Char) : List Char :=
  match ((ds.take 9).reverse.dropWhile (· == '0')).reverse with
  | [] => []
  | ds => '.' :: ds

/-- Reads the fraction of a second, if there is one: its text and what follows it. -/
def fraction? : List Char → Option (List Char × List Char)
  | '.' :: r =>
      if r.takeWhile Char.isDigit = [] then none
      else some (fractionText (r.takeWhile Char.isDigit), r.dropWhile Char.isDigit)
  | r => some ([], r)

/-- Reads a time of day: its text and what follows it. -/
def time? (cs : List Char) : Option (List Char × List Char) := do
  let (h, r) ← fixedDigits? 2 cs
  let ':' :: r := r | none
  let (m, r) ← fixedDigits? 2 r
  let ':' :: r := r | none
  let (s, r) ← fixedDigits? 2 r
  let (f, r) ← fraction? r
  if valueOf h ≤ 23 ∧ valueOf m ≤ 59 ∧ valueOf s ≤ 60 then some (h ++ ':' :: m ++ ':' :: s ++ f, r)
  else none

/-- Reads the offset of a time to the end of the word: its text. -/
def offset? : List Char → Option (List Char)
  | [] => some []
  | ['Z'] => some ['Z']
  | ['z'] => some ['Z']
  | sign :: r => do
      if sign ≠ '+' ∧ sign ≠ '-' then none
      let (h, r) ← fixedDigits? 2 r
      let ':' :: r := r | none
      let (m, r) ← fixedDigits? 2 r
      if r = [] ∧ valueOf h ≤ 23 ∧ valueOf m ≤ 59 then
        let sign := if valueOf h = 0 ∧ valueOf m = 0 then '+' else sign
        some (sign :: h ++ ':' :: m)
      else none

/-- Reads a date, a time, or a date with a time and perhaps an offset. -/
def datetime? (cs : List Char) : Option String :=
  match date? cs with
  | some (d, []) => some (String.ofList d)
  | some (d, c :: r) =>
      if c = 'T' ∨ c = 't' ∨ c = ' ' then
        (time? r).bind fun (t, r) =>
          (offset? r).map fun o => String.ofList (d ++ 'T' :: t ++ o)
      else none
  | none =>
      match time? cs with
      | some (t, []) => some (String.ofList t)
      | _ => none

/-! ## Any scalar -/

/-- Reads a word as a scalar. -/
def scalar? (word : List Char) : Option Value :=
  if word = "true".toList then some (.boolean true)
  else if word = "false".toList then some (.boolean false)
  else match datetime? word with
    | some t => some (.datetime t)
    | none => match integer? word with
      | some n => some (.integer n)
      | none => (float? word).map .float

end Toml
end LiveForm
