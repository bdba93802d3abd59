import LiveForm.Toml.Step

/-!
# Texts in TOML

A text stands between quotation marks, where a backslash escapes, or between apostrophes, where
nothing does.  Three quotes of either kind enclose a text of several lines.

`quotation?` reads a text of any of the four kinds, `lineText?` one that stands on a single line, as
keys have to.
-/

namespace LiveForm
namespace Toml

/-! ## Escapes -/

/-- The value of a hexadecimal digit. -/
def hexValue? (c : Char) : Option Nat :=
  if c.isDigit then some (c.toNat - 48)
  else if 'a' ≤ c ∧ c ≤ 'f' then some (c.toNat - 87)
  else if 'A' ≤ c ∧ c ≤ 'F' then some (c.toNat - 55)
  else none

/-- The character with a code point in hexadecimal digits. -/
def codePoint? (digits : List Char) : Option Char :=
  (digits.mapM hexValue?).bind fun ds =>
    let n := ds.foldl (fun n d => 16 * n + d) 0
    if n.isValidChar then some (Char.ofNat n) else none

/-- The character that stands behind a backslash. -/
def escape? : (cs : List Char) → Option (Step Char cs)
  | 'b' :: _ => some (.first '\x08')
  | 't' :: _ => some (.first '\t')
  | 'n' :: _ => some (.first '\n')
  | 'f' :: _ => some (.first '\x0c')
  | 'r' :: _ => some (.first '\r')
  | '"' :: _ => some (.first '"')
  | '\\' :: _ => some (.first '\\')
  | 'u' :: a :: b :: c :: d :: _ =>
      (codePoint? [a, b, c, d]).map fun x => .cons <| .cons <| .cons <| .cons <| .first x
  | 'U' :: a :: b :: c :: d :: e :: f :: g :: h :: _ =>
      (codePoint? [a, b, c, d, e, f, g, h]).map fun x =>
        .cons <| .cons <| .cons <| .cons <| .cons <| .cons <| .cons <| .cons <| .first x
  | _ => none

/-! ## On one line -/

/-- Reads up to and over the closing quote of a text on one line. -/
def lineBody? (quote : Char) (escapes : Bool) : (cs : List Char) → Option (Step (List Char) cs)
  | [] => none
  | c :: r =>
      if c = quote then some (.first [])
      else if escapes && c == '\\' then
        (escape? r).bind fun s =>
          (lineBody? quote escapes s.cons.rest).map fun t => s.cons.after (t.map (s.value :: ·))
      else if isPlain c then
        (lineBody? quote escapes r).map fun t => (t.map (c :: ·)).cons
      else none
termination_by cs => cs.length
decreasing_by
  · exact (Step.cons _).shorter
  · exact Nat.lt_succ_self _

/-- Reads a text that stands on one line. -/
def lineText? : (cs : List Char) → Option (Step (List Char) cs)
  | '"' :: r => (lineBody? '"' true r).map (·.cons)
  | '\'' :: r => (lineBody? '\'' false r).map (·.cons)
  | _ => none

/-! ## On several lines -/

/-- The rest behind any number of blanks and newlines. -/
def dropLines : (cs : List Char) → Rest cs
  | ' ' :: r => (dropLines r).cons
  | '\t' :: r => (dropLines r).cons
  | '\n' :: r => (dropLines r).cons
  | '\r' :: '\n' :: r => (dropLines r).cons.cons
  | cs => .all cs

/-- The rest behind a line that a backslash joins to the next one. -/
def joinedLine? (cs : List Char) : Option (Rest cs) :=
  let a := blanks cs
  (newline? a.1).map fun s => (a.step s).toRest.after (dropLines s.rest)

/-- The quotes that close a text of several lines: three, or up to five if the text itself ends in
one or two. -/
def closing? (quote : Char) : (cs : List Char) → Option (Step (List Char) cs)
  | a :: b :: c :: r =>
      if a = quote ∧ b = quote ∧ c = quote then
        match r with
        | d :: e :: _ =>
            if d = quote ∧ e = quote then
              some (.cons <| .cons <| .cons <| .cons <| .first [quote, quote])
            else if d = quote then some (.cons <| .cons <| .cons <| .first [quote])
            else some (.cons <| .cons <| .first [])
        | d :: [] =>
            if d = quote then some (.cons <| .cons <| .cons <| .first [quote])
            else some (.cons <| .cons <| .first [])
        | [] => some (.cons <| .cons <| .first [])
      else none
  | _ => none

/-- Reads up to and over the closing quotes of a text of several lines. -/
def linesBody? (quote : Char) (escapes : Bool) : (cs : List Char) → Option (Step (List Char) cs)
  | [] => none
  | c :: r =>
      match closing? quote (c :: r) with
      | some s => some s
      | none =>
          if escapes && c == '\\' then
            match joinedLine? r with
            | some a => (linesBody? quote escapes a.1).map fun t => (a.step t).cons
            | none =>
                (escape? r).bind fun s =>
                  (linesBody? quote escapes s.cons.rest).map fun t =>
                    s.cons.after (t.map (s.value :: ·))
          else match newline? (c :: r) with
            | some s =>
                (linesBody? quote escapes s.rest).map fun t => s.after (t.map ('\n' :: ·))
            | none =>
                if isPlain c then
                  (linesBody? quote escapes r).map fun t => (t.map (c :: ·)).cons
                else none
termination_by cs => cs.length
decreasing_by
  · exact Nat.lt_succ_of_le a.2
  · exact (Step.cons _).shorter
  · exact s.shorter
  · exact Nat.lt_succ_self _

/-- The rest behind a newline that follows the opening quotes at once. -/
def dropNewline (cs : List Char) : Rest cs :=
  ((newline? cs).map (·.toRest)).getD (.all cs)

/-- Reads a text of several lines behind its opening quotes. -/
def linesText? (quote : Char) (escapes : Bool) (cs : List Char) : Option (Step (List Char) cs) :=
  (linesBody? quote escapes (dropNewline cs).1).map (dropNewline cs).step

/-- Reads a text of any kind. -/
def quotation? : (cs : List Char) → Option (Step (List Char) cs)
  | '"' :: '"' :: '"' :: r => (linesText? '"' true r).map (·.cons.cons.cons)
  | '\'' :: '\'' :: '\'' :: r => (linesText? '\'' false r).map (·.cons.cons.cons)
  | cs => lineText? cs

end Toml
end LiveForm
