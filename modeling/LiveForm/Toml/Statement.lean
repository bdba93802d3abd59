import LiveForm.Toml.Quotation
import LiveForm.Toml.Scalar
import LiveForm.Toml.Table

/-!
# The lines of a TOML document

A document is a sequence of statements: a pair of a key and a value, the header of a table, or the
header of a further table of an array.  `statements?` reads them all, and fails at the first
character that fits nowhere.

`value?` reads a value.  Values nest to a depth below `nestingLimit`, and it is by this depth that
reading a value ends.
-/

namespace LiveForm
namespace Toml

/-! ## Keys -/

/-- Keys have fewer parts than this, and values fewer levels. -/
def nestingLimit : Nat := 80

/-- The characters of a key without quotes. -/
def isKeyChar (c : Char) : Bool := c.isAlphanum || c == '-' || c == '_'

/-- Whether a text begins with a character, and the rest behind it. -/
def mark? (c : Char) : (cs : List Char) → Option (Step Unit cs)
  | [] => none
  | d :: _ => if d = c then some (.first ()) else none

/-- Reads one part of a key. -/
def keyPart? : (cs : List Char) → Option (Step String cs)
  | [] => none
  | c :: r =>
      if c = '"' ∨ c = '\'' then (lineText? (c :: r)).map (·.map String.ofList)
      else if isKeyChar c then
        some ((Step.first (String.ofList (c :: r.takeWhile isKeyChar))).thenRest
          (dropRun isKeyChar r))
      else none

/-- Reads a part of a key with blanks around it. -/
def spacedPart? (cs : List Char) : Option (Step String cs) :=
  (keyPart? (blanks cs).1).map fun s => (blanks cs).step (s.thenRest (blanks s.rest))

/-- Reads the parts of a key, with blanks around each. -/
def keyParts? (cs : List Char) : Option (Step (List String) cs) :=
  (spacedPart? cs).bind fun s =>
    match mark? '.' s.rest with
    | some m => (keyParts? (s.after m).rest).map fun t => (s.after m).after (t.map (s.value :: ·))
    | none => some (s.map ([·]))
termination_by cs.length
decreasing_by exact (Step.after _ _).shorter

/-- Reads a key: the path before its last part, and that part. -/
def key? (cs : List Char) : Option (Step (List String × String) cs) :=
  (keyParts? cs).bind fun s =>
    match s.value.getLast? with
    | some last =>
        if s.value.length < nestingLimit then some (s.map fun parts => (parts.dropLast, last))
        else none
    | none => none

/-! ## Values -/

/-- The characters of a scalar that is not a text. -/
def isWordChar (c : Char) : Bool :=
  c.isAlphanum || c == '_' || c == '+' || c == '-' || c == '.' || c == ':'

/-- The word at the front of a text; a date is joined with a time behind one space. -/
def word (cs : List Char) : List Char × List Char :=
  let w := cs.takeWhile isWordChar
  let r := cs.dropWhile isWordChar
  match r with
  | ' ' :: d :: t =>
      if d.isDigit && (date? w).any (·.2 == []) then
        (w ++ ' ' :: (d :: t).takeWhile isWordChar, (d :: t).dropWhile isWordChar)
      else (w, r)
  | _ => (w, r)

/-- Reads a scalar that is not a text. -/
def word? (cs : List Char) : Option (Step Value cs) :=
  let (w, r) := word cs
  if h : r.length < cs.length then (scalar? w).map fun v => ⟨v, r, h⟩ else none

/-- Reads the items of an array and its closing bracket, with a reader for an item. -/
def items? (item : (cs : List Char) → Option (Step Value cs)) (cs : List Char) :
    Option (Step (List Value) cs) :=
  (gap? cs).bind fun a =>
    match mark? ']' a.1 with
    | some e => some (a.step (e.map fun _ => []))
    | none =>
      (item a.1).bind fun s =>
        (gap? s.rest).bind fun b =>
          let before := a.step (s.thenRest b)
          match mark? ',' b.1 with
          | some m =>
              let next := before.after m
              (items? item next.rest).map fun t => next.after (t.map (s.value :: ·))
          | none => (mark? ']' b.1).map fun e => before.after (e.map fun _ => [s.value])
termination_by cs.length
decreasing_by exact (Step.after _ _).shorter

/-- Reads a pair of an inline table, with a reader for its value. -/
def pair? (value : (cs : List Char) → Option (Step Value cs)) (cs : List Char) :
    Option (Step (List String × String × Value) cs) :=
  (key? cs).bind fun k =>
    (mark? '=' k.rest).bind fun m =>
      let b := blanks m.rest
      (value b.1).map fun v =>
        k.after (m.after (b.step (v.map fun v => (k.value.1, k.value.2, v))))

/-- Reads the pairs of an inline table, at least one, and its closing brace. -/
def pairs? (value : (cs : List Char) → Option (Step Value cs)) (cs : List Char) :
    Option (Step (List (List String × String × Value)) cs) :=
  (pair? value cs).bind fun s =>
    let before := s.thenRest (blanks s.rest)
    match mark? ',' before.rest with
    | some m =>
        let next := before.after m
        (pairs? value next.rest).map fun t => next.after (t.map (s.value :: ·))
    | none => (mark? '\x7d' before.rest).map fun e => before.after (e.map fun _ => [s.value])
termination_by cs.length
decreasing_by exact (Step.after _ _).shorter

/-- Reads an inline table behind its opening brace. -/
def inlineTableBody? (value : (cs : List Char) → Option (Step Value cs)) (cs : List Char) :
    Option (Step Value cs) :=
  match mark? '\x7d' (blanks cs).1 with
  | some e => some ((blanks cs).step (e.map fun _ => .table []))
  | none => (pairs? value cs).bind fun s => (inlineTable? s.value).map fun v => s.map fun _ => v

/-- Reads a value of at most `depth` levels of arrays and inline tables. -/
def value? (depth : Nat) (cs : List Char) : Option (Step Value cs) :=
  match depth, cs with
  | depth + 1, '[' :: r => (items? (value? depth) r).map fun s => (s.map .array).cons
  | depth + 1, '\x7b' :: r => (inlineTableBody? (value? depth) r).map (·.cons)
  | _, cs =>
      match quotation? cs with
      | some s => some (s.map fun t => .string (String.ofList t))
      | none => word? cs

/-! ## Statements -/

/-- A line of a document. -/
inductive Statement where
  /-- A pair, under a path from the table of the last header. -/
  | pair (path : List String) (key : String) (v : Value)
  /-- The header of a table. -/
  | header (path : List String) (key : String)
  /-- The header of one more table of an array. -/
  | rowHeader (path : List String) (key : String)

/-- Reads the key of a header and the brackets that close it. -/
def headerBody? (array : Bool) (cs : List Char) : Option (Step Statement cs) :=
  (key? cs).bind fun k =>
    (mark? ']' k.rest).bind fun m =>
      if array then
        (mark? ']' m.rest).map fun e =>
          k.after (m.after (e.map fun _ => .rowHeader k.value.1 k.value.2))
      else some (k.after (m.map fun _ => .header k.value.1 k.value.2))

/-- Reads the statement that a line begins with. -/
def statement? : (cs : List Char) → Option (Step Statement cs)
  | '[' :: '[' :: r => (headerBody? true r).map (·.cons.cons)
  | '[' :: r => (headerBody? false r).map (·.cons)
  | cs => (pair? (value? (nestingLimit - 1)) cs).map (·.map fun (path, key, v) => .pair path key v)

/-- Reads a line that holds no statement, behind its blanks. -/
def idleLine? : (cs : List Char) → Option (Step Unit cs)
  | '#' :: r =>
      let a := dropRun isPlain r
      (lineEnd? a.1).map fun e => (Step.first ()).thenRest (a.after e)
  | cs => newline? cs

/-- Reads a line with a statement, behind its blanks. -/
def statementLine? (cs : List Char) : Option (Step Statement cs) :=
  (statement? cs).bind fun s => (lineEnd? s.rest).map s.thenRest

/-- Whether a line that begins with `c` holds no statement. -/
def isIdle (c : Char) : Bool := c == '#' || c == '\n' || c == '\r'

/-- Reads all statements of a document. -/
def statements? (cs : List Char) : Option (List Statement) :=
  let a := blanks cs
  match a.1.head? with
  | none => some []
  | some c =>
    if isIdle c then
      (idleLine? a.1).bind fun s => statements? (a.step s).rest
    else
      (statementLine? a.1).bind fun s => (statements? (a.step s).rest).map (s.value :: ·)
termination_by cs.length
decreasing_by all_goals exact (Rest.step _ _).shorter

end Toml
end LiveForm
