/-!
# Reading steps

A reader takes a value off the front of a text.  Its result, a `Step`, holds the value, the rest of
the text and the fact that the rest is shorter; so a loop of readers ends by the length of what is
left.

The white space of TOML is here too: `blanks` within a line, `comment`, `newline?`, `lineEnd?` for
the end of a line, and `gap?` for the space between the items of an array.
-/

namespace LiveForm
namespace Toml

/-! ## Steps -/

/-- A value read off the front of `cs`, and the shorter rest. -/
structure Step (α : Type) (cs : List Char) where
  value : α
  rest : List Char
  shorter : rest.length < cs.length

namespace Step

variable {α β : Type} {cs ds : List Char}

/-- A value for the first character. -/
def first (a : α) {c : Char} : Step α (c :: cs) := ⟨a, cs, Nat.lt_succ_self _⟩

/-- The step with another value. -/
def map (f : α → β) (s : Step α cs) : Step β cs := ⟨f s.value, s.rest, s.shorter⟩

/-- The step as one from a text that is at least as long. -/
def behind (s : Step α ds) (h : ds.length ≤ cs.length) : Step α cs :=
  ⟨s.value, s.rest, Nat.lt_of_lt_of_le s.shorter h⟩

/-- The step behind one more character. -/
def cons (s : Step α cs) {c : Char} : Step α (c :: cs) := s.behind (Nat.le_succ _)

/-- The second of two steps, seen from where the first began. -/
def after (s : Step α cs) (t : Step β s.rest) : Step β cs := t.behind (Nat.le_of_lt s.shorter)

end Step

/-- The rest of `cs` behind something that may be empty. -/
abbrev Rest (cs : List Char) := { r : List Char // r.length ≤ cs.length }

namespace Rest

variable {α : Type} {cs : List Char}

/-- The rest behind nothing. -/
def all (cs : List Char) : Rest cs := ⟨cs, Nat.le_refl _⟩

/-- The rest behind one more character. -/
def cons (a : Rest cs) {c : Char} : Rest (c :: cs) := ⟨a.1, Nat.le_succ_of_le a.2⟩

/-- A rest of a rest. -/
def after (a : Rest cs) (b : Rest a.1) : Rest cs := ⟨b.1, Nat.le_trans b.2 a.2⟩

/-- A step from a rest, seen from where the rest began. -/
def step (a : Rest cs) (s : Step α a.1) : Step α cs := s.behind a.2

end Rest

namespace Step

variable {α : Type} {cs : List Char}

/-- The rest behind a step. -/
def toRest (s : Step α cs) : Rest cs := ⟨s.rest, Nat.le_of_lt s.shorter⟩

/-- The step that ends with a rest of its rest. -/
def thenRest (s : Step α cs) (a : Rest s.rest) : Step α cs :=
  ⟨s.value, a.1, Nat.lt_of_le_of_lt a.2 s.shorter⟩

end Step

/-- The rest behind a test on the front of a text. -/
def dropRun (p : Char → Bool) (cs : List Char) : Rest cs :=
  ⟨cs.dropWhile p, (List.dropWhile_suffix p).length_le⟩

/-! ## White space -/

/-- Space and tab. -/
def isBlank (c : Char) : Bool := c == ' ' || c == '\t'

/-- The characters of comments and texts: a tab and everything that is no control. -/
def isPlain (c : Char) : Bool := c == '\t' || (0x20 ≤ c.toNat && c.toNat != 0x7F)

/-- The rest behind blanks. -/
def blanks (cs : List Char) : Rest cs := dropRun isBlank cs

/-- A line feed, alone or behind a carriage return. -/
def newline? : (cs : List Char) → Option (Step Unit cs)
  | '\n' :: _ => some (.first ())
  | '\r' :: '\n' :: _ => some (.cons (.first ()))
  | _ => none

/-- The rest behind a comment, if there is one. -/
def comment : (cs : List Char) → Rest cs
  | '#' :: r => .cons (dropRun isPlain r)
  | cs => .all cs

/-- The rest behind blanks and a comment. -/
def blanksAndComment (cs : List Char) : Rest cs :=
  (blanks cs).after (comment (blanks cs).1)

/-- The rest behind blanks, a comment and a newline or the end of the text. -/
def lineEnd? (cs : List Char) : Option (Rest cs) :=
  let a := blanksAndComment cs
  if a.1 = [] then some a else (newline? a.1).map fun s => a.after s.toRest

/-- The rest behind any number of blanks, newlines and commented lines. -/
def gap? (cs : List Char) : Option (Rest cs) :=
  let a := blanks cs
  let b := blanksAndComment cs
  match newline? b.1 with
  | some s => (gap? (b.step s).rest).map (b.step s).toRest.after
  | none => if a.1.head?.any (fun c => c == '#' || c == '\r') then none else some a
termination_by cs.length
decreasing_by exact (Rest.step _ _).shorter

end Toml
end LiveForm
