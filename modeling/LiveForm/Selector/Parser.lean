import LiveForm.Selector.Basic
import LiveForm.Text.Blank

/-!
# Reading selectors

`Selector.parse` cuts a text at the commas that separate alternatives (`alternativeTexts`), trims
each of them and reads it as a compound (`Compound.parse`).

A compound is a head (`readHead`: a tag, a star or nothing) with simple selectors behind it
(`readSimples`).  Each reading step gives back the characters it has left; a step that cannot go on
gives them in a `Halt`, and the position of the fault is the number of characters before them.
-/

namespace LiveForm
namespace Selector

/-! ## Alternatives -/

/-- Where a character of a selector text stands. -/
inductive Zone where
  /-- Outside all brackets. -/
  | outside
  /-- Between brackets. -/
  | bracket
  /-- Between brackets and behind a quote that is still open. -/
  | quoted (quote : Char)
  deriving DecidableEq, Repr

/-- The two characters that quote an attribute value. -/
def isQuote (c : Char) : Bool := c == '"' || c == '\''

/-- Where the next character stands. -/
def Zone.after (c : Char) : Zone → Zone
  | .outside => if c = '[' then .bracket else .outside
  | .bracket => if isQuote c then .quoted c else if c = ']' then .outside else .bracket
  | .quoted q => if c = q then .bracket else .quoted q

/-- The text cut at the commas outside brackets, when it starts in the given zone. -/
def alternativesFrom : Zone → List Char → List (List Char)
  | _, [] => [[]]
  | z, c :: cs =>
      if z = .outside ∧ c = ',' then [] :: alternativesFrom z cs
      else match alternativesFrom (z.after c) cs with
        | [] => [[c]]
        | part :: parts => (c :: part) :: parts

/-- The texts of the alternatives of a selector. -/
def alternativeTexts (cs : List Char) : List (List Char) :=
  alternativesFrom .outside cs

/-! ## Halts -/

/-- Why reading a compound cannot go on. -/
inductive Cause where
  | unexpected (c : Char)
  | missingName
  | unterminated
  | combinator
  deriving DecidableEq, Repr

/-- A cause, and the characters from which on nothing was read. -/
structure Halt where
  cause : Cause
  left : List Char
  deriving DecidableEq, Repr

/-- The fault of a text in which reading halts. -/
def Halt.fault (part : List Char) (h : Halt) : Fault :=
  let position := part.length - h.left.length
  match h.cause with
  | .unexpected c => .unexpected c position
  | .missingName => .missingName position
  | .unterminated => .unterminated
  | .combinator => .combinator

/-! ## Names and attribute tests -/

/-- The characters names are made of: ASCII letters and digits, hyphen and underscore. -/
def isNameChar (c : Char) : Bool := c.isAlphanum || c == '-' || c == '_'

/-- The characters that combine compounds in richer selector languages. -/
def isCombinator (c : Char) : Bool := c == ' ' || c == '>' || c == '+' || c == '~'

/-- Reads a name, as long as possible. -/
def readName (cs : List Char) : Except Halt (String × List Char) :=
  if cs.takeWhile isNameChar = [] then .error ⟨.missingName, cs⟩
  else .ok (String.ofList (cs.takeWhile isNameChar), cs.dropWhile isNameChar)

/-- Closes an attribute test. -/
def readClosing (test : AttributeTest) : List Char → Except Halt (AttributeTest × List Char)
  | ']' :: cs => .ok (test, cs)
  | cs => .error ⟨.unterminated, cs⟩

/-- Reads the value of an attribute test, quoted or up to the bracket, and closes the test. -/
def readValue (name : String) : List Char → Except Halt (AttributeTest × List Char)
  | [] => .error ⟨.unterminated, []⟩
  | c :: cs =>
      if isQuote c then
        match cs.dropWhile (· != c) with
        | [] => .error ⟨.unterminated, []⟩
        | _ :: rest => readClosing ⟨name, some (String.ofList (cs.takeWhile (· != c)))⟩ rest
      else
        readClosing ⟨name, some (String.ofList ((c :: cs).takeWhile (· != ']')))⟩
          ((c :: cs).dropWhile (· != ']'))

/-- Reads an attribute test behind its opening bracket. -/
def readAttribute (cs : List Char) : Except Halt (AttributeTest × List Char) :=
  (readName cs).bind fun (name, rest) =>
    match rest with
    | ']' :: rest => .ok (⟨name, none⟩, rest)
    | '=' :: rest => readValue name rest
    | c :: _ => .error ⟨.unexpected c, rest⟩
    | [] => .error ⟨.unterminated, []⟩

/-! ## Simple selectors -/

/-- One requirement of a compound. -/
inductive Simple where
  | id (name : String)
  | className (name : String)
  | attribute (test : AttributeTest)
  deriving DecidableEq, Repr

/-- Reads the simple selector that begins with `c`. -/
def readSimple (c : Char) (cs : List Char) : Except Halt (Simple × List Char) :=
  if c = '#' then (readName cs).map fun (name, rest) => (.id name, rest)
  else if c = '.' then (readName cs).map fun (name, rest) => (.className name, rest)
  else if c = '[' then (readAttribute cs).map fun (test, rest) => (.attribute test, rest)
  else if isCombinator c then .error ⟨.combinator, c :: cs⟩
  else .error ⟨.unexpected c, c :: cs⟩

/-! ## Reading ends -/

theorem length_readName {cs rest : List Char} {name : String}
    (h : readName cs = .ok (name, rest)) : rest.length < cs.length := by
  unfold readName at h
  split at h
  · cases h
  · next hne =>
    have hlen := congrArg List.length (List.takeWhile_append_dropWhile (p := isNameChar) (l := cs))
    have hpos := List.length_pos_iff.2 hne
    simp only [Except.ok.injEq, Prod.mk.injEq] at h
    rw [← h.2]
    rw [List.length_append] at hlen
    omega

theorem length_readClosing {test t : AttributeTest} {cs rest : List Char}
    (h : readClosing test cs = .ok (t, rest)) : rest.length < cs.length := by
  unfold readClosing at h
  split at h
  · simp only [Except.ok.injEq, Prod.mk.injEq] at h
    rw [← h.2]
    simp
  · cases h

theorem length_readValue {name : String} {t : AttributeTest} {cs rest : List Char}
    (h : readValue name cs = .ok (t, rest)) : rest.length < cs.length := by
  unfold readValue at h
  split at h
  · cases h
  · next c cs =>
    split at h
    · split at h
      · cases h
      · next b tail hd =>
        have hlen := (List.dropWhile_suffix (l := cs) (· != c)).length_le
        rw [hd] at hlen
        have := length_readClosing h
        simp only [List.length_cons] at *
        omega
    · exact Nat.lt_of_lt_of_le (length_readClosing h)
        (List.dropWhile_suffix (l := c :: cs) _).length_le

theorem length_readAttribute {t : AttributeTest} {cs rest : List Char}
    (h : readAttribute cs = .ok (t, rest)) : rest.length < cs.length := by
  unfold readAttribute at h
  cases hn : readName cs with
  | error e => rw [hn] at h; cases h
  | ok r =>
    obtain ⟨name, r⟩ := r
    rw [hn] at h
    have hr := length_readName hn
    simp only [Except.bind] at h
    split at h
    · simp only [Except.ok.injEq, Prod.mk.injEq] at h
      rw [← h.2]
      simp only [List.length_cons] at hr
      omega
    · have := length_readValue h
      simp only [List.length_cons] at hr
      omega
    · cases h
    · cases h

theorem length_of_map_eq_ok {α β : Type} {x : Except Halt (α × List Char)} {f : α → β} {b : β}
    {rest cs : List Char} (h : (x.map fun (a, r) => (f a, r)) = .ok (b, rest))
    (hx : ∀ a r, x = .ok (a, r) → r.length < cs.length) : rest.length < cs.length := by
  cases x with
  | error e => cases h
  | ok r =>
    obtain ⟨a, r⟩ := r
    simp only [Except.map, Except.ok.injEq, Prod.mk.injEq] at h
    exact h.2 ▸ hx a r rfl

/-- A simple selector takes more than the character it begins with. -/
theorem length_readSimple {c : Char} {cs rest : List Char} {s : Simple}
    (h : readSimple c cs = .ok (s, rest)) : rest.length < cs.length := by
  unfold readSimple at h
  split at h
  · exact length_of_map_eq_ok h fun _ _ => length_readName
  · split at h
    · exact length_of_map_eq_ok h fun _ _ => length_readName
    · split at h
      · exact length_of_map_eq_ok h fun _ _ => length_readAttribute
      · split at h <;> cases h

/-! ## Compounds and selectors -/

/-- Reads simple selectors to the end of the text. -/
def readSimples : List Char → Except Halt (List Simple)
  | [] => .ok []
  | c :: cs =>
      match _h : readSimple c cs with
      | .error e => .error e
      | .ok (s, rest) => (readSimples rest).map (s :: ·)
termination_by cs => cs.length
decreasing_by
  have := length_readSimple _h
  simp only [List.length_cons]
  omega

/-- Reads the head of a compound: a star, which asks for nothing, a tag, or no head. -/
def readHead : List Char → Option String × List Char
  | '*' :: cs => (none, cs)
  | cs =>
      if cs.takeWhile isNameChar = [] then (none, cs)
      else (some (String.ofList (cs.takeWhile isNameChar)), cs.dropWhile isNameChar)

end Selector

namespace Compound

open Selector

/-- The compound that asks for one thing more; of two ids the later one counts. -/
def add (c : Compound) : Simple → Compound
  | .id name => { c with id := some name }
  | .className name => { c with classes := c.classes ++ [name] }
  | .attribute test => { c with attributes := c.attributes ++ [test] }

/-- The compound of a tag and simple selectors. -/
def ofSimples (tag : Option String) (simples : List Simple) : Compound :=
  simples.foldl add { tag }

/-- Reads a compound, or halts. -/
def read (cs : List Char) : Except Halt Compound :=
  let (tag, rest) := readHead cs
  (readSimples rest).map (ofSimples tag)

/-- Reads a compound, or tells the fault of its text. -/
def parse (part : List Char) : Except Fault Compound :=
  if part = [] then .error .empty
  else (read part).mapError (·.fault part)

end Compound

namespace Selector

/-- The compounds of a selector text in order, or the fault of the first that has one. -/
def readAlternatives (cs : List Char) : Except Fault (List Compound) :=
  (alternativeTexts cs).mapM fun part => Compound.parse (Text.trimChars part)

/-- Reads a selector. -/
def parse (text : String) : Except Error Selector :=
  match readAlternatives text.toList with
  | .ok alternatives => .ok ⟨Text.trim text, alternatives⟩
  | .error fault => .error ⟨text, fault⟩

end Selector
end LiveForm
