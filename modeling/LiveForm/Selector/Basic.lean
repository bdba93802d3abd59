import LiveForm.Element
import LiveForm.Text.Quoted

/-!
# Selectors

A selector picks elements by what they are.  A *compound* asks for a tag, an id, some classes and
some attributes at once, and a selector is a list of compounds of which one must hold.

`Compound.holdsFor` and `Selector.selects` are the meaning.  `Selector.Error` tells what a text that
is no selector breaks, and `Selector.Error.message` words it.
-/

namespace LiveForm

/-! ## Compounds -/

/-- An attribute must be there, and hold the value if one is given. -/
structure AttributeTest where
  name : String
  value : Option String := none
  deriving DecidableEq, Repr

/-- Whether an element passes the test. -/
def AttributeTest.holdsFor (t : AttributeTest) (e : Element) : Bool :=
  match e.attribute? t.name, t.value with
  | none, _ => false
  | some _, none => true
  | some value, some wanted => wanted == value

/-- What a single alternative of a selector asks of an element, all at once. -/
structure Compound where
  tag : Option String := none
  id : Option String := none
  classes : List String := []
  attributes : List AttributeTest := []
  deriving DecidableEq, Repr

/-- Whether two tags are the same but for the case of ASCII letters. -/
def sameTag (a b : String) : Bool :=
  a.toList.map Char.toLower == b.toList.map Char.toLower

/-- Whether an element is all that a compound asks for. -/
def Compound.holdsFor (c : Compound) (e : Element) : Bool :=
  c.tag.all (sameTag e.tag) && c.id.all (fun id => e.id == some id) &&
    c.classes.all e.hasClass && c.attributes.all (·.holdsFor e)

/-! ## Selectors -/

/-- A selector with the text it was read from. -/
structure Selector where
  source : String
  alternatives : List Compound
  deriving DecidableEq, Repr

namespace Selector

/-- Whether an element is what one of the alternatives asks for. -/
def selects (s : Selector) (e : Element) : Bool :=
  s.alternatives.any (·.holdsFor e)

/-! ## Errors -/

/-- What keeps a text from being a compound; positions count its characters. -/
inductive Fault where
  /-- There is nothing. -/
  | empty
  /-- A character that cannot stand where it does. -/
  | unexpected (c : Char) (position : Nat)
  /-- No name where one must begin. -/
  | missingName (position : Nat)
  /-- The text ends inside an attribute test, or the test is not closed. -/
  | unterminated
  /-- Two compounds are combined. -/
  | combinator
  deriving DecidableEq, Repr

/-- A fault of an alternative of the selector text `source`. -/
structure Error where
  source : String
  fault : Fault
  deriving DecidableEq, Repr

/-- The error in words. -/
def Error.message (e : Error) : String :=
  let quoted := Text.quoteText e.source
  match e.fault with
  | .empty => "empty selector"
  | .unexpected c position =>
      "unexpected " ++ Text.quoteChar c ++ " at position " ++ toString position ++
        " in selector " ++ quoted
  | .missingName position =>
      "expected a name at position " ++ toString position ++ " in selector " ++ quoted
  | .unterminated => "unterminated attribute selector in " ++ quoted
  | .combinator => "combinators are not supported (selector " ++ quoted ++ ")"

end Selector
end LiveForm
