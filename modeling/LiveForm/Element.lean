import LiveForm.NameSet

/-!
# Elements of a form

An element is a field, a control or a container: a tag, perhaps an id, classes, attributes and a
value.  Where it stands in the form is not its own matter but the tree's.
-/

namespace LiveForm

/-- A field, a control or a container of a form. -/
structure Element where
  tag : String
  id : Option String := none
  classes : NameSet := ∅
  /-- Names with their values; the first entry of a name counts. -/
  attributes : List (String × String) := []
  value : String := ""
  deriving DecidableEq

namespace Element

/-- The value of an attribute. -/
def attribute? (e : Element) (name : String) : Option String :=
  e.attributes.lookup name

/-- Whether the element has a class. -/
def hasClass (e : Element) (name : String) : Bool :=
  e.classes.contains name

/-- How reports name the element at place `index`: by its id, or by its tag and place. -/
def label (e : Element) (index : Nat) : String :=
  match e.id with
  | some id => "#" ++ id
  | none => e.tag ++ "[" ++ toString index ++ "]"

/-- The element with another value. -/
def withValue (e : Element) (value : String) : Element := { e with value }

/-- The element with one more class. -/
def addClass (e : Element) (name : String) : Element := { e with classes := e.classes.insert name }

/-- The element without a class. -/
def removeClass (e : Element) (name : String) : Element :=
  { e with classes := e.classes.erase name }

end Element
end LiveForm
