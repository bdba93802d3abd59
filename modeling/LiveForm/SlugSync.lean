import LiveForm.Slug.Plain
import LiveForm.Tree

/-!
# Slug fields that follow a title

A `SlugSync` ties source fields to destination fields.  At every key released in a source, the slug
of its value goes into all destinations, until a key is released in a destination: from then on
the user has the field, `edited` is set for good and the sync does nothing more.

The fields are found when the sync is bound; elements that come later are not part of it.
-/

namespace LiveForm

/-- Source fields, destination fields, and whether a destination has been edited. -/
structure SlugSync where
  sources : List Handle
  destinations : List Handle
  edited : Bool := false
  deriving DecidableEq, Repr

namespace SlugSync

/-- The sync of the fields that two selectors pick. -/
def bind (t : Tree) (source destination : Selector) : SlugSync :=
  { sources := t.query source, destinations := t.query destination }

/-- One value in several fields. -/
def fill (t : Tree) (fields : List Handle) (value : String) : Tree :=
  fields.foldl (fun t h => t.setValue h value) t

@[simp] theorem fill_nil (t : Tree) (value : String) : fill t [] value = t := rfl

@[simp] theorem fill_cons (t : Tree) (h : Handle) (fields : List Handle) (value : String) :
    fill t (h :: fields) value = fill (t.setValue h value) fields value := rfl

@[simp] theorem size_fill (t : Tree) (fields : List Handle) (value : String) :
    (fill t fields value).size = t.size := by
  induction fields generalizing t with
  | nil => rfl
  | cons h fields ih => rw [fill_cons, ih, Tree.size_setValue]

@[simp] theorem parent?_fill (t : Tree) (fields : List Handle) (value : String) (i : Handle) :
    (fill t fields value).parent? i = t.parent? i := by
  induction fields generalizing t with
  | nil => rfl
  | cons h fields ih => rw [fill_cons, ih, Tree.parent?_setValue]

/-- Filling writes the value into the fields, and nowhere else. -/
theorem element?_fill (t : Tree) (fields : List Handle) (value : String) (i : Handle) :
    (fill t fields value).element? i =
      if i ∈ fields then (t.element? i).map (·.withValue value) else t.element? i := by
  induction fields generalizing t with
  | nil => rfl
  | cons h fields ih =>
    rw [fill_cons, ih, Tree.element?_setValue]
    by_cases hi : h = i
    · subst hi
      cases t.element? h <;> by_cases hm : h ∈ fields <;> simp [hm, Element.withValue]
    · simp [hi, Ne.symm hi]

/-- The sync after a key is released in `target`. -/
def afterInput (s : SlugSync) (target : Handle) : SlugSync :=
  { s with edited := s.edited || s.destinations.contains target }

/-- A key is released in `target`.  The destinations are looked at first, so a field that is source
and destination is edited and not overwritten. -/
def onInput (s : SlugSync) (t : Tree) (target : Handle) : SlugSync × Tree :=
  let s := s.afterInput target
  if s.sources.contains target && !s.edited then
    (s, fill t s.destinations (Slug.plain (t.value target)))
  else (s, t)

end SlugSync
end LiveForm
