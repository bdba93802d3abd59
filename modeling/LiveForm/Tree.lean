import LiveForm.Selector.Basic

/-!
# The tree of a form

A tree holds elements in document order; each stands at the top level or under an element before
it.  An element is named by its place, its *handle*.  Trees only grow, and the content of an element
may change, but not where it stands.

Since a parent always comes first (`Tree.parent_lt`), the chain of parents above an element ends;
`Tree.ancestors` lists it, and `Tree.closest?`, `Tree.isDescendant` and `Tree.queryWithin` look
along it.  Handles beyond the tree name nothing: they have no element, no parent and no ancestors,
and changing what they name changes nothing.

`Tree.element?` and `Tree.parent?` are the view of a tree; every operation has an equation for each.
-/

namespace LiveForm

/-- The place of an element in document order. -/
abbrev Handle := Nat

/-- An element with the place of its parent. -/
structure Node where
  element : Element
  parent : Option Handle
  deriving DecidableEq

/-- The elements of a form in document order. -/
structure Tree where
  nodes : Array Node
  /-- A parent stands before its children. -/
  parent_lt : ∀ h p, (nodes[h]?).bind Node.parent = some p → p < h

namespace Tree

/-! ## Looking up -/

/-- The tree without elements. -/
def empty : Tree := ⟨#[], by simp⟩

/-- The number of elements; the handles of the tree are the numbers below it. -/
def size (t : Tree) : Nat := t.nodes.size

/-- The element that a handle names. -/
def element? (t : Tree) (h : Handle) : Option Element := t.nodes[h]?.map Node.element

/-- The handle of the parent of an element. -/
def parent? (t : Tree) (h : Handle) : Option Handle := t.nodes[h]?.bind Node.parent

/-- The value of an element; a handle that names nothing has the empty value. -/
def value (t : Tree) (h : Handle) : String := ((t.element? h).map (·.value)).getD ""

/-- The value of an attribute of an element. -/
def attribute? (t : Tree) (h : Handle) (name : String) : Option String :=
  (t.element? h).bind (·.attribute? name)

/-- Whether an element has a class. -/
def hasClass (t : Tree) (h : Handle) (name : String) : Bool :=
  (t.element? h).any (·.hasClass name)

/-- The handles of the tree in document order. -/
def handles (t : Tree) : List Handle := List.range t.size

theorem parent?_lt (t : Tree) {h p : Handle} (hp : t.parent? h = some p) : p < h :=
  t.parent_lt h p hp

@[simp] theorem element?_empty (h : Handle) : empty.element? h = none := by
  simp [element?, empty]

@[simp] theorem parent?_empty (h : Handle) : empty.parent? h = none := by
  simp [parent?, empty]

/-- A handle names an element exactly if it is below the size. -/
theorem element?_eq_none_iff {t : Tree} {h : Handle} : t.element? h = none ↔ t.size ≤ h := by
  simp [element?, size]

theorem element?_isSome_iff {t : Tree} {h : Handle} : (t.element? h).isSome ↔ h < t.size := by
  simp [element?, size]

/-- What has a parent is in the tree. -/
theorem lt_size_of_parent?_eq_some {t : Tree} {h p : Handle} (hp : t.parent? h = some p) :
    h < t.size := by
  unfold parent? at hp
  unfold size
  cases hn : t.nodes[h]? with
  | none => simp [hn] at hp
  | some n => exact (Array.getElem?_eq_some_iff.1 hn).1

/-! ## Growing -/

/-- The tree with one more element at its end, under `parent` if that is a handle of the tree.  The
handle of the new element is the size of the old tree. -/
def append (t : Tree) (parent : Option Handle) (e : Element) : Tree where
  nodes := t.nodes.push ⟨e, parent.filter (· < t.size)⟩
  parent_lt := by
    intro h p hp
    rw [Array.getElem?_push] at hp
    split at hp
    · next heq =>
      subst heq
      simp only [Option.bind_some, Option.filter_eq_some_iff, decide_eq_true_eq] at hp
      exact hp.2
    · exact t.parent_lt h p hp

@[simp] theorem size_append (t : Tree) (parent : Option Handle) (e : Element) :
    (t.append parent e).size = t.size + 1 := by
  simp [append, size]

@[simp] theorem element?_append (t : Tree) (parent : Option Handle) (e : Element) (h : Handle) :
    (t.append parent e).element? h = if h = t.size then some e else t.element? h := by
  simp only [element?, append, Array.getElem?_push, size]
  split <;> simp_all

@[simp] theorem parent?_append (t : Tree) (parent : Option Handle) (e : Element) (h : Handle) :
    (t.append parent e).parent? h =
      if h = t.size then parent.filter (· < t.size) else t.parent? h := by
  simp only [parent?, append, Array.getElem?_push, size]
  split <;> simp_all

/-! ## Changing the content of an element -/

/-- The tree with the content of one element changed. -/
def modify (t : Tree) (h : Handle) (f : Element → Element) : Tree where
  nodes := t.nodes.modify h fun n => { n with element := f n.element }
  parent_lt := by
    intro i p hp
    refine t.parent_lt i p ?_
    rw [Array.getElem?_modify] at hp
    split at hp
    · rw [← hp]
      cases t.nodes[i]? <;> rfl
    · exact hp

@[simp] theorem size_modify (t : Tree) (h : Handle) (f : Element → Element) :
    (t.modify h f).size = t.size := by
  simp [modify, size]

@[simp] theorem element?_modify (t : Tree) (h i : Handle) (f : Element → Element) :
    (t.modify h f).element? i = if h = i then (t.element? i).map f else t.element? i := by
  simp only [element?, modify, Array.getElem?_modify]
  split
  · cases t.nodes[i]? <;> rfl
  · rfl

@[simp] theorem parent?_modify (t : Tree) (h i : Handle) (f : Element → Element) :
    (t.modify h f).parent? i = t.parent? i := by
  simp only [parent?, modify, Array.getElem?_modify]
  split
  · cases t.nodes[i]? <;> rfl
  · rfl

/-- The tree with another value in an element. -/
def setValue (t : Tree) (h : Handle) (value : String) : Tree := t.modify h (·.withValue value)

/-- The tree with one more class on an element. -/
def addClass (t : Tree) (h : Handle) (name : String) : Tree := t.modify h (·.addClass name)

/-- The tree with a class taken off an element. -/
def removeClass (t : Tree) (h : Handle) (name : String) : Tree := t.modify h (·.removeClass name)

@[simp] theorem size_setValue (t : Tree) (h : Handle) (value : String) :
    (t.setValue h value).size = t.size := size_modify ..

@[simp] theorem element?_setValue (t : Tree) (h i : Handle) (value : String) :
    (t.setValue h value).element? i =
      if h = i then (t.element? i).map (·.withValue value) else t.element? i :=
  element?_modify ..

@[simp] theorem parent?_setValue (t : Tree) (h i : Handle) (value : String) :
    (t.setValue h value).parent? i = t.parent? i := parent?_modify ..

@[simp] theorem size_addClass (t : Tree) (h : Handle) (name : String) :
    (t.addClass h name).size = t.size := size_modify ..

@[simp] theorem element?_addClass (t : Tree) (h i : Handle) (name : String) :
    (t.addClass h name).element? i =
      if h = i then (t.element? i).map (·.addClass name) else t.element? i :=
  element?_modify ..

@[simp] theorem parent?_addClass (t : Tree) (h i : Handle) (name : String) :
    (t.addClass h name).parent? i = t.parent? i := parent?_modify ..

@[simp] theorem size_removeClass (t : Tree) (h : Handle) (name : String) :
    (t.removeClass h name).size = t.size := size_modify ..

@[simp] theorem element?_removeClass (t : Tree) (h i : Handle) (name : String) :
    (t.removeClass h name).element? i =
      if h = i then (t.element? i).map (·.removeClass name) else t.element? i :=
  element?_modify ..

@[simp] theorem parent?_removeClass (t : Tree) (h i : Handle) (name : String) :
    (t.removeClass h name).parent? i = t.parent? i := parent?_modify ..

/-- Writing a value changes no other one. -/
theorem value_setValue_of_ne (t : Tree) {h i : Handle} (hne : h ≠ i) (value : String) :
    (t.setValue h value).value i = t.value i := by
  simp [Tree.value, hne]

/-- What is written into an element of the tree is there. -/
theorem value_setValue_self (t : Tree) {h : Handle} (hh : h < t.size) (value : String) :
    (t.setValue h value).value h = value := by
  obtain ⟨e, he⟩ := Option.isSome_iff_exists.1 (element?_isSome_iff.2 hh)
  simp [Tree.value, he, Element.withValue]

/-- Two trees are equal if every handle names the same element under the same parent. -/
theorem ext_view {s t : Tree} (he : ∀ h, s.element? h = t.element? h)
    (hp : ∀ h, s.parent? h = t.parent? h) : s = t := by
  have hnodes : s.nodes = t.nodes := by
    refine Array.ext_getElem? fun h => ?_
    have he := he h
    have hp := hp h
    unfold element? at he
    unfold parent? at hp
    cases hs : s.nodes[h]? with
    | none => cases ht : t.nodes[h]? with
      | none => rfl
      | some n => simp [hs, ht] at he
    | some m => cases ht : t.nodes[h]? with
      | none => simp [hs, ht] at he
      | some n =>
        cases m; cases n
        simp_all
  cases s; cases t; simp_all

/-! ## Ancestors -/

/-- The ancestors of an element, the nearest first. -/
def ancestors (t : Tree) (h : Handle) : List Handle :=
  match _hp : t.parent? h with
  | none => []
  | some p => p :: t.ancestors p
termination_by h
decreasing_by exact t.parent?_lt _hp

theorem ancestors_of_parent?_eq_none {t : Tree} {h : Handle} (hp : t.parent? h = none) :
    t.ancestors h = [] := by
  rw [ancestors]
  split
  · rfl
  · next p hp' => rw [hp] at hp'; cases hp'

theorem ancestors_of_parent?_eq_some {t : Tree} {h p : Handle} (hp : t.parent? h = some p) :
    t.ancestors h = p :: t.ancestors p := by
  rw [ancestors]
  split
  · next hp' => rw [hp] at hp'; cases hp'
  · next q hp' => rw [hp] at hp'; cases hp'; rfl

/-- Whether `h` stands below `ancestor`. -/
def isDescendant (t : Tree) (h ancestor : Handle) : Bool := (t.ancestors h).contains ancestor

/-! ## Selecting -/

/-- Whether a handle names an element that a selector picks. -/
def picks (t : Tree) (s : Selector) (h : Handle) : Bool := (t.element? h).any s.selects

/-- The elements that a selector picks, in document order. -/
def query (t : Tree) (s : Selector) : List Handle := t.handles.filter (t.picks s)

/-- The elements below `root` that a selector picks, in document order. -/
def queryWithin (t : Tree) (root : Handle) (s : Selector) : List Handle :=
  (t.query s).filter (t.isDescendant · root)

/-- The nearest of an element and its ancestors that a selector picks. -/
def closest? (t : Tree) (h : Handle) (s : Selector) : Option Handle :=
  (h :: t.ancestors h).find? (t.picks s)

/-- The first element with an id. -/
def findById? (t : Tree) (id : String) : Option Handle :=
  t.handles.find? fun h => (t.element? h).any (·.id == some id)

/-- How reports name an element. -/
def label? (t : Tree) (h : Handle) : Option String := (t.element? h).map (·.label h)

end Tree
end LiveForm
