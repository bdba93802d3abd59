import LiveForm.Toml.Value

/-!
# Tables under construction

The lines of a document, and the pairs of an inline table, fill tables little by little.  While they
do, it matters how a table came to be (`Origin`): a table that a header names is complete under that
name, one that a longer header or a dotted key merely passes through may still be continued in the
same manner, and a value is closed.

`Entries.add?` adds a pair under a dotted key, and `Entries.within?` works on the table at the end
of a path.  Both refuse what would define something twice.
-/

namespace LiveForm
namespace Toml

/-- How a table came to be. -/
inductive Origin where
  /-- Named by a header of its own, or the root. -/
  | header
  /-- Passed through by the header of a table below it. -/
  | passed
  /-- Passed through by a dotted key. -/
  | dotted
  deriving DecidableEq, Repr

/-- What a key stands for while tables are filled. -/
inductive Item where
  /-- A value, to which nothing can be added. -/
  | value (v : Value)
  | table (origin : Origin) (entries : List (String × Item))
  /-- The tables of one array header, of which the last can be continued. -/
  | tables (rows : List (List (String × Item)))

/-- Keys with what they stand for, in the order of their first appearance. -/
abbrev Entries := List (String × Item)

namespace Entries

/-- The entries with another item under a key that is there. -/
def replace (es : Entries) (key : String) (item : Item) : Entries :=
  es.map fun (k, i) => if k = key then (k, item) else (k, i)

/-- The entries without a key. -/
def remove (es : Entries) (key : String) : Entries :=
  es.filter (·.1 ≠ key)

/-- Changes the table at the end of a path, which `f` is given with its origin.  Tables that are
missing on the way are made; `dotted` tells whether the path is that of a dotted key, which may not
lead through a table with a header. -/
def within? {α : Type} (dotted : Bool) (f : Origin → Entries → Option (Entries × α)) :
    List String → Origin → Entries → Option (Entries × α)
  | [], origin, es => f origin es
  | key :: path, _, es =>
      match es.lookup key with
      | none =>
          let origin : Origin := if dotted then .dotted else .passed
          (within? dotted f path origin []).map fun (inner, a) =>
            (es ++ [(key, .table origin inner)], a)
      | some (.value _) => none
      | some (.table origin inner) =>
          if dotted && origin == .header then none
          else (within? dotted f path origin inner).map fun (inner, a) =>
            (replace es key (.table origin inner), a)
      | some (.tables rows) =>
          match rows.getLast? with
          | none => none
          | some inner => (within? dotted f path .header inner).map fun (inner, a) =>
              (replace es key (.tables (rows.dropLast ++ [inner])), a)

/-- Adds a value under a dotted key to a table that has a header.  A path has to end in a table made
by dotted keys. -/
def add? (es : Entries) (path : List String) (key : String) (v : Value) : Option Entries :=
  let put (origin : Origin) (es : Entries) : Option (Entries × Unit) :=
    if (origin == .dotted) == path.isEmpty then none
    else if (es.lookup key).isSome then none
    else some (es ++ [(key, .value v)], ())
  (within? true put path .header es).map (·.1)

end Entries

/-! ## The finished table -/

mutual

/-- The value of an item. -/
def Item.toValue : Item → Value
  | .value v => v
  | .table _ es => .table (entriesToValues es)
  | .tables rows => .array (rowsToValues rows)

/-- The entries with their values. -/
def entriesToValues : List (String × Item) → List (String × Value)
  | [] => []
  | (key, item) :: es => (key, item.toValue) :: entriesToValues es

/-- The tables of an array header. -/
def rowsToValues : List (List (String × Item)) → List Value
  | [] => []
  | row :: rows => .table (entriesToValues row) :: rowsToValues rows

end

/-- The table of the pairs of an inline table, each a path, a key and a value. -/
def inlineTable? (pairs : List (List String × String × Value)) : Option Value :=
  (pairs.foldlM (fun (es : Entries) p => es.add? p.1 p.2.1 p.2.2) []).map fun es =>
    .table (entriesToValues es)

end Toml
end LiveForm
