import LiveForm.Toml.Statement

/-!
# TOML documents

`parse?` reads a document as the entries of its root table, and fails if the text breaks a rule of
the format, also the rule that nothing is defined twice.

The table of the last header is held apart from the others (`Draft.current`) until the next header
or the end of the document puts it into its place.  A header that names a table which longer headers
have only passed through takes that table up again.
-/

namespace LiveForm
namespace Toml

/-- Where the table of the last header belongs. -/
inductive Place where
  /-- The table is the root. -/
  | root
  | table (path : List String) (key : String)
  | row (path : List String) (key : String)

/-- A document that is read up to some line: the table of the last header, and all others. -/
structure Draft where
  others : Entries := []
  place : Place := .root
  current : Entries := []

namespace Draft

/-- The root table with the current table in its place. -/
def closed? (d : Draft) : Option Entries :=
  match d.place with
  | .root => some d.current
  | .table path key =>
      let put (_ : Origin) (es : Entries) : Option (Entries × Unit) :=
        if (es.lookup key).isSome then none
        else some (es ++ [(key, .table .header d.current)], ())
      (Entries.within? false put path .header d.others).map (·.1)
  | .row path key =>
      let put (_ : Origin) (es : Entries) : Option (Entries × Unit) :=
        match es.lookup key with
        | some (.tables rows) => some (es.replace key (.tables (rows ++ [d.current])), ())
        | _ => none
      (Entries.within? false put path .header d.others).map (·.1)

/-- The draft behind the header of a table. -/
def openTable? (d : Draft) (path : List String) (key : String) : Option Draft :=
  let take (_ : Origin) (es : Entries) : Option (Entries × Entries) :=
    match es.lookup key with
    | none => some (es, [])
    | some (.table .passed inner) => some (es.remove key, inner)
    | some _ => none
  d.closed?.bind fun root =>
    (Entries.within? false take path .header root).map fun (others, current) =>
      { others, place := .table path key, current }

/-- The draft behind the header of one more table of an array. -/
def openRow? (d : Draft) (path : List String) (key : String) : Option Draft :=
  let take (_ : Origin) (es : Entries) : Option (Entries × Unit) :=
    match es.lookup key with
    | none => some (es ++ [(key, .tables [])], ())
    | some (.tables _) => some (es, ())
    | some _ => none
  d.closed?.bind fun root =>
    (Entries.within? false take path .header root).map fun (others, _) =>
      { others, place := .row path key }

/-- The draft behind one more line. -/
def add? (d : Draft) : Statement → Option Draft
  | .pair path key v => (d.current.add? path key v).map fun current => { d with current }
  | .header path key => d.openTable? path key
  | .rowHeader path key => d.openRow? path key

end Draft

/-- A text without the byte order mark in front. -/
def dropMark : List Char → List Char
  | '\uFEFF' :: cs => cs
  | cs => cs

/-- The entries of the root table of a document. -/
def parse? (text : String) : Option (List (String × Value)) := do
  let lines ← statements? (dropMark text.toList)
  let draft ← lines.foldlM Draft.add? {}
  let root ← draft.closed?
  return entriesToValues root

end Toml
end LiveForm
