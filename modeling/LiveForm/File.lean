/-!
# Files

What is found at a path, and reading it as a text.  A `Directory` holds files in memory, by their
path from the directory, and finds them under other spellings of the path.  Around it there are
directories without other content.
-/

namespace LiveForm

/-- What is found at a path. -/
inductive File where
  | missing
  /-- Nothing, because the path leads on behind a file. -/
  | behindFile
  /-- Nothing, because the path or a name on it is too long. -/
  | beyondLimits
  | directory
  | bytes (content : ByteArray)

namespace File

/-- Why a file cannot be read as a text. -/
inductive Fault where
  | missing
  | behindFile
  | beyondLimits
  | directory
  | notText
  deriving DecidableEq, Repr

/-- The fault in words. -/
def Fault.message : Fault → String
  | .missing => "No such file or directory (os error 2)"
  | .behindFile => "Not a directory (os error 20)"
  | .beyondLimits => "File name too long (os error 36)"
  | .directory => "Is a directory (os error 21)"
  | .notText => "stream did not contain valid UTF-8"

/-- The text of a file. -/
def read : File → Except Fault String
  | .missing => .error .missing
  | .behindFile => .error .behindFile
  | .beyondLimits => .error .beyondLimits
  | .directory => .error .directory
  | .bytes content =>
      match String.fromUTF8? content with
      | some s => .ok s
      | none => .error .notText

/-- The file that holds a text. -/
def ofText (s : String) : File := .bytes s.toUTF8

end File

/-- Files by the names on their path from the directory. -/
structure Directory where
  files : List (List String × File)

namespace Directory

/-- The names on a path, with empty ones where slashes stand side by side or at an end. -/
def names (path : String) : List String := path.splitOn "/"

/-- The most bytes that a name can have. -/
def nameLimit : Nat := 255

/-- The most bytes that a path can have. -/
def pathLimit : Nat := 4095

/-- Whether a name stays in the directory it is looked up in. -/
def staysThere (name : String) : Bool := name == "" || name == "."

/-- The directory of files by path; a missing file leaves no trace, not even of its path. -/
def ofList (files : List (String × File)) : Directory :=
  ⟨files.filterMap fun (path, file) =>
    match file with
    | .missing => none
    | file => some ((names path).filter (!staysThere ·), file)⟩

/-- What is found under names from the directory downwards. -/
def entry (d : Directory) (path : List String) : File :=
  match d.files.lookup path with
  | some file => file
  | none =>
      if path = [] ∨ d.files.any (fun f => path.isPrefixOf f.1) then .directory
      else .missing

/-- What is found under names from a directory around all others. -/
def outside : List String → File
  | [] => .directory
  | name :: path =>
      if name = ".." ∨ staysThere name then outside path
      else if nameLimit < name.utf8ByteSize then .beyondLimits
      else .missing

/-- Follows names from a place in the directory; `here` lists the names down to that place, the last
one first.  Only a directory leads on. -/
def follow (d : Directory) (here : List String) : List String → File
  | [] => d.entry here.reverse
  | name :: path =>
      match d.entry here.reverse with
      | .directory =>
          if staysThere name then d.follow here path
          else if name = ".." then
            match here with
            | [] => outside path
            | _ :: above => d.follow above path
          else if nameLimit < name.utf8ByteSize then .beyondLimits
          else d.follow (name :: here) path
      | .bytes _ => .behindFile
      | other => other

/-- What is found at a path from the directory, or from the root if the path begins with a slash. -/
def find (d : Directory) (path : String) : File :=
  if path = "" then .missing
  else if pathLimit < path.utf8ByteSize then .beyondLimits
  else if path.startsWith "/" then outside (names path)
  else d.follow [] (names path)

end Directory
end LiveForm
