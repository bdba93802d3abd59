/-!
# Writing JSON

JSON values as far as reports need them, and their text: on a single line (`Json.compact`), or with
one member or item per line and two spaces for each level (`Json.indented`).
-/

namespace LiveForm
namespace Data

/-- A JSON value. -/
inductive Json where
  | text (s : String)
  | number (n : Nat)
  | list (items : List Json)
  | object (members : List (String × Json))

namespace Json

/-- A hexadecimal number of two digits. -/
def twoHexDigits (n : Nat) : List Char :=
  [Nat.digitChar (n / 16), Nat.digitChar (n % 16)]

/-- A character of a text: quotes, backslashes and controls are escaped. -/
def escaped (c : Char) : List Char :=
  if c = '"' then ['\\', '"']
  else if c = '\\' then ['\\', '\\']
  else if c = '\x08' then ['\\', 'b']
  else if c = '\x0c' then ['\\', 'f']
  else if c = '\n' then ['\\', 'n']
  else if c = '\r' then ['\\', 'r']
  else if c = '\t' then ['\\', 't']
  else if c.toNat < 0x20 then ['\\', 'u', '0', '0'] ++ twoHexDigits c.toNat
  else [c]

/-- A text between quotation marks. -/
def quoted (s : String) : String :=
  String.ofList ('"' :: (s.toList.flatMap escaped ++ ['"']))

/-- The line break in front of an item at some level; a single line has none. -/
def lineBreak (lines : Bool) (level : Nat) : String :=
  if lines then String.ofList ('\n' :: List.replicate (2 * level) ' ') else ""

/-- Items between brackets. -/
def bracketed (opening closing : String) (lines : Bool) (level : Nat) (items : List String) :
    String :=
  if items.isEmpty then opening ++ closing
  else
    opening ++ lineBreak lines (level + 1) ++
      String.intercalate ("," ++ lineBreak lines (level + 1)) items ++
      lineBreak lines level ++ closing

mutual

/-- The text of a value that stands at some level. -/
def write (lines : Bool) (level : Nat) : Json → String
  | .text s => quoted s
  | .number n => toString n
  | .list items => bracketed "[" "]" lines level (writeItems lines (level + 1) items)
  | .object members => bracketed "\x7b" "\x7d" lines level (writeMembers lines (level + 1) members)

/-- The texts of the items of a list. -/
def writeItems (lines : Bool) (level : Nat) : List Json → List String
  | [] => []
  | x :: xs => x.write lines level :: writeItems lines level xs

/-- The texts of the members of an object. -/
def writeMembers (lines : Bool) (level : Nat) : List (String × Json) → List String
  | [] => []
  | (name, x) :: xs =>
      (quoted name ++ (if lines then ": " else ":") ++ x.write lines level) ::
        writeMembers lines level xs

end

/-- The text on a single line. -/
def compact (j : Json) : String := j.write false 0

/-- The text with one item per line. -/
def indented (j : Json) : String := j.write true 0

end Json
end Data
end LiveForm
