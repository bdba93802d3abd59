import LiveForm.Text.PrintTable

/-!
# Quoted characters and texts

The form in which messages show a character (`quoteChar`, between apostrophes) or a text
(`quoteText`, between quotation marks).  A quote of its own kind, the backslash and the common
controls are written with a backslash; a character that attaches to its neighbour or shows
nothing is written by its code point in hexadecimal; every other character stands for itself.
-/

namespace LiveForm
namespace Text

/-- Whether a character is shown by its code point. -/
def hidesItself (c : Char) : Bool :=
  c.toNat < 0x20 || inRanges markRanges c || inRanges unprintableRanges c

/-- A code point in lower-case hexadecimal between braces. -/
def codePointEscape (c : Char) : List Char :=
  ['\\', 'u', '\x7b'] ++ Nat.toDigits 16 c.toNat ++ ['\x7d']

/-- A character as it stands between two of the given quotes. -/
def quotedChar (quote c : Char) : List Char :=
  if c = '\x00' then ['\\', '0']
  else if c = '\t' then ['\\', 't']
  else if c = '\n' then ['\\', 'n']
  else if c = '\r' then ['\\', 'r']
  else if c = '\\' ∨ c = quote then ['\\', c]
  else if hidesItself c then codePointEscape c
  else [c]

/-- A character between apostrophes. -/
def quoteChar (c : Char) : String :=
  String.ofList ('\'' :: (quotedChar '\'' c ++ ['\'']))

/-- A text between quotation marks. -/
def quoteText (s : String) : String :=
  String.ofList ('"' :: (s.toList.flatMap (quotedChar '"') ++ ['"']))

end Text
end LiveForm
