import LiveForm.Slug.Basic
import LiveForm.Text.Lowercase
import LiveForm.Text.Runs
import LiveForm.Text.Transliteration

/-!
# The transliterating slugifier

`Slug.asciiBy` lower-cases a text, cuts it at punctuation (`isPunctuation`), spells every piece in
ASCII words (`pieceWords`) by a table and joins the words of all pieces by a delimiter of the
caller's choice.  `asciiWords` is the list of words before it is joined; `Slug.ascii` goes by the
spellings of `Text.asciiForm?`, which are a part of the customary ones.

`spelledWords` finds the same words in one go, without the cut at punctuation.
-/

namespace LiveForm
namespace Slug

open Text

/-- The characters at which a text is cut into pieces. -/
def punctuation : List Char :=
  "\t !\"#$%&'()*-/<=>?@[\\]^_`\x7b|\x7d,.".toList

/-- Whether a text is cut at a character. -/
def isPunctuation (c : Char) : Bool := punctuation.contains c

/-- Letters and digits in lower case; every other character is a hyphen. -/
def letterOrHyphen (c : Char) : Char :=
  if isLetter c then c else if c.isUpper then c.toLower else '-'

/-- A text without the last character if that is a hyphen. -/
def dropLastHyphen (cs : List Char) : List Char :=
  if cs.getLast?.any isHyphen then cs.dropLast else cs

/-- A piece spelled in ASCII letters and digits; runs of other characters are one hyphen, and
there is none at the ends. -/
def hyphenatedSpelling (table : Spellings) (piece : List Char) : List Char :=
  dropLastHyphen (squeezeFrom isHyphen '-' true ((transliterate table piece).map letterOrHyphen))

/-- The words of one piece. -/
def pieceWords (table : Spellings) (piece : List Char) : List (List Char) :=
  (pieces isHyphen (hyphenatedSpelling table piece)).filter (fun w => !w.isEmpty)

/-- The words of a text, in order. -/
def asciiWords (table : Spellings) (cs : List Char) : List (List Char) :=
  (pieces isPunctuation (lowercase cs)).flatMap (pieceWords table)

/-- The words of a text joined by `delimiter`. -/
def asciiChars (table : Spellings) (delimiter cs : List Char) : List Char :=
  List.intercalate delimiter (asciiWords table cs)

/-- The slug of a text in ASCII words, joined by `delimiter`. -/
def asciiBy (table : Spellings) (delimiter s : String) : String :=
  String.ofList (asciiChars table delimiter.toList s.toList)

/-- The slug of a text in ASCII words, spelled by `Text.asciiForm?`. -/
def ascii (delimiter s : String) : String :=
  asciiBy asciiForm? delimiter s

/-- The words found without the cut at punctuation: the runs of ASCII letters and digits of the
spelled text, in lower case. -/
def spelledWords (table : Spellings) (cs : List Char) : List (List Char) :=
  (runs Char.isAlphanum (transliterate table (lowercase cs))).map (·.map Char.toLower)

@[simp] theorem toList_asciiBy (table : Spellings) (delimiter s : String) :
    (asciiBy table delimiter s).toList = asciiChars table delimiter.toList s.toList := by
  simp [asciiBy]

end Slug
end LiveForm
