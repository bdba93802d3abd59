import LiveForm.Slug.Basic
import LiveForm.Text.Blank
import LiveForm.Text.Lowercase

/-!
# The plain slugifier

`Slug.plain` makes a slug out of a text by a fixed sequence of passes, the one a field runs at
every key: lower-case the text, turn runs of blanks into hyphens, drop every character that is
no word character, merge hyphens, strip them from the ends, turn runs of separators into hyphens
and strip once more.

`Slug.plainWords` describes the same result without passes, as a list of words.  The main fact is
`faultOf?_plainChars`: what the passes leave is empty or a slug, and so `Slug.ofText?` needs no
test of its own.
-/

namespace LiveForm
namespace Slug

open Text

/-! ## The passes -/

/-- ASCII letters and digits, the underscore and the hyphen. -/
def isWordChar (c : Char) : Bool := c.isAlphanum || c == '_' || isHyphen c

/-- Blanks, the underscore and the hyphen. -/
def isSeparator (c : Char) : Bool := isBlank c || c == '_' || isHyphen c

/-- The passes on a text that is in lower case. -/
def plainPasses (lower : List Char) : List Char :=
  let hyphenated := squeeze isBlank '-' lower
  let wordy := hyphenated.filter isWordChar
  let merged := squeeze isHyphen '-' wordy
  let stripped := strip isHyphen merged
  let joined := squeeze isSeparator '-' stripped
  strip isHyphen joined

/-- The plain slugifier on characters. -/
def plainChars (cs : List Char) : List Char :=
  plainPasses (lowercase cs)

/-- The slug of a text, or the empty text if nothing of it can stay. -/
def plain (s : String) : String :=
  String.ofList (plainChars s.toList)

@[simp] theorem toList_plain (s : String) : (plain s).toList = plainChars s.toList := by
  simp [plain]

/-! ## What the passes leave -/

/-- A letter of a slug, a hyphen, an underscore: the word characters that lower case leaves. -/
theorem isSlugChar_of_isWordChar {c : Char} (hw : isWordChar c = true)
    (hu : c.isUpper = false) (hs : isSeparator c = false) : isSlugChar c = true := by
  have ha : c.isAlphanum = (c.isUpper || c.isLower || c.isDigit) := rfl
  simp only [isWordChar, ha, isSeparator, isSlugChar, isLetter, Bool.or_eq_true,
    Bool.or_eq_false_iff] at *
  simp_all

/-- Squeezing separators into hyphens leaves no two hyphens side by side, and none in front if
the text starts inside a run. -/
theorem hasDoubleHyphen_squeezeFrom (b : Bool) (cs : List Char) :
    hasDoubleHyphen (squeezeFrom isSeparator '-' b cs) = false ∧
      (b = true → (squeezeFrom isSeparator '-' b cs).head?.any isHyphen = false) := by
  induction cs generalizing b with
  | nil => simp [hasDoubleHyphen]
  | cons c cs ih =>
    by_cases hc : isSeparator c = true
    · obtain ⟨htrue, hfalse⟩ := squeezeFrom_cons_of_pos hc '-' cs
      cases b with
      | true => rw [htrue]; exact ih true
      | false =>
        rw [hfalse]
        simp [hasDoubleHyphen, (ih true).1, (ih true).2 rfl]
    · have hc : isSeparator c = false := by simpa using hc
      have hh : isHyphen c = false := by
        simp only [isSeparator, Bool.or_eq_false_iff] at hc
        exact hc.2
      rw [squeezeFrom_cons_of_neg hc]
      simp [hasDoubleHyphen, hh, (ih false).1]

/-- What the passes leave of a text in lower case is empty or breaks no rule. -/
theorem faultOf?_plainPasses {lower : List Char} (hlow : ∀ c ∈ lower, c.isUpper = false)
    (hne : plainPasses lower ≠ []) : faultOf? (plainPasses lower) = none := by
  unfold plainPasses at hne ⊢
  simp only at hne ⊢
  generalize hw : (squeeze isBlank '-' lower).filter isWordChar = wordy at hne ⊢
  generalize hj : squeeze isSeparator '-' (strip isHyphen (squeeze isHyphen '-' wordy)) = joined
    at hne ⊢
  have hwordy : ∀ c ∈ wordy, isWordChar c = true ∧ c.isUpper = false := by
    intro c hc
    rw [← hw, List.mem_filter] at hc
    refine ⟨hc.2, ?_⟩
    rcases mem_squeezeFrom hc.1 with rfl | ⟨h, -⟩
    · decide
    · exact hlow c h
  have hmerged : ∀ c ∈ squeeze isHyphen '-' wordy, isWordChar c = true ∧ c.isUpper = false := by
    intro c hc
    rcases mem_squeezeFrom hc with rfl | ⟨h, -⟩
    · decide
    · exact hwordy c h
  have hjoined : ∀ c ∈ joined, isSlugChar c = true := by
    intro c hc
    rw [← hj] at hc
    rcases mem_squeezeFrom hc with rfl | ⟨h, hs⟩
    · decide
    · have := hmerged c ((strip_isStretch isHyphen _).subset h)
      exact isSlugChar_of_isWordChar this.1 this.2 hs
  have hdouble : hasDoubleHyphen joined = false := by
    rw [← hj]
    exact (hasDoubleHyphen_squeezeFrom false _).1
  obtain ⟨front, back, hsplit⟩ := strip_isStretch isHyphen joined
  rw [← hsplit] at hdouble
  exact faultOf?_eq_none hne (fun c hc => hjoined c ((strip_isStretch _ _).subset hc))
    (ends_strip isHyphen joined).1 (ends_strip isHyphen joined).2
    (hasDoubleHyphen_of_append_right (hasDoubleHyphen_of_append_left hdouble))

/-- What the plain slugifier leaves is empty or a slug. -/
theorem faultOf?_plainChars {cs : List Char} (hne : plainChars cs ≠ []) :
    faultOf? (plainChars cs) = none :=
  faultOf?_plainPasses (fun _ h => isUpper_of_mem_lowercase h) hne

/-- The slug of a text, if anything of the text can stay. -/
def ofText? (s : String) : Option Slug :=
  if h : plainChars s.toList = [] then none
  else some ⟨plain s, by rw [toList_plain]; exact faultOf?_plainChars h⟩

/-! ## The same by words -/

/-- A blank counts as a hyphen. -/
def blankToHyphen (c : Char) : Char := if isBlank c then '-' else c

/-- The words of a text in lower case: blanks count as hyphens, characters that are no word
characters do not count at all, and the runs of letters and digits that remain are the words. -/
def plainWords (lower : List Char) : List (List Char) :=
  runs isLetter ((lower.map blankToHyphen).filter isWordChar)

/-- Words with a hyphen between each two. -/
def joinWords (words : List (List Char)) : List Char :=
  List.intercalate ['-'] words

end Slug
end LiveForm
