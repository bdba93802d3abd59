import LiveForm.Text.Quoted

/-!
# Slugs

A slug is a name fit for an address: words over lower-case ASCII letters and digits, joined by
single hyphens.  `Slug.fault?` finds the first rule that a text breaks, and a `Slug` is a text
that breaks none.  `Slug.parse` reads one; `Slug.Fault.message` words the faults.

`Slug.Grammatical` says what a slug is without a scan: a non-empty list of non-empty words.
-/

namespace LiveForm
namespace Slug

/-! ## Characters -/

/-- The characters words are made of: `a` to `z` and `0` to `9`. -/
def isLetter (c : Char) : Bool := c.isLower || c.isDigit

/-- The character that joins words. -/
def isHyphen (c : Char) : Bool := c == '-'

/-- The characters a slug is made of. -/
def isSlugChar (c : Char) : Bool := isLetter c || isHyphen c

/-! ## Faults -/

/-- The rules a text can break, in the order in which they are tested. -/
inductive Fault where
  /-- There is no character at all. -/
  | empty
  /-- A character that no slug has, and the byte it starts at. -/
  | invalidChar (c : Char) (byte : Nat)
  /-- A hyphen at an end. -/
  | edgeHyphen
  /-- Two hyphens next to each other. -/
  | doubleHyphen
  deriving DecidableEq, Repr

/-- The fault in words. -/
def Fault.message : Fault → String
  | .empty => "slug is empty"
  | .invalidChar c byte =>
      "invalid character " ++ Text.quoteChar c ++ " at byte " ++ toString byte ++
        "; slugs use lowercase a-z, 0-9 and '-'"
  | .edgeHyphen => "slug must not start or end with '-'"
  | .doubleHyphen => "slug must not contain consecutive hyphens"

/-- The first character that no slug has, with its byte, in a text that starts at `byte`. -/
def firstForeign (byte : Nat) : List Char → Option (Char × Nat)
  | [] => none
  | c :: cs => if isSlugChar c then firstForeign (byte + c.utf8Size) cs else some (c, byte)

/-- Whether two hyphens stand next to each other. -/
def hasDoubleHyphen : List Char → Bool
  | [] => false
  | c :: cs => (isHyphen c && cs.head?.any isHyphen) || hasDoubleHyphen cs

/-- The first rule that a text breaks. -/
def faultOf? (cs : List Char) : Option Fault :=
  if cs = [] then some .empty
  else match firstForeign 0 cs with
    | some (c, byte) => some (.invalidChar c byte)
    | none =>
        if cs.head?.any isHyphen || cs.getLast?.any isHyphen then some .edgeHyphen
        else if hasDoubleHyphen cs then some .doubleHyphen
        else none

/-- No foreign character is found in a text of slug characters, and only there. -/
theorem firstForeign_eq_none_iff {byte : Nat} {cs : List Char} :
    firstForeign byte cs = none ↔ ∀ c ∈ cs, isSlugChar c = true := by
  induction cs generalizing byte with
  | nil => simp [firstForeign]
  | cons c cs ih => by_cases h : isSlugChar c = true <;> simp [firstForeign, h, ih]

/-- What is free of double hyphens is so in front of a further text. -/
theorem hasDoubleHyphen_of_append_left {a b : List Char}
    (h : hasDoubleHyphen (a ++ b) = false) : hasDoubleHyphen a = false := by
  induction a with
  | nil => rfl
  | cons c a ih =>
    simp only [List.cons_append, hasDoubleHyphen, Bool.or_eq_false_iff] at h ⊢
    refine ⟨?_, ih h.2⟩
    cases a with
    | nil => simp
    | cons d a => exact h.1

theorem hasDoubleHyphen_of_append_right {a b : List Char}
    (h : hasDoubleHyphen (a ++ b) = false) : hasDoubleHyphen b = false := by
  induction a with
  | nil => exact h
  | cons c a ih =>
    simp only [List.cons_append, hasDoubleHyphen, Bool.or_eq_false_iff] at h
    exact ih h.2

/-- A text over slug characters without hyphens at its ends or side by side breaks no rule but
that it may be empty. -/
theorem faultOf?_eq_none {cs : List Char} (hne : cs ≠ [])
    (hchars : ∀ c ∈ cs, isSlugChar c = true) (hhead : cs.head?.any isHyphen = false)
    (hlast : cs.getLast?.any isHyphen = false) (hdouble : hasDoubleHyphen cs = false) :
    faultOf? cs = none := by
  simp [faultOf?, hne, firstForeign_eq_none_iff.2 hchars, hhead, hlast, hdouble]

end Slug

/-! ## The type -/

/-- A text that breaks no rule. -/
structure Slug where
  text : String
  faultless : Slug.faultOf? text.toList = none
  deriving DecidableEq

namespace Slug

/-- The first rule that a text breaks. -/
def fault? (s : String) : Option Fault := faultOf? s.toList

/-- Reads a slug, or tells the first rule that is broken. -/
def parse (s : String) : Except Fault Slug :=
  match h : fault? s with
  | none => .ok ⟨s, h⟩
  | some f => .error f

/-- Whether a text is a slug. -/
def isSlug (s : String) : Bool := (fault? s).isNone

/-- Words joined by single hyphens. -/
inductive Grammatical : List Char → Prop
  | word {w : List Char} : w ≠ [] → (∀ c ∈ w, isLetter c = true) → Grammatical w
  | join {w rest : List Char} : w ≠ [] → (∀ c ∈ w, isLetter c = true) → Grammatical rest →
      Grammatical (w ++ '-' :: rest)

end Slug
end LiveForm
