import LiveForm.Proofs.Slug.Letters
import LiveForm.Proofs.Slug.Validity

/-!
# What the plain slugifier leaves alone

A text of which nothing is dropped keeps all its letters, and so the plain slugifier does no more
than find its words in lower case and join them.  Slugs are such texts, and joining the words of a
slug gives the slug back.

* `plainChars_eq_joinWords`: the plain slugifier joins the words of the text in lower case.
* `plainChars_of_ascii`: these are the runs of ASCII letters and digits, if there are only word
  characters and blanks.
* `plainChars_of_isSlugChar`: in a text of slug characters they are found as they are.
* `plain_fixes_slugs`: slugs and the empty text are left alone, and nothing else is.
-/

namespace LiveForm
namespace Slug

open Text

variable {cs : List Char} {s : String}

/-! ## Texts of which nothing is dropped -/

/-- The plain slugifier joins the words of the text in lower case. -/
theorem plainChars_eq_joinWords (cs : List Char) :
    plainChars cs = joinWords (plainWords (lowercase cs)) := by
  rw [← runs_plainPasses]
  exact (joinWords_runs faultOf?_plainChars).symm

/-- Where nothing is dropped the words are runs of letters in the text itself. -/
theorem plainWords_eq_runs (h : ∀ c ∈ cs, isWordChar c = true ∨ isBlank c = true) :
    plainWords cs = runs isLetter cs := by
  have hkeep : ∀ d ∈ cs.map blankToHyphen, isWordChar d = true := by
    refine List.forall_mem_map.2 fun c hc => ?_
    unfold blankToHyphen
    split
    · decide
    · next hblank => exact (h c hc).resolve_right hblank
  have hsame : ∀ c ∈ cs, isLetter (blankToHyphen c) = isLetter c ∧
      (isLetter (blankToHyphen c) = true → blankToHyphen c = c) := by
    intro c _
    unfold blankToHyphen
    split
    · next hblank =>
      have hjoin : isLetter '-' = false := by decide
      rw [hjoin, not_isLetter_of_isBlank hblank]
      exact ⟨rfl, fun h => Bool.noConfusion h⟩
    · exact ⟨rfl, fun _ => rfl⟩
  rw [plainWords, List.filter_eq_self.2 hkeep]
  calc runs isLetter (cs.map blankToHyphen) = runs isLetter (cs.map id) := runs_map_congr hsame
    _ = runs isLetter cs := by rw [List.map_id]

/-- Lower case makes word characters of word characters and blanks of blanks. -/
theorem kept_toLower {c : Char} (h : isWordChar c = true ∨ isBlank c = true) :
    isWordChar c.toLower = true ∨ isBlank c.toLower = true := by
  cases hu : c.isUpper with
  | true =>
    have hletter : isLetter c.toLower = true := isLetter_toLower_of_isUpper hu
    exact .inl (isWordChar_of_isAlphanum (isAlphanum_of_isLetter hletter))
  | false => rwa [toLower_of_not_isUpper hu]

/-- **In ASCII the plain slugifier joins the runs of letters and digits in lower case**, if there
are only blanks beside the word characters. -/
theorem plainChars_of_ascii (hascii : ∀ c ∈ cs, c.toNat < 128)
    (h : ∀ c ∈ cs, isWordChar c = true ∨ isBlank c = true) :
    plainChars cs = joinWords (runs isLetter (cs.map Char.toLower)) := by
  have hlower : ∀ d ∈ cs.map Char.toLower, isWordChar d = true ∨ isBlank d = true :=
    List.forall_mem_map.2 fun c hc => kept_toLower (h c hc)
  rw [plainChars_eq_joinWords, lowercase_of_ascii hascii, plainWords_eq_runs hlower]

/-! ## Slugs -/

/-- In a text of slug characters the plain slugifier finds the words as they are. -/
theorem plainChars_of_isSlugChar (h : ∀ c ∈ cs, isSlugChar c = true) :
    plainChars cs = joinWords (runs isLetter cs) := by
  have hword : ∀ c ∈ cs, isWordChar c = true ∨ isBlank c = true := by
    intro c hc
    left
    rw [isWordChar_of_not_isUpper (not_isUpper_of_isSlugChar (h c hc)), h c hc, Bool.true_or]
  rw [plainChars_of_ascii (fun c hc => toNat_lt_of_isSlugChar (h c hc)) hword,
    map_toLower_of_isSlugChar h]

theorem plainChars_of_faultOf?_eq_none (h : faultOf? cs = none) : plainChars cs = cs := by
  rw [plainChars_of_isSlugChar (conditions_of_faultOf?_eq_none h).2.1]
  exact joinWords_runs fun _ => h

theorem isSlug_iff : isSlug s = true ↔ fault? s = none :=
  Option.isNone_iff_eq_none

/-- Slugs and the empty text are left alone. -/
theorem plain_of_isSlug (h : s = "" ∨ isSlug s = true) : plain s = s := by
  rcases h with rfl | h
  · decide
  · rw [← String.toList_inj, toList_plain]
    exact plainChars_of_faultOf?_eq_none (isSlug_iff.1 h)

/-- What the plain slugifier leaves is empty or a slug. -/
theorem isSlug_plain (s : String) : plain s = "" ∨ isSlug (plain s) = true := by
  by_cases h : plain s = ""
  · exact .inl h
  · exact .inr (isSlug_iff.2 (fault?_plain h))

/-- **The plain slugifier leaves alone slugs and the empty text, and nothing else**, and going over
a text twice is the same as once. -/
theorem plain_fixes_slugs (s t : String) :
    (plain s = s ↔ s = "" ∨ isSlug s = true) ∧ plain (plain t) = plain t := by
  refine ⟨⟨fun h => ?_, plain_of_isSlug⟩, plain_of_isSlug (isSlug_plain t)⟩
  rw [← h]
  exact isSlug_plain s

end Slug
end LiveForm
