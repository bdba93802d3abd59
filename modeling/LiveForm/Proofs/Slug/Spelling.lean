import LiveForm.Proofs.Slug.Letters
import LiveForm.Slug.Ascii

/-!
# The words of the transliterating slugifier

The transliterating slugifier cuts a text at punctuation, spells every piece, squeezes what is no
letter into hyphens and cuts again at these.  Its words are there without any of this: they are the
runs of ASCII letters and digits of the whole text, spelled in ASCII.

* `letterOrHyphen_eq`: a character of the spelling is put in lower case, or it is a hyphen.
* `pieceWords_eq_runs`: squeezing and cutting at hyphens finds the runs of one piece.
* `asciiWords_eq_runs`: cutting at punctuation first makes no difference.
* `ascii_joins_runs_of_spelling`: all of it together, for every table of spellings, every text and
  every delimiter.
-/

namespace LiveForm
namespace Slug

open Text

variable {c : Char} {cs : List Char}

/-! ## One character of a spelling -/

/-- In place of a letter or digit stands its lower case, and a hyphen in place of all else. -/
theorem letterOrHyphen_eq (c : Char) :
    letterOrHyphen c = if c.isAlphanum then c.toLower else '-' := by
  rw [letterOrHyphen, isAlphanum_eq]
  cases hl : isLetter c with
  | true =>
    have hu : c.isUpper = false := not_isUpper_of_isSlugChar (isSlugChar_of_isLetter hl)
    rw [hu, toLower_of_not_isUpper hu]
    rfl
  | false =>
    rw [Bool.or_false]
    rfl

theorem isSlugChar_letterOrHyphen (c : Char) : isSlugChar (letterOrHyphen c) = true := by
  rw [letterOrHyphen_eq]
  split
  · next h => exact isSlugChar_of_isLetter ((isLetter_toLower c).trans h)
  · decide

/-- Outside letters it does not matter what stands for a character. -/
theorem isLetter_letterOrHyphen (c : Char) : isLetter (letterOrHyphen c) = isLetter c.toLower ∧
    (isLetter (letterOrHyphen c) = true → letterOrHyphen c = c.toLower) := by
  rw [letterOrHyphen_eq]
  split
  · exact ⟨rfl, fun _ => rfl⟩
  · next h =>
    have hjoin : isLetter '-' = false := by decide
    rw [hjoin, isLetter_toLower, Bool.eq_false_iff.2 h]
    exact ⟨rfl, fun h => Bool.noConfusion h⟩

/-! ## One piece -/

theorem runs_dropLastHyphen (cs : List Char) :
    runs (fun c => !isHyphen c) (dropLastHyphen cs) = runs (fun c => !isHyphen c) cs := by
  unfold dropLastHyphen
  split
  · next hlast =>
    rcases List.eq_nil_or_concat cs with rfl | ⟨front, c, rfl⟩
    · rfl
    · rw [List.concat_eq_append] at hlast ⊢
      rw [List.getLast?_concat, Option.any_some] at hlast
      rw [List.dropLast_concat]
      exact (runs_append_of_forall_right (by simpa using hlast) front).symm
  · rfl

/-- The words of a piece are the runs of letters of its spelling in lower case. -/
theorem pieceWords_eq_runs (table : Spellings) (piece : List Char) :
    pieceWords table piece = runs isLetter ((transliterate table piece).map Char.toLower) := by
  have hhyphen : ∀ c, isHyphen c = true → (!isHyphen c) = false := fun c h => by rw [h]; rfl
  calc pieceWords table piece
      = runs (fun c => !isHyphen c) (hyphenatedSpelling table piece) := by
        simp only [pieceWords, runs, Bool.not_not]
    _ = runs (fun c => !isHyphen c) ((transliterate table piece).map letterOrHyphen) := by
        -- the text starts inside a run of hyphens, so that none is written in front
        rw [hyphenatedSpelling, runs_dropLastHyphen]
        exact (runs_append_squeezeFrom hhyphen (by decide) _).2
    _ = runs isLetter ((transliterate table piece).map letterOrHyphen) := by
        rw [runs_map, runs_map,
          runs_congr fun c _ => isLetter_eq_not_isHyphen (isSlugChar_letterOrHyphen c)]
    _ = runs isLetter ((transliterate table piece).map Char.toLower) :=
        runs_map_congr fun c _ => isLetter_letterOrHyphen c

/-! ## The whole text -/

/-- Punctuation is its own spelling, and there is no letter in it. -/
theorem spell_of_isPunctuation (table : Spellings) (h : isPunctuation c = true) :
    spell table c = [c] ∧ c.isAlphanum = false := by
  have hmarks : (punctuation.all fun d => decide (d.toNat < 128) && !d.isAlphanum) = true := by
    decide
  have hc := List.all_eq_true.1 hmarks c (List.contains_iff_mem.1 h)
  rw [Bool.and_eq_true, decide_eq_true_eq, Bool.not_eq_true'] at hc
  exact ⟨spell_of_ascii table hc.1, hc.2⟩

/-- **Cutting at punctuation makes no difference to the words**, as punctuation is its own spelling
and lies between words anyway. -/
theorem asciiWords_eq_runs (table : Spellings) (cs : List Char) :
    asciiWords table cs =
      runs isLetter ((transliterate table (lowercase cs)).map Char.toLower) := by
  have hgap : ∀ c, isPunctuation c = true →
      (spell table c).map Char.toLower ≠ [] ∧
        ∀ d ∈ (spell table c).map Char.toLower, isLetter d = false := by
    intro c h
    obtain ⟨hspell, hc⟩ := spell_of_isPunctuation table h
    rw [hspell, List.map_singleton, List.forall_mem_singleton, isLetter_toLower]
    exact ⟨List.cons_ne_nil _ _, hc⟩
  have hpiece : ∀ piece, pieceWords table piece =
      runs isLetter (piece.flatMap fun c => (spell table c).map Char.toLower) := by
    intro piece
    rw [pieceWords_eq_runs, transliterate, List.map_flatMap]
  rw [asciiWords, funext hpiece, flatMap_runs_pieces hgap, transliterate, List.map_flatMap]

theorem asciiWords_eq_spelledWords (table : Spellings) (cs : List Char) :
    asciiWords table cs = spelledWords table cs := by
  rw [asciiWords_eq_runs, spelledWords, runs_isAlphanum_map_toLower]

/-- A word is not empty and made of letters. -/
theorem of_mem_asciiWords {table : Spellings} {w : List Char} (h : w ∈ asciiWords table cs) :
    w ≠ [] ∧ ∀ c ∈ w, isLetter c = true := by
  rw [asciiWords_eq_runs] at h
  exact of_mem_runs h

/-- **The transliterating slugifier joins words that do not depend on the delimiter.**  They are the
runs of ASCII letters and digits that are left, in lower case, when every character of the text in
lower case that lies outside ASCII is spelled, or becomes a hyphen if it has no spelling. -/
theorem ascii_joins_runs_of_spelling (table : Spellings) (s : String) :
    ∃ words : List (List Char),
      words = (runs Char.isAlphanum ((lowercase s.toList).flatMap fun c =>
        if c.toNat < 128 then [c] else ((table c).map String.toList).getD ['-'])).map
          (·.map Char.toLower) ∧
      (∀ w ∈ words, w ≠ [] ∧ ∀ c ∈ w, isLetter c = true) ∧
      ∀ delimiter : String,
        asciiBy table delimiter s = String.ofList (List.intercalate delimiter.toList words) := by
  have hspell : spell table = fun c =>
      if c.toNat < 128 then [c] else ((table c).map String.toList).getD ['-'] := by
    funext c
    rw [spell]
    cases table c <;> rfl
  refine ⟨asciiWords table s.toList, ?_, fun _ => of_mem_asciiWords, fun _ => rfl⟩
  rw [asciiWords_eq_spelledWords, spelledWords, transliterate, hspell]

example : ascii "+" "Þórr & Ægir: 1/2 Ω" = "thorr+aegir+1+2+o" := by decide +kernel

end Slug
end LiveForm
