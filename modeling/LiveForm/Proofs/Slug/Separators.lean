import LiveForm.Proofs.Slug.FixedPoints

/-!
# Texts with a separator between them

A blank, a hyphen or an underscore ends a word.  So the words of two texts with a separator between
them are the words of the one and then those of the other, and the plain slugifier joins them.

Lower case alone could stand against it, as it looks at what is around a capital sigma.  But no form
of the sigma is a character of a slug: what a character leaves to the words, `keptOf`, depends on
nothing else.

* `lowerChar_of_isBlank`: blanks are left alone by lower case.
* `kept_lowercase`: a text leaves to the words what its characters leave.
* `plainWords_lowercase_separated`: a separator keeps the words of two texts apart.
* `plain_separated`: the main statement.
-/

namespace LiveForm

/-! ## Blanks in lower case -/

namespace Text

/-- The code points of the blanks outside ASCII. -/
def blanksBeyondAscii : List Nat :=
  [0x85, 0xA0, 0x1680, 0x2000, 0x2001, 0x2002, 0x2003, 0x2004, 0x2005, 0x2006, 0x2007, 0x2008,
    0x2009, 0x200A, 0x2028, 0x2029, 0x202F, 0x205F, 0x3000]

theorem ascii_or_mem_of_isBlank {c : Char} (h : isBlank c = true) :
    c.toNat < 65 ∨ c.toNat ∈ blanksBeyondAscii := by
  simp only [isBlank, Bool.or_eq_true, Bool.and_eq_true, decide_eq_true_eq, beq_iff_eq] at h
  simp only [blanksBeyondAscii, List.mem_cons, List.not_mem_nil, or_false]
  omega

/-- No blank is in the table of lower-case forms. -/
theorem find?_loweringRanges_of_mem : ∀ n ∈ blanksBeyondAscii,
    128 ≤ n ∧ loweringRanges.find? (·.covers n) = none := by
  decide +kernel

/-- **Blanks are left alone by lower case.** -/
theorem lowerChar_of_isBlank {c : Char} (h : isBlank c = true) : lowerChar c = c := by
  rcases ascii_or_mem_of_isBlank h with hascii | hmem
  · rw [lowerChar_of_ascii (Nat.lt_trans hascii (by decide))]
    exact toLower_of_not_isUpper (isUpper_eq_false_iff.2 (.inl hascii))
  · obtain ⟨hbeyond, hnone⟩ := find?_loweringRanges_of_mem c.toNat hmem
    rw [lowerChar, if_neg (Nat.not_lt.2 hbeyond), hnone]

theorem lowerIn_of_isBlank (before after : List Char) {c : Char} (h : isBlank c = true) :
    lowerIn before after c = [c] := by
  have hdotted : c ≠ '\u0130' := ne_of_apply_ne isBlank (by rw [h]; decide)
  have hsigma : c ≠ '\u03A3' := ne_of_apply_ne isBlank (by rw [h]; decide)
  rw [lowerIn, if_neg hdotted, if_neg hsigma, lowerChar_of_isBlank h]

end Text

namespace Slug

open Text

variable {a b cs : List Char} {w : Char} {l m : List (List Char)}

/-! ## What a character leaves -/

/-- What a character of a text leaves to its words. -/
def keptOf (c : Char) : List Char := ((lowerIn [] [] c).map blankToHyphen).filter isWordChar

/-- It does not depend on what stands around the character. -/
theorem kept_lowerIn (before after : List Char) (c : Char) :
    ((lowerIn before after c).map blankToHyphen).filter isWordChar = keptOf c := by
  unfold keptOf lowerIn
  split
  · rfl
  · split
    · -- both small forms of the sigma are dropped
      split <;> decide
    · rfl

theorem kept_lowerAfter (before cs : List Char) :
    ((lowerAfter before cs).map blankToHyphen).filter isWordChar = cs.flatMap keptOf := by
  induction cs generalizing before with
  | nil => rfl
  | cons c cs ih =>
    rw [lowerAfter, List.map_append, List.filter_append, kept_lowerIn, ih, List.flatMap_cons]

/-- **A text leaves to the words what its characters leave.** -/
theorem kept_lowercase (cs : List Char) :
    ((lowercase cs).map blankToHyphen).filter isWordChar = cs.flatMap keptOf :=
  kept_lowerAfter [] cs

theorem plainWords_lowercase (cs : List Char) :
    plainWords (lowercase cs) = runs isLetter (cs.flatMap keptOf) := by
  rw [plainWords, kept_lowercase]

/-- A separator leaves one character, and no letter. -/
theorem keptOf_of_isSeparator (hw : isSeparator w = true) :
    ∃ d, keptOf w = [d] ∧ isLetter d = false := by
  rw [isSeparator, Bool.or_eq_true, Bool.or_eq_true] at hw
  rcases hw with (hblank | hunderscore) | hhyphen
  · refine ⟨'-', ?_, by decide⟩
    rw [keptOf, lowerIn_of_isBlank [] [] hblank, List.map_singleton, blankToHyphen, if_pos hblank]
    rfl
  · rw [eq_of_beq hunderscore]
    exact ⟨'_', by decide +kernel, by decide⟩
  · rw [eq_hyphen_of_isHyphen hhyphen]
    exact ⟨'-', by decide +kernel, by decide⟩

/-! ## Words on both sides -/

/-- **A separator keeps the words of two texts apart.** -/
theorem plainWords_lowercase_separated (hw : isSeparator w = true) (a b : List Char) :
    plainWords (lowercase (a ++ w :: b)) =
      plainWords (lowercase a) ++ plainWords (lowercase b) := by
  obtain ⟨d, hkept, hd⟩ := keptOf_of_isSeparator hw
  rw [plainWords_lowercase, List.flatMap_append, List.flatMap_cons, hkept, List.singleton_append,
    runs_append_cons hd, plainWords_lowercase, plainWords_lowercase]

theorem plainChars_eq_nil_iff : plainChars cs = [] ↔ plainWords (lowercase cs) = [] := by
  constructor
  · intro h
    have hwords : runs isLetter (plainChars cs) = plainWords (lowercase cs) :=
      runs_plainPasses (lowercase cs)
    rw [← hwords, h, runs_nil]
  · intro h
    rw [plainChars_eq_joinWords, h]
    rfl

theorem joinWords_append (hl : l ≠ []) (hm : m ≠ []) :
    joinWords (l ++ m) = joinWords l ++ '-' :: joinWords m := by
  rw [joinWords, intercalate_append hl hm, List.append_assoc]
  rfl

theorem plainChars_separated (hw : isSeparator w = true) (a b : List Char) :
    plainChars (a ++ w :: b) =
      if plainChars b = [] then plainChars a
      else if plainChars a = [] then plainChars b
      else plainChars a ++ '-' :: plainChars b := by
  have hwords := plainWords_lowercase_separated hw a b
  simp only [plainChars_eq_nil_iff]
  rw [plainChars_eq_joinWords, hwords]
  split
  · next hb => rw [hb, List.append_nil, plainChars_eq_joinWords]
  · next hb =>
    split
    · next ha => rw [ha, List.nil_append, plainChars_eq_joinWords]
    · next ha =>
      rw [joinWords_append ha hb, plainChars_eq_joinWords, plainChars_eq_joinWords]

/-- **Separators become hyphens.**  The slug of two texts with a blank, a hyphen or an underscore
between them is the slug of the one, a hyphen and the slug of the other; if nothing of one of the
texts can stay, it is the slug of the other one. -/
theorem plain_separated (a b : String) (w : Char)
    (hw : isBlank w = true ∨ w = '-' ∨ w = '_') :
    plain (a ++ String.singleton w ++ b) =
      if plain b = "" then plain a
      else if plain a = "" then plain b
      else plain a ++ "-" ++ plain b := by
  have hseparator : isSeparator w = true := by
    rcases hw with hblank | rfl | rfl
    · rw [isSeparator, hblank, Bool.true_or, Bool.true_or]
    · decide
    · decide
  have hchars : (a ++ String.singleton w ++ b).toList = a.toList ++ w :: b.toList := by simp
  rw [← String.toList_inj, toList_plain, hchars, plainChars_separated hseparator]
  simp only [plain_eq_empty_iff]
  split
  · rw [toList_plain]
  · split
    · rw [toList_plain]
    · simp

theorem plain_separated_sigma :
    isBlank '\u3000' = true ∧
    plain ("ΟΔΟΣ A" ++ String.singleton '\u3000' ++ "Σ_B") = "a-b" ∧
    plain ("!Σ" ++ String.singleton '_' ++ "B") = "b" := by
  have hblank : isBlank '\u3000' = true := by decide
  refine ⟨hblank, ?_, ?_⟩
  · rw [plain_separated _ _ _ (.inl hblank)]
    decide +kernel
  · rw [plain_separated _ _ _ (.inr (.inr rfl))]
    decide +kernel

end Slug
end LiveForm
