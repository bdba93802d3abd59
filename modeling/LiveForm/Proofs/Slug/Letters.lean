import LiveForm.Proofs.Slug.Words

/-!
# Letters and their capitals

Slugs are made of `a` to `z`, `0` to `9` and hyphens, all of them characters of ASCII that lower
case leaves alone.  A text that is to become a slug may have capitals too.

* `isLetter_toLower`: the letters of slugs are what lower case makes of ASCII letters and digits.
* `runs_isAlphanum_map_toLower`: so runs of ASCII letters and digits are words once they are put in
  lower case, and it does not matter whether that is done before or after the runs are found.
* `toNat_lt_of_isSlugChar`, `map_toLower_of_isSlugChar`: what slugs are made of.
-/

namespace LiveForm
namespace Slug

open Text

variable {c : Char}

/-! ## Lower case -/

/-- The ASCII letters and digits are the letters of slugs and the capitals. -/
theorem isAlphanum_eq (c : Char) : c.isAlphanum = (c.isUpper || isLetter c) :=
  Bool.or_assoc c.isUpper c.isLower c.isDigit

theorem isAlphanum_of_isUpper (h : c.isUpper = true) : c.isAlphanum = true := by
  rw [isAlphanum_eq, h, Bool.true_or]

theorem isAlphanum_of_not_isUpper (h : c.isUpper = false) : c.isAlphanum = isLetter c := by
  rw [isAlphanum_eq, h, Bool.false_or]

theorem isAlphanum_of_isLetter (h : isLetter c = true) : c.isAlphanum = true := by
  rw [isAlphanum_eq, h, Bool.or_true]

theorem isAlphanum_eq_false_iff :
    c.isAlphanum = false ↔ c.isUpper = false ∧ isLetter c = false := by
  rw [isAlphanum_eq, Bool.or_eq_false_iff]

theorem isLetter_toLower_of_isUpper (h : c.isUpper = true) : isLetter c.toLower = true := by
  rw [isLetter_iff_toNat, toNat_toLower_of_isUpper h]
  rw [isUpper_iff_toNat] at h
  omega

/-- **In lower case the ASCII letters and digits are the letters of slugs.** -/
theorem isLetter_toLower (c : Char) : isLetter c.toLower = c.isAlphanum := by
  cases h : c.isUpper with
  | true => rw [isLetter_toLower_of_isUpper h, isAlphanum_of_isUpper h]
  | false => rw [toLower_of_not_isUpper h, isAlphanum_of_not_isUpper h]

/-- Runs of ASCII letters and digits, each put in lower case, are the words of the text in lower
case. -/
theorem runs_isAlphanum_map_toLower (cs : List Char) :
    (runs Char.isAlphanum cs).map (·.map Char.toLower) = runs isLetter (cs.map Char.toLower) := by
  rw [runs_map, runs_congr fun c _ => isLetter_toLower c]

/-! ## The characters of slugs -/

theorem eq_hyphen_of_isHyphen (h : isHyphen c = true) : c = '-' :=
  eq_of_beq h

/-- Slugs are in ASCII. -/
theorem toNat_lt_of_isSlugChar (h : isSlugChar c = true) : c.toNat < 128 := by
  rw [isSlugChar, Bool.or_eq_true, isLetter_iff_toNat] at h
  rcases h with h | h
  · omega
  · rw [eq_hyphen_of_isHyphen h]
    decide

theorem isSlugChar_of_isLetter (h : isLetter c = true) : isSlugChar c = true := by
  rw [isSlugChar, h, Bool.true_or]

theorem isLetter_eq_not_isHyphen (h : isSlugChar c = true) : isLetter c = !isHyphen c := by
  cases hh : isHyphen c with
  | true => exact not_isLetter_of_isHyphen hh
  | false => exact isLetter_of_isSlugChar h hh

theorem isWordChar_of_isAlphanum (h : c.isAlphanum = true) : isWordChar c = true := by
  rw [isWordChar, h, Bool.true_or, Bool.true_or]

theorem toNat_lt_of_isAlphanum (h : c.isAlphanum = true) : c.toNat < 128 := by
  cases hu : c.isUpper with
  | true => exact Nat.lt_of_le_of_lt (isUpper_iff_toNat.1 hu).2 (by decide)
  | false =>
    rw [isAlphanum_of_not_isUpper hu] at h
    exact toNat_lt_of_isSlugChar (isSlugChar_of_isLetter h)

/-- Lower case does not lead out of ASCII. -/
theorem toNat_toLower_lt (h : c.toNat < 128) : c.toLower.toNat < 128 := by
  cases hu : c.isUpper with
  | true => exact toNat_lt_of_isSlugChar (isSlugChar_of_isLetter (isLetter_toLower_of_isUpper hu))
  | false => rwa [toLower_of_not_isUpper hu]

theorem not_isUpper_of_isSlugChar (h : isSlugChar c = true) : c.isUpper = false := by
  rw [isSlugChar, Bool.or_eq_true, isLetter_iff_toNat] at h
  rcases h with h | h
  · rw [isUpper_eq_false_iff]
    omega
  · rw [eq_hyphen_of_isHyphen h]
    decide

/-- Slugs are in lower case. -/
theorem map_toLower_of_isSlugChar {cs : List Char} (h : ∀ c ∈ cs, isSlugChar c = true) :
    cs.map Char.toLower = cs :=
  (List.map_congr_left fun c hc =>
    toLower_of_not_isUpper (not_isUpper_of_isSlugChar (h c hc))).trans (List.map_id cs)

end Slug
end LiveForm
