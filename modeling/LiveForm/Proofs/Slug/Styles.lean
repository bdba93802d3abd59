import LiveForm.Proofs.Slug.FixedPoints
import LiveForm.Proofs.Slug.Spelling

/-!
# The two styles of slugs

Both slugifiers find words and join them.  In ASCII nothing is to be spelled, and the words of the
transliterating slugifier are the runs of letters and digits.  That ties it to itself, when what it
made is slugified again, and to the plain slugifier.

* `asciiWords_of_ascii`: the words of a text in ASCII.
* `asciiWords_intercalate`: words joined by characters of ASCII that are no letters are found again.
* `ascii_gives_slugs_to_be_rejoined`: joined by hyphens the words are a slug, and joined by any
  such delimiter they can be joined anew by another one.
* `ascii_agrees_with_plain`: on texts in ASCII the two styles differ only in what they make of
  punctuation.
-/

namespace LiveForm
namespace Slug

open Text

variable {cs : List Char} {words : List (List Char)}

/-! ## Texts in ASCII -/

/-- The words of a text in ASCII are its runs of letters and digits, in lower case. -/
theorem asciiWords_of_ascii (table : Spellings) (h : ∀ c ∈ cs, c.toNat < 128) :
    asciiWords table cs = runs isLetter (cs.map Char.toLower) := by
  have hlower : ∀ d ∈ cs.map Char.toLower, d.toNat < 128 :=
    List.forall_mem_map.2 fun c hc => toNat_toLower_lt (h c hc)
  rw [asciiWords_eq_runs, lowercase_of_ascii h, transliterate_of_ascii table hlower, List.map_map]
  exact congrArg (runs isLetter)
    (List.map_congr_left fun c _ => toLower_of_not_isUpper (isUpper_toLower c))

/-! ## Slugifying once more -/

/-- Words joined by what is in ASCII and no letter are found again. -/
theorem asciiWords_intercalate (table : Spellings) {gap : List Char} (hne : gap ≠ [])
    (hgap : ∀ c ∈ gap, c.toNat < 128 ∧ c.isAlphanum = false)
    (hwords : ∀ w ∈ words, w ≠ [] ∧ ∀ c ∈ w, isLetter c = true) :
    asciiWords table (List.intercalate gap words) = words := by
  have hletter : ∀ c ∈ gap, isLetter c = false := fun c hc =>
    (isAlphanum_eq_false_iff.1 (hgap c hc).2).2
  -- neither the gap nor a word has a capital, so lower case leaves the whole text alone
  have hascii : ∀ c ∈ List.intercalate gap words, c.toNat < 128 ∧ c.toLower = c := by
    refine forall_mem_intercalate (fun c hc => ⟨(hgap c hc).1, ?_⟩) fun w hw c hc => ?_
    · exact toLower_of_not_isUpper (isAlphanum_eq_false_iff.1 (hgap c hc).2).1
    · have hslug : isSlugChar c = true := isSlugChar_of_isLetter ((hwords w hw).2 c hc)
      exact ⟨toNat_lt_of_isSlugChar hslug,
        toLower_of_not_isUpper (not_isUpper_of_isSlugChar hslug)⟩
  rw [asciiWords_of_ascii table fun c hc => (hascii c hc).1,
    List.map_congr_left fun c hc => (hascii c hc).2, List.map_id',
    runs_intercalate hne hletter hwords]

/-- The plain slugifier leaves words joined by hyphens alone. -/
theorem plainChars_joinWords (hwords : ∀ w ∈ words, w ≠ [] ∧ ∀ c ∈ w, isLetter c = true) :
    plainChars (joinWords words) = joinWords words := by
  have hslug : ∀ c ∈ joinWords words, isSlugChar c = true := by
    refine forall_mem_intercalate ?_ fun w hw c hc => isSlugChar_of_isLetter ((hwords w hw).2 c hc)
    rw [List.forall_mem_singleton]
    decide
  have hjoin : ∀ c ∈ ['-'], isLetter c = false := by
    rw [List.forall_mem_singleton]
    decide
  rw [plainChars_of_isSlugChar hslug]
  exact congrArg joinWords (runs_intercalate (List.cons_ne_nil _ _) hjoin hwords)

theorem plain_asciiBy_hyphen (table : Spellings) (s : String) :
    plain (asciiBy table "-" s) = asciiBy table "-" s := by
  rw [← String.toList_inj, toList_plain, toList_asciiBy]
  exact plainChars_joinWords fun _ => of_mem_asciiWords

/-- **Joined by hyphens the words of a text are a slug, and the delimiter can be changed
afterwards.**  What the transliterating slugifier makes with hyphens is empty or read as a slug, and
the plain slugifier leaves it alone.  What it makes with any delimiter of ASCII characters that are
no letters or digits can be slugified again with another one, as if that had been taken from the
beginning. -/
theorem ascii_gives_slugs_to_be_rejoined (table : Spellings) (s : String) :
    (asciiBy table "-" s = "" ∨
      ∃ slug, parse (asciiBy table "-" s) = .ok slug ∧ slug.text = asciiBy table "-" s) ∧
    plain (asciiBy table "-" s) = asciiBy table "-" s ∧
    ∀ first second : String, first ≠ "" →
      (∀ c ∈ first.toList, c.toNat < 128 ∧ c.isAlphanum = false) →
      asciiBy table second (asciiBy table first s) = asciiBy table second s := by
  have hplain : plain (asciiBy table "-" s) = asciiBy table "-" s := plain_asciiBy_hyphen table s
  refine ⟨?_, hplain, fun first second hne hfirst => ?_⟩
  · rcases isSlug_plain (asciiBy table "-" s) with h | h
    · exact .inl (hplain.symm.trans h)
    · rw [hplain] at h
      exact .inr ⟨_, parse_of_fault?_eq_none (isSlug_iff.1 h), rfl⟩
  · have hgap : first.toList ≠ [] := fun h => hne (String.toList_inj.1 h)
    have hwords : asciiWords table (asciiBy table first s).toList = asciiWords table s.toList := by
      rw [toList_asciiBy]
      exact asciiWords_intercalate table hgap hfirst fun _ => of_mem_asciiWords
    rw [asciiBy, asciiChars, hwords]
    rfl

theorem ascii_gives_slugs_to_be_rejoined_symbols :
    (":~\x01+" ≠ "" ∧ ∀ c ∈ ":~\x01+".toList, c.toNat < 128 ∧ c.isAlphanum = false) ∧
    asciiBy asciiForm? ":~\x01+" "Öl & Straße: 日本" = "ol:~\x01+strasse:~\x01+ri:~\x01+ben" ∧
    asciiBy asciiForm? "_" "ol:~\x01+strasse:~\x01+ri:~\x01+ben" = "ol_strasse_ri_ben" := by
  have hne : ":~\x01+" ≠ "" := by decide
  have hgap : ∀ c ∈ ":~\x01+".toList, c.toNat < 128 ∧ c.isAlphanum = false := by simp
  have hfirst : asciiBy asciiForm? ":~\x01+" "Öl & Straße: 日本" =
      "ol:~\x01+strasse:~\x01+ri:~\x01+ben" := by decide +kernel
  have hsecond : asciiBy asciiForm? "_" "Öl & Straße: 日本" = "ol_strasse_ri_ben" := by
    decide +kernel
  refine ⟨⟨hne, hgap⟩, hfirst, ?_⟩
  rw [← hfirst, ← hsecond]
  exact (ascii_gives_slugs_to_be_rejoined asciiForm? "Öl & Straße: 日本").2.2 ":~\x01+" "_" hne hgap

/-! ## Both styles on texts in ASCII -/

/-- Taking what is no letter or digit for a hyphen changes no word. -/
theorem plainChars_hyphenated (h : ∀ c ∈ cs, c.toNat < 128) :
    plainChars (cs.map fun c => if c.isAlphanum then c else '-') =
      joinWords (runs isLetter (cs.map Char.toLower)) := by
  have hkept : ∀ d ∈ cs.map fun c => if c.isAlphanum then c else '-',
      d.toNat < 128 ∧ isWordChar d = true := by
    refine List.forall_mem_map.2 fun c hc => ?_
    split
    · next hletter => exact ⟨h c hc, isWordChar_of_isAlphanum hletter⟩
    · decide
  -- in lower case it is what the transliterating slugifier makes of each character
  have hlower : (cs.map fun c => if c.isAlphanum then c else '-').map Char.toLower =
      cs.map letterOrHyphen := by
    rw [List.map_map]
    refine List.map_congr_left fun c _ => ?_
    rw [letterOrHyphen_eq, Function.comp_apply]
    split <;> rfl
  rw [plainChars_of_ascii (fun d hd => (hkept d hd).1) fun d hd => .inl (hkept d hd).2, hlower]
  exact congrArg joinWords (runs_map_congr fun c _ => isLetter_letterOrHyphen c)

/-- A letter or digit, a blank of ASCII, a hyphen or an underscore is in ASCII and not dropped. -/
theorem kept_of_isAlphanum_or_mem {c : Char} (h : c.isAlphanum = true ∨
    c ∈ ['\t', '\n', '\x0b', '\x0c', '\r', ' ', '-', '_']) :
    c.toNat < 128 ∧ (isWordChar c = true ∨ isBlank c = true) := by
  rcases h with h | h
  · exact ⟨toNat_lt_of_isAlphanum h, .inl (isWordChar_of_isAlphanum h)⟩
  · simp only [List.mem_cons, List.not_mem_nil, or_false] at h
    rcases h with rfl | rfl | rfl | rfl | rfl | rfl | rfl | rfl <;> decide

/-- **On texts in ASCII the transliterating slugifier is the plain one with every character that is
no letter or digit taken for a hyphen.**  So the two agree on texts of letters, digits, blanks,
hyphens and underscores. -/
theorem ascii_agrees_with_plain (table : Spellings) (s : String) :
    ((∀ c ∈ s.toList, c.toNat < 128) →
      asciiBy table "-" s =
        plain (String.ofList (s.toList.map fun c => if c.isAlphanum then c else '-'))) ∧
    ((∀ c ∈ s.toList, c.isAlphanum = true ∨
        c ∈ ['\t', '\n', '\x0b', '\x0c', '\r', ' ', '-', '_']) →
      plain s = asciiBy table "-" s) := by
  have hascii : (∀ c ∈ s.toList, c.toNat < 128) →
      (asciiBy table "-" s).toList = joinWords (runs isLetter (s.toList.map Char.toLower)) := by
    intro h
    rw [toList_asciiBy]
    exact congrArg joinWords (asciiWords_of_ascii table h)
  refine ⟨fun h => ?_, fun h => ?_⟩
  · rw [← String.toList_inj, hascii h, toList_plain, String.toList_ofList, plainChars_hyphenated h]
  · have hkept := fun c hc => kept_of_isAlphanum_or_mem (h c hc)
    rw [← String.toList_inj, toList_plain, hascii fun c hc => (hkept c hc).1,
      plainChars_of_ascii (fun c hc => (hkept c hc).1) fun c hc => (hkept c hc).2]

theorem ascii_agrees_with_plain_titles :
    (∀ c ∈ "Tom's (2nd) C++ app~".toList, c.toNat < 128) ∧
    (∀ c ∈ "Snake_Case\tand\x0bMORE--2\n".toList, c.isAlphanum = true ∨
      c ∈ ['\t', '\n', '\x0b', '\x0c', '\r', ' ', '-', '_']) ∧
    asciiBy asciiForm? "-" "Tom's (2nd) C++ app~" = "tom-s-2nd-c-app" ∧
    plain "Tom-s--2nd--C---app-" = "tom-s-2nd-c-app" ∧
    plain "Snake_Case\tand\x0bMORE--2\n" = "snake-case-and-more-2" ∧
    asciiBy asciiForm? "-" "Snake_Case\tand\x0bMORE--2\n" = "snake-case-and-more-2" := by
  have hascii : ∀ c ∈ "Tom's (2nd) C++ app~".toList, c.toNat < 128 := by simp
  have hplain : ∀ c ∈ "Snake_Case\tand\x0bMORE--2\n".toList, c.isAlphanum = true ∨
      c ∈ ['\t', '\n', '\x0b', '\x0c', '\r', ' ', '-', '_'] := by simp
  have hhyphens : plain "Tom-s--2nd--C---app-" = "tom-s-2nd-c-app" := by decide +kernel
  have hsnake : plain "Snake_Case\tand\x0bMORE--2\n" = "snake-case-and-more-2" := by
    decide +kernel
  refine ⟨hascii, hplain, ?_, hhyphens, hsnake, ?_⟩
  · exact ((ascii_agrees_with_plain asciiForm? "Tom's (2nd) C++ app~").1 hascii).trans hhyphens
  · rw [← hsnake]
    exact ((ascii_agrees_with_plain asciiForm? "Snake_Case\tand\x0bMORE--2\n").2 hplain).symm

end Slug
end LiveForm
