import LiveForm.Proofs.Text.Runs
import LiveForm.Slug.Plain

/-!
# Slugs by words

The plain slugifier goes over a text in passes.  What comes out can be said without them: it is the
words of the text, joined by single hyphens.

* `grammatical_of_faultOf?_eq_none`: a text without a fault is a list of words.
* `joinWords_runs`: joining the words of such a text gives it back.
* `runs_plainPasses`: no pass makes, drops or changes a word.
* `plain_eq_joined_words`: the two together, for every text.
-/

namespace LiveForm
namespace Slug

open Text

variable {c : Char} {cs : List Char}

/-! ## A text without a fault is a list of words -/

/-- What a text is that breaks no rule. -/
theorem conditions_of_faultOf?_eq_none (h : faultOf? cs = none) :
    cs ≠ [] ∧ (∀ c ∈ cs, isSlugChar c = true) ∧ cs.head?.any isHyphen = false ∧
      cs.getLast?.any isHyphen = false ∧ hasDoubleHyphen cs = false := by
  unfold faultOf? at h
  split at h
  · cases h
  · next hne =>
    split at h
    · cases h
    · next hforeign =>
      split at h
      · cases h
      · next hedge =>
        split at h
        · cases h
        · next hdouble =>
          rw [Bool.not_eq_true, Bool.or_eq_false_iff] at hedge
          rw [Bool.not_eq_true] at hdouble
          exact ⟨hne, firstForeign_eq_none_iff.1 hforeign, hedge.1, hedge.2, hdouble⟩

/-- The letters of slugs by their code points. -/
theorem isLetter_iff_toNat :
    isLetter c = true ↔ 97 ≤ c.toNat ∧ c.toNat ≤ 122 ∨ 48 ≤ c.toNat ∧ c.toNat ≤ 57 := by
  have hcodes : isLetter c = (decide (97 ≤ c.toNat) && decide (c.toNat ≤ 122) ||
      (decide (48 ≤ c.toNat) && decide (c.toNat ≤ 57))) := rfl
  rw [hcodes]
  simp only [Bool.or_eq_true, Bool.and_eq_true, decide_eq_true_eq]

theorem isLetter_of_isSlugChar (h : isSlugChar c = true) (hc : isHyphen c = false) :
    isLetter c = true := by
  rwa [isSlugChar, hc, Bool.or_false] at h

theorem not_isLetter_of_isSeparator (h : isSeparator c = true) : isLetter c = false := by
  rw [isSeparator, Bool.or_eq_true, Bool.or_eq_true] at h
  rcases h with (h | h) | h
  · simp only [isBlank, Bool.or_eq_true, Bool.and_eq_true, decide_eq_true_eq, beq_iff_eq] at h
    rw [Bool.eq_false_iff, Ne, isLetter_iff_toNat]
    omega
  · rw [eq_of_beq h]
    decide
  · rw [isHyphen] at h
    rw [eq_of_beq h]
    decide

/-- Behind a hyphen a text without a fault goes on with another one. -/
theorem faultOf?_behind_hyphen {w rest : List Char} (h : faultOf? (w ++ '-' :: rest) = none) :
    faultOf? rest = none := by
  obtain ⟨-, hchars, -, hlast, hdouble⟩ := conditions_of_faultOf?_eq_none h
  have hbehind : hasDoubleHyphen ('-' :: rest) = false := hasDoubleHyphen_of_append_right hdouble
  have hhyphen : isHyphen '-' = true := by decide
  rw [hasDoubleHyphen, Bool.or_eq_false_iff, hhyphen, Bool.true_and] at hbehind
  rw [List.getLast?_append_cons] at hlast
  cases rest with
  | nil => cases hlast
  | cons a rest =>
    rw [List.getLast?_cons_cons] at hlast
    exact faultOf?_eq_none (List.cons_ne_nil _ _)
      (fun c hc => hchars c (List.mem_append_right _ (.tail _ hc))) hbehind.1 hlast hbehind.2

/-- **A text without a fault is a list of words joined by hyphens.**  By induction on its length:
behind the first word there is nothing, or a hyphen and a shorter text without a fault. -/
theorem grammatical_of_faultOf?_eq_none {cs : List Char} (h : faultOf? cs = none) :
    Grammatical cs := by
  obtain ⟨hne, hchars, hhead, -⟩ := conditions_of_faultOf?_eq_none h
  have hsplit : cs.takeWhile isLetter ++ cs.dropWhile isLetter = cs :=
    List.takeWhile_append_dropWhile
  have hword : ∀ c ∈ cs.takeWhile isLetter, isLetter c = true := fun c => List.mem_takeWhile_imp
  have hfirst : cs.takeWhile isLetter ≠ [] := by
    obtain ⟨a, r, rfl⟩ := List.exists_cons_of_ne_nil hne
    have ha : isLetter a = true :=
      isLetter_of_isSlugChar (hchars a (.head _)) (by simpa using hhead)
    simp [ha]
  cases hrest : cs.dropWhile isLetter with
  | nil =>
    rw [hrest, List.append_nil] at hsplit
    rw [← hsplit]
    exact .word hfirst hword
  | cons d rest =>
    rw [hrest] at hsplit
    have hd : isHyphen d = true := by
      have hletter : isLetter d = false := not_of_head_dropWhile hrest
      have hslug : isSlugChar d = true := hchars d (by rw [← hsplit]; simp)
      rwa [isSlugChar, hletter, Bool.false_or] at hslug
    obtain rfl : d = '-' := by simpa [isHyphen] using hd
    have hshorter : rest.length < cs.length := by
      rw [← hsplit, List.length_append, List.length_cons]
      omega
    have hfault : faultOf? rest = none := faultOf?_behind_hyphen (hsplit.symm ▸ h)
    rw [← hsplit]
    exact .join hfirst hword (grammatical_of_faultOf?_eq_none hfault)
termination_by cs.length

/-! ## The words of a slug -/

theorem runs_isLetter_append_hyphen (w rest : List Char) :
    runs isLetter (w ++ '-' :: rest) = runs isLetter w ++ runs isLetter rest :=
  runs_append_cons (by decide) w rest

theorem Grammatical.runs_ne_nil (h : Grammatical cs) : runs isLetter cs ≠ [] := by
  cases h with
  | word hne hword => simp [runs_of_forall hne hword]
  | join hne hword hrest => simp [runs_isLetter_append_hyphen, runs_of_forall hne hword]

/-- The words of a list of words, joined, are that list. -/
theorem Grammatical.joinWords_runs (h : Grammatical cs) : joinWords (runs isLetter cs) = cs := by
  induction h with
  | word hne hword => simp [runs_of_forall hne hword, joinWords]
  | @join w rest hne hword hrest ih =>
    obtain ⟨v, vs, hv⟩ := List.exists_cons_of_ne_nil hrest.runs_ne_nil
    rw [hv, joinWords] at ih
    rw [runs_isLetter_append_hyphen, runs_of_forall hne hword, hv, List.singleton_append, joinWords,
      List.intercalate_cons_cons, ih, List.append_assoc, List.singleton_append]

/-- A text that is empty or breaks no rule is its words, joined. -/
theorem joinWords_runs (h : cs ≠ [] → faultOf? cs = none) : joinWords (runs isLetter cs) = cs := by
  by_cases hne : cs = []
  · rw [hne]
    rfl
  · exact (grammatical_of_faultOf?_eq_none (h hne)).joinWords_runs

/-! ## The passes keep the words -/

theorem not_isLetter_of_isBlank (h : isBlank c = true) : isLetter c = false :=
  not_isLetter_of_isSeparator (by rw [isSeparator, h, Bool.true_or, Bool.true_or])

theorem not_isLetter_of_isHyphen (h : isHyphen c = true) : isLetter c = false :=
  not_isLetter_of_isSeparator (by rw [isSeparator, h, Bool.or_true])

/-- Whether a run of blanks becomes one hyphen or every blank becomes one, the words are the same,
also when other characters are dropped then. -/
theorem runs_filter_squeezeFrom (cs : List Char) :
    (∀ front, runs isLetter (front ++ (squeezeFrom isBlank '-' false cs).filter isWordChar) =
        runs isLetter (front ++ (cs.map blankToHyphen).filter isWordChar)) ∧
      runs isLetter ((squeezeFrom isBlank '-' true cs).filter isWordChar) =
        runs isLetter ((cs.map blankToHyphen).filter isWordChar) := by
  have hhyphen : isWordChar '-' = true := by decide
  induction cs with
  | nil => exact ⟨fun _ => rfl, rfl⟩
  | cons c cs ih =>
    obtain ⟨ihopen, ihinside⟩ := ih
    by_cases hc : isBlank c = true
    · obtain ⟨htrue, hfalse⟩ := squeezeFrom_cons_of_pos hc '-' cs
      have hmap : (((c :: cs).map blankToHyphen).filter isWordChar) =
          '-' :: (cs.map blankToHyphen).filter isWordChar := by
        rw [List.map_cons, blankToHyphen, if_pos hc, List.filter_cons_of_pos hhyphen]
      refine ⟨fun front => ?_, ?_⟩
      · rw [hfalse, List.filter_cons_of_pos hhyphen, hmap, runs_isLetter_append_hyphen,
          runs_isLetter_append_hyphen, ihinside]
      · rw [htrue, hmap, ihinside]
        exact (runs_isLetter_append_hyphen [] _).symm
    · rw [Bool.not_eq_true] at hc
      have hkeep : blankToHyphen c = c := by rw [blankToHyphen, hc]; rfl
      rw [squeezeFrom_cons_of_neg hc, squeezeFrom_cons_of_neg hc, List.map_cons, hkeep]
      by_cases hw : isWordChar c = true
      · rw [List.filter_cons_of_pos hw, List.filter_cons_of_pos hw]
        refine ⟨fun front => ?_, ihopen [c]⟩
        rw [List.append_cons, ihopen, ← List.append_cons]
      · rw [List.filter_cons_of_neg hw, List.filter_cons_of_neg hw]
        exact ⟨ihopen, ihopen []⟩

/-- **No pass makes, drops or changes a word.** -/
theorem runs_plainPasses (lower : List Char) :
    runs isLetter (plainPasses lower) = plainWords lower := by
  have hhyphen : ∀ c, isHyphen c = true → isLetter c = false := fun _ => not_isLetter_of_isHyphen
  have hseparator : ∀ c, isSeparator c = true → isLetter c = false :=
    fun _ => not_isLetter_of_isSeparator
  have hjoin : isLetter '-' = false := by decide
  unfold plainPasses
  simp only
  rw [runs_strip hhyphen, runs_squeeze hseparator hjoin, runs_strip hhyphen,
    runs_squeeze hhyphen hjoin]
  exact (runs_filter_squeezeFrom lower).1 []

/-! ## The slugifier without passes -/

/-- Without capitals the word characters are the slug characters and the underscore. -/
theorem isWordChar_of_not_isUpper (h : c.isUpper = false) :
    isWordChar c = (isSlugChar c || c == '_') := by
  have ha : c.isAlphanum = (c.isUpper || c.isLower || c.isDigit) := rfl
  rw [isWordChar, ha, h, Bool.false_or, isSlugChar, isLetter, Bool.or_right_comm]

theorem isUpper_blankToHyphen (h : c.isUpper = false) : (blankToHyphen c).isUpper = false := by
  unfold blankToHyphen
  split
  · decide
  · exact h

/-- **The plain slugifier joins words by hyphens.**  The words of a text are the runs of `a` to `z`
and `0` to `9` that are left when the text is put in lower case, blanks count as hyphens and all
characters but these, the hyphen and the underscore are taken away. -/
theorem plain_eq_joined_words (s : String) :
    plain s = String.ofList (joinWords (runs isLetter
      (((lowercase s.toList).map blankToHyphen).filter fun c => isSlugChar c || c == '_'))) := by
  have hwords : plainWords (lowercase s.toList) = runs isLetter
      (((lowercase s.toList).map blankToHyphen).filter fun c => isSlugChar c || c == '_') := by
    refine congrArg (runs isLetter) (List.filter_congr fun c hc => ?_)
    obtain ⟨d, hd, rfl⟩ := List.mem_map.1 hc
    exact isWordChar_of_not_isUpper (isUpper_blankToHyphen (isUpper_of_mem_lowercase hd))
  rw [← hwords, ← runs_plainPasses]
  exact congrArg String.ofList (joinWords_runs faultOf?_plainChars).symm

example : plain "  Hello, World!_Foo--Bar " = "hello-world-foo-bar" := by decide +kernel

end Slug
end LiveForm
