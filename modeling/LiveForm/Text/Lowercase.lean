import LiveForm.Text.CaseTable

/-!
# Lower case

`lowercase` is full lower-casing in the sense of Unicode.  Every character has a lower-case form
of its own, `lowerChar`, with two exceptions: the dotted capital I becomes two characters, and a
capital sigma becomes a final sigma where it ends a word (`endsWord`).
-/

namespace LiveForm
namespace Text

/-! ## One character -/

/-- The lower-case form of a character that has a single one whatever stands around it. -/
def lowerChar (c : Char) : Char :=
  if c.toNat < 128 then c.toLower
  else match loweringRanges.find? (·.covers c.toNat) with
    | some r => r.lower c.toNat
    | none => c

/-- Inside ASCII only the capital letters change. -/
theorem lowerChar_of_ascii {c : Char} (h : c.toNat < 128) : lowerChar c = c.toLower := by
  simp [lowerChar, h]

/-- The capitals of ASCII, by their code points. -/
theorem isUpper_eq_false_iff {c : Char} : c.isUpper = false ↔ c.toNat < 65 ∨ 90 < c.toNat := by
  have h : c.isUpper = decide (65 ≤ c.toNat ∧ c.toNat ≤ 90) := rfl
  rw [h, decide_eq_false_iff_not]
  omega

theorem isUpper_iff_toNat {c : Char} : c.isUpper = true ↔ 65 ≤ c.toNat ∧ c.toNat ≤ 90 := by
  rw [← Bool.not_eq_false, isUpper_eq_false_iff, not_or, Nat.not_lt, Nat.not_lt]

theorem toLower_of_not_isUpper {c : Char} (h : c.isUpper = false) : c.toLower = c :=
  dif_neg (of_decide_eq_false h)

/-- The small letters of ASCII stand 32 places behind the capitals. -/
theorem toNat_toLower_of_isUpper {c : Char} (h : c.isUpper = true) :
    c.toLower.toNat = c.toNat + 32 := by
  have hlast : c.val.toNat ≤ 90 := (isUpper_iff_toNat.1 h).2
  have hlower : c.toLower.toNat = (c.val + 32).toNat :=
    congrArg Char.toNat (dif_pos (of_decide_eq_true h))
  rw [hlower, UInt32.toNat_add]
  exact Nat.mod_eq_of_lt (Nat.lt_of_le_of_lt (Nat.add_le_add_right hlast 32) (by decide))

/-- Lower-casing inside ASCII leaves no capital. -/
theorem isUpper_toLower (c : Char) : c.toLower.isUpper = false := by
  cases h : c.isUpper with
  | true =>
    rw [isUpper_eq_false_iff, toNat_toLower_of_isUpper h]
    rw [isUpper_iff_toNat] at h
    omega
  | false => rwa [toLower_of_not_isUpper h]

/-- A code point above the capitals is no capital; one that stands for no character counts as
zero. -/
theorem isUpper_ofNat {n : Nat} (h : 91 ≤ n) : (Char.ofNat n).isUpper = false := by
  by_cases hv : n.isValidChar
  · have hc : Char.ofNat n = Char.ofNatAux n hv := dif_pos hv
    have hn : (Char.ofNatAux n hv).toNat = n := rfl
    rw [isUpper_eq_false_iff, hc, hn]
    omega
  · have hc : Char.ofNat n = '\x00' := dif_neg hv
    rw [hc]
    decide

/-- What the table gives lies above the ASCII capitals. -/
theorem loweringRanges_above : ∀ r ∈ loweringRanges, 91 ≤ (r.first : Int) + r.shift := by
  decide +kernel

theorem LoweringRange.isUpper_lower {r : LoweringRange} {n : Nat} (hr : r ∈ loweringRanges)
    (hn : r.covers n = true) : (r.lower n).isUpper = false := by
  have h := loweringRanges_above r hr
  have hf : r.first ≤ n := by
    simp only [LoweringRange.covers, Bool.and_eq_true, decide_eq_true_eq] at hn
    exact hn.1.1
  have hm : 91 ≤ ((n : Int) + r.shift).toNat := by omega
  exact isUpper_ofNat hm

/-- The lower-case form of a character is no ASCII capital. -/
theorem isUpper_lowerChar (c : Char) : (lowerChar c).isUpper = false := by
  unfold lowerChar
  split
  · exact isUpper_toLower c
  · split
    · next r hr =>
      exact LoweringRange.isUpper_lower (List.mem_of_find?_eq_some hr)
        (by simpa using List.find?_some hr)
    · next h _ =>
      rw [isUpper_eq_false_iff]
      omega

/-! ## The end of a word -/

/-- A character with a case. -/
def isCased (c : Char) : Bool := inRanges casedRanges c

/-- A character that is passed over when the case of its neighbours is looked at. -/
def isCaseIgnorable (c : Char) : Bool := inRanges caseIgnorableRanges c

/-- Whether the first character that is not passed over has a case. -/
def startsCased (cs : List Char) : Bool :=
  match cs.dropWhile isCaseIgnorable with
  | c :: _ => isCased c
  | [] => false

/-- Whether a letter between `before`, read backwards, and `after` is the last one of a word. -/
def endsWord (before after : List Char) : Bool :=
  startsCased before && !startsCased after

/-! ## A whole text -/

/-- The lower-case form of `c` between `before`, read backwards, and `after`. -/
def lowerIn (before after : List Char) (c : Char) : List Char :=
  if c = '\u0130' then ['i', '\u0307']
  else if c = '\u03A3' then [if endsWord before after then '\u03C2' else '\u03C3']
  else [lowerChar c]

/-- The lower-case form of a text that follows `before`, read backwards. -/
def lowerAfter (before : List Char) : List Char → List Char
  | [] => []
  | c :: cs => lowerIn before cs c ++ lowerAfter (c :: before) cs

/-- Full lower-casing of a text. -/
def lowercase (cs : List Char) : List Char :=
  lowerAfter [] cs

@[simp] theorem lowercase_nil : lowercase [] = [] := rfl

theorem isUpper_of_mem_lowerIn {before after : List Char} {c d : Char}
    (h : d ∈ lowerIn before after c) : d.isUpper = false := by
  unfold lowerIn at h
  split at h
  · simp only [List.mem_cons, List.not_mem_nil, or_false] at h
    rcases h with rfl | rfl <;> decide
  · split at h
    · rw [List.mem_singleton] at h
      split at h <;> subst h <;> decide
    · rw [List.mem_singleton] at h
      exact h ▸ isUpper_lowerChar c

theorem isUpper_of_mem_lowerAfter {before cs : List Char} {d : Char}
    (h : d ∈ lowerAfter before cs) : d.isUpper = false := by
  induction cs generalizing before with
  | nil => simp [lowerAfter] at h
  | cons c cs ih =>
    rcases List.mem_append.1 h with h | h
    · exact isUpper_of_mem_lowerIn h
    · exact ih h

/-- A text in lower case holds no ASCII capital. -/
theorem isUpper_of_mem_lowercase {cs : List Char} {d : Char} (h : d ∈ lowercase cs) :
    d.isUpper = false :=
  isUpper_of_mem_lowerAfter h

/-! ## Texts in ASCII -/

theorem lowerIn_of_ascii (before after : List Char) {c : Char} (h : c.toNat < 128) :
    lowerIn before after c = [c.toLower] := by
  have hdotted : c ≠ '\u0130' := by
    rintro rfl
    revert h
    decide
  have hsigma : c ≠ '\u03A3' := by
    rintro rfl
    revert h
    decide
  rw [lowerIn, if_neg hdotted, if_neg hsigma, lowerChar_of_ascii h]

theorem lowerAfter_of_ascii (before : List Char) {cs : List Char} (h : ∀ c ∈ cs, c.toNat < 128) :
    lowerAfter before cs = cs.map Char.toLower := by
  induction cs generalizing before with
  | nil => rfl
  | cons c cs ih =>
    rw [lowerAfter, lowerIn_of_ascii before cs (h c (.head _)),
      ih (c :: before) fun d hd => h d (.tail _ hd)]
    rfl

/-- A text in ASCII is put in lower case character by character. -/
theorem lowercase_of_ascii {cs : List Char} (h : ∀ c ∈ cs, c.toNat < 128) :
    lowercase cs = cs.map Char.toLower :=
  lowerAfter_of_ascii [] h

end Text
end LiveForm
