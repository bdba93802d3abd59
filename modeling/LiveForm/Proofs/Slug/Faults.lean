import Mathlib.Data.String.Basic
import LiveForm.Proofs.Slug.Letters
import LiveForm.Proofs.Slug.Validity

/-!
# Which rule a text breaks first

Reading a slug looks at characters, ends and neighbours, one rule after the other.  Together these
tests say that a text is a list of words, and each fault tells what the text is like.

* `firstForeign_eq_some_iff`: the first character that no slug has, and where it stands.
* `faultOf?_eq_none_iff`: a text breaks no rule exactly if it is a list of words.
* `Fault.FoundIn`, `faultOf?_eq_some_iff`: what a text is like in which a fault is found first.
* `parse_follows_grammar`: the main statement.
-/

namespace LiveForm
namespace Slug

open Text

variable {c : Char} {cs w rest front : List Char} {s : String} {fault : Fault} {byte place : Nat}

/-! ## Places -/

/-- A character of a slug takes one byte. -/
theorem utf8Size_of_isSlugChar (h : isSlugChar c = true) : c.utf8Size = 1 := by
  have hcode : c.val.toNat = c.toNat := rfl
  have hascii : c.toNat < 128 := toNat_lt_of_isSlugChar h
  refine Char.utf8Size_eq_one_iff.2 (UInt32.le_iff_toNat_le.2 ?_)
  rw [hcode]
  exact Nat.le_of_lt_succ hascii

/-- Over the characters of slugs bytes and characters are counted alike. -/
theorem utf8ByteSize_of_isSlugChar (h : ∀ c ∈ front, isSlugChar c = true) :
    (String.ofList front).utf8ByteSize = front.length := by
  induction front with
  | nil => rfl
  | cons c front ih =>
    rw [List.forall_mem_cons] at h
    have ih := ih h.2
    rw [String.utf8ByteSize_ofList] at ih ⊢
    rw [String.utf8Len_cons, ih, utf8Size_of_isSlugChar h.1, List.length_cons]

/-- **The first foreign character** stands behind characters of slugs only, and its byte is their
number. -/
theorem firstForeign_eq_some_iff :
    firstForeign byte cs = some (c, place) ↔ ∃ front back, cs = front ++ c :: back ∧
      (∀ d ∈ front, isSlugChar d = true) ∧ isSlugChar c = false ∧ place = byte + front.length := by
  induction cs generalizing byte with
  | nil => simp [firstForeign]
  | cons d cs ih =>
    by_cases hd : isSlugChar d = true
    · rw [firstForeign, if_pos hd, utf8Size_of_isSlugChar hd, ih]
      constructor
      · rintro ⟨front, back, rfl, hfront, hc, rfl⟩
        refine ⟨d :: front, back, rfl, List.forall_mem_cons.2 ⟨hd, hfront⟩, hc, ?_⟩
        rw [List.length_cons]
        omega
      · rintro ⟨front, back, hcs, hfront, hc, rfl⟩
        cases front with
        | nil =>
          obtain rfl := (List.cons.inj hcs).1
          rw [hd] at hc
          cases hc
        | cons a front =>
          rw [List.forall_mem_cons] at hfront
          refine ⟨front, back, (List.cons.inj hcs).2, hfront.2, hc, ?_⟩
          rw [List.length_cons]
          omega
    · rw [firstForeign, if_neg hd, Option.some_inj, Prod.mk.injEq]
      constructor
      · rintro ⟨rfl, rfl⟩
        exact ⟨[], cs, rfl, by simp, Bool.eq_false_iff.2 hd, rfl⟩
      · rintro ⟨front, back, hcs, hfront, hc, rfl⟩
        cases front with
        | nil => exact ⟨(List.cons.inj hcs).1, rfl⟩
        | cons a front =>
          obtain rfl := (List.cons.inj hcs).1
          exact absurd (hfront d (.head _)) hd

/-! ## Hyphens -/

theorem any_isHyphen_iff {o : Option Char} : o.any isHyphen = true ↔ o = some '-' := by
  cases o with
  | none => simp
  | some c => simp [isHyphen]

/-- A text has a hyphen at one of its ends. -/
theorem hasEdgeHyphen_iff :
    (cs.head?.any isHyphen || cs.getLast?.any isHyphen) = true ↔
      cs.head? = some '-' ∨ cs.getLast? = some '-' := by
  rw [Bool.or_eq_true, any_isHyphen_iff, any_isHyphen_iff]

theorem hasDoubleHyphen_iff : hasDoubleHyphen cs = true ↔ ['-', '-'] <:+: cs := by
  induction cs with
  | nil => simp [hasDoubleHyphen]
  | cons c cs ih =>
    have hfront : ['-', '-'] <+: c :: cs ↔ c = '-' ∧ cs.head? = some '-' := by
      rw [List.cons_prefix_cons, eq_comm]
      cases cs with
      | nil => simp
      | cons d cs => simp [eq_comm]
    rw [hasDoubleHyphen, Bool.or_eq_true, Bool.and_eq_true, any_isHyphen_iff, ih,
      List.infix_cons_iff, hfront, isHyphen, beq_iff_eq]

theorem not_isHyphen_of_isLetter (h : isLetter c = true) : isHyphen c = false := by
  have hnot : isLetter c = !isHyphen c := isLetter_eq_not_isHyphen (isSlugChar_of_isLetter h)
  rwa [h, eq_comm, Bool.not_eq_true'] at hnot

/-- Letters in front make no double hyphen. -/
theorem hasDoubleHyphen_letters_append (hw : ∀ c ∈ w, isLetter c = true) (rest : List Char) :
    hasDoubleHyphen (w ++ rest) = hasDoubleHyphen rest := by
  induction w with
  | nil => rfl
  | cons c w ih =>
    rw [List.forall_mem_cons] at hw
    rw [List.cons_append, hasDoubleHyphen, not_isHyphen_of_isLetter hw.1, Bool.false_and,
      Bool.false_or, ih hw.2]

/-- A word does not begin with a hyphen, whatever follows it. -/
theorem head?_letters_append (hne : w ≠ []) (hw : ∀ c ∈ w, isLetter c = true) (rest : List Char) :
    (w ++ rest).head?.any isHyphen = false := by
  obtain ⟨c, w, rfl⟩ := List.exists_cons_of_ne_nil hne
  exact not_isHyphen_of_isLetter (hw c (.head _))

/-! ## Texts without a fault -/

theorem faultOf?_word (hne : w ≠ []) (hw : ∀ c ∈ w, isLetter c = true) : faultOf? w = none := by
  have hlast : w.getLast?.any isHyphen = false := by
    rw [List.getLast?_eq_some_getLast hne]
    exact not_isHyphen_of_isLetter (hw _ (List.getLast_mem hne))
  have hhead := head?_letters_append hne hw []
  have hdouble := hasDoubleHyphen_letters_append hw []
  rw [List.append_nil] at hhead hdouble
  exact faultOf?_eq_none hne (fun c hc => isSlugChar_of_isLetter (hw c hc)) hhead hlast hdouble

/-- A word and a hyphen in front of a text without a fault make none. -/
theorem faultOf?_word_append (hne : w ≠ []) (hw : ∀ c ∈ w, isLetter c = true)
    (hrest : faultOf? rest = none) : faultOf? (w ++ '-' :: rest) = none := by
  obtain ⟨hrestne, hchars, hhead, hlast, hdouble⟩ := conditions_of_faultOf?_eq_none hrest
  obtain ⟨d, rest, rfl⟩ := List.exists_cons_of_ne_nil hrestne
  refine faultOf?_eq_none (by simp [hne]) ?_ (head?_letters_append hne hw _) ?_ ?_
  · rw [List.forall_mem_append, List.forall_mem_cons]
    exact ⟨fun c hc => isSlugChar_of_isLetter (hw c hc), by decide, hchars⟩
  · rwa [List.getLast?_append_cons, List.getLast?_cons_cons]
  · rw [hasDoubleHyphen_letters_append hw, hasDoubleHyphen, hhead, Bool.and_false, Bool.false_or]
    exact hdouble

theorem Grammatical.faultOf?_eq_none (h : Grammatical cs) : faultOf? cs = none := by
  induction h with
  | word hne hw => exact faultOf?_word hne hw
  | join hne hw _ ih => exact faultOf?_word_append hne hw ih

/-- **A text breaks no rule exactly if it is a list of words joined by hyphens.** -/
theorem faultOf?_eq_none_iff : faultOf? cs = none ↔ Grammatical cs :=
  ⟨grammatical_of_faultOf?_eq_none, Grammatical.faultOf?_eq_none⟩

/-- Word by word, or as a list of words. -/
theorem grammatical_iff_exists_words :
    Grammatical cs ↔ ∃ words : List (List Char), words ≠ [] ∧
      (∀ w ∈ words, w ≠ [] ∧ ∀ c ∈ w, isLetter c = true) ∧ cs = joinWords words := by
  constructor
  · exact fun h => ⟨runs isLetter cs, h.runs_ne_nil, fun _ => of_mem_runs, h.joinWords_runs.symm⟩
  · rintro ⟨words, hne, hwords, rfl⟩
    induction words with
    | nil => exact absurd rfl hne
    | cons w words ih =>
      rw [List.forall_mem_cons] at hwords
      obtain ⟨⟨hw, hletters⟩, hrest⟩ := hwords
      cases words with
      | nil =>
        rw [joinWords, List.intercalate_singleton]
        exact .word hw hletters
      | cons v words =>
        rw [joinWords, List.intercalate_cons_cons, List.append_assoc]
        exact .join hw hletters (ih (List.cons_ne_nil _ _) hrest)

/-! ## Texts with a fault -/

/-- What a text is like in which a fault is found first. -/
def Fault.FoundIn (cs : List Char) : Fault → Prop
  | .empty => cs = []
  | .invalidChar c byte => ∃ front back, cs = front ++ c :: back ∧
      (∀ d ∈ front, isSlugChar d = true) ∧ isSlugChar c = false ∧
      byte = (String.ofList front).utf8ByteSize ∧ byte = front.length
  | .edgeHyphen => cs ≠ [] ∧ (∀ c ∈ cs, isSlugChar c = true) ∧
      (cs.head? = some '-' ∨ cs.getLast? = some '-')
  | .doubleHyphen => cs ≠ [] ∧ (∀ c ∈ cs, isSlugChar c = true) ∧
      ¬ (cs.head? = some '-' ∨ cs.getLast? = some '-') ∧ ['-', '-'] <:+: cs

theorem foundIn_of_faultOf?_eq_some (h : faultOf? cs = some fault) : fault.FoundIn cs := by
  unfold faultOf? at h
  split at h
  · next hnil =>
    obtain rfl := Option.some.inj h
    exact hnil
  · next hne =>
    split at h
    · next c byte hforeign =>
      obtain rfl := Option.some.inj h
      obtain ⟨front, back, hcs, hfront, hc, hbyte⟩ := firstForeign_eq_some_iff.1 hforeign
      rw [Nat.zero_add] at hbyte
      exact ⟨front, back, hcs, hfront, hc, hbyte.trans (utf8ByteSize_of_isSlugChar hfront).symm,
        hbyte⟩
    · next hforeign =>
      have hchars : ∀ c ∈ cs, isSlugChar c = true := firstForeign_eq_none_iff.1 hforeign
      split at h
      · next hedge =>
        obtain rfl := Option.some.inj h
        exact ⟨hne, hchars, hasEdgeHyphen_iff.1 hedge⟩
      · next hedge =>
        split at h
        · next hdouble =>
          obtain rfl := Option.some.inj h
          exact ⟨hne, hchars, mt hasEdgeHyphen_iff.2 hedge, hasDoubleHyphen_iff.1 hdouble⟩
        · cases h

theorem faultOf?_of_foundIn (h : fault.FoundIn cs) : faultOf? cs = some fault := by
  cases fault with
  | empty => exact if_pos h
  | invalidChar c byte =>
    obtain ⟨front, back, hcs, hfront, hc, -, hbyte⟩ := h
    have hne : cs ≠ [] := by simp [hcs]
    have hforeign : firstForeign 0 cs = some (c, byte) :=
      firstForeign_eq_some_iff.2 ⟨front, back, hcs, hfront, hc, by rw [hbyte, Nat.zero_add]⟩
    rw [faultOf?, if_neg hne, hforeign]
  | edgeHyphen =>
    obtain ⟨hne, hchars, hedge⟩ := h
    rw [faultOf?, if_neg hne, firstForeign_eq_none_iff.2 hchars]
    exact if_pos (hasEdgeHyphen_iff.2 hedge)
  | doubleHyphen =>
    obtain ⟨hne, hchars, hedge, hdouble⟩ := h
    rw [faultOf?, if_neg hne, firstForeign_eq_none_iff.2 hchars]
    exact (if_neg (mt hasEdgeHyphen_iff.1 hedge)).trans (if_pos (hasDoubleHyphen_iff.2 hdouble))

/-- **The fault of a text is the one that is found in it first.** -/
theorem faultOf?_eq_some_iff : faultOf? cs = some fault ↔ fault.FoundIn cs :=
  ⟨foundIn_of_faultOf?_eq_some, faultOf?_of_foundIn⟩

/-- The fault that is left over: no other one is found, and the text is no list of words either. -/
theorem foundIn_doubleHyphen_iff :
    Fault.doubleHyphen.FoundIn cs ↔ cs ≠ [] ∧ (∀ c ∈ cs, isSlugChar c = true) ∧
      ¬ (cs.head? = some '-' ∨ cs.getLast? = some '-') ∧ ¬ Grammatical cs := by
  constructor
  · rintro ⟨hne, hchars, hedge, hdouble⟩
    have hfound : Fault.doubleHyphen.FoundIn cs := ⟨hne, hchars, hedge, hdouble⟩
    refine ⟨hne, hchars, hedge, fun hwords => ?_⟩
    have hnone := hwords.faultOf?_eq_none
    rw [faultOf?_of_foundIn hfound] at hnone
    cases hnone
  · rintro ⟨hne, hchars, hedge, hwords⟩
    obtain ⟨fault, hfault⟩ := Option.ne_none_iff_exists'.1 (mt faultOf?_eq_none_iff.1 hwords)
    have hfound := foundIn_of_faultOf?_eq_some hfault
    cases fault with
    | empty => exact absurd hfound hne
    | invalidChar c byte =>
      obtain ⟨front, back, rfl, -, hc, -⟩ := hfound
      have hslug := hchars c (by simp)
      rw [hc] at hslug
      cases hslug
    | edgeHyphen => exact absurd hfound.2.2 hedge
    | doubleHyphen => exact hfound

/-! ## Reading -/

theorem parse_eq_error_iff_foundIn : parse s = .error fault ↔ fault.FoundIn s.toList :=
  parse_eq_error_iff.trans faultOf?_eq_some_iff

theorem exists_parse_eq_ok_iff : (∃ slug, parse s = .ok slug) ↔ Grammatical s.toList := by
  rw [← faultOf?_eq_none_iff]
  constructor
  · rintro ⟨slug, h⟩
    exact (parse_eq_ok_iff.1 h).1
  · exact fun h => ⟨⟨s, h⟩, parse_of_fault?_eq_none h⟩

/-- **Reading follows the grammar.**  A text is read as a slug exactly if it is a list of words over
`a` to `z` and `0` to `9`, joined by single hyphens.  Otherwise the fault is that the text is empty;
or its first foreign character, with the byte it starts at, which is also its place since all
characters in front take one byte; or a hyphen at an end, if there is no foreign character; and if
none of these, there are two hyphens side by side. -/
theorem parse_follows_grammar (s : String) :
    ((∃ slug, parse s = .ok slug) ↔ ∃ words : List (List Char), words ≠ [] ∧
      (∀ w ∈ words, w ≠ [] ∧ ∀ c ∈ w, isLetter c = true) ∧ s.toList = joinWords words) ∧
    (parse s = .error .empty ↔ s = "") ∧
    (∀ c byte, parse s = .error (.invalidChar c byte) ↔ ∃ front back,
      s.toList = front ++ c :: back ∧ (∀ d ∈ front, isSlugChar d = true) ∧ isSlugChar c = false ∧
      byte = (String.ofList front).utf8ByteSize ∧ byte = front.length) ∧
    (parse s = .error .edgeHyphen ↔ s ≠ "" ∧ (∀ c ∈ s.toList, isSlugChar c = true) ∧
      (s.toList.head? = some '-' ∨ s.toList.getLast? = some '-')) ∧
    (parse s = .error .doubleHyphen ↔ s ≠ "" ∧ (∀ c ∈ s.toList, isSlugChar c = true) ∧
      ¬ (s.toList.head? = some '-' ∨ s.toList.getLast? = some '-') ∧ ['-', '-'] <:+: s.toList) ∧
    (parse s = .error .doubleHyphen ↔ s ≠ "" ∧ (∀ c ∈ s.toList, isSlugChar c = true) ∧
      ¬ (s.toList.head? = some '-' ∨ s.toList.getLast? = some '-') ∧
      ∀ slug, parse s ≠ .ok slug) := by
  have hempty : s = "" ↔ s.toList = [] := String.toList_eq_nil_iff.symm
  have hrefused : (∀ slug, parse s ≠ .ok slug) ↔ ¬ Grammatical s.toList := by
    rw [← exists_parse_eq_ok_iff, not_exists]
  rw [exists_parse_eq_ok_iff, hempty, Ne, hempty, hrefused]
  exact ⟨grammatical_iff_exists_words, parse_eq_error_iff_foundIn,
    fun c byte => parse_eq_error_iff_foundIn, parse_eq_error_iff_foundIn,
    parse_eq_error_iff_foundIn, parse_eq_error_iff_foundIn.trans foundIn_doubleHyphen_iff⟩

example : parse "snake_case" = .error (.invalidChar '_' 5) := by decide

end Slug
end LiveForm
