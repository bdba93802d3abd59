import LiveForm.Proofs.Results
import LiveForm.Proofs.Text.Trimming
import LiveForm.Selector.Parser

/-!
# Reading with more text behind

What a reading step makes of a text it still makes of it when more text follows, unless the text
ends in a name and the name goes on.  So a text of simple selectors behind a compound is read as if
it stood alone (`Compound.read_append`), and nothing but a name or a simple selector can follow a
compound (`Compound.not_parse_append`).
-/

namespace LiveForm
namespace Selector

open Text

variable {cs more rest : List Char}

/-! ## Characters -/

/-- The characters with which simple selectors begin. -/
def startsSimple (c : Char) : Bool := c == '#' || c == '.' || c == '['

theorem isNameChar_of_startsSimple {c : Char} (h : startsSimple c = true) :
    isNameChar c = false := by
  simp only [startsSimple, Bool.or_eq_true, beq_iff_eq] at h
  rcases h with (rfl | rfl) | rfl <;> decide

/-- Blanks are no part of names. -/
theorem isNameChar_of_isBlank {c : Char} (h : isBlank c = true) : isNameChar c = false := by
  rw [← Bool.not_eq_true]
  intro hn
  have hcodes : isNameChar c = (decide (65 ≤ c.toNat ∧ c.toNat ≤ 90) ||
      (decide (97 ≤ c.toNat) && decide (c.toNat ≤ 122)) ||
      (decide (48 ≤ c.toNat) && decide (c.toNat ≤ 57)) || c == '-' || c == '_') := rfl
  simp only [hcodes, Bool.or_eq_true, Bool.and_eq_true, decide_eq_true_eq, beq_iff_eq] at hn
  rcases hn with (hn | rfl) | rfl
  · simp only [isBlank, Bool.or_eq_true, Bool.and_eq_true, decide_eq_true_eq, beq_iff_eq] at h
    omega
  · revert h
    decide
  · revert h
    decide

theorem startsSimple_of_isBlank {c : Char} (h : isBlank c = true) : startsSimple c = false := by
  rw [← Bool.not_eq_true]
  intro hs
  simp only [startsSimple, Bool.or_eq_true, beq_iff_eq] at hs
  rcases hs with (rfl | rfl) | rfl <;> revert h <;> decide

/-! ## Names and attribute tests -/

theorem readName_eq_ok_iff {name : String} :
    readName cs = .ok (name, rest) ↔ cs.takeWhile isNameChar ≠ [] ∧
      String.ofList (cs.takeWhile isNameChar) = name ∧ cs.dropWhile isNameChar = rest := by
  unfold readName
  split
  · next h => simp [h]
  · next h => simp [h]

/-- A name is read as it was, unless it ends with the text and goes on behind it. -/
theorem readName_append {name : String} (h : readName cs = .ok (name, rest))
    (hm : rest ≠ [] ∨ BeginsOutside isNameChar more) :
    readName (cs ++ more) = .ok (name, rest ++ more) := by
  rw [readName_eq_ok_iff] at h ⊢
  obtain ⟨hne, hname, hrest⟩ := h
  rw [← hrest] at hm
  rw [takeWhile_append hm, dropWhile_append hm, hrest]
  exact ⟨hne, hname, rfl⟩

theorem readClosing_append {test t : AttributeTest} (h : readClosing test cs = .ok (t, rest)) :
    readClosing test (cs ++ more) = .ok (t, rest ++ more) := by
  unfold readClosing at h
  split at h
  · obtain ⟨rfl, rfl⟩ := Prod.mk.inj (Except.ok.inj h)
    rfl
  · cases h

theorem readValue_of_isQuote (name : String) {c : Char} (hc : isQuote c = true) (cs : List Char) :
    readValue name (c :: cs) =
      match cs.dropWhile (· != c) with
      | [] => .error ⟨.unterminated, []⟩
      | _ :: rest => readClosing ⟨name, some (String.ofList (cs.takeWhile (· != c)))⟩ rest :=
  if_pos hc

theorem readValue_of_not_isQuote (name : String) {c : Char} (hc : isQuote c = false)
    (cs : List Char) :
    readValue name (c :: cs) =
      readClosing ⟨name, some (String.ofList ((c :: cs).takeWhile (· != ']')))⟩
        ((c :: cs).dropWhile (· != ']')) :=
  if_neg (by rw [hc]; decide)

/-- The end of a value is marked, so nothing behind it counts. -/
theorem readValue_append {name : String} {t : AttributeTest}
    (h : readValue name cs = .ok (t, rest)) :
    readValue name (cs ++ more) = .ok (t, rest ++ more) := by
  cases cs with
  | nil => cases h
  | cons c cs =>
    by_cases hc : isQuote c = true
    · rw [readValue_of_isQuote name hc] at h
      rw [List.cons_append, readValue_of_isQuote name hc]
      cases hd : cs.dropWhile (· != c) with
      | nil =>
        rw [hd] at h
        cases h
      | cons quote tail =>
        have hinside : cs.dropWhile (· != c) ≠ [] := by rw [hd]; exact List.cons_ne_nil _ _
        rw [hd] at h
        rw [takeWhile_append (.inl hinside), dropWhile_append (.inl hinside), hd]
        exact readClosing_append h
    · rw [Bool.not_eq_true] at hc
      rw [readValue_of_not_isQuote name hc] at h
      rw [List.cons_append, readValue_of_not_isQuote name hc, ← List.cons_append]
      have hinside : (c :: cs).dropWhile (· != ']') ≠ [] := by
        intro hd
        rw [hd] at h
        cases h
      rw [takeWhile_append (.inl hinside), dropWhile_append (.inl hinside)]
      exact readClosing_append h

/-- The end of an attribute test is marked, so nothing behind it counts. -/
theorem readAttribute_append {t : AttributeTest} (h : readAttribute cs = .ok (t, rest)) :
    readAttribute (cs ++ more) = .ok (t, rest ++ more) := by
  obtain ⟨⟨name, tail⟩, hn, h⟩ := bind_eq_ok_iff.1 h
  have hinside : tail ≠ [] := by
    rintro rfl
    cases h
  refine bind_eq_ok_iff.2 ⟨(name, tail ++ more), readName_append hn (.inl hinside), ?_⟩
  simp only at h
  split at h
  · obtain ⟨rfl, rfl⟩ := Prod.mk.inj (Except.ok.inj h)
    rfl
  · exact readValue_append h
  · cases h
  · cases h

/-! ## Simple selectors -/

theorem map_eq_ok_iff {α β : Type} {x : Except Halt (α × List Char)} {f : α → β} {b : β} :
    (x.map fun (a, r) => (f a, r)) = .ok (b, rest) ↔ ∃ a, x = .ok (a, rest) ∧ f a = b := by
  cases x with
  | error halt => simp [Except.map]
  | ok r =>
    obtain ⟨a, r⟩ := r
    simp only [Except.map, Except.ok.injEq, Prod.mk.injEq]
    constructor
    · rintro ⟨hf, hr⟩
      exact ⟨a, ⟨rfl, hr⟩, hf⟩
    · rintro ⟨a', ⟨ha, hr⟩, hf⟩
      exact ⟨by rw [ha, hf], hr⟩

/-- A simple selector is read as it was, unless it ends in a name that goes on behind it. -/
theorem readSimple_append {c : Char} {s : Simple} (h : readSimple c cs = .ok (s, rest))
    (hm : rest ≠ [] ∨ BeginsOutside isNameChar more) :
    readSimple c (cs ++ more) = .ok (s, rest ++ more) := by
  unfold readSimple at h ⊢
  split at h
  · next hc =>
    obtain ⟨name, hn, hs⟩ := map_eq_ok_iff.1 h
    rw [if_pos hc]
    exact map_eq_ok_iff.2 ⟨name, readName_append hn hm, hs⟩
  · next hc =>
    rw [if_neg hc]
    split at h
    · next hc =>
      obtain ⟨name, hn, hs⟩ := map_eq_ok_iff.1 h
      rw [if_pos hc]
      exact map_eq_ok_iff.2 ⟨name, readName_append hn hm, hs⟩
    · next hc =>
      rw [if_neg hc]
      split at h
      · next hc =>
        obtain ⟨test, ht, hs⟩ := map_eq_ok_iff.1 h
        rw [if_pos hc]
        exact map_eq_ok_iff.2 ⟨test, readAttribute_append ht, hs⟩
      · split at h <;> cases h

/-- Only the characters of `startsSimple` begin a simple selector. -/
theorem startsSimple_of_readSimple {c : Char} {s : Simple}
    (h : readSimple c cs = .ok (s, rest)) : startsSimple c = true := by
  unfold readSimple at h
  split at h
  · next hc => rw [hc]; rfl
  · split at h
    · next hc => rw [hc]; rfl
    · split at h
      · next hc => rw [hc]; rfl
      · split at h <;> cases h

@[simp] theorem readSimples_nil : readSimples [] = .ok [] := by
  rw [readSimples]

theorem readSimples_cons_of_ok {c : Char} {s : Simple} (h : readSimple c cs = .ok (s, rest)) :
    readSimples (c :: cs) = (readSimples rest).map (s :: ·) := by
  rw [readSimples]
  split
  · next hn => rw [h] at hn; cases hn
  · next hn =>
    rw [h] at hn
    obtain ⟨rfl, rfl⟩ := Prod.mk.inj (Except.ok.inj hn)
    rfl

theorem readSimples_cons_of_error {c : Char} {halt : Halt} (h : readSimple c cs = .error halt) :
    readSimples (c :: cs) = .error halt := by
  rw [readSimples]
  split
  · next hn =>
    rw [h] at hn
    rw [Except.error.inj hn]
  · next hn =>
    rw [h] at hn
    cases hn

/-- A text of simple selectors is empty, or one simple selector and such a text behind it. -/
theorem readSimples_cons_eq_ok_iff {c : Char} {ss : List Simple} :
    readSimples (c :: cs) = .ok ss ↔ ∃ s rest tail, readSimple c cs = .ok (s, rest) ∧
      readSimples rest = .ok tail ∧ s :: tail = ss := by
  constructor
  · intro h
    cases hc : readSimple c cs with
    | error halt =>
      rw [readSimples] at h
      split at h
      · cases h
      · next hn => rw [hc] at hn; cases hn
    | ok r =>
      obtain ⟨s, rest⟩ := r
      rw [readSimples_cons_of_ok hc] at h
      cases ht : readSimples rest with
      | error halt => rw [ht] at h; cases h
      | ok tail =>
        rw [ht] at h
        exact ⟨s, rest, tail, rfl, ht, Except.ok.inj h⟩
  · rintro ⟨s, rest, tail, hc, ht, rfl⟩
    rw [readSimples_cons_of_ok hc, ht]
    rfl

/-- Simple selectors are read as they were, and those behind them go on. -/
theorem readSimples_append (hm : BeginsOutside isNameChar more) :
    ∀ {cs : List Char} {ss : List Simple}, readSimples cs = .ok ss →
      readSimples (cs ++ more) = (readSimples more).map (ss ++ ·)
  | [], ss, h => by
    rw [readSimples_nil] at h
    obtain rfl := Except.ok.inj h
    rw [List.nil_append]
    cases readSimples more <;> rfl
  | c :: cs, ss, h => by
    obtain ⟨s, rest, tail, hc, ht, rfl⟩ := readSimples_cons_eq_ok_iff.1 h
    have hlen := length_readSimple hc
    rw [List.cons_append, readSimples_cons_of_ok (readSimple_append hc (.inr hm)),
      readSimples_append hm ht]
    cases readSimples more <;> rfl
termination_by cs => cs.length
decreasing_by simp only [List.length_cons]; omega

/-! ## Heads -/

theorem readHead_cons_of_ne {c : Char} (hc : c ≠ '*') (cs : List Char) :
    readHead (c :: cs) =
      if (c :: cs).takeWhile isNameChar = [] then (none, c :: cs)
      else (some (String.ofList ((c :: cs).takeWhile isNameChar)),
        (c :: cs).dropWhile isNameChar) := by
  unfold readHead
  split
  · next h => exact absurd (List.cons.inj h).1 hc
  · rfl

/-- A text that begins with a simple selector has no head. -/
theorem readHead_of_startsSimple {c : Char} (hc : startsSimple c = true) (cs : List Char) :
    readHead (c :: cs) = (none, c :: cs) := by
  have hne : c ≠ '*' := by
    rintro rfl
    revert hc
    decide
  have hname : ¬ isNameChar c = true := by rw [isNameChar_of_startsSimple hc]; decide
  rw [readHead_cons_of_ne hne, if_pos (List.takeWhile_cons_of_neg hname)]

theorem readHead_append (hne : cs ≠ []) (hm : BeginsOutside isNameChar more) :
    readHead (cs ++ more) = ((readHead cs).1, (readHead cs).2 ++ more) := by
  obtain ⟨c, cs, rfl⟩ := List.exists_cons_of_ne_nil hne
  by_cases hc : c = '*'
  · subst hc
    rfl
  · rw [List.cons_append, readHead_cons_of_ne hc, readHead_cons_of_ne hc, ← List.cons_append,
      takeWhile_append (.inr hm), dropWhile_append (.inr hm)]
    split <;> rfl

end Selector

/-! ## Compounds -/

namespace Compound

open Selector Text

variable {cs more : List Char} {c d : Compound}

theorem read_eq_ok_iff : read cs = .ok c ↔
    ∃ ss, readSimples (readHead cs).2 = .ok ss ∧ ofSimples (readHead cs).1 ss = c := by
  have hread : read cs = (readSimples (readHead cs).2).map (ofSimples (readHead cs).1) := rfl
  rw [hread]
  cases readSimples (readHead cs).2 <;> simp [Except.map]

theorem parse_eq_ok_iff : parse cs = .ok c ↔ cs ≠ [] ∧ read cs = .ok c := by
  unfold parse
  split
  · next h => simp [h]
  · next h =>
    rw [mapError_eq_ok_iff]
    exact ⟨fun hread => ⟨h, hread⟩, fun hread => hread.2⟩

/-- Behind a compound simple selectors are read as they are alone, and add to what it asks for. -/
theorem parse_append_eq_ok_iff (h : parse cs = .ok c) (hm : BeginsOutside isNameChar more) :
    parse (cs ++ more) = .ok d ↔ ∃ ss, readSimples more = .ok ss ∧ ss.foldl add c = d := by
  obtain ⟨hne, hread⟩ := parse_eq_ok_iff.1 h
  obtain ⟨ss, hss, rfl⟩ := read_eq_ok_iff.1 hread
  rw [parse_eq_ok_iff, read_eq_ok_iff, readHead_append hne hm, readSimples_append hm hss]
  constructor
  · rintro ⟨-, tt, htt, rfl⟩
    cases hmore : readSimples more with
    | error halt => rw [hmore] at htt; cases htt
    | ok uu =>
      rw [hmore] at htt
      obtain rfl := Except.ok.inj htt
      exact ⟨uu, rfl, List.foldl_append.symm⟩
  · rintro ⟨uu, huu, rfl⟩
    refine ⟨List.append_ne_nil_of_left_ne_nil hne _, ss ++ uu, by rw [huu]; rfl, ?_⟩
    exact List.foldl_append

/-- Nothing but a name or a simple selector can follow a compound. -/
theorem not_parse_append {a : Char} (h : parse cs = .ok c) (hname : isNameChar a = false)
    (hsimple : startsSimple a = false) : parse (cs ++ a :: more) ≠ .ok d := by
  intro hd
  obtain ⟨ss, hss, -⟩ := (parse_append_eq_ok_iff h (beginsOutside_cons.2 hname)).1 hd
  obtain ⟨s, rest, tail, hs, -, -⟩ := readSimples_cons_eq_ok_iff.1 hss
  rw [startsSimple_of_readSimple hs] at hsimple
  cases hsimple

/-- No compound goes on behind a comma, if there is one in front of it. -/
theorem not_parse_comma (h : parse (trimChars cs) = .ok c) :
    parse (trimChars (cs ++ ',' :: more)) ≠ .ok d := by
  obtain ⟨a, rest, htrim, ha⟩ :=
    strip_append_cons (p := isBlank) (a := ',') (by decide) (parse_eq_ok_iff.1 h).1 more
  have hname : isNameChar a = false := by
    rcases ha with rfl | ha
    · decide
    · exact isNameChar_of_isBlank ha
  have hsimple : startsSimple a = false := by
    rcases ha with rfl | ha
    · decide
    · exact startsSimple_of_isBlank ha
  intro hd
  rw [trimChars, htrim] at hd
  exact not_parse_append h hname hsimple hd

end Compound
end LiveForm
