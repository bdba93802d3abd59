import LiveForm.Proofs.Selector.Alternatives
import LiveForm.Proofs.Selector.Grammar

/-!
# The grammar of selector lists

A selector is written as compounds with blanks around them and commas between them.  The scan that
cuts a selector text does not know that grammar, and can cut too little; but whatever it cuts off
has to be read as a compound, and no compound goes on behind a comma.  So a text that is read has
been cut where the grammar says.

* `PaddedForm`: a compound with blanks around it, `PaddedForm.joined` the text of several.
* `eq_of_flatMap_comma_eq`: a text falls into parts that are read as compounds in one way only.
* `readSimplesWithin_of_length_le`: the loop over simple selectors makes no more rounds than there
  are characters.
* `parse_reads_what_is_written`: what is read is what is written, for compounds and for lists.
-/

namespace LiveForm
namespace Selector

open Text

variable {cs : List Char}

/-! ## Trimmed forms -/

theorem Name.trimChars_chars (n : Name) : trimChars n.chars = n.chars := by
  refine strip_eq_self_of_forall fun c hc => ?_
  rw [← Bool.not_eq_true]
  exact fun hblank => n.notMem_chars (isNameChar_of_isBlank hblank) hc

/-- What stands between two characters that are not blank is not stripped. -/
theorem trimChars_between {a b : Char} (ha : isBlank a = false) (hb : isBlank b = false)
    (cs : List Char) : trimChars (a :: (cs ++ [b])) = a :: (cs ++ [b]) := by
  refine strip_eq_self_iff.2 ⟨beginsOutside_cons.2 ha, ?_⟩
  rw [← List.cons_append, List.reverse_append]
  exact beginsOutside_cons.2 hb

theorem SimpleForm.trimChars_chars (f : SimpleForm) : trimChars f.chars = f.chars := by
  have hname : ∀ (c : Char) (n : Name), isBlank c = false →
      trimChars (c :: n.chars) = c :: n.chars := by
    intro c n hc
    have hone : trimChars [c] = [c] :=
      strip_eq_self_of_forall fun a ha => by rwa [List.mem_singleton.1 ha]
    exact strip_append hone n.trimChars_chars
  cases f with
  | id n => exact hname '#' n (by decide)
  | className n => exact hname '.' n (by decide)
  | test n value =>
    cases value with
    | none => exact trimChars_between (by decide) (by decide) n.chars
    | some v =>
      have hbracket : chars (.test n (some v)) = '[' :: ((n.chars ++ '=' :: v.chars) ++ [']']) := by
        rw [chars, attributeEnd, List.append_assoc, List.cons_append]
      rw [hbracket]
      exact trimChars_between (by decide) (by decide) _

/-- There are no blanks around a form. -/
theorem CompoundForm.trimChars_chars (d : CompoundForm) : trimChars d.chars = d.chars := by
  have hhead : trimChars d.head.chars = d.head.chars := by
    cases d.head with
    | star => decide
    | tag n => exact n.trimChars_chars
    | nothing => rfl
  have hsimples : ∀ fs : List SimpleForm,
      trimChars (fs.flatMap SimpleForm.chars) = fs.flatMap SimpleForm.chars := by
    intro fs
    induction fs with
    | nil => rfl
    | cons f fs ih =>
      rw [List.flatMap_cons]
      exact strip_append f.trimChars_chars ih
  exact strip_append hhead (hsimples d.simples)

/-! ## Blanks around a form -/

/-- A compound with blanks around it, as it is written. -/
structure PaddedForm where
  before : List Char
  form : CompoundForm
  behind : List Char
  isBlank_before : ∀ c ∈ before, isBlank c = true
  isBlank_behind : ∀ c ∈ behind, isBlank c = true
  ne_nil : form.chars ≠ []

namespace PaddedForm

variable {p q : PaddedForm} {c : Compound}

def chars (p : PaddedForm) : List Char := p.before ++ p.form.chars ++ p.behind

/-- What several compounds are written as, with a comma behind each but the last. -/
def joined (ps : List PaddedForm) : List Char := [','].intercalate (ps.map chars)

theorem trimChars_chars (p : PaddedForm) : trimChars p.chars = p.form.chars :=
  (strip_padded p.isBlank_before p.isBlank_behind p.form.chars).trans p.form.trimChars_chars

theorem readsAs (p : PaddedForm) : ReadsAs p.chars p.form.compound := by
  rw [ReadsAs, p.trimChars_chars, Compound.parse_eq_ok_iff_form]
  exact ⟨p.ne_nil, p.form, rfl, rfl⟩

/-- What is read as a compound is a form of it with blanks around. -/
theorem exists_of_readsAs (h : ReadsAs cs c) :
    ∃ p : PaddedForm, p.chars = cs ∧ p.form.compound = c := by
  obtain ⟨hne, d, hd, hc⟩ := Compound.parse_eq_ok_iff_form.1 h
  obtain ⟨u, v, hcs, hu, hv⟩ := exists_strip_eq isBlank cs
  refine ⟨⟨u, d, v, hu, hv, by rwa [hd]⟩, ?_, hc⟩
  show u ++ d.chars ++ v = cs
  rw [hd]
  exact hcs.symm

/-- The text of a form with blanks around it tells the form and the blanks. -/
theorem eq_of_chars_eq (h : p.chars = q.chars) : p = q := by
  have hform : p.form = q.form := by
    refine CompoundForm.eq_of_chars_eq ?_
    rw [← p.trimChars_chars, h, q.trimChars_chars]
  have hbegins : ∀ r : PaddedForm, BeginsOutside isBlank (r.form.chars ++ r.behind) := by
    intro r
    obtain ⟨a, tail, hr⟩ := List.exists_cons_of_ne_nil r.ne_nil
    rw [hr]
    exact beginsOutside_cons.2 (not_of_strip_eq_cons (r.form.trimChars_chars.trans hr))
  rw [chars, chars, List.append_assoc, List.append_assoc] at h
  obtain ⟨hbefore, hrest⟩ :=
    append_inj_of_run p.isBlank_before (hbegins p) q.isBlank_before (hbegins q) h
  rw [hform] at hrest
  have hbehind := List.append_cancel_left hrest
  cases p
  cases q
  simp only at hbefore hform hbehind
  subst hbefore hform hbehind
  rfl

end PaddedForm

/-! ## Joining and cutting -/

/-- The parts that the scan cuts off, with commas between them, are the text. -/
theorem intercalate_alternativesFrom (z : Zone) (cs : List Char) :
    [','].intercalate (alternativesFrom z cs) = cs := by
  induction cs generalizing z with
  | nil => rfl
  | cons c cs ih =>
    obtain ⟨part, parts, hparts⟩ :=
      List.exists_cons_of_ne_nil (alternativesFrom_ne_nil (z.after c) cs)
    have hjoined : [','].intercalate (part :: parts) = cs := by
      rw [← hparts]
      exact ih (z.after c)
    by_cases hc : z = .outside ∧ c = ','
    · obtain ⟨rfl, rfl⟩ := hc
      have houtside : alternativesFrom .outside cs = part :: parts := hparts
      rw [alternativesFrom_cons_of_cut, houtside, List.intercalate_cons_cons, hjoined]
      rfl
    · rw [alternativesFrom_cons_of_not_cut hc hparts]
      cases parts with
      | nil =>
        rw [List.intercalate_singleton] at hjoined ⊢
        rw [hjoined]
      | cons part' parts =>
        rw [List.intercalate_cons_cons] at hjoined ⊢
        rw [← hjoined]
        rfl

/-- With one comma more every part has one behind it. -/
theorem intercalate_append_comma {parts : List (List Char)} (hne : parts ≠ []) :
    [','].intercalate parts ++ [','] = parts.flatMap (· ++ [',']) := by
  induction parts with
  | nil => exact absurd rfl hne
  | cons part parts ih =>
    rw [List.flatMap_cons]
    cases parts with
    | nil => rw [List.intercalate_singleton, List.flatMap_nil, List.append_nil]
    | cons part' parts =>
      rw [List.intercalate_cons_cons, List.append_assoc, ih (List.cons_ne_nil _ _)]

/-- No compound goes on behind a comma, so two texts that begin with a compound and a comma begin
with the same one. -/
theorem eq_of_append_comma_eq {a b m m' : List Char} (ha : ∃ c, ReadsAs a c)
    (hb : ∃ d, ReadsAs b d) (h : a ++ ',' :: m = b ++ ',' :: m') : a = b ∧ m = m' := by
  obtain ⟨c, ha⟩ := ha
  obtain ⟨d, hb⟩ := hb
  rcases List.append_eq_append_iff.1 h with ⟨as, hba, hm⟩ | ⟨bs, hab, hm⟩
  · cases as with
    | nil => exact ⟨by rw [hba, List.append_nil], (List.cons.inj hm).2⟩
    | cons x as =>
      obtain rfl : ',' = x := (List.cons.inj hm).1
      rw [hba] at hb
      exact absurd hb (Compound.not_parse_comma ha)
  · cases bs with
    | nil => exact ⟨by rw [hab, List.append_nil], (List.cons.inj hm).2.symm⟩
    | cons x bs =>
      obtain rfl : ',' = x := (List.cons.inj hm).1
      rw [hab] at ha
      exact absurd ha (Compound.not_parse_comma hb)

/-- **A text falls into parts that are read as compounds in one way only.** -/
theorem eq_of_flatMap_comma_eq {parts parts' : List (List Char)}
    (hparts : ∀ part ∈ parts, ∃ c, ReadsAs part c) (hparts' : ∀ part ∈ parts', ∃ c, ReadsAs part c)
    (h : parts.flatMap (· ++ [',']) = parts'.flatMap (· ++ [','])) : parts = parts' := by
  induction parts generalizing parts' with
  | nil =>
    cases parts' with
    | nil => rfl
    | cons part' parts' => simp at h
  | cons part parts ih =>
    cases parts' with
    | nil => simp at h
    | cons part' parts' =>
      rw [List.forall_mem_cons] at hparts hparts'
      rw [List.flatMap_cons, List.flatMap_cons, List.append_assoc, List.append_assoc] at h
      obtain ⟨rfl, hrest⟩ := eq_of_append_comma_eq hparts.1 hparts'.1 h
      rw [ih hparts.2 hparts'.2 hrest]

namespace PaddedForm

variable {ps qs : List PaddedForm}

theorem exists_readsAs_of_mem (ps : List PaddedForm) :
    ∀ part ∈ ps.map chars, ∃ c, ReadsAs part c := by
  intro part hpart
  obtain ⟨p, -, rfl⟩ := List.mem_map.1 hpart
  exact ⟨_, p.readsAs⟩

/-- A text is written as a list of compounds in one way at most. -/
theorem eq_of_joined_eq (hps : ps ≠ []) (hqs : qs ≠ []) (h : joined ps = joined qs) : ps = qs := by
  have hmap : ps.map chars = qs.map chars := by
    refine eq_of_flatMap_comma_eq (exists_readsAs_of_mem ps) (exists_readsAs_of_mem qs) ?_
    rw [← intercalate_append_comma (mt List.map_eq_nil_iff.1 hps),
      ← intercalate_append_comma (mt List.map_eq_nil_iff.1 hqs)]
    exact congrArg (· ++ [',']) h
  exact List.map_injective_iff.2 (fun _ _ => eq_of_chars_eq) hmap

/-- Texts that are read as compounds are forms with blanks around them. -/
theorem exists_of_forall₂_readsAs {parts : List (List Char)} {read : List Compound}
    (h : List.Forall₂ ReadsAs parts read) :
    ∃ ps : List PaddedForm, ps.map chars = parts ∧ ps.map (·.form.compound) = read := by
  induction h with
  | nil => exact ⟨[], rfl, rfl⟩
  | cons hpart hparts ih =>
    obtain ⟨p, rfl, rfl⟩ := exists_of_readsAs hpart
    obtain ⟨ps, rfl, rfl⟩ := ih
    exact ⟨p :: ps, rfl, rfl⟩

/-- A selector that is read is written as a list of the compounds that were read. -/
theorem exists_of_parse {text : String} {s : Selector} (h : parse text = .ok s) :
    ∃ ps : List PaddedForm, ps ≠ [] ∧ joined ps = text.toList ∧
      ps.map (·.form.compound) = s.alternatives := by
  obtain ⟨ps, hchars, hcompounds⟩ := exists_of_forall₂_readsAs (parse_eq_ok_iff.1 h).2
  refine ⟨ps, ?_, ?_, hcompounds⟩
  · rintro rfl
    exact alternativesFrom_ne_nil .outside text.toList hchars.symm
  · rw [joined, hchars]
    exact intercalate_alternativesFrom .outside text.toList

end PaddedForm

/-! ## Rounds of the loop -/

/-- The loop over simple selectors, cut off after some rounds. -/
def readSimplesWithin : Nat → List Char → Option (Except Halt (List Simple))
  | _, [] => some (.ok [])
  | 0, _ :: _ => none
  | rounds + 1, c :: cs =>
      match readSimple c cs with
      | .error halt => some (.error halt)
      | .ok (s, rest) => (readSimplesWithin rounds rest).map fun r => r.map (s :: ·)

/-- **The loop ends**, with as many rounds as there are characters at most: every round takes one or
more of them. -/
theorem readSimplesWithin_of_length_le {rounds : Nat} (h : cs.length ≤ rounds) :
    readSimplesWithin rounds cs = some (readSimples cs) := by
  induction rounds generalizing cs with
  | zero =>
    obtain rfl := List.length_eq_zero_iff.1 (Nat.le_zero.1 h)
    rw [readSimples_nil]
    rfl
  | succ rounds ih =>
    cases cs with
    | nil =>
      rw [readSimples_nil]
      rfl
    | cons c cs =>
      rw [readSimplesWithin]
      cases hc : readSimple c cs with
      | error halt => rw [readSimples_cons_of_error hc]
      | ok r =>
        obtain ⟨s, rest⟩ := r
        have hlen := length_readSimple hc
        rw [List.length_cons] at h
        have hrest : readSimplesWithin rounds rest = some (readSimples rest) := ih (by omega)
        rw [readSimples_cons_of_ok hc]
        simp only
        rw [hrest]
        rfl

/-! ## Selectors -/

/-- **What is read is what is written.**  A text is read as a compound exactly if it is a form of
that compound, and it is the text of one form at most.  A selector that is read is a list of forms
with blanks around them and commas between them, in one way only, and its alternatives are their
compounds in order.  The loop over simple selectors makes no more rounds than there are
characters. -/
theorem parse_reads_what_is_written :
    (∀ (cs : List Char) (c : Compound), Compound.parse cs = .ok c ↔
      cs ≠ [] ∧ ∃ d : CompoundForm, d.chars = cs ∧ d.compound = c) ∧
    (∀ d d' : CompoundForm, d.chars = d'.chars → d = d') ∧
    (∀ (text : String) (s : Selector), parse text = .ok s →
      ∃ ps : List PaddedForm, ps ≠ [] ∧ PaddedForm.joined ps = text.toList ∧
        ps.map (·.form.compound) = s.alternatives ∧
        ∀ qs : List PaddedForm, qs ≠ [] → PaddedForm.joined qs = text.toList → qs = ps) ∧
    (∀ cs : List Char, readSimplesWithin cs.length cs = some (readSimples cs)) := by
  refine ⟨fun cs c => Compound.parse_eq_ok_iff_form, fun d d' => CompoundForm.eq_of_chars_eq,
    fun text s h => ?_, fun cs => readSimplesWithin_of_length_le (Nat.le_refl _)⟩
  obtain ⟨ps, hps, hjoined, hcompounds⟩ := PaddedForm.exists_of_parse h
  refine ⟨ps, hps, hjoined, hcompounds, fun qs hqs hq => ?_⟩
  exact PaddedForm.eq_of_joined_eq hqs hps (hq.trans hjoined.symm)

theorem parse_reads_what_is_written_quoted :
    parse "*#a , [b=',']" = .ok ⟨"*#a , [b=',']",
      [{ id := some "a" }, { attributes := [⟨"b", some ","⟩] }]⟩ ∧
    ∃ ps : List PaddedForm, PaddedForm.joined ps = "*#a , [b=',']".toList ∧
      ps.map (·.form.compound) = [{ id := some "a" }, { attributes := [⟨"b", some ","⟩] }] := by
  have hread : parse "*#a , [b=',']" = .ok ⟨"*#a , [b=',']",
      [{ id := some "a" }, { attributes := [⟨"b", some ","⟩] }]⟩ := by
    decide +kernel
  obtain ⟨ps, -, hjoined, hcompounds, -⟩ := parse_reads_what_is_written.2.2.1 _ _ hread
  exact ⟨hread, ps, hjoined, hcompounds⟩

end Selector
end LiveForm
