import LiveForm.Proofs.Selector.Reading

/-!
# The grammar of compounds

A compound is written as a head with simple selectors behind it.  The types below are the ways of
writing one, each part with the conditions under which it may stand where it does; `chars` is what
is written, and `CompoundForm.compound` is what it asks for.

* *Soundness and completeness*: a text is read as a compound exactly if it is the text of a form of
  that compound (`Compound.read_eq_ok_iff_form`).  Each reading step has one lemma for either
  direction, `read.._chars` and `exists_of_read..`.
* *Uniqueness*: a text has one form at most (`CompoundForm.eq_of_chars_eq`).  Each part has a lemma
  `append_inj`: it ends in one place only, whatever follows.
-/

namespace LiveForm
namespace Selector

open Text

variable {cs rest rest' : List Char} {name : String} {test : AttributeTest} {s : Simple}

/-! ## Names -/

/-- One or more characters of names. -/
@[ext] structure Name where
  chars : List Char
  ne_nil : chars ≠ []
  isNameChar_of_mem : ∀ c ∈ chars, isNameChar c = true

namespace Name

variable {n n' : Name}

/-- The name as a text. -/
def string (n : Name) : String := String.ofList n.chars

/-- What is no character of names does not occur in a name. -/
theorem notMem_chars {c : Char} (hc : isNameChar c = false) (n : Name) : c ∉ n.chars := by
  intro hmem
  rw [n.isNameChar_of_mem c hmem] at hc
  cases hc

/-- A name ends where the characters of names end. -/
theorem append_inj (hrest : BeginsOutside isNameChar rest) (hrest' : BeginsOutside isNameChar rest')
    (h : n.chars ++ rest = n'.chars ++ rest') : n = n' ∧ rest = rest' := by
  obtain ⟨hchars, hrests⟩ :=
    append_inj_of_run n.isNameChar_of_mem hrest n'.isNameChar_of_mem hrest' h
  exact ⟨Name.ext hchars, hrests⟩

theorem readName_chars (n : Name) (hrest : BeginsOutside isNameChar rest) :
    readName (n.chars ++ rest) = .ok (n.string, rest) := by
  rw [readName_eq_ok_iff, takeWhile_run_append n.isNameChar_of_mem hrest,
    dropWhile_run_append n.isNameChar_of_mem hrest]
  exact ⟨n.ne_nil, rfl, rfl⟩

theorem exists_of_readName (h : readName cs = .ok (name, rest)) :
    ∃ n : Name, n.chars ++ rest = cs ∧ n.string = name ∧ BeginsOutside isNameChar rest := by
  obtain ⟨hne, hname, hrest⟩ := readName_eq_ok_iff.1 h
  rw [← hrest]
  exact ⟨⟨cs.takeWhile isNameChar, hne, fun c => List.mem_takeWhile_imp⟩,
    List.takeWhile_append_dropWhile, hname, beginsOutside_dropWhile isNameChar cs⟩

end Name

/-! ## Values -/

/-- What a character does not occur in lies in front of it. -/
theorem bne_of_notMem {c : Char} (h : c ∉ cs) : ∀ a ∈ cs, (a != c) = true := by
  intro a ha
  rw [bne_iff_ne]
  rintro rfl
  exact h ha

theorem beginsOutside_bne (c : Char) (rest : List Char) : BeginsOutside (· != c) (c :: rest) :=
  beginsOutside_cons.2 (bne_self_eq_false c)

theorem readClosing_eq_ok_iff {t : AttributeTest} :
    readClosing test cs = .ok (t, rest) ↔ cs = ']' :: rest ∧ test = t := by
  unfold readClosing
  split
  · next cs =>
    rw [Except.ok.injEq, Prod.mk.injEq, List.cons.injEq, and_comm]
    exact and_congr_left fun _ => (and_iff_right rfl).symm
  · next hne =>
    constructor
    · intro h
      cases h
    · rintro ⟨rfl, -⟩
      exact absurd rfl (hne rest)

/-- The value of an attribute test, as it is written. -/
inductive ValueForm where
  /-- Between two equal quotes, and without that quote inside. -/
  | quoted (quote : Char) (inside : List Char) (isQuote_quote : isQuote quote = true)
      (quote_notMem : quote ∉ inside)
  /-- As it is, up to the closing bracket; it may be empty. -/
  | plain (inside : List Char) (bracket_notMem : ']' ∉ inside)
      (beginsOutside : BeginsOutside isQuote inside)

namespace ValueForm

variable {v v' : ValueForm}

def inside : ValueForm → List Char
  | .quoted _ inside _ _ => inside
  | .plain inside _ _ => inside

def chars : ValueForm → List Char
  | .quoted quote inside _ _ => quote :: (inside ++ [quote])
  | .plain inside _ _ => inside

/-- The value as a text. -/
def string (v : ValueForm) : String := String.ofList v.inside

/-- What is not quoted in front of a closing bracket does not begin with a quote. -/
theorem beginsOutside_isQuote (h : BeginsOutside isQuote cs) (rest : List Char) :
    BeginsOutside isQuote (cs ++ ']' :: rest) :=
  h.append (beginsOutside_cons.2 (by decide))

/-- A value ends at its second quote, or at the closing bracket, and the first character tells
which. -/
theorem append_inj (h : v.chars ++ ']' :: rest = v'.chars ++ ']' :: rest') :
    v = v' ∧ rest = rest' := by
  -- what is not quoted cannot begin like what is
  have hmixed : ∀ {quote : Char} {l l' m m' : List Char}, isQuote quote = true →
      BeginsOutside isQuote l → quote :: l' ++ ']' :: m' ≠ l ++ ']' :: m := by
    intro quote l l' m m' hquote hl heq
    have hbegins := beginsOutside_isQuote hl m
    rw [← heq, List.cons_append, beginsOutside_cons, hquote] at hbegins
    cases hbegins
  cases v with
  | quoted quote inside hquote hinside =>
    cases v' with
    | quoted quote' inside' hquote' hinside' =>
      rw [chars, chars, List.cons_append, List.cons_append] at h
      obtain ⟨rfl, h⟩ := List.cons.inj h
      rw [List.append_assoc, List.append_assoc] at h
      obtain ⟨rfl, hrest⟩ := append_inj_of_run (bne_of_notMem hinside)
        (beginsOutside_bne quote _) (bne_of_notMem hinside') (beginsOutside_bne quote _) h
      exact ⟨rfl, (List.cons.inj (List.cons.inj hrest).2).2⟩
    | plain inside' hinside' hbegins' => exact absurd h (hmixed hquote hbegins')
  | plain inside hinside hbegins =>
    cases v' with
    | quoted quote' inside' hquote' hinside' => exact absurd h.symm (hmixed hquote' hbegins)
    | plain inside' hinside' hbegins' =>
      obtain ⟨rfl, hrest⟩ := append_inj_of_run (bne_of_notMem hinside)
        (beginsOutside_bne ']' rest) (bne_of_notMem hinside') (beginsOutside_bne ']' rest') h
      exact ⟨rfl, (List.cons.inj hrest).2⟩

/-- A value that does not begin with a quote is read up to the closing bracket. -/
theorem readValue_of_beginsOutside (name : String) (hne : cs ≠ [])
    (hbegins : BeginsOutside isQuote cs) :
    readValue name cs = readClosing ⟨name, some (String.ofList (cs.takeWhile (· != ']')))⟩
      (cs.dropWhile (· != ']')) := by
  obtain ⟨c, cs, rfl⟩ := List.exists_cons_of_ne_nil hne
  exact readValue_of_not_isQuote name (beginsOutside_cons.1 hbegins) cs

theorem readValue_chars (name : String) (v : ValueForm) (rest : List Char) :
    readValue name (v.chars ++ ']' :: rest) = .ok (⟨name, some v.string⟩, rest) := by
  cases v with
  | quoted quote inside hquote hinside =>
    have hrun :=
      takeWhile_run_append (bne_of_notMem hinside) (beginsOutside_bne quote (']' :: rest))
    have hbehind :=
      dropWhile_run_append (bne_of_notMem hinside) (beginsOutside_bne quote (']' :: rest))
    rw [chars, List.cons_append, List.append_assoc, readValue_of_isQuote name hquote,
      List.singleton_append, hrun, hbehind]
    rfl
  | plain inside hinside hbegins =>
    have hrun := takeWhile_run_append (bne_of_notMem hinside) (beginsOutside_bne ']' rest)
    have hbehind := dropWhile_run_append (bne_of_notMem hinside) (beginsOutside_bne ']' rest)
    rw [chars, readValue_of_beginsOutside name (by simp) (beginsOutside_isQuote hbegins rest), hrun,
      hbehind]
    rfl

theorem exists_of_readValue (h : readValue name cs = .ok (test, rest)) :
    ∃ v : ValueForm, v.chars ++ ']' :: rest = cs ∧
      (⟨name, some v.string⟩ : AttributeTest) = test := by
  obtain ⟨c, cs, rfl⟩ := List.exists_cons_of_ne_nil (l := cs) (by rintro rfl; cases h)
  by_cases hc : isQuote c = true
  · rw [readValue_of_isQuote name hc] at h
    split at h
    · cases h
    · next quote tail hd =>
      obtain ⟨rfl, rfl⟩ := readClosing_eq_ok_iff.1 h
      obtain rfl : quote = c := by simpa using not_of_head_dropWhile hd
      have hfree : quote ∉ cs.takeWhile (· != quote) := fun hmem => by
        simpa using List.mem_takeWhile_imp hmem
      refine ⟨.quoted quote (cs.takeWhile (· != quote)) hc hfree, ?_, rfl⟩
      rw [chars, List.cons_append, List.append_assoc, List.singleton_append, ← hd,
        List.takeWhile_append_dropWhile]
  · rw [Bool.not_eq_true] at hc
    rw [readValue_of_not_isQuote name hc] at h
    obtain ⟨hd, rfl⟩ := readClosing_eq_ok_iff.1 h
    have hfree : ']' ∉ (c :: cs).takeWhile (· != ']') := fun hmem => by
      simpa using List.mem_takeWhile_imp hmem
    have hbegins : BeginsOutside isQuote ((c :: cs).takeWhile (· != ']')) := by
      intro a ha
      rw [List.head?_takeWhile] at ha
      obtain rfl : c = a := by simpa using (Option.mem_filter_iff.1 ha).1
      exact hc
    refine ⟨.plain _ hfree hbegins, ?_, rfl⟩
    rw [chars, ← hd, List.takeWhile_append_dropWhile]

end ValueForm

/-! ## Simple selectors -/

/-- A simple selector, as it is written. -/
inductive SimpleForm where
  | id (name : Name)
  | className (name : Name)
  | test (name : Name) (value : Option ValueForm)

namespace SimpleForm

variable {f f' : SimpleForm} {fs fs' : List SimpleForm} {value value' : Option ValueForm}

/-- What stands behind the name in an attribute test. -/
def attributeEnd : Option ValueForm → List Char
  | none => [']']
  | some v => '=' :: (v.chars ++ [']'])

def chars : SimpleForm → List Char
  | .id n => '#' :: n.chars
  | .className n => '.' :: n.chars
  | .test n value => '[' :: (n.chars ++ attributeEnd value)

/-- What the simple selector asks for. -/
def simple : SimpleForm → Simple
  | .id n => .id n.string
  | .className n => .className n.string
  | .test n value => .attribute ⟨n.string, value.map ValueForm.string⟩

theorem beginsOutside_attributeEnd (value : Option ValueForm) (rest : List Char) :
    BeginsOutside isNameChar (attributeEnd value ++ rest) := by
  cases value with
  | none => exact beginsOutside_cons.2 (by decide)
  | some v => exact beginsOutside_cons.2 (by decide)

theorem attributeEnd_append_inj (h : attributeEnd value ++ rest = attributeEnd value' ++ rest') :
    value = value' ∧ rest = rest' := by
  cases value with
  | none =>
    cases value' with
    | none => exact ⟨rfl, (List.cons.inj h).2⟩
    | some v' => exact absurd (List.cons.inj h).1 (by decide)
  | some v =>
    cases value' with
    | none => exact absurd (List.cons.inj h).1 (by decide)
    | some v' =>
      rw [attributeEnd, attributeEnd, List.cons_append, List.cons_append, List.append_assoc,
        List.append_assoc] at h
      obtain ⟨rfl, hrest⟩ := ValueForm.append_inj (List.cons.inj h).2
      exact ⟨rfl, hrest⟩

/-- A simple selector ends with its name or its bracket. -/
theorem append_inj (hrest : BeginsOutside isNameChar rest) (hrest' : BeginsOutside isNameChar rest')
    (h : f.chars ++ rest = f'.chars ++ rest') : f = f' ∧ rest = rest' := by
  cases f with
  | id n =>
    cases f' with
    | id n' =>
      obtain ⟨rfl, hrests⟩ := Name.append_inj hrest hrest' (List.cons.inj h).2
      exact ⟨rfl, hrests⟩
    | className n' => exact absurd (List.cons.inj h).1 (by decide)
    | test n' value' => exact absurd (List.cons.inj h).1 (by decide)
  | className n =>
    cases f' with
    | id n' => exact absurd (List.cons.inj h).1 (by decide)
    | className n' =>
      obtain ⟨rfl, hrests⟩ := Name.append_inj hrest hrest' (List.cons.inj h).2
      exact ⟨rfl, hrests⟩
    | test n' value' => exact absurd (List.cons.inj h).1 (by decide)
  | test n value =>
    cases f' with
    | id n' => exact absurd (List.cons.inj h).1 (by decide)
    | className n' => exact absurd (List.cons.inj h).1 (by decide)
    | test n' value' =>
      rw [chars, chars, List.cons_append, List.cons_append, List.append_assoc,
        List.append_assoc] at h
      obtain ⟨rfl, hends⟩ := Name.append_inj (beginsOutside_attributeEnd value rest)
        (beginsOutside_attributeEnd value' rest') (List.cons.inj h).2
      obtain ⟨rfl, hrests⟩ := attributeEnd_append_inj hends
      exact ⟨rfl, hrests⟩

theorem readAttribute_chars (n : Name) (value : Option ValueForm) (rest : List Char) :
    readAttribute (n.chars ++ (attributeEnd value ++ rest)) =
      .ok (⟨n.string, value.map ValueForm.string⟩, rest) := by
  refine bind_eq_ok_iff.2 ⟨_, n.readName_chars (beginsOutside_attributeEnd value rest), ?_⟩
  cases value with
  | none => rfl
  | some v =>
    show readValue n.string (v.chars ++ [']'] ++ rest) = _
    rw [List.append_assoc]
    exact v.readValue_chars n.string rest

theorem exists_of_readAttribute (h : readAttribute cs = .ok (test, rest)) :
    ∃ (n : Name) (value : Option ValueForm), n.chars ++ (attributeEnd value ++ rest) = cs ∧
      (⟨n.string, value.map ValueForm.string⟩ : AttributeTest) = test := by
  obtain ⟨⟨name, tail⟩, hname, h⟩ := bind_eq_ok_iff.1 h
  obtain ⟨n, rfl, rfl, -⟩ := Name.exists_of_readName hname
  simp only at h
  split at h
  · obtain ⟨rfl, rfl⟩ := Prod.mk.inj (Except.ok.inj h)
    exact ⟨n, none, rfl, rfl⟩
  · obtain ⟨v, rfl, rfl⟩ := ValueForm.exists_of_readValue h
    refine ⟨n, some v, ?_, rfl⟩
    rw [attributeEnd, List.cons_append, List.append_assoc]
    rfl
  · cases h
  · cases h

/-- The simple selector ends where `rest` begins.  A name may go on, a bracket is closed. -/
def EndsBefore (rest : List Char) : SimpleForm → Prop
  | .id _ => BeginsOutside isNameChar rest
  | .className _ => BeginsOutside isNameChar rest
  | .test _ _ => True

theorem endsBefore_of_beginsOutside (f : SimpleForm) (hrest : BeginsOutside isNameChar rest) :
    f.EndsBefore rest := by
  cases f with
  | id n => exact hrest
  | className n => exact hrest
  | test n value => trivial

theorem EndsBefore.congr (h : f.EndsBefore rest) (hhead : rest'.head? = rest.head?) :
    f.EndsBefore rest' := by
  cases f with
  | id n => exact BeginsOutside.congr h hhead
  | className n => exact BeginsOutside.congr h hhead
  | test n value => trivial

theorem readSimples_chars_append (hends : f.EndsBefore rest) :
    readSimples (f.chars ++ rest) = (readSimples rest).map (f.simple :: ·) := by
  cases f with
  | id n =>
    exact readSimples_cons_of_ok
      (Selector.map_eq_ok_iff.2 ⟨n.string, n.readName_chars hends, rfl⟩)
  | className n =>
    exact readSimples_cons_of_ok
      (Selector.map_eq_ok_iff.2 ⟨n.string, n.readName_chars hends, rfl⟩)
  | test n value =>
    rw [chars, List.cons_append, List.append_assoc]
    exact readSimples_cons_of_ok
      (Selector.map_eq_ok_iff.2 ⟨_, readAttribute_chars n value rest, rfl⟩)

theorem exists_of_readSimple {c : Char} (h : readSimple c cs = .ok (s, rest)) :
    ∃ f : SimpleForm, f.chars ++ rest = c :: cs ∧ f.simple = s ∧ f.EndsBefore rest := by
  unfold readSimple at h
  split at h
  · next hc =>
    obtain ⟨name, hname, rfl⟩ := Selector.map_eq_ok_iff.1 h
    obtain ⟨n, rfl, rfl, hrest⟩ := Name.exists_of_readName hname
    exact ⟨.id n, by rw [hc]; rfl, rfl, hrest⟩
  · split at h
    · next hc =>
      obtain ⟨name, hname, rfl⟩ := Selector.map_eq_ok_iff.1 h
      obtain ⟨n, rfl, rfl, hrest⟩ := Name.exists_of_readName hname
      exact ⟨.className n, by rw [hc]; rfl, rfl, hrest⟩
    · split at h
      · next hc =>
        obtain ⟨test, htest, rfl⟩ := Selector.map_eq_ok_iff.1 h
        obtain ⟨n, value, rfl, rfl⟩ := exists_of_readAttribute htest
        refine ⟨.test n value, ?_, rfl, trivial⟩
        rw [hc, chars, List.cons_append, List.append_assoc]
      · split at h <;> cases h

/-! ### Several simple selectors -/

/-- Nothing but a simple selector begins a text of them. -/
theorem startsSimple_of_mem_head? {c : Char} (hc : c ∈ (fs.flatMap chars).head?) :
    startsSimple c = true := by
  cases fs with
  | nil => cases hc
  | cons f fs =>
    cases f with
    | id n =>
      obtain rfl : '#' = c := Option.some.inj hc
      decide
    | className n =>
      obtain rfl : '.' = c := Option.some.inj hc
      decide
    | test n value =>
      obtain rfl : '[' = c := Option.some.inj hc
      decide

theorem beginsOutside_flatMap (fs : List SimpleForm) :
    BeginsOutside isNameChar (fs.flatMap chars) :=
  fun _ hc => isNameChar_of_startsSimple (startsSimple_of_mem_head? hc)

theorem readSimples_flatMap (fs : List SimpleForm) :
    readSimples (fs.flatMap chars) = .ok (fs.map simple) := by
  induction fs with
  | nil => exact readSimples_nil
  | cons f fs ih =>
    rw [List.flatMap_cons,
      readSimples_chars_append (f.endsBefore_of_beginsOutside (beginsOutside_flatMap fs)), ih]
    rfl

theorem exists_of_readSimples : ∀ {cs : List Char} {ss : List Simple}, readSimples cs = .ok ss →
    ∃ fs : List SimpleForm, fs.flatMap chars = cs ∧ fs.map simple = ss
  | [], ss, h => by
    rw [readSimples_nil] at h
    exact ⟨[], rfl, Except.ok.inj h⟩
  | c :: cs, ss, h => by
    obtain ⟨s, rest, tail, hs, htail, rfl⟩ := readSimples_cons_eq_ok_iff.1 h
    have hlen := length_readSimple hs
    obtain ⟨f, hf, rfl, -⟩ := exists_of_readSimple hs
    obtain ⟨fs, rfl, rfl⟩ := exists_of_readSimples htail
    exact ⟨f :: fs, hf, rfl⟩
termination_by cs => cs.length
decreasing_by simp only [List.length_cons]; omega

/-- A text of simple selectors is one in one way only. -/
theorem eq_of_flatMap_eq (h : fs.flatMap chars = fs'.flatMap chars) : fs = fs' := by
  have hne : ∀ f : SimpleForm, ∀ fs : List SimpleForm, (f :: fs).flatMap chars ≠ [] := by
    intro f fs
    cases f <;> exact List.cons_ne_nil _ _
  induction fs generalizing fs' with
  | nil =>
    cases fs' with
    | nil => rfl
    | cons f' fs' => exact absurd h.symm (hne f' fs')
  | cons f fs ih =>
    cases fs' with
    | nil => exact absurd h (hne f fs)
    | cons f' fs' =>
      rw [List.flatMap_cons, List.flatMap_cons] at h
      obtain ⟨rfl, hrest⟩ := append_inj (beginsOutside_flatMap fs) (beginsOutside_flatMap fs') h
      rw [ih hrest]

end SimpleForm

/-! ## Heads -/

/-- The head of a compound, as it is written. -/
inductive HeadForm where
  | star
  | tag (name : Name)
  | nothing

namespace HeadForm

variable {d d' : HeadForm} {tag : Option String}

def chars : HeadForm → List Char
  | .star => ['*']
  | .tag n => n.chars
  | .nothing => []

/-- The tag that the head asks for. -/
def tag? : HeadForm → Option String
  | .star => none
  | .tag n => some n.string
  | .nothing => none

/-- A star or a character of a tag. -/
def startsHead (c : Char) : Bool := c == '*' || isNameChar c

theorem startsHead_of_startsSimple {c : Char} (hc : startsSimple c = true) :
    startsHead c = false := by
  rw [startsHead, isNameChar_of_startsSimple hc, Bool.or_false, beq_eq_false_iff_ne]
  rintro rfl
  revert hc
  decide

/-- The head ends where `rest` begins.  A tag may go on, and anything that begins a head is one. -/
def EndsBefore (rest : List Char) : HeadForm → Prop
  | .star => True
  | .tag _ => BeginsOutside isNameChar rest
  | .nothing => BeginsOutside startsHead rest

theorem EndsBefore.congr (h : d.EndsBefore rest) (hhead : rest'.head? = rest.head?) :
    d.EndsBefore rest' := by
  cases d with
  | star => trivial
  | tag n => exact BeginsOutside.congr h hhead
  | nothing => exact BeginsOutside.congr h hhead

theorem endsBefore_flatMap (d : HeadForm) (fs : List SimpleForm) :
    d.EndsBefore (fs.flatMap SimpleForm.chars) := by
  cases d with
  | star => trivial
  | tag n => exact SimpleForm.beginsOutside_flatMap fs
  | nothing =>
    exact fun _ hc => startsHead_of_startsSimple (SimpleForm.startsSimple_of_mem_head? hc)

theorem readHead_chars_append (hends : d.EndsBefore rest) :
    readHead (d.chars ++ rest) = (d.tag?, rest) := by
  cases d with
  | star => rfl
  | tag n =>
    obtain ⟨c, tail, hn⟩ := List.exists_cons_of_ne_nil n.ne_nil
    have hstar : c ≠ '*' := by
      rintro rfl
      refine n.notMem_chars (c := '*') (by decide) ?_
      rw [hn]
      exact .head _
    have hrun := takeWhile_run_append n.isNameChar_of_mem hends
    have hbehind := dropWhile_run_append n.isNameChar_of_mem hends
    rw [chars]
    rw [hn, List.cons_append] at hrun hbehind ⊢
    rw [readHead_cons_of_ne hstar, hrun, hbehind, if_neg (List.cons_ne_nil _ _), ← hn]
    rfl
  | nothing =>
    cases rest with
    | nil => rfl
    | cons c tail =>
      have hhead := beginsOutside_cons.1 hends
      rw [startsHead, Bool.or_eq_false_iff, beq_eq_false_iff_ne] at hhead
      have hname : ¬ isNameChar c = true := by rw [hhead.2]; decide
      rw [chars, List.nil_append, readHead_cons_of_ne hhead.1,
        if_pos (List.takeWhile_cons_of_neg hname)]
      rfl

theorem readHead_chars (d : HeadForm) (fs : List SimpleForm) :
    readHead (d.chars ++ fs.flatMap SimpleForm.chars) = (d.tag?, fs.flatMap SimpleForm.chars) :=
  readHead_chars_append (d.endsBefore_flatMap fs)

theorem exists_of_readHead (h : readHead cs = (tag, rest)) :
    ∃ d : HeadForm, d.chars ++ rest = cs ∧ d.tag? = tag ∧ d.EndsBefore rest := by
  unfold readHead at h
  split at h
  · obtain ⟨rfl, rfl⟩ := Prod.mk.inj h
    exact ⟨.star, rfl, rfl, trivial⟩
  · next hstar =>
    split at h
    · next hrun =>
      obtain ⟨rfl, rfl⟩ := Prod.mk.inj h
      refine ⟨.nothing, rfl, rfl, fun c hc => ?_⟩
      have hname := takeWhile_eq_nil_iff_beginsOutside.1 hrun c hc
      rw [startsHead, hname, Bool.or_false, beq_eq_false_iff_ne]
      rintro rfl
      obtain ⟨tail, rfl⟩ := List.head?_eq_some_iff.1 hc
      exact hstar tail rfl
    · next hne =>
      obtain ⟨rfl, rfl⟩ := Prod.mk.inj h
      obtain ⟨n, hn, hname, hrest⟩ :=
        Name.exists_of_readName (readName_eq_ok_iff.2 ⟨hne, rfl, rfl⟩)
      exact ⟨.tag n, hn, congrArg some hname, hrest⟩

/-- The text of a head tells which one it is. -/
theorem eq_of_chars_eq (h : d.chars = d'.chars) : d = d' := by
  have hstar : ∀ n : Name, n.chars ≠ ['*'] := by
    intro n hn
    refine n.notMem_chars (c := '*') (by decide) ?_
    rw [hn]
    exact .head _
  cases d with
  | star =>
    cases d' with
    | star => rfl
    | tag n' => exact absurd h.symm (hstar n')
    | nothing => cases h
  | tag n =>
    cases d' with
    | star => exact absurd h (hstar n)
    | tag n' => rw [Name.ext h]
    | nothing => exact absurd h n.ne_nil
  | nothing =>
    cases d' with
    | star => cases h
    | tag n' => exact absurd h.symm n'.ne_nil
    | nothing => rfl

end HeadForm

/-! ## Compounds -/

namespace Simple

/-- The id that a simple selector asks for. -/
def id? : Simple → Option String
  | .id name => some name
  | .className _ => none
  | .attribute _ => none

/-- The class that a simple selector asks for. -/
def class? : Simple → Option String
  | .id _ => none
  | .className name => some name
  | .attribute _ => none

/-- The attribute test that a simple selector asks for. -/
def attribute? : Simple → Option AttributeTest
  | .id _ => none
  | .className _ => none
  | .attribute test => some test

end Simple

/-- Simple selectors that add to a compound one by one leave the last id, and all else in order. -/
theorem ofSimples_eq (tag : Option String) (ss : List Simple) :
    Compound.ofSimples tag ss =
      { tag
        id := (ss.filterMap Simple.id?).getLast?
        classes := ss.filterMap Simple.class?
        attributes := ss.filterMap Simple.attribute? } := by
  induction ss using List.reverseRecOn with
  | nil => rfl
  | append_singleton ss s ih =>
    rw [Compound.ofSimples] at ih ⊢
    rw [List.foldl_append, ih]
    cases s <;> simp [Compound.add, Simple.id?, Simple.class?, Simple.attribute?]

/-- A compound, as it is written. -/
structure CompoundForm where
  head : HeadForm
  simples : List SimpleForm

namespace CompoundForm

variable {d d' : CompoundForm}

def chars (d : CompoundForm) : List Char := d.head.chars ++ d.simples.flatMap SimpleForm.chars

/-- What the compound asks for: the tag of its head, the classes and attribute tests in the order in
which they are written, and the last id. -/
def compound (d : CompoundForm) : Compound where
  tag := d.head.tag?
  id := (d.simples.filterMap fun f => f.simple.id?).getLast?
  classes := d.simples.filterMap fun f => f.simple.class?
  attributes := d.simples.filterMap fun f => f.simple.attribute?

theorem compound_eq_ofSimples (d : CompoundForm) :
    d.compound = Compound.ofSimples d.head.tag? (d.simples.map SimpleForm.simple) := by
  rw [ofSimples_eq, List.filterMap_map, List.filterMap_map, List.filterMap_map]
  rfl

/-- **A text is the text of one form at most.**  The head ends where reading it ends. -/
theorem eq_of_chars_eq (h : d.chars = d'.chars) : d = d' := by
  obtain ⟨head, simples⟩ := d
  obtain ⟨head', simples'⟩ := d'
  rw [chars, chars] at h
  have hread := congrArg readHead h
  rw [HeadForm.readHead_chars, HeadForm.readHead_chars] at hread
  obtain rfl := SimpleForm.eq_of_flatMap_eq (Prod.mk.inj hread).2
  obtain rfl := HeadForm.eq_of_chars_eq (List.append_cancel_right h)
  rfl

end CompoundForm

end Selector

namespace Compound

open Selector

variable {cs : List Char} {c : Compound}

/-- **A text is read as a compound exactly if it is written as one.** -/
theorem read_eq_ok_iff_form :
    read cs = .ok c ↔ ∃ d : CompoundForm, d.chars = cs ∧ d.compound = c := by
  rw [read_eq_ok_iff]
  constructor
  · rintro ⟨ss, hss, rfl⟩
    obtain ⟨head, hhead, htag, -⟩ := HeadForm.exists_of_readHead (Prod.eta (readHead cs)).symm
    obtain ⟨simples, hsimples, rfl⟩ := SimpleForm.exists_of_readSimples hss
    refine ⟨⟨head, simples⟩, ?_, ?_⟩
    · rw [CompoundForm.chars, hsimples, hhead]
    · rw [CompoundForm.compound_eq_ofSimples, htag]
  · rintro ⟨d, rfl, rfl⟩
    rw [CompoundForm.chars, HeadForm.readHead_chars]
    exact ⟨_, SimpleForm.readSimples_flatMap d.simples, (d.compound_eq_ofSimples).symm⟩

theorem parse_eq_ok_iff_form :
    parse cs = .ok c ↔ cs ≠ [] ∧ ∃ d : CompoundForm, d.chars = cs ∧ d.compound = c := by
  rw [parse_eq_ok_iff, read_eq_ok_iff_form]

end Compound
end LiveForm
