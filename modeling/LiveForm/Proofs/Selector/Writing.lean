import LiveForm.Proofs.Selector.ListGrammar

/-!
# Writing selectors

A compound whose names are names, and whose values leave one of the two quotes free, can be written
as a text: its tag or a star, its id, its classes, and its attribute tests with the values between
quotes that are free.  Several are written with commas between them and any blanks around each.
What is written so is read back, whatever the values hold.

* `Simple.WrittenAs`, `Compound.WrittenAs`, `Selector.WrittenAs`: what is written as which text.
* `Zone.Crosses`: the scan for commas goes from one zone through a text into another, and cuts
  nothing.  Every value is between quotes, so the scan is where the reading is: inside a quoted
  value nothing but its quote counts for either.
* `Compound.WrittenAs.crosses`, `Compound.WrittenAs.exists_form`: the scan and the reading, each
  over the same simple selectors.
* `Compound.holdsFor_iff_fits`: what a compound asks for, one thing after the other.
* `Selector.parse_written`: what is written is read back.
-/

namespace LiveForm

open List (Forall₂)

namespace Selector

/-! ## What is written -/

/-- One or more of the characters that names are made of. -/
def IsName (name : String) : Prop := name.toList ≠ [] ∧ ∀ c ∈ name.toList, isNameChar c = true

instance (name : String) : Decidable (IsName name) :=
  decidable_of_iff (name.toList ≠ [] ∧ name.toList.all isNameChar = true)
    (and_congr_right fun _ => List.all_eq_true)

/-- The names are names, and a value leaves one of the two quotes free. -/
def Simple.IsWritable : Simple → Prop
  | .id name => IsName name
  | .className name => IsName name
  | .attribute test =>
      IsName test.name ∧ ∀ value ∈ test.value, '"' ∉ value.toList ∨ '\'' ∉ value.toList

instance : DecidablePred Simple.IsWritable
  | .id name => inferInstanceAs (Decidable (IsName name))
  | .className name => inferInstanceAs (Decidable (IsName name))
  | .attribute test => inferInstanceAs (Decidable (IsName test.name ∧
      ∀ value ∈ test.value, '"' ∉ value.toList ∨ '\'' ∉ value.toList))

/-- A simple selector is written as a text; a value stands between two equal quotes that do not
occur in it. -/
inductive Simple.WrittenAs : Simple → List Char → Prop
  | id (name : String) : WrittenAs (.id name) ('#' :: name.toList)
  | className (name : String) : WrittenAs (.className name) ('.' :: name.toList)
  | bare (name : String) : WrittenAs (.attribute ⟨name, none⟩) ('[' :: (name.toList ++ [']']))
  | quoted (name value : String) (quote : Char) (isQuote_quote : isQuote quote = true)
      (quote_notMem : quote ∉ value.toList) :
      WrittenAs (.attribute ⟨name, some value⟩)
        ('[' :: (name.toList ++ '=' :: quote :: (value.toList ++ [quote, ']'])))

end Selector

namespace Compound

open Selector Text

/-- The simple selectors that ask for what the compound asks for behind its tag: the id, then the
classes, then the attribute tests. -/
def simples (c : Compound) : List Simple :=
  c.id.toList.map .id ++ c.classes.map .className ++ c.attributes.map .attribute

/-- The names are names, and every value leaves one of the two quotes free. -/
structure IsWritable (c : Compound) : Prop where
  tag : ∀ tag ∈ c.tag, IsName tag
  simples : ∀ s ∈ c.simples, s.IsWritable

instance (c : Compound) : Decidable c.IsWritable :=
  decidable_of_iff ((∀ tag ∈ c.tag, IsName tag) ∧ ∀ s ∈ c.simples, s.IsWritable)
    ⟨fun h => ⟨h.1, h.2⟩, fun h => ⟨h.tag, h.simples⟩⟩

/-- The head of the compound as it is written: its tag, or a star. -/
def headChars (c : Compound) : List Char := (c.tag.map String.toList).getD ['*']

/-- The compound is written as a text: its head, and then its simple selectors. -/
def WrittenAs (c : Compound) (cs : List Char) : Prop :=
  ∃ texts, Forall₂ Simple.WrittenAs c.simples texts ∧ cs = c.headChars ++ texts.flatten

/-- The compound is written as a text with blanks around it. -/
def PaddedAs (c : Compound) (cs : List Char) : Prop :=
  ∃ before body behind, (∀ b ∈ before, isBlank b = true) ∧ c.WrittenAs body ∧
    (∀ b ∈ behind, isBlank b = true) ∧ cs = before ++ body ++ behind

end Compound

/-- The compounds are written as a text: with commas between them, and with blanks around each. -/
def Selector.WrittenAs (compounds : List Compound) (text : String) : Prop :=
  ∃ parts, Forall₂ Compound.PaddedAs compounds parts ∧ text.toList = [','].intercalate parts

/-! ## The scan for commas -/

namespace Selector

open Text

variable {s : Simple} {cs a b : List Char} {z z' z'' : Zone}

/-- The scan goes from one zone through a text into another, and cuts nothing. -/
structure Zone.Crosses (z : Zone) (cs : List Char) (z' : Zone) : Prop where
  alternativesFrom_eq : alternativesFrom z cs = [cs]
  behind_eq : z.behind cs = z'

namespace Zone.Crosses

theorem nil (z : Zone) : z.Crosses [] z := ⟨rfl, rfl⟩

theorem cons {c : Char} (hc : ¬ (z = .outside ∧ c = ',')) (h : (z.after c).Crosses cs z') :
    z.Crosses (c :: cs) z' where
  alternativesFrom_eq := alternativesFrom_cons_of_not_cut hc h.alternativesFrom_eq
  behind_eq := h.behind_eq

theorem append (h : z.Crosses a z') (h' : z'.Crosses b z'') : z.Crosses (a ++ b) z'' where
  alternativesFrom_eq := by
    have ha : alternativesFrom z a = [] ++ [a] := h.alternativesFrom_eq
    have hb : alternativesFrom (z.behind a) b = b :: [] := by
      rw [h.behind_eq]
      exact h'.alternativesFrom_eq
    exact alternativesFrom_append ha hb
  behind_eq := by
    have ha : a.foldl (fun z c => z.after c) z = z' := h.behind_eq
    rw [behind, List.foldl_append, ha]
    exact h'.behind_eq

/-- A text whose characters do not lead out of a zone is crossed in that zone. -/
theorem of_forall (h : ∀ c ∈ cs, ¬ (z = .outside ∧ c = ',') ∧ z.after c = z) : z.Crosses cs z := by
  induction cs with
  | nil => exact nil z
  | cons c cs ih =>
    rw [List.forall_mem_cons] at h
    obtain ⟨⟨hc, hafter⟩, h⟩ := h
    refine cons hc ?_
    rw [hafter]
    exact ih h

/-- Outside brackets nothing counts but commas and the brackets that open. -/
theorem outside (hopen : '[' ∉ cs) (hcomma : ',' ∉ cs) : Zone.outside.Crosses cs .outside := by
  refine of_forall fun c hc => ⟨?_, if_neg ?_⟩
  · rintro ⟨-, rfl⟩
    exact hcomma hc
  · rintro rfl
    exact hopen hc

/-- Between brackets nothing counts but quotes and the bracket that closes. -/
theorem bracket (hquote : ∀ c ∈ cs, isQuote c = false) (hclose : ']' ∉ cs) :
    Zone.bracket.Crosses cs .bracket := by
  refine of_forall fun c hc => ⟨fun hcut => absurd hcut.1 (by decide), ?_⟩
  have hne : c ≠ ']' := by
    rintro rfl
    exact hclose hc
  rw [Zone.after, hquote c hc, if_neg Bool.false_ne_true, if_neg hne]

/-- Behind a quote nothing counts but that quote. -/
theorem quoted {quote : Char} (h : quote ∉ cs) :
    (Zone.quoted quote).Crosses cs (.quoted quote) := by
  refine of_forall fun c hc => ⟨fun hcut => ?_, if_neg ?_⟩
  · cases hcut.1
  · rintro rfl
    exact h hc

end Zone.Crosses

/-- A name as a form. -/
theorem IsName.exists_name {name : String} (h : IsName name) :
    ∃ n : Name, n.chars = name.toList ∧ n.string = name :=
  ⟨⟨name.toList, h.1, h.2⟩, rfl, String.ofList_toList⟩

theorem IsName.notMem {name : String} (h : IsName name) {c : Char} (hc : isNameChar c = false) :
    c ∉ name.toList := by
  obtain ⟨n, hchars, -⟩ := h.exists_name
  rw [← hchars]
  exact n.notMem_chars hc

theorem IsName.crosses_outside {name : String} (h : IsName name) :
    Zone.outside.Crosses name.toList .outside :=
  .outside (h.notMem (by decide)) (h.notMem (by decide))

theorem IsName.crosses_bracket {name : String} (h : IsName name) :
    Zone.bracket.Crosses name.toList .bracket := by
  refine .bracket (fun c hc => ?_) (h.notMem (by decide))
  rw [← Bool.not_eq_true, isQuote, Bool.or_eq_true, beq_iff_eq, beq_iff_eq]
  rintro (rfl | rfl)
  · exact h.notMem (by decide) hc
  · exact h.notMem (by decide) hc

/-- **The scan goes through a simple selector** and is outside all brackets behind it. -/
theorem Simple.WrittenAs.crosses (h : s.WrittenAs cs) (hs : s.IsWritable) :
    Zone.outside.Crosses cs .outside := by
  cases h with
  | id name => exact .cons (by decide) (IsName.crosses_outside hs)
  | className name => exact .cons (by decide) (IsName.crosses_outside hs)
  | bare name =>
    have hclose : Zone.bracket.Crosses [']'] .outside := .cons (by decide) (.nil _)
    exact .cons (by decide) (hs.1.crosses_bracket.append hclose)
  | quoted name value quote hquote hfree =>
    have hafter : Zone.bracket.after quote = .quoted quote := if_pos hquote
    have hagain : (Zone.quoted quote).after quote = .bracket := if_pos rfl
    -- from behind: the closing quote, then the value, in which the quote does not occur
    have hclose : (Zone.quoted quote).Crosses [quote, ']'] .outside := by
      refine .cons (by simp) ?_
      rw [hagain]
      exact .cons (by decide) (.nil _)
    have hvalue : (Zone.quoted quote).Crosses (value.toList ++ [quote, ']']) .outside :=
      (Zone.Crosses.quoted hfree).append hclose
    have hopen : Zone.bracket.Crosses (quote :: (value.toList ++ [quote, ']'])) .outside := by
      refine .cons (by simp) ?_
      rwa [hafter]
    have hbehind : Zone.bracket.Crosses ('=' :: quote :: (value.toList ++ [quote, ']'])) .outside :=
      .cons (by decide) hopen
    exact .cons (by decide) (hs.1.crosses_bracket.append hbehind)

theorem crosses_flatten {texts : List (List Char)}
    (h : ∀ text ∈ texts, Zone.outside.Crosses text .outside) :
    Zone.outside.Crosses texts.flatten .outside := by
  induction texts with
  | nil => exact .nil _
  | cons text texts ih =>
    rw [List.forall_mem_cons] at h
    rw [List.flatten_cons]
    exact h.1.append (ih h.2)

/-- Texts that the scan goes through are what it cuts their list into. -/
theorem alternativeTexts_intercalate {parts : List (List Char)} (hne : parts ≠ [])
    (h : ∀ part ∈ parts, Zone.outside.Crosses part .outside) :
    alternativeTexts ([','].intercalate parts) = parts := by
  induction parts with
  | nil => exact absurd rfl hne
  | cons part parts ih =>
    rw [List.forall_mem_cons] at h
    cases parts with
    | nil =>
      rw [List.intercalate_singleton]
      exact h.1.alternativesFrom_eq
    | cons part' parts =>
      rw [List.intercalate_cons_cons, List.append_assoc, List.singleton_append, alternativeTexts,
        alternativesFrom_append_comma h.1.behind_eq, h.1.alternativesFrom_eq,
        ih (List.cons_ne_nil _ _) h.2, List.singleton_append]

end Selector

namespace Compound

open Selector Text

variable {c : Compound} {cs : List Char}

theorem IsWritable.headChars_eq (h : c.IsWritable) :
    c.headChars = ['*'] ∨ ∃ name, IsName name ∧ c.headChars = name.toList := by
  cases htag : c.tag with
  | none =>
    rw [headChars, htag]
    exact .inl rfl
  | some name =>
    rw [headChars, htag]
    exact .inr ⟨name, h.tag name htag, rfl⟩

/-- **The scan goes through a compound** and is outside all brackets behind it. -/
theorem WrittenAs.crosses (h : c.WrittenAs cs) (hc : c.IsWritable) :
    Zone.outside.Crosses cs .outside := by
  obtain ⟨texts, htexts, rfl⟩ := h
  have hhead : Zone.outside.Crosses c.headChars .outside := by
    rcases hc.headChars_eq with hhead | ⟨name, hname, hhead⟩
    · rw [hhead]
      exact .outside (by decide) (by decide)
    · rw [hhead]
      exact hname.crosses_outside
  refine hhead.append (crosses_flatten fun text htext => ?_)
  obtain ⟨s, hs, hwritten⟩ := exists_mem_left_of_forall₂ htexts htext
  exact hwritten.crosses (hc.simples s hs)

theorem PaddedAs.crosses (h : c.PaddedAs cs) (hc : c.IsWritable) :
    Zone.outside.Crosses cs .outside := by
  obtain ⟨before, body, behind, hbefore, hbody, hbehind, rfl⟩ := h
  have hblank : ∀ {blanks : List Char}, (∀ b ∈ blanks, isBlank b = true) →
      Zone.outside.Crosses blanks .outside := by
    intro blanks h
    refine .outside (fun hmem => ?_) (fun hmem => ?_)
    · exact absurd (h _ hmem) (by decide)
    · exact absurd (h _ hmem) (by decide)
  exact ((hblank hbefore).append (hbody.crosses hc)).append (hblank hbehind)

end Compound

/-! ## Reading what is written -/

namespace Selector

variable {s : Simple} {cs : List Char}

/-- What a simple selector is written as is a form of it. -/
theorem Simple.WrittenAs.exists_form (h : s.WrittenAs cs) (hs : s.IsWritable) :
    ∃ f : SimpleForm, f.chars = cs ∧ f.simple = s := by
  cases h with
  | id name =>
    obtain ⟨n, hchars, rfl⟩ := IsName.exists_name hs
    exact ⟨.id n, by rw [SimpleForm.chars, hchars], rfl⟩
  | className name =>
    obtain ⟨n, hchars, rfl⟩ := IsName.exists_name hs
    exact ⟨.className n, by rw [SimpleForm.chars, hchars], rfl⟩
  | bare name =>
    obtain ⟨n, hchars, rfl⟩ := hs.1.exists_name
    exact ⟨.test n none, by rw [SimpleForm.chars, hchars]; rfl, rfl⟩
  | quoted name value quote hquote hfree =>
    obtain ⟨n, hchars, rfl⟩ := hs.1.exists_name
    refine ⟨.test n (some (.quoted quote value.toList hquote hfree)), ?_, ?_⟩
    · rw [SimpleForm.chars, hchars, SimpleForm.attributeEnd, ValueForm.chars, List.cons_append,
        List.append_assoc]
      rfl
    · rw [SimpleForm.simple, Option.map_some, ValueForm.string, ValueForm.inside,
        String.ofList_toList]

/-- What simple selectors are written as are forms of them, one behind the other. -/
theorem exists_forms {ss : List Simple} {texts : List (List Char)}
    (h : Forall₂ Simple.WrittenAs ss texts) (hss : ∀ s ∈ ss, s.IsWritable) :
    ∃ fs : List SimpleForm, fs.flatMap SimpleForm.chars = texts.flatten ∧
      fs.map SimpleForm.simple = ss := by
  induction h with
  | nil => exact ⟨[], rfl, rfl⟩
  | cons hs _ ih =>
    rw [List.forall_mem_cons] at hss
    obtain ⟨f, hf, rfl⟩ := hs.exists_form hss.1
    obtain ⟨fs, hfs, rfl⟩ := ih hss.2
    exact ⟨f :: fs, by rw [List.flatMap_cons, List.flatten_cons, hf, hfs], rfl⟩

end Selector

namespace Compound

open Selector Text

variable {c : Compound} {cs : List Char}

/-- A compound asks for what its tag and its simple selectors ask for. -/
theorem ofSimples_simples (c : Compound) : ofSimples c.tag c.simples = c := by
  obtain ⟨tag, id, classes, attributes⟩ := c
  rw [ofSimples_eq, simples]
  simp only [List.filterMap_append, List.filterMap_map, Function.comp_def]
  cases id <;> simp [Simple.id?, Simple.class?, Simple.attribute?]

theorem IsWritable.exists_head (h : c.IsWritable) :
    ∃ d : HeadForm, d.chars = c.headChars ∧ d.tag? = c.tag := by
  cases htag : c.tag with
  | none => exact ⟨.star, by rw [headChars, htag]; rfl, rfl⟩
  | some name =>
    obtain ⟨n, hchars, rfl⟩ := (h.tag name htag).exists_name
    exact ⟨.tag n, by rw [headChars, htag]; exact hchars, rfl⟩

/-- **What a compound is written as is a form of it.** -/
theorem WrittenAs.exists_form (h : c.WrittenAs cs) (hc : c.IsWritable) :
    ∃ d : CompoundForm, d.chars = cs ∧ d.compound = c := by
  obtain ⟨texts, htexts, rfl⟩ := h
  obtain ⟨head, hhead, htag⟩ := hc.exists_head
  obtain ⟨fs, hfs, hsimples⟩ := exists_forms htexts hc.simples
  refine ⟨⟨head, fs⟩, ?_, ?_⟩
  · rw [CompoundForm.chars, hhead, hfs]
  · rw [CompoundForm.compound_eq_ofSimples, htag, hsimples, ofSimples_simples]

theorem WrittenAs.ne_nil (h : c.WrittenAs cs) (hc : c.IsWritable) : cs ≠ [] := by
  obtain ⟨texts, -, rfl⟩ := h
  refine List.append_ne_nil_of_left_ne_nil ?_ _
  rcases hc.headChars_eq with hhead | ⟨name, hname, hhead⟩
  · rw [hhead]
    exact List.cons_ne_nil _ _
  · rw [hhead]
    exact hname.1

/-- **What a compound is written as, with blanks around it, is read as that compound.** -/
theorem PaddedAs.readsAs (h : c.PaddedAs cs) (hc : c.IsWritable) : ReadsAs cs c := by
  obtain ⟨before, body, behind, hbefore, hbody, hbehind, rfl⟩ := h
  have hne := hbody.ne_nil hc
  obtain ⟨d, rfl, hd⟩ := hbody.exists_form hc
  have hread := PaddedForm.readsAs ⟨before, d, behind, hbefore, hbehind, hne⟩
  rwa [hd] at hread

/-! ## Writing is possible -/

/-- A writable simple selector can be written: one of the two quotes is free. -/
theorem exists_writtenAs_of_isWritable {s : Simple} (hs : s.IsWritable) :
    ∃ cs, s.WrittenAs cs := by
  rcases s with name | name | ⟨name, _ | value⟩
  · exact ⟨_, .id name⟩
  · exact ⟨_, .className name⟩
  · exact ⟨_, .bare name⟩
  · rcases hs.2 value rfl with hfree | hfree
    · exact ⟨_, .quoted name value '"' rfl hfree⟩
    · exact ⟨_, .quoted name value '\'' rfl hfree⟩

/-- A writable compound can be written, without any blanks. -/
theorem IsWritable.exists_paddedAs (hc : c.IsWritable) : ∃ cs, c.PaddedAs cs := by
  obtain ⟨texts, htexts⟩ := exists_forall₂ fun s hs =>
    exists_writtenAs_of_isWritable (hc.simples s hs)
  refine ⟨_, [], _, [], fun _ hb => ?_, ⟨texts, htexts, rfl⟩, fun _ hb => ?_, rfl⟩
  · cases hb
  · cases hb

/-! ## What a compound asks for -/

/-- The element has the tag, but for the case of ASCII letters, the id, all classes and all
attributes that the compound asks for, and their values where they are given. -/
structure Fits (c : Compound) (e : Element) : Prop where
  tag : ∀ tag ∈ c.tag, e.tag.toList.map Char.toLower = tag.toList.map Char.toLower
  id : ∀ id ∈ c.id, e.id = some id
  classes : ∀ name ∈ c.classes, name ∈ e.classes
  attributes : ∀ test ∈ c.attributes, ∃ value, e.attribute? test.name = some value ∧
    ∀ wanted ∈ test.value, value = wanted

theorem holdsFor_iff_fits {e : Element} : c.holdsFor e = true ↔ c.Fits e := by
  have htag : c.tag.all (sameTag e.tag) = true ↔
      ∀ tag ∈ c.tag, e.tag.toList.map Char.toLower = tag.toList.map Char.toLower := by
    rw [Option.all_eq_true]
    refine forall₂_congr fun tag _ => ?_
    exact beq_iff_eq
  have hid : c.id.all (fun id => e.id == some id) = true ↔ ∀ id ∈ c.id, e.id = some id := by
    rw [Option.all_eq_true]
    exact forall₂_congr fun id _ => beq_iff_eq
  have hclasses : c.classes.all e.hasClass = true ↔ ∀ name ∈ c.classes, name ∈ e.classes := by
    rw [List.all_eq_true]
    exact forall₂_congr fun name _ => NameSet.contains_iff
  have htest : ∀ test : AttributeTest, test.holdsFor e = true ↔
      ∃ value, e.attribute? test.name = some value ∧ ∀ wanted ∈ test.value, value = wanted := by
    rintro ⟨name, wanted⟩
    unfold AttributeTest.holdsFor
    cases hvalue : e.attribute? name with
    | none => simp
    | some value =>
      cases wanted with
      | none => simp
      | some wanted =>
        simp only [beq_iff_eq, Option.some.injEq, Option.mem_def, forall_eq', exists_eq_left']
        exact eq_comm
  have hattributes : c.attributes.all (·.holdsFor e) = true ↔ ∀ test ∈ c.attributes,
      ∃ value, e.attribute? test.name = some value ∧ ∀ wanted ∈ test.value, value = wanted := by
    rw [List.all_eq_true]
    exact forall₂_congr fun test _ => htest test
  rw [holdsFor, Bool.and_eq_true, Bool.and_eq_true, Bool.and_eq_true, htag, hid, hclasses,
    hattributes]
  exact ⟨fun ⟨⟨⟨htag, hid⟩, hclasses⟩, hattributes⟩ => ⟨htag, hid, hclasses, hattributes⟩,
    fun h => ⟨⟨⟨h.tag, h.id⟩, h.classes⟩, h.attributes⟩⟩

end Compound

/-! ## Selectors -/

namespace Selector

variable {compounds : List Compound} {text : String}

theorem selects_iff_fits {s : Selector} {e : Element} :
    s.selects e = true ↔ ∃ c ∈ s.alternatives, c.Fits e := by
  rw [selects, List.any_eq_true]
  exact exists_congr fun c => and_congr_right fun _ => Compound.holdsFor_iff_fits

/-- **What is written is read back.**  Compounds whose names are names, and whose values leave one
of the two quotes free, can be written as a text, and whatever the values, the quotes and the
blanks, that text is read as a selector with just these compounds; so it picks the elements that are
what one of them asks for. -/
theorem parse_written (hne : compounds ≠ []) (hw : ∀ c ∈ compounds, c.IsWritable) :
    (∃ text, WrittenAs compounds text) ∧
    ∀ text, WrittenAs compounds text → ∃ s, parse text = .ok s ∧ s.alternatives = compounds ∧
      ∀ e, s.selects e = true ↔ ∃ c ∈ compounds, c.Fits e := by
  constructor
  · obtain ⟨parts, hparts⟩ := exists_forall₂ fun c hc => (hw c hc).exists_paddedAs
    exact ⟨String.ofList ([','].intercalate parts), parts, hparts, String.toList_ofList⟩
  · rintro text ⟨parts, hparts, htext⟩
    have hwritable := (List.forall₂_and_left compounds parts).2 ⟨hw, hparts⟩
    have hpartsNe : parts ≠ [] := by
      rintro rfl
      exact hne (List.forall₂_nil_right_iff.1 hparts)
    -- the scan finds the commas that were written, and no others
    have hcut : alternativeTexts text.toList = parts := by
      rw [htext]
      refine alternativeTexts_intercalate hpartsNe fun part hpart => ?_
      obtain ⟨c, -, hc, hpadded⟩ := exists_mem_left_of_forall₂ hwritable hpart
      exact hpadded.crosses hc
    have hread : Forall₂ ReadsAs parts compounds :=
      (hwritable.imp fun c part h => h.2.readsAs h.1).flip
    refine ⟨⟨Text.trim text, compounds⟩, parse_eq_ok_iff.2 ⟨rfl, ?_⟩, rfl, fun e => ?_⟩
    · rwa [hcut]
    · exact selects_iff_fits

/-- Compounds with values that hold brackets, a comma, quotes, a line feed and blanks. -/
def hardValues : List Compound :=
  [{ tag := "Input", id := "a-1", classes := ["b", "_"],
      attributes := [⟨"x", "],'\né "⟩, ⟨"y", none⟩] },
    { attributes := [⟨"z", "[\""⟩] }]

theorem parse_written_hardValues :
    hardValues ≠ [] ∧ (∀ c ∈ hardValues, c.IsWritable) ∧
    ∃ s, parse "\tInput#a-1.b._[x=\"],'\né \"][y] ,\u00a0*[z='[\"']\n" = .ok s ∧
      s.alternatives = hardValues ∧
      s.selects { tag := "INPUT", attributes := [("z", "[\"")] } = true := by
  have hw : ∀ c ∈ hardValues, c.IsWritable := by decide +kernel
  have hfirst : Forall₂ Simple.WrittenAs (hardValues[0].simples)
      ["#a-1".toList, ".b".toList, "._".toList, "[x=\"],'\né \"]".toList, "[y]".toList] :=
    .cons (.id "a-1") (.cons (.className "b") (.cons (.className "_")
      (.cons (.quoted "x" "],'\né " '"' rfl (by decide)) (.cons (.bare "y") .nil))))
  have hsecond : Forall₂ Simple.WrittenAs (hardValues[1].simples) ["[z='[\"']".toList] :=
    .cons (.quoted "z" "[\"" '\'' rfl (by decide)) .nil
  have hblank : ∀ c : Char, Text.isBlank c = true → ∀ b ∈ [c], Text.isBlank b = true :=
    fun c hc b hb => List.mem_singleton.1 hb ▸ hc
  have hwritten : WrittenAs hardValues "\tInput#a-1.b._[x=\"],'\né \"][y] ,\u00a0*[z='[\"']\n" :=
    ⟨_, .cons ⟨['\t'], _, [' '], hblank _ rfl, ⟨_, hfirst, rfl⟩, hblank _ rfl, rfl⟩
      (.cons ⟨['\u00a0'], _, ['\n'], hblank _ rfl, ⟨_, hsecond, rfl⟩, hblank _ rfl, rfl⟩ .nil),
      by decide⟩
  obtain ⟨s, hs, halternatives, hselects⟩ := (parse_written (by decide) hw).2 _ hwritten
  refine ⟨by decide, hw, s, hs, halternatives, (hselects _).2 ⟨_, .tail _ (.head _), ?_⟩⟩
  rw [← Compound.holdsFor_iff_fits]
  decide

end Selector
end LiveForm
