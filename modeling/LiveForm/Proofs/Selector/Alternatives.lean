import LiveForm.Proofs.Selector.Reading

/-!
# Selector lists

A selector text is cut at commas by a scan that knows brackets and quotes, and only then are the
parts read.  The scan takes every quote between brackets for the beginning of a quoted value, the
reading only one right behind the equals sign.

* `Zone.behind`: where the scan stands behind a text.
* `alternativesFrom_append`: the parts of a text that goes on are those of its two halves, joined at
  the seam.
* `parse_eq_ok_iff`: a selector is read if each part is.
* `parse_comma_iff`: two selectors with a comma between them make up the selector that picks what
  one of them picks, exactly if the scan of the first ends outside all brackets.
-/

namespace LiveForm
namespace Selector

open Text

variable {z : Zone} {cs t : List Char}

/-! ## Cutting at commas -/

/-- Where the character behind a text stands. -/
def Zone.behind (z : Zone) (cs : List Char) : Zone := cs.foldl (fun z c => z.after c) z

@[simp] theorem Zone.behind_nil (z : Zone) : z.behind [] = z := rfl

@[simp] theorem Zone.behind_cons (z : Zone) (c : Char) (cs : List Char) :
    z.behind (c :: cs) = (z.after c).behind cs := rfl

theorem alternativesFrom_ne_nil (z : Zone) (cs : List Char) : alternativesFrom z cs ≠ [] := by
  cases cs with
  | nil => simp [alternativesFrom]
  | cons c cs =>
    unfold alternativesFrom
    split
    · simp
    · split <;> simp

theorem alternativesFrom_cons_of_cut (cs : List Char) :
    alternativesFrom .outside (',' :: cs) = [] :: alternativesFrom .outside cs :=
  if_pos ⟨rfl, rfl⟩

theorem alternativesFrom_cons_of_not_cut {c : Char} {part : List Char} {parts : List (List Char)}
    (hc : ¬ (z = .outside ∧ c = ',')) (h : alternativesFrom (z.after c) cs = part :: parts) :
    alternativesFrom z (c :: cs) = (c :: part) :: parts := by
  rw [alternativesFrom, if_neg hc, h]

/-- The parts of a text that goes on: the last part of what is in front of the seam is joined to the
first one behind it. -/
theorem alternativesFrom_append {a b last first : List Char} {init rest : List (List Char)}
    (ha : alternativesFrom z a = init ++ [last])
    (hb : alternativesFrom (z.behind a) b = first :: rest) :
    alternativesFrom z (a ++ b) = init ++ (last ++ first) :: rest := by
  induction a generalizing z init last with
  | nil =>
    have hinit : init = [] ∧ [] = last := by
      simpa [alternativesFrom, List.cons_eq_append_iff] using ha
    rw [Zone.behind_nil] at hb
    rw [hinit.1, ← hinit.2]
    exact hb
  | cons c a ih =>
    rw [Zone.behind_cons] at hb
    by_cases hc : z = .outside ∧ c = ','
    · obtain ⟨rfl, rfl⟩ := hc
      rw [alternativesFrom_cons_of_cut] at ha
      rw [List.cons_append, alternativesFrom_cons_of_cut]
      cases init with
      | nil => exact absurd (List.cons.inj ha).2 (alternativesFrom_ne_nil _ _)
      | cons part init =>
        obtain ⟨hpart, hinit⟩ := List.cons.inj ha
        rw [ih hinit hb, ← hpart, List.cons_append]
    · obtain ⟨part, parts, hparts⟩ :=
        List.exists_cons_of_ne_nil (alternativesFrom_ne_nil (z.after c) a)
      rw [alternativesFrom_cons_of_not_cut hc hparts] at ha
      rw [List.cons_append]
      cases init with
      | nil =>
        obtain ⟨rfl, rfl⟩ := List.cons.inj ha
        have hjoined : alternativesFrom (z.after c) (a ++ b) = [] ++ (part ++ first) :: rest :=
          ih hparts hb
        exact alternativesFrom_cons_of_not_cut hc hjoined
      | cons part' init =>
        obtain ⟨rfl, rfl⟩ := List.cons.inj ha
        have hjoined :
            alternativesFrom (z.after c) (a ++ b) = (part :: init) ++ (last ++ first) :: rest :=
          ih hparts hb
        exact alternativesFrom_cons_of_not_cut hc hjoined

/-- Behind a text that ends outside all brackets a comma begins a new list of parts. -/
theorem alternativesFrom_append_comma (h : z.behind cs = .outside) (t : List Char) :
    alternativesFrom z (cs ++ ',' :: t) = alternativesFrom z cs ++ alternativeTexts t := by
  obtain ⟨init, last, hparts⟩ :=
    (List.eq_nil_or_concat _).resolve_left (alternativesFrom_ne_nil z cs)
  rw [List.concat_eq_append] at hparts
  rw [alternativesFrom_append hparts (by rw [h]; exact alternativesFrom_cons_of_cut t), hparts,
    List.append_nil, List.append_assoc, List.singleton_append]
  rfl

/-- Behind a text that ends between brackets a comma goes on with the last part. -/
theorem alternativesFrom_append_comma_of_ne (h : z.behind cs ≠ .outside) (t : List Char) :
    ∃ init last more rest, alternativesFrom z cs = init ++ [last] ∧
      alternativesFrom z (cs ++ ',' :: t) = init ++ (last ++ ',' :: more) :: rest := by
  obtain ⟨init, last, hparts⟩ :=
    (List.eq_nil_or_concat _).resolve_left (alternativesFrom_ne_nil z cs)
  rw [List.concat_eq_append] at hparts
  obtain ⟨more, rest, hmore⟩ :=
    List.exists_cons_of_ne_nil (alternativesFrom_ne_nil ((z.behind cs).after ',') t)
  have hcomma : alternativesFrom (z.behind cs) (',' :: t) = (',' :: more) :: rest :=
    alternativesFrom_cons_of_not_cut (fun hc => h hc.1) hmore
  exact ⟨init, last, more, rest, hparts, alternativesFrom_append hparts hcomma⟩

/-- A text is not cut, or cut first at a comma. -/
theorem alternativesFrom_eq_singleton_or (z : Zone) (cs : List Char) :
    alternativesFrom z cs = [cs] ∨ ∃ part more parts, cs = part ++ ',' :: more ∧
      alternativesFrom z cs = part :: parts ∧ parts ≠ [] := by
  induction cs generalizing z with
  | nil => exact .inl rfl
  | cons c cs ih =>
    by_cases hc : z = .outside ∧ c = ','
    · obtain ⟨rfl, rfl⟩ := hc
      exact .inr ⟨[], cs, _, rfl, alternativesFrom_cons_of_cut cs, alternativesFrom_ne_nil _ _⟩
    · rcases ih (z.after c) with h | ⟨part, more, parts, hcs, h, hparts⟩
      · exact .inl (alternativesFrom_cons_of_not_cut hc h)
      · refine .inr ⟨c :: part, more, parts, ?_, alternativesFrom_cons_of_not_cut hc h, hparts⟩
        rw [hcs, List.cons_append]

/-! ## Reading the parts -/

/-- A part of a selector text reads as a compound. -/
def ReadsAs (part : List Char) (c : Compound) : Prop := Compound.parse (trimChars part) = .ok c

/-- A selector is read if each of its parts is. -/
theorem parse_eq_ok_iff {text : String} {s : Selector} :
    parse text = .ok s ↔ s.source = trim text ∧
      List.Forall₂ ReadsAs (alternativeTexts text.toList) s.alternatives := by
  have hparts : readAlternatives text.toList = .ok s.alternatives ↔
      List.Forall₂ ReadsAs (alternativeTexts text.toList) s.alternatives := mapM_eq_ok_iff
  rw [← hparts]
  obtain ⟨source, alternatives⟩ := s
  unfold parse
  cases readAlternatives text.toList with
  | error fault => simp
  | ok read =>
    simp only [Except.ok.injEq, Selector.mk.injEq]
    exact and_congr_left fun _ => eq_comm

/-! ## Selectors side by side -/

theorem toList_append_comma (s t : String) :
    (s ++ "," ++ t).toList = s.toList ++ ',' :: t.toList := by
  rw [String.toList_append, String.toList_append, List.append_assoc]
  rfl

/-- Two selectors make up one that picks what one of them picks, if the first ends outside all
brackets. -/
theorem parse_comma_of_outside {s t : String} {a b : Selector} (ha : parse s = .ok a)
    (hb : parse t = .ok b) (h : Zone.outside.behind s.toList = .outside) :
    parse (s ++ "," ++ t) = .ok ⟨trim (s ++ "," ++ t), a.alternatives ++ b.alternatives⟩ := by
  rw [parse_eq_ok_iff, toList_append_comma, alternativeTexts, alternativesFrom_append_comma h]
  exact ⟨rfl, List.rel_append (parse_eq_ok_iff.1 ha).2 (parse_eq_ok_iff.1 hb).2⟩

/-- A selector that ends between brackets swallows a comma behind it, and then cannot be read. -/
theorem not_parse_comma_of_ne_outside {s t : String} {a u : Selector} (ha : parse s = .ok a)
    (h : Zone.outside.behind s.toList ≠ .outside) : parse (s ++ "," ++ t) ≠ .ok u := by
  intro hu
  obtain ⟨init, last, more, rest, hs, hst⟩ := alternativesFrom_append_comma_of_ne h t.toList
  have hlast := (parse_eq_ok_iff.1 ha).2
  have hjoined := (parse_eq_ok_iff.1 hu).2
  rw [alternativeTexts, hs] at hlast
  rw [alternativeTexts, toList_append_comma, hst] at hjoined
  obtain ⟨c, -, hc⟩ := exists_mem_right_of_forall₂ hlast (List.mem_append_right _ (.head _))
  obtain ⟨d, -, hd⟩ := exists_mem_right_of_forall₂ hjoined (List.mem_append_right _ (.head _))
  exact Compound.not_parse_comma hc hd

/-- **Selector lists.**  Two selectors with a comma between them are a selector exactly if the scan
for commas ends outside all brackets behind the first; then it picks what one of the two picks.  A
value without quotes that holds a quote keeps the scan from ending there. -/
theorem parse_comma_iff {s t : String} {a b : Selector} (ha : parse s = .ok a)
    (hb : parse t = .ok b) :
    ((∃ u, parse (s ++ "," ++ t) = .ok u) ↔ Zone.outside.behind s.toList = .outside) ∧
    ∀ u, parse (s ++ "," ++ t) = .ok u →
      ∀ e, u.selects e = true ↔ a.selects e = true ∨ b.selects e = true := by
  refine ⟨⟨?_, fun h => ⟨_, parse_comma_of_outside ha hb h⟩⟩, fun u hu e => ?_⟩
  · rintro ⟨u, hu⟩
    by_contra h
    exact not_parse_comma_of_ne_outside ha h hu
  · by_cases h : Zone.outside.behind s.toList = .outside
    · rw [parse_comma_of_outside ha hb h] at hu
      obtain rfl := Except.ok.inj hu
      rw [selects, List.any_append, Bool.or_eq_true]
      rfl
    · exact absurd hu (not_parse_comma_of_ne_outside ha h)

theorem parse_comma_iff_quoted :
    (∃ u, parse ("a[b=\",\"]" ++ "," ++ "#c, .d") = .ok u ∧
      u.selects { tag := "p", id := some "c" } = true) ∧
    Zone.outside.behind "a[b=\",\"]".toList = .outside := by
  have hfirst : parse "a[b=\",\"]" =
      .ok ⟨"a[b=\",\"]", [{ tag := some "a", attributes := [⟨"b", some ","⟩] }]⟩ := by
    decide +kernel
  have hsecond : parse "#c, .d" = .ok ⟨"#c, .d", [{ id := some "c" }, { classes := ["d"] }]⟩ := by
    decide +kernel
  obtain ⟨hiff, hpicks⟩ := parse_comma_iff hfirst hsecond
  obtain ⟨u, hu⟩ := hiff.2 (by decide)
  refine ⟨⟨u, hu, (hpicks u hu _).2 (.inr ?_)⟩, by decide⟩
  decide

/-- Both texts are selectors, and the two with a comma between them are none: the quote in the value
swallows the comma. -/
theorem not_parse_comma_behind_quote :
    parse "[a=b\"c]" = .ok ⟨"[a=b\"c]", [{ attributes := [⟨"a", some "b\"c"⟩] }]⟩ ∧
    parse "x" = .ok ⟨"x", [{ tag := some "x" }]⟩ ∧
    parse ("[a=b\"c]" ++ "," ++ "x") = .error ⟨"[a=b\"c],x", .unexpected ',' 7⟩ := by
  refine ⟨?_, ?_, ?_⟩ <;> decide +kernel

end Selector
end LiveForm
