import LiveForm.Proofs.Selector.Alternatives

/-!
# Blanks around a selector

A selector text is cut at its commas first, and only then are the parts trimmed; the source is
trimmed apart from them.  Blanks around the text are no brackets, quotes or commas, so those in
front leave the scan for commas where it was, and those behind are not cut, wherever the scan stands
by then.  All they do is to make the first part and the last one longer, and trimming undoes that.

* `Zone.behind_of_isBlank`, `alternativesFrom_of_notMem`: what the scan makes of blanks alone.
* `map_trimChars_blanks_append`, `map_trimChars_append_blanks`: the trimmed parts of a text with
  blanks in front of it, and behind it.
* `parse_padded`: a selector text with blanks around it, whether it can be read or not.
* `outer_blanks_do_not_matter`: the main statement.
-/

namespace LiveForm
namespace Selector

open Text

variable {cs us vs : List Char}

/-! ## Blanks alone -/

/-- Blanks outside all brackets leave the scan there. -/
theorem Zone.behind_of_isBlank (h : ∀ c ∈ us, isBlank c = true) :
    Zone.outside.behind us = .outside := by
  induction us with
  | nil => rfl
  | cons c us ih =>
    rw [List.forall_mem_cons] at h
    have hbracket : c ≠ '[' := by
      rintro rfl
      exact absurd h.1 (by decide)
    have hafter : Zone.outside.after c = .outside := if_neg hbracket
    rw [Zone.behind_cons, hafter, ih h.2]

/-- A text without commas is not cut, in whatever zone it starts. -/
theorem alternativesFrom_of_notMem (h : ',' ∉ cs) (z : Zone) : alternativesFrom z cs = [cs] := by
  rcases alternativesFrom_eq_singleton_or z cs with hone | ⟨part, more, parts, rfl, -⟩
  · exact hone
  · exact absurd (List.mem_append_right part (.head more)) h

theorem comma_notMem_of_isBlank (h : ∀ c ∈ us, isBlank c = true) : ',' ∉ us :=
  fun hcomma => absurd (h ',' hcomma) (by decide)

/-! ## Trimmed parts -/

theorem trimChars_blanks_append (hu : ∀ c ∈ us, isBlank c = true) (cs : List Char) :
    trimChars (us ++ cs) = trimChars cs := by
  have hpadded := strip_padded hu (fun _ hc => absurd hc List.not_mem_nil) cs
  rwa [List.append_nil] at hpadded

theorem trimChars_append_blanks (hv : ∀ c ∈ vs, isBlank c = true) (cs : List Char) :
    trimChars (cs ++ vs) = trimChars cs :=
  strip_padded (fun _ hc => absurd hc List.not_mem_nil) hv cs

/-- Blanks in front of a text make its first part longer, and trimming undoes that. -/
theorem map_trimChars_blanks_append (hu : ∀ c ∈ us, isBlank c = true) (cs : List Char) :
    (alternativeTexts (us ++ cs)).map trimChars = (alternativeTexts cs).map trimChars := by
  obtain ⟨first, rest, hparts⟩ :=
    List.exists_cons_of_ne_nil (alternativesFrom_ne_nil .outside cs)
  have hblanks : alternativesFrom .outside us = [] ++ [us] :=
    alternativesFrom_of_notMem (comma_notMem_of_isBlank hu) _
  have hjoined : alternativesFrom .outside (us ++ cs) = [] ++ (us ++ first) :: rest :=
    alternativesFrom_append hblanks (by rw [Zone.behind_of_isBlank hu, hparts])
  rw [alternativeTexts, hjoined, List.nil_append, List.map_cons, trimChars_blanks_append hu,
    ← List.map_cons, ← hparts, alternativeTexts]

/-- Blanks behind a text make its last part longer, closed or not, and trimming undoes that. -/
theorem map_trimChars_append_blanks (hv : ∀ c ∈ vs, isBlank c = true) (cs : List Char) :
    (alternativeTexts (cs ++ vs)).map trimChars = (alternativeTexts cs).map trimChars := by
  obtain ⟨init, last, hparts⟩ :=
    (List.eq_nil_or_concat _).resolve_left (alternativesFrom_ne_nil .outside cs)
  rw [List.concat_eq_append] at hparts
  have hjoined : alternativesFrom .outside (cs ++ vs) = init ++ (last ++ vs) :: [] :=
    alternativesFrom_append hparts (alternativesFrom_of_notMem (comma_notMem_of_isBlank hv) _)
  rw [alternativeTexts, hjoined, List.map_append, List.map_singleton, trimChars_append_blanks hv,
    ← List.map_singleton, ← List.map_append, ← hparts, alternativeTexts]

/-! ## Reading -/

/-- What is read depends on the trimmed parts. -/
theorem readAlternatives_eq_mapM (cs : List Char) :
    readAlternatives cs = ((alternativeTexts cs).map trimChars).mapM Compound.parse := by
  rw [List.mapM_map]
  rfl

theorem readAlternatives_padded (hu : ∀ c ∈ us, isBlank c = true)
    (hv : ∀ c ∈ vs, isBlank c = true) (cs : List Char) :
    readAlternatives (us ++ cs ++ vs) = readAlternatives cs := by
  rw [readAlternatives_eq_mapM, map_trimChars_append_blanks hv, map_trimChars_blanks_append hu,
    readAlternatives_eq_mapM]

variable {u v : String}

/-- **Blanks around a selector text show in the quoted text of an error, and nowhere else.** -/
theorem parse_padded (hu : ∀ c ∈ u.toList, isBlank c = true)
    (hv : ∀ c ∈ v.toList, isBlank c = true) (s : String) :
    parse (u ++ s ++ v) = (parse s).mapError fun e => { e with source := u ++ s ++ v } := by
  have htext : (u ++ s ++ v).toList = u.toList ++ s.toList ++ v.toList := by
    rw [String.toList_append, String.toList_append]
  have htrim : trim (u ++ s ++ v) = trim s := by
    rw [trim, htext, trimChars, strip_padded hu hv]
    rfl
  rw [parse, htext, readAlternatives_padded hu hv, htrim, parse]
  cases readAlternatives s.toList with
  | ok alternatives => rfl
  | error fault => rfl

/-- A text is its trimmed form with blanks around it. -/
theorem exists_padded_trim (s : String) : ∃ u v : String, s = u ++ trim s ++ v ∧
    (∀ c ∈ u.toList, isBlank c = true) ∧ ∀ c ∈ v.toList, isBlank c = true := by
  obtain ⟨us, vs, hs, hu, hv⟩ := exists_strip_eq isBlank s.toList
  refine ⟨String.ofList us, String.ofList vs, ?_, ?_, ?_⟩
  · rw [← String.toList_inj, String.toList_append, String.toList_append, String.toList_ofList,
      String.toList_ofList, toList_trim]
    exact hs
  · rwa [String.toList_ofList]
  · rwa [String.toList_ofList]

/-- **Outer blanks do not matter.**  A selector text with blanks around it is read exactly if the
text alone is, and as the same selector.  If it is not read then the fault is the same, its
character and its position among them, and the two errors differ in the text that they quote only.
So a selector is read again from the source that it shows. -/
theorem outer_blanks_do_not_matter (hu : ∀ c ∈ u.toList, isBlank c = true)
    (hv : ∀ c ∈ v.toList, isBlank c = true) (s : String) :
    (∀ a, parse (u ++ s ++ v) = .ok a ↔ parse s = .ok a) ∧
    (∀ e, parse (u ++ s ++ v) = .error e ↔
      ∃ d, parse s = .error d ∧ { d with source := u ++ s ++ v } = e) ∧
    ∀ a, parse s = .ok a → parse a.source = .ok a := by
  refine ⟨fun a => ?_, fun e => ?_, fun a ha => ?_⟩
  · rw [parse_padded hu hv, mapError_eq_ok_iff]
  · rw [parse_padded hu hv, mapError_eq_error_iff]
  · have hsource : a.source = trim s := (parse_eq_ok_iff.1 ha).1
    obtain ⟨before, behind, hs, hbefore, hbehind⟩ := exists_padded_trim s
    rw [hs, parse_padded hbefore hbehind, mapError_eq_ok_iff] at ha
    rw [hsource]
    exact ha

/-- Behind an open quote the scan stands between brackets; positions do not count the blanks in
front. -/
theorem outer_blanks_do_not_matter_openQuote :
    (∀ c ∈ "\u3000\n".toList, isBlank c = true) ∧ (∀ c ∈ " \u00A0".toList, isBlank c = true) ∧
    parse ("\u3000\n" ++ " a , [b=' ,']" ++ " \u00A0") =
      .ok ⟨"a , [b=' ,']", [{ tag := some "a" }, { attributes := [⟨"b", some " ,"⟩] }]⟩ ∧
    parse "a , [b=' ,']" =
      .ok ⟨"a , [b=' ,']", [{ tag := some "a" }, { attributes := [⟨"b", some " ,"⟩] }]⟩ ∧
    parse ("\u3000\n" ++ "y[b:'" ++ " \u00A0") =
      .error ⟨"\u3000\ny[b:' \u00A0", .unexpected ':' 3⟩ := by
  have hu : ∀ c ∈ "\u3000\n".toList, isBlank c = true := by simp [isBlank]
  have hv : ∀ c ∈ " \u00A0".toList, isBlank c = true := by simp [isBlank]
  have hread : parse " a , [b=' ,']" =
      .ok ⟨"a , [b=' ,']", [{ tag := some "a" }, { attributes := [⟨"b", some " ,"⟩] }]⟩ := by
    decide +kernel
  have hfault : parse "y[b:'" = .error ⟨"y[b:'", .unexpected ':' 3⟩ := by decide +kernel
  obtain ⟨hok, -, hsource⟩ := outer_blanks_do_not_matter hu hv " a , [b=' ,']"
  obtain ⟨-, herror, -⟩ := outer_blanks_do_not_matter hu hv "y[b:'"
  have hagain := hsource _ hread
  exact ⟨hu, hv, (hok _).2 hread, hagain, (herror _).2 ⟨_, hfault, rfl⟩⟩

end Selector
end LiveForm
