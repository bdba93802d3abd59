import LiveForm.Proofs.Selector.ListGrammar

/-!
# Where a compound goes wrong

Reading a compound halts at the first character that no compound can have there.  What stands in
front of that character begins some compound, and with the character it begins none.  `HaltsBehind`
says this of a reading step and of the place where it halts.  An unterminated attribute test is the
only exception, and the only fault of a reading step that tells no place and names no combinator.

Each exit of `readSimple` is such a place (`haltsBehind_missingName`, `haltsBehind_unexpected`,
`haltsBehind_start`).  Whatever was read in front of the place does not change that
(`HaltsBehind.behind`), which carries it through the loop over simple selectors and past the head.

* `exists_haltsBehind_of_readSimples`, `Compound.exists_haltsBehind_of_read`: the places where
  reading halts.
* `Compound.parse_eq_combinator_iff`: a combinator is told behind compounds, and in front of all.
* `Compound.faults_point_at_first_impossible_character`: the main statement.
-/

namespace LiveForm
namespace Selector

open Text

variable {cs pre left front tail : List Char} {c : Char} {halt : Halt} {name : String}
  {test : AttributeTest} {α β : Type} {read : List Char → Except Halt α}
  {read' : List Char → Except Halt β}

/-! ## Places where reading halts -/

/-- Reading halts behind `pre`, and this is the first place where it has to. -/
structure HaltsBehind (read : List Char → Except Halt α) (pre : List Char) (halt : Halt) :
    Prop where
  /-- What was read begins something that can be read. -/
  viable : ∃ more a, read (pre ++ more) = .ok a
  /-- With the character at the place of the halt it does not. -/
  refused : ∀ c ∈ halt.left.head?, ∀ more a, read (pre ++ c :: more) ≠ .ok a
  unexpected : ∀ c, halt.cause = .unexpected c → c ∈ halt.left.head?
  combinator : halt.cause = .combinator →
    (∃ a, read pre = .ok a) ∧ ∃ c ∈ halt.left.head?, isCombinator c = true

/-- A place stays the first one behind a `front` if reading goes on behind it as it would alone. -/
theorem HaltsBehind.behind (h : HaltsBehind read pre halt) (f : α → β)
    (hread : ∀ rest, ((∃ a, read rest = .ok a) ∨ rest.head? = (pre ++ halt.left).head?) →
      read' (front ++ rest) = (read rest).map f) : HaltsBehind read' (front ++ pre) halt where
  viable := by
    obtain ⟨more, a, ha⟩ := h.viable
    refine ⟨more, f a, ?_⟩
    rw [List.append_assoc, hread _ (.inl ⟨a, ha⟩), ha]
    rfl
  refused := by
    intro c hc more b hb
    have hhead : (pre ++ c :: more).head? = (pre ++ halt.left).head? := by
      rw [List.head?_append, List.head?_append, List.head?_cons, Option.mem_def.1 hc]
    rw [List.append_assoc, hread _ (.inr hhead)] at hb
    obtain ⟨a, ha, -⟩ := LiveForm.map_eq_ok_iff.1 hb
    exact h.refused c hc more a ha
  unexpected := h.unexpected
  combinator := by
    intro hcause
    obtain ⟨⟨a, ha⟩, hc⟩ := h.combinator hcause
    refine ⟨⟨f a, ?_⟩, hc⟩
    rw [hread pre (.inl ⟨a, ha⟩), ha]
    rfl

/-! ## Exits of the reading steps -/

theorem readName_eq_error_iff :
    readName cs = .error halt ↔ BeginsOutside isNameChar cs ∧ halt = ⟨.missingName, cs⟩ := by
  rw [← takeWhile_eq_nil_iff_beginsOutside, readName]
  split
  · next h => exact ⟨fun he => ⟨h, (Except.error.inj he).symm⟩, fun he => by rw [he.2]⟩
  · next h =>
    constructor
    · intro he
      cases he
    · intro he
      exact absurd he.1 h

theorem cause_of_readClosing (h : readClosing test cs = .error halt) :
    halt.cause = .unterminated := by
  unfold readClosing at h
  split at h
  · cases h
  · rw [← Except.error.inj h]

/-- Nothing can go wrong with a value but that it does not end. -/
theorem cause_of_readValue (h : readValue name cs = .error halt) : halt.cause = .unterminated := by
  unfold readValue at h
  split at h
  · rw [← Except.error.inj h]
  · split at h
    · split at h
      · rw [← Except.error.inj h]
      · exact cause_of_readClosing h
    · exact cause_of_readClosing h

/-- Behind the character that begins a simple selector there is a name. -/
theorem isNameChar_of_readSimples {d : Char} {ss : List Simple}
    (h : readSimples (c :: d :: tail) = .ok ss) : isNameChar d = true := by
  have hname : ∀ (n : Name) (rest : List Char), n.chars ++ rest = d :: tail →
      isNameChar d = true := by
    intro n rest hn
    obtain ⟨a, chars, hchars⟩ := List.exists_cons_of_ne_nil n.ne_nil
    rw [hchars, List.cons_append] at hn
    obtain ⟨rfl, -⟩ := List.cons.inj hn
    refine n.isNameChar_of_mem a ?_
    rw [hchars]
    exact .head _
  obtain ⟨s, rest, -, hs, -, -⟩ := readSimples_cons_eq_ok_iff.1 h
  obtain ⟨f, hf, -, -⟩ := SimpleForm.exists_of_readSimple hs
  cases f with
  | id n => exact hname n rest (List.cons.inj hf).2
  | className n => exact hname n rest (List.cons.inj hf).2
  | test n value =>
    rw [SimpleForm.chars, List.cons_append, List.append_assoc] at hf
    exact hname n _ (List.cons.inj hf).2

/-- A name of one letter. -/
def Name.letter : Name := ⟨['a'], List.cons_ne_nil _ _, List.forall_mem_singleton.2 rfl⟩

/-- Where a name is missing, any name could stand. -/
theorem haltsBehind_missingName (hc : startsSimple c = true)
    (hleft : BeginsOutside isNameChar left) : HaltsBehind readSimples [c] ⟨.missingName, left⟩ where
  viable := by
    simp only [startsSimple, Bool.or_eq_true, beq_iff_eq] at hc
    rcases hc with (rfl | rfl) | rfl
    · exact ⟨['a'], _, SimpleForm.readSimples_flatMap [.id .letter]⟩
    · exact ⟨['a'], _, SimpleForm.readSimples_flatMap [.className .letter]⟩
    · exact ⟨['a', ']'], _, SimpleForm.readSimples_flatMap [.test .letter none]⟩
  refused := by
    intro d hd more ss hss
    have hname := isNameChar_of_readSimples hss
    rw [hleft d hd] at hname
    cases hname
  unexpected := by
    intro d hd
    cases hd
  combinator := by
    intro hd
    cases hd

/-- Behind the name in an attribute test only an equals sign or the closing bracket may stand. -/
theorem readAttribute_of_unexpected (n : Name) (hc : isNameChar c = false) (hclose : c ≠ ']')
    (hequals : c ≠ '=') (more : List Char) :
    readAttribute (n.chars ++ c :: more) = .error ⟨.unexpected c, c :: more⟩ := by
  refine bind_eq_error_iff.2 (.inr ⟨_, n.readName_chars (beginsOutside_cons.2 hc), ?_⟩)
  -- `hclose` and `hequals` rule out the other branches
  simp only

theorem haltsBehind_unexpected (n : Name) (hc : isNameChar c = false) (hclose : c ≠ ']')
    (hequals : c ≠ '=') :
    HaltsBehind readSimples ('[' :: n.chars) ⟨.unexpected c, c :: tail⟩ where
  viable := by
    have hread := SimpleForm.readSimples_flatMap [.test n none]
    rw [List.flatMap_singleton] at hread
    exact ⟨[']'], _, hread⟩
  refused := by
    intro d hd more ss hss
    obtain rfl : c = d := Option.some.inj hd
    have hhalt : readSimple '[' (n.chars ++ c :: more) = .error ⟨.unexpected c, c :: more⟩ :=
      LiveForm.map_eq_error_iff.2 (readAttribute_of_unexpected n hc hclose hequals more)
    rw [List.cons_append, readSimples_cons_of_error hhalt] at hss
    cases hss
  unexpected := by
    intro d hd
    exact congrArg some (Cause.unexpected.inj hd)
  combinator := by
    intro hd
    cases hd

/-- Where a simple selector could begin the text could end as well. -/
theorem haltsBehind_start {cause : Cause} (hc : startsSimple c = false)
    (hunexpected : ∀ d, cause = .unexpected d → c = d)
    (hcombinator : cause = .combinator → isCombinator c = true) :
    HaltsBehind readSimples [] ⟨cause, c :: tail⟩ where
  viable := ⟨[], [], readSimples_nil⟩
  refused := by
    intro d hd more ss hss
    obtain rfl : c = d := Option.some.inj hd
    obtain ⟨s, rest, -, hs, -, -⟩ := readSimples_cons_eq_ok_iff.1 hss
    rw [startsSimple_of_readSimple hs] at hc
    cases hc
  unexpected := fun d hd => congrArg some (hunexpected d hd)
  combinator := fun hd => ⟨⟨[], readSimples_nil⟩, c, rfl, hcombinator hd⟩

/-! ## Simple selectors -/

/-- The exits of an attribute test. -/
theorem exists_haltsBehind_of_readAttribute (h : readAttribute cs = .error halt)
    (hcause : halt.cause ≠ .unterminated) :
    ∃ pre, pre ++ halt.left = '[' :: cs ∧ HaltsBehind readSimples pre halt := by
  rcases bind_eq_error_iff.1 h with hname | ⟨⟨name, rest⟩, hname, hrest⟩
  · obtain ⟨hleft, rfl⟩ := readName_eq_error_iff.1 hname
    exact ⟨['['], rfl, haltsBehind_missingName (by decide) hleft⟩
  · obtain ⟨n, rfl, rfl, hbegins⟩ := Name.exists_of_readName hname
    simp only at hrest
    split at hrest
    · cases hrest
    · exact absurd (cause_of_readValue hrest) hcause
    · next c tail hclose hequals =>
      obtain rfl := Except.error.inj hrest
      exact ⟨'[' :: n.chars, rfl,
        haltsBehind_unexpected n (beginsOutside_cons.1 hbegins) hclose hequals⟩
    · obtain rfl := Except.error.inj hrest
      exact absurd rfl hcause

/-- All exits of a simple selector. -/
theorem exists_haltsBehind_of_readSimple (h : readSimple c cs = .error halt)
    (hcause : halt.cause ≠ .unterminated) :
    ∃ pre, pre ++ halt.left = c :: cs ∧ HaltsBehind readSimples pre halt := by
  unfold readSimple at h
  split at h
  · next hc =>
    obtain ⟨hleft, rfl⟩ := readName_eq_error_iff.1 (LiveForm.map_eq_error_iff.1 h)
    exact ⟨[c], rfl, haltsBehind_missingName (by rw [hc]; decide) hleft⟩
  · next hid =>
    split at h
    · next hc =>
      obtain ⟨hleft, rfl⟩ := readName_eq_error_iff.1 (LiveForm.map_eq_error_iff.1 h)
      exact ⟨[c], rfl, haltsBehind_missingName (by rw [hc]; decide) hleft⟩
    · next hclass =>
      split at h
      · next hc =>
        rw [hc]
        exact exists_haltsBehind_of_readAttribute (LiveForm.map_eq_error_iff.1 h) hcause
      · next htest =>
        have hstart : startsSimple c = false := by simp [startsSimple, hid, hclass, htest]
        split at h
        · next hcombinator =>
          obtain rfl := Except.error.inj h
          exact ⟨[], rfl, haltsBehind_start hstart (fun d hd => by cases hd) fun _ => hcombinator⟩
        · obtain rfl := Except.error.inj h
          exact ⟨[], rfl, haltsBehind_start hstart (fun d hd => Cause.unexpected.inj hd)
            fun hd => by cases hd⟩

/-- **The loop over simple selectors halts at the first place where it has to.** -/
theorem exists_haltsBehind_of_readSimples : ∀ {cs : List Char} {halt : Halt},
    readSimples cs = .error halt → halt.cause ≠ .unterminated →
      ∃ pre, pre ++ halt.left = cs ∧ HaltsBehind readSimples pre halt
  | [], halt, h, _ => by
    rw [readSimples_nil] at h
    cases h
  | c :: cs, halt, h, hcause => by
    cases hc : readSimple c cs with
    | error first =>
      rw [readSimples_cons_of_error hc] at h
      obtain rfl := Except.error.inj h
      exact exists_haltsBehind_of_readSimple hc hcause
    | ok r =>
      obtain ⟨s, rest⟩ := r
      have hlen := length_readSimple hc
      rw [readSimples_cons_of_ok hc] at h
      obtain ⟨pre, hpre, hhalts⟩ :=
        exists_haltsBehind_of_readSimples (LiveForm.map_eq_error_iff.1 h) hcause
      obtain ⟨f, hf, -, hends⟩ := SimpleForm.exists_of_readSimple hc
      refine ⟨f.chars ++ pre, by rw [List.append_assoc, hpre, hf], hhalts.behind (f.simple :: ·) ?_⟩
      -- what can be read, or begins like `rest`, does not let `f` go on
      rintro other (⟨ss, hss⟩ | hhead)
      · obtain ⟨fs, rfl, -⟩ := SimpleForm.exists_of_readSimples hss
        exact SimpleForm.readSimples_chars_append
          (f.endsBefore_of_beginsOutside (SimpleForm.beginsOutside_flatMap fs))
      · rw [hpre] at hhead
        exact SimpleForm.readSimples_chars_append (hends.congr hhead)
termination_by cs => cs.length
decreasing_by simp only [List.length_cons]; omega

/-- A combinator stops the loop over simple selectors. -/
theorem readSimples_of_isCombinator (hc : isCombinator c = true) (cs : List Char) :
    readSimples (c :: cs) = .error ⟨.combinator, c :: cs⟩ := by
  refine readSimples_cons_of_error ?_
  simp only [isCombinator, Bool.or_eq_true, beq_iff_eq] at hc
  rcases hc with ((rfl | rfl) | rfl) | rfl <;> rfl

theorem startsHead_of_isCombinator (hc : isCombinator c = true) :
    HeadForm.startsHead c = false := by
  simp only [isCombinator, Bool.or_eq_true, beq_iff_eq] at hc
  rcases hc with ((rfl | rfl) | rfl) | rfl <;> decide

theorem isCombinator_iff : isCombinator c = true ↔ c ∈ [' ', '>', '+', '~'] := by
  simp [isCombinator, or_assoc]

end Selector

/-! ## Compounds -/

namespace Compound

open Selector Text

variable {cs pre rest : List Char} {c : Char} {d : Compound} {halt : Halt} {fault : Fault}

/-- Behind a head that ends there, a compound is read as its simple selectors are. -/
theorem read_chars_append {head : HeadForm} (hends : head.EndsBefore rest) :
    read (head.chars ++ rest) = (readSimples rest).map (ofSimples head.tag?) := by
  unfold read
  rw [HeadForm.readHead_chars_append hends]

/-- **Reading a compound halts at the first place where it has to.** -/
theorem exists_haltsBehind_of_read (h : read cs = .error halt)
    (hcause : halt.cause ≠ .unterminated) :
    ∃ pre, pre ++ halt.left = cs ∧ HaltsBehind read pre halt := by
  obtain ⟨tag, rest, hhead⟩ : ∃ tag rest, readHead cs = (tag, rest) := ⟨_, _, rfl⟩
  obtain ⟨head, rfl, -, hends⟩ := HeadForm.exists_of_readHead hhead
  rw [read_chars_append hends] at h
  obtain ⟨pre, hpre, hhalts⟩ :=
    exists_haltsBehind_of_readSimples (LiveForm.map_eq_error_iff.1 h) hcause
  refine ⟨head.chars ++ pre, by rw [List.append_assoc, hpre],
    hhalts.behind (ofSimples head.tag?) ?_⟩
  rintro other (⟨ss, hss⟩ | hhead)
  · obtain ⟨fs, rfl, -⟩ := SimpleForm.exists_of_readSimples hss
    exact read_chars_append (head.endsBefore_flatMap fs)
  · rw [hpre] at hhead
    exact read_chars_append (hends.congr hhead)

/-! ## Faults -/

/-- Some text that begins like this is read as a compound. -/
def Viable (cs : List Char) : Prop := ∃ more d, parse (cs ++ more) = .ok d

theorem viable_nil : Viable [] :=
  ⟨['*'], _, parse_eq_ok_iff_form.2 ⟨List.cons_ne_nil _ _, ⟨.star, []⟩, rfl, rfl⟩⟩

theorem viable_of_haltsBehind (h : HaltsBehind read pre halt) : Viable pre := by
  by_cases hpre : pre = []
  · rw [hpre]
    exact viable_nil
  · obtain ⟨more, d, hd⟩ := h.viable
    exact ⟨more, d, parse_eq_ok_iff.2 ⟨List.append_ne_nil_of_left_ne_nil hpre more, hd⟩⟩

theorem not_viable_of_haltsBehind (h : HaltsBehind read pre halt) (hc : c ∈ halt.left.head?) :
    ¬ Viable (pre ++ [c]) := by
  rintro ⟨more, d, hd⟩
  rw [List.append_assoc, List.singleton_append] at hd
  exact h.refused c hc more d (parse_eq_ok_iff.1 hd).2

theorem parse_eq_error_iff : parse cs = .error fault ↔ cs = [] ∧ fault = .empty ∨
    cs ≠ [] ∧ ∃ halt, read cs = .error halt ∧ halt.fault cs = fault := by
  unfold parse
  split
  · next h =>
    constructor
    · intro he
      exact .inl ⟨h, (Except.error.inj he).symm⟩
    · rintro (⟨-, rfl⟩ | ⟨hne, -⟩)
      · rfl
      · exact absurd h hne
  · next h =>
    rw [mapError_eq_error_iff]
    constructor
    · intro he
      exact .inr ⟨h, he⟩
    · rintro (⟨hnil, -⟩ | ⟨-, he⟩)
      · exact absurd hnil h
      · exact he

/-- The position of a fault is the number of characters in front of the halt. -/
theorem fault_append_eq_unexpected_iff {position : Nat} :
    halt.fault (pre ++ halt.left) = .unexpected c position ↔
      halt.cause = .unexpected c ∧ pre.length = position := by
  unfold Halt.fault
  rw [List.length_append, Nat.add_sub_cancel]
  cases halt.cause <;> simp

theorem fault_append_eq_missingName_iff {position : Nat} :
    halt.fault (pre ++ halt.left) = .missingName position ↔
      halt.cause = .missingName ∧ pre.length = position := by
  unfold Halt.fault
  rw [List.length_append, Nat.add_sub_cancel]
  cases halt.cause <;> simp

theorem fault_eq_combinator_iff : halt.fault cs = .combinator ↔ halt.cause = .combinator := by
  unfold Halt.fault
  cases halt.cause <;> simp

/-- A fault other than an unterminated test, or an empty text, is that of the first place where
reading halts. -/
theorem exists_haltsBehind_of_parse (h : parse cs = .error fault) (hempty : fault ≠ .empty)
    (hopen : fault ≠ .unterminated) :
    ∃ pre halt, pre ++ halt.left = cs ∧ halt.fault cs = fault ∧ HaltsBehind read pre halt := by
  rcases parse_eq_error_iff.1 h with ⟨-, rfl⟩ | ⟨-, halt, hread, hfault⟩
  · exact absurd rfl hempty
  · have hcause : halt.cause ≠ .unterminated := by
      intro hcause
      rw [Halt.fault, hcause] at hfault
      exact hopen hfault.symm
    obtain ⟨pre, hpre, hhalts⟩ := exists_haltsBehind_of_read hread hcause
    exact ⟨pre, halt, hpre, hfault, hhalts⟩

/-- The first place where reading halts is where the text ends, or at a character. -/
theorem take_of_haltsBehind (h : HaltsBehind read pre halt) :
    pre.length ≤ (pre ++ halt.left).length ∧ Viable ((pre ++ halt.left).take pre.length) ∧
      (pre.length < (pre ++ halt.left).length →
        ¬ Viable ((pre ++ halt.left).take (pre.length + 1))) := by
  refine ⟨?_, ?_, fun hlt => ?_⟩
  · rw [List.length_append]
    exact Nat.le_add_right _ _
  · rw [List.take_left]
    exact viable_of_haltsBehind h
  · rw [List.length_append] at hlt
    obtain ⟨c, tail, hleft⟩ := List.exists_cons_of_length_pos (l := halt.left) (by omega)
    rw [List.take_length_add_append, hleft]
    exact not_viable_of_haltsBehind h (by rw [hleft]; rfl)

/-- **When a combinator is told**: at the front, or behind a text that is read as a compound. -/
theorem parse_eq_combinator_iff :
    parse cs = .error .combinator ↔ ∃ pre c rest, cs = pre ++ c :: rest ∧
      c ∈ [' ', '>', '+', '~'] ∧ (pre = [] ∨ ∃ d, parse pre = .ok d) := by
  constructor
  · intro h
    obtain ⟨pre, halt, rfl, hfault, hhalts⟩ :=
      exists_haltsBehind_of_parse h (by rintro ⟨⟩) (by rintro ⟨⟩)
    obtain ⟨⟨d, hd⟩, c, hc, hcombinator⟩ :=
      hhalts.combinator (fault_eq_combinator_iff.1 hfault)
    obtain ⟨rest, hrest⟩ := List.head?_eq_some_iff.1 hc
    refine ⟨pre, c, rest, by rw [hrest], isCombinator_iff.1 hcombinator, ?_⟩
    by_cases hpre : pre = []
    · exact .inl hpre
    · exact .inr ⟨d, parse_eq_ok_iff.2 ⟨hpre, hd⟩⟩
  · rintro ⟨pre, c, rest, rfl, hc, hpre⟩
    rw [← isCombinator_iff] at hc
    have hstops := readSimples_of_isCombinator hc rest
    have hhead := startsHead_of_isCombinator hc
    have hread : read (pre ++ c :: rest) = .error ⟨.combinator, c :: rest⟩ := by
      rcases hpre with rfl | ⟨d, hd⟩
      · have hnothing : HeadForm.nothing.EndsBefore (c :: rest) := beginsOutside_cons.2 hhead
        exact (read_chars_append hnothing).trans (congrArg (Except.map _) hstops)
      · obtain ⟨hne, hd⟩ := parse_eq_ok_iff.1 hd
        obtain ⟨ss, hss, -⟩ := read_eq_ok_iff.1 hd
        have hname : BeginsOutside isNameChar (c :: rest) := by
          rw [HeadForm.startsHead, Bool.or_eq_false_iff] at hhead
          exact beginsOutside_cons.2 hhead.2
        unfold read
        rw [readHead_append hne hname]
        simp only
        rw [readSimples_append hname hss, hstops]
        rfl
    exact parse_eq_error_iff.2 (.inr ⟨by simp, _, hread, rfl⟩)

/-- **Faults point at the first impossible character.**  If a character is unexpected or a name is
missing, then what stands in front of the position begins some compound, and with the character at
the position, if there is one, it begins none.  A combinator is told exactly if one stands at the
front, or behind a compound; so two compounds never make a compound when they are joined by one. -/
theorem faults_point_at_first_impossible_character :
    (∀ (cs : List Char) (c : Char) (position : Nat),
      parse cs = .error (.unexpected c position) →
        position < cs.length ∧ cs[position]? = some c ∧ Viable (cs.take position) ∧
          ¬ Viable (cs.take (position + 1))) ∧
    (∀ (cs : List Char) (position : Nat), parse cs = .error (.missingName position) →
      position ≤ cs.length ∧ Viable (cs.take position) ∧
        (position < cs.length → ¬ Viable (cs.take (position + 1)))) ∧
    (∀ cs : List Char, parse cs = .error .combinator ↔
      ∃ pre c rest, cs = pre ++ c :: rest ∧ c ∈ [' ', '>', '+', '~'] ∧
        (pre = [] ∨ ∃ d, parse pre = .ok d)) ∧
    ∀ (as bs : List Char) (a b : Compound) (c : Char), parse as = .ok a → parse bs = .ok b →
      c ∈ [' ', '>', '+', '~'] → parse (as ++ c :: bs) = .error .combinator := by
  refine ⟨fun cs c position h => ?_, fun cs position h => ?_, fun cs => parse_eq_combinator_iff,
    fun as bs a b c ha _ hc => parse_eq_combinator_iff.2 ⟨as, c, bs, rfl, hc, .inr ⟨a, ha⟩⟩⟩
  · obtain ⟨pre, halt, rfl, hfault, hhalts⟩ :=
      exists_haltsBehind_of_parse h (by rintro ⟨⟩) (by rintro ⟨⟩)
    obtain ⟨hcause, rfl⟩ := fault_append_eq_unexpected_iff.1 hfault
    obtain ⟨tail, hleft⟩ := List.head?_eq_some_iff.1 (hhalts.unexpected c hcause)
    obtain ⟨-, hviable, hnot⟩ := take_of_haltsBehind hhalts
    have hlt : pre.length < (pre ++ halt.left).length := by
      rw [hleft, List.length_append, List.length_cons]
      omega
    refine ⟨hlt, ?_, hviable, hnot hlt⟩
    rw [hleft, List.getElem?_append_right (Nat.le_refl _), Nat.sub_self]
    rfl
  · obtain ⟨pre, halt, rfl, hfault, hhalts⟩ :=
      exists_haltsBehind_of_parse h (by rintro ⟨⟩) (by rintro ⟨⟩)
    obtain ⟨-, rfl⟩ := fault_append_eq_missingName_iff.1 hfault
    exact take_of_haltsBehind hhalts

theorem faults_point_at_first_impossible_character_blank :
    parse "a#b[c d]".toList = .error (.unexpected ' ' 5) ∧
    Viable ("a#b[c d]".toList.take 5) ∧ ¬ Viable ("a#b[c d]".toList.take 6) ∧
    parse "a.".toList = .error (.missingName 2) ∧ Viable ("a.".toList.take 2) ∧
    parse "a".toList = .ok { tag := some "a" } ∧
    parse ("a".toList ++ '>' :: "a".toList) = .error .combinator := by
  have hblank : parse "a#b[c d]".toList = .error (.unexpected ' ' 5) := by decide +kernel
  have hname : parse "a.".toList = .error (.missingName 2) := by decide +kernel
  have hread : parse "a".toList = .ok { tag := some "a" } := by decide +kernel
  obtain ⟨hunexpected, hmissing, -, hjoined⟩ := faults_point_at_first_impossible_character
  obtain ⟨-, -, hviable, hnot⟩ := hunexpected _ _ _ hblank
  exact ⟨hblank, hviable, hnot, hname, (hmissing _ _ hname).2.1, hread,
    hjoined _ _ _ _ _ hread hread (by decide)⟩

end Compound
end LiveForm
