import LiveForm.Proofs.NameMap
import LiveForm.Proofs.Page.Outline
import LiveForm.Proofs.Scenario.Building
import LiveForm.Proofs.Text.Trimming

/-!
# Labels in a report

A report has the elements of a page under their labels, and a label has room for one element.  Ids
are unique, and a label made of a tag and a place tells the place.  But a tag may begin with the
sign that marks ids, and then tag and place can spell the label of an element with an id.

* `Element.Mimics`: an element without an id has the label of one with an id.
* `Element.label_eq_label_iff`: nothing else makes two labels equal, as long as ids are unique.
* `Report.get?_ofTree`: under each label a report has the last element that has this label.
* `Report.size_ofTree_eq_size_iff`: no element is lost exactly if all labels are different.
* `Scenario.replay_reports_last_of_label`: what a replay reports, and when it reports all elements.
* `Scenario.replay_of_mimic`: two elements of which one is lost.
-/

namespace LiveForm

/-! ## Labels of elements -/

namespace Element

variable {d e : Element} {i j : Nat}

/-- The element `d` at place `i` has no id, and its tag and place spell the label of `e`, which has
one. -/
def Mimics (d : Element) (i : Nat) (e : Element) : Prop :=
  d.id = none ∧ ∃ name, d.tag = "#" ++ name ∧ e.id = some (name ++ "[" ++ toString i ++ "]")

theorem label_of_id {id : String} (h : e.id = some id) (i : Nat) : e.label i = "#" ++ id := by
  rw [label, h]

theorem label_of_tag (h : e.id = none) (i : Nat) :
    e.label i = e.tag ++ "[" ++ toString i ++ "]" := by
  rw [label, h]

theorem toList_label_of_id {id : String} (h : e.id = some id) (i : Nat) :
    (e.label i).toList = '#' :: id.toList := by
  rw [label_of_id h, String.toList_append]
  rfl

theorem toList_label_of_tag (h : e.id = none) (i : Nat) :
    (e.label i).toList = e.tag.toList ++ '[' :: (Nat.toDigits 10 i ++ [']']) := by
  rw [label_of_tag h, String.toList_append, String.toList_append, String.toList_append,
    Nat.toString_eq_repr, Nat.toList_repr, List.append_assoc, List.append_assoc]
  rfl

/-- A label made of a tag and a place tells the place: the digits at its end begin behind the last
bracket that opens. -/
theorem place_eq_of_label_eq (hd : d.id = none) (he : e.id = none)
    (h : d.label i = e.label j) : i = j := by
  have hdigits : ∀ n, ∀ c ∈ (Nat.toDigits 10 n).reverse, c.isDigit = true := by
    intro n c hc
    exact Nat.isDigit_of_mem_toDigits (by decide) (by decide) (List.mem_reverse.1 hc)
  have houtside : ∀ tag : List Char, Text.BeginsOutside Char.isDigit ('[' :: tag) :=
    fun tag => Text.beginsOutside_cons.2 (by decide)
  have hlist := congrArg (fun label : String => label.toList.reverse) h
  simp only [toList_label_of_tag hd, toList_label_of_tag he, List.reverse_append,
    List.reverse_cons, List.append_assoc, List.reverse_nil, List.nil_append,
    List.cons_append] at hlist
  have hrun := (Text.append_inj_of_run (hdigits i) (houtside _) (hdigits j) (houtside _)
    (List.cons.inj hlist).2).1
  have hvalue := congrArg (fun digits => Nat.ofDigitChars 10 digits 0) (List.reverse_inj.1 hrun)
  simpa [Nat.ofDigitChars_toDigits] using hvalue

/-- An element without an id has the label of one with an id exactly if it mimics that. -/
theorem label_eq_label_iff_mimics {id : String} (hd : d.id = none) (he : e.id = some id) :
    d.label i = e.label j ↔ d.Mimics i e := by
  rw [← String.toList_inj, toList_label_of_tag hd, toList_label_of_id he]
  have hplace : ∀ name : String, (name ++ "[" ++ toString i ++ "]").toList =
      name.toList ++ '[' :: (Nat.toDigits 10 i ++ [']']) :=
    fun name => (label_of_tag (e := { tag := name }) rfl i) ▸ toList_label_of_tag rfl i
  constructor
  · intro h
    cases htag : d.tag.toList with
    | nil =>
      rw [htag] at h
      exact absurd (List.cons.inj h).1 (by decide)
    | cons c name =>
      rw [htag] at h
      obtain ⟨rfl, hid⟩ := List.cons.inj h
      refine ⟨hd, String.ofList name, ?_, ?_⟩
      · rw [← String.toList_inj, htag, String.toList_append]
        show '#' :: name = '#' :: (String.ofList name).toList
        rw [String.toList_ofList]
      · rw [he, Option.some_inj, ← String.toList_inj, hplace, String.toList_ofList]
        exact hid.symm
  · rintro ⟨-, name, htag, hid⟩
    rw [he, Option.some_inj] at hid
    rw [htag, hid, hplace, String.toList_append]
    rfl

/-- **Two labels are equal only if one element mimics the other**, as long as ids are unique. -/
theorem label_eq_label_iff (hne : i ≠ j) (hid : ∀ id, d.id = some id → e.id ≠ some id) :
    d.label i = e.label j ↔ d.Mimics i e ∨ e.Mimics j d := by
  cases hd : d.id with
  | none =>
    cases he : e.id with
    | none =>
      constructor
      · intro h
        exact absurd (place_eq_of_label_eq hd he h) hne
      · rintro (⟨-, name, -, hsome⟩ | ⟨-, name, -, hsome⟩)
        · rw [he] at hsome
          cases hsome
        · rw [hd] at hsome
          cases hsome
    | some id =>
      have hnot : ¬ e.Mimics j d := by
        rintro ⟨hnone, -⟩
        rw [he] at hnone
        cases hnone
      rw [label_eq_label_iff_mimics hd he, or_iff_left hnot]
  | some id =>
    have hnot : ¬ d.Mimics i e := by
      rintro ⟨hnone, -⟩
      rw [hd] at hnone
      cases hnone
    rw [or_iff_right hnot]
    cases he : e.id with
    | none => rw [eq_comm, label_eq_label_iff_mimics he hd]
    | some id' =>
      constructor
      · intro h
        have hlist := congrArg String.toList h
        rw [toList_label_of_id hd, toList_label_of_id he] at hlist
        have hsame : id = id' := String.toList_inj.1 (List.cons.inj hlist).2
        rw [← hsame] at he
        exact absurd he (hid id hd)
      · rintro ⟨hnone, -⟩
        rw [he] at hnone
        cases hnone

/-- Whether an element mimics another one depends on its tag and the two ids. -/
theorem Mimics.congr {d' e' : Element} (h : d.Mimics i e) (hd : (d'.tag, d'.id) = (d.tag, d.id))
    (he : (e'.tag, e'.id) = (e.tag, e.id)) : d'.Mimics i e' := by
  obtain ⟨htag, hid⟩ := Prod.mk.inj hd
  obtain ⟨hnone, name, hname, hsome⟩ := h
  exact ⟨hid.trans hnone, name, htag.trans hname, (Prod.mk.inj he).2.trans hsome⟩

end Element

/-! ## Labels in a tree -/

namespace Tree

variable {t : Tree} {i : Handle} {e : Element}

/-- The last element in document order that has a label. -/
def lastLabelled? (t : Tree) (label : String) : Option Element :=
  t.handles.reverse.findSome? fun h => (t.element? h).filter (·.label h == label)

/-- No two elements of the tree have one label. -/
def LabelsDistinct (t : Tree) : Prop :=
  ∀ i j d e, t.element? i = some d → t.element? j = some e → d.label i = e.label j → i = j

/-- If all labels are different, what has a label is the last element to have it. -/
theorem lastLabelled?_label (h : t.LabelsDistinct) (he : t.element? i = some e) :
    t.lastLabelled? (e.label i) = some e := by
  have hin : i ∈ t.handles.reverse := by
    rw [List.mem_reverse, handles, List.mem_range, ← element?_isSome_iff, he]
    rfl
  have hfound : (t.lastLabelled? (e.label i)).isSome = true := by
    refine List.findSome?_isSome_iff.2 ⟨i, hin, ?_⟩
    rw [he, Option.filter_some, beq_self_eq_true]
    rfl
  obtain ⟨d, hd⟩ := Option.isSome_iff_exists.1 hfound
  obtain ⟨j, -, hj⟩ := List.exists_of_findSome?_eq_some hd
  obtain ⟨hjd, hlabel⟩ := Option.filter_eq_some_iff.1 hj
  obtain rfl := h j i d e hjd he (eq_of_beq hlabel)
  rw [hd, ← hjd, he]

/-- If ids are unique, all labels are different exactly if no element mimics another one. -/
theorem labelsDistinct_iff
    (hid : ∀ i j d e id, t.element? i = some d → t.element? j = some e →
      d.id = some id → e.id = some id → i = j) :
    t.LabelsDistinct ↔
      ¬ ∃ i j d e, t.element? i = some d ∧ t.element? j = some e ∧ d.Mimics i e := by
  constructor
  · rintro h ⟨i, j, d, e, hd, he, hmimics⟩
    obtain ⟨hnone, name, -, hsome⟩ := id hmimics
    have hlabel : d.label i = e.label j :=
      (Element.label_eq_label_iff_mimics hnone hsome).2 hmimics
    obtain rfl := h i j d e hd he hlabel
    rw [hd, Option.some_inj] at he
    rw [he, hsome] at hnone
    cases hnone
  · intro h i j d e hd he hlabel
    by_contra hne
    have hids : ∀ id, d.id = some id → e.id ≠ some id :=
      fun id hdid heid => hne (hid i j d e id hd he hdid heid)
    rcases (Element.label_eq_label_iff hne hids).1 hlabel with hmimics | hmimics
    · exact h ⟨i, j, d, e, hd, he, hmimics⟩
    · exact h ⟨j, i, e, d, he, hd, hmimics⟩

end Tree

/-! ## Reports -/

namespace Report

variable {t : Tree} {steps : List StepOutcome}

theorem lookup_labelledOf (t : Tree) (handles : List Handle) (label : String) :
    (handles.filterMap fun h => (t.element? h).map fun e => (e.label h, e.state)).lookup label =
      (handles.findSome? fun h => (t.element? h).filter (·.label h == label)).map
        Element.state := by
  induction handles with
  | nil => rfl
  | cons h handles ih =>
    rw [List.filterMap_cons, List.findSome?_cons]
    cases he : t.element? h with
    | none => exact ih
    | some e =>
      rw [Option.map_some, List.lookup_cons, Option.filter_some, Bool.beq_comm]
      cases e.label h == label with
      | false => exact ih
      | true => rfl

/-- **Under each label a report has the last element that has this label.** -/
theorem get?_ofTree (steps : List StepOutcome) (t : Tree) (label : String) :
    (ofTree steps t).elements.get? label = (t.lastLabelled? label).map Element.state := by
  rw [ofTree, NameMap.get?_ofList, labelled, ← List.filterMap_reverse, lookup_labelledOf]
  rfl

theorem length_labelled (t : Tree) : (labelled t).length = t.size := by
  have hall : ∀ h ∈ t.handles,
      ((t.element? h).map fun e => (e.label h, e.state)).isSome = true := by
    intro h hh
    rw [Option.isSome_map, Tree.element?_isSome_iff]
    exact List.mem_range.1 hh
  rw [labelled, List.length_filterMap_eq_countP, List.countP_eq_length.2 hall, Tree.handles,
    List.length_range]

theorem nodup_labels_iff : ((labelled t).map Prod.fst).Nodup ↔ t.LabelsDistinct := by
  rw [labelled, List.Nodup, List.pairwise_map, List.pairwise_filterMap, Tree.handles,
    List.pairwise_iff_getElem]
  simp only [List.getElem_range, List.length_range, Option.map_eq_some_iff]
  constructor
  · intro h i j d e hd he hlabel
    have hi : i < t.size := Tree.element?_isSome_iff.1 (by rw [hd]; rfl)
    have hj : j < t.size := Tree.element?_isSome_iff.1 (by rw [he]; rfl)
    rcases Nat.lt_trichotomy i j with hlt | heq | hgt
    · exact absurd hlabel (h i j hi hj hlt _ ⟨d, hd, rfl⟩ _ ⟨e, he, rfl⟩)
    · exact heq
    · exact absurd hlabel.symm (h j i hj hi hgt _ ⟨e, he, rfl⟩ _ ⟨d, hd, rfl⟩)
  · rintro h i j _ _ hlt _ ⟨d, hd, rfl⟩ _ ⟨e, he, rfl⟩ hlabel
    exact Nat.ne_of_lt hlt (h i j d e hd he hlabel)

/-- **A report loses no element exactly if all labels are different.** -/
theorem size_ofTree_eq_size_iff : (ofTree steps t).elements.size = t.size ↔ t.LabelsDistinct := by
  rw [← nodup_labels_iff, ← NameMap.size_ofList_eq_length_iff, length_labelled]
  rfl

end Report

/-! ## Replays -/

namespace Scenario

variable {s : Scenario} {settings : StepperSettings} {report : Report} {built final : Page}

/-- An entry without an id has a tag that spells, with its place, the label of an entry with an
id. -/
def HasMimic (s : Scenario) : Prop :=
  ∃ (i j : Nat) (d e : ElementEntry), s.elements[i]? = some d ∧ s.elements[j]? = some e ∧
    d.element.Mimics i e.element

/-- A replay plays the steps of the scenario on its page, and reports on the page behind them. -/
theorem replay_eq_ok_iff :
    s.replay settings = .ok report ↔
      ∃ built final outcomes, s.buildPage settings = .ok built ∧
        built.playAll 1 s.steps = .ok (final, outcomes) ∧ .ofTree outcomes final.tree = report := by
  rw [replay, bind_eq_ok_iff]
  constructor
  · rintro ⟨built, hbuilt, h⟩
    obtain ⟨⟨final, outcomes⟩, hfinal, h⟩ := bind_eq_ok_iff.1 h
    exact ⟨built, final, outcomes, hbuilt, hfinal, Except.ok.inj h⟩
  · rintro ⟨built, final, outcomes, hbuilt, hfinal, rfl⟩
    exact ⟨built, hbuilt, bind_eq_ok_iff.2 ⟨(final, outcomes), hfinal, rfl⟩⟩

/-- The elements of the tree have the tags and ids of the entries, in order. -/
def HasNames (entries : List ElementEntry) (t : Tree) : Prop :=
  ∀ h, (t.element? h).map (fun e => (e.tag, e.id)) = entries[h]?.map fun e => (e.tag, e.id)

section HasNames

variable {entries : List ElementEntry} {t : Tree} {i j : Handle} {d e : Element}

theorem HasNames.exists_entry (h : HasNames entries t) (he : t.element? i = some e) :
    ∃ entry : ElementEntry, entries[i]? = some entry ∧ (entry.tag, entry.id) = (e.tag, e.id) := by
  have hi := h i
  rw [he, Option.map_some, eq_comm, Option.map_eq_some_iff] at hi
  exact hi

theorem HasNames.exists_element (h : HasNames entries t) {entry : ElementEntry}
    (hentry : entries[i]? = some entry) :
    ∃ e : Element, t.element? i = some e ∧ (e.tag, e.id) = (entry.tag, entry.id) := by
  have hi := h i
  rw [hentry, Option.map_some, Option.map_eq_some_iff] at hi
  exact hi

theorem HasNames.size_eq (h : HasNames entries t) : t.size = entries.length := by
  refine Tree.size_eq_of_forall fun i => ?_
  have hsome := congrArg Option.isSome (h i)
  rw [Option.isSome_map, Option.isSome_map] at hsome
  rw [hsome, isSome_getElem?]

/-- Ids are as unique as they were in the tree that was built. -/
theorem HasNames.id_unique (h : HasNames entries t) {u : Tree} (hu : Describes entries u)
    {id : String} (hd : t.element? i = some d) (he : t.element? j = some e)
    (hdid : d.id = some id) (heid : e.id = some id) : i = j := by
  have hbuilt : ∀ k (f : Element), t.element? k = some f → f.id = some id →
      ∃ g : Element, u.element? k = some g ∧ g.id = some id := by
    intro k f hf hfid
    obtain ⟨entry, hentry, hname⟩ := h.exists_entry hf
    refine ⟨entry.element, ?_, (Prod.mk.inj hname).2.trans hfid⟩
    rw [hu.element?_eq, hentry]
    rfl
  obtain ⟨d', hd', hdid'⟩ := hbuilt i d hd hdid
  obtain ⟨e', he', heid'⟩ := hbuilt j e he heid
  exact hu.id_unique i j d' e' id hd' he' hdid' heid'

/-- Elements mimic each other exactly if their entries do. -/
theorem HasNames.exists_mimics_iff (h : HasNames s.elements t) :
    (∃ i j d e, t.element? i = some d ∧ t.element? j = some e ∧ d.Mimics i e) ↔
      s.HasMimic := by
  constructor
  · rintro ⟨i, j, d, e, hd, he, hmimics⟩
    obtain ⟨d', hd', hdname⟩ := h.exists_entry hd
    obtain ⟨e', he', hename⟩ := h.exists_entry he
    exact ⟨i, j, d', e', hd', he', hmimics.congr hdname hename⟩
  · rintro ⟨i, j, d, e, hd, he, hmimics⟩
    obtain ⟨d', hd', hdname⟩ := h.exists_element hd
    obtain ⟨e', he', hename⟩ := h.exists_element he
    exact ⟨i, j, d', e', hd', he', hmimics.congr hdname hename⟩

end HasNames

/-- Elements keep their tags and ids while the steps of a scenario are played. -/
theorem hasNames_final {outcomes : List StepOutcome} (htree : Describes s.elements built.tree)
    (hfinal : built.playAll 1 s.steps = .ok (final, outcomes)) :
    HasNames s.elements final.tree := by
  intro h
  obtain ⟨events, rfl⟩ := Page.exists_run_of_playAll hfinal
  have hmodify : ∀ (t : Tree) (i : Handle) (f : Element → Element),
      (∀ e, ((f e).tag, (f e).id) = (e.tag, e.id)) →
      ((t.modify i f).element? h).map (fun e => (e.tag, e.id)) =
        (t.element? h).map fun e => (e.tag, e.id) := by
    intro t i f hf
    rw [Tree.element?_modify]
    split
    · rw [Option.map_map]
      exact Option.map_congr fun e _ => hf e
    · rfl
  rw [Page.view_run (fun t => (t.element? h).map fun e => (e.tag, e.id))
    (fun t i value => hmodify t i (·.withValue value) fun _ => rfl)
    (fun t i name => hmodify t i (·.addClass name) fun _ => rfl)
    (fun t i name => hmodify t i (·.removeClass name) fun _ => rfl),
    htree.element?_eq, Option.map_map]
  rfl

/-- **What a replay reports.**  Under each label the report has the last element that has this label
behind the steps.  So it has as many entries as there are elements exactly if no element without an
id has a tag that spells, with its place, the label of an element with an id; and then it has every
element under its own label. -/
theorem replay_reports_last_of_label (h : s.replay settings = .ok report) :
    ∃ built final, s.buildPage settings = .ok built ∧
      built.playAll 1 s.steps = .ok (final, report.steps) ∧
      final.tree.size = s.elements.length ∧
      (∀ label, report.elements.get? label =
        (final.tree.lastLabelled? label).map Element.state) ∧
      (report.elements.size = s.elements.length ↔ ¬ s.HasMimic) ∧
      (¬ s.HasMimic → ∀ i e, final.tree.element? i = some e →
        report.elements.get? (e.label i) = some e.state) := by
  obtain ⟨built, final, outcomes, hbuilt, hfinal, rfl⟩ := replay_eq_ok_iff.1 h
  have htree : Describes s.elements built.tree := by
    obtain ⟨tree, syncs, steppers, htree, -, -, rfl⟩ := buildPage_eq_ok_iff.1 hbuilt
    exact describes_of_buildTree htree
  have hnames := hasNames_final htree hfinal
  have hdistinct : final.tree.LabelsDistinct ↔ ¬ s.HasMimic := by
    rw [← hnames.exists_mimics_iff]
    exact Tree.labelsDistinct_iff fun i j d e id => hnames.id_unique htree
  refine ⟨built, final, hbuilt, hfinal, hnames.size_eq, Report.get?_ofTree outcomes final.tree,
    ?_, ?_⟩
  · rw [← hnames.size_eq, Report.size_ofTree_eq_size_iff, hdistinct]
  · intro hnone i e he
    rw [Report.get?_ofTree, Tree.lastLabelled?_label (hdistinct.2 hnone) he]
    rfl

/-- A tag that begins with the sign of ids, and an id that ends with a place, but another one. -/
def nearMimic : Scenario where
  elements := [{ tag := "#a" }, { tag := "input", id := "a[1]" }]
  steps := [.input "input" "typed"]

theorem replay_reports_last_of_label_nearMimic :
    ∃ report, nearMimic.replay {} = .ok report ∧ ¬ nearMimic.HasMimic ∧
      report.elements.size = nearMimic.elements.length ∧
      report.valueOf "#a[1]" = some "typed" := by
  have hdone : (nearMimic.replay {}).toOption.map (fun report =>
      (report.elements.size, report.valueOf "#a[1]")) = some (2, some "typed") := by
    decide +kernel
  cases hreplay : nearMimic.replay {} with
  | error e =>
    rw [hreplay] at hdone
    cases hdone
  | ok report =>
    rw [hreplay] at hdone
    obtain ⟨hsize, hvalue⟩ := Prod.mk.inj (Option.some.inj hdone)
    obtain ⟨built, final, -, -, -, -, hiff, -⟩ := replay_reports_last_of_label hreplay
    exact ⟨report, rfl, hiff.1 hsize, hsize, hvalue⟩

/-- An element without an id that mimics the one behind it. -/
def mimic : Scenario where
  elements := [{ tag := "#a", value := "lost" }, { tag := "input", id := "a[0]", value := "kept" }]

/-- **A report can lose an element**: it has one entry for two elements, and under the label of the
first stands the second. -/
theorem replay_of_mimic :
    ∃ report, mimic.replay {} = .ok report ∧ mimic.elements.length = 2 ∧
      report.elements.entries = [("#a[0]", ⟨"input", "kept", []⟩)] := by
  have hdone : (mimic.replay {}).toOption.map (fun report => report.elements.entries) =
      some [("#a[0]", ⟨"input", "kept", []⟩)] := by
    decide +kernel
  cases hreplay : mimic.replay {} with
  | error e =>
    rw [hreplay] at hdone
    cases hdone
  | ok report =>
    rw [hreplay] at hdone
    exact ⟨report, rfl, rfl, Option.some.inj hdone⟩

end Scenario
end LiveForm
