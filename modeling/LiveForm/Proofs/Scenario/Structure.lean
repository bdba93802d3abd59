import LiveForm.Proofs.Scenario.Building

/-!
# What events leave of a page

Events write values, and the inactive class of the settings.  All else about the elements of a page
stands as it was built, and what a selector that does not mention the class picks is the same
throughout; so whether a step has something to pick is decided before the first one is done.

* `Scenario.inactiveClass_eq_of_mem_steppers`: all steppers of the page of a scenario have the
  inactive class of the settings, so `Page.outline_run` applies to it.
* `Page.playAll_append`: steps behind steps that could be done.
* `Page.le_of_playAll_eq_noMatch`: a step that picks nothing is reported under its own number.
* `Scenario.events_keep_structure`: the main statement.
-/

namespace LiveForm

/-! ## Steps -/

namespace Page

variable {p q : Page} {number k : Nat} {step : ScenarioStep} {before rest steps : List ScenarioStep}
  {outcomes : List StepOutcome} {selector : Selector} {target : String}

/-- Steps behind steps that could be done are done on the page that those left. -/
theorem playAll_append (h : p.playAll number before = .ok (q, outcomes)) :
    p.playAll number (before ++ rest) =
      (q.playAll (number + before.length) rest).map fun r => (r.1, outcomes ++ r.2) := by
  induction before generalizing p number outcomes with
  | nil =>
    obtain ⟨rfl, rfl⟩ := Prod.mk.inj (Except.ok.inj h)
    rw [List.nil_append]
    rw [List.length_nil, Nat.add_zero]
    cases p.playAll number rest <;> rfl
  | cons step before ih =>
    obtain ⟨⟨r, outcome⟩, hfirst, h⟩ := bind_eq_ok_iff.1 h
    obtain ⟨⟨q', others⟩, hrest, h⟩ := bind_eq_ok_iff.1 h
    obtain ⟨rfl, rfl⟩ := Prod.mk.inj (Except.ok.inj h)
    rw [List.cons_append, playAll, hfirst, List.length_cons, ← Nat.add_assoc,
      Nat.add_right_comm]
    show (r.playAll (number + 1) (before ++ rest) >>= _) = _
    rw [ih hrest]
    cases q'.playAll (number + 1 + before.length) rest <;> rfl

theorem play_of_query_eq_nil (hselector : Selector.parse step.target = .ok selector)
    (hnone : p.tree.query selector = []) :
    p.play number step = .error (.noMatch number step.target) := by
  rw [play, hselector]
  show (if (p.tree.query selector).isEmpty then _ else _) = _
  rw [hnone]
  rfl

/-- A step whose selector can be read fails only by picking nothing. -/
theorem play_eq_error_iff (hselector : Selector.parse step.target = .ok selector)
    {error : ReplayError} :
    p.play number step = .error error ↔
      p.tree.query selector = [] ∧ error = .noMatch number step.target := by
  by_cases hnone : p.tree.query selector = []
  · rw [play_of_query_eq_nil hselector hnone, Except.error.injEq, eq_comm]
    exact (and_iff_right hnone).symm
  · have hplay : ∃ r, p.play number step = .ok r :=
      ⟨_, play_eq_ok_iff.2 ⟨selector, hselector, hnone, rfl⟩⟩
    obtain ⟨r, hr⟩ := hplay
    rw [hr]
    constructor
    · intro h
      cases h
    · exact fun h => absurd h.1 hnone

/-- A step that picks nothing is reported under its own number. -/
theorem number_eq_of_play_eq_noMatch (h : p.play number step = .error (.noMatch k target)) :
    number = k := by
  cases hselector : Selector.parse step.target with
  | error e =>
    rw [play, hselector] at h
    cases h
  | ok selector =>
    obtain ⟨-, herror⟩ := (play_eq_error_iff hselector).1 h
    exact (ReplayError.noMatch.inj herror).1.symm

/-- No step is reported under a smaller number than the first. -/
theorem le_of_playAll_eq_noMatch (h : p.playAll number steps = .error (.noMatch k target)) :
    number ≤ k := by
  induction steps generalizing p number with
  | nil => cases h
  | cons step steps ih =>
    rcases bind_eq_error_iff.1 h with h | ⟨⟨r, outcome⟩, -, h⟩
    · exact Nat.le_of_eq (number_eq_of_play_eq_noMatch h)
    · rcases bind_eq_error_iff.1 h with h | ⟨_, -, h⟩
      · exact Nat.le_of_lt (ih h)
      · cases h

/-- Steps fail at the first one for lack of a pick exactly if its selector picks nothing. -/
theorem playAll_cons_eq_noMatch_iff (hselector : Selector.parse step.target = .ok selector) :
    p.playAll number (step :: rest) = .error (.noMatch number step.target) ↔
      p.tree.query selector = [] := by
  constructor
  · intro h
    rcases bind_eq_error_iff.1 h with h | ⟨⟨r, outcome⟩, -, h⟩
    · exact ((play_eq_error_iff hselector).1 h).1
    · rcases bind_eq_error_iff.1 h with h | ⟨_, -, h⟩
      -- the steps behind have larger numbers, so none of them makes this error
      · exact absurd (le_of_playAll_eq_noMatch h) (Nat.not_succ_le_self number)
      · cases h
  · intro hnone
    exact bind_eq_error_iff.2 (.inl (play_of_query_eq_nil hselector hnone))

end Page

/-! ## The page of a scenario -/

theorem StepperSettings.inactiveClass_of_layout_eq_ok {settings : StepperSettings}
    {layout : StepperLayout} (h : settings.layout = .ok layout) :
    layout.inactiveClass = settings.inactiveClass := by
  obtain ⟨container, -, h⟩ := bind_eq_ok_iff.1 h
  obtain ⟨field, -, h⟩ := bind_eq_ok_iff.1 h
  obtain ⟨decrease, -, h⟩ := bind_eq_ok_iff.1 h
  obtain rfl := Except.ok.inj h
  rfl

namespace Scenario

variable {s : Scenario} {settings : StepperSettings} {p : Page}

/-- All steppers of the page of a scenario have the inactive class of the settings. -/
theorem inactiveClass_eq_of_mem_steppers (hp : s.buildPage settings = .ok p) :
    ∀ r ∈ p.steppers, r.layout.inactiveClass = settings.inactiveClass := by
  obtain ⟨tree, syncs, steppers, -, hsyncs, hsteppers, rfl⟩ := buildPage_eq_ok_iff.1 hp
  intro r hr
  obtain ⟨c, hc, hcr⟩ := List.mem_filterMap.1 hr
  exact StepperSettings.inactiveClass_of_layout_eq_ok (layout_of_mem hsyncs hsteppers hc hcr)

/-- **Events never change the structure** of the page of a scenario: its elements are as many as
before, each with its tag, id, attributes and parent and with all its classes but the inactive one.
So a selector that does not mention this class picks the same elements throughout, and a step with
such a selector that a replay comes to fails for lack of a pick exactly if the selector picks
nothing in the page as it was built. -/
theorem events_keep_structure (hp : s.buildPage settings = .ok p) :
    (∀ events : List Event,
      (p.run events).tree.size = p.tree.size ∧
      (∀ h, ((p.run events).tree.element? h).map (fun e => (e.tag, e.id, e.attributes)) =
        (p.tree.element? h).map fun e => (e.tag, e.id, e.attributes)) ∧
      (∀ h, (p.run events).tree.parent? h = p.tree.parent? h) ∧
      (∀ h name, name ≠ settings.inactiveClass →
        (p.run events).tree.hasClass h name = p.tree.hasClass h name) ∧
      ∀ selector : Selector, ¬ selector.Mentions settings.inactiveClass →
        (p.run events).tree.query selector = p.tree.query selector) ∧
    ∀ before step rest q outcomes selector, s.steps = before ++ step :: rest →
      p.playAll 1 before = .ok (q, outcomes) → Selector.parse step.target = .ok selector →
      ¬ selector.Mentions settings.inactiveClass →
      (s.replay settings = .error (.noMatch (before.length + 1) step.target) ↔
        p.tree.query selector = []) := by
  have houtline : ∀ events, (p.run events).tree.outline settings.inactiveClass =
      p.tree.outline settings.inactiveClass :=
    Page.outline_run (inactiveClass_eq_of_mem_steppers hp)
  refine ⟨fun events => ⟨Tree.size_congr (houtline events), Tree.frame_congr (houtline events),
    Tree.parent?_congr (houtline events), fun h name hne => Tree.hasClass_congr (houtline events)
    hne h, fun selector hs => Tree.query_congr (houtline events) hs⟩, ?_⟩
  intro before step rest q outcomes selector hsteps hbefore hselector hs
  -- the steps before are events too, so they leave the selector what it picked at first
  obtain ⟨events, rfl⟩ := Page.exists_run_of_playAll hbefore
  have hreplay : s.replay settings = .error (.noMatch (before.length + 1) step.target) ↔
      p.playAll 1 s.steps = .error (.noMatch (before.length + 1) step.target) := by
    rw [replay, hp]
    show (p.playAll 1 s.steps >>= _) = _ ↔ _
    rw [bind_eq_error_iff]
    refine or_iff_left ?_
    rintro ⟨_, -, h⟩
    cases h
  rw [hreplay, hsteps, Page.playAll_append hbefore, map_eq_error_iff, Nat.add_comm,
    Page.playAll_cons_eq_noMatch_iff hselector, Tree.query_congr (houtline events) hs]

/-- A quantity of one with a control that decreases it, and a step that picks nothing behind a click
that makes the control inactive. -/
def zeroed : Scenario where
  elements := [{ tag := "div", id := "box", classes := ["quantity"] },
    { tag := "a", id := "minus", classes := ["button"],
      attributes := [("data-action", "decrease")], parent := "box" },
    { tag := "input", value := "1", parent := "box" }]
  steppers := ["a"]
  steps := [.click "#minus", .keyUp ".absent"]

theorem events_keep_structure_zeroed :
    ∃ p, zeroed.buildPage {} = .ok p ∧ (p.run [.click 1]).tree.hasClass 1 "inactive" = true ∧
      (p.run [.click 1]).tree.hasClass 1 "button" = p.tree.hasClass 1 "button" ∧
      zeroed.replay {} = .error (.noMatch 2 ".absent") := by
  have hselector : Selector.parse ".absent" = .ok ⟨".absent", [{ classes := ["absent"] }]⟩ := by
    decide +kernel
  have hbuilt : (zeroed.buildPage {}).toOption.map (fun p =>
      ((p.run [.click 1]).tree.hasClass 1 "inactive",
        p.tree.query ⟨".absent", [{ classes := ["absent"] }]⟩,
        (p.playAll 1 [.click "#minus"]).toOption.isSome)) = some (true, [], true) := by
    decide +kernel
  cases hp : zeroed.buildPage {} with
  | error e =>
    rw [hp] at hbuilt
    cases hbuilt
  | ok p =>
    rw [hp] at hbuilt
    obtain ⟨hinactive, hrest⟩ := Prod.mk.inj (Option.some.inj hbuilt)
    obtain ⟨hquery, hplayed⟩ := Prod.mk.inj hrest
    obtain ⟨hkeeps, hfails⟩ := events_keep_structure hp
    obtain ⟨-, -, -, hclasses, -⟩ := hkeeps [.click 1]
    refine ⟨p, rfl, hinactive, hclasses 1 "button" (by decide), ?_⟩
    cases hplay : p.playAll 1 [.click "#minus"] with
    | error e =>
      rw [hplay] at hplayed
      cases hplayed
    | ok r =>
      have hblind : ¬ Selector.Mentions ⟨".absent", [{ classes := ["absent"] }]⟩ "inactive" := by
        rintro ⟨c, hc, hname⟩
        rw [List.mem_singleton] at hc
        rw [hc] at hname
        revert hname
        decide
      exact (hfails [.click "#minus"] (.keyUp ".absent") [] r.1 r.2 _ rfl hplay hselector hblind).2
        hquery

end Scenario
end LiveForm
