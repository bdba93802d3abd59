import Mathlib.Data.List.Perm.Basic
import LiveForm.Proofs.Page.MountingOrder
import LiveForm.Proofs.Scenario.Building

/-!
# Scenarios with their components rearranged

The slug syncs of a scenario may be listed in any order, and so may its steppers: the replay does
and reports the same.

* `Scenario.Rearranges`: the same scenario, with slug syncs and steppers in other orders.
* `Scenario.replay_of_rearranges`: the main statement.
-/

namespace LiveForm

namespace Scenario

variable {s s' : Scenario} {settings : StepperSettings} {p : Page} {report : Report}

/-! ## Rearranging -/

/-- The scenario `s'` is `s` with its slug syncs and its steppers listed in other orders. -/
structure Rearranges (s s' : Scenario) : Prop where
  elements : s'.elements = s.elements
  syncs : s'.syncs.Perm s.syncs
  steppers : s'.steppers.Perm s.steppers
  steps : s'.steps = s.steps

/-- The pages of both scenarios have the same components, in some order. -/
theorem Rearranges.buildPage (h : s.Rearranges s') (hp : s.buildPage settings = .ok p) :
    ∃ q, s'.buildPage settings = .ok q ∧ p.Reorders q := by
  obtain ⟨tree, syncs, steppers, htree, hsyncs, hsteppers, rfl⟩ := buildPage_eq_ok_iff.1 hp
  obtain ⟨syncs', hsyncs', hpermSyncs⟩ := List.perm_comp_forall₂ h.syncs hsyncs
  obtain ⟨steppers', hsteppers', hpermSteppers⟩ := List.perm_comp_forall₂ h.steppers hsteppers
  refine ⟨⟨tree, syncs' ++ steppers'⟩, ?_, ?_⟩
  · refine buildPage_eq_ok_iff.2 ⟨tree, syncs', steppers', ?_, hsyncs', hsteppers', rfl⟩
    rwa [h.elements]
  · refine ⟨rfl, (hpermSyncs.append hpermSteppers).symm, ?_⟩
    intro c hc d hd r hr r' hr'
    have hlayout := layout_of_mem hsyncs hsteppers hc hr
    have hlayout' := layout_of_mem hsyncs hsteppers hd hr'
    exact Except.ok.inj (hlayout.symm.trans hlayout')

/-- **The order in which slug syncs and steppers are listed does not matter**: if a scenario can be
replayed, then so can each rearrangement of it, with the same report. -/
theorem replay_of_rearranges (h : s.Rearranges s') (hs : s.replay settings = .ok report) :
    s'.replay settings = .ok report := by
  obtain ⟨p, hp, hs⟩ := bind_eq_ok_iff.1 hs
  obtain ⟨⟨p₁, outcomes⟩, hplay, hs⟩ := bind_eq_ok_iff.1 hs
  obtain ⟨q, hq, hpq⟩ := h.buildPage hp
  obtain ⟨q₁, hplay', hdone⟩ := hpq.playAll hplay
  have hreport : Report.ofTree outcomes q₁.tree = report := by
    rw [hdone.tree]
    exact Except.ok.inj hs
  refine bind_eq_ok_iff.2 ⟨q, hq, bind_eq_ok_iff.2 ⟨(q₁, outcomes), ?_, ?_⟩⟩
  · rwa [h.steps]
  · exact congrArg Except.ok hreport

/-- A title, its slug and a copy of it, and a quantity with a control.  Two slug syncs cross, and
two steppers share the control. -/
def crossed : Scenario where
  elements := [{ tag := "input", id := "title" }, { tag := "input", id := "slug" },
    { tag := "input", id := "copy" }, { tag := "div", id := "box", classes := ["quantity"] },
    { tag := "a", id := "plus", attributes := [("data-action", "increase")], parent := "box" },
    { tag := "input", id := "number", value := "1", parent := "box" }]
  syncs := [⟨"#title", "#slug"⟩, ⟨"#title,#slug", "#copy,#slug"⟩]
  steppers := ["a", "#plus"]
  steps := [.input "#title" "New Title", .click "#plus"]

theorem replay_of_rearranges_crossed :
    crossed.Rearranges { crossed with
      syncs := crossed.syncs.reverse
      steppers := crossed.steppers.reverse } ∧
    ∃ report, crossed.replay {} = .ok report ∧
      Scenario.replay { crossed with
        syncs := crossed.syncs.reverse
        steppers := crossed.steppers.reverse } {} = .ok report ∧
      report.valueOf "#copy" = some "new-title" ∧ report.valueOf "#number" = some "3" := by
  have hrearranges : crossed.Rearranges { crossed with
      syncs := crossed.syncs.reverse
      steppers := crossed.steppers.reverse } :=
    ⟨rfl, List.reverse_perm _, List.reverse_perm _, rfl⟩
  have hdone : (crossed.replay {}).toOption.map (fun report =>
      (report.valueOf "#copy", report.valueOf "#number")) = some (some "new-title", some "3") := by
    decide +kernel
  cases hreplay : crossed.replay {} with
  | error e =>
    rw [hreplay] at hdone
    cases hdone
  | ok report =>
    rw [hreplay] at hdone
    obtain ⟨hcopy, hnumber⟩ := Prod.mk.inj (Option.some.inj hdone)
    exact ⟨hrearranges, report, rfl, replay_of_rearranges hrearranges hreplay, hcopy, hnumber⟩

end Scenario
end LiveForm
