import LiveForm.Main
import LiveForm.Proofs.CommandLine.Lines
import LiveForm.Proofs.Page.Click
import LiveForm.Proofs.Page.Outside
import LiveForm.Proofs.Page.SyncHistory
import LiveForm.Proofs.Report.Labels
import LiveForm.Proofs.Scenario.Nesting
import LiveForm.Proofs.Scenario.Rearrangement
import LiveForm.Proofs.Scenario.Structure
import LiveForm.Proofs.Selector.Conjunction
import LiveForm.Proofs.Selector.Faults
import LiveForm.Proofs.Selector.Padding
import LiveForm.Proofs.Selector.Writing
import LiveForm.Proofs.Slug.Faults
import LiveForm.Proofs.Slug.Separators
import LiveForm.Proofs.Slug.Styles
import LiveForm.Proofs.Stepper.Activity
import LiveForm.Proofs.Stepper.Numerals
import LiveForm.Proofs.Tree.Lookups
