import Mathlib.Data.List.DropRight
import LiveForm.Proofs.Page.TouchedField

/-!
# Histories of events

What a list of events tells without a look at the page.

* `Event.lastTyped?`: the last text typed into a field.
* `Event.releasesIn`: whether an event releases a key in one of some fields.
* `Event.upToLast`, `Event.sinceLast`: a history cut behind the last event of some kind.
-/

namespace LiveForm
namespace Event

variable {event : Event} {events : List Event} {test : Event → Bool} {field : Handle}

/-! ## Keys and texts -/

/-- Whether the event releases a key in one of the fields. -/
def releasesIn (fields : List Handle) (event : Event) : Bool :=
  event.keyIn?.any fields.contains

/-- The text that the event types into a field. -/
def textIn? (field : Handle) : Event → Option String
  | .input _ => none
  | .typeInto target text => if target = field then some text else none
  | .click _ => none

/-- The last text typed into a field. -/
def lastTyped? (field : Handle) (events : List Event) : Option String :=
  events.reverse.findSome? (textIn? field)

@[simp] theorem lastTyped?_nil (field : Handle) : lastTyped? field [] = none := rfl

/-- A later text counts before an earlier one. -/
theorem lastTyped?_cons (field : Handle) (event : Event) (events : List Event) :
    lastTyped? field (event :: events) = (lastTyped? field events).or (event.textIn? field) := by
  rw [lastTyped?, List.reverse_cons, List.findSome?_append, lastTyped?, List.findSome?_singleton]

/-- An event types into a field only if it releases a key there. -/
theorem textIn?_of_not_releasesIn {fields : List Handle} (h : event.releasesIn fields = false)
    (hf : field ∈ fields) : event.textIn? field = none := by
  cases event with
  | input target => rfl
  | typeInto target text =>
    refine if_neg ?_
    rintro rfl
    have ht : fields.contains target = false := h
    rw [List.contains_eq_mem, decide_eq_false_iff_not] at ht
    exact ht hf
  | click target => rfl

/-! ## Cutting behind the last event of a kind -/

/-- The events up to the last one that passes a test, and nothing if none does. -/
def upToLast (test : Event → Bool) (events : List Event) : List Event :=
  events.rdropWhile fun event => !test event

/-- The events behind the last one that passes a test. -/
def sinceLast (test : Event → Bool) (events : List Event) : List Event :=
  events.rtakeWhile fun event => !test event

theorem upToLast_append_sinceLast (test : Event → Bool) (events : List Event) :
    upToLast test events ++ sinceLast test events = events :=
  List.rdropWhile_append_rtakeWhile

theorem upToLast_concat_of_pos (h : test event = true) (events : List Event) :
    upToLast test (events ++ [event]) = events ++ [event] :=
  List.rdropWhile_concat_neg _ _ _ (by rw [h]; decide)

theorem upToLast_concat_of_neg (h : test event = false) (events : List Event) :
    upToLast test (events ++ [event]) = upToLast test events :=
  List.rdropWhile_concat_pos _ _ _ (by rw [h]; rfl)

theorem test_of_mem_sinceLast (h : event ∈ sinceLast test events) : test event = false := by
  have hnot : (!test event) = true := List.mem_rtakeWhile_imp (p := fun event => !test event) h
  rwa [Bool.not_eq_true'] at hnot

end Event
end LiveForm
