import LiveForm.Proofs.Results
import LiveForm.Slug.Data
import LiveForm.Slug.Plain

/-!
# Where slugs come from

A slug is read from a text (`Slug.parse`), read back from stored data (`Slug.ofShape`) or made of
any text by the plain slugifier (`Slug.ofText?`).  Only the first two look for a fault.

* `parse_eq_ok_iff`, `parse_eq_error_iff`, `ofShape_eq_ok_iff`, `ofText?_eq_some_iff`: what each of
  the three gives.
* `fault?_plain`: the plain slugifier leaves nothing or a text without a fault.
* `faultless_from_every_source`: all of it together, with the way through stored data and back.
-/

namespace LiveForm
namespace Slug

variable {s : String} {slug : Slug}

/-- A slug holds a text without a fault. -/
theorem fault?_text (slug : Slug) : fault? slug.text = none :=
  slug.faultless

theorem eq_of_text_eq {a b : Slug} (h : a.text = b.text) : a = b := by
  cases a
  cases b
  simpa using h

/-! ## Reading -/

theorem parse_of_fault?_eq_none (h : fault? s = none) : parse s = .ok ⟨s, h⟩ := by
  unfold parse
  split
  · rfl
  · next f hf =>
    rw [h] at hf
    cases hf

theorem parse_of_fault?_eq_some {f : Fault} (h : fault? s = some f) : parse s = .error f := by
  unfold parse
  split
  · next hn =>
    rw [h] at hn
    cases hn
  · next g hg =>
    rw [h] at hg
    rw [Option.some.inj hg]

/-- Reading gives the slug of just this text, if the text has no fault. -/
theorem parse_eq_ok_iff : parse s = .ok slug ↔ fault? s = none ∧ slug.text = s := by
  constructor
  · intro h
    cases hf : fault? s with
    | none =>
      rw [parse_of_fault?_eq_none hf] at h
      have hs := Except.ok.inj h
      exact ⟨rfl, by rw [← hs]⟩
    | some f =>
      rw [parse_of_fault?_eq_some hf] at h
      cases h
  · rintro ⟨hf, hs⟩
    rw [parse_of_fault?_eq_none hf]
    exact congrArg Except.ok (eq_of_text_eq hs.symm)

/-- A text is refused for the first rule that it breaks. -/
theorem parse_eq_error_iff {f : Fault} : parse s = .error f ↔ fault? s = some f := by
  refine ⟨fun h => ?_, parse_of_fault?_eq_some⟩
  cases hf : fault? s with
  | none =>
    rw [parse_of_fault?_eq_none hf] at h
    cases h
  | some g =>
    rw [parse_of_fault?_eq_some hf] at h
    rw [Except.error.inj h]

/-! ## Stored data -/

/-- Stored data is read back as a slug if it is a text without a fault. -/
theorem ofShape_eq_ok_iff {found : Data.Shape} :
    ofShape found = .ok slug ↔ fault? slug.text = none ∧ found = slug.toShape := by
  cases found with
  | text t =>
    rw [ofShape, mapError_eq_ok_iff, parse_eq_ok_iff]
    constructor
    · rintro ⟨hf, ht⟩
      exact ⟨fault?_text slug, by rw [toShape, ht]⟩
    · rintro ⟨hf, ht⟩
      have ht : t = slug.text := by simpa [toShape] using ht
      rw [ht]
      exact ⟨hf, rfl⟩
  | _ => simp [ofShape, toShape]

/-! ## The plain slugifier -/

theorem plain_eq_empty_iff : plain s = "" ↔ plainChars s.toList = [] := by
  rw [← String.toList_inj, toList_plain]
  rfl

/-- What the plain slugifier leaves has no fault but that it may be empty. -/
theorem fault?_plain (h : plain s ≠ "") : fault? (plain s) = none := by
  rw [fault?, toList_plain]
  exact faultOf?_plainChars (mt plain_eq_empty_iff.2 h)

theorem ofText?_of_plain_eq_empty (h : plain s = "") : ofText? s = none :=
  dif_pos (plain_eq_empty_iff.1 h)

theorem ofText?_of_plain_ne_empty (h : plain s ≠ "") :
    ofText? s = some ⟨plain s, fault?_plain h⟩ :=
  dif_neg (mt plain_eq_empty_iff.2 h)

/-- The slug made of a text is the one that reading finds in what the plain slugifier leaves. -/
theorem ofText?_eq_some_iff : ofText? s = some slug ↔ parse (plain s) = .ok slug := by
  by_cases h : plain s = ""
  · rw [ofText?_of_plain_eq_empty h, h, parse_of_fault?_eq_some (f := .empty) rfl]
    simp
  · rw [ofText?_of_plain_ne_empty h, parse_of_fault?_eq_none (fault?_plain h)]
    simp

/-! ## All sources -/

/-- **Every source of slugs gives a text without a fault.**  Making a slug of a text leaves out the
test, and gives nothing exactly for the empty text and else what reading gives; stored slugs come
back as they were. -/
theorem faultless_from_every_source (s : String) (found : Data.Shape) (slug : Slug) :
    (parse s = .ok slug ↔ fault? s = none ∧ slug.text = s) ∧
    (ofShape found = .ok slug ↔ fault? slug.text = none ∧ found = slug.toShape) ∧
    (ofText? s = some slug ↔ fault? (plain s) = none ∧ slug.text = plain s) ∧
    (plain s = "" ∧ ofText? s = none ∨
      ∃ derived, parse (plain s) = .ok derived ∧ ofText? s = some derived) ∧
    ofShape slug.toShape = .ok slug := by
  refine ⟨parse_eq_ok_iff, ofShape_eq_ok_iff, ?_, ?_, ?_⟩
  · rw [ofText?_eq_some_iff, parse_eq_ok_iff]
  · by_cases h : plain s = ""
    · exact .inl ⟨h, ofText?_of_plain_eq_empty h⟩
    · exact .inr ⟨⟨plain s, fault?_plain h⟩, parse_of_fault?_eq_none (fault?_plain h),
        ofText?_of_plain_ne_empty h⟩
  · exact ofShape_eq_ok_iff.2 ⟨fault?_text slug, rfl⟩

end Slug
end LiveForm
