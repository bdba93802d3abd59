import LiveForm.Proofs.Page.History

/-!
# A slug sync over a whole history

On a page with a single slug sync, what stands in each field in the end can be read off the history.
The first key released in a destination divides it: before, each key released in a source puts a
slug into all destinations; behind it, fields change only by what is typed into them.

* `Page.lastReleased?`: the value of the source at the last key release in a source.
* `Page.after_alone_of_edited`, `Page.after_alone_of_not_edited`: one event, on either side of the
  division.
* `Page.element?_run_alone`: every element behind a history.
* `Page.run_bound_sync`: the same for a sync that has just been bound, with its latch.
-/

namespace LiveForm

/-! ## Values that are typed and released -/

/-- Of two values that may have been written behind each other, the later one counts. -/
theorem map_withValue_map_withValue (x : Option Element) (later earlier : Option String) :
    (x.map fun x => x.withValue (earlier.getD x.value)).map
        (fun x => x.withValue (later.getD x.value)) =
      x.map fun x => x.withValue ((later.or earlier).getD x.value) := by
  cases x with
  | none => rfl
  | some x =>
    cases later with
    | none => rfl
    | some value => rfl

namespace Event

variable {event : Event} {fields : List Handle} {t : Tree}

/-- Typing writes the text into its field, before a component sees the key release. -/
theorem element?_typed (t : Tree) (event : Event) (e : Handle) :
    (event.typed t).element? e =
      (t.element? e).map fun x => x.withValue ((event.textIn? e).getD x.value) := by
  cases event with
  | input target =>
    show t.element? e = (t.element? e).map fun x => x
    rw [Option.map_id']
  | typeInto target text =>
    show (t.setValue target text).element? e = _
    rw [Tree.element?_setValue, textIn?]
    split
    · rfl
    · exact Option.map_id'.symm
  | click target =>
    show t.element? e = (t.element? e).map fun x => x
    rw [Option.map_id']

theorem typed_of_keyIn?_eq_none (h : event.keyIn? = none) (t : Tree) : event.typed t = t := by
  cases event with
  | input target => cases h
  | typeInto target text => cases h
  | click target => rfl

/-- The value that is released, if the event releases a key in one of the fields. -/
def released? (t : Tree) (fields : List Handle) (event : Event) : Option String :=
  (event.keyIn?.filter fields.contains).map (event.typed t).value

end Event

namespace Page

open Event

variable {s : SlugSync} {t : Tree} {event : Event} {events : List Event} {e : Handle}

/-- The value that was released at the last key release in one of the fields. -/
def lastReleased? (p : Page) (fields : List Handle) : List Event → Option String
  | [] => none
  | event :: events =>
      ((p.after event).lastReleased? fields events).or (event.released? p.tree fields)

/-! ## A page with a single slug sync -/

/-- The page with a slug sync and nothing else. -/
def alone (s : SlugSync) (t : Tree) : Page := ⟨t, [.slugSync s]⟩

/-- An event that is no key release does nothing. -/
theorem after_alone_of_keyIn?_eq_none (h : event.keyIn? = none) (s : SlugSync) (t : Tree) :
    (alone s t).after event = alone s t := by
  cases event with
  | input target => cases h
  | typeInto target text => cases h
  | click target => rfl

theorem after_alone_of_keyIn?_eq_some {target : Handle} (h : event.keyIn? = some target)
    (s : SlugSync) (t : Tree) :
    (alone s t).after event =
      alone (s.afterInput target) (s.onInput (event.typed t) target).2 := by
  rw [← s.fst_onInput (event.typed t) target]
  cases event with
  | input other =>
    obtain rfl := Option.some.inj h
    rfl
  | typeInto other text =>
    obtain rfl := Option.some.inj h
    rfl
  | click other => cases h

/-- From the first key release in a destination on, the sync does nothing. -/
theorem after_alone_of_edited (h : (s.edited || event.releasesIn s.destinations) = true)
    (t : Tree) :
    (alone s t).after event = alone { s with edited := true } (event.typed t) := by
  cases hkey : event.keyIn? with
  | none =>
    have hreleases : event.releasesIn s.destinations = false := by rw [releasesIn, hkey]; rfl
    have hedited : s.edited = true := by rwa [hreleases, Bool.or_false] at h
    rw [after_alone_of_keyIn?_eq_none hkey, typed_of_keyIn?_eq_none hkey, ← hedited]
  | some target =>
    have hreleases : event.releasesIn s.destinations = s.destinations.contains target := by
      rw [releasesIn, hkey]
      rfl
    have hafter : s.afterInput target = { s with edited := true } := by
      rw [SlugSync.afterInput, ← hreleases, h]
    have hidle : (s.onInput (event.typed t) target).2 = event.typed t := by
      rw [SlugSync.snd_onInput, hafter, Bool.not_true, Bool.and_false]
      rfl
    rw [after_alone_of_keyIn?_eq_some hkey, hafter, hidle]

/-- Before a key is released in a destination, all destinations get the slug of what is released in
a source. -/
theorem after_alone_of_not_edited (hs : s.edited = false)
    (h : event.releasesIn s.destinations = false) (t : Tree) :
    (alone s t).after event = alone s (((event.released? t s.sources).map Slug.plain).elim
      (event.typed t) (SlugSync.fill (event.typed t) s.destinations)) := by
  cases hkey : event.keyIn? with
  | none =>
    have hreleased : event.released? t s.sources = none := by rw [released?, hkey]; rfl
    rw [after_alone_of_keyIn?_eq_none hkey, hreleased, Option.map_none, Option.elim_none,
      typed_of_keyIn?_eq_none hkey]
  | some target =>
    have hreleases : s.destinations.contains target = false := by
      rw [releasesIn, hkey] at h
      exact h
    have hafter : s.afterInput target = s := by
      rw [SlugSync.afterInput, hreleases, Bool.or_false]
    have hreleased : event.released? t s.sources =
        if s.sources.contains target then some ((event.typed t).value target) else none := by
      rw [released?, hkey, Option.filter_some]
      split
      · rfl
      · rfl
    rw [after_alone_of_keyIn?_eq_some hkey, hafter, SlugSync.snd_onInput, hafter, hs,
      Bool.not_false, Bool.and_true, hreleased]
    split
    · rfl
    · rfl

/-- The latch behind a history. -/
theorem components_run_alone (s : SlugSync) (t : Tree) (events : List Event) :
    ((alone s t).run events).components =
      [.slugSync { s with edited := s.edited || events.any (releasesIn s.destinations) }] := by
  induction events generalizing s t with
  | nil =>
    rw [List.any_nil, Bool.or_false]
    rfl
  | cons event events ih =>
    rw [run_cons, List.any_cons, ← Bool.or_assoc]
    cases h : s.edited || event.releasesIn s.destinations with
    | true =>
      rw [after_alone_of_edited h, ih]
    | false =>
      obtain ⟨hs, hevent⟩ := Bool.or_eq_false_iff.1 h
      rw [after_alone_of_not_edited hs hevent, ih, hs]

/-- Once a key has been released in a destination, an element changes only by what is typed into
it. -/
theorem element?_run_alone_of_edited (h : s.edited = true) (t : Tree) (events : List Event)
    (e : Handle) :
    ((alone s t).run events).tree.element? e =
      (t.element? e).map fun x => x.withValue ((lastTyped? e events).getD x.value) := by
  induction events generalizing s t with
  | nil => exact Option.map_id'.symm
  | cons event events ih =>
    have hedited : (s.edited || event.releasesIn s.destinations) = true := by
      rw [h, Bool.true_or]
    rw [run_cons, after_alone_of_edited hedited, ih rfl, element?_typed,
      map_withValue_map_withValue, lastTyped?_cons]

/-- What a slug sync that has not been edited puts into its destinations over a history: the slug of
what was released last, before a key was released in a destination. -/
def lastSlug? (s : SlugSync) (t : Tree) (events : List Event) : Option String :=
  ((alone s t).lastReleased? s.sources
    (events.takeWhile fun event => !event.releasesIn s.destinations)).map Slug.plain

theorem lastSlug?_cons_of_releasesIn (h : event.releasesIn s.destinations = true) (t : Tree)
    (events : List Event) : lastSlug? s t (event :: events) = none := by
  rw [lastSlug?, List.takeWhile_cons, h]
  rfl

theorem lastSlug?_cons_of_not_releasesIn (hs : s.edited = false)
    (h : event.releasesIn s.destinations = false) (t : Tree) (events : List Event) :
    lastSlug? s t (event :: events) =
      (lastSlug? s (((event.released? t s.sources).map Slug.plain).elim (event.typed t)
        (SlugSync.fill (event.typed t) s.destinations)) events).or
        ((event.released? t s.sources).map Slug.plain) := by
  rw [lastSlug?, List.takeWhile_cons, h, Bool.not_false, if_pos rfl, lastReleased?,
    after_alone_of_not_edited hs h, Option.map_or, lastSlug?]
  rfl

/-- A value that may have been written into some fields. -/
theorem element?_elim_fill (t : Tree) (fields : List Handle) (value : Option String)
    (e : Handle) :
    (value.elim t (SlugSync.fill t fields)).element? e =
      (t.element? e).map fun x =>
        x.withValue ((if e ∈ fields then value else none).getD x.value) := by
  cases value with
  | none =>
    rw [ite_self]
    exact Option.map_id'.symm
  | some value =>
    rw [Option.elim_some, SlugSync.element?_fill]
    split
    · rfl
    · exact Option.map_id'.symm

/-- **Every element behind a history**, as long as the sync has not been edited before: what was
typed last, or else the last slug, or else what was there at first.  By induction on the history;
the first key release in a destination leads to the case of an edited sync. -/
theorem element?_run_alone (hs : s.edited = false) (t : Tree) (events : List Event) (e : Handle) :
    ((alone s t).run events).tree.element? e =
      (t.element? e).map fun x => x.withValue (((lastTyped? e events).or
        (if e ∈ s.destinations then lastSlug? s t events else none)).getD x.value) := by
  induction events generalizing t with
  | nil =>
    have hslug : lastSlug? s t [] = none := rfl
    rw [lastTyped?_nil, hslug, ite_self]
    exact Option.map_id'.symm
  | cons event events ih =>
    cases hevent : event.releasesIn s.destinations with
    | true =>
      have hedited : (s.edited || event.releasesIn s.destinations) = true := by
        rw [hevent, Bool.or_true]
      rw [run_cons, after_alone_of_edited hedited, element?_run_alone_of_edited rfl,
        element?_typed, map_withValue_map_withValue, lastTyped?_cons,
        lastSlug?_cons_of_releasesIn hevent, ite_self, Option.or_none]
    | false =>
      rw [run_cons, after_alone_of_not_edited hs hevent, ih, element?_elim_fill, element?_typed,
        map_withValue_map_withValue, map_withValue_map_withValue, lastTyped?_cons,
        lastSlug?_cons_of_not_releasesIn hs hevent]
      split
      · next he =>
        rw [textIn?_of_not_releasesIn hevent he, Option.or_none, Option.or_none, Option.or_assoc]
      · rw [Option.or_none, Option.or_none, Option.or_none]

/-- **What a slug sync does over a whole history**, on a page with nothing else.  The latch is set
exactly if a key was released in a destination.  A destination holds what was typed into it last; or
else the slug of what was released last in a source, before a key was released in a destination; or
else what it held at first.  All other elements change only by what is typed into them. -/
theorem run_bound_sync (t : Tree) (source destination : Selector) (events : List Event) :
    ((alone (.bind t source destination) t).run events).latches =
      [events.any (releasesIn (t.query destination))] ∧
    (∀ d ∈ t.query destination,
      ((alone (.bind t source destination) t).run events).tree.value d =
        ((lastTyped? d events).or
          (((alone (.bind t source destination) t).lastReleased? (t.query source)
            (events.takeWhile fun event => !event.releasesIn (t.query destination))).map
              Slug.plain)).getD (t.value d)) ∧
    ∀ e, e ∉ t.query destination →
      ((alone (.bind t source destination) t).run events).tree.element? e =
        (t.element? e).map fun x => x.withValue ((lastTyped? e events).getD x.value) := by
  have helement := element?_run_alone (s := .bind t source destination) rfl t events
  refine ⟨?_, ?_, ?_⟩
  · rw [latches, components_run_alone]
    rfl
  · intro d hd
    have hfilled : d ∈ (SlugSync.bind t source destination).destinations := hd
    obtain ⟨x, hx⟩ :=
      Option.isSome_iff_exists.1 (Tree.element?_isSome_iff.2 (Tree.lt_size_of_mem_query hd))
    rw [Tree.value, Tree.value, helement, hx]
    simp only [if_pos hfilled]
    rfl
  · intro e he
    have hspared : e ∉ (SlugSync.bind t source destination).destinations := he
    rw [helement]
    simp only [if_neg hspared, Option.or_none]

/-- A title and its slug; a sync from both to the slug. -/
def titleForm : Tree :=
  (Tree.empty.append none { tag := "input", id := "title" }).append none
    { tag := "input", id := "slug", value := "draft" }

theorem run_bound_sync_titleForm :
    1 ∈ titleForm.query ⟨"#slug", [{ id := "slug" }]⟩ ∧
    0 ∉ titleForm.query ⟨"#slug", [{ id := "slug" }]⟩ ∧
    ((alone (.bind titleForm ⟨"input", [{ tag := "input" }]⟩ ⟨"#slug", [{ id := "slug" }]⟩)
      titleForm).run [.typeInto 0 "My Title", .input 1, .typeInto 0 "Other"]).latches = [true] ∧
    ((alone (.bind titleForm ⟨"input", [{ tag := "input" }]⟩ ⟨"#slug", [{ id := "slug" }]⟩)
      titleForm).run [.typeInto 0 "My Title", .input 1, .typeInto 0 "Other"]).tree.value 1 =
        "my-title" ∧
    ((alone (.bind titleForm ⟨"input", [{ tag := "input" }]⟩ ⟨"#slug", [{ id := "slug" }]⟩)
      titleForm).run [.typeInto 0 "My Title", .input 1, .typeInto 0 "Other"]).tree.element? 0 =
        some { tag := "input", id := "title", value := "Other" } := by
  have hslug : 1 ∈ titleForm.query ⟨"#slug", [{ id := "slug" }]⟩ := by decide +kernel
  have htitle : 0 ∉ titleForm.query ⟨"#slug", [{ id := "slug" }]⟩ := by decide +kernel
  obtain ⟨hlatch, hvalue, helement⟩ :=
    run_bound_sync titleForm ⟨"input", [{ tag := "input" }]⟩ ⟨"#slug", [{ id := "slug" }]⟩
      [.typeInto 0 "My Title", .input 1, .typeInto 0 "Other"]
  refine ⟨hslug, htitle, hlatch.trans ?_, (hvalue 1 hslug).trans ?_, (helement 0 htitle).trans ?_⟩
  · decide +kernel
  · decide +kernel
  · decide +kernel

end Page
end LiveForm
