import LiveForm.Proofs.Page.MountingOrder

/-!
# A key release as a whole

A key release goes through the components one behind the other, and each could see what those before
it wrote.  But none of them changes the value in which the key is released, and so all slugs that
are written are the slug of the value that stood there at first.  The whole way is a single filling,
of the fields of all components that write at all.

A second key release in the same place meets the same value and components that write into the same
fields, so it fills what is filled already.

* `SlugSync.fill_append`, `SlugSync.fill_fill`: fillings with one value, behind each other.
* `Component.filledAt_afterInput`: a component goes on to fill what it has filled.
* `Page.tree_input`: the tree behind a key release.
* `Page.repeated_key_release_does_nothing`: the main statement.
-/

namespace LiveForm

/-! ## Fillings with one value -/

namespace SlugSync

theorem fill_append (t : Tree) (fields others : List Handle) (value : String) :
    fill t (fields ++ others) value = fill (fill t fields value) others value :=
  List.foldl_append

/-- Fields that hold a value already are not changed by filling them with it. -/
theorem fill_fill (t : Tree) (fields : List Handle) (value : String) :
    fill (fill t fields value) fields value = fill t fields value := by
  refine Tree.ext_view (fun h => ?_) (fun h => ?_)
  · rw [element?_fill, element?_fill]
    split
    · rw [Option.map_map]
      rfl
    · rfl
  · rw [parent?_fill]

theorem afterInput_afterInput (s : SlugSync) (target : Handle) :
    (s.afterInput target).afterInput target = s.afterInput target := by
  simp only [afterInput, Bool.or_assoc, Bool.or_self]

end SlugSync

/-! ## Components -/

namespace Component

theorem afterInput_afterInput (c : Component) (target : Handle) :
    (c.afterInput target).afterInput target = c.afterInput target := by
  cases c with
  | slugSync s => exact congrArg Component.slugSync (s.afterInput_afterInput target)
  | stepper s => rfl

/-- The latch is looked at when it is set, so behind a key release a component fills the same fields
at another one. -/
theorem filledAt_afterInput (c : Component) (target : Handle) :
    (c.afterInput target).filledAt target = c.filledAt target := by
  cases c with
  | slugSync s =>
    show (if s.sources.contains target && !((s.afterInput target).afterInput target).edited then
      s.destinations else []) = _
    rw [s.afterInput_afterInput]
    rfl
  | stepper s => rfl

end Component

/-! ## Pages -/

namespace Page

variable {target : Handle}

/-- All components together fill their fields with the slug of the value that is released. -/
theorem snd_inputThrough (target : Handle) (cs : List Component) (t : Tree) :
    (inputThrough target cs t).2 =
      SlugSync.fill t (cs.flatMap (·.filledAt target)) (Slug.plain (t.value target)) := by
  induction cs generalizing t with
  | nil => rfl
  | cons c cs ih =>
    -- the components behind `c` see the value that `c` saw
    have hvalue : (c.onInput target t).2.value target = t.value target :=
      c.value_onInput_self target t
    calc (inputThrough target cs (c.onInput target t).2).2
        = SlugSync.fill (c.onInput target t).2 (cs.flatMap (·.filledAt target))
            (Slug.plain (t.value target)) := by rw [ih, hvalue]
      _ = SlugSync.fill t (c.filledAt target ++ cs.flatMap (·.filledAt target))
            (Slug.plain (t.value target)) := by rw [c.snd_onInput, SlugSync.fill_append]

/-- **A key release is a single filling**, whatever the order of the components and however their
fields overlap. -/
theorem tree_input (p : Page) (target : Handle) :
    (p.input target).tree = SlugSync.fill p.tree (p.components.flatMap (·.filledAt target))
      (Slug.plain (p.tree.value target)) :=
  snd_inputThrough target p.components p.tree

theorem input_input (p : Page) (target : Handle) :
    (p.input target).input target = p.input target := by
  have hvalue : (p.input target).tree.value target = p.tree.value target :=
    value_input (p.settled_input_self target)
  have hfields : (p.input target).components.flatMap (·.filledAt target) =
      p.components.flatMap (·.filledAt target) := by
    rw [components_input, List.flatMap_map]
    exact List.flatMap_congr fun c _ => c.filledAt_afterInput target
  refine eq_of_parts_eq ?_ ?_
  · rw [tree_input (p.input target), hvalue, hfields, tree_input, SlugSync.fill_fill]
  · rw [components_input, components_input, List.map_map]
    exact List.map_congr_left fun c _ => c.afterInput_afterInput target

/-- **A repeated key release does nothing.**  Two key releases in a row in one place leave the page
that the first of them left, with the same tree and the same components, their latches among them.
So does any number of them. -/
theorem repeated_key_release_does_nothing (p : Page) (target : Handle) (repeats : Nat) :
    (p.input target).input target = p.input target ∧
      p.run (List.replicate (repeats + 1) (.input target)) = p.input target := by
  refine ⟨p.input_input target, ?_⟩
  induction repeats with
  | zero => rfl
  | succ repeats ih =>
    rw [List.replicate_succ', run_append, ih]
    exact p.input_input target

end Page
end LiveForm
