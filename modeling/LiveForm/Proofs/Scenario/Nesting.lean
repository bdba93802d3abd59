import LiveForm.Proofs.Scenario.Building

/-!
# Which entries make a tree

Entries are added one after another.  An entry can be added if the parent that it names is the id of
an entry before it, and its own id is not; then its element stands under the one with that id.  The
first entry that cannot be added is blamed, for its parent if that is missing, and else for its id.

* `Scenario.LacksParent`, `Scenario.RepeatsId`: what can be wrong with the entry at a place.
* `Scenario.Blames`: an error is about the first entry that has a fault.
* `Scenario.Nests`: a tree has the elements of entries, each under its parent.
* `Scenario.Nests.addElement_cases`: what adding one more entry comes to.
* `Scenario.nests_or_blames`: every list of entries makes such a tree, or such an error.
* `Scenario.buildTree_follows_entries`: the main statement.
-/

namespace LiveForm
namespace Scenario

variable {entries before : List ElementEntry} {e : ElementEntry} {t : Tree} {i : Nat}
  {name id : String} {error error' : ReplayError}

/-! ## Entries and those before them -/

/-- The ids of entries, in order. -/
def ids (entries : List ElementEntry) : List String := entries.filterMap ElementEntry.id

/-- The entry at a place has an id. -/
def HasId (entries : List ElementEntry) (id : String) (i : Nat) : Prop :=
  ∃ e, entries[i]? = some e ∧ e.id = some id

/-- The entry at a place, and the ids of those before it, are so. -/
def EntryAt (entries : List ElementEntry) (i : Nat)
    (so : ElementEntry → List String → Prop) : Prop :=
  ∃ e, entries[i]? = some e ∧ so e (ids (entries.take i))

/-- The entry at a place names a parent that is not the id of an entry before it. -/
def LacksParent (entries : List ElementEntry) (i : Nat) (name : String) : Prop :=
  EntryAt entries i fun e known => e.parent = some name ∧ name ∉ known

/-- The entry at a place has the id of an entry before it. -/
def RepeatsId (entries : List ElementEntry) (i : Nat) (id : String) : Prop :=
  EntryAt entries i fun e known => e.id = some id ∧ id ∈ known

/-- Something is wrong with the entry at a place. -/
def Offends (entries : List ElementEntry) (i : Nat) : Prop :=
  (∃ name, LacksParent entries i name) ∨ ∃ id, RepeatsId entries i id

theorem ids_concat (before : List ElementEntry) (e : ElementEntry) :
    ids (before ++ [e]) = ids before ++ e.id.toList := by
  rw [ids, List.filterMap_append]
  cases hid : e.id with
  | none => rw [List.filterMap_cons_none hid]; rfl
  | some id => rw [List.filterMap_cons_some hid]; rfl

theorem mem_ids_iff : id ∈ ids entries ↔ ∃ i, HasId entries id i := by
  rw [ids, List.mem_filterMap]
  constructor
  · rintro ⟨e, he, hid⟩
    obtain ⟨i, hi⟩ := List.mem_iff_getElem?.1 he
    exact ⟨i, e, hi, hid⟩
  · rintro ⟨i, e, hi, hid⟩
    exact ⟨e, List.mem_of_getElem? hi, hid⟩

/-- The ids before a place. -/
theorem mem_ids_take_iff : id ∈ ids (entries.take i) ↔ ∃ j < i, HasId entries id j := by
  rw [mem_ids_iff]
  refine exists_congr fun j => ?_
  rw [HasId, HasId, List.getElem?_take]
  by_cases hj : j < i
  · rw [if_pos hj, and_iff_right hj]
  · rw [if_neg hj]
    exact iff_of_false (fun ⟨e, he, _⟩ => by cases he) fun h => hj h.1

theorem HasId.lt_length (h : HasId entries id i) : i < entries.length := by
  obtain ⟨e, he, -⟩ := h
  exact (List.getElem?_eq_some_iff.1 he).1

theorem HasId.concat (h : HasId before id i) : HasId (before ++ [e]) id i := by
  obtain ⟨d, hd, hid⟩ := h
  refine ⟨d, ?_, hid⟩
  rw [List.getElem?_append_left (List.getElem?_eq_some_iff.1 hd).1, hd]

theorem rel_hasId_concat {name? : Option String} {place? : Option Nat}
    (h : Option.Rel (HasId before) name? place?) :
    Option.Rel (HasId (before ++ [e])) name? place? := by
  cases h with
  | some hid => exact .some hid.concat
  | none => exact .none

/-- A place that has an id is one of the list. -/
theorem filter_of_rel_hasId {name? : Option String} {place? : Option Nat}
    (h : Option.Rel (HasId before) name? place?) :
    place?.filter (· < before.length) = place? := by
  cases h with
  | some hid => rw [Option.filter_some, if_pos (decide_eq_true hid.lt_length)]
  | none => rfl

/-- A place of a list with one more entry is one of the list, or that of the entry. -/
theorem lt_or_eq_of_lt_length_concat (h : i < (before ++ [e]).length) :
    i < before.length ∨ i = before.length := by
  rw [List.length_append, List.length_singleton] at h
  exact Nat.lt_succ_iff_lt_or_eq.1 h

/-- One entry more at the end is no matter for those in front. -/
theorem entryAt_concat_of_lt {so : ElementEntry → List String → Prop} (hi : i < before.length) :
    EntryAt (before ++ [e]) i so ↔ EntryAt before i so := by
  rw [EntryAt, List.getElem?_append_left hi, List.take_append_of_le_length (Nat.le_of_lt hi)]
  rfl

/-- The entry at the end has all others before it. -/
theorem entryAt_concat_length {so : ElementEntry → List String → Prop} :
    EntryAt (before ++ [e]) before.length so ↔ so e (ids before) := by
  rw [EntryAt, List.getElem?_concat_length, List.take_left]
  simp

theorem EntryAt.lt_length {so : ElementEntry → List String → Prop} (h : EntryAt entries i so) :
    i < entries.length := by
  obtain ⟨e, he, -⟩ := h
  exact (List.getElem?_eq_some_iff.1 he).1

/-- One entry stands at a place, so what is known of it twice is the same. -/
theorem EntryAt.eq_of_eq_some {so so' : ElementEntry → List String → Prop}
    {view : ElementEntry → Option String} {a b : String} (h : EntryAt entries i so)
    (h' : EntryAt entries i so') (hso : ∀ e known, so e known → view e = some a)
    (hso' : ∀ e known, so' e known → view e = some b) : a = b := by
  obtain ⟨e, he, hsoe⟩ := h
  obtain ⟨d, hd, hsod⟩ := h'
  rw [he, Option.some_inj] at hd
  have hview := hso' d _ hsod
  rwa [← hd, hso e _ hsoe, Option.some_inj] at hview

theorem offends_concat_of_lt (hi : i < before.length) :
    Offends (before ++ [e]) i ↔ Offends before i :=
  or_congr (exists_congr fun _ => entryAt_concat_of_lt hi)
    (exists_congr fun _ => entryAt_concat_of_lt hi)

theorem offends_concat_length :
    Offends (before ++ [e]) before.length ↔
      (∃ name, e.parent = some name ∧ name ∉ ids before) ∨
        ∃ id, e.id = some id ∧ id ∈ ids before :=
  or_congr (exists_congr fun _ => entryAt_concat_length)
    (exists_congr fun _ => entryAt_concat_length)

theorem Offends.lt_length (h : Offends entries i) : i < entries.length := by
  rcases h with ⟨name, h⟩ | ⟨id, h⟩
  · exact h.lt_length
  · exact h.lt_length

/-- Nothing is wrong with entries if nothing is wrong with the last one and with those before it. -/
theorem not_offends_concat (hbefore : ∀ i, ¬ Offends before i)
    (hnew : ¬ Offends (before ++ [e]) before.length) (i : Nat) : ¬ Offends (before ++ [e]) i := by
  intro h
  rcases lt_or_eq_of_lt_length_concat h.lt_length with hi | rfl
  · exact hbefore i ((offends_concat_of_lt hi).1 h)
  · exact hnew h

/-- All ids are different exactly if no entry has the id of one before it. -/
theorem nodup_ids_iff : (ids entries).Nodup ↔ ∀ i id, ¬ RepeatsId entries i id := by
  induction entries using List.reverseRecOn with
  | nil =>
    refine iff_of_true List.nodup_nil fun i id h => ?_
    exact absurd h.lt_length (Nat.not_lt_zero i)
  | append_singleton before e ih =>
    rw [ids_concat, List.nodup_append, ih]
    constructor
    · rintro ⟨hbefore, -, hnew⟩ i id h
      rcases lt_or_eq_of_lt_length_concat h.lt_length with hi | rfl
      · exact hbefore i id ((entryAt_concat_of_lt hi).1 h)
      · obtain ⟨hid, hmem⟩ := entryAt_concat_length.1 h
        exact hnew id hmem id (by rw [hid]; exact .head _) rfl
    · intro h
      refine ⟨fun i id hi => h i id ((entryAt_concat_of_lt hi.lt_length).2 hi), ?_, ?_⟩
      · cases e.id <;> simp
      · rintro id hmem id' hid' rfl
        rw [Option.mem_toList] at hid'
        exact h before.length id (entryAt_concat_length.2 ⟨hid', hmem⟩)

/-! ## The error -/

/-- The error is about the first entry that has a fault: its parent if that is missing, and else its
id. -/
inductive Blames (entries : List ElementEntry) : ReplayError → Prop
  | unknownParent (i : Nat) (name : String) (earlier : ∀ j < i, ¬ Offends entries j)
      (lacks : LacksParent entries i name) : Blames entries (.unknownParent i name)
  | duplicateId (i : Nat) (id : String) (earlier : ∀ j < i, ¬ Offends entries j)
      (parent : ∀ name, ¬ LacksParent entries i name) (repeats : RepeatsId entries i id) :
      Blames entries (.duplicateId id)

namespace Blames

theorem exists_offends (h : Blames entries error) : ∃ i, Offends entries i := by
  cases h with
  | unknownParent i name _ lacks => exact ⟨i, .inl ⟨name, lacks⟩⟩
  | duplicateId i id _ _ repeats => exact ⟨i, .inr ⟨id, repeats⟩⟩

theorem concat (h : Blames before error) (e : ElementEntry) : Blames (before ++ [e]) error := by
  have hearlier : ∀ {i}, i < before.length → (∀ j < i, ¬ Offends before j) →
      ∀ j < i, ¬ Offends (before ++ [e]) j :=
    fun hi h j hj => mt (offends_concat_of_lt (Nat.lt_trans hj hi)).1 (h j hj)
  cases h with
  | unknownParent i name earlier lacks =>
    exact .unknownParent i name (hearlier lacks.lt_length earlier)
      ((entryAt_concat_of_lt lacks.lt_length).2 lacks)
  | duplicateId i id earlier parent repeats =>
    exact .duplicateId i id (hearlier repeats.lt_length earlier)
      (fun name => mt (entryAt_concat_of_lt repeats.lt_length).1 (parent name))
      ((entryAt_concat_of_lt repeats.lt_length).2 repeats)

/-- Entries are blamed in one way only. -/
theorem unique (h : Blames entries error) (h' : Blames entries error') : error = error' := by
  -- both errors are about one place, since each has nothing wrong before it
  have hsame : ∀ {i j}, (∀ k < i, ¬ Offends entries k) → (∀ k < j, ¬ Offends entries k) →
      Offends entries i → Offends entries j → i = j := by
    intro i j hi hj hio hjo
    rcases Nat.lt_trichotomy i j with hlt | heq | hgt
    · exact absurd hio (hj i hlt)
    · exact heq
    · exact absurd hjo (hi j hgt)
  cases h with
  | unknownParent i name earlier lacks =>
    cases h' with
    | unknownParent j name' earlier' lacks' =>
      obtain rfl := hsame earlier earlier' (.inl ⟨name, lacks⟩) (.inl ⟨name', lacks'⟩)
      rw [lacks.eq_of_eq_some lacks' (fun _ _ h => h.1) (fun _ _ h => h.1)]
    | duplicateId j id earlier' parent repeats =>
      obtain rfl := hsame earlier earlier' (.inl ⟨name, lacks⟩) (.inr ⟨id, repeats⟩)
      exact absurd lacks (parent name)
  | duplicateId i id earlier parent repeats =>
    cases h' with
    | unknownParent j name earlier' lacks =>
      obtain rfl := hsame earlier earlier' (.inr ⟨id, repeats⟩) (.inl ⟨name, lacks⟩)
      exact absurd lacks (parent name)
    | duplicateId j id' earlier' parent' repeats' =>
      obtain rfl := hsame earlier earlier' (.inr ⟨id, repeats⟩) (.inr ⟨id', repeats'⟩)
      rw [repeats.eq_of_eq_some repeats' (fun _ _ h => h.1) (fun _ _ h => h.1)]

end Blames

/-! ## The tree -/

/-- Ids are found where the entries have them. -/
theorem Describes.findById?_eq_none_iff (h : Describes before t) :
    t.findById? id = none ↔ id ∉ ids before := by
  rw [Tree.findById?_eq_none_iff, mem_ids_iff]
  constructor
  · rintro hnone ⟨i, e, he, hid⟩
    refine hnone i e.element ?_ hid
    rw [h.element?_eq, he]
    rfl
  · intro hnone i d hd hid
    rw [h.element?_eq, Option.map_eq_some_iff] at hd
    obtain ⟨e, he, rfl⟩ := hd
    exact hnone ⟨i, e, he, hid⟩

theorem Describes.hasId_of_findById?_eq_some (h : Describes before t)
    (hfound : t.findById? id = some i) : HasId before id i := by
  have hpicked := List.find?_some hfound
  rw [h.element?_eq, Option.any_eq_true] at hpicked
  obtain ⟨d, hd, hid⟩ := hpicked
  obtain ⟨e, he, rfl⟩ := Option.map_eq_some_iff.1 hd
  exact ⟨e, he, eq_of_beq hid⟩

theorem Describes.exists_element?_of_hasId (h : Describes before t) (hid : HasId before id i) :
    ∃ d, t.element? i = some d ∧ d.id = some id := by
  obtain ⟨e, he, hid⟩ := hid
  exact ⟨e.element, by rw [h.element?_eq, he]; rfl, hid⟩

/-- The tree has the elements of the entries in order, and each stands under the one that has the id
of its parent. -/
structure Nests (entries : List ElementEntry) (t : Tree) : Prop extends Describes entries t where
  parent : ∀ (i : Nat) (e : ElementEntry), entries[i]? = some e →
    Option.Rel (HasId entries) e.parent (t.parent? i)

namespace Nests

theorem nil : Nests [] .empty where
  toDescribes := describes_nil
  parent i e he := by cases he

/-- The parent that an entry names is found if it is among the entries before it. -/
theorem parentOf_eq_ok (h : Nests before t) (hparent : ∀ name ∈ e.parent, name ∈ ids before) :
    ∃ parent, parentOf t e = .ok parent ∧ Option.Rel (HasId before) e.parent parent := by
  cases hname : e.parent with
  | none =>
    refine ⟨none, ?_, .none⟩
    rw [parentOf, hname]
  | some name =>
    cases hfound : t.findById? name with
    | none => exact absurd (hparent name hname) (h.findById?_eq_none_iff.1 hfound)
    | some j =>
      refine ⟨some j, ?_, .some (h.hasId_of_findById?_eq_some hfound)⟩
      rw [parentOf, hname]
      simp only [hfound]

/-- A parent that is missing is the first thing that is found wrong. -/
theorem addElement_eq_unknownParent (h : Nests before t) (hname : e.parent = some name)
    (hnot : name ∉ ids before) :
    addElement t e = .error (.unknownParent before.length name) := by
  refine bind_eq_error_iff.2 (.inl ?_)
  rw [parentOf, hname]
  simp only [h.findById?_eq_none_iff.2 hnot, h.size_eq]

theorem addElement_eq_duplicateId (h : Nests before t)
    (hparent : ∀ name ∈ e.parent, name ∈ ids before) (hid : e.id = some id)
    (hmem : id ∈ ids before) : addElement t e = .error (.duplicateId id) := by
  obtain ⟨parent, hfound, -⟩ := h.parentOf_eq_ok hparent
  have hold : (t.findById? id).isSome = true :=
    Option.isSome_iff_ne_none.2 fun hnone => h.findById?_eq_none_iff.1 hnone hmem
  refine bind_eq_error_iff.2 (.inr ⟨parent, hfound, ?_⟩)
  simp only [hid]
  rw [if_pos hold]

/-- The element of one more entry, under a parent that it may stand under. -/
theorem append (h : Nests before t) {parent : Option Handle}
    (hparent : Option.Rel (HasId before) e.parent parent)
    (hadd : addElement t e = .ok (t.append parent e.element)) :
    Nests (before ++ [e]) (t.append parent e.element) where
  toDescribes := h.addElement hadd
  parent i d hd := by
    rw [Tree.parent?_append, h.size_eq]
    rcases lt_or_eq_of_lt_length_concat (List.getElem?_eq_some_iff.1 hd).1 with hlt | rfl
    · rw [List.getElem?_append_left hlt] at hd
      rw [if_neg (Nat.ne_of_lt hlt)]
      exact rel_hasId_concat (h.parent i d hd)
    · rw [List.getElem?_concat_length, Option.some_inj] at hd
      -- the handle of the parent is one of the tree, so it is not dropped
      rw [if_pos rfl, ← hd, filter_of_rel_hasId hparent]
      exact rel_hasId_concat hparent

/-- An entry whose parent stands before it, and whose id is new, can be added. -/
theorem exists_addElement (h : Nests before t)
    (hparent : ∀ name ∈ e.parent, name ∈ ids before) (hid : ∀ id ∈ e.id, id ∉ ids before) :
    ∃ u, addElement t e = .ok u ∧ Nests (before ++ [e]) u := by
  obtain ⟨parent, hfound, hrel⟩ := h.parentOf_eq_ok hparent
  have hadd : addElement t e = .ok (t.append parent e.element) := by
    refine bind_eq_ok_iff.2 ⟨parent, hfound, ?_⟩
    cases hname : e.id with
    | none => rfl
    | some id =>
      simp only [h.findById?_eq_none_iff.2 (hid id hname)]
      rfl
  exact ⟨_, hadd, h.append hrel hadd⟩

/-- **What adding one more entry comes to**, if nothing is wrong with those before it. -/
theorem addElement_cases (h : Nests before t) (hbefore : ∀ i, ¬ Offends before i)
    (e : ElementEntry) :
    (∃ u, addElement t e = .ok u ∧ Nests (before ++ [e]) u ∧ ∀ i, ¬ Offends (before ++ [e]) i) ∨
      ∃ error, addElement t e = .error error ∧ Blames (before ++ [e]) error := by
  have hearlier : ∀ i < before.length, ¬ Offends (before ++ [e]) i :=
    fun i hi => mt (offends_concat_of_lt hi).1 (hbefore i)
  -- the parent is looked up first, so the id counts only where no parent is missing
  by_cases hlacks : ∃ name, e.parent = some name ∧ name ∉ ids before
  · obtain ⟨name, hname, hnot⟩ := hlacks
    exact .inr ⟨_, h.addElement_eq_unknownParent hname hnot,
      .unknownParent _ _ hearlier (entryAt_concat_length.2 ⟨hname, hnot⟩)⟩
  have hparent : ∀ name ∈ e.parent, name ∈ ids before :=
    fun name hname => not_not.1 fun hnot => hlacks ⟨name, hname, hnot⟩
  by_cases hrepeats : ∃ id, e.id = some id ∧ id ∈ ids before
  · obtain ⟨id, hid, hmem⟩ := hrepeats
    exact .inr ⟨_, h.addElement_eq_duplicateId hparent hid hmem,
      .duplicateId _ _ hearlier (fun name hl => hlacks ⟨name, entryAt_concat_length.1 hl⟩)
        (entryAt_concat_length.2 ⟨hid, hmem⟩)⟩
  · obtain ⟨u, hadd, hnests⟩ :=
      h.exists_addElement hparent fun id hid hmem => hrepeats ⟨id, hid, hmem⟩
    refine .inl ⟨u, hadd, hnests, not_offends_concat hbefore fun hnew => ?_⟩
    exact (offends_concat_length.1 hnew).elim hlacks hrepeats

/-- The element of an entry that names no parent has none. -/
theorem parent?_eq_none (h : Nests entries t) (he : entries[i]? = some e)
    (hnone : e.parent = none) :
    t.parent? i = none := by
  have hrel := h.parent i e he
  rw [hnone] at hrel
  generalize t.parent? i = place at hrel
  cases hrel
  rfl

/-- The element of an entry that names a parent has it. -/
theorem exists_parent? (h : Nests entries t) (he : entries[i]? = some e)
    (hname : e.parent = some name) : ∃ j, t.parent? i = some j ∧ HasId entries name j := by
  have hrel := h.parent i e he
  rw [hname] at hrel
  generalize t.parent? i = place at hrel
  cases hrel with
  | some hid => exact ⟨_, rfl, hid⟩

end Nests

/-- **Entries make a tree in which they are nested, or the first that has a fault is blamed.** -/
theorem nests_or_blames (entries : List ElementEntry) :
    (∃ t, buildTree entries = .ok t ∧ Nests entries t ∧ ∀ i, ¬ Offends entries i) ∨
      ∃ error, buildTree entries = .error error ∧ Blames entries error := by
  -- from the end: the last entry comes upon the tree of all others, or upon their error
  induction entries using List.reverseRecOn with
  | nil => exact .inl ⟨.empty, rfl, .nil, fun i hi => Nat.not_lt_zero i hi.lt_length⟩
  | append_singleton before e ih =>
    rw [buildTree_concat]
    rcases ih with ⟨t, hbuild, hnests, hbefore⟩ | ⟨error, hbuild, hblames⟩
    · rw [hbuild]
      exact hnests.addElement_cases hbefore e
    · exact .inr ⟨error, bind_eq_error_iff.2 (.inl hbuild), hblames.concat e⟩

theorem nests_of_buildTree (h : buildTree entries = .ok t) : Nests entries t := by
  rcases nests_or_blames entries with ⟨u, hbuild, hnests, -⟩ | ⟨error, hbuild, -⟩
  · rw [h, Except.ok.injEq] at hbuild
    rwa [hbuild]
  · rw [h] at hbuild
    cases hbuild

theorem exists_buildTree_iff : (∃ t, buildTree entries = .ok t) ↔ ∀ i, ¬ Offends entries i := by
  rcases nests_or_blames entries with ⟨t, hbuild, -, hnone⟩ | ⟨error, hbuild, hblames⟩
  · exact iff_of_true ⟨t, hbuild⟩ hnone
  · refine iff_of_false ?_ fun hnone => ?_
    · rintro ⟨t, ht⟩
      rw [ht] at hbuild
      cases hbuild
    · obtain ⟨i, hi⟩ := hblames.exists_offends
      exact hnone i hi

theorem buildTree_eq_error_iff : buildTree entries = .error error ↔ Blames entries error := by
  rcases nests_or_blames entries with ⟨t, hbuild, -, hnone⟩ | ⟨error', hbuild, hblames⟩
  · rw [hbuild]
    refine iff_of_false (fun h => by cases h) fun h => ?_
    obtain ⟨i, hi⟩ := h.exists_offends
    exact hnone i hi
  · rw [hbuild, Except.error.injEq]
    constructor
    · rintro rfl
      exact hblames
    · exact hblames.unique

/-! ## The main statement -/

/-- Nothing is wrong exactly if parents stand before their children and all ids are different. -/
theorem forall_not_offends_iff :
    (∀ i, ¬ Offends entries i) ↔
      (∀ (i : Nat) (e : ElementEntry) (name : String), entries[i]? = some e →
        e.parent = some name → ∃ j < i, HasId entries name j) ∧ (ids entries).Nodup := by
  rw [nodup_ids_iff]
  constructor
  · intro hnone
    refine ⟨fun i e name he hname => ?_, fun i id h => hnone i (.inr ⟨id, h⟩)⟩
    refine mem_ids_take_iff.1 (not_not.1 fun hnot => ?_)
    exact hnone i (.inl ⟨name, e, he, hname, hnot⟩)
  · rintro ⟨hparent, hid⟩ i (⟨name, e, he, hname, hnot⟩ | ⟨id, h⟩)
    · exact hnot (mem_ids_take_iff.2 (hparent i e name he hname))
    · exact hid i id h

/-- The element of an entry has what the entry says. -/
theorem Describes.exists_element? (h : Describes entries t) (he : entries[i]? = some e) :
    ∃ d, t.element? i = some d ∧ d.tag = e.tag ∧ d.id = e.id ∧ d.value = e.value ∧
      d.attributes = e.attributes ∧ ∀ name, d.hasClass name = true ↔ name ∈ e.classes := by
  refine ⟨e.element, by rw [h.element?_eq, he]; rfl, rfl, rfl, rfl, rfl, fun name => ?_⟩
  exact NameSet.contains_iff.trans NameSet.mem_ofList

/-- The element that one with a named parent stands under is the only one with that id. -/
theorem Nests.exists_parent?_unique (h : Nests entries t) (he : entries[i]? = some e)
    (hname : e.parent = some name) :
    ∃ j, t.parent? i = some j ∧ ∀ k, (∃ d, t.element? k = some d ∧ d.id = some name) ↔ k = j := by
  obtain ⟨j, hj, hid⟩ := h.exists_parent? he hname
  obtain ⟨d, hd, hdid⟩ := h.exists_element?_of_hasId hid
  refine ⟨j, hj, fun k => ?_⟩
  constructor
  · rintro ⟨c, hc, hcid⟩
    exact h.id_unique k j c d name hc hd hcid hdid
  · rintro rfl
    exact ⟨d, hd, hdid⟩

/-- **A tree is built exactly of entries whose parents stand before them and whose ids are all
different.**  It has the elements of the entries in order, each under the only element with the id
of its parent; in all other cases the error is about the first entry that has a fault. -/
theorem buildTree_follows_entries (entries : List ElementEntry) :
    ((∃ t, buildTree entries = .ok t) ↔
      (∀ (i : Nat) (e : ElementEntry) (name : String), entries[i]? = some e →
        e.parent = some name → ∃ j < i, HasId entries name j) ∧ (ids entries).Nodup) ∧
    (∀ t, buildTree entries = .ok t →
      t.size = entries.length ∧
      ∀ (i : Nat) (e : ElementEntry), entries[i]? = some e →
        (∃ d, t.element? i = some d ∧ d.tag = e.tag ∧ d.id = e.id ∧ d.value = e.value ∧
          d.attributes = e.attributes ∧ ∀ name, d.hasClass name = true ↔ name ∈ e.classes) ∧
        (e.parent = none → t.parent? i = none) ∧
        ∀ name, e.parent = some name → ∃ j, t.parent? i = some j ∧
          ∀ k, (∃ d, t.element? k = some d ∧ d.id = some name) ↔ k = j) ∧
    ∀ error, buildTree entries = .error error ↔ Blames entries error := by
  refine ⟨exists_buildTree_iff.trans forall_not_offends_iff, fun t ht => ?_,
    fun error => buildTree_eq_error_iff⟩
  have hnests := nests_of_buildTree ht
  refine ⟨hnests.size_eq, fun i e he => ?_⟩
  exact ⟨hnests.exists_element? he, hnests.parent?_eq_none he,
    fun name => hnests.exists_parent?_unique he⟩

/-- A field in a box. -/
def boxed : List ElementEntry :=
  [{ tag := "div", id := some "box" }, { tag := "input", parent := some "box" }]

/-- A field in a box that has the id of the box, and one that names a parent which is not there. -/
def twoFaults : List ElementEntry :=
  [{ tag := "div", id := some "box" }, { tag := "input", id := some "box", parent := some "box" },
    { tag := "input", parent := some "form" }]

/-- The field stands in the box; of two faults the first is blamed. -/
theorem buildTree_follows_entries_boxed :
    (∃ t, buildTree boxed = .ok t ∧ ∃ j, t.parent? 1 = some j ∧
      ∀ k, (∃ d, t.element? k = some d ∧ d.id = some "box") ↔ k = j) ∧
    Blames twoFaults (.duplicateId "box") := by
  have hboxed : (buildTree boxed).map Tree.size = .ok 2 := by decide +kernel
  have hfaults : (buildTree twoFaults).map Tree.size = .error (.duplicateId "box") := by
    decide +kernel
  constructor
  · obtain ⟨t, hbuild, -⟩ := map_eq_ok_iff.1 hboxed
    obtain ⟨-, hentries⟩ := (buildTree_follows_entries boxed).2.1 t hbuild
    exact ⟨t, hbuild, (hentries 1 _ rfl).2.2 "box" rfl⟩
  · exact ((buildTree_follows_entries twoFaults).2.2 _).1 (map_eq_error_iff.1 hfaults)

end Scenario
end LiveForm
