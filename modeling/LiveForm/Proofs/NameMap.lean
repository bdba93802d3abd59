import Mathlib.Data.List.Dedup
import LiveForm.NameMap

/-!
# Maps made of lists

What a map holds that was made by inserting the entries of a list one after another.

* `NameMap.get?_ofList`: under each name the value of its last entry.
* `NameMap.size_ofList`: as many names as occur in the list, each counted once.
* `NameMap.size_ofList_eq_length_iff`: so no entry is lost exactly if no name occurs twice.
-/

namespace LiveForm
namespace NameMap

variable {α : Type} {l : List (String × α)} {x : String}

/-- A name has an entry exactly if it is the name of one. -/
theorem lookup_isSome_iff_mem : (l.lookup x).isSome = true ↔ x ∈ l.map Prod.fst := by
  rw [List.lookup_isSome_iff, List.mem_map]
  refine exists_congr fun e => and_congr_right fun _ => ?_
  rw [beq_iff_eq]
  exact eq_comm

theorem get?_foldl_insert (l : List (String × α)) (m : NameMap α) (x : String) :
    (l.foldl (fun m e => m.insert e.1 e.2) m).get? x = (l.reverse.lookup x).or (m.get? x) := by
  induction l generalizing m with
  | nil => rfl
  | cons e l ih =>
    have hinsert : (m.insert e.1 e.2).get? x = ([e].lookup x).or (m.get? x) := by
      rw [get?_insert, List.lookup_cons]
      by_cases hx : x = e.1
      · rw [if_pos hx, hx, beq_self_eq_true]
        rfl
      · rw [if_neg hx, beq_false_of_ne hx]
        rfl
    rw [List.foldl_cons, ih, hinsert, List.reverse_cons, List.lookup_append, Option.or_assoc]

/-- **The last entry of a name counts.** -/
theorem get?_ofList (l : List (String × α)) (x : String) :
    (ofList l).get? x = l.reverse.lookup x := by
  rw [ofList, get?_foldl_insert, get?_empty, Option.or_none]

theorem nodup_names (m : NameMap α) : (m.entries.map Prod.fst).Nodup := by
  refine List.pairwise_map.2 (m.increasing.imp fun {a b} h heq => ?_)
  rw [heq] at h
  exact String.lt_irrefl _ h

/-- **A map made of a list has each name of the list once.** -/
theorem size_ofList (l : List (String × α)) :
    (ofList l).size = (l.map Prod.fst).dedup.length := by
  have hperm : ((ofList l).entries.map Prod.fst).Perm (l.map Prod.fst).dedup := by
    refine (List.perm_ext_iff_of_nodup (nodup_names _) (List.nodup_dedup _)).2 fun x => ?_
    have hget : (ofList l).entries.lookup x = l.reverse.lookup x := get?_ofList l x
    rw [← lookup_isSome_iff_mem, hget, lookup_isSome_iff_mem, List.map_reverse, List.mem_reverse,
      List.mem_dedup]
  rw [size, ← hperm.length_eq, List.length_map]

/-- No entry of the list is lost exactly if no name occurs twice. -/
theorem size_ofList_eq_length_iff :
    (ofList l).size = l.length ↔ (l.map Prod.fst).Nodup := by
  have hlength : (l.map Prod.fst).length = l.length := List.length_map _
  rw [size_ofList, ← hlength]
  constructor
  · intro h
    exact List.dedup_eq_self.1 ((List.dedup_sublist _).eq_of_length h)
  · intro h
    rw [List.dedup_eq_self.2 h]

end NameMap
end LiveForm
