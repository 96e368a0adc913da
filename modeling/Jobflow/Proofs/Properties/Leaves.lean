import Jobflow.Proofs.Properties.Grouping
import Jobflow.Text.Cut

/-!
# Flattening stores leaves

A walk through a nested mapping in preorder meets its leaves, the values that are no mappings, and
knows for each the keys on the path to it. Flattening stores all of them in one mapping, in the
order in which the walk meets them, each under the keys of its path with the separator between
neighbours. Different paths may be joined to the same key: the leaf met first gives the place, the
one met last the value.

Flattening itself goes the other way round. Each nested mapping is flattened on its own, keys that
collide within it are settled there, and only then are the keys joined to the one above. So the
walk is followed from a path downwards, where it meets the definitions of the nested mapping with
the joined path in front of their keys.
-/

namespace Jobflow.Properties

mutual

/-- The leaves that a walk through entries meets, which are reached by a path of keys. -/
def leavesBelow (path : List String) : Entries → List (List String × Value)
  | [] => []
  | (key, value) :: rest => leavesAt (path ++ [key]) value ++ leavesBelow path rest

/-- The leaves that a walk through a value meets, which is reached by a path of keys. -/
def leavesAt (path : List String) : Value → List (List String × Value)
  | .map _ entries => leavesBelow path entries
  | leaf => [(path, leaf)]

end

/-- The leaves of a nested mapping in preorder, each with the path of keys to it. -/
def leaves (entries : Entries) : List (List String × Value) := leavesBelow [] entries

/-- A leaf under the joined keys of its path. -/
def stored (sep : String) (leaf : List String × Value) : String × Value :=
  (Text.join sep leaf.1, leaf.2)

/-- A value that is no mapping is a leaf. -/
theorem leavesAt_plain (path : List String) {value : Value} (plain : value.isMap = false) :
    leavesAt path value = [(path, value)] := by
  cases value with
  | map label entries => cases plain
  | _ => rw [leavesAt]; exact nofun

/-- Keys are joined from either end. -/
theorem joinKey_assoc (sep key middle child : String) :
    joinKey sep (joinKey sep key middle) child = joinKey sep key (joinKey sep middle child) := by
  simp only [joinKey, String.append_assoc]

/-- A key at the end of a path is joined to the path. -/
theorem join_concat (sep key : String) {path : List String} (some : path ≠ []) :
    Text.join sep (path ++ [key]) = joinKey sep (Text.join sep path) key := by
  rw [Text.join, String.intercalate_append_of_ne_nil some (List.cons_ne_nil key [])]
  simp [Text.join, joinKey]

/-- The definitions in a value under a joined key are those under its last part, below the
others. -/
theorem definitionsAt_joinKey (sep key child : String) (value : Value) :
    definitionsAt sep (joinKey sep key child) value =
      (definitionsAt sep child value).map (Prod.map (joinKey sep key) id) := by
  cases value with
  | map label entries =>
    rw [definitionsAt, definitionsAt, List.map_map]
    refine List.map_congr_left fun entry _ => ?_
    rw [Function.comp_apply, Prod.map, Prod.map, joinKey_assoc]
    rfl
  | _ =>
    rw [definitionsAt_plain sep _ rfl, definitionsAt_plain sep _ rfl]
    rfl

-- By induction on a value and its entries together, for all paths. The path must not be empty: only
-- below a key is there a separator in front of the next one.
mutual

/-- Below a path, a walk meets the definitions in the entries, with the path in front of their
keys. -/
theorem map_stored_leavesBelow (sep : String) {path : List String} (some : path ≠ []) :
    ∀ entries : Entries, (leavesBelow path entries).map (stored sep) =
      (definitions sep entries).map (Prod.map (joinKey sep (Text.join sep path)) id)
  | [] => by rw [leavesBelow, definitions, List.map_nil, List.map_nil]
  | (key, value) :: rest => by
    rw [leavesBelow, definitions, List.map_append, List.map_append,
      map_stored_leavesBelow sep some rest,
      map_stored_leavesAt sep (List.append_ne_nil_of_right_ne_nil path (List.cons_ne_nil key []))
        value,
      join_concat sep key some, definitionsAt_joinKey]

/-- At a path, a walk meets the definitions in the value under the joined path. -/
theorem map_stored_leavesAt (sep : String) {path : List String} (some : path ≠ []) :
    ∀ value : Value, (leavesAt path value).map (stored sep) =
      definitionsAt sep (Text.join sep path) value
  | .map _ inner => by rw [leavesAt, definitionsAt, map_stored_leavesBelow sep some inner]
  | .null | .bool _ | .int _ | .float _ | .text _ | .time _ _ | .list _ _ | .tuple _ _
  | .object _ _ => by
    rw [leavesAt_plain path rfl, definitionsAt_plain sep _ rfl]
    rfl

end

/-- The stored leaves of a nested mapping are the definitions in it. -/
theorem map_stored_leaves (sep : String) (entries : Entries) :
    (leaves entries).map (stored sep) = definitions sep entries := by
  induction entries with
  | nil => rfl
  | cons entry rest inductionHypothesis =>
    obtain ⟨key, value⟩ := entry
    have first := map_stored_leavesAt sep (List.cons_ne_nil key []) value
    have single : Text.join sep [key] = key := by simp [Text.join]
    rw [single] at first
    rw [leaves, leavesBelow, List.map_append, definitions, List.nil_append, first,
      ← inductionHypothesis]
    rfl

/-- Flattening stores the leaves of a nested mapping, in preorder and under the joined keys of
their paths. A key that several paths are joined to has the place of the first leaf and the value
of the last one. So what is flattened holds no mapping, and is left alone when it is flattened
again, with whatever separator. -/
theorem flatten_stores_leaves (sep : String) (entries : Entries) :
    let walk := (leaves entries).map (stored sep)
    flatten sep entries = .ofList walk ∧
      (flatten sep entries).keys = (walk.map Prod.fst).eraseDups ∧
      (∀ name, (flatten sep entries).find? name = walk.reverse.lookup name) ∧
      (flatten sep entries).Flat ∧
      ∀ other, flatten other (flatten sep entries).entries = flatten sep entries := by
  intro walk
  have inserted : flatten sep entries = .ofList walk := by
    rw [flatten_eq, ← map_stored_leaves]
  have flat : (flatten sep entries).Flat :=
    flat_flattenOnto sep .empty (by simp [Flat, OrderedMap.empty]) entries
  refine ⟨inserted, ?_, ?_, flat, fun other => flatten_of_flat other _ flat⟩
  · rw [inserted, OrderedMap.keys_ofList]
  · intro name
    rw [inserted, OrderedMap.find?_ofList]

/-- The path to a nested leaf may collide with a key that has the separator in it. -/
example : (flatten "." [("a", .ofEntries [("b", .int 1)]), ("c", .null), ("a.b", .int 2)]).entries =
    [("a.b", .int 2), ("c", .null)] := by rfl

end Jobflow.Properties
