import Jobflow.Proofs.Properties

/-!
# Merging in groups

Flattening a mapping inserts the definitions in it one after the other: each value that is no
mapping, under the path of keys that leads to it. The paths may collide, within a mapping and
across mappings, and then the last definition gives the value and the first one the place. So
merging sources inserts all their definitions in order, and how the sources were grouped before
does not matter.

Properties are merged into new ones, which are put behind those that are there and updated in
place, source by source. Sources may themselves be properties that are there, among them those
that are merged. All of them stay as they are.
-/

namespace Jobflow.Properties

/-! ## Definitions -/

mutual

/-- The definitions in a nested mapping, in order: the values that are no mappings, each under the
path of keys that leads to it. -/
def definitions (sep : String) : Entries → Entries
  | [] => []
  | (key, value) :: rest => definitionsAt sep key value ++ definitions sep rest

/-- The definitions in a value under a key. -/
def definitionsAt (sep key : String) : Value → Entries
  | .map _ entries => (definitions sep entries).map (Prod.map (joinKey sep key) id)
  | value => [(key, value)]

end

/-- Keys below one key are told apart. -/
theorem joinKey_injective (sep key : String) : Function.Injective (joinKey sep key) := by
  intro child other same
  have characters := congrArg String.toList same
  exact String.toList_injective (by simpa [joinKey, String.toList_append] using characters)

/-- A value that is no mapping is a definition of its key. -/
theorem definitionsAt_plain (sep key : String) {value : Value} (plain : value.isMap = false) :
    definitionsAt sep key value = [(key, value)] := by
  cases value with
  | map label entries => cases plain
  | _ => rw [definitionsAt]; exact nofun

mutual

/-- Flattening entries inserts the definitions in them in order. -/
theorem flattenOnto_eq (sep : String) (flat : Properties) : ∀ entries : Entries,
    flattenOnto sep flat entries = flat.insertAll (definitions sep entries)
  | [] => by rw [flattenOnto, definitions, OrderedMap.insertAll_nil]
  | (key, value) :: rest => by
    rw [flattenOnto, flattenOnto_eq sep _ rest, flattenEntry_eq sep flat key value, definitions,
      OrderedMap.insertAll_append]

/-- Flattening an entry inserts the definitions in it in order. Those of a nested mapping were
inserted into a mapping of their own first, which makes no difference. -/
theorem flattenEntry_eq (sep : String) (flat : Properties) (key : String) : ∀ value : Value,
    flattenEntry sep flat key value = flat.insertAll (definitionsAt sep key value)
  | .map label inner => by
    have flattened : flattenEntry sep flat key (.map label inner) =
        flat.insertAll ((flattenOnto sep .empty inner).entries.map
          (Prod.map (joinKey sep key) id)) := rfl
    have renamed := OrderedMap.map_entries_ofList (joinKey_injective sep key)
      (definitions sep inner)
    rw [flattened, flattenOnto_eq sep .empty inner, ← OrderedMap.ofList, renamed,
      OrderedMap.insertAll_ofList, definitionsAt]
  | .null | .bool _ | .int _ | .float _ | .text _ | .time _ _ | .list _ _ | .tuple _ _
  | .object _ _ => by
    rw [flattenEntry_plain _ _ _ _ rfl, definitionsAt_plain sep key rfl]
    rfl

end

/-- A flattened mapping is the mapping of the definitions in it. -/
theorem flatten_eq (sep : String) (entries : Entries) :
    flatten sep entries = .ofList (definitions sep entries) :=
  flattenOnto_eq sep .empty entries

/-- Merging inserts flattened sources one after the other. -/
theorem merge_eq (properties : Properties) (sources : List Entries) :
    properties.merge sources =
      properties.insertAll (sources.flatMap fun source => (flatten separator source).entries) := by
  induction sources generalizing properties with
  | nil => rfl
  | cons source rest inductionHypothesis =>
    rw [List.flatMap_cons, OrderedMap.insertAll_append, ← inductionHypothesis]
    rfl

/-! ## Properties in a store -/

/-- A source of properties. -/
inductive Source
  /-- A mapping. -/
  | mapping (entries : Entries)
  /-- The properties at a place in a store. -/
  | kept (place : Nat)

/-- The entries of a source, as they are in a store. -/
def Source.entries (store : List Properties) : Source → Entries
  | .mapping entries => entries
  | .kept place => (store[place]?.map OrderedMap.entries).getD []

/-- A source is there if it is a mapping or one of the properties in a store. -/
def Source.In (store : List Properties) : Source → Prop
  | .mapping _ => True
  | .kept place => place < store.length

/-- Update the properties at a place by a source. -/
def update (place : Nat) (source : Source) : StateM (List Properties) Unit :=
  modify fun store =>
    let properties := store[place]?.getD .empty
    store.set place (properties.insertAll (flatten separator (source.entries store)).entries)

/-- Make properties from sources: new ones without entries are put behind the others, and updated
by one source after the other. The result is their place. -/
def construct (sources : List Source) : StateM (List Properties) Nat := do
  let place := (← get).length
  modify fun store => store ++ [.empty]
  sources.forM (update place)
  return place

/-- Merge sources on top of the properties at a place: these are the first of the sources of new
properties. -/
def mergeKept (place : Nat) (sources : List Source) : StateM (List Properties) Nat :=
  construct (.kept place :: sources)

/-- A source that is there has the same entries once others are put behind it. -/
theorem Source.In.entries_append {store : List Properties} {source : Source}
    (there : source.In store) (others : List Properties) :
    source.entries (store ++ others) = source.entries store := by
  cases source with
  | mapping entries => rfl
  | kept place => rw [entries, entries, List.getElem?_append_left there]

/-- Updating the last properties by a source merges the source on top of them and leaves all others
as they are. -/
theorem update_last {store : List Properties} {source : Source} (there : source.In store)
    (properties : Properties) :
    update store.length source (store ++ [properties]) =
      ((), store ++ [properties.merge [source.entries store]]) := by
  have updated : update store.length source (store ++ [properties]) =
      ((), (store ++ [properties]).set store.length
        (((store ++ [properties])[store.length]?.getD .empty).insertAll
          (flatten separator (source.entries (store ++ [properties]))).entries)) := rfl
  rw [updated, there.entries_append [properties], List.getElem?_concat_length,
    List.set_append_right _ _ (Nat.le_refl _), Nat.sub_self]
  rfl

/-- Updating the last properties by sources merges them on top, and leaves all others as they
are. -/
theorem forM_update {store : List Properties} {sources : List Source}
    (there : ∀ source ∈ sources, source.In store) (properties : Properties) :
    sources.forM (update store.length) (store ++ [properties]) =
      ((), store ++ [properties.merge (sources.map (Source.entries store))]) := by
  induction sources generalizing properties with
  | nil => rfl
  | cons source rest inductionHypothesis =>
    have first := update_last (there source List.mem_cons_self) properties
    have later := inductionHypothesis fun other member => there other (List.mem_cons_of_mem _ member)
    have bound : (source :: rest).forM (update store.length) (store ++ [properties]) =
        let (_, updated) := update store.length source (store ++ [properties])
        rest.forM (update store.length) updated := rfl
    rw [bound, first]
    exact later _

/-- Making properties leaves all others as they are, the sources included. -/
theorem construct_eq {store : List Properties} {sources : List Source}
    (there : ∀ source ∈ sources, source.In store) :
    construct sources store =
      (store.length, store ++ [ofSources (sources.map (Source.entries store))]) := by
  have bound : construct sources store =
      let (_, updated) := sources.forM (update store.length) (store ++ [.empty])
      (store.length, updated) := rfl
  rw [bound, forM_update there]
  rfl

/-- Mappings are there in every store. -/
theorem in_of_mem_mappings (sources : List Entries) (store : List Properties) :
    ∀ source ∈ sources.map Source.mapping, source.In store := by
  intro source member
  obtain ⟨entries, -, rfl⟩ := List.mem_map.mp member
  trivial

/-- Mappings have the same entries in every store. -/
theorem entries_mappings (sources : List Entries) (store : List Properties) :
    (sources.map Source.mapping).map (Source.entries store) = sources := by
  rw [List.map_map]
  exact List.map_id sources

/-- Making properties from mappings. -/
theorem construct_mappings (sources : List Entries) (store : List Properties) :
    construct (sources.map .mapping) store = (store.length, store ++ [ofSources sources]) := by
  rw [construct_eq (in_of_mem_mappings sources store), entries_mappings]

/-- Properties that are there are a source with their entries. -/
theorem entries_kept {store : List Properties} {place : Nat} {properties : Properties}
    (kept : store[place]? = some properties) :
    (Source.kept place).entries store = properties.entries := by
  rw [Source.entries, kept]
  rfl

/-- They are there, that is. -/
theorem in_of_kept {store : List Properties} {place : Nat} {properties : Properties}
    (kept : store[place]? = some properties) : (Source.kept place).In store :=
  (List.getElem?_eq_some_iff.mp kept).1

/-- Making properties from two that are there. -/
theorem construct_kept {store : List Properties} {first second : Nat} {one other : Properties}
    (kept : store[first]? = some one) (otherKept : store[second]? = some other) :
    construct [.kept first, .kept second] store =
      (store.length, store ++ [ofSources [one.entries, other.entries]]) := by
  have there : ∀ source ∈ [Source.kept first, .kept second], source.In store := by
    simpa using ⟨in_of_kept kept, in_of_kept otherKept⟩
  rw [construct_eq there, List.map_cons, List.map_singleton, entries_kept kept,
    entries_kept otherKept]

/-- Merging mappings on top of properties that are there. -/
theorem mergeKept_mappings {store : List Properties} {place : Nat} {properties : Properties}
    (kept : store[place]? = some properties) (sources : List Entries) :
    mergeKept place (sources.map .mapping) store =
      (store.length, store ++ [ofSources (properties.entries :: sources)]) := by
  have there : ∀ source ∈ Source.kept place :: sources.map .mapping, source.In store :=
    List.forall_mem_cons.mpr ⟨in_of_kept kept, in_of_mem_mappings sources store⟩
  rw [mergeKept, construct_eq there, List.map_cons, entries_kept kept, entries_mappings]

/-- The properties of a group may stand for its sources. -/
theorem ofSources_group (xs ys : List Entries) :
    ofSources ((ofSources xs).entries :: ys) = ofSources (xs ++ ys) := by
  rw [ofSources, ← List.singleton_append, merge_append, merge_group, ← merge_append, ofSources]

/-- So may the properties of both of two groups. -/
theorem ofSources_groups (xs ys : List Entries) :
    ofSources [(ofSources xs).entries, (ofSources ys).entries] = ofSources (xs ++ ys) := by
  rw [ofSources_group, ofSources, merge_append, merge_group, ← merge_append, ofSources]

/-- However sources are grouped, they are merged into the same properties. Whether all are merged at
once, properties of two groups of them are merged, or the second group is merged on top of
properties of the first, the result is new, and all properties that were there, those of the groups
included, stay as they are. Each name in the result has the value of its last definition and the
place of its first one in the flattened sources, and flattening keeps the same of the definitions
in each source. -/
theorem merge_in_groups (xs ys : List Entries) (store : List Properties) :
    let merged := ofSources (xs ++ ys)
    let flattened := (xs ++ ys).flatMap fun source => (flatten separator source).entries
    construct ((xs ++ ys).map .mapping) store = (store.length, store ++ [merged]) ∧
      (do
        let first ← construct (xs.map .mapping)
        let second ← construct (ys.map .mapping)
        construct [.kept first, .kept second]) store =
        (store.length + 2, store ++ [ofSources xs, ofSources ys, merged]) ∧
      (do
        let first ← construct (xs.map .mapping)
        mergeKept first (ys.map .mapping)) store =
        (store.length + 1, store ++ [ofSources xs, merged]) ∧
      (ofSources xs).merge ys = merged ∧
      merged.keys = (flattened.map Prod.fst).eraseDups ∧
      (∀ name, merged.find? name = flattened.reverse.lookup name) ∧
      ∀ source, flatten separator source = .ofList (definitions separator source) := by
  intro merged flattened
  have inserted : merged = .ofList flattened := merge_eq .empty (xs ++ ys)
  refine ⟨construct_mappings _ _, ?_, ?_, ?_, ?_, ?_, flatten_eq separator⟩
  · have bound : (do
        let first ← construct (xs.map .mapping)
        let second ← construct (ys.map .mapping)
        construct [.kept first, .kept second]) store =
        let (first, one) := construct (xs.map .mapping) store
        let (second, two) := construct (ys.map .mapping) one
        construct [.kept first, .kept second] two := rfl
    rw [bound, construct_mappings]
    dsimp only
    rw [construct_mappings]
    dsimp only
    have firstKept : (store ++ [ofSources xs] ++ [ofSources ys])[store.length]? =
        some (ofSources xs) := by simp
    rw [construct_kept firstKept List.getElem?_concat_length, ofSources_groups]
    simp [merged]
  · have bound : (do
        let first ← construct (xs.map .mapping)
        mergeKept first (ys.map .mapping)) store =
        let (first, one) := construct (xs.map .mapping) store
        mergeKept first (ys.map .mapping) one := rfl
    rw [bound, construct_mappings]
    dsimp only
    rw [mergeKept_mappings List.getElem?_concat_length, ofSources_group]
    simp [merged]
  · exact (merge_append .empty xs ys).symm
  · rw [inserted, OrderedMap.keys_ofList]
  · intro name
    rw [inserted, OrderedMap.find?_ofList]

end Jobflow.Properties
