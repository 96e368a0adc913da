import Jobflow.Properties
import Jobflow.Proofs.OrderedMap

/-!
# Laws of properties

What flattening defines is said without it: a name is defined by a nested mapping if it is
the path of keys to a value that is no mapping. Merged properties define what their sources
do, and never hold a mapping.

Since flattened properties are left alone by a second flattening, sources can be merged in
groups: merging the results of merging groups of sources is merging all the sources, values
and order of keys included.
-/

namespace Jobflow.Properties

/-- A nested mapping defines the path to each of its values that is no mapping. -/
inductive Defines (sep : String) : Entries → String → Prop
  /-- A value that is no mapping is defined by its key. -/
  | leaf {entries : Entries} {key : String} {value : Value} (member : (key, value) ∈ entries)
      (plain : value.isMap = false) : Defines sep entries key
  /-- What a nested mapping defines is below the key of the mapping. -/
  | nested {entries inner : Entries} {key child : String} {label : Option Nat}
      (member : (key, .map label inner) ∈ entries) (below : Defines sep inner child) :
      Defines sep entries (joinKey sep key child)

/-- Nothing is defined by a mapping without entries. -/
theorem not_defines_nil (sep name : String) : ¬ Defines sep [] name := by
  intro defined
  cases defined with
  | leaf member _ => simp at member
  | nested member _ => simp at member

/-- Entries define what the first one or the others do. -/
theorem defines_cons_iff (sep : String) (entry : String × Value) (rest : Entries)
    (name : String) :
    Defines sep (entry :: rest) name ↔ Defines sep [entry] name ∨ Defines sep rest name := by
  constructor
  · intro defined
    cases defined with
    | leaf member plain =>
      rcases List.mem_cons.mp member with here | later
      · exact Or.inl (.leaf (List.mem_singleton.mpr here) plain)
      · exact Or.inr (.leaf later plain)
    | nested member below =>
      rcases List.mem_cons.mp member with here | later
      · exact Or.inl (.nested (List.mem_singleton.mpr here) below)
      · exact Or.inr (.nested later below)
  · rintro (defined | defined)
    · cases defined with
      | leaf member plain => exact .leaf (List.mem_cons.mpr (Or.inl (by simpa using member))) plain
      | nested member below =>
        exact .nested (List.mem_cons.mpr (Or.inl (by simpa using member))) below
    · cases defined with
      | leaf member plain => exact .leaf (List.mem_cons_of_mem entry member) plain
      | nested member below => exact .nested (List.mem_cons_of_mem entry member) below

/-- A single entry whose value is no mapping defines its key. -/
theorem defines_leaf_iff (sep key : String) (value : Value) (plain : value.isMap = false)
    (name : String) : Defines sep [(key, value)] name ↔ name = key := by
  constructor
  · intro defined
    cases defined with
    | leaf member _ => exact (Prod.mk.inj (List.mem_singleton.mp member)).1
    | nested member _ =>
      have same := (Prod.mk.inj (List.mem_singleton.mp member)).2
      rw [← same] at plain
      simp [Value.isMap] at plain
  · rintro rfl
    exact .leaf List.mem_cons_self plain

/-- A single entry whose value is a mapping defines what the mapping does, below its key. -/
theorem defines_nested_iff (sep key : String) (label : Option Nat) (inner : Entries)
    (name : String) :
    Defines sep [(key, .map label inner)] name ↔
      ∃ child, Defines sep inner child ∧ name = joinKey sep key child := by
  constructor
  · intro defined
    cases defined with
    | leaf member plain =>
      have same := (Prod.mk.inj (List.mem_singleton.mp member)).2
      simp [same, Value.isMap] at plain
    | nested member below =>
      obtain ⟨rfl, same⟩ := Prod.mk.inj (List.mem_singleton.mp member)
      obtain ⟨rfl, rfl⟩ := Value.map.inj same
      exact ⟨_, below, rfl⟩
  · rintro ⟨child, below, rfl⟩
    exact .nested List.mem_cons_self below

/-- Flattening an entry whose value is no mapping inserts it as it is. -/
theorem flattenEntry_plain (sep : String) (flat : Properties) (key : String) (value : Value)
    (plain : value.isMap = false) : flattenEntry sep flat key value = flat.insert key value := by
  cases value with
  | map label entries => simp [Value.isMap] at plain
  | _ => rfl

mutual

/-- Flattening adds exactly the names that the entries define. -/
theorem mem_keys_flattenOnto (sep : String) (flat : Properties) (name : String) :
    ∀ entries : Entries, name ∈ (flattenOnto sep flat entries).keys ↔
      name ∈ flat.keys ∨ Defines sep entries name
  | [] => by simp [flattenOnto, not_defines_nil]
  | (key, value) :: rest => by
    rw [flattenOnto, mem_keys_flattenOnto sep _ name rest,
      mem_keys_flattenEntry sep flat key name value, defines_cons_iff sep (key, value) rest,
      or_assoc]

/-- Flattening an entry adds exactly the names that it defines. -/
theorem mem_keys_flattenEntry (sep : String) (flat : Properties) (key name : String) :
    ∀ value : Value, name ∈ (flattenEntry sep flat key value).keys ↔
      name ∈ flat.keys ∨ Defines sep [(key, value)] name
  | .map label inner => by
    have below : ∀ child, child ∈ (flattenOnto sep .empty inner).keys ↔
        Defines sep inner child := by
      intro child
      rw [mem_keys_flattenOnto sep .empty child inner]
      simp [OrderedMap.keys, OrderedMap.empty]
    rw [flattenEntry, OrderedMap.mem_keys_insertAll, defines_nested_iff]
    apply or_congr_right
    rw [List.map_map]
    constructor
    · intro member
      obtain ⟨entry, within, joined⟩ := List.mem_map.mp member
      exact ⟨entry.1, (below entry.1).mp (List.mem_map.mpr ⟨entry, within, rfl⟩), joined.symm⟩
    · rintro ⟨child, defined, rfl⟩
      obtain ⟨entry, within, same⟩ := List.mem_map.mp ((below child).mpr defined)
      exact List.mem_map.mpr ⟨entry, within, congrArg (joinKey sep key) same⟩
  | .null | .bool _ | .int _ | .float _ | .text _ | .time _ _ | .list _ _ | .tuple _ _
  | .object _ _ => by
    rw [flattenEntry_plain _ _ _ _ rfl, OrderedMap.mem_keys_insert, defines_leaf_iff _ _ _ rfl]

end

/-- Merging adds exactly the names that the sources define. -/
theorem mem_keys_merge (properties : Properties) (sources : List Entries) (name : String) :
    name ∈ (properties.merge sources).keys ↔
      name ∈ properties.keys ∨ ∃ source ∈ sources, Defines separator source name := by
  induction sources generalizing properties with
  | nil => simp [merge]
  | cons source rest inductionHypothesis =>
    have step : properties.merge (source :: rest) =
        merge (properties.insertAll (flatten separator source).entries) rest := rfl
    have flattened : name ∈ (flatten separator source).entries.map Prod.fst ↔
        Defines separator source name := by
      have defined := mem_keys_flattenOnto separator .empty name source
      simpa [flatten, OrderedMap.keys, OrderedMap.empty] using defined
    rw [step, inductionHypothesis, OrderedMap.mem_keys_insertAll, flattened, or_assoc]
    simp

/-- Properties merged from sources define exactly what one of the sources does. -/
theorem contains_ofSources (sources : List Entries) (name : String) :
    (ofSources sources).contains name = true ↔
      ∃ source ∈ sources, Defines separator source name := by
  rw [OrderedMap.contains_iff, ofSources, mem_keys_merge]
  simp [OrderedMap.keys, OrderedMap.empty]

/-- No value is a mapping. -/
def Flat (properties : Properties) : Prop :=
  ∀ entry ∈ properties.entries, entry.2.isMap = false

/-- Without a mapping among the values, flattening entries inserts them as they are. -/
theorem flattenOnto_plain (sep : String) (flat : Properties) (entries : Entries)
    (plain : ∀ entry ∈ entries, entry.2.isMap = false) :
    flattenOnto sep flat entries = flat.insertAll entries := by
  induction entries generalizing flat with
  | nil => rfl
  | cons entry rest inductionHypothesis =>
    obtain ⟨key, value⟩ := entry
    have valuePlain : value.isMap = false := plain (key, value) List.mem_cons_self
    rw [flattenOnto, flattenEntry_plain sep flat key value valuePlain,
      inductionHypothesis _ fun other member => plain other (List.mem_cons_of_mem _ member)]
    rfl

/-- Flattening leaves flat properties as they are. -/
theorem flatten_of_flat (sep : String) (properties : Properties) (flat : properties.Flat) :
    flatten sep properties.entries = properties := by
  rw [flatten, flattenOnto_plain sep .empty properties.entries flat, OrderedMap.ofList_entries]

/-- Inserting a value that is no mapping keeps properties flat. -/
theorem flat_insert (properties : Properties) (key : String) (value : Value)
    (flat : properties.Flat) (plain : value.isMap = false) : Flat (properties.insert key value) := by
  intro entry member
  rcases mem_insertEntry key value properties.entries entry member with old | new
  · exact flat entry old
  · rw [new]
    exact plain

/-- Inserting values that are no mappings keeps properties flat. -/
theorem flat_insertAll (properties : Properties) (entries : Entries) (flat : properties.Flat)
    (plain : ∀ entry ∈ entries, entry.2.isMap = false) : Flat (properties.insertAll entries) := by
  induction entries generalizing properties with
  | nil => exact flat
  | cons entry rest inductionHypothesis =>
    have first : entry.2.isMap = false := plain entry List.mem_cons_self
    exact inductionHypothesis _ (flat_insert properties entry.1 entry.2 flat first)
      fun other member => plain other (List.mem_cons_of_mem _ member)

mutual

/-- Flattening never leaves a mapping among the values. -/
theorem flat_flattenOnto (sep : String) (flat : Properties) (before : flat.Flat) :
    ∀ entries : Entries, Flat (flattenOnto sep flat entries)
  | [] => before
  | (key, value) :: rest =>
    flat_flattenOnto sep _ (flat_flattenEntry sep flat key before value) rest

/-- Flattening an entry never leaves a mapping among the values. -/
theorem flat_flattenEntry (sep : String) (flat : Properties) (key : String)
    (before : flat.Flat) : ∀ value : Value, Flat (flattenEntry sep flat key value)
  | .map label inner => by
    have below : Flat (flattenOnto sep .empty inner) :=
      flat_flattenOnto sep .empty (by simp [Flat, OrderedMap.empty]) inner
    apply flat_insertAll flat _ before
    intro entry member
    obtain ⟨source, within, rfl⟩ := List.mem_map.mp member
    exact below source within
  | .null | .bool _ | .int _ | .float _ | .text _ | .time _ _ | .list _ _ | .tuple _ _
  | .object _ _ => by
    rw [flattenEntry_plain _ _ _ _ rfl]
    exact flat_insert _ _ _ before rfl

end

/-- Merging keeps properties flat, whatever the sources. -/
theorem flat_merge (properties : Properties) (sources : List Entries) (flat : properties.Flat) :
    Flat (properties.merge sources) := by
  induction sources generalizing properties with
  | nil => exact flat
  | cons source rest inductionHypothesis =>
    apply inductionHypothesis
    apply flat_insertAll properties _ flat
    exact flat_flattenOnto separator .empty (by simp [Flat, OrderedMap.empty]) source

/-- Properties merged from sources are flat. -/
theorem flat_ofSources (sources : List Entries) : Flat (ofSources sources) :=
  flat_merge .empty sources (by simp [Flat, OrderedMap.empty])

/-- Merging two lists of sources is merging one after the other. -/
theorem merge_append (properties : Properties) (first second : List Entries) :
    properties.merge (first ++ second) = (properties.merge first).merge second :=
  List.foldl_append

/-- Inserting merged properties is inserting what was merged on top of, and then merging. -/
theorem insertAll_merge (properties base : Properties) (sources : List Entries) :
    properties.insertAll (base.merge sources).entries =
      merge (properties.insertAll base.entries) sources := by
  induction sources generalizing base with
  | nil => rfl
  | cons source rest inductionHypothesis =>
    have step : base.merge (source :: rest) =
        merge (base.insertAll (flatten separator source).entries) rest := rfl
    rw [step, inductionHypothesis, OrderedMap.insertAll_insertAll]
    rfl

/-- A group of sources can be merged on its own first. -/
theorem merge_group (properties : Properties) (sources : List Entries) :
    properties.merge [(ofSources sources).entries] = properties.merge sources := by
  have flattened : properties.merge [(ofSources sources).entries] =
      properties.insertAll (ofSources sources).entries := by
    rw [merge, List.foldl_cons, List.foldl_nil, flatten_of_flat _ _ (flat_ofSources sources)]
  rw [flattened, ofSources, insertAll_merge]
  rfl

end Jobflow.Properties
