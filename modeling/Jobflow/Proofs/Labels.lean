import Jobflow.Proofs.Number.Shortest
import Jobflow.Proofs.Properties

/-!
# Labels

A label stands for one object: wherever it occurs in a value, it is on the same list, tuple, mapping,
date or time. What a document says of a value does not depend on its labels, nor on which of its lists
are tuples. Merging properties moves values but makes no new ones, so it keeps them sound.
-/

namespace Jobflow

namespace Value

mutual

/-- What a document can say of a value: its types, its scalars, and the order of its items and entries.
A tuple counts as a list, and labels do not count. -/
def content : Value → Value
  | .time _ timestamp => .time none timestamp
  | .list _ items => .list none (contentItems items)
  | .tuple _ items => .list none (contentItems items)
  | .map _ entries => .map none (contentEntries entries)
  | other => other

/-- The contents of items. -/
def contentItems : List Value → List Value
  | [] => []
  | item :: rest => content item :: contentItems rest

/-- The contents of entries. -/
def contentEntries : List (String × Value) → List (String × Value)
  | [] => []
  | (key, value) :: rest => (key, content value) :: contentEntries rest

end

/-- A value as a run meets it: each label is that of a single object, which a store gives, and floating
point numbers are rounded. -/
inductive Sound (store : Nat → Option Value) : Value → Prop
  | null : Sound store .null
  | bool (b : Bool) : Sound store (.bool b)
  | int (n : Int) : Sound store (.int n)
  | float (x : Number.Binary64) (rounded : x.IsRounded) : Sound store (.float x)
  | text (s : String) : Sound store (.text s)
  | time (label : Option Nat) (timestamp : Timestamp)
      (kept : ∀ number, label = some number → store number = some (.time label timestamp)) :
      Sound store (.time label timestamp)
  | list (label : Option Nat) (items : List Value)
      (kept : ∀ number, label = some number → store number = some (.list label items))
      (sound : ∀ item ∈ items, Sound store item) : Sound store (.list label items)
  | tuple (label : Option Nat) (items : List Value)
      (kept : ∀ number, label = some number → store number = some (.tuple label items))
      (sound : ∀ item ∈ items, Sound store item) : Sound store (.tuple label items)
  | map (label : Option Nat) (entries : List (String × Value))
      (kept : ∀ number, label = some number → store number = some (.map label entries))
      (sound : ∀ entry ∈ entries, Sound store entry.2) : Sound store (.map label entries)
  | object (identity : Nat) (quoted : String) : Sound store (.object identity quoted)

/-- A label gives its object. -/
theorem Sound.eq_store {store : Nat → Option Value} {value : Value} (sound : value.Sound store)
    (number : Nat) (labelled : value.label? = some number) : store number = some value := by
  cases sound with
  | time label timestamp kept => exact kept number labelled
  | list label items kept => exact kept number labelled
  | tuple label items kept =>
    cases items with
    | nil => cases labelled
    | cons => exact kept number labelled
  | map label entries kept => exact kept number labelled
  | null | bool | int | float | text | object => cases labelled

/-- What is sound stays so when a store gets more objects. -/
theorem Sound.mono {store larger : Nat → Option Value} {value : Value} (sound : value.Sound store)
    (grows : ∀ number collection, store number = some collection →
      larger number = some collection) : value.Sound larger := by
  induction sound with
  | null => exact .null
  | bool b => exact .bool b
  | int n => exact .int n
  | float x rounded => exact .float x rounded
  | text s => exact .text s
  | time label timestamp kept =>
    exact .time label timestamp fun number same => grows number _ (kept number same)
  | list label items kept _ inductionHypothesis =>
    exact .list label items (fun number same => grows number _ (kept number same))
      inductionHypothesis
  | tuple label items kept _ inductionHypothesis =>
    exact .tuple label items (fun number same => grows number _ (kept number same))
      inductionHypothesis
  | map label entries kept _ inductionHypothesis =>
    exact .map label entries (fun number same => grows number _ (kept number same))
      inductionHypothesis
  | object identity quoted => exact .object identity quoted

/-- The values of a sound mapping are sound. -/
theorem Sound.of_mem_entries {store : Nat → Option Value} {label : Option Nat}
    {entries : List (String × Value)} {entry : String × Value}
    (sound : (Value.map label entries).Sound store) (member : entry ∈ entries) :
    entry.2.Sound store := by
  cases sound with
  | map _ _ _ sound => exact sound entry member

end Value

/-- The values of entries are sound. -/
def Entries.Sound (store : Nat → Option Value) (entries : Entries) : Prop :=
  ∀ entry ∈ entries, entry.2.Sound store

section

variable {store : Nat → Option Value}

/-- Inserting sound values leaves sound ones. -/
theorem sound_insertAll (properties : Properties) (entries : Entries)
    (before : Entries.Sound store properties.entries) (sound : Entries.Sound store entries) :
    Entries.Sound store (properties.insertAll entries).entries := by
  induction entries generalizing properties with
  | nil => exact before
  | cons entry rest inductionHypothesis =>
    have first := List.forall_mem_cons.mp sound
    refine inductionHypothesis _ (fun other member => ?_) first.2
    rcases mem_insertEntry entry.1 entry.2 properties.entries other member with old | new
    · exact before other old
    · exact new ▸ first.1

mutual

/-- Flattening sound values leaves sound ones. -/
theorem sound_flattenOnto (sep : String) (flat : Properties)
    (before : Entries.Sound store flat.entries) :
    ∀ entries : Entries, Entries.Sound store entries →
      Entries.Sound store (Properties.flattenOnto sep flat entries).entries
  | [], _ => before
  | (key, value) :: rest, sound => by
    have first := List.forall_mem_cons.mp sound
    exact sound_flattenOnto sep _ (sound_flattenEntry sep flat key before value first.1) rest
      first.2

/-- Flattening a sound value leaves sound ones. -/
theorem sound_flattenEntry (sep : String) (flat : Properties) (key : String)
    (before : Entries.Sound store flat.entries) :
    ∀ value : Value, value.Sound store →
      Entries.Sound store (Properties.flattenEntry sep flat key value).entries
  | .map label inner, sound => by
    have below := sound_flattenOnto sep .empty nofun inner
      fun entry member => sound.of_mem_entries member
    exact sound_insertAll flat _ before (List.forall_mem_map.mpr below)
  | .null, sound | .bool _, sound | .int _, sound | .float _, sound | .text _, sound
  | .time _ _, sound | .list _ _, sound | .tuple _ _, sound | .object _ _, sound => by
    rw [Properties.flattenEntry_plain _ _ _ _ rfl]
    exact sound_insertAll flat [(key, _)] before (List.forall_mem_singleton.mpr sound)

end

/-- Properties merged from sound sources are sound. -/
theorem sound_ofSources (sources : List Entries)
    (sound : ∀ source ∈ sources, Entries.Sound store source) :
    Entries.Sound store (Properties.ofSources sources).entries := by
  suffices merged : ∀ properties : Properties, Entries.Sound store properties.entries →
      Entries.Sound store (properties.merge sources).entries from merged .empty nofun
  intro properties before
  induction sources generalizing properties with
  | nil => exact before
  | cons source rest inductionHypothesis =>
    have first := List.forall_mem_cons.mp sound
    exact inductionHypothesis first.2 _
      (sound_insertAll properties _ before (sound_flattenOnto _ .empty nofun source first.1))

end

end Jobflow
