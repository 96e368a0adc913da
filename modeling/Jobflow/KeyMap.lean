import Jobflow.Value

/-!
# Mappings by value

Mappings whose keys are any values that can be keys: not just texts, but also numbers, dates,
tuples and so on. Keys that are equal as values are one key, whatever their kind; it stays as it
was first inserted, and so does its place. No two keys of a mapping are equal, by construction. The
floating point value that is no number equals nothing: wherever it is met it is another object.
-/

namespace Jobflow

universe u
variable {α : Type u}

/-- A value that can be a key. -/
structure Key where
  /-- The value. -/
  value : Value
  /-- It can be a key. -/
  isKey : value.isKey = true

namespace Key

/-- A text as a key. -/
def text (s : String) : Key := ⟨.text s, rfl⟩

/-- Whether two keys are equal. -/
def same (key other : Key) : Bool := key.value.same other.value

end Key

/-- A value as a key, if it can be one. -/
def Value.key? (value : Value) : Option Key :=
  if isKey : value.isKey = true then some ⟨value, isKey⟩ else none

/-- Give a key a value in a list of entries: in place if an equal key is there, at the end
otherwise. -/
def insertKey (key : Key) (value : α) : List (Key × α) → List (Key × α)
  | [] => [(key, value)]
  | (other, old) :: rest =>
    if key.same other then (other, value) :: rest else (other, old) :: insertKey key value rest

/-- Inserting adds no key but the given one, which it adds only if no equal one is there. -/
theorem mem_insertKey {key : Key} {value : α} {entries : List (Key × α)} {entry : Key × α}
    (member : entry ∈ insertKey key value entries) :
    entry.1 ∈ entries.map Prod.fst ∨
      entry.1 = key ∧ ∀ other ∈ entries, key.same other.1 = false := by
  induction entries with
  | nil => exact Or.inr ⟨congrArg Prod.fst (List.mem_singleton.mp member), nofun⟩
  | cons first rest inductionHypothesis =>
    obtain ⟨other, old⟩ := first
    rw [insertKey] at member
    split at member
    · rcases List.mem_cons.mp member with rfl | there
      · exact Or.inl List.mem_cons_self
      · exact Or.inl (List.mem_cons_of_mem _ (List.mem_map_of_mem there))
    · rename_i new
      rcases List.mem_cons.mp member with rfl | there
      · exact Or.inl List.mem_cons_self
      · rcases inductionHypothesis there with old | ⟨same, apart⟩
        · exact Or.inl (List.mem_cons_of_mem _ old)
        · exact Or.inr ⟨same, List.forall_mem_cons.mpr ⟨Bool.eq_false_iff.mpr new, apart⟩⟩

/-- Inserting keeps keys apart. -/
theorem pairwise_insertKey (key : Key) (value : α) (entries : List (Key × α))
    (apart : entries.Pairwise fun earlier later => later.1.same earlier.1 = false) :
    (insertKey key value entries).Pairwise
      fun earlier later => later.1.same earlier.1 = false := by
  induction entries with
  | nil => exact List.pairwise_singleton _ _
  | cons first rest inductionHypothesis =>
    obtain ⟨other, old⟩ := first
    obtain ⟨later, within⟩ := List.pairwise_cons.mp apart
    rw [insertKey]
    split
    · exact List.pairwise_cons.mpr ⟨later, within⟩
    · rename_i new
      refine List.pairwise_cons.mpr ⟨fun entry member => ?_, inductionHypothesis within⟩
      rcases mem_insertKey member with there | ⟨same, -⟩
      · obtain ⟨among, inside, equal⟩ := List.mem_map.mp there
        exact equal ▸ later among inside
      · exact same ▸ Bool.eq_false_iff.mpr new

/-- A mapping from values in the order of first insertion. -/
structure KeyMap (α : Type u) where
  /-- The entries, in the order in which their keys were first inserted. -/
  entries : List (Key × α)
  /-- No two keys are equal. -/
  apart : entries.Pairwise fun earlier later => later.1.same earlier.1 = false

namespace KeyMap

/-- The mapping without entries. -/
def empty : KeyMap α := ⟨[], .nil⟩

/-- The keys, in order. -/
def keys (m : KeyMap α) : List Value := m.entries.map fun entry => entry.1.value

/-- The value of a key. -/
def find? (m : KeyMap α) (key : Key) : Option α :=
  (m.entries.find? fun entry => key.same entry.1).map Prod.snd

/-- Whether a key has a value. -/
def contains (m : KeyMap α) (key : Key) : Bool := (m.find? key).isSome

/-- Give a key a value, in place if it has one already and at the end otherwise. -/
def insert (m : KeyMap α) (key : Key) (value : α) : KeyMap α :=
  ⟨insertKey key value m.entries, pairwise_insertKey key value m.entries m.apart⟩

/-- Insert the entries of another mapping one after the other. -/
def insertAll (m given : KeyMap α) : KeyMap α :=
  given.entries.foldl (fun built entry => built.insert entry.1 entry.2) m

/-- The mapping that takes each text's last value, at the place of its first occurrence. -/
def ofTexts (entries : List (String × α)) : KeyMap α :=
  entries.foldl (fun built entry => built.insert (.text entry.1) entry.2) empty

end KeyMap

end Jobflow
