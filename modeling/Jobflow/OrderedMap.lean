/-!
# Mappings that keep the order of insertion

A mapping from texts to values whose entries stay in the order in which their keys were
first inserted. Giving a key a new value keeps its place; erasing a key and inserting it
again moves it to the end. Keys are distinct by construction.

Each operation has one lemma that states it on the list of entries or on look-up, which
is all that later arguments use.
-/

namespace Jobflow

universe u
variable {α : Type u}

/-- Give a key a value in a list of entries: in place if the key is there, at the end
otherwise. -/
def insertEntry (key : String) (value : α) : List (String × α) → List (String × α)
  | [] => [(key, value)]
  | (other, old) :: rest =>
    if other = key then (other, value) :: rest else (other, old) :: insertEntry key value rest

/-- Inserting adds no key but the given one. -/
theorem mem_keys_insertEntry (key : String) (value : α) (entries : List (String × α))
    (name : String) :
    name ∈ (insertEntry key value entries).map Prod.fst ↔
      name ∈ entries.map Prod.fst ∨ name = key := by
  induction entries with
  | nil => simp [insertEntry]
  | cons entry rest inductionHypothesis =>
    obtain ⟨other, old⟩ := entry
    by_cases same : other = key
    · subst same
      simp only [insertEntry, if_true, List.map_cons, List.mem_cons]
      constructor
      · rintro (here | there)
        · exact Or.inr here
        · exact Or.inl (Or.inr there)
      · rintro ((here | there) | here)
        · exact Or.inl here
        · exact Or.inr there
        · exact Or.inl here
    · simp only [insertEntry, if_neg same, List.map_cons, List.mem_cons, inductionHypothesis,
        or_assoc]

/-- Inserting keeps keys distinct. -/
theorem nodup_insertEntry (key : String) (value : α) (entries : List (String × α))
    (distinct : (entries.map Prod.fst).Nodup) :
    ((insertEntry key value entries).map Prod.fst).Nodup := by
  induction entries with
  | nil => simp [insertEntry]
  | cons entry rest inductionHypothesis =>
    obtain ⟨other, old⟩ := entry
    rw [List.map_cons, List.nodup_cons] at distinct
    by_cases same : other = key
    · rw [insertEntry, if_pos same, List.map_cons, List.nodup_cons]
      exact distinct
    · rw [insertEntry, if_neg same, List.map_cons, List.nodup_cons]
      refine ⟨?_, inductionHypothesis distinct.2⟩
      rw [mem_keys_insertEntry]
      rintro (there | here)
      · exact distinct.1 there
      · exact same here

/-- A mapping from texts to values in the order of first insertion. -/
structure OrderedMap (α : Type u) where
  /-- The entries, in the order in which their keys were first inserted. -/
  entries : List (String × α)
  /-- No key occurs twice. -/
  nodup : (entries.map Prod.fst).Nodup := by decide

namespace OrderedMap

/-- The mapping without entries. -/
def empty : OrderedMap α := ⟨[], List.nodup_nil⟩

instance : Inhabited (OrderedMap α) := ⟨empty⟩

instance : EmptyCollection (OrderedMap α) := ⟨empty⟩

/-- The keys, in order. -/
def keys (m : OrderedMap α) : List String := m.entries.map Prod.fst

/-- The values, in the order of their keys. -/
def values (m : OrderedMap α) : List α := m.entries.map Prod.snd

/-- Whether there are no entries. -/
def isEmpty (m : OrderedMap α) : Bool := m.entries.isEmpty

/-- The number of entries. -/
def size (m : OrderedMap α) : Nat := m.entries.length

/-- The value of a key. -/
def find? (m : OrderedMap α) (key : String) : Option α := m.entries.lookup key

/-- Whether a key has a value. -/
def contains (m : OrderedMap α) (key : String) : Bool := (m.find? key).isSome

/-- Give a key a value, in place if it has one already and at the end otherwise. -/
def insert (m : OrderedMap α) (key : String) (value : α) : OrderedMap α :=
  ⟨insertEntry key value m.entries, nodup_insertEntry key value m.entries m.nodup⟩

/-- Insert entries one after the other. -/
def insertAll (m : OrderedMap α) (entries : List (String × α)) : OrderedMap α :=
  entries.foldl (fun built entry => built.insert entry.1 entry.2) m

/-- The mapping that takes each key's last value, at the place of its first occurrence. -/
def ofList (entries : List (String × α)) : OrderedMap α := empty.insertAll entries

/-- Keep the entries that satisfy a test. -/
def filter (m : OrderedMap α) (keep : String → α → Bool) : OrderedMap α where
  entries := m.entries.filter fun entry => keep entry.1 entry.2
  nodup := m.nodup.sublist ((List.filter_sublist).map Prod.fst)

/-- Take a key out. -/
def erase (m : OrderedMap α) (key : String) : OrderedMap α :=
  m.filter fun other _ => !decide (other = key)

/-- Replace every value by a function of it. -/
def map {β : Type u} (m : OrderedMap α) (f : α → β) : OrderedMap β where
  entries := m.entries.map fun entry => (entry.1, f entry.2)
  nodup := by
    have same : (m.entries.map fun entry => (entry.1, f entry.2)).map Prod.fst =
        m.entries.map Prod.fst := by simp
    exact same ▸ m.nodup

end OrderedMap

end Jobflow
