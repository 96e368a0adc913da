import Jobflow.Json
import Jobflow.Proofs.Labels
import Jobflow.Proofs.Number.Rounded

/-!
# Reading gives sound values

The reader of documents hands out labels in increasing order, so that those of a value lie between
the next label before it and the next label after it. Neighbours share none, not even when the later
of two members with one name takes the place of the earlier one. So what is read is sound.
-/

namespace Jobflow.Json

/-- Values that are sound together, with the labels of their collections in a range. -/
def Owned (low high : Nat) (values : List Value) : Prop :=
  ∃ store : Nat → Option Value,
    (∀ number collection, store number = some collection → low ≤ number ∧ number < high) ∧
      ∀ value ∈ values, value.Sound store

/-- No values own no labels. -/
theorem owned_nil (label : Nat) : Owned label label [] :=
  ⟨fun _ => none, nofun, nofun⟩

/-- A scalar owns no labels. -/
theorem owned_scalar (label : Nat) (value : Value) (sound : ∀ store, value.Sound store) :
    Owned label label [value] :=
  ⟨fun _ => none, nofun, List.forall_mem_singleton.mpr (sound _)⟩

/-- Some of the values own no more labels. -/
theorem Owned.of_subset {low high : Nat} {values others : List Value}
    (owned : Owned low high values) (subset : others ⊆ values) : Owned low high others := by
  obtain ⟨store, range, sound⟩ := owned
  exact ⟨store, range, fun value member => sound value (subset member)⟩

/-- Values with labels in ranges next to each other are sound together. -/
theorem Owned.append {low middle high : Nat} {values others : List Value}
    (owned : Owned low middle values) (otherOwned : Owned middle high others)
    (below : low ≤ middle) (above : middle ≤ high) : Owned low high (values ++ others) := by
  obtain ⟨store, range, sound⟩ := owned
  obtain ⟨otherStore, otherRange, otherSound⟩ := otherOwned
  refine ⟨fun number => if number < middle then store number else otherStore number, ?_, ?_⟩
  · intro number collection held
    simp only at held
    split at held
    · have inside := range number collection held
      omega
    · have inside := otherRange number collection held
      omega
  · intro value member
    rcases List.mem_append.mp member with first | second
    · refine (sound value first).mono fun number collection held => ?_
      rw [if_pos (range number collection held).2, held]
    · refine (otherSound value second).mono fun number collection held => ?_
      rw [if_neg (Nat.not_lt.mpr (otherRange number collection held).1), held]

/-- A collection owns its label and those of its parts. -/
theorem owned_collection {label high : Nat} {parts : List Value} (collection : Value)
    (owned : Owned (label + 1) high parts) (fits : label + 1 ≤ high)
    (whole : ∀ store : Nat → Option Value, store label = some collection →
      (∀ part ∈ parts, part.Sound store) → collection.Sound store) :
    Owned label high [collection] := by
  obtain ⟨store, range, sound⟩ := owned
  refine ⟨fun number => if number = label then some collection else store number, ?_, ?_⟩
  · intro number held inside
    simp only at inside
    split at inside
    · omega
    · have range := range number held inside
      omega
  · refine List.forall_mem_singleton.mpr (whole _ (if_pos rfl) fun part member => ?_)
    refine (sound part member).mono fun number held inside => ?_
    have range := range number held inside
    rw [if_neg (by omega), inside]

/-- A list owns its label and those of its items. -/
theorem owned_list {label high : Nat} {items : List Value} (owned : Owned (label + 1) high items)
    (fits : label + 1 ≤ high) : Owned label high [.list (some label) items] :=
  owned_collection _ owned fits fun _ held sound =>
    .list (some label) items (fun _ same => Option.some.inj same ▸ held) sound

/-- A mapping owns its label and those of its values. -/
theorem owned_map {label high : Nat} {entries : Entries}
    (owned : Owned (label + 1) high (entries.map Prod.snd)) (fits : label + 1 ≤ high) :
    Owned label high [.map (some label) entries] :=
  owned_collection _ owned fits fun _ held sound =>
    .map (some label) entries (fun _ same => Option.some.inj same ▸ held)
      (List.forall_mem_map.mp sound)

/-- Words are sound. -/
theorem sound_readWord (cs rest : List Char) (value : Value)
    (reads : readWord cs = some (value, rest)) (store : Nat → Option Value) :
    value.Sound store := by
  obtain ⟨⟨word, meant⟩, member, same⟩ := List.exists_of_findSome?_eq_some reads
  obtain ⟨_, _, pair⟩ := Option.map_eq_some_iff.mp same
  obtain ⟨rfl, _⟩ := Prod.mk.inj pair
  simp only [words, List.mem_cons, List.not_mem_nil, or_false, Prod.mk.injEq] at member
  rcases member with ⟨-, rfl⟩ | ⟨-, rfl⟩ | ⟨-, rfl⟩ | ⟨-, rfl⟩ | ⟨-, rfl⟩ | ⟨-, rfl⟩
  · exact .null
  · exact .bool true
  · exact .bool false
  · exact .float _ trivial
  · exact .float _ trivial
  · exact .float _ trivial

/-- Numbers are sound. -/
theorem sound_readMagnitude (negative : Bool) (cs rest : List Char) (value : Value)
    (reads : readMagnitude negative cs = some (value, rest)) (store : Nat → Option Value) :
    value.Sound store := by
  unfold readMagnitude at reads
  split at reads
  simp only at reads
  split at reads
  · cases reads
  · split at reads
    · cases reads
      exact .int _
    · cases reads
      exact .float _ (Number.Binary64.isRounded_ofDecimal _ _ _)

/-- Inserting a value into a mapping adds no other value. -/
theorem values_insert_subset (members : OrderedMap Value) (key : String) (value : Value) :
    (members.insert key value).entries.map Prod.snd ⊆
      members.entries.map Prod.snd ++ [value] := by
  intro other member
  obtain ⟨entry, inserted, rfl⟩ := List.mem_map.mp member
  rcases mem_insertEntry key value members.entries entry inserted with old | new
  · exact List.mem_append_left _ (List.mem_map_of_mem old)
  · exact List.mem_append_right _ (new ▸ List.mem_singleton_self value)

mutual

/-- A value owns the labels handed out while it is read. -/
theorem owned_readValue (steps label next : Nat) (cs rest : List Char) (value : Value)
    (reads : readValue steps label cs = some (value, next, rest)) :
    label ≤ next ∧ Owned label next [value] := by
  cases steps with
  | zero => cases reads
  | succ steps =>
    simp only [readValue] at reads
    split at reads
    · -- A text.
      split at reads
      · cases reads
        exact ⟨le_rfl, owned_scalar _ _ fun _ => .text _⟩
      · cases reads
    · -- A list.
      split at reads
      · cases reads
        exact ⟨Nat.le_succ label, owned_list (owned_nil _) le_rfl⟩
      · split at reads
        · rename_i inner
          cases reads
          obtain ⟨above, owned⟩ := owned_readItems steps (label + 1) (label + 1) _ [] _ _ _ le_rfl
            (owned_nil _) inner
          exact ⟨Nat.le_of_succ_le above, owned_list owned above⟩
        · cases reads
    · -- A mapping.
      split at reads
      · cases reads
        exact ⟨Nat.le_succ label, owned_map (owned_nil _) le_rfl⟩
      · split at reads
        · rename_i inner
          cases reads
          obtain ⟨above, owned⟩ := owned_readMembers steps (label + 1) (label + 1) _ .empty _ _ _
            le_rfl (owned_nil _) inner
          exact ⟨Nat.le_of_succ_le above, owned_map owned above⟩
        · cases reads
    · -- A word or a number.
      split at reads
      · rename_i word
        cases reads
        exact ⟨le_rfl, owned_scalar _ _ (sound_readWord _ _ _ word)⟩
      · obtain ⟨⟨number, after⟩, magnitude, same⟩ := Option.map_eq_some_iff.mp reads
        cases same
        refine ⟨le_rfl, owned_scalar _ _ fun store => ?_⟩
        split at magnitude
        · exact sound_readMagnitude true _ _ _ magnitude store
        · exact sound_readMagnitude false _ _ _ magnitude store

/-- The items of a list own the labels handed out while they are read. -/
theorem owned_readItems (steps low label next : Nat) (read items : List Value)
    (cs rest : List Char) (inside : low ≤ label) (owned : Owned low label read)
    (reads : readItems steps read label cs = some (items, next, rest)) :
    low ≤ next ∧ Owned low next items := by
  cases steps with
  | zero => cases reads
  | succ steps =>
    simp only [readItems] at reads
    split at reads
    · cases reads
    · rename_i item after between first
      obtain ⟨above, itemOwned⟩ := owned_readValue steps label after cs between item first
      have grown : Owned low after (item :: read) :=
        (owned.append itemOwned inside above).of_subset (by simp)
      split at reads
      · exact owned_readItems steps low after next (item :: read) items _ _ (inside.trans above)
          grown reads
      · cases reads
        exact ⟨inside.trans above, grown.of_subset (by simp)⟩
      · cases reads

/-- The members of a mapping own the labels handed out while they are read. -/
theorem owned_readMembers (steps low label next : Nat) (read members : OrderedMap Value)
    (cs rest : List Char) (inside : low ≤ label)
    (owned : Owned low label (read.entries.map Prod.snd))
    (reads : readMembers steps read label cs = some (members, next, rest)) :
    low ≤ next ∧ Owned low next (members.entries.map Prod.snd) := by
  cases steps with
  | zero => cases reads
  | succ steps =>
    simp only [readMembers] at reads
    -- Reading fails unless a name in quotes, a colon and a value stand here.
    split at reads
    · split at reads
      · cases reads
      · rename_i key _ _
        split at reads
        · split at reads
          · cases reads
          · rename_i value after between first
            obtain ⟨above, valueOwned⟩ := owned_readValue steps label after _ between value first
            have grown := (owned.append valueOwned inside above).of_subset
              (values_insert_subset read (String.ofList key) value)
            split at reads
            · exact owned_readMembers steps low after next _ members _ _ (inside.trans above) grown
                reads
            · cases reads
              exact ⟨inside.trans above, grown⟩
            · cases reads
        · cases reads
    · cases reads

end

/-- What a document reads as is sound. -/
theorem sound_read? (document : String) (value : Value) (reads : read? document = some value) :
    ∃ store, value.Sound store := by
  simp only [read?] at reads
  split at reads
  · rename_i whole
    split at reads
    · cases reads
      obtain ⟨_, store, _, sound⟩ := owned_readValue _ _ _ _ _ _ whole
      exact ⟨store, sound _ (List.mem_singleton_self _)⟩
    · cases reads
  · cases reads

end Jobflow.Json
