import Jobflow.OrderedMap
import Mathlib.Data.List.Induction

/-!
# Laws of ordered mappings

Inserting a key keeps its place if it has one, so that two insertions commute as soon as
one of the keys is there already. This is what makes inserting a mapping built by
insertions the same as inserting what it was built from, one entry after the other, and
with it the grouping laws of merging.

A list of entries with distinct keys is its own mapping. Look-up and the set of keys are
stated on the entries, so that later arguments never unfold an insertion.
-/

namespace Jobflow

universe u
variable {α : Type u}

/-- A new key goes to the end. -/
theorem insertEntry_fresh (key : String) (value : α) (entries : List (String × α))
    (fresh : key ∉ entries.map Prod.fst) :
    insertEntry key value entries = entries ++ [(key, value)] := by
  induction entries with
  | nil => rfl
  | cons entry rest inductionHypothesis =>
    obtain ⟨other, old⟩ := entry
    simp only [List.map_cons, List.mem_cons, not_or] at fresh
    rw [insertEntry, if_neg (Ne.symm fresh.1), inductionHypothesis fresh.2, List.cons_append]

/-- Giving a key another value keeps all keys. -/
theorem map_fst_insertEntry (key : String) (value : α) (entries : List (String × α))
    (present : key ∈ entries.map Prod.fst) :
    (insertEntry key value entries).map Prod.fst = entries.map Prod.fst := by
  induction entries with
  | nil => simp at present
  | cons entry rest inductionHypothesis =>
    obtain ⟨other, old⟩ := entry
    by_cases same : other = key
    · simp [insertEntry, same]
    · have later : key ∈ rest.map Prod.fst := by
        simpa [Ne.symm same] using present
      rw [insertEntry, if_neg same, List.map_cons, List.map_cons, inductionHypothesis later]

/-- Of two values given to one key the later one counts. -/
theorem insertEntry_twice (key : String) (first second : α) (entries : List (String × α)) :
    insertEntry key second (insertEntry key first entries) = insertEntry key second entries := by
  induction entries with
  | nil => simp [insertEntry]
  | cons entry rest inductionHypothesis =>
    obtain ⟨other, old⟩ := entry
    by_cases same : other = key
    · simp [insertEntry, same]
    · simp [insertEntry, same, inductionHypothesis]

/-- Giving a value to a key that is there commutes with giving one to another key: neither
moves. -/
theorem insertEntry_commutes (key other : String) (first second : α)
    (entries : List (String × α)) (present : key ∈ entries.map Prod.fst)
    (different : key ≠ other) :
    insertEntry key first (insertEntry other second entries) =
      insertEntry other second (insertEntry key first entries) := by
  induction entries with
  | nil => simp at present
  | cons entry rest inductionHypothesis =>
    obtain ⟨name, old⟩ := entry
    by_cases isKey : name = key
    · subst isKey
      simp [insertEntry, different]
    · have later : key ∈ rest.map Prod.fst := by
        rcases List.mem_cons.mp present with here | later
        · exact absurd here.symm isKey
        · exact later
      by_cases isOther : name = other
      · subst isOther
        simp [insertEntry, isKey]
      · simp [insertEntry, isKey, isOther, inductionHypothesis later]

/-- The entries after an insertion are old ones, or the one inserted. -/
theorem mem_insertEntry (key : String) (value : α) (entries : List (String × α))
    (entry : String × α) (member : entry ∈ insertEntry key value entries) :
    entry ∈ entries ∨ entry = (key, value) := by
  induction entries with
  | nil => exact Or.inr (List.mem_singleton.mp member)
  | cons first rest inductionHypothesis =>
    obtain ⟨other, old⟩ := first
    by_cases same : other = key
    · rw [insertEntry, if_pos same, List.mem_cons] at member
      rcases member with new | later
      · exact Or.inr (same ▸ new)
      · exact Or.inl (List.mem_cons_of_mem _ later)
    · rw [insertEntry, if_neg same, List.mem_cons] at member
      rcases member with here | later
      · exact Or.inl (List.mem_cons.mpr (Or.inl here))
      · rcases inductionHypothesis later with old | new
        · exact Or.inl (List.mem_cons_of_mem _ old)
        · exact Or.inr new

/-- Look-up passes over the entry of another key. -/
theorem lookup_cons_other (name other : String) (value : α) (rest : List (String × α))
    (different : name ≠ other) : ((other, value) :: rest).lookup name = rest.lookup name := by
  have test : (name == other) = false := beq_eq_false_iff_ne.mpr different
  rw [List.lookup_cons, test]

/-- A name has an entry exactly if it is among the keys. -/
theorem lookup_isSome_iff (entries : List (String × α)) (name : String) :
    (entries.lookup name).isSome = true ↔ name ∈ entries.map Prod.fst := by
  induction entries with
  | nil => simp
  | cons entry rest inductionHypothesis =>
    obtain ⟨other, value⟩ := entry
    by_cases here : name = other
    · simp [here]
    · rw [lookup_cons_other name other value rest here, inductionHypothesis, List.map_cons,
        List.mem_cons]
      exact ⟨Or.inr, fun member => member.resolve_left here⟩

/-- With distinct keys, look-up finds the value of every entry. -/
theorem lookup_of_mem (entries : List (String × α)) (key : String) (value : α)
    (distinct : (entries.map Prod.fst).Nodup) (member : (key, value) ∈ entries) :
    entries.lookup key = some value := by
  induction entries with
  | nil => simp at member
  | cons entry rest inductionHypothesis =>
    obtain ⟨other, old⟩ := entry
    rw [List.map_cons, List.nodup_cons] at distinct
    rcases List.mem_cons.mp member with here | later
    · obtain ⟨rfl, rfl⟩ := Prod.mk.inj here
      exact List.lookup_cons_self
    · have elsewhere : key ≠ other := by
        intro same
        exact distinct.1 (List.mem_map.mpr ⟨(key, value), later, same⟩)
      rw [lookup_cons_other key other old rest elsewhere]
      exact inductionHypothesis distinct.2 later

/-- After an insertion the key has the value, and other names have what they had. -/
theorem lookup_insertEntry (key : String) (value : α) (entries : List (String × α))
    (name : String) :
    (insertEntry key value entries).lookup name =
      if name = key then some value else entries.lookup name := by
  induction entries with
  | nil =>
    by_cases same : name = key
    · subst same
      rw [if_pos rfl]
      exact List.lookup_cons_self
    · rw [if_neg same]
      exact lookup_cons_other name key value [] same
  | cons entry rest inductionHypothesis =>
    obtain ⟨other, old⟩ := entry
    by_cases here : other = key
    · subst here
      rw [insertEntry, if_pos rfl]
      by_cases same : name = other
      · subst same
        rw [if_pos rfl, List.lookup_cons_self]
      · rw [if_neg same, lookup_cons_other _ _ _ _ same, lookup_cons_other _ _ _ _ same]
    · rw [insertEntry, if_neg here]
      by_cases same : name = other
      · subst same
        rw [if_neg here, List.lookup_cons_self, List.lookup_cons_self]
      · rw [lookup_cons_other _ _ _ _ same, lookup_cons_other _ _ _ _ same, inductionHypothesis]

namespace OrderedMap

/-- Mappings with the same entries are equal. -/
theorem eq_of_entries {left right : OrderedMap α} (same : left.entries = right.entries) :
    left = right := by
  cases left
  cases right
  cases same
  rfl

/-- A name has a value exactly if it is among the keys. -/
theorem contains_iff (m : OrderedMap α) (name : String) :
    m.contains name = true ↔ name ∈ m.keys := lookup_isSome_iff m.entries name

@[simp] theorem insertAll_nil (m : OrderedMap α) : m.insertAll [] = m := rfl

@[simp] theorem insertAll_cons (m : OrderedMap α) (entry : String × α)
    (rest : List (String × α)) :
    m.insertAll (entry :: rest) = (m.insert entry.1 entry.2).insertAll rest := rfl

/-- Inserting adds the given key. -/
theorem mem_keys_insert (m : OrderedMap α) (key : String) (value : α) (name : String) :
    name ∈ (m.insert key value).keys ↔ name ∈ m.keys ∨ name = key :=
  mem_keys_insertEntry key value m.entries name

/-- Inserting entries adds their keys. -/
theorem mem_keys_insertAll (m : OrderedMap α) (entries : List (String × α)) (name : String) :
    name ∈ (m.insertAll entries).keys ↔ name ∈ m.keys ∨ name ∈ entries.map Prod.fst := by
  induction entries generalizing m with
  | nil => simp
  | cons entry rest inductionHypothesis =>
    rw [insertAll_cons, inductionHypothesis, mem_keys_insert, List.map_cons, List.mem_cons,
      or_assoc]

/-- Of two values given to one key the later one counts. -/
theorem insert_twice (m : OrderedMap α) (key : String) (first second : α) :
    (m.insert key first).insert key second = m.insert key second :=
  eq_of_entries (insertEntry_twice key first second m.entries)

/-- Giving a value to a key that is there can be done before inserting entries that do not
have the key. -/
theorem insert_insertAll (m : OrderedMap α) (key : String) (value : α)
    (entries : List (String × α)) (present : key ∈ m.keys)
    (absent : key ∉ entries.map Prod.fst) :
    (m.insertAll entries).insert key value = (m.insert key value).insertAll entries := by
  induction entries generalizing m with
  | nil => rfl
  | cons entry rest inductionHypothesis =>
    obtain ⟨other, old⟩ := entry
    simp only [List.map_cons, List.mem_cons, not_or] at absent
    have swapped : (m.insert other old).insert key value =
        (m.insert key value).insert other old :=
      eq_of_entries (insertEntry_commutes key other value old m.entries present absent.1)
    have still : key ∈ (m.insert other old).keys :=
      (mem_keys_insert m other old key).mpr (Or.inl present)
    rw [insertAll_cons, insertAll_cons, inductionHypothesis _ still absent.2, swapped]

/-- Inserting entries among which a key was given a value is inserting the entries and then
giving the key the value. -/
theorem insertAll_insertEntry (m : OrderedMap α) (key : String) (value : α)
    (entries : List (String × α)) (distinct : (entries.map Prod.fst).Nodup) :
    m.insertAll (insertEntry key value entries) = (m.insertAll entries).insert key value := by
  induction entries generalizing m with
  | nil => rfl
  | cons entry rest inductionHypothesis =>
    obtain ⟨other, old⟩ := entry
    rw [List.map_cons, List.nodup_cons] at distinct
    by_cases same : other = key
    · subst same
      have present : other ∈ (m.insert other old).keys :=
        (mem_keys_insert m other old other).mpr (Or.inr rfl)
      rw [insertEntry, if_pos rfl, insertAll_cons, insertAll_cons,
        insert_insertAll _ other value rest present distinct.1, insert_twice]
    · rw [insertEntry, if_neg same, insertAll_cons, insertAll_cons,
        inductionHypothesis _ distinct.2]

/-- Inserting a mapping to which entries were added is inserting the mapping and then the
entries. -/
theorem insertAll_insertAll (m n : OrderedMap α) (entries : List (String × α)) :
    m.insertAll (n.insertAll entries).entries =
      (m.insertAll n.entries).insertAll entries := by
  induction entries generalizing n with
  | nil => rfl
  | cons entry rest inductionHypothesis =>
    have step : m.insertAll (n.insert entry.1 entry.2).entries =
        (m.insertAll n.entries).insert entry.1 entry.2 :=
      insertAll_insertEntry m entry.1 entry.2 n.entries n.nodup
    rw [insertAll_cons, inductionHypothesis, step, insertAll_cons]

/-- Entries with new and distinct keys go to the end, in order. -/
theorem entries_insertAll (m : OrderedMap α) (entries : List (String × α))
    (distinct : (m.entries ++ entries).map Prod.fst |>.Nodup) :
    (m.insertAll entries).entries = m.entries ++ entries := by
  induction entries generalizing m with
  | nil => simp
  | cons entry rest inductionHypothesis =>
    have fresh : entry.1 ∉ m.entries.map Prod.fst := by
      intro present
      rw [List.map_append, List.map_cons, List.nodup_append] at distinct
      exact distinct.2.2 entry.1 present entry.1 List.mem_cons_self rfl
    have placed : (m.insert entry.1 entry.2).entries = m.entries ++ [entry] :=
      insertEntry_fresh entry.1 entry.2 m.entries fresh
    have still : (((m.insert entry.1 entry.2).entries ++ rest).map Prod.fst).Nodup := by
      rw [placed, List.append_assoc]
      exact distinct
    rw [insertAll_cons, inductionHypothesis _ still, placed, List.append_assoc,
      List.singleton_append]

/-- A list of entries with distinct keys is its own mapping. -/
theorem entries_ofList (entries : List (String × α)) (distinct : (entries.map Prod.fst).Nodup) :
    (ofList entries).entries = entries :=
  entries_insertAll empty entries distinct

/-- A mapping is the one built from its entries. -/
theorem ofList_entries (m : OrderedMap α) : empty.insertAll m.entries = m :=
  eq_of_entries (entries_ofList m.entries m.nodup)

/-- Inserting the mapping of some entries is inserting the entries. -/
theorem insertAll_ofList (m : OrderedMap α) (entries : List (String × α)) :
    m.insertAll (ofList entries).entries = m.insertAll entries :=
  insertAll_insertAll m empty entries

/-- Inserting entries in a row is inserting some after the others. -/
theorem insertAll_append (m : OrderedMap α) (first second : List (String × α)) :
    m.insertAll (first ++ second) = (m.insertAll first).insertAll second :=
  List.foldl_append

/-! ## Values of keys -/

/-- The value of a key is among the entries. -/
theorem mem_of_find? {m : OrderedMap α} {key : String} {value : α}
    (found : m.find? key = some value) : (key, value) ∈ m.entries := by
  have known : key ∈ m.entries.map Prod.fst := by
    rw [← lookup_isSome_iff]
    exact Option.isSome_iff_exists.mpr ⟨value, found⟩
  obtain ⟨⟨same, other⟩, member, rfl⟩ := List.mem_map.mp known
  have also := lookup_of_mem m.entries same other m.nodup member
  rw [find?] at found
  rw [found] at also
  cases also
  exact member

/-- After an insertion the key has the value, and other names have what they had. -/
theorem find?_insert (m : OrderedMap α) (key : String) (value : α) (name : String) :
    (m.insert key value).find? name = if name = key then some value else m.find? name :=
  lookup_insertEntry key value m.entries name

/-- An entry that is there after others were inserted was there before or is one of them. -/
theorem mem_insertAll {m : OrderedMap α} {entries : List (String × α)} {entry : String × α}
    (member : entry ∈ (m.insertAll entries).entries) : entry ∈ m.entries ∨ entry ∈ entries := by
  induction entries generalizing m with
  | nil => exact .inl member
  | cons first rest inductionHypothesis =>
    rw [List.mem_cons]
    rcases inductionHypothesis member with inserted | later
    · rcases mem_insertEntry _ _ _ entry inserted with old | rfl
      · exact .inl old
      · exact .inr (.inl rfl)
    · exact .inr (.inr later)

/-- Nothing is lost where all entries are kept. -/
theorem filter_eq_self {m : OrderedMap α} {keep : String → α → Bool}
    (all : ∀ entry ∈ m.entries, keep entry.1 entry.2 = true) : m.filter keep = m :=
  eq_of_entries (List.filter_eq_self.mpr all)

/-- A name has the value that it had if the value is kept. -/
theorem find?_filter (m : OrderedMap α) (keep : String → α → Bool) (name : String) :
    (m.filter keep).find? name = (m.find? name).filter (keep name) := by
  have filtered : ∀ entries : List (String × α), (entries.map Prod.fst).Nodup →
      (entries.filter fun entry => keep entry.1 entry.2).lookup name =
        (entries.lookup name).filter (keep name) := by
    intro entries distinct
    induction entries with
    | nil => rfl
    | cons entry rest inductionHypothesis =>
      obtain ⟨other, value⟩ := entry
      rw [List.map_cons, List.nodup_cons] at distinct
      have later := inductionHypothesis distinct.2
      by_cases here : name = other
      · subst here
        have absent : rest.lookup name = none := by
          rw [← Option.not_isSome_iff_eq_none, lookup_isSome_iff]
          exact distinct.1
        rw [absent] at later
        by_cases kept : keep name value = true
        · simp [kept, Option.filter]
        · simp [kept, Option.filter, later]
      · rw [lookup_cons_other _ _ _ _ here, ← later, List.filter_cons]
        split
        · exact lookup_cons_other _ _ _ _ here
        · rfl
  exact filtered m.entries m.nodup

/-- A name that was taken out has no value; others have what they had. -/
theorem find?_erase (m : OrderedMap α) (key name : String) :
    (m.erase key).find? name = if name = key then none else m.find? name := by
  rw [erase, find?_filter]
  split
  · next same => simp [same]
  · next different => cases m.find? name <;> simp [different]

/-- The mapping of some entries and a further one. -/
theorem ofList_concat (entries : List (String × α)) (entry : String × α) :
    ofList (entries ++ [entry]) = (ofList entries).insert entry.1 entry.2 :=
  List.foldl_append

/-- A key has the value of its last entry that was inserted, or else the one it had before. -/
theorem find?_insertAll_entries (m : OrderedMap α) (entries : List (String × α)) (name : String) :
    (m.insertAll entries).find? name = (entries.reverse.lookup name).or (m.find? name) := by
  induction entries using List.reverseRecOn with
  | nil => rfl
  | append_singleton before last inductionHypothesis =>
    have concat : m.insertAll (before ++ [last]) = (m.insertAll before).insert last.1 last.2 :=
      List.foldl_append
    rw [concat, find?_insert, inductionHypothesis, List.reverse_concat]
    by_cases same : name = last.1
    · rw [if_pos same, same, List.lookup_cons_self]
      rfl
    · rw [if_neg same, lookup_cons_other _ _ _ _ same]

/-- Of several entries for one key the last one counts. -/
theorem find?_ofList (entries : List (String × α)) (name : String) :
    (ofList entries).find? name = entries.reverse.lookup name :=
  (find?_insertAll_entries empty entries name).trans Option.or_none

/-- What a mapping of some entries has is among them. -/
theorem mem_of_find?_ofList {entries : List (String × α)} {name : String} {value : α}
    (found : (ofList entries).find? name = some value) : (name, value) ∈ entries := by
  rw [find?_ofList] at found
  obtain ⟨before, after, whole, _⟩ := List.lookup_eq_some_iff.mp found
  apply List.mem_reverse.mp
  simp [whole]

/-- Keys are in the order of their first entries. -/
theorem keys_ofList (entries : List (String × α)) :
    (ofList entries).keys = (entries.map Prod.fst).eraseDups := by
  induction entries using List.reverseRecOn with
  | nil => rfl
  | append_singleton before last inductionHypothesis =>
    rw [List.map_append, List.eraseDups_append, ← inductionHypothesis, ofList_concat]
    have known : last.1 ∈ before.map Prod.fst ↔ last.1 ∈ (ofList before).keys := by
      rw [inductionHypothesis, List.mem_eraseDups]
    by_cases present : last.1 ∈ (ofList before).keys
    · have dropped : [last.1].removeAll (before.map Prod.fst) = [] := by
        simp [List.removeAll, known.mpr present]
      rw [List.map_singleton, dropped, List.eraseDups_nil, List.append_nil]
      exact map_fst_insertEntry last.1 last.2 _ present
    · have kept : [last.1].removeAll (before.map Prod.fst) = [last.1] := by
        simpa [List.removeAll] using mt known.mp present
      have placed : ((ofList before).insert last.1 last.2).entries =
          (ofList before).entries ++ [last] := insertEntry_fresh last.1 last.2 _ present
      have single : [last.1].eraseDups = [last.1] := by simp [List.eraseDups_cons]
      rw [List.map_singleton, kept, single, keys, placed, List.map_append]
      rfl

/-- Giving a key the value that it has changes nothing. -/
theorem insert_of_find? {m : OrderedMap α} {key : String} {value : α}
    (found : m.find? key = some value) : m.insert key value = m := by
  have unchanged : ∀ entries : List (String × α), entries.lookup key = some value →
      insertEntry key value entries = entries := by
    intro entries
    induction entries with
    | nil => intro nothing; cases nothing
    | cons entry rest inductionHypothesis =>
      obtain ⟨other, old⟩ := entry
      intro here
      by_cases same : other = key
      · subst same
        rw [List.lookup_cons_self] at here
        cases here
        rw [insertEntry, if_pos rfl]
      · rw [lookup_cons_other _ _ _ _ (Ne.symm same)] at here
        rw [insertEntry, if_neg same, inductionHypothesis here]
  exact eq_of_entries (unchanged m.entries found)

/-- A key has its value in the mapping that was inserted last, or else in the other one. -/
theorem find?_insertAll (m n : OrderedMap α) (name : String) :
    (m.insertAll n.entries).find? name = (n.find? name).or (m.find? name) := by
  have inserted : ∀ (entries : List (String × α)) (m : OrderedMap α),
      (entries.map Prod.fst).Nodup →
        (m.insertAll entries).find? name = (entries.lookup name).or (m.find? name) := by
    intro entries
    induction entries with
    | nil => intro m _; rfl
    | cons entry rest inductionHypothesis =>
      intro m distinct
      obtain ⟨key, value⟩ := entry
      rw [List.map_cons, List.nodup_cons] at distinct
      rw [insertAll_cons, inductionHypothesis _ distinct.2, find?_insert]
      by_cases same : name = key
      · subst same
        have absent : rest.lookup name = none := by
          rw [← Option.not_isSome_iff_eq_none, lookup_isSome_iff]
          exact distinct.1
        rw [absent, if_pos rfl, List.lookup_cons_self]
        rfl
      · rw [if_neg same, lookup_cons_other _ _ _ _ same]
  exact inserted n.entries m n.nodup

section

variable {β : Type u} (f : α → β)

/-- The value of a key after a function of every value. -/
theorem find?_map (m : OrderedMap α) (name : String) :
    (m.map f).find? name = (m.find? name).map f := by
  show (m.entries.map fun entry => (entry.1, f entry.2)).lookup name =
    (m.entries.lookup name).map f
  induction m.entries with
  | nil => rfl
  | cons entry rest inductionHypothesis =>
    obtain ⟨key, value⟩ := entry
    by_cases same : name = key
    · subst same
      rw [List.map_cons, List.lookup_cons_self, List.lookup_cons_self]
      rfl
    · rw [List.map_cons, lookup_cons_other _ _ _ _ same, lookup_cons_other _ _ _ _ same,
        inductionHypothesis]

/-- A value is inserted before or after a function of every value. -/
theorem map_insert (m : OrderedMap α) (key : String) (value : α) :
    (m.insert key value).map f = (m.map f).insert key (f value) := by
  apply eq_of_entries
  show (insertEntry key value m.entries).map (fun entry => (entry.1, f entry.2)) =
    insertEntry key (f value) (m.entries.map fun entry => (entry.1, f entry.2))
  induction m.entries with
  | nil => rfl
  | cons entry rest inductionHypothesis =>
    obtain ⟨other, old⟩ := entry
    by_cases same : other = key
    · rw [insertEntry, if_pos same, List.map_cons, List.map_cons, insertEntry, if_pos same]
    · rw [insertEntry, if_neg same, List.map_cons, List.map_cons, insertEntry, if_neg same,
        inductionHypothesis]

/-- Values are inserted before or after a function of every value. -/
theorem map_insertAll (m : OrderedMap α) (entries : List (String × α)) :
    (m.insertAll entries).map f =
      (m.map f).insertAll (entries.map fun entry => (entry.1, f entry.2)) := by
  induction entries generalizing m with
  | nil => rfl
  | cons entry rest inductionHypothesis =>
    rw [insertAll_cons, inductionHypothesis, map_insert]
    rfl

end

/-! ## Renaming keys -/

/-- Giving a value to a key commutes with renaming all keys, if that confuses no two of them. -/
theorem map_insertEntry {rename : String → String} (oneToOne : Function.Injective rename)
    (key : String) (value : α) (entries : List (String × α)) :
    (insertEntry key value entries).map (Prod.map rename id) =
      insertEntry (rename key) value (entries.map (Prod.map rename id)) := by
  induction entries with
  | nil => rfl
  | cons entry rest inductionHypothesis =>
    obtain ⟨other, old⟩ := entry
    by_cases same : other = key
    · simp [insertEntry, same]
    · simp [insertEntry, same, oneToOne.ne same, inductionHypothesis]

/-- The mapping of entries with renamed keys is the mapping of the entries, with its keys renamed. -/
theorem map_entries_ofList {rename : String → String} (oneToOne : Function.Injective rename)
    (entries : List (String × α)) :
    (ofList entries).entries.map (Prod.map rename id) =
      (ofList (entries.map (Prod.map rename id))).entries := by
  induction entries using List.reverseRecOn with
  | nil => rfl
  | append_singleton before last inductionHypothesis =>
    rw [ofList_concat, List.map_append, List.map_singleton, ofList_concat, insert,
      map_insertEntry oneToOne, inductionHypothesis]
    rfl

end OrderedMap

end Jobflow
