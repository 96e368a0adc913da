import Jobflow.Files.FileTree
import Jobflow.Proofs.Files.Path
import Jobflow.Proofs.OrderedMap

/-!
# Laws of file trees

A file that was written is found where it was written to. Writing it blocks no way to the place,
since the place held no folder before. Files at other places are found as before; a place is told
from others by the name that its path ends in. Once a file was taken away, its path leads nowhere.
-/

namespace Jobflow.FileTree

variable {tree : FileTree}

/-! ## Following names -/

/-- Where a name leads to from a folder. -/
def enter (here : List String) (name : String) : List String :=
  if name = "" ∨ name = "." then here
  else if name = ".." then here.dropLast
  else here ++ [name]

/-- From a folder, names lead on from where the first one leads to. -/
theorem follow_cons {here : List String} (folder : tree.at? here = some .folder) (name : String)
    (rest : List String) : tree.follow here (name :: rest) = tree.follow (enter here name) rest := by
  rw [follow, folder, enter]
  dsimp only
  split
  · rfl
  · split <;> rfl

/-- Only from a folder do names lead on. -/
theorem folder_of_follow_cons {here rest : List String} {name : String}
    {result : List String × File} (walked : tree.follow here (name :: rest) = .ok result) :
    tree.at? here = some .folder := by
  unfold follow at walked
  split at walked
  · cases walked
  · assumption
  · cases walked

/-- From a file that is no folder, no name leads on. -/
theorem follow_cons_of_file {here : List String} {file : File} (found : tree.at? here = some file)
    (notFolder : file ≠ .folder) (name : String) (rest : List String) :
    tree.follow here (name :: rest) = .error .notFolder := by
  rw [follow, found]
  cases file with
  | folder => exact absurd rfl notFolder
  | _ => rfl

/-- No names lead nowhere else. -/
theorem follow_nil_iff (here place : List String) (file : File) :
    tree.follow here [] = .ok (place, file) ↔ tree.at? here = some file ∧ place = here := by
  unfold follow
  split
  · next found =>
    simp [found, eq_comm, and_comm]
  · next missing => simp [missing]

/-- What names lead to is at their end. -/
theorem at?_of_follow {here place names : List String} {file : File}
    (walked : tree.follow here names = .ok (place, file)) : tree.at? place = some file := by
  induction names generalizing here with
  | nil =>
    obtain ⟨found, rfl⟩ := (follow_nil_iff here place file).mp walked
    exact found
  | cons name rest inductionHypothesis =>
    rw [follow_cons (folder_of_follow_cons walked)] at walked
    exact inductionHypothesis walked

/-- Names after others lead on from the folder that these lead to. -/
theorem follow_append {here place names : List String}
    (walked : tree.follow here names = .ok (place, .folder)) (rest : List String) :
    tree.follow here (names ++ rest) = tree.follow place rest := by
  induction names generalizing here with
  | nil =>
    obtain ⟨-, rfl⟩ := (follow_nil_iff here place .folder).mp walked
    rw [List.nil_append]
  | cons name names inductionHypothesis =>
    have folder := folder_of_follow_cons walked
    rw [follow_cons folder] at walked
    rw [List.cons_append, follow_cons folder]
    exact inductionHypothesis walked

/-! ## Putting a file at a place -/

/-- A file is at the place it was put at. -/
theorem at?_put {names : List String} (below : names ≠ []) (file : File) :
    (tree.put names file).at? names = some file := by
  rw [at?, if_neg (by rwa [List.isEmpty_iff]), put, OrderedMap.find?_insert, if_pos rfl]

/-- Files stay at other places. -/
theorem at?_put_other {target other : List String} (elsewhere : pathOf other ≠ pathOf target)
    (file : File) : (tree.put target file).at? other = tree.at? other := by
  unfold at?
  rw [put, OrderedMap.find?_insert, if_neg elsewhere]

/-- Folders stay where a file is put at a place without one. -/
theorem at?_put_of_folder {here target : List String} (folder : tree.at? here = some .folder)
    (free : tree.at? target ≠ some .folder) (file : File) :
    (tree.put target file).at? here = some .folder := by
  unfold at? at folder free ⊢
  split
  · rfl
  · next below =>
    rw [if_neg below] at folder
    have elsewhere : pathOf here ≠ pathOf target := by
      intro same
      rw [same] at folder
      apply free
      split
      · rfl
      · exact folder
    rw [put, OrderedMap.find?_insert, if_neg elsewhere]
    exact folder

/-- Names lead where they led before. -/
theorem follow_put {here place target names : List String} {old file new : File}
    (walked : tree.follow here names = .ok (place, old)) (free : tree.at? target ≠ some .folder)
    (arrived : (tree.put target file).at? place = some new) :
    (tree.put target file).follow here names = .ok (place, new) := by
  induction names generalizing here with
  | nil =>
    obtain ⟨-, rfl⟩ := (follow_nil_iff here place old).mp walked
    exact (follow_nil_iff place place new).mpr ⟨arrived, rfl⟩
  | cons name rest inductionHypothesis =>
    have folder := folder_of_follow_cons walked
    rw [follow_cons folder] at walked
    rw [follow_cons (at?_put_of_folder folder free file)]
    exact inductionHypothesis walked

/-- The root is a folder, so that something else is below it. -/
theorem ne_nil_of_at? {place : List String} (free : tree.at? place ≠ some .folder) :
    place ≠ [] := by
  rintro rfl
  exact free rfl

/-- A path that leads nowhere, but to a folder by all of its names except the last one, has no
folder at its end. -/
theorem not_folder_of_missing {folder path name : String} {above here : List String}
    {mishap : Mishap} (nonempty : path.isEmpty = false)
    (names : Path.names (Path.join folder path) = above ++ [name])
    (walked : tree.follow [] above = .ok (here, .folder)) (down : enter here name = here ++ [name])
    (missing : tree.find folder path = .error mishap) :
    tree.at? (here ++ [name]) ≠ some .folder := by
  intro blocked
  rw [find, nonempty, if_neg Bool.false_ne_true, names, follow_append walked,
    follow_cons (at?_of_follow walked), down,
    (follow_nil_iff _ (here ++ [name]) .folder).mpr ⟨blocked, rfl⟩] at missing
  cases missing

/-- What a place for a file is: no folder, and either the place of another file, or a new place in
a folder. -/
theorem placeFor_eq_ok {folder path : String} {place : List String}
    (found : tree.placeFor folder path = .ok place) :
    path.isEmpty = false ∧ tree.at? place ≠ some .folder ∧
      ((∃ old, tree.follow [] (Path.names (Path.join folder path)) = .ok (place, old)) ∨
        ∃ above here name, Path.names (Path.join folder path) = above ++ [name] ∧
          tree.follow [] above = .ok (here, .folder) ∧ enter here name = here ++ [name] ∧
          place = here ++ [name]) := by
  unfold placeFor at found
  split at found
  · cases found
  · -- Another file was there before.
    next names old notFolder there =>
    cases found
    unfold find at there
    split at there
    · cases there
    · next nonempty =>
      refine ⟨Bool.eq_false_iff.mpr nonempty, ?_, .inl ⟨old, there⟩⟩
      rw [at?_of_follow there]
      rintro same
      cases same
      exact notFolder rfl
  · cases found
  · -- Nothing was there before, but the folder.
    next mishap notThere missing =>
    dsimp only at found
    split at found
    · cases found
    · next name last =>
      split at found
      · cases found
      · next proper =>
        rw [not_or, not_or, not_or] at proper
        obtain ⟨nonempty, notEmpty, notHere, notUp⟩ := proper
        split at found
        · next here walked =>
          cases found
          have names : Path.names (Path.join folder path) =
              (Path.names (Path.join folder path)).dropLast ++ [name] := by
            obtain ⟨before, same⟩ := List.getLast?_eq_some_iff.mp last
            rw [same, List.dropLast_concat]
          have down : enter here name = here ++ [name] := by
            rw [enter, if_neg (not_or.mpr ⟨notEmpty, notHere⟩), if_neg notUp]
          have content : path.isEmpty = false := Bool.eq_false_iff.mpr nonempty
          exact ⟨content, not_folder_of_missing content names walked down missing,
            .inr ⟨_, here, name, names, walked, down, rfl⟩⟩
        · cases found
        · cases found

/-- A file is found at a path that it was put at. -/
theorem find_put {folder path : String} {place : List String}
    (found : tree.placeFor folder path = .ok place) (file : File) :
    (tree.put place file).find folder path = .ok (place, file) := by
  obtain ⟨nonempty, free, ways⟩ := placeFor_eq_ok found
  rw [find, nonempty, if_neg Bool.false_ne_true]
  have arrived : (tree.put place file).at? place = some file := at?_put (ne_nil_of_at? free) file
  rcases ways with ⟨old, walked⟩ | ⟨above, here, name, names, walked, down, rfl⟩
  · exact follow_put walked free arrived
  · have still := at?_put_of_folder (at?_of_follow walked) free file
    rw [names, follow_append (follow_put walked free still), follow_cons still, down]
    exact (follow_nil_iff _ (here ++ [name]) file).mpr ⟨arrived, rfl⟩

/-- A file is found as before where another one is put elsewhere. -/
theorem find_put_other {folder path : String} {place target : List String} {file : File}
    (found : tree.find folder path = .ok (place, file)) (free : tree.at? target ≠ some .folder)
    (elsewhere : pathOf place ≠ pathOf target) (new : File) :
    (tree.put target new).find folder path = .ok (place, file) := by
  unfold find at found ⊢
  split at found
  · cases found
  · next nonempty =>
    rw [if_neg nonempty]
    refine follow_put found free ?_
    rw [at?_put_other elsewhere]
    exact at?_of_follow found

/-- What is at a place depends on the file put somewhere exactly if that file is there. -/
theorem at?_put_cases (target here : List String) (one other : File) :
    (tree.put target one).at? here = (tree.put target other).at? here ∨
      (tree.put target one).at? here = some one ∧
        (tree.put target other).at? here = some other := by
  unfold at? put
  split
  · exact .inl rfl
  · rw [OrderedMap.find?_insert, OrderedMap.find?_insert]
    split
    · exact .inr ⟨rfl, rfl⟩
    · exact .inl rfl

/-- Names lead to the same place whichever file was put at a place, and to the same file unless
they lead to that one. Neither file opens a way. -/
theorem follow_put_cases {one other : File} (closed : one ≠ .folder) (otherClosed : other ≠ .folder)
    (target here names : List String) :
    (tree.put target one).follow here names = (tree.put target other).follow here names ∨
      ∃ place, (tree.put target one).follow here names = .ok (place, one) ∧
        (tree.put target other).follow here names = .ok (place, other) := by
  induction names generalizing here with
  | nil =>
    rcases at?_put_cases target here one other with same | ⟨found, otherFound⟩
    · left
      rw [follow, follow, same]
    · exact .inr ⟨here, (follow_nil_iff here here one).mpr ⟨found, rfl⟩,
        (follow_nil_iff here here other).mpr ⟨otherFound, rfl⟩⟩
  | cons name rest inductionHypothesis =>
    by_cases folder : (tree.put target one).at? here = some .folder
    · have otherFolder : (tree.put target other).at? here = some .folder := by
        rcases at?_put_cases target here one other with same | ⟨found, -⟩
        · exact same ▸ folder
        · exact absurd (Option.some.inj (found.symm.trans folder)) closed
      rw [follow_cons folder, follow_cons otherFolder]
      exact inductionHypothesis (enter here name)
    · left
      rcases at?_put_cases target here one other with same | ⟨found, otherFound⟩
      · rw [follow, follow, ← same]
        split <;> first | rfl | contradiction
      · rw [follow_cons_of_file found closed, follow_cons_of_file otherFound otherClosed]

/-- A path leads to the same place whichever file was put at a place, and to the same file unless
it leads to that one. -/
theorem find_put_cases {one other : File} (closed : one ≠ .folder) (otherClosed : other ≠ .folder)
    (target : List String) (folder path : String) :
    (tree.put target one).find folder path = (tree.put target other).find folder path ∨
      ∃ place, (tree.put target one).find folder path = .ok (place, one) ∧
        (tree.put target other).find folder path = .ok (place, other) := by
  unfold find
  split
  · exact .inl rfl
  · exact follow_put_cases closed otherClosed target [] _

/-- A file that was written is found. -/
theorem find_write {folder path : String} {file : File} {after : FileTree}
    (written : tree.write folder path file = .ok after) :
    ∃ place, after.find folder path = .ok (place, file) := by
  unfold write at written
  cases found : tree.placeFor folder path with
  | error mishap =>
    rw [found] at written
    cases written
  | ok place =>
    rw [found] at written
    cases written
    exact ⟨place, find_put found file⟩

/-! ## Places by their last names -/

/-- A path seen from a folder ends in a name that leads down, unlike `.` and `..`. -/
structure EndsIn (folder path name : String) : Prop where
  /-- The name comes last. -/
  last : ∃ above, Path.names (Path.join folder path) = above ++ [name]
  /-- It leads down from every folder. -/
  down : ∀ here, enter here name = here ++ [name]

/-- The path of a single name in a folder ends in the name. -/
theorem endsIn_join {name : String} (single : '/' ∉ name.toList)
    (plain : ¬ (name = "" ∨ name = "." ∨ name = "..")) (here folder : String) :
    EndsIn here (Path.join folder name) name where
  last := Path.exists_names_of_single single here folder
  down := fun _ => by simp_all [enter]

/-- Names that end in one that leads down lead to a place of that name. -/
theorem exists_concat_of_follow {here names place : List String} {name : String} {file : File}
    (down : ∀ here, enter here name = here ++ [name])
    (walked : tree.follow here (names ++ [name]) = .ok (place, file)) :
    ∃ above, place = above ++ [name] := by
  induction names generalizing here with
  | nil =>
    rw [List.nil_append, follow_cons (folder_of_follow_cons walked), down] at walked
    exact ⟨here, ((follow_nil_iff _ place file).mp walked).2⟩
  | cons first rest inductionHypothesis =>
    rw [List.cons_append] at walked
    rw [follow_cons (folder_of_follow_cons walked)] at walked
    exact inductionHypothesis walked

/-- A path leads to a place of the name that it ends in. -/
theorem exists_concat_of_find {folder path name : String} {place : List String} {file : File}
    (ends : EndsIn folder path name) (found : tree.find folder path = .ok (place, file)) :
    ∃ above, place = above ++ [name] := by
  obtain ⟨above, last⟩ := ends.last
  unfold find at found
  split at found
  · cases found
  · rw [last] at found
    exact exists_concat_of_follow ends.down found

/-- A file can be written at a place of that name only. -/
theorem exists_concat_of_placeFor {folder path name : String} {place : List String}
    (ends : EndsIn folder path name) (found : tree.placeFor folder path = .ok place) :
    ∃ above, place = above ++ [name] := by
  obtain ⟨above, last⟩ := ends.last
  obtain ⟨-, -, ⟨old, walked⟩ | ⟨before, here, other, names, -, -, rfl⟩⟩ := placeFor_eq_ok found
  · rw [last] at walked
    exact exists_concat_of_follow ends.down walked
  · obtain ⟨-, same⟩ := List.append_inj' (names.symm.trans last) rfl
    exact ⟨here, by rw [same]⟩

/-- The path of a place ends in its last name. -/
theorem exists_pathOf_concat (above : List String) (name : String) :
    ∃ before, pathOf (above ++ [name]) = before ++ "/" ++ name := by
  induction above with
  | nil => exact ⟨"", by simp [pathOf, Text.join]⟩
  | cons first rest inductionHypothesis =>
    obtain ⟨before, same⟩ := inductionHypothesis
    have joined : Text.join "/" (first :: (rest ++ [name])) =
        first ++ "/" ++ Text.join "/" (rest ++ [name]) := by
      cases rest <;> exact String.intercalate_cons_cons
    refine ⟨"/" ++ first ++ before, ?_⟩
    rw [pathOf] at same
    rw [pathOf, List.cons_append, joined]
    simp only [String.append_assoc] at same ⊢
    rw [same]

/-- Places of different names have different paths. -/
theorem pathOf_concat_ne {name other : String} (different : name ≠ other)
    (single : '/' ∉ name.toList) (otherSingle : '/' ∉ other.toList) (above up : List String) :
    pathOf (above ++ [name]) ≠ pathOf (up ++ [other]) := by
  intro same
  obtain ⟨before, left⟩ := exists_pathOf_concat above name
  obtain ⟨start, right⟩ := exists_pathOf_concat up other
  have names := congrArg Path.names (left.symm.trans (same.trans right))
  rw [Path.names_append_slash, Path.names_append_slash, Path.names_of_single single,
    Path.names_of_single otherSingle] at names
  exact different (List.cons.inj (List.append_inj' names rfl).2).1

/-- A file is found as before where another one is written at a path that ends in another name. -/
theorem find_write_other {folder path target name other : String} {place : List String}
    {file new : File} {after : FileTree} (ends : EndsIn folder path name)
    (otherEnds : EndsIn folder target other) (different : name ≠ other)
    (found : tree.find folder path = .ok (place, file))
    (written : tree.write folder target new = .ok after) :
    after.find folder path = .ok (place, file) := by
  have single {path name : String} (ends : EndsIn folder path name) : '/' ∉ name.toList := by
    obtain ⟨above, last⟩ := ends.last
    exact Path.slash_notMem_of_mem_names
      (last ▸ List.mem_append_right above (List.mem_singleton_self name))
  unfold write at written
  cases goesTo : tree.placeFor folder target with
  | error mishap => rw [goesTo] at written; cases written
  | ok spot =>
    rw [goesTo] at written
    cases written
    obtain ⟨-, free, -⟩ := placeFor_eq_ok goesTo
    obtain ⟨above, rfl⟩ := exists_concat_of_find ends found
    obtain ⟨up, rfl⟩ := exists_concat_of_placeFor otherEnds goesTo
    exact find_put_other found free
      (pathOf_concat_ne different (single ends) (single otherEnds) above up) new

/-! ## Taking a file away -/

/-- Nothing is left at a place whose file was taken away. -/
theorem at?_remove {place : List String} (below : place ≠ []) :
    (tree.remove place).at? place = none := by
  rw [at?, if_neg (by rwa [List.isEmpty_iff]), remove, OrderedMap.find?_erase, if_pos rfl]

/-- What is left was there before. -/
theorem at?_of_remove {place other : List String} {file : File}
    (left : (tree.remove place).at? other = some file) : tree.at? other = some file := by
  unfold at? at left ⊢
  split
  · next root => rwa [if_pos root] at left
  · next below =>
    rw [if_neg below, remove, OrderedMap.find?_erase] at left
    split at left
    · cases left
    · exact left

/-- Where names still lead to, they led to before. -/
theorem follow_of_remove {here place names : List String} {result : List String × File}
    (walked : (tree.remove place).follow here names = .ok result) :
    tree.follow here names = .ok result := by
  induction names generalizing here with
  | nil =>
    obtain ⟨left, rfl⟩ := (follow_nil_iff here result.1 result.2).mp walked
    exact (follow_nil_iff result.1 result.1 result.2).mpr ⟨at?_of_remove left, rfl⟩
  | cons name rest inductionHypothesis =>
    have folder := folder_of_follow_cons walked
    rw [follow_cons folder] at walked
    rw [follow_cons (at?_of_remove folder)]
    exact inductionHypothesis walked

/-- A path leads nowhere once what it led to was taken away. -/
theorem hasPath_remove {folder path : String} {place : List String} {file : File}
    (found : tree.find folder path = .ok (place, file)) (below : place ≠ []) :
    (tree.remove place).hasPath folder path = false := by
  unfold hasPath find at *
  split at found
  · cases found
  · next nonempty =>
    rw [if_neg nonempty]
    cases walked : (tree.remove place).follow [] (Path.names (Path.join folder path)) with
    | error mishap => rfl
    | ok result =>
      have same : result = (place, file) :=
        Except.ok.inj ((follow_of_remove walked).symm.trans found)
      rw [same] at walked
      exact absurd (at?_of_follow walked) (by rw [at?_remove below]; exact nofun)

end Jobflow.FileTree
