import Jobflow.Proofs.Files.FileTree
import Jobflow.Proofs.Text.Search

/-!
# Places below folders

A resolved place is strictly below a folder if its names go on after those of the folder. Its text
then starts with that of the folder and a slash, and the other way round, unless the folder is the
root: the text of the root ends in a slash already, and no resolved place has two in a row. The
path that leads to the place from the folder has the further names, none of which leads up.

Where a path leads to something, following its names in the file tree and resolving its text come
to the same place, as every folder on the way is there.
-/

namespace Jobflow

open FileTree (pathOf)

namespace Path

/-- A place is strictly below a folder: its names go on after those of the folder. -/
def Below (folder place : String) : Prop :=
  ∃ further, further ≠ [] ∧ normalNames place = normalNames folder ++ further

variable {above further : List String}

/-! ## Texts of places -/

/-- A resolved place is the path of its names. -/
theorem Resolved.eq_pathOf {place : String} (resolved : Resolved place) :
    place = pathOf (normalNames place) := by
  have stays := resolved.stays place
  rw [real, join_of_absolute resolved.absolute] at stays
  exact stays.symm

/-- The path of some names has nothing before its first slash. -/
theorem names_pathOf (some : above ≠ []) (plain : ∀ name ∈ above, Plain name) :
    names (pathOf above) = "" :: above := by
  have below := names_append_slash "" (Text.join "/" above)
  rw [String.empty_append, names_join some plain] at below
  exact below

/-- The path of names after others is the one of these, a slash, and the further ones. -/
theorem pathOf_append (some : above ≠ []) (more : further ≠ []) :
    pathOf (above ++ further) = pathOf above ++ "/" ++ Text.join "/" further := by
  rw [pathOf, pathOf, Text.join, String.intercalate_append_of_ne_nil some more]
  simp only [Text.join, String.append_assoc]

/-- The path of a place starts with that of a folder and a slash exactly if the folder is not the
root and the place is strictly below it. -/
theorem startsWith_pathOf_iff {place : List String} (plain : ∀ name ∈ above, Plain name)
    (plainPlace : ∀ name ∈ place, Plain name) :
    Text.startsWith (pathOf place) (pathOf above ++ "/") = true ↔
      above ≠ [] ∧ ∃ further, further ≠ [] ∧ place = above ++ further := by
  rw [Text.startsWith_iff]
  constructor
  · rintro ⟨rest, same⟩
    have parts := congrArg names same
    rw [names_append_slash] at parts
    have root : names (pathOf []) = ["", ""] := by decide +kernel
    have last : names rest ≠ [] := by simp [names, Text.splitAll_ne_nil]
    obtain rfl | some := eq_or_ne above []
    · -- The root is followed by an empty name, which no place has.
      obtain rfl | below := eq_or_ne place []
      · simp [root, last] at parts
      · rw [root, names_pathOf below plainPlace] at parts
        obtain rfl : place = "" :: names rest := (List.cons.inj parts).2
        exact absurd rfl (plainPlace "" List.mem_cons_self).nonempty
    · rw [names_pathOf some plain] at parts
      obtain rfl | below := eq_or_ne place []
      · -- The path of the root has a single slash.
        have size := congrArg List.length parts
        have here := List.length_pos_iff.mpr some
        have later := List.length_pos_iff.mpr last
        simp only [root, List.length_append, List.length_cons, List.length_nil] at size
        omega
      · rw [names_pathOf below plainPlace] at parts
        exact ⟨some, names rest, last, (List.cons.inj parts).2⟩
  · rintro ⟨some, further, more, rfl⟩
    exact ⟨_, pathOf_append some more⟩

/-- The names of a resolved place are plain. -/
theorem Resolved.plain {place : String} (resolved : Resolved place) :
    ∀ name ∈ normalNames place, Plain name :=
  forall_plain_normalNames resolved.absolute

/-- The root is the resolved place without names. -/
theorem Resolved.eq_root_iff {place : String} (resolved : Resolved place) :
    place = "/" ↔ normalNames place = [] := by
  constructor
  · rintro rfl
    decide +kernel
  · intro none
    rw [resolved.eq_pathOf, none]
    decide +kernel

/-- The text of a resolved place tells that it is strictly below a folder, unless this is the
root. -/
theorem startsWith_folder_iff {folder place : String} (resolved : Resolved folder)
    (resolvedPlace : Resolved place) :
    Text.startsWith place (folder ++ "/") = true ↔ Below folder place ∧ folder ≠ "/" := by
  have texts := startsWith_pathOf_iff resolved.plain resolvedPlace.plain
  rw [← resolved.eq_pathOf, ← resolvedPlace.eq_pathOf] at texts
  rw [texts, Below, ne_eq folder, resolved.eq_root_iff]
  exact and_comm

/-! ## Relative paths -/

/-- What two lists start with is dropped from both. -/
theorem dropCommon_append (above further : List String) :
    dropCommon (above ++ further) above = (further, []) := by
  induction above with
  | nil => cases further <;> rfl
  | cons first rest inductionHypothesis =>
    rw [List.cons_append, dropCommon, if_pos rfl, inductionHypothesis]

/-- The path from a folder to a place strictly below it has the further names. -/
theorem relative_of_below {folder place : String} (more : further ≠ [])
    (below : normalNames place = normalNames folder ++ further) :
    relative folder place = Text.join "/" further := by
  obtain ⟨next, others, rfl⟩ := List.exists_cons_of_ne_nil more
  rw [relative, below, dropCommon_append]
  rfl

/-- The path of plain names is relative. -/
theorem isAbsolute_join_names (more : further ≠ []) (plain : ∀ name ∈ further, Plain name) :
    isAbsolute (Text.join "/" further) = false := by
  rw [isAbsolute, Bool.eq_false_iff, ne_eq, Text.startsWith_iff]
  rintro ⟨rest, same⟩
  have parts := congrArg names same
  have cut := names_append_slash "" rest
  have nothing : names "" = [""] := by decide +kernel
  rw [String.empty_append, nothing] at cut
  rw [names_join more plain, cut] at parts
  exact (plain "" (parts ▸ List.mem_cons_self)).nonempty rfl

/-- A path that is relative has no slashes to drop. -/
theorem dropSlashes_of_relative {path : String} (relative : isAbsolute path = false) :
    Text.dropSlashes path = path := by
  have kept : path.toList.dropWhile (· == '/') = path.toList := by
    rw [isAbsolute, Text.startsWith] at relative
    cases characters : path.toList with
    | nil => rfl
    | cons c rest =>
      rw [characters] at relative
      have slash : "/".toList = ['/'] := by decide
      have other : ('/' == c) = false := by
        rwa [slash, List.isPrefixOf_cons_cons, List.isPrefixOf_nil_left, Bool.and_true] at relative
      rw [List.dropWhile_cons, BEq.comm, other, if_neg Bool.false_ne_true]
  rw [Text.dropSlashes, kept, String.ofList_toList]

/-- The path of some names does not end in a slash. -/
theorem endsWith_pathOf (some : above ≠ []) (plain : ∀ name ∈ above, Plain name) :
    Text.endsWith (pathOf above) "/" = false := by
  have proper : ∀ name ∈ above, Proper name := fun name member => (plain name member).toProper
  obtain ⟨c, last, other⟩ := exists_getLast?_join some proper
  apply endsWith_slash_eq_false _ other
  rw [pathOf, String.toList_append, List.getLast?_append, last]
  rfl

/-- The path of further names is seen from a folder as the one of all names. -/
theorem join_pathOf (plainAbove : ∀ name ∈ above, Plain name) (more : further ≠ [])
    (plain : ∀ name ∈ further, Plain name) :
    join (pathOf above) (Text.join "/" further) = pathOf (above ++ further) := by
  have nonempty : (pathOf above).isEmpty = false := by
    rw [Bool.eq_false_iff, ne_eq, String.isEmpty_iff, ← String.toList_eq_nil_iff, pathOf,
      String.toList_append]
    exact List.cons_ne_nil _ _
  rw [join, isAbsolute_join_names more plain, nonempty, Bool.or_self, if_neg Bool.false_ne_true]
  obtain rfl | some := eq_or_ne above []
  · rw [if_pos (by decide +kernel)]
    rfl
  · rw [endsWith_pathOf some plainAbove, if_neg Bool.false_ne_true, pathOf_append some more]

/-- From a folder, the path of further names leads to the place strictly below it that has them. -/
theorem real_of_below {folder place : String} (resolved : Resolved folder)
    (resolvedPlace : Resolved place) (more : further ≠ [])
    (below : normalNames place = normalNames folder ++ further) :
    real folder (Text.join "/" further) = place := by
  have plain : ∀ name ∈ further, Plain name := fun name member =>
    resolvedPlace.plain name (below ▸ List.mem_append_right _ member)
  have seen := join_pathOf resolved.plain more plain
  rw [← resolved.eq_pathOf, ← below, ← resolvedPlace.eq_pathOf] at seen
  rw [real, seen]
  exact resolvedPlace.eq_pathOf.symm

end Path

namespace FileTree

variable {tree : FileTree} {here : List String}

/-! ## Following names to a place -/

/-- The names lead down from the root, and all that lead to the last of them are folders. -/
structure Reached (tree : FileTree) (here : List String) : Prop where
  /-- All names lead down. -/
  plain : ∀ name ∈ here, Path.Plain name
  /-- Before the last name, all are folders. -/
  folders : ∀ above further, here = above ++ further → further ≠ [] →
    tree.at? above = some .folder

/-- The root is reached. -/
theorem reached_root : tree.Reached [] where
  plain := by simp
  folders above further cut more := absurd (List.append_eq_nil_iff.mp cut.symm).2 more

/-- From a folder that is reached, a name that leads down does so. -/
theorem Reached.down (reached : tree.Reached here) (folder : tree.at? here = some .folder)
    {name : String} (plain : Path.Plain name) : tree.Reached (here ++ [name]) where
  plain := List.forall_mem_append.mpr ⟨reached.plain, List.forall_mem_singleton.mpr plain⟩
  folders above further cut more := by
    -- The last of the further names is the new one.
    obtain ⟨between, last, rfl⟩ := (List.eq_nil_or_concat' further).resolve_left more
    rw [← List.append_assoc] at cut
    obtain ⟨cut, -⟩ := List.append_inj' cut rfl
    obtain rfl | some := eq_or_ne between []
    · rw [List.append_nil] at cut
      exact cut ▸ folder
    · exact reached.folders above between cut some

/-- The folders above what is reached are reached. -/
theorem Reached.up (reached : tree.Reached here) : tree.Reached here.dropLast where
  plain name member := reached.plain name (List.dropLast_subset _ member)
  folders above further cut more := by
    obtain rfl | some := eq_or_ne here []
    · exact reached.folders above further cut more
    · apply reached.folders above (further ++ [here.getLast some]) _ (by simp)
      rw [← List.append_assoc, ← cut, List.dropLast_append_getLast some]

/-- From a folder that is reached, a name leads on to what is reached; the names taken in for a
normal form are the same. -/
theorem Reached.enter (reached : tree.Reached here) (folder : tree.at? here = some .folder)
    {name : String} (single : '/' ∉ name.toList) :
    tree.Reached (enter here name) ∧
      (FileTree.enter here name).reverse = Path.step true here.reverse name := by
  unfold FileTree.enter Path.step
  split
  · exact ⟨reached, rfl⟩
  · next something =>
    rw [not_or] at something
    split
    · refine ⟨reached.up, ?_⟩
      obtain rfl | some := eq_or_ne here []
      · rfl
      · obtain ⟨above, last, rfl⟩ := (List.eq_nil_or_concat' here).resolve_left some
        have down := (reached.plain last (by simp)).notUp
        simp [down]
    · next notUp =>
      refine ⟨reached.down folder ⟨⟨something.1, single⟩, something.2, notUp⟩, ?_⟩
      rw [List.reverse_append, List.reverse_singleton, List.singleton_append]

/-- Following names comes to the place of their normal form. -/
theorem follow_eq_ok {names place : List String} {file : File} (reached : tree.Reached here)
    (single : ∀ name ∈ names, '/' ∉ name.toList)
    (walked : tree.follow here names = .ok (place, file)) :
    tree.Reached place ∧ place.reverse = names.foldl (Path.step true) here.reverse := by
  induction names generalizing here with
  | nil =>
    obtain ⟨-, rfl⟩ := (follow_nil_iff here place file).mp walked
    exact ⟨reached, rfl⟩
  | cons name rest inductionHypothesis =>
    have folder := folder_of_follow_cons walked
    rw [follow_cons folder] at walked
    obtain ⟨first, later⟩ := List.forall_mem_cons.mp single
    obtain ⟨further, same⟩ := reached.enter folder first
    rw [List.foldl_cons, ← same]
    exact inductionHypothesis further later walked

/-- What is reached is come to by following names that lead down. -/
theorem Reached.follow_append {names : List String} {file : File}
    (reached : tree.Reached (here ++ names)) (found : tree.at? (here ++ names) = some file) :
    tree.follow here names = .ok (here ++ names, file) := by
  induction names generalizing here with
  | nil =>
    rw [List.append_nil] at found ⊢
    exact (follow_nil_iff here here file).mpr ⟨found, rfl⟩
  | cons name rest inductionHypothesis =>
    have folder := reached.folders here (name :: rest) rfl (List.cons_ne_nil _ _)
    have plain := reached.plain name (by simp)
    have entered : FileTree.enter here name = here ++ [name] := by
      rw [FileTree.enter, if_neg (not_or.mpr ⟨plain.nonempty, plain.notHere⟩), if_neg plain.notUp]
    rw [List.append_cons] at reached found ⊢
    rw [follow_cons folder, entered]
    exact inductionHypothesis reached found

/-- A path leads to anything exactly if it is found. -/
theorem hasPath_iff {folder path : String} : tree.hasPath folder path = true ↔
    ∃ place file, tree.find folder path = .ok (place, file) := by
  unfold hasPath
  rcases tree.find folder path with mishap | ⟨place, file⟩
  · simp [Except.isOk, Except.toBool]
  · simp [Except.isOk, Except.toBool]

/-- What is reached is found at its path. -/
theorem Reached.find_pathOf {file : File} (reached : tree.Reached here)
    (found : tree.at? here = some file) (folder : String) :
    tree.find folder (pathOf here) = .ok (here, file) := by
  have followed : tree.follow [] here = .ok (here, file) := reached.follow_append found
  have absolute : Path.isAbsolute (pathOf here) = true := Path.isAbsolute_slash _
  have nonempty : (pathOf here).isEmpty = false := by
    rw [Bool.eq_false_iff, ne_eq, String.isEmpty_iff]
    intro nothing
    rw [nothing] at absolute
    cases absolute
  rw [find, nonempty, if_neg Bool.false_ne_true, Path.join_of_absolute absolute]
  have root : tree.at? [] = some .folder := rfl
  have stay : FileTree.enter [] "" = [] := rfl
  obtain rfl | some := eq_or_ne here []
  · have names : Path.names (pathOf []) = ["", ""] := by decide +kernel
    rw [names, follow_cons root, stay, follow_cons root, stay]
    exact followed
  · rw [Path.names_pathOf some reached.plain, follow_cons root, stay]
    exact followed

/-- Where a path leads to something, its resolved form leads there as well. -/
theorem hasPath_real {folder path : String} (absolute : Path.isAbsolute folder = true)
    (present : tree.hasPath folder path = true) :
    tree.hasPath "/" (Path.real folder path) = true := by
  obtain ⟨place, file, found⟩ := hasPath_iff.mp present
  unfold find at found
  split at found
  · cases found
  · obtain ⟨reached, names⟩ := follow_eq_ok reached_root
      (fun name member => Path.slash_notMem_of_mem_names member) found
    have same : Path.normalNames (Path.join folder path) = place := by
      rw [Path.normalNames, Path.isAbsolute_join absolute, ← List.reverse_nil, ← names,
        List.reverse_reverse]
    refine hasPath_iff.mpr ⟨place, file, ?_⟩
    rw [Path.real, same]
    exact reached.find_pathOf (at?_of_follow found) "/"

end FileTree

end Jobflow
