import Jobflow.Proofs.Files.Below
import Jobflow.Proofs.Project.Registered

/-!
# Archive paths of files below the root

A file may be added by its path alone. Its place is what the path leads to from the root of the
project. The file is accepted if its place is strictly below the root, and then its archive path
has the names by which its place goes on after the root. A file that is elsewhere is refused, and
so is every file if the root of the project is the root of the file system.
-/

namespace Jobflow.Project

/-- An archive path leads down from the root to the place of a file. -/
structure Denotes (root archivePath place : String) : Prop where
  /-- It is relative. -/
  relative : Path.isAbsolute archivePath = false
  /-- None of its names leads up. -/
  notUp : ".." ∉ Path.names archivePath
  /-- From the root it leads to the place. -/
  same : Path.real root archivePath = place

variable {project : Project} {root place : String}

/-- The archive path of a file is derived exactly if its place is strictly below the root, which
must not be that of the file system. -/
theorem archivePath_cases (rooted : project.root = some root) (resolved : Path.Resolved root)
    (resolvedPlace : Path.Resolved place) :
    (Path.Below root place ∧ root ≠ "/") ∧
        (∃ archivePath, project.archivePath "" place = .ok archivePath ∧
          Denotes root archivePath place) ∨
      ¬ (Path.Below root place ∧ root ≠ "/") ∧
        project.archivePath "" place = .error (.outsideRoot place) := by
  have below : isBelow root place = true ↔ Path.Below root place ∧ root ≠ "/" :=
    Path.startsWith_folder_iff resolved resolvedPlace
  by_cases inside : Path.Below root place ∧ root ≠ "/"
  · refine .inl ⟨inside, ?_⟩
    have accepted := below.mpr inside
    obtain ⟨further, more, names⟩ := inside.1
    have plain : ∀ name ∈ further, Path.Plain name := fun name member =>
      resolvedPlace.plain name (names ▸ List.mem_append_right _ member)
    have relative := Path.isAbsolute_join_names more plain
    refine ⟨Text.join "/" further, ?_, relative, ?_,
      Path.real_of_below resolved resolvedPlace more names⟩
    · rw [archivePath, derivedPath, rooted]
      dsimp only
      rw [if_pos accepted, Path.relative_of_below more names]
      show Except.ok (Text.dropSlashes (Text.join "/" further)) = _
      rw [Path.dropSlashes_of_relative relative]
    · rw [Path.names_join more plain]
      exact fun up => (plain ".." up).notUp rfl
  · refine .inr ⟨inside, ?_⟩
    rw [archivePath, derivedPath, rooted]
    dsimp only
    rw [if_neg (mt below.mp inside)]
    rfl

/-- From a resolved root, a path leads to where it leads from there, whether it is relative or
not. -/
theorem place_eq (rooted : project.root = some root) (path : String) :
    project.place path = .ok (Path.real root path) := by
  unfold Project.place
  split
  · next absolute =>
    rw [Path.real, Path.real, Path.join_of_absolute absolute, Path.join_of_absolute absolute]
  · rw [rooted]

/-- A project without files gets a first one under any archive path. -/
theorem assign_first (fresh : project.files = .empty) (archivePath place : String)
    (overwrite : Bool) : project.assign archivePath place overwrite =
      .ok { project with files := .ofList [(archivePath, place)] } := by
  rw [assign, fresh]
  rfl

/-- The first file of a project is what its archive path is derived for, or the refusal of one. -/
theorem withFile_first (rooted : project.root = some root) (fresh : project.files = .empty)
    {tree : FileTree} {path : String} (present : tree.hasPath "/" (Path.real root path) = true)
    (overwrite : Bool) :
    let place := Path.real root path
    project.withFile tree { path, overwrite } =
      (project.archivePath "" place).map fun archivePath =>
        ({ project with files := .ofList [(archivePath, place)] }, place, archivePath) := by
  intro place
  simp only [withFile, place_eq rooted, present, assign_first fresh, if_true, bind, Except.bind]
  cases project.archivePath "" (Path.real root path) <;> rfl

/-- Adding an existing file by its path alone comes to a project with it or to a refusal. -/
theorem addFile_cases (rooted : project.root = some root) (resolved : Path.Resolved root)
    (fresh : project.files = .empty) {path : String} {world : World}
    (present : world.tree.hasPath root path = true) (overwrite : Bool) :
    let place := Path.real root path
    (Path.Below root place ∧ root ≠ "/") ∧
        (∃ archivePath entries, Denotes root archivePath place ∧
          project.addFile { path, overwrite } world =
            (.ok { project with files := .ofList [(archivePath, place)] }, world.logged entries)) ∨
      ¬ (Path.Below root place ∧ root ≠ "/") ∧
        project.addFile { path, overwrite } world =
          (.error (.refused (.outsideRoot place)), world) := by
  intro place
  have resolvedPlace : Path.Resolved place :=
    Path.resolved_real (Path.isAbsolute_join resolved.absolute path)
  have added := withFile_first rooted fresh
    (FileTree.hasPath_real resolved.absolute present) overwrite
  have ran := addFile_apply project { path, overwrite } world
  rw [added] at ran
  obtain ⟨inside, archivePath, chosen, denotes⟩ | ⟨outside, refused⟩ :=
    archivePath_cases rooted resolved resolvedPlace
  · rw [chosen] at ran
    obtain ⟨entries, run⟩ := ran
    exact .inl ⟨inside, archivePath, entries, denotes, run⟩
  · rw [refused] at ran
    exact .inr ⟨outside, ran⟩

/-- A project that is made with a root has a resolved one, and no files. -/
theorem create_rooted {given : String} (nonempty : given ≠ "") {world : World}
    (absolute : Path.isAbsolute world.folder = true) (name : String) (version : Value) :
    ∃ project root, Project.create name version given world = (.ok project, world) ∧
      project.root = some root ∧ Path.Resolved root ∧ project.files = .empty := by
  have filled : given.isEmpty = false := by
    rwa [Bool.eq_false_iff, ne_eq, String.isEmpty_iff]
  refine ⟨_, rootFolder world.tree world.folder given, rfl, ?_, ?_, rfl⟩
  · show (if given.isEmpty then none else _) = _
    rw [filled, if_neg Bool.false_ne_true]
  · exact Path.resolved_real (Path.isAbsolute_join absolute _)

/-- A project that was made with a root takes an existing file by its path alone exactly if what
the path leads to is strictly below the root, and the root is not that of the file system. The
only file of the project then has an archive path that denotes this place below the root. -/
theorem addFile_takes_below {given : String} (nonempty : given ≠ "") {here : World}
    (absolute : Path.isAbsolute here.folder = true) (name : String) (version : Value) :
    ∃ project root, Project.create name version given here = (.ok project, here) ∧
      project.root = some root ∧ Path.Resolved root ∧
      ∀ (world : World) (path : String) (overwrite : Bool),
        world.tree.hasPath root path = true →
        let place := Path.real root path
        ((∃ changed after, project.addFile { path, overwrite } world = (.ok changed, after)) ↔
            Path.Below root place ∧ root ≠ "/") ∧
          ∀ changed after, project.addFile { path, overwrite } world = (.ok changed, after) →
            ∃ archivePath, changed = { project with files := .ofList [(archivePath, place)] } ∧
              Denotes root archivePath place := by
  obtain ⟨project, root, made, rooted, resolved, fresh⟩ := create_rooted nonempty absolute name version
  refine ⟨project, root, made, rooted, resolved, fun world path overwrite present => ?_⟩
  obtain ⟨inside, archivePath, entries, denotes, run⟩ | ⟨outside, run⟩ :=
    addFile_cases rooted resolved fresh present overwrite
  · refine ⟨iff_of_true ⟨_, _, run⟩ inside, fun changed after same => ?_⟩
    cases run.symm.trans same
    exact ⟨archivePath, rfl, denotes⟩
  · refine ⟨iff_of_false ?_ outside, fun changed after same => ?_⟩
    · rintro ⟨changed, after, same⟩
      cases run.symm.trans same
    · cases run.symm.trans same

/-- A world with a script in a folder. -/
def scripts : World where
  folder := "/ROOT"
  tree :=
    { files := .ofList [("/ROOT", .folder), ("/ROOT/jobs", .folder),
        ("/ROOT/jobs/run.sh", .text "echo run")] }

/-- The script is there by a path that goes up and down again. -/
theorem scripts_takes_below :
    "jobs" ≠ "" ∧ Path.isAbsolute scripts.folder = true ∧
      ∃ project, Project.create "load" .null "jobs" scripts = (.ok project, scripts) ∧
        scripts.tree.hasPath "/ROOT/jobs" "../jobs/./run.sh" = true ∧
        ∃ changed after archivePath,
          project.addFile { path := "../jobs/./run.sh" } scripts = (.ok changed, after) ∧
            changed.files = .ofList [(archivePath, "/ROOT/jobs/run.sh")] ∧
            Denotes "/ROOT/jobs" archivePath "/ROOT/jobs/run.sh" := by
  have nonempty : "jobs" ≠ "" := by decide
  have absolute : Path.isAbsolute scripts.folder = true := by decide +kernel
  have present : scripts.tree.hasPath "/ROOT/jobs" "../jobs/./run.sh" = true := by decide +kernel
  have place : Path.real "/ROOT/jobs" "../jobs/./run.sh" = "/ROOT/jobs/run.sh" := by decide +kernel
  have below : Path.Below "/ROOT/jobs" "/ROOT/jobs/run.sh" :=
    ⟨["run.sh"], by decide, by decide +kernel⟩
  obtain ⟨project, root, made, rooted, resolved, adds⟩ :=
    addFile_takes_below nonempty absolute "load" .null
  obtain rfl : root = "/ROOT/jobs" := by
    cases made
    exact (Option.some.inj rooted).symm.trans (by decide +kernel)
  obtain ⟨taken, denotes⟩ := adds scripts "../jobs/./run.sh" false present
  rw [place] at taken denotes
  obtain ⟨changed, after, run⟩ := taken.mpr ⟨below, by decide⟩
  obtain ⟨archivePath, rfl, path⟩ := denotes changed after run
  exact ⟨nonempty, absolute, project, made, present, _, after, archivePath, run, rfl, path⟩

/-- A file strictly below the root of the file system is refused where this is the root of the
project. -/
theorem scripts_refused_at_root :
    ∃ project, Project.create "load" .null "/" scripts = (.ok project, scripts) ∧
      project.root = some "/" ∧ scripts.tree.hasPath "/" "/ROOT/jobs/run.sh" = true ∧
      Path.Below "/" (Path.real "/" "/ROOT/jobs/run.sh") ∧
      project.addFile { path := "/ROOT/jobs/run.sh" } scripts =
        (.error (.refused (.outsideRoot "/ROOT/jobs/run.sh")), scripts) := by
  have present : scripts.tree.hasPath "/" "/ROOT/jobs/run.sh" = true := by decide +kernel
  have place : Path.real "/" "/ROOT/jobs/run.sh" = "/ROOT/jobs/run.sh" := by decide +kernel
  have below : Path.Below "/" "/ROOT/jobs/run.sh" :=
    ⟨["ROOT", "jobs", "run.sh"], by decide, by decide +kernel⟩
  let project : Project := { name := "load", root := some "/" }
  have absolute : Path.isAbsolute (Path.join "/" "/") = true := by decide +kernel
  have root : Path.real "/" "/" = "/" := by decide +kernel
  have resolved := Path.resolved_real absolute
  rw [root] at resolved
  have made : Project.create "load" .null "/" scripts = (.ok project, scripts) := by rfl
  have rooted : project.root = some "/" := rfl
  have fresh : project.files = .empty := rfl
  obtain ⟨⟨-, notRoot⟩, -⟩ | ⟨-, run⟩ :=
    addFile_cases rooted resolved fresh present false
  · exact absurd rfl notRoot
  · rw [place] at run ⊢
    exact ⟨project, made, rooted, present, below, run⟩

end Jobflow.Project
