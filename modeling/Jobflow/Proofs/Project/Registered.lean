import Jobflow.Proofs.Project.Assembly
import Jobflow.Workspace.Projects

/-!
# Files registered with a project

A project of a workspace starts without files, and calls register further ones. Between the calls
the world may change in any way. A call that fails changes nothing but the world, and one that
succeeds gives one archive path its file. So whatever the calls were, archive paths are relative
and distinct, the files are at absolute and resolved places, and no call puts another file in the
place of one without being told to.
-/

namespace Jobflow

/-! ## Projects -/

namespace Project

variable {project changed : Project}

/-- Files have relative archive paths and resolved places; the root is absolute, as all places of
files given by relative paths start from it. -/
structure Sound (project : Project) : Prop where
  /-- The root is absolute. -/
  rooted : ∀ root ∈ project.root, Path.isAbsolute root = true
  /-- Archive paths are relative. -/
  relative : ∀ entry ∈ project.files.entries, Path.isAbsolute entry.1 = false
  /-- Places are absolute and resolved. -/
  resolved : ∀ entry ∈ project.files.entries, Path.Resolved entry.2

/-- The place of a file is resolved. -/
theorem resolved_place (sound : project.Sound) {path place : String}
    (placed : project.place path = .ok place) : Path.Resolved place := by
  unfold Project.place at placed
  split at placed
  · next absolute =>
    cases placed
    exact Path.resolved_real (by rw [Path.join_of_absolute absolute, absolute])
  · split at placed
    · cases placed
    · next root known =>
      cases placed
      exact Path.resolved_real (Path.isAbsolute_join (sound.rooted root known) path)

/-- Adding a file keeps a project sound. -/
theorem Sound.addFile {file : FilePlan} {world after : World} (sound : project.Sound)
    (run : project.addFile file world = (.ok changed, after)) : changed.Sound := by
  obtain ⟨place, archivePath, placed, chosen, rfl⟩ := addFile_eq_ok run
  refine ⟨sound.rooted, fun entry member => ?_, fun entry member => ?_⟩
  · rcases mem_insertEntry _ _ _ entry member with old | rfl
    · exact sound.relative entry old
    · exact isAbsolute_archivePath chosen
  · rcases mem_insertEntry _ _ _ entry member with old | rfl
    · exact sound.resolved entry old
    · exact resolved_place sound placed

/-- The workflows of a project do not matter to its files. -/
theorem Sound.withWorkflows (sound : project.Sound) (workflows : List Workflow) :
    Sound { project with workflows } :=
  ⟨sound.rooted, sound.relative, sound.resolved⟩

/-- A new project is sound. -/
theorem sound_create (name : String) (version : Value) (root : String) (world : World) :
    ∃ project, Project.create name version root world = (.ok project, world) ∧ project.Sound ∧
      project.files = .empty := by
  refine ⟨_, rfl, ⟨fun folder known => ?_, nofun, nofun⟩, rfl⟩
  dsimp only at known
  split at known
  · cases known
  · obtain rfl := Option.some.inj known
    exact Path.isAbsolute_slash _

end Project

/-! ## Calls on a workspace -/

namespace Workspace

/-- The project of a name, apart from its workflows, and its position. -/
def projectNamed? (space : Workspace) (name : String) : Option (Nat × SharedProject) :=
  match space.names.find? name with
  | some (.project index) => (space.projects[index]?).map fun shared => (index, shared)
  | _ => none

/-- A name has a project exactly if it refers to one that is there. -/
theorem projectNamed?_eq_some_iff {space : Workspace} {name : String} {index : Nat}
    {shared : SharedProject} :
    space.projectNamed? name = some (index, shared) ↔
      space.names.find? name = some (.project index) ∧ space.projects[index]? = some shared := by
  unfold projectNamed?
  split
  · next other named =>
    rw [named, Option.map_eq_some_iff]
    constructor
    · rintro ⟨_, kept, same⟩
      cases same
      exact ⟨rfl, kept⟩
    · rintro ⟨same, kept⟩
      cases same
      exact ⟨shared, kept, rfl⟩
  · next notProject => exact ⟨nofun, fun found => absurd found.1 (notProject index)⟩

/-- The files of the project of a name. -/
def files? (space : Workspace) (name : String) : Option (OrderedMap String) :=
  (space.projectNamed? name).map fun found => found.2.project.files

end Workspace

namespace Work

variable {space : Workspace}

/-- What a name refers to is looked up. -/
theorem ref_apply (name : String) (space : Workspace) :
    ref name space = (match space.names.find? name with
      | some found => .ok found
      | none => .error (.mishap .missingKey), space) := by
  have present : (get : Work Workspace) space = (.ok space, space) := rfl
  rw [ref, bind_eq_of_ok _ present]
  cases space.names.find? name <;> rfl

/-- The project of a name is found at its position. -/
theorem project_apply {name : String} {index : Nat} {shared : SharedProject}
    (found : space.projectNamed? name = some (index, shared)) :
    projectIndex name space = (.ok index, space) ∧
      project name space = (.ok (space.plainProject shared), space) := by
  obtain ⟨named, kept⟩ := Workspace.projectNamed?_eq_some_iff.mp found
  have referred : ref name space = (.ok (.project index), space) := by rw [ref_apply, named]
  have placed : projectIndex name space = (.ok index, space) := by
    rw [projectIndex, bind_eq_of_ok _ referred]
    rfl
  have present : (get : Work Workspace) space = (.ok space, space) := rfl
  refine ⟨placed, ?_⟩
  rw [project, bind_eq_of_ok _ present, bind_eq_of_ok _ placed, kept]
  rfl

/-- What a project is apart from its workflows is replaced in place. -/
theorem updateProject_apply {name : String} {index : Nat} {shared : SharedProject}
    (found : space.projectNamed? name = some (index, shared)) (project : Project) :
    updateProject name project space = (.ok (), { space with
      projects := space.projects.modify index fun shared =>
        { shared with project := { project with workflows := [] } } }) := by
  rw [updateProject, changeProject, bind_eq_of_ok _ (project_apply found).1]
  rfl

/-- A call that fails leaves all but the world; one that succeeds leaves all but the world and what
the project is. -/
theorem addFile_apply {name : String} {index : Nat} {shared : SharedProject}
    (found : space.projectNamed? name = some (index, shared)) (file : FilePlan) :
    addFile name file space =
      match (space.plainProject shared).addFile file space.world with
      | (.error fault, world) => (.error fault, { space with world })
      | (.ok changed, world) => (.ok (), { space with
          world
          projects := space.projects.modify index fun shared =>
            { shared with project := { changed with workflows := [] } } }) := by
  have present : (get : Work Workspace) space = (.ok space, space) := rfl
  have here : (get : Action World) space.world = (.ok space.world, space.world) := rfl
  rw [addFile, bind_eq_of_ok _ (project_apply found).2, bind_eq_of_ok _ present,
    Project.addFile, Action.bind_of_ok _ here]
  cases (space.plainProject shared).withFile space.world.tree file with
  | error reason => rfl
  | ok added =>
    obtain ⟨changed, place, archivePath⟩ := added
    obtain ⟨entries, logged⟩ := Project.exists_log_apply (space.plainProject shared) .debug
      "Added file %r as %r." [.text place, .text archivePath] space.world
    dsimp only [Project.logFile]
    rw [bind_eq_of_ok _ (updateProject_apply found changed), Action.bind_of_ok _ logged, act,
      logged]
    rfl

end Work

namespace Workspace

variable {space : Workspace} {name : String}

/-- A name has a project whose files are sound. -/
def Registers (space : Workspace) (name : String) (files : OrderedMap String) : Prop :=
  ∃ index shared, space.projectNamed? name = some (index, shared) ∧ shared.project.Sound ∧
    shared.project.files = files

/-- The files of the project are those that are registered. -/
theorem Registers.files?_eq {files : OrderedMap String} (registers : space.Registers name files) :
    space.files? name = some files := by
  obtain ⟨index, shared, found, -, rfl⟩ := registers
  rw [files?, found]
  rfl

/-- The world does not matter to what is registered. -/
theorem Registers.withWorld {files : OrderedMap String} (registers : space.Registers name files)
    (world : World) : Registers { space with world } name files := registers

/-- What a project is apart from its workflows is found where it was replaced. -/
theorem projectNamed?_modify {index : Nat} {shared : SharedProject}
    (found : space.projectNamed? name = some (index, shared)) (project : Project) (world : World) :
    projectNamed? { space with
      world
      projects := space.projects.modify index fun shared => { shared with project } } name =
        some (index, { shared with project }) := by
  obtain ⟨named, kept⟩ := projectNamed?_eq_some_iff.mp found
  exact projectNamed?_eq_some_iff.mpr ⟨named, by simp [Array.getElem?_modify, kept]⟩

/-- A call either fails and changes nothing but the world, or registers one file. Without leave to
replace files, that file is at the place of any file that had its archive path. -/
theorem Registers.addFile {files : OrderedMap String} (registers : space.Registers name files)
    {file : FilePlan} {result : Except Fault Unit} {after : Workspace}
    (ran : Work.addFile name file space = (result, after)) :
    (∃ fault, result = .error fault ∧ after = { space with world := after.world }) ∨
      ∃ archivePath place, result = .ok () ∧
        after.Registers name (files.insert archivePath place) ∧
        (file.overwrite = false → ∀ current, files.find? archivePath = some current →
          current = place) := by
  obtain ⟨index, shared, found, sound, rfl⟩ := registers
  have called := Project.addFile_apply (space.plainProject shared) file space.world
  rw [Work.addFile_apply found] at ran
  cases added : (space.plainProject shared).withFile space.world.tree file with
  | error reason =>
    rw [added] at called
    dsimp only at called
    rw [called] at ran
    cases ran
    exact .inl ⟨_, rfl, rfl⟩
  | ok outcome =>
    obtain ⟨changed, place, archivePath⟩ := outcome
    rw [added] at called
    obtain ⟨entries, logged⟩ := called
    obtain ⟨-, -, assigned⟩ := Project.withFile_eq_ok added
    rw [logged] at ran
    cases ran
    have soundChanged := ((sound.withWorkflows _).addFile logged).withWorkflows []
    have files : changed.files = shared.project.files.insert archivePath place := by
      rw [Project.assign_eq_ok assigned]
      rfl
    refine .inr ⟨archivePath, place, rfl,
      ⟨index, _, projectNamed?_modify found _ _, soundChanged, files⟩, fun kept current taken => ?_⟩
    rw [kept] at assigned
    exact Project.eq_of_assign_eq_ok assigned taken

/-- A new project has no files. -/
theorem registers_newProject (space : Workspace) (name title : String) (version : Value)
    (root : String) (register : Bool) :
    (Work.newProject name title version root register space).2.Registers name .empty := by
  obtain ⟨project, created, sound, noFiles⟩ :=
    Project.sound_create title version root space.world
  have acted : Work.act (Project.create title version root) space = (.ok project, space) := by
    rw [Work.act, created]
  let index := space.projects.size
  have made : (Work.newProject name title version root register space).2 =
      { space with
        projects := space.projects.push { project }
        registry :=
          if register then
            { space.registry with projects := space.registry.projects.insert title index }
          else space.registry
        names := space.names.insert name (.project index) } := by
    rw [Work.newProject, bind_eq_of_ok _ acted]
    rfl
  rw [made]
  refine ⟨index, { project }, projectNamed?_eq_some_iff.mpr ⟨?_, ?_⟩, sound, noFiles⟩
  · rw [OrderedMap.find?_insert, if_pos rfl]
  · exact Array.getElem?_push_size

/-- A workspace after some calls that add files to the project of a name, each in a world of its
own. -/
def afterCalls (space : Workspace) (name : String) (calls : List (World × FilePlan)) : Workspace :=
  match calls with
  | [] => space
  | (world, file) :: rest => afterCalls (Work.addFile name file { space with world }).2 name rest

/-- Whatever the calls were, some files are registered. -/
theorem Registers.afterCalls {files : OrderedMap String} (registers : space.Registers name files)
    (calls : List (World × FilePlan)) : ∃ later, (space.afterCalls name calls).Registers name later := by
  induction calls generalizing space files with
  | nil => exact ⟨files, registers⟩
  | cons call rest inductionHypothesis =>
    obtain ⟨world, file⟩ := call
    rcases ran : Work.addFile name file { space with world } with ⟨result, after⟩
    have goesOn : space.afterCalls name ((world, file) :: rest) = after.afterCalls name rest := by
      rw [Workspace.afterCalls, ran]
    rw [goesOn]
    rcases (registers.withWorld world).addFile ran with
      ⟨fault, -, unchanged⟩ | ⟨archivePath, place, -, further, -⟩
    · have still : after.Registers name files := by
        rw [unchanged]
        exact registers.withWorld after.world
      exact inductionHypothesis still
    · exact inductionHypothesis further

/-- However files were added to a new project, and whatever calls failed: the archive paths are
distinct and relative, and the files are at absolute and resolved places. A further call either
fails and changes nothing but the world, or registers one file; without leave to replace files,
each archive path keeps its file. -/
theorem addFile_after_calls (space : Workspace) (name title : String) (version : Value)
    (root : String) (register : Bool) (calls : List (World × FilePlan)) :
    let start := (Work.newProject name title version root register space).2
    let reached := start.afterCalls name calls
    ∃ files, reached.files? name = some files ∧ files.keys.Nodup ∧
      (∀ entry ∈ files.entries, Path.isAbsolute entry.1 = false ∧ Path.Resolved entry.2) ∧
      ∀ world file,
        let (result, after) := Work.addFile name file { reached with world }
        (∀ fault, result = .error fault → after = { reached with world := after.world }) ∧
          (result = .ok () → ∃ archivePath place,
            after.files? name = some (files.insert archivePath place)) ∧
          (file.overwrite = false → ∀ archivePath place,
            files.find? archivePath = some place → ∃ later,
              after.files? name = some later ∧ later.find? archivePath = some place) := by
  intro start reached
  obtain ⟨files, registers⟩ :=
    (registers_newProject space name title version root register).afterCalls calls
  have ⟨index, shared, found, sound, same⟩ := registers
  refine ⟨files, registers.files?_eq, files.nodup, fun entry member => ?_, fun world file => ?_⟩
  · rw [← same] at member
    exact ⟨sound.relative entry member, sound.resolved entry member⟩
  · rcases ran : Work.addFile name file { reached with world } with ⟨result, after⟩
    rcases (registers.withWorld world).addFile ran with
      ⟨fault, rfl, unchanged⟩ | ⟨archivePath, place, rfl, further, keeps⟩
    · refine ⟨fun _ _ => unchanged, nofun, fun _ archivePath place taken => ⟨files, ?_, taken⟩⟩
      rw [unchanged]
      exact registers.files?_eq
    · refine ⟨nofun, fun _ => ⟨archivePath, place, further.files?_eq⟩, fun kept other spot taken => ?_⟩
      refine ⟨_, further.files?_eq, ?_⟩
      rw [OrderedMap.find?_insert]
      split
      · next here => rw [keeps kept spot (here ▸ taken)]
      · exact taken

end Workspace

end Jobflow
