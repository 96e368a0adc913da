import Jobflow.Proofs.OrderedMap
import Jobflow.Workspace.Projects

/-!
# Growing workspaces

A workspace grows when projects are added to it, while all that was there before stays in its
place. What a position refers to then remains the same project, and a project in use remains so:
the projects that are registered under some names are still the same ones, and they can be joined
by those that were added.
-/

namespace Jobflow.Workspace

/-! ## What stays in its place -/

/-- A workspace has all that another one has, at the same positions and under the same names. -/
structure Grows (space grown : Workspace) : Prop where
  /-- The property files are the same. -/
  propertyFiles : grown.propertyFiles = space.propertyFiles
  /-- The jobs are the same. -/
  jobs : grown.jobs = space.jobs
  /-- The workflows are the same. -/
  workflows : grown.workflows = space.workflows
  /-- The names are the same. -/
  names : grown.names = space.names
  /-- The projects are still there. -/
  projects : ∀ (index : Nat) (shared : SharedProject), space.projects[index]? = some shared →
    grown.projects[index]? = some shared

variable {space grown later : Workspace}

/-- What stays in its place twice does so. -/
theorem Grows.trans (first : Grows space grown) (second : Grows grown later) :
    Grows space later where
  propertyFiles := second.propertyFiles.trans first.propertyFiles
  jobs := second.jobs.trans first.jobs
  workflows := second.workflows.trans first.workflows
  names := second.names.trans first.names
  projects index shared here := second.projects index shared (first.projects index shared here)

/-- The world and the registry do not matter to the objects of a workspace. -/
theorem grows_with (space : Workspace) (world : World) (registry : Registry Nat) :
    Grows space { space with world, registry } :=
  ⟨rfl, rfl, rfl, rfl, fun _ _ here => here⟩

/-- A further project takes no other one's place. -/
theorem grows_keep (space : Workspace) (project : Project) : Grows space (space.keep project) where
  propertyFiles := rfl
  jobs := rfl
  workflows := rfl
  names := rfl
  projects index shared here := by
    obtain ⟨inside, -⟩ := Array.getElem?_eq_some_iff.mp here
    simp only [keep]
    rw [Array.getElem?_push_lt inside, ← Array.getElem?_eq_getElem inside]
    exact here

/-- A position refers to the same workflow. -/
theorem Grows.workflowAt?_eq (grows : Grows space grown) (depth index : Nat) :
    grown.workflowAt? depth index = space.workflowAt? depth index := by
  have files : grown.propertyFilesAt = space.propertyFilesAt := by
    funext indices
    rw [propertyFilesAt, propertyFilesAt, grows.propertyFiles]
  have plain : grown.plainJob = space.plainJob := by
    funext shared
    rw [plainJob, plainJob, files]
  have jobs : grown.jobAt? = space.jobAt? := by
    funext index
    rw [jobAt?, jobAt?, grows.jobs, plain]
  induction depth generalizing index with
  | zero => rfl
  | succ depth inductionHypothesis =>
    simp only [workflowAt?, grows.workflows, plainHeader, files, jobs, inductionHypothesis]

/-- A shared project stands for the same project. -/
theorem Grows.plainProject_eq (grows : Grows space grown) (shared : SharedProject) :
    grown.plainProject shared = space.plainProject shared := by
  have members : grown.memberAt? = space.memberAt? := by
    funext member
    cases member with
    | own workflow => rfl
    | shared index =>
      have depth : grown.depth = space.depth := by rw [depth, depth, grows.workflows]
      simp only [memberAt?, depth, grows.workflowAt?_eq]
  rw [plainProject, plainProject, members]

/-- A position refers to the same project. -/
theorem Grows.projectAt?_eq (grows : Grows space grown) {index : Nat} {project : Project}
    (here : space.projectAt? index = some project) : grown.projectAt? index = some project := by
  obtain ⟨shared, kept, rfl⟩ := Option.map_eq_some_iff.mp here
  rw [projectAt?, grows.projects index shared kept, Option.map_some, grows.plainProject_eq]

/-- A project in use remains so. -/
theorem Grows.isUsed (grows : Grows space grown) {index : Nat} {project : Project}
    (here : space.projectAt? index = some project) (used : space.isUsed index = true) :
    grown.isUsed index = true := by
  obtain ⟨shared, kept, -⟩ := Option.map_eq_some_iff.mp here
  rw [Workspace.isUsed, kept] at used
  rw [Workspace.isUsed, grows.names, grows.projects index shared kept]
  exact used

/-- The position after all others refers to the project that was added last. -/
theorem projectAt?_keep (space : Workspace) (project : Project) :
    (space.keep project).projectAt? space.projects.size = some project := by
  have last : (space.keep project).projects[space.projects.size]? = some
      { project := { project with workflows := [] }
        workflows := project.workflows.map SharedMember.own
        isKept := true } := Array.getElem?_push_size
  have own : (project.workflows.map SharedMember.own).filterMap (space.keep project).memberAt? =
      project.workflows := by
    rw [List.filterMap_map]
    exact List.filterMap_some
  rw [projectAt?, last, Option.map_some, plainProject]
  dsimp only
  rw [own]

/-- A project that was kept is in use. -/
theorem isUsed_keep (space : Workspace) (project : Project) :
    (space.keep project).isUsed space.projects.size = true := by
  have last : (space.keep project).projects[space.projects.size]? = some _ :=
    Array.getElem?_push_size
  rw [Workspace.isUsed, last]
  exact Bool.or_true _

/-! ## Projects under names -/

/-- The positions under some names refer to some projects, all of them in use. -/
structure Shows (space : Workspace) (indices : OrderedMap Nat) (projects : OrderedMap Project) :
    Prop where
  /-- The positions refer to the projects. -/
  same : indices.map space.projectAt? = projects.map some
  /-- The projects are in use. -/
  used : ∀ entry ∈ indices.entries, space.isUsed entry.2 = true

variable {indices others : OrderedMap Nat} {projects more : OrderedMap Project}

/-- Nothing is registered under no names. -/
theorem shows_empty (space : Workspace) : space.Shows .empty .empty := ⟨rfl, nofun⟩

/-- Every position under a name refers to a project. -/
theorem Shows.exists_project (shows : space.Shows indices projects) {entry : String × Nat}
    (member : entry ∈ indices.entries) : ∃ project, space.projectAt? entry.2 = some project := by
  have mapped : (entry.1, space.projectAt? entry.2) ∈ (indices.map space.projectAt?).entries :=
    List.mem_map_of_mem member
  rw [shows.same] at mapped
  obtain ⟨⟨name, project⟩, -, same⟩ := List.mem_map.mp mapped
  exact ⟨project, (Prod.mk.inj same).2.symm⟩

/-- The projects under names stay the same while a workspace grows. -/
theorem Shows.grows (shows : space.Shows indices projects) (grows : Grows space grown) :
    grown.Shows indices projects where
  same := by
    rw [← shows.same]
    apply OrderedMap.eq_of_entries
    apply List.map_congr_left
    intro entry member
    obtain ⟨project, here⟩ := shows.exists_project member
    rw [here, grows.projectAt?_eq here]
  used entry member := by
    obtain ⟨project, here⟩ := shows.exists_project member
    exact grows.isUsed here (shows.used entry member)

/-- A project that is added takes the place of one of its name. -/
theorem Shows.keep (shows : space.Shows indices projects) (project : Project) :
    (space.keep project).Shows (indices.insert project.name space.projects.size)
      (projects.insert project.name project) where
  same := by
    rw [OrderedMap.map_insert, OrderedMap.map_insert, (shows.grows (grows_keep space project)).same,
      projectAt?_keep]
  used entry member := by
    rcases mem_insertEntry _ _ _ entry member with old | rfl
    · exact (shows.grows (grows_keep space project)).used entry old
    · exact isUsed_keep space project

/-- Projects under some names are overridden by those under others. -/
theorem Shows.insertAll (shows : space.Shows indices projects)
    (showsMore : space.Shows others more) :
    space.Shows (indices.insertAll others.entries) (projects.insertAll more.entries) where
  same := by
    have override : (others.entries.map fun entry => (entry.1, space.projectAt? entry.2)) =
        more.entries.map fun entry => (entry.1, some entry.2) :=
      congrArg OrderedMap.entries showsMore.same
    rw [OrderedMap.map_insertAll, OrderedMap.map_insertAll, shows.same, override]
  used entry member := by
    rcases OrderedMap.mem_insertAll member with old | new
    · exact shows.used entry old
    · exact showsMore.used entry new

/-- The registered projects are some, all of them in use. -/
def Knows (space : Workspace) (registered : OrderedMap Project) : Prop :=
  space.Shows space.registry.projects registered

/-- While all registered projects are in use, none of them is lost. -/
theorem Knows.liveRegistry_eq {registered : OrderedMap Project} (knows : space.Knows registered) :
    space.liveRegistry = space.registry := by
  rw [liveRegistry, OrderedMap.filter_eq_self knows.used]

/-- Projects that are kept are registered one after the other. -/
theorem Knows.keep {registered : OrderedMap Project} (knows : space.Knows registered)
    (project : Project) : (space.keep project).Knows (registered.insert project.name project) :=
  Shows.keep knows project

end Jobflow.Workspace
