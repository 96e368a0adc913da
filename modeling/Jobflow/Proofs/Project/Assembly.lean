import Jobflow.Project.Files
import Jobflow.Proofs.Action
import Jobflow.Proofs.Files.Path
import Jobflow.Proofs.OrderedMap
import Mathlib.Data.List.Nodup

/-!
# How projects come about

A project starts without workflows and files. Calls add these one at a time; a call that fails
gives no project, so that the one before it stays. In between the properties and definitions of
the project may be assigned, its workflows may grow, and the files of the system may change.

What a project packs is read off the calls that succeeded: its workflows have distinct names, and
each archive path belongs to the file that was added for it last. Archive paths are never
absolute.
-/

namespace Jobflow

/-- A text without its first slashes is no absolute path. -/
theorem Path.isAbsolute_dropSlashes (text : String) :
    isAbsolute (Text.dropSlashes text) = false := by
  rw [isAbsolute, Text.startsWith, Text.dropSlashes, String.toList_ofList]
  cases rest : text.toList.dropWhile (· == '/') with
  | nil => decide
  | cons c cs =>
    have some : text.toList.dropWhile (fun d => d == '/') ≠ [] := by simp [rest]
    have other := List.head_dropWhile_not (fun d => d == '/') some
    simp only [rest, List.head_cons, beq_eq_false_iff_ne] at other
    have different : ('/' == c) = false := beq_eq_false_iff_ne.mpr (Ne.symm other)
    show List.isPrefixOf ['/'] (String.ofList (c :: cs)).toList = false
    rw [String.toList_ofList, List.isPrefixOf_cons_cons, different, Bool.false_and]

namespace Project

variable {project changed : Project}

/-! ## Single calls -/

/-- Logging leaves all but the log. -/
theorem exists_log_apply (project : Project) (level : LogLevel) (template : String)
    (args : List Value) (world : World) :
    ∃ entries, project.log level template args world = (.ok (), world.logged entries) :=
  Action.exists_deliver_apply level _ world

/-- A project with a further workflow has it after the others, under a new name. -/
theorem withWorkflow_eq_ok_iff {workflow : Workflow} :
    project.withWorkflow workflow = .ok changed ↔
      workflow.header.name ∉ project.workflowNames ∧
        { project with workflows := project.workflows ++ [workflow] } = changed := by
  unfold withWorkflow
  split <;> simp_all

/-- Adding a workflow puts it after the others, and takes a new name. -/
theorem addWorkflow_eq_ok {workflow : Workflow} {world after : World}
    (run : project.addWorkflow workflow world = (.ok changed, after)) :
    workflow.header.name ∉ project.workflowNames ∧
      changed = { project with workflows := project.workflows ++ [workflow] } := by
  unfold addWorkflow at run
  cases added : project.withWorkflow workflow with
  | error reason => rw [added] at run; cases run
  | ok result =>
    rw [added] at run
    obtain ⟨_, _, _, returned⟩ := Action.exists_of_bind_ok run
    cases returned
    obtain ⟨fresh, same⟩ := withWorkflow_eq_ok_iff.mp added
    exact ⟨fresh, same.symm⟩

/-- A workflow with a new name can be added. -/
theorem exists_addWorkflow_apply {project : Project} {workflow : Workflow}
    (fresh : workflow.header.name ∉ project.workflowNames) (world : World) :
    ∃ after, project.addWorkflow workflow world =
      (.ok { project with workflows := project.workflows ++ [workflow] }, after) := by
  obtain ⟨entries, logged⟩ :=
    project.exists_log_apply .debug "Added workflow %r." [.text workflow.header.name] world
  refine ⟨world.logged entries, ?_⟩
  unfold addWorkflow
  rw [withWorkflow_eq_ok_iff.mpr ⟨fresh, rfl⟩]
  exact Action.bind_of_ok _ logged

/-- An archive path is relative. -/
theorem isAbsolute_archivePath {given place archivePath : String}
    (chosen : project.archivePath given place = .ok archivePath) :
    Path.isAbsolute archivePath = false := by
  unfold Project.archivePath at chosen
  cases found : (if given.isEmpty then project.derivedPath place else .ok given) with
  | error reason => rw [found] at chosen; cases chosen
  | ok path =>
    rw [found] at chosen
    cases chosen
    exact Path.isAbsolute_dropSlashes path

/-- A place that is given an archive path has it afterwards. -/
theorem assign_eq_ok {archivePath place : String} {overwrite : Bool}
    (run : project.assign archivePath place overwrite = .ok changed) :
    changed = { project with files := project.files.insert archivePath place } := by
  unfold assign at run
  split at run
  · split at run
    · exact (Except.ok.inj run).symm
    · cases run
  · exact (Except.ok.inj run).symm

/-- Without leave to replace a file, no other file had the archive path before. -/
theorem eq_of_assign_eq_ok {archivePath place current : String}
    (run : project.assign archivePath place false = .ok changed)
    (taken : project.files.find? archivePath = some current) : current = place := by
  rw [assign, taken] at run
  dsimp only at run
  split at run
  · next either => simpa using either
  · cases run

/-- A project with a further file has it at its place, under its archive path. -/
theorem withFile_eq_ok {tree : FileTree} {file : FilePlan} {place archivePath : String}
    (added : project.withFile tree file = .ok (changed, place, archivePath)) :
    project.place file.path = .ok place ∧
      project.archivePath file.archivePath place = .ok archivePath ∧
      project.assign archivePath place file.overwrite = .ok changed := by
  unfold withFile at added
  obtain ⟨here, placed, rest⟩ := exists_of_bind_eq_ok added
  dsimp only at rest
  split at rest
  · obtain ⟨path, chosen, rest⟩ := exists_of_bind_eq_ok rest
    obtain ⟨final, assigned, rest⟩ := exists_of_bind_eq_ok rest
    cases rest
    exact ⟨placed, chosen, assigned⟩
  · cases rest

/-- Adding a file comes to the project with it, or to the reason why there is none. -/
theorem addFile_apply (project : Project) (file : FilePlan) (world : World) :
    match project.withFile world.tree file with
    | .ok (changed, _, _) => ∃ entries, project.addFile file world = (.ok changed, world.logged entries)
    | .error reason => project.addFile file world = (.error (.refused reason), world) := by
  have present : (get : Action World) world = (.ok world, world) := rfl
  cases added : project.withFile world.tree file with
  | error reason =>
    dsimp only
    rw [addFile, Action.bind_of_ok _ present, added]
    rfl
  | ok result =>
    obtain ⟨changed, place, archivePath⟩ := result
    obtain ⟨entries, logged⟩ := project.exists_log_apply .debug "Added file %r as %r."
      [.text place, .text archivePath] world
    refine ⟨entries, ?_⟩
    rw [addFile, Action.bind_of_ok _ present, added]
    exact Action.bind_of_ok _ logged

/-- If a file can be added, the project is the one with the file. -/
theorem exists_withFile {file : FilePlan} {world after : World}
    (run : project.addFile file world = (.ok changed, after)) :
    ∃ place archivePath, project.withFile world.tree file = .ok (changed, place, archivePath) := by
  have ran := addFile_apply project file world
  cases added : project.withFile world.tree file with
  | error reason =>
    rw [added] at ran
    cases run.symm.trans ran
  | ok result =>
    rw [added] at ran
    obtain ⟨entries, same⟩ := ran
    cases run.symm.trans same
    exact ⟨_, _, rfl⟩

/-- Adding a file gives it a relative archive path, in the place of any file that has it. -/
theorem addFile_eq_ok {file : FilePlan} {world after : World}
    (run : project.addFile file world = (.ok changed, after)) :
    ∃ place archivePath, project.place file.path = .ok place ∧
      project.archivePath file.archivePath place = .ok archivePath ∧
      changed = { project with files := project.files.insert archivePath place } := by
  obtain ⟨place, archivePath, added⟩ := exists_withFile run
  obtain ⟨placed, chosen, assigned⟩ := withFile_eq_ok added
  exact ⟨place, archivePath, placed, chosen, assign_eq_ok assigned⟩

/-- A file that has an archive path of its own can be added. -/
theorem exists_addFile_apply {project changed : Project} {file : FilePlan} {world : World}
    {place archivePath : String}
    (added : project.withFile world.tree file = .ok (changed, place, archivePath)) :
    ∃ after, project.addFile file world = (.ok changed, after) := by
  have ran := addFile_apply project file world
  rw [added] at ran
  obtain ⟨entries, same⟩ := ran
  exact ⟨_, same⟩

/-! ## Runs of calls -/

/-- What a project was put together from: its workflows, and the archive paths and places of the
files that were added, in the order of the calls. -/
inductive Assembled : List Workflow → List (String × String) → Project → Prop
  /-- At first there is nothing in a project. -/
  | fresh {project : Project} (noWorkflows : project.workflows = [])
      (noFiles : project.files = .empty) : Assembled [] [] project
  /-- Properties and definitions may be assigned. -/
  | configured {workflows : List Workflow} {added : List (String × String)} {project : Project}
      (assembled : Assembled workflows added project) (properties : Value)
      (definitions : Definitions) :
      Assembled workflows added { project with properties, definitions }
  /-- Workflows that were added may be worked on, but keep their names. -/
  | grown {workflows later : List Workflow} {added : List (String × String)} {project : Project}
      (assembled : Assembled workflows added project)
      (sameNames : (later.map fun workflow => workflow.header.name) =
        workflows.map fun workflow => workflow.header.name) :
      Assembled later added { project with workflows := later }
  /-- A workflow is added. -/
  | workflow {workflows : List Workflow} {added : List (String × String)}
      {project changed : Project} (assembled : Assembled workflows added project)
      {workflow : Workflow} {world after : World}
      (run : project.addWorkflow workflow world = (.ok changed, after)) :
      Assembled (workflows ++ [workflow]) added changed
  /-- A file is added. -/
  | file {workflows : List Workflow} {added : List (String × String)} {project changed : Project}
      (assembled : Assembled workflows added project) {file : FilePlan} {world after : World}
      {place archivePath : String} (run : project.addFile file world = (.ok changed, after))
      (placed : project.place file.path = .ok place)
      (chosen : project.archivePath file.archivePath place = .ok archivePath) :
      Assembled workflows (added ++ [(archivePath, place)]) changed

variable {workflows : List Workflow} {added : List (String × String)}

/-- A project has the workflows that were added. -/
theorem Assembled.workflows_eq (assembled : Assembled workflows added project) :
    project.workflows = workflows := by
  induction assembled with
  | fresh noWorkflows _ => exact noWorkflows
  | configured _ _ _ inductionHypothesis => exact inductionHypothesis
  | grown => rfl
  | workflow _ run inductionHypothesis => rw [(addWorkflow_eq_ok run).2, inductionHypothesis]
  | file _ run _ _ inductionHypothesis =>
    obtain ⟨-, -, -, -, rfl⟩ := addFile_eq_ok run
    exact inductionHypothesis

/-- The workflows of a project have distinct names. -/
theorem Assembled.nodup_names (assembled : Assembled workflows added project) :
    project.workflowNames.Nodup := by
  induction assembled with
  | fresh noWorkflows _ => simp [workflowNames, noWorkflows]
  | configured _ _ _ inductionHypothesis => exact inductionHypothesis
  | grown assembled sameNames inductionHypothesis =>
    rw [workflowNames, assembled.workflows_eq, ← sameNames] at inductionHypothesis
    exact inductionHypothesis
  | @workflow _ _ project _ _ workflow _ _ run inductionHypothesis =>
    obtain ⟨fresh, rfl⟩ := addWorkflow_eq_ok run
    show ((project.workflows ++ [workflow]).map fun workflow => workflow.header.name).Nodup
    rw [List.map_append, List.map_singleton, ← List.concat_eq_append]
    exact inductionHypothesis.concat fresh
  | file _ run _ _ inductionHypothesis =>
    obtain ⟨-, -, -, -, rfl⟩ := addFile_eq_ok run
    exact inductionHypothesis

/-- Each archive path of a project belongs to the file that was added for it last. -/
theorem Assembled.files_eq (assembled : Assembled workflows added project) :
    project.files = .ofList added := by
  induction assembled with
  | fresh _ noFiles => exact noFiles
  | configured _ _ _ inductionHypothesis => exact inductionHypothesis
  | grown _ _ inductionHypothesis => exact inductionHypothesis
  | workflow _ run inductionHypothesis => rw [(addWorkflow_eq_ok run).2, inductionHypothesis]
  | file _ run placed chosen inductionHypothesis =>
    obtain ⟨place, archivePath, samePlace, samePath, rfl⟩ := addFile_eq_ok run
    obtain rfl := Except.ok.inj (placed.symm.trans samePlace)
    obtain rfl := Except.ok.inj (chosen.symm.trans samePath)
    rw [OrderedMap.ofList_concat, ← inductionHypothesis]

/-- The archive paths of a project are those that files were added for. -/
theorem Assembled.mem_keys_iff (assembled : Assembled workflows added project)
    (archivePath : String) :
    archivePath ∈ project.files.keys ↔ archivePath ∈ added.map Prod.fst := by
  rw [assembled.files_eq, OrderedMap.keys_ofList, List.mem_eraseDups]

/-- Archive paths are relative. -/
theorem Assembled.isAbsolute_eq_false (assembled : Assembled workflows added project) :
    ∀ archivePath ∈ added.map Prod.fst, Path.isAbsolute archivePath = false := by
  induction assembled with
  | fresh => simp
  | configured _ _ _ inductionHypothesis => exact inductionHypothesis
  | grown _ _ inductionHypothesis => exact inductionHypothesis
  | workflow _ _ inductionHypothesis => exact inductionHypothesis
  | file _ _ _ chosen inductionHypothesis =>
    simp only [List.map_append, List.map_singleton, List.mem_append, List.mem_singleton]
    rintro archivePath (before | rfl)
    · exact inductionHypothesis archivePath before
    · exact isAbsolute_archivePath chosen

end Project

end Jobflow
