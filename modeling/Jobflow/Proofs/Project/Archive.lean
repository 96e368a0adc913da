import Jobflow.Proofs.Files.FileTree
import Jobflow.Proofs.Flow.Shape
import Jobflow.Proofs.Names
import Jobflow.Proofs.Project.Assembly
import Jobflow.Proofs.Project.Compile
import Mathlib.Data.List.TakeWhile

/-!
# Building archives

Building an archive either refuses before anything is written, or replaces what is at its path by
the archive of the whole project. It is refused if something is in the way, if there are no
workflows, or if any workflow has no flow, in this order.

That the archive is complete rests on its names, on dates and on documents: a name with a null
character is cut there, a name can be left empty or be too long for the archive, a date can be one
that archives cannot show, and a flow can hold a value that has no document. Nothing checks these
before the archive is opened, so that what is stopped leaves the entries before it and nothing else.

An added file that is the archive itself, or the folder that it is put into, is left out of account:
building changes it before its entry is made. So is one that is no longer there.
-/

namespace Jobflow

/-! ## Names and dates in archives -/

namespace Zip

/-- A name that an archive keeps as it is. -/
structure Keeps (name : String) : Prop where
  /-- No null character ends it. -/
  noNull : '\x00' ∉ name.toList
  /-- It is not too long. -/
  fitting : fits name = true

/-- A year that the dates of an archive can have. -/
structure Counts (year : Nat) : Prop where
  /-- It is not before the first one. -/
  begun : firstYear ≤ year
  /-- It is not after the last one. -/
  ended : year ≤ lastYear

/-- A name without a null character is stored as it is. -/
theorem storedName_of_noNull {name : String} (noNull : '\x00' ∉ name.toList) :
    storedName name = name := by
  have all : name.toList.takeWhile (fun c => c != '\x00') = name.toList := by
    rw [List.takeWhile_eq_self_iff]
    intro c member
    exact bne_iff_ne.mpr fun same => noNull (same ▸ member)
  rw [storedName, all, String.ofList_toList]

end Zip

namespace Project

/-- The name of the entry that marks the archive of a project. -/
def markName (project : Project) : String := project.name ++ ".project"

/-- The name of the entry of a flow, given the name of its workflow. -/
def flowName (workflow : String) : String := workflow ++ ".flow"

/-- The name of the entry of a file, given its archive path. -/
def entryName (archivePath : String) (file : File) : String :=
  Path.normal archivePath ++ if file.isFolder then "/" else ""

/-! ## Single entries -/

variable {year : Nat} {name text archivePath : String} {file : File} {entry : String × File}

/-- An entry that is written has the name given. -/
theorem entryOf_eq_ok (written : entryOf year name file = .ok entry) : entry = (name, file) := by
  rw [entryOf] at written
  split at written
  · cases written
  · split at written
    · cases written
    · exact (Except.ok.inj written).symm

/-- An entry can be written under a name that fits in a year that is counted. -/
theorem entryOf_of_fits (counts : Zip.Counts year) (fitting : Zip.fits name = true) (file : File) :
    entryOf year name file = .ok (name, file) := by
  rw [entryOf, fitting, Bool.not_true, if_neg Bool.false_ne_true,
    if_neg (Nat.not_lt.mpr counts.ended)]

/-- A text that is written is stored under what its name leaves. -/
theorem textEntry_eq_ok (written : textEntry year name text = .ok entry) :
    entry = (Zip.storedName name, .text text) := by
  rw [textEntry] at written
  split at written
  · cases written
  · split at written
    · cases written
    · exact entryOf_eq_ok written

/-- A text can be written under a name that is kept. -/
theorem textEntry_of_keeps (counts : Zip.Counts year) (keeps : Zip.Keeps name)
    (nonempty : name ≠ "") (text : String) : textEntry year name text = .ok (name, .text text) := by
  have something : ¬ name.isEmpty = true := by
    rwa [String.isEmpty_iff]
  rw [textEntry, Zip.storedName_of_noNull keeps.noNull]
  rw [if_neg (Nat.not_lt.mpr counts.begun), if_neg something, entryOf_of_fits counts keeps.fitting]

/-- A file that is written is stored under what its archive path leaves. -/
theorem fileEntry_eq_ok (written : fileEntry year archivePath file = .ok entry) :
    entry.1 = Zip.storedName (entryName archivePath file) := by
  have named (name : String) (last : (if year < Zip.firstYear then .error { mishap := .badValue }
      else if Text.endsWith name "/" then entryOf year name .folder
      else if file.isFolder then .error { mishap := .isFolder }
      else entryOf year name file) = .ok entry) : entry.1 = name := by
    split at last
    · cases last
    · split at last
      · rw [entryOf_eq_ok last]
      · split at last
        · cases last
        · rw [entryOf_eq_ok last]
  exact named _ written

/-- Only a folder is one. -/
theorem eq_folder_of_isFolder (folder : file.isFolder = true) : file = .folder := by
  cases file with
  | folder => rfl
  | _ => cases folder

/-- The entry of an added file is that of what is found at its place. -/
theorem addedEntry_of_find {world : World} {added : String × String} {spot : List String}
    (found : world.tree.find "/" added.2 = .ok (spot, file)) :
    addedEntry world added = fileEntry (world.yearOf spot) added.1 file := by
  rw [addedEntry, found]
  rfl

/-- A file can be written under a relative archive path that is kept. -/
theorem fileEntry_of_keeps (counts : Zip.Counts year)
    (relative : Path.isAbsolute archivePath = false)
    (keeps : Zip.Keeps (entryName archivePath file)) :
    fileEntry year archivePath file = .ok (entryName archivePath file, file) := by
  have stored := Zip.storedName_of_noNull keeps.noNull
  have fitting := keeps.fitting
  unfold entryName at stored fitting ⊢
  rw [fileEntry, stored]
  rw [if_neg (Nat.not_lt.mpr counts.begun)]
  cases folder : file.isFolder with
  | true =>
    obtain rfl := eq_folder_of_isFolder folder
    rw [folder, if_pos rfl] at fitting
    rw [if_pos rfl, if_pos (Text.endsWith_append _ _), entryOf_of_fits counts fitting]
  | false =>
    rw [folder] at fitting
    rw [if_neg Bool.false_ne_true, String.append_empty] at fitting ⊢
    rw [if_neg (by simp [Path.endsWith_normal relative]), if_neg Bool.false_ne_true,
      entryOf_of_fits counts fitting]

/-! ## Writing -/

/-- Entries that nothing stops are all written. -/
theorem untilHalt_map_ok {α : Type} (values : List α) :
    untilHalt (values.map .ok) = (values, none) := by
  induction values with
  | nil => rfl
  | cons value rest inductionHypothesis => rw [List.map_cons, untilHalt, inductionHypothesis]

/-- Of entries one of which is stopped, those before it are written. -/
theorem untilHalt_append_error {α : Type} (values : List α) (halt : Halt)
    (rest : List (Except Halt α)) :
    untilHalt (values.map .ok ++ .error halt :: rest) = (values, some halt) := by
  induction values with
  | nil => rfl
  | cons value later inductionHypothesis =>
    rw [List.map_cons, List.cons_append, untilHalt, inductionHypothesis]

/-- If nothing is stopped, all are written. -/
theorem eq_map_ok_of_untilHalt {α : Type} {results : List (Except Halt α)}
    (none : (untilHalt results).2 = none) : results = (untilHalt results).1.map .ok := by
  induction results with
  | nil => rfl
  | cons result rest inductionHypothesis =>
    cases result with
    | error halt => cases none
    | ok value =>
      show .ok value :: rest = .ok value :: (untilHalt rest).1.map .ok
      exact congrArg _ (inductionHypothesis none)

/-- Writing an archive puts the entries before the first that is stopped at its path. -/
theorem writeArchive_apply (project : Project) (flows : List Flow) (path : String) (world : World) :
    project.writeArchive flows path world =
      let entries := untilHalt (project.archiveEntries flows world)
      match world.tree.write world.folder path (archiveFile entries.1 entries.2) with
      | .error mishap => (.error (.mishap mishap), world)
      | .ok tree =>
        match entries.2 with
        | some halt => (.error (.mishap halt.mishap), { world with tree })
        | none => (.ok (), { world with tree }) := by
  have present : (get : Action World) world = (.ok world, world) := rfl
  rw [writeArchive, Action.bind_of_ok _ present]
  rcases untilHalt (project.archiveEntries flows world) with ⟨entries, halt⟩
  dsimp only
  have written := Action.write_apply path (archiveFile entries halt) world
  cases result : world.tree.write world.folder path (archiveFile entries halt) with
  | error mishap =>
    rw [result] at written
    rw [Action.bind_of_error _ written]
  | ok tree =>
    rw [result] at written
    rw [Action.bind_of_ok _ written]
    cases halt <;> rfl

/-- An archive that is written whole has all entries, and its path leads to a place for it. -/
theorem writeArchive_eq_ok {project : Project} {flows : List Flow} {path : String}
    {world after : World} (written : project.writeArchive flows path world = (.ok (), after)) :
    ∃ place entries, world.tree.placeFor world.folder path = .ok place ∧
      project.archiveEntries flows world = entries.map .ok ∧
      after = { world with tree := world.tree.put place (.archive entries) } := by
  rw [writeArchive_apply] at written
  dsimp only at written
  cases found : world.tree.placeFor world.folder path with
  | error mishap => rw [FileTree.write, found] at written; cases written
  | ok place =>
    rw [FileTree.write, found] at written
    cases met : (untilHalt (project.archiveEntries flows world)).2 with
    | some halt => rw [met] at written; cases written
    | none =>
      rw [met] at written
      cases written
      exact ⟨place, _, rfl, eq_map_ok_of_untilHalt met, rfl⟩

/-! ## Building -/

/-- Whether something is in the way of an archive. -/
def Blocked (path : String) (overwrite : Bool) (world : World) : Prop :=
  world.tree.hasPath world.folder path = true ∧ overwrite = false

/-- Building starts with a look at what is in the way. -/
theorem build_apply (project : Project) (path : String) (overwrite : Bool) (world : World) :
    project.build path overwrite world =
      if world.tree.hasPath world.folder path && !overwrite then
        (.error (.refused (.pathExists path)), world)
      else if project.workflows.isEmpty then
        (.error (.refused (.noWorkflows project.name)), world)
      else
        (Action.ofLogged project.compile >>= fun flows => do
          project.writeArchive flows path
          project.log .info "Built %s flows and %s files into %s."
            [.ofNat flows.length, .ofNat project.files.size, .text path]) world := by
  have looked := Action.find?_apply path world
  have same : ((world.tree.find world.folder path).toOption.map Prod.snd).isSome =
      world.tree.hasPath world.folder path := by
    rw [FileTree.hasPath]
    cases world.tree.find world.folder path <;> rfl
  rw [build, Action.bind_of_ok _ looked, same]
  cases world.tree.hasPath world.folder path && !overwrite with
  | true => rfl
  | false => cases project.workflows.isEmpty <;> rfl

/-- If something is in the way, nothing else is looked at. -/
theorem build_of_blocked {project : Project} {path : String} {overwrite : Bool} {world : World}
    (blocked : Blocked path overwrite world) :
    project.build path overwrite world = (.error (.refused (.pathExists path)), world) := by
  rw [build_apply, blocked.1, blocked.2]
  rfl

/-- Without workflows there is nothing to build. -/
theorem build_of_noWorkflows {project : Project} {path : String} {overwrite : Bool} {world : World}
    (clear : ¬ Blocked path overwrite world) (noWorkflows : project.workflows = []) :
    project.build path overwrite world =
      (.error (.refused (.noWorkflows project.name)), world) := by
  have free : ¬ (world.tree.hasPath world.folder path && !overwrite) = true := by
    simpa [Blocked] using clear
  rw [build_apply, if_neg free, noWorkflows]
  rfl

/-- With workflows it depends on their flows what is built. -/
theorem exists_build_apply {project : Project} {path : String} {overwrite : Bool} {world : World}
    (clear : ¬ Blocked path overwrite world) (nonempty : project.workflows ≠ []) :
    ∃ notices later, project.build path overwrite world =
      match project.flows with
      | .error fault => (.error fault, world.logged notices)
      | .ok flows =>
        match project.writeArchive flows path (world.logged notices) with
        | (.error fault, after) => (.error fault, after)
        | (.ok (), after) => (.ok (), after.logged later) := by
  have free : ¬ (world.tree.hasPath world.folder path && !overwrite) = true := by
    simpa [Blocked] using clear
  have listed : ¬ project.workflows.isEmpty = true := by
    simpa using nonempty
  obtain ⟨notices, compiled⟩ := Action.exists_ofLogged_apply project.yields_compile world
  rw [build_apply, if_neg free, if_neg listed]
  cases result : project.flows with
  | error fault =>
    rw [result] at compiled
    exact ⟨notices, [], Action.bind_of_error _ compiled⟩
  | ok flows =>
    rw [result] at compiled
    rcases written : project.writeArchive flows path (world.logged notices) with ⟨outcome, after⟩
    cases outcome with
    | error fault =>
      refine ⟨notices, [], ?_⟩
      rw [Action.bind_of_ok _ compiled, Action.bind_of_error _ written]
      dsimp only
      rw [written]
    | ok _ =>
      obtain ⟨later, logged⟩ := project.exists_log_apply .info
        "Built %s flows and %s files into %s."
        [.ofNat flows.length, .ofNat project.files.size, .text path] after
      refine ⟨notices, later, ?_⟩
      rw [Action.bind_of_ok _ compiled, Action.bind_of_ok _ written]
      dsimp only
      rw [written]
      exact logged

/-- Nothing is written if something is in the way, there are no workflows, or one of them has no
flow; the first of these reasons is the one that is given. -/
theorem exists_build_refused {project : Project} {path : String} {overwrite : Bool} {world : World}
    (hindered : Blocked path overwrite world ∨ project.workflows = [] ∨
      ∃ workflow ∈ project.workflows, ∀ flow, ¬ project.CompilesTo workflow flow) :
    ∃ fault notices, project.build path overwrite world = (.error fault, world.logged notices) ∧
      (Blocked path overwrite world → fault = .refused (.pathExists path)) ∧
      (¬ Blocked path overwrite world → project.workflows = [] →
        fault = .refused (.noWorkflows project.name)) := by
  have unchanged : world = world.logged [] := by rw [World.logged, List.append_nil]
  by_cases blocked : Blocked path overwrite world
  · exact ⟨_, [], unchanged ▸ build_of_blocked blocked, fun _ => rfl,
      fun clear => absurd blocked clear⟩
  by_cases noWorkflows : project.workflows = []
  · exact ⟨_, [], unchanged ▸ build_of_noWorkflows blocked noWorkflows,
      fun other => absurd other blocked, fun _ _ => rfl⟩
  obtain ⟨workflow, member, defective⟩ := (hindered.resolve_left blocked).resolve_left noWorkflows
  obtain ⟨fault, result⟩ := exists_flows_error member defective
  obtain ⟨notices, later, built⟩ := exists_build_apply blocked noWorkflows
  rw [result] at built
  exact ⟨fault, notices, built, fun other => absurd other blocked,
    fun _ other => absurd other noWorkflows⟩

/-- Building changes nothing but the files and the log. -/
theorem exists_build_world (project : Project) (path : String) (overwrite : Bool) (world : World) :
    ∃ tree notices,
      (project.build path overwrite world).2 = { world with tree }.logged notices := by
  have unchanged : world = { world with tree := world.tree }.logged [] := by
    rw [World.logged, List.append_nil]
  by_cases blocked : Blocked path overwrite world
  · rw [build_of_blocked blocked]
    exact ⟨_, _, unchanged⟩
  by_cases noWorkflows : project.workflows = []
  · rw [build_of_noWorkflows blocked noWorkflows]
    exact ⟨_, _, unchanged⟩
  obtain ⟨notices, later, built⟩ := exists_build_apply blocked noWorkflows
  rw [built]
  cases project.flows with
  | error fault => exact ⟨world.tree, notices, rfl⟩
  | ok flows =>
    have written : ∃ tree, (project.writeArchive flows path (world.logged notices)).2 =
        { world with tree }.logged notices := by
      rw [writeArchive_apply]
      dsimp only
      split
      · exact ⟨world.tree, rfl⟩
      · split <;> exact ⟨_, rfl⟩
    obtain ⟨tree, after⟩ := written
    rcases ran : project.writeArchive flows path (world.logged notices) with ⟨fault | _, changed⟩
    · rw [ran] at after
      simp only [ran]
      exact ⟨tree, notices, after⟩
    · rw [ran] at after
      simp only [ran]
      exact ⟨tree, notices ++ later, by rw [← World.logged_logged, ← after]⟩

/-- If an archive was built, all workflows have flows, and the archive is found at its path. -/
theorem build_eq_ok {project : Project} {path : String} {overwrite : Bool} {world after : World}
    (built : project.build path overwrite world = (.ok (), after)) :
    (∀ workflow ∈ project.workflows, ∃ flow, project.CompilesTo workflow flow) ∧
      ∃ place entries, after.tree.find world.folder path = .ok (place, .archive entries) := by
  have clear : ¬ (Blocked path overwrite world ∨ project.workflows = [] ∨
      ∃ workflow ∈ project.workflows, ∀ flow, ¬ project.CompilesTo workflow flow) := by
    intro hindered
    obtain ⟨fault, notices, refused, -⟩ := exists_build_refused hindered
    rw [refused] at built
    cases built
  rw [not_or, not_or] at clear
  obtain ⟨free, nonempty, compile⟩ := clear
  obtain ⟨notices, later, steps⟩ := exists_build_apply free nonempty
  rw [steps] at built
  refine ⟨by simpa using compile, ?_⟩
  cases result : project.flows with
  | error fault => rw [result] at built; cases built
  | ok flows =>
    rw [result] at built
    rcases written : project.writeArchive flows path (world.logged notices) with
      ⟨fault | _, changed⟩
    · simp only [written] at built
      cases built
    · simp only [written] at built
      cases built
      obtain ⟨place, entries, found, -, rfl⟩ := writeArchive_eq_ok written
      exact ⟨place, entries, FileTree.find_put found _⟩

/-! ## What an archive holds -/

/-- An entry is that of a flow, with its document. -/
def PacksFlow (world : World) (flow : Flow) (entry : String × File) : Prop :=
  ∃ document, Yaml.render world.room flow.toValue = .ok document ∧
    entry = (flowName flow.name, .text document)

/-- An entry is that of the file that was added last for an archive path. A folder is marked by a
slash and holds nothing. -/
def PacksFile (added : List (String × String)) (world : World) (archivePath : String)
    (entry : String × File) : Prop :=
  ∃ place spot file, added.reverse.lookup archivePath = some place ∧
    world.tree.find "/" place = .ok (spot, file) ∧ entry = (entryName archivePath file, file)

/-- The entries of an archive are, in order, the one that marks it, one for the flow of each
workflow, and one for each archive path, in increasing order. -/
def Packs (project : Project) (added : List (String × String)) (world : World)
    (entries : List (String × File)) : Prop :=
  ∃ flows documents archivePaths files,
    entries = (project.markName, .text "azkaban-flow-version: 2.0\n") :: documents ++ files ∧
    List.Forall₂ project.CompilesTo project.workflows flows ∧
    List.Forall₂ (PacksFlow world) flows documents ∧
    archivePaths.Pairwise (· < ·) ∧
    (∀ archivePath, archivePath ∈ archivePaths ↔ archivePath ∈ added.map Prod.fst) ∧
    List.Forall₂ (PacksFile added world) archivePaths files

/-- The flow of a workflow can be packed: its name is kept, and it has a document. -/
structure PackableFlow (project : Project) (world : World) (workflow : Workflow) : Prop where
  /-- Its name is kept. -/
  keeps : Zip.Keeps (flowName workflow.header.name)
  /-- It has a document. -/
  document : ∀ flow, project.CompilesTo workflow flow →
    ∃ document, Yaml.render world.room flow.toValue = .ok document

/-- An added file can be packed: it is there, its name is kept, and its year counts. -/
structure PackableFile (world : World) (target : List String) (pair : String × String)
    (spot : List String) (file : File) : Prop where
  /-- It is there. -/
  found : world.tree.find "/" pair.2 = .ok (spot, file)
  /-- It is not where the archive is put. -/
  elsewhere : spot ≠ target
  /-- Its name is kept. -/
  keeps : Zip.Keeps (entryName pair.1 file)
  /-- Its year counts. -/
  counts : Zip.Counts (world.yearOf spot)

/-- A project can be packed at a place: archives keep the names of its entries and count their years,
its flows have documents, and its files are there, none of them at that place. -/
structure Packable (project : Project) (world : World) (target : List String) : Prop where
  /-- The present year counts. -/
  counts : Zip.Counts world.year
  /-- The mark has a name that is kept. -/
  mark : Zip.Keeps project.markName
  /-- The flows can be packed. -/
  flows : ∀ workflow ∈ project.workflows, project.PackableFlow world workflow
  /-- The files can be packed. -/
  files : ∀ pair ∈ project.files.entries, ∃ spot file, PackableFile world target pair spot file

/-- Opening an archive at a place touches no file of a project: they are there, none of them at that
place, and none is the folder of it. -/
def Untouched (project : Project) (world : World) (target : List String) : Prop :=
  ∀ pair ∈ project.files.entries, ∃ spot file, world.tree.find "/" pair.2 = .ok (spot, file) ∧
    spot ≠ target ∧ spot ≠ target.dropLast

variable {project : Project} {workflows : List Workflow} {added : List (String × String)}

/-- Sorted files have sorted archive paths. -/
theorem map_fst_sortedFiles (project : Project) :
    project.sortedFiles.map Prod.fst = Names.sorted project.files.keys :=
  List.map_mergeSort fun _ _ _ _ => rfl

/-- The entries of files that are there can be written. -/
theorem exists_file_entries {world : World} {target : List String} (pairs : List (String × String))
    (each : ∀ pair ∈ pairs, Path.isAbsolute pair.1 = false ∧
      added.reverse.lookup pair.1 = some pair.2 ∧
      ∃ spot file, PackableFile world target pair spot file) :
    ∃ files, pairs.map (addedEntry world) = files.map .ok ∧
      List.Forall₂ (PacksFile added world) (pairs.map Prod.fst) files := by
  induction pairs with
  | nil => exact ⟨[], rfl, .nil⟩
  | cons pair rest inductionHypothesis =>
    obtain ⟨⟨relative, last, spot, file, packable⟩, later⟩ := List.forall_mem_cons.mp each
    obtain ⟨files, written, packed⟩ := inductionHypothesis later
    have first : addedEntry world pair = .ok (entryName pair.1 file, file) :=
      (addedEntry_of_find packable.found).trans
        (fileEntry_of_keeps packable.counts relative packable.keeps)
    refine ⟨(entryName pair.1 file, file) :: files, ?_, ?_⟩
    · rw [List.map_cons, List.map_cons, first, written]
    · exact .cons ⟨pair.2, spot, file, last, packable.found, rfl⟩ packed

/-- The entries of flows can be written. -/
theorem exists_flow_entries {world : World} (counts : Zip.Counts world.year) {flows : List Flow}
    (compile : List.Forall₂ project.CompilesTo workflows flows)
    (packable : ∀ workflow ∈ workflows, project.PackableFlow world workflow) :
    ∃ documents, flows.map (flowEntry world) = documents.map .ok ∧
      List.Forall₂ (PacksFlow world) flows documents := by
  induction compile with
  | nil => exact ⟨[], rfl, .nil⟩
  | @cons workflow flow _ _ compiles _ inductionHypothesis =>
    obtain ⟨here, later⟩ := List.forall_mem_cons.mp packable
    obtain ⟨documents, written, packed⟩ := inductionHypothesis later
    obtain ⟨document, rendered⟩ := here.document flow compiles
    have keeps := here.keeps
    rw [← compiles.name] at keeps
    have first : flowEntry world flow = .ok (flowName flow.name, .text document) := by
      rw [flowEntry, rendered]
      exact textEntry_of_keeps counts keeps (by simp [flowName]) document
    refine ⟨(flowName flow.name, .text document) :: documents, ?_, ?_⟩
    · rw [List.map_cons, List.map_cons, first, written]
    · exact .cons ⟨document, rendered, rfl⟩ packed

/-- The entries of a project that can be packed are what an archive holds. -/
theorem exists_entries (assembled : Assembled workflows added project) {flows : List Flow}
    (compile : List.Forall₂ project.CompilesTo project.workflows flows) {world : World}
    {target : List String} (packable : project.Packable world target) :
    ∃ entries, project.archiveEntries flows world = entries.map .ok ∧
      project.Packs added world entries := by
  have mark : project.markEntry world =
      .ok (project.markName, .text "azkaban-flow-version: 2.0\n") :=
    textEntry_of_keeps packable.counts packable.mark (by simp [markName]) _
  have each : ∀ pair ∈ project.sortedFiles, Path.isAbsolute pair.1 = false ∧
      added.reverse.lookup pair.1 = some pair.2 ∧
      ∃ spot file, PackableFile world target pair spot file := by
    intro pair member
    have among : pair ∈ project.files.entries := List.mem_mergeSort.mp member
    have known : project.files.find? pair.1 = some pair.2 :=
      lookup_of_mem _ pair.1 pair.2 project.files.nodup among
    rw [assembled.files_eq, OrderedMap.find?_ofList] at known
    have named := (assembled.mem_keys_iff pair.1).mp (List.mem_map_of_mem among)
    exact ⟨assembled.isAbsolute_eq_false pair.1 named, known, packable.files pair among⟩
  obtain ⟨documents, rendered, flowsPacked⟩ :=
    exists_flow_entries packable.counts compile packable.flows
  obtain ⟨files, written, packed⟩ := exists_file_entries project.sortedFiles each
  refine ⟨_, ?_, flows, documents, _, files, rfl, compile, flowsPacked, ?_, ?_, packed⟩
  · rw [archiveEntries, mark, rendered, written, List.map_append, List.map_cons]
  · rw [map_fst_sortedFiles]
    exact Names.pairwise_lt_sorted project.files.nodup
  · intro archivePath
    rw [map_fst_sortedFiles, (Names.sorted_perm _).mem_iff, assembled.mem_keys_iff]

/-- Building writes the entries before the first that is stopped. -/
theorem exists_build_written {path : String} {overwrite : Bool} {world : World}
    (clear : ¬ Blocked path overwrite world) (nonempty : project.workflows ≠ []) {flows : List Flow}
    (compile : List.Forall₂ project.CompilesTo project.workflows flows) {place : List String}
    (free : world.tree.placeFor world.folder path = .ok place)
    {entries : List (String × File)} {halt : Option Halt}
    (written : untilHalt (project.archiveEntries flows world) = (entries, halt)) :
    ∃ notices, project.build path overwrite world =
      (match halt with
        | none => .ok ()
        | some halt => .error (.mishap halt.mishap),
        { world with tree := world.tree.put place (archiveFile entries halt) }.logged notices) := by
  obtain ⟨notices, later, built⟩ := exists_build_apply clear nonempty
  have stored : world.tree.write (world.logged notices).folder path (archiveFile entries halt) =
      .ok (world.tree.put place (archiveFile entries halt)) := by
    rw [World.logged_folder, FileTree.write, free]
    rfl
  rw [built, flows_of_compilesTo nonempty compile]
  dsimp only
  have same : project.archiveEntries flows (world.logged notices) =
      project.archiveEntries flows world := rfl
  rw [writeArchive_apply, World.logged_tree, same, written]
  dsimp only
  rw [stored]
  cases halt with
  | none =>
    refine ⟨notices ++ later, ?_⟩
    rw [← World.logged_logged]
    rfl
  | some halt => exact ⟨notices, rfl⟩

/-- Building an archive is all or nothing as long as the project can be packed. Nothing but the log
changes if something is in the way, there are no workflows, or any of them has no flow. Otherwise
the archive is all that changes: it is found at its path with the entries of the project. If one of
the entries is stopped, so is the build, and the archive has the entries before it, provided that
opening it touches no added file. -/
theorem build_all_or_nothing (assembled : Assembled workflows added project) (path : String)
    (overwrite : Bool) (world : World) :
    ((Blocked path overwrite world ∨ workflows = [] ∨
        ∃ workflow ∈ workflows, ∀ flow, ¬ project.CompilesTo workflow flow) →
      ∃ fault notices, project.build path overwrite world = (.error fault, world.logged notices) ∧
        (Blocked path overwrite world → fault = .refused (.pathExists path)) ∧
        (¬ Blocked path overwrite world → workflows = [] →
          fault = .refused (.noWorkflows project.name))) ∧
    (¬ Blocked path overwrite world → workflows ≠ [] →
      (∀ workflow ∈ workflows, ∃ flow, project.CompilesTo workflow flow) →
      ∀ place, world.tree.placeFor world.folder path = .ok place →
        (project.Packable world place →
          ∃ entries notices after, project.build path overwrite world =
              (.ok (), { world with tree := after }.logged notices) ∧
            after.find world.folder path = .ok (place, .archive entries) ∧
            (∀ other, FileTree.pathOf other ≠ FileTree.pathOf place →
              after.at? other = world.tree.at? other) ∧
            project.Packs added world entries) ∧
        ∀ flows entries halt rest, List.Forall₂ project.CompilesTo workflows flows →
          project.Untouched world place →
          project.archiveEntries flows world = entries.map .ok ++ .error halt :: rest →
          ∃ notices after, project.build path overwrite world =
              (.error (.mishap halt.mishap), { world with tree := after }.logged notices) ∧
            after.find world.folder path = .ok (place, archiveFile entries (some halt)) ∧
            ∀ other, FileTree.pathOf other ≠ FileTree.pathOf place →
              after.at? other = world.tree.at? other) := by
  refine ⟨?_, ?_⟩
  · intro hindered
    obtain rfl := assembled.workflows_eq
    exact exists_build_refused hindered
  · intro clear nonempty each place free
    obtain rfl := assembled.workflows_eq
    refine ⟨fun packable => ?_, fun flows entries halt rest compile _ stopped => ?_⟩
    · obtain ⟨flows, compile⟩ := exists_forall₂_compilesTo each
      obtain ⟨entries, written, packed⟩ := exists_entries assembled compile packable
      obtain ⟨notices, built⟩ := exists_build_written clear nonempty compile free
        (written ▸ untilHalt_map_ok entries)
      exact ⟨entries, notices, _, built, FileTree.find_put free _,
        fun other apart => FileTree.at?_put_other apart _, packed⟩
    · obtain ⟨notices, built⟩ := exists_build_written clear nonempty compile free
        (stopped ▸ untilHalt_append_error entries halt rest)
      exact ⟨notices, _, built, FileTree.find_put free _,
        fun other apart => FileTree.at?_put_other apart _⟩

/-! ## An archive that is replaced -/

/-- A world with an earlier archive and two scripts. -/
def workshop : World where
  folder := "/"
  tree :=
    { files := .ofList [("/load.zip", .text "earlier"), ("/run.sh", .text "echo run"),
        ("/stop.sh", .text "echo stop")] }

/-- The world with a script of a year that archives do not count. -/
def agedWorkshop : World :=
  { workshop with tree := { workshop.tree with years := .ofList [("/run.sh", 1979)] } }

/-- A project of one workflow. -/
def nightlyLoad : Project where
  name := "load"
  properties := .ofEntries [("day", .text "monday")]
  workflows := [Flow.nightly]

/-- The project with a script. -/
def scriptedLoad : Project := { nightlyLoad with files := .ofList [("bin/run.sh", "/run.sh")] }

/-- The workflow of the project has a flow. -/
theorem nightlyLoad_compiles : ∀ workflow ∈ [Flow.nightly], ∃ flow,
    nightlyLoad.CompilesTo workflow flow := by
  obtain ⟨flow, compiled⟩ := Flow.nightly_compiles
  intro workflow member
  obtain rfl := List.mem_singleton.mp member
  exact ⟨flow, _, rfl, compiled⟩

/-- The flow has a document. -/
theorem exists_document_nightly (project : Project)
    (same : project.properties = nightlyLoad.properties) (flow : Flow)
    (compiles : project.CompilesTo Flow.nightly flow) :
    ∃ document, Yaml.render 328 flow.toValue = .ok document := by
  obtain ⟨properties, given, compiled⟩ := compiles
  rw [same] at given
  cases given
  obtain ⟨-, rfl⟩ := (Flow.compileRun_eq_ok_iff _ _ _).mp compiled
  exact exists_of_isOk (by decide +kernel)

/-- The project comes about by adding its workflow, whatever it is called. -/
theorem assembled_nightlyLoad (name : String) :
    Assembled [Flow.nightly] [] { nightlyLoad with name } := by
  have fresh : Assembled [] [] { nightlyLoad with name, workflows := [] } := .fresh rfl rfl
  have new : Flow.nightly.header.name ∉
      ({ nightlyLoad with name, workflows := [] } : Project).workflowNames := List.not_mem_nil
  obtain ⟨after, run⟩ := exists_addWorkflow_apply new workshop
  exact .workflow fresh run

/-- The script is added to it. -/
theorem assembled_scriptedLoad :
    Assembled [Flow.nightly] [("bin/run.sh", "/run.sh")] scriptedLoad := by
  have added :
      nightlyLoad.withFile workshop.tree { path := "/run.sh", archivePath := "bin/run.sh" } =
      .ok (scriptedLoad, "/run.sh", "bin/run.sh") := rfl
  obtain ⟨after, run⟩ := exists_addFile_apply added
  exact .file (assembled_nightlyLoad "load") run rfl rfl

/-- The archive may be replaced. -/
theorem workshop_clear : ¬ Blocked "load.zip" true workshop := fun blocked => nomatch blocked.2

/-- The flow can be packed. -/
theorem packable_nightly (project : Project) (given : project.properties = nightlyLoad.properties)
    (world : World) (room : world.room = 328) :
    ∀ workflow ∈ [Flow.nightly], project.PackableFlow world workflow := by
  intro workflow member
  obtain rfl := List.mem_singleton.mp member
  exact ⟨⟨by decide, by decide⟩, room ▸ exists_document_nightly project given⟩

/-- The present year counts. -/
theorem counts_workshop : Zip.Counts workshop.year := ⟨by decide, by decide⟩

/-- A script can be packed. -/
theorem packable_script {pair : String × String} {spot : List String} {text : String}
    (found : workshop.tree.find "/" pair.2 = .ok (spot, .text text)) (elsewhere : spot ≠ ["load.zip"])
    (keeps : Zip.Keeps (entryName pair.1 (.text text))) :
    PackableFile workshop ["load.zip"] pair spot (.text text) :=
  { found, elsewhere, keeps, counts := counts_workshop }

/-- The project with the script can be packed. -/
theorem packable_scriptedLoad : scriptedLoad.Packable workshop ["load.zip"] := by
  refine ⟨counts_workshop, ⟨by decide, by decide⟩, packable_nightly scriptedLoad rfl _ rfl, ?_⟩
  intro pair member
  obtain rfl := List.mem_singleton.mp member
  exact ⟨["run.sh"], .text "echo run", packable_script rfl (by decide) ⟨by decide, by decide⟩⟩

/-- Opening its archive does not touch the script. -/
theorem untouched_scriptedLoad : scriptedLoad.Untouched agedWorkshop ["load.zip"] := by
  intro pair member
  obtain rfl := List.mem_singleton.mp member
  exact ⟨["run.sh"], .text "echo run", rfl, by decide, by decide⟩

/-- A script of a year that archives do not count stops its entry. -/
theorem aged_stops {flows : List Flow} {documents : List (String × File)}
    (rendered : flows.map (flowEntry agedWorkshop) = documents.map .ok) :
    scriptedLoad.archiveEntries flows agedWorkshop =
      (("load.project", .text "azkaban-flow-version: 2.0\n") :: documents).map .ok ++
        [.error { mishap := .badValue }] := by
  have mark : scriptedLoad.markEntry agedWorkshop =
      .ok ("load.project", .text "azkaban-flow-version: 2.0\n") := rfl
  have files : scriptedLoad.sortedFiles = [("bin/run.sh", "/run.sh")] :=
    List.mergeSort_singleton _
  have old : addedEntry agedWorkshop ("bin/run.sh", "/run.sh") =
      .error { mishap := .badValue } := rfl
  rw [archiveEntries, mark, rendered, files, List.map_singleton, old, List.map_cons,
    List.cons_append]

/-- The earlier archive is replaced by that of the project. If the script is of a year that archives
do not count, the archive ends before it. -/
theorem scriptedLoad_replaces :
    (∃ entries notices after, scriptedLoad.build "load.zip" true workshop =
        (.ok (), { workshop with tree := after }.logged notices) ∧
      after.find "/" "load.zip" = .ok (["load.zip"], .archive entries) ∧
      scriptedLoad.Packs [("bin/run.sh", "/run.sh")] workshop entries) ∧
    ∃ documents notices after, scriptedLoad.build "load.zip" true agedWorkshop =
        (.error (.mishap .badValue), { agedWorkshop with tree := after }.logged notices) ∧
      after.find "/" "load.zip" = .ok (["load.zip"],
        .archive (("load.project", .text "azkaban-flow-version: 2.0\n") :: documents)) := by
  have builds (world : World) := build_all_or_nothing assembled_scriptedLoad "load.zip" true world
  constructor
  · obtain ⟨entries, notices, after, built, found, -, packed⟩ :=
      ((builds workshop).2 workshop_clear (List.cons_ne_nil _ _) nightlyLoad_compiles ["load.zip"]
        rfl).1 packable_scriptedLoad
    exact ⟨entries, notices, after, built, found, packed⟩
  · obtain ⟨flows, compile⟩ := exists_forall₂_compilesTo nightlyLoad_compiles
    have counts : Zip.Counts agedWorkshop.year := counts_workshop
    obtain ⟨documents, rendered, -⟩ :=
      exists_flow_entries counts compile (packable_nightly nightlyLoad rfl _ rfl)
    obtain ⟨notices, after, built, found, -⟩ :=
      ((builds agedWorkshop).2 (fun blocked => nomatch blocked.2) (List.cons_ne_nil _ _)
        nightlyLoad_compiles ["load.zip"] rfl).2 flows _ _ _ compile untouched_scriptedLoad
          (aged_stops rendered)
    exact ⟨documents, notices, after, built, found⟩

/-- The same project under a name with a null character at its end. -/
def nullNamed : Project := { nightlyLoad with name := "load\x00" }

/-- The null character cuts the name of the mark: the archive is built, but nothing marks it. -/
theorem nullNamed_unmarked : Assembled [Flow.nightly] [] nullNamed ∧
    (∀ workflow ∈ [Flow.nightly], ∃ flow, nullNamed.CompilesTo workflow flow) ∧
    workshop.tree.placeFor "/" "load.zip" = .ok ["load.zip"] ∧
    ∃ entries notices, nullNamed.build "load.zip" true workshop =
        (.ok (), { workshop with
          tree := workshop.tree.put ["load.zip"] (.archive entries) }.logged notices) ∧
      ¬ nullNamed.Packs [] workshop entries := by
  have each : ∀ workflow ∈ [Flow.nightly], ∃ flow, nullNamed.CompilesTo workflow flow :=
    nightlyLoad_compiles
  obtain ⟨flows, compile⟩ := exists_forall₂_compilesTo each
  obtain ⟨documents, rendered, -⟩ :=
    exists_flow_entries counts_workshop compile (packable_nightly nullNamed rfl _ rfl)
  have written : nullNamed.archiveEntries flows workshop =
      (("load", .text "azkaban-flow-version: 2.0\n") :: documents).map .ok := by
    have mark : nullNamed.markEntry workshop =
        .ok ("load", .text "azkaban-flow-version: 2.0\n") := rfl
    have noFiles : nullNamed.sortedFiles = [] := List.mergeSort_nil
    rw [archiveEntries, mark, rendered, noFiles, List.map_nil, List.append_nil, List.map_cons]
  obtain ⟨notices, built⟩ := exists_build_written workshop_clear (List.cons_ne_nil _ _) compile rfl
    (written ▸ untilHalt_map_ok _)
  refine ⟨assembled_nightlyLoad _, each, rfl, _, notices, built, ?_⟩
  rintro ⟨_, _, _, _, same, -⟩
  have marks : "load" = nullNamed.markName := congrArg Prod.fst (List.cons.inj same).1
  exact absurd marks (by decide)

end Project

end Jobflow
