import Jobflow.Proofs.Project.Archive

/-!
# Names in archives

An archive that is built has one entry for its mark, one for each flow and one for each added
file. The mark and the flows never share a name. An added file is stored under the normal form of
its archive path, and calls that add files compare archive paths as they are given: the name of a
file is that of another entry exactly if another archive path has the same normal form, or if the
normal form is the name of the mark or of a flow. Nothing keeps a project from that.

Names of projects and workflows are taken to have no null character, which would cut them.
-/

namespace Jobflow.Project

variable {project : Project} {workflows : List Workflow} {added : List (String × String)}

/-- The name that an added file is stored under: its archive path in normal form, with a slash at
the end if it is a folder. -/
def storedPath (tree : FileTree) (pair : String × String) : String :=
  Zip.storedName (Path.normal pair.1 ++ if tree.hasFolder "/" pair.2 then "/" else "")

/-! ## Archives that were built -/

/-- If every workflow of a project has a flow in a list, every workflow is compiled to its own. -/
theorem forall₂_of_flows {flows : List Flow} (nonempty : project.workflows ≠ [])
    (compiled : project.flows = .ok flows) :
    List.Forall₂ project.CompilesTo project.workflows flows := by
  have each : ∀ workflow ∈ project.workflows, ∃ flow, project.CompilesTo workflow flow := by
    intro workflow member
    by_contra none
    obtain ⟨fault, failed⟩ := exists_flows_error member (not_exists.mp none)
    rw [compiled] at failed
    cases failed
  obtain ⟨others, compile⟩ := exists_forall₂_compilesTo each
  have same := (flows_of_compilesTo nonempty compile).symm.trans compiled
  exact Except.ok.inj same ▸ compile

/-- An archive that was built is found at its path, with the flows of the project. -/
theorem exists_of_build_ok {path : String} {overwrite : Bool} {world after : World}
    (built : project.build path overwrite world = (.ok (), after)) :
    ∃ place flows entries, List.Forall₂ project.CompilesTo project.workflows flows ∧
      project.archiveEntries flows world = entries.map .ok ∧
      after.tree.find world.folder path = .ok (place, .archive entries) := by
  by_cases blocked : Blocked path overwrite world
  · rw [build_of_blocked blocked] at built
    cases built
  by_cases noWorkflows : project.workflows = []
  · rw [build_of_noWorkflows blocked noWorkflows] at built
    cases built
  obtain ⟨notices, later, same⟩ := exists_build_apply blocked noWorkflows
  rw [same] at built
  cases compiled : project.flows with
  | error fault => rw [compiled] at built; cases built
  | ok flows =>
    rw [compiled] at built
    rcases run : project.writeArchive flows path (world.logged notices) with ⟨result, middle⟩
    dsimp only at built
    rw [run] at built
    cases result with
    | error fault => cases built
    | ok _ =>
      cases built
      obtain ⟨place, entries, free, written, rfl⟩ := writeArchive_eq_ok run
      exact ⟨place, flows, entries, forall₂_of_flows noWorkflows compiled, written,
        FileTree.find_put free _⟩

/-! ## Names of entries -/

/-- An entry has a name, if it is written. -/
def EntryNamed (name : String) (result : Except Halt (String × File)) : Prop :=
  ∀ entry, result = .ok entry → entry.1 = name

/-- Entries that are all written have their names. -/
theorem map_fst_of_entryNamed {names : List String} {entries : List (String × File)}
    (named : List.Forall₂ EntryNamed names (entries.map .ok)) : entries.map Prod.fst = names := by
  rw [List.forall₂_map_right_iff] at named
  induction named with
  | nil => rfl
  | @cons name entry _ _ here _ inductionHypothesis =>
    rw [List.map_cons, inductionHypothesis, here entry rfl]

/-- The entry of a text has the name given, if nothing cuts it. -/
theorem entryNamed_textEntry {year : Nat} {name text : String} (noNull : '\x00' ∉ name.toList) :
    EntryNamed name (textEntry year name text) := by
  intro entry written
  rw [textEntry_eq_ok written, Zip.storedName_of_noNull noNull]

/-- The entry of a flow has its name, if nothing cuts it. -/
theorem entryNamed_flowEntry (world : World) {flow : Flow}
    (noNull : '\x00' ∉ (flowName flow.name).toList) :
    EntryNamed (flowName flow.name) (flowEntry world flow) := by
  intro entry written
  obtain ⟨document, -, stored⟩ := exists_of_bind_eq_ok written
  exact entryNamed_textEntry noNull entry stored

/-- The entry of an added file has the name that it is stored under. -/
theorem entryNamed_addedEntry (world : World) (pair : String × String) :
    EntryNamed (storedPath world.tree pair) (addedEntry world pair) := by
  intro entry written
  cases found : world.tree.find "/" pair.2 with
  | error mishap => rw [addedEntry, found] at written; cases written
  | ok result =>
    obtain ⟨spot, file⟩ := result
    rw [addedEntry_of_find found] at written
    have folder : world.tree.hasFolder "/" pair.2 = file.isFolder := by
      rw [FileTree.hasFolder, found]
      cases file <;> rfl
    rw [fileEntry_eq_ok written, storedPath, folder, entryName]

/-- Names have no null character if their beginnings have none. -/
theorem noNull_append {name ending : String} (noNull : '\x00' ∉ name.toList)
    (ended : '\x00' ∉ ending.toList) : '\x00' ∉ (name ++ ending).toList := by
  rw [String.toList_append, List.mem_append]
  exact fun member => member.elim noNull ended

/-- The names of a project and of its workflows have no null character. -/
structure Plain (project : Project) : Prop where
  /-- The name of the project has none. -/
  own : '\x00' ∉ project.name.toList
  /-- The name of a workflow has none. -/
  workflows : ∀ workflow ∈ project.workflows, '\x00' ∉ workflow.header.name.toList

/-- The names that the entries of an archive have: first the mark and the flows. -/
def fixedNames (project : Project) : List String :=
  project.markName :: project.workflowNames.map flowName

/-- The entries of an archive are named after the mark, the flows and the added files. -/
theorem forall₂_entryNamed (plain : project.Plain) {flows : List Flow}
    (compile : List.Forall₂ project.CompilesTo project.workflows flows) (world : World) :
    List.Forall₂ EntryNamed (project.fixedNames ++ project.sortedFiles.map (storedPath world.tree))
      (project.archiveEntries flows world) := by
  have mark : EntryNamed project.markName (project.markEntry world) :=
    entryNamed_textEntry (noNull_append plain.own (by decide))
  have flowNames : List.Forall₂ EntryNamed (project.workflowNames.map flowName)
      (flows.map (flowEntry world)) := by
    rw [workflowNames, List.map_map, List.forall₂_map_left_iff, List.forall₂_map_right_iff]
    refine ((List.forall₂_and_left _ _).mpr ⟨plain.workflows, compile⟩).imp ?_
    rintro workflow flow ⟨noNull, compiles⟩
    rw [← compiles.name] at noNull
    rw [Function.comp_apply, ← compiles.name]
    exact entryNamed_flowEntry world (noNull_append noNull (by decide))
  have files : List.Forall₂ EntryNamed (project.sortedFiles.map (storedPath world.tree))
      (project.sortedFiles.map (addedEntry world)) := by
    rw [List.forall₂_map_left_iff, List.forall₂_map_right_iff, List.forall₂_same]
    exact fun pair _ => entryNamed_addedEntry world pair
  exact List.rel_append (.cons mark flowNames) files

/-! ## Distinct names -/

/-- The mark and the flows have distinct names. -/
theorem nodup_fixedNames (distinct : project.workflowNames.Nodup) : project.fixedNames.Nodup := by
  rw [fixedNames, List.nodup_cons]
  constructor
  · intro member
    obtain ⟨name, -, same⟩ := List.mem_map.mp member
    have last := congrArg (fun text : String => text.toList.getLast?) same
    simp [flowName, markName] at last
  · exact distinct.map fun name other same => (String.append_left_inj ".flow").mp same

/-- Files are added to fixed names without repetition exactly if they have names of their own. -/
theorem nodup_append_map_iff {α : Type} {fixed : List String} {files : List α} {name : α → String}
    (distinct : fixed.Nodup) (once : files.Nodup) :
    (fixed ++ files.map name).Nodup ↔
      (∀ file ∈ files, ∀ other ∈ files, name file = name other → file = other) ∧
        ∀ file ∈ files, name file ∉ fixed := by
  rw [List.nodup_append', List.nodup_map_iff_inj_on once, and_iff_right distinct]
  refine and_congr_right fun _ => ⟨?_, ?_⟩
  · intro disjoint file member among
    exact List.disjoint_left.mp disjoint among (List.mem_map_of_mem member)
  · intro apart
    refine List.disjoint_left.mpr fun other among member => ?_
    obtain ⟨file, inside, rfl⟩ := List.mem_map.mp member
    exact apart file inside among

/-- No added file is stored twice. -/
theorem nodup_sortedFiles (project : Project) : project.sortedFiles.Nodup :=
  (List.mergeSort_perm _ _).nodup_iff.mpr project.files.nodup.of_map

/-- No two added files share a name, and none has the name of the mark or of a flow. -/
structure Unshadowed (project : Project) (tree : FileTree) : Prop where
  /-- Different files have different names. -/
  apart : ∀ pair ∈ project.files.entries, ∀ other ∈ project.files.entries,
    storedPath tree pair = storedPath tree other → pair = other
  /-- No file is named like the mark. -/
  mark : ∀ pair ∈ project.files.entries, storedPath tree pair ≠ project.markName
  /-- No file is named like a flow. -/
  flows : ∀ pair ∈ project.files.entries, ∀ workflow ∈ project.workflows,
    storedPath tree pair ≠ flowName workflow.header.name

/-- The names of the entries of an archive are distinct exactly if no added file shadows another
entry. -/
theorem nodup_names_iff (project : Project) (distinct : project.workflowNames.Nodup)
    (tree : FileTree) :
    (project.fixedNames ++ project.sortedFiles.map (storedPath tree)).Nodup ↔
      project.Unshadowed tree := by
  rw [nodup_append_map_iff (nodup_fixedNames distinct) (nodup_sortedFiles project)]
  have listed (pair : String × String) :
      pair ∈ project.sortedFiles ↔ pair ∈ project.files.entries := List.mem_mergeSort
  have fixed (name : String) : name ∉ project.fixedNames ↔
      name ≠ project.markName ∧
        ∀ workflow ∈ project.workflows, name ≠ flowName workflow.header.name := by
    simp [fixedNames, workflowNames, eq_comm]
  simp only [listed, fixed]
  constructor
  · rintro ⟨apart, outside⟩
    exact
      { apart
        mark := fun pair member => (outside pair member).1
        flows := fun pair member => (outside pair member).2 }
  · intro alone
    exact ⟨alone.apart, fun pair member => ⟨alone.mark pair member, alone.flows pair member⟩⟩

/-- However a project came about, the archive that is built of it has an entry for its mark, for
each flow and for each added file, under their names. The mark and the flows never share a name,
and the names of all entries are distinct exactly if no added file shadows another entry. -/
theorem build_names (assembled : Assembled workflows added project) (plain : project.Plain)
    {path : String} {overwrite : Bool} {world after : World}
    (built : project.build path overwrite world = (.ok (), after)) :
    ∃ place entries, after.tree.find world.folder path = .ok (place, .archive entries) ∧
      entries.map Prod.fst = project.fixedNames ++ project.sortedFiles.map (storedPath world.tree) ∧
      project.fixedNames.Nodup ∧
      ((entries.map Prod.fst).Nodup ↔ project.Unshadowed world.tree) := by
  obtain ⟨place, flows, entries, compile, written, found⟩ := exists_of_build_ok built
  have named := forall₂_entryNamed plain compile world
  rw [written] at named
  have names := map_fst_of_entryNamed named
  refine ⟨place, entries, found, names, nodup_fixedNames assembled.nodup_names, ?_⟩
  rw [names]
  exact nodup_names_iff project assembled.nodup_names world.tree

/-- The project with one script has distinct names in its archive. -/
theorem scriptedLoad_unshadowed : ∃ after, scriptedLoad.build "load.zip" true workshop =
      (.ok (), after) ∧
    ∃ place entries, after.tree.find "/" "load.zip" = .ok (place, .archive entries) ∧
      (entries.map Prod.fst).Nodup := by
  have each : ∀ workflow ∈ scriptedLoad.workflows, ∃ flow, scriptedLoad.CompilesTo workflow flow :=
    nightlyLoad_compiles
  obtain ⟨flows, compile⟩ := exists_forall₂_compilesTo each
  obtain ⟨entries, written, -⟩ :=
    exists_entries assembled_scriptedLoad compile packable_scriptedLoad
  obtain ⟨notices, built⟩ :=
    exists_build_written workshop_clear (List.cons_ne_nil _ _) compile rfl
      (written ▸ untilHalt_map_ok entries)
  have plain : scriptedLoad.Plain := ⟨by decide, by decide⟩
  have alone : scriptedLoad.Unshadowed workshop.tree := ⟨by decide, by decide, by decide⟩
  obtain ⟨place, entries, found, -, -, distinct⟩ := build_names assembled_scriptedLoad plain built
  exact ⟨_, built, place, entries, found, distinct.mpr alone⟩

/-! ## Two scripts in one place -/

/-- The project with two scripts whose archive paths have one normal form. -/
def doubledLoad : Project :=
  { nightlyLoad with files := .ofList [("x", "/run.sh"), ("./x", "/stop.sh")] }

/-- Both scripts can be added: their archive paths are compared as they are given. -/
theorem assembled_doubledLoad :
    Assembled [Flow.nightly] [("x", "/run.sh"), ("./x", "/stop.sh")] doubledLoad := by
  let single : Project := { nightlyLoad with files := .ofList [("x", "/run.sh")] }
  have first : nightlyLoad.withFile workshop.tree { path := "/run.sh", archivePath := "x" } =
      .ok (single, "/run.sh", "x") := rfl
  have second : single.withFile workshop.tree { path := "/stop.sh", archivePath := "./x" } =
      .ok (doubledLoad, "/stop.sh", "./x") := rfl
  obtain ⟨_, run⟩ := exists_addFile_apply first
  obtain ⟨_, again⟩ := exists_addFile_apply second
  exact .file (.file (assembled_nightlyLoad "load") run rfl rfl) again rfl rfl

/-- The archive of the project has two entries of one name. -/
theorem doubledLoad_shadows :
    Assembled [Flow.nightly] [("x", "/run.sh"), ("./x", "/stop.sh")] doubledLoad ∧
    ∃ entries notices, doubledLoad.build "load.zip" true workshop =
        (.ok (), { workshop with
          tree := workshop.tree.put ["load.zip"] (.archive entries) }.logged notices) ∧
      ¬ (entries.map Prod.fst).Nodup := by
  have packable : doubledLoad.Packable workshop ["load.zip"] := by
    refine ⟨counts_workshop, ⟨by decide, by decide⟩, packable_nightly doubledLoad rfl _ rfl, ?_⟩
    intro pair member
    rcases List.mem_pair.mp member with rfl | rfl
    · exact ⟨["run.sh"], .text "echo run", packable_script rfl (by decide) ⟨by decide, by decide⟩⟩
    · exact ⟨["stop.sh"], .text "echo stop", packable_script rfl (by decide) ⟨by decide, by decide⟩⟩
  have each : ∀ workflow ∈ doubledLoad.workflows, ∃ flow, doubledLoad.CompilesTo workflow flow :=
    nightlyLoad_compiles
  obtain ⟨flows, compile⟩ := exists_forall₂_compilesTo each
  obtain ⟨entries, written, -⟩ := exists_entries assembled_doubledLoad compile packable
  obtain ⟨notices, built⟩ :=
    exists_build_written workshop_clear (List.cons_ne_nil _ _) compile rfl
      (written ▸ untilHalt_map_ok entries)
  refine ⟨assembled_doubledLoad, entries, notices, built, ?_⟩
  have plain : doubledLoad.Plain := ⟨by decide, by decide⟩
  have named := forall₂_entryNamed plain compile workshop
  rw [written] at named
  rw [map_fst_of_entryNamed named, nodup_names_iff doubledLoad (by decide)]
  intro alone
  exact absurd (alone.apart ("x", "/run.sh") (by decide) ("./x", "/stop.sh") (by decide) rfl)
    (by decide)

end Jobflow.Project
