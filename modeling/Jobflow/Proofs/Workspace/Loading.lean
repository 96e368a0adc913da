import Jobflow.Proofs.Action
import Jobflow.Proofs.Workspace.Growth

/-!
# Loading modules

A module is imported by carrying out its plans one after the other, until one of them or the module
itself stops with an error. While this goes on its projects are registered apart from the others.
If the import comes to its end then they override the registered projects; a module that was
imported before makes nothing again. However the import ends, the folders that modules are looked
for in are as before, and if it fails the whole registry is.

The laws follow the program from inside: a plan, the plans of a module, an import, an import whose
projects are captured, a call, and any number of calls.
-/

namespace Jobflow

/-- Projects with their names. -/
def named (projects : List Project) : List (String × Project) :=
  projects.map fun project => (project.name, project)

/-- The project of a plan if it is to be registered, and else none. -/
def ProjectPlan.registers (plan : ProjectPlan) (project : Project) : List Project :=
  if plan.register then [project] else []

/-- Carrying out plans whose module is in a file makes a project each, of which the ones that are to
be registered are given, in the order in which they are made. -/
inductive Makes (moduleFile : String) : List ProjectPlan → World → List Project → World → Prop
  /-- No plans make no projects. -/
  | none (world : World) : Makes moduleFile [] world [] world
  /-- A project is made after the other. -/
  | one {plan : ProjectPlan} {rest : List ProjectPlan} {world next after : World}
      {project : Project} {projects : List Project}
      (run : plan.make moduleFile world = (.ok project, next))
      (later : Makes moduleFile rest next projects after) :
      Makes moduleFile (plan :: rest) world (plan.registers project ++ projects) after

/-- Importing the module of a name comes to some registered projects, where some modules were
imported before and others are looked for in some folders. -/
inductive Imports (imported folders : List String) (name : String) (world : World) :
    List Project → World → Prop
  /-- A module that was imported before makes nothing again. -/
  | again (known : name ∈ imported) : Imports imported folders name world [] world
  /-- A module is found, its plans are carried out, and nothing stops it. -/
  | run {file : String} {plan : ModulePlan} {projects : List Project} {after : World}
      (fresh : name ∉ imported) (proper : ModulePlace.nameMishap? name = none)
      (found : ModulePlace.find? world.tree folders name = some (file, plan))
      (makes : Makes file plan.projects world projects after) (ends : plan.stop = none) :
      Imports imported folders name world projects after

namespace Workspace

/-- A workspace with further projects, registered one after the other. -/
def keepAll (space : Workspace) (projects : List Project) : Workspace :=
  projects.foldl Workspace.keep space

variable {space : Workspace}

/-- Further projects take no other one's place. -/
theorem grows_keepAll (space : Workspace) (projects : List Project) :
    Grows space (space.keepAll projects) := by
  induction projects generalizing space with
  | nil => exact grows_with space space.world space.registry
  | cons project rest inductionHypothesis =>
    exact (grows_keep space project).trans (inductionHypothesis (space.keep project))

/-- Projects that are registered one after the other override those that were registered. -/
theorem Knows.keepAll {registered : OrderedMap Project} (knows : space.Knows registered)
    (projects : List Project) :
    (space.keepAll projects).Knows (registered.insertAll (named projects)) := by
  induction projects generalizing space registered with
  | nil => exact knows
  | cons project rest inductionHypothesis => exact inductionHypothesis (knows.keep project)

/-- Registering projects changes nothing else in the registry. -/
theorem keepAll_registry (space : Workspace) (projects : List Project) :
    (space.keepAll projects).registry =
      { space.registry with projects := (space.keepAll projects).registry.projects } := by
  induction projects generalizing space with
  | nil => rfl
  | cons project rest inductionHypothesis => exact inductionHypothesis (space.keep project)

/-- Registering projects does not matter to the world. -/
theorem keepAll_with_world (space : Workspace) (world : World) (projects : List Project) :
    { space.keepAll projects with world } = { space with world }.keepAll projects := by
  induction projects generalizing space with
  | nil => rfl
  | cons project rest inductionHypothesis => exact inductionHypothesis (space.keep project)

/-- A workspace that remembers that the module of a name was imported. -/
def noting (space : Workspace) (name : String) : Workspace :=
  if name ∈ space.registry.imported then space
  else { space with registry :=
    { space.registry with imported := name :: space.registry.imported } }

/-- What was imported does not matter to the objects of a workspace. -/
theorem grows_noting (space : Workspace) (name : String) : Grows space (space.noting name) := by
  unfold noting
  split
  · exact grows_with space space.world space.registry
  · exact grows_with space space.world _

/-- Apart from what was imported, the registry stays as it was. -/
theorem noting_registry (space : Workspace) (name : String) :
    (space.noting name).registry =
      { space.registry with imported := (space.noting name).registry.imported } := by
  unfold noting
  split <;> rfl

/-- One more module was imported. -/
theorem mem_imported_noting_iff (name other : String) :
    other ∈ (space.noting name).registry.imported ↔
      other ∈ space.registry.imported ∨ other = name := by
  unfold noting
  split
  · next known => exact ⟨.inl, fun either => either.elim id (· ▸ known)⟩
  · exact List.mem_cons.trans or_comm

end Workspace

namespace Work

open Workspace

variable {space : Workspace}

/-! ## Carrying out plans -/

/-- Carrying out a plan comes to a project, which is kept if it is to be registered, or it stops. -/
theorem makeProject_apply (moduleFile : String) (plan : ProjectPlan) (space : Workspace) :
    makeProject moduleFile plan space =
      match plan.make moduleFile space.world with
      | (.ok project, world) => (.ok (), { space with world }.keepAll (plan.registers project))
      | (.error fault, world) => (.error fault, { space with world }) := by
  rcases run : plan.make moduleFile space.world with ⟨result, world⟩
  have acted : act (plan.make moduleFile) space = (result, { space with world }) := by
    rw [act, run]
  unfold makeProject ProjectPlan.registers
  cases result with
  | error fault => rw [bind_eq_of_error _ acted]
  | ok project =>
    rw [bind_eq_of_ok _ acted]
    cases plan.register <;> rfl

/-- The plans of a module either make projects, which are kept, or stop at some point. -/
theorem forM_makeProject_cases (moduleFile : String) (plans : List ProjectPlan)
    (space : Workspace) :
    (∃ projects world, Makes moduleFile plans space.world projects world ∧
        plans.forM (makeProject moduleFile) space =
          (.ok (), { space with world }.keepAll projects)) ∨
      (∀ projects world, ¬ Makes moduleFile plans space.world projects world) ∧
        ∃ fault projects world, plans.forM (makeProject moduleFile) space =
          (.error fault, { space with world }.keepAll projects) := by
  induction plans generalizing space with
  | nil => exact .inl ⟨[], space.world, .none _, rfl⟩
  | cons plan rest inductionHypothesis =>
    have unrolled : (plan :: rest).forM (makeProject moduleFile) =
        makeProject moduleFile plan >>= fun _ => rest.forM (makeProject moduleFile) := rfl
    have first := makeProject_apply moduleFile plan space
    rcases run : plan.make moduleFile space.world with ⟨result, next⟩
    rw [run] at first
    rw [unrolled]
    cases result with
    | error fault =>
      refine .inr ⟨?_, fault, [], next, bind_eq_of_error _ first⟩
      rintro _ _ (_ | ⟨same, -⟩)
      cases run.symm.trans same
    | ok project =>
      -- The other plans go on where this one led, with its project registered already.
      dsimp only at first
      rw [← keepAll_with_world] at first
      rw [bind_eq_of_ok _ first]
      have joined (projects : List Project) (world : World) :
          { space with world }.keepAll (plan.registers project ++ projects) =
            { { space.keepAll (plan.registers project) with world := next } with world }.keepAll
              projects := by
        rw [keepAll, List.foldl_append]
        exact congrArg (List.foldl keep · projects)
          (keepAll_with_world space world (plan.registers project)).symm
      rcases inductionHypothesis { space.keepAll (plan.registers project) with world := next } with
        ⟨projects, world, makes, ran⟩ | ⟨never, fault, projects, world, ran⟩
      · exact .inl ⟨_, world, .one run makes, ran.trans (by rw [joined])⟩
      · refine .inr ⟨?_, fault, plan.registers project ++ projects, world,
          ran.trans (by rw [joined])⟩
        rintro _ after (_ | ⟨same, later⟩)
        cases run.symm.trans same
        exact never _ after later

/-- A module either registers the projects of its plans or stops at some point. -/
theorem runModule_cases (plan : ModulePlan) (moduleFile : String) (space : Workspace) :
    (∃ projects world, plan.stop = none ∧
        Makes moduleFile plan.projects space.world projects world ∧
        runModule plan moduleFile space = (.ok (), { space with world }.keepAll projects)) ∨
      (∀ projects world, ¬ (plan.stop = none ∧
          Makes moduleFile plan.projects space.world projects world)) ∧
        ∃ fault projects world, runModule plan moduleFile space =
          (.error fault, { space with world }.keepAll projects) := by
  rcases forM_makeProject_cases moduleFile plan.projects space with
    ⟨projects, world, makes, ran⟩ | ⟨never, fault, projects, world, ran⟩
  · rw [runModule, bind_eq_of_ok _ ran]
    cases stop : plan.stop with
    | none => exact .inl ⟨projects, world, rfl, makes, rfl⟩
    | some fault => exact .inr ⟨fun _ _ both => (nomatch both.1), fault, projects, world, rfl⟩
  · exact .inr ⟨fun projects world both => never projects world both.2, fault, projects, world,
      bind_eq_of_error _ ran⟩

/-! ## Importing -/

/-- An import either registers projects and is remembered, or stops and is not. -/
theorem importModule_cases (name : String) (space : Workspace) :
    (∃ projects world,
        Imports space.registry.imported space.registry.searchPath name space.world projects world ∧
        importModule name space = (.ok (), ({ space with world }.keepAll projects).noting name)) ∨
      (∀ projects world, ¬ Imports space.registry.imported space.registry.searchPath name
          space.world projects world) ∧
        ∃ fault projects world, importModule name space =
          (.error fault, { space with world }.keepAll projects) := by
  have present : (get : Work Workspace) space = (.ok space, space) := rfl
  rw [importModule, bind_eq_of_ok _ present]
  by_cases known : name ∈ space.registry.imported
  · refine .inl ⟨[], space.world, .again known, ?_⟩
    have noted : space.noting name = space := by rw [noting, if_pos known]
    rw [if_pos (List.contains_iff_mem.mpr known)]
    show (Except.ok (), space) = (.ok (), space.noting name)
    rw [noted]
  rw [if_neg (mt List.contains_iff_mem.mp known)]
  dsimp only
  cases proper : ModulePlace.nameMishap? name with
  | some mishap =>
    refine .inr ⟨?_, .mishap mishap, [], space.world, rfl⟩
    rintro _ _ (again | ⟨-, same, -, -, -⟩)
    · exact known again
    · cases proper.symm.trans same
  | none =>
    cases found : ModulePlace.find? space.world.tree space.registry.searchPath name with
    | none =>
      refine .inr ⟨?_, .mishap .missingModule, [], space.world, rfl⟩
      rintro _ _ (again | ⟨-, -, same, -, -⟩)
      · exact known again
      · cases found.symm.trans same
    | some module =>
      obtain ⟨file, plan⟩ := module
      dsimp only
      rcases runModule_cases plan file space with
        ⟨projects, world, ends, makes, ran⟩ | ⟨never, fault, projects, world, ran⟩
      · refine .inl ⟨projects, world, .run known proper found makes ends, ?_⟩
        have fresh : name ∉ ({ space with world }.keepAll projects).registry.imported := by
          rw [keepAll_registry]
          exact known
        rw [bind_eq_of_ok _ ran, noting, if_neg fresh]
        rfl
      · refine .inr ⟨?_, fault, projects, world, bind_eq_of_error _ ran⟩
        rintro _ _ (again | ⟨-, -, same, makes, ends⟩)
        · exact known again
        · cases found.symm.trans same
          exact never _ _ ⟨ends, makes⟩

/-- However an action ends, the registered projects and the folders to look for modules in are put
back. -/
theorem capture_apply (folder : String) (action : Work Unit) (space : Workspace) :
    capture folder action space =
      match action { space with registry := space.registry.opened folder } with
      | (result, after) => (result.map fun _ => after.registry.projects,
          { after with registry := after.registry.closed folder space.registry.projects }) := by
  rcases ran : action { space with registry := space.registry.opened folder } with ⟨result, after⟩
  have observed : outcome action { space with registry := space.registry.opened folder } =
      (.ok result, after) := by
    rw [outcome, ran]
  have present : (get : Work Workspace) space = (.ok space, space) := rfl
  have opened : (modify fun space : Workspace =>
      { space with registry := space.registry.opened folder } : Work Unit) space =
        (.ok (), { space with registry := space.registry.opened folder }) := rfl
  rw [capture, bind_eq_of_ok _ present]
  dsimp only
  rw [bind_eq_of_ok _ opened, bind_eq_of_ok _ observed]
  cases result <;> rfl

/-- An action left the registered projects and the folders as they were, and all objects in their
places. -/
structure Restored (before after : Workspace) : Prop where
  /-- All objects are in their places. -/
  grows : Grows before after
  /-- The same projects are registered. -/
  projects : after.registry.projects = before.registry.projects
  /-- Modules are looked for in the same folders. -/
  folders : after.registry.searchPath = before.registry.searchPath

/-- The folder that modules are looked for in first is the one that is dropped. -/
theorem closed_opened (registry : Registry Nat) (folder : String) :
    (registry.opened folder).closed folder registry.projects = registry := by
  rw [Registry.opened, Registry.closed, List.erase_cons_head]

/-- An import whose projects are captured gives these, or it stops and leaves the registry. -/
theorem capture_importModule_cases (place : ModulePlace) (space : Workspace) :
    (∃ projects world loaded after,
        Imports space.registry.imported (place.folder :: space.registry.searchPath) place.name
          space.world projects world ∧
        capture place.folder (importModule place.name) space = (.ok loaded, after) ∧
        Restored space after ∧ after.Shows loaded (.ofList (named projects)) ∧
        ∀ name, name ∈ after.registry.imported ↔
          name ∈ space.registry.imported ∨ name = place.name) ∨
      (∀ projects world, ¬ Imports space.registry.imported
          (place.folder :: space.registry.searchPath) place.name space.world projects world) ∧
        ∃ fault after,
          capture place.folder (importModule place.name) space = (.error fault, after) ∧
          Grows space after ∧ after.registry = space.registry := by
  let apart : Workspace := { space with registry := space.registry.opened place.folder }
  have captured := capture_apply place.folder (importModule place.name) space
  have reached (projects : List Project) (world : World) :
      Grows space ({ apart with world }.keepAll projects) :=
    (grows_with space world _).trans (grows_keepAll _ projects)
  rcases importModule_cases place.name apart with
    ⟨projects, world, imports, ran⟩ | ⟨never, fault, projects, world, ran⟩
  · -- Nothing was registered at first, so that all that is registered now is new.
    let made : Workspace := { apart with world }.keepAll projects
    have folders : (made.noting place.name).registry.searchPath =
        place.folder :: space.registry.searchPath := by
      rw [noting_registry, keepAll_registry]
      rfl
    have registered : (made.noting place.name).registry.projects = made.registry.projects := by
      rw [noting_registry]
    have fresh : Knows { apart with world } .empty := shows_empty _
    have knows : made.Knows (.ofList (named projects)) := fresh.keepAll projects
    rw [ran] at captured
    refine .inl ⟨projects, world, _, _, imports, captured, ⟨?_, rfl, ?_⟩, ?_, fun name => ?_⟩
    · exact (reached projects world).trans ((grows_noting _ _).trans (grows_with _ _ _))
    · show (made.noting place.name).registry.searchPath.erase place.folder = _
      rw [folders, List.erase_cons_head]
    · show Shows _ (made.noting place.name).registry.projects _
      rw [registered]
      exact Shows.grows knows ((grows_noting made place.name).trans (grows_with _ _ _))
    · have imported : made.registry.imported = space.registry.imported := by
        rw [keepAll_registry]
        rfl
      rw [← imported]
      exact mem_imported_noting_iff place.name name
  · rw [ran] at captured
    refine .inr ⟨never, fault, _, captured, ?_, ?_⟩
    · exact (reached projects world).trans (grows_with _ _ _)
    · rw [keepAll_registry]
      exact closed_opened space.registry place.folder

/-! ## Calls -/

/-- A call that loads the module at a path, in a world of its own. -/
structure LoadCall where
  /-- The world. -/
  world : World
  /-- The path. -/
  path : String
  /-- Whether only the projects that are registered by it are asked for. -/
  onlyNew : Bool

namespace LoadCall

/-- Where the module of a call is. -/
def place (call : LoadCall) : ModulePlace := ModulePlace.ofPath call.world.folder call.path

/-- The world in which the module of a call is imported, after this was noted in the log. -/
def noted (call : LoadCall) : World := call.world.logged [Registry.importingEntry call.place]

/-- What a call comes to in a workspace. -/
def run (call : LoadCall) (space : Workspace) : Except Fault (OrderedMap Nat) × Workspace :=
  load call.path call.onlyNew { space with world := call.world }

/-- The import of the module of a call comes to its end and registers some projects. -/
def Registers (call : LoadCall) (space : Workspace) (projects : List Project) : Prop :=
  call.path ≠ "" ∧ ∃ world, Imports space.registry.imported
    (call.place.folder :: space.registry.searchPath) call.place.name call.noted projects world

end LoadCall

/-- What a call comes to in a workspace with some registered projects: it gives those that it
registers, or all that are registered then, or it fails and leaves the registry as it was. -/
inductive Outcome (space : Workspace) (registered : OrderedMap Project) (call : LoadCall) :
    List Project → Workspace → Prop
  /-- The module was imported. -/
  | loaded {projects : List Project} {answer : OrderedMap Nat} {after : Workspace}
      (registers : call.Registers space projects)
      (run : call.run space = (.ok answer, after))
      (answers : after.Shows answer
        (if call.onlyNew then .ofList (named projects) else registered.insertAll (named projects)))
      (folders : after.registry.searchPath = space.registry.searchPath)
      (imported : ∀ name, name ∈ after.registry.imported ↔
        name ∈ space.registry.imported ∨ name = call.place.name) :
      Outcome space registered call projects after
  /-- The module could not be imported. -/
  | failed {fault : Fault} {after : Workspace}
      (never : ∀ projects, ¬ call.Registers space projects)
      (run : call.run space = (.error fault, after))
      (unchanged : after.registry = space.registry) :
      Outcome space registered call [] after

/-- Noting something in the log leaves all but the log. -/
theorem exists_act_log_apply (entry : Option LogEntry) (space : Workspace) :
    ∃ entries, act (Action.log entry) space =
      (.ok (), { space with world := space.world.logged entries }) := by
  obtain ⟨entries, logged⟩ := Action.exists_log_apply entry space.world
  exact ⟨entries, by rw [act, logged]⟩

/-- The projects of a module override the registered ones. -/
theorem registerLoaded_apply (path : String) (onlyNew : Bool) (loaded : OrderedMap Nat)
    {space : Workspace} (live : space.liveRegistry = space.registry) :
    ∃ world, registerLoaded path onlyNew loaded space =
      (.ok (if onlyNew then loaded else (space.registry.register loaded).projects),
        { space with world, registry := space.registry.register loaded }) := by
  have present : (get : Work Workspace) space = (.ok space, space) := rfl
  rw [registerLoaded, bind_eq_of_ok _ present, live]
  obtain ⟨warnings, warned⟩ := exists_act_log_apply
    (Registry.clashWarning? path space.registry.projects.keys loaded.keys) space
  rw [bind_eq_of_ok _ warned]
  let changed : Workspace :=
    { space with
      world := space.world.logged warnings
      registry := space.registry.register loaded }
  obtain ⟨entries, said⟩ :=
    exists_act_log_apply (some (Registry.loadedEntry path loaded.keys)) changed
  have registered : (modify fun space : Workspace =>
      { space with registry := changed.registry } : Work Unit)
        { space with world := changed.world } = (.ok (), changed) := rfl
  exact ⟨_, (bind_eq_of_ok _ registered).trans (bind_eq_of_ok _ said)⟩

/-- A call imports its module and registers the projects that were captured. -/
theorem run_eq {call : LoadCall} (given : call.path ≠ "") (space : Workspace) :
    call.run space = (capture call.place.folder (importModule call.place.name) >>=
      registerLoaded call.path call.onlyNew) { space with world := call.noted } := by
  have nonempty : ¬ call.path.isEmpty = true := mt String.isEmpty_iff.mp given
  have present : (get : Work Workspace) { space with world := call.world } =
      (.ok { space with world := call.world }, { space with world := call.world }) := rfl
  have noted : act (Action.log (some (Registry.importingEntry call.place)))
      { space with world := call.world } = (.ok (), { space with world := call.noted }) := rfl
  rw [LoadCall.run, load, if_neg nonempty]
  dsimp only
  rw [bind_eq_of_ok _ present]
  exact bind_eq_of_ok _ noted

/-- A call in a workspace with some registered projects has an outcome, and after it those projects
are registered, overridden by those that the call registered. -/
theorem exists_outcome {registered : OrderedMap Project} (knows : space.Knows registered)
    (call : LoadCall) : ∃ projects, Outcome space registered call projects (call.run space).2 ∧
      (call.run space).2.Knows (registered.insertAll (named projects)) := by
  by_cases given : call.path = ""
  · have ran : call.run space =
        (.error (.noModulePath ""), { space with world := call.world }) := by
      rw [LoadCall.run, given]
      rfl
    rw [ran]
    exact ⟨[], .failed (fun _ registers => registers.1 given) ran rfl,
      Shows.grows knows (grows_with space call.world space.registry)⟩
  have start := grows_with space call.noted space.registry
  rcases capture_importModule_cases call.place { space with world := call.noted } with
    ⟨projects, world, loaded, after, imports, captured, restored, shows, imported⟩ |
      ⟨never, fault, after, captured, grows, unchanged⟩
  · -- The projects of the module join those that are registered.
    have knowsAfter : after.Knows registered := by
      rw [Knows, restored.projects]
      exact Shows.grows knows (start.trans restored.grows)
    obtain ⟨world, registers⟩ := registerLoaded_apply call.path call.onlyNew loaded
      knowsAfter.liveRegistry_eq
    have ran := (run_eq given space).trans ((bind_eq_of_ok _ captured).trans registers)
    have final := grows_with after world (after.registry.register loaded)
    -- What was captured and what was registered before are in the same workspace now.
    have both : Shows { after with world, registry := after.registry.register loaded }
        (after.registry.register loaded).projects (registered.insertAll (named projects)) := by
      rw [← OrderedMap.insertAll_ofList registered (named projects)]
      exact (Shows.grows knowsAfter final).insertAll (shows.grows final)
    rw [ran]
    refine ⟨projects, .loaded ⟨given, _, imports⟩ ran ?_ restored.folders imported, both⟩
    split
    · exact shows.grows final
    · exact both
  · have ran := (run_eq given space).trans (bind_eq_of_error _ captured)
    rw [ran]
    refine ⟨[], .failed (fun projects registers => ?_) ran unchanged, ?_⟩
    · obtain ⟨-, world, imports⟩ := registers
      exact never projects world imports
    · rw [Knows, unchanged]
      exact Shows.grows knows (start.trans grows)

/-- A workspace after some calls. -/
def afterLoads (space : Workspace) (calls : List LoadCall) : Workspace :=
  calls.foldl (fun space call => (call.run space).2) space

/-- The calls of a sequence have outcomes, one after the other, and all in all they register some
projects. -/
inductive Outcomes : Workspace → OrderedMap Project → List LoadCall → List Project → Prop
  /-- No calls register nothing. -/
  | none (space : Workspace) (registered : OrderedMap Project) : Outcomes space registered [] []
  /-- After a call, the projects that it registered are registered in place of others. -/
  | call {space next : Workspace} {registered : OrderedMap Project} {call : LoadCall}
      {rest : List LoadCall} {projects more : List Project}
      (outcome : Outcome space registered call projects next)
      (knows : next.Knows (registered.insertAll (named projects)))
      (later : Outcomes next (registered.insertAll (named projects)) rest more) :
      Outcomes space registered (call :: rest) (projects ++ more)

/-- Whichever modules are loaded and however many of them fail: each call that succeeds gives the
projects that its module registers, or these and all others, and overrides the registered ones by
them; a call that fails leaves the registry and the folders as they were. In the end the projects of
all modules that were loaded are registered, the last one of each name. -/
theorem loads_override {space : Workspace} {registered : OrderedMap Project}
    (knows : space.Knows registered) (calls : List LoadCall) :
    ∃ projects, Outcomes space registered calls projects ∧
      (afterLoads space calls).Knows (registered.insertAll (named projects)) ∧
      (afterLoads space calls).registry.searchPath = space.registry.searchPath := by
  induction calls generalizing space registered with
  | nil => exact ⟨[], .none space registered, knows, rfl⟩
  | cons call rest inductionHypothesis =>
    obtain ⟨projects, outcome, knowsNext⟩ := exists_outcome knows call
    obtain ⟨more, later, knowsLast, folders⟩ := inductionHypothesis knowsNext
    have override : registered.insertAll (named (projects ++ more)) =
        (registered.insertAll (named projects)).insertAll (named more) := by
      rw [named, List.map_append, OrderedMap.insertAll_append]
      rfl
    refine ⟨projects ++ more, .call outcome knowsNext later, override ▸ knowsLast,
      folders.trans ?_⟩
    cases outcome with
    | loaded _ _ _ folders _ => exact folders
    | failed _ _ unchanged => rw [unchanged]

/-- A world with a module that stops after it made a project, and one that makes a project twice and
another one that is not to be registered. -/
def twoModules : World where
  folder := "/"
  tree :=
    { files := .ofList [
        ("/torn.py",
          .module { projects := [{ name := "draft" }], stop := some (.mishap .badValue) }),
        ("/jobs.py", .module { projects := [
          { name := "etl", version := .text "1" },
          { name := "scratch", register := false },
          { name := "etl", version := .text "2" }] })] }

/-- Calls that load both modules. -/
def twoLoads : List LoadCall := [⟨twoModules, "torn.py", true⟩, ⟨twoModules, "jobs.py", false⟩]

/-- Of all projects that are made, the last one of a name is registered by the module that does not
stop. -/
theorem twoLoads_override :
    Knows { world := twoModules } .empty ∧
      (∃ projects, Outcomes { world := twoModules } .empty twoLoads projects ∧
        (afterLoads { world := twoModules } twoLoads).Knows
          (OrderedMap.empty.insertAll (named projects)) ∧
        (afterLoads { world := twoModules } twoLoads).registry.searchPath = []) ∧
      (afterLoads { world := twoModules } twoLoads).registry.projects.entries.map (fun entry =>
        (entry.1, ((afterLoads { world := twoModules } twoLoads).projectAt? entry.2).map
          Project.versionedName)) = [("etl", some "etl-2")] := by
  have knows : Knows { world := twoModules } .empty := shows_empty _
  exact ⟨knows, loads_override knows twoLoads, by decide +kernel⟩

end Work

end Jobflow
