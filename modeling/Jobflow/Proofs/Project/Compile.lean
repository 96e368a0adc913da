import Jobflow.Project.Archive
import Jobflow.Proofs.Action
import Jobflow.Proofs.Flow.Compile
import Jobflow.Proofs.Logged

/-!
# Compiling projects

The workflows of a project are compiled one after the other, each with the flattened properties
of the project. There are flows only if every workflow has one; the first workflow without one
decides what is raised. Either way nothing but the log is touched.

The properties of a project have to be a mapping, which counts as a condition on every workflow
here: a project without workflows is never compiled.
-/

namespace Jobflow

/-! ## Results of computations that log -/

namespace Logged

variable {α β : Type}

/-- A computation comes to a result, whatever was logged before, and only adds to the log. -/
def Yields (computation : Logged α) (result : Except Fault α) : Prop :=
  ∀ before : Log, ∃ entries, computation.run.run before = (result, before ++ entries)

/-- A value is its own result. -/
theorem yields_pure (value : α) : Yields (pure value) (.ok value) := fun before =>
  ⟨[], by rw [List.append_nil]; rfl⟩

/-- A result without wording is given as it is. -/
theorem yields_ofMishap (result : Except Mishap α) :
    Yields (ofMishap result) (result.mapError Fault.mishap) := fun before =>
  ⟨[], by rw [List.append_nil]; cases result <;> rfl⟩

/-- Of two computations in a row, the second one counts if the first one comes to a value. -/
theorem yields_bind {first : Logged α} {next : α → Logged β} {result : Except Fault α}
    {later : α → Except Fault β} (yields : first.Yields result)
    (goesOn : ∀ value, (next value).Yields (later value)) :
    Yields (first >>= next) (result >>= later) := by
  intro before
  obtain ⟨entries, started⟩ := yields before
  cases result with
  | error fault => exact ⟨entries, by rw [ExceptT.run_bind, StateT.run_bind, started]; rfl⟩
  | ok value =>
    obtain ⟨others, finished⟩ := goesOn value (before ++ entries)
    refine ⟨entries ++ others, ?_⟩
    rw [ExceptT.run_bind, StateT.run_bind, started, ← List.append_assoc]
    exact finished

/-- Computations over a list come to what their results come to. -/
theorem yields_mapM {step : α → Logged β} {result : α → Except Fault β}
    (each : ∀ item, (step item).Yields (result item)) (items : List α) :
    Yields (items.mapM step) (items.mapM result) := by
  induction items with
  | nil => exact yields_pure []
  | cons item rest inductionHypothesis =>
    rw [List.mapM_cons, List.mapM_cons]
    exact yields_bind (each item) fun value =>
      yields_bind inductionHypothesis fun values => yields_pure (value :: values)

end Logged

/-- A computation that comes to a result only logs besides. -/
theorem Action.exists_ofLogged_apply {α : Type} {computation : Logged α} {result : Except Fault α}
    (yields : computation.Yields result) (world : World) :
    ∃ entries, ofLogged computation world = (result, world.logged entries) := by
  obtain ⟨entries, run⟩ := yields []
  refine ⟨entries, ?_⟩
  rw [ofLogged_apply, Logged.outcome, run, List.nil_append]

/-! ## Workflows -/

namespace Flow

/-- Compiling a workflow with properties that are a mapping comes to its flow or its defect. -/
theorem yields_compileLogged (workflow : Workflow) (properties : Properties) :
    (compileLogged workflow properties.toValue).Yields
      ((compileRun workflow properties.entries).1.mapError Fault.invalidFlow) := by
  intro before
  refine ⟨(compileRun workflow properties.entries).2.map Notice.entry, ?_⟩
  have given : entriesOf properties.toValue = .ok properties.entries := rfl
  rw [compileLogged, given]
  dsimp only
  rcases compileRun workflow properties.entries with ⟨result, notices⟩
  cases result <;> rfl

/-- A flow has the name of its workflow. -/
theorem name_of_compileRun {workflow : Workflow} {given : Entries} {flow : Flow}
    (compiled : (compileRun workflow given).1 = .ok flow) : flow.name = workflow.header.name := by
  rw [((compileRun_eq_ok_iff workflow given flow).mp compiled).2]

end Flow

namespace Project

/-- A workflow is compiled to a flow with the flattened properties of a project. -/
def CompilesTo (project : Project) (workflow : Workflow) (flow : Flow) : Prop :=
  ∃ properties, entriesOf project.properties = .ok properties ∧
    (Flow.compileRun workflow (Properties.ofSources [properties]).entries).1 = .ok flow

/-- The flow of a workflow has its name. -/
theorem CompilesTo.name {project : Project} {workflow : Workflow} {flow : Flow}
    (compiles : project.CompilesTo workflow flow) : flow.name = workflow.header.name := by
  obtain ⟨properties, -, compiled⟩ := compiles
  exact Flow.name_of_compileRun compiled

/-- The flow of a workflow with some properties of a project, or what is raised instead. -/
def flowOf (properties : Entries) (workflow : Workflow) : Except Fault Flow :=
  (Flow.compileRun workflow (Properties.ofSources [properties]).entries).1.mapError
    Fault.invalidFlow

/-- The flows of the workflows of a project, or what is raised instead. -/
def flows (project : Project) : Except Fault (List Flow) :=
  (entriesOf project.properties).mapError Fault.mishap >>= fun properties =>
    project.workflows.mapM (flowOf properties)

/-- Compiling a project comes to its flows. -/
theorem yields_compile (project : Project) : project.compile.Yields project.flows :=
  Logged.yields_bind (Logged.yields_ofMishap _) fun _ =>
    Logged.yields_mapM (fun workflow => Flow.yields_compileLogged workflow _) project.workflows

/-- Every step of a computation over a list that comes to values comes to one of them. -/
theorem exists_of_mapM_eq_ok {α β ε : Type} {step : α → Except ε β} {items : List α}
    {values : List β} (run : items.mapM step = .ok values) {item : α} (member : item ∈ items) :
    ∃ value ∈ values, step item = .ok value := by
  induction items generalizing values with
  | nil => cases member
  | cons first rest inductionHypothesis =>
    rw [List.mapM_cons] at run
    cases started : step first with
    | error fault => rw [started] at run; cases run
    | ok value =>
      rw [started] at run
      cases finished : rest.mapM step with
      | error fault => rw [finished] at run; cases run
      | ok others =>
        rw [finished] at run
        cases run
        rcases List.mem_cons.mp member with rfl | later
        · exact ⟨value, List.mem_cons_self, started⟩
        · obtain ⟨other, among, found⟩ := inductionHypothesis finished later
          exact ⟨other, List.mem_cons_of_mem _ among, found⟩

/-- Workflows that have flows are compiled to them. -/
theorem mapM_flowOf {project : Project} {properties : Entries} {workflows : List Workflow}
    {flows : List Flow} (given : entriesOf project.properties = .ok properties)
    (compile : List.Forall₂ project.CompilesTo workflows flows) :
    workflows.mapM (flowOf properties) = .ok flows := by
  induction compile with
  | nil => rfl
  | cons compiles _ inductionHypothesis =>
    obtain ⟨entries, same, compiled⟩ := compiles
    obtain rfl := Except.ok.inj (given.symm.trans same)
    rw [List.mapM_cons, inductionHypothesis, flowOf, compiled]
    rfl

/-- If there are workflows and every one has a flow, these are the flows of the project. -/
theorem flows_of_compilesTo {project : Project} {flows : List Flow}
    (nonempty : project.workflows ≠ [])
    (compile : List.Forall₂ project.CompilesTo project.workflows flows) :
    project.flows = .ok flows := by
  obtain ⟨properties, given⟩ : ∃ properties, entriesOf project.properties = .ok properties := by
    cases workflows : project.workflows with
    | nil => exact absurd workflows nonempty
    | cons workflow rest =>
      rw [workflows] at compile
      cases compile with
      | cons compiles _ =>
        obtain ⟨properties, given, -⟩ := compiles
        exact ⟨properties, given⟩
  rw [Project.flows, given]
  exact mapM_flowOf given compile

/-- If some workflow has no flow, there is nothing but a fault. -/
theorem exists_flows_error {project : Project} {workflow : Workflow}
    (member : workflow ∈ project.workflows)
    (defective : ∀ flow, ¬ project.CompilesTo workflow flow) :
    ∃ fault, project.flows = .error fault := by
  cases result : project.flows with
  | error fault => exact ⟨fault, rfl⟩
  | ok flows =>
    rw [Project.flows] at result
    cases given : entriesOf project.properties with
    | error mishap =>
      rw [given] at result
      cases result
    | ok properties =>
      rw [given] at result
      obtain ⟨flow, -, compiled⟩ := exists_of_mapM_eq_ok result member
      refine absurd ⟨properties, given, ?_⟩ (defective flow)
      rw [flowOf] at compiled
      cases run : (Flow.compileRun workflow (Properties.ofSources [properties]).entries).1 with
      | error defect => rw [run] at compiled; cases compiled
      | ok other => rw [run] at compiled; cases compiled; rfl

/-- Workflows that all have flows have them in order. -/
theorem exists_forall₂_compilesTo {project : Project} {workflows : List Workflow}
    (each : ∀ workflow ∈ workflows, ∃ flow, project.CompilesTo workflow flow) :
    ∃ flows, List.Forall₂ project.CompilesTo workflows flows := by
  induction workflows with
  | nil => exact ⟨[], .nil⟩
  | cons workflow rest inductionHypothesis =>
    obtain ⟨flow, compiles⟩ := each workflow List.mem_cons_self
    obtain ⟨flows, later⟩ :=
      inductionHypothesis fun other member => each other (List.mem_cons_of_mem _ member)
    exact ⟨flow :: flows, .cons compiles later⟩

end Project

end Jobflow
