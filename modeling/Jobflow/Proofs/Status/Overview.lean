import Mathlib.Data.List.Forall2
import Jobflow.Proofs.Status.Reply

/-!
# What overviews show

A row or table of a flow is determined by the document of its latest execution, if there is
one. An overview has one for each flow it is about, in the same order, as soon as the
executions are found by their flows.
-/

namespace Jobflow.Status

/-- How many nodes in the state of an execution have each of the known statuses. -/
def countsOf (document : Value) : List Value :=
  labels.map fun label => .ofNat
    ((listOf document "nodes").countP fun node => (valueOf node "status").text? == some label)

/-- The row of a flow whose latest execution has a state, or of one without. -/
def rowOf (flow : Value) (state : Option Value) : List Value :=
  match state with
  | some document => [flow, valueOf document "execid", valueOf document "status"] ++ countsOf document
  | none => [flow, .text "NONE", .text "-"] ++ labels.map fun _ => .int 0

/-- A row shows a node: its id, type and status, its start and end, and the time between. -/
def IsRowOf (now node : Value) (row : List Value) : Prop :=
  ∃ started ended elapsed,
    formatTime (timeOf node "startTime") = .ok started ∧
    formatTime (timeOf node "endTime") = .ok ended ∧
    formatElapsed (timeOf node "startTime") (timeOf node "endTime") now = .ok elapsed ∧
    row = [valueOf node "id", valueOf node "type", valueOf node "status",
      .text started, .text ended, .text elapsed]

/-- A table shows a flow: each node in the state of its latest execution, in order, or that
there is no execution. -/
def IsTableOf (now flow : Value) (state : Option Value) (table : Table) : Prop :=
  match state with
  | some document =>
    (∃ title, executionTitle flow (executionOf document) now = .ok title ∧ table.title = title) ∧
      table.headers = jobHeaders ∧ List.Forall₂ (IsRowOf now) (listOf document "nodes") table.rows
  | none => table = { title := "Flow: " ++ flow.str, notes := ["No execution yet."] }

/-- The statuses of well-formed nodes are counted. -/
theorem gives_tally (document : Value) (state : IsState document) :
    ∃ tally, (executionOf document).tally.Gives tally ∧
      tally.values.map Value.ofNat = countsOf document := by
  have statuses : (executionOf document).jobs.map JobState.status =
      (listOf document "nodes").map fun node => valueOf node "status" := by
    simp [executionOf, jobOf]
  refine ⟨Tally.counted ((executionOf document).jobs.map JobState.status),
    Tally.gives_ofStatuses _ ?_, ?_⟩
  · intro status member
    rw [statuses] at member
    obtain ⟨node, inside, rfl⟩ := List.mem_map.mp member
    exact (state.nodes node inside).status
  · rw [Tally.values, statuses, countsOf, List.map_map]
    apply List.map_congr_left
    intro label _
    rw [Function.comp_apply, Tally.count_counted, List.countP_map]
    rfl

section

variable (targets : List Value) (executions : Executions) (states : Value → Option Value)

/-- A summary has the row of each flow. -/
theorem gives_summary
    (found : ∀ flow ∈ targets, executions.of flow = .ok ((states flow).map executionOf))
    (wellFormed : ∀ flow ∈ targets, ∀ document, states flow = some document → IsState document) :
    (summary targets executions).Gives
      { title := "Job Statistics for individual flow"
        headers := (["Flow Name", "Latest Exec ID", "Status"] ++ labels).map Value.text
        rows := targets.map fun flow => rowOf flow (states flow) } := by
  have rows : Logged.Gives (targets.mapM (summaryRow executions))
      (targets.map fun flow => rowOf flow (states flow)) := by
    apply Logged.gives_mapM
    intro flow member
    have look := Logged.gives_ofMishap (found flow member)
    rw [summaryRow]
    cases shown : states flow with
    | none =>
      rw [shown] at look
      exact Logged.gives_bind look (Logged.gives_pure _)
    | some document =>
      obtain ⟨tally, counted, values⟩ := gives_tally document (wellFormed flow member document shown)
      rw [shown] at look
      rw [rowOf, ← values]
      exact Logged.gives_bind look (Logged.gives_bind counted (Logged.gives_pure _))
  exact Logged.gives_bind rows (Logged.gives_pure _)

/-- The title of the table of an execution can be given. -/
theorem exists_executionTitle (now flow document : Value) (present : IsPresent now)
    (state : IsState document) :
    ∃ title, executionTitle flow (executionOf document) now = .ok title := by
  obtain ⟨submitted, submittedShown⟩ := exists_formatTime _ state.submitted
  obtain ⟨started, startedShown⟩ := exists_formatTime _ state.started
  obtain ⟨ended, endedShown⟩ := exists_formatTime _ state.ended
  obtain ⟨elapsed, elapsedShown⟩ := exists_formatElapsed _ _ now state.started state.ended present
  simp only [executionTitle, executionOf, submittedShown, startedShown, endedShown, elapsedShown]
  exact ⟨_, rfl⟩

/-- The row of a well-formed node can be given, and shows the node. -/
theorem exists_jobRow (now node : Value) (present : IsPresent now) (wellFormed : IsNode node) :
    ∃ row, jobRow now (jobOf node) = .ok row ∧ IsRowOf now node row := by
  obtain ⟨started, startedShown⟩ := exists_formatTime _ wellFormed.started
  obtain ⟨ended, endedShown⟩ := exists_formatTime _ wellFormed.ended
  obtain ⟨elapsed, elapsedShown⟩ :=
    exists_formatElapsed _ _ now wellFormed.started wellFormed.ended present
  refine ⟨_, ?_, started, ended, elapsed, startedShown, endedShown, elapsedShown, rfl⟩
  simp only [jobRow, jobOf, startedShown, endedShown, elapsedShown]
  rfl

/-- Steps that all give a value in some relation to their item give such values in a row. -/
theorem exists_mapM_forall₂ {α β ε : Type} (items : List α) (step : α → Except ε β)
    (related : α → β → Prop)
    (each : ∀ item ∈ items, ∃ value, step item = .ok value ∧ related item value) :
    ∃ values, items.mapM step = .ok values ∧ List.Forall₂ related items values := by
  induction items with
  | nil => exact ⟨[], rfl, .nil⟩
  | cons item rest inductionHypothesis =>
    obtain ⟨value, given, first⟩ := each item List.mem_cons_self
    obtain ⟨values, later, others⟩ :=
      inductionHypothesis fun other member => each other (List.mem_cons_of_mem _ member)
    refine ⟨value :: values, ?_, .cons first others⟩
    rw [List.mapM_cons, given, later]
    rfl

/-- An overview of jobs has the table of each flow. -/
theorem exists_jobTables (links : Option Links) (now : Value) (present : IsPresent now)
    (found : ∀ flow ∈ targets, executions.of flow = .ok ((states flow).map executionOf))
    (wellFormed : ∀ flow ∈ targets, ∀ document, states flow = some document → IsState document) :
    ∃ tables, jobTables targets executions links now = .ok tables ∧
      List.Forall₂ (fun flow table => IsTableOf now flow (states flow) table) targets tables := by
  apply exists_mapM_forall₂
  intro flow member
  have look := found flow member
  rw [jobTable]
  cases shown : states flow with
  | none =>
    rw [shown] at look
    rw [look]
    exact ⟨_, rfl, rfl⟩
  | some document =>
    have state := wellFormed flow member document shown
    obtain ⟨title, titled⟩ := exists_executionTitle now flow document present state
    obtain ⟨rows, listed, related⟩ := exists_mapM_forall₂ (listOf document "nodes")
      (fun node => jobRow now (jobOf node)) (IsRowOf now)
      fun node inside => exists_jobRow now node present (state.nodes node inside)
    have jobs : (executionOf document).jobs.mapM (jobRow now) = .ok rows := by
      rw [executionOf, List.mapM_map]
      exact listed
    rw [shown] at look
    rw [look]
    refine ⟨⟨title, jobHeaders, rows, linkNotes links (executionOf document).id⟩, ?_,
      ⟨title, titled, rfl⟩, rfl, related⟩
    show (executionTitle flow (executionOf document) now >>= fun title =>
      (executionOf document).jobs.mapM (jobRow now) >>= fun rows =>
        pure (Table.mk title jobHeaders rows (linkNotes links (executionOf document).id))) = _
    rw [titled]
    show ((executionOf document).jobs.mapM (jobRow now) >>= fun rows =>
      pure (Table.mk title jobHeaders rows (linkNotes links (executionOf document).id))) = _
    rw [jobs]
    rfl

end

end Jobflow.Status
