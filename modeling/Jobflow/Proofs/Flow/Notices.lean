import Mathlib
import Jobflow.Proofs.Flow.Collecting
import Jobflow.Proofs.Flow.Validity

/-!
# Notices of a compilation

What compiling a workflow gives notice of, scope by scope. The scopes are closed in the order in
which their workflows end, embedded ones before those around them. A scope that passes its checks
first says what it remarked on the way; then it warns about the declared nodes that none of its
targets is or depends on, in the order of their declaration. A scope that does not pass warns
about none, and neither does any scope that would have been closed after it.

Notices are only ever added, so each step of compiling is described by the result it comes to and
the notices that it adds.
-/

namespace Jobflow

open Jobflow.Flow

/-! ## What a scope gives notice of -/

/-- The condition of a declared node, if it is an expression. -/
def Declaration.expression? (node : Declaration) : Option String :=
  (node.condition.filter fun condition => !condition.isEmpty).filter fun condition =>
    !Condition.outcomes.contains condition

namespace Scope

mutual

/-- The scopes of the workflows embedded among declarations, in the order in which they end. -/
def scopesAmong (around : List Header) : List Declaration → List Scope
  | [] => []
  | declaration :: rest => scopesOf around declaration ++ scopesAmong around rest

/-- The scopes of a declared node: none for a job, and for a workflow its own after those that
are embedded in it. -/
def scopesOf (around : List Header) : Declaration → List Scope
  | .job _ _ => []
  | .workflow header nodes => scopesAmong (around ++ [header]) nodes ++ [⟨around, header, nodes⟩]

end

/-- The scopes that a scope holds, in the order in which their workflows end. -/
def scopes (scope : Scope) : List Scope := scopesAmong scope.workflows scope.nodes ++ [scope]

/-- A scope needs the nodes that are its targets and all that these depend on. -/
def Needs (scope : Scope) (name : String) : Prop :=
  ∃ target ∈ scope.header.targets.toList, target = name ∨ scope.Reaches target name

open Classical in
/-- The declared nodes that a scope does not need, in the order of their declaration. -/
noncomputable def unneeded (scope : Scope) : List String :=
  (scope.nodes.map Declaration.name).filter fun name => ¬ scope.Needs name

/-- What a scope remarks while it is checked: that it has no targets, and the conditions that are
expressions. -/
def remarks (scope : Scope) : List Notice :=
  (if scope.header.targets.toList.isEmpty then [.noTargets scope.header.name] else []) ++
    scope.nodes.filterMap fun node =>
      node.expression?.map (Notice.expression node.name scope.header.name)

/-- What a scope gives notice of if it passes its checks. -/
noncomputable def notices (scope : Scope) : List Notice :=
  scope.remarks ++ scope.unneeded.map fun name => .unreachable name scope.header.name

mutual

/-- The scopes among declarations are those that the workflows among them hold. -/
theorem mem_scopesAmong_iff (around : List Header) (other : Scope) :
    ∀ declarations : List Declaration, other ∈ scopesAmong around declarations ↔
      ∃ header nodes, .workflow header nodes ∈ declarations ∧
        Holds ⟨around, header, nodes⟩ other
  | [] => by simp [scopesAmong]
  | declaration :: rest => by
    rw [scopesAmong, List.mem_append, mem_scopesOf_iff around other declaration,
      mem_scopesAmong_iff around other rest]
    constructor
    · rintro (⟨header, nodes, rfl, held⟩ | ⟨header, nodes, declared, held⟩)
      · exact ⟨header, nodes, List.mem_cons_self, held⟩
      · exact ⟨header, nodes, List.mem_cons_of_mem _ declared, held⟩
    · rintro ⟨header, nodes, declared, held⟩
      rcases List.mem_cons.mp declared with same | later
      · exact Or.inl ⟨header, nodes, same.symm, held⟩
      · exact Or.inr ⟨header, nodes, later, held⟩

/-- The scopes of a declared node are those that it holds if it is a workflow. -/
theorem mem_scopesOf_iff (around : List Header) (other : Scope) :
    ∀ declaration : Declaration, other ∈ scopesOf around declaration ↔
      ∃ header nodes, declaration = .workflow header nodes ∧ Holds ⟨around, header, nodes⟩ other
  | .job name job => by simp [scopesOf]
  | .workflow header nodes => by
    rw [scopesOf, List.mem_append, mem_scopesAmong_iff (around ++ [header]) other nodes,
      List.mem_singleton]
    constructor
    · rintro (⟨inner, deeper, declared, held⟩ | rfl)
      · exact ⟨header, nodes, rfl, .embedded declared held⟩
      · exact ⟨header, nodes, rfl, .self _⟩
    · rintro ⟨_, _, ⟨⟩, held⟩
      cases held with
      | self => exact Or.inr rfl
      | embedded declared deeper => exact Or.inl ⟨_, _, declared, deeper⟩

end

/-- The scopes of a scope are those that it holds. -/
theorem mem_scopes_iff (scope other : Scope) : other ∈ scope.scopes ↔ scope.Holds other := by
  have whole : other ∈ scope.scopes ↔
      other ∈ scopesOf scope.outer (.workflow scope.header scope.nodes) := by
    rw [scopes, scopesOf, workflows]
  rw [whole, mem_scopesOf_iff]
  constructor
  · rintro ⟨_, _, ⟨⟩, held⟩
    exact held
  · intro held
    exact ⟨_, _, rfl, held⟩

/-- In a valid scope the workflow's own name reaches exactly what the scope needs, since no
declared node has this name. -/
theorem needs_iff (scope : Scope) (given : Entries) (valid : scope.Valid given) (name : String) :
    scope.Needs name ↔ scope.Reaches scope.header.name name := by
  have targets : ∀ other, scope.DependsOn scope.header.name other ↔
      other ∈ scope.header.targets.toList := by
    intro other
    constructor
    · rintro (⟨node, declared, same, _⟩ | ⟨_, target⟩)
      · have taken : scope.header.name ∈ scope.nodes.map Declaration.name :=
          same ▸ List.mem_map_of_mem declared
        exact absurd taken (List.nodup_cons.mp valid.distinct).1
      · exact target
    · exact fun target => Or.inr ⟨rfl, target⟩
  constructor
  · rintro ⟨target, member, rfl | reached⟩
    · exact .single ((targets target).mpr member)
    · exact .head ((targets target).mpr member) reached
  · intro reached
    obtain ⟨target, depends, path⟩ := Relation.TransGen.head'_iff.mp reached
    refine ⟨target, (targets target).mp depends, ?_⟩
    rcases Relation.reflTransGen_iff_eq_or_transGen.mp path with same | further
    · exact Or.inl same.symm
    · exact Or.inr further

/-- A scope that passes its checks warns about the nodes that it does not need. -/
theorem unreachable_eq (scope : Scope) (given : Entries) (passes : scope.Passes given) :
    unreachable scope.header.name (scope.nodes.map Declaration.name) (graphOf scope.emitted) =
      scope.unneeded := by
  have valid := (scope.passes_iff_valid given).mp passes
  have distinct : (scope.emitted.map Node.name).Nodup := by
    rw [map_name_emitted, List.nodup_append_comm]
    exact valid.distinct
  apply List.filter_congr
  intro name _
  have reached : name ∈ (graphOf scope.emitted).ancestors scope.header.name ↔
      scope.Needs name := by
    rw [Graph.mem_ancestors_iff, scope.reaches_graphOf distinct, scope.needs_iff given valid]
  simp [reached]

end Scope

namespace Flow

/-! ## Steps -/

/-- No notice warns about a node out of reach. -/
def Silent (notices : List Notice) : Prop :=
  ∀ node workflow, Notice.unreachable node workflow ∉ notices

/-- Nothing is silent. -/
theorem silent_nil : Silent [] := fun _ _ member => by cases member

/-- Silent notices in a row are silent. -/
theorem Silent.append {earlier later : List Notice} (first : Silent earlier)
    (second : Silent later) : Silent (earlier ++ later) := by
  intro node workflow member
  rcases List.mem_append.mp member with there | there
  · exact first node workflow there
  · exact second node workflow there

namespace Compiling

variable {α β : Type}

/-- A step comes to a result and adds notices, whatever notices were given before. -/
def ComesTo (step : Compiling α) (result : Except Defect α) (notices : List Notice) : Prop :=
  ∀ before : List Notice, step.run.run before = (result, before ++ notices)

/-- A value comes without notices. -/
theorem comesTo_pure (value : α) : ComesTo (pure value : Compiling α) (.ok value) [] := by
  intro before
  rw [List.append_nil]
  rfl

/-- A notice is added. -/
theorem comesTo_notify (notice : Notice) : ComesTo (notify notice) (.ok ()) [notice] :=
  fun _ => rfl

/-- A defect that was found adds no notices. -/
theorem comesTo_stopAt_some (found : Defect) :
    ComesTo (stopAt (some found)) (.error found) [] := by
  intro before
  rw [List.append_nil]
  rfl

/-- Two steps in a row add the notices of both. -/
theorem comesTo_bind {first : Compiling α} {next : α → Compiling β} {value : α}
    {result : Except Defect β} {earlier later : List Notice}
    (start : first.ComesTo (.ok value) earlier) (rest : (next value).ComesTo result later) :
    ComesTo (first >>= next) result (earlier ++ later) := by
  intro before
  rw [ExceptT.run_bind, StateT.run_bind, start before, ← List.append_assoc]
  exact rest (before ++ earlier)

/-- A defect stops a row of steps. -/
theorem comesTo_bind_error {first : Compiling α} {next : α → Compiling β} {defect : Defect}
    {notices : List Notice} (start : first.ComesTo (.error defect) notices) :
    ComesTo (first >>= next) (.error defect) notices := by
  intro before
  rw [ExceptT.run_bind, StateT.run_bind, start before]
  rfl

/-- A check adds its notices if it passes, and has not warned of anything where it stops. -/
def Checks (step : Compiling Unit) (notices : List Notice) : Prop :=
  step.ComesTo (.ok ()) notices ∨
    ∃ defect earlier, step.ComesTo (.error defect) earlier ∧ Silent earlier

/-- Looking for a defect adds no notices. -/
theorem checks_stopAt (defect : Option Defect) : Checks (stopAt defect) [] := by
  cases defect with
  | none => exact Or.inl (comesTo_pure ())
  | some found => exact Or.inr ⟨found, [], comesTo_stopAt_some found, silent_nil⟩

/-- A silent check may come before another one. -/
theorem checks_bind {first next : Compiling Unit} {earlier later : List Notice}
    (start : first.Checks earlier) (silent : Silent earlier) (rest : next.Checks later) :
    Checks (first >>= fun _ => next) (earlier ++ later) := by
  rcases start with passes | ⟨defect, notices, stops, quiet⟩
  · rcases rest with passesToo | ⟨defect, notices, stops, quiet⟩
    · exact Or.inl (comesTo_bind passes passesToo)
    · exact Or.inr ⟨defect, _, comesTo_bind passes stops, silent.append quiet⟩
  · exact Or.inr ⟨defect, notices, comesTo_bind_error stops, quiet⟩

/-- Silent checks over a list add the notices of all its members. -/
theorem checks_forM (items : List α) (step : α → Compiling Unit) (notices : α → List Notice)
    (each : ∀ item, (step item).Checks (notices item)) (silent : ∀ item, Silent (notices item)) :
    Checks (items.forM step) (items.flatMap notices) := by
  induction items with
  | nil => exact Or.inl (comesTo_pure ())
  | cons item rest inductionHypothesis =>
    exact checks_bind (each item) (silent item) inductionHypothesis

/-- Notices are given one after the other. -/
theorem comesTo_forM_notify (names : List String) (notice : String → Notice) :
    ComesTo (names.forM fun name => notify (notice name)) (.ok ()) (names.map notice) := by
  induction names with
  | nil => exact comesTo_pure ()
  | cons name rest inductionHypothesis =>
    exact comesTo_bind (comesTo_notify (notice name)) inductionHypothesis

end Compiling

open Compiling

/-! ## Checks of a scope -/

/-- The notice of a node whose condition is an expression. -/
def Node.remarks (node : Node) (workflow : String) : List Notice :=
  ((node.activeCondition.filter fun condition => !Condition.outcomes.contains condition).map
    (Notice.expression node.name workflow)).toList

/-- Remarks on conditions are silent. -/
theorem silent_remarks (node : Node) (workflow : String) : Silent (node.remarks workflow) := by
  intro name other member
  rw [Node.remarks, Option.mem_toList, Option.map_eq_some_iff] at member
  obtain ⟨_, _, impossible⟩ := member
  cases impossible

/-- Checking the condition of a node. -/
theorem checks_checkCondition (workflow : String) (graph : Graph) (node : Node) :
    (checkCondition workflow graph node).Checks (node.remarks workflow) := by
  rw [checkCondition, Node.remarks]
  cases node.activeCondition with
  | none => exact Or.inl (comesTo_pure ())
  | some condition =>
    apply checks_bind (checks_stopAt _) silent_nil
    by_cases outcome : Condition.outcomes.contains condition = true
    · rw [if_pos outcome]
      simp only [Option.filter_some, outcome, Bool.not_true, Bool.false_eq_true, if_false]
      exact Or.inl (comesTo_pure ())
    · rw [if_neg outcome]
      simp only [Option.filter_some, outcome, Bool.not_false, if_true]
      exact Or.inl (comesTo_notify _)

/-- Checking the graph of a scope: the warnings come last. -/
theorem checks_checkGraph (workflow : String) (declared : List String) (nodes : List Node) :
    (checkGraph workflow declared nodes).Checks
      (nodes.flatMap (fun node => node.remarks workflow) ++
        (unreachable workflow declared (graphOf nodes)).map fun name =>
          .unreachable name workflow) := by
  have conditions := checks_forM nodes (checkCondition workflow (graphOf nodes)) _
    (checks_checkCondition workflow (graphOf nodes)) fun node => silent_remarks node workflow
  have silent : Silent (nodes.flatMap fun node => node.remarks workflow) := by
    intro name other member
    obtain ⟨node, _, inside⟩ := List.mem_flatMap.mp member
    exact silent_remarks node workflow name other inside
  have warnings := comesTo_forM_notify (unreachable workflow declared (graphOf nodes))
    fun name => .unreachable name workflow
  apply checks_bind (checks_stopAt _) silent_nil
  apply checks_bind (checks_stopAt _) silent_nil
  exact checks_bind conditions silent (Or.inl warnings)

/-! ## Closing scopes -/

/-- A step closes scopes in order: all of them if it comes to a value, and otherwise those before
the place where it stops, behind which there is no warning. -/
def Compiling.Closes {α : Type} (step : Compiling α) (given : Entries) (scopes : List Scope) :
    Prop :=
  ∃ result closed rest last, scopes = closed ++ rest ∧ (∀ scope ∈ closed, scope.Passes given) ∧
    step.ComesTo result (closed.flatMap Scope.notices ++ last) ∧ Silent last ∧
    ((∃ value, result = .ok value) → rest = [] ∧ last = [])

namespace Compiling

variable {α β : Type} {given : Entries}

/-- A value closes nothing. -/
theorem closes_pure (value : α) : Closes (pure value : Compiling α) given [] :=
  ⟨_, [], [], [], rfl, by simp, comesTo_pure value, silent_nil, fun _ => ⟨rfl, rfl⟩⟩

/-- A step that stops without a warning closes nothing, whatever there is to close. -/
theorem closes_error {step : Compiling α} {defect : Defect} {notices : List Notice}
    (stops : step.ComesTo (.error defect) notices) (silent : Silent notices)
    (scopes : List Scope) : step.Closes given scopes :=
  ⟨_, [], scopes, notices, rfl, by simp, stops, silent, nofun⟩

/-- Looking for a defect closes nothing; if there is none, what comes after it counts. -/
theorem closes_stopAt {defect : Option Defect} {next : Unit → Compiling α} {scopes : List Scope}
    (rest : defect = none → (next ()).Closes given scopes) :
    Closes (stopAt defect >>= next) given scopes := by
  cases defect with
  | none => exact rest rfl
  | some found =>
    exact closes_error (comesTo_bind_error (comesTo_stopAt_some found)) silent_nil scopes

/-- Two steps in a row close the scopes of both. What the second one does matters only after the
first one came to a value. -/
theorem closes_bind {first : Compiling α} {next : α → Compiling β} {scopes others : List Scope}
    (start : first.Closes given scopes)
    (rest : ∀ value notices, first.ComesTo (.ok value) notices → (next value).Closes given others) :
    Closes (first >>= next) given (scopes ++ others) := by
  obtain ⟨result, closed, left, last, whole, passed, comes, silent, ends⟩ := start
  cases result with
  | error defect =>
    exact ⟨_, closed, left ++ others, last, by rw [whole, List.append_assoc], passed,
      comesTo_bind_error comes, silent, nofun⟩
  | ok value =>
    obtain ⟨rfl, rfl⟩ := ends ⟨value, rfl⟩
    obtain ⟨result, closedToo, left, last, wholeToo, passedToo, comesToo, silent, endsToo⟩ :=
      rest value _ comes
    rw [List.append_nil] at whole comes
    refine ⟨result, closed ++ closedToo, left, last, ?_, ?_, ?_, silent, endsToo⟩
    · rw [whole, wholeToo, List.append_assoc]
    · intro scope member
      rcases List.mem_append.mp member with there | there
      · exact passed scope there
      · exact passedToo scope there
    · rw [List.flatMap_append, List.append_assoc]
      exact comesTo_bind comes comesToo

/-- What is made of the value of a step closes the scopes of the step. -/
theorem closes_return {step : Compiling α} {scopes : List Scope} (make : α → β)
    (closes : step.Closes given scopes) :
    Closes (step >>= fun value => pure (make value)) given scopes := by
  have ends (value : α) : Closes (pure (make value) : Compiling β) given [] :=
    closes_pure (make value)
  have both := closes_bind closes fun value _ _ => ends value
  rwa [List.append_nil] at both

/-- A step that comes to a value meets its condition. -/
theorem ComesTo.holds {step : Compiling α} {condition : Prop} {value result : α}
    {notices : List Notice} (gives : step.GivesIff condition value)
    (comes : step.ComesTo (.ok result) notices) : condition ∧ result = value := by
  apply (gives [] result).mp
  rw [comes []]

end Compiling

end Flow

namespace Scope

open Jobflow.Flow Jobflow.Flow.Compiling

/-- The remarks on the compiled nodes of a scope are those on its declared nodes. -/
theorem flatMap_remarks_emitted (scope : Scope) :
    scope.emitted.flatMap (fun node => node.remarks scope.header.name) =
      scope.nodes.filterMap fun node =>
        node.expression?.map (Notice.expression node.name scope.header.name) := by
  have own : (ownNode scope.header).remarks scope.header.name = [] := rfl
  rw [emitted, List.flatMap_append, List.flatMap_singleton, own, List.append_nil,
    emitNodes_eq_map]
  induction scope.nodes with
  | nil => rfl
  | cons node rest inductionHypothesis =>
    have first : (emitNode node).remarks scope.header.name =
        (node.expression?.map (Notice.expression node.name scope.header.name)).toList := by
      rw [Node.remarks, Node.activeCondition, emitNode_condition, emitNode_name]
      rfl
    rw [List.map_cons, List.flatMap_cons, inductionHypothesis, first, List.filterMap_cons]
    cases node.expression? <;> rfl

/-- Completing a scope first says whether it has no targets. -/
theorem comesTo_closeScope (scope : Scope) {result : Except Defect (List Node)}
    {notices : List Notice}
    (comes : ComesTo (do
      checkGraph scope.header.name (scope.nodes.map Declaration.name) scope.emitted
      return scope.emitted) result notices) :
    (closeScope scope.header (emitNodes scope.nodes)).ComesTo result
      ((if scope.header.targets.toList.isEmpty then [.noTargets scope.header.name] else []) ++
        notices) := by
  rw [← map_name_emitNodes] at comes
  unfold closeScope
  split
  · exact comesTo_bind (comesTo_notify _) comes
  · exact comes

/-- Completing a scope closes it, once its names were found to be distinct and its declared nodes
are compiled. -/
theorem closes_closeScope (scope : Scope) (given : Entries)
    (names : nameDefect? scope.header.name (scope.nodes.map Declaration.name) = none)
    (nodes : ∀ node ∈ scope.nodes, scope.NodePasses given node) :
    (closeScope scope.header (emitNodes scope.nodes)).Closes given [scope] := by
  rcases checks_checkGraph scope.header.name (scope.nodes.map Declaration.name) scope.emitted with
    comes | ⟨defect, earlier, stops, silent⟩
  · have graph := (comes.holds (givesIff_checkGraph _ _ _)).1
    have passes : scope.Passes given :=
      (scope.forall_passes_iff given).mpr ⟨names, nodes, graph⟩ scope (.self scope)
    have whole := scope.comesTo_closeScope (comesTo_bind comes (comesTo_pure scope.emitted))
    rw [scope.unreachable_eq given passes, flatMap_remarks_emitted, List.append_nil,
      ← List.append_assoc] at whole
    refine ⟨.ok scope.emitted, [scope], [], [], rfl, by simpa using passes, ?_, silent_nil,
      fun _ => ⟨rfl, rfl⟩⟩
    rw [List.flatMap_singleton, List.append_nil]
    exact whole
  · refine closes_error (scope.comesTo_closeScope (comesTo_bind_error stops)) ?_ [scope]
    refine Silent.append ?_ silent
    intro node workflow member
    split at member
    · cases List.mem_singleton.mp member
    · cases member

mutual

/-- Compiling declared nodes closes the scopes among them. -/
theorem closes_compileNodes (scope : Scope) (given : Entries) :
    ∀ declarations : List Declaration,
      (compileNodes scope.header.name (scope.properties given) declarations).Closes given
        (scopesAmong scope.workflows declarations)
  | [] => by
    rw [compileNodes, scopesAmong]
    exact closes_pure _
  | declaration :: rest => by
    have first := closes_compileNode scope given declaration
    have later := closes_compileNodes scope given rest
    rw [compileNodes, scopesAmong]
    exact closes_bind first fun node _ _ => closes_return (node :: ·) later

/-- Compiling a declared node closes its scopes. -/
theorem closes_compileNode (scope : Scope) (given : Entries) :
    ∀ declaration : Declaration,
      (compileNode scope.header.name (scope.properties given) declaration).Closes given
        (scopesOf scope.workflows declaration)
  | .job name job => by
    rw [compileNode, scopesOf]
    exact closes_stopAt fun _ => closes_pure (jobNode name job)
  | .workflow header declarations => by
    have nodes := closes_compileNodes (scope.inner header declarations) given declarations
    rw [compileNode, scopesOf, ← scope.properties_inner header declarations given]
    refine closes_stopAt fun names => closes_bind nodes fun compiled notices comes => ?_
    obtain ⟨passes, rfl⟩ :=
      comes.holds (givesIff_compileNodes (scope.inner header declarations) given declarations)
    exact closes_return (flowNode header)
      ((scope.inner header declarations).closes_closeScope given names passes)

end

end Scope

namespace Flow

open Compiling

/-- Compiling the scope of a workflow closes all its scopes. -/
theorem closes_compileScope (workflow : Workflow) (given : Entries) :
    (compileScope workflow (.ofSources [given])).Closes given workflow.scope.scopes := by
  have nodes := Scope.closes_compileNodes workflow.scope given workflow.nodes
  refine closes_stopAt fun names => closes_bind nodes fun compiled notices comes => ?_
  obtain ⟨passes, rfl⟩ :=
    comes.holds (Scope.givesIff_compileNodes workflow.scope given workflow.nodes)
  exact workflow.scope.closes_closeScope given names passes

/-- The notices of a compilation: those of the scopes that were closed, between the notice that it
begins and what comes after the last warning. All scopes were closed exactly if there is a flow. -/
theorem exists_notices (workflow : Workflow) (given : Entries) :
    ∃ closed rest last, workflow.scope.scopes = closed ++ rest ∧
      (∀ scope ∈ closed, scope.Passes given) ∧
      ((∃ flow, (compileRun workflow given).1 = .ok flow) ↔ rest = []) ∧
      (compileRun workflow given).2 =
        .compiling workflow.header.name :: (closed.flatMap Scope.notices ++ last) ∧
      Silent last := by
  obtain ⟨result, closed, rest, last, whole, passed, comes, silent, ends⟩ :=
    closes_compileScope workflow given
  have compiles : rest = [] → ∃ flow, (compileRun workflow given).1 = .ok flow := by
    rintro rfl
    rw [List.append_nil] at whole
    refine ⟨_, (compileRun_eq_ok_iff workflow given _).mpr ⟨fun scope held => ?_, rfl⟩⟩
    exact passed scope (whole ▸ (workflow.scope.mem_scopes_iff scope).mpr held)
  cases result with
  | ok nodes =>
    obtain ⟨rfl, rfl⟩ := ends ⟨nodes, rfl⟩
    have run : ComesTo (compile workflow given) (.ok _) _ :=
      comesTo_bind (comesTo_notify _) (comesTo_bind comes
        (comesTo_bind (comesTo_notify (.compiled workflow.header.name nodes.length))
          (comesTo_pure _)))
    refine ⟨closed, [], [.compiled workflow.header.name nodes.length], whole, passed,
      ⟨fun _ => rfl, compiles⟩, ?_, ?_⟩
    · rw [compileRun, run []]
      simp
    · intro node other member
      cases List.mem_singleton.mp member
  | error defect =>
    have run : ComesTo (compile workflow given) (.error defect) _ :=
      comesTo_bind (comesTo_notify _) (comesTo_bind_error comes)
    refine ⟨closed, rest, last, whole, passed, ⟨?_, compiles⟩, ?_, silent⟩
    · rintro ⟨flow, compiled⟩
      rw [compileRun, run []] at compiled
      cases compiled
    · rw [compileRun, run []]
      rfl

/-- Compiling warns, scope by scope, about the declared nodes that the scope does not need, once
each and in the order of their declaration, after the scope has passed all its checks; where a
check fails, no warning follows. The nodes that a node depends on, from which this is decided, are
collected in finitely many steps in every closed graph, whichever pending name is looked at next,
and they are exactly those that the node reaches. -/
theorem warnings_eq_unneeded :
    (∀ (workflow : Workflow) (given : Entries), ∃ closed rest last,
      workflow.scope.scopes = closed ++ rest ∧
      (∀ scope ∈ closed, scope.Valid given ∧ scope.unneeded.Nodup) ∧
      ((∃ flow, (compileRun workflow given).1 = .ok flow) ↔ rest = []) ∧
      (compileRun workflow given).2 =
        .compiling workflow.header.name :: (closed.flatMap Scope.notices ++ last) ∧
      Silent last) ∧
    ∀ graph : Graph, graph.Closed → ∀ name,
      (¬ ∃ states : Nat → Graph.Collection, ∀ n, graph.Looks (states n) (states (n + 1))) ∧
      (∀ state, Relation.ReflTransGen graph.Looks (.start graph name) state →
        (state.pending ≠ [] → ∃ later, graph.Looks state later) ∧
        (state.pending = [] → state.seen.Nodup ∧
          ∀ other, other ∈ state.seen ↔ graph.Reaches name other)) ∧
      Relation.ReflTransGen graph.Looks (.start graph name) ⟨[], graph.ancestors name⟩ ∧
      ∀ other, other ∈ graph.ancestors name ↔ graph.Reaches name other := by
  constructor
  · intro workflow given
    obtain ⟨closed, rest, last, whole, passed, compiles, notices, silent⟩ :=
      exists_notices workflow given
    refine ⟨closed, rest, last, whole, fun scope member => ?_, compiles, notices, silent⟩
    have valid := (scope.passes_iff_valid given).mp (passed scope member)
    exact ⟨valid, (List.nodup_cons.mp valid.distinct).2.filter _⟩
  · intro graph closed name
    refine ⟨graph.no_endless_collection, fun state run => ?_, Graph.looks_ancestors closed name,
      graph.mem_ancestors_iff name⟩
    have collecting := Graph.collecting_run run
    exact ⟨collecting.exists_looks closed,
      fun finished => ⟨collecting.distinct, collecting.mem_seen_iff finished⟩⟩

/-- The dependencies of a report and of what it waits for are collected, although these wait for
each other. -/
theorem loadAndReport_collected :
    Graph.loadAndReport.Closed ∧
      Relation.ReflTransGen Graph.loadAndReport.Looks (.start Graph.loadAndReport "report")
        ⟨[], ["report", "fetch", "load"]⟩ ∧
      ∀ other, other ∈ ["report", "fetch", "load"] ↔
        Graph.loadAndReport.Reaches "report" other := by
  have nodes : ∀ name ∈ Graph.loadAndReport.keys,
      ∀ other ∈ Graph.loadAndReport.next name, other ∈ Graph.loadAndReport.keys := by decide
  have closed : Graph.loadAndReport.Closed := fun name other edge =>
    nodes name (Graph.loadAndReport.mem_keys_of_edge name other edge) other edge
  have found : Graph.loadAndReport.ancestors "report" = ["report", "fetch", "load"] := by cbv
  obtain ⟨_, _, run, reached⟩ := warnings_eq_unneeded.2 Graph.loadAndReport closed "report"
  rw [found] at run reached
  exact ⟨closed, run, reached⟩

/-- A workflow with two nodes that its target does not depend on, one of them an embedded workflow
without targets. -/
def untidy : Workflow where
  header := { name := "nightly", targets := ⟨["publish"], by decide⟩ }
  nodes :=
    [ .job "tidy" { jobClass := .noop, type := .text "noop" },
      .workflow { name := "audit" } [.job "count" { jobClass := .noop, type := .text "noop" }],
      .job "publish"
        { jobClass := .plain, type := .text "command", dependencies := ⟨["gather"], by decide⟩ },
      .job "gather" { jobClass := .plain, type := .text "command" } ]

example : (compileRun untidy []).2 =
    [.compiling "nightly", .noTargets "audit", .unreachable "count" "audit",
      .unreachable "tidy" "nightly", .unreachable "audit" "nightly", .compiled "nightly" 5] := by
  cbv

end Flow

end Jobflow
