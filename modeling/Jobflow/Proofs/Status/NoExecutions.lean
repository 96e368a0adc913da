import Jobflow.Proofs.Session.Senders
import Jobflow.Proofs.Status.Query

/-!
# Projects without executions

A query of which no flow has an execution comes to a message instead of tables. It is decided
after the flows whose executions could not be fetched were left out, so that it does not tell
a request that failed from a flow without executions: the message is reported if no request
about a flow came to an execution, for whatever reason, even if all of them failed.
-/

namespace Jobflow.Status

open Session (Outcome Schedule IsAnswer senders completed)

/-- The report on a project without executions. -/
def noExecutions (project : Value) : Report where
  message := .text ("Project " ++ project.str ++ " has no previously executed flows.")

/-- A request about a flow comes to no execution: it fails, or it is answered with a listing
without any. -/
def FindsNone : Except Fault Value → Prop
  | .ok document => latestId document = .ok .null
  | .error fault => Session.isResult fault = true

/-- A request that comes to no execution is answered. -/
theorem FindsNone.isAnswer {result : Except Fault Value} (none : FindsNone result) :
    IsAnswer result := by
  rintro fault rfl
  exact none

/-! ## Reading the ids -/

/-- Outcomes without executions give no ids. -/
theorem exists_gives_latestIds (outcomes : List Outcome)
    (none : ∀ outcome ∈ outcomes, FindsNone outcome.2) :
    ∃ ids, (latestIds outcomes).Gives ids ∧ (ids.all fun entry => entry.2.same .null) = true := by
  induction outcomes with
  | nil => exact ⟨[], Logged.gives_pure [], rfl⟩
  | cons outcome rest inductionHypothesis =>
    obtain ⟨ids, given, null⟩ :=
      inductionHypothesis fun other member => none other (List.mem_cons_of_mem _ member)
    obtain ⟨flow, result⟩ := outcome
    have first : FindsNone result := none _ List.mem_cons_self
    cases result with
    | ok document =>
      refine ⟨(flow, .null) :: ids, ?_, ?_⟩
      · rw [latestIds]
        exact Logged.gives_bind (Logged.gives_ofMishap first)
          (Logged.gives_bind given (Logged.gives_pure _))
      · rw [List.all_cons, null]
        rfl
    | error fault =>
      refine ⟨ids, ?_, null⟩
      rw [latestIds]
      exact Logged.gives_bind (Logged.gives_log _) given

/-- If no ids are read from answers, these have no executions. -/
theorem findsNone_of_latestIds (outcomes : List Outcome) (before after : Log)
    (ids : List (Value × Value)) (answers : ∀ outcome ∈ outcomes, IsAnswer outcome.2)
    (read : (latestIds outcomes).run.run before = (.ok ids, after))
    (null : (ids.all fun entry => entry.2.same .null) = true) :
    ∀ outcome ∈ outcomes, FindsNone outcome.2 := by
  induction outcomes generalizing before after ids with
  | nil => exact List.forall_mem_nil _
  | cons outcome rest inductionHypothesis =>
    have later := fun other member => answers other (List.mem_cons_of_mem outcome member)
    obtain ⟨flow, result⟩ := outcome
    cases result with
    | ok document =>
      rw [latestIds] at read
      obtain ⟨id, middle, first, read⟩ := Logged.exists_of_bind_ok read
      obtain ⟨others, last, following, read⟩ := Logged.exists_of_bind_ok read
      obtain rfl : (flow, id) :: others = ids := Except.ok.inj (Prod.mk.inj read).1
      rw [List.all_cons, Bool.and_eq_true] at null
      have missing : id = .null := (Value.same_null_iff id).mp null.1
      subst missing
      exact List.forall_mem_cons.mpr ⟨Logged.eq_ok_of_ofMishap first,
        inductionHypothesis middle last others later following null.2⟩
    | error fault =>
      rw [latestIds] at read
      obtain ⟨_, middle, -, read⟩ := Logged.exists_of_bind_ok read
      exact List.forall_mem_cons.mpr ⟨answers _ List.mem_cons_self fault rfl,
        inductionHypothesis middle after ids later read null⟩

/-! ## What a query reports -/

/-- A report on executions has no message. -/
theorem message_report (options : QueryOptions) (flows : List Value) (executions : Executions)
    (link : Value → String) (now : Value) (before after : Log) (shown : Report)
    (run : (report options flows executions link now).run.run before = (.ok shown, after)) :
    shown.message = .null := by
  rw [report] at run
  obtain ⟨targets, middle, -, run⟩ := Logged.exists_of_bind_ok run
  dsimp only at run
  split at run
  · obtain ⟨tables, last, -, run⟩ := Logged.exists_of_bind_ok run
    rw [← Except.ok.inj (Prod.mk.inj run).1]
  · obtain ⟨table, last, -, run⟩ := Logged.exists_of_bind_ok run
    rw [← Except.ok.inj (Prod.mk.inj run).1]

/-- A query reports that there are no executions if no request about a flow comes to one. -/
theorem queryIn_of_findsNone (first second : Schedule) (project : Value) (options : QueryOptions)
    (start listed : Client) (flows : List Value)
    (listing : sortedFlows project start = (.ok flows, listed)) (some : flows ≠ [])
    (keyable : ∀ flow ∈ flows, flow.isKey = true) (workers : 0 < listed.session.workers)
    (none : ∀ entry ∈ senders (askLatest project) (first.sending (Value.distinct flows)) listed,
      FindsNone (askLatest project entry.1 entry.2).1) :
    (queryIn first second project options start).1 = .ok (noExecutions project) := by
  have done : (Session.latestExecutionsIn first project flows listed).1 =
      .ok (completed first (askLatest project) flows listed) :=
    (Session.batchIn_eq_ok_iff _ _ _ _ keyable workers _).mpr
      ⟨fun entry member => (none entry member).isAnswer, rfl⟩
  obtain ⟨ids, given, null⟩ := exists_gives_latestIds _
    ((Session.forall_completed_iff first (askLatest project) flows listed FindsNone).mpr none)
  obtain ⟨entries, read⟩ := Call.exists_act_apply given
    (Session.latestExecutionsIn first project flows listed).2
  rw [queryIn, Call.bind_of_ok _ listing, if_neg (mt List.isEmpty_iff.mp some)]
  show ((Session.latestExecutionsIn first project flows >>= fun outcomes => _) listed).1 = _
  rw [Call.bind_of_ok _ (Prod.ext done rfl : Session.latestExecutionsIn first project flows listed =
    (.ok (completed first (askLatest project) flows listed), _)),
    Call.bind_of_ok _ read, if_pos null]
  rfl

/-- If a query reports that there are no executions, its first batch came to outcomes from
which no ids are read. -/
theorem exists_of_queryIn_eq_noExecutions (first second : Schedule) (project : Value)
    (options : QueryOptions) (start : Client)
    (reported : (queryIn first second project options start).1 = .ok (noExecutions project)) :
    ∃ flows listed outcomes fetched ids noted,
      sortedFlows project start = (.ok flows, listed) ∧ flows ≠ [] ∧
      Session.latestExecutionsIn first project flows listed = (.ok outcomes, fetched) ∧
      Call.act (Action.ofLogged (latestIds outcomes)) fetched = (.ok ids, noted) ∧
      (ids.all fun entry => entry.2.same .null) = true := by
  have run : queryIn first second project options start = (.ok (noExecutions project), _) :=
    Prod.ext reported rfl
  rw [queryIn] at run
  obtain ⟨flows, listed, listing, run⟩ := Call.exists_of_bind_ok run
  by_cases empty : flows.isEmpty = true
  · -- Without flows there is another message.
    rw [if_pos empty] at run
    have message := congrArg Report.message (Except.ok.inj (Prod.mk.inj run).1)
    simp [noExecutions, String.ext_iff] at message
  · rw [if_neg empty] at run
    obtain ⟨outcomes, fetched, latest, run⟩ := Call.exists_of_bind_ok run
    obtain ⟨ids, noted, read, run⟩ := Call.exists_of_bind_ok run
    refine ⟨flows, listed, outcomes, fetched, ids, noted, listing, mt List.isEmpty_iff.mpr empty,
      latest, read, ?_⟩
    by_contra some
    -- With an id the query ends with a report on executions, which has no message.
    rw [if_neg some] at run
    obtain ⟨byId, _, -, run⟩ := Call.exists_of_bind_ok run
    obtain ⟨others, _, -, run⟩ := Call.exists_of_bind_ok run
    obtain ⟨executions, _, -, run⟩ := Call.exists_of_bind_ok run
    obtain ⟨client, _, -, run⟩ := Call.exists_of_bind_ok run
    rw [Call.act_ofLogged] at run
    have message := message_report _ _ _ _ _ [] _ _ (Prod.ext (Prod.mk.inj run).1 rfl)
    cases message

/-- A query reports that there are no executions exactly if flows are listed and each request
about the latest execution of one of them, sent by whatever client the schedule makes send it,
fails or is answered with a listing without executions. -/
theorem queryIn_eq_noExecutions_iff (first second : Schedule) (project : Value)
    (options : QueryOptions) (start : Client) :
    (queryIn first second project options start).1 = .ok (noExecutions project) ↔
      ∃ flows listed, sortedFlows project start = (.ok flows, listed) ∧ flows ≠ [] ∧
        (∀ flow ∈ flows, flow.isKey = true) ∧ 0 < listed.session.workers ∧
        ∀ entry ∈ senders (askLatest project) (first.sending (Value.distinct flows)) listed,
          FindsNone (askLatest project entry.1 entry.2).1 := by
  constructor
  · intro reported
    obtain ⟨flows, listed, outcomes, fetched, ids, noted, listing, some, latest, read, null⟩ :=
      exists_of_queryIn_eq_noExecutions first second project options start reported
    have done : (Session.batchIn first (askLatest project) flows listed).1 = .ok outcomes :=
      congrArg Prod.fst latest
    obtain ⟨keyable, workers⟩ := Session.ready_of_batchIn_eq_ok _ _ _ _ outcomes done
    obtain ⟨answers, rfl⟩ := (Session.batchIn_eq_ok_iff _ _ _ _ keyable (workers some) _).mp done
    refine ⟨flows, listed, listing, some, keyable, workers some, ?_⟩
    rw [← Session.forall_completed_iff first (askLatest project) flows listed] at answers ⊢
    rw [Call.act_ofLogged] at read
    exact findsNone_of_latestIds _ [] _ ids answers (Prod.ext (Prod.mk.inj read).1 rfl) null
  · rintro ⟨flows, listed, listing, some, keyable, workers, none⟩
    exact queryIn_of_findsNone first second project options start listed flows listing some keyable
      workers none

/-! ## A server that stops answering -/

/-- A server that lists three flows and is not reached any more. -/
def vanishing : Script :=
  [{ conditions := [("ajax", "fetchprojectflows")], replies := [plain flowsText] }]

/-- The session in front of the server. -/
def waiting : Client where
  session := watcher
  world := { folder := "/", tree := { files := .empty }, server := vanishing }

/-- No request about a flow is answered, and yet every query reports that there are no
executions. -/
theorem vanishing_reports_noExecutions :
    (∀ flow client, Serving watcher vanishing client →
        ∃ fault, (askLatest (.text "etl") (.text flow) client).1 = .error fault) ∧
      ∀ first second options, (queryIn first second (.text "etl") options waiting).1 =
        .ok (noExecutions (.text "etl")) := by
  have single : vanishing.Single := by
    intro rule member
    rw [List.mem_singleton.mp member]
    exact Nat.le_refl _
  have silent (flow : String) : ∃ url, Call.Runs (Serving watcher vanishing)
      (askLatest (.text "etl") (.text flow))
      (.error (Call.sendFault url (.transport .connection none "no route"))) :=
    Session.runs_executions_of_failure (.text "etl") (.int 0) (.int 1) flow single
      (rfl : watcher.id.truthy = true) .connection "no route" fun request ajax _ => by
        simp [vanishing, Script.reply_cons_fst, Rule.matches, ajax]
        rfl
  refine ⟨fun flow client serving => ?_, fun first second options => ?_⟩
  · obtain ⟨url, runs⟩ := silent flow
    exact ⟨_, (runs client serving).1⟩
  · obtain ⟨listing, serving⟩ := sortedFlows_threeFlows single (rfl : watcher.id.truthy = true)
      (fun request ajax => by
        simp [vanishing, Script.reply_cons_fst, Rule.matches, Rule.next?, ajax])
      waiting ⟨rfl, rfl⟩
    apply queryIn_of_findsNone first second (.text "etl") options waiting _ _ listing (by simp)
    · simp [Value.isKey]
    · rw [serving.session]
      decide
    · -- All senders are clients of the server, and none of them gets an answer.
      have text (flow : Value)
          (sent : flow ∈ first.sending (Value.distinct (["clean", "load", "report"].map .text))) :
          ∃ name, flow = .text name := by
        have known := Value.mem_of_mem_distinct _ _ ((first.sending_perm _).mem_iff.mp sent)
        obtain ⟨name, -, same⟩ := List.mem_map.mp known
        exact ⟨name, same.symm⟩
      rintro ⟨flow, sender⟩ member
      obtain ⟨sent, ready⟩ := Session.of_mem_senders (askLatest (.text "etl")) _ _ serving
        (fun flow sent client ready => by
          obtain ⟨name, rfl⟩ := text flow sent
          obtain ⟨url, runs⟩ := silent name
          exact (runs client ready).2) _ member
      obtain ⟨name, rfl⟩ := text flow sent
      obtain ⟨url, runs⟩ := silent name
      rw [(runs sender ready).1]
      rfl

end Jobflow.Status
