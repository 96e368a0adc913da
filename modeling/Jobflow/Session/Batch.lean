import Jobflow.Session.Api

/-!
# Batches

A batch asks for several things at a time, each under a key. What a request comes to, a
document or a fault, is its outcome. Several requests are under way at a time: a schedule
says in which order they reach the server and in which order they are completed, and
outcomes come in the latter. A request that fails does not keep the others from being
answered: its fault is logged and becomes its result. A rejected session would fail every
request and stops the batch, and so do faults without wording.
-/

namespace Jobflow.Session

variable [Handlers]

/-- What became of the request of a key. -/
abbrev Outcome := Value × Except Fault Value

/-- Whether a fault is the result of its request, rather than stopping the batch. -/
def isResult : Fault → Bool
  | .mishap _ => false
  | .invalidPlacement _ => false
  | .noModulePath _ => false
  | .transport .. => true
  | fault => !fault.isSessionRejected

/-- The results among outcomes in the order of their completion, up to one that stops the
batch: the outcomes that count, and what stops it. -/
def collect : List Outcome → List Outcome × Option Fault
  | [] => ([], none)
  | (key, .ok document) :: rest =>
    let (results, stop) := collect rest
    ((key, .ok document) :: results, stop)
  | (key, .error fault) :: rest =>
    if isResult fault then
      let (results, stop) := collect rest
      ((key, .error fault) :: results, stop)
    else ([], some fault)

/-- Log the result of a request that failed. -/
def logResult : Outcome → Call Unit
  | (_, .ok _) => pure ()
  | (key, .error fault) =>
    Call.log .warning "Request for %s failed: %s" [key, .text fault.text]

/-- Send the requests of some keys one after the other. Once the session is rejected those
that are left are not sent. -/
def sendAll (ask : Value → Call Value) : List Value → Call (List Outcome)
  | [] => pure []
  | key :: rest => do
    match ← (ask key).outcome with
    | .ok document => return (key, .ok document) :: (← sendAll ask rest)
    | .error fault =>
      if fault.isSessionRejected then return [(key, .error fault)]
      else return (key, .error fault) :: (← sendAll ask rest)

/-- The distinct keys of a list, each at its first occurrence. -/
def distinctKeys (keys : List Value) : Except Mishap (List Value) :=
  if keys.all Value.isKey then .ok (Value.distinct keys) else .error .wrongShape

/-- The orders of a batch, in which nothing is lost and nothing comes twice. -/
structure Schedule where
  /-- The order in which the requests of some keys reach the server. -/
  sending : List Value → List Value
  /-- The order in which requests with some outcomes are completed. -/
  completing : List Outcome → List Outcome
  /-- Every key is asked for once. -/
  sending_perm : ∀ keys, (sending keys).Perm keys
  /-- Every outcome is met once. -/
  completing_perm : ∀ outcomes, (completing outcomes).Perm outcomes

/-- One request after the other. -/
def Schedule.inOrder : Schedule where
  sending keys := keys
  completing outcomes := outcomes
  sending_perm _ := .refl _
  completing_perm _ := .refl _

/-- Ask for something under each of some keys, by a schedule: the results by key, in the
order of completion. -/
def batchIn (schedule : Schedule) (ask : Value → Call Value) (keys : List Value) :
    Call (List Outcome) := do
  let keys ← Call.act (Action.ofMishap (distinctKeys keys))
  if keys.isEmpty then return []
  if (← Call.session).workers ≤ 0 then throw (.mishap .badValue)
  let outcomes ← sendAll ask (schedule.sending keys)
  let (results, stop) := collect (schedule.completing outcomes)
  results.forM logResult
  match stop with
  | some fault => throw fault
  | none => return results

/-- The latest execution of each of some flows, by a schedule. -/
def latestExecutionsIn (schedule : Schedule) (project : Value) (flows : List Value) :
    Call (List Outcome) :=
  batchIn schedule (fun flow => executions project flow (.int 0) (.int 1)) flows

/-- The latest execution of each of some flows. -/
def latestExecutions (project : Value) (flows : List Value) : Call (List Outcome) :=
  latestExecutionsIn .inOrder project flows

/-- The states of some executions, by a schedule. -/
def executionStatesIn (schedule : Schedule) (ids : List Value) : Call (List Outcome) :=
  batchIn schedule execution ids

/-- The states of some executions. -/
def executionStates (ids : List Value) : Call (List Outcome) := executionStatesIn .inOrder ids

end Jobflow.Session
