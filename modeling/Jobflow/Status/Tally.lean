import Jobflow.Logged
import Jobflow.Text.Cut

/-!
# Tallies of job statuses

How many jobs have each status. The statuses that servers are known to report come in a
fixed order; others are counted as well, but appear in the quoted form only.
-/

namespace Jobflow.Status

/-- The known statuses, in the order in which they are displayed. -/
def labels : List String :=
  ["READY", "QUEUED", "PREPARING", "RUNNING", "PAUSED", "SUCCEEDED", "FAILED",
    "FAILED_FINISHING", "KILLING", "KILLED", "CANCELLED", "SKIPPED", "DISABLED"]

/-- Counts by status, in the order in which the statuses were first met. -/
structure Tally where
  /-- The count of every status met. -/
  counts : List (Value × Nat)

namespace Tally

/-- The tally of no jobs. -/
def empty : Tally := ⟨labels.map fun label => (.text label, 0)⟩

/-- The count of a status. -/
def count (tally : Tally) (label : Value) : Nat :=
  ((tally.counts.find? fun entry => label.same entry.1).map Prod.snd).getD 0

/-- Count one more job in a list of counts. -/
def bump (label : Value) : List (Value × Nat) → List (Value × Nat)
  | [] => [(label, 1)]
  | (other, n) :: rest =>
    if label.same other then (other, n + 1) :: rest else (other, n) :: bump label rest

/-- Whether a status was met before or is a known one. -/
def knows (tally : Tally) (label : Value) : Bool :=
  tally.counts.any fun entry => label.same entry.1

/-- The log entry of a status that is met for the first time without being known. -/
def unknownStatus (label : Value) : LogEntry :=
  ⟨.debug, "Unknown job status " ++ label.repr ++ "."⟩

/-- Count one more job with a status. A status that is a list or mapping cannot be
counted. -/
def increment (tally : Tally) (label : Value) : Logged Tally := do
  unless label.isKey do throw (.mishap .wrongShape)
  unless tally.knows label do Logged.log (some (unknownStatus label))
  return ⟨bump label tally.counts⟩

/-- The tally of the jobs with the given statuses. -/
def ofStatuses (statuses : List Value) : Logged Tally := statuses.foldlM increment .empty

/-- The counts of the known statuses, in their order. -/
def values (tally : Tally) : List Nat := labels.map fun label => tally.count (.text label)

/-- The quoted form of a tally: the counts other than zero, sorted by status. Statuses of
different kinds have no order. -/
def repr (tally : Tally) : Except Mishap String := do
  let sorted ←
    match Value.sorted? (tally.counts.map Prod.fst) with
    | some sorted => .ok sorted
    | none => .error .wrongShape
  let shown := sorted.filter fun label => tally.count label != 0
  return "<StatusTally(" ++
    Text.join ", " (shown.map fun label => label.str ++ "=" ++ toString (tally.count label)) ++ ")>"

end Tally

end Jobflow.Status
