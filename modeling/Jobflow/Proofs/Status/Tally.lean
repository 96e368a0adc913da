import Jobflow.Proofs.Logged
import Jobflow.Proofs.Value
import Jobflow.Status.Tally

/-!
# What tallies count

Counting a job adds one to the count of its own status and leaves the counts of all other
texts. The tally of some jobs hence has, for every text, the number of jobs with just that
status, whatever other statuses were met in between.
-/

namespace Jobflow.Status.Tally

/-- The count of a text in a list of counts. -/
def countIn (counts : List (Value × Nat)) (label : String) : Nat :=
  ((counts.find? fun entry => (Value.text label).same entry.1).map Prod.snd).getD 0

/-- The first entry of a text has its count. -/
theorem countIn_cons (status : Value) (n : Nat) (rest : List (Value × Nat)) (label : String) :
    countIn ((status, n) :: rest) label =
      if (Value.text label).same status = true then n else countIn rest label := by
  rw [countIn, List.find?_cons]
  cases here : (Value.text label).same status <;> simp [countIn]

/-- One more job with a status counts for the text that the status is. -/
theorem countIn_bump (status : Value) (counts : List (Value × Nat)) (label : String) :
    countIn (bump status counts) label =
      countIn counts label + if status.text? = some label then 1 else 0 := by
  induction counts with
  | nil =>
    have found : (Value.text label).same status = true ↔ status.text? = some label :=
      (Value.text_same_iff label status).trans (Value.text?_eq_some_iff status label).symm
    simp only [bump, countIn_cons, found]
    exact (Nat.zero_add _).symm
  | cons entry rest inductionHypothesis =>
    obtain ⟨other, n⟩ := entry
    rw [bump]
    by_cases here : (Value.text label).same other = true
    · have same := (Value.text_same_iff label other).mp here
      subst same
      have met : status.same (.text label) = true ↔ status.text? = some label :=
        (Value.same_text_iff status label).trans (Value.text?_eq_some_iff status label).symm
      rw [countIn_cons, if_pos here]
      by_cases own : status.text? = some label
      · rw [if_pos (met.mpr own), countIn_cons, if_pos here, if_pos own]
      · rw [if_neg (fun same => own (met.mp same)), countIn_cons, if_pos here, if_neg own]
        rfl
    · rw [countIn_cons, if_neg here]
      split
      · rename_i met
        have own : ¬ status.text? = some label := by
          intro named
          rw [(Value.text?_eq_some_iff status label).mp named] at met
          exact here met
        rw [countIn_cons, if_neg here, if_neg own]
        rfl
      · rw [countIn_cons, if_neg here, inductionHypothesis]

/-- The tally of jobs with some statuses. -/
def counted (statuses : List Value) : Tally :=
  statuses.foldl (fun tally status => ⟨bump status tally.counts⟩) .empty

/-- Every text is counted as often as it is a status. -/
theorem count_counted (statuses : List Value) (label : String) :
    (counted statuses).count (.text label) =
      statuses.countP fun status => status.text? == some label := by
  have none : countIn empty.counts label = 0 := by
    simp only [countIn, empty, List.find?_map, Option.map_map]
    cases labels.find? _ <;> rfl
  have onto (tally : Tally) :
      (statuses.foldl (fun tally status => ⟨bump status tally.counts⟩) tally).count (.text label) =
        countIn tally.counts label + statuses.countP fun status => status.text? == some label := by
    induction statuses generalizing tally with
    | nil => simp [count, countIn]
    | cons status rest inductionHypothesis =>
      rw [List.foldl_cons, inductionHypothesis, countIn_bump, List.countP_cons]
      simp only [beq_iff_eq]
      omega
  rw [counted, onto, none, Nat.zero_add]

/-- Statuses that can be counted are tallied. -/
theorem gives_ofStatuses (statuses : List Value)
    (keyable : ∀ status ∈ statuses, status.isKey = true) :
    (ofStatuses statuses).Gives (counted statuses) := by
  have onto (tally : Tally) : Logged.Gives (statuses.foldlM increment tally)
      (statuses.foldl (fun tally status => ⟨bump status tally.counts⟩) tally) := by
    induction statuses generalizing tally with
    | nil => exact Logged.gives_pure tally
    | cons status rest inductionHypothesis =>
      have first : (increment tally status).Gives ⟨bump status tally.counts⟩ := by
        rw [increment, keyable status List.mem_cons_self]
        show Logged.Gives (if tally.knows status = true then pure (Tally.mk (bump status tally.counts))
          else do
            Logged.log (some (unknownStatus status))
            return Tally.mk (bump status tally.counts)) _
        split
        · exact Logged.gives_pure _
        · exact Logged.gives_bind (Logged.gives_log _) (Logged.gives_pure _)
      rw [List.foldlM_cons, List.foldl_cons]
      exact Logged.gives_bind first
        (inductionHypothesis (fun other member => keyable other (List.mem_cons_of_mem _ member)) _)
  exact onto .empty

end Jobflow.Status.Tally
