import Mathlib
import Jobflow.Proofs.Session.Senders

/-!
# Batches under way

A batch hands its requests to some workers. A request waits until a worker takes it up, then it is
running, and at some time it is finished. Meanwhile the batch meets the outcomes of finished requests
one after the other, until it has met them all or one of them stops it. Once the session is rejected,
requests that wait are cancelled, and workers may still take up some of them before.

Which request a worker takes up, when it is finished, which outcome is met next and which request is
cancelled when is left open. The outcome of a request is that of its key. So a batch is a relation
between its states, and what holds of every way to go on holds of any order in which requests are
finished. The batch that is carried out by a schedule is one of these ways.
-/

namespace Jobflow.Session

/-- A batch under way. -/
structure Round where
  /-- The keys whose requests wait for a worker. -/
  waiting : Multiset Value
  /-- The keys whose requests are running. -/
  running : Multiset Value := 0
  /-- The keys whose requests are finished, before their outcomes are met. -/
  finished : Multiset Value := 0
  /-- The keys whose requests were cancelled. -/
  cancelled : Multiset Value := 0
  /-- The keys whose requests were taken up, in order. -/
  requested : List Value := []
  /-- The results that were met, in order. -/
  results : List Outcome := []
  /-- The failures that were warned of, in order. -/
  warned : List (Value × Fault) := []
  /-- The key whose outcome stopped the batch, and the fault. -/
  stop : Option (Value × Fault) := none

namespace Round

/-- A batch that begins. Requests for equal keys are the same. -/
def start (keys : List Value) : Round where
  waiting := Value.distinct keys

/-- What the batch comes to if nothing more happens. -/
def result (round : Round) : Except Fault (List Outcome) :=
  match round.stop with
  | some (_, fault) => .error fault
  | none => .ok round.results

/-- The keys whose outcomes were met. -/
def met (round : Round) : List Value :=
  round.results.map Prod.fst ++ (round.stop.map Prod.fst).toList

/-- A step of a batch. -/
inductive Step (outcome : Value → Except Fault Value) (workers : Nat) : Round → Round → Prop
  /-- A worker takes up a request. -/
  | take {round : Round} {key : Value} {rest : Multiset Value}
    (idle : Multiset.card round.running < workers) (waits : round.waiting = key ::ₘ rest) :
    Step outcome workers round
      { round with
        waiting := rest
        running := key ::ₘ round.running
        requested := round.requested ++ [key] }
  /-- A worker finishes its request. -/
  | finish {round : Round} {key : Value} {rest : Multiset Value}
    (runs : round.running = key ::ₘ rest) :
    Step outcome workers round
      { round with running := rest, finished := key ::ₘ round.finished }
  /-- The batch meets an answer to a finished request, and warns of it if it is a failure. -/
  | meet {round : Round} {key : Value} {rest : Multiset Value} (goesOn : round.stop = none)
    (ready : round.finished = key ::ₘ rest) (answer : IsAnswer (outcome key)) :
    Step outcome workers round
      { round with
        finished := rest
        results := round.results ++ [(key, outcome key)]
        warned := round.warned ++ (failure? (key, outcome key)).toList }
  /-- The batch meets a fault that is no answer, and stops. -/
  | stop {round : Round} {key : Value} {fault : Fault} {rest : Multiset Value}
    (goesOn : round.stop = none) (ready : round.finished = key ::ₘ rest)
    (fails : outcome key = .error fault) (final : isResult fault = false) :
    Step outcome workers round { round with finished := rest, stop := some (key, fault) }
  /-- A request that waits is cancelled after the session was rejected. -/
  | cancel {round : Round} {key stopped : Value} {fault : Fault} {rest : Multiset Value}
    (stop : round.stop = some (stopped, fault)) (rejected : fault.isSessionRejected = true)
    (waits : round.waiting = key ::ₘ rest) :
    Step outcome workers round
      { round with waiting := rest, cancelled := key ::ₘ round.cancelled }

/-- A batch under some keys is in a state after a number of steps. -/
inductive Reaches (outcome : Value → Except Fault Value) (workers : Nat) (keys : List Value) :
    Nat → Round → Prop
  /-- It begins. -/
  | start : Reaches outcome workers keys 0 (start keys)
  /-- It takes a step. -/
  | step {count : Nat} {round next : Round} (before : Reaches outcome workers keys count round)
    (step : Step outcome workers round next) : Reaches outcome workers keys (count + 1) next

/-- A batch is over if there is no step that it can take. -/
def Over (outcome : Value → Except Fault Value) (workers : Nat) (round : Round) : Prop :=
  ∀ next, ¬ Step outcome workers round next

/-! ## What stands at any time -/

/-- What stands at any time for a batch under some keys. -/
structure Sound (outcome : Value → Except Fault Value) (workers : Nat) (keys : List Value)
    (round : Round) : Prop where
  /-- No request is lost and none comes twice. -/
  keys : round.waiting + round.requested + round.cancelled = Value.distinct keys
  /-- Requests that were taken up are running or finished, and the outcomes of some were met. -/
  requested : (round.requested : Multiset Value) = round.running + round.finished + round.met
  /-- No more requests are running than there are workers. -/
  workers : Multiset.card round.running ≤ workers
  /-- A result is the outcome of its own key. -/
  own : ∀ entry ∈ round.results, entry.2 = outcome entry.1
  /-- Results are answers. -/
  answers : ∀ entry ∈ round.results, IsAnswer entry.2
  /-- There was a warning of each failure. -/
  warned : round.warned = round.results.filterMap failure?
  /-- The batch was stopped by an outcome that is no answer. -/
  stop : ∀ key fault, round.stop = some (key, fault) →
    outcome key = .error fault ∧ isResult fault = false
  /-- Nothing is cancelled before. -/
  cancelled : round.stop = none → round.cancelled = 0

section

variable {outcome : Value → Except Fault Value} {workers : Nat} {keys : List Value}
  {round next : Round} {count : Nat}

/-- A batch that begins is sound. -/
theorem sound_start : Sound outcome workers keys (start keys) where
  keys := by simp [start]
  requested := by simp [start, met]
  workers := Nat.zero_le workers
  own _ member := by cases member
  answers _ member := by cases member
  warned := rfl
  stop _ _ stopped := by cases stopped
  cancelled _ := rfl

/-- A step keeps what stands at any time. -/
theorem Sound.step (sound : Sound outcome workers keys round)
    (step : Step outcome workers round next) : Sound outcome workers keys next := by
  cases step with
  | @take key rest idle waits =>
    exact
      { sound with
        keys := by
          rw [← sound.keys, waits]
          simp only [← Multiset.singleton_add, ← Multiset.coe_add, Multiset.coe_singleton]
          abel
        requested := by
          simp only [met, ← Multiset.coe_add, sound.requested, ← Multiset.singleton_add,
            Multiset.coe_singleton]
          abel
        workers := by rwa [Multiset.card_cons] }
  | @finish key rest runs =>
    exact
      { sound with
        requested := by
          rw [sound.requested, runs]
          simp only [met, ← Multiset.singleton_add]
          abel
        workers := by
          have few := sound.workers
          rw [runs, Multiset.card_cons] at few
          exact Nat.le_of_succ_le few }
  | @meet key rest goesOn ready answer =>
    exact
      { sound with
        requested := by
          rw [sound.requested, ready]
          simp only [met, goesOn, ← Multiset.singleton_add, List.map_append, ← Multiset.coe_add,
            List.map_singleton, Multiset.coe_singleton]
          abel
        own := List.forall_mem_append.mpr ⟨sound.own, List.forall_mem_singleton.mpr rfl⟩
        answers := List.forall_mem_append.mpr
          ⟨sound.answers, List.forall_mem_singleton.mpr answer⟩
        warned := by
          rw [sound.warned, List.filterMap_append]
          cases outcome key <;> rfl }
  | @stop key fault rest goesOn ready fails final =>
    exact
      { sound with
        requested := by
          rw [sound.requested, ready]
          simp only [met, goesOn, ← Multiset.singleton_add, ← Multiset.coe_add, Option.map_some,
            Option.map_none, Option.toList_some, Option.toList_none, Multiset.coe_singleton,
            Multiset.coe_nil]
          abel
        stop := by
          rintro _ _ ⟨⟩
          exact ⟨fails, final⟩
        cancelled := nofun }
  | @cancel key stopped fault rest stop rejected waits =>
    exact
      { sound with
        keys := by
          rw [← sound.keys, waits]
          simp only [← Multiset.singleton_add]
          abel
        cancelled := by
          intro goesOn
          rw [goesOn] at stop
          cases stop }

/-- What stands at any time stands after any number of steps. -/
theorem Reaches.sound (reaches : Reaches outcome workers keys count round) :
    Sound outcome workers keys round := by
  induction reaches with
  | start => exact sound_start
  | step before step inductionHypothesis => exact inductionHypothesis.step step

/-! ## How long a batch lasts -/

/-- How many steps there are left at most. -/
def left (round : Round) : Nat :=
  3 * Multiset.card round.waiting + 2 * Multiset.card round.running +
    Multiset.card round.finished

/-- After a step there are fewer steps left. -/
theorem Step.left_lt (step : Step outcome workers round next) : next.left < round.left := by
  cases step with
  | take idle waits =>
    simp only [left, waits, Multiset.card_cons]
    omega
  | finish runs =>
    simp only [left, runs, Multiset.card_cons]
    omega
  | meet goesOn ready answer =>
    simp only [left, ready, Multiset.card_cons]
    omega
  | stop goesOn ready fails final =>
    simp only [left, ready, Multiset.card_cons]
    omega
  | cancel stop rejected waits =>
    simp only [left, waits, Multiset.card_cons]
    omega

/-- A batch takes three steps for each key at most. -/
theorem Reaches.add_left_le (reaches : Reaches outcome workers keys count round) :
    count + round.left ≤ 3 * (Value.distinct keys).length := by
  induction reaches with
  | start => simp [Round.start, left]
  | step before step inductionHypothesis =>
    have fewer := step.left_lt
    omega

/-- A batch with a worker goes on as long as a request waits, is running, or is finished and to be
met. -/
theorem over_iff (positive : 0 < workers) :
    Over outcome workers round ↔
      round.waiting = 0 ∧ round.running = 0 ∧ (round.stop = none → round.finished = 0) := by
  constructor
  · intro ended
    have running : round.running = 0 := by
      by_contra busy
      obtain ⟨key, member⟩ := Multiset.exists_mem_of_ne_zero busy
      obtain ⟨rest, runs⟩ := Multiset.exists_cons_of_mem member
      exact ended _ (.finish runs)
    have waiting : round.waiting = 0 := by
      by_contra more
      obtain ⟨key, member⟩ := Multiset.exists_mem_of_ne_zero more
      obtain ⟨rest, waits⟩ := Multiset.exists_cons_of_mem member
      exact ended _ (.take (by rwa [running, Multiset.card_zero]) waits)
    refine ⟨waiting, running, fun goesOn => ?_⟩
    by_contra more
    obtain ⟨key, member⟩ := Multiset.exists_mem_of_ne_zero more
    obtain ⟨rest, ready⟩ := Multiset.exists_cons_of_mem member
    by_cases answer : IsAnswer (outcome key)
    · exact ended _ (.meet goesOn ready answer)
    · obtain ⟨fault, fails, final⟩ := exists_of_not_isAnswer answer
      exact ended _ (.stop goesOn ready fails final)
  · rintro ⟨waiting, running, finished⟩ next step
    cases step with
    | take idle waits => exact Multiset.cons_ne_zero (waits.symm.trans waiting)
    | finish runs => exact Multiset.cons_ne_zero (runs.symm.trans running)
    | meet goesOn ready answer => exact Multiset.cons_ne_zero (ready.symm.trans (finished goesOn))
    | stop goesOn ready fails final =>
      exact Multiset.cons_ne_zero (ready.symm.trans (finished goesOn))
    | cancel stop rejected waits => exact Multiset.cons_ne_zero (waits.symm.trans waiting)

/-! ## What a batch comes to -/

/-- What a batch has come to, by the outcomes of its keys. -/
structure Verdict (outcome : Value → Except Fault Value) (keys : List Value) (round : Round) :
    Prop where
  /-- Each distinct key was asked for once, unless its request was cancelled. -/
  once : (round.requested : Multiset Value) + round.cancelled = Value.distinct keys
  /-- If no key's outcome is a rejected session, nothing is cancelled, the results are those of the
  distinct keys, and there was one warning of each failure. -/
  answered : (∀ key ∈ Value.distinct keys, isRejected (outcome key) = false) →
    round.cancelled = 0 ∧ round.result = .ok round.results ∧
      round.results.Perm ((Value.distinct keys).map fun key => (key, outcome key)) ∧
      round.warned.Perm ((Value.distinct keys).filterMap fun key => failure? (key, outcome key))
  /-- If some key's outcome is a rejected session, the batch stops with such an outcome. -/
  rejected : (∃ key ∈ Value.distinct keys, isRejected (outcome key) = true) →
    ∃ key ∈ Value.distinct keys, ∃ fault, outcome key = .error fault ∧
      fault.isSessionRejected = true ∧ round.result = .error fault

/-- The outcome of a key is a document, a failure of its own, or a rejected session. -/
def Expected (result : Except Fault Value) : Prop :=
  IsAnswer result ∨ isRejected result = true

/-- An answer is no rejected session. -/
theorem isRejected_of_isAnswer {result : Except Fault Value} (answer : IsAnswer result) :
    isRejected result = false := by
  cases result with
  | ok document => rfl
  | error fault => exact isSessionRejected_of_isResult fault (answer fault rfl)

/-- A batch that was not stopped and is over has met the outcomes of all its keys. -/
theorem Sound.perm_results (sound : Sound outcome workers keys round)
    (goesOn : round.stop = none) (waiting : round.waiting = 0) (running : round.running = 0)
    (finished : round.finished = 0) :
    round.results.Perm ((Value.distinct keys).map fun key => (key, outcome key)) := by
  have placed := sound.keys
  rw [waiting, sound.cancelled goesOn, sound.requested, running, finished, met, goesOn] at placed
  have all : (round.results.map Prod.fst).Perm (Value.distinct keys) :=
    Multiset.coe_eq_coe.mp (by simpa using placed)
  have own : (round.results.map Prod.fst).map (fun key => (key, outcome key)) = round.results := by
    have same : round.results.map ((fun key => (key, outcome key)) ∘ Prod.fst) =
        round.results.map fun entry => entry :=
      List.map_congr_left fun entry member =>
        congrArg (Prod.mk entry.1) (sound.own entry member).symm
    rw [List.map_map, same, List.map_id']
  rw [← own]
  exact all.map _

/-- A batch is stopped by a key whose outcome is a rejected session. -/
theorem Sound.rejected_of_stop (sound : Sound outcome workers keys round) {key : Value}
    {fault : Fault} (stop : round.stop = some (key, fault))
    (expected : ∀ key ∈ Value.distinct keys, Expected (outcome key)) :
    key ∈ Value.distinct keys ∧ outcome key = .error fault ∧ fault.isSessionRejected = true := by
  obtain ⟨fails, final⟩ := sound.stop key fault stop
  have requested : key ∈ (round.requested : Multiset Value) := by
    rw [sound.requested, met, stop]
    simp
  have member : key ∈ (Value.distinct keys : Multiset Value) := by
    rw [← sound.keys]
    exact Multiset.mem_add.mpr (Or.inl (Multiset.mem_add.mpr (Or.inr requested)))
  have rejected : isRejected (outcome key) = true := by
    refine (expected key member).resolve_left fun answer => ?_
    rw [answer fault fails] at final
    cases final
  rw [fails] at rejected
  exact ⟨member, fails, rejected⟩

/-- A batch that is over has come to what the outcomes of its keys say. -/
theorem Sound.verdict (sound : Sound outcome workers keys round) (positive : 0 < workers)
    (ended : Over outcome workers round)
    (expected : ∀ key ∈ Value.distinct keys, Expected (outcome key)) :
    Verdict outcome keys round := by
  obtain ⟨waiting, running, finished⟩ := (over_iff positive).mp ended
  have once : (round.requested : Multiset Value) + round.cancelled = Value.distinct keys := by
    rw [← sound.keys, waiting, zero_add]
  cases stop : round.stop with
  | none =>
    have perm := sound.perm_results stop waiting running (finished stop)
    refine ⟨once, fun _ => ⟨sound.cancelled stop, by rw [result, stop], perm, ?_⟩, ?_⟩
    · rw [sound.warned]
      have warned := perm.filterMap failure?
      rwa [List.filterMap_map] at warned
    · rintro ⟨key, member, rejected⟩
      have answer := sound.answers _ (perm.mem_iff.mpr (List.mem_map_of_mem member))
      rw [isRejected_of_isAnswer answer] at rejected
      cases rejected
  | some stopped =>
    obtain ⟨key, fault⟩ := stopped
    obtain ⟨member, fails, rejected⟩ := sound.rejected_of_stop stop expected
    refine ⟨once, fun none => ?_, fun _ =>
      ⟨key, member, fault, fails, rejected, by rw [result, stop]⟩⟩
    have accepted := none key member
    rw [fails] at accepted
    exact absurd rejected (Bool.eq_false_iff.mp accepted)

end

/-! ## The batch that a schedule carries out -/

section

variable {outcome : Value → Except Fault Value} {workers : Nat} {keys : List Value}
  {round : Round}

/-- A batch is in a state at some time. -/
def Reached (outcome : Value → Except Fault Value) (workers : Nat) (keys : List Value)
    (round : Round) : Prop :=
  ∃ count, Reaches outcome workers keys count round

/-- Another step leads to another state. -/
theorem Reached.step {next : Round} (reached : Reached outcome workers keys round)
    (step : Step outcome workers round next) : Reached outcome workers keys next := by
  obtain ⟨count, reaches⟩ := reached
  exact ⟨count + 1, reaches.step step⟩

/-- Requests can be taken up and finished one after the other. -/
theorem Reached.sent (positive : 0 < workers) (sent : List Value) {rest : Multiset Value}
    (reached : Reached outcome workers keys round) (idle : round.running = 0)
    (waits : round.waiting = sent + rest) :
    Reached outcome workers keys
      { round with
        waiting := rest
        finished := sent + round.finished
        requested := round.requested ++ sent } := by
  induction sent generalizing round with
  | nil =>
    have same : round.waiting = rest := by simpa using waits
    simpa [← same] using reached
  | cons key sent inductionHypothesis =>
    have waits' : round.waiting = key ::ₘ (sent + rest) := by
      rw [waits, ← Multiset.cons_coe, Multiset.cons_add]
    have taken := reached.step (.take (by rwa [idle, Multiset.card_zero]) waits')
    have later := inductionHypothesis (taken.step (.finish rfl)) idle rfl
    have finished : (sent : Multiset Value) + key ::ₘ round.finished =
        (key :: sent : List Value) + round.finished := by
      rw [Multiset.add_cons, ← Multiset.cons_coe, Multiset.cons_add]
    rwa [finished, List.append_assoc] at later

/-- Outcomes can be met in any order. -/
theorem Reached.collected (outcomes : List Outcome) (reached : Reached outcome workers keys round)
    (own : ∀ entry ∈ outcomes, entry.2 = outcome entry.1) (goesOn : round.stop = none)
    (ready : round.finished = outcomes.map Prod.fst) :
    ∃ (finished : Multiset Value) (stop : Option (Value × Fault)),
      stop.map Prod.snd = (collect outcomes).2 ∧ (stop = none → finished = 0) ∧
      Reached outcome workers keys
        { round with
          finished
          results := round.results ++ (collect outcomes).1
          warned := round.warned ++ (collect outcomes).1.filterMap failure?
          stop } := by
  induction outcomes generalizing round with
  | nil =>
    have none : round.finished = 0 := by simpa using ready
    refine ⟨round.finished, round.stop, by rw [goesOn]; rfl, fun _ => none, ?_⟩
    simpa [collect] using reached
  | cons entry outcomes inductionHypothesis =>
    obtain ⟨key, result⟩ := entry
    obtain ⟨same, others⟩ := List.forall_mem_cons.mp own
    obtain rfl : result = outcome key := same
    have ready' : round.finished = key ::ₘ (outcomes.map Prod.fst : List Value) := ready
    by_cases answer : IsAnswer (outcome key)
    · obtain ⟨finished, stop, same, none, later⟩ :=
        inductionHypothesis (reached.step (.meet goesOn ready' answer)) others goesOn rfl
      refine ⟨finished, stop, by rw [collect_cons key answer, same], none, ?_⟩
      rw [collect_cons key answer]
      have warned : (failure? (key, outcome key)).toList ++
          (collect outcomes).1.filterMap failure? =
            ((key, outcome key) :: (collect outcomes).1).filterMap failure? := by
        cases outcome key <;> rfl
      rw [List.append_assoc, List.append_assoc, warned] at later
      exact later
    · obtain ⟨fault, fails, final⟩ := exists_of_not_isAnswer answer
      have collected : collect ((key, outcome key) :: outcomes) = ([], some fault) := by
        rw [fails]
        exact collect_of_first [] outcomes key fault (List.forall_mem_nil _) final
      refine ⟨(outcomes.map Prod.fst : List Value), some (key, fault), ?_, ?_, ?_⟩
      · rw [collected]
        rfl
      · intro unstopped
        cases unstopped
      · rw [collected]
        simpa using reached.step (.stop goesOn ready' fails final)

/-- All requests that wait can be cancelled after the session was rejected. -/
theorem Reached.allCancelled {stopped : Value} {fault : Fault}
    (reached : Reached outcome workers keys round) (stop : round.stop = some (stopped, fault))
    (rejected : fault.isSessionRejected = true) :
    Reached outcome workers keys
      { round with waiting := 0, cancelled := round.waiting + round.cancelled } := by
  induction waits : round.waiting using Multiset.induction_on generalizing round with
  | empty =>
    rw [zero_add, ← waits]
    exact reached
  | cons key rest inductionHypothesis =>
    have later := inductionHypothesis (reached.step (.cancel stop rejected waits)) stop rfl
    rwa [Multiset.add_cons, ← Multiset.cons_add] at later

/-- A batch can send some requests, meet their outcomes in any order, and be over. The requests are
either all or have a rejected session among their outcomes. -/
theorem exists_over (positive : 0 < workers)
    (expected : ∀ key ∈ Value.distinct keys, Expected (outcome key)) {requested rest : List Value}
    {entries : List Outcome} (sending : (requested ++ rest).Perm (Value.distinct keys))
    (completing : entries.Perm (requested.map fun key => (key, outcome key)))
    (all : (∀ key ∈ requested, isRejected (outcome key) = false) → rest = []) :
    ∃ last, Reached outcome workers keys last ∧ last.Over outcome workers ∧
      last.requested = requested ∧ last.warned = (collect entries).1.filterMap failure? ∧
      last.result =
        match collect entries with
        | (results, none) => .ok results
        | (_, some fault) => .error fault := by
  have waits : (Round.start keys).waiting = (requested : Multiset Value) + (rest : List Value) := by
    rw [Multiset.coe_add]
    exact Multiset.coe_eq_coe.mpr sending.symm
  have begun : Reached outcome workers keys (Round.start keys) := ⟨0, .start⟩
  have ready : (requested : Multiset Value) + 0 = (entries.map Prod.fst : List Value) := by
    have firsts : (requested.map fun key => (key, outcome key)).map Prod.fst = requested := by
      rw [List.map_map]
      exact List.map_id' requested
    rw [add_zero]
    exact Multiset.coe_eq_coe.mpr (firsts ▸ (completing.map Prod.fst).symm)
  have own : ∀ entry ∈ entries, entry.2 = outcome entry.1 := by
    intro entry member
    obtain ⟨key, -, rfl⟩ := List.mem_map.mp (completing.mem_iff.mp member)
    rfl
  obtain ⟨finished, stop, same, met, collected⟩ :=
    (begun.sent positive requested rfl waits).collected entries own rfl ready
  rcases found : collect entries with ⟨results, fault⟩
  rw [found] at same collected
  cases stop with
  | none =>
    have answers : ∀ entry ∈ entries, IsAnswer entry.2 := by
      refine (answers_or_first entries).resolve_right ?_
      rintro ⟨before, key, stopping, after, rfl, answers, final⟩
      rw [collect_of_first before after key stopping answers final] at found
      obtain rfl := congrArg Prod.snd found
      cases same
    have accepted : ∀ key ∈ requested, isRejected (outcome key) = false := fun key member =>
      isRejected_of_isAnswer (answers _ (completing.mem_iff.mpr (List.mem_map_of_mem member)))
    obtain rfl := all accepted
    obtain rfl : none = fault := same
    exact ⟨_, collected, (over_iff positive).mpr ⟨rfl, rfl, met⟩, rfl, rfl, rfl⟩
  | some stopped =>
    obtain ⟨key, _⟩ := stopped
    obtain rfl : some _ = fault := same
    obtain ⟨count, reaches⟩ := collected
    obtain ⟨-, -, rejected⟩ := reaches.sound.rejected_of_stop rfl expected
    exact ⟨_, Reached.allCancelled ⟨count, reaches⟩ rfl rejected,
      (over_iff positive).mpr ⟨rfl, rfl, nofun⟩, rfl, rfl, rfl⟩

end

end Round

/-- The keys whose requests are sent, up to the first whose outcome is a rejected session. -/
def sentKeys (outcome : Value → Except Fault Value) : List Value → List Value
  | [] => []
  | key :: rest => key :: if isRejected (outcome key) then [] else sentKeys outcome rest

/-- All keys are sent unless one of those that are has a rejected session for its outcome. -/
theorem exists_eq_sentKeys_append (outcome : Value → Except Fault Value) (keys : List Value) :
    ∃ rest, keys = sentKeys outcome keys ++ rest ∧
      ((∀ key ∈ sentKeys outcome keys, isRejected (outcome key) = false) → rest = []) := by
  induction keys with
  | nil => exact ⟨[], rfl, fun _ => rfl⟩
  | cons key others inductionHypothesis =>
    rw [sentKeys]
    cases rejected : isRejected (outcome key) with
    | true =>
      refine ⟨others, rfl, fun accepted => ?_⟩
      have impossible := accepted key List.mem_cons_self
      rw [rejected] at impossible
      cases impossible
    | false =>
      obtain ⟨rest, whole, all⟩ := inductionHypothesis
      refine ⟨rest, congrArg (key :: ·) whole, fun accepted => all fun other member => ?_⟩
      exact accepted other (List.mem_cons_of_mem _ member)

/-- Asking for a key comes to its outcome, for every client of a kind, and leaves one of that
kind. -/
def Determined (ready : Client → Prop) (ask : Value → Call Value) (outcome : Value → Except Fault Value)
    (keys : List Value) : Prop :=
  ∀ key ∈ keys, ∀ client, ready client →
    (ask key client).1 = outcome key ∧ ready (ask key client).2

section

variable {ready : Client → Prop} {ask : Value → Call Value} {outcome : Value → Except Fault Value}

/-- Which requests are sent is told by the outcomes of their keys. -/
theorem senders_of_determined (keys : List Value) {client : Client}
    (asks : Determined ready ask outcome keys) (start : ready client) :
    (senders ask keys client).map Prod.fst = sentKeys outcome keys ∧
      outcomesOf ask keys client = (sentKeys outcome keys).map fun key => (key, outcome key) := by
  induction keys generalizing client with
  | nil => exact ⟨rfl, rfl⟩
  | cons key rest inductionHypothesis =>
    obtain ⟨comes, next⟩ := asks key List.mem_cons_self client start
    obtain ⟨sent, found⟩ := inductionHypothesis
      (fun other member => asks other (List.mem_cons_of_mem _ member)) next
    rw [outcomesOf] at found ⊢
    rw [senders, sentKeys, comes]
    cases isRejected (outcome key) with
    | true => simp [comes]
    | false => simp [comes, sent, found]

/-- A batch by a schedule is one of the ways in which a batch can go on until it is over. -/
theorem exists_reached_of_batchIn (schedule : Schedule) {keys : List Value} {client : Client}
    (keyable : ∀ key ∈ keys, key.isKey = true) (positive : 0 < client.session.workers)
    (asks : Determined ready ask outcome (Value.distinct keys)) (start : ready client)
    (expected : ∀ key ∈ Value.distinct keys, Round.Expected (outcome key)) :
    ∃ last, Round.Reached outcome client.session.workers.toNat keys last ∧
      last.Over outcome client.session.workers.toNat ∧
      batchIn schedule ask keys client =
        (last.result, (askAll ask last.requested client).logged
          (last.warned.filterMap (warning? (askAll ask last.requested client).session))) := by
  have sending := schedule.sending_perm (Value.distinct keys)
  have asks' : Determined ready ask outcome (schedule.sending (Value.distinct keys)) :=
    fun key member => asks key (sending.mem_iff.mp member)
  obtain ⟨sent, outcomes⟩ := senders_of_determined _ asks' start
  obtain ⟨rest, whole, all⟩ :=
    exists_eq_sentKeys_append outcome (schedule.sending (Value.distinct keys))
  obtain ⟨last, reached, ended, requested, warned, result⟩ :=
    Round.exists_over (Int.pos_iff_toNat_pos.mp positive) expected (whole ▸ sending)
      (schedule.completing_perm _) all
  have ran := batchIn_apply schedule ask keys client keyable positive
  rw [askedBy, sent, completed, outcomes] at ran
  refine ⟨last, reached, ended, ?_⟩
  rw [requested, warned, result]
  exact ran

end

/-- A batch with a worker takes three steps for each distinct key at most. Once it is over, it has
come to what the outcomes of its keys say, in whatever order its requests were taken up, finished, met
and cancelled. The batch that a schedule carries out is such a batch: the client has asked for the
keys that were requested, and warned of the failures. -/
theorem batch_verdict (outcome : Value → Except Fault Value) (keys : List Value) (workers : Nat)
    (positive : 0 < workers)
    (expected : ∀ key ∈ Value.distinct keys, Round.Expected (outcome key)) :
    (∀ count last, Round.Reaches outcome workers keys count last →
      count ≤ 3 * (Value.distinct keys).length ∧
        (last.Over outcome workers → Round.Verdict outcome keys last)) ∧
    ∀ (schedule : Schedule) (ask : Value → Call Value) (ready : Client → Prop) (client : Client),
      client.session.workers = workers → (∀ key ∈ keys, key.isKey = true) →
      Determined ready ask outcome (Value.distinct keys) → ready client →
      ∃ last, Round.Reached outcome workers keys last ∧ last.Over outcome workers ∧
        batchIn schedule ask keys client =
          (last.result, (askAll ask last.requested client).logged
            (last.warned.filterMap (warning? (askAll ask last.requested client).session))) := by
  refine ⟨fun count last reaches => ⟨?_, fun ended => ?_⟩, ?_⟩
  · exact (Nat.le_add_right count last.left).trans reaches.add_left_le
  · exact reaches.sound.verdict positive ended expected
  · intro schedule ask ready client same keyable asks start
    have several : 0 < client.session.workers := by omega
    have carried := exists_reached_of_batchIn schedule keyable several asks start expected
    rwa [same, Int.toNat_natCast] at carried

/-- What comes of some keys: a failure of `bad`, and otherwise the key itself. -/
def fetched (key : Value) : Except Fault Value :=
  if key.same (.text "bad") then .error (.remote (.reported (.text "It is bad."))) else .ok key

/-- A client of a session with eight workers. -/
def fetching : Client where
  session := { user := "me", password := none, url := "http://server" }
  world := { folder := "/", tree := { files := .ofList [] } }

/-- A batch for `good`, `bad` and `good` again has two results, and a warning of the failure is
logged. -/
theorem fetching_verdict :
    let keys : List Value := [.text "good", .text "bad", .text "good"]
    let ran := batchIn .inOrder (fun key => Call.ofExcept (fetched key)) keys fetching
    (∃ last, last.Over fetched 8 ∧ Round.Verdict fetched keys last ∧ ran.1 = last.result) ∧
      ran.2.world.log.map LogEntry.message =
        ["<Session(url='me@http://server')> :: Request for bad failed: It is bad."] := by
  intro keys ran
  refine ⟨?_, by decide +kernel⟩
  have expected : ∀ key ∈ Value.distinct keys, Round.Expected (fetched key) := by
    intro key _
    refine Or.inl fun fault failed => ?_
    rw [fetched] at failed
    split at failed
    · obtain rfl := Except.error.inj failed
      rfl
    · cases failed
  have asks : Determined (fun _ => True) (fun key => Call.ofExcept (fetched key)) fetched
      (Value.distinct keys) := by
    intro key _ client _
    refine ⟨?_, trivial⟩
    show (Call.ofExcept (fetched key) client).1 = fetched key
    cases fetched key <;> rfl
  obtain ⟨verdicts, carried⟩ := batch_verdict fetched keys 8 (by decide) expected
  obtain ⟨last, ⟨count, reaches⟩, ended, same⟩ :=
    carried .inOrder (fun key => Call.ofExcept (fetched key)) (fun _ => True) fetching rfl
      (by decide +kernel) asks trivial
  exact ⟨last, ended, (verdicts count last reaches).2 ended, congrArg Prod.fst same⟩

end Jobflow.Session
