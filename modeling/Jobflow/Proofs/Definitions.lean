import Jobflow.Definitions.Profile
import Jobflow.Proofs.Action
import Jobflow.Proofs.KeyMap

/-!
# Definitions and the history of what was given

Definitions change by calls: a call gives definitions to a set, selects a set, or applies a
profile, which may apply further ones and may stop with an error anywhere. Unfolded, a call is a
row of single steps, and what it does is to take these steps up to the first that stops it; the
steps taken are its events. A step that stops a call does nothing, but for one that gives
definitions whose names have no order: they are given before the names are put in order. The events
of all calls so far are the history, whatever calls among them failed.

The main statement is that definitions are determined by their history: a look-up gives what
was given to the name last in the current set, and otherwise what was given to it last in the
default set. The history is read from its end and knows nothing of sets as mappings.
-/

namespace Jobflow

/-! ## Unfolding calls -/

mutual

/-- The single steps of a step, in the order in which they are taken. -/
def ProfileStep.singles : ProfileStep → List ProfileStep
  | .apply _ none => []
  | .apply _ (some steps) => allSingles steps
  | .declare entries name => [.declare entries name]
  | .select name => [.select name]
  | .raise fault => [.raise fault]

/-- The single steps of a row of steps. -/
def ProfileStep.allSingles : List ProfileStep → List ProfileStep
  | [] => []
  | step :: rest => step.singles ++ allSingles rest

end

namespace Definitions

/-- What happens to definitions when a single step is taken. -/
inductive Event
  /-- Definitions are given to a set. -/
  | gave (entries : KeyMap Value) (name : Key)
  /-- A set is selected. -/
  | chose (name : Key)

namespace Event

/-- The single step that brings an event about. -/
def step : Event → ProfileStep
  | gave entries name => .declare entries name.value
  | chose name => .select name.value

/-- The definitions after an event. -/
def after (definitions : Definitions) : Event → Definitions
  | gave entries name => definitions.give entries name
  | chose name => { definitions with current := name }

end Event

/-- The definitions after events. -/
def afterAll (definitions : Definitions) (events : List Event) : Definitions :=
  events.foldl Event.after definitions

/-- What comes of a single step. -/
inductive Outcome
  /-- It is taken, which is an event. -/
  | done (event : Event)
  /-- It stops with an error, after which some events stay. -/
  | stopped (kept : List Event)

/-- What comes of a single step on definitions. -/
def outcome (definitions : Definitions) : ProfileStep → Outcome
  | .declare entries name =>
    match name.key? with
    | none => .stopped []
    | some key =>
      match orderedNames entries.keys with
      | .ok _ => .done (.gave entries key)
      | .error _ => .stopped [.gave entries key]
  | .select name =>
    match name.key? with
    | none => .stopped []
    | some key => if definitions.sets.contains key then .done (.chose key) else .stopped []
  | _ => .stopped []

/-- How far single steps are taken. -/
structure Walk where
  /-- The events of the steps that are taken. -/
  done : List Event
  /-- What stays of the step that stops. -/
  kept : List Event
  /-- The step that stops, and those behind it. -/
  left : List ProfileStep

/-- Take single steps up to the first that stops. -/
def walk (definitions : Definitions) : List ProfileStep → Walk
  | [] => ⟨[], [], []⟩
  | step :: rest =>
    match definitions.outcome step with
    | .stopped kept => ⟨[], kept, step :: rest⟩
    | .done event =>
      let later := walk (event.after definitions) rest
      { later with done := event :: later.done }

/-- The events of a call. -/
def eventsOf (definitions : Definitions) (call : ProfileStep) : List Event :=
  (definitions.walk call.singles).done ++ (definitions.walk call.singles).kept

/-- The events of calls. -/
def history (definitions : Definitions) : List ProfileStep → List Event
  | [] => []
  | call :: rest => definitions.eventsOf call ++ history (definitions.take call).1 rest

/-- An error stops a single step, of which some events stay. Only what is given with names that have
no order stays. -/
inductive Stops (definitions : Definitions) : ProfileStep → Fault → List Event → Prop
  | raised (fault : Fault) : Stops definitions (.raise fault) fault []
  | unknown (name : Key) (undeclared : definitions.sets.contains name = false) :
      Stops definitions (.select name.value) (definitions.unknownSet name) []
  | unselectable (name : Value) (noKey : name.isKey = false) :
      Stops definitions (.select name) (.mishap .wrongShape) []
  | undeclarable (entries : KeyMap Value) (name : Value) (noKey : name.isKey = false) :
      Stops definitions (.declare entries name) (.mishap .wrongShape) []
  | unordered (entries : KeyMap Value) (name : Key) (mishap : Mishap)
      (unordered : orderedNames entries.keys = .error mishap) :
      Stops definitions (.declare entries name.value) (.mishap mishap) [.gave entries name]

/-- Events in a row are those of the first steps, then those of the others. -/
theorem afterAll_append (definitions : Definitions) (events others : List Event) :
    definitions.afterAll (events ++ others) = (definitions.afterAll events).afterAll others :=
  List.foldl_append

/-- A walk over steps that are all taken goes on with the steps behind them. -/
theorem walk_append_of_done (definitions : Definitions) (steps others : List ProfileStep)
    (done : (definitions.walk steps).left = []) :
    definitions.walk (steps ++ others) =
      let later := (definitions.afterAll (definitions.walk steps).done).walk others
      { later with done := (definitions.walk steps).done ++ later.done } := by
  induction steps generalizing definitions with
  | nil => rfl
  | cons step rest inductionHypothesis =>
    rw [List.cons_append]
    cases comes : definitions.outcome step with
    | stopped kept => simp [walk, comes] at done
    | done event =>
      simp only [walk, comes] at done ⊢
      rw [inductionHypothesis _ done]
      rfl

/-- A walk that stops inside some steps does not reach the steps behind them. -/
theorem walk_append_of_left (definitions : Definitions) (steps others : List ProfileStep)
    (step : ProfileStep) (rest : List ProfileStep)
    (left : (definitions.walk steps).left = step :: rest) :
    definitions.walk (steps ++ others) =
      { definitions.walk steps with left := step :: (rest ++ others) } := by
  induction steps generalizing definitions with
  | nil => simp [walk] at left
  | cons first steps inductionHypothesis =>
    rw [List.cons_append]
    cases comes : definitions.outcome first with
    | stopped kept =>
      simp only [walk, comes, List.cons.injEq] at left ⊢
      rw [← left.1, ← left.2]
    | done event =>
      simp only [walk, comes] at left ⊢
      rw [inductionHypothesis _ left]

/-- How taking steps ends, by how far they are taken. -/
def Ends (definitions reached : Definitions) (stop : Option Fault) (walked : Walk) : Prop :=
  reached = definitions.afterAll (walked.done ++ walked.kept) ∧
    match stop with
    | none => walked.kept = [] ∧ walked.left = []
    | some fault => ∃ step rest, walked.left = step :: rest ∧
      (definitions.afterAll walked.done).Stops step fault walked.kept

/-- Giving definitions is walking over its step. -/
theorem declare_ends (definitions : Definitions) (entries : KeyMap Value) (name : Value) :
    definitions.Ends (definitions.declare entries name).1 (definitions.declare entries name).2.2
      (definitions.walk [.declare entries name]) := by
  rw [declare]
  cases hashable : name.key? with
  | none =>
    simp only [walk, outcome, hashable]
    exact ⟨rfl, _, [], rfl, .undeclarable entries name (Value.isKey_of_key?_none hashable)⟩
  | some key =>
    obtain rfl := Value.value_of_key? hashable
    cases ordered : orderedNames entries.keys with
    | ok names =>
      have made : declared entries key = .ok _ := congrArg (· >>= _) ordered
      simp only [walk, outcome, hashable, ordered, made]
      exact ⟨rfl, rfl, rfl⟩
    | error mishap =>
      have unmade : declared entries key = .error mishap := congrArg (· >>= _) ordered
      simp only [walk, outcome, hashable, ordered, unmade]
      exact ⟨rfl, _, [], rfl, .unordered entries key mishap ordered⟩

/-- Selecting a set is walking over its step. -/
theorem select_ends (definitions : Definitions) (name : Value) :
    definitions.Ends (definitions.take (.select name)).1 (definitions.take (.select name)).2.2
      (definitions.walk [.select name]) := by
  rw [take, select]
  cases hashable : name.key? with
  | none =>
    simp only [walk, outcome, hashable]
    exact ⟨rfl, _, [], rfl, .unselectable name (Value.isKey_of_key?_none hashable)⟩
  | some key =>
    obtain rfl := Value.value_of_key? hashable
    cases declared : definitions.sets.contains key with
    | true =>
      simp only [walk, outcome, hashable, declared, if_true]
      exact ⟨rfl, rfl, rfl⟩
    | false =>
      simp only [walk, outcome, hashable, declared, Bool.false_eq_true, if_false]
      exact ⟨rfl, _, [], rfl, .unknown key declared⟩

mutual

/-- Taking a step is walking over its single steps. -/
theorem take_ends (definitions : Definitions) :
    (step : ProfileStep) → definitions.Ends (definitions.take step).1 (definitions.take step).2.2
      (definitions.walk step.singles)
  | .declare entries name => by
    rw [take, ProfileStep.singles]
    exact definitions.declare_ends entries name
  | .select name => definitions.select_ends name
  | .apply path none => ⟨rfl, rfl, rfl⟩
  | .apply path (some steps) => by
    have inner := run_ends definitions steps
    rw [ProfileStep.singles]
    simpa only [take] using inner
  | .raise fault => ⟨rfl, .raise fault, [], rfl, .raised fault⟩

/-- Taking the steps of a profile is walking over all their single steps. -/
theorem run_ends (definitions : Definitions) :
    (steps : List ProfileStep) → definitions.Ends (definitions.run steps).1
      (definitions.run steps).2.2 (definitions.walk (ProfileStep.allSingles steps))
  | [] => ⟨rfl, rfl, rfl⟩
  | step :: rest => by
    have first := take_ends definitions step
    rw [ProfileStep.allSingles, run]
    rcases taken : definitions.take step with ⟨reached, log, stop⟩
    rw [taken] at first
    cases stop with
    | some fault =>
      obtain ⟨same, single, more, left, stops⟩ := first
      rw [walk_append_of_left _ _ _ _ _ left]
      exact ⟨same, single, more ++ ProfileStep.allSingles rest, rfl, stops⟩
    | none =>
      obtain ⟨same, kept, left⟩ := first
      have later := run_ends reached rest
      rw [kept, List.append_nil] at same
      rw [walk_append_of_done _ _ _ left]
      simp only at same ⊢
      rw [← same]
      refine ⟨?_, ?_⟩
      · rw [List.append_assoc, afterAll_append, ← same]
        exact later.1
      · rw [afterAll_append, ← same]
        exact later.2

end

/-- The default set and the current one are declared. -/
def Sound (definitions : Definitions) : Prop :=
  definitions.sets.contains definitions.current = true ∧
    definitions.sets.contains defaultSet = true

end Definitions

end Jobflow
