import Jobflow.Logged

/-!
# Computations that log and give a value

A computation gives a value if it comes to that value whatever was logged before. What it
logs itself is left open. Steps over a list that all give a value give the list of values, whether
they log or not.
-/

namespace Jobflow

/-- Steps that all give a value give the list of values. -/
theorem mapM_eq_ok {α β ε : Type} (items : List α) (step : α → Except ε β) (value : α → β)
    (each : ∀ item ∈ items, step item = .ok (value item)) :
    items.mapM step = .ok (items.map value) := by
  induction items with
  | nil => rfl
  | cons item rest inductionHypothesis =>
    have later := inductionHypothesis fun other member => each other (List.mem_cons_of_mem _ member)
    rw [List.mapM_cons, each item List.mem_cons_self, later]
    rfl

/-- Two results in a row come to a value only if both do. -/
theorem exists_of_bind_eq_ok {α β ε : Type} {first : Except ε α} {next : α → Except ε β} {last : β}
    (run : (first >>= next) = .ok last) : ∃ value, first = .ok value ∧ next value = .ok last := by
  cases first with
  | ok value => exact ⟨value, rfl, run⟩
  | error fault => cases run

/-- A result without a mishap is a value. -/
theorem exists_of_isOk {α ε : Type} {result : Except ε α} (fine : result.isOk = true) :
    ∃ value, result = .ok value := by
  cases result with
  | ok value => exact ⟨value, rfl⟩
  | error fault => cases fine

namespace Logged

variable {α β : Type}

/-- A computation comes to a value, whatever was logged before. -/
def Gives (computation : Logged α) (value : α) : Prop :=
  ∀ before : Log, ∃ after, computation.run.run before = (.ok value, after)

/-- A value gives itself. -/
theorem gives_pure (value : α) : Gives (pure value) value := fun before => ⟨before, rfl⟩

/-- Two computations in a row give the value of the second one. -/
theorem gives_bind {first : Logged α} {next : α → Logged β} {value : α} {last : β}
    (gives : first.Gives value) (later : (next value).Gives last) : Gives (first >>= next) last := by
  intro before
  obtain ⟨middle, started⟩ := gives before
  obtain ⟨after, finished⟩ := later middle
  refine ⟨after, ?_⟩
  rw [ExceptT.run_bind, StateT.run_bind, started]
  exact finished

/-- If two computations in a row come to a value, the first one comes to a value before. -/
theorem exists_of_bind_ok {first : Logged α} {next : α → Logged β} {before after : Log} {last : β}
    (run : (first >>= next).run.run before = (.ok last, after)) :
    ∃ value middle, first.run.run before = (.ok value, middle) ∧
      (next value).run.run middle = (.ok last, after) := by
  rw [ExceptT.run_bind, StateT.run_bind] at run
  rcases started : first.run.run before with ⟨result, middle⟩
  rw [started] at run
  cases result with
  | ok value => exact ⟨value, middle, rfl, run⟩
  | error fault => cases run

/-- A result that a computation comes to is one without a mishap. -/
theorem eq_ok_of_ofMishap {result : Except Mishap α} {before after : Log} {value : α}
    (run : (ofMishap result).run.run before = (.ok value, after)) : result = .ok value := by
  cases result with
  | ok given => exact congrArg Except.ok (Except.ok.inj (Prod.mk.inj run).1)
  | error mishap => cases run

/-- Logging gives nothing of interest. -/
theorem gives_log (entry : Option LogEntry) : Gives (log entry) () := by
  cases entry with
  | none => exact gives_pure ()
  | some entry => exact fun before => ⟨before ++ [entry], rfl⟩

/-- The usual handlers drop a message whose template cannot be filled. -/
theorem deliver_eq_log (level : LogLevel) (message : Except TemplateError LogEntry) :
    deliver level message = log message.toOption := by
  cases message <;> rfl

/-- A result that is no mishap is given. -/
theorem gives_ofMishap {result : Except Mishap α} {value : α} (ok : result = .ok value) :
    Gives (ofMishap result) value := by
  subst ok
  exact gives_pure value

/-- Computations over a list give the values of each. -/
theorem gives_mapM (items : List α) (step : α → Logged β) (value : α → β)
    (each : ∀ item ∈ items, (step item).Gives (value item)) :
    Gives (items.mapM step) (items.map value) := by
  induction items with
  | nil => exact gives_pure []
  | cons item rest inductionHypothesis =>
    have first := each item List.mem_cons_self
    have later := inductionHypothesis fun other member => each other (List.mem_cons_of_mem _ member)
    rw [List.mapM_cons]
    exact gives_bind first (gives_bind later (gives_pure _))

/-! ## What is logged -/

/-- A computation comes to a value and logs some entries, whatever was logged before. -/
def Writes (computation : Logged α) (value : α) (entries : Log) : Prop :=
  ∀ before : Log, computation.run.run before = (.ok value, before ++ entries)

/-- A value logs nothing. -/
theorem writes_pure (value : α) : Writes (pure value) value [] := fun before => by
  rw [List.append_nil]
  rfl

/-- Two computations in a row log one after the other. -/
theorem writes_bind {first : Logged α} {next : α → Logged β} {value : α} {last : β}
    {entries others : Log} (writes : first.Writes value entries)
    (later : (next value).Writes last others) : Writes (first >>= next) last (entries ++ others) := by
  intro before
  rw [ExceptT.run_bind, StateT.run_bind, writes before, ← List.append_assoc]
  exact later _

/-- Logging an entry logs it. -/
theorem writes_log (entry : LogEntry) : Writes (log (some entry)) () [entry] := fun _ => rfl

/-- A result that is no mishap logs nothing. -/
theorem writes_ofMishap {result : Except Mishap α} {value : α} (ok : result = .ok value) :
    Writes (ofMishap result) value [] := by
  subst ok
  exact writes_pure value

end Logged

end Jobflow
