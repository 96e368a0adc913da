import Jobflow.Fault
import Jobflow.KeyMap
import Jobflow.Log

/-!
# Definition sets

Definitions are named values, grouped in named sets. The default set is always there; a
set is declared by giving it definitions, and one declared set is current. A definition is
looked up in the current set first and in the default one then.

A profile is a number of steps on definitions: it declares sets, selects one, applies further
profiles, or stops with an error, after which the steps before it still count. What a profile
finds at the path of a further one is part of its step; a profile that is not there is skipped
with a warning.
-/

namespace Jobflow

/-- The name of the set that definitions belong to when none is given. -/
def defaultSet : Key := .text "default"

/-- Named sets of definitions. Names are any values that can be keys. -/
structure Definitions where
  /-- The sets by name. -/
  sets : KeyMap (KeyMap Value)
  /-- The name of the set that is looked into first. -/
  current : Key

/-- One step of a profile. -/
inductive ProfileStep
  /-- Give definitions to a set. -/
  | declare (definitions : KeyMap Value) (name : Value)
  /-- Select the current set. -/
  | select (name : Value)
  /-- Apply the profile at a path, if there is one: its steps. -/
  | apply (path : String) (found : Option (List ProfileStep))
  /-- Stop with an error. -/
  | raise (fault : Fault)

/-- Names in increasing order, which they may not have. -/
def orderedNames (names : List Value) : Except Mishap (List Value) :=
  match Value.sorted? names with
  | some sorted => .ok sorted
  | none => .error .wrongShape

namespace Definitions

/-- Definitions with an empty default set, which is current. -/
def initial : Definitions := ⟨KeyMap.empty.insert defaultSet .empty, defaultSet⟩

instance : Inhabited Definitions := ⟨initial⟩

/-- The names of all sets, sorted. -/
def names (definitions : Definitions) : Except Mishap (List Value) :=
  orderedNames definitions.sets.keys

/-- The quoted form of definitions. -/
def repr (definitions : Definitions) : Except Mishap String := do
  return "<Definitions(current=" ++ definitions.current.value.repr ++ ", sets=" ++
    (Value.ofList (← definitions.names)).repr ++ ")>"

/-- The definitions of a set, none if it is not declared. -/
def set (definitions : Definitions) (name : Key) : KeyMap Value :=
  (definitions.sets.find? name).getD .empty

/-- The definitions once some are given to a set, which is declared thereby. -/
def give (definitions : Definitions) (entries : KeyMap Value) (name : Key) : Definitions :=
  { definitions with
    sets := definitions.sets.insert name ((definitions.set name).insertAll entries) }

/-- The log entry of giving definitions to a set, which has their names in order. -/
def declared (entries : KeyMap Value) (name : Key) : Except Mishap LogEntry := do
  let names ← orderedNames entries.keys
  return ⟨.debug, "Updated definition set " ++ name.value.repr ++ ": " ++
    (Value.ofList names).repr⟩

/-- Give definitions to a set: the definitions reached, what was logged, and what stopped it. The
definitions are given before the log entry is made. -/
def declare (definitions : Definitions) (entries : KeyMap Value) (name : Value) :
    Definitions × Log × Option Fault :=
  match name.key? with
  | none => (definitions, [], some (.mishap .wrongShape))
  | some key =>
    match declared entries key with
    | .ok entry => (definitions.give entries key, [entry], none)
    | .error mishap => (definitions.give entries key, [], some (.mishap mishap))

/-- The refusal of a set that is not declared. It lists the declared ones, whose names have to be
texts. -/
def unknownSet (definitions : Definitions) (name : Key) : Fault :=
  match definitions.names with
  | .error mishap => .mishap mishap
  | .ok names =>
    match names.mapM Value.text? with
    | none => .mishap .wrongShape
    | some available => .refused (.unknownSet name.value.repr available)

/-- Select the current set, which must be declared. -/
def select (definitions : Definitions) (name : Value) : Except Fault Definitions :=
  match name.key? with
  | none => .error (.mishap .wrongShape)
  | some key =>
    if definitions.sets.contains key then .ok { definitions with current := key }
    else .error (definitions.unknownSet key)

/-- The refusal of a definition that is neither in the current set nor in the default one. -/
def unknownDefinition (definitions : Definitions) (name : Key) : Fault :=
  .refused (.unknownDefinition name.value.repr definitions.current.value.repr)

/-- The value of a definition in the current set, or else in the default one. -/
def lookup (definitions : Definitions) (name : Value) : Except Fault Value :=
  match name.key? with
  | none => .error (.mishap .wrongShape)
  | some key =>
    match (definitions.set definitions.current).find? key with
    | some value => .ok value
    | none =>
      match (definitions.set defaultSet).find? key with
      | some value => .ok value
      | none => .error (definitions.unknownDefinition key)

/-- The log entry of a profile that is not there. -/
def skippedEntry (path : String) : LogEntry :=
  ⟨.warning, "No profile found at " ++ Text.quote path ++ ", skipping."⟩

/-- The log entry of a profile that is about to be applied. -/
def applyingEntry (path : String) : LogEntry := ⟨.info, "Applying profile " ++ path ++ "."⟩

mutual

/-- Take a step. The answer has the definitions reached, what was logged, and what stopped the
step. -/
def take (definitions : Definitions) : ProfileStep → Definitions × Log × Option Fault
  | .declare entries name => definitions.declare entries name
  | .select name =>
    match definitions.select name with
    | .ok selected => (selected, [], none)
    | .error fault => (definitions, [], some fault)
  | .apply path none => (definitions, [skippedEntry path], none)
  | .apply path (some steps) =>
    let (reached, log, stop) := run definitions steps
    (reached, applyingEntry path :: log, stop)
  | .raise fault => (definitions, [], some fault)

/-- Take the steps of a profile until one stops it. -/
def run (definitions : Definitions) : List ProfileStep → Definitions × Log × Option Fault
  | [] => (definitions, [], none)
  | step :: rest =>
    match take definitions step with
    | (reached, log, some fault) => (reached, log, some fault)
    | (reached, log, none) =>
      let (final, more, stop) := run reached rest
      (final, log ++ more, stop)

end

end Definitions

end Jobflow
