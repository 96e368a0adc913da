import Jobflow.Names
import Jobflow.PropertyFile

/-!
# Jobs

A job has a type, options, dependencies on other nodes of its workflow, parameters that it
requires, an optional condition, and property files that it inherits from. Options are
merged from nested mappings; among them `type` sets the type and `dependencies` adds
dependencies, and neither stays an option.

Some classes of jobs start from a main argument (a command, a script, a class name) and
collect their Java arguments into one option.
-/

namespace Jobflow

open Text (startsWith join)

/-- The classes of jobs. -/
inductive JobClass
  /-- A job of any type. -/
  | plain
  /-- A job that does nothing. -/
  | noop
  /-- A job that runs commands. -/
  | command
  /-- A job that runs a Pig script. -/
  | pig
  /-- A job that runs a Java class. -/
  | hadoopJava
deriving DecidableEq, Repr

/-- The name of a class of jobs. -/
def JobClass.name : JobClass → String
  | .plain => "Job"
  | .noop => "NoopJob"
  | .command => "CommandJob"
  | .pig => "PigJob"
  | .hadoopJava => "HadoopJavaJob"

/-- The type that jobs of a class start with. -/
def JobClass.initialType : JobClass → Value
  | .plain => .null
  | .noop => .text "noop"
  | .command => .text "command"
  | .pig => .text "pig"
  | .hadoopJava => .text "hadoopJava"

/-- A job, not yet named: the same one can be added under several names. -/
structure Job where
  /-- The class. -/
  jobClass : JobClass
  /-- The type; a value that counts as empty is none. -/
  type : Value
  /-- The options. -/
  options : Properties := .empty
  /-- The names of the nodes it depends on, without repetition. -/
  dependencies : Names.Distinct := .empty
  /-- The names of the parameters that need a value, without repetition. -/
  required : Names.Distinct := .empty
  /-- The condition under which it is run. -/
  condition : Option String := none
  /-- The property files it inherits from, later ones overriding earlier ones. -/
  propertyFiles : List PropertyFile := []

namespace Job

/-- A job of a class without any options. -/
def ofClass (jobClass : JobClass) : Job := { jobClass, type := jobClass.initialType }

/-- The quoted form of a job. -/
def repr (job : Job) : String := "<" ++ job.jobClass.name ++ "(type=" ++ job.type.repr ++ ")>"

/-- Declare dependencies on other nodes; repeated ones are ignored. -/
def depends (job : Job) (names : List String) : Job :=
  { job with dependencies := job.dependencies.addAll names }

/-- Declare required parameters; repeated ones are ignored. -/
def require (job : Job) (names : List String) : Job :=
  { job with required := job.required.addAll names }

/-- Inherit from a further property file. -/
def addPropertyFile (job : Job) (file : PropertyFile) : Job :=
  { job with propertyFiles := job.propertyFiles ++ [file] }

/-- The names in a list of values. -/
def namesOf (items : List Value) : Except Mishap (List String) :=
  items.mapM fun item =>
    match item with
    | .text name => .ok name
    | _ => .error .wrongShape

/-- The names that a `dependencies` option stands for: a comma separated text, or a list or
tuple; an empty value stands for none. -/
def dependencyNames (value : Value) : Except Mishap (List String) :=
  match value with
  | .text names => .ok (if names.isEmpty then [] else Names.split names)
  | .list _ items | .tuple _ items => namesOf items
  | other => if other.truthy then .error .wrongShape else .ok []

/-- Set options from sources, later ones overriding earlier ones. The type is set even
when the dependencies turn out not to be names, which stops the setting. -/
def set (job : Job) (sources : List Entries) : Job × Option Mishap :=
  let options := Properties.ofSources sources
  let newType := (options.find? "type").getD .null
  let typed := if newType.truthy then { job with type := newType } else job
  match dependencyNames ((options.find? "dependencies").getD .null) with
  | .error mishap => (typed, some mishap)
  | .ok names =>
    let rest := (options.erase "type").erase "dependencies"
    let joined := typed.depends names
    ({ joined with options := joined.options.merge [rest.entries] }, none)

/-- The properties visible to a job inside enclosing scopes: its property files override
what it inherits, and its own options override both. -/
def resolve (job : Job) (inherited : List Entries) : Properties :=
  Properties.ofSources
    (inherited ++ job.propertyFiles.map (·.properties.entries) ++ [job.options.entries])

/-- Join the items of a list or tuple option into one text, each written by a template. Texts
and empty values stay as they are. -/
def joinOption (job : Job) (option separator template : String) : Except Fault Job :=
  match job.options.find? option with
  | none | some (.text _) => .ok job
  | some value =>
    match value.sequence? with
    | none => if value.truthy then .error (.mishap .wrongShape) else .ok job
    | some items =>
      if items.isEmpty then .ok job
      else do
        let texts ← items.mapM fun item =>
          (Template.fill template [item]).mapError TemplateError.fault
        return { job with options := job.options.insert option (.text (join separator texts)) }

/-- The start of the keys that belong to an option: its name without dots at the end, and
one dot. -/
def keyStart (option : String) : String := option ++ "."

/-- An option name without dots at its end. -/
def optionName (name : String) : String :=
  String.ofList (Text.dropEndWhile (· == '.') name.toList)

/-- The options below an option: for each, what follows the option's name and a dot in its
key, and its value. -/
def below (options : Properties) (option : String) : List (String × Value) :=
  (options.entries.filter fun entry => startsWith entry.1 (keyStart option)).map
    fun (key, value) => (String.ofList (key.toList.drop (keyStart option).length), value)

/-- Entries in increasing order of their keys. -/
def sortedByKey (entries : List (String × Value)) : List (String × Value) :=
  entries.mergeSort fun a b => !decide (b.1 < a.1)

/-- Join the options below an option into one text, in the order of their keys, each
written by a template from what follows the option's name and the value. The options are
taken out even when the template cannot be filled, which leaves nothing in their place. -/
def joinBelow (job : Job) (name separator template : String) : Job × Option Fault :=
  let option := optionName name
  let found := below job.options option
  let rest := job.options.filter fun key _ => !startsWith key (keyStart option)
  let taken := { job with options := rest }
  if found.isEmpty then (taken, none)
  else
    let texts := (sortedByKey found).mapM fun (suffix, value) =>
      Template.fill template [.text suffix, value]
    match texts with
    | .ok texts =>
      ({ taken with options := rest.insert option (.text (join separator texts)) }, none)
    | .error failure => (taken, some failure.fault)

/-- The option that Java arguments are collected in. -/
def javaArguments : String := "jvm.args"

/-- Collect the Java arguments into one option. -/
def collectJavaArguments (job : Job) : Except Fault Job :=
  match job.joinBelow javaArguments " " "-D%s=%s" with
  | (job, none) => .ok job
  | (_, some fault) => .error fault

/-- The commands of a main argument: a text is one command, a list or tuple several, and a
mapping stands for its keys. -/
def commands (main : Value) : Except Fault (List Value) :=
  match main with
  | .text command => .ok [.text command]
  | .list _ items | .tuple _ items => .ok items
  | .map _ entries => .ok (entries.map fun entry => .text entry.1)
  | _ => .error (.mishap .wrongShape)

/-- The option that holds a command at a place in the order of commands. -/
def commandKey (index : Nat) : String :=
  if index = 0 then "command" else "command." ++ toString index

/-- Apply the main argument of a job's class. -/
def applyMain (job : Job) (main : Value) : Except Fault Job :=
  match job.jobClass with
  | .plain | .noop => .ok job
  | .command => do
    let found ← commands main
    let entries := found.mapIdx fun index command => (commandKey index, command)
    return { job with options := job.options.insertAll entries }
  | .pig =>
    match main with
    | .text script =>
      collectJavaArguments
        { job with options := job.options.insert "pig.script" (.text (Text.dropSlashes script)) }
    | _ => .error (.mishap .missingOperation)
  | .hadoopJava => do
    let job ← collectJavaArguments { job with options := job.options.insert "job.class" main }
    job.joinOption "classpath" "," "%s"

/-- What a job is made of. -/
structure Spec where
  /-- The class. -/
  jobClass : JobClass := .plain
  /-- The main argument of the class. -/
  main : Value := .null
  /-- The sources of the options. -/
  options : List Value := []
  /-- Dependencies beside those among the options. -/
  dependencies : List String := []
  /-- Required parameters. -/
  required : List String := []
  /-- The condition. -/
  condition : Option String := none
  /-- Property files. -/
  propertyFiles : List PropertyFile := []

/-- Make a job. -/
def ofSpec (spec : Spec) : Except Fault Job := do
  let sources ← (spec.options.mapM entriesOf).mapError .mishap
  match ({ ofClass spec.jobClass with condition := spec.condition }).set sources with
  | (_, some mishap) => throw (.mishap mishap)
  | (job, none) =>
    let job := (job.depends spec.dependencies).require spec.required
    { job with propertyFiles := spec.propertyFiles }.applyMain spec.main

end Job

end Jobflow
