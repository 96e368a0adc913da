import Jobflow.World

/-!
# Applying profiles

A profile is a file of steps that are taken on definitions. A profile that is not there is
skipped with a warning. When a step stops with an error, those before it have been taken.
-/

namespace Jobflow.Definitions

/-- The steps of the profile that a path leads to: files of other kinds have none, and where
there is no file, or a folder, there is no profile. -/
def profileIn : Option File → Option (List ProfileStep)
  | none | some .folder => none
  | some (.profile steps) => some steps
  | some _ => some []

/-- Apply the profile at a path: the definitions reached, and whether there was a profile,
or else what stopped it. -/
def applyProfile (definitions : Definitions) (path : String) :
    Action (Definitions × Except Fault Bool) := do
  let found := profileIn (← Action.find? path)
  let (reached, entries, stop) := definitions.take (.apply path found)
  Action.logAll entries
  match stop with
  | none => return (reached, .ok found.isSome)
  | some fault => return (reached, .error fault)

end Jobflow.Definitions
