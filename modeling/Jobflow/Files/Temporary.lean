import Jobflow.World

/-!
# Temporary files

An action may use a path at which there is nothing yet. Whatever it writes there is taken
away once it is over, be it with a value or with a fault.
-/

namespace Jobflow.Action

/-- The name of a temporary file. -/
def temporaryName : String := "hadoopdsl-TEMP"

/-- The path of a temporary file in a folder. -/
def temporaryPath (folder : String) : String := Path.join folder temporaryName

/-- Take away the file at a path, if there is one. -/
def discard (path : String) : Action Unit := modify fun world =>
  match world.tree.find world.folder path with
  | .ok (names, _) => { world with tree := world.tree.remove names }
  | .error _ => world

/-- Use a temporary path. -/
def withTemporary {α : Type} (use : String → Action α) : Action α := do
  let path := temporaryPath (← get).folder
  let result ← (use path).outcome
  discard path
  ofExcept result

end Jobflow.Action
