import Jobflow.Project.Module

/-!
# Registered projects

Projects are registered by name, each in place of another one of its name. Loading a module
registers the projects that it makes, and says so in the log.
-/

namespace Jobflow

universe u
variable {α : Type u}

/-- Registered projects, or references to them, and what is known of modules. -/
structure Registry (α : Type u) where
  /-- The projects by name. -/
  projects : OrderedMap α := .empty
  /-- The names of the modules imported so far. -/
  imported : List String := []
  /-- The folders that modules are looked for in. -/
  searchPath : List String := []

namespace Registry

/-- Register projects, in place of others of the same names. -/
def register (registry : Registry α) (loaded : OrderedMap α) : Registry α :=
  { registry with projects := registry.projects.insertAll loaded.entries }

/-- An empty registry, with a further folder to look for modules in first. -/
def opened (registry : Registry α) (folder : String) : Registry α :=
  { registry with projects := .empty, searchPath := folder :: registry.searchPath }

/-- A registry with the projects that another one had, and without a folder to look for modules
in. -/
def closed (registry : Registry α) (folder : String) (previous : OrderedMap α) : Registry α :=
  { registry with projects := previous, searchPath := registry.searchPath.erase folder }

/-- The log entry of importing a module. -/
def importingEntry (place : ModulePlace) : LogEntry :=
  ⟨.debug, "Importing " ++ place.name ++ " from " ++ place.folder ++ "."⟩

/-- The log entry of projects that take the place of others, if there are any. -/
def clashWarning? (path : String) (previous loaded : List String) : Option LogEntry :=
  let clashes := Names.sorted (loaded.filter fun name => previous.contains name)
  if clashes.isEmpty then none
  else some ⟨.warning, "Projects redefined by " ++ path ++ ": " ++ Text.join ", " clashes⟩

/-- The log entry of a loaded module. -/
def loadedEntry (path : String) (loaded : List String) : LogEntry :=
  ⟨.info, "Loaded " ++ toString loaded.length ++ " projects from " ++ path ++ ": " ++
    Text.join ", " (Names.sorted loaded)⟩

end Registry

end Jobflow
