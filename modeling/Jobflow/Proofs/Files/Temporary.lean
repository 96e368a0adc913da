import Jobflow.Files.Temporary
import Jobflow.Proofs.Action
import Jobflow.Proofs.Files.FileTree

/-!
# Temporary files are taken away

Whatever an action does with a temporary path, and whether it comes to a value or stops, there is
nothing at the path afterwards. That needs no assumption on what was there before: a temporary
path ends in a name of its own, so that it never leads to the root, the only folder that cannot be
taken away.
-/

namespace Jobflow

/-- The path of a temporary file ends in its name. -/
theorem FileTree.endsIn_temporaryPath (here folder : String) :
    EndsIn here (Action.temporaryPath folder) Action.temporaryName :=
  endsIn_join (by decide) (by decide) here folder

namespace Action

open FileTree

/-- A world whose file at a path was taken away, if there was one. -/
def discarded (path : String) (world : World) : World :=
  match world.tree.find world.folder path with
  | .ok (names, _) => { world with tree := world.tree.remove names }
  | .error _ => world

/-- Using a temporary path comes to what the use comes to, and the file is taken away. -/
theorem withTemporary_apply {α : Type} (use : String → Action α) (world : World) :
    withTemporary use world =
      ((use (temporaryPath world.folder) world).1,
        discarded (temporaryPath world.folder) (use (temporaryPath world.folder) world).2) := by
  have present : (get : Action World) world = (.ok world, world) := rfl
  rw [withTemporary, bind_of_ok _ present]
  rcases used : use (temporaryPath world.folder) world with ⟨result, after⟩
  have kept : (use (temporaryPath world.folder)).outcome world = (.ok result, after) := by
    rw [outcome, used]
  rw [bind_of_ok _ kept]
  cases result <;> rfl

/-- Taking a file away leaves all but the files. -/
theorem discarded_eq (path : String) (world : World) :
    discarded path world = { world with tree := (discarded path world).tree } := by
  unfold discarded
  split <;> rfl

/-- Nothing is left at a temporary path. -/
theorem hasPath_discarded (folder : String) (world : World) :
    (discarded (temporaryPath folder) world).tree.hasPath world.folder (temporaryPath folder) =
      false := by
  unfold discarded
  split
  · next place file found =>
    obtain ⟨above, rfl⟩ := exists_concat_of_find (endsIn_temporaryPath world.folder folder) found
    exact hasPath_remove found (List.concat_ne_nil _ _)
  · next mishap missing => rw [hasPath, missing]; rfl

end Action

end Jobflow
