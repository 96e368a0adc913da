import Jobflow.Proofs.Files.FileTree
import Jobflow.Proofs.Session.Call
import Jobflow.Proofs.Settings.RoundTrip
import Jobflow.Settings.Store

/-!
# Settings on disk read back

Settings that are loaded from a file can be written, whatever the file holds; and settings that
can be written are loaded as they were saved.
-/

namespace Jobflow.SettingsFile

open Settings

/-- The path of settings: the given one, or else the usual one in the home folder. -/
def place (path : Option String) (folder : String) : String :=
  match path with
  | some path => if path.isEmpty then Path.join folder defaultName else path
  | none => Path.join folder defaultName

/-- The settings in what a path leads to, if it leads to anything. -/
def contents (path : String) : Option File → Except Fault Settings
  | none | some .folder => .ok {}
  | some file => parse path file

/-- Loading reads what is at the path, and changes nothing. -/
theorem load_apply (path : Option String) (world : World) :
    load path world =
      ((contents (place path world.folder)
        ((world.tree.find world.folder (place path world.folder)).toOption.map Prod.snd)).map
          (SettingsFile.mk (place path world.folder)), world) := by
  show (Action.find? (place path world.folder) >>= fun found => _) world = _
  rw [Action.bind_of_ok _ (Action.find?_apply (place path world.folder) world)]
  rcases (world.tree.find world.folder (place path world.folder)).toOption.map Prod.snd with _ | file
  · rfl
  · have parsed : ∀ result : Except Fault Settings,
        (do return ⟨place path world.folder, ← Action.ofExcept result⟩ : Action SettingsFile) world =
          (result.map (SettingsFile.mk (place path world.folder)), world) := by
      intro result
      cases result <;> rfl
    cases file with
    | folder => rfl
    | _ => exact parsed _

/-- Settings in a file can be written. -/
theorem allWritable_of_contents {path : String} {found : Option File} {settings : Settings}
    (run : contents path found = .ok settings) : settings.AllWritable := by
  have nothing : AllWritable {} :=
    ⟨fun entry none => (by cases none), fun entry none => (by cases none)⟩
  unfold contents at run
  split at run
  · cases run
    exact nothing
  · cases run
    exact nothing
  · next file _ =>
    unfold parse at run
    split at run
    · next characters _ =>
      cases done : Settings.read (Text.unifyBreaks characters) with
      | error error =>
        rw [done] at run
        cases run
      | ok read =>
        rw [done] at run
        cases run
        exact allWritable_of_read (Text.not_mem_unifyBreaks characters) done
    · split at run
      · cases run
      · cases run

/-- Settings that were loaded have their path, and are what is there; the world stays. -/
theorem of_load {path : Option String} {world after : World} {file : SettingsFile}
    (loaded : load path world = (.ok file, after)) :
    file.path = place path world.folder ∧ after = world ∧
      contents (place path world.folder)
        ((world.tree.find world.folder (place path world.folder)).toOption.map Prod.snd) =
          .ok file.settings := by
  rw [load_apply] at loaded
  cases found : contents (place path world.folder)
      ((world.tree.find world.folder (place path world.folder)).toOption.map Prod.snd) with
  | error fault =>
    rw [found] at loaded
    cases loaded
  | ok settings =>
    rw [found] at loaded
    cases loaded
    exact ⟨rfl, rfl, rfl⟩

/-- Loading that comes to settings leaves the world as it is. -/
theorem exists_load {path : Option String} {world : World}
    (loads : (load path world).1.toBool = true) : ∃ file, load path world = (.ok file, world) := by
  rcases loaded : load path world with ⟨_ | file, after⟩
  · rw [loaded] at loads
    cases loads
  · obtain ⟨-, rfl, -⟩ := of_load loaded
    exact ⟨file, rfl⟩

/-- Settings that were loaded can be written. -/
theorem allWritable_of_load {path : Option String} {world after : World} {file : SettingsFile}
    (loaded : load path world = (.ok file, after)) : file.settings.AllWritable :=
  allWritable_of_contents (of_load loaded).2.2

/-- Settings that can be written are loaded as they were written. -/
theorem load_of_write {path : Option String} {world : World} {before : FileTree}
    {settings : Settings} (writable : settings.AllWritable)
    (written : before.write world.folder (place path world.folder)
      (.text (String.ofList settings.write)) = .ok world.tree) :
    load path world = (.ok ⟨place path world.folder, settings⟩, world) := by
  obtain ⟨names, found⟩ := FileTree.find_write written
  have parsed : parse (place path world.folder) (.text (String.ofList settings.write)) =
      .ok settings := by
    rw [parse, File.characters, String.toList_ofList]
    dsimp only
    rw [Text.unifyBreaks_of_not_mem (not_mem_write writable), read_write writable]
    rfl
  have known : contents (place path world.folder)
      (some (.text (String.ofList settings.write))) = .ok settings := parsed
  rw [load_apply, found, Except.toOption, Option.map_some, known]
  rfl

end Jobflow.SettingsFile
