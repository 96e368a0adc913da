import Jobflow.Proofs.Settings.Entries
import Jobflow.Proofs.Settings.Store

/-!
# What loading settings comes to

Loading a settings file comes to settings exactly if its bytes are text, no entry stops the reader
and none is refused in the end. A file that is malformed otherwise is refused in so many words if
something comes before its first section, or if nothing stops the reader and some entry is refused.
There are three more ways to fail, and these are no refusals: a section is given again, an option
is given again, or the bytes are no text. Nothing else can happen, whatever the bytes are.

Bytes are read in blocks, and lines as they come. So an entry stops the reader before it shows that
the file is no text, if its line is whole and in an earlier block.
-/

namespace Jobflow

namespace Settings

open ReadState (readLines met_nil readLines_cases)

/-- The reader stops as one of the entries says. -/
theorem readLines_eq_error_iff (lines : List (List Char)) (error : ReadError) :
    readLines {} 1 lines = .error error ↔ Halts [] (entries lines) error := by
  rcases readLines_cases met_nil 1 lines with ⟨other, run, halts⟩ | ⟨last, run, passes, -⟩
  · rw [run]
    constructor
    · rintro ⟨⟩
      exact halts
    · intro also
      rw [halts.unique also]
  · rw [run]
    exact ⟨nofun, fun halts => absurd halts (passes error)⟩

/-- The reader passes all entries and keeps the lines of those that are refused in the end. -/
theorem exists_readLines_iff (lines : List (List Char)) :
    (∃ state, readLines {} 1 lines = .ok state) ↔ Passes [] (entries lines) := by
  rcases readLines_cases met_nil 1 lines with ⟨error, run, halts⟩ | ⟨last, run, passes, -⟩
  · rw [run]
    constructor
    · rintro ⟨state, impossible⟩
      cases impossible
    · intro passes
      exact absurd halts (passes error)
  · exact ⟨fun _ => passes, fun _ => ⟨last, run⟩⟩

/-- The lines that are refused in the end are those of the refused entries. -/
theorem malformed_readLines {lines : List (List Char)} {state : ReadState}
    (run : readLines {} 1 lines = .ok state) : state.malformed = refusals (entries lines) := by
  rcases readLines_cases met_nil 1 lines with ⟨error, stopped, -⟩ | ⟨last, passed, -, met⟩
  · rw [stopped] at run
    cases run
  · rw [passed] at run
    cases run
    exact met.malformed

/-- Text is read if no entry stops the reader and none is refused. -/
theorem exists_read_iff (contents : List Char) :
    (∃ settings, read contents = .ok settings) ↔
      Passes [] (entries (fileLines contents)) ∧ refusals (entries (fileLines contents)) = [] := by
  rw [← exists_readLines_iff]
  constructor
  · rintro ⟨settings, run⟩
    obtain ⟨state, lines, clean, -⟩ := (read_eq_ok_iff contents settings).mp run
    exact ⟨⟨state, lines⟩, malformed_readLines lines ▸ clean⟩
  · rintro ⟨⟨state, lines⟩, clean⟩
    exact ⟨state.result, (read_eq_ok_iff contents _).mpr
      ⟨state, lines, (malformed_readLines lines).trans clean, rfl⟩⟩

/-- Text is not read if an entry stops the reader, or else some are refused. -/
theorem read_eq_error_iff (contents : List Char) (error : ReadError) :
    read contents = .error error ↔
      Halts [] (entries (fileLines contents)) error ∨
        Passes [] (entries (fileLines contents)) ∧ refusals (entries (fileLines contents)) ≠ [] ∧
          error = .malformed (refusals (entries (fileLines contents))) := by
  rcases run : readLines {} 1 (fileLines contents) with stop | state
  · have halts := (readLines_eq_error_iff _ _).mp run
    have stopped : read contents = .error stop := by
      rw [read, run]
      rfl
    rw [stopped]
    constructor
    · rintro ⟨⟩
      exact .inl halts
    · rintro (also | ⟨passes, -, -⟩)
      · rw [halts.unique also]
      · exact absurd halts (passes stop)
  · have passes := (exists_readLines_iff _).mp ⟨state, run⟩
    have done : read contents = if state.malformed.isEmpty then .ok state.result
        else .error (.malformed state.malformed) := by
      rw [read, run]
      rfl
    rw [done, malformed_readLines run]
    by_cases clean : refusals (entries (fileLines contents)) = []
    · rw [clean, List.isEmpty_nil, if_pos rfl]
      refine ⟨nofun, ?_⟩
      rintro (halts | ⟨-, refused, -⟩)
      · exact absurd halts (passes error)
      · exact absurd rfl refused
    · rw [if_neg (by rwa [List.isEmpty_iff])]
      constructor
      · rintro ⟨⟩
        exact .inr ⟨passes, clean, rfl⟩
      · rintro (halts | ⟨-, -, rfl⟩)
        · exact absurd halts (passes error)
        · rfl

end Settings

namespace SettingsFile

open Settings

/-- The lines of a file that are read: all of them, or those before it shows that it is no text. -/
def linesOf (file : File) : List (List Char) :=
  match file.characters with
  | .ok cs => fileLines (Text.unifyBreaks cs)
  | .error failure => linesBefore failure file

/-- A file that can be loaded. -/
structure Sound (file : File) : Prop where
  /-- It is text. -/
  text : ∃ cs, file.characters = .ok cs
  /-- No entry stops the reader. -/
  passes : Passes [] (entries (linesOf file))
  /-- No entry is refused. -/
  unrefused : refusals (entries (linesOf file)) = []

/-- What a file at a path cannot be loaded for. Only the first two are refusals. -/
inductive Fails (path : String) (file : File) : Fault → Prop
  /-- Something comes before the first section. -/
  | noSection {number : Nat} {line reason : String}
    (halts : Halts [] (entries (linesOf file)) (.noSection number line))
    (wording : (ReadError.noSection number line).message? path = some reason) :
    Fails path file (.refused (.unreadableSettings path reason))
  /-- Nothing stops the reader, but some entries are refused. -/
  | malformed {reason : String} (text : ∃ cs, file.characters = .ok cs)
    (passes : Passes [] (entries (linesOf file)))
    (refused : refusals (entries (linesOf file)) ≠ [])
    (wording : (ReadError.malformed (refusals (entries (linesOf file)))).message? path =
      some reason) :
    Fails path file (.refused (.unreadableSettings path reason))
  /-- A section is given again. -/
  | repeatedSection {name : String}
    (halts : Halts [] (entries (linesOf file)) (.repeatedSection name)) :
    Fails path file (.mishap .repeatedSection)
  /-- An option is given again. -/
  | repeatedOption {sectionName name : String}
    (halts : Halts [] (entries (linesOf file)) (.repeatedOption sectionName name)) :
    Fails path file (.mishap .repeatedOption)
  /-- Nothing stops the reader before it shows that the file is no text. -/
  | undecodable {failure : Text.Utf8.Failure} (noText : file.characters = .error failure)
    (passes : Passes [] (entries (linesOf file))) :
    Fails path file (.mishap .undecodable)

/-- An error that can be put in words makes a refusal. -/
theorem readFault_of_message {path reason : String} {error : ReadError}
    (wording : error.message? path = some reason) :
    readFault path error = .refused (.unreadableSettings path reason) := by
  cases error with
  | repeatedSection name => cases wording
  | repeatedOption sectionName name => cases wording
  | _ =>
    rw [readFault, wording]
    · rfl
    all_goals nofun

/-- A file is not parsed if an entry stops the reader, be the file text or not. -/
theorem parse_of_halts (path : String) {file : File} {error : ReadError}
    (halts : Halts [] (entries (linesOf file)) error) :
    parse path file = .error (readFault path error) := by
  unfold parse linesOf at *
  cases read : file.characters with
  | ok cs =>
    rw [read] at halts
    have stopped := (read_eq_error_iff (Text.unifyBreaks cs) error).mpr (.inl halts)
    dsimp only
    rw [stopped]
    rfl
  | error failure =>
    rw [read] at halts
    have stopped := (readLines_eq_error_iff (linesBefore failure file) error).mpr halts
    dsimp only
    rw [stopped]

/-- A file that is no text is not parsed even if nothing stops the reader. -/
theorem parse_of_undecodable (path : String) {file : File} {failure : Text.Utf8.Failure}
    (noText : file.characters = .error failure) (passes : Passes [] (entries (linesOf file))) :
    parse path file = .error (.mishap .undecodable) := by
  rw [linesOf, noText] at passes
  obtain ⟨state, passed⟩ := (exists_readLines_iff _).mpr passes
  rw [parse, noText]
  dsimp only
  rw [passed]

/-- Text is not parsed if some entry is refused in the end. -/
theorem parse_of_refused (path : String) {file : File} {cs : List Char}
    (text : file.characters = .ok cs) (passes : Passes [] (entries (linesOf file)))
    (refused : refusals (entries (linesOf file)) ≠ []) :
    parse path file = .error (readFault path (.malformed (refusals (entries (linesOf file))))) := by
  rw [linesOf, text] at passes refused ⊢
  have unread := (read_eq_error_iff (Text.unifyBreaks cs) _).mpr (.inr ⟨passes, refused, rfl⟩)
  rw [parse, text]
  dsimp only
  rw [unread]
  rfl

/-- A sound file is parsed. -/
theorem Sound.parses (path : String) {file : File} (sound : Sound file) :
    ∃ settings, parse path file = .ok settings := by
  obtain ⟨⟨cs, text⟩, passes, unrefused⟩ := sound
  rw [linesOf, text] at passes unrefused
  obtain ⟨settings, read⟩ := (exists_read_iff (Text.unifyBreaks cs)).mpr ⟨passes, unrefused⟩
  rw [parse, text]
  dsimp only
  rw [read]
  exact ⟨settings, rfl⟩

/-- A file that cannot be loaded is not parsed. -/
theorem Fails.parse_eq {path : String} {file : File} {fault : Fault} (fails : Fails path file fault) :
    parse path file = .error fault := by
  cases fails with
  | noSection halts wording =>
    rw [parse_of_halts path halts, readFault_of_message wording]
  | malformed text passes refused wording =>
    obtain ⟨cs, text⟩ := text
    rw [parse_of_refused path text passes refused, readFault_of_message wording]
  | repeatedSection halts => exact parse_of_halts path halts
  | repeatedOption halts => exact parse_of_halts path halts
  | undecodable noText passes => exact parse_of_undecodable path noText passes

/-- A file is sound, or else there is something that it cannot be loaded for. -/
theorem sound_or_fails (path : String) (file : File) :
    Sound file ∨ ∃ fault, Fails path file fault := by
  by_cases passes : Passes [] (entries (linesOf file))
  · cases read : file.characters with
    | error failure => exact .inr ⟨_, .undecodable read passes⟩
    | ok cs =>
      by_cases unrefused : refusals (entries (linesOf file)) = []
      · exact .inl ⟨⟨cs, read⟩, passes, unrefused⟩
      · exact .inr ⟨_, .malformed ⟨cs, read⟩ passes unrefused rfl⟩
  · rw [Passes, not_forall_not] at passes
    obtain ⟨error, halts⟩ := passes
    cases error with
    | noSection number line => exact .inr ⟨_, .noSection halts rfl⟩
    | malformed lines => exact absurd rfl (halts.ne_malformed lines)
    | repeatedSection name => exact .inr ⟨_, .repeatedSection halts⟩
    | repeatedOption sectionName name => exact .inr ⟨_, .repeatedOption halts⟩

/-- A file is parsed exactly if it is sound, and otherwise fails as told. -/
theorem parse_iff (path : String) (file : File) :
    ((∃ settings, parse path file = .ok settings) ↔ Sound file) ∧
      ∀ fault, parse path file = .error fault ↔ Fails path file fault := by
  rcases sound_or_fails path file with sound | ⟨fault, fails⟩
  · obtain ⟨settings, parsed⟩ := sound.parses path
    refine ⟨iff_of_true ⟨settings, parsed⟩ sound, fun fault => ?_⟩
    refine iff_of_false (fun failed => ?_) fun fails => ?_
    · rw [parsed] at failed
      cases failed
    · rw [fails.parse_eq] at parsed
      cases parsed
  · have failed := fails.parse_eq
    refine ⟨iff_of_false ?_ fun sound => ?_, fun other => ?_⟩
    · rintro ⟨settings, parsed⟩
      rw [failed] at parsed
      cases parsed
    · obtain ⟨settings, parsed⟩ := sound.parses path
      rw [failed] at parsed
      cases parsed
    · constructor
      · intro same
        rw [failed] at same
        cases same
        exact fails
      · exact Fails.parse_eq

/-- Loading the settings in a file changes nothing. It comes to settings exactly if the file is
sound, and fails otherwise: with a refusal if something comes before the first section or if an
entry is refused, and with one of three mishaps if a section or an option is given again or the
file is no text. -/
theorem load_outcome (path : Option String) (world : World) {names : List String} {file : File}
    (found : world.tree.find world.folder (place path world.folder) = .ok (names, file))
    (isFile : file ≠ .folder) :
    (load path world).2 = world ∧
      ((∃ settings, (load path world).1 = .ok ⟨place path world.folder, settings⟩) ↔ Sound file) ∧
      ∀ fault, (load path world).1 = .error fault ↔ Fails (place path world.folder) file fault := by
  obtain ⟨parses, fails⟩ := parse_iff (place path world.folder) file
  have inside : contents (place path world.folder) (some file) =
      parse (place path world.folder) file := by
    cases file with
    | folder => exact absurd rfl isFile
    | _ => rfl
  rw [load_apply, found, Except.toOption, Option.map_some, inside]
  dsimp only
  rw [← parses]
  refine ⟨rfl, ?_, fun fault => ?_⟩
  · cases parse (place path world.folder) file with
    | error fault =>
      refine iff_of_false ?_ ?_ <;>
      · rintro ⟨settings, impossible⟩
        cases impossible
    | ok settings => exact iff_of_true ⟨settings, rfl⟩ ⟨settings, rfl⟩
  · rw [← fails]
    cases parse (place path world.folder) file with
    | error other =>
      constructor <;>
      · rintro ⟨⟩
        rfl
    | ok settings =>
      refine iff_of_false ?_ ?_ <;>
      · intro impossible
        cases impossible

/-- A world with a settings file of the given bytes. -/
def holding (bytes : List Nat) : World where
  folder := "/"
  tree := { files := .ofList [("/settings", .bytes bytes)] }

/-- The bytes of two lines that start a section `a`. -/
def sectionTwice : List Nat := [91, 97, 93, 10, 91, 97, 93, 10]

/-- A file that starts a section twice is not refused, but fails otherwise. -/
theorem load_sectionTwice :
    (load (some "settings") (holding sectionTwice)).1 = .error (.mishap .repeatedSection) := by
  have found : (holding sectionTwice).tree.find "/" "settings" =
      .ok (["settings"], .bytes sectionTwice) := rfl
  obtain ⟨-, -, fails⟩ := load_outcome (some "settings") (holding sectionTwice) found nofun
  have read : entries (linesOf (.bytes sectionTwice)) =
      [⟨1, "[a]\n".toList, .header "a"⟩, ⟨2, "[a]\n".toList, .header "a"⟩] := rfl
  have halts : Halts [] (entries (linesOf (.bytes sectionTwice))) (.repeatedSection "a") := by
    rw [read]
    refine .later ?_ (.here (.repeatedSection rfl (by decide) ⟨_, List.mem_singleton_self _, rfl⟩))
    rintro error (⟨⟨⟩⟩ | ⟨-, -, again⟩ | ⟨⟨⟩, -⟩)
    simp at again
  exact (fails _).mpr (.repeatedSection halts)

/-- What loading the settings file stops with, if that is no refusal. -/
def mishapOf (bytes : List Nat) : Option Mishap :=
  match (load (some "settings") (holding bytes)).1 with
  | .error (.mishap mishap) => some mishap
  | _ => none

/-- A section given twice, an option given twice and a byte that is no text are not refused. -/
theorem holding_mishaps :
    mishapOf sectionTwice = some .repeatedSection ∧
      mishapOf [91, 97, 93, 10, 98, 61, 10, 98, 61, 10] = some .repeatedOption ∧
      mishapOf [255] = some .undecodable := by
  decide +kernel

end SettingsFile

end Jobflow
