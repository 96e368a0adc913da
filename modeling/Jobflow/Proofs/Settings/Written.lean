import Jobflow.Proofs.Settings.Writable
import Jobflow.Settings.Writer

/-!
# The lines of written settings

A written file falls into the lines of its sections: a line with the name in brackets, the
lines of each option, and an empty line. The lines of an option are those of its value, the
first one after the name and the others behind a tab.
-/

namespace Jobflow.Settings

open Text

/-- The lines of an option. -/
def optionLines (name value : String) : List (List Char) :=
  (name.toList ++ delimiter ++ (valueLines value).headD [] ++ ['\n']) ::
    (valueLines value).tail.map fun line => '\t' :: line ++ ['\n']

/-- The line of the name of a section. -/
def headerLine (name : String) : List Char := '[' :: name.toList ++ [']', '\n']

/-- The lines of a section. -/
def sectionLines (name : String) (options : Section) : List (List Char) :=
  headerLine name :: options.entries.flatMap (fun entry => optionLines entry.1 entry.2.str) ++
    [['\n']]

/-- A value is written line by line, with a tab before each line but the first. -/
theorem flatMap_valueChar (value : List Char) :
    value.flatMap valueChar = ['\n', '\t'].intercalate (value.splitOn '\n') := by
  induction value with
  | nil => rfl
  | cons c rest inductionHypothesis =>
    obtain ⟨first, later, split⟩ := List.exists_cons_of_ne_nil (List.splitOn_ne_nil '\n' rest)
    rw [List.flatMap_cons, inductionHypothesis, List.splitOn_cons_eq_if_modifyHead, split]
    by_cases feed : c = '\n'
    · rw [valueChar, if_pos feed, if_pos (beq_iff_eq.mpr feed), List.intercalate_cons_cons]
      rfl
    · rw [valueChar, if_neg feed, if_neg (by simpa using feed), List.modifyHead_cons,
        List.intercalate_cons_cons_left]
      rfl

/-- Lines written one after the other are the lines of the file. -/
theorem fileLines_intercalate {start first : List Char} {later : List (List Char)}
    (single : '\n' ∉ start) (singles : ∀ line ∈ first :: later, '\n' ∉ line) (rest : List Char) :
    fileLines (start ++ ['\n', '\t'].intercalate (first :: later) ++ '\n' :: rest) =
      (start ++ first ++ ['\n']) ::
        (later.map fun line => '\t' :: line ++ ['\n']) ++ fileLines rest := by
  have together : '\n' ∉ start ++ first := by
    rw [List.mem_append, not_or]
    exact ⟨single, singles first List.mem_cons_self⟩
  induction later generalizing start first with
  | nil => rw [List.intercalate_singleton, fileLines_append together]; rfl
  | cons next later inductionHypothesis =>
    have split : start ++ ['\n', '\t'].intercalate (first :: next :: later) ++ '\n' :: rest =
        (start ++ first) ++
          '\n' :: (['\t'] ++ ['\n', '\t'].intercalate (next :: later) ++ '\n' :: rest) := by
      rw [List.intercalate_cons_cons]
      simp only [List.append_assoc, List.cons_append, List.nil_append]
    have nextSingle : '\n' ∉ ['\t'] ++ next := by
      rw [List.mem_append, not_or]
      exact ⟨by decide, singles next (by simp)⟩
    rw [split, fileLines_append together, inductionHypothesis (by decide)
      (fun line member => singles line (List.mem_cons_of_mem first member)) nextSingle]
    rfl

/-- A written option falls into its lines. -/
theorem fileLines_writeOption {name : String} (single : '\n' ∉ name.toList) (value : Value)
    (rest : List Char) :
    fileLines (writeOption name value ++ rest) = optionLines name value.str ++ fileLines rest := by
  obtain ⟨first, later, split⟩ :=
    List.exists_cons_of_ne_nil (List.splitOn_ne_nil '\n' value.str.toList)
  have start : '\n' ∉ name.toList ++ delimiter := by
    rw [List.mem_append, not_or]
    exact ⟨single, by decide⟩
  have singles : ∀ line ∈ first :: later, '\n' ∉ line := by
    rw [← split]
    exact fun line member => not_mem_of_mem_splitOn member
  rw [writeOption, flatMap_valueChar, optionLines, valueLines, split]
  exact (congrArg fileLines (List.append_assoc _ _ _)).trans
    (fileLines_intercalate start singles rest)

/-- Written options fall into their lines. -/
theorem fileLines_writeOptions {entries : List (String × Value)}
    (singles : ∀ entry ∈ entries, '\n' ∉ entry.1.toList) (rest : List Char) :
    fileLines (entries.flatMap (fun (name, value) => writeOption name value) ++ rest) =
      entries.flatMap (fun entry => optionLines entry.1 entry.2.str) ++ fileLines rest := by
  induction entries with
  | nil => rfl
  | cons entry entries inductionHypothesis =>
    rw [List.flatMap_cons, List.append_assoc,
      fileLines_writeOption (singles entry List.mem_cons_self), List.flatMap_cons,
      List.append_assoc, inductionHypothesis fun other member =>
        singles other (List.mem_cons_of_mem entry member)]

/-- A written section falls into its lines. -/
theorem fileLines_writeSection {name : String} {options : Section} (single : '\n' ∉ name.toList)
    (writable : SectionWritable options) (rest : List Char) :
    fileLines (writeSection name options ++ rest) =
      sectionLines name options ++ fileLines rest := by
  have singles : ∀ entry ∈ options.entries, '\n' ∉ entry.1.toList := by
    intro entry member feed
    obtain ⟨value, -, option⟩ := writable entry member
    exact option.whole.2.2.1 feed
  have header : '\n' ∉ '[' :: name.toList ++ [']'] := by
    simpa using single
  have split : writeSection name options ++ rest =
      ('[' :: name.toList ++ [']']) ++ '\n' ::
        (options.entries.flatMap (fun (name, value) => writeOption name value) ++
          ([] ++ '\n' :: rest)) := by
    simp only [writeSection, List.append_assoc, List.cons_append, List.nil_append]
  rw [split, fileLines_append header, fileLines_writeOptions singles,
    fileLines_append List.not_mem_nil]
  simp only [sectionLines, headerLine, List.append_assoc, List.cons_append, List.nil_append]

/-- Written sections fall into their lines. -/
theorem fileLines_writeSections {entries : List (String × Section)}
    (writable : ∀ entry ∈ entries, WritableHeader entry.1 ∧ SectionWritable entry.2) :
    fileLines (entries.flatMap fun (name, options) => writeSection name options) =
      entries.flatMap fun entry => sectionLines entry.1 entry.2 := by
  induction entries with
  | nil => rfl
  | cons entry entries inductionHypothesis =>
    obtain ⟨header, options⟩ := writable entry List.mem_cons_self
    rw [List.flatMap_cons,
      fileLines_writeSection header.single.1 options,
      List.flatMap_cons, inductionHypothesis fun other member =>
        writable other (List.mem_cons_of_mem entry member)]

/-! ## Carriage returns -/

/-- An option that can be written is written without carriage returns. -/
theorem not_mem_writeOption {name value : String} (writable : Writable name value) :
    '\r' ∉ writeOption name (.text value) := by
  intro returned
  simp only [writeOption, List.append_assoc, List.mem_append, List.mem_flatMap] at returned
  rcases returned with inName | inDelimiter | ⟨c, member, inside⟩ | feed
  · exact writable.whole.2.2.2 inName
  · exact absurd inDelimiter (by decide)
  · unfold valueChar at inside
    split at inside
    · exact absurd inside (by decide)
    · rw [← List.mem_singleton.mp inside] at member
      exact writable.unreturned member
  · exact absurd feed (by decide)

/-- A section that can be written is written without carriage returns. -/
theorem not_mem_writeSection {name : String} {options : Section} (unreturned : '\r' ∉ name.toList)
    (writable : SectionWritable options) : '\r' ∉ writeSection name options := by
  intro returned
  simp only [writeSection, List.append_assoc, List.cons_append, List.mem_cons, List.mem_append,
    List.mem_flatMap, List.not_mem_nil, or_false, false_or] at returned
  rcases returned with bracket | inName | bracket | feed | ⟨⟨option, kept⟩, member, inside⟩ | feed
  · exact absurd bracket (by decide)
  · exact unreturned inName
  · exact absurd bracket (by decide)
  · exact absurd feed (by decide)
  · obtain ⟨value, rfl, optionWritable⟩ := writable (option, kept) member
    exact not_mem_writeOption optionWritable inside
  · exact absurd feed (by decide)

/-- Settings that can be written are written without carriage returns. -/
theorem not_mem_write {settings : Settings} (writable : settings.AllWritable) :
    '\r' ∉ settings.write := by
  intro returned
  rw [write, List.mem_append, List.mem_flatMap] at returned
  rcases returned with inDefaults | ⟨⟨name, options⟩, member, inside⟩
  · split at inDefaults
    · cases inDefaults
    · exact not_mem_writeSection (by decide) writable.defaults inDefaults
  · obtain ⟨header, section_⟩ := writable.sections (name, options) member
    exact not_mem_writeSection header.single.2 section_ inside

end Jobflow.Settings
