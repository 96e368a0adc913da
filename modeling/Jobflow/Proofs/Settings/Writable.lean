import Jobflow.Proofs.OrderedMap
import Jobflow.Proofs.Settings.Lines
import Jobflow.Proofs.Text.Lowercase

/-!
# Settings that can be written

An option can be written if its line gives it back: its name is not divided by `=` or `:`,
neither starts a comment nor a section, and no white space stands at its ends; the value has no
carriage return, and none of its lines has white space at its ends or would be passed over as a
comment.

Whatever the reader accepts can be written. That says what no file gives: an option whose name
holds an equals sign, or a value with a carriage return. The invariant is kept by every line;
what is kept of an option is the list of the lines of its value.
-/

namespace Jobflow.Settings

open Text
open ReadState (isComment)

/-! ## Options that can be written -/

/-- The lines of a value. -/
def valueLines (value : String) : List (List Char) := value.toList.splitOn '\n'

/-- What stands between name and value. -/
def delimiter : List Char := [' ', '=', ' ']

/-- The name of an option can be written. -/
structure WritableName (name : String) : Prop where
  /-- There is a name. -/
  named : name.toList ≠ []
  /-- It is in small letters. -/
  small : optionName name = name
  /-- No white space stands at its ends. -/
  bare : Bare name.toList
  /-- Nothing divides it or ends its line. -/
  whole : '=' ∉ name.toList ∧ ':' ∉ name.toList ∧ '\n' ∉ name.toList ∧ '\r' ∉ name.toList
  /-- It starts no comment. -/
  uncommented : isComment name.toList = false

/-- An option with its value can be written. -/
structure Writable (name value : String) : Prop extends WritableName name where
  /-- Nothing in the value is taken for the end of a line besides line feeds. -/
  unreturned : '\r' ∉ value.toList
  /-- No white space stands at the ends of lines. -/
  bareLines : ∀ line ∈ valueLines value, Bare line
  /-- No line is a comment; the first one follows the name. -/
  plainLines : ∀ line ∈ (valueLines value).tail, isComment line = false
  /-- The value ends with no white space. -/
  ended : trimRight value.toList = value.toList
  /-- The first line does not start a section. -/
  noHeader : header? (name.toList ++ delimiter ++ (valueLines value).headD []) = none

instance (name : String) : Decidable (WritableName name) :=
  decidable_of_iff (name.toList ≠ [] ∧ optionName name = name ∧ Bare name.toList ∧
      ('=' ∉ name.toList ∧ ':' ∉ name.toList ∧ '\n' ∉ name.toList ∧ '\r' ∉ name.toList) ∧
      isComment name.toList = false)
    ⟨fun ⟨named, small, bare, whole, uncommented⟩ => ⟨named, small, bare, whole, uncommented⟩,
      fun ⟨named, small, bare, whole, uncommented⟩ => ⟨named, small, bare, whole, uncommented⟩⟩

instance (name value : String) : Decidable (Writable name value) :=
  decidable_of_iff (WritableName name ∧ '\r' ∉ value.toList ∧
      (∀ line ∈ valueLines value, Bare line) ∧
      (∀ line ∈ (valueLines value).tail, isComment line = false) ∧
      trimRight value.toList = value.toList ∧
      header? (name.toList ++ delimiter ++ (valueLines value).headD []) = none)
    ⟨fun ⟨name, unreturned, bare, plain, ended, noHeader⟩ =>
      ⟨name, unreturned, bare, plain, ended, noHeader⟩,
      fun ⟨name, unreturned, bare, plain, ended, noHeader⟩ =>
      ⟨name, unreturned, bare, plain, ended, noHeader⟩⟩

/-- The name of an option that can be written is not empty. -/
theorem WritableName.isEmpty_eq {name : String} (writable : WritableName name) :
    name.isEmpty = false := by
  rw [Bool.eq_false_iff, Ne, String.isEmpty_iff]
  rintro rfl
  exact writable.named rfl

/-- All options of a section can be written, and hold texts. -/
def SectionWritable (options : Section) : Prop :=
  ∀ entry ∈ options.entries, ∃ value, entry.2 = .text value ∧ Writable entry.1 value

/-- The name of a section can be written; the section of defaults is none of the sections. -/
structure WritableHeader (name : String) : Prop where
  /-- There is a name. -/
  named : name.toList ≠ []
  /-- It is not that of the defaults. -/
  distinct : name ≠ defaultSection
  /-- It does not end its line. -/
  single : '\n' ∉ name.toList ∧ '\r' ∉ name.toList

/-- All sections and options can be written. -/
structure AllWritable (settings : Settings) : Prop where
  /-- The defaults. -/
  defaults : SectionWritable settings.defaults
  /-- The sections. -/
  sections : ∀ entry ∈ settings.sections.entries, WritableHeader entry.1 ∧ SectionWritable entry.2

/-! ## What the reader keeps of an option -/

/-- The lines kept of a value are those of an option that can be written. -/
structure Kept (name : String) (lines : List String) : Prop extends WritableName name where
  /-- There is a line. -/
  begun : lines ≠ []
  /-- No white space stands at the ends of lines. -/
  bareLines : ∀ line ∈ lines, Bare line.toList
  /-- Nothing ends a line within it. -/
  single : ∀ line ∈ lines, ∀ c ∈ line.toList, c ≠ '\n' ∧ c ≠ '\r'
  /-- No later line is a comment. -/
  plainLines : ∀ line ∈ lines.tail, isComment line.toList = false
  /-- The first line does not start a section. -/
  noHeader : header? (name.toList ++ delimiter ++ (lines.headD "").toList) = none

/-- A line can be added to those of a value. -/
theorem Kept.extend {name line : String} {lines : List String} (kept : Kept name lines)
    (bare : Bare line.toList) (single : ∀ c ∈ line.toList, c ≠ '\n' ∧ c ≠ '\r')
    (plain : isComment line.toList = false) : Kept name (lines ++ [line]) where
  toWritableName := kept.toWritableName
  begun := List.append_ne_nil_of_left_ne_nil kept.begun _
  bareLines := by
    intro other member
    rcases List.mem_append.mp member with old | new
    · exact kept.bareLines other old
    · rw [List.mem_singleton.mp new]
      exact bare
  single := by
    intro other member
    rcases List.mem_append.mp member with old | new
    · exact kept.single other old
    · rw [List.mem_singleton.mp new]
      exact single
  plainLines := by
    intro other member
    rw [List.tail_append_of_ne_nil kept.begun] at member
    rcases List.mem_append.mp member with old | new
    · exact kept.plainLines other old
    · rw [List.mem_singleton.mp new]
      exact plain
  noHeader := by
    obtain ⟨first, later, split⟩ := List.exists_cons_of_ne_nil kept.begun
    have same := kept.noHeader
    rw [split] at same ⊢
    exact same

/-- A text follows others. -/
theorem intercalate_concat (separator first last : List Char) (lines : List (List Char)) :
    separator.intercalate (first :: (lines ++ [last])) =
      separator.intercalate (first :: lines) ++ separator ++ last := by
  induction lines generalizing first with
  | nil => rw [List.nil_append, List.intercalate_cons_cons, List.intercalate_singleton,
      List.intercalate_singleton]
  | cons next lines inductionHypothesis =>
    rw [List.cons_append, List.intercalate_cons_cons, inductionHypothesis,
      List.intercalate_cons_cons]
    simp only [List.append_assoc]

/-- The characters of texts in a row are those of the texts and of what separates them. -/
theorem mem_intercalate {c : Char} {separator : List Char} {lines : List (List Char)}
    (member : c ∈ separator.intercalate lines) : c ∈ separator ∨ ∃ line ∈ lines, c ∈ line := by
  induction lines using List.reverseRecOn with
  | nil => cases member
  | append_singleton before last inductionHypothesis =>
    cases before with
    | nil =>
      rw [List.nil_append, List.intercalate_singleton] at member
      exact Or.inr ⟨last, List.mem_singleton_self last, member⟩
    | cons first lines =>
      rw [List.cons_append, intercalate_concat, List.mem_append, List.mem_append] at member
      rcases member with (earlier | between) | here
      · obtain separates | ⟨line, known, inside⟩ := inductionHypothesis earlier
        · exact Or.inl separates
        · exact Or.inr ⟨line, List.mem_append_left _ known, inside⟩
      · exact Or.inl between
      · exact Or.inr ⟨last, by simp, here⟩

/-- Empty lines at the end of a value do not count. -/
theorem exists_trimRight_intercalate (first : List Char) (later : List (List Char))
    (bare : ∀ line ∈ first :: later, Bare line) :
    ∃ counted, counted <+: later ∧
      trimRight (['\n'].intercalate (first :: later)) = ['\n'].intercalate (first :: counted) := by
  induction later using List.reverseRecOn with
  | nil =>
    refine ⟨[], List.prefix_refl [], ?_⟩
    rw [List.intercalate_singleton]
    exact trimRight_of_ends (bare first List.mem_cons_self).ends
  | append_singleton before last inductionHypothesis =>
    by_cases empty : last = []
    · obtain ⟨counted, start, same⟩ := inductionHypothesis fun line member =>
        bare line (List.mem_cons.mpr ((List.mem_cons.mp member).imp_right
          (List.mem_append_left _)))
      refine ⟨counted, start.trans (List.prefix_append before [last]), ?_⟩
      rw [intercalate_concat, empty, List.append_nil, trimRight_append (by decide), same]
    · refine ⟨before ++ [last], List.prefix_refl _, trimRight_of_ends ?_⟩
      intro c final
      rw [intercalate_concat, List.getLast?_append_of_ne_nil _ empty] at final
      exact (bare last (by simp)).ends c final

/-- The option whose lines were kept can be written. -/
theorem Kept.writable {name : String} {lines : List String} (kept : Kept name lines) :
    ∃ value, joinValue lines = .text value ∧ Writable name value := by
  obtain ⟨first, later, rfl⟩ := List.exists_cons_of_ne_nil kept.begun
  have bare : ∀ line ∈ first.toList :: later.map String.toList, Bare line := by
    rw [← List.map_cons]
    exact List.forall_mem_map.mpr kept.bareLines
  obtain ⟨counted, start, trimmed⟩ := exists_trimRight_intercalate _ _ bare
  have among : ∀ line ∈ first.toList :: counted, line ∈ first.toList :: later.map String.toList :=
    fun line member => List.mem_cons.mpr ((List.mem_cons.mp member).imp_right start.mem)
  have singles : ∀ line ∈ first.toList :: counted, ∀ c ∈ line, c ≠ '\n' ∧ c ≠ '\r' := by
    intro line member
    have whole := among line member
    rw [← List.map_cons] at whole
    obtain ⟨text, known, rfl⟩ := List.mem_map.mp whole
    exact kept.single text known
  refine ⟨String.ofList (['\n'].intercalate (first.toList :: counted)), ?_, ?_⟩
  · have joined : (join "\n" (first :: later)).toList =
        ['\n'].intercalate (first.toList :: later.map String.toList) := String.toList_intercalate
    rw [joinValue, joined, trimmed]
  · have split : valueLines (String.ofList (['\n'].intercalate (first.toList :: counted))) =
        first.toList :: counted := by
      rw [valueLines, String.toList_ofList]
      exact List.splitOn_intercalate '\n'
        (fun line member feed => (singles line member '\n' feed).1 rfl) (List.cons_ne_nil _ _)
    exact
      { toWritableName := kept.toWritableName
        unreturned := by
          rw [String.toList_ofList]
          intro returned
          obtain separates | ⟨line, member, inside⟩ := mem_intercalate returned
          · exact absurd separates (by decide)
          · exact (singles line member '\r' inside).2 rfl
        bareLines := by
          rw [split]
          exact fun line member => bare line (among line member)
        plainLines := by
          rw [split]
          intro line member
          obtain ⟨text, known, rfl⟩ := List.mem_map.mp (start.mem member)
          exact kept.plainLines text known
        ended := by
          rw [String.toList_ofList, ← trimmed]
          exact trimRight_of_ends (ends_trimRight _)
        noHeader := by
          rw [split]
          exact kept.noHeader }

end Jobflow.Settings
